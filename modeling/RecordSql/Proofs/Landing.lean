import RecordSql.Proofs.Coherence

/-!
# Where the cells of a row land

A record that is filled through its fields holds exactly the row. Each cell is coerced and converted
to the type of its column's field, the last one of a field counts, and fields without a cell keep
what they hold. If anything is wrong with the row, the first thing that is wrong is the error.

* `Storage.land`: what a field of the type holds for a cell.
* `Model.Maps`, `Model.Takes`: the place of a column, and the cells that are taken there.
* `Model.Fillable`: the rows that can be filled in.
* `Model.Writes`: a record holds the cells, and is else as it was before.
* `Direct.Landing`: the ways in which filling a record can go, in the order of what is looked at.
* `Model.Describes.store_fault`, `Model.Describes.store_writes`: a row is refused for its first cell
  that does not fit, or it is taken whole and written.
* `Registry.Reachable.populate_lands`: **filling goes one of these ways**, and succeeds for the
  fillable rows.
-/

namespace RecordSql

/-- What a field of the type holds for a cell of a row, which is coerced to the type and
converted. -/
def Storage.land (s : Storage) (v : Value) : Except ValueError s.Carrier := do
  let w ← v.coerce s.fieldType
  s.ofValue w

/-- The last cell under a column. -/
def Rows.lastCell? (cells : List (String × Value)) (c : String) : Option Value :=
  cells.reverse.lookup c

variable {e : Entity} {m : Model}

namespace Model

/-- The column is that of the `i`-th field of the record type. -/
def Maps (m : Model) (c : String) (i : Fin e.fields.length) : Prop :=
  ∃ f ∈ m.fields, f.column = c ∧ f.index = i

/-- The cell is one that the field of its column can hold. -/
def Takes (m : Model) (e : Entity) (cell : String × Value) : Prop :=
  ∃ (i : Fin e.fields.length) (x : (e.storage i).Carrier),
    m.Maps cell.1 i ∧ (e.storage i).land cell.2 = .ok x

/-- The rows that a record can be filled from: the cursor is at one, every column is that of a
field, and every cell can be held there. -/
structure Fillable (m : Model) (e : Entity) (rows : Rows) : Prop where
  few : rows.columns.length ≤ m.fields.length
  known : ∀ c ∈ rows.columns, ∃ i : Fin e.fields.length, m.Maps c i
  row : ∃ row, rows.current? = some row ∧ row.length = rows.columns.length ∧
    ∀ cell ∈ rows.columns.zip row, m.Takes e cell

/-- Each field of `s` holds the last cell of its column, or what it holds in `r` if there is
none. -/
def Writes (m : Model) (cells : List (String × Value)) (r s : Record e) : Prop :=
  ∀ i, ∃ c, m.Maps c i ∧ match Rows.lastCell? cells c with
    | some v => (e.storage i).land v = .ok (s i)
    | none => s i = r i

end Model

namespace Direct

open Model (Maps Takes Fillable Writes)

/-- The ways in which filling the record `r` can go. What fails first is the error, and then the
record is as it was. -/
inductive Landing (m : Model) (r : Record e) (rows : Rows) : Populated e → Prop where
  /-- There are more columns than fields. -/
  | tooMany (h : m.fields.length < rows.columns.length) :
    Landing m r rows ⟨r, .error (.tooManyColumns rows.columns.length m.fields.length)⟩
  /-- A column is that of no field, behind others that are. -/
  | unknown {first rest : List String} {c : String}
    (hfew : rows.columns.length ≤ m.fields.length) (hcolumns : rows.columns = first ++ c :: rest)
    (hfirst : ∀ d ∈ first, ∃ i : Fin e.fields.length, m.Maps d i)
    (hc : ∀ i : Fin e.fields.length, ¬ m.Maps c i) :
    Landing m r rows ⟨r, .error (.unknownColumn c)⟩
  /-- The cursor is at no row. -/
  | rowless (hfew : rows.columns.length ≤ m.fields.length)
    (hknown : ∀ c ∈ rows.columns, ∃ i : Fin e.fields.length, m.Maps c i)
    (hrow : rows.current? = none) :
    Landing m r rows ⟨r, .error (.other "scan called without a current row")⟩
  /-- The row is longer or shorter than the columns are. -/
  | uneven {row : List Value} (hfew : rows.columns.length ≤ m.fields.length)
    (hknown : ∀ c ∈ rows.columns, ∃ i : Fin e.fields.length, m.Maps c i)
    (hrow : rows.current? = some row) (hlength : row.length ≠ rows.columns.length) :
    Landing m r rows ⟨r, .error (.other (String.join ["scan expects ",
      toString rows.columns.length, " destinations for ", toString row.length, " values, got ",
      toString rows.columns.length]))⟩
  /-- A cell does not fit the field of its column, behind others that do. -/
  | refused {row : List Value} {first rest : List (String × Value)} {c : String} {v : Value}
    {i : Fin e.fields.length} {err : ValueError} (hfew : rows.columns.length ≤ m.fields.length)
    (hknown : ∀ c ∈ rows.columns, ∃ i : Fin e.fields.length, m.Maps c i)
    (hrow : rows.current? = some row) (hlength : row.length = rows.columns.length)
    (hcells : rows.columns.zip row = first ++ (c, v) :: rest)
    (hfirst : ∀ cell ∈ first, m.Takes e cell) (hplace : m.Maps c i)
    (herr : (e.storage i).land v = .error err) :
    Landing m r rows ⟨r, .error (.decode c err.message)⟩
  /-- The row is written. -/
  | written {row : List Value} {s : Record e} (h : m.Fillable e rows)
    (hrow : rows.current? = some row) (hs : m.Writes (rows.columns.zip row) r s) :
    Landing m r rows ⟨s, .ok ()⟩

end Direct

/-! ## Places of columns -/

namespace Model

theorem Describes.maps_unique (hm : m.Describes e) {c : String} {i j : Fin e.fields.length}
    (hi : m.Maps c i) (hj : m.Maps c j) : i = j := by
  obtain ⟨f, hf, rfl, hfi⟩ := hi
  obtain ⟨g, hg, hcolumn, hgj⟩ := hj
  obtain rfl : g = f := List.inj_on_of_nodup_map hm.columns hg hf hcolumn
  exact Fin.ext (hfi.symm.trans hgj)

theorem Describes.column_unique (hm : m.Describes e) {c d : String} {i : Fin e.fields.length}
    (hc : m.Maps c i) (hd : m.Maps d i) : c = d := by
  obtain ⟨f, hf, rfl, hfi⟩ := hc
  obtain ⟨g, hg, rfl, hgi⟩ := hd
  have hsame : m.fields[f.index]? = m.fields[g.index]? := by rw [hfi, hgi]
  rw [hm.getElem?_index hf, hm.getElem?_index hg] at hsame
  rw [Option.some.inj hsame]

/-- Every field of the record type has a column. -/
theorem Follows.exists_maps (hm : m.Follows e) (i : Fin e.fields.length) : ∃ c, m.Maps c i := by
  obtain ⟨f, hf, hfi⟩ := hm.exists_field i
  exact ⟨f.column, f, hf, rfl, hfi⟩

theorem Describes.resolveColumn_maps (hm : m.Describes e) {c : String} {f : Field}
    (h : m.resolveColumn c = .ok f) : ∃ i : Fin e.fields.length, m.Maps c i := by
  obtain ⟨hf, hc⟩ := hm.resolveColumn_ok.1 h
  obtain ⟨i, hi, -⟩ := hm.place hf
  exact ⟨i, f, hf, hc, hi⟩

theorem Describes.resolveColumn_error (hm : m.Describes e) {c : String} {err : Error}
    (h : m.resolveColumn c = .error err) :
    err = .unknownColumn c ∧ ∀ i : Fin e.fields.length, ¬ m.Maps c i := by
  constructor
  · unfold resolveColumn at h
    split at h <;> cases h
    rfl
  · rintro i ⟨f, hf, hc, -⟩
    rw [hm.resolveColumn_ok.2 ⟨hf, hc⟩] at h
    cases h

end Model

/-! ## Cells and their slots -/

theorem Storage.land_ok {s : Storage} {v : Value} {x : s.Carrier} :
    s.land v = .ok x ↔ ∃ w, v.coerce s.fieldType = .ok w ∧ s.ofValue w = .ok x :=
  Except.bind_ok

theorem Rows.lastCell?_cons (cell : String × Value) (cells : List (String × Value)) (c : String) :
    lastCell? (cell :: cells) c =
      (lastCell? cells c).or (if c = cell.1 then some cell.2 else none) := by
  rw [lastCell?, List.reverse_cons, List.lookup_append]
  congr 1
  rw [List.lookup_cons, List.lookup_nil]
  by_cases h : c = cell.1
  · rw [if_pos h, h, beq_self_eq_true]
  · rw [if_neg h, beq_false_of_ne h]

namespace Model

variable {f : Field} {i : Fin e.fields.length} {v : Value}

/-- A cell that its field can hold is stored, coerced. -/
theorem Describes.store_taken (hm : m.Describes e) (hf : f ∈ m.fields) (hi : f.index = i)
    {x : (e.storage i).Carrier} (h : (e.storage i).land v = .ok x) (cs : List String)
    (slots : List Slot) (vs : List Value) :
    ∃ w, (e.storage i).ofValue w = .ok x ∧
      Rows.store (f.column :: cs) (m.slot f :: slots) (v :: vs) =
        { Rows.store cs slots vs with stored := w :: (Rows.store cs slots vs).stored } := by
  obtain ⟨w, hw, hx⟩ := Storage.land_ok.1 h
  have hcoerce : v.coerce (m.slot f).type = .ok w := by
    show v.coerce f.type = .ok w
    rw [(hm.at_place hf hi).2, hw]
  have haccept : (m.slot f).accept w = .ok () := by
    show m.checkValue f w = .ok ()
    rw [hm.filled.checkValue_eq hm.entity hi, Storage.check_eq, hx]
    rfl
  refine ⟨w, hx, ?_⟩
  simp only [Rows.store, hcoerce, haccept]

/-- A cell that its field cannot hold ends the scan, whether it fails to be coerced or to be
converted. -/
theorem Describes.store_refused (hm : m.Describes e) (hf : f ∈ m.fields) (hi : f.index = i)
    {err : ValueError} (h : (e.storage i).land v = .error err) (cs : List String)
    (slots : List Slot) (vs : List Value) :
    Rows.store (f.column :: cs) (m.slot f :: slots) (v :: vs) =
      ⟨[], some (.decode f.column err.message)⟩ := by
  have htype : (m.slot f).type = (e.storage i).fieldType := (hm.at_place hf hi).2
  unfold Storage.land at h
  cases hw : v.coerce (e.storage i).fieldType with
  | error err' =>
    rw [hw] at h
    cases h
    simp only [Rows.store, htype, hw]
  | ok w =>
    rw [hw] at h
    have haccept : (m.slot f).accept w = .error (.decode f.column err.message) := by
      show m.checkValue f w = _
      rw [hm.filled.checkValue_eq hm.entity hi, Storage.check_eq,
        show (e.storage i).ofValue w = _ from h]
      rfl
    simp only [Rows.store, htype, hw, haccept]

/-- A row without cells leaves the record as it is. -/
theorem Follows.writes_nil (hm : m.Follows e) (r : Record e) : m.Writes [] r r := by
  intro i
  obtain ⟨c, hc⟩ := hm.exists_maps i
  exact ⟨c, hc, rfl⟩

/-- The first cell may be written before the others. -/
theorem Describes.writes_cons (hm : m.Describes e) {cells : List (String × Value)} {c : String}
    {x : (e.storage i).Carrier} {r s : Record e} (hc : m.Maps c i)
    (hx : (e.storage i).land v = .ok x) (h : m.Writes cells (r.put i x) s) :
    m.Writes ((c, v) :: cells) r s := by
  intro j
  obtain ⟨d, hd, hlast⟩ := h j
  refine ⟨d, hd, ?_⟩
  rw [Rows.lastCell?_cons]
  cases hcell : Rows.lastCell? cells d with
  | some w =>
    rw [hcell] at hlast
    exact hlast
  | none =>
    rw [hcell] at hlast
    rw [Option.none_or]
    by_cases hdc : d = c
    · -- no later cell is under this column, so this one is the last
      subst hdc
      obtain rfl : i = j := hm.maps_unique hc hd
      rw [if_pos rfl]
      show (e.storage i).land v = .ok (s i)
      rw [show s i = r.put i x i from hlast, Record.put_self, hx]
    · have hij : i ≠ j := by
        rintro rfl
        exact hdc (hm.column_unique hd hc)
      rw [if_neg hdc]
      exact (show s j = r.put i x j from hlast).trans (Record.put_of_ne r hij x)

/-- Either all cells can be held or there is a first one that cannot. -/
theorem taken_or_refused {cells : List (String × Value)}
    (h : ∀ cell ∈ cells, ∃ i : Fin e.fields.length, m.Maps cell.1 i) :
    (∀ cell ∈ cells, m.Takes e cell) ∨
      ∃ first c v rest, cells = first ++ (c, v) :: rest ∧ (∀ cell ∈ first, m.Takes e cell) ∧
        ∃ (i : Fin e.fields.length) (err : ValueError),
          m.Maps c i ∧ (e.storage i).land v = .error err := by
  rcases forall_or_first (m.Takes e) cells with
    hall | ⟨first, ⟨c, v⟩, rest, rfl, hfirst, hcell⟩
  · exact .inl hall
  · obtain ⟨i, hi⟩ := h (c, v) (List.mem_append_right _ List.mem_cons_self)
    cases hland : (e.storage i).land v with
    | error err => exact .inr ⟨first, c, v, rest, rfl, hfirst, i, err, hi, hland⟩
    | ok x => exact absurd ⟨i, x, hi, hland⟩ hcell

/-- A place that is known to be that of a field's column. -/
theorem Describes.maps_self (hm : m.Describes e) (hf : f ∈ m.fields) (hi : f.index = i)
    {j : Fin e.fields.length} (hj : m.Maps f.column j) : j = i :=
  hm.maps_unique hj ⟨f, hf, rfl, hi⟩

variable {ps : List (Field × Fin e.fields.length)}

/-- **A scan ends at the first cell that its field cannot hold.** -/
theorem Describes.store_fault (hm : m.Describes e)
    (hps : ∀ p ∈ ps, p.1 ∈ m.fields ∧ p.1.index = p.2) {vs : List Value}
    {first rest : List (String × Value)} {c : String}
    (hcells : (ps.map fun p => p.1.column).zip vs = first ++ (c, v) :: rest)
    (hfirst : ∀ cell ∈ first, m.Takes e cell) (hc : m.Maps c i) {err : ValueError}
    (herr : (e.storage i).land v = .error err) :
    (Rows.store (ps.map fun p => p.1.column) (ps.map fun p => m.slot p.1) vs).fault =
      some (.decode c err.message) := by
  induction first generalizing ps vs with
  | nil =>
    cases ps with
    | nil => cases hcells
    | cons p ps =>
      cases vs with
      | nil => cases hcells
      | cons w vs =>
        obtain ⟨hf, hi⟩ := hps p List.mem_cons_self
        cases hcells
        obtain rfl := hm.maps_self hf hi hc
        simp only [List.map_cons, hm.store_refused hf hi herr]
  | cons cell first ih =>
    cases ps with
    | nil => cases hcells
    | cons p ps =>
      cases vs with
      | nil => cases hcells
      | cons w vs =>
        obtain ⟨hf, hi⟩ := hps p List.mem_cons_self
        obtain ⟨hcell, hrest⟩ := List.cons.inj hcells
        subst hcell
        obtain ⟨j, x, hj, hx⟩ := hfirst _ List.mem_cons_self
        obtain rfl := hm.maps_self hf hi hj
        obtain ⟨u, -, hstore⟩ := hm.store_taken hf hi hx (ps.map fun p => p.1.column)
          (ps.map fun p => m.slot p.1) vs
        simp only [List.map_cons, hstore]
        exact ih (fun q hq => hps q (List.mem_cons_of_mem _ hq)) hrest
          fun d hd => hfirst d (List.mem_cons_of_mem _ hd)

/-- **Cells that their fields can hold are stored and written.** -/
theorem Describes.store_writes (hm : m.Describes e)
    (hps : ∀ p ∈ ps, p.1 ∈ m.fields ∧ p.1.index = p.2) {vs : List Value}
    (hlen : vs.length = ps.length)
    (htaken : ∀ cell ∈ (ps.map fun p => p.1.column).zip vs, m.Takes e cell) :
    ∃ ws, Rows.store (ps.map fun p => p.1.column) (ps.map fun p => m.slot p.1) vs = ⟨ws, none⟩ ∧
      ∀ r : Record e, ∃ s, Direct.assign r (ps.zipWith Direct.write ws) =
        ⟨s, .ok ()⟩ ∧ m.Writes ((ps.map fun p => p.1.column).zip vs) r s := by
  induction ps generalizing vs with
  | nil => exact ⟨[], rfl, fun r => ⟨r, rfl, hm.writes_nil r⟩⟩
  | cons p ps ih =>
    obtain ⟨v, vs, rfl⟩ := List.exists_cons_of_length_eq_add_one hlen
    obtain ⟨hf, hi⟩ := hps p List.mem_cons_self
    obtain ⟨j, x, hj, hx⟩ := htaken _ List.mem_cons_self
    obtain rfl := hm.maps_self hf hi hj
    obtain ⟨w, hw, hstore⟩ := hm.store_taken hf hi hx (ps.map fun p => p.1.column)
      (ps.map fun p => m.slot p.1) vs
    obtain ⟨ws, hws, hwrite⟩ := ih (fun q hq => hps q (List.mem_cons_of_mem _ hq))
      (by simpa using hlen) fun d hd => htaken d (List.mem_cons_of_mem _ hd)
    refine ⟨w :: ws, by simp only [List.map_cons, hstore, hws], ?_⟩
    intro r
    obtain ⟨s, hs, hwrites⟩ := hwrite (r.put p.2 x)
    refine ⟨s, ?_, hm.writes_cons hj hx hwrites⟩
    rw [List.zipWith_cons_cons, Direct.assign_write hw]
    exact hs

end Model

/-! ## Filling a record -/

namespace Direct

/-- The targets of columns are the fields of these columns, with their places. -/
theorem targets_mapped (hm : m.Describes e) {cs : List String} {fs : List Field}
    (hfs : m.resolveColumns cs = .ok fs) :
    ∃ ps : List (Field × Fin e.fields.length), targets m cs = .ok (ps.map target) ∧
      (∀ p ∈ ps, p.1 ∈ m.fields ∧ p.1.index = p.2) ∧ ps.map (fun p => p.1.column) = cs := by
  obtain ⟨ps, hps, rfl, hplaces⟩ := targets_of_resolve hm hfs
  refine ⟨ps, hps, ?_, ?_⟩
  · intro p hp
    exact ⟨hm.mem_of_resolveColumns hfs _ (List.mem_map_of_mem hp), (hplaces p hp).1⟩
  · unfold Model.resolveColumns at hfs
    split at hfs
    · cases hfs
    · have hcolumns : List.Forall₂ (fun c (p : Field × Fin e.fields.length) => c = p.1.column)
          cs ps := by
        refine (List.forall₂_map_right_iff.1 (Except.mapM_ok.1 hfs)).imp fun c p hp => ?_
        exact (hm.resolveColumn_ok.1 hp).2.symm
      rw [← List.forall₂_map_right_iff, List.forall₂_eq_eq_eq] at hcolumns
      exact hcolumns.symm

/-- **Filling a record goes one of the ways of `Landing`.** -/
theorem landing_populate (hm : m.Describes e) (r : Record e) (rows : Rows) :
    Landing m r rows (populate m r rows) := by
  by_cases hmany : m.fields.length < rows.columns.length
  · have hres : m.resolveColumns rows.columns =
        .error (.tooManyColumns rows.columns.length m.fields.length) := if_pos hmany
    rw [populate_of_targets_error (targets_of_error hm hres)]
    exact .tooMany hmany
  have hfew : rows.columns.length ≤ m.fields.length := Nat.not_lt.1 hmany
  have hresolve : m.resolveColumns rows.columns = rows.columns.mapM m.resolveColumn :=
    if_neg hmany
  cases hres : rows.columns.mapM m.resolveColumn with
  | error err =>
    obtain ⟨first, c, rest, hcolumns, hfirst, hc⟩ := Except.mapM_error hres
    obtain ⟨rfl, hnone⟩ := hm.resolveColumn_error hc
    rw [populate_of_targets_error (targets_of_error hm (hresolve.trans hres))]
    refine .unknown hfew hcolumns (fun d hd => ?_) hnone
    obtain ⟨f, hf⟩ := hfirst d hd
    exact hm.resolveColumn_maps hf
  | ok fs =>
    obtain ⟨ps, hps, hplaces, hcolumns⟩ := targets_mapped hm (hresolve.trans hres)
    have hknown : ∀ c ∈ rows.columns, ∃ i : Fin e.fields.length, m.Maps c i := by
      rw [← hcolumns]
      refine List.forall_mem_map.2 fun p hp => ⟨p.2, p.1, (hplaces p hp).1, rfl, ?_⟩
      exact (hplaces p hp).2
    have hslots : (ps.map fun p => m.slot p.1).length = rows.columns.length := by
      rw [← hcolumns, List.length_map, List.length_map]
    rw [populate_of_targets hps]
    cases hrow : rows.current? with
    | none =>
      rw [Rows.scan_of_none hrow]
      exact .rowless hfew hknown hrow
    | some row =>
      by_cases hlen : row.length = rows.columns.length
      case neg =>
        rw [Rows.scan_of_length_ne hrow (.inr hlen), hslots]
        exact .uneven hfew hknown hrow hlen
      rw [Rows.scan_of_length_eq hrow hslots hlen]
      have hcells : ∀ cell ∈ rows.columns.zip row,
          ∃ i : Fin e.fields.length, m.Maps cell.1 i :=
        fun cell hcell => hknown _ (List.of_mem_zip hcell).1
      rcases Model.taken_or_refused hcells with
        htaken | ⟨first, c, v, rest, hsplit, hfirst, i, err, hc, herr⟩
      · have hfill : m.Fillable e rows := ⟨hfew, hknown, row, hrow, hlen, htaken⟩
        rw [← hcolumns] at htaken hlen ⊢
        rw [List.length_map] at hlen
        obtain ⟨ws, hws, hwrite⟩ := hm.store_writes hplaces hlen htaken
        obtain ⟨s, hs, hwrites⟩ := hwrite r
        rw [hws]
        dsimp only
        rw [hs]
        rw [hcolumns] at hwrites
        exact .written hfill hrow hwrites
      · have hfault := hm.store_fault hplaces (hcolumns.symm ▸ hsplit) hfirst hc herr
        rw [hcolumns] at hfault
        rcases hstore : Rows.store rows.columns (ps.map fun p => m.slot p.1) row with ⟨ws, fault⟩
        rw [hstore] at hfault ⊢
        obtain rfl : fault = _ := hfault
        exact .refused hfew hknown hrow hlen hsplit hfirst hc herr

/-- The ways in which filling succeeds are those of the fillable rows. -/
theorem Landing.ok_iff (hm : m.Describes e) {r : Record e} {rows : Rows} {p : Populated e}
    (h : Landing m r rows p) : p.result = .ok () ↔ m.Fillable e rows := by
  cases h with
  | tooMany hmany => exact ⟨nofun, fun h => absurd h.few (Nat.not_le.2 hmany)⟩
  | @unknown first rest c hfew hcolumns hfirst hc =>
    refine ⟨nofun, fun h => ?_⟩
    obtain ⟨i, hi⟩ := h.known c (hcolumns ▸ List.mem_append_right _ List.mem_cons_self)
    exact absurd hi (hc i)
  | rowless hfew hknown hnone =>
    refine ⟨nofun, fun h => ?_⟩
    obtain ⟨row, hrow, -⟩ := h.row
    rw [hnone] at hrow
    cases hrow
  | uneven hfew hknown hrow hlen =>
    refine ⟨nofun, fun h => ?_⟩
    obtain ⟨row', hrow', hlen', -⟩ := h.row
    cases hrow.symm.trans hrow'
    exact absurd hlen' hlen
  | @refused row first rest c v i err hfew hknown hrow hlen hcells hfirst hc herr =>
    refine ⟨nofun, fun h => ?_⟩
    obtain ⟨row', hrow', -, htaken⟩ := h.row
    cases hrow.symm.trans hrow'
    obtain ⟨j, x, hj, hx⟩ := htaken (c, v) (hcells ▸ List.mem_append_right _ List.mem_cons_self)
    obtain rfl := hm.maps_unique hc hj
    rw [show (e.storage i).land v = .ok x from hx] at herr
    cases herr
  | written hfill hrow hs => exact ⟨fun _ => hfill, fun _ => rfl⟩

end Direct

namespace Registry

/-- **A record that is filled through its fields holds the row**, whatever the record type, the
model of it that a registry gives, the record and the cursor. Filling goes one of the ways of
`Landing`, and it succeeds for the fillable rows. -/
theorem Reachable.populate_lands {g : Registry} (hg : g.Reachable) (hm : g.Gives e m)
    (r : Record e) (rows : Rows) :
    Direct.Landing m r rows (Accessor.direct.populate m r rows) ∧
      ((Accessor.direct.populate m r rows).result = .ok () ↔ m.Fillable e rows) := by
  have hdescribes := hg.gives_describes hm
  have hlands : Direct.Landing m r rows (Accessor.direct.populate m r rows) :=
    Direct.landing_populate hdescribes r rows
  exact ⟨hlands, hlands.ok_iff hdescribes⟩

/-- The last of two ages counts, and nothing does in a row with an age that no person has. -/
theorem Reachable.populate_lands_ages : Sample.renamed.Reachable ∧
    ∃ m, Sample.renamed.Gives Sample.person m ∧
      m.Fillable Sample.person Sample.ages ∧
      (Accessor.direct.populate m Sample.nameless Sample.ages).record.values =
        [.int 7, .text "Al", .int 31] ∧
      Direct.Landing m Sample.nameless Sample.ages
        (Accessor.direct.populate m Sample.nameless Sample.ages) ∧
      ¬ m.Fillable Sample.person Sample.ageless ∧
      (Accessor.direct.populate m Sample.nameless Sample.ageless).result =
        .error (.decode "age" "expected u8, found out of range integer 300") ∧
      Direct.Landing m Sample.nameless Sample.ageless
        (Accessor.direct.populate m Sample.nameless Sample.ageless) := by
  have hg : Sample.renamed.Reachable := .register .empty _ _
  obtain ⟨m, hm, hruns⟩ : ∃ m, (Sample.renamed.model Sample.person).answer = .ok m ∧
      ((Accessor.direct.populate m Sample.nameless Sample.ages).result,
        (Accessor.direct.populate m Sample.nameless Sample.ages).record.values,
        (Accessor.direct.populate m Sample.nameless Sample.ageless).result) =
      (.ok (), [.int 7, .text "Al", .int 31],
        .error (.decode "age" "expected u8, found out of range integer 300")) :=
    Except.ok_of_map (by decide +kernel)
  simp only [Prod.mk.injEq] at hruns
  obtain ⟨hages, hvalues, hageless⟩ := hruns
  have hgives : Sample.renamed.Gives Sample.person m := .inr (.inl hm)
  obtain ⟨hlands, hfill⟩ := hg.populate_lands hgives Sample.nameless Sample.ages
  obtain ⟨hlandsNot, hfillNot⟩ := hg.populate_lands hgives Sample.nameless Sample.ageless
  refine ⟨hg, m, hgives, hfill.1 hages, hvalues, hlands, ?_, hageless, hlandsNot⟩
  intro h
  rw [hfillNot.2 h] at hageless
  cases hageless

end Registry

end RecordSql
