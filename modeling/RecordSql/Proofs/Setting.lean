import RecordSql.Proofs.Conversion
import RecordSql.Proofs.Plain
import RecordSql.Proofs.Sample

/-!
# Filling is all or nothing

A row is checked as a whole before any field is set, and each field takes every value that its check
has let through. So filling that fails leaves the record as it was.

* `Rows.scan_ok`: a scan stores values that their slots take.
* `Model.Filled.checkValue_eq`: a value is checked by the type of the field's place.
* `Direct.target`, `Direct.write`: setting a field at a place of the record type.
* `Direct.targets_of_resolve`: columns that resolve are set at the places of their fields.
* `Direct.assign_ok`: **fields that take their values can all be set.**
* `Accessor.populate_atomic`: **a record is left as it was when filling it fails.**
-/

namespace RecordSql

/-! ## Scanning a row -/

namespace Rows

theorem store_ok {cs : List String} {slots : List Slot} {vs : List Value}
    (hs : slots.length = cs.length) (hv : vs.length = cs.length)
    (h : (store cs slots vs).fault = none) :
    List.Forall₂ (fun s w => s.accept w = .ok ()) slots (store cs slots vs).stored := by
  induction cs generalizing slots vs with
  | nil =>
    rw [List.length_eq_zero_iff.1 hs]
    exact .nil
  | cons c cs ih =>
    obtain ⟨s, slots, rfl⟩ := List.exists_cons_of_length_eq_add_one hs
    obtain ⟨v, vs, rfl⟩ := List.exists_cons_of_length_eq_add_one hv
    simp only [store] at h ⊢
    split at h
    · cases h
    rename_i w hw
    split at h
    · cases h
    rename_i haccept
    exact .cons haccept (ih (by simpa using hs) (by simpa using hv) h)

/-- **A scan stores values that their slots take**, one a slot. -/
theorem scan_ok {rows : Rows} {slots : List Slot} {vs : List Value}
    (h : rows.scan slots = ⟨vs, none⟩) :
    List.Forall₂ (fun s w => s.accept w = .ok ()) slots vs := by
  unfold scan at h
  split at h
  · cases h
  · rename_i row hrow
    split at h
    · cases h
    · rename_i hlen
      push Not at hlen
      have hstored := store_ok hlen.1 hlen.2 (by rw [h])
      rw [h] at hstored
      exact hstored

end Rows

/-! ## Places of fields -/

variable {e : Entity} {m : Model}

namespace Direct

/-- The field with what sets its place. -/
def target (p : Field × Fin e.fields.length) : Field × Setter e := (p.1, (e.descriptor p.2).set)

/-- The field to be set to the value. -/
def write (p : Field × Fin e.fields.length) (v : Value) : Field × Setter e × Value :=
  (p.1, (e.descriptor p.2).set, v)

end Direct

/-- What sets a field is the setter of the place that the field is at. -/
theorem Entity.accessorTable_target {f : Field} {t : Field × Setter e} :
    e.accessorTable.target f = .ok t ↔
      ∃ i : Fin e.fields.length, f.index = i ∧ Direct.target (f, i) = t := by
  unfold AccessorTable.target accessorTable
  rw [List.getElem?_map]
  constructor
  · intro h
    by_cases hlt : f.index < e.fields.length
    · rw [e.getElem?_describe ⟨f.index, hlt⟩] at h
      exact ⟨⟨f.index, hlt⟩, rfl, Except.ok.inj h⟩
    · rw [List.getElem?_eq_none (by simpa using hlt)] at h
      cases h
  · rintro ⟨i, hi, rfl⟩
    rw [hi, e.getElem?_describe]
    rfl

namespace Model

/-- A value is checked by the type of the field's place. Errors name the column. -/
theorem Filled.checkValue_eq (hm : m.Filled) (h : m.entity = e) {f : Field}
    {i : Fin e.fields.length} (hi : f.index = i) (v : Value) : m.checkValue f v =
      ((e.storage i).check v).mapError fun err => .decode f.column err.message := by
  subst h
  unfold checkValue
  rw [hm.checks, List.getElem?_map, hi, Entity.getElem?_describe]
  rfl

/-- A field takes every value that its slot takes. -/
theorem Filled.ofValue_of_accept (hm : m.Filled) (h : m.entity = e) {f : Field}
    {i : Fin e.fields.length} (hi : f.index = i) {v : Value}
    (hv : (m.slot f).accept v = .ok ()) : ∃ x, (e.storage i).ofValue v = .ok x := by
  have hcheck : m.checkValue f v = .ok () := hv
  rw [hm.checkValue_eq h hi, Except.mapError_ok] at hcheck
  exact Storage.ofValue_of_check hcheck

/-- The fields of columns have their places in the record type. -/
theorem Follows.places_ok (h : m.Follows e) {fs : List Field} (hfs : ∀ f ∈ fs, f ∈ m.fields) :
    ∃ ps : List (Field × Fin e.fields.length),
      fs.mapM e.accessorTable.target = .ok (ps.map Direct.target) ∧ ps.map Prod.fst = fs ∧
        ∀ p ∈ ps, p.1.index = p.2 ∧ p.1.name = e.fieldName p.2 := by
  induction fs with
  | nil => exact ⟨[], rfl, rfl, fun p hp => nomatch hp⟩
  | cons f fs ih =>
    obtain ⟨i, hindex, hname, -⟩ := h.place (hfs f List.mem_cons_self)
    obtain ⟨ps, hps, rfl, hall⟩ := ih fun g hg => hfs g (List.mem_cons_of_mem _ hg)
    refine ⟨(f, i) :: ps, ?_, rfl, ?_⟩
    · rw [List.mapM_cons, Entity.accessorTable_target.2 ⟨i, hindex, rfl⟩, hps]
      rfl
    · intro p hp
      rcases List.mem_cons.1 hp with rfl | hp
      · exact ⟨hindex, hname⟩
      · exact hall p hp

theorem Describes.mem_of_resolveColumns {cs : List String} {fs : List Field}
    (h : m.Describes e) (hfs : m.resolveColumns cs = .ok fs) : ∀ f ∈ fs, f ∈ m.fields := by
  unfold resolveColumns at hfs
  split at hfs
  · cases hfs
  · intro f hf
    obtain ⟨c, -, hc⟩ := exists_of_forall₂ (Except.mapM_ok.1 hfs) hf
    exact (h.resolveColumn_ok.1 hc).1

end Model

/-! ## Filling through the fields -/

/-- A field that takes a value is set to what it takes it for. -/
theorem Record.set_ofValue {i : Fin e.fields.length} {v : Value} {x : (e.storage i).Carrier}
    (h : (e.storage i).ofValue v = .ok x) (r : Record e) : r.set i v = .ok (r.put i x) := by
  unfold set
  rw [h]
  rfl

namespace Direct

/-- Only a model of the record type has targets, and these are set at the places of their fields. -/
theorem targets_ok (hm : m.Filled) {cs : List String} {ts : List (Field × Setter e)}
    (h : targets m cs = .ok ts) :
    m.entity = e ∧ ∀ t ∈ ts, ∃ i : Fin e.fields.length, t.1.index = i ∧ target (t.1, i) = t := by
  obtain ⟨table, htable, h⟩ := Except.bind_ok.1 h
  obtain ⟨fs, _, hts⟩ := Except.bind_ok.1 h
  have hentity : m.entity = e := by
    unfold Model.accessorsOf at htable
    split at htable
    · assumption
    · cases htable
  rw [hm.accessorsOf hentity] at htable
  cases htable
  refine ⟨hentity, ?_⟩
  intro t ht
  obtain ⟨f, -, hf⟩ := exists_of_forall₂ (Except.mapM_ok.1 hts) ht
  obtain ⟨i, hi, rfl⟩ := Entity.accessorTable_target.1 hf
  exact ⟨i, hi, rfl⟩

/-- On a model of the record type all columns that resolve have targets. -/
theorem targets_of_resolve {cs : List String} {fs : List Field} (hm : m.Describes e)
    (hfs : m.resolveColumns cs = .ok fs) :
    ∃ ps : List (Field × Fin e.fields.length), targets m cs = .ok (ps.map target) ∧
      ps.map Prod.fst = fs ∧ ∀ p ∈ ps, p.1.index = p.2 ∧ p.1.name = e.fieldName p.2 := by
  obtain ⟨ps, hps, hfst, hall⟩ := hm.places_ok (hm.mem_of_resolveColumns hfs)
  refine ⟨ps, ?_, hfst, hall⟩
  unfold targets
  rw [hm.filled.accessorsOf hm.entity, hfs]
  exact hps

/-- Columns that do not resolve have no targets. -/
theorem targets_of_error (hm : m.Describes e) {cs : List String} {err : Error}
    (h : m.resolveColumns cs = .error err) :
    (targets m cs : Except Error (List (Field × Setter e))) = .error err := by
  unfold targets
  rw [hm.filled.accessorsOf hm.entity, h]
  rfl

/-- Once its targets are known, a row is scanned and its fields are set. -/
theorem populate_of_targets {rows : Rows} {ps : List (Field × Fin e.fields.length)}
    (hps : targets m rows.columns = .ok (ps.map target)) (r : Record e) :
    populate m r rows = match rows.scan (ps.map fun p => m.slot p.1) with
      | ⟨_, some err⟩ => ⟨r, .error err⟩
      | ⟨vs, none⟩ => assign r (ps.zipWith write vs) := by
  have hslots : (ps.map target).map (fun t : Field × Setter e => m.slot t.1) =
      ps.map fun p => m.slot p.1 := List.map_map
  unfold populate
  rw [hps]
  simp only [hslots, List.zipWith_map_left]
  rfl

theorem populate_of_targets_error {rows : Rows} {err : Error} {r : Record e}
    (h : (targets m rows.columns : Except Error (List (Field × Setter e))) = .error err) :
    populate m r rows = ⟨r, .error err⟩ := by
  unfold populate
  rw [h]

/-- A field that takes its value is set, and the others after it. -/
theorem assign_write {p : Field × Fin e.fields.length} {v : Value} {x : (e.storage p.2).Carrier}
    (hx : (e.storage p.2).ofValue v = .ok x) (r : Record e)
    (rest : List (Field × Setter e × Value)) :
    assign r (write p v :: rest) = assign (r.put p.2 x) rest := by
  have hset : (e.descriptor p.2).set r v = .ok (r.put p.2 x) := Record.set_ofValue hx r
  simp only [write, assign, hset]

/-- **Fields that take their values can all be set.** -/
theorem assign_ok {ts : List (Field × Setter e)} {vs : List Value}
    (hall : List.Forall₂ (fun t v => ∀ r, ∃ s, t.2 r v = .ok s) ts vs) (r : Record e) :
    (assign r (ts.zipWith (fun t v => (t.1, t.2, v)) vs)).result = .ok () := by
  induction hall generalizing r with
  | nil => rfl
  | @cons t v ts vs ht _ ih =>
    obtain ⟨s, hs⟩ := ht r
    simp only [List.zipWith_cons_cons, assign, hs]
    exact ih s

/-- Once the row has been scanned all its fields can be set. -/
theorem assign_scanned (hm : m.Filled) {rows : Rows} {cs : List String}
    {ts : List (Field × Setter e)} {vs : List Value} (hts : targets m cs = .ok ts)
    (hscan : rows.scan (ts.map fun t => m.slot t.1) = ⟨vs, none⟩) (r : Record e) :
    (assign r (ts.zipWith (fun t v => (t.1, t.2, v)) vs)).result = .ok () := by
  obtain ⟨hentity, hplaces⟩ := targets_ok hm hts
  have haccepted := Rows.scan_ok hscan
  rw [List.forall₂_map_left_iff] at haccepted
  apply assign_ok
  refine ((List.forall₂_and_left _ _).2 ⟨hplaces, haccepted⟩).imp ?_
  rintro t v ⟨⟨i, hi, ht⟩, haccept⟩ r
  obtain ⟨x, hx⟩ := hm.ofValue_of_accept hentity hi haccept
  rw [← ht]
  exact ⟨_, Record.set_ofValue hx r⟩

/-- Filling through the fields either sets all of them or changes nothing. -/
theorem populate_of_error (hm : m.Filled) {r : Record e} {rows : Rows} {err : Error}
    (h : (populate m r rows).result = .error err) : (populate m r rows).record = r := by
  unfold populate at h ⊢
  split at h
  · rfl
  · rename_i ts hts
    split at h
    · rfl
    · rename_i vs hscan
      -- nothing fails after the scan, so the error came before any field was set
      rw [assign_scanned hm hts hscan] at h
      cases h

end Direct

namespace Reflect

/-- Filling through the serialized form replaces the record only when it has a new one. -/
theorem populate_of_error {r : Record e} {rows : Rows} {err : Error}
    (h : (populate m r rows).result = .error err) : (populate m r rows).record = r := by
  unfold populate at h ⊢
  split at h
  · cases h
  · rfl

end Reflect

namespace Accessor

/-- **A record is left as it was when filling it fails**, whatever the accessor, the model and the
row. The tables of the model are what its record type describes, be this the record's or another,
as they are in every model that a registry gives. Through the fields, none fails to be set once the
row has been scanned. -/
theorem populate_atomic (a : Accessor) (m : Model) (hm : m.Filled) (r : Record e) (rows : Rows) :
    (∀ err, (a.populate m r rows).result = .error err → (a.populate m r rows).record = r) ∧
      ∀ (ts : List (Field × Setter e)) vs, Direct.targets m rows.columns = .ok ts →
        rows.scan (ts.map fun t => m.slot t.1) = ⟨vs, none⟩ →
          (Direct.assign r (ts.zipWith (fun t v => (t.1, t.2, v)) vs)).result = .ok () := by
  refine ⟨?_, fun ts vs hts hscan => Direct.assign_scanned hm hts hscan r⟩
  intro err h
  cases a with
  | direct => exact Direct.populate_of_error hm h
  | reflect => exact Reflect.populate_of_error h

/-- The last value of a row does not fit, so the ones before it are not set; another row is. -/
theorem populate_atomic_ageless : ∃ m, (Sample.renamed.model Sample.person).answer = .ok m ∧
    m.Filled ∧
    ∃ err, (direct.populate m (Record.initial : Record Sample.person) Sample.ageless).result =
        .error err ∧
      (reflect.populate m (Record.initial : Record Sample.person) Sample.ageless).result =
        .error err ∧
      (direct.populate m (Record.initial : Record Sample.person) Sample.ageless).record =
        Record.initial ∧
      (reflect.populate m (Record.initial : Record Sample.person) Sample.ageless).record =
        Record.initial ∧
      ∃ (ts : List (Field × Setter Sample.person)) (vs : List Value),
        Direct.targets m Sample.ages.columns = .ok ts ∧
          Sample.ages.scan (ts.map fun t => m.slot t.1) = ⟨vs, none⟩ ∧
          (Direct.assign Record.initial (ts.zipWith (fun t v => (t.1, t.2, v)) vs)).result =
            .ok () := by
  obtain ⟨m, hm, hruns⟩ : ∃ m, (Sample.renamed.model Sample.person).answer = .ok m ∧
      ((direct.populate m (Record.initial : Record Sample.person) Sample.ageless).result,
        (reflect.populate m (Record.initial : Record Sample.person) Sample.ageless).result,
        (Direct.targets m Sample.ages.columns).toOption.map
          fun ts : List (Field × Setter Sample.person) =>
            Sample.ages.scan (ts.map fun t => m.slot t.1)) =
        (.error (.decode "age" "expected u8, found out of range integer 300"),
          .error (.decode "age" "expected u8, found out of range integer 300"),
          some ⟨[.int 30, .text "Al", .int 31], none⟩) :=
    Except.ok_of_map (by decide +kernel)
  simp only [Prod.mk.injEq] at hruns
  obtain ⟨hdirect, hreflect, hscanned⟩ := hruns
  obtain ⟨ts, hts, hscan⟩ := Except.ok_of_map hscanned
  have hg : Sample.renamed.Reachable := .register .empty _ _
  have hfilled := (hg.describes hm).filled
  exact ⟨m, hm, hfilled, _, hdirect, hreflect,
    (populate_atomic direct m hfilled Record.initial Sample.ageless).1 _ hdirect,
    (populate_atomic reflect m hfilled Record.initial Sample.ageless).1 _ hreflect, ts, _, hts,
    hscan, (populate_atomic direct m hfilled Record.initial Sample.ages).2 ts _ hts hscan⟩

end Accessor

end RecordSql
