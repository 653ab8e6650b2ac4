import RecordSql.Proofs.Reading
import RecordSql.Proofs.Setting

/-!
# A stored record comes back

The arguments of an INSERT are values that the fields of its columns take. A row of them sets these
fields to what they were in the record, whatever the record that it fills held before.

* `Rows.scan_kept`: a scan stores values of their slots' types as they are.
* `Record.put_stored`: setting one field to its value in another record.
* `Direct.assign_stored`: **fields set to their values in a record have these values.**
* `Direct.populate_stored`: a row of some fields of a record sets these and leaves the others.
* `Insert.build_single`: the statement for one record has its values, in order.
* `Insert.populate_inserted`: **a record that was inserted with all its fields comes back.**
-/

namespace RecordSql

namespace Rows

/-- A cursor at its only row. -/
def single (columns : List String) (row : List Value) : Rows :=
  ((ofColumns columns).push row).next.2

theorem store_kept {cs : List String} {slots : List Slot} {vs : List Value}
    (hs : slots.length = cs.length)
    (h : List.Forall₂ (fun s v => v.coerce s.type = .ok v ∧ s.accept v = .ok ()) slots vs) :
    store cs slots vs = ⟨vs, none⟩ := by
  induction h generalizing cs with
  | nil =>
    rw [List.length_eq_zero_iff.1 hs.symm]
    rfl
  | cons hv _ ih =>
    obtain ⟨c, cs, rfl⟩ := List.exists_cons_of_length_eq_add_one hs.symm
    obtain ⟨hcoerce, haccept⟩ := hv
    simp only [store, hcoerce, haccept, ih (by simpa using hs)]

/-- A scan stores values of their slots' types as they are. -/
theorem scan_kept {cs : List String} {slots : List Slot} {vs : List Value}
    (hs : slots.length = cs.length)
    (h : List.Forall₂ (fun s v => v.coerce s.type = .ok v ∧ s.accept v = .ok ()) slots vs) :
    (single cs vs).scan slots = ⟨vs, none⟩ := by
  have hlen : ¬(slots.length ≠ cs.length ∨ vs.length ≠ cs.length) := by
    simp [hs, ← h.length_eq]
  show (if slots.length ≠ cs.length ∨ vs.length ≠ cs.length then _ else store cs slots vs) = _
  rw [if_neg hlen, store_kept hs h]

end Rows

variable {e : Entity} {m : Model}

/-- Fields are found again by their columns. -/
theorem Model.Describes.resolveColumns_columns (h : m.Describes e) {fs : List Field}
    (hfs : ∀ f ∈ fs, f ∈ m.fields) (hlen : fs.length ≤ m.fields.length) :
    m.resolveColumns (fs.map Field.column) = .ok fs := by
  unfold resolveColumns
  rw [if_neg (by simpa using hlen), Except.mapM_ok, List.forall₂_map_left_iff, List.forall₂_same]
  exact fun f hf => h.resolveColumn_ok.2 ⟨hfs f hf, rfl⟩

/-- Declared names find fields, each of its name. -/
theorem Model.Follows.resolve_names (h : m.Follows e) {names : List String}
    (hnames : ∀ n ∈ names, n ∈ e.fields.map FieldSpec.name) :
    ∃ fs, names.mapM m.resolveField = .ok fs ∧ fs.map Field.name = names := by
  rw [h.names_eq] at hnames
  induction names with
  | nil => exact ⟨[], rfl, rfl⟩
  | cons n names ih =>
    obtain ⟨f, hf, rfl⟩ := List.mem_map.1 (hnames n List.mem_cons_self)
    obtain ⟨fs, hfs, rfl⟩ := ih fun k hk => hnames k (List.mem_cons_of_mem _ hk)
    rw [Except.mapM_ok] at hfs
    exact ⟨f :: fs, Except.mapM_ok.2 (.cons (h.resolveField_ok.2 ⟨hf, rfl⟩) hfs), rfl⟩

/-- The slot of a field takes the field's value as it is. -/
theorem Model.Follows.slot_kept (hm : m.Follows e) (r : Record e) {f : Field}
    {i : Fin e.fields.length} (hf : f ∈ m.fields) (hi : f.index = i) :
    (r.get i).coerce (m.slot f).type = .ok (r.get i) ∧ (m.slot f).accept (r.get i) = .ok () := by
  constructor
  · show (r.get i).coerce f.type = .ok (r.get i)
    rw [(hm.at_place hf hi).2]
    exact Storage.coerce_toValue _ _
  · show m.checkValue f (r.get i) = .ok ()
    unfold Record.get
    rw [hm.filled.checkValue_eq hm.entity hi, Storage.check_toValue]
    rfl

/-- A field's value in another record is taken, gives the field this value and changes no other. -/
theorem Record.put_stored (r s : Record e) (i : Fin e.fields.length) :
    ∃ x, (e.storage i).ofValue (r.get i) = .ok x ∧
      ∀ j, (s.put i x).get j = if j = i then r.get j else s.get j := by
  obtain ⟨x, hx, hvalue⟩ := (e.storage i).ofValue_toValue (r i)
  refine ⟨x, hx, ?_⟩
  intro j
  unfold get
  by_cases hj : j = i
  · subst hj
    rw [if_pos rfl, put_self, hvalue]
  · rw [if_neg hj, put_of_ne _ (Ne.symm hj)]

namespace Direct

/-- **Fields set to their values in a record have these values**, and the others keep theirs. -/
theorem assign_stored (r s : Record e) (ps : List (Field × Fin e.fields.length)) :
    ∃ t, assign s (ps.map fun p => write p (r.get p.2)) = ⟨t, .ok ()⟩ ∧
      ∀ i, t.get i = if i ∈ ps.map Prod.snd then r.get i else s.get i := by
  induction ps generalizing s with
  | nil =>
    refine ⟨s, rfl, ?_⟩
    intro i
    rw [List.map_nil, if_neg List.not_mem_nil]
  | cons p ps ih =>
    obtain ⟨x, hx, hfirst⟩ := r.put_stored s p.2
    obtain ⟨t, hassign, hrest⟩ := ih (s.put p.2 x)
    refine ⟨t, ?_, ?_⟩
    · rw [List.map_cons, assign_write hx]
      exact hassign
    · intro i
      rw [hrest i, hfirst i, List.map_cons]
      by_cases hi : i = p.2
      · -- whether it is set again later or not, the field ends with the same value
        rw [if_pos hi, ite_self, if_pos (hi ▸ List.mem_cons_self)]
      · simp only [hi, if_false, List.mem_cons, false_or]

/-- **A row of some fields of a record sets these to what they were there**, and leaves the
others. -/
theorem populate_stored (hm : m.Describes e) (r s : Record e) {fs : List Field}
    (hfs : ∀ f ∈ fs, f ∈ m.fields) (hlen : fs.length ≤ m.fields.length) :
    (populate m s (.single (fs.map Field.column) (fs.map (Accessor.direct.valueOf m r)))).result =
        .ok () ∧
      ∀ i, (populate m s
          (.single (fs.map Field.column) (fs.map (Accessor.direct.valueOf m r)))).record.get i =
        if ∃ f ∈ fs, f.index = i then r.get i else s.get i := by
  obtain ⟨ps, hps, rfl, hplaces⟩ :=
    targets_of_resolve hm (hm.resolveColumns_columns hfs hlen)
  -- the row has the record's values at the places of its columns
  have hvalues : (ps.map Prod.fst).map (Accessor.direct.valueOf m r) =
      ps.map fun p => r.get p.2 := by
    rw [List.map_map]
    refine List.map_congr_left fun p hp => ?_
    show (Accessor.direct.field m r p.1.name).toOption.getD .null = r.get p.2
    rw [(hplaces p hp).2, Accessor.direct_field hm.toFollows]
    rfl
  -- each value is of its slot's type and passes the check there, so the scan keeps it
  have hscan : (Rows.single ((ps.map Prod.fst).map Field.column)
      (ps.map fun p => r.get p.2)).scan (ps.map fun p => m.slot p.1) =
        ⟨ps.map fun p => r.get p.2, none⟩ := by
    apply Rows.scan_kept (by simp)
    rw [List.forall₂_map_left_iff, List.forall₂_map_right_iff, List.forall₂_same]
    exact fun p hp => hm.slot_kept r (hfs _ (List.mem_map_of_mem hp)) (hplaces p hp).1
  have hindex : ∀ i : Fin e.fields.length,
      (∃ f ∈ ps.map Prod.fst, f.index = i) ↔ i ∈ ps.map Prod.snd := by
    intro i
    simp only [List.mem_map, exists_exists_and_eq_and]
    refine exists_congr fun p => and_congr_right fun hp => ?_
    rw [(hplaces p hp).1, Fin.val_inj]
  rw [hvalues, populate_of_targets hps, hscan]
  simp only [List.zipWith_map_right, List.zipWith_self, hindex]
  obtain ⟨t, hassign, hvalue⟩ := assign_stored r s ps
  rw [hassign]
  exact ⟨rfl, hvalue⟩

end Direct

namespace Insert

/-- The statement that inserts one record, with the fields of the names. -/
def single (r : Record e) (names : List String) : Insert e :=
  ofCalls [.value r, .columns names]

/-- Declared names give the statement its fields, no names all of them. -/
theorem fields_single (hm : m.Follows e) (r : Record e) {names : List String}
    (hnames : ∀ n ∈ names, n ∈ e.fields.map FieldSpec.name) :
    ∃ fs, fields (single r names) m = .ok fs ∧
      fs.map Field.name = if names = [] then e.fields.map FieldSpec.name else names := by
  cases names with
  | nil => exact ⟨m.fields, rfl, hm.names_eq.symm⟩
  | cons n names => exact hm.resolve_names hnames

/-- The statement for one record has its values in the fields asked for, in order. -/
theorem build_single (hm : m.Follows e) {look : Entity → Except Error Model}
    (hlook : look e = .ok m) {r : Record e} {names : List String} {fs : List Field} (d : Dialect)
    (hfs : fields (single r names) m = .ok fs) :
    ∃ sql, (build (single r names) d .direct).eval look = .ok sql ∧
      sql.args = fs.map (Accessor.direct.valueOf m r) := by
  have hread : ∀ n, look e = .ok n → ∀ r : Record e, ∀ f ∈ n.fields,
      Accessor.direct.field n r f.name = .ok (Accessor.direct.valueOf n r f) := by
    intro n hn r f hf
    rw [hlook] at hn
    cases hn
    exact Accessor.direct_valueOf hm r hf
  have hframe : frame (single r names) look d = .ok (m, fs, Sql.lit "") :=
    Except.bind_ok.2 ⟨m, hlook, Except.bind_ok.2 ⟨fs, hfs, rfl⟩⟩
  rw [build_frame hread, hframe]
  refine ⟨_, rfl, ?_⟩
  rw [args_frame]
  show [r].flatMap (fun r => fs.map (Accessor.direct.valueOf m r)) ++ [] = _
  rw [List.append_nil, List.flatMap_singleton]

/-- **A record that was inserted with all its fields comes back**, in the order of their declaration
or in any other, whatever the columns and the table are called. The arguments of the statement, as a
row under the columns of these fields, give every field of another record the value that it had. -/
theorem populate_inserted {g : Registry} (hg : g.Reachable) (hm : (g.model e).answer = .ok m)
    {names : List String} (hnames : names = [] ∨ names.Perm (e.fields.map FieldSpec.name))
    (d : Dialect) (r s : Record e) :
    ∃ fs sql, fields (single r names) m = .ok fs ∧
      fs.map Field.name = (if names = [] then e.fields.map FieldSpec.name else names) ∧
      ((build (single r names) d .direct).run g).answer = .ok sql ∧
      (Accessor.direct.populate m s (.single (fs.map Field.column) sql.args)).result = .ok () ∧
      ∀ i, (Accessor.direct.populate m s
        (.single (fs.map Field.column) sql.args)).record.get i = r.get i := by
  have hdescribes := hg.describes hm
  have hfollows := hdescribes.toFollows
  have hdeclared : ∀ n ∈ names, n ∈ e.fields.map FieldSpec.name := by
    rcases hnames with rfl | hperm
    · exact fun n hn => nomatch hn
    · exact fun n hn => hperm.mem_iff.1 hn
  obtain ⟨fs, hfs, horder⟩ := fields_single hfollows r hdeclared
  -- all columns at once are not more than the model has
  have hall : (fs.map Field.name).Perm (m.fields.map Field.name) := by
    rw [horder, ← hfollows.names_eq]
    split
    · exact .refl _
    · exact hnames.resolve_left ‹_›
  have hlen : fs.length = m.fields.length := by simpa using hall.length_eq
  have hinserts : ∀ i, Inserts (single r names) i := by
    intro i
    refine hnames.imp_right fun hperm => hperm.mem_iff.2 ?_
    exact List.mem_map_of_mem (List.get_mem e.fields i)
  obtain ⟨sql, hsql, hargs⟩ :=
    build_single hfollows ((g.answer_model e).symm.trans hm) (r := r) d hfs
  obtain ⟨hresult, hvalues⟩ :=
    Direct.populate_stored hdescribes r s (fun f hf => mem_of_fields hfs hf) (Nat.le_of_eq hlen)
  refine ⟨fs, sql, hfs, horder, ?_, ?_, ?_⟩
  · rw [Consult.answer_run, hsql]
  · rw [hargs]
    exact hresult
  · intro i
    rw [hargs]
    show (Direct.populate m s _).record.get i = r.get i
    rw [hvalues i, if_pos ((exists_field_iff hfollows hfs i).2 (hinserts i))]

/-- A person without a nickname in the place of one with a nickname, by way of a table in which two
columns have changed their names. -/
theorem populate_inserted_nameless : Sample.exchanged.Reachable ∧
    ["age", "id", "nick"].Perm (Sample.person.fields.map FieldSpec.name) ∧
    ∃ m, (Sample.exchanged.model Sample.person).answer = .ok m ∧ ∃ fs sql,
      fields (single Sample.nameless ["age", "id", "nick"]) m = .ok fs ∧
        fs.map Field.column = ["nick", "person_id", "age"] ∧
      ((build (single Sample.nameless ["age", "id", "nick"]) .sqlite .direct).run
        Sample.exchanged).answer = .ok sql ∧
      sql.query = ("INSERT INTO `people`(`nick`,`person_id`,`age`) VALUES (?,?,?);",
        [.int 90, .int 7, .null]) ∧
      (Accessor.direct.populate m Sample.al (.single (fs.map Field.column) sql.args)).result =
        .ok () ∧
      ∀ i, (Accessor.direct.populate m Sample.al
        (.single (fs.map Field.column) sql.args)).record.get i = Sample.nameless.get i := by
  have hg : Sample.exchanged.Reachable := .register .empty _ _
  have hnames : ["age", "id", "nick"].Perm (Sample.person.fields.map FieldSpec.name) := by decide
  obtain ⟨m, hm, hruns⟩ : ∃ m, (Sample.exchanged.model Sample.person).answer = .ok m ∧
      ((fields (single Sample.nameless ["age", "id", "nick"]) m).toOption.map
          fun fs => fs.map Field.column,
        ((build (single Sample.nameless ["age", "id", "nick"]) .sqlite .direct).run
          Sample.exchanged).answer.toOption.map Sql.query) =
      (some ["nick", "person_id", "age"],
        some ("INSERT INTO `people`(`nick`,`person_id`,`age`) VALUES (?,?,?);",
          [.int 90, .int 7, .null])) :=
    Except.ok_of_map (by decide +kernel)
  obtain ⟨hcolumns, hquery⟩ := Prod.mk.inj hruns
  obtain ⟨fs, sql, hfs, -, hsql, hresult, hvalues⟩ :=
    populate_inserted hg hm (.inr hnames) .sqlite Sample.nameless Sample.al
  rw [hfs] at hcolumns
  rw [hsql] at hquery
  exact ⟨hg, hnames, m, hm, fs, sql, hfs, Option.some.inj hcolumns, hsql, Option.some.inj hquery,
    hresult, hvalues⟩

end Insert

end RecordSql
