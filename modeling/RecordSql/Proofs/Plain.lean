import Mathlib.Order.Fin.Basic
import RecordSql.Proofs.Mapping
import RecordSql.Record.Access

/-!
# Plain serialized forms

A record type whose records serialize as one member a field, under the field's own name.

* `Entity.Plain`: such a record type.
* `Record.members_plain`: the member of each field is what the field holds.
* `Members.Represents`: members from which a record is read.
* `Members.Represents.ofMembers`: **reading the members that represent a record gives the record.**
-/

namespace RecordSql

theorem Members.lookup_insert (ms : Members) (k j : String) (m : Member) :
    (ms.insert k m).lookup j = if j = k then some m else ms.lookup j := by
  induction ms with
  | nil =>
    by_cases h : j = k
    · simp [insert, h]
    · simp [insert, List.lookup_cons, h, beq_false_of_ne h]
  | cons p ms ih =>
    obtain ⟨l, n⟩ := p
    by_cases hl : l = k
    · subst hl
      by_cases h : j = l
      · simp [insert, h]
      · simp [insert, List.lookup_cons, h, beq_false_of_ne h]
    · by_cases h : j = l
      · simp [insert, h, hl]
      · simp [insert, List.lookup_cons, hl, beq_false_of_ne h, ih]

namespace Entity

/-- Records of the type serialize as one member a field, with the field's name and value. -/
structure Plain (e : Entity) : Prop where
  form : e.form = .map
  member : ∀ f ∈ e.fields, f.memberName = f.name ∧ f.member.skip = false ∧ f.member.written = none

instance (e : Entity) : Decidable e.Plain :=
  decidable_of_iff (e.form = .map ∧ ∀ f ∈ e.fields,
      f.memberName = f.name ∧ f.member.skip = false ∧ f.member.written = none)
    ⟨fun h => ⟨h.1, h.2⟩, fun h => ⟨h.form, h.member⟩⟩

/-- The name of the `i`-th field. -/
def fieldName (e : Entity) (i : Fin e.fields.length) : String := (e.fields.get i).name

/-- No two fields have the same name. -/
def Distinct (e : Entity) : Prop := (e.fields.map FieldSpec.name).Nodup

variable {e : Entity}

theorem Distinct.eq (h : e.Distinct) {i j : Fin e.fields.length}
    (hij : e.fieldName i = e.fieldName j) : i = j := by
  have hname : ∀ k : Fin e.fields.length,
      (e.fields.map FieldSpec.name)[(k : ℕ)]? = some (e.fieldName k) := by
    intro k
    rw [List.getElem?_map, List.getElem?_eq_getElem k.isLt]
    rfl
  have hi : (i : ℕ) < (e.fields.map FieldSpec.name).length := by simp
  apply Fin.ext
  rw [← List.getElem?_inj hi h, hname, hname, hij]

/-- A member is read into the field of its name. -/
theorem Plain.memberField (hp : e.Plain) (hd : e.Distinct) (i : Fin e.fields.length) :
    e.memberField? (e.fieldName i) = some i := by
  have hmember : ∀ j, (!(e.fields.get j).member.skip &&
      (e.fields.get j).memberName == e.fieldName i) = true ↔ j = i := by
    intro j
    obtain ⟨hname, hskip, -⟩ := hp.member _ (List.get_mem e.fields j)
    rw [hname, hskip]
    simp only [Bool.not_false, Bool.true_and, beq_iff_eq]
    exact ⟨fun h => hd.eq h, fun h => h ▸ rfl⟩
  unfold memberField?
  cases hfind : (List.finRange e.fields.length).find? fun j =>
      !(e.fields.get j).member.skip && (e.fields.get j).memberName == e.fieldName i with
  | none =>
    have hnone := List.find?_eq_none.1 hfind i (List.mem_finRange i)
    exact absurd ((hmember i).2 rfl) hnone
  | some j =>
    have hj := List.find?_some hfind
    rw [(hmember j).1 hj]

end Entity

theorem Model.Follows.names_eq {m : Model} {e : Entity} (h : m.Follows e) :
    e.fields.map FieldSpec.name = m.fields.map Field.name := by
  apply List.ext_getElem?
  intro i
  rw [List.getElem?_map, List.getElem?_map]
  cases hf : m.fields[i]? with
  | none =>
    rw [List.getElem?_eq_none_iff] at hf
    rw [List.getElem?_eq_none (h.length ▸ hf)]
    rfl
  | some f =>
    obtain ⟨-, spec, hspec, hname, -⟩ := h.field i f hf
    rw [hspec, Option.map_some, Option.map_some, hname]

/-- The field at a place has the name and the type of that place. -/
theorem Model.Follows.at_place {m : Model} {e : Entity} (h : m.Follows e) {f : Field}
    {i : Fin e.fields.length} (hf : f ∈ m.fields) (hi : f.index = i) :
    f.name = e.fieldName i ∧ f.type = (e.storage i).fieldType := by
  obtain ⟨j, hj, hname, htype⟩ := h.place hf
  have hij : i = j := Fin.ext (hi.symm.trans hj)
  subst hij
  exact ⟨hname, htype⟩

theorem Model.Follows.distinct {m : Model} {e : Entity} (h : m.Follows e) : e.Distinct := by
  unfold Entity.Distinct
  rw [h.names_eq]
  exact h.names

variable {e : Entity}

/-- What is at a field's name when the fields at `is` have been written. -/
theorem Record.lookup_membersFrom (hp : e.Plain) (hd : e.Distinct) (r : Record e)
    (i : Fin e.fields.length) (is : List (Fin e.fields.length)) (ms : Members) :
    (r.membersFrom is ms).lookup (e.fieldName i) =
      if i ∈ is then some ((e.storage i).encode (r i)) else ms.lookup (e.fieldName i) := by
  induction is generalizing ms with
  | nil => simp [membersFrom]
  | cons j is ih =>
    obtain ⟨hname, hskip, hwritten⟩ := hp.member _ (List.get_mem e.fields j)
    have hstep : r.membersFrom (j :: is) ms =
        r.membersFrom is (ms.insert (e.fieldName j) ((e.storage j).encode (r j))) := by
      rw [membersFrom, hskip, hwritten, hname]
      rfl
    -- the names are different, so no later field writes over this one's member
    rw [hstep, ih, Members.lookup_insert]
    by_cases hmem : i ∈ is
    · simp [hmem]
    by_cases hij : i = j
    · subst hij
      simp
    · have hne : e.fieldName i ≠ e.fieldName j := fun h => hij (hd.eq h)
      simp [hmem, hij, hne]

/-- **The member of each field is what the field holds.** -/
theorem Record.members_plain (hp : e.Plain) (hd : e.Distinct) (r : Record e) :
    ∃ ms, r.members = .ok ms ∧
      ∀ i, ms.lookup (e.fieldName i) = some ((e.storage i).encode (r i)) := by
  refine ⟨r.membersFrom (List.finRange e.fields.length) [], by rw [members, hp.form], ?_⟩
  intro i
  rw [Record.lookup_membersFrom hp hd, if_pos (List.mem_finRange i)]

/-- The members from which `r` is read: each field's decodes to what `r` holds there. -/
def Members.Represents (ms : Members) (r : Record e) : Prop :=
  ∀ i, ∃ m, ms.lookup (e.fieldName i) = some m ∧ (e.storage i).decode m = .ok (r i)

theorem Members.Represents.readMembers {ms : Members} {r : Record e} (h : ms.Represents r)
    (hp : e.Plain) (hd : e.Distinct) (is : List (Fin e.fields.length)) (s : Record e) :
    Record.readMembers ms is s = .ok fun i => if i ∈ is then r i else s i := by
  induction is generalizing s with
  | nil => simp [Record.readMembers]
  | cons j is ih =>
    obtain ⟨m, hm, hdecode⟩ := h j
    have hname : (e.fields.get j).memberName = e.fieldName j :=
      (hp.member _ (List.get_mem e.fields j)).1
    rw [Record.readMembers]
    simp only [hname, hp.memberField hd j, if_pos, hm, hdecode]
    rw [ih]
    congr 1
    funext i
    by_cases hmem : i ∈ is
    · simp [hmem]
    by_cases hij : j = i
    · subst hij
      simp [hmem, Record.put_self]
    · simp [hmem, Ne.symm hij, Record.put_of_ne _ hij]

/-- **Reading the members that represent a record gives the record.** -/
theorem Members.Represents.ofMembers {ms : Members} {r : Record e} (h : ms.Represents r)
    (hp : e.Plain) (hd : e.Distinct) : Record.ofMembers ms = .ok r := by
  unfold Record.ofMembers
  rw [h.readMembers hp hd]
  simp [List.mem_finRange]

/-- A member that decodes to `x` makes `x` what the record holds. -/
theorem Members.Represents.insert {ms : Members} {r : Record e} (h : ms.Represents r)
    (hd : e.Distinct) {i : Fin e.fields.length} {m : Member} {x : (e.storage i).Carrier}
    (hm : (e.storage i).decode m = .ok x) :
    (ms.insert (e.fieldName i) m).Represents (r.put i x) := by
  intro j
  rw [Members.lookup_insert]
  by_cases hij : i = j
  · subst hij
    exact ⟨m, if_pos rfl, by rw [Record.put_self, hm]⟩
  · obtain ⟨n, hn, hdecode⟩ := h j
    have hne : e.fieldName j ≠ e.fieldName i := fun heq => hij (hd.eq heq).symm
    exact ⟨n, by rw [if_neg hne, hn], by rw [Record.put_of_ne _ hij, hdecode]⟩

end RecordSql
