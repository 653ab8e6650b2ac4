import Mathlib.Data.List.Nodup
import RecordSql.Proofs.Evaluation

/-!
# Models describe their record types

However a model has been made, its fields are those of its record type, in order, and its look-ups
find the field of each name and of each column.

* `NameIndex.build_ok`, `NameIndex.build_error`: the index of the fields, or the first of them whose
  name another one has.
* `Model.Filled`: the tables are what the record type describes.
* `Model.Follows`: the fields are those of a record type, under different names.
* `Model.Describes`: and the columns are different too.
* `Model.parse_describes`, `Model.configure_describes`: parsing and options give such models.
* `Registry.Reachable`: the registries that requests lead to.
* `Registry.Reachable.describes`: **every model of a registry describes its record type.**
-/

namespace RecordSql

/-! ## Look-ups -/

section Lookup

variable {α β : Type} [BEq α] [LawfulBEq α] {l : List (α × β)} {k : α} {b : β}

theorem mem_of_lookup (h : l.lookup k = some b) : (k, b) ∈ l := by
  obtain ⟨l₁, l₂, rfl, -⟩ := List.lookup_eq_some_iff.1 h
  exact List.mem_append_right _ List.mem_cons_self

/-- Where the names are different, each entry is found. -/
theorem lookup_of_mem (hl : (l.map Prod.fst).Nodup) (h : (k, b) ∈ l) : l.lookup k = some b := by
  induction l with
  | nil => cases h
  | cons p l ih =>
    obtain ⟨j, c⟩ := p
    rw [List.map_cons, List.nodup_cons] at hl
    rcases List.mem_cons.1 h with heq | hmem
    · cases heq
      exact List.lookup_cons_self
    · have hne : (k == j) = false := by
        rw [beq_eq_false_iff_ne]
        rintro rfl
        exact hl.1 (List.mem_map.2 ⟨(k, b), hmem, rfl⟩)
      rw [List.lookup_cons, hne]
      exact ih hl.2 hmem

end Lookup

namespace NameIndex

variable {key : Field → String} {ix jx : NameIndex} {fs : List Field}

theorem isSome_lookup {name : String} : (ix.lookup name).isSome ↔ name ∈ ix.map Prod.fst := by
  rw [List.lookup_isSome_iff, List.mem_map]
  exact ⟨fun ⟨p, hp, heq⟩ => ⟨p, hp, (beq_iff_eq.1 heq).symm⟩,
    fun ⟨p, hp, heq⟩ => ⟨p, hp, beq_iff_eq.2 heq.symm⟩⟩

/-- A name that was not found in the index so far is not in it. -/
theorem nodup_concat {name : String} {i : ℕ} (hix : (ix.map Prod.fst).Nodup)
    (hnew : ¬ (ix.lookup name).isSome) : ((ix ++ [(name, i)]).map Prod.fst).Nodup := by
  rw [List.map_append, List.nodup_append]
  refine ⟨hix, List.nodup_singleton _, ?_⟩
  rintro a ha b hb rfl
  rw [List.mem_singleton.1 hb] at ha
  exact hnew (isSome_lookup.2 ha)

/-- An index that has been built has an entry for every field, each under its own name. -/
theorem build_ok (h : build key ix fs = .ok jx) (hix : (ix.map Prod.fst).Nodup) :
    jx = ix ++ fs.map (fun f => (key f, f.index)) ∧ (jx.map Prod.fst).Nodup := by
  induction fs generalizing ix with
  | nil =>
    cases h
    exact ⟨by simp, hix⟩
  | cons f fs ih =>
    unfold build at h
    split at h
    · cases h
    rename_i hnew
    obtain ⟨hjx, hnodup⟩ := ih h (nodup_concat hix hnew)
    refine ⟨?_, hnodup⟩
    rw [hjx, List.append_assoc]
    rfl

/-- An index that cannot be built has a first field whose name is there already. -/
theorem build_error {name : String} (h : build key ix fs = .error name)
    (hix : (ix.map Prod.fst).Nodup) :
    ∃ first f rest, fs = first ++ f :: rest ∧ key f = name ∧
      (ix.map Prod.fst ++ first.map key).Nodup ∧ key f ∈ ix.map Prod.fst ++ first.map key := by
  induction fs generalizing ix with
  | nil => cases h
  | cons f fs ih =>
    unfold build at h
    split at h
    · rename_i hfound
      cases h
      refine ⟨[], f, fs, rfl, rfl, ?_, ?_⟩
      · rwa [List.map_nil, List.append_nil]
      · rw [List.map_nil, List.append_nil]
        exact isSome_lookup.1 hfound
    · rename_i hnew
      obtain ⟨first, g, rest, rfl, hname, hnodup, hmem⟩ := ih h (nodup_concat hix hnew)
      rw [List.map_append, List.append_assoc] at hnodup hmem
      exact ⟨f :: first, g, rest, rfl, hname, hnodup, hmem⟩

end NameIndex

/-- What the record type describes as reading and setting its fields. -/
def Entity.accessorTable (e : Entity) : AccessorTable e :=
  ⟨e.describe.map Descriptor.get, e.describe.map Descriptor.set⟩

namespace Model

variable {m n : Model} {e : Entity}

/-- The tables of `m` have the functions that its record type describes, in order. -/
structure Filled (m : Model) : Prop where
  checks : m.checks = m.entity.describe.map Descriptor.check
  accessors : m.accessors = m.entity.accessorTable

/-- The fields of `m` are those of the record type `e`, in order and under different names, and its
tables are filled. -/
structure Follows (m : Model) (e : Entity) : Prop where
  entity : m.entity = e
  filled : m.Filled
  length : m.fields.length = e.fields.length
  field : ∀ i (f : Field), m.fields[i]? = some f → f.index = i ∧ ∃ spec, e.fields[i]? = some spec ∧
    f.name = spec.name ∧ f.type = spec.storage.fieldType
  byName : m.byName = m.fields.map fun f => (f.name, f.index)
  names : (m.fields.map Field.name).Nodup

/-- The model describes the record type `e`: its fields are those of `e`, each with a column of its
own, and its look-ups find them. -/
structure Describes (m : Model) (e : Entity) : Prop extends m.Follows e where
  byColumn : m.byColumn = m.fields.map fun f => (f.column, f.index)
  columns : (m.fields.map Field.column).Nodup

theorem Follows.getElem?_index (h : m.Follows e) {f : Field} (hf : f ∈ m.fields) :
    m.fields[f.index]? = some f := by
  obtain ⟨i, hi⟩ := List.mem_iff_getElem?.1 hf
  rw [(h.field i f hi).1]
  exact hi

/-- A field of the model is that of its place in the record type. -/
theorem Follows.place (h : m.Follows e) {f : Field} (hf : f ∈ m.fields) :
    ∃ i : Fin e.fields.length, f.index = i ∧ f.name = (e.fields.get i).name ∧
      f.type = (e.storage i).fieldType := by
  obtain ⟨-, spec, hspec, hname, htype⟩ := h.field f.index f (h.getElem?_index hf)
  obtain ⟨hlt, rfl⟩ := List.getElem?_eq_some_iff.1 hspec
  exact ⟨⟨f.index, hlt⟩, rfl, hname, htype⟩

theorem accessorsOf_self (m : Model) : m.accessorsOf m.entity = .ok m.accessors := dif_pos rfl

/-- A model of the record type has the functions that the type describes. -/
theorem Filled.accessorsOf (hm : m.Filled) (h : m.entity = e) :
    m.accessorsOf e = .ok e.accessorTable := by
  subst h
  rw [m.accessorsOf_self, hm.accessors]

/-- Every field of the record type is in the model. -/
theorem Follows.exists_field (h : m.Follows e) (i : Fin e.fields.length) :
    ∃ f ∈ m.fields, f.index = i := by
  have hlt : (i : ℕ) < m.fields.length := h.length.symm ▸ i.isLt
  obtain ⟨f, hf⟩ : ∃ f, m.fields[(i : ℕ)]? = some f := ⟨_, List.getElem?_eq_getElem hlt⟩
  exact ⟨f, List.mem_of_getElem? hf, (h.field i f hf).1⟩

/-- An index by something that the fields have different finds the field that has it. -/
theorem Follows.at_lookup (h : m.Follows e) {key : Field → String} {k : String} {f : Field}
    (hkey : (m.fields.map key).Nodup) :
    m.at? ((m.fields.map fun g => (key g, g.index)).lookup k) = some f ↔
      f ∈ m.fields ∧ key f = k := by
  constructor
  · intro hf
    obtain ⟨i, hi, hfi⟩ := Option.bind_eq_some_iff.1 hf
    obtain ⟨g, hg, hpair⟩ := List.mem_map.1 (mem_of_lookup hi)
    cases hpair
    rw [h.getElem?_index hg] at hfi
    cases hfi
    exact ⟨hg, rfl⟩
  · rintro ⟨hf, rfl⟩
    have hnodup : ((m.fields.map fun g => (key g, g.index)).map Prod.fst).Nodup := by
      rw [List.map_map]
      exact hkey
    have hlook := lookup_of_mem hnodup (List.mem_map.2 ⟨f, hf, rfl⟩)
    rw [hlook]
    exact h.getElem?_index hf

theorem Follows.resolveField_ok (h : m.Follows e) {name : String} {f : Field} :
    m.resolveField name = .ok f ↔ f ∈ m.fields ∧ f.name = name := by
  rw [← h.at_lookup h.names, ← h.byName]
  unfold resolveField field?
  cases m.at? (m.byName.lookup name) with
  | none => simp
  | some g => simp

theorem Describes.resolveColumn_ok (h : m.Describes e) {column : String} {f : Field} :
    m.resolveColumn column = .ok f ↔ f ∈ m.fields ∧ f.column = column := by
  rw [← h.at_lookup h.columns, ← h.byColumn]
  unfold resolveColumn fieldByColumn?
  cases m.at? (m.byColumn.lookup column) with
  | none => simp
  | some g => simp

/-! ## Parsing and options -/

theorem parseFields_cons {i : ℕ} {d : Descriptor e} {ds : List (Descriptor e)} {p : Parsed e} :
    parseFields i (d :: ds) = .ok p ↔ ∃ c q, columnOf d.spec = .ok c ∧
      parseFields (i + 1) ds = .ok q ∧
        q.cons ⟨c, d.spec.name, d.spec.storage.fieldType, i⟩ d = p := by
  rw [parseFields]
  cases columnOf d.spec with
  | error err => simp
  | ok c => cases parseFields (i + 1) ds <;> simp [Except.map]

theorem parseFields_ok {i : ℕ} {ds : List (Descriptor e)} {p : Parsed e}
    (h : parseFields i ds = .ok p) :
    p.fields.length = ds.length ∧ ∀ j (f : Field), p.fields[j]? = some f → f.index = i + j ∧
      ∃ spec, (ds.map Descriptor.spec)[j]? = some spec ∧ f.name = spec.name ∧
        f.type = spec.storage.fieldType := by
  induction ds generalizing i p with
  | nil =>
    cases h
    exact ⟨rfl, fun j f hf => by simp at hf⟩
  | cons d ds ih =>
    obtain ⟨c, q, -, hrest, rfl⟩ := parseFields_cons.1 h
    obtain ⟨hlen, hfields⟩ := ih hrest
    refine ⟨by simp [Parsed.cons, hlen], ?_⟩
    intro j f hf
    cases j with
    | zero =>
      cases hf
      exact ⟨rfl, d.spec, rfl, rfl, rfl⟩
    | succ j =>
      obtain ⟨hindex, hspec⟩ := hfields j f hf
      exact ⟨by omega, hspec⟩

/-- **Parsing puts every function of the description in its table**, in order. -/
theorem parseFields_filled {i : ℕ} {ds : List (Descriptor e)} {p : Parsed e}
    (h : parseFields i ds = .ok p) : p.checks = ds.map Descriptor.check ∧
      p.getters = ds.map Descriptor.get ∧ p.setters = ds.map Descriptor.set := by
  induction ds generalizing i p with
  | nil =>
    cases h
    exact ⟨rfl, rfl, rfl⟩
  | cons d ds ih =>
    obtain ⟨c, q, -, hrest, rfl⟩ := parseFields_cons.1 h
    obtain ⟨hchecks, hgetters, hsetters⟩ := ih hrest
    exact ⟨congrArg _ hchecks, congrArg _ hgetters, congrArg _ hsetters⟩

theorem indexColumns_describes (h : m.Follows e) (hn : m.indexColumns = .ok n) :
    n.Describes e := by
  unfold indexColumns at hn
  split at hn
  · cases hn
  rename_i ix hix
  cases hn
  obtain ⟨hcols, hnodup⟩ := NameIndex.build_ok hix List.nodup_nil
  rw [hcols, List.nil_append, List.map_map] at hnodup
  have hfilled : Filled { m with byColumn := ix } :=
    ⟨h.filled.checks, h.filled.accessors⟩
  exact ⟨⟨h.entity, hfilled, h.length, h.field, h.byName, h.names⟩, hcols, hnodup⟩

/-- **A parsed model describes its record type.** -/
theorem parse_describes (h : parse e = .ok m) : m.Describes e := by
  unfold parse at h
  split at h
  · cases h
  split at h
  · cases h
  rename_i p hp
  split at h
  · cases h
  rename_i ix hix
  obtain ⟨hlen, hfields⟩ := parseFields_ok hp
  obtain ⟨hchecks, hgetters, hsetters⟩ := parseFields_filled hp
  obtain ⟨hnames, hnodup⟩ := NameIndex.build_ok hix List.nodup_nil
  rw [hnames, List.nil_append, List.map_map] at hnodup
  have hdistinct : (p.fields.map Field.name).Nodup := hnodup
  rw [Entity.length_describe] at hlen
  rw [Entity.map_spec_describe] at hfields
  have hfilled : Filled ⟨e, tableOf e, p.fields, ix, [], p.checks, ⟨p.getters, p.setters⟩⟩ :=
    ⟨hchecks, by rw [hgetters, hsetters]; rfl⟩
  refine indexColumns_describes ⟨rfl, hfilled, hlen, ?_, hnames, hdistinct⟩ h
  intro i f hf
  obtain ⟨hindex, hspec⟩ := hfields i f hf
  exact ⟨by omega, hspec⟩

/-- What the new column does not change is the same for every field. -/
theorem map_modify_column {α : Type} (key : Field → α) (column : String)
    (hkey : ∀ f : Field, key { f with column } = key f) (fs : List Field) (i : ℕ) :
    (fs.modify i ({ · with column })).map key = fs.map key := by
  induction fs generalizing i with
  | nil => rw [List.modify_nil]
  | cons f fs ih =>
    cases i with
    | zero => simp [hkey]
    | succ i => simp [ih]

theorem apply_follows {o : ModelOption} (h : m.Follows e) (hn : m.apply o = .ok n) :
    n.Follows e := by
  cases o with
  | table name =>
    cases hn
    exact ⟨h.entity, ⟨h.filled.checks, h.filled.accessors⟩, h.length, h.field,
      h.byName, h.names⟩
  | column field column =>
    simp only [apply] at hn
    split at hn
    · cases hn
    rename_i g _
    cases hn
    -- a column is not what `Follows` is about, so the index by column may be out of date here
    refine ⟨h.entity, ⟨h.filled.checks, h.filled.accessors⟩,
      by simpa using h.length, ?_, ?_, ?_⟩
    · intro i f hf
      simp only [List.getElem?_modify] at hf
      obtain ⟨f', hf', rfl⟩ := Option.map_eq_some_iff.1 hf
      obtain ⟨hindex, spec, hspec, hname, htype⟩ := h.field i f' hf'
      split
      · exact ⟨hindex, spec, hspec, hname, htype⟩
      · exact ⟨hindex, spec, hspec, hname, htype⟩
    · rw [h.byName]
      exact (map_modify_column _ _ (fun _ => rfl) _ _).symm
    · rw [map_modify_column Field.name _ fun _ => rfl]
      exact h.names

theorem applyAll_follows {os : List ModelOption} (h : m.Follows e) (hn : m.applyAll os = .ok n) :
    n.Follows e := by
  induction os generalizing m with
  | nil =>
    cases hn
    exact h
  | cons o os ih =>
    unfold applyAll at hn
    split at hn
    · cases hn
    rename_i k hk
    exact ih (apply_follows h hk) hn

/-- **A model after options describes its record type.** -/
theorem configure_describes {os : List ModelOption} (h : m.Follows e)
    (hn : m.configure os = .ok n) : n.Describes e := by
  unfold configure at hn
  split at hn
  · cases hn
  rename_i k hk
  exact indexColumns_describes (applyAll_follows h hk) hn

end Model

/-! ## Registries -/

namespace Registry

/-- The registries that requests lead to from the empty one. -/
inductive Reachable : Registry → Prop where
  | empty : Reachable .empty
  | model {r : Registry} (h : Reachable r) (e : Entity) : Reachable (r.model e).registry
  | register {r : Registry} (h : Reachable r) (e : Entity) (os : List ModelOption) :
    Reachable (r.register e os).registry

/-- Every model that is kept describes its record type. -/
def Sound (r : Registry) : Prop := ∀ e m, r.find? e = some m → m.Describes e

variable {r : Registry} {e : Entity} {m : Model}

theorem Sound.insert (h : r.Sound) (hm : m.Describes e) : (r.insert e m).Sound := by
  intro f n hn
  rw [find?_insert] at hn
  split at hn
  · rename_i hf
    cases hn
    rw [hf]
    exact hm
  · exact h f n hn

theorem Sound.model (h : r.Sound) (e : Entity) : (r.model e).registry.Sound := by
  unfold Registry.model
  split
  · exact h
  · split
    · rename_i m hm
      exact h.insert (Model.parse_describes hm)
    · exact h

theorem Sound.register (h : r.Sound) (e : Entity) (os : List ModelOption) :
    (r.register e os).registry.Sound := by
  unfold Registry.register
  split
  · exact h
  · rename_i m hm
    split
    · exact h
    · rename_i n hn
      exact h.insert (Model.configure_describes (Model.parse_describes hm).toFollows hn)

theorem Reachable.sound (h : r.Reachable) : r.Sound := by
  induction h with
  | empty => exact fun _ _ hm => nomatch hm
  | model _ e ih => exact ih.model e
  | register _ e os ih => exact ih.register e os

/-- **Every model of a registry describes its record type.** -/
theorem Reachable.describes (h : r.Reachable) (hm : (r.model e).answer = .ok m) :
    m.Describes e := by
  rw [answer_model] at hm
  unfold look at hm
  split at hm
  · rename_i n hn
    cases hm
    exact h.sound e _ hn
  · exact Model.parse_describes hm

/-- Statements lead to reachable registries, too. -/
theorem Reachable.run {α : Type} (h : r.Reachable) (c : Consult α) :
    (c.run r).registry.Reachable := by
  induction c generalizing r with
  | pure a => exact h
  | fail err => exact h
  | ask e k ih =>
    have hnext := h.model e
    unfold Consult.run
    split
    · rename_i heq
      rw [heq] at hnext
      exact ih _ hnext
    · rename_i heq
      rw [heq] at hnext
      exact hnext

end Registry

end RecordSql
