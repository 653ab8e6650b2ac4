import RecordSql.Proofs.Setting

/-!
# The parts of a model fit together

A model has a list of fields, two look-ups, and tables of what checks, reads and sets a field. The
tables are filled when the record type is parsed, and options change columns. Whatever options a
model was made with, its parts are about the same fields.

* `Model.Coherent`: the parts of a model fit together.
* `Model.Describes.coherent`: those of a model that describes a record type do.
* `Model.Coherent.checkValue_error`, `Model.Coherent.field_error`: no field is without a check or a
  getter.
* `Registry.Reachable.models_cohere`: **the parts of every model fit together**, of those that a
  registry keeps and of those that it hands out.
-/

namespace RecordSql

variable {e : Entity} {m : Model}

namespace Model

/-- The parts of a model fit together. -/
structure Coherent (m : Model) : Prop where
  /-- Each field knows its place. -/
  index : ∀ i (f : Field), m.fields[i]? = some f → f.index = i
  names : (m.fields.map Field.name).Nodup
  columns : (m.fields.map Field.column).Nodup
  /-- The look-ups find each field by its name and by its column, and nothing else. -/
  field : ∀ n f, m.field? n = some f ↔ f ∈ m.fields ∧ f.name = n
  column : ∀ c f, m.fieldByColumn? c = some f ↔ f ∈ m.fields ∧ f.column = c
  /-- What the look-ups give are places of fields. -/
  name_lt : ∀ n i, m.byName.lookup n = some i → i < m.fields.length
  column_lt : ∀ c i, m.byColumn.lookup c = some i → i < m.fields.length
  /-- The tables have as many entries as there are fields. -/
  checks : m.checks.length = m.fields.length
  getters : m.accessors.getters.length = m.fields.length
  setters : m.accessors.setters.length = m.fields.length
  /-- The entries at the index of a field are those of its own place in the record type. -/
  entries : ∀ f ∈ m.fields, ∃ i : Fin m.entity.fields.length, f.index = i ∧
    f.name = m.entity.fieldName i ∧ f.type = (m.entity.storage i).fieldType ∧
      m.checks[f.index]? = some (m.entity.storage i).check ∧
        m.accessors.getters[f.index]? = some (fun r => r.get i) ∧
          m.accessors.setters[f.index]? = some (fun r v => r.set i v)

theorem Follows.lookup_lt (h : m.Follows e) {key : Field → String} {k : String} {i : ℕ}
    (hi : (m.fields.map fun f => (key f, f.index)).lookup k = some i) : i < m.fields.length := by
  obtain ⟨f, hf, hpair⟩ := List.mem_map.1 (mem_of_lookup hi)
  cases hpair
  exact (List.getElem?_eq_some_iff.1 (h.getElem?_index hf)).1

/-- The tables that have been filled have as many entries as the record type has fields. -/
theorem Filled.lengths (hm : m.Filled) : m.checks.length = m.entity.fields.length ∧
    m.accessors.getters.length = m.entity.fields.length ∧
      m.accessors.setters.length = m.entity.fields.length := by
  rw [hm.checks, hm.accessors]
  simp [Entity.accessorTable]

/-- They have an entry at every place of the record type. -/
theorem Filled.entries (hm : m.Filled) (i : Fin m.entity.fields.length) :
    m.checks[(i : ℕ)]? = some (m.entity.storage i).check ∧
      m.accessors.getters[(i : ℕ)]? = some (fun r => r.get i) ∧
        m.accessors.setters[(i : ℕ)]? = some (fun r v => r.set i v) := by
  rw [hm.checks, hm.accessors]
  unfold Entity.accessorTable
  simp only [List.getElem?_map, Entity.getElem?_describe]
  exact ⟨rfl, rfl, rfl⟩

theorem Describes.coherent (h : m.Describes e) : m.Coherent := by
  obtain rfl := h.entity
  obtain ⟨hchecks, hgetters, hsetters⟩ := h.filled.lengths
  rw [← h.length] at hchecks hgetters hsetters
  refine ⟨fun i f hf => (h.field i f hf).1, h.names, h.columns, ?_, ?_, ?_, ?_, hchecks, hgetters,
    hsetters, ?_⟩
  · intro n f
    unfold field?
    rw [h.byName]
    exact h.at_lookup h.names
  · intro c f
    unfold fieldByColumn?
    rw [h.byColumn]
    exact h.at_lookup h.columns
  · intro n i hi
    rw [h.byName] at hi
    exact h.lookup_lt hi
  · intro c i hi
    rw [h.byColumn] at hi
    exact h.lookup_lt hi
  · intro f hf
    obtain ⟨i, hi, hname, htype⟩ := h.place hf
    exact ⟨i, hi, hname, htype, hi ▸ h.filled.entries i⟩

/-! ## No field lacks an entry -/

/-- A check of a field of the model is made, and fails for the value only. -/
theorem Coherent.checkValue_error (h : m.Coherent) {f : Field} (hf : f ∈ m.fields) {v : Value}
    {err : Error} (herr : m.checkValue f v = .error err) :
    ∃ message, err = .decode f.column message := by
  obtain ⟨i, -, -, -, hcheck, -, -⟩ := h.entries f hf
  unfold checkValue at herr
  rw [hcheck] at herr
  obtain ⟨fault, -, rfl⟩ := Except.mapError_error.1 herr
  exact ⟨_, rfl⟩

/-- Reading a field of a record of the model's type fails for its name only. -/
theorem Coherent.field_error (h : m.Coherent) {r : Record m.entity} {name : String} {err : Error}
    (herr : Direct.field m r name = .error err) :
    m.field? name = none ∧ err = .unknownField name := by
  unfold Direct.field resolveField at herr
  cases hf : m.field? name with
  | none =>
    rw [hf] at herr
    cases herr
    exact ⟨rfl, rfl⟩
  | some f =>
    -- a field that has been found has a getter, so it is read
    obtain ⟨i, -, -, -, -, hget, -⟩ := h.entries f ((h.field name f).1 hf).1
    rw [hf, m.accessorsOf_self] at herr
    simp only [bind, Except.bind, hget] at herr
    cases herr

end Model

namespace Registry

/-- The registry keeps `m` for `e`, or hands it out when it is asked for or registered. -/
def Gives (g : Registry) (e : Entity) (m : Model) : Prop :=
  g.find? e = some m ∨ (g.model e).answer = .ok m ∨ ∃ os, (g.register e os).answer = .ok m

theorem Reachable.gives_describes {g : Registry} (hg : g.Reachable) (hm : g.Gives e m) :
    m.Describes e := by
  rcases hm with hfind | hmodel | ⟨os, hregister⟩
  · exact hg.sound e m hfind
  · exact hg.describes hmodel
  · unfold Registry.register at hregister
    split at hregister
    · cases hregister
    · rename_i p hp
      split at hregister
      · cases hregister
      · rename_i n hn
        cases hregister
        exact Model.configure_describes (Model.parse_describes hp).toFollows hn

/-- **The parts of every model fit together**, of those that a registry keeps and of those that it
hands out, whatever the requests before. So no field of the model lacks a check, a getter or a
setter: checking fails for the value only, reading for the name only, and each column that resolves
can be set. -/
theorem Reachable.models_cohere {g : Registry} (hg : g.Reachable) (hm : g.Gives e m) :
    m.entity = e ∧ m.Coherent ∧
      (∀ f ∈ m.fields, ∀ v err, m.checkValue f v = .error err →
        ∃ message, err = .decode f.column message) ∧
      (∀ (r : Record e) name err, Direct.field m r name = .error err →
        m.field? name = none ∧ err = .unknownField name) ∧
      ∀ cs fs, m.resolveColumns cs = .ok fs →
        ∃ ts : List (Field × Setter e), Direct.targets m cs = .ok ts ∧ ts.map Prod.fst = fs := by
  have hdescribes := hg.gives_describes hm
  have hcoherent := hdescribes.coherent
  obtain rfl := hdescribes.entity
  refine ⟨rfl, hcoherent, ?_, ?_, ?_⟩
  · exact fun f hf v err => hcoherent.checkValue_error hf
  · exact fun r name err => hcoherent.field_error
  · intro cs fs hfs
    obtain ⟨ps, hps, rfl, -⟩ := Direct.targets_of_resolve hdescribes hfs
    exact ⟨_, hps, List.map_map⟩

/-- Two fields of people have changed columns, one of them over a third column. -/
theorem Reachable.models_cohere_swapped : Reachable .empty ∧ ∃ m, Gives .empty Sample.person m ∧
    m.entity = Sample.person ∧ m.Coherent ∧
    m.fields.map Field.column = ["person_id", "age", "nick"] ∧ m.checks.length = 3 ∧
    m.accessors.getters.length = 3 ∧ m.accessors.setters.length = 3 ∧
    (∃ f ∈ m.fields, ∃ message, m.checkValue f (.int 300) = .error (.decode f.column message)) ∧
    m.field? "size" = none ∧
    ∃ ts : List (Field × Setter Sample.person), Direct.targets m ["nick", "age"] = .ok ts ∧
      ts.map (fun t => t.1.name) = ["age", "nick"] := by
  have hg : Reachable .empty := .empty
  obtain ⟨m, hm, hruns⟩ : ∃ m, (Registry.empty.register Sample.person Sample.swapped).answer =
      .ok m ∧ (m.fields.map Field.column, m.fields[2]?.map fun f => m.checkValue f (.int 300),
        Direct.field m (Record.initial : Record Sample.person) "size",
        (m.resolveColumns ["nick", "age"]).toOption.map fun fs => fs.map Field.name) =
      (["person_id", "age", "nick"],
        some (.error (.decode "nick" "expected u8, found out of range integer 300")),
        .error (.unknownField "size"), some ["age", "nick"]) :=
    Except.ok_of_map (by decide +kernel)
  simp only [Prod.mk.injEq] at hruns
  obtain ⟨hcolumns, hcheck, hfield, hresolve⟩ := hruns
  obtain ⟨f, hf, hfault⟩ := Option.map_eq_some_iff.1 hcheck
  obtain ⟨fs, hfs, hnames⟩ := Except.ok_of_map hresolve
  have hgives : Gives .empty Sample.person m := .inr (.inr ⟨_, hm⟩)
  obtain ⟨hentity, hcoherent, hchecks, hreads, htargets⟩ := hg.models_cohere hgives
  have hlength : m.fields.length = 3 := by simpa using congrArg List.length hcolumns
  have hmem : f ∈ m.fields := List.mem_of_getElem? hf
  obtain ⟨message, hmessage⟩ := hchecks f hmem _ _ hfault
  obtain ⟨ts, hts, rfl⟩ := htargets _ fs hfs
  rw [List.map_map] at hnames
  exact ⟨hg, m, hgives, hentity, hcoherent, hcolumns, hcoherent.checks.trans hlength,
    hcoherent.getters.trans hlength, hcoherent.setters.trans hlength,
    ⟨f, hmem, message, hmessage ▸ hfault⟩, (hreads _ _ _ hfield).1, ts, hts, hnames⟩

end Registry

end RecordSql
