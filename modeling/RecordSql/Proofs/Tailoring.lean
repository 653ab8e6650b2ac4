import RecordSql.Proofs.Requests
import RecordSql.Proofs.Requirements

/-!
# What options make of a model

Options are applied one after the other, to a model whose columns may clash on the way. What comes
of it is told by the last option for each field and for the table alone.

* `lastColumn`, `lastTable`: what options say last.
* `Model.retarget`: a model with what options say last.
* `Model.Follows.applyAll_declared`, `Model.Follows.applyAll_unknown`: **options for declared fields
  retarget the model**, and the first of another field fails.
* `Tailoring`: the ways in which registering can go, in the order of what is looked at.
* `Registry.register_tailors`: **registering goes one of these ways**, the order of options for
  different things does not count, and columns may be exchanged as one likes.
-/

namespace RecordSql

/-! ## What options say last -/

/-- The column that an option gives to the field of the name. -/
def ModelOption.column? (name : String) : ModelOption → Option String
  | .column field c => if field = name then some c else none
  | .table _ => none

def ModelOption.table? : ModelOption → Option String
  | .column .. => none
  | .table name => some name

/-- The column that options give last to the field of the name. -/
def lastColumn (os : List ModelOption) (name : String) : Option String :=
  (os.filterMap (ModelOption.column? name)).getLast?

/-- The table that options give last. -/
def lastTable (os : List ModelOption) : Option String := (os.filterMap ModelOption.table?).getLast?

/-- All options for columns are for declared fields. -/
def Entity.Admits (e : Entity) (os : List ModelOption) : Prop :=
  ∀ name column, .column name column ∈ os → e.Declares name

variable {e : Entity} {m n : Model} {o : ModelOption} {os os' : List ModelOption} {name : String}

theorem getLast?_filterMap_cons {α β : Type} (f : α → Option β) (a : α) (as : List α) :
    ((a :: as).filterMap f).getLast? = ((as.filterMap f).getLast?).or (f a) := by
  rw [List.filterMap_cons]
  cases f a with
  | none => exact Option.or_none.symm
  | some b => rw [List.getLast?_cons, ← Option.or_some]

theorem lastColumn_cons (o : ModelOption) (os : List ModelOption) (name : String) :
    lastColumn (o :: os) name = (lastColumn os name).or (o.column? name) :=
  getLast?_filterMap_cons _ o os

theorem lastTable_cons (o : ModelOption) (os : List ModelOption) :
    lastTable (o :: os) = (lastTable os).or o.table? :=
  getLast?_filterMap_cons _ o os

theorem ModelOption.column?_eq {column : String} (h : o.column? name = some column) :
    o = .column name column := by
  cases o with
  | table t => cases h
  | column field c =>
    obtain ⟨rfl, hc⟩ := Option.ite_none_right_eq_some.1 h
    cases hc
    rfl

theorem mem_of_lastColumn {column : String} (h : lastColumn os name = some column) :
    .column name column ∈ os := by
  obtain ⟨o, ho, hcolumn⟩ := List.mem_filterMap.1 (List.mem_of_getLast? h)
  exact ModelOption.column?_eq hcolumn ▸ ho

/-- Options for a field give it a column. -/
theorem lastColumn_of_mem {column : String} (h : .column name column ∈ os) :
    ∃ c, lastColumn os name = some c := by
  have hmem : column ∈ os.filterMap (ModelOption.column? name) :=
    List.mem_filterMap.2 ⟨_, h, if_pos rfl⟩
  cases hlast : lastColumn os name with
  | none =>
    rw [List.getLast?_eq_none_iff.1 hlast] at hmem
    cases hmem
  | some c => exact ⟨c, rfl⟩

/-- Which fields options are for shows in what they say last. -/
theorem Entity.Admits.of_last (h : e.Admits os) (hlast : lastColumn os = lastColumn os') :
    e.Admits os' := by
  intro name column hmem
  obtain ⟨c, hc⟩ := lastColumn_of_mem hmem
  rw [← hlast] at hc
  exact h name c (mem_of_lastColumn hc)

theorem Entity.admits_iff : e.Admits os ↔
    ∀ o ∈ os, ∀ name column, o = .column name column → e.Declares name :=
  ⟨fun h _ ho name column heq => h name column (heq ▸ ho),
    fun h name column hmem => h _ hmem name column rfl⟩

theorem Entity.admits_cons : e.Admits (o :: os) ↔
    (∀ name column, o = .column name column → e.Declares name) ∧ e.Admits os := by
  rw [admits_iff, admits_iff, List.forall_mem_cons]

/-- All options are for declared fields, or there is a first one that is not. -/
theorem Entity.admits_or_unknown (e : Entity) (os : List ModelOption) :
    e.Admits os ∨ ∃ first name column rest, os = first ++ .column name column :: rest ∧
      e.Admits first ∧ ¬ e.Declares name := by
  rcases forall_or_first (fun o => ∀ name column, o = .column name column → e.Declares name) os
    with hall | ⟨first, o, rest, hos, hfirst, ho⟩
  · exact .inl (admits_iff.2 hall)
  · push Not at ho
    obtain ⟨name, column, rfl, hname⟩ := ho
    exact .inr ⟨first, name, column, rest, hos, admits_iff.2 hfirst, hname⟩

namespace Model

/-! ## A model with other columns -/

/-- The model with what options say last. The look-up by column is left as it was. -/
def retarget (m : Model) (os : List ModelOption) : Model :=
  { m with
    tableName := (lastTable os).getD m.tableName
    fields := m.fields.map fun f => { f with column := (lastColumn os f.name).getD f.column } }

/-- The model with a look-up for the columns that it has. -/
def indexed (m : Model) : Model :=
  { m with byColumn := m.fields.map fun f => (f.column, f.index) }

theorem retarget_nil (m : Model) : m.retarget [] = m := by
  show { m with fields := m.fields.map id } = m
  rw [List.map_id]

theorem retarget_cons (m : Model) (o : ModelOption) (os : List ModelOption) :
    (m.retarget [o]).retarget os = m.retarget (o :: os) := by
  unfold retarget
  simp only [List.map_map]
  congr 1
  · rw [lastTable_cons o os, lastTable_cons o []]
    cases lastTable os <;> rfl
  · refine List.map_congr_left fun f _ => ?_
    simp only [Function.comp_apply]
    rw [lastColumn_cons o os, lastColumn_cons o []]
    cases lastColumn os f.name <;> rfl

/-- The field of a name is the one at its index. -/
theorem Follows.modify_column (h : m.Follows e) {f : Field} (hf : f ∈ m.fields) (column : String) :
    m.fields.modify f.index ({ · with column }) =
      m.fields.map fun g => if g.name = f.name then { g with column } else g := by
  apply List.ext_getElem?
  intro i
  rw [List.getElem?_modify, List.getElem?_map]
  cases hg : m.fields[i]? with
  | none => rfl
  | some g =>
    -- there is one field of the name and one at the index, and `f` is both
    have hsame : f.index = i ↔ g.name = f.name := by
      constructor
      · rintro rfl
        rw [h.getElem?_index hf] at hg
        cases hg
        rfl
      · intro hname
        obtain rfl : g = f := List.inj_on_of_nodup_map h.names (List.mem_of_getElem? hg) hf hname
        exact (h.field i g hg).1
    simp only [Option.map_some, hsame]
    split <;> rfl

/-- An option for a declared field, or for the table, retargets the model. -/
theorem Follows.apply_declared (h : m.Follows e)
    (ho : ∀ name column, o = .column name column → e.Declares name) :
    m.apply o = .ok (m.retarget [o]) := by
  cases o with
  | table t =>
    show _ = Except.ok { m with tableName := t, fields := m.fields.map id }
    rw [List.map_id]
    rfl
  | column name column =>
    obtain ⟨f, hf, rfl⟩ := h.declares.1 (ho name column rfl)
    rw [apply, h.resolveField_ok.2 ⟨hf, rfl⟩]
    dsimp only
    rw [h.modify_column hf, retarget]
    congr 2
    refine List.map_congr_left fun g _ => ?_
    rw [lastColumn_cons]
    show _ = { g with column := (if f.name = g.name then some column else none).getD g.column }
    -- the field of the name gets the column, and the others keep theirs
    by_cases hg : g.name = f.name
    · rw [if_pos hg, if_pos hg.symm]
      rfl
    · rw [if_neg hg, if_neg (Ne.symm hg)]
      rfl

theorem Follows.apply_unknown (h : m.Follows e) {column : String} (hname : ¬ e.Declares name) :
    m.apply (.column name column) = .error (.unknownField name) := by
  have herr : m.resolveField name = .error (.unknownField name) := by
    cases hres : m.resolveField name with
    | ok f => exact absurd (h.declares.2 ⟨f, h.resolveField_ok.1 hres⟩) hname
    | error err =>
      unfold resolveField at hres
      split at hres <;> cases hres
      rfl
  rw [apply, herr]

theorem applyAll_cons (m : Model) (o : ModelOption) (os : List ModelOption) :
    m.applyAll (o :: os) = (m.apply o).bind fun n => n.applyAll os := by
  rw [applyAll]
  cases m.apply o <;> rfl

theorem applyAll_append (m : Model) (os os' : List ModelOption) :
    m.applyAll (os ++ os') = (m.applyAll os).bind fun n => n.applyAll os' := by
  induction os generalizing m with
  | nil => rfl
  | cons o os ih =>
    rw [List.cons_append, applyAll_cons, applyAll_cons]
    cases m.apply o with
    | error err => rfl
    | ok n => exact ih n

/-- **Options for declared fields retarget the model.** -/
theorem Follows.applyAll_declared (h : m.Follows e) (hos : e.Admits os) :
    m.applyAll os = .ok (m.retarget os) := by
  -- columns may clash between two options, but `Follows` is not about columns
  induction os generalizing m with
  | nil => rw [retarget_nil, applyAll]
  | cons o os ih =>
    obtain ⟨ho, hos⟩ := Entity.admits_cons.1 hos
    have happly := h.apply_declared ho
    rw [applyAll_cons, happly, ← retarget_cons m o os]
    exact ih (apply_follows h happly) hos

/-- **The first option for another field fails.** -/
theorem Follows.applyAll_unknown (h : m.Follows e) {first rest : List ModelOption}
    {column : String} (hfirst : e.Admits first) (hname : ¬ e.Declares name) :
    m.applyAll (first ++ .column name column :: rest) = .error (.unknownField name) := by
  have hok := h.applyAll_declared hfirst
  rw [applyAll_append, hok]
  show (m.retarget first).applyAll (.column name column :: rest) = _
  rw [applyAll_cons, (applyAll_follows h hok).apply_unknown hname]
  rfl

/-- Columns that are different are indexed, and otherwise the first that repeats one is named. -/
theorem indexColumns_cases (m : Model) :
    (m.fields.map Field.column).Nodup ∧ m.indexColumns = .ok m.indexed ∨
      ∃ first f rest, m.fields = first ++ f :: rest ∧ (first.map Field.column).Nodup ∧
        f.column ∈ first.map Field.column ∧
        m.indexColumns = .error (.duplicateColumn f.column) := by
  unfold indexColumns
  cases hix : NameIndex.build Field.column [] m.fields with
  | ok ix =>
    obtain ⟨rfl, hnodup⟩ := NameIndex.build_ok hix List.nodup_nil
    rw [List.nil_append, List.map_map] at hnodup
    exact .inl ⟨hnodup, rfl⟩
  | error c =>
    obtain ⟨first, f, rest, hfields, rfl, hnodup, hmem⟩ := NameIndex.build_error hix List.nodup_nil
    exact .inr ⟨first, f, rest, hfields, hnodup, hmem, rfl⟩

end Model

/-! ## Registering -/

open Model (parse)

/-- The ways in which registering options for a record type can go. What fails first is the
error. -/
inductive Tailoring (e : Entity) (os : List ModelOption) : Except Error Model → Prop where
  /-- The record type has no model of its own. -/
  | unparsed {err : Error} (h : parse e = .error err) : Tailoring e os (.error err)
  /-- An option is for a field that is not declared, behind others that are not. -/
  | unknown {m : Model} {first rest : List ModelOption} {name column : String}
    (h : parse e = .ok m) (hos : os = first ++ .column name column :: rest)
    (hfirst : e.Admits first) (hname : ¬ e.Declares name) :
    Tailoring e os (.error (.unknownField name))
  /-- A field is on the column of a field before it, and those before it are on different ones. -/
  | clash {m : Model} {first rest : List Field} {f : Field} (h : parse e = .ok m)
    (hos : e.Admits os) (hfields : (m.retarget os).fields = first ++ f :: rest)
    (hfirst : (first.map Field.column).Nodup) (hf : f.column ∈ first.map Field.column) :
    Tailoring e os (.error (.duplicateColumn f.column))
  /-- The model is that of the record type, with what the options say last. -/
  | made {m : Model} (h : parse e = .ok m) (hos : e.Admits os)
    (hcolumns : ((m.retarget os).fields.map Field.column).Nodup) :
    Tailoring e os (.ok (m.retarget os).indexed)

/-- **Registering goes one of the ways of `Tailoring`.** -/
theorem tailoring_tailored (e : Entity) (os : List ModelOption) :
    Tailoring e os (Model.tailored e (some os)) := by
  unfold Model.tailored
  cases h : parse e with
  | error err => exact .unparsed h
  | ok m =>
    have hm := (Model.parse_describes h).toFollows
    unfold Model.configure
    dsimp only
    rcases e.admits_or_unknown os with hos | ⟨first, name, column, rest, rfl, hfirst, hname⟩
    · rw [hm.applyAll_declared hos]
      dsimp only
      rcases (m.retarget os).indexColumns_cases with
        ⟨hcolumns, hindex⟩ | ⟨first, f, rest, hfields, hnodup, hmem, hindex⟩
      · rw [hindex]
        exact .made h hos hcolumns
      · rw [hindex]
        exact .clash h hos hfields hnodup hmem
    · rw [hm.applyAll_unknown hfirst hname]
      exact .unknown h rfl hfirst hname

namespace Tailoring

variable {x : Except Error Model}

/-- Registering succeeds if the record type has a model of its own, the options are for declared
fields and the columns are different in the end. -/
theorem ok_iff (h : Tailoring e os x) : (∃ n, x = .ok n) ↔ ∃ m, parse e = .ok m ∧ e.Admits os ∧
    ((m.retarget os).fields.map Field.column).Nodup := by
  cases h with
  | @unparsed err hparse =>
    refine ⟨nofun, ?_⟩
    rintro ⟨m, hm, -⟩
    cases hparse.symm.trans hm
  | @unknown m first rest name column hparse hos hfirst hname =>
    refine ⟨nofun, ?_⟩
    rintro ⟨m, -, hall, -⟩
    subst hos
    exact absurd (hall name column (List.mem_append_right _ List.mem_cons_self)) hname
  | @clash m first rest f hparse hos hfields hfirst hf =>
    refine ⟨nofun, ?_⟩
    rintro ⟨n, hn, -, hcolumns⟩
    cases hparse.symm.trans hn
    rw [hfields, List.map_append, List.nodup_append] at hcolumns
    exact absurd rfl (hcolumns.2.2 _ hf _ List.mem_cons_self)
  | @made m hparse hos hcolumns => exact ⟨fun _ => ⟨m, hparse, hos, hcolumns⟩, fun _ => ⟨_, rfl⟩⟩

end Tailoring

/-- What has been made is the model with what the options say last. -/
theorem tailored_ok : Model.tailored e (some os) = .ok n ↔ ∃ m, parse e = .ok m ∧ e.Admits os ∧
    ((m.retarget os).fields.map Field.column).Nodup ∧ n = (m.retarget os).indexed := by
  have h := tailoring_tailored e os
  constructor
  · intro hn
    rw [hn] at h
    cases h with
    | @made m hparse hos hcolumns => exact ⟨m, hparse, hos, hcolumns, rfl⟩
  · rintro ⟨m, hparse, hos, hcolumns, rfl⟩
    obtain ⟨n, hn⟩ := h.ok_iff.2 ⟨m, hparse, hos, hcolumns⟩
    rw [hn] at h
    cases h with
    | made hparse' =>
      cases hparse.symm.trans hparse'
      exact hn

/-! ## Columns exchanged -/

namespace Model

/-- The options are for declared fields, and the fields have the columns after them. -/
def LeadsTo (m : Model) (e : Entity) (os : List ModelOption) (cs : List String) : Prop :=
  e.Admits os ∧ (m.retarget os).fields.map Field.column = cs

/-- Options that give the fields the columns, one by one. -/
def assigned (m : Model) (cs : List String) : List ModelOption :=
  ((m.fields.map Field.name).zip cs).map fun p => .column p.1 p.2

variable {cs : List String}

theorem mem_assigned {column : String} :
    .column name column ∈ m.assigned cs ↔ (name, column) ∈ (m.fields.map Field.name).zip cs := by
  constructor
  · intro h
    obtain ⟨⟨name', column'⟩, hp, heq⟩ := List.mem_map.1 h
    cases heq
    exact hp
  · exact fun h => List.mem_map.2 ⟨_, h, rfl⟩

/-- Each field is assigned its own column, and none twice. -/
theorem lastColumn_assigned (hnames : (m.fields.map Field.name).Nodup)
    (hlen : cs.length = m.fields.length) {column : String}
    (h : (name, column) ∈ (m.fields.map Field.name).zip cs) :
    lastColumn (m.assigned cs) name = some column := by
  have hkeys : (((m.fields.map Field.name).zip cs).map Prod.fst).Nodup := by
    rwa [List.map_fst_zip (by rw [List.length_map, hlen])]
  obtain ⟨c, hc⟩ := lastColumn_of_mem (mem_assigned.2 h)
  have hmem := mem_assigned.1 (mem_of_lastColumn hc)
  rw [hc, ← lookup_of_mem hkeys hmem, lookup_of_mem hkeys h]

/-- **Fields can be given any columns**, one each. -/
theorem Follows.leadsTo_assigned (h : m.Follows e) (hlen : cs.length = m.fields.length) :
    m.LeadsTo e (m.assigned cs) cs := by
  constructor
  · intro name column hmem
    exact h.declares.2 (List.mem_map.1 (List.of_mem_zip (mem_assigned.1 hmem)).1)
  · show (m.fields.map _).map _ = cs
    rw [List.map_map, ← List.forall₂_eq_eq_eq, List.forall₂_map_left_iff, List.forall₂_iff_zip]
    refine ⟨hlen.symm, fun {f c} hfc => ?_⟩
    have hmem : (f.name, c) ∈ (m.fields.map Field.name).zip cs := by
      rw [List.zip_map_left]
      exact List.mem_map.2 ⟨(f, c), hfc, rfl⟩
    show (lastColumn (m.assigned cs) f.name).getD f.column = c
    rw [lastColumn_assigned h.names hlen hmem]
    rfl

end Model

namespace Registry

/-- **What registering accepts and what it makes**, for every record type and all options. It goes
one of the ways of `Tailoring`, whatever the registry.

* It succeeds iff the record type has a model of its own, the options are for declared fields and
  the columns are different in the end.
* Options that say the same last make the same model.
* If a model has been made then its columns may be exchanged in any way, by any options that do. -/
theorem register_tailors (g : Registry) (e : Entity) (os : List ModelOption) :
    Tailoring e os (g.register e os).answer ∧
      ((∃ n, (g.register e os).answer = .ok n) ↔ ∃ m, parse e = .ok m ∧ e.Admits os ∧
        ((m.retarget os).fields.map Field.column).Nodup) ∧
      (∀ os', lastTable os = lastTable os' →
        (∀ name, lastColumn os name = lastColumn os' name) →
        ∀ n, (g.register e os).answer = .ok n ↔ (g.register e os').answer = .ok n) ∧
      ∀ n cs, (g.register e os).answer = .ok n → cs.Perm (n.fields.map Field.column) →
        ∃ m, parse e = .ok m ∧ m.LeadsTo e (m.assigned cs) cs ∧
          ∀ os', m.LeadsTo e os' cs → ∃ n', (g.register e os').answer = .ok n' ∧
            n'.fields.map Field.column = cs := by
  have hanswer : ∀ os, (g.register e os).answer = Model.tailored e (some os) :=
    fun os => (g.register_cases e os).1
  have hways := tailoring_tailored e os
  simp only [hanswer]
  refine ⟨hways, hways.ok_iff, ?_, ?_⟩
  · intro os' htable hcolumn n
    -- a model is retargeted by what options say last, and so is what they are for
    replace hcolumn : lastColumn os = lastColumn os' := funext hcolumn
    have hsame : ∀ m : Model, m.retarget os = m.retarget os' := by
      intro m
      rw [Model.retarget, Model.retarget, htable, hcolumn]
    have hadmits : e.Admits os ↔ e.Admits os' :=
      ⟨fun h => h.of_last hcolumn, fun h => h.of_last hcolumn.symm⟩
    simp only [tailored_ok, hsame, hadmits]
  · intro n cs hn hcs
    obtain ⟨m, hm, -, hcolumns, rfl⟩ := tailored_ok.1 hn
    have hlen : cs.length = m.fields.length := by
      rw [hcs.length_eq, List.length_map]
      exact List.length_map _
    refine ⟨m, hm, (Model.parse_describes hm).leadsTo_assigned hlen, ?_⟩
    rintro os' ⟨hadmits, hleads⟩
    have hnodup : ((m.retarget os').fields.map Field.column).Nodup := by
      rw [hleads]
      exact hcs.nodup_iff.2 hcolumns
    exact ⟨_, tailored_ok.2 ⟨m, hm, hadmits, hnodup, rfl⟩, hleads⟩

end Registry

namespace Sample

/-- Options that exchange the columns at once and say the same last as `swapped`. -/
def exchange : List ModelOption := [.table "people", .column "age" "nick", .column "nick" "age"]

/-- Options that exchange two columns of the record type's own model. -/
def turned : List ModelOption := [.column "id" "age", .column "age" "person_id"]

theorem last_exchange : lastTable swapped = lastTable exchange ∧
    ∀ name, lastColumn swapped name = lastColumn exchange name := by
  refine ⟨rfl, fun name => ?_⟩
  simp only [swapped, exchange, lastColumn_cons, ModelOption.column?]
  by_cases hnick : "nick" = name
  · simp [hnick, lastColumn]
  · by_cases hage : "age" = name
    · simp [hnick, hage, lastColumn]
    · simp [hnick, hage, lastColumn]

theorem admits_turned : person.Admits turned := by
  refine Entity.admits_cons.2 ⟨?_, Entity.admits_cons.2 ⟨?_, fun _ _ h => nomatch h⟩⟩
  · rintro name column ⟨⟩
    decide
  · rintro name column ⟨⟩
    decide

end Sample

namespace Registry

open Sample

/-- Columns are exchanged by way of a third one, or at once, or with another one. -/
theorem register_tailors_swapped : ∃ n n', (Registry.empty.register person swapped).answer = .ok n ∧
    (Registry.empty.register person exchange).answer = .ok n ∧ n.tableName = "people" ∧
    n.fields.map Field.column = ["person_id", "age", "nick"] ∧
    (Registry.empty.register person turned).answer = .ok n' ∧
    n'.fields.map Field.column = ["age", "nick", "person_id"] := by
  obtain ⟨-, -, hsame, hexchange⟩ := register_tailors .empty person swapped
  obtain ⟨n, hn, hruns⟩ : ∃ n, (Registry.empty.register person swapped).answer = .ok n ∧
      (n.tableName, n.fields.map Field.column) = ("people", ["person_id", "age", "nick"]) :=
    Except.ok_of_map (by decide +kernel)
  obtain ⟨htable, hcolumns⟩ := Prod.mk.inj hruns
  obtain ⟨m, hm, -, hleads⟩ := hexchange n ["age", "nick", "person_id"] hn (by rw [hcolumns]; decide)
  obtain ⟨m', hm', hturned⟩ : ∃ m, Model.parse person = .ok m ∧
      (m.retarget turned).fields.map Field.column = ["age", "nick", "person_id"] :=
    Except.ok_of_map (by decide +kernel)
  obtain rfl : m = m' := Except.ok.inj (hm.symm.trans hm')
  obtain ⟨n', hn', hcolumns'⟩ := hleads turned ⟨admits_turned, hturned⟩
  exact ⟨n, n', hn, (hsame exchange last_exchange.1 last_exchange.2 n).1 hn, htable, hcolumns, hn',
    hcolumns'⟩

end Registry

end RecordSql
