import RecordSql.Proofs.Mention
import RecordSql.Proofs.Plain
import RecordSql.Proofs.Sample

/-!
# What a SELECT requires

A SELECT is built exactly if all that stands in it can be resolved. Otherwise it fails for the first
thing that cannot, from left to right.

* `Requirement`: something that must hold; `Requirement.fault` is the error if it does not.
* `Consult.Requires`: a computation fails for the first of some requirements that is not met.
* `Scope.column_requires`, `Scope.predicate_requires`, `Scope.tableRef_requires`: what columns,
  conditions and joins require.
* `Select.needs`: what a statement requires, in the order in which it is looked at.
* `Select.build_requires`: **a SELECT is built exactly if its requirements are met, and otherwise
  fails for the first that is not.**
-/

namespace RecordSql

/-! ## Requirements -/

/-- The record type has a field of the name. -/
def Entity.Declares (e : Entity) (name : String) : Prop := name ∈ e.fields.map FieldSpec.name

instance (e : Entity) (name : String) : Decidable (e.Declares name) :=
  inferInstanceAs (Decidable (_ ∈ _))

theorem Model.Follows.declares {m : Model} {e : Entity} (h : m.Follows e) {name : String} :
    e.Declares name ↔ ∃ f ∈ m.fields, f.name = name := by
  rw [Entity.Declares, h.names_eq, List.mem_map]

/-- If the tables `from` are joined, one of them is that of the record type. -/
def Entity.Joined (e : Entity) : Option TableRef → Prop
  | some (.join k l r c) => ∃ t ∈ (TableRef.join k l r c).tables, t.entity = e
  | _ => True

instance (e : Entity) : (source : Option TableRef) → Decidable (e.Joined source)
  | some (.join _ _ _ _) => inferInstanceAs (Decidable (∃ t ∈ _, _))
  | some (.table _) | none => .isTrue trivial

/-- Something that must hold for a statement to be built. -/
inductive Requirement where
  /-- The record type has a model. -/
  | model (e : Entity)
  | field (e : Entity) (name : String)
  /-- The field's column can be written without a table of its own. -/
  | unqualified (e : Entity) (source : Option TableRef) (name : String)
  /-- The expression is a column to group by. -/
  | group (x : Expr)
deriving DecidableEq

namespace Requirement

variable (look : Entity → Except Error Model)

def Met : Requirement → Prop
  | .model e => ∃ m, look e = .ok m
  | .field e name => e.Declares name
  | .unqualified e source _ => e.Joined source
  | .group x => x.column?.isSome

/-- The error if the requirement is not met. -/
def fault : Requirement → Option Error
  | .model e => match look e with
    | .ok _ => none
    | .error err => some err
  | .field e name => if e.Declares name then none else some (.unknownField name)
  | .unqualified e source name => if e.Joined source then none else match look e with
    | .ok m => some (.unsupportedExpression
        (String.join ["unqualified column `", name, "` in a join without `", m.tableName, "`"]))
    | .error err => some err
  | .group x => if x.column?.isSome then none else
      some (.unsupportedExpression (String.join [x.kind, " in GROUP BY"]))

variable {look}

theorem fault_eq_none {r : Requirement} : r.fault look = none ↔ r.Met look := by
  cases r with
  | model e => cases h : look e <;> simp [fault, Met, h]
  | field e name => simp [fault, Met]
  | unqualified e source name => cases h : look e <;> simp [fault, Met, h]
  | group x => by_cases h : x.column?.isSome <;> simp [fault, Met, h]

instance (r : Requirement) : Decidable (r.Met look) := decidable_of_iff _ fault_eq_none

/-- The first of the requirements that is not met, by its error. -/
theorem findSome_fault {rs : List Requirement} {err : Error} :
    rs.findSome? (fault look) = some err ↔ ∃ before r after, rs = before ++ r :: after ∧
      (∀ p ∈ before, p.Met look) ∧ r.fault look = some err := by
  rw [List.findSome?_eq_some_iff]
  simp only [fault_eq_none]
  constructor
  · rintro ⟨before, r, after, hrs, hr, hbefore⟩
    exact ⟨before, r, after, hrs, hbefore, hr⟩
  · rintro ⟨before, r, after, hrs, hbefore, hr⟩
    exact ⟨before, r, after, hrs, hr, hbefore⟩

end Requirement

/-! ## Computations that require something -/

namespace Consult

variable {look : Entity → Except Error Model} {α β : Type} {rs ss : List Requirement}

/-- The computation fails for the first of the requirements that is not met. -/
def Requires (look : Entity → Except Error Model) (c : Consult α) (rs : List Requirement) : Prop :=
  ∀ err, c.eval look = .error err ↔ rs.findSome? (Requirement.fault look) = some err

namespace Requires

theorem pure (a : α) : Requires look (.pure a) [] := fun _ => ⟨nofun, nofun⟩

/-- A computation succeeds exactly if all its requirements are met. -/
theorem ok_iff {c : Consult α} (h : Requires look c rs) :
    (∃ a, c.eval look = .ok a) ↔ ∀ r ∈ rs, r.Met look := by
  simp only [← Requirement.fault_eq_none, ← List.findSome?_eq_none_iff]
  cases hc : c.eval look with
  | error err =>
    rw [(h err).1 hc]
    exact ⟨nofun, nofun⟩
  | ok a =>
    refine ⟨fun _ => ?_, fun _ => ⟨a, rfl⟩⟩
    cases hfirst : rs.findSome? (Requirement.fault look) with
    | none => rfl
    | some err =>
      rw [(h err).2 hfirst] at hc
      cases hc

/-- What comes later is only required once everything before it has succeeded. -/
theorem bind {c : Consult α} {f : α → Consult β} (hc : Requires look c rs)
    (hf : ∀ a, c.eval look = .ok a → Requires look (f a) ss) :
    Requires look (c.bind f) (rs ++ ss) := by
  intro err
  rw [eval_bind, List.findSome?_append]
  cases hv : c.eval look with
  | error err' =>
    rw [(hc err').1 hv]
    simp [Except.bind]
  | ok a =>
    -- all that the first computation requires is met, so the first fault is in `ss`
    have hnone : rs.findSome? (Requirement.fault look) = none := by
      rw [List.findSome?_eq_none_iff]
      exact fun r hr => Requirement.fault_eq_none.2 (hc.ok_iff.1 ⟨a, hv⟩ r hr)
    rw [hnone]
    exact hf a hv err

/-- Nothing more is required to go on with a result. -/
theorem map {c : Consult α} (hc : Requires look c rs) (f : α → β) :
    Requires look (c.bind fun a => .pure (f a)) rs := by
  have h := hc.bind fun a _ => pure (f a)
  rwa [List.append_nil] at h

theorem all {f : α → Consult β} {needs : α → List Requirement}
    (h : ∀ a, Requires look (f a) (needs a)) (as : List α) :
    Requires look (Consult.all f as) (as.flatMap needs) := by
  induction as with
  | nil => exact pure _
  | cons a as ih => exact (h a).bind fun b _ => ih.map (b :: ·)

theorem model (e : Entity) : Requires look (.model e) [.model e] := by
  intro err
  rw [eval_model, List.findSome?_singleton, Requirement.fault]
  cases look e <;> simp

end Requires

end Consult

/-! ## What the parts of a statement require -/

section Needs

variable (e : Entity) (source : Option TableRef)

/-- A column in a statement for records of type `e` that reads from `source`. -/
def Column.needs (c : Column) : List Requirement :=
  match c.table with
  -- an unknown name is reported as such, even where no column could stand without a table
  | none => [.field e c.name, .unqualified e source c.name]
  | some t => [.model t.entity, .field t.entity c.name]

def Predicate.needs (p : Predicate) : List Requirement := p.columns.flatMap (·.needs e source)

def JoinCondition.needs (left : TableRef) : JoinCondition → List Requirement
  -- without names, the table on the left is not looked up
  | .using [] => []
  | .using names => .model left.leftmost.entity :: names.map (.field left.leftmost.entity)
  | .on ps => ps.flatMap (·.needs e source)

/-- The left side, then the right side, then the condition. -/
def TableRef.needs : TableRef → List Requirement
  | .table t => [.model t.entity]
  | .join _ l r c => needs l ++ needs r ++ c.needs e source l

def SelectItem.needs (i : SelectItem) : List Requirement := i.columns.flatMap (·.needs e source)

def Expr.needs (x : Expr) : List Requirement :=
  x.column?.elim [.group x] (·.needs e source)

end Needs

/-- What a statement requires, in the order in which it is looked at. -/
def Select.needs (q : Select) (e : Entity) : List Requirement :=
  [.model e] ++ q.columns.flatMap (·.needs e q.source) ++
    q.source.elim [] (·.needs e q.source) ++ q.wheres.flatMap (·.needs e q.source) ++
    q.groupBy.flatMap (·.needs e q.source) ++ q.having.flatMap (·.needs e q.source) ++
    q.orderBy.flatMap (·.needs e q.source)

/-! ## Requirements that are met -/

/-- The fields that both sides of a join share, with the record type that must have them: that of
the first table on the left. -/
def JoinCondition.shared (left : TableRef) : JoinCondition → List (Entity × String)
  | .using names => names.map (left.leftmost.entity, ·)
  | .on _ => []

def TableRef.shared : TableRef → List (Entity × String)
  | .table _ => []
  | .join _ l r c => shared l ++ shared r ++ c.shared l

/-- The column can be resolved in a statement for records of type `e` that reads from `source`. -/
structure Column.Resolves (look : Entity → Except Error Model) (e : Entity)
    (source : Option TableRef) (c : Column) : Prop where
  table : ∀ t ∈ c.table, ∃ m, look t.entity = .ok m
  /-- The column is that of a field of its own table's record type, else of the statement's. -/
  field : (c.table.elim e Table.entity).Declares c.name
  place : c.table = none → e.Joined source

/-- All that stands in the statement can be resolved. -/
structure Select.Resolves (q : Select) (look : Entity → Except Error Model) (e : Entity) :
    Prop where
  own : ∃ m, look e = .ok m
  tables : ∀ t ∈ q.source.toList.flatMap TableRef.tables, ∃ m, look t.entity = .ok m
  columns : ∀ c ∈ q.allColumns, c.Resolves look e q.source
  shared : ∀ p ∈ q.source.toList.flatMap TableRef.shared, p.1.Declares p.2
  groups : ∀ x ∈ q.groupBy, x.column?.isSome

section Met

variable {look : Entity → Except Error Model} {e : Entity} {source : Option TableRef}

theorem Column.met_needs {c : Column} :
    (∀ r ∈ c.needs e source, r.Met look) ↔ c.Resolves look e source := by
  obtain ⟨name, table, label, order⟩ := c
  cases table with
  | none =>
    simp only [needs, List.forall_mem_cons, Requirement.Met]
    constructor
    · rintro ⟨hfield, hplace, -⟩
      exact ⟨fun _ ht => (nomatch ht), hfield, fun _ => hplace⟩
    · intro h
      exact ⟨h.field, h.place rfl, List.forall_mem_nil _⟩
  | some t =>
    simp only [needs, List.forall_mem_cons, Requirement.Met]
    constructor
    · rintro ⟨htable, hfield, -⟩
      refine ⟨?_, hfield, fun ht => (nomatch ht)⟩
      rintro u ⟨⟩
      exact htable
    · intro h
      exact ⟨h.table t rfl, h.field, List.forall_mem_nil _⟩

theorem Column.met_flatMap_needs {cs : List Column} :
    (∀ r ∈ cs.flatMap (·.needs e source), r.Met look) ↔ ∀ c ∈ cs, c.Resolves look e source := by
  simp only [List.forall_mem_flatMap, Column.met_needs]

/-- Things that require no more than their columns do. -/
theorem Column.met_flatMap_columns {α : Type} {columns : α → List Column} {xs : List α} :
    (∀ r ∈ xs.flatMap fun x => (columns x).flatMap (·.needs e source), r.Met look) ↔
      ∀ c ∈ xs.flatMap columns, c.Resolves look e source := by
  simp only [List.forall_mem_flatMap, Column.met_needs]

/-- The condition of a join, once the tables of its left side have models. -/
theorem JoinCondition.met_needs {left : TableRef} {c : JoinCondition}
    (hleft : ∃ m, look left.leftmost.entity = .ok m) :
    (∀ r ∈ c.needs e source left, r.Met look) ↔
      (∀ x ∈ c.columns, x.Resolves look e source) ∧
        ∀ p ∈ c.shared left, p.1.Declares p.2 := by
  cases c with
  | on ps =>
    exact Column.met_flatMap_columns.trans (and_iff_left (List.forall_mem_nil _)).symm
  | «using» names =>
    cases names with
    | nil => simp [needs, columns, shared]
    | cons name names => simp [needs, columns, shared, Requirement.Met, hleft]

theorem TableRef.met_needs {t : TableRef} :
    (∀ r ∈ t.needs e source, r.Met look) ↔
      (∀ u ∈ t.tables, ∃ m, look u.entity = .ok m) ∧
        (∀ c ∈ t.columns, c.Resolves look e source) ∧ ∀ p ∈ t.shared, p.1.Declares p.2 := by
  induction t with
  | table t => simp [needs, tables, columns, shared, Requirement.Met]
  | join kind l r c ihl ihr =>
    simp only [needs, tables, columns, shared, List.forall_mem_append, ihl, ihr]
    constructor
    · rintro ⟨⟨⟨hlt, hlc, hls⟩, hrt, hrc, hrs⟩, hc⟩
      obtain ⟨hcc, hcs⟩ := (JoinCondition.met_needs (hlt _ l.leftmost_mem)).1 hc
      exact ⟨⟨hlt, hrt⟩, ⟨⟨hlc, hrc⟩, hcc⟩, ⟨hls, hrs⟩, hcs⟩
    · rintro ⟨⟨hlt, hrt⟩, ⟨⟨hlc, hrc⟩, hcc⟩, ⟨hls, hrs⟩, hcs⟩
      exact ⟨⟨⟨hlt, hlc, hls⟩, hrt, hrc, hrs⟩,
        (JoinCondition.met_needs (hlt _ l.leftmost_mem)).2 ⟨hcc, hcs⟩⟩

theorem TableRef.met_elim_needs {t : Option TableRef} :
    (∀ r ∈ t.elim [] (·.needs e source), r.Met look) ↔
      (∀ u ∈ t.toList.flatMap tables, ∃ m, look u.entity = .ok m) ∧
        (∀ c ∈ t.toList.flatMap columns, c.Resolves look e source) ∧
          ∀ p ∈ t.toList.flatMap shared, p.1.Declares p.2 := by
  cases t with
  | none => simp
  | some t =>
    simp only [Option.elim_some, Option.toList_some, List.flatMap_singleton]
    exact met_needs

theorem Expr.met_flatMap_needs {xs : List Expr} :
    (∀ r ∈ xs.flatMap (·.needs e source), r.Met look) ↔
      (∀ x ∈ xs, x.column?.isSome) ∧
        ∀ c ∈ xs.filterMap Expr.column?, c.Resolves look e source := by
  induction xs with
  | nil => simp
  | cons x xs ih =>
    rw [List.flatMap_cons, List.forall_mem_append, ih, List.forall_mem_cons, needs]
    cases hx : x.column? with
    | none => simp [Requirement.Met, hx]
    | some c =>
      rw [Option.elim_some, Column.met_needs, List.filterMap_cons_some hx, List.forall_mem_cons]
      simp [and_left_comm]

/-- **The requirements of a statement are met exactly if all that stands in it can be resolved.** -/
theorem Select.met_needs {q : Select} : (∀ r ∈ q.needs e, r.Met look) ↔ q.Resolves look e := by
  simp only [needs, SelectItem.needs, Predicate.needs, List.forall_mem_append,
    List.forall_mem_singleton, Column.met_flatMap_columns, TableRef.met_elim_needs,
    Expr.met_flatMap_needs, Column.met_flatMap_needs]
  constructor
  · rintro ⟨⟨⟨⟨⟨⟨hown, hitems⟩, htables, hjoins, hshared⟩, hwheres⟩, hgroups, hgroup⟩, hhaving⟩,
      horders⟩
    refine ⟨hown, htables, ?_, hshared, hgroups⟩
    simp only [allColumns, clauseColumns, List.forall_mem_append]
    exact ⟨⟨⟨⟨⟨hitems, hwheres⟩, hgroup⟩, hhaving⟩, horders⟩, hjoins⟩
  · rintro ⟨hown, htables, hcolumns, hshared, hgroups⟩
    simp only [allColumns, clauseColumns, List.forall_mem_append] at hcolumns
    obtain ⟨⟨⟨⟨⟨hitems, hwheres⟩, hgroup⟩, hhaving⟩, horders⟩, hjoins⟩ := hcolumns
    exact ⟨⟨⟨⟨⟨⟨hown, hitems⟩, htables, hjoins, hshared⟩, hwheres⟩, hgroups, hgroup⟩, hhaving⟩,
      horders⟩

end Met

namespace Scope

open Consult (Requires)

/-- The scope of a statement for records of type `e` that reads from `source`. -/
structure About (s : Scope) (look : Entity → Except Error Model) (e : Entity)
    (source : Option TableRef) : Prop where
  describes : ∀ e m, look e = .ok m → m.Describes e
  model : look e = .ok s.model
  qualifier : s.qualifier = .of s.model source

variable {s : Scope} {look : Entity → Except Error Model} {e : Entity} {source : Option TableRef}

theorem resolve_requires {m : Model} (hm : m.Describes e) (name : String) :
    Requires look (.ofExcept (m.resolveField name)) [.field e name] := by
  intro err
  rw [Consult.eval_ofExcept, List.findSome?_singleton, Requirement.fault]
  have hdeclared : (∃ f, m.resolveField name = .ok f) ↔ e.Declares name := by
    rw [hm.toFollows.declares]
    exact exists_congr fun f => hm.resolveField_ok
  unfold Model.resolveField at hdeclared ⊢
  cases hf : m.field? name with
  | some f =>
    rw [hf] at hdeclared
    rw [if_pos (hdeclared.1 ⟨f, rfl⟩)]
    exact ⟨nofun, nofun⟩
  | none =>
    rw [hf] at hdeclared
    rw [if_neg fun h => nomatch (hdeclared.2 h)]
    simp

namespace About

variable (h : s.About look e source)
include h

/-- Only a column whose record type is not joined cannot be written without a table. -/
theorem missing_iff : s.qualifier = .missing ↔ ¬ e.Joined source := by
  have hentity : s.model.entity = e := (h.describes e _ h.model).entity
  rw [h.qualifier]
  -- only a join can be without a table of the record type
  rcases source with _ | t | ⟨kind, l, r, c⟩
  · simp [Qualifier.of, Entity.Joined]
  · simp [Qualifier.of, Entity.Joined]
  · rw [Qualifier.of, TableRef.find?_eq, hentity]
    cases hfind : (TableRef.join kind l r c).tables.find? (·.entity = e) with
    | none => simpa [Entity.Joined] using hfind
    | some t =>
      have hjoined : e.Joined (some (.join kind l r c)) :=
        ⟨t, List.mem_of_find?_eq_some hfind, by simpa using List.find?_some hfind⟩
      simp [hjoined]

/-- A column requires its field first, and then a place where it can be written. -/
theorem column_requires (c : Column) : Requires look (s.column c) (c.needs e source) := by
  have hmodel := h.describes e _ h.model
  unfold column Column.needs
  cases c.table with
  | none =>
    refine (resolve_requires hmodel c.name).bind fun f _ => ?_
    intro err
    rw [List.findSome?_singleton, Requirement.fault, h.model]
    cases hq : s.qualifier with
    | missing =>
      rw [if_neg (h.missing_iff.1 hq)]
      simp
    | _ =>
      have hjoined : e.Joined source := by
        by_contra hne
        rw [h.missing_iff.2 hne] at hq
        cases hq
      rw [if_pos hjoined]
      exact ⟨nofun, nofun⟩
  | some t =>
    refine (Requires.model t.entity).bind fun m hm => ?_
    rw [Consult.eval_model] at hm
    exact (resolve_requires (h.describes _ _ hm) c.name).map _

theorem term_requires (t : Term) : Requires look (s.term t) (t.subject.needs e source) := by
  cases t with
  | column c => exact h.column_requires c
  | aggregate a => exact (h.column_requires a.arg).map _

theorem operand_requires (o : Operand) :
    Requires look (s.operand o) (o.columns.flatMap (·.needs e source)) := by
  cases o with
  | term t =>
    rw [Operand.columns, List.flatMap_singleton]
    exact h.term_requires t
  | value v => exact .pure _
  | raw r => exact .pure _

/-- **A condition requires its columns, from left to right.** -/
theorem predicate_requires (p : Predicate) : Requires look (s.predicate p) (p.needs e source) := by
  unfold Predicate.needs
  induction p with
  | holds t =>
    rw [Predicate.columns, List.flatMap_singleton]
    exact h.term_requires t
  | raw r => exact .pure _
  | compare op l r =>
    rw [Predicate.columns, List.flatMap_cons]
    exact (h.term_requires l).bind fun _ _ => (h.operand_requires r).map _
  | compareTruth op l r ih =>
    rw [Predicate.columns, List.flatMap_cons]
    exact (h.term_requires l).bind fun _ _ => ih.map _
  | and l r ihl ihr =>
    rw [Predicate.columns, List.flatMap_append]
    exact ihl.bind fun _ _ => ihr.map _
  | or l r ihl ihr =>
    rw [Predicate.columns, List.flatMap_append]
    exact ihl.bind fun _ _ => ihr.map _
  | not p ih => exact ih.map _

theorem conditions_requires (head : String) (ps : List Predicate) :
    Requires look (s.conditions head ps) (ps.flatMap (·.needs e source)) := by
  have hneeds : ∀ l r : Predicate,
      (Predicate.and l r).needs e source = l.needs e source ++ r.needs e source := by
    intro l r
    rw [Predicate.needs, Predicate.columns, List.flatMap_append]
    rfl
  unfold conditions
  cases hp : Predicate.conjunction? ps with
  | none =>
    cases ps with
    | nil => exact .pure _
    | cons p ps => cases hp
  | some p =>
    rw [← Predicate.flatMap_of_conjunction hneeds hp]
    exact (h.predicate_requires p).map _

theorem selectItem_requires (i : SelectItem) :
    Requires look (s.selectItem i) (i.needs e source) := by
  unfold SelectItem.needs
  cases i with
  | column c =>
    rw [SelectItem.columns, List.flatMap_singleton]
    exact (h.column_requires c).map _
  | aggregate a =>
    rw [SelectItem.columns, List.flatMap_singleton]
    exact ((h.column_requires a.arg).map _).map _
  | raw r => exact .pure _

theorem joinCondition_requires (left : TableRef) (c : JoinCondition) :
    Requires look (s.joinCondition left c) (c.needs e source left) := by
  cases c with
  | on ps => exact h.conditions_requires " ON " ps
  | «using» names =>
    cases names with
    | nil => exact .pure _
    | cons name names =>
      refine (Requires.model _).bind fun m hm => ?_
      rw [Consult.eval_model] at hm
      have hfield : ∀ n, Requires look (.ofExcept (m.resolveField n))
          [.field left.leftmost.entity n] := resolve_requires (h.describes _ m hm)
      have hfields := Requires.all (fun n => (hfield n).map fun f => s.ident f.column)
        (name :: names)
      rw [← List.map_eq_flatMap] at hfields
      exact hfields.map _

/-- **A join requires its left side, its right side and its condition.** -/
theorem tableRef_requires (t : TableRef) : Requires look (s.tableRef t) (t.needs e source) := by
  induction t with
  | table t => exact (Requires.model t.entity).map _
  | join kind l r c ihl ihr =>
    rw [TableRef.needs, List.append_assoc]
    exact ihl.bind fun _ _ => ihr.bind fun _ _ => (h.joinCondition_requires l c).map _

theorem groupItem_requires (x : Expr) :
    Requires look (Select.groupItem s x) (x.needs e source) := by
  unfold Select.groupItem
  split
  · exact h.column_requires _
  · rename_i hx
    have hnone : x.column? = none := by
      unfold Expr.column?
      split
      · exact absurd rfl (hx _)
      · rfl
    intro err
    rw [Expr.needs, hnone, Option.elim_none, List.findSome?_singleton, Requirement.fault, hnone]
    simp

theorem orderItem_requires (c : Column) : Requires look (s.orderItem c) (c.needs e source) :=
  (h.column_requires c).map _

theorem sourceText_requires :
    Requires look (Select.sourceText s source) (source.elim [] (·.needs e source)) := by
  cases source with
  | none => exact .pure _
  | some t => exact h.tableRef_requires t

end About

end Scope

namespace Select

open Consult (Requires)

variable {g : Registry} {d : Dialect} {e : Entity}

theorem requires_needs {look : Entity → Except Error Model}
    (hlook : ∀ e m, look e = .ok m → m.Describes e) (q : Select) :
    Requires look (q.build d e) (q.needs e) := by
  simp only [needs, List.append_assoc]
  refine (Requires.model e).bind fun m hm => ?_
  rw [Consult.eval_model] at hm
  have h : Scope.About ⟨d, m, .of m q.source⟩ look e q.source := ⟨hlook, hm, rfl⟩
  exact (Requires.all h.selectItem_requires _).bind fun _ _ =>
    h.sourceText_requires.bind fun _ _ =>
      (h.conditions_requires _ _).bind fun _ _ =>
        (Requires.all h.groupItem_requires _).bind fun _ _ =>
          (h.conditions_requires _ _).bind fun _ _ => (Requires.all h.orderItem_requires _).map _

/-- **A SELECT is built exactly if its requirements are met.** Otherwise it fails for the first one
that is not: of the record type itself, the select list, the tables, WHERE, GROUP BY, HAVING and
ORDER BY, each from left to right. -/
theorem build_requires (hg : g.Reachable) (q : Select) (d : Dialect) (e : Entity) :
    ((∃ sql, ((q.build d e).run g).answer = .ok sql) ↔ q.Resolves g.look e) ∧
      ∀ err, ((q.build d e).run g).answer = .error err ↔
        ∃ before r after, q.needs e = before ++ r :: after ∧ (∀ p ∈ before, p.Met g.look) ∧
          r.fault g.look = some err := by
  have h : Requires g.look (q.build d e) (q.needs e) :=
    requires_needs (fun e m hm => hg.describes ((g.answer_model e).trans hm)) q
  rw [Consult.answer_run]
  exact ⟨h.ok_iff.trans met_needs, fun err => (h err).trans Requirement.findSome_fault⟩

end Select

namespace Sample

/-- A column of people in a SELECT that joins cities only, and something that is no column to group
by. -/
def stray (name : String) : Select where
  columns := [.column ⟨"id", some ⟨city, none⟩, none, none⟩, .column ⟨name, none, none, none⟩]
  source := some (.join .inner (.table ⟨city, some "c"⟩) (.table ⟨city, none⟩) (.using ["id"]))
  wheres := []
  groupBy := [.operand (.value (.int 1))]
  having := []
  orderBy := []
  limit := 0
  offset := 0

end Sample

namespace Select

open Sample

/-- A SELECT that is built, and two that fail for a column without a place: for its name if there is
no such field, and for its place if there is. -/
theorem build_requires_stray : Registry.Reachable .empty ∧
    (∃ sql, ((directory.build .mysql person).run .empty).answer = .ok sql) ∧
    (((stray "name").build .mysql person).run .empty).answer = .error (.unknownField "name") ∧
    (((stray "nick").build .mysql person).run .empty).answer =
      .error (.unsupportedExpression "unqualified column `nick` in a join without `person`") := by
  refine ⟨.empty, ?_, ?_, ?_⟩
  · exact (build_requires .empty directory .mysql person).1.2 (met_needs.1 (by decide +kernel))
  · refine ((build_requires .empty (stray "name") .mysql person).2 _).2 ?_
    exact ⟨[.model person, .model city, .field city "id"], .field person "name", _, rfl,
      by decide +kernel, by decide +kernel⟩
  · refine ((build_requires .empty (stray "nick") .mysql person).2 _).2 ?_
    exact ⟨[.model person, .model city, .field city "id", .field person "nick"],
      .unqualified person (stray "nick").source "nick", _, rfl, by decide +kernel,
      by decide +kernel⟩

end Select

end RecordSql
