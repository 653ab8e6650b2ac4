import Mathlib.Tactic.Tauto
import RecordSql.Sql.Delete
import RecordSql.Sql.Insert
import RecordSql.Sql.Select

/-!
# What statements mention

The columns, tables, raw fragments and labels that stand in a statement, and the values that it
binds, read off its syntax.

* `Predicate.columns`, `Predicate.raws`, `Predicate.args`: of a condition.
* `TableRef.columns`, `TableRef.raws`, `TableRef.args`: of a join, through its conditions.
* `Statement`: a statement of any kind.
* `Statement.Avoids`: no name in the statement has a certain character.
-/

namespace RecordSql

/-- The column that a term is about. -/
def Term.subject : Term → Column
  | .column c => c
  | .aggregate a => a.arg

namespace Operand

def columns : Operand → List Column
  | .term t => [t.subject]
  | .value _ | .raw _ => []

def raws : Operand → List Raw
  | .raw r => [r]
  | .term _ | .value _ => []

/-- The values that the operand binds. -/
def args : Operand → List Value
  | .term _ => []
  | .value v => [v]
  | .raw r => r.args

end Operand

namespace Predicate

def columns : Predicate → List Column
  | .holds t => [t.subject]
  | .raw _ => []
  | .compare _ l r => l.subject :: r.columns
  | .compareTruth _ l r => l.subject :: columns r
  | .and l r | .or l r => columns l ++ columns r
  | .not p => columns p

def raws : Predicate → List Raw
  | .holds _ => []
  | .raw r => [r]
  | .compare _ _ r => r.raws
  | .compareTruth _ _ r => raws r
  | .and l r | .or l r => raws l ++ raws r
  | .not p => raws p

/-- The values that the condition binds, from left to right. -/
def args : Predicate → List Value
  | .holds _ => []
  | .raw r => r.args
  | .compare _ _ r => r.args
  | .compareTruth _ _ r => args r
  | .and l r | .or l r => args l ++ args r
  | .not p => args p

/-- What a conjunction mentions is what the conditions of its list mention. -/
theorem flatMap_of_conjunction {α : Type} {f : Predicate → List α}
    (hf : ∀ l r, f (.and l r) = f l ++ f r) {ps : List Predicate} {p : Predicate}
    (h : p ∈ conjunction? ps) : f p = ps.flatMap f := by
  cases ps with
  | nil => cases h
  | cons q qs =>
    cases h
    -- the fold nests to the left, so the first two conditions become one
    induction qs generalizing q with
    | nil => simp
    | cons r rs ih =>
      rw [List.foldl_cons, ih, List.flatMap_cons, List.flatMap_cons, List.flatMap_cons, hf,
        List.append_assoc]

end Predicate

namespace JoinCondition

def columns : JoinCondition → List Column
  | .using _ => []
  | .on ps => ps.flatMap Predicate.columns

def raws : JoinCondition → List Raw
  | .using _ => []
  | .on ps => ps.flatMap Predicate.raws

def args : JoinCondition → List Value
  | .using _ => []
  | .on ps => ps.flatMap Predicate.args

end JoinCondition

namespace TableRef

/-- The columns in the conditions of the joins. -/
def columns : TableRef → List Column
  | .table _ => []
  | .join _ l r c => l.columns ++ r.columns ++ c.columns

def raws : TableRef → List Raw
  | .table _ => []
  | .join _ l r c => l.raws ++ r.raws ++ c.raws

/-- The values that the conditions of the joins bind: those of the left side, those of the right
side, those of the join's own condition. -/
def args : TableRef → List Value
  | .table _ => []
  | .join _ l r c => l.args ++ r.args ++ c.args

/-- The tables of the joins and those of the columns in their conditions. -/
def mentioned (t : TableRef) : List Table := t.tables ++ t.columns.filterMap Column.table

variable {kind : JoinKind} {l r : TableRef} {c : JoinCondition} {u : Table}

theorem leftmost_mem (t : TableRef) : t.leftmost ∈ t.tables := by
  induction t with
  | table t => exact List.mem_cons_self
  | join kind l r c ihl _ => exact List.mem_append_left _ ihl

theorem leftmost_mentioned (t : TableRef) : t.leftmost ∈ t.mentioned :=
  List.mem_append_left _ t.leftmost_mem

/-- The first table of a record type is the first one in the list of the tables. -/
theorem find?_eq (t : TableRef) (e : Entity) : t.find? e = t.tables.find? (·.entity = e) := by
  induction t with
  | table t => by_cases h : t.entity = e <;> simp [find?, tables, h]
  | join kind l r c ihl ihr => rw [find?, tables, List.find?_append, ihl, ihr]

theorem mem_tables_of_find {e : Entity} {t : TableRef} (h : t.find? e = some u) :
    u ∈ t.tables := by
  rw [find?_eq] at h
  exact List.mem_of_find?_eq_some h

theorem mentioned_join : u ∈ (TableRef.join kind l r c).mentioned ↔
    u ∈ l.mentioned ∨ u ∈ r.mentioned ∨ u ∈ c.columns.filterMap Column.table := by
  simp only [mentioned, tables, columns, List.filterMap_append, List.mem_append]
  tauto

theorem mentioned_left (h : u ∈ l.mentioned) : u ∈ (TableRef.join kind l r c).mentioned :=
  mentioned_join.2 (.inl h)

theorem mentioned_right (h : u ∈ r.mentioned) : u ∈ (TableRef.join kind l r c).mentioned :=
  mentioned_join.2 (.inr (.inl h))

theorem mentioned_condition {x : Column} (hx : x ∈ c.columns) (h : u ∈ x.table) :
    u ∈ (TableRef.join kind l r c).mentioned :=
  mentioned_join.2 (.inr (.inr (List.mem_filterMap.2 ⟨x, hx, h⟩)))

end TableRef

namespace SelectItem

def columns : SelectItem → List Column
  | .column c => [c]
  | .aggregate a => [a.arg]
  | .raw _ => []

def raws : SelectItem → List Raw
  | .raw r => [r]
  | .column _ | .aggregate _ => []

/-- The name that the item is given. -/
def label? : SelectItem → Option String
  | .column c => c.aliasName
  | .aggregate a => a.aliasName
  | .raw _ => none

def args : SelectItem → List Value
  | .raw r => r.args
  | .column _ | .aggregate _ => []

end SelectItem

/-- The column to group by, if the expression is one. -/
def Expr.column? : Expr → Option Column
  | .operand (.term (.column c)) => some c
  | _ => none

namespace Select

/-- The columns in the clauses of the statement, those in the conditions of its joins apart. -/
def clauseColumns (q : Select) : List Column :=
  q.columns.flatMap SelectItem.columns ++ q.wheres.flatMap Predicate.columns ++
    q.groupBy.filterMap Expr.column? ++ q.having.flatMap Predicate.columns ++ q.orderBy

/-- All columns of the statement, those in the conditions of its joins included. -/
def allColumns (q : Select) : List Column :=
  q.clauseColumns ++ q.source.toList.flatMap TableRef.columns

def tables (q : Select) : List Table :=
  q.source.toList.flatMap TableRef.mentioned ++ q.clauseColumns.filterMap Column.table

def raws (q : Select) : List Raw :=
  q.columns.flatMap SelectItem.raws ++ q.source.toList.flatMap TableRef.raws ++
    q.wheres.flatMap Predicate.raws ++ q.having.flatMap Predicate.raws

/-- The argument of a count of rows, which only counts when it is positive. -/
def countArgs (n : Int64) : List Value := if 0 < n then [.int n] else []

/-- The values that the statement binds: those of the select list, of the joins, of the two
conditions, and the counts of rows. -/
def args (q : Select) : List Value :=
  q.columns.flatMap SelectItem.args ++ q.source.toList.flatMap TableRef.args ++
    q.wheres.flatMap Predicate.args ++ q.having.flatMap Predicate.args ++ countArgs q.limit ++
    countArgs q.offset

end Select

namespace Delete

def tables (q : Delete) : List Table :=
  q.target.toList.flatMap TableRef.mentioned ++
    (q.wheres.flatMap Predicate.columns).filterMap Column.table

def raws (q : Delete) : List Raw := q.wheres.flatMap Predicate.raws

end Delete

/-- A statement on records of type `e`. Values to insert are read by an accessor. -/
inductive Statement (e : Entity) where
  | select (q : Select)
  | insert (q : Insert e) (a : Accessor)
  | delete (q : Delete)

namespace Statement

variable {e : Entity}

/-- The statement's SQL. -/
def build (d : Dialect) : Statement e → Consult Sql
  | .select q => q.build d e
  | .insert q a => q.build d a
  | .delete q => q.build d e

/-- The tables that stand in the statement, apart from the record type's own. -/
def tables : Statement e → List Table
  | .select q => q.tables
  | .insert _ _ => []
  | .delete q => q.tables

def raws : Statement e → List Raw
  | .select q => q.raws
  | .insert _ _ => []
  | .delete q => q.raws

/-- The names given to items of a select list. -/
def labels : Statement e → List String
  | .select q => q.columns.filterMap SelectItem.label?
  | .insert _ _ | .delete _ => []

end Statement

/-- Neither the name of the table nor that of a column has the character `c`. -/
structure Model.Avoids (c : Char) (m : Model) : Prop where
  table : c ∉ m.tableName.toList
  column : ∀ f ∈ m.fields, c ∉ f.column.toList

/-- Neither the alias of the table nor a name of its model has the character `c`. -/
structure Table.Avoids (look : Entity → Except Error Model) (c : Char) (t : Table) : Prop where
  label : ∀ a ∈ t.aliasName, c ∉ a.toList
  model : ∀ m, look t.entity = .ok m → m.Avoids c

/-- No name in the statement has the character `c`: no table, no column and no alias. -/
structure Statement.Avoids {e : Entity} (look : Entity → Except Error Model) (c : Char)
    (st : Statement e) : Prop where
  own : ∀ m, look e = .ok m → m.Avoids c
  table : ∀ t ∈ st.tables, t.Avoids look c
  label : ∀ a ∈ st.labels, c ∉ a.toList

section Decidable

variable {look : Entity → Except Error Model} {c : Char}

instance decidableForallOk {ε α : Type} {P : α → Prop} [DecidablePred P] (x : Except ε α) :
    Decidable (∀ a, x = .ok a → P a) :=
  match x with
  | .ok a => decidable_of_iff (P a) ⟨fun h _ hb => Except.ok.inj hb ▸ h, fun h => h a rfl⟩
  | .error _ => .isTrue fun _ h => nomatch h

instance (m : Model) : Decidable (m.Avoids c) :=
  decidable_of_iff (c ∉ m.tableName.toList ∧ ∀ f ∈ m.fields, c ∉ f.column.toList)
    ⟨fun h => ⟨h.1, h.2⟩, fun h => ⟨h.table, h.column⟩⟩

instance (t : Table) : Decidable (t.Avoids look c) :=
  decidable_of_iff ((∀ a ∈ t.aliasName, c ∉ a.toList) ∧
      ∀ m, look t.entity = .ok m → m.Avoids c)
    ⟨fun h => ⟨h.1, h.2⟩, fun h => ⟨h.label, h.model⟩⟩

instance {e : Entity} (st : Statement e) : Decidable (st.Avoids look c) :=
  decidable_of_iff ((∀ m, look e = .ok m → m.Avoids c) ∧ (∀ t ∈ st.tables, t.Avoids look c) ∧
      ∀ a ∈ st.labels, c ∉ a.toList)
    ⟨fun h => ⟨h.1, h.2.1, h.2.2⟩, fun h => ⟨h.own, h.table, h.label⟩⟩

end Decidable

end RecordSql
