import RecordSql.Join
import RecordSql.Model.Registry
import RecordSql.Sql

/-!
# Columns and conditions as SQL

* `Scope`: the record type that a statement is about, and how its columns are qualified.
* `Scope.column`: a column.
* `Scope.predicate`: a condition. Conditions inside conditions stand in parentheses, so that the
  text shows the grouping.
* `Scope.tableRef`: a table or a join.
-/

namespace RecordSql

/-- How a column without a table of its own is written. -/
inductive Qualifier where
  /-- By its name alone. -/
  | bare
  /-- Behind the name of a table. -/
  | table (name : String)
  /-- Not at all: the statement joins tables, and that of the column is not among them. -/
  | missing
deriving DecidableEq

structure Scope where
  dialect : Dialect
  model : Model
  qualifier : Qualifier

/-- How a statement on the tables `from` qualifies the columns of the model's own table: in a join,
by the name or alias of that table's first occurrence. -/
def Qualifier.of (m : Model) : Option TableRef → Qualifier
  | some (.join k l r c) => match (TableRef.join k l r c).find? m.entity with
    | some t => .table (t.aliasName.getD m.tableName)
    | none => .missing
  | _ => .bare

namespace Scope

open Sql

variable (s : Scope)

def ident (name : String) : Sql := s.dialect.ident name

/-- `name` behind the name of a table. -/
def qualified (table name : String) : Sql := s.ident table ++ lit "." ++ s.ident name

/-- A column, by the field it is named after. Its alias is not written. -/
def column (c : Column) : Consult Sql :=
  match c.table with
  | none => do
    let f ← .ofExcept (s.model.resolveField c.name)
    match s.qualifier with
    | .bare => return s.ident f.column
    | .table t => return s.qualified t f.column
    | .missing => .fail (.unsupportedExpression
        (String.join ["unqualified column `", c.name, "` in a join without `",
          s.model.tableName, "`"]))
  | some t => do
    let m ← .model t.entity
    let f ← .ofExcept (m.resolveField c.name)
    return s.qualified (t.aliasName.getD m.tableName) f.column

/-- ` AS ` and the alias, if there is one. -/
def asName (a : Option String) : Sql :=
  match a with
  | none => lit ""
  | some a => lit " AS " ++ s.ident a

/-- An aggregate without its alias. -/
def aggregate (a : Aggregate) : Consult Sql := do
  let c ← s.column a.arg
  return lit a.fn.name ++ parens c

def term : Term → Consult Sql
  | .column c => s.column c
  | .aggregate a => s.aggregate a

def operand : Operand → Consult Sql
  | .term t => s.term t
  | .value v => return placeholder v
  | .raw r => return raw r.sql r.args

/-- A condition. -/
def predicate : Predicate → Consult Sql
  | .holds t => s.term t
  | .raw r => return raw r.sql r.args
  | .compare op l r => do
    let a ← s.term l
    let b ← s.operand r
    return a ++ lit (" " ++ op.name ++ " ") ++ b
  | .compareTruth op l r => do
    let a ← s.term l
    let b ← predicate r
    return a ++ lit (" " ++ op.name ++ " ") ++ parens b
  | .and l r => do
    let a ← predicate l
    let b ← predicate r
    return parens a ++ lit " AND " ++ parens b
  | .or l r => do
    let a ← predicate l
    let b ← predicate r
    return parens a ++ lit " OR " ++ parens b
  | .not p => do
    let a ← predicate p
    return lit "NOT " ++ parens a

/-- `head` and the conjunction of the conditions, or nothing if there are none. -/
def conditions (head : String) (ps : List Predicate) : Consult Sql :=
  match Predicate.conjunction? ps with
  | none => return lit ""
  | some p => do
    let a ← s.predicate p
    return lit head ++ a

/-- An entry of a select list, with its alias. -/
def selectItem : SelectItem → Consult Sql
  | .column c => do
    let a ← s.column c
    return a ++ s.asName c.aliasName
  | .aggregate g => do
    let a ← s.aggregate g
    return a ++ s.asName g.aliasName
  | .raw r => return raw r.sql r.args

/-- A column to sort by, with its direction. -/
def orderItem (c : Column) : Consult Sql := do
  let a ← s.column c
  return a ++ lit (" " ++ (c.order.getD .default).name)

/-- A table with its alias. -/
def table (t : Table) : Consult Sql := do
  let m ← .model t.entity
  return s.ident m.tableName ++ s.asName t.aliasName

/-- The fields of the model `m`, as columns. -/
def fieldColumns (m : Model) : List String → Consult (List Sql) :=
  .all fun name => do
    let f ← .ofExcept (m.resolveField name)
    return s.ident f.column

/-- The condition of a join whose left side is `left`. Shared fields are those of the first table
there. -/
def joinCondition (left : TableRef) : JoinCondition → Consult Sql
  | .using [] => return lit ""
  | .using fields => do
    let m ← .model left.leftmost.entity
    let cs ← s.fieldColumns m fields
    return lit " USING " ++ parens (commaList cs)
  | .on ps => s.conditions " ON " ps

/-- A table, or a join in parentheses. -/
def tableRef : TableRef → Consult Sql
  | .table t => s.table t
  | .join kind l r c => do
    let a ← tableRef l
    let b ← tableRef r
    let on ← s.joinCondition l c
    return parens (a ++ lit (" " ++ kind.name ++ " ") ++ b ++ on)

end Scope

end RecordSql
