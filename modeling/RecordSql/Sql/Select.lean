import RecordSql.Sql.Scope

/-!
# SELECT

* `Select`: what is asked of a record type's table.
* `Select.Call`, `Select.ofCalls`: a statement as the calls that make it up.
* `Select.build`: its SQL.
-/

namespace RecordSql

structure Select where
  columns : List SelectItem
  source : Option TableRef
  wheres : List Predicate
  groupBy : List Expr
  having : List Predicate
  orderBy : List Column
  limit : Int64
  offset : Int64
deriving DecidableEq

namespace Select

/-- Every column of every row. -/
def everything : Select := ⟨[], none, [], [], [], [], 0, 0⟩

/-- A step in making a statement. -/
inductive Call where
  /-- One more item. -/
  | select (item : SelectItem)
  /-- These items and no others. -/
  | columns (items : List SelectItem)
  | source (t : TableRef)
  | andWhere (p : Predicate)
  | whereAll (ps : List Predicate)
  | groupBy (e : Expr)
  | having (p : Predicate)
  | orderBy (c : Column)
  | limit (n : Int64)
  | offset (n : Int64)

def call (q : Select) : Call → Select
  | .select item => { q with columns := q.columns ++ [item] }
  | .columns items => { q with columns := items }
  | .source t => { q with source := some t }
  | .andWhere p => { q with wheres := q.wheres ++ [p] }
  | .whereAll ps => { q with wheres := q.wheres ++ ps }
  | .groupBy e => { q with groupBy := q.groupBy ++ [e] }
  | .having p => { q with having := q.having ++ [p] }
  | .orderBy c => { q with orderBy := q.orderBy ++ [c] }
  | .limit n => { q with limit := n }
  | .offset n => { q with offset := n }

/-- The statement that the calls make of `everything`. -/
def ofCalls (cs : List Call) : Select := cs.foldl call everything

open Sql

/-- The columns to group by; nothing else may stand there. -/
def groupItem (s : Scope) : Expr → Consult Sql
  | .operand (.term (.column c)) => s.column c
  | e => .fail (.unsupportedExpression (String.join [e.kind, " in GROUP BY"]))

/-- The table read from, the model's own if no other is given. -/
def sourceText (s : Scope) : Option TableRef → Consult Sql
  | none => return s.ident s.model.tableName
  | some t => s.tableRef t

/-- A count of rows, which only counts when it is positive. -/
def countText (head : String) (n : Int64) : Sql :=
  if 0 < n then lit head ++ placeholder (.int n) else lit ""

/-- The statement on a model. -/
def render (q : Select) (d : Dialect) (m : Model) : Consult Sql := do
  let s : Scope := ⟨d, m, .of m q.source⟩
  let items ← .all s.selectItem q.columns
  let source ← sourceText s q.source
  let wheres ← s.conditions " WHERE " q.wheres
  let groups ← .all (groupItem s) q.groupBy
  let having ← s.conditions " HAVING " q.having
  let orders ← .all s.orderItem q.orderBy
  return lit "SELECT " ++ (if items.isEmpty then lit "*" else commaList items) ++ lit " FROM " ++
    source ++ wheres ++ clause " GROUP BY " groups ++ having ++ clause " ORDER BY " orders ++
    countText " LIMIT " q.limit ++ countText " OFFSET " q.offset ++ lit ";"

/-- The statement for records of type `e`. -/
def build (q : Select) (d : Dialect) (e : Entity) : Consult Sql := do
  let m ← .model e
  q.render d m

end Select

end RecordSql
