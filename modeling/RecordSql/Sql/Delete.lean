import RecordSql.Sql.Scope

/-!
# DELETE

* `Delete`: which rows go. Without a condition all of them do.
* `Delete.Call`, `Delete.ofCalls`: a statement as the calls that make it up.
* `Delete.build`: its SQL.
-/

namespace RecordSql

structure Delete where
  target : Option TableRef
  wheres : List Predicate
deriving DecidableEq

namespace Delete

/-- Every row of the record type's own table. -/
def everything : Delete := ⟨none, []⟩

/-- A step in making a statement. -/
inductive Call where
  | target (t : TableRef)
  | andWhere (p : Predicate)
  | whereAll (ps : List Predicate)

def call (q : Delete) : Call → Delete
  | .target t => { q with target := some t }
  | .andWhere p => { q with wheres := q.wheres ++ [p] }
  | .whereAll ps => { q with wheres := q.wheres ++ ps }

/-- The statement that the calls make of `everything`. -/
def ofCalls (cs : List Call) : Delete := cs.foldl call everything

open Sql

/-- The table to delete from, which is a single one. -/
def targetText (s : Scope) : Option TableRef → Consult Sql
  | none => return s.ident s.model.tableName
  | some (.table t) => s.table t
  | some (.join ..) => .fail (.unsupportedTable "DELETE target must be a single table")

/-- The statement on a model. -/
def render (q : Delete) (d : Dialect) (m : Model) : Consult Sql := do
  let s : Scope := ⟨d, m, .bare⟩
  let target ← targetText s q.target
  let wheres ← s.conditions " WHERE " q.wheres
  return lit "DELETE FROM " ++ target ++ wheres ++ lit ";"

/-- The statement for records of type `e`. -/
def build (q : Delete) (d : Dialect) (e : Entity) : Consult Sql := do
  let m ← .model e
  q.render d m

end Delete

end RecordSql
