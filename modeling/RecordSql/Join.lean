import RecordSql.Expr

/-!
# Tables and joins

* `TableRef`: a table, or a binary tree of joins.
* `TableRef.find?`: the first table of a record type, from left to right.
* `TableRef.leftmost`: the first table.
-/

namespace RecordSql

inductive JoinKind where
  | inner
  | left
  | right
deriving DecidableEq

def JoinKind.name : JoinKind → String
  | .inner => "JOIN"
  | .left => "LEFT JOIN"
  | .right => "RIGHT JOIN"

/-- How the rows of the two sides are matched. No field and no condition match everything. -/
inductive JoinCondition where
  /-- By fields that both sides have. -/
  | using (fields : List String)
  /-- By all of the conditions. -/
  | on (ps : List Predicate)
deriving DecidableEq

def JoinCondition.equals : JoinCondition → JoinCondition → Bool
  | .using a, .using b => a == b
  | .on a, .on b => Predicate.allEqual a b
  | _, _ => false

/-- What a statement reads from. -/
inductive TableRef where
  | table (t : Table)
  | join (kind : JoinKind) (left right : TableRef) (condition : JoinCondition)
deriving DecidableEq

namespace TableRef

def equals : TableRef → TableRef → Bool
  | .table a, .table b => a == b
  | .join k a b c, .join l d e f => k == l && a.equals d && b.equals e && c.equals f
  | _, _ => false

/-- The tables from left to right. -/
def tables : TableRef → List Table
  | .table t => [t]
  | .join _ l r _ => l.tables ++ r.tables

/-- The first table of the record type `e`, from left to right. -/
def find? (e : Entity) : TableRef → Option Table
  | .table t => if t.entity = e then some t else none
  | .join _ l r _ => (l.find? e).or (r.find? e)

/-- The first table. -/
def leftmost : TableRef → Table
  | .table t => t
  | .join _ l _ _ => l.leftmost

end TableRef

end RecordSql
