import RecordSql.Entity

/-!
# Expressions

What a statement selects, compares and assigns. Fields are named as the record type declares them;
which columns they are is decided when a statement is rendered.

* `Table`, `Column`, `Aggregate`, `Raw`: the leaves.
* `Predicate`: conditions. `Predicate.conjunction?` joins a list of them.
* `Expr`: anything that may stand on the right of a comparison.
* `SelectItem`, `Assignment`: the entries of a select list and of an upsert.
-/

namespace RecordSql

/-- The table of a record type, perhaps under another name. -/
structure Table where
  entity : Entity
  aliasName : Option String
deriving DecidableEq

inductive Order where
  | asc
  | desc
deriving DecidableEq

def Order.name : Order → String
  | .asc => "ASC"
  | .desc => "DESC"

/-- The direction of a column that gives none. -/
def Order.default : Order := .asc

/-- A column by the name of its field, in a given table or in that of the statement. -/
structure Column where
  name : String
  table : Option Table
  aliasName : Option String
  order : Option Order
deriving DecidableEq

inductive AggregateFn where
  | avg
  | max
  | min
  | count
  | sum
deriving DecidableEq

def AggregateFn.name : AggregateFn → String
  | .avg => "AVG"
  | .max => "MAX"
  | .min => "MIN"
  | .count => "COUNT"
  | .sum => "SUM"

/-- An aggregate of a column. -/
structure Aggregate where
  fn : AggregateFn
  arg : Column
  aliasName : Option String
deriving DecidableEq

/-- SQL as it is, with the arguments of its placeholders. -/
structure Raw where
  sql : String
  args : List Value
deriving DecidableEq

def Raw.equals (a b : Raw) : Bool := a.sql == b.sql && Value.allEqual a.args b.args

/-- What a comparison has on its left. -/
inductive Term where
  | column (c : Column)
  | aggregate (a : Aggregate)
deriving DecidableEq

/-- What a comparison has on its right, conditions apart. -/
inductive Operand where
  | term (t : Term)
  | value (v : Value)
  | raw (r : Raw)
deriving DecidableEq

def Operand.equals : Operand → Operand → Bool
  | .term a, .term b => a == b
  | .value a, .value b => a.equals b
  | .raw a, .raw b => a.equals b
  | _, _ => false

inductive Comparison where
  | eq
  | lt
  | gt
deriving DecidableEq

def Comparison.name : Comparison → String
  | .eq => "="
  | .lt => "<"
  | .gt => ">"

/-- A condition. -/
inductive Predicate where
  /-- The term itself, as a boolean. -/
  | holds (t : Term)
  /-- The fragment itself, as a boolean. -/
  | raw (r : Raw)
  | compare (op : Comparison) (l : Term) (r : Operand)
  /-- A comparison with the truth of a condition. -/
  | compareTruth (op : Comparison) (l : Term) (r : Predicate)
  | and (l r : Predicate)
  | or (l r : Predicate)
  | not (p : Predicate)
deriving DecidableEq

namespace Predicate

/-- Comparison, with the values inside compared as `Value.equals` does. -/
def equals : Predicate → Predicate → Bool
  | .holds a, .holds b => a == b
  | .raw a, .raw b => a.equals b
  | .compare o a b, .compare q c d => o == q && a == c && b.equals d
  | .compareTruth o a p, .compareTruth q b r => o == q && a == b && p.equals r
  | .and a b, .and c d => a.equals c && b.equals d
  | .or a b, .or c d => a.equals c && b.equals d
  | .not a, .not b => a.equals b
  | _, _ => false

/-- Comparison of lists of conditions. -/
def allEqual : List Predicate → List Predicate → Bool
  | [], [] => true
  | p :: ps, q :: qs => p.equals q && allEqual ps qs
  | _, _ => false

/-- The conjunction of a list, nested to the left; none for the empty list. -/
def conjunction? : List Predicate → Option Predicate
  | [] => none
  | p :: ps => some (ps.foldl .and p)

end Predicate

/-- Any expression. -/
inductive Expr where
  | operand (o : Operand)
  | predicate (p : Predicate)
deriving DecidableEq

namespace Expr

/-- What the expression is, in an error message. -/
def kind : Expr → String
  | .operand (.term (.column _)) => "column"
  | .operand (.term (.aggregate _)) => "aggregate"
  | .operand (.value _) => "value"
  | .operand (.raw _) => "raw expression"
  | .predicate _ => "predicate"

def equals : Expr → Expr → Bool
  | .operand a, .operand b => a.equals b
  | .predicate a, .predicate b => a.equals b
  | _, _ => false

end Expr

/-- The comparison of a term with any expression. -/
def Term.compare (op : Comparison) (l : Term) : Expr → Predicate
  | .operand o => .compare op l o
  | .predicate p => .compareTruth op l p

/-- An entry of a select list. -/
inductive SelectItem where
  | column (c : Column)
  | aggregate (a : Aggregate)
  | raw (r : Raw)
deriving DecidableEq

/-- An entry of an upsert: a field set to a value, or to what the rejected row has for it. -/
inductive Assignment where
  | value (field : String) (v : Value)
  | column (c : Column)
deriving DecidableEq

end RecordSql
