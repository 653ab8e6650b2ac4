import RecordSql.DateTime
import RecordSql.Json
import RecordSql.Uuid

/-!
# Values

What statements bind as arguments and what rows hold, independent of the database.

* `Kind`, `FieldType`: what a field holds, and whether it may be null.
* `Value`: a value or SQL's null.
* `FieldType.Fits`: the values of a field type.
* `Value.equals`: comparison, with floats compared as numbers.
-/

namespace RecordSql

open Number

/-- What a value that is not null may be. -/
inductive Kind where
  | bool
  | int
  | float
  | text
  | bytes
  | dateTime
  | uuid
  | json
deriving DecidableEq

def Kind.name : Kind → String
  | .bool => "bool"
  | .int => "int"
  | .float => "float"
  | .text => "text"
  | .bytes => "bytes"
  | .dateTime => "datetime"
  | .uuid => "uuid"
  | .json => "json"

structure FieldType where
  kind : Kind
  nullable : Bool
deriving DecidableEq

/-- The kind's name, with a mark when null is allowed. -/
def FieldType.name (t : FieldType) : String := t.kind.name ++ (if t.nullable then "?" else "")

inductive Value where
  | null
  | bool (b : Bool)
  | int (i : Int64)
  | float (x : Double)
  | text (s : String)
  | bytes (bs : List UInt8)
  | dateTime (t : DateTime)
  | uuid (u : Uuid)
  | json (j : Json)
deriving DecidableEq

namespace Value

/-- The kind of a value, none for null. -/
def kind? : Value → Option Kind
  | .null => none
  | .bool _ => some .bool
  | .int _ => some .int
  | .float _ => some .float
  | .text _ => some .text
  | .bytes _ => some .bytes
  | .dateTime _ => some .dateTime
  | .uuid _ => some .uuid
  | .json _ => some .json

def isNull (v : Value) : Bool := v.kind?.isNone

/-- Comparison within one kind. NaN differs from itself, and the two zeros are equal. -/
def equals : Value → Value → Bool
  | .float x, .float y => x.equals y
  | .json a, .json b => a.equals b
  | v, w => decide (v = w)

/-- Comparison of lists of values. -/
def allEqual : List Value → List Value → Bool
  | [], [] => true
  | v :: vs, w :: ws => v.equals w && allEqual vs ws
  | _, _ => false

end Value

/-- The values of a field type: those of its kind, and null if it is nullable. -/
def FieldType.Fits (t : FieldType) (v : Value) : Prop :=
  v.kind? = some t.kind ∨ (v = .null ∧ t.nullable = true)

instance (t : FieldType) (v : Value) : Decidable (t.Fits v) :=
  inferInstanceAs (Decidable (_ ∨ _))

end RecordSql
