import RecordSql.Json.Reader
import RecordSql.Value.Text

/-!
# Coercion

Databases hand values back loosely typed: numbers as text, text as bytes, booleans as integers.
Coercion gives a value the type a field expects.

* `ValueError`: what was expected and what was found.
* `Value.convert?`: the conversions from one kind to another.
* `Value.coerce`: a value as one that fits a field type.
-/

namespace RecordSql

open Number Text

/-- A value that is not of the requested type. -/
structure ValueError where
  expected : String
  found : String
deriving DecidableEq

def ValueError.message (e : ValueError) : String :=
  String.join ["expected ", e.expected, ", found ", e.found]

/-- `v` where a value of the type called `expected` was asked for. -/
def Value.mismatch (expected : String) (v : Value) : ValueError := ⟨expected, v.describe⟩

namespace Value

/-- The spellings of the two truth values. -/
def readBool? : String → Option Bool
  | "1" => some true
  | "true" => some true
  | "TRUE" => some true
  | "t" => some true
  | "0" => some false
  | "false" => some false
  | "FALSE" => some false
  | "f" => some false
  | _ => none

/-- A text as a value of another kind. Integers and floats may have blanks around them. -/
def ofText? (s : String) : Kind → Option Value
  | .bool => (readBool? s).map .bool
  | .int => (readInt64? (trim s.toList)).map .int
  | .float => (readDouble? (trim s.toList)).map .float
  | .text => some (.text s)
  | .bytes => some (.bytes (Utf8.encode s))
  | .dateTime => (DateTime.read? s).map .dateTime
  | .uuid => (Uuid.read? s).map .uuid
  | .json => (Json.parse? s).map .json

/-- A value as one of another kind. -/
def convert? (k : Kind) : Value → Option Value
  | .bool b => if k = .int then some (.int (if b then 1 else 0)) else none
  | .int i => match k with
    | .bool => some (.bool (i != 0))
    | .float => some (.float (.ofInt i.toInt))
    | _ => none
  | .text s => ofText? s k
  | .bytes bs => match k with
    | .text => (Utf8.decode bs).toOption.map .text
    | .uuid => (Uuid.ofBytes? bs).map .uuid
    | _ => none
  | _ => none

/-- The value as one that fits `t`: itself if it does, else what it converts to. Bytes that do not
convert are read as text, and that is converted. -/
def coerce (v : Value) (t : FieldType) : Except ValueError Value :=
  if v = .null then
    if t.nullable then .ok .null else .error (v.mismatch t.name)
  else if v.kind? = some t.kind then .ok v
  else match convert? t.kind v with
    | some w => .ok w
    | none => match v with
      | .bytes bs =>
        if t.kind = .text then .error (v.mismatch t.name)
        else match Utf8.decode bs with
          | .error f => .error ⟨t.name, String.join ["non-utf8 bytes (", f.message, ")"]⟩
          | .ok s => match ofText? s t.kind with
            | some w => .ok w
            | none => .error ((Value.text s).mismatch t.name)
      | v => .error (v.mismatch t.name)

end Value

end RecordSql
