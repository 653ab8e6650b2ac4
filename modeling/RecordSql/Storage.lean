import RecordSql.Value.Coercion

/-!
# Field types of records

The type of a record's field: how wide its integers are, how precise its floats, whether it may be
absent.

* `Storage`: the field types; `Storage.Carrier` is the type of what a field holds.
* `Storage.fieldType`: what the database is told about it.
* `Storage.toValue`, `Storage.ofValue`: from and to values.
* `Storage.check`: whether a value could be stored, without storing it.
-/

namespace RecordSql

open Number

/-- The widths of integers. -/
inductive IntWidth where
  | i8
  | i16
  | i32
  | i64
  | u8
  | u16
  | u32
deriving DecidableEq

namespace IntWidth

def name : IntWidth → String
  | .i8 => "i8"
  | .i16 => "i16"
  | .i32 => "i32"
  | .i64 => "i64"
  | .u8 => "u8"
  | .u16 => "u16"
  | .u32 => "u32"

def min : IntWidth → Int
  | .i8 => -2 ^ 7
  | .i16 => -2 ^ 15
  | .i32 => -2 ^ 31
  | .i64 => -2 ^ 63
  | .u8 | .u16 | .u32 => 0

def max : IntWidth → Int
  | .i8 => 2 ^ 7 - 1
  | .i16 => 2 ^ 15 - 1
  | .i32 => 2 ^ 31 - 1
  | .i64 => 2 ^ 63 - 1
  | .u8 => 2 ^ 8 - 1
  | .u16 => 2 ^ 16 - 1
  | .u32 => 2 ^ 32 - 1

/-- The integers of the width. -/
def Has (w : IntWidth) (i : Int64) : Prop := w.min ≤ i.toInt ∧ i.toInt ≤ w.max

instance (w : IntWidth) (i : Int64) : Decidable (w.Has i) := inferInstanceAs (Decidable (_ ∧ _))

theorem has_zero (w : IntWidth) : w.Has 0 := by cases w <;> decide

end IntWidth

/-- The type of a record's field. -/
inductive Storage where
  | int (w : IntWidth)
  | bool
  | float32
  | float64
  | text
  | bytes
  | dateTime
  | uuid
  | json
  | optional (s : Storage)
deriving DecidableEq

namespace Storage

/-- What a field of the type holds. -/
def Carrier : Storage → Type
  | .int w => { i : Int64 // w.Has i }
  | .bool => Bool
  | .float32 => Single
  | .float64 => Double
  | .text => String
  | .bytes => List UInt8
  | .dateTime => DateTime
  | .uuid => Uuid
  | .json => Json
  | .optional s => Option s.Carrier

/-- What a fresh record holds. -/
def initial : (s : Storage) → s.Carrier
  | .int w => (⟨0, w.has_zero⟩ : { i : Int64 // w.Has i })
  | .bool => false
  | .float32 => Binary.ofRatio false 0 1
  | .float64 => Binary.ofRatio false 0 1
  | .text => ""
  | .bytes => []
  | .dateTime => DateTime.epoch
  | .uuid => Uuid.nil
  | .json => Json.null
  | .optional s => (none : Option s.Carrier)

/-- The kind of the values that are not null. -/
def kind : Storage → Kind
  | .int _ => .int
  | .bool => .bool
  | .float32 | .float64 => .float
  | .text => .text
  | .bytes => .bytes
  | .dateTime => .dateTime
  | .uuid => .uuid
  | .json => .json
  | .optional s => s.kind

/-- Whether null is a value of the type. A JSON field takes it for JSON's own null. -/
def nullable : Storage → Bool
  | .json => true
  | .optional _ => true
  | _ => false

def fieldType (s : Storage) : FieldType := ⟨s.kind, s.nullable⟩

/-- The value of what a field holds. -/
def toValue : (s : Storage) → s.Carrier → Value
  | .int _, i => .int i.val
  | .bool, b => .bool b
  | .float32, x => .float (Binary.convert x)
  | .float64, x => .float x
  | .text, s => .text s
  | .bytes, bs => .bytes bs
  | .dateTime, t => .dateTime t
  | .uuid, u => .uuid u
  | .json, j => .json j
  | .optional s, x => match (x : Option s.Carrier) with
    | none => .null
    | some x => s.toValue x

/-- The type's name in an error. -/
def expected : Storage → String
  | .int w => w.name
  | .bool => "bool"
  | .float32 => "f32"
  | .float64 => "f64"
  | .text => "String"
  | .bytes => "Vec<u8>"
  | .dateTime => "NaiveDateTime"
  | .uuid => "Uuid"
  | .json => "json"
  | .optional s => s.expected

/-- The code of the largest finite single, as a double. -/
def singleMax : Double :=
  (Binary.finite ⟨false, Format.single.infCode - 1, by decide⟩ : Single).convert

/-- Whether a double is finite and larger in magnitude than every single. -/
def beyondSingle (x : Double) : Bool :=
  match x, singleMax with
  | .finite x, .finite m => m.code < x.code
  | _, _ => false

def outOfRange (w : IntWidth) (i : Int64) : ValueError :=
  ⟨w.name, String.join ["out of range integer ", toString i.toInt]⟩

def outOfSingle (x : Double) : ValueError :=
  ⟨"f32", String.join ["out of range float ", Style.plain.write x]⟩

/-- What a field of the type would hold for a value. -/
def ofValue : (s : Storage) → Value → Except ValueError s.Carrier
  | .int w, .int i => if h : w.Has i then .ok ⟨i, h⟩ else .error (outOfRange w i)
  | .int w, v => .error (v.mismatch w.name)
  | .bool, .bool b => .ok b
  | .bool, v => .error (v.mismatch "bool")
  | .float32, .float x =>
    if beyondSingle x then .error (outOfSingle x) else .ok (x.convert : Single)
  | .float32, v => .error (v.mismatch "f32")
  | .float64, .float x => .ok x
  | .float64, v => .error (v.mismatch "f64")
  | .text, .text s => .ok s
  | .text, v => .error (v.mismatch "String")
  | .bytes, .bytes bs => .ok bs
  | .bytes, v => .error (v.mismatch "Vec<u8>")
  | .dateTime, .dateTime t => .ok t
  | .dateTime, v => .error (v.mismatch "NaiveDateTime")
  | .uuid, .uuid u => .ok u
  | .uuid, v => .error (v.mismatch "Uuid")
  | .json, .json j => .ok j
  | .json, .null => .ok Json.null
  | .json, v => .error (v.mismatch "json")
  | .optional s, .null => .ok (none : Option s.Carrier)
  | .optional s, v => (s.ofValue v).map (fun x => (some x : Option s.Carrier))

/-- Whether a field of the type can hold a value: `v` fits the type, and a number is in range. -/
def check (s : Storage) (v : Value) : Except ValueError Unit :=
  match s, v with
  | .optional _, .null => .ok ()
  | .optional s, v => s.check v
  | .int w, .int i => if w.Has i then .ok () else .error (outOfRange w i)
  | .float32, .float x => if beyondSingle x then .error (outOfSingle x) else .ok ()
  | s, v => if s.fieldType.Fits v then .ok () else .error (v.mismatch s.expected)

end Storage

end RecordSql
