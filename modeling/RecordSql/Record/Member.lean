import RecordSql.Entity

/-!
# The serialized form of records

A record serializes as named members, each a tree of plain data.

* `Member`: the data.
* `Storage.encode`, `Storage.decode`: what a field holds, as a member and back.
* `Record.members`, `Record.ofMembers`: a record as members and back.
* `Value.toMember`, `Member.toValue`: values as members and back, by field type.
-/

namespace RecordSql

open Number

inductive Member where
  | null
  | bool (b : Bool)
  | int (i : Int)
  | float (x : Double)
  | text (s : String)
  | seq (ms : List Member)
  | map (ms : List (String × Member))

/-- Named members, in the order in which they were first put there. -/
abbrev Members := List (String × Member)

/-- The members with `m` under the name `k`. -/
def Members.insert (k : String) (m : Member) : Members → Members
  | [] => [(k, m)]
  | (l, n) :: ms => if l = k then (k, m) :: ms else (l, n) :: Members.insert k m ms

namespace Member

mutual

/-- A member with its kind, as error messages show it. -/
def debug : Member → String
  | .null => "Null"
  | .bool b => String.join ["Bool(", toString b, ")"]
  | .int i => String.join ["Number(", toString i, ")"]
  | .float x => String.join ["Number(", Style.member.write x, ")"]
  | .text s => String.join ["String(", Text.quoted s, ")"]
  | .seq ms => String.join ["Sequence ", bracketed (debugAll ms)]
  | .map ms => String.join ["Mapping \x7b", ", ".intercalate (debugMembers ms), "\x7d"]

def debugAll : List Member → List String
  | [] => []
  | m :: ms => m.debug :: debugAll ms

def debugMembers : List (String × Member) → List String
  | [] => []
  | (k, m) :: ms => (Text.quoted k ++ ": " ++ m.debug) :: debugMembers ms

end

mutual

/-- A JSON value as a member. -/
def ofJson : Json → Member
  | .null => .null
  | .bool b => .bool b
  | .int i => .int i
  | .float x => .float (.finite x)
  | .text s => .text s
  | .array js => .seq (ofJsonAll js)
  | .object ms => .map (ofJsonMembers ms)

def ofJsonAll : List Json → List Member
  | [] => []
  | j :: js => ofJson j :: ofJsonAll js

def ofJsonMembers : List (String × Json) → List (String × Member)
  | [] => []
  | (k, j) :: ms => (k, ofJson j) :: ofJsonMembers ms

end

mutual

/-- A member as a JSON value, which has no float that is not finite. Names keep their order. -/
def toJson : Member → Json
  | .null => .null
  | .bool b => .bool b
  | .int i => .int i
  | .float (.finite x) => .float x
  | .float _ => .null
  | .text s => .text s
  | .seq ms => .array (toJsonAll ms)
  | .map ms => .object (toJsonMembers ms)

def toJsonAll : List Member → List Json
  | [] => []
  | m :: ms => m.toJson :: toJsonAll ms

def toJsonMembers : List (String × Member) → List (String × Json)
  | [] => []
  | (k, m) :: ms => (k, m.toJson) :: toJsonMembers ms

end

/-- What a member is, in an error message. -/
def unexpected : Member → String
  | .null => "unit value"
  | .bool b => String.join ["boolean `", toString b, "`"]
  | .int i => String.join ["integer `", toString i, "`"]
  | .float x => String.join ["floating point `", Style.pointed.write x, "`"]
  | .text s => String.join ["string ", Text.quoted s]
  | .seq _ => "sequence"
  | .map _ => "map"

def invalidType (m : Member) (expected : String) : String :=
  String.join ["invalid type: ", m.unexpected, ", expected ", expected]

/-- An integer of the width, from a member. -/
def toInt (w : IntWidth) : Member → Except String { i : Int64 // w.Has i }
  | .int i =>
    let invalid := Except.error
      (String.join ["invalid value: integer `", toString i, "`, expected ", w.name])
    match int64? i with
    | none => invalid
    | some j => if h : w.Has j then .ok ⟨j, h⟩ else invalid
  | m => .error (m.invalidType w.name)

/-- A float of the format, from a member. -/
def toFloat {F : Format} (name : String) : Member → Except String (Binary F)
  | .int i => .ok (.ofInt i)
  | .float x => .ok x.convert
  | m => .error (m.invalidType name)

def toBool : Member → Except String Bool
  | .bool b => .ok b
  | m => .error (m.invalidType "a boolean")

def toText : Member → Except String String
  | .text s => .ok s
  | m => .error (m.invalidType "a string")

/-- Bytes, each a number. -/
def byteList : List Member → Except String (List UInt8)
  | [] => .ok []
  | m :: ms => match m.toInt .u8 with
    | .error e => .error e
    | .ok i => (byteList ms).map (UInt8.ofNat i.val.toInt.toNat :: ·)

/-- Bytes, from a sequence or nothing. -/
def toBytes : Member → Except String (List UInt8)
  | .seq ms => byteList ms
  | .null => .ok []
  | m => .error (m.invalidType "a sequence")

def toDateTime : Member → Except String DateTime
  | .text s => match DateTime.readIso s with
    | .ok t => .ok t
    | .error e => .error e.message
  | m => .error (m.invalidType "a formatted date and time string")

def toUuid : Member → Except String Uuid
  | .text s => match Uuid.read s with
    | .ok u => .ok u
    | .error e => .error (String.join ["UUID parsing failed: ", e.message])
  | m => .error (m.invalidType "a formatted UUID string")

/-- A member that may be absent. Null stands for absence. -/
def toOption {α : Type} (f : Member → Except String α) : Member → Except String (Option α)
  | .null => .ok none
  | m => (f m).map some

end Member

namespace Storage

/-- The member of what a field holds. -/
def encode : (s : Storage) → s.Carrier → Member
  | .int _, i => .int i.val.toInt
  | .bool, b => .bool b
  | .float32, x => .float (Binary.convert x)
  | .float64, x => .float x
  | .text, s => .text s
  | .bytes, bs => .seq (List.map (fun (b : UInt8) => Member.int b.toNat) bs)
  | .dateTime, t => .text (DateTime.text 'T' t)
  | .uuid, u => .text (Uuid.text u)
  | .json, j => Member.ofJson j
  | .optional s, x => match (x : Option s.Carrier) with
    | none => .null
    | some x => s.encode x

/-- What a field holds, by its member. -/
def decode : (s : Storage) → Member → Except String s.Carrier
  | .int w => Member.toInt w
  | .bool => Member.toBool
  | .float32 => (Member.toFloat "f32" : Member → Except String Single)
  | .float64 => (Member.toFloat "f64" : Member → Except String Double)
  | .text => Member.toText
  | .bytes => Member.toBytes
  | .dateTime => Member.toDateTime
  | .uuid => Member.toUuid
  | .json => fun m => .ok m.toJson
  | .optional s => Member.toOption s.decode

end Storage

namespace Value

/-- The member of a value. -/
def toMember : Value → Member
  | .null => .null
  | .bool b => .bool b
  | .int i => .int i.toInt
  | .float x => .float x
  | .text s => .text s
  | .bytes bs => .seq (bs.map fun b => .int b.toNat)
  | .dateTime t => .text (t.text 'T')
  | .uuid u => .text u.text
  | .json j => .ofJson j

end Value

namespace Member

/-- A member as a value of a kind. -/
def toKind? : Kind → Member → Option Value
  | .bool, .bool b => some (.bool b)
  | .int, .int i => (int64? i).map .int
  | .float, .int i => some (.float (.ofInt i))
  | .float, .float x => some (.float x)
  | .text, .text s => some (.text s)
  | .bytes, .seq ms => (byteList ms).toOption.map .bytes
  | .dateTime, .text s => (DateTime.readIso s).toOption.map .dateTime
  | .uuid, .text s => (Uuid.read? s).map .uuid
  | .json, m => some (.json m.toJson)
  | _, _ => none

/-- A member as a value of a field type. Null is SQL's null, except in JSON fields. -/
def toValue (m : Member) (t : FieldType) : Except ValueError Value :=
  match m, t.kind with
  | .null, .json => .ok (.json .null)
  | .null, _ => Value.null.coerce t
  | m, k => match m.toKind? k with
    | some v => .ok v
    | none => .error ⟨t.name, m.debug⟩

end Member

namespace FieldSpec

/-- The name of the field's member. -/
def memberName (f : FieldSpec) : String := f.member.rename.getD f.name

end FieldSpec

namespace Entity

/-- The field that the member of the name is read into. Of several fields it is the first. -/
def memberField? (e : Entity) (k : String) : Option (Fin e.fields.length) :=
  (List.finRange e.fields.length).find? fun i =>
    !(e.fields.get i).member.skip && (e.fields.get i).memberName == k

end Entity

namespace Record

variable {e : Entity}

/-- The members of the fields at the given places. -/
def membersFrom (r : Record e) : List (Fin e.fields.length) → Members → Members
  | [], ms => ms
  | i :: is, ms =>
    let f := e.fields.get i
    if f.member.skip then r.membersFrom is ms
    else
      let m := match f.member.written with
        | some j => Member.ofJson j
        | none => (e.storage i).encode (r i)
      r.membersFrom is (ms.insert f.memberName m)

/-- The members of a record, or why it has none. -/
def members (r : Record e) : Except String Members :=
  match e.form with
  | .map => .ok (r.membersFrom (List.finRange e.fields.length) [])
  | .sequence => .error "record does not serialize as a map"
  | .failing message => .error message

/-- The record `r` with the fields at the given places as the members have them. A field stays as it
is when its member is absent or is read into another field. -/
def readMembers (ms : Members) : List (Fin e.fields.length) → Record e → Except String (Record e)
  | [], r => .ok r
  | i :: is, r =>
    let k := (e.fields.get i).memberName
    match if e.memberField? k = some i then ms.lookup k else none with
    | none => readMembers ms is r
    | some m => match (e.storage i).decode m with
      | .error err => .error err
      | .ok x => readMembers ms is (r.put i x)

/-- The record with the given members; others do not count. -/
def ofMembers (ms : Members) : Except String (Record e) :=
  readMembers ms (List.finRange e.fields.length) initial

end Record

end RecordSql
