import RecordSql.DateTime.Text
import RecordSql.Json.Text
import RecordSql.Text.Quoted
import RecordSql.Value

/-!
# Value text

* `Value.display`: a value as itself.
* `Value.describe`: a value in an error message.
* `Value.debug`: a value with its kind, as logs show it.
-/

namespace RecordSql

open Number

/-- Items between brackets, with commas between them. -/
def bracketed (items : List String) : String := "[" ++ ", ".intercalate items ++ "]"

mutual

/-- A JSON value with its kind. -/
def Json.debug : Json → String
  | .null => "Null"
  | .bool b => String.join ["Bool(", toString b, ")"]
  | .int i => String.join ["Number(", toString i, ")"]
  | .float x => String.join ["Number(", Style.json.writeFinite x, ")"]
  | .text s => String.join ["String(", Text.quoted s, ")"]
  | .array js => String.join ["Array ", bracketed (Json.debugAll js)]
  | .object ms => String.join ["Object \x7b", ", ".intercalate (Json.debugMembers ms), "\x7d"]

def Json.debugAll : List Json → List String
  | [] => []
  | j :: js => j.debug :: Json.debugAll js

def Json.debugMembers : List (String × Json) → List String
  | [] => []
  | (k, j) :: ms => (Text.quoted k ++ ": " ++ j.debug) :: Json.debugMembers ms

end

namespace Value

/-- The value as itself. -/
def display : Value → String
  | .null => "NULL"
  | .bool b => toString b
  | .int i => toString i.toInt
  | .float x => Style.plain.write x
  | .text s => s
  | .bytes bs => String.join ["<", toString bs.length, " bytes>"]
  | .dateTime t => t.text ' '
  | .uuid u => u.text
  | .json j => j.write

/-- The value in an error message. -/
def describe : Value → String
  | .null => "null"
  | .text s => String.join ["text ", Text.quoted s]
  | v => v.display

/-- The value with its kind. -/
def debug : Value → String
  | .null => "Null"
  | .bool b => String.join ["Bool(", toString b, ")"]
  | .int i => String.join ["Int(", toString i.toInt, ")"]
  | .float x => String.join ["Float(", Style.debug.write x, ")"]
  | .text s => String.join ["Text(", Text.quoted s, ")"]
  | .bytes bs => String.join ["Bytes(", bracketed (bs.map (toString ·.toNat)), ")"]
  | .dateTime t => String.join ["DateTime(", t.text 'T', ")"]
  | .uuid u => String.join ["Uuid(", u.text, ")"]
  | .json j => String.join ["Json(", j.debug, ")"]

/-- Arguments with their kinds. -/
def debugAll (vs : List Value) : String := bracketed (vs.map debug)

end Value

end RecordSql
