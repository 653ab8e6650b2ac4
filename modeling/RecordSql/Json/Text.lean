import RecordSql.Json
import RecordSql.Number.Style

/-!
# JSON text

The compact written form: no blanks, members by name, and an escape only where one is required.
-/

namespace RecordSql.Json

open Number

/-- How `c` is written in a string. -/
def escape (c : Char) : List Char :=
  if c = '"' then ['\\', '"']
  else if c = '\\' then ['\\', '\\']
  else if c = '\n' then ['\\', 'n']
  else if c = '\t' then ['\\', 't']
  else if c = '\r' then ['\\', 'r']
  else if c = '\x08' then ['\\', 'b']
  else if c = '\x0c' then ['\\', 'f']
  else if c < ' ' then
    ['\\', 'u', '0', '0', Nat.digitChar (c.toNat / 16), Nat.digitChar (c.toNat % 16)]
  else [c]

def stringText (s : String) : String := String.ofList ('"' :: s.toList.flatMap escape ++ ['"'])

mutual

/-- The written form of a value. -/
def write : Json → String
  | .null => "null"
  | .bool b => if b then "true" else "false"
  | .int i => toString i
  | .float x => Style.json.writeFinite x
  | .text s => stringText s
  | .array js => "[" ++ ",".intercalate (writeAll js) ++ "]"
  | .object ms => "\x7b" ++ ",".intercalate (writeMembers ms) ++ "\x7d"

def writeAll : List Json → List String
  | [] => []
  | j :: js => write j :: writeAll js

def writeMembers : List (String × Json) → List String
  | [] => []
  | (k, j) :: ms => (stringText k ++ ":" ++ write j) :: writeMembers ms

end

end RecordSql.Json
