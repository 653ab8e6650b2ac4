import RecordSql.Error

/-!
# Tags

The tag of a field is a list of `key=value` with commas between them.

* `Tag.parse`: the entries of a tag, or its first malformed piece.
* `Tag.lookup?`: the last value of a key.
-/

namespace RecordSql.Tag

/-- The pieces of a text between the separators. -/
def split (sep : Char) : List Char → List (List Char)
  | [] => [[]]
  | c :: r => match split sep r with
    | [] => [[c]]
    | p :: ps => if c = sep then [] :: p :: ps else (c :: p) :: ps

/-- The entry that a piece writes. -/
def parsePiece (p : List Char) : Except Error (String × String) :=
  match split '=' p with
  | [k, v] => .ok (String.ofList k, String.ofList v)
  | _ => .error (.malformedTag (String.ofList p))

/-- The entries that pieces write, or the error of the first piece that writes none. -/
def parsePieces : List (List Char) → Except Error (List (String × String))
  | [] => .ok []
  | p :: ps => match parsePiece p with
    | .error e => .error e
    | .ok kv => (parsePieces ps).map (kv :: ·)

/-- The entries of a tag in order. -/
def parse (s : String) : Except Error (List (String × String)) :=
  if s.toList.isEmpty then .ok [] else parsePieces (split ',' s.toList)

/-- The value of the last entry for `k`. -/
def lookup? (k : String) (kvs : List (String × String)) : Option String := kvs.reverse.lookup k

end RecordSql.Tag
