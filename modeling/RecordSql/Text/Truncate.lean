/-!
# Truncation

* `takeBytes`: the longest start of a text that has at most so many bytes in UTF-8.
* `truncate`: a text, cut there and marked if it is longer.
-/

namespace RecordSql.Text

/-- The characters at the start that take at most `n` bytes together. -/
def takeBytes : Nat → List Char → List Char
  | _, [] => []
  | n, c :: cs => if c.utf8Size ≤ n then c :: takeBytes (n - c.utf8Size) cs else []

/-- `s` if it has at most `limit` bytes, else its start and three dots. -/
def truncate (limit : Nat) (s : String) : String :=
  if s.utf8ByteSize ≤ limit then s else String.ofList (takeBytes limit s.toList) ++ "..."

end RecordSql.Text
