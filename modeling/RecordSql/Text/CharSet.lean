/-!
# Sets of characters

A character property is a table of strided spans of code points, so that an alternating run such as
`Ā ā Ă ă …` takes one entry.

* `Span`: the code points from `first` to `last`, `step` apart.
* `CharSet.has`: membership of a character.
-/

namespace RecordSql.Text

/-- The code points `first`, `first + step`, … up to `last`. -/
structure Span where
  first : Nat
  last : Nat
  step : Nat
deriving DecidableEq

/-- Whether code point `n` lies on the span. -/
def Span.has (s : Span) (n : Nat) : Bool :=
  s.first ≤ n && n ≤ s.last && (n - s.first) % s.step == 0

/-- A set of characters, as the spans that make it up. -/
abbrev CharSet := List Span

/-- Whether `c` belongs to the set. -/
def CharSet.has (t : CharSet) (c : Char) : Bool := t.any (·.has c.toNat)

/-- The set made of closed ranges of code points. -/
def CharSet.ofRanges (rs : List (Nat × Nat)) : CharSet := rs.map fun r => ⟨r.1, r.2, 1⟩

end RecordSql.Text
