import RecordSql.Number.Shortest

/-!
# Float text

The written form of a float, as the digits of its shortest decimal and a `Style` that decides where
the point goes and when an exponent is used.

* `Style`: the decisions of one output.
* `Style.write`: the text of a float.
* `plain`, `debug`, `json`, `member`, `pointed`: the styles in use.
-/

namespace RecordSql.Number

/-- The decisions of one way of writing floats. -/
structure Style where
  /-- Values from `10 ^ low` up to `10 ^ high` are written without an exponent; none means all. -/
  positional : Option (Int × Int)
  /-- What follows a whole number. -/
  whole : String
  /-- The sign of a positive exponent. -/
  plus : String
  /-- Where a value half-way between two shortest decimals goes. -/
  tie : Tie
  nan : String
  inf : String
  negInf : String

namespace Style

/-- Always positional, and a whole number has no point. -/
def plain : Style := ⟨none, "", "", .up, "NaN", "inf", "-inf"⟩

/-- Always positional, and a whole number ends in `.0`. -/
def pointed : Style := { plain with whole := ".0" }

/-- Positional from `1e-4` up to `1e16`. -/
def debug : Style := { pointed with positional := some (-4, 16) }

/-- Positional from `1e-5` up to `1e16`, and exponents carry their sign. -/
def json : Style := ⟨some (-5, 16), ".0", "+", .toEven, "null", "null", "null"⟩

/-- Positional from `1e-5` up to `1e16`. -/
def member : Style := ⟨some (-5, 16), ".0", "", .toEven, ".nan", ".inf", "-.inf"⟩

/-- The digits `ds` with the point after the first `point` of them. -/
def positionalText (s : Style) (ds : List Char) (point : Int) : String :=
  if point ≤ 0 then
    String.ofList ('0' :: '.' :: List.replicate (-point).toNat '0' ++ ds)
  else if ds.length ≤ point.toNat then
    String.ofList (ds ++ List.replicate (point.toNat - ds.length) '0') ++ s.whole
  else String.ofList (ds.take point.toNat ++ '.' :: ds.drop point.toNat)

/-- The digits `ds` with the point after the first one, times `10 ^ e`. -/
def exponentText (s : Style) (ds : List Char) (e : Int) : String :=
  let mantissa := match ds with
    | [] => []
    | [d] => [d]
    | d :: r => d :: '.' :: r
  String.ofList mantissa ++ "e" ++ (if e < 0 then "" else s.plus) ++ toString e

/-- The text of a magnitude. -/
def magnitude (s : Style) (d : Decimal) : String :=
  let all := Nat.toDigits 10 d.significand
  let ds := match (all.reverse.dropWhile (· = '0')).reverse with
    | [] => ['0']
    | ds => ds
  let point : Int := if d.significand = 0 then 1 else all.length + d.exponent
  match s.positional with
  | none => s.positionalText ds point
  | some (low, high) =>
    if d.significand = 0 ∨ (low < point ∧ point ≤ high) then s.positionalText ds point
    else s.exponentText ds (point - 1)

/-- The text of a finite number. -/
def writeFinite {F : Format} (s : Style) (x : Binary.Finite F) : String :=
  (if x.neg then "-" else "") ++ s.magnitude (x.shortest s.tie)

/-- The text of a number. -/
def write {F : Format} (s : Style) : Binary F → String
  | .nan => s.nan
  | .inf false => s.inf
  | .inf true => s.negInf
  | .finite x => s.writeFinite x

end Style

end RecordSql.Number
