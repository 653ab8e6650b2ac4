import RecordSql.Number.Binary

/-!
# Decimal text

* `digits`: the decimal digits at the start of a text, and the rest.
* `readInt64?`: an optional sign and digits, within the range of a 64-bit integer.
* `readDouble?`: a decimal fraction with an optional exponent, or the name of a special value,
  rounded once.
-/

namespace RecordSql.Number

/-- The value of a digit. -/
def digitValue (c : Char) : Nat := c.toNat - '0'.toNat

/-- The number that the digits `ds` write. -/
def ofDigits (ds : List Char) : Nat := ds.foldl (fun n c => 10 * n + digitValue c) 0

/-- The digits at the start of `s`, and what follows them. -/
def digits (s : List Char) : List Char × List Char :=
  (s.takeWhile Char.isDigit, s.dropWhile Char.isDigit)

/-- A sign at the start of `s`, true for `-`, and what follows it. -/
def sign : List Char → Bool × List Char
  | '-' :: r => (true, r)
  | '+' :: r => (false, r)
  | r => (false, r)

/-- The integer with the given sign, if it is a 64-bit one. -/
def int64? (i : Int) : Option Int64 :=
  if -2 ^ 63 ≤ i ∧ i < 2 ^ 63 then some (Int64.ofInt i) else none

/-- The integer written by an optional sign and at least one digit. -/
def readInt64? (s : List Char) : Option Int64 :=
  let (neg, ds) := sign s
  if ds.isEmpty || !ds.all Char.isDigit then none
  else int64? (if neg then -(ofDigits ds : Int) else ofDigits ds)

/-- The double nearest to `± n * 10 ^ e`. Exponents past the format's range are cut short. -/
def ofDecimal (neg : Bool) (n : Nat) (e : Int) : Double :=
  let size : Int := (Nat.toDigits 10 n).length
  if n = 0 ∨ size + e < -400 then .ofRatio neg 0 1
  else if 400 < size + e then .inf neg
  else .ofRatio neg (n * 10 ^ e.toNat) (10 ^ (-e).toNat)

/-- The exponent part of a decimal number, which must be the whole text; no text is exponent
zero. -/
def readExponent? : List Char → Option Int
  | [] => some 0
  | c :: r =>
    if c = 'e' ∨ c = 'E' then
      let (neg, ds) := sign r
      if ds.isEmpty || !ds.all Char.isDigit then none
      else some (if neg then -(ofDigits ds : Int) else ofDigits ds)
    else none

/-- The names of the values that are not finite, in lower case. -/
def readSpecial? (neg : Bool) (s : List Char) : Option Double :=
  match String.ofList (s.map Char.toLower) with
  | "inf" => some (.inf neg)
  | "infinity" => some (.inf neg)
  | "nan" => some .nan
  | _ => none

/-- The double that a text writes: an optional sign, then digits with at most one point among them
and an exponent, or the name of a special value in any case. -/
def readDouble? (s : List Char) : Option Double :=
  let (neg, r) := sign s
  let (whole, r) := digits r
  let (frac, r) := match r with
    | '.' :: t => digits t
    | t => ([], t)
  if whole.isEmpty && frac.isEmpty then readSpecial? neg (sign s).2
  else (readExponent? r).map fun e => ofDecimal neg (ofDigits (whole ++ frac)) (e - frac.length)

end RecordSql.Number
