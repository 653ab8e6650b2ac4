import RecordSql.Json
import RecordSql.Number.Decimal

/-!
# JSON numbers

A number without fraction or exponent is an integer as long as it fits 64 bits, signed or not. Any
other number is a float, found fast rather than exactly: the digits go into a 64-bit significand,
which is made a double and then scaled by powers of ten, rounding at each step.

* `absorbWhole`, `absorbFraction`: digits into the significand, as far as there is room.
* `scaled?`: the scaling.
* `readNumber?`: a number at the start of a text, and the rest.
-/

namespace RecordSql.Json

open Number

/-- The first natural that does not fit the significand. -/
def significandEnd : Nat := 2 ^ 64

/-- Digits before the point. From the first one without room on, each only raises the exponent. -/
def absorbWhole : Nat → List Char → Nat × Nat
  | n, [] => (n, 0)
  | n, c :: r =>
    let m := 10 * n + digitValue c
    if m < significandEnd then absorbWhole m r else (n, r.length + 1)

/-- Digits after the point, up to the first one without room, and how many were taken. -/
def absorbFraction : Nat → List Char → Nat × Nat
  | n, [] => (n, 0)
  | n, c :: r =>
    let m := 10 * n + digitValue c
    if m < significandEnd then
      let (v, k) := absorbFraction m r
      (v, k + 1)
    else (n, 0)

/-- The double nearest to `x * y`. -/
def mul (x y : Binary.Finite .double) : Double :=
  .ofRatio (x.neg != y.neg) (x.ratio.1 * y.ratio.1) (x.ratio.2 * y.ratio.2)

/-- The double nearest to `x / y`, for `y` not zero. -/
def div (x y : Binary.Finite .double) : Double :=
  .ofRatio (x.neg != y.neg) (x.ratio.1 * y.ratio.2) (x.ratio.2 * y.ratio.1)

/-- A power of ten as a double. -/
def powerOfTen? (e : Nat) : Option (Binary.Finite .double) :=
  Binary.finite? (.ofRatio false (10 ^ e) 1)

/-- `x * 10 ^ e`, in steps of at most 308 places down and a single one up; none past the range. -/
def scaled? : Nat → Binary.Finite .double → Int → Option (Binary.Finite .double)
  | 0, x, _ => some x
  | fuel + 1, x, e =>
    if e.natAbs ≤ 308 then
      (powerOfTen? e.natAbs).bind fun p => Binary.finite? (if 0 ≤ e then mul x p else div x p)
    else if x.isZero then some x
    else if 0 ≤ e then none
    else (powerOfTen? 308).bind fun p =>
      (Binary.finite? (div x p)).bind fun y => scaled? fuel y (e + 308)

/-- The float `± n * 10 ^ e`. Three steps down leave nothing of any significand. -/
def ofParts? (neg : Bool) (n : Nat) (e : Int) : Option (Binary.Finite .double) :=
  (Binary.finite? (.ofInt n)).bind fun x =>
    (scaled? 4 x e).map fun y => { y with neg }

/-- The exponents `e` stands for when it is too large to count. -/
def exponentEnd : Nat := 2 ^ 31

/-- An exponent at the start of `s`, after its letter: its sign, its digits and the rest. -/
def readExponent? (s : List Char) : Option (Bool × Nat × List Char) :=
  let (down, r) := sign s
  let (ds, r) := digits r
  if ds.isEmpty then none else some (down, ofDigits ds, r)

/-- The float with significand `n` and exponent `e`, whose text may go on with an exponent. -/
def readScaled? (neg : Bool) (n : Nat) (e : Int) (s : List Char) : Option (Json × List Char) :=
  let plain := (ofParts? neg n e).map fun x => (.float x, s)
  match s with
  | c :: r =>
    if c = 'e' ∨ c = 'E' then
      match readExponent? r with
      | none => none
      | some (down, d, r) =>
        if exponentEnd ≤ d then
          if n ≠ 0 ∧ !down then none else (ofParts? neg 0 0).map fun x => (.float x, r)
        else (ofParts? neg n (if down then e - d else e + d)).map fun x => (.float x, r)
    else plain
  | [] => plain

/-- An integer, or the float nearest to it if it fits no 64 bits; zero with a sign is a float. -/
def ofWhole? (neg : Bool) (n : Nat) : Option Json :=
  if !neg then some (.int n)
  else if 0 < n ∧ n ≤ 2 ^ 63 then some (.int (-(n : Int)))
  else (ofParts? true n 0).map .float

/-- A number at the start of `s`. Only a lone zero starts with zero. -/
def readNumber? (s : List Char) : Option (Json × List Char) :=
  let (neg, r) := match s with
    | '-' :: r => (true, r)
    | r => (false, r)
  let (whole, r) := digits r
  let (n, dropped) := absorbWhole 0 whole
  if whole.isEmpty || (whole.head? == some '0' && 1 < whole.length) then none
  else match r with
    | '.' :: r =>
      let (frac, r) := digits r
      let (n, taken) := absorbFraction n frac
      if frac.isEmpty then none else readScaled? neg n (dropped - taken) r
    | 'e' :: _ | 'E' :: _ => readScaled? neg n dropped r
    | _ =>
      if dropped = 0 then (ofWhole? neg n).map fun j => (j, r)
      else readScaled? neg n dropped r

end RecordSql.Json
