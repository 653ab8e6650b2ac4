import RecordSql.Number.Binary

/-!
# The shortest decimal that reads back

The decimal with the fewest digits that rounds to a given finite number, and of those the nearest
one.

* `Decimal`: a natural significand and a power of ten.
* `Binary.Finite.shortest`: the search, from coarse decimal grids to fine ones.
-/

namespace RecordSql.Number

/-- What becomes of a value half-way between two candidates. -/
inductive Tie where
  | up
  | toEven
deriving DecidableEq

/-- The number `significand * 10 ^ exponent`. -/
structure Decimal where
  significand : Nat
  exponent : Int
deriving DecidableEq

/-- A positive value and the ends of the interval of numbers that round to it, all over one
denominator; `closed` if the ends round to it too. -/
structure Interval where
  low : Nat
  value : Nat
  high : Nat
  den : Nat
  closed : Bool

/-- The interval in units of `10 ^ g`. -/
def Interval.scale (i : Interval) (g : Int) : Interval :=
  let up := 10 ^ (-g).toNat
  { i with low := i.low * up, value := i.value * up, high := i.high * up,
           den := i.den * 10 ^ g.toNat }

/-- Whether the natural `d` lies in the interval. -/
def Interval.has (i : Interval) (d : Nat) : Bool :=
  let x := d * i.den
  if i.closed then i.low ≤ x && x ≤ i.high else i.low < x && x < i.high

/-- The natural in the interval nearest to its value, if there is one. -/
def Interval.nearest? (i : Interval) (tie : Tie) : Option Nat :=
  let d := i.value / i.den
  let twice := 2 * (i.value % i.den)
  match i.has d, i.has (d + 1) with
  | true, true =>
    if twice < i.den then some d
    else if i.den < twice then some (d + 1)
    else match tie with
      | .up => some (d + 1)
      | .toEven => some (if d % 2 = 0 then d else d + 1)
  | true, false => some d
  | false, true => some (d + 1)
  | false, false => none

/-- The first grid, from `10 ^ g` downwards, that has a point in the interval. -/
def Interval.search (i : Interval) (tie : Tie) : Nat → Int → Decimal
  | 0, g => ⟨(i.scale g).value / (i.scale g).den, g⟩
  | fuel + 1, g => match (i.scale g).nearest? tie with
    | some d => ⟨d, g⟩
    | none => i.search tie fuel (g - 1)

/-- The numbers that round to the magnitude of `x`, in quarters of its last place. Below a power of
two the places are half as wide. -/
def Binary.Finite.interval {F : Format} (x : Binary.Finite F) : Interval :=
  let m := x.significand
  let q := x.exponent - 2
  let below := if m = 2 ^ F.fractionBits ∧ F.minExponent < x.exponent then 1 else 2
  let up := 2 ^ q.toNat
  { low := (4 * m - below) * up, value := 4 * m * up, high := (4 * m + 2) * up,
    den := 2 ^ (-q).toNat, closed := m % 2 = 0 }

/-- A power of ten above the magnitude of `x` but less than four places above its first digit. -/
def Binary.Finite.topExponent {F : Format} (x : Binary.Finite F) : Int :=
  (Nat.log2 x.significand + x.exponent + 1) * 30103 / 100000 + 1

/-- The decimal with the fewest digits that rounds to the magnitude of `x`. Seventeen digits always
do for a double. -/
def Binary.Finite.shortest {F : Format} (x : Binary.Finite F) (tie : Tie) : Decimal :=
  if x.isZero then ⟨0, 0⟩ else x.interval.search tie 24 x.topExponent

end RecordSql.Number
