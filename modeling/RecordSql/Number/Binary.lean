/-!
# Binary floating-point numbers

A number of a binary interchange format, with one NaN. The magnitudes below infinity are coded by
the naturals below `infCode` in increasing order, so a code is a value's rank and rounding past the
end of a binade carries into the next one by itself.

* `Format.significand`, `Format.exponent`: the code's value `significand * 2 ^ exponent`.
* `Format.encode`: the code nearest to a positive quotient, ties to the even one.
* `Binary`: the numbers of a format; `Binary.equals` is their comparison, under which NaN differs
  from itself and the two zeros are equal.
-/

namespace RecordSql.Number

-- powers are the core library's own, also where another library has powers of everything
attribute [instance (2000), default_instance 20000] instPowNat

/-- A binary format: the width of the fraction, the exponent of the least positive value and the
code of infinity. -/
structure Format where
  fractionBits : Nat
  minExponent : Int
  infCode : Nat

/-- The 64-bit format. -/
def Format.double : Format := ⟨52, -1074, 2047 * 2 ^ 52⟩

/-- The 32-bit format. -/
def Format.single : Format := ⟨23, -149, 255 * 2 ^ 23⟩

/-- The quotient rounded to the nearest natural, ties to the even one. -/
def roundDiv (num den : Nat) : Nat :=
  let q := num / den
  let twice := 2 * (num % den)
  if twice < den ∨ (twice = den ∧ q % 2 = 0) then q else q + 1

/-- The exponent of the largest power of two that is at most the positive quotient. -/
def floorLog2 (num den : Nat) : Int :=
  let k : Int := Nat.log2 num - Nat.log2 den
  if den * 2 ^ k.toNat ≤ num * 2 ^ (-k).toNat then k else k - 1

namespace Format

variable (F : Format)

/-- The integral significand of a code. -/
def significand (code : Nat) : Nat :=
  if code < 2 ^ F.fractionBits then code else 2 ^ F.fractionBits + code % 2 ^ F.fractionBits

/-- The power of two that scales the significand of a code. -/
def exponent (code : Nat) : Int := F.minExponent + (code / 2 ^ F.fractionBits - 1 : Nat)

/-- The code nearest to `num / den`; at or above `infCode` the quotient is out of range. -/
def encode (num den : Nat) : Nat :=
  if num = 0 then 0
  else
    let q := max (floorLog2 num den - F.fractionBits) F.minExponent
    let m := roundDiv (num * 2 ^ (-q).toNat) (den * 2 ^ q.toNat)
    (q - F.minExponent).toNat * 2 ^ F.fractionBits + m

end Format

/-- A finite number: a sign and the code of the magnitude. -/
structure Binary.Finite (F : Format) where
  neg : Bool
  code : Fin F.infCode
deriving DecidableEq

/-- A number of the format. -/
inductive Binary (F : Format) where
  | nan
  | inf (neg : Bool)
  | finite (x : Binary.Finite F)
deriving DecidableEq

abbrev Double := Binary .double
abbrev Single := Binary .single

namespace Binary.Finite

variable {F : Format}

def significand (x : Binary.Finite F) : Nat := F.significand x.code
def exponent (x : Binary.Finite F) : Int := F.exponent x.code
def isZero (x : Binary.Finite F) : Bool := x.code.val == 0

/-- The magnitude as a quotient of naturals. -/
def ratio (x : Binary.Finite F) : Nat × Nat :=
  (x.significand * 2 ^ x.exponent.toNat, 2 ^ (-x.exponent).toNat)

/-- Comparison as numbers: the two zeros are equal. -/
def equals (x y : Binary.Finite F) : Bool := (x.isZero && y.isZero) || x == y

end Binary.Finite

namespace Binary

variable {F : Format}

/-- The number nearest to `± num / den`. -/
def ofRatio (neg : Bool) (num den : Nat) : Binary F :=
  let c := F.encode num den
  if h : c < F.infCode then .finite ⟨neg, c, h⟩ else .inf neg

/-- The number nearest to `i`. -/
def ofInt (i : Int) : Binary F := ofRatio (i < 0) i.natAbs 1

/-- The number itself, if it is finite. -/
def finite? : Binary F → Option (Binary.Finite F)
  | .finite x => some x
  | _ => none

def neg : Binary F → Binary F
  | .nan => .nan
  | .inf n => .inf !n
  | .finite x => .finite { x with neg := !x.neg }

/-- The nearest number of another format. -/
def convert {G : Format} : Binary F → Binary G
  | .nan => .nan
  | .inf n => .inf n
  | .finite x => ofRatio x.neg x.ratio.1 x.ratio.2

/-- Comparison as numbers: NaN differs from itself, and the two zeros are equal. -/
def equals : Binary F → Binary F → Bool
  | .inf m, .inf n => m == n
  | .finite x, .finite y => x.equals y
  | _, _ => false

/-- The weight of the sign bit in the interchange encoding. -/
def signWeight (F : Format) : Nat := F.infCode + 2 ^ F.fractionBits

/-- The interchange encoding; the one NaN is the quiet one with no payload. -/
def bits : Binary F → Nat
  | .nan => F.infCode + 2 ^ (F.fractionBits - 1)
  | .inf n => (if n then signWeight F else 0) + F.infCode
  | .finite x => (if x.neg then signWeight F else 0) + x.code

/-- The number with the given interchange encoding. -/
def ofBits (b : Nat) : Binary F :=
  let neg : Bool := signWeight F ≤ b
  let c := b % signWeight F
  if h : c < F.infCode then .finite ⟨neg, c, h⟩
  else if c = F.infCode then .inf neg
  else .nan

end Binary

end RecordSql.Number
