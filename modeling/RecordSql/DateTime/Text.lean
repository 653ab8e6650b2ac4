import RecordSql.DateTime
import RecordSql.Number.Decimal
import RecordSql.Text.Blank

/-!
# Date and time text

* `DateTime.text`: the written form, with a given character between date and time.
* `Pattern`: what a text has to hold, part by part.
* `DateTime.read`: the date and time that a text writes under a pattern.
* `DateTime.read?`: under the first of the patterns that databases send.
* `DateTime.readIso`: the written form with `T`, with blanks allowed between its parts.
-/

namespace RecordSql

open Number Text

/-- The last `width` decimal digits of `n`. -/
def fixed : Nat → Nat → List Char
  | 0, _ => []
  | width + 1, n => fixed width (n / 10) ++ [Nat.digitChar (n % 10)]

/-- Years outside 0 to 9999 carry a sign, and no year has fewer than four digits. -/
def yearChars (y : Int) : List Char :=
  let n := y.natAbs
  let ds := fixed (if n < 10000 then 4 else if n < 100000 then 5 else 6) n
  if 0 ≤ y ∧ y ≤ 9999 then ds else (if y < 0 then '-' else '+') :: ds

/-- A fraction has as many digits as it needs, in groups of three. -/
def fractionChars (nano : Nat) : List Char :=
  if nano = 0 then []
  else if nano % 1000000 = 0 then '.' :: fixed 3 (nano / 1000000)
  else if nano % 1000 = 0 then '.' :: fixed 6 (nano / 1000)
  else '.' :: fixed 9 nano

/-- A leap second is written as second 60. -/
def secondChars (second nano : Nat) : List Char :=
  if 1000000000 ≤ nano then fixed 2 (second + 1) ++ fractionChars (nano - 1000000000)
  else fixed 2 second ++ fractionChars nano

namespace DateTime

/-- Date and time around `separator`, for instance `2024-05-01 10:30:00.250`. -/
def chars (separator : Char) (t : DateTime) : List Char :=
  yearChars t.date.year ++ '-' :: (fixed 2 t.date.month ++ '-' :: (fixed 2 t.date.day ++
    separator :: (fixed 2 t.time.hour ++ ':' :: (fixed 2 t.time.minute ++
    ':' :: secondChars t.time.second t.time.nano))))

def text (separator : Char) (t : DateTime) : String := String.ofList (t.chars separator)

/-- Why a text is no date and time. -/
inductive Fault where
  | invalid
  | tooShort
  | outOfRange
  | tooLong
deriving DecidableEq

def Fault.message : Fault → String
  | .invalid => "input contains invalid characters"
  | .tooShort => "premature end of input"
  | .outOfRange => "input is out of range"
  | .tooLong => "trailing input"

/-- A part of a written date and time. -/
inductive Part where
  | year
  | month
  | day
  | hour
  | minute
  | second
  /-- A point and digits, or nothing. -/
  | fraction
  /-- Any number of blanks. -/
  | blanks
  /-- One given character. -/
  | mark (c : Char)
deriving DecidableEq

abbrev Pattern := List Part

/-- The numbers read so far. A second may be 60. -/
structure Numbers where
  year : Int
  month : Nat
  day : Nat
  hour : Nat
  minute : Nat
  second : Nat
  nano : Nat

/-- At most `width` digits and at least one, as a number, and the text after them. -/
def readNumber (width : Option Nat) (s : List Char) : Except Fault (Nat × List Char) :=
  let all := (digits s).1
  let ds := match width with
    | some w => all.take w
    | none => all
  if s.isEmpty then .error .tooShort
  else if ds.isEmpty then .error .invalid
  else .ok (ofDigits ds, s.drop ds.length)

/-- A number of one or two digits after any blanks, within `low` to `high`. -/
def readField (low high : Nat) (s : List Char) : Except Fault (Nat × List Char) :=
  match readNumber (some 2) (trimStart s) with
  | .error e => .error e
  | .ok (n, r) => if low ≤ n ∧ n ≤ high then .ok (n, r) else .error .outOfRange

/-- A number after any blanks: up to four digits, or a sign and any number of digits. -/
def readSigned (s : List Char) : Except Fault (Int × List Char) :=
  match trimStart s with
  | '-' :: r => (readNumber none r).map fun (n, r) => (-(n : Int), r)
  | '+' :: r => (readNumber none r).map fun (n, r) => ((n : Int), r)
  | r => (readNumber (some 4) r).map fun (n, r) => ((n : Int), r)

/-- A year, which has to be a number of 32 bits even where the rest of the text is no date. -/
def readYear (s : List Char) : Except Fault (Int × List Char) :=
  match readSigned s with
  | .error e => .error e
  | .ok (y, r) => if -2 ^ 31 ≤ y ∧ y < 2 ^ 31 then .ok (y, r) else .error .outOfRange

/-- The nanoseconds of a fraction, whose digits after the ninth do not count. -/
def readFraction (s : List Char) : Except Fault (Nat × List Char) :=
  match s with
  | '.' :: r =>
    match readNumber (some 9) r with
    | .error e => .error e
    | .ok (n, _) =>
      let (ds, rest) := digits r
      .ok (n * 10 ^ (9 - ds.length), rest)
  | r => .ok (0, r)

/-- Read one part. -/
def Part.read (p : Part) (n : Numbers) (s : List Char) : Except Fault (Numbers × List Char) :=
  match p with
  | .year => (readYear s).map fun (v, r) => ({ n with year := v }, r)
  | .month => (readField 1 12 s).map fun (v, r) => ({ n with month := v }, r)
  | .day => (readField 1 31 s).map fun (v, r) => ({ n with day := v }, r)
  | .hour => (readField 0 23 s).map fun (v, r) => ({ n with hour := v }, r)
  | .minute => (readField 0 59 s).map fun (v, r) => ({ n with minute := v }, r)
  | .second => (readField 0 60 s).map fun (v, r) => ({ n with second := v }, r)
  | .fraction => (readFraction s).map fun (v, r) => ({ n with nano := v }, r)
  | .blanks => .ok (n, trimStart s)
  | .mark c => match s with
    | [] => .error .tooShort
    | d :: r => if d = c then .ok (n, r) else .error .invalid

/-- Read the parts of a pattern, up to the end of the text. -/
def Pattern.read : Pattern → Numbers → List Char → Except Fault Numbers
  | [], n, s => if s.isEmpty then .ok n else .error .tooLong
  | p :: ps, n, s => match p.read n s with
    | .error e => .error e
    | .ok (n, r) => Pattern.read ps n r

/-- The date and time of the numbers, if there is one. Second 60 is a leap second. -/
def Numbers.toDateTime? (n : Numbers) : Option DateTime :=
  let leap := n.second = 60
  match Date.of? n.year n.month n.day,
      Time.of? n.hour n.minute (if leap then 59 else n.second)
        (if leap then n.nano + 1000000000 else n.nano) with
  | some d, some t => some ⟨d, t⟩
  | _, _ => none

/-- The date and time that `s` writes under `p`. -/
def read (p : Pattern) (s : List Char) : Except Fault DateTime :=
  match Pattern.read p ⟨0, 0, 0, 0, 0, 0, 0⟩ s with
  | .error e => .error e
  | .ok n => match n.toDateTime? with
    | some t => .ok t
    | none => .error .outOfRange

def datePattern : Pattern := [.year, .mark '-', .month, .mark '-', .day]

def minutePattern : Pattern := [.hour, .mark ':', .minute]

def secondPattern : Pattern := minutePattern ++ [.mark ':', .second, .fraction]

/-- The forms in which databases send a date and time. -/
def patterns : List Pattern :=
  [datePattern ++ [.blanks] ++ secondPattern,
   datePattern ++ [.mark 'T'] ++ secondPattern,
   datePattern ++ [.blanks] ++ minutePattern]

/-- The date and time that a text writes in one of the forms of `patterns`, after trimming. -/
def read? (s : String) : Option DateTime :=
  patterns.findSome? fun p => (read p (trim s.toList)).toOption

/-- The written form with `T`. -/
def isoPattern : Pattern :=
  [.year, .blanks, .mark '-', .month, .blanks, .mark '-', .day, .blanks, .mark 'T',
   .hour, .blanks, .mark ':', .minute, .blanks, .mark ':', .second, .fraction, .blanks]

def readIso (s : String) : Except Fault DateTime := read isoPattern s.toList

end DateTime

end RecordSql
