import RecordSql.Text.Utf8

/-!
# UUIDs

* `Uuid`: sixteen bytes.
* `Uuid.text`: five groups of hexadecimal digits.
* `Uuid.read`: the accepted spellings, or what is wrong with the text.
* `Uuid.read?_text`: reading undoes writing.
-/

namespace RecordSql

structure Uuid where
  bytes : List UInt8
  length_eq : bytes.length = 16
deriving DecidableEq

namespace Uuid

def nil : Uuid := ⟨List.replicate 16 0, by simp⟩

/-- The uuid of exactly sixteen bytes. -/
def ofBytes? (bs : List UInt8) : Option Uuid := if h : bs.length = 16 then some ⟨bs, h⟩ else none

/-- A lower-case hexadecimal digit. -/
def hexDigit (n : Nat) : Char := if n < 10 then Char.ofNat (48 + n) else Char.ofNat (87 + n)

def hexByte (b : UInt8) : List Char := [hexDigit (b.toNat / 16), hexDigit (b.toNat % 16)]

/-- The value of a hexadecimal digit in either case. -/
def hexValue? (c : Char) : Option Nat :=
  if '0' ≤ c ∧ c ≤ '9' then some (c.toNat - 48)
  else if 'a' ≤ c ∧ c ≤ 'f' then some (c.toNat - 87)
  else if 'A' ≤ c ∧ c ≤ 'F' then some (c.toNat - 55)
  else none

/-- The bytes that pairs of hexadecimal digits write. -/
def hexBytes? : List Char → Option (List UInt8)
  | [] => some []
  | [_] => none
  | a :: b :: r => match hexValue? a, hexValue? b, hexBytes? r with
    | some m, some n, some bs => some (UInt8.ofNat (m * 16 + n) :: bs)
    | _, _, _ => none

/-- Groups of 8, 4, 4, 4 and 12 digits between hyphens. -/
def chars (u : Uuid) : List Char :=
  let hex (i n : Nat) : List Char := ((u.bytes.drop i).take n).flatMap hexByte
  hex 0 4 ++ '-' :: hex 4 2 ++ '-' :: hex 6 2 ++ '-' :: hex 8 2 ++ '-' :: hex 10 6

def text (u : Uuid) : String := String.ofList u.chars

/-- The uuid of 32 hexadecimal digits. -/
def readSimple? (s : List Char) : Option Uuid := (hexBytes? s).bind ofBytes?

/-- The uuid of five groups between hyphens. -/
def readGroups? (s : List Char) : Option Uuid :=
  if s.length = 36 ∧ [8, 13, 18, 23].all (fun i => s[i]? = some '-') then
    readSimple? (s.take 8 ++ (s.drop 9).take 4 ++ (s.drop 14).take 4 ++ (s.drop 19).take 4 ++
      s.drop 24)
  else none

/-- Whether `s` starts with the name-space mark, in any case. -/
def isUrn (s : List Char) : Bool := (s.take 9).map Char.toLower == "urn:uuid:".toList

def isBraced (s : List Char) : Bool := s.head? == some '\x7b' && s.tail.getLast? == some '\x7d'

/-- The text inside the braces or after the name-space mark that may enclose the groups. -/
def unwrap (s : List Char) : List Char :=
  if isBraced s then s.tail.dropLast else if isUrn s then s.drop 9 else s

/-- The uuid that a text writes: 32 digits, or five groups, bare, in braces or as a URN. -/
def read? (s : String) : Option Uuid :=
  let cs := s.toList
  if cs.length = 32 then readSimple? cs else readGroups? (unwrap cs)

/-- What is wrong with a text that is no uuid. -/
inductive Fault where
  /-- A character that is neither a hexadecimal digit nor a hyphen. -/
  | badCharacter (c : Char) (place : Nat)
  | badLength (bytes : Nat)
  | badGroupCount (groups : Nat)
  | badGroupLength (group expected found : Nat)
deriving DecidableEq

def Fault.message : Fault → String
  | .badCharacter c i =>
    String.join ["invalid character: found `", toString c, "` at ", toString i]
  | .badLength n => String.join ["invalid length: found ", toString n]
  | .badGroupCount n => String.join ["invalid group count: expected 5, found ", toString n]
  | .badGroupLength g e n =>
    String.join ["invalid group length in group ", toString g, ": expected ", toString e,
      ", found ", toString n]

/-- The lengths of the pieces between hyphens. -/
def groupLengths : List Char → List Nat
  | [] => [0]
  | c :: r => match groupLengths r with
    | [] => [1]
    | n :: ns => if c = '-' then 0 :: n :: ns else (n + 1) :: ns

/-- The first character that is neither a hexadecimal digit nor a hyphen, counted from `i`. -/
def findBadCharacter (i : Nat) : List Char → Option Fault
  | [] => none
  | c :: r =>
    if (hexValue? c).isNone && c != '-' then some (.badCharacter c i)
    else findBadCharacter (i + 1) r

/-- The first of the groups from number `i` on whose length is not the expected one. -/
def findBadGroup (i : Nat) : List Nat → List Nat → Option Fault
  | e :: es, n :: ns => if n = e then findBadGroup (i + 1) es ns else some (.badGroupLength i e n)
  | _, _ => none

/-- The length in bytes. -/
def byteLength (s : List Char) : Nat := (Text.Utf8.encode (String.ofList s)).length

/-- What is wrong with the groups in `body`, whose characters count from `i` on, in a text of `n`
bytes. The last group is taken to reach to the end of the text. -/
def groupFault (i n : Nat) (body : List Char) : Fault :=
  match findBadCharacter i body with
  | some f => f
  | none =>
    let groups := groupLengths body
    if groups.length ≠ 5 then .badGroupCount groups.length
    else match findBadGroup 0 [8, 4, 4, 4] groups with
      | some f => f
      | none => .badGroupLength 4 12 (n - 24)

/-- The place of the first character that does not belong to braces or name-space mark. -/
def bodyStart (s : List Char) : Nat := if isBraced s then 1 else if isUrn s then 9 else 0

/-- What is wrong with `s`. Nothing longer than the 45 bytes of a URN is looked into. The 36 bytes
that five groups have are taken for groups and nothing else, also inside braces and in a URN, where
places count from the first of them. Other hexadecimal digits are 32 digits of the wrong number. -/
def fault (s : List Char) : Fault :=
  let n := byteLength s
  if 45 < n then .badLength n
  else if n = 36 then groupFault 0 n s
  else if byteLength (unwrap s) = 36 then groupFault 0 n (unwrap s)
  else if s.all (fun c => (hexValue? c).isSome) then .badLength n
  else groupFault (bodyStart s) n (unwrap s)

/-- The uuid that a text writes, or what is wrong with the text. -/
def read (s : String) : Except Fault Uuid :=
  match read? s with
  | some u => .ok u
  | none => .error (fault s.toList)

/-! ## Reading undoes writing -/

theorem hexValue?_hexDigit {n : Nat} (h : n < 16) : hexValue? (hexDigit n) = some n := by
  have : ∀ m : Fin 16, hexValue? (hexDigit m) = some m.val := by decide
  exact this ⟨n, h⟩

theorem hexBytes?_flatMap_hexByte (bs : List UInt8) : hexBytes? (bs.flatMap hexByte) = some bs := by
  induction bs with
  | nil => rfl
  | cons b bs ih =>
    have hb : b.toNat < 256 := b.toNat_lt
    rw [List.flatMap_cons, hexByte, List.cons_append, List.cons_append, List.nil_append, hexBytes?,
      hexValue?_hexDigit (by omega), hexValue?_hexDigit (by omega), ih]
    simp only [Option.some.injEq, List.cons.injEq, and_true]
    rw [show b.toNat / 16 * 16 + b.toNat % 16 = b.toNat by omega]
    simp

/-- **Reading undoes writing.** -/
theorem read?_text (u : Uuid) : read? u.text = some u := by
  obtain ⟨bs, hbs⟩ := u
  match bs, hbs with
  | [b0, b1, b2, b3, b4, b5, b6, b7, b8, b9, b10, b11, b12, b13, b14, b15], h =>
    have hx := hexBytes?_flatMap_hexByte
      [b0, b1, b2, b3, b4, b5, b6, b7, b8, b9, b10, b11, b12, b13, b14, b15]
    have hd : ∀ m : Fin 16, hexDigit m ≠ '\x7b' ∧ (hexDigit m).toLower ≠ 'u' := by decide
    have h0 := hd ⟨b0.toNat / 16, by have := b0.toNat_lt; omega⟩
    simp only [read?, text, chars, String.toList_ofList, hexByte, List.drop, List.take,
      List.flatMap_cons, List.flatMap_nil, List.cons_append, List.nil_append,
      List.append_nil] at hx ⊢
    simp only [List.length_cons, List.length_nil, Nat.reduceAdd]
    rw [if_neg (by decide)]
    simp [unwrap, isBraced, isUrn, h0, readGroups?, readSimple?, hx, ofBytes?]

end Uuid

end RecordSql
