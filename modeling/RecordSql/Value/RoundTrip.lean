import RecordSql.Record.RoundTrip

/-!
# Values read back

* `Number.readInt64?_toString`: reading an integer undoes writing it.
* `Uuid.length_text`, `Uuid.read?_of_short`: how long texts are that write uuids.
* `Value.ofText?_display`: **what a value is printed as reads as the value**, for the kinds that are
  `Value.printed` so.
-/

namespace RecordSql

open Number Text

namespace Text

theorem trim_of_forall {s : List Char} (h : ∀ c ∈ s, isBlank c = false) : trim s = s := by
  have hstart : ∀ r : List Char, (∀ c ∈ r, isBlank c = false) → trimStart r = r := by
    intro r hr
    cases r with
    | nil => rfl
    | cons c r => exact trimStart_cons (hr c List.mem_cons_self) r
  rw [trim, hstart s h, hstart s.reverse fun c hc => h c (List.mem_reverse.1 hc),
    List.reverse_reverse]

/-- A text has a byte or more for each character. -/
theorem Utf8.length_le_encode (s : String) : s.toList.length ≤ (encode s).length := by
  have hpoint : ∀ c : Char, 1 ≤ (encodePoint c.toNat).length := by
    intro c
    unfold encodePoint
    split
    · exact Nat.le_refl _
    split
    · exact Nat.le_succ 1
    split
    · exact Nat.le_add_left 1 2
    · exact Nat.le_add_left 1 3
  unfold encode
  induction s.toList with
  | nil => exact Nat.le_refl _
  | cons c cs ih =>
    have := hpoint c
    rw [List.flatMap_cons, List.length_append, List.length_cons]
    omega

end Text

namespace Number

theorem ofDigits_toDigits (n : Nat) : ofDigits (Nat.toDigits 10 n) = n :=
  Nat.ofDigitChars_toDigits (b := 10) (n := n) (by decide) (by decide)

theorem isDigit_of_mem_toDigits {n : Nat} {c : Char} (h : c ∈ Nat.toDigits 10 n) :
    c.isDigit = true := Nat.isDigit_of_mem_toDigits (b := 10) (by decide) (by decide) h

/-- The digits of a number are digits, and there is one. -/
theorem readable_toDigits (n : Nat) :
    ((Nat.toDigits 10 n).isEmpty || !(Nat.toDigits 10 n).all Char.isDigit) = false := by
  have hne : (Nat.toDigits 10 n).isEmpty = false := List.isEmpty_eq_false_iff.2 Nat.toDigits_ne_nil
  have hall : (Nat.toDigits 10 n).all Char.isDigit = true :=
    List.all_eq_true.2 fun c hc => isDigit_of_mem_toDigits hc
  rw [hne, hall]
  rfl

/-- **Reading an integer undoes writing it.** -/
theorem readInt64?_toString (i : Int64) :
    readInt64? (trim (toString i.toInt).toList) = some i := by
  have hread := int64?_toInt i
  rw [Int.toString_eq_repr]
  cases hi : i.toInt with
  | ofNat n =>
    rw [hi] at hread
    have hdigits : (Int.ofNat n).repr.toList = Nat.toDigits 10 n := Nat.toList_repr
    rw [hdigits, trim_of_forall fun c hc => isBlank_of_isDigit (isDigit_of_mem_toDigits hc)]
    -- a digit is no sign
    have hsign : sign (Nat.toDigits 10 n) = (false, Nat.toDigits 10 n) := by
      unfold sign
      split
      · rename_i heq
        have := isDigit_of_mem_toDigits (n := n) (heq ▸ List.mem_cons_self)
        cases this
      · rename_i heq
        have := isDigit_of_mem_toDigits (n := n) (heq ▸ List.mem_cons_self)
        cases this
      · rfl
    simp only [readInt64?, hsign, readable_toDigits, ofDigits_toDigits, Bool.false_eq_true,
      if_false]
    exact hread
  | negSucc n =>
    rw [hi] at hread
    have hdigits : (Int.negSucc n).repr.toList = '-' :: Nat.toDigits 10 (n + 1) := by
      simp [Int.repr, Nat.toList_repr]
    have hblank : ∀ c ∈ '-' :: Nat.toDigits 10 (n + 1), isBlank c = false := by
      intro c hc
      rcases List.mem_cons.1 hc with rfl | hc
      · decide
      · exact isBlank_of_isDigit (isDigit_of_mem_toDigits hc)
    rw [hdigits, trim_of_forall hblank]
    simp only [readInt64?, sign, readable_toDigits, ofDigits_toDigits, Bool.false_eq_true, if_false,
      if_true]
    exact hread

end Number

namespace Uuid

/-- A uuid is written with 36 characters. -/
theorem length_text (u : Uuid) : u.text.toList.length = 36 := by
  have hbyte : ∀ bs : List UInt8, (bs.flatMap hexByte).length = bs.length * 2 := by
    intro bs
    induction bs with
    | nil => rfl
    | cons b bs ih =>
      rw [List.flatMap_cons, List.length_append, ih, List.length_cons]
      show 2 + bs.length * 2 = _
      omega
  simp [text, chars, hbyte, u.length_eq]

/-- Nothing as short as a uuid's bytes writes one. -/
theorem read?_of_short {s : String} (h : s.toList.length ≤ 16) : read? s = none := by
  have hunwrap : (unwrap s.toList).length ≤ s.toList.length := by
    unfold unwrap
    split
    · rw [List.length_dropLast, List.length_tail]
      omega
    split
    · rw [List.length_drop]
      omega
    · exact Nat.le_refl _
  simp only [read?]
  rw [if_neg (by omega), readGroups?, if_neg (fun hg => by omega)]

theorem ofBytes?_of_length {bs : List UInt8} (h : bs.length = 16) : ofBytes? bs = some ⟨bs, h⟩ :=
  dif_pos h

end Uuid

namespace Value

/-- The kinds whose values are printed so that they can be read back. -/
def printed : List Kind := [.bool, .int, .text, .uuid]

/-- **Reading a value undoes printing it.** -/
theorem ofText?_display {v : Value} {k : Kind} (hk : k ∈ printed) (hv : v.kind? = some k) :
    ofText? v.display k = some v := by
  cases v with
  | null => cases hv
  | bool b =>
    cases hv
    cases b <;> rfl
  | int i =>
    cases hv
    rw [display, ofText?, readInt64?_toString]
    rfl
  | text s =>
    cases hv
    rfl
  | uuid u =>
    cases hv
    rw [display, ofText?, u.read?_text]
    rfl
  | float x | bytes bs | dateTime d | json j =>
    cases hv
    exact absurd hk (by decide)

/-- No value is printed as the bytes of a uuid where a uuid is expected. -/
theorem length_encode_display {v : Value} (hv : v.kind? = some .uuid) :
    (Utf8.encode v.display).length ≠ 16 := by
  cases v with
  | uuid u =>
    have hlength := u.length_text
    have hle := Utf8.length_le_encode u.text
    show (Utf8.encode u.text).length ≠ 16
    omega
  | _ => cases hv

end Value

end RecordSql
