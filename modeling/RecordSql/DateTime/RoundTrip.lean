import RecordSql.DateTime.Text

/-!
# Written dates and times read back

* `ofDigits_fixed`: a number of fixed width keeps its last digits.
* `DateTime.readNumber_fixed`, `DateTime.readNumber_none_fixed`: reading takes one written number
  off the front of a text.
* `DateTime.readYear_yearChars`, `DateTime.readFraction_fractionChars`: the same for the two parts
  of varying width.
* `DateTime.readIso_text`: every date and time reads back from its written form.
-/

namespace RecordSql

open Number Text

/-! ## Digits -/

theorem isDigit_digitChar {n : Nat} (h : n < 10) : (Nat.digitChar n).isDigit = true := by
  have : ∀ m : Fin 10, (Nat.digitChar m).isDigit = true := by decide
  exact this ⟨n, h⟩

theorem digitValue_digitChar {n : Nat} (h : n < 10) : digitValue (Nat.digitChar n) = n := by
  have : ∀ m : Fin 10, digitValue (Nat.digitChar m) = m := by decide
  exact this ⟨n, h⟩

theorem isDigit_of_mem_fixed {w n : Nat} {c : Char} (h : c ∈ fixed w n) : c.isDigit = true := by
  induction w generalizing n with
  | zero => simp [fixed] at h
  | succ w ih =>
    rw [fixed, List.mem_append, List.mem_singleton] at h
    rcases h with h | rfl
    · exact ih h
    · exact isDigit_digitChar (by omega)

theorem length_fixed (w n : Nat) : (fixed w n).length = w := by
  induction w generalizing n with
  | zero => rfl
  | succ w ih => simp [fixed, ih]

theorem fixed_ne_nil {w : Nat} (h : 0 < w) (n : Nat) : fixed w n ≠ [] := by
  intro hf
  have := length_fixed w n
  rw [hf, List.length_nil] at this
  omega

/-- A number of fixed width keeps its last digits. -/
theorem ofDigits_fixed (w n : Nat) : ofDigits (fixed w n) = n % 10 ^ w := by
  induction w generalizing n with
  | zero => simp [fixed, ofDigits, Nat.mod_one]
  | succ w ih =>
    have := ih (n / 10)
    unfold ofDigits at this ⊢
    rw [fixed, List.foldl_append, this, List.foldl_cons, List.foldl_nil,
      digitValue_digitChar (by omega), Nat.pow_succ, Nat.mul_comm (10 ^ w) 10, Nat.mod_mul]
    omega

theorem ofDigits_fixed_of_lt {w n : Nat} (h : n < 10 ^ w) : ofDigits (fixed w n) = n := by
  rw [ofDigits_fixed, Nat.mod_eq_of_lt h]

theorem digits_append {s : List Char} (h : ∀ c ∈ s, c.isDigit = true) (r : List Char) :
    digits (s ++ r) = (s ++ (digits r).1, (digits r).2) := by
  unfold digits
  induction s with
  | nil => rfl
  | cons d s ih =>
    have hd := h d (by simp)
    have := ih fun c hc => h c (by simp [hc])
    simpa [hd] using this

/-! ## Blanks -/

/-- No digit is blank. -/
theorem isBlank_of_isDigit {c : Char} (h : c.isDigit = true) : isBlank c = false := by
  have hn : 48 ≤ c.toNat ∧ c.toNat ≤ 57 := by
    simpa [Char.isDigit, UInt32.le_iff_toNat_le] using h
  have : ∀ m : Fin 10, blanks.any (·.has (48 + m)) = false := by decide
  have := this ⟨c.toNat - 48, by omega⟩
  simp only [show 48 + (c.toNat - 48) = c.toNat by omega] at this
  exact this

theorem trimStart_nil : trimStart [] = [] := rfl

theorem trimStart_cons {c : Char} (h : isBlank c = false) (r : List Char) :
    trimStart (c :: r) = c :: r := by
  rw [trimStart, List.dropWhile_cons_of_neg (by simp [h])]

/-- Nothing is trimmed from a text that starts with a digit. -/
theorem trimStart_fixed_append {w : Nat} (h : 0 < w) (n : Nat) (r : List Char) :
    trimStart (fixed w n ++ r) = fixed w n ++ r := by
  cases hf : fixed w n with
  | nil => exact absurd hf (fixed_ne_nil h n)
  | cons c cs =>
    have : c.isDigit = true := isDigit_of_mem_fixed (w := w) (n := n) (by simp [hf])
    rw [List.cons_append, trimStart_cons (isBlank_of_isDigit this)]

/-! ## Calendar -/

theorem monthDays_le (y : Int) (m : Nat) : monthDays y m ≤ 31 := by
  unfold monthDays
  split
  · split <;> omega
  · split
    · omega
    · split <;> omega

theorem Date.month_range (d : Date) : 1 ≤ d.month ∧ d.month ≤ 12 := by
  have h := d.day_range
  unfold monthDays at h
  split at h
  · omega
  · split at h
    · omega
    · split at h <;> omega

theorem Date.of?_self (d : Date) : Date.of? d.year d.month d.day = some d := by
  rw [Date.of?, dif_pos ⟨d.year_range, d.day_range⟩]

theorem Time.of?_self (t : Time) : Time.of? t.hour t.minute t.second t.nano = some t := by
  rw [Time.of?, dif_pos ⟨t.clock_range, t.nano_range⟩]

namespace DateTime

/-! ## Parts of a date and time -/

theorem readNumber_fixed {w n : Nat} (hw : 0 < w) (h : n < 10 ^ w) (r : List Char) :
    readNumber (some w) (fixed w n ++ r) = .ok (n, r) := by
  have hd := digits_append (fun c hc => isDigit_of_mem_fixed (w := w) (n := n) hc) r
  have hl := length_fixed w n
  have hne := fixed_ne_nil hw n
  unfold readNumber
  simp only [hd]
  rw [List.take_append_of_le_length (by omega), List.take_of_length_le (by omega),
    ofDigits_fixed_of_lt h, if_neg (by simp [hne]), if_neg (by simp [hne]), hl,
    List.drop_append_of_le_length (by omega), List.drop_of_length_le (by omega)]
  rfl

/-- Without a width, the digits end where the text says. -/
theorem readNumber_none_fixed {w n : Nat} (hw : 0 < w) (h : n < 10 ^ w) (r : List Char)
    (hr : ∀ c, r.head? = some c → c.isDigit = false) :
    readNumber none (fixed w n ++ r) = .ok (n, r) := by
  have hd := digits_append (fun c hc => isDigit_of_mem_fixed (w := w) (n := n) hc) r
  have h0 : (digits r).1 = [] := by
    cases r with
    | nil => rfl
    | cons c r => simp [digits, hr c rfl]
  have hne := fixed_ne_nil hw n
  unfold readNumber
  simp only [hd, h0, List.append_nil]
  rw [ofDigits_fixed_of_lt h, if_neg (by simp [hne]), if_neg (by simp [hne])]
  simp

theorem readField_fixed {low high n : Nat} (h : low ≤ n ∧ n ≤ high) (hh : high < 100)
    (r : List Char) : readField low high (fixed 2 n ++ r) = .ok (n, r) := by
  unfold readField
  rw [trimStart_fixed_append (by decide), readNumber_fixed (by decide) (by omega)]
  simp only [h, and_self, if_true]

theorem readSigned_yearChars {y : Int} (h : -262143 ≤ y ∧ y ≤ 262142) (r : List Char)
    (hr : ∀ c, r.head? = some c → c.isDigit = false) :
    readSigned (yearChars y ++ r) = .ok (y, r) := by
  unfold yearChars
  by_cases hy : 0 ≤ y ∧ y ≤ 9999
  · have hn : y.natAbs < 10000 := by omega
    simp only [hy, hn, and_self, if_true]
    unfold readSigned
    rw [trimStart_fixed_append (by decide)]
    have hd : ∀ c cs, fixed 4 y.natAbs ++ r = c :: cs → c ≠ '-' ∧ c ≠ '+' := by
      intro c cs hcs
      cases hf : fixed 4 y.natAbs with
      | nil => exact absurd hf (fixed_ne_nil (by decide) _)
      | cons d ds =>
        rw [hf, List.cons_append, List.cons.injEq] at hcs
        have : c.isDigit = true :=
          isDigit_of_mem_fixed (w := 4) (n := y.natAbs) (by simp [hf, hcs.1])
        constructor <;> rintro rfl <;> exact absurd this (by decide)
    split
    · next heq => exact absurd rfl (hd _ _ heq).1
    · next heq => exact absurd rfl (hd _ _ heq).2
    · rw [readNumber_fixed (by decide) (by omega)]
      simp only [Except.map]
      congr 2
      omega
  · simp only [hy, if_false]
    have hw : ∃ w, (if y.natAbs < 10000 then 4 else if y.natAbs < 100000 then 5 else 6) = w ∧
        0 < w ∧ y.natAbs < 10 ^ w := by
      refine ⟨_, rfl, ?_⟩
      split
      · omega
      · split <;> omega
    obtain ⟨w, hw, h0, hlt⟩ := hw
    rw [hw]
    by_cases hneg : y < 0
    · simp only [hneg, if_true, List.cons_append]
      unfold readSigned
      rw [trimStart_cons (by decide)]
      simp only [readNumber_none_fixed h0 hlt r hr, Except.map]
      congr 2
      omega
    · simp only [hneg, if_false, List.cons_append]
      unfold readSigned
      rw [trimStart_cons (by decide)]
      simp only [readNumber_none_fixed h0 hlt r hr, Except.map]
      congr 2
      omega

/-- A year is read back in front of a text that does not go on with a digit. -/
theorem readYear_yearChars {y : Int} (h : -262143 ≤ y ∧ y ≤ 262142) (r : List Char)
    (hr : ∀ c, r.head? = some c → c.isDigit = false) :
    readYear (yearChars y ++ r) = .ok (y, r) := by
  unfold readYear
  rw [readSigned_yearChars h r hr]
  simp only
  rw [if_pos (by omega)]

theorem readFraction_fixed {w n : Nat} (h0 : 0 < w) (h9 : w ≤ 9) (hn : n < 10 ^ w) :
    readFraction ('.' :: fixed w n) = .ok (n * 10 ^ (9 - w), []) := by
  have hd := digits_append (fun c hc => isDigit_of_mem_fixed (w := w) (n := n) hc) []
  have hl := length_fixed w n
  have hne := fixed_ne_nil h0 n
  simp only [List.append_nil, show digits [] = ([], []) from rfl] at hd
  unfold readFraction readNumber
  simp only [hd]
  rw [List.take_of_length_le (by omega), ofDigits_fixed_of_lt hn, if_neg (by simp [hne]),
    if_neg (by simp [hne]), hl]

theorem readFraction_fractionChars {nano : Nat} (h : nano < 1000000000) :
    readFraction (fractionChars nano) = .ok (nano, []) := by
  unfold fractionChars
  by_cases h0 : nano = 0
  · simp [h0, readFraction]
  by_cases h6 : nano % 1000000 = 0
  · simp only [h0, h6, if_true, if_false]
    rw [readFraction_fixed (by decide) (by decide) (by omega)]
    congr 2; omega
  by_cases h3 : nano % 1000 = 0
  · simp only [h0, h6, h3, if_true, if_false]
    rw [readFraction_fixed (by decide) (by decide) (by omega)]
    congr 2; omega
  · simp only [h0, h6, h3, if_false]
    rw [readFraction_fixed (by decide) (by decide) (by omega)]
    congr 2; omega

/-! ## The whole -/

/-- **Reading undoes writing.** -/
theorem readIso_text (t : DateTime) : readIso (t.text 'T') = .ok t := by
  obtain ⟨d, c⟩ := t
  have hm := d.month_range
  have hd := d.day_range
  have hmd := monthDays_le d.year d.month
  have hc := c.clock_range
  have hn := c.nano_range
  have hdash : isBlank '-' = false := by decide
  have hT : isBlank 'T' = false := by decide
  have hcolon : isBlank ':' = false := by decide
  have hnd : ∀ x : List Char, ∀ c, ('-' :: x).head? = some c → c.isDigit = false := by
    intro x c h; simp at h; subst h; decide
  have hmonth : ∀ r, readField 1 12 (fixed 2 d.month ++ r) = .ok (d.month, r) :=
    readField_fixed hm (by decide)
  have hday : ∀ r, readField 1 31 (fixed 2 d.day ++ r) = .ok (d.day, r) :=
    readField_fixed ⟨hd.1, by omega⟩ (by decide)
  have hhour : ∀ r, readField 0 23 (fixed 2 c.hour ++ r) = .ok (c.hour, r) :=
    readField_fixed (by omega) (by decide)
  have hminute : ∀ r, readField 0 59 (fixed 2 c.minute ++ r) = .ok (c.minute, r) :=
    readField_fixed (by omega) (by decide)
  have hsecond : ∀ s r, s ≤ 60 → readField 0 60 (fixed 2 s ++ r) = .ok (s, r) := fun s r hs =>
    readField_fixed (by omega) (by decide) r
  have hdate := d.of?_self
  have htime := c.of?_self
  simp only [readIso, text, String.toList_ofList, chars, read, isoPattern, Pattern.read]
  simp only [Part.read, readYear_yearChars d.year_range _ (hnd _), Except.map, trimStart_cons hdash,
    trimStart_cons hT, trimStart_cons hcolon, if_true, hmonth, hday, hhour, hminute]
  unfold secondChars
  by_cases hl : 1000000000 ≤ c.nano
  · have hs : c.second = 59 := hn.2 hl
    obtain ⟨k, hk⟩ : ∃ k, k = c.nano - 1000000000 := ⟨_, rfl⟩
    have hkn : k + 1000000000 = c.nano := by omega
    have hfraction : readFraction (fractionChars k) = .ok (k, []) :=
      readFraction_fractionChars (by omega)
    rw [hs, ← hkn] at htime
    simp only [hl, if_true, hs, ← hk, hsecond 60 _ (by decide), hfraction, trimStart_nil,
      List.isEmpty_nil, Numbers.toDateTime?, hdate, htime]
  · have h60 : c.second ≠ 60 := by omega
    have hfraction : readFraction (fractionChars c.nano) = .ok (c.nano, []) :=
      readFraction_fractionChars (by omega)
    simp only [hl, if_false, hsecond c.second _ (by omega), hfraction, trimStart_nil,
      List.isEmpty_nil, if_true, Numbers.toDateTime?, hdate, htime, h60]

end DateTime

end RecordSql
