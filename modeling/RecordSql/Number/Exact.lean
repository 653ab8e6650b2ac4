import RecordSql.Number.Binary

/-!
# Numbers that a format holds exactly

* `Format.encode_scaled`: a quotient on the grid of its binade is coded exactly.
* `Format.recode_self`: a code is the code of its own value.
* `Format.Within`: a format that holds every number of another.
* `Binary.convert_convert`: a number comes back from a wider format.
-/

namespace RecordSql.Number

theorem log2_mul_two_pow {n : Nat} (h : n ≠ 0) (k : Nat) :
    Nat.log2 (n * 2 ^ k) = Nat.log2 n + k := by
  have h0 : n * 2 ^ k ≠ 0 := by
    have := Nat.two_pow_pos k
    exact Nat.mul_ne_zero h (by omega)
  rw [Nat.log2_eq_iff h0, Nat.pow_add, show Nat.log2 n + k + 1 = (Nat.log2 n + 1) + k by omega,
    Nat.pow_add]
  exact ⟨Nat.mul_le_mul_right _ (Nat.log2_self_le h),
    Nat.mul_lt_mul_of_pos_right Nat.lt_log2_self (Nat.two_pow_pos k)⟩

theorem roundDiv_mul {d : Nat} (h : 0 < d) (n : Nat) : roundDiv (n * d) d = n := by
  simp [roundDiv, Nat.mul_div_cancel _ h, h]

theorem floorLog2_scaled {s : Nat} (h : s ≠ 0) (e : Int) :
    floorLog2 (s * 2 ^ e.toNat) (2 ^ (-e).toNat) = Nat.log2 s + e := by
  have hk : ((Nat.log2 (s * 2 ^ e.toNat) : Int) - Nat.log2 (2 ^ (-e).toNat)) = Nat.log2 s + e := by
    rw [log2_mul_two_pow h, Nat.log2_two_pow]
    omega
  unfold floorLog2
  simp only [hk]
  rw [if_pos]
  calc 2 ^ (-e).toNat * 2 ^ ((Nat.log2 s : Int) + e).toNat
      = 2 ^ Nat.log2 s * 2 ^ (e.toNat + (-((Nat.log2 s : Int) + e)).toNat) := by
        rw [← Nat.pow_add, ← Nat.pow_add]; congr 1; omega
    _ ≤ s * 2 ^ (e.toNat + (-((Nat.log2 s : Int) + e)).toNat) :=
        Nat.mul_le_mul_right _ (Nat.log2_self_le h)
    _ = _ := by rw [Nat.pow_add, Nat.mul_assoc]

namespace Format

variable {F G : Format}

/-- A quotient on the grid of its binade is coded exactly. -/
theorem encode_scaled {s m : Nat} {e q : Int} (h : s ≠ 0)
    (hq : q = max (Nat.log2 s + e - F.fractionBits) F.minExponent)
    (hm : s * 2 ^ (e - q).toNat = m * 2 ^ (q - e).toNat) :
    F.encode (s * 2 ^ e.toNat) (2 ^ (-e).toNat) =
      (q - F.minExponent).toNat * 2 ^ F.fractionBits + m := by
  have h0 : s * 2 ^ e.toNat ≠ 0 := by
    have := Nat.two_pow_pos e.toNat
    exact Nat.mul_ne_zero h (by omega)
  have key : s * 2 ^ e.toNat * 2 ^ (-q).toNat = m * (2 ^ (-e).toNat * 2 ^ q.toNat) := by
    rcases Int.le_total q e with hle | hle
    · rw [show (q - e).toNat = 0 by omega, Nat.pow_zero, Nat.mul_one] at hm
      rw [← hm, Nat.mul_assoc, Nat.mul_assoc, ← Nat.pow_add, ← Nat.pow_add, ← Nat.pow_add]
      congr 2; omega
    · rw [show (e - q).toNat = 0 by omega, Nat.pow_zero, Nat.mul_one] at hm
      rw [hm, Nat.mul_assoc, Nat.mul_assoc, ← Nat.pow_add, ← Nat.pow_add, ← Nat.pow_add]
      congr 2; omega
  unfold encode
  rw [if_neg h0, floorLog2_scaled h]
  simp only [← hq]
  rw [key, roundDiv_mul (Nat.mul_pos (Nat.two_pow_pos _) (Nat.two_pow_pos _))]

theorem log2_significand {c : Nat} (h : 2 ^ F.fractionBits ≤ c) :
    Nat.log2 (F.significand c) = F.fractionBits := by
  have hp := Nat.two_pow_pos F.fractionBits
  have := Nat.mod_lt c hp
  rw [significand, if_neg (by omega), Nat.log2_eq_iff (by omega), Nat.pow_succ]
  omega

theorem significand_ne_zero {c : Nat} (h : c ≠ 0) : F.significand c ≠ 0 := by
  have hp := Nat.two_pow_pos F.fractionBits
  unfold significand
  split <;> omega

/-- The exponent of a code is that of its binade. -/
theorem exponent_eq {c : Nat} (h : c ≠ 0) : F.exponent c =
    max (Nat.log2 (F.significand c) + F.exponent c - F.fractionBits) F.minExponent := by
  by_cases hc : c < 2 ^ F.fractionBits
  · have : Nat.log2 c < F.fractionBits := (Nat.log2_lt h).2 hc
    simp only [significand, exponent, if_pos hc, Nat.div_eq_of_lt hc]
    omega
  · rw [log2_significand (by omega)]
    unfold exponent
    omega

theorem code_eq (c : Nat) :
    (F.exponent c - F.minExponent).toNat * 2 ^ F.fractionBits + F.significand c = c := by
  by_cases hc : c < 2 ^ F.fractionBits
  · simp [significand, exponent, if_pos hc, Nat.div_eq_of_lt hc]
  · have h1 : 1 ≤ c / 2 ^ F.fractionBits := (Nat.one_le_div_iff (Nat.two_pow_pos _)).2 (by omega)
    have h2 := Nat.div_add_mod c (2 ^ F.fractionBits)
    rw [significand, if_neg hc, exponent,
      show (F.minExponent + ((c / 2 ^ F.fractionBits - 1 : Nat) : Int) - F.minExponent).toNat =
        c / 2 ^ F.fractionBits - 1 by omega, ← Nat.add_assoc, ← Nat.succ_mul,
      show (c / 2 ^ F.fractionBits - 1).succ = c / 2 ^ F.fractionBits by omega, Nat.mul_comm]
    exact h2

/-- The code in `G` of the value of a code in `F`. -/
def recode (F G : Format) (c : Nat) : Nat :=
  G.encode (F.significand c * 2 ^ (F.exponent c).toNat) (2 ^ (-F.exponent c).toNat)

theorem recode_zero : recode F G 0 = 0 := by
  rw [recode, significand, if_pos (Nat.two_pow_pos _), Nat.zero_mul, encode, if_pos rfl]

/-- A code is the code of its own value. -/
theorem recode_self (c : Nat) : recode F F c = c := by
  by_cases h : c = 0
  · rw [h, recode_zero]
  · rw [recode, encode_scaled (q := F.exponent c) (significand_ne_zero h) (exponent_eq h) rfl,
      code_eq]

/-- Every finite number of `F` is one of `G`, and not a small one. -/
structure Within (F G : Format) : Prop where
  bits : F.fractionBits ≤ G.fractionBits
  low : G.minExponent + G.fractionBits ≤ F.minExponent
  high : (F.minExponent + (F.infCode / 2 ^ F.fractionBits : Nat) + F.fractionBits + 2 -
    G.fractionBits - G.minExponent).toNat * 2 ^ G.fractionBits ≤ G.infCode

theorem within_single_double : single.Within double :=
  ⟨by decide, by decide, by decide⟩

theorem Within.infCode_pos {F G : Format} (h : F.Within G) : 0 < G.infCode := by
  have hlow := h.low
  refine Nat.lt_of_lt_of_le (Nat.mul_pos ?_ (Nat.two_pow_pos _)) h.high
  generalize F.infCode / 2 ^ F.fractionBits = n
  omega

theorem log2_significand_le (c : Nat) : Nat.log2 (F.significand c) ≤ F.fractionBits := by
  by_cases hc : c < 2 ^ F.fractionBits
  · rw [significand, if_pos hc]
    by_cases h : c = 0
    · subst h; simp
    · exact Nat.le_of_lt ((Nat.log2_lt h).2 hc)
  · exact Nat.le_of_eq (log2_significand (by omega))

theorem minExponent_le (c : Nat) : F.minExponent ≤ F.exponent c := by unfold exponent; omega

/-- The binade and the significand of the code in a wider format. -/
theorem recode_eq (hw : F.Within G) {c : Nat} (h : c ≠ 0) :
    recode F G c =
      (Nat.log2 (F.significand c) + F.exponent c - G.fractionBits - G.minExponent).toNat *
        2 ^ G.fractionBits +
      F.significand c * 2 ^ (G.fractionBits - Nat.log2 (F.significand c)) := by
  have hs := significand_ne_zero (F := F) h
  have hl := log2_significand_le (F := F) c
  have he := minExponent_le (F := F) c
  have := hw.bits
  have := hw.low
  unfold recode
  rw [encode_scaled (F := G) (q := Nat.log2 (F.significand c) + F.exponent c - G.fractionBits) hs
    (by omega)]
  rw [show (Nat.log2 (F.significand c) + F.exponent c - G.fractionBits - F.exponent c).toNat = 0 by
      omega,
    show (F.exponent c - (Nat.log2 (F.significand c) + F.exponent c - G.fractionBits)).toNat =
      G.fractionBits - Nat.log2 (F.significand c) by omega, Nat.pow_zero, Nat.mul_one]

/-- The significand fills the wider format. -/
theorem recode_bounds (hw : F.Within G) {c : Nat} (h : c ≠ 0) :
    2 ^ G.fractionBits ≤ F.significand c * 2 ^ (G.fractionBits - Nat.log2 (F.significand c)) ∧
      F.significand c * 2 ^ (G.fractionBits - Nat.log2 (F.significand c)) <
        2 ^ G.fractionBits + 2 ^ G.fractionBits := by
  have hs := significand_ne_zero (F := F) h
  have hl := log2_significand_le (F := F) c
  have := hw.bits
  generalize F.significand c = s at *
  constructor
  · calc 2 ^ G.fractionBits = 2 ^ Nat.log2 s * 2 ^ (G.fractionBits - Nat.log2 s) := by
          rw [← Nat.pow_add]; congr 1; omega
      _ ≤ _ := Nat.mul_le_mul_right _ (Nat.log2_self_le hs)
  · calc s * 2 ^ (G.fractionBits - Nat.log2 s)
        < 2 ^ (Nat.log2 s + 1) * 2 ^ (G.fractionBits - Nat.log2 s) :=
          Nat.mul_lt_mul_of_pos_right Nat.lt_log2_self (Nat.two_pow_pos _)
      _ = 2 ^ (G.fractionBits + 1) := by rw [← Nat.pow_add]; congr 1; omega
      _ = _ := by rw [Nat.pow_succ, Nat.mul_two]

/-- A code made of a binade and a full significand. -/
theorem significand_exponent {b m : Nat} (hlow : 2 ^ F.fractionBits ≤ m)
    (hhigh : m < 2 ^ F.fractionBits + 2 ^ F.fractionBits) :
    F.significand (b * 2 ^ F.fractionBits + m) = m ∧
      F.exponent (b * 2 ^ F.fractionBits + m) = F.minExponent + b := by
  obtain ⟨t, rfl⟩ : ∃ t, m = 2 ^ F.fractionBits + t := ⟨_, (Nat.add_sub_cancel' hlow).symm⟩
  have ht : t < 2 ^ F.fractionBits := by omega
  have hd : b * 2 ^ F.fractionBits + (2 ^ F.fractionBits + t) =
      t + (b + 1) * 2 ^ F.fractionBits := by
    rw [Nat.succ_mul]; omega
  rw [hd]
  constructor
  · rw [significand, if_neg (by rw [Nat.succ_mul]; omega), Nat.add_mul_mod_self_right,
      Nat.mod_eq_of_lt ht]
  · rw [exponent, Nat.add_mul_div_right _ _ (Nat.two_pow_pos _), Nat.div_eq_of_lt ht]
    omega

theorem exponent_le {c : Nat} (h : c < F.infCode) :
    F.exponent c ≤ F.minExponent + (F.infCode / 2 ^ F.fractionBits : Nat) := by
  have := Nat.div_le_div_right (c := 2 ^ F.fractionBits) (Nat.le_of_lt h)
  unfold exponent
  generalize F.infCode / 2 ^ F.fractionBits = n at *
  generalize c / 2 ^ F.fractionBits = k at *
  omega

theorem recode_lt (hw : F.Within G) {c : Nat} (h : c ≠ 0) (hc : c < F.infCode) :
    recode F G c < G.infCode := by
  have hb := recode_bounds hw h
  have hl := log2_significand_le (F := F) c
  have he := minExponent_le (F := F) c
  have hi := exponent_le hc
  have := hw.bits
  have := hw.low
  rw [recode_eq hw h]
  refine Nat.lt_of_lt_of_le ?_ hw.high
  generalize F.infCode / 2 ^ F.fractionBits = n at *
  generalize hB : (Nat.log2 (F.significand c) + F.exponent c - G.fractionBits -
    G.minExponent).toNat = b
  calc b * 2 ^ G.fractionBits + _ < (b + 2) * 2 ^ G.fractionBits := by
        rw [Nat.succ_mul (b + 1), Nat.succ_mul]; omega
    _ ≤ _ := Nat.mul_le_mul_right _ (by omega)

/-- A code comes back from a wider format. -/
theorem recode_recode (hw : F.Within G) {c : Nat} (h : c ≠ 0) : recode G F (recode F G c) = c := by
  have hs := significand_ne_zero (F := F) h
  have he := exponent_eq (F := F) h
  have hb := recode_bounds hw h
  have hl := log2_significand_le (F := F) c
  have hmin := minExponent_le (F := F) c
  have := hw.bits
  have := hw.low
  have hse := significand_exponent (F := G)
    (b := (Nat.log2 (F.significand c) + F.exponent c - G.fractionBits - G.minExponent).toNat)
    hb.1 hb.2
  have hm0 : F.significand c * 2 ^ (G.fractionBits - Nat.log2 (F.significand c)) ≠ 0 := by
    have := Nat.two_pow_pos G.fractionBits; omega
  have hlog : Nat.log2 (F.significand c * 2 ^ (G.fractionBits - Nat.log2 (F.significand c))) =
      G.fractionBits := by
    rw [log2_mul_two_pow hs]; omega
  rw [recode, recode_eq hw h, hse.1, hse.2,
    encode_scaled (m := F.significand c) (q := F.exponent c) hm0 (by rw [hlog]; omega), code_eq]
  rw [show ∀ a : Int, (F.exponent c - (G.minExponent + a)).toNat =
      (F.exponent c - G.minExponent - a).toNat from fun a => by omega]
  rw [show (F.exponent c - G.minExponent - ((Nat.log2 (F.significand c) + F.exponent c -
      G.fractionBits - G.minExponent).toNat : Int)).toNat =
      G.fractionBits - Nat.log2 (F.significand c) by omega,
    show (G.minExponent + ((Nat.log2 (F.significand c) + F.exponent c - G.fractionBits -
      G.minExponent).toNat : Int) - F.exponent c).toNat = 0 by omega, Nat.pow_zero, Nat.mul_one]

end Format

namespace Binary

variable {F G : Format}

theorem convert_finite (x : Binary.Finite F) (h : Format.recode F G x.code < G.infCode) :
    (convert (.finite x) : Binary G) = .finite ⟨x.neg, Format.recode F G x.code, h⟩ := by
  unfold convert ofRatio
  exact dif_pos h

theorem convert_self (x : Binary F) : (x.convert : Binary F) = x := by
  cases x with
  | nan => rfl
  | inf n => rfl
  | finite x =>
    rw [convert_finite x (by simp [Format.recode_self])]
    simp [Format.recode_self]

/-- A number comes back from a wider format. -/
theorem convert_convert (hw : F.Within G) (x : Binary F) :
    ((x.convert : Binary G).convert : Binary F) = x := by
  cases x with
  | nan => rfl
  | inf n => rfl
  | finite x =>
    obtain ⟨n, c, hc⟩ := x
    have hpos := hw.infCode_pos
    have hd : Format.recode F G c < G.infCode := by
      by_cases h : c = 0
      · subst h; rw [Format.recode_zero]; exact hpos
      · exact Format.recode_lt hw h hc
    have hback : Format.recode G F (Format.recode F G c) = c := by
      by_cases h : c = 0
      · subst h; rw [Format.recode_zero, Format.recode_zero]
      · exact Format.recode_recode hw h
    rw [convert_finite _ hd, convert_finite _ (by simpa [hback] using hc)]
    simp [hback]

end Binary

end RecordSql.Number
