import RecordSql.Number.Exact
import RecordSql.Storage

/-!
# Stored values read back

* `Storage.beyondSingle_convert`: no single is out of range of the singles.
* `Storage.ofValue_toValue`: a field takes the value of what it holds.
-/

namespace RecordSql.Storage

open Number

theorem singleMax_eq : singleMax = .finite ⟨false, 0x47EFFFFFE0000000, by decide⟩ := by
  decide +kernel

/-- The code of a single among the doubles is at most that of the largest one. -/
theorem recode_le_singleMax {c : Nat} (hc : c < Format.single.infCode) :
    Format.recode .single .double c ≤ 0x47EFFFFFE0000000 := by
  by_cases h : c = 0
  · rw [h, Format.recode_zero]
    omega
  have hw := Format.within_single_double
  have hb := Format.recode_bounds hw h
  have hl := Format.log2_significand_le (F := .single) c
  have hi : Format.single.exponent c ≤ 104 := by
    have hc' : c < 255 * 2 ^ 23 := hc
    show (-149 : Int) + ((c / 2 ^ 23 - 1 : Nat) : Int) ≤ 104
    omega
  have hm : Format.single.significand c < 2 ^ (Nat.log2 (Format.single.significand c) + 1) :=
    Nat.lt_log2_self
  rw [Format.recode_eq hw h]
  generalize Format.single.significand c = s at *
  generalize Format.single.exponent c = e at *
  generalize Nat.log2 s = l at *
  have hfd : Format.double.fractionBits = 52 := rfl
  have hmd : Format.double.minExponent = -1074 := rfl
  replace hl : l ≤ 23 := hl
  rw [hfd] at hb
  rw [hfd, hmd]
  by_cases hle : l + e ≤ 126
  · generalize hB : ((l : Int) + e - (52 : Nat) - -1074).toNat = b
    have : b ≤ 1148 := by omega
    omega
  · have h23 : l = 23 := by omega
    subst h23
    generalize hB : (((23 : Nat) : Int) + e - (52 : Nat) - -1074).toNat = b
    have : b ≤ 1149 := by omega
    have hs : s < 16777216 := hm
    rw [show 2 ^ (52 - 23) = 536870912 by decide, show (2 : Nat) ^ 52 = 4503599627370496 by decide]
    omega

/-- No single is out of range of the singles. -/
theorem beyondSingle_convert (x : Single) : beyondSingle x.convert = false := by
  cases x with
  | nan => rfl
  | inf n => rfl
  | finite x =>
    have hw := Format.within_single_double
    have hle := recode_le_singleMax x.code.isLt
    have hlt : Format.recode .single .double x.code < Format.double.infCode :=
      Nat.lt_of_le_of_lt hle (by decide)
    rw [Binary.convert_finite x hlt]
    unfold beyondSingle
    rw [singleMax_eq]
    simpa [Fin.lt_def] using hle

/-- **A field takes the value of what it holds**, and has the same value afterwards. Nested options
that hold an inner absence come back as absent. -/
theorem ofValue_toValue (s : Storage) (x : s.Carrier) :
    ∃ y, s.ofValue (s.toValue x) = .ok y ∧ s.toValue y = s.toValue x := by
  induction s with
  | int w => exact ⟨x, by rw [toValue, ofValue, dif_pos x.2]; rfl, rfl⟩
  | float32 =>
    refine ⟨x, ?_, rfl⟩
    have h : beyondSingle (Binary.convert (x : Single)) = false := beyondSingle_convert x
    have hc := Binary.convert_convert Format.within_single_double (x : Single)
    rw [toValue, ofValue, h]
    simp only [Bool.false_eq_true, if_false]
    exact congrArg Except.ok hc
  | bool | float64 | text | bytes | dateTime | uuid | json => exact ⟨x, rfl, rfl⟩
  | optional s ih =>
    match (x : Option s.Carrier) with
    | none => exact ⟨(none : Option s.Carrier), rfl, rfl⟩
    | some x =>
      obtain ⟨y, hy, hv⟩ := ih x
      by_cases hn : s.toValue x = .null
      · exact ⟨(none : Option s.Carrier), by simp [toValue, hn, ofValue], by simp [toValue, hn]⟩
      · refine ⟨(some y : Option s.Carrier), ?_, hv⟩
        simp only [toValue]
        rw [ofValue]
        · rw [hy]; rfl
        · exact hn

end RecordSql.Storage
