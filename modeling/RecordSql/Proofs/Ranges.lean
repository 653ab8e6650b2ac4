import Mathlib.Order.Monotone.Basic
import RecordSql.Proofs.Coercion
import RecordSql.Proofs.Setting

/-!
# What a field refuses

A value of a field's type is refused for one thing only: its number is not among those that the
field can hold.

* `Number.Format.units`, `Number.Binary.Finite.code_lt_iff`: codes are in the order of magnitudes.
* `Storage.base`: a type without the options around it.
* `Storage.Overflows`: a number outside the range of a type, and the error that says so.
* `Storage.check_overflows`: **a value of the type is refused exactly if it overflows.**
* `Model.Describes.slot_error_iff`: so is a cell, once it has been coerced.
* `Storage.refused_for_range`: checks, conversions and descriptions of types agree.
-/

namespace RecordSql

/-! ## The order of magnitudes -/

namespace Number

/-- Factors that are the same power of two up to a common shift do not count. -/
theorem mul_two_pow_lt_iff {a b i j k l : ℕ} (h : i + l = j + k) :
    a * 2 ^ i < b * 2 ^ j ↔ a * 2 ^ k < b * 2 ^ l := by
  have hleft : a * 2 ^ i * 2 ^ l = a * 2 ^ k * 2 ^ j := by
    rw [Nat.mul_assoc, Nat.mul_assoc, ← Nat.pow_add, ← Nat.pow_add, h, Nat.add_comm j k]
  have hright : b * 2 ^ j * 2 ^ l = b * 2 ^ l * 2 ^ j := Nat.mul_right_comm _ _ _
  rw [← Nat.mul_lt_mul_right (Nat.two_pow_pos l), hleft, hright,
    Nat.mul_lt_mul_right (Nat.two_pow_pos j)]

namespace Format

variable {F : Format}

/-- The value of a code, in units of the least positive value. -/
def units (F : Format) (c : ℕ) : ℕ := F.significand c * 2 ^ (F.exponent c - F.minExponent).toNat

/-- A code is that of a binade and a significand in it, which is full but in the first one. -/
theorem exists_binade (F : Format) (c : ℕ) : ∃ b m, c = b * 2 ^ F.fractionBits + m ∧
    m < 2 ^ F.fractionBits + 2 ^ F.fractionBits ∧ (2 ^ F.fractionBits ≤ m ∨ b = 0) := by
  have hpos := Nat.two_pow_pos F.fractionBits
  by_cases hsmall : c < 2 ^ F.fractionBits
  · exact ⟨0, c, by omega, by omega, .inr rfl⟩
  · have hmod := Nat.mod_lt c hpos
    obtain ⟨b, hb⟩ := Nat.exists_eq_add_one_of_ne_zero
      (Nat.ne_of_gt (Nat.div_pos (Nat.le_of_not_lt hsmall) hpos))
    refine ⟨b, 2 ^ F.fractionBits + c % 2 ^ F.fractionBits, ?_, by omega, .inl (by omega)⟩
    rw [← Nat.add_assoc, ← Nat.succ_mul, Nat.succ_eq_add_one, ← hb]
    exact (Nat.div_add_mod' c _).symm

/-- The value of such a code. The end of a binade is the beginning of the next one. -/
theorem units_binade {b m : ℕ} (hhigh : m ≤ 2 ^ F.fractionBits + 2 ^ F.fractionBits)
    (hlow : 2 ^ F.fractionBits ≤ m ∨ b = 0) : F.units (b * 2 ^ F.fractionBits + m) = m * 2 ^ b := by
  have hpos := Nat.two_pow_pos F.fractionBits
  have hfull : ∀ b m, 2 ^ F.fractionBits ≤ m → m < 2 ^ F.fractionBits + 2 ^ F.fractionBits →
      F.units (b * 2 ^ F.fractionBits + m) = m * 2 ^ b := by
    intro b m hle hlt
    obtain ⟨hsignificand, hexponent⟩ := significand_exponent (b := b) hle hlt
    rw [units, hsignificand, hexponent, show (F.minExponent + b - F.minExponent).toNat = b by omega]
  rcases Nat.lt_or_eq_of_le hhigh with hlt | rfl
  · by_cases hle : 2 ^ F.fractionBits ≤ m
    · exact hfull b m hle hlt
    · obtain rfl : b = 0 := hlow.resolve_left hle
      have hsmall : m < 2 ^ F.fractionBits := Nat.lt_of_not_le hle
      rw [Nat.zero_mul, Nat.zero_add, units, significand, if_pos hsmall, exponent,
        Nat.div_eq_of_lt hsmall]
      simp
  · rw [← Nat.add_assoc, ← Nat.succ_mul, hfull _ _ (Nat.le_refl _) (by omega), Nat.pow_succ,
      Nat.mul_comm (2 ^ b) 2, ← Nat.mul_assoc, Nat.mul_two]

/-- **Codes are in the order of their values.** -/
theorem units_lt_iff {c d : ℕ} : F.units c < F.units d ↔ c < d := by
  refine (strictMono_nat_of_lt_succ fun c => ?_).lt_iff_lt
  obtain ⟨b, m, rfl, hhigh, hlow⟩ := F.exists_binade c
  rw [Nat.add_assoc, units_binade (by omega) hlow, units_binade (by omega) (by omega)]
  exact Nat.mul_lt_mul_of_pos_right (Nat.lt_succ_self m) (Nat.two_pow_pos b)

end Format

namespace Binary

variable {F : Format}

/-- **The number with the smaller code has the smaller magnitude**, as a quotient. -/
theorem Finite.code_lt_iff {x y : Binary.Finite F} :
    x.code < y.code ↔ x.ratio.1 * y.ratio.2 < y.ratio.1 * x.ratio.2 := by
  have hx := Format.minExponent_le (F := F) x.code
  have hy := Format.minExponent_le (F := F) y.code
  rw [Fin.lt_def, ← Format.units_lt_iff (F := F)]
  simp only [ratio, Format.units, significand, exponent]
  generalize F.exponent x.code = e at *
  generalize F.exponent y.code = f at *
  rw [Nat.mul_assoc, Nat.mul_assoc, ← Nat.pow_add, ← Nat.pow_add]
  exact mul_two_pow_lt_iff (by omega)

end Binary

end Number

/-! ## Values beyond a range -/

open Number

theorem Value.eq_int {v : Value} (h : v.kind? = some .int) : ∃ i, v = .int i := by
  cases v with
  | int i => exact ⟨i, rfl⟩
  | _ => cases h

theorem Value.eq_float {v : Value} (h : v.kind? = some .float) : ∃ x, v = .float x := by
  cases v with
  | float x => exact ⟨x, rfl⟩
  | _ => cases h

namespace Storage

/-- The type without the options around it. -/
def base : Storage → Storage
  | .optional s => s.base
  | s => s

/-- The number is outside the range of the type, and that is the error. -/
inductive Overflows : Storage → Value → ValueError → Prop where
  /-- An integer that a narrower width does not have. -/
  | int {w : IntWidth} {i : Int64} (hw : w ≠ .i64) (h : ¬ w.Has i) :
    Overflows (.int w) (.int i) (outOfRange w i)
  /-- A finite number of a greater magnitude than that of the largest single. -/
  | float32 {x : Binary.Finite .double} (h : (2 ^ 128 - 2 ^ 104) * x.ratio.2 < x.ratio.1) :
    Overflows .float32 (.float (.finite x)) (outOfSingle (.finite x))

/-- The widest integers have no range to be outside of. -/
theorem has_i64 (i : Int64) : IntWidth.i64.Has i :=
  ⟨i.le_toInt, Int.le_sub_one_of_lt i.toInt_lt⟩

theorem beyondSingle_iff {x : Binary.Finite .double} :
    beyondSingle (.finite x) = true ↔ (2 ^ 128 - 2 ^ 104) * x.ratio.2 < x.ratio.1 := by
  let largest : Binary.Finite .double := ⟨false, 0x47EFFFFFE0000000, by decide⟩
  have hratio : largest.ratio = (2 ^ 128 - 2 ^ 104, 1) := by decide +kernel
  have hmax : largest.code < x.code ↔ _ := Binary.Finite.code_lt_iff
  rw [hratio, Nat.mul_one] at hmax
  unfold beyondSingle
  rw [singleMax_eq, ← hmax]
  exact decide_eq_true_iff

variable {s : Storage} {v : Value} {err : ValueError}

theorem Overflows.ne_null (h : s.Overflows v err) : v ≠ .null := by
  cases h with
  | int => exact nofun
  | float32 => exact nofun

/-! ## Checks, conversions and types -/

theorem check_ok_iff : s.check v = .ok () ↔ ∃ x, s.ofValue v = .ok x := by
  rw [check_eq]
  cases s.ofValue v with
  | error err => exact ⟨nofun, nofun⟩
  | ok x => exact ⟨fun _ => ⟨x, rfl⟩, fun _ => rfl⟩

theorem check_error_iff : s.check v = .error err ↔ s.ofValue v = .error err := by
  rw [check_eq]
  cases s.ofValue v with
  | error err' => exact ⟨fun h => by cases h; rfl, fun h => by cases h; rfl⟩
  | ok x => exact ⟨nofun, nofun⟩

/-- The types that hold every value of their kind. -/
def unranged : List Storage := [.bool, .float64, .text, .bytes, .dateTime, .uuid, .json]

theorem check_unranged (h : s ∈ unranged) (v : Value) :
    s.check v = if s.fieldType.Fits v then .ok () else .error (v.mismatch s.expected) := by
  simp only [unranged, List.mem_cons, List.not_mem_nil, or_false] at h
  rcases h with rfl | rfl | rfl | rfl | rfl | rfl | rfl <;> rfl

/-- Values that are let through are of the type. -/
theorem fits_of_check (h : s.check v = .ok ()) : s.fieldType.Fits v := by
  induction s with
  | optional s ih =>
    by_cases hnull : v = .null
    · exact .inr ⟨hnull, rfl⟩
    · rw [check_optional s hnull] at h
      exact .inl ((ih h).resolve_right fun hn => hnull hn.1)
  | int w =>
    cases v with
    | int i => exact .inl rfl
    | _ => cases h
  | float32 =>
    cases v with
    | float x => exact .inl rfl
    | _ => cases h
  | bool | float64 | text | bytes | dateTime | uuid | json =>
    by_contra hfit
    rw [check_unranged (by decide), if_neg hfit] at h
    cases h

theorem fits_kind (h : s.fieldType.Fits v) (hnull : s.nullable = false) : v.kind? = some s.kind :=
  h.resolve_right fun hn => absurd hn.2 (by rw [fieldType, hnull]; exact nofun)

/-- A value that is not null fits the type as it fits the type within an option. -/
theorem fits_optional (hnull : v ≠ .null) (h : s.optional.fieldType.Fits v) :
    s.fieldType.Fits v :=
  .inl (h.resolve_right fun hn => hnull hn.1)

theorem check_int {w : IntWidth} {i : Int64} :
    (int w).check (.int i) = .error err ↔ Overflows (int w) (.int i) err := by
  have hcheck : (int w).check (.int i) = if w.Has i then .ok () else .error (outOfRange w i) := rfl
  rw [hcheck]
  constructor
  · intro h
    split at h
    · cases h
    · rename_i hout
      cases h
      have hw : w ≠ .i64 := by
        rintro rfl
        exact hout (has_i64 i)
      exact .int hw hout
  · rintro (⟨-, hout⟩ | -)
    exact if_neg hout

theorem check_float32 {x : Double} :
    float32.check (.float x) = .error err ↔ Overflows float32 (.float x) err := by
  have hcheck : float32.check (.float x) =
      if beyondSingle x then .error (outOfSingle x) else .ok () := rfl
  rw [hcheck]
  constructor
  · intro h
    split at h
    · rename_i hbeyond
      cases h
      -- only finite numbers are beyond the range
      cases x with
      | finite x => exact .float32 (beyondSingle_iff.1 hbeyond)
      | nan => cases hbeyond
      | inf n => cases hbeyond
    · cases h
  · rintro (- | hout)
    exact if_pos (beyondSingle_iff.2 hout)

/-- **A value of the type is refused exactly if it overflows.** -/
theorem check_overflows (hfit : s.fieldType.Fits v) :
    s.check v = .error err ↔ s.base.Overflows v err := by
  induction s with
  | optional s ih =>
    by_cases hnull : v = .null
    · subst hnull
      exact ⟨nofun, fun h => absurd rfl h.ne_null⟩
    · rw [check_optional s hnull]
      exact ih (fits_optional hnull hfit)
  | int w =>
    obtain ⟨i, rfl⟩ := Value.eq_int (fits_kind hfit rfl)
    exact check_int
  | float32 =>
    obtain ⟨x, rfl⟩ := Value.eq_float (fits_kind hfit rfl)
    exact check_float32
  | bool | float64 | text | bytes | dateTime | uuid | json =>
    rw [check_unranged (by decide), if_pos hfit]
    exact ⟨nofun, nofun⟩

end Storage

/-! ## Cells in their slots -/

/-- A cell is coerced to a value of the slot's type. -/
theorem Value.fits_of_coerce {u w : Value} {t : FieldType} (h : u.coerce t = .ok w) : t.Fits w := by
  rcases coerce_ok.1 h with ⟨-, hnullable, rfl⟩ | has
  · exact .inr ⟨rfl, hnullable⟩
  · exact .inl (kind_as has)

/-- **What a cell was coerced to is refused by its slot exactly if it overflows.** -/
theorem Model.Describes.slot_error_iff {m : Model} {e : Entity} (hm : m.Describes e) {f : Field}
    (hf : f ∈ m.fields) {i : Fin e.fields.length} (hi : f.index = i) {u w : Value}
    (hw : u.coerce (m.slot f).type = .ok w) {err : Error} :
    (m.slot f).accept w = .error err ↔
      ∃ cause, (e.storage i).base.Overflows w cause ∧ err = .decode f.column cause.message := by
  have htype : (m.slot f).type = (e.storage i).fieldType := (hm.at_place hf hi).2
  have hfit : (e.storage i).fieldType.Fits w := htype ▸ Value.fits_of_coerce hw
  show m.checkValue f w = .error err ↔ _
  simp only [hm.filled.checkValue_eq hm.entity hi, ← Storage.check_overflows hfit]
  exact Except.mapError_error

namespace Storage

/-- **Checks, conversions and descriptions of types agree**, for every type of fields and all
values. The check lets through what the conversion takes and refuses the rest with the conversion's
error. What is taken is of the type, and what is of the type is refused only as a number outside of
its range. So the slot of a field, in the model of any registry, refuses what a cell was coerced to
for that alone. -/
theorem refused_for_range (s : Storage) (v : Value) :
    ((s.check v = .ok () ↔ ∃ x, s.ofValue v = .ok x) ∧
        ∀ err, s.check v = .error err ↔ s.ofValue v = .error err) ∧
      (∀ x, s.ofValue v = .ok x → s.fieldType.Fits v) ∧
      (s.fieldType.Fits v → ∀ err, s.ofValue v = .error err ↔ s.base.Overflows v err) ∧
      ∀ (g : Registry) (e : Entity) (m : Model), g.Reachable → (g.model e).answer = .ok m →
        ∀ f ∈ m.fields, ∀ i : Fin e.fields.length, f.index = i → e.storage i = s →
          ∀ u : Value, u.coerce (m.slot f).type = .ok v → ∀ err, (m.slot f).accept v = .error err ↔
            ∃ cause, s.base.Overflows v cause ∧ err = .decode f.column cause.message := by
  refine ⟨⟨check_ok_iff, fun err => check_error_iff⟩, ?_, ?_, ?_⟩
  · intro x hx
    exact fits_of_check (check_ok_iff.2 ⟨x, hx⟩)
  · intro hfit err
    rw [← check_error_iff]
    exact check_overflows hfit
  · rintro g e m hg hm f hf i hi rfl u hu err
    exact (hg.describes hm).slot_error_iff hf hi hu

/-- An age that no person has, in a cell that writes it with blanks. A number of single precision
behind two options, one past the largest single. -/
theorem refused_for_range_age : Registry.Reachable .empty ∧
    (∃ m f, (Registry.empty.model Sample.person).answer = .ok m ∧ f ∈ m.fields ∧ f.index = 2 ∧
      (Value.text " 300 ").coerce (m.slot f).type = .ok (.int 300) ∧
      (m.slot f).accept (.int 300) =
        .error (.decode "age" "expected u8, found out of range integer 300") ∧
      ∃ cause, (int .u8).Overflows (.int 300) cause) ∧
    float32.optional.optional.fieldType.Fits (.float (.ofInt (2 ^ 128))) ∧
    ∃ err, float32.optional.optional.ofValue (.float (.ofInt (2 ^ 128))) = .error err ∧
      float32.Overflows (.float (.ofInt (2 ^ 128))) err := by
  have hg : Registry.Reachable .empty := .empty
  obtain ⟨m, hm, hruns⟩ : ∃ m, (Registry.empty.model Sample.person).answer = .ok m ∧
      (m.fields[2]?.map fun f => (f.index, f.type, m.checkValue f (.int 300))) =
      some (2, ⟨.int, false⟩,
        .error (.decode "age" "expected u8, found out of range integer 300")) :=
    Except.ok_of_map (by decide +kernel)
  obtain ⟨f, hf, hslot⟩ := Option.map_eq_some_iff.1 hruns
  simp only [Prod.mk.injEq] at hslot
  obtain ⟨hindex, htype, haccept⟩ := hslot
  have hmem := List.mem_of_getElem? hf
  have hcoerce : (Value.text " 300 ").coerce (m.slot f).type = .ok (.int 300) := by
    show (Value.text " 300 ").coerce f.type = _
    rw [htype]
    decide +kernel
  obtain ⟨-, -, -, hslots⟩ := refused_for_range (int .u8) (.int 300)
  obtain ⟨cause, hout, -⟩ :=
    (hslots _ _ m hg hm f hmem ⟨2, by decide⟩ hindex rfl _ hcoerce _).1 haccept
  have hfits : float32.optional.optional.fieldType.Fits (.float (.ofInt (2 ^ 128))) := .inl rfl
  have hcheck : float32.optional.optional.check (.float (.ofInt (2 ^ 128))) =
      .error (outOfSingle (.ofInt (2 ^ 128))) := by decide +kernel
  obtain ⟨⟨-, hcheckError⟩, -, hrange, -⟩ :=
    refused_for_range float32.optional.optional (.float (.ofInt (2 ^ 128)))
  have hrefused := (hcheckError _).1 hcheck
  exact ⟨hg, ⟨m, f, hm, hmem, hindex, hcoerce, haccept, cause, hout⟩, hfits, _, hrefused,
    (hrange hfits _).1 hrefused⟩

end Storage

end RecordSql
