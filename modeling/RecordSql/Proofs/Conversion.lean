import RecordSql.Storage.RoundTrip

/-!
# Checks and conversions agree

A field's check lets through what its conversion takes, and the value of what a field holds is of
the field's type.

* `Value.coerce_of_fits`: a value of a type is not converted to that type.
* `Storage.check_eq`: **the check is the conversion without its result.**
* `Storage.coerce_toValue`, `Storage.check_toValue`: the value of what a field holds is kept by
  coercion and passes the check.
-/

namespace RecordSql

/-- A value of a type is not converted to that type. -/
theorem Value.coerce_of_fits {t : FieldType} {v : Value} (h : t.Fits v) : v.coerce t = .ok v := by
  unfold coerce
  rcases h with hkind | ⟨rfl, hnull⟩
  · have hv : v ≠ .null := by
      rintro rfl
      cases hkind
    rw [if_neg hv, if_pos hkind]
  · rw [if_pos rfl, if_pos hnull]

namespace Storage

theorem ofValue_optional (s : Storage) {v : Value} (h : v ≠ .null) :
    s.optional.ofValue v = (s.ofValue v).map fun x => (some x : Option s.Carrier) := by
  cases v with
  | null => exact absurd rfl h
  | _ => rfl

theorem check_optional (s : Storage) {v : Value} (h : v ≠ .null) :
    s.optional.check v = s.check v := by
  cases v with
  | null => exact absurd rfl h
  | _ => rfl

/-- **The check is the conversion without its result**: both take the same values, and refuse the
others with the same error. -/
theorem check_eq (s : Storage) (v : Value) : s.check v = (s.ofValue v).map fun _ => () := by
  induction s with
  | optional s ih =>
    by_cases hnull : v = .null
    · subst hnull
      rfl
    · rw [check_optional s hnull, ofValue_optional s hnull, ih]
      cases s.ofValue v <;> rfl
  | int w =>
    cases v with
    | int i =>
      simp only [check, ofValue]
      split <;> rfl
    | _ => rfl
  | float32 =>
    cases v with
    | float x =>
      simp only [check, ofValue]
      split <;> rfl
    | _ => rfl
  | bool | float64 | text | bytes | dateTime | uuid | json => cases v <;> rfl

/-- **A field takes every value that the check lets through.** -/
theorem ofValue_of_check {s : Storage} {v : Value} (h : s.check v = .ok ()) :
    ∃ x, s.ofValue v = .ok x := by
  rw [check_eq] at h
  cases hx : s.ofValue v with
  | error err =>
    rw [hx] at h
    cases h
  | ok x => exact ⟨x, rfl⟩

/-- The value of what a field holds is of the field's type. -/
theorem fits_toValue (s : Storage) (x : s.Carrier) : s.fieldType.Fits (s.toValue x) := by
  induction s with
  | optional s ih =>
    match (x : Option s.Carrier) with
    | none => exact .inr ⟨rfl, rfl⟩
    | some x =>
      rcases ih x with hkind | ⟨hnull, -⟩
      · exact .inl hkind
      · exact .inr ⟨hnull, rfl⟩
  | _ => exact .inl rfl

theorem coerce_toValue (s : Storage) (x : s.Carrier) :
    (s.toValue x).coerce s.fieldType = .ok (s.toValue x) :=
  Value.coerce_of_fits (s.fits_toValue x)

theorem check_toValue (s : Storage) (x : s.Carrier) : s.check (s.toValue x) = .ok () := by
  obtain ⟨y, hy, -⟩ := s.ofValue_toValue x
  rw [check_eq, hy]
  rfl

end Storage

end RecordSql
