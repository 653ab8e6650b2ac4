import RecordSql.Proofs.Conversion
import RecordSql.Value.RoundTrip

/-!
# Coercion

What a value becomes where a value of a field type is expected.

* `Value.as?`: the value of a kind that a value stands for.
* `Value.coerce_ok`: coercion gives what a value stands for, and null for null.
* `Value.coerce_sound`: **coercion is sound and idempotent**, and whether null is allowed matters to
  null only.
* `Value.coerce_encode`: bytes that write a text are coerced as the text is.
* `Value.coerce_protocols`: **text and bytes are decoded alike**, and decoding undoes printing.
-/

namespace RecordSql

open Number Text

namespace Value

variable {v w : Value} {k : Kind} {t : FieldType}

/-! ## What a value stands for -/

/-- The text that bytes write. -/
def written? : Value → Option String
  | .bytes bs => (Utf8.decode bs).toOption
  | _ => none

/-- The value of kind `k` that `v` stands for: itself, what it converts to, or else what the text
converts to that it writes. -/
def as? (v : Value) (k : Kind) : Option Value :=
  if v.kind? = some k then some v
  else (convert? k v).or (v.written?.bind fun s => ofText? s k)

theorem kind_ofText {s : String} (h : ofText? s k = some w) : w.kind? = some k := by
  cases k <;> simp only [ofText?, Option.map_eq_some_iff, Option.some.injEq] at h
  case text | bytes =>
    rw [← h]
    rfl
  all_goals
    obtain ⟨x, -, rfl⟩ := h
    rfl

theorem kind_convert (h : convert? k v = some w) : w.kind? = some k := by
  cases v with
  | text s => exact kind_ofText h
  | bool b =>
    simp only [convert?] at h
    split at h
    · rename_i hk
      rw [hk, ← Option.some.inj h]
      rfl
    · cases h
  | int i => cases k <;> cases h <;> rfl
  | bytes bs =>
    cases k with
    | text =>
      obtain ⟨s, -, rfl⟩ := Option.map_eq_some_iff.1 h
      rfl
    | uuid =>
      obtain ⟨u, -, rfl⟩ := Option.map_eq_some_iff.1 h
      rfl
    | _ => cases h
  | _ => cases h

/-- What a value stands for is of the kind asked for. -/
theorem kind_as (h : v.as? k = some w) : w.kind? = some k := by
  unfold as? at h
  split at h
  · rename_i hkind
    rw [← Option.some.inj h]
    exact hkind
  · rcases Option.or_eq_some_iff.1 h with hconvert | ⟨-, hwritten⟩
    · exact kind_convert hconvert
    · obtain ⟨s, -, hs⟩ := Option.bind_eq_some_iff.1 hwritten
      exact kind_ofText hs

/-- A text is coerced to what it converts to. -/
theorem coerce_text (s : String) (t : FieldType) :
    (text s).coerce t = match ofText? s t.kind with
      | some w => .ok w
      | none => .error ((text s).mismatch t.name) := by
  unfold coerce
  rw [if_neg nofun]
  split
  · rename_i hk
    rw [← Option.some.inj hk]
    rfl
  · show (match ofText? s t.kind with | some w => _ | none => _) = _
    cases ofText? s t.kind <;> rfl

/-- **Bytes that do not convert are coerced as the text is that they write.** -/
theorem coerce_bytes_of_decode {bs : List UInt8} {s : String} (hs : Utf8.decode bs = .ok s)
    (hk : t.kind ≠ .bytes) (hc : convert? t.kind (.bytes bs) = none) :
    (Value.bytes bs).coerce t = (text s).coerce t := by
  have hkind : ¬ (Value.bytes bs).kind? = some t.kind := fun h => hk (Option.some.inj h).symm
  -- bytes that write a text convert to it
  have htext : t.kind ≠ .text := by
    intro ht
    rw [ht, convert?, hs] at hc
    cases hc
  rw [coerce_text]
  unfold coerce
  rw [if_neg nofun, if_neg hkind, hc]
  cases hw : ofText? s t.kind <;> simp only [htext, if_false, hs, hw]

/-- Bytes that neither convert nor write a text are refused. -/
theorem coerce_bytes_of_fault {bs : List UInt8} {f : Utf8.Fault} (hf : Utf8.decode bs = .error f)
    (hk : t.kind ≠ .bytes) (hc : convert? t.kind (.bytes bs) = none) :
    ∃ err, (Value.bytes bs).coerce t = .error err := by
  have hkind : ¬ (Value.bytes bs).kind? = some t.kind := fun h => hk (Option.some.inj h).symm
  unfold coerce
  rw [if_neg nofun, if_neg hkind, hc]
  simp only [hf]
  split
  · exact ⟨_, rfl⟩
  · exact ⟨_, rfl⟩

/-- **Coercion gives what a value stands for**, and null for null where that is allowed. -/
theorem coerce_ok :
    v.coerce t = .ok w ↔ (v = .null ∧ t.nullable = true ∧ w = .null) ∨ v.as? t.kind = some w := by
  by_cases hnull : v = .null
  · have hnone : Value.null.as? t.kind = none := rfl
    rw [hnull, hnone]
    by_cases ht : t.nullable = true
    · simp [coerce, ht, eq_comm]
    · simp [coerce, ht]
  have hleft : ¬ (v = .null ∧ t.nullable = true ∧ w = .null) := fun h => hnull h.1
  rw [or_iff_right hleft]
  by_cases hkind : v.kind? = some t.kind
  · rw [coerce_of_fits (.inl hkind), as?, if_pos hkind]
    simp
  cases hc : convert? t.kind v with
  | some x => simp [coerce, as?, hnull, hkind, hc]
  | none =>
    rw [as?, if_neg hkind, hc, Option.none_or]
    cases v with
    | null => exact absurd rfl hnull
    | bytes bs =>
      have hk : t.kind ≠ .bytes := fun hk => hkind (hk ▸ rfl)
      cases hs : Utf8.decode bs with
      | error f =>
        obtain ⟨err, herr⟩ := coerce_bytes_of_fault hs hk hc
        simp [herr, written?, hs, Except.toOption]
      | ok s =>
        rw [coerce_bytes_of_decode hs hk hc, coerce_text]
        simp only [written?, hs, Except.toOption, Option.bind_some]
        cases ofText? s t.kind <;> simp
    | _ => simp [coerce, hnull, hkind, hc, written?]

/-! ## Coercion is sound and idempotent -/

/-- **Coercion is sound and idempotent.** A value of the type is kept. What coercion gives is of the
type, so coercing it once more changes nothing. Null is taken where it is allowed and comes from
nothing else, and for all else it does not matter whether it is allowed. -/
theorem coerce_sound (v : Value) (t : FieldType) :
    (t.Fits v → v.coerce t = .ok v) ∧
      (∀ w, v.coerce t = .ok w → t.Fits w ∧ w.coerce t = .ok w) ∧
      ((∃ w, Value.null.coerce t = .ok w) ↔ t.nullable = true) ∧
      (v ≠ .null → ∀ w, (v.coerce t = .ok w → w ≠ .null) ∧
        ∀ n, v.coerce ⟨t.kind, n⟩ = .ok w ↔ v.coerce t = .ok w) := by
  have hfits : ∀ w, v.coerce t = .ok w → t.Fits w := by
    intro w hw
    rcases coerce_ok.1 hw with ⟨-, hn, rfl⟩ | has
    · exact .inr ⟨rfl, hn⟩
    · exact .inl (kind_as has)
  refine ⟨coerce_of_fits, ?_, ?_, ?_⟩
  · exact fun w hw => ⟨hfits w hw, coerce_of_fits (hfits w hw)⟩
  · constructor
    · rintro ⟨w, hw⟩
      rcases coerce_ok.1 hw with ⟨-, hn, -⟩ | has
      · exact hn
      · cases has
    · exact fun hn => ⟨.null, coerce_of_fits (.inr ⟨rfl, hn⟩)⟩
  · intro hv w
    -- without null, only the kind that is asked for counts
    have hok : ∀ u : FieldType, v.coerce u = .ok w ↔ v.as? u.kind = some w := fun u =>
      coerce_ok.trans (or_iff_right fun h => hv h.1)
    refine ⟨?_, fun n => (hok _).trans (hok t).symm⟩
    rintro hw rfl
    cases kind_as ((hok t).1 hw)

/-- The digits of two characters, which bytes write, as an integer that may be absent. -/
theorem coerce_sound_digits : ∃ w, (Value.bytes [0x34, 0x32]).coerce ⟨.int, true⟩ = .ok w ∧
    w = .int 42 ∧ FieldType.Fits ⟨.int, true⟩ w ∧ w.coerce ⟨.int, true⟩ = .ok w ∧ w ≠ .null ∧
    (Value.bytes [0x34, 0x32]).coerce ⟨.int, false⟩ = .ok w := by
  have hw : (Value.bytes [0x34, 0x32]).coerce ⟨.int, true⟩ = .ok (.int 42) :=
    coerce_ok.2 (.inr (by decide +kernel))
  have hv : Value.bytes [0x34, 0x32] ≠ .null := nofun
  obtain ⟨-, hsound, -, hrest⟩ := coerce_sound (.bytes [0x34, 0x32]) ⟨.int, true⟩
  obtain ⟨hfits, hagain⟩ := hsound _ hw
  obtain ⟨hnull, hindependent⟩ := hrest hv (.int 42)
  exact ⟨_, hw, rfl, hfits, hagain, hnull hw, (hindependent false).2 hw⟩

/-! ## Text and bytes -/

/-- Bytes that write a text are coerced as the text is, unless they are those of a uuid. -/
theorem coerce_encode {s : String} (hk : t.kind ≠ .bytes)
    (hu : ¬ (t.kind = .uuid ∧ (Utf8.encode s).length = 16)) :
    (Value.bytes (Utf8.encode s)).coerce t = (text s).coerce t := by
  have hs := Utf8.decode_encode s
  by_cases ht : t.kind = .text
  · -- the only kind that bytes of a text convert to
    have hconvert : (Value.bytes (Utf8.encode s)).as? t.kind = some (text s) := by
      rw [ht, as?, if_neg nofun, convert?, hs]
      rfl
    rw [coerce_ok.2 (.inr hconvert), coerce_of_fits (.inl (ht ▸ rfl))]
  · refine coerce_bytes_of_decode hs hk ?_
    obtain ⟨k, n⟩ := t
    cases k with
    | uuid => exact congrArg (Option.map Value.uuid) (dif_neg fun h => hu ⟨rfl, h⟩)
    | text => exact absurd rfl ht
    | _ => rfl

/-- Sixteen bytes are a uuid, and no text of sixteen bytes writes one. -/
theorem coerce_encode_uuid {s : String} (hk : t.kind = .uuid)
    (hs : (Utf8.encode s).length = 16) :
    (Value.bytes (Utf8.encode s)).coerce t = .ok (.uuid ⟨Utf8.encode s, hs⟩) ∧
      ∃ err, (text s).coerce t = .error err := by
  constructor
  · refine coerce_ok.2 (.inr ?_)
    rw [hk, as?, if_neg nofun, convert?, Uuid.ofBytes?_of_length hs]
    rfl
  · have hread : ofText? s .uuid = none := by
      rw [ofText?, Uuid.read?_of_short (hs ▸ Utf8.length_le_encode s)]
      rfl
    rw [coerce_text, hk, hread]
    exact ⟨_, rfl⟩

/-- **Text and bytes are decoded alike.** Where no bytes are expected, a text and the bytes that
write it are coerced to the same value or refused with the same error, except that sixteen bytes are
themselves a uuid. Decoding what a value is printed as, in either form, gives the value. -/
theorem coerce_protocols (t : FieldType) (hk : t.kind ≠ .bytes) :
    (∀ s, (Value.bytes (Utf8.encode s)).coerce t = (text s).coerce t ↔
        ¬ (t.kind = .uuid ∧ (Utf8.encode s).length = 16)) ∧
      (∀ (s : String) (hs : (Utf8.encode s).length = 16), t.kind = .uuid →
        (Value.bytes (Utf8.encode s)).coerce t = .ok (.uuid ⟨Utf8.encode s, hs⟩)) ∧
      ∀ v : Value, v.kind? = some t.kind → t.kind ∈ printed →
        (text v.display).coerce t = .ok v ∧
          (Value.bytes (Utf8.encode v.display)).coerce t = .ok v := by
  refine ⟨?_, ?_, ?_⟩
  · intro s
    refine ⟨?_, coerce_encode hk⟩
    rintro hsame ⟨hu, hs⟩
    obtain ⟨hbytes, err, htext⟩ := coerce_encode_uuid hu hs
    rw [hbytes, htext] at hsame
    cases hsame
  · exact fun s hs hu => (coerce_encode_uuid hu hs).1
  · intro v hv hp
    have htext : (text v.display).coerce t = .ok v := by
      rw [coerce_text, ofText?_display hp hv]
    have hsame : (Value.bytes (Utf8.encode v.display)).coerce t = (text v.display).coerce t := by
      refine coerce_encode hk ?_
      rintro ⟨hu, hlength⟩
      exact length_encode_display (hu ▸ hv) hlength
    exact ⟨htext, hsame.trans htext⟩

/-- The least integer is read back in both forms. Sixteen digits are a uuid as bytes only, and alike
in both forms for any other kind. -/
theorem coerce_protocols_least :
    (text (Value.int Int64.minValue).display).coerce ⟨.int, false⟩ = .ok (.int Int64.minValue) ∧
    (Value.bytes (Utf8.encode (Value.int Int64.minValue).display)).coerce ⟨.int, false⟩ =
      .ok (.int Int64.minValue) ∧
    (∃ hs, (Value.bytes (Utf8.encode "0123456789abcdef")).coerce ⟨.uuid, true⟩ =
      .ok (.uuid ⟨Utf8.encode "0123456789abcdef", hs⟩)) ∧
    (Value.bytes (Utf8.encode "0123456789abcdef")).coerce ⟨.uuid, true⟩ ≠
      (text "0123456789abcdef").coerce ⟨.uuid, true⟩ ∧
    (Value.bytes (Utf8.encode "0123456789abcdef")).coerce ⟨.int, true⟩ =
      (text "0123456789abcdef").coerce ⟨.int, true⟩ := by
  have hs : (Utf8.encode "0123456789abcdef").length = 16 := by decide +kernel
  obtain ⟨-, -, hprinted⟩ := coerce_protocols ⟨.int, false⟩ (by decide)
  obtain ⟨htext, hbytes⟩ := hprinted (.int Int64.minValue) rfl (by decide)
  obtain ⟨halike, hraw, -⟩ := coerce_protocols ⟨.uuid, true⟩ (by decide)
  obtain ⟨hint, -, -⟩ := coerce_protocols ⟨.int, true⟩ (by decide)
  refine ⟨htext, hbytes, ⟨hs, hraw _ hs rfl⟩, ?_, ?_⟩
  · exact fun hsame => (halike _).1 hsame ⟨rfl, hs⟩
  · exact (hint _).2 fun h => nomatch h.1

end Value

end RecordSql
