/-!
# UTF-8

* `encode`: the bytes of a text.
* `decode`: the text of a byte string, or where and why it is not UTF-8.
* `decode_encode`: decoding undoes encoding.
-/

namespace RecordSql.Text.Utf8

/-- The bytes of the code point `n`: one for ASCII, else a first byte that tells how many follow,
and six bits of payload in each of those. -/
def encodePoint (n : Nat) : List UInt8 :=
  if n < 0x80 then [.ofNat n]
  else if n < 0x800 then [.ofNat (0xC0 + n / 64), .ofNat (0x80 + n % 64)]
  else if n < 0x10000 then
    [.ofNat (0xE0 + n / 4096), .ofNat (0x80 + n / 64 % 64), .ofNat (0x80 + n % 64)]
  else
    [.ofNat (0xF0 + n / 262144), .ofNat (0x80 + n / 4096 % 64), .ofNat (0x80 + n / 64 % 64),
      .ofNat (0x80 + n % 64)]

/-- The bytes of `s`. -/
def encode (s : String) : List UInt8 := s.toList.flatMap fun c => encodePoint c.toNat

/-- Why bytes are not UTF-8, with the index of the first byte that is not part of a whole
character. -/
inductive Fault where
  /-- `length` bytes at `index` begin no character. -/
  | invalid (length index : Nat)
  /-- The bytes end inside the character at `index`. -/
  | incomplete (index : Nat)
deriving DecidableEq

/-- The fault in words. -/
def Fault.message : Fault → String
  | .invalid n i =>
    String.join ["invalid utf-8 sequence of ", toString n, " bytes from index ", toString i]
  | .incomplete i => String.join ["incomplete utf-8 byte sequence from index ", toString i]

/-- What the first byte of a longer character fixes: its own payload, how many bytes follow, and
the range of the second byte, which rules out overlong forms, surrogates and code points past the
last one. -/
structure Lead where
  payload : Nat
  more : Nat
  low : Nat
  high : Nat

/-- The reading of a first byte that is not ASCII. -/
def lead? (a : Nat) : Option Lead :=
  if a < 0xC2 then none
  else if a < 0xE0 then some ⟨a - 0xC0, 1, 0x80, 0xBF⟩
  else if a = 0xE0 then some ⟨0, 2, 0xA0, 0xBF⟩
  else if a = 0xED then some ⟨0xD, 2, 0x80, 0x9F⟩
  else if a < 0xF0 then some ⟨a - 0xE0, 2, 0x80, 0xBF⟩
  else if a = 0xF0 then some ⟨0, 3, 0x90, 0xBF⟩
  else if a < 0xF4 then some ⟨a - 0xF0, 3, 0x80, 0xBF⟩
  else if a = 0xF4 then some ⟨4, 3, 0x80, 0x8F⟩
  else none

def isContinuation (b : UInt8) : Bool := 0x80 ≤ b.toNat && b.toNat ≤ 0xBF

/-- Append the six payload bits of `b`. -/
def extend (n : Nat) (b : UInt8) : Nat := n * 64 + b.toNat % 64

/-- The characters of `bytes`, whose first byte has index `i` in the whole. -/
def decodeFrom (i : Nat) : List UInt8 → Except Fault (List Char)
  | [] => .ok []
  | a :: rest =>
    if a.toNat < 0x80 then (decodeFrom (i + 1) rest).map (Char.ofNat a.toNat :: ·)
    else match lead? a.toNat with
      | none => .error (.invalid 1 i)
      | some l => match rest with
        | [] => .error (.incomplete i)
        | b :: rest =>
          if b.toNat < l.low ∨ l.high < b.toNat then .error (.invalid 1 i)
          else if l.more = 1 then
            (decodeFrom (i + 2) rest).map (Char.ofNat (extend l.payload b) :: ·)
          else match rest with
            | [] => .error (.incomplete i)
            | c :: rest =>
              if !isContinuation c then .error (.invalid 2 i)
              else if l.more = 2 then
                (decodeFrom (i + 3) rest).map (Char.ofNat (extend (extend l.payload b) c) :: ·)
              else match rest with
                | [] => .error (.incomplete i)
                | d :: rest =>
                  if !isContinuation d then .error (.invalid 3 i)
                  else (decodeFrom (i + 4) rest).map
                    (Char.ofNat (extend (extend (extend l.payload b) c) d) :: ·)

/-- The text of `bytes`. -/
def decode (bytes : List UInt8) : Except Fault String := (decodeFrom 0 bytes).map String.ofList

/-! ## Decoding undoes encoding -/

theorem toNat_ofNat {n : Nat} (h : n < 256) : (UInt8.ofNat n).toNat = n := by
  simp [Nat.mod_eq_of_lt h]

theorem char_range (c : Char) : c.toNat < 0xD800 ∨ (0xDFFF < c.toNat ∧ c.toNat < 0x110000) := by
  have := c.valid
  simp only [UInt32.isValidChar, Nat.isValidChar] at this
  exact this

/-- Decoding takes one encoded character off the front. -/
theorem decodeFrom_encodePoint (i : Nat) (c : Char) (rest : List UInt8) :
    ∃ j, decodeFrom i (encodePoint c.toNat ++ rest) = (decodeFrom j rest).map (c :: ·) := by
  have hc := char_range c
  have hof : Char.ofNat c.toNat = c := Char.ofNat_toNat c
  unfold encodePoint
  generalize c.toNat = n at *
  split
  · refine ⟨i + 1, ?_⟩
    rw [List.singleton_append, decodeFrom, toNat_ofNat (by omega), if_pos (by omega), hof]
  split
  · refine ⟨i + 2, ?_⟩
    have h1 := toNat_ofNat (n := 0xC0 + n / 64) (by omega)
    have h2 := toNat_ofNat (n := 0x80 + n % 64) (by omega)
    have hl : lead? (0xC0 + n / 64) = some ⟨n / 64, 1, 0x80, 0xBF⟩ := by
      rw [lead?, if_neg (by omega), if_pos (by omega)]; simp
    have he : n / 64 * 64 + (0x80 + n % 64) % 64 = n := by omega
    simp only [List.cons_append, List.nil_append, decodeFrom, h1, h2, hl, extend, he, hof]
    rw [if_neg (by omega), if_neg (by omega), if_pos trivial]
  split
  · refine ⟨i + 3, ?_⟩
    have h1 := toNat_ofNat (n := 0xE0 + n / 4096) (by omega)
    have h2 := toNat_ofNat (n := 0x80 + n / 64 % 64) (by omega)
    have h3 := toNat_ofNat (n := 0x80 + n % 64) (by omega)
    have hl : ∃ lo hi, lead? (0xE0 + n / 4096) = some ⟨n / 4096, 2, lo, hi⟩ ∧
        lo ≤ 0x80 + n / 64 % 64 ∧ 0x80 + n / 64 % 64 ≤ hi := by
      unfold lead?
      rw [if_neg (by omega), if_neg (by omega)]
      by_cases h0 : n / 4096 = 0
      · rw [if_pos (by omega)]
        exact ⟨_, _, by rw [h0], by omega, by omega⟩
      rw [if_neg (by omega)]
      by_cases hd : n / 4096 = 0xD
      · rw [if_pos (by omega)]
        exact ⟨_, _, by rw [hd], by omega, by omega⟩
      rw [if_neg (by omega), if_pos (by omega)]
      exact ⟨_, _, by simp; exact ⟨rfl, rfl⟩, by omega, by omega⟩
    obtain ⟨lo, hi, hl, hlo, hhi⟩ := hl
    have he : (n / 4096 * 64 + (0x80 + n / 64 % 64) % 64) * 64 + (0x80 + n % 64) % 64 = n := by
      omega
    have hk : isContinuation (UInt8.ofNat (0x80 + n % 64)) = true := by
      simp only [isContinuation, h3, Bool.and_eq_true, decide_eq_true_eq]; omega
    simp only [List.cons_append, List.nil_append, decodeFrom, h1, h2, h3, hl, extend, he, hof, hk]
    rw [if_neg (by omega), if_neg (by omega), if_neg (by omega), if_neg (by simp), if_pos trivial]
  · refine ⟨i + 4, ?_⟩
    have h1 := toNat_ofNat (n := 0xF0 + n / 262144) (by omega)
    have h2 := toNat_ofNat (n := 0x80 + n / 4096 % 64) (by omega)
    have h3 := toNat_ofNat (n := 0x80 + n / 64 % 64) (by omega)
    have h4 := toNat_ofNat (n := 0x80 + n % 64) (by omega)
    have hl : ∃ lo hi, lead? (0xF0 + n / 262144) = some ⟨n / 262144, 3, lo, hi⟩ ∧
        lo ≤ 0x80 + n / 4096 % 64 ∧ 0x80 + n / 4096 % 64 ≤ hi := by
      unfold lead?
      rw [if_neg (by omega), if_neg (by omega), if_neg (by omega), if_neg (by omega),
        if_neg (by omega)]
      by_cases h0 : n / 262144 = 0
      · rw [if_pos (by omega)]
        exact ⟨_, _, by rw [h0], by omega, by omega⟩
      rw [if_neg (by omega)]
      by_cases hd : n / 262144 = 4
      · rw [if_neg (by omega), if_pos (by omega)]
        exact ⟨_, _, by rw [hd], by omega, by omega⟩
      rw [if_pos (by omega)]
      exact ⟨_, _, by simp; exact ⟨rfl, rfl⟩, by omega, by omega⟩
    obtain ⟨lo, hi, hl, hlo, hhi⟩ := hl
    have he : ((n / 262144 * 64 + (0x80 + n / 4096 % 64) % 64) * 64 +
        (0x80 + n / 64 % 64) % 64) * 64 + (0x80 + n % 64) % 64 = n := by
      omega
    have hk : isContinuation (UInt8.ofNat (0x80 + n % 64)) = true := by
      simp only [isContinuation, h4, Bool.and_eq_true, decide_eq_true_eq]; omega
    have hj : isContinuation (UInt8.ofNat (0x80 + n / 64 % 64)) = true := by
      simp only [isContinuation, h3, Bool.and_eq_true, decide_eq_true_eq]; omega
    simp only [List.cons_append, List.nil_append, decodeFrom, h1, h2, h3, h4, hl, extend, he, hof,
      hk, hj]
    rw [if_neg (by omega), if_neg (by omega), if_neg (by omega), if_neg (by simp),
      if_neg (by omega), if_neg (by simp)]

theorem decodeFrom_flatMap_encodePoint (cs : List Char) :
    ∀ i, decodeFrom i (cs.flatMap fun c => encodePoint c.toNat) = .ok cs := by
  induction cs with
  | nil => intro i; rfl
  | cons c cs ih =>
    intro i
    obtain ⟨j, h⟩ := decodeFrom_encodePoint i c (cs.flatMap fun c => encodePoint c.toNat)
    rw [List.flatMap_cons, h, ih]
    rfl

/-- **Decoding undoes encoding.** -/
theorem decode_encode (s : String) : decode (encode s) = .ok s := by
  rw [decode, encode, decodeFrom_flatMap_encodePoint]
  simp [Except.map]

end RecordSql.Text.Utf8
