import RecordSql.Hook.Builtin
import RecordSql.Text.Utf8

/-!
# Where long texts are cut

A text that is too long for a limit is cut before the first character that goes past it. Among the
bytes this is the last place between characters within the limit, which is found by stepping back
from there.

* `Text.Cut`: as many characters of a text as fit.
* `Text.cut_iff`: `Text.start` is that part of the text, and nothing else is.
* `Text.Utf8.stepBack_encode`: **stepping back from the limit finds the end of that part**.
* `Text.Shortened`: a text as it is shown, whole or cut and marked.
* `Text.start_longest`: **failures and traced statements show as much of a text as fits**.
-/

namespace RecordSql.Text

/-! ## As many characters as fit -/

/-- The first characters of `s`, as many as have at most `n` bytes together. -/
def start (n : Nat) (s : String) : String := String.ofList (takeBytes n s.toList)

/-- `t` is a start of `s` with at most `n` bytes. It is all of `s`, or the next character would go
past the limit. -/
structure Cut (n : Nat) (s t : String) : Prop where
  starts : t.toList <+: s.toList
  fits : t.utf8ByteSize ≤ n
  full : t = s ∨ ∃ c, t.toList ++ [c] <+: s.toList ∧ n < t.utf8ByteSize + c.utf8Size

/-- The bytes of some characters. -/
def bytes : List Char → Nat
  | [] => 0
  | c :: cs => c.utf8Size + bytes cs

@[simp] theorem bytes_nil : bytes [] = 0 := rfl

@[simp] theorem bytes_cons (c : Char) (cs : List Char) :
    bytes (c :: cs) = c.utf8Size + bytes cs := rfl

@[simp] theorem bytes_append (cs ds : List Char) : bytes (cs ++ ds) = bytes cs + bytes ds := by
  induction cs with
  | nil => exact (Nat.zero_add _).symm
  | cons c cs ih => rw [List.cons_append, bytes_cons, bytes_cons, ih, Nat.add_assoc]

theorem utf8ByteSize_ofList (cs : List Char) : (String.ofList cs).utf8ByteSize = bytes cs := by
  induction cs with
  | nil => rfl
  | cons c cs ih =>
    have hsplit : String.ofList (c :: cs) = String.singleton c ++ String.ofList cs := by
      rw [String.singleton_eq_ofList, ← String.ofList_append]
      rfl
    rw [hsplit, String.utf8ByteSize_append, String.utf8ByteSize_singleton, ih, bytes_cons]

theorem utf8ByteSize_eq (s : String) : s.utf8ByteSize = bytes s.toList := by
  rw [← utf8ByteSize_ofList, String.ofList_toList]

theorem takeBytes_starts (n : Nat) (cs : List Char) : takeBytes n cs <+: cs := by
  induction cs generalizing n with
  | nil => exact List.nil_prefix
  | cons c cs ih =>
    unfold takeBytes
    split
    · exact List.cons_prefix_cons.2 ⟨rfl, ih _⟩
    · exact List.nil_prefix

theorem bytes_takeBytes_le (n : Nat) (cs : List Char) : bytes (takeBytes n cs) ≤ n := by
  induction cs generalizing n with
  | nil => exact Nat.zero_le n
  | cons c cs ih =>
    unfold takeBytes
    split
    · have hrest := ih (n - c.utf8Size)
      rw [bytes_cons]
      omega
    · exact Nat.zero_le n

/-- What is left begins with a character that does not fit. -/
theorem takeBytes_full (n : Nat) (cs : List Char) :
    takeBytes n cs = cs ∨
      ∃ c, takeBytes n cs ++ [c] <+: cs ∧ n < bytes (takeBytes n cs) + c.utf8Size := by
  induction cs generalizing n with
  | nil => exact .inl rfl
  | cons c cs ih =>
    by_cases hfit : c.utf8Size ≤ n
    · rw [takeBytes, if_pos hfit]
      rcases ih (n - c.utf8Size) with hall | ⟨d, hd, hfull⟩
      · exact .inl (by rw [hall])
      · refine .inr ⟨d, List.cons_prefix_cons.2 ⟨rfl, hd⟩, ?_⟩
        rw [bytes_cons]
        omega
    · rw [takeBytes, if_neg hfit]
      refine .inr ⟨c, List.cons_prefix_cons.2 ⟨rfl, List.nil_prefix⟩, ?_⟩
      rw [bytes_nil]
      omega

theorem bytes_le_of_starts {cs ds : List Char} (h : cs <+: ds) : bytes cs ≤ bytes ds := by
  obtain ⟨rest, rfl⟩ := h
  rw [bytes_append]
  omega

/-- A text that is full has no longer start that fits. -/
theorem Cut.longest {n : Nat} {s t : String} (h : Cut n s t) {cs : List Char}
    (hcs : cs <+: s.toList) (hfit : bytes cs ≤ n) : cs <+: t.toList := by
  rcases h.full with rfl | ⟨c, hc, hfull⟩
  · exact hcs
  rcases List.prefix_or_prefix_of_prefix hcs hc with hshort | hlong
  · -- a start of `t` and `c` is one of `t` or has `c` too
    rcases List.prefix_concat_iff.1 hshort with rfl | hstart
    · rw [bytes_append, bytes_cons, bytes_nil, ← utf8ByteSize_eq] at hfit
      omega
    · exact hstart
  · have hle := bytes_le_of_starts hlong
    rw [bytes_append, bytes_cons, bytes_nil, ← utf8ByteSize_eq] at hle
    omega

theorem cut_start (n : Nat) (s : String) : Cut n s (start n s) := by
  have hlist : (start n s).toList = takeBytes n s.toList := String.toList_ofList
  refine ⟨?_, ?_, ?_⟩
  · rw [hlist]
    exact takeBytes_starts n s.toList
  · rw [start, utf8ByteSize_ofList]
    exact bytes_takeBytes_le n s.toList
  · rw [hlist, start, utf8ByteSize_ofList]
    rcases takeBytes_full n s.toList with hall | hfull
    · exact .inl (by rw [hall, String.ofList_toList])
    · exact .inr hfull

/-- **There is one way to cut a text.** -/
theorem cut_iff {n : Nat} {s t : String} : Cut n s t ↔ t = start n s := by
  constructor
  · intro h
    have hstart := cut_start n s
    have hthere := hstart.longest h.starts (utf8ByteSize_eq t ▸ h.fits)
    have hback := h.longest hstart.starts (utf8ByteSize_eq _ ▸ hstart.fits)
    exact String.toList_inj.1 (hthere.eq_of_length_le hback.length_le)
  · rintro rfl
    exact cut_start n s

/-! ## Stepping back from the limit -/

namespace Utf8

/-- Whether there is no character around the place `i` among the bytes. -/
def isBoundary (bs : List UInt8) (i : Nat) : Bool :=
  match bs[i]? with
  | none => i == bs.length
  | some b => !isContinuation b

/-- The last place up to `n` that is between characters. -/
def stepBack (bs : List UInt8) : Nat → Nat
  | 0 => 0
  | n + 1 => if isBoundary bs (n + 1) then n + 1 else stepBack bs n

/-- Where bytes are cut for a limit of `n`. -/
def cutPoint (bs : List UInt8) (n : Nat) : Nat :=
  if bs.length ≤ n then bs.length else stepBack bs n

/-- The bytes of a character: a first one that continues nothing, and others that do. -/
theorem encodePoint_char (c : Char) : ∃ lead more, encodePoint c.toNat = lead :: more ∧
    isContinuation lead = false ∧ (∀ b ∈ more, isContinuation b = true) ∧
    more.length + 1 = c.utf8Size := by
  have hc := char_range c
  have hsize : c.utf8Size = if c.toNat ≤ 0x7F then 1 else if c.toNat ≤ 0x7FF then 2 else
      if c.toNat ≤ 0xFFFF then 3 else 4 := rfl
  have hlead : ∀ n, n < 256 → n < 0x80 ∨ 0xBF < n → isContinuation (UInt8.ofNat n) = false := by
    intro n hn hrange
    rw [isContinuation, toNat_ofNat hn, Bool.and_eq_false_iff, decide_eq_false_iff_not,
      decide_eq_false_iff_not]
    omega
  have hmore : ∀ n, isContinuation (UInt8.ofNat (0x80 + n % 64)) = true := by
    intro n
    rw [isContinuation, toNat_ofNat (by omega), Bool.and_eq_true, decide_eq_true_eq,
      decide_eq_true_eq]
    omega
  rw [hsize]
  generalize c.toNat = n at *
  unfold encodePoint
  split
  · refine ⟨_, _, rfl, hlead n (by omega) (by omega), List.forall_mem_nil _, ?_⟩
    rw [if_pos (by omega)]
    rfl
  split
  · refine ⟨_, _, rfl, hlead _ (by omega) (by omega), ?_, ?_⟩
    · exact List.forall_mem_singleton.2 (hmore _)
    · rw [if_neg (by omega), if_pos (by omega)]
      rfl
  split
  · refine ⟨_, _, rfl, hlead _ (by omega) (by omega), ?_, ?_⟩
    · exact List.forall_mem_cons.2 ⟨hmore _, List.forall_mem_singleton.2 (hmore _)⟩
    · rw [if_neg (by omega), if_neg (by omega), if_pos (by omega)]
      rfl
  · refine ⟨_, _, rfl, hlead _ (by omega) (by omega), ?_, ?_⟩
    · exact List.forall_mem_cons.2 ⟨hmore _, List.forall_mem_cons.2 ⟨hmore _,
        List.forall_mem_singleton.2 (hmore _)⟩⟩
    · rw [if_neg (by omega), if_neg (by omega), if_neg (by omega)]
      rfl

theorem length_encodePoint (c : Char) : (encodePoint c.toNat).length = c.utf8Size := by
  obtain ⟨lead, more, henc, -, -, hlen⟩ := encodePoint_char c
  rw [henc, List.length_cons, hlen]

/-- The bytes of the characters. -/
def encodeAll (cs : List Char) : List UInt8 := cs.flatMap fun c => encodePoint c.toNat

@[simp] theorem encodeAll_cons (c : Char) (cs : List Char) :
    encodeAll (c :: cs) = encodePoint c.toNat ++ encodeAll cs := List.flatMap_cons

theorem length_encodeAll (cs : List Char) : (encodeAll cs).length = bytes cs := by
  induction cs with
  | nil => rfl
  | cons c cs ih => rw [encodeAll_cons, List.length_append, length_encodePoint, ih, bytes_cons]

theorem encode_start (n : Nat) (s : String) :
    encode (start n s) = encodeAll (takeBytes n s.toList) := by
  rw [encode, start, String.toList_ofList]
  rfl

/-- Behind some bytes, the boundaries are those of the rest. -/
theorem isBoundary_append (bs rest : List UInt8) (k : Nat) :
    isBoundary (bs ++ rest) (bs.length + k) = isBoundary rest k := by
  have hend : (bs.length + k == (bs ++ rest).length) = (k == rest.length) := by
    rw [List.length_append, Bool.eq_iff_iff, beq_iff_eq, beq_iff_eq]
    omega
  rw [isBoundary, List.getElem?_append_right (Nat.le_add_right _ _), Nat.add_sub_cancel_left, hend]
  rfl

/-- Characters are whole where others begin. -/
theorem isBoundary_encodeAll (cs : List Char) : isBoundary (encodeAll cs) 0 = true := by
  cases cs with
  | nil => rfl
  | cons c cs =>
    obtain ⟨lead, more, henc, hlead, -, -⟩ := encodePoint_char c
    rw [encodeAll_cons, henc]
    show (!isContinuation lead) = true
    rw [hlead]
    rfl

/-- No place within a character is a boundary. -/
theorem isBoundary_within {c : Char} {i : Nat} (hpos : 0 < i) (h : i < c.utf8Size)
    (rest : List UInt8) : isBoundary (encodePoint c.toNat ++ rest) i = false := by
  obtain ⟨lead, more, henc, -, hmore, hlen⟩ := encodePoint_char c
  obtain ⟨j, rfl⟩ : ∃ j, i = j + 1 := ⟨i - 1, by omega⟩
  have hj : j < more.length := by omega
  have hget : (lead :: more ++ rest)[j + 1]? = some more[j] := by
    rw [List.cons_append, List.getElem?_cons_succ, List.getElem?_append_left hj,
      List.getElem?_eq_getElem hj]
  rw [isBoundary, henc, hget]
  simp only [hmore _ (List.getElem_mem hj), Bool.not_true]

/-- From within the first character one steps back to its beginning. -/
theorem stepBack_within (c : Char) (rest : List UInt8) {n : Nat} (h : n < c.utf8Size) :
    stepBack (encodePoint c.toNat ++ rest) n = 0 := by
  induction n with
  | zero => rfl
  | succ n ih =>
    rw [stepBack, isBoundary_within (Nat.succ_pos n) h rest]
    exact ih (by omega)

/-- From behind the first character one does not step back into it. -/
theorem stepBack_behind (c : Char) (cs : List Char) (k : Nat) :
    stepBack (encodePoint c.toNat ++ encodeAll cs) (c.utf8Size + k) =
      c.utf8Size + stepBack (encodeAll cs) k := by
  have hshift : ∀ j, isBoundary (encodePoint c.toNat ++ encodeAll cs) (c.utf8Size + j) =
      isBoundary (encodeAll cs) j := by
    intro j
    rw [← length_encodePoint]
    exact isBoundary_append _ _ j
  induction k with
  | zero =>
    have hstop : isBoundary (encodePoint c.toNat ++ encodeAll cs) c.utf8Size = true :=
      (hshift 0).trans (isBoundary_encodeAll cs)
    show stepBack _ c.utf8Size = c.utf8Size
    obtain ⟨m, hm⟩ := Nat.exists_eq_add_one_of_ne_zero (Nat.ne_of_gt c.utf8Size_pos)
    rw [hm] at hstop ⊢
    rw [stepBack, hstop, if_pos rfl]
  | succ k ih =>
    have hstep := hshift (k + 1)
    rw [← Nat.add_assoc, stepBack, Nat.add_assoc, hstep, stepBack, ih]
    split <;> rfl

/-- **Stepping back from the limit ends behind the characters that fit.** -/
theorem stepBack_encode (n : Nat) (cs : List Char) :
    stepBack (encodeAll cs) n = (encodeAll (takeBytes n cs)).length := by
  induction cs generalizing n with
  | nil =>
    induction n with
    | zero => rfl
    | succ n ih => exact ih
  | cons c cs ih =>
    rw [encodeAll_cons]
    by_cases hfit : c.utf8Size ≤ n
    · obtain ⟨k, rfl⟩ := Nat.exists_eq_add_of_le hfit
      rw [stepBack_behind, ih, takeBytes, if_pos hfit, Nat.add_sub_cancel_left, encodeAll_cons,
        List.length_append, length_encodePoint]
    · rw [stepBack_within c _ (by omega), takeBytes, if_neg hfit]
      rfl

/-- A text is cut behind the characters that fit. -/
theorem cutPoint_encode (n : Nat) (s : String) :
    cutPoint (encode s) n = (encode (start n s)).length := by
  rw [cutPoint, encode_start]
  show (if (encodeAll s.toList).length ≤ n then (encodeAll s.toList).length else
    stepBack (encodeAll s.toList) n) = _
  split
  · rename_i hfit
    rw [length_encodeAll] at hfit
    -- all of it fits, so the start is the whole text
    have hall := (cut_start n s).longest List.prefix_rfl hfit
    rw [start, String.toList_ofList] at hall
    rw [(takeBytes_starts n s.toList).eq_of_length_le hall.length_le]
  · exact stepBack_encode n s.toList

/-- **The bytes up to there are the text that fits.** -/
theorem decode_take_cutPoint (n : Nat) (s : String) :
    decode ((encode s).take (cutPoint (encode s) n)) = .ok (start n s) := by
  obtain ⟨rest, hrest⟩ := takeBytes_starts n s.toList
  have hencode : encode s = encode (start n s) ++ encodeAll rest := by
    rw [encode_start, encodeAll, encodeAll, ← List.flatMap_append, hrest]
    rfl
  rw [cutPoint_encode, hencode, List.take_left' rfl, decode_encode]

end Utf8

/-! ## Texts as they are shown -/

/-- `t` shows `s` within a limit of `n` bytes. -/
inductive Shortened (n : Nat) (s : String) : String → Prop where
  /-- It fits as it is. -/
  | whole (h : s.utf8ByteSize ≤ n) : Shortened n s s
  /-- It does not, and is cut and marked. -/
  | cut {t : String} (h : n < s.utf8ByteSize) (ht : Cut n s t) : Shortened n s (t ++ "...")

theorem shortened_truncate (n : Nat) (s : String) : Shortened n s (truncate n s) := by
  unfold truncate
  split
  · rename_i h
    exact .whole h
  · rename_i h
    exact .cut (by omega) (cut_start n s)

/-- The mark takes three more bytes. -/
theorem Shortened.size_le {n : Nat} {s t : String} (h : Shortened n s t) :
    t.utf8ByteSize ≤ n + 3 := by
  cases h with
  | whole hfit => omega
  | cut _ ht =>
    have hfits := ht.fits
    rw [String.utf8ByteSize_append]
    show _ + 3 ≤ _
    omega

/-- **As much of a text is shown as fits.** For every limit there is one start of a text that is as
long as whole characters allow, and stepping back from the limit among the bytes ends there, so the
bytes up to that place are a text again. The message of a failure is shown within 512 bytes and a
mark, and a traced statement within the limit, whatever it is, or whole if there is none. -/
theorem start_longest :
    (∀ n s t, Cut n s t ↔ t = start n s) ∧
      (∀ n s, Utf8.decode ((Utf8.encode s).take (Utf8.cutPoint (Utf8.encode s) n)) =
        .ok (start n s)) ∧
      (∀ message, ∃ m, Outcome.failed message = .error m ∧ Shortened 512 message m ∧
        m.utf8ByteSize ≤ 515) ∧
      ∀ (t : Tracing) (sql : String), match t.maxLength with
        | some limit => Shortened limit sql (t.shorten sql)
        | none => t.shorten sql = sql := by
  refine ⟨fun n s t => cut_iff, Utf8.decode_take_cutPoint, ?_, ?_⟩
  · intro message
    have hshown := shortened_truncate 512 message
    exact ⟨_, rfl, hshown, hshown.size_le⟩
  · intro t sql
    unfold Tracing.shorten
    cases t.maxLength with
    | some limit => exact shortened_truncate limit sql
    | none => rfl

/-- Limits at and within characters of one, two, three and four bytes. -/
example : [0, 1, 2, 3, 5, 6, 9, 10].map (fun n => start n "aé€😀") =
    ["", "a", "a", "aé", "aé", "aé€", "aé€", "aé€😀"] := by decide

end RecordSql.Text
