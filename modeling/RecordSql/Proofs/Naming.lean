import Mathlib.Data.String.Defs
import RecordSql.Proofs.Tags

/-!
# Derived names

Which names of record types and fields give the same name of a table or a column.

* `Text.isUppercase_ascii`, `Text.lowercase_ascii`: letter case in ASCII.
* `Camel`, `SameWords`: names in ASCII without underscores, and those that differ in the case of
  their first character at most.
* `recapitalize_underscore`: such a name can be read back, but for that case.
* `underscore_eq_iff`: so names with one derived name are the same words.
* `underscore_eq_self_iff`: the names in ASCII that are left as they are.
* `underscore_underscore`: they are the derived ones.
* `Model.parse_untagged_iff`: the fields of a record type that leave their columns to their names.
* `underscore_tells_apart`: **derived names are as different as the names that they come from.**
-/

namespace RecordSql

/-! ## Letter case in ASCII -/

namespace Text

variable {c : Char}

theorem isUpper_iff : c.isUpper = true ↔ 65 ≤ c.toNat ∧ c.toNat ≤ 90 := by
  show decide ('A'.val ≤ c.val ∧ c.val ≤ 'Z'.val) = true ↔ _
  rw [decide_eq_true_iff, UInt32.le_iff_toNat_le, UInt32.le_iff_toNat_le]
  exact Iff.rfl

theorem toLower_of_not_isUpper (h : c.isUpper = false) : c.toLower = c :=
  dif_neg (of_decide_eq_false h)

/-- A small letter comes 32 places after its capital. -/
theorem toNat_toLower (h : c.isUpper = true) : c.toLower.toNat = c.toNat + 32 := by
  have hrange := isUpper_iff.1 h
  have hval : c.val.toNat = c.toNat := rfl
  have hshift : ('a'.val - 'A'.val).toNat = 32 := rfl
  have hlower : c.toLower = ⟨c.val + ('a'.val - 'A'.val), _⟩ := dif_pos (of_decide_eq_true h)
  rw [hlower]
  show (c.val + ('a'.val - 'A'.val)).toNat = c.toNat + 32
  rw [UInt32.toNat_add, hshift, hval]
  omega

theorem toNat_toUpper (h : 97 ≤ c.toNat ∧ c.toNat ≤ 122) : c.toUpper.toNat + 32 = c.toNat := by
  have hsmall : 'a'.val ≤ c.val ∧ c.val ≤ 'z'.val := by simpa [UInt32.le_iff_toNat_le] using h
  have hval : c.val.toNat = c.toNat := rfl
  have hshift : ('A'.val - 'a'.val).toNat = 2 ^ 32 - 32 := rfl
  have hupper : c.toUpper = ⟨c.val + ('A'.val - 'a'.val), _⟩ := dif_pos hsmall
  rw [hupper]
  show (c.val + ('A'.val - 'a'.val)).toNat + 32 = c.toNat
  rw [UInt32.toNat_add, hshift, hval]
  omega

theorem toUpper_toLower (h : c.isUpper = true) : c.toLower.toUpper = c := by
  have hrange := isUpper_iff.1 h
  have hlower := toNat_toLower h
  have hupper := toNat_toUpper (c := c.toLower) (by omega)
  exact Char.toNat_inj.1 (by omega)

theorem isUpper_toLower (c : Char) : c.toLower.isUpper = false := by
  cases hup : c.isUpper with
  | true =>
    have hrange := isUpper_iff.1 hup
    rw [Bool.eq_false_iff, Ne, isUpper_iff, toNat_toLower hup]
    omega
  | false => rwa [toLower_of_not_isUpper hup]

theorem toLower_eq_self_iff : c.toLower = c ↔ c.isUpper = false :=
  ⟨fun h => h ▸ isUpper_toLower c, toLower_of_not_isUpper⟩

theorem lt_of_isAscii (h : c.isAscii = true) : c.toNat < 0x80 := of_decide_eq_true h

theorem isAscii_of_isUpper (h : c.isUpper = true) : c.isAscii = true := by
  have hrange := isUpper_iff.1 h
  exact decide_eq_true (by omega)

theorem isAscii_toLower (h : c.isAscii = true) : c.toLower.isAscii = true := by
  cases hup : c.isUpper with
  | true =>
    have hrange := isUpper_iff.1 hup
    have hlower := toNat_toLower hup
    exact decide_eq_true (by omega)
  | false => rwa [toLower_of_not_isUpper hup]

theorem Span.not_has_ascii {s : Span} (h : c.isAscii = true) (hs : 0x80 ≤ s.first) :
    ¬ s.has c.toNat = true := by
  have hlt := lt_of_isAscii h
  simp only [has, Bool.and_eq_true, decide_eq_true_eq]
  omega

/-- The first span of either table holds the capitals in ASCII. -/
theorem has_capitals (c : Char) : Span.has ⟨0x41, 0x5A, 1⟩ c.toNat = c.isUpper := by
  rw [Bool.eq_iff_iff, isUpper_iff]
  simp [Span.has, Nat.mod_one]

theorem isUppercase_ascii (h : c.isAscii = true) : isUppercase c = c.isUpper := by
  -- all other spans lie past ASCII
  have hpast : ∀ s ∈ uppercases.tail, 0x80 ≤ s.first := by decide +kernel
  have hnone : uppercases.tail.any (·.has c.toNat) = false :=
    List.any_eq_false.2 fun s hs => Span.not_has_ascii h (hpast s hs)
  show (Span.has ⟨0x41, 0x5A, 1⟩ c.toNat || uppercases.tail.any (·.has c.toNat)) = _
  rw [hnone, Bool.or_false, has_capitals]

theorem lowercase_ascii (h : c.isAscii = true) : lowercase c = [c.toLower] := by
  have hpast : ∀ s ∈ lowerShifts.tail, 0x80 ≤ s.span.first := by decide +kernel
  have hnone : lowerShifts.tail.find? (·.span.has c.toNat) = none :=
    List.find?_eq_none.2 fun s hs => Span.not_has_ascii h (hpast s hs)
  have hdotted : c ≠ 'İ' := by
    rintro rfl
    exact absurd h (by decide)
  have hshifts : lowerShifts = ⟨⟨0x41, 0x5A, 1⟩, 32⟩ :: lowerShifts.tail := rfl
  rw [lowercase, if_neg hdotted, hshifts, List.find?_cons, has_capitals]
  cases hup : c.isUpper with
  | true =>
    show [Char.ofNat (c.toNat + 32)] = [c.toLower]
    rw [← toNat_toLower hup, Char.ofNat_toNat]
  | false =>
    rw [hnone, toLower_of_not_isUpper hup]

end Text

open Text

/-! ## Names in ASCII -/

/-- The name is in ASCII. -/
def Ascii (name : String) : Prop := ∀ c ∈ name.toList, c.isAscii = true

/-- The name is in ASCII and has no underscore, so that only capitals divide its words. -/
structure Camel (name : String) : Prop where
  ascii : Ascii name
  bare : '_' ∉ name.toList

/-- The names are equal up to the case of their first character. -/
structure SameWords (a b : String) : Prop where
  first : a.toList.head?.map Char.toLower = b.toList.head?.map Char.toLower
  rest : a.toList.tail = b.toList.tail

instance (name : String) : Decidable (Ascii name) :=
  decidable_of_iff (name.toList.all Char.isAscii = true) List.all_eq_true

instance (name : String) : Decidable (Camel name) :=
  decidable_of_iff (Ascii name ∧ '_' ∉ name.toList)
    ⟨fun h => ⟨h.1, h.2⟩, fun h => ⟨h.ascii, h.bare⟩⟩

instance (a b : String) : Decidable (SameWords a b) :=
  decidable_of_iff (a.toList.head?.map Char.toLower = b.toList.head?.map Char.toLower ∧
    a.toList.tail = b.toList.tail) ⟨fun h => ⟨h.1, h.2⟩, fun h => ⟨h.first, h.rest⟩⟩

variable {c : Char} {cs : List Char} {a b name : String}

theorem underscoreTail_upper (cs : List Char) (h : c.isUpper = true) :
    underscoreTail (c :: cs) = '_' :: c.toLower :: underscoreTail cs := by
  have hascii := isAscii_of_isUpper h
  rw [underscoreTail, List.flatMap_cons, isUppercase_ascii hascii, h, lowercase_ascii hascii]
  rfl

theorem underscoreTail_other (cs : List Char) (hascii : c.isAscii = true)
    (h : c.isUpper = false) : underscoreTail (c :: cs) = c :: underscoreTail cs := by
  rw [underscoreTail, List.flatMap_cons, isUppercase_ascii hascii, h]
  rfl

/-- The first character is in lower case, and the others begin words where they are capitals. -/
theorem toList_underscore (h : Ascii name) : (underscore name).toList =
    (name.toList.head?.map Char.toLower).toList ++ underscoreTail name.toList.tail := by
  unfold underscore
  cases hname : name.toList with
  | nil => rfl
  | cons c cs =>
    have hascii : c.isAscii = true := h c (hname ▸ List.mem_cons_self)
    have hfirst : (if isUppercase c then lowercase c else [c]) = [c.toLower] := by
      rw [isUppercase_ascii hascii, lowercase_ascii hascii]
      cases hup : c.isUpper with
      | true => rfl
      | false =>
        rw [toLower_of_not_isUpper hup]
        rfl
    rw [String.toList_ofList, hfirst]
    rfl

theorem head?_underscore (h : Ascii name) :
    (underscore name).toList.head? = name.toList.head?.map Char.toLower := by
  rw [toList_underscore h]
  cases name.toList <;> rfl

theorem tail_underscore (h : Ascii name) :
    (underscore name).toList.tail = underscoreTail name.toList.tail := by
  rw [toList_underscore h]
  cases name.toList <;> rfl

/-! ## Reading a name back -/

/-- The text in which an underscore and the character behind it are a capital again. -/
def recapitalize : List Char → List Char
  | [] => []
  | '_' :: c :: cs => c.toUpper :: recapitalize cs
  | c :: cs => c :: recapitalize cs

theorem recapitalize_cons (cs : List Char) (h : c ≠ '_') :
    recapitalize (c :: cs) = c :: recapitalize cs := by
  rw [recapitalize]
  rintro d ds rfl -
  exact h rfl

/-- Where no underscore stood before, each one marks a capital. -/
theorem recapitalize_underscoreTail (hascii : ∀ c ∈ cs, c.isAscii = true) (hbare : '_' ∉ cs) :
    recapitalize (underscoreTail cs) = cs := by
  induction cs with
  | nil => rfl
  | cons c cs ih =>
    obtain ⟨hc, hcs⟩ := List.forall_mem_cons.1 hascii
    obtain ⟨hne, hrest⟩ := List.ne_and_not_mem_of_not_mem_cons hbare
    cases hup : c.isUpper with
    | true =>
      rw [underscoreTail_upper cs hup, recapitalize, toUpper_toLower hup, ih hcs hrest]
    | false => rw [underscoreTail_other cs hc hup, recapitalize_cons _ hne.symm, ih hcs hrest]

/-- **All of a name but its first character can be read back.** -/
theorem recapitalize_underscore (h : Camel name) :
    recapitalize (underscore name).toList.tail = name.toList.tail := by
  rw [tail_underscore h.ascii]
  apply recapitalize_underscoreTail
  · exact fun c hc => h.ascii c (List.mem_of_mem_tail hc)
  · exact fun hc => h.bare (List.mem_of_mem_tail hc)

/-- **Two names give the same name exactly if they are the same words.** -/
theorem underscore_eq_iff (ha : Camel a) (hb : Camel b) :
    underscore a = underscore b ↔ SameWords a b := by
  constructor
  · intro h
    refine ⟨?_, ?_⟩
    · rw [← head?_underscore ha.ascii, h, head?_underscore hb.ascii]
    · rw [← recapitalize_underscore ha, h, recapitalize_underscore hb]
  · rintro ⟨hfirst, hrest⟩
    rw [← String.toList_inj, toList_underscore ha.ascii, toList_underscore hb.ascii, hfirst, hrest]

/-! ## Names derived from themselves -/

/-- Each capital takes one more character. -/
theorem length_underscoreTail (hascii : ∀ c ∈ cs, c.isAscii = true) :
    (underscoreTail cs).length = cs.length + cs.countP Char.isUpper := by
  induction cs with
  | nil => rfl
  | cons c cs ih =>
    obtain ⟨hc, hcs⟩ := List.forall_mem_cons.1 hascii
    have hrest := ih hcs
    cases hup : c.isUpper with
    | true =>
      rw [underscoreTail_upper cs hup, List.countP_cons, hup]
      simp only [List.length_cons, if_true]
      omega
    | false =>
      rw [underscoreTail_other cs hc hup, List.countP_cons, hup]
      simp only [List.length_cons, Bool.false_eq_true, if_false]
      omega

theorem underscoreTail_eq_self_iff (hascii : ∀ c ∈ cs, c.isAscii = true) :
    underscoreTail cs = cs ↔ ∀ c ∈ cs, c.isUpper = false := by
  constructor
  · intro h c hc
    have hlength := length_underscoreTail hascii
    rw [h] at hlength
    have hnone : cs.countP Char.isUpper = 0 := by omega
    exact Bool.eq_false_iff.2 (List.countP_eq_zero.1 hnone c hc)
  · intro h
    induction cs with
    | nil => rfl
    | cons c cs ih =>
      obtain ⟨hc, hcs⟩ := List.forall_mem_cons.1 hascii
      obtain ⟨hup, hups⟩ := List.forall_mem_cons.1 h
      rw [underscoreTail_other cs hc hup, ih hcs hups]

/-- **A name is left as it is exactly if it has no capital.** -/
theorem underscore_eq_self_iff (h : Ascii name) :
    underscore name = name ↔ ∀ c ∈ name.toList, c.isUpper = false := by
  rw [← String.toList_inj, toList_underscore h]
  unfold Ascii at h
  cases hname : name.toList with
  | nil => exact iff_of_true rfl (List.forall_mem_nil _)
  | cons c cs =>
    rw [hname, List.forall_mem_cons] at h
    show c.toLower :: underscoreTail cs = c :: cs ↔ _
    rw [List.cons_eq_cons, List.forall_mem_cons, toLower_eq_self_iff,
      underscoreTail_eq_self_iff h.2]

/-- No capital is left. -/
theorem lower_of_mem_underscoreTail (hascii : ∀ c ∈ cs, c.isAscii = true) :
    ∀ d ∈ underscoreTail cs, d.isAscii = true ∧ d.isUpper = false := by
  induction cs with
  | nil => exact List.forall_mem_nil _
  | cons c cs ih =>
    obtain ⟨hc, hcs⟩ := List.forall_mem_cons.1 hascii
    cases hup : c.isUpper with
    | true =>
      rw [underscoreTail_upper cs hup]
      have hlower := And.intro (isAscii_toLower hc) (isUpper_toLower c)
      exact List.forall_mem_cons.2 ⟨by decide, List.forall_mem_cons.2 ⟨hlower, ih hcs⟩⟩
    | false =>
      rw [underscoreTail_other cs hc hup]
      exact List.forall_mem_cons.2 ⟨⟨hc, hup⟩, ih hcs⟩

theorem lower_of_mem_underscore (h : Ascii name) :
    ∀ d ∈ (underscore name).toList, d.isAscii = true ∧ d.isUpper = false := by
  intro d hd
  rw [toList_underscore h, List.mem_append, Option.mem_toList, Option.map_eq_some_iff] at hd
  rcases hd with ⟨c, hc, rfl⟩ | hd
  · have hascii := h c (List.mem_of_mem_head? hc)
    exact ⟨isAscii_toLower hascii, isUpper_toLower c⟩
  · exact lower_of_mem_underscoreTail (fun c hc => h c (List.mem_of_mem_tail hc)) d hd

/-- **Derived names are left as they are.** -/
theorem underscore_underscore (h : Ascii name) :
    underscore (underscore name) = underscore name := by
  have hlower := lower_of_mem_underscore h
  have hascii : Ascii (underscore name) := fun c hc => (hlower c hc).1
  exact (underscore_eq_self_iff hascii).2 fun c hc => (hlower c hc).2

/-! ## Columns called after fields -/

namespace Model

variable {e : Entity} {specs : List FieldSpec} {columns : List String}

theorem names_untagged_iff {f : FieldSpec} (h : f.tag = "") {column : String} :
    f.Names column ↔ column = underscore f.name := by
  have hcolumn : columnOf f = .ok (underscore f.name) := by
    rw [columnOf, h, Tag.parse_empty]
    rfl
  rw [← columnOf_ok, hcolumn]
  exact ⟨fun heq => (Except.ok.inj heq).symm, fun heq => heq ▸ rfl⟩

theorem forall₂_names_untagged_iff (h : ∀ f ∈ specs, f.tag = "") :
    List.Forall₂ FieldSpec.Names specs columns ↔
      columns = (specs.map FieldSpec.name).map underscore := by
  induction specs generalizing columns with
  | nil => exact List.forall₂_nil_left_iff
  | cons f specs ih =>
    obtain ⟨hf, hrest⟩ := List.forall_mem_cons.1 h
    simp only [List.forall₂_cons_left_iff, names_untagged_iff hf, ih hrest, List.map_cons]
    constructor
    · rintro ⟨_, _, rfl, rfl, h⟩
      exact h
    · exact fun h => ⟨_, _, rfl, rfl, h⟩

/-- **Fields that leave their columns to their names must differ in more than the case of the first
character.** -/
theorem parse_untagged_iff (hshape : e.shape = .named)
    (h : ∀ f ∈ e.fields, f.tag = "" ∧ Camel f.name) :
    (∃ m, parse e = .ok m) ↔ e.fields.Pairwise fun f g => ¬ SameWords f.name g.name := by
  have htags : ∀ f ∈ e.fields, f.tag = "" := fun f hf => (h f hf).1
  -- equal names have equal columns, so that the columns decide
  have hcolumns : (∃ m, parse e = .ok m) ↔
      ((e.fields.map FieldSpec.name).map underscore).Nodup := by
    constructor
    · rintro ⟨m, hm⟩
      obtain ⟨hnames, -, hnodup⟩ := (parse_columns_iff hshape).1 ⟨m, hm, rfl⟩
      rwa [(forall₂_names_untagged_iff htags).1 hnames] at hnodup
    · intro hnodup
      have hnames := (forall₂_names_untagged_iff htags).2 rfl
      obtain ⟨m, hm, -⟩ := (parse_columns_iff hshape).2
        ⟨hnames, hnodup.of_map underscore, hnodup⟩
      exact ⟨m, hm⟩
  rw [hcolumns, List.map_map, List.Nodup, List.pairwise_map]
  apply List.Pairwise.iff_of_mem
  intro f g hf hg
  exact not_congr (underscore_eq_iff (h f hf).2 (h g hg).2)

end Model

/-- **Derived names are as different as the names that they come from.** Names in ASCII without
underscores give the same name exactly if they are equal up to the case of their first character. A
name in ASCII is left as it is exactly if it has no capital, and what is derived from it is left as
it is. A record type whose fields leave their columns to names without underscores has a model
exactly if no two of them are the same words. -/
theorem underscore_tells_apart :
    (∀ a b, Camel a → Camel b → (underscore a = underscore b ↔ SameWords a b)) ∧
      (∀ name, Ascii name →
        (underscore name = name ↔ ∀ c ∈ name.toList, c.isUpper = false) ∧
          underscore (underscore name) = underscore name) ∧
      ∀ e : Entity, e.shape = .named → (∀ f ∈ e.fields, f.tag = "" ∧ Camel f.name) →
        ((∃ m, Model.parse e = .ok m) ↔
          e.fields.Pairwise fun f g => ¬ SameWords f.name g.name) := by
  refine ⟨?_, ?_, ?_⟩
  · exact fun a b ha hb => underscore_eq_iff ha hb
  · exact fun name h => ⟨underscore_eq_self_iff h, underscore_underscore h⟩
  · exact fun e hshape h => Model.parse_untagged_iff hshape h

namespace Sample

/-- A record type whose fields have names of the same letters. -/
def lettered : Entity :=
  ⟨"sample::Lettered", "Lettered", "", .named,
    [⟨"ID1a", .int .i64, "", .plain⟩, ⟨"Id1A", .text, "", .plain⟩, ⟨"iD1A", .bool, "", .plain⟩,
      ⟨"", .text, "", .plain⟩],
    .map⟩

end Sample

open Sample (lettered)

theorem underscore_tells_apart_lettered :
    (Camel "ID1a" ∧ Camel "iD1a" ∧ Camel "Id1A" ∧ underscore "ID1a" = underscore "iD1a" ∧
        underscore "ID1a" ≠ underscore "Id1A") ∧
      (Ascii "A_bC" ∧ Ascii "_a__1" ∧ underscore "A_bC" ≠ "A_bC" ∧ underscore "_a__1" = "_a__1" ∧
        underscore (underscore "A_bC") = underscore "A_bC") ∧
      lettered.shape = .named ∧ (∀ f ∈ lettered.fields, f.tag = "" ∧ Camel f.name) ∧
        ∃ m, Model.parse lettered = .ok m := by
  obtain ⟨happart, hkept, hmodel⟩ := underscore_tells_apart
  have hall : Camel "ID1a" := by decide
  have hfirst : Camel "iD1a" := by decide
  have hlast : Camel "Id1A" := by decide
  have hmixed : Ascii "A_bC" := by decide
  have hplain : Ascii "_a__1" := by decide
  have hfields : ∀ f ∈ lettered.fields, f.tag = "" ∧ Camel f.name := by decide
  refine ⟨⟨hall, hfirst, hlast, ?_, ?_⟩, ⟨hmixed, hplain, ?_, ?_, ?_⟩, rfl, hfields, ?_⟩
  · exact (happart _ _ hall hfirst).2 (by decide)
  · exact fun h => absurd ((happart _ _ hall hlast).1 h) (by decide)
  · exact fun h => absurd ((hkept _ hmixed).1.1 h 'C' (by decide)) (by decide)
  · exact (hkept _ hplain).1.2 (by simp)
  · exact (hkept _ hmixed).2
  · exact (hmodel _ rfl hfields).2 (by decide)

/-- Names with an underscore or with a letter past ASCII may share their derived name. -/
example : underscore "firstName" = underscore "first_name" ∧
    underscore "inK" = underscore "in\u212A" := by decide +kernel

end RecordSql
