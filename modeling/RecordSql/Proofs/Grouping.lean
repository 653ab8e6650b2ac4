import RecordSql.Proofs.Outline

/-!
# The text shows the grouping

The text of a condition and that of a join, with the arguments, can be read in one way only.

* `Identifier.append_inj`: an identifier ends at its last quote.
* `Outline.unique`: a condition ends at the end of the text or before a parenthesis.
* `JoinOutline.spell_append_inj`: a join ends with its parenthesis, and a table before its alias.
* `Scope.grouping_unambiguous`: **conditions and joins with the same text and the same arguments
  have the same outline.**
-/

namespace RecordSql

open Sql

/-- A character stands behind the first part of a text that does not have it. -/
theorem append_cons_inj {c : Char} {a b r t : List Char} (ha : c ∉ a) (hb : c ∉ b)
    (h : a ++ c :: r = b ++ c :: t) : a = b ∧ r = t := by
  induction a generalizing b with
  | nil =>
    cases b with
    | nil => exact ⟨rfl, (List.cons.inj h).2⟩
    | cons y b => exact absurd ((List.cons.inj h).1 ▸ List.mem_cons_self) hb
  | cons x a ih =>
    cases b with
    | nil => exact absurd ((List.cons.inj h).1 ▸ List.mem_cons_self) ha
    | cons y b =>
      obtain ⟨rfl, hrest⟩ := List.cons.inj h
      obtain ⟨rfl, rfl⟩ := ih (fun hm => ha (List.mem_cons_of_mem _ hm))
        (fun hm => hb (List.mem_cons_of_mem _ hm)) hrest
      exact ⟨rfl, rfl⟩

theorem quoted_append_inj {x y : String} {r t : List Char} (hx : '\x60' ∉ x.toList)
    (hy : '\x60' ∉ y.toList) (h : quoted x ++ r = quoted y ++ t) : x = y ∧ r = t := by
  simp only [quoted, List.cons_append, List.append_assoc, List.nil_append, List.cons.injEq,
    true_and] at h
  obtain ⟨hname, hrest⟩ := append_cons_inj hx hy h
  exact ⟨String.toList_inj.1 hname, hrest⟩

/-- No dot is at the start: what is before it does not go on. -/
def Undotted (r : List Char) : Prop := ∀ u, r ≠ '.' :: u

theorem undotted_cons {c : Char} {r : List Char} (hc : c ≠ '.') : Undotted (c :: r) := by
  intro u h
  exact hc (List.cons.inj h).1

/-- **An identifier ends at its last quote**, unless a dot is behind it. -/
theorem Identifier.append_inj {a b r t : List Char} (ha : Identifier a) (hb : Identifier b)
    (hr : Undotted r) (ht : Undotted t) (h : a ++ r = b ++ t) : a = b ∧ r = t := by
  cases ha with
  | alone hx =>
    cases hb with
    | alone hy =>
      obtain ⟨rfl, rfl⟩ := quoted_append_inj hx hy h
      exact ⟨rfl, rfl⟩
    | behind hu _ =>
      -- the first names would be the same, and a dot would be behind the one that is alone
      rw [List.append_assoc] at h
      exact absurd (quoted_append_inj hx hu h).2 (hr _)
  | behind hu hx =>
    rw [List.append_assoc] at h
    cases hb with
    | alone hy => exact absurd (quoted_append_inj hu hy h).2.symm (ht _)
    | behind hv hy =>
      rw [List.append_assoc] at h
      obtain ⟨rfl, hrest⟩ := quoted_append_inj hu hv h
      obtain ⟨rfl, rfl⟩ := quoted_append_inj hx hy (List.cons.inj hrest).2
      exact ⟨rfl, rfl⟩

/-! ## Words -/

theorem AggregateFn.name_append_inj {f g : AggregateFn} {r t : List Char}
    (h : f.name.toList ++ '(' :: r = g.name.toList ++ '(' :: t) : f = g ∧ r = t := by
  have hopen : ∀ k : AggregateFn, '(' ∉ k.name.toList := by
    intro k
    cases k <;> decide
  obtain ⟨hname, hrest⟩ := append_cons_inj (hopen f) (hopen g) h
  refine ⟨?_, hrest⟩
  revert hname
  cases f <;> cases g <;> decide

theorem Comparison.name_append_inj {o q : Comparison} {r t : List Char}
    (h : ' ' :: (o.name.toList ++ ' ' :: r) = ' ' :: (q.name.toList ++ ' ' :: t)) :
    o = q ∧ r = t := by
  have hspace : ∀ k : Comparison, ' ' ∉ k.name.toList := by
    intro k
    cases k <;> decide
  obtain ⟨hname, hrest⟩ := append_cons_inj (hspace o) (hspace q) (List.cons.inj h).2
  refine ⟨?_, hrest⟩
  revert hname
  cases o <;> cases q <;> decide

theorem JoinKind.name_append_inj {k l : JoinKind} {r t : List Char}
    (h : ' ' :: (k.name.toList ++ ' ' :: r) = ' ' :: (l.name.toList ++ ' ' :: t)) :
    k = l ∧ r = t := by
  -- two of the names have a blank inside, but all three have different first letters
  cases k <;> cases l <;> simp_all [name]

/-! ## Terms and operands -/

/-- The end of the text or a closing parenthesis. -/
def Closed (r : List Char) : Prop := ∀ c u, r = c :: u → c = ')'

theorem Closed.undotted {r : List Char} (h : Closed r) : Undotted r := by
  intro u hu
  exact absurd (h '.' u hu) (by decide)

theorem Closed.ne_cons {c : Char} {r u : List Char} (h : Closed r) (hc : c ≠ ')') : r ≠ c :: u :=
  fun hr => hc (h c u hr)

@[simp] theorem closed_cons {r : List Char} : Closed (')' :: r) := by
  intro c u h
  exact (List.cons.inj h).1.symm

/-- The characters that identifiers and aggregates start with. -/
def termLeads : List Char := ['\x60', 'A', 'M', 'C', 'S']

theorem Identifier.lead {a : List Char} (ha : Identifier a) : ∃ u, a = '\x60' :: u := by
  cases ha with
  | alone _ => exact ⟨_, rfl⟩
  | behind _ _ => exact ⟨_, rfl⟩

theorem AggregateFn.lead (f : AggregateFn) : ∃ c ∈ termLeads.tail, ∃ u, f.name.toList = c :: u := by
  cases f with
  | avg => exact ⟨'A', by decide, _, rfl⟩
  | max => exact ⟨'M', by decide, _, rfl⟩
  | min => exact ⟨'M', by decide, _, rfl⟩
  | count => exact ⟨'C', by decide, _, rfl⟩
  | sum => exact ⟨'S', by decide, _, rfl⟩

theorem Atom.lead {a : Atom} (ha : a.Readable) : ∃ c ∈ termLeads, ∃ u, a.spell = c :: u := by
  cases a with
  | column name =>
    obtain ⟨u, hu⟩ := Identifier.lead ha
    exact ⟨_, List.mem_cons_self, u, hu⟩
  | aggregate fn name =>
    obtain ⟨c, hc, u, hu⟩ := fn.lead
    exact ⟨c, List.mem_of_mem_tail hc, u ++ enclosed name.toList, by simp [Atom.spell, hu]⟩

/-- A term starts with none of the other characters. -/
theorem Atom.spell_ne_cons {a : Atom} {c : Char} {r u : List Char} (ha : a.Readable)
    (hc : c ∉ termLeads) : a.spell ++ r ≠ c :: u := by
  obtain ⟨d, hd, v, hv⟩ := Atom.lead ha
  rw [hv]
  intro h
  exact hc ((List.cons.inj h).1 ▸ hd)

theorem Atom.spell_append_inj {a b : Atom} {r t : List Char} (ha : a.Readable) (hb : b.Readable)
    (hr : Undotted r) (ht : Undotted t) (h : a.spell ++ r = b.spell ++ t) : a = b ∧ r = t := by
  cases a with
  | column x =>
    cases b with
    | column y =>
      obtain ⟨hname, hrest⟩ := Identifier.append_inj ha hb hr ht h
      rw [String.toList_inj.1 hname]
      exact ⟨rfl, hrest⟩
    | aggregate g y =>
      obtain ⟨u, hu⟩ := Identifier.lead ha
      obtain ⟨c, hc, v, hv⟩ := g.lead
      simp only [Atom.spell, hu, hv] at h
      rw [← (List.cons.inj h).1] at hc
      exact absurd hc (by decide)
  | aggregate f x =>
    cases b with
    | column y =>
      obtain ⟨u, hu⟩ := Identifier.lead hb
      obtain ⟨c, hc, v, hv⟩ := f.lead
      simp only [Atom.spell, hu, hv] at h
      rw [(List.cons.inj h).1] at hc
      exact absurd hc (by decide)
    | aggregate g y =>
      simp only [Atom.spell, enclosed, List.append_assoc, List.cons_append] at h
      obtain ⟨rfl, hrest⟩ := AggregateFn.name_append_inj h
      obtain ⟨hname, hrest⟩ :=
        Identifier.append_inj ha hb (undotted_cons (by decide)) (undotted_cons (by decide)) hrest
      rw [String.toList_inj.1 hname]
      exact ⟨rfl, (List.cons.inj hrest).2⟩

theorem Side.spell_append_inj {a b : Side} {r t : List Char} {v w : List Value}
    (ha : a.Readable) (hb : b.Readable) (hr : Closed r) (ht : Closed t)
    (h : a.spell ++ r = b.spell ++ t) (hargs : a.args ++ v = b.args ++ w) :
    a = b ∧ r = t ∧ v = w := by
  cases a with
  | atom x =>
    cases b with
    | atom y =>
      obtain ⟨rfl, hrest⟩ := Atom.spell_append_inj ha hb hr.undotted ht.undotted h
      exact ⟨rfl, hrest, hargs⟩
    | value y => exact absurd h (Atom.spell_ne_cons ha (by decide))
    | raw y => cases hb
  | value x =>
    cases b with
    | atom y => exact absurd h.symm (Atom.spell_ne_cons hb (by decide))
    | value y =>
      obtain ⟨rfl, rfl⟩ := List.cons.inj hargs
      exact ⟨rfl, (List.cons.inj h).2, rfl⟩
    | raw y => cases hb
  | raw x => cases ha

/-- A side does not start with a parenthesis. -/
theorem Side.spell_ne_open {a : Side} {r u : List Char} (ha : a.Readable) :
    a.spell ++ r ≠ '(' :: u := by
  cases a with
  | atom x => exact Atom.spell_ne_cons ha (by decide)
  | value x =>
    intro h
    exact absurd (List.cons.inj h).1 (by decide)
  | raw x => cases ha

/-! ## Conditions -/

/-- How a condition starts: with a term, with a condition in parentheses, or with a word. -/
inductive Start where
  | term
  | group
  | word
  | fragment
deriving DecidableEq

def Start.of (c : Char) : Start := if c = '(' then .group else if c = 'N' then .word else .term

namespace Outline

def start : Outline → Start
  | .holds _ | .compare _ _ _ | .compareTruth _ _ _ => .term
  | .and _ _ | .or _ _ => .group
  | .not _ => .word
  | .raw _ => .fragment

theorem start_of_termLeads {c : Char} (hc : c ∈ termLeads) : Start.of c = .term := by
  simp only [termLeads, List.mem_cons, List.not_mem_nil, or_false] at hc
  rcases hc with rfl | rfl | rfl | rfl | rfl <;> rfl

/-- The first character tells how a condition starts. -/
theorem lead {n : Outline} (hn : n.Readable) : ∃ c u, n.spell = c :: u ∧ n.start = Start.of c := by
  cases n with
  | holds a =>
    obtain ⟨c, hc, u, hu⟩ := Atom.lead hn
    exact ⟨c, u, hu, (start_of_termLeads hc).symm⟩
  | compare op l r =>
    obtain ⟨c, hc, u, hu⟩ := Atom.lead hn.1
    exact ⟨c, _, by rw [spell, hu, List.cons_append], (start_of_termLeads hc).symm⟩
  | compareTruth op l r =>
    obtain ⟨c, hc, u, hu⟩ := Atom.lead hn.1
    exact ⟨c, _, by rw [spell, hu, List.cons_append], (start_of_termLeads hc).symm⟩
  | and l r => exact ⟨'(', _, rfl, rfl⟩
  | or l r => exact ⟨'(', _, rfl, rfl⟩
  | not p => exact ⟨'N', _, rfl, rfl⟩
  | raw r => cases hn

theorem start_eq {n k : Outline} {r t : List Char} (hn : n.Readable) (hk : k.Readable)
    (h : n.spell ++ r = k.spell ++ t) : n.start = k.start := by
  obtain ⟨c, u, hu, hc⟩ := lead hn
  obtain ⟨d, v, hv, hd⟩ := lead hk
  rw [hu, hv] at h
  rw [hc, hd, (List.cons.inj h).1]

theorem spell_and_append (l r : Outline) (t : List Char) :
    (and l r).spell ++ t = '(' :: (l.spell ++ ')' :: ' ' :: 'A' :: 'N' :: 'D' :: ' ' :: '(' ::
      (r.spell ++ ')' :: t)) := by
  simp [spell, enclosed]

theorem spell_or_append (l r : Outline) (t : List Char) :
    (or l r).spell ++ t = '(' :: (l.spell ++ ')' :: ' ' :: 'O' :: 'R' :: ' ' :: '(' ::
      (r.spell ++ ')' :: t)) := by
  simp [spell, enclosed]

theorem spell_not_append (p : Outline) (t : List Char) :
    (not p).spell ++ t = 'N' :: 'O' :: 'T' :: ' ' :: '(' :: (p.spell ++ ')' :: t) := by
  simp [spell, enclosed]

theorem spell_compare_append (op : Comparison) (l : Atom) (r : Side) (t : List Char) :
    (compare op l r).spell ++ t = l.spell ++ ' ' :: (op.name.toList ++ ' ' :: (r.spell ++ t)) := by
  simp [spell]

theorem spell_compareTruth_append (op : Comparison) (l : Atom) (r : Outline) (t : List Char) :
    (compareTruth op l r).spell ++ t =
      l.spell ++ ' ' :: (op.name.toList ++ ' ' :: '(' :: (r.spell ++ ')' :: t)) := by
  simp [spell, enclosed]

/-- No other condition is written as `n` is, with the same arguments, whatever stands behind. -/
def Unique (n : Outline) : Prop :=
  ∀ ⦃k : Outline⦄ ⦃r t : List Char⦄ ⦃v w : List Value⦄, n.Readable → k.Readable → Closed r →
    Closed t → n.spell ++ r = k.spell ++ t → n.args ++ v = k.args ++ w → n = k ∧ r = t ∧ v = w

theorem undotted_blank {u : List Char} : Undotted (' ' :: u) := undotted_cons (by decide)

theorem holds_unique (a : Atom) : (holds a).Unique := by
  intro k r t v w hn hk hr ht h hargs
  have hstart := start_eq hn hk h
  cases k with
  | holds b =>
    obtain ⟨rfl, hrest⟩ := Atom.spell_append_inj hn hk hr.undotted ht.undotted h
    exact ⟨rfl, hrest, hargs⟩
  | compare op l x =>
    rw [spell_compare_append] at h
    exact absurd (Atom.spell_append_inj hn hk.1 hr.undotted undotted_blank h).2
      (hr.ne_cons (by decide))
  | compareTruth op l x =>
    rw [spell_compareTruth_append] at h
    exact absurd (Atom.spell_append_inj hn hk.1 hr.undotted undotted_blank h).2
      (hr.ne_cons (by decide))
  | _ => cases hstart

theorem compare_unique (op : Comparison) (l : Atom) (x : Side) : (compare op l x).Unique := by
  intro k r t v w hn hk hr ht h hargs
  have hstart := start_eq hn hk h
  rw [spell_compare_append] at h
  cases k with
  | holds b =>
    exact absurd (Atom.spell_append_inj hn.1 hk undotted_blank ht.undotted h).2.symm
      (ht.ne_cons (by decide))
  | compare op' l' x' =>
    rw [spell_compare_append] at h
    obtain ⟨rfl, hop⟩ := Atom.spell_append_inj hn.1 hk.1 undotted_blank undotted_blank h
    obtain ⟨rfl, hside⟩ := Comparison.name_append_inj hop
    obtain ⟨rfl, rfl, rfl⟩ := Side.spell_append_inj hn.2 hk.2 hr ht hside hargs
    exact ⟨rfl, rfl, rfl⟩
  | compareTruth op' l' x' =>
    rw [spell_compareTruth_append] at h
    obtain ⟨rfl, hop⟩ := Atom.spell_append_inj hn.1 hk.1 undotted_blank undotted_blank h
    exact absurd (Comparison.name_append_inj hop).2 (Side.spell_ne_open hn.2)
  | _ => cases hstart

theorem compareTruth_unique {op : Comparison} {l : Atom} {x : Outline} (ih : x.Unique) :
    (compareTruth op l x).Unique := by
  intro k r t v w hn hk hr ht h hargs
  have hstart := start_eq hn hk h
  rw [spell_compareTruth_append] at h
  cases k with
  | holds b =>
    exact absurd (Atom.spell_append_inj hn.1 hk undotted_blank ht.undotted h).2.symm
      (ht.ne_cons (by decide))
  | compare op' l' x' =>
    rw [spell_compare_append] at h
    obtain ⟨rfl, hop⟩ := Atom.spell_append_inj hn.1 hk.1 undotted_blank undotted_blank h
    exact absurd (Comparison.name_append_inj hop).2.symm (Side.spell_ne_open hk.2)
  | compareTruth op' l' x' =>
    rw [spell_compareTruth_append] at h
    obtain ⟨rfl, hop⟩ := Atom.spell_append_inj hn.1 hk.1 undotted_blank undotted_blank h
    obtain ⟨rfl, hopen⟩ := Comparison.name_append_inj hop
    obtain ⟨rfl, hclose, rfl⟩ :=
      ih hn.2 hk.2 closed_cons closed_cons (List.cons.inj hopen).2 hargs
    exact ⟨rfl, (List.cons.inj hclose).2, rfl⟩
  | _ => cases hstart

/-- Two conditions in parentheses with a word between them can be read in one way. -/
theorem pair_inj (word : List Char) {a b a' b' : Outline} {r t : List Char} {v w : List Value}
    (iha : a.Unique) (ihb : b.Unique) (hn : a.Readable ∧ b.Readable)
    (hk : a'.Readable ∧ b'.Readable)
    (h : a.spell ++ ')' :: (word ++ '(' :: (b.spell ++ ')' :: r)) =
      a'.spell ++ ')' :: (word ++ '(' :: (b'.spell ++ ')' :: t)))
    (hargs : a.args ++ (b.args ++ v) = a'.args ++ (b'.args ++ w)) :
    a = a' ∧ b = b' ∧ r = t ∧ v = w := by
  obtain ⟨rfl, hword, hright⟩ := iha hn.1 hk.1 closed_cons closed_cons h hargs
  have hopen := List.append_cancel_left (List.cons.inj hword).2
  obtain ⟨rfl, hclose, rfl⟩ :=
    ihb hn.2 hk.2 closed_cons closed_cons (List.cons.inj hopen).2 hright
  exact ⟨rfl, rfl, (List.cons.inj hclose).2, rfl⟩

theorem and_unique {a b : Outline} (iha : a.Unique) (ihb : b.Unique) : (and a b).Unique := by
  intro k r t v w hn hk hr ht h hargs
  have hstart := start_eq hn hk h
  rw [spell_and_append] at h
  simp only [args, List.append_assoc] at hargs
  cases k with
  | and a' b' =>
    rw [spell_and_append] at h
    simp only [args, List.append_assoc] at hargs
    obtain ⟨rfl, rfl, rfl, rfl⟩ :=
      pair_inj " AND ".toList iha ihb hn hk (List.cons.inj h).2 hargs
    exact ⟨rfl, rfl, rfl⟩
  | or a' b' =>
    -- the left sides are the same, so the words behind them would be
    rw [spell_or_append] at h
    simp only [args, List.append_assoc] at hargs
    obtain ⟨-, hword, -⟩ := iha hn.1 hk.1 closed_cons closed_cons (List.cons.inj h).2 hargs
    simp at hword
  | _ => cases hstart

theorem or_unique {a b : Outline} (iha : a.Unique) (ihb : b.Unique) : (or a b).Unique := by
  intro k r t v w hn hk hr ht h hargs
  have hstart := start_eq hn hk h
  rw [spell_or_append] at h
  simp only [args, List.append_assoc] at hargs
  cases k with
  | or a' b' =>
    rw [spell_or_append] at h
    simp only [args, List.append_assoc] at hargs
    obtain ⟨rfl, rfl, rfl, rfl⟩ :=
      pair_inj " OR ".toList iha ihb hn hk (List.cons.inj h).2 hargs
    exact ⟨rfl, rfl, rfl⟩
  | and a' b' =>
    rw [spell_and_append] at h
    simp only [args, List.append_assoc] at hargs
    obtain ⟨-, hword, -⟩ := iha hn.1 hk.1 closed_cons closed_cons (List.cons.inj h).2 hargs
    simp at hword
  | _ => cases hstart

theorem not_unique {p : Outline} (ih : p.Unique) : (not p).Unique := by
  intro k r t v w hn hk hr ht h hargs
  have hstart := start_eq hn hk h
  rw [spell_not_append] at h
  cases k with
  | not q =>
    rw [spell_not_append] at h
    have hk : q.Readable := hk
    simp only [List.cons.injEq, true_and] at h
    obtain ⟨rfl, hclose, rfl⟩ := ih hn hk closed_cons closed_cons h hargs
    exact ⟨rfl, (List.cons.inj hclose).2, rfl⟩
  | _ => cases hstart

/-- **A condition ends at the end of the text or before a parenthesis**, and no other is written
like it. -/
theorem unique (n : Outline) : n.Unique := by
  induction n with
  | holds a => exact holds_unique a
  | raw r =>
    intro k r t v w hn
    cases hn
  | compare op l x => exact compare_unique op l x
  | compareTruth op l x ih => exact compareTruth_unique ih
  | and a b iha ihb => exact and_unique iha ihb
  | or a b iha ihb => exact or_unique iha ihb
  | not p ih => exact not_unique ih

end Outline

/-! ## Joins -/

theorem quotedList_append_inj {cs ds : List String} {r t : List Char}
    (hc : ∀ c ∈ cs, '\x60' ∉ c.toList) (hd : ∀ d ∈ ds, '\x60' ∉ d.toList)
    (h : quotedList cs ++ ')' :: r = quotedList ds ++ ')' :: t) : cs = ds ∧ r = t := by
  induction cs generalizing ds with
  | nil =>
    match ds with
    | [] => exact ⟨rfl, (List.cons.inj h).2⟩
    | [d] => exact absurd (List.cons.inj h).1 (by decide)
    | d :: e :: ds => exact absurd (List.cons.inj h).1 (by decide)
  | cons c cs ih =>
    have hcq : '\x60' ∉ c.toList := hc c List.mem_cons_self
    cases ds with
    | nil => cases cs <;> exact absurd (List.cons.inj h).1 (by decide)
    | cons d ds =>
      have hdq : '\x60' ∉ d.toList := hd d List.mem_cons_self
      -- a comma or a parenthesis behind the first name tells whether there is another
      match cs, ds with
      | [], [] =>
        obtain ⟨rfl, hrest⟩ := quoted_append_inj hcq hdq h
        exact ⟨rfl, (List.cons.inj hrest).2⟩
      | [], e :: ds =>
        simp only [quotedList, List.append_assoc, List.cons_append] at h
        obtain ⟨-, hrest⟩ := quoted_append_inj hcq hdq h
        exact absurd (List.cons.inj hrest).1 (by decide)
      | b :: cs, [] =>
        simp only [quotedList, List.append_assoc, List.cons_append] at h
        obtain ⟨-, hrest⟩ := quoted_append_inj hcq hdq h
        exact absurd (List.cons.inj hrest).1 (by decide)
      | b :: cs, e :: ds =>
        simp only [quotedList, List.append_assoc, List.cons_append] at h
        obtain ⟨rfl, hrest⟩ := quoted_append_inj hcq hdq h
        obtain ⟨htail, rfl⟩ := ih (fun x hx => hc x (List.mem_cons_of_mem _ hx))
          (fun x hx => hd x (List.mem_cons_of_mem _ hx)) (List.cons.inj hrest).2
        rw [htail]
        exact ⟨rfl, rfl⟩

namespace Matching

theorem spell_using_append (cs : List String) (t : List Char) :
    («using» cs).spell ++ t =
      ' ' :: 'U' :: 'S' :: 'I' :: 'N' :: 'G' :: ' ' :: '(' :: (quotedList cs ++ ')' :: t) := by
  simp [enclosed]

theorem spell_on_append (p : Outline) (t : List Char) :
    (on p).spell ++ t = ' ' :: 'O' :: 'N' :: ' ' :: (p.spell ++ t) := by
  simp

/-- The condition of a join ends before the join's parenthesis. -/
theorem spell_append_inj {n k : Matching} {r t : List Char} {v w : List Value} (hn : n.Readable)
    (hk : k.Readable) (h : n.spell ++ ')' :: r = k.spell ++ ')' :: t)
    (hargs : n.args ++ v = k.args ++ w) : n = k ∧ r = t ∧ v = w := by
  cases n with
  | everything =>
    cases k with
    | everything => exact ⟨rfl, (List.cons.inj h).2, hargs⟩
    | «using» ds =>
      rw [spell_using_append] at h
      exact absurd (List.cons.inj h).1 (by decide)
    | on q =>
      rw [spell_on_append] at h
      exact absurd (List.cons.inj h).1 (by decide)
  | «using» cs =>
    rw [spell_using_append] at h
    cases k with
    | everything => exact absurd (List.cons.inj h).1 (by decide)
    | «using» ds =>
      rw [spell_using_append] at h
      simp only [List.cons.injEq, true_and] at h
      obtain ⟨rfl, hclose⟩ := quotedList_append_inj hn hk h
      exact ⟨rfl, (List.cons.inj hclose).2, hargs⟩
    | on q =>
      rw [spell_on_append] at h
      simp at h
  | on p =>
    rw [spell_on_append] at h
    cases k with
    | everything => exact absurd (List.cons.inj h).1 (by decide)
    | «using» ds =>
      rw [spell_using_append] at h
      simp at h
    | on q =>
      rw [spell_on_append] at h
      simp only [List.cons.injEq, true_and] at h
      obtain ⟨rfl, hclose, rfl⟩ := p.unique hn hk closed_cons closed_cons h hargs
      exact ⟨rfl, (List.cons.inj hclose).2, rfl⟩

end Matching

namespace JoinOutline

/-- No alias is at the start: a table before it does not go on. -/
def Unaliased (r : List Char) : Prop := ∀ u, r ≠ ' ' :: 'A' :: u

theorem unaliased_kind (kind : JoinKind) (u : List Char) :
    Unaliased (' ' :: (kind.name.toList ++ u)) := by
  intro v h
  cases kind <;> simp [JoinKind.name] at h

theorem unaliased_matching (c : Matching) (u : List Char) : Unaliased (c.spell ++ ')' :: u) := by
  intro v h
  cases c with
  | everything => exact absurd (List.cons.inj h).1 (by decide)
  | «using» cs => simp at h
  | on p => simp at h

theorem spell_join_append (kind : JoinKind) (l r : JoinOutline) (c : Matching) (t : List Char) :
    (join kind l r c).spell ++ t = '(' :: (l.spell ++ ' ' :: (kind.name.toList ++ ' ' ::
      (r.spell ++ (c.spell ++ ')' :: t)))) := by
  simp [spell, enclosed]

/-- An alias behind the name of a table or of a column, if there is one. -/
def aliasText (a : Option String) : List Char :=
  a.elim [] fun n => ' ' :: 'A' :: 'S' :: ' ' :: quoted n

theorem aliasText_append_inj {a b : Option String} {r t : List Char}
    (ha : ∀ n ∈ a, '\x60' ∉ n.toList) (hb : ∀ n ∈ b, '\x60' ∉ n.toList) (hr : Unaliased r)
    (ht : Unaliased t) (h : aliasText a ++ r = aliasText b ++ t) : a = b ∧ r = t := by
  -- an alias on one side only would start what is behind the other
  cases a with
  | none =>
    cases b with
    | none => exact ⟨rfl, h⟩
    | some n => exact absurd h (hr _)
  | some m =>
    cases b with
    | none => exact absurd h.symm (ht _)
    | some n =>
      simp only [aliasText, Option.elim_some, List.cons_append, List.cons.injEq, true_and] at h
      obtain ⟨rfl, rfl⟩ := quoted_append_inj (ha m rfl) (hb n rfl) h
      exact ⟨rfl, rfl⟩

theorem spell_table_append (name : String) (a : Option String) (t : List Char) :
    (table name a).spell ++ t = quoted name ++ (aliasText a ++ t) := by
  cases a with
  | none => rfl
  | some n => simp [spell, aliasText]

theorem table_append_inj {x y : String} {a b : Option String} {r t : List Char}
    (hx : (table x a).Readable) (hy : (table y b).Readable) (hr : Unaliased r) (ht : Unaliased t)
    (h : (table x a).spell ++ r = (table y b).spell ++ t) : x = y ∧ a = b ∧ r = t := by
  rw [spell_table_append, spell_table_append] at h
  obtain ⟨rfl, hrest⟩ := quoted_append_inj hx.1 hy.1 h
  obtain ⟨rfl, rfl⟩ := aliasText_append_inj hx.2 hy.2 hr ht hrest
  exact ⟨rfl, rfl, rfl⟩

/-- **A join ends with its parenthesis, and a table before anything but an alias.** -/
theorem spell_append_inj {n k : JoinOutline} {r t : List Char} {v w : List Value}
    (hn : n.Readable) (hk : k.Readable) (hr : Unaliased r) (ht : Unaliased t)
    (h : n.spell ++ r = k.spell ++ t) (hargs : n.args ++ v = k.args ++ w) :
    n = k ∧ r = t ∧ v = w := by
  induction n generalizing k r t v w with
  | table x a =>
    cases k with
    | table y b =>
      obtain ⟨rfl, rfl, rfl⟩ := table_append_inj hn hk hr ht h
      exact ⟨rfl, rfl, hargs⟩
    | join kind l s c =>
      rw [spell_table_append, spell_join_append] at h
      exact absurd (List.cons.inj h).1 (by decide)
  | join kind l s c ihl ihs =>
    cases k with
    | table y b =>
      rw [spell_table_append, spell_join_append] at h
      exact absurd (List.cons.inj h).1 (by decide)
    | join kind' l' s' c' =>
      -- left side, kind, right side and condition, each read with the rest behind it
      rw [spell_join_append, spell_join_append] at h
      simp only [args, List.append_assoc] at hargs
      obtain ⟨rfl, hkind, hargs⟩ := ihl hn.1 hk.1 (unaliased_kind _ _) (unaliased_kind _ _)
        (List.cons.inj h).2 hargs
      obtain ⟨rfl, hright⟩ := JoinKind.name_append_inj hkind
      obtain ⟨rfl, hcond, hargs⟩ := ihs hn.2.1 hk.2.1 (unaliased_matching _ _)
        (unaliased_matching _ _) hright hargs
      obtain ⟨rfl, rfl, rfl⟩ := Matching.spell_append_inj hn.2.2 hk.2.2 hcond hargs
      exact ⟨rfl, rfl, rfl⟩

end JoinOutline

namespace Scope

variable {s : Scope} {g : Registry}

/-- **Conditions without fragments are written alike, with the same arguments, if and only if they
have the same outline.** -/
theorem predicate_text_eq_iff {p q : Predicate} {a b : Sql} (hs : s.Avoids '\x60')
    (hp : ∀ c ∈ p.columns, c.Avoids g.look '\x60') (hq : ∀ c ∈ q.columns, c.Avoids g.look '\x60')
    (hpr : p.raws = []) (hqr : q.raws = []) (ha : ((s.predicate p).run g).answer = .ok a)
    (hb : ((s.predicate q).run g).answer = .ok b) :
    ∃ m n, ((s.outline p).run g).answer = .ok m ∧ ((s.outline q).run g).answer = .ok n ∧
      (a.text = b.text ∧ a.args = b.args ↔ m = n) := by
  rw [Consult.answer_run] at ha hb
  obtain ⟨m, hm, hmread, hmspell, hmargs⟩ := outline_ok hs hp hpr ha
  obtain ⟨n, hn, hnread, hnspell, hnargs⟩ := outline_ok hs hq hqr hb
  refine ⟨m, n, by rw [Consult.answer_run, hm], by rw [Consult.answer_run, hn], ?_⟩
  rw [← String.toList_inj, ← hmspell, ← hnspell, ← hmargs, ← hnargs]
  constructor
  · rintro ⟨hspell, hargs⟩
    have hend : Closed [] := fun c u h => nomatch h
    exact (m.unique hmread hnread hend hend (congrArg (· ++ []) hspell)
      (congrArg (· ++ []) hargs)).1
  · rintro rfl
    exact ⟨rfl, rfl⟩

/-- **Joins without fragments are written alike, with the same arguments, if and only if they have
the same outline.** -/
theorem tableRef_text_eq_iff {t u : TableRef} {a b : Sql} (hs : s.Avoids '\x60')
    (ht : ∀ x ∈ t.mentioned, x.Avoids g.look '\x60')
    (hu : ∀ x ∈ u.mentioned, x.Avoids g.look '\x60') (htr : t.raws = []) (hur : u.raws = [])
    (ha : ((s.tableRef t).run g).answer = .ok a) (hb : ((s.tableRef u).run g).answer = .ok b) :
    ∃ m n, ((s.joinOutline t).run g).answer = .ok m ∧ ((s.joinOutline u).run g).answer = .ok n ∧
      (a.text = b.text ∧ a.args = b.args ↔ m = n) := by
  rw [Consult.answer_run] at ha hb
  obtain ⟨m, hm, hmread, hmspell, hmargs⟩ := joinOutline_ok hs ht htr ha
  obtain ⟨n, hn, hnread, hnspell, hnargs⟩ := joinOutline_ok hs hu hur hb
  refine ⟨m, n, by rw [Consult.answer_run, hm], by rw [Consult.answer_run, hn], ?_⟩
  rw [← String.toList_inj, ← hmspell, ← hnspell, ← hmargs, ← hnargs]
  constructor
  · rintro ⟨hspell, hargs⟩
    have hend : JoinOutline.Unaliased [] := fun u h => nomatch h
    exact (JoinOutline.spell_append_inj hmread hnread hend hend (congrArg (· ++ []) hspell)
      (congrArg (· ++ []) hargs)).1
  · rintro rfl
    exact ⟨rfl, rfl⟩

/-- **Grouping is unambiguous.** Where no name has a quote, conditions without fragments have the
same text and the same arguments exactly if they have the same outline, and so do joins. -/
theorem grouping_unambiguous (hs : s.Avoids '\x60') :
    (∀ (p q : Predicate) (a b : Sql), (∀ c ∈ p.columns, c.Avoids g.look '\x60') →
      (∀ c ∈ q.columns, c.Avoids g.look '\x60') → p.raws = [] → q.raws = [] →
      ((s.predicate p).run g).answer = .ok a → ((s.predicate q).run g).answer = .ok b →
      ∃ m n, ((s.outline p).run g).answer = .ok m ∧ ((s.outline q).run g).answer = .ok n ∧
        (a.text = b.text ∧ a.args = b.args ↔ m = n)) ∧
    ∀ (t u : TableRef) (a b : Sql), (∀ x ∈ t.mentioned, x.Avoids g.look '\x60') →
      (∀ x ∈ u.mentioned, x.Avoids g.look '\x60') → t.raws = [] → u.raws = [] →
      ((s.tableRef t).run g).answer = .ok a → ((s.tableRef u).run g).answer = .ok b →
      ∃ m n, ((s.joinOutline t).run g).answer = .ok m ∧
        ((s.joinOutline u).run g).answer = .ok n ∧ (a.text = b.text ∧ a.args = b.args ↔ m = n) :=
  ⟨fun _ _ _ _ hp hq hpr hqr ha hb => predicate_text_eq_iff hs hp hq hpr hqr ha hb,
    fun _ _ _ _ ht hu htr hur ha hb => tableRef_text_eq_iff hs ht hu htr hur ha hb⟩

/-- Conditions and joins that differ in their grouping only, with the same arguments. -/
theorem grouping_unambiguous_people : ∃ m, Registry.empty.look Sample.person = .ok m ∧
    Scope.Avoids ⟨.mysql, m, .table "p"⟩ '\x60' ∧
    (∃ a b n k, ((predicate ⟨.mysql, m, .table "p"⟩ Sample.eitherFirst).run .empty).answer = .ok a ∧
      ((predicate ⟨.mysql, m, .table "p"⟩ Sample.bothFirst).run .empty).answer = .ok b ∧
      ((outline ⟨.mysql, m, .table "p"⟩ Sample.eitherFirst).run .empty).answer = .ok n ∧
      ((outline ⟨.mysql, m, .table "p"⟩ Sample.bothFirst).run .empty).answer = .ok k ∧
      a.args = b.args ∧ a.text ≠ b.text ∧ n ≠ k) ∧
    ∃ a b n k, ((tableRef ⟨.mysql, m, .table "p"⟩ Sample.leftDeep).run .empty).answer = .ok a ∧
      ((tableRef ⟨.mysql, m, .table "p"⟩ Sample.rightDeep).run .empty).answer = .ok b ∧
      ((joinOutline ⟨.mysql, m, .table "p"⟩ Sample.leftDeep).run .empty).answer = .ok n ∧
      ((joinOutline ⟨.mysql, m, .table "p"⟩ Sample.rightDeep).run .empty).answer = .ok k ∧
      a.args = b.args ∧ a.text ≠ b.text ∧ n ≠ k := by
  obtain ⟨m, hm, htexts⟩ : ∃ m, Registry.empty.look Sample.person = .ok m ∧
      (decide (m.Avoids '\x60'),
        [(predicate ⟨.mysql, m, .table "p"⟩ Sample.eitherFirst),
          predicate ⟨.mysql, m, .table "p"⟩ Sample.bothFirst,
          tableRef ⟨.mysql, m, .table "p"⟩ Sample.leftDeep,
          tableRef ⟨.mysql, m, .table "p"⟩ Sample.rightDeep].map
            fun c => (c.run .empty).answer.toOption.map fun a => (a.text, a.args)) =
      (true,
        [some ("((`p`.`age` > ?) OR (`p`.`nick`)) AND (NOT (`p`.`nick`))", [.int 30]),
          some ("(`p`.`age` > ?) OR ((`p`.`nick`) AND (NOT (`p`.`nick`)))", [.int 30]),
          some (String.join ["((`person` AS `p` JOIN `cities` USING (`person_id`)) ",
            "LEFT JOIN `person` ON `p`.`age` > ?)"], [.int 30]),
          some (String.join ["(`person` AS `p` JOIN (`cities` LEFT JOIN `person` ",
            "ON `p`.`age` > ?) USING (`person_id`))"], [.int 30])]) :=
    Except.ok_of_map (by decide +kernel)
  simp only [Prod.mk.injEq, decide_eq_true_eq, List.map_cons, List.map_nil, List.cons.injEq,
    and_true] at htexts
  obtain ⟨havoid, heither, hboth, hleft, hright⟩ := htexts
  obtain ⟨a, ha, hatext⟩ := Except.ok_of_map heither
  obtain ⟨b, hb, hbtext⟩ := Except.ok_of_map hboth
  obtain ⟨x, hx, hxtext⟩ := Except.ok_of_map hleft
  obtain ⟨y, hy, hytext⟩ := Except.ok_of_map hright
  have hs : Scope.Avoids ⟨.mysql, m, .table "p"⟩ '\x60' := by
    refine ⟨havoid, ?_⟩
    rintro t ⟨⟩
    decide
  obtain ⟨hconds, hjoins⟩ := grouping_unambiguous (g := .empty) hs
  obtain ⟨n, k, hn, hk, hiff⟩ := hconds Sample.eitherFirst Sample.bothFirst a b
    (by decide +kernel) (by decide +kernel) rfl rfl ha hb
  obtain ⟨i, j, hi, hj, hiff'⟩ := hjoins Sample.leftDeep Sample.rightDeep x y
    (by decide +kernel) (by decide +kernel) rfl rfl hx hy
  simp only [Prod.mk.injEq] at hatext hbtext hxtext hytext
  have hargs : a.args = b.args := hatext.2.trans hbtext.2.symm
  have hargs' : x.args = y.args := hxtext.2.trans hytext.2.symm
  have htext : a.text ≠ b.text := by
    rw [hatext.1, hbtext.1]
    decide
  have htext' : x.text ≠ y.text := by
    rw [hxtext.1, hytext.1]
    decide +kernel
  refine ⟨m, hm, hs, ⟨a, b, n, k, ha, hb, hn, hk, hargs, htext, ?_⟩,
    x, y, i, j, hx, hy, hi, hj, hargs', htext', ?_⟩
  · exact fun hnk => htext (hiff.2 hnk).1
  · exact fun hij => htext' (hiff'.2 hij).1

end Scope

end RecordSql
