import Mathlib.Data.List.Forall2
import RecordSql.Model.Registry

/-!
# Taking evaluations apart

What a computation that asks for models has done when it succeeds.

* `Except.bind_ok`, `Except.mapError_error`, `Except.mapM_ok`, `Except.mapM_error`: steps and lists
  of computations that may fail.
* `forall_or_first`: the first item without a property.
* `Consult.eval_bind_ok`: both of two steps succeed.
* `Consult.eval_all_ok`: every item of a list succeeds.
* `Consult.eval_all_eq`: a list of computations that ask for no model.
-/

namespace RecordSql

variable {ε α β : Type}

theorem Except.bind_ok {x : Except ε α} {f : α → Except ε β} {b : β} :
    (x >>= f) = .ok b ↔ ∃ a, x = .ok a ∧ f a = .ok b := by
  cases x with
  | error err => simp [Bind.bind, Except.bind]
  | ok a => simp [Bind.bind, Except.bind]

/-- A computation with an image of a result has a result. -/
theorem Except.ok_of_map {x : Except ε α} {f : α → β} {b : β} (h : x.toOption.map f = some b) :
    ∃ a, x = .ok a ∧ f a = b := by
  cases x with
  | error err => cases h
  | ok a => exact ⟨a, rfl, Option.some.inj h⟩

/-- A computation fails with the error that an image of its result fails with. -/
theorem Except.error_of_map {x : Except ε α} {f : α → β} {err : ε} (h : x.map f = .error err) :
    x = .error err := by
  cases x with
  | error err' => exact congrArg _ (Except.error.inj h)
  | ok a => cases h

/-- A computation whose errors are told in another way has the same results. -/
theorem Except.mapError_ok {δ : Type} {x : Except ε α} {f : ε → δ} {a : α} :
    x.mapError f = .ok a ↔ x = .ok a := by
  cases x with
  | error err => exact iff_of_false nofun nofun
  | ok b => exact ⟨fun h => congrArg _ (Except.ok.inj h), fun h => congrArg _ (Except.ok.inj h)⟩

theorem Except.mapError_error {δ : Type} {x : Except ε α} {f : ε → δ} {err : δ} :
    x.mapError f = .error err ↔ ∃ cause, x = .error cause ∧ err = f cause := by
  cases x with
  | error cause =>
    constructor
    · intro h
      cases h
      exact ⟨cause, rfl, rfl⟩
    · rintro ⟨_, hcause, rfl⟩
      cases hcause
      rfl
  | ok a =>
    constructor
    · exact nofun
    · rintro ⟨_, hcause, -⟩
      cases hcause

/-- Every item of the list succeeds, each with its own result. -/
theorem Except.mapM_ok {f : α → Except ε β} {as : List α} {bs : List β} :
    as.mapM f = .ok bs ↔ List.Forall₂ (fun a b => f a = .ok b) as bs := by
  induction as generalizing bs with
  | nil =>
    rw [List.mapM_nil, List.forall₂_nil_left_iff]
    exact ⟨fun h => (Except.ok.inj h).symm, fun h => congrArg Except.ok h.symm⟩
  | cons a as ih =>
    simp only [List.mapM_cons, Except.bind_ok, ih, List.forall₂_cons_left_iff]
    constructor
    · rintro ⟨b, hb, cs, hcs, h⟩
      exact ⟨b, cs, hb, hcs, (Except.ok.inj h).symm⟩
    · rintro ⟨b, cs, hb, hcs, rfl⟩
      exact ⟨b, hb, cs, hcs, rfl⟩

/-- The first item that fails, with its error. -/
theorem Except.mapM_error {f : α → Except ε β} {as : List α} {err : ε}
    (h : as.mapM f = .error err) :
    ∃ first a rest, as = first ++ a :: rest ∧ (∀ b ∈ first, ∃ c, f b = .ok c) ∧
      f a = .error err := by
  induction as with
  | nil => cases h
  | cons a as ih =>
    rw [List.mapM_cons] at h
    cases ha : f a with
    | error err' =>
      rw [ha] at h
      cases h
      exact ⟨[], a, as, rfl, List.forall_mem_nil _, ha⟩
    | ok b =>
      rw [ha] at h
      cases hrest : as.mapM f with
      | ok bs =>
        rw [hrest] at h
        cases h
      | error err' =>
        rw [hrest] at h
        cases h
        obtain ⟨first, a', rest, rfl, hfirst, ha'⟩ := ih hrest
        exact ⟨a :: first, a', rest, rfl, List.forall_mem_cons.2 ⟨⟨b, ha⟩, hfirst⟩, ha'⟩

/-- An item that fails behind others that do not is the error. -/
theorem Except.mapM_of_error {f : α → Except ε β} {first rest : List α} {a : α} {err : ε}
    (hfirst : ∀ b ∈ first, ∃ c, f b = .ok c) (ha : f a = .error err) :
    (first ++ a :: rest).mapM f = .error err := by
  induction first with
  | nil =>
    rw [List.nil_append, List.mapM_cons, ha]
    rfl
  | cons b first ih =>
    obtain ⟨⟨c, hc⟩, hfirst⟩ := List.forall_mem_cons.1 hfirst
    rw [List.cons_append, List.mapM_cons, hc, ih hfirst]
    rfl

/-- All items have a property, or there is a first one that has not. -/
theorem forall_or_first (P : α → Prop) (as : List α) :
    (∀ a ∈ as, P a) ∨
      ∃ first a rest, as = first ++ a :: rest ∧ (∀ b ∈ first, P b) ∧ ¬ P a := by
  induction as with
  | nil => exact .inl (List.forall_mem_nil _)
  | cons a as ih =>
    by_cases ha : P a
    · rcases ih with hall | ⟨first, b, rest, rfl, hfirst, hb⟩
      · exact .inl (List.forall_mem_cons.2 ⟨ha, hall⟩)
      · exact .inr ⟨a :: first, b, rest, rfl, List.forall_mem_cons.2 ⟨ha, hfirst⟩, hb⟩
    · exact .inr ⟨[], a, as, rfl, List.forall_mem_nil _, ha⟩

theorem exists_of_forall₂ {R : α → β → Prop} {as : List α} {bs : List β} {b : β}
    (h : List.Forall₂ R as bs) (hb : b ∈ bs) : ∃ a ∈ as, R a b := by
  induction h with
  | nil => cases hb
  | cons hab _ ih =>
    rcases List.mem_cons.1 hb with rfl | hb
    · exact ⟨_, List.mem_cons_self, hab⟩
    · obtain ⟨a, ha, hab⟩ := ih hb
      exact ⟨a, List.mem_cons_of_mem _ ha, hab⟩

theorem getElem?_of_forall₂ {R : α → β → Prop} {as : List α} {bs : List β}
    (h : List.Forall₂ R as bs) {i : Nat} {a : α} (ha : as[i]? = some a) :
    ∃ b, bs[i]? = some b ∧ R a b := by
  induction h generalizing i with
  | nil => cases ha
  | cons hab _ ih =>
    cases i with
    | zero =>
      cases ha
      exact ⟨_, rfl, hab⟩
    | succ i => exact ih ha

theorem ne_nil_of_forall₂ {R : α → β → Prop} {as : List α} {bs : List β}
    (h : List.Forall₂ R as bs) (hne : as ≠ []) : bs ≠ [] := by
  rintro rfl
  exact hne (List.forall₂_nil_right_iff.1 h)

namespace Consult

variable {look : Entity → Except Error Model}

@[simp] theorem eval_bind_ok {c : Consult α} {f : α → Consult β} {b : β} :
    (c.bind f).eval look = .ok b ↔ ∃ a, c.eval look = .ok a ∧ (f a).eval look = .ok b := by
  rw [eval_bind]
  cases c.eval look with
  | error err => simp [Except.bind]
  | ok a => simp [Except.bind]

@[simp] theorem eval_pure (a : α) : (Consult.pure a).eval look = .ok a := rfl

@[simp] theorem eval_fail (err : Error) :
    (Consult.fail err : Consult α).eval look = .error err := rfl

/-- Every item of the list succeeds, each with its own result. -/
theorem eval_all_ok {f : α → Consult β} {as : List α} {bs : List β} :
    (all f as).eval look = .ok bs ↔ List.Forall₂ (fun a b => (f a).eval look = .ok b) as bs := by
  induction as generalizing bs with
  | nil =>
    rw [all, eval_pure, List.forall₂_nil_left_iff, Except.ok.injEq]
    exact eq_comm
  | cons a as ih =>
    simp only [all, eval_bind_ok, eval_pure, Except.ok.injEq, ih, List.forall₂_cons_left_iff]
    constructor
    · rintro ⟨b, hb, cs, hcs, rfl⟩
      exact ⟨b, cs, hb, hcs, rfl⟩
    · rintro ⟨b, cs, hb, hcs, rfl⟩
      exact ⟨b, hb, cs, hcs, rfl⟩

/-- Items that are each a computation without models, with its result changed. -/
theorem eval_all_eq {γ : Type} {c : α → Consult γ} {f : α → Except Error β} {k : β → γ}
    (h : ∀ a, (c a).eval look = (f a).map k) (as : List α) :
    (all c as).eval look = (as.mapM f).map (List.map k) := by
  induction as with
  | nil => rfl
  | cons a as ih =>
    rw [all, eval_bind, h, List.mapM_cons]
    cases f a with
    | error err => rfl
    | ok b =>
      rw [Except.map, Except.bind, eval_bind, ih]
      cases as.mapM f with
      | error err => rfl
      | ok bs => rfl

/-- Items that ask for no model. -/
theorem eval_all_map {γ : Type} {f : α → Except Error β} {k : β → γ} (as : List α) :
    (all (fun a => (ofExcept (f a)).bind fun b => .pure (k b)) as).eval look =
      (as.mapM f).map (List.map k) := by
  apply eval_all_eq
  intro a
  rw [eval_bind, eval_ofExcept]
  cases f a <;> rfl

/-- Every result is that of an item. -/
theorem exists_of_eval_all {f : α → Consult β} {as : List α} {bs : List β} {b : β}
    (h : (all f as).eval look = .ok bs) (hb : b ∈ bs) :
    ∃ a ∈ as, (f a).eval look = .ok b := by
  obtain ⟨a, ha, hab⟩ := exists_of_forall₂ (eval_all_ok.1 h) hb
  exact ⟨a, ha, hab⟩

/-- Results with the same image as their items, one after the other. -/
theorem flatMap_of_eval_all {γ : Type} {f : α → Consult β} {as : List α} {bs : List β}
    {g : α → List γ} {k : β → List γ} (h : (all f as).eval look = .ok bs)
    (hgk : ∀ a ∈ as, ∀ b, (f a).eval look = .ok b → k b = g a) : bs.flatMap k = as.flatMap g := by
  have hall := eval_all_ok.1 h
  clear h
  induction hall with
  | nil => rfl
  | cons hab _ ih =>
    rw [List.flatMap_cons, List.flatMap_cons, hgk _ List.mem_cons_self _ hab,
      ih fun a ha => hgk a (List.mem_cons_of_mem _ ha)]

end Consult

end RecordSql
