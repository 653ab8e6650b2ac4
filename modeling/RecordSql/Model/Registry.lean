import RecordSql.Model

/-!
# The registry

The models in use, one a record type, each parsed when it is first asked for.

* `Registry.model`: the model of a type, parsed and kept if it is not there yet.
* `Registry.register`: the model of a type with options, in place of the one kept so far.
* `Registry.look`: the answer of `Registry.model` without its effect.
* `Consult`: a computation that asks for models and may fail.
* `Consult.run`, `Consult.eval`: the computation on a registry, and on a look-up of models.
* `Registry.look_model`: asking for a model changes no later answer.
* `Consult.answer_run`: a run answers what the look-up of its registry gives.
-/

namespace RecordSql

structure Registry where
  models : List (Entity × Model)

/-- What a use of the registry answers, the registry afterwards and what was logged. -/
structure Reply (α : Type) where
  answer : Except Error α
  registry : Registry
  log : List LogEntry

namespace Registry

def empty : Registry := ⟨[]⟩

/-- The number of types with a model. -/
def size (r : Registry) : Nat := r.models.length

def find? (r : Registry) (e : Entity) : Option Model := r.models.lookup e

/-- The entries with `m` for `e`. -/
def insertModel (e : Entity) (m : Model) : List (Entity × Model) → List (Entity × Model)
  | [] => [(e, m)]
  | (f, n) :: ms => if f = e then (e, m) :: ms else (f, n) :: insertModel e m ms

def insert (r : Registry) (e : Entity) (m : Model) : Registry := ⟨insertModel e m r.models⟩

/-- The model of `e`, which is kept from the first time on. -/
def model (r : Registry) (e : Entity) : Reply Model :=
  match r.find? e with
  | some m => ⟨.ok m, r, []⟩
  | none => match Model.parse e with
    | .ok m => ⟨.ok m, r.insert e m, [m.parsedEntry]⟩
    | .error err => ⟨.error err, r, []⟩

/-- The model of `e` with options, kept if none of them fails. -/
def register (r : Registry) (e : Entity) (os : List ModelOption) : Reply Model :=
  match Model.parse e with
  | .error err => ⟨.error err, r, []⟩
  | .ok m => match m.configure os with
    | .error err => ⟨.error err, r, [m.parsedEntry]⟩
    | .ok n => ⟨.ok n, r.insert e n, [m.parsedEntry]⟩

/-- The model that `r` gives for `e`. -/
def look (r : Registry) (e : Entity) : Except Error Model :=
  match r.find? e with
  | some m => .ok m
  | none => Model.parse e

theorem find?_insert (r : Registry) (e f : Entity) (m : Model) :
    (r.insert e m).find? f = if f = e then some m else r.find? f := by
  obtain ⟨ms⟩ := r
  simp only [insert, find?]
  induction ms with
  | nil =>
    by_cases h : f = e
    · simp [insertModel, h]
    · simp [insertModel, List.lookup_cons, h, beq_false_of_ne h]
  | cons p ms ih =>
    obtain ⟨g, n⟩ := p
    by_cases hg : g = e
    · subst hg
      by_cases h : f = g
      · simp [insertModel, h]
      · simp [insertModel, List.lookup_cons, h, beq_false_of_ne h]
    · by_cases h : f = g
      · simp [insertModel, h, hg]
      · simp [insertModel, List.lookup_cons, hg, beq_false_of_ne h, ih]

theorem answer_model (r : Registry) (e : Entity) : (r.model e).answer = r.look e := by
  unfold model look
  cases r.find? e with
  | some m => rfl
  | none => cases Model.parse e <;> rfl

/-- Asking for a model changes no later answer. -/
theorem look_model (r : Registry) (e f : Entity) : (r.model e).registry.look f = r.look f := by
  unfold model
  cases h : r.find? e with
  | some m => rfl
  | none =>
    cases hp : Model.parse e with
    | error err => rfl
    | ok m =>
      simp only [look, find?_insert]
      by_cases hf : f = e
      · subst hf
        simp [h, hp]
      · simp [hf]

end Registry

/-- A computation that may fail and that may ask for the model of a record type. -/
inductive Consult (α : Type) where
  | pure (a : α)
  | fail (e : Error)
  | ask (e : Entity) (k : Model → Consult α)

namespace Consult

variable {α β : Type}

def bind : Consult α → (α → Consult β) → Consult β
  | .pure a, f => f a
  | .fail e, _ => .fail e
  | .ask e k, f => .ask e fun m => (k m).bind f

instance : Monad Consult where
  pure := .pure
  bind := bind

def model (e : Entity) : Consult Model := .ask e .pure

def ofExcept : Except Error α → Consult α
  | .ok a => .pure a
  | .error e => .fail e

/-- The results of `f` on a list, in order. -/
def all (f : α → Consult β) : List α → Consult (List β)
  | [] => .pure []
  | a :: as => (f a).bind fun b => (all f as).bind fun bs => .pure (b :: bs)

/-- The result, with models from a look-up. -/
def eval (look : Entity → Except Error Model) : Consult α → Except Error α
  | .pure a => .ok a
  | .fail e => .error e
  | .ask e k => match look e with
    | .ok m => (k m).eval look
    | .error err => .error err

/-- The result on a registry, which keeps the models that were asked for. -/
def run : Consult α → Registry → Reply α
  | .pure a, r => ⟨.ok a, r, []⟩
  | .fail e, r => ⟨.error e, r, []⟩
  | .ask e k, r => match r.model e with
    | ⟨.ok m, r, log⟩ =>
      let rest := (k m).run r
      { rest with log := log ++ rest.log }
    | ⟨.error err, r, log⟩ => ⟨.error err, r, log⟩

@[simp] theorem pure_eq (a : α) : (Pure.pure a : Consult α) = .pure a := rfl

@[simp] theorem bind_eq (c : Consult α) (f : α → Consult β) : c >>= f = c.bind f := rfl

theorem eval_bind (look : Entity → Except Error Model) (c : Consult α) (f : α → Consult β) :
    (c.bind f).eval look = (c.eval look).bind fun a => (f a).eval look := by
  induction c with
  | pure a => rfl
  | fail e => rfl
  | ask e k ih =>
    simp only [bind, eval]
    cases look e with
    | error err => rfl
    | ok m => exact ih m

@[simp] theorem eval_model (look : Entity → Except Error Model) (e : Entity) :
    (Consult.model e).eval look = look e := by
  simp only [Consult.model, eval]
  cases look e <;> rfl

@[simp] theorem eval_ofExcept (look : Entity → Except Error Model) (x : Except Error α) :
    (ofExcept x).eval look = x := by cases x <;> rfl

/-- A run answers what the look-up of its registry gives. -/
theorem answer_run (c : Consult α) (r : Registry) : (c.run r).answer = c.eval r.look := by
  induction c generalizing r with
  | pure a => rfl
  | fail e => rfl
  | ask e k ih =>
    have ha := r.answer_model e
    have hl : ∀ f, (r.model e).registry.look f = r.look f := r.look_model e
    simp only [run, eval, ← ha]
    split <;> rename_i heq
    · rw [heq] at hl
      simp only [heq, ih]
      rw [funext hl]
    · simp [heq]

end Consult

end RecordSql
