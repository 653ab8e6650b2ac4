import RecordSql.Proofs.Calls

/-!
# Composite hooks do not show

A composite hook threads the statement through its members as the database does through its hooks,
so it can be replaced by them.

* `Hook.leaves`, `Hook.flatten`: the single hooks of nested ones, in order.
* `Hook.step`: a hook's part in the chain of hooks.
* `Hook.step_composite`: **a composite takes the part of its members.**
* `Hook.runBefore_flatten`, `Hook.runAfter_flatten`: a chain does what its single hooks do.
* `Db.serve_flatten`: **no use of a database tells it from the one with the single hooks.**
-/

namespace RecordSql

variable {ι : Type}

/-- What the action makes of the statement. -/
def Action.apply : Action → Context → Except String Context
  | .proceed, c => .ok c
  | .amend sql, c => .ok { c with sql }
  | .abort reason, _ => .error reason

namespace Hook

mutual

/-- The single hooks inside a hook, in order. -/
def leaves : Hook ι → List (Leaf ι)
  | .leaf l => [l]
  | .composite hs => leavesAll hs

def leavesAll : List (Hook ι) → List (Leaf ι)
  | [] => []
  | h :: hs => leaves h ++ leavesAll hs

end

/-- The list with every composite replaced by its members, and so on for those. -/
def flatten (hs : List (Hook ι)) : List (Hook ι) := (leavesAll hs).map .leaf

/-! ## Chains -/

/-- Go on with the context that the hooks so far have left, unless one has refused. -/
def andThen (x : Except String Context × List (Event ι))
    (f : Context → Except String Context × List (Event ι)) :
    Except String Context × List (Event ι) :=
  match x with
  | (.ok c, es) => ((f c).1, es ++ (f c).2)
  | (.error reason, es) => (.error reason, es)

theorem andThen_assoc (x : Except String Context × List (Event ι))
    (f g : Context → Except String Context × List (Event ι)) :
    andThen (andThen x f) g = andThen x fun c => andThen (f c) g := by
  obtain ⟨reason | c, es⟩ := x
  · rfl
  · simp only [andThen]
    rcases f c with ⟨reason | d, fs⟩
    · rfl
    · simp

/-- A hook's part in the chain. -/
def step (h : Hook ι) (c : Context) : Except String Context × List (Event ι) :=
  ((h.before c).1.apply c, (h.before c).2)

theorem runBefore_cons (h : Hook ι) (hs : List (Hook ι)) (c : Context) :
    runBefore (h :: hs) c = andThen (h.step c) (runBefore hs) := by
  rw [runBefore, step]
  rcases h.before c with ⟨_ | sql | reason, es⟩ <;> rfl

theorem runBefore_append (hs ks : List (Hook ι)) (c : Context) :
    runBefore (hs ++ ks) c = andThen (runBefore hs c) (runBefore ks) := by
  induction hs generalizing c with
  | nil => rfl
  | cons h hs ih =>
    rw [List.cons_append, runBefore_cons, runBefore_cons, andThen_assoc, funext ih]

theorem runBefore_singleton (h : Hook ι) (c : Context) : runBefore [h] c = h.step c := by
  rw [runBefore_cons]
  rcases h.step c with ⟨reason | d, es⟩
  · rfl
  · simp [andThen, runBefore]

/-- The members of a composite make of the statement what they would make of it in the chain. The
composite only answers with SQL when one of them has, so what it answers is read at `c`, the context
that it was asked with. -/
theorem beforeAll_apply {hs : List (Hook ι)} {c d : Context} {amended : Bool}
    (hd : d = { c with sql := d.sql }) (hsame : amended = false → d = c) :
    ((beforeAll hs d amended).1.apply c, (beforeAll hs d amended).2) = runBefore hs d := by
  induction hs generalizing d amended with
  | nil =>
    cases amended with
    | false =>
      rw [hsame rfl]
      rfl
    | true =>
      rw [hd]
      rfl
  | cons h hs ih =>
    rw [beforeAll, runBefore]
    -- only new SQL changes the context, and from then on the composite answers with SQL
    rcases h.before d with ⟨_ | sql | reason, es⟩
    · simp only [← ih hd hsame]
    · have hnext : ({ d with sql } : Context) = { c with sql } := by rw [hd]
      have hrest := @ih { d with sql } true hnext nofun
      simp only [← hrest]
    · rfl

/-- **A composite takes the part of its members.** -/
theorem step_composite (hs : List (Hook ι)) (c : Context) :
    (composite hs).step c = runBefore hs c :=
  beforeAll_apply rfl fun _ => rfl

/-! ## Single hooks -/

theorem flatten_cons (h : Hook ι) (hs : List (Hook ι)) :
    flatten (h :: hs) = h.leaves.map .leaf ++ flatten hs := by
  rw [flatten, leavesAll, List.map_append, flatten]

mutual

/-- A hook does what its single hooks do. -/
theorem runBefore_leaves (h : Hook ι) (c : Context) :
    runBefore (h.leaves.map .leaf) c = h.step c := by
  cases h with
  | leaf l =>
    rw [leaves]
    exact runBefore_singleton _ c
  | composite hs =>
    rw [leaves, step_composite]
    exact runBefore_flatten hs c

/-- **A chain of hooks does what its single hooks do**, until one refuses. -/
theorem runBefore_flatten (hs : List (Hook ι)) (c : Context) :
    runBefore (flatten hs) c = runBefore hs c := by
  cases hs with
  | nil =>
    rw [flatten, leavesAll]
    rfl
  | cons h hs =>
    rw [flatten_cons, runBefore_append, runBefore_leaves h c, runBefore_cons,
      funext (runBefore_flatten hs)]

end

theorem afterAll_eq (hs : List (Hook ι)) (c : Context) (o : Outcome) :
    afterAll hs c o = runAfter hs c o := by
  induction hs with
  | nil => rfl
  | cons h hs ih => rw [afterAll, ih, runAfter, runAfter, List.flatMap_cons]

mutual

theorem runAfter_leaves (h : Hook ι) (c : Context) (o : Outcome) :
    runAfter (h.leaves.map .leaf) c o = h.after c o := by
  cases h with
  | leaf l =>
    rw [leaves]
    exact List.append_nil _
  | composite hs =>
    rw [leaves, after, afterAll_eq]
    exact runAfter_flatten hs c o

/-- **All single hooks are told**, in order. -/
theorem runAfter_flatten (hs : List (Hook ι)) (c : Context) (o : Outcome) :
    runAfter (flatten hs) c o = runAfter hs c o := by
  cases hs with
  | nil =>
    rw [flatten, leavesAll]
    rfl
  | cons h hs =>
    rw [flatten_cons, runAfter, List.flatMap_append]
    exact congrArg₂ (· ++ ·) (runAfter_leaves h c o) (runAfter_flatten hs c o)

end

end Hook

namespace Db

/-- The database with the single hooks of its hooks. -/
def flat (db : Db ι) : Db ι := { db with hooks := Hook.flatten db.hooks }

theorem perform_flat {α : Type} (db : Db ι) (c : Context) (event : String → List Value → Event ι)
    (ask : String → List Value → Timed α) (success : α → Outcome) :
    db.flat.perform c event ask success = db.perform c event ask success := by
  simp only [perform, flat, Hook.runBefore_flatten, Hook.runAfter_flatten]
  rfl

/-- **Composite hooks do not show.** With every composite replaced by its members, and so on for
those, there are single hooks only, and every use of the database ends with the same answer and the
same registry, after the same calls of the single hooks and of the driver and with the same log. -/
theorem serve_flat (db : Db ι) :
    (∀ h ∈ db.flat.hooks, ∃ l, h = .leaf l) ∧
      (∀ (drv : Driver) (k : Call) (g : Registry), db.flat.serve drv k g = db.serve drv k g) ∧
      ∀ (g : Registry) (jobs : List (Driver × Call)),
        db.flat.serveAll g jobs = db.serveAll g jobs := by
  have hserve : ∀ (drv : Driver) (k : Call) (g : Registry),
      db.flat.serve drv k g = db.serve drv k g := by
    intro drv k g
    rw [serve_eq, serve_eq]
    simp only [submit, perform_flat]
    rfl
  refine ⟨?_, hserve, ?_⟩
  · intro h hh
    obtain ⟨l, -, rfl⟩ := List.mem_map.1 hh
    exact ⟨l, rfl⟩
  · intro g jobs
    induction jobs generalizing g with
    | nil => rfl
    | cons job jobs ih =>
      obtain ⟨drv, k⟩ := job
      simp only [serveAll, hserve, ih]

end Db

end RecordSql
