import RecordSql.Hook.Builtin
import RecordSql.Proofs.Flattening
import RecordSql.Proofs.Sample

/-!
# Denied deletes

A hook that refuses every DELETE does so wherever it stands, whatever the other hooks do. Nothing
else shows that it is there.

* `Hook.Guarded`: hooks that are others and one that refuses every DELETE, at any depth.
* `Event.SameBut`: a trace that is another one with the calls of a hook in it.
* `Db.serve_denied`: a DELETE of a guarded database never reaches the driver.
* `Db.serve_alike`: any other statement runs as it would without the guard.
* `Db.deny_delete`: **both, for all uses in a row.**
-/

namespace RecordSql

variable {ι : Type}

/-! ## Traces -/

namespace Event

/-- A hook was asked, or something was logged. -/
inductive Asking : Event ι → Prop where
  | before {label : ι} {c : Context} {a : Action} : Asking (.before label c a)
  | log {entry : LogEntry} : Asking (.log entry)

/-- The first trace is the second one with calls of the hook `label`, which lets all proceed. -/
inductive SameBut (label : ι) : List (Event ι) → List (Event ι) → Prop where
  | nil : SameBut label [] []
  | cons {event : Event ι} {es fs : List (Event ι)} (h : SameBut label es fs) :
    SameBut label (event :: es) (event :: fs)
  | asked {c : Context} {es fs : List (Event ι)} (h : SameBut label es fs) :
    SameBut label (.before label c .proceed :: es) fs
  | told {c : Context} {o : Outcome} {es fs : List (Event ι)} (h : SameBut label es fs) :
    SameBut label (.after label c o :: es) fs

namespace SameBut

variable {label : ι} {es fs es' fs' : List (Event ι)}

theorem refl (es : List (Event ι)) : SameBut label es es := by
  induction es with
  | nil => exact .nil
  | cons _ _ ih => exact .cons ih

theorem append (h : SameBut label es fs) (h' : SameBut label es' fs') :
    SameBut label (es ++ es') (fs ++ fs') := by
  induction h with
  | nil => exact h'
  | cons _ ih => exact .cons ih
  | asked _ ih => exact .asked ih
  | told _ ih => exact .told ih

end SameBut

end Event

/-! ## The guard among the hooks -/

namespace Hook

open Event (Asking SameBut)

/-- The single hooks of `hs` are those of `ks` and, somewhere, one that refuses every DELETE. -/
def Guarded (label : ι) (hs ks : List (Hook ι)) : Prop :=
  ∃ first rest, leavesAll hs = first ++ .denyDelete label :: rest ∧ leavesAll ks = first ++ rest

variable {label : ι} {hs ks : List (Hook ι)} {c d : Context}

theorem Guarded.here : Guarded label (.leaf (.denyDelete label) :: hs) hs :=
  ⟨[], leavesAll hs, by rw [leavesAll, leaves]; rfl, rfl⟩

theorem Guarded.there (h : Guarded label hs ks) (k : Hook ι) :
    Guarded label (k :: hs) (k :: ks) := by
  obtain ⟨first, rest, hhs, hks⟩ := h
  exact ⟨k.leaves ++ first, rest, by rw [leavesAll, hhs, List.append_assoc],
    by rw [leavesAll, hks, List.append_assoc]⟩

/-- A guard inside a composite is one of the hooks, too. -/
theorem Guarded.inside (h : Guarded label hs ks) (others : List (Hook ι)) :
    Guarded label (.composite hs :: others) (.composite ks :: others) := by
  obtain ⟨first, rest, hhs, hks⟩ := h
  refine ⟨first, rest ++ leavesAll others, ?_, ?_⟩
  · rw [leavesAll, leaves, hhs, List.append_assoc, List.cons_append]
  · rw [leavesAll, leaves, hks, List.append_assoc]

theorem andThen_ok {x : Except String Context × List (Event ι)}
    {f : Context → Except String Context × List (Event ι)} :
    (andThen x f).1 = .ok d ↔ ∃ c, x.1 = .ok c ∧ (f c).1 = .ok d := by
  rcases x with ⟨reason | c, es⟩
  · simp [andThen]
  · simp [andThen]

theorem forall_mem_andThen {P : Event ι → Prop} {x : Except String Context × List (Event ι)}
    {f : Context → Except String Context × List (Event ι)} (hx : ∀ event ∈ x.2, P event)
    (hf : ∀ c, ∀ event ∈ (f c).2, P event) : ∀ event ∈ (andThen x f).2, P event := by
  rcases x with ⟨reason | c, es⟩
  · exact hx
  · exact List.forall_mem_append.2 ⟨hx, hf c⟩

/-- New SQL is all that a hook may make of a statement. -/
theorem kind_of_apply {a : Action} (h : a.apply c = .ok d) : d.kind = c.kind := by
  cases a with
  | proceed =>
    cases h
    rfl
  | amend sql =>
    cases h
    rfl
  | abort reason => cases h

theorem kind_of_runBefore (h : (runBefore hs c).1 = .ok d) : d.kind = c.kind := by
  induction hs generalizing c with
  | nil =>
    cases h
    rfl
  | cons k hs ih =>
    rw [runBefore_cons, andThen_ok] at h
    obtain ⟨next, hnext, hrest⟩ := h
    exact (ih hrest).trans (kind_of_apply hnext)

theorem runBefore_leaf_asking (ls : List (Leaf ι)) (c : Context) :
    ∀ event ∈ (runBefore (ls.map leaf) c).2, Asking event := by
  induction ls generalizing c with
  | nil => exact fun _ h => nomatch h
  | cons l ls ih =>
    rw [List.map_cons, runBefore_cons]
    refine forall_mem_andThen ?_ ih
    intro event hevent
    rw [step, before] at hevent
    rcases List.mem_cons.1 hevent with rfl | hlog
    · exact .before
    · obtain ⟨entry, -, rfl⟩ := List.mem_map.1 hlog
      exact .log

/-- Before a statement runs, hooks are asked and nothing else happens. -/
theorem runBefore_asking (hs : List (Hook ι)) (c : Context) :
    ∀ event ∈ (runBefore hs c).2, Asking event := by
  rw [← runBefore_flatten]
  exact runBefore_leaf_asking _ c

/-- The hooks before the guard, the guard, and the hooks behind it. -/
theorem Guarded.runBefore_eq (h : Guarded label hs ks) : ∃ first rest : List (Hook ι),
    (∀ c, runBefore hs c = andThen (runBefore first c) fun d =>
      andThen ((leaf (.denyDelete label)).step d) (runBefore rest)) ∧
    ∀ c, runBefore ks c = andThen (runBefore first c) (runBefore rest) := by
  obtain ⟨first, rest, hhs, hks⟩ := h
  -- composites run like the single hooks in them, one after the other
  refine ⟨first.map leaf, rest.map leaf, ?_, ?_⟩
  · intro c
    rw [← runBefore_flatten, flatten, hhs, List.map_append, runBefore_append, List.map_cons,
      funext (runBefore_cons _ _)]
  · intro c
    rw [← runBefore_flatten, flatten, hks, List.map_append, runBefore_append]

/-- The guard refuses a DELETE. -/
theorem step_denyDelete (label : ι) (hc : c.kind = .delete) :
    ((leaf (.denyDelete label)).step c).1 = .error "DELETE statements are disabled" := by
  simp [step, before, Leaf.denyDelete, hc, Action.apply]

/-- The guard lets anything else proceed as it is. -/
theorem step_denyDelete_of_ne (label : ι) (hc : c.kind ≠ .delete) :
    (leaf (.denyDelete label)).step c = (.ok c, [.before label c .proceed]) := by
  simp [step, before, Leaf.denyDelete, Leaf.silent, hc, Action.apply]

/-- **Guarded hooks refuse every DELETE**, for a reason of the guard or of a hook before it. -/
theorem Guarded.refuses (h : Guarded label hs ks) (hc : c.kind = .delete) :
    ∃ reason, (runBefore hs c).1 = .error reason := by
  cases hrun : (runBefore hs c).1 with
  | error reason => exact ⟨reason, rfl⟩
  | ok d =>
    -- the guard would have been asked, as DELETE is what the hooks before it leave
    obtain ⟨first, rest, hhs, -⟩ := h.runBefore_eq
    rw [hhs, andThen_ok] at hrun
    obtain ⟨d', hd', hrest⟩ := hrun
    obtain ⟨d'', hstep, -⟩ := andThen_ok.1 hrest
    rw [step_denyDelete label ((kind_of_runBefore hd').trans hc)] at hstep
    cases hstep

/-- **Guarded hooks let any other statement through** as they would without the guard. -/
theorem Guarded.alike (h : Guarded label hs ks) (hc : c.kind ≠ .delete) :
    (runBefore hs c).1 = (runBefore ks c).1 ∧
      SameBut label (runBefore hs c).2 (runBefore ks c).2 := by
  obtain ⟨first, rest, hhs, hks⟩ := h.runBefore_eq
  rw [hhs, hks]
  rcases hfirst : runBefore first c with ⟨reason | d, es⟩
  · exact ⟨rfl, .refl es⟩
  · -- new SQL of the hooks before the guard does not make the statement a DELETE
    have hd : d.kind ≠ .delete := by
      rwa [kind_of_runBefore (congrArg Prod.fst hfirst)]
    simp only [andThen, step_denyDelete_of_ne label hd, true_and]
    exact .append (.refl es) (.asked (.refl _))

/-- The guard is told of a statement like any other hook. -/
theorem Guarded.runAfter_alike (h : Guarded label hs ks) (c : Context) (o : Outcome) :
    SameBut label (runAfter hs c o) (runAfter ks c o) := by
  obtain ⟨first, rest, hhs, hks⟩ := h
  rw [← runAfter_flatten hs, ← runAfter_flatten ks, flatten, flatten, hhs, hks]
  simp only [runAfter, List.map_append, List.map_cons, List.flatMap_append, List.flatMap_cons]
  exact .append (.refl _) (.told (.refl _))

end Hook

/-! ## Uses of a guarded database -/

namespace Db

open Hook (Guarded)
open Event (Asking SameBut)

/-- The kind of the statement. -/
def Call.kind : Call → StatementKind
  | .get .. | .getMulti .. => .select
  | .insert .. => .insert
  | .delete .. => .delete

theorem kind_context (k : Call) (sql : Sql) : (k.context sql).kind = k.kind := by
  cases k <;> rfl

/-- The database with other hooks. -/
def hooked (db : Db ι) (hs : List (Hook ι)) : Db ι := { db with hooks := hs }

/-- A use of a database, with the hooks and the driver as they are by then. -/
structure Job (ι : Type) where
  hooks : List (Hook ι)
  driver : Driver
  call : Call

/-- Uses of the database, one after the other. -/
def serveEach (db : Db ι) : Registry → List (Job ι) → List (Served ι)
  | _, [] => []
  | g, j :: jobs =>
    let run := (db.hooked j.hooks).serve j.driver j.call g
    ⟨j.driver, j.call, run.answer, run.trace⟩ :: db.serveEach run.registry jobs

/-- The hooks may always be those of the database. -/
theorem serveAll_eq (db : Db ι) (g : Registry) (jobs : List (Driver × Call)) :
    db.serveAll g jobs = db.serveEach g (jobs.map fun j => ⟨db.hooks, j.1, j.2⟩) := by
  induction jobs generalizing g with
  | nil => rfl
  | cons j jobs ih => exact congrArg (_ :: ·) (ih _)

/-- What happens around a DELETE that never runs: it is aborted if it could be built for this
database, and neither the driver is called nor any hook told. -/
structure Denied (db : Db ι) (look : Entity → Except Error Model) (s : Served ι) : Prop where
  asking : ∀ event ∈ s.trace, Asking event
  aborted : s.call.owner = db.id → ∀ sql, (s.call.build db.core).eval look = .ok sql →
    ∃ reason, s.answer = .error (.aborted reason)

/-- Two uses that do not tell whether the hook `label` is there, unless they are DELETEs. -/
inductive Alike (label : ι) : Served ι → Served ι → Prop where
  | delete {drv : Driver} {k : Call} {x y : Except Error k.Result} {es fs : List (Event ι)}
    (hk : k.kind = .delete) : Alike label ⟨drv, k, x, es⟩ ⟨drv, k, y, fs⟩
  | other {drv : Driver} {k : Call} {x : Except Error k.Result} {es fs : List (Event ι)}
    (h : SameBut label es fs) : Alike label ⟨drv, k, x, es⟩ ⟨drv, k, x, fs⟩

variable {db : Db ι} {label : ι} {hs ks : List (Hook ι)} {k : Call} {g : Registry}

/-- A DELETE is refused before it reaches the driver. -/
theorem submit_denied (db : Db ι) (h : Guarded label hs ks) (hk : k.kind = .delete) (drv : Driver)
    (sql : Sql) :
    ∃ reason es, (db.hooked hs).submit drv k sql = (.error (.aborted reason), es) ∧
      ∀ event ∈ es, Asking event := by
  obtain ⟨reason, hreason⟩ := h.refuses ((kind_context k sql).trans hk)
  have hasking := Hook.runBefore_asking hs (k.context sql)
  rcases hrun : Hook.runBefore hs (k.context sql) with ⟨_, es⟩
  rw [hrun] at hreason hasking
  cases hreason
  refine ⟨reason, es ++ [.log (abortEntry (k.context sql) reason)], ?_, ?_⟩
  · rw [submit, perform, hooked, hrun]
  · exact List.forall_mem_append.2 ⟨hasking, List.forall_mem_singleton.2 .log⟩

theorem log_asking (entries : List LogEntry) :
    ∀ event ∈ (entries.map .log : List (Event ι)), Asking event :=
  List.forall_mem_map.2 fun _ _ => .log

theorem serve_foreign_hooked (hs : List (Hook ι)) (drv : Driver) (h : k.owner ≠ db.id) :
    (db.hooked hs).serve drv k g =
      ⟨.error (.other "statement was built by a different Db"), g, []⟩ :=
  serve_foreign h

/-- Hooks have no part in how a statement is built. -/
theorem serve_own_hooked (hs : List (Hook ι)) (drv : Driver) (h : k.owner = db.id) :
    (db.hooked hs).serve drv k g = match ((k.build db.core).run g).answer with
      | .error err => ⟨.error err, ((k.build db.core).run g).registry,
          ((k.build db.core).run g).log.map .log⟩
      | .ok sql =>
        let rest := conclude ((db.hooked hs).submit drv k sql) (k.finish db.core.accessor)
          ((k.build db.core).run g).registry
        { rest with trace := ((k.build db.core).run g).log.map .log ++ rest.trace } :=
  serve_own h

/-- **A DELETE of a guarded database never reaches the driver.** -/
theorem serve_denied (h : Guarded label hs ks) (hk : k.kind = .delete) (drv : Driver) :
    Denied db g.look ⟨drv, k, ((db.hooked hs).serve drv k g).answer,
      ((db.hooked hs).serve drv k g).trace⟩ := by
  by_cases hown : k.owner = db.id
  case neg =>
    rw [serve_foreign_hooked hs drv hown]
    exact ⟨fun _ hevent => (nomatch hevent), fun hid => absurd hid hown⟩
  rw [serve_own_hooked hs drv hown, Consult.answer_run]
  cases hbuild : (k.build db.core).eval g.look with
  | error err =>
    refine ⟨log_asking _, fun _ sql hsql => ?_⟩
    rw [hbuild] at hsql
    cases hsql
  | ok sql =>
    obtain ⟨reason, es, hsubmit, hasking⟩ := submit_denied db h hk drv sql
    simp only [hsubmit, conclude]
    exact ⟨List.forall_mem_append.2 ⟨log_asking _, hasking⟩, fun _ _ _ => ⟨reason, rfl⟩⟩

/-- Any other statement is submitted as it would be without the guard. -/
theorem submit_alike (db : Db ι) (h : Guarded label hs ks) (hk : k.kind ≠ .delete) (drv : Driver)
    (sql : Sql) :
    ((db.hooked hs).submit drv k sql).1 = ((db.hooked ks).submit drv k sql).1 ∧
      SameBut label ((db.hooked hs).submit drv k sql).2 ((db.hooked ks).submit drv k sql).2 := by
  have hkind : (k.context sql).kind ≠ .delete := (kind_context k sql).trans_ne hk
  obtain ⟨hanswer, htrace⟩ := h.alike hkind
  -- what the hooks leave to run is the same, and only their traces differ
  simp only [submit, perform, hooked]
  generalize Hook.runBefore hs (k.context sql) = x at hanswer htrace ⊢
  generalize Hook.runBefore ks (k.context sql) = y at hanswer htrace ⊢
  obtain ⟨x, es⟩ := x
  obtain ⟨y, fs⟩ := y
  dsimp only at hanswer htrace
  subst hanswer
  cases x with
  | error reason => exact ⟨rfl, htrace.append (.refl _)⟩
  | ok c => exact ⟨rfl, (htrace.append (.cons (h.runAfter_alike c _))).append (.refl _)⟩

theorem conclude_alike {α β : Type} {x y : Except Error α × List (Event ι)} (hanswer : x.1 = y.1)
    (htrace : SameBut label x.2 y.2) (finish : α → Consult β) (g : Registry) :
    (conclude x finish g).answer = (conclude y finish g).answer ∧
      (conclude x finish g).registry = (conclude y finish g).registry ∧
        SameBut label (conclude x finish g).trace (conclude y finish g).trace := by
  obtain ⟨a, es⟩ := x
  obtain ⟨b, fs⟩ := y
  dsimp only at hanswer htrace
  subst hanswer
  cases a with
  | error err => exact ⟨rfl, rfl, htrace⟩
  | ok a => exact ⟨rfl, rfl, htrace.append (.refl _)⟩

/-- **Any other statement runs as it would without the guard**: with the same answer and the same
models kept, after the same calls and with the same log. -/
theorem serve_alike (h : Guarded label hs ks) (hk : k.kind ≠ .delete) (drv : Driver) :
    ((db.hooked hs).serve drv k g).answer = ((db.hooked ks).serve drv k g).answer ∧
      ((db.hooked hs).serve drv k g).registry = ((db.hooked ks).serve drv k g).registry ∧
        SameBut label ((db.hooked hs).serve drv k g).trace
          ((db.hooked ks).serve drv k g).trace := by
  by_cases hown : k.owner = db.id
  case neg =>
    rw [serve_foreign_hooked hs drv hown, serve_foreign_hooked ks drv hown]
    exact ⟨rfl, rfl, .nil⟩
  rw [serve_own_hooked hs drv hown, serve_own_hooked ks drv hown]
  cases ((k.build db.core).run g).answer with
  | error err => exact ⟨rfl, rfl, .refl _⟩
  | ok sql =>
    obtain ⟨hanswer, htrace⟩ := submit_alike db h hk drv sql
    obtain ⟨hconclude, hregistry, hrest⟩ :=
      conclude_alike hanswer htrace (k.finish db.core.accessor) ((k.build db.core).run g).registry
    exact ⟨hconclude, hregistry, .append (.refl _) hrest⟩

theorem registry_conclude_pure {α : Type} (x : Except Error α × List (Event ι)) (g : Registry) :
    (conclude x Consult.pure g).registry = g := by
  obtain ⟨err | a, es⟩ := x <;> rfl

/-- A DELETE keeps the models that it is built with, whatever the hooks. -/
theorem registry_delete (hk : k.kind = .delete) (hs ks : List (Hook ι)) (drv : Driver) :
    ((db.hooked hs).serve drv k g).registry = ((db.hooked ks).serve drv k g).registry := by
  cases k with
  | delete e q =>
    by_cases hown : (Call.delete e q).owner = db.id
    case neg =>
      rw [serve_foreign_hooked hs drv hown, serve_foreign_hooked ks drv hown]
    rw [serve_own_hooked hs drv hown, serve_own_hooked ks drv hown]
    cases (((Call.delete e q).build db.core).run g).answer with
    | error err => rfl
    | ok sql =>
      exact (registry_conclude_pure _ _).trans (registry_conclude_pure _ _).symm
  | _ => cases hk

/-- The same use with and without the guard. -/
structure Job.Guarded (label : ι) (j o : Job ι) : Prop where
  hooks : Hook.Guarded label j.hooks o.hooks
  driver : o.driver = j.driver
  call : o.call = j.call

/-- **No DELETE gets past the guard, and nothing else shows it.** Uses of a database are served one
by one, and at each of them the hooks are some others and one that refuses every DELETE. Then no
DELETE reaches the driver, and those that can be built for this database are aborted. Without that
hook, all other statements have the same answers, after the same events but for its own. -/
theorem deny_delete (db : Db ι) (g : Registry) {jobs others : List (Job ι)}
    (h : List.Forall₂ (Job.Guarded label) jobs others) :
    (∀ s ∈ db.serveEach g jobs, s.call.kind = .delete → Denied db g.look s) ∧
      List.Forall₂ (Alike label) (db.serveEach g jobs) (db.serveEach g others) := by
  induction h generalizing g with
  | nil => exact ⟨fun _ hs => (nomatch hs), .nil⟩
  | @cons j o jobs others hjob _ ih =>
    obtain ⟨hhooks, hdriver, hcall⟩ := hjob
    obtain ⟨hs, drv, k⟩ := j
    obtain ⟨ks, drv', k'⟩ := o
    dsimp only at hhooks hdriver hcall
    subst hdriver hcall
    -- both databases keep the same models, so the rest is served from the same registry
    have hregistry : ((db.hooked hs).serve drv' k' g).registry =
        ((db.hooked ks).serve drv' k' g).registry := by
      by_cases hk : k'.kind = .delete
      · exact registry_delete hk hs ks drv'
      · exact (serve_alike hhooks hk drv').2.1
    obtain ⟨hdenied, halike⟩ := ih ((db.hooked hs).serve drv' k' g).registry
    rw [look_serve] at hdenied
    constructor
    · intro s hmem hk
      rcases List.mem_cons.1 hmem with rfl | hmem
      · exact serve_denied hhooks hk drv'
      · exact hdenied s hmem hk
    · rw [hregistry] at halike
      simp only [serveEach, hregistry]
      refine .cons ?_ halike
      by_cases hk : k'.kind = .delete
      · exact .delete hk
      · obtain ⟨hanswer, -, htrace⟩ := serve_alike hhooks hk drv'
        rw [hanswer]
        exact .other htrace

/-- The hooks of the database, with and without the guard, at all uses. -/
theorem guarded_jobs (h : Guarded label hs ks) (jobs : List (Driver × Call)) :
    List.Forall₂ (Job.Guarded label) (jobs.map fun j => ⟨hs, j.1, j.2⟩)
      (jobs.map fun j => ⟨ks, j.1, j.2⟩) := by
  rw [List.forall₂_map_left_iff, List.forall₂_map_right_iff, List.forall₂_same]
  exact fun _ _ => ⟨h, rfl, rfl⟩

end Db

namespace Sample

def mark : Leaf String :=
  { Leaf.silent "mark" with before := fun c => .amend (String.join ["/* mark */ ", c.sql]) }

/-- Hooks with a guard inside a composite one, behind a hook that changes the SQL. -/
def guarded : List (Hook String) :=
  [.composite [.leaf mark, .composite [.leaf (.denyDelete "deny")]], .leaf (.silent "last")]

def unguarded : List (Hook String) :=
  [.composite [.leaf mark, .composite []], .leaf (.silent "last")]

/-- A driver without rows. -/
def rowless : Driver :=
  ⟨fun _ _ => ⟨.ok (.ofColumns []), 0⟩, fun _ _ => ⟨.ok ⟨1, none⟩, 0⟩⟩

/-- People are deleted, read and inserted. -/
def uses : List (Driver × Db.Call) :=
  [(rowless, .delete person ⟨1, Delete.everything⟩),
    (rowless, .getMulti person Record.initial ⟨1, Select.everything⟩),
    (rowless, .insert person ⟨1, ⟨[al], [], none⟩⟩)]

end Sample

namespace Db

open Sample

theorem deny_delete_people : Hook.Guarded "deny" guarded unguarded ∧
    let db : Db String := ⟨1, ⟨.mysql, .direct⟩, guarded, none⟩
    (∀ s ∈ db.serveAll .empty uses, s.call.kind = .delete → Denied db Registry.empty.look s) ∧
      List.Forall₂ (Alike "deny") (db.serveAll .empty uses)
        ((db.hooked unguarded).serveAll .empty uses) := by
  have hguard : Hook.Guarded "deny" guarded unguarded :=
    .inside (.there (.inside .here []) _) _
  refine ⟨hguard, ?_⟩
  intro db
  rw [serveAll_eq, serveAll_eq]
  exact deny_delete db .empty (guarded_jobs hguard uses)

end Db

end RecordSql
