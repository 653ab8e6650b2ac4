import RecordSql.Db
import RecordSql.Proofs.Requests

/-!
# Uses of a database

The four ways to run a statement differ in what they build, in which of the driver's two answers
they ask for and in what they make of it. In between they go through the hooks in the same way.

* `Db.Call`: a use of a database; `Db.serve` runs it, and `Db.serveAll` runs many in a row.
* `Db.serve_eq`: **every use builds, performs and finishes**, each in its own way.
* `Db.serve_foreign`, `Db.serve_unbuilt`, `Db.serve_built`: a use by what becomes of its statement.
* `Db.look_serve`: no use changes what a later one builds.
-/

namespace RecordSql

/-- The calls of hooks and of the driver, without what is logged. -/
def Event.calls {ι : Type} (es : List (Event ι)) : List (Event ι) :=
  es.filter fun
    | .log _ => false
    | .before .. | .query .. | .exec .. | .after .. => true

namespace Event

variable {ι : Type}

@[simp] theorem calls_append (es fs : List (Event ι)) : calls (es ++ fs) = calls es ++ calls fs :=
  List.filter_append es fs

@[simp] theorem calls_before (label : ι) (c : Context) (a : Action) (es : List (Event ι)) :
    calls (.before label c a :: es) = .before label c a :: calls es := rfl

@[simp] theorem calls_after (label : ι) (c : Context) (o : Outcome) (es : List (Event ι)) :
    calls (.after label c o :: es) = .after label c o :: calls es := rfl

@[simp] theorem calls_log (entries : List LogEntry) :
    calls (entries.map .log : List (Event ι)) = [] := by
  simp [calls]

end Event

namespace Db

variable {ι : Type}

/-- A use of a database, for records of type `e`. Reading starts from a fresh record. -/
inductive Call where
  | get (e : Entity) (fresh : Record e) (q : Bound Select)
  | getMulti (e : Entity) (fresh : Record e) (q : Bound Select)
  | insert (e : Entity) (q : Bound (Insert e))
  | delete (e : Entity) (q : Bound Delete)

namespace Call

/-- What the caller gets. -/
def Result : Call → Type
  | .get e _ _ => Record e
  | .getMulti e _ _ => List (Record e)
  | .insert .. | .delete .. => ExecResult

/-- What the driver answers. -/
def Reply : Call → Type
  | .get .. | .getMulti .. => Rows
  | .insert .. | .delete .. => ExecResult

/-- The database that the statement was made for. -/
def owner : Call → Nat
  | .get _ _ q | .getMulti _ _ q => q.owner
  | .insert _ q => q.owner
  | .delete _ q => q.owner

/-- The statement's SQL. -/
def build (core : Core) : Call → Consult Sql
  | .get e _ q | .getMulti e _ q => q.statement.build core.dialect e
  | .insert _ q => q.statement.build core.dialect core.accessor
  | .delete e q => q.statement.build core.dialect e

/-- The statement as the first hook sees it. -/
def context (sql : Sql) : Call → Context
  | .get e _ _ | .getMulti e _ _ => ⟨.select, sql.text, sql.args, e.path⟩
  | .insert e _ => ⟨.insert, sql.text, sql.args, e.path⟩
  | .delete e _ => ⟨.delete, sql.text, sql.args, e.path⟩

/-- The call of the driver. -/
def event : Call → String → List Value → Event ι
  | .get .. | .getMulti .. => .query
  | .insert .. | .delete .. => .exec

def ask (drv : Driver) : (k : Call) → String → List Value → Timed k.Reply
  | .get .. | .getMulti .. => drv.query
  | .insert .. | .delete .. => drv.exec

/-- How an answer that is no failure is told to hooks. -/
def success : (k : Call) → k.Reply → Outcome
  | .get .. | .getMulti .. => fun _ => .rows
  | .insert .. | .delete .. => fun r => .affected r.rowsAffected

/-- What is made of an answer that is no failure: the record of the first row, those of all rows, or
the answer itself. -/
def finish (a : Accessor) : (k : Call) → k.Reply → Consult k.Result
  | .get e fresh _ => fun rows => (Consult.model e).bind fun m => .ofExcept <|
    match rows.next with
    | (false, _) => .error .noRows
    | (true, rows) => fill a m fresh rows
  | .getMulti e fresh _ => fun rows => (Consult.model e).bind fun m => .ofExcept <|
    fillAll a m fresh rows.size rows
  | .insert .. | .delete .. => .pure

end Call

/-- A use of the database, from start to end. -/
def serve (db : Db ι) (drv : Driver) : (k : Call) → Registry → Run ι k.Result
  | .get e fresh q => db.get drv e fresh q
  | .getMulti e fresh q => db.getMulti drv e fresh q
  | .insert e q => db.insert drv e q
  | .delete e q => db.delete drv e q

/-- A use that has ended, with the driver as it was at the time. -/
structure Served (ι : Type) where
  driver : Driver
  call : Call
  answer : Except Error call.Result
  trace : List (Event ι)

/-- Uses of the database, one after the other, each with the driver as it is by then. -/
def serveAll (db : Db ι) : Registry → List (Driver × Call) → List (Served ι)
  | _, [] => []
  | g, (drv, k) :: jobs =>
    let run := db.serve drv k g
    ⟨drv, k, run.answer, run.trace⟩ :: db.serveAll run.registry jobs

/-- The statement of a use through the hooks and the driver. -/
def submit (db : Db ι) (drv : Driver) (k : Call) (sql : Sql) :
    Except Error k.Reply × List (Event ι) :=
  db.perform (k.context sql) k.event (k.ask drv) k.success

/-- Go on from the driver's answer, unless it is a failure. -/
def conclude {α β : Type} (x : Except Error α × List (Event ι)) (finish : α → Consult β)
    (g : Registry) : Run ι β :=
  match x with
  | (.error err, es) => ⟨.error err, g, es⟩
  | (.ok a, es) =>
    let r := (finish a).run g
    ⟨r.answer, r.registry, es ++ r.log.map .log⟩

variable {db : Db ι} {drv : Driver} {k : Call} {g : Registry}

theorem run_model_bind {α : Type} (e : Entity) (make : Model → Except Error α) (g : Registry) :
    ((Consult.model e).bind fun m => .ofExcept (make m)).run g =
      ⟨(g.model e).answer.bind make, (g.model e).registry, (g.model e).log⟩ := by
  show (Consult.ask e fun m => .ofExcept (make m)).run g = _
  rw [Consult.run]
  rcases g.model e with ⟨err | m, r, log⟩
  · rfl
  · simp only [Except.bind]
    cases make m <;> simp [Consult.ofExcept, Consult.run]

/-- Only what is built counts, and what is done with it. -/
theorem withBuilt_congr {σ β : Type} {q : Bound σ} {build : σ → Consult Sql}
    {next next' : Sql → Registry → Run ι β} (h : ∀ sql g, next sql g = next' sql g) :
    db.withBuilt q build g next = db.withBuilt ⟨q.owner, build q.statement⟩ (·) g next' := by
  rw [show next = next' from funext fun sql => funext (h sql)]
  rfl

theorem withRows_eq {α : Type} {e : Entity} {q : Bound Select}
    (make : Rows → Model → Except Error α) : db.withRows drv e q g make =
      db.withBuilt ⟨q.owner, q.statement.build db.core.dialect e⟩ (·) g fun sql =>
        conclude (db.perform ⟨.select, sql.text, sql.args, e.path⟩ .query drv.query fun _ => .rows)
          fun rows => (Consult.model e).bind fun m => .ofExcept (make rows m) := by
  apply withBuilt_congr
  intro sql g
  dsimp only
  -- whether the driver fails or not, the same comes after it
  rcases db.perform ⟨.select, sql.text, sql.args, e.path⟩ .query drv.query (fun _ => .rows)
    with ⟨err | rows, es⟩
  · rfl
  · simp only [conclude, run_model_bind]

theorem change_eq {σ : Type} {kind : StatementKind} {e : Entity} {q : Bound σ}
    (build : σ → Consult Sql) : db.change drv kind e q build g =
      db.withBuilt ⟨q.owner, build q.statement⟩ (·) g fun sql =>
        conclude (db.perform ⟨kind, sql.text, sql.args, e.path⟩ .exec drv.exec
          fun r => .affected r.rowsAffected) .pure := by
  apply withBuilt_congr
  intro sql g
  dsimp only
  rcases db.perform ⟨kind, sql.text, sql.args, e.path⟩ .exec drv.exec
    (fun r => .affected r.rowsAffected) with ⟨err | r, es⟩
  · rfl
  · simp [conclude, Consult.run]

/-- **Every use builds, performs and finishes**, each in its own way. -/
theorem serve_eq (db : Db ι) (drv : Driver) (k : Call) (g : Registry) :
    db.serve drv k g = db.withBuilt ⟨k.owner, k.build db.core⟩ (·) g fun sql =>
      conclude (db.submit drv k sql) (k.finish db.core.accessor) := by
  cases k with
  | get e fresh q => exact withRows_eq _
  | getMulti e fresh q => exact withRows_eq _
  | insert e q => exact change_eq fun q : Insert e => q.build db.core.dialect db.core.accessor
  | delete e q => exact change_eq fun q : Delete => q.build db.core.dialect e

/-! ## A use by what becomes of its statement -/

section Conclude

variable {α β : Type} (x : Except Error α × List (Event ι)) (finish : α → Consult β)

theorem answer_conclude : (conclude x finish g).answer =
    x.1.bind fun a => (finish a).eval g.look := by
  obtain ⟨err | a, es⟩ := x
  · rfl
  · exact Consult.answer_run _ g

theorem calls_conclude :
    Event.calls (conclude x finish g).trace = Event.calls x.2 := by
  obtain ⟨err | a, es⟩ := x
  · rfl
  · simp [conclude]

theorem look_conclude (e : Entity) : (conclude x finish g).registry.look e = g.look e := by
  obtain ⟨err | a, es⟩ := x
  · rfl
  · exact Consult.look_run _ g e

end Conclude

theorem serve_foreign (h : k.owner ≠ db.id) : db.serve drv k g =
    ⟨.error (.other "statement was built by a different Db"), g, []⟩ := by
  rw [serve_eq]
  exact if_pos h

theorem serve_own (h : k.owner = db.id) : db.serve drv k g =
    match ((k.build db.core).run g).answer with
    | .error err => ⟨.error err, ((k.build db.core).run g).registry,
        ((k.build db.core).run g).log.map .log⟩
    | .ok sql =>
      let rest := conclude (db.submit drv k sql) (k.finish db.core.accessor)
        ((k.build db.core).run g).registry
      { rest with trace := ((k.build db.core).run g).log.map .log ++ rest.trace } := by
  rw [serve_eq]
  exact if_neg (not_not_intro h)

/-- **A statement that has been built** goes through the hooks and the driver once. -/
theorem serve_built (drv : Driver) {sql : Sql} (h : k.owner = db.id)
    (hsql : (k.build db.core).eval g.look = .ok sql) :
    (db.serve drv k g).answer = (db.submit drv k sql).1.bind
        (fun reply => (k.finish db.core.accessor reply).eval g.look) ∧
      Event.calls (db.serve drv k g).trace = Event.calls (db.submit drv k sql).2 := by
  -- the build keeps models, but rows are read with the same ones as before it
  have hlook : ((k.build db.core).run g).registry.look = g.look := funext (Consult.look_run _ g)
  rw [serve_own h, Consult.answer_run, hsql]
  constructor
  · rw [← hlook]
    exact answer_conclude _ _
  · rw [Event.calls_append, Event.calls_log, List.nil_append]
    exact calls_conclude _ _

/-- **No use changes what a later one builds.** -/
theorem look_serve (db : Db ι) (drv : Driver) (k : Call) (g : Registry) :
    (db.serve drv k g).registry.look = g.look := by
  funext e
  by_cases h : k.owner = db.id
  · rw [serve_own h]
    split
    · exact Consult.look_run _ g e
    · exact (look_conclude _ _ e).trans (Consult.look_run _ g e)
  · rw [serve_foreign h]

end Db

end RecordSql
