import RecordSql.Hook
import RecordSql.Sql.Delete
import RecordSql.Sql.Insert
import RecordSql.Sql.Select

/-!
# Running statements

A database takes a statement, lets the hooks see it, passes it to the driver and makes records of
the rows.

* `Core`, `Db`: how statements are written and which hooks see them.
* `Driver`: what the database itself answers.
* `Bound`: a statement made for a certain `Db`, which no other runs.
* `Db.get`, `Db.getMulti`, `Db.insert`, `Db.delete`: a statement from start to end, with what
  happened on the way. Records of rows are fresh ones that have been filled.
-/

namespace RecordSql

/-- How statements are written. -/
structure Core where
  dialect : Dialect
  accessor : Accessor
deriving DecidableEq

/-- What a change did. -/
structure ExecResult where
  rowsAffected : Nat
  lastInsertId : Option Int64
deriving DecidableEq

/-- The driver's answer to a call, and the milliseconds that it took. -/
structure Timed (α : Type) where
  answer : Except Error α
  elapsed : Nat

structure Driver where
  query : String → List Value → Timed Rows
  exec : String → List Value → Timed ExecResult

structure Db (ι : Type) where
  /-- What tells this one from others. -/
  id : Nat
  core : Core
  hooks : List (Hook ι)
  /-- Statements that take longer, in milliseconds, are reported. -/
  slowThreshold : Option Nat

/-- A statement and the `Db` that it was made for. -/
structure Bound (σ : Type) where
  owner : Nat
  statement : σ

/-- The answer of a run, the registry afterwards, and what happened on the way. -/
structure Run (ι : Type) (α : Type) where
  answer : Except Error α
  registry : Registry
  trace : List (Event ι)

namespace Db

variable {ι α β : Type}

/-- What is logged when a hook refuses a statement. -/
def abortEntry (c : Context) (reason : String) : LogEntry :=
  ⟨.debug, .db,
    [("query_type", c.kind.name), ("reason", reason), ("message", "statement aborted by hook")]⟩

/-- What is logged when a statement was slow. -/
def slowEntry (c : Context) (threshold : Nat) : LogEntry :=
  ⟨.warn, .db,
    [("query_type", c.kind.name), ("threshold_ms", toString threshold), ("sql", c.sql),
      ("message", "slow query")]⟩

/-- The report of a statement that took longer than the threshold. -/
def slowReport (db : Db ι) (c : Context) (elapsed : Nat) : List (Event ι) :=
  match db.slowThreshold with
  | some t => if t < elapsed then [.log (slowEntry c t)] else []
  | none => []

/-- How the driver's answer is told to hooks. -/
def outcomeOf (success : α → Outcome) : Except Error α → Outcome
  | .ok a => success a
  | .error e => .failed e.message

/-- A statement through the hooks and the driver. The call is the event `event` and the driver's
answer that of `ask`. -/
def perform (db : Db ι) (c : Context) (event : String → List Value → Event ι)
    (ask : String → List Value → Timed α) (success : α → Outcome) :
    Except Error α × List (Event ι) :=
  match Hook.runBefore db.hooks c with
  | (.error reason, es) => (.error (.aborted reason), es ++ [.log (abortEntry c reason)])
  | (.ok c, es) =>
    let reply := ask c.sql c.args
    (reply.answer, es ++ event c.sql c.args ::
      Hook.runAfter db.hooks c (outcomeOf success reply.answer) ++ db.slowReport c reply.elapsed)

/-- Build a statement of this `Db` and go on with its SQL. -/
def withBuilt {σ : Type} (db : Db ι) (q : Bound σ) (build : σ → Consult Sql) (reg : Registry)
    (k : Sql → Registry → Run ι β) : Run ι β :=
  if q.owner ≠ db.id then
    ⟨.error (.other "statement was built by a different Db"), reg, []⟩
  else
    let built := (build q.statement).run reg
    let logged : List (Event ι) := built.log.map .log
    match built.answer with
    | .error e => ⟨.error e, built.registry, logged⟩
    | .ok sql =>
      let rest := k sql built.registry
      { rest with trace := logged ++ rest.trace }

/-- Build a SELECT, run it and go on with its rows and the model. -/
def withRows (db : Db ι) (drv : Driver) (e : Entity) (q : Bound Select) (reg : Registry)
    (k : Rows → Model → Except Error β) : Run ι β :=
  db.withBuilt q (·.build db.core.dialect e) reg fun sql reg =>
    let c : Context := ⟨.select, sql.text, sql.args, e.path⟩
    match db.perform c .query drv.query (fun _ => .rows) with
    | (.error err, es) => ⟨.error err, reg, es⟩
    | (.ok rows, es) =>
      let m := reg.model e
      ⟨m.answer.bind (k rows), m.registry, es ++ m.log.map .log⟩

/-- A fresh record filled from the current row. -/
def fill {e : Entity} (a : Accessor) (m : Model) (fresh : Record e) (rows : Rows) :
    Except Error (Record e) :=
  let p := a.populate m fresh rows
  p.result.map fun _ => p.record

/-- The records of the rows that are left, of which there are at most `fuel`. -/
def fillAll {e : Entity} (a : Accessor) (m : Model) (fresh : Record e) :
    Nat → Rows → Except Error (List (Record e))
  | 0, _ => .ok []
  | fuel + 1, rows => match rows.next with
    | (false, _) => .ok []
    | (true, rows) => match fill a m fresh rows with
      | .error err => .error err
      | .ok r => (fillAll a m fresh fuel rows).map (r :: ·)

/-- The record of the first row. -/
def get (db : Db ι) (drv : Driver) (e : Entity) (fresh : Record e) (q : Bound Select)
    (reg : Registry) : Run ι (Record e) :=
  db.withRows drv e q reg fun rows m => match rows.next with
    | (false, _) => .error .noRows
    | (true, rows) => fill db.core.accessor m fresh rows

/-- The records of all rows, if every row makes one. -/
def getMulti (db : Db ι) (drv : Driver) (e : Entity) (fresh : Record e) (q : Bound Select)
    (reg : Registry) : Run ι (List (Record e)) :=
  db.withRows drv e q reg fun rows m => fillAll db.core.accessor m fresh rows.size rows

/-- Build a statement that changes the database, and run it. -/
def change {σ : Type} (db : Db ι) (drv : Driver) (kind : StatementKind) (e : Entity) (q : Bound σ)
    (build : σ → Consult Sql) (reg : Registry) : Run ι ExecResult :=
  db.withBuilt q build reg fun sql reg =>
    let c : Context := ⟨kind, sql.text, sql.args, e.path⟩
    let (answer, es) := db.perform c .exec drv.exec (fun r => .affected r.rowsAffected)
    ⟨answer, reg, es⟩

def insert (db : Db ι) (drv : Driver) (e : Entity) (q : Bound (Insert e)) (reg : Registry) :
    Run ι ExecResult :=
  db.change drv .insert e q (·.build db.core.dialect db.core.accessor) reg

def delete (db : Db ι) (drv : Driver) (e : Entity) (q : Bound Delete) (reg : Registry) :
    Run ι ExecResult :=
  db.change drv .delete e q (·.build db.core.dialect e) reg

end Db

end RecordSql
