import RecordSql.Log
import RecordSql.Text.Truncate
import RecordSql.Value

/-!
# Hooks

Hooks see every statement before and after it runs. Before, they may amend its SQL or refuse it.

* `Context`: the statement as a hook sees it.
* `Action`, `Outcome`: what a hook answers before, and what it is told after.
* `Hook`: a single hook, or several that act as one. Single hooks are any functions of the context.
* `Hook.before`, `Hook.after`: a hook's part, with the calls of the single hooks in order.
* `Hook.runBefore`, `Hook.runAfter`: the parts of a list of hooks.
-/

namespace RecordSql

inductive StatementKind where
  | select
  | insert
  | delete
deriving DecidableEq

def StatementKind.name : StatementKind → String
  | .select => "SELECT"
  | .insert => "INSERT"
  | .delete => "DELETE"

structure Context where
  kind : StatementKind
  sql : String
  args : List Value
  /-- The record type. -/
  record : String
deriving DecidableEq

/-- How a statement ended. -/
inductive Outcome where
  | rows
  | affected (n : Nat)
  | error (message : String)
deriving DecidableEq

namespace Outcome

/-- A failure, with at most 512 bytes of its message. -/
def failed (message : String) : Outcome := .error (Text.truncate 512 message)

def text : Outcome → String
  | .rows => "rows"
  | .affected n => String.join [toString n, " affected"]
  | .error m => String.join ["error: ", m]

end Outcome

/-- What a hook answers before a statement runs. -/
inductive Action where
  /-- Let it run. -/
  | proceed
  /-- Let it run with other SQL. -/
  | amend (sql : String)
  /-- Refuse it. -/
  | abort (reason : String)
deriving DecidableEq

/-- A single hook. Its calls are known by its label. -/
structure Leaf (ι : Type) where
  label : ι
  before : Context → Action
  logBefore : Context → List LogEntry
  logAfter : Context → Outcome → List LogEntry

inductive Hook (ι : Type) where
  | leaf (l : Leaf ι)
  | composite (hs : List (Hook ι))

/-- What happens around a statement. -/
inductive Event (ι : Type) where
  /-- A hook was asked. -/
  | before (label : ι) (c : Context) (a : Action)
  /-- The database was asked for rows. -/
  | query (sql : String) (args : List Value)
  /-- The database was asked to make a change. -/
  | exec (sql : String) (args : List Value)
  /-- A hook was told. -/
  | after (label : ι) (c : Context) (o : Outcome)
  | log (entry : LogEntry)
deriving DecidableEq

namespace Hook

variable {ι : Type}

mutual

/-- What a hook answers, and the calls made for it. -/
def before : Hook ι → Context → Action × List (Event ι)
  | .leaf l, c => (l.before c, .before l.label c (l.before c) :: (l.logBefore c).map .log)
  | .composite hs, c => beforeAll hs c false

/-- The answer of several hooks as one. Each sees the SQL as the earlier ones left it, and the first
that refuses ends it. -/
def beforeAll : List (Hook ι) → Context → Bool → Action × List (Event ι)
  | [], c, amended => (if amended then .amend c.sql else .proceed, [])
  | h :: hs, c, amended => match before h c with
    | (.proceed, es) =>
      let (a, fs) := beforeAll hs c amended
      (a, es ++ fs)
    | (.amend sql, es) =>
      let (a, fs) := beforeAll hs { c with sql } true
      (a, es ++ fs)
    | (.abort reason, es) => (.abort reason, es)

end

mutual

/-- The calls made when a hook is told how a statement ended. -/
def after : Hook ι → Context → Outcome → List (Event ι)
  | .leaf l, c, o => .after l.label c o :: (l.logAfter c o).map .log
  | .composite hs, c, o => afterAll hs c o

def afterAll : List (Hook ι) → Context → Outcome → List (Event ι)
  | [], _, _ => []
  | h :: hs, c, o => after h c o ++ afterAll hs c o

end

/-- The context after all hooks have been asked, or the reason of the one that refused, and the
calls made. -/
def runBefore : List (Hook ι) → Context → Except String Context × List (Event ι)
  | [], c => (.ok c, [])
  | h :: hs, c => match h.before c with
    | (.proceed, es) =>
      let (r, fs) := runBefore hs c
      (r, es ++ fs)
    | (.amend sql, es) =>
      let (r, fs) := runBefore hs { c with sql }
      (r, es ++ fs)
    | (.abort reason, es) => (.error reason, es)

/-- The calls made when all hooks are told how a statement ended. -/
def runAfter (hs : List (Hook ι)) (c : Context) (o : Outcome) : List (Event ι) :=
  hs.flatMap fun h => h.after c o

end Hook

end RecordSql
