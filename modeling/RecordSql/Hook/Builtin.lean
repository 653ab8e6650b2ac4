import RecordSql.Hook
import RecordSql.Value.Text

/-!
# Ready-made hooks

* `Leaf.silent`: does nothing.
* `Leaf.denyDelete`: refuses every DELETE.
* `Leaf.queryLog`: logs statements as they run.
* `Leaf.tracing`: logs statements at a chosen level, and failures.
-/

namespace RecordSql

/-- How statements are traced: the level, the most bytes of SQL to show, and whether arguments are
shown. -/
structure Tracing where
  level : Level
  maxLength : Option Nat
  withArgs : Bool

namespace Tracing

def default : Tracing := ⟨.debug, some 200, false⟩

/-- The SQL as far as it is shown. -/
def shorten (t : Tracing) (sql : String) : String :=
  match t.maxLength with
  | some limit => Text.truncate limit sql
  | none => sql

/-- The entry of a statement that is about to run. -/
def startEntry (t : Tracing) (c : Context) : LogEntry :=
  ⟨t.level, .sql,
    [("query_type", c.kind.name), ("record", c.record), ("param_count", toString c.args.length)] ++
      (if t.withArgs then [("args", Value.debugAll c.args)] else []) ++
      [("sql", t.shorten c.sql)]⟩

/-- The entry of a statement that failed. -/
def failureEntry (t : Tracing) (c : Context) (message : String) : LogEntry :=
  ⟨.warn, .sql,
    [("query_type", c.kind.name), ("error", message), ("sql", t.shorten c.sql),
      ("message", "statement failed")]⟩

end Tracing

namespace Leaf

variable {ι : Type}

def silent (label : ι) : Leaf ι := ⟨label, fun _ => .proceed, fun _ => [], fun _ _ => []⟩

/-- Refuses every DELETE and lets all else run as it is. -/
def denyDelete (label : ι) : Leaf ι :=
  { silent label with
    before := fun c =>
      if c.kind = .delete then .abort "DELETE statements are disabled" else .proceed }

/-- Logs SQL and arguments. -/
def queryLog (label : ι) : Leaf ι :=
  { silent label with
    logBefore := fun c =>
      [⟨.debug, .sql,
        [("sql", c.sql), ("args", Value.debugAll c.args), ("message", "query")]⟩] }

/-- Logs statements as `t` says, and the failed ones again. -/
def tracing (t : Tracing) (label : ι) : Leaf ι :=
  { silent label with
    logBefore := fun c => [t.startEntry c]
    logAfter := fun c o => match o with
      | .error message => [t.failureEntry c message]
      | _ => [] }

end Leaf

end RecordSql
