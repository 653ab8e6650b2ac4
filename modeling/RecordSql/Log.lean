/-!
# Log entries
-/

namespace RecordSql

inductive Level where
  | trace
  | debug
  | info
  | warn
  | error
deriving DecidableEq

def Level.name : Level → String
  | .trace => "TRACE"
  | .debug => "DEBUG"
  | .info => "INFO"
  | .warn => "WARN"
  | .error => "ERROR"

/-- What an entry is about. -/
inductive Channel where
  | model
  | sql
  | db
deriving DecidableEq

def Channel.name : Channel → String
  | .model => "model"
  | .sql => "sql"
  | .db => "db"

/-- A log entry: named texts. -/
structure LogEntry where
  level : Level
  channel : Channel
  fields : List (String × String)
deriving DecidableEq

end RecordSql
