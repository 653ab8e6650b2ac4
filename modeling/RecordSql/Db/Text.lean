import RecordSql.Db

/-!
# Settings as text

* `Core.debug`, `Config.debug`, `Db.debug`: how statements are run, in one line each.
-/

namespace RecordSql

/-- `millis` milliseconds in the largest unit that gives a whole part. -/
def durationText (millis : Nat) : String :=
  if millis = 0 then "0ns"
  else if millis < 1000 then toString millis ++ "ms"
  else
    let ds := Nat.toDigits 10 (millis % 1000 + 1000)
    let frac := ((ds.drop 1).reverse.dropWhile (· = '0')).reverse
    toString (millis / 1000) ++ (if frac.isEmpty then "" else "." ++ String.ofList frac) ++ "s"

def thresholdText : Option Nat → String
  | none => "None"
  | some t => String.join ["Some(", durationText t, ")"]

/-- A name and its fields in braces. -/
def structText (name : String) (fields : List (String × String)) : String :=
  name ++ " \x7b " ++ ", ".intercalate (fields.map fun f => f.1 ++ ": " ++ f.2) ++ " \x7d"

namespace Core

def fieldTexts (c : Core) : List (String × String) :=
  [("dialect", Text.quoted c.dialect.name), ("accessor", c.accessor.name)]

/-- The settings and the number of models in use. -/
def debug (c : Core) (reg : Registry) : String :=
  structText "Core" (c.fieldTexts ++ [("models", toString reg.size)])

end Core

/-- What a `Db` is made from. -/
structure Config where
  core : Core
  /-- The registry to use, if it is not to have its own. -/
  registry : Option Registry
  slowThreshold : Option Nat

def Config.debug (c : Config) : String :=
  structText "DbConfig" (c.core.fieldTexts ++
    [("shared_registry", toString c.registry.isSome),
      ("slow_query_threshold", thresholdText c.slowThreshold)])

namespace Db

variable {ι : Type}

/-- A `Db` made from a configuration. -/
def ofConfig (id : Nat) (c : Config) (hooks : List (Hook ι)) : Db ι :=
  ⟨id, c.core, hooks, c.slowThreshold⟩

def debug (db : Db ι) (reg : Registry) : String :=
  String.join ["Db \x7b core: ", db.core.debug reg, ", hooks: ", toString db.hooks.length,
    ", slow_query_threshold: ", thresholdText db.slowThreshold, ", .. \x7d"]

end Db

/-- A composite hook in one line. -/
def compositeText (size : Nat) : String := structText "CompositeHook" [("hooks", toString size)]

end RecordSql
