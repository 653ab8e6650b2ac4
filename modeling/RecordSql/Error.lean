/-!
# Errors

What can go wrong between a record and the database, by cause.

* `Error.message`: the error in words.
-/

namespace RecordSql

inductive Error where
  /-- The record type has no named fields. -/
  | unnamedFields (record : String)
  /-- A piece of a tag is no `key=value`. -/
  | malformedTag (piece : String)
  /-- Two fields have one column. -/
  | duplicateColumn (column : String)
  /-- Two fields have one name. -/
  | duplicateField (name : String)
  | unknownField (name : String)
  | unknownColumn (column : String)
  /-- A table stands where it may not. -/
  | unsupportedTable (what : String)
  /-- An expression stands where it may not. -/
  | unsupportedExpression (what : String)
  /-- An entry of an upsert is neither an assignment nor a column of the inserted table. -/
  | unsupportedAssignment (what : String)
  /-- A row has more columns than the record has fields. -/
  | tooManyColumns (got expected : Nat)
  /-- An insert has no record. -/
  | emptyInsert
  | noRows
  /-- A value of a row does not fit its field, or a record its serialized form. -/
  | decode (column message : String)
  /-- The database failed. -/
  | driver (message : String)
  /-- A hook refused the statement. -/
  | aborted (reason : String)
  | other (message : String)
deriving DecidableEq

/-- The error in words. -/
def Error.message : Error → String
  | .unnamedFields r =>
    String.join ["only named-field structs can be used as records, got `", r, "`"]
  | .malformedTag p => String.join ["invalid tag content: `", p, "`"]
  | .duplicateColumn c => String.join ["duplicate column: `", c, "`"]
  | .duplicateField n => String.join ["duplicate field: `", n, "`"]
  | .unknownField n => String.join ["unknown field: `", n, "`"]
  | .unknownColumn c => String.join ["unknown column: `", c, "`"]
  | .unsupportedTable w => String.join ["unsupported table reference: ", w]
  | .unsupportedExpression w => String.join ["unsupported expression type: ", w]
  | .unsupportedAssignment w => String.join ["unsupported assignable type: ", w]
  | .tooManyColumns g e =>
    String.join ["too many returned columns: got ", toString g, ", model has ", toString e,
      " fields"]
  | .emptyInsert => "insert requires at least one row"
  | .noRows => "no rows in result set"
  | .decode c m => String.join ["Decode error on column '", c, "': ", m]
  | .driver m => String.join ["Driver error: ", m]
  | .aborted r => String.join ["Query aborted by hook: ", r]
  | .other m => m

end RecordSql
