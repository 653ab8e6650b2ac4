import RecordSql.Text.Case

/-!
# Names of tables and columns

* `underscore`: the name that a database uses for a name in camel case.
-/

namespace RecordSql

/-- The characters of a name after its first one: each upper-case letter begins a word. -/
def underscoreTail (cs : List Char) : List Char :=
  cs.flatMap fun c => if Text.isUppercase c then '_' :: Text.lowercase c else [c]

/-- The name in lower case, with `_` before every upper-case letter but a leading one: `FirstName`
becomes `first_name`, and `ID` becomes `i_d`. -/
def underscore (name : String) : String :=
  match name.toList with
  | [] => ""
  | c :: cs =>
    String.ofList ((if Text.isUppercase c then Text.lowercase c else [c]) ++ underscoreTail cs)

end RecordSql
