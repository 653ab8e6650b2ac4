import RecordSql.Value

/-!
# SQL text

* `Piece`: a part of a statement, with the arguments of the placeholders in it.
* `Sql`: pieces in a row. `Sql.text` and `Sql.args` are what the database gets of them; texts are
  put together with `++`.
* `Sql.commaList`: items with commas between them.
* `Dialect`: the databases that statements are written for.
-/

namespace RecordSql

inductive Piece where
  /-- Text without placeholders. -/
  | lit (s : String)
  /-- A placeholder with its argument. -/
  | hole (v : Value)
  /-- Text as it is, with the arguments of its placeholders. -/
  | raw (s : String) (args : List Value)
deriving DecidableEq

namespace Piece

def text : Piece → String
  | .lit s => s
  | .hole _ => "?"
  | .raw s _ => s

def args : Piece → List Value
  | .lit _ => []
  | .hole v => [v]
  | .raw _ args => args

end Piece

structure Sql where
  pieces : List Piece
deriving DecidableEq

namespace Sql

def text (s : Sql) : String := String.join (s.pieces.map Piece.text)

/-- The arguments of the placeholders, in order. -/
def args (s : Sql) : List Value := s.pieces.flatMap Piece.args

def lit (s : String) : Sql := ⟨[.lit s]⟩

def placeholder (v : Value) : Sql := ⟨[.hole v]⟩

def raw (s : String) (args : List Value) : Sql := ⟨[.raw s args]⟩

instance : Append Sql := ⟨fun a b => ⟨a.pieces ++ b.pieces⟩⟩

@[simp] theorem pieces_append (a b : Sql) : (a ++ b).pieces = a.pieces ++ b.pieces := rfl

@[simp] theorem text_lit (s : String) : (lit s).text = s := by simp [lit, text, Piece.text]

@[simp] theorem args_lit (s : String) : (lit s).args = [] := rfl

@[simp] theorem text_placeholder (v : Value) : (placeholder v).text = "?" := rfl

@[simp] theorem args_placeholder (v : Value) : (placeholder v).args = [v] := rfl

@[simp] theorem text_raw (s : String) (args : List Value) : (raw s args).text = s := by
  simp [raw, text, Piece.text]

@[simp] theorem args_raw (s : String) (args : List Value) : (raw s args).args = args := by
  simp [raw, Sql.args, Piece.args]

@[simp] theorem text_append (a b : Sql) : (a ++ b).text = a.text ++ b.text := by
  simp [text]

@[simp] theorem args_append (a b : Sql) : (a ++ b).args = a.args ++ b.args := by
  simp [args]

/-- Items with commas between them. -/
def commaList : List Sql → Sql
  | [] => lit ""
  | [a] => a
  | a :: b :: r => a ++ lit "," ++ commaList (b :: r)

/-- `s` in parentheses. -/
def parens (s : Sql) : Sql := lit "(" ++ s ++ lit ")"

/-- `head` and the items, or nothing at all if there are none. -/
def clause (head : String) (items : List Sql) : Sql :=
  if items.isEmpty then lit "" else lit head ++ commaList items

end Sql

inductive Dialect where
  | mysql
  | sqlite
deriving DecidableEq

namespace Dialect

def name : Dialect → String
  | .mysql => "mysql"
  | .sqlite => "sqlite"

/-- The character around identifiers. -/
def quote : Dialect → Char
  | .mysql => '\x60'
  | .sqlite => '\x60'

/-- An identifier between quotes. -/
def ident (d : Dialect) (s : String) : Sql :=
  .lit (String.ofList (d.quote :: s.toList ++ [d.quote]))

end Dialect

end RecordSql
