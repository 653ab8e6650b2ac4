import RecordSql.Record.Access
import RecordSql.Sql.Scope

/-!
# INSERT

* `Upsert`: what happens to rows that are already there.
* `Insert`: the records to insert.
* `Insert.Call`, `Insert.ofCalls`: a statement as the calls that make it up.
* `Insert.build`: its SQL.
-/

namespace RecordSql

/-- The assignments to make on a conflict. -/
structure Upsert where
  assigns : List Assignment
  /-- The fields whose conflict counts, for databases that ask. -/
  conflict : List String
deriving DecidableEq

structure Insert (e : Entity) where
  records : List (Record e)
  /-- The fields to insert; none means all. -/
  columns : List String
  upsert : Option Upsert

namespace Insert

variable {e : Entity}

def nothing : Insert e := ⟨[], [], none⟩

/-- A step in making a statement. -/
inductive Call (e : Entity) where
  | value (r : Record e)
  | values (rs : List (Record e))
  | columns (fields : List String)
  | upsert (u : Upsert)

def call (q : Insert e) : Call e → Insert e
  | .value r => { q with records := q.records ++ [r] }
  | .values rs => { q with records := q.records ++ rs }
  | .columns fields => { q with columns := fields }
  | .upsert u => { q with upsert := some u }

/-- The statement that the calls make of `nothing`. -/
def ofCalls (cs : List (Call e)) : Insert e := cs.foldl call nothing

open Sql

/-- The column of an entry of an upsert, which is one of the inserted table. -/
def upsertColumn (s : Scope) (c : Column) : Consult Sql :=
  if c.table.isSome then
    .fail (.unsupportedAssignment (String.join ["column `", c.name, "` qualified by a table"]))
  else do
    let f ← .ofExcept (s.model.resolveField c.name)
    return s.ident f.column

/-- The value that the rejected row has for a column. -/
def rejected (d : Dialect) (column : Sql) : Sql :=
  match d with
  | .mysql => lit "VALUES" ++ parens column
  | .sqlite => lit "excluded." ++ column

/-- One assignment. -/
def assignment (s : Scope) : Assignment → Consult Sql
  | .value field v => do
    let f ← .ofExcept (s.model.resolveField field)
    return s.ident f.column ++ lit "=" ++ placeholder v
  | .column c => do
    let column ← upsertColumn s c
    return column ++ lit "=" ++ rejected s.dialect column

/-- What leads to the assignments. -/
def conflictText (s : Scope) (conflict : List String) : Consult Sql :=
  match s.dialect with
  | .mysql => return lit " ON DUPLICATE KEY UPDATE "
  | .sqlite => do
    let cs ← s.fieldColumns s.model conflict
    return lit " ON CONFLICT" ++ (if cs.isEmpty then lit "" else parens (commaList cs)) ++
      lit " DO UPDATE SET "

def upsertText (s : Scope) : Option Upsert → Consult Sql
  | none => return lit ""
  | some u => do
    let head ← conflictText s u.conflict
    let assigns ← .all (assignment s) u.assigns
    return head ++ commaList assigns

/-- The fields to insert. -/
def fields (q : Insert e) (m : Model) : Except Error (List Field) :=
  if q.columns.isEmpty then .ok m.fields else q.columns.mapM m.resolveField

/-- One record as a tuple of placeholders. -/
def tuple (a : Accessor) (m : Model) (fs : List Field) (r : Record e) : Consult Sql := do
  let vs ← .all (fun f => .ofExcept (a.field m r f.name)) fs
  return parens (commaList (vs.map placeholder))

/-- The statement on a model. -/
def render (q : Insert e) (d : Dialect) (a : Accessor) (m : Model) : Consult Sql := do
  let s : Scope := ⟨d, m, .bare⟩
  let fs ← .ofExcept (q.fields m)
  let tuples ← .all (tuple a m fs) q.records
  let upsert ← upsertText s q.upsert
  return lit "INSERT INTO " ++ s.ident m.tableName ++
    parens (commaList (fs.map fun f => s.ident f.column)) ++ lit " VALUES " ++ commaList tuples ++
    upsert ++ lit ";"

/-- The statement for records of type `e`. -/
def build (q : Insert e) (d : Dialect) (a : Accessor) : Consult Sql :=
  if q.records.isEmpty then .fail .emptyInsert
  else do
    let m ← .model e
    q.render d a m

end Insert

end RecordSql
