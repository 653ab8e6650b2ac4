import RecordSql.Model
import RecordSql.Record.Member
import RecordSql.Rows

/-!
# Access to records

Two ways to read a field of a record and to fill a record from a row.

* `Accessor.direct` goes through the fields themselves.
* `Accessor.reflect` goes through the serialized form.
* `Accessor.field`, `Accessor.populate`: reading a field, and filling a record.
-/

namespace RecordSql

inductive Accessor where
  | reflect
  | direct
deriving DecidableEq

def Accessor.name : Accessor → String
  | .reflect => "Reflect"
  | .direct => "Direct"

/-- A record after an attempt to fill it, and how the attempt ended. -/
structure Populated (e : Entity) where
  record : Record e
  result : Except Error Unit

namespace Model

/-- The fields of the columns of a row. -/
def resolveColumns (m : Model) (columns : List String) : Except Error (List Field) :=
  if m.fields.length < columns.length then
    .error (.tooManyColumns columns.length m.fields.length)
  else columns.mapM m.resolveColumn

/-- Where the value of a field is wanted when a row is scanned. -/
def slot (m : Model) (f : Field) : Slot := ⟨f.type, m.checkValue f⟩

end Model

/-- The field with what sets it. -/
def AccessorTable.target {e : Entity} (t : AccessorTable e) (f : Field) :
    Except Error (Field × Setter e) :=
  match t.setters[f.index]? with
  | some set => .ok (f, set)
  | none => .error (.unknownField f.name)

namespace Direct

variable {e : Entity}

/-- A field of a record, by its declared name. -/
def field (m : Model) (r : Record e) (name : String) : Except Error Value := do
  let f ← m.resolveField name
  let t ← m.accessorsOf e
  match t.getters[f.index]? with
  | some get => return get r
  | none => .error (.unknownField name)

/-- The fields of the columns of a row, with what sets them. -/
def targets (m : Model) (columns : List String) : Except Error (List (Field × Setter e)) := do
  let t ← m.accessorsOf e
  let fs ← m.resolveColumns columns
  fs.mapM t.target

/-- Set fields one after the other, up to the first that does not take its value. -/
def assign (r : Record e) : List (Field × Setter e × Value) → Populated e
  | [] => ⟨r, .ok ()⟩
  | (f, set, v) :: rest => match set r v with
    | .ok r => assign r rest
    | .error err => ⟨r, .error (.decode f.column err.message)⟩

/-- Fill a record from the current row. -/
def populate (m : Model) (r : Record e) (rows : Rows) : Populated e :=
  match targets m rows.columns with
  | .error err => ⟨r, .error err⟩
  | .ok ts => match rows.scan (ts.map fun t => m.slot t.1) with
    | ⟨_, some err⟩ => ⟨r, .error err⟩
    | ⟨vs, none⟩ => assign r (ts.zipWith (fun t v => (t.1, t.2, v)) vs)

end Direct

namespace Reflect

variable {e : Entity}

/-- The members of a record. Errors name its type. -/
def members (m : Model) (r : Record e) : Except Error Members :=
  match r.members with
  | .ok ms => .ok ms
  | .error message => .error (.decode m.entity.typeName message)

/-- A field of a record, by its declared name. -/
def field (m : Model) (r : Record e) (name : String) : Except Error Value := do
  let f ← m.resolveField name
  let ms ← members m r
  match ms.lookup f.name with
  | none => .error (.decode name "field missing from serialized record")
  | some x => match x.toValue f.type with
    | .ok v => .ok v
    | .error err => .error (.decode name err.message)

/-- The record of type `e` that the current row makes of `r`. -/
def populated (m : Model) (r : Record e) (rows : Rows) : Except Error (Record e) := do
  let fs ← m.resolveColumns rows.columns
  match rows.scan (fs.map m.slot) with
  | ⟨_, some err⟩ => .error err
  | ⟨vs, none⟩ =>
    let ms ← members m r
    let ms := (fs.zip vs).foldl (fun ms (f, v) => ms.insert f.name v.toMember) ms
    match Record.ofMembers ms with
    | .ok r => .ok r
    | .error message => .error (.decode m.entity.typeName message)

/-- Fill a record from the current row. -/
def populate (m : Model) (r : Record e) (rows : Rows) : Populated e :=
  match populated m r rows with
  | .ok r => ⟨r, .ok ()⟩
  | .error err => ⟨r, .error err⟩

end Reflect

namespace Accessor

variable {e : Entity}

/-- A field of a record, by its declared name. -/
def field : Accessor → Model → Record e → String → Except Error Value
  | .direct => Direct.field
  | .reflect => Reflect.field

/-- Fill a record from the current row. -/
def populate : Accessor → Model → Record e → Rows → Populated e
  | .direct => Direct.populate
  | .reflect => Reflect.populate

end Accessor

end RecordSql
