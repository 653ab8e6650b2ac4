import RecordSql.Storage

/-!
# Record types

* `Entity`: a record type as it describes itself: its name, its table and its fields.
* `Record`: the records of a type, one value a field.
* `Record.get`, `Record.set`: a field of a record as a value.
* `Descriptor`, `Entity.describe`: the fields with what reads, sets and checks them.
-/

namespace RecordSql

/-- How a record type lays out its fields. -/
inductive Shape where
  | named
  | tuple
  | unit
deriving DecidableEq

/-- How a field takes part in the serialized form of its record. -/
structure MemberRule where
  /-- The member's name, if it is not the field's. -/
  rename : Option String
  /-- The field is no member at all. -/
  skip : Bool
  /-- What is written instead of the field's own value. -/
  written : Option Json
deriving DecidableEq

/-- The member has the field's name and value. -/
def MemberRule.plain : MemberRule := ⟨none, false, none⟩

/-- A declared field: its name, its type, its tag and its part in the serialized form. -/
structure FieldSpec where
  name : String
  storage : Storage
  tag : String
  member : MemberRule
deriving DecidableEq

/-- What a record serializes as. -/
inductive SerialForm where
  | map
  | sequence
  /-- Serializing fails. -/
  | failing (message : String)
deriving DecidableEq

/-- A record type. Types are told apart by all that describes them. -/
structure Entity where
  /-- The full name, which no other type of the program has. -/
  path : String
  /-- The name that the table is called after. -/
  typeName : String
  /-- The table, if it is not called after the type. -/
  table : String
  shape : Shape
  fields : List FieldSpec
  form : SerialForm
deriving DecidableEq

/-- The type of the `i`-th field. -/
def Entity.storage (e : Entity) (i : Fin e.fields.length) : Storage := (e.fields.get i).storage

/-- A record: what each field holds. -/
abbrev Record (e : Entity) := (i : Fin e.fields.length) → (e.storage i).Carrier

namespace Record

variable {e : Entity}

/-- The record whose fields hold what fresh ones do. -/
def initial : Record e := fun i => (e.storage i).initial

/-- The `i`-th field. -/
def get (r : Record e) (i : Fin e.fields.length) : Value := (e.storage i).toValue (r i)

/-- The record with `x` in its `i`-th field. -/
def put (r : Record e) (i : Fin e.fields.length) (x : (e.storage i).Carrier) : Record e :=
  fun j => if h : i = j then h ▸ x else r j

theorem put_self (r : Record e) (i : Fin e.fields.length) (x : (e.storage i).Carrier) :
    r.put i x i = x := by
  simp [put]

theorem put_of_ne (r : Record e) {i j : Fin e.fields.length} (h : i ≠ j)
    (x : (e.storage i).Carrier) : r.put i x j = r j := by
  simp [put, h]

/-- The record with the value `v` in its `i`-th field. -/
def set (r : Record e) (i : Fin e.fields.length) (v : Value) : Except ValueError (Record e) :=
  ((e.storage i).ofValue v).map (r.put i)

/-- The values of all fields. -/
def values (r : Record e) : List Value := (List.finRange e.fields.length).map r.get

end Record

/-! ## Descriptors -/

/-- What reads a field. -/
abbrev Getter (e : Entity) := Record e → Value

/-- What sets a field to a value that it takes. -/
abbrev Setter (e : Entity) := Record e → Value → Except ValueError (Record e)

/-- What tells whether a field takes a value. -/
abbrev Check := Value → Except ValueError Unit

/-- A declared field with its functions. -/
structure Descriptor (e : Entity) where
  spec : FieldSpec
  get : Getter e
  set : Setter e
  check : Check

namespace Entity

def descriptor (e : Entity) (i : Fin e.fields.length) : Descriptor e :=
  ⟨e.fields.get i, fun r => r.get i, fun r v => r.set i v, (e.storage i).check⟩

/-- The fields in order, as the record type describes them. -/
def describe (e : Entity) : List (Descriptor e) :=
  (List.finRange e.fields.length).map e.descriptor

@[simp] theorem length_describe (e : Entity) : e.describe.length = e.fields.length := by
  simp [describe]

theorem getElem?_describe (e : Entity) (i : Fin e.fields.length) :
    e.describe[(i : Nat)]? = some (e.descriptor i) := by
  simp [describe]

@[simp] theorem map_spec_describe (e : Entity) : e.describe.map Descriptor.spec = e.fields := by
  apply List.ext_getElem?
  intro i
  by_cases h : i < e.fields.length
  · rw [List.getElem?_map, e.getElem?_describe ⟨i, h⟩, List.getElem?_eq_getElem h]
    rfl
  · simp [h]

end Entity

end RecordSql
