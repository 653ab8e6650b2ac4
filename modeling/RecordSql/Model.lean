import RecordSql.Entity
import RecordSql.Log
import RecordSql.Model.Tag
import RecordSql.Model.Naming

/-!
# Models

How the fields of a record type are mapped to the columns of a table.

* `Model`: the table, the fields with their columns, the two look-ups, and the tables of what
  checks, reads and sets each field.
* `Model.parse`: the model that a record type's own description gives.
* `Model.configure`: the model after options.
* `Model.resolveField`, `Model.resolveColumn`: a field by its name or by its column.
* `Model.checkValue`: whether a value could be stored in a field.
* `Model.accessorsOf`: what reads and sets the fields of records of a type.
-/

namespace RecordSql

/-- A mapped field. -/
structure Field where
  column : String
  name : String
  type : FieldType
  /-- Its place in the record. -/
  index : Nat
deriving DecidableEq

/-- Names and the places they stand for. -/
abbrev NameIndex := List (String × Nat)

/-- The index of the fields under a name that each has, or the first name that two have. -/
def NameIndex.build (key : Field → String) : NameIndex → List Field → Except String NameIndex
  | ix, [] => .ok ix
  | ix, f :: fs =>
    if (ix.lookup (key f)).isSome then .error (key f)
    else NameIndex.build key (ix ++ [(key f, f.index)]) fs

/-- What reads and what sets each field, by its place. -/
structure AccessorTable (e : Entity) where
  getters : List (Getter e)
  setters : List (Setter e)

structure Model where
  entity : Entity
  tableName : String
  fields : List Field
  byName : NameIndex
  byColumn : NameIndex
  /-- What checks values for each field, by its place. -/
  checks : List Check
  accessors : AccessorTable entity

/-- A change to a parsed model. -/
inductive ModelOption where
  /-- The field is mapped to the column. -/
  | column (field column : String)
  /-- The table has the name. -/
  | table (name : String)
deriving DecidableEq

namespace Model

/-- The column of a declared field: the one of its tag, or one called after the field. -/
def columnOf (f : FieldSpec) : Except Error String :=
  match Tag.parse f.tag with
  | .error e => .error e
  | .ok kvs => match Tag.lookup? "column" kvs with
    | some c => .ok (if c.isEmpty then underscore f.name else c)
    | none => .ok (underscore f.name)

/-- What has been read of a description so far: an entry for each field in every list. -/
structure Parsed (e : Entity) where
  fields : List Field
  getters : List (Getter e)
  setters : List (Setter e)
  checks : List Check

def Parsed.cons {e : Entity} (f : Field) (d : Descriptor e) (p : Parsed e) : Parsed e :=
  ⟨f :: p.fields, d.get :: p.getters, d.set :: p.setters, d.check :: p.checks⟩

/-- The mapped fields with their functions, from place `i` on. -/
def parseFields {e : Entity} : Nat → List (Descriptor e) → Except Error (Parsed e)
  | _, [] => .ok ⟨[], [], [], []⟩
  | i, d :: ds => match columnOf d.spec with
    | .error err => .error err
    | .ok c => (parseFields (i + 1) ds).map (.cons ⟨c, d.spec.name, d.spec.storage.fieldType, i⟩ d)

def tableOf (e : Entity) : String := if e.table.isEmpty then underscore e.typeName else e.table

/-- The model with its look-up by column made anew. -/
def indexColumns (m : Model) : Except Error Model :=
  match NameIndex.build Field.column [] m.fields with
  | .error c => .error (.duplicateColumn c)
  | .ok ix => .ok { m with byColumn := ix }

/-- The model of a record type by its own description. -/
def parse (e : Entity) : Except Error Model :=
  if e.shape ≠ .named then .error (.unnamedFields e.typeName)
  else match parseFields 0 e.describe with
    | .error err => .error err
    | .ok p => match NameIndex.build Field.name [] p.fields with
      | .error n => .error (.duplicateField n)
      | .ok ix => indexColumns
        ⟨e, tableOf e, p.fields, ix, [], p.checks, ⟨p.getters, p.setters⟩⟩

/-- The field at a place that a look-up gave. -/
def at? (m : Model) (i : Option Nat) : Option Field := i.bind (m.fields[·]?)

def field? (m : Model) (name : String) : Option Field := m.at? (m.byName.lookup name)

def fieldByColumn? (m : Model) (column : String) : Option Field :=
  m.at? (m.byColumn.lookup column)

def resolveField (m : Model) (name : String) : Except Error Field :=
  match m.field? name with
  | some f => .ok f
  | none => .error (.unknownField name)

def resolveColumn (m : Model) (column : String) : Except Error Field :=
  match m.fieldByColumn? column with
  | some f => .ok f
  | none => .error (.unknownColumn column)

/-- The model after one option. The look-up by column is left as it was. -/
def apply (m : Model) : ModelOption → Except Error Model
  | .column field column => match m.resolveField field with
    | .error e => .error e
    | .ok f => .ok { m with fields := m.fields.modify f.index ({ · with column }) }
  | .table name => .ok { m with tableName := name }

/-- The model after options, in order. -/
def applyAll (m : Model) : List ModelOption → Except Error Model
  | [] => .ok m
  | o :: os => match m.apply o with
    | .error e => .error e
    | .ok m => m.applyAll os

/-- The model after options, if its columns are still different. -/
def configure (m : Model) (os : List ModelOption) : Except Error Model :=
  match m.applyAll os with
  | .error e => .error e
  | .ok m => m.indexColumns

/-- Whether `v` could be stored in `f`. Errors name the column. -/
def checkValue (m : Model) (f : Field) (v : Value) : Except Error Unit :=
  match m.checks[f.index]? with
  | some check => (check v).mapError fun e => .decode f.column e.message
  | none => .error (.unknownField f.name)

/-- What reads and sets the fields of records of type `e`, which only a model of this type has. -/
def accessorsOf (m : Model) (e : Entity) : Except Error (AccessorTable e) :=
  if h : m.entity = e then .ok (h ▸ m.accessors)
  else .error (.other
    (String.join ["model of `", m.entity.typeName, "` used to access `", e.path, "`"]))

/-- What is logged when a model has been parsed. -/
def parsedEntry (m : Model) : LogEntry :=
  ⟨.debug, .model,
    [("table", m.tableName), ("record", m.entity.typeName), ("fields", toString m.fields.length),
      ("message", "parsed model")]⟩

end Model

end RecordSql
