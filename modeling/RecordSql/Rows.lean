import RecordSql.Error
import RecordSql.Value.Coercion

/-!
# Rows

A cursor over rows in memory, which coerces each value to the type asked of it.

* `Rows`: columns, rows and the current row.
* `Rows.next`, `Rows.push`: moving on, and adding a row at the end.
* `Rows.scan`: the values of the current row, into slots.
-/

namespace RecordSql

structure Rows where
  columns : List String
  rows : List (List Value)
  /-- The place of the current row, none before the first move. Past the end there is no row. -/
  position : Option Nat
deriving DecidableEq

/-- Where a value is wanted: its type, and what else is asked of it. -/
structure Slot where
  type : FieldType
  accept : Value → Except Error Unit

/-- A slot that takes any value of its type. -/
def Slot.any (t : FieldType) : Slot := ⟨t, fun _ => .ok ()⟩

/-- The values that a scan has stored, and the error that ended it early. -/
structure Scan where
  stored : List Value
  fault : Option Error
deriving DecidableEq

namespace Rows

def ofColumns (columns : List String) : Rows := ⟨columns, [], none⟩

def size (r : Rows) : Nat := r.rows.length

/-- The cursor with one more row. -/
def push (r : Rows) (row : List Value) : Rows := { r with rows := r.rows ++ [row] }

/-- Move to the next row. Behind the last one the cursor stays at the end. -/
def next (r : Rows) : Bool × Rows :=
  let i := match r.position with
    | none => 0
    | some i => i + 1
  if i < r.size then (true, { r with position := some i })
  else (false, { r with position := some r.size })

def current? (r : Rows) : Option (List Value) := r.position.bind (r.rows[·]?)

/-- Store values under their columns, up to the first that its slot does not take. -/
def store : List String → List Slot → List Value → Scan
  | c :: cs, s :: ss, v :: vs => match v.coerce s.type with
    | .error e => ⟨[], some (.decode c e.message)⟩
    | .ok w => match s.accept w with
      | .error e => ⟨[], some e⟩
      | .ok () =>
        let rest := store cs ss vs
        { rest with stored := w :: rest.stored }
  | _, _, _ => ⟨[], none⟩

/-- Store the current row, which must have a value and a slot for every column. -/
def scan (r : Rows) (slots : List Slot) : Scan :=
  match r.current? with
  | none => ⟨[], some (.other "scan called without a current row")⟩
  | some row =>
    if slots.length ≠ r.columns.length ∨ row.length ≠ r.columns.length then
      ⟨[], some (.other (String.join ["scan expects ", toString r.columns.length,
        " destinations for ", toString row.length, " values, got ", toString slots.length]))⟩
    else store r.columns slots row

theorem scan_of_none {r : Rows} (h : r.current? = none) (slots : List Slot) :
    r.scan slots = ⟨[], some (.other "scan called without a current row")⟩ := by
  rw [scan, h]

theorem scan_of_length_eq {r : Rows} {slots : List Slot} {row : List Value}
    (h : r.current? = some row) (hslots : slots.length = r.columns.length)
    (hrow : row.length = r.columns.length) : r.scan slots = store r.columns slots row := by
  rw [scan, h]
  exact if_neg fun hne => hne.elim (· hslots) (· hrow)

theorem scan_of_length_ne {r : Rows} {slots : List Slot} {row : List Value}
    (h : r.current? = some row) (hne : slots.length ≠ r.columns.length ∨
      row.length ≠ r.columns.length) :
    r.scan slots = ⟨[], some (.other (String.join ["scan expects ", toString r.columns.length,
      " destinations for ", toString row.length, " values, got ", toString slots.length]))⟩ := by
  rw [scan, h]
  exact if_pos hne

end Rows

end RecordSql
