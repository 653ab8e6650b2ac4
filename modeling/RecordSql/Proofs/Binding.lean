import RecordSql.Proofs.Reading
import RecordSql.Proofs.Requests
import RecordSql.Proofs.Requirements

/-!
# What an INSERT binds

An INSERT has a tuple of placeholders for each record. Bound to them are the values of the record's
fields, each under the column of its field.

* `Insert.rowsText`: the text of a statement up to its upsert.
* `Insert.contents`, `Insert.build_contents`: the rows of values that a statement inserts, and the
  statement as its contents and its upsert.
* `Model.ColumnsOf`: the columns of fields.
* `Model.Describes.resolve_cases`, `Insert.rows_error`: the first field that is not declared, or
  that cannot be read.
* `Insert.upsertText_args`: an upsert binds the values that it sets.
* `Insert.Binds`: a statement has the columns asked for, and each value stands under its own.
* `Insert.Binding`: the ways in which building a statement can go.
* `Insert.build_binds`: **building goes one of them**, and what makes it fail.
-/

namespace RecordSql

open Sql

/-! ## The text of rows -/

/-- A name between quotes. -/
def ticked (name : String) : String := "`" ++ name ++ "`"

/-- Texts with commas between them, in parentheses. -/
def tupleText (xs : List String) : String := "(" ++ ",".intercalate xs ++ ")"

namespace Sql

theorem text_commaList (as : List Sql) : (commaList as).text = ",".intercalate (as.map text) := by
  induction as with
  | nil => rw [commaList, text_lit, List.map_nil, String.intercalate_nil]
  | cons a as ih =>
    cases as with
    | nil => rw [commaList, List.map_singleton, String.intercalate_singleton]
    | cons b bs =>
      rw [commaList, text_append, text_append, text_lit, ih, List.map_cons, List.map_cons,
        List.map_cons, String.intercalate_cons_cons]

theorem text_tuple (as : List Sql) : (parens (commaList as)).text = tupleText (as.map text) := by
  rw [parens, text_append, text_append, text_lit, text_lit, text_commaList]
  rfl

end Sql

theorem Scope.text_ident_ticked (s : Scope) (name : String) :
    (s.ident name).text = ticked name := by
  have hquote : s.dialect.quote = '\x60' := by cases s.dialect <;> rfl
  rw [Scope.ident, Dialect.ident, text_lit, hquote, ← String.toList_inj]
  simp [ticked]

theorem Scope.text_idents (s : Scope) (fs : List Field) :
    (fs.map fun f => s.ident f.column).map Sql.text = (fs.map Field.column).map ticked := by
  rw [List.map_map, List.map_map]
  exact List.map_congr_left fun f _ => s.text_ident_ticked f.column

namespace Insert

variable {e : Entity}

/-- The text of a statement up to its upsert: the table, the columns, and for each record a tuple of
as many placeholders. -/
def rowsText (table : String) (columns : List String) (records : ℕ) : String :=
  "INSERT INTO " ++ ticked table ++ tupleText (columns.map ticked) ++ " VALUES " ++
    ",".intercalate (List.replicate records (tupleText (List.replicate columns.length "?")))

/-- A record's values as a tuple of placeholders. -/
def valueTuple (vs : List Value) : Sql := parens (commaList (vs.map placeholder))

theorem text_valueTuple (vs : List Value) :
    (valueTuple vs).text = tupleText (List.replicate vs.length "?") := by
  have hmarks : (vs.map placeholder).map text = List.replicate vs.length "?" := by
    rw [List.map_map, List.eq_replicate_iff]
    refine ⟨List.length_map _, ?_⟩
    intro b hb
    obtain ⟨v, -, rfl⟩ := List.mem_map.1 hb
    rfl
  rw [valueTuple, text_tuple, hmarks]

theorem args_valueTuple (vs : List Value) : (valueTuple vs).args = vs := by
  simp only [valueTuple, args_parens, args_commaList, List.flatMap_map, args_placeholder]
  exact List.flatMap_singleton' vs

/-! ## What is inserted -/

/-- The model, the fields and the rows of values that a statement inserts. -/
def contents (q : Insert e) (look : Entity → Except Error Model) (a : Accessor) :
    Except Error (Model × List Field × List (List Value)) :=
  if q.records.isEmpty then .error .emptyInsert
  else do
    let m ← look e
    let fs ← q.fields m
    let rows ← q.records.mapM fun r => fs.mapM fun f => a.field m r f.name
    return (m, fs, rows)

variable {q : Insert e} {look : Entity → Except Error Model} {d : Dialect} {a : Accessor}
  {m : Model} {fs : List Field}

theorem tuple_eval (r : Record e) : (tuple a m fs r).eval look =
    (fs.mapM fun f => a.field m r f.name).map valueTuple := by
  have hall : (Consult.all (fun f => .ofExcept (a.field m r f.name)) fs).eval look =
      (fs.mapM fun f => a.field m r f.name).map (List.map id) := by
    apply Consult.eval_all_eq
    intro f
    rw [Consult.eval_ofExcept]
    cases a.field m r f.name <;> rfl
  rw [tuple, Consult.bind_eq, Consult.eval_bind, hall]
  cases fs.mapM fun f => a.field m r f.name with
  | error err => rfl
  | ok vs => simp [Except.map, Except.bind, valueTuple]

/-- **A statement is its contents and its upsert.** Neither the dialect nor the upsert counts for
the contents. -/
theorem build_contents : (q.build d a).eval look = do
    let (m, fs, rows) ← q.contents look a
    let upsert ← (upsertText ⟨d, m, .bare⟩ q.upsert).eval look
    return Clauses.sql ⟨fs, rows.map valueTuple, upsert⟩ ⟨d, m, .bare⟩ := by
  unfold build contents
  split
  · rfl
  cases hm : look e with
  | error err => simp [Consult.eval_bind, hm, Except.bind, bind]
  | ok m =>
    cases hfs : q.fields m with
    | error err => simp [Consult.eval_bind, hm, hfs, render, Except.bind, bind]
    | ok fs =>
      have htuples : (Consult.all (tuple a m fs) q.records).eval look = _ :=
        Consult.eval_all_eq tuple_eval q.records
      cases hrows : q.records.mapM fun r => fs.mapM fun f => a.field m r f.name with
      | error err =>
        simp [Consult.eval_bind, hm, hfs, htuples, hrows, render, Except.bind, bind, Except.map]
      | ok rows =>
        cases hup : (upsertText ⟨d, m, .bare⟩ q.upsert).eval look with
        | error err =>
          simp [Consult.eval_bind, hm, hfs, htuples, hrows, hup, render, Except.bind, bind,
            Except.map, pure, Except.pure]
        | ok upsert =>
          simp [Consult.eval_bind, hm, hfs, htuples, hrows, hup, render, Except.bind, bind,
            Except.map, pure, Except.pure, Clauses.sql]

/-- The names of the fields to insert: all of them if none are given. -/
def names (q : Insert e) : List String :=
  if q.columns.isEmpty then e.fields.map FieldSpec.name else q.columns

end Insert

/-! ## Names and values of fields -/

variable {e : Entity} {m : Model}

/-- A name is not resolved exactly if no field has it. -/
theorem Model.Describes.resolveField_error (hm : m.Describes e) {name : String} {err : Error} :
    m.resolveField name = .error err ↔ ¬ e.Declares name ∧ err = .unknownField name := by
  have hrequires : Consult.Requires (fun _ => .ok m) (.ofExcept (m.resolveField name))
      [.field e name] := Scope.resolve_requires hm name
  specialize hrequires err
  rw [Consult.eval_ofExcept, List.findSome?_singleton, Requirement.fault] at hrequires
  rw [hrequires]
  by_cases hname : e.Declares name <;> simp [hname, eq_comm]

/-- Names resolve to fields of these names, in order. -/
theorem Model.Follows.names_of_resolve (hm : m.Follows e) {names : List String} {fs : List Field}
    (h : names.mapM m.resolveField = .ok fs) : fs.map Field.name = names := by
  have hall := Except.mapM_ok.1 h
  clear h
  induction hall with
  | nil => rfl
  | cons hf _ ih => rw [List.map_cons, ih, (hm.resolveField_ok.1 hf).2]

/-- Names resolve to fields, or the first name that is of no field is the error. -/
theorem Model.Describes.resolve_cases (hm : m.Describes e) (names : List String) :
    (∃ fs, names.mapM m.resolveField = .ok fs ∧ fs.map Field.name = names ∧
        ∀ f ∈ fs, f ∈ m.fields) ∨
      ∃ first name rest, names.mapM m.resolveField = .error (.unknownField name) ∧
        names = first ++ name :: rest ∧ (∀ n ∈ first, e.Declares n) ∧ ¬ e.Declares name := by
  cases hfs : names.mapM m.resolveField with
  | ok fs =>
    exact .inl ⟨fs, rfl, hm.toFollows.names_of_resolve hfs, Model.mem_of_resolveFields hfs⟩
  | error err =>
    obtain ⟨first, name, rest, hnames, hfirst, hname⟩ := Except.mapM_error hfs
    obtain ⟨hunknown, rfl⟩ := hm.resolveField_error.1 hname
    refine .inr ⟨first, name, rest, rfl, hnames, ?_, hunknown⟩
    intro n hn
    obtain ⟨f, hf⟩ := hfirst n hn
    exact hm.toFollows.declares.2 ⟨f, hm.toFollows.resolveField_ok.1 hf⟩

/-- Names of fields resolve to these. -/
theorem Model.Describes.resolve_declared (hm : m.Describes e) {names : List String}
    (hnames : ∀ n ∈ names, e.Declares n) :
    ∃ fs, names.mapM m.resolveField = .ok fs ∧ fs.map Field.name = names ∧
      ∀ f ∈ fs, f ∈ m.fields := by
  rcases hm.resolve_cases names with hfields | ⟨first, name, rest, -, rfl, -, hname⟩
  · exact hfields
  · exact absurd (hnames name (by simp)) hname

/-- A name of no field is the error, behind others that are. -/
theorem Model.Describes.resolve_undeclared (hm : m.Describes e) {first rest : List String}
    {name : String} (hfirst : ∀ n ∈ first, e.Declares n) (hname : ¬ e.Declares name) :
    (first ++ name :: rest).mapM m.resolveField = .error (.unknownField name) := by
  refine Except.mapM_of_error ?_ (hm.resolveField_error.2 ⟨hname, rfl⟩)
  intro n hn
  obtain ⟨f, hf⟩ := hm.toFollows.declares.1 (hfirst n hn)
  exact ⟨f, hm.toFollows.resolveField_ok.2 hf⟩

/-- The fields to insert are those of the names, or there are none for the first name that is of no
field. -/
theorem Insert.fields_cases (hm : m.Describes e) (q : Insert e) :
    (∃ fs, q.fields m = .ok fs ∧ fs.map Field.name = q.names ∧ ∀ f ∈ fs, f ∈ m.fields) ∨
      ∃ first name rest, q.fields m = .error (.unknownField name) ∧
        q.names = first ++ name :: rest ∧ (∀ n ∈ first, e.Declares n) ∧ ¬ e.Declares name := by
  unfold fields names
  split
  · exact .inl ⟨m.fields, rfl, hm.toFollows.names_eq.symm, fun f hf => hf⟩
  · exact hm.resolve_cases q.columns

/-- The columns are those of the fields with these names, in order. -/
def Model.ColumnsOf (m : Model) (names columns : List String) : Prop :=
  List.Forall₂ (fun name column => ∃ f ∈ m.fields, f.name = name ∧ f.column = column) names columns

theorem Model.columnsOf_fields {fs : List Field} (hfs : ∀ f ∈ fs, f ∈ m.fields) :
    m.ColumnsOf (fs.map Field.name) (fs.map Field.column) := by
  rw [Model.ColumnsOf, List.forall₂_map_left_iff, List.forall₂_map_right_iff, List.forall₂_same]
  exact fun f hf => ⟨f, hfs f hf, rfl, rfl⟩

/-- The accessor reads the fields of these names in the record. -/
def Accessor.Reads (a : Accessor) (m : Model) (r : Record e) (names : List String) : Prop :=
  ∀ name ∈ names, ∃ v, a.field m r name = .ok v

/-- Where a value stands in rows of equal length that are written one after the other. -/
theorem getElem?_flatten {α : Type} {rows : List (List α)} {c : ℕ}
    (hc : ∀ row ∈ rows, row.length = c) {i j : ℕ} {row : List α} {x : α}
    (hrow : rows[i]? = some row) (hx : row[j]? = some x) : rows.flatten[i * c + j]? = some x := by
  induction rows generalizing i with
  | nil => cases hrow
  | cons r rows ih =>
    have hr : r.length = c := hc r List.mem_cons_self
    rw [List.flatten_cons]
    cases i with
    | zero =>
      cases hrow
      rw [Nat.zero_mul, Nat.zero_add]
      exact List.getElem?_append_left (List.getElem?_eq_some_iff.1 hx).1 ▸ hx
    | succ i =>
      have hskip : (i + 1) * c + j = r.length + (i * c + j) := by
        rw [Nat.succ_mul, hr]
        omega
      rw [hskip, List.getElem?_append_right (Nat.le_add_right _ _), Nat.add_sub_cancel_left]
      exact ih (fun s hs => hc s (List.mem_cons_of_mem _ hs)) hrow

/-! ## Upserts -/

/-- The values that are set by themselves. -/
def Assignment.args : Assignment → List Value
  | .value _ v => [v]
  | .column _ => []

def Upsert.args (u : Upsert) : List Value := u.assigns.flatMap Assignment.args

/-- Asking for a model fails exactly if the record type has none of its own. -/
theorem Registry.Reachable.look_error {g : Registry} (hg : g.Reachable) {err : Error} :
    g.look e = .error err ↔ Model.parse e = .error err := by
  induction hg with
  | empty => rfl
  | model _ f ih => rw [Registry.look_model, ih]
  | register _ f os ih =>
    rw [Registry.look_register]
    split
    · -- options have been registered, so there was a model to change
      rename_i hnew
      obtain ⟨-, hok⟩ := hnew
      constructor
      · intro h
        rw [h] at hok
        cases hok
      · intro h
        rw [Model.tailored, h] at hok
        cases hok
    · exact ih

namespace Insert

variable {s : Scope} {look : Entity → Except Error Model} {q : Insert e} {g : Registry}
  {d : Dialect} {a : Accessor}

theorem assignment_args {x : Assignment} {y : Sql} (h : (assignment s x).eval look = .ok y) :
    y.args = x.args := by
  cases x with
  | value field v =>
    obtain ⟨f, -, rfl⟩ := assignment_value_ok.1 h
    simp [Assignment.args]
  | column c =>
    obtain ⟨-, f, -, rfl⟩ := assignment_column_ok.1 h
    cases s.dialect <;> simp [rejected, Assignment.args]

theorem conflictText_args {conflict : List String} {y : Sql}
    (h : (conflictText s conflict).eval look = .ok y) : y.args = [] := by
  unfold conflictText at h
  split at h
  · rw [← Except.ok.inj h, args_lit]
  · simp only [Consult.bind_eq, Consult.eval_bind_ok] at h
    obtain ⟨cs, hcs, h⟩ := h
    obtain ⟨fs, -, rfl⟩ := Scope.fieldColumns_ok.1 hcs
    rw [← Except.ok.inj h]
    split <;> simp [List.flatMap_map]

/-- **An upsert binds the values that it sets**, in order. -/
theorem upsertText_args {u : Option Upsert} {y : Sql} (h : (upsertText s u).eval look = .ok y) :
    y.args = u.elim [] Upsert.args := by
  cases u with
  | none =>
    cases h
    rfl
  | some u =>
    obtain ⟨head, hhead, as, has, rfl⟩ := upsertText_ok.1 h
    rw [args_append, conflictText_args hhead, args_commaList, List.nil_append]
    exact Consult.flatMap_of_eval_all has fun _ _ _ => assignment_args

/-! ## How building goes -/

/-- The statement has the columns of the fields to insert, a tuple of placeholders for each record,
and then the upsert. Bound are the values of these fields, row by row, and then those that the
upsert sets. -/
structure Binds (q : Insert e) (a : Accessor) (m : Model) (columns : List String) (upsert : String)
    (sql : Sql) : Prop where
  mapped : m.ColumnsOf q.names columns
  text : sql.text = rowsText m.tableName columns q.records.length ++ upsert ++ ";"
  plain : q.upsert = none → upsert = ""
  value : ∀ i r j name, q.records[i]? = some r → q.names[j]? = some name →
    ∃ v, a.field m r name = .ok v ∧ sql.args[i * columns.length + j]? = some v
  count : sql.args.length =
    q.records.length * columns.length + (q.upsert.elim [] Upsert.args).length
  rest : sql.args.drop (q.records.length * columns.length) = q.upsert.elim [] Upsert.args

/-- The ways in which building a statement can go. What fails first is the error. -/
inductive Binding (q : Insert e) (g : Registry) (d : Dialect) (a : Accessor) :
    Except Error Sql → Prop where
  /-- There is no record. Nothing else is looked at. -/
  | empty (h : q.records = []) : Binding q g d a (.error .emptyInsert)
  /-- The record type has no model of its own. -/
  | unparsed {err : Error} (h : q.records ≠ []) (hm : Model.parse e = .error err) :
    Binding q g d a (.error err)
  /-- A name is that of no field, behind others that are. -/
  | unknown {m : Model} {first rest : List String} {name : String} (h : q.records ≠ [])
    (hm : (g.model e).answer = .ok m) (hnames : q.names = first ++ name :: rest)
    (hfirst : ∀ n ∈ first, e.Declares n) (hname : ¬ e.Declares name) :
    Binding q g d a (.error (.unknownField name))
  /-- A field of a record cannot be read, behind others that can, row by row. -/
  | unread {m : Model} {before after : List (Record e)} {r : Record e} {first rest : List String}
    {name : String} {err : Error} (hm : (g.model e).answer = .ok m)
    (hdeclared : ∀ n ∈ q.names, e.Declares n) (hrecords : q.records = before ++ r :: after)
    (hbefore : ∀ s ∈ before, a.Reads m s q.names) (hnames : q.names = first ++ name :: rest)
    (hfirst : a.Reads m r first) (hr : a.field m r name = .error err) :
    Binding q g d a (.error err)
  /-- The upsert cannot be rendered. -/
  | unresolved {m : Model} {err : Error} (h : q.records ≠ []) (hm : (g.model e).answer = .ok m)
    (hdeclared : ∀ n ∈ q.names, e.Declares n) (hread : ∀ r ∈ q.records, a.Reads m r q.names)
    (hu : (upsertText ⟨d, m, .bare⟩ q.upsert).eval g.look = .error err) :
    Binding q g d a (.error err)
  | built {m : Model} {columns : List String} {upsert sql : Sql} (h : q.records ≠ [])
    (hm : (g.model e).answer = .ok m) (hdeclared : ∀ n ∈ q.names, e.Declares n)
    (hread : ∀ r ∈ q.records, a.Reads m r q.names)
    (hu : (upsertText ⟨d, m, .bare⟩ q.upsert).eval g.look = .ok upsert)
    (hsql : q.Binds a m columns upsert.text sql) : Binding q g d a (.ok sql)

section Rows

variable {m : Model} {fs : List Field} {rows : List (List Value)} {upsert : Sql}

theorem text_rows (hc : ∀ vs ∈ rows, vs.length = fs.length) :
    (Clauses.sql ⟨fs, rows.map valueTuple, upsert⟩ ⟨d, m, .bare⟩).text =
      rowsText m.tableName (fs.map Field.column) rows.length ++ upsert.text ++ ";" := by
  have htuples : (rows.map valueTuple).map Sql.text =
      List.replicate rows.length (tupleText (List.replicate fs.length "?")) := by
    rw [List.map_map, List.eq_replicate_iff]
    refine ⟨List.length_map _, ?_⟩
    intro b hb
    obtain ⟨vs, hvs, rfl⟩ := List.mem_map.1 hb
    rw [Function.comp_apply, text_valueTuple, hc vs hvs]
  unfold rowsText
  simp only [Clauses.sql, text_append, text_lit, text_tuple, text_commaList, Scope.text_idents,
    htuples, Scope.text_ident_ticked, List.length_map]

theorem args_rows : (Clauses.sql ⟨fs, rows.map valueTuple, upsert⟩ ⟨d, m, .bare⟩).args =
    rows.flatten ++ upsert.args := by
  have hflat : rows.flatMap (fun vs => vs) = rows.flatten := List.flatMap_id
  simp [Clauses.sql, List.flatMap_map, args_valueTuple, hflat]

theorem length_of_rows
    (hrows : q.records.mapM (fun r => fs.mapM fun f => a.field m r f.name) = .ok rows) :
    ∀ vs ∈ rows, vs.length = fs.length := by
  intro vs hvs
  obtain ⟨r, -, hr⟩ := exists_of_forall₂ (Except.mapM_ok.1 hrows) hvs
  exact (Except.mapM_ok.1 hr).length_eq.symm

/-- Rows of values that have been read, one for each record, are what the statement binds. -/
theorem binds_rows (hnames : fs.map Field.name = q.names) (hfs : ∀ f ∈ fs, f ∈ m.fields)
    (hrows : q.records.mapM (fun r => fs.mapM fun f => a.field m r f.name) = .ok rows)
    (hu : (upsertText ⟨d, m, .bare⟩ q.upsert).eval look = .ok upsert) :
    q.Binds a m (fs.map Field.column) upsert.text
      (Clauses.sql ⟨fs, rows.map valueTuple, upsert⟩ ⟨d, m, .bare⟩) := by
  have hall := Except.mapM_ok.1 hrows
  have hrow := length_of_rows hrows
  have hflat : rows.flatten.length = q.records.length * fs.length := by
    rw [List.length_flatten, List.map_eq_replicate_iff.2 hrow, List.sum_replicate_nat,
      hall.length_eq]
  have hargs : (Clauses.sql ⟨fs, rows.map valueTuple, upsert⟩ ⟨d, m, .bare⟩).args =
      rows.flatten ++ q.upsert.elim [] Upsert.args := by
    rw [args_rows, upsertText_args hu]
  refine ⟨?_, ?_, ?_, ?_, ?_, ?_⟩
  · exact hnames ▸ Model.columnsOf_fields hfs
  · rw [text_rows hrow, hall.length_eq]
  · intro hnone
    rw [hnone] at hu
    cases hu
    exact text_lit ""
  · intro i r j name hr hname
    rw [← hnames, List.getElem?_map, Option.map_eq_some_iff] at hname
    obtain ⟨f, hf, rfl⟩ := hname
    obtain ⟨vs, hvs, hread⟩ := getElem?_of_forall₂ hall hr
    obtain ⟨v, hv, hfield⟩ := getElem?_of_forall₂ (Except.mapM_ok.1 hread) hf
    refine ⟨v, hfield, ?_⟩
    have hcell := getElem?_flatten hrow hvs hv
    rw [hargs, List.length_map, List.getElem?_append_left (List.getElem?_eq_some_iff.1 hcell).1]
    exact hcell
  · rw [hargs, List.length_append, hflat, List.length_map]
  · rw [hargs, List.length_map, ← hflat, List.drop_left]

end Rows

theorem build_of_error {err : Error} (h : q.contents look a = .error err) :
    (q.build d a).eval look = .error err := by
  rw [build_contents, h]
  rfl

theorem build_of_ok {m : Model} {fs : List Field} {rows : List (List Value)}
    (h : q.contents look a = .ok (m, fs, rows)) : (q.build d a).eval look =
      ((upsertText ⟨d, m, .bare⟩ q.upsert).eval look).map fun upsert =>
        Clauses.sql ⟨fs, rows.map valueTuple, upsert⟩ ⟨d, m, .bare⟩ := by
  rw [build_contents, h]
  cases hu : (upsertText ⟨d, m, .bare⟩ q.upsert).eval look with
  | error err => simp [bind, Except.bind, hu, Except.map]
  | ok upsert => simp [bind, Except.bind, hu, Except.map, pure, Except.pure]

/-- The first value that cannot be read, row by row. -/
theorem rows_error {m : Model} {fs : List Field} {err : Error}
    (hrows : q.records.mapM (fun r => fs.mapM fun f => a.field m r f.name) = .error err) :
    ∃ before r after first name rest, q.records = before ++ r :: after ∧
      (∀ s ∈ before, a.Reads m s (fs.map Field.name)) ∧
      fs.map Field.name = first ++ name :: rest ∧ a.Reads m r first ∧
      a.field m r name = .error err := by
  have hreads : ∀ (s : Record e) (gs : List Field), (∀ f ∈ gs, ∃ v, a.field m s f.name = .ok v) →
      a.Reads m s (gs.map Field.name) := by
    intro s gs hgs n hn
    obtain ⟨f, hf, rfl⟩ := List.mem_map.1 hn
    exact hgs f hf
  obtain ⟨before, r, after, hrecords, hbefore, hr⟩ := Except.mapM_error hrows
  obtain ⟨first, f, rest, rfl, hfirst, hf⟩ := Except.mapM_error hr
  refine ⟨before, r, after, first.map Field.name, f.name, rest.map Field.name, hrecords, ?_,
    by simp, hreads r first hfirst, hf⟩
  intro s hs
  obtain ⟨vs, hvs⟩ := hbefore s hs
  apply hreads
  intro g hg
  obtain ⟨v, -, hv⟩ := exists_of_forall₂ (Except.mapM_ok.1 hvs).flip hg
  exact ⟨v, hv⟩

theorem reads_of_rows {m : Model} {fs : List Field} {rows : List (List Value)}
    (hrows : q.records.mapM (fun r => fs.mapM fun f => a.field m r f.name) = .ok rows) :
    ∀ r ∈ q.records, a.Reads m r (fs.map Field.name) := by
  intro r hr n hn
  obtain ⟨vs, -, hvs⟩ := exists_of_forall₂ (Except.mapM_ok.1 hrows).flip hr
  obtain ⟨f, hf, rfl⟩ := List.mem_map.1 hn
  obtain ⟨v, -, hv⟩ := exists_of_forall₂ (Except.mapM_ok.1 hvs).flip hf
  exact ⟨v, hv⟩

/-- The contents of a statement are those of its own model, and rows of that width. -/
theorem contents_ok {m : Model} {fs : List Field} {rows : List (List Value)}
    (h : q.contents look a = .ok (m, fs, rows)) :
    look e = .ok m ∧ ∀ vs ∈ rows, vs.length = fs.length := by
  unfold contents at h
  split at h
  · cases h
  obtain ⟨m, hm, h⟩ := Except.bind_ok.1 h
  obtain ⟨fs, -, h⟩ := Except.bind_ok.1 h
  obtain ⟨rows, hrows, h⟩ := Except.bind_ok.1 h
  cases h
  exact ⟨hm, length_of_rows hrows⟩

/-- **Building goes one of the ways of `Binding`.** -/
theorem binding_build (hg : g.Reachable) (q : Insert e) (d : Dialect) (a : Accessor) :
    Binding q g d a ((q.build d a).eval g.look) := by
  by_cases hempty : q.records = []
  · have hcontents : q.contents g.look a = .error .emptyInsert := by simp [contents, hempty]
    rw [build_of_error hcontents]
    exact .empty hempty
  cases hlook : g.look e with
  | error err =>
    have hcontents : q.contents g.look a = .error err := by
      simp [contents, hempty, hlook, bind, Except.bind]
    rw [build_of_error hcontents]
    exact .unparsed hempty (hg.look_error.1 hlook)
  | ok m =>
    have hm : (g.model e).answer = .ok m := (g.answer_model e).trans hlook
    have hdescribes := hg.describes hm
    rcases fields_cases hdescribes q with
      ⟨fs, hfs, hnames, hmem⟩ | ⟨first, name, rest, hfs, hnames, hfirst, hname⟩
    · have hdeclared : ∀ n ∈ q.names, e.Declares n := by
        intro n hn
        rw [← hnames] at hn
        obtain ⟨f, hf, rfl⟩ := List.mem_map.1 hn
        exact hdescribes.toFollows.declares.2 ⟨f, hmem f hf, rfl⟩
      cases hrows : q.records.mapM fun r => fs.mapM fun f => a.field m r f.name with
      | error err =>
        have hcontents : q.contents g.look a = .error err := by
          simp [contents, hempty, hlook, hfs, hrows, bind, Except.bind]
        rw [build_of_error hcontents]
        obtain ⟨before, r, after, first, name, rest, hrecords, hbefore, hsplit, hfirst, hr⟩ :=
          rows_error hrows
        rw [hnames] at hbefore hsplit
        exact .unread hm hdeclared hrecords hbefore hsplit hfirst hr
      | ok rows =>
        have hcontents : q.contents g.look a = .ok (m, fs, rows) := by
          simp [contents, hempty, hlook, hfs, hrows, bind, Except.bind, pure, Except.pure]
        have hread := reads_of_rows hrows
        rw [hnames] at hread
        rw [build_of_ok hcontents]
        cases hu : (upsertText ⟨d, m, .bare⟩ q.upsert).eval g.look with
        | error err => exact .unresolved hempty hm hdeclared hread hu
        | ok upsert =>
          exact .built hempty hm hdeclared hread hu (binds_rows hnames hmem hrows hu)
    · have hcontents : q.contents g.look a = .error (.unknownField name) := by
        simp [contents, hempty, hlook, hfs, bind, Except.bind]
      rw [build_of_error hcontents]
      exact .unknown hempty hm hnames hfirst hname

/-- **What an INSERT binds**, for every record type, all records, either accessor and any column
list. Building goes one of the ways of `Binding`, so that each value stands under its own column. It
fails iff there is no record, the record type has no model, a name is that of no field, a field of a
record cannot be read, or the upsert cannot be rendered. -/
theorem build_binds (hg : g.Reachable) (q : Insert e) (d : Dialect) (a : Accessor) :
    Binding q g d a ((q.build d a).run g).answer ∧
      ((∃ err, ((q.build d a).run g).answer = .error err) ↔
        q.records = [] ∨ (∃ err, Model.parse e = .error err) ∨ (∃ n ∈ q.names, ¬ e.Declares n) ∨
          ∃ m, (g.model e).answer = .ok m ∧
            ((∃ r ∈ q.records, ∃ n ∈ q.names, ∃ err, a.field m r n = .error err) ∨
              ∃ err, (upsertText ⟨d, m, .bare⟩ q.upsert).eval g.look = .error err)) := by
  rw [Consult.answer_run]
  have hways := binding_build hg q d a
  refine ⟨hways, ?_⟩
  generalize (q.build d a).eval g.look = x at hways
  constructor
  · rintro ⟨err, rfl⟩
    cases hways with
    | empty h => exact .inl h
    | unparsed h hm => exact .inr (.inl ⟨err, hm⟩)
    | unknown h hm hnames hfirst hname =>
      exact .inr (.inr (.inl ⟨_, hnames ▸ by simp, hname⟩))
    | unread hm hdeclared hrecords hbefore hnames hfirst hr =>
      refine .inr (.inr (.inr ⟨_, hm, .inl ⟨_, hrecords ▸ by simp, _, hnames ▸ by simp, _, hr⟩⟩))
    | unresolved h hm hdeclared hread hu => exact .inr (.inr (.inr ⟨_, hm, .inr ⟨_, hu⟩⟩))
  · intro hfault
    cases hways with
    | @built m columns upsert sql h hm hdeclared hread hu hsql =>
      -- where all that has been met, there is no fault
      rcases hfault with hempty | ⟨err, herr⟩ | ⟨n, hn, hname⟩ | ⟨k, hk, hfault⟩
      · exact absurd hempty h
      · rw [← hg.look_error, ← g.answer_model, hm] at herr
        cases herr
      · exact absurd (hdeclared n hn) hname
      · rw [hm] at hk
        cases hk
        rcases hfault with ⟨r, hr, n, hn, err, herr⟩ | ⟨err, herr⟩
        · obtain ⟨v, hv⟩ := hread r hr n hn
          rw [hv] at herr
          cases herr
        · rw [hu] at herr
          cases herr
    | _ => exact ⟨_, rfl⟩

end Insert

namespace Sample

/-- Two people with one field twice, or else the nickname that there would have been and an age. -/
def twice : Insert person :=
  ⟨[al, nameless], ["age", "id", "age"],
    some ⟨[.column ⟨"nick", none, none, none⟩, .value "age" (.int 31)], []⟩⟩

def twiceText : String :=
  String.join ["INSERT INTO `people`(`nick`,`person_id`,`nick`) VALUES (?,?,?),(?,?,?) ",
    "ON DUPLICATE KEY UPDATE `age`=VALUES(`age`),`nick`=?;"]

end Sample

namespace Insert

open Sample

/-- Two rows under columns that have been exchanged, and no row for a type that has no model. -/
theorem build_binds_twice : exchanged.Reachable ∧ Registry.Reachable .empty ∧
    (∃ sql, ((twice.build .mysql .reflect).run exchanged).answer = .ok sql ∧
      sql.query = (twiceText, [.int 30, .int 1, .int 30, .int 90, .int 7, .int 90, .int 31]) ∧
      Binding twice exchanged .mysql .reflect (.ok sql)) ∧
    ∃ err, (((nothing : Insert torn).build .sqlite .direct).run .empty).answer = .error err ∧
      Binding (nothing : Insert torn) .empty .sqlite .direct (.error err) := by
  have hg : exchanged.Reachable := .register .empty _ _
  obtain ⟨sql, hsql, hquery⟩ : ∃ sql,
      ((twice.build .mysql .reflect).run exchanged).answer = .ok sql ∧
        sql.query = (twiceText, [.int 30, .int 1, .int 30, .int 90, .int 7, .int 90, .int 31]) :=
    Except.ok_of_map (by decide +kernel)
  obtain ⟨hbuilt, -⟩ := build_binds hg twice .mysql .reflect
  obtain ⟨hempty, hfails⟩ := build_binds .empty (nothing : Insert torn) .sqlite .direct
  obtain ⟨err, herr⟩ := hfails.2 (.inl rfl)
  rw [hsql] at hbuilt
  rw [herr] at hempty
  exact ⟨hg, .empty, ⟨sql, hsql, hquery, hbuilt⟩, err, herr, hempty⟩

end Insert

end RecordSql
