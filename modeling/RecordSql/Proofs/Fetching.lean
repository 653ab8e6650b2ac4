import RecordSql.Proofs.Cursor
import RecordSql.Proofs.Denial
import RecordSql.Proofs.Lifecycle
import RecordSql.Proofs.Storing

/-!
# Reading one row and reading all

Two ways to read rows differ in how many rows they look at. Every row makes the record that it would
make alone, whatever the rows before it have made, and both ways ask the driver the same question.

* `Accessor.populate_congr`: a record is filled from the columns and the current row.
* `Db.recordOf`: the record that a row makes alone.
* `Db.fillAll_eq`: **rows are read one by one**, each as if it were alone.
* `Db.Fetched`: the records of all rows, or the error of the first row that makes none.
* `Event.asked`: the calls of the driver.
* `Db.get_getMulti`: **reading one row is reading all and keeping the first**, at the price of the
  same call of the driver.
-/

namespace RecordSql

/-! ## One row -/

namespace Rows

variable {r s : Rows}

theorem scan_congr (hcolumns : r.columns = s.columns) (hrow : r.current? = s.current?)
    (slots : List Slot) : r.scan slots = s.scan slots := by
  rw [scan, scan, hcolumns, hrow]

end Rows

variable {e : Entity} {m : Model}

/-- A record is filled from the columns and the current row. -/
theorem Accessor.populate_congr (a : Accessor) (m : Model) (r : Record e) {rows rows' : Rows}
    (hcolumns : rows.columns = rows'.columns) (hrow : rows.current? = rows'.current?) :
    a.populate m r rows = a.populate m r rows' := by
  have hscan := Rows.scan_congr hcolumns hrow
  cases a with
  | direct =>
    show Direct.populate m r rows = Direct.populate m r rows'
    simp only [Direct.populate, hcolumns, hscan]
  | reflect =>
    show Reflect.populate m r rows = Reflect.populate m r rows'
    simp only [Reflect.populate, Reflect.populated, hcolumns, hscan]

namespace Db

/-- The record that a row makes alone of a fresh one. -/
def recordOf (a : Accessor) (m : Model) (fresh : Record e) (columns : List String)
    (row : List Value) : Except Error (Record e) :=
  fill a m fresh (.single columns row)

variable {a : Accessor} {fresh : Record e}

/-- The current row makes the record that it makes alone. -/
theorem fill_eq {rows : Rows} {row : List Value} (h : rows.current? = some row) :
    fill a m fresh rows = recordOf a m fresh rows.columns row := by
  have hpopulate : a.populate m fresh rows = a.populate m fresh (.single rows.columns row) :=
    a.populate_congr m fresh rfl h
  rw [recordOf, fill, fill, hpopulate]

/-! ## All rows -/

/-- **Rows are read one by one**, each as if it were alone. -/
theorem fillAll_eq {rows : Rows} {passed rest : List (List Value)}
    (hrows : rows.rows = passed ++ rest) (hreached : rows.reached = passed.length) :
    fillAll a m fresh rest.length rows = rest.mapM (recordOf a m fresh rows.columns) := by
  -- the cursor stands behind the rows that have been passed
  induction rest generalizing passed rows with
  | nil => rfl
  | cons row rest ih =>
    have hlt : rows.reached < rows.size := by
      rw [hreached, Rows.size, hrows, List.length_append, List.length_cons]
      omega
    have hcurrent : ({ rows with position := some rows.reached } : Rows).current? = some row := by
      show rows.rows[rows.reached]? = some row
      rw [hrows, hreached, List.getElem?_append_right (Nat.le_refl _), Nat.sub_self]
      rfl
    have hpassed : ({ rows with position := some rows.reached } : Rows).rows =
        (passed ++ [row]) ++ rest := by
      rw [List.append_assoc]
      exact hrows
    have hnext : ({ rows with position := some rows.reached } : Rows).reached =
        (passed ++ [row]).length := by
      rw [List.length_append, ← hreached]
      rfl
    rw [List.length_cons, fillAll, Rows.next_of_lt hlt, List.mapM_cons]
    dsimp only
    rw [fill_eq hcurrent]
    cases recordOf a m fresh rows.columns row with
    | error err => rfl
    | ok r =>
      dsimp only
      rw [ih hpassed hnext]
      cases rest.mapM (recordOf a m fresh rows.columns) <;> rfl

/-- What reading all rows gives: their records, or the error of the first row that makes none. -/
inductive Fetched (make : List Value → Except Error (Record e)) (rows : List (List Value)) :
    Except Error (List (Record e)) → Prop where
  | all {rs : List (Record e)} (h : List.Forall₂ (fun row r => make row = .ok r) rows rs) :
    Fetched make rows (.ok rs)
  | failed {first rest : List (List Value)} {row : List Value} {err : Error}
    (hrows : rows = first ++ row :: rest) (hfirst : ∀ before ∈ first, ∃ r, make before = .ok r)
    (herr : make row = .error err) : Fetched make rows (.error err)

/-- What the first of several makes, if there is one. -/
def firstOf {α β : Type} (make : α → Except Error β) : List α → Except Error β
  | [] => .error .noRows
  | a :: _ => make a

variable {make : List Value → Except Error (Record e)} {rows : List (List Value)}

theorem fetched_mapM (make : List Value → Except Error (Record e)) (rows : List (List Value)) :
    Fetched make rows (rows.mapM make) := by
  cases h : rows.mapM make with
  | error err =>
    obtain ⟨first, row, rest, hrows, hfirst, herr⟩ := Except.mapM_error h
    exact .failed hrows hfirst herr
  | ok rs => exact .all (Except.mapM_ok.1 h)

/-- The record of the first row is the first one of all. -/
theorem Fetched.firstOf_eq {rs : List (Record e)} (h : Fetched make rows (.ok rs)) :
    firstOf make rows = firstOf .ok rs := by
  cases h with
  | all h =>
    cases h with
    | nil => rfl
    | cons hrow _ => exact hrow

theorem fillAll_unread {rows : Rows} (h : rows.position = none) :
    fillAll a m fresh rows.size rows = rows.rows.mapM (recordOf a m fresh rows.columns) := by
  have hrows : rows.rows = [] ++ rows.rows := rfl
  have hreached : rows.reached = ([] : List (List Value)).length := by
    rw [Rows.reached, h]
    rfl
  exact fillAll_eq hrows hreached

theorem fill_unread {rows : Rows} (h : rows.position = none) :
    (match rows.next with
      | (false, _) => .error .noRows
      | (true, rows) => fill a m fresh rows) =
        firstOf (recordOf a m fresh rows.columns) rows.rows := by
  obtain ⟨columns, all, position⟩ := rows
  obtain rfl : position = none := h
  cases all with
  | nil => rfl
  | cons row rest => exact fill_eq rfl

end Db

/-! ## The call of the driver -/

namespace Event

variable {ι : Type}

/-- The calls of the driver. -/
def asked (es : List (Event ι)) : List (Event ι) :=
  es.filter fun
    | .query .. | .exec .. => true
    | .before .. | .after .. | .log _ => false

@[simp] theorem asked_append (es fs : List (Event ι)) : asked (es ++ fs) = asked es ++ asked fs :=
  List.filter_append es fs

@[simp] theorem asked_calls (es : List (Event ι)) : asked (calls es) = asked es := by
  unfold asked calls
  rw [List.filter_filter]
  congr 1
  funext event
  cases event <;> rfl

/-- Hooks do not call the driver before a statement runs. -/
theorem asked_passed {ls : List (Leaf ι)} {c : Context} {text : String} {es : List (Event ι)}
    (h : Hook.Passed ls c text es) : asked es = [] := by
  induction h with
  | nil => rfl
  | proceed _ _ ih => exact ih
  | amend _ _ ih => exact ih

/-- Nor do they afterwards. -/
theorem asked_after (ls : List (Leaf ι)) (c : Context) (o : Outcome) :
    asked (ls.map fun l => .after l.label c o) = [] := by
  induction ls with
  | nil => rfl
  | cons l ls ih => exact ih

end Event

namespace Db

variable {ι : Type} {db : Db ι} {g : Registry}

theorem asked_event (k : Call) (text : String) (args : List Value) (es : List (Event ι)) :
    Event.asked (k.event text args :: es) = k.event text args :: Event.asked es := by
  cases k <;> rfl

/-- **A statement that no hook refuses** is put to the driver once, as the hooks have left it. -/
theorem serve_passed (drv : Driver) {k : Call} {sql : Sql} {c : Context} (hown : k.owner = db.id)
    (hsql : (k.build db.core).eval g.look = .ok sql)
    (hhooks : (Hook.runBefore db.hooks (k.context sql)).1 = .ok c) :
    (db.serve drv k g).answer = (k.ask drv c.sql c.args).answer.bind
        (fun reply => (k.finish db.core.accessor reply).eval g.look) ∧
      Event.asked (db.serve drv k g).trace = [k.event c.sql c.args] := by
  obtain ⟨hanswer, htrace⟩ := serve_built drv hown hsql
  rw [← Event.asked_calls, hanswer, htrace]
  -- hooks inside composite ones are asked one by one
  rw [← Hook.runBefore_flatten] at hhooks
  rcases Hook.passed_or_refused (Hook.leavesAll db.hooks) (k.context sql) with
    ⟨text, es, hpassed⟩ | ⟨first, l, rest, text, es, reason, hleaves, hpassed, hrefused⟩
  · obtain ⟨fs, rfl, hrun⟩ := hpassed.run
    rw [Hook.flatten, hrun] at hhooks
    obtain rfl := Except.ok.inj hhooks
    obtain ⟨hreply, hcalls⟩ := submit_passed drv ((Hook.runBefore_flatten _ _).symm.trans hrun)
    rw [hreply, hcalls, Event.asked_append, Event.asked_passed hpassed, asked_event,
      Event.asked_after, args_context]
    exact ⟨rfl, rfl⟩
  · obtain ⟨fs, -, hrun⟩ := hpassed.run_refused rest hrefused
    rw [Hook.flatten, hleaves, hrun] at hhooks
    cases hhooks

section Finish

variable (a : Accessor) {look : Entity → Except Error Model} (hm : look e = .ok m)
  (fresh : Record e) (q : Bound Select) (rows : Rows)

include hm

theorem eval_finish_getMulti : ((Call.getMulti e fresh q).finish a rows).eval look =
    fillAll a m fresh rows.size rows := by
  show ((Consult.model e).bind fun m =>
    Consult.ofExcept (fillAll a m fresh rows.size rows)).eval look = _
  rw [Consult.eval_bind, Consult.eval_model, hm]
  exact Consult.eval_ofExcept _ _

theorem eval_finish_get : ((Call.get e fresh q).finish a rows).eval look = match rows.next with
    | (false, _) => .error .noRows
    | (true, rows) => fill a m fresh rows := by
  show ((Consult.model e).bind fun m => Consult.ofExcept (match rows.next with
    | (false, _) => .error .noRows
    | (true, rows) => fill a m fresh rows)).eval look = _
  rw [Consult.eval_bind, Consult.eval_model, hm]
  exact Consult.eval_ofExcept _ _

end Finish

/-- A SELECT that can be built has a model of its record type. -/
theorem model_of_build {q : Select} {d : Dialect} {sql : Sql}
    (h : (q.build d e).eval g.look = .ok sql) : ∃ m, g.look e = .ok m := by
  obtain ⟨m, hm, -⟩ := Consult.eval_bind_ok.1 h
  exact ⟨m, (Consult.eval_model g.look e).symm.trans hm⟩

/-- **Reading one row is reading all and keeping the first.** The statement can be built, no hook
refuses it and the driver answers with rows that have not been read. Then, whatever the fresh record
that is filled,

* reading all gives the record that each row makes alone, or the error of the first that makes none;
* reading one gives what the first row makes alone;
* if all rows have a record, the first of them is what reading one gives;
* the driver is called once, and in the same way. -/
theorem get_getMulti (db : Db ι) (drv : Driver) (g : Registry) (fresh : Record e)
    {q : Bound Select} {sql : Sql} {c : Context} {rows : Rows} (hown : q.owner = db.id)
    (hbuild : ((q.statement.build db.core.dialect e).run g).answer = .ok sql)
    (hhooks : (Hook.runBefore db.hooks ⟨.select, sql.text, sql.args, e.path⟩).1 = .ok c)
    (hanswer : (drv.query c.sql c.args).answer = .ok rows) (hunread : rows.position = none) :
    ∃ m, (g.model e).answer = .ok m ∧
      let make := recordOf db.core.accessor m fresh rows.columns
      Fetched make rows.rows (db.getMulti drv e fresh q g).answer ∧
      (db.get drv e fresh q g).answer = firstOf make rows.rows ∧
      (∀ rs, (db.getMulti drv e fresh q g).answer = .ok rs →
        (db.get drv e fresh q g).answer = firstOf .ok rs) ∧
      Event.asked (db.getMulti drv e fresh q g).trace = [.query c.sql c.args] ∧
      Event.asked (db.get drv e fresh q g).trace = [.query c.sql c.args] := by
  rw [Consult.answer_run] at hbuild
  -- the build has asked for the model, so the rows are read with the same one
  obtain ⟨m, hm⟩ := model_of_build hbuild
  obtain ⟨hall, hallAsked⟩ := serve_passed drv (k := .getMulti e fresh q) hown hbuild hhooks
  obtain ⟨hone, honeAsked⟩ := serve_passed drv (k := .get e fresh q) hown hbuild hhooks
  have hmulti : (db.getMulti drv e fresh q g).answer =
      rows.rows.mapM (recordOf db.core.accessor m fresh rows.columns) := by
    rw [show ((Call.getMulti e fresh q).ask drv c.sql c.args).answer = .ok rows from hanswer]
      at hall
    refine hall.trans ?_
    rw [← fillAll_unread hunread]
    exact eval_finish_getMulti _ hm fresh q rows
  have hget : (db.get drv e fresh q g).answer =
      firstOf (recordOf db.core.accessor m fresh rows.columns) rows.rows := by
    rw [show ((Call.get e fresh q).ask drv c.sql c.args).answer = .ok rows from hanswer] at hone
    refine hone.trans ?_
    rw [← fill_unread hunread]
    exact eval_finish_get _ hm fresh q rows
  have hfetched : Fetched (recordOf db.core.accessor m fresh rows.columns) rows.rows
      (db.getMulti drv e fresh q g).answer := by
    rw [hmulti]
    exact fetched_mapM _ _
  refine ⟨m, (g.answer_model e).trans hm, hfetched, hget, ?_, hallAsked, honeAsked⟩
  intro rs hrs
  rw [hrs] at hfetched
  exact hget.trans hfetched.firstOf_eq

end Db

namespace Sample

/-- A database that reads records through their serialized form. -/
def reader : Db String := ⟨1, ⟨.mysql, .reflect⟩, unguarded, none⟩

/-- A driver that has these rows for every query. -/
def answering (rows : Rows) : Driver := { rowless with query := fun _ _ => ⟨.ok rows, 0⟩ }

/-- A SELECT of all people. -/
def everyone : Bound Select := ⟨1, Select.everything⟩

/-- A row for one person, and one with an age that no person has. -/
def mixed : Rows := ⟨["nick", "age"], [[.text "Al", .int 30], [.text "Bo", .int 300]], none⟩

end Sample

namespace Db

open Sample

/-- The second row makes no record, so that reading all fails and reading one does not. -/
theorem get_getMulti_mixed : ∃ sql c m,
    ((Select.everything.build .mysql person).run .empty).answer = .ok sql ∧
      (Hook.runBefore reader.hooks ⟨.select, sql.text, sql.args, person.path⟩).1 = .ok c ∧
      c.sql = "/* mark */ SELECT * FROM `person`;" ∧
      ((answering mixed).query c.sql c.args).answer = .ok mixed ∧ mixed.position = none ∧
      (Registry.empty.model person).answer = .ok m ∧
      Fetched (recordOf .reflect m (Record.initial : Record person) mixed.columns) mixed.rows
        (reader.getMulti (answering mixed) person Record.initial everyone .empty).answer ∧
      (reader.getMulti (answering mixed) person Record.initial everyone .empty).answer.isOk =
        false ∧
      (reader.get (answering mixed) person Record.initial everyone .empty).answer =
        firstOf (recordOf .reflect m (Record.initial : Record person) mixed.columns) mixed.rows ∧
      (reader.get (answering mixed) person Record.initial everyone .empty).answer.toOption.map
        Record.values = some [.int 0, .text "Al", .int 30] := by
  obtain ⟨sql, hbuild, hsql⟩ : ∃ sql,
      ((Select.everything.build .mysql person).run .empty).answer = .ok sql ∧
        (sql.text, sql.args) = ("SELECT * FROM `person`;", []) :=
    Except.ok_of_map (by decide +kernel)
  obtain ⟨htext, hargs⟩ := Prod.mk.inj hsql
  have hhooks : (Hook.runBefore reader.hooks ⟨.select, sql.text, sql.args, person.path⟩).1 =
      .ok ⟨.select, "/* mark */ SELECT * FROM `person`;", [], person.path⟩ := by
    rw [htext, hargs]
    decide +kernel
  obtain ⟨m, hm, hall, hone, -⟩ := get_getMulti reader (answering mixed) .empty Record.initial
    (q := everyone) rfl hbuild hhooks rfl rfl
  exact ⟨sql, _, m, hbuild, hhooks, rfl, rfl, rfl, hm, hall, by decide +kernel, hone,
    by decide +kernel⟩

end Db

end RecordSql
