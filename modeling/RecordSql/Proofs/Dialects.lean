import RecordSql.Proofs.Binding

/-!
# One upsert in two dialects

The dialects differ in how they name a conflict and the row that was rejected for it, and in nothing
else. Only one of them looks at the fields whose conflict counts.

* `Upsert.Entry`, `Upsert.clause`: the entries of an upsert, and its text in a dialect.
* `Model.Enters`, `Model.Follows.entry_ok`: the entry that an assignment is on a model.
* `Insert.upsertText_entries`: an upsert is resolved before its dialect counts.
* `Insert.upsert_dialects`: **both dialects fail with one error or differ in the clause alone**, and
  what fields that are not declared do to either.
-/

namespace RecordSql

open Sql

/-! ## Entries -/

/-- An entry of an upsert: the column, and the value to set if it is not the rejected row's. -/
structure Upsert.Entry where
  column : String
  value : Option Value

namespace Upsert

def Entry.text (d : Dialect) (x : Entry) : String :=
  ticked x.column ++ match x.value, d with
    | some _, _ => "=?"
    | none, .mysql => "=VALUES(" ++ ticked x.column ++ ")"
    | none, .sqlite => "=excluded." ++ ticked x.column

/-- What leads to the entries, with the columns whose conflict counts. -/
def lead (targets : List String) : Dialect → String
  | .mysql => " ON DUPLICATE KEY UPDATE "
  | .sqlite => " ON CONFLICT" ++ (if targets.isEmpty then "" else tupleText (targets.map ticked)) ++
      " DO UPDATE SET "

/-- An upsert as it ends a statement. -/
def clause (d : Dialect) (targets : List String) (xs : List Entry) : String :=
  lead targets d ++ ",".intercalate (xs.map (Entry.text d))

end Upsert

/-- The entry that an assignment is: on the column of its field, and in no table. -/
inductive Model.Enters (m : Model) : Assignment → Upsert.Entry → Prop where
  | value {f : Field} (hf : f ∈ m.fields) (v : Value) :
    Enters m (.value f.name v) ⟨f.column, some v⟩
  | column {f : Field} (hf : f ∈ m.fields) {c : Column} (hname : c.name = f.name)
    (htable : c.table = none) : Enters m (.column c) ⟨f.column, none⟩

/-- The entry of an assignment, for which no dialect counts. -/
def Assignment.entry (m : Model) : Assignment → Except Error Upsert.Entry
  | .value field v => do
    let f ← m.resolveField field
    return ⟨f.column, some v⟩
  | .column c =>
    if c.table.isSome then
      .error (.unsupportedAssignment (String.join ["column `", c.name, "` qualified by a table"]))
    else do
      let f ← m.resolveField c.name
      return ⟨f.column, none⟩

variable {e : Entity} {m : Model}

theorem Model.Follows.entry_ok (hm : m.Follows e) {x : Assignment} {y : Upsert.Entry} :
    x.entry m = .ok y ↔ m.Enters x y := by
  constructor
  · intro h
    cases x with
    | value field v =>
      obtain ⟨f, hf, hy⟩ := Except.bind_ok.1 h
      cases hy
      obtain ⟨hmem, rfl⟩ := hm.resolveField_ok.1 hf
      exact .value hmem v
    | column c =>
      by_cases htable : c.table.isSome
      · rw [Assignment.entry, if_pos htable] at h
        cases h
      · rw [Assignment.entry, if_neg htable] at h
        obtain ⟨f, hf, hy⟩ := Except.bind_ok.1 h
        cases hy
        obtain ⟨hmem, hname⟩ := hm.resolveField_ok.1 hf
        exact .column hmem hname.symm (by simpa using htable)
  · rintro (⟨hf, v⟩ | ⟨hf, hname, htable⟩)
    · exact Except.bind_ok.2 ⟨_, hm.resolveField_ok.2 ⟨hf, rfl⟩, rfl⟩
    · rw [Assignment.entry, if_neg (by simp [htable])]
      exact Except.bind_ok.2 ⟨_, hm.resolveField_ok.2 ⟨hf, hname.symm⟩, rfl⟩

namespace Insert

variable {s : Scope} {look : Entity → Except Error Model}

/-- An entry as SQL. -/
def entrySql (s : Scope) (x : Upsert.Entry) : Sql :=
  match x.value with
  | some v => s.ident x.column ++ lit "=" ++ placeholder v
  | none => s.ident x.column ++ lit "=" ++ rejected s.dialect (s.ident x.column)

theorem text_entrySql (x : Upsert.Entry) : (entrySql s x).text = x.text s.dialect := by
  obtain ⟨column, value⟩ := x
  rw [← String.toList_inj]
  cases value with
  | some v => simp [entrySql, Upsert.Entry.text, Scope.text_ident_ticked]
  | none =>
    cases hd : s.dialect <;>
      simp [entrySql, rejected, parens, hd, Upsert.Entry.text, Scope.text_ident_ticked]

theorem assignment_eval (x : Assignment) :
    (assignment s x).eval look = (x.entry s.model).map (entrySql s) := by
  cases x with
  | value field v =>
    cases hf : s.model.resolveField field <;>
      simp [assignment, Assignment.entry, Consult.eval_bind, hf, bind, pure, Except.bind,
        Except.pure, Except.map, entrySql]
  | column c =>
    obtain ⟨name, table, label, order⟩ := c
    cases table with
    | some t =>
      simp [assignment, upsertColumn, Assignment.entry, Consult.eval_bind, Except.bind, Except.map]
    | none =>
      cases hf : s.model.resolveField name <;>
        simp [assignment, upsertColumn, Assignment.entry, Consult.eval_bind, hf, bind, pure,
          Except.bind, Except.pure, Except.map, entrySql]

/-- An upsert fails as what leads to its entries does, or else as its assignments do. -/
theorem upsertText_entries (u : Upsert) : (upsertText s (some u)).eval look = do
    let head ← (conflictText s u.conflict).eval look
    let xs ← u.assigns.mapM (Assignment.entry s.model)
    return head ++ commaList (xs.map (entrySql s)) := by
  have hassigns : (Consult.all (assignment s) u.assigns).eval look = _ :=
    Consult.eval_all_eq assignment_eval u.assigns
  cases hhead : (conflictText s u.conflict).eval look with
  | error err => simp [upsertText, Consult.eval_bind, hhead, Except.bind, bind]
  | ok head =>
    cases hxs : u.assigns.mapM (Assignment.entry s.model) with
    | error err =>
      simp [upsertText, Consult.eval_bind, hhead, hassigns, hxs, Except.bind, bind, Except.map]
    | ok xs =>
      simp [upsertText, Consult.eval_bind, hhead, hassigns, hxs, Except.bind, bind, Except.map,
        pure, Except.pure]

/-! ## What leads to the entries -/

/-- What leads to the entries, if the fields whose conflict counts are there. -/
theorem conflictText_resolved {conflict : List String} {fs : List Field}
    (hfs : conflict.mapM s.model.resolveField = .ok fs) :
    ∃ head, (conflictText s conflict).eval look = .ok head ∧
      head.text = Upsert.lead (fs.map Field.column) s.dialect := by
  unfold conflictText
  cases s.dialect with
  | mysql => exact ⟨_, rfl, text_lit _⟩
  | sqlite =>
    simp only [Consult.bind_eq, Consult.eval_bind, Scope.fieldColumns_eval, hfs]
    refine ⟨_, rfl, ?_⟩
    cases fs with
    | nil => rfl
    | cons f fs =>
      rw [text_append, text_append, text_lit, text_lit, if_neg nofun, text_tuple, s.text_idents]
      rfl

/-- The first field that is not declared is an error where the conflict is shown. -/
theorem conflictText_undeclared (hm : m.Describes e) {first rest : List String} {name : String}
    (hfirst : ∀ n ∈ first, e.Declares n) (hname : ¬ e.Declares name) :
    (conflictText ⟨.sqlite, m, .bare⟩ (first ++ name :: rest)).eval look =
      .error (.unknownField name) := by
  have hresolve : (first ++ name :: rest).mapM m.resolveField = .error (.unknownField name) :=
    hm.resolve_undeclared hfirst hname
  simp only [conflictText, Consult.bind_eq, Consult.eval_bind, Scope.fieldColumns_eval, hresolve]
  rfl

/-! ## Both dialects -/

/-- What building the statement gives, with an upsert or without one. -/
def built (q : Insert e) (g : Registry) (a : Accessor) (d : Dialect) (u : Option Upsert) :
    Except Error Sql := ((({ q with upsert := u } : Insert e).build d a).run g).answer

/-- In either dialect the statement is built, without an upsert and with it. Its text without one is
the same up to the last character, and so are the values bound. What the upsert adds to that has an
entry for each assignment. -/
structure Twin (q : Insert e) (g : Registry) (a : Accessor) (u : Upsert) (m : Model) (base : String)
    (vs : List Value) (targets : List String) (xs : List Upsert.Entry) : Prop where
  model : (g.model e).answer = .ok m
  conflict : m.ColumnsOf u.conflict targets
  entries : List.Forall₂ m.Enters u.assigns xs
  plain : ∀ d, ∃ sql, q.built g a d none = .ok sql ∧ sql.text = base ++ ";" ∧ sql.args = vs
  upsert : ∀ d, ∃ sql, q.built g a d (some u) = .ok sql ∧
    sql.text = base ++ Upsert.clause d targets xs ++ ";" ∧ sql.args = vs ++ u.args

variable {q : Insert e} {g : Registry} {a : Accessor} {u : Upsert} {fs : List Field}
  {rows : List (List Value)}

theorem built_of_error {err : Error} (h : q.contents g.look a = .error err) (d : Dialect)
    (u : Option Upsert) : q.built g a d u = .error err := by
  have hcontents : ({ q with upsert := u } : Insert e).contents g.look a = .error err := h
  rw [built, Consult.answer_run, build_of_error hcontents]

/-- Neither the dialect nor the upsert counts for the contents. -/
theorem built_of_ok (h : q.contents g.look a = .ok (m, fs, rows)) (d : Dialect)
    (u : Option Upsert) : q.built g a d u =
      ((upsertText ⟨d, m, .bare⟩ u).eval g.look).map fun upsert =>
        Clauses.sql ⟨fs, rows.map valueTuple, upsert⟩ ⟨d, m, .bare⟩ := by
  have hcontents : ({ q with upsert := u } : Insert e).contents g.look a = .ok (m, fs, rows) := h
  rw [built, Consult.answer_run, build_of_ok hcontents]

/-- With fields that are declared, both dialects fail with one error or succeed with one text. -/
theorem built_declared (hg : g.Reachable) (q : Insert e) (a : Accessor)
    (hu : ∀ n ∈ u.conflict, e.Declares n) :
    (∃ err, ∀ d, q.built g a d (some u) = .error err) ∨
      ∃ m base vs targets xs, q.Twin g a u m base vs targets xs := by
  cases hcontents : q.contents g.look a with
  | error err => exact .inl ⟨err, fun d => built_of_error hcontents d _⟩
  | ok contents =>
    obtain ⟨m, fs, rows⟩ := contents
    obtain ⟨hlook, hrow⟩ := contents_ok hcontents
    have hm : (g.model e).answer = .ok m := (g.answer_model e).trans hlook
    have hdescribes := hg.describes hm
    obtain ⟨ts, hts, hnames, hmem⟩ := hdescribes.resolve_declared hu
    have hhead : ∀ d : Dialect, ∃ head,
        (conflictText ⟨d, m, .bare⟩ u.conflict).eval g.look = .ok head ∧
          head.text = Upsert.lead (ts.map Field.column) d := fun d => conflictText_resolved hts
    cases hxs : u.assigns.mapM (Assignment.entry m) with
    | error err =>
      refine .inl ⟨err, fun d => ?_⟩
      obtain ⟨head, hok, -⟩ := hhead d
      rw [built_of_ok hcontents, upsertText_entries, hok, hxs]
      rfl
    | ok xs =>
      refine .inr ⟨m, rowsText m.tableName (fs.map Field.column) rows.length, rows.flatten,
        ts.map Field.column, xs, ⟨hm, hnames ▸ Model.columnsOf_fields hmem, ?_, ?_, ?_⟩⟩
      · exact (Except.mapM_ok.1 hxs).imp fun x y => hdescribes.toFollows.entry_ok.1
      · intro d
        refine ⟨_, built_of_ok hcontents d none, ?_, ?_⟩
        · rw [text_rows hrow, text_lit, String.append_empty]
        · rw [args_rows, args_lit, List.append_nil]
      · intro d
        obtain ⟨head, hok, hlead⟩ := hhead d
        have hupsert : (upsertText ⟨d, m, .bare⟩ (some u)).eval g.look =
            .ok (head ++ commaList (xs.map (entrySql ⟨d, m, .bare⟩))) := by
          rw [upsertText_entries, hok, hxs]
          rfl
        refine ⟨_, by rw [built_of_ok hcontents, hupsert]; rfl, ?_, ?_⟩
        · have hentries : (xs.map (entrySql ⟨d, m, .bare⟩)).map Sql.text =
              xs.map (Upsert.Entry.text d) := by
            rw [List.map_map]
            exact List.map_congr_left fun x _ => text_entrySql x
          rw [text_rows hrow, text_append, hlead, text_commaList, hentries]
          rfl
        · rw [args_rows, upsertText_args hupsert, Option.elim_some]

/-- **One upsert in two dialects**, for every record type, all records, any columns and either
accessor. With conflict fields that are declared, both dialects fail with one error, or they succeed
with equal arguments and with texts that differ in the clause alone, entry by entry. Otherwise the
one that shows the conflict fails for the first field that is not declared, if there is nothing else
to fail for, and the other does not look at these fields. -/
theorem upsert_dialects (hg : g.Reachable) (q : Insert e) (a : Accessor) (u : Upsert) :
    ((∀ n ∈ u.conflict, e.Declares n) →
        (∃ err, ∀ d, q.built g a d (some u) = .error err) ∨
          ∃ m base vs targets xs, q.Twin g a u m base vs targets xs) ∧
      (∀ first name rest, u.conflict = first ++ name :: rest → (∀ n ∈ first, e.Declares n) →
        ¬ e.Declares name → (∃ d sql, q.built g a d none = .ok sql) →
          q.built g a .sqlite (some u) = .error (.unknownField name)) ∧
      ∀ conflict,
        q.built g a .mysql (some ⟨u.assigns, conflict⟩) = q.built g a .mysql (some u) := by
  refine ⟨built_declared hg q a, ?_, ?_⟩
  · rintro first name rest hconflict hfirst hname ⟨d, sql, hsql⟩
    cases hcontents : q.contents g.look a with
    | error err =>
      rw [built_of_error hcontents] at hsql
      cases hsql
    | ok contents =>
      obtain ⟨m, fs, rows⟩ := contents
      obtain ⟨hlook, -⟩ := contents_ok hcontents
      have hdescribes := hg.describes ((g.answer_model e).trans hlook)
      rw [built_of_ok hcontents, upsertText_entries, hconflict,
        conflictText_undeclared hdescribes hfirst hname]
      rfl
  · intro conflict
    rfl

end Insert

namespace Sample

/-- The nickname that there would have been and an age, for people with numbers that are taken. -/
def taken : Upsert := ⟨[.column ⟨"nick", none, none, none⟩, .value "age" (.int 31)], ["id"]⟩

/-- The same, for people with something taken that none of them has. -/
def mailed : Upsert := { taken with conflict := ["id", "mail", "phone"] }

/-- What `twice` is up to its upsert, and what it ends in for `taken`. -/
def takenText (d : Dialect) : String :=
  String.join ["INSERT INTO `people`(`nick`,`person_id`,`nick`) VALUES (?,?,?),(?,?,?)",
    match d with
    | .mysql => " ON DUPLICATE KEY UPDATE `age`=VALUES(`age`),`nick`=?;"
    | .sqlite => " ON CONFLICT(`person_id`) DO UPDATE SET `age`=excluded.`age`,`nick`=?;"]

end Sample

namespace Insert

open Sample

/-- An upsert in either dialect, and one that only one of them can write. -/
theorem upsert_dialects_taken : exchanged.Reachable ∧ (∀ n ∈ taken.conflict, person.Declares n) ∧
    (∃ m base vs targets xs, twice.Twin exchanged .direct taken m base vs targets xs) ∧
    (∀ d, ∃ sql, twice.built exchanged .direct d (some taken) = .ok sql ∧
      sql.query = (takenText d, [.int 30, .int 1, .int 30, .int 90, .int 7, .int 90, .int 31])) ∧
    twice.built exchanged .direct .sqlite (some mailed) = .error (.unknownField "mail") ∧
    twice.built exchanged .direct .mysql (some mailed) =
      twice.built exchanged .direct .mysql (some taken) := by
  have hg : exchanged.Reachable := .register .empty _ _
  have hdeclared : ∀ n ∈ taken.conflict, person.Declares n := by decide
  have hbuilt : ∀ d, ∃ sql, twice.built exchanged .direct d (some taken) = .ok sql ∧
      sql.query = (takenText d, [.int 30, .int 1, .int 30, .int 90, .int 7, .int 90, .int 31]) := by
    intro d
    cases d <;> exact Except.ok_of_map (by decide +kernel)
  obtain ⟨hboth, hone, hother⟩ := upsert_dialects hg twice .direct mailed
  obtain ⟨htaken, -, -⟩ := upsert_dialects hg twice .direct taken
  refine ⟨hg, hdeclared, ?_, hbuilt, ?_, (hother ["id"]).symm⟩
  · rcases htaken hdeclared with ⟨err, herr⟩ | htwin
    · obtain ⟨sql, hsql, -⟩ := hbuilt .mysql
      rw [herr] at hsql
      cases hsql
    · exact htwin
  · obtain ⟨sql, hsql, -⟩ : ∃ sql, twice.built exchanged .direct .mysql none = .ok sql ∧
        sql.args.length = 6 := Except.ok_of_map (by decide +kernel)
    exact hone ["id"] "mail" ["phone"] rfl (by decide) (by decide) ⟨.mysql, sql, hsql⟩

end Insert

end RecordSql
