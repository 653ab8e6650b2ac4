import RecordSql.Proofs.Evaluation
import RecordSql.Proofs.Mention

/-!
# Rendering, step by step

What has been written when a part of a statement has been rendered. One lemma a function, so that
what holds of statements is proved without opening the functions again.

* `Scope.column_ok`: a column is the identifier of its field, perhaps behind that of a table.
* `Scope.compare_ok`, `Scope.and_ok` and so on: a condition by its form.
* `Scope.join_ok`: a join by its sides and its condition.
* `Select.names_of_avoids`: the names of a SELECT, clause by clause.
* `Select.build_ok`, `Insert.build_ok`, `Delete.build_ok`: a statement by its clauses.
-/

namespace RecordSql

open Sql

variable {look : Entity → Except Error Model} {s : Scope} {ch : Char}

/-- The tables of the columns avoid the character. -/
def Column.Avoids (look : Entity → Except Error Model) (ch : Char) (c : Column) : Prop :=
  ∀ t ∈ c.table, t.Avoids look ch

instance (c : Column) : Decidable (c.Avoids look ch) :=
  inferInstanceAs (Decidable (∀ t ∈ c.table, t.Avoids look ch))

theorem Model.mem_of_resolveField {m : Model} {name : String} {f : Field}
    (h : m.resolveField name = .ok f) : f ∈ m.fields := by
  unfold resolveField at h
  cases hf : m.field? name with
  | none =>
    rw [hf] at h
    cases h
  | some g =>
    rw [hf] at h
    cases h
    obtain ⟨i, -, hi⟩ := Option.bind_eq_some_iff.1 hf
    exact List.mem_of_getElem? hi

theorem Model.mem_of_resolveFields {m : Model} {names : List String} {fs : List Field}
    (h : names.mapM m.resolveField = .ok fs) : ∀ f ∈ fs, f ∈ m.fields := by
  intro f hf
  obtain ⟨name, -, hname⟩ := exists_of_forall₂ (Except.mapM_ok.1 h) hf
  exact Model.mem_of_resolveField hname

theorem Model.Avoids.columns {m : Model} (hm : m.Avoids ch) {names : List String} {fs : List Field}
    (h : names.mapM m.resolveField = .ok fs) : ∀ c ∈ fs.map Field.column, ch ∉ c.toList := by
  intro c hc
  obtain ⟨f, hf, rfl⟩ := List.mem_map.1 hc
  exact hm.column f (Model.mem_of_resolveFields h f hf)

/-- The name that the table's columns are behind avoids the character. -/
theorem Table.Avoids.name {t : Table} {m : Model} (ht : t.Avoids look ch)
    (hm : look t.entity = .ok m) : ch ∉ (t.aliasName.getD m.tableName).toList := by
  cases ha : t.aliasName with
  | none => exact (ht.model m hm).table
  | some a => exact ht.label a ha

namespace Scope

/-- The names that a scope brings along avoid the character. -/
structure Avoids (s : Scope) (ch : Char) : Prop where
  model : s.model.Avoids ch
  qualifier : ∀ t, s.qualifier = .table t → ch ∉ t.toList

/-- A column's identifier, alone or behind that of a table. -/
def reference (s : Scope) : Option String → String → Sql
  | none, c => s.ident c
  | some t, c => s.qualified t c

/-- The names of a reference avoid the character. -/
def Plain (ch : Char) (owner : Option String) (column : String) : Prop :=
  (∀ t ∈ owner, ch ∉ t.toList) ∧ ch ∉ column.toList

/-- Where a column is looked for: the name that it is written behind and the model that has it. -/
inductive Home (s : Scope) (look : Entity → Except Error Model) (c : Column) :
    Option String → Model → Prop where
  | bare (hc : c.table = none) (hq : s.qualifier = .bare) : Home s look c none s.model
  | joined (hc : c.table = none) {t : String} (hq : s.qualifier = .table t) :
    Home s look c (some t) s.model
  | table {t : Table} {m : Model} (hc : c.table = some t) (hm : look t.entity = .ok m) :
    Home s look c (some (t.aliasName.getD m.tableName)) m

/-- A column is the identifier of its field at its home. -/
theorem column_ok {c : Column} {a : Sql} :
    (s.column c).eval look = .ok a ↔
      ∃ owner m, Home s look c owner m ∧ ∃ f, m.resolveField c.name = .ok f ∧
        s.reference owner f.column = a := by
  unfold column
  constructor
  · intro h
    cases ht : c.table with
    | none =>
      simp only [ht, Consult.bind_eq, Consult.eval_bind_ok, Consult.eval_ofExcept] at h
      obtain ⟨f, hf, h⟩ := h
      cases hq : s.qualifier with
      | bare =>
        rw [hq] at h
        exact ⟨none, s.model, .bare ht hq, f, hf, Except.ok.inj h⟩
      | table t =>
        rw [hq] at h
        exact ⟨some t, s.model, .joined ht hq, f, hf, Except.ok.inj h⟩
      | missing =>
        rw [hq] at h
        cases h
    | some t =>
      simp only [ht, Consult.bind_eq, Consult.eval_bind_ok, Consult.eval_ofExcept,
        Consult.eval_model] at h
      obtain ⟨m, hm, f, hf, h⟩ := h
      exact ⟨_, m, .table ht hm, f, hf, Except.ok.inj h⟩
  · rintro ⟨owner, m, hhome, f, hf, rfl⟩
    cases hhome with
    | bare hc hq => simp [hc, hq, hf, reference]
    | joined hc hq => simp [hc, hq, hf, reference]
    | table hc hm => simp [hc, hm, hf, reference]

/-- The names that a field is written with are those of the scope or of the column's own table. -/
theorem Home.plain {c : Column} {owner : Option String} {m : Model} {f : Field}
    (h : Home s look c owner m) (hs : s.Avoids ch) (hc : c.Avoids look ch)
    (hf : m.resolveField c.name = .ok f) : Plain ch owner f.column := by
  -- whichever model has the field, its names avoid the character
  have hmem := Model.mem_of_resolveField hf
  cases h with
  | bare _ _ => exact ⟨by simp, hs.model.column f hmem⟩
  | joined _ hq =>
    refine ⟨?_, hs.model.column f hmem⟩
    intro u hu
    cases hu
    exact hs.qualifier _ hq
  | table ht hm =>
    have htab := hc _ ht
    refine ⟨?_, (htab.model m hm).column f hmem⟩
    intro u hu
    cases hu
    exact htab.name hm

/-- **The names of a column** avoid what those of the scope and of its table do. -/
theorem column_reference {c : Column} {a : Sql} (hs : s.Avoids ch) (hc : c.Avoids look ch)
    (h : (s.column c).eval look = .ok a) :
    ∃ owner column, Plain ch owner column ∧ s.reference owner column = a := by
  obtain ⟨owner, m, hhome, f, hf, rfl⟩ := column_ok.1 h
  exact ⟨owner, f.column, hhome.plain hs hc hf, rfl⟩

theorem aggregate_ok {g : Aggregate} {a : Sql} :
    (s.aggregate g).eval look = .ok a ↔
      ∃ c, (s.column g.arg).eval look = .ok c ∧ lit g.fn.name ++ parens c = a := by
  simp [aggregate]

theorem compare_ok {op : Comparison} {l : Term} {r : Operand} {a : Sql} :
    (s.predicate (.compare op l r)).eval look = .ok a ↔
      ∃ x, (s.term l).eval look = .ok x ∧ ∃ y, (s.operand r).eval look = .ok y ∧
        x ++ lit (" " ++ op.name ++ " ") ++ y = a := by
  simp [predicate]

theorem compareTruth_ok {op : Comparison} {l : Term} {r : Predicate} {a : Sql} :
    (s.predicate (.compareTruth op l r)).eval look = .ok a ↔
      ∃ x, (s.term l).eval look = .ok x ∧ ∃ y, (s.predicate r).eval look = .ok y ∧
        x ++ lit (" " ++ op.name ++ " ") ++ parens y = a := by
  simp [predicate]

theorem and_ok {l r : Predicate} {a : Sql} :
    (s.predicate (.and l r)).eval look = .ok a ↔
      ∃ x, (s.predicate l).eval look = .ok x ∧ ∃ y, (s.predicate r).eval look = .ok y ∧
        parens x ++ lit " AND " ++ parens y = a := by
  simp [predicate]

theorem or_ok {l r : Predicate} {a : Sql} :
    (s.predicate (.or l r)).eval look = .ok a ↔
      ∃ x, (s.predicate l).eval look = .ok x ∧ ∃ y, (s.predicate r).eval look = .ok y ∧
        parens x ++ lit " OR " ++ parens y = a := by
  simp [predicate]

theorem not_ok {p : Predicate} {a : Sql} :
    (s.predicate (.not p)).eval look = .ok a ↔
      ∃ x, (s.predicate p).eval look = .ok x ∧ lit "NOT " ++ parens x = a := by
  simp [predicate]

/-- Conditions are their conjunction behind the keyword, or nothing. -/
theorem conditions_ok {head : String} {ps : List Predicate} {a : Sql} :
    (s.conditions head ps).eval look = .ok a ↔
      (ps = [] ∧ lit "" = a) ∨ ∃ p ∈ Predicate.conjunction? ps, ∃ x,
        (s.predicate p).eval look = .ok x ∧ lit head ++ x = a := by
  unfold conditions
  cases ps with
  | nil => simp [Predicate.conjunction?]
  | cons p ps =>
    simp only [Predicate.conjunction?, Consult.bind_eq, Consult.pure_eq, Consult.eval_bind_ok,
      Consult.eval_pure, Except.ok.injEq, Option.mem_some, exists_eq_left', reduceCtorEq, false_and,
      false_or]

theorem selectItem_column_ok {c : Column} {a : Sql} :
    (s.selectItem (.column c)).eval look = .ok a ↔
      ∃ x, (s.column c).eval look = .ok x ∧ x ++ s.asName c.aliasName = a := by
  simp [selectItem]

theorem selectItem_aggregate_ok {g : Aggregate} {a : Sql} :
    (s.selectItem (.aggregate g)).eval look = .ok a ↔
      ∃ x, (s.aggregate g).eval look = .ok x ∧ x ++ s.asName g.aliasName = a := by
  simp [selectItem]

theorem orderItem_ok {c : Column} {a : Sql} :
    (s.orderItem c).eval look = .ok a ↔
      ∃ x, (s.column c).eval look = .ok x ∧
        x ++ lit (" " ++ (c.order.getD .default).name) = a := by
  simp [orderItem]

theorem table_ok {t : Table} {a : Sql} :
    (s.table t).eval look = .ok a ↔
      ∃ m, look t.entity = .ok m ∧ s.ident m.tableName ++ s.asName t.aliasName = a := by
  simp [table]

/-- Fields are written as their columns. -/
theorem fieldColumns_eval (m : Model) (names : List String) : (s.fieldColumns m names).eval look =
    (names.mapM m.resolveField).map (List.map fun f => s.ident f.column) :=
  Consult.eval_all_map names

theorem fieldColumns_ok {m : Model} {names : List String} {as : List Sql} :
    (s.fieldColumns m names).eval look = .ok as ↔
      ∃ fs, names.mapM m.resolveField = .ok fs ∧ (fs.map Field.column).map s.ident = as := by
  rw [fieldColumns_eval]
  cases names.mapM m.resolveField with
  | error err => simp [Except.map]
  | ok fs => simp [Except.map, Function.comp_def]

/-- A shared field is one of the first table of the left side. -/
theorem using_ok {left : TableRef} {name : String} {names : List String} {a : Sql} :
    (s.joinCondition left (.using (name :: names))).eval look = .ok a ↔
      ∃ m, look left.leftmost.entity = .ok m ∧ ∃ cs,
        (s.fieldColumns m (name :: names)).eval look = .ok cs ∧
          lit " USING " ++ parens (commaList cs) = a := by
  simp [joinCondition]

theorem join_ok {kind : JoinKind} {l r : TableRef} {c : JoinCondition} {a : Sql} :
    (s.tableRef (.join kind l r c)).eval look = .ok a ↔
      ∃ x, (s.tableRef l).eval look = .ok x ∧ ∃ y, (s.tableRef r).eval look = .ok y ∧ ∃ z,
        (s.joinCondition l c).eval look = .ok z ∧
          parens (x ++ lit (" " ++ kind.name ++ " ") ++ y ++ z) = a := by
  simp [tableRef]

/-- The names that a statement's scope brings along are those of its own model and of the tables
that it reads from. -/
theorem avoids_of {d : Dialect} {m : Model} {source : Option TableRef} (hm : m.Avoids ch)
    (ht : ∀ t ∈ source.toList.flatMap TableRef.mentioned, t.Avoids look ch) :
    Avoids ⟨d, m, .of m source⟩ ch := by
  refine ⟨hm, ?_⟩
  intro name hq
  -- only a join has a qualifier: the alias of the first table of the type, or the type's own name
  cases source with
  | none => cases hq
  | some t =>
    cases t with
    | table t => cases hq
    | join kind l r c =>
      simp only [Qualifier.of] at hq
      cases hf : (TableRef.join kind l r c).find? m.entity with
      | none =>
        rw [hf] at hq
        cases hq
      | some u =>
        rw [hf] at hq
        cases hq
        have hu : u ∈ (TableRef.join kind l r c).mentioned :=
          List.mem_append_left _ (TableRef.mem_tables_of_find hf)
        have hav : u.Avoids look ch := ht u (by simpa using hu)
        cases ha : u.aliasName with
        | none => exact hm.table
        | some a => exact hav.label a ha

end Scope

namespace Select

/-- The names in each clause of the statement and those of its scope avoid the character. -/
structure Names (look : Entity → Except Error Model) (ch : Char) (q : Select) (s : Scope) :
    Prop where
  scope : s.Avoids ch
  source : ∀ t ∈ q.source, ∀ u ∈ t.mentioned, u.Avoids look ch
  items : ∀ i ∈ q.columns, ∀ c ∈ i.columns, c.Avoids look ch
  labels : ∀ i ∈ q.columns, ∀ n ∈ i.label?, ch ∉ n.toList
  wheres : ∀ c ∈ q.wheres.flatMap Predicate.columns, c.Avoids look ch
  groups : ∀ e ∈ q.groupBy, ∀ c ∈ e.column?, c.Avoids look ch
  having : ∀ c ∈ q.having.flatMap Predicate.columns, c.Avoids look ch
  orders : ∀ c ∈ q.orderBy, c.Avoids look ch

theorem names_of_avoids {e : Entity} {q : Select} {m : Model} {d : Dialect}
    (h : (Statement.select q : Statement e).Avoids look ch) (hm : look e = .ok m) :
    q.Names look ch ⟨d, m, .of m q.source⟩ := by
  have hsource : ∀ t ∈ q.source.toList.flatMap TableRef.mentioned, t.Avoids look ch :=
    fun t ht => h.table t (List.mem_append_left _ ht)
  have hcol : ∀ x ∈ q.clauseColumns, x.Avoids look ch := fun x hx t ht =>
    h.table t (List.mem_append_right _ (List.mem_filterMap.2 ⟨x, hx, ht⟩))
  simp only [clauseColumns, List.mem_append, List.mem_flatMap, List.mem_filterMap] at hcol
  refine ⟨Scope.avoids_of (h.own m hm) hsource, ?_, ?_, ?_, ?_, ?_, ?_, ?_⟩
  · exact fun t ht u hu =>
      hsource u (List.mem_flatMap.2 ⟨t, Option.mem_toList.2 ht, hu⟩)
  · exact fun i hi c hc => hcol c (.inl (.inl (.inl (.inl ⟨i, hi, hc⟩))))
  · exact fun i hi n hn => h.label n (List.mem_filterMap.2 ⟨i, hi, hn⟩)
  · exact fun c hc => hcol c (.inl (.inl (.inl (.inr (List.mem_flatMap.1 hc)))))
  · exact fun x hx c hc => hcol c (.inl (.inl (.inr ⟨x, hx, hc⟩)))
  · exact fun c hc => hcol c (.inl (.inr (List.mem_flatMap.1 hc)))
  · exact fun c hc => hcol c (.inr hc)

/-- The parts of a statement, each rendered. -/
structure Clauses where
  items : List Sql
  source : Sql
  wheres : Sql
  groups : List Sql
  having : Sql
  orders : List Sql

/-- The parts put together. -/
def Clauses.sql (c : Clauses) (limit offset : Int64) : Sql :=
  lit "SELECT " ++ (if c.items.isEmpty then lit "*" else commaList c.items) ++ lit " FROM " ++
    c.source ++ c.wheres ++ clause " GROUP BY " c.groups ++ c.having ++
    clause " ORDER BY " c.orders ++ countText " LIMIT " limit ++ countText " OFFSET " offset ++
    lit ";"

/-- What each part has been rendered from. -/
structure Renders (q : Select) (look : Entity → Except Error Model) (s : Scope) (c : Clauses) :
    Prop where
  items : (Consult.all s.selectItem q.columns).eval look = .ok c.items
  source : (sourceText s q.source).eval look = .ok c.source
  wheres : (s.conditions " WHERE " q.wheres).eval look = .ok c.wheres
  groups : (Consult.all (groupItem s) q.groupBy).eval look = .ok c.groups
  having : (s.conditions " HAVING " q.having).eval look = .ok c.having
  orders : (Consult.all s.orderItem q.orderBy).eval look = .ok c.orders

theorem build_ok {q : Select} {d : Dialect} {e : Entity} {sql : Sql}
    (h : (q.build d e).eval look = .ok sql) :
    ∃ m, look e = .ok m ∧ ∃ c, q.Renders look ⟨d, m, .of m q.source⟩ c ∧
      c.sql q.limit q.offset = sql := by
  simp only [build, render, Consult.bind_eq, Consult.pure_eq, Consult.eval_bind_ok,
    Consult.eval_pure, Consult.eval_model, Except.ok.injEq] at h
  obtain ⟨m, hm, items, hi, source, hs, wheres, hw, groups, hg, having, hh, orders, ho, rfl⟩ := h
  exact ⟨m, hm, ⟨items, source, wheres, groups, having, orders⟩, ⟨hi, hs, hw, hg, hh, ho⟩, rfl⟩

theorem groupItem_ok {e : Expr} {a : Sql} (h : (groupItem s e).eval look = .ok a) :
    ∃ c ∈ e.column?, (s.column c).eval look = .ok a := by
  unfold groupItem at h
  split at h
  · exact ⟨_, rfl, h⟩
  · cases h

end Select

namespace Insert

variable {e : Entity}

/-- The parts of a statement, each rendered. -/
structure Clauses where
  fields : List Field
  tuples : List Sql
  upsert : Sql

/-- The parts put together. -/
def Clauses.sql (c : Clauses) (s : Scope) : Sql :=
  lit "INSERT INTO " ++ s.ident s.model.tableName ++
    parens (commaList (c.fields.map fun f => s.ident f.column)) ++ lit " VALUES " ++
    commaList c.tuples ++ c.upsert ++ lit ";"

/-- What each part has been rendered from. -/
structure Renders (q : Insert e) (look : Entity → Except Error Model) (a : Accessor) (s : Scope)
    (c : Clauses) : Prop where
  fields : q.fields s.model = .ok c.fields
  tuples : (Consult.all (tuple a s.model c.fields) q.records).eval look = .ok c.tuples
  upsert : (upsertText s q.upsert).eval look = .ok c.upsert

theorem build_ok {q : Insert e} {d : Dialect} {a : Accessor} {sql : Sql}
    (h : (q.build d a).eval look = .ok sql) :
    q.records ≠ [] ∧ ∃ m, look e = .ok m ∧ ∃ c, q.Renders look a ⟨d, m, .bare⟩ c ∧
      c.sql ⟨d, m, .bare⟩ = sql := by
  unfold build at h
  split at h
  · cases h
  rename_i hne
  simp only [render, Consult.bind_eq, Consult.pure_eq, Consult.eval_bind_ok, Consult.eval_pure,
    Consult.eval_model, Consult.eval_ofExcept, Except.ok.injEq] at h
  obtain ⟨m, hm, fs, hf, tuples, ht, upsert, hu, rfl⟩ := h
  refine ⟨?_, m, hm, ⟨fs, tuples, upsert⟩, ⟨hf, ht, hu⟩, rfl⟩
  intro hnil
  exact hne (by rw [hnil]; rfl)

theorem mem_of_fields {q : Insert e} {m : Model} {fs : List Field} {f : Field}
    (h : q.fields m = .ok fs) (hf : f ∈ fs) : f ∈ m.fields := by
  unfold fields at h
  split at h
  · cases h
    exact hf
  · exact Model.mem_of_resolveFields h f hf

/-- A tuple has a placeholder for the value of each field. -/
theorem tuple_ok {a : Accessor} {m : Model} {fs : List Field} {r : Record e} {sql : Sql} :
    (tuple a m fs r).eval look = .ok sql ↔
      ∃ vs, List.Forall₂ (fun f v => a.field m r f.name = .ok v) fs vs ∧
        parens (commaList (vs.map placeholder)) = sql := by
  simp [tuple, Consult.eval_all_ok]

theorem assignment_value_ok {field : String} {v : Value} {a : Sql} :
    (assignment s (.value field v)).eval look = .ok a ↔
      ∃ f, s.model.resolveField field = .ok f ∧
        s.ident f.column ++ lit "=" ++ placeholder v = a := by
  simp [assignment]

theorem assignment_column_ok {c : Column} {a : Sql} :
    (assignment s (.column c)).eval look = .ok a ↔
      c.table = none ∧ ∃ f, s.model.resolveField c.name = .ok f ∧
        s.ident f.column ++ lit "=" ++ rejected s.dialect (s.ident f.column) = a := by
  obtain ⟨name, table, label, order⟩ := c
  cases table with
  | none => simp [assignment, upsertColumn]
  | some t => simp [assignment, upsertColumn]

theorem upsertText_ok {u : Upsert} {a : Sql} :
    (upsertText s (some u)).eval look = .ok a ↔
      ∃ head, (conflictText s u.conflict).eval look = .ok head ∧ ∃ as,
        (Consult.all (assignment s) u.assigns).eval look = .ok as ∧ head ++ commaList as = a := by
  simp [upsertText]

end Insert

namespace Delete

theorem build_ok {q : Delete} {d : Dialect} {e : Entity} {sql : Sql}
    (h : (q.build d e).eval look = .ok sql) :
    ∃ m, look e = .ok m ∧ ∃ target, (targetText ⟨d, m, .bare⟩ q.target).eval look = .ok target ∧
      ∃ wheres, (Scope.conditions ⟨d, m, .bare⟩ " WHERE " q.wheres).eval look = .ok wheres ∧
        lit "DELETE FROM " ++ target ++ wheres ++ lit ";" = sql := by
  simpa [build, render] using h

end Delete

end RecordSql
