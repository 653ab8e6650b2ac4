import RecordSql.Proofs.Evaluation
import RecordSql.Proofs.Mapping
import RecordSql.Proofs.Mention
import RecordSql.Proofs.Sample

/-!
# Columns without a table of their own in a join

In a join such columns are those of the first table of the statement's record type, and it makes no
difference whether they name it.

* `Select.mapColumns`: a statement with a function of columns applied to all of its columns.
* `Scope.Ignores`: the function does not show in what columns are written as.
* `Select.render_mapColumns`: **then it does not show in the statement.**
* `Select.qualify`: a statement whose columns all name a table.
* `Select.build_qualify`: **naming the first table of the record type changes nothing.**
-/

namespace RecordSql

/-! ## All columns of a statement -/

variable (φ : Column → Column)

def Term.mapColumns : Term → Term
  | .column c => .column (φ c)
  | .aggregate a => .aggregate { a with arg := φ a.arg }

def Operand.mapColumns : Operand → Operand
  | .term t => .term (t.mapColumns φ)
  | .value v => .value v
  | .raw r => .raw r

def Predicate.mapColumns : Predicate → Predicate
  | .holds t => .holds (t.mapColumns φ)
  | .raw r => .raw r
  | .compare op l r => .compare op (l.mapColumns φ) (r.mapColumns φ)
  | .compareTruth op l r => .compareTruth op (l.mapColumns φ) (mapColumns r)
  | .and l r => .and (mapColumns l) (mapColumns r)
  | .or l r => .or (mapColumns l) (mapColumns r)
  | .not p => .not (mapColumns p)

def Expr.mapColumns : Expr → Expr
  | .operand o => .operand (o.mapColumns φ)
  | .predicate p => .predicate (p.mapColumns φ)

def SelectItem.mapColumns : SelectItem → SelectItem
  | .column c => .column (φ c)
  | .aggregate a => .aggregate { a with arg := φ a.arg }
  | .raw r => .raw r

def JoinCondition.mapColumns : JoinCondition → JoinCondition
  | .using fields => .using fields
  | .on ps => .on (ps.map (·.mapColumns φ))

def TableRef.mapColumns : TableRef → TableRef
  | .table t => .table t
  | .join kind l r c => .join kind (mapColumns l) (mapColumns r) (c.mapColumns φ)

/-- The statement with `φ` applied to all of its columns. -/
def Select.mapColumns (q : Select) : Select where
  columns := q.columns.map (·.mapColumns φ)
  source := q.source.map (·.mapColumns φ)
  wheres := q.wheres.map (·.mapColumns φ)
  groupBy := q.groupBy.map (·.mapColumns φ)
  having := q.having.map (·.mapColumns φ)
  orderBy := q.orderBy.map φ
  limit := q.limit
  offset := q.offset

variable {φ}

/-! ## The columns are those before, each with the function applied -/

theorem Operand.columns_mapColumns (o : Operand) :
    (o.mapColumns φ).columns = o.columns.map φ := by
  cases o with
  | term t => cases t <;> rfl
  | value v => rfl
  | raw r => rfl

theorem Term.subject_mapColumns (t : Term) : (t.mapColumns φ).subject = φ t.subject := by
  cases t <;> rfl

theorem Predicate.columns_mapColumns (p : Predicate) :
    (p.mapColumns φ).columns = p.columns.map φ := by
  induction p with
  | holds t => simp [mapColumns, columns, Term.subject_mapColumns]
  | raw r => rfl
  | compare op l r =>
    simp [mapColumns, columns, Term.subject_mapColumns, Operand.columns_mapColumns]
  | compareTruth op l r ih => simp [mapColumns, columns, Term.subject_mapColumns, ih]
  | and l r ihl ihr => simp [mapColumns, columns, ihl, ihr]
  | or l r ihl ihr => simp [mapColumns, columns, ihl, ihr]
  | not p ih => simp [mapColumns, columns, ih]

theorem SelectItem.columns_mapColumns (i : SelectItem) :
    (i.mapColumns φ).columns = i.columns.map φ := by
  cases i <;> rfl

theorem Predicate.flatMap_columns_mapColumns (ps : List Predicate) :
    (ps.map (·.mapColumns φ)).flatMap columns = (ps.flatMap columns).map φ := by
  simp [List.flatMap_map, List.map_flatMap, columns_mapColumns]

theorem TableRef.columns_mapColumns (t : TableRef) :
    (t.mapColumns φ).columns = t.columns.map φ := by
  induction t with
  | table t => rfl
  | join kind l r c ihl ihr =>
    cases c with
    | «using» fields =>
      simp [mapColumns, columns, ihl, ihr, JoinCondition.mapColumns, JoinCondition.columns]
    | on ps =>
      simp [mapColumns, columns, ihl, ihr, JoinCondition.mapColumns, JoinCondition.columns,
        Predicate.flatMap_columns_mapColumns]

theorem Expr.column?_mapColumns (e : Expr) : (e.mapColumns φ).column? = e.column?.map φ := by
  rcases e with ((_ | _) | _ | _) | _ <;> rfl

theorem Select.allColumns_mapColumns (q : Select) :
    (q.mapColumns φ).allColumns = q.allColumns.map φ := by
  have hitems : (q.columns.map (·.mapColumns φ)).flatMap SelectItem.columns =
      (q.columns.flatMap SelectItem.columns).map φ := by
    simp [List.flatMap_map, List.map_flatMap, SelectItem.columns_mapColumns]
  have hgroups : (q.groupBy.map (·.mapColumns φ)).filterMap Expr.column? =
      (q.groupBy.filterMap Expr.column?).map φ := by
    rw [List.filterMap_map, List.map_filterMap]
    exact List.filterMap_congr fun e _ => e.column?_mapColumns
  have hsource : (q.source.map (·.mapColumns φ)).toList.flatMap TableRef.columns =
      (q.source.toList.flatMap TableRef.columns).map φ := by
    cases q.source <;> simp [TableRef.columns_mapColumns]
  simp only [allColumns, clauseColumns, mapColumns, hitems, hgroups, hsource,
    Predicate.flatMap_columns_mapColumns, List.map_append]

/-! ## A function that does not show -/

theorem Predicate.conjunction?_mapColumns (ps : List Predicate) :
    conjunction? (ps.map (·.mapColumns φ)) = (conjunction? ps).map (·.mapColumns φ) := by
  cases ps with
  | nil => rfl
  | cons p ps =>
    simp only [List.map_cons, conjunction?, Option.map_some, Option.some.injEq]
    induction ps generalizing p with
    | nil => rfl
    | cons q qs ih =>
      rw [List.map_cons, List.foldl_cons, List.foldl_cons]
      exact ih (.and p q)

theorem TableRef.tables_mapColumns (t : TableRef) : (t.mapColumns φ).tables = t.tables := by
  induction t with
  | table t => rfl
  | join kind l r c ihl ihr => rw [mapColumns, tables, tables, ihl, ihr]

theorem TableRef.leftmost_mapColumns (t : TableRef) : (t.mapColumns φ).leftmost = t.leftmost := by
  induction t with
  | table t => rfl
  | join kind l r c ihl _ => exact ihl

namespace Scope

variable {s : Scope} {look : Entity → Except Error Model}

/-- `φ` shows neither in what a column is written as nor in the rest of it. -/
structure Ignores (s : Scope) (look : Entity → Except Error Model) (φ : Column → Column) :
    Prop where
  column : ∀ c, (s.column (φ c)).eval look = (s.column c).eval look
  label : ∀ c, (φ c).aliasName = c.aliasName
  order : ∀ c, (φ c).order = c.order

namespace Ignores

variable (h : s.Ignores look φ)
include h

theorem term (t : Term) : (s.term (t.mapColumns φ)).eval look = (s.term t).eval look := by
  cases t with
  | column c => exact h.column c
  | aggregate g =>
    simp only [Term.mapColumns, Scope.term, aggregate, Consult.bind_eq, Consult.eval_bind,
      h.column]

theorem operand (o : Operand) :
    (s.operand (o.mapColumns φ)).eval look = (s.operand o).eval look := by
  cases o with
  | term t => exact h.term t
  | value v => rfl
  | raw r => rfl

theorem predicate (p : Predicate) :
    (s.predicate (p.mapColumns φ)).eval look = (s.predicate p).eval look := by
  induction p with
  | holds t => exact h.term t
  | raw r => rfl
  | compare op l r =>
    simp only [Predicate.mapColumns, Scope.predicate, Consult.bind_eq, Consult.eval_bind, h.term,
      h.operand]
  | compareTruth op l r ih =>
    simp only [Predicate.mapColumns, Scope.predicate, Consult.bind_eq, Consult.eval_bind, h.term,
      ih]
  | and l r ihl ihr | or l r ihl ihr =>
    simp only [Predicate.mapColumns, Scope.predicate, Consult.bind_eq, Consult.eval_bind, ihl, ihr]
  | not p ih =>
    simp only [Predicate.mapColumns, Scope.predicate, Consult.bind_eq, Consult.eval_bind, ih]

theorem conditions (head : String) (ps : List Predicate) :
    (s.conditions head (ps.map (·.mapColumns φ))).eval look = (s.conditions head ps).eval look := by
  unfold Scope.conditions
  rw [Predicate.conjunction?_mapColumns]
  cases Predicate.conjunction? ps with
  | none => rfl
  | some p =>
    simp only [Option.map_some, Consult.bind_eq, Consult.eval_bind, h.predicate]

theorem selectItem (i : SelectItem) :
    (s.selectItem (i.mapColumns φ)).eval look = (s.selectItem i).eval look := by
  cases i with
  | column c =>
    simp only [SelectItem.mapColumns, Scope.selectItem, Consult.bind_eq, Consult.eval_bind,
      h.column, h.label]
  | aggregate g =>
    simp only [SelectItem.mapColumns, Scope.selectItem, aggregate, Consult.bind_eq,
      Consult.eval_bind, h.column]
  | raw r => rfl

theorem orderItem (c : Column) :
    (s.orderItem (φ c)).eval look = (s.orderItem c).eval look := by
  simp only [Scope.orderItem, Consult.bind_eq, Consult.eval_bind, h.column, h.order]

theorem groupItem (e : Expr) : (Select.groupItem s (e.mapColumns φ)).eval look =
    (Select.groupItem s e).eval look := by
  rcases e with ((c | a) | v | r) | p
  · exact h.column c
  · rfl
  · rfl
  · rfl
  · rfl

theorem joinCondition (left : TableRef) (c : JoinCondition) :
    (s.joinCondition (left.mapColumns φ) (c.mapColumns φ)).eval look =
      (s.joinCondition left c).eval look := by
  cases c with
  | «using» fields =>
    cases fields with
    | nil => rfl
    | cons f fs =>
      simp only [JoinCondition.mapColumns, Scope.joinCondition, TableRef.leftmost_mapColumns]
  | on ps => exact h.conditions " ON " ps

theorem tableRef (t : TableRef) :
    (s.tableRef (t.mapColumns φ)).eval look = (s.tableRef t).eval look := by
  induction t with
  | table t => rfl
  | join kind l r c ihl ihr =>
    simp only [TableRef.mapColumns, Scope.tableRef, Consult.bind_eq, Consult.eval_bind, ihl, ihr,
      h.joinCondition]

theorem sourceText (source : Option TableRef) :
    (Select.sourceText s (source.map (·.mapColumns φ))).eval look =
      (Select.sourceText s source).eval look := by
  cases source with
  | none => rfl
  | some t => exact h.tableRef t

end Ignores

end Scope

theorem Consult.eval_all_congr {α β γ : Type} {look : Entity → Except Error Model}
    {f : β → Consult γ} {k : α → Consult γ} {ψ : α → β}
    (h : ∀ a, (f (ψ a)).eval look = (k a).eval look) (as : List α) :
    (all f (as.map ψ)).eval look = (all k as).eval look := by
  induction as with
  | nil => rfl
  | cons a as ih => simp only [List.map_cons, all, eval_bind, h, ih]

namespace Select

/-- Which columns are qualified and how is decided by the tables alone. -/
theorem of_mapColumns (m : Model) (source : Option TableRef) :
    Qualifier.of m (source.map (·.mapColumns φ)) = Qualifier.of m source := by
  rcases source with _ | (_ | ⟨kind, l, r, c⟩)
  · rfl
  · rfl
  · have hfind : ((TableRef.join kind l r c).mapColumns φ).find? m.entity =
        (TableRef.join kind l r c).find? m.entity := by
      rw [TableRef.find?_eq, TableRef.find?_eq, TableRef.tables_mapColumns]
    simp only [Option.map_some, TableRef.mapColumns, Qualifier.of] at hfind ⊢
    rw [hfind]

/-- **A function that does not show in columns does not show in statements.** -/
theorem render_mapColumns {q : Select} {d : Dialect} {m : Model}
    {look : Entity → Except Error Model} (h : Scope.Ignores ⟨d, m, .of m q.source⟩ look φ) :
    ((q.mapColumns φ).render d m).eval look = (q.render d m).eval look := by
  have hitems := Consult.eval_all_congr h.selectItem q.columns
  have hgroups := Consult.eval_all_congr h.groupItem q.groupBy
  have horders := Consult.eval_all_congr h.orderItem q.orderBy
  simp only [render, mapColumns, of_mapColumns, Consult.bind_eq, Consult.eval_bind, hitems,
    h.sourceText, h.conditions, hgroups, horders]

end Select

/-- The column in the table `t`, if it names none. -/
def Column.qualify (t : Table) (c : Column) : Column := { c with table := c.table.or (some t) }

/-- The statement with `t` named by every column that names no table. -/
def Select.qualify (t : Table) (q : Select) : Select := q.mapColumns (·.qualify t)

/-- A column of the scope's own table is written behind the name that the scope has for it. -/
theorem Scope.ignores_qualify {s : Scope} {look : Entity → Except Error Model} {t : Table}
    (hm : look t.entity = .ok s.model)
    (hq : s.qualifier = .table (t.aliasName.getD s.model.tableName)) :
    s.Ignores look (·.qualify t) := by
  refine ⟨?_, fun _ => rfl, fun _ => rfl⟩
  -- a column with a table of its own stays as it is
  rintro ⟨name, _ | u, label, order⟩
  · simp only [Column.qualify, Option.none_or, Scope.column, hq, Consult.bind_eq,
      Consult.eval_bind, Consult.eval_model, hm, Consult.eval_ofExcept]
    rfl
  · rfl

namespace Select

variable {q : Select} {d : Dialect} {e : Entity} {t : Table} {kind : JoinKind} {l r : TableRef}
  {c : JoinCondition} {g : Registry}

/-- **Naming the first table changes nothing.** In a join, let `t` be the first table of the
statement's record type from left to right. The statement in which every column names a table,
which is `t` where it named none, has the same SQL and the same arguments, or fails with the same
error. -/
theorem build_qualify (hg : g.Reachable) (hjoin : q.source = some (.join kind l r c))
    (hfirst : (TableRef.join kind l r c).tables.find? (·.entity = e) = some t) :
    (((q.qualify t).build d e).run g).answer = ((q.build d e).run g).answer ∧
      ∀ x ∈ (q.qualify t).allColumns, x.table.isSome := by
  constructor
  · rw [Consult.answer_run, Consult.answer_run]
    simp only [build, Consult.bind_eq, Consult.eval_bind, Consult.eval_model]
    cases hm : g.look e with
    | error err => rfl
    | ok m =>
      have hentity : m.entity = e := (hg.describes ((g.answer_model e).trans hm)).entity
      have ht : t.entity = e := by simpa using List.find?_some hfirst
      have hqualifier : Qualifier.of m q.source = .table (t.aliasName.getD m.tableName) := by
        rw [hjoin, Qualifier.of, TableRef.find?_eq, hentity, hfirst]
      exact render_mapColumns (Scope.ignores_qualify (ht ▸ hm) hqualifier)
  · intro x hx
    rw [qualify, allColumns_mapColumns] at hx
    obtain ⟨y, -, rfl⟩ := List.mem_map.1 hx
    cases hy : y.table <;> simp [Column.qualify, hy]

end Select

namespace Sample

/-- The number of people of a name, from a join in which people occur twice. -/
def elders : Select where
  columns := [.column ⟨"nick", none, some "name", none⟩,
    .aggregate ⟨.count, ⟨"id", none, none, none⟩, none⟩]
  source := some (.join .inner
    (.join .left (.table ⟨city, none⟩) (.table ⟨person, some "p"⟩) (.on [grown]))
    (.table ⟨person, none⟩)
    (.on [.not (.compare .lt (.column ⟨"age", none, none, none⟩)
      (.term (.column ⟨"age", some ⟨person, none⟩, none, none⟩)))]))
  wheres := [grown]
  groupBy := [.operand (.term (.column ⟨"nick", none, none, none⟩))]
  having := [.compare .gt (.aggregate ⟨.count, ⟨"id", none, none, none⟩, none⟩) (.value (.int 1))]
  orderBy := [⟨"age", none, none, some .desc⟩]
  limit := 0
  offset := 0

/-- What `elders` is written as. -/
def eldersText : String :=
  String.join ["SELECT `p`.`nick` AS `name`,COUNT(`p`.`person_id`) FROM ((`cities` LEFT JOIN ",
    "`person` AS `p` ON `p`.`age` > ?) JOIN `person` ON NOT (`p`.`age` < `person`.`age`)) ",
    "WHERE `p`.`age` > ? GROUP BY `p`.`nick` HAVING COUNT(`p`.`person_id`) > ? ",
    "ORDER BY `p`.`age` DESC;"]

theorem build_elders : ∃ sql, ((elders.build .mysql person).run .empty).answer = .ok sql ∧
    sql.text = eldersText :=
  Except.ok_of_map (by decide +kernel)

end Sample

namespace Select

open Sample

/-- The first people are behind the cities, under another name. -/
theorem build_qualify_elders :
    elders.source.map (fun t => t.tables.find? (·.entity = person)) =
        some (some ⟨person, some "p"⟩) ∧
      (∃ x ∈ elders.allColumns, x.table = none) ∧
      (∀ x ∈ (elders.qualify ⟨person, some "p"⟩).allColumns, x.table.isSome) ∧
      ∃ sql, ((elders.build .mysql person).run .empty).answer = .ok sql ∧
        (((elders.qualify ⟨person, some "p"⟩).build .mysql person).run .empty).answer = .ok sql ∧
        sql.text = eldersText := by
  obtain ⟨hsame, hnamed⟩ := build_qualify (q := elders) (d := .mysql) (e := person)
    (t := ⟨person, some "p"⟩) Registry.Reachable.empty rfl (by decide)
  obtain ⟨sql, hsql, htext⟩ := build_elders
  exact ⟨by decide, by decide, hnamed, sql, hsql, hsame.trans hsql, htext⟩

end Select

end RecordSql
