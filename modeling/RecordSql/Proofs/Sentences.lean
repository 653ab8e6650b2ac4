import RecordSql.Proofs.Grammar
import RecordSql.Proofs.Qualification

/-!
# Statements are sentences

What is built of a statement without fragments lies in the grammar, clause by clause.

* `many_of_eval_all`: a list of the source is a list of the grammar, if it is not empty.
* `Outline.condition`, `Scope.tableRef_source`: conditions and joins.
* `Select.build_query`: a SELECT, with its counts of rows behind it.
* `Select.build_sentence`, `Insert.build_sentence`, `Delete.build_sentence`: statements by kind.
* `Statement.build_grammatical`: **every statement that builds is a sentence**, with LIMIT and
  OFFSET exactly if these counts are positive.
* `Statement.not_sentence_people`: where the lists of an INSERT are empty, and with OFFSET by
  itself, what builds is no sentence.
-/

namespace RecordSql

open Sql Grammar

variable {look : Entity → Except Error Model} {s : Scope}

/-! ## Lists -/

theorem commaList_listed {P : List Char → Prop} {as : List Sql} (hne : as ≠ [])
    (h : ∀ a ∈ as, P a.text.toList) : Listed P as.length (commaList as).text.toList := by
  induction as with
  | nil => exact absurd rfl hne
  | cons a as ih =>
    have ha : P a.text.toList := h a List.mem_cons_self
    cases as with
    | nil => exact .one ha
    | cons b bs =>
      have hrest := ih (List.cons_ne_nil b bs) fun x hx => h x (List.mem_cons_of_mem _ hx)
      have htext : (commaList (a :: b :: bs)).text.toList =
          a.text.toList ++ ',' :: (commaList (b :: bs)).text.toList := by
        simp [commaList]
      rw [htext]
      exact .more ha hrest

/-- What items of a list are rendered as, with commas between. -/
theorem many_of_eval_all {α : Type} {P : List Char → Prop} {f : α → Consult Sql} {as : List α}
    {bs : List Sql} (hne : as ≠ []) (h : (Consult.all f as).eval look = .ok bs)
    (hP : ∀ a ∈ as, ∀ b, (f a).eval look = .ok b → P b.text.toList) :
    Many P (commaList bs).text.toList := by
  refine ⟨_, commaList_listed (ne_nil_of_forall₂ (Consult.eval_all_ok.1 h) hne) ?_⟩
  intro b hb
  obtain ⟨a, ha, hab⟩ := Consult.exists_of_eval_all h hb
  exact hP a ha b hab

theorem clause_many {P : List Char → Prop} {head : String} {as : List Sql}
    (h : ∀ a ∈ as, P a.text.toList) : Clause head (Many P) (Sql.clause head as).text.toList := by
  unfold Sql.clause
  split
  · rw [text_lit]
    exact .absent
  · rename_i hne
    rw [text_append, text_lit, String.toList_append]
    exact .present ⟨_, commaList_listed (fun hnil => hne (List.isEmpty_iff.2 hnil)) h⟩

/-! ## Conditions -/

theorem Atom.subject {a : Atom} (h : a.Readable) : Subject a.spell := by
  cases a with
  | column name => exact .column h
  | aggregate fn name => exact .aggregate fn h

theorem Outline.condition {n : Outline} (h : n.Readable) : Condition n.spell := by
  induction n with
  | holds a => exact .holds (Atom.subject h)
  | raw r => cases h
  | compare op l r =>
    cases r with
    | atom a => exact .compare op (Atom.subject h.1) (Atom.subject h.2)
    | value v => exact .compareValue op (Atom.subject h.1)
    | raw r => cases h.2
  | compareTruth op l r ih => exact .compareTruth op (Atom.subject h.1) (ih h.2)
  | and l r ihl ihr => exact .and (ihl h.1) (ihr h.2)
  | or l r ihl ihr => exact .or (ihl h.1) (ihr h.2)
  | not p ih => exact .not (ih h)

namespace Scope

theorem conditions_clause {head : String} {ps : List Predicate} {a : Sql} (hs : s.Avoids '\x60')
    (hc : ∀ c ∈ ps.flatMap Predicate.columns, c.Avoids look '\x60')
    (hr : ps.flatMap Predicate.raws = []) (h : (s.conditions head ps).eval look = .ok a) :
    Clause head Condition a.text.toList := by
  rcases conditions_ok.1 h with ⟨-, rfl⟩ | ⟨p, hp, x, hx, rfl⟩
  · rw [text_lit]
    exact .absent
  · have hcols : p.columns = ps.flatMap Predicate.columns :=
      Predicate.flatMap_of_conjunction (fun _ _ => rfl) hp
    have hraws : p.raws = ps.flatMap Predicate.raws :=
      Predicate.flatMap_of_conjunction (fun _ _ => rfl) hp
    obtain ⟨n, -, hread, hspell, -⟩ := outline_ok hs (hcols ▸ hc) (hraws.trans hr) hx
    rw [text_append, text_lit, String.toList_append, ← hspell]
    exact .present (Outline.condition hread)

/-! ## Columns, items and tables -/

theorem column_identifier {c : Column} {a : Sql} (hs : s.Avoids '\x60')
    (hc : c.Avoids look '\x60') (h : (s.column c).eval look = .ok a) :
    Identifier a.text.toList := by
  obtain ⟨owner, column, hplain, rfl⟩ := column_reference hs hc h
  exact reference_identifier hplain

theorem ident_name {x : String} (h : '\x60' ∉ x.toList) : Name (s.ident x).text.toList := by
  rw [text_ident]
  exact .mk h

theorem labelled_asName {P : List Char → Prop} {a : Sql} {label : Option String}
    (h : P a.text.toList) (hl : ∀ n ∈ label, '\x60' ∉ n.toList) :
    Labelled P (a ++ s.asName label).text.toList := by
  rw [text_append, String.toList_append]
  cases label with
  | none =>
    simp only [asName, text_lit, String.toList_empty, List.append_nil]
    exact .plain h
  | some n =>
    simp only [asName, text_append, text_lit, String.toList_append]
    exact .renamed h (ident_name (hl n rfl))

theorem selectItem_labelled {i : SelectItem} {a : Sql} (hs : s.Avoids '\x60')
    (hc : ∀ c ∈ i.columns, c.Avoids look '\x60') (hr : i.raws = [])
    (hl : ∀ n ∈ i.label?, '\x60' ∉ n.toList) (h : (s.selectItem i).eval look = .ok a) :
    Labelled Subject a.text.toList := by
  cases i with
  | column c =>
    obtain ⟨x, hx, rfl⟩ := selectItem_column_ok.1 h
    exact labelled_asName (.column (column_identifier hs (hc c List.mem_cons_self) hx)) hl
  | aggregate g =>
    obtain ⟨x, hx, rfl⟩ := selectItem_aggregate_ok.1 h
    obtain ⟨y, hy, rfl⟩ := aggregate_ok.1 hx
    have hid := column_identifier hs (hc g.arg List.mem_cons_self) hy
    apply labelled_asName _ hl
    rw [text_append, text_lit, String.toList_append, text_parens]
    exact .aggregate g.fn hid
  | raw r => cases hr

theorem orderItem_sortKey {c : Column} {a : Sql} (hs : s.Avoids '\x60')
    (hc : c.Avoids look '\x60') (h : (s.orderItem c).eval look = .ok a) :
    SortKey a.text.toList := by
  obtain ⟨x, hx, rfl⟩ := orderItem_ok.1 h
  have htext : (x ++ lit (" " ++ (c.order.getD .default).name)).text.toList =
      x.text.toList ++ ' ' :: (c.order.getD .default).name.toList := by
    simp
  rw [htext]
  exact .mk (column_identifier hs hc hx) _

theorem table_labelled {t : Table} {a : Sql} (ht : t.Avoids look '\x60')
    (h : (s.table t).eval look = .ok a) : Labelled Name a.text.toList := by
  obtain ⟨m, hm, rfl⟩ := table_ok.1 h
  exact labelled_asName (ident_name (ht.model m hm).table) ht.label

theorem fieldColumns_many {m : Model} {names : List String} {as : List Sql}
    (hm : m.Avoids '\x60') (hne : names ≠ []) (h : (s.fieldColumns m names).eval look = .ok as) :
    Many Name (commaList as).text.toList := by
  apply many_of_eval_all hne h
  intro name _ a ha
  simp only [Consult.bind_eq, Consult.eval_bind_ok, Consult.eval_ofExcept] at ha
  obtain ⟨f, hf, ha⟩ := ha
  rw [← Except.ok.inj ha]
  exact ident_name (hm.column f (Model.mem_of_resolveField hf))

theorem joinCondition_match {left : TableRef} {c : JoinCondition} {a : Sql} (hs : s.Avoids '\x60')
    (hleft : left.leftmost.Avoids look '\x60') (hc : ∀ x ∈ c.columns, x.Avoids look '\x60')
    (hr : c.raws = []) (h : (s.joinCondition left c).eval look = .ok a) :
    Match a.text.toList := by
  cases c with
  | on ps =>
    have hclause : Clause " ON " Condition a.text.toList := conditions_clause hs hc hr h
    generalize a.text.toList = cs at hclause
    cases hclause with
    | absent => exact .everything
    | present h => exact .on h
  | «using» names =>
    cases names with
    | nil =>
      cases h
      rw [text_lit]
      exact .everything
    | cons name names =>
      obtain ⟨m, hm, cs, hcs, rfl⟩ := using_ok.1 h
      rw [text_append, text_lit, String.toList_append, text_parens]
      exact .using (fieldColumns_many (hleft.model m hm) (List.cons_ne_nil _ _) hcs)

/-- **A join without fragments is a source**, whatever its tree. -/
theorem tableRef_source {t : TableRef} {a : Sql} (hs : s.Avoids '\x60')
    (ht : ∀ u ∈ t.mentioned, u.Avoids look '\x60') (hr : t.raws = [])
    (h : (s.tableRef t).eval look = .ok a) : Source a.text.toList := by
  induction t generalizing a with
  | table t => exact .table (table_labelled (ht t List.mem_cons_self) h)
  | join kind l r c ihl ihr =>
    obtain ⟨x, hx, y, hy, z, hz, rfl⟩ := join_ok.1 h
    obtain ⟨hsides, hrc⟩ := List.append_eq_nil_iff.1 hr
    obtain ⟨hrl, hrr⟩ := List.append_eq_nil_iff.1 hsides
    have hleft := ihl (fun u hu => ht u (TableRef.mentioned_left hu)) hrl hx
    have hright := ihr (fun u hu => ht u (TableRef.mentioned_right hu)) hrr hy
    have hon := joinCondition_match hs (ht _ (TableRef.mentioned_left l.leftmost_mentioned))
      (fun col hcol u hu => ht u (TableRef.mentioned_condition hcol hu)) hrc hz
    have htext : (parens (x ++ lit (" " ++ kind.name ++ " ") ++ y ++ z)).text.toList =
        enclosed (x.text.toList ++ ' ' :: (kind.name.toList ++ ' ' ::
          (y.text.toList ++ z.text.toList))) := by
      simp [text_parens]
    rw [htext]
    exact .join kind hleft hright hon

end Scope

/-! ## SELECT -/

namespace Select

variable {q : Select} {d : Dialect} {e : Entity} {sql : Sql}

theorem sourceText_source (hs : s.Avoids '\x60') {source : Option TableRef} {a : Sql}
    (ht : ∀ t ∈ source, ∀ u ∈ t.mentioned, u.Avoids look '\x60')
    (hr : source.toList.flatMap TableRef.raws = [])
    (h : (sourceText s source).eval look = .ok a) : Source a.text.toList := by
  cases source with
  | none =>
    cases h
    exact .table (.plain (Scope.ident_name hs.model.table))
  | some t => exact Scope.tableRef_source hs (ht t rfl) (by simpa using hr) h

theorem text_countText (head : String) (n : Int64) : (countText head n).text.toList =
    if decide (0 < n) = true then head.toList ++ ['?'] else [] := by
  unfold countText
  by_cases h : 0 < n <;> simp [h]

/-- The counts of rows are written exactly if they are positive. -/
theorem text_counts (q : Select) : (countText " LIMIT " q.limit).text.toList ++
    (countText " OFFSET " q.offset).text.toList =
      counts (decide (0 < q.limit)) (decide (0 < q.offset)) := by
  rw [text_countText, text_countText]
  rfl

/-- A SELECT without fragments is a query, with its counts of rows behind it. -/
theorem build_query (hname : (Statement.select q : Statement e).Avoids look '\x60')
    (hraw : q.raws = []) (h : (q.build d e).eval look = .ok sql) :
    ∃ cs, Query cs ∧
      sql.text.toList = cs ++ counts (decide (0 < q.limit)) (decide (0 < q.offset)) ++ [';'] := by
  obtain ⟨m, hm, c, hc, rfl⟩ := build_ok h
  have hn : q.Names look '\x60' ⟨d, m, .of m q.source⟩ := names_of_avoids hname hm
  simp only [raws, List.append_eq_nil_iff, List.flatMap_eq_nil_iff] at hraw
  obtain ⟨⟨⟨hrawItems, hrawSource⟩, hrawWheres⟩, hrawHaving⟩ := hraw
  have hitems : ∀ a ∈ c.items, Labelled Subject a.text.toList := by
    intro a ha
    obtain ⟨i, hi, ha⟩ := Consult.exists_of_eval_all hc.items ha
    exact Scope.selectItem_labelled hn.scope (hn.items i hi) (hrawItems i hi) (hn.labels i hi) ha
  have hlist : Selection (if c.items.isEmpty then lit "*" else commaList c.items).text.toList := by
    split
    · rw [text_lit]
      exact .everything
    · rename_i hne
      exact .items ⟨_, commaList_listed (fun hnil => hne (List.isEmpty_iff.2 hnil)) hitems⟩
  have hsource : Source c.source.text.toList :=
    sourceText_source hn.scope hn.source (List.flatMap_eq_nil_iff.2 hrawSource) hc.source
  have hwheres : Clause " WHERE " Condition c.wheres.text.toList :=
    Scope.conditions_clause hn.scope hn.wheres (List.flatMap_eq_nil_iff.2 hrawWheres) hc.wheres
  have hgroups : ∀ a ∈ c.groups, Identifier a.text.toList := by
    intro a ha
    obtain ⟨x, hx, ha⟩ := Consult.exists_of_eval_all hc.groups ha
    obtain ⟨col, hcolumn, ha⟩ := groupItem_ok ha
    exact Scope.column_identifier hn.scope (hn.groups x hx col hcolumn) ha
  have hhaving : Clause " HAVING " Condition c.having.text.toList :=
    Scope.conditions_clause hn.scope hn.having (List.flatMap_eq_nil_iff.2 hrawHaving) hc.having
  have horders : ∀ a ∈ c.orders, SortKey a.text.toList := by
    intro a ha
    obtain ⟨x, hx, ha⟩ := Consult.exists_of_eval_all hc.orders ha
    exact Scope.orderItem_sortKey hn.scope (hn.orders x hx) ha
  refine ⟨_, .mk hlist hsource hwheres (clause_many hgroups) hhaving (clause_many horders), ?_⟩
  rw [← text_counts]
  simp [Clauses.sql]

/-- Of the counts of rows only the second one is positive. -/
def OffsetAlone (q : Select) : Prop := ¬ 0 < q.limit ∧ 0 < q.offset

instance (q : Select) : Decidable q.OffsetAlone :=
  inferInstanceAs (Decidable (¬ 0 < q.limit ∧ 0 < q.offset))

/-- **A SELECT that builds is a sentence**, one of the grammar with OFFSET behind LIMIT exactly if
not only the second count is positive. Each count is in it exactly if it is positive. -/
theorem build_sentence (hname : (Statement.select q : Statement e).Avoids look '\x60')
    (hraw : q.raws = []) (h : (q.build d e).eval look = .ok sql) :
    Sentence q.OffsetAlone d sql.text.toList ∧
      (Sentence False d sql.text.toList ↔ ¬ q.OffsetAlone) ∧
      ∀ limit offset, Counted limit offset sql.text.toList ↔
        limit = decide (0 < q.limit) ∧ offset = decide (0 < q.offset) := by
  obtain ⟨cs, hquery, htext⟩ := build_query hname hraw h
  have hcounts : Counts q.OffsetAlone (counts (decide (0 < q.limit)) (decide (0 < q.offset))) :=
    counts_iff.2 ⟨_, _, rfl, fun hl ho => ⟨of_decide_eq_false hl, of_decide_eq_true ho⟩⟩
  have hsentence : Sentence q.OffsetAlone d sql.text.toList := by
    rw [htext]
    exact (Body.select hquery hcounts).sentence
  refine ⟨hsentence, ⟨?_, ?_⟩, ?_⟩
  · rintro hstrict ⟨hl, ho⟩
    rw [htext, decide_eq_false hl, decide_eq_true ho] at hstrict
    exact hquery.not_sentence_offset hstrict
  · intro hnot
    rwa [eq_false hnot] at hsentence
  · intro limit offset
    rw [htext, hquery.counted_iff]

end Select

/-! ## INSERT -/

namespace Insert

variable {e : Entity} {q : Insert e} {d : Dialect} {a : Accessor} {sql : Sql}

theorem assignment_setting {x : Assignment} {y : Sql} (hs : s.model.Avoids '\x60')
    (h : (assignment s x).eval look = .ok y) : Setting s.dialect y.text.toList := by
  cases x with
  | value field v =>
    obtain ⟨f, hf, rfl⟩ := assignment_value_ok.1 h
    have hcol := Scope.ident_name (s := s) (hs.column f (Model.mem_of_resolveField hf))
    have htext : (s.ident f.column ++ lit "=" ++ placeholder v).text.toList =
        (s.ident f.column).text.toList ++ "=?".toList := by
      simp
    rw [htext]
    exact .value hcol
  | column c =>
    obtain ⟨-, f, hf, rfl⟩ := assignment_column_ok.1 h
    have hcol := Scope.ident_name (s := s) (hs.column f (Model.mem_of_resolveField hf))
    simp only [text_append, text_lit, String.toList_append, List.append_assoc]
    cases s.dialect with
    | mysql =>
      simp only [rejected, text_append, text_lit, String.toList_append, Scope.text_parens]
      exact .mysql hcol
    | sqlite =>
      simp only [rejected, text_append, text_lit, String.toList_append]
      exact .sqlite hcol

theorem conflictText_conflict {conflict : List String} {y : Sql} (hs : s.model.Avoids '\x60')
    (h : (conflictText s conflict).eval look = .ok y) : Conflict s.dialect y.text.toList := by
  unfold conflictText at h
  split at h
  · rename_i hd
    rw [← Except.ok.inj h, text_lit, hd]
    exact .mysql
  · rename_i hd
    simp only [Consult.bind_eq, Consult.eval_bind_ok] at h
    obtain ⟨cs, hcs, h⟩ := h
    rw [← Except.ok.inj h, hd]
    simp only [text_append, text_lit, String.toList_append]
    -- without fields the parentheses are left out, too
    cases conflict with
    | nil =>
      cases hcs
      exact .anywhere
    | cons name names =>
      have hmany := Scope.fieldColumns_many hs (List.cons_ne_nil _ _) hcs
      have hne : cs.isEmpty = false := List.isEmpty_eq_false_iff.2
        (ne_nil_of_forall₂ (Consult.eval_all_ok.1 hcs) (List.cons_ne_nil _ _))
      simp only [hne, Bool.false_eq_true, if_false, Scope.text_parens]
      exact .target hmany

theorem upsertText_upserting {u : Option Upsert} {y : Sql} (hs : s.model.Avoids '\x60')
    (hassign : ∀ x ∈ u, x.assigns ≠ []) (h : (upsertText s u).eval look = .ok y) :
    Upserting s.dialect y.text.toList := by
  cases u with
  | none =>
    cases h
    rw [text_lit]
    exact .absent
  | some u =>
    obtain ⟨head, hhead, as, has, rfl⟩ := upsertText_ok.1 h
    rw [text_append, String.toList_append]
    exact .present (conflictText_conflict hs hhead)
      (many_of_eval_all (hassign u rfl) has fun x _ y hy => assignment_setting hs hy)

/-- A tuple has a placeholder for each field. -/
theorem tuple_placeholders {m : Model} {fs : List Field} {r : Record e} {y : Sql} (hne : fs ≠ [])
    (h : (tuple a m fs r).eval look = .ok y) : Tuple fs.length y.text.toList := by
  obtain ⟨vs, hvs, rfl⟩ := tuple_ok.1 h
  have hlength : (vs.map placeholder).length = fs.length := by
    rw [List.length_map]
    exact hvs.length_eq.symm
  have hlisted : Listed (· = ['?']) (vs.map placeholder).length
      (commaList (vs.map placeholder)).text.toList := by
    apply commaList_listed
    · exact fun hnil => ne_nil_of_forall₂ hvs hne (List.map_eq_nil_iff.1 hnil)
    · intro b hb
      obtain ⟨v, -, rfl⟩ := List.mem_map.1 hb
      simp
  rw [Scope.text_parens]
  exact .mk (hlength ▸ hlisted)

theorem fields_ne_nil {m : Model} {fs : List Field} (hm : m.fields ≠ [])
    (h : q.fields m = .ok fs) : fs ≠ [] := by
  unfold fields at h
  split at h
  · rwa [← Except.ok.inj h]
  · rename_i hcolumns
    exact ne_nil_of_forall₂ (Except.mapM_ok.1 h) fun hnil => hcolumns (List.isEmpty_iff.2 hnil)

/-- **An INSERT that builds is a sentence**, if there are fields and, in an upsert, assignments. -/
theorem build_sentence (hname : ∀ m, look e = .ok m → m.Avoids '\x60')
    (hfields : ∀ m, look e = .ok m → m.fields ≠ []) (hassign : ∀ u ∈ q.upsert, u.assigns ≠ [])
    (h : (q.build d a).eval look = .ok sql) : Sentence False d sql.text.toList := by
  obtain ⟨hrecords, m, hm, c, hc, rfl⟩ := build_ok h
  have havoid : m.Avoids '\x60' := hname m hm
  have hne : c.fields ≠ [] := fields_ne_nil (hfields m hm) hc.fields
  have htable : Name (Scope.ident ⟨d, m, .bare⟩ m.tableName).text.toList :=
    Scope.ident_name havoid.table
  have hcolumns : Listed Name c.fields.length
      (commaList (c.fields.map fun f => Scope.ident ⟨d, m, .bare⟩ f.column)).text.toList := by
    rw [← List.length_map (fun f : Field => Scope.ident ⟨d, m, .bare⟩ f.column)]
    apply commaList_listed
    · exact fun hnil => hne (List.map_eq_nil_iff.1 hnil)
    · intro b hb
      obtain ⟨f, hf, rfl⟩ := List.mem_map.1 hb
      exact Scope.ident_name (havoid.column f (mem_of_fields hc.fields hf))
  have htuples : Many (Tuple c.fields.length) (commaList c.tuples).text.toList :=
    many_of_eval_all hrecords hc.tuples fun r _ y hy => tuple_placeholders hne hy
  have hupsert : Upserting d c.upsert.text.toList := upsertText_upserting havoid hassign hc.upsert
  simp only [Clauses.sql, text_append, text_lit, String.toList_append, Scope.text_parens]
  exact (Body.insert htable hcolumns htuples hupsert).sentence

end Insert

/-! ## DELETE -/

/-- **A DELETE that builds is a sentence.** -/
theorem Delete.build_sentence {e : Entity} {q : Delete} {d : Dialect} {sql : Sql}
    (hname : (Statement.delete q : Statement e).Avoids look '\x60') (hraw : q.raws = [])
    (h : (q.build d e).eval look = .ok sql) : Sentence False d sql.text.toList := by
  obtain ⟨m, hm, target, ht, wheres, hw, rfl⟩ := Delete.build_ok h
  have hs : Scope.Avoids ⟨d, m, .bare⟩ '\x60' := ⟨hname.own m hm, fun t ht => nomatch ht⟩
  have htarget : Labelled Name target.text.toList := by
    have htables : ∀ t ∈ q.target.toList.flatMap TableRef.mentioned, t.Avoids look '\x60' :=
      fun t ht => hname.table t (List.mem_append_left _ ht)
    unfold Delete.targetText at ht
    split at ht
    · cases ht
      exact .plain (Scope.ident_name (hname.own m hm).table)
    · rename_i t hq
      rw [hq] at htables
      exact Scope.table_labelled (htables t (by simp [TableRef.mentioned, TableRef.tables])) ht
    · cases ht
  have hwheres : Clause " WHERE " Condition wheres.text.toList := by
    apply Scope.conditions_clause hs _ hraw hw
    intro x hx t ht
    exact hname.table t (List.mem_append_right _ (List.mem_filterMap.2 ⟨x, hx, ht⟩))
  simp only [text_append, text_lit, String.toList_append]
  exact (Body.delete htarget hwheres).sentence

/-! ## Every statement -/

namespace Statement

variable {e : Entity}

/-- Of the counts of rows only the second one is positive. -/
def OffsetAlone : Statement e → Prop
  | .select q => q.OffsetAlone
  | .insert _ _ | .delete _ => False

/-- There is something to insert and, in an upsert, something to set. -/
def Filled : Statement e → Prop
  | .insert q _ => e.fields ≠ [] ∧ ∀ u ∈ q.upsert, u.assigns ≠ []
  | .select _ | .delete _ => True

/-- **Every statement that builds is a sentence.** No name in it has a quote, there is no fragment
in it, and an INSERT has fields and, in an upsert, assignments. A SELECT has LIMIT exactly if the
first of its two counts of rows is positive, and OFFSET exactly if the second one is. If only the
second one is, OFFSET stands by itself, and exactly those statements are no sentences of the grammar
in which it stands behind LIMIT. -/
theorem build_grammatical (st : Statement e) {d : Dialect} {g : Registry} {sql : Sql}
    (hg : g.Reachable) (hname : st.Avoids g.look '\x60') (hraw : st.raws = []) (hfilled : st.Filled)
    (hbuild : ((st.build d).run g).answer = .ok sql) :
    Sentence st.OffsetAlone d sql.text.toList ∧
      (Sentence False d sql.text.toList ↔ ¬ st.OffsetAlone) ∧
      ∀ q, st = .select q → ∀ limit offset, Counted limit offset sql.text.toList ↔
        limit = decide (0 < q.limit) ∧ offset = decide (0 < q.offset) := by
  rw [Consult.answer_run] at hbuild
  cases st with
  | select q =>
    obtain ⟨hsentence, hstrict, hcounted⟩ := q.build_sentence hname hraw hbuild
    refine ⟨hsentence, hstrict, ?_⟩
    intro p hp
    cases hp
    exact hcounted
  | insert q a =>
    obtain ⟨hne, hassign⟩ := hfilled
    have hfields : ∀ m, g.look e = .ok m → m.fields ≠ [] := by
      intro m hm hnil
      have hlength := (hg.describes ((g.answer_model e).trans hm)).length
      rw [hnil] at hlength
      exact hne (List.length_eq_zero_iff.1 hlength.symm)
    have hsentence := Insert.build_sentence hname.own hfields hassign hbuild
    exact ⟨hsentence, ⟨fun _ => id, fun _ => hsentence⟩, nofun⟩
  | delete q =>
    have hsentence := Delete.build_sentence hname hraw hbuild
    exact ⟨hsentence, ⟨fun _ => id, fun _ => hsentence⟩, nofun⟩

end Statement

namespace Sample

/-- People from the sixth on, however many. -/
def latePeople : Statement person := .select { Select.everything with offset := 5 }

/-- A person to insert, with nothing to do on a conflict. -/
def idleUpsert : Statement person := .insert ⟨[al], ["id"], some ⟨[], []⟩⟩ .direct

/-- What `idleUpsert` is written as, up to the assignments. -/
def idleText : Dialect → String
  | .mysql => "INSERT INTO `person`(`person_id`) VALUES (?) ON DUPLICATE KEY UPDATE"
  | .sqlite => "INSERT INTO `person`(`person_id`) VALUES (?) ON CONFLICT DO UPDATE SET"

/-- People to insert, or else with a new nickname. -/
def renamingUpsert : Statement person :=
  .insert ⟨[al, nameless], [], some ⟨[.column ⟨"nick", none, none, none⟩, .value "age" (.int 31)],
    ["id"]⟩⟩ .direct

/-- What `renamingUpsert` is written as for SQLite. -/
def renamingText : String :=
  String.join ["INSERT INTO `person`(`person_id`,`nick`,`age`) VALUES (?,?,?),(?,?,?) ",
    "ON CONFLICT(`person_id`) DO UPDATE SET `nick`=excluded.`nick`,`age`=?;"]

/-- A record type without fields. -/
def token : Entity := ⟨"sample::Token", "Token", "", .named, [], .map⟩

def tokenInsert : Statement token := .insert ⟨[fun i => i.elim0], [], none⟩ .direct

end Sample

namespace Statement

open Sample

/-- A SELECT from a join, one with OFFSET only, and an INSERT with an upsert. -/
theorem build_grammatical_people :
    (∃ sql, (((select elders : Statement person).build .mysql).run .empty).answer = .ok sql ∧
      sql.text = eldersText ∧ Sentence False .mysql sql.text.toList) ∧
    (∃ sql, ((latePeople.build .mysql).run .empty).answer = .ok sql ∧
      sql.text = "SELECT * FROM `person` OFFSET ?;" ∧ latePeople.OffsetAlone ∧
      Sentence latePeople.OffsetAlone .mysql sql.text.toList ∧
      Counted false true sql.text.toList ∧ ¬ Counted true true sql.text.toList) ∧
    ∃ sql, ((renamingUpsert.build .sqlite).run .empty).answer = .ok sql ∧
      sql.text = renamingText ∧ Sentence False .sqlite sql.text.toList := by
  obtain ⟨x, hx, hxtext⟩ := build_elders
  obtain ⟨y, hy, hytext⟩ : ∃ sql, ((latePeople.build .mysql).run .empty).answer = .ok sql ∧
      sql.text = "SELECT * FROM `person` OFFSET ?;" := Except.ok_of_map (by decide +kernel)
  obtain ⟨z, hz, hztext⟩ : ∃ sql, ((renamingUpsert.build .sqlite).run .empty).answer = .ok sql ∧
      sql.text = renamingText := Except.ok_of_map (by decide +kernel)
  have hbehind : ¬ elders.OffsetAlone := by decide
  have helders := (build_grammatical (select elders) .empty (by decide +kernel) (by decide) trivial
    hx).2.1.2 hbehind
  obtain ⟨hlate, -, hcounted⟩ :=
    build_grammatical latePeople .empty (by decide +kernel) (by decide) trivial hy
  have hoffset := (hcounted _ rfl false true).2 ⟨by decide, by decide⟩
  have hnoLimit : ¬ Counted true true y.text.toList :=
    fun h => absurd ((hcounted _ rfl true true).1 h).1 (by decide)
  have hrenaming := (build_grammatical renamingUpsert .empty (by decide +kernel) (by decide)
    ⟨by decide, by decide⟩ hz).1
  have halone : latePeople.OffsetAlone := ⟨by decide, by decide⟩
  exact ⟨⟨x, hx, hxtext, helders⟩, ⟨y, hy, hytext, halone, hlate, hoffset, hnoLimit⟩, z, hz,
    hztext, hrenaming⟩

/-- Neither OFFSET by itself nor an upsert that sets nothing nor an INSERT without fields is a
sentence, and all of them build. -/
theorem not_sentence_people :
    (∃ sql, latePeople.Avoids Registry.empty.look '\x60' ∧ latePeople.raws = [] ∧
      ((latePeople.build .sqlite).run .empty).answer = .ok sql ∧
      ¬ Sentence False .sqlite sql.text.toList) ∧
    (∀ d : Dialect, ∃ sql, idleUpsert.Avoids Registry.empty.look '\x60' ∧ idleUpsert.raws = [] ∧
      ((idleUpsert.build d).run .empty).answer = .ok sql ∧ ¬ Sentence False d sql.text.toList) ∧
    ∃ sql, tokenInsert.Avoids Registry.empty.look '\x60' ∧ tokenInsert.raws = [] ∧
      ((tokenInsert.build .mysql).run .empty).answer = .ok sql ∧
      ¬ Sentence False .mysql sql.text.toList := by
  refine ⟨?_, ?_, ?_⟩
  · have hname : latePeople.Avoids Registry.empty.look '\x60' := by decide +kernel
    obtain ⟨sql, hbuild, -⟩ : ∃ sql, ((latePeople.build .sqlite).run .empty).answer = .ok sql ∧
        sql.args.length = 1 := Except.ok_of_map (by decide +kernel)
    refine ⟨sql, hname, rfl, hbuild, ?_⟩
    rw [Consult.answer_run] at hbuild
    rw [(Select.build_sentence hname rfl hbuild).2.1]
    decide
  · intro d
    have hname : idleUpsert.Avoids Registry.empty.look '\x60' := by decide +kernel
    obtain ⟨sql, hbuild, htext⟩ : ∃ sql, ((idleUpsert.build d).run .empty).answer = .ok sql ∧
        sql.text.toList = (idleText d).toList ++ [' '] ++ [';'] :=
      Except.ok_of_map (by cases d <;> decide +kernel)
    refine ⟨sql, hname, rfl, hbuild, ?_⟩
    rw [htext]
    exact not_sentence_blank _
  · have hname : tokenInsert.Avoids Registry.empty.look '\x60' := by decide +kernel
    obtain ⟨sql, hbuild, htext⟩ : ∃ sql, ((tokenInsert.build .mysql).run .empty).answer = .ok sql ∧
        sql.text.toList = "INSERT INTO ".toList ++
          (quoted "token" ++ '(' :: ')' :: " VALUES ();".toList) :=
      Except.ok_of_map (by decide +kernel)
    refine ⟨sql, hname, rfl, hbuild, ?_⟩
    rw [htext]
    exact not_sentence_fieldless (by decide) _

end Statement

end RecordSql
