import RecordSql.Proofs.Placeholders
import RecordSql.Proofs.Sample

/-!
# The arguments of statements

* `Scope.predicate_args`, `Scope.tableRef_args`: a condition and a join bind the values in them,
  from left to right.
* `Select.build_args`: a SELECT binds those of its clauses in order, then the counts of rows.
* `Statement.build_aligned`: every statement is aligned.
* `Statement.argument_at_mark`: **the `i`-th argument is bound to the `i`-th question mark.**
-/

namespace RecordSql

open Sql

variable {look : Entity → Except Error Model} {s : Scope}

@[simp] theorem Sql.args_parens (a : Sql) : (parens a).args = a.args := by
  simp [parens]

@[simp] theorem Sql.args_commaList (as : List Sql) : (commaList as).args = as.flatMap args := by
  induction as with
  | nil => rfl
  | cons a as ih =>
    cases as with
    | nil => simp [commaList]
    | cons b bs => simp [commaList, ih]

@[simp] theorem Sql.args_clause (head : String) (as : List Sql) :
    (clause head as).args = as.flatMap args := by
  cases as with
  | nil => rfl
  | cons a as => simp [clause]

namespace Scope

@[simp] theorem args_ident (name : String) : (s.ident name).args = [] := rfl

@[simp] theorem args_asName (a : Option String) : (s.asName a).args = [] := by
  cases a with
  | none => rfl
  | some n => rfl

theorem column_args {c : Column} {a : Sql} (h : (s.column c).eval look = .ok a) : a.args = [] := by
  obtain ⟨owner, m, -, f, -, rfl⟩ := column_ok.1 h
  cases owner with
  | none => rfl
  | some t => rfl

theorem term_args {t : Term} {a : Sql} (h : (s.term t).eval look = .ok a) : a.args = [] := by
  cases t with
  | column c => exact column_args h
  | aggregate g =>
    obtain ⟨x, hx, rfl⟩ := aggregate_ok.1 h
    simp [column_args hx]

theorem operand_args {o : Operand} {a : Sql} (h : (s.operand o).eval look = .ok a) :
    a.args = o.args := by
  cases o with
  | term t => exact term_args h
  | value v =>
    cases h
    rfl
  | raw r =>
    cases h
    exact args_raw r.sql r.args

/-- **A condition binds its values from left to right.** -/
theorem predicate_args {p : Predicate} {a : Sql} (h : (s.predicate p).eval look = .ok a) :
    a.args = p.args := by
  induction p generalizing a with
  | holds t => exact term_args h
  | raw r =>
    cases h
    exact args_raw r.sql r.args
  | compare op l r =>
    obtain ⟨x, hx, y, hy, rfl⟩ := compare_ok.1 h
    simp [term_args hx, operand_args hy, Predicate.args]
  | compareTruth op l r ih =>
    obtain ⟨x, hx, y, hy, rfl⟩ := compareTruth_ok.1 h
    simp [term_args hx, ih hy, Predicate.args]
  | and l r ihl ihr =>
    obtain ⟨x, hx, y, hy, rfl⟩ := and_ok.1 h
    simp [ihl hx, ihr hy, Predicate.args]
  | or l r ihl ihr =>
    obtain ⟨x, hx, y, hy, rfl⟩ := or_ok.1 h
    simp [ihl hx, ihr hy, Predicate.args]
  | not p ih =>
    obtain ⟨x, hx, rfl⟩ := not_ok.1 h
    simp [ih hx, Predicate.args]

theorem conditions_args {head : String} {ps : List Predicate} {a : Sql}
    (h : (s.conditions head ps).eval look = .ok a) : a.args = ps.flatMap Predicate.args := by
  rcases conditions_ok.1 h with ⟨rfl, rfl⟩ | ⟨p, hp, x, hx, rfl⟩
  · rfl
  · have hargs : p.args = ps.flatMap Predicate.args :=
      Predicate.flatMap_of_conjunction (fun _ _ => rfl) hp
    simp [predicate_args hx, hargs]

theorem selectItem_args {i : SelectItem} {a : Sql} (h : (s.selectItem i).eval look = .ok a) :
    a.args = i.args := by
  cases i with
  | column c =>
    obtain ⟨x, hx, rfl⟩ := selectItem_column_ok.1 h
    simp [column_args hx, SelectItem.args]
  | aggregate g =>
    obtain ⟨x, hx, rfl⟩ := selectItem_aggregate_ok.1 h
    have hagg : (s.term (.aggregate g)).eval look = .ok x := hx
    simp [term_args hagg, SelectItem.args]
  | raw r =>
    cases h
    exact args_raw r.sql r.args

theorem joinCondition_args {left : TableRef} {c : JoinCondition} {a : Sql}
    (h : (s.joinCondition left c).eval look = .ok a) : a.args = c.args := by
  cases c with
  | on ps => exact conditions_args h
  | «using» names =>
    cases names with
    | nil =>
      cases h
      rfl
    | cons name names =>
      obtain ⟨m, -, cs, hcs, rfl⟩ := using_ok.1 h
      obtain ⟨fs, -, rfl⟩ := fieldColumns_ok.1 hcs
      simp [List.flatMap_map, JoinCondition.args]

/-- **A join binds the values of its left side, of its right side and of its own condition.** -/
theorem tableRef_args {t : TableRef} {a : Sql} (h : (s.tableRef t).eval look = .ok a) :
    a.args = t.args := by
  induction t generalizing a with
  | table t =>
    obtain ⟨m, -, rfl⟩ := table_ok.1 h
    simp [TableRef.args]
  | join kind l r c ihl ihr =>
    obtain ⟨x, hx, y, hy, z, hz, rfl⟩ := join_ok.1 h
    simp [ihl hx, ihr hy, joinCondition_args hz, TableRef.args]

end Scope

namespace Select

theorem args_countText (head : String) (n : Int64) : (countText head n).args = countArgs n := by
  unfold countText countArgs
  split
  · simp
  · rfl

theorem countText_aligned {head : String} (hhead : '?' ∉ head.toList) (n : Int64) :
    (countText head n).Aligned := by
  unfold countText
  split
  · exact (aligned_lit hhead).append (aligned_placeholder _)
  · exact aligned_lit (by decide)

/-- **A SELECT binds the values of its clauses in order**, then the counts of rows. -/
theorem build_args {q : Select} {d : Dialect} {e : Entity} {sql : Sql}
    (h : (q.build d e).eval look = .ok sql) : sql.args = q.args := by
  obtain ⟨m, -, c, hc, rfl⟩ := build_ok h
  have hitems : c.items.flatMap Sql.args = q.columns.flatMap SelectItem.args :=
    Consult.flatMap_of_eval_all hc.items fun i _ a ha => Scope.selectItem_args ha
  have hgroups : c.groups.flatMap Sql.args = [] := by
    rw [List.flatMap_eq_nil_iff]
    intro a ha
    obtain ⟨x, -, hx⟩ := Consult.exists_of_eval_all hc.groups ha
    obtain ⟨col, -, hcol⟩ := groupItem_ok hx
    exact Scope.column_args hcol
  have horders : c.orders.flatMap Sql.args = [] := by
    rw [List.flatMap_eq_nil_iff]
    intro a ha
    obtain ⟨x, -, hx⟩ := Consult.exists_of_eval_all hc.orders ha
    obtain ⟨col, hcol, rfl⟩ := Scope.orderItem_ok.1 hx
    simp [Scope.column_args hcol]
  have hsource : c.source.args = q.source.toList.flatMap TableRef.args := by
    have hs := hc.source
    cases hq : q.source with
    | none =>
      rw [hq] at hs
      rw [← Except.ok.inj hs]
      rfl
    | some t =>
      rw [hq] at hs
      simp [Scope.tableRef_args hs]
  have hlist : (if c.items.isEmpty then lit "*" else commaList c.items).args =
      c.items.flatMap Sql.args := by
    cases hi : c.items with
    | nil => rfl
    | cons i is => simp
  simp only [Clauses.sql, args_append, args_lit, hlist, args_clause, hitems, hgroups, horders,
    hsource, Scope.conditions_args hc.wheres, Scope.conditions_args hc.having, args_countText]
  simp [args]

end Select

namespace Statement

variable {e : Entity} {d : Dialect}

/-- A SELECT is aligned, clause by clause. -/
theorem select_aligned {q : Select} {sql : Sql} (hraw : ∀ r ∈ q.raws, r.Aligned)
    (hname : (Statement.select q : Statement e).Avoids look '?')
    (h : (q.build d e).eval look = .ok sql) : sql.Aligned := by
  obtain ⟨m, hm, c, hc, rfl⟩ := Select.build_ok h
  have hn : q.Names look '?' ⟨d, m, .of m q.source⟩ := Select.names_of_avoids hname hm
  simp only [Select.raws, List.mem_append, List.mem_flatMap] at hraw
  have hitems : ∀ a ∈ c.items, a.Aligned := by
    intro a ha
    obtain ⟨i, hi, ha⟩ := Consult.exists_of_eval_all hc.items ha
    apply Scope.selectItem_aligned hn.scope (hn.items i hi) _ (hn.labels i hi) ha
    exact fun r hr => hraw r (.inl (.inl (.inl ⟨i, hi, hr⟩)))
  have hlist : (if c.items.isEmpty then lit "*" else commaList c.items).Aligned := by
    split
    · exact aligned_lit (by decide)
    · exact aligned_commaList hitems
  have hfrom : c.source.Aligned := by
    have hrender := hc.source
    cases hq : q.source with
    | none =>
      rw [hq] at hrender
      rw [← Except.ok.inj hrender]
      exact Scope.aligned_ident (hname.own m hm).table
    | some t =>
      rw [hq] at hrender hraw
      apply Scope.tableRef_aligned (hq ▸ hn.scope) (hn.source t hq) _ hrender
      exact fun r hr => hraw r (.inl (.inl (.inr ⟨t, by simp, hr⟩)))
  have hwheres : c.wheres.Aligned := by
    apply Scope.conditions_aligned hn.scope (by decide) hn.wheres _ hc.wheres
    exact fun r hr => hraw r (.inl (.inr (List.mem_flatMap.1 hr)))
  have hgroups : ∀ a ∈ c.groups, a.Aligned := by
    intro a ha
    obtain ⟨x, hx, ha⟩ := Consult.exists_of_eval_all hc.groups ha
    obtain ⟨col, hcolumn, ha⟩ := Select.groupItem_ok ha
    exact Scope.column_aligned hn.scope (hn.groups x hx col hcolumn) ha
  have hhaving : c.having.Aligned := by
    apply Scope.conditions_aligned hn.scope (by decide) hn.having _ hc.having
    exact fun r hr => hraw r (.inr (List.mem_flatMap.1 hr))
  have horders : ∀ a ∈ c.orders, a.Aligned := by
    intro a ha
    obtain ⟨x, hx, ha⟩ := Consult.exists_of_eval_all hc.orders ha
    exact Scope.orderItem_aligned hn.scope (hn.orders x hx) ha
  -- in the order of `Clauses.sql`
  exact (((((((((aligned_lit (by decide)).append hlist).append (aligned_lit (by decide))).append
    hfrom).append hwheres).append (aligned_clause (by decide) hgroups)).append hhaving).append
    (aligned_clause (by decide) horders)).append (Select.countText_aligned (by decide) _)).append
    (Select.countText_aligned (by decide) _) |>.append (aligned_lit (by decide))

theorem tuple_aligned {a : Accessor} {m : Model} {fs : List Field} {r : Record e} {sql : Sql}
    (h : (Insert.tuple a m fs r).eval look = .ok sql) : sql.Aligned := by
  obtain ⟨vs, -, rfl⟩ := Insert.tuple_ok.1 h
  apply Aligned.parens
  apply aligned_commaList
  intro p hp
  obtain ⟨v, -, rfl⟩ := List.mem_map.1 hp
  exact aligned_placeholder v

theorem assignment_aligned {x : Assignment} {a : Sql} (hs : s.model.Avoids '?')
    (h : (Insert.assignment s x).eval look = .ok a) : a.Aligned := by
  cases x with
  | value field v =>
    obtain ⟨f, hf, rfl⟩ := Insert.assignment_value_ok.1 h
    have hcol := Scope.aligned_ident (s := s) (hs.column f (Model.mem_of_resolveField hf))
    exact (hcol.append (aligned_lit (by decide))).append (aligned_placeholder v)
  | column c =>
    obtain ⟨-, f, hf, rfl⟩ := Insert.assignment_column_ok.1 h
    have hcol := Scope.aligned_ident (s := s) (hs.column f (Model.mem_of_resolveField hf))
    refine (hcol.append (aligned_lit (by decide))).append ?_
    cases s.dialect with
    | mysql => exact (aligned_lit (by decide)).append hcol.parens
    | sqlite => exact (aligned_lit (by decide)).append hcol

theorem conflictText_aligned {conflict : List String} {a : Sql} (hs : s.model.Avoids '?')
    (h : (Insert.conflictText s conflict).eval look = .ok a) : a.Aligned := by
  unfold Insert.conflictText at h
  split at h
  · rw [← Except.ok.inj h]
    exact aligned_lit (by decide)
  · simp only [Consult.bind_eq, Consult.eval_bind_ok] at h
    obtain ⟨cs, hcs, h⟩ := h
    rw [← Except.ok.inj h]
    refine ((aligned_lit (by decide)).append ?_).append (aligned_lit (by decide))
    split
    · exact aligned_lit (by decide)
    · exact (aligned_commaList (Scope.fieldColumns_aligned hs hcs)).parens

theorem upsertText_aligned {u : Option Upsert} {a : Sql} (hs : s.model.Avoids '?')
    (h : (Insert.upsertText s u).eval look = .ok a) : a.Aligned := by
  cases u with
  | none =>
    cases h
    exact aligned_lit (by decide)
  | some u =>
    obtain ⟨head, hhead, as, has, rfl⟩ := Insert.upsertText_ok.1 h
    refine (conflictText_aligned hs hhead).append (aligned_commaList ?_)
    intro x hx
    obtain ⟨y, -, hy⟩ := Consult.exists_of_eval_all has hx
    exact assignment_aligned hs hy

theorem insert_aligned {q : Insert e} {a : Accessor} {sql : Sql}
    (hname : ∀ m, look e = .ok m → m.Avoids '?') (h : (q.build d a).eval look = .ok sql) :
    sql.Aligned := by
  obtain ⟨-, m, hm, c, hc, rfl⟩ := Insert.build_ok h
  have havoid := hname m hm
  have htable := Scope.aligned_ident (s := ⟨d, m, .bare⟩) havoid.table
  have hcols : (commaList (c.fields.map fun f =>
      Scope.ident ⟨d, m, .bare⟩ f.column)).Aligned := by
    apply aligned_commaList
    intro x hx
    obtain ⟨f, hf, rfl⟩ := List.mem_map.1 hx
    exact Scope.aligned_ident (havoid.column f (Insert.mem_of_fields hc.fields hf))
  have htuples : (commaList c.tuples).Aligned := by
    apply aligned_commaList
    intro x hx
    obtain ⟨r, -, hr⟩ := Consult.exists_of_eval_all hc.tuples hx
    exact tuple_aligned hr
  exact ((((((aligned_lit (by decide)).append htable).append hcols.parens).append
    (aligned_lit (by decide))).append htuples).append (upsertText_aligned havoid hc.upsert)).append
    (aligned_lit (by decide))

theorem delete_aligned {q : Delete} {sql : Sql} (hraw : ∀ r ∈ q.raws, r.Aligned)
    (hname : (Statement.delete q : Statement e).Avoids look '?')
    (h : (q.build d e).eval look = .ok sql) : sql.Aligned := by
  obtain ⟨m, hm, target, ht, wheres, hw, rfl⟩ := Delete.build_ok h
  have hs : Scope.Avoids ⟨d, m, .bare⟩ '?' := ⟨hname.own m hm, fun t ht => nomatch ht⟩
  have htarget : target.Aligned := by
    have htables : ∀ t ∈ q.target.toList.flatMap TableRef.mentioned, t.Avoids look '?' :=
      fun t ht => hname.table t (List.mem_append_left _ ht)
    unfold Delete.targetText at ht
    split at ht
    · cases ht
      exact Scope.aligned_ident (hname.own m hm).table
    · rename_i t hq
      rw [hq] at htables
      exact Scope.table_aligned (htables t (by simp [TableRef.mentioned, TableRef.tables])) ht
    · cases ht
  have hwheres : wheres.Aligned := by
    apply Scope.conditions_aligned hs (by decide) _ hraw hw
    intro x hx t ht
    exact hname.table t (List.mem_append_right _ (List.mem_filterMap.2 ⟨x, hx, ht⟩))
  exact (((aligned_lit (by decide)).append htarget).append hwheres).append (aligned_lit (by decide))

/-- **Every statement is aligned**: each piece of it has as many arguments as question marks. -/
theorem build_aligned {st : Statement e} {sql : Sql} (hraw : ∀ r ∈ st.raws, r.Aligned)
    (hname : st.Avoids look '?') (h : (st.build d).eval look = .ok sql) : sql.Aligned := by
  cases st with
  | select q => exact select_aligned hraw hname h
  | insert q a => exact insert_aligned hname.own h
  | delete q => exact delete_aligned hraw hname h

/-- **The `i`-th argument is bound to the `i`-th question mark.** After each piece, and so after
each operand, condition, item, table, clause, tuple and assignment, as many arguments have been
bound as question marks have been written. So the arguments of a piece are bound to its own question
marks. A SELECT binds the values of its clauses in order. -/
theorem argument_at_mark {st : Statement e} {g : Registry} {sql : Sql}
    (hraw : ∀ r ∈ st.raws, r.Aligned) (hname : st.Avoids g.look '?')
    (hbuild : ((st.build d).run g).answer = .ok sql) :
    (∀ before after, sql.pieces = before ++ after →
        marks ⟨before⟩ = (args ⟨before⟩).length) ∧
      (∀ before p after, sql.pieces = before ++ p :: after → ∀ (j : ℕ) (v : Value),
        p.args[j]? = some v → sql.args[marks ⟨before⟩ + j]? = some v) ∧
      ∀ q, st = .select q → sql.args = q.args := by
  rw [Consult.answer_run] at hbuild
  have haligned := build_aligned hraw hname hbuild
  have hsofar : ∀ before after, sql.pieces = before ++ after →
      marks ⟨before⟩ = (args ⟨before⟩).length := by
    intro before after hsplit
    -- the pieces so far are pieces of the statement, so they are aligned by themselves
    apply Aligned.marks_eq
    intro p hp
    apply haligned
    rw [hsplit]
    exact List.mem_append_left _ hp
  refine ⟨hsofar, ?_, ?_⟩
  · intro before p after hsplit j v hv
    -- the arguments of a piece stand right behind those of the pieces before it
    have hargs : sql.args = args ⟨before⟩ ++ (p.args ++ args ⟨after⟩) := by
      simp [args, hsplit]
    rw [hsofar before (p :: after) hsplit, hargs, List.getElem?_append_right (Nat.le_add_right _ _),
      Nat.add_sub_cancel_left]
    exact List.getElem?_append_left (List.getElem?_eq_some_iff.1 hv).1 ▸ hv
  · rintro q rfl
    exact Select.build_args hbuild

/-- A SELECT from a join, with fragments, nested conditions and both counts of rows. -/
theorem argument_at_mark_directory :
    (∀ r ∈ (Statement.select Sample.directory : Statement Sample.person).raws, r.Aligned) ∧
      (Statement.select Sample.directory : Statement Sample.person).Avoids Registry.empty.look '?' ∧
      ∃ sql, (((Statement.select Sample.directory : Statement Sample.person).build .mysql).run
          .empty).answer = .ok sql ∧
        sql.text = Sample.directoryText ∧
        (∀ before after, sql.pieces = before ++ after →
          marks ⟨before⟩ = (args ⟨before⟩).length) ∧
        sql.args = [.int 1, .int 2, .int 30, .text "?", .int 5, .int 10] := by
  have hraw : ∀ r ∈ (Statement.select Sample.directory : Statement Sample.person).raws,
      r.Aligned := by decide
  have hname : (Statement.select Sample.directory : Statement Sample.person).Avoids
      Registry.empty.look '?' := by decide +kernel
  obtain ⟨sql, hbuild, htext⟩ : ∃ sql,
      (((Statement.select Sample.directory : Statement Sample.person).build .mysql).run
        .empty).answer = .ok sql ∧ sql.text = Sample.directoryText :=
    Except.ok_of_map (by decide +kernel)
  obtain ⟨hsofar, -, hargs⟩ := argument_at_mark hraw hname hbuild
  refine ⟨hraw, hname, sql, hbuild, htext, hsofar, ?_⟩
  rw [hargs Sample.directory rfl]
  decide +kernel

end Statement

end RecordSql
