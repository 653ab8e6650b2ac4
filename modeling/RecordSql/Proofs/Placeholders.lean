import RecordSql.Proofs.Rendering

/-!
# Placeholders and their arguments

A database binds the arguments of a statement to its question marks, from left to right. So each
piece of a statement has to have as many arguments as question marks.

* `Sql.Aligned`: every piece has.
* `Aligned.marks_eq`: the question marks of aligned text are as many as its arguments.
* `Scope.predicate_aligned`, `Scope.tableRef_aligned`: conditions and joins are aligned.
-/

namespace RecordSql

open Sql

/-- The question marks in the text of a piece. -/
def Piece.marks (p : Piece) : Nat := p.text.toList.count '?'

namespace Sql

def marks (s : Sql) : Nat := s.text.toList.count '?'

/-- Every piece has an argument for each of its question marks, and no others. -/
def Aligned (s : Sql) : Prop := ∀ p ∈ s.pieces, p.marks = p.args.length

theorem marks_cons (p : Piece) (ps : List Piece) :
    marks ⟨p :: ps⟩ = p.marks + marks ⟨ps⟩ := by
  simp [marks, text, Piece.marks]

theorem args_cons (p : Piece) (ps : List Piece) : args ⟨p :: ps⟩ = p.args ++ args ⟨ps⟩ := rfl

/-- **Aligned text has as many question marks as arguments.** -/
theorem Aligned.marks_eq {s : Sql} (h : s.Aligned) : s.marks = s.args.length := by
  obtain ⟨ps⟩ := s
  induction ps with
  | nil => rfl
  | cons p ps ih =>
    have hp : p.marks = p.args.length := h p List.mem_cons_self
    have hps : marks ⟨ps⟩ = (args ⟨ps⟩).length := ih fun q hq => h q (List.mem_cons_of_mem p hq)
    rw [marks_cons, args_cons, List.length_append, hp, hps]

theorem aligned_lit {t : String} (h : '?' ∉ t.toList) : (lit t).Aligned := by
  intro p hp
  rw [List.mem_singleton.1 hp]
  exact List.count_eq_zero.2 h

theorem aligned_placeholder (v : Value) : (placeholder v).Aligned := by
  intro p hp
  rw [List.mem_singleton.1 hp]
  show "?".toList.count '?' = 1
  decide

theorem aligned_raw {t : String} {vs : List Value} (h : t.toList.count '?' = vs.length) :
    (raw t vs).Aligned := by
  intro p hp
  rw [List.mem_singleton.1 hp]
  exact h

theorem Aligned.append {a b : Sql} (ha : a.Aligned) (hb : b.Aligned) : (a ++ b).Aligned := by
  intro p hp
  rcases List.mem_append.1 hp with hp | hp
  · exact ha p hp
  · exact hb p hp

theorem Aligned.parens {a : Sql} (ha : a.Aligned) : (parens a).Aligned :=
  ((aligned_lit (by decide)).append ha).append (aligned_lit (by decide))

theorem aligned_commaList {as : List Sql} (h : ∀ a ∈ as, a.Aligned) : (commaList as).Aligned := by
  induction as with
  | nil => exact aligned_lit (by decide)
  | cons a as ih =>
    have ha : a.Aligned := h a List.mem_cons_self
    have hrest : ∀ b ∈ as, b.Aligned := fun b hb => h b (List.mem_cons_of_mem a hb)
    cases as with
    | nil => exact ha
    | cons b bs => exact (ha.append (aligned_lit (by decide))).append (ih hrest)

theorem aligned_clause {head : String} {as : List Sql} (hhead : '?' ∉ head.toList)
    (h : ∀ a ∈ as, a.Aligned) : (clause head as).Aligned := by
  unfold clause
  split
  · exact aligned_lit (by decide)
  · exact (aligned_lit hhead).append (aligned_commaList h)

end Sql

/-- The fragment has an argument for each of its question marks, and no others. -/
def Raw.Aligned (r : Raw) : Prop := r.sql.toList.count '?' = r.args.length

instance (r : Raw) : Decidable r.Aligned := inferInstanceAs (Decidable (_ = _))

namespace Scope

variable {look : Entity → Except Error Model} {s : Scope}

theorem aligned_ident {name : String} (h : '?' ∉ name.toList) : (s.ident name).Aligned := by
  apply aligned_lit
  have hq : '?' ≠ s.dialect.quote := by cases s.dialect <;> decide
  simp [hq, h]

theorem aligned_reference {owner : Option String} {column : String} (h : Plain '?' owner column) :
    (s.reference owner column).Aligned := by
  cases owner with
  | none => exact aligned_ident h.2
  | some t =>
    have ht : '?' ∉ t.toList := h.1 t rfl
    exact ((aligned_ident ht).append (aligned_lit (by decide))).append (aligned_ident h.2)

theorem aligned_asName {a : Option String} (h : ∀ n ∈ a, '?' ∉ n.toList) :
    (s.asName a).Aligned := by
  cases a with
  | none => exact aligned_lit (by decide)
  | some n => exact (aligned_lit (by decide)).append (aligned_ident (h n rfl))

theorem column_aligned {c : Column} {a : Sql} (hs : s.Avoids '?') (hc : c.Avoids look '?')
    (h : (s.column c).eval look = .ok a) : a.Aligned := by
  obtain ⟨owner, column, hplain, rfl⟩ := column_reference hs hc h
  exact aligned_reference hplain

theorem aggregate_aligned {g : Aggregate} {a : Sql} (hs : s.Avoids '?')
    (hg : g.arg.Avoids look '?') (h : (s.aggregate g).eval look = .ok a) : a.Aligned := by
  obtain ⟨c, hc, rfl⟩ := aggregate_ok.1 h
  have hfn : '?' ∉ g.fn.name.toList := by cases g.fn <;> decide
  exact (aligned_lit hfn).append (column_aligned hs hg hc).parens

theorem term_aligned {t : Term} {a : Sql} (hs : s.Avoids '?') (ht : t.subject.Avoids look '?')
    (h : (s.term t).eval look = .ok a) : a.Aligned := by
  cases t with
  | column c => exact column_aligned hs ht h
  | aggregate g => exact aggregate_aligned hs ht h

theorem operand_aligned {o : Operand} {a : Sql} (hs : s.Avoids '?')
    (hc : ∀ c ∈ o.columns, c.Avoids look '?') (hr : ∀ r ∈ o.raws, r.Aligned)
    (h : (s.operand o).eval look = .ok a) : a.Aligned := by
  cases o with
  | term t => exact term_aligned hs (hc t.subject List.mem_cons_self) h
  | value v =>
    cases h
    exact aligned_placeholder v
  | raw r =>
    cases h
    exact aligned_raw (hr r List.mem_cons_self)

/-- **Conditions are aligned**, however they are nested. -/
theorem predicate_aligned {p : Predicate} {a : Sql} (hs : s.Avoids '?')
    (hc : ∀ c ∈ p.columns, c.Avoids look '?') (hr : ∀ r ∈ p.raws, r.Aligned)
    (h : (s.predicate p).eval look = .ok a) : a.Aligned := by
  -- the columns and fragments of a part are among those of the whole
  induction p generalizing a with
  | holds t => exact term_aligned hs (hc t.subject List.mem_cons_self) h
  | raw r =>
    cases h
    exact aligned_raw (hr r List.mem_cons_self)
  | compare op l r =>
    obtain ⟨x, hx, y, hy, rfl⟩ := compare_ok.1 h
    have hop : '?' ∉ (" " ++ op.name ++ " ").toList := by cases op <;> decide
    have hl : x.Aligned := term_aligned hs (hc l.subject List.mem_cons_self) hx
    have hy : y.Aligned :=
      operand_aligned hs (fun c hm => hc c (List.mem_cons_of_mem _ hm)) hr hy
    exact (hl.append (aligned_lit hop)).append hy
  | compareTruth op l r ih =>
    obtain ⟨x, hx, y, hy, rfl⟩ := compareTruth_ok.1 h
    have hop : '?' ∉ (" " ++ op.name ++ " ").toList := by cases op <;> decide
    have hl : x.Aligned := term_aligned hs (hc l.subject List.mem_cons_self) hx
    have hy : y.Aligned := ih (fun c hm => hc c (List.mem_cons_of_mem _ hm)) hr hy
    exact (hl.append (aligned_lit hop)).append hy.parens
  | and l r ihl ihr =>
    obtain ⟨x, hx, y, hy, rfl⟩ := and_ok.1 h
    have hx : x.Aligned := ihl (fun c hm => hc c (List.mem_append_left _ hm))
      (fun r hm => hr r (List.mem_append_left _ hm)) hx
    have hy : y.Aligned := ihr (fun c hm => hc c (List.mem_append_right _ hm))
      (fun r hm => hr r (List.mem_append_right _ hm)) hy
    exact (hx.parens.append (aligned_lit (by decide))).append hy.parens
  | or l r ihl ihr =>
    obtain ⟨x, hx, y, hy, rfl⟩ := or_ok.1 h
    have hx : x.Aligned := ihl (fun c hm => hc c (List.mem_append_left _ hm))
      (fun r hm => hr r (List.mem_append_left _ hm)) hx
    have hy : y.Aligned := ihr (fun c hm => hc c (List.mem_append_right _ hm))
      (fun r hm => hr r (List.mem_append_right _ hm)) hy
    exact (hx.parens.append (aligned_lit (by decide))).append hy.parens
  | not p ih =>
    obtain ⟨x, hx, rfl⟩ := not_ok.1 h
    exact (aligned_lit (by decide)).append (ih hc hr hx).parens

theorem conditions_aligned {head : String} {ps : List Predicate} {a : Sql} (hs : s.Avoids '?')
    (hhead : '?' ∉ head.toList) (hc : ∀ c ∈ ps.flatMap Predicate.columns, c.Avoids look '?')
    (hr : ∀ r ∈ ps.flatMap Predicate.raws, r.Aligned)
    (h : (s.conditions head ps).eval look = .ok a) : a.Aligned := by
  rcases conditions_ok.1 h with ⟨-, rfl⟩ | ⟨p, hp, x, hx, rfl⟩
  · exact aligned_lit (by decide)
  · have hcols : p.columns = ps.flatMap Predicate.columns :=
      Predicate.flatMap_of_conjunction (fun _ _ => rfl) hp
    have hraws : p.raws = ps.flatMap Predicate.raws :=
      Predicate.flatMap_of_conjunction (fun _ _ => rfl) hp
    rw [← hcols] at hc
    rw [← hraws] at hr
    exact (aligned_lit hhead).append (predicate_aligned hs hc hr hx)

theorem selectItem_aligned {i : SelectItem} {a : Sql} (hs : s.Avoids '?')
    (hc : ∀ c ∈ i.columns, c.Avoids look '?') (hr : ∀ r ∈ i.raws, r.Aligned)
    (hl : ∀ n ∈ i.label?, '?' ∉ n.toList) (h : (s.selectItem i).eval look = .ok a) :
    a.Aligned := by
  cases i with
  | column c =>
    obtain ⟨x, hx, rfl⟩ := selectItem_column_ok.1 h
    exact (column_aligned hs (hc c List.mem_cons_self) hx).append (aligned_asName hl)
  | aggregate g =>
    obtain ⟨x, hx, rfl⟩ := selectItem_aggregate_ok.1 h
    exact (aggregate_aligned hs (hc g.arg List.mem_cons_self) hx).append (aligned_asName hl)
  | raw r =>
    cases h
    exact aligned_raw (hr r List.mem_cons_self)

theorem orderItem_aligned {c : Column} {a : Sql} (hs : s.Avoids '?') (hc : c.Avoids look '?')
    (h : (s.orderItem c).eval look = .ok a) : a.Aligned := by
  obtain ⟨x, hx, rfl⟩ := orderItem_ok.1 h
  have hdir : '?' ∉ (" " ++ (c.order.getD .default).name).toList := by
    cases c.order.getD .default <;> decide
  exact (column_aligned hs hc hx).append (aligned_lit hdir)

theorem table_aligned {t : Table} {a : Sql} (ht : t.Avoids look '?')
    (h : (s.table t).eval look = .ok a) : a.Aligned := by
  obtain ⟨m, hm, rfl⟩ := table_ok.1 h
  exact (aligned_ident (ht.model m hm).table).append (aligned_asName ht.label)

theorem fieldColumns_aligned {m : Model} {names : List String} {as : List Sql} (hm : m.Avoids '?')
    (h : (s.fieldColumns m names).eval look = .ok as) : ∀ a ∈ as, a.Aligned := by
  obtain ⟨fs, hfs, rfl⟩ := fieldColumns_ok.1 h
  intro a ha
  obtain ⟨c, hc, rfl⟩ := List.mem_map.1 ha
  exact aligned_ident (hm.columns hfs c hc)

theorem joinCondition_aligned {left : TableRef} {c : JoinCondition} {a : Sql} (hs : s.Avoids '?')
    (hleft : left.leftmost.Avoids look '?') (hc : ∀ x ∈ c.columns, x.Avoids look '?')
    (hr : ∀ r ∈ c.raws, r.Aligned) (h : (s.joinCondition left c).eval look = .ok a) :
    a.Aligned := by
  cases c with
  | on ps => exact conditions_aligned hs (by decide) hc hr h
  | «using» names =>
    cases names with
    | nil =>
      cases h
      exact aligned_lit (by decide)
    | cons name names =>
      obtain ⟨m, hm, cs, hcs, rfl⟩ := using_ok.1 h
      have hcols := fieldColumns_aligned (hleft.model m hm) hcs
      exact (aligned_lit (by decide)).append (aligned_commaList hcols).parens

/-- **Joins are aligned**, whatever their tree. -/
theorem tableRef_aligned {t : TableRef} {a : Sql} (hs : s.Avoids '?')
    (ht : ∀ u ∈ t.mentioned, u.Avoids look '?') (hr : ∀ r ∈ t.raws, r.Aligned)
    (h : (s.tableRef t).eval look = .ok a) : a.Aligned := by
  induction t generalizing a with
  | table t => exact table_aligned (ht t List.mem_cons_self) h
  | join kind l r c ihl ihr =>
    obtain ⟨x, hx, y, hy, z, hz, rfl⟩ := join_ok.1 h
    have hkind : '?' ∉ (" " ++ kind.name ++ " ").toList := by cases kind <;> decide
    have hx : x.Aligned := ihl (fun u hu => ht u (TableRef.mentioned_left hu))
      (fun r hm => hr r (List.mem_append_left _ (List.mem_append_left _ hm))) hx
    have hy : y.Aligned := ihr (fun u hu => ht u (TableRef.mentioned_right hu))
      (fun r hm => hr r (List.mem_append_left _ (List.mem_append_right _ hm))) hy
    have hz : z.Aligned := by
      apply joinCondition_aligned hs _ _ (fun r hm => hr r (List.mem_append_right _ hm)) hz
      · exact ht _ (TableRef.mentioned_left l.leftmost_mentioned)
      · intro col hcol u hu
        exact ht u (TableRef.mentioned_condition hcol hu)
    exact (((hx.append (aligned_lit hkind)).append hy).append hz).parens

end Scope

end RecordSql
