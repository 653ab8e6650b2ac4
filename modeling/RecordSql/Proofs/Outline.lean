import RecordSql.Proofs.Arguments

/-!
# Outlines of conditions and joins

What is left of a condition when names are replaced by what they are written as: columns by their
identifiers, tables by their names, shared fields by their columns. Aliases of columns and
directions are dropped, and a list of conditions is one conjunction, nested to the left.

* `Outline`, `JoinOutline`: the outlines.
* `Outline.spell`, `JoinOutline.spell`: their text.
* `Scope.outline`, `Scope.joinOutline`: the outline of a condition and of a join.
* `Scope.outline_ok`, `Scope.joinOutline_ok`: text and arguments are those of the outline.
-/

namespace RecordSql

open Sql

/-- A column or an aggregate, by the column's identifier. -/
inductive Atom where
  | column (name : String)
  | aggregate (fn : AggregateFn) (name : String)
deriving DecidableEq

/-- The right side of a comparison. -/
inductive Side where
  | atom (a : Atom)
  | value (v : Value)
  | raw (r : Raw)
deriving DecidableEq

/-- A condition without the names that it is not written with. -/
inductive Outline where
  | holds (a : Atom)
  | raw (r : Raw)
  | compare (op : Comparison) (l : Atom) (r : Side)
  | compareTruth (op : Comparison) (l : Atom) (r : Outline)
  | and (l r : Outline)
  | or (l r : Outline)
  | not (p : Outline)
deriving DecidableEq

/-- The condition of a join. -/
inductive Matching where
  | everything
  | using (columns : List String)
  | on (p : Outline)
deriving DecidableEq

/-- A join without the names that it is not written with. -/
inductive JoinOutline where
  | table (name : String) (aliasName : Option String)
  | join (kind : JoinKind) (l r : JoinOutline) (condition : Matching)
deriving DecidableEq

/-! ## The text of an outline -/

/-- The identifier of a name. -/
def quoted (name : String) : List Char := '\x60' :: (name.toList ++ ['\x60'])

/-- A text in parentheses. -/
def enclosed (cs : List Char) : List Char := '(' :: (cs ++ [')'])

def Atom.spell : Atom → List Char
  | .column name => name.toList
  | .aggregate fn name => fn.name.toList ++ enclosed name.toList

namespace Side

def spell : Side → List Char
  | .atom a => a.spell
  | .value _ => ['?']
  | .raw r => r.sql.toList

def args : Side → List Value
  | .atom _ => []
  | .value v => [v]
  | .raw r => r.args

end Side

namespace Outline

def spell : Outline → List Char
  | .holds a => a.spell
  | .raw r => r.sql.toList
  | .compare op l r => l.spell ++ ' ' :: (op.name.toList ++ ' ' :: r.spell)
  | .compareTruth op l r => l.spell ++ ' ' :: (op.name.toList ++ ' ' :: enclosed (spell r))
  | .and l r => enclosed (spell l) ++ " AND ".toList ++ enclosed (spell r)
  | .or l r => enclosed (spell l) ++ " OR ".toList ++ enclosed (spell r)
  | .not p => "NOT ".toList ++ enclosed (spell p)

def args : Outline → List Value
  | .holds _ => []
  | .raw r => r.args
  | .compare _ _ r => r.args
  | .compareTruth _ _ r => args r
  | .and l r | .or l r => args l ++ args r
  | .not p => args p

end Outline

/-- Identifiers with commas between them. -/
def quotedList : List String → List Char
  | [] => []
  | [c] => quoted c
  | c :: d :: cs => quoted c ++ ',' :: quotedList (d :: cs)

namespace Matching

def spell : Matching → List Char
  | .everything => []
  | .using cs => " USING ".toList ++ enclosed (quotedList cs)
  | .on p => " ON ".toList ++ p.spell

def args : Matching → List Value
  | .everything | .using _ => []
  | .on p => p.args

@[simp] theorem spell_everything : everything.spell = [] := rfl

@[simp] theorem spell_using (cs : List String) :
    («using» cs).spell = " USING ".toList ++ enclosed (quotedList cs) := rfl

@[simp] theorem spell_on (p : Outline) : (on p).spell = " ON ".toList ++ p.spell := rfl

end Matching

namespace JoinOutline

def spell : JoinOutline → List Char
  | .table name none => quoted name
  | .table name (some a) => quoted name ++ " AS ".toList ++ quoted a
  | .join kind l r c =>
    enclosed (spell l ++ ' ' :: (kind.name.toList ++ ' ' :: (spell r ++ c.spell)))

def args : JoinOutline → List Value
  | .table _ _ => []
  | .join _ l r c => args l ++ args r ++ c.args

end JoinOutline

/-! ## Outlines that can be read back -/

/-- The identifier of a column, alone or behind that of a table. No name has a quote. -/
inductive Identifier : List Char → Prop where
  | alone {x : String} (hx : '\x60' ∉ x.toList) : Identifier (quoted x)
  | behind {t x : String} (ht : '\x60' ∉ t.toList) (hx : '\x60' ∉ x.toList) :
    Identifier (quoted t ++ '.' :: quoted x)

def Atom.Readable : Atom → Prop
  | .column name | .aggregate _ name => Identifier name.toList

def Side.Readable : Side → Prop
  | .atom a => a.Readable
  | .value _ => True
  | .raw _ => False

/-- The columns are identifiers, and there is no raw fragment. -/
def Outline.Readable : Outline → Prop
  | .holds a => a.Readable
  | .raw _ => False
  | .compare _ l r => l.Readable ∧ r.Readable
  | .compareTruth _ l r => l.Readable ∧ Readable r
  | .and l r | .or l r => Readable l ∧ Readable r
  | .not p => Readable p

def Matching.Readable : Matching → Prop
  | .everything => True
  | .using cs => ∀ c ∈ cs, '\x60' ∉ c.toList
  | .on p => p.Readable

/-- No name has a quote, and there is no raw fragment. -/
def JoinOutline.Readable : JoinOutline → Prop
  | .table name a => '\x60' ∉ name.toList ∧ ∀ n ∈ a, '\x60' ∉ n.toList
  | .join _ l r c => Readable l ∧ Readable r ∧ c.Readable

/-! ## The outline of a condition -/

namespace Scope

variable (s : Scope)

def atom : Term → Consult Atom
  | .column c => do
    let a ← s.column c
    return .column a.text
  | .aggregate g => do
    let a ← s.column g.arg
    return .aggregate g.fn a.text

def side : Operand → Consult Side
  | .term t => do
    let a ← s.atom t
    return .atom a
  | .value v => return .value v
  | .raw r => return .raw r

/-- The outline of a condition. -/
def outline : Predicate → Consult Outline
  | .holds t => do
    let a ← s.atom t
    return .holds a
  | .raw r => return .raw r
  | .compare op l r => do
    let a ← s.atom l
    let b ← s.side r
    return .compare op a b
  | .compareTruth op l r => do
    let a ← s.atom l
    let b ← outline r
    return .compareTruth op a b
  | .and l r => do
    let a ← outline l
    let b ← outline r
    return .and a b
  | .or l r => do
    let a ← outline l
    let b ← outline r
    return .or a b
  | .not p => do
    let a ← outline p
    return .not a

/-- The columns of fields of `m`. -/
def fieldNames (m : Model) : List String → Consult (List String) :=
  .all fun name => do
    let f ← .ofExcept (m.resolveField name)
    return f.column

/-- What the sides of a join must agree in. -/
def matching (left : TableRef) : JoinCondition → Consult Matching
  | .using [] => return .everything
  | .using fields => do
    let m ← .model left.leftmost.entity
    let cs ← fieldNames m fields
    return .using cs
  | .on [] => return .everything
  | .on (p :: ps) => do
    let a ← s.outline (ps.foldl .and p)
    return .on a

/-- The outline of a table or a join. -/
def joinOutline : TableRef → Consult JoinOutline
  | .table t => do
    let m ← .model t.entity
    return .table m.tableName t.aliasName
  | .join kind l r c => do
    let a ← joinOutline l
    let b ← joinOutline r
    let on ← s.matching l c
    return .join kind a b on

/-! ## Text and arguments are those of the outline -/

variable {s} {look : Entity → Except Error Model}

theorem text_ident (name : String) : (s.ident name).text.toList = quoted name := by
  have hq : s.dialect.quote = '\x60' := by cases s.dialect <;> rfl
  simp [ident, Dialect.ident, hq, quoted]

theorem text_parens (a : Sql) : (parens a).text.toList = enclosed a.text.toList := by
  simp [parens, enclosed]

theorem reference_identifier {owner : Option String} {column : String}
    (h : Plain '\x60' owner column) : Identifier (s.reference owner column).text.toList := by
  cases owner with
  | none =>
    show Identifier (s.ident column).text.toList
    rw [text_ident]
    exact .alone h.2
  | some t =>
    have htext : (s.reference (some t) column).text.toList = quoted t ++ '.' :: quoted column := by
      simp [reference, qualified, text_ident]
    rw [htext]
    exact .behind (h.1 t rfl) h.2

theorem atom_ok {t : Term} {a : Sql} (hs : s.Avoids '\x60') (ht : t.subject.Avoids look '\x60')
    (h : (s.term t).eval look = .ok a) :
    ∃ n, (s.atom t).eval look = .ok n ∧ n.Readable ∧ n.spell = a.text.toList := by
  cases t with
  | column c =>
    have hcol : (s.column c).eval look = .ok a := h
    obtain ⟨owner, column, hplain, rfl⟩ := column_reference hs ht hcol
    refine ⟨.column (s.reference owner column).text, ?_, reference_identifier hplain, rfl⟩
    simp [atom, hcol]
  | aggregate g =>
    obtain ⟨x, hx, rfl⟩ := aggregate_ok.1 h
    obtain ⟨owner, column, hplain, rfl⟩ := column_reference hs ht hx
    refine ⟨.aggregate g.fn (s.reference owner column).text, ?_, reference_identifier hplain, ?_⟩
    · simp [atom, hx]
    · simp [Atom.spell, text_parens]

theorem side_ok {o : Operand} {a : Sql} (hs : s.Avoids '\x60')
    (hc : ∀ c ∈ o.columns, c.Avoids look '\x60') (hr : o.raws = [])
    (h : (s.operand o).eval look = .ok a) :
    ∃ n, (s.side o).eval look = .ok n ∧ n.Readable ∧ n.spell = a.text.toList ∧
      n.args = a.args := by
  cases o with
  | term t =>
    obtain ⟨n, hn, hread, hspell⟩ := atom_ok hs (hc t.subject List.mem_cons_self) h
    exact ⟨.atom n, by simp [side, hn], hread, hspell, (term_args h).symm⟩
  | value v =>
    cases h
    exact ⟨.value v, rfl, trivial, by simp [Side.spell], rfl⟩
  | raw r => cases hr

/-- **A condition without fragments is written as its outline is.** -/
theorem outline_ok {p : Predicate} {a : Sql} (hs : s.Avoids '\x60')
    (hc : ∀ c ∈ p.columns, c.Avoids look '\x60') (hr : p.raws = [])
    (h : (s.predicate p).eval look = .ok a) :
    ∃ n, (s.outline p).eval look = .ok n ∧ n.Readable ∧ n.spell = a.text.toList ∧
      n.args = a.args := by
  -- each form adds the same text around its parts in both
  induction p generalizing a with
  | holds t =>
    obtain ⟨n, hn, hread, hspell⟩ := atom_ok hs (hc t.subject List.mem_cons_self) h
    exact ⟨.holds n, by simp [outline, hn], hread, hspell, (term_args h).symm⟩
  | raw r => cases hr
  | compare op l r =>
    obtain ⟨x, hx, y, hy, rfl⟩ := compare_ok.1 h
    obtain ⟨n, hn, hread, hspell⟩ := atom_ok hs (hc l.subject List.mem_cons_self) hx
    obtain ⟨k, hk, hkread, hkspell, hkargs⟩ :=
      side_ok hs (fun c hm => hc c (List.mem_cons_of_mem _ hm)) hr hy
    refine ⟨.compare op n k, by simp [outline, hn, hk], ⟨hread, hkread⟩, ?_, ?_⟩
    · simp [Outline.spell, hspell, hkspell]
    · simp [Outline.args, hkargs, term_args hx]
  | compareTruth op l r ih =>
    obtain ⟨x, hx, y, hy, rfl⟩ := compareTruth_ok.1 h
    obtain ⟨n, hn, hread, hspell⟩ := atom_ok hs (hc l.subject List.mem_cons_self) hx
    obtain ⟨k, hk, hkread, hkspell, hkargs⟩ :=
      ih (fun c hm => hc c (List.mem_cons_of_mem _ hm)) hr hy
    refine ⟨.compareTruth op n k, by simp [outline, hn, hk], ⟨hread, hkread⟩, ?_, ?_⟩
    · simp [Outline.spell, hspell, hkspell, text_parens]
    · simp [Outline.args, hkargs, term_args hx]
  | and l r ihl ihr =>
    obtain ⟨x, hx, y, hy, rfl⟩ := and_ok.1 h
    obtain ⟨hrl, hrr⟩ := List.append_eq_nil_iff.1 hr
    obtain ⟨n, hn, hread, hspell, hargs⟩ :=
      ihl (fun c hm => hc c (List.mem_append_left _ hm)) hrl hx
    obtain ⟨k, hk, hkread, hkspell, hkargs⟩ :=
      ihr (fun c hm => hc c (List.mem_append_right _ hm)) hrr hy
    refine ⟨.and n k, by simp [outline, hn, hk], ⟨hread, hkread⟩, ?_, ?_⟩
    · simp [Outline.spell, hspell, hkspell, text_parens]
    · simp [Outline.args, hargs, hkargs]
  | or l r ihl ihr =>
    obtain ⟨x, hx, y, hy, rfl⟩ := or_ok.1 h
    obtain ⟨hrl, hrr⟩ := List.append_eq_nil_iff.1 hr
    obtain ⟨n, hn, hread, hspell, hargs⟩ :=
      ihl (fun c hm => hc c (List.mem_append_left _ hm)) hrl hx
    obtain ⟨k, hk, hkread, hkspell, hkargs⟩ :=
      ihr (fun c hm => hc c (List.mem_append_right _ hm)) hrr hy
    refine ⟨.or n k, by simp [outline, hn, hk], ⟨hread, hkread⟩, ?_, ?_⟩
    · simp [Outline.spell, hspell, hkspell, text_parens]
    · simp [Outline.args, hargs, hkargs]
  | not p ih =>
    obtain ⟨x, hx, rfl⟩ := not_ok.1 h
    obtain ⟨n, hn, hread, hspell, hargs⟩ := ih hc hr hx
    refine ⟨.not n, by simp [outline, hn], hread, ?_, ?_⟩
    · simp [Outline.spell, hspell, text_parens]
    · simp [Outline.args, hargs]

theorem text_commaList_ident (cs : List String) :
    (commaList (cs.map s.ident)).text.toList = quotedList cs := by
  induction cs with
  | nil => simp [commaList, quotedList]
  | cons c cs ih =>
    cases cs with
    | nil => simp [commaList, quotedList, text_ident]
    | cons d ds =>
      rw [List.map_cons] at ih
      simp [commaList, quotedList, text_ident, ih]

theorem fieldNames_eval (m : Model) (names : List String) :
    (fieldNames m names).eval look = (names.mapM m.resolveField).map (List.map Field.column) :=
  Consult.eval_all_map names

theorem matching_ok {left : TableRef} {c : JoinCondition} {a : Sql} (hs : s.Avoids '\x60')
    (hleft : left.leftmost.Avoids look '\x60') (hc : ∀ x ∈ c.columns, x.Avoids look '\x60')
    (hr : c.raws = []) (h : (s.joinCondition left c).eval look = .ok a) :
    ∃ n, (s.matching left c).eval look = .ok n ∧ n.Readable ∧ n.spell = a.text.toList ∧
      n.args = a.args := by
  cases c with
  | on ps =>
    have hconds : (s.conditions " ON " ps).eval look = .ok a := h
    rcases conditions_ok.1 hconds with ⟨hps, rfl⟩ | ⟨p, hp, x, hx, rfl⟩
    · refine ⟨.everything, ?_, trivial, ?_, ?_⟩
      · rw [hps]
        rfl
      · simp
      · simp [Matching.args]
    · have hcols : p.columns = ps.flatMap Predicate.columns :=
        Predicate.flatMap_of_conjunction (fun _ _ => rfl) hp
      have hraws : p.raws = ps.flatMap Predicate.raws :=
        Predicate.flatMap_of_conjunction (fun _ _ => rfl) hp
      obtain ⟨n, hn, hread, hspell, hargs⟩ :=
        outline_ok hs (hcols ▸ hc) (hraws.trans hr) hx
      refine ⟨.on n, ?_, hread, by simp [hspell], by simp [Matching.args, hargs]⟩
      cases ps with
      | nil => cases hp
      | cons q qs =>
        cases hp
        simp [matching, hn]
  | «using» names =>
    cases names with
    | nil =>
      cases h
      exact ⟨.everything, rfl, trivial, by simp, by simp [Matching.args]⟩
    | cons name names =>
      obtain ⟨m, hm, as, has, rfl⟩ := using_ok.1 h
      obtain ⟨fs, hfs, rfl⟩ := fieldColumns_ok.1 has
      have hcs : (fieldNames m (name :: names)).eval look = .ok (fs.map Field.column) := by
        rw [fieldNames_eval, hfs]
        rfl
      have hplain := (hleft.model m hm).columns hfs
      refine ⟨.using (fs.map Field.column), by simp [matching, hm, hcs], hplain, ?_, ?_⟩
      · rw [Matching.spell_using, text_append, String.toList_append, text_lit, text_parens,
          text_commaList_ident]
      · simp [Matching.args, List.flatMap_map]

/-- **A join without fragments is written as its outline is.** -/
theorem joinOutline_ok {t : TableRef} {a : Sql} (hs : s.Avoids '\x60')
    (ht : ∀ u ∈ t.mentioned, u.Avoids look '\x60') (hr : t.raws = [])
    (h : (s.tableRef t).eval look = .ok a) :
    ∃ n, (s.joinOutline t).eval look = .ok n ∧ n.Readable ∧ n.spell = a.text.toList ∧
      n.args = a.args := by
  induction t generalizing a with
  | table t =>
    obtain ⟨m, hm, rfl⟩ := table_ok.1 h
    have hav : t.Avoids look '\x60' := ht t List.mem_cons_self
    refine ⟨.table m.tableName t.aliasName, by simp [joinOutline, hm],
      ⟨(hav.model m hm).table, hav.label⟩, ?_, by simp [JoinOutline.args]⟩
    cases t.aliasName with
    | none => simp [JoinOutline.spell, asName, text_ident]
    | some n => simp [JoinOutline.spell, asName, text_ident]
  | join kind l r c ihl ihr =>
    obtain ⟨x, hx, y, hy, z, hz, rfl⟩ := join_ok.1 h
    obtain ⟨hsides, hrc⟩ := List.append_eq_nil_iff.1 hr
    obtain ⟨hrl, hrr⟩ := List.append_eq_nil_iff.1 hsides
    obtain ⟨n, hn, hnread, hnspell, hnargs⟩ :=
      ihl (fun u hu => ht u (TableRef.mentioned_left hu)) hrl hx
    obtain ⟨k, hk, hkread, hkspell, hkargs⟩ :=
      ihr (fun u hu => ht u (TableRef.mentioned_right hu)) hrr hy
    have hleft : l.leftmost.Avoids look '\x60' :=
      ht _ (TableRef.mentioned_left l.leftmost_mentioned)
    have hcond : ∀ col ∈ c.columns, col.Avoids look '\x60' := fun col hcol u hu =>
      ht u (TableRef.mentioned_condition hcol hu)
    obtain ⟨on, hon, honread, honspell, honargs⟩ := matching_ok hs hleft hcond hrc hz
    refine ⟨.join kind n k on, by simp [joinOutline, hn, hk, hon], ⟨hnread, hkread, honread⟩,
      ?_, ?_⟩
    · simp [JoinOutline.spell, hnspell, hkspell, honspell, text_parens]
    · simp [JoinOutline.args, hnargs, hkargs, honargs]

end Scope

end RecordSql
