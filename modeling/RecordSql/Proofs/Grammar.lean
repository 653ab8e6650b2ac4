import RecordSql.Proofs.Grouping

/-!
# The grammar of statements

The texts that statements without fragments may have, as a grammar over characters.

* `Grammar.Listed`, `Grammar.Clause`, `Grammar.Labelled`: lists, optional clauses and aliases.
* `Grammar.Condition`, `Grammar.Source`, `Grammar.Query`: conditions, tables with their joins, and
  SELECT without the counts of rows.
* `Grammar.Body`, `Grammar.Sentence`: statements, without and with the semicolon.
* `Grammar.Counted`: SELECT with certain counts of rows.
* `Grammar.Query.ended`, `Grammar.Body.ended`: how they end.
* `Grammar.Body.sentence`: **the semicolon at the end is the only one there.**
* `Grammar.Query.counted_iff`: **a SELECT has its counts of rows and no others.**
* `Grammar.Query.not_sentence_offset`: **a SELECT with OFFSET and without LIMIT is no sentence**
  unless that is allowed.
* `Grammar.not_sentence_blank`, `Grammar.not_sentence_fieldless`: neither is what empty lists leave.
-/

namespace RecordSql.Grammar

/-! ## Lists, clauses and aliases -/

/-- Texts of `P` with commas between them. There are `n` of them, and at least one. -/
inductive Listed (P : List Char → Prop) : ℕ → List Char → Prop where
  | one {cs : List Char} (h : P cs) : Listed P 1 cs
  | more {n : ℕ} {cs ds : List Char} (h : P cs) (rest : Listed P n ds) :
    Listed P (n + 1) (cs ++ ',' :: ds)

/-- One or more texts of `P` with commas between them. -/
def Many (P : List Char → Prop) (cs : List Char) : Prop := ∃ n, Listed P n cs

/-- Nothing, or a text of `P` behind the keyword. -/
inductive Clause (head : String) (P : List Char → Prop) : List Char → Prop where
  | absent : Clause head P []
  | present {cs : List Char} (h : P cs) : Clause head P (head.toList ++ cs)

/-- A name between quotes, without a quote inside. -/
inductive Name : List Char → Prop where
  | mk {x : String} (h : '\x60' ∉ x.toList) : Name (quoted x)

/-- A text of `P`, perhaps with an alias. -/
inductive Labelled (P : List Char → Prop) : List Char → Prop where
  | plain {cs : List Char} (h : P cs) : Labelled P cs
  | renamed {cs ds : List Char} (h : P cs) (hname : Name ds) :
    Labelled P (cs ++ (" AS ".toList ++ ds))

/-! ## Conditions, tables and joins -/

/-- A column, or an aggregate of one. -/
inductive Subject : List Char → Prop where
  | column {cs : List Char} (h : Identifier cs) : Subject cs
  | aggregate (fn : AggregateFn) {cs : List Char} (h : Identifier cs) :
    Subject (fn.name.toList ++ enclosed cs)

/-- A condition. Conditions inside it stand in parentheses. -/
inductive Condition : List Char → Prop where
  | holds {cs : List Char} (h : Subject cs) : Condition cs
  | compare (op : Comparison) {cs ds : List Char} (hl : Subject cs) (hr : Subject ds) :
    Condition (cs ++ ' ' :: (op.name.toList ++ ' ' :: ds))
  | compareValue (op : Comparison) {cs : List Char} (hl : Subject cs) :
    Condition (cs ++ ' ' :: (op.name.toList ++ ' ' :: ['?']))
  | compareTruth (op : Comparison) {cs ds : List Char} (hl : Subject cs) (hr : Condition ds) :
    Condition (cs ++ ' ' :: (op.name.toList ++ ' ' :: enclosed ds))
  | and {cs ds : List Char} (hl : Condition cs) (hr : Condition ds) :
    Condition (enclosed cs ++ " AND ".toList ++ enclosed ds)
  | or {cs ds : List Char} (hl : Condition cs) (hr : Condition ds) :
    Condition (enclosed cs ++ " OR ".toList ++ enclosed ds)
  | not {cs : List Char} (h : Condition cs) : Condition ("NOT ".toList ++ enclosed cs)

/-- What matches the two sides of a join. -/
inductive Match : List Char → Prop where
  | everything : Match []
  | using {cs : List Char} (h : Many Name cs) : Match (" USING ".toList ++ enclosed cs)
  | on {cs : List Char} (h : Condition cs) : Match (" ON ".toList ++ cs)

/-- A table, perhaps with an alias, or a join of two sides in parentheses. -/
inductive Source : List Char → Prop where
  | table {cs : List Char} (h : Labelled Name cs) : Source cs
  | join (kind : JoinKind) {cs ds on : List Char} (hl : Source cs) (hr : Source ds)
    (hon : Match on) : Source (enclosed (cs ++ ' ' :: (kind.name.toList ++ ' ' :: (ds ++ on))))

/-! ## Statements -/

/-- What is selected: everything or a list of items. -/
inductive Selection : List Char → Prop where
  | everything : Selection ['*']
  | items {cs : List Char} (h : Many (Labelled Subject) cs) : Selection cs

/-- A column to sort by, with the direction. -/
inductive SortKey : List Char → Prop where
  | mk {cs : List Char} (h : Identifier cs) (o : Order) : SortKey (cs ++ ' ' :: o.name.toList)

/-- A SELECT without its counts of rows. -/
inductive Query : List Char → Prop where
  | mk {items source wheres groups having orders : List Char} (hitems : Selection items)
    (hsource : Source source) (hwheres : Clause " WHERE " Condition wheres)
    (hgroups : Clause " GROUP BY " (Many Identifier) groups)
    (hhaving : Clause " HAVING " Condition having)
    (horders : Clause " ORDER BY " (Many SortKey) orders) :
    Query ("SELECT ".toList ++ items ++ " FROM ".toList ++ source ++ wheres ++ groups ++ having ++
      orders)

/-- The counts of rows. The second stands behind the first, or by itself if that is allowed. -/
inductive Counts (alone : Prop) : List Char → Prop where
  | none : Counts alone []
  | limit : Counts alone " LIMIT ?".toList
  | both : Counts alone (" LIMIT ?".toList ++ " OFFSET ?".toList)
  | offset (h : alone) : Counts alone " OFFSET ?".toList

/-- LIMIT and OFFSET, each with its placeholder, if they are wanted. -/
def counts (limit offset : Bool) : List Char :=
  (if limit then " LIMIT ?".toList else []) ++ (if offset then " OFFSET ?".toList else [])

/-- A tuple of `n` placeholders. -/
inductive Tuple (n : ℕ) : List Char → Prop where
  | mk {cs : List Char} (h : Listed (· = ['?']) n cs) : Tuple n (enclosed cs)

/-- What leads to the assignments of an upsert. -/
inductive Conflict : Dialect → List Char → Prop where
  | mysql : Conflict .mysql " ON DUPLICATE KEY UPDATE ".toList
  | anywhere : Conflict .sqlite (" ON CONFLICT".toList ++ " DO UPDATE SET ".toList)
  | target {cs : List Char} (h : Many Name cs) :
    Conflict .sqlite (" ON CONFLICT".toList ++ enclosed cs ++ " DO UPDATE SET ".toList)

/-- One assignment of an upsert. -/
inductive Setting : Dialect → List Char → Prop where
  | value {d : Dialect} {cs : List Char} (h : Name cs) : Setting d (cs ++ "=?".toList)
  | mysql {cs : List Char} (h : Name cs) :
    Setting .mysql (cs ++ ("=VALUES".toList ++ enclosed cs))
  | sqlite {cs : List Char} (h : Name cs) :
    Setting .sqlite (cs ++ ("=excluded.".toList ++ cs))

/-- Nothing, or the assignments of an upsert behind what leads to them. -/
inductive Upserting (d : Dialect) : List Char → Prop where
  | absent : Upserting d []
  | present {cs ds : List Char} (hhead : Conflict d cs) (hset : Many (Setting d) ds) :
    Upserting d (cs ++ ds)

/-- A statement without its semicolon. -/
inductive Body (alone : Prop) (d : Dialect) : List Char → Prop where
  | select {cs counts : List Char} (hquery : Query cs) (hcounts : Counts alone counts) :
    Body alone d (cs ++ counts)
  | insert {n : ℕ} {table columns tuples upsert : List Char} (htable : Name table)
    (hcolumns : Listed Name n columns) (htuples : Many (Tuple n) tuples)
    (hupsert : Upserting d upsert) :
    Body alone d ("INSERT INTO ".toList ++ table ++ enclosed columns ++ " VALUES ".toList ++
      tuples ++ upsert)
  | delete {table wheres : List Char} (htable : Labelled Name table)
    (hwheres : Clause " WHERE " Condition wheres) :
    Body alone d ("DELETE FROM ".toList ++ table ++ wheres)

/-- A statement with a single semicolon at its end. If `alone`, OFFSET may stand without LIMIT. -/
def Sentence (alone : Prop) (d : Dialect) (cs : List Char) : Prop :=
  ∃ body, Body alone d body ∧ cs = body ++ [';'] ∧ ¬ [';'] <:+ body

/-- A SELECT with its semicolon, with LIMIT exactly if `limit` and OFFSET exactly if `offset`. -/
def Counted (limit offset : Bool) (cs : List Char) : Prop :=
  ∃ query, Query query ∧ cs = query ++ counts limit offset ++ [';']

/-! ## Endings -/

/-- The text ends as one of `es`. -/
def EndsIn (es : List (List Char)) (cs : List Char) : Prop := ∃ e ∈ es, e <:+ cs

instance (es : List (List Char)) (cs : List Char) : Decidable (EndsIn es cs) :=
  inferInstanceAs (Decidable (∃ e ∈ es, e <:+ cs))

/-- The endings of a SELECT without counts: none of them is that of a count. -/
def endings : List (List Char) :=
  [['\x60'], [')'], ['C'], "= ?".toList, "< ?".toList, "> ?".toList]

variable {es : List (List Char)} {P : List Char → Prop} {cs ds : List Char}

theorem EndsIn.append (h : EndsIn es ds) (cs : List Char) : EndsIn es (cs ++ ds) := by
  obtain ⟨e, he, hsuffix⟩ := h
  exact ⟨e, he, hsuffix.trans (List.suffix_append cs ds)⟩

theorem EndsIn.cons (h : EndsIn es cs) (c : Char) : EndsIn es (c :: cs) := h.append [c]

theorem EndsIn.mono {fs : List (List Char)} (h : EndsIn es cs) (hsub : es ⊆ fs) : EndsIn fs cs := by
  obtain ⟨e, he, hsuffix⟩ := h
  exact ⟨e, hsub he, hsuffix⟩

/-- Of two endings one is an ending of the other. -/
theorem EndsIn.not_suffix {e : List Char} (h : EndsIn es cs)
    (hne : ∀ x ∈ es, ¬ x <:+ e ∧ ¬ e <:+ x) : ¬ e <:+ cs := by
  intro he
  obtain ⟨x, hx, hsuffix⟩ := h
  rcases List.suffix_or_suffix_of_suffix hsuffix he with hxe | hex
  · exact (hne x hx).1 hxe
  · exact (hne x hx).2 hex

theorem ended_quoted (x : String) : EndsIn endings (quoted x) :=
  ⟨['\x60'], by decide, '\x60' :: x.toList, rfl⟩

theorem ended_enclosed (cs : List Char) : EndsIn endings (enclosed cs) :=
  ⟨[')'], by decide, '(' :: cs, rfl⟩

theorem Name.ended (h : Name cs) : EndsIn endings cs := by
  obtain ⟨_⟩ := h
  exact ended_quoted _

theorem ended_identifier (h : Identifier cs) : EndsIn endings cs := by
  cases h with
  | alone _ => exact ended_quoted _
  | behind _ _ => exact ((ended_quoted _).cons '.').append _

theorem Subject.ended (h : Subject cs) : EndsIn endings cs := by
  cases h with
  | column h => exact ended_identifier h
  | aggregate fn _ => exact (ended_enclosed _).append _

/-- What stands on the right of a comparison ends it. -/
theorem EndsIn.compare (h : EndsIn es ds) (cs : List Char) (op : Comparison) :
    EndsIn es (cs ++ ' ' :: (op.name.toList ++ ' ' :: ds)) :=
  (((h.cons ' ').append op.name.toList).cons ' ').append cs

theorem Condition.ended (h : Condition cs) : EndsIn endings cs := by
  cases h with
  | holds h => exact h.ended
  | compare op _ hr => exact hr.ended.compare _ op
  | @compareValue op cs _ =>
    -- the placeholder tells no count apart, but the operator before it does
    have hop : EndsIn endings (' ' :: (op.name.toList ++ ' ' :: ['?'])) := by cases op <;> decide
    exact hop.append cs
  | compareTruth op _ _ => exact (ended_enclosed _).compare _ op
  | and _ _ => exact (ended_enclosed _).append _
  | or _ _ => exact (ended_enclosed _).append _
  | not _ => exact (ended_enclosed _).append _

theorem Labelled.ended (hP : ∀ cs, P cs → EndsIn endings cs) (h : Labelled P cs) :
    EndsIn endings cs := by
  cases h with
  | plain h => exact hP _ h
  | renamed _ hname => exact (hname.ended.append _).append _

theorem Many.ended (hP : ∀ cs, P cs → EndsIn es cs) (h : Many P cs) : EndsIn es cs := by
  obtain ⟨n, h⟩ := h
  induction h with
  | one h => exact hP _ h
  | more _ _ ih => exact (ih.cons ',').append _

/-- A clause that is not there leaves the ending to what is before it. -/
theorem Clause.ended {head : String} (hP : ∀ cs, P cs → EndsIn es cs) (h : Clause head P ds)
    (hcs : EndsIn es cs) : EndsIn es (cs ++ ds) := by
  cases h with
  | absent =>
    rw [List.append_nil]
    exact hcs
  | present h => exact ((hP _ h).append _).append cs

theorem Source.ended (h : Source cs) : EndsIn endings cs := by
  cases h with
  | table h => exact h.ended fun _ => Name.ended
  | join kind _ _ _ => exact ended_enclosed _

theorem SortKey.ended (h : SortKey cs) : EndsIn endings cs := by
  obtain ⟨_, o⟩ := h
  have ho : EndsIn endings (' ' :: o.name.toList) := by cases o <;> decide
  exact ho.append _

/-- A SELECT without counts ends as no count does. -/
theorem Query.ended (h : Query cs) : EndsIn endings cs := by
  obtain ⟨_, hsource, hwheres, hgroups, hhaving, horders⟩ := h
  exact horders.ended (fun _ => Many.ended fun _ => SortKey.ended)
    (hhaving.ended (fun _ => Condition.ended)
      (hgroups.ended (fun _ => Many.ended fun _ => ended_identifier)
        (hwheres.ended (fun _ => Condition.ended) (hsource.ended.append _))))

theorem Tuple.ended {n : ℕ} (h : Tuple n cs) : EndsIn endings cs := by
  obtain ⟨_⟩ := h
  exact ended_enclosed _

/-- The endings of a statement without its semicolon. -/
def bodyEndings : List (List Char) := ['?'] :: endings

theorem endings_subset : endings ⊆ bodyEndings := List.subset_cons_self _ _

theorem Setting.ended {d : Dialect} (h : Setting d cs) : EndsIn bodyEndings cs := by
  cases h with
  | value _ => exact EndsIn.append (by decide) _
  | mysql _ => exact (((ended_enclosed _).append _).append _).mono endings_subset
  | sqlite h => exact ((h.ended.append _).append _).mono endings_subset

theorem Body.ended {alone : Prop} {d : Dialect} (h : Body alone d cs) :
    EndsIn bodyEndings cs := by
  cases h with
  | select hquery hcounts =>
    cases hcounts with
    | none =>
      rw [List.append_nil]
      exact hquery.ended.mono endings_subset
    | limit => exact EndsIn.append (by decide) _
    | both => exact EndsIn.append (by decide) _
    | offset _ => exact EndsIn.append (by decide) _
  | insert _ _ htuples hupsert =>
    cases hupsert with
    | absent =>
      rw [List.append_nil]
      exact ((htuples.ended fun _ => Tuple.ended).append _).mono endings_subset
    | present _ hset => exact ((hset.ended fun _ => Setting.ended).append _).append _
  | delete htable hwheres =>
    have htarget := htable.ended fun _ => Name.ended
    exact (hwheres.ended (fun _ => Condition.ended) (htarget.append _)).mono endings_subset

/-- **The semicolon at the end is the only one there.** -/
theorem Body.sentence {alone : Prop} {d : Dialect} (h : Body alone d cs) :
    Sentence alone d (cs ++ [';']) :=
  ⟨cs, h, rfl, h.ended.not_suffix (by decide)⟩

/-! ## Counts of rows -/

theorem counts_iff {alone : Prop} : Counts alone cs ↔
    ∃ limit offset, cs = counts limit offset ∧ (limit = false → offset = true → alone) := by
  constructor
  · intro h
    cases h with
    | none => exact ⟨false, false, rfl, nofun⟩
    | limit => exact ⟨true, false, rfl, nofun⟩
    | both => exact ⟨true, true, rfl, nofun⟩
    | offset h => exact ⟨false, true, rfl, fun _ _ => h⟩
  · rintro ⟨limit, offset, rfl, h⟩
    cases limit with
    | false =>
      cases offset with
      | false => exact .none
      | true => exact .offset (h rfl rfl)
    | true =>
      cases offset with
      | false => exact .limit
      | true => exact .both

/-- A SELECT does not end in LIMIT by itself. -/
theorem Query.limit_suffix_iff (h : Query cs) (limit : Bool) :
    "T ?".toList <:+ cs ++ (if limit then " LIMIT ?".toList else []) ↔ limit = true := by
  cases limit with
  | false =>
    refine iff_of_false ?_ Bool.false_ne_true
    rw [if_neg Bool.false_ne_true, List.append_nil]
    exact h.ended.not_suffix (by decide)
  | true => exact iff_of_true ⟨cs ++ " LIMI".toList, by simp⟩ rfl

/-- Neither SELECT nor LIMIT ends in OFFSET. -/
theorem Query.offset_suffix_iff (h : Query cs) (limit offset : Bool) :
    " OFFSET ?".toList <:+ cs ++ counts limit offset ↔ offset = true := by
  unfold counts
  rw [← List.append_assoc]
  cases offset with
  | false =>
    refine iff_of_false ?_ Bool.false_ne_true
    rw [if_neg Bool.false_ne_true, List.append_nil]
    intro hoffset
    have hends : "T ?".toList <:+ " OFFSET ?".toList := by decide
    obtain rfl := (h.limit_suffix_iff limit).1 (hends.trans hoffset)
    rcases List.suffix_or_suffix_of_suffix hoffset (List.suffix_append cs _) with h | h
    · exact absurd h (by decide)
    · exact absurd h (by decide)
  | true => exact iff_of_true (List.suffix_append _ _) rfl

/-- **The counts of rows can be read off the text.** -/
theorem Query.counts_inj (hcs : Query cs) (hds : Query ds) {limit limit' offset offset' : Bool}
    (h : cs ++ counts limit offset = ds ++ counts limit' offset') :
    limit = limit' ∧ offset = offset' := by
  have hoffset : offset = offset' := by
    rw [Bool.eq_iff_iff, ← hcs.offset_suffix_iff limit, h]
    exact hds.offset_suffix_iff limit' offset'
  subst hoffset
  unfold counts at h
  rw [← List.append_assoc, ← List.append_assoc] at h
  refine ⟨?_, rfl⟩
  rw [Bool.eq_iff_iff, ← hcs.limit_suffix_iff limit, List.append_cancel_right h]
  exact hds.limit_suffix_iff limit'

/-- **A SELECT has its counts of rows and no others.** -/
theorem Query.counted_iff (h : Query cs) {limit limit' offset offset' : Bool} :
    Counted limit' offset' (cs ++ counts limit offset ++ [';']) ↔
      limit' = limit ∧ offset' = offset := by
  constructor
  · rintro ⟨query, hquery, heq⟩
    obtain ⟨rfl, rfl⟩ := h.counts_inj hquery (List.append_cancel_right heq)
    exact ⟨rfl, rfl⟩
  · rintro ⟨rfl, rfl⟩
    exact ⟨cs, h, rfl⟩

theorem Query.lead (h : Query cs) : ∃ r, cs = 'S' :: r := by
  obtain ⟨_⟩ := h
  exact ⟨_, rfl⟩

/-- A SELECT with OFFSET only is no statement where OFFSET stands behind LIMIT. -/
theorem Query.not_body_offset {d : Dialect} (h : Query cs) :
    ¬ Body False d (cs ++ counts false true) := by
  intro hbody
  generalize hb : cs ++ counts false true = body at hbody
  cases hbody with
  | select hquery hcounts =>
    obtain ⟨limit, offset, rfl, halone⟩ := counts_iff.1 hcounts
    obtain ⟨rfl, rfl⟩ := h.counts_inj hquery hb
    exact halone rfl rfl
  | insert _ _ _ _ =>
    obtain ⟨r, rfl⟩ := h.lead
    exact absurd (List.cons.inj hb).1 (by decide)
  | delete _ _ =>
    obtain ⟨r, rfl⟩ := h.lead
    exact absurd (List.cons.inj hb).1 (by decide)

/-- **A SELECT with OFFSET and without LIMIT is no sentence** unless that is allowed. -/
theorem Query.not_sentence_offset {d : Dialect} (h : Query cs) :
    ¬ Sentence False d (cs ++ counts false true ++ [';']) := by
  rintro ⟨body, hbody, heq, -⟩
  rw [← List.append_cancel_right heq] at hbody
  exact h.not_body_offset hbody

/-! ## Empty lists -/

/-- A list of assignments that is empty leaves a blank at the end. -/
theorem not_sentence_blank {alone : Prop} {d : Dialect} (cs : List Char) :
    ¬ Sentence alone d (cs ++ [' '] ++ [';']) := by
  rintro ⟨body, hbody, heq, -⟩
  rw [← List.append_cancel_right heq] at hbody
  exact hbody.ended.not_suffix (by decide) (List.suffix_append cs [' '])

theorem Listed.lead {n : ℕ} (h : Listed Name n cs) : ∃ r, cs = '\x60' :: r := by
  cases h with
  | one h =>
    obtain ⟨_⟩ := h
    exact ⟨_, rfl⟩
  | more h _ =>
    obtain ⟨_⟩ := h
    exact ⟨_, rfl⟩

/-- A list of columns to insert is not empty. -/
theorem not_sentence_fieldless {alone : Prop} {d : Dialect} {x : String} (hx : '\x60' ∉ x.toList)
    (cs : List Char) :
    ¬ Sentence alone d ("INSERT INTO ".toList ++ (quoted x ++ '(' :: ')' :: cs)) := by
  rintro ⟨body, hbody, heq, -⟩
  cases hbody with
  | select hquery _ =>
    obtain ⟨r, rfl⟩ := hquery.lead
    exact absurd (List.cons.inj heq).1 (by decide)
  | insert htable hcolumns _ _ =>
    obtain ⟨hy⟩ := htable
    obtain ⟨r, rfl⟩ := hcolumns.lead
    simp only [List.append_assoc] at heq
    obtain ⟨-, hrest⟩ := quoted_append_inj hx hy (List.append_cancel_left heq)
    exact absurd (List.cons.inj (List.cons.inj hrest).2).1 (by decide)
  | delete _ _ => exact absurd (List.cons.inj heq).1 (by decide)

end RecordSql.Grammar
