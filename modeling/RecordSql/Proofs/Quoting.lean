import RecordSql.Proofs.Grouping
import RecordSql.Proofs.Mapping

/-!
# The text shows the select list

Names are written between quotes as they are. Where none of the names in a select list has a quote
in it, the list can be read back from the text of its statement. A name with a quote ends at it, and
what is behind the quote is read as SQL.

* `Entry`: an entry of a select list by the names that it is written with.
* `Entry.list_append_inj`: a list ends before ` FROM `.
* `Selected`: what an entry stands for, a field of a model.
* `Select.build_list`: the text of a SELECT starts with the entries of its list.
* `Select.list_unambiguous`: **without quotes in names, SELECTs with the same text have the same
  select list.**
* `Select.list_ambiguous`: with them, lists of different lengths have the same text.
-/

namespace RecordSql

open Sql JoinOutline

/-- An entry of a select list by the names that it is written with. -/
@[ext] structure Entry where
  fn : Option AggregateFn
  /-- What the column is written behind. -/
  owner : Option String
  column : String
  label : Option String
deriving DecidableEq

namespace Entry

/-- The identifier of the column, alone or behind that of its table. -/
def identifier (x : Entry) : List Char :=
  x.owner.elim (quoted x.column) fun t => quoted t ++ '.' :: quoted x.column

/-- The entry without its label. -/
def atom (x : Entry) : Atom :=
  match x.fn with
  | none => .column (String.ofList x.identifier)
  | some f => .aggregate f (String.ofList x.identifier)

def spell (x : Entry) : List Char := x.atom.spell ++ aliasText x.label

/-- Entries with commas between them, or an asterisk. -/
def spellList : List Entry → List Char
  | [] => ['*']
  | [x] => x.spell
  | x :: y :: xs => x.spell ++ ',' :: spellList (y :: xs)

/-- No name of the entry has a quote. -/
structure Plain (x : Entry) : Prop where
  name : Scope.Plain '\x60' x.owner x.column
  label : ∀ n ∈ x.label, '\x60' ∉ n.toList

variable {x y : Entry} {r t : List Char}

theorem identifier_inj (hx : x.Plain) (hy : y.Plain) (h : x.identifier = y.identifier) :
    x.owner = y.owner ∧ x.column = y.column := by
  obtain ⟨_, a, c, _⟩ := x
  obtain ⟨_, b, d, _⟩ := y
  -- behind the first closing quote, a table's name has a dot and a column's has nothing
  have hend := congrArg (· ++ []) h
  simp only [identifier] at hend
  cases a with
  | none =>
    cases b with
    | none => exact ⟨rfl, (quoted_append_inj hx.name.2 hy.name.2 hend).1⟩
    | some u =>
      simp only [Option.elim_none, Option.elim_some, List.append_assoc] at hend
      exact nomatch (quoted_append_inj hx.name.2 (hy.name.1 u rfl) hend).2
  | some s =>
    simp only [Option.elim_some, List.append_assoc] at hend
    cases b with
    | none => exact nomatch (quoted_append_inj (hx.name.1 s rfl) hy.name.2 hend).2
    | some u =>
      simp only [Option.elim_some, List.append_assoc] at hend
      obtain ⟨rfl, hrest⟩ := quoted_append_inj (hx.name.1 s rfl) (hy.name.1 u rfl) hend
      obtain ⟨rfl, -⟩ := quoted_append_inj hx.name.2 hy.name.2 (List.cons.inj hrest).2
      exact ⟨rfl, rfl⟩

theorem Plain.readable (hx : x.Plain) : x.atom.Readable := by
  have hid : Identifier x.identifier := by
    unfold identifier
    cases ho : x.owner with
    | none => exact .alone hx.name.2
    | some t => exact .behind (hx.name.1 t ho) hx.name.2
  unfold atom
  cases x.fn with
  | none => simpa [Atom.Readable] using hid
  | some f => simpa [Atom.Readable] using hid

theorem atom_inj (hx : x.Plain) (hy : y.Plain) (h : x.atom = y.atom) :
    x.fn = y.fn ∧ x.owner = y.owner ∧ x.column = y.column := by
  unfold atom at h
  cases hf : x.fn with
  | none =>
    cases hg : y.fn with
    | none =>
      simp only [hf, hg, Atom.column.injEq, String.ofList_inj] at h
      exact ⟨rfl, identifier_inj hx hy h⟩
    | some g => simp [hf, hg] at h
  | some f =>
    cases hg : y.fn with
    | none => simp [hf, hg] at h
    | some g =>
      simp only [hf, hg, Atom.aggregate.injEq, String.ofList_inj] at h
      exact ⟨congrArg some h.1, identifier_inj hx hy h.2⟩

/-- The end of an entry: neither a dot nor an alias follows. -/
def Ends (r : List Char) : Prop := Undotted r ∧ Unaliased r

theorem ends_comma : Ends (',' :: r) :=
  ⟨undotted_cons (by decide), fun _ h => absurd (List.cons.inj h).1 (by decide)⟩

theorem ends_from : Ends (" FROM ".toList ++ r) :=
  ⟨undotted_cons (by decide), fun _ h => by simp at h⟩

/-- An entry ends before a comma and before ` FROM `. -/
theorem spell_append_inj (hx : x.Plain) (hy : y.Plain) (hr : Ends r) (ht : Ends t)
    (h : x.spell ++ r = y.spell ++ t) : x = y ∧ r = t := by
  -- behind the column is ` AS ` or the end of the entry, so its name does not go on
  have hdot : ∀ {a : Option String} {u : List Char}, Ends u → Undotted (aliasText a ++ u) := by
    intro a u hu
    cases a with
    | none => exact hu.1
    | some n => exact undotted_cons (by decide)
  rw [spell, spell, List.append_assoc, List.append_assoc] at h
  obtain ⟨hatom, hrest⟩ := Atom.spell_append_inj hx.readable hy.readable (hdot hr) (hdot ht) h
  obtain ⟨hfn, howner, hcolumn⟩ := atom_inj hx hy hatom
  obtain ⟨hlabel, hend⟩ := aliasText_append_inj hx.label hy.label hr.2 ht.2 hrest
  exact ⟨Entry.ext hfn howner hcolumn hlabel, hend⟩

theorem spell_ne_asterisk (hx : x.Plain) : x.spell ++ r ≠ '*' :: t := by
  rw [spell, List.append_assoc]
  exact Atom.spell_ne_cons hx.readable (by decide)

/-- A list with an entry is written as its first entry and what is behind it. -/
theorem spellList_cons (x : Entry) (xs : List Entry) :
    spellList (x :: xs) = x.spell ++ match xs with
      | [] => []
      | y :: ys => ',' :: spellList (y :: ys) := by
  cases xs with
  | nil => simp [spellList]
  | cons y ys => rfl

/-- **A list ends before ` FROM `**, and no other list is written like it. -/
theorem list_append_inj {xs ys : List Entry} (hxs : ∀ x ∈ xs, x.Plain) (hys : ∀ y ∈ ys, y.Plain)
    (h : spellList xs ++ (" FROM ".toList ++ r) = spellList ys ++ (" FROM ".toList ++ t)) :
    xs = ys := by
  induction xs generalizing ys with
  | nil =>
    cases ys with
    | nil => rfl
    | cons y ys =>
      rw [spellList_cons, List.append_assoc] at h
      exact absurd h.symm (spell_ne_asterisk (hys y List.mem_cons_self))
  | cons x xs ih =>
    have hx : x.Plain := hxs x List.mem_cons_self
    cases ys with
    | nil =>
      rw [spellList_cons, List.append_assoc] at h
      exact absurd h (spell_ne_asterisk hx)
    | cons y ys =>
      have hy : y.Plain := hys y List.mem_cons_self
      rw [spellList_cons, spellList_cons, List.append_assoc, List.append_assoc] at h
      -- a comma or a blank behind the first entry tells whether there is another
      match xs, ys with
      | [], [] =>
        obtain ⟨rfl, -⟩ := spell_append_inj hx hy ends_from ends_from h
        rfl
      | [], z :: ys => exact nomatch (spell_append_inj hx hy ends_from ends_comma h).2
      | z :: xs, [] => exact nomatch (spell_append_inj hx hy ends_comma ends_from h).2
      | z :: xs, w :: ys =>
        obtain ⟨rfl, hrest⟩ := spell_append_inj hx hy ends_comma ends_comma h
        have htail := ih (fun a ha => hxs a (List.mem_cons_of_mem _ ha))
          (fun a ha => hys a (List.mem_cons_of_mem _ ha)) (List.cons.inj hrest).2
        rw [htail]

end Entry

/-! ## Select lists -/

/-- What an item of a select list stands for: a field of a model, perhaps an aggregate of it, behind
the name of a table or alone. -/
@[ext] structure Selected where
  fn : Option AggregateFn
  owner : Option String
  model : Model
  field : Field
  label : Option String

namespace Selected

/-- The names that the item is written with. -/
def entry (x : Selected) : Entry := ⟨x.fn, x.owner, x.field.column, x.label⟩

/-- Columns behind the same name are of the same model. -/
def Telling (xs : List Selected) : Prop :=
  ∀ x ∈ xs, ∀ y ∈ xs, x.owner = y.owner → x.model = y.model

/-- The model has the field, and each of its columns for one field only. -/
structure Mapped (x : Selected) : Prop where
  mem : x.field ∈ x.model.fields
  columns : (x.model.fields.map Field.column).Nodup

theorem eq_of_entry {x y : Selected} (hx : x.Mapped) (hy : y.Mapped) (hm : x.model = y.model)
    (h : x.entry = y.entry) : x = y := by
  have hfield : x.field = y.field :=
    List.inj_on_of_nodup_map hx.columns hx.mem (hm ▸ hy.mem) (congrArg Entry.column h)
  exact Selected.ext (congrArg Entry.fn h) (congrArg Entry.owner h) hm hfield
    (congrArg Entry.label h)

/-- Lists of fields are the same if their entries are and the names tell the models apart. -/
theorem eq_of_entries {xs ys : List Selected} (hxs : ∀ x ∈ xs, x.Mapped) (hys : ∀ y ∈ ys, y.Mapped)
    (ht : Telling (xs ++ ys)) (h : xs.map entry = ys.map entry) : xs = ys := by
  have heq : ∀ x ∈ xs, ∀ y ∈ ys, x.entry = y.entry → x = y := fun x hx y hy hxy =>
    eq_of_entry (hxs x hx) (hys y hy)
      (ht x (List.mem_append_left _ hx) y (List.mem_append_right _ hy) (congrArg Entry.owner hxy))
      hxy
  -- unlike the names of the whole lists, this can be passed on to their tails
  clear hxs hys ht
  induction xs generalizing ys with
  | nil => exact (List.map_eq_nil_iff.1 h.symm).symm
  | cons x xs ih =>
    cases ys with
    | nil => cases h
    | cons y ys =>
      obtain ⟨hhead, htail⟩ := List.cons.inj h
      rw [heq x List.mem_cons_self y List.mem_cons_self hhead,
        ih htail fun a ha b hb => heq a (List.mem_cons_of_mem _ ha) b (List.mem_cons_of_mem _ hb)]

end Selected

namespace Scope

variable {s : Scope} {look : Entity → Except Error Model}

/-- The field that an item stands for. Fragments stand for none. -/
inductive Selects (s : Scope) (look : Entity → Except Error Model) : SelectItem → Selected → Prop
  | column {c : Column} {owner : Option String} {m : Model} {f : Field}
    (hhome : Home s look c owner m) (hf : m.resolveField c.name = .ok f) :
    Selects s look (.column c) ⟨none, owner, m, f, c.aliasName⟩
  | aggregate {a : Aggregate} {owner : Option String} {m : Model} {f : Field}
    (hhome : Home s look a.arg owner m) (hf : m.resolveField a.arg.name = .ok f) :
    Selects s look (.aggregate a) ⟨some a.fn, owner, m, f, a.aliasName⟩

/-- Names that avoid the quote make entries without it. -/
theorem Selects.plain {i : SelectItem} {x : Selected} (h : Selects s look i x)
    (hs : s.Avoids '\x60') (hc : ∀ c ∈ i.columns, c.Avoids look '\x60')
    (hl : ∀ n ∈ i.label?, '\x60' ∉ n.toList) : x.entry.Plain := by
  cases h with
  | column hhome hf => exact ⟨hhome.plain hs (hc _ List.mem_cons_self) hf, hl⟩
  | aggregate hhome hf => exact ⟨hhome.plain hs (hc _ List.mem_cons_self) hf, hl⟩

theorem text_reference (owner : Option String) (column : String) :
    (s.reference owner column).text.toList =
      (Entry.mk none owner column none).identifier := by
  cases owner with
  | none => exact text_ident column
  | some t => simp [reference, qualified, text_ident, Entry.identifier]

theorem text_asName (a : Option String) : (s.asName a).text.toList = aliasText a := by
  cases a with
  | none => simp [asName, aliasText]
  | some n => simp [asName, aliasText, text_ident]

/-- An item is written as its entry is. -/
theorem selectItem_entry {i : SelectItem} {a : Sql} (hr : i.raws = [])
    (h : (s.selectItem i).eval look = .ok a) :
    ∃ x, Selects s look i x ∧ a.text.toList = x.entry.spell := by
  cases i with
  | column c =>
    obtain ⟨y, hy, rfl⟩ := selectItem_column_ok.1 h
    obtain ⟨owner, m, hhome, f, hf, rfl⟩ := column_ok.1 hy
    refine ⟨_, .column hhome hf, ?_⟩
    simp [Entry.spell, Entry.atom, Atom.spell, Selected.entry, text_reference, text_asName,
      Entry.identifier]
  | aggregate g =>
    obtain ⟨y, hy, rfl⟩ := selectItem_aggregate_ok.1 h
    obtain ⟨z, hz, rfl⟩ := aggregate_ok.1 hy
    obtain ⟨owner, m, hhome, f, hf, rfl⟩ := column_ok.1 hz
    refine ⟨_, .aggregate hhome hf, ?_⟩
    simp [Entry.spell, Entry.atom, Atom.spell, Selected.entry, text_reference, text_asName,
      text_parens, Entry.identifier]
  | raw r => cases hr

/-- Items are written as the list of their entries. -/
theorem selectItems_entries {is : List SelectItem} {as : List Sql} (hr : ∀ i ∈ is, i.raws = [])
    (h : (Consult.all s.selectItem is).eval look = .ok as) :
    ∃ xs, List.Forall₂ (Selects s look) is xs ∧
      (if as.isEmpty then lit "*" else commaList as).text.toList =
        Entry.spellList (xs.map Selected.entry) := by
  have hall := Consult.eval_all_ok.1 h
  clear h
  induction hall with
  | nil => exact ⟨[], .nil, by simp [Entry.spellList]⟩
  | @cons i a is as ha has ih =>
    obtain ⟨x, hx, htext⟩ := selectItem_entry (hr i List.mem_cons_self) ha
    obtain ⟨xs, hxs, hrest⟩ := ih fun j hj => hr j (List.mem_cons_of_mem _ hj)
    refine ⟨x :: xs, .cons hx hxs, ?_⟩
    cases hxs with
    | nil =>
      cases has
      simpa [commaList, Entry.spellList] using htext
    | cons _ _ =>
      cases has
      simp only [List.isEmpty_cons, Bool.false_eq_true, if_false] at hrest ⊢
      simp [commaList, Entry.spellList, htext, hrest]

/-- The field is one of the model's, which describes its record type. -/
theorem Selects.mapped {g : Registry} {e : Entity} {i : SelectItem} {x : Selected}
    (h : Selects s g.look i x) (hg : g.Reachable) (hs : s.model.Describes e) : x.Mapped := by
  have hhome : ∀ {c : Column} {owner : Option String} {m : Model}, Home s g.look c owner m →
      (m.fields.map Field.column).Nodup := by
    intro c owner m hm
    cases hm with
    | bare _ _ => exact hs.columns
    | joined _ _ => exact hs.columns
    | table _ hm => exact (hg.describes ((g.answer_model _).trans hm)).columns
  cases h with
  | column hm hf => exact ⟨Model.mem_of_resolveField hf, hhome hm⟩
  | aggregate hm hf => exact ⟨Model.mem_of_resolveField hf, hhome hm⟩

end Scope

namespace Select

variable {e : Entity} {d : Dialect} {g : Registry}

theorem Clauses.text_sql (c : Clauses) (limit offset : Int64) :
    ∃ rest, (c.sql limit offset).text.toList = "SELECT ".toList ++
      ((if c.items.isEmpty then lit "*" else commaList c.items).text.toList ++
        (" FROM ".toList ++ rest)) := by
  simp only [Clauses.sql, text_append, String.toList_append, text_lit, List.append_assoc]
  exact ⟨_, rfl⟩

/-- **The text of a SELECT starts with the entries of its list**, and ` FROM ` is behind them. -/
theorem build_list {q : Select} {sql : Sql} {look : Entity → Except Error Model}
    (hr : ∀ i ∈ q.columns, i.raws = []) (h : (q.build d e).eval look = .ok sql) :
    ∃ m, look e = .ok m ∧ ∃ xs,
      List.Forall₂ (Scope.Selects ⟨d, m, .of m q.source⟩ look) q.columns xs ∧ ∃ rest,
        sql.text.toList = "SELECT ".toList ++
          (Entry.spellList (xs.map Selected.entry) ++ (" FROM ".toList ++ rest)) := by
  obtain ⟨m, hm, c, hc, rfl⟩ := build_ok h
  obtain ⟨xs, hxs, htext⟩ := Scope.selectItems_entries hr hc.items
  obtain ⟨rest, hrest⟩ := c.text_sql q.limit q.offset
  exact ⟨m, hm, xs, hxs, rest, by rw [hrest, htext]⟩

/-- Where the names of a statement avoid the quote, so do those of its select list. -/
theorem entries_plain {q : Select} {m : Model} {xs : List Selected}
    {look : Entity → Except Error Model}
    (h : (Statement.select q : Statement e).Avoids look '\x60') (hm : look e = .ok m)
    (hxs : List.Forall₂ (Scope.Selects ⟨d, m, .of m q.source⟩ look) q.columns xs) :
    ∀ x ∈ xs, x.entry.Plain := by
  intro x hx
  obtain ⟨i, hi, hsel⟩ := exists_of_forall₂ hxs hx
  have hnames := names_of_avoids (d := d) h hm
  exact hsel.plain hnames.scope (hnames.items i hi) (hnames.labels i hi)

/-- **Without quotes in names, SELECTs with the same text have the same select list**: entry by
entry the same function, the same table and column and the same alias. Where different models stand
behind different names, they are the same fields. -/
theorem list_unambiguous (hg : g.Reachable) {p q : Select} {a b : Sql}
    (hp : ∀ i ∈ p.columns, i.raws = []) (hq : ∀ i ∈ q.columns, i.raws = [])
    (ha : ((p.build d e).run g).answer = .ok a) (hb : ((q.build d e).run g).answer = .ok b) :
    ∃ m xs ys, (g.model e).answer = .ok m ∧
      List.Forall₂ (Scope.Selects ⟨d, m, .of m p.source⟩ g.look) p.columns xs ∧
      List.Forall₂ (Scope.Selects ⟨d, m, .of m q.source⟩ g.look) q.columns ys ∧
      ((∀ x ∈ xs ++ ys, x.entry.Plain) → a.text = b.text →
        xs.map Selected.entry = ys.map Selected.entry ∧
          (Selected.Telling (xs ++ ys) → xs = ys)) := by
  rw [Consult.answer_run] at ha hb
  obtain ⟨m, hm, xs, hxs, rest, hatext⟩ := build_list hp ha
  obtain ⟨n, hn, ys, hys, rest', hbtext⟩ := build_list hq hb
  obtain rfl : m = n := Except.ok.inj (hm.symm.trans hn)
  have hmodel : (g.model e).answer = .ok m := (g.answer_model e).trans hm
  have hmapped : ∀ {source is zs}, List.Forall₂ (Scope.Selects ⟨d, m, .of m source⟩ g.look) is zs →
      ∀ z ∈ zs, z.Mapped := by
    intro source is zs h z hz
    obtain ⟨i, -, hi⟩ := exists_of_forall₂ h hz
    exact hi.mapped hg (hg.describes hmodel)
  refine ⟨m, xs, ys, hmodel, hxs, hys, ?_⟩
  intro hplain htext
  rw [← String.toList_inj, hatext, hbtext] at htext
  have hentries : xs.map Selected.entry = ys.map Selected.entry := by
    refine Entry.list_append_inj ?_ ?_ (List.append_cancel_left htext)
    · exact List.forall_mem_map.2 fun x hx => hplain x (List.mem_append_left _ hx)
    · exact List.forall_mem_map.2 fun y hy => hplain y (List.mem_append_right _ hy)
  exact ⟨hentries, fun ht => Selected.eq_of_entries (hmapped hxs) (hmapped hys) ht hentries⟩

end Select

namespace Sample

/-- The field of a person as a column. -/
def own (name : String) (label : Option String) : SelectItem := .column ⟨name, none, label, none⟩

/-- The number of a city as a column, with the table under another name. -/
def cityId (owner : Option String) : SelectItem := .column ⟨"id", some ⟨city, owner⟩, none, none⟩

/-- People and cities, with another select list than `directory`. -/
def listing (items : List SelectItem) : Select := { directory with columns := items }

/-- One column, under a name that looks like more of the list and of the statement. -/
def disguised : List SelectItem := [own "id" (some "a, COUNT(id) AS b FROM c;")]

/-- A column and an aggregate. -/
def undisguised : List SelectItem :=
  [own "id" (some "a"), .aggregate ⟨.count, ⟨"id", some ⟨city, none⟩, none, none⟩, some "b"⟩]

/-- A registry in which a column of people has a quote in its name. -/
def quotedColumn : Registry :=
  (Registry.empty.register person [.column "age" "person_id`,`nick"]).registry

/-- A registry in which the table of cities has one. -/
def quotedTable : Registry := (Registry.empty.register city [.table "c`.`id`,`c"]).registry

/-- The registry in which people and cities have the same column for their number. -/
def plainId : Registry := (Registry.empty.register person [.column "id" "id"]).registry

/-- What a SELECT of the items is written as. -/
def itemsText (g : Registry) (d : Dialect) (items : List SelectItem) : Option String :=
  (({ Select.everything with columns := items }.build d person).run g).answer.toOption.map Sql.text

end Sample

namespace Select

open Sample

/-- Select lists of different lengths, one with an alias that looks like the other. -/
theorem list_unambiguous_disguised : ∃ a b,
    (((listing disguised).build .sqlite person).run .empty).answer = .ok a ∧
      (((listing undisguised).build .sqlite person).run .empty).answer = .ok b ∧
        a.text ≠ b.text := by
  obtain ⟨a, ha, -⟩ : ∃ a, (((listing disguised).build .sqlite person).run .empty).answer = .ok a ∧
      a.args.length = 4 := Except.ok_of_map (by decide +kernel)
  obtain ⟨b, hb, -⟩ : ∃ b,
      (((listing undisguised).build .sqlite person).run .empty).answer = .ok b ∧
        b.args.length = 4 := Except.ok_of_map (by decide +kernel)
  obtain ⟨m, xs, ys, hm, hxs, hys, hunique⟩ :=
    list_unambiguous .empty (by decide +kernel) (by decide +kernel) ha hb
  have hlook : Registry.empty.look person = .ok m := (Registry.answer_model _ _).symm.trans hm
  have hplain : ∀ z ∈ xs ++ ys, z.entry.Plain := by
    intro z hz
    rcases List.mem_append.1 hz with hz | hz
    · exact entries_plain (by decide +kernel) hlook hxs z hz
    · exact entries_plain (by decide +kernel) hlook hys z hz
  refine ⟨a, b, ha, hb, ?_⟩
  intro htext
  have hlength := congrArg List.length (hunique hplain htext).1
  rw [List.length_map, List.length_map, ← hxs.length_eq, ← hys.length_eq] at hlength
  exact absurd hlength (by decide)

/-- **Quotes in names make select lists ambiguous.** An alias, a column or a table with a quote in
its name is written like two entries. Without quotes, tables may still go by the same name. -/
theorem list_ambiguous :
    (∀ d, itemsText .empty d [own "id" (some "a`,`person_id` AS `b")] =
        some "SELECT `person_id` AS `a`,`person_id` AS `b` FROM `person`;" ∧
      itemsText .empty d [own "id" (some "a"), own "id" (some "b")] =
        some "SELECT `person_id` AS `a`,`person_id` AS `b` FROM `person`;") ∧
    (∀ d, itemsText quotedColumn d [own "age" none] =
        some "SELECT `person_id`,`nick` FROM `person`;" ∧
      itemsText quotedColumn d [own "id" none, own "nick" none] =
        some "SELECT `person_id`,`nick` FROM `person`;") ∧
    (∀ d, itemsText quotedTable d [cityId none] = some "SELECT `c`.`id`,`c`.`id` FROM `person`;" ∧
      itemsText quotedTable d [cityId (some "c"), cityId (some "c")] =
        some "SELECT `c`.`id`,`c`.`id` FROM `person`;") ∧
    ∀ d, itemsText plainId d [cityId (some "c")] = some "SELECT `c`.`id` FROM `person`;" ∧
      itemsText plainId d [.column ⟨"id", some ⟨person, some "c"⟩, none, none⟩] =
        some "SELECT `c`.`id` FROM `person`;" := by
  refine ⟨?_, ?_, ?_, ?_⟩
  all_goals
    intro d
    cases d <;> decide +kernel

end Select

end RecordSql
