import RecordSql.Proofs.Mapping

/-!
# Tags and the columns they name

Which texts are tags, what the others fail with, and what a record type's model has from its tags.

* `Tag.split_eq`, `Tag.splits_iff`: every tag has its pieces, and no others.
* `Tag.write`: the text of entries.
* `Tag.Says`, `Tag.parse_ok`: the texts of entries are the tags that can be parsed.
* `Tag.Offends`, `Tag.parse_error`: the first piece that is no entry is the error.
* `Tag.LastValue`, `Tag.lookup?_iff`: a look-up finds what a key has last.
* `FieldSpec.Names`, `Model.columnOf_ok`: the column of a field by its tag.
* `Model.parse_by_tags`: **a model has the columns that its tags name, and the first malformed tag
  comes before every other error.**
-/

namespace RecordSql

/-! ## Pieces -/

namespace Tag

variable {sep : Char} {cs : List Char} {tag p : String} {ps : List String}

theorem split_eq (sep : Char) (cs : List Char) : split sep cs = cs.splitOn sep := by
  induction cs with
  | nil => rfl
  | cons c cs ih =>
    rw [split, ih, List.splitOn_cons_eq_if_modifyHead]
    -- a text has a first piece, so that the branch without pieces is not taken
    cases hps : cs.splitOn sep with
    | nil => exact absurd hps (List.splitOn_ne_nil sep cs)
    | cons p ps => simp only [beq_iff_eq, List.modifyHead_cons]

theorem not_mem_of_mem_split {p : List Char} (h : p ∈ split sep cs) : sep ∉ p := by
  induction cs generalizing p with
  | nil =>
    rw [List.mem_singleton.1 h]
    exact List.not_mem_nil
  | cons c cs ih =>
    rw [split] at h
    cases hps : split sep cs with
    | nil => exact absurd (split_eq sep cs ▸ hps) (List.splitOn_ne_nil sep cs)
    | cons q qs =>
      rw [hps] at h ih
      dsimp only at h
      split at h
      · rcases List.mem_cons.1 h with rfl | hp
        · exact List.not_mem_nil
        · exact ih hp
      · rename_i hne
        rcases List.mem_cons.1 h with rfl | hp
        · rw [List.mem_cons, not_or]
          exact ⟨fun heq => hne heq.symm, ih List.mem_cons_self⟩
        · exact ih (List.mem_cons_of_mem _ hp)

theorem length_split (sep : Char) (cs : List Char) :
    (split sep cs).length = cs.count sep + 1 := by
  induction cs with
  | nil => rfl
  | cons c cs ih =>
    rw [split_eq] at ih ⊢
    rw [List.splitOn_cons_eq_if_modifyHead, List.count_cons]
    split
    · rw [List.length_cons, ih]
    · rw [List.length_modifyHead, ih]

/-- `ps` are the pieces of the tag. -/
structure Splits (tag : String) (ps : List String) : Prop where
  whole : tag = ",".intercalate ps
  pieces : ∀ p ∈ ps, ',' ∉ p.toList
  /-- The empty tag has no piece, rather than an empty one. -/
  nonempty : ps ≠ [""]

/-- The pieces of a tag. -/
def pieces (tag : String) : List String :=
  if tag = "" then [] else (split ',' tag.toList).map String.ofList

theorem toList_intercalate_comma (ps : List String) :
    (",".intercalate ps).toList = [','].intercalate (ps.map String.toList) :=
  String.toList_intercalate

theorem split_intercalate (hne : ps ≠ []) (hcomma : ∀ p ∈ ps, ',' ∉ p.toList) :
    split ',' (",".intercalate ps).toList = ps.map String.toList := by
  rw [split_eq, toList_intercalate_comma]
  refine List.splitOn_intercalate ',' ?_ fun h => hne (List.map_eq_nil_iff.1 h)
  rintro q hq
  obtain ⟨p, hp, rfl⟩ := List.mem_map.1 hq
  exact hcomma p hp

theorem map_ofList_toList (ps : List String) : (ps.map String.toList).map String.ofList = ps := by
  rw [List.map_map]
  exact List.map_id'' (fun _ => String.ofList_toList) ps

theorem map_toList_ofList (ls : List (List Char)) :
    (ls.map String.ofList).map String.toList = ls := by
  rw [List.map_map]
  exact List.map_id'' (fun _ => String.toList_ofList) ls

theorem splits_pieces (tag : String) : Splits tag (pieces tag) := by
  unfold pieces
  split
  · rename_i h
    exact ⟨h, List.forall_mem_nil _, List.cons_ne_nil _ _ ∘ Eq.symm⟩
  · rename_i h
    have hwhole : tag = ",".intercalate ((split ',' tag.toList).map String.ofList) := by
      apply String.toList_injective
      rw [toList_intercalate_comma, map_toList_ofList, split_eq, List.intercalate_splitOn]
    refine ⟨hwhole, ?_, ?_⟩
    · intro p hp
      obtain ⟨q, hq, rfl⟩ := List.mem_map.1 hp
      rw [String.toList_ofList]
      exact not_mem_of_mem_split hq
    · intro hone
      rw [hone] at hwhole
      exact h hwhole

/-- **Every tag has its pieces, and no others.** -/
theorem splits_iff : Splits tag ps ↔ pieces tag = ps := by
  constructor
  · rintro ⟨rfl, hcomma, hone⟩
    by_cases hne : ps = []
    · rw [hne]
      rfl
    have hsplit := split_intercalate hne hcomma
    unfold pieces
    split
    · rename_i hempty
      rw [hempty] at hsplit
      exact absurd ((map_ofList_toList ps).symm.trans (congrArg _ hsplit.symm)) hone
    · rw [hsplit, map_ofList_toList]
  · rintro rfl
    exact splits_pieces tag

/-! ## Entries -/

/-- The piece of an entry. -/
def piece (kv : String × String) : String := kv.1 ++ "=" ++ kv.2

/-- The text of entries. -/
def write (kvs : List (String × String)) : String := ",".intercalate (kvs.map piece)

/-- A text that a key or a value may be. -/
def Plain (x : String) : Prop := ',' ∉ x.toList ∧ '=' ∉ x.toList

instance (x : String) : Decidable (Plain x) := inferInstanceAs (Decidable (_ ∧ _))

/-- The tag is the text of the entries. -/
structure Says (tag : String) (kvs : List (String × String)) : Prop where
  written : tag = write kvs
  plain : ∀ kv ∈ kvs, Plain kv.1 ∧ Plain kv.2

/-- A piece with exactly one `=`. -/
def Wellformed (p : String) : Prop := p.toList.count '=' = 1

instance (p : String) : Decidable (Wellformed p) := inferInstanceAs (Decidable (_ = _))

/-- `p` is the first malformed piece of the tag. -/
def Offends (tag p : String) : Prop :=
  ∃ first rest, Splits tag (first ++ p :: rest) ∧ (∀ q ∈ first, Wellformed q) ∧ ¬ Wellformed p

variable {kv : String × String} {kvs : List (String × String)}

theorem toList_piece (kv : String × String) :
    (piece kv).toList = kv.1.toList ++ '=' :: kv.2.toList := by
  unfold piece
  rw [String.toList_append, String.toList_append, List.append_assoc]
  rfl

theorem parsePiece_ok : parsePiece p.toList = .ok kv ↔
    p = piece kv ∧ '=' ∉ kv.1.toList ∧ '=' ∉ kv.2.toList := by
  constructor
  · intro h
    unfold parsePiece at h
    split at h
    · rename_i k v hsplit
      cases h
      have hmem : ∀ q ∈ [k, v], '=' ∉ q := fun q hq => not_mem_of_mem_split (hsplit ▸ hq)
      rw [String.toList_ofList, String.toList_ofList]
      refine ⟨?_, hmem k List.mem_cons_self, hmem v (List.mem_cons_of_mem _ List.mem_cons_self)⟩
      apply String.toList_injective
      have hwhole : ['='].intercalate (p.toList.splitOn '=') = p.toList :=
        List.intercalate_splitOn '='
      rw [← split_eq, hsplit] at hwhole
      rw [toList_piece, String.toList_ofList, String.toList_ofList, ← hwhole,
        List.intercalate_cons_cons, List.intercalate_singleton, List.append_assoc]
      rfl
    · cases h
  · rintro ⟨rfl, hk, hv⟩
    unfold parsePiece
    rw [toList_piece, split_eq, List.splitOn_append_cons_self, List.splitOn_eq_singleton hk,
      List.splitOn_eq_singleton hv]
    dsimp only [List.singleton_append]
    rw [String.ofList_toList, String.ofList_toList]

/-- A piece is an entry, or it is malformed. -/
theorem parsePiece_cases (p : String) :
    Wellformed p ∧ (∃ kv, parsePiece p.toList = .ok kv) ∨
      ¬ Wellformed p ∧ parsePiece p.toList = .error (.malformedTag p) := by
  -- a key and a value are two pieces, and those are one more than their separators
  have hlen := length_split '=' p.toList
  unfold Wellformed parsePiece
  split
  · rename_i k v hsplit
    rw [hsplit] at hlen
    exact .inl ⟨(Nat.succ.inj hlen).symm, _, rfl⟩
  · rename_i hno
    refine .inr ⟨?_, by rw [String.ofList_toList]⟩
    intro hcount
    rw [hcount] at hlen
    obtain ⟨k, v, hsplit⟩ := List.length_eq_two.1 hlen
    exact hno k v hsplit

theorem parsePieces_eq (ps : List (List Char)) : parsePieces ps = ps.mapM parsePiece := by
  induction ps with
  | nil => rfl
  | cons p ps ih =>
    rw [parsePieces, List.mapM_cons, ih]
    cases parsePiece p with
    | error err => rfl
    | ok kv => cases ps.mapM parsePiece <;> rfl

theorem parse_eq (tag : String) :
    parse tag = (pieces tag).mapM fun p => parsePiece p.toList := by
  unfold parse pieces
  split
  · rename_i h
    rw [if_pos (String.toList_eq_nil_iff.1 (List.isEmpty_iff.1 h))]
    rfl
  · rename_i h
    have hmap := List.mapM_map (f := String.ofList) (g := fun p => parsePiece p.toList)
      (l := split ',' tag.toList)
    rw [if_neg fun he => h (List.isEmpty_iff.2 (String.toList_eq_nil_iff.2 he)), parsePieces_eq,
      hmap]
    congr 1
    funext cs
    exact congrArg parsePiece String.toList_ofList.symm

theorem entries_iff : List.Forall₂ (fun p kv => parsePiece p.toList = .ok kv) ps kvs ↔
    ps = kvs.map piece ∧ ∀ kv ∈ kvs, '=' ∉ kv.1.toList ∧ '=' ∉ kv.2.toList := by
  simp only [parsePiece_ok]
  induction kvs generalizing ps with
  | nil =>
    rw [List.forall₂_nil_right_iff]
    exact ⟨fun h => ⟨h, List.forall_mem_nil _⟩, And.left⟩
  | cons kv kvs ih =>
    simp only [List.forall₂_cons_right_iff, ih, List.forall_mem_cons, List.map_cons]
    constructor
    · rintro ⟨p, qs, ⟨rfl, hkv⟩, ⟨rfl, hkvs⟩, rfl⟩
      exact ⟨rfl, hkv, hkvs⟩
    · rintro ⟨rfl, hkv, hkvs⟩
      exact ⟨_, _, ⟨rfl, hkv⟩, ⟨rfl, hkvs⟩, rfl⟩

theorem comma_not_mem_piece :
    ',' ∉ (piece kv).toList ↔ ',' ∉ kv.1.toList ∧ ',' ∉ kv.2.toList := by
  rw [toList_piece, List.mem_append, List.mem_cons, not_or, not_or]
  exact ⟨fun ⟨hk, _, hv⟩ => ⟨hk, hv⟩, fun ⟨hk, hv⟩ => ⟨hk, by decide, hv⟩⟩

theorem map_piece_ne (kvs : List (String × String)) : kvs.map piece ≠ [""] := by
  intro h
  obtain ⟨kv, -, hkv⟩ := List.mem_map.1 (h ▸ List.mem_singleton_self "")
  have hmem : '=' ∈ (piece kv).toList := by
    rw [toList_piece]
    exact List.mem_append_right _ List.mem_cons_self
  rw [hkv] at hmem
  cases hmem

/-- **A tag has entries if it is their text.** -/
theorem parse_ok : parse tag = .ok kvs ↔ Says tag kvs := by
  rw [parse_eq, Except.mapM_ok, entries_iff]
  constructor
  · rintro ⟨hpieces, hkvs⟩
    obtain ⟨hwhole, hcomma, -⟩ := splits_iff.2 hpieces
    refine ⟨hwhole, fun kv hkv => ?_⟩
    obtain ⟨hk, hv⟩ := comma_not_mem_piece.1 (hcomma _ (List.mem_map.2 ⟨kv, hkv, rfl⟩))
    exact ⟨⟨hk, (hkvs kv hkv).1⟩, ⟨hv, (hkvs kv hkv).2⟩⟩
  · rintro ⟨hwritten, hplain⟩
    refine ⟨splits_iff.1 ⟨hwritten, ?_, map_piece_ne kvs⟩, fun kv hkv => ?_⟩
    · intro p hp
      obtain ⟨kv, hkv, rfl⟩ := List.mem_map.1 hp
      exact comma_not_mem_piece.2 ⟨(hplain kv hkv).1.1, (hplain kv hkv).2.1⟩
    · exact ⟨(hplain kv hkv).1.2, (hplain kv hkv).2.2⟩

theorem wellformed_iff : Wellformed p ↔ ∃ kv, parsePiece p.toList = .ok kv := by
  rcases parsePiece_cases p with ⟨hp, hkv⟩ | ⟨hp, herr⟩
  · exact iff_of_true hp hkv
  · refine iff_of_false hp ?_
    rintro ⟨kv, hkv⟩
    rw [herr] at hkv
    cases hkv

/-- **A tag that is no text of entries fails with its first malformed piece.** -/
theorem parse_error {err : Error} :
    parse tag = .error err ↔ ∃ p, Offends tag p ∧ err = .malformedTag p := by
  rw [parse_eq]
  constructor
  · intro h
    obtain ⟨first, p, rest, hpieces, hfirst, hp⟩ := Except.mapM_error h
    rcases parsePiece_cases p with ⟨-, kv, hkv⟩ | ⟨hbad, herr⟩
    · rw [hkv] at hp
      cases hp
    · rw [herr] at hp
      cases hp
      exact ⟨p, ⟨first, rest, splits_iff.2 hpieces, fun q hq => wellformed_iff.2 (hfirst q hq),
        hbad⟩, rfl⟩
  · rintro ⟨p, ⟨first, rest, hsplits, hfirst, hbad⟩, rfl⟩
    rw [splits_iff.1 hsplits]
    rcases parsePiece_cases p with ⟨hp, -⟩ | ⟨-, herr⟩
    · exact absurd hp hbad
    · exact Except.mapM_of_error (fun q hq => wellformed_iff.1 (hfirst q hq)) herr

theorem parse_empty : parse "" = .ok [] := rfl

/-- **A text that is not empty is a tag if each of its pieces has one `=`.** -/
theorem parses_iff : (∃ kvs, parse tag = .ok kvs) ↔
    tag = "" ∨ ∃ ps, ps ≠ [] ∧ Splits tag ps ∧ ∀ p ∈ ps, Wellformed p := by
  constructor
  · rintro ⟨kvs, hkvs⟩
    rcases forall_or_first Wellformed (pieces tag) with hall | ⟨first, p, rest, hps, hfirst, hp⟩
    · have hsplits := splits_pieces tag
      by_cases hnone : pieces tag = []
      · rw [hnone] at hsplits
        exact .inl hsplits.whole
      · exact .inr ⟨_, hnone, hsplits, hall⟩
    · have herr := parse_error.2 ⟨p, ⟨first, rest, splits_iff.2 hps, hfirst, hp⟩, rfl⟩
      rw [hkvs] at herr
      cases herr
  · rintro (rfl | ⟨ps, -, hps, hall⟩)
    · exact ⟨[], parse_empty⟩
    cases h : parse tag with
    | ok kvs => exact ⟨kvs, rfl⟩
    | error err =>
      obtain ⟨p, ⟨first, rest, hsplits, -, hp⟩, -⟩ := parse_error.1 h
      rw [← splits_iff.1 hps, splits_iff.1 hsplits] at hall
      exact absurd (hall p (List.mem_append_right _ List.mem_cons_self)) hp

/-- The last value for `k` is `v`. -/
def LastValue (kvs : List (String × String)) (k v : String) : Prop :=
  ∃ first rest, kvs = first ++ (k, v) :: rest ∧ ∀ kv ∈ rest, kv.1 ≠ k

theorem lookup?_iff {k v : String} : lookup? k kvs = some v ↔ LastValue kvs k v := by
  unfold lookup? LastValue
  rw [List.lookup_eq_some_iff]
  constructor
  · rintro ⟨l₁, l₂, hl, hne⟩
    refine ⟨l₂.reverse, l₁.reverse, ?_, fun kv hkv => ?_⟩
    · rw [← List.reverse_reverse kvs, hl]
      simp
    · exact (bne_iff_ne.1 (hne kv (List.mem_reverse.1 hkv))).symm
  · rintro ⟨first, rest, rfl, hne⟩
    refine ⟨rest.reverse, first.reverse, by simp, fun kv hkv => ?_⟩
    exact bne_iff_ne.2 (hne kv (List.mem_reverse.1 hkv)).symm

end Tag

/-! ## Columns -/

open Tag (Says Offends LastValue)

/-- `c` is the column of a declared field by its tag. No other key counts. -/
inductive FieldSpec.Names (f : FieldSpec) : String → Prop where
  | given {kvs : List (String × String)} {c : String} (h : Says f.tag kvs)
    (last : LastValue kvs "column" c) (nonempty : c ≠ "") : f.Names c
  | derived {kvs : List (String × String)} (h : Says f.tag kvs)
    (last : ∀ c, LastValue kvs "column" c → c = "") : f.Names (underscore f.name)

theorem NameIndex.build_ok_iff {key : Field → String} {fs : List Field} :
    (∃ ix, build key [] fs = .ok ix) ↔ (fs.map key).Nodup := by
  cases h : build key [] fs with
  | ok ix =>
    obtain ⟨rfl, hnodup⟩ := build_ok h List.nodup_nil
    rw [List.nil_append, List.map_map] at hnodup
    exact iff_of_true ⟨_, rfl⟩ hnodup
  | error name =>
    obtain ⟨first, f, rest, rfl, -, -, hmem⟩ := build_error h List.nodup_nil
    refine iff_of_false (fun ⟨ix, hix⟩ => nomatch hix) ?_
    rw [List.map_append, List.map_cons]
    intro hnodup
    exact (List.nodup_append.1 hnodup).2.2 _ hmem _ List.mem_cons_self rfl

namespace Model

variable {f : FieldSpec} {e : Entity} {c p : String} {cs : List String} {err : Error}

/-- The column that the entries of its tag give a field. -/
def columnFrom (f : FieldSpec) (kvs : List (String × String)) : String :=
  match Tag.lookup? "column" kvs with
  | some c => if c.isEmpty then underscore f.name else c
  | none => underscore f.name

theorem columnOf_eq (f : FieldSpec) : columnOf f = (Tag.parse f.tag).map (columnFrom f) := by
  unfold columnOf columnFrom
  cases Tag.parse f.tag with
  | error err => rfl
  | ok kvs => cases hlook : Tag.lookup? "column" kvs <;> simp [Except.map, hlook]

theorem columnFrom_of_last {kvs : List (String × String)} (h : LastValue kvs "column" c)
    (hne : c ≠ "") : columnFrom f kvs = c := by
  unfold columnFrom
  rw [Tag.lookup?_iff.2 h]
  exact if_neg fun he => hne (String.isEmpty_iff.1 he)

theorem columnFrom_of_empty {kvs : List (String × String)}
    (h : ∀ c, LastValue kvs "column" c → c = "") : columnFrom f kvs = underscore f.name := by
  unfold columnFrom
  split
  · rename_i c hlook
    exact if_pos (String.isEmpty_iff.2 (h c (Tag.lookup?_iff.1 hlook)))
  · rfl

theorem names_columnFrom {kvs : List (String × String)} (h : Says f.tag kvs) :
    f.Names (columnFrom f kvs) := by
  by_cases hgiven : ∃ c, LastValue kvs "column" c ∧ c ≠ ""
  · obtain ⟨c, hlast, hne⟩ := hgiven
    rw [columnFrom_of_last hlast hne]
    exact .given h hlast hne
  · have hempty : ∀ c, LastValue kvs "column" c → c = "" := fun c hlast =>
      Classical.not_not.1 fun hne => hgiven ⟨c, hlast, hne⟩
    rw [columnFrom_of_empty hempty]
    exact .derived h hempty

/-- **A field has the column that its tag names.** -/
theorem columnOf_ok : columnOf f = .ok c ↔ f.Names c := by
  rw [columnOf_eq]
  constructor
  · intro h
    cases hparse : Tag.parse f.tag with
    | error err =>
      rw [hparse] at h
      cases h
    | ok kvs =>
      rw [hparse] at h
      cases h
      exact names_columnFrom (Tag.parse_ok.1 hparse)
  · rintro (⟨hentries, hlast, hne⟩ | ⟨hentries, hempty⟩)
    · rw [Tag.parse_ok.2 hentries, Except.map, columnFrom_of_last hlast hne]
    · rw [Tag.parse_ok.2 hentries, Except.map, columnFrom_of_empty hempty]

theorem columnOf_error :
    columnOf f = .error err ↔ ∃ p, Offends f.tag p ∧ err = .malformedTag p := by
  rw [← Tag.parse_error, columnOf_eq]
  cases Tag.parse f.tag with
  | error err' => simp [Except.map]
  | ok kvs => simp [Except.map]

theorem exists_columnOf_iff : (∃ c, columnOf f = .ok c) ↔ ∃ kvs, Says f.tag kvs := by
  simp only [← Tag.parse_ok, columnOf_eq]
  cases Tag.parse f.tag with
  | error err => simp [Except.map]
  | ok kvs => simp [Except.map]

theorem parseFields_columns (i : ℕ) (ds : List (Descriptor e)) :
    (parseFields i ds).map (fun p => p.fields.map Field.column) =
      (ds.map Descriptor.spec).mapM columnOf := by
  induction ds generalizing i with
  | nil => rfl
  | cons d ds ih =>
    rw [parseFields, List.map_cons, List.mapM_cons, ← ih (i + 1)]
    cases columnOf d.spec with
    | error err => rfl
    | ok c => cases parseFields (i + 1) ds <;> rfl

theorem parseFields_names {i : ℕ} {ds : List (Descriptor e)} {p : Parsed e}
    (h : parseFields i ds = .ok p) :
    p.fields.map Field.name = (ds.map Descriptor.spec).map FieldSpec.name := by
  induction ds generalizing i p with
  | nil =>
    cases h
    rfl
  | cons d ds ih =>
    obtain ⟨c, q, -, hrest, rfl⟩ := parseFields_cons.1 h
    exact congrArg _ (ih hrest)

theorem indexColumns_ok_iff {m : Model} {fs : List Field} :
    (∃ n, m.indexColumns = .ok n ∧ n.fields = fs) ↔
      m.fields = fs ∧ (fs.map Field.column).Nodup := by
  unfold indexColumns
  rw [← NameIndex.build_ok_iff]
  cases hix : NameIndex.build Field.column [] m.fields with
  | error c =>
    refine iff_of_false (fun ⟨_, h, _⟩ => nomatch h) ?_
    rintro ⟨rfl, ix, h⟩
    rw [hix] at h
    cases h
  | ok ix =>
    constructor
    · rintro ⟨n, h, rfl⟩
      cases h
      exact ⟨rfl, ix, hix⟩
    · rintro ⟨rfl, -⟩
      exact ⟨_, rfl, rfl⟩

/-- The fields that a record type describes, if they can be told apart, are those of its model. -/
theorem parse_fields_iff (hshape : e.shape = .named) {fs : List Field} :
    (∃ m, parse e = .ok m ∧ m.fields = fs) ↔
      (parseFields 0 e.describe).map Parsed.fields = .ok fs ∧
        (fs.map Field.name).Nodup ∧ (fs.map Field.column).Nodup := by
  unfold parse
  rw [if_neg (not_not_intro hshape)]
  cases hp : parseFields 0 e.describe with
  | error err => simp [Except.map]
  | ok p =>
    dsimp only [Except.map]
    cases hix : NameIndex.build Field.name [] p.fields with
    | error name =>
      refine iff_of_false (fun ⟨_, h, _⟩ => nomatch h) ?_
      rintro ⟨h, hnames, -⟩
      cases h
      obtain ⟨ix, hok⟩ := NameIndex.build_ok_iff.2 hnames
      rw [hix] at hok
      cases hok
    | ok ix =>
      dsimp only
      rw [indexColumns_ok_iff]
      have hnames := NameIndex.build_ok_iff.1 ⟨ix, hix⟩
      constructor
      · rintro ⟨rfl, hcolumns⟩
        exact ⟨rfl, hnames, hcolumns⟩
      · rintro ⟨h, -, hcolumns⟩
        exact ⟨Except.ok.inj h, hcolumns⟩

theorem parse_columns_iff (hshape : e.shape = .named) :
    (∃ m, parse e = .ok m ∧ m.fields.map Field.column = cs) ↔
      List.Forall₂ FieldSpec.Names e.fields cs ∧ (e.fields.map FieldSpec.name).Nodup ∧
        cs.Nodup := by
  have hcolumns : List.Forall₂ FieldSpec.Names e.fields cs ↔
      (parseFields 0 e.describe).map (fun p => p.fields.map Field.column) = .ok cs := by
    simp only [parseFields_columns, Entity.map_spec_describe, Except.mapM_ok, columnOf_ok]
  rw [hcolumns]
  cases hp : parseFields 0 e.describe with
  | error err =>
    refine iff_of_false ?_ (fun ⟨h, _⟩ => nomatch h)
    rintro ⟨m, hm, -⟩
    have hfields := ((parse_fields_iff hshape).1 ⟨m, hm, rfl⟩).1
    rw [hp] at hfields
    cases hfields
  | ok p =>
    have hnames := parseFields_names hp
    rw [Entity.map_spec_describe] at hnames
    have hmapped : (parseFields 0 e.describe).map Parsed.fields = .ok p.fields := by
      rw [hp]
      rfl
    constructor
    · rintro ⟨m, hm, rfl⟩
      obtain ⟨hfields, hdistinct, hnodup⟩ := (parse_fields_iff hshape).1 ⟨m, hm, rfl⟩
      rw [← Except.ok.inj (hmapped.symm.trans hfields)] at hdistinct hnodup ⊢
      exact ⟨rfl, hnames ▸ hdistinct, hnodup⟩
    · rintro ⟨hcs, hdistinct, hnodup⟩
      cases hcs
      rw [← hnames] at hdistinct
      obtain ⟨m, hm, hfields⟩ := (parse_fields_iff hshape).2 ⟨hmapped, hdistinct, hnodup⟩
      exact ⟨m, hm, congrArg _ hfields⟩

/-- A malformed tag is found before fields are compared with each other. -/
theorem parse_malformed_iff (hshape : e.shape = .named) :
    parse e = .error (.malformedTag p) ↔ e.fields.mapM columnOf = .error (.malformedTag p) := by
  unfold parse indexColumns
  rw [if_neg (not_not_intro hshape), ← e.map_spec_describe, ← parseFields_columns 0]
  cases hfs : parseFields 0 e.describe with
  | error err => simp [Except.map]
  | ok q =>
    dsimp only [Except.map]
    refine iff_of_false ?_ nofun
    split
    · nofun
    · split <;> nofun

/-- The first field whose tag is no text of entries. -/
theorem parse_offends_iff (hshape : e.shape = .named) :
    parse e = .error (.malformedTag p) ↔ ∃ first f rest, e.fields = first ++ f :: rest ∧
      (∀ g ∈ first, ∃ kvs, Says g.tag kvs) ∧ Offends f.tag p := by
  rw [parse_malformed_iff hshape]
  constructor
  · intro h
    obtain ⟨first, f, rest, hfields, hfirst, hf⟩ := Except.mapM_error h
    obtain ⟨q, hq, heq⟩ := columnOf_error.1 hf
    cases heq
    exact ⟨first, f, rest, hfields, fun g hg => exists_columnOf_iff.1 (hfirst g hg), hq⟩
  · rintro ⟨first, f, rest, hfields, hfirst, hf⟩
    rw [hfields]
    exact Except.mapM_of_error (fun g hg => exists_columnOf_iff.2 (hfirst g hg))
      (columnOf_error.2 ⟨p, hf, rfl⟩)

/-- **Tags are what their grammar says, and a model has from them what they say.** A text that is
not empty is a tag if each of its pieces has one `=`, and then it is the text of its entries, of
which the last one for a key counts; otherwise its first malformed piece is the error. The first
field with such a tag fails the model, whatever names and columns are there twice. The columns of a
model are those that the tags of its fields name. -/
theorem parse_by_tags (e : Entity) (hshape : e.shape = .named) :
    (∀ tag, ((∃ kvs, Tag.parse tag = .ok kvs) ↔
        tag = "" ∨ ∃ ps, ps ≠ [] ∧ Tag.Splits tag ps ∧ ∀ p ∈ ps, Tag.Wellformed p) ∧
      (∀ kvs, Tag.parse tag = .ok kvs ↔ Says tag kvs) ∧
      ∀ err, Tag.parse tag = .error err ↔ ∃ p, Offends tag p ∧ err = .malformedTag p) ∧
    (∀ kvs k v, Tag.lookup? k kvs = some v ↔ LastValue kvs k v) ∧
    (∀ p, parse e = .error (.malformedTag p) ↔ ∃ first f rest, e.fields = first ++ f :: rest ∧
      (∀ g ∈ first, ∃ kvs, Says g.tag kvs) ∧ Offends f.tag p) ∧
    ∀ cs, (∃ m, parse e = .ok m ∧ m.fields.map Field.column = cs) ↔
      List.Forall₂ FieldSpec.Names e.fields cs ∧ (e.fields.map FieldSpec.name).Nodup ∧
        cs.Nodup := by
  refine ⟨fun tag => ?_, ?_, ?_, ?_⟩
  · exact ⟨Tag.parses_iff, fun kvs => Tag.parse_ok, fun err => Tag.parse_error⟩
  · exact fun kvs k v => Tag.lookup?_iff
  · exact fun p => parse_offends_iff hshape
  · exact fun cs => parse_columns_iff hshape

end Model

namespace Sample

/-- A record type with a name and a column twice, and with a comma too many behind them. -/
def spoilt : Entity :=
  ⟨"sample::Spoilt", "Spoilt", "", .named,
    [⟨"id", .int .i64, "column=x,column=", .plain⟩, ⟨"id", .int .i64, "=,column=id", .plain⟩,
      ⟨"nick", .text, "column=y,", .plain⟩, ⟨"age", .int .u8, "a=b=c", .plain⟩],
    .map⟩

/-- A record type whose tags say more than they need. -/
def verbose : Entity :=
  ⟨"sample::Verbose", "Verbose", "", .named,
    [⟨"nickName", .text, "size=1,column=nick,=,column=", .plain⟩,
      ⟨"id", .int .i64, "column=a,column=b", .plain⟩],
    .map⟩

end Sample

open Sample (spoilt verbose)

theorem Model.parse_by_tags_samples :
    (spoilt.shape = .named ∧ parse spoilt = .error (.malformedTag "")) ∧
      verbose.shape = .named ∧
        ∃ m, parse verbose = .ok m ∧ m.fields.map Field.column = ["nick_name", "b"] := by
  refine ⟨⟨rfl, ?_⟩, rfl, ?_⟩
  · have hid : Says "column=x,column=" [("column", "x"), ("column", "")] :=
      ⟨by decide, by decide⟩
    have hagain : Says "=,column=id" [("", ""), ("column", "id")] := ⟨by decide, by decide⟩
    have hnick : Offends "column=y," "" :=
      ⟨["column=y"], [], ⟨by decide, by decide, by decide⟩, by decide, by decide⟩
    refine ((parse_by_tags spoilt rfl).2.2.1 "").2 ⟨spoilt.fields.take 2, spoilt.fields[2],
      spoilt.fields.drop 3, rfl, ?_, hnick⟩
    exact List.forall_mem_cons.2 ⟨⟨_, hid⟩, List.forall_mem_singleton.2 ⟨_, hagain⟩⟩
  · have hnick : Says "size=1,column=nick,=,column="
        [("size", "1"), ("column", "nick"), ("", ""), ("column", "")] := ⟨by decide, by decide⟩
    have hid : Says "column=a,column=b" [("column", "a"), ("column", "b")] :=
      ⟨by decide, by decide⟩
    refine ((parse_by_tags verbose rfl).2.2.2 _).2 ⟨?_, by decide, by decide⟩
    refine .cons (.derived hnick ?_) (.cons (.given hid ?_ (by decide)) .nil)
    · intro c hc
      have hlook := Tag.lookup?_iff.2 hc
      exact (Option.some.inj hlook).symm
    · exact Tag.lookup?_iff.1 rfl

end RecordSql
