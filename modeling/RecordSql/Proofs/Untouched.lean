import RecordSql.Proofs.Filling

/-!
# What filling a record leaves alone

A row fills the fields of its columns. The others keep their values, with one exception: through the
serialized form, JSON's null in a field that may be absent becomes an absence.

* `Storage.NullDocument`: the exception.
* `Storage.decode_encode_value`: what a field holds has the same value after a detour through its
  member, but for the exception.
* `Record.ofMembers_ok`: a record that has been read has every field from its member.
* `Direct.assign_frame`, `Members.lookup_inserts`: what is not written stays as it was.
* `Accessor.populate_frame`: **the fields without a column keep their values, but for the
  exception.**
-/

namespace RecordSql

/-! ## Through the member and back -/

namespace Storage

/-- What the field holds is JSON's null, although it may be absent. -/
def NullDocument (s : Storage) (x : s.Carrier) : Prop := s ≠ .json ∧ s.toValue x = .json .null

instance (s : Storage) (x : s.Carrier) : Decidable (s.NullDocument x) :=
  inferInstanceAs (Decidable (_ ∧ _))

/-- The value of what a field holds after a detour through its member. -/
def rereadValue (s : Storage) (x : s.Carrier) : Value :=
  if s.NullDocument x then .null else s.toValue x

theorem rereadValue_eq {s : Storage} {x : s.Carrier} (h : ¬ s.NullDocument x) :
    s.rereadValue x = s.toValue x := if_neg h

/-- Both nulls come back as absence, but in a JSON field. -/
theorem rereadValue_null {s : Storage} {x : s.Carrier} (hs : s ≠ .json)
    (h : s.toValue x = .null ∨ s.toValue x = .json .null) : s.rereadValue x = .null := by
  rcases h with h | h
  · rw [rereadValue_eq fun hd => (by rw [hd.2] at h; cases h), h]
  · exact if_pos ⟨hs, h⟩

/-- The member of what a field holds is that of its value. -/
theorem encode_eq_toMember (s : Storage) (x : s.Carrier) : s.encode x = (s.toValue x).toMember := by
  induction s with
  | optional s ih =>
    match (x : Option s.Carrier) with
    | none => rfl
    | some x => exact ih x
  | _ => rfl

/-- Only an option holds JSON's null without being a JSON field. -/
theorem not_nullDocument {s : Storage} (hs : ∀ t, s ≠ .optional t) (x : s.Carrier) :
    ¬ s.NullDocument x := by
  rintro ⟨hjson, hvalue⟩
  cases s with
  | json => exact hjson rfl
  | optional t => exact hs t rfl
  | _ => cases hvalue

/-- **What a field holds has the same value after a detour through its member**, but for JSON's null
in a field that may be absent. -/
theorem decode_encode_value (s : Storage) (x : s.Carrier) :
    ∃ y, s.decode (s.encode x) = .ok y ∧ s.toValue y = s.rereadValue x := by
  induction s with
  | optional s ih =>
    match (x : Option s.Carrier) with
    | none => exact ⟨(none : Option s.Carrier), rfl, rfl⟩
    | some x =>
      let z : s.optional.Carrier := (some x : Option s.Carrier)
      have hz : s.optional.toValue z = s.toValue x := rfl
      by_cases hmember : s.encode x = .null
      · -- the member of both nulls is the same, and it reads as absence
        have hnull : s.optional.decode (s.encode x) = .ok (none : Option s.Carrier) := by
          rw [hmember]
          rfl
        rw [encode_eq_toMember] at hmember
        have hvalue : s.optional.rereadValue z = .null :=
          rereadValue_null nofun (hz ▸ Value.toMember_eq_null hmember)
        exact ⟨(none : Option s.Carrier), hnull, hvalue.symm⟩
      · obtain ⟨y, hy, hvalue⟩ := ih x
        have hdocument : s.toValue x ≠ .json .null := by
          intro h
          exact hmember (by rw [encode_eq_toMember, h]; rfl)
        have hsome : s.optional.decode (s.encode x) = .ok (some y : Option s.Carrier) := by
          show (s.encode x).toOption s.decode = .ok (some y)
          rw [Member.toOption_of_ne hmember, hy]
          rfl
        refine ⟨(some y : Option s.Carrier), hsome, ?_⟩
        have hkeep : s.optional.rereadValue z = s.optional.toValue z :=
          rereadValue_eq fun h => hdocument (hz ▸ h.2)
        calc s.toValue y = s.rereadValue x := hvalue
          _ = s.toValue x := rereadValue_eq fun h => hdocument h.2
          _ = s.optional.rereadValue z := hkeep.symm
  | _ =>
    have hplain := not_nullDocument (fun t ht => by cases ht) x
    exact ⟨x, decode_encode (fun t ht => by cases ht) x, (rereadValue_eq hplain).symm⟩

end Storage

/-! ## Through the serialized form -/

variable {e : Entity} {m : Model}

namespace Record

/-- JSON's null is in the `i`-th field, although it may be absent. -/
def NullDocument (r : Record e) (i : Fin e.fields.length) : Prop :=
  (e.storage i).NullDocument (r i)

instance (r : Record e) (i : Fin e.fields.length) : Decidable (r.NullDocument i) :=
  inferInstanceAs (Decidable ((e.storage i).NullDocument (r i)))

/-- Fields that are read are what their members stand for, and the others are as before. -/
theorem readMembers_ok (hp : e.Plain) (hd : e.Distinct) {ms : Members}
    {is : List (Fin e.fields.length)} {r s : Record e} (h : readMembers ms is r = .ok s)
    (i : Fin e.fields.length) :
    (i ∉ is → s i = r i) ∧
      (i ∈ is → ∀ n, ms.lookup (e.fieldName i) = some n → (e.storage i).decode n = .ok (s i)) := by
  induction is generalizing r with
  | nil =>
    cases h
    exact ⟨fun _ => rfl, fun hi => nomatch hi⟩
  | cons j is ih =>
    have hname : (e.fields.get j).memberName = e.fieldName j :=
      (hp.member _ (List.get_mem e.fields j)).1
    rw [readMembers] at h
    simp only [hname, hp.memberField hd j, if_true] at h
    cases hlookup : ms.lookup (e.fieldName j) with
    | none =>
      rw [hlookup] at h
      obtain ⟨hkeep, hread⟩ := ih h
      refine ⟨fun hi => hkeep fun hmem => hi (List.mem_cons_of_mem _ hmem), ?_⟩
      intro hi n hn
      rcases List.mem_cons.1 hi with rfl | hi
      · rw [hlookup] at hn
        cases hn
      · exact hread hi n hn
    | some n =>
      rw [hlookup] at h
      cases hdecode : (e.storage j).decode n with
      | error err =>
        simp only [hdecode] at h
        cases h
      | ok x =>
        simp only [hdecode] at h
        obtain ⟨hkeep, hread⟩ := ih h
        constructor
        · intro hi
          rw [List.mem_cons, not_or] at hi
          rw [hkeep hi.2, put_of_ne _ (Ne.symm hi.1)]
        · intro hi k hk
          -- a field that is read again is read from the same member
          by_cases hmem : i ∈ is
          · exact hread hmem k hk
          · obtain rfl : i = j := (List.mem_cons.1 hi).resolve_right hmem
            rw [hlookup] at hk
            cases hk
            rw [hkeep hmem, put_self, hdecode]

/-- **A record that has been read has every field from its member.** -/
theorem ofMembers_ok (hp : e.Plain) (hd : e.Distinct) {ms : Members} {s : Record e}
    (h : ofMembers ms = .ok s) {i : Fin e.fields.length} {n : Member}
    (hn : ms.lookup (e.fieldName i) = some n) : (e.storage i).decode n = .ok (s i) :=
  (readMembers_ok hp hd h i).2 (List.mem_finRange i) n hn

end Record

/-- Members under other names are as before. -/
theorem Members.lookup_inserts {k : String} {fs : List Field} (hk : ∀ f ∈ fs, f.name ≠ k)
    (vs : List Value) (ms : Members) :
    ((fs.zip vs).foldl (fun ms (f, v) => ms.insert f.name v.toMember) ms).lookup k =
      ms.lookup k := by
  induction fs generalizing vs ms with
  | nil => rfl
  | cons f fs ih =>
    cases vs with
    | nil => rfl
    | cons v vs =>
      rw [List.zip_cons_cons, List.foldl_cons, ih (fun g hg => hk g (List.mem_cons_of_mem _ hg)),
        lookup_insert, if_neg (Ne.symm (hk f List.mem_cons_self))]

/-- Fields at other places are as before. -/
theorem Direct.assign_frame {ps : List (Field × Fin e.fields.length)} {i : Fin e.fields.length}
    (hi : ∀ p ∈ ps, p.2 ≠ i) (vs : List Value) (r : Record e) :
    (assign r (ps.zipWith write vs)).record i = r i := by
  induction ps generalizing vs r with
  | nil => rfl
  | cons p ps ih =>
    cases vs with
    | nil => rfl
    | cons v vs =>
      rw [List.zipWith_cons_cons]
      cases hx : (e.storage p.2).ofValue v with
      | error err =>
        have hset : (e.descriptor p.2).set r v = .error err := by
          show ((e.storage p.2).ofValue v).map (r.put p.2) = _
          rw [hx]
          rfl
        simp only [write, assign, hset]
      | ok x =>
        rw [assign_write hx, ih fun q hq => hi q (List.mem_cons_of_mem _ hq),
          Record.put_of_ne _ (hi p List.mem_cons_self)]

/-! ## Filling a record -/

/-- The fields of the columns of a row are not the field of another column. -/
theorem Model.Describes.ne_of_resolved (hm : m.Describes e) {cs : List String} {fs : List Field}
    (hfs : m.resolveColumns cs = .ok fs) {f : Field} (hf : f ∈ m.fields) (hc : f.column ∉ cs)
    {i : Fin e.fields.length} (hi : f.index = i) :
    ∀ g ∈ fs, g.index ≠ i ∧ g.name ≠ e.fieldName i := by
  intro g hg
  have hmem := hm.mem_of_resolveColumns hfs g hg
  have hcolumn : g.column ∈ cs := by
    unfold resolveColumns at hfs
    split at hfs
    · cases hfs
    · obtain ⟨c, hc, hres⟩ := exists_of_forall₂ (Except.mapM_ok.1 hfs) hg
      exact (hm.resolveColumn_ok.1 hres).2 ▸ hc
  have hne : g ≠ f := fun h => hc (h ▸ hcolumn)
  refine ⟨?_, ?_⟩
  · intro hindex
    have hsame := hm.getElem?_index hmem
    rw [hindex, ← hi, hm.getElem?_index hf] at hsame
    exact hne (Option.some.inj hsame).symm
  · intro hname
    rw [← (hm.at_place hf hi).1] at hname
    exact hne (List.inj_on_of_nodup_map hm.names hmem hf hname)

/-- Through the fields, those without a column hold what they held. -/
theorem Direct.populate_keeps (hm : m.Describes e) (r : Record e) (rows : Rows) {f : Field}
    (hf : f ∈ m.fields) (hc : f.column ∉ rows.columns) {i : Fin e.fields.length}
    (hi : f.index = i) : (populate m r rows).record i = r i := by
  cases hres : m.resolveColumns rows.columns with
  | error err =>
    rw [populate_of_targets_error (targets_of_error hm hres)]
  | ok fs =>
    obtain ⟨ps, hps, rfl, hplaces⟩ := targets_of_resolve hm hres
    have hother := hm.ne_of_resolved hres hf hc hi
    rw [populate_of_targets hps]
    split
    · rfl
    · apply assign_frame
      intro p hp hplace
      exact (hother p.1 (List.mem_map_of_mem hp)).1 ((hplaces p hp).1.trans (congrArg _ hplace))

/-- Through the serialized form, a field without a column comes back from its own member. -/
theorem Reflect.populate_rereads (hp : e.Plain) (hm : m.Describes e) {r : Record e} {rows : Rows}
    (h : (populate m r rows).result = .ok ()) {f : Field} (hf : f ∈ m.fields)
    (hc : f.column ∉ rows.columns) {i : Fin e.fields.length} (hi : f.index = i) :
    (populate m r rows).record.get i = (e.storage i).rereadValue (r i) := by
  have hd : e.Distinct := hm.distinct
  unfold populate at h ⊢
  cases hpop : populated m r rows with
  | error err =>
    rw [hpop] at h
    cases h
  | ok s =>
    obtain ⟨fs, hfs, -⟩ := Except.bind_ok.1 hpop
    obtain ⟨ms, hms, hlookup⟩ := r.members_plain hp hd
    rw [populated_eq hfs hms] at hpop
    split at hpop
    · cases hpop
    · rename_i vs _
      split at hpop
      · rename_i t hread
        cases hpop
        -- no member of the row is under the field's name
        have hkeep := Members.lookup_inserts
          (fun g hg => (hm.ne_of_resolved hfs hf hc hi g hg).2) vs ms
        have hdecode := Record.ofMembers_ok hp hd hread (hkeep.trans (hlookup i))
        obtain ⟨y, hy, hvalue⟩ := (e.storage i).decode_encode_value (r i)
        rw [hdecode] at hy
        cases hy
        exact hvalue
      · cases hpop

namespace Sample

/-- A row of a person without a nickname. -/
def nickless : Rows := ⟨["age", "person_id"], [[.int 31, .text "2"]], some 0⟩

/-- The city of `noted` with JSON's null for its document. -/
def nullNotes : Record city := noted.put ⟨1, by decide⟩ (some .null : Option Json)

/-- A row of a city without a document. -/
def noteless : Rows := ⟨["id"], [[.int 6]], some 0⟩

end Sample

namespace Accessor

/-- **Fields without a column keep their values** when a record is filled, but for one exception:
through the serialized form JSON's null in a field that may be absent becomes an absence. -/
theorem populate_frame {g : Registry} (hp : e.Plain) (hg : g.Reachable)
    (hm : (g.model e).answer = .ok m) (a : Accessor) (r : Record e) (rows : Rows)
    (h : (a.populate m r rows).result = .ok ()) {f : Field} (hf : f ∈ m.fields)
    (hc : f.column ∉ rows.columns) {i : Fin e.fields.length} (hi : f.index = i) :
    (a.populate m r rows).record.get i =
      if a = .reflect ∧ r.NullDocument i then .null else r.get i := by
  have hdesc := hg.describes hm
  cases a with
  | direct =>
    have hkeep := Direct.populate_keeps hdesc r rows hf hc hi
    rw [if_neg fun hd => nomatch hd.1]
    exact congrArg (e.storage i).toValue hkeep
  | reflect =>
    have hreread := Reflect.populate_rereads hp hdesc h hf hc hi
    simp only [true_and]
    exact hreread

/-- A row without a nickname leaves it alone, in both ways. -/
theorem populate_frame_nickless : Sample.person.Plain ∧ Sample.renamed.Reachable ∧
    ∃ m, (Sample.renamed.model Sample.person).answer = .ok m ∧
      ∃ f ∈ m.fields, f.column = "alias" ∧ f.index = 1 ∧ ∀ a : Accessor,
        (a.populate m Sample.al Sample.nickless).result = .ok () ∧
          (a.populate m Sample.al Sample.nickless).record.get ⟨1, by decide⟩ = .text "Al" := by
  have hp : Sample.person.Plain := by decide
  have hg : Sample.renamed.Reachable := .register .empty _ _
  obtain ⟨m, hm, hruns⟩ : ∃ m, (Sample.renamed.model Sample.person).answer = .ok m ∧
      (m.fields[1]?, (reflect.populate m Sample.al Sample.nickless).result,
        (direct.populate m Sample.al Sample.nickless).result) =
        (some ⟨"alias", "nick", ⟨.text, true⟩, 1⟩, .ok (), .ok ()) :=
    Except.ok_of_map (by decide +kernel)
  simp only [Prod.mk.injEq] at hruns
  obtain ⟨hf, hreflect, hdirect⟩ := hruns
  have hmem := List.mem_of_getElem? hf
  refine ⟨hp, hg, m, hm, _, hmem, rfl, rfl, ?_⟩
  intro a
  have hresult : (a.populate m Sample.al Sample.nickless).result = .ok () := by
    cases a with
    | reflect => exact hreflect
    | direct => exact hdirect
  have hframe := populate_frame hp hg hm a Sample.al Sample.nickless hresult hmem (by decide)
    (i := ⟨1, by decide⟩) rfl
  refine ⟨hresult, ?_⟩
  rw [hframe, if_neg fun hd => absurd hd.2 (by decide)]
  rfl

/-- JSON's null in the document of a city is kept when the city's number is filled in through the
fields, and becomes an absence through the serialized form. -/
theorem populate_differs_at_null_notes : Sample.city.Plain ∧
    ∃ m, (Registry.empty.model Sample.city).answer = .ok m ∧
      Sample.nullNotes.values = [.int 5, .json .null] ∧
      (direct.populate m Sample.nullNotes Sample.noteless).result = .ok () ∧
      (direct.populate m Sample.nullNotes Sample.noteless).record.values =
        [.int 6, .json .null] ∧
      (reflect.populate m Sample.nullNotes Sample.noteless).result = .ok () ∧
      (reflect.populate m Sample.nullNotes Sample.noteless).record.values = [.int 6, .null] := by
  obtain ⟨m, hm, hruns⟩ : ∃ m, (Registry.empty.model Sample.city).answer = .ok m ∧
      ((direct.populate m Sample.nullNotes Sample.noteless).result,
        (direct.populate m Sample.nullNotes Sample.noteless).record.values,
        (reflect.populate m Sample.nullNotes Sample.noteless).result,
        (reflect.populate m Sample.nullNotes Sample.noteless).record.values) =
        (.ok (), [.int 6, .json .null], .ok (), [.int 6, .null]) :=
    Except.ok_of_map (by decide +kernel)
  simp only [Prod.mk.injEq] at hruns
  exact ⟨by decide, m, hm, by decide, hruns⟩

end Accessor

end RecordSql
