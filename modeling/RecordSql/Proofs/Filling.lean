import RecordSql.Proofs.Reading
import RecordSql.Proofs.Setting

/-!
# Both accessors fill alike

A row fills a record in the same way through the fields themselves and through the serialized form.

* `Storage.NullOnce`: null stands for one thing only.
* `Storage.decode_toMember`: a field takes a value and its member for the same.
* `Direct.assign_represents`: **setting fields and writing members keep step.**
* `Accessor.populate_alike`: **both accessors end with the same record and the same result.**
-/

namespace RecordSql

/-! ## Field types -/

theorem Member.toOption_of_ne {α : Type} {f : Member → Except String α} {m : Member}
    (h : m ≠ .null) : m.toOption f = (f m).map some := by
  cases m with
  | null => exact absurd rfl h
  | _ => rfl

/-- Null is the member of SQL's null and of JSON's only. -/
theorem Value.toMember_eq_null {v : Value} (h : v.toMember = .null) :
    v = .null ∨ v = .json .null := by
  cases v with
  | null => exact .inl rfl
  | json j =>
    cases j with
    | null => exact .inr rfl
    | _ => cases h
  | _ => cases h

namespace Storage

/-- Null stands for one thing only: for the absence of something that is not null itself, or for
JSON's null. -/
def NullOnce : Storage → Prop
  | .optional s => s.nullable = false
  | _ => True

instance : (s : Storage) → Decidable s.NullOnce
  | .optional s => inferInstanceAs (Decidable (s.nullable = false))
  | .int _ | .bool | .float32 | .float64 | .text | .bytes | .dateTime | .uuid | .json =>
    .isTrue trivial

/-- A type without null is no option and no JSON. -/
theorem of_not_nullable {s : Storage} (h : s.nullable = false) :
    (∀ t, s ≠ .optional t) ∧ s.kind ≠ .json := by
  cases s with
  | json => cases h
  | optional t => cases h
  | _ => exact ⟨fun t ht => (by cases ht), fun hk => (by cases hk)⟩

/-- **Decoding undoes encoding** where null stands for one thing only. -/
theorem decode_encode_once {s : Storage} (h : s.NullOnce) (x : s.Carrier) :
    s.decode (s.encode x) = .ok x := by
  cases s with
  | optional s =>
    obtain ⟨hopt, hk⟩ := of_not_nullable h
    match (x : Option s.Carrier) with
    | none => rfl
    | some x =>
      show (s.encode x).toOption s.decode = .ok (some x)
      rw [Member.toOption_of_ne (encode_ne_null hopt hk x), decode_encode hopt x]
      rfl
  | _ => exact decode_encode (fun t ht => by cases ht) x

/-- A value that a field takes which cannot be absent is taken for the same through its member. -/
theorem decode_toMember_plain {s : Storage} (hs : ∀ t, s ≠ .optional t) {v : Value} {x : s.Carrier}
    (hv : s.ofValue v = .ok x) : s.decode v.toMember = .ok x := by
  cases s with
  | int w =>
    cases v with
    | int i =>
      simp only [ofValue] at hv
      split at hv
      · cases hv
        exact Member.toInt_int ⟨i, ‹_›⟩
      · cases hv
    | _ => cases hv
  | bool =>
    cases v with
    | bool b =>
      cases hv
      rfl
    | _ => cases hv
  | float32 =>
    cases v with
    | float y =>
      simp only [ofValue] at hv
      split at hv
      · cases hv
      · cases hv
        rfl
    | _ => cases hv
  | float64 =>
    cases v with
    | float y =>
      cases hv
      exact congrArg Except.ok (Number.Binary.convert_self _)
    | _ => cases hv
  | text =>
    cases v with
    | text t =>
      cases hv
      rfl
    | _ => cases hv
  | bytes =>
    cases v with
    | bytes bs =>
      cases hv
      exact Member.byteList_map x
    | _ => cases hv
  | dateTime =>
    cases v with
    | dateTime t =>
      cases hv
      exact Member.toDateTime_text x
    | _ => cases hv
  | uuid =>
    cases v with
    | uuid u =>
      cases hv
      exact Member.toUuid_text x
    | _ => cases hv
  | json =>
    cases v with
    | json j =>
      cases hv
      exact congrArg Except.ok (Member.toJson_ofJson x)
    | null =>
      cases hv
      rfl
    | _ => cases hv
  | optional t => exact absurd rfl (hs t)

/-- Only a JSON field takes a JSON value. -/
theorem kind_of_ofValue_json {s : Storage} (hs : ∀ t, s ≠ .optional t) {j : Json} {x : s.Carrier}
    (h : s.ofValue (.json j) = .ok x) : s.kind = .json := by
  cases s with
  | json => rfl
  | optional t => exact absurd rfl (hs t)
  | _ => cases h

/-- **A field takes a value and its member for the same** where null stands for one thing only. -/
theorem decode_toMember {s : Storage} (h : s.NullOnce) {v : Value} {x : s.Carrier}
    (hv : s.ofValue v = .ok x) : s.decode v.toMember = .ok x := by
  cases s with
  | optional s =>
    obtain ⟨hopt, hk⟩ := of_not_nullable h
    by_cases hnull : v = .null
    · subst hnull
      cases hv
      rfl
    · rw [ofValue_optional s hnull] at hv
      cases hy : s.ofValue v with
      | error err =>
        rw [hy] at hv
        cases hv
      | ok y =>
        rw [hy] at hv
        cases hv
        -- a null member comes from JSON's null only, which no such field takes
        have hmember : v.toMember ≠ .null := by
          intro hm
          rcases Value.toMember_eq_null hm with hv | hv
          · exact hnull hv
          · rw [hv] at hy
            exact hk (kind_of_ofValue_json hopt hy)
        show v.toMember.toOption s.decode = .ok (some y)
        rw [Member.toOption_of_ne hmember, decode_toMember_plain hopt hy]
        rfl
  | _ => exact decode_toMember_plain (fun t ht => by cases ht) hv

end Storage

/-! ## Filling a record -/

variable {e : Entity} {m : Model}

/-- Every field of the record type can be null in one way at most. -/
def Entity.NullOnce (e : Entity) : Prop := ∀ i, (e.storage i).NullOnce

instance (e : Entity) : Decidable e.NullOnce := inferInstanceAs (Decidable (∀ _, _))

/-- **Setting fields and writing members keep step**: members that represent the record still do
when both have been done with the same values. -/
theorem Direct.assign_represents (hn : e.NullOnce) (hd : e.Distinct)
    {ps : List (Field × Fin e.fields.length)} {vs : List Value}
    (hall : List.Forall₂ (fun p v => p.1.name = e.fieldName p.2 ∧
      ∃ x, (e.storage p.2).ofValue v = .ok x) ps vs)
    {r : Record e} {ms : Members} (hms : ms.Represents r) :
    ∃ s, Direct.assign r (ps.zipWith Direct.write vs) = ⟨s, .ok ()⟩ ∧
      (((ps.map Prod.fst).zip vs).foldl
        (fun ms (f, v) => ms.insert f.name v.toMember) ms).Represents s := by
  induction hall generalizing r ms with
  | nil => exact ⟨r, rfl, hms⟩
  | @cons p v ps vs hp _ ih =>
    obtain ⟨hname, x, hx⟩ := hp
    have hnext : (ms.insert p.1.name v.toMember).Represents (r.put p.2 x) := by
      rw [hname]
      exact hms.insert hd (Storage.decode_toMember (hn p.2) hx)
    obtain ⟨s, hs, hrep⟩ := ih hnext
    refine ⟨s, ?_, hrep⟩
    rw [List.zipWith_cons_cons, Direct.assign_write hx]
    exact hs

/-- Filling through the members, once the columns are known. -/
theorem Reflect.populated_eq {rows : Rows} {fs : List Field} {ms : Members} {r : Record e}
    (hres : m.resolveColumns rows.columns = .ok fs) (hms : r.members = .ok ms) :
    Reflect.populated m r rows = match rows.scan (fs.map m.slot) with
      | ⟨_, some err⟩ => .error err
      | ⟨vs, none⟩ =>
        match Record.ofMembers ((fs.zip vs).foldl
          (fun ms (f, v) => ms.insert f.name v.toMember) ms) with
        | .ok r => .ok r
        | .error message => .error (.decode m.entity.typeName message) := by
  have hmembers : Reflect.members m r = .ok ms := by
    unfold Reflect.members
    rw [hms]
  unfold Reflect.populated
  rw [hres, hmembers]
  rfl

/-- On a model of the record type, both accessors fill alike. -/
theorem Model.Describes.populate_eq (hp : e.Plain) (hn : e.NullOnce) (hm : m.Describes e)
    (r : Record e) (rows : Rows) : Reflect.populate m r rows = Direct.populate m r rows := by
  have hd : e.Distinct := hm.distinct
  cases hres : m.resolveColumns rows.columns with
  | error err =>
    rw [Direct.populate_of_targets_error (Direct.targets_of_error hm hres)]
    unfold Reflect.populate Reflect.populated
    rw [hres]
    rfl
  | ok fs =>
    obtain ⟨ps, hps, rfl, hplaces⟩ := Direct.targets_of_resolve hm hres
    obtain ⟨ms, hms, hlookup⟩ := r.members_plain hp hd
    have hslots : (ps.map Prod.fst).map m.slot = ps.map fun p => m.slot p.1 := by
      rw [List.map_map]
      rfl
    unfold Reflect.populate
    rw [Reflect.populated_eq hres hms, Direct.populate_of_targets hps, hslots]
    cases hscan : rows.scan (ps.map fun p => m.slot p.1) with
    | mk vs fault =>
      cases fault with
      | some err => rfl
      | none =>
        -- what has been scanned can be set, and the members of the record represent it
        have haccepted := Rows.scan_ok hscan
        rw [List.forall₂_map_left_iff] at haccepted
        have hall : List.Forall₂ (fun p v => p.1.name = e.fieldName p.2 ∧
            ∃ x, (e.storage p.2).ofValue v = .ok x) ps vs := by
          refine ((List.forall₂_and_left _ _).2 ⟨hplaces, haccepted⟩).imp ?_
          rintro p v ⟨⟨hindex, hname⟩, haccept⟩
          exact ⟨hname, hm.filled.ofValue_of_accept hm.entity hindex haccept⟩
        have hrep : ms.Represents r := fun i =>
          ⟨_, hlookup i, Storage.decode_encode_once (hn i) (r i)⟩
        obtain ⟨s, hassign, hs⟩ := Direct.assign_represents hn hd hall hrep
        simp only [hs.ofMembers hp hd, hassign]

namespace Accessor

/-- **Both accessors fill alike.** On every model that a registry gives, whatever the record and the
row, they end with the same record and with the same result. -/
theorem populate_alike {g : Registry} (hp : e.Plain) (hn : e.NullOnce) (hg : g.Reachable)
    (hm : (g.model e).answer = .ok m) (r : Record e) (rows : Rows) :
    reflect.populate m r rows = direct.populate m r rows :=
  (hg.describes hm).populate_eq hp hn r rows

/-- A row with a renamed column, with one column twice and with an integer as text. -/
theorem populate_alike_ages : Sample.person.Plain ∧ Sample.person.NullOnce ∧
    Sample.renamed.Reachable ∧ ∃ m, (Sample.renamed.model Sample.person).answer = .ok m ∧
      reflect.populate m (Record.initial : Record Sample.person) Sample.ages =
        direct.populate m Record.initial Sample.ages ∧
      (reflect.populate m (Record.initial : Record Sample.person) Sample.ages).record.values =
        [.int 0, .text "Al", .int 31] := by
  have hp : Sample.person.Plain := by decide
  have hn : Sample.person.NullOnce := by decide
  have hg : Sample.renamed.Reachable := .register .empty _ _
  obtain ⟨m, hm, hvalues⟩ : ∃ m, (Sample.renamed.model Sample.person).answer = .ok m ∧
      (direct.populate m (Record.initial : Record Sample.person) Sample.ages).record.values =
        [.int 0, .text "Al", .int 31] :=
    Except.ok_of_map (by decide +kernel)
  have halike := populate_alike hp hn hg hm Record.initial Sample.ages
  exact ⟨hp, hn, hg, m, hm, halike, halike ▸ hvalues⟩

end Accessor

end RecordSql
