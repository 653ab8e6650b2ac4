import RecordSql.Proofs.Arguments
import RecordSql.Proofs.Plain
import RecordSql.Record.RoundTrip

/-!
# Both accessors read alike

Reading a field through the serialized form gives the field's own value, with one exception: a JSON
field that may be absent, and is, reads as JSON's null.

* `Record.Absent`: the exception.
* `Storage.toValue_encode`: the member of what a field holds, as a value.
* `Accessor.direct_field`, `Accessor.reflect_field`: the two ways to read a field.
* `Accessor.read_alike_iff`: **exactly when the two read the same value, and when they make the same
  INSERT.**
-/

namespace RecordSql

namespace Member

variable {m : Member} {t : FieldType} {v : Value}

theorem toValue_of_toKind (hm : m ≠ .null) (h : m.toKind? t.kind = some v) :
    m.toValue t = .ok v := by
  unfold toValue
  split
  · exact absurd rfl hm
  · exact absurd rfl hm
  · rw [h]

theorem toValue_null_of_json (ht : t.kind = .json) : null.toValue t = .ok (.json .null) := by
  unfold toValue
  rw [ht]

theorem toValue_null (hk : t.kind ≠ .json) (ht : t.nullable = true) :
    null.toValue t = .ok .null := by
  unfold toValue
  split
  · exact absurd ‹_› hk
  · simp [Value.coerce, ht]
  · exact absurd rfl ‹_›

theorem toKind_int (i : Int64) : (int i.toInt).toKind? .int = some (.int i) := by
  simp [toKind?, Number.int64?_toInt]

theorem toKind_bytes (bs : List UInt8) :
    (seq (bs.map fun b => .int b.toNat)).toKind? .bytes = some (.bytes bs) := by
  simp [toKind?, byteList_map, Except.toOption]

theorem toKind_dateTime (d : DateTime) :
    (text (d.text 'T')).toKind? .dateTime = some (.dateTime d) := by
  simp [toKind?, DateTime.readIso_text, Except.toOption]

theorem toKind_uuid (u : Uuid) : (text u.text).toKind? .uuid = some (.uuid u) := by
  simp [toKind?, Uuid.read?_text]

theorem toKind_json (j : Json) : (ofJson j).toKind? .json = some (.json j) := by
  simp [toKind?, toJson_ofJson]

end Member

namespace Storage

/-- What the field holds is the absence of a document. -/
def Absent (s : Storage) (x : s.Carrier) : Prop := s.kind = .json ∧ s.toValue x = .null

instance (s : Storage) (x : s.Carrier) : Decidable (s.Absent x) :=
  inferInstanceAs (Decidable (_ ∧ _))

/-- The value of what a field holds when it is read off its member. -/
def memberValue (s : Storage) (x : s.Carrier) : Value :=
  if s.Absent x then .json .null else s.toValue x

/-- The two readings of what a field holds differ only if it is the absence of a document. -/
theorem memberValue_eq_iff (s : Storage) (x : s.Carrier) :
    s.memberValue x = s.toValue x ↔ ¬s.Absent x := by
  unfold memberValue
  by_cases h : s.Absent x
  · rw [if_pos h, h.2]
    exact ⟨fun hv => (nomatch hv), fun hv => absurd h hv⟩
  · rw [if_neg h]
    exact ⟨fun _ => h, fun _ => rfl⟩

theorem toValue_ne_null {s : Storage} (hs : ∀ t, s ≠ .optional t) (x : s.Carrier) :
    s.toValue x ≠ .null := by
  cases s with
  | optional t => exact absurd rfl (hs t)
  | _ => exact fun h => (nomatch h)

/-- The member of what a field holds that cannot be absent, as a value of its kind. -/
theorem toKind_encode {s : Storage} (hs : ∀ t, s ≠ .optional t) (x : s.Carrier) :
    (s.encode x).toKind? s.kind = some (s.toValue x) := by
  cases s with
  | int w => exact Member.toKind_int x.val
  | bool | float32 | float64 | text => rfl
  | bytes => exact Member.toKind_bytes x
  | dateTime => exact Member.toKind_dateTime x
  | uuid => exact Member.toKind_uuid x
  | json => exact Member.toKind_json x
  | optional t => exact absurd rfl (hs t)

/-- Only a JSON field has null for its member although it cannot be absent. -/
theorem encode_ne_null {s : Storage} (hs : ∀ t, s ≠ .optional t) (hk : s.kind ≠ .json)
    (x : s.Carrier) : s.encode x ≠ .null := by
  cases s with
  | json => exact absurd rfl hk
  | optional t => exact absurd rfl (hs t)
  | _ => exact fun h => (nomatch h)

theorem toValue_encode_plain {s : Storage} (hs : ∀ t, s ≠ .optional t) (x : s.Carrier)
    {t : FieldType} (hk : t.kind = s.kind) : (s.encode x).toValue t = .ok (s.memberValue x) := by
  have hvalue : s.memberValue x = s.toValue x :=
    (memberValue_eq_iff s x).2 fun h => toValue_ne_null hs x h.2
  have hkind := toKind_encode hs x
  rw [← hk] at hkind
  rw [hvalue]
  by_cases hnull : s.encode x = .null
  · have hjson : s.kind = .json := by
      by_contra hne
      exact encode_ne_null hs hne x hnull
    rw [hnull, hk, hjson] at hkind
    rw [hnull, Member.toValue_null_of_json (hk.trans hjson), ← Option.some.inj hkind]
    rfl
  · exact Member.toValue_of_toKind hnull hkind

/-- **The member of what a field holds reads as its value**, but for an absent document. -/
theorem toValue_encode (s : Storage) (x : s.Carrier) {t : FieldType} (hk : t.kind = s.kind)
    (hn : s.nullable = true → t.nullable = true) :
    (s.encode x).toValue t = .ok (s.memberValue x) := by
  induction s with
  | optional s ih =>
    have ht : t.nullable = true := hn rfl
    match (x : Option s.Carrier) with
    | none =>
      show Member.null.toValue t = .ok (s.optional.memberValue (none : Option s.Carrier))
      -- a null member is JSON's null for a JSON field and SQL's null for any other
      by_cases hjson : s.kind = .json
      · have hvalue : s.optional.memberValue (none : Option s.Carrier) = .json .null :=
          if_pos ⟨hjson, rfl⟩
        rw [hvalue, Member.toValue_null_of_json (hk.trans hjson)]
      · have hvalue : s.optional.memberValue (none : Option s.Carrier) = .null :=
          if_neg fun h => hjson h.1
        rw [hvalue, Member.toValue_null (fun h => hjson (hk.symm.trans h)) ht]
    | some x => exact ih x hk fun _ => ht
  | _ => exact toValue_encode_plain (fun u hu => by cases hu) x hk

end Storage

variable {e : Entity} {m : Model} {r : Record e}

namespace Record

/-- The document in the `i`-th field is absent. -/
def Absent (r : Record e) (i : Fin e.fields.length) : Prop := (e.storage i).Absent (r i)

instance (r : Record e) (i : Fin e.fields.length) : Decidable (r.Absent i) :=
  inferInstanceAs (Decidable ((e.storage i).Absent (r i)))

/-- The `i`-th field when it is read off the serialized form. -/
def memberValue (r : Record e) (i : Fin e.fields.length) : Value :=
  (e.storage i).memberValue (r i)

theorem memberValue_eq_iff (i : Fin e.fields.length) : r.memberValue i = r.get i ↔ ¬r.Absent i :=
  Storage.memberValue_eq_iff _ _

end Record

/-- A declared name resolves to the field of its place. -/
theorem Model.Follows.resolve_fieldName (hm : m.Follows e) (i : Fin e.fields.length) :
    ∃ f, m.resolveField (e.fieldName i) = .ok f ∧ f.index = i ∧ f.name = e.fieldName i ∧
      f.type = (e.storage i).fieldType := by
  obtain ⟨f, hf, hindex⟩ := hm.exists_field i
  obtain ⟨hname, htype⟩ := hm.at_place hf hindex
  exact ⟨f, hm.resolveField_ok.2 ⟨hf, hname⟩, hindex, hname, htype⟩

namespace Accessor

/-- Reading a field directly gives its value. -/
theorem direct_field (hm : m.Follows e) (r : Record e) (i : Fin e.fields.length) :
    direct.field m r (e.fieldName i) = .ok (r.get i) := by
  obtain ⟨f, hf, hindex, -, -⟩ := hm.resolve_fieldName i
  have hget : e.accessorTable.getters[f.index]? = some fun r => r.get i := by
    unfold Entity.accessorTable
    rw [List.getElem?_map, hindex, e.getElem?_describe]
    rfl
  show Direct.field m r (e.fieldName i) = .ok (r.get i)
  unfold Direct.field
  rw [hf, hm.filled.accessorsOf hm.entity]
  simp only [bind, Except.bind, hget]
  rfl

/-- Reading a field off the serialized form gives its value, but for an absent document. -/
theorem reflect_field (hp : e.Plain) (hm : m.Follows e) (r : Record e)
    (i : Fin e.fields.length) :
    reflect.field m r (e.fieldName i) = .ok (r.memberValue i) := by
  obtain ⟨f, hf, -, hname, htype⟩ := hm.resolve_fieldName i
  obtain ⟨ms, hms, hlookup⟩ := r.members_plain hp hm.distinct
  have hread : ((e.storage i).encode (r i)).toValue f.type = .ok (r.memberValue i) := by
    rw [htype]
    exact Storage.toValue_encode _ _ rfl id
  have hmembers : Reflect.members m r = .ok ms := by
    unfold Reflect.members
    rw [hms]
  show Reflect.field m r (e.fieldName i) = .ok (r.memberValue i)
  unfold Reflect.field
  rw [hf, hmembers]
  simp only [bind, Except.bind, hname, hlookup, hread]

end Accessor

/-! ## INSERT -/

/-- What the database gets of a statement. -/
def Sql.query (s : Sql) : String × List Value := (s.text, s.args)

namespace Insert

open Sql

variable {q : Insert e} {look : Entity → Except Error Model} {d : Dialect}

/-- The statement inserts values of the `i`-th field. -/
def Inserts (q : Insert e) (i : Fin e.fields.length) : Prop :=
  q.columns = [] ∨ e.fieldName i ∈ q.columns

theorem exists_field_iff (hm : m.Follows e) {fs : List Field} (hfs : q.fields m = .ok fs)
    (i : Fin e.fields.length) : (∃ f ∈ fs, f.index = i) ↔ q.Inserts i := by
  unfold fields at hfs
  cases hq : q.columns with
  | nil =>
    rw [hq] at hfs
    cases hfs
    exact ⟨fun _ => .inl hq, fun _ => hm.exists_field i⟩
  | cons c cs =>
    rw [hq] at hfs
    have hall := Except.mapM_ok.1 hfs
    constructor
    · rintro ⟨f, hf, hindex⟩
      obtain ⟨name, hname, hres⟩ := exists_of_forall₂ hall hf
      obtain ⟨hmem, rfl⟩ := hm.resolveField_ok.1 hres
      rw [(hm.at_place hmem hindex).1] at hname
      exact .inr (hq ▸ hname)
    · rintro (hnil | hmem)
      · rw [hq] at hnil
        cases hnil
      · rw [hq] at hmem
        obtain ⟨f, hres, hindex, -⟩ := hm.resolve_fieldName i
        obtain ⟨g, hg, hgres⟩ := exists_of_forall₂ hall.flip hmem
        rw [hres] at hgres
        cases hgres
        exact ⟨f, hg, hindex⟩

/-- What a statement is made of, its tuples apart. -/
def frame (q : Insert e) (look : Entity → Except Error Model) (d : Dialect) :
    Except Error (Model × List Field × Sql) :=
  if q.records.isEmpty then .error .emptyInsert
  else do
    let m ← look e
    let fs ← q.fields m
    let upsert ← (upsertText ⟨d, m, .bare⟩ q.upsert).eval look
    return (m, fs, upsert)

theorem frame_ok {fs : List Field} {upsert : Sql} (h : q.frame look d = .ok (m, fs, upsert)) :
    look e = .ok m ∧ q.fields m = .ok fs := by
  unfold frame at h
  split at h
  · cases h
  obtain ⟨n, hn, h⟩ := Except.bind_ok.1 h
  obtain ⟨gs, hgs, h⟩ := Except.bind_ok.1 h
  obtain ⟨up, -, h⟩ := Except.bind_ok.1 h
  cases h
  exact ⟨hn, hgs⟩

/-- A record as a tuple of values. -/
def row (fs : List Field) (value : Field → Value) : Sql :=
  parens (commaList ((fs.map value).map placeholder))

theorem tuple_row {a : Accessor} {fs : List Field} {r : Record e} {value : Field → Value}
    (h : ∀ f ∈ fs, a.field m r f.name = .ok (value f)) :
    (tuple a m fs r).eval look = .ok (row fs value) := by
  refine tuple_ok.2 ⟨fs.map value, ?_, rfl⟩
  rw [List.forall₂_map_right_iff, List.forall₂_same]
  exact h

/-- **Where all fields can be read, a statement fails for reasons of its frame only.** -/
theorem build_frame {a : Accessor} {value : Model → Record e → Field → Value}
    (h : ∀ m, look e = .ok m → ∀ r, ∀ f ∈ m.fields, a.field m r f.name = .ok (value m r f)) :
    (q.build d a).eval look = (q.frame look d).map fun (m, fs, upsert) =>
      Clauses.sql ⟨fs, q.records.map fun r => row fs (value m r), upsert⟩ ⟨d, m, .bare⟩ := by
  unfold build frame
  split
  · rfl
  cases hm : look e with
  | error err => simp [Consult.eval_bind, hm, Except.bind, bind, Except.map]
  | ok m =>
    cases hfs : q.fields m with
    | error err => simp [Consult.eval_bind, hm, hfs, render, Except.bind, bind, Except.map]
    | ok fs =>
      have htuples : (Consult.all (tuple a m fs) q.records).eval look =
          .ok (q.records.map fun r => row fs (value m r)) := by
        rw [Consult.eval_all_ok, List.forall₂_map_right_iff, List.forall₂_same]
        exact fun r _ => tuple_row fun f hf => h m hm r f (mem_of_fields hfs hf)
      cases hup : (upsertText ⟨d, m, .bare⟩ q.upsert).eval look with
      | error err =>
        simp [Consult.eval_bind, hm, hfs, htuples, hup, render, Except.bind, bind, Except.map]
      | ok upsert =>
        simp [Consult.eval_bind, hm, hfs, htuples, hup, render, Except.bind, bind, Except.map,
          Clauses.sql, pure, Except.pure]

theorem args_row (fs : List Field) (value : Field → Value) :
    (row fs value).args = fs.map value := by
  simp only [row, args_parens, args_commaList, List.flatMap_map, args_placeholder]
  exact List.map_eq_flatMap.symm

theorem args_frame {rs : List (Record e)} {fs : List Field} {value : Record e → Field → Value}
    {upsert : Sql} {s : Scope} :
    (Clauses.sql ⟨fs, rs.map fun r => row fs (value r), upsert⟩ s).args =
      (rs.flatMap fun r => fs.map (value r)) ++ upsert.args := by
  simp [Clauses.sql, args_row, List.flatMap_map]

/-- Lists in a row are the same one by one if they have the same lengths. -/
theorem eq_of_flatMap_eq {α β : Type} {f g : α → List β} {as : List α}
    (hlen : ∀ a, (f a).length = (g a).length) (h : as.flatMap f = as.flatMap g) :
    ∀ a ∈ as, f a = g a := by
  induction as with
  | nil => exact fun a ha => nomatch ha
  | cons b bs ih =>
    rw [List.flatMap_cons, List.flatMap_cons] at h
    obtain ⟨hb, hbs⟩ := List.append_inj h (hlen b)
    intro a ha
    rcases List.mem_cons.1 ha with rfl | ha
    · exact hb
    · exact ih hbs a ha

end Insert

namespace Accessor

/-- What the accessor reads in a field of the model. -/
def valueOf (a : Accessor) (m : Model) (r : Record e) (f : Field) : Value :=
  (a.field m r f.name).toOption.getD .null

theorem field_valueOf {a : Accessor} {f : Field} {v : Value} (h : a.field m r f.name = .ok v) :
    a.field m r f.name = .ok (a.valueOf m r f) := by
  unfold valueOf
  rw [h]
  rfl

theorem direct_valueOf (hm : m.Follows e) (r : Record e) {f : Field} (hf : f ∈ m.fields) :
    direct.field m r f.name = .ok (direct.valueOf m r f) := by
  obtain ⟨i, hindex, -, -⟩ := hm.place hf
  exact field_valueOf ((hm.at_place hf hindex).1 ▸ direct_field hm r i)

/-- Every field of the model can be read, in either way. -/
theorem field_of_mem (hp : e.Plain) (hm : m.Follows e) (a : Accessor) (r : Record e) {f : Field}
    (hf : f ∈ m.fields) : a.field m r f.name = .ok (a.valueOf m r f) := by
  cases a with
  | reflect =>
    obtain ⟨i, hindex, -, -⟩ := hm.place hf
    exact field_valueOf ((hm.at_place hf hindex).1 ▸ reflect_field hp hm r i)
  | direct => exact direct_valueOf hm r hf

/-- The two ways to read a field of the model differ only for an absent document. -/
theorem valueOf_eq_iff (hp : e.Plain) (hm : m.Follows e) (r : Record e) {f : Field}
    {i : Fin e.fields.length} (hf : f ∈ m.fields) (hi : f.index = i) :
    reflect.valueOf m r f = direct.valueOf m r f ↔ ¬r.Absent i := by
  have hfield := (hm.at_place hf hi).1
  have hreflect := field_of_mem hp hm reflect r hf
  have hdirect := field_of_mem hp hm direct r hf
  rw [hfield, reflect_field hp hm] at hreflect
  rw [hfield, direct_field hm] at hdirect
  rw [← Except.ok.inj hreflect, ← Except.ok.inj hdirect]
  exact r.memberValue_eq_iff i

end Accessor

namespace Insert

open Sql

variable {q : Insert e} {look : Entity → Except Error Model} {d : Dialect}

/-- Both accessors read the same rows unless a value is that of an absent document. -/
theorem rows_eq_iff (hp : e.Plain) (hm : m.Follows e) {fs : List Field}
    (hfs : q.fields m = .ok fs) :
    (∀ r ∈ q.records,
        fs.map (Accessor.reflect.valueOf m r) = fs.map (Accessor.direct.valueOf m r)) ↔
      ∀ r ∈ q.records, ∀ i, q.Inserts i → ¬r.Absent i := by
  simp only [List.map_inj_left]
  constructor
  · intro h r hr i hi
    obtain ⟨f, hf, hindex⟩ := (exists_field_iff hm hfs i).2 hi
    exact (Accessor.valueOf_eq_iff hp hm r (mem_of_fields hfs hf) hindex).1 (h r hr f hf)
  · intro h r hr f hf
    have hmem := mem_of_fields hfs hf
    obtain ⟨i, hindex, -⟩ := hm.place hmem
    have hi := (exists_field_iff hm hfs i).1 ⟨f, hf, hindex⟩
    exact (Accessor.valueOf_eq_iff hp hm r hmem hindex).2 (h r hr i hi)

/-- **Both accessors make the same INSERT** unless it has a value of an absent document. -/
theorem build_query_eq_iff (hp : e.Plain) (hlook : ∀ m, look e = .ok m → m.Follows e) :
    ((q.build d .reflect).eval look).map query = ((q.build d .direct).eval look).map query ↔
      (∃ err, (q.build d .direct).eval look = .error err) ∨
        ∀ r ∈ q.records, ∀ i, q.Inserts i → ¬r.Absent i := by
  rw [build_frame fun m hm r f hf => Accessor.field_of_mem hp (hlook m hm) .reflect r hf,
    build_frame fun m hm r f hf => Accessor.field_of_mem hp (hlook m hm) .direct r hf]
  cases hframe : q.frame look d with
  | error err =>
    -- the frame does not depend on the accessor, so both fail alike
    exact ⟨fun _ => .inl ⟨err, rfl⟩, fun _ => rfl⟩
  | ok frame =>
    obtain ⟨m, fs, upsert⟩ := frame
    obtain ⟨hm, hfs⟩ := frame_ok hframe
    rw [← rows_eq_iff hp (hlook m hm) hfs]
    simp only [Except.map, Except.ok.injEq, reduceCtorEq, exists_false, false_or]
    constructor
    · intro hquery
      -- the tuples have the same lengths, so equal arguments are equal tuple by tuple
      have hargs := (Prod.ext_iff.1 hquery).2
      simp only [query, args_frame] at hargs
      exact eq_of_flatMap_eq (by simp) (List.append_cancel_right hargs)
    · intro heq
      have htuples : (q.records.map fun r => row fs (Accessor.reflect.valueOf m r)) =
          q.records.map fun r => row fs (Accessor.direct.valueOf m r) := by
        rw [List.map_inj_left]
        intro r hr
        unfold row
        rw [heq r hr]
      rw [htuples]

end Insert

namespace Accessor

/-- **When both accessors read alike.** A declared field of a record reads the same exactly if it is
not an absent document. An INSERT is the same exactly if it fails or has no value of an absent
document. -/
theorem read_alike_iff {g : Registry} (hp : e.Plain) (hg : g.Reachable) :
    (∀ m, (g.model e).answer = .ok m → ∀ (r : Record e) (i : Fin e.fields.length), ∃ v w,
        reflect.field m r (e.fieldName i) = .ok v ∧ direct.field m r (e.fieldName i) = .ok w ∧
          (v = w ↔ ¬r.Absent i)) ∧
      ∀ (q : Insert e) (d : Dialect),
        (((q.build d reflect).run g).answer.map Sql.query =
            ((q.build d direct).run g).answer.map Sql.query ↔
          (∃ err, ((q.build d direct).run g).answer = .error err) ∨
            ∀ r ∈ q.records, ∀ i, q.Inserts i → ¬r.Absent i) := by
  constructor
  · intro m hm r i
    have hfollows := (hg.describes hm).toFollows
    exact ⟨_, _, reflect_field hp hfollows r i, direct_field hfollows r i,
      r.memberValue_eq_iff i⟩
  · intro q d
    simp only [Consult.answer_run]
    apply Insert.build_query_eq_iff hp
    intro m hm
    rw [← Registry.answer_model] at hm
    exact (hg.describes hm).toFollows

/-- A city with a document is inserted alike. -/
theorem read_alike_iff_noted : Sample.city.Plain ∧ Registry.Reachable .empty ∧
    (∀ i, ¬Sample.noted.Absent i) ∧
    ((Insert.build ⟨[Sample.noted], [], none⟩ .mysql reflect).run .empty).answer.map Sql.query =
      ((Insert.build ⟨[Sample.noted], [], none⟩ .mysql direct).run .empty).answer.map Sql.query := by
  have hp : Sample.city.Plain := by decide
  have hg : Registry.Reachable .empty := .empty
  have habsent : ∀ i, ¬Sample.noted.Absent i := by decide
  refine ⟨hp, hg, habsent, ((read_alike_iff hp hg).2 _ _).2 (.inr ?_)⟩
  intro r hr i _
  rw [List.mem_singleton.1 hr]
  exact habsent i

/-- The absent document of a fresh city is read, and inserted, as JSON's null by the one accessor and
as SQL's null by the other. -/
theorem read_differs_at_fresh_city : Sample.city.Plain ∧
    ∃ m, (Registry.empty.model Sample.city).answer = .ok m ∧
      (reflect.field m (Record.initial : Record Sample.city) "notes").toOption = some (.json .null) ∧
      (direct.field m (Record.initial : Record Sample.city) "notes").toOption = some .null ∧
      ((Insert.build (e := Sample.city) ⟨[Record.initial], [], none⟩ .mysql reflect).run
          .empty).answer.toOption.map Sql.query =
        some ("INSERT INTO `cities`(`id`,`notes`) VALUES (?,?);", [.int 0, .json .null]) ∧
      ((Insert.build (e := Sample.city) ⟨[Record.initial], [], none⟩ .mysql direct).run
          .empty).answer.toOption.map Sql.query =
        some ("INSERT INTO `cities`(`id`,`notes`) VALUES (?,?);", [.int 0, .null]) := by
  obtain ⟨m, hm, hread⟩ : ∃ m, (Registry.empty.model Sample.city).answer = .ok m ∧
      ((reflect.field m (Record.initial : Record Sample.city) "notes").toOption,
        (direct.field m (Record.initial : Record Sample.city) "notes").toOption) =
        (some (.json .null), some .null) :=
    Except.ok_of_map (by decide +kernel)
  obtain ⟨hreflect, hdirect⟩ := Prod.mk.inj hread
  exact ⟨by decide, m, hm, hreflect, hdirect, by decide +kernel, by decide +kernel⟩

end Accessor

end RecordSql
