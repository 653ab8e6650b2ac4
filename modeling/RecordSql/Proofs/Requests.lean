import Mathlib.Data.Finset.Dedup
import Mathlib.Data.Finset.Card
import RecordSql.Proofs.Mapping
import RecordSql.Proofs.Mention
import RecordSql.Proofs.Sample

/-!
# The registry is a look-up

Models are kept once they have been made, but what is kept shows in no answer. After any run of
requests a type has the model with the options that were last registered for it.

* `Request`: what is asked of a registry; `Registry.serveAll` is a run of requests.
* `Model.tailored`, `lastOptions`: the look-up that needs no registry.
* `Registry.model_cases`, `Registry.register_cases`: what one request does to the models kept.
* `Registry.Reflects.serve`: **each request keeps the registry in step with the look-up.**
* `Registry.serves_lookup`: **after any run the registry answers as the look-up does**, failed
  requests leave it as it was, and its size is the number of types that have got a model.
-/

namespace RecordSql

/-- The model of `e` by its own description, with options if there are any. -/
def Model.tailored (e : Entity) : Option (List ModelOption) → Except Error Model
  | none => parse e
  | some os => match parse e with
    | .error err => .error err
    | .ok m => m.configure os

/-- What is asked of a registry. -/
inductive Request where
  | model (e : Entity)
  | register (e : Entity) (os : List ModelOption)
  /-- A build, which asks for the models that it needs. -/
  | build (c : Consult Sql)

/-- The options that the request registers for `e`, if it asks for that and succeeds. -/
def Request.registers? (e : Entity) : Request → Option (List ModelOption)
  | .register f os => if f = e ∧ (Model.tailored e (some os)).isOk then some os else none
  | .model _ | .build _ => none

/-- The options that were registered last for `e`. -/
def lastOptions (e : Entity) (qs : List Request) : Option (List ModelOption) :=
  (qs.filterMap (Request.registers? e)).getLast?

/-- The types whose models a computation gets, one after the other. -/
def Consult.got {α : Type} : Consult α → Registry → List Entity
  | .pure _, _ | .fail _, _ => []
  | .ask e k, r => match (r.model e).answer with
    | .ok m => e :: (k m).got (r.model e).registry
    | .error _ => []

namespace Registry

/-- The registry after a request. -/
def serve (r : Registry) : Request → Registry
  | .model e => (r.model e).registry
  | .register e os => (r.register e os).registry
  | .build c => (c.run r).registry

/-- The registry after requests, one after the other. -/
def serveAll (r : Registry) (qs : List Request) : Registry := qs.foldl serve r

/-- The registry after requests to a fresh one. -/
def after (qs : List Request) : Registry := Registry.empty.serveAll qs

/-- The types whose models a request gets or registers. -/
def got (r : Registry) : Request → List Entity
  | .model e => if (r.model e).answer.isOk then [e] else []
  | .register e os => if (r.register e os).answer.isOk then [e] else []
  | .build c => c.got r

/-- The types whose models requests get or register, one after the other. -/
def gotAll (r : Registry) : List Request → List Entity
  | [] => []
  | q :: qs => r.got q ++ (r.serve q).gotAll qs

/-- The types with a model. -/
def types (r : Registry) : List Entity := r.models.map Prod.fst

variable {r : Registry} {qs : List Request}

/-! ## One request -/

/-- Asking for a model keeps it, if it was not kept before and there is one. -/
theorem model_cases (r : Registry) (e : Entity) :
    (∃ m, (r.model e).answer = .ok m ∧
      (r.find? e = some m ∧ (r.model e).registry = r ∨ (r.model e).registry = r.insert e m)) ∨
      ∃ err, (r.model e).answer = .error err ∧ (r.model e).registry = r := by
  unfold model
  cases hfind : r.find? e with
  | some m => exact .inl ⟨m, rfl, .inl ⟨rfl, rfl⟩⟩
  | none =>
    cases Model.parse e with
    | ok m => exact .inl ⟨m, rfl, .inr rfl⟩
    | error err => exact .inr ⟨err, rfl, rfl⟩

/-- Registering keeps the model with the options, if there is one. The answer does not depend on
what has been kept. -/
theorem register_cases (r : Registry) (e : Entity) (os : List ModelOption) :
    (r.register e os).answer = Model.tailored e (some os) ∧
      ((∃ m, Model.tailored e (some os) = .ok m ∧ (r.register e os).registry = r.insert e m) ∨
        ∃ err, Model.tailored e (some os) = .error err ∧ (r.register e os).registry = r) := by
  unfold register Model.tailored
  cases Model.parse e with
  | error err => exact ⟨rfl, .inr ⟨err, rfl, rfl⟩⟩
  | ok m =>
    simp only
    cases m.configure os with
    | error err => exact ⟨rfl, .inr ⟨err, rfl, rfl⟩⟩
    | ok n => exact ⟨rfl, .inl ⟨n, rfl, rfl⟩⟩

/-- A model that cannot be got leaves the registry as it was. -/
theorem model_of_error {e : Entity} {err : Error} (h : (r.model e).answer = .error err) :
    (r.model e).registry = r := by
  rcases r.model_cases e with ⟨m, hm, -⟩ | ⟨-, -, hsame⟩
  · rw [hm] at h
    cases h
  · exact hsame

/-- Options that cannot be registered leave the registry as it was. -/
theorem register_of_error {e : Entity} {os : List ModelOption} {err : Error}
    (h : (r.register e os).answer = .error err) : (r.register e os).registry = r := by
  obtain ⟨hanswer, ⟨m, hm, -⟩ | ⟨-, -, hsame⟩⟩ := r.register_cases e os
  · rw [hanswer, hm] at h
    cases h
  · exact hsame

/-- Registering changes the later answers for one type only, and only if it succeeds. -/
theorem look_register (r : Registry) (f : Entity) (os : List ModelOption) (e : Entity) :
    (r.register f os).registry.look e =
      if f = e ∧ (Model.tailored e (some os)).isOk then Model.tailored e (some os)
      else r.look e := by
  obtain ⟨-, ⟨m, hm, hinsert⟩ | ⟨err, herr, hsame⟩⟩ := r.register_cases f os
  · rw [hinsert]
    unfold look
    rw [find?_insert]
    by_cases hfe : f = e
    · subst hfe
      simp [hm, Except.isOk, Except.toBool]
    · simp [hfe, Ne.symm hfe]
  · rw [hsame, if_neg]
    rintro ⟨rfl, hok⟩
    rw [herr] at hok
    cases hok

end Registry

namespace Consult

variable {α : Type}

/-- A computation goes on with the model that it has asked for, if there is one. -/
theorem registry_run_ask (e : Entity) (k : Model → Consult α) (r : Registry) :
    ((ask e k).run r).registry = match (r.model e).answer with
      | .ok m => ((k m).run (r.model e).registry).registry
      | .error _ => (r.model e).registry := by
  rw [run]
  cases r.model e with
  | mk answer s log => cases answer <;> rfl

/-- A computation that asks for models changes no later answer. -/
theorem look_run (c : Consult α) (r : Registry) (e : Entity) :
    (c.run r).registry.look e = r.look e := by
  induction c generalizing r with
  | pure a => rfl
  | fail err => rfl
  | ask f k ih =>
    rw [registry_run_ask]
    split
    · exact (ih _ _).trans (r.look_model f e)
    · exact r.look_model f e

end Consult

/-! ## The look-up -/

theorem lastOptions_concat (e : Entity) (qs : List Request) (q : Request) :
    lastOptions e (qs ++ [q]) = (q.registers? e).or (lastOptions e qs) := by
  unfold lastOptions
  rw [List.filterMap_append]
  cases hq : q.registers? e with
  | none => simp [hq]
  | some os => simp [hq]

/-- A request that registers nothing for the type does not count. -/
theorem lastOptions_remove {e : Entity} {before after : List Request} {q : Request}
    (h : q.registers? e = none) :
    lastOptions e (before ++ q :: after) = lastOptions e (before ++ after) := by
  unfold lastOptions
  rw [List.filterMap_append, List.filterMap_append, List.filterMap_cons, h]

namespace Registry

variable {r : Registry} {qs : List Request}

/-- The registry answers as the look-up does after the requests. -/
def Reflects (r : Registry) (qs : List Request) : Prop :=
  ∀ e, r.look e = Model.tailored e (lastOptions e qs)

/-- **Each request keeps the registry in step with the look-up.** -/
theorem Reflects.serve (h : r.Reflects qs) (q : Request) : (r.serve q).Reflects (qs ++ [q]) := by
  intro e
  rw [lastOptions_concat]
  cases q with
  | model f => exact (r.look_model f e).trans (h e)
  | build c => exact (c.look_run r e).trans (h e)
  | register f os =>
    -- the one request that changes an answer, and only that for its own type
    show (r.register f os).registry.look e = _
    rw [look_register]
    simp only [Request.registers?]
    split
    · rfl
    · exact h e

theorem Reflects.serveAll (h : r.Reflects qs) (ps : List Request) :
    (r.serveAll ps).Reflects (qs ++ ps) := by
  induction ps generalizing r qs with
  | nil =>
    rw [List.append_nil]
    exact h
  | cons q ps ih =>
    -- the request served joins those before, so the induction is over all of these
    have hrest := ih (h.serve q)
    rw [List.append_assoc] at hrest
    exact hrest

theorem reflects_after (qs : List Request) : (after qs).Reflects qs := by
  have hempty : Registry.empty.Reflects [] := fun _ => rfl
  exact hempty.serveAll qs

theorem answer_after (qs : List Request) (e : Entity) :
    ((after qs).model e).answer = Model.tailored e (lastOptions e qs) := by
  rw [answer_model]
  exact reflects_after qs e

theorem run_after {α : Type} (qs : List Request) (c : Consult α) :
    (c.run (after qs)).answer = c.eval fun e => Model.tailored e (lastOptions e qs) := by
  rw [Consult.answer_run, funext (reflects_after qs)]

/-! ## The types with a model -/

theorem types_insert (r : Registry) (e : Entity) (m : Model) :
    (r.insert e m).types = if e ∈ r.types then r.types else r.types ++ [e] := by
  obtain ⟨ms⟩ := r
  simp only [types, insert]
  induction ms with
  | nil => rfl
  | cons p ms ih =>
    obtain ⟨f, n⟩ := p
    by_cases hf : f = e
    · simp [insertModel, hf]
    · rw [insertModel, if_neg hf, List.map_cons, ih]
      by_cases he : e ∈ ms.map Prod.fst
      · simp [he]
      · simp [he, Ne.symm hf]

theorem nodup_types_insert (h : r.types.Nodup) (e : Entity) (m : Model) :
    (r.insert e m).types.Nodup := by
  rw [types_insert]
  split
  · exact h
  · rename_i hnew
    rw [List.nodup_append]
    refine ⟨h, List.nodup_singleton e, ?_⟩
    rintro f hf g hg rfl
    rw [List.mem_singleton.1 hg] at hf
    exact hnew hf

theorem mem_types_insert {e f : Entity} {m : Model} :
    f ∈ (r.insert e m).types ↔ f ∈ r.types ∨ f = e := by
  rw [types_insert]
  split
  · rename_i he
    constructor
    · exact .inl
    · rintro (hf | rfl)
      · exact hf
      · exact he
  · rw [List.mem_append, List.mem_singleton]

/-- The registry `s` has models for the types of `r` and for those of the list, one each. -/
structure Gains (r s : Registry) (es : List Entity) : Prop where
  nodup : r.types.Nodup → s.types.Nodup
  mem : ∀ f, f ∈ s.types ↔ f ∈ r.types ∨ f ∈ es

theorem Gains.refl (r : Registry) : r.Gains r [] := ⟨id, by simp⟩

theorem Gains.trans {s t : Registry} {es fs : List Entity} (h : r.Gains s es) (k : s.Gains t fs) :
    r.Gains t (es ++ fs) := by
  refine ⟨k.nodup ∘ h.nodup, ?_⟩
  intro f
  rw [k.mem, h.mem, List.mem_append, or_assoc]

theorem gains_insert (r : Registry) (e : Entity) (m : Model) : r.Gains (r.insert e m) [e] := by
  refine ⟨fun h => nodup_types_insert h e m, ?_⟩
  intro f
  rw [mem_types_insert, List.mem_singleton]

theorem gains_model (r : Registry) (e : Entity) :
    r.Gains (r.model e).registry (if (r.model e).answer.isOk then [e] else []) := by
  rcases r.model_cases e with ⟨m, hm, ⟨hfind, hsame⟩ | hinsert⟩ | ⟨err, herr, hsame⟩
  · -- the model was there already, so the type is no new one
    rw [hm, hsame]
    refine ⟨id, ?_⟩
    intro f
    have hmem : e ∈ r.types := List.mem_map.2 ⟨(e, m), mem_of_lookup hfind, rfl⟩
    simp only [Except.isOk, Except.toBool, if_true, List.mem_singleton]
    exact ⟨.inl, fun h => h.elim id fun heq => heq ▸ hmem⟩
  · rw [hm, hinsert]
    exact r.gains_insert e m
  · rw [herr, hsame]
    exact Gains.refl r

theorem gains_register (r : Registry) (e : Entity) (os : List ModelOption) :
    r.Gains (r.register e os).registry (if (r.register e os).answer.isOk then [e] else []) := by
  obtain ⟨hanswer, ⟨m, hm, hinsert⟩ | ⟨err, herr, hsame⟩⟩ := r.register_cases e os
  · rw [hanswer, hm, hinsert]
    exact r.gains_insert e m
  · rw [hanswer, herr, hsame]
    exact Gains.refl r

theorem gains_run {α : Type} (c : Consult α) (r : Registry) :
    r.Gains (c.run r).registry (c.got r) := by
  induction c generalizing r with
  | pure a => exact Gains.refl r
  | fail err => exact Gains.refl r
  | ask e k ih =>
    have hfirst := r.gains_model e
    rw [Consult.registry_run_ask]
    unfold Consult.got
    cases hm : (r.model e).answer with
    | ok m =>
      rw [hm] at hfirst
      exact hfirst.trans (ih m _)
    | error err =>
      rw [hm] at hfirst
      exact hfirst

theorem gains_serve (r : Registry) (q : Request) : r.Gains (r.serve q) (r.got q) := by
  cases q with
  | model e => exact r.gains_model e
  | register e os => exact r.gains_register e os
  | build c => exact gains_run c r

theorem gains_serveAll (r : Registry) (qs : List Request) :
    r.Gains (r.serveAll qs) (r.gotAll qs) := by
  induction qs generalizing r with
  | nil => exact Gains.refl r
  | cons q qs ih => exact (r.gains_serve q).trans (ih (r.serve q))

/-- A fresh registry ends with one model for each type that has got one. -/
theorem size_after (qs : List Request) :
    (after qs).size = (Registry.empty.gotAll qs).toFinset.card := by
  have hgains := gains_serveAll .empty qs
  have hnodup : (after qs).types.Nodup := hgains.nodup List.nodup_nil
  have hset : (after qs).types.toFinset = (Registry.empty.gotAll qs).toFinset := by
    ext f
    rw [List.mem_toFinset, List.mem_toFinset]
    exact (hgains.mem f).trans ⟨fun h => h.elim (fun hf => nomatch hf) id, .inr⟩
  calc (after qs).size
      = (after qs).types.length := (List.length_map _).symm
    _ = (after qs).types.toFinset.card := (List.toFinset_card_of_nodup hnodup).symm
    _ = (Registry.empty.gotAll qs).toFinset.card := by rw [hset]

/-! ## Runs -/

/-- **The registry is a look-up.** After any requests to a fresh registry

* a type has the model with the options last registered for it, for builds as well, and what can be
  registered does not depend on the models kept;
* a request for a model leaves the registry as it was if it fails;
* there is one model for each type that has got or registered one;
* the model of a type would be the same without a request that has registered nothing for it, and so
  would all later builds without one that has registered nothing at all, such as one for a model or
  a build. -/
theorem serves_lookup (qs : List Request) :
    (∀ e, ((after qs).model e).answer = Model.tailored e (lastOptions e qs)) ∧
      (∀ e os, ((after qs).register e os).answer = Model.tailored e (some os)) ∧
      (∀ c : Consult Sql, (c.run (after qs)).answer =
        c.eval fun e => Model.tailored e (lastOptions e qs)) ∧
      (∀ e err, ((after qs).model e).answer = .error err →
        ((after qs).model e).registry = after qs) ∧
      (∀ e os err, ((after qs).register e os).answer = .error err →
        ((after qs).register e os).registry = after qs) ∧
      (after qs).size = (Registry.empty.gotAll qs).toFinset.card ∧
      ∀ before q later, qs = before ++ q :: later →
        (∀ e, q.registers? e = none →
          ((after qs).model e).answer = ((after (before ++ later)).model e).answer) ∧
        ((∀ e, q.registers? e = none) → ∀ c : Consult Sql,
          (c.run (after qs)).answer = (c.run (after (before ++ later))).answer) := by
  refine ⟨answer_after qs, fun e os => ((after qs).register_cases e os).1, run_after qs,
    fun e err => model_of_error, fun e os err => register_of_error, size_after qs, ?_⟩
  rintro before q later rfl
  constructor
  · intro e he
    rw [answer_after, answer_after, lastOptions_remove he]
  · intro hq c
    have hlast : ∀ e, lastOptions e (before ++ q :: later) = lastOptions e (before ++ later) :=
      fun e => lastOptions_remove (hq e)
    simp only [run_after, hlast]

end Registry

namespace Sample

/-- A record type with two fields on one column. -/
def torn : Entity :=
  ⟨"sample::Torn", "Torn", "", .named,
    [⟨"id", .int .i64, "", .plain⟩, ⟨"key", .text, "column=id", .plain⟩], .map⟩

/-- Requests of which the second and the fourth fail. -/
def errands : List Request :=
  [.register person [.column "nick" "alias"], .model torn, .model city,
    .register person [.column "nick" "age"], .build (directory.build .mysql person)]

end Sample

namespace Registry

open Sample

/-- People keep the column that was registered first, and the join could do without the request for
cities. -/
theorem serves_lookup_errands :
    (∃ m, ((after errands).model person).answer = .ok m ∧
      m.fields.map Field.column = ["person_id", "alias", "age"]) ∧
      ((after errands).model torn).registry = after errands ∧
      ((after errands).register person [.column "nick" "age"]).registry = after errands ∧
      (after errands).size = 2 ∧
      ∃ sql, (((directory.build .mysql person).run (after errands)).answer = .ok sql ∧
        ((directory.build .mysql person).run (after (errands.eraseIdx 2))).answer = .ok sql) := by
  obtain ⟨hmodel, hregister, hbuild, hmodelError, hregisterError, hsize, hremove⟩ :=
    serves_lookup errands
  have hcity := (hremove (errands.take 2) (.model city) (errands.drop 3) rfl).2
    (fun _ => rfl) (directory.build .mysql person)
  refine ⟨?_, hmodelError torn (.duplicateColumn "id") ?_,
    hregisterError person _ (.duplicateColumn "age") ?_, ?_, ?_⟩
  · rw [hmodel]
    exact Except.ok_of_map (by decide +kernel)
  · rw [hmodel]
    exact Except.error_of_map (f := Model.fields) (by decide +kernel)
  · rw [hregister]
    exact Except.error_of_map (f := Model.fields) (by decide +kernel)
  · rw [hsize]
    decide +kernel
  · obtain ⟨sql, hsql, -⟩ : ∃ sql, ((directory.build .mysql person).run (after errands)).answer =
        .ok sql ∧ sql.args.length = 6 := Except.ok_of_map (by decide +kernel)
    exact ⟨sql, hsql, hcity ▸ hsql⟩

end Registry

end RecordSql
