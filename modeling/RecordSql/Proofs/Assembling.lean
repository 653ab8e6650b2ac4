import Mathlib.Data.List.DropRight
import RecordSql.Proofs.Sample
import RecordSql.Sql.Delete

/-!
# Statements by their clauses

The steps that make a statement may come in any order: each clause is made by the steps for it
alone, and conditions may be given one by one, in lists or as one conjunction.

* `Select.Aspect`, `Select.part`: the steps for a clause.
* `Select.assembled`, `Select.ofCalls_eq`: the statement that the steps for each clause make.
* `Select.ofCalls_congr`: steps for different clauses may change places.
* `Scope.conditions_congr`: only the conjunction of a list of conditions is written.
* `TableRef.Merges`: joins whose conditions are their conjunction.
* `Delete.ofCalls_eq`, `Delete.build_gathered`: the same for a DELETE.
* `Select.build_by_clauses`: **statements of the same steps for each clause are built alike, and so
  are those with the same conditions, however these are given.**
-/

namespace RecordSql

namespace Select

/-! ## The clauses of a SELECT -/

/-- The clause that a step is about. -/
inductive Aspect where
  | list
  | source
  | wheres
  | groupBy
  | having
  | orderBy
  | limit
  | offset
deriving DecidableEq

namespace Call

def aspect : Call → Aspect
  | .select _ => .list
  | .columns _ => .list
  | .source _ => .source
  | .andWhere _ => .wheres
  | .whereAll _ => .wheres
  | .groupBy _ => .groupBy
  | .having _ => .having
  | .orderBy _ => .orderBy
  | .limit _ => .limit
  | .offset _ => .offset

@[simp] def select? : Call → Option SelectItem
  | .select item => some item
  | _ => none

@[simp] def columns? : Call → Option (List SelectItem)
  | .columns items => some items
  | _ => none

@[simp] def source? : Call → Option TableRef
  | .source t => some t
  | _ => none

@[simp] def wheres? : Call → Option (List Predicate)
  | .andWhere p => some [p]
  | .whereAll ps => some ps
  | _ => none

@[simp] def groupBy? : Call → Option Expr
  | .groupBy e => some e
  | _ => none

@[simp] def having? : Call → Option Predicate
  | .having p => some p
  | _ => none

@[simp] def orderBy? : Call → Option Column
  | .orderBy c => some c
  | _ => none

@[simp] def limit? : Call → Option Int64
  | .limit n => some n
  | _ => none

@[simp] def offset? : Call → Option Int64
  | .offset n => some n
  | _ => none

/-- The list behind the step. -/
@[simp] def relist (items : List SelectItem) : Call → List SelectItem
  | .select item => items ++ [item]
  | .columns items' => items'
  | _ => items

end Call

/-- The steps for a clause, in order. -/
def part (k : Aspect) (cs : List Call) : List Call := cs.filter (·.aspect = k)

/-- The steps for other clauses, in order. -/
def others (k : Aspect) (cs : List Call) : List Call := cs.filter (·.aspect ≠ k)

/-- The items that replaced the list last, and those added behind them. -/
def listed (cs : List Call) : List SelectItem :=
  ((cs.filterMap Call.columns?).getLast?.getD []) ++
    (cs.rtakeWhile (·.columns?.isNone)).filterMap Call.select?

/-- The conditions that steps give, in order. -/
def conditions (cs : List Call) : List Predicate := (cs.filterMap Call.wheres?).flatten

/-- The statement that the steps for each clause make, each clause by itself. -/
def assembled (cs : List Call) : Select where
  columns := listed (part .list cs)
  source := ((part .source cs).filterMap Call.source?).getLast?
  wheres := conditions (part .wheres cs)
  groupBy := (part .groupBy cs).filterMap Call.groupBy?
  having := (part .having cs).filterMap Call.having?
  orderBy := (part .orderBy cs).filterMap Call.orderBy?
  limit := ((part .limit cs).filterMap Call.limit?).getLast?.getD 0
  offset := ((part .offset cs).filterMap Call.offset?).getLast?.getD 0

variable {cs ds : List Call} {j k : Aspect} {x y : Call} {d : Dialect} {e : Entity}

theorem listed_concat (cs : List Call) (c : Call) :
    listed (cs ++ [c]) = c.relist (listed cs) := by
  cases c <;> simp [listed]

theorem part_concat (k : Aspect) (cs : List Call) (c : Call) :
    part k (cs ++ [c]) = part k cs ++ if c.aspect = k then [c] else [] := by
  simp [part, List.filter_append, List.filter_singleton]

/-- **One more step changes its own clause only.** -/
theorem assembled_concat (cs : List Call) (c : Call) :
    assembled (cs ++ [c]) = (assembled cs).call c := by
  unfold assembled conditions call
  simp only [part_concat]
  cases c <;> simp [Call.aspect, listed_concat]

theorem ofCalls_concat (cs : List Call) (c : Call) : ofCalls (cs ++ [c]) = (ofCalls cs).call c :=
  List.foldl_append

/-- **Each clause is made by the steps for it.** -/
theorem ofCalls_eq (cs : List Call) : ofCalls cs = assembled cs := by
  induction cs using List.reverseRecOn with
  | nil => rfl
  | append_singleton cs c ih => rw [ofCalls_concat, ih, assembled_concat]

theorem ofCalls_congr (h : ∀ k, part k cs = part k ds) : ofCalls cs = ofCalls ds := by
  rw [ofCalls_eq, ofCalls_eq]
  unfold assembled
  simp only [h]

/-- Two steps for different clauses may change places. -/
theorem part_swap (h : x.aspect ≠ y.aspect) (k : Aspect) :
    part k (cs ++ x :: y :: ds) = part k (cs ++ y :: x :: ds) := by
  unfold part
  rw [List.filter_append, List.filter_append]
  by_cases hx : x.aspect = k
  · have hy : y.aspect ≠ k := fun hy => h (hx.trans hy.symm)
    simp [hx, hy]
  · simp [List.filter_cons, hx]

/-! ## Conditions -/

theorem part_others_self (k : Aspect) (cs : List Call) : part k (others k cs) = [] := by
  simp [part, others]

theorem part_others_of_ne (h : j ≠ k) (cs : List Call) : part j (others k cs) = part j cs := by
  unfold part others
  rw [List.filter_filter]
  refine List.filter_congr fun c _ => ?_
  by_cases hc : c.aspect = j
  · simp [hc, h]
  · simp [hc]

theorem assembled_others_wheres (cs : List Call) :
    assembled (others .wheres cs) = { assembled cs with wheres := [] } := by
  simp [assembled, part_others_self, part_others_of_ne, conditions]

theorem assembled_others_having (cs : List Call) :
    assembled (others .having cs) = { assembled cs with having := [] } := by
  simp [assembled, part_others_self, part_others_of_ne]

end Select

/-- Only the conjunction of a list of conditions is written. -/
theorem Scope.conditions_congr {ps qs : List Predicate} (s : Scope) (head : String)
    (h : Predicate.conjunction? ps = Predicate.conjunction? qs) :
    s.conditions head ps = s.conditions head qs := by
  unfold conditions
  rw [h]

theorem Predicate.conjunction?_cons (p : Predicate) (ps : List Predicate) :
    conjunction? (p :: ps) = conjunction? [ps.foldl .and p] := rfl

namespace Select

theorem build_conditions (q : Select) {ps ps' hs hs' : List Predicate}
    (hwheres : Predicate.conjunction? ps = Predicate.conjunction? ps')
    (hhaving : Predicate.conjunction? hs = Predicate.conjunction? hs') :
    build { q with wheres := ps, having := hs } d e =
      build { q with wheres := ps', having := hs' } d e := by
  unfold build render
  simp only [Scope.conditions_congr _ _ hwheres, Scope.conditions_congr _ _ hhaving]

/-- **Conditions may be given in any number of steps**, or as one conjunction. -/
theorem build_gathered_wheres {p : Predicate} {ps : List Predicate}
    (h : conditions (part .wheres cs) = p :: ps) (d : Dialect) (e : Entity) :
    (ofCalls cs).build d e =
      (ofCalls (others .wheres cs ++ [.andWhere (ps.foldl .and p)])).build d e := by
  have hlist : ofCalls cs = { assembled cs with wheres := p :: ps } := by
    rw [ofCalls_eq, ← h]
    rfl
  have hone : ofCalls (others .wheres cs ++ [.andWhere (ps.foldl .and p)]) =
      { assembled cs with wheres := [ps.foldl .and p] } := by
    rw [ofCalls_concat, ofCalls_eq, assembled_others_wheres]
    rfl
  rw [hlist, hone]
  exact build_conditions _ (Predicate.conjunction?_cons p ps) rfl

theorem build_gathered_having {p : Predicate} {ps : List Predicate}
    (h : (part .having cs).filterMap Call.having? = p :: ps) (d : Dialect) (e : Entity) :
    (ofCalls cs).build d e =
      (ofCalls (others .having cs ++ [.having (ps.foldl .and p)])).build d e := by
  have hlist : ofCalls cs = { assembled cs with having := p :: ps } := by
    rw [ofCalls_eq, ← h]
    rfl
  have hone : ofCalls (others .having cs ++ [.having (ps.foldl .and p)]) =
      { assembled cs with having := [ps.foldl .and p] } := by
    rw [ofCalls_concat, ofCalls_eq, assembled_others_having]
    rfl
  rw [hlist, hone]
  exact build_conditions _ rfl (Predicate.conjunction?_cons p ps)

end Select

/-! ## Joins -/

/-- The second condition is the first with its list of conditions as one. -/
inductive JoinCondition.Merges : JoinCondition → JoinCondition → Prop where
  | same (c : JoinCondition) : Merges c c
  | on (p : Predicate) (ps : List Predicate) : Merges (.on (p :: ps)) (.on [ps.foldl .and p])

/-- The second tree is the first with lists of conditions as one, at any of its joins. -/
inductive TableRef.Merges : TableRef → TableRef → Prop where
  | table (t : Table) : Merges (.table t) (.table t)
  | join (k : JoinKind) {l l' r r' : TableRef} {c c' : JoinCondition} (left : l.Merges l')
    (right : r.Merges r') (condition : c.Merges c') : Merges (.join k l r c) (.join k l' r' c')

/-- The condition of a join sees the first table of the left side only. -/
theorem Scope.joinCondition_congr {l l' : TableRef} (s : Scope) (h : l.leftmost = l'.leftmost)
    (c : JoinCondition) : s.joinCondition l c = s.joinCondition l' c := by
  cases c with
  | on ps => rfl
  | «using» fields =>
    cases fields with
    | nil => rfl
    | cons field fields =>
      unfold joinCondition
      rw [h]

theorem JoinCondition.Merges.joinCondition {c c' : JoinCondition} (h : c.Merges c') (s : Scope)
    (l : TableRef) : s.joinCondition l c = s.joinCondition l c' := by
  cases h with
  | same => rfl
  | on p ps => exact s.conditions_congr " ON " (Predicate.conjunction?_cons p ps)

namespace TableRef.Merges

variable {t u : TableRef}

theorem find? (h : t.Merges u) (e : Entity) : t.find? e = u.find? e := by
  induction h with
  | table t => rfl
  | join k _ _ _ ihl ihr => rw [TableRef.find?, TableRef.find?, ihl, ihr]

theorem leftmost (h : t.Merges u) : t.leftmost = u.leftmost := by
  induction h with
  | table t => rfl
  | join k _ _ _ ihl _ => exact ihl

theorem qualifier (h : t.Merges u) (m : Model) :
    Qualifier.of m (some t) = Qualifier.of m (some u) := by
  have hfind := h.find? m.entity
  cases h with
  | table t => rfl
  | join k _ _ _ =>
    unfold Qualifier.of
    dsimp only
    rw [hfind]

theorem tableRef (h : t.Merges u) (s : Scope) : s.tableRef t = s.tableRef u := by
  induction h with
  | table t => rfl
  | join k hl _ hc ihl ihr =>
    rw [Scope.tableRef, Scope.tableRef, ihl, ihr, s.joinCondition_congr hl.leftmost,
      hc.joinCondition]

/-- **Joins on a list of conditions are those on its conjunction.** -/
theorem build_eq (h : t.Merges u) (q : Select) (d : Dialect) (e : Entity) :
    Select.build { q with source := some t } d e =
      Select.build { q with source := some u } d e := by
  unfold Select.build Select.render
  simp only [Select.sourceText, h.tableRef, h.qualifier]

end TableRef.Merges

/-! ## DELETE -/

namespace Delete

@[simp] def Call.target? : Call → Option TableRef
  | .target t => some t
  | _ => none

@[simp] def Call.wheres? : Call → Option (List Predicate)
  | .andWhere p => some [p]
  | .whereAll ps => some ps
  | _ => none

/-- The conditions that steps give, in order. -/
def conditions (cs : List Call) : List Predicate := (cs.filterMap Call.wheres?).flatten

/-- The steps that give no condition. -/
def others (cs : List Call) : List Call := cs.filter (·.wheres?.isNone)

theorem ofCalls_concat (cs : List Call) (c : Call) : ofCalls (cs ++ [c]) = (ofCalls cs).call c :=
  List.foldl_append

/-- **The target and the conditions are made by the steps for them.** -/
theorem ofCalls_eq (cs : List Call) :
    ofCalls cs = ⟨(cs.filterMap Call.target?).getLast?, conditions cs⟩ := by
  induction cs using List.reverseRecOn with
  | nil => rfl
  | append_singleton cs c ih =>
    rw [ofCalls_concat, ih]
    cases c <;> simp [call, conditions]

theorem conditions_others (cs : List Call) : conditions (others cs) = [] := by
  have hnone : (others cs).filterMap Call.wheres? = [] := by
    rw [List.filterMap_eq_nil_iff]
    intro c hc
    exact Option.isNone_iff_eq_none.1 (List.mem_filter.1 hc).2
  rw [conditions, hnone, List.flatten_nil]

theorem target_others (cs : List Call) :
    (others cs).filterMap Call.target? = cs.filterMap Call.target? := by
  rw [others, List.filterMap_filter]
  congr 1
  funext c
  cases c with
  | target t => rfl
  | andWhere p => rfl
  | whereAll ps => rfl

theorem build_gathered {cs : List Call} {p : Predicate} {ps : List Predicate}
    (h : conditions cs = p :: ps) (d : Dialect) (e : Entity) :
    (ofCalls cs).build d e = (ofCalls (others cs ++ [.andWhere (ps.foldl .and p)])).build d e := by
  have hlist := ofCalls_eq cs
  have hone : ofCalls (others cs ++ [.andWhere (ps.foldl .and p)]) =
      ⟨(cs.filterMap Call.target?).getLast?, [ps.foldl .and p]⟩ := by
    rw [ofCalls_concat, ofCalls_eq, conditions_others, target_others]
    rfl
  have hconditions := fun scope : Scope =>
    scope.conditions_congr " WHERE " (Predicate.conjunction?_cons p ps)
  rw [hlist, h, hone]
  unfold build render
  simp only [hconditions]

end Delete

/-! ## Statements -/

namespace Select

/-- **Statements are made by their clauses.** A SELECT is what the steps for each clause make by
themselves, so that steps for different clauses may change places. Its conditions, given one by one
or in lists, are built like their conjunction, and so are those of its joins and of a DELETE. -/
theorem build_by_clauses (d : Dialect) (e : Entity) :
    (∀ cs, ofCalls cs = assembled cs) ∧
    (∀ cs ds, (∀ k, part k cs = part k ds) → (ofCalls cs).build d e = (ofCalls ds).build d e) ∧
    (∀ cs x y ds, x.aspect ≠ y.aspect →
      (ofCalls (cs ++ x :: y :: ds)).build d e = (ofCalls (cs ++ y :: x :: ds)).build d e) ∧
    (∀ cs p ps, conditions (part .wheres cs) = p :: ps → (ofCalls cs).build d e =
      (ofCalls (others .wheres cs ++ [.andWhere (ps.foldl .and p)])).build d e) ∧
    (∀ cs p ps, (part .having cs).filterMap Call.having? = p :: ps → (ofCalls cs).build d e =
      (ofCalls (others .having cs ++ [.having (ps.foldl .and p)])).build d e) ∧
    (∀ (q : Select) (t u : TableRef), t.Merges u →
      build { q with source := some t } d e = build { q with source := some u } d e) ∧
    ∀ cs p ps, Delete.conditions cs = p :: ps → (Delete.ofCalls cs).build d e =
      (Delete.ofCalls (Delete.others cs ++ [.andWhere (ps.foldl .and p)])).build d e := by
  refine ⟨ofCalls_eq, ?_, ?_, ?_, ?_, ?_, ?_⟩
  · intro cs ds h
    rw [ofCalls_congr h]
  · intro cs x y ds h
    rw [ofCalls_congr (part_swap h)]
  · exact fun cs p ps h => build_gathered_wheres h d e
  · exact fun cs p ps h => build_gathered_having h d e
  · exact fun q t u h => h.build_eq q d e
  · exact fun cs p ps h => Delete.build_gathered h d e

end Select

namespace Sample

def nick : SelectItem := .column ⟨"nick", none, none, none⟩

/-- Steps in no order, of which a list and a limit are replaced. -/
def scattered : List Select.Call :=
  [.andWhere grown, .select (.raw ⟨"1", []⟩), .limit 3, .whereAll [], .having named,
    .columns [nick], .source leftDeep, .whereAll [named, eitherFirst], .having grown, .limit 0,
    .select nick, .offset 2, .andWhere bothFirst]

/-- The same steps for each clause. -/
def gathered : List Select.Call :=
  [.limit 3, .limit 0, .offset 2, .having named, .having grown, .andWhere grown, .whereAll [],
    .whereAll [named, eitherFirst], .andWhere bothFirst, .source leftDeep,
    .select (.raw ⟨"1", []⟩), .columns [nick], .select nick]

/-- People and cities, on some conditions. -/
def joined (ps : List Predicate) : TableRef :=
  .join .left (.join .inner (.table ⟨person, none⟩) (.table ⟨city, none⟩) (.on ps))
    (.table ⟨city, some "c"⟩) (.using ["id"])

/-- A DELETE of some people. -/
def removal : List Delete.Call :=
  [.whereAll [grown, named], .target (.table ⟨person, none⟩), .whereAll [], .andWhere bothFirst]

end Sample

namespace Select

open Sample

theorem build_by_clauses_scattered :
    (∀ k, part k scattered = part k gathered) ∧
    (ofCalls scattered).build .mysql person = (ofCalls gathered).build .mysql person ∧
    conditions (part .wheres scattered) = [grown, named, eitherFirst, bothFirst] ∧
    (ofCalls scattered).build .mysql person = (ofCalls (others .wheres scattered ++
      [.andWhere (((grown.and named).and eitherFirst).and bothFirst)])).build .mysql person ∧
    (ofCalls scattered).build .mysql person =
      (ofCalls (others .having scattered ++ [.having (named.and grown)])).build .mysql person ∧
    (joined [grown, named]).Merges (joined [grown.and named]) ∧
    build { everything with source := some (joined [grown, named]) } .sqlite city =
      build { everything with source := some (joined [grown.and named]) } .sqlite city ∧
    (Delete.ofCalls removal).build .mysql person = (Delete.ofCalls (Delete.others removal ++
      [.andWhere ((grown.and named).and bothFirst)])).build .mysql person := by
  obtain ⟨-, hparts, -, hwheres, hhaving, -, hdelete⟩ := build_by_clauses .mysql person
  obtain ⟨-, -, -, -, -, hjoin, -⟩ := build_by_clauses .sqlite city
  have hsame : ∀ k, part k scattered = part k gathered := by
    intro k
    cases k <;> rfl
  have hmerges : (joined [grown, named]).Merges (joined [grown.and named]) :=
    .join .left (.join .inner (.table _) (.table _) (.on grown [named])) (.table _) (.same _)
  refine ⟨hsame, hparts _ _ hsame, rfl, ?_, ?_, hmerges, ?_, ?_⟩
  · exact hwheres scattered grown [named, eitherFirst, bothFirst] rfl
  · exact hhaving scattered named [grown] rfl
  · exact hjoin everything _ _ hmerges
  · exact hdelete removal grown [named, bothFirst] rfl

end Select

end RecordSql
