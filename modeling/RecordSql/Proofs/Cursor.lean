import Mathlib.Data.List.Induction
import RecordSql.Rows

/-!
# A cursor shows every row once

Rows may be pushed at any time, between moves and scans. What has been shown so far are the first
rows pushed, and a move shows the next one as long as there is one.

A move that fails leaves the cursor at the place of the row that is pushed next. That row is shown
by its push, and no move shows it.

* `Rows.Use`: a use of a cursor; `Rows.useAll` is a run of uses.
* `Rows.delivered`, `Rows.lastMove`: the rows that moves show, and what the last move answered.
* `Rows.Faithful`: the rows pushed are delivered in order, one a move, and no other row is scanned.
* `Rows.take_use`: **each use shows the next row or none**.
* `Rows.shown_eq`: so what a run has shown are the first rows pushed.
* `Rows.faithful_iff`: **a cursor is faithful all along a run iff no row is pushed after a failed
  move**, and in any case every row is shown once, in order.
-/

namespace RecordSql.Rows

/-! ## Runs -/

/-- A use of a cursor. -/
inductive Use where
  | push (row : List Value)
  | next
  | scan (slots : List Slot)

/-- The cursor after a use. A scan leaves it as it is. -/
def use (r : Rows) : Use → Rows
  | .push row => r.push row
  | .next => r.next.2
  | .scan _ => r

/-- The cursor after uses, one after the other. -/
def useAll (r : Rows) (us : List Use) : Rows := us.foldl use r

/-- The rows that uses push. -/
def pushed (us : List Use) : List (List Value) :=
  us.filterMap fun
    | .push row => some row
    | .next | .scan _ => none

/-- What a use answers if it is a move, with the row that is current afterwards. -/
def move (r : Rows) : Use → List (Bool × Option (List Value))
  | .next => [(r.next.1, r.next.2.current?)]
  | .push _ | .scan _ => []

/-- What moves answer, in order, with the rows that are current afterwards. -/
def moves : Rows → List Use → List (Bool × Option (List Value))
  | _, [] => []
  | r, u :: us => r.move u ++ moves (r.use u) us

/-- The rows that are current after the moves that succeed, in order. -/
def delivered (r : Rows) (us : List Use) : List (Option (List Value)) :=
  ((moves r us).filter Prod.fst).map Prod.snd

/-- What the last move answered. -/
def lastMove (r : Rows) (us : List Use) : Option Bool := (moves r us).getLast?.map Prod.fst

/-- A fresh cursor, after uses of it, has delivered what it should have and goes on to do so. -/
structure Faithful (columns : List String) (us : List Use) : Prop where
  /-- The rows delivered are the first ones that were pushed. -/
  order : delivered (ofColumns columns) us <+: (pushed us).map some
  /-- The next move succeeds if there is a row that has not been delivered. -/
  progress : (delivered (ofColumns columns) us).length < (pushed us).length →
    ((ofColumns columns).useAll us).next.1 = true
  /-- There is no row to scan before the first move and after one that has failed. -/
  idle : lastMove (ofColumns columns) us ≠ some true → ∀ slots,
    ((ofColumns columns).useAll us).scan slots =
      ⟨[], some (.other "scan called without a current row")⟩

/-- No row is pushed after a move that has failed, until another one has succeeded. -/
def Prompt (columns : List String) (us : List Use) : Prop :=
  ∀ before row, before ++ [.push row] <+: us → lastMove (ofColumns columns) before ≠ some false

/-- The cursor is behind its last row, which is where the next row that is pushed will be. -/
def AtEnd (r : Rows) : Prop := r.position = some r.size

instance (r : Rows) : Decidable r.AtEnd := inferInstanceAs (Decidable (_ = _))

/-- The row that a use shows: the one that the cursor moves to, or the one that is pushed where it
is. -/
def shows (r : Rows) : Use → List (Option (List Value))
  | .next => if r.next.1 then [r.next.2.current?] else []
  | .push row => if r.AtEnd then [some row] else []
  | .scan _ => []

/-- The rows that uses show, in order. -/
def shown : Rows → List Use → List (Option (List Value))
  | _, [] => []
  | r, u :: us => r.shows u ++ shown (r.use u) us

variable {r : Rows} {columns : List String} {us : List Use}

theorem useAll_cons (r : Rows) (u : Use) (us : List Use) :
    r.useAll (u :: us) = (r.use u).useAll us := rfl

theorem useAll_concat (r : Rows) (us : List Use) (u : Use) :
    r.useAll (us ++ [u]) = (r.useAll us).use u := by
  rw [useAll, List.foldl_append]
  rfl

theorem moves_append (r : Rows) (us vs : List Use) :
    moves r (us ++ vs) = moves r us ++ moves (r.useAll us) vs := by
  induction us generalizing r with
  | nil => rfl
  | cons u us ih => rw [List.cons_append, moves, moves, ih, useAll_cons, List.append_assoc]

theorem moves_concat (r : Rows) (us : List Use) (u : Use) :
    moves r (us ++ [u]) = moves r us ++ (r.useAll us).move u := by
  rw [moves_append, moves, moves, List.append_nil]

theorem shown_concat (r : Rows) (us : List Use) (u : Use) :
    shown r (us ++ [u]) = shown r us ++ (r.useAll us).shows u := by
  induction us generalizing r with
  | nil => rw [List.nil_append, shown, shown, shown, List.append_nil]; rfl
  | cons v us ih => rw [List.cons_append, shown, shown, ih, useAll_cons, List.append_assoc]

/-! ## Places -/

/-- The number of rows up to the place of the cursor, its own row included. -/
def reached (r : Rows) : ℕ := r.position.elim 0 (· + 1)

/-- The cursor is at a row, or at the end. -/
def InRange (r : Rows) : Prop := ∀ i, r.position = some i → i ≤ r.size

theorem next_eq (r : Rows) : r.next =
    if r.reached < r.size then (true, { r with position := some r.reached })
    else (false, { r with position := some r.size }) := by
  unfold next reached
  cases r.position <;> rfl

theorem rows_next (r : Rows) : r.next.2.rows = r.rows := by
  rw [next_eq]
  split <;> rfl

/-- The rows of a cursor are those pushed. -/
theorem rows_useAll (r : Rows) (us : List Use) : (r.useAll us).rows = r.rows ++ pushed us := by
  induction us generalizing r with
  | nil => exact (List.append_nil _).symm
  | cons u us ih =>
    rw [useAll_cons, ih]
    cases u with
    | push row => exact List.append_assoc _ _ _
    | next => exact congrArg (· ++ pushed us) r.rows_next
    | scan slots => rfl

theorem next_succeeds : r.next.1 = true ↔ r.reached < r.size := by
  rw [next_eq]
  split
  · exact ⟨fun _ => ‹_›, fun _ => rfl⟩
  · exact ⟨nofun, fun h => absurd h ‹_›⟩

theorem next_of_lt (h : r.reached < r.size) :
    r.next = (true, { r with position := some r.reached }) := by
  rw [next_eq, if_pos h]

theorem next_of_ge (h : r.size ≤ r.reached) :
    r.next = (false, { r with position := some r.size }) := by
  rw [next_eq, if_neg (Nat.not_lt.2 h)]

theorem AtEnd.current? (h : r.AtEnd) : r.current? = none := by
  unfold Rows.current?
  rw [h]
  exact List.getElem?_eq_none (Nat.le_refl _)

/-- A cursor that is at no row has not been moved yet, or is at the end. -/
theorem InRange.of_idle (h : r.InRange) (hr : r.current? = none) :
    r.position = none ∨ r.AtEnd := by
  cases hp : r.position with
  | none => exact .inl rfl
  | some i =>
    unfold Rows.current? at hr
    rw [hp] at hr
    have hi : r.size ≤ i := List.getElem?_eq_none_iff.1 hr
    exact .inr (hp.trans (congrArg some (Nat.le_antisymm (h i hp) hi)))

/-- A cursor that is not at the end has gone no further than its rows. -/
theorem InRange.reached_le (h : r.InRange) (hr : ¬ r.AtEnd) : r.reached ≤ r.size := by
  unfold reached
  cases hp : r.position with
  | none => exact Nat.zero_le _
  | some i =>
    have hne : i ≠ r.size := by
      rintro rfl
      exact hr hp
    exact Nat.lt_of_le_of_ne (h i hp) hne

theorem AtEnd.reached (h : r.AtEnd) : r.reached = r.size + 1 := by
  unfold Rows.reached
  rw [h]
  rfl

theorem inRange_ofColumns (columns : List String) : (ofColumns columns).InRange := nofun

theorem inRange_use (h : r.InRange) (u : Use) : (r.use u).InRange := by
  intro i hi
  cases u with
  | push row =>
    have hle : i ≤ r.size := h i hi
    show i ≤ (r.rows ++ [row]).length
    rw [List.length_append]
    exact Nat.le_trans hle (Nat.le_add_right _ _)
  | next =>
    show i ≤ r.next.2.rows.length
    rw [rows_next]
    replace hi : r.next.2.position = some i := hi
    rw [next_eq] at hi
    split at hi
    · cases hi
      exact Nat.le_of_lt ‹_›
    · cases hi
      exact Nat.le_refl _
  | scan slots => exact h i hi

theorem inRange_useAll (h : r.InRange) (us : List Use) : (r.useAll us).InRange := by
  induction us generalizing r with
  | nil => exact h
  | cons u us ih => exact ih (inRange_use h u)

/-! ## What is shown -/

/-- **Each use shows the next row or none.** -/
theorem take_use (h : r.InRange) (u : Use) :
    ((r.use u).rows.take (r.use u).reached).map some =
      (r.rows.take r.reached).map some ++ r.shows u := by
  cases u with
  | push row =>
    show ((r.rows ++ [row]).take r.reached).map some = _
    by_cases hend : r.AtEnd
    · -- the cursor is at the place of the new row
      have hlen : r.rows.length ≤ r.reached := by
        rw [hend.reached]
        exact Nat.le_succ _
      have hall : (r.rows ++ [row]).length ≤ r.reached := by
        rw [hend.reached, List.length_append]
        exact Nat.le_refl _
      rw [shows, if_pos hend, List.take_of_length_le hall, List.take_of_length_le hlen,
        List.map_append]
      rfl
    · rw [shows, if_neg hend, List.append_nil, List.take_append_of_le_length (h.reached_le hend)]
  | next =>
    by_cases hlt : r.reached < r.size
    · obtain ⟨row, hrow⟩ : ∃ row, r.rows[r.reached]? = some row :=
        ⟨_, List.getElem?_eq_getElem hlt⟩
      rw [use, shows, next_of_lt hlt]
      show (r.rows.take (r.reached + 1)).map some = _ ++ [r.rows[r.reached]?]
      rw [hrow, List.take_add_one, hrow, List.map_append]
      rfl
    · have hle : r.size ≤ r.reached := Nat.not_lt.1 hlt
      rw [use, shows, next_of_ge hle]
      have hall : r.rows.length ≤ r.size + 1 := Nat.le_succ _
      show (r.rows.take (r.size + 1)).map some = _ ++ []
      rw [List.append_nil, List.take_of_length_le hall, List.take_of_length_le hle]
  | scan slots => exact (List.append_nil _).symm

theorem take_useAll (h : r.InRange) (us : List Use) :
    ((r.useAll us).rows.take (r.useAll us).reached).map some =
      (r.rows.take r.reached).map some ++ shown r us := by
  induction us generalizing r with
  | nil => exact (List.append_nil _).symm
  | cons u us ih => rw [useAll_cons, ih (inRange_use h u), take_use h, shown, List.append_assoc]

/-- **What a run has shown are the first rows pushed**, each of them once. -/
theorem shown_eq (columns : List String) (us : List Use) :
    shown (ofColumns columns) us =
      ((pushed us).take ((ofColumns columns).useAll us).reached).map some := by
  have h := take_useAll (inRange_ofColumns columns) us
  rw [rows_useAll] at h
  exact h.symm

theorem size_useAll (columns : List String) (us : List Use) :
    ((ofColumns columns).useAll us).size = (pushed us).length :=
  congrArg List.length (rows_useAll _ _)

/-- **A move succeeds as long as there is a row that has not been shown.** -/
theorem next_iff_shown (columns : List String) (us : List Use) :
    ((ofColumns columns).useAll us).next.1 = true ↔
      (shown (ofColumns columns) us).length < (pushed us).length := by
  rw [next_succeeds, size_useAll, shown_eq, List.length_map, List.length_take]
  omega

/-! ## What moves tell -/

theorem lastMove_next (r : Rows) (us : List Use) :
    lastMove r (us ++ [.next]) = some (r.useAll us).next.1 := by
  rw [lastMove, moves_concat, move, List.getLast?_append]
  rfl

theorem lastMove_of_move (r : Rows) (us : List Use) {u : Use} (hu : (r.useAll us).move u = []) :
    lastMove r (us ++ [u]) = lastMove r us := by
  rw [lastMove, moves_concat, hu, List.append_nil]
  rfl

/-- The cursor has no place iff it has not been moved yet. -/
theorem position_eq_none (columns : List String) (us : List Use) :
    ((ofColumns columns).useAll us).position = none ↔ lastMove (ofColumns columns) us = none := by
  induction us using List.reverseRecOn with
  | nil => exact ⟨fun _ => rfl, fun _ => rfl⟩
  | append_singleton us u ih =>
    rw [useAll_concat]
    cases u with
    | push row =>
      rw [lastMove_of_move _ _ rfl]
      exact ih
    | next =>
      rw [lastMove_next, use, next_eq]
      split <;> exact ⟨nofun, nofun⟩
    | scan slots =>
      rw [lastMove_of_move _ _ rfl]
      exact ih

/-- A move has led to the end, and that failed. -/
theorem lastMove_of_atEnd (h : ((ofColumns columns).useAll us).AtEnd) :
    lastMove (ofColumns columns) us = some false := by
  induction us using List.reverseRecOn with
  | nil => cases h
  | append_singleton us u ih =>
    rw [useAll_concat] at h
    cases u with
    | push row =>
      -- the row that was pushed is behind the cursor or at its place, so this is not the end
      have hle := inRange_useAll (inRange_ofColumns columns) us _ h
      rw [use, size, push, List.length_append] at hle
      exact absurd hle (Nat.not_succ_le_self _)
    | next =>
      rw [lastMove_next, Option.some.injEq, ← Bool.not_eq_true, next_succeeds]
      intro hlt
      rw [use, next_of_lt hlt] at h
      exact absurd (Option.some.inj h) (Nat.ne_of_lt hlt)
    | scan slots =>
      rw [lastMove_of_move _ _ rfl]
      exact ih h

theorem delivered_concat (r : Rows) (us : List Use) (u : Use) :
    delivered r (us ++ [u]) =
      delivered r us ++ (((r.useAll us).move u).filter Prod.fst).map Prod.snd := by
  rw [delivered, moves_concat, List.filter_append, List.map_append]
  rfl

theorem Prompt.of_prefix {vs : List Use} (h : Prompt columns us) (hvs : vs <+: us) :
    Prompt columns vs :=
  fun before row hb => h before row (hb.trans hvs)

/-- **If no row is pushed after a failed move** then only moves show rows, and a cursor is at the
end when a move has failed. -/
theorem Prompt.delivered_eq (h : Prompt columns us) :
    delivered (ofColumns columns) us = shown (ofColumns columns) us ∧
      (lastMove (ofColumns columns) us = some false → ((ofColumns columns).useAll us).AtEnd) := by
  induction us using List.reverseRecOn with
  | nil => exact ⟨rfl, nofun⟩
  | append_singleton us u ih =>
    obtain ⟨hshown, hend⟩ := ih (h.of_prefix (List.prefix_append _ _))
    rw [delivered_concat, shown_concat, hshown, useAll_concat]
    cases u with
    | push row =>
      have hmoved : lastMove (ofColumns columns) us ≠ some false := h us row (List.prefix_refl _)
      rw [lastMove_of_move _ _ rfl, shows, if_neg (mt lastMove_of_atEnd hmoved)]
      exact ⟨rfl, fun hlast => absurd hlast hmoved⟩
    | next =>
      rw [lastMove_next, move, shows, use, next_eq]
      split
      · exact ⟨rfl, nofun⟩
      · exact ⟨rfl, fun _ => rfl⟩
    | scan slots =>
      rw [lastMove_of_move _ _ rfl]
      exact ⟨rfl, hend⟩

/-! ## Faithful runs -/

theorem Prompt.faithful (h : Prompt columns us) : Faithful columns us := by
  obtain ⟨hshown, hend⟩ := h.delivered_eq
  refine ⟨?_, ?_, ?_⟩
  · rw [hshown, shown_eq]
    exact (List.take_prefix _ _).map some
  · rw [hshown]
    exact (next_iff_shown columns us).2
  · intro hlast slots
    apply scan_of_none
    cases hmove : lastMove (ofColumns columns) us with
    | none =>
      rw [Rows.current?, (position_eq_none columns us).2 hmove]
      rfl
    | some ok =>
      cases ok with
      | false => exact (hend hmove).current?
      | true => exact absurd hmove hlast

theorem expects_ne (rest : List String) :
    String.join ("scan expects " :: rest) ≠ "scan called without a current row" := by
  intro h
  have hlead := congrArg (fun s => s.toList.take 6) h
  simp at hlead

theorem store_no_slots (cs : List String) (vs : List Value) : store cs [] vs = ⟨[], none⟩ := by
  cases cs <;> rfl

/-- Where every scan fails for lack of a row there is none. -/
theorem current?_of_scan (h : ∀ slots, r.scan slots =
    ⟨[], some (.other "scan called without a current row")⟩) : r.current? = none := by
  cases hrow : r.current? with
  | none => rfl
  | some row =>
    -- a scan of a row into no slots stores nothing or fails for its length
    have hscan := h []
    rw [scan, hrow] at hscan
    dsimp only at hscan
    split at hscan
    · exact absurd (Error.other.inj (Option.some.inj (congrArg Scan.fault hscan))) (expects_ne _)
    · rw [store_no_slots] at hscan
      cases hscan

theorem AtEnd.push (h : r.AtEnd) (row : List Value) : (r.push row).current? = some row := by
  show r.position.bind ((r.rows ++ [row])[·]?) = some row
  rw [h]
  exact List.getElem?_concat_length

/-- A row that is pushed after a failed move is current at once, when no row should be. -/
theorem Faithful.not_late {row : List Value} (h : Faithful columns us)
    (hpush : Faithful columns (us ++ [.push row])) :
    lastMove (ofColumns columns) us ≠ some false := by
  intro hlast
  have hfailed : lastMove (ofColumns columns) us ≠ some true := by
    rw [hlast]
    nofun
  have hend : ((ofColumns columns).useAll us).AtEnd := by
    have hidle := current?_of_scan (h.idle hfailed)
    rcases (inRange_useAll (inRange_ofColumns columns) us).of_idle hidle with hnone | hend
    · rw [position_eq_none, hlast] at hnone
      cases hnone
    · exact hend
  have hidle := current?_of_scan (hpush.idle (by rwa [lastMove_of_move _ _ rfl]))
  rw [useAll_concat, use, hend.push] at hidle
  cases hidle

/-- The row at the cursor is the last one shown. -/
theorem getLast?_shown {row : List Value}
    (h : ((ofColumns columns).useAll us).current? = some row) :
    (shown (ofColumns columns) us).getLast? = some (some row) := by
  obtain ⟨i, hi, hrow⟩ := Option.bind_eq_some_iff.1 h
  rw [rows_useAll] at hrow
  replace hrow : (pushed us)[i]? = some row := hrow
  have hreached : ((ofColumns columns).useAll us).reached = i + 1 := by
    unfold reached
    rw [hi]
    rfl
  rw [shown_eq, hreached, List.take_add_one, hrow, List.map_append, List.getLast?_append]
  rfl

/-- **A cursor is faithful all along a run iff no row is pushed after a failed move.** In any case

* the rows shown, by a move or by their push, are the first ones that were pushed;
* the next move succeeds iff there is a row that has not been shown;
* a row that can be scanned is the last one shown. -/
theorem faithful_iff (columns : List String) (us : List Use) :
    ((∀ before, before <+: us → Faithful columns before) ↔ Prompt columns us) ∧
      shown (ofColumns columns) us <+: (pushed us).map some ∧
      (((ofColumns columns).useAll us).next.1 = true ↔
        (shown (ofColumns columns) us).length < (pushed us).length) ∧
      ∀ row, ((ofColumns columns).useAll us).current? = some row →
        (shown (ofColumns columns) us).getLast? = some (some row) := by
  refine ⟨⟨?_, ?_⟩, ?_, next_iff_shown columns us, fun row => getLast?_shown⟩
  · intro h before row hb
    exact (h before ((List.prefix_append _ _).trans hb)).not_late (h _ hb)
  · exact fun h before hb => (h.of_prefix hb).faithful
  · rw [shown_eq]
    exact (List.take_prefix _ _).map some

/-- A row is pushed after a move that has failed, and another one behind it. -/
def late : List Use := [.push [.int 1], .next, .next, .push [.int 2], .push [.int 3]]

theorem prompt_late : Prompt ["id"] (late.take 3) := by
  rintro before row ⟨rest, h⟩
  have hsplit : before ++ .push row :: rest = [.push [.int 1], .next, .next] :=
    (List.append_assoc before [.push row] rest).symm.trans h
  -- the one row is pushed before any move
  rcases before with _ | ⟨u, _ | ⟨v, _ | ⟨w, before⟩⟩⟩
  · decide
  · cases hsplit
  · cases hsplit
  · have hlen := congrArg List.length hsplit
    simp at hlen

/-- The cursor is faithful up to the failed move, and not all along. The last row is still to be
shown, by the next move. -/
theorem faithful_iff_late : Prompt ["id"] (late.take 3) ∧
    (∀ before, before <+: late.take 3 → Faithful ["id"] before) ∧
    ¬ (∀ before, before <+: late → Faithful ["id"] before) ∧
    ((ofColumns ["id"]).useAll late).next.1 = true ∧
    (shown (ofColumns ["id"]) late).length < (pushed late).length := by
  obtain ⟨hprompt, -⟩ := faithful_iff ["id"] (late.take 3)
  obtain ⟨hlate, -, hnext, -⟩ := faithful_iff ["id"] late
  have hmoves : ((ofColumns ["id"]).useAll late).next.1 = true := by decide
  refine ⟨prompt_late, hprompt.2 prompt_late, ?_, hmoves, hnext.1 hmoves⟩
  intro h
  exact hlate.1 h (late.take 3) [.int 2] (List.take_prefix 4 late) (by decide)

/-- **A row that is pushed after a failed move is lost to moves.** It can be scanned although the
last move has failed, and the next one goes past it. -/
theorem not_faithful_late :
    ¬ Faithful ["id"] (late.take 4) ∧
      lastMove (ofColumns ["id"]) (late.take 4) = some false ∧
      ((ofColumns ["id"]).useAll (late.take 4)).scan [.any ⟨.int, false⟩] = ⟨[.int 2], none⟩ ∧
      pushed (late.take 4) = [[.int 1], [.int 2]] ∧
      delivered (ofColumns ["id"]) (late.take 4) = [some [.int 1]] ∧
      ((ofColumns ["id"]).useAll (late.take 4)).next.1 = false ∧
      delivered (ofColumns ["id"]) (late ++ [.next]) = [some [.int 1], some [.int 3]] := by
  have hscan : ((ofColumns ["id"]).useAll (late.take 4)).scan [.any ⟨.int, false⟩] =
      ⟨[.int 2], none⟩ := by decide
  have hlast : lastMove (ofColumns ["id"]) (late.take 4) = some false := by decide
  refine ⟨?_, hlast, hscan, by decide, by decide, by decide, by decide⟩
  intro h
  have hidle := h.idle (by rw [hlast]; nofun) [.any ⟨.int, false⟩]
  rw [hscan] at hidle
  cases hidle

end RecordSql.Rows
