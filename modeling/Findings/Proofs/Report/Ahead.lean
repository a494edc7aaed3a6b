import Findings.Proofs.Report.Frame
/-!
The defects that are still ahead of a stream, whether or not all numbers on the way can be read. A
call takes the first of them that it can have, and what is lost on the way is lost for good.

* `Cursor.remainder_next`, `Cursor.ahead_read_of_some`, `Cursor.sublist_ahead_read`: one record;
* `Stream.ahead_next`: one call;
* `Stream.ahead_opened`: a document that was just opened.
-/

namespace Findings.Report

open Json (Value)

/-! ## Cursors -/

namespace Cursor

/-- Where results are found, the runs passed over on the way had none. -/
theorem remainder_openRuns (table : Sarif.RuleTable) (runs : List Value)
    (found : (openRuns table runs).pending ≠ []) :
    (runs.flatMap Record.ofRun).map Record.ruled =
      ((openRuns table runs).pending.map fun node => ((openRuns table runs).table, node)) ++
        ((openRuns table runs).runs.flatMap Record.ofRun).map Record.ruled := by
  induction runs generalizing table with
  | nil => exact absurd rfl found
  | cons run runs ih =>
    rw [List.flatMap_cons, List.map_append]
    cases run with
    | object fields =>
      cases read : Sarif.ruleTable (.object fields) with
      | error o => simp [openRuns, read] at found
      | ok own =>
        rw [Record.ruled_ofRun fields own read]
        cases results : Sarif.results (.object fields) with
        | nil =>
          simp only [openRuns, read, results] at found ⊢
          exact ih own found
        | cons node nodes => simp [openRuns, read, results]
    | _ => exact ih table found

variable (k : Kind) (rules : List Cleanup.Rule) (c : Cursor)

/-- A cursor hands out the first record that remains, or nothing remains. -/
theorem remainder_next :
    (∃ node, c.next.record = .ok (some (c.index, node)) ∧
      c.remainder = (c.next.cursor.table, node) :: c.next.cursor.remainder) ∨
    (∀ record, c.next.record ≠ .ok (some record)) ∧ c.next.cursor.remainder = [] := by
  cases pending : c.pending with
  | cons node nodes => exact .inl ⟨node, by simp [next, pending, remainder]⟩
  | nil =>
    cases oversize : (openRuns c.table c.runs).oversize with
    | some o => exact .inr (by simp [next, pending, oversize, remainder])
    | none =>
      cases found : (openRuns c.table c.runs).pending with
      | nil => exact .inr (by simp [next, pending, oversize, found, remainder])
      | cons node nodes =>
        have rest := remainder_openRuns c.table c.runs (by simp [found])
        rw [found] at rest
        exact .inl ⟨node, by simp [next, pending, oversize, found, remainder, rest]⟩

/-- The defect of a record as the cursor hands it out, if it has one. -/
def defect? (record : Sarif.RuleTable × Value) : Option Defect :=
  (Status.ofDecoded (k.decode rules record.1 record.2)).toOption.bind Status.defect?

/-- The defects of the records that remain. -/
def ahead : List Defect := c.remainder.filterMap (defect? k rules)

variable {k rules c}

theorem ahead_read_of_some {o : Outcome} (h : (c.read k rules).outcome = .ok (some o)) :
    c.ahead k rules = o.status.defect?.toList ++ (c.read k rules).cursor.ahead k rules := by
  obtain ⟨node, taken, status⟩ := (c.read_eq_some_iff k rules o).mp h
  rcases c.remainder_next with ⟨node', taken', rest⟩ | ⟨none, -⟩
  · obtain ⟨-, rfl⟩ := Prod.mk.inj (Option.some.inj (eq_of_eq_ok taken taken'))
    have first : defect? k rules (c.next.cursor.table, node) = o.status.defect? := by
      rw [defect?, status]
      rfl
    rw [ahead, rest, List.filterMap_cons, first]
    cases o.status.defect? <;> rfl
  · exact absurd taken (none _)

/-- Whatever a read comes to, it brings nothing back. -/
theorem sublist_ahead_read : ((c.read k rules).cursor.ahead k rules).Sublist (c.ahead k rules) := by
  change (c.next.cursor.ahead k rules).Sublist _
  rcases c.remainder_next with ⟨node, -, rest⟩ | ⟨-, none⟩
  · rw [ahead, ahead, rest]
    exact (List.sublist_cons_self _ _).filterMap _
  · rw [ahead, none]
    exact List.nil_sublist _

end Cursor

/-! ## Streams -/

/-- The defect that an answer gives, if it gives one. -/
def gained : Except Decimal.Oversize (Option Defect) → List Defect
  | .ok (some d) => [d]
  | _ => []

namespace Stream

/-- The defects of the records that are still to be read. -/
def ahead (s : Stream) : List Defect :=
  match s.cursor with
  | none => []
  | some (k, c) => c.ahead k s.rules

theorem ahead_advance (s : Stream) (kind : Kind) (c : Cursor) :
    (gained (s.advance kind c).defect ++ (s.advance kind c).stream.ahead).Sublist
      (c.ahead kind s.rules) := by
  fun_induction advance s kind c with
  | case1 => exact Cursor.sublist_ahead_read
  | case2 => exact Cursor.sublist_ahead_read
  | case3 s c read s' o outcome d decoded =>
    rw [Cursor.ahead_read_of_some outcome, decoded]
    exact .refl _
  | case4 s c read s' o outcome rejected step ih => exact ih.trans Cursor.sublist_ahead_read
  | case5 s c read s' o outcome fault failed behind complaint marked step ih =>
    have same : behind.rules = s.rules := by
      have kept := (s'.kept_complain o fault).rules
      rw [marked] at kept
      exact kept
    rw [same] at ih
    exact ih.trans Cursor.sublist_ahead_read

theorem ahead_of_no_cursor {s : Stream} (hc : s.cursor = none) : s.ahead = [] := by
  rw [ahead, hc]

theorem ahead_of_cursor {s : Stream} {k : Kind} {c : Cursor} (hc : s.cursor = some (k, c)) :
    s.ahead = c.ahead k s.rules := by
  rw [ahead, hc]

/-- **One call.** What it gives was ahead of the stream, and it is not any more. -/
theorem ahead_next (s : Stream) :
    (gained s.next.defect ++ s.next.stream.ahead).Sublist s.ahead := by
  cases hc : s.cursor with
  | none =>
    rw [spent_of_no_cursor hc]
    exact .refl _
  | some place =>
    rw [ahead_of_cursor hc, next, hc]
    exact s.ahead_advance _ _

end Stream

/-! ## Documents -/

theorem defectsOf_mapIdx (statuses : List Status) :
    defectsOf (statuses.mapIdx fun index status => { index, status }) =
      statuses.filterMap Status.defect? := by
  have same : (statuses.mapIdx fun index status => ({ index, status } : Outcome)).map
      Outcome.status = statuses := by
    rw [List.mapIdx_eq_zipIdx_map, List.map_map]
    exact List.zipIdx_map_fst 0 statuses
  conv_rhs => rw [← same, List.filterMap_map]
  rfl

variable {depths : Json.Depths} {d : Document} {rules : List Cleanup.Rule} {k : Kind} {root : Value}

theorem Cursor.ahead_start {c : Cursor} (start : Cursor.start k root = .ok c) :
    c.ahead k rules = defectsOf (k.outcomes rules root) := by
  obtain ⟨all, -, -⟩ := remainder_start start
  rw [ahead, all, List.filterMap_map, Kind.outcomes, defectsOf_mapIdx, List.filterMap_filterMap]
  rfl

/-- Ahead of a document that was just opened, there are the defects of all of its records. -/
theorem Stream.ahead_opened {s : Stream} {notices : List Notice}
    (opened : ofDocument depths d rules = .ok (s, notices)) :
    s.ahead = defectsOf (outcomesOf depths d rules) := by
  rcases done_or_live opened with
    ⟨none, empty, -⟩ | ⟨root, k, c, scan, read, found, start, -, rfl⟩
  · rw [ahead_of_no_cursor none, empty]
    rfl
  · rw [ahead_of_cursor (live_cursor d rules k c scan), live_rules, outcomesOf, read]
    dsimp only
    rw [found]
    exact Cursor.ahead_start start

end Findings.Report
