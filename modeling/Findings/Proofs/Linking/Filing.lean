import Findings.Linking
import Findings.Proofs.Backlog.Stock
import Findings.Proofs.Report.Given
import Mathlib.Data.List.Induction
/-!
Filing the defects of a stream under a normalizer that has an answer for their files.

* `file_next`: filing, one call of the stream at a time;
* `file_eq`: the backlog is that of the defects, in the order in which they come;
* `stock_filed`, `keys_rows_filed`, `keys_row_filed`: each key has its defects in this order, and
  keys stand in the order of their first defects;
* `toList_filed`: nothing is lost or filed twice.
-/

namespace Findings.Linking

open Backlog

variable {ε : Type} (N : String → String)

/-- Puts a defect with events behind those of its key. -/
def filing (b : Backlog) (d : Defect) : Backlog := b.push (N (keyFile d)) d

/-- The backlog of some defects with events. -/
def filed (ds : List Defect) : Backlog := ds.foldl (filing N) {}

theorem filing_eq (b : Backlog) (d : Defect) :
    filing N b d = b.withList (keyOf N d) (b.stock (keyOf N d) ++ [d]) :=
  push_eq b (N (keyFile d)) d

theorem filed_snoc (ds : List Defect) (d : Defect) :
    filed N (ds ++ [d]) = filing N (filed N ds) d := by
  rw [filed, List.foldl_append]
  rfl

theorem insert_of_answer (normalize : Normalizer ε) (b : Backlog) (d : Defect) (h : d.trace ≠ [])
    (answer : normalize (keyFile d) = .ok (N (keyFile d))) :
    b.insert normalize d = .ok (filing N b d) := by
  rw [insert_eq normalize N d h answer, filing_eq]

/-- One call, and what filing makes of it. -/
theorem file_next (normalize : Normalizer ε) (b : Backlog) (s : Report.Stream) :
    file normalize b s =
      match s.next.defect with
      | .error o =>
        { backlog := .error (.oversize o), stream := s.next.stream, notices := s.next.notices }
      | .ok none => { backlog := .ok b, stream := s.next.stream, notices := s.next.notices }
      | .ok (some d) =>
        match b.insert normalize d with
        | .error fault =>
          { backlog := .error (.filing fault), stream := s.next.stream
            notices := s.next.notices }
        | .ok b =>
          { file normalize b s.next.stream with
            notices := s.next.notices ++ (file normalize b s.next.stream).notices } := by
  rw [file]
  dsimp only
  split
  · next h => rw [h]
  · next h => rw [h]
  · next d h =>
    cases inserted : b.insert normalize d with
    | error fault => simp only [h, inserted]
    | ok next => simp only [h, inserted]

theorem file_of_none (normalize : Normalizer ε) (s : Report.Stream) (b : Backlog)
    (h : s.next.defect = .ok none) :
    file normalize b s =
      { backlog := .ok b, stream := s.next.stream, notices := s.next.notices } := by
  rw [file_next]
  simp only [h]

theorem file_of_some (normalize : Normalizer ε) (s : Report.Stream) (b next : Backlog) (d : Defect)
    (h : s.next.defect = .ok (some d)) (hi : b.insert normalize d = .ok next) :
    file normalize b s =
      { file normalize next s.next.stream with
        notices := s.next.notices ++ (file normalize next s.next.stream).notices } := by
  rw [file_next]
  simp only [h, hi]

/-- What gathering yields defect by defect, filing files defect by defect. -/
theorem file_eq (normalize : Normalizer ε) (s : Report.Stream) (ds : List Defect)
    (h : s.gather.defects = .ok ds)
    (answers : ∀ d ∈ ds, normalize (keyFile d) = .ok (N (keyFile d))) (b : Backlog) :
    (file normalize b s).backlog = .ok (ds.foldl (filing N) b) ∧
      (file normalize b s).stream = s.gather.stream := by
  fun_induction Report.Stream.gather s generalizing ds b with
  | case1 s step o hs => simp at h
  | case2 s step hs =>
    rw [Except.ok.injEq] at h
    subst h
    rw [file_of_none _ s b hs]
    exact ⟨rfl, rfl⟩
  | case3 s step d hs rest ih =>
    cases hr : rest.defects with
    | error o => simp [hr, Except.map] at h
    | ok others =>
      simp only [hr, Except.map, Except.ok.injEq] at h
      subst h
      have trace : d.trace ≠ [] := s.trace_next d hs
      obtain ⟨first, later⟩ := List.forall_mem_cons.mp answers
      rw [file_of_some _ s b _ d hs (insert_of_answer N normalize b d trace first)]
      exact ih others hr later (filing N b d)

/-! ## The backlog of some defects -/

theorem wellFormed_filed (ds : List Defect) : (filed N ds).WellFormed := by
  induction ds using List.reverseRecOn with
  | nil => exact wellFormed_empty
  | append_singleton ds d ih =>
    rw [filed_snoc, filing_eq]
    exact ih.withList _ _

theorem stock_filed (ds : List Defect) (k : String × String) :
    (filed N ds).stock k = ds.filter fun d => keyOf N d = k := by
  induction ds using List.reverseRecOn with
  | nil => rfl
  | append_singleton ds d ih =>
    rw [filed_snoc, filing_eq, stock_withList (wellFormed_filed N ds), List.filter_append]
    by_cases h : keyOf N d = k
    · subst h
      simp [ih]
    · simp [ih, h]

theorem eraseDups_snoc (xs : List String) (x : String) :
    (xs ++ [x]).eraseDups = if x ∈ xs then xs.eraseDups else xs.eraseDups ++ [x] := by
  rw [List.eraseDups_append]
  by_cases h : x ∈ xs <;> simp [List.removeAll, h, List.eraseDups_cons]

/-- Rows stand in the order of the first defects of their checkers. -/
theorem keys_rows_filed (ds : List Defect) :
    Assoc.keys (filed N ds).rows = (ds.map Defect.checker).eraseDups := by
  induction ds using List.reverseRecOn with
  | nil => rfl
  | append_singleton ds d ih =>
    have wf := wellFormed_filed N ds
    have wf' := wellFormed_filed N (ds ++ [d])
    -- Filing never empties a row, so only the two ways in which rows are added remain.
    have here : (filed N (ds ++ [d])).row (keyOf N d).1 ≠ [] := by
      have : (filed N (ds ++ [d])).stock (keyOf N d) ≠ [] := by simp [stock_filed]
      have := (wf'.mem_row_iff (keyOf N d)).mpr this
      intro hrow
      rw [hrow] at this
      exact List.not_mem_nil this
    rw [filed_snoc, filing_eq] at here
    rw [filed_snoc, filing_eq, keys_rows_withList wf]
    rw [if_neg here, ih, List.map_append, List.map_singleton, eraseDups_snoc]
    simp only [keyOf, List.mem_eraseDups]

/-- The lists of a row stand in the order of the first defects of their files. -/
theorem keys_row_filed (ds : List Defect) (checker : String) :
    Assoc.keys ((filed N ds).row checker) =
      ((ds.filter fun d => d.checker = checker).map fun d => (keyOf N d).2).eraseDups := by
  induction ds using List.reverseRecOn with
  | nil => rfl
  | append_singleton ds d ih =>
    have wf := wellFormed_filed N ds
    rw [filed_snoc, filing_eq, keys_withList wf, ih, List.filter_append, List.map_append]
    by_cases hc : d.checker = checker
    · subst hc
      have there : (filed N ds).stock (keyOf N d) = [] ↔ (keyOf N d).2 ∉
          (ds.filter fun e => e.checker = d.checker).map fun e => (keyOf N e).2 := by
        have member := wf.mem_row_iff (keyOf N d)
        rw [show (keyOf N d).1 = d.checker from rfl, ih, List.mem_eraseDups] at member
        rw [member, not_not]
      have one : (([d].filter fun e => e.checker = d.checker).map fun e => (keyOf N e).2) =
          [(keyOf N d).2] := by simp
      rw [one, eraseDups_snoc, if_pos (show (keyOf N d).1 = d.checker from rfl),
        if_neg (List.append_ne_nil_of_right_ne_nil _ (List.cons_ne_nil _ _))]
      by_cases h : (filed N ds).stock (keyOf N d) = []
      · rw [if_pos h, if_neg (there.mp h)]
      · rw [if_neg h, if_pos (not_not.mp (fun hn => h (there.mpr hn)))]
    · have none : [d].filter (fun e => e.checker = checker) = [] := by simp [hc]
      rw [if_neg (show ¬ (keyOf N d).1 = checker from hc), none, List.map_nil, List.append_nil]

theorem toList_filed (ds : List Defect) : (filed N ds).toList.Perm ds := by
  induction ds using List.reverseRecOn with
  | nil => exact .nil
  | append_singleton ds d ih =>
    rw [filed_snoc, filing_eq]
    exact (toList_behind _ _ d).trans (ih.append_right [d])

end Findings.Linking
