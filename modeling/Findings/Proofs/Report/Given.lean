import Findings.Report.Stream
/-!
Defects that a stream gives.

* `read_of_next`, `trace_next`: each of them was decoded from a record, and has an event;
* `gather_next`: reading on to the end, one defect at a time.
-/

namespace Findings.Report

theorem Status.trace_of_decoded (r : Decoded (Option Defect)) (d : Defect)
    (h : Status.ofDecoded r = .ok (.decoded d)) : d.trace ≠ [] := by
  match r with
  | .ok (some e) =>
    simp only [ofDecoded, ofDefect, Except.ok.injEq] at h
    split at h
    · exact Status.noConfusion h
    · next hne =>
      rw [Status.decoded.injEq] at h
      subst h
      simpa using hne
  | .ok none => simp [ofDecoded] at h
  | .error (.record f) => simp [ofDecoded] at h
  | .error (.oversize o) => simp [ofDecoded] at h

theorem Cursor.trace_read (k : Kind) (rules : List Cleanup.Rule) (c : Cursor) (o : Outcome)
    (d : Defect) (h : (c.read k rules).outcome = .ok (some o)) (hd : o.status = .decoded d) :
    d.trace ≠ [] := by
  simp only [read, readWith] at h
  split at h
  · simp at h
  · simp at h
  · next index node _ =>
    cases hs : Status.ofDecoded (k.decode rules c.next.cursor.table node) with
    | error f =>
      rw [hs] at h
      simp [Except.map] at h
    | ok status =>
      rw [hs] at h
      simp only [Except.map, Except.ok.injEq, Option.some.injEq] at h
      subst h
      rw [show status = .decoded d from hd] at hs
      exact Status.trace_of_decoded _ d hs

namespace Stream

/-- A defect that is given was decoded from some record, under the rules of the stream. -/
theorem read_of_advance (s : Stream) (kind : Kind) (c : Cursor) (d : Defect)
    (h : (s.advance kind c).defect = .ok (some d)) :
    ∃ (c' : Cursor) (o : Outcome), (c'.read kind s.rules).outcome = .ok (some o) ∧
      o.status = .decoded d := by
  fun_induction advance s kind c with
  | case1 => simp at h
  | case2 => simp at h
  | case3 s c read s' outcome ho e hd =>
    simp only [Except.ok.injEq, Option.some.injEq] at h
    exact ⟨c, outcome, ho, h ▸ hd⟩
  | case4 s c read s' outcome ho _ _ ih => exact ih h
  | case5 s c read s' outcome ho fault _ behind _ marked _ ih =>
    have same : behind.rules = s.rules := congrArg (fun t => t.1.rules) marked.symm
    rw [same] at ih
    exact ih h

theorem read_of_next (s : Stream) (d : Defect) (h : s.next.defect = .ok (some d)) :
    ∃ (k : Kind) (c : Cursor) (o : Outcome), (c.read k s.rules).outcome = .ok (some o) ∧
      o.status = .decoded d := by
  unfold next at h
  split at h
  · simp at h
  · next kind c _ => exact ⟨kind, s.read_of_advance kind c d h⟩

theorem trace_next (s : Stream) (d : Defect) (h : s.next.defect = .ok (some d)) :
    d.trace ≠ [] := by
  obtain ⟨k, c, o, read, decoded⟩ := s.read_of_next d h
  exact c.trace_read k s.rules o d read decoded

/-- One call, and what gathering makes of it. -/
theorem gather_next (s : Stream) :
    s.gather =
      match s.next.defect with
      | .error o => { defects := .error o, stream := s.next.stream, notices := s.next.notices }
      | .ok none => { defects := .ok [], stream := s.next.stream, notices := s.next.notices }
      | .ok (some d) =>
        { defects := s.next.stream.gather.defects.map (d :: ·)
          stream := s.next.stream.gather.stream
          notices := s.next.notices ++ s.next.stream.gather.notices } := by
  rw [gather]
  dsimp only
  split
  · next h => simp only [h]
  · next h => simp only [h]
  · next h => simp only [h]

theorem gather_of_error (s : Stream) (o : Decimal.Oversize) (h : s.next.defect = .error o) :
    s.gather = { defects := .error o, stream := s.next.stream, notices := s.next.notices } := by
  rw [gather_next]
  simp only [h]

theorem gather_of_none (s : Stream) (h : s.next.defect = .ok none) :
    s.gather = { defects := .ok [], stream := s.next.stream, notices := s.next.notices } := by
  rw [gather_next]
  simp only [h]

theorem gather_of_some (s : Stream) (d : Defect) (h : s.next.defect = .ok (some d)) :
    s.gather =
      { defects := s.next.stream.gather.defects.map (d :: ·)
        stream := s.next.stream.gather.stream
        notices := s.next.notices ++ s.next.stream.gather.notices } := by
  rw [gather_next]
  simp only [h]

end Stream

end Findings.Report
