import Findings.Proofs.Report.Consumption
/-!
Several consumers of one stream: its holder, who asks for the next defect, and any number of
iterators, each of which asks until it gets none and is then at its end.

* `serve_of_before`, `run_of_before`: one request, and any number of them;
* `requests_answered`: the main statement, for a document that was just opened.
-/

namespace Findings.Report

/-! ## Sessions -/

/-- Who asks for a defect. -/
inductive Request where
  | direct
  | iterator (i : Nat)
  deriving DecidableEq, Repr

/-- A defect, none, or a number too long to be read. -/
abbrev Answer := Except Decimal.Oversize (Option Defect)

/-- A stream, the iterators over it that are at their end, and what was logged so far. -/
structure Session where
  stream : Stream
  ended : List Nat := []
  log : List Notice := []

namespace Session

/-- Iterators end with any answer that is no defect. -/
def endedBy (t : Session) : Request → Answer → List Nat
  | .iterator _, .ok (some _) => t.ended
  | .iterator i, _ => i :: t.ended
  | .direct, _ => t.ended

/-- One request. An iterator at its end gives none without asking the stream. -/
def serve (t : Session) (r : Request) : Answer × Session :=
  if ∃ i ∈ t.ended, r = .iterator i then (.ok none, t)
  else
    let step := t.stream.next
    (step.defect,
      { stream := step.stream, ended := t.endedBy r step.defect, log := t.log ++ step.notices })

/-- Requests one after another, with their answers. -/
def run (t : Session) : List Request → List Answer × Session
  | [] => ([], t)
  | r :: rs =>
    let (answer, t) := t.serve r
    let (answers, t) := t.run rs
    (answer :: answers, t)

/-- The outcomes are still to come, and an iterator is at its end only if there are none. -/
structure Before (t : Session) (os : List Outcome) : Prop where
  yields : t.stream.Yields os
  ended : t.ended ≠ [] → os = []

variable {t : Session} {os : List Outcome}

theorem serve_of_before (h : t.Before os) (r : Request) :
    (t.serve r).1 = .ok (defectsOf os).head? ∧ (t.serve r).2.Before (behindFirst os) ∧
      ∃ log, (t.serve r).2.log = t.log ++ log ∧
        Advanced t.stream (t.serve r).2.stream (consumed 1 os) log := by
  unfold serve
  split
  · next atEnd =>
    obtain ⟨i, mem, -⟩ := atEnd
    obtain rfl := h.ended (List.ne_nil_of_mem mem)
    exact ⟨rfl, h, [], (List.append_nil _).symm, .refl _⟩
  · obtain ⟨given, behind, moved⟩ := Stream.advanced_next h.yields
    refine ⟨given, ⟨behind, fun ended => ?_⟩, _, rfl, moved⟩
    -- Either some iterator was at its end before, or this request is the first that got none.
    dsimp only at ended
    rw [given] at ended
    cases none : (defectsOf os).head? with
    | none => exact behindFirst_of_none os none
    | some d =>
      have before : t.ended ≠ [] := by
        rw [none] at ended
        cases r <;> exact ended
      rw [h.ended before, behindFirst_nil]

theorem run_of_before (h : t.Before os) (rs : List Request) :
    (t.run rs).1 = (List.range rs.length).map (fun i => .ok (defectsOf os)[i]?) ∧
      ∃ log, (t.run rs).2.log = t.log ++ log ∧
        Advanced t.stream (t.run rs).2.stream (consumed rs.length os) log := by
  induction rs generalizing t os with
  | nil =>
    rw [List.length_nil, consumed_zero]
    exact ⟨rfl, [], (List.append_nil _).symm, .refl _⟩
  | cons r rs ih =>
    obtain ⟨answer, before, log, logged, first⟩ := serve_of_before h r
    obtain ⟨answers, log', logged', rest⟩ := ih before
    refine ⟨?_, log ++ log', ?_, ?_⟩
    · change (t.serve r).1 :: ((t.serve r).2.run rs).1 = _
      rw [answer, answers, defectsOf_behindFirst, List.length_cons, List.range_succ_eq_map,
        List.map_cons, List.map_map, List.head?_eq_getElem?]
      simp [Function.comp_def]
    · change ((t.serve r).2.run rs).2.log = _
      rw [logged', logged, List.append_assoc]
    · change Advanced _ ((t.serve r).2.run rs).2.stream _ _
      rw [List.length_cons, consumed_succ]
      exact first.trans rest

end Session

/-- The defects among the answers. -/
def given (answers : List Answer) : List Defect :=
  answers.filterMap fun
    | .ok d => d
    | .error _ => none

theorem given_range (ds : List Defect) (n : Nat) :
    given ((List.range n).map fun i => .ok ds[i]?) = ds.take n := by
  induction n with
  | zero => rfl
  | succ n ih =>
    rw [given] at ih
    rw [List.range_succ, List.map_append, given, List.filterMap_append, ih, List.take_add_one]
    cases h : ds[n]? <;> simp [h]

/-! ## A document that was just opened -/

/-- What is said about a scan that cannot be read; a silent document says nothing. -/
def scanComplaints (depth : Nat) (d : Document) (kind : Option Kind) (root : Json.Value) :
    List Notice :=
  match kind with
  | none => []
  | some k =>
    match k.scanProps depth root with
    | .ok (.error fault) =>
      if d.silent then []
      else
        [⟨.error, d.name ++ ": error: " ++ ("failed to read scan properties: " ++ fault.message)⟩]
    | _ => []

section Opened

variable {depths : Json.Depths} {d : Document} {rules : List Cleanup.Rule} {root : Json.Value}
  {s : Stream} {notices : List Notice} {os : List Outcome}

/-- What a stream is like that can go on and has not been asked yet. -/
theorem fresh_stream (fresh : d.hasError = false)
    (opened : Stream.ofDocument depths d rules = .ok (s, notices))
    (read : Json.read depths.read d.text = .ok root) (yields : s.Yields os) :
    s.count = 0 ∧ s.document.name = d.name ∧ s.document.silent = d.silent ∧
      (s.document.hasError = false ↔ s.ScanLegible depths.written root) ∧
      errors notices = scanComplaints depths.written d s.kind root ∧
      ∀ (i : Nat) o, os[i]? = some o → o.index = i := by
  obtain ⟨k, c, hc, yields⟩ := yields
  obtain ⟨start, scan, written, live⟩ := Stream.live_of_cursor opened read hc
  obtain ⟨-, -, -, legible⟩ := Stream.live_fields rules fresh c written
  rw [live] at legible
  have numbers (i : Nat) (o : Outcome) (ho : os[i]? = some o) : o.index = i := by
    obtain ⟨-, zero, -⟩ := Cursor.remainder_start start
    rw [yields.index i o ho, zero, Nat.zero_add]
  cases scan with
  | ok scanProps =>
    obtain ⟨rfl, rfl⟩ := Prod.mk.inj live
    exact ⟨rfl, rfl, rfl, legible, by simp [scanComplaints, written], numbers⟩
  | error fault =>
    obtain ⟨rfl, rfl⟩ := Prod.mk.inj live
    refine ⟨rfl, rfl, rfl, legible, ?_, numbers⟩
    by_cases silent : d.silent <;>
      simp [scanComplaints, written, silent, errors]

theorem map_index_consumed (numbers : ∀ (i : Nat) o, os[i]? = some o → o.index = i) (n : Nat) :
    (consumed n os).map Outcome.index = List.range (consumed n os).length := by
  refine List.ext_getElem (by simp) fun i h _ => ?_
  have used : i < (consumed n os).length := by simpa using h
  have whole : i < os.length := Nat.lt_of_lt_of_le used (isPrefix_consumed n os).length_le
  have there : os[i]? = some (consumed n os)[i] := by
    rw [(isPrefix_consumed n os).getElem used, List.getElem?_eq_getElem whole]
  simpa using numbers i _ there

/-- **Requests are answered in turn.** However the holder of a stream and its iterators take turns,
request number `i` is given the defect number `i` of the document while there is one, and none from
then on. The stream counts the defects that were given. Its document is marked if the scan could not
be read or if a record failed among those that were used up, and a mark stays. The log holds one
line for each of these records, by their numbers, and no line about records that were rejected. -/
theorem requests_answered (fresh : d.hasError = false)
    (opened : Stream.ofDocument depths d rules = .ok (s, notices))
    (read : Json.read depths.read d.text = .ok root) (yields : s.Yields os) (rs : List Request) :
    let start : Session := { stream := s, log := notices }
    let answers := (start.run rs).1
    let t := (start.run rs).2
    answers = (List.range rs.length).map (fun i => .ok (defectsOf os)[i]?) ∧
      t.stream.count = (given answers).length ∧
      (t.stream.document.hasError = true ↔
        ¬s.ScanLegible depths.written root ∨
          ∃ o ∈ consumed rs.length os, o.status.isFailed = true) ∧
      (∀ more, t.stream.document.hasError = true →
        (start.run (rs ++ more)).2.stream.document.hasError = true) ∧
      errors t.log =
        scanComplaints depths.written d s.kind root ++ complaints d (consumed rs.length os) ∧
      (consumed rs.length os).map Outcome.index = List.range (consumed rs.length os).length := by
  intro start answers t
  obtain ⟨zero, name, silent, scan, said, numbers⟩ := fresh_stream fresh opened read yields
  have before : start.Before os := ⟨yields, fun h => absurd rfl h⟩
  obtain ⟨answered, log, logged, moved⟩ := Session.run_of_before before rs
  have mark (rs : List Request) : (start.run rs).2.stream.document.hasError = true ↔
      ¬s.ScanLegible depths.written root ∨
        ∃ o ∈ consumed rs.length os, o.status.isFailed = true := by
    obtain ⟨-, _, -, moved⟩ := Session.run_of_before before rs
    rw [moved.hasError, Bool.or_eq_true, anyFailed, List.any_eq_true, ← scan, Bool.not_eq_false]
  refine ⟨answered, ?_, mark rs, fun more marked => ?_, ?_, map_index_consumed numbers _⟩
  · rw [moved.count, zero, Nat.zero_add, defectsOf_consumed]
    change _ = (given (start.run rs).1).length
    rw [answered, given_range]
  · rw [mark] at marked ⊢
    have longer : rs.length ≤ (rs ++ more).length := by simp
    refine marked.imp_right ?_
    rintro ⟨o, used, failed⟩
    exact ⟨o, (consumed_prefix_of_le os longer).subset used, failed⟩
  · have same : complaints s.document (consumed rs.length os) =
        complaints d (consumed rs.length os) := by
      rw [complaints, complaints, name, silent]
    rw [logged, errors_append, moved.errors, same, said]

end Opened

/-- Two diagnostics with two items between them, of which one is rejected and one malformed. -/
def mixedDiagnostics : Document where
  name := "report.json"
  text := "[\x7b\"kind\":\"warning\"\x7d,\x7b\x7d,5,\x7b\"kind\":\"error\"\x7d]"

/-- The holder gets the second defect between two requests of an iterator, and only the malformed
item is spoken of. -/
theorem requests_answered_mixed :
    let diagnostic (label : String) : Json.Value := .object [("kind", .text label)]
    let root : Json.Value :=
      .array [diagnostic "warning", .object [], .int 5, diagnostic "error"]
    let defect (label : String) : Defect :=
      { checker := compilerWarning, trace := [{ label, message := unknownMessage }] }
    let os : List Outcome :=
      [{ index := 0, status := .decoded (defect "warning") }, { index := 1, status := .rejected },
        { index := 2, status := .failed (.notObject "diagnostic") },
        { index := 3, status := .decoded (defect "error") }]
    let s := (Stream.live mixedDiagnostics [] .compiler (.ofRecords root.children) (.ok [])).1
    let depths : Json.Depths := ⟨100, 100⟩
    let outcome := ({ stream := s, log := [] } : Session).run
      [.iterator 0, .direct, .iterator 0, .iterator 1, .iterator 0]
    mixedDiagnostics.hasError = false ∧
      Stream.ofDocument depths mixedDiagnostics [] = .ok (s, []) ∧
      Json.read depths.read mixedDiagnostics.text = .ok root ∧ s.Yields os ∧
      outcome.1 =
        [.ok (some (defect "warning")), .ok (some (defect "error")), .ok none, .ok none, .ok none] ∧
      outcome.2.stream.count = 2 ∧ outcome.2.stream.document.hasError = true ∧
      errors outcome.2.log =
        [⟨.error, "report.json: error: failed to read defect #2: " ++
          "diagnostic node is not a JSON object"⟩] := by
  intro diagnostic root defect os s depths outcome
  have opened : Stream.ofDocument depths mixedDiagnostics [] = .ok (s, []) := by rfl
  have read : Json.read depths.read mixedDiagnostics.text = .ok root := by rfl
  have legible : Kind.compiler.Legible [] root :=
    Kind.legible_of_isOk (by decide +kernel) (by decide +kernel)
  have outcomes : Kind.compiler.outcomes [] root = os := by decide +kernel
  have yields : s.Yields os :=
    ⟨.compiler, .ofRecords root.children, rfl, outcomes ▸ Cursor.yields_start rfl legible⟩
  obtain ⟨answers, count, mark, -, log, -⟩ := requests_answered rfl opened read yields
    [.iterator 0, .direct, .iterator 0, .iterator 1, .iterator 0]
  have answers : outcome.1 = [.ok (some (defect "warning")), .ok (some (defect "error")), .ok none,
      .ok none, .ok none] := answers.trans (by decide +kernel)
  refine ⟨rfl, opened, read, yields, answers, ?_, ?_, ?_⟩
  · rw [count]
    change (given outcome.1).length = 2
    rw [answers]
    rfl
  · have used : { index := 2, status := .failed (.notObject "diagnostic") } ∈ consumed 5 os := by
      decide +kernel
    dsimp only [outcome]
    rw [mark]
    exact .inr ⟨_, used, rfl⟩
  · rw [log]
    decide +kernel

end Findings.Report
