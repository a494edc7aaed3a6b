import Findings.Proofs.Linking.Filing
import Findings.Proofs.Report.Requests
import Findings.Proofs.Report.Silence
/-!
A run on a silent document, set against the run on the same document that is not silent.

* `file_silenced`: filing is the same, but for what it says of parts of the document;
* `complains_of_claim`: of errors, claiming reports those of the queries only;
* `silent_runs`: the main statement, from opening the document to the end of a run.
-/

namespace Findings.Linking

open Backlog Report

variable {ε : Type}

/-! ## Filing -/

def Filed.silenced (document : String) (filed : Filed ε) : Filed ε :=
  { filed with
    stream := filed.stream.silenced
    notices := withoutParts document filed.notices }

theorem file_silenced (normalize : Normalizer ε) (b : Backlog) (s : Stream) :
    file normalize b s.silenced = (file normalize b s).silenced s.document.name := by
  fun_induction file normalize b s with
  | case1 b s step o raised =>
    rw [file_next, s.next_silenced]
    dsimp only [Stream.Step.silenced]
    rw [raised]
    rfl
  | case2 b s step ended =>
    rw [file_next, s.next_silenced]
    dsimp only [Stream.Step.silenced]
    rw [ended]
    rfl
  | case3 b s step d given fault refused =>
    rw [file_next, s.next_silenced]
    dsimp only [Stream.Step.silenced]
    rw [given]
    dsimp only
    rw [refused]
    rfl
  | case4 b s step d given next inserted filed ih =>
    rw [file_next, s.next_silenced]
    dsimp only [Stream.Step.silenced]
    rw [given]
    dsimp only
    rw [inserted]
    dsimp only
    have name : step.stream.document.name = s.document.name := s.name_next
    rw [ih, name]
    simp only [Filed.silenced, withoutParts_append]
    rfl

/-! ## Claiming -/

/-- The line is one in which the queries complain of a line of theirs. -/
def Complains (source : QuerySource) (line : Notice) : Prop :=
  ∃ q lineno fault, source = .stream q ∧ line = Query.Stream.complaint q.name lineno fault

theorem complaint_of_nextIn (name : String) (lineno : Nat) (hasError : Bool)
    (lines : List String) :
    (Query.Stream.nextIn name lineno hasError lines).stream.name = name ∧
      ∀ line ∈ (Query.Stream.nextIn name lineno hasError lines).notices,
        ∃ lineno fault, line = Query.Stream.complaint name lineno fault := by
  induction lines generalizing lineno hasError with
  | nil => exact ⟨rfl, List.forall_mem_nil _⟩
  | cons line rest ih =>
    rw [Query.Stream.nextIn]
    dsimp only
    split
    · exact ⟨rfl, List.forall_mem_nil _⟩
    · exact ⟨rfl, List.forall_mem_nil _⟩
    · next fault _ =>
      obtain ⟨name_rest, said⟩ := ih (lineno + 1) true
      exact ⟨name_rest, List.forall_mem_cons.mpr ⟨⟨_, fault, rfl⟩, said⟩⟩

theorem complains_of_next (source : QuerySource) :
    (∀ line ∈ source.next.notices, Complains source line) ∧
      ∀ line, Complains source.next.source line → Complains source line := by
  match source with
  | .list [] => exact ⟨nofun, nofun⟩
  | .list (q :: rest) => exact ⟨nofun, nofun⟩
  | .stream s =>
    obtain ⟨name, said⟩ := complaint_of_nextIn s.name s.lineno s.hasError s.lines
    refine ⟨fun line mem => ?_, ?_⟩
    · obtain ⟨lineno, fault, same⟩ := said line mem
      exact ⟨s, lineno, fault, rfl, same⟩
    · rintro line ⟨q, lineno, fault, same, rfl⟩
      obtain rfl := QuerySource.stream.inj same
      exact ⟨s, lineno, fault, rfl, by rw [← name]; rfl⟩

theorem errors_takeFrom (b : Backlog) (checker path : String) (row : Row) (list : List Defect) :
    errors (b.takeFrom checker path row list).notices = [] := by
  unfold takeFrom
  split
  · rfl
  · split
    · dsimp only
      split <;> rfl
    · rfl

theorem errors_lookup (normalize : Normalizer ε) (checker path : String) (b : Backlog)
    (taken : Taken) (h : b.lookup normalize checker path = .ok taken) :
    errors taken.notices = [] := by
  have ends := looked normalize b checker path
  rw [h] at ends
  cases ends with
  | rowless | listless => rfl
  | listed => exact errors_takeFrom ..

theorem complains_of_next_errors (source : QuerySource) :
    ∀ line ∈ errors source.next.notices, Complains source line :=
  fun line mem => (complains_of_next source).1 line (List.mem_of_mem_filter mem)

/-- Of errors, claiming reports those of the queries only. -/
theorem complains_of_claim (normalize : Normalizer ε) (document : String) (b : Backlog)
    (source : QuerySource) :
    ∀ line ∈ errors (claim normalize document b source).notices, Complains source line := by
  fun_induction claim normalize document b source with
  | case1 b source => exact complains_of_next_errors source
  | case2 b source => exact complains_of_next_errors source
  | case3 b source => exact complains_of_next_errors source
  | case4 b source step q asked taken found rest d claimed ih =>
    have harmless : errors taken.notices = [] := errors_lookup normalize _ _ b taken found
    have later : ∀ line ∈ errors rest.notices, Complains source line :=
      fun line mem => (complains_of_next source).2 line (ih line mem)
    rw [errors_append, errors_append, harmless, List.append_nil, List.forall_mem_append]
    exact ⟨complains_of_next_errors source, later⟩
  | case5 b source step q asked taken found rest none ih =>
    have harmless : errors taken.notices = [] := errors_lookup normalize _ _ b taken found
    have warned : errors (unclaimable document q :: rest.notices) = errors rest.notices := rfl
    have later : ∀ line ∈ errors rest.notices, Complains source line :=
      fun line mem => (complains_of_next source).2 line (ih line mem)
    rw [errors_append, errors_append, harmless, List.append_nil, warned, List.forall_mem_append]
    exact ⟨complains_of_next_errors source, later⟩

/-! ## A run -/

theorem errors_offset (document : String) (unclaimed : List Defect) :
    errors (offset document unclaimed) = [] := by
  unfold offset
  split <;> rfl

/-- The run `quiet` is the run `loud` on a silent document: they differ in complaints about parts of
the document, which only filing makes. -/
structure Quieter (document : String) (source : QuerySource) (loud quiet : Run ε) : Prop where
  linking : quiet.linking = loud.linking
  stream : quiet.stream = loud.stream.silenced
  notices : ∃ filing claiming, loud.notices = filing ++ claiming ∧
    quiet.notices = withoutParts document filing ++ claiming ∧
    ∀ line ∈ errors claiming, Complains source line

theorem run_silenced (normalize : Normalizer ε) (s : Stream) (source : QuerySource) :
    Quieter s.document.name source (run normalize s source) (run normalize s.silenced source) := by
  have name : s.silenced.document.name = s.document.name := rfl
  have fatal : s.silenced.fatal = s.fatal := rfl
  have scanProps : s.silenced.scanProps = s.scanProps := rfl
  unfold run
  rw [name, fatal, file_silenced]
  dsimp only [Filed.silenced]
  split
  · exact ⟨rfl, rfl, [], [], rfl, rfl, nofun⟩
  · split
    · exact ⟨rfl, rfl, _, [], (List.append_nil _).symm, (List.append_nil _).symm, nofun⟩
    · next b _ =>
      have claimed := complains_of_claim normalize s.document.name b source
      split
      · exact ⟨rfl, rfl, _, _, rfl, rfl, claimed⟩
      · refine ⟨rfl, rfl, _, _, List.append_assoc .., List.append_assoc .., ?_⟩
        rw [errors_append, errors_offset, List.append_nil]
        exact claimed

/-- Where no complaint of the queries looks like one about the document, the whole log is left
without the latter. -/
theorem Quieter.log {document : String} {source : QuerySource} {loud quiet : Run ε}
    (h : Quieter document source loud quiet)
    (plain : ∀ line, Complains source line → line.isPart document = false) :
    quiet.notices = withoutParts document loud.notices := by
  obtain ⟨filing, claiming, said, said_quietly, complaints⟩ := h.notices
  have kept : withoutParts document claiming = claiming := by
    apply withoutParts_eq_self
    intro line mem
    by_cases error : line.severity = .error
    · exact plain line (complaints line (List.mem_filter.mpr ⟨mem, decide_eq_true error⟩))
    · rw [Notice.isPart, decide_eq_false error, Bool.false_and]
  rw [said, said_quietly, withoutParts_append, kept]

/-- **Silence is about parts only.** Let a document be silent that was not, and open it and call it
as before: the same is fatal or escapes, the streams are the same but for the silence itself, every
call gives the same, and the log has lost the complaints about parts of the document and no other
line, least of all a fatal one. So it is with a run on what is left after some calls: it has the
same outcome, and all that claiming says is said. -/
theorem silent_runs (depths : Json.Depths) (d : Document) (rules : List Cleanup.Rule) :
    Stream.ofDocument depths d.silenced rules =
      (Stream.ofDocument depths d rules).map (Stream.silencing d.name) ∧
    ∀ s log, Stream.ofDocument depths d rules = .ok (s, log) →
      (s.fatal ≠ none → withoutParts d.name log = log) ∧
      ∀ n, s.silenced.after n = (s.after n).silenced ∧
        (s.silenced.after n).next.defect = (s.after n).next.defect ∧
        s.silenced.said n = withoutParts d.name (s.said n) ∧
        ∀ (ε : Type) (normalize : Normalizer ε) (source : QuerySource),
          let loud := run normalize (s.after n) source
          let quiet := run normalize (s.silenced.after n) source
          Quieter d.name source loud quiet ∧
            ((∀ line, Complains source line → line.isPart d.name = false) →
              quiet.notices = withoutParts d.name loud.notices) := by
  refine ⟨Stream.ofDocument_silenced depths d rules, fun s log opened => ⟨?_, fun n => ?_⟩⟩
  · exact Stream.withoutParts_of_fatal opened
  · have name : s.document.name = d.name := Stream.name_of_opened opened
    have same : s.silenced.after n = (s.after n).silenced := s.after_silenced n
    refine ⟨same, ?_, ?_, fun ε normalize source => ?_⟩
    · rw [same, Stream.next_silenced]
      rfl
    · rw [s.said_silenced n, name]
    · intro loud quiet
      have quieter : Quieter d.name source loud quiet := by
        have runs := run_silenced normalize (s.after n) source
        rwa [s.name_after n, name, ← same] at runs
      exact ⟨quieter, quieter.log⟩

/-- Of the two diagnostics with a malformed item between them, a silent document gives both, and
does not speak of the item; that it was there shows in its mark. A run behind the first call speaks
of the query that is in vain and of the defect that is left over, in silence as well as aloud. -/
theorem silent_runs_mixed :
    let diagnostic (label : String) : Json.Value := .object [("kind", .text label)]
    let records := [diagnostic "warning", .object [], .int 5, diagnostic "error"]
    let s := (Stream.live mixedDiagnostics [] .compiler (.ofRecords records) (.ok [])).1
    let depths : Json.Depths := ⟨100, 100⟩
    let complaint : Notice := ⟨.error, "report.json: error: failed to read defect #2: " ++
      "diagnostic node is not a JSON object"⟩
    let source : QuerySource := .list [{ id := 7, checker := "COMPILER_WARNING", file := "b.c" }]
    let loud := run (always id : Normalizer Unit) (s.after 1) source
    let quiet := run (always id : Normalizer Unit) (s.silenced.after 1) source
    let inVain : Notice := ⟨.warning, "report.json: warning: defect lookup failed, id = 7"⟩
    let leftOver : Notice := ⟨.warning,
      "report.json: error: offset detected (1 unclaimed defects)"⟩
    mixedDiagnostics.silent = false ∧
      Stream.ofDocument depths mixedDiagnostics [] = .ok (s, []) ∧
      Stream.ofDocument depths mixedDiagnostics.silenced [] = .ok (s.silenced, []) ∧
      s.said 2 = [complaint] ∧ s.silenced.said 2 = [] ∧
      (s.silenced.after 2).document.hasError = true ∧ (s.silenced.after 2).count = 2 ∧
      Quieter "report.json" source loud quiet ∧
      loud.notices.filter (·.severity ≠ .debug) = [complaint, inVain, leftOver] ∧
      quiet.notices.filter (·.severity ≠ .debug) = [inVain, leftOver] ∧
      quiet.notices = withoutParts "report.json" loud.notices := by
  intro diagnostic records s depths complaint source loud quiet inVain leftOver
  have opened : Stream.ofDocument depths mixedDiagnostics [] = .ok (s, []) := by rfl
  have said : s.said 2 = [complaint] := by decide +kernel
  obtain ⟨opening, rest⟩ := silent_runs depths mixedDiagnostics []
  obtain ⟨-, calls⟩ := rest s [] opened
  obtain ⟨same, -, hushed, -⟩ := calls 2
  obtain ⟨-, -, -, runs⟩ := calls 1
  obtain ⟨quieter, log⟩ := runs Unit (always id) source
  have plain : ∀ line, Complains source line → line.isPart mixedDiagnostics.name = false := by
    rintro line ⟨q, lineno, fault, same, -⟩
    exact absurd same nofun
  have aloud : loud.notices.filter (·.severity ≠ .debug) = [complaint, inVain, leftOver] := by
    decide +kernel
  have quietly : quiet.notices.filter (·.severity ≠ .debug) = [inVain, leftOver] := by
    decide +kernel
  rw [opened] at opening
  refine ⟨rfl, opened, opening, said, ?_, ?_, ?_, quieter, aloud, quietly, log plain⟩
  · rw [hushed, said]
    decide +kernel
  · rw [same]
    decide +kernel
  · rw [same]
    decide +kernel

end Findings.Linking
