import Findings.Proofs.Report.Traces
/-!
Defects written as records of a format, and what decoding makes of such a record.

* `Form.says_written`: an event is read back from its node, part by part;
* `Native.defect_record`, `IssueTracker.defect_record`: so is a defect from its record;
* `native_issue_agree`: the main statement, for the two formats that write whole traces.

Not covered: annotations, which the issue tracker has no field for.
-/

namespace Findings

namespace Field

open Json (Value)

variable {node : Value} {key : String}

theorem text_of_text {s : String} (h : node.field key = .text s) (default : String) :
    text node key default = .ok s := by
  rw [text, h]
  rfl

theorem text_of_int {n : Int} (h : node.field key = .int n) (default : String) :
    text node key default = .ok (toString n) := by
  rw [text, h]
  rfl

theorem text_of_null (h : node.field key = .null) (default : String) :
    text node key default = .ok default := by
  rw [text, h]
  rfl

theorem number_of_int {n : Int} (h : node.field key = .int n) (default : Int) :
    number node key default = .ok n := by
  rw [number, h]
  rfl

end Field

namespace Report

open Json (Value)

/-! ## Events -/

/-- The names of the parts of an event. -/
def Form.names (form : Form) : List String :=
  [form.label, form.file, form.line, form.column, form.message]

/-- The node of an event: its parts under their names, and perhaps some fields more. -/
def Form.written (form : Form) (more : List (String × Value)) (e : Event) : Value :=
  .object ([(form.label, .text e.label), (form.file, .text e.file), (form.line, .int e.line),
    (form.column, .int e.column), (form.message, .text e.message)] ++ more)

/-- A form whose parts stand side by side, under names of their own. -/
structure Form.Flat (form : Form) : Prop where
  distinct : form.names.Nodup
  here : form.place = id

/-- An event with a label is read back from its node, with the tag behind its message. -/
theorem Form.says_written {form : Form} (flat : form.Flat) (more : List (String × Value))
    (e : Event) (labelled : e.label ≠ "") {tag : String}
    (tags : form.tag (form.written more e) = .ok tag) :
    form.Says (form.written more e) { e with message := Compiler.tagged e.message tag } := by
  have distinct := flat.distinct
  simp only [names, List.nodup_cons, List.mem_cons, List.not_mem_nil, or_false, not_or] at distinct
  obtain ⟨⟨file, line, column, message⟩, ⟨line', column', message'⟩, ⟨column'', message''⟩,
    message''', -⟩ := distinct
  have parts : (form.written more e).field form.label = .text e.label ∧
      (form.written more e).field form.file = .text e.file ∧
      (form.written more e).field form.line = .int e.line ∧
      (form.written more e).field form.column = .int e.column ∧
      (form.written more e).field form.message = .text e.message := by
    simp [written, Assoc.get?, file, line, column, message, line', column', message', column'',
      message'', message''']
  obtain ⟨label_eq, file_eq, line_eq, column_eq, message_eq⟩ := parts
  refine ⟨⟨_, rfl⟩, Field.text_of_text label_eq "", labelled, ?_, ?_, ?_, ?_⟩
  · rw [flat.here]
    exact Field.text_of_text file_eq unknownFile
  · rw [flat.here]
    exact Field.number_of_int line_eq 0
  · rw [flat.here]
    exact Field.number_of_int column_eq 0
  · exact ⟨e.message, tag, Field.text_of_text message_eq form.silence, tags, rfl⟩

theorem Native.flat_form : Native.form.Flat := ⟨by decide, rfl⟩

theorem IssueTracker.flat_form : IssueTracker.form.Flat := ⟨by decide, rfl⟩

theorem ShellLinter.flat_form : ShellLinter.form.Flat := ⟨by decide, rfl⟩

/-- Events are read back one by one. -/
theorem mapM_written {form : Form} {read : Value → Except RecordFault Event}
    (reads : ∀ node e, read node = .ok e ↔ form.Says node e) (flat : form.Flat)
    (untagged : form.tag = fun _ => .ok "") (trace : List Event)
    (labelled : ∀ e ∈ trace, e.label ≠ "") :
    (trace.map (form.written [])).mapM read = .ok trace := by
  rw [forall₂_said reads]
  induction trace with
  | nil => exact .nil
  | cons e trace ih =>
    obtain ⟨first, later⟩ := List.forall_mem_cons.mp labelled
    have tags : form.tag (form.written [] e) = .ok "" := by rw [untagged]
    exact .cons (form.says_written flat [] e first tags) (ih later)

/-! ## Records -/

/-- A defect without an annotation, as a record of the native report. -/
def Native.record (checker : String) (cwe : Nat) (trace : List Event) : Value :=
  .object [("checker", .text checker), ("cwe", .int cwe),
    ("events", .array (trace.map (form.written [])))]

/-- The same, as an issue; its category may be written as a number or as a text. -/
def IssueTracker.record (checker : String) (category : Value) (trace : List Event) : Value :=
  .object [("checkerName", .text checker),
    ("checkerProperties", .object [("cweCategory", category)]),
    ("events", .array (trace.map (form.written [])))]

variable {checker : String} {trace : List Event}

theorem Native.defect_record (named : checker ≠ "") (some : trace ≠ [])
    (labelled : ∀ e ∈ trace, e.label ≠ "") (cwe : Nat) :
    defect (record checker cwe trace) = .ok { checker, trace, cwe } := by
  obtain ⟨first, rest, rfl⟩ := List.exists_cons_of_ne_nil some
  have nodes : eventNodes (record checker cwe (first :: rest)) =
      .ok ((first :: rest).map (form.written [])) := rfl
  have events := mapM_written event_eq_ok_iff flat_form rfl (first :: rest) labelled
  have name : Field.text (record checker cwe (first :: rest)) "checker" "" = .ok checker :=
    Field.text_of_text rfl _
  have number : Field.number (record checker cwe (first :: rest)) "cwe" 0 = .ok cwe :=
    Field.number_of_int rfl _
  have blank : Field.text (record checker cwe (first :: rest)) "annotation" "" = .ok "" :=
    Field.text_of_null rfl _
  unfold defect
  rw [nodes, name, number, blank]
  simp only [bind_eq_ok_iff, guard_eq_ok_iff]
  exact ⟨(), rfl, checker, rfl, by simpa using named, _, rfl, _, events, _, rfl, _, rfl, rfl⟩

/-- A number of not too many digits is read back from its decimal text. -/
theorem IssueTracker.category_toString (n : Nat)
    (short : (Nat.toDigits 10 n).length ≤ Decimal.maxDigits) :
    category (toString (n : Int)) = .ok n := by
  have all : (Nat.toDigits 10 n).all Char.isDigit = true :=
    List.all_eq_true.mpr fun c => Decimal.isDigit_of_mem_toDigits
  have number : (!(Nat.toDigits 10 n).isEmpty && (Nat.toDigits 10 n).all Char.isDigit) = true := by
    simp [all, Nat.toDigits_ne_nil]
  rw [category, Decimal.toList_toString]
  exact (if_pos number).trans (Decimal.natural_toDigits n short)

/-- A number stands for its decimal text where a text is read. -/
theorem IssueTracker.text_category (cwe : Nat) {category : Value}
    (shown : category = .int cwe ∨ category = .text (toString cwe)) (default : String) :
    Field.text (.object [("cweCategory", category)]) "cweCategory" default =
      .ok (toString (cwe : Int)) := by
  rcases shown with rfl | rfl
  · exact Field.text_of_int rfl default
  · exact Field.text_of_text rfl default

theorem IssueTracker.defect_record (named : checker ≠ "") (some : trace ≠ [])
    (labelled : ∀ e ∈ trace, e.label ≠ "") (cwe : Nat)
    (short : (Nat.toDigits 10 cwe).length ≤ Decimal.maxDigits) {category : Value}
    (shown : category = .int cwe ∨ category = .text (toString cwe)) :
    defect (record checker category trace) = .ok { checker, trace, cwe } := by
  let node := record checker category trace
  have props : node.field "checkerProperties" = .object [("cweCategory", category)] := rfl
  have events : IssueTracker.trace node (node.field "checkerProperties") = .ok trace := by
    obtain ⟨first, rest, rfl⟩ := List.exists_cons_of_ne_nil some
    exact mapM_written event_eq_ok_iff flat_form rfl (first :: rest) labelled
  unfold defect
  simp only [bind_eq_ok_iff, guard_eq_ok_iff, ofField_eq_ok_iff, ofDigits_eq_ok_iff]
  refine ⟨(), rfl, checker, Field.text_of_text rfl "", by simpa using named, trace, events,
    toString (cwe : Int), ?_, cwe, category_toString cwe short, rfl⟩
  rw [props]
  exact text_category cwe shown ""

/-- **Nothing is lost, and both formats agree.** A defect with a checker and with events that have
labels is read back from its native record and from its issue, whichever way the issue writes the
category: the checker, the weakness number, and the events in their order with all of their parts.
-/
theorem native_issue_agree (rules : List Cleanup.Rule) (checker : String) (named : checker ≠ "")
    (trace : List Event) (some : trace ≠ []) (labelled : ∀ e ∈ trace, e.label ≠ "") (cwe : Nat)
    (short : (Nat.toDigits 10 cwe).length ≤ Decimal.maxDigits) (category : Value)
    (shown : category = .int cwe ∨ category = .text (toString cwe)) :
    let d : Defect := { checker, trace, cwe, annotation := "" }
    Kind.native.status rules { node := Native.record checker cwe trace } = .ok (.decoded d) ∧
      Kind.issueTracker.status rules { node := IssueTracker.record checker category trace } =
        .ok (.decoded d) := by
  intro d
  have kept : Status.ofDefect d = .decoded d := if_neg (by simpa [d] using some)
  refine ⟨?_, ?_⟩
  · rw [Kind.status, Kind.decode, Native.defect_record named some labelled cwe, ← kept]
    rfl
  · rw [Kind.status, Kind.decode, IssueTracker.defect_record named some labelled cwe short shown,
      ← kept]
    rfl

/-- Two events, one of which has no file and is in front of the first line; the issue writes its
category as a text. -/
theorem native_issue_agree_two :
    let trace : List Event :=
      [{ label := "leak", file := "", line := -1, column := 0, message := "é [CWE-1]" },
        { label := "note", file := "<unknown>", line := 12, column := 3, message := "" }]
    let d : Defect := { checker := "RESOURCE_LEAK", trace, cwe := 772 }
    "RESOURCE_LEAK" ≠ "" ∧ trace ≠ [] ∧ (∀ e ∈ trace, e.label ≠ "") ∧
      (Nat.toDigits 10 772).length ≤ Decimal.maxDigits ∧
      Kind.native.status [] { node := Native.record "RESOURCE_LEAK" 772 trace } =
        .ok (.decoded d) ∧
      Kind.issueTracker.status []
        { node := IssueTracker.record "RESOURCE_LEAK" (.text "772") trace } =
        .ok (.decoded d) := by
  intro trace d
  have labelled : ∀ e ∈ trace, e.label ≠ "" := by decide
  have short : (Nat.toDigits 10 772).length ≤ Decimal.maxDigits := by decide
  obtain ⟨native, issue⟩ := native_issue_agree [] "RESOURCE_LEAK" (by decide) trace
    (List.cons_ne_nil _ _) labelled 772 short (.text "772") (.inr rfl)
  exact ⟨by decide, List.cons_ne_nil _ _, labelled, short, native, issue⟩

end Report

end Findings
