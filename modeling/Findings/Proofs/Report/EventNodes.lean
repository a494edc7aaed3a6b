import Findings.Proofs.Steps
import Findings.Report.Cursor
/-!
What a node of a report says of an event, part by part, set against the readers of the formats. A
reader that comes to an end has read every part of the event, and each from the node it was given.

* `Form.Says`, `Sarif.SaysNote`: the event of an event node;
* `Sarif.SaysKey`, `IssueTracker.SaysMain`: the event of a record;
* lemmas with `_eq_ok_iff` or `_eq_some_iff`: the readers give these events and no others.
-/

namespace Findings.Report

open Json (Value)

theorem requireObject_eq_ok_iff (node : Value) (what : String) (u : Unit) :
    Field.requireObject node what = .ok u ↔ ∃ fields, node = .object fields := by
  cases node <;> simp [Field.requireObject]

/-! ## Events with a label of their own -/

/-- How a format writes an event: the names of its parts, where its place stands, the message of an
event that has none, and the tag that stands in brackets behind the message. -/
structure Form where
  label : String
  file : String
  line : String
  column : String
  message : String
  place : Value → Value := id
  silence : String := ""
  tag : Value → Except RecordFault String := fun _ => .ok ""

/-- The event is what the node says, part by part. -/
structure Form.Says (form : Form) (node : Value) (e : Event) : Prop where
  object : ∃ fields, node = .object fields
  label : Field.text node form.label "" = .ok e.label
  labelled : e.label ≠ ""
  file : Field.text (form.place node) form.file unknownFile = .ok e.file
  line : Field.number (form.place node) form.line 0 = .ok e.line
  column : Field.number (form.place node) form.column 0 = .ok e.column
  message : ∃ plain tag, Field.text node form.message form.silence = .ok plain ∧
    form.tag node = .ok tag ∧ e.message = Compiler.tagged plain tag

/-- The node is an object without a label, and says nothing. -/
def Form.Mute (form : Form) (node : Value) : Prop :=
  (∃ fields, node = .object fields) ∧ Field.text node form.label "" = .ok ""

def Native.form : Form :=
  { label := "event", file := "file_name", line := "line", column := "column",
    message := "message" }

def IssueTracker.form : Form :=
  { label := "eventTag", file := "filePathname", line := "lineNumber", column := "columnNumber",
    message := "eventDescription" }

def ShellLinter.form : Form :=
  { label := "level", file := "file", line := "line", column := "byte-column",
    message := "message", silence := unknownMessage
    tag := fun node => (Field.text node "code" "").map ruleTag }

def Compiler.form : Form :=
  { label := "kind", file := "file", line := "line", column := "byte-column",
    message := "message", place := caret, silence := unknownMessage
    tag := fun node => Field.text node "option" "" }

/-- The parts in the order in which they are read. -/
theorem Form.said_iff (form : Form) (node : Value) (e : Event) :
    form.Says node e ↔ (∃ fields, node = .object fields) ∧
      ∃ label, Field.text node form.label "" = .ok label ∧ label ≠ "" ∧
      ∃ file, Field.text (form.place node) form.file unknownFile = .ok file ∧
      ∃ line, Field.number (form.place node) form.line 0 = .ok line ∧
      ∃ column, Field.number (form.place node) form.column 0 = .ok column ∧
      ∃ plain, Field.text node form.message form.silence = .ok plain ∧
      ∃ tag, form.tag node = .ok tag ∧
      { label, file, line, column, message := Compiler.tagged plain tag } = e := by
  constructor
  · rintro ⟨object, label, labelled, file, line, column, plain, tag, message, tags, tagged⟩
    exact ⟨object, _, label, labelled, _, file, _, line, _, column, plain, message, tag, tags,
      by rw [← tagged]⟩
  · rintro ⟨object, _, label, labelled, _, file, _, line, _, column, plain, message, tag, tags, rfl⟩
    exact ⟨object, label, labelled, file, line, column, plain, tag, message, tags, rfl⟩

theorem Native.event_eq_ok_iff (node : Value) (e : Event) :
    event node = .ok e ↔ form.Says node e := by
  simp [event, form, Form.said_iff, bind_eq_ok_iff, requireObject_eq_ok_iff, guard_eq_ok_iff,
    Compiler.tagged, pure, Except.pure]

theorem IssueTracker.event_eq_ok_iff (node : Value) (e : Event) :
    event node = .ok e ↔ form.Says node e := by
  simp [event, form, Form.said_iff, bind_eq_ok_iff, requireObject_eq_ok_iff, guard_eq_ok_iff,
    Compiler.tagged, pure, Except.pure]

theorem Compiler.event?_eq_some_iff (node : Value) (e : Event) :
    event? node = .ok (some e) ↔ form.Says node e := by
  simp [event?, form, Form.said_iff, bind_eq_ok_iff, requireObject_eq_ok_iff, skip_eq_some_iff,
    pure, Except.pure]

theorem Compiler.event?_eq_none_iff (node : Value) :
    event? node = .ok none ↔ form.Mute node := by
  simp [event?, form, Form.Mute, bind_eq_ok_iff, requireObject_eq_ok_iff, pure,
    Except.pure]

theorem ShellLinter.event?_eq_some_iff (node : Value) (e : Event) :
    event? node = .ok (some e) ↔ form.Says node e := by
  simp [event?, form, Form.said_iff, bind_eq_ok_iff, requireObject_eq_ok_iff, skip_eq_some_iff,
    map_eq_ok_iff, pure, Except.pure]

theorem ShellLinter.event?_eq_none_iff (node : Value) :
    event? node = .ok none ↔ form.Mute node := by
  simp [event?, form, Form.Mute, bind_eq_ok_iff, requireObject_eq_ok_iff, pure,
    Except.pure]

/-! ## Events without one -/

namespace Sarif

/-- The event stands where the location says; a location that is nowhere leaves it unplaced. -/
def Placed (location : Value) (e : Event) : Prop :=
  let place := location.field "physicalLocation"
  if place.isNull then e.file = unknownFile ∧ e.line = 0 ∧ e.column = 0
  else
    (∃ uri, Field.text (place.field "artifactLocation") "uri" "" = .ok uri ∧
      e.file = if uri.isEmpty then unknownFile else withoutScheme uri) ∧
    Field.number (place.field "region") "startLine" 0 = .ok e.line ∧
    Field.number (place.field "region") "startColumn" 0 = .ok e.column

/-- The event is a note with the place and the message of a step. -/
structure SaysNote (step : Value) (e : Event) : Prop where
  label : e.label = "note"
  placed : Placed (step.field "location") e
  message : Field.text ((step.field "location").field "message") "text" "" = .ok e.message

/-- The event has the level, the first place and the message of a result, with the name of the rule
behind the message. -/
structure SaysKey (ruleId : String) (node : Value) (e : Event) : Prop where
  label : ∃ level, Field.text node "level" "" = .ok level ∧ e.label = orElse level "warning"
  placed : Placed (node.field "locations").firstChild e
  message : ∃ plain, Field.text (node.field "message") "text" unknownMessage = .ok plain ∧
    e.message = Compiler.tagged plain ruleId

theorem locate_eq_ok_iff (location : Value) (label : String) (e : Event) :
    locate { label } location = .ok e ↔ e.label = label ∧ e.message = "" ∧ Placed location e := by
  unfold locate Placed
  dsimp only
  split
  · obtain ⟨_, _, _, _, _⟩ := e
    constructor
    · rintro ⟨⟩
      exact ⟨rfl, rfl, rfl, rfl, rfl⟩
    · rintro ⟨rfl, rfl, rfl, rfl, rfl⟩
      rfl
  · simp only [bind_eq_ok_iff, pure, Except.pure, Except.ok.injEq]
    constructor
    · rintro ⟨uri, read, _, line, _, column, rfl⟩
      exact ⟨rfl, rfl, ⟨uri, read, rfl⟩, line, column⟩
    · rintro ⟨label, message, ⟨uri, read, file⟩, line, column⟩
      refine ⟨uri, read, _, line, _, column, ?_⟩
      rw [← label, ← message, ← file]

theorem note_eq_ok_iff (step : Value) (e : Event) : note step = .ok e ↔ SaysNote step e := by
  simp only [note, bind_eq_ok_iff, locate_eq_ok_iff, pure, Except.pure, Except.ok.injEq]
  constructor
  · rintro ⟨placed, ⟨label, -, place⟩, _, message, rfl⟩
    exact ⟨label, place, message⟩
  · rintro ⟨label, place, message⟩
    exact ⟨{ e with message := "" }, ⟨label, rfl, place⟩, _, message, rfl⟩

theorem keyEvent_eq_ok_iff (ruleId : String) (node : Value) (e : Event) :
    keyEvent ruleId node = .ok e ↔ SaysKey ruleId node e := by
  simp only [keyEvent, bind_eq_ok_iff, locate_eq_ok_iff, pure, Except.pure, Except.ok.injEq]
  constructor
  · rintro ⟨level, read, placed, ⟨label, -, place⟩, plain, message, rfl⟩
    exact ⟨⟨level, read, label⟩, place, plain, message, rfl⟩
  · rintro ⟨⟨level, read, label⟩, place, plain, message, tagged⟩
    refine ⟨level, read, { e with message := "" }, ⟨label, rfl, place⟩, plain, message, ?_⟩
    rw [← tagged]

end Sarif

/-- The event that stands for an issue without events: it has the place of the main event and the
description of the checker. -/
structure IssueTracker.SaysMain (node : Value) (e : Event) : Prop where
  label : e.label = "defect"
  file : Field.text node "mainEventFilePathname" "" = .ok e.file
  named : e.file ≠ ""
  line : Field.number node "mainEventLineNumber" 0 = .ok e.line
  column : e.column = 0
  message : Field.text (node.field "checkerProperties") "subcategoryLongDescription" "" =
    .ok e.message

theorem IssueTracker.mainEvent_eq_ok_iff (node : Value) (e : Event) :
    mainEvent node (node.field "checkerProperties") = .ok e ↔ SaysMain node e := by
  simp only [mainEvent, bind_eq_ok_iff, guard_eq_ok_iff, pure, Except.pure, Except.ok.injEq,
    String.isEmpty_iff]
  constructor
  · rintro ⟨_, file, named, _, line, _, message, rfl⟩
    exact ⟨rfl, file, named, line, rfl, message⟩
  · rintro ⟨label, file, named, line, column, message⟩
    refine ⟨_, file, named, _, line, _, message, ?_⟩
    rw [mainLabel, ← label]
    cases e
    subst column
    rfl

end Findings.Report
