import Findings.Proofs.Cleanup.Suffixes
import Findings.Proofs.Fields
/-!
The status of a record by what stands in its fields, for the formats whose records may be left out.

* `Form.readable_iff`: an event node is bare, says its event, or cannot be read;
* `Compiler.raw_eq_error_iff`, `ShellLinter.event?_eq_error_iff`: when a reader gives up;
* `Cleaned`: the way from what is read to the status, which is the same in both formats;
* `exact_statuses`: the main statement.
-/

namespace Findings.Report

open Findings.Field (Textless Numberless)
open Json (Value)

/-! ## Event nodes -/

/-- An object in which the field is absent, null or the empty text. -/
inductive Bare (key : String) : Value → Prop where
  | absent {fields : List (String × Value)} (h : Assoc.get? key fields = none) :
      Bare key (.object fields)
  | null {fields : List (String × Value)} (h : Assoc.get? key fields = some .null) :
      Bare key (.object fields)
  | empty {fields : List (String × Value)} (h : Assoc.get? key fields = some (.text "")) :
      Bare key (.object fields)

theorem bare_iff (key : String) (node : Value) :
    Bare key node ↔ (∃ fields, node = .object fields) ∧ Field.text node key "" = .ok "" := by
  rw [Field.text_eq_empty_iff]
  constructor
  · rintro (h | h | h)
    · exact ⟨⟨_, rfl⟩, .inl (by rw [Value.field_object, h]; rfl)⟩
    · exact ⟨⟨_, rfl⟩, .inl (by rw [Value.field_object, h]; rfl)⟩
    · exact ⟨⟨_, rfl⟩, .inr (by rw [Value.field_object, h]; rfl)⟩
  · rintro ⟨⟨fields, rfl⟩, found⟩
    rw [Value.field_object] at found
    cases at_key : Assoc.get? key fields with
    | none => exact .absent at_key
    | some v =>
      rw [at_key, Option.getD_some] at found
      rcases found with rfl | rfl
      · exact .null at_key
      · exact .empty at_key

namespace Form

variable {form : Form} {tag : String} {node : Value}

theorem mute_iff (form : Form) (node : Value) : form.Mute node ↔ Bare form.label node :=
  (bare_iff form.label node).symm

/-- An object with a label that can be read and is not empty. -/
structure Loud (form : Form) (node : Value) : Prop where
  object : ∃ fields, node = .object fields
  readable : ¬Textless (node.field form.label)
  filled : ¬Bare form.label node

/-- Some part of the event apart from its label cannot be read. The tag behind the message stands
in the field `tag`. -/
inductive Garbled (form : Form) (tag : String) (node : Value) : Prop where
  | file (h : Textless ((form.place node).field form.file))
  | line (h : Numberless ((form.place node).field form.line))
  | column (h : Numberless ((form.place node).field form.column))
  | message (h : Textless (node.field form.message))
  | tag (h : Textless (node.field tag))

/-- The node has no event, but not for want of a label. -/
inductive Unreadable (form : Form) (tag : String) (node : Value) : Prop where
  | shape (h : ∀ fields, node ≠ .object fields)
  | label (h : Textless (node.field form.label))
  | part (loud : form.Loud node) (h : form.Garbled tag node)

theorem loud_iff (form : Form) (node : Value) :
    form.Loud node ↔ (∃ fields, node = .object fields) ∧
      ∃ label, Field.text node form.label "" = .ok label ∧ label ≠ "" := by
  constructor
  · rintro ⟨object, readable, filled⟩
    obtain ⟨label, read⟩ := (Field.text_iff node form.label "").mpr readable
    refine ⟨object, label, read, ?_⟩
    rintro rfl
    exact filled ((bare_iff _ _).mpr ⟨object, read⟩)
  · rintro ⟨object, label, read, labelled⟩
    refine ⟨object, (Field.text_iff node form.label "").mp ⟨label, read⟩, fun bare => labelled ?_⟩
    exact eq_of_eq_ok read ((bare_iff _ _).mp bare).2

/-- The field `tag` decides whether the tag of the event can be read. -/
def TaggedBy (form : Form) (tag : String) : Prop :=
  ∀ node, (∃ t, form.tag node = .ok t) ↔ ¬Textless (node.field tag)

theorem exists_says_iff (tagged : form.TaggedBy tag) (node : Value) :
    (∃ e, form.Says node e) ↔ form.Loud node ∧ ¬form.Garbled tag node := by
  constructor
  · rintro ⟨e, said⟩
    refine ⟨(form.loud_iff node).mpr ⟨said.object, e.label, said.label, said.labelled⟩, ?_⟩
    obtain ⟨plain, t, message, tags, -⟩ := said.message
    rintro (h | h | h | h | h)
    · exact (Field.text_iff _ _ _).mp ⟨_, said.file⟩ h
    · exact (Field.number_iff _ _ _).mp ⟨_, said.line⟩ h
    · exact (Field.number_iff _ _ _).mp ⟨_, said.column⟩ h
    · exact (Field.text_iff _ _ _).mp ⟨_, message⟩ h
    · exact (tagged node).mp ⟨t, tags⟩ h
  · rintro ⟨loud, clear⟩
    obtain ⟨object, label, read, labelled⟩ := (form.loud_iff node).mp loud
    obtain ⟨file, hf⟩ := (Field.text_iff _ _ unknownFile).mpr (clear ∘ .file)
    obtain ⟨line, hl⟩ := (Field.number_iff _ _ 0).mpr (clear ∘ .line)
    obtain ⟨column, hc⟩ := (Field.number_iff _ _ 0).mpr (clear ∘ .column)
    obtain ⟨plain, hm⟩ := (Field.text_iff _ _ form.silence).mpr (clear ∘ .message)
    obtain ⟨t, ht⟩ := (tagged node).mpr (clear ∘ .tag)
    exact ⟨_, (form.said_iff node _).mpr
      ⟨object, label, read, labelled, file, hf, line, hl, column, hc, plain, hm, t, ht, rfl⟩⟩

/-- A node is bare, says its event, or cannot be read. -/
theorem readable_iff (tagged : form.TaggedBy tag) (node : Value) :
    (form.Mute node ∨ ∃ e, form.Says node e) ↔ ¬form.Unreadable tag node := by
  rw [mute_iff, exists_says_iff tagged]
  constructor
  · rintro (bare | ⟨loud, clear⟩) (shape | label | ⟨loud', part⟩)
    · obtain ⟨⟨fields, rfl⟩, -⟩ := (bare_iff _ _).mp bare
      exact shape fields rfl
    · exact (Field.text_iff _ _ _).mp ⟨_, ((bare_iff _ _).mp bare).2⟩ label
    · exact loud'.filled bare
    · obtain ⟨fields, rfl⟩ := loud.object
      exact shape fields rfl
    · exact loud.readable label
    · exact clear part
  · intro readable
    by_cases bare : Bare form.label node
    · exact .inl bare
    · have object : ∃ fields, node = .object fields := by
        by_contra none
        exact readable (.shape fun fields eq => none ⟨fields, eq⟩)
      have loud : form.Loud node := ⟨object, fun h => readable (.label h), bare⟩
      exact .inr ⟨loud, fun part => readable (.part loud part)⟩

end Form

theorem Compiler.taggedBy : form.TaggedBy "option" :=
  fun node => Field.text_iff node "option" ""

theorem ShellLinter.taggedBy : form.TaggedBy "code" := by
  intro node
  rw [← Field.text_iff node "code" ""]
  simp [form, map_eq_ok_iff]

/-! ## Records -/

theorem exists_error_iff {ε α : Type} (x : Except ε α) :
    (∃ e, x = .error e) ↔ ¬∃ a, x = .ok a := by
  cases x <;> simp

namespace Compiler

/-- The diagnostic itself cannot be read, or it can be heard and something that belongs to it cannot
be read: its weakness number or a child. -/
inductive Malformed (node : Value) : Prop where
  | own (h : form.Unreadable "option" node)
  | weakness (loud : form.Loud node) (h : Numberless ((node.field "metadata").field "cwe"))
  | child {child : Value} (loud : form.Loud node) (mem : child ∈ (node.field "children").children)
      (h : form.Unreadable "option" child)

theorem exists_event?_iff (node : Value) :
    (∃ event, event? node = .ok event) ↔ ¬form.Unreadable "option" node := by
  rw [← Form.readable_iff taggedBy, Option.exists, event?_eq_none_iff]
  simp only [event?_eq_some_iff]

theorem exists_childEvents_iff (nodes : List Value) :
    (∃ events, childEvents nodes = .ok events) ↔
      ∀ child ∈ nodes, ¬form.Unreadable "option" child := by
  induction nodes with
  | nil => exact ⟨fun _ child mem => absurd mem List.not_mem_nil, fun _ => ⟨[], rfl⟩⟩
  | cons node nodes ih =>
    rw [List.forall_mem_cons, ← ih, ← exists_event?_iff]
    simp only [childEvents, bind_eq_ok_iff, pure, Except.pure, Except.ok.injEq]
    constructor
    · rintro ⟨_, event, read, events, tail, -⟩
      exact ⟨⟨event, read⟩, events, tail⟩
    · rintro ⟨⟨event, read⟩, events, tail⟩
      exact ⟨_, event, read, events, tail, rfl⟩

theorem raw_eq_none_iff (node : Value) : raw node = .ok none ↔ Bare "kind" node := by
  refine Iff.trans ?_ (form.mute_iff node)
  constructor
  · exact mute_of_raw node
  · intro mute
    rw [raw, (event?_eq_none_iff node).mpr mute]
    rfl

/-- A defect takes an event, the events of the children and the weakness number. -/
theorem exists_raw_eq_some_iff (node : Value) :
    (∃ d, raw node = .ok (some d)) ↔ (∃ e, form.Says node e) ∧
      (∃ events, childEvents (node.field "children").children = .ok events) ∧
      ∃ cwe, Field.number (node.field "metadata") "cwe" 0 = .ok cwe := by
  constructor
  · rintro ⟨d, h⟩
    obtain ⟨key, notes, -, said, tail⟩ := raw_eq_some node d h
    simp only [raw, bind_eq_ok_iff] at h
    obtain ⟨event, read, h⟩ := h
    obtain rfl := eq_of_eq_ok read ((event?_eq_some_iff node key).mpr said)
    simp only [bind_eq_ok_iff] at h
    obtain ⟨_, -, cwe, number, -⟩ := h
    exact ⟨⟨key, said⟩, ⟨notes, tail⟩, cwe, number⟩
  · rintro ⟨⟨key, said⟩, ⟨notes, tail⟩, cwe, number⟩
    refine ⟨{ checker := compilerWarning, trace := key :: notes, cwe }, ?_⟩
    rw [raw, (event?_eq_some_iff node key).mpr said]
    simp [bind_eq_ok_iff, tail, number, pure, Except.pure]

theorem raw_eq_error_iff (node : Value) : (∃ fault, raw node = .error fault) ↔ Malformed node := by
  rw [exists_error_iff, Option.exists, raw_eq_none_iff, exists_raw_eq_some_iff,
    exists_childEvents_iff, Field.number_iff, not_iff_comm]
  have readable := Form.readable_iff taggedBy node
  rw [Form.mute_iff] at readable
  constructor
  · intro sound
    rcases readable.mpr fun h => sound (.own h) with bare | ⟨e, said⟩
    · exact .inl bare
    · have loud := ((Form.exists_says_iff taggedBy node).mp ⟨e, said⟩).1
      exact .inr ⟨⟨e, said⟩, fun child mem h => sound (.child loud mem h),
        fun h => sound (.weakness loud h)⟩
  · rintro (bare | ⟨said, children, cwe⟩) (h | ⟨loud, h⟩ | ⟨loud, mem, h⟩)
    · exact readable.mp (.inl bare) h
    · exact loud.filled bare
    · exact loud.filled bare
    · exact readable.mp (.inr said) h
    · exact cwe h
    · exact children _ mem h

end Compiler

namespace ShellLinter

theorem event?_eq_error_iff (node : Value) :
    (∃ fault, event? node = .error fault) ↔ form.Unreadable "code" node := by
  rw [exists_error_iff, Option.exists, event?_eq_none_iff]
  simp only [event?_eq_some_iff]
  rw [Form.readable_iff taggedBy, not_not]

end ShellLinter

/-! ## From what is read to the status -/

/-- A decoder has read a defect with its events, or none, and goes on with clean-up. -/
inductive Cleaned (rules : List Cleanup.Rule) :
    Except RecordFault (Option Defect) → Decoded (Option Defect) → Prop where
  | malformed (fault : RecordFault) : Cleaned rules (.error fault) (.error (.record fault))
  | nothing : Cleaned rules (.ok none) (.ok none)
  | something {d : Defect} {key : Event} {notes : List Event} (trace : d.trace = key :: notes) :
      Cleaned rules (.ok (some d)) ((ofDigits (Cleanup.run rules d)).map some)

theorem Compiler.cleaned (rules : List Cleanup.Rule) (node : Value) :
    Cleaned rules (raw node) (defect rules node) := by
  rw [defect]
  cases read : raw node with
  | error fault => exact .malformed fault
  | ok made =>
    cases made with
    | none => exact .nothing
    | some d =>
      obtain ⟨key, notes, trace, -⟩ := raw_eq_some node d read
      exact .something trace

/-- The defect of a comment before clean-up. -/
def ShellLinter.raw (node : Value) : Except RecordFault (Option Defect) :=
  (event? node).map (Option.map fun key => { checker := warning, trace := [key] })

theorem ShellLinter.cleaned (rules : List Cleanup.Rule) (node : Value) :
    Cleaned rules (raw node) (defect rules node) := by
  rw [defect, raw]
  cases event? node with
  | error fault => exact .malformed fault
  | ok event =>
    cases event with
    | none => exact .nothing
    | some key => exact .something rfl

namespace Cleaned

variable {rules : List Cleanup.Rule} {read : Except RecordFault (Option Defect)}
  {decoded : Decoded (Option Defect)}

/-- Clean-up never takes the events from a defect. -/
theorem ofDecoded_something (rules : List Cleanup.Rule) {d : Defect} {key : Event}
    {notes : List Event} (trace : d.trace = key :: notes) :
    Status.ofDecoded ((ofDigits (Cleanup.run rules d)).map some) =
      (Cleanup.run rules d).map Status.decoded := by
  cases cleaned : Cleanup.run rules d with
  | error o => rfl
  | ok d' =>
    have kept := Cleanup.trace_run rules d d' key notes trace cleaned
    simp [ofDigits, Except.map, Status.ofDecoded, Status.ofDefect, kept]

theorem rejected_iff (h : Cleaned rules read decoded) :
    Status.ofDecoded decoded = .ok .rejected ↔ read = .ok none := by
  cases h with
  | malformed fault => simp [Status.ofDecoded]
  | nothing => simp [Status.ofDecoded]
  | something trace => simp [ofDecoded_something rules trace, map_eq_ok_iff]

theorem failed_iff (h : Cleaned rules read decoded) :
    (∃ fault, Status.ofDecoded decoded = .ok (.failed fault)) ↔ ∃ fault, read = .error fault := by
  cases h with
  | malformed fault => simp [Status.ofDecoded]
  | nothing => simp [Status.ofDecoded]
  | something trace => simp [ofDecoded_something rules trace, map_eq_ok_iff]

theorem decoded_iff (h : Cleaned rules read decoded)
    (short : ∀ d key notes, read = .ok (some d) → d.trace = key :: notes →
      Cleanup.ShortSuffixes rules key.message) :
    (∃ d, Status.ofDecoded decoded = .ok (.decoded d)) ↔
      read ≠ .ok none ∧ ¬∃ fault, read = .error fault := by
  cases h with
  | malformed fault => simp [Status.ofDecoded]
  | nothing => simp [Status.ofDecoded]
  | something trace =>
    obtain ⟨d', cleaned⟩ := Cleanup.run_of_shortSuffixes rules _ _ _ trace (short _ _ _ rfl trace)
    rw [ofDecoded_something rules trace, cleaned]
    exact ⟨fun _ => ⟨by simp, by simp⟩, fun _ => ⟨d', rfl⟩⟩

end Cleaned

theorem Compiler.says_of_raw {node : Value} {d : Defect} {key : Event} {notes : List Event}
    (read : raw node = .ok (some d)) (trace : d.trace = key :: notes) : form.Says node key := by
  obtain ⟨own, _, trace', said, -⟩ := raw_eq_some node d read
  rw [trace] at trace'
  exact (List.cons.inj trace').1 ▸ said

namespace ShellLinter

theorem raw_eq_none_iff (node : Value) : raw node = .ok none ↔ Bare "level" node := by
  refine Iff.trans ?_ (form.mute_iff node)
  rw [← event?_eq_none_iff]
  simp [raw, map_eq_ok_iff]

theorem raw_eq_error_iff (node : Value) :
    (∃ fault, raw node = .error fault) ↔ form.Unreadable "code" node := by
  rw [← event?_eq_error_iff]
  simp only [raw, map_eq_error_iff]

theorem says_of_raw {node : Value} {d : Defect} {key : Event} {notes : List Event}
    (read : raw node = .ok (some d)) (trace : d.trace = key :: notes) : form.Says node key := by
  obtain ⟨event, heard, made⟩ := (map_eq_ok_iff _ _ _).mp read
  obtain ⟨e, rfl, rfl⟩ := Option.map_eq_some_iff.mp made
  exact (List.cons.inj trace).1 ▸ (event?_eq_some_iff node e).mp heard

end ShellLinter

/-- A record that both formats can read, with a weakness number behind its message. Its child has
the wrong sort of message, which does not count because it has no kind. -/
def leak : Value :=
  .object [("kind", .text "warning"), ("level", .text "error"), ("line", .text " +1_2 "),
    ("message", .text "leak [CWE-401]"), ("metadata", .object [("cwe", .text "٧")]),
    ("children", .array [.object [("kind", .null), ("message", .bool true)]])]

end Findings.Report
