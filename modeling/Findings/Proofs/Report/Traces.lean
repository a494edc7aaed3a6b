import Findings.Proofs.Report.EventNodes
import Findings.Proofs.Report.Reading
/-!
The trace of a defect against the event nodes of its record.

* `trace_run`: clean-up leaves the trace as it was, but for the message of the key event;
* `defect_eq_ok`, `defect_eq_some`: what a decoder has read when it gives a defect;
* `traced_of_decode`, `fails_of_blocked`: the decoders, one format at a time;
* `read_traced`: the main statement, for any read of any cursor.
-/

namespace Findings

namespace Cleanup

/-- What a rule leaves of the message of a key event. -/
def Rule.left (message : String) : Rule → String
  | cweSuffix =>
    match splitCwe? message.toList with
    | some (before, _) => String.ofList before
    | none => message
  | analyzerClass => message

/-- What rules leave of it, one after another. -/
def left (rules : List Rule) (message : String) : String := rules.foldl Rule.left message

theorem Rule.trace_apply (r : Rule) (d d' : Defect) (key : Event) (rest : List Event)
    (ht : d.trace = key :: rest) (h : r.apply d = .ok d') :
    d'.trace = { key with message := r.left key.message } :: rest := by
  unfold Rule.apply at h
  rw [ht] at h
  cases r with
  | cweSuffix =>
    simp only [moveCwe] at h
    rw [Rule.left]
    split at h
    · next whole =>
      rw [← Except.ok.inj h, ht, whole]
    · next before digits split =>
      have shorter : (d.mapKey fun e => { e with message := String.ofList before }).trace =
          { key with message := String.ofList before } :: rest := by
        rw [Defect.mapKey, ht]
      rw [split]
      split at h
      · obtain ⟨n, -, rfl⟩ := (map_eq_ok_iff _ _ _).mp h
        exact shorter
      · rw [← Except.ok.inj h]
        exact shorter
  | analyzerClass =>
    rw [← Except.ok.inj h, Rule.left, ← ht]
    unfold classify
    split <;> rfl

/-- Clean-up leaves the trace as it was, but for the message of the key event. -/
theorem trace_run (rules : List Rule) (d d' : Defect) (key : Event) (rest : List Event)
    (ht : d.trace = key :: rest) (h : run rules d = .ok d') :
    d'.trace = { key with message := left rules key.message } :: rest := by
  induction rules generalizing d key with
  | nil =>
    rw [← Except.ok.inj h]
    exact ht
  | cons r rules ih =>
    rw [run] at h
    split at h
    · next applied =>
      exact ih _ { key with message := r.left key.message }
        (r.trace_apply d _ key rest ht applied) h
    · cases h

end Cleanup

namespace Report

open Json (Value)

/-! ## Traces -/

/-- The event that an event node of a report stands for. -/
def Kind.Says : Kind → Value → Event → Prop
  | native => Native.form.Says
  | issueTracker => IssueTracker.form.Says
  | sarif => Sarif.SaysNote
  | shellLinter => ShellLinter.form.Says
  | compiler => Compiler.form.Says

/-- The event that a record stands for by its own fields, in the formats that have such an event. -/
def Kind.Stands : Kind → Value → Event → Prop
  | native => fun _ _ => False
  | issueTracker => IssueTracker.SaysMain
  | sarif => fun node e => ∃ ruleId, Field.text node "ruleId" "" = .ok ruleId ∧
      Sarif.SaysKey ruleId node e
  | shellLinter => ShellLinter.form.Says
  | compiler => Compiler.form.Says

/-- Whether a diagnostic has a kind. -/
def Compiler.labelled (node : Value) : Bool :=
  match Field.text node form.label "" with
  | .ok label => !label.isEmpty
  | .error _ => false

open Kind in
/-- The trace of a record holds its event nodes, each once and in their order. In the formats that
are cleaned up, the rules have changed the message of the key event. -/
inductive Kind.Traced (rules : List Cleanup.Rule) : Kind → Value → List Event → Prop where
  | native {node : Value} {nodes : List Value} {trace : List Event}
      (array : node.field "events" = .array nodes) (some : nodes ≠ [])
      (each : List.Forall₂ native.Says nodes trace) : native.Traced rules node trace
  | issue {node : Value} {trace : List Event} (some : (node.field "events").children ≠ [])
      (each : List.Forall₂ issueTracker.Says (node.field "events").children trace) :
      issueTracker.Traced rules node trace
  | main {node : Value} {e : Event} (none : (node.field "events").children = [])
      (own : issueTracker.Stands node e) : issueTracker.Traced rules node [e]
  | result {node : Value} {key : Event} {notes : List Event} (own : sarif.Stands node key)
      (each : List.Forall₂ sarif.Says (Sarif.steps node) notes) :
      sarif.Traced rules node (key :: notes)
  | diagnostic {node : Value} {key : Event} {notes : List Event} (own : compiler.Stands node key)
      (each : List.Forall₂ compiler.Says
        ((node.field "children").children.filter Compiler.labelled) notes)
      (mute : ∀ child ∈ (node.field "children").children, Compiler.labelled child = false →
        Compiler.form.Mute child) :
      compiler.Traced rules node
        ({ key with message := Cleanup.left rules key.message } :: notes)
  | comment {node : Value} {key : Event} (own : shellLinter.Stands node key) :
      shellLinter.Traced rules node [{ key with message := Cleanup.left rules key.message }]

open Kind in
/-- Some event node of the record cannot be read. A record that says nothing itself is left out
before its other nodes are looked at. -/
inductive Kind.Blocked : Kind → Value → Prop where
  | native {node item : Value} {nodes : List Value} (array : node.field "events" = .array nodes)
      (mem : item ∈ nodes) (unread : ∀ e, ¬native.Says item e) : native.Blocked node
  | issue {node item : Value} (mem : item ∈ (node.field "events").children)
      (unread : ∀ e, ¬issueTracker.Says item e) : issueTracker.Blocked node
  | main {node : Value} (none : (node.field "events").children = [])
      (unread : ∀ e, ¬issueTracker.Stands node e) : issueTracker.Blocked node
  | result {node : Value} (unread : ∀ e, ¬sarif.Stands node e) : sarif.Blocked node
  | step {node item : Value} (mem : item ∈ Sarif.steps node) (unread : ∀ e, ¬sarif.Says item e) :
      sarif.Blocked node
  | diagnostic {node : Value} (loud : ¬Compiler.form.Mute node)
      (unread : ∀ e, ¬compiler.Stands node e) : compiler.Blocked node
  | child {node item : Value} (loud : ¬Compiler.form.Mute node)
      (mem : item ∈ (node.field "children").children) (speaks : ¬Compiler.form.Mute item)
      (unread : ∀ e, ¬compiler.Says item e) : compiler.Blocked node
  | comment {node : Value} (loud : ¬ShellLinter.form.Mute node)
      (unread : ∀ e, ¬shellLinter.Stands node e) : shellLinter.Blocked node

theorem forall₂_said {read : Value → Except RecordFault Event} {Says : Value → Event → Prop}
    (reads : ∀ node e, read node = .ok e ↔ Says node e) (nodes : List Value) (trace : List Event) :
    nodes.mapM read = .ok trace ↔ List.Forall₂ Says nodes trace := by
  rw [mapM_eq_ok_iff]
  simp only [reads]

theorem Native.defect_eq_ok (node : Value) (d : Defect) (h : defect node = .ok d) :
    d.checker ≠ "" ∧ ∃ nodes, eventNodes node = .ok nodes ∧ nodes.mapM event = .ok d.trace := by
  simp only [defect, bind_eq_ok_iff, guard_eq_ok_iff, pure, Except.pure, Except.ok.injEq] at h
  obtain ⟨_, object, checker, read, named, nodes, found, trace, each, cwe, _, annotation, _, rfl⟩ :=
    h
  exact ⟨by simpa using named, nodes, found, each⟩

theorem Native.traced_of_defect (rules : List Cleanup.Rule) (node : Value) (d : Defect)
    (h : defect node = .ok d) : Kind.native.Traced rules node d.trace := by
  obtain ⟨-, nodes, found, each⟩ := defect_eq_ok node d h
  rw [forall₂_said event_eq_ok_iff] at each
  unfold eventNodes at found
  split at found
  · next first rest array =>
    rw [← Except.ok.inj found] at each
    exact .native array (List.cons_ne_nil _ _) each
  · cases found

theorem IssueTracker.traced_of_trace (rules : List Cleanup.Rule) (node : Value)
    (events : List Event) (h : trace node (node.field "checkerProperties") = .ok events) :
    Kind.issueTracker.Traced rules node events := by
  unfold trace at h
  split at h
  · next none =>
    simp only [bind_eq_ok_iff, pure, Except.pure, Except.ok.injEq] at h
    obtain ⟨e, own, rfl⟩ := h
    exact .main none ((mainEvent_eq_ok_iff node e).mp own)
  · next nodes some =>
    exact .issue some ((forall₂_said event_eq_ok_iff _ _).mp h)

theorem Sarif.defect_eq_ok (table : RuleTable) (node : Value) (d : Defect)
    (h : defect table node = .ok d) :
    ∃ ruleId key notes, Field.text node "ruleId" "" = .ok ruleId ∧
      keyEvent ruleId node = .ok key ∧ (steps node).mapM note = .ok notes ∧
      d.trace = key :: notes ∧
      d.checker = if isShellRule ruleId then ShellLinter.warning else warning := by
  simp only [defect, bind_eq_ok_iff, pure, Except.pure, Except.ok.injEq] at h
  obtain ⟨_, object, ruleId, read, key, own, notes, each, rfl⟩ := h
  exact ⟨ruleId, key, notes, read, own, each, rfl, rfl⟩

theorem Sarif.traced_of_defect (rules : List Cleanup.Rule) (table : RuleTable) (node : Value)
    (d : Defect) (h : defect table node = .ok d) : Kind.sarif.Traced rules node d.trace := by
  obtain ⟨ruleId, key, notes, read, own, each, trace, -⟩ := defect_eq_ok table node d h
  rw [trace]
  exact .result ⟨ruleId, read, (keyEvent_eq_ok_iff ruleId node key).mp own⟩
    ((forall₂_said note_eq_ok_iff _ _).mp each)

namespace Compiler

theorem labelled_of_said {node : Value} {e : Event} (h : form.Says node e) :
    labelled node = true := by
  rw [labelled, h.label]
  simpa using h.labelled

theorem labelled_of_mute {node : Value} (h : form.Mute node) : labelled node = false := by
  rw [labelled, h.2]
  rfl

/-- The children that have a kind give one event each, and those without are the others. -/
theorem childEvents_eq_ok (nodes : List Value) (events : List Event)
    (h : childEvents nodes = .ok events) :
    List.Forall₂ form.Says (nodes.filter labelled) events ∧
      ∀ child ∈ nodes, labelled child = false → form.Mute child := by
  induction nodes generalizing events with
  | nil =>
    rw [← Except.ok.inj h]
    exact ⟨.nil, nofun⟩
  | cons node nodes ih =>
    simp only [childEvents, bind_eq_ok_iff, pure, Except.pure, Except.ok.injEq] at h
    obtain ⟨event, read, events, tail, rfl⟩ := h
    obtain ⟨each, mute⟩ := ih events tail
    cases event with
    | none =>
      have silent := (event?_eq_none_iff node).mp read
      rw [List.filter_cons_of_neg (by rw [labelled_of_mute silent]; exact Bool.false_ne_true)]
      exact ⟨each, List.forall_mem_cons.mpr ⟨fun _ => silent, mute⟩⟩
    | some e =>
      have said := (event?_eq_some_iff node e).mp read
      have spoken := labelled_of_said said
      rw [List.filter_cons_of_pos spoken]
      refine ⟨.cons said each, List.forall_mem_cons.mpr ⟨fun unlabelled => ?_, mute⟩⟩
      exact Bool.noConfusion (spoken.symm.trans unlabelled)

/-- The trace of a diagnostic before clean-up. -/
theorem raw_eq_some (node : Value) (d : Defect) (h : raw node = .ok (some d)) :
    ∃ key notes, d.trace = key :: notes ∧ form.Says node key ∧
      childEvents (node.field "children").children = .ok notes := by
  simp only [raw, bind_eq_ok_iff] at h
  obtain ⟨event, read, h⟩ := h
  cases event with
  | none => cases h
  | some key =>
    simp only [bind_eq_ok_iff, pure, Except.pure, Except.ok.injEq, Option.some.injEq] at h
    obtain ⟨notes, tail, cwe, -, rfl⟩ := h
    exact ⟨key, notes, rfl, (event?_eq_some_iff node key).mp read, tail⟩

theorem mute_of_raw (node : Value) (h : raw node = .ok none) : form.Mute node := by
  simp only [raw, bind_eq_ok_iff] at h
  obtain ⟨event, read, h⟩ := h
  cases event with
  | none => exact (event?_eq_none_iff node).mp read
  | some key => simp [bind_eq_ok_iff, pure, Except.pure] at h

end Compiler

/-! ## Decoding -/

section Decoding

variable {α β : Type}

theorem ofField_eq_ok_iff (x : Except RecordFault α) (a : α) : ofField x = .ok a ↔ x = .ok a := by
  cases x <;> simp [ofField]

theorem ofDigits_eq_ok_iff (x : Except Decimal.Oversize α) (a : α) :
    ofDigits x = .ok a ↔ x = .ok a := by
  cases x <;> simp [ofDigits]

/-- Decoding stops at a malformed record. -/
def Fails (x : Decoded α) : Prop := ∃ fault, x = .error (.record fault)

theorem fails_ofField {x : Except RecordFault α} (h : ∀ a, x ≠ .ok a) : Fails (ofField x) := by
  cases x with
  | ok a => exact absurd rfl (h a)
  | error fault => exact ⟨fault, rfl⟩

theorem Fails.map {x : Decoded α} (h : Fails x) (f : α → β) : Fails (x.map f) := by
  obtain ⟨fault, rfl⟩ := h
  exact ⟨fault, rfl⟩

theorem Fails.bind {x : Decoded α} (h : Fails x) (f : α → Decoded β) : Fails (x >>= f) := by
  obtain ⟨fault, rfl⟩ := h
  exact ⟨fault, rfl⟩

/-- A step that reads fields fails by itself or hands on to the next one. -/
theorem fails_bind {x : Except RecordFault α} {f : α → Decoded β}
    (h : ∀ a, x = .ok a → Fails (f a)) : Fails (ofField x >>= f) := by
  cases x with
  | ok a => exact h a rfl
  | error fault => exact ⟨fault, rfl⟩

end Decoding

variable {rules : List Cleanup.Rule} {table : Sarif.RuleTable} {node : Value}

theorem IssueTracker.defect_eq_ok (d : Defect) (h : defect node = .ok d) :
    d.checker ≠ "" ∧ trace node (node.field "checkerProperties") = .ok d.trace := by
  simp only [defect, bind_eq_ok_iff, guard_eq_ok_iff, ofField_eq_ok_iff, ofDigits_eq_ok_iff, pure,
    Except.pure, Except.ok.injEq] at h
  obtain ⟨_, -, checker, -, named, trace, read, shown, -, cwe, -, rfl⟩ := h
  exact ⟨by simpa using named, read⟩

theorem ShellLinter.defect_eq_some (d : Defect) (h : defect rules node = .ok (some d)) :
    ∃ key, form.Says node key ∧
      Cleanup.run rules { checker := warning, trace := [key] } = .ok d := by
  simp only [defect, bind_eq_ok_iff, ofField_eq_ok_iff] at h
  obtain ⟨event, read, h⟩ := h
  cases event with
  | none => cases h
  | some key =>
    simp only [bind_eq_ok_iff, ofDigits_eq_ok_iff, pure, Except.pure, Except.ok.injEq,
      Option.some.injEq] at h
    obtain ⟨_, cleaned, rfl⟩ := h
    exact ⟨key, (event?_eq_some_iff node key).mp read, cleaned⟩

theorem Compiler.defect_eq_some (d : Defect) (h : defect rules node = .ok (some d)) :
    ∃ whole, raw node = .ok (some whole) ∧ Cleanup.run rules whole = .ok d := by
  simp only [defect, bind_eq_ok_iff, ofField_eq_ok_iff] at h
  obtain ⟨whole, read, h⟩ := h
  cases whole with
  | none => cases h
  | some whole =>
    simp only [bind_eq_ok_iff, ofDigits_eq_ok_iff, pure, Except.pure, Except.ok.injEq,
      Option.some.injEq] at h
    obtain ⟨_, cleaned, rfl⟩ := h
    exact ⟨whole, read, cleaned⟩

theorem Kind.traced_of_decode (k : Kind) (d : Defect)
    (h : k.decode rules table node = .ok (some d)) : k.Traced rules node d.trace := by
  cases k with
  | native =>
    simp only [decode, map_eq_ok_iff, ofField_eq_ok_iff, Option.some.injEq, exists_eq_right] at h
    exact Native.traced_of_defect rules node d h
  | issueTracker =>
    simp only [decode, map_eq_ok_iff, Option.some.injEq, exists_eq_right] at h
    exact IssueTracker.traced_of_trace rules node d.trace (IssueTracker.defect_eq_ok d h).2
  | sarif =>
    simp only [decode, map_eq_ok_iff, ofField_eq_ok_iff, Option.some.injEq, exists_eq_right] at h
    exact Sarif.traced_of_defect rules table node d h
  | shellLinter =>
    obtain ⟨key, own, cleaned⟩ := ShellLinter.defect_eq_some d h
    rw [Cleanup.trace_run rules _ _ key [] rfl cleaned]
    exact .comment own
  | compiler =>
    obtain ⟨whole, read, cleaned⟩ := Compiler.defect_eq_some d h
    obtain ⟨key, notes, trace, own, rest⟩ := Compiler.raw_eq_some node whole read
    obtain ⟨each, mute⟩ := Compiler.childEvents_eq_ok _ notes rest
    rw [Cleanup.trace_run rules _ _ key notes trace cleaned]
    exact .diagnostic own each mute

theorem IssueTracker.fails_of_trace
    (h : ∀ events, trace node (node.field "checkerProperties") ≠ .ok events) :
    Fails (defect node) := by
  refine fails_bind fun _ _ => fails_bind fun checker _ => ?_
  dsimp only
  split
  · exact ⟨_, rfl⟩
  · exact (fails_ofField h).bind _

theorem Kind.fails_of_blocked (k : Kind) (h : k.Blocked node) :
    Fails (k.decode rules table node) := by
  cases h with
  | native array mem unread =>
    refine (fails_ofField fun d hd => ?_).map some
    cases Native.traced_of_defect rules node d hd with
    | native array' _ each =>
      obtain rfl := Value.array.inj (array.symm.trans array')
      obtain ⟨e, said⟩ := exists_of_forall₂ each mem
      exact unread e said
  | issue mem unread =>
    refine (IssueTracker.fails_of_trace fun events read => ?_).map some
    cases IssueTracker.traced_of_trace rules node events read with
    | issue _ each =>
      obtain ⟨e, said⟩ := exists_of_forall₂ each mem
      exact unread e said
    | main none _ =>
      rw [none] at mem
      cases mem
  | main none unread =>
    refine (IssueTracker.fails_of_trace fun events read => ?_).map some
    cases IssueTracker.traced_of_trace rules node events read with
    | issue some _ => exact some none
    | main _ own => exact unread _ own
  | result unread =>
    refine (fails_ofField fun d hd => ?_).map some
    generalize trace : d.trace = events
    cases trace ▸ Sarif.traced_of_defect rules table node d hd with
    | result own _ => exact unread _ own
  | step mem unread =>
    refine (fails_ofField fun d hd => ?_).map some
    generalize trace : d.trace = events
    cases trace ▸ Sarif.traced_of_defect rules table node d hd with
    | result _ each =>
      obtain ⟨e, said⟩ := exists_of_forall₂ each mem
      exact unread e said
  | diagnostic loud unread =>
    refine (fails_ofField fun raw read => ?_).bind _
    cases raw with
    | none => exact loud (Compiler.mute_of_raw node read)
    | some d =>
      obtain ⟨key, notes, -, own, -⟩ := Compiler.raw_eq_some node d read
      exact unread key own
  | @child _ item loud mem speaks unread =>
    refine (fails_ofField fun raw read => ?_).bind _
    cases raw with
    | none => exact loud (Compiler.mute_of_raw node read)
    | some d =>
      obtain ⟨key, notes, -, -, rest⟩ := Compiler.raw_eq_some node d read
      obtain ⟨each, mute⟩ := Compiler.childEvents_eq_ok _ notes rest
      -- A child without a kind would be mute, and one with a kind gives an event.
      cases spoken : Compiler.labelled item with
      | false => exact speaks (mute item mem spoken)
      | true =>
        obtain ⟨e, said⟩ := exists_of_forall₂ each (List.mem_filter.mpr ⟨mem, spoken⟩)
        exact unread e said
  | comment loud unread =>
    refine (fails_ofField fun event read => ?_).bind _
    cases event with
    | none => exact loud ((ShellLinter.event?_eq_none_iff node).mp read)
    | some key => exact unread key ((ShellLinter.event?_eq_some_iff node key).mp read)

/-! ## Nodes determine their events -/

theorem Kind.eq_of_said (k : Kind) {e e' : Event} (h : k.Says node e) (h' : k.Says node e') :
    e = e' := by
  cases k with
  | native =>
    exact eq_of_eq_ok ((Native.event_eq_ok_iff node e).mpr h)
      ((Native.event_eq_ok_iff node e').mpr h')
  | issueTracker =>
    exact eq_of_eq_ok ((IssueTracker.event_eq_ok_iff node e).mpr h)
      ((IssueTracker.event_eq_ok_iff node e').mpr h')
  | sarif =>
    exact eq_of_eq_ok ((Sarif.note_eq_ok_iff node e).mpr h) ((Sarif.note_eq_ok_iff node e').mpr h')
  | shellLinter =>
    exact Option.some.inj (eq_of_eq_ok ((ShellLinter.event?_eq_some_iff node e).mpr h)
      ((ShellLinter.event?_eq_some_iff node e').mpr h'))
  | compiler =>
    exact Option.some.inj (eq_of_eq_ok ((Compiler.event?_eq_some_iff node e).mpr h)
      ((Compiler.event?_eq_some_iff node e').mpr h'))

theorem Kind.eq_of_stands (k : Kind) {e e' : Event} (h : k.Stands node e)
    (h' : k.Stands node e') : e = e' := by
  cases k with
  | native => exact h.elim
  | issueTracker =>
    exact eq_of_eq_ok ((IssueTracker.mainEvent_eq_ok_iff node e).mpr h)
      ((IssueTracker.mainEvent_eq_ok_iff node e').mpr h')
  | sarif =>
    obtain ⟨ruleId, read, said⟩ := h
    obtain ⟨ruleId', read', said'⟩ := h'
    obtain rfl := eq_of_eq_ok read read'
    exact eq_of_eq_ok ((Sarif.keyEvent_eq_ok_iff ruleId node e).mpr said)
      ((Sarif.keyEvent_eq_ok_iff ruleId node e').mpr said')
  | shellLinter => exact Kind.eq_of_said .shellLinter h h'
  | compiler => exact Kind.eq_of_said .compiler h h'

/-! ## Reading -/

theorem Status.ofDecoded_eq_decoded (x : Decoded (Option Defect)) (d : Defect)
    (h : Status.ofDecoded x = .ok (.decoded d)) : x = .ok (some d) := by
  match x with
  | .ok (some e) =>
    simp only [ofDecoded, ofDefect, Except.ok.injEq] at h
    split at h
    · cases h
    · rw [Status.decoded.inj h]
  | .ok none => simp [ofDecoded] at h
  | .error (.record f) => simp [ofDecoded] at h
  | .error (.oversize o) => simp [ofDecoded] at h

/-- **Traces are faithful.** A record that is read as decoded has the trace of its event nodes, but
for what clean-up takes from the first message. If one of the nodes cannot be read, the record fails
as a whole. What an event node gives hangs on this node alone, and what a record gives itself on the
record alone. -/
theorem read_traced (k : Kind) (rules : List Cleanup.Rule) (c : Cursor) :
    (∀ i d, (c.read k rules).outcome = .ok (some { index := i, status := .decoded d }) →
      ∃ node, c.next.record = .ok (some (i, node)) ∧ k.Traced rules node d.trace) ∧
    (∀ i node, c.next.record = .ok (some (i, node)) → k.Blocked node →
      ∃ fault, (c.read k rules).outcome = .ok (some { index := i, status := .failed fault })) ∧
    (∀ node e e', k.Says node e → k.Says node e' → e = e') ∧
    (∀ node e e', k.Stands node e → k.Stands node e' → e = e') := by
  refine ⟨fun i d h => ?_, fun i node taken blocked => ?_, fun _ _ _ => k.eq_of_said,
    fun _ _ _ => k.eq_of_stands⟩
  · obtain ⟨node, taken, decoded⟩ := (c.read_eq_some_iff k rules _).mp h
    exact ⟨node, taken, k.traced_of_decode d (Status.ofDecoded_eq_decoded _ d decoded)⟩
  · have fails : Fails (k.decode rules c.next.cursor.table node) := k.fails_of_blocked blocked
    obtain ⟨fault, failed⟩ := fails
    refine ⟨fault, (c.read_eq_some_iff k rules _).mpr ⟨node, taken, ?_⟩⟩
    rw [failed]
    rfl

/-- A child without a kind leaves no event; a child whose line is no number takes its diagnostic
with it. -/
theorem read_traced_children :
    let note : Value := .object [("kind", .text "note"), ("message", .text "here")]
    let caret : Value := .object [("caret", .object [("line", .bool true)])]
    let broken : Value := .object [("kind", .text "note"), ("locations", .array [caret])]
    let diagnostic (children : List Value) : Value := .object [("kind", .text "warning"),
      ("message", .text "leak [CWE-401]"), ("children", .array children)]
    let c : Cursor := .ofRecords [diagnostic [.object [], note], diagnostic [broken]]
    let first := c.read .compiler Cleanup.standard
    let second := first.cursor.read .compiler Cleanup.standard
    let d : Defect :=
      { checker := "COMPILER_WARNING", cwe := 401
        trace :=
          [{ label := "warning", message := "leak" }, { label := "note", message := "here" }] }
    first.outcome = .ok (some { index := 0, status := .decoded d }) ∧
      Kind.compiler.Traced Cleanup.standard (diagnostic [.object [], note]) d.trace ∧
      Kind.compiler.Blocked (diagnostic [broken]) ∧
      ∃ fault, second.outcome = .ok (some { index := 1, status := .failed fault }) := by
  intro note caret broken diagnostic c first second d
  have given : first.outcome = .ok (some { index := 0, status := .decoded d }) := by decide +kernel
  obtain ⟨traced, -⟩ := read_traced .compiler Cleanup.standard c
  obtain ⟨node, taken, trace⟩ := traced 0 d given
  obtain rfl : diagnostic [.object [], note] = node := by
    have there : c.next.record = .ok (some (0, diagnostic [.object [], note])) := rfl
    rw [there] at taken
    cases taken
    rfl
  have loud (node : Value) (label : String) (kind : Field.text node "kind" "" = .ok label)
      (some : label ≠ "") : ¬Compiler.form.Mute node := fun mute =>
    some (eq_of_eq_ok kind mute.2)
  have unread (e : Event) : ¬Kind.compiler.Says broken e := fun said => by
    cases (Compiler.event?_eq_some_iff broken e).mpr said
  have blocked : Kind.compiler.Blocked (diagnostic [broken]) :=
    .child (loud _ "warning" rfl (by decide)) List.mem_cons_self (loud _ "note" rfl (by decide))
      unread
  obtain ⟨-, blocks, -⟩ := read_traced .compiler Cleanup.standard first.cursor
  exact ⟨given, trace, blocked, blocks 1 _ rfl blocked⟩

end Report

end Findings
