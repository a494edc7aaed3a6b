import Findings.Proofs.Report.Frame
/-!
What a silent document keeps to itself: complaints about its parts, and nothing else. Set against
the same document that is not silent, everything but these lines is the same.

* `isPart_complaint`, `isPart_numbered`: which lines are complaints about a part;
* `withoutParts_broken`: a fatal complaint is none;
* `ofDocument_silenced`, `next_silenced`: opening a document, and one call;
* `after_silenced`, `said_silenced`: any number of calls.
-/

namespace Findings

/-! ## Lines -/

/-- How complaints about one part of a document begin. -/
def partComplaints : List String := ["failed to read defect #", "failed to read scan properties: "]

/-- Whether a line complains of a record of the document, or of what it says about the scan. -/
def Notice.isPart (document : String) (n : Notice) : Bool :=
  n.severity = .error && partComplaints.any fun start =>
    (document ++ ": error: " ++ start).toList.isPrefixOf n.text.toList

/-- The log without these lines. -/
def withoutParts (document : String) (log : List Notice) : List Notice :=
  log.filter fun n => !n.isPart document

section Lines

variable (document : String) (log more : List Notice)

@[simp] theorem withoutParts_nil : withoutParts document [] = [] := rfl

@[simp] theorem withoutParts_append :
    withoutParts document (log ++ more) = withoutParts document log ++ withoutParts document more :=
  List.filter_append ..

theorem withoutParts_eq_self {log : List Notice} (h : ∀ n ∈ log, n.isPart document = false) :
    withoutParts document log = log := by
  rw [withoutParts, List.filter_eq_self]
  intro n mem
  rw [h n mem]
  rfl

/-- Only errors are left out. -/
theorem withoutParts_of_errors {log : List Notice} (h : errors log = []) :
    withoutParts document log = log := by
  apply withoutParts_eq_self
  intro n mem
  have harmless : ¬(decide (n.severity = .error) = true) := List.filter_eq_nil_iff.mp h n mem
  rw [Notice.isPart, Bool.eq_false_iff.mpr harmless, Bool.false_and]

theorem isPart_complaint (message : String) :
    Notice.isPart document ⟨.error, document ++ ": error: " ++ message⟩ =
      partComplaints.any fun start => start.toList.isPrefixOf message.toList := by
  have cancel (start : String) :
      (document ++ ": error: " ++ start).toList.isPrefixOf
        (document ++ ": error: " ++ message).toList = start.toList.isPrefixOf message.toList := by
    rw [Bool.eq_iff_iff, List.isPrefixOf_iff_prefix, List.isPrefixOf_iff_prefix]
    simp only [String.toList_append, List.prefix_append_right_inj]
  simp only [Notice.isPart, cancel, decide_true, Bool.true_and]

theorem isPart_of_start {start : String} (known : start ∈ partComplaints) (rest : String) :
    Notice.isPart document ⟨.error, document ++ ": error: " ++ (start ++ rest)⟩ = true := by
  rw [isPart_complaint, List.any_eq_true]
  refine ⟨start, known, ?_⟩
  rw [List.isPrefixOf_iff_prefix, String.toList_append]
  exact List.prefix_append _ _

/-- A line number is not blank, so a complaint that has one is none about a part. -/
theorem isPart_numbered (line : Nat) (message : String) :
    Notice.isPart document
      ⟨.error, document ++ ":" ++ toString (line : Int) ++ ": error: " ++ message⟩ = false := by
  have differs (start : String) : ¬(document ++ ": error: " ++ start).toList <+:
      (document ++ ":" ++ toString (line : Int) ++ ": error: " ++ message).toList := by
    obtain ⟨c, digits, number⟩ : ∃ c digits, Nat.toDigits 10 line = c :: digits :=
      List.exists_cons_of_ne_nil Nat.toDigits_ne_nil
    have digit : c.isDigit = true :=
      Decimal.isDigit_of_mem_toDigits (number ▸ List.mem_cons_self)
    simp only [String.toList_append, List.append_assoc, List.prefix_append_right_inj,
      Decimal.toList_toString, number]
    intro same
    obtain ⟨rfl, -⟩ : ' ' = c ∧ _ := by simpa using same
    exact absurd digit (by decide)
  rw [Notice.isPart, Bool.and_eq_false_iff, List.any_eq_false]
  refine .inr fun start _ => ?_
  rw [List.isPrefixOf_iff_prefix]
  exact differs start

example :
    withoutParts "a.json"
      [⟨.error, "a.json: error: failed to read defect #3: missing checker"⟩,
        ⟨.error, "a.json:1: error: Expecting value"⟩,
        ⟨.warning, "a.json: warning: defect lookup failed, id = 7"⟩] =
      [⟨.error, "a.json:1: error: Expecting value"⟩,
        ⟨.warning, "a.json: warning: defect lookup failed, id = 7"⟩] := by
  decide +kernel

end Lines

/-! ## Documents -/

/-- The same document, silent. -/
def Document.silenced (d : Document) : Document := { d with silent := true }

/-- The complaint about a part is what a silent document leaves out. -/
theorem Document.failPart_silenced (d : Document) {start : String}
    (known : start ∈ partComplaints) (rest : String) :
    d.silenced.failPart (start ++ rest) =
      ((d.failPart (start ++ rest)).1.silenced,
        withoutParts d.name (d.failPart (start ++ rest)).2) := by
  have left_out : withoutParts d.name (d.failPart (start ++ rest)).2 = [] := by
    rw [withoutParts, List.filter_eq_nil_iff]
    intro n mem
    unfold failPart at mem
    split at mem
    · cases mem
    · rw [List.mem_singleton.mp mem, isPart_of_start d.name known rest]
      decide
  rw [left_out]
  rfl

namespace Report

open Json (Value)

variable {d : Document} {rules : List Cleanup.Rule}

/-! ## Fatal faults -/

theorem Fatal.line_eq_natCast (fatal : Fatal) : ∃ line : Nat, fatal.line = line := by
  cases fatal with
  | notJson cause line => cases cause <;> exact ⟨_, rfl⟩
  | noFormat fault => exact ⟨0, rfl⟩

theorem head?_of_start {start : String} (known : start ∈ partComplaints) :
    start.toList.head? = some 'f' := by
  rcases List.mem_pair.mp known with rfl | rfl <;> decide +kernel

/-- What is said of a document as a whole begins with another letter. -/
theorem Fatal.head?_message (fatal : Fatal) : fatal.message.toList.head? ≠ some 'f' := by
  cases fatal with
  | notJson cause line =>
    change cause.message.toList.head? ≠ _
    cases cause with
    | oversize o =>
      change o.message.toList.head? ≠ _
      unfold Decimal.Oversize.message
      -- Left in place, the limit would be counted up to.
      generalize Decimal.maxDigits = limit
      simp
    | _ => decide +kernel
  | noFormat fault =>
    cases fault with
    | unrecognized => decide +kernel
    | notArray key => simp [message, FormatFault.message]

theorem Fatal.not_part (fatal : Fatal) :
    (partComplaints.any fun start => start.toList.isPrefixOf fatal.message.toList) = false := by
  rw [List.any_eq_false]
  intro start known same
  obtain ⟨rest, whole⟩ := List.isPrefixOf_iff_prefix.mp same
  apply fatal.head?_message
  rw [← whole, List.head?_append, head?_of_start known]
  rfl

namespace Stream

/-- No fatal complaint is left out. -/
theorem withoutParts_broken (fatal : Fatal) :
    withoutParts d.name (broken d rules fatal).2 = (broken d rules fatal).2 := by
  apply withoutParts_eq_self
  change ∀ n ∈ d.complaint fatal.message fatal.line, _
  obtain ⟨line, placed⟩ := fatal.line_eq_natCast
  intro n mem
  rw [Document.complaint, placed] at mem
  split at mem
  · cases mem
  · split at mem
    · rw [List.mem_singleton.mp mem, isPart_complaint, fatal.not_part]
    · rw [List.mem_singleton.mp mem, isPart_numbered]

/-! ## Opening a document -/

/-- The same stream, silent. Its format, its fatal fault and what it knows of the scan are as they
were, and so are its cursor, its count and the mark on its document. -/
def silenced (s : Stream) : Stream := { s with document := s.document.silenced }

/-- What a stream and its log come to where the document of this name is silent. -/
def silencing (document : String) (opened : Stream × List Notice) : Stream × List Notice :=
  (opened.1.silenced, withoutParts document opened.2)

theorem broken_silenced (fatal : Fatal) :
    broken d.silenced rules fatal = silencing d.name (broken d rules fatal) := by
  rw [silencing, withoutParts_broken]
  rfl

theorem live_silenced (kind : Kind) (c : Cursor)
    (scan : Except RecordFault (List (String × String))) :
    live d.silenced rules kind c scan = silencing d.name (live d rules kind c scan) := by
  unfold live
  cases scan with
  | ok scanProps => rfl
  | error fault =>
    dsimp only
    rw [d.failPart_silenced (by decide) fault.message]
    rfl

theorem ofRoot_silenced (depth : Nat) (root : Value) :
    ofRoot depth d.silenced rules root =
      (ofRoot depth d rules root).map (silencing d.name) := by
  unfold ofRoot
  split
  · rfl
  · split
    · exact congrArg Except.ok (broken_silenced _)
    · next kind _ =>
      split
      · exact congrArg Except.ok (broken_silenced _)
      · cases kind.scanProps depth root with
        | error fault => rfl
        | ok scan => exact congrArg Except.ok (live_silenced kind _ scan)

/-- A silent document is opened like any other, but for what is said of its parts. -/
theorem ofDocument_silenced (depths : Json.Depths) (d : Document) (rules : List Cleanup.Rule) :
    ofDocument depths d.silenced rules =
      (ofDocument depths d rules).map (silencing d.name) := by
  have same : Json.read depths.read d.silenced.text = Json.read depths.read d.text := rfl
  unfold ofDocument
  rw [same]
  cases Json.read depths.read d.text with
  | ok root =>
    dsimp only
    rw [ofRoot_silenced]
    cases ofRoot depths.written d rules root <;> rfl
  | error e =>
    dsimp only
    split
    · rfl
    · exact congrArg Except.ok (broken_silenced _)

section Opened

variable {depths : Json.Depths} {s : Stream} {log : List Notice}

/-- Of a broken document everything is said aloud. -/
theorem withoutParts_of_fatal (opened : ofDocument depths d rules = .ok (s, log))
    (fatal : s.fatal ≠ none) : withoutParts d.name log = log := by
  rcases ofDocument_cases opened with rfl | ⟨fatal, -, rfl⟩ | ⟨k, c, scan, rfl⟩
  · exact absurd rfl fatal
  · exact withoutParts_broken fatal
  · exact absurd (live_fatal d rules k c scan) fatal

end Opened

/-! ## Calls -/

/-- What a call comes to where the document of this name is silent. -/
def Step.silenced (document : String) (step : Step) : Step :=
  { step with
    stream := step.stream.silenced
    notices := withoutParts document step.notices }

theorem complain_silenced (s : Stream) (o : Outcome) (fault : RecordFault) :
    s.silenced.complain o fault = silencing s.document.name (s.complain o fault) := by
  have text : "failed to read defect #" ++ toString o.index ++ ": " ++ fault.message =
      "failed to read defect #" ++ (toString o.index ++ (": " ++ fault.message)) := by
    simp only [String.append_assoc]
  unfold complain
  rw [text]
  have known : "failed to read defect #" ∈ partComplaints := List.mem_cons_self
  have part := s.document.failPart_silenced known (toString o.index ++ (": " ++ fault.message))
  have same : s.silenced.document = s.document.silenced := rfl
  rw [same, part]
  rfl

@[simp] theorem rules_silenced (s : Stream) : s.silenced.rules = s.rules := rfl

@[simp] theorem moved_silenced (s : Stream) (k : Kind) (c : Cursor) :
    s.silenced.moved k c = (s.moved k c).silenced := rfl

/-- A silent stream reads on like any other; it says less. -/
theorem next_silenced (s : Stream) : s.silenced.next = s.next.silenced s.document.name := by
  cases hc : s.cursor with
  | none =>
    have still (t : Stream) (h : t.cursor = none) :
        t.next = { defect := .ok none, stream := t } := by rw [next, h]
    rw [still s hc, still s.silenced hc]
    rfl
  | some place =>
    obtain ⟨k, c⟩ := place
    induction size : c.remaining using Nat.strongRecOn generalizing s c with
    | ind n ih =>
      have quiet : withoutParts s.document.name (c.read k s.rules).notices =
          (c.read k s.rules).notices := withoutParts_of_errors _ (Cursor.errors_read k s.rules c)
      have hc' : s.silenced.cursor = some (k, c) := hc
      rw [next_eq hc, next_eq hc']
      simp only [rules_silenced, moved_silenced]
      match read : (c.read k s.rules).outcome with
      | .error o =>
        dsimp only [Step.silenced]
        rw [quiet]
      | .ok none =>
        dsimp only [Step.silenced]
        rw [quiet]
      | .ok (some o) =>
        have less : (c.read k s.rules).cursor.remaining < n := size ▸ c.remaining_read k _ o read
        dsimp only
        cases hs : o.status with
        | decoded d =>
          dsimp only [Step.silenced]
          rw [quiet]
          rfl
        | rejected =>
          have rest := ih _ less (s.moved k (c.read k s.rules).cursor) _ rfl rfl
          dsimp only
          rw [rest]
          simp only [Step.silenced, withoutParts_append, quiet]
          rfl
        | failed fault =>
          let t := (s.moved k (c.read k s.rules).cursor).complain o fault
          have rest := ih _ less t.1 _ rfl rfl
          dsimp only
          rw [complain_silenced]
          dsimp only [silencing]
          rw [rest]
          simp only [Step.silenced, withoutParts_append, quiet]
          rfl

@[simp] theorem name_next (s : Stream) : s.next.stream.document.name = s.document.name :=
  s.kept_next.name

@[simp] theorem name_after (s : Stream) (n : Nat) :
    (s.after n).document.name = s.document.name :=
  (s.kept_after n).name

theorem after_silenced (s : Stream) (n : Nat) : s.silenced.after n = (s.after n).silenced := by
  induction n generalizing s with
  | zero => rfl
  | succ n ih =>
    rw [after, after, next_silenced]
    exact ih s.next.stream

theorem said_silenced (s : Stream) (n : Nat) :
    s.silenced.said n = withoutParts s.document.name (s.said n) := by
  induction n generalizing s with
  | zero => rfl
  | succ n ih =>
    have rest := ih s.next.stream
    rw [name_next] at rest
    rw [said, said, next_silenced, withoutParts_append, ← rest]
    rfl

end Stream

end Report

end Findings
