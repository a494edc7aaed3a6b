import Findings.Proofs.Json.Grammar
import Findings.Proofs.Report.Frame
/-!
How a document opens: it is refused as a whole, or it is empty, or it is a report that goes on
whatever its records are like.

* `Kind.detect_eq_ok_iff`, `Cursor.exists_start_iff`: which format a document has, and whether its
  records are to be had;
* `refused_broken`, `blank_of_empty`, `going_live`: the stream in each of the cases;
* `document_opens`: the main statement, that each document is in one of them;
* `no_json_opens`: a text that is not JSON by the standard, and opens.
-/

namespace Findings.Report

open Json (Value)

/-! ## Formats -/

/-- The format that a document shows. The field of a format stands at the top, and no field of a
format before it does; without such a field, the first child has a `kind`. -/
inductive Kind.Shown (root : Value) : Kind → Prop where
  | native (there : root.hasKey "defects") : Shown root .native
  | issueTracker (before : root.hasKey "defects" = false) (there : root.hasKey "issues") :
      Shown root .issueTracker
  | sarif (before : ∀ key ∈ ["defects", "issues"], root.hasKey key = false)
      (there : root.hasKey "runs") : Shown root .sarif
  | shellLinter (before : ∀ key ∈ ["defects", "issues", "runs"], root.hasKey key = false)
      (there : root.hasKey "comments") : Shown root .shellLinter
  | compiler (before : ∀ key ∈ ["defects", "issues", "runs", "comments"], root.hasKey key = false)
      (there : root.firstChild.hasKey "kind") : Shown root .compiler

theorem Kind.detect_eq (root : Value) :
    detect root =
      if root.hasKey "defects" then .ok native
      else if root.hasKey "issues" then .ok issueTracker
      else if root.hasKey "runs" then .ok sarif
      else if root.hasKey "comments" then .ok shellLinter
      else if root.firstChild.hasKey "kind" then .ok compiler
      else .error .unrecognized := by
  unfold detect
  simp only [marked, List.find?, marks, recordsKey?]
  cases root.hasKey "defects"
  · cases root.hasKey "issues"
    · cases root.hasKey "runs"
      · cases root.hasKey "comments" <;> rfl
      · rfl
    · rfl
  · rfl

theorem Kind.detect_eq_ok_iff (root : Value) (k : Kind) :
    detect root = .ok k ↔ k.Shown root := by
  rw [detect_eq]
  constructor
  · intro h
    split at h
    · next there => exact Except.ok.inj h ▸ .native there
    · next native =>
      have native := Bool.eq_false_iff.mpr native
      split at h
      · next there => exact Except.ok.inj h ▸ .issueTracker native there
      · next issues =>
        have issues := Bool.eq_false_iff.mpr issues
        split at h
        · next there => exact Except.ok.inj h ▸ .sarif (by simp [native, issues]) there
        · next runs =>
          have runs := Bool.eq_false_iff.mpr runs
          split at h
          · next there =>
            exact Except.ok.inj h ▸ .shellLinter (by simp [native, issues, runs]) there
          · next comments =>
            have comments := Bool.eq_false_iff.mpr comments
            split at h
            · next there =>
              exact Except.ok.inj h ▸ .compiler (by simp [native, issues, runs, comments]) there
            · cases h
  · intro shown
    cases shown <;> simp_all

/-- The records of a format are to be had if its field has an array or an object. -/
theorem Cursor.exists_start_iff (k : Kind) (root : Value) :
    (∃ c, start k root = .ok c) ↔
      ∀ key, k.recordsKey? = some key → (root.field key).isContainer = true := by
  unfold start Kind.records
  cases k.recordsKey? with
  | none => simp [Except.map]
  | some key =>
    by_cases held : (root.field key).isContainer = true
    · simp [recordsUnder, held, Except.map]
    · simp [recordsUnder, held, Except.map]

/-! ## Documents -/

/-- How a document opens. -/
inductive Opening where
  | refused
  | empty
  | live (k : Kind)

/-- What the text is like. -/
inductive Opens (depth : Nat) (text : String) : Opening → Prop where
  | notJson {e : Json.ReadError} (read : Json.read depth text = .error e) :
      Opens depth text .refused
  | unmarked {root : Value} (read : Json.read depth text = .ok root) (full : root.isEmpty = false)
      (none : ∀ k : Kind, ¬k.Shown root) : Opens depth text .refused
  | recordless {root : Value} {k : Kind} {key : String} (read : Json.read depth text = .ok root)
      (shown : k.Shown root) (field : k.recordsKey? = some key)
      (bare : (root.field key).isContainer = false) : Opens depth text .refused
  | emptyArray (read : Json.read depth text = .ok (.array [])) : Opens depth text .empty
  | emptyObject (read : Json.read depth text = .ok (.object [])) : Opens depth text .empty
  | live {root : Value} {k : Kind} (read : Json.read depth text = .ok root) (shown : k.Shown root)
      (records : ∀ key, k.recordsKey? = some key → (root.field key).isContainer = true) :
      Opens depth text (.live k)

theorem exists_opens (depth : Nat) (text : String) : ∃ o, Opens depth text o := by
  cases read : Json.read depth text with
  | error e => exact ⟨_, .notJson read⟩
  | ok root =>
    by_cases empty : root.isEmpty = true
    · rcases root.isEmpty_iff.mp empty with rfl | rfl
      · exact ⟨_, .emptyArray read⟩
      · exact ⟨_, .emptyObject read⟩
    by_cases marked : ∃ k : Kind, k.Shown root
    · obtain ⟨k, shown⟩ := marked
      by_cases records : ∀ key, k.recordsKey? = some key → (root.field key).isContainer = true
      · exact ⟨_, .live read shown records⟩
      · push Not at records
        obtain ⟨key, field, bare⟩ := records
        exact ⟨_, .recordless read shown field (Bool.eq_false_iff.mpr bare)⟩
    · exact ⟨_, .unmarked read (Bool.eq_false_iff.mpr empty) (not_exists.mp marked)⟩

/-- The document is of no use: this is said in one line, and no call gives anything. -/
structure Refused (s : Stream) (log : List Notice) : Prop where
  fatal : s.fatal ≠ none
  kind : s.kind = none
  scanProps : s.scanProps = []
  marked : s.document.hasError = true
  complaint : ∃ text, log = [⟨.error, text⟩]
  calls : ∀ n, s.after n = s ∧ (s.after n).next.defect = .ok none ∧ (s.after n).count = 0

/-- There is nothing in the document, and nothing wrong with it. -/
structure Blank (s : Stream) (log : List Notice) : Prop where
  fatal : s.fatal = none
  kind : s.kind = none
  unmarked : s.document.hasError = false
  quiet : errors log = []
  calls : ∀ n, s.after n = s ∧ (s.after n).next.defect = .ok none ∧ (s.after n).count = 0

/-- The document is a report of this format, and remains one. -/
structure Going (k : Kind) (s : Stream) : Prop where
  kind : ∀ n, (s.after n).kind = some k
  fatal : ∀ n, (s.after n).fatal = none

/-- What the stream of a document is like that opens so, and what was said. -/
def Opening.Leaves : Opening → Stream → List Notice → Prop
  | refused => Refused
  | empty => Blank
  | live k => fun s _ => Going k s

theorem Opening.Leaves.unique {s : Stream} {log : List Notice} {o o' : Opening}
    (h : o.Leaves s log) (h' : o'.Leaves s log) : o = o' := by
  match o, o' with
  | .refused, .refused => rfl
  | .refused, .empty => exact absurd h'.fatal h.fatal
  | .refused, .live k => exact absurd (h'.fatal 0) h.fatal
  | .empty, .refused => exact absurd h.fatal h'.fatal
  | .empty, .empty => rfl
  | .empty, .live k => cases h.kind.symm.trans (h'.kind 0)
  | .live k, .refused => exact absurd (h.fatal 0) h'.fatal
  | .live k, .empty => cases h'.kind.symm.trans (h.kind 0)
  | .live k, .live k' => rw [Option.some.inj ((h.kind 0).symm.trans (h'.kind 0))]

theorem calls_of_no_cursor {s : Stream} (none : s.cursor = none) (n : Nat) :
    s.after n = s ∧ (s.after n).next.defect = .ok .none ∧ (s.after n).count = s.count := by
  have spent := Stream.spent_of_no_cursor none
  rw [spent.after n]
  exact ⟨rfl, by rw [spent], rfl⟩

theorem Fatal.isEmpty_message (fatal : Fatal) : fatal.message.isEmpty = false := by
  cases fatal with
  | notJson cause line =>
    cases cause with
    | oversize o =>
      change o.message.isEmpty = false
      unfold Decimal.Oversize.message
      -- Left in place, the limit would be counted up to.
      generalize Decimal.maxDigits = limit
      simp
    | _ => rfl
  | noFormat fault =>
    cases fault with
    | unrecognized => rfl
    | notArray key => simp [message, FormatFault.message]

theorem refused_broken (d : Document) (rules : List Cleanup.Rule) (fatal : Fatal) :
    Refused (Stream.broken d rules fatal).1 (Stream.broken d rules fatal).2 where
  fatal := Option.some_ne_none _
  kind := rfl
  scanProps := rfl
  marked := rfl
  complaint := by
    change ∃ text, d.complaint fatal.message fatal.line = _
    rw [Document.complaint, fatal.isEmpty_message, if_neg Bool.false_ne_true]
    split <;> exact ⟨_, rfl⟩
  calls := calls_of_no_cursor rfl

theorem blank_of_empty (d : Document) (rules : List Cleanup.Rule) (fresh : d.hasError = false) :
    Blank { document := d, rules } [⟨.debug, d.name ++ ": empty document"⟩] where
  fatal := rfl
  kind := rfl
  unmarked := fresh
  quiet := rfl
  calls := calls_of_no_cursor rfl

theorem going_live (d : Document) (rules : List Cleanup.Rule) (k : Kind) (c : Cursor)
    (scan : Except RecordFault (List (String × String))) :
    Going k (Stream.live d rules k c scan).1 where
  kind n := by
    rw [((Stream.live d rules k c scan).1.kept_after n).kind, Stream.live_kind]
  fatal n := by
    rw [((Stream.live d rules k c scan).1.kept_after n).fatal, Stream.live_fatal]

section Documents

variable {depths : Json.Depths} {d : Document} {rules : List Cleanup.Rule} {root : Value} {k : Kind}
  {s : Stream} {log : List Notice} {o : Opening}

theorem refused_of_unmarked {depth : Nat} (opened : Stream.ofRoot depth d rules root = .ok (s, log))
    (full : root.isEmpty = false) (none : ∀ k : Kind, ¬k.Shown root) : Refused s log := by
  rcases Stream.ofRoot_cases depth d rules root with
    ⟨empty, -⟩ | ⟨-, fault, same, -⟩ | ⟨-, k, c, -, found, -⟩
  · cases full.symm.trans empty
  · obtain ⟨rfl, rfl⟩ := Prod.mk.inj (eq_of_eq_ok same opened)
    exact refused_broken d rules _
  · exact absurd ((Kind.detect_eq_ok_iff root k).mp found) (none k)

theorem refused_of_recordless {depth : Nat} {key : String}
    (opened : Stream.ofRoot depth d rules root = .ok (s, log)) (shown : k.Shown root)
    (field : k.recordsKey? = some key) (bare : (root.field key).isContainer = false) :
    Refused s log := by
  have found := (Kind.detect_eq_ok_iff root k).mpr shown
  rcases Stream.ofRoot_cases depth d rules root with
    ⟨empty, -⟩ | ⟨-, fault, same, -⟩ | ⟨-, k', c, -, found', start⟩
  · cases (Kind.detect_of_isEmpty empty).symm.trans found
  · obtain ⟨rfl, rfl⟩ := Prod.mk.inj (eq_of_eq_ok same opened)
    exact refused_broken d rules _
  · obtain rfl : k = k' := eq_of_eq_ok found found'
    have held := (Cursor.exists_start_iff k root).mp ⟨c, start⟩ key field
    cases bare.symm.trans held

theorem blank_of_opened {depth : Nat} (opened : Stream.ofRoot depth d rules root = .ok (s, log))
    (empty : root.isEmpty = true) (fresh : d.hasError = false) : Blank s log := by
  rw [Stream.ofRoot, if_pos empty] at opened
  obtain ⟨rfl, rfl⟩ := Prod.mk.inj (Except.ok.inj opened)
  exact blank_of_empty d rules fresh

theorem going_of_shown {depth : Nat} (opened : Stream.ofRoot depth d rules root = .ok (s, log))
    (shown : k.Shown root)
    (records : ∀ key, k.recordsKey? = some key → (root.field key).isContainer = true) :
    Going k s := by
  have found := (Kind.detect_eq_ok_iff root k).mpr shown
  obtain ⟨c, start⟩ := (Cursor.exists_start_iff k root).mpr records
  rcases Stream.ofRoot_cases depth d rules root with
    ⟨empty, -⟩ | ⟨-, fault, -, none | ⟨k', found', none⟩⟩ | ⟨-, k', c', same, found', -⟩
  · cases (Kind.detect_of_isEmpty empty).symm.trans found
  · cases none.symm.trans found
  · obtain rfl : k = k' := eq_of_eq_ok found found'
    cases none.symm.trans start
  · obtain rfl : k = k' := eq_of_eq_ok found found'
    rw [opened] at same
    cases written : k.scanProps depth root with
    | error fault =>
      rw [written] at same
      cases same
    | ok scan =>
      rw [written] at same
      obtain ⟨rfl, -⟩ := Prod.mk.inj (Except.ok.inj same)
      exact going_live d rules k c' scan

/-- A document that opens in one of the ways leaves what belongs to this way. -/
theorem Opens.leaves (h : Opens depths.read d.text o) (rules : List Cleanup.Rule)
    (fresh : d.hasError = false) (writable : ScanWritable depths d)
    (short : ∀ e o, Json.read depths.read d.text = .error e → e.cause ≠ .oversize o) :
    ∃ s log, Stream.ofDocument depths d rules = .ok (s, log) ∧ o.Leaves s log := by
  cases h with
  | notJson read =>
    exact ⟨_, _, Stream.ofDocument_of_error read fun o => short _ o read,
      refused_broken d rules _⟩
  | unmarked read full none =>
    obtain ⟨s, log, opened, root⟩ := writable.ofRoot rules read
    exact ⟨s, log, opened, refused_of_unmarked root full none⟩
  | recordless read shown field bare =>
    obtain ⟨s, log, opened, root⟩ := writable.ofRoot rules read
    exact ⟨s, log, opened, refused_of_recordless root shown field bare⟩
  | emptyArray read =>
    obtain ⟨s, log, opened, root⟩ := writable.ofRoot rules read
    exact ⟨s, log, opened, blank_of_opened root rfl fresh⟩
  | emptyObject read =>
    obtain ⟨s, log, opened, root⟩ := writable.ofRoot rules read
    exact ⟨s, log, opened, blank_of_opened root rfl fresh⟩
  | live read shown records =>
    obtain ⟨s, log, opened, root⟩ := writable.ofRoot rules read
    exact ⟨s, log, opened, going_of_shown root shown records⟩

/-- **Refused, empty or live.** If no whole number of its text is too long and what it says about
its scan can be written, a fresh document opens in exactly one of these ways. It is refused if its
text is no JSON, if it shows no format and is not empty, or if the field of the format that it shows
has no records; it is empty if it is an array or object without children; otherwise it is live, as a
report of the format that it shows. The stream it leaves is in the same one of the three states, and
stays there. -/
theorem document_opens (depths : Json.Depths) (d : Document) (rules : List Cleanup.Rule)
    (fresh : d.hasError = false)
    (numbers : ∀ e o, Json.read depths.read d.text = .error e → Decimal.maxDigits < o.digits →
      e.cause ≠ .oversize o)
    (writable : ScanWritable depths d) :
    ∃ s log, Stream.ofDocument depths d rules = .ok (s, log) ∧
      ∃ o, ∀ o', (Opens depths.read d.text o' ↔ o' = o) ∧ (Opening.Leaves o' s log ↔ o' = o) := by
  have short (e : Json.ReadError) (o : Decimal.Oversize)
      (read : Json.read depths.read d.text = .error e) (cause : e.cause = .oversize o) : False :=
    numbers e o read (Json.digits_of_read _ _ e o read cause) cause
  obtain ⟨o, opens⟩ := exists_opens depths.read d.text
  obtain ⟨s, log, opened, leaves⟩ := opens.leaves rules fresh writable short
  -- The states exclude each other, and so do the texts that lead to them.
  have only (o' : Opening) (opens' : Opens depths.read d.text o') : o' = o := by
    obtain ⟨s', log', opened', leaves'⟩ := opens'.leaves rules fresh writable short
    obtain ⟨rfl, rfl⟩ := Prod.mk.inj (eq_of_eq_ok opened opened')
    exact leaves'.unique leaves
  refine ⟨s, log, opened, o, fun o' => ⟨⟨only o', ?_⟩, fun leaves' => leaves'.unique leaves, ?_⟩⟩
  · rintro rfl
    exact opens
  · rintro rfl
    exact leaves

end Documents

/-- The field of another format does not matter behind the one that is looked for first. -/
def overlapping : Document where
  name := "report.json"
  text := "\x7b\"comments\":7,\"kind\":1,\"runs\":\x7b\"kind\":null\x7d\x7d"

/-- In front of it, it does. -/
def hidden : Document where
  name := "report.json"
  text := "\x7b\"comments\":[],\"issues\":7\x7d"
  silent := true

/-- A report of no number, which is no value of the standard. -/
def numberless : Document where
  name := "report.json"
  text := "\x7b\"defects\":[],\"scan\":\x7b\"x\":NaN\x7d\x7d"

/-- Two of them go on; one is refused aloud, although it is silent. -/
theorem document_opens_overlapping :
    let depths : Json.Depths := ⟨100, 100⟩
    let documents := [overlapping, hidden, numberless]
    (∀ d ∈ documents, d.hasError = false) ∧
    (∀ d ∈ documents, ∀ e o, Json.read depths.read d.text = .error e →
      Decimal.maxDigits < o.digits → e.cause ≠ .oversize o) ∧
    (∀ d ∈ documents, ScanWritable depths d) ∧
    (∃ s log, Stream.ofDocument depths overlapping [] = .ok (s, log) ∧ Going .sarif s) ∧
    (∃ s log, Stream.ofDocument depths hidden [] = .ok (s, log) ∧ Refused s log) ∧
    ∃ s log, Stream.ofDocument depths numberless [] = .ok (s, log) ∧ Going .native s := by
  intro depths documents
  have first : Json.read depths.read overlapping.text = .ok (.object
      [("comments", .int 7), ("kind", .int 1), ("runs", .object [("kind", .null)])]) := by rfl
  have second : Json.read depths.read hidden.text = .ok (.object
      [("comments", .array []), ("issues", .int 7)]) := by rfl
  have third : Json.read depths.read numberless.text = .ok (.object
      [("defects", .array []), ("scan", .object [("x", .real .nan)])]) := by rfl
  have fresh : ∀ d ∈ documents, d.hasError = false := by decide
  have numbers : ∀ d ∈ documents, ∀ e o, Json.read depths.read d.text = .error e →
      Decimal.maxDigits < o.digits → e.cause ≠ .oversize o := by
    intro d mem e o read
    simp only [documents, List.mem_cons, List.not_mem_nil, or_false] at mem
    rcases mem with rfl | rfl | rfl
    · cases first.symm.trans read
    · cases second.symm.trans read
    · cases third.symm.trans read
  have writable : ∀ d ∈ documents, ScanWritable depths d := by
    intro d mem
    simp only [documents, List.mem_cons, List.not_mem_nil, or_false] at mem
    rcases mem with rfl | rfl | rfl
    · exact .of_read first (by rintro k ⟨⟩; exact nofun)
    · exact .of_read second (by rintro k ⟨⟩; exact nofun)
    · refine .of_read third ?_
      rintro k ⟨⟩ - fields ⟨⟩ p mem
      obtain rfl := List.mem_singleton.mp mem
      exact Nat.zero_le _
  refine ⟨fresh, numbers, writable, ?_, ?_, ?_⟩
  · have mem : overlapping ∈ documents := List.mem_cons_self
    obtain ⟨s, log, opened, o, each⟩ := document_opens depths overlapping [] (fresh _ mem)
      (numbers _ mem) (writable _ mem)
    have opens : Opens depths.read overlapping.text (.live .sarif) :=
      .live first (.sarif (by decide) rfl) (by rintro _ ⟨⟩; rfl)
    exact ⟨s, log, opened, (each _).2.mpr ((each _).1.mp opens)⟩
  · have mem : hidden ∈ documents := List.mem_cons_of_mem _ List.mem_cons_self
    obtain ⟨s, log, opened, o, each⟩ := document_opens depths hidden [] (fresh _ mem)
      (numbers _ mem) (writable _ mem)
    have opens : Opens depths.read hidden.text .refused :=
      .recordless second (.issueTracker rfl rfl) rfl rfl
    exact ⟨s, log, opened, (each _).2.mpr ((each _).1.mp opens)⟩
  · have mem : numberless ∈ documents :=
      List.mem_cons_of_mem _ (List.mem_cons_of_mem _ List.mem_cons_self)
    obtain ⟨s, log, opened, o, each⟩ := document_opens depths numberless [] (fresh _ mem)
      (numbers _ mem) (writable _ mem)
    have opens : Opens depths.read numberless.text (.live .native) :=
      .live third (.native rfl) (by rintro _ ⟨⟩; rfl)
    exact ⟨s, log, opened, (each _).2.mpr ((each _).1.mp opens)⟩

/-- **Not JSON, and not refused.** The text has no integer at all and is not JSON by the standard,
yet the document opens as a report that goes on. -/
theorem no_json_opens :
    ¬Json.Grammar.IsText numberless.text ∧
      ∃ s log, Stream.ofDocument ⟨100, 100⟩ numberless [] = .ok (s, log) ∧ Going .native s ∧
        ¬Refused s log := by
  have opened : Stream.ofDocument ⟨100, 100⟩ numberless [] =
      .ok (Stream.live numberless [] .native (.ofRecords []) (.ok [("x", "NaN")])) := by rfl
  exact ⟨Json.Grammar.not_isText_of_clear rfl, _, _, opened,
    going_live numberless [] .native (.ofRecords []) (.ok [("x", "NaN")]),
    fun refused => refused.fatal rfl⟩

end Findings.Report
