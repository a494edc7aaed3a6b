import Findings.Proofs.Report.Opening
/-!
What a report says about its scan, kept apart from its records. Two reports that differ in nothing
else are read alike, whatever stands there and whether it can be read.

* `Redescribed`: documents that differ in what they say about their scan only;
* `Cursor.Alike`, `Cursor.read_alike`: places that nothing ahead tells apart, and one record;
* `Stream.Alike`, `Stream.next_alike`: the same of streams, and one call;
* `start_redescribed`, `ofRoot_redescribed`: such documents are at such places when they are opened;
* `scan_apart`: the main statement, for what can be parsed and written;
* `deep_scan_refused`: a scan that is nested too deeply to be parsed.
-/

namespace Findings.Report

open Json (Value)

/-! ## Documents that say something else about their scan -/

/-- The fields that have none of these names. -/
def without (names : List String) (fields : List (String × Value)) : List (String × Value) :=
  fields.filter fun p => p.1 ∉ names

/-- Objects that differ in fields of these names only; either of them may lack such a field. -/
inductive ButFields (names : List String) : Value → Value → Prop where
  | object {fields others : List (String × Value)}
      (same : without names others = without names fields) :
      ButFields names (.object fields) (.object others)

/-- Objects that differ in the value of one field only, and there as `R` says. -/
inductive InField (key : String) (R : Value → Value → Prop) : Value → Value → Prop where
  | object (before : List (String × Value)) {after : List (String × Value)} {v w : Value}
      (first : key ∉ Assoc.keys before) (differ : R v w) :
      InField key R (.object (before ++ (key, v) :: after)) (.object (before ++ (key, w) :: after))

/-- Arrays, or objects, that differ in their first child only, and there as `R` says. -/
inductive InFirst (R : Value → Value → Prop) : Value → Value → Prop where
  | array {v w : Value} {rest : List Value} (differ : R v w) :
      InFirst R (.array (v :: rest)) (.array (w :: rest))
  | object {key : String} {v w : Value} {rest : List (String × Value)} (differ : R v w) :
      InFirst R (.object ((key, v) :: rest)) (.object ((key, w) :: rest))

/-- What the driver of a tool says about itself. -/
def toolNames : List String := ["name", "version", "semanticVersion", "informationUri"]

/-- Runs that differ in what the driver of their tool says about itself. -/
def OtherTool : Value → Value → Prop := InField "tool" (InField "driver" (ButFields toolNames))

/-- Documents of one format that differ in what they say about their scan only. -/
inductive Redescribed : Kind → Value → Value → Prop where
  | same (k : Kind) (root : Value) : Redescribed k root root
  | native {root other : Value} (scan : ButFields ["scan"] root other) :
      Redescribed .native root other
  | sarif {root other : Value} (tool : InField "runs" (InFirst OtherTool) root other) :
      Redescribed .sarif root other

theorem get?_without {names : List String} {key : String} (other : key ∉ names)
    (fields : List (String × Value)) :
    Assoc.get? key (without names fields) = Assoc.get? key fields := by
  induction fields with
  | nil => rfl
  | cons p fields ih =>
    obtain ⟨name, v⟩ := p
    unfold without at ih ⊢
    by_cases named : name ∈ names
    · have differs : name ≠ key := fun same => other (same ▸ named)
      rw [List.filter_cons_of_neg (by simpa using named), ih, Assoc.get?, if_neg differs]
    · rw [List.filter_cons_of_pos (by simpa using named), Assoc.get?, ih, Assoc.get?]

theorem get?_append_cons (key j : String) {before : List (String × Value)}
    (first : key ∉ Assoc.keys before) (v : Value) (after : List (String × Value)) :
    Assoc.get? j (before ++ (key, v) :: after) =
      if key = j then some v else Assoc.get? j (before ++ after) := by
  induction before with
  | nil => rfl
  | cons p before ih =>
    obtain ⟨name, w⟩ := p
    have ⟨differs, later⟩ : key ≠ name ∧ key ∉ Assoc.keys before := by
      simpa [Assoc.keys] using first
    rw [List.cons_append, List.cons_append, Assoc.get?, Assoc.get?, ih later]
    by_cases here : name = j
    · rw [if_pos here, if_pos here, if_neg (here ▸ differs)]
    · rw [if_neg here, if_neg here]

section Fields

variable {names : List String} {key j : String} {R : Value → Value → Prop} {v w : Value}

theorem ButFields.field_eq (h : ButFields names v w) (other : key ∉ names) :
    w.field key = v.field key ∧ w.hasKey key = v.hasKey key := by
  obtain ⟨same⟩ := h
  have found := congrArg (Assoc.get? key) same
  rw [get?_without other, get?_without other] at found
  simp [Value.field, Value.hasKey, found]

theorem InField.field_eq (h : InField key R v w) (other : key ≠ j) : w.field j = v.field j := by
  obtain @⟨before, after, v, w, first, -⟩ := h
  simp only [Value.field_object, get?_append_cons key j first, if_neg other]

theorem InField.hasKey_eq (h : InField key R v w) (j : String) : w.hasKey j = v.hasKey j := by
  obtain @⟨before, after, v, w, first, -⟩ := h
  simp only [Value.hasKey, get?_append_cons key j first]
  split <;> rfl

theorem InField.differ (h : InField key R v w) : R (v.field key) (w.field key) := by
  obtain @⟨before, after, v, w, first, differ⟩ := h
  simpa [get?_append_cons key key first] using differ

theorem InFirst.children (h : InFirst R v w) :
    v.isContainer = true ∧ w.isContainer = true ∧
      ∃ a b rest, v.children = a :: rest ∧ w.children = b :: rest ∧ R a b := by
  cases h with
  | array differ => exact ⟨rfl, rfl, _, _, _, rfl, rfl, differ⟩
  | object differ => exact ⟨rfl, rfl, _, _, _, rfl, rfl, differ⟩

end Fields

/-! ## Runs -/

/-- Runs with the same results under the same rules, as far as they are runs. -/
inductive SameRun : Value → Value → Prop where
  | object {fields others : List (String × Value)}
      (rules : Sarif.ruleTable (.object others) = Sarif.ruleTable (.object fields))
      (results : Sarif.results (.object others) = Sarif.results (.object fields)) :
      SameRun (.object fields) (.object others)
  | other {v : Value} (none : ∀ fields, v ≠ .object fields) : SameRun v v

theorem SameRun.refl (v : Value) : SameRun v v := by
  cases v with
  | object fields => exact .object rfl rfl
  | _ => exact .other nofun

/-- The results of a run and its rules are not among what its tool says about itself. -/
theorem SameRun.of_otherTool {v w : Value} (h : OtherTool v w) : SameRun v w := by
  have rules : (Sarif.driver w).field "rules" = (Sarif.driver v).field "rules" :=
    (h.differ.differ.field_eq (by decide)).1
  have results : w.field "results" = v.field "results" := h.field_eq (by decide)
  obtain ⟨first, differ⟩ := h
  exact .object (by rw [Sarif.ruleTable, rules, Sarif.ruleTable])
    (by rw [Sarif.results, results, Sarif.results])

theorem SameRun.refl_all (runs : List Value) : List.Forall₂ SameRun runs runs :=
  List.forall₂_same.mpr fun v _ => .refl v

/-! ## Cursors -/

namespace Cursor

/-- The cursors are at the same place, and the runs ahead of them are the same. -/
inductive Alike : Cursor → Cursor → Prop where
  | ahead {c : Cursor} {runs : List Value} (same : List.Forall₂ SameRun c.runs runs) :
      Alike c { c with runs }

theorem Alike.refl (c : Cursor) : Alike c c := .ahead (SameRun.refl_all c.runs)

theorem Alike.table_eq {c c' : Cursor} (h : c.Alike c') : c'.table = c.table := by
  cases h
  rfl

theorem openRuns_alike (table : Sarif.RuleTable) {runs others : List Value}
    (h : List.Forall₂ SameRun runs others) :
    ∃ left, openRuns table others = { openRuns table runs with runs := left } ∧
      List.Forall₂ SameRun (openRuns table runs).runs left := by
  induction h generalizing table with
  | nil => exact ⟨[], rfl, .nil⟩
  | @cons run other runs others same rest ih =>
    cases same with
    | @object fields fields' rules results =>
      simp only [openRuns, rules, results]
      cases Sarif.ruleTable (.object fields) with
      | error o => exact ⟨[], rfl, .nil⟩
      | ok own =>
        cases Sarif.results (.object fields) with
        | nil => exact ih own
        | cons => exact ⟨others, rfl, rest⟩
    | other none =>
      obtain ⟨left, opened, same⟩ := ih table
      cases run with
      | object fields => exact absurd rfl (none fields)
      | _ => exact ⟨left, by simp only [openRuns, opened], same⟩

variable {c c' : Cursor}

theorem next_alike (h : c.Alike c') :
    c'.next.record = c.next.record ∧ c.next.cursor.Alike c'.next.cursor := by
  obtain @⟨runs, same⟩ := h
  unfold next
  cases c.pending with
  | cons node rest => exact ⟨rfl, .ahead same⟩
  | nil =>
    obtain ⟨left, opened, same⟩ := openRuns_alike c.table same
    simp only [opened]
    split
    · exact ⟨rfl, .refl _⟩
    · exact ⟨rfl, .refl _⟩
    · exact ⟨rfl, .ahead same⟩

/-- **One record.** What becomes of it is the same. -/
theorem read_alike (k : Kind) (rules : List Cleanup.Rule) (h : c.Alike c') :
    (c'.read k rules).outcome = (c.read k rules).outcome ∧
      (c.read k rules).cursor.Alike (c'.read k rules).cursor := by
  obtain ⟨record, behind⟩ := next_alike h
  refine ⟨?_, behind⟩
  simp only [read, readWith, record, behind.table_eq]

theorem after_alike (k : Kind) (rules : List Cleanup.Rule) (h : c.Alike c') (n : Nat) :
    (c.after k rules n).Alike (c'.after k rules n) := by
  induction n generalizing c c' with
  | zero => exact h
  | succ n ih => exact ih (read_alike k rules h).2

end Cursor

/-! ## Streams -/

/-- No place in either, or alike places. -/
inductive AlikePlaces : Option (Kind × Cursor) → Option (Kind × Cursor) → Prop where
  | none : AlikePlaces none none
  | some (k : Kind) {c c' : Cursor} (h : c.Alike c') : AlikePlaces (some (k, c)) (some (k, c'))

namespace Stream

/-- The streams may differ in their documents and in what they know of the scan, and in nothing
that is ahead of them. -/
structure Alike (s t : Stream) : Prop where
  rules : t.rules = s.rules
  kind : t.kind = s.kind
  fatal : t.fatal = s.fatal
  count : t.count = s.count
  places : AlikePlaces s.cursor t.cursor

variable {s t : Stream} {k : Kind} {c : Cursor}

theorem Alike.cursor_of_none (h : s.Alike t) (hc : s.cursor = none) : t.cursor = none := by
  have places := h.places
  rw [hc] at places
  generalize t.cursor = found at places
  cases places
  rfl

theorem Alike.cursor_of_some (h : s.Alike t) (hc : s.cursor = some (k, c)) :
    ∃ c', t.cursor = some (k, c') ∧ c.Alike c' := by
  have places := h.places
  rw [hc] at places
  generalize t.cursor = found at places
  cases places with
  | some _ alike => exact ⟨_, rfl, alike⟩

theorem Alike.moved (h : s.Alike t) (k : Kind) {c' : Cursor} (behind : c.Alike c') :
    (s.moved k c).Alike (t.moved k c') where
  rules := h.rules
  kind := h.kind
  fatal := h.fatal
  count := h.count
  places := .some k behind

theorem Alike.passed (h : s.Alike t) (status : Status) :
    (s.passed status).Alike (t.passed status) := by
  unfold Stream.passed
  split
  · exact ⟨h.rules, h.kind, h.fatal, h.count, h.places⟩
  · exact h

/-- **One call.** It gives the same, and the streams behind it are alike again. -/
theorem next_alike (h : s.Alike t) :
    t.next.defect = s.next.defect ∧ s.next.stream.Alike t.next.stream := by
  cases hc : s.cursor with
  | none =>
    rw [spent_of_no_cursor hc, spent_of_no_cursor (h.cursor_of_none hc)]
    exact ⟨rfl, h⟩
  | some place =>
    obtain ⟨k, c⟩ := place
    -- The induction is on the records ahead, as a call passes over those without a defect.
    induction size : c.remaining using Nat.strongRecOn generalizing s t c with
    | ind n ih =>
      obtain ⟨c', hc', alike⟩ := h.cursor_of_some hc
      obtain ⟨outcome, behind⟩ := Cursor.read_alike k s.rules alike
      have outcome : (c'.read k t.rules).outcome = (c.read k s.rules).outcome := h.rules ▸ outcome
      have moved : (s.moved k (c.read k s.rules).cursor).Alike
          (t.moved k (c'.read k t.rules).cursor) := h.rules ▸ h.moved k behind
      match read : (c.read k s.rules).outcome with
      | .error o =>
        obtain ⟨given, left⟩ := next_of_escaped hc o read
        obtain ⟨given', left'⟩ := next_of_escaped hc' o (outcome.trans read)
        rw [given, given', left, left']
        exact ⟨rfl, moved⟩
      | .ok none =>
        obtain ⟨given, left⟩ := next_of_ended hc read
        obtain ⟨given', left'⟩ := next_of_ended hc' (outcome.trans read)
        rw [given, given', left, left']
        exact ⟨rfl, moved⟩
      | .ok (some o) =>
        cases hd : o.status.defect? with
        | some d =>
          obtain ⟨given, left⟩ := next_of_decoded hc o d read (Status.eq_decoded hd)
          obtain ⟨given', left'⟩ :=
            next_of_decoded hc' o d (outcome.trans read) (Status.eq_decoded hd)
          rw [given, given', left, left', h.count]
          exact ⟨rfl, { moved with count := rfl }⟩
        | none =>
          obtain ⟨given, left⟩ := next_of_passed hc o read hd
          obtain ⟨given', left'⟩ := next_of_passed hc' o (outcome.trans read) hd
          rw [given, given', left, left']
          exact ih _ (size ▸ c.remaining_read k _ o read) (moved.passed o.status) _
            (passed_cursor _ _) rfl

theorem after_alike (h : s.Alike t) (n : Nat) : (s.after n).Alike (t.after n) := by
  induction n generalizing s t with
  | zero => exact h
  | succ n ih => exact ih (next_alike h).2

end Stream

/-! ## Documents -/

/-- What a decoder of this format comes to at a read, counted from zero, if it has its records. -/
def Kind.outcomeAt (k : Kind) (rules : List Cleanup.Rule) (root : Value) (n : Nat) :
    Except FormatFault (Except Decimal.Oversize (Option Outcome)) :=
  (Cursor.start k root).map fun c => ((c.after k rules n).read k rules).outcome

/-- The same fault, or alike places. -/
inductive AlikeStarts : Except FormatFault Cursor → Except FormatFault Cursor → Prop where
  | fault (f : FormatFault) : AlikeStarts (.error f) (.error f)
  | ok {c c' : Cursor} (h : c.Alike c') : AlikeStarts (.ok c) (.ok c')

/-- What is known of a scan that cannot be read, and what is made of it. It is said in one line, if
the document is not silent, and the document is marked; the cursor is at the first record. -/
structure UnreadScan (d : Document) (k : Kind) (c : Cursor) (fault : RecordFault) (s : Stream)
    (log : List Notice) : Prop where
  scanProps : s.scanProps = []
  document : s.document = d.mark
  complaint : log =
    if d.silent then []
    else [⟨.error, d.name ++ ": error: " ++ ("failed to read scan properties: " ++ fault.message)⟩]
  kind : s.kind = some k
  fatal : s.fatal = none
  count : s.count = 0
  cursor : s.cursor = some (k, c)
  first : c.index = 0

section Documents

variable {root other : Value} {k : Kind}

theorem AlikeStarts.refl (start : Except FormatFault Cursor) : AlikeStarts start start := by
  cases start with
  | error f => exact .fault f
  | ok c => exact .ok (.refl c)

theorem Kind.shown_redescribed (shown : k.Shown root) (apart : Redescribed k root other) :
    k.Shown other := by
  cases apart with
  | same => exact shown
  | native scan =>
    obtain ⟨there⟩ := shown
    exact .native ((scan.field_eq (by decide)).2.trans there)
  | sarif tool =>
    obtain ⟨⟩ | ⟨⟩ | ⟨before, there⟩ := shown
    exact .sarif (fun key mem => (tool.hasKey_eq key).trans (before key mem))
      ((tool.hasKey_eq "runs").trans there)

theorem Cursor.start_redescribed (apart : Redescribed k root other) :
    AlikeStarts (start k root) (start k other) := by
  cases apart with
  | same => exact .refl _
  | native scan =>
    have records : other.field "defects" = root.field "defects" := (scan.field_eq (by decide)).1
    have same : start .native other = start .native root := by
      simp only [start, Kind.records, Kind.recordsKey?, recordsUnder, records]
    rw [same]
    exact .refl _
  | sarif tool =>
    obtain ⟨container, container', v, w, rest, children, children', differ⟩ := tool.differ.children
    have same : List.Forall₂ SameRun (v :: rest) (w :: rest) :=
      .cons (.of_otherTool differ) (SameRun.refl_all rest)
    simp only [start, Kind.records, Kind.recordsKey?, recordsUnder, container, container', children,
      children', if_true, Except.map]
    exact .ok (.ahead same)

theorem Kind.outcomeAt_redescribed (rules : List Cleanup.Rule) (apart : Redescribed k root other)
    (n : Nat) : k.outcomeAt rules other n = k.outcomeAt rules root n := by
  have starts := Cursor.start_redescribed apart
  unfold outcomeAt
  generalize Cursor.start k root = first, Cursor.start k other = second at starts
  cases starts with
  | fault f => rfl
  | ok h =>
    have reads := Cursor.read_alike k rules (Cursor.after_alike k rules h n)
    exact congrArg Except.ok reads.1

variable {depths : Json.Depths} {d e : Document} {rules : List Cleanup.Rule}

namespace Stream

/-- What a document of a known format opens as: broken, or at its first record. -/
theorem ofRoot_of_shown {depth : Nat} {s : Stream} {log : List Notice}
    (opened : ofRoot depth d rules root = .ok (s, log)) (shown : k.Shown root) :
    (∃ fault, Cursor.start k root = .error fault ∧ broken d rules (.noFormat fault) = (s, log)) ∨
      ∃ c scan, Cursor.start k root = .ok c ∧ k.scanProps depth root = .ok scan ∧
        live d rules k c scan = (s, log) := by
  have found := (Kind.detect_eq_ok_iff root k).mpr shown
  have full : ¬root.isEmpty = true := by
    intro empty
    cases (Kind.detect_of_isEmpty empty).symm.trans found
  cases start : Cursor.start k root with
  | error fault =>
    have same : ofRoot depth d rules root = .ok (broken d rules (.noFormat fault)) := by
      simp [ofRoot, full, found, start]
    exact .inl ⟨fault, rfl, eq_of_eq_ok same opened⟩
  | ok c =>
    have same : ofRoot depth d rules root = (k.scanProps depth root).map (live d rules k c) := by
      simp [ofRoot, full, found, start]
    rw [opened] at same
    cases written : k.scanProps depth root with
    | error fault =>
      rw [written] at same
      cases same
    | ok scan =>
      rw [written] at same
      exact .inr ⟨c, scan, rfl, rfl, (Except.ok.inj same).symm⟩

theorem live_alike (rules : List Cleanup.Rule) {c c' : Cursor} (h : c.Alike c')
    (scan scan' : Except RecordFault (List (String × String))) :
    (live d rules k c scan).1.Alike (live e rules k c' scan').1 where
  rules := by rw [live_rules, live_rules]
  kind := by rw [live_kind, live_kind]
  fatal := by rw [live_fatal, live_fatal]
  count := by cases scan <;> cases scan' <;> rfl
  places := by
    rw [live_cursor, live_cursor]
    exact .some k h

theorem ofRoot_redescribed {depth : Nat} {s t : Stream} {log log' : List Notice}
    (opened : ofRoot depth d rules root = .ok (s, log))
    (opened' : ofRoot depth e rules other = .ok (t, log')) (shown : k.Shown root)
    (apart : Redescribed k root other) : s.Alike t := by
  have starts := Cursor.start_redescribed apart
  rcases ofRoot_of_shown opened shown with ⟨fault, start, same⟩ | ⟨c, scan, start, -, same⟩ <;>
    rcases ofRoot_of_shown opened' (Kind.shown_redescribed shown apart) with
      ⟨fault', start', same'⟩ | ⟨c', scan', start', -, same'⟩ <;>
    rw [start, start'] at starts <;> cases starts <;>
    rw [← (Prod.mk.inj same).1, ← (Prod.mk.inj same').1]
  · exact ⟨rfl, rfl, rfl, rfl, .none⟩
  · next h => exact live_alike rules h scan scan'

theorem unreadScan_live {c : Cursor} (start : Cursor.start k root = .ok c) (fault : RecordFault) :
    UnreadScan d k c fault (live d rules k c (.error fault)).1
      (live d rules k c (.error fault)).2 :=
  ⟨rfl, rfl, rfl, rfl, rfl, rfl, rfl, (Cursor.remainder_start start).2.1⟩

end Stream

/-- **Scan properties stay apart.** Two reports of one format that differ in what they say about
their scan only are read alike, if both can be parsed and what they say can be written: they have
the same format and the same fatal fault, if any, each of their records comes to the same, and each
call gives the same and has counted the same defects. If this part of a report cannot be read,
nothing of it is kept, the report is marked, one line says so unless it is silent, and its records
are read from the first one on. -/
theorem scan_apart (rules : List Cleanup.Rule) (read : Json.read depths.read d.text = .ok root)
    (read' : Json.read depths.read e.text = .ok other) (writable : ScanWritable depths d)
    (writable' : ScanWritable depths e) (shown : k.Shown root)
    (apart : Redescribed k root other) :
    ∃ s log t log', Stream.ofDocument depths d rules = .ok (s, log) ∧
      Stream.ofDocument depths e rules = .ok (t, log') ∧ t.kind = s.kind ∧ t.fatal = s.fatal ∧
      (∀ n, k.outcomeAt rules other n = k.outcomeAt rules root n) ∧
      (∀ n, (t.after n).next.defect = (s.after n).next.defect ∧
        (t.after n).count = (s.after n).count) ∧
      ∀ c fault, Cursor.start k root = .ok c →
        k.scanProps depths.written root = .ok (.error fault) → UnreadScan d k c fault s log := by
  obtain ⟨s, log, opened, ofRoot⟩ := writable.ofRoot rules read
  obtain ⟨t, log', opened', ofRoot'⟩ := writable'.ofRoot rules read'
  have alike : s.Alike t := Stream.ofRoot_redescribed ofRoot ofRoot' shown apart
  refine ⟨s, log, t, log', opened, opened', alike.kind, alike.fatal,
    Kind.outcomeAt_redescribed rules apart, fun n => ?_, fun c fault start unread => ?_⟩
  · have behind := Stream.after_alike alike n
    exact ⟨(Stream.next_alike behind).1, behind.count⟩
  · rcases Stream.ofRoot_of_shown ofRoot shown with
      ⟨fault', start', -⟩ | ⟨c', scan, start', read, same⟩
    · cases start'.symm.trans start
    · obtain rfl := eq_of_eq_ok start' start
      obtain rfl := eq_of_eq_ok read unread
      obtain ⟨rfl, rfl⟩ := Prod.mk.inj same
      exact Stream.unreadScan_live start fault

end Documents

/-- A log with one run and one result, by the driver of its tool. -/
def logText (driver : String) : String :=
  "\x7b\"runs\":[\x7b\"tool\":\x7b\"driver\":" ++ driver ++ "\x7d,\"results\":[\x7b\x7d]\x7d]\x7d"

/-- The version of the tool is no text. -/
def misdescribed : Document where
  name := "report.json"
  text := logText "\x7b\"version\":[]\x7d"

/-- The same report, with a name instead of a version. -/
def described : Document where
  name := "silent.json"
  text := logText "\x7b\"name\":\"T\"\x7d"
  silent := true

/-- A report without defects, by what it says about its scan. -/
def scanned (scan : String) : Document where
  name := "report.json"
  text := "\x7b\"defects\":[],\"scan\":" ++ scan ++ "\x7d"

def deepened : Document := scanned "\x7b\"x\":[[]]\x7d"

def flattened : Document := scanned "7"

/-- The first one complains of the version, and then gives the defect that the second one gives. A
nested value about the scan is as good as a text. -/
theorem scan_apart_tools :
    let run (driver : List (String × Value)) : Value :=
      .object [("tool", .object [("driver", .object driver)]), ("results", .array [.object []])]
    let root : Value := .object [("runs", .array [run [("version", .array [])]])]
    let other : Value := .object [("runs", .array [run [("name", .text "T")]])]
    let native (scan : Value) : Value := .object [("defects", .array []), ("scan", scan)]
    let nested : Value := .object [("x", .array [.array []])]
    let depths : Json.Depths := ⟨100, 2⟩
    (Json.read depths.read misdescribed.text = .ok root ∧
      Json.read depths.read described.text = .ok other ∧ ScanWritable depths misdescribed ∧
      ScanWritable depths described ∧ Kind.sarif.Shown root ∧ Redescribed .sarif root other ∧
      ∃ s log t log', Stream.ofDocument depths misdescribed [] = .ok (s, log) ∧
        Stream.ofDocument depths described [] = .ok (t, log') ∧
        t.next.defect = s.next.defect ∧
        UnreadScan misdescribed .sarif (.ofRuns (root.field "runs").children)
          (.notText "version" "list") s log) ∧
    Json.read depths.read deepened.text = .ok (native nested) ∧
      Json.read depths.read flattened.text = .ok (native (.int 7)) ∧ ScanWritable depths deepened ∧
      ScanWritable depths flattened ∧ Kind.native.Shown (native nested) ∧
      Redescribed .native (native nested) (native (.int 7)) ∧
      ∃ s log t log', Stream.ofDocument depths deepened [] = .ok (s, log) ∧
        Stream.ofDocument depths flattened [] = .ok (t, log') ∧ t.kind = s.kind ∧
        t.fatal = s.fatal := by
  intro run root other native nested depths
  refine ⟨?_, ?_⟩
  · have read : Json.read depths.read misdescribed.text = .ok root := by rfl
    have read' : Json.read depths.read described.text = .ok other := by rfl
    have shown : Kind.sarif.Shown root := .sarif (by decide) rfl
    have tools : OtherTool (run [("version", .array [])]) (run [("name", .text "T")]) := by
      have drivers : ButFields toolNames (.object [("version", .array [])])
          (.object [("name", .text "T")]) := .object rfl
      exact .object [] List.not_mem_nil (.object [] List.not_mem_nil drivers)
    have apart : Redescribed .sarif root other :=
      .sarif (.object [] List.not_mem_nil (.array tools))
    have writes : ScanWritable depths misdescribed := .of_read read (by rintro k ⟨⟩; exact nofun)
    have writes' : ScanWritable depths described := .of_read read' (by rintro k ⟨⟩; exact nofun)
    obtain ⟨s, log, t, log', opened, opened', -, -, -, calls, unread⟩ :=
      scan_apart [] read read' writes writes' shown apart
    exact ⟨read, read', writes, writes', shown, apart, s, log, t, log', opened, opened',
      (calls 0).1, unread _ _ rfl rfl⟩
  · have read : Json.read depths.read deepened.text = .ok (native nested) := by rfl
    have read' : Json.read depths.read flattened.text = .ok (native (.int 7)) := by rfl
    have shown : Kind.native.Shown (native nested) := .native rfl
    have apart : Redescribed .native (native nested) (native (.int 7)) := .native (.object rfl)
    have writes : ScanWritable depths deepened := by
      refine .of_read read ?_
      rintro k ⟨⟩ - fields ⟨⟩ p mem
      obtain rfl := List.mem_singleton.mp mem
      exact Nat.le_refl 2
    have writes' : ScanWritable depths flattened :=
      .of_read read' (by rintro k ⟨⟩ - fields ⟨⟩)
    obtain ⟨s, log, t, log', opened, opened', kind, fatal, -⟩ :=
      scan_apart [] read read' writes writes' shown apart
    exact ⟨read, read', writes, writes', shown, apart, s, log, t, log', opened, opened', kind,
      fatal⟩

/-- So many arrays, one in the other. -/
def brackets (n : Nat) : String :=
  String.ofList (List.replicate n '[' ++ List.replicate n ']')

/-- What stands in front of the scan. -/
def beforeScan : List Char := "\x7b\"defects\":[],\"scan\":".toList

theorem chars_scanned (scan : String) :
    (scanned scan).text.toList = beforeScan ++ scan.toList ++ ['\x7d'] := by
  simp only [scanned, String.toList_append]
  rfl

/-- What cannot be read of the scan cannot be read of the report. -/
theorem text_of_scan (depth : Nat) (cs : List Char) (e : Json.Reader.Fault)
    (scan : ∀ size, Json.Reader.value (size + 1) (depth + 1) ('[' :: cs) = .error e) :
    Json.Reader.text (depth + 2) (beforeScan ++ '[' :: cs) = .error e := by
  have object (size : Nat) :
      Json.Reader.value (size + 2) (depth + 2) (beforeScan ++ '[' :: cs) = .error e := by
    have first : Json.Reader.value (size + 2) (depth + 2) (beforeScan ++ '[' :: cs) =
        Json.Reader.fields (Json.Reader.value (size + 2) (depth + 1)) (size + 2) []
          ("\"defects\":[],\"scan\":".toList ++ '[' :: cs) := rfl
    rw [first]
    refine (Json.Reader.fields_of_comma "defects" ("[],\"scan\":".toList ++ '[' :: cs)
      rfl rfl _ _).trans ?_
    exact Json.Reader.fields_of_error "scan" ('[' :: cs) rfl (scan _) _ _
  have front : (beforeScan ++ '[' :: cs).head? = some '\x7b' := rfl
  exact Json.Reader.text_of_error (by rw [front]; decide) (object (cs.length + 20))

/-- A scan whose brackets nest deeper than can be read makes the report unreadable. -/
theorem refused_brackets (depths : Json.Depths) (rules : List Cleanup.Rule) (depth n : Nat)
    (room : depths.read = depth + 2) (deep : depths.read ≤ n) :
    ∃ s log line, Stream.ofDocument depths (scanned (brackets n)) rules = .ok (s, log) ∧
      s.kind = none ∧ s.fatal = some (.notJson .nesting line) := by
  obtain ⟨more, rfl⟩ := Nat.exists_eq_add_of_le (room ▸ deep)
  let behind := List.replicate more '[' ++ List.replicate (depth + 2 + more) ']' ++ ['\x7d']
  have chars : (scanned (brackets (depth + 2 + more))).text.toList =
      beforeScan ++ '[' :: (List.replicate (depth + 1) '[' ++ behind) := by
    have opening : List.replicate (depth + 2 + more) '[' =
        '[' :: (List.replicate (depth + 1) '[' ++ List.replicate more '[') := by
      rw [List.replicate_append_replicate, ← List.replicate_succ]
      congr 1
      omega
    rw [chars_scanned, brackets, String.toList_ofList, opening]
    simp only [behind, List.append_assoc, List.cons_append]
  have unread : Json.Reader.text (depth + 2) (scanned (brackets (depth + 2 + more))).text.toList =
      .error ⟨.nesting, '[' :: behind⟩ := by
    rw [chars]
    exact text_of_scan depth _ _ fun size => Json.Reader.value_brackets size (depth + 1) behind
  have read : ∃ place, Json.read depths.read (scanned (brackets (depth + 2 + more))).text =
      .error ⟨.nesting, place⟩ := by
    rw [Json.read, room, unread]
    exact ⟨_, rfl⟩
  obtain ⟨place, read⟩ := read
  exact ⟨_, _, _, Stream.ofDocument_of_error read (by simp), rfl, rfl⟩

/-- **A scan that is too deep.** Two reports differ in nothing but the value of the scan. One of
them opens; the other one is refused, for it is nested too deeply as a whole. -/
theorem deep_scan_refused :
    let depths : Json.Depths := ⟨1000, 999⟩
    (∃ s log, Stream.ofDocument depths (scanned (brackets 1)) [] = .ok (s, log) ∧
      s.kind = some .native ∧ s.fatal = none) ∧
    ∃ s log line, Stream.ofDocument depths (scanned (brackets 5000)) [] = .ok (s, log) ∧
      s.kind = none ∧ s.fatal = some (.notJson .nesting line) :=
  ⟨⟨_, _, rfl, rfl, rfl⟩, refused_brackets ⟨1000, 999⟩ [] 998 5000 rfl (by decide)⟩

end Findings.Report
