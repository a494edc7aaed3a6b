import Findings.Proofs.Report.Given
import Findings.Proofs.Report.Reading
/-!
What a stream comes to when it is read to its end: the defects of the records that are left, and
the mark that a malformed record leaves on the document.

* `next_eq`: one record at a time, and what comes of it in `next_of_escaped`, `next_of_ended`,
  `next_of_decoded`, `next_of_passed`;
* `gather_of_statuses`: all of them;
* `gather_opened`: the same for a document that was just opened, in terms of its text.
-/

namespace Findings.Report

/-- The defect of a record that has one. -/
def Status.defect? : Status → Option Defect
  | decoded d => some d
  | _ => none

theorem Status.eq_decoded {status : Status} {d : Defect} (h : status.defect? = some d) :
    status = .decoded d := by
  cases status <;> simp_all [defect?]

def Status.isFailed : Status → Bool
  | failed _ => true
  | _ => false

namespace Stream

/-- The stream with its cursor at another place. -/
def moved (s : Stream) (k : Kind) (c : Cursor) : Stream := { s with cursor := some (k, c) }

/-- The stream after a record with a status; a malformed one marks the document. -/
def passed (s : Stream) (status : Status) : Stream :=
  if status.isFailed then { s with document := s.document.mark } else s

@[simp] theorem passed_cursor (s : Stream) (status : Status) :
    (s.passed status).cursor = s.cursor := by
  unfold passed
  split <;> rfl

@[simp] theorem passed_rules (s : Stream) (status : Status) :
    (s.passed status).rules = s.rules := by
  unfold passed
  split <;> rfl

theorem hasError_passed (s : Stream) (status : Status) :
    (s.passed status).document.hasError = (s.document.hasError || status.isFailed) := by
  unfold passed
  split
  · next failed => rw [failed, Bool.or_true]; rfl
  · next fine => rw [Bool.eq_false_iff.mpr fine, Bool.or_false]

variable {s : Stream} {k : Kind} {c : Cursor}

/-- One read, and what the stream makes of it. -/
theorem next_eq (hc : s.cursor = some (k, c)) :
    s.next =
      let read := c.read k s.rules
      let t := s.moved k read.cursor
      match read.outcome with
      | .error o => { defect := .error o, stream := t, notices := read.notices }
      | .ok none => { defect := .ok none, stream := t, notices := read.notices }
      | .ok (some o) =>
        match o.status with
        | .decoded d =>
          { defect := .ok (some d), stream := { t with count := s.count + 1 }
            notices := read.notices }
        | .rejected => { t.next with notices := read.notices ++ t.next.notices }
        | .failed fault =>
          let (u, complaint) := t.complain o fault
          { u.next with notices := read.notices ++ complaint ++ u.next.notices } := by
  rw [next, hc]
  dsimp only
  rw [advance]
  dsimp only
  split
  · next h => rw [h]; rfl
  · next h => rw [h]; rfl
  · next o h =>
    rw [h]
    dsimp only
    cases o.status <;> rfl

theorem next_of_escaped (hc : s.cursor = some (k, c)) (o : Decimal.Oversize)
    (h : (c.read k s.rules).outcome = .error o) :
    s.next.defect = .error o ∧ s.next.stream = s.moved k (c.read k s.rules).cursor := by
  rw [next_eq hc]
  dsimp only
  rw [h]
  exact ⟨rfl, rfl⟩

theorem next_of_ended (hc : s.cursor = some (k, c)) (h : (c.read k s.rules).outcome = .ok none) :
    s.next.defect = .ok none ∧ s.next.stream = s.moved k (c.read k s.rules).cursor := by
  rw [next_eq hc]
  dsimp only
  rw [h]
  exact ⟨rfl, rfl⟩

theorem next_of_decoded (hc : s.cursor = some (k, c)) (o : Outcome) (d : Defect)
    (h : (c.read k s.rules).outcome = .ok (some o)) (hd : o.status = .decoded d) :
    s.next.defect = .ok (some d) ∧
      s.next.stream =
        { s.moved k (c.read k s.rules).cursor with count := s.count + 1 } := by
  rw [next_eq hc]
  dsimp only
  rw [h]
  dsimp only
  rw [hd]
  exact ⟨rfl, rfl⟩

/-- A record that gives no defect is passed over. -/
theorem next_of_passed (hc : s.cursor = some (k, c)) (o : Outcome)
    (h : (c.read k s.rules).outcome = .ok (some o)) (hd : o.status.defect? = none) :
    s.next.defect = ((s.moved k (c.read k s.rules).cursor).passed o.status).next.defect ∧
      s.next.stream = ((s.moved k (c.read k s.rules).cursor).passed o.status).next.stream := by
  rw [next_eq hc]
  dsimp only
  rw [h]
  dsimp only
  -- Only the notices differ, and they are part of neither side.
  cases hs : o.status with
  | decoded d => simp [hs, Status.defect?] at hd
  | rejected => exact ⟨rfl, rfl⟩
  | failed fault => exact ⟨rfl, rfl⟩

/-- Reading on to the end depends on the next step only. -/
theorem gather_of_next {t : Stream} (hd : s.next.defect = t.next.defect)
    (hs : s.next.stream = t.next.stream) :
    s.gather.defects = t.gather.defects ∧ s.gather.stream = t.gather.stream := by
  match h : t.next.defect with
  | .error o =>
    rw [gather_of_error s o (hd.trans h), gather_of_error t o h]
    exact ⟨rfl, hs⟩
  | .ok none =>
    rw [gather_of_none s (hd.trans h), gather_of_none t h]
    exact ⟨rfl, hs⟩
  | .ok (some d) =>
    rw [gather_of_some s d (hd.trans h), gather_of_some t d h, hs]
    exact ⟨rfl, rfl⟩

/-- **Reading on to the end.** The stream gives the defects of the records that are left, and the
document is marked if it was before or if a record is malformed. -/
theorem gather_of_statuses (hc : s.cursor = some (k, c)) (hl : LegibleRules c.runs)
    (rs : List Record) (hr : c.remainder = rs.map Record.ruled) (statuses : List Status)
    (hs : rs.map (k.status s.rules) = statuses.map .ok) :
    s.gather.defects = .ok (statuses.filterMap Status.defect?) ∧
      s.gather.stream.document.hasError =
        (s.document.hasError || statuses.any Status.isFailed) := by
  induction rs generalizing s c statuses with
  | nil =>
    obtain rfl : statuses = [] := by simpa using hs.symm
    obtain ⟨ended, -, -⟩ := Cursor.read_of_remainder_nil k s.rules hl hr
    obtain ⟨none, behind⟩ := next_of_ended hc ended
    rw [gather_of_none s none, behind]
    exact ⟨rfl, (Bool.or_false _).symm⟩
  | cons r rs ih =>
    cases statuses with
    | nil => simp at hs
    | cons status statuses =>
      rw [List.map_cons, List.map_cons, List.cons.injEq] at hs
      obtain ⟨head, tail⟩ := hs
      obtain ⟨outcome, -, left, legible⟩ :=
        Cursor.read_of_remainder_cons k s.rules hl r rs hr
      rw [head] at outcome
      cases hd : status.defect? with
      | some d =>
        obtain rfl := Status.eq_decoded hd
        obtain ⟨given, behind⟩ := next_of_decoded hc _ d outcome rfl
        obtain ⟨defects, flag⟩ := ih (s := s.next.stream) (by rw [behind]; rfl) legible left
          statuses (by rw [behind]; exact tail)
        rw [gather_of_some s d given]
        refine ⟨?_, ?_⟩
        · dsimp only
          rw [defects]
          rfl
        · rw [flag, behind]
          rfl
      | none =>
        -- No defect comes out, so this record belongs to the step that gives a later one.
        obtain ⟨given, behind⟩ := next_of_passed hc _ outcome hd
        let t := (s.moved k (c.read k s.rules).cursor).passed status
        obtain ⟨same_defects, same_stream⟩ := gather_of_next (t := t) given behind
        have rules : t.rules = s.rules := passed_rules _ status
        obtain ⟨defects, flag⟩ := ih (s := t) (passed_cursor _ status) legible left statuses
          (by rw [rules]; exact tail)
        refine ⟨?_, ?_⟩
        · rw [same_defects, defects, List.filterMap_cons, hd]
        · rw [same_stream, flag, hasError_passed _ status, List.any_cons, Bool.or_assoc]
          rfl

/-! ## A document that was just opened -/

/-- The statuses of all records of a document, whose format the stream knows. -/
def statuses (s : Stream) (root : Json.Value) : List Status :=
  match s.kind with
  | none => []
  | some k => (k.recordSequence root).filterMap fun r => (k.status s.rules r).toOption

/-- What the document says about the scan can be read, and written `depth` deep. -/
def ScanLegible (depth : Nat) (s : Stream) (root : Json.Value) : Prop :=
  ∀ k, s.kind = some k → ∃ scanProps, k.scanProps depth root = .ok (.ok scanProps)

variable {depths : Json.Depths} {d : Document} {rules : List Cleanup.Rule} {root : Json.Value}
  {notices : List Notice}

section

variable (d : Document) (rules : List Cleanup.Rule) (k : Kind) (c : Cursor)
  (scan : Except RecordFault (List (String × String)))

@[simp] theorem live_cursor : (live d rules k c scan).1.cursor = some (k, c) := by
  cases scan <;> rfl

@[simp] theorem live_rules : (live d rules k c scan).1.rules = rules := by
  cases scan <;> rfl

@[simp] theorem live_kind : (live d rules k c scan).1.kind = some k := by
  cases scan <;> rfl

@[simp] theorem live_fatal : (live d rules k c scan).1.fatal = none := by
  cases scan <;> rfl

end

/-- What a parsed document may be: empty, without a format, or a report with records, unless what it
says about the scan cannot be written. -/
theorem ofRoot_cases (depth : Nat) (d : Document) (rules : List Cleanup.Rule) (root : Json.Value) :
    (root.isEmpty = true ∧ ofRoot depth d rules root =
      .ok ({ document := d, rules }, [⟨.debug, d.name ++ ": empty document"⟩])) ∨
    (root.isEmpty = false ∧
      ∃ fault, ofRoot depth d rules root = .ok (broken d rules (.noFormat fault)) ∧
        (Kind.detect root = .error fault ∨
          ∃ k, Kind.detect root = .ok k ∧ Cursor.start k root = .error fault)) ∨
    (root.isEmpty = false ∧ ∃ k c,
      ofRoot depth d rules root = (k.scanProps depth root).map (live d rules k c) ∧
        Kind.detect root = .ok k ∧ Cursor.start k root = .ok c) := by
  unfold ofRoot
  cases empty : root.isEmpty with
  | true => exact .inl ⟨rfl, rfl⟩
  | false =>
    refine .inr ?_
    cases found : Kind.detect root with
    | error fault => exact .inl ⟨rfl, fault, rfl, .inl rfl⟩
    | ok k =>
      cases start : Cursor.start k root with
      | error fault => exact .inl ⟨rfl, fault, by simp [start], .inr ⟨k, rfl, start⟩⟩
      | ok c => exact .inr ⟨rfl, k, c, by simp [start], rfl, start⟩

/-- What the stream of a parsed document is: empty, broken, or at the first record. -/
theorem ofRoot_ok_cases {depth : Nat} (opened : ofRoot depth d rules root = .ok (s, notices)) :
    s = { document := d, rules } ∨
    (∃ fault, (s, notices) = broken d rules (.noFormat fault)) ∨
    ∃ k c scan, Kind.detect root = .ok k ∧ Cursor.start k root = .ok c ∧
      k.scanProps depth root = .ok scan ∧ live d rules k c scan = (s, notices) := by
  rcases ofRoot_cases depth d rules root with
    ⟨-, h⟩ | ⟨-, fault, h, -⟩ | ⟨-, k, c, h, found, start⟩
  · exact .inl (Prod.mk.inj (Except.ok.inj (opened.symm.trans h))).1
  · exact .inr (.inl ⟨fault, Except.ok.inj (opened.symm.trans h)⟩)
  · rw [h] at opened
    cases written : k.scanProps depth root with
    | error fault =>
      rw [written] at opened
      cases opened
    | ok scan =>
      rw [written] at opened
      exact .inr (.inr ⟨k, c, scan, found, start, written, Except.ok.inj opened⟩)

theorem ofDocument_of_read (read : Json.read depths.read d.text = .ok root) :
    ofDocument depths d rules = (ofRoot depths.written d rules root).mapError .unwritten := by
  rw [ofDocument, read]

/-- A document that can be parsed is opened as its root says. -/
theorem ofRoot_of_opened (opened : ofDocument depths d rules = .ok (s, notices))
    (read : Json.read depths.read d.text = .ok root) :
    ofRoot depths.written d rules root = .ok (s, notices) := by
  rw [ofDocument_of_read read] at opened
  cases h : ofRoot depths.written d rules root with
  | error fault =>
    rw [h] at opened
    cases opened
  | ok opening =>
    rw [h] at opened
    exact congrArg Except.ok (Except.ok.inj opened)

/-- A stream that can go on is empty, or it stands at the first record. -/
theorem opened_cases (opened : ofDocument depths d rules = .ok (s, notices))
    (read : Json.read depths.read d.text = .ok root) (going : s.fatal = none) :
    s = { document := d, rules } ∨
      ∃ k c scan, Cursor.start k root = .ok c ∧ k.scanProps depths.written root = .ok scan ∧
        s = (live d rules k c scan).1 := by
  rcases ofRoot_ok_cases (ofRoot_of_opened opened read) with
    blank | ⟨fault, h⟩ | ⟨k, c, scan, -, start, written, h⟩
  · exact .inl blank
  · rw [(Prod.mk.inj h).1] at going
    cases going
  · exact .inr ⟨k, c, scan, start, written, by rw [h]⟩

/-- A stream that has a cursor stands at the first record. -/
theorem live_of_cursor (opened : ofDocument depths d rules = .ok (s, notices))
    (read : Json.read depths.read d.text = .ok root) {k : Kind} {c : Cursor}
    (hc : s.cursor = some (k, c)) :
    Cursor.start k root = .ok c ∧ ∃ scan, k.scanProps depths.written root = .ok scan ∧
      live d rules k c scan = (s, notices) := by
  rcases ofRoot_ok_cases (ofRoot_of_opened opened read) with
    rfl | ⟨fault, h⟩ | ⟨k', c', scan, -, start, written, h⟩
  · cases hc
  · rw [(Prod.mk.inj h).1] at hc
    cases hc
  · have cursor := live_cursor d rules k' c' scan
    rw [h, hc, Option.some.injEq, Prod.mk.injEq] at cursor
    obtain ⟨rfl, rfl⟩ := cursor
    exact ⟨start, scan, written, h⟩

theorem live_fields (rules : List Cleanup.Rule) (fresh : d.hasError = false) {depth : Nat}
    {k : Kind} (c : Cursor) {scan : Except RecordFault (List (String × String))}
    (written : k.scanProps depth root = .ok scan) :
    (live d rules k c scan).1.kind = some k ∧ (live d rules k c scan).1.cursor = some (k, c) ∧
      (live d rules k c scan).1.rules = rules ∧
      ((live d rules k c scan).1.document.hasError = false ↔
        (live d rules k c scan).1.ScanLegible depth root) := by
  cases scan with
  | ok scanProps => simp [live, fresh, written, ScanLegible]
  | error fault => simp [live, written, ScanLegible, Document.failPart, Document.mark]

/-- Where all numbers can be read, every record has its status. -/
theorem map_status (legible : k.Legible rules root) :
    (k.recordSequence root).map (k.status rules) =
      ((k.recordSequence root).filterMap fun r => (k.status rules r).toOption).map .ok := by
  have each : ∀ r ∈ k.recordSequence root, ∃ status, k.status rules r = .ok status := by
    intro r hr
    obtain ⟨status, hs, -⟩ := k.becomes_of_legible rules r (legible.decode r hr)
    exact ⟨status, hs⟩
  generalize k.recordSequence root = rs at each
  induction rs with
  | nil => rfl
  | cons r rs ih =>
    obtain ⟨status, hs⟩ := each r List.mem_cons_self
    rw [List.map_cons, List.filterMap_cons, hs, ih fun r' hr => each r' (List.mem_cons_of_mem r hr)]
    rfl

theorem any_isFailed_eq_false_iff (statuses : List Status) :
    statuses.any Status.isFailed = false ↔ ∀ fault, .failed fault ∉ statuses := by
  rw [List.any_eq_false]
  constructor
  · intro h fault hm
    exact h _ hm rfl
  · intro h status hm
    cases status with
    | failed fault => exact absurd hm (h fault)
    | _ => exact Bool.false_ne_true

/-- **An opened document.** It gives the defects of its records, and it is without an error in the
end if what it says about the scan can be read and none of its records failed. -/
theorem gather_opened (fresh : d.hasError = false)
    (opened : ofDocument depths d rules = .ok (s, notices))
    (read : Json.read depths.read d.text = .ok root) (going : s.fatal = none)
    (legible : ∀ k, s.kind = some k → k.Legible rules root) :
    s.gather.defects = .ok ((s.statuses root).filterMap Status.defect?) ∧
      (s.gather.stream.document.hasError = false ↔
        s.ScanLegible depths.written root ∧ ∀ fault, .failed fault ∉ s.statuses root) := by
  rcases opened_cases opened read going with rfl | ⟨k, c, scan, start, written, hs⟩
  · rw [gather_of_none _ rfl]
    refine ⟨rfl, fun _ => ⟨nofun, fun fault => List.not_mem_nil⟩, fun _ => fresh⟩
  · obtain ⟨kind, cursor, same_rules, legibleScan⟩ := live_fields rules fresh c written
    rw [← hs] at kind cursor same_rules legibleScan
    have legible := legible k kind
    obtain ⟨all, -, -⟩ := Cursor.remainder_start start
    have statuses : s.statuses root =
        (k.recordSequence root).filterMap fun r => (k.status rules r).toOption := by
      rw [Stream.statuses, kind, same_rules]
    have each : (k.recordSequence root).map (k.status s.rules) = (s.statuses root).map .ok := by
      rw [same_rules, statuses]
      exact map_status legible
    obtain ⟨defects, flag⟩ := gather_of_statuses cursor
      (Cursor.legibleRules_start start legible) _ all (s.statuses root) each
    refine ⟨defects, ?_⟩
    rw [flag, Bool.or_eq_false_iff, legibleScan, any_isFailed_eq_false_iff]

end Stream

end Findings.Report
