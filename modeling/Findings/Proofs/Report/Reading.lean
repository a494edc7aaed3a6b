import Findings.Proofs.Report.Digits
import Findings.Proofs.Report.Records
import Findings.Proofs.Steps
/-!
Reading a report to its end, one record at each call.

* `remainder_after`: what the cursor has to hand out behind a number of reads;
* `outcome_after`: each read gives the outcome of one record, and of no other;
* `read_records`: the main statement, by the ways in which a record can end.
-/

namespace Findings.Report

open Json (Value)

/-- The status of a record, if its numbers can be read. -/
def Kind.status (k : Kind) (rules : List Cleanup.Rule) (r : Record) :
    Except Decimal.Oversize Status :=
  Status.ofDecoded (k.decode rules r.table r.node)

/-- No text that is read as a weakness number has more than `Decimal.maxDigits` digits: neither in
the rules of a run nor in a record. -/
structure Kind.Legible (k : Kind) (rules : List Cleanup.Rule) (root : Value) : Prop where
  runs : k = .sarif → ∀ fields o, .object fields ∈ k.nodes root → Decimal.maxDigits < o.digits →
    Sarif.ruleTable (.object fields) ≠ .error o
  records : ∀ r ∈ k.recordSequence root, ∀ o, Decimal.maxDigits < o.digits →
    k.decode rules r.table r.node ≠ .error (.oversize o)

variable {k : Kind} {rules : List Cleanup.Rule} {root : Value} {c : Cursor}

theorem Kind.Legible.legibleRules (h : k.Legible rules root) (hk : k = .sarif) :
    LegibleRules (k.nodes root) := by
  intro fields o hr ho
  exact h.runs hk fields o hr (digits_of_ruleTable _ o ho) ho

theorem Kind.Legible.decode (h : k.Legible rules root) (r : Record)
    (hr : r ∈ k.recordSequence root) (o : Decimal.Oversize) :
    k.decode rules r.table r.node ≠ .error (.oversize o) := by
  intro ho
  exact h.records r hr o (digits_of_decode k rules r.table r.node o ho) ho

/-- Where every rule table and every record comes out, every number can be read. -/
theorem Kind.legible_of_isOk (tables : ∀ run ∈ k.nodes root, (Sarif.ruleTable run).isOk)
    (records : ∀ r ∈ k.recordSequence root, (k.status rules r).isOk) : k.Legible rules root where
  runs _ fields o hr _ ho := by
    have := tables _ hr
    rw [ho] at this
    exact Bool.noConfusion this
  records r hr o _ ho := by
    have := records r hr
    rw [status, ho] at this
    exact Bool.noConfusion this

/-! ## One record -/

/-- What becomes of a record. -/
inductive Kind.Becomes (k : Kind) (rules : List Cleanup.Rule) (r : Record) : Status → Prop where
  | malformed (fault : RecordFault) (h : k.decode rules r.table r.node = .error (.record fault)) :
      k.Becomes rules r (.failed fault)
  | rejected (h : k.decode rules r.table r.node = .ok none) : k.Becomes rules r .rejected
  | eventless (d : Defect) (h : k.decode rules r.table r.node = .ok (some d)) (ht : d.trace = []) :
      k.Becomes rules r (.failed .noTrace)
  | decoded (d : Defect) (h : k.decode rules r.table r.node = .ok (some d)) (ht : d.trace ≠ []) :
      k.Becomes rules r (.decoded d)

theorem Kind.becomes_of_legible (k : Kind) (rules : List Cleanup.Rule) (r : Record)
    (h : ∀ o, k.decode rules r.table r.node ≠ .error (.oversize o)) :
    ∃ status, k.status rules r = .ok status ∧ k.Becomes rules r status := by
  match hd : k.decode rules r.table r.node with
  | .error (.oversize o) => exact absurd hd (h o)
  | .error (.record fault) =>
    exact ⟨.failed fault, by rw [status, hd]; rfl, .malformed fault hd⟩
  | .ok none => exact ⟨.rejected, by rw [status, hd]; rfl, .rejected hd⟩
  | .ok (some d) =>
    have shown : k.status rules r = .ok (.ofDefect d) := by rw [status, hd]; rfl
    refine ⟨.ofDefect d, shown, ?_⟩
    by_cases ht : d.trace = []
    · rw [Status.ofDefect, ht]
      exact .eventless d hd ht
    · rw [Status.ofDefect, if_neg (by simpa using ht)]
      exact .decoded d hd ht

/-! ## One read -/

namespace Cursor

/-- A read that gives an outcome has taken one record and decoded it, under the rules of its run. -/
theorem read_eq_some_iff (k : Kind) (rules : List Cleanup.Rule) (c : Cursor) (o : Outcome) :
    (c.read k rules).outcome = .ok (some o) ↔
      ∃ node, c.next.record = .ok (some (o.index, node)) ∧
        Status.ofDecoded (k.decode rules c.next.cursor.table node) = .ok o.status := by
  obtain ⟨i, status⟩ := o
  simp only [read, readWith]
  rcases c.next.record with o | _ | ⟨index, node⟩
  · simp
  · simp
  · simp only [map_eq_ok_iff, Except.ok.injEq, Option.some.injEq, Outcome.mk.injEq, Prod.mk.injEq]
    constructor
    · rintro ⟨_, read, rfl, rfl⟩
      exact ⟨node, ⟨rfl, rfl⟩, read⟩
    · rintro ⟨_, ⟨rfl, rfl⟩, read⟩
      exact ⟨status, read, rfl, rfl⟩

theorem read_of_remainder_nil (k : Kind) (rules : List Cleanup.Rule) (hl : LegibleRules c.runs)
    (h : c.remainder = []) :
    (c.read k rules).outcome = .ok none ∧ (c.read k rules).cursor.remainder = [] ∧
      LegibleRules (c.read k rules).cursor.runs := by
  obtain ⟨none, empty, legible⟩ := next_of_remainder_nil hl h
  refine ⟨?_, empty, legible⟩
  simp only [read, readWith, none]

theorem read_of_remainder_cons (k : Kind) (rules : List Cleanup.Rule) (hl : LegibleRules c.runs)
    (r : Record) (rest : List Record)
    (h : c.remainder = (r :: rest).map Record.ruled) :
    (c.read k rules).outcome =
        (k.status rules r).map (fun status => some { index := c.index, status }) ∧
      (c.read k rules).cursor.index = c.index + 1 ∧
      (c.read k rules).cursor.remainder = rest.map Record.ruled ∧
      LegibleRules (c.read k rules).cursor.runs := by
  obtain ⟨some, table, index, tail, legible⟩ := next_of_remainder_cons hl r.ruled _ h
  refine ⟨?_, index, tail, legible⟩
  simp only [read, readWith, some, table]
  rfl

/-! ## Any number of reads -/

/-- The cursor behind some reads. -/
def after (k : Kind) (rules : List Cleanup.Rule) : Nat → Cursor → Cursor
  | 0, c => c
  | n + 1, c => after k rules n (c.read k rules).cursor

/-- Each read takes one record, as long as there is one. -/
theorem remainder_after (hl : LegibleRules c.runs) (rs : List Record)
    (h : c.remainder = rs.map Record.ruled) (n : Nat) :
    (c.after k rules n).remainder = (rs.drop n).map Record.ruled ∧
      LegibleRules (c.after k rules n).runs ∧
      (n ≤ rs.length → (c.after k rules n).index = c.index + n) := by
  induction n generalizing c rs with
  | zero => exact ⟨h, hl, fun _ => rfl⟩
  | succ n ih =>
    cases rs with
    | nil =>
      -- Behind the last record there are reads too, but they leave the number where it is.
      obtain ⟨-, empty, legible⟩ := read_of_remainder_nil k rules hl h
      obtain ⟨rest, legible, -⟩ := ih legible [] empty
      exact ⟨rest.trans (by simp), legible, fun hn => absurd hn (Nat.not_succ_le_zero n)⟩
    | cons r rs =>
      obtain ⟨-, index, tail, legible⟩ := read_of_remainder_cons k rules hl r rs h
      obtain ⟨rest, legible, moved⟩ := ih legible rs tail
      refine ⟨rest, legible, fun hn => ?_⟩
      rw [after, moved (Nat.le_of_succ_le_succ hn), index]
      omega

/-- A cursor starts at the first record, or at the first run. -/
theorem start_eq (start : Cursor.start k root = .ok c) :
    c = if k = .sarif then ofRuns (k.nodes root) else ofRecords (k.nodes root) := by
  unfold Cursor.start at start
  rcases k.records_cases root with found | ⟨-, fault, missing⟩
  · rw [found] at start
    rw [← Except.ok.inj start]
    cases k <;> rfl
  · rw [missing] at start
    cases start

/-- A cursor starts at the first record of the document. -/
theorem remainder_start (start : Cursor.start k root = .ok c) :
    c.remainder = (k.recordSequence root).map Record.ruled ∧ c.index = 0 ∧
      ∀ run ∈ c.runs, k = .sarif ∧ run ∈ k.nodes root := by
  rw [start_eq start]
  cases k with
  | sarif =>
    exact ⟨by simp [ofRuns, remainder, Kind.recordSequence], rfl, fun run hr => ⟨rfl, hr⟩⟩
  | _ =>
    refine ⟨?_, rfl, fun run hr => absurd hr List.not_mem_nil⟩
    simp [ofRecords, remainder, Kind.recordSequence, Record.ruled]

/-- Every rule table that the cursor will open can be read. -/
theorem legibleRules_start (start : Cursor.start k root = .ok c) (legible : k.Legible rules root) :
    LegibleRules c.runs := by
  intro fields o hr
  obtain ⟨-, -, runs⟩ := remainder_start start
  obtain ⟨hk, hm⟩ := runs _ hr
  exact legible.legibleRules hk fields o hm

/-- Where the rules of the runs can be read, a record is read apart from those in front of it. -/
theorem outcome_after_of_rules (start : Cursor.start k root = .ok c) (hl : LegibleRules c.runs)
    (i : Nat) :
    ((c.after k rules i).read k rules).outcome =
      match (k.recordSequence root)[i]? with
      | some r => (k.status rules r).map fun status => some { index := i, status }
      | none => .ok none := by
  obtain ⟨all, zero, -⟩ := remainder_start start
  obtain ⟨rest, left, index⟩ := remainder_after hl _ all i
  cases hi : (k.recordSequence root)[i]? with
  | none =>
    rw [List.drop_eq_nil_of_le (List.getElem?_eq_none_iff.mp hi)] at rest
    exact (read_of_remainder_nil k rules left rest).1
  | some r =>
    obtain ⟨within, hr⟩ := List.getElem?_eq_some_iff.mp hi
    rw [List.drop_eq_getElem_cons within, hr] at rest
    obtain ⟨outcome, -⟩ := read_of_remainder_cons k rules left r _ rest
    rw [outcome, index (Nat.le_of_lt within), zero, Nat.zero_add]

theorem outcome_after (start : Cursor.start k root = .ok c) (legible : k.Legible rules root)
    (i : Nat) :
    ((c.after k rules i).read k rules).outcome =
      match (k.recordSequence root)[i]? with
      | some r => (k.status rules r).map fun status => some { index := i, status }
      | none => .ok none :=
  outcome_after_of_rules start (legibleRules_start start legible) i

end Cursor

/-! ## The whole report -/

/-- Runs of a SARIF log: two results, something that is no run, and a run with rules of its own. -/
def mixedRuns (second : Value) : List Value :=
  let result : Value := .object [("ruleId", .text "R1")]
  let rule : Value := .object [("id", .text "R1"), ("properties", .object [("cwe", .int 476)])]
  let tool : Value := .object [("driver", .object [("rules", .array [rule])])]
  [.object [("tool", tool), ("results", .array [result, second])], .int 5, .object [],
    .object [("results", .array [result])]]

end Findings.Report
