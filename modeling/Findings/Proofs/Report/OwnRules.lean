import Findings.Proofs.Report.Consumption
/-!
A SARIF log read run by run, as if the rules of each run were known before its first result, set
against the cursor with its one rule table.

* `get?_addRules`: of several rules of one name the last one counts;
* `eager_eq`: the cursor gives each result under the rules of its own run;
* `results_under_own_rules`: the main statement, for a caller who may look at the scan in between.
-/

namespace Findings.Report

open Json (Value)

namespace Sarif

/-! ## Eagerly -/

/-- Whether the name of a rule is this text. -/
def isNamed (id : String) (rule : Value) : Bool :=
  match rule.field "id" with
  | .text name => name = id
  | _ => false

/-- The weakness number that rules give to a rule name: that of the last rule with the name, or zero
if there is none. -/
def weakness (rules : List Value) (id : String) : Except Decimal.Oversize Int :=
  match rules.reverse.find? (isNamed id) with
  | some rule => ruleCwe rule
  | none => .ok 0

/-- The rule name of a result, if it is a text. -/
def ruleId (result : Value) : String := (Field.text result "ruleId" "").toOption.getD ""

/-- The status of a result by itself, with the weakness number of its rule. -/
def statusUnder (number : String → Except Decimal.Oversize Int) (result : Value) :
    Except Decimal.Oversize Status :=
  match defect [] result with
  | .ok d => (number (ruleId result)).map fun cwe => .decoded { d with cwe }
  | .error fault => .ok (.failed fault)

/-- The results of a run under its own rules; what is no object is no run. -/
def eagerRun (run : Value) : List (Except Decimal.Oversize Status) :=
  match run with
  | .object _ => (results run).map (statusUnder (weakness ((driver run).field "rules").children))
  | _ => []

/-- The outcomes of a log, run by run. -/
def eager (root : Value) : List (Except Decimal.Oversize Outcome) :=
  ((root.field "runs").children.flatMap eagerRun).mapIdx fun index read =>
    read.map fun status => { index, status }

/-! ## One table -/

/-- The last rule of a name counts, and its number can be read. -/
theorem get?_addRules (table own : RuleTable) (rules : List Value)
    (h : addRules table rules = .ok own) (id : String) :
    match rules.reverse.find? (isNamed id) with
    | some rule => ∃ cwe, ruleCwe rule = .ok cwe ∧ Assoc.get? id own = some cwe
    | none => Assoc.get? id own = Assoc.get? id table := by
  fun_induction addRules table rules with
  | case1 table =>
    rw [← Except.ok.inj h]
    rfl
  | case2 table rule rules name named cwe read ih =>
    have later := ih h
    rw [List.reverse_cons, List.find?_append]
    cases found : rules.reverse.find? (isNamed id) with
    | some rule => rwa [found] at later
    | none =>
      -- No later rule has the name, so this one counts if it has it.
      rw [found, Assoc.get?_put] at later
      by_cases same : name = id
      · have this : isNamed id rule = true := by simp [isNamed, named, same]
        rw [if_pos same] at later
        simpa [this] using ⟨cwe, read, later⟩
      · have other : isNamed id rule = false := by simp [isNamed, named, same]
        rw [if_neg same] at later
        simpa [other] using later
  | case3 => cases h
  | case4 table rule rules unnamed ih =>
    have later := ih h
    rw [List.reverse_cons, List.find?_append]
    cases found : rules.reverse.find? (isNamed id) with
    | some rule => rwa [found] at later
    | none =>
      have skipped : isNamed id rule = false := by
        unfold isNamed
        split
        · next name named => exact absurd named (unnamed name)
        · rfl
      rw [found] at later
      simpa [skipped] using later

/-- Rules that can be read give each rule name its number. -/
theorem weakness_eq (own : RuleTable) (rules : List Value) (h : addRules [] rules = .ok own)
    (id : String) : weakness rules id = .ok ((Assoc.get? id own).getD 0) := by
  have last := get?_addRules [] own rules h id
  unfold weakness
  split at last
  · next rule found =>
    obtain ⟨cwe, read, there⟩ := last
    rw [there]
    exact read
  · rw [last]
    rfl

/-- The rule table is looked at for the weakness number only. -/
theorem defect_eq (table : RuleTable) (result : Value) :
    defect table result =
      (defect [] result).map fun d =>
        { d with cwe := (Assoc.get? (ruleId result) table).getD 0 } := by
  unfold defect ruleId
  cases Field.requireObject result "result" with
  | error fault => rfl
  | ok _ =>
    cases Field.text result "ruleId" "" with
    | error fault => rfl
    | ok id =>
      simp only [bind, Except.bind]
      cases keyEvent id result with
      | error fault => rfl
      | ok key =>
        dsimp only
        cases (steps result).mapM note <;> rfl

/-- A result always has its key event, so it fails or has a defect. -/
theorem ofDecoded_defect (table : RuleTable) (result : Value) :
    Status.ofDecoded ((ofField (defect table result)).map some) =
      statusUnder (fun id => .ok ((Assoc.get? id table).getD 0)) result := by
  rw [defect_eq, statusUnder]
  cases h : defect [] result with
  | error fault => rfl
  | ok d =>
    have trace : d.trace ≠ [] := by
      simp only [defect, bind_eq_ok_iff, pure, Except.pure, Except.ok.injEq] at h
      obtain ⟨_, -, _, -, key, -, notes, -, rfl⟩ := h
      exact List.cons_ne_nil key notes
    simp [Except.map, ofField, Status.ofDecoded, Status.ofDefect, trace]

/-- A run whose rules can be read gives its results under them. -/
theorem status_ofRun (rules : List Cleanup.Rule) (run : Value)
    (legible : ∀ fields o, run = .object fields → ruleTable run ≠ .error o) :
    (Record.ofRun run).map (Kind.sarif.status rules) = eagerRun run := by
  cases run with
  | object fields =>
    unfold Record.ofRun eagerRun
    dsimp only
    split
    · next own read =>
      have numbers : weakness ((driver (.object fields)).field "rules").children =
          fun id => .ok ((Assoc.get? id own).getD 0) :=
        funext fun id => weakness_eq own _ read id
      rw [List.map_map, numbers]
      exact List.map_congr_left fun result _ => ofDecoded_defect own result
    · next o read => exact absurd read (legible fields o rfl)
  | _ => rfl

end Sarif

variable {rules : List Cleanup.Rule} {root : Value} {c : Cursor}

/-- Where all numbers can be read, an eager reading gives the outcome of each record. -/
theorem eager_eq (legible : Kind.sarif.Legible rules root) :
    Sarif.eager root = (Kind.sarif.outcomes rules root).map .ok := by
  have each : (root.field "runs").children.flatMap Sarif.eagerRun =
      (Kind.sarif.recordSequence root).map (Kind.sarif.status rules) := by
    change _ = ((root.field "runs").children.flatMap Record.ofRun).map _
    rw [List.map_flatMap]
    refine List.flatMap_congr fun run mem => (Sarif.status_ofRun rules run ?_).symm
    intro fields o isRun
    exact isRun ▸ legible.legibleRules rfl fields o (isRun ▸ mem)
  rw [Sarif.eager, each, Stream.map_status legible, Kind.outcomes]
  exact List.ext_getElem? fun i => by simp [Function.comp_def, Except.map]

/-! ## Callers -/

/-- What a caller asks of a decoder: the next outcome, or what the log says of the scan. -/
inductive Call where
  | read
  | scanProps
  deriving DecidableEq, Repr

inductive Reply where
  | outcome (o : Except Decimal.Oversize (Option Outcome))
  | scanProps (props : Except Json.WriteFault (Except RecordFault (List (String × String))))

/-- The replies to some calls, one after another; the caller may wait between them as it likes. -/
def Cursor.replies (depth : Nat) (k : Kind) (rules : List Cleanup.Rule) (root : Value) :
    Cursor → List Call → List Reply
  | _, [] => []
  | c, .read :: calls =>
    .outcome (c.read k rules).outcome :: replies depth k rules root (c.read k rules).cursor calls
  | c, .scanProps :: calls =>
    .scanProps (k.scanProps depth root) :: replies depth k rules root c calls

/-- The reply to a call behind some others: as many outcomes were given as there were reads. -/
def replyAt (depth : Nat) (k : Kind) (root : Value) (os : List Outcome) (before : List Call) :
    Call → Reply
  | .read => .outcome (.ok os[before.count .read]?)
  | .scanProps => .scanProps (k.scanProps depth root)

theorem replyAt_cons_read (depth : Nat) (k : Kind) (os : List Outcome) (before : List Call) :
    replyAt depth k root os (.read :: before) = replyAt depth k root os.tail before := by
  funext call
  cases call <;> simp [replyAt, List.getElem?_tail]

theorem replyAt_cons_scanProps (depth : Nat) (k : Kind) (os : List Outcome) (before : List Call) :
    replyAt depth k root os (.scanProps :: before) = replyAt depth k root os before := by
  funext call
  cases call <;> simp [replyAt]

theorem Cursor.replies_of_yields {depth : Nat} {k : Kind} {os : List Outcome}
    (h : c.Yields k rules os) (calls : List Call) (i : Nat) :
    (c.replies depth k rules root calls)[i]? =
      calls[i]?.map (replyAt depth k root os (calls.take i)) := by
  induction calls generalizing c os i with
  | nil => rfl
  | cons call calls ih =>
    cases call with
    | read =>
      cases i with
      | zero =>
        rw [replies, h.outcome]
        simp [replyAt, List.head?_eq_getElem?]
      | succ i =>
        rw [replies, List.getElem?_cons_succ, List.getElem?_cons_succ, List.take_succ_cons,
          replyAt_cons_read, ih h.tail]
    | scanProps =>
      cases i with
      | zero => rfl
      | succ i =>
        rw [replies, List.getElem?_cons_succ, List.getElem?_cons_succ, List.take_succ_cons,
          replyAt_cons_scanProps, ih h]

/-- **Rules stay in their run.** A log whose `runs` are an array or an object can be read, and each
read gives what an eager reading gives: result by result, run after run, each with the number that
the rules of its own run give to its rule name. It does not matter what was asked about the scan in
between. -/
theorem results_under_own_rules (depth : Nat) (rules : List Cleanup.Rule) (root : Value)
    (container : (root.field "runs").isContainer = true)
    (legible : Kind.sarif.Legible rules root) :
    ∃ c os, Cursor.start .sarif root = .ok c ∧ Sarif.eager root = os.map .ok ∧ ∀ calls i,
      (c.replies depth .sarif rules root calls)[i]? =
        calls[i]?.map (replyAt depth .sarif root os (calls.take i)) := by
  have start : Cursor.start .sarif root = .ok (.ofRuns (root.field "runs").children) := by
    simp [Cursor.start, Kind.records, Kind.recordsKey?, recordsUnder, container, Except.map]
  refine ⟨_, _, start, eager_eq legible, fun calls i => ?_⟩
  exact Cursor.replies_of_yields (Cursor.yields_start start legible) calls i

/-- Two runs with results, and between them something that is no run and a run without results. All
of the runs have a rule `R1`, the first one twice. -/
def reusedNames : Value :=
  let rule (id : Value) (cwe : Int) : Value :=
    .object [("id", id), ("properties", .object [("cwe", .int cwe)])]
  let run (rules results : List Value) : Value :=
    .object [("tool", .object [("driver", .object [("rules", .array rules)])]),
      ("results", .array results)]
  let result (id : Value) : Value := .object [("ruleId", id)]
  .object [("runs", .array
    [run [rule (.text "R1") 20, rule (.text "R1") 476] [result (.text "R1"), result (.text "R2")],
      .int 5, run [rule (.text "R1") 787] [],
      run [rule (.text "R2") 79, rule (.int 7) 22, rule (.text "7") 416]
        [result (.int 7), result (.text "R1"), .int 0]])]

/-- The later of two rules counts, a run that has no rule `R1` gives the number zero to it, and a
number as the name of a rule is not looked at. -/
theorem results_under_own_rules_reused :
    let found (id : String) (cwe : Int) : Status :=
      .decoded { checker := Sarif.warning, cwe
                 trace := [{ label := "warning", message := "<unknown> [" ++ id ++ "]" }] }
    let calls : List Call := [.read, .scanProps, .read, .read, .scanProps, .read, .read, .read]
    let os : List Outcome :=
      [{ index := 0, status := found "R1" 476 }, { index := 1, status := found "R2" 0 },
        { index := 2, status := found "7" 416 }, { index := 3, status := found "R1" 0 },
        { index := 4, status := .failed (.notObject "result") }]
    (reusedNames.field "runs").isContainer = true ∧ Kind.sarif.Legible [] reusedNames ∧
      Sarif.eager reusedNames = os.map .ok ∧
      ∃ c, Cursor.start .sarif reusedNames = .ok c ∧
        (c.replies 100 .sarif [] reusedNames calls)[2]? =
          some (.outcome (.ok (some { index := 1, status := found "R2" 0 }))) ∧
        (c.replies 100 .sarif [] reusedNames calls)[3]? =
          some (.outcome (.ok (some { index := 2, status := found "7" 416 }))) ∧
        (c.replies 100 .sarif [] reusedNames calls)[7]? = some (.outcome (.ok none)) := by
  intro found calls os
  have legible : Kind.sarif.Legible [] reusedNames :=
    Kind.legible_of_isOk (by decide +kernel) (by decide +kernel)
  obtain ⟨c, os', start, read, replies⟩ := results_under_own_rules 100 [] reusedNames rfl legible
  have eager : Sarif.eager reusedNames = os.map .ok := by decide +kernel
  obtain rfl : os' = os :=
    List.map_injective_iff.mpr (fun _ _ same => Except.ok.inj same) (read.symm.trans eager)
  refine ⟨rfl, legible, eager, c, start, ?_, ?_, ?_⟩ <;>
  · rw [replies]
    rfl

end Findings.Report
