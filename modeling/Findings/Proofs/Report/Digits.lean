import Findings.Report.Cursor
/-!
When a number is too long to be read: only for a run of more than `Decimal.maxDigits` digits.

* `digits_of_decode`, `digits_of_ruleTable`: so it is in decoding a record and in reading rules.
-/

namespace Findings.Report

open Json (Value)

variable {ε α β : Type}

/-- The fault `wrap o` stands only for runs of more than `Decimal.maxDigits` digits. -/
def Measured (wrap : Decimal.Oversize → ε) (x : Except ε α) : Prop :=
  ∀ o, x = .error (wrap o) → Decimal.maxDigits < o.digits

section Steps

variable {wrap : Decimal.Oversize → ε} {x : Except ε α}

theorem measured_ok (a : α) : Measured wrap (.ok a : Except ε α) :=
  nofun

theorem measured_bind {f : α → Except ε β} (hx : Measured wrap x)
    (hf : ∀ a, Measured wrap (f a)) : Measured wrap (x >>= f) := by
  intro o h
  cases x with
  | ok a => exact hf a o h
  | error e => exact hx o (congrArg Except.error (Except.error.inj h))

theorem measured_map (f : α → β) (hx : Measured wrap x) : Measured wrap (x.map f) := by
  intro o h
  cases x with
  | ok a => simp [Except.map] at h
  | error e => exact hx o (congrArg Except.error (Except.error.inj h))

end Steps

theorem measured_natural (cs : List Char) : Measured id (Decimal.natural cs) := by
  intro o h
  unfold Decimal.natural at h
  split at h
  · simp at h
  · next hlen =>
    have : ⟨cs.length⟩ = o := Except.error.inj h
    subst this
    exact Nat.lt_of_not_le hlen

/-- A number read from digits, as an integer. -/
theorem measured_integer (cs : List Char) :
    Measured id ((Decimal.natural cs).map fun n => (n : Int) : Except Decimal.Oversize Int) :=
  measured_map _ (measured_bind (measured_natural cs) fun _ => measured_ok _)

theorem measured_run (rules : List Cleanup.Rule) (d : Defect) :
    Measured id (Cleanup.run rules d) := by
  have move (d : Defect) (key : Event) : Measured id (Cleanup.moveCwe d key) := by
    unfold Cleanup.moveCwe
    split
    · exact measured_ok d
    · dsimp only
      split
      · exact measured_map _ (measured_bind (measured_natural _) fun _ => measured_ok _)
      · exact measured_ok _
  have apply (r : Cleanup.Rule) (d : Defect) : Measured id (r.apply d) := by
    unfold Cleanup.Rule.apply
    split
    · exact measured_ok d
    · exact move d _
    · exact measured_ok _
  induction rules generalizing d with
  | nil => exact measured_ok d
  | cons r rules ih =>
    rw [Cleanup.run]
    split
    · exact ih _
    · next e he =>
      intro o h
      exact apply r d o (he.trans h)

/-! ## Rules -/

theorem measured_tagCwe (tags : List Value) : Measured id (Sarif.tagCwe tags) := by
  fun_induction Sarif.tagCwe tags with
  | case1 => exact measured_ok 0
  | case2 => exact measured_integer _
  | case3 _ _ _ ih => exact ih
  | case4 _ _ _ ih => exact ih

theorem measured_ruleCwe (rule : Value) : Measured id (Sarif.ruleCwe rule) := by
  unfold Sarif.ruleCwe
  dsimp only
  split
  · exact measured_ok _
  · split
    · exact measured_integer _
    · split
      · exact measured_integer _
      · exact measured_tagCwe _
  · exact measured_tagCwe _

theorem measured_addRules (table : Sarif.RuleTable) (rules : List Value) :
    Measured id (Sarif.addRules table rules) := by
  fun_induction Sarif.addRules table rules with
  | case1 table => exact measured_ok table
  | case2 _ _ _ _ _ _ _ ih => exact ih
  | case3 _ rule _ _ _ o ho =>
    intro e h
    exact measured_ruleCwe rule e (ho.trans (congrArg Except.error (Except.error.inj h)))
  | case4 _ _ _ _ ih => exact ih

theorem digits_of_ruleTable (run : Value) : Measured id (Sarif.ruleTable run) :=
  measured_addRules [] _

/-! ## Records -/

theorem measured_ofField (x : Except RecordFault α) : Measured .oversize (ofField x) := by
  intro o h
  cases x <;> simp [ofField] at h

theorem measured_ofDigits {x : Except Decimal.Oversize α} (hx : Measured id x) :
    Measured .oversize (ofDigits x) := by
  intro o h
  cases x with
  | ok a => simp [ofDigits] at h
  | error e =>
    simp only [ofDigits, Except.error.injEq, DecodeFault.oversize.injEq] at h
    exact hx o (congrArg Except.error h)

theorem measured_issue (node : Value) : Measured .oversize (IssueTracker.defect node) := by
  have category (s : String) : Measured id (IssueTracker.category s) := by
    unfold IssueTracker.category
    dsimp only
    split
    · exact measured_natural _
    · exact measured_ok 0
  unfold IssueTracker.defect
  refine measured_bind (measured_ofField _) fun _ => ?_
  refine measured_bind (measured_ofField _) fun checker => ?_
  dsimp only
  split
  · exact nofun
  · refine measured_bind (measured_ofField _) fun trace => ?_
    refine measured_bind (measured_ofField _) fun shown => ?_
    exact measured_bind (measured_ofDigits (category shown)) fun cwe => measured_ok _

theorem digits_of_decode (k : Kind) (rules : List Cleanup.Rule) (table : Sarif.RuleTable)
    (node : Value) : Measured .oversize (k.decode rules table node) := by
  cases k with
  | native => exact measured_map _ (measured_ofField _)
  | issueTracker => exact measured_map _ (measured_issue node)
  | sarif => exact measured_map _ (measured_ofField _)
  | shellLinter =>
    refine measured_bind (measured_ofField _) fun event => ?_
    cases event with
    | none => exact measured_ok none
    | some event =>
      exact measured_bind (measured_ofDigits (measured_run rules _)) fun _ => measured_ok _
  | compiler =>
    refine measured_bind (measured_ofField _) fun raw => ?_
    cases raw with
    | none => exact measured_ok none
    | some d =>
      exact measured_bind (measured_ofDigits (measured_run rules d)) fun _ => measured_ok _

end Findings.Report
