import Findings.Proofs.Cleanup.Frame
/-!
Clean-up by the standard rules, again and again.

* `meets_repeated`: what the rule for warnings of the analyzer sees in so many rounds;
* `rounds_eq`: the defect behind so many rounds;
* `rounds_of_le`: after one round for each weakness number, and one at least, nothing changes;
* `rounds_settle`: the main statement.
-/

namespace Findings.Cleanup

/-- The standard rules, so many times. -/
def rounds : Nat → Defect → Except Decimal.Oversize Defect
  | 0, d => .ok d
  | k + 1, d => run standard d >>= rounds k

/-- The rules of so many rounds. -/
def repeated (k : Nat) : List Rule := (List.replicate k standard).flatten

theorem repeated_succ (k : Nat) :
    repeated (k + 1) = Rule.cweSuffix :: Rule.analyzerClass :: repeated k := by
  simp [repeated, List.replicate_succ, standard]

theorem run_append (xs ys : List Rule) (d : Defect) :
    run (xs ++ ys) d = run xs d >>= run ys := by
  induction xs generalizing d with
  | nil => rfl
  | cons r xs ih =>
    rw [List.cons_append, run, run]
    cases r.apply d with
    | ok d => exact ih d
    | error o => rfl

theorem rounds_eq_run (k : Nat) (d : Defect) : rounds k d = run (repeated k) d := by
  induction k generalizing d with
  | zero => rfl
  | succ k ih =>
    have split : repeated (k + 1) = standard ++ repeated k := repeated_succ k
    rw [split, run_append, rounds]
    exact congrArg _ (funext ih)

theorem count_repeated (k : Nat) : (repeated k).count .cweSuffix = k := by
  induction k with
  | zero => rfl
  | succ k ih =>
    rw [repeated_succ, List.count_cons_self, List.count_cons_of_ne (by decide), ih]

/-- The first of some numbers that is not zero, or zero. -/
def firstNumber (ss : List Suffix) : Int := ((ss.map Suffix.number).find? (· ≠ 0)).getD 0

theorem weighed_zero (ss : List Suffix) : weighed 0 ss = firstNumber ss := by
  induction ss with
  | nil => rfl
  | cons s ss ih =>
    rw [weighed, if_pos rfl]
    by_cases zero : s.number = 0
    · rw [zero, Int.natCast_zero, ih]
      simp [firstNumber, zero]
    · rw [weighed_of_ne_zero (by omega)]
      simp [firstNumber, zero]

variable {d : Defect} {key : Event} {rest : List Event} {stem : List Char} {ss : List Suffix}

theorem meets_repeated (k : Nat) {message : String} (peeled : Peeled message.toList stem ss) :
    meets (repeated k) message = true ↔
      ∃ i, 1 ≤ i ∧ i ≤ k ∧ EndsInWarning (stacked stem (ss.drop i)) := by
  induction k generalizing message ss with
  | zero =>
    refine iff_of_false Bool.false_ne_true ?_
    rintro ⟨i, first, last, -⟩
    omega
  | succ k ih =>
    have shorter := peeled.shortened
    rw [repeated_succ, meets, meets, Bool.or_eq_true, ih shorter, endsInAnalyzer_iff, shorter.whole]
    constructor
    · rintro (now | ⟨i, first, last, later⟩)
      · exact ⟨1, Nat.le_refl 1, Nat.succ_pos k, now⟩
      · rw [List.drop_drop, Nat.add_comm] at later
        exact ⟨i + 1, Nat.succ_pos i, Nat.succ_le_succ last, later⟩
    · rintro ⟨i, first, last, found⟩
      obtain ⟨i, rfl⟩ := Nat.exists_eq_add_of_le' first
      cases i with
      | zero => exact .inl found
      | succ i =>
        refine .inr ⟨i + 1, Nat.succ_pos i, Nat.le_of_succ_le_succ last, ?_⟩
        rwa [List.drop_drop, Nat.add_comm]

theorem shortSuffixes_of_peeled (rules : List Rule) {message : String}
    (peeled : Peeled message.toList stem ss)
    (short : ∀ s ∈ ss, s.digits.length ≤ Decimal.maxDigits) :
    ShortSuffixes rules message := by
  intro done rest _ before digits suffixed
  obtain ⟨s, rfl, whole⟩ := (suffixed_iff _ _ _).mp suffixed
  rw [left_of_peeled done peeled] at whole
  cases remaining : ss.drop (done.count .cweSuffix) with
  | nil =>
    rw [remaining] at whole
    exact absurd whole (peeled.bare before s)
  | cons first others =>
    rw [remaining] at whole
    obtain ⟨-, rfl⟩ := append_text_inj whole
    exact short first (List.mem_of_mem_drop (remaining ▸ List.mem_cons_self))

section Closed

variable (ht : d.trace = key :: rest) (peeled : Peeled key.message.toList stem ss)
  (short : ∀ s ∈ ss, s.digits.length ≤ Decimal.maxDigits)

include ht peeled short

theorem rounds_eq (k : Nat) :
    rounds k d = .ok { d with
      checker := if d.checker = compilerWarning ∧ meets (repeated k) key.message then
        analyzerWarning else d.checker
      trace := { key with message := String.ofList (stacked stem (ss.drop k)) } :: rest
      cwe := weighed d.cwe (ss.take k) } := by
  obtain ⟨d', cleaned⟩ :=
    run_of_shortSuffixes _ d key rest ht (shortSuffixes_of_peeled (repeated k) peeled short)
  have message : left (repeated k) key.message = String.ofList (stacked stem (ss.drop k)) := by
    rw [← String.toList_inj, left_of_peeled _ peeled, count_repeated, String.toList_ofList]
  rw [rounds_eq_run, cleaned, run_eq ht peeled cleaned, message, count_repeated]

/-- Once all the numbers are gone, and the message was looked at without them, nothing changes. -/
theorem rounds_of_le {k : Nat} (h : max 1 ss.length ≤ k) :
    rounds k d = rounds (max 1 ss.length) d := by
  have gone {n : Nat} (h : ss.length ≤ n) : ss.drop n = [] ∧ ss.take n = ss :=
    ⟨List.drop_eq_nil_of_le h, List.take_of_length_le h⟩
  have all : ss.length ≤ max 1 ss.length := Nat.le_max_right 1 _
  have seen : meets (repeated k) key.message = meets (repeated (max 1 ss.length)) key.message := by
    rw [Bool.eq_iff_iff, meets_repeated k peeled, meets_repeated _ peeled]
    constructor
    · rintro ⟨i, first, last, found⟩
      by_cases early : i ≤ max 1 ss.length
      · exact ⟨i, first, early, found⟩
      · -- Behind the last number the message is the same in every round.
        rw [(gone (by omega)).1] at found
        exact ⟨_, Nat.le_max_left 1 _, Nat.le_refl _, by rwa [(gone all).1]⟩
    · rintro ⟨i, first, last, found⟩
      exact ⟨i, first, last.trans h, found⟩
  rw [rounds_eq ht peeled short, rounds_eq ht peeled short, seen, (gone all).1, (gone all).2,
    (gone (all.trans h)).1, (gone (all.trans h)).2]

/-- Where there are two numbers, the second round takes one of them. -/
theorem rounds_two_ne (h : 2 ≤ ss.length) : rounds 2 d ≠ rounds 1 d := by
  obtain ⟨a, b, others, rfl⟩ : ∃ a b others, ss = a :: b :: others := by
    match ss, h with
    | a :: b :: others, _ => exact ⟨a, b, others, rfl⟩
  rw [rounds_eq ht peeled short, rounds_eq ht peeled short]
  intro same
  have messages : stacked stem others = stacked stem others ++ b.text := by
    simpa [stacked, ← String.toList_inj] using congrArg Defect.trace (Except.ok.inj same)
  exact b.text_ne_nil (List.self_eq_append_right.mp messages)

end Closed

/-- **Round after round.** The message of the key event is a stem with some weakness numbers behind
it, in one way. If these can be read, each round takes the last of those that are left, as long as
there are any. The weakness number of the defect is as before, or it was zero and is the first of
those taken that is not zero, or zero if there is none. The checker changes just if it was that of
the compiler and one of the messages behind these rounds ends in the name of a warning of the
analyzer; it is that of the analyzer then. So the defect does not change any more after one round
for each number, and one at least, and the second round changes it just if there are two numbers. -/
theorem rounds_settle (d : Defect) (key : Event) (rest : List Event) (ht : d.trace = key :: rest) :
    ∃ stem ss, (∀ stem' ss', Peeled key.message.toList stem' ss' ↔ stem' = stem ∧ ss' = ss) ∧
      ((∀ s ∈ ss, s.digits.length ≤ Decimal.maxDigits) →
        (∀ k, ∃ d', rounds k d = .ok d' ∧
          d'.trace = { key with message := String.ofList (stacked stem (ss.drop k)) } :: rest ∧
          d'.annotation = d.annotation ∧
          (d.cwe ≠ 0 → d'.cwe = d.cwe) ∧ (d.cwe = 0 → d'.cwe = firstNumber (ss.take k)) ∧
          (d'.checker ≠ d.checker ↔ d.checker = compilerWarning ∧
            ∃ i, 1 ≤ i ∧ i ≤ k ∧ EndsInWarning (stacked stem (ss.drop i))) ∧
          (d'.checker ≠ d.checker → d'.checker = analyzerWarning)) ∧
        (∀ k, max 1 ss.length ≤ k → rounds k d = rounds (max 1 ss.length) d) ∧
        (rounds 2 d ≠ rounds 1 d ↔ 2 ≤ ss.length)) := by
  obtain ⟨stem, ss, peeled⟩ := exists_peeled key.message.toList
  refine ⟨stem, ss, fun stem' ss' => ⟨fun h => h.unique peeled, ?_⟩, fun short =>
    ⟨fun k => ⟨_, rounds_eq ht peeled short k, rfl, rfl, fun weighty => ?_, fun zero => ?_, ?_, ?_⟩,
      fun k h => rounds_of_le ht peeled short h, fun changed => ?_, rounds_two_ne ht peeled short⟩⟩
  · rintro ⟨rfl, rfl⟩
    exact peeled
  · exact weighed_of_ne_zero weighty _
  · rw [← weighed_zero, ← zero]
  · rw [← meets_repeated k peeled]
    dsimp only
    split
    · next recast =>
      refine iff_of_true ?_ recast
      rw [recast.1]
      decide
    · next kept => exact iff_of_false (fun changed => changed rfl) kept
  · dsimp only
    split
    · exact fun _ => rfl
    · exact fun changed => absurd rfl changed
  · refine Nat.le_of_not_lt fun few => changed ?_
    have once : max 1 ss.length = 1 := by omega
    have settled := rounds_of_le ht peeled short (k := 2) (by omega)
    rwa [once] at settled

/-- A message with three weakness numbers behind the name of a warning, the last of them zero. -/
def layered : Event :=
  { label := "warning", file := "a.c"
    message := "p [-Wanalyzer-leak] [CWE-7]\n [CWE-0401] [CWE-00]\n" }

/-- Its numbers, the last one first. -/
def layers : List Suffix :=
  [⟨['0', '0'], true, nofun, List.all_eq_true.mp rfl⟩,
    ⟨['0', '4', '0', '1'], false, nofun, List.all_eq_true.mp rfl⟩,
    ⟨['7'], true, nofun, List.all_eq_true.mp rfl⟩]

theorem peeled_layered : Peeled layered.message.toList "p [-Wanalyzer-leak]".toList layers where
  whole := by decide +kernel
  bare := (splitCwe?_eq_none_iff _).mp (by decide +kernel)

/-- Three rounds take the numbers, of which the second one counts, and the third round sees the name
of the warning. -/
theorem rounds_settle_layered :
    let d : Defect := { checker := compilerWarning, trace := [layered] }
    d.trace = [layered] ∧ (∀ s ∈ layers, s.digits.length ≤ Decimal.maxDigits) ∧
    (∃ d', rounds 3 d = .ok d' ∧
      d'.trace = [{ layered with message := String.ofList "p [-Wanalyzer-leak]".toList }] ∧
      d'.cwe = 401 ∧ d'.checker = analyzerWarning) ∧
    (∀ k, 3 ≤ k → rounds k d = rounds 3 d) ∧ rounds 2 d ≠ rounds 1 d := by
  intro d
  obtain ⟨stem, ss, only, settle⟩ := rounds_settle d layered [] rfl
  obtain ⟨rfl, rfl⟩ := (only _ _).mp peeled_layered
  have short : ∀ s ∈ layers, s.digits.length ≤ Decimal.maxDigits := by decide
  obtain ⟨closed, stable, second⟩ := settle short
  obtain ⟨d', cleaned, trace, -, -, number, changed, recast⟩ := closed 3
  have named : EndsInWarning "p [-Wanalyzer-leak]".toList :=
    (endsInAnalyzer_iff _).mp (by decide +kernel)
  refine ⟨rfl, short, ⟨d', cleaned, trace, ?_, ?_⟩, stable, second.mpr (by decide)⟩
  · rw [number rfl]
    decide
  · exact recast (changed.mpr ⟨rfl, 3, by decide, Nat.le_refl 3, named⟩)

end Findings.Cleanup
