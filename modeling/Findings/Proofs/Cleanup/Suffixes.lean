import Findings.Proofs.Report.Traces
import Mathlib.Data.List.TakeWhile
/-!
Weakness numbers at the end of a message.

* `splitCwe?_eq_some_iff`: the reader splits off a suffix just where there is one;
* `shortSuffixes_standard_iff`: which numbers have to be short under the standard rules;
* `run_of_shortSuffixes`: clean-up comes to an end where the numbers it takes are short enough.
-/

namespace Findings.Cleanup

/-! ## The end of a message -/

/-- What stands before the digits of a weakness number. -/
def opening : List Char := [' ', '[', 'C', 'W', 'E', '-']

/-- The text ends in a weakness number in brackets, or in one with a final line break behind it. -/
structure Suffixed (cs before digits : List Char) : Prop where
  some : digits ≠ []
  ascii : ∀ c ∈ digits, c.isDigit
  ends : cs = before ++ opening ++ digits ++ [']'] ∨ cs = before ++ opening ++ digits ++ [']', '\n']

theorem reversedBody_eq_bracket_iff (cs body : List Char) :
    reversedBody cs = ']' :: body ↔
      cs = body.reverse ++ [']'] ∨ cs = body.reverse ++ [']', '\n'] := by
  have back (xs : List Char) : cs.reverse = xs ↔ cs = xs.reverse := List.reverse_eq_iff
  have left : cs = body.reverse ++ [']'] ↔ cs.reverse = ']' :: body := by simp [back]
  have right : cs = body.reverse ++ [']', '\n'] ↔ cs.reverse = '\n' :: ']' :: body := by
    simp [back]
  rw [left, right, reversedBody]
  split
  · next rest eq => simp [eq]
  · next other =>
    constructor
    · exact .inl
    · rintro (same | broken)
      · exact same
      · exact absurd broken (other _)

/-- The suffix read backwards, as the reader meets it. -/
theorem splitCwe?_eq_some_iff_reversed (cs before digits : List Char) :
    splitCwe? cs = some (before, digits) ↔
      ∃ body, reversedBody cs = ']' :: body ∧ body.takeWhile Char.isDigit = digits.reverse ∧
        digits ≠ [] ∧ body.dropWhile Char.isDigit = opening.reverse ++ before.reverse := by
  constructor
  · intro h
    unfold splitCwe? at h
    split at h
    · next body bracket =>
      refine ⟨body, bracket, ?_⟩
      dsimp only at h
      split at h
      · cases h
      · next some =>
        split at h
        · next front rest =>
          obtain ⟨rfl, rfl⟩ := Prod.mk.inj (Option.some.inj h)
          refine ⟨by simp, by simpa using some, ?_⟩
          rw [rest, List.reverse_reverse]
          rfl
        · cases h
    · cases h
  · rintro ⟨body, bracket, run, some, rest⟩
    have filled : digits.isEmpty = false := by simpa using some
    simp [splitCwe?, bracket, run, rest, filled, opening]

theorem splitCwe?_eq_some_iff (cs before digits : List Char) :
    splitCwe? cs = some (before, digits) ↔ Suffixed cs before digits := by
  rw [splitCwe?_eq_some_iff_reversed]
  have turned (body : List Char)
      (h : body = digits.reverse ++ (opening.reverse ++ before.reverse)) :
      body.reverse = before ++ opening ++ digits := by
    rw [h, List.reverse_append, List.reverse_append]
    simp only [List.reverse_reverse]
  constructor
  · rintro ⟨body, bracket, run, some, rest⟩
    have whole : body = digits.reverse ++ (opening.reverse ++ before.reverse) := by
      rw [← run, ← rest, List.takeWhile_append_dropWhile]
    refine ⟨some, fun c mem => ?_, ?_⟩
    · exact List.mem_takeWhile_imp (run ▸ List.mem_reverse.mpr mem)
    · rw [← turned body whole]
      exact (reversedBody_eq_bracket_iff cs body).mp bracket
  · rintro ⟨some, ascii, ends⟩
    have ascii : ∀ c ∈ digits.reverse, c.isDigit := fun c mem => ascii c (List.mem_reverse.mp mem)
    refine ⟨_, (reversedBody_eq_bracket_iff cs _).mpr (turned _ rfl ▸ ends), ?_, some, ?_⟩
    · rw [List.takeWhile_append_of_pos ascii]
      simp [opening]
    · rw [List.dropWhile_append_of_pos ascii]
      simp [opening]

/-! ## Short numbers -/

/-- The numbers that the rules take from the message, each from what the rules before it have left,
have no more digits than can be read. -/
def ShortSuffixes (rules : List Rule) (message : String) : Prop :=
  ∀ done rest, rules = done ++ Rule.cweSuffix :: rest →
    ∀ before digits, Suffixed (left done message).toList before digits →
      digits.length ≤ Decimal.maxDigits

/-- The standard rules take one number at most. -/
theorem shortSuffixes_standard_iff (message : String) :
    ShortSuffixes standard message ↔ ∀ before digits, Suffixed message.toList before digits →
      digits.length ≤ Decimal.maxDigits := by
  constructor
  · intro h
    exact h [] [.analyzerClass] rfl
  · intro h done rest eq
    cases done with
    | nil => exact h
    | cons r done =>
      -- Behind the first rule there is no other of this kind.
      have mem : Rule.cweSuffix ∈ [Rule.analyzerClass] := by
        rw [(List.cons.inj eq).2]
        exact List.mem_append_right _ List.mem_cons_self
      exact absurd mem (by decide)

theorem ShortSuffixes.next {r : Rule} {rules : List Rule} {message : String}
    (h : ShortSuffixes (r :: rules) message) : ShortSuffixes rules (r.left message) := by
  intro done rest eq
  exact h (r :: done) rest (by rw [eq, List.cons_append])

theorem apply_of_shortSuffixes {r : Rule} {rules : List Rule} {d : Defect} {key : Event}
    {rest : List Event} (ht : d.trace = key :: rest) (h : ShortSuffixes (r :: rules) key.message) :
    ∃ d', r.apply d = .ok d' := by
  unfold Rule.apply
  rw [ht]
  cases r with
  | analyzerClass => exact ⟨_, rfl⟩
  | cweSuffix =>
    dsimp only
    rw [moveCwe]
    split
    · exact ⟨_, rfl⟩
    · next before digits split =>
      have short : digits.length ≤ Decimal.maxDigits :=
        h [] rules rfl before digits ((splitCwe?_eq_some_iff _ _ _).mp split)
      dsimp only
      rw [Decimal.natural, if_pos short]
      split <;> exact ⟨_, rfl⟩

theorem run_of_shortSuffixes (rules : List Rule) (d : Defect) (key : Event) (rest : List Event)
    (ht : d.trace = key :: rest) (h : ShortSuffixes rules key.message) :
    ∃ d', run rules d = .ok d' := by
  induction rules generalizing d key with
  | nil => exact ⟨d, rfl⟩
  | cons r rules ih =>
    obtain ⟨next, applied⟩ := apply_of_shortSuffixes ht h
    rw [run, applied]
    exact ih next _ (r.trace_apply d next key rest ht applied) h.next

end Findings.Cleanup
