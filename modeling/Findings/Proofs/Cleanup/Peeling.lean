import Findings.Proofs.Cleanup.Suffixes
/-!
A message as a stem with weakness numbers behind it, and what the rules see of it and leave of it.

* `exists_peeled`, `Peeled.unique`: every text can be peeled, in one way;
* `Peeled.shortened`, `left_of_peeled`: each rule for weakness numbers takes one of them, from the
  end, while there are any;
* `endsInAnalyzer_iff`: the texts that end in the name of a warning of the analyzer.
-/

namespace Findings.Cleanup

/-- What stands behind the digits of a weakness number or the name of a warning; the final line
break, if there is one, goes with it. -/
def closing (broken : Bool) : List Char := if broken then [']', '\n'] else [']']

theorem reversedBody_eq_iff (cs body : List Char) :
    reversedBody cs = ']' :: body ↔ ∃ broken, cs = body.reverse ++ closing broken := by
  simp [reversedBody_eq_bracket_iff, closing]

/-! ## Weakness numbers -/

/-- A weakness number at the end of a text. -/
@[ext]
structure Suffix where
  digits : List Char
  broken : Bool
  some : digits ≠ []
  ascii : ∀ c ∈ digits, c.isDigit

namespace Suffix

def text (s : Suffix) : List Char := opening ++ s.digits ++ closing s.broken

def number (s : Suffix) : Nat := Nat.ofDigitChars 10 s.digits 0

theorem text_ne_nil (s : Suffix) : s.text ≠ [] := by
  simp [text, opening]

end Suffix

theorem suffixed_iff (cs before digits : List Char) :
    Suffixed cs before digits ↔ ∃ s : Suffix, s.digits = digits ∧ cs = before ++ s.text := by
  constructor
  · rintro ⟨some, ascii, ends | ends⟩
    · exact ⟨⟨digits, false, some, ascii⟩, rfl, by simpa [Suffix.text, closing] using ends⟩
    · exact ⟨⟨digits, true, some, ascii⟩, rfl, by simpa [Suffix.text, closing] using ends⟩
  · rintro ⟨⟨digits, broken, some, ascii⟩, rfl, rfl⟩
    refine ⟨some, ascii, ?_⟩
    cases broken
    · exact .inl (by simp [Suffix.text, closing])
    · exact .inr (by simp [Suffix.text, closing])

theorem splitCwe?_append (before : List Char) (s : Suffix) :
    splitCwe? (before ++ s.text) = some (before, s.digits) :=
  (splitCwe?_eq_some_iff _ _ _).mpr ((suffixed_iff _ _ _).mpr ⟨s, rfl, rfl⟩)

theorem append_text_inj {before before' : List Char} {s s' : Suffix}
    (h : before ++ s.text = before' ++ s'.text) : before = before' ∧ s = s' := by
  have read := splitCwe?_append before s
  rw [h, splitCwe?_append] at read
  obtain ⟨rfl, digits⟩ := Prod.mk.inj (Option.some.inj read)
  have text := List.append_cancel_left h
  rw [Suffix.text, Suffix.text, digits, List.append_cancel_left_eq] at text
  refine ⟨rfl, Suffix.ext digits.symm ?_⟩
  revert text
  cases s.broken <;> cases s'.broken <;> simp [closing]

/-- No weakness number stands at the end of the text. -/
def Bare (cs : List Char) : Prop := ∀ before (s : Suffix), cs ≠ before ++ s.text

theorem splitCwe?_eq_none_iff (cs : List Char) : splitCwe? cs = none ↔ Bare cs := by
  rw [Option.eq_none_iff_forall_ne_some]
  constructor
  · rintro none before s rfl
    exact none _ (splitCwe?_append before s)
  · rintro bare ⟨before, digits⟩ split
    obtain ⟨s, -, whole⟩ := (suffixed_iff _ _ _).mp ((splitCwe?_eq_some_iff _ _ _).mp split)
    exact bare before s whole

/-! ## Several of them -/

/-- The text with weakness numbers behind it, the last one first. -/
def stacked (stem : List Char) : List Suffix → List Char
  | [] => stem
  | s :: ss => stacked stem ss ++ s.text

theorem stacked_append (stem : List Char) (ss others : List Suffix) :
    stacked stem (ss ++ others) = stacked (stacked stem others) ss := by
  induction ss with
  | nil => rfl
  | cons s ss ih => rw [List.cons_append, stacked, stacked, ih]

theorem prefix_stacked (stem : List Char) (ss : List Suffix) : stem <+: stacked stem ss := by
  induction ss with
  | nil => exact List.prefix_rfl
  | cons s ss ih => exact ih.trans (List.prefix_append _ _)

/-- The text is the stem with these numbers behind it, and these are all there are. -/
structure Peeled (cs stem : List Char) (ss : List Suffix) : Prop where
  whole : cs = stacked stem ss
  bare : Bare stem

theorem exists_peeled (cs : List Char) : ∃ stem ss, Peeled cs stem ss := by
  by_cases bare : Bare cs
  · exact ⟨cs, [], rfl, bare⟩
  · simp only [Bare, not_forall, not_not] at bare
    obtain ⟨before, s, rfl⟩ := bare
    obtain ⟨stem, ss, rfl, none⟩ := exists_peeled before
    exact ⟨stem, s :: ss, rfl, none⟩
termination_by cs.length
decreasing_by
  have := List.length_pos_of_ne_nil s.text_ne_nil
  simp_all

theorem Peeled.unique {cs stem stem' : List Char} {ss ss' : List Suffix} (h : Peeled cs stem ss)
    (h' : Peeled cs stem' ss') : stem = stem' ∧ ss = ss' := by
  obtain ⟨rfl, bare⟩ := h
  obtain ⟨same, bare'⟩ := h'
  induction ss generalizing ss' with
  | nil =>
    cases ss' with
    | nil => exact ⟨same, rfl⟩
    | cons s' ss' => exact absurd same (bare _ s')
  | cons s ss ih =>
    cases ss' with
    | nil => exact absurd same.symm (bare' _ s)
    | cons s' ss' =>
      obtain ⟨below, rfl⟩ := append_text_inj same
      obtain ⟨rfl, rfl⟩ := ih below
      exact ⟨rfl, rfl⟩

/-! ## What rules leave of a message -/

theorem Peeled.shortened {message : String} {stem : List Char} {ss : List Suffix}
    (h : Peeled message.toList stem ss) :
    Peeled (Rule.cweSuffix.left message).toList stem (ss.drop 1) where
  whole := by
    rw [Rule.left, h.whole]
    cases ss with
    | nil =>
      rw [stacked, (splitCwe?_eq_none_iff _).mpr h.bare]
      exact h.whole
    | cons s ss =>
      rw [stacked, splitCwe?_append]
      exact String.toList_ofList
  bare := h.bare

theorem left_of_peeled (rules : List Rule) {message : String} {stem : List Char}
    {ss : List Suffix} (h : Peeled message.toList stem ss) :
    (left rules message).toList = stacked stem (ss.drop (rules.count .cweSuffix)) := by
  induction rules generalizing message ss with
  | nil => exact h.whole
  | cons r rules ih =>
    cases r with
    | analyzerClass => exact ih h
    | cweSuffix =>
      rw [List.count_cons_self, Nat.add_comm, ← List.drop_drop]
      exact ih h.shortened

/-! ## Warnings of the analyzer -/

/-- What stands before the name of a warning of the analyzer. -/
def analyzerOpening : List Char := " [-Wanalyzer-".toList

/-- The text ends in the name of a warning of the analyzer, in brackets. -/
def EndsInWarning (cs : List Char) : Prop :=
  ∃ before name broken, name ≠ [] ∧ ']' ∉ name ∧
    cs = before ++ analyzerOpening ++ name ++ closing broken

theorem occursBefore_iff (word cs : List Char) :
    occursBefore word cs = true ↔ ∃ before after, after ≠ [] ∧ cs = before ++ word ++ after := by
  induction cs with
  | nil => simp [occursBefore]
  | cons c cs ih =>
    rw [occursBefore, Bool.or_eq_true, ih]
    constructor
    · rintro (here | ⟨before, after, some, rfl⟩)
      · split at here
        · next x after found =>
          exact ⟨[], x :: after, by simp, (List.isPrefixOf?_eq_some_iff_append_eq.mp found).symm⟩
        · cases here
      · exact ⟨c :: before, after, some, rfl⟩
    · rintro ⟨before, after, some, whole⟩
      cases before with
      | nil =>
        rw [List.nil_append] at whole
        obtain ⟨x, after, rfl⟩ := List.exists_cons_of_ne_nil some
        exact .inl (by rw [List.isPrefixOf?_eq_some_iff_append_eq.mpr whole.symm])
      | cons b before =>
        obtain ⟨rfl, rfl⟩ := List.cons.inj whole
        exact .inr ⟨before, after, some, rfl⟩

/-- The end of the text read backwards, as the rule meets it. -/
theorem endsInAnalyzer_iff_reversed (cs : List Char) :
    endsInAnalyzer cs = true ↔ ∃ body, reversedBody cs = ']' :: body ∧
      ∃ before name, name ≠ [] ∧
        (body.takeWhile (· ≠ ']')).reverse = before ++ analyzerOpening ++ name := by
  rw [endsInAnalyzer]
  split
  · next body bracket =>
    simp only [bracket, List.cons.injEq, true_and, exists_eq_left']
    exact occursBefore_iff _ _
  · next other =>
    refine ⟨nofun, ?_⟩
    rintro ⟨body, bracket, -⟩
    exact absurd bracket (other body)

theorem endsInAnalyzer_iff (cs : List Char) : endsInAnalyzer cs = true ↔ EndsInWarning cs := by
  rw [endsInAnalyzer_iff_reversed]
  constructor
  · rintro ⟨body, bracket, before, name, some, last⟩
    obtain ⟨broken, rfl⟩ := (reversedBody_eq_iff _ _).mp bracket
    have whole : body.reverse =
        (body.dropWhile (· ≠ ']')).reverse ++ (before ++ analyzerOpening ++ name) := by
      rw [← last, ← List.reverse_append, List.takeWhile_append_dropWhile]
    refine ⟨(body.dropWhile (· ≠ ']')).reverse ++ before, name, broken, some, ?_, ?_⟩
    · intro mem
      have mem : ']' ∈ body.takeWhile (· ≠ ']') := by
        rw [← List.mem_reverse, last]
        exact List.mem_append_right _ mem
      simpa using List.mem_takeWhile_imp mem
    · rw [whole]
      simp only [List.append_assoc]
  · rintro ⟨before, name, broken, some, inside, rfl⟩
    refine ⟨(before ++ analyzerOpening ++ name).reverse, ?_,
      (before.reverse.takeWhile (· ≠ ']')).reverse, name, some, ?_⟩
    · exact (reversedBody_eq_iff _ _).mpr ⟨broken, by rw [List.reverse_reverse]⟩
    · have unclosed : ∀ c ∈ (analyzerOpening ++ name).reverse, decide (c ≠ ']') = true := by
        intro c mem
        refine decide_eq_true (ne_of_mem_of_not_mem mem ?_)
        rw [List.mem_reverse, List.mem_append, not_or]
        exact ⟨by decide, inside⟩
      rw [List.append_assoc, List.reverse_append, List.takeWhile_append_of_pos unclosed,
        List.reverse_append, List.reverse_reverse, List.append_assoc]

end Findings.Cleanup
