/-!
The parts of a text between separators.

* `splitAt_of_not_mem`: a text without the separator is one part;
* `splitAt_append`: a part without the separator is found again in front of the others;
* `length_splitAt`: there is one part more than there are separators;
* `flatMap_splitAt`: with a separator behind each part, the parts are the text again.
-/

namespace Findings.Text

/-- The parts between separators; there is always one. -/
def splitAt (sep : Char) : List Char → List (List Char)
  | [] => [[]]
  | c :: cs =>
    if c = sep then [] :: splitAt sep cs
    else match splitAt sep cs with
      | [] => [[c]]
      | part :: parts => (c :: part) :: parts

/-- The parts between separators, last one first and in front of `parts`, without those that are
empty; `part` is the beginning of the first one, in reverse. -/
def filledPartsOnto (isSep : Char → Bool) (part : List Char) (parts : List (List Char)) :
    List Char → List (List Char)
  | [] => if part.isEmpty then parts else part.reverse :: parts
  | c :: cs =>
    if isSep c then
      filledPartsOnto isSep [] (if part.isEmpty then parts else part.reverse :: parts) cs
    else filledPartsOnto isSep (c :: part) parts cs

/-- The parts between separators that are not empty, last one first. -/
def filledPartsReversed (isSep : Char → Bool) (cs : List Char) : List (List Char) :=
  filledPartsOnto isSep [] [] cs

theorem splitAt_of_not_mem (sep : Char) (cs : List Char) (h : sep ∉ cs) :
    splitAt sep cs = [cs] := by
  induction cs with
  | nil => rfl
  | cons c cs ih =>
    simp only [List.mem_cons, not_or] at h
    simp [splitAt, Ne.symm h.1, ih h.2]

theorem splitAt_append (sep : Char) (part rest : List Char) (h : sep ∉ part) :
    splitAt sep (part ++ sep :: rest) = part :: splitAt sep rest := by
  induction part with
  | nil => simp [splitAt]
  | cons c cs ih =>
    simp only [List.mem_cons, not_or] at h
    simp [splitAt, Ne.symm h.1, ih h.2]

theorem length_splitAt (sep : Char) (cs : List Char) :
    (splitAt sep cs).length = cs.count sep + 1 := by
  induction cs with
  | nil => rfl
  | cons c cs ih =>
    simp only [splitAt, List.count_cons, beq_iff_eq]
    by_cases h : c = sep
    · rw [if_pos h, if_pos h, List.length_cons, ih]
    · rw [if_neg h, if_neg h, Nat.add_zero, ← ih]
      split
      · next none => simp [none] at ih
      · next some => rw [some, List.length_cons, List.length_cons]

theorem splitAt_ne_nil (sep : Char) (cs : List Char) : splitAt sep cs ≠ [] := by
  cases cs with
  | nil => simp [splitAt]
  | cons c cs =>
    simp only [splitAt]
    split
    · simp
    · split <;> simp

theorem flatMap_splitAt (sep : Char) (cs : List Char) :
    (splitAt sep cs).flatMap (· ++ [sep]) = cs ++ [sep] := by
  induction cs with
  | nil => simp [splitAt]
  | cons c cs ih =>
    simp only [splitAt]
    split
    · next same =>
      rw [List.flatMap_cons, ih, same, List.nil_append, List.singleton_append, List.cons_append]
    · split
      · next none => exact absurd none (splitAt_ne_nil sep cs)
      · next part parts some =>
        rw [some, List.flatMap_cons] at ih
        rw [List.flatMap_cons, List.cons_append, List.cons_append, ih, List.cons_append]

theorem subset_of_mem_splitAt (sep : Char) (cs part : List Char) (h : part ∈ splitAt sep cs) :
    part ⊆ cs := by
  induction cs generalizing part with
  | nil =>
    obtain rfl := List.mem_singleton.mp h
    exact List.Subset.refl []
  | cons c cs ih =>
    simp only [splitAt] at h
    split at h
    · rcases List.mem_cons.mp h with rfl | later
      · exact List.nil_subset _
      · exact List.subset_cons_of_subset c (ih part later)
    · split at h
      · next none => exact absurd none (splitAt_ne_nil sep cs)
      · next first parts some =>
        rw [some] at ih
        rcases List.mem_cons.mp h with rfl | later
        · exact List.cons_subset_cons c (ih first List.mem_cons_self)
        · exact List.subset_cons_of_subset c (ih part (List.mem_cons_of_mem first later))

end Findings.Text
