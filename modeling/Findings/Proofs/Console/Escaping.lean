import Findings.Console.Line
import Findings.Proofs.Console.Lawful
import Mathlib.Data.List.Basic
/-!
What the usual console makes of plain text and of sound markup.

* `line_of_shown`: a text in which there is nothing to interpret is printed as it is;
* `Markup.Spelled`: how a text is made up of tags and other characters;
* `Markup.harmless_escape`: an escaped text closes nothing, whatever stands behind it;
* `Markup.harmless_of_sound`: so sound markup closes only what it opened.
-/

namespace Findings.Console

/-! ## Plain text -/

theorem Markup.withSigns_of_one_colon (cs : List Char) (one : cs.count ':' ≤ 1) :
    withSignsAfter 0 cs = cs := by
  induction cs with
  | nil => rfl
  | cons c cs ih =>
    rw [withSignsAfter]
    by_cases colon : c = ':'
    · subst colon
      rw [List.count_cons_self] at one
      have none : ':' ∉ cs := List.count_eq_zero.mp (by omega)
      rw [if_neg, ih (by omega)]
      rintro ⟨-, second⟩
      exact none (List.mem_of_mem_drop (List.mem_of_head? second))
    · rw [if_neg fun both => colon both.1, ih (Nat.le_trans List.count_le_count_cons one)]

theorem expandTabs_of_not_mem (cs : List Char) (h : '\t' ∉ cs) : expandTabs cs = cs := by
  rw [expandTabs, Text.splitAt_of_not_mem _ _ h, joinTabs]

/-- A text without brackets, tabs and hidden characters, and with one colon at most. -/
theorem line_of_shown {s : String} (each : ∀ c ∈ s.toList, (c ≠ '[' ∧ c ≠ '\t') ∧ isShown c = true)
    (one : s.toList.count ':' ≤ 1) : line s = s ++ "\n" := by
  have bracketless : s.toList.contains '[' = false := by
    simpa using fun mem => (each '[' mem).1.1 rfl
  have tabless : '\t' ∉ s.toList := fun mem => (each '\t' mem).1.2 rfl
  have shown : visible s = s.toList := by
    rw [visible, Markup.shown, bracketless, if_neg Bool.false_ne_true,
      Markup.withSigns_of_one_colon _ one, List.filter_eq_self]
    exact fun c mem => (each c mem).2
  have whole : (Text.splitAt '\n' s.toList).map expandTabs = Text.splitAt '\n' s.toList := by
    refine (List.map_congr_left fun part mem => ?_).trans (List.map_id _)
    have fewer := Text.subset_of_mem_splitAt _ _ _ mem
    exact expandTabs_of_not_mem part fun tab => tabless (fewer tab)
  rw [line, shown, rows, whole, unlines, Text.flatMap_splitAt, String.ofList_append,
    String.ofList_toList]

theorem shown_of_isPlain {c : Char} (h : isPlain c = true) :
    (c ≠ '[' ∧ c ≠ '\t') ∧ isShown c = true := by
  obtain ⟨bounds, bracket, -⟩ := bounds_of_isPlain h
  refine ⟨⟨bracket, ?_⟩, ?_⟩
  · rintro rfl
    exact absurd bounds.1 (by decide)
  · simp only [isShown, List.all_cons, List.all_nil, Bool.and_true, Bool.and_eq_true,
      decide_eq_true_eq]
    omega

theorem PlainLine.line_eq {s : String} (h : PlainLine s) : line s = s ++ "\n" := by
  obtain ⟨⟨n, one, plain⟩, -⟩ := h
  exact line_of_shown (fun c mem => shown_of_isPlain (List.all_eq_true.mp plain.plain c mem))
    (plain.count ▸ one)

theorem PlainLine.line_below_eq {s : String} (h : PlainLine s) :
    line ("\n" ++ s) = "\n" ++ s ++ "\n" := by
  obtain ⟨⟨n, one, plain⟩, -⟩ := h
  refine line_of_shown ?_ ?_
  · rw [String.toList_append]
    refine List.forall_mem_append.mpr ⟨List.forall_mem_singleton.mpr (by decide), fun c mem => ?_⟩
    exact shown_of_isPlain (List.all_eq_true.mp plain.plain c mem)
  · rw [String.toList_append, List.count_append, plain.count]
    exact Nat.le_trans (Nat.le_of_eq (Nat.zero_add n)) one

/-! ## Pieces -/

namespace Markup

variable {s t rest cs more : List Char} {c : Char}

theorem closing_eq_some {body : List Char} (h : closing s = some (body, rest)) :
    s = body ++ ']' :: rest ∧ ∀ more, closing (body ++ ']' :: more) = some (body, more) := by
  induction s generalizing body with
  | nil => cases h
  | cons c s ih =>
    rw [closing] at h
    split at h
    · next closes =>
      obtain ⟨rfl, rfl⟩ := Prod.mk.inj (Option.some.inj h)
      exact ⟨by rw [closes]; rfl, fun more => by simp [closing]⟩
    · next open_ =>
      split at h
      · cases h
      · next inner =>
        obtain ⟨⟨body', rest'⟩, found, same⟩ := Option.map_eq_some_iff.mp h
        obtain ⟨rfl, rfl⟩ := Prod.mk.inj same
        obtain ⟨rfl, again⟩ := ih found
        exact ⟨rfl, fun more => by simp [closing, open_, inner, again]⟩

/-- A tag begins with a bracket, and it is a tag whatever stands behind it. -/
theorem tag?_eq_some (h : tag? s = some t) :
    (∃ inside, t = '[' :: inside) ∧ (∃ rest, s = t ++ rest) ∧
      ∀ more, tag? (t ++ more) = some t := by
  unfold tag? at h
  split at h
  · next c cs =>
    split at h
    · next opens =>
      obtain ⟨⟨body, rest⟩, found, rfl⟩ := Option.map_eq_some_iff.mp h
      obtain ⟨rfl, again⟩ := closing_eq_some found
      refine ⟨⟨_, rfl⟩, ⟨rest, by simp⟩, fun more => ?_⟩
      simp [tag?, opens, again]
    · cases h
  · cases h

theorem piecesAfter_eq (n : Nat) (cs : List Char) : piecesAfter n cs = pieces (cs.drop n) := by
  induction n generalizing cs with
  | zero => rfl
  | succ n ih =>
    cases cs with
    | nil => rfl
    | cons c cs => exact ih cs

theorem slashes_succ (k : Nat) : slashes (k + 1) = '\\' :: slashes k := List.replicate_succ

theorem takeWhile_slashes (k : Nat) (h : s.head? ≠ some '\\') :
    (slashes k ++ s).takeWhile (· = '\\') = slashes k := by
  have none : s.takeWhile (· = '\\') = [] := by
    cases s with
    | nil => rfl
    | cons c s => exact List.takeWhile_cons_of_neg (by simpa using h)
  rw [List.takeWhile_append_of_pos fun c mem => by simpa using List.eq_of_mem_replicate mem, none,
    List.append_nil]

/-- The pieces of a text in front of which so many backslashes stand. -/
theorem pieces_slashes (k : Nat) (h : s.head? ≠ some '\\') (whole : slashes k ++ s = c :: cs) :
    pieces (slashes k ++ s) =
      match tag? s with
      | some t => .tag k t :: pieces (s.drop t.length)
      | none => addPlain c (pieces cs) := by
  have leading := takeWhile_slashes k h
  have behind : (slashes k ++ s).drop k = s := List.drop_left' (List.length_replicate ..)
  rw [whole] at leading behind ⊢
  have length : ((c :: cs).takeWhile (· = '\\')).length = k := by
    rw [leading]
    exact List.length_replicate ..
  rw [pieces, piecesAfter]
  simp only [length, behind]
  cases tag : tag? s with
  | none => rfl
  | some t =>
    obtain ⟨⟨inside, rfl⟩, -, -⟩ := tag?_eq_some tag
    have same : cs.drop (k + ('[' :: inside).length - 1) = s.drop ('[' :: inside).length := by
      rw [← behind, List.drop_drop, List.length_cons, ← Nat.add_assoc, List.drop_succ_cons]
      rfl
    simp only [piecesAfter_eq, same]

theorem pieces_tag (k : Nat) (tag : tag? (t ++ rest) = some t) :
    pieces (slashes k ++ (t ++ rest)) = .tag k t :: pieces rest := by
  obtain ⟨⟨inside, rfl⟩, -, -⟩ := tag?_eq_some tag
  obtain ⟨c, cs, whole⟩ : ∃ c cs, slashes k ++ ('[' :: inside ++ rest) = c :: cs :=
    List.exists_cons_of_ne_nil (by simp)
  rw [pieces_slashes k (by simp) whole, tag]
  simp

theorem pieces_cons (h : c ≠ '\\') (tag : tag? (c :: s) = none) :
    pieces (c :: s) = addPlain c (pieces s) := by
  have first := pieces_slashes 0 (s := c :: s) (by simpa using h) rfl
  rw [tag] at first
  exact first

/-- Backslashes in front of no tag are characters like others. -/
theorem pieces_plain (k : Nat) (h : s.head? ≠ some '\\') (tag : tag? s = none) :
    pieces (slashes k ++ s) = (slashes k).foldr addPlain (pieces s) := by
  induction k with
  | zero => rfl
  | succ k ih =>
    rw [pieces_slashes (k + 1) h (by rw [slashes_succ, List.cons_append]), tag]
    simp only [slashes_succ, ih, List.foldr_cons]

/-! ## Spelling -/

/-- A text from its end on: every tag comes with the backslashes in front of it, and every other
character that is no backslash likewise. -/
inductive Spelled : List Char → Prop where
  | ends (k : Nat) : Spelled (slashes k)
  | tag (k : Nat) {t rest : List Char} (tag : tag? (t ++ rest) = some t) (behind : Spelled rest) :
      Spelled (slashes k ++ (t ++ rest))
  | plain (k : Nat) {c : Char} {rest : List Char} (other : c ≠ '\\')
      (none : tag? (c :: rest) = none) (behind : Spelled rest) : Spelled (slashes k ++ c :: rest)

theorem exists_slashes (s : List Char) :
    ∃ k rest, s = slashes k ++ rest ∧ rest.head? ≠ some '\\' := by
  induction s with
  | nil => exact ⟨0, [], rfl, nofun⟩
  | cons c s ih =>
    by_cases h : c = '\\'
    · obtain ⟨k, rest, rfl, other⟩ := ih
      exact ⟨k + 1, rest, by rw [slashes_succ, h]; rfl, other⟩
    · exact ⟨0, c :: s, rfl, by simpa using h⟩

theorem spelled (s : List Char) : Spelled s := by
  obtain ⟨k, s, rfl, other⟩ := exists_slashes s
  cases tag : tag? s with
  | some t =>
    obtain ⟨⟨inside, rfl⟩, ⟨rest, rfl⟩, -⟩ := tag?_eq_some tag
    exact .tag k tag (spelled rest)
  | none =>
    cases s with
    | nil => simpa using Spelled.ends k
    | cons c rest => exact .plain k (by simpa using other) tag (spelled rest)
  termination_by s.length
  decreasing_by all_goals simp_all; omega

/-! ## Escaping -/

/-- The text with every tag escaped, but not yet guarded at its end. -/
def body (s : List Char) : List Char := (pieces s).flatMap Piece.escape

theorem escape_addPlain (c : Char) (ps : List Piece) :
    (addPlain c ps).flatMap Piece.escape = c :: ps.flatMap Piece.escape := by
  match ps with
  | [] | .plain _ :: _ | .tag _ _ :: _ => rfl

theorem escape_foldr_addPlain (cs : List Char) (ps : List Piece) :
    (cs.foldr addPlain ps).flatMap Piece.escape = cs ++ ps.flatMap Piece.escape := by
  induction cs with
  | nil => rfl
  | cons c cs ih => rw [List.foldr_cons, escape_addPlain, ih, List.cons_append]

theorem body_slashes (k : Nat) : body (slashes k) = slashes k := by
  have plain := pieces_plain k (s := []) (by simp) rfl
  rw [List.append_nil] at plain
  rw [body, plain, escape_foldr_addPlain]
  exact List.append_nil _

theorem body_tag (k : Nat) (tag : tag? (t ++ rest) = some t) :
    body (slashes k ++ (t ++ rest)) = slashes (2 * k + 1) ++ (t ++ body rest) := by
  rw [body, pieces_tag k tag, List.flatMap_cons, Piece.escape, List.append_assoc, body]

theorem body_plain (k : Nat) (other : c ≠ '\\') (none : tag? (c :: rest) = none) :
    body (slashes k ++ c :: rest) = slashes k ++ c :: body rest := by
  rw [body, pieces_plain k (by simpa using other) none, pieces_cons other none,
    escape_foldr_addPlain, escape_addPlain, body]

theorem guardEnd_cases (cs : List Char) :
    guardEnd cs = cs ∨ guardEnd cs = cs ++ slashes 1 ∧ '\\' ∈ cs := by
  unfold guardEnd
  split
  · exact .inl rfl
  · next last => exact .inr ⟨rfl, List.mem_reverse.mp (last ▸ List.mem_cons_self)⟩
  · exact .inl rfl

/-! ## No new tags -/

theorem closing_cons_iff (c : Char) (s : List Char) :
    closing (c :: s) = none ↔ c ≠ ']' ∧ (c = '[' ∨ closing s = none) := by
  rw [closing]
  split
  · next closes => simp [closes]
  · split <;> simp_all

theorem closing_slashes (k : Nat) (s : List Char) :
    closing (slashes k ++ s) = none ↔ closing s = none := by
  induction k with
  | zero => rfl
  | succ k ih =>
    rw [slashes_succ, List.cons_append, closing_cons_iff, ih]
    simp

theorem closing_bracket (s : List Char) : closing ('[' :: s) = none :=
  (closing_cons_iff '[' s).mpr ⟨by decide, .inl rfl⟩

theorem tag?_of_ne (h : '[' ≠ c) (more : List Char) : tag? (c :: more) = none := by
  unfold tag?
  split
  · next same => exact absurd (List.cons.inj same).1.symm h
  · rfl

/-- A bracket opens no tag if nothing closes it. -/
theorem tag?_of_unclosed (h : closing s = none) : tag? ('[' :: s) = none := by
  cases s with
  | nil => rfl
  | cons c s =>
    rw [closing_cons_iff] at h
    by_cases opens : opensTag c = true
    · have inner : c ≠ '[' := by
        rintro rfl
        cases opens
      simp [tag?, opens, h.2.resolve_left inner]
    · simp [tag?, opens]

/-- A bracket that nothing closes is not closed by escaping what is behind it. -/
theorem closing_body (spelled : Spelled s) (unclosed : closing more = none) (h : closing s = none) :
    closing (body s ++ more) = none := by
  induction spelled with
  | ends k => rwa [body_slashes, closing_slashes]
  | tag k tag behind ih =>
    obtain ⟨⟨inside, rfl⟩, -, -⟩ := tag?_eq_some tag
    rw [body_tag k tag, List.append_assoc, closing_slashes]
    exact closing_bracket _
  | plain k other none behind ih =>
    rw [closing_slashes, closing_cons_iff] at h
    rw [body_plain k other none, List.append_assoc, closing_slashes, List.cons_append,
      closing_cons_iff]
    exact ⟨h.1, h.2.imp_right ih⟩

/-- What is no tag does not become one by escaping what is behind it. -/
theorem tag?_body (spelled : Spelled s) (unclosed : closing more = none)
    (h : tag? (c :: s) = none) : tag? (c :: (body s ++ more)) = none := by
  by_cases bracket : c = '['
  · subst bracket
    -- Only the character behind the bracket can make a tag of it, unless it is a backslash.
    cases spelled with
    | ends k =>
      rw [body_slashes]
      exact tag?_of_unclosed ((closing_slashes k more).mpr unclosed)
    | tag k tag behind =>
      obtain ⟨⟨inside, rfl⟩, -, -⟩ := tag?_eq_some tag
      rw [body_tag k tag, List.append_assoc]
      exact tag?_of_unclosed ((closing_slashes _ _).mpr (closing_bracket _))
    | @plain k d rest other none behind =>
      rw [body_plain k other none, List.append_assoc, List.cons_append]
      cases k with
      | succ k => simp [tag?, slashes_succ, opensTag]
      | zero =>
        change tag? ('[' :: d :: (body rest ++ more)) = _
        change tag? ('[' :: d :: rest) = _ at h
        by_cases opens : opensTag d = true
        · simp only [tag?, opens, if_true, Option.map_eq_none_iff] at h ⊢
          exact closing_body behind unclosed h
        · simp [tag?, opens]
  · exact tag?_of_ne (Ne.symm bracket) _

/-! ## Closing tags -/

/-- With these names open, none of the pieces closes what is not. -/
def Harmless (opened : List (List Char)) (ps : List Piece) : Prop :=
  ∀ position, faultFrom opened position ps = none

variable {opened : List (List Char)} {ps : List Piece}

theorem Harmless.addPlain (h : Harmless opened ps) (c : Char) :
    Harmless opened (Markup.addPlain c ps) := by
  intro position
  match ps with
  | [] => rfl
  | .plain cs :: ps =>
    have rest := h (position + 1)
    rw [faultFrom] at rest
    rw [Markup.addPlain, faultFrom, List.length_cons, Nat.add_comm cs.length, ← Nat.add_assoc]
    exact rest
  | .tag n cs :: ps => exact h (position + 1)

theorem Harmless.foldr (h : Harmless opened ps) (cs : List Char) :
    Harmless opened (cs.foldr Markup.addPlain ps) := by
  induction cs with
  | nil => exact h
  | cons c cs ih => exact ih.addPlain c

/-- An odd number of backslashes takes away the meaning of a tag. -/
theorem Harmless.odd (h : Harmless opened ps) (k : Nat) (t : List Char) :
    Harmless opened (.tag (2 * k + 1) t :: ps) := by
  intro position
  have odd : (2 * k + 1) % 2 = 1 := by omega
  rw [faultFrom]
  simp only [odd, if_true]
  exact h _

/-- **Escaped text.** Its tags lose their meaning, and no other comes up where it ends; only a tag
behind it may be affected by the backslashes in front of it. -/
theorem harmless_body (spelled : Spelled s) (unclosed : closing more = none)
    (h : ∀ k, Harmless opened (pieces (slashes k ++ more))) :
    Harmless opened (pieces (body s ++ more)) := by
  induction spelled with
  | ends k =>
    rw [body_slashes]
    exact h k
  | @tag k t rest tag behind ih =>
    obtain ⟨-, -, again⟩ := tag?_eq_some tag
    rw [body_tag k tag, List.append_assoc, List.append_assoc, pieces_tag _ (again _)]
    exact ih.odd k t
  | plain k other none behind ih =>
    have still := tag?_body behind unclosed none
    rw [body_plain k other none, List.append_assoc, List.cons_append,
      pieces_plain k (by simpa using other) still, pieces_cons other still]
    exact (ih.addPlain _).foldr _

theorem harmless_escape (s : String) (unclosed : closing more = none)
    (h : ∀ k, Harmless opened (pieces (slashes k ++ more))) :
    Harmless opened (pieces ((escape s).toList ++ more)) := by
  have same : (escape s).toList = guardEnd (body s.toList) := String.toList_ofList
  rw [same]
  rcases guardEnd_cases (body s.toList) with plain | ⟨guarded, -⟩
  · rw [plain]
    exact harmless_body (spelled _) unclosed h
  · rw [guarded, List.append_assoc]
    refine harmless_body (spelled _) ((closing_slashes 1 more).mpr unclosed) fun k => ?_
    rw [← List.append_assoc, slashes, slashes, List.replicate_append_replicate]
    exact h (k + 1)

/-! ## Text without tags -/

/-- Characters without a tag or a backslash are pieces of plain text, whatever is behind them. -/
theorem pieces_append (bracketless : '[' ∉ s) (slashless : '\\' ∉ s) (more : List Char) :
    pieces (s ++ more) = s.foldr Markup.addPlain (pieces more) := by
  induction s with
  | nil => rfl
  | cons c s ih =>
    simp only [List.mem_cons, not_or] at bracketless slashless
    rw [List.cons_append, pieces_cons (Ne.symm slashless.1) (tag?_of_ne bracketless.1 _),
      ih bracketless.2 slashless.2, List.foldr_cons]

theorem Harmless.tagless (h : Harmless opened (pieces more)) {w : String} (plain : Tagless w) :
    Harmless opened (pieces (w.toList ++ more)) := by
  rw [pieces_append plain.1 plain.2]
  exact h.foldr _

theorem harmless_nil : Harmless opened (pieces []) := fun _ => rfl

/-- A text without tags and backslashes is its own escape. -/
theorem escape_of_tagless {w : String} (h : Tagless w) : escape w = w := by
  have plain := pieces_append h.1 h.2 []
  rw [List.append_nil] at plain
  have same : (pieces w.toList).flatMap Piece.escape = w.toList := by
    rw [plain, escape_foldr_addPlain]
    exact List.append_nil _
  rw [escape, same]
  rcases guardEnd_cases w.toList with unguarded | ⟨-, backslash⟩
  · rw [unguarded, String.ofList_toList]
  · exact absurd backslash h.2

/-- A bracket is closed neither by a text without brackets nor by what is behind that, if that one
has nothing to close it with. -/
theorem closing_append (bracketless : '[' ∉ s) (unclosed : ']' ∉ s)
    (behind : closing more = none) : closing (s ++ more) = none := by
  induction s with
  | nil => exact behind
  | cons c s ih =>
    simp only [List.mem_cons, not_or] at bracketless unclosed
    exact (closing_cons_iff c _).mpr
      ⟨Ne.symm unclosed.1, .inr (ih bracketless.2 unclosed.2)⟩

/-! ## Sound markup -/

/-- The tags of a style. -/
def openTag (style : String) : List Char := '[' :: style.toList ++ [']']

def endTag (style : String) : List Char := '[' :: '/' :: style.toList ++ [']']

theorem toList_styled (style inside : String) (more : List Char) :
    (styled style inside).toList ++ more =
      openTag style ++ (inside.toList ++ (endTag style ++ more)) := by
  simp [styled, openTag, endTag]

/-- Both tags of a style are tags, by the name of the style. -/
theorem tags_of_style : ∀ style ∈ styles,
    tag? (openTag style) = some (openTag style) ∧ tag? (endTag style) = some (endTag style) ∧
      tagName (openTag style) = style.toList ∧ tagName (endTag style) = '/' :: style.toList ∧
      normalName style.toList = style.toList ∧ style.toList.isEmpty = false ∧
      style.toList.head? ≠ some '/' := by
  decide +kernel

theorem harmless_openTag {style : String} (named : style ∈ styles)
    (h : Harmless (style.toList :: opened) (pieces more)) :
    Harmless opened (pieces (openTag style ++ more)) := by
  obtain ⟨opening, -, name, -, normal, -, first⟩ := tags_of_style style named
  obtain ⟨-, -, again⟩ := tag?_eq_some opening
  intro position
  rw [show pieces (openTag style ++ more) = .tag 0 (openTag style) :: pieces more from
    pieces_tag 0 (again more), faultFrom, if_neg (by decide), name]
  split
  · next closes => exact absurd (congrArg List.head? closes) first
  · rw [normal]
    exact h _

/-- The end of a style, whatever backslashes the text before it has left. -/
theorem harmless_endTag {style : String} (named : style ∈ styles) (k : Nat)
    (h : ∀ opened, Harmless opened (pieces more)) :
    Harmless (style.toList :: opened) (pieces (slashes k ++ (endTag style ++ more))) := by
  obtain ⟨-, ending, -, name, normal, full, -⟩ := tags_of_style style named
  obtain ⟨-, -, again⟩ := tag?_eq_some ending
  intro position
  rw [pieces_tag k (again more), faultFrom, name]
  simp only [normal, full]
  split
  · exact h _ _
  · simp only [Bool.false_eq_true, if_false, List.contains_cons, BEq.rfl, Bool.true_or, if_true,
      List.erase_cons_head]
    exact h _ _

/-- A run that is firm leaves what is behind it alone; any run does so but for its backslashes. -/
theorem harmless_of_run {firm : Bool} {s : String} (run : Run escape firm s)
    (unclosed : closing more = none)
    (h : ∀ k, firm = false ∨ k = 0 → Harmless opened (pieces (slashes k ++ more))) :
    Harmless opened (pieces (s.toList ++ more)) := by
  cases run with
  | words plain => exact (h 0 (.inr rfl)).tagless plain
  | @around w v s before behind unclosed' full =>
    rw [String.toList_append, String.toList_append, List.append_assoc, List.append_assoc]
    have closed := closing_append behind.1 unclosed' unclosed
    refine Harmless.tagless (harmless_escape s closed ?_) before
    intro k
    have rest : Harmless opened (pieces (v.toList ++ more)) := (h 0 (.inr rfl)).tagless behind
    obtain ⟨c, cs, listed⟩ := List.exists_cons_of_ne_nil (mt String.toList_eq_nil_iff.mp full)
    have first : '[' ≠ c ∧ '\\' ≠ c := by
      simp only [Tagless, listed, List.mem_cons, not_or] at behind
      exact ⟨behind.1.1, behind.2.1⟩
    rw [listed, List.cons_append] at rest ⊢
    rw [pieces_plain k (by simpa using first.2.symm) (tag?_of_ne first.1 _)]
    exact rest.foldr _
  | @escaped w s before =>
    rw [String.toList_append, List.append_assoc]
    exact Harmless.tagless (harmless_escape s unclosed fun k => h k (.inl rfl)) before

/-- **Sound markup** closes nothing but what it opened, whatever is open around it. -/
theorem harmless_of_sound {s : String} (h : Sound escape s) (opened : List (List Char)) :
    Harmless opened (pieces s.toList) := by
  have blank (k : Nat) (opened : List (List Char)) :
      Harmless opened (pieces (slashes k ++ [])) := by
    rw [pieces_plain k (by simp) rfl]
    exact harmless_nil.foldr _
  induction h generalizing opened with
  | run run => simpa using harmless_of_run run rfl fun k _ => blank k opened
  | @styled firm before style inside rest front named inner behind ih =>
    rw [String.toList_append, String.toList_append, List.append_assoc, toList_styled]
    refine harmless_of_run front (closing_bracket _) fun k firm => ?_
    obtain rfl := firm.resolve_left Bool.noConfusion
    refine harmless_openTag named (harmless_of_run inner (closing_bracket _) fun k _ => ?_)
    exact harmless_endTag named k ih

theorem fault?_of_sound {s : String} (h : Sound escape s) : fault? s.toList = none :=
  harmless_of_sound h [] 0

end Markup

end Findings.Console
