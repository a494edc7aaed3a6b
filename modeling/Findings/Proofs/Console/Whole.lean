import Findings.Console.Table
import Findings.Proofs.Console.Escaping
import Findings.Proofs.Steps
/-!
The usual console shows no halves of surrogate pairs that were not in what it was given: every
character that it shows comes from there, or is a blank, a line, a sign or an ellipsis of its own.

* `whole_line`, `whole_rule`, `Table.whole_draw`: text that is shown;
* `Markup.whole_escape`: text that is escaped;
* `Writer.standard_lawful`: the usual console is one that the program can rely on.
-/

namespace Findings.Console

open Text (Whole)
open Text.Point (isStandIn)

/-- No stand-ins are among the characters. -/
def Mean (cs : List Char) : Prop := ∀ c ∈ cs, isStandIn c = false

instance (cs : List Char) : Decidable (Mean cs) :=
  decidable_of_iff (cs.all fun c => !isStandIn c) (by simp [Mean])

variable {cs ds : List Char} {c : Char}

theorem whole_ofList : Whole (String.ofList cs) ↔ Mean cs := by
  rw [Whole, Text.Lacks, String.toList_ofList, Mean]

namespace Mean

theorem subset (h : Mean cs) (fewer : ds ⊆ cs) : Mean ds := fun c mem => h c (fewer mem)

@[simp] theorem nil_iff : Mean [] ↔ True := by simp [Mean]

@[simp] theorem cons_iff : Mean (c :: cs) ↔ isStandIn c = false ∧ Mean cs := List.forall_mem_cons

@[simp] theorem append_iff : Mean (cs ++ ds) ↔ Mean cs ∧ Mean ds := List.forall_mem_append

theorem replicate (n : Nat) (h : isStandIn c = false) : Mean (List.replicate n c) :=
  fun _ mem => (List.eq_of_mem_replicate mem).symm ▸ h

theorem flatMap {α : Type} {xs : List α} {f : α → List Char} (h : ∀ x ∈ xs, Mean (f x)) :
    Mean (xs.flatMap f) := by
  intro c mem
  obtain ⟨x, there, mem⟩ := List.mem_flatMap.mp mem
  exact h x there c mem

theorem take (h : Mean cs) (n : Nat) : Mean (cs.take n) := h.subset (List.take_subset n cs)

theorem drop (h : Mean cs) (n : Nat) : Mean (cs.drop n) := h.subset (List.drop_subset n cs)

end Mean

/-! ## Markup -/

namespace Markup

/-- The characters of a piece, backslashes before a tag apart. -/
def Piece.content : Piece → List Char
  | plain cs => cs
  | tag _ cs => cs

theorem mean_addPlain {ps : List Piece} (first : isStandIn c = false)
    (h : ∀ p ∈ ps, Mean p.content) : ∀ p ∈ addPlain c ps, Mean p.content := by
  match ps with
  | [] => simpa [addPlain, Piece.content] using first
  | .plain cs :: ps =>
    obtain ⟨head, others⟩ := List.forall_mem_cons.mp h
    exact List.forall_mem_cons.mpr ⟨Mean.cons_iff.mpr ⟨first, head⟩, others⟩
  | .tag n cs :: ps =>
    exact List.forall_mem_cons.mpr ⟨by simpa [Piece.content] using first, h⟩

theorem mean_foldr_addPlain {ps : List Piece} (first : Mean cs)
    (h : ∀ p ∈ ps, Mean p.content) : ∀ p ∈ cs.foldr addPlain ps, Mean p.content := by
  induction cs with
  | nil => exact h
  | cons c cs ih =>
    obtain ⟨head, others⟩ := Mean.cons_iff.mp first
    exact mean_addPlain head (ih others)

theorem mean_slashes (k : Nat) : Mean (slashes k) := .replicate k rfl

theorem mean_pieces (h : Mean cs) : ∀ p ∈ pieces cs, Mean p.content := by
  have all := spelled cs
  induction all with
  | ends k =>
    have plain := pieces_plain k (s := []) (by simp) rfl
    rw [List.append_nil] at plain
    rw [plain]
    exact mean_foldr_addPlain (mean_slashes k) nofun
  | tag k tag behind ih =>
    rw [Mean.append_iff, Mean.append_iff] at h
    rw [pieces_tag k tag]
    exact List.forall_mem_cons.mpr ⟨h.2.1, ih h.2.2⟩
  | plain k other none behind ih =>
    rw [Mean.append_iff, Mean.cons_iff] at h
    rw [pieces_plain k (by simpa using other) none, pieces_cons other none]
    exact mean_foldr_addPlain (mean_slashes k) (mean_addPlain h.2.1 (ih h.2.2))

theorem whole_escape {s : String} (h : Whole s) : Whole (escape s) := by
  have body : Mean ((pieces s.toList).flatMap Piece.escape) := by
    refine .flatMap fun p mem => ?_
    have content := mean_pieces h p mem
    cases p with
    | plain cs => exact content
    | tag n cs => exact Mean.append_iff.mpr ⟨mean_slashes _, content⟩
  rw [escape, whole_ofList]
  rcases guardEnd_cases ((pieces s.toList).flatMap Piece.escape) with same | ⟨guarded, -⟩
  · rwa [same]
  · rw [guarded]
    exact Mean.append_iff.mpr ⟨body, mean_slashes 1⟩

/-! ### Showing -/

theorem mean_ofName? {name : String} {sign : List Char} (h : Sign.ofName? name = some sign) :
    Mean sign := by
  rw [Sign.ofName?, Option.filter_eq_some_iff] at h
  simpa [Mean] using h.2

theorem mean_forms : ∀ form ∈ forms, isStandIn form.2 = false := by decide

theorem mean_signOf? {name sign : List Char} (h : signOf? name = some sign) : Mean sign := by
  unfold signOf? at h
  dsimp only at h
  split at h
  · next base mark found =>
    obtain ⟨form, mem, found⟩ := List.exists_of_findSome?_eq_some found
    obtain ⟨_, -, same⟩ := Option.map_eq_some_iff.mp found
    obtain ⟨rfl, rfl⟩ := Prod.mk.inj same
    obtain ⟨sign, named, rfl⟩ := Option.map_eq_some_iff.mp h
    simp [mean_ofName? named, mean_forms form mem]
  · exact mean_ofName? h

theorem mean_withSignsAfter (n : Nat) (h : Mean cs) : Mean (withSignsAfter n cs) := by
  fun_induction withSignsAfter n cs with
  | case1 => exact h
  | case2 _ _ _ ih => exact ih (Mean.cons_iff.mp h).2
  | case3 c cs name both ih =>
    obtain ⟨first, others⟩ := Mean.cons_iff.mp h
    refine Mean.append_iff.mpr ⟨?_, ih others⟩
    have spelled : Mean (c :: name ++ [':']) := by
      have inner : Mean name := by
        simp only [name, both.1, if_true]
        exact others.subset (List.takeWhile_subset _)
      simp [first, inner, show isStandIn ':' = false from rfl]
    cases sign : signOf? name with
    | none => exact spelled
    | some sign => exact mean_signOf? ‹_›
  | case4 c cs name other ih =>
    obtain ⟨first, others⟩ := Mean.cons_iff.mp h
    exact Mean.cons_iff.mpr ⟨first, ih others⟩

theorem mean_bareBrackets (h : Mean cs) : Mean (bareBrackets cs) := by
  fun_induction bareBrackets cs <;> simp_all

theorem mean_shownPlain (h : Mean cs) : Mean (shownPlain cs) :=
  mean_withSignsAfter 0 (mean_bareBrackets h)

theorem mean_shown (h : Mean cs) : Mean (shown cs) := by
  rw [shown]
  split
  · refine .flatMap fun p mem => ?_
    have content := mean_pieces h p mem
    cases p with
    | plain cs => exact mean_shownPlain content
    | tag n cs =>
      refine Mean.append_iff.mpr ⟨mean_slashes _, ?_⟩
      split
      · exact mean_shownPlain content
      · simp
  · exact mean_withSignsAfter 0 h

end Markup

theorem mean_visible {markup : String} (h : Whole markup) : Mean (visible markup) :=
  (Markup.mean_shown h).subset (List.filter_subset_self _)

/-! ## Lines -/

theorem mean_joinTabs (column : Nat) {parts : List (List Char)} (h : ∀ part ∈ parts, Mean part) :
    Mean (joinTabs column parts) := by
  fun_induction joinTabs column parts with
  | case1 => exact Mean.nil_iff.mpr trivial
  | case2 _ part => exact h part List.mem_cons_self
  | case3 column part parts _ part' reached ih =>
    obtain ⟨first, others⟩ := List.forall_mem_cons.mp h
    have blank : Mean [' '] := .replicate 1 rfl
    have longer : Mean part' := Mean.append_iff.mpr ⟨first, blank⟩
    exact Mean.append_iff.mpr ⟨Mean.append_iff.mpr ⟨longer, .replicate _ rfl⟩, ih others⟩

theorem mean_splitAt (sep : Char) (h : Mean cs) : ∀ part ∈ Text.splitAt sep cs, Mean part :=
  fun _ mem => h.subset (Text.subset_of_mem_splitAt _ _ _ mem)

theorem mean_rows (h : Mean cs) : ∀ row ∈ rows cs, Mean row := by
  intro row mem
  obtain ⟨part, there, rfl⟩ := List.mem_map.mp mem
  exact mean_joinTabs 0 (mean_splitAt '\t' (mean_splitAt '\n' h part there))

theorem whole_unlines {rs : List (List Char)} (h : ∀ row ∈ rs, Mean row) : Whole (unlines rs) := by
  rw [unlines, whole_ofList]
  refine .flatMap fun row mem => ?_
  simp [h row mem, show isStandIn '\n' = false from rfl]

theorem whole_line {markup : String} (h : Whole markup) : Whole (line markup) :=
  whole_unlines (mean_rows (mean_visible h))

theorem whole_rule {title : String} (h : Whole title) : Whole (rule title) := by
  refine whole_unlines (List.forall_mem_singleton.mpr ?_)
  have mean : Mean title.toList := h
  have line (n : Nat) : Mean (List.replicate n '─') := .replicate n (by decide)
  simp [mean, line, show isStandIn ' ' = false from rfl]

/-! ## Paragraphs -/

theorem mean_padded (room : Nat) (h : Mean cs) : Mean (padded room cs) :=
  Mean.append_iff.mpr ⟨h, .replicate _ rfl⟩

theorem mean_cutAfter (room : Nat) (ks : List Cluster) (h : Mean cs) :
    Mean (cutAfter room ks cs) := by
  fun_induction cutAfter room ks cs with
  | case1 | case2 => exact Mean.nil_iff.mpr trivial
  | case3 _ k _ _ _ _ ih => exact Mean.append_iff.mpr ⟨h.take _, ih (h.drop _)⟩
  | case4 => exact .replicate 1 rfl

theorem mean_fitted (room : Nat) (h : Mean cs) : Mean (fitted room cs) := by
  rw [fitted]
  split
  · exact mean_padded room h
  · exact mean_cutAfter room _ h

namespace Paragraph

theorem mean_words (h : Mean cs) : ∀ w ∈ words cs, Mean w := by
  induction cs with
  | nil => nofun
  | cons c cs ih =>
    obtain ⟨first, others⟩ := Mean.cons_iff.mp h
    have behind := ih others
    rw [words]
    split
    · simpa using first
    · next w ws cut =>
      rw [cut] at behind
      obtain ⟨head, tail⟩ := List.forall_mem_cons.mp behind
      split
      · simp_all
      · simp_all

theorem mean_joinLead {ws : List (List Char)} (h : ∀ w ∈ ws, Mean w) :
    ∀ w ∈ joinLead ws, Mean w := by
  unfold joinLead
  split
  · split <;> simp_all
  · exact h

theorem mean_fill (room used : Nat) {begun : List Char} {ws : List (List Char)}
    (first : Mean begun) (h : ∀ w ∈ ws, Mean w) : ∀ l ∈ fill room used begun ws, Mean l := by
  fun_induction fill room used begun ws <;> simp_all

theorem mean_truncate (room : Nat) (h : Mean cs) : Mean (truncate room cs) := by
  rw [truncate]
  split
  · exact h
  · simp [mean_fitted _ h, show isStandIn '…' = false by decide]

theorem mean_withoutBlankEnd (h : Mean cs) : Mean (withoutBlankEnd cs) := by
  refine h.subset fun c mem => ?_
  exact List.mem_reverse.mp (List.dropWhile_subset _ (List.mem_reverse.mp mem))

theorem mean_align (a : Alignment) (room : Nat) (h : Mean cs) : Mean (align a room cs) := by
  unfold align
  refine mean_fitted room ?_
  cases a with
  | left => exact mean_padded room (mean_truncate room h)
  | right =>
    exact Mean.append_iff.mpr
      ⟨.replicate _ rfl, mean_truncate room (mean_withoutBlankEnd h)⟩

theorem mean_lines (a : Alignment) (room : Nat) (h : Mean cs) :
    ∀ l ∈ lines a room cs, Mean l := by
  intro l mem
  obtain ⟨row, there, mem⟩ := List.mem_flatMap.mp mem
  obtain ⟨filled, there', rfl⟩ := List.mem_map.mp mem
  have full := mean_fill room 0 (Mean.nil_iff.mpr trivial)
    (mean_joinLead (mean_words (mean_rows h row there))) filled there'
  exact mean_align a room (full.take _)

end Paragraph

/-! ## Tables -/

theorem mean_intercalate {sep : List Char} {parts : List (List Char)} (between : Mean sep)
    (h : ∀ part ∈ parts, Mean part) : Mean (sep.intercalate parts) := by
  induction parts with
  | nil => exact Mean.nil_iff.mpr trivial
  | cons part parts ih =>
    obtain ⟨first, others⟩ := List.forall_mem_cons.mp h
    cases parts with
    | nil => simpa [List.intercalate] using first
    | cons next parts =>
      rw [List.intercalate_cons_cons]
      simp only [Mean.append_iff]
      exact ⟨⟨first, between⟩, ih others⟩

namespace Table

theorem mean_border {left filling crossing right : Char} (ws : List Nat)
    (h : Mean [left, filling, crossing, right]) :
    Mean (border left filling crossing right ws) := by
  simp only [Mean.cons_iff] at h
  obtain ⟨first, fill, cross, last, -⟩ := h
  have middle : Mean ([crossing].intercalate (ws.map fun w => List.replicate w filling)) := by
    refine mean_intercalate (.replicate 1 cross) fun part mem => ?_
    obtain ⟨w, -, rfl⟩ := List.mem_map.mp mem
    exact .replicate w fill
  simp [border, first, last, middle]

theorem mean_drawRow {edge : Char} (first : isStandIn edge = false)
    {cells : List (Alignment × Nat × List Char)} (h : ∀ cell ∈ cells, Mean cell.2.2) :
    ∀ row ∈ drawRow edge cells, Mean row := by
  intro row mem
  obtain ⟨i, -, rfl⟩ := List.mem_map.mp mem
  have blank : isStandIn ' ' = false := rfl
  have between : Mean [edge] := .replicate 1 first
  refine Mean.append_iff.mpr ⟨Mean.cons_iff.mpr ⟨first, mean_intercalate between ?_⟩, between⟩
  intro text mem
  obtain ⟨_, there, rfl⟩ := List.mem_map.mp mem
  obtain ⟨⟨a, w, cell⟩, given, rfl⟩ := List.mem_map.mp there
  have shown : Mean ((Paragraph.lines a (w - padding) cell).getD i
      (List.replicate (w - padding) ' ')) := by
    rw [List.getD_eq_getElem?_getD]
    cases line : (Paragraph.lines a (w - padding) cell)[i]? with
    | none => exact .replicate _ blank
    | some shown =>
      exact Paragraph.mean_lines a _ (h (a, w, cell) given) shown (List.mem_of_getElem? line)
  exact Mean.append_iff.mpr ⟨Mean.cons_iff.mpr ⟨blank, shown⟩, .replicate 1 blank⟩

theorem mean_drawTitle (width : Nat) {title : String} (h : Text.Whole title) :
    Mean (drawTitle width title) := by
  have blanks (n : Nat) : Mean (List.replicate n ' ') := .replicate n rfl
  exact Mean.append_iff.mpr ⟨Mean.append_iff.mpr ⟨blanks _, h⟩, blanks _⟩

theorem whole_draw {t : Table} (h : t.Whole) : Text.Whole t.draw := by
  have row (edge : Char) (first : isStandIn edge = false) (texts : List String)
      (whole : ∀ text ∈ texts, Text.Whole text) :
      ∀ line ∈ drawRow edge ((t.columns.zip (t.widths.zip texts)).map fun p =>
        (p.1.alignment, p.2.1, visible p.2.2)), Mean line := by
    refine mean_drawRow first fun cell mem => ?_
    obtain ⟨⟨c, w, text⟩, there, rfl⟩ := List.mem_map.mp mem
    exact mean_visible (whole text (List.of_mem_zip (List.of_mem_zip there).2).2)
  have edge {left filling crossing right : Char} (h : Mean [left, filling, crossing, right]) :
      ∀ line ∈ [border left filling crossing right t.widths], Mean line :=
    List.forall_mem_singleton.mpr (mean_border _ h)
  have headings : ∀ text ∈ t.columns.map Column.heading, Text.Whole text := by
    intro text mem
    obtain ⟨c, there, rfl⟩ := List.mem_map.mp mem
    exact h.headings c there
  have body : ∀ line ∈ t.body.flatMap (fun cells => drawRow '│'
      ((t.columns.zip (t.widths.zip cells)).map fun p =>
        (p.1.alignment, p.2.1, visible p.2.2))), Mean line := by
    intro line mem
    obtain ⟨cells, there, mem⟩ := List.mem_flatMap.mp mem
    exact row '│' (by decide) cells (h.cells cells there) line mem
  refine whole_unlines (List.forall_mem_cons.mpr ⟨mean_drawTitle _ h.title, ?_⟩)
  refine List.forall_mem_cons.mpr ⟨mean_border _ (by decide), ?_⟩
  refine List.forall_mem_append.mpr ⟨List.forall_mem_append.mpr ⟨?_, ?_⟩, edge (by decide)⟩
  · exact row '┃' (by decide) _ headings
  · exact List.forall_mem_cons.mpr ⟨mean_border _ (by decide), body⟩

end Table

/-! ## The usual console -/

theorem checkedLine_of_sound {s : String} (h : Sound Markup.escape s) :
    checkedLine s = .ok (line s) := by rw [checkedLine, Markup.fault?_of_sound h]

theorem checkedLine_eq_ok {s t : String} (h : checkedLine s = .ok t) : t = line s := by
  unfold checkedLine at h
  split at h
  · cases h
  · exact (Except.ok.inj h).symm

theorem Table.checked_of_sound {t : Table} (h : t.Sound Markup.escape) :
    t.checked = .ok t.draw := by
  have none : t.body.flatten.findSome? (fun cell => Markup.fault? cell.toList) = none := by
    refine List.findSome?_eq_none_iff.mpr fun cell mem => ?_
    obtain ⟨row, there, mem⟩ := List.mem_flatten.mp mem
    exact Markup.fault?_of_sound (h.cells row there cell mem)
  rw [checked, none]

theorem Table.checked_eq_ok {t : Table} {s : String} (h : t.checked = .ok s) : s = t.draw := by
  unfold checked at h
  split at h
  · cases h
  · exact (Except.ok.inj h).symm

theorem PlainLine.sound {escape : String → String} {s : String} (h : PlainLine s) :
    Sound escape s := by
  obtain ⟨⟨_, -, plain⟩, -⟩ := h
  exact .run (.words plain.tagless)

theorem PlainLine.sound_below {escape : String → String} {s : String} (h : PlainLine s) :
    Sound escape ("\n" ++ s) := by
  obtain ⟨⟨_, -, plain⟩, -⟩ := h
  exact .run (.words (Tagless.append (by decide) plain.tagless))

theorem Writer.print_eq_ok_iff (s t : String) :
    standard.print s = .ok t ↔ checkedLine s = .ok t := mapError_eq_ok_iff _ _ _

theorem Writer.table_eq_ok_iff (t : Table) (s : String) :
    standard.table t = .ok s ↔ t.checked = .ok s := mapError_eq_ok_iff _ _ _

theorem Writer.standard_lawful : Writer.standard.Lawful where
  line s plain := by
    rw [print_eq_ok_iff, print_eq_ok_iff, checkedLine_of_sound plain.sound,
      checkedLine_of_sound plain.sound_below, plain.line_eq, plain.line_below_eq]
    exact ⟨rfl, rfl⟩
  bare s plain := Markup.escape_of_tagless plain
  print s sound := ⟨line s, (print_eq_ok_iff ..).mpr (checkedLine_of_sound sound)⟩
  rule title _ := ⟨Console.rule title, rfl⟩
  table t sound := ⟨t.draw, (table_eq_ok_iff ..).mpr (Table.checked_of_sound sound)⟩
  whole_escape s whole := Markup.whole_escape whole
  whole_print s t shown whole := by
    rw [checkedLine_eq_ok ((print_eq_ok_iff ..).mp shown)]
    exact whole_line whole
  whole_rule title t shown whole := Except.ok.inj shown ▸ whole_rule whole
  whole_table t s shown whole := by
    rw [Table.checked_eq_ok ((table_eq_ok_iff ..).mp shown)]
    exact Table.whole_draw whole

end Findings.Console
