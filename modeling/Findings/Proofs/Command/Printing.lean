import Findings.Command.Listing
import Findings.Command.Pairing
import Findings.Proofs.Console.Lawful
/-!
What the commands print, on a console that does what it is for. All of it can be shown, unless an
address brings tags into it; and all of it can be written, unless a defect, a query or an address
has halves of surrogate pairs.

* `Outcome.printing_eq`: what is printed before an outcome, if all of it can be written;
* `Listing.header_fits`, `Listing.prints_fit`, `Listing.messages_prints`: a listing;
* `Pairing.heading_fits`, `Pairing.printing_prints`: a linking.
-/

namespace Findings

/-! ## Data -/

structure Event.Whole (e : Event) : Prop where
  label : Text.Whole e.label
  file : Text.Whole e.file
  message : Text.Whole e.message

/-- No text that is shown of the defect has halves of surrogate pairs. -/
structure Defect.Whole (d : Defect) : Prop where
  checker : Text.Whole d.checker
  trace : ∀ e ∈ d.trace, e.Whole

structure Query.Whole (q : Query) : Prop where
  checker : Text.Whole q.checker
  file : Text.Whole q.file

instance (e : Event) : Decidable e.Whole :=
  decidable_of_iff (Text.Whole e.label ∧ Text.Whole e.file ∧ Text.Whole e.message)
    ⟨fun h => ⟨h.1, h.2.1, h.2.2⟩, fun h => ⟨h.label, h.file, h.message⟩⟩

instance (d : Defect) : Decidable d.Whole :=
  decidable_of_iff (Text.Whole d.checker ∧ ∀ e ∈ d.trace, e.Whole)
    ⟨fun h => ⟨h.1, h.2⟩, fun h => ⟨h.checker, h.trace⟩⟩

namespace Command

open Console (Writer Sound Run PlainText PlainLine Tagless Table plainText_toString styled)
open Text (Lacks Whole)

/-- Addresses that bring neither tags nor halves of surrogate pairs with them. -/
structure Addresses.Fit (a : Addresses) : Prop where
  defect : Tagless a.defect ∧ Whole a.defect
  checker : Tagless a.checker ∧ Whole a.checker

instance (a : Addresses) : Decidable a.Fit :=
  decidable_of_iff ((Tagless a.defect ∧ Whole a.defect) ∧ Tagless a.checker ∧ Whole a.checker)
    ⟨fun h => ⟨h.1, h.2⟩, fun h => ⟨h.defect, h.checker⟩⟩

theorem whole_toString (n : Int) : Whole (toString n) := (plainText_toString n).lacks.whole

theorem tagless_toString (n : Int) : Tagless (toString n) := (plainText_toString n).tagless

theorem whole_styled {style inside : String} (named : style ∈ Console.styles)
    (h : Whole inside) : Whole (styled style inside) := by
  have whole : ∀ style ∈ Console.styles, Whole style := by decide
  have bracket : Whole "[" := by decide
  have closing : Whole "[/" := by decide
  have ending : Whole "]" := by decide
  have front := (bracket.append (whole style named)).append ending
  have behind := closing.append (whole style named)
  rw [styled, String.append_assoc, String.append_assoc]
  exact (front.append h).append (behind.append ending)

theorem whole_listing {e : Event} (h : e.Whole) : Whole e.listing := by
  have colon : Whole ":" := by decide
  have blank : Whole " " := by decide
  have spaced : Whole ": " := by decide
  have place := ((h.file.append colon).append (whole_toString e.line)).append colon
  have rest {s : String} (place : Whole s) : Whole (s ++ " " ++ e.label ++ ": " ++ e.message) :=
    (((place.append blank).append h.label).append spaced).append h.message
  rw [Event.listing]
  split
  · exact rest ((place.append (whole_toString e.column)).append colon)
  · exact rest place

/-! ## Printing -/

namespace Print

/-- What is to be printed can be shown, and written where it is to go. -/
def Fits (p : Print) : Prop := ∃ text, p.shown = .ok text ∧ (p.channel = .output → Whole text)

theorem Fits.written {p : Print} (h : p.Fits) (advice : String) :
    ∃ text, p.written advice = .ok text := by
  obtain ⟨text, shown, whole⟩ := h
  rw [Print.written, shown]
  cases channel : p.channel with
  | messages => exact ⟨_, rfl⟩
  | output => exact ⟨text, by simp [(whole channel).unwritable?_eq_none]⟩

end Print

/-- What printing alone leaves on the channel for messages. -/
def messages (advice : String) (ps : List Print) : String := (Outcome.printing advice {} ps).stderr

namespace Outcome

/-- **Printing.** If all of it can be written, an outcome is as without it, but for the texts. -/
theorem printing_eq (advice : String) (o : Outcome) {ps : List Print} (h : ∀ p ∈ ps, p.Fits) :
    printing advice o ps =
      { o with
        stdout := (printing advice {} ps).stdout ++ o.stdout
        stderr := messages advice ps ++ o.stderr } := by
  induction ps with
  | nil => simp [printing, messages]
  | cons p ps ih =>
    obtain ⟨first, others⟩ := List.forall_mem_cons.mp h
    obtain ⟨text, written⟩ := first.written advice
    simp only [messages, printing, written, ih others]
    cases p.channel <;> simp [prepend, String.append_assoc]

theorem messages_append (advice : String) {ps qs : List Print} (h : ∀ p ∈ ps, p.Fits) :
    messages advice (ps ++ qs) = messages advice ps ++ messages advice qs := by
  induction ps with
  | nil => simp [messages, printing]
  | cons p ps ih =>
    obtain ⟨first, others⟩ := List.forall_mem_cons.mp h
    obtain ⟨text, written⟩ := first.written advice
    have rest := ih others
    simp only [messages, List.cons_append, printing, written] at rest ⊢
    cases p.channel <;> simp [prepend, rest, String.append_assoc]

theorem messages_of_output (advice : String) {ps : List Print} (h : ∀ p ∈ ps, p.Fits)
    (output : ∀ p ∈ ps, p.channel = .output) : messages advice ps = "" := by
  induction ps with
  | nil => rfl
  | cons p ps ih =>
    obtain ⟨first, others⟩ := List.forall_mem_cons.mp h
    obtain ⟨channel, channels⟩ := List.forall_mem_cons.mp output
    obtain ⟨text, written⟩ := first.written advice
    have rest := ih others channels
    simp only [messages, printing, written, channel]
    exact rest

/-- A message in which nothing stands for something else is written as it is shown. -/
theorem messages_of_shown {advice text : String} (lacks : Lacks Text.Point.isReserved text) :
    messages advice [⟨.messages, .ok text⟩] = text := by
  simp [messages, printing, Print.written, prepend, lacks.backslashed_eq, String.ofList_toList]

end Outcome

/-! ## Listings -/

namespace Listing

theorem title_plain : PlainLine "Defects" :=
  ⟨⟨0, by decide, by decide⟩, by decide⟩

theorem headings_plain : ∀ c ∈ columns, PlainLine c.heading := by
  have plain : ∀ c ∈ columns, PlainText 0 c.heading ∧ c.heading.toList.getLast? ≠ some ' ' := by
    decide
  exact fun c mem => ⟨⟨0, by decide, (plain c mem).1⟩, (plain c mem).2⟩

theorem table_sound (w : Writer) (defects : List Defect) : (table w defects).Sound w.escape where
  title := title_plain
  headings := headings_plain
  cells row mem cell there := by
    obtain ⟨d, -, rfl⟩ := List.mem_map.mp mem
    have escaped (s : String) : Sound w.escape (w.escape s) := .run (.ofEscape s)
    have number (n : Int) : Sound w.escape (toString n) := .words (tagless_toString n)
    simp only [cells, List.mem_cons, List.not_mem_nil, or_false] at there
    rcases there with rfl | rfl | rfl | rfl | rfl | rfl
    · exact escaped _
    · exact escaped _
    · exact number _
    · exact escaped _
    · exact escaped _
    · split
      · exact .words (by decide)
      · exact number _

end Listing

variable {w : Writer} (lawful : w.Lawful)
include lawful

theorem message_fits {markup : String} (sound : Sound w.escape markup) :
    (Print.message w markup).Fits := by
  obtain ⟨text, shown⟩ := lawful.print markup sound
  exact ⟨text, shown, nofun⟩

theorem output_fits {markup : String} (sound : Sound w.escape markup) (whole : Whole markup) :
    (Print.output w markup).Fits := by
  obtain ⟨text, shown⟩ := lawful.print markup sound
  exact ⟨text, shown, fun _ => lawful.whole_print markup text shown whole⟩

namespace Listing

theorem header_fits (path : String) (kind : Option Report.Kind)
    (scanProps : List (String × String)) : ∀ p ∈ header w path kind scanProps, p.Fits := by
  refine List.forall_mem_cons.mpr ⟨message_fits lawful ?_, fun p mem => ?_⟩
  · have named : Tagless (kindName kind) := by
      cases kind with
      | none => decide
      | some k => cases k <;> decide
    simp only [String.append_assoc]
    exact .opening (by decide) (.words (by decide)) <| .after (by decide) <|
      .opening (by decide) (.ofEscape path) <| .after (by decide) <|
      .single (by decide) (.words named)
  · obtain ⟨⟨key, value⟩, -, rfl⟩ := List.mem_map.mp mem
    have label : Run w.escape true (w.escape key ++ ":") := by
      have run : Run w.escape true ("" ++ w.escape key ++ ":") :=
        .around key (by decide) (by decide) (by decide) (by decide)
      rwa [String.empty_append] at run
    refine message_fits lawful ?_
    simp only [String.append_assoc]
    exact .after (by decide) <| .opening (by decide) label <|
      .after (by decide) <| .run (.ofEscape value)

theorem table_whole {defects : List Defect} (whole : ∀ d ∈ defects, d.Whole) :
    (table w defects).Whole where
  title := title_plain.whole
  headings c mem := (headings_plain c mem).whole
  cells row mem cell there := by
    obtain ⟨d, given, rfl⟩ := List.mem_map.mp mem
    obtain ⟨checker, trace⟩ := whole d given
    have key : (d.trace.headD {}).Whole := by
      cases events : d.trace with
      | nil => decide
      | cons e rest => exact trace e (events ▸ List.mem_cons_self)
    simp only [cells, List.mem_cons, List.not_mem_nil, or_false] at there
    rcases there with rfl | rfl | rfl | rfl | rfl | rfl
    · exact lawful.whole_escape _ checker
    · exact lawful.whole_escape _ key.file
    · exact whole_toString _
    · exact lawful.whole_escape _ key.label
    · exact lawful.whole_escape _ key.message
    · split
      · decide
      · exact whole_toString _

theorem blank_fits : (Print.message w (styled "green" "No defects.")).Fits :=
  message_fits lawful (.single (by decide) (.words (by decide)))

theorem faulty_fits :
    (Print.message w (styled "red" "Some records could not be decoded")).Fits :=
  message_fits lawful (.single (by decide) (.words (by decide)))

/-- The line with the number of defects is shown as it is. -/
theorem total_shown (n : Nat) : Print.message w ("\nTotal defects: " ++ toString n) =
    ⟨.messages, .ok ("\nTotal defects: " ++ toString n ++ "\n")⟩ := by
  have words : PlainText 1 "Total defects: " := by decide
  have plain : PlainLine ("Total defects: " ++ toString n) :=
    ⟨⟨1, by decide, words.append (plainText_toString n)⟩,
      Console.getLast?_append_toString _ n⟩
  have shown := (lawful.line _ plain).2
  simp only [← String.append_assoc] at shown
  exact congrArg _ shown

theorem prints_fit {l : Listing} (whole : ∀ d ∈ l.defects, d.Whole) : ∀ p ∈ l.prints w, p.Fits := by
  refine List.forall_mem_cons.mpr ⟨?_, List.forall_mem_cons.mpr ⟨?_, ?_⟩⟩
  · split
    · exact blank_fits lawful
    · obtain ⟨text, shown⟩ := lawful.table _ (table_sound w l.defects)
      exact ⟨text, shown, fun _ => lawful.whole_table _ text shown (table_whole lawful whole)⟩
  · rw [total_shown lawful]
    exact ⟨_, rfl, nofun⟩
  · split
    · exact List.forall_mem_singleton.mpr (faulty_fits lawful)
    · nofun

/-- The messages of a listing: the number of defects has a line of its own. -/
theorem messages_prints (advice : String) {l : Listing} (whole : ∀ d ∈ l.defects, d.Whole) :
    messages advice (l.prints w) =
      (if l.defects.isEmpty then messages advice [.message w (styled "green" "No defects.")]
        else "") ++
      ("\nTotal defects: " ++ toString l.total ++ "\n") ++
      (if l.hasError then
        messages advice [.message w (styled "red" "Some records could not be decoded")]
        else "") := by
  let first : Print :=
    if l.defects.isEmpty then .message w (styled "green" "No defects.")
    else ⟨.output, w.table (table w l.defects)⟩
  let number : Print := .message w ("\nTotal defects: " ++ toString l.total)
  let last : List Print :=
    if l.hasError then [.message w (styled "red" "Some records could not be decoded")] else []
  have fits : ∀ p ∈ [first] ++ ([number] ++ last), p.Fits := prints_fit lawful whole
  obtain ⟨first_fits, others⟩ := List.forall_mem_append.mp fits
  obtain ⟨number_fits, -⟩ := List.forall_mem_append.mp others
  change messages advice ([first] ++ ([number] ++ last)) = _
  rw [Outcome.messages_append advice first_fits, Outcome.messages_append advice number_fits,
    ← String.append_assoc]
  congr 2
  · simp only [first] at first_fits ⊢
    split
    · rfl
    · next some =>
      rw [if_neg some] at first_fits
      exact Outcome.messages_of_output advice first_fits (List.forall_mem_singleton.mpr rfl)
  · have number_plain : PlainText 0 (toString l.total) := plainText_toString l.total
    simp only [number]
    rw [total_shown lawful]
    have digits := number_plain.lacks
    have front : Lacks Text.Point.isReserved "\nTotal defects: " := by decide
    have behind : Lacks Text.Point.isReserved "\n" := by decide
    exact Outcome.messages_of_shown ((front.append digits).append behind)
  · simp only [last]
    split <;> rfl

end Listing

/-! ## Linkings -/

namespace Pairing

omit lawful in
/-- What stands behind the checker in a heading. -/
def headingEnd (w : Writer) (a : Addresses) (checker : String) (id : Int) : String :=
  " (id " ++ toString id ++ ")" ++
    (if a.defect.isEmpty then "" else " " ++ w.escape a.defect ++ toString id) ++
    (if a.checker.isEmpty then "" else " " ++ w.escape a.checker ++ w.escape checker)

omit lawful in
theorem heading_eq (w : Writer) (a : Addresses) (checker : String) (id : Int) :
    heading w a checker id =
      .output w ("Error: " ++ (styled "bold" (w.escape checker) ++ headingEnd w a checker id)) := by
  simp only [heading, headingEnd, String.append_assoc]

theorem headingEnd_sound {a : Addresses} (fit : a.Fit) (checker : String) (id : Int) :
    Sound w.escape (headingEnd w a checker id) := by
  have number := tagless_toString id
  have defect :
      Tagless (if a.defect.isEmpty then "" else " " ++ w.escape a.defect ++ toString id) := by
    split
    · decide
    · rw [lawful.bare _ fit.defect.1]
      exact (Tagless.append (by decide) fit.defect.1).append number
  have front : Tagless (" (id " ++ toString id ++ ")") :=
    (Tagless.append (by decide) number).append (by decide)
  refine .after (front.append defect) ?_
  split
  · exact .words (by decide)
  · rw [lawful.bare _ fit.checker.1]
    exact .after (.append (by decide) fit.checker.1) (.run (.ofEscape checker))

theorem headingEnd_whole {a : Addresses} (fit : a.Fit) {checker : String} (whole : Whole checker)
    (id : Int) : Whole (headingEnd w a checker id) := by
  have number := whole_toString id
  have escaped {s : String} (h : Whole s) : Whole (" " ++ w.escape s) :=
    .append (by decide) (lawful.whole_escape s h)
  refine .append (.append (.append (.append (by decide) number) (by decide)) ?_) ?_
  · split
    · decide
    · exact (escaped fit.defect.2).append number
  · split
    · decide
    · exact (escaped fit.checker.2).append (lawful.whole_escape checker whole)

/-- **Headings.** Addresses without tags leave a heading fit to be printed. -/
theorem heading_fits {a : Addresses} (fit : a.Fit) {checker : String} (whole : Whole checker)
    (id : Int) : (heading w a checker id).Fits := by
  have bold : "bold" ∈ Console.styles := by decide
  rw [heading_eq]
  refine output_fits lawful (.after (by decide) ?_) (.append (by decide) ?_)
  · exact .opening bold (.ofEscape checker) (headingEnd_sound lawful fit checker id)
  · exact (whole_styled bold (lawful.whole_escape checker whole)).append
      (headingEnd_whole lawful fit whole id)

theorem blankLine_fits : (blankLine w).Fits :=
  output_fits lawful (.words (by decide)) (by decide)

theorem trace_fits {d : Defect} (whole : d.Whole) : ∀ p ∈ trace w d, p.Fits := by
  refine List.forall_mem_append.mpr ⟨fun p mem => ?_, ?_⟩
  · obtain ⟨e, there, rfl⟩ := List.mem_map.mp mem
    exact output_fits lawful (.run (.ofEscape _))
      (lawful.whole_escape _ (whole_listing (whole.trace e there)))
  · exact List.forall_mem_singleton.mpr (blankLine_fits lawful)

theorem unmatched_fits {a : Addresses} (fit : a.Fit) {q : Query} (whole : q.Whole) :
    ∀ p ∈ unmatched w a q, p.Fits := by
  refine List.forall_mem_cons.mpr ⟨heading_fits lawful fit whole.checker q.id, ?_⟩
  refine List.forall_mem_append.mpr ⟨?_, List.forall_mem_singleton.mpr (blankLine_fits lawful)⟩
  split
  · nofun
  · have italic : "italic" ∈ Console.styles := by decide
    have details : Whole "no more details available" := by decide
    have front : Run w.escape true ("" ++ w.escape q.file ++ ": ") :=
      .around q.file (by decide) (by decide) (by decide) (by decide)
    have sound : Sound w.escape ("" ++ w.escape q.file ++ ": " ++
        styled "italic" "no more details available" ++ "") :=
      .styled front italic (.words (by decide)) (.words (by decide))
    rw [String.empty_append, String.append_empty] at sound
    exact List.forall_mem_singleton.mpr (output_fits lawful sound
      (.append (.append (lawful.whole_escape _ whole.file) (by decide))
        (whole_styled italic details)))

theorem unclaimed_fits {d : Defect} (whole : d.Whole) : ∀ p ∈ unclaimed w d, p.Fits := by
  have bold : "bold" ∈ Console.styles := by decide
  refine List.forall_mem_cons.mpr ⟨output_fits lawful ?_ ?_, trace_fits lawful whole⟩
  · exact .after (by decide) (.single bold (.ofEscape d.checker))
  · exact .append (by decide) (whole_styled bold (lawful.whole_escape _ whole.checker))

theorem titled_fits {α : Type} {title : String} (plain : PlainLine title) {spell : α → List Print}
    {items : List α} (fine : ∀ item ∈ items, ∀ p ∈ spell item, p.Fits) :
    ∀ p ∈ titled w title spell items, p.Fits := by
  unfold titled
  split
  · nofun
  · refine List.forall_mem_cons.mpr ⟨?_, fun p mem => ?_⟩
    · obtain ⟨text, shown⟩ := lawful.rule title plain
      exact ⟨text, shown, fun _ => lawful.whole_rule title text shown plain.whole⟩
    · obtain ⟨item, there, mem⟩ := List.mem_flatMap.mp mem
      exact fine item there p mem

omit lawful in
theorem plain_summary (m u c : Nat) : PlainText 0 (summary m u c) := by
  have linked : PlainText 0 "Linked " := by decide
  have defects : PlainText 0 " defect(s), " := by decide
  have ids : PlainText 0 " unmatched ID(s), " := by decide
  have unclaimed : PlainText 0 " unclaimed defect(s)" := by decide
  have number (n : Nat) : PlainText 0 (toString n) := plainText_toString n
  have first := (linked.append (number m)).append defects
  have second := (first.append (number u)).append ids
  exact (second.append (number c)).append unclaimed

/-- The line with three numbers is shown as it is. -/
theorem summary_shown (m u c : Nat) :
    Print.message w (summary m u c) = ⟨.messages, .ok (summary m u c ++ "\n")⟩ := by
  have ends (s : String) : (s ++ " unclaimed defect(s)").toList.getLast? ≠ some ' ' := by
    have last : " unclaimed defect(s)".toList.getLast? = some ')' := by decide
    rw [String.toList_append, List.getLast?_append, last]
    simp
  exact congrArg _ (lawful.line _ ⟨⟨0, by decide, plain_summary m u c⟩, ends _⟩).1

/-- What a linking prints before the numbers. -/
def sections (w : Writer) (a : Addresses) (l : Linking) : List Print :=
  l.matched.flatMap (matched w a) ++
    titled w "Defects available only by ID" (unmatched w a) l.unmatched ++
    titled w "Defects without an ID" (unclaimed w) l.unclaimed

/-- No text of the linking has halves of surrogate pairs. -/
structure Whole (l : Linking) : Prop where
  matched : ∀ p ∈ l.matched, p.2.Whole
  unmatched : ∀ q ∈ l.unmatched, q.Whole
  unclaimed : ∀ d ∈ l.unclaimed, d.Whole

theorem sections_fit {a : Addresses} (fit : a.Fit) {l : Linking} (whole : Whole l) :
    ∀ p ∈ sections w a l, p.Fits := by
  have title : PlainLine "Defects available only by ID" :=
    ⟨⟨0, by decide, by decide⟩, by decide⟩
  have title' : PlainLine "Defects without an ID" :=
    ⟨⟨0, by decide, by decide⟩, by decide⟩
  refine List.forall_mem_append.mpr ⟨List.forall_mem_append.mpr ⟨?_, ?_⟩, ?_⟩
  · intro p mem
    obtain ⟨pair, there, mem⟩ := List.mem_flatMap.mp mem
    have defect := whole.matched pair there
    exact List.forall_mem_cons.mpr
      ⟨heading_fits lawful fit defect.checker _, trace_fits lawful defect⟩ p mem
  · exact titled_fits lawful title fun q there =>
      unmatched_fits lawful fit (whole.unmatched q there)
  · exact titled_fits lawful title' fun d there =>
      unclaimed_fits lawful (whole.unclaimed d there)

omit lawful in
theorem channel_of_mem_sections (a : Addresses) (l : Linking) :
    ∀ p ∈ sections w a l, p.channel = .output := by
  have trace (d : Defect) : ∀ p ∈ trace w d, p.channel = .output := by
    refine List.forall_mem_append.mpr ⟨fun p mem => ?_, List.forall_mem_singleton.mpr rfl⟩
    obtain ⟨e, -, rfl⟩ := List.mem_map.mp mem
    rfl
  have titled {α : Type} (title : String) {spell : α → List Print}
      (fine : ∀ item, ∀ p ∈ spell item, p.channel = .output) (items : List α) :
      ∀ p ∈ titled w title spell items, p.channel = .output := by
    unfold Pairing.titled
    split
    · nofun
    · refine List.forall_mem_cons.mpr ⟨rfl, fun p mem => ?_⟩
      obtain ⟨item, -, mem⟩ := List.mem_flatMap.mp mem
      exact fine item p mem
  refine List.forall_mem_append.mpr ⟨List.forall_mem_append.mpr ⟨fun p mem => ?_, ?_⟩, ?_⟩
  · obtain ⟨pair, -, mem⟩ := List.mem_flatMap.mp mem
    rcases List.mem_cons.mp mem with rfl | mem
    · rfl
    · exact trace pair.2 p mem
  · refine titled _ (fun q => List.forall_mem_cons.mpr ⟨rfl, ?_⟩) _
    refine List.forall_mem_append.mpr ⟨?_, List.forall_mem_singleton.mpr rfl⟩
    split
    · nofun
    · exact List.forall_mem_singleton.mpr rfl
  · exact titled _ (fun d => List.forall_mem_cons.mpr ⟨rfl, trace d⟩) _

/-- **A linking.** All of it is printed, and the only message is the line with the numbers. -/
theorem printing_prints (advice : String) (o : Outcome) {a : Addresses} (fit : a.Fit) {l : Linking}
    (whole : Whole l) : ∃ text, Outcome.printing advice o (prints w a l) =
      { o with
        stdout := text
        stderr := summary l.matched.length l.unmatched.length l.unclaimed.length ++ "\n" ++
          o.stderr } := by
  have fits := sections_fit lawful fit whole
  have plain := (plain_summary l.matched.length l.unmatched.length l.unclaimed.length).lacks
  have same : prints w a l = sections w a l ++ [⟨.messages,
      .ok (summary l.matched.length l.unmatched.length l.unclaimed.length ++ "\n")⟩] := by
    rw [← summary_shown lawful]
    rfl
  have all : ∀ p ∈ prints w a l, p.Fits := by
    rw [same]
    exact List.forall_mem_append.mpr ⟨fits, List.forall_mem_singleton.mpr ⟨_, rfl, nofun⟩⟩
  refine ⟨(Outcome.printing advice {} (prints w a l)).stdout ++ o.stdout, ?_⟩
  rw [Outcome.printing_eq advice o all, same, Outcome.messages_append advice fits,
    Outcome.messages_of_output advice fits (channel_of_mem_sections a l),
    Outcome.messages_of_shown (plain.append (by decide)), String.empty_append]

end Pairing

end Command

end Findings
