import Findings.Proofs.Report.Traces
/-!
What the recognisers of a SARIF log accept: the names of rules that are the shell linter's, and the
texts under a rule that say its weakness number. A line break behind a name or a tag passes.

* `isShellRule_iff`, `cweTag?_eq_some_iff`: the names and tags that pass;
* `tagCwe_eq_iff`: the number of the first tag that passes;
* `ruleCwe_eq_iff`: the weakness number of a rule;
* `recognised_texts`: the main statement, and which names and rules are read as they are spelled.
-/

namespace Findings.Report.Sarif

open Json (Value)

/-! ## Texts -/

/-- Digits 0 to 9, one at least. -/
structure Numeral (ds : List Char) : Prop where
  some : ds ≠ []
  ascii : ∀ c ∈ ds, c.isDigit

/-- The text is one of these with a line break behind it. -/
def Broken (P : String → Prop) (s : String) : Prop := ∃ t, P t ∧ s = t ++ "\n"

/-- The text is one of these, with a line break behind it or without. -/
def Passes (P : String → Prop) (s : String) : Prop := P s ∨ Broken P s

theorem isNumber_iff (ds : List Char) : isNumber ds = true ↔ Numeral ds := by
  constructor
  · intro h
    obtain ⟨some, ascii⟩ := Bool.and_eq_true_iff.mp h
    exact ⟨by simpa using some, List.all_eq_true.mp ascii⟩
  · rintro ⟨some, ascii⟩
    exact Bool.and_eq_true_iff.mpr ⟨by simpa using some, List.all_eq_true.mpr ascii⟩

theorem Broken.last {P : String → Prop} {s : String} (h : Broken P s) :
    '\n' ∈ s.toList.getLast? := by
  obtain ⟨t, -, rfl⟩ := h
  rw [String.toList_append, List.getLast?_append]
  rfl

/-- A text that ends in a digit does not end in a line break. -/
theorem Numeral.solid {ds : List Char} (h : Numeral ds) (front : List Char) :
    '\n' ∉ (front ++ ds).getLast? := by
  intro last
  obtain ⟨digit, some⟩ := Option.ne_none_iff_exists'.mp (mt List.getLast?_eq_none_iff.mp h.some)
  rw [List.getLast?_append, some] at last
  obtain rfl := Option.some.inj last
  exact absurd (h.ascii _ (List.mem_of_getLast? some)) (by decide)

theorem Broken.ne_numeral {P : String → Prop} {s : String} (h : Broken P s) (front : List Char)
    {ds : List Char} (numeral : Numeral ds) : s.toList ≠ front ++ ds :=
  fun whole => numeral.solid front (whole ▸ h.last)

theorem reversedBody_of_solid {cs : List Char} (solid : '\n' ∉ cs.getLast?) :
    Cleanup.reversedBody cs = cs.reverse := by
  unfold Cleanup.reversedBody
  split
  · next before broken =>
    refine absurd ?_ solid
    rw [← List.head?_reverse, broken]
    rfl
  · rfl

theorem body_iff {Q : List Char → Prop} (solid : ∀ cs, Q cs → '\n' ∉ cs.getLast?) (s : String) :
    Q (body s.toList) ↔ Passes (fun t => Q t.toList) s := by
  constructor
  · intro h
    unfold body Cleanup.reversedBody at h
    split at h
    · next before broken =>
      refine .inr ⟨String.ofList before.reverse, by simpa using h, ?_⟩
      rw [← String.toList_inj, String.toList_append, String.toList_ofList]
      simpa using congrArg List.reverse broken
    · rw [List.reverse_reverse] at h
      exact .inl h
  · rintro (h | ⟨t, h, rfl⟩)
    · rwa [body, reversedBody_of_solid (solid _ h), List.reverse_reverse]
    · simpa [body, Cleanup.reversedBody] using h

/-! ## Names of rules -/

/-- The name of a rule of the shell linter. -/
def ShellName (id : String) : Prop := ∃ ds, Numeral ds ∧ id.toList = 'S' :: 'C' :: ds

theorem isShellRule_iff (id : String) : isShellRule id = true ↔ Passes ShellName id := by
  have solid (cs : List Char) :
      (∃ ds, Numeral ds ∧ cs = 'S' :: 'C' :: ds) → '\n' ∉ cs.getLast? := by
    rintro ⟨ds, numeral, rfl⟩
    exact numeral.solid ['S', 'C']
  refine Iff.trans ?_ (body_iff solid id)
  unfold isShellRule
  constructor
  · intro h
    split at h
    · next ds whole => exact ⟨ds, (isNumber_iff ds).mp h, whole⟩
    · cases h
  · rintro ⟨ds, numeral, whole⟩
    rw [whole]
    exact (isNumber_iff ds).mpr numeral

/-! ## Tags -/

/-- What a tag has in front of its number, in lower case. -/
inductive Front : List Char → Prop where
  | short : Front "cwe-".toList
  | long : Front "external/cwe/cwe-".toList

/-- A tag with these digits, its letters in any case. -/
def IsTag (s : String) (ds : List Char) : Prop :=
  ∃ front, Front (front.map Char.toLower) ∧ Numeral ds ∧ s.toList = front ++ ds

/-- What passes for a tag with these digits. -/
def PassesTag (s : String) (ds : List Char) : Prop := Passes (IsTag · ds) s

theorem toLower_of_isDigit {c : Char} (h : c.isDigit) : c.toLower = c := by
  have most : c.toNat ≤ 57 := (Char.isDigit_iff_toNat.mp h).2
  unfold Char.toLower
  split
  · next upper =>
    simp [UInt32.le_iff_toNat_le] at upper
    omega
  · rfl

/-- A character that is no digit does not become one. -/
theorem eq_of_isDigit_toLower {c : Char} (h : c.toLower.isDigit) : c.toLower = c := by
  have most : c.toLower.toNat ≤ 57 := (Char.isDigit_iff_toNat.mp h).2
  unfold Char.toLower at most ⊢
  split at most
  · next upper =>
    simp [UInt32.le_iff_toNat_le, UInt32.toNat_add] at upper most
    omega
  · next lower => exact dif_neg lower

theorem Numeral.map_toLower_eq_iff {ds : List Char} (h : Numeral ds) (cs : List Char) :
    cs.map Char.toLower = ds ↔ cs = ds := by
  constructor
  · rintro rfl
    refine (List.map_id cs).symm.trans (List.map_congr_left fun c mem => ?_)
    exact (eq_of_isDigit_toLower (h.ascii _ (List.mem_map_of_mem mem))).symm
  · rintro rfl
    refine (List.map_congr_left fun c mem => ?_).trans (List.map_id cs)
    exact toLower_of_isDigit (h.ascii c mem)

/-- The search for `cwe-`, past `external/cwe/` when that is there, finds one of the two fronts. -/
theorem behind_front_iff (cs digits : List Char) :
    "cwe-".toList.isPrefixOf? (("external/cwe/".toList.isPrefixOf? cs).getD cs) = some digits ↔
      ∃ front, Front front ∧ front ++ digits = cs := by
  constructor
  · intro behind
    have rest := List.isPrefixOf?_eq_some_iff_append_eq.mp behind
    cases far : "external/cwe/".toList.isPrefixOf? cs with
    | some after =>
      rw [far, Option.getD_some] at rest
      refine ⟨_, .long, ?_⟩
      rw [← List.isPrefixOf?_eq_some_iff_append_eq.mp far, ← rest]
      rfl
    | none =>
      rw [far, Option.getD_none] at rest
      exact ⟨_, .short, rest⟩
  · rintro ⟨front, short | long, rfl⟩
    · have near : "external/cwe/".toList.isPrefixOf? ("cwe-".toList ++ digits) = none := rfl
      rw [near, Option.getD_none, List.isPrefixOf?_eq_some_iff_append_eq]
    · have far : "external/cwe/".toList.isPrefixOf? ("external/cwe/cwe-".toList ++ digits) =
          some ("cwe-".toList ++ digits) := rfl
      rw [far, Option.getD_some, List.isPrefixOf?_eq_some_iff_append_eq]

theorem cweTag?_eq_some_iff (s : String) (ds : List Char) :
    cweTag? s = some ds ↔ PassesTag s ds := by
  have solid (cs : List Char) : (∃ front, Front (front.map Char.toLower) ∧ Numeral ds ∧
      cs = front ++ ds) → '\n' ∉ cs.getLast? := by
    rintro ⟨front, -, numeral, rfl⟩
    exact numeral.solid front
  refine Iff.trans ?_ (body_iff solid s)
  simp only [cweTag?]
  constructor
  · intro h
    split at h
    · next digits behind =>
      split at h
      · next number =>
        obtain rfl := Option.some.inj h
        have numeral := (isNumber_iff digits).mp number
        obtain ⟨low, hlow, whole⟩ := (behind_front_iff _ digits).mp behind
        obtain ⟨front, last, split, rfl, lowered⟩ := List.map_eq_append_iff.mp whole.symm
        rw [(numeral.map_toLower_eq_iff last).mp lowered] at split
        exact ⟨front, hlow, numeral, split⟩
      · cases h
    · cases h
  · rintro ⟨front, low, numeral, whole⟩
    rw [whole, List.map_append, (numeral.map_toLower_eq_iff ds).mpr rfl,
      (behind_front_iff _ ds).mpr ⟨_, low, rfl⟩]
    exact if_pos ((isNumber_iff ds).mpr numeral)

/-- The digits of a tag are told by its text. -/
theorem PassesTag.unique {s : String} {ds es : List Char} (hd : PassesTag s ds)
    (he : PassesTag s es) : ds = es :=
  Option.some.inj
    (((cweTag?_eq_some_iff s ds).mpr hd).symm.trans ((cweTag?_eq_some_iff s es).mpr he))

theorem cweTag?_eq_none_iff (s : String) : cweTag? s = none ↔ ∀ ds, ¬PassesTag s ds := by
  rw [Option.eq_none_iff_forall_not_mem]
  exact forall_congr' fun ds => not_congr (cweTag?_eq_some_iff s ds)

/-- A tag is more than a number. -/
theorem PassesTag.not_numeral {s : String} {ds : List Char} (h : PassesTag s ds) :
    ¬Numeral s.toList := by
  intro numeral
  rcases h with ⟨front, low, -, whole⟩ | broken
  · have dash : '-' ∈ front.map Char.toLower := by
      generalize front.map Char.toLower = low at low
      cases low <;> decide
    obtain ⟨c, mem, lowered⟩ := List.mem_map.mp dash
    have digit := numeral.ascii c (whole ▸ List.mem_append_left ds mem)
    rw [← toLower_of_isDigit digit, lowered] at digit
    exact absurd digit (by decide)
  · exact broken.ne_numeral [] numeral rfl

/-! ## Rules -/

/-- What a run of digits comes to; one of too many digits is no number. -/
inductive Counts (ds : List Char) : Except Decimal.Oversize Int → Prop where
  | short (h : ds.length ≤ Decimal.maxDigits) : Counts ds (.ok (Nat.ofDigitChars 10 ds 0))
  | long (h : Decimal.maxDigits < ds.length) : Counts ds (.error ⟨ds.length⟩)

theorem counts_iff (ds : List Char) (answer : Except Decimal.Oversize Int) :
    Counts ds answer ↔ ((Decimal.natural ds).map fun n => (n : Int)) = answer := by
  constructor
  · rintro (h | h)
    · rw [Decimal.natural, if_pos h]
      rfl
    · rw [Decimal.natural, if_neg (Nat.not_le.mpr h)]
      rfl
  · rintro rfl
    unfold Decimal.natural
    split
    · next h => exact .short h
    · next h => exact .long (Nat.not_le.mp h)

section Weighs

-- What counts as a tag with these digits.
variable (tag : String → List Char → Prop)

/-- A value that is a tag with these digits. -/
def Tags (v : Value) (ds : List Char) : Prop := ∃ s, v = .text s ∧ tag s ds

/-- The number that tags say: that of the first one of the form. -/
inductive TagsSay (tags : List Value) : Except Decimal.Oversize Int → Prop where
  | first {before after : List Value} {v : Value} {ds : List Char}
      {answer : Except Decimal.Oversize Int} (whole : tags = before ++ v :: after)
      (others : ∀ u ∈ before, ∀ es, ¬Tags tag u es) (own : Tags tag v ds)
      (counts : Counts ds answer) : TagsSay tags answer
  | none (others : ∀ v ∈ tags, ∀ ds, ¬Tags tag v ds) : TagsSay tags (.ok 0)

/-- The property of a rule that may say its number. -/
def property (rule : Value) : Value := (rule.field "properties").field "cwe"

/-- The tags of a rule. -/
def tagsOf (rule : Value) : List Value := ((rule.field "properties").field "tags").children

/-- A text that says these digits: a tag, or nothing but them. -/
def SaysDigits (s : String) (ds : List Char) : Prop :=
  tag s ds ∨ Numeral s.toList ∧ s.toList = ds

/-- The weakness number that a rule says. -/
inductive Weighs (rule : Value) : Except Decimal.Oversize Int → Prop where
  | own {n : Int} (h : property rule = .int n) : Weighs rule (.ok n)
  | text {s : String} {ds : List Char} {answer : Except Decimal.Oversize Int}
      (h : property rule = .text s) (said : SaysDigits tag s ds) (counts : Counts ds answer) :
      Weighs rule answer
  | tags {answer : Except Decimal.Oversize Int} (number : ∀ n, property rule ≠ .int n)
      (text : ∀ s, property rule = .text s → ∀ ds, ¬SaysDigits tag s ds)
      (say : TagsSay tag (tagsOf rule) answer) : Weighs rule answer

end Weighs

section Tags

variable {v : Value} {rest : List Value} {answer : Except Decimal.Oversize Int}

theorem tagsSay_cons_of_tags {ds : List Char} (h : Tags PassesTag v ds) :
    TagsSay PassesTag (v :: rest) answer ↔ Counts ds answer := by
  constructor
  · rintro (⟨whole, others, own, counts⟩ | others)
    · obtain ⟨rfl, whole⟩ | ⟨before, rfl, -⟩ := List.cons_eq_append_iff.mp whole
      · obtain ⟨rfl, -⟩ := List.cons.inj whole
        obtain ⟨s, rfl, hs⟩ := h
        obtain ⟨s', heq, hs'⟩ := own
        obtain rfl := Value.text.inj heq
        rw [hs.unique hs']
        exact counts
      · exact absurd h (others v List.mem_cons_self _)
    · exact absurd h (others v List.mem_cons_self ds)
  · exact .first (List.nil_append _).symm nofun h

theorem tagsSay_cons_of_not_tags (h : ∀ ds, ¬Tags PassesTag v ds) :
    TagsSay PassesTag (v :: rest) answer ↔ TagsSay PassesTag rest answer := by
  constructor
  · rintro (⟨whole, others, own, counts⟩ | others)
    · obtain ⟨rfl, whole⟩ | ⟨before, rfl, rfl⟩ := List.cons_eq_append_iff.mp whole
      · obtain ⟨rfl, -⟩ := List.cons.inj whole
        exact absurd own (h _)
      · exact .first rfl (fun u mem => others u (List.mem_cons_of_mem v mem)) own counts
    · exact .none fun u mem => others u (List.mem_cons_of_mem v mem)
  · rintro (⟨rfl, others, own, counts⟩ | others)
    · exact .first (List.cons_append ..).symm (List.forall_mem_cons.mpr ⟨h, others⟩) own counts
    · exact .none (List.forall_mem_cons.mpr ⟨h, others⟩)

/-- Only the values themselves matter. -/
theorem TagsSay.congr {tag tag' : String → List Char → Prop} {tags : List Value}
    (agree : ∀ v ∈ tags, ∀ ds, Tags tag v ds ↔ Tags tag' v ds) (h : TagsSay tag tags answer) :
    TagsSay tag' tags answer := by
  cases h with
  | first whole others own counts =>
    subst whole
    obtain ⟨before, later⟩ := List.forall_mem_append.mp agree
    refine .first rfl (fun u mem es => ?_) ((later _ List.mem_cons_self _).mp own) counts
    exact mt (before u mem es).mpr (others u mem es)
  | none others => exact .none fun v mem ds => mt (agree v mem ds).mpr (others v mem ds)

end Tags

theorem tagCwe_eq_iff (tags : List Value) (answer : Except Decimal.Oversize Int) :
    tagCwe tags = answer ↔ TagsSay PassesTag tags answer := by
  fun_induction tagCwe tags with
  | case1 =>
    constructor
    · rintro rfl
      exact .none (List.forall_mem_nil _)
    · rintro (⟨whole, -, -, -⟩ | -)
      · simp at whole
      · rfl
  | case2 s rest digits tag =>
    rw [tagsSay_cons_of_tags ⟨s, rfl, (cweTag?_eq_some_iff s digits).mp tag⟩, counts_iff]
  | case3 s rest silent ih =>
    rw [ih, tagsSay_cons_of_not_tags]
    rintro ds ⟨t, heq, tag⟩
    obtain rfl := Value.text.inj heq
    exact (cweTag?_eq_none_iff s).mp silent ds tag
  | case4 v rest other ih =>
    rw [ih, tagsSay_cons_of_not_tags]
    rintro ds ⟨s, rfl, -⟩
    exact other s rfl

theorem SaysDigits.unique {s : String} {ds es : List Char} (hd : SaysDigits PassesTag s ds)
    (he : SaysDigits PassesTag s es) : ds = es := by
  rcases hd with tag | ⟨numeral, rfl⟩ <;> rcases he with tag' | ⟨numeral', rfl⟩
  · exact tag.unique tag'
  · exact absurd numeral' tag.not_numeral
  · exact absurd numeral tag'.not_numeral
  · rfl

section Rules

variable {rule : Value} {answer : Except Decimal.Oversize Int}

theorem weighs_own {n : Int} (h : property rule = .int n) :
    Weighs PassesTag rule answer ↔ .ok n = answer := by
  constructor
  · rintro (own | ⟨text, -, -⟩ | ⟨number, -, -⟩)
    · obtain rfl := Value.int.inj (h.symm.trans own)
      rfl
    · cases h.symm.trans text
    · exact absurd h (number n)
  · rintro rfl
    exact .own h

theorem weighs_text {s : String} {ds : List Char} (h : property rule = .text s)
    (said : SaysDigits PassesTag s ds) : Weighs PassesTag rule answer ↔ Counts ds answer := by
  constructor
  · rintro (own | ⟨text, said', counts⟩ | ⟨-, text, -⟩)
    · cases h.symm.trans own
    · obtain rfl := Value.text.inj (h.symm.trans text)
      rw [said.unique said']
      exact counts
    · exact absurd said (text s h ds)
  · exact .text h said

theorem weighs_tags (number : ∀ n, property rule ≠ .int n)
    (text : ∀ s, property rule = .text s → ∀ ds, ¬SaysDigits PassesTag s ds) :
    Weighs PassesTag rule answer ↔ TagsSay PassesTag (tagsOf rule) answer := by
  constructor
  · rintro (own | ⟨texts, said, -⟩ | ⟨-, -, say⟩)
    · exact absurd own (number _)
    · exact absurd said (text _ texts _)
    · exact say
  · exact .tags number text

/-- Only the texts of the rule itself matter. -/
theorem Weighs.congr {tag tag' : String → List Char → Prop}
    (agree : ∀ s, property rule = .text s ∨ Value.text s ∈ tagsOf rule →
      ∀ ds, tag s ds ↔ tag' s ds) (h : Weighs tag rule answer) : Weighs tag' rule answer := by
  have digits (s : String) (text : property rule = .text s) (ds : List Char) :
      SaysDigits tag s ds ↔ SaysDigits tag' s ds :=
    or_congr_left (agree s (.inl text) ds)
  have tags (v : Value) (mem : v ∈ tagsOf rule) (ds : List Char) :
      Tags tag v ds ↔ Tags tag' v ds := by
    refine exists_congr fun s => and_congr_right ?_
    rintro rfl
    exact agree s (.inr mem) ds
  cases h with
  | own number => exact .own number
  | text text said counts => exact .text text ((digits _ text _).mp said) counts
  | tags number text say =>
    exact .tags number (fun s eq ds => mt (digits s eq ds).mpr (text s eq ds)) (say.congr tags)

end Rules

theorem ruleCwe_eq_iff (rule : Value) (answer : Except Decimal.Oversize Int) :
    ruleCwe rule = answer ↔ Weighs PassesTag rule answer := by
  simp only [ruleCwe]
  split
  · next n own => exact (weighs_own own).symm
  · next s text =>
    split
    · next ds tag =>
      rw [weighs_text text (.inl ((cweTag?_eq_some_iff s ds).mp tag)), counts_iff]
    · next untagged =>
      have untagged := (cweTag?_eq_none_iff s).mp untagged
      split
      · next number =>
        rw [weighs_text text (.inr ⟨(isNumber_iff _).mp number, rfl⟩), counts_iff]
      · next other =>
        rw [weighs_tags (fun n own => nomatch text.symm.trans own), tagCwe_eq_iff]
        · rfl
        · rintro s' text' ds said
          obtain rfl := Value.text.inj (text.symm.trans text')
          rcases said with tag | ⟨numeral, rfl⟩
          · exact untagged ds tag
          · exact other ((isNumber_iff _).mpr numeral)
  · next number text =>
    rw [weighs_tags number (fun s texts => absurd texts (text s)), tagCwe_eq_iff]
    rfl

/-! ## The main statement -/

/-- No text under the rule is a tag with a line break behind it. -/
def Unbroken (rule : Value) : Prop :=
  ∀ s, property rule = .text s ∨ Value.text s ∈ tagsOf rule → ∀ ds, ¬Broken (IsTag · ds) s

theorem weighs_of_unbroken {rule : Value} (h : Unbroken rule)
    (answer : Except Decimal.Oversize Int) :
    Weighs PassesTag rule answer ↔ Weighs IsTag rule answer := by
  have agree (s : String) (own : property rule = .text s ∨ Value.text s ∈ tagsOf rule)
      (ds : List Char) : PassesTag s ds ↔ IsTag s ds := or_iff_left (h s own ds)
  exact ⟨.congr agree, .congr fun s own ds => (agree s own ds).symm⟩

theorem Broken.not_shellName {id : String} (h : Broken ShellName id) : ¬ShellName id := by
  rintro ⟨ds, numeral, whole⟩
  exact h.ne_numeral ['S', 'C'] numeral whole

/-- **Recognition.** A defect has the class of the shell linter just if its rule has such a name,
perhaps with a line break behind it, and the class of the format otherwise. A rule has just the
number that it says: an integer property, a property that is a tag or a number, the first tag of the
form, or zero, where a tag with a line break behind it passes for one. So the class is that of the
name as it is spelled unless there is a line break behind it, and the number is that of the rule as
it is spelled where no tag is broken. -/
theorem recognised_texts (rules : List Cleanup.Rule) (table : RuleTable) (node rule : Value) :
    (∀ d, Kind.sarif.decode rules table node = .ok (some d) →
      ∃ id, Field.text node "ruleId" "" = .ok id ∧
        (d.checker = ShellLinter.warning ↔ Passes ShellName id) ∧
        (d.checker = warning ↔ ¬Passes ShellName id) ∧
        ((d.checker = ShellLinter.warning ↔ ShellName id) ↔ ¬Broken ShellName id)) ∧
    (∀ answer, ruleCwe rule = answer ↔ Weighs PassesTag rule answer) ∧
    (Unbroken rule → ∀ answer, ruleCwe rule = answer ↔ Weighs IsTag rule answer) := by
  refine ⟨fun d decoded => ?_, ruleCwe_eq_iff rule, fun unbroken answer => ?_⟩
  · simp only [Kind.decode, map_eq_ok_iff, ofField_eq_ok_iff, Option.some.injEq,
      exists_eq_right] at decoded
    obtain ⟨id, -, -, read, -, -, -, checker⟩ := defect_eq_ok table node d decoded
    have apart : ShellLinter.warning ≠ warning := by decide
    have shell : d.checker = ShellLinter.warning ↔ Passes ShellName id := by
      rw [checker, ← isShellRule_iff]
      by_cases passes : isShellRule id <;> simp [passes, apart.symm]
    have other : d.checker = warning ↔ ¬Passes ShellName id := by
      rw [checker, ← isShellRule_iff]
      by_cases passes : isShellRule id <;> simp [passes, apart]
    refine ⟨id, read, shell, other, ?_⟩
    rw [shell]
    constructor
    · exact fun meets broken => broken.not_shellName (meets.mp (.inr broken))
    · exact or_iff_left
  · rw [ruleCwe_eq_iff, weighs_of_unbroken unbroken]

/-- The result of a rule with this name, and nothing else. -/
def resultOf (id : String) : Value := .object [("ruleId", .text id)]

/-- A rule with one property, and nothing else. -/
def ruleWith (key : String) (v : Value) : Value := .object [("properties", .object [(key, v)])]

/-- A rule of the shell linter, told by its name, and a number that a tag says. -/
theorem recognised_texts_shell :
    (∃ d, Kind.sarif.decode [] [] (resultOf "SC1000") = .ok (some d) ∧
      d.checker = ShellLinter.warning) ∧
    Unbroken (ruleWith "tags" (.array [.text "CWE-079"])) ∧
    Weighs IsTag (ruleWith "tags" (.array [.text "CWE-079"])) (.ok 79) := by
  obtain ⟨classes, -, numbers⟩ := recognised_texts [] [] (resultOf "SC1000")
    (ruleWith "tags" (.array [.text "CWE-079"]))
  have name : ShellName "SC1000" :=
    ⟨['1', '0', '0', '0'], (isNumber_iff _).mp (by decide), by decide⟩
  have unbroken : Unbroken (ruleWith "tags" (.array [.text "CWE-079"])) := by
    rintro s (text | mem) ds broken
    · cases text
    · obtain rfl : s = "CWE-079" := Value.text.inj (List.mem_singleton.mp mem)
      exact absurd broken.last (by decide)
  refine ⟨⟨_, rfl, ?_⟩, unbroken, (numbers unbroken _).mp (by decide)⟩
  obtain ⟨id, read, shell, -⟩ := classes _ rfl
  obtain rfl := Except.ok.inj read
  exact shell.mpr (.inl name)

/-- A name and a tag with a line break behind their digits pass, and a number with one does not. -/
theorem final_line_break_passes :
    ((∃ d, Kind.sarif.decode [] [] (resultOf "SC1000\n") = .ok (some d) ∧
        d.checker = ShellLinter.warning) ∧ ¬ShellName "SC1000\n") ∧
    (ruleCwe (ruleWith "tags" (.array [.text "cwe-79\n"])) = .ok 79 ∧
      Weighs IsTag (ruleWith "tags" (.array [.text "cwe-79\n"])) (.ok 0)) ∧
    ruleCwe (ruleWith "cwe" (.text "79\n")) = .ok 0 := by
  refine ⟨⟨⟨_, rfl, by decide⟩, ?_⟩, ⟨by decide, ?_⟩, by decide⟩
  · rintro ⟨ds, numeral, whole⟩
    exact numeral.solid ['S', 'C'] (congrArg List.getLast? whole.symm)
  · refine .tags nofun nofun (.none fun v mem ds => ?_)
    obtain rfl := List.mem_singleton.mp mem
    rintro ⟨s, text, front, -, numeral, whole⟩
    obtain rfl := Value.text.inj text
    exact numeral.solid front (congrArg List.getLast? whole.symm)

end Findings.Report.Sarif
