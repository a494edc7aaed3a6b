import Findings.Pattern.Substitution
/-!
Patterns that match at the beginning of a text and nowhere else, and what is left of a text from
which their matches are dropped.

* `run_literals`, `run_literals_of_not_begins`: characters in front of other nodes;
* `run_segment`, `run_segment_of_other`: a segment and the separator behind it;
* `MatchesFront`: such a pattern, by the fronts that it matches;
* `replaceAll_eq_ok`: one front is dropped from the beginning of the text, and nothing behind it.
-/

namespace Findings.Pattern

/-! ## Fronts -/

/-- The text begins with one of the fronts. -/
def Begins (Front : List Char → Prop) (cs : List Char) : Prop :=
  ∃ front rest, Front front ∧ cs = front ++ rest

/-- What is left of a text without one front, if it begins with one. -/
inductive Stripped (Front : List Char → Prop) : List Char → List Char → Prop where
  | front {front rest : List Char} (h : Front front) : Stripped Front (front ++ rest) rest
  | none {cs : List Char} (h : ¬Begins Front cs) : Stripped Front cs cs

theorem Stripped.isSuffix {Front : List Char → Prop} {cs rest : List Char}
    (h : Stripped Front cs rest) : rest <:+ cs := by
  cases h with
  | front => exact List.suffix_append _ _
  | none => exact List.suffix_refl _

theorem Stripped.eq_self_iff {Front : List Char → Prop} (full : ∀ front, Front front → front ≠ [])
    {cs rest : List Char} (h : Stripped Front cs rest) : rest = cs ↔ ¬Begins Front cs := by
  cases h with
  | @front front rest stands =>
    have begins : Begins Front (front ++ rest) := ⟨front, rest, stands, rfl⟩
    simp [begins, full front stands]
  | none other => simp [other]

/-! ## Places -/

namespace Spot

/-- The place behind these characters, with `rest` ahead. -/
def past (s : Spot) (cs rest : List Char) : Spot :=
  ⟨cs.reverse ++ s.before, rest, s.index + cs.length⟩

theorem past_append (s : Spot) (cs ds rest rest' : List Char) :
    (s.past cs rest).past ds rest' = s.past (cs ++ ds) rest' := by
  simp [past, Nat.add_assoc]

theorem hasAhead_iff (s : Spot) (n : Nat) : s.hasAhead n = true ↔ n ≤ s.after.length := by
  cases n with
  | zero => simp [hasAhead]
  | succ n =>
    have more : s.hasAhead (n + 1) = true ↔ ¬s.after.length ≤ n := by simp [hasAhead]
    rw [more]
    omega

theorem reach_of_stop {p : Char → Bool} {rest : List Char} (stop : headIs p rest = false)
    (s : Spot) (reached : List Spot) : reach p rest none s reached = s :: reached := by
  cases rest with
  | nil => rfl
  | cons c rest =>
    have no : p c = false := stop
    simp [reach, no]

/-- All places over a run of characters are reached, and each but the farthest has one of these
characters ahead. -/
theorem exists_reach {p : Char → Bool} {rest : List Char} (stop : headIs p rest = false) (c : Char)
    (inside : List Char) (all : ∀ d ∈ c :: inside, p d = true) (s : Spot) (reached : List Spot) :
    ∃ between, reach p (c :: inside ++ rest) none s reached =
        s.past (c :: inside) rest :: (between ++ s :: reached) ∧
      ∀ t ∈ between, headIs p t.after = true := by
  obtain ⟨first, others⟩ := List.forall_mem_cons.mp all
  have step : reach p (c :: inside ++ rest) none s reached =
      reach p (inside ++ rest) none (s.past [c] (inside ++ rest)) (s :: reached) := by
    simp [reach, first, past]
  rw [step]
  induction inside generalizing c s reached with
  | nil => exact ⟨[], reach_of_stop stop _ _, nofun⟩
  | cons d inside ih =>
    let t := s.past [c] (d :: inside ++ rest)
    obtain ⟨second, later⟩ := List.forall_mem_cons.mp others
    have step' : reach p (d :: inside ++ rest) none t (s :: reached) =
        reach p (inside ++ rest) none (t.past [d] (inside ++ rest)) (t :: s :: reached) := by
      simp [reach, second, past]
    obtain ⟨between, found, ahead⟩ := ih d others t (s :: reached) second later step'
    refine ⟨between ++ [t], ?_, ?_⟩
    · rw [step', found, past_append, List.append_assoc]
      rfl
    · exact List.forall_mem_append.mpr ⟨ahead, List.forall_mem_singleton.mpr second⟩

end Spot

/-! ## Sequences of characters -/

namespace Matching

/-- The node of one character. -/
def literal (c : Char) : Node := .one (.set (.only c))

/-- The node of a text at whose beginning the other nodes match. -/
def anchored (nodes : List Node) : Node := .joined (.anchor .textStart :: nodes)

variable {nested : Bool} {next : Option CharClass} {k : Goal}

theorem run_joined_cons (node : Node) {nodes : List Node} (full : nodes ≠ []) :
    run (.joined (node :: nodes)) nested next k =
      run node nested ((Node.joined nodes).head? next) (run (.joined nodes) nested next k) := by
  obtain ⟨other, nodes, rfl⟩ := List.exists_cons_of_ne_nil full
  exact run_seq _ _ _ _ _

theorem run_anchored {nodes : List Node} (full : nodes ≠ []) (s : Spot) (m : Memory) :
    run (anchored nodes) nested next k s m =
      if s.before = [] then run (.joined nodes) nested next k s m else .error m := by
  rw [anchored, run_joined_cons _ full]
  cases before : s.before <;> simp [run, Anchor.holds, before]

theorem run_literal {c : Char} {rest : List Char} {s : Spot} (here : s.after = c :: rest)
    (m : Memory) : run (literal c) nested next k s m = k (s.past [c] rest) m := by
  change eat (CharSet.only c).accepts k s m = _
  simp [eat, Spot.next?, here, Spot.past]

theorem run_literal_of_not_begins {c : Char} {s : Spot} (other : ∀ rest, s.after ≠ c :: rest)
    (m : Memory) : run (literal c) nested next k s m = .error m := by
  change eat (CharSet.only c).accepts k s m = _
  unfold eat Spot.next?
  cases ahead : s.after with
  | nil => rfl
  | cons a rest =>
    have differs : a ≠ c := fun same => other rest (same ▸ ahead)
    simp [differs]

theorem run_literals {nodes : List Node} (full : nodes ≠ []) (cs rest : List Char) (s : Spot)
    (here : s.after = cs ++ rest) (m : Memory) :
    run (.joined (cs.map literal ++ nodes)) nested next k s m =
      run (.joined nodes) nested next k (s.past cs rest) m := by
  induction cs generalizing s with
  | nil =>
    obtain ⟨before, after, index⟩ := s
    obtain rfl : after = rest := here
    rfl
  | cons c cs ih =>
    rw [List.map_cons, List.cons_append, run_joined_cons _ (by simp [full]), run_literal here,
      ih _ rfl, Spot.past_append]
    rfl

theorem run_literals_of_not_begins {nodes : List Node} (full : nodes ≠ []) (cs : List Char)
    (s : Spot) (other : ∀ rest, s.after ≠ cs ++ rest) (m : Memory) :
    run (.joined (cs.map literal ++ nodes)) nested next k s m = .error m := by
  induction cs generalizing s with
  | nil => exact absurd rfl (other s.after)
  | cons c cs ih =>
    rw [List.map_cons, List.cons_append, run_joined_cons _ (by simp [full])]
    by_cases first : ∃ rest, s.after = c :: rest
    · obtain ⟨rest, here⟩ := first
      rw [run_literal here]
      refine ih _ fun rest' behind => other rest' ?_
      rw [here, List.cons_append, ← behind]
      rfl
    · exact run_literal_of_not_begins (not_exists.mp first) m

/-! ## Segments -/

/-- A segment, as long as can be, and the separator behind it. -/
def segment (separator : Char) : List Node :=
  [.series 1 none .greedy (.set (.allBut separator)), literal separator]

theorem goOn_of_blocked {places : List Spot} (blocked : ∀ t ∈ places, mayFollow next t = false)
    (m : Memory) : goOn nested next k places m = .error m := by
  induction places with
  | nil => rfl
  | cons t places ih =>
    obtain ⟨first, others⟩ := List.forall_mem_cons.mp blocked
    rw [goOn, first, if_neg Bool.false_ne_true, ih others]

theorem goOn_of_first {t : Spot} (free : mayFollow next t = true) (places : List Spot)
    {m m' : Memory} (stands : k t (m.note t) = .ok m') :
    goOn nested next k (t :: places) m = .ok m' := by
  rw [goOn, free, if_pos rfl, orElse, stands]

theorem mayFollow_only (separator : Char) (s : Spot) :
    mayFollow (some (.set (.only separator))) s = Spot.headIs (· = separator) s.after := by
  change Spot.headIs (fun c => Text.codeOf c = Text.codeOf separator) s.after = _
  cases s.after with
  | nil => rfl
  | cons c rest => simp [Spot.headIs, Text.codeOf_inj]

theorem headIs_allBut (separator : Char) (cs : List Char) :
    Spot.headIs (CharSet.allBut separator).accepts cs =
      (!cs.isEmpty && !Spot.headIs (· = separator) cs) := by
  cases cs <;> simp [Spot.headIs]

variable {separator : Char} {s : Spot}

/-- Over a run of characters other than the separator a segment goes on from the farthest place that
stands, and none but the farthest can have the separator ahead. -/
theorem series_of_run (nested : Bool) (next : Option CharClass) (k : Goal) {c : Char}
    {inside rest : List Char} (here : s.after = c :: inside ++ rest) (all : separator ∉ c :: inside)
    (stop : Spot.headIs (CharSet.allBut separator).accepts rest = false) (m : Memory) :
    ∃ between, series .greedy (.set (.allBut separator)) 1 none nested next k s m =
        goOn nested next k (s.past (c :: inside) rest :: between) (m.note s) ∧
      ∀ t ∈ between, Spot.headIs (· = separator) t.after = false := by
  have accepted : ∀ d ∈ c :: inside, (CharSet.allBut separator).accepts d = true := by
    intro d mem
    rw [CharSet.accepts_allBut, Bool.not_eq_true', decide_eq_false_iff_not]
    rintro rfl
    exact all mem
  obtain ⟨between, reached, ahead⟩ := Spot.exists_reach stop c inside accepted s []
  refine ⟨between, ?_, fun t mem => ?_⟩
  · have long : s.hasAhead 1 = true := (s.hasAhead_iff 1).mpr (by rw [here]; simp)
    have reached : s.reach (CharClass.set (.allBut separator)).accepts s.after none [] =
        s.past (c :: inside) rest :: between ++ [s] := here ▸ reached
    have more : 1 < (s.past (c :: inside) rest :: between ++ [s]).length := by simp
    unfold series
    simp only [long, reached, more, if_true, reduceCtorEq, if_false]
    rw [List.length_append, List.length_singleton, Nat.add_sub_cancel, List.take_left']
    · rfl
    · rfl
  · have other := ahead t mem
    rw [headIs_allBut, Bool.and_eq_true, Bool.not_eq_true', Bool.not_eq_true'] at other
    exact other.2

theorem run_segment_eq (m : Memory) :
    run (.joined (segment separator)) nested next k s m =
      series .greedy (.set (.allBut separator)) 1 none nested (some (.set (.only separator)))
        (run (literal separator) nested next k) s m := by
  rfl

theorem run_segment {inside rest : List Char} (full : inside ≠ []) (all : separator ∉ inside)
    (here : s.after = inside ++ separator :: rest) (m : Memory) :
    run (.joined (segment separator)) nested next finish s m =
      .ok (m.note (s.past (inside ++ [separator]) rest)) := by
  obtain ⟨c, inside, rfl⟩ := List.exists_cons_of_ne_nil full
  obtain ⟨between, tried, -⟩ := series_of_run nested (some (.set (.only separator)))
    (run (literal separator) nested next finish) here all (by simp [Spot.headIs]) m
  rw [run_segment_eq, tried]
  refine goOn_of_first ?_ between ?_
  · rw [mayFollow_only]
    simp [Spot.headIs, Spot.past]
  · rw [run_literal rfl, Spot.past_append]
    rfl

theorem series_of_stop (stop : Spot.headIs (CharSet.allBut separator).accepts s.after = false)
    (m : Memory) :
    ∃ m', series .greedy (.set (.allBut separator)) 1 none nested next k s m = .error m' := by
  have reached : s.reach (CharClass.set (.allBut separator)).accepts s.after none [] = [s] :=
    Spot.reach_of_stop stop s []
  unfold series
  split
  · simp only [reached, reduceCtorEq, if_false]
    exact ⟨_, rfl⟩
  · exact ⟨m, rfl⟩

/-- Without a separator behind it there is no segment, nor is there one of no characters. -/
theorem run_segment_of_other (other : ∀ inside rest, inside ≠ [] → separator ∉ inside →
    s.after ≠ inside ++ separator :: rest) (m : Memory) :
    ∃ m', run (.joined (segment separator)) nested next finish s m = .error m' := by
  rw [run_segment_eq]
  by_cases mem : separator ∈ s.after
  · obtain ⟨inside, rest, parts, all⟩ := List.eq_append_cons_of_mem mem
    cases inside with
    | nil => exact series_of_stop (by simp [parts, Spot.headIs]) m
    | cons c inside => exact absurd parts (other _ rest (List.cons_ne_nil c inside) all)
  · cases ahead : s.after with
    | nil => exact series_of_stop (by simp [ahead, Spot.headIs]) m
    | cons c inside =>
      have here : s.after = c :: inside ++ [] := by rw [ahead, List.append_nil]
      obtain ⟨between, tried, blocked⟩ := series_of_run nested (some (.set (.only separator)))
        (run (literal separator) nested next finish) here (ahead ▸ mem) rfl m
      refine ⟨_, tried.trans (goOn_of_blocked ?_ _)⟩
      simp only [mayFollow_only]
      exact List.forall_mem_cons.mpr ⟨rfl, blocked⟩

end Matching

/-! ## Patterns -/

/-- The pattern matches just these fronts, each of them at the beginning of a text only. -/
structure MatchesFront (p : Compiled) (Front : List Char → Prop) : Prop where
  anchored : ∃ nodes, nodes ≠ [] ∧ p.node = Matching.anchored nodes
  full : ∀ front, Front front → front ≠ []
  found : ∀ front rest, Front front → p.match? false (.start (front ++ rest)) =
    some { noted := (Spot.start (front ++ rest)).past front rest }
  missed : ∀ cs, ¬Begins Front cs → p.match? false (.start cs) = none

namespace Compiled

variable {p : Compiled} {nodes : List Node}

theorem search_of_match? {goesOn : Bool} {s : Spot} {m : Memory}
    (found : p.match? goesOn s = some m) (cs : List Char) :
    p.search cs goesOn s = some ⟨s, m⟩ := by
  cases cs <;> simp [search, found]

section Anchored

variable (full : nodes ≠ []) (anchored : p.node = Matching.anchored nodes)
include full anchored

theorem match?_of_inside (goesOn : Bool) {s : Spot} (inside : s.before ≠ []) :
    p.match? goesOn s = none := by
  unfold match?
  dsimp only
  split
  · rw [anchored, Matching.run_anchored full, if_neg inside]
    rfl
  · rfl

theorem match?_start (cs : List Char) :
    p.match? false (.start cs) =
      if p.least ≤ cs.length then
        (Matching.run (.joined nodes) false none Matching.finish (.start cs)
          { noted := .start cs }).toOption
      else none := by
  have long : (Spot.start cs).hasAhead p.least = true ↔ p.least ≤ cs.length :=
    Spot.hasAhead_iff _ _
  unfold match?
  simp only [long, anchored, Matching.run_anchored full]
  rfl

theorem search_of_inside (cs : List Char) (goesOn : Bool) {s : Spot} (inside : s.before ≠ []) :
    p.search cs goesOn s = none := by
  induction cs generalizing goesOn s with
  | nil => rw [search, match?_of_inside full anchored goesOn inside, Option.map_none]
  | cons c cs ih =>
    rw [search, match?_of_inside full anchored goesOn inside]
    exact ih false (List.cons_ne_nil _ _)

/-- Behind the beginning of a text nothing is replaced. -/
theorem replaced_of_inside (t : Template) (fuel : Nat) (goesOn : Bool) {s : Spot}
    (inside : s.before ≠ []) : p.replaced t fuel goesOn s = .ok s.after := by
  cases fuel with
  | zero => rfl
  | succ fuel => rw [replaced, search_of_inside full anchored s.after goesOn inside]

end Anchored

end Compiled

namespace MatchesFront

variable {p : Compiled} {Front : List Char → Prop} (h : MatchesFront p Front)
include h

theorem replaced_of_front {front : List Char} (stands : Front front) (rest : List Char)
    (fuel : Nat) : p.replaced [] (fuel + 1) false (.start (front ++ rest)) = .ok rest := by
  obtain ⟨nodes, full, anchored⟩ := h.anchored
  let behind := (Spot.start (front ++ rest)).past front rest
  have inside : behind.before ≠ [] := by simp [behind, Spot.past, h.full front stands]
  have left (goesOn : Bool) : p.replaced [] fuel goesOn behind = .ok rest :=
    Compiled.replaced_of_inside full anchored [] fuel goesOn inside
  rw [Compiled.replaced, Compiled.search_of_match? (h.found front rest stands)]
  dsimp only [Match.stop]
  rw [left]
  simp [Match.replacement, Template.expand, Spot.upTo]

theorem replaced_of_other {cs : List Char} (other : ¬Begins Front cs) (fuel : Nat) :
    p.replaced [] (fuel + 1) false (.start cs) = .ok cs := by
  obtain ⟨nodes, full, anchored⟩ := h.anchored
  have missed := h.missed cs other
  have nowhere : p.search (Spot.start cs).after false (.start cs) = none := by
    change p.search cs false (.start cs) = none
    cases cs with
    | nil => rw [Compiled.search, missed, Option.map_none]
    | cons c cs =>
      rw [Compiled.search, missed]
      exact Compiled.search_of_inside full anchored cs false (List.cons_ne_nil _ _)
  rw [Compiled.replaced, nowhere]
  rfl

/-- One front is dropped, and nothing else. -/
theorem replaceAll_eq_ok {s : String} {rest : List Char} (stripped : Stripped Front s.toList rest) :
    p.replaceAll [] s = .ok (String.ofList rest) := by
  unfold Compiled.replaceAll
  generalize s.toList = cs at stripped
  cases stripped with
  | front stands => rw [h.replaced_of_front stands]; rfl
  | none other => rw [h.replaced_of_other other]; rfl

theorem stripped_unique {cs rest rest' : List Char} (stripped : Stripped Front cs rest)
    (stripped' : Stripped Front cs rest') : rest = rest' := by
  rw [← String.toList_ofList (l := cs)] at stripped stripped'
  have same := (h.replaceAll_eq_ok stripped).symm.trans (h.replaceAll_eq_ok stripped')
  exact String.ofList_inj.mp (Except.ok.inj same)

end MatchesFront

end Findings.Pattern
