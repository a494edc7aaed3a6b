import Findings.Proofs.Linking.Filing
import Findings.Proofs.Linking.Replacements
import Findings.Proofs.PathRules.Fronts
import Mathlib.Data.List.TakeWhile
/-!
The standard rules in closed form: what they take from the front of a path, and which paths they
bring together.

* `bare`, `bare_eq_iff`: a path without its build directory and one `./` behind it, as a function
  and by what is taken away;
* `matchesFront_build`, `matchesFront_dot`: what the two patterns match;
* `apply_standard`: the standard rules are this function;
* `standard_paths`: the main statement.
-/

namespace Findings

open Pattern

namespace PathRules

/-! ## Fronts of paths -/

def buildRoot : List Char := "/builddir/build/BUILD/".toList

/-- The directory in which a package is built. -/
inductive BuildFront : List Char → Prop where
  | package {segment : List Char} (full : segment ≠ []) (one : '/' ∉ segment) :
      BuildFront (buildRoot ++ (segment ++ ['/']))

/-- The working directory. -/
inductive DotFront : List Char → Prop where
  | here : DotFront ['.', '/']

/-- Drops a first segment of some characters, with the separator behind it. -/
def behindSegment? (cs : List Char) : Option (List Char) :=
  match cs.takeWhile (· ≠ '/'), cs.dropWhile (· ≠ '/') with
  | _ :: _, _ :: rest => some rest
  | _, _ => none

def behindBuild? (cs : List Char) : Option (List Char) :=
  (cs.dropPrefix? buildRoot).bind behindSegment?

def behindBuild (cs : List Char) : List Char := (behindBuild? cs).getD cs

def behindDot : List Char → List Char
  | '.' :: '/' :: rest => rest
  | cs => cs

/-- The path behind its build directory, and then behind one `./`. -/
def bare (path : String) : String := String.ofList (behindDot (behindBuild path.toList))

/-- A separator ends the first segment. -/
theorem behindSegment?_append {segment : List Char} (one : '/' ∉ segment) (rest : List Char) :
    behindSegment? (segment ++ '/' :: rest) = if segment = [] then none else some rest := by
  have all : ∀ c ∈ segment, decide (c ≠ '/') = true := by
    intro c mem
    simpa using ne_of_mem_of_not_mem mem one
  unfold behindSegment?
  rw [List.takeWhile_append_of_pos all, List.dropWhile_append_of_pos all]
  cases segment <;> simp

theorem behindSegment?_eq_some_iff (cs rest : List Char) :
    behindSegment? cs = some rest ↔
      ∃ segment, segment ≠ [] ∧ '/' ∉ segment ∧ cs = segment ++ '/' :: rest := by
  constructor
  · intro found
    have mem : '/' ∈ cs := by
      by_contra none
      have left : cs.dropWhile (· ≠ '/') = [] := by
        refine List.dropWhile_eq_nil_iff.mpr fun c mem => ?_
        simpa using ne_of_mem_of_not_mem mem none
      rw [behindSegment?, left] at found
      generalize cs.takeWhile (· ≠ '/') = segment at found
      cases segment <;> cases found
    obtain ⟨segment, rest', rfl, one⟩ := List.eq_append_cons_of_mem mem
    rw [behindSegment?_append one] at found
    by_cases full : segment = []
    · simp [full] at found
    · rw [if_neg full, Option.some.injEq] at found
      exact ⟨segment, full, one, found ▸ rfl⟩
  · rintro ⟨segment, full, one, rfl⟩
    rw [behindSegment?_append one, if_neg full]

theorem behindBuild?_eq_some_iff (cs rest : List Char) :
    behindBuild? cs = some rest ↔ ∃ front, BuildFront front ∧ cs = front ++ rest := by
  simp only [behindBuild?, Option.bind_eq_some_iff, List.dropPrefix?_eq_some_iff,
    behindSegment?_eq_some_iff]
  constructor
  · rintro ⟨behind, ⟨root, rfl, same⟩, segment, full, one, rfl⟩
    obtain rfl := eq_of_beq same
    exact ⟨_, .package full one, by simp⟩
  · rintro ⟨_, @⟨segment, full, one⟩, rfl⟩
    exact ⟨segment ++ '/' :: rest, ⟨buildRoot, by simp, by simp⟩, segment, full, one, rfl⟩

theorem stripped_behindBuild (cs : List Char) : Stripped BuildFront cs (behindBuild cs) := by
  rw [behindBuild]
  cases found : behindBuild? cs with
  | none =>
    refine .none ?_
    rintro ⟨front, rest, stands⟩
    cases found.symm.trans ((behindBuild?_eq_some_iff cs rest).mpr ⟨front, stands⟩)
  | some rest =>
    obtain ⟨front, stands, rfl⟩ := (behindBuild?_eq_some_iff cs rest).mp found
    exact .front stands

theorem stripped_behindDot (cs : List Char) : Stripped DotFront cs (behindDot cs) := by
  fun_cases behindDot cs with
  | case1 rest => exact .front DotFront.here
  | case2 cs other =>
    refine .none ?_
    rintro ⟨_, rest, ⟨⟩, rfl⟩
    exact other rest rfl

/-! ## The two patterns -/

open Matching

def buildPattern : Compiled :=
  { node := anchored (buildRoot.map literal ++ segment '/')
    groups := 0
    names := []
    least := 24 }

def dotPattern : Compiled :=
  { node := anchored [literal '.', literal '/']
    groups := 0
    names := []
    least := 2 }

theorem ofRules_standard :
    ofRules PathRule.standard = .ok ⟨PathRule.standard.zip [buildPattern, dotPattern]⟩ := by
  decide +kernel

theorem segment_ne_nil : segment '/' ≠ [] := List.cons_ne_nil _ _

theorem buildNodes_ne_nil : buildRoot.map literal ++ segment '/' ≠ [] :=
  List.append_ne_nil_of_right_ne_nil _ segment_ne_nil

theorem matchesFront_build : MatchesFront buildPattern BuildFront where
  anchored := ⟨_, buildNodes_ne_nil, rfl⟩
  full := by
    rintro _ ⟨-, -⟩
    simp
  found := by
    intro front rest stands
    obtain @⟨inside, full, one⟩ := stands
    have parts : buildRoot ++ (inside ++ ['/']) ++ rest = buildRoot ++ (inside ++ '/' :: rest) := by
      simp
    have long : buildPattern.least ≤ (buildRoot ++ (inside ++ '/' :: rest)).length := by
      have root : buildRoot.length = 22 := rfl
      have some : 0 < inside.length := List.length_pos_iff.mpr full
      simp only [List.length_append, List.length_cons, root, buildPattern]
      omega
    rw [parts, Compiled.match?_start buildNodes_ne_nil rfl, if_pos long,
      run_literals segment_ne_nil buildRoot (inside ++ '/' :: rest) _ rfl,
      run_segment full one rfl, Spot.past_append]
    rfl
  missed := by
    intro cs other
    rw [Compiled.match?_start buildNodes_ne_nil rfl]
    split
    · by_cases root : ∃ rest, cs = buildRoot ++ rest
      · obtain ⟨behind, rfl⟩ := root
        let s := (Spot.start (buildRoot ++ behind)).past buildRoot behind
        have none (inside rest : List Char) (full : inside ≠ []) (one : '/' ∉ inside) :
            s.after ≠ inside ++ '/' :: rest := by
          rintro (parts : behind = _)
          exact other ⟨_, rest, .package full one, by simp [parts]⟩
        obtain ⟨m, failed⟩ := run_segment_of_other none { noted := .start (buildRoot ++ behind) }
        rw [run_literals segment_ne_nil buildRoot behind _ rfl, failed]
        rfl
      · rw [run_literals_of_not_begins segment_ne_nil buildRoot (.start cs) (not_exists.mp root)]
        rfl
    · rfl

theorem matchesFront_dot : MatchesFront dotPattern DotFront where
  anchored := ⟨_, List.cons_ne_nil _ _, rfl⟩
  full := by
    rintro _ ⟨⟩
    exact List.cons_ne_nil _ _
  found := by
    rintro _ rest ⟨⟩
    rfl
  missed := by
    intro cs other
    rw [Compiled.match?_start (List.cons_ne_nil _ _) rfl]
    split
    · change (run (.joined (['.'].map literal ++ [literal '/'])) false none finish (.start cs)
        { noted := .start cs }).toOption = none
      by_cases dot : ∃ rest, cs = '.' :: rest
      · obtain ⟨behind, rfl⟩ := dot
        have none (rest : List Char) :
            ((Spot.start ('.' :: behind)).past ['.'] behind).after ≠ '/' :: rest := by
          rintro (rfl : behind = _)
          exact other ⟨_, rest, .here, rfl⟩
        rw [run_literals (List.cons_ne_nil _ _) ['.'] behind _ rfl]
        exact congrArg Except.toOption (run_literal_of_not_begins none _)
      · rw [run_literals_of_not_begins (List.cons_ne_nil _ _) ['.'] (.start cs)
          (not_exists.mp dot)]
        rfl
    · rfl

/-! ## The two rules -/

def standardRules : PathRules := ⟨PathRule.standard.zip [buildPattern, dotPattern]⟩

theorem applyRule_eq_ok {p : Compiled} {Front : List Char → Prop} (h : MatchesFront p Front)
    {rule : PathRule} (textual : rule.pattern.isBinary = false) (nothing : rule.replacement = "")
    {path : String} {rest : List Char} (stripped : Stripped Front path.toList rest) :
    applyRule rule p path = .ok (String.ofList rest) := by
  have read : Template.read p rule.replacement = .ok [] := by
    rw [nothing]
    exact Template.read_of_plain p "" (by simp)
  rw [applyRule, read]
  dsimp only
  rw [textual, if_neg Bool.false_ne_true, h.replaceAll_eq_ok stripped]
  rfl

theorem apply_standard (path : String) : standardRules.apply path = .ok (bare path) := by
  have build : applyRule { pattern := "^/builddir/build/BUILD/[^/]+/" } buildPattern path =
      .ok (String.ofList (behindBuild path.toList)) :=
    applyRule_eq_ok matchesFront_build rfl rfl (stripped_behindBuild _)
  have dot : applyRule { pattern := "^\\./" } dotPattern
      (String.ofList (behindBuild path.toList)) = .ok (bare path) :=
    applyRule_eq_ok matchesFront_dot rfl rfl (by
      rw [String.toList_ofList]
      exact stripped_behindDot _)
  change applyRules [(_, buildPattern), (_, dotPattern)] path = _
  rw [applyRules, build]
  dsimp only
  rw [applyRules, dot]
  rfl

theorem bare_eq_iff (path found : String) : bare path = found ↔
    ∃ middle, Stripped BuildFront path.toList middle ∧ Stripped DotFront middle found.toList := by
  constructor
  · rintro rfl
    refine ⟨_, stripped_behindBuild _, ?_⟩
    rw [bare, String.toList_ofList]
    exact stripped_behindDot _
  · rintro ⟨middle, build, dot⟩
    obtain rfl := matchesFront_build.stripped_unique build (stripped_behindBuild _)
    have same := matchesFront_dot.stripped_unique dot (stripped_behindDot _)
    rw [bare, ← same, String.ofList_toList]

theorem bare_isSuffix (path : String) : (bare path).toList <:+ path.toList := by
  obtain ⟨middle, build, dot⟩ := (bare_eq_iff path (bare path)).mp rfl
  exact dot.isSuffix.trans build.isSuffix

theorem bare_eq_self_iff (path : String) :
    bare path = path ↔ ¬Begins BuildFront path.toList ∧ ¬Begins DotFront path.toList := by
  rw [bare_eq_iff]
  constructor
  · rintro ⟨middle, build, dot⟩
    -- Two suffixes that end where they began have dropped nothing on their way.
    obtain rfl : middle = path.toList :=
      build.isSuffix.eq_of_length_le (dot.isSuffix.length_le)
    exact ⟨(build.eq_self_iff matchesFront_build.full).mp rfl,
      (dot.eq_self_iff matchesFront_dot.full).mp rfl⟩
  · rintro ⟨build, dot⟩
    exact ⟨_, .none build, .none dot⟩

/-! ## Keys -/

open Backlog in
/-- A look-up in the row of a defect that has just been filed comes upon it just if both files have
the same answer, and then behind the defects that were there before. -/
theorem lookup_insert {ε : Type} {N : String → String} {normalize : Normalizer ε}
    (answers : ∀ path, normalize path = .ok (N path)) {b : Backlog} (wf : b.WellFormed) {d : Defect}
    (traced : d.trace ≠ []) (file : String) :
    ∃ b' taken, b.insert normalize d = .ok b' ∧
      b'.lookup normalize d.checker file = .ok taken ∧
      taken.defect = (b.stock (d.checker, N file) ++
        if N (keyFile d) = N file then [d] else []).head? := by
  have filed := insert_eq (b := b) normalize N d traced (answers _)
  obtain ⟨taken, looked, given, -⟩ := lookup_eq normalize
    (wf.withList (keyOf N d) (b.stock (keyOf N d) ++ [d])) d.checker file (N file)
    fun _ => answers file
  refine ⟨_, taken, filed, looked, ?_⟩
  rw [given, stock_withList wf]
  by_cases same : N (keyFile d) = N file
  · have key : keyOf N d = (d.checker, N file) := by rw [keyOf, same]
    rw [if_pos key, if_pos same, key]
  · have key : keyOf N d ≠ (d.checker, N file) := fun key => same (congrArg Prod.snd key)
    rw [if_neg key, if_neg same, List.append_nil]

/-- **Standard rules.** They have an answer for every path: what is left of it when one build
directory is dropped from its front, if it has one, and then one `./` from the front of the rest;
this is a suffix of the path. They change their own answer just if it has such a front again. A
defect is found under a file just if both paths have the same answer. -/
theorem standard_paths :
    ∃ r, ofRules PathRule.standard = .ok r ∧
      (∀ path, r.apply path = .ok (bare path)) ∧
      (∀ path found, bare path = found ↔ ∃ middle,
        Stripped BuildFront path.toList middle ∧ Stripped DotFront middle found.toList) ∧
      (∀ path, (bare path).toList <:+ path.toList) ∧
      (∀ path, r.apply (bare path) ≠ .ok (bare path) ↔
        Begins DotFront (bare path).toList ∨ Begins BuildFront (bare path).toList) ∧
      ∀ (b : Backlog) (d : Defect) (file : String), b.WellFormed → d.trace ≠ [] →
        ∃ b' taken, b.insert r.apply d = .ok b' ∧
          b'.lookup r.apply d.checker file = .ok taken ∧
          taken.defect = (b.stock (d.checker, bare file) ++
            if bare (Backlog.keyFile d) = bare file then [d] else []).head? := by
  refine ⟨standardRules, ofRules_standard, apply_standard, bare_eq_iff, bare_isSuffix,
    fun path => ?_, fun b d file wf traced => lookup_insert apply_standard wf traced file⟩
  rw [apply_standard, ne_eq, Except.ok.injEq, bare_eq_self_iff, not_and_or, not_not, not_not,
    or_comm]

/-- The first rule can bare a front for the second, and a second front stays. -/
example : bare "/builddir/build/BUILD/pkg-1.0/././src/a.c" = "./src/a.c" := by
  decide +kernel

/-- A defect with its build directory is found under a path without it. -/
theorem standard_paths_in_package :
    let d : Defect :=
      { checker := "UNINIT", trace := [{ file := "/builddir/build/BUILD/pkg-1.0/./src/a.c" }] }
    ∃ r b taken, ofRules PathRule.standard = .ok r ∧ Backlog.insert r.apply d {} = .ok b ∧
      b.lookup r.apply d.checker "src/a.c" = .ok taken ∧ taken.defect = some d := by
  intro d
  obtain ⟨r, made, -, -, -, -, found⟩ := standard_paths
  obtain ⟨b, taken, filed, looked, given⟩ :=
    found {} d "src/a.c" Backlog.wellFormed_empty (List.cons_ne_nil _ _)
  refine ⟨r, b, taken, made, filed, looked, given.trans ?_⟩
  decide +kernel

end PathRules

end Findings
