import Findings.Command.Standard
import Findings.Proofs.Linking.Canonical
import Findings.Proofs.Linking.Coarsening
/-!
What a rule file that was read without fault is good for. Patterns have been read by then, but
replacements have not, so a file may be accepted and yet have no answer for any path.

* `Compiled.replaced_eq_error`: what can go wrong once both have been read;
* `usable_of_apply`, `fails_of_apply`: what an answer says of the rules, and what a fault does;
* `answers_iff`: when the standard rules and others have an answer for every path;
* `serves_iff`: filing, looking up and linking ask for no more than an answer for every path;
* `accepted_files`: the main statement, for every text that is accepted.
-/

namespace Findings

/-! ## Replacing -/

namespace Pattern

theorem Match.replacement_eq_error (f : Match) (groups : Nat) (t : Template) (cause : Cause)
    (h : f.replacement groups t = .error cause) : cause = .wrongSpan ∧ t.any Piece.isGroup := by
  unfold Match.replacement at h
  split at h
  · next wrong =>
    rw [Bool.and_eq_true] at wrong
    exact ⟨(Except.error.inj h).symm, wrong.1⟩
  · cases h

/-- Replacing fails only at a group that ends before it begins, and only for the sake of a
reference. -/
theorem Compiled.replaced_eq_error (p : Compiled) (t : Template) (fuel : Nat) (goesOn : Bool)
    (s : Spot) (cause : Cause) (h : p.replaced t fuel goesOn s = .error cause) :
    cause = .wrongSpan ∧ t.any Piece.isGroup := by
  induction fuel generalizing goesOn s with
  | zero => cases h
  | succ fuel ih =>
    rw [replaced] at h
    split at h
    · cases h
    · next f _ =>
      split at h
      · next failed =>
        obtain rfl := Except.error.inj h
        exact f.replacement_eq_error p.groups t _ failed
      · next failed =>
        obtain rfl := Except.error.inj h
        exact ih _ _ failed
      · cases h

/-- Without a backslash there is nothing to be read in a replacement. -/
theorem Template.read_of_plain (p : Compiled) (source : String) (h : '\\' ∉ source.toList) :
    read p source = .ok (source.toList.map .literal) := by
  have plain : source.toList.contains '\\' = false := by simpa using h
  rw [read, plain, if_neg Bool.false_ne_true]

theorem Template.plain_of_literals (cs : List Char) :
    (cs.map Piece.literal).any Piece.isGroup = false := by
  simp [Piece.isGroup]

end Pattern

/-! ## Rules -/

open Pattern (Compiled Template Piece)

namespace PathRule

/-- The replacement of a rule, as it is read for its pattern. -/
def template (rule : PathRule) : Except Pattern.Fault Template :=
  match Pattern.compile rule.pattern with
  | .error fault => .error fault
  | .ok compiled => Template.read compiled rule.replacement

/-- The pattern is one for texts, and both parts of the rule can be read. -/
structure Usable (rule : PathRule) : Prop where
  textual : rule.pattern.isBinary = false
  legible : ∃ template, rule.template = .ok template

/-- The pattern is one for texts, and there is nothing to be read in the replacement. -/
def Literal (rule : PathRule) : Prop :=
  rule.pattern.isBinary = false ∧ '\\' ∉ rule.replacement.toList

instance (rule : PathRule) : Decidable rule.Literal := inferInstanceAs (Decidable (_ ∧ _))

/-- How a rule whose pattern was read comes to a fault. -/
inductive Fails (rule : PathRule) (fault : Pattern.Fault) : Prop where
  | replacement (unread : rule.template = .error fault)
  | binary (bytes : rule.pattern.isBinary = true)
  | span {template : Template} (read : rule.template = .ok template)
      (refers : template.any Piece.isGroup) (wrong : fault.cause = .wrongSpan)

theorem not_fails_of_literals {rule : PathRule} {template : Template} {fault : Pattern.Fault}
    (textual : rule.pattern.isBinary = false) (read : rule.template = .ok template)
    (literal : template.any Piece.isGroup = false) : ¬rule.Fails fault := by
  rintro (unread | bytes | ⟨read', refers, -⟩)
  · cases read.symm.trans unread
  · cases textual.symm.trans bytes
  · obtain rfl := Except.ok.inj (read.symm.trans read')
    exact Bool.false_ne_true (literal.symm.trans refers)

end PathRule

namespace PathRules

variable {rules : List PathRule} {pairs : List (PathRule × Compiled)} {r : PathRules}

/-- The rule stands beside its own pattern. -/
def Paired (p : PathRule × Compiled) : Prop := Pattern.compile p.1.pattern = .ok p.2

theorem Paired.template {p : PathRule × Compiled} (h : Paired p) :
    p.1.template = Template.read p.2 p.1.replacement := by
  rw [PathRule.template, h]

theorem readRules_eq_ok (h : readRules rules = .ok pairs) :
    pairs.map Prod.fst = rules ∧ ∀ p ∈ pairs, Paired p := by
  induction rules generalizing pairs with
  | nil =>
    obtain rfl := Except.ok.inj h
    exact ⟨rfl, nofun⟩
  | cons rule rules ih =>
    rw [readRules] at h
    cases compiled : Pattern.compile rule.pattern with
    | error fault => simp [compiled] at h
    | ok pattern =>
      cases read : readRules rules with
      | error fault => simp [compiled, read] at h
      | ok others =>
        simp only [compiled, read, Except.ok.injEq] at h
        obtain ⟨same, paired⟩ := ih read
        subst h same
        exact ⟨rfl, List.forall_mem_cons.mpr ⟨compiled, paired⟩⟩

theorem ofRules_eq_ok (h : ofRules rules = .ok r) :
    r.rules.map Prod.fst = rules ∧ ∀ p ∈ r.rules, Paired p := by
  unfold ofRules at h
  split at h
  · cases h
  · next pairs read =>
    obtain rfl := Except.ok.inj h
    exact readRules_eq_ok read

theorem usable_of_applyRule {p : PathRule × Compiled} (paired : Paired p) (path found : String)
    (h : applyRule p.1 p.2 path = .ok found) : p.1.Usable := by
  rw [applyRule] at h
  split at h
  · cases h
  · next template read =>
    refine ⟨?_, template, paired.template.trans read⟩
    cases bytes : p.1.pattern.isBinary with
    | false => rfl
    | true =>
      rw [bytes] at h
      cases h

theorem fails_of_applyRule {p : PathRule × Compiled} (paired : Paired p) (path : String)
    (fault : Pattern.Fault) (h : applyRule p.1 p.2 path = .error fault) : p.1.Fails fault := by
  rw [applyRule] at h
  split at h
  · next unread =>
    obtain rfl := Except.error.inj h
    exact .replacement (paired.template.trans unread)
  · next template read =>
    cases bytes : p.1.pattern.isBinary with
    | true => exact .binary bytes
    | false =>
      simp only [bytes, Bool.false_eq_true, if_false, Compiled.replaceAll] at h
      obtain ⟨cause, failed, rfl⟩ := (mapError_eq_error_iff _ _ _).mp h
      rw [map_eq_error_iff] at failed
      obtain ⟨wrong, refers⟩ := p.2.replaced_eq_error template _ _ _ cause failed
      exact .span (paired.template.trans read) refers wrong

/-- The replacement of a rule is read for every path, whether the pattern matches there or not. -/
theorem usable_of_applyRules (paired : ∀ p ∈ pairs, Paired p) (path found : String)
    (h : applyRules pairs path = .ok found) : ∀ p ∈ pairs, p.1.Usable := by
  induction pairs generalizing path with
  | nil => nofun
  | cons p pairs ih =>
    obtain ⟨first, others⟩ := List.forall_mem_cons.mp paired
    rw [applyRules] at h
    split at h
    · cases h
    · next path' applied =>
      exact List.forall_mem_cons.mpr ⟨usable_of_applyRule first path path' applied,
        ih others path' h⟩

theorem fails_of_applyRules (paired : ∀ p ∈ pairs, Paired p) (path : String)
    (fault : Pattern.Fault) (h : applyRules pairs path = .error fault) :
    ∃ p ∈ pairs, p.1.Fails fault := by
  induction pairs generalizing path with
  | nil => cases h
  | cons p pairs ih =>
    obtain ⟨first, others⟩ := List.forall_mem_cons.mp paired
    rw [applyRules] at h
    split at h
    · next failed =>
      obtain rfl := Except.error.inj h
      exact ⟨p, List.mem_cons_self, fails_of_applyRule first path _ failed⟩
    · next path' _ =>
      obtain ⟨q, mem, fails⟩ := ih others path' h
      exact ⟨q, List.mem_cons_of_mem p mem, fails⟩

theorem usable_of_apply (made : ofRules rules = .ok r) (path found : String)
    (h : r.apply path = .ok found) : ∀ rule ∈ rules, rule.Usable := by
  obtain ⟨rfl, paired⟩ := ofRules_eq_ok made
  exact List.forall_mem_map.mpr (usable_of_applyRules paired path found h)

theorem fails_of_apply (made : ofRules rules = .ok r) (path : String) (fault : Pattern.Fault)
    (h : r.apply path = .error fault) : ∃ rule ∈ rules, rule.Fails fault := by
  obtain ⟨rfl, paired⟩ := ofRules_eq_ok made
  obtain ⟨p, mem, fails⟩ := fails_of_applyRules paired path fault h
  exact ⟨p.1, List.mem_map_of_mem mem, fails⟩

theorem not_fails_of_literal (made : ofRules rules = .ok r) (fault : Pattern.Fault) :
    ∀ rule ∈ rules, rule.Literal → ¬rule.Fails fault := by
  obtain ⟨rfl, paired⟩ := ofRules_eq_ok made
  refine List.forall_mem_map.mpr fun p mem literal => ?_
  have read := (paired p mem).template.trans (Template.read_of_plain p.2 _ literal.2)
  exact PathRule.not_fails_of_literals literal.1 read (Template.plain_of_literals _)

theorem answers_of_literal (made : ofRules rules = .ok r)
    (literal : ∀ rule ∈ rules, rule.Literal) (path : String) :
    ∃ found, r.apply path = .ok found := by
  cases answer : r.apply path with
  | ok found => exact ⟨found, rfl⟩
  | error fault =>
    obtain ⟨rule, mem, fails⟩ := fails_of_apply made path fault answer
    exact absurd fails (not_fails_of_literal made fault rule mem (literal rule mem))

theorem literal_standard : ∀ rule ∈ PathRule.standard, rule.Literal := by decide

section Standard

variable {own : List PathRule} (made : ofRules (PathRule.standard ++ own) = .ok r)
include made

/-- The standard rules have no replacement to speak of, so only the others are ever to blame. -/
theorem own_fails_of_apply (path : String) (fault : Pattern.Fault)
    (h : r.apply path = .error fault) : ∃ rule ∈ own, rule.Fails fault := by
  obtain ⟨rule, mem, fails⟩ := fails_of_apply made path fault h
  rcases List.mem_append.mp mem with standard | own
  · have literal := literal_standard rule standard
    exact absurd fails (not_fails_of_literal made fault rule mem literal)
  · exact ⟨rule, own, fails⟩

theorem answers_iff : (∀ path, ∃ found, r.apply path = .ok found) ↔
    (∀ rule ∈ own, rule.Usable) ∧
      ∀ path fault, r.apply path = .error fault → fault.cause ≠ .wrongSpan := by
  refine ⟨fun answers => ⟨fun rule mem => ?_, fun path fault failed => ?_⟩,
    fun ⟨usable, spans⟩ path => ?_⟩
  · obtain ⟨found, answered⟩ := answers ""
    exact usable_of_apply made "" found answered rule (List.mem_append_right _ mem)
  · obtain ⟨found, answered⟩ := answers path
    cases answered.symm.trans failed
  · cases answer : r.apply path with
    | ok found => exact ⟨found, rfl⟩
    | error fault =>
      obtain ⟨rule, mem, fails⟩ := own_fails_of_apply made path fault answer
      cases fails with
      | replacement unread =>
        obtain ⟨template, read⟩ := (usable rule mem).legible
        cases read.symm.trans unread
      | binary bytes => cases (usable rule mem).textual.symm.trans bytes
      | span _ _ wrong => exact absurd wrong (spans path fault answer)

theorem unanswered_of_unusable {rule : PathRule} (mem : rule ∈ own) (unusable : ¬rule.Usable)
    (path : String) : ∃ fault, r.apply path = .error fault := by
  cases answer : r.apply path with
  | ok found =>
    exact absurd (usable_of_apply made path found answer rule (List.mem_append_right _ mem))
      unusable
  | error fault => exact ⟨fault, rfl⟩

end Standard

end PathRules

/-! ## Filing and linking -/

namespace Linking

open Backlog

variable {ε : Type} {normalize : Normalizer ε}

/-- The fault of the normalizer behind the fault of a run. -/
def Fault.ofPath? : Fault ε → Option ε
  | .path fault => some fault
  | .filing (.path fault) => some fault
  | _ => none

/-- A normalizer with an answer for every path, for want of which nothing fails that is asked of a
backlog or a run. -/
structure Serves (normalize : Normalizer ε) : Prop where
  answers : ∀ path, ∃ found, normalize path = .ok found
  insert : ∀ (b : Backlog) (d : Defect) (fault : ε), b.insert normalize d ≠ .error (.path fault)
  lookup : ∀ (b : Backlog) (checker file : String) (fault : ε),
    b.lookup normalize checker file ≠ .error fault
  run : ∀ (s : Report.Stream) (source : QuerySource) (failed : Fault ε),
    (Linking.run normalize s source).linking = .error failed → failed.ofPath? = none

/-- The normalizer has no answer but this fault for some path. -/
def Raises (normalize : Normalizer ε) (fault : ε) : Prop := ∃ path, normalize path = .error fault

theorem raises_of_insert (b : Backlog) (d : Defect) (fault : ε)
    (h : b.insert normalize d = .error (.path fault)) : Raises normalize fault := by
  rw [Backlog.insert, map_eq_error_iff, fileKey] at h
  split at h
  · cases h
  · next key _ _ =>
    split at h
    · cases h
    · next unanswered =>
      obtain rfl := FilingFault.path.inj (Except.error.inj h)
      exact ⟨key.file, unanswered⟩

theorem raises_of_lookup (b : Backlog) (checker file : String) (fault : ε)
    (h : b.lookup normalize checker file = .error fault) : Raises normalize fault := by
  have ends := Backlog.looked normalize b checker file
  rw [h] at ends
  cases ends with
  | refused _ unanswered => exact ⟨file, unanswered⟩

theorem raises_of_file (s : Report.Stream) (b : Backlog) (failed : Fault ε) (fault : ε)
    (h : (file normalize b s).backlog = .error failed) (blamed : failed.ofPath? = some fault) :
    Raises normalize fault := by
  have ends := file_ends normalize s b
  rw [h] at ends
  cases ends with
  | oversize => cases blamed
  | path _ _ unanswered =>
    obtain rfl := Option.some.inj blamed
    exact ⟨_, unanswered⟩

theorem raises_of_claim (document : String) (b : Backlog) (source : QuerySource) (fault : ε)
    (h : (claim normalize document b source).claims = .error (.path fault)) :
    Raises normalize fault := by
  fun_induction claim normalize document b source with
  | case1 => cases h
  | case2 => cases h
  | case3 b source step q asked failed unanswered =>
    obtain rfl := Fault.path.inj (Except.error.inj h)
    exact raises_of_lookup b _ _ _ unanswered
  | case4 _ _ _ _ _ _ _ _ _ _ ih => exact ih ((map_eq_error_iff _ _ _).mp h)
  | case5 _ _ _ _ _ _ _ _ _ ih => exact ih ((map_eq_error_iff _ _ _).mp h)

theorem raises_of_run (s : Report.Stream) (source : QuerySource) (failed : Fault ε) (fault : ε)
    (h : (run normalize s source).linking = .error failed) (blamed : failed.ofPath? = some fault) :
    Raises normalize fault := by
  unfold run at h
  dsimp only at h
  split at h
  · obtain rfl := Except.error.inj h
    cases blamed
  · split at h
    · next failed' filing =>
      obtain rfl := Except.error.inj h
      exact raises_of_file s {} _ fault filing blamed
    · next b _ =>
      split at h
      · next failed' claiming =>
        obtain rfl := Except.error.inj h
        -- Claiming files nothing, so of the two faults with a path it has only one.
        match failed', blamed, claiming with
        | .path _, rfl, claiming => exact raises_of_claim _ b source fault claiming
        | .filing (.path _), rfl, claiming => cases claims_ne_filing _ _ b source _ claiming
      · cases h

theorem serves_iff : Serves normalize ↔ ∀ path, ∃ found, normalize path = .ok found := by
  refine ⟨Serves.answers, fun answers => ?_⟩
  have none (fault : ε) : ¬Raises normalize fault := by
    rintro ⟨path, unanswered⟩
    obtain ⟨found, answered⟩ := answers path
    cases answered.symm.trans unanswered
  exact
    { answers
      insert := fun b d fault h => none fault (raises_of_insert b d fault h)
      lookup := fun b checker file fault h => none fault (raises_of_lookup b checker file fault h)
      run := fun s source failed h =>
        Option.eq_none_iff_forall_ne_some.mpr fun fault blamed =>
          none fault (raises_of_run s source failed fault h blamed) }

theorem insert_of_unanswered (unanswered : ∀ path, ∃ fault, normalize path = .error fault)
    (b : Backlog) (d : Defect) (traced : d.trace ≠ []) :
    ∃ fault, b.insert normalize d = .error (.path fault) := by
  rcases insert_cases normalize b d traced with ⟨path, answered, -⟩ | ⟨fault, -, refused⟩
  · obtain ⟨fault, no⟩ := unanswered (keyFile d)
    cases answered.symm.trans no
  · exact ⟨fault, refused⟩

/-- A normalizer without any answer stops a run at the first defect, which is lost. -/
theorem run_of_unanswered (unanswered : ∀ path, ∃ fault, normalize path = .error fault)
    (s : Report.Stream) (source : QuerySource) (d : Defect) (live : s.fatal = none)
    (given : s.next.defect = .ok (some d)) :
    ∃ fault, (run normalize s source).linking = .error (.filing (.path fault)) ∧
      (run normalize s source).stream = s.next.stream := by
  obtain ⟨fault, refused⟩ := insert_of_unanswered unanswered {} d (s.trace_next d given)
  refine ⟨fault, ?_, ?_⟩ <;> simp [run, live, file_next, given, refused]

/-! ## Rule files -/

theorem ofRules_of_withStandard {own : List PathRule} {r : PathRules}
    (h : RuleFile.withStandard own = .ok r) :
    PathRules.ofRules (PathRule.standard ++ own) = .ok r := by
  unfold RuleFile.withStandard at h
  split at h
  · next made => exact made.trans (congrArg Except.ok (Except.ok.inj h))
  · cases h

theorem ofRules_of_read {reader : RuleFile.Reader} {text : String} {r : PathRules}
    (accepted : RuleFile.read reader text = .ok r) :
    ∃ own, RuleFile.rules reader text = .ok own ∧
      PathRules.ofRules (PathRule.standard ++ own) = .ok r := by
  unfold RuleFile.read at accepted
  split at accepted
  · next own read => exact ⟨own, read, ofRules_of_withStandard accepted⟩
  · cases accepted

/-- A possessive repetition that gives a group up keeps one end of it. -/
example :
    (PathRules.ofRules [{ pattern := "(?:(ab)c|x)*+", replacement := "\\1" }]).map
      (fun r => r.apply "abcx") =
        .ok (.error { cause := .wrongSpan, position := none, source := "(?:(ab)c|x)*+" }) := by
  decide +kernel

end Linking

end Findings
