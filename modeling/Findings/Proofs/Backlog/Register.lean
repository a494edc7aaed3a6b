import Findings.Proofs.Backlog.Stock
import Mathlib.Data.Nat.Find
import Mathlib.Data.List.Induction
/-!
Histories of a backlog, and the plain register they can be compared with: one list of entries in the
order of their insertion, from which a look-up removes the first entry of its key.

* `under_append`, `under_eraseP`, `head?_under`: a register, too, has one list for each key;
* `since_snoc`: how the time since when something is in the register moves with one operation;
* `insert_at_since`: that time is the time of an insertion.
-/

namespace Findings.Backlog

/-- What is done to a backlog. -/
inductive Op where
  | insert (d : Defect)
  | lookup (checker file : String)
  | drain
  deriving DecidableEq, Repr

inductive Answer where
  | done
  | taken (d : Option Defect)
  | drained (ds : List Defect)
  deriving DecidableEq, Repr

/-- An answer, or why there is none, with the backlog behind the operation. -/
structure Performed (ε : Type) where
  answer : Except (FilingFault ε) Answer
  backlog : Backlog

variable {ε : Type}

/-- An operation that fails leaves the backlog as it was. -/
def perform (normalize : Normalizer ε) (b : Backlog) : Op → Performed ε
  | .insert d =>
    match b.insert normalize d with
    | .ok next => ⟨.ok .done, next⟩
    | .error fault => ⟨.error fault, b⟩
  | .lookup checker file =>
    match b.lookup normalize checker file with
    | .ok t => ⟨.ok (.taken t.defect), t.backlog⟩
    | .error fault => ⟨.error (.path fault), b⟩
  | .drain => ⟨.ok (.drained b.drain.1), b.drain.2⟩

/-- The backlog behind a history that begins with nothing. -/
def after (normalize : Normalizer ε) (ops : List Op) : Backlog :=
  ops.foldl (fun b op => (perform normalize b op).backlog) {}

theorem after_snoc (normalize : Normalizer ε) (ops : List Op) (op : Op) :
    after normalize (ops ++ [op]) = (perform normalize (after normalize ops) op).backlog := by
  rw [after, List.foldl_append]
  rfl

/-! ## The register -/

/-- Entries with their key, in the order of their insertion. -/
abbrev Register := List ((String × String) × Defect)

namespace Register

/-- The answer to an operation and the register behind it. -/
def perform (N : String → String) (r : Register) : Op → Answer × Register
  | .insert d => (.done, r ++ [(keyOf N d, d)])
  | .lookup checker file =>
    (.taken ((r.find? fun e => e.1 = (checker, N file)).map Prod.snd),
      r.eraseP fun e => e.1 = (checker, N file))
  | .drain => (.drained (r.map Prod.snd), [])

def after (N : String → String) (ops : List Op) : Register :=
  ops.foldl (fun r op => (perform N r op).2) []

theorem after_snoc (N : String → String) (ops : List Op) (op : Op) :
    after N (ops ++ [op]) = (perform N (after N ops) op).2 := by
  rw [after, List.foldl_append]
  rfl

/-- The defects under a key, oldest first. -/
def under (r : Register) (k : String × String) : List Defect :=
  (r.filter fun e => e.1 = k).map Prod.snd

/-- Whether some entry has a key of this kind. -/
def holds (kind : String × String → Bool) (r : Register) : Bool := r.any fun e => kind e.1

/-- The keys of one checker. -/
def ofChecker (checker : String) (k : String × String) : Bool := k.1 = checker

/-- One single key. -/
def only (k j : String × String) : Bool := j = k

theorem holds_iff (r : Register) (kind : String × String → Bool) :
    r.holds kind = true ↔ ∃ e ∈ r, kind e.1 = true :=
  List.any_eq_true

theorem under_ne_nil_iff (r : Register) (k : String × String) :
    r.under k ≠ [] ↔ ∃ e ∈ r, e.1 = k := by
  rw [under, ne_eq, List.map_eq_nil_iff, List.filter_eq_nil_iff]
  simp only [decide_eq_true_eq, not_forall, not_not, exists_prop]

theorem holds_only_iff (r : Register) (k : String × String) :
    r.holds (only k) = true ↔ r.under k ≠ [] := by
  simp only [holds_iff, under_ne_nil_iff, only, decide_eq_true_eq]

theorem holds_ofChecker_iff (r : Register) (checker : String) :
    r.holds (ofChecker checker) = true ↔ ∃ path, r.under (checker, path) ≠ [] := by
  simp only [holds_iff, under_ne_nil_iff, ofChecker, decide_eq_true_eq]
  constructor
  · rintro ⟨e, he, rfl⟩
    exact ⟨e.1.2, e, he, rfl⟩
  · rintro ⟨path, e, he, h⟩
    exact ⟨e, he, congrArg Prod.fst h⟩

theorem under_append (r : Register) (j k : String × String) (d : Defect) :
    under (r ++ [(j, d)]) k = if j = k then r.under k ++ [d] else r.under k := by
  rw [under, List.filter_append, List.map_append]
  by_cases h : j = k <;> simp [h, under]

theorem head?_under (r : Register) (k : String × String) :
    (r.find? fun e => e.1 = k).map Prod.snd = (r.under k).head? := by
  rw [under, List.head?_map, List.head?_filter]

theorem under_eraseP (r : Register) (j k : String × String) :
    under (r.eraseP fun e => e.1 = j) k = if j = k then (r.under k).tail else r.under k := by
  induction r with
  | nil => simp [under]
  | cons e r ih =>
    by_cases he : e.1 = j
    · rw [List.eraseP_cons_of_pos (by simpa using he)]
      by_cases hk : j = k <;> simp [under, he, hk]
    · rw [List.eraseP_cons_of_neg (by simpa using he)]
      rw [under] at ih ⊢
      by_cases hk : e.1 = k
      · have hj : j ≠ k := fun h => he (hk.trans h.symm)
        simpa [under, hk, hj] using ih
      · simpa [under, hk] using ih

/-- A look-up removes what it answers. -/
theorem perm_eraseP (r : Register) (k : String × String) :
    (r.map Prod.snd).Perm
      ((r.under k).head?.toList ++ (r.eraseP fun e => e.1 = k).map Prod.snd) := by
  induction r with
  | nil => simp [under]
  | cons e r ih =>
    by_cases he : e.1 = k
    · simp [under, he]
    · rw [List.eraseP_cons_of_neg (by simpa using he)]
      have same : under (e :: r) k = under r k := by simp [under, he]
      rw [same, List.map_cons, List.map_cons]
      exact (ih.cons e.2).trans List.perm_middle.symm

/-! ## Since when something is there -/

/-- How many operations were done when keys of this kind were last absent. If there is one now, the
operation behind them inserted it, and there has been one ever since. -/
def since (N : String → String) (kind : String × String → Bool) (ops : List Op) : Nat :=
  Nat.findGreatest (fun i => (after N (ops.take i)).holds kind = false) ops.length

variable (N : String → String) (kind : String × String → Bool) (ops : List Op)

theorem since_le : since N kind ops ≤ ops.length := Nat.findGreatest_le _

theorem absent_since : (after N (ops.take (since N kind ops))).holds kind = false :=
  Nat.findGreatest_spec (P := fun i => (after N (ops.take i)).holds kind = false)
    (Nat.zero_le _) rfl

theorem since_of_absent (h : (after N ops).holds kind = false) :
    since N kind ops = ops.length := by
  apply Nat.findGreatest_eq
  rwa [List.take_length]

theorem since_lt (h : (after N ops).holds kind = true) : since N kind ops < ops.length := by
  apply Nat.lt_of_le_of_ne (since_le N kind ops)
  intro e
  have := absent_since N kind ops
  rw [e, List.take_length, h] at this
  exact Bool.noConfusion this

theorem since_snoc (op : Op) (h : (after N (ops ++ [op])).holds kind = true) :
    since N kind (ops ++ [op]) = since N kind ops := by
  have early (i : Nat) (hi : i ≤ ops.length) : (ops ++ [op]).take i = ops.take i :=
    List.take_append_of_le_length hi
  have lt := since_lt N kind (ops ++ [op]) h
  rw [List.length_append, List.length_singleton, Nat.lt_succ_iff] at lt
  rw [eq_comm, since, Nat.findGreatest_eq_iff]
  refine ⟨lt, fun _ => ?_, fun i hi hl ha => ?_⟩
  · rw [← early _ lt]
    exact absent_since N kind (ops ++ [op])
  · refine Nat.findGreatest_is_greatest hi ?_ ((early i hl).symm ▸ ha)
    rw [List.length_append]
    exact Nat.le_add_right_of_le hl

omit ops in
/-- What appears in a register was inserted. -/
theorem insert_of_appears (r : Register) (op : Op) (before : r.holds kind = false)
    (behind : (perform N r op).2.holds kind = true) :
    ∃ d, op = .insert d ∧ kind (keyOf N d) = true := by
  obtain ⟨e, he, hk⟩ := (holds_iff _ kind).mp behind
  have new : e ∉ r := by
    intro hr
    rw [(holds_iff r kind).mpr ⟨e, hr, hk⟩] at before
    exact Bool.noConfusion before
  cases op with
  | insert d =>
    rcases List.mem_append.mp he with hr | hs
    · exact absurd hr new
    · rw [List.mem_singleton.mp hs] at hk
      exact ⟨d, rfl, hk⟩
  | lookup checker file => exact absurd (List.mem_of_mem_eraseP he) new
  | drain => exact absurd he List.not_mem_nil

theorem insert_at_since (h : (after N ops).holds kind = true) :
    ∃ d, ops[since N kind ops]? = some (.insert d) ∧ kind (keyOf N d) = true := by
  have lt := since_lt N kind ops h
  have later : (after N (ops.take (since N kind ops + 1))).holds kind = true := by
    rw [← Bool.not_eq_false]
    intro ha
    have := Nat.findGreatest_is_greatest (Nat.lt_succ_self (since N kind ops)) lt
    exact this ha
  rw [List.take_add_one, List.getElem?_eq_getElem lt, Option.toList_some, after_snoc] at later
  obtain ⟨d, hd, hk⟩ := insert_of_appears N kind _ _ (absent_since N kind ops) later
  exact ⟨d, by rw [List.getElem?_eq_getElem lt, hd], hk⟩

end Register

end Findings.Backlog
