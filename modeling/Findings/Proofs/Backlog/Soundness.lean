import Findings.Proofs.Backlog.Register
import Findings.Proofs.Steps
/-!
What holds of a backlog whatever was done to it, also where a normalizer has no answer for a path
and where a defect has no events.

* `lookup_eq_ok`: a look-up that comes to an end takes the first defect of some key;
* `perm_insert`, `perm_lookup`: nothing is lost in between;
* `sound_perform`: no operation does harm, whether it comes to an end or not;
* `WellFormed.holds_iff_stock`, `WellFormed.finds_iff_stock`: a key is there if and only if a
  look-up finds something under it;
* `after_sound`: the main statement, over all histories.
-/

namespace Findings.Backlog

variable {ε : Type} {normalize : Normalizer ε} {b : Backlog}

/-- Nothing is empty, no key stands twice, and each defect waits under its own checker and under the
path that the file of its key event is normalized to. -/
structure Sound (normalize : Normalizer ε) (b : Backlog) : Prop where
  wellFormed : b.WellFormed
  placed : ∀ k, ∀ d ∈ b.stock k, d.checker = k.1 ∧ fileKey normalize d = .ok k.2

theorem sound_empty (normalize : Normalizer ε) : Sound normalize {} where
  wellFormed := wellFormed_empty
  placed _ _ mem := absurd mem List.not_mem_nil

/-! ## One operation -/

theorem insert_eq_ok {d : Defect} {next : Backlog} (h : b.insert normalize d = .ok next) :
    ∃ path, fileKey normalize d = .ok path ∧
      next = b.withList (d.checker, path) (b.stock (d.checker, path) ++ [d]) := by
  obtain ⟨path, key, rfl⟩ := (map_eq_ok_iff _ _ _).mp h
  exact ⟨path, key, b.push_eq path d⟩

/-- A look-up that comes to an end takes the first defect of some key, if it has one. Where the
checker has no row, this key may be any. -/
theorem lookup_eq_ok (hb : b.WellFormed) {checker file : String} {taken : Taken}
    (h : b.lookup normalize checker file = .ok taken) :
    ∃ path, taken.defect = (b.stock (checker, path)).head? ∧
      taken.backlog = b.taking (checker, path) := by
  have found (path : String) (answer : checker ∈ Assoc.keys b.rows → normalize file = .ok path) :
      taken.defect = (b.stock (checker, path)).head? ∧
        taken.backlog = b.taking (checker, path) := by
    obtain ⟨taken', h', given, left⟩ := lookup_eq normalize hb checker file path answer
    obtain rfl : taken = taken' := eq_of_eq_ok h h'
    exact ⟨given, left⟩
  cases answer : normalize file with
  | ok path => exact ⟨path, found path fun _ => answer⟩
  | error fault =>
    refine ⟨"", found "" fun there => ?_⟩
    obtain ⟨row, hrow⟩ := (Assoc.mem_keys_iff checker b.rows).mp there
    rw [lookup, hrow] at h
    dsimp only at h
    rw [answer] at h
    cases h

theorem WellFormed.insert (hb : b.WellFormed) {d : Defect} {next : Backlog}
    (h : b.insert normalize d = .ok next) : next.WellFormed := by
  obtain ⟨path, -, rfl⟩ := insert_eq_ok h
  exact hb.withList _ _

theorem perm_insert {d : Defect} {next : Backlog} (h : b.insert normalize d = .ok next) :
    next.toList.Perm (b.toList ++ [d]) := by
  obtain ⟨path, -, rfl⟩ := insert_eq_ok h
  exact b.toList_behind _ d

theorem WellFormed.lookup (hb : b.WellFormed) {checker file : String} {taken : Taken}
    (h : b.lookup normalize checker file = .ok taken) : taken.backlog.WellFormed := by
  obtain ⟨path, -, left⟩ := lookup_eq_ok hb h
  rw [left]
  exact hb.withList _ _

theorem perm_lookup (hb : b.WellFormed) {checker file : String} {taken : Taken}
    (h : b.lookup normalize checker file = .ok taken) :
    (taken.defect.toList ++ taken.backlog.toList).Perm b.toList := by
  obtain ⟨path, given, left⟩ := lookup_eq_ok hb h
  rw [given, left]
  exact (b.toList_taking (checker, path)).symm

theorem Sound.withList (h : Sound normalize b) (k : String × String) (l : List Defect)
    (placed : ∀ d ∈ l, d.checker = k.1 ∧ fileKey normalize d = .ok k.2) :
    Sound normalize (b.withList k l) where
  wellFormed := h.wellFormed.withList k l
  placed j d mem := by
    rw [stock_withList h.wellFormed] at mem
    split at mem
    · next same => exact same ▸ placed d mem
    · exact h.placed j d mem

theorem Sound.insert (h : Sound normalize b) {d : Defect} {next : Backlog}
    (inserted : b.insert normalize d = .ok next) : Sound normalize next := by
  obtain ⟨path, key, rfl⟩ := insert_eq_ok inserted
  apply h.withList
  intro e mem
  rcases List.mem_append.mp mem with old | new
  · exact h.placed _ e old
  · rw [List.mem_singleton.mp new]
    exact ⟨rfl, key⟩

theorem Sound.lookup (h : Sound normalize b) {checker file : String} {taken : Taken}
    (found : b.lookup normalize checker file = .ok taken) : Sound normalize taken.backlog := by
  obtain ⟨path, -, left⟩ := lookup_eq_ok h.wellFormed found
  rw [left]
  exact h.withList _ _ fun d mem => h.placed _ d (List.mem_of_mem_tail mem)

/-- **One step.** An operation that fails leaves the backlog as it was, and any other one leaves it
sound. -/
theorem sound_perform (h : Sound normalize b) (op : Op) :
    Sound normalize (perform normalize b op).backlog := by
  cases op with
  | insert d =>
    rw [perform]
    split
    · next inserted => exact h.insert inserted
    · exact h
  | lookup checker file =>
    rw [perform]
    split
    · next found => exact h.lookup found
    · exact h
  | drain => exact sound_empty normalize

theorem sound_after (normalize : Normalizer ε) (ops : List Op) :
    Sound normalize (after normalize ops) := by
  induction ops using List.reverseRecOn with
  | nil => exact sound_empty normalize
  | append_singleton ops op ih =>
    rw [after_snoc]
    exact sound_perform ih op

/-! ## What is there -/

/-- A checker has a row, and this row has a list for the path. -/
def Holds (b : Backlog) (checker path : String) : Prop :=
  ∃ row list, (checker, row) ∈ b.rows ∧ (path, list) ∈ row

/-- A look-up gives a defect. -/
def Finds (normalize : Normalizer ε) (b : Backlog) (checker file : String) : Prop :=
  ∃ taken d, b.lookup normalize checker file = .ok taken ∧ taken.defect = some d

theorem WellFormed.row_eq (h : b.WellFormed) {checker : String} {row : Row}
    (mem : (checker, row) ∈ b.rows) : b.row checker = row :=
  row_of_get? ((Assoc.get?_eq_some_iff checker row b.rows h.rows.nodup).mpr mem)

theorem WellFormed.stock_eq (h : b.WellFormed) {checker path : String} {row : Row}
    {list : List Defect} (inRows : (checker, row) ∈ b.rows) (inRow : (path, list) ∈ row) :
    b.stock (checker, path) = list := by
  have nodup := (h.lists checker).nodup
  rw [h.row_eq inRows] at nodup
  exact stock_of_get? ((Assoc.get?_eq_some_iff checker row b.rows h.rows.nodup).mpr inRows)
    ((Assoc.get?_eq_some_iff path list row nodup).mpr inRow)

theorem WellFormed.holds_iff_stock (h : b.WellFormed) (checker path : String) :
    b.Holds checker path ↔ b.stock (checker, path) ≠ [] := by
  rw [← h.mem_row_iff (checker, path)]
  constructor
  · rintro ⟨row, list, inRows, inRow⟩
    rw [h.row_eq inRows]
    exact List.mem_map_of_mem inRow
  · intro mem
    have there : b.row checker ≠ [] := by
      rintro none
      rw [none] at mem
      cases mem
    obtain ⟨row, found⟩ :=
      (Assoc.mem_keys_iff checker b.rows).mp ((h.rows.mem_iff checker).mpr there)
    have inRows := (Assoc.get?_eq_some_iff checker row b.rows h.rows.nodup).mp found
    obtain ⟨⟨path, list⟩, inRow, rfl⟩ := List.mem_map.mp mem
    exact ⟨row, list, inRows, h.row_eq inRows ▸ inRow⟩

/-- A look-up whose file has a normalized path finds what waits under this path. -/
theorem WellFormed.finds_iff_stock (h : b.WellFormed) {checker file path : String}
    (answer : normalize file = .ok path) :
    Finds normalize b checker file ↔ b.stock (checker, path) ≠ [] := by
  obtain ⟨taken, found, given, -⟩ := lookup_eq normalize h checker file path fun _ => answer
  have finds : Finds normalize b checker file ↔ ∃ d, taken.defect = some d := by
    constructor
    · rintro ⟨taken', d, found', some⟩
      exact ⟨d, eq_of_eq_ok found' found ▸ some⟩
    · rintro ⟨d, some⟩
      exact ⟨taken, d, found, some⟩
  rw [finds, given, ← Option.ne_none_iff_exists', ne_eq, ne_eq, List.head?_eq_none_iff]

/-- An empty backlog is one without defects. -/
theorem WellFormed.isEmpty_iff_toList (h : b.WellFormed) : b.isEmpty = true ↔ b.toList = [] := by
  rw [isEmpty, List.isEmpty_iff]
  constructor
  · intro none
    rw [toList, none, List.flatMap_nil]
  · intro none
    by_contra some
    obtain ⟨⟨checker, row⟩, rows, hrows⟩ := List.exists_cons_of_ne_nil some
    have there : checker ∈ Assoc.keys b.rows := by rw [hrows]; exact List.mem_cons_self
    obtain ⟨path, waiting⟩ := (h.mem_rows_iff checker).mp there
    have none : b.stock (checker, path) = [] := by
      rw [toList_eq h, List.flatMap_eq_nil_iff] at none
      exact List.flatMap_eq_nil_iff.mp (none checker there) path
        ((h.mem_row_iff (checker, path)).mpr waiting)
    exact waiting none

theorem fileKey_eq_ok_iff (d : Defect) (path : String) :
    fileKey normalize d = .ok path ↔
      ∃ key rest, d.trace = key :: rest ∧ normalize key.file = .ok path := by
  unfold fileKey
  cases d.trace with
  | nil => simp
  | cons key rest =>
    cases answer : normalize key.file with
    | ok found => simp [answer]
    | error fault => simp [answer]

/-- **Nothing empty, nothing misplaced.** Behind every history of insertions, look-ups and drains,
some of which may have failed, no checker has an empty row and no path an empty list, no key stands
twice, and each defect waits under its checker and the normalized file of its key event. So a
backlog is empty if and only if its size is zero, and if and only if draining gives nothing. A key
that is there is one that files are normalized to, and looking up any of these files finds a defect
if and only if the key is there. -/
theorem after_sound (normalize : Normalizer ε) (ops : List Op) :
    let b := after normalize ops
    (Assoc.keys b.rows).Nodup ∧
    (∀ checker row, (checker, row) ∈ b.rows → row ≠ [] ∧ (Assoc.keys row).Nodup ∧
      ∀ path list, (path, list) ∈ row → list ≠ [] ∧
        ∀ d ∈ list, d.checker = checker ∧
          ∃ key rest, d.trace = key :: rest ∧ normalize key.file = .ok path) ∧
    (b.isEmpty = true ↔ b.size = 0) ∧ (b.size = 0 ↔ b.drain.1 = []) ∧
    ∀ checker path, (b.Holds checker path → ∃ file, normalize file = .ok path) ∧
      ∀ file, normalize file = .ok path →
        (b.Holds checker path ↔ Finds normalize b checker file) := by
  intro b
  have sound : Sound normalize b := sound_after normalize ops
  have wf : b.WellFormed := sound.wellFormed
  have size : b.size = 0 ↔ b.toList = [] := List.length_eq_zero_iff
  have placed (k : String × String) (d : Defect) (mem : d ∈ b.stock k) :
      d.checker = k.1 ∧ ∃ key rest, d.trace = key :: rest ∧ normalize key.file = .ok k.2 := by
    obtain ⟨checker, key⟩ := sound.placed k d mem
    exact ⟨checker, (fileKey_eq_ok_iff d k.2).mp key⟩
  refine ⟨wf.rows.nodup, fun checker row inRows => ?_, ?_, size, fun checker path => ⟨?_, ?_⟩⟩
  · have same := wf.row_eq inRows
    refine ⟨?_, same ▸ (wf.lists checker).nodup, fun path list inRow => ?_⟩
    · rw [← same]
      exact wf.rows.ne_nil checker (List.mem_map_of_mem inRows)
    · rw [← wf.stock_eq inRows inRow]
      refine ⟨?_, placed (checker, path)⟩
      exact (wf.holds_iff_stock checker path).mp ⟨row, list, inRows, inRow⟩
  · exact wf.isEmpty_iff_toList.trans size.symm
  · intro there
    obtain ⟨d, rest, waiting⟩ :=
      List.exists_cons_of_ne_nil ((wf.holds_iff_stock checker path).mp there)
    obtain ⟨-, key, _, -, answer⟩ := placed (checker, path) d (waiting ▸ List.mem_cons_self)
    exact ⟨key.file, answer⟩
  · intro file answer
    exact (wf.holds_iff_stock checker path).trans (wf.finds_iff_stock answer).symm

/-- No answer for one path, one file for two others. -/
def lossy : Normalizer Unit := fun path =>
  if path = "lost.c" then .error () else if path = "./x.c" then .ok "x.c" else .ok path

/-- Two insertions that fail, two that do not, a look-up that fails, one that is in vain and one
that takes the older defect. -/
def troubled : List Op :=
  [.insert { checker := "A", trace := [{ file := "lost.c" }], cwe := 1 },
   .insert { checker := "A", cwe := 2 },
   .insert { checker := "A", trace := [{ file := "./x.c" }], cwe := 3 },
   .insert { checker := "A", trace := [{ file := "x.c" }], cwe := 4 },
   .lookup "A" "lost.c", .lookup "B" "lost.c", .lookup "A" "x.c"]

/-- What is left is one defect, and it is found under either spelling of its file. -/
theorem after_sound_troubled :
    let b := after lossy troubled
    let d : Defect := { checker := "A", trace := [{ file := "x.c" }], cwe := 4 }
    b.rows = [("A", [("x.c", [d])])] ∧ b.Holds "A" "x.c" ∧ ¬b.Holds "A" "y.c" ∧
      lossy "./x.c" = .ok "x.c" ∧ Finds lossy b "A" "./x.c" ∧
      lossy "y.c" = .ok "y.c" ∧ ¬Finds lossy b "A" "y.c" := by
  intro b d
  have rows : b.rows = [("A", [("x.c", [d])])] := by decide
  have there : b.Holds "A" "x.c" :=
    ⟨[("x.c", [d])], [d], rows ▸ List.mem_cons_self, List.mem_cons_self⟩
  have absent : ¬b.Holds "A" "y.c" := by
    rintro ⟨row, list, inRows, inRow⟩
    simp [rows] at inRows
    simp [inRows] at inRow
  obtain ⟨-, -, -, -, keys⟩ := after_sound lossy troubled
  refine ⟨rows, there, absent, rfl, ?_, rfl, ?_⟩
  · exact ((keys "A" "x.c").2 "./x.c" rfl).mp there
  · exact fun found => absent (((keys "A" "y.c").2 "y.c" rfl).mpr found)

end Findings.Backlog
