import Findings.Backlog
import Findings.Proofs.AssocLists
/-!
A backlog read as one list of defects for each key. Filing and taking both replace the list of one
key (`withList`), so what they do to a backlog is said once, here.

* `looked`: the ways in which a look-up can end;
* `push_eq`, `lookup_eq`: filing puts a defect behind the list of its key, a look-up takes the first
  one of a list away;
* `stock_withList`, `keys_withList`: what replacing a list does to lists and to the order of keys;
* `toList_withList`: it does not touch the defects of other keys;
* `toList_behind`, `toList_taking`: filing adds one defect, and a look-up removes what it gives;
* `toList_eq`: all defects, checker by checker and file by file.
-/

namespace Findings

namespace Backlog

/-- A normalizer that has an answer for every path. -/
def always {ε : Type} (N : String → String) : Normalizer ε := fun path => .ok (N path)

/-- The file of the key event. -/
def keyFile (d : Defect) : String := (d.trace.map Event.file).headD ""

/-- The key under which a defect with events is filed. -/
def keyOf (N : String → String) (d : Defect) : String × String := (d.checker, N (keyFile d))

/-- The defects that wait under a key. -/
def stock (b : Backlog) (k : String × String) : List Defect := b.listAt k.1 k.2

/-- No key stands twice, and neither a row nor a list is empty. -/
structure WellFormed (b : Backlog) : Prop where
  rows : Assoc.Filled b.rows
  lists : ∀ checker, Assoc.Filled (b.row checker)

/-- The backlog with another list under one key. -/
def withList (b : Backlog) (k : String × String) (l : List Defect) : Backlog :=
  ⟨Assoc.store k.1 (Assoc.store k.2 l (b.row k.1)) b.rows⟩

variable {b : Backlog}

theorem wellFormed_empty : WellFormed {} :=
  ⟨Assoc.Filled.nil, fun _ => Assoc.Filled.nil⟩

theorem row_withList (hb : b.WellFormed) (k : String × String) (l : List Defect)
    (checker : String) :
    (b.withList k l).row checker =
      if k.1 = checker then Assoc.store k.2 l (b.row checker) else b.row checker := by
  rw [row, withList, Assoc.get?_store _ _ _ _ hb.rows]
  by_cases h : k.1 = checker
  · rw [if_pos h, if_pos h, h]
  · rw [if_neg h, if_neg h]
    rfl

theorem WellFormed.withList (hb : b.WellFormed) (k : String × String) (l : List Defect) :
    (b.withList k l).WellFormed where
  rows := hb.rows.store k.1 _
  lists := by
    intro checker
    rw [row_withList hb]
    split
    · exact (hb.lists checker).store k.2 l
    · exact hb.lists checker

theorem stock_withList (hb : b.WellFormed) (k j : String × String) (l : List Defect) :
    (b.withList k l).stock j = if k = j then l else b.stock j := by
  rw [stock, listAt, row_withList hb]
  by_cases h : k.1 = j.1
  · rw [if_pos h, Assoc.get?_store _ _ _ _ (hb.lists j.1)]
    simp only [Prod.ext_iff, h, true_and]
    rfl
  · have hk : k ≠ j := fun e => h (congrArg Prod.fst e)
    rw [if_neg h, if_neg hk]
    rfl

theorem WellFormed.mem_row_iff (hb : b.WellFormed) (k : String × String) :
    k.2 ∈ Assoc.keys (b.row k.1) ↔ b.stock k ≠ [] :=
  (hb.lists k.1).mem_iff k.2

theorem WellFormed.mem_rows_iff (hb : b.WellFormed) (checker : String) :
    checker ∈ Assoc.keys b.rows ↔ ∃ path, b.stock (checker, path) ≠ [] := by
  rw [hb.rows.mem_iff checker]
  change b.row checker ≠ [] ↔ _
  constructor
  · intro h
    obtain ⟨p, rest, hp⟩ := List.exists_cons_of_ne_nil h
    refine ⟨p.1, (hb.mem_row_iff (checker, p.1)).mp ?_⟩
    simp [hp, Assoc.keys]
  · rintro ⟨path, h⟩ hrow
    have := (hb.mem_row_iff (checker, path)).mpr h
    simp [hrow, Assoc.keys] at this

/-- A key whose list becomes empty loses its place, a new key goes to the end. -/
theorem keys_withList (hb : b.WellFormed) (k : String × String) (l : List Defect)
    (checker : String) :
    Assoc.keys ((b.withList k l).row checker) =
      if k.1 = checker then
        if l = [] then (Assoc.keys (b.row checker)).erase k.2
        else if b.stock k = [] then Assoc.keys (b.row checker) ++ [k.2]
        else Assoc.keys (b.row checker)
      else Assoc.keys (b.row checker) := by
  rw [row_withList hb]
  by_cases h : k.1 = checker
  · subst h
    simp only [↓reduceIte, Assoc.keys_store, hb.mem_row_iff, ite_not]
  · simp only [h, ↓reduceIte]

/-- The keys of a list that is written were there before, or go to the end. -/
theorem keys_rows_withList (hb : b.WellFormed) (k : String × String) (l : List Defect) :
    Assoc.keys (b.withList k l).rows =
      if (b.withList k l).row k.1 = [] then (Assoc.keys b.rows).erase k.1
      else if k.1 ∈ Assoc.keys b.rows then Assoc.keys b.rows
      else Assoc.keys b.rows ++ [k.1] := by
  rw [row_withList hb, if_pos rfl]
  exact Assoc.keys_store _ _ _

/-- Writing what is there changes nothing. -/
theorem withList_self (hb : b.WellFormed) (k : String × String) :
    b.withList k (b.stock k) = b := by
  have list : Assoc.store k.2 (b.stock k) (b.row k.1) = b.row k.1 :=
    Assoc.store_self k.2 (b.row k.1) (hb.lists k.1)
  rw [withList, list]
  exact congrArg Backlog.mk (Assoc.store_self k.1 b.rows hb.rows)

/-! ## All defects -/

theorem toList_eq (hb : b.WellFormed) :
    b.toList = (Assoc.keys b.rows).flatMap fun checker =>
      (Assoc.keys (b.row checker)).flatMap fun path => b.stock (checker, path) := by
  have row (c : String) : (b.row c).flatMap Prod.snd =
      (Assoc.keys (b.row c)).flatMap fun path => b.stock (c, path) :=
    Assoc.flatMap_keys (fun _ l => l.getD []) (b.row c) (hb.lists c).nodup
  simp only [← row]
  exact Assoc.flatMap_keys (fun _ (r : Option Row) => (r.getD []).flatMap Prod.snd) b.rows
    hb.rows.nodup

/-- Besides the list of a key there are some defects that do not depend on it. -/
theorem toList_withList (b : Backlog) (k : String × String) :
    ∃ others, b.toList.Perm (b.stock k ++ others) ∧
      ∀ l, (b.withList k l).toList.Perm (l ++ others) := by
  let inRow : Row → List Defect := fun row => row.flatMap Prod.snd
  let lists := (Assoc.erase k.2 (b.row k.1)).flatMap Prod.snd
  let rows := (Assoc.erase k.1 b.rows).flatMap fun p => inRow p.2
  have here : (inRow (b.row k.1)).Perm (b.stock k ++ lists) :=
    Assoc.flatMap_perm id rfl k.2 (b.row k.1)
  have there (l : List Defect) : (inRow (Assoc.store k.2 l (b.row k.1))).Perm (l ++ lists) :=
    Assoc.flatMap_store id rfl k.2 l (b.row k.1)
  refine ⟨lists ++ rows, ?_, fun l => ?_⟩
  · rw [← List.append_assoc]
    exact (Assoc.flatMap_perm inRow rfl k.1 b.rows).trans (here.append_right rows)
  · rw [← List.append_assoc]
    exact (Assoc.flatMap_store inRow rfl k.1 _ b.rows).trans ((there l).append_right rows)

/-- One more defect behind those of its key. -/
theorem toList_behind (b : Backlog) (k : String × String) (d : Defect) :
    (b.withList k (b.stock k ++ [d])).toList.Perm (b.toList ++ [d]) := by
  obtain ⟨others, before, behind⟩ := b.toList_withList k
  calc (b.withList k (b.stock k ++ [d])).toList
    _ |>.Perm (b.stock k ++ [d] ++ others) := behind _
    _ |>.Perm (b.stock k ++ others ++ [d]) := by
      rw [List.append_assoc, List.append_assoc]
      exact List.perm_append_comm.append_left _
    _ |>.Perm (b.toList ++ [d]) := before.symm.append_right [d]

/-! ## Taking the first defect of a key -/

/-- The backlog without the first defect of a key. -/
def taking (b : Backlog) (k : String × String) : Backlog := b.withList k (b.stock k).tail

theorem stock_taking (hb : b.WellFormed) (k j : String × String) :
    (b.taking k).stock j = if k = j then (b.stock j).tail else b.stock j := by
  rw [taking, stock_withList hb]
  by_cases h : k = j
  · rw [if_pos h, if_pos h, h]
  · rw [if_neg h, if_neg h]

theorem toList_taking (b : Backlog) (k : String × String) :
    b.toList.Perm ((b.stock k).head?.toList ++ (b.taking k).toList) := by
  obtain ⟨others, before, behind⟩ := b.toList_withList k
  refine before.trans ?_
  cases hs : b.stock k with
  | nil => simpa [taking, hs] using (behind []).symm
  | cons d rest => simpa [taking, hs] using (behind rest).symm

theorem keys_row_taking (hb : b.WellFormed) (k : String × String) (checker : String) :
    (Assoc.keys ((b.taking k).row checker)).Sublist (Assoc.keys (b.row checker)) := by
  rw [taking, keys_withList hb]
  split
  · split
    · exact List.erase_sublist
    · next ht =>
      have : b.stock k ≠ [] := fun h => ht (by rw [h, List.tail_nil])
      simp only [if_neg this, List.Sublist.refl]
  · exact .refl _

theorem keys_rows_taking (hb : b.WellFormed) (k : String × String) :
    (Assoc.keys (b.taking k).rows).Sublist (Assoc.keys b.rows) := by
  have there (h : (b.taking k).row k.1 ≠ []) : k.1 ∈ Assoc.keys b.rows := by
    rw [hb.rows.mem_iff]
    intro none
    change b.row k.1 = [] at none
    have keys := List.sublist_nil.mp (none ▸ keys_row_taking hb k k.1)
    exact h (List.map_eq_nil_iff.mp keys)
  rw [taking, keys_rows_withList hb]
  split
  · exact List.erase_sublist
  · next h =>
    simp only [if_pos (there h), List.Sublist.refl]

/-! ## Filing and looking up -/

theorem push_eq (b : Backlog) (path : String) (d : Defect) :
    b.push path d =
      b.withList (d.checker, path) (b.stock (d.checker, path) ++ [d]) := by
  have list : Assoc.store path (b.stock (d.checker, path) ++ [d]) (b.row d.checker) =
      Assoc.put path (b.stock (d.checker, path) ++ [d]) (b.row d.checker) := by
    simp [Assoc.store]
  rw [withList, list, Assoc.store, Assoc.isEmpty_put]
  rfl

/-- The list that is left behind the first defect replaces the list of the key. -/
theorem takeFrom_cons (b : Backlog) (checker path : String) (row : Row) (d : Defect)
    (rest : List Defect) :
    (b.takeFrom checker path row (d :: rest)).defect = some d ∧
      (b.takeFrom checker path row (d :: rest)).backlog =
        ⟨Assoc.store checker (Assoc.store path rest row) b.rows⟩ := by
  cases rest with
  | nil =>
    simp only [takeFrom, List.isEmpty_nil, ↓reduceIte, Assoc.store]
    split <;> exact ⟨rfl, rfl⟩
  | cons e rest => simp [takeFrom, Assoc.store, Assoc.isEmpty_put]

theorem row_of_get? {checker : String} {row : Row} (inRows : Assoc.get? checker b.rows = some row) :
    b.row checker = row := by
  rw [Backlog.row, inRows, Option.getD_some]

theorem stock_of_get? {checker path : String} {row : Row} {list : List Defect}
    (inRows : Assoc.get? checker b.rows = some row) (inRow : Assoc.get? path row = some list) :
    b.stock (checker, path) = list := by
  rw [stock, listAt, row_of_get? inRows, inRow, Option.getD_some]

/-- A row that has the list of a path has a defect there. -/
theorem WellFormed.exists_cons (hb : b.WellFormed) {checker path : String} {row : Row}
    {list : List Defect} (inRows : Assoc.get? checker b.rows = some row)
    (inRow : Assoc.get? path row = some list) : ∃ d rest, list = d :: rest := by
  have there : path ∈ Assoc.keys (b.row checker) :=
    (Assoc.mem_keys_iff path _).mpr ⟨list, (row_of_get? inRows).symm ▸ inRow⟩
  have some : b.stock (checker, path) ≠ [] := (hb.mem_row_iff (checker, path)).mp there
  exact List.exists_cons_of_ne_nil (stock_of_get? inRows inRow ▸ some)

/-- How a look-up ends. It finds no row, or its file cannot be normalized, or the row has no list
for the path, or it takes from this list. -/
inductive Looked {ε : Type} (normalize : Normalizer ε) (b : Backlog) (checker file : String) :
    Except ε Taken → Prop where
  | rowless (none : Assoc.get? checker b.rows = none) : Looked normalize b checker file
      (.ok { defect := .none, backlog := b, notices := [debug (checker ++ ": not found")] })
  | refused {row : Row} {fault : ε} (inRows : Assoc.get? checker b.rows = some row)
      (failed : normalize file = .error fault) : Looked normalize b checker file (.error fault)
  | listless {row : Row} {path : String} (inRows : Assoc.get? checker b.rows = some row)
      (answer : normalize file = .ok path) (none : Assoc.get? path row = none) :
      Looked normalize b checker file (.ok { defect := .none, backlog := b
                                             notices := [debug (checker ++ ": " ++ path ++
                                               ": not found")] })
  | listed {row : Row} {path : String} {list : List Defect}
      (inRows : Assoc.get? checker b.rows = some row) (answer : normalize file = .ok path)
      (inRow : Assoc.get? path row = some list) :
      Looked normalize b checker file (.ok (b.takeFrom checker path row list))

theorem looked {ε : Type} (normalize : Normalizer ε) (b : Backlog) (checker file : String) :
    Looked normalize b checker file (b.lookup normalize checker file) := by
  unfold lookup
  split
  · next none => exact .rowless none
  · next row inRows =>
    split
    · next fault failed => exact .refused inRows failed
    · next path answer =>
      split
      · next none => exact .listless inRows answer none
      · next list inRow => exact .listed inRows answer inRow

/-- A look-up takes the first defect of its key, if there is one, and nothing else. Only where the
checker has a row, the normalizer has to have an answer. -/
theorem lookup_eq {ε : Type} (normalize : Normalizer ε) (hb : b.WellFormed)
    (checker file path : String)
    (h : checker ∈ Assoc.keys b.rows → normalize file = .ok path) :
    ∃ taken, b.lookup normalize checker file = .ok taken ∧
      taken.defect = (b.stock (checker, path)).head? ∧
      taken.backlog = b.taking (checker, path) := by
  have absent (hs : b.stock (checker, path) = []) :
      none = (b.stock (checker, path)).head? ∧ b = b.taking (checker, path) := by
    have self := withList_self hb (checker, path)
    rw [taking, hs] at *
    exact ⟨rfl, self.symm⟩
  have ends := looked normalize b checker file
  generalize b.lookup normalize checker file = result at ends ⊢
  have same {row : Row} {path' : String} (inRows : Assoc.get? checker b.rows = some row)
      (answer : normalize file = .ok path') : path' = path :=
    Except.ok.inj (answer.symm.trans (h ((Assoc.mem_keys_iff _ _).mpr ⟨row, inRows⟩)))
  cases ends with
  | rowless none =>
    refine ⟨_, rfl, absent ?_⟩
    simp [stock, listAt, row, none, Assoc.get?]
  | refused inRows failed =>
    rw [h ((Assoc.mem_keys_iff _ _).mpr ⟨_, inRows⟩)] at failed
    cases failed
  | listless inRows answer none =>
    obtain rfl := same inRows answer
    refine ⟨_, rfl, absent ?_⟩
    rw [stock, listAt, row_of_get? inRows, none]
    rfl
  | @listed row _ list inRows answer inRow =>
    obtain rfl := same inRows answer
    have waiting := stock_of_get? inRows inRow
    obtain ⟨d, rest, rfl⟩ := hb.exists_cons inRows inRow
    obtain ⟨given, left⟩ := b.takeFrom_cons checker _ row d rest
    refine ⟨_, rfl, ?_, ?_⟩
    · rw [given, waiting]
      rfl
    · rw [left, taking, waiting, withList, row_of_get? inRows]
      rfl

section Filing

variable {ε : Type} (normalize : Normalizer ε) (N : String → String) (d : Defect)

/-- Where a normalizer has the answer of `N`, a defect is filed under its key. -/
theorem fileKey_eq (h : d.trace ≠ []) (answer : normalize (keyFile d) = .ok (N (keyFile d))) :
    fileKey normalize d = .ok (keyOf N d).2 := by
  obtain ⟨key, rest, ht⟩ := List.exists_cons_of_ne_nil h
  have file : keyFile d = key.file := by simp [keyFile, ht]
  rw [file] at answer
  simp [fileKey, keyOf, ht, file, answer]

theorem insert_eq (h : d.trace ≠ []) (answer : normalize (keyFile d) = .ok (N (keyFile d))) :
    b.insert normalize d = .ok (b.withList (keyOf N d) (b.stock (keyOf N d) ++ [d])) := by
  rw [insert, fileKey_eq normalize N d h answer]
  exact congrArg Except.ok (push_eq b (keyOf N d).2 d)

end Filing

end Backlog

end Findings
