/-!
How alike two texts are. The longest stretch that stands in both is taken out of them; what is left
before it is compared in the same way, and what is left behind it. The likeness of two texts is the
share of their characters that such stretches cover. Stretches do not cross, so a text is not like
its reverse.
-/

namespace Findings.Text.Likeness

/-- A stretch of characters that stands in both texts. -/
structure Stretch where
  first : Nat := 0
  second : Nat := 0
  length : Nat := 0
  deriving DecidableEq, Repr

/-- How many characters two texts have in common at their beginning. -/
def agreement : List Char → List Char → Nat
  | a :: as, b :: bs => if a = b then agreement as bs + 1 else 0
  | _, _ => 0

def Stretch.longer (s t : Stretch) : Stretch := if s.length < t.length then t else s

/-- The longest stretch; of several the one that begins first in the first text, then in the
second. -/
def longest (a b : List Char) : Stretch :=
  let starts := (List.range a.length).flatMap fun i => (List.range b.length).map fun j => (i, j)
  starts.foldl (fun s (i, j) => s.longer ⟨i, j, agreement (a.drop i) (b.drop j)⟩) {}

/-- The characters of each text that stretches cover, which are no more than `fuel`. -/
def coveredWithin : Nat → List Char → List Char → Nat
  | 0, _, _ => 0
  | fuel + 1, a, b =>
    let s := longest a b
    if s.length = 0 then 0
    else
      coveredWithin fuel (a.take s.first) (b.take s.second) + s.length +
        coveredWithin fuel (a.drop (s.first + s.length)) (b.drop (s.second + s.length))

def covered (a b : List Char) : Nat := coveredWithin a.length a b

/-- A likeness, as the characters that are covered in both texts and the characters in all. -/
structure Share where
  covered : Nat
  total : Nat
  deriving DecidableEq, Repr

def Share.le (s t : Share) : Bool := s.covered * t.total ≤ t.covered * s.total

def share (a b : String) : Share :=
  { covered := 2 * covered a.toList b.toList, total := a.length + b.length }

/-- Three in five characters make texts alike. -/
def Share.isClose (s : Share) : Bool := 3 * s.total ≤ 5 * s.covered

/-- Those of some names that are like a word, the most alike first, at most three. -/
def closest (word : String) (names : List String) : List String :=
  let scored := (names.map fun name => (share name word, name)).filter (·.1.isClose)
  let ranked := scored.mergeSort fun (s, m) (t, n) =>
    if t.le s then (if s.le t then decide (n ≤ m) else true) else false
  (ranked.take 3).map (·.2)

end Findings.Text.Likeness
