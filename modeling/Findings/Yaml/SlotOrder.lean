import Findings.Yaml.Value
/-!
The order of the numbers in a set. They lie in a table with a slot count that is a power of two; a
number goes to the slot that its remainder names, or to the first free one behind it. Other values
keep the order in which they came.
-/

namespace Findings.Yaml.SlotOrder

/-- The modulus of remainders. -/
def modulus : Nat := Nat.pow 2 61 - 1

/-- Remainders are words of 64 binary digits. -/
def wordSize : Nat := Nat.pow 2 64

/-- The remainder of a signed number as a word; minus one stands for minus two. -/
def word (negative : Bool) (remainder : Nat) : Nat :=
  if negative && remainder ≠ 0 then wordSize - (if remainder = 1 then 2 else remainder)
  else remainder

/-- The power of two with a remainder's period as exponent. -/
def powerOfTwo (e : Int) : Nat := Nat.pow 2 (e % 61).toNat

/-- The word of a number; other values have none. -/
def word? : Value → Option Nat
  | .bool b => some (if b then 1 else 0)
  | .int n => some (word (n < 0) (n.natAbs % modulus))
  | .real (.finite negative m e) => some (word negative (m * powerOfTwo e % modulus))
  | .real (.infinite negative) => some (word negative 314159)
  | _ => none

/-- A table of values with their words; a free slot holds none. -/
abbrev Table := Array (Option (Nat × Value))

def emptyTable (slots : Nat) : Table := Array.replicate slots none

/-- The first free slot among some slots in a row. -/
def freeIn (t : Table) (from_ : Nat) : Nat → Option Nat
  | 0 => none
  | n + 1 =>
    match t[from_]? with
    | some none => some from_
    | _ => freeIn t (from_ + 1) n

/-- How many slots in a row are tried, if the table goes on for so long. -/
def run : Nat := 9

/-- A free slot for a word, in so many tries at most. -/
def slotFor (t : Table) : Nat → Nat → Nat → Option Nat
  | 0, _, _ => none
  | tries + 1, i, rest =>
    let length := if i + run ≤ t.size - 1 then run + 1 else 1
    match freeIn t i length with
    | some slot => some slot
    | none =>
      let rest := rest / 32
      slotFor t tries ((i * 5 + 1 + rest) % t.size) rest

def insert (t : Table) (entry : Nat × Value) : Table :=
  match slotFor t (t.size + 64) (entry.1 % t.size) entry.1 with
  | some slot => t.setIfInBounds slot (some entry)
  | none => t

def contents (t : Table) : List (Nat × Value) := t.toList.filterMap id

/-- The least table, of eight slots or a doubling of that, with more slots than given. -/
def slotsOver (least : Nat) : Nat → Nat → Nat
  | 0, slots => slots
  | n + 1, slots => if slots ≤ least then slotsOver least n (2 * slots) else slots

def resized (t : Table) (least : Nat) : Table :=
  (contents t).foldl insert (emptyTable (slotsOver least (least + 1) 8))

/-- Three fifths of the slots may be taken before there have to be more. -/
def add (t : Table) (entry : Nat × Value) : Table :=
  let t := insert t entry
  let used := (contents t).length
  if used * 5 < (t.size - 1) * 3 then t else resized t (if 50000 < used then used * 2 else used * 4)

def tableOf (entries : List (Nat × Value)) : Table :=
  let count := entries.length
  let start := emptyTable 8
  let start := if count * 5 < (start.size - 1) * 3 then start else resized start (count * 2)
  entries.foldl add start

/-- The members of a set as they are met. -/
def orderOf (members : List Value) : List Value :=
  match members.mapM fun v => (word? v).map fun w => (w, v) with
  | some entries => (contents (tableOf entries)).map Prod.snd
  | none => members

end Findings.Yaml.SlotOrder
