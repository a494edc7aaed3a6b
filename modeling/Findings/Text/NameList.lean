import Findings.Text.Digit
import Findings.Text.Split
/-!
Lists of names for code points, short because an entry tells only how its name differs from the one
before it.

Entries stand between commas or on lines of their own, in the order of their code points. An entry
for a code point that does not follow the one before begins with an at sign and that code point. A
digit in front tells how many words the name has in common with the one before at its beginning, a
star with a digit behind it how many at its end. A plus sign alone stands for the name before, with
the number at its end one higher.
-/

namespace Findings.Text.NameList

abbrev Word := List Char

/-- The words between blanks. -/
def words (cs : List Char) : List Word :=
  (filledPartsReversed (· = ' ') cs).reverse

/-- A number one higher, given the last digit first, and perhaps more in front of it. -/
def higher : List Char → List Char
  | [] => ['1']
  | '9' :: cs => '0' :: higher cs
  | c :: cs => if c.isDigit then Char.ofNat (c.toNat + 1) :: cs else '1' :: c :: cs

/-- The words with the number at their end one higher. -/
def counted (previous : List Word) : List Word :=
  match previous.reverse with
  | [] => []
  | word :: rest => (((higher word.reverse).reverse) :: rest).reverse

/-- A text as what precedes a star and the number behind it. -/
def starred (cs : List Char) : List Char × Nat :=
  (cs.takeWhile (· ≠ '*'), Nat.ofDigitChars 10 ((cs.dropWhile (· ≠ '*')).drop 1) 0)

/-- The name before with the words between its beginning and its end replaced. -/
def changed (previous : List Word) (atStart : Nat) (cs : List Char) : List Word :=
  let (between, atEnd) := starred cs
  previous.take atStart ++ words between ++ previous.drop (previous.length - atEnd)

/-- The name that an entry stands for, behind another name. -/
def entry (previous : List Word) : List Char → List Word
  | [] => []
  | c :: cs =>
    if c = '+' then counted previous
    else if c.isDigit then changed previous (c.toNat - '0'.toNat) cs
    else changed previous 0 (c :: cs)

/-- An entry without the code point in front of it, and the code point, by default the next one. -/
def placed (next : Nat) (cs : List Char) : Nat × List Char :=
  match cs with
  | '@' :: rest =>
    (((Hex.number? (rest.takeWhile (· ≠ ' '))).getD next), (rest.dropWhile (· ≠ ' ')).drop 1)
  | _ => (next, cs)

/-- The code point of a name among the entries, of which the first follows `next` and `previous`. -/
def findFrom (name : List Word) :
    List (List Char) → (next : Nat) → (previous : List Word) → Option Nat
  | [], _, _ => none
  | cs :: rest, next, previous =>
    let (code, text) := placed next cs
    let found := entry previous text
    if found = name then some code else findFrom name rest (code + 1) found

/-- The code point of a name in a list. -/
def find? (name : List Word) (list : String) : Option Nat :=
  let entries := (filledPartsReversed (fun c => c = ',' || c = '\n') list.toList).reverse
  findFrom name (entries.map (List.dropWhile (· = ' '))) 0 []

end Findings.Text.NameList
