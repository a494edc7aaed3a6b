import Findings.Text.Blank
import Findings.Text.CharName.Aliases
import Findings.Text.CharName.Alphabets
import Findings.Text.CharName.AncientScripts
import Findings.Text.CharName.AsianScripts
import Findings.Text.CharName.EasternScripts
import Findings.Text.CharName.Pictures
import Findings.Text.CharName.Symbols
import Findings.Text.CharName.Wedges
import Findings.Text.NameList
/-!
Characters by their names in Unicode 14. Names of Hangul syllables are spelled from the names of
their letters, those of ideographs end with the code point; all others are listed, and are found
whatever the case of their letters.
-/

namespace Findings.Text.CharName

/-- What stands behind a beginning. -/
def behind? (beginning : String) (cs : List Char) : Option (List Char) :=
  if beginning.toList.isPrefixOf cs then some (cs.drop beginning.length) else none

/-! ## Hangul syllables -/

def leads : List String :=
  ["G", "GG", "N", "D", "DD", "R", "M", "B", "BB", "S", "SS", "", "J", "JJ", "C", "K", "T", "P",
    "H"]

def vowels : List String :=
  ["A", "AE", "YA", "YAE", "EO", "E", "YEO", "YE", "O", "WA", "WAE", "OE", "YO", "U", "WEO", "WE",
    "WI", "YU", "EU", "YI", "I"]

def tails : List String :=
  ["", "G", "GG", "GS", "N", "NJ", "NH", "D", "L", "LG", "LM", "LB", "LS", "LT", "LP", "LH", "M",
    "B", "BS", "S", "SS", "NG", "J", "C", "K", "T", "P", "H"]

/-- The longest of the letters with which a text begins, by its number, and what follows it. -/
def longest? (letters : List String) (cs : List Char) : Option (Nat × List Char) :=
  let fitting := letters.zipIdx.filter fun (letter, _) => letter.toList.isPrefixOf cs
  let longest := fitting.foldl (fun best (letter, i) =>
    match best with
    | some (other, j) => if other.length < letter.length then some (letter, i) else some (other, j)
    | none => some (letter, i)) none
  longest.map fun (letter, i) => (i, cs.drop letter.length)

/-- The syllable spelled by the names of its letters. -/
def syllable? (cs : List Char) : Option Nat := do
  let (lead, cs) ← longest? leads cs
  let (vowel, cs) ← longest? vowels cs
  let (tail, cs) ← longest? tails cs
  if cs.isEmpty then
    return 0xAC00 + (lead * vowels.length + vowel) * tails.length + tail
  else none

/-! ## Ideographs -/

def unifiedRanges : Ranges :=
  [(0x3400, 0x4DBF), (0x4E00, 0x9FFF), (0x20000, 0x2A6DF), (0x2A700, 0x2B738), (0x2B740, 0x2B81D),
    (0x2B820, 0x2CEA1), (0x2CEB0, 0x2EBE0), (0x30000, 0x3134A)]

/-- Other characters whose names end with their code points. -/
def numberedRanges : List (String × Ranges) :=
  [("CJK COMPATIBILITY IDEOGRAPH-", [(0xF900, 0xFA6D), (0xFA70, 0xFAD9), (0x2F800, 0x2FA1D)]),
    ("KHITAN SMALL SCRIPT CHARACTER-", [(0x18B00, 0x18CD5)]),
    ("NUSHU CHARACTER-", [(0x1B170, 0x1B2FB)])]

/-- A code point of four or five hexadecimal digits, with capital letters. -/
def codePoint? (cs : List Char) : Option Nat :=
  if (cs.length = 4 || cs.length = 5) && cs.all (fun c => c.isDigit || c.isUpper) then
    Hex.number? cs
  else none

/-- A code point in one of the ranges. -/
def inRanges? (ranges : Ranges) (cs : List Char) : Option Nat :=
  (codePoint? cs).filter (Ranges.covers · ranges)

/-- A code point in one of the ranges, without a zero in front. -/
def numbered? (cs : List Char) : Option Nat :=
  numberedRanges.findSome? fun (beginning, ranges) =>
    (behind? beginning cs).bind fun digits =>
      if digits.head? = some '0' then none else inRanges? ranges digits

/-! ## All names -/

def lists : List String :=
  [alphabets, easternScripts, symbols, asianScripts, ancientScripts, wedges, pictures, aliases]

/-- The code point of the character with this name. -/
def code? (name : String) : Option Nat :=
  let cs := name.toList
  match behind? "HANGUL SYLLABLE " cs, behind? "CJK UNIFIED IDEOGRAPH-" cs with
  | some rest, _ => syllable? rest
  | none, some rest => inRanges? unifiedRanges rest
  | none, none =>
    let upper := cs.map Char.toUpper
    numbered? upper <|> lists.findSome? (NameList.find? (splitAt ' ' upper))

end Findings.Text.CharName
