import Findings.Console.Markup
import Findings.Console.Width
import Findings.Text.Split
/-!
Lines of a console: what is shown for a text with markup, and the rule over a section.
-/

namespace Findings.Console

/-- Columns of the console. -/
def columns : Nat := 200

/-- Bell, backspace, vertical tab, form feed and carriage return are never shown. -/
def isShown (c : Char) : Bool := [7, 8, 11, 12, 13].all (· ≠ c.toNat)

/-- The visible text of some markup. -/
def visible (markup : String) : List Char := (Markup.shown markup.toList).filter isShown

/-- Goes on to the next column divisible by eight. -/
def tabStop (column : Nat) : Nat := (column + 7) / 8 * 8

/-- Parts of a row with a tab between any two; a tab is one blank at least and leads to a stop. -/
def joinTabs (column : Nat) : List (List Char) → List Char
  | [] => []
  | [part] => part
  | part :: parts =>
    let part := part ++ [' ']
    let reached := column + width part
    part ++ List.replicate (tabStop reached - reached) ' ' ++ joinTabs (tabStop reached) parts

/-- The row with blanks for its tabs. -/
def expandTabs (cs : List Char) : List Char := joinTabs 0 (Text.splitAt '\t' cs)

/-- The rows that a visible text takes if none is ever broken. -/
def rows (cs : List Char) : List (List Char) := (Text.splitAt '\n' cs).map expandTabs

/-- Text in which every row ends with a line feed. -/
def unlines (rs : List (List Char)) : String := String.ofList (rs.flatMap (· ++ ['\n']))

/-- The lines for some markup, however long they are. -/
def line (markup : String) : String := unlines (rows (visible markup))

/-- The lines for markup that may close what it did not open. -/
def checkedLine (markup : String) : Except Markup.Fault String :=
  match Markup.fault? markup.toList with
  | some fault => .error fault
  | none => .ok (line markup)

/-- A title in the middle of a rule; what cannot be halved goes to the right. -/
def rule (title : String) : String :=
  let left := (columns - title.length) / 2 - 1
  let right := columns - left - title.length - 2
  unlines [List.replicate left '─' ++ ' ' :: title.toList ++ ' ' :: List.replicate right '─']

end Findings.Console
