/-!
What a program asks of a console: to show text with style tags in square brackets, tables, and rules
over sections. How wide a console is, what its styles look like and where its tables are broken is
its own affair, and so is which tags make no sense to it.
-/

namespace Findings.Console

inductive Alignment where
  | left
  | right
  deriving DecidableEq, Repr

structure Column where
  heading : String
  alignment : Alignment := .left
  /-- The greatest width of the text in it. -/
  limit : Option Nat := none

/-- Cells are markup; every row has a cell for each column. -/
structure Table where
  title : String
  columns : List Column
  body : List (List String)

/-- Why a console does not show some markup. -/
structure Fault where
  message : String
  deriving DecidableEq, Repr

/-- Markup between the tags of a style. -/
def styled (style inside : String) : String :=
  "[" ++ style ++ "]" ++ inside ++ "[/" ++ style ++ "]"

structure Writer where
  /-- The text with its tags taken as plain text. -/
  escape : String → String
  /-- The lines for some markup, none of which is ever broken. -/
  print : String → Except Fault String
  /-- A rule with a title in it. -/
  rule : String → Except Fault String
  table : Table → Except Fault String
  /-- What is added to the message for a text that cannot be written. -/
  advice : String := ""

end Findings.Console
