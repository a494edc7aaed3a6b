import Findings.Console.Line
import Findings.Console.Writer
import Findings.Text.Blank
/-!
Text broken into lines of limited width. A line ends in front of the first word that does not fit;
a word that fits on no line has one of its own, where it is cut and an ellipsis shows that.
-/

namespace Findings.Console

namespace Paragraph

/-- Words with the blanks behind them; blanks in front belong to the first word. -/
def words : List Char → List (List Char)
  | [] => []
  | c :: cs =>
    match words cs with
    | [] => [[c]]
    | w :: ws =>
      if Text.isBlank c && !((w.head?.map Text.isBlank).getD true) then [c] :: w :: ws
      else (c :: w) :: ws

/-- Blanks in front of the first word are part of it. -/
def joinLead : List (List Char) → List (List Char)
  | w :: v :: ws => if w.all Text.isBlank then (w ++ v) :: ws else w :: v :: ws
  | ws => ws

def withoutBlankEnd (cs : List Char) : List Char := (cs.reverse.dropWhile Text.isBlank).reverse

/-- Fills lines with words, the line begun so far with its width in front. -/
def fill (room used : Nat) (begun : List Char) : List (List Char) → List (List Char)
  | [] => [begun]
  | w :: ws =>
    if used + width (withoutBlankEnd w) ≤ room then fill room (used + width w) (begun ++ w) ws
    else if begun.isEmpty then fill room (width w) w ws
    else begun :: fill room (width w) w ws

/-- Drops as many blanks at the end as the line has points too many. -/
def crop (room : Nat) (cs : List Char) : List Char :=
  let blanks := cs.length - (withoutBlankEnd cs).length
  cs.take (cs.length - min blanks ((Text.points cs).length - room))

/-- A text too wide ends in an ellipsis. -/
def truncate (room : Nat) (cs : List Char) : List Char :=
  if width cs ≤ room then cs else fitted (room - 1) cs ++ ['…']

/-- The blanks beside a text may change its width, so the whole is fitted once more. -/
def align (a : Alignment) (room : Nat) (cs : List Char) : List Char :=
  fitted room <|
    match a with
    | .left => padded room (truncate room cs)
    | .right =>
      let cs := truncate room (withoutBlankEnd cs)
      List.replicate (room - width cs) ' ' ++ cs

/-- A text in lines of exactly that many columns. -/
def lines (a : Alignment) (room : Nat) (cs : List Char) : List (List Char) :=
  (rows cs).flatMap fun row =>
    (fill room 0 [] (joinLead (words row))).map fun l => align a room (crop room l)

end Paragraph

end Findings.Console
