import Findings.Console.Paragraph
import Findings.Decimal.Binary64
/-!
Tables with a title and a heading. A column is as wide as its widest cell asks for; where the
columns together are too wide for the console, the widest ones give way first, all alike.

With lines, rules and tables there is all that a program asks of a console.
-/

namespace Findings.Console

namespace Table

/-! ## Widths -/

/-- Characters that end a row when the width of a text is taken. -/
def endsRow (c : Char) : Bool := [10, 28, 29, 30, 133, 8232, 8233].contains c.toNat

/-- The parts of a text between the ends of its rows. -/
def measuredRows (cs : List Char) : List (List Char) :=
  Text.splitAt '\n' (cs.map fun c => if endsRow c then '\n' else c)

/-- The width of a text when no line of it is broken. -/
def naturalWidth (cs : List Char) : Nat := ((measuredRows cs).map width).foldl max 0

/-- A column has one blank on either side of its text. -/
def padding : Nat := 2

/-- The width that a console leaves to the cells, edges and separators apart. -/
def room (columns : Nat) : Nat := Console.columns - (columns + 1)

def wantedWidth (room : Nat) (column : Column) (cells : List String) : Nat :=
  let texts := (column.heading :: cells).map visible
  let wanted := (texts.map naturalWidth).foldl max 0 + padding
  let wanted := min wanted room
  match column.limit with
  | some limit => min wanted (limit + padding)
  | none => wanted

def total (ws : List Nat) : Nat := ws.foldl (· + ·) 0

/-- Takes an excess from the columns of one width, a share from each that is still to come, but no
more than a step from any. -/
def takeFrom (top step : Nat) : Nat → Nat → List Nat → List Nat
  | _, _, [] => []
  | excess, shares, w :: ws =>
    if w = top ∧ shares ≠ 0 then
      let share := min step (Decimal.divNearest excess shares)
      (w - share) :: takeFrom top step (excess - share) (shares - 1) ws
    else w :: takeFrom top step excess shares ws

/-- One round of giving way: the widest columns shrink to the next width at most. -/
def giveWay (room : Nat) (ws : List Nat) : List Nat :=
  let excess := total ws - room
  let top := ws.foldl max 0
  let second := (ws.filter (· ≠ top)).foldl max 0
  takeFrom top (min excess (top - second)) excess (ws.count top) ws

/-- Widths that fit, after so many rounds at most. -/
def shrink (room : Nat) : Nat → List Nat → List Nat
  | 0, ws => ws
  | rounds + 1, ws => if total ws ≤ room then ws else shrink room rounds (giveWay room ws)

/-- The cells of each column. -/
def cellsOf (t : Table) : List (Column × List String) :=
  t.columns.zipIdx.map fun (c, i) => (c, t.body.map fun row => row.getD i "")

def widths (t : Table) : List Nat :=
  let room := room t.columns.length
  let wanted := t.cellsOf.map fun (c, cells) => wantedWidth room c cells
  shrink room (total wanted) wanted

/-! ## Drawing -/

/-- The lines of a frame between the cells: left end, filling, crossing, right end. -/
def border (left filling crossing right : Char) (ws : List Nat) : List Char :=
  left :: [crossing].intercalate (ws.map fun w => List.replicate w filling) ++ [right]

/-- The lines of a row of texts, as many as its highest cell has. -/
def drawRow (edge : Char) (cells : List (Alignment × Nat × List Char)) : List (List Char) :=
  let columns := cells.map fun (a, w, text) => (w, Paragraph.lines a (w - padding) text)
  let height := (columns.map fun (_, ls) => ls.length).foldl max 0
  (List.range height).map fun i =>
    let texts := columns.map fun (w, ls) =>
      ' ' :: ls.getD i (List.replicate (w - padding) ' ') ++ [' ']
    edge :: [edge].intercalate texts ++ [edge]

/-- A title in the middle of the table; what cannot be halved goes to the right. -/
def drawTitle (width : Nat) (title : String) : List Char :=
  let left := (width - title.length) / 2
  let right := width - title.length - left
  List.replicate left ' ' ++ title.toList ++ List.replicate right ' '

def draw (t : Table) : String :=
  let ws := t.widths
  let cellsOf := fun (texts : List String) =>
    (t.columns.zip (ws.zip texts)).map fun (c, w, text) => (c.alignment, w, visible text)
  unlines (
    drawTitle (total ws + ws.length + 1) t.title ::
    border '┏' '━' '┳' '┓' ws ::
    drawRow '┃' (cellsOf (t.columns.map (·.heading))) ++
    border '┡' '━' '╇' '┩' ws ::
    t.body.flatMap (fun row => drawRow '│' (cellsOf row)) ++
    [border '└' '─' '┴' '┘' ws])

/-- The table, unless a cell closes what it did not open. -/
def checked (t : Table) : Except Markup.Fault String :=
  match t.body.flatten.findSome? fun cell => Markup.fault? cell.toList with
  | some fault => .error fault
  | none => .ok t.draw

end Table

/-- A wide console without styles. -/
def Writer.standard : Writer where
  escape := Markup.escape
  print markup := (checkedLine markup).mapError fun fault => ⟨fault.message⟩
  rule title := .ok (Console.rule title)
  table t := t.checked.mapError fun fault => ⟨fault.message⟩
  advice := "\n*** You may need to add PYTHONIOENCODING=utf-8 to your environment ***"

end Findings.Console
