import SqlBridge.Console.Markup
import SqlBridge.Console.Paragraph

/-!
Tables on a screen. A column is as wide as its widest cell. On a narrow screen the widest columns
that may be broken shrink first, then all columns. Cells, title and caption are markup.
-/

namespace SqlBridge.Console

/-- A horizontal line of a frame. -/
structure Rule where
  left : Char
  line : Char
  cross : Char
  right : Char

structure Frame where
  top : Rule
  head : Rule
  bottom : Rule
  side : Char

namespace Frame

def rounded : Frame :=
  ⟨⟨'╭', '─', '┬', '╮'⟩, ⟨'├', '─', '┼', '┤'⟩, ⟨'╰', '─', '┴', '╯'⟩, '│'⟩

def simple : Frame := ⟨⟨' ', ' ', ' ', ' '⟩, ⟨' ', '─', '─', ' '⟩, ⟨' ', ' ', ' ', ' '⟩, ' '⟩

end Frame

def Rule.draw (r : Rule) (widths : List Nat) : List Char :=
  r.left :: [r.cross].intercalate (widths.map fun w => List.replicate w r.line) ++ [r.right]

structure Column where
  head : String
  cells : List String
  layout : Layout

structure Table where
  title : String
  frame : Frame
  columns : List Column
  caption : Option String

/-- The width of the frame and of the gaps between columns. -/
def frameWidth (columns : Nat) : Nat := columns + 1

/-- The blanks beside the text of a cell. -/
def padding : Nat := 2

/-- The width of a cell, at most the available one. -/
def measureCell (available : Nat) (cell : String) : Outcome Nat :=
  if available ≤ padding then .ok available
  else do
    let text ← renderMarkup cell.toList
    return min (naturalWidth text + padding) available

def measureColumn (available : Nat) (c : Column) : Outcome Nat :=
  if available = 0 then .ok 0
  else do
    let widths ← (c.head :: c.cells).mapM (measureCell available)
    return widths.foldl max 0

/-- A width with the number of cells that it may lose. -/
structure Share where
  width : Nat
  atMost : Nat
  gives : Bool

/-- Takes the excess from the widths, as evenly as their limits allow. -/
def reduce (excess : Nat) : List Share → List Nat
  | [] => []
  | s :: rest =>
    if s.gives then
      let givers := rest.countP (·.gives) + 1
      let taken := min s.atMost (Decimal.roundDiv excess givers)
      (s.width - taken) :: reduce (excess - taken) rest
    else s.width :: reduce excess rest

/-- One round of shrinking: the widest columns that may be broken shrink to the next smaller width.
There is no round if no column may shrink. -/
def shrinkWidest? (excess : Nat) (columns : List (Nat × Bool)) : Option (List Nat) :=
  let breakable := (columns.filter (·.2)).map (·.1)
  let widest := breakable.foldl max 0
  let second := (breakable.filter (· ≠ widest)).foldl max 0
  if widest = 0 then none
  else
    let atMost := min excess (widest - second)
    some (reduce excess (columns.map fun (w, breaks) => ⟨w, atMost, breaks && w = widest⟩))

def total (widths : List Nat) : Nat := widths.foldl (· + ·) 0

/-- Shrinks widths until they fit or no column may shrink; every round takes at least one cell. -/
def shrinkBroken (room : Nat) (breaks : List Bool) : Nat → List Nat → List Nat
  | 0, widths => widths
  | rounds + 1, widths =>
    if total widths ≤ room then widths
    else
      match shrinkWidest? (total widths - room) (widths.zip breaks) with
      | some widths => shrinkBroken room breaks rounds widths
      | none => widths

/-- Takes the remaining excess from all columns. -/
def shrinkAll (room : Nat) (widths : List Nat) : List Nat :=
  if total widths ≤ room then widths
  else reduce (total widths - room) (widths.map fun w => ⟨w, w, w ≠ 0⟩)

/-- The widths of the columns in the room of a screen. -/
def columnWidths (room : Nat) (columns : List Column) : Outcome (List Nat) := do
  let asked ← columns.mapM (measureColumn room)
  let widths := asked.map fun w => if w = 0 then 1 else w
  if total widths ≤ room then return widths
  else
    let shrunk := shrinkAll room
      (shrinkBroken room (columns.map (·.layout.breaks)) (total widths) widths)
    (shrunk.zip columns).mapM fun (w, c) => measureColumn w c

/-- The lines of a cell, each with a blank on both sides. -/
def cellLines (width : Nat) (layout : Layout) (cell : String) : Outcome (List (List Char)) :=
  if width ≤ padding then .ok []
  else do
    let text ← renderMarkup cell.toList
    return (paragraph (width - padding) layout text).map fun line => ' ' :: line ++ [' ']

/-- The lines of a row of cells. The cells of a head are aligned to the bottom, others to the top.
-/
def rowLines (side : Char) (widths : List Nat) (atBottom : Bool) (cells : List (List (List Char))) :
    List (List Char) :=
  let height := (cells.map (·.length)).foldl max 1
  let filled := (cells.zip widths).map fun (lines, w) =>
    let gap := List.replicate (height - lines.length) (blanks w)
    if atBottom then gap ++ lines else lines ++ gap
  (List.range height).map fun i =>
    side :: [side].intercalate (filled.map fun lines => lines.getD i []) ++ [side]

/-- The cells of each row, by columns. -/
def rowsOf (columns : List Column) : List (List String) :=
  let height := (columns.map (·.cells.length)).foldl max 0
  (List.range height).map fun i => columns.map fun c => c.cells.getD i ""

def bodyLines (frame : Frame) (columns : List Column) (widths : List Nat) :
    Outcome (List (List Char)) := do
  let row (atBottom : Bool) (cells : List String) := do
    let lines ← ((widths.zip columns).zip cells).mapM fun ((w, c), cell) =>
      cellLines w c.layout cell
    return rowLines frame.side widths atBottom lines
  let head ← row true (columns.map (·.head))
  let rows ← (rowsOf columns).mapM (row false)
  return [frame.top.draw widths] ++ head ++ [frame.head.draw widths] ++ rows.flatten
    ++ [frame.bottom.draw widths]

/-- A title or caption over the whole width of a table. -/
def annotationLines (width : Nat) (text : String) : Outcome (List (List Char)) := do
  let text ← renderMarkup text.toList
  return paragraph width ⟨.center, true, true⟩ text

/-- The lines of a table on a screen, before they are cut at its edge. -/
def Table.lines (screen : Nat) (t : Table) : Outcome (List (List Char)) := do
  if t.columns.isEmpty then return [[]]
  else
    let edges := frameWidth t.columns.length
    let widths ← columnWidths (screen - edges) t.columns
    let width := total widths + edges
    let title ← if t.title.isEmpty then .ok [] else annotationLines width t.title
    let body ← bodyLines t.frame t.columns widths
    let caption ← match t.caption with
      | some text => annotationLines width text
      | none => .ok []
    return title ++ body ++ caption

/-- Lines as text, each cut at the edge of the screen. On a screen of width zero the text is empty.
-/
def printed (screen : Nat) (lines : List (List Char)) : String :=
  if screen = 0 then ""
  else String.ofList (lines.flatMap fun line => crop screen line ++ ['\n'])

def Table.print (screen : Nat) (t : Table) : Outcome String := do
  if screen = 0 then return ""
  else
    let lines ← t.lines screen
    return printed screen lines

/-- A message wrapped to the width of a screen. -/
def printMessage (screen : Nat) (message : String) : Outcome String := do
  let text ← renderMarkup message.toList
  return printed screen (paragraph screen ⟨.natural, true, true⟩ text)

end SqlBridge.Console
