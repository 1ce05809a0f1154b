import SqlBridge.Console.Width

/-!
Paragraphs: text broken into lines of a given width. A line ends before the first word that does not
fit, and a word wider than a line is folded.
-/

namespace SqlBridge.Console

open Text

inductive Alignment where
  | natural
  | left
  | center
  | right
deriving DecidableEq

/-- The layout of a paragraph: whether it is broken between words, and whether excess text is folded
or replaced by an ellipsis. -/
structure Layout where
  alignment : Alignment
  breaks : Bool
  folds : Bool

/-- The states of the word reader. -/
inductive WordState where
  | before
  | inside
  | after

/-- The words of a line. Blanks belong to the preceding word, and leading blanks to the first word.
-/
def spacedWordsFrom (state : WordState) (current : List Char) : List Char → List (List Char)
  | [] =>
    match state with
    | .before => []
    | _ => [current.reverse]
  | c :: rest =>
    match state, isBlank c with
    | .before, true => spacedWordsFrom .before (c :: current) rest
    | .after, false => current.reverse :: spacedWordsFrom .inside [c] rest
    | _, true => spacedWordsFrom .after (c :: current) rest
    | _, false => spacedWordsFrom .inside (c :: current) rest

def spacedWords (cs : List Char) : List (List Char) := spacedWordsFrom .before [] cs

/-- Lines under construction: the complete ones, the current one, and the cells used in it. -/
structure Filling where
  complete : List (List Char)
  current : List Char
  used : Nat

namespace Filling

def empty : Filling := ⟨[], [], 0⟩

def isEmpty (f : Filling) : Bool := f.complete.isEmpty && f.current.isEmpty

/-- Ends the current line if there is one. -/
def endLine (f : Filling) : Filling :=
  if f.isEmpty then f else ⟨f.complete ++ [f.current], [], f.used⟩

def append (f : Filling) (cs : List Char) : Filling := { f with current := f.current ++ cs }

/-- Adds the pieces of a folded word as lines. -/
def addPieces (f : Filling) : List (List Char) → Filling
  | [] => f
  | piece :: rest => addPieces { f.endLine.append piece with used := widthOf piece } rest

def addWord (width : Nat) (folds : Bool) (f : Filling) (word : List Char) : Filling :=
  let needed := widthOf (trimEnd word)
  if needed + f.used ≤ width then { f.append word with used := f.used + widthOf word }
  else if width < needed && folds then f.addPieces (chop width word)
  else { f.endLine.append word with used := widthOf word }

def lines (f : Filling) : List (List Char) := f.complete ++ [f.current]

end Filling

/-- Breaks one line of text into lines of a width. -/
def breakLine (width : Nat) (folds : Bool) (cs : List Char) : List (List Char) :=
  match spacedWords cs with
  | [] => [cs]
  | words => (words.foldl (Filling.addWord width folds) .empty).lines

/-- Replaces tabs by blanks up to the next multiple of eight cells. -/
def expandTabsFrom (used : Nat) : List Char → List Char
  | [] => []
  | c :: rest =>
    if c = '\t' then
      let stop := (used / 8 + 1) * 8
      blanks (stop - used) ++ expandTabsFrom stop rest
    else c :: expandTabsFrom (used + cellWidth c) rest

/-- Drops trailing blanks while the text has more characters than cells. -/
def dropExcess (width : Nat) (cs : List Char) : List Char :=
  let kept := trimEnd cs
  cs.take (max kept.length width)

/-- Cuts the text to a width, with an ellipsis unless the layout folds. -/
def truncate (width : Nat) (folds : Bool) (cs : List Char) : List Char :=
  if widthOf cs ≤ width then cs
  else if folds then crop width cs
  else crop (width - 1) cs ++ ['…']

def align (width : Nat) (layout : Layout) (cs : List Char) : List Char :=
  match layout.alignment with
  | .natural => truncate width layout.folds cs
  | .left => padRight width (truncate width layout.folds cs)
  | .center =>
    let text := truncate width layout.folds (trimEnd cs)
    padRight width (blanks ((width - widthOf text) / 2) ++ text)
  | .right => padLeft width (truncate width layout.folds (trimEnd cs))

def splitLinesFrom (separates : Char → Bool) (current : List Char) : List Char → List (List Char)
  | [] => [current.reverse]
  | c :: rest =>
    if separates c then current.reverse :: splitLinesFrom separates [] rest
    else splitLinesFrom separates (c :: current) rest

/-- The lines of a text in a paragraph. -/
def paragraph (width : Nat) (layout : Layout) (cs : List Char) : List (List Char) :=
  (splitLinesFrom (· = '\n') [] cs).flatMap fun line =>
    let line := expandTabsFrom 0 line
    let broken := if layout.breaks then breakLine width layout.folds line else [line]
    broken.map fun line => align width layout (dropExcess width line)

def endsLine (c : Char) : Bool :=
  inRanges [(0xA, 0xD), (0x1C, 0x1E), (0x85, 0x85), (0x2028, 0x2029)] c

/-- The width of the widest line of a text without breaks. -/
def naturalWidth (cs : List Char) : Nat :=
  ((splitLinesFrom endsLine [] cs).map widthOf).foldl max 0

end SqlBridge.Console
