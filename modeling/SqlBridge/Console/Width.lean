import SqlBridge.Console.WidthTable
import SqlBridge.Text.Character

/-!
The number of cells that a text takes on a screen. Characters that share their cells form a cluster:
marks and selectors belong to the preceding character, and a joiner joins the character after it.
-/

namespace SqlBridge.Console

open Text

def cellWidth (c : Char) : Nat :=
  if c.toNat < 0x20 || (0x7F ≤ c.toNat && c.toNat < 0xA0) then 0
  else if c.toNat < 0x300 then 1
  else if inRanges emptyRanges c then 0
  else if inRanges wideRanges c then 2
  else 1

structure Cluster where
  text : List Char
  width : Nat

def joiner : Char := '\u200D'

/-- The selector for the picture form of the preceding character. -/
def pictureSelector : Char := '\uFE0F'

/-- The clusters of a text after the current one; `last` is the last character that takes cells and
was not widened. -/
def clustersFrom (current : Cluster) (last : Option Char) : List Char → List Cluster
  | [] => [current]
  | [c] =>
    if c = pictureSelector && last.any (inRanges widenedRanges) then
      [⟨current.text ++ [c], current.width + 1⟩]
    else if cellWidth c = 0 then [⟨current.text ++ [c], current.width⟩]
    else [current, ⟨[c], cellWidth c⟩]
  | c :: d :: rest =>
    if c = joiner then clustersFrom ⟨current.text ++ [c, d], current.width⟩ last rest
    else if c = pictureSelector && last.any (inRanges widenedRanges) then
      clustersFrom ⟨current.text ++ [c], current.width + 1⟩ none (d :: rest)
    else if cellWidth c = 0 then clustersFrom ⟨current.text ++ [c], current.width⟩ last (d :: rest)
    else current :: clustersFrom ⟨[c], cellWidth c⟩ (some c) (d :: rest)

def clusters : List Char → List Cluster
  | [] => []
  | c :: rest => clustersFrom ⟨[c], cellWidth c⟩ (if cellWidth c = 0 then none else some c) rest

def clustersWidth (ks : List Cluster) : Nat := (ks.map (·.width)).foldl (· + ·) 0

/-- The number of cells of a text. -/
def widthOf (cs : List Char) : Nat := clustersWidth (clusters cs)

def blanks (n : Nat) : List Char := List.replicate n ' '

/-- The longest prefix of clusters that fits. A wide cluster at the edge is replaced by a blank. -/
def takeCells (room : Nat) : List Cluster → List Char
  | [] => []
  | k :: rest =>
    if k.width ≤ room then k.text ++ takeCells (room - k.width) rest else blanks room

/-- The prefix of a text that fits a width. -/
def crop (width : Nat) (cs : List Char) : List Char :=
  if widthOf cs ≤ width then cs else takeCells width (clusters cs)

def padRight (width : Nat) (cs : List Char) : List Char := cs ++ blanks (width - widthOf cs)

def padLeft (width : Nat) (cs : List Char) : List Char := blanks (width - widthOf cs) ++ cs

/-- The text in pieces that fit a width, if none of its clusters is wider. -/
def chopFrom (width : Nat) (piece : List Char) (used : Nat) : List Cluster → List (List Char)
  | [] => if used = 0 then [] else [piece]
  | k :: rest =>
    if width < used + k.width then piece :: chopFrom width k.text k.width rest
    else chopFrom width (piece ++ k.text) (used + k.width) rest

def chop (width : Nat) (cs : List Char) : List (List Char) := chopFrom width [] 0 (clusters cs)

end SqlBridge.Console
