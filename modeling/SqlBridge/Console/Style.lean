import SqlBridge.Console.ColorTable
import SqlBridge.Fields
import SqlBridge.Text.Lower

/-!
Styles and their names. Descriptions of one style have the same normal form, whatever the order of
their words; a description that is not a style is its own normal form, in lower case.
-/

namespace SqlBridge.Console

open Text

def colorNames : List String := "default" :: words colorWords

def isByte (cs : List Char) : Bool :=
  !cs.isEmpty && cs.all isAsciiDigit
    && cs.foldl (fun n c => n * 10 + (c.toNat - '0'.toNat)) 0 < 256

/-- The text between an opening word with its bracket and a closing bracket. -/
def bracketed? (opening : String) (word : String) : Option (List Char) :=
  if word.startsWith opening && word.endsWith ")" then
    some ((word.toList.drop opening.length).dropLast)
  else none

/-- Whether a word in lower case is a color, by name or by components. -/
def isColor (word : String) : Bool :=
  colorNames.contains word
    || (match word.toList with
      | '#' :: digits =>
        digits.length = 6 && digits.all fun c => isAsciiDigit c || ('a' ≤ c && c ≤ 'f')
      | _ => false)
    || (bracketed? "color(" word).any (fun digits => digits.length ≤ 3 && isByte digits)
    || (bracketed? "rgb(" word).any (fun parts =>
      let parts := (String.ofList parts).splitOn ","
      parts.length = 3 && parts.all fun part => isByte part.toList)

/-- The words that switch an attribute on, with the name of the attribute. -/
def switchWords : List (String × String) :=
  [("dim", "dim"), ("d", "dim"), ("bold", "bold"), ("b", "bold"), ("italic", "italic"),
   ("i", "italic"), ("underline", "underline"), ("u", "underline"), ("blink", "blink"),
   ("blink2", "blink2"), ("reverse", "reverse"), ("r", "reverse"), ("conceal", "conceal"),
   ("c", "conceal"), ("strike", "strike"), ("s", "strike"), ("underline2", "underline2"),
   ("uu", "underline2"), ("frame", "frame"), ("encircle", "encircle"), ("overline", "overline"),
   ("o", "overline")]

/-- The order of the attributes in the normal form. -/
def switchOrder : List String :=
  ["bold", "dim", "italic", "underline", "blink", "blink2", "reverse", "conceal", "strike",
   "underline2", "frame", "encircle", "overline"]

structure Style where
  switches : Fields Bool
  color : Option String
  background : Option String
  link : Option String

namespace Style

def plain : Style := ⟨[], none, none, none⟩

def readWords (s : Style) : List String → Option Style
  | [] => some s
  | first :: rest =>
    let word := lower first
    if word = "on" then
      match rest with
      | [] => none
      | color :: rest =>
        if isColor (lower color) then readWords { s with background := some (lower color) } rest
        else none
    else if word = "not" then
      match rest with
      | [] => none
      | switch :: rest =>
        match switchWords.lookup switch with
        | some name => readWords { s with switches := s.switches.insert name false } rest
        | none => none
    else if word = "link" then
      match rest with
      | [] => none
      | address :: rest => readWords { s with link := some address } rest
    else
      match switchWords.lookup word with
      | some name => readWords { s with switches := s.switches.insert name true } rest
      | none => if isColor word then readWords { s with color := some word } rest else none

def text (s : Style) : String :=
  let switches := switchOrder.filterMap fun name =>
    (s.switches.get? name).map fun on => if on then name else "not " ++ name
  let parts := switches ++ s.color.toList ++ (s.background.map ("on " ++ ·)).toList
    ++ (s.link.map ("link " ++ ·)).toList
  if parts.isEmpty then "none" else " ".intercalate parts

/-- The normal form of a description. -/
def normal (description : List Char) : String :=
  let trimmed := trimBy isBlank description
  if trimmed = "none".toList then "none"
  else
    match readWords plain (words (String.ofList description)) with
    | some s => s.text
    | none => String.ofList (lowerChars trimmed)

end Style

end SqlBridge.Console
