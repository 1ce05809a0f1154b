import SqlBridge.Text.CaseTable
import SqlBridge.Text.Character

/-!
Lower case in Unicode. A capital sigma has its final form after a letter that is not followed by
another one, where marks are ignored; a capital dotted I is mapped to two characters.
-/

namespace SqlBridge.Text

def isCased (c : Char) : Bool :=
  if c.toNat < 0x80 then c.isAlpha else inRanges casedRanges c

def isIgnorable (c : Char) : Bool := inRanges ignorableRanges c

/-- The lower-case form of one character that is not a capital sigma. -/
def lowerOne (c : Char) : List Char :=
  if c.toNat < 0x80 then [c.toLower]
  else if c.toNat = 0x130 then ['i', '\u0307']
  else
    match lowerRuns.find? fun (first, last, step, _) =>
        first ≤ c.toNat && c.toNat ≤ last && (c.toNat - first) % step == 0 with
    | some (first, _, _, target) => [Char.ofNat (target + (c.toNat - first))]
    | none => [c]

/-- Whether the first character that is not ignored is a cased one. -/
def meetsCased (cs : List Char) : Bool :=
  match cs.dropWhile isIgnorable with
  | c :: _ => isCased c
  | [] => false

/-- The lower case of characters after those of `before`, which is held in reverse. -/
def lowerFrom (before : List Char) : List Char → List Char
  | [] => []
  | c :: rest =>
    (if c.toNat = 0x3A3 then
      (if meetsCased before && !meetsCased rest then ['\u03C2'] else ['\u03C3'])
    else lowerOne c) ++ lowerFrom (c :: before) rest

def lowerChars (cs : List Char) : List Char := lowerFrom [] cs

def lower (s : String) : String := String.ofList (lowerChars s.toList)

end SqlBridge.Text
