import SqlBridge.Text.DigitTable
import SqlBridge.Text.UnprintableTable

/-!
Classes of characters. `isSpace` is the class of blanks allowed around a number in text; `isBlank`,
which separates words, also contains the four information separators.
-/

namespace SqlBridge.Text

def inRanges (ranges : List (Nat × Nat)) (c : Char) : Bool :=
  ranges.any fun (first, last) => first ≤ c.toNat && c.toNat ≤ last

def spaceRanges : List (Nat × Nat) :=
  [(0x9, 0xD), (0x20, 0x20), (0x85, 0x85), (0xA0, 0xA0), (0x1680, 0x1680), (0x2000, 0x200A),
   (0x2028, 0x2029), (0x202F, 0x202F), (0x205F, 0x205F), (0x3000, 0x3000)]

def isSpace (c : Char) : Bool := inRanges spaceRanges c

def isBlank (c : Char) : Bool := isSpace c || inRanges [(0x1C, 0x1F)] c

/-- Drops the characters of a class from both ends. -/
def trimBy (p : Char → Bool) (cs : List Char) : List Char :=
  ((cs.dropWhile p).reverse.dropWhile p).reverse

def trimEnd (cs : List Char) : List Char := (cs.reverse.dropWhile isBlank).reverse

/-- The words of a text; `current` holds the characters of the first one in reverse. -/
def wordsFrom (current : List Char) : List Char → List (List Char)
  | [] => if current.isEmpty then [] else [current.reverse]
  | c :: rest =>
    if isBlank c then
      (if current.isEmpty then [] else [current.reverse]) ++ wordsFrom [] rest
    else wordsFrom (c :: current) rest

/-- The words of a text, separated by blanks. -/
def words (s : String) : List String := (wordsFrom [] s.toList).map String.ofList

def isAscii (c : Char) : Bool := c.toNat < 0x80

def isAsciiDigit (c : Char) : Bool := '0' ≤ c && c ≤ '9'

/-- The value of a decimal digit of any script. -/
def digitValue? (c : Char) : Option Nat :=
  if isAsciiDigit c then some (c.toNat - '0'.toNat)
  else if c.toNat < 0x80 then none
  else (digitZeros.find? fun first => first ≤ c.toNat && c.toNat < first + 10).map (c.toNat - ·)

def isPrintable (c : Char) : Bool :=
  if c.toNat < 0x80 then 0x20 ≤ c.toNat && c.toNat < 0x7F else !inRanges unprintableRanges c

/-- The hexadecimal digits of `n` in lower case, at least `width` of them. -/
def hex (width n : Nat) : List Char :=
  let digits := Nat.toDigits 16 n
  List.replicate (width - digits.length) '0' ++ digits

end SqlBridge.Text
