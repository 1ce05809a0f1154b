import SqlBridge.Value

/-!
The document text of a value, in ASCII. Without an indent it is one line; with an indent every item
of a container has its own line.
-/

namespace SqlBridge.Document

open Decimal

/-- A character outside ASCII as its UTF-16 units. -/
def unicodeEscape (n : Nat) : List Char :=
  if n < 0x10000 then '\\' :: 'u' :: Text.hex 4 n
  else
    '\\' :: 'u' :: Text.hex 4 (0xD800 + (n - 0x10000) / 0x400)
      ++ '\\' :: 'u' :: Text.hex 4 (0xDC00 + (n - 0x10000) % 0x400)

def escapeChar (c : Char) : List Char :=
  if c = '"' then ['\\', '"']
  else if c = '\\' then ['\\', '\\']
  else if c = '\n' then ['\\', 'n']
  else if c = '\r' then ['\\', 'r']
  else if c = '\t' then ['\\', 't']
  else if c = '\x08' then ['\\', 'b']
  else if c = '\x0c' then ['\\', 'f']
  else if 0x20 ≤ c.toNat && c.toNat < 0x7F then [c]
  else unicodeEscape c.toNat

def writeText (s : String) : List Char := '"' :: s.toList.flatMap escapeChar ++ ['"']

def writeDouble (x : Double) : List Char :=
  match x.read with
  | .nan => "NaN".toList
  | .infinite negative => (if negative then "-Infinity" else "Infinity").toList
  | .finite _ _ _ => x.text.toList

/-- A new line at a depth, empty without an indent. -/
def lineBreak (indent : Option Nat) (depth : Nat) : List Char :=
  match indent with
  | none => []
  | some width => '\n' :: List.replicate (width * depth) ' '

/-- The text between two items of a container at a depth. -/
def separator (indent : Option Nat) (depth : Nat) : List Char :=
  match indent with
  | none => [',', ' ']
  | some _ => ',' :: lineBreak indent depth

mutual

def write (indent : Option Nat) (depth : Nat) : Value → List Char
  | .null => "null".toList
  | .bool b => (if b then "true" else "false").toList
  | .int n => (intText n).toList
  | .double x => writeDouble x
  | .text s => writeText s
  | .list [] => ['[', ']']
  | .list (v :: rest) =>
    '[' :: lineBreak indent (depth + 1) ++ write indent (depth + 1) v
      ++ writeItems indent (depth + 1) rest ++ lineBreak indent depth ++ [']']
  | .object [] => ['\x7b', '\x7d']
  | .object ((name, v) :: rest) =>
    '\x7b' :: lineBreak indent (depth + 1) ++ writeText name ++ [':', ' ']
      ++ write indent (depth + 1) v
      ++ writeFields indent (depth + 1) rest ++ lineBreak indent depth ++ ['\x7d']

/-- The items after the first, each after its separator. -/
def writeItems (indent : Option Nat) (depth : Nat) : List Value → List Char
  | [] => []
  | v :: rest => separator indent depth ++ write indent depth v ++ writeItems indent depth rest

def writeFields (indent : Option Nat) (depth : Nat) : List (String × Value) → List Char
  | [] => []
  | (name, v) :: rest =>
    separator indent depth ++ writeText name ++ [':', ' '] ++ write indent depth v
      ++ writeFields indent depth rest

end

/-- The one-line text. -/
def compact (v : Value) : String := String.ofList (write none 0 v)

/-- The text with an indent of two blanks for each level. -/
def indented (v : Value) : String := String.ofList (write (some 2) 0 v)

end SqlBridge.Document
