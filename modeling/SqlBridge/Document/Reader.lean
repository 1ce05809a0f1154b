import SqlBridge.Value
import SqlBridge.Decimal.Parse

/-!
Reading of document text. A fault is a cause with the number of characters still to be read, which
determines its position in the whole text. `NaN` and `Infinity` are numbers, a repeated name keeps
its first position and its last value, and a whole number may have too many digits.
-/

namespace SqlBridge.Document

open Decimal

inductive Cause where
  | expectedValue
  | expectedName
  | expectedColon
  | expectedComma
  | unterminatedText
  | controlCharacter
  | badUnicodeEscape
  | badEscape
  | extraData
  | byteOrderMark
  | tooManyDigits (digits : Nat)
deriving DecidableEq

structure Fault where
  cause : Cause
  remaining : Nat
deriving DecidableEq

/-- A parsed part with the text after it, or a fault. -/
abbrev Result (α : Type) := Except Fault (α × List Char)

def faultAt {α : Type} (cause : Cause) (cs : List Char) : Except Fault α :=
  .error ⟨cause, cs.length⟩

def isSeparator (c : Char) : Bool := c = ' ' || c = '\t' || c = '\n' || c = '\r'

def skip (cs : List Char) : List Char := cs.dropWhile isSeparator

def hexValue? (c : Char) : Option Nat :=
  if '0' ≤ c && c ≤ '9' then some (c.toNat - '0'.toNat)
  else if 'a' ≤ c && c ≤ 'f' then some (c.toNat - 'a'.toNat + 10)
  else if 'A' ≤ c && c ≤ 'F' then some (c.toNat - 'A'.toNat + 10)
  else none

def unit? (a b c d : Char) : Option Nat := do
  let a ← hexValue? a
  let b ← hexValue? b
  let c ← hexValue? c
  let d ← hexValue? d
  return ((a * 16 + b) * 16 + c) * 16 + d

def isHighSurrogate (n : Nat) : Bool := 0xD800 ≤ n && n < 0xDC00

def isLowSurrogate (n : Nat) : Bool := 0xDC00 ≤ n && n < 0xE000

/-- The character of a UTF-16 unit; a lone surrogate is replaced. -/
def charOfUnit (n : Nat) : Char :=
  if 0xD800 ≤ n && n < 0xE000 then '\uFFFD' else Char.ofNat n

def charOfPair (high low : Nat) : Char :=
  Char.ofNat (0x10000 + (high - 0xD800) * 0x400 + (low - 0xDC00))

def simpleEscape? (c : Char) : Option Char :=
  if c = '"' || c = '\\' || c = '/' then some c
  else if c = 'b' then some '\x08'
  else if c = 'f' then some '\x0c'
  else if c = 'n' then some '\n'
  else if c = 'r' then some '\r'
  else if c = 't' then some '\t'
  else none

/-- Reads text after its opening quote, which was read with `start` characters left; `read` holds
the characters so far, in reverse. -/
def readText (start : Nat) (read : List Char) : List Char → Result String
  | [] => .error ⟨.unterminatedText, start⟩
  | '"' :: rest => .ok (String.ofList read.reverse, rest)
  | ['\\'] => .error ⟨.unterminatedText, start⟩
  | '\\' :: 'u' :: a :: b :: c :: d :: '\\' :: 'u' :: a' :: b' :: c' :: d' :: next :: rest =>
    match unit? a b c d with
    | none => .error ⟨.badUnicodeEscape, rest.length + 12⟩
    | some high =>
      if isHighSurrogate high then
        match unit? a' b' c' d' with
        | none => .error ⟨.badUnicodeEscape, rest.length + 6⟩
        | some low =>
          if isLowSurrogate low then readText start (charOfPair high low :: read) (next :: rest)
          else
            readText start (charOfUnit high :: read)
              ('\\' :: 'u' :: a' :: b' :: c' :: d' :: next :: rest)
      else
        readText start (charOfUnit high :: read)
          ('\\' :: 'u' :: a' :: b' :: c' :: d' :: next :: rest)
  | '\\' :: 'u' :: a :: b :: c :: d :: next :: rest =>
    match unit? a b c d with
    | none => .error ⟨.badUnicodeEscape, rest.length + 6⟩
    | some n => readText start (charOfUnit n :: read) (next :: rest)
  | '\\' :: 'u' :: rest => .error ⟨.badUnicodeEscape, rest.length + 1⟩
  | '\\' :: c :: rest =>
    match simpleEscape? c with
    | some e => readText start (e :: read) rest
    | none => .error ⟨.badEscape, rest.length + 2⟩
  | c :: rest =>
    if c.toNat < 0x20 then .error ⟨.controlCharacter, rest.length + 1⟩
    else readText start (c :: read) rest

/-- Reads a fraction: a point with at least one digit. -/
def readFraction : List Char → List Char × List Char
  | '.' :: d :: rest =>
    if Text.isAsciiDigit d then
      ((d :: rest).takeWhile Text.isAsciiDigit, (d :: rest).dropWhile Text.isAsciiDigit)
    else ([], '.' :: d :: rest)
  | cs => ([], cs)

/-- Reads an exponent with at least one digit. -/
def readExponent (cs : List Char) : Option (Int × List Char) :=
  match cs with
  | e :: rest =>
    if e = 'e' || e = 'E' then
      let (negative, body) := match rest with
        | '-' :: body => (true, body)
        | '+' :: body => (false, body)
        | body => (false, body)
      let digits := body.takeWhile Text.isAsciiDigit
      if digits.isEmpty then none
      else
        let n := natOfChars digits
        some (if negative then -(n : Int) else n, body.dropWhile Text.isAsciiDigit)
    else none
  | [] => none

/-- Reads the whole part of a number: a single zero, or digits without a leading zero. -/
def readWholePart : List Char → Option (List Char × List Char)
  | [] => none
  | c :: rest =>
    if c = '0' then some (['0'], rest)
    else if Text.isAsciiDigit c then
      some (c :: rest.takeWhile Text.isAsciiDigit, rest.dropWhile Text.isAsciiDigit)
    else none

def numberOf (limit : Option Nat) (negative : Bool) (whole rest : List Char) :
    Except Fault (Value × List Char) :=
  let (fraction, afterFraction) := readFraction rest
  let exponent := readExponent afterFraction
  if fraction.isEmpty && exponent.isNone then
    let n := natOfChars whole
    let value : Value := .int (if negative then -(n : Int) else n)
    match limit with
    | some most =>
      if most < whole.length then faultAt (.tooManyDigits whole.length) rest
      else .ok (value, rest)
    | none => .ok (value, rest)
  else
    let (e, after) := exponent.getD (0, afterFraction)
    .ok (.double (Double.ofDecimal negative (natOfChars (whole ++ fraction))
      (e - fraction.length)), after)

def readNumber (limit : Option Nat) (cs : List Char) : Result Value :=
  let (negative, body) := match cs with
    | '-' :: body => (true, body)
    | body => (false, body)
  match readWholePart body with
  | some (whole, rest) => numberOf limit negative whole rest
  | none => faultAt .expectedValue cs

/-- The literals for values. -/
def words : List (String × Value) :=
  [("null", .null), ("true", .bool true), ("false", .bool false),
   ("NaN", .double Double.nan), ("Infinity", .double (Double.infinity false)),
   ("-Infinity", .double (Double.infinity true))]

def readWord (cs : List Char) : Option (Value × List Char) :=
  words.findSome? fun (word, value) =>
    if word.toList.isPrefixOf cs then some (value, cs.drop word.length) else none

mutual

/-- Reads one value at the start of the text. Every level of nesting takes one unit of fuel and at
least one character. -/
def readValue (limit : Option Nat) (fuel : Nat) (cs : List Char) : Result Value :=
  match fuel with
  | 0 => faultAt .expectedValue cs
  | fuel + 1 =>
    match cs with
    | '"' :: rest => (readText cs.length [] rest).map fun (s, after) => (.text s, after)
    | '[' :: rest =>
      match skip rest with
      | ']' :: after => .ok (.list [], after)
      | items => (readItems limit fuel items).map fun (vs, after) => (.list vs, after)
    | '\x7b' :: rest =>
      match skip rest with
      | '\x7d' :: after => .ok (.object [], after)
      | fields => (readFields limit fuel [] fields).map fun (fs, after) => (.object fs, after)
    | _ =>
      match readWord cs with
      | some found => .ok found
      | none => readNumber limit cs

/-- Reads the items of a list up to its closing bracket. -/
def readItems (limit : Option Nat) (fuel : Nat) (cs : List Char) : Result (List Value) :=
  match fuel with
  | 0 => faultAt .expectedValue cs
  | fuel + 1 =>
    match readValue limit fuel cs with
    | .error fault => .error fault
    | .ok (v, rest) =>
      match skip rest with
      | ']' :: after => .ok ([v], after)
      | ',' :: after => (readItems limit fuel (skip after)).map fun (vs, after) => (v :: vs, after)
      | other => faultAt .expectedComma other

/-- Reads the fields of an object up to its closing brace, after those already read. -/
def readFields (limit : Option Nat) (fuel : Nat) (read : Fields Value) (cs : List Char) :
    Result (Fields Value) :=
  match fuel with
  | 0 => faultAt .expectedValue cs
  | fuel + 1 =>
    match cs with
    | '"' :: rest =>
      match readText cs.length [] rest with
      | .error fault => .error fault
      | .ok (name, rest) =>
        match skip rest with
        | ':' :: rest =>
          match readValue limit fuel (skip rest) with
          | .error fault => .error fault
          | .ok (v, rest) =>
            match skip rest with
            | '\x7d' :: after => .ok (read.insert name v, after)
            | ',' :: after => readFields limit fuel (read.insert name v) (skip after)
            | other => faultAt .expectedComma other
        | other => faultAt .expectedColon other
    | other => faultAt .expectedName other

end

/-- Reads a whole text, with blanks around it and whole numbers of at most `limit` digits. -/
def readWith (limit : Option Nat) (cs : List Char) : Except Fault Value := do
  let (v, rest) ← readValue limit (2 * cs.length + 2) (skip cs)
  match skip rest with
  | [] => .ok v
  | other => faultAt .extraData other

def maxDigits : Nat := 4300

/-- Reads a text, which may not start with a byte order mark. -/
def read (s : String) : Except Fault Value :=
  let cs := s.toList
  if cs.head? = some '\uFEFF' then faultAt .byteOrderMark cs
  else readWith (some maxDigits) cs

/-- The body of an answer without a byte order mark at its start. -/
def bodyText (s : String) : List Char :=
  match s.toList with
  | c :: rest => if c = '\uFEFF' then rest else c :: rest
  | [] => []

def readBody (s : String) : Except Fault Value := readWith (some maxDigits) (bodyText s)

def Cause.message : Cause → String
  | .expectedValue => "Expecting value"
  | .expectedName => "Expecting property name enclosed in double quotes"
  | .expectedColon => "Expecting ':' delimiter"
  | .expectedComma => "Expecting ',' delimiter"
  | .unterminatedText => "Unterminated string starting at"
  | .controlCharacter => "Invalid control character at"
  | .badUnicodeEscape => "Invalid \\uXXXX escape"
  | .badEscape => "Invalid \\escape"
  | .extraData => "Extra data"
  | .byteOrderMark => "Unexpected UTF-8 BOM (decode using utf-8-sig)"
  | .tooManyDigits digits =>
    "Exceeds the limit (4300 digits) for integer string conversion: value has "
      ++ natText digits ++ " digits; use sys.set_int_max_str_digits() to increase the limit"

/-- The message of a fault in a text, with line, column and position. -/
def Fault.message (fault : Fault) (cs : List Char) : String :=
  match fault.cause with
  | .tooManyDigits _ => fault.cause.message
  | _ =>
    let before := cs.take (cs.length - fault.remaining)
    let line := before.count '\n' + 1
    let column := (before.reverse.takeWhile (· != '\n')).length + 1
    fault.cause.message ++ ": line " ++ natText line ++ " column " ++ natText column
      ++ " (char " ++ natText before.length ++ ")"

end SqlBridge.Document
