import SqlBridge.Decimal.Places
import SqlBridge.Decimal.Parse
import SqlBridge.Failure

/-!
Message templates. A conversion is a percent sign with an optional name, flags, width and precision,
and a letter; it takes the next argument, or the named one when the arguments are an object. Every
argument has to be used, unless the arguments are named or a single list. Decimal text has the digit
limit of documents.
-/

namespace SqlBridge.Log

/-- The arguments of a template: a sequence, named ones, or one value for the only conversion. -/
inductive Arguments where
  | sequence (items : List Value)
  | named (fields : Fields Value)
  | single (v : Value)

/-- Whether an unused argument is a fault. -/
def Arguments.mustBeUsed : Arguments → Bool
  | .sequence _ => true
  | .named _ => false
  | .single (.list _) => false
  | .single _ => true

/-- The arguments not yet used. A chosen named argument can be used once, and the object as a whole
once. -/
structure Supply where
  next : List Value
  fields : Option (Fields Value)

def Supply.ofArguments : Arguments → Supply
  | .sequence items => ⟨items, none⟩
  | .named fields => ⟨[.object fields], some fields⟩
  | .single v => ⟨[v], none⟩

def Supply.take (s : Supply) : Outcome (Value × Supply) :=
  match s.next with
  | v :: rest => .ok (v, { s with next := rest })
  | [] => .error (.wrongType "not enough arguments for format string")

structure Flags where
  left : Bool
  plus : Bool
  blank : Bool
  alternate : Bool
  zeros : Bool

def noFlags : Flags := ⟨false, false, false, false, false⟩

def addFlag (f : Flags) (c : Char) : Option Flags :=
  if c = '-' then some { f with left := true }
  else if c = '+' then some { f with plus := true }
  else if c = ' ' then some { f with blank := true }
  else if c = '#' then some { f with alternate := true }
  else if c = '0' then some { f with zeros := true }
  else none

def readFlags (f : Flags) : List Char → Flags × List Char
  | [] => (f, [])
  | c :: rest =>
    match addFlag f c with
    | some f => readFlags f rest
    | none => (f, c :: rest)

/-- Reads a name up to its closing parenthesis; it may contain parentheses in pairs. -/
def readName (depth : Nat) : List Char → Option (List Char × List Char)
  | [] => none
  | c :: rest =>
    if c = ')' then
      if depth = 0 then some ([], rest)
      else (readName (depth - 1) rest).map fun (name, after) => (c :: name, after)
    else
      let depth := if c = '(' then depth + 1 else depth
      (readName depth rest).map fun (name, after) => (c :: name, after)

/-- A number of the template up to `largest`, or one taken from the arguments; `fault` is the fault
of a larger one in the template. -/
def readAmount (largest : Nat) (fault : ValueFault) (s : Supply) :
    List Char → Outcome (Option Int × Supply × List Char)
  | '*' :: rest => do
    let (v, s) ← s.take
    let n ← match v with
      | .int n => .ok n
      | .bool b => .ok (if b then 1 else 0)
      | _ => .error (.wrongType "* wants int")
    if n.natAbs ≤ largest then return (some n, s, rest) else .error .overflow
  | cs =>
    let digits := cs.takeWhile Text.isAsciiDigit
    let rest := cs.dropWhile Text.isAsciiDigit
    if digits.isEmpty then .ok (none, s, rest)
    else
      let n := Decimal.natOfChars digits
      if n ≤ largest then .ok (some n, s, rest) else .error (.value fault)

def largestWidth : Nat := Nat.pow 2 63 - 1

def largestPrecision : Nat := Nat.pow 2 31 - 1

def readWidth (s : Supply) (cs : List Char) : Outcome (Option Int × Supply × List Char) :=
  readAmount largestWidth .widthTooBig s cs

def readPrecision (s : Supply) : List Char → Outcome (Option Nat × Supply × List Char)
  | '.' :: rest => do
    let (amount, s, rest) ← readAmount largestPrecision .precisionTooBig s rest
    return (some (amount.getD 0).toNat, s, rest)
  | cs => .ok (none, s, cs)

/-- A converted argument: its sign, the mark of its base, and its digits or characters. -/
structure Piece where
  sign : List Char
  mark : List Char
  body : List Char

/-- A piece in its field: zeros are inserted after sign and mark, blanks before or after the whole.
-/
def layOut (zeros left : Bool) (width : Nat) (p : Piece) : List Char :=
  let head := p.sign ++ p.mark
  let room := width - (head.length + p.body.length)
  if left then head ++ p.body ++ List.replicate room ' '
  else if zeros then head ++ List.replicate room '0' ++ p.body
  else List.replicate room ' ' ++ head ++ p.body

def signOf (f : Flags) (negative : Bool) : List Char :=
  if negative then ['-'] else if f.plus then ['+'] else if f.blank then [' '] else []

def upperAscii (cs : List Char) : List Char := cs.map Char.toUpper

/-- A whole number in a base, with at least as many digits as the precision. -/
def wholePiece (f : Flags) (base : Nat) (mark : List Char) (precision : Option Nat) (n : Int) :
    Piece :=
  let digits := Nat.toDigits base n.natAbs
  let padded := List.replicate (precision.getD 0 - digits.length) '0' ++ digits
  ⟨signOf f (n < 0), if f.alternate then mark else [], padded⟩

/-- A double by one of the letters e, f and g. -/
def realPiece (f : Flags) (letter : Char) (precision : Option Nat) (x : Decimal.Double) : Piece :=
  let count := precision.getD 6
  match x.read with
  | .nan => ⟨signOf f false, [], "nan".toList⟩
  | .infinite negative => ⟨signOf f negative, [], "inf".toList⟩
  | .finite negative m e =>
    let (num, den) := Decimal.Double.ratio m e
    let text :=
      if letter = 'e' then Decimal.exponentialText f.alternate count num den
      else if letter = 'f' then Decimal.fixedText f.alternate count num den
      else Decimal.generalText f.alternate count num den
    ⟨signOf f negative, [], text.toList⟩

/-- The whole number of an argument of a decimal conversion. -/
def wholeArgument : Value → Outcome Int
  | .bool b => .ok (if b then 1 else 0)
  | .int n => .ok n
  | .double x =>
    match x.truncate? with
    | some n => .ok n
    | none => .error (if x.read = .nan then .value .noNumber else .overflow)
  | _ => .error (.wrongType "a number is required")

/-- The whole number of an argument of a conversion to another base, which takes no fractions. -/
def exactArgument : Value → Outcome Int
  | .bool b => .ok (if b then 1 else 0)
  | .int n => .ok n
  | _ => .error (.wrongType "an integer is required")

def realArgument : Value → Outcome Decimal.Double
  | .bool b => .ok (Decimal.Double.ofInt (if b then 1 else 0))
  | .int n =>
    let x := Decimal.Double.ofInt n
    if x.isFinite then .ok x else .error .overflow
  | .double x => .ok x
  | _ => .error (.wrongType "must be a number")

/-- The character of an argument, given as itself or by its number. -/
def characterArgument : Value → Outcome (List Char)
  | .text s =>
    match s.toList with
    | [c] => .ok [c]
    | _ => .error (.wrongType "%c requires int or char")
  | .bool b => .ok [Char.ofNat (if b then 1 else 0)]
  | .int n =>
    if 0 ≤ n ∧ n < 0x110000 then .ok [Char.ofNat n.toNat] else .error .overflow
  | _ => .error (.wrongType "%c requires int or char")

/-- A value as a literal with every character outside ASCII escaped. -/
def asciiLiteral (v : Value) : List Char :=
  v.literal.toList.flatMap fun c =>
    if c.toNat < 0x80 then [c] else Text.quotedChar false '"' c

def textPiece (precision : Option Nat) (cs : List Char) : Piece :=
  ⟨[], [], match precision with
    | some n => cs.take n
    | none => cs⟩

/-- Fails on a value with a whole number beyond the digit limit. -/
def checkShown (v : Value) : Outcome Unit :=
  match Document.writeFault? false v with
  | none => .ok ()
  | some fault => .error (.value (.unwritable fault))

/-- Converts an argument by the conversion letter at `index`; the second part of the result tells
whether the piece is numeric. -/
def convert (f : Flags) (letter : Char) (index : Nat) (precision : Option Nat) (v : Value) :
    Outcome (Piece × Bool) :=
  if letter = 's' then do
    checkShown v
    return (textPiece precision v.shown.toList, false)
  else if letter = 'r' then do
    checkShown v
    return (textPiece precision v.literal.toList, false)
  else if letter = 'a' then do
    checkShown v
    return (textPiece precision (asciiLiteral v), false)
  else if letter = 'c' then do
    let cs ← characterArgument v
    return (⟨[], [], cs⟩, false)
  else if letter = 'd' || letter = 'i' || letter = 'u' then do
    let n ← wholeArgument v
    checkShown (.int n)
    return (wholePiece f 10 [] precision n, true)
  else if letter = 'o' then do
    let n ← exactArgument v
    return (wholePiece f 8 "0o".toList precision n, true)
  else if letter = 'x' then do
    let n ← exactArgument v
    return (wholePiece f 16 "0x".toList precision n, true)
  else if letter = 'X' then do
    let n ← exactArgument v
    let p := wholePiece f 16 "0X".toList precision n
    return (⟨p.sign, p.mark, upperAscii p.body⟩, true)
  else if letter = 'e' || letter = 'f' || letter = 'g' then do
    let x ← realArgument v
    return (realPiece f letter precision x, true)
  else if letter = 'E' || letter = 'F' || letter = 'G' then do
    let x ← realArgument v
    let p := realPiece f letter.toLower precision x
    return (⟨p.sign, p.mark, upperAscii p.body⟩, true)
  else .error (.value (.unknownConversion letter index))

/-- Chooses a named argument as the next one. -/
def choose (s : Supply) : List Char → Outcome (Supply × List Char)
  | '(' :: rest =>
    match s.fields with
    | none => .error (.wrongType "format requires a mapping")
    | some fields =>
      match readName 0 rest with
      | none => .error (.value .incompleteTemplateKey)
      | some (name, after) =>
        match fields.get? (String.ofList name) with
        | some v => .ok ({ s with next := [v] }, after)
        | none => .error (.missingName (String.ofList name))
  | cs => .ok (s, cs)

/-- Drops a letter for the size of a number. -/
def dropSizeLetter : List Char → List Char
  | c :: rest => if c = 'h' || c = 'l' || c = 'L' then rest else c :: rest
  | [] => []

/-- One conversion after its percent sign, in a template of `length` characters. -/
def conversion (length : Nat) (s : Supply) (cs : List Char) :
    Outcome (List Char × Supply × List Char) := do
  let (s, cs) ← choose s cs
  let (flags, cs) := readFlags noFlags cs
  let (width, s, cs) ← readWidth s cs
  let (precision, s, cs) ← readPrecision s cs
  match dropSizeLetter cs with
  | [] => .error (.value .incompleteTemplate)
  | letter :: rest =>
    let (v, s) ← s.take
    let (piece, numeric) ← convert flags letter (length - (rest.length + 1)) precision v
    let width := width.getD 0
    let left := flags.left || width < 0
    return (layOut (flags.zeros && numeric) left width.natAbs piece, s, rest)

/-- Fills in a template; two percent signs give one. Every round reads at least one character. -/
def fillFrom (fuel length : Nat) (s : Supply) (cs : List Char) : Outcome (List Char × Supply) :=
  match fuel with
  | 0 => .ok ([], s)
  | fuel + 1 =>
    match cs with
    | [] => .ok ([], s)
    | '%' :: '%' :: rest => do
      let (more, s) ← fillFrom fuel length s rest
      return ('%' :: more, s)
    | '%' :: rest => do
      let (piece, s, rest) ← conversion length s rest
      let (more, s) ← fillFrom fuel length s rest
      return (piece ++ more, s)
    | c :: rest => do
      let (more, s) ← fillFrom fuel length s rest
      return (c :: more, s)

def fill (template : String) (arguments : Arguments) : Outcome String := do
  let cs := template.toList
  let (filled, rest) ← fillFrom (cs.length + 1) cs.length (.ofArguments arguments) cs
  if arguments.mustBeUsed && !rest.next.isEmpty then
    .error (.wrongType "not all arguments converted during string formatting")
  else return String.ofList filled

end SqlBridge.Log
