import SqlBridge.Value
import SqlBridge.Decimal.Parse

/-!
Validation of typed data. A reader returns the datum, or all issues in the order of the declared
fields. Readers coerce: a truth value may be a word or the numbers 0 and 1, a whole number may be a
text or a double without fraction.
-/

namespace SqlBridge.Validation

open Decimal

/-- A step from a value to a part of it. -/
inductive Step where
  | name (s : String)
  | index (n : Nat)
deriving DecidableEq

inductive Kind where
  | missing
  | textType
  | truthType
  | truthParsing
  | wholeType
  | wholeParsing
  | wholeTooLong
  | wholeFromFraction
  | finiteNumber
  | realType
  | realParsing
  | objectType
  | listType
  | modelType
deriving DecidableEq

def Kind.code : Kind → String
  | .missing => "missing"
  | .textType => "string_type"
  | .truthType => "bool_type"
  | .truthParsing => "bool_parsing"
  | .wholeType => "int_type"
  | .wholeParsing => "int_parsing"
  | .wholeTooLong => "int_parsing_size"
  | .wholeFromFraction => "int_from_float"
  | .finiteNumber => "finite_number"
  | .realType => "float_type"
  | .realParsing => "float_parsing"
  | .objectType => "dict_type"
  | .listType => "list_type"
  | .modelType => "model_type"

structure Issue where
  place : List Step
  kind : Kind
deriving DecidableEq

abbrev Checked (α : Type) := Except (List Issue) α

def issue {α : Type} (kind : Kind) : Checked α := .error [⟨[], kind⟩]

/-- The issues of a part, located in the whole. -/
def within {α : Type} (step : Step) : Checked α → Checked α
  | .ok a => .ok a
  | .error issues => .error (issues.map fun i => ⟨step :: i.place, i.kind⟩)

/-- Both data, or the issues of both. -/
def both {α β : Type} : Checked α → Checked β → Checked (α × β)
  | .ok a, .ok b => .ok (a, b)
  | .ok _, .error issues => .error issues
  | .error issues, .ok _ => .error issues
  | .error issues, .error more => .error (issues ++ more)

/-- Every part read, with the issues of all of them. -/
def each {α β : Type} (read : α → Checked β) : List α → Checked (List β)
  | [] => .ok []
  | a :: rest => (both (read a) (each read rest)).map fun (b, bs) => b :: bs

/-- The members of a list, each located by its index. -/
def eachIndexed {α β : Type} (read : α → Checked β) (items : List α) : Checked (List β) :=
  each (fun (a, i) => within (.index i) (read a)) items.zipIdx

def text (v : Value) : Checked String :=
  match v with
  | .text s => .ok s
  | _ => issue .textType

/-- Null, or what the reader accepts. -/
def nullable {α : Type} (read : Value → Checked α) : Value → Checked (Option α)
  | .null => .ok none
  | v => (read v).map some

/-- The empty list or object in place of null. -/
def orEmpty (empty v : Value) : Value := if v.isNull then empty else v

def trueWords : List String := ["1", "t", "y", "on", "yes", "true"]

def falseWords : List String := ["0", "f", "n", "no", "off", "false"]

def wordEnd : Int := Int.ofNat (Nat.pow 2 63)

def fitsWord (n : Int) : Bool := -wordEnd ≤ n && n < wordEnd

def truthOfWhole (n : Int) : Checked Bool :=
  if n = 0 then .ok false
  else if n = 1 then .ok true
  else if fitsWord n then issue .truthParsing
  else issue .truthType

/-- The whole number equal to a double that lies strictly between the bounds of signed words. -/
def wholeOfDouble (x : Double) : Except Kind Int :=
  match x.read with
  | .finite _ _ _ =>
    match x.toInt? with
    | some n => if -wordEnd < n && n < wordEnd then .ok n else .error .wholeTooLong
    | none => .error .wholeFromFraction
  | _ => .error .finiteNumber

def truth (v : Value) : Checked Bool :=
  match v with
  | .bool b => .ok b
  | .int n => truthOfWhole n
  | .double x =>
    match wholeOfDouble x with
    | .ok n => truthOfWhole n
    | .error _ => issue .truthType
  | .text s =>
    let word := s.map Char.toLower
    if trueWords.contains word then .ok true
    else if falseWords.contains word then .ok false
    else issue .truthParsing
  | _ => issue .truthType

/-- ASCII digits with single underscores inside. -/
def digitsWithUnderscores : List Char → Option (List Char)
  | [] => none
  | [c] => if Text.isAsciiDigit c then some [c] else none
  | c :: '_' :: rest =>
    if Text.isAsciiDigit c then (digitsWithUnderscores rest).map (c :: ·) else none
  | c :: rest =>
    if Text.isAsciiDigit c then (digitsWithUnderscores rest).map (c :: ·) else none

/-- A whole number in text, with an optional fraction of zeros. -/
def wholeText? (cs : List Char) : Option Int :=
  let (negative, body) := match cs with
    | '-' :: rest => (true, rest)
    | '+' :: rest => (false, rest)
    | rest => (false, rest)
  let whole := body.takeWhile (· != '.')
  let fraction := (body.dropWhile (· != '.')).drop 1
  if fraction.all (· == '0') then
    (digitsWithUnderscores whole).map fun digits =>
      let n : Int := natOfChars digits
      if negative then -n else n
  else none

def whole (v : Value) : Checked Int :=
  match v with
  | .bool b => .ok (if b then 1 else 0)
  | .int n => .ok n
  | .double x =>
    match wholeOfDouble x with
    | .ok n => .ok n
    | .error kind => issue kind
  | .text s =>
    let cs := Text.trimBy Text.isSpace s.toList
    if 4300 < cs.length then issue .wholeTooLong
    else
      match wholeText? cs with
      | some n => .ok n
      | none => issue .wholeParsing
  | _ => issue .wholeType

def lowerAscii (cs : List Char) : List Char := cs.map Char.toLower

/-- An exponent that ends the text. -/
def exponentText? : List Char → Option Int
  | [] => some 0
  | e :: rest =>
    if e = 'e' || e = 'E' then
      let (negative, digits) := match rest with
        | '-' :: digits => (true, digits)
        | '+' :: digits => (false, digits)
        | digits => (false, digits)
      if digits.isEmpty || !digits.all Text.isAsciiDigit then none
      else
        let n : Int := natOfChars digits
        some (if negative then -n else n)
    else none

/-- A real number in text: digits on at least one side of an optional point and an optional
exponent, or a word for an infinity or for NaN. -/
def realText? (cs : List Char) : Option Double :=
  let (negative, body) := match cs with
    | '-' :: rest => (true, rest)
    | '+' :: rest => (false, rest)
    | rest => (false, rest)
  let word := lowerAscii body
  if word = "inf".toList || word = "infinity".toList then some (Double.infinity negative)
  else if word = "nan".toList then some Double.nan
  else
    let whole := body.takeWhile Text.isAsciiDigit
    let rest := body.dropWhile Text.isAsciiDigit
    let (fraction, rest) := match rest with
      | '.' :: rest => (rest.takeWhile Text.isAsciiDigit, rest.dropWhile Text.isAsciiDigit)
      | rest => ([], rest)
    if whole.isEmpty && fraction.isEmpty then none
    else
      (exponentText? rest).map fun e =>
        Double.ofDecimal negative (natOfChars (whole ++ fraction)) (e - fraction.length)

/-- Whether underscores stand apart from each other and from both ends. -/
def underscoresApart (cs : List Char) : Bool :=
  cs.head? != some '_' && cs.getLast? != some '_' && cs.contains '_'
    && !(cs.zip (cs.drop 1)).contains ('_', '_')

def real (v : Value) : Checked Double :=
  match v with
  | .bool b => .ok (Double.ofInt (if b then 1 else 0))
  | .int n =>
    let x := Double.ofInt n
    if x.isFinite then .ok x else issue .realType
  | .double x => .ok x
  | .text s =>
    match realText? (Text.trimBy Text.isSpace s.toList) with
    | some x => .ok x
    | none =>
      if underscoresApart s.toList then
        match realText? (s.toList.filter (· != '_')) with
        | some x => .ok x
        | none => issue .realParsing
      else issue .realParsing
  | _ => issue .realType

def object (v : Value) : Checked (Fields Value) :=
  match v with
  | .object fields => .ok fields
  | _ => issue .objectType

def list (v : Value) : Checked (List Value) :=
  match v with
  | .list items => .ok items
  | _ => issue .listType

/-- The fields of a value read as a record. -/
def record (v : Value) : Checked (Fields Value) :=
  match v with
  | .object fields => .ok fields
  | _ => issue .modelType

/-- An optional field under its name. -/
def optional {α : Type} (fields : Fields Value) (name : String) (absent : α)
    (read : Value → Checked α) : Checked α :=
  match fields.get? name with
  | some v => within (.name name) (read v)
  | none => .ok absent

/-- An optional field with a public and a plain name; the public name takes precedence. -/
def optionalEither {α : Type} (fields : Fields Value) (shown plain : String) (absent : α)
    (read : Value → Checked α) : Checked α :=
  if fields.contains shown then optional fields shown absent read
  else optional fields plain absent read

/-- The fields under names that are not known, in their order. -/
def extras (fields : Fields Value) (known : List String) : Fields Value :=
  fields.filter fun (name, _) => !known.contains name

end SqlBridge.Validation
