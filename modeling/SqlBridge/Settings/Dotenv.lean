import SqlBridge.Text.Character

/-!
Settings files: one `NAME=value` per line, with optional `export`, quotes and comments. A quoted
value may contain any characters, including escaped quotes; a bare value ends before a comment after
a blank. Invalid lines are skipped.
-/

namespace SqlBridge.Settings

def isLineEnd (c : Char) : Bool := c = '\n' || c = '\r'

def isLineBlank (c : Char) : Bool := Text.isBlank c && !isLineEnd c

def skipBlanks (cs : List Char) : List Char := cs.dropWhile isLineBlank

def dropLine (cs : List Char) : List Char := cs.dropWhile fun c => !isLineEnd c

/-- The text up to a closing quote, with escaped characters kept as written, and the text after it.
-/
def quotedSpan (quote : Char) : List Char → Option (List Char × List Char)
  | [] => none
  | ['\\'] => none
  | '\\' :: c :: rest => (quotedSpan quote rest).map fun (cs, after) => ('\\' :: c :: cs, after)
  | c :: rest =>
    if c = quote then some ([], rest)
    else (quotedSpan quote rest).map fun (cs, after) => (c :: cs, after)

def escapes : List (Char × Char) :=
  [('\\', '\\'), ('\'', '\''), ('"', '"'), ('a', '\x07'), ('b', '\x08'), ('f', '\x0c'), ('n', '\n'),
   ('r', '\r'), ('t', '\t'), ('v', '\x0b')]

/-- Replaces the escapes of the given letters. -/
def unescape (known : List (Char × Char)) : List Char → List Char
  | '\\' :: c :: rest =>
    match known.lookup c with
    | some e => e :: unescape known rest
    | none => '\\' :: c :: unescape known rest
  | c :: rest => c :: unescape known rest
  | [] => []

/-- A bare value without its comment, which starts with a number sign after a blank. -/
def bareValue (afterBlank : Bool) : List Char → List Char
  | [] => []
  | c :: rest => if c = '#' && afterBlank then [] else c :: bareValue (Text.isBlank c) rest

/-- Only blanks and a comment may follow a value on its line. -/
def lineRest? (cs : List Char) : Option (List Char) :=
  match skipBlanks cs with
  | [] => some []
  | c :: rest =>
    if isLineEnd c then some rest
    else if c = '#' then some (dropLine rest)
    else none

/-- A value with the text after its line. -/
def readValue (cs : List Char) : Option (String × List Char) :=
  match cs with
  | '\'' :: rest => do
    let (body, after) ← quotedSpan '\'' rest
    let next ← lineRest? after
    return (String.ofList (unescape (escapes.take 2) body), next)
  | '"' :: rest => do
    let (body, after) ← quotedSpan '"' rest
    let next ← lineRest? after
    return (String.ofList (unescape escapes body), next)
  | cs =>
    let line := cs.takeWhile fun c => !isLineEnd c
    some (String.ofList (Text.trimEnd (bareValue false line)), dropLine cs)

def dropExport (cs : List Char) : List Char :=
  if "export".toList.isPrefixOf cs then
    let rest := cs.drop 6
    if (rest.head?.map isLineBlank).getD false then skipBlanks rest else cs
  else cs

def isNameChar (c : Char) : Bool := c != '=' && c != '#' && !Text.isBlank c

/-- One setting at the start of a line. -/
def readSetting (cs : List Char) : Option ((String × String) × List Char) := do
  let cs := dropExport cs
  let (name, rest) ← match cs with
    | '\'' :: rest => quotedSpan '\'' rest
    | cs =>
      let name := cs.takeWhile isNameChar
      if name.isEmpty then none else some (name, cs.dropWhile isNameChar)
  match skipBlanks rest with
  | '=' :: rest => do
    let (value, next) ← readValue (skipBlanks rest)
    return ((String.ofList name, value), next)
  | _ => none

/-- The settings of a file in order. Every round skips blank lines and reads or drops one line, so
the length of the text bounds the rounds. -/
def settingsFrom (fuel : Nat) (cs : List Char) : List (String × String) :=
  match fuel with
  | 0 => []
  | fuel + 1 =>
    match cs.dropWhile Text.isBlank with
    | [] => []
    | cs =>
      match readSetting cs with
      | some (setting, next) => setting :: settingsFrom fuel next
      | none => settingsFrom fuel (dropLine cs)

def readDotenv (text : String) : List (String × String) :=
  let cs := text.toList
  settingsFrom (cs.length + 1) cs

end SqlBridge.Settings
