import SqlBridge.Console.PictureTable
import SqlBridge.Console.Style
import SqlBridge.Console.Width
import SqlBridge.Failure

/-!
Text with markup, as shown on a screen without colors. Tags in square brackets are removed, and a
closing tag has to match an open one; a bracket after a backslash does not open a tag. Names of
pictures between colons are replaced by the pictures.
-/

namespace SqlBridge.Console

open Text

def pictureNames : List String := words pictureWords

/-- The word after a name in a table in which names and their values alternate. -/
def wordAfter (name : String) : List String → Option String
  | key :: word :: rest => if key = name then some word else wordAfter name rest
  | _ => none

def picture? (name : List Char) : Option String :=
  wordAfter (String.ofList (lowerChars name)) pictureNames

/-- A name between colons: the name, the selector given by its ending, and the number of characters
after the first colon. -/
structure PictureCode where
  name : List Char
  selector : List Char
  length : Nat

def pictureCodeFrom? (name : List Char) : List Char → Option PictureCode
  | [] => none
  | c :: rest =>
    if "-emoji:".toList.isPrefixOf (c :: rest) then
      some ⟨name.reverse, [pictureSelector], name.length + 7⟩
    else if "-text:".toList.isPrefixOf (c :: rest) then
      some ⟨name.reverse, ['\uFE0E'], name.length + 6⟩
    else if c = ':' then some ⟨name.reverse, [], name.length + 1⟩
    else if isBlank c then none
    else pictureCodeFrom? (c :: name) rest

/-- Replaces the names of pictures after the first `skip` characters. An unknown name is kept, with
both colons. -/
def withPicturesFrom (skip : Nat) : List Char → List Char
  | [] => []
  | c :: rest =>
    if 0 < skip then withPicturesFrom (skip - 1) rest
    else if c = ':' then
      match pictureCodeFrom? [] rest with
      | some code =>
        (match picture? code.name with
          | some picture => picture.toList ++ code.selector
          | none => (c :: rest).take (code.length + 1)) ++ withPicturesFrom code.length rest
      | none => c :: withPicturesFrom 0 rest
    else c :: withPicturesFrom 0 rest

def withPictures (cs : List Char) : List Char := withPicturesFrom 0 cs

/-- Removes the control characters that move the cursor. -/
def withoutControls (cs : List Char) : List Char :=
  cs.filter fun c => !inRanges [(0x7, 0x8), (0xB, 0xD)] c

inductive Token where
  | text (cs : List Char)
  | tag (name : List Char) (parameter : Option (List Char))

def startsTag (c : Char) : Bool := ('a' ≤ c && c ≤ 'z') || c = '#' || c = '/' || c = '@'

/-- The text before the next closing bracket, if there is no opening one in between. -/
def untilBracket? : List Char → Option (List Char)
  | [] => none
  | c :: rest =>
    if c = ']' then some []
    else if c = '[' then none
    else (untilBracket? rest).map (c :: ·)

/-- A tag at the start of a text: the number of backslashes before it, and the text between its
brackets. -/
def tagAt? (cs : List Char) : Option (Nat × List Char) :=
  let slashes := (cs.takeWhile (· = '\\')).length
  match cs.drop slashes with
  | '[' :: c :: rest =>
    if startsTag c then (untilBracket? (c :: rest)).map (slashes, ·) else none
  | _ => none

/-- The tokens of a tag after backslashes. A pair of backslashes is one backslash, and a single one
makes the tag plain text. -/
def tagTokens (slashes : Nat) (body : List Char) : List Token :=
  (if slashes / 2 = 0 then [] else [.text (List.replicate (slashes / 2) '\\')])
    ++ (if slashes % 2 = 1 then [.text ('[' :: body ++ [']'])]
      else
        let name := body.takeWhile (· ≠ '=')
        match body.drop name.length with
        | [] => [.tag name none]
        | _ :: parameter => [.tag name (some parameter)])

def pendingText (pending : List Char) : List Token :=
  if pending.isEmpty then [] else [.text pending.reverse]

/-- The tokens after the first `skip` characters; `pending` is the text before them, in reverse. -/
def tokensFrom (skip : Nat) (pending : List Char) : List Char → List Token
  | [] => pendingText pending
  | c :: rest =>
    if 0 < skip then tokensFrom (skip - 1) pending rest
    else
      match tagAt? (c :: rest) with
      | some (slashes, body) =>
        pendingText pending ++ tagTokens slashes body
          ++ tokensFrom (slashes + body.length + 1) [] rest
      | none => tokensFrom 0 (c :: pending) rest

/-- Removes a backslash before a bracket outside tags. -/
def unescaped : List Char → List Char
  | [] => []
  | c :: rest => if c = '\\' && rest.head? = some '[' then unescaped rest else c :: unescaped rest

structure OpenTag where
  name : String
  parameter : Option (List Char)

/-- An action tag has to name its action. -/
def OpenTag.isCallable (t : OpenTag) : Bool :=
  match t.name.toList, t.parameter with
  | '@' :: _, some parameter =>
    let called := (trimBy isBlank parameter).dropWhile fun c => c.isAlphanum || c = '_' || c = '.'
    called.isEmpty || (called.head? = some '(' && called.getLast? = some ')')
  | _, _ => true

/-- Closes the innermost open tag of a name, or the innermost one if the name is empty. -/
def closeTag (name : List Char) : List OpenTag → Option (OpenTag × List OpenTag)
  | [] => none
  | t :: rest =>
    if name.isEmpty || t.name = Style.normal name then some (t, rest)
    else (closeTag name rest).map fun (found, rest) => (found, t :: rest)

def renderTokens (opened : List OpenTag) : List Token → Outcome (List Char)
  | [] => .ok []
  | .text cs :: rest => do
    let shown ← renderTokens opened rest
    return withoutControls (withPictures (unescaped cs)) ++ shown
  | .tag ('/' :: name) _ :: rest =>
    match closeTag (trimBy isBlank name) opened with
    | some (t, opened) => if t.isCallable then renderTokens opened rest else .error .markup
    | none => .error .markup
  | .tag name parameter :: rest => renderTokens (⟨Style.normal name, parameter⟩ :: opened) rest

/-- The text shown for markup. -/
def renderMarkup (cs : List Char) : Outcome (List Char) :=
  if cs.contains '[' then renderTokens [] (tokensFrom 0 [] cs)
  else .ok (withoutControls (withPictures cs))

end SqlBridge.Console
