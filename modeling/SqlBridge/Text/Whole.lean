import SqlBridge.Text.Character

/-!
Whole numbers in text: surrounding spaces, one sign, digits of any script, and single underscores
between digits. More than 4300 digits are refused.
-/

namespace SqlBridge.Text

inductive WholeFault where
  | malformed
  | tooLong (digits : Nat)
deriving DecidableEq

def maxWholeDigits : Nat := 4300

/-- The digits up to the first character that is neither digit nor underscore, and the text after
them; none if an underscore is at an end or next to another. `afterDigit` tells whether the previous
character was a digit. -/
def digitRun (afterDigit : Bool) : List Char → Option (List Nat × List Char)
  | [] => if afterDigit then some ([], []) else none
  | c :: rest =>
    match digitValue? c with
    | some d => (digitRun true rest).map fun (ds, after) => (d :: ds, after)
    | none =>
      if c = '_' then
        if afterDigit then digitRun false rest else none
      else if afterDigit then some ([], c :: rest)
      else none

def ofDigits (digits : List Nat) : Nat := digits.foldl (fun n d => 10 * n + d) 0

def splitSign : List Char → Bool × List Char
  | '-' :: rest => (true, rest)
  | '+' :: rest => (false, rest)
  | cs => (false, cs)

def readWhole (s : String) : Except WholeFault Int :=
  let (negative, body) := splitSign (trimBy isSpace s.toList)
  match digitRun false body with
  | none => .error .malformed
  | some (digits, after) =>
    if maxWholeDigits < digits.length then .error (.tooLong digits.length)
    else if after.isEmpty then
      .ok (if negative then -(ofDigits digits : Int) else ofDigits digits)
    else .error .malformed

end SqlBridge.Text
