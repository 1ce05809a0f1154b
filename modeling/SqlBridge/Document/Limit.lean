import SqlBridge.Document.Reader

/-!
Values without document text. A whole number has a text only up to `maxDigits` digits, and a double
that is not finite has none in strict text.
-/

namespace SqlBridge.Document

inductive WriteFault where
  | tooManyDigits
  | notFinite
deriving DecidableEq

def WriteFault.message : WriteFault → String
  | .tooManyDigits =>
    "Exceeds the limit (4300 digits) for integer string conversion; "
      ++ "use sys.set_int_max_str_digits() to increase the limit"
  | .notFinite => "Out of range float values are not JSON compliant"

/-- Whether a whole number is converted to text. -/
def isConvertible (n : Int) : Bool := decide ((Nat.toDigits 10 n.natAbs).length ≤ maxDigits)

mutual

/-- The fault of the first part of a value without text, in the order of writing. -/
def writeFault? (strict : Bool) : Value → Option WriteFault
  | .int n => if isConvertible n then none else some .tooManyDigits
  | .double x => if strict && !x.isFinite then some .notFinite else none
  | .list items => itemsFault? strict items
  | .object fields => fieldsFault? strict fields
  | _ => none

def itemsFault? (strict : Bool) : List Value → Option WriteFault
  | [] => none
  | v :: rest => (writeFault? strict v).or (itemsFault? strict rest)

def fieldsFault? (strict : Bool) : List (String × Value) → Option WriteFault
  | [] => none
  | (_, v) :: rest => (writeFault? strict v).or (fieldsFault? strict rest)

end

end SqlBridge.Document
