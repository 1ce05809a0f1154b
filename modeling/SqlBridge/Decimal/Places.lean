import SqlBridge.Decimal.Shortest

/-!
Decimal text with a given number of digits. The exact value is rounded once, ties to even.
-/

namespace SqlBridge.Decimal

/-- The text of `digits` with a point before the last `places` of them; `alternate` keeps a trailing
point. -/
def withPoint (alternate : Bool) (digits places : Nat) : String :=
  let cs := Nat.toDigits 10 digits
  let padded := List.replicate (places + 1 - cs.length) '0' ++ cs
  let whole := padded.take (padded.length - places)
  let fraction := padded.drop (padded.length - places)
  String.ofList whole
    ++ (if fraction.isEmpty then (if alternate then "." else "") else "." ++ String.ofList fraction)

/-- A fraction with a fixed number of decimal places. -/
def fixedText (alternate : Bool) (places num den : Nat) : String :=
  withPoint alternate (roundDiv (num * Nat.pow 10 places) den) places

/-- A positive fraction rounded to `count` significant digits, and the position of the point. -/
def significant (count num den : Nat) : Nat × Int :=
  let point := pointOf num den
  let (n, d) := scaleTen num den (count - point)
  let digits := roundDiv n d
  if digits = Nat.pow 10 count then (digits / 10, point + 1) else (digits, point)

/-- A fraction with one digit before the point and `places` after it. -/
def exponentialText (alternate : Bool) (places num den : Nat) : String :=
  if num = 0 then withPoint alternate 0 places ++ exponentText 0
  else
    let (digits, point) := significant (places + 1) num den
    withPoint alternate digits places ++ exponentText (point - 1)

/-- The text without the trailing zeros of its fraction, and without a trailing point. -/
def dropFractionZeros (s : String) : String :=
  if s.toList.contains '.' then
    match dropTrailingZeros s.toList |>.reverse with
    | '.' :: rest => String.ofList rest.reverse
    | cs => String.ofList cs.reverse
  else s

/-- A fraction with `count` significant digits, positional unless its exponent is below -4 or not
below `count`. Trailing zeros are removed unless `alternate` is set. -/
def generalText (alternate : Bool) (count num den : Nat) : String :=
  let count := max count 1
  let strip := fun s => if alternate then s else dropFractionZeros s
  if num = 0 then strip (withPoint alternate 0 (count - 1))
  else
    let (digits, point) := significant count num den
    let exponent := point - 1
    if exponent < -4 ∨ (count : Int) ≤ exponent then
      strip (withPoint alternate digits (count - 1)) ++ exponentText exponent
    else
      strip (withPoint alternate digits ((count : Int) - point).toNat)

end SqlBridge.Decimal
