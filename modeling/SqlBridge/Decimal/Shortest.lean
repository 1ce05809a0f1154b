import SqlBridge.Decimal.Double

/-!
Decimal text of numbers. `shortest` finds the fewest significant digits that read back as the same
double, the nearest such decimal when there are two; `Double.text` lays them out, positionally for
decimal exponents from -4 to 15 and with an exponent of at least two digits otherwise.
-/

namespace SqlBridge.Decimal

/-- The decimal digits of a natural, without leading zeros except for zero itself. -/
def natText (n : Nat) : String := String.ofList (Nat.toDigits 10 n)

def intText (n : Int) : String :=
  if n < 0 then "-" ++ natText n.natAbs else natText n.natAbs

/-- A positive decimal `digits * 10 ^ (point - count)`, where `count` is the number of digits: the
point follows the first `point` digits. -/
structure Numeral where
  digits : Nat
  point : Int
deriving DecidableEq

/-- The position of the point of `num / den`: the number of digits before it, or minus the number
of zeros after it. Every positive double is above `10 ^ -400`. -/
def pointOf (num den : Nat) : Int :=
  ((Nat.toDigits 10 (num * Nat.pow 10 400 / den)).length : Int) - 400

/-- A fraction of naturals times a power of ten, as one fraction. -/
def scaleTen (num den : Nat) (e : Int) : Nat × Nat :=
  if 0 ≤ e then (num * Nat.pow 10 e.toNat, den) else (num, den * Nat.pow 10 (-e).toNat)

/-- The interval of the reals that round to `mantissa * 2 ^ exponent`, in units of `2 ^ (exponent -
2)`; it is closed when the mantissa is even. -/
def interval (mantissa : Nat) (exponent : Int) : Nat × Nat :=
  let low :=
    if mantissa = Nat.pow 2 52 ∧ -1074 < exponent then 4 * mantissa - 1 else 4 * mantissa - 2
  (low, 4 * mantissa + 2)

/-- Whether the decimal `digits * 10 ^ e` rounds to `mantissa * 2 ^ exponent`. -/
def readsBack (mantissa : Nat) (exponent : Int) (digits : Nat) (e : Int) : Bool :=
  let (low, high) := interval mantissa exponent
  let (n, d) := scaleTen digits 1 e
  let (n, d) := scale n d (2 - exponent)
  if mantissa % 2 = 0 then low * d ≤ n ∧ n ≤ high * d else low * d < n ∧ n < high * d

/-- The candidate with `count` digits that is nearest to `mantissa * 2 ^ exponent` among those that
read back as it. -/
def withDigits? (mantissa : Nat) (exponent : Int) (point : Int) (count : Nat) : Option Nat :=
  let (num, den) := Double.ratio mantissa exponent
  let e := point - count
  let (n, d) := scaleTen num den (-e)
  let below := n / d
  let above := below + 1
  let nearer := if roundDiv n d = below then below else above
  let farther := if nearer = below then above else below
  if readsBack mantissa exponent nearer e then some nearer
  else if readsBack mantissa exponent farther e then some farther
  else none

/-- The first count from `count` on that has a candidate; 17 digits always suffice. -/
def shortestFrom (mantissa : Nat) (exponent : Int) (point : Int) (count : Nat) : Nat → Numeral
  | 0 => ⟨0, point⟩
  | fuel + 1 =>
    match withDigits? mantissa exponent point count with
    | some digits =>
      let shown := (Nat.toDigits 10 digits).length
      ⟨digits, point + ((shown : Int) - count)⟩
    | none => shortestFrom mantissa exponent point (count + 1) fuel

/-- The shortest decimal that reads back as a positive `mantissa * 2 ^ exponent`. -/
def shortest (mantissa : Nat) (exponent : Int) : Numeral :=
  let (num, den) := Double.ratio mantissa exponent
  shortestFrom mantissa exponent (pointOf num den) 1 17

def dropTrailingZeros (cs : List Char) : List Char :=
  (cs.reverse.dropWhile (· == '0')).reverse

def exponentText (e : Int) : String :=
  let digits := natText e.natAbs
  let digits := if digits.length < 2 then "0" ++ digits else digits
  (if e < 0 then "e-" else "e+") ++ digits

/-- A decimal with its point or exponent: positional for exponents from -4 to 15. -/
def Numeral.text (x : Numeral) : String :=
  let digits := dropTrailingZeros (Nat.toDigits 10 x.digits)
  let count := digits.length
  if -4 < x.point ∧ x.point ≤ 16 then
    if x.point ≤ 0 then
      "0." ++ String.ofList (List.replicate (-x.point).toNat '0' ++ digits)
    else
      let before := x.point.toNat
      let padded := digits ++ List.replicate (before - count) '0'
      let after := padded.drop before
      String.ofList (padded.take before) ++ "."
        ++ (if after.isEmpty then "0" else String.ofList after)
  else
    let (head, rest) := (digits.take 1, digits.drop 1)
    String.ofList head ++ (if rest.isEmpty then "" else "." ++ String.ofList rest)
      ++ exponentText (x.point - 1)

namespace Double

/-- The shortest text that reads back as the double, with `inf` and `nan` for the others. -/
def text (x : Double) : String :=
  match x.read with
  | .nan => "nan"
  | .infinite negative => if negative then "-inf" else "inf"
  | .finite negative m e =>
    (if negative then "-" else "") ++ (if m = 0 then "0.0" else (shortest m e).text)

end Double

end SqlBridge.Decimal
