import SqlBridge.Decimal.Double

/-!
The double nearest to a decimal. For exponents far outside the range of doubles the power of ten is
not computed.
-/

namespace SqlBridge.Decimal

/-- The natural number written by a list of ASCII digits. -/
def natOfChars (cs : List Char) : Nat := cs.foldl (fun n c => 10 * n + (c.toNat - '0'.toNat)) 0

/-- The double nearest to `digits * 10 ^ exponent`. -/
def Double.ofDecimal (negative : Bool) (digits : Nat) (exponent : Int) : Double :=
  if digits = 0 then zero negative
  else
    let size := ((Nat.toDigits 10 digits).length : Int) + exponent
    if 320 < size then infinity negative
    else if size < -340 then zero negative
    else if 0 ≤ exponent then ofRatio negative (digits * Nat.pow 10 exponent.toNat) 1
    else ofRatio negative digits (Nat.pow 10 (-exponent).toNat)

end SqlBridge.Decimal
