/-!
Binary floating-point numbers of 64 bits, represented by their bit patterns, so that statements
about them are statements about natural numbers. A finite pattern denotes a signed `mantissa * 2 ^
exponent`; `ofRatio` is the nearest pattern to a fraction, ties to even.
-/

namespace SqlBridge.Decimal

structure Double where
  bits : UInt64
deriving DecidableEq, Inhabited

/-- The number denoted by a pattern. A finite magnitude is `mantissa * 2 ^ exponent`. -/
inductive Reading where
  | nan
  | infinite (negative : Bool)
  | finite (negative : Bool) (mantissa : Nat) (exponent : Int)
deriving DecidableEq

/-- The quotient of `num` by `den` rounded to a whole number, ties to even. -/
def roundDiv (num den : Nat) : Nat :=
  let q := num / den
  let twice := 2 * (num % den)
  if twice < den then q
  else if den < twice then q + 1
  else if q % 2 = 0 then q else q + 1

/-- A non-negative fraction of naturals times a power of two, as one fraction. -/
def scale (num den : Nat) (e : Int) : Nat × Nat :=
  if 0 ≤ e then (num * Nat.pow 2 e.toNat, den) else (num, den * Nat.pow 2 (-e).toNat)

namespace Double

def signBit : Nat := Nat.pow 2 63

def infinityBits : Nat := 2047 * Nat.pow 2 52

def ofMagnitude (negative : Bool) (bits : Nat) : Double :=
  ⟨UInt64.ofNat (if negative then signBit + bits else bits)⟩

def zero (negative : Bool) : Double := ofMagnitude negative 0

def infinity (negative : Bool) : Double := ofMagnitude negative infinityBits

def nan : Double := ofMagnitude false (infinityBits + Nat.pow 2 51)

def isNegative (x : Double) : Bool := signBit ≤ x.bits.toNat

def read (x : Double) : Reading :=
  let magnitude : Nat := x.bits.toNat % signBit
  let biased : Nat := magnitude / Nat.pow 2 52
  let fraction : Nat := magnitude % Nat.pow 2 52
  if biased = 2047 then
    if fraction = 0 then .infinite x.isNegative else .nan
  else if biased = 0 then .finite x.isNegative fraction (-1074)
  else .finite x.isNegative (Nat.pow 2 52 + fraction) ((biased : Int) - 1075)

def signed (negative : Bool) (n : Nat) : Int := if negative then -n else n

def isFinite (x : Double) : Bool :=
  match x.read with
  | .finite _ _ _ => true
  | _ => false

/-- Whether the number is a zero of either sign. -/
def isZero (x : Double) : Bool := x.bits.toNat % signBit = 0

/-- The greatest `e` with `2 ^ e ≤ num / den`, for a positive fraction. -/
def binaryExponent (num den : Nat) : Int :=
  let e : Int := (num.log2 : Int) - den.log2
  let (n, d) := scale num den (-e)
  if n < d then e - 1 else e

/-- The double nearest to `num / den`, ties to even; beyond the greatest finite one it is infinity.
-/
def ofRatio (negative : Bool) (num den : Nat) : Double :=
  if num = 0 then zero negative
  else
    let exponent := max (binaryExponent num den - 52) (-1074)
    let (n, d) := scale num den (-exponent)
    let bits := (exponent + 1074).toNat * Nat.pow 2 52 + roundDiv n d
    ofMagnitude negative (min bits infinityBits)

def ofInt (n : Int) : Double := ofRatio (n < 0) n.natAbs 1

/-- The finite magnitude as a fraction of naturals. -/
def ratio (mantissa : Nat) (exponent : Int) : Nat × Nat := scale mantissa 1 exponent

/-- The whole number when there is no fraction. -/
def toInt? (x : Double) : Option Int :=
  match x.read with
  | .finite negative m e =>
    let (n, d) := ratio m e
    if n % d = 0 then some (signed negative (n / d)) else none
  | _ => none

/-- The whole part, towards zero. -/
def truncate? (x : Double) : Option Int :=
  match x.read with
  | .finite negative m e =>
    let (n, d) := ratio m e
    some (signed negative (n / d))
  | _ => none

end Double

end SqlBridge.Decimal
