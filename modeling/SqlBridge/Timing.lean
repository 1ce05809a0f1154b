import SqlBridge.Decimal.Shortest

/-!
Durations. A block is measured by a clock in nanoseconds; reports show milliseconds rounded to two
decimal places.
-/

namespace SqlBridge

open Decimal

namespace Decimal.Double

/-- The product with a natural, rounded once. -/
def mulNat (x : Double) (k : Nat) : Double :=
  match x.read with
  | .finite negative m e =>
    let (n, d) := ratio m e
    ofRatio negative (n * k) d
  | _ => x

/-- The double nearest to the value rounded to two decimal places, ties to even. -/
def roundToHundredths (x : Double) : Double :=
  match x.read with
  | .finite negative m e =>
    let (n, d) := ratio m e
    ofRatio negative (roundDiv (n * 100) d) 100
  | _ => x

end Decimal.Double

/-- Milliseconds of a duration in seconds. -/
def durationMs (seconds : Double) : Double := (seconds.mulNat 1000).roundToHundredths

/-- A measured block, which has no end while it runs. -/
structure Measurement where
  label : String
  start : Nat
  finish : Option Nat

namespace Measurement

def begin (label : String) (now : Nat) : Measurement := ⟨label, now, none⟩

/-- The end is recorded on every exit from the block. -/
def complete (m : Measurement) (now : Nat) : Measurement := { m with finish := some now }

def isRunning (m : Measurement) : Bool := m.finish.isNone

/-- Nanoseconds since the start. -/
def elapsed (m : Measurement) (now : Nat) : Nat := now - m.start

/-- Nanoseconds from start to end, none while the block runs. -/
def duration (m : Measurement) : Nat :=
  match m.finish with
  | some finish => finish - m.start
  | none => 0

def seconds (m : Measurement) : Double := Double.ofRatio false m.duration 1000000000

end Measurement

end SqlBridge
