import FleetDrift.Number.Range

/-!
# Binary64 numbers

A 64-bit binary floating-point number as a sign and the other 63 bits read as a natural number. The
magnitude orders the numbers of one sign; the values are whole multiples of the least positive
number, so every operation is one exact natural-number computation followed by one rounding.
-/

namespace FleetDrift.Number

/-- Sign and remaining bits. -/
structure Binary64 where
  negative : Bool
  magnitude : Nat
  magnitude_lt : magnitude < 0x8000000000000000
  deriving DecidableEq, Repr

namespace Binary64

def binade : Nat := 0x10000000000000

def infinityMagnitude : Nat := 2047 * binade

def unitsPerOne : Nat := Nat.pow 2 1074

def infinity (negative : Bool) : Binary64 := ⟨negative, infinityMagnitude, by decide⟩

def nan (negative : Bool) : Binary64 := ⟨negative, infinityMagnitude + 0x8000000000000, by decide⟩

def zero : Binary64 := ⟨false, 0, by decide⟩

instance : Inhabited Binary64 := ⟨zero⟩

def ofBits (bits : Nat) : Binary64 :=
  ⟨decide (0x8000000000000000 ≤ bits), bits % 0x8000000000000000, Nat.mod_lt _ (by decide)⟩

def isFinite (x : Binary64) : Bool := x.magnitude < infinityMagnitude

def isNaN (x : Binary64) : Bool := infinityMagnitude < x.magnitude

def isZero (x : Binary64) : Bool := x.magnitude = 0

def neg (x : Binary64) : Binary64 := { x with negative := !x.negative }

def withSign (negative : Bool) (x : Binary64) : Binary64 := { x with negative := negative }

def unitsOf (magnitude : Nat) : Nat :=
  if magnitude < binade then magnitude
  else (binade + magnitude % binade) * Nat.pow 2 (magnitude / binade - 1)

def units (x : Binary64) : Nat := unitsOf x.magnitude

def signedUnits (x : Binary64) : Int := if x.negative then -(x.units : Int) else x.units

def roundHalfEven (num den : Nat) : Nat :=
  let q := num / den
  let r := num % den
  if 2 * r < den then q
  else if 2 * r = den then q + q % 2
  else q + 1

/-- The magnitude nearest to a quotient counted in least positive numbers; overflow is infinity. -/
def nearestMagnitude (num den : Nat) : Nat :=
  let q := num / den
  let shift := if q < 2 * binade then 0 else q.log2 - 52
  min (shift * binade + roundHalfEven num (den * Nat.pow 2 shift)) infinityMagnitude

theorem nearestMagnitude_lt (num den : Nat) : nearestMagnitude num den < 0x8000000000000000 :=
  Nat.lt_of_le_of_lt (Nat.min_le_right _ _) (by decide : infinityMagnitude < 0x8000000000000000)

def nearest (negative : Bool) (num den : Nat) : Binary64 :=
  ⟨negative, nearestMagnitude num den, nearestMagnitude_lt num den⟩

def ofInt (n : Int) : Binary64 := nearest (n < 0) (n.natAbs * unitsPerOne) 1

/-- Exact sum, rounded once. A zero sum is negative only of two negative numbers. -/
def add (x y : Binary64) : Binary64 :=
  if x.isNaN then x
  else if y.isNaN then y
  else if !x.isFinite then
    if !y.isFinite && x.negative != y.negative then nan true else x
  else if !y.isFinite then y
  else
    let s := x.signedUnits + y.signedUnits
    if s = 0 then ⟨x.negative && y.negative, 0, by decide⟩
    else nearest (s < 0) s.natAbs 1

def mul (x y : Binary64) : Binary64 :=
  nearest (x.negative != y.negative) (x.units * y.units) unitsPerOne

def div (x y : Binary64) : Binary64 :=
  nearest (x.negative != y.negative) (x.units * unitsPerOne) y.units

def truncate (x : Binary64) : Int :=
  let n : Int := (x.units / unitsPerOne : Nat)
  if x.negative then -n else n

def isWhole (x : Binary64) : Bool := x.isFinite && x.units % unitsPerOne = 0

def wholeInt64? (x : Binary64) : Option Int :=
  if x.isWhole then
    let n := x.truncate
    if fitsInt64 n then some n else none
  else none

/-- Position in the order of all bit patterns: negative ones first, and -0 before 0. -/
def position (x : Binary64) : Int :=
  if x.negative then -(x.magnitude : Int) - 1 else x.magnitude

def foldZero (x : Binary64) : Binary64 := if x.magnitude = 0 then zero else x

end Binary64

end FleetDrift.Number
