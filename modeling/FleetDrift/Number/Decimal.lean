import FleetDrift.Number.Binary64

/-!
# Decimal numbers

A decimal is a natural number of digits times a power of ten. It is read as the nearest Binary64
number by `Decimal.nearest`, or by `Decimal.scaled` in single rounded steps.
-/

namespace FleetDrift.Number

/-- The value `digits * 10 ^ exponent`. -/
structure Decimal where
  digits : Nat
  exponent : Int
  deriving DecidableEq, Repr

def digitValue (c : Char) : Nat := if c.isDigit then c.toNat - '0'.toNat else 0

def digitsValue (cs : List Char) : Nat := cs.foldl (fun n c => 10 * n + digitValue c) 0

def decimalDigits (n : Nat) : List Char := Nat.toDigits 10 n

def intDigits (n : Int) : List Char :=
  if n < 0 then '-' :: decimalDigits n.natAbs else decimalDigits n.natAbs

def decimalText (n : Nat) : String := String.ofList (decimalDigits n)

def intText (n : Int) : String := String.ofList (intDigits n)

namespace Decimal

/-- Place of the leading digit counted from the decimal point; `0` for values in `[0.1, 1)`. -/
def point (d : Decimal) : Int := (decimalDigits d.digits).length + d.exponent

/-- The nearest number, a half going to the even neighbour. Values beyond `10 ^ 310` overflow and
values under `10 ^ -330` vanish, so their powers are never formed. -/
def nearest (negative : Bool) (d : Decimal) : Binary64 :=
  if d.digits = 0 then Binary64.zero.withSign negative
  else if d.point > 310 then .infinity negative
  else if d.point < -330 then Binary64.zero.withSign negative
  else if 0 ≤ d.exponent then
    .nearest negative (d.digits * Nat.pow 10 d.exponent.toNat * Binary64.unitsPerOne) 1
  else
    .nearest negative (d.digits * Binary64.unitsPerOne) (Nat.pow 10 (-d.exponent).toNat)

def powerOfTen (e : Nat) : Binary64 := .nearest false (Nat.pow 10 e * Binary64.unitsPerOne) 1

/-- Divides by `10 ^ 308` while more than 308 places remain; nothing remains after four times. -/
def scaledDown : Nat → Binary64 → Nat → Binary64
  | 0, _, _ => .zero
  | steps + 1, x, places =>
    if x.isZero then x
    else if places ≤ 308 then x.div (powerOfTen places)
    else scaledDown steps (x.div (powerOfTen 308)) (places - 308)

/-- Rounds the digits, then multiplies or divides by a rounded power of ten and rounds again.
Nothing is returned when the result would be infinite. -/
def scaled (d : Decimal) : Option Binary64 :=
  let x := Binary64.ofInt d.digits
  if d.exponent < 0 then some (scaledDown 4 x (-d.exponent).toNat)
  else if x.isZero then some x
  else if d.exponent ≤ 308 then
    let y := x.mul (powerOfTen d.exponent.toNat)
    if y.isFinite then some y else none
  else none

def exponentPart : List Char → Option Int
  | [] => some 0
  | e :: cs =>
    if e = 'e' ∨ e = 'E' then
      let (negative, ds) := match cs with
        | '-' :: ds => (true, ds)
        | '+' :: ds => (false, ds)
        | ds => (false, ds)
      if ds ≠ [] ∧ ds.all Char.isDigit then
        let n : Int := digitsValue ds
        some (if negative then -n else n)
      else none
    else none

def ofChars? (cs : List Char) : Option Decimal :=
  let whole := cs.takeWhile Char.isDigit
  let (fraction, rest) := match cs.dropWhile Char.isDigit with
    | '.' :: more => (more.takeWhile Char.isDigit, more.dropWhile Char.isDigit)
    | more => ([], more)
  if whole.isEmpty && fraction.isEmpty then none
  else (exponentPart rest).map fun e =>
    ⟨digitsValue (whole ++ fraction), e - fraction.length⟩

end Decimal

/-- Reads a signed decimal, `inf`, `infinity` or `nan`, the words in any letter case. -/
def Binary64.ofText? (s : String) : Option Binary64 :=
  let (negative, cs) := match s.toList with
    | '-' :: cs => (true, cs)
    | '+' :: cs => (false, cs)
    | cs => (false, cs)
  let word := String.ofList (cs.map Char.toLower)
  if word = "inf" ∨ word = "infinity" then some (.infinity negative)
  else if word = "nan" then some (.nan negative)
  else (Decimal.ofChars? cs).map (Decimal.nearest negative)

end FleetDrift.Number
