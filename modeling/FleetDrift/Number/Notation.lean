import FleetDrift.Number.Shortest

/-!
# Notations of numbers

How the digits of a shortest decimal are laid out: where the point stands, and when an exponent
replaces leading or trailing zeros.
-/

namespace FleetDrift.Number

/-- A value is written with an exponent when its point lies outside `[leastPoint, mostPoint]`. -/
structure Notation where
  tie : Tie
  leastPoint : Option Int
  mostPoint : Option Int
  wholeMark : String
  plusMark : String

namespace Notation

def zeros (n : Nat) : List Char := List.replicate n '0'

def positional (wholeMark : String) (ds : List Char) (point : Int) : List Char :=
  if point ≤ 0 then ['0', '.'] ++ zeros (-point).toNat ++ ds
  else if point < ds.length then ds.take point.toNat ++ '.' :: ds.drop point.toNat
  else ds ++ zeros (point.toNat - ds.length) ++ wholeMark.toList

def scientific (plusMark : String) (ds : List Char) (point : Int) : List Char :=
  let mantissa := match ds with
    | d :: e :: more => d :: '.' :: e :: more
    | short => short
  let e := point - 1
  let sign := if e < 0 then ['-'] else plusMark.toList
  mantissa ++ 'e' :: sign ++ decimalDigits e.natAbs

def isPositional (f : Notation) (point : Int) : Bool :=
  f.leastPoint.all (· ≤ point) && f.mostPoint.all (point ≤ ·)

def unsigned (f : Notation) (x : Binary64) : List Char :=
  if x.isZero then '0' :: f.wholeMark.toList
  else
    let d := x.shortest f.tie
    let ds := decimalDigits d.digits
    if f.isPositional d.point then positional f.wholeMark ds d.point
    else scientific f.plusMark ds d.point

def chars (f : Notation) (x : Binary64) : List Char :=
  if x.negative then '-' :: f.unsigned x else f.unsigned x

def plain : Notation := ⟨.up, none, none, "", ""⟩

/-- Positional from `10 ^ -5` to below `10 ^ 16`; whole numbers end in `.0`, and exponents have a
sign. -/
def json : Notation := ⟨.even, some (-4), some 16, ".0", "+"⟩

/-- As in JSON, but an exponent that is not negative has no sign. -/
def page : Notation := ⟨.even, some (-4), some 16, ".0", ""⟩

end Notation

def Binary64.display (x : Binary64) : String :=
  if x.isNaN then "NaN"
  else if !x.isFinite then if x.negative then "-inf" else "inf"
  else String.ofList (Notation.plain.chars x)

/-- One digit after the point, a half going to the even neighbour; for finite numbers. -/
def Binary64.tenths (x : Binary64) : String :=
  let n := Binary64.roundHalfEven (10 * x.units) Binary64.unitsPerOne
  let text := decimalDigits (n / 10) ++ '.' :: decimalDigits (n % 10)
  String.ofList (if x.negative then '-' :: text else text)

end FleetDrift.Number
