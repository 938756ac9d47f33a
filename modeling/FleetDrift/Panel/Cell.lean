import FleetDrift.Number.Notation

/-!
# Cells of a panel database

A cell holds nothing, a number, a text or bytes, whatever its column was declared as. The declared
type only gives the column an affinity, which converts some values when they are stored.
-/

namespace FleetDrift.Panel

open FleetDrift.Number (Binary64 Decimal decimalDigits)

inductive Cell where
  | null
  | integer (n : Int64)
  | real (x : Binary64)
  | text (s : String)
  /-- A text whose bytes do not spell characters. -/
  | garbled (bytes : List UInt8)
  | blob (bytes : List UInt8)
  deriving DecidableEq, Repr

def Cell.typeName : Cell → String
  | .null => "NULL"
  | .integer _ => "INTEGER"
  | .real _ => "REAL"
  | .text _ => "TEXT"
  | .garbled _ => "TEXT"
  | .blob _ => "BLOB"

def Cell.ofUtf8 (bytes : List UInt8) : Cell :=
  match String.fromUTF8? ⟨bytes.toArray⟩ with
  | some s => .text s
  | none => .garbled bytes

/-- Nulls come before numbers, numbers before texts and texts before bytes. -/
def Cell.rank : Cell → Nat
  | .null => 0
  | .integer _ => 1
  | .real _ => 1
  | .text _ => 2
  | .garbled _ => 2
  | .blob _ => 3

def Cell.units : Cell → Int
  | .integer n => n.toInt * Binary64.unitsPerOne
  | .real x => x.signedUnits
  | _ => 0

def Cell.bytes : Cell → List UInt8
  | .text s => s.toUTF8.toList
  | .garbled bytes => bytes
  | .blob bytes => bytes
  | _ => []

def bytesLe : List UInt8 → List UInt8 → Bool
  | [], _ => true
  | _ :: _, [] => false
  | b :: s, c :: t => b < c || (b = c && bytesLe s t)

def Cell.le (a b : Cell) : Bool :=
  if a.rank = b.rank then
    if a.rank ≤ 1 then a.units ≤ b.units else bytesLe a.bytes b.bytes
  else a.rank ≤ b.rank

inductive Affinity where
  | integer
  | text
  | blob
  | real
  | numeric
  deriving DecidableEq, Repr

def hasInfix (part : List Char) : List Char → Bool
  | [] => part.isEmpty
  | c :: cs => part.isPrefixOf (c :: cs) || hasInfix part cs

/-- The affinity of a declared type, by the first of these words that it contains. -/
def Affinity.ofType (declared : String) : Affinity :=
  let cs := declared.toList.map Char.toUpper
  let has (word : String) : Bool := hasInfix word.toList cs
  if has "INT" then .integer
  else if has "CHAR" || has "CLOB" || has "TEXT" then .text
  else if has "BLOB" || cs.isEmpty then .blob
  else if has "REAL" || has "FLOA" || has "DOUB" then .real
  else .numeric

def fifteenDigits (x : Binary64) : Nat × Int :=
  let exact := x.exactDecimal
  let lead := exact.point - 1
  let drop := (decimalDigits exact.digits).length - 15
  let n := (exact.digits + 5 * Nat.pow 10 drop / 10) / Nat.pow 10 drop
  if n < Nat.pow 10 15 then (n, lead) else (n / 10, lead + 1)

/-- A float as a text column keeps it: fifteen digits, at least one of them after the point, and an
exponent of two digits or more outside `10 ^ -4` to `10 ^ 15`. -/
def realText (x : Binary64) : String :=
  let sign := if x.negative then ['-'] else []
  if x.isZero then "0.0"
  else if !x.isFinite then String.ofList (sign ++ ['I', 'n', 'f'])
  else
    let (n, lead) := fifteenDigits x
    let d := Decimal.strip 15 ⟨n, 0⟩
    let ds := decimalDigits d.digits
    if lead < -4 ∨ 14 < lead then
      let fraction := if ds.length = 1 then ['0'] else ds.drop 1
      let mark := if lead < 0 then '-' else '+'
      let e := decimalDigits lead.natAbs
      let e := if e.length = 1 then '0' :: e else e
      String.ofList (sign ++ ds.take 1 ++ '.' :: fraction ++ 'e' :: mark :: e)
    else String.ofList (sign ++ Number.Notation.positional ".0" ds (lead + 1))

def Cell.ofReal (x : Binary64) : Cell :=
  match x.wholeInt64? with
  | some n => if -0x8000000000000000 < n then .integer (Int64.ofInt n) else .real x
  | none => .real x

def isNumberBlank (c : Char) : Bool := c = ' ' || (9 ≤ c.toNat && c.toNat ≤ 13)

def numericText? (s : String) : Option Cell :=
  let cs := ((s.toList.dropWhile isNumberBlank).reverse.dropWhile isNumberBlank).reverse
  let (negative, ds) := match cs with
    | '-' :: ds => (true, ds)
    | '+' :: ds => (false, ds)
    | ds => (false, ds)
  let n : Int := Number.digitsValue ds
  let n := if negative then -n else n
  if !ds.isEmpty && ds.all Char.isDigit && Number.fitsInt64 n then
    some (.integer (Int64.ofInt n))
  else (Decimal.ofChars? ds).map fun d => .ofReal (d.nearest negative)

def Affinity.store (affinity : Affinity) (cell : Cell) : Cell :=
  match affinity, cell with
  | .text, .integer n => .text (Number.intText n.toInt)
  | .text, .real x => .text (realText x)
  | .integer, .real x => .ofReal x
  | .numeric, .real x => .ofReal x
  | .integer, .text s => (numericText? s).getD cell
  | .numeric, .text s => (numericText? s).getD cell
  | .real, .integer n => .real (.ofInt n.toInt)
  | .real, .text s =>
    match numericText? s with
    | some (.integer n) => .real (.ofInt n.toInt)
    | some other => other
    | none => cell
  | _, _ => cell

end FleetDrift.Panel
