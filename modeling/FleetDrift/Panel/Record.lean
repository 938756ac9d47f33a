import FleetDrift.Panel.Cell
import FleetDrift.Text.Utf16

/-!
# Records

A row is stored as a record: a head with one number for the type of each cell, and then the bytes of
the cells. Numbers of the head are written in groups of seven bits.
-/

namespace FleetDrift.Panel

open FleetDrift.Number (Binary64)

def byteAt (data : Array UInt8) (i : Nat) : Nat := (data.getD i 0).toNat

def bigEndian (data : Array UInt8) (start count : Nat) : Nat :=
  (List.range count).foldl (fun n i => n * 256 + byteAt data (start + i)) 0

def bigEndianSigned (data : Array UInt8) (start count : Nat) : Int :=
  let n := bigEndian data start count
  let all := Nat.pow 256 count
  if 2 * n < all then n else (n : Int) - all

/-- Seven bits from each byte, the high bit telling that more follow; a ninth byte gives all its
bits. The second result is the position after the number. -/
def varintFrom (data : Array UInt8) : Nat → Nat → Nat → Nat × Nat
  | 0, n, i => (n * 256 + byteAt data i, i + 1)
  | more + 1, n, i =>
    let b := byteAt data i
    if b < 128 then (n * 128 + b, i + 1) else varintFrom data more (n * 128 + (b - 128)) (i + 1)

def varint (data : Array UInt8) (i : Nat) : Nat × Nat := varintFrom data 8 0 i

inductive TextEncoding where
  | utf8
  | utf16 (bigEndian : Bool)
  deriving DecidableEq, Repr

def TextEncoding.cell (encoding : TextEncoding) (bytes : List UInt8) : Cell :=
  match encoding with
  | utf8 => .ofUtf8 bytes
  | utf16 bigEndian => .ofUtf8 (Text.utf8OfUtf16 bigEndian bytes)

def floatCell (bits : Nat) : Cell :=
  let x := Binary64.ofBits bits
  if x.isNaN then .null else .real x

def serialCell (encoding : TextEncoding) (data : Array UInt8) (start serial : Nat) : Cell × Nat :=
  let whole (count : Nat) : Cell × Nat :=
    (.integer (Int64.ofInt (bigEndianSigned data start count)), count)
  let bytes (count : Nat) : List UInt8 := (data.extract start (start + count)).toList
  match serial with
  | 0 => (.null, 0)
  | 1 => whole 1
  | 2 => whole 2
  | 3 => whole 3
  | 4 => whole 4
  | 5 => whole 6
  | 6 => whole 8
  | 7 => (floatCell (bigEndian data start 8), 8)
  | 8 => (.integer 0, 0)
  | 9 => (.integer 1, 0)
  | n =>
    let count := (n - 12) / 2
    if n < 12 then (.null, 0)
    else if n % 2 = 0 then (.blob (bytes count), count)
    else (encoding.cell (bytes count), count)

def recordCells (encoding : TextEncoding) (data : Array UInt8) :
    Nat → Nat → Nat → Nat → Option (List Cell)
  | 0, _, _, _ => none
  | fuel + 1, i, stop, start =>
    if stop ≤ i then if i = stop ∧ start = data.size then some [] else none
    else
      let (serial, next) := varint data i
      let (cell, count) := serialCell encoding data start serial
      if data.size < start + count then none
      else (recordCells encoding data fuel next stop (start + count)).map (cell :: ·)

/-- A record: the length of its head, the serial types in the head, and the bytes of the cells. A
record without a head has no cells. -/
def cellsOfRecord? (encoding : TextEncoding) (data : Array UInt8) : Option (List Cell) :=
  let (head, first) := varint data 0
  if head = 0 then some []
  else if data.size < head then none
  else recordCells encoding data (head + 1) first head head

end FleetDrift.Panel
