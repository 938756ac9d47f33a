import FleetDrift.Json.Printer
import FleetDrift.Text.Blank
import FleetDrift.Text.Lowercase

/-!
# Lenient field values

Panels store one and the same field as a number, a text or nothing at all. Every JSON value has a
reading as a number, a whole number, a text and a flag, so no entry is lost to a single odd field.
-/

namespace FleetDrift.Lenient

open FleetDrift.Json (Value Numeral)
open FleetDrift.Number (Binary64)
open FleetDrift.Text (trim asciiLowercase)

/-- Numbers and texts that spell one, if finite; anything else counts as zero. -/
def number (v : Value) : Binary64 :=
  let x := match v with
    | .number n => n.toBinary64
    | .string s => (Binary64.ofText? (trim s)).getD .zero
    | _ => .zero
  if x.isFinite then x else .zero

/-- The number without its fraction. Beyond `2 ^ 63` on either side it counts as zero, and `2 ^ 63`
itself as the greatest 64-bit number. -/
def truncated (x : Binary64) : Int64 :=
  let bound : Int := 0x8000000000000000 * Binary64.unitsPerOne
  if -bound ≤ x.signedUnits ∧ x.signedUnits ≤ bound then
    Int64.ofInt (min x.truncate 0x7fffffffffffffff)
  else 0

def int64 (v : Value) : Int64 :=
  match v with
  | .number n => n.int64?.getD (truncated (number v))
  | _ => truncated (number v)

def text? (v : Value) : Option String :=
  match v with
  | .null => none
  | .string s => some s
  | other => some other.print

/-- False are the flag, the number zero, and the texts `false`, `0` and blank. Null, lists and
objects say nothing. -/
def flag? (v : Value) : Option Bool :=
  match v with
  | .bool b => some b
  | .number (.whole n) => some (n != 0)
  | .number (.real x) => some (!x.isZero)
  | .string s => some (asciiLowercase (trim s) ∉ ["false", "0", ""])
  | _ => none

end FleetDrift.Lenient
