/-!
# UTF-16

Text in units of two bytes. A unit that begins a pair takes the next one with it, whatever that is.
-/

namespace FleetDrift.Text

def utf16Units (bigEndian : Bool) : List UInt8 → List Nat
  | a :: b :: rest =>
    (if bigEndian then 256 * a.toNat + b.toNat else 256 * b.toNat + a.toNat)
      :: utf16Units bigEndian rest
  | _ => []

def isSurrogate (unit : Nat) : Bool := unit / 0x800 = 27

def pairedCode (a b : Nat) : Nat := 0x10000 + a % 0x400 * 0x400 + b % 0x400

def utf16Codes : List Nat → List Nat
  | a :: b :: rest =>
    if isSurrogate a then pairedCode a b :: utf16Codes rest else a :: utf16Codes (b :: rest)
  | short => short

/-- The bytes of a code point in UTF-8; half a pair is written like any other code point. -/
def utf8Bytes (code : Nat) : List UInt8 :=
  let tail (n : Nat) : UInt8 := UInt8.ofNat (0x80 + n % 64)
  if code < 0x80 then [UInt8.ofNat code]
  else if code < 0x800 then [UInt8.ofNat (0xc0 + code / 64), tail code]
  else if code < 0x10000 then
    [UInt8.ofNat (0xe0 + code / 4096), tail (code / 64), tail code]
  else [UInt8.ofNat (0xf0 + code / 262144), tail (code / 4096), tail (code / 64), tail code]

def utf8OfUtf16 (bigEndian : Bool) (bytes : List UInt8) : List UInt8 :=
  (utf16Codes (utf16Units bigEndian bytes)).flatMap utf8Bytes

end FleetDrift.Text
