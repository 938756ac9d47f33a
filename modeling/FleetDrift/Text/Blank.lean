import FleetDrift.Text.Ranges

/-!
# Blank characters

The characters with the Unicode property `White_Space`, and texts without them at either end.
-/

namespace FleetDrift.Text

def blankRanges : CharRanges :=
  [(0x9, 0xd), (0x20, 0x20), (0x85, 0x85), (0xa0, 0xa0), (0x1680, 0x1680), (0x2000, 0x200a),
   (0x2028, 0x2029), (0x202f, 0x202f), (0x205f, 0x205f), (0x3000, 0x3000)]

def isBlank (c : Char) : Bool := blankRanges.contains c

def trimRight (cs : List Char) : List Char :=
  (cs.reverse.dropWhile isBlank).reverse

def trimChars (cs : List Char) : List Char :=
  trimRight (cs.dropWhile isBlank)

def trim (s : String) : String := String.ofList (trimChars s.toList)

end FleetDrift.Text
