import FleetDrift.Text.PrintableTable

/-!
# Quoted text

A text between double quotes, as messages show it: quotes, backslashes and line breaks are marked
by a backslash, and a character that could not be seen is spelled by its number.
-/

namespace FleetDrift.Text

def hexDigits (n : Nat) : List Char := Nat.toDigits 16 n

def isInvisible (c : Char) : Bool :=
  graphemeExtendRanges.contains c || unprintableRanges.contains c

def quotedChar (c : Char) : List Char :=
  match c with
  | '\x00' => ['\\', '0']
  | '\t' => ['\\', 't']
  | '\r' => ['\\', 'r']
  | '\n' => ['\\', 'n']
  | '"' => ['\\', '"']
  | '\\' => ['\\', '\\']
  | c => if isInvisible c then ['\\', 'u', '\x7b'] ++ hexDigits c.toNat ++ ['\x7d'] else [c]

def quoted (s : String) : String :=
  String.ofList ('"' :: s.toList.flatMap quotedChar ++ ['"'])

end FleetDrift.Text
