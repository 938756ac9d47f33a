import FleetDrift.Json.Value

/-!
# JSON text

The compact text of a value, without any blank, and the indented text with two spaces a level.
-/

namespace FleetDrift.Json

open FleetDrift.Number (Notation)

/-- Quotes, backslashes and control characters are written as escapes, all else as it is. -/
def escapeChar (c : Char) : List Char :=
  match c with
  | '"' => ['\\', '"']
  | '\\' => ['\\', '\\']
  | '\x08' => ['\\', 'b']
  | '\x0c' => ['\\', 'f']
  | '\n' => ['\\', 'n']
  | '\r' => ['\\', 'r']
  | '\t' => ['\\', 't']
  | c =>
    if c.toNat < 0x20 then
      ['\\', 'u', '0', '0', Nat.digitChar (c.toNat / 16), Nat.digitChar (c.toNat % 16)]
    else [c]

def stringChars (s : String) : List Char := '"' :: s.toList.flatMap escapeChar ++ ['"']

/-- A number that is not finite has no JSON text and becomes `null`. -/
def Numeral.chars : Numeral → List Char
  | .whole n => Number.intDigits n
  | .real x => if x.isFinite then Notation.json.chars x else ['n', 'u', 'l', 'l']

def boolChars (b : Bool) : List Char :=
  if b then ['t', 'r', 'u', 'e'] else ['f', 'a', 'l', 's', 'e']

mutual

def Value.chars : Value → List Char
  | .null => ['n', 'u', 'l', 'l']
  | .bool b => boolChars b
  | .number n => n.chars
  | .string s => stringChars s
  | .array items => '[' :: itemsChars items ++ [']']
  | .object fields => '\x7b' :: fieldsChars fields ++ ['\x7d']

def itemsChars : List Value → List Char
  | [] => []
  | [item] => item.chars
  | item :: next :: rest => item.chars ++ ',' :: itemsChars (next :: rest)

def fieldsChars : List (String × Value) → List Char
  | [] => []
  | [(key, value)] => stringChars key ++ ':' :: value.chars
  | (key, value) :: next :: rest =>
    stringChars key ++ ':' :: value.chars ++ ',' :: fieldsChars (next :: rest)

end

def Value.print (v : Value) : String := String.ofList v.chars

def lineBreak (depth : Nat) : List Char := '\n' :: List.replicate (2 * depth) ' '

mutual

def Value.indented (depth : Nat) : Value → List Char
  | .array [] => ['[', ']']
  | .array (item :: rest) =>
    '[' :: indentedItems (depth + 1) (item :: rest) ++ lineBreak depth ++ [']']
  | .object [] => ['\x7b', '\x7d']
  | .object (field :: rest) =>
    '\x7b' :: indentedFields (depth + 1) (field :: rest) ++ lineBreak depth ++ ['\x7d']
  | .null => ['n', 'u', 'l', 'l']
  | .bool b => boolChars b
  | .number n => n.chars
  | .string s => stringChars s

def indentedItems (depth : Nat) : List Value → List Char
  | [] => []
  | [item] => lineBreak depth ++ item.indented depth
  | item :: next :: rest =>
    lineBreak depth ++ item.indented depth ++ ',' :: indentedItems depth (next :: rest)

def indentedFields (depth : Nat) : List (String × Value) → List Char
  | [] => []
  | [(key, value)] =>
    lineBreak depth ++ stringChars key ++ ':' :: ' ' :: value.indented depth
  | (key, value) :: next :: rest =>
    lineBreak depth ++ stringChars key ++ ':' :: ' ' :: value.indented depth
      ++ ',' :: indentedFields depth (next :: rest)

end

def Value.pretty (v : Value) : String := String.ofList (v.indented 0)

end FleetDrift.Json
