import FleetDrift.Json.Printer
import FleetDrift.Text.Quoted

/-!
# Faults of a JSON text

A text can be malformed, end too early, or hold values of another shape than the ones wanted.
-/

namespace FleetDrift.Json

open FleetDrift.Number (Binary64 Notation)

inductive Malformed where
  | expectedValue
  | expectedIdent
  | expectedColon
  | expectedCommaOrBracket
  | expectedCommaOrBrace
  | keyNotString
  | trailingComma
  | trailingCharacters
  | invalidEscape
  | invalidNumber
  | numberOutOfRange
  | controlCharacter
  | loneSurrogate
  | unfinishedPair
  | tooDeep
  deriving DecidableEq, Repr

inductive Truncated where
  | list
  | object
  | string
  | value
  deriving DecidableEq, Repr

inductive Found where
  | null
  | bool (b : Bool)
  | integer (n : Int)
  | real (x : Binary64)
  | string (s : String)
  | sequence
  | map
  deriving DecidableEq, Repr

inductive Mismatch where
  | invalidType (found : Found) (expected : String)
  | invalidValue (found : Found) (expected : String)
  | invalidLength (length : Nat) (expected : String)
  | missingField (name : String)
  | duplicateField (name : String)
  deriving DecidableEq, Repr

inductive Fault where
  | malformed (m : Malformed)
  | truncated (t : Truncated)
  | mismatch (m : Mismatch)
  deriving DecidableEq, Repr

def Malformed.message : Malformed → String
  | .expectedValue => "expected value"
  | .expectedIdent => "expected ident"
  | .expectedColon => "expected `:`"
  | .expectedCommaOrBracket => "expected `,` or `]`"
  | .expectedCommaOrBrace => "expected `,` or `\x7d`"
  | .keyNotString => "key must be a string"
  | .trailingComma => "trailing comma"
  | .trailingCharacters => "trailing characters"
  | .invalidEscape => "invalid escape"
  | .invalidNumber => "invalid number"
  | .numberOutOfRange => "number out of range"
  | .controlCharacter =>
    "control character (\\u0000-\\u001F) found while parsing a string"
  | .loneSurrogate => "lone leading surrogate in hex escape"
  | .unfinishedPair => "unexpected end of hex escape"
  | .tooDeep => "recursion limit exceeded"

def Truncated.message : Truncated → String
  | .list => "EOF while parsing a list"
  | .object => "EOF while parsing an object"
  | .string => "EOF while parsing a string"
  | .value => "EOF while parsing a value"

def Found.ofNumeral : Numeral → Found
  | .whole n => .integer n
  | .real x => .real x

def Found.ofValue : Value → Found
  | .null => .null
  | .bool b => .bool b
  | .number n => .ofNumeral n
  | .string s => .string s
  | .array _ => .sequence
  | .object _ => .map

def Found.describe : Found → String
  | .null => "null"
  | .bool b => "boolean `" ++ (if b then "true" else "false") ++ "`"
  | .integer n => "integer `" ++ Number.intText n ++ "`"
  | .real x => "floating point `" ++ String.ofList (Notation.json.chars x) ++ "`"
  | .string s => "string " ++ Text.quoted s
  | .sequence => "sequence"
  | .map => "map"

def Mismatch.message : Mismatch → String
  | .invalidType found expected =>
    "invalid type: " ++ found.describe ++ ", expected " ++ expected
  | .invalidValue found expected =>
    "invalid value: " ++ found.describe ++ ", expected " ++ expected
  | .invalidLength length expected =>
    "invalid length " ++ Number.decimalText length ++ ", expected " ++ expected
  | .missingField name => "missing field `" ++ name ++ "`"
  | .duplicateField name => "duplicate field `" ++ name ++ "`"

def Fault.message : Fault → String
  | .malformed m => m.message
  | .truncated t => t.message
  | .mismatch m => m.message

/-- A fault with the line and column of the last byte looked at. -/
structure Located where
  fault : Fault
  line : Nat
  column : Nat
  deriving DecidableEq, Repr

def Located.message (l : Located) : String :=
  l.fault.message ++ " at line " ++ Number.decimalText l.line
    ++ " column " ++ Number.decimalText l.column

end FleetDrift.Json
