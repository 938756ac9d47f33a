import FleetDrift.Number.Notation

/-!
# JSON values

Numbers are either whole or Binary64. An object that was read from a text has its keys in ascending
order, each once; an object that is built for output keeps the order it was built in.
-/

namespace FleetDrift.Json

open FleetDrift.Number (Binary64)

inductive Numeral where
  | whole (n : Int)
  | real (x : Binary64)
  deriving DecidableEq, Repr

inductive Value where
  | null
  | bool (b : Bool)
  | number (n : Numeral)
  | string (s : String)
  | array (items : List Value)
  | object (fields : List (String × Value))
  deriving Repr

instance : Inhabited Value := ⟨.null⟩

def Numeral.toBinary64 : Numeral → Binary64
  | .whole n => .ofInt n
  | .real x => x

def Numeral.int64? : Numeral → Option Int64
  | .whole n => if Number.fitsInt64 n then some (Int64.ofInt n) else none
  | .real _ => none

abbrev Fields := List (String × Value)

/-- Puts a field at the place of its key in ascending order, instead of one with the same key. -/
def Fields.insert (key : String) (value : Value) : Fields → Fields
  | [] => [(key, value)]
  | (k, v) :: rest =>
    if key < k then (key, value) :: (k, v) :: rest
    else if key = k then (key, value) :: rest
    else (k, v) :: Fields.insert key value rest

def Fields.get? (fields : Fields) (key : String) : Option Value :=
  (fields.find? fun field => field.1 = key).map (·.2)

/-- The number as written in results: whole where it is whole and fits 64 signed bits. -/
def Value.ofBinary64 (x : Binary64) : Value :=
  .number (match x.wholeInt64? with
    | some n => .whole n
    | none => .real x)

def Value.ofNat (n : Nat) : Value := .number (.whole n)

def Value.ofInt64 (n : Int64) : Value := .number (.whole n.toInt)

def Value.ofStrings (items : List String) : Value := .array (items.map .string)

end FleetDrift.Json
