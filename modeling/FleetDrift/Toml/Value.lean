import FleetDrift.Number.Decimal

/-!
# TOML values

The values of a configuration text. Dates and times are kept as their normalized text.
-/

namespace FleetDrift.Toml

open FleetDrift.Number (Binary64)

inductive Value where
  | string (s : String)
  | integer (n : Int)
  | float (x : Binary64)
  | boolean (b : Bool)
  | datetime (text : String)
  | array (items : List Value)
  | table (fields : List (String × Value))
  deriving Repr

instance : Inhabited Value := ⟨.boolean false⟩

abbrev Table := List (String × Value)

end FleetDrift.Toml
