import FleetDrift.Inventory.Inbound

/-!
# Exported inbounds

An export is the answer of a panel saved as JSON: a list of inbounds, alone or in an envelope that
also tells whether the panel succeeded.
-/

namespace FleetDrift.Export

open FleetDrift.Json (Value Mismatch)

inductive ExportFault where
  | panelFailure (message : String)
  | notAnExport
  | mismatch (m : Mismatch)
  deriving DecidableEq, Repr

def messageOf (fields : Json.Fields) : String :=
  match fields.get? "msg" with
  | some (.string s) => s
  | _ => "no message"

def reportsFailure (fields : Json.Fields) : Bool :=
  match fields.get? "success" with
  | some (.bool false) => true
  | _ => false

/-- The value that should be the list of inbounds; without one the list is empty. -/
def listValue : Value → Except ExportFault Value
  | .array items => .ok (.array items)
  | .object fields =>
    if reportsFailure fields then .error (.panelFailure (messageOf fields))
    else match Json.Fields.get? fields "obj" with
      | none => .ok (.array [])
      | some .null => .ok (.array [])
      | some v => .ok v
  | _ => .error .notAnExport

def inbounds (document : Value) : Except ExportFault (List Inbound) := do
  let items ← (Inbound.listField (← listValue document)).mapError .mismatch
  (items.mapM Inbound.ofValue?).mapError .mismatch

end FleetDrift.Export
