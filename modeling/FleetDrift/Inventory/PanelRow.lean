import FleetDrift.Inventory.Inbound
import FleetDrift.Panel.Database

/-!
# Inbounds of a panel database

A row is read by the names of its columns, in the order settings, id, remark, protocol; the first
cell of the wrong type is the fault of the whole table.
-/

namespace FleetDrift.Panel

inductive ColumnFault where
  | noColumn (name : String)
  | wrongType (column wanted sqlType found : String)
  | notUtf8 (column : String) (fault : Text.Utf8Fault)
  deriving DecidableEq, Repr

def decodingMessages (column inner : String) : List String :=
  ["error occurred while decoding column " ++ Text.quoted column ++ ": " ++ inner, inner]

def ColumnFault.messages : ColumnFault → List String
  | noColumn name => ["no column found for name: " ++ name]
  | wrongType column wanted sqlType found =>
    decodingMessages column ("mismatched types; Rust type `" ++ wanted ++ "` (as SQL type `"
      ++ sqlType ++ "`) is not compatible with SQL type `" ++ found ++ "`")
  | notUtf8 column fault => decodingMessages column fault.message

def Row.cell (row : Row) (name : String) : Except ColumnFault Cell :=
  match row.find? fun f => f.1 = name with
  | some f => .ok f.2
  | none => .error (.noColumn name)

def Row.text? (row : Row) (name : String) : Except ColumnFault (Option String) := do
  match ← row.cell name with
  | .null => .ok none
  | .text s => .ok (some s)
  | .garbled bytes =>
    match Text.utf8Fault? bytes with
    | some fault => .error (.notUtf8 name fault)
    | none => .ok none
  | other =>
    .error (.wrongType name "core::option::Option<alloc::string::String>" "TEXT" other.typeName)

/-- A whole number; a null cell counts as zero. -/
def Row.integer (row : Row) (name : String) : Except ColumnFault Int64 := do
  match ← row.cell name with
  | .null => .ok 0
  | .integer n => .ok n
  | other => .error (.wrongType name "i64" "INTEGER" other.typeName)

def Row.inbound (row : Row) : Except ColumnFault Inbound := do
  let settings ← row.text? "settings"
  let id ← row.integer "id"
  let remark ← row.text? "remark"
  let protocol ← row.text? "protocol"
  .ok ⟨id, remark.getD "", protocol.getD "", (settings.map Json.Value.string).getD .null⟩

end FleetDrift.Panel
