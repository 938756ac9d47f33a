import FleetDrift.Entry.Basic
import FleetDrift.Inventory.Backend

/-!
# Inbounds

An inbound is a listener of a panel with the clients it serves. The clients stand in its settings,
an object or the text of one. Every entry is stamped with the origin it was found at, whatever the
client object itself says about it.
-/

namespace FleetDrift

open Json (Value Mismatch Found Fault)

structure Inbound where
  id : Int64
  remark : String
  protocol : String
  settings : Value

namespace Inbound

def int64Field (v : Value) : Except Mismatch Int64 :=
  match v with
  | .number n =>
    match n.int64? with
    | some i => .ok i
    | none =>
      match n with
      | .whole _ => .error (.invalidValue (Found.ofValue v) "i64")
      | .real _ => .error (.invalidType (Found.ofValue v) "i64")
  | _ => .error (.invalidType (Found.ofValue v) "i64")

def textField (v : Value) : Except Mismatch String :=
  match v with
  | .string s => .ok s
  | _ => .error (.invalidType (Found.ofValue v) "a string")

def optional {α : Type} (read : Value → Except Mismatch α) (absent : α) :
    Option Value → Except Mismatch α
  | none => .ok absent
  | some v => read v

/-- Reads the fields of an object in the order of their names; only the id has to be there. -/
def ofFields (fields : Json.Fields) : Except Mismatch Inbound := do
  let id ← optional (fun v => (int64Field v).map some) none (fields.get? "id")
  let protocol ← optional textField "" (fields.get? "protocol")
  let remark ← optional textField "" (fields.get? "remark")
  match id with
  | none => .error (.missingField "id")
  | some id => .ok ⟨id, remark, protocol, (fields.get? "settings").getD .null⟩

def ofItems (items : List Value) : Except Mismatch Inbound :=
  match items with
  | [] => .error (.invalidLength 0 "struct InboundRecord with 4 elements")
  | first :: rest => do
    let id ← int64Field first
    let remark ← optional textField "" rest[0]?
    let protocol ← optional textField "" rest[1]?
    if 4 < items.length then .error (.invalidLength items.length "fewer elements in array")
    else .ok ⟨id, remark, protocol, (rest[2]?).getD .null⟩

def ofValue? : Value → Except Mismatch Inbound
  | .object fields => ofFields fields
  | .array items => ofItems items
  | other => .error (.invalidType (Found.ofValue other) "struct InboundRecord")

def listField (v : Value) : Except Mismatch (List Value) :=
  match v with
  | .array items => .ok items
  | _ => .error (.invalidType (Found.ofValue v) "a sequence")

def clientsOfSettings : Value → Except Mismatch (List Value)
  | .object fields => optional listField [] (Json.Fields.get? fields "clients")
  | .array items => do
    let clients ← optional listField [] items[0]?
    if 1 < items.length then .error (.invalidLength items.length "fewer elements in array")
    else .ok clients
  | other => .error (.invalidType (Found.ofValue other) "struct InboundSettings")

def readClients (text : String) : Except Fault (List Value) :=
  let reader := Json.readRecord "struct InboundSettings" ["clients"]
    (Json.readSequence Json.readValue) Json.maxDepth
  match Json.readWholeText reader text with
  | .ok found => .ok (((found.find? fun f => f.1 = "clients").map (·.2)).getD [])
  | .error located => .error located.fault

inductive InboundFault where
  | malformedSettings (id : Int64) (fault : Fault)
  | malformedClient (id : Int64) (index : Nat) (mismatch : Mismatch)
  deriving DecidableEq, Repr

def InboundFault.message : InboundFault → String
  | malformedSettings id _ =>
    "inbound " ++ Number.intText id.toInt ++ " has malformed settings"
  | malformedClient id index _ =>
    "inbound " ++ Number.intText id.toInt ++ " client #" ++ Number.decimalText index
      ++ " is not an object"

def InboundFault.fault : InboundFault → Fault
  | malformedSettings _ fault => fault
  | malformedClient _ _ mismatch => .mismatch mismatch

/-- The client values that an inbound lists; null and blank settings list none. -/
def clientValues (inbound : Inbound) : Except InboundFault (List Value) :=
  match inbound.settings with
  | .null => .ok []
  | .string text =>
    if Text.trim text = "" then .ok []
    else (readClients text).mapError (.malformedSettings inbound.id)
  | other =>
    (clientsOfSettings other).mapError fun m => .malformedSettings inbound.id (.mismatch m)

def stamp (origin : Origin) (inbound : Inbound) (e : Entry) : Entry :=
  { e with
    serverId := origin.id
    serverName := origin.name
    inboundId := inbound.id
    inboundRemark := inbound.remark
    protocol := inbound.protocol }

def entryOfClient (origin : Origin) (inbound : Inbound) (index : Nat) (client : Value) :
    Except InboundFault Entry :=
  match Entry.ofValue? client with
  | .ok e => .ok (inbound.stamp origin e)
  | .error m => .error (.malformedClient inbound.id index m)

/-- The entries of all clients from a position on, or the fault of the first that has one. -/
def entriesFrom (origin : Origin) (inbound : Inbound) :
    Nat → List Value → Except InboundFault (List Entry)
  | _, [] => .ok []
  | index, client :: rest => do
    let e ← inbound.entryOfClient origin index client
    let es ← entriesFrom origin inbound (index + 1) rest
    .ok (e :: es)

def entries (origin : Origin) (inbound : Inbound) : Except InboundFault (List Entry) := do
  inbound.entriesFrom origin 0 (← inbound.clientValues)

/-- The entries of all inbounds; one that cannot be read is passed over. -/
def allEntries (origin : Origin) (inbounds : List Inbound) : List Entry :=
  inbounds.flatMap fun inbound =>
    match inbound.entries origin with
    | .ok es => es
    | .error _ => []

end Inbound

end FleetDrift
