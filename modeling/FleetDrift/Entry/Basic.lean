import FleetDrift.Entry.Lenient
import FleetDrift.Json.Record

/-!
# Client entries

One copy of a client on one inbound of one server, as a panel lists it. An entry is read from an
object, an array with the fields by position, or the text of either; every field may be absent.
-/

namespace FleetDrift

open Json (Value Mismatch Found)
open Number (Binary64)

structure Entry where
  serverId : String
  serverName : String
  inboundId : Int64
  inboundRemark : String
  protocol : String
  email : Option String
  id : String
  password : String
  expiryTime : Binary64
  totalGB : Binary64
  enable : Option Bool
  limitIp : Binary64
  flow : String
  subId : String
  tgId : Value

namespace Entry

inductive Key where
  | serverId
  | serverName
  | inboundId
  | inboundRemark
  | protocol
  | email
  | id
  | password
  | expiryTime
  | totalGB
  | enable
  | limitIp
  | flow
  | subId
  | tgId
  deriving DecidableEq, Repr

def Key.all : List Key :=
  [.serverId, .serverName, .inboundId, .inboundRemark, .protocol, .email, .id, .password,
   .expiryTime, .totalGB, .enable, .limitIp, .flow, .subId, .tgId]

def Key.name : Key → String
  | .serverId => "serverId"
  | .serverName => "serverName"
  | .inboundId => "inboundId"
  | .inboundRemark => "inboundRemark"
  | .protocol => "protocol"
  | .email => "email"
  | .id => "id"
  | .password => "password"
  | .expiryTime => "expiryTime"
  | .totalGB => "totalGB"
  | .enable => "enable"
  | .limitIp => "limitIp"
  | .flow => "flow"
  | .subId => "subId"
  | .tgId => "tgId"

def ofValues (value : Key → Value) : Entry where
  serverId := (Lenient.text? (value .serverId)).getD ""
  serverName := (Lenient.text? (value .serverName)).getD ""
  inboundId := Lenient.int64 (value .inboundId)
  inboundRemark := (Lenient.text? (value .inboundRemark)).getD ""
  protocol := (Lenient.text? (value .protocol)).getD ""
  email := Lenient.text? (value .email)
  id := (Lenient.text? (value .id)).getD ""
  password := (Lenient.text? (value .password)).getD ""
  expiryTime := Lenient.number (value .expiryTime)
  totalGB := Lenient.number (value .totalGB)
  enable := Lenient.flag? (value .enable)
  limitIp := Lenient.number (value .limitIp)
  flow := (Lenient.text? (value .flow)).getD ""
  subId := (Lenient.text? (value .subId)).getD ""
  tgId := value .tgId

def ofFields (fields : Json.Fields) : Entry :=
  ofValues fun key => (fields.get? key.name).getD .null

def ofItems (items : List Value) : Entry :=
  ofFields ((Key.all.map Key.name).zip items)

/-- Reads an object, or an array of no more values than there are fields. -/
def ofValue? : Value → Except Mismatch Entry
  | .object fields => .ok (ofFields fields)
  | .array items =>
    if items.length ≤ Key.all.length then .ok (ofItems items)
    else .error (.invalidLength items.length "fewer elements in array")
  | other => .error (.invalidType (Found.ofValue other) "struct ClientEntry")

def isEnabled (e : Entry) : Bool := e.enable ≠ some false

def toValue (e : Entry) : Value :=
  .object
    [("serverId", .string e.serverId),
     ("serverName", .string e.serverName),
     ("inboundId", .ofInt64 e.inboundId),
     ("inboundRemark", .string e.inboundRemark),
     ("protocol", .string e.protocol),
     ("email", (e.email.map Value.string).getD .null),
     ("id", .string e.id),
     ("password", .string e.password),
     ("expiryTime", .ofBinary64 e.expiryTime),
     ("totalGB", .ofBinary64 e.totalGB),
     ("enable", (e.enable.map Value.bool).getD .null),
     ("limitIp", .ofBinary64 e.limitIp),
     ("flow", .string e.flow),
     ("subId", .string e.subId),
     ("tgId", e.tgId)]

def canonical (e : Entry) : String := e.toValue.print

def reader (depth : Nat) : Json.Reader Entry := fun cs => do
  let (found, rest) ←
    Json.readRecord "struct ClientEntry" (Key.all.map Key.name) Json.readValue depth cs
  .ok (ofFields found, rest)

def read (text : String) : Except Json.Located Entry :=
  Json.readWholeText (reader Json.maxDepth) text

def readAll (text : String) : Except Json.Located (List Entry) :=
  Json.readWholeText (Json.readSequence reader Json.maxDepth) text

end Entry

end FleetDrift
