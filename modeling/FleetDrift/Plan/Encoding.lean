import FleetDrift.Plan.Basic

/-!
# Plans as JSON

The object that a plan is written as. The source entry is not part of it.
-/

namespace FleetDrift

open Json (Value)

def Target.toValue (t : Target) : Value :=
  .object
    [("locator", .string t.locator),
     ("serverId", .string t.serverId),
     ("serverName", .string t.serverName),
     ("inboundId", .ofInt64 t.inboundId),
     ("protocol", .string t.protocol),
     ("email", .string t.email),
     ("clientIdentifier", .string t.clientIdentifier)]

def ClientValues.toValue (c : ClientValues) : Value :=
  .object
    [("id", .string c.id),
     ("password", .string c.password),
     ("email", .string c.email),
     ("totalGB", .ofBinary64 c.totalGB),
     ("expiryTime", .ofBinary64 c.expiryTime),
     ("enable", .bool c.enable),
     ("tgId", c.tgId),
     ("subId", .string c.subId),
     ("limitIp", .ofBinary64 c.limitIp),
     ("flow", .string c.flow)]

def Plan.toValue (p : Plan) : Value :=
  .object
    [("action", .string "update"),
     ("basedOn", .string p.basedOn),
     ("sourceLocator", .string p.sourceLocator),
     ("sourceChoice", .string p.sourceChoice.name),
     ("targets", .array (p.targets.map Target.toValue)),
     ("client", p.client.toValue)]

end FleetDrift
