import FleetDrift.Report.Basic

/-!
# Reports as JSON

The objects that stand for a report and its parts, with their fields in the order of the output.
-/

namespace FleetDrift

open Json (Value)

def Member.toValue (m : Member) : Value :=
  .object [("locator", .string m.locator), ("entry", m.entry.toValue)]

def FieldDiff.toValue (d : FieldDiff) : Value :=
  .object
    [("field", .string d.field.name), ("values", .array (d.values.map FieldValue.toValue))]

def Candidate.toValue (c : Candidate) : Value :=
  .object
    [("rank", .ofNat c.rank),
     ("locator", .string c.locator),
     ("serverId", .string c.serverId),
     ("serverName", .string c.serverName),
     ("inboundRemark", .string c.inboundRemark),
     ("enable", .bool c.enable),
     ("expiryTime", .ofBinary64 c.expiryTime),
     ("totalGB", .ofBinary64 c.totalGB),
     ("limitIp", .ofBinary64 c.limitIp)]

def SubGroup.toValue (s : SubGroup) : Value :=
  .object
    [("protocol", .string s.protocol),
     ("credentialFamily", .string s.family.name),
     ("entryCount", .ofNat s.size),
     ("members", .array (s.members.map Member.toValue)),
     ("diffFields", .ofStrings (s.comparison.diffFields.map Field.name)),
     ("fieldDiffs", .array (s.comparison.fieldDiffs.map FieldDiff.toValue)),
     ("conflictTypes", .ofStrings (s.comparison.conflictTypes.map ConflictType.name)),
     ("hasCredentialConflict", .bool s.comparison.hasCredentialConflict),
     ("rankedSources", .array (s.ranked.map Candidate.toValue)),
     ("recommendedSource", .string s.recommended)]

def Group.toValue (g : Group) : Value :=
  .object
    [("identityType", .string g.identity.kind.name),
     ("identityValue", .string g.identity.value),
     ("severity", .string g.severity.name),
     ("entryCount", .ofNat g.size),
     ("protocols", .array (g.subGroups.map SubGroup.toValue))]

def Summary.toValue (s : Summary) : Value :=
  .object
    [("totalEntries", .ofNat s.totalEntries),
     ("unidentifiableEntries", .ofNat s.unidentifiableEntries),
     ("totalGroups", .ofNat s.totalGroups),
     ("conflictGroups", .ofNat s.conflictGroups),
     ("high", .ofNat s.high),
     ("medium", .ofNat s.medium)]

def Report.toValue (r : Report) : Value :=
  .object
    [("snapshotFingerprint", .string r.fingerprint),
     ("summary", r.summary.toValue),
     ("groups", .array (r.groups.map Group.toValue))]

def FetchFailure.toValue (f : FetchFailure) : Value :=
  .object
    [("serverId", .string f.serverId),
     ("serverName", .string f.serverName),
     ("message", .string f.message)]

def Snapshot.toValue (s : Snapshot) : Value :=
  .object
    [("entries", .array (s.entries.map Entry.toValue)),
     ("failures", .array (s.failures.map FetchFailure.toValue))]

end FleetDrift
