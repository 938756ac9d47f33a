import FleetDrift.Comparison
import FleetDrift.Score
import FleetDrift.Snapshot

/-!
# Conflict reports

All identities whose copies disagree under some protocol. Within an identity there is one sub-group
for each such protocol; identities with differing credentials come first, larger ones before
smaller ones.
-/

namespace FleetDrift

open Number (Binary64)

inductive Severity where
  | high
  | medium
  deriving DecidableEq, Repr

namespace Severity

def name : Severity → String
  | high => "high"
  | medium => "medium"

def rank : Severity → Nat
  | high => 0
  | medium => 1

end Severity

structure Member where
  locator : Locator
  entry : Entry

def Member.ofEntry (e : Entry) : Member := ⟨e.locator, e⟩

structure Candidate where
  rank : Nat
  locator : Locator
  serverId : String
  serverName : String
  inboundRemark : String
  enable : Bool
  expiryTime : Binary64
  totalGB : Binary64
  limitIp : Binary64
  deriving DecidableEq, Repr

def Candidate.ofEntry (rank : Nat) (e : Entry) : Candidate where
  rank := rank
  locator := e.locator
  serverId := e.serverId
  serverName := e.serverName
  inboundRemark := e.inboundRemark
  enable := e.isEnabled
  expiryTime := e.expiryTime
  totalGB := e.totalGB
  limitIp := e.limitIp

/-- Copies of one client under one protocol that disagree. -/
structure SubGroup where
  protocol : String
  family : CredentialFamily
  members : List Member
  comparison : Comparison
  ranked : List Candidate
  recommended : Locator

namespace SubGroup

def size (s : SubGroup) : Nat := s.members.length

def member? (s : SubGroup) (locator : Locator) : Option Member :=
  s.members.find? fun m => m.locator = locator

/-- The sub-group of copies that disagree; copies that agree make none. -/
def ofCopies? (protocol : String) (kind : IdentityKind) (copies : List Entry) : Option SubGroup :=
  let comparison := compareCopies protocol kind copies
  if comparison.hasConflict then
    let ranked := (rank copies).zipIdx.map fun (e, i) => Candidate.ofEntry i e
    some
      { protocol := protocol
        family := .ofProtocol protocol
        members := copies.map Member.ofEntry
        comparison := comparison
        ranked := ranked
        recommended := (ranked.head?.map (·.locator)).getD "" }
  else none

end SubGroup

structure Group where
  identity : Identity
  severity : Severity
  size : Nat
  subGroups : List SubGroup

namespace Group

def ofIdentityGroup? (g : IdentityGroup Entry) : Option Group :=
  let subGroups := (protocolGroups id g.members).filterMap fun p =>
    SubGroup.ofCopies? p.protocol g.identity.kind p.members
  if subGroups.isEmpty then none
  else
    let high := subGroups.any fun s => s.comparison.hasCredentialConflict
    some
      { identity := g.identity
        severity := if high then .high else .medium
        size := g.members.length
        subGroups := subGroups }

/-- The order of a report: by severity, then the larger group first. -/
def precedes (a b : Group) : Bool :=
  a.severity.rank < b.severity.rank || (a.severity = b.severity && b.size ≤ a.size)

def subGroup? (g : Group) (protocol : String) : Option SubGroup :=
  let wanted := Text.lowercase (Text.trim protocol)
  g.subGroups.find? fun s => s.protocol = wanted

end Group

structure Summary where
  totalEntries : Nat
  unidentifiableEntries : Nat
  totalGroups : Nat
  conflictGroups : Nat
  high : Nat
  medium : Nat
  deriving DecidableEq, Repr

structure Report where
  fingerprint : Fingerprint
  summary : Summary
  groups : List Group

namespace Report

def ofEntries (entries : List Entry) : Report :=
  let identities := identityGroups id entries
  let groups := (identities.filterMap Group.ofIdentityGroup?).mergeSort Group.precedes
  let high := groups.countP fun g => g.severity = .high
  { fingerprint := Snapshot.fingerprint entries
    summary :=
      { totalEntries := entries.length
        unidentifiableEntries := unidentifiable entries
        totalGroups := identities.length
        conflictGroups := groups.length
        high := high
        medium := groups.length - high }
    groups := groups }

def isClean (r : Report) : Bool := r.groups.isEmpty

/-- The first group that answers to a name: emails in any letter case, identifiers exactly. -/
def group? (r : Report) (name : String) : Option Group :=
  let wanted := Text.trim name
  r.groups.find? fun g =>
    match g.identity.kind with
    | .email => g.identity.value = Text.lowercase wanted
    | .identifier => g.identity.value = wanted

end Report

end FleetDrift
