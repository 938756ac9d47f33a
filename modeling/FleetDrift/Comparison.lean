import FleetDrift.Grouping

/-!
# Comparing copies

On which fields copies of one client disagree, with the values that occur, and what kinds of
conflict these are.
-/

namespace FleetDrift

inductive ConflictType where
  | credentialMismatch
  | expiryMismatch
  | quotaMismatch
  | enableMismatch
  | limitIpMismatch
  | flowMismatch
  | subidMismatch
  | emailMismatch
  deriving DecidableEq, Repr

namespace ConflictType

def all : List ConflictType :=
  [credentialMismatch, expiryMismatch, quotaMismatch, enableMismatch, limitIpMismatch,
   flowMismatch, subidMismatch, emailMismatch]

def name : ConflictType → String
  | credentialMismatch => "credential_mismatch"
  | expiryMismatch => "expiry_mismatch"
  | quotaMismatch => "quota_mismatch"
  | enableMismatch => "enable_mismatch"
  | limitIpMismatch => "limit_ip_mismatch"
  | flowMismatch => "flow_mismatch"
  | subidMismatch => "subid_mismatch"
  | emailMismatch => "email_mismatch"

def ofField : Field → ConflictType
  | .id => credentialMismatch
  | .password => credentialMismatch
  | .expiryTime => expiryMismatch
  | .totalGB => quotaMismatch
  | .enable => enableMismatch
  | .limitIp => limitIpMismatch
  | .flow => flowMismatch
  | .subId => subidMismatch
  | .email => emailMismatch

end ConflictType

/-- A field and the different values it has, in the order of their first occurrence. -/
structure FieldDiff where
  field : Field
  values : List FieldValue
  deriving DecidableEq, Repr

/-- The fields to compare: email only where it is not what the copies were grouped by. -/
def comparableFields (family : CredentialFamily) (kind : IdentityKind) : List Field :=
  family.credentialFields ++ Field.common ++ (if kind = .email then [] else [.email])

def distinctValues (field : Field) (members : List Entry) : List FieldValue :=
  firstByKey FieldValue.key (members.map field.value)

structure Comparison where
  fieldDiffs : List FieldDiff
  deriving DecidableEq, Repr

namespace Comparison

def diffFields (c : Comparison) : List Field := c.fieldDiffs.map (·.field)

def hasConflict (c : Comparison) : Bool := !c.fieldDiffs.isEmpty

def conflictTypes (c : Comparison) : List ConflictType :=
  ConflictType.all.filter fun t => t ∈ c.diffFields.map ConflictType.ofField

def hasCredentialConflict (c : Comparison) : Bool :=
  ConflictType.credentialMismatch ∈ c.conflictTypes

end Comparison

def compareCopies (protocol : String) (kind : IdentityKind) (members : List Entry) : Comparison :=
  ⟨((comparableFields (.ofProtocol protocol) kind).map fun field =>
      ⟨field, distinctValues field members⟩).filter fun d => 1 < d.values.length⟩

end FleetDrift
