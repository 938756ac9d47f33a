import FleetDrift.Report.Basic

/-!
# Reconciliation plans

A plan makes the copies of one sub-group agree: it takes one copy as the source and lists every copy
with another locator as a target, with the values that the targets are to be given.
-/

namespace FleetDrift

open Json (Value)
open Number (Binary64)
open Text (trim)

inductive SourceChoice where
  | explicit
  | recommended
  deriving DecidableEq, Repr

def SourceChoice.name : SourceChoice → String
  | explicit => "explicit"
  | recommended => "recommended"

structure Target where
  locator : Locator
  serverId : String
  serverName : String
  inboundId : Int64
  protocol : String
  email : String
  clientIdentifier : String
  deriving DecidableEq, Repr

def Target.ofMember (m : Member) : Target where
  locator := m.locator
  serverId := m.entry.serverId
  serverName := m.entry.serverName
  inboundId := m.entry.inboundId
  protocol := m.entry.normalizedProtocol
  email := trim (m.entry.email.getD "")
  clientIdentifier := m.entry.identifier

structure ClientValues where
  id : String
  password : String
  email : String
  totalGB : Binary64
  expiryTime : Binary64
  enable : Bool
  tgId : Value
  subId : String
  limitIp : Binary64
  flow : String

/-- The values of a source; a credential that its family does not use is left empty. -/
def ClientValues.ofSource (family : CredentialFamily) (e : Entry) : ClientValues where
  id := if family = .password then "" else trim e.id
  password := if family = .uuid then "" else trim e.password
  email := trim (e.email.getD "")
  totalGB := e.totalGB
  expiryTime := e.expiryTime
  enable := e.isEnabled
  tgId := e.tgId
  subId := trim e.subId
  limitIp := e.limitIp
  flow := trim e.flow

structure Plan where
  basedOn : Fingerprint
  sourceLocator : Locator
  sourceChoice : SourceChoice
  targets : List Target
  client : ClientValues
  source : Entry

inductive PlanOutcome where
  | ready (plan : Plan)
  | alreadyConverged
  | missingCredential (source : Locator)

def PlanOutcome.plan? : PlanOutcome → Option Plan
  | ready plan => some plan
  | _ => none

inductive PlanError where
  | unknownSource (source : Locator) (protocol : String)
  | unknownIdentity (identity : String)
  | unknownProtocol (identity protocol : String)
  deriving DecidableEq, Repr

def PlanError.message : PlanError → String
  | unknownSource source protocol =>
    "source locator " ++ source ++ " is not a member of the " ++ protocol ++ " sub-group"
  | unknownIdentity identity =>
    "no conflicting identity " ++ Text.quoted identity ++ " in the report"
  | unknownProtocol identity protocol =>
    "identity " ++ Text.quoted identity ++ " has no conflicting " ++ protocol ++ " sub-group"

namespace SubGroup

def hasCredential (family : CredentialFamily) (e : Entry) : Bool :=
  family.credentialFields.any fun field => (field.value e).key ≠ FieldValue.text ""

def planFrom (s : SubGroup) (source : Member) (choice : SourceChoice) (basedOn : Fingerprint) :
    PlanOutcome :=
  let family := CredentialFamily.ofProtocol s.protocol
  if hasCredential family source.entry then
    let targets := (s.members.filter fun m => m.locator ≠ source.locator).map Target.ofMember
    if targets.isEmpty then .alreadyConverged
    else
      .ready
        { basedOn := basedOn
          sourceLocator := source.locator
          sourceChoice := choice
          targets := targets
          client := .ofSource family source.entry
          source := source.entry }
  else .missingCredential source.locator

def planWith (s : SubGroup) (source : Locator) (choice : SourceChoice) (basedOn : Fingerprint) :
    Except PlanError PlanOutcome :=
  match s.member? source with
  | some m => .ok (s.planFrom m choice basedOn)
  | none => .error (.unknownSource source s.protocol)

def plan (s : SubGroup) (source : Locator) (basedOn : Fingerprint) : Except PlanError PlanOutcome :=
  s.planWith source .explicit basedOn

def recommendedPlan (s : SubGroup) (basedOn : Fingerprint) : Except PlanError PlanOutcome :=
  s.planWith s.recommended .recommended basedOn

end SubGroup

def Report.plan (r : Report) (identity protocol : String) (source : Option Locator) :
    Except PlanError PlanOutcome :=
  match r.group? identity with
  | none => .error (.unknownIdentity identity)
  | some g =>
    match g.subGroup? protocol with
    | none => .error (.unknownProtocol identity protocol)
    | some s =>
      match source with
      | some locator => s.plan locator r.fingerprint
      | none => s.recommendedPlan r.fingerprint

end FleetDrift
