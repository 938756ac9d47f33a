import FleetDrift.Field

/-!
# Identities and locators

Entries with one email belong to one client. Entries without email belong together when protocol
and identifier agree. A locator is the address of one copy: server, inbound, protocol, identifier
and email, joined by bars, with bars and percent signs inside them escaped.
-/

namespace FleetDrift

open Text (trim lowercase)

inductive IdentityKind where
  | email
  | identifier
  deriving DecidableEq, Repr

def IdentityKind.name : IdentityKind → String
  | email => "email"
  | identifier => "identifier"

structure Identity where
  kind : IdentityKind
  value : String
  deriving DecidableEq, Repr

abbrev Locator := String

namespace Entry

def normalizedEmail (e : Entry) : String :=
  match e.email with
  | some email => lowercase (trim email)
  | none => ""

def normalizedProtocol (e : Entry) : String := lowercase (trim e.protocol)

def family (e : Entry) : CredentialFamily := .ofProtocol e.protocol

def nameText (e : Entry) : Field → String
  | .id => trim e.id
  | .password => trim e.password
  | .email => trim (e.email.getD "")
  | _ => ""

/-- The first text in the family's order that is not blank, or nothing. -/
def identifier (e : Entry) : String :=
  ((e.family.identifierOrder.map e.nameText).find? (· ≠ "")).getD ""

/-- The identity of an entry; one without email and identifier has none. -/
def identity? (e : Entry) : Option Identity :=
  if e.normalizedEmail ≠ "" then some ⟨.email, e.normalizedEmail⟩
  else if e.identifier ≠ "" then
    some ⟨.identifier, e.normalizedProtocol ++ ":" ++ e.identifier⟩
  else none

end Entry

namespace Locator

def escapeChar (c : Char) : List Char :=
  if c = '%' then ['%', '2', '5']
  else if c = '|' then ['%', '7', 'C']
  else [c]

def escape (s : String) : String := String.ofList (s.toList.flatMap escapeChar)

def ofParts (parts : List String) : Locator := String.intercalate "|" (parts.map escape)

end Locator

namespace Entry

def address (e : Entry) : List String :=
  [e.serverId, Number.intText e.inboundId.toInt, e.normalizedProtocol,
   e.identifier, e.normalizedEmail]

def locator (e : Entry) : Locator := .ofParts e.address

end Entry

end FleetDrift
