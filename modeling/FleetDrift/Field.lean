import FleetDrift.Credential
import FleetDrift.Entry.Basic

/-!
# Comparable fields

The fields of an entry that copies of one client should agree on, and the values they are compared
by: texts without surrounding blanks, flags, and numbers of which the two zeros are one.
-/

namespace FleetDrift

open Number (Binary64)
open Text (trim)

inductive Field where
  | id
  | password
  | expiryTime
  | totalGB
  | enable
  | limitIp
  | flow
  | subId
  | email
  deriving DecidableEq, Repr

inductive FieldValue where
  | number (x : Binary64)
  | flag (b : Bool)
  | text (s : String)
  deriving DecidableEq, Repr

namespace FieldValue

def ofText (s : String) : FieldValue := .text (trim s)

def key : FieldValue → FieldValue
  | number x => .number x.foldZero
  | flag b => .flag b
  | text s => .text s

def Same (a b : FieldValue) : Prop := a.key = b.key

instance (a b : FieldValue) : Decidable (Same a b) := inferInstanceAs (Decidable (_ = _))

def toValue : FieldValue → Json.Value
  | number x => .ofBinary64 x
  | flag b => .bool b
  | text s => .string s

/-- The value for a reader; a sign stands for an empty text. -/
def display : FieldValue → String
  | number x => x.display
  | flag b => if b then "true" else "false"
  | text s => if s = "" then "∅" else s

end FieldValue

namespace Field

def common : List Field := [.expiryTime, .totalGB, .enable, .limitIp, .flow, .subId]

def name : Field → String
  | id => "id"
  | password => "password"
  | expiryTime => "expiryTime"
  | totalGB => "totalGB"
  | enable => "enable"
  | limitIp => "limitIp"
  | flow => "flow"
  | subId => "subId"
  | email => "email"

def label : Field → String
  | id => "UUID"
  | password => "Password"
  | expiryTime => "Expiry"
  | totalGB => "Quota"
  | enable => "Enabled"
  | limitIp => "IP limit"
  | flow => "Flow"
  | subId => "Subscription ID"
  | email => "Email"

def isCredential : Field → Bool
  | id => true
  | password => true
  | _ => false

def value (e : Entry) : Field → FieldValue
  | id => .ofText e.id
  | password => .ofText e.password
  | expiryTime => .number e.expiryTime
  | totalGB => .number e.totalGB
  | enable => .flag e.isEnabled
  | limitIp => .number e.limitIp
  | flow => .ofText e.flow
  | subId => .ofText e.subId
  | email => .ofText (e.email.getD "")

end Field

namespace CredentialFamily

def credentialFields : CredentialFamily → List Field
  | uuid => [.id]
  | password => [.password]
  | unknown => [.id, .password]

/-- The fields that can name a client, the preferred one first. -/
def identifierOrder : CredentialFamily → List Field
  | password => [.password, .id, .email]
  | _ => [.id, .password, .email]

end CredentialFamily

end FleetDrift
