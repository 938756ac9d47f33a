import FleetDrift.Text.Blank
import FleetDrift.Text.Lowercase

/-!
# Credential families

A protocol authenticates its clients by a UUID or by a password. Of an unknown protocol neither
credential can be ruled out.
-/

namespace FleetDrift

open Text (trim asciiLowercase)

inductive CredentialFamily where
  | uuid
  | password
  | unknown
  deriving DecidableEq, Repr

namespace CredentialFamily

def uuidProtocols : List String := ["vmess", "vless"]

def passwordProtocols : List String := ["trojan", "shadowsocks"]

/-- The family of a protocol, whatever its ASCII letter case and the blanks around it. -/
def ofProtocol (protocol : String) : CredentialFamily :=
  let p := asciiLowercase (trim protocol)
  if p ∈ uuidProtocols then .uuid
  else if p ∈ passwordProtocols then .password
  else .unknown

def name : CredentialFamily → String
  | uuid => "uuid"
  | password => "password"
  | unknown => "unknown"

end CredentialFamily

end FleetDrift
