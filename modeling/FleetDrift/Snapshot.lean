import FleetDrift.Digest.Sha256
import FleetDrift.Entry.Basic

/-!
# Snapshots

The entries of one scan, and the fingerprint by which a plan names the snapshot it was made from.
-/

namespace FleetDrift

abbrev Fingerprint := String

structure FetchFailure where
  serverId : String
  serverName : String
  message : String
  deriving DecidableEq, Repr

structure Snapshot where
  entries : List Entry
  failures : List FetchFailure

namespace Snapshot

def isPartial (s : Snapshot) : Bool := !s.failures.isEmpty

/-- The canonical texts of the entries, one a line. -/
def canonicalText (entries : List Entry) : String :=
  String.intercalate "\n" (entries.map Entry.canonical)

def fingerprint (entries : List Entry) : Fingerprint :=
  Sha256.hex (canonicalText entries).toUTF8.toList

end Snapshot

end FleetDrift
