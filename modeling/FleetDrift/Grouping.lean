import FleetDrift.Identity

/-!
# Grouping by key

Classes of equal keys, in the order in which the keys first occur, each with its members in order.
Entries are grouped by identity, and the entries of one identity by protocol.
-/

namespace FleetDrift

def firstByKey {α κ : Type} [DecidableEq κ] (key : α → κ) : List α → List α
  | [] => []
  | x :: xs => x :: (firstByKey key xs).filter fun y => key y ≠ key x

def gather {α κ : Type} [DecidableEq κ] (pairs : List (κ × α)) : List (κ × List α) :=
  (firstByKey id (pairs.map (·.1))).map fun k =>
    (k, pairs.filterMap fun p => if p.1 = k then some p.2 else none)

def classesByKey {α κ : Type} [DecidableEq κ] (key : α → κ) (xs : List α) : List (κ × List α) :=
  gather (xs.map fun x => (key x, x))

/-- Members that have no key belong to no class. -/
def classesByKey? {α κ : Type} [DecidableEq κ] (key : α → Option κ) (xs : List α) :
    List (κ × List α) :=
  gather (xs.filterMap fun x => (key x).map fun k => (k, x))

/-- The entries of one client; `α` is whatever carries an entry. -/
structure IdentityGroup (α : Type) where
  identity : Identity
  members : List α

structure ProtocolGroup (α : Type) where
  protocol : String
  members : List α

/-- The groups of all entries that have an identity, in the order of their first members. -/
def identityGroups {α : Type} (entry : α → Entry) (xs : List α) : List (IdentityGroup α) :=
  (classesByKey? (fun x => (entry x).identity?) xs).map fun (k, ms) => ⟨k, ms⟩

def unidentifiable (entries : List Entry) : Nat :=
  entries.countP fun e => e.identity?.isNone

def protocolGroups {α : Type} (entry : α → Entry) (xs : List α) : List (ProtocolGroup α) :=
  ((classesByKey (fun x => (entry x).normalizedProtocol) xs).filter fun (_, ms) =>
    2 ≤ ms.length).map fun (k, ms) => ⟨k, ms⟩

end FleetDrift
