import FleetDrift.Proofs.Addresses
import FleetDrift.Proofs.Identifiers
import FleetDrift.Proofs.Planning

/-! # The keys of targets
Targets are chosen by their locators and updated by server, inbound and client identifier. Copies of
one sub-group agree in protocol and email, so the shorter key still tells them apart; and a client
that has an email has an identifier, since every family falls back to it. -/
namespace FleetDrift

open Text (trim lowercase)

namespace Entry

namespace HasIdentity

variable {a b : Entry} {K : Identity}

/-- Copies of one client under one protocol are told apart by the rest of their addresses. -/
theorem sameAddress (ha : a.HasIdentity K) (hb : b.HasIdentity K)
    (hp : a.normalizedProtocol = b.normalizedProtocol) (hs : a.serverId = b.serverId)
    (hn : a.inboundId = b.inboundId) (hi : a.identifier = b.identifier) : a.SameAddress b where
  server := hs
  inbound := hn
  protocol := hp
  identifier := hi
  email := ha.normalizedEmail_eq.trans hb.normalizedEmail_eq.symm

end HasIdentity

/-- What an update of the entry is addressed to. -/
def updateKey (e : Entry) : String × Int64 × String := (e.serverId, e.inboundId, e.identifier)

end Entry

namespace Target

def updateKey (t : Target) : String × Int64 × String :=
  (t.serverId, t.inboundId, t.clientIdentifier)

structure Finds (t : Target) (e : Entry) : Prop where
  server : e.serverId = t.serverId
  inbound : e.inboundId = t.inboundId
  protocol : e.normalizedProtocol = t.protocol
  identifier : e.identifier = t.clientIdentifier
  email : e.normalizedEmail = lowercase (trim t.email)

@[simp] theorem updateKey_ofMember (m : Member) :
    (ofMember m).updateKey = m.entry.updateKey := by
  simp only [updateKey, ofMember, Entry.updateKey]

@[simp] theorem clientIdentifier_ofMember (m : Member) :
    (ofMember m).clientIdentifier = m.entry.identifier := by
  simp only [ofMember]

theorem finds_ofMember_iff {m : Member} {e : Entry} :
    (ofMember m).Finds e ↔ e.SameAddress m.entry := by
  have hemail : lowercase (trim (ofMember m).email) = m.entry.normalizedEmail := by
    simp only [ofMember, ← Entry.lowercase_nameText_email, Entry.nameText, Text.trim_trim]
  constructor
  · rintro ⟨hs, hn, hp, hi, he⟩
    simp only [ofMember] at hs hn hp hi
    exact ⟨hs, hn, hp, hi, he.trans hemail⟩
  · rintro ⟨hs, hn, hp, hi, he⟩
    constructor
    · simpa only [ofMember] using hs
    · simpa only [ofMember] using hn
    · simpa only [ofMember] using hp
    · simpa only [ofMember] using hi
    · exact he.trans hemail.symm

end Target

variable {entries : List Entry} {K : Identity} {s : SubGroup}

/-- What the keys in a plan can hit: each target is named, none has the source's key, and of the
entries of the scan a target finds copies of the sub-group alone. -/
structure Plan.AddressesCopies (plan : Plan) (s : SubGroup) (entries : List Entry) : Prop where
  named : ∀ t ∈ plan.targets, t.clientIdentifier ≠ ""
  apart : ∀ t ∈ plan.targets, t.updateKey ≠ plan.source.updateKey
  found : ∀ t ∈ plan.targets, ∃ e ∈ s.copies, t.Finds e
  only : ∀ t ∈ plan.targets, ∀ e ∈ entries, t.Finds e → e ∈ s.copies

theorem Report.updateKey_ne (h : (K, s) ∈ (ofEntries entries).listing) {m o : Member}
    (hm : m ∈ s.members) (ho : o ∈ s.members) (hne : m.locator ≠ o.locator) :
    m.entry.updateKey ≠ o.entry.updateKey := by
  intro hkey
  simp only [Entry.updateKey, Prod.mk.injEq] at hkey
  obtain ⟨hs, hn, hi⟩ := hkey
  obtain ⟨hK, hp⟩ := hasIdentity_of_mem h hm
  obtain ⟨hK', hp'⟩ := hasIdentity_of_mem h ho
  have hsame := hK.sameAddress hK' (hp.trans hp'.symm) hs hn hi
  apply hne
  rw [((mem_members_iff h).mp hm).2, ((mem_members_iff h).mp ho).2]
  exact Entry.locator_eq_iff.mpr hsame

/-- The keys of a ready plan hit its targets, never its source and nothing else in the scan. -/
theorem ready_plan_addresses_copies {g : Group} (hg : g ∈ (Report.ofEntries entries).groups)
    (hs : s ∈ g.subGroups) {plan : Plan}
    (ready : s.Yields (Report.ofEntries entries).fingerprint plan) :
    plan.AddressesCopies s entries := by
  have h := Report.mem_listing.mpr ⟨g, hg, rfl, hs⟩
  obtain ⟨source, hsource, choice, rfl⟩ := ready.exists_source
  have htarget : ∀ t ∈ (s.readyPlan source choice (Report.ofEntries entries).fingerprint).targets,
      ∃ m ∈ s.members, m.locator ≠ source.locator ∧ Target.ofMember m = t := by
    intro t ht
    rw [SubGroup.readyPlan_targets] at ht
    exact SubGroup.mem_targetsBeside.mp ht
  constructor
  · intro t ht
    obtain ⟨m, hm, -, rfl⟩ := htarget t ht
    rw [Target.clientIdentifier_ofMember]
    exact (Report.hasIdentity_of_mem h hm).1.identifier_ne_empty
  · intro t ht
    obtain ⟨m, hm, hne, rfl⟩ := htarget t ht
    rw [Target.updateKey_ofMember, SubGroup.readyPlan_source]
    exact Report.updateKey_ne h hm hsource hne
  · intro t ht
    obtain ⟨m, hm, -, rfl⟩ := htarget t ht
    exact ⟨m.entry, List.mem_map_of_mem hm, Target.finds_ofMember_iff.mpr ⟨rfl, rfl, rfl, rfl, rfl⟩⟩
  · intro t ht e he hfinds
    obtain ⟨m, hm, -, rfl⟩ := htarget t ht
    have hl := Entry.locator_eq_iff.mpr (Target.finds_ofMember_iff.mp hfinds)
    rw [← ((Report.mem_members_iff h).mp hm).2] at hl
    exact Report.mem_copies_of_locator h hm he hl

theorem ready_plan_addresses_copies_drifting :
    ∃ g ∈ (Report.ofEntries driftingCopies).groups, ∃ s ∈ g.subGroups, ∃ plan,
      s.Yields (Report.ofEntries driftingCopies).fingerprint plan ∧
      plan.AddressesCopies s driftingCopies := by
  obtain ⟨g, hg, -, hs⟩ := Report.mem_listing.mp driftingGroup_listed
  obtain ⟨plan, hp⟩ := driftingGroup_ready .explicit (Report.ofEntries driftingCopies).fingerprint
    (List.mem_cons_self (a := vlessCopy "a" "u1" true 1000))
  exact ⟨g, hg, driftingGroup, hs, plan, .inr ⟨_, hp⟩,
    ready_plan_addresses_copies hg hs (.inr ⟨_, hp⟩)⟩

end FleetDrift
