import FleetDrift.Proofs.Copies
import FleetDrift.Proofs.Planning

/-! # Who shares a group
Entries with an email share a group when their emails agree. Without one, protocol and identifier
are joined by a colon, and what is joined can be cut in another place: a protocol that goes on past
a colon takes in the beginning of the other entry's identifier. These are the only false merges. -/
namespace FleetDrift

/-- Where a text was joined by a colon: at one place, or at two that are apart by `middle`. -/
theorem joined_eq_iff {p q i j : String} : p ++ ":" ++ i = q ++ ":" ++ j ↔
    p = q ∧ i = j ∨ (∃ middle, q = p ++ ":" ++ middle ∧ i = middle ++ ":" ++ j) ∨
      ∃ middle, p = q ++ ":" ++ middle ∧ j = middle ++ ":" ++ i := by
  constructor
  · intro h
    have hl : p.toList ++ (':' :: i.toList) = q.toList ++ (':' :: j.toList) := by
      simpa using congrArg String.toList h
    rcases List.append_eq_append_iff.mp hl with ⟨more, hq, hi⟩ | ⟨more, hp, hj⟩
    · cases more with
      | nil => exact .inl ⟨String.toList_inj.mp (by simpa using hq.symm),
          String.toList_inj.mp (by simpa using hi)⟩
      | cons c middle =>
        obtain ⟨rfl, hi⟩ := List.cons.inj hi
        refine .inr (.inl ⟨String.ofList middle, ?_, ?_⟩) <;> apply String.toList_inj.mp
        · simpa using hq
        · simpa using hi
    · cases more with
      | nil => exact .inl ⟨String.toList_inj.mp (by simpa using hp),
          String.toList_inj.mp (by simpa using hj.symm)⟩
      | cons c middle =>
        obtain ⟨rfl, hj⟩ := List.cons.inj hj
        refine .inr (.inr ⟨String.ofList middle, ?_, ?_⟩) <;> apply String.toList_inj.mp
        · simpa using hp
        · simpa using hj
  · rintro (⟨rfl, rfl⟩ | ⟨middle, rfl, rfl⟩ | ⟨middle, rfl, rfl⟩)
    · rfl
    · simp [String.append_assoc]
    · simp [String.append_assoc]

namespace Entry

def Identifiable (e : Entry) : Prop := e.normalizedEmail ≠ "" ∨ e.identifier ≠ ""

inductive SameClient (a b : Entry) : Prop where
  | email (h : a.normalizedEmail ≠ "") (same : a.normalizedEmail = b.normalizedEmail)
  | identifier (ha : a.normalizedEmail = "") (hb : b.normalizedEmail = "")
      (protocol : a.normalizedProtocol = b.normalizedProtocol)
      (identifier : a.identifier = b.identifier)

/-- The second protocol goes on past a colon with the text that begins the first identifier. -/
def Overlaps (a b : Entry) : Prop :=
  a.normalizedEmail = "" ∧ b.normalizedEmail = "" ∧ ∃ middle,
    b.normalizedProtocol = a.normalizedProtocol ++ ":" ++ middle ∧
      a.identifier = middle ++ ":" ++ b.identifier

variable {a b : Entry} {K : Identity}

theorem hasIdentity_iff_email (h : a.normalizedEmail ≠ "") :
    a.HasIdentity K ↔ K = ⟨.email, a.normalizedEmail⟩ :=
  ⟨fun k => k.unique (.email h), fun k => k ▸ .email h⟩

theorem hasIdentity_iff_identifier (h : a.normalizedEmail = "") (ha : a.Identifiable) :
    a.HasIdentity K ↔ K = ⟨.identifier, a.normalizedProtocol ++ ":" ++ a.identifier⟩ :=
  have hi : a.identifier ≠ "" := ha.resolve_left (not_not_intro h)
  ⟨fun k => k.unique (.identifier h hi), fun k => k ▸ .identifier h hi⟩

/-- The entries that are not counted as unidentifiable. -/
theorem identifiable_iff : a.Identifiable ↔ a.identity?.isNone = false := by
  rw [Bool.eq_false_iff, ne_eq, Option.isNone_iff_eq_none, identity?_eq_none_iff_blank,
    not_and_or, Identifiable]

/-- One identity is one email, or one text joined of protocol and identifier. -/
theorem shared_identity_iff_texts (ha : a.Identifiable) (hb : b.Identifiable) :
    (∃ K, a.HasIdentity K ∧ b.HasIdentity K) ↔
      a.normalizedEmail = b.normalizedEmail ∧ (a.normalizedEmail = "" →
        a.normalizedProtocol ++ ":" ++ a.identifier =
          b.normalizedProtocol ++ ":" ++ b.identifier) := by
  by_cases ea : a.normalizedEmail = "" <;> by_cases eb : b.normalizedEmail = ""
  · simp [hasIdentity_iff_identifier ea ha, hasIdentity_iff_identifier eb hb, ea, eb]
  · simp [hasIdentity_iff_identifier ea ha, hasIdentity_iff_email eb, ea, Ne.symm eb]
  · simp [hasIdentity_iff_email ea, hasIdentity_iff_identifier eb hb, eb, ea]
  · simp [hasIdentity_iff_email ea, hasIdentity_iff_email eb, ea]

theorem sameClient_iff : a.SameClient b ↔ a.normalizedEmail = b.normalizedEmail ∧
    (a.normalizedEmail = "" →
      a.normalizedProtocol = b.normalizedProtocol ∧ a.identifier = b.identifier) := by
  constructor
  · rintro (⟨h, same⟩ | ⟨ha, hb, hp, hi⟩)
    · exact ⟨same, fun he => absurd he h⟩
    · exact ⟨ha.trans hb.symm, fun _ => ⟨hp, hi⟩⟩
  · rintro ⟨same, hrest⟩
    by_cases ha : a.normalizedEmail = ""
    · exact .identifier ha (same ▸ ha) (hrest ha).1 (hrest ha).2
    · exact .email ha same

theorem shared_identity_iff (ha : a.Identifiable) (hb : b.Identifiable) :
    (∃ K, a.HasIdentity K ∧ b.HasIdentity K) ↔
      a.SameClient b ∨ a.Overlaps b ∨ b.Overlaps a := by
  rw [shared_identity_iff_texts ha hb, joined_eq_iff, sameClient_iff]
  by_cases ea : a.normalizedEmail = ""
  · by_cases eb : b.normalizedEmail = ""
    · simp [Overlaps, ea, eb]
    · simp [Overlaps, ea, eb, Ne.symm eb]
  · simp [Overlaps, ea]

/-- Protocols without a colon cannot overlap. -/
theorem not_overlaps_of_no_colon (h : ':' ∉ b.normalizedProtocol.toList) : ¬ a.Overlaps b := by
  rintro ⟨-, -, middle, hp, -⟩
  rw [hp] at h
  simp at h

end Entry

variable {entries : List Entry} {a b : Entry}

/-- Grouping puts the two into one group. -/
def Grouped (entries : List Entry) (a b : Entry) : Prop :=
  ∃ g ∈ identityGroups id entries, a ∈ g.members ∧ b ∈ g.members

theorem grouped_iff_shared (ha : a ∈ entries) (hb : b ∈ entries) :
    Grouped entries a b ↔ ∃ K, a.HasIdentity K ∧ b.HasIdentity K := by
  constructor
  · rintro ⟨g, hg, ham, hbm⟩
    rw [(mem_identityGroups.mp hg).2, List.mem_filter, decide_eq_true_eq] at ham hbm
    exact ⟨g.identity, ham.2, hbm.2⟩
  · rintro ⟨K, hKa, hKb⟩
    refine ⟨⟨K, entries.filter fun e => e.HasIdentity K⟩,
      mem_identityGroups.mpr ⟨⟨a, ha, hKa⟩, rfl⟩, ?_, ?_⟩ <;>
      simp only [List.mem_filter, decide_eq_true_eq]
    · exact ⟨ha, hKa⟩
    · exact ⟨hb, hKb⟩

/-- Copies of one client are grouped, and of other entries only those whose protocols and
identifiers overlap at a colon; protocols without a colon leave no such pair. -/
theorem grouped_iff_sameClient_or_overlaps (ha : a ∈ entries) (hb : b ∈ entries)
    (ia : a.Identifiable) (ib : b.Identifiable) :
    (Grouped entries a b ↔ a.SameClient b ∨ a.Overlaps b ∨ b.Overlaps a) ∧
      (':' ∉ a.normalizedProtocol.toList → ':' ∉ b.normalizedProtocol.toList →
        (Grouped entries a b ↔ a.SameClient b)) := by
  have hshared := (grouped_iff_shared ha hb).trans (Entry.shared_identity_iff ia ib)
  refine ⟨hshared, fun ca cb => ?_⟩
  rw [hshared]
  simp [Entry.not_overlaps_of_no_colon ca, Entry.not_overlaps_of_no_colon cb]

def namelessCopy (protocol id : String) : Entry :=
  { vlessCopy "a" id true 1000 with protocol := protocol, email := none }

def overlappingCopies : List Entry := [namelessCopy "vless:x" "y", namelessCopy "vless" "x:y"]

theorem grouped_iff_overlapping :
    namelessCopy "vless" "x:y" ∈ overlappingCopies ∧
    namelessCopy "vless:x" "y" ∈ overlappingCopies ∧
    (namelessCopy "vless" "x:y").Identifiable ∧ (namelessCopy "vless:x" "y").Identifiable ∧
    (Grouped overlappingCopies (namelessCopy "vless" "x:y") (namelessCopy "vless:x" "y") ↔
      (namelessCopy "vless" "x:y").SameClient (namelessCopy "vless:x" "y") ∨
        (namelessCopy "vless" "x:y").Overlaps (namelessCopy "vless:x" "y") ∨
        (namelessCopy "vless:x" "y").Overlaps (namelessCopy "vless" "x:y")) := by
  have ha : namelessCopy "vless" "x:y" ∈ overlappingCopies :=
    List.mem_cons_of_mem _ List.mem_cons_self
  have hb : namelessCopy "vless:x" "y" ∈ overlappingCopies := List.mem_cons_self
  have ia : (namelessCopy "vless" "x:y").Identifiable := .inr (by decide +kernel)
  have ib : (namelessCopy "vless:x" "y").Identifiable := .inr (by decide +kernel)
  exact ⟨ha, hb, ia, ib, (grouped_iff_sameClient_or_overlaps ha hb ia ib).1⟩

/-- Two entries of different protocols and identifiers in one group. -/
theorem overlapping_copies_grouped :
    ∃ a ∈ overlappingCopies, ∃ b ∈ overlappingCopies, a.Identifiable ∧ b.Identifiable ∧
      Grouped overlappingCopies a b ∧ ¬ a.SameClient b ∧
      a.normalizedProtocol ≠ b.normalizedProtocol ∧ a.identifier ≠ b.identifier := by
  have hp : (namelessCopy "vless:x" "y").normalizedProtocol ≠
      (namelessCopy "vless" "x:y").normalizedProtocol := by decide +kernel
  have hi : (namelessCopy "vless:x" "y").identifier ≠ (namelessCopy "vless" "x:y").identifier := by
    decide +kernel
  have hK : (namelessCopy "vless:x" "y").HasIdentity ⟨.identifier, "vless:x:y"⟩ ∧
      (namelessCopy "vless" "x:y").HasIdentity ⟨.identifier, "vless:x:y"⟩ := by decide +kernel
  have hm : (namelessCopy "vless:x" "y").normalizedEmail = "" := by decide +kernel
  refine ⟨_, List.mem_cons_self, _, List.mem_cons_of_mem _ List.mem_cons_self,
    .inr (by decide +kernel), .inr (by decide +kernel), ?_, fun hs => ?_, hp, hi⟩
  · exact (grouped_iff_shared List.mem_cons_self
      (List.mem_cons_of_mem _ List.mem_cons_self)).mpr ⟨_, hK⟩
  · exact hp ((Entry.sameClient_iff.mp hs).2 hm).1

end FleetDrift
