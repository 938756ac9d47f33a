import FleetDrift.Proofs.Disagreement
import FleetDrift.Proofs.Ranking
import FleetDrift.Proofs.ZeroSums

/-! # Ties among copies that agree
Fields are compared with the two zeros as one, scores are not. So copies that agree on all that is
scored tie, except where expiry, quota and address limit are all the negative zero in one of them
only. That one is ranked behind the others, wherever it stood. -/
namespace FleetDrift

open Number (Binary64)

variable {entries : List Entry} {e f : Entry}

theorem mem_comparableFields_of_scored {field : Field} (h : field ∈ Entry.scoredFields)
    (family : CredentialFamily) (kind : IdentityKind) :
    field ∈ comparableFields family kind := by
  have hcommon : ∀ field ∈ Entry.scoredFields, field ∈ Field.common := by decide
  simp [comparableFields, hcommon field h]

theorem scoredAlike_of_not_mem_diffFields {protocol : String} {kind : IdentityKind}
    (h : ∀ field ∈ Entry.scoredFields, field ∉ (compareCopies protocol kind entries).diffFields) :
    ∀ e ∈ entries, ∀ f ∈ entries, e.ScoredAlike f := by
  intro e he f hf field hscored
  by_contra hne
  refine h field hscored (mem_diffFields.mpr ⟨?_, e, he, f, hf, hne⟩)
  exact mem_comparableFields_of_scored hscored _ _

namespace Number.Binary64

variable {x y : Binary64}

theorem IsNegativeZero.position_le (hx : x.IsNegativeZero) (h : x.foldZero = y.foldZero) :
    x.position ≤ y.position := by
  have hy : y.magnitude = 0 := by
    rcases foldZero_eq_iff.mp h with rfl | ⟨-, hy⟩
    · exact hx.2
    · exact hy
  rw [position, position, hx.2, hy, if_pos hx.1]
  split_ifs <;> decide

end Number.Binary64

theorem Entry.ScoredAlike.score_le (h : e.ScoredAlike f) (he : e.IsNegativeZero) :
    e.score ≤ f.score := by
  have hzero : e.score.magnitude.IsNegativeZero := Entry.isNegativeZero_score.mpr he
  exact Score.le_def.mpr (.inr ⟨h.enabled, hzero.position_le h.foldZero_score⟩)

theorem eq_filter_append_filter {α : Type} {p : α → Bool} {xs : List α}
    (h : xs.Pairwise fun x y => p y → p x) : xs = xs.filter p ++ xs.filter fun x => !p x := by
  induction xs with
  | nil => rfl
  | cons x xs ih =>
    obtain ⟨hx, hxs⟩ := List.pairwise_cons.mp h
    by_cases hp : p x = true
    · rw [List.filter_cons_of_pos hp, List.filter_cons_of_neg (by simp [hp]), List.cons_append,
        ← ih hxs]
    · have hnone : ∀ y ∈ x :: xs, ¬ p y = true := by
        rw [List.forall_mem_cons]
        exact ⟨hp, fun y hy hpy => hp (hx y hy hpy)⟩
      rw [List.filter_eq_nil_iff.mpr hnone, List.nil_append,
        List.filter_eq_self.mpr fun y hy => by simpa using hnone y hy]

theorem rank_filter {p : Entry → Bool}
    (tied : ∀ e ∈ entries, ∀ f ∈ entries, p e → p f → e.score = f.score) :
    (rank entries).filter p = entries.filter p := by
  refine filter_mergeSort (descending_transitive _) (descending_total _) ?_
  intro e he f hf hpe hpf
  exact Score.le_eq_true_iff.mpr (le_of_eq (tied e he f hf hpe hpf).symm)

/-- The copies as they came, but those with negative zeros behind the others. -/
def zerosLast (entries : List Entry) : List Entry :=
  (entries.filter fun e => ¬ e.IsNegativeZero) ++ entries.filter fun e => e.IsNegativeZero

theorem rank_eq_zerosLast (h : ∀ e ∈ entries, ∀ f ∈ entries, e.ScoredAlike f) :
    rank entries = zerosLast entries := by
  let p : Entry → Bool := fun e => ¬ e.IsNegativeZero
  have hmem : ∀ {e}, e ∈ rank entries → e ∈ entries :=
    fun he => (rankBy_perm Entry.score entries).subset he
  have hfirst : (rank entries).Pairwise fun e f => p f → p e := by
    refine (rankBy_descending Entry.score entries).imp_of_mem fun {e f} he hf hle => ?_
    simp only [p, decide_eq_true_eq]
    intro hnf hne
    have halike := h e (hmem he) f (hmem hf)
    have htie : e.score = f.score := le_antisymm (halike.score_le hne) hle
    exact hnf ((halike.score_eq_iff.mp htie).mp hne)
  have hplain : (rank entries).filter p = entries.filter p := by
    refine rank_filter fun e he f hf hpe hpf => ?_
    simp only [p, decide_eq_true_eq] at hpe hpf
    exact (h e he f hf).score_eq_iff.mpr (iff_of_false hpe hpf)
  have hzeros : (rank entries).filter (fun e => !p e) = entries.filter fun e => !p e := by
    refine rank_filter fun e he f hf hpe hpf => ?_
    simp only [p, decide_not, Bool.not_not, decide_eq_true_eq] at hpe hpf
    exact (h e he f hf).score_eq_iff.mpr (iff_of_true hpe hpf)
  calc rank entries = (rank entries).filter p ++ (rank entries).filter (fun e => !p e) :=
        eq_filter_append_filter hfirst
    _ = entries.filter p ++ entries.filter (fun e => !p e) := by rw [hplain, hzeros]
    _ = zerosLast entries := by simp [zerosLast, p]

/-- Copies that agree on what is scored tie exactly when both or neither have the negative zeros.
Where a comparison finds no difference, these zeros alone can change the order. -/
theorem agreeing_copies_tie_iff (protocol : String) (kind : IdentityKind) (entries : List Entry) :
    (∀ e f : Entry, e.ScoredAlike f →
      (e.score = f.score ↔ (e.IsNegativeZero ↔ f.IsNegativeZero))) ∧
    ((∀ field ∈ Entry.scoredFields, field ∉ (compareCopies protocol kind entries).diffFields) →
      rank entries = zerosLast entries) := by
  constructor
  · intro e f h
    exact h.score_eq_iff
  · intro h
    exact rank_eq_zerosLast (scoredAlike_of_not_mem_diffFields h)

def unlimitedFields (zero : String) : Json.Fields :=
  [("expiryTime", .string zero), ("limitIp", .string zero), ("totalGB", .string zero)]

def signedCopy : Entry := .ofFields (unlimitedFields "-0")

def plainCopy : Entry := .ofFields (unlimitedFields "0")

/-- One negative zero of three does not break a tie. -/
def partlySigned : Entry := { plainCopy with expiryTime := signedCopy.expiryTime }

theorem agreeing_copies_tie_unlimited :
    partlySigned.ScoredAlike plainCopy ∧ partlySigned.score = plainCopy.score ∧
    (∀ field ∈ Entry.scoredFields, field ∉ (compareCopies "vless" .email
      [signedCopy, partlySigned, signedCopy, plainCopy]).diffFields) ∧
    rank [signedCopy, partlySigned, signedCopy, plainCopy] =
      zerosLast [signedCopy, partlySigned, signedCopy, plainCopy] := by
  obtain ⟨hscores, hranking⟩ := agreeing_copies_tie_iff "vless" .email
    [signedCopy, partlySigned, signedCopy, plainCopy]
  have halike : partlySigned.ScoredAlike plainCopy := by decide +kernel
  have hzeros : partlySigned.IsNegativeZero ↔ plainCopy.IsNegativeZero := by decide +kernel
  have hagree : ∀ field ∈ Entry.scoredFields, field ∉ (compareCopies "vless" .email
      [signedCopy, partlySigned, signedCopy, plainCopy]).diffFields := by decide +kernel
  exact ⟨halike, (hscores _ _ halike).mpr hzeros, hagree, hranking hagree⟩

/-- Two records that differ in the signs of their zeros only, and are ranked against their order. -/
theorem agreeing_copies_ranked_apart :
    Entry.ofValue? (.object (unlimitedFields "-0")) = .ok signedCopy ∧
    Entry.ofValue? (.object (unlimitedFields "0")) = .ok plainCopy ∧
    signedCopy.ScoredAlike plainCopy ∧ signedCopy.score ≠ plainCopy.score ∧
    rank [signedCopy, plainCopy] = [plainCopy, signedCopy] := by
  have hsigned : signedCopy.IsNegativeZero := by decide +kernel
  have hplain : ¬ plainCopy.IsNegativeZero := by decide +kernel
  have halike : ∀ e ∈ [signedCopy, plainCopy], ∀ f ∈ [signedCopy, plainCopy],
      e.ScoredAlike f := by decide +kernel
  have hlast : zerosLast [signedCopy, plainCopy] = [plainCopy, signedCopy] := by
    simp [zerosLast, hsigned, hplain]
  refine ⟨rfl, rfl, by decide +kernel, by decide +kernel, ?_⟩
  rw [rank_eq_zerosLast halike, hlast]

end FleetDrift
