import FleetDrift.Proofs.Ranking

/-! # The order of a ranking
Scores are compared by a total order, in which an enabled copy is above every disabled one. A
ranking has the copies in descending order, and copies that tie as they came. That needs the copies
told apart even where they are equal, so it is stated of copies with their places in the list. -/
namespace FleetDrift

namespace Score

variable {a b : Score}

instance : Std.TransCmp Score.compare :=
  inferInstanceAs (Std.TransCmp (compareLex (compareOn Score.enabled)
    (compareOn fun s => s.magnitude.position)))

theorem compare_eq_iff : a.compare b = .eq ↔ a = b := by
  constructor
  · intro h
    have hle : a.le b = true := by rw [le, h]; rfl
    have hswap : b.compare a = (a.compare b).swap := Std.OrientedCmp.eq_swap
    have hge : b.le a = true := by rw [le, hswap, h]; rfl
    exact le_antisymm (le_eq_true_iff.mp hle) (le_eq_true_iff.mp hge)
  · rintro rfl
    exact Std.ReflCmp.compare_self

theorem compare_enabled (ha : a.enabled = true) (hb : b.enabled = false) :
    a.compare b = .gt := by
  rw [compare, ha, hb]
  rfl

structure TotallyOrdered : Prop where
  total : ∀ a b : Score, (a.compare b).isLE ∨ (b.compare a).isLE
  transitive : ∀ a b c : Score, (a.compare b).isLE → (b.compare c).isLE → (a.compare c).isLE
  antisymmetric : ∀ a b : Score, (a.compare b).isLE → (b.compare a).isLE → a.compare b = .eq
  reversed : ∀ a b : Score, b.compare a = (a.compare b).swap
  tied : ∀ a b : Score, a.compare b = .eq ↔ a = b
  order : ∀ a b : Score, a ≤ b ↔ (a.compare b).isLE
  enabledAbove : ∀ a b : Score, a.enabled = true → b.enabled = false → a.compare b = .gt

theorem totallyOrdered : TotallyOrdered where
  total a b := (le_total a b).imp le_eq_true_iff.mpr le_eq_true_iff.mpr
  transitive _ _ _ := Std.TransCmp.isLE_trans
  antisymmetric _ _ hab hba :=
    compare_eq_iff.mpr (le_antisymm (le_eq_true_iff.mp hab) (le_eq_true_iff.mp hba))
  reversed _ _ := Std.OrientedCmp.eq_swap
  tied _ _ := compare_eq_iff
  order _ _ := le_eq_true_iff.symm
  enabledAbove _ _ := compare_enabled

end Score

variable {α : Type}

theorem places_distinct {xs : List α} {placed : List (α × Nat)} (h : placed.Perm xs.zipIdx) :
    placed.Pairwise fun x y => x.2 ≠ y.2 := by
  have hsnd : (placed.map Prod.snd).Perm (List.range' 0 xs.length) := by
    rw [← List.zipIdx_map_snd]
    exact h.map Prod.snd
  exact List.pairwise_map.mp (hsnd.nodup_iff.mpr List.nodup_range')

/-- Ranked together with their places, members that tie have ascending places. -/
theorem exists_placed (score : α → Score) (xs : List α) :
    ∃ placed : List (α × Nat), placed.Perm xs.zipIdx ∧ placed.map Prod.fst = rankBy score xs ∧
      placed.Pairwise fun x y => score x.1 = score y.1 → x.2 < y.2 := by
  let le : α → α → Bool := fun x y => (score y).le (score x)
  let placed := xs.zipIdx.mergeSort (List.zipIdxLE le)
  have hperm : placed.Perm xs.zipIdx := List.mergeSort_perm _ _
  have hsorted : placed.Pairwise fun x y => List.zipIdxLE le x y :=
    List.pairwise_mergeSort (List.zipIdxLE_trans (descending_transitive score))
      (List.zipIdxLE_total (descending_total score)) _
  refine ⟨placed, hperm, List.mergeSort_zipIdx, ?_⟩
  refine (hsorted.and (places_distinct hperm)).imp ?_
  rintro ⟨x, i⟩ ⟨y, j⟩ ⟨hle, hne⟩ htie
  have hxy : le x y = true := Score.le_eq_true_iff.mpr (le_of_eq htie.symm)
  have hyx : le y x = true := Score.le_eq_true_iff.mpr (le_of_eq htie)
  have hij : i ≤ j := by simpa [List.zipIdxLE, hxy, hyx] using hle
  exact lt_of_le_of_ne hij hne

/-- The list ranks the copies: each as often as it occurs, by descending score, and copies that tie
in the order in which they came. -/
structure StablyRanked (entries ranked : List Entry) : Prop where
  perm : ranked.Perm entries
  descending : ranked.Pairwise fun x y => (y.score.compare x.score).isLE
  stable : ∃ placed : List (Entry × Nat), placed.Perm entries.zipIdx ∧
    placed.map Prod.fst = ranked ∧
    placed.Pairwise fun x y => x.1.score = y.1.score → x.2 < y.2
  enabledFirst : ranked.Pairwise fun x y => y.isEnabled = true → x.isEnabled = true
  head : entries ≠ [] → ∃ before top after, entries = before ++ top :: after ∧
    FirstGreatest Entry.score before top after ∧ ranked.head? = some top

theorem rank_stablyRanked (entries : List Entry) : StablyRanked entries (rank entries) where
  perm := rankBy_perm Entry.score entries
  descending := (rankBy_descending Entry.score entries).imp Score.le_eq_true_iff.mpr
  stable := exists_placed Entry.score entries
  enabledFirst := (rankBy_descending Entry.score entries).imp Entry.isEnabled_of_score_le
  head hne := by
    obtain ⟨before, top, after, rfl, hg⟩ := exists_firstGreatest Entry.score hne
    exact ⟨before, top, after, rfl, hg, head?_rankBy hg⟩

/-- Ranking is the stable descending sort of a total order. -/
theorem ranking_is_stable_sort :
    Score.TotallyOrdered ∧ ∀ entries : List Entry, StablyRanked entries (rank entries) :=
  ⟨Score.totallyOrdered, rank_stablyRanked⟩

end FleetDrift
