import FleetDrift.Score
import Mathlib.Data.Bool.Basic
import Mathlib.Data.Int.Order.Basic
import Mathlib.Data.List.Basic
import Mathlib.Data.Prod.Lex

/-! # The order of scores and the stability of ranking
Scores are ordered linearly, by the flag and then by the position of the magnitude. Ranking is the
stable descending sort: equal scores keep their order, so the best is the first of the greatest. -/
namespace FleetDrift

open Number (Binary64)

theorem Number.Binary64.position_injective : Function.Injective Binary64.position := by
  rintro ⟨s, m, hm⟩ ⟨t, n, hn⟩ h
  simp only [position] at h
  cases s <;> cases t <;> simp only [Bool.false_eq_true, if_true, if_false] at h <;>
    simp only [Binary64.mk.injEq, reduceCtorEq, true_and, false_and] <;> omega

namespace Score

def key (s : Score) : Bool ×ₗ Int := toLex (s.enabled, s.magnitude.position)

theorem key_injective : Function.Injective key := by
  rintro ⟨a, x⟩ ⟨b, y⟩ h
  obtain ⟨hf, hp⟩ := Prod.mk.inj (toLex_inj.mp h)
  exact congr (congrArg Score.mk hf) (Binary64.position_injective hp)

instance : LinearOrder Score := LinearOrder.lift' key key_injective

theorem le_def {a b : Score} : a ≤ b ↔ a.enabled < b.enabled ∨
    a.enabled = b.enabled ∧ a.magnitude.position ≤ b.magnitude.position :=
  Prod.Lex.toLex_le_toLex

theorem le_eq_true_iff {a b : Score} : a.le b = true ↔ a ≤ b := by
  rw [le_def, ← Std.isLE_compare (a := a.magnitude.position), le, compare]
  cases a.enabled <;> cases b.enabled <;> simp [Ord.compare]

end Score

theorem Entry.isEnabled_of_score_le {a b : Entry} (h : a.score ≤ b.score)
    (ha : a.isEnabled = true) : b.isEnabled = true := by
  have hflag : a.isEnabled < b.isEnabled ∨ a.isEnabled = b.isEnabled :=
    (Score.le_def.mp h).imp_right And.left
  rw [ha] at hflag
  rcases hflag with hlt | heq
  · exact absurd hlt (not_lt.mpr (Bool.le_true _))
  · exact heq.symm

variable {α : Type} {score : α → Score}

section StableSorting

variable {le : α → α → Bool} (trans : ∀ x y z, le x y → le y z → le x z)
  (total : ∀ x y, (le x y || le y x) = true)

include trans total

/-- Members that tie keep their order. -/
theorem filter_mergeSort {p : α → Bool} {xs : List α}
    (tied : ∀ x ∈ xs, ∀ y ∈ xs, p x → p y → le x y) :
    (xs.mergeSort le).filter p = xs.filter p := by
  have hsorted : (xs.filter p).Pairwise fun x y => le x y := by
    refine List.pairwise_of_forall_mem_list fun x hx y hy => ?_
    obtain ⟨hmx, hpx⟩ := List.mem_filter.mp hx
    obtain ⟨hmy, hpy⟩ := List.mem_filter.mp hy
    exact tied x hmx y hmy hpx hpy
  have hsub := (List.sublist_mergeSort trans total hsorted List.filter_sublist).filter p
  simp only [List.filter_filter, Bool.and_self] at hsub
  exact (hsub.eq_of_length ((List.mergeSort_perm xs le).filter _).length_eq.symm).symm

/-- Of two members that tie, the one that comes first in the sorted list came first before. -/
theorem sublist_of_sublist_mergeSort {xs : List α} {x y : α}
    (h : [x, y].Sublist (xs.mergeSort le)) : le x y ∧ (le y x → [x, y].Sublist xs) := by
  have hxy := List.pairwise_iff_forall_sublist.mp (List.pairwise_mergeSort trans total xs) h
  refine ⟨hxy, fun hyx => ?_⟩
  have hxx := trans x y x hxy hyx
  let tie : α → Bool := fun z => le x z && le z x
  have htied : ∀ z ∈ xs, ∀ w ∈ xs, tie z → tie w → le z w := by
    intro z _ w _ hz hw
    rw [Bool.and_eq_true] at hz hw
    exact trans z x w hz.2 hw.1
  have hpair : [x, y].filter tie = [x, y] := by simp [tie, hxx, hxy, hyx]
  have hsub := h.filter tie
  rw [hpair, filter_mergeSort trans total htied] at hsub
  exact hsub.trans List.filter_sublist

end StableSorting

theorem descending_transitive (score : α → Score) (x y z : α)
    (h : (score y).le (score x)) (k : (score z).le (score y)) : (score z).le (score x) := by
  rw [Score.le_eq_true_iff] at *
  exact k.trans h

theorem descending_total (score : α → Score) (x y : α) :
    ((score y).le (score x) || (score x).le (score y)) = true := by
  rw [Bool.or_eq_true, Score.le_eq_true_iff, Score.le_eq_true_iff]
  exact le_total _ _

theorem rankBy_perm (score : α → Score) (xs : List α) : (rankBy score xs).Perm xs :=
  List.mergeSort_perm _ _

theorem rankBy_descending (score : α → Score) (xs : List α) :
    (rankBy score xs).Pairwise fun x y => score y ≤ score x := by
  have h := List.pairwise_mergeSort (descending_transitive score) (descending_total score) xs
  exact h.imp Score.le_eq_true_iff.mp

theorem exists_head?_rankBy (score : α → Score) {xs : List α} (h : xs ≠ []) :
    ∃ top, (rankBy score xs).head? = some top := by
  cases hr : rankBy score xs with
  | nil => exact absurd (List.nil_perm.mp (hr ▸ rankBy_perm score xs)) h
  | cons top rest => exact ⟨top, rfl⟩

theorem mem_of_head?_rankBy {xs : List α} {top : α} (h : (rankBy score xs).head? = some top) :
    top ∈ xs :=
  (rankBy_perm score xs).subset (List.mem_of_head? h)

theorem le_of_head?_rankBy {xs : List α} {top x : α} (h : (rankBy score xs).head? = some top)
    (hx : x ∈ xs) : score x ≤ score top := by
  have hmem := (rankBy_perm score xs).symm.subset hx
  have hdesc := rankBy_descending score xs
  obtain ⟨rest, hr⟩ := List.head?_eq_some_iff.mp h
  rw [hr] at hmem hdesc
  rcases List.mem_cons.mp hmem with rfl | hrest
  · exact le_rfl
  · exact List.rel_of_pairwise_cons hdesc hrest

/-- Members of one score keep their order. -/
theorem rankBy_filter (score : α → Score) (xs : List α) (s : Score) :
    (rankBy score xs).filter (score · = s) = xs.filter (score · = s) := by
  refine filter_mergeSort (descending_transitive score) (descending_total score) ?_
  intro x _ y _ hx hy
  rw [decide_eq_true_eq] at hx hy
  rw [Score.le_eq_true_iff, hx, hy]

structure FirstGreatest (score : α → Score) (before : List α) (top : α) (after : List α) :
    Prop where
  above : ∀ x ∈ before, score x < score top
  atLeast : ∀ x ∈ after, score x ≤ score top

theorem exists_firstGreatest (score : α → Score) {xs : List α} (h : xs ≠ []) :
    ∃ before top after, xs = before ++ top :: after ∧ FirstGreatest score before top after := by
  induction xs with
  | nil => exact absurd rfl h
  | cons a xs ih =>
    by_cases hx : xs = []
    · subst hx
      exact ⟨[], a, [], rfl, by simp, by simp⟩
    · obtain ⟨before, top, after, rfl, hg⟩ := ih hx
      rcases le_or_gt (score top) (score a) with hle | hlt
      · refine ⟨[], a, _, rfl, by simp, fun x hm => ?_⟩
        rcases List.mem_append.mp hm with hm | hm
        · exact (hg.above x hm).le.trans hle
        · rcases List.mem_cons.mp hm with rfl | hm
          · exact hle
          · exact (hg.atLeast x hm).trans hle
      · refine ⟨a :: before, top, after, rfl, fun x hm => ?_, hg.atLeast⟩
        rcases List.mem_cons.mp hm with rfl | hm
        · exact hlt
        · exact hg.above x hm

theorem FirstGreatest.le {before after : List α} {top x : α}
    (hg : FirstGreatest score before top after) (hx : x ∈ before ++ top :: after) :
    score x ≤ score top := by
  rcases List.mem_append.mp hx with hx | hx
  · exact (hg.above x hx).le
  · rcases List.mem_cons.mp hx with rfl | hx
    · exact le_rfl
    · exact hg.atLeast x hx

theorem head?_rankBy {before after : List α} {top : α}
    (hg : FirstGreatest score before top after) :
    (rankBy score (before ++ top :: after)).head? = some top := by
  have hfil := rankBy_filter score (before ++ top :: after) (score top)
  obtain ⟨head, hhead⟩ := exists_head?_rankBy score (List.append_ne_nil_of_right_ne_nil before
    (List.cons_ne_nil top after))
  have hle : score head ≤ score top := hg.le (mem_of_head?_rankBy hhead)
  have hge : score top ≤ score head := le_of_head?_rankBy hhead (by simp)
  -- of the members that tie with the top, sorting keeps the top first
  have htied : score head = score top := le_antisymm hle hge
  have hnone : before.filter (score · = score top) = [] := by
    simp only [List.filter_eq_nil_iff, decide_eq_true_eq]
    exact fun x hx => (hg.above x hx).ne
  obtain ⟨rest, hr⟩ := List.head?_eq_some_iff.mp hhead
  rw [hr, List.filter_append, hnone, List.nil_append, List.filter_cons_of_pos (by simp [htied]),
    List.filter_cons_of_pos (by simp)] at hfil
  rw [hhead, (List.cons.inj hfil).1]

end FleetDrift
