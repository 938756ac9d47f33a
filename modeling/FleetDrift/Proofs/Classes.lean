import FleetDrift.Grouping
import Mathlib.Algebra.BigOperators.Group.List.Lemmas
import Mathlib.Algebra.GroupWithZero.Nat
import Mathlib.Data.List.Nodup

/-! # Classes of equal keys
A class is a filter of the list it comes from, and no key has two classes.
The order of the classes is the order of their first members. -/
namespace FleetDrift

variable {α κ : Type} [DecidableEq κ]

omit [DecidableEq κ] in
theorem two_le_length_of_ne {xs : List α} {x y : α} (hx : x ∈ xs) (hy : y ∈ xs) (h : x ≠ y) :
    2 ≤ xs.length := by
  rcases xs with _ | ⟨a, _ | ⟨b, rest⟩⟩
  · cases hx
  · rw [List.mem_singleton] at hx hy
    exact absurd (hx.trans hy.symm) h
  · simp

omit [DecidableEq κ] in
theorem eq_singleton_of_keys_nodup {key : α → κ} {xs : List α} {x : α}
    (hn : (xs.map key).Nodup) (hx : x ∈ xs) (h : ∀ y ∈ xs, key y = key x) : xs = [x] := by
  rcases xs with _ | ⟨a, _ | ⟨b, rest⟩⟩
  · cases hx
  · rw [List.mem_singleton.mp hx]
  · have hab : key a = key b := (h a (by simp)).trans (h b (by simp)).symm
    simp [hab] at hn

theorem firstByKey_sublist (key : α → κ) (xs : List α) :
    (firstByKey key xs).Sublist xs := by
  induction xs with
  | nil => exact .slnil
  | cons x xs ih => exact (List.filter_sublist.trans ih).cons_cons x

theorem key_mem_firstByKey (key : α → κ) {xs : List α} {x : α} (h : x ∈ xs) :
    ∃ y ∈ firstByKey key xs, key y = key x := by
  induction xs with
  | nil => cases h
  | cons a xs ih =>
    by_cases he : key x = key a
    · exact ⟨a, List.mem_cons_self, he.symm⟩
    · have hx : x ∈ xs := by
        rcases List.mem_cons.mp h with rfl | h
        · exact absurd rfl he
        · exact h
      obtain ⟨y, hy, hk⟩ := ih hx
      refine ⟨y, List.mem_cons_of_mem a (List.mem_filter.mpr ⟨hy, ?_⟩), hk⟩
      simpa [hk] using he

theorem firstByKey_keys_nodup (key : α → κ) (xs : List α) :
    ((firstByKey key xs).map key).Nodup := by
  induction xs with
  | nil => exact List.nodup_nil
  | cons x xs ih =>
    simp only [firstByKey, List.map_cons, List.nodup_cons]
    constructor
    · intro h
      obtain ⟨y, hy, hk⟩ := List.mem_map.mp h
      simp [hk] at hy
    · exact (List.filter_sublist.map key).nodup ih

/-- What is kept of a key is its first occurrence. -/
theorem find?_of_mem_firstByKey (key : α → κ) {xs : List α} {x : α} (h : x ∈ firstByKey key xs) :
    xs.find? (key · = key x) = some x := by
  induction xs with
  | nil => cases h
  | cons a xs ih =>
    rw [firstByKey, List.mem_cons, List.mem_filter, decide_eq_true_eq] at h
    rcases h with rfl | ⟨hx, hne⟩
    · exact List.find?_cons_of_pos (decide_eq_true rfl)
    · rw [List.find?_cons_of_neg (by simpa using Ne.symm hne), ih hx]

/-- There are two values exactly when two members differ. -/
theorem one_lt_length_firstByKey (key : α → κ) (xs : List α) :
    1 < (firstByKey key xs).length ↔ ∃ x ∈ xs, ∃ y ∈ xs, key x ≠ key y := by
  constructor
  · intro h
    have hn := firstByKey_keys_nodup key xs
    have hs := (firstByKey_sublist key xs).subset
    rcases hf : firstByKey key xs with _ | ⟨a, _ | ⟨b, rest⟩⟩ <;> rw [hf] at h hn hs
    · simp at h
    · simp at h
    · refine ⟨a, hs (by simp), b, hs (by simp), fun he => ?_⟩
      simp [he] at hn
  · rintro ⟨x, hx, y, hy, hne⟩
    obtain ⟨a, ha, hax⟩ := key_mem_firstByKey key hx
    obtain ⟨b, hb, hby⟩ := key_mem_firstByKey key hy
    by_contra hl
    rcases hf : firstByKey key xs with _ | ⟨c, _ | ⟨d, rest⟩⟩
    · simp [hf] at ha
    · rw [hf, List.mem_singleton] at ha hb
      exact hne (by rw [← hax, ← hby, ha, hb])
    · simp [hf] at hl

theorem mem_firstByKey_keys {key : α → κ} {xs : List α} {k : κ} :
    k ∈ (firstByKey key xs).map key ↔ k ∈ xs.map key := by
  simp only [List.mem_map]
  constructor
  · rintro ⟨x, hx, rfl⟩
    exact ⟨x, (firstByKey_sublist key xs).subset hx, rfl⟩
  · rintro ⟨x, hx, rfl⟩
    exact key_mem_firstByKey key hx

theorem mem_firstByKey_id {ks : List κ} {k : κ} : k ∈ firstByKey id ks ↔ k ∈ ks := by
  refine ⟨fun h => (firstByKey_sublist id ks).subset h, fun h => ?_⟩
  obtain ⟨y, hy, rfl⟩ := key_mem_firstByKey id h
  exact hy

/-- A partial map that keeps keys cannot bring any in or change their order. -/
theorem filterMap_keys_sublist {β γ : Type} {f : α → Option β} {before : α → γ} {after : β → γ}
    (h : ∀ x y, f x = some y → after y = before x) (xs : List α) :
    ((xs.filterMap f).map after).Sublist (xs.map before) := by
  induction xs with
  | nil => exact .slnil
  | cons x xs ih =>
    cases hx : f x with
    | none =>
      rw [List.filterMap_cons_none hx]
      exact ih.cons (before x)
    | some y =>
      rw [List.filterMap_cons_some hx, List.map_cons, h x y hx]
      exact ih.cons_cons (before x)

theorem gather_keys (pairs : List (κ × α)) :
    (gather pairs).map (·.1) = firstByKey id (pairs.map (·.1)) := by
  simp [gather, Function.comp_def]

theorem mem_gather {pairs : List (κ × α)} {k : κ} {ms : List α} :
    (k, ms) ∈ gather pairs ↔ k ∈ pairs.map (·.1) ∧
      ms = pairs.filterMap fun p => if p.1 = k then some p.2 else none := by
  simp only [gather, List.mem_map (f := fun k => (k, _)), Prod.mk.injEq, mem_firstByKey_id]
  constructor
  · rintro ⟨_, hk, rfl, rfl⟩
    exact ⟨hk, rfl⟩
  · rintro ⟨hk, rfl⟩
    exact ⟨k, hk, rfl, rfl⟩

theorem mem_classesByKey? {key : α → Option κ} {xs : List α} {k : κ} {ms : List α} :
    (k, ms) ∈ classesByKey? key xs ↔
      (∃ x ∈ xs, key x = some k) ∧ ms = xs.filter fun x => key x = some k := by
  have hkeys : k ∈ (xs.filterMap fun x => (key x).map fun k => (k, x)).map (·.1) ↔
      ∃ x ∈ xs, key x = some k := by
    simp [List.map_filterMap]
  have hclass : ((xs.filterMap fun x => (key x).map fun k => (k, x)).filterMap
      fun p => if p.1 = k then some p.2 else none) = xs.filter fun x => key x = some k := by
    rw [List.filterMap_filterMap, ← List.filterMap_eq_filter]
    congr 1
    funext x
    cases hx : key x <;> simp [Option.guard, hx]
  rw [classesByKey?, mem_gather, hkeys, hclass]

theorem classesByKey?_keys_nodup (key : α → Option κ) (xs : List α) :
    ((classesByKey? key xs).map (·.1)).Nodup := by
  rw [classesByKey?, gather_keys]
  simpa using firstByKey_keys_nodup id _

/-- Kept values stand in the order in which their keys first occur. -/
theorem firstByKey_pairwise_findIdx {β : Type} (value : α → Option β) (key : β → κ) (xs : List α) :
    (firstByKey key (xs.filterMap value)).Pairwise fun v w =>
      xs.findIdx (fun x => (value x).map key = some (key v)) <
        xs.findIdx (fun x => (value x).map key = some (key w)) := by
  induction xs with
  | nil => exact .nil
  | cons x xs ih =>
    cases hx : value x with
    | none =>
      rw [List.filterMap_cons_none hx]
      refine ih.imp fun {v w} hlt => ?_
      simp only [List.findIdx_cons, hx, Option.map_none, reduceCtorEq, decide_false, cond_false]
      omega
    | some u =>
      rw [List.filterMap_cons_some hx, firstByKey, List.pairwise_cons]
      constructor
      · intro w hw
        have hne : key u ≠ key w := by
          intro he
          simp [he] at hw
        simp only [List.findIdx_cons, hx, Option.map_some, Option.some.injEq, hne, decide_true,
          decide_false, cond_true, cond_false]
        omega
      · rw [List.pairwise_filter]
        refine ih.imp fun {v w} hlt hv hw => ?_
        have huv : key u ≠ key v := Ne.symm (of_decide_eq_true hv)
        have huw : key u ≠ key w := Ne.symm (of_decide_eq_true hw)
        simp only [List.findIdx_cons, hx, Option.map_some, Option.some.injEq, huv, huw,
          decide_false, cond_false]
        omega

theorem classesByKey?_pairwise_findIdx (key : α → Option κ) (xs : List α) :
    ((classesByKey? key xs).map (·.1)).Pairwise fun k l =>
      xs.findIdx (key · = some k) < xs.findIdx (key · = some l) := by
  have hkeys : (xs.filterMap fun x => (key x).map fun k => (k, x)).map (·.1) =
      xs.filterMap key := by
    simp [List.map_filterMap, Function.comp_def]
  rw [classesByKey?, gather_keys, hkeys]
  simpa using firstByKey_pairwise_findIdx key id xs

theorem firstByKey_perm_dedup (ks : List κ) : (firstByKey id ks).Perm ks.dedup := by
  have hn := firstByKey_keys_nodup id ks
  rw [List.map_id] at hn
  rw [List.perm_ext_iff_of_nodup hn ks.nodup_dedup]
  intro k
  rw [mem_firstByKey_id, List.mem_dedup]

/-- Every pair is in one class. -/
theorem sum_gather_lengths (pairs : List (κ × α)) :
    ((gather pairs).map fun c => c.2.length).sum = pairs.length := by
  have hlength : ∀ k, (pairs.filterMap fun p => if p.1 = k then some p.2 else none).length =
      (pairs.map (·.1)).count k := by
    intro k
    rw [List.length_filterMap_eq_countP, List.count_eq_countP, List.countP_map]
    refine List.countP_congr fun p _ => ?_
    by_cases hp : p.1 = k <;> simp [hp]
  simp only [gather, List.map_map, Function.comp_def, hlength]
  rw [((firstByKey_perm_dedup (pairs.map (·.1))).map _).sum_nat,
    List.sum_map_count_dedup_eq_length, List.length_map]

theorem sum_classesByKey?_lengths (key : α → Option κ) (xs : List α) :
    ((classesByKey? key xs).map fun c => c.2.length).sum = xs.countP fun x => (key x).isSome := by
  rw [classesByKey?, sum_gather_lengths, List.length_filterMap_eq_countP]
  simp

/-- A key that every member has is a special case of one that members may lack. -/
theorem classesByKey_eq (key : α → κ) (xs : List α) :
    classesByKey key xs = classesByKey? (fun x => some (key x)) xs := by
  simp [classesByKey, classesByKey?, List.filterMap_eq_map']

end FleetDrift
