import FleetDrift.Comparison
import Mathlib.Data.List.Forall2

/-!
# Lists that correspond

Two lists whose members correspond one by one still do so after they were searched, sorted, cleared
of repetitions or grouped, as long as corresponding members have the same keys.
-/

namespace FleetDrift

variable {α β κ : Type} {R : α → β → Prop} {xs : List α} {ys : List β}

theorem exists_pairs (h : List.Forall₂ R xs ys) :
    ∃ ps : List (α × β), (∀ p ∈ ps, R p.1 p.2) ∧ ps.map Prod.fst = xs ∧ ps.map Prod.snd = ys := by
  induction h with
  | nil => exact ⟨[], List.forall_mem_nil _, rfl, rfl⟩
  | @cons x y xs ys hxy _ ih =>
    obtain ⟨ps, hps, rfl, rfl⟩ := ih
    exact ⟨(x, y) :: ps, List.forall_mem_cons.mpr ⟨hxy, hps⟩, rfl, rfl⟩

theorem rel_mergeSort {r : α → α → Bool} {r' : β → β → Bool} (h : List.Forall₂ R xs ys)
    (hr : ∀ {a a' b b'}, R a b → R a' b' → r a a' = r' b b') :
    List.Forall₂ R (xs.mergeSort r) (ys.mergeSort r') := by
  obtain ⟨ps, hps, rfl, rfl⟩ := exists_pairs h
  -- both sides are the pairs in the order of their first parts
  let le : α × β → α × β → Bool := fun p q => r p.1 q.1
  have hfst : (ps.mergeSort le).map Prod.fst = (ps.map Prod.fst).mergeSort r :=
    List.map_mergeSort fun _ _ _ _ => rfl
  have hsnd : (ps.mergeSort le).map Prod.snd = (ps.map Prod.snd).mergeSort r' :=
    List.map_mergeSort fun p hp q hq => hr (hps p hp) (hps q hq)
  rw [← hfst, ← hsnd, List.forall₂_map_left_iff, List.forall₂_map_right_iff, List.forall₂_same]
  exact fun p hp => hps p ((List.mergeSort_perm ps le).mem_iff.mp hp)

theorem rel_find? {p : α → Bool} {q : β → Bool} (h : List.Forall₂ R xs ys)
    (hpq : ∀ {a b}, R a b → p a = q b) : Option.Rel R (xs.find? p) (ys.find? q) := by
  induction h with
  | nil => exact .none
  | @cons x y xs ys hxy _ ih =>
    rw [List.find?_cons, List.find?_cons, hpq hxy]
    cases q y with
    | true => exact .some hxy
    | false => exact ih

theorem rel_filter {p : α → Bool} {q : β → Bool} (h : List.Forall₂ R xs ys)
    (hpq : ∀ {a b}, R a b → p a = q b) : List.Forall₂ R (xs.filter p) (ys.filter q) :=
  List.rel_filter (fun _ _ hab => Bool.eq_iff_iff.mp (hpq hab)) h

theorem countP_eq_countP_of_rel {p : α → Bool} {q : β → Bool} (h : List.Forall₂ R xs ys)
    (hpq : ∀ {a b}, R a b → p a = q b) : xs.countP p = ys.countP q := by
  rw [List.countP_eq_length_filter, List.countP_eq_length_filter, (rel_filter h hpq).length_eq]

theorem isEmpty_eq_isEmpty_of_rel (h : List.Forall₂ R xs ys) : xs.isEmpty = ys.isEmpty := by
  cases h with
  | nil => rfl
  | cons _ _ => rfl

theorem any_eq_any_of_rel {p : α → Bool} {q : β → Bool} (h : List.Forall₂ R xs ys)
    (hpq : ∀ {a b}, R a b → p a = q b) : xs.any p = ys.any q := by
  induction h with
  | nil => rfl
  | cons hxy _ ih => rw [List.any_cons, List.any_cons, hpq hxy, ih]

theorem rel_zipIdx (h : List.Forall₂ R xs ys) (start : Nat) :
    List.Forall₂ (fun p q => R p.1 q.1 ∧ p.2 = q.2) (xs.zipIdx start) (ys.zipIdx start) := by
  induction h generalizing start with
  | nil => exact .nil
  | cons hxy _ ih => exact .cons ⟨hxy, rfl⟩ (ih (start + 1))

theorem map_eq_map_of_rel {γ : Type} {f : α → γ} {g : β → γ} (h : List.Forall₂ R xs ys)
    (hfg : ∀ {a b}, R a b → f a = g b) : xs.map f = ys.map g := by
  rw [← List.forall₂_eq_eq_eq, List.forall₂_map_left_iff, List.forall₂_map_right_iff]
  exact h.imp fun _ _ => hfg

theorem mapM_eq_ok_iff {ε : Type} {f : α → Except ε β} :
    xs.mapM f = .ok ys ↔ List.Forall₂ (fun x y => f x = .ok y) xs ys := by
  induction xs generalizing ys with
  | nil => cases ys <;> simp [pure, Except.pure]
  | cons x xs ih =>
    rw [List.mapM_cons]
    cases hx : f x with
    | error fault => cases ys <;> simp [bind, Except.bind, hx]
    | ok y =>
      cases hxs : xs.mapM f with
      | error fault => cases ys <;> simp [bind, Except.bind, hx, hxs, ← ih]
      | ok rest =>
        cases ys <;> simp [bind, Except.bind, pure, Except.pure, hx, hxs, ← ih]

/-- Where all that can go wrong is one fault, it is the fault of the whole list. -/
theorem mapM_eq_if_all {ε : Type} {f : α → Except ε β} {p : α → Bool} {g : α → β} {fault : ε}
    (h : ∀ x ∈ xs, f x = if p x then .ok (g x) else .error fault) :
    xs.mapM f = if xs.all p then .ok (xs.map g) else .error fault := by
  induction xs with
  | nil => rfl
  | cons x xs ih =>
    rw [List.forall_mem_cons] at h
    rw [List.mapM_cons, h.1, ih h.2, List.all_cons]
    cases p x with
    | true => cases xs.all p <;> rfl
    | false => rfl

/-- One member is replaced: what it gives now decides on the whole list, and only its own result is
another. -/
theorem mapM_modify {δ ε : Type} {f : α → Except ε β} {g : α → α} {d : Except ε δ}
    {h : δ → β → β} {i : Nat} (hxs : xs.mapM f = .ok ys) (hi : i < xs.length)
    (hg : ∀ x y, f x = .ok y → f (g x) = d.map (h · y)) :
    (xs.modify i g).mapM f = d.map fun v => ys.modify i (h v) := by
  rw [mapM_eq_ok_iff] at hxs
  induction hxs generalizing i with
  | nil => cases hi
  | @cons x y xs ys hx hxs ih =>
    rw [← mapM_eq_ok_iff] at hxs
    cases i with
    | zero =>
      rw [List.modify_zero_cons, List.mapM_cons, hg x y hx, hxs]
      cases d <;> rfl
    | succ i =>
      rw [List.modify_succ_cons, List.mapM_cons, hx, ih (Nat.lt_of_succ_lt_succ hi)]
      cases d <;> rfl

variable [DecidableEq κ]

theorem rel_firstByKey {key : α → κ} {key' : β → κ} (h : List.Forall₂ R xs ys)
    (hkey : ∀ {a b}, R a b → key a = key' b) :
    List.Forall₂ R (firstByKey key xs) (firstByKey key' ys) := by
  induction h with
  | nil => exact .nil
  | cons hxy _ ih =>
    refine .cons hxy (rel_filter ih fun hab => ?_)
    rw [hkey hab, hkey hxy]

def ClassesMatch (R : α → β → Prop) (c : κ × List α) (d : κ × List β) : Prop :=
  c.1 = d.1 ∧ List.Forall₂ R c.2 d.2

theorem rel_gather {ps : List (κ × α)} {qs : List (κ × β)}
    (h : List.Forall₂ (fun p q => p.1 = q.1 ∧ R p.2 q.2) ps qs) :
    List.Forall₂ (ClassesMatch R) (gather ps) (gather qs) := by
  have hkeys : ps.map (·.1) = qs.map (·.1) := map_eq_map_of_rel h fun hpq => hpq.1
  rw [gather, gather, hkeys, List.forall₂_map_left_iff, List.forall₂_map_right_iff,
    List.forall₂_same]
  refine fun k _ => ⟨rfl, List.rel_filterMap (fun p q hpq => ?_) h⟩
  rw [hpq.1]
  split_ifs
  · exact .some hpq.2
  · exact .none

theorem rel_classesByKey {key : α → κ} {key' : β → κ} (h : List.Forall₂ R xs ys)
    (hkey : ∀ {a b}, R a b → key a = key' b) :
    List.Forall₂ (ClassesMatch R) (classesByKey key xs) (classesByKey key' ys) :=
  rel_gather (List.rel_map (fun _ _ hab => ⟨hkey hab, hab⟩) h)

theorem rel_classesByKey? {key : α → Option κ} {key' : β → Option κ} (h : List.Forall₂ R xs ys)
    (hkey : ∀ {a b}, R a b → key a = key' b) :
    List.Forall₂ (ClassesMatch R) (classesByKey? key xs) (classesByKey? key' ys) := by
  refine rel_gather (List.rel_filterMap (fun a b hab => ?_) h)
  rw [hkey hab]
  cases key' b with
  | none => exact .none
  | some k => exact .some ⟨rfl, hab⟩

theorem rel_identityGroups {entry : α → Entry} {entry' : β → Entry} (h : List.Forall₂ R xs ys)
    (hkey : ∀ {a b}, R a b → (entry a).identity? = (entry' b).identity?) :
    List.Forall₂ (fun g g' => g.identity = g'.identity ∧ List.Forall₂ R g.members g'.members)
      (identityGroups entry xs) (identityGroups entry' ys) := by
  rw [identityGroups, identityGroups, List.forall₂_map_left_iff, List.forall₂_map_right_iff]
  exact rel_classesByKey? h hkey

theorem rel_protocolGroups {entry : α → Entry} {entry' : β → Entry} (h : List.Forall₂ R xs ys)
    (hkey : ∀ {a b}, R a b → (entry a).normalizedProtocol = (entry' b).normalizedProtocol) :
    List.Forall₂ (fun g g' => g.protocol = g'.protocol ∧ List.Forall₂ R g.members g'.members)
      (protocolGroups entry xs) (protocolGroups entry' ys) := by
  rw [protocolGroups, protocolGroups, List.forall₂_map_left_iff, List.forall₂_map_right_iff]
  refine rel_filter (rel_classesByKey h hkey) fun {c d} hc => ?_
  have hlength : c.2.length = d.2.length := hc.2.length_eq
  simp only [hlength]

theorem rel_compareCopies {S : FieldDiff → FieldDiff → Prop} {cs ds : List Entry}
    (hdiff : ∀ field, S ⟨field, distinctValues field cs⟩ ⟨field, distinctValues field ds⟩)
    (hlength : ∀ {x y}, S x y → x.values.length = y.values.length) (protocol : String)
    (kind : IdentityKind) :
    List.Forall₂ S (compareCopies protocol kind cs).fieldDiffs
      (compareCopies protocol kind ds).fieldDiffs := by
  rw [compareCopies, compareCopies]
  generalize comparableFields (.ofProtocol protocol) kind = fields
  have hdiffs : List.Forall₂ S (fields.map fun field => ⟨field, distinctValues field cs⟩)
      (fields.map fun field => ⟨field, distinctValues field ds⟩) := by
    rw [List.forall₂_map_left_iff, List.forall₂_map_right_iff, List.forall₂_same]
    exact fun field _ => hdiff field
  exact rel_filter hdiffs fun hxy => by rw [hlength hxy]

namespace Comparison

variable {c d : Comparison}

theorem hasConflict_congr (h : c.diffFields = d.diffFields) : c.hasConflict = d.hasConflict := by
  have hempty := congrArg List.isEmpty h
  rw [diffFields, diffFields, List.isEmpty_map, List.isEmpty_map] at hempty
  rw [hasConflict, hasConflict, hempty]

theorem conflictTypes_congr (h : c.diffFields = d.diffFields) :
    c.conflictTypes = d.conflictTypes := by
  rw [conflictTypes, conflictTypes, h]

theorem hasCredentialConflict_congr (h : c.diffFields = d.diffFields) :
    c.hasCredentialConflict = d.hasCredentialConflict := by
  rw [hasCredentialConflict, hasCredentialConflict, conflictTypes_congr h]

end Comparison

end FleetDrift
