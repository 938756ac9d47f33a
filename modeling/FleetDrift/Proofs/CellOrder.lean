import FleetDrift.Panel.Cell
import Mathlib.Tactic.SplitIfs

/-! # The order of cells
Within a sorted column any two cells can be compared, and the order is transitive. It is not
antisymmetric, as a whole number and a float can be one number, but it tells whole numbers apart. -/
namespace FleetDrift.Panel

theorem bytesLe_cons {b c : UInt8} {s t : List UInt8} :
    bytesLe (b :: s) (c :: t) = true ↔ b < c ∨ b = c ∧ bytesLe s t = true := by
  simp [bytesLe]

theorem bytesLe_total (s t : List UInt8) : bytesLe s t = true ∨ bytesLe t s = true := by
  induction s generalizing t with
  | nil => exact .inl rfl
  | cons b s ih =>
    cases t with
    | nil => exact .inr rfl
    | cons c t =>
      have hbytes : b < c ∨ b = c ∨ c < b := by grind
      rw [bytesLe_cons, bytesLe_cons]
      rcases hbytes with hlt | rfl | hgt
      · exact .inl (.inl hlt)
      · exact (ih t).imp (fun h => .inr ⟨rfl, h⟩) fun h => .inr ⟨rfl, h⟩
      · exact .inr (.inl hgt)

theorem bytesLe_trans {s t u : List UInt8} (h : bytesLe s t = true) (k : bytesLe t u = true) :
    bytesLe s u = true := by
  induction s generalizing t u with
  | nil => rfl
  | cons b s ih =>
    rcases t with _ | ⟨c, t⟩
    · cases h
    · rcases u with _ | ⟨d, u⟩
      · cases k
      · rw [bytesLe_cons] at *
        rcases h with hbc | ⟨rfl, hst⟩
        · rcases k with hcd | ⟨rfl, -⟩
          · exact .inl (UInt8.lt_trans hbc hcd)
          · exact .inl hbc
        · rcases k with hbd | ⟨rfl, htu⟩
          · exact .inl hbd
          · exact .inr ⟨rfl, ih hst htu⟩

namespace Cell

variable {a b c : Cell}

/-- Kinds come before values, and within a kind numbers are compared as such and all else by its
bytes. -/
theorem le_iff : a.le b = true ↔ a.rank < b.rank ∨ a.rank = b.rank ∧
    if a.rank ≤ 1 then a.units ≤ b.units else bytesLe a.bytes b.bytes = true := by
  rw [le]
  by_cases hr : a.rank = b.rank
  · rw [if_pos hr]
    split_ifs with hn
    · simp [hr]
    · simp [hr]
  · rw [if_neg hr, decide_eq_true_eq]
    omega

theorem le_total (a b : Cell) : a.le b = true ∨ b.le a = true := by
  simp only [le_iff]
  rcases Nat.lt_trichotomy a.rank b.rank with hlt | heq | hgt
  · exact .inl (.inl hlt)
  · rw [heq]
    split_ifs
    · exact (Int.le_total a.units b.units).imp (fun h => .inr ⟨rfl, h⟩) fun h => .inr ⟨rfl, h⟩
    · exact (bytesLe_total a.bytes b.bytes).imp (fun h => .inr ⟨rfl, h⟩) fun h => .inr ⟨rfl, h⟩
  · exact .inr (.inl hgt)

theorem le_trans (h : a.le b = true) (k : b.le c = true) : a.le c = true := by
  rw [le_iff] at *
  rcases h with hab | ⟨hab, h⟩
  · rcases k with hbc | ⟨hbc, -⟩
    · exact .inl (Nat.lt_trans hab hbc)
    · exact .inl (hbc ▸ hab)
  · rw [hab] at h ⊢
    rcases k with hbc | ⟨hbc, k⟩
    · exact .inl hbc
    · refine .inr ⟨hbc, ?_⟩
      split_ifs at h k ⊢
      · exact Int.le_trans h k
      · exact bytesLe_trans h k

theorem integer_le_integer_iff {m n : Int64} :
    (integer m).le (integer n) = true ↔ m ≤ n := by
  have hpos : 0 < Number.Binary64.unitsPerOne := by decide +kernel
  rw [le_iff, Int64.le_iff_toInt_le]
  simp only [rank, units, Nat.lt_irrefl, false_or, Nat.le_refl, if_true, true_and]
  exact Int.mul_le_mul_right (Int.natCast_pos.mpr hpos)

end Cell

end FleetDrift.Panel
