import FleetDrift.Proofs.JsonText
import FleetDrift.Proofs.Planning
import FleetDrift.Snapshot
import Mathlib.Data.List.Forall2

/-!
# What a fingerprint is made of

The text that is hashed for a snapshot tells its entries, one by one and field by field. It leaves
out nothing but the sign of a zero among the three numbers of an entry.
-/

namespace FleetDrift

open Json (Value Closed)
open Number (Binary64)

namespace Number.Binary64

variable {x y : Binary64}

theorem isFinite_iff : x.isFinite = true ↔ x.magnitude < infinityMagnitude := decide_eq_true_iff

/-- Equal, or both zero. -/
theorem foldZero_eq_iff :
    x.foldZero = y.foldZero ↔ x = y ∨ x.magnitude = 0 ∧ y.magnitude = 0 := by
  rw [foldZero, foldZero]
  split_ifs with hx hy hy
  · simp [hx, hy]
  · constructor
    · rintro rfl
      exact absurd rfl hy
    · rintro (rfl | ⟨-, hy'⟩)
      · exact absurd hx hy
      · exact absurd hy' hy
  · constructor
    · rintro rfl
      exact absurd rfl hx
    · rintro (rfl | ⟨hx', -⟩)
      · exact absurd hy hx
      · exact absurd hx' hx
  · simp [hx]

theorem units_of_wholeInt64? {n : Int} (h : x.wholeInt64? = some n) :
    x.isFinite ∧ x.units = n.natAbs * unitsPerOne ∧ x.truncate = n := by
  rw [wholeInt64?] at h
  split_ifs at h with hwhole
  obtain ⟨hfinite, hmod⟩ := Bool.and_eq_true_iff.mp hwhole
  have hmod' : x.units % unitsPerOne = 0 := of_decide_eq_true hmod
  dsimp only at h
  split_ifs at h
  cases h
  refine ⟨hfinite, ?_, rfl⟩
  rw [natAbs_truncate, Nat.div_mul_cancel (Nat.dvd_of_mod_eq_zero hmod')]

theorem wholeInt64?_of_zero (h : x.magnitude = 0) : x.wholeInt64? = some 0 := by
  have hx : x = zero.withSign x.negative := by
    obtain ⟨negative, magnitude, hlt⟩ := x
    subst h
    rfl
  rw [hx]
  cases x.negative <;> decide +kernel

theorem negative_iff_of_truncate {n : Int} (h : x.truncate = n) (hn : n ≠ 0) :
    x.negative = true ↔ n < 0 := by
  simp only [truncate] at h
  generalize x.units / unitsPerOne = q at h
  cases hs : x.negative with
  | true =>
    rw [hs, if_pos rfl] at h
    simp only [true_iff]
    omega
  | false =>
    rw [hs, if_neg Bool.false_ne_true] at h
    simp only [Bool.false_eq_true, false_iff, not_lt]
    omega

/-- A number that is written whole is the whole number, but for the sign of a zero. -/
theorem ofInt_of_wholeInt64? {n : Int} (h : x.wholeInt64? = some n) :
    Binary64.ofInt n = x.foldZero := by
  obtain ⟨hfinite, hunits, htruncate⟩ := units_of_wholeInt64? h
  by_cases hz : x.magnitude = 0
  · rw [wholeInt64?_of_zero hz] at h
    cases h
    rw [foldZero, if_pos hz]
    decide +kernel
  · have hn : n ≠ 0 := by
      rintro rfl
      rw [Int.natAbs_zero, Nat.zero_mul] at hunits
      exact (unitsOf_pos hz).ne' hunits
    have hsign : decide (n < 0) = x.negative := by
      rw [Bool.eq_iff_iff, decide_eq_true_iff]
      exact (negative_iff_of_truncate htruncate hn).symm
    have hnearest := nearest_units hfinite Nat.one_pos
    rw [Nat.mul_one, hunits] at hnearest
    rw [ofInt, hsign, hnearest, foldZero, if_neg hz]

theorem ofBinary64_eq_iff : Value.ofBinary64 x = Value.ofBinary64 y ↔ x.foldZero = y.foldZero := by
  constructor
  · intro h
    rw [Value.ofBinary64, Value.ofBinary64] at h
    cases hx : x.wholeInt64? with
    | none =>
      rw [hx] at h
      cases hy : y.wholeInt64? with
      | none =>
        rw [hy] at h
        cases h
        rfl
      | some n =>
        rw [hy] at h
        cases h
    | some m =>
      rw [hx] at h
      cases hy : y.wholeInt64? with
      | none =>
        rw [hy] at h
        cases h
      | some n =>
        rw [hy] at h
        cases h
        rw [← ofInt_of_wholeInt64? hx, ← ofInt_of_wholeInt64? hy]
  · intro h
    rcases foldZero_eq_iff.mp h with rfl | ⟨hx, hy⟩
    · rfl
    · rw [Value.ofBinary64, Value.ofBinary64, wholeInt64?_of_zero hx, wholeInt64?_of_zero hy]

end Number.Binary64

namespace Entry

/-- Equal field by field, where the two zeros of the three numbers are one. The value of `tgId` is
compared as it is written. -/
structure Same (e f : Entry) : Prop where
  serverId : e.serverId = f.serverId
  serverName : e.serverName = f.serverName
  inboundId : e.inboundId = f.inboundId
  inboundRemark : e.inboundRemark = f.inboundRemark
  protocol : e.protocol = f.protocol
  email : e.email = f.email
  id : e.id = f.id
  password : e.password = f.password
  expiryTime : e.expiryTime.foldZero = f.expiryTime.foldZero
  totalGB : e.totalGB.foldZero = f.totalGB.foldZero
  enable : e.enable = f.enable
  limitIp : e.limitIp.foldZero = f.limitIp.foldZero
  flow : e.flow = f.flow
  subId : e.subId = f.subId
  tgId : e.tgId = f.tgId

theorem Same.refl (e : Entry) : e.Same e :=
  ⟨rfl, rfl, rfl, rfl, rfl, rfl, rfl, rfl, rfl, rfl, rfl, rfl, rfl, rfl, rfl⟩

structure Finite (e : Entry) : Prop where
  expiryTime : e.expiryTime.isFinite
  totalGB : e.totalGB.isFinite
  limitIp : e.limitIp.isFinite
  tgId : e.tgId.Finite

variable {e f : Entry}

def written (e : Entry) : Key → Value
  | .serverId => .string e.serverId
  | .serverName => .string e.serverName
  | .inboundId => .ofInt64 e.inboundId
  | .inboundRemark => .string e.inboundRemark
  | .protocol => .string e.protocol
  | .email => (e.email.map Value.string).getD .null
  | .id => .string e.id
  | .password => .string e.password
  | .expiryTime => .ofBinary64 e.expiryTime
  | .totalGB => .ofBinary64 e.totalGB
  | .enable => (e.enable.map Value.bool).getD .null
  | .limitIp => .ofBinary64 e.limitIp
  | .flow => .string e.flow
  | .subId => .string e.subId
  | .tgId => e.tgId

def fields (e : Entry) : Json.Fields := Key.all.map fun key => (key.name, e.written key)

theorem toValue_eq (e : Entry) : e.toValue = .object e.fields := rfl

/-- Entries differ in what is written of them only by scalars, three numbers and `tgId`. -/
theorem forall_written {P : Value → Prop} (hnull : P .null) (hbool : ∀ b, P (.bool b))
    (hstring : ∀ s, P (.string s)) (hint : ∀ n, P (.ofInt64 n))
    (hexpiryTime : P (.ofBinary64 e.expiryTime)) (htotalGB : P (.ofBinary64 e.totalGB))
    (hlimitIp : P (.ofBinary64 e.limitIp)) (htgId : P e.tgId) : ∀ f ∈ e.fields, P f.2 := by
  have hemail : P ((e.email.map Value.string).getD .null) := by
    cases e.email with
    | none => exact hnull
    | some s => exact hstring s
  have henable : P ((e.enable.map Value.bool).getD .null) := by
    cases e.enable with
    | none => exact hnull
    | some b => exact hbool b
  intro f hf
  obtain ⟨key, -, rfl⟩ := List.mem_map.mp hf
  cases key
  case inboundId => exact hint _
  case email => exact hemail
  case expiryTime => exact hexpiryTime
  case totalGB => exact htotalGB
  case enable => exact henable
  case limitIp => exact hlimitIp
  case tgId => exact htgId
  all_goals exact hstring _

theorem finite_ofBinary64 {x : Binary64} (hx : x.isFinite) : (Value.ofBinary64 x).Finite := by
  rw [Value.ofBinary64]
  cases x.wholeInt64? with
  | none => exact .number hx
  | some n => exact .number trivial

theorem Finite.toValue (h : e.Finite) : e.toValue.Finite :=
  .object (forall_written .null .bool .string (fun _ => .number trivial)
    (finite_ofBinary64 h.expiryTime) (finite_ofBinary64 h.totalGB) (finite_ofBinary64 h.limitIp)
    h.tgId)

/-- An absent value is written as null, which stands for no other. -/
theorem optional_injective {α : Type} {write : α → Value} (hnull : ∀ a, write a ≠ .null)
    (hwrite : ∀ {a b}, write a = write b → a = b) {a b : Option α}
    (h : (a.map write).getD .null = (b.map write).getD .null) : a = b := by
  cases a with
  | none =>
    cases b with
    | none => rfl
    | some b => exact absurd h.symm (hnull b)
  | some a =>
    cases b with
    | none => exact absurd h (hnull a)
    | some b => rw [hwrite h]

theorem toValue_eq_iff : e.toValue = f.toValue ↔ e.Same f := by
  constructor
  · intro h
    simp only [toValue, Value.object.injEq, List.cons.injEq, Prod.mk.injEq, true_and, and_true,
      Value.string.injEq, Binary64.ofBinary64_eq_iff] at h
    obtain ⟨hserverId, hserverName, hinboundId, hinboundRemark, hprotocol, hemail, hid, hpassword,
      hexpiryTime, htotalGB, henable, hlimitIp, hflow, hsubId, htgId⟩ := h
    have hnumber : e.inboundId = f.inboundId := by
      rw [Value.ofInt64, Value.ofInt64] at hinboundId
      injection hinboundId with hnumeral
      injection hnumeral with hint
      exact Int64.toInt_inj.mp hint
    exact ⟨hserverId, hserverName, hnumber, hinboundRemark, hprotocol,
      optional_injective (fun _ => Value.noConfusion) Value.string.inj hemail, hid, hpassword,
      hexpiryTime, htotalGB,
      optional_injective (fun _ => Value.noConfusion) Value.bool.inj henable, hlimitIp, hflow,
      hsubId, htgId⟩
  · intro h
    simp only [toValue, h.serverId, h.serverName, h.inboundId, h.inboundRemark, h.protocol, h.email,
      h.id, h.password, h.enable, h.flow, h.subId, h.tgId,
      Binary64.ofBinary64_eq_iff.mpr h.expiryTime, Binary64.ofBinary64_eq_iff.mpr h.totalGB,
      Binary64.ofBinary64_eq_iff.mpr h.limitIp]

end Entry

namespace Snapshot

variable {S T : List Entry}

/-- What follows an entry: a line break and the next one, or nothing. -/
def linesTail : List Entry → List Char
  | [] => []
  | e :: es => '\n' :: (canonicalText (e :: es)).toList

theorem canonicalText_cons (e : Entry) (es : List Entry) :
    (canonicalText (e :: es)).toList = e.toValue.chars ++ linesTail es := by
  cases es with
  | nil => simp [canonicalText, linesTail, Entry.canonical, Value.print]
  | cons f es =>
    simp [canonicalText, linesTail, Entry.canonical, Value.print]

theorem canonicalText_ne_empty (e : Entry) (es : List Entry) :
    canonicalText (e :: es) ≠ canonicalText [] := by
  intro h
  have hlist := congrArg String.toList h
  rw [canonicalText_cons, Entry.toValue, Value.chars] at hlist
  exact absurd hlist (by simp [canonicalText])

theorem closed_linesTail (es : List Entry) : Closed (linesTail es) := by
  cases es with
  | nil => exact Json.closed_nil
  | cons e es => exact Json.closed_cons (by decide) _

theorem linesTail_same (hS : ∀ e ∈ S, e.Finite) (hT : ∀ e ∈ T, e.Finite)
    (h : linesTail S = linesTail T) : List.Forall₂ Entry.Same S T := by
  induction S generalizing T with
  | nil =>
    cases T with
    | nil => exact .nil
    | cons f T => exact absurd h (List.cons_ne_nil _ _).symm
  | cons e S ih =>
    cases T with
    | nil => exact absurd h (List.cons_ne_nil _ _)
    | cons f T =>
      have htext := (List.cons.inj h).2
      rw [canonicalText_cons, canonicalText_cons] at htext
      obtain ⟨hvalue, htail⟩ := Value.chars_unique (hS e List.mem_cons_self).toValue
        (hT f List.mem_cons_self).toValue (closed_linesTail S) (closed_linesTail T) htext
      exact .cons (Entry.toValue_eq_iff.mp hvalue)
        (ih (fun u hu => hS u (List.mem_cons_of_mem e hu))
          (fun u hu => hT u (List.mem_cons_of_mem f hu)) htail)

/-- The text hides nothing, where it begins and ends included. -/
theorem same_of_canonicalText (hS : ∀ e ∈ S, e.Finite) (hT : ∀ e ∈ T, e.Finite)
    (h : canonicalText S = canonicalText T) : List.Forall₂ Entry.Same S T := by
  cases S with
  | nil =>
    cases T with
    | nil => exact .nil
    | cons f T => exact absurd h.symm (canonicalText_ne_empty f T)
  | cons e S =>
    cases T with
    | nil => exact absurd h (canonicalText_ne_empty e S)
    | cons f T => exact linesTail_same hS hT (congrArg (fun text : String => '\n' :: text.toList) h)

theorem canonicalText_of_same (h : List.Forall₂ Entry.Same S T) :
    canonicalText S = canonicalText T := by
  have hmap : S.map Entry.canonical = T.map Entry.canonical := by
    induction h with
    | nil => rfl
    | cons he _ ih =>
      rw [List.map_cons, List.map_cons, ih, Entry.canonical, Entry.toValue_eq_iff.mpr he]
      rfl
  rw [canonicalText, canonicalText, hmap]

/-- Snapshots are hashed as the same text exactly when they have the same entries in the same
order. -/
theorem canonicalText_eq_iff (hS : ∀ e ∈ S, e.Finite) (hT : ∀ e ∈ T, e.Finite) :
    canonicalText S = canonicalText T ↔ List.Forall₂ Entry.Same S T :=
  ⟨same_of_canonicalText hS hT, canonicalText_of_same⟩

def expiringCopies (expiry : Binary64) : List Entry :=
  [{ vlessCopy "a" "u1" true 0 with expiryTime := expiry }, vlessCopy "b" "u1" true 1000]

theorem finite_expiringCopies (expiry : Binary64) (h : expiry.isFinite) :
    ∀ e ∈ expiringCopies expiry, e.Finite := by
  have hzero : Binary64.zero.isFinite := by decide +kernel
  have hlater : (Binary64.ofInt 1000).isFinite := by decide +kernel
  rw [expiringCopies, List.forall_mem_cons, List.forall_mem_singleton]
  exact ⟨⟨h, hzero, hzero, .null⟩, ⟨hlater, hzero, hzero, .null⟩⟩

theorem same_expiringCopies : List.Forall₂ Entry.Same (expiringCopies .zero)
    (expiringCopies Binary64.zero.neg) := by
  refine .cons ?_ (.cons (Entry.Same.refl _) .nil)
  exact ⟨rfl, rfl, rfl, rfl, rfl, rfl, rfl, rfl, rfl, rfl, rfl, rfl, rfl, rfl, rfl⟩

/-- The sign of a zero is not in the text, any other expiry is. -/
theorem canonicalText_expiringCopies :
    canonicalText (expiringCopies .zero) = canonicalText (expiringCopies Binary64.zero.neg) ∧
      canonicalText (expiringCopies .zero) ≠ canonicalText (expiringCopies (.ofInt 1)) := by
  have hzero := finite_expiringCopies Binary64.zero (by decide +kernel)
  have hneg := finite_expiringCopies Binary64.zero.neg (by decide +kernel)
  have hone := finite_expiringCopies (.ofInt 1) (by decide +kernel)
  constructor
  · exact (canonicalText_eq_iff hzero hneg).mpr same_expiringCopies
  · intro h
    have hsame := (canonicalText_eq_iff hzero hone).mp h
    rw [expiringCopies, expiringCopies, List.forall₂_cons] at hsame
    exact absurd hsame.1.expiryTime (by decide +kernel)

end Snapshot

end FleetDrift
