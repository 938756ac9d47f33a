import FleetDrift.Proofs.CanonicalText
import Mathlib.Data.List.TakeWhile

/-!
# What readers give

Numbers that are read are in range: long ones are refused, and all others are rounded below the
greatest finite one. An object that is read has its keys in ascending order, each once. So the
entries of a snapshot that was read are well formed throughout, and their numbers finite.
-/

namespace FleetDrift

open Json (Value Numeral Reader Stop Fields)
open Number (Binary64 Decimal)

namespace Number

open Binary64 (binade unitsPerOne infinityMagnitude unitsOf)

theorem Binary64.isFinite_nearest {negative : Bool} {n d m : Nat} (hd : 0 < d)
    (hm : m < infinityMagnitude) (h : n ≤ unitsOf m * d) :
    (Binary64.nearest negative n d).isFinite := by
  rw [isFinite_iff]
  exact (nearestMagnitude_le hd h).trans_lt hm

theorem Binary64.isFinite_div {x y : Binary64} (hx : x.isFinite) (hy : unitsPerOne ≤ y.units) :
    (x.div y).isFinite := by
  have hpos : 0 < y.units := Nat.lt_of_lt_of_le (by decide +kernel) hy
  exact isFinite_nearest hpos (isFinite_iff.mp hx) (Nat.mul_le_mul_left _ hy)

namespace Decimal

def greatest : Nat := infinityMagnitude - 1

theorem greatest_lt : greatest < infinityMagnitude := by decide

theorem ten_pow_le_greatest : Nat.pow 10 308 * unitsPerOne ≤ unitsOf greatest := by decide +kernel

theorem isFinite_powerOfTen {e : Nat} (h : e ≤ 308) : (powerOfTen e).isFinite := by
  have hmost := ten_pow_le_greatest
  -- the power itself is not to be computed here
  generalize 308 = most at h hmost
  have hpow : Nat.pow 10 e ≤ Nat.pow 10 most := Nat.pow_le_pow_right (by decide) h
  refine Binary64.isFinite_nearest Nat.one_pos greatest_lt ?_
  rw [Nat.mul_one]
  exact (Nat.mul_le_mul_right _ hpow).trans hmost

theorem unitsPerOne_le_powerOfTen {e : Nat} (h : e ≤ 308) : unitsPerOne ≤ (powerOfTen e).units := by
  have hone : unitsOf (1023 * binade) = unitsPerOne := by decide +kernel
  have hle : 1023 * binade ≤ (powerOfTen e).magnitude := by
    refine Binary64.le_nearestMagnitude Nat.one_pos (by decide) ?_
    rw [hone, Nat.mul_one]
    exact Nat.le_mul_of_pos_left _ (Nat.pow_pos (by decide))
  exact hone ▸ Binary64.unitsOf_mono (Binary64.isFinite_iff.mp (isFinite_powerOfTen h)).le hle

theorem isFinite_scaledDown {x : Binary64} (hx : x.isFinite) (steps places : Nat) :
    (scaledDown steps x places).isFinite := by
  induction steps generalizing x places with
  | zero =>
    rw [scaledDown]
    decide +kernel
  | succ steps ih =>
    rw [scaledDown]
    split_ifs with hzero hplaces
    · exact hx
    · exact Binary64.isFinite_div hx (unitsPerOne_le_powerOfTen hplaces)
    · exact ih (Binary64.isFinite_div hx (unitsPerOne_le_powerOfTen (Nat.le_refl 308))) _

theorem isFinite_ofInt {n : Int} (h : n.natAbs < 0x10000000000000000) :
    (Binary64.ofInt n).isFinite := by
  have hmost : 0x10000000000000000 * unitsPerOne ≤ unitsOf greatest := by decide +kernel
  refine Binary64.isFinite_nearest Nat.one_pos greatest_lt ?_
  rw [Nat.mul_one]
  exact (Nat.mul_le_mul_right _ h.le).trans hmost

/-- A decimal of 64 bits that is read in rounded steps gives no infinite number. -/
theorem isFinite_scaled {d : Decimal} (hd : d.digits < 0x10000000000000000) {x : Binary64}
    (h : d.scaled = some x) : x.isFinite := by
  have hx := isFinite_ofInt ((Int.natAbs_natCast d.digits).trans_lt hd)
  simp only [scaled] at h
  split_ifs at h with hneg hzero hexp hfinite
  · cases h
    exact isFinite_scaledDown hx _ _
  · cases h
    exact hx
  · cases h
    exact hfinite

end Decimal

end Number

theorem mapError_eq_ok {ε δ α : Type} {e : Except ε α} {f : ε → δ} {a : α} :
    e.mapError f = .ok a ↔ e = .ok a := by
  cases e <;> simp [Except.mapError]

theorem mapError_bind {ε δ α β : Type} {e : Except ε α} {f : α → Except ε β} {g : ε → δ} :
    (e >>= f).mapError g = e.mapError g >>= fun a => (f a).mapError g := by
  cases e <;> rfl

namespace Json

variable {α β σ ε : Type}

theorem bind_eq_ok {x : Except ε α} {f : α → Except ε β} {b : β} :
    (x >>= f) = .ok b ↔ ∃ a, x = .ok a ∧ f a = .ok b := by
  cases x <;> simp [bind, Except.bind]

def Gives (reader : Reader α) (P : α → Prop) : Prop :=
  ∀ ⦃cs x rest⦄, reader cs = .ok (x, rest) → P x

/-- One reading after another, their results put together. -/
theorem gives_followed {γ : Type} {first : Reader α} {more : Reader β} {P : α → Prop} {Q : β → Prop}
    {R : γ → Prop} (hfirst : Gives first P) (hmore : Gives more Q) (join : α → β → γ)
    (hjoin : ∀ x y, P x → Q y → R (join x y)) :
    Gives (fun cs => first cs >>= fun p => more p.2 >>= fun q => .ok (join p.1 q.1, q.2)) R := by
  intro cs z rest h
  obtain ⟨⟨x, middle⟩, hx, h⟩ := bind_eq_ok.mp h
  obtain ⟨⟨y, last⟩, hy, h⟩ := bind_eq_ok.mp h
  cases h
  exact hjoin x y (hfirst hx) (hmore hy)

theorem gives_readItems {item : Reader α} {P : α → Prop} (hitem : Gives item P)
    (fuel : List Char) (first : Bool) :
    Gives (readItems item fuel first) fun xs => ∀ x ∈ xs, P x := by
  induction fuel generalizing first with
  | nil =>
    intro cs xs rest h
    cases h
  | cons _ fuel ih =>
    have hnext := gives_followed (R := fun xs => ∀ x ∈ xs, P x) hitem (ih false) List.cons
      fun x xs hx hxs => List.forall_mem_cons.mpr ⟨hx, hxs⟩
    intro cs xs rest h
    rw [readItems] at h
    split at h
    · cases h
    · split_ifs at h
      · cases h
        exact List.forall_mem_nil P
      · exact hnext h
      · split at h
        · cases h
        · split_ifs at h
          · cases h
          · exact hnext h
      · cases h

theorem gives_readList {item : Reader α} {P : α → Prop} (hitem : Gives item P) :
    Gives (readList item) fun xs => ∀ x ∈ xs, P x :=
  fun cs _ _ h => gives_readItems hitem (' ' :: cs) true h

theorem gives_readMembers {member : σ → Reader σ} {P : σ → Prop}
    (hmember : ∀ s, P s → Gives (member s) P) (fuel : List Char) (first : Bool) {s : σ} (hs : P s) :
    Gives (readMembers member fuel first s) P := by
  induction fuel generalizing first s with
  | nil =>
    intro cs t rest h
    cases h
  | cons _ fuel ih =>
    have hnext :
        Gives (fun cs => member s cs >>= fun p => readMembers member fuel false p.1 p.2) P := by
      intro cs t rest h
      obtain ⟨⟨u, more⟩, hu, h⟩ := bind_eq_ok.mp h
      exact ih false (hmember s hs hu) h
    intro cs t rest h
    rw [readMembers] at h
    split at h
    · cases h
    · split_ifs at h
      · cases h
        exact hs
      · exact hnext h
      · cases h
      · split at h
        · cases h
        · split_ifs at h
          · exact hnext h
          · cases h
          · cases h
      · cases h

theorem gives_readObject {member : σ → Reader σ} {P : σ → Prop}
    (hmember : ∀ s, P s → Gives (member s) P) {s : σ} (hs : P s) :
    Gives (readObject member s) P :=
  fun cs _ _ h => gives_readMembers hmember (' ' :: cs) true hs h

def Numeral.WellFormed : Numeral → Prop
  | .whole n => -0x8000000000000000 ≤ n ∧ n < 0x10000000000000000
  | .real x => x.isFinite

instance : (n : Numeral) → Decidable n.WellFormed
  | .whole _ => inferInstanceAs (Decidable (_ ∧ _))
  | .real _ => inferInstanceAs (Decidable (_ = true))

def Fields.Ascending (fields : Fields) : Prop := fields.Pairwise fun f g => f.1 < g.1

instance (fields : Fields) : Decidable fields.Ascending :=
  inferInstanceAs (Decidable (fields.Pairwise _))

inductive Value.WellFormed : Value → Prop
  | null : WellFormed .null
  | bool (b : Bool) : WellFormed (.bool b)
  | number {n : Numeral} (h : n.WellFormed) : WellFormed (.number n)
  | string (s : String) : WellFormed (.string s)
  | array {items : List Value} (h : ∀ v ∈ items, WellFormed v) : WellFormed (.array items)
  | object {fields : Fields} (hkeys : fields.Ascending) (h : ∀ f ∈ fields, WellFormed f.2) :
    WellFormed (.object fields)

theorem Numeral.WellFormed.finite {n : Numeral} (h : n.WellFormed) : n.Finite := by
  cases n with
  | whole k => trivial
  | real x => exact h

theorem Value.WellFormed.finite {v : Value} (h : v.WellFormed) : v.Finite := by
  induction h with
  | null => exact .null
  | bool b => exact .bool b
  | number h => exact .number h.finite
  | string s => exact .string s
  | array _ ih => exact .array ih
  | object _ _ ih => exact .object ih

theorem leadingDigits_lt (cs : List Char) {n : Nat} (h : n < 0x10000000000000000) :
    (leadingDigits n cs).1 < 0x10000000000000000 := by
  induction cs generalizing n with
  | nil => exact h
  | cons c cs ih =>
    simp only [leadingDigits]
    split_ifs with hfits
    · exact ih hfits
    · exact h

theorem wellFormed_realNumeral {negative : Bool} {whole : List Char} {fraction : Option (List Char)}
    {exponent : Option (Bool × List Char)} {rest rest' : List Char} {n : Numeral}
    (h : realNumeral negative whole fraction exponent rest = .ok (n, rest')) : n.WellFormed := by
  have hdigits := leadingDigits_lt (fraction.getD []) (leadingDigits_lt whole (n := 0) (by decide))
  simp only [realNumeral] at h
  split at h
  · cases h
  · split at h
    · next x hx =>
      cases h
      have hfinite := Decimal.isFinite_scaled hdigits hx
      exact hfinite
    · cases h

theorem wellFormed_readNumeral (negative : Bool) :
    Gives (readNumeral negative) Numeral.WellFormed := by
  intro cs n rest h
  obtain ⟨⟨whole, more⟩, -, h⟩ := bind_eq_ok.mp h
  obtain ⟨⟨fraction, more⟩, -, h⟩ := bind_eq_ok.mp h
  obtain ⟨⟨exponent, more⟩, -, h⟩ := bind_eq_ok.mp h
  dsimp only at h
  split_ifs at h with hmarked hnegative hrange hrange
  · exact wellFormed_realNumeral h
  · cases h
    rw [Numeral.WellFormed]
    omega
  · exact wellFormed_realNumeral h
  · cases h
    rw [Numeral.WellFormed]
    omega
  · exact wellFormed_realNumeral h

theorem wellFormed_readScalar : Gives readScalar Value.WellFormed := by
  intro cs v rest h
  unfold readScalar at h
  split at h
  · cases h
  · split_ifs at h
    · obtain ⟨more, -, h⟩ := bind_eq_ok.mp h
      cases h
      exact .null
    · obtain ⟨more, -, h⟩ := bind_eq_ok.mp h
      cases h
      exact .bool true
    · obtain ⟨more, -, h⟩ := bind_eq_ok.mp h
      cases h
      exact .bool false
    · obtain ⟨⟨n, more⟩, hn, h⟩ := bind_eq_ok.mp h
      cases h
      exact .number (wellFormed_readNumeral true hn)
    · obtain ⟨⟨n, more⟩, hn, h⟩ := bind_eq_ok.mp h
      cases h
      exact .number (wellFormed_readNumeral false hn)
    · obtain ⟨⟨s, more⟩, -, h⟩ := bind_eq_ok.mp h
      cases h
      exact .string s
    · cases h

namespace Fields

variable {fields : Fields} {key other : String} {v : Value}

theorem get?_cons (field : String × Value) (fields : Fields) (key : String) :
    get? (field :: fields) key = if field.1 = key then some field.2 else get? fields key := by
  rw [get?, get?, List.find?_cons]
  by_cases h : field.1 = key
  · simp [h]
  · simp [h]

theorem get?_insert_self (fields : Fields) (key : String) (v : Value) :
    (fields.insert key v).get? key = some v := by
  induction fields with
  | nil => rw [insert, get?_cons, if_pos rfl]
  | cons field fields ih =>
    rw [insert]
    split_ifs with hlt heq
    · rw [get?_cons, if_pos rfl]
    · rw [get?_cons, if_pos rfl]
    · rw [get?_cons, if_neg (Ne.symm heq), ih]

theorem get?_insert_of_ne (h : other ≠ key) (fields : Fields) (v : Value) :
    (fields.insert key v).get? other = fields.get? other := by
  induction fields with
  | nil => rw [insert, get?_cons, if_neg h.symm]
  | cons field fields ih =>
    rw [insert]
    split_ifs with hlt heq
    · rw [get?_cons, if_neg h.symm]
    · rw [get?_cons, get?_cons, if_neg h.symm, ← heq, if_neg h.symm]
    · rw [get?_cons, get?_cons, ih]

theorem get?_filter (p : String → Bool) (key : String) (fields : Fields) :
    get? (fields.filter fun f => p f.1) key = if p key then fields.get? key else none := by
  induction fields with
  | nil => exact (ite_self none).symm
  | cons field fields ih =>
    by_cases hp : p field.1
    · rw [List.filter_cons, if_pos hp, get?_cons, get?_cons, ih]
      by_cases hkey : field.1 = key
      · rw [if_pos hkey, if_pos hkey, ← hkey, if_pos hp]
      · rw [if_neg hkey, if_neg hkey]
    · rw [List.filter_cons, if_neg hp, get?_cons, ih]
      by_cases hkey : field.1 = key
      · rw [← hkey, if_neg hp, if_neg hp]
      · rw [if_neg hkey]

theorem mem_insert {f : String × Value} (h : f ∈ fields.insert key v) :
    f = (key, v) ∨ f ∈ fields := by
  induction fields with
  | nil => exact .inl (List.mem_singleton.mp h)
  | cons g fields ih =>
    obtain ⟨k, w⟩ := g
    rw [insert] at h
    split_ifs at h
    · exact List.mem_cons.mp h
    · exact (List.mem_cons.mp h).imp_right (List.mem_cons_of_mem _)
    · rcases List.mem_cons.mp h with rfl | h
      · exact .inr List.mem_cons_self
      · exact (ih h).imp_right (List.mem_cons_of_mem _)

theorem Ascending.insert (h : fields.Ascending) (key : String) (v : Value) :
    (fields.insert key v).Ascending := by
  induction fields with
  | nil => exact List.pairwise_singleton _ _
  | cons f fields ih =>
    obtain ⟨k, w⟩ := f
    obtain ⟨hhead, hrest⟩ := List.pairwise_cons.mp h
    rw [Fields.insert]
    split_ifs with hlt heq
    · refine List.pairwise_cons.mpr ⟨?_, h⟩
      intro f hf
      rcases List.mem_cons.mp hf with rfl | hf
      · exact hlt
      · exact String.lt_trans hlt (hhead f hf)
    · exact List.pairwise_cons.mpr ⟨heq ▸ hhead, hrest⟩
    · refine List.pairwise_cons.mpr ⟨?_, ih hrest⟩
      intro f hf
      rcases mem_insert hf with rfl | hf
      · by_contra hge
        exact heq (String.le_antisymm (String.not_lt.mp hge) (String.not_lt.mp hlt))
      · exact hhead f hf

theorem wellFormed_get? (h : ∀ f ∈ fields, f.2.WellFormed) (key : String) :
    ((fields.get? key).getD .null).WellFormed := by
  rw [Fields.get?]
  cases hf : fields.find? fun field => field.1 = key with
  | none => exact .null
  | some f => exact h f (List.mem_of_find?_eq_some hf)

end Fields

theorem wellFormed_readMember {value : Reader Value} (hvalue : Gives value Value.WellFormed)
    {fields : Fields} (hfields : (Value.object fields).WellFormed) :
    Gives (readMember value fields) fun fields => (Value.object fields).WellFormed := by
  intro cs fields' rest h
  obtain ⟨⟨key, more⟩, -, h⟩ := bind_eq_ok.mp h
  obtain ⟨more', -, h⟩ := bind_eq_ok.mp h
  obtain ⟨⟨v, last⟩, hv, h⟩ := bind_eq_ok.mp h
  cases h
  cases hfields with
  | object hkeys hvalues =>
    refine .object (hkeys.insert key v) fun f hf => ?_
    rcases Fields.mem_insert hf with rfl | hf
    · exact hvalue hv
    · exact hvalues f hf

/-- Every value that is read is well formed. -/
theorem wellFormed_readValue (depth : Nat) : Gives (readValue depth) Value.WellFormed := by
  induction depth with
  | zero =>
    intro cs v rest h
    rw [readValue] at h
    split at h
    · cases h
    · split_ifs at h
      · cases h
      · cases h
      · exact wellFormed_readScalar h
  | succ depth ih =>
    have hempty : (Value.object []).WellFormed := .object .nil (List.forall_mem_nil _)
    intro cs v rest h
    rw [readValue] at h
    split at h
    · cases h
    · split_ifs at h
      · obtain ⟨⟨items, more⟩, hitems, h⟩ := bind_eq_ok.mp h
        cases h
        exact .array (gives_readList ih hitems)
      · obtain ⟨⟨fields, more⟩, hfields, h⟩ := bind_eq_ok.mp h
        cases h
        exact gives_readObject (fun _ hs => wellFormed_readMember ih hs) hempty hfields
      · exact wellFormed_readScalar h

def WellFormedBindings (found : Fields) : Prop := ∀ f ∈ found, f.2.WellFormed

theorem wellFormed_readBinding (known : List String) {item : Reader Value}
    (hitem : Gives item Value.WellFormed) {found : Fields} (hfound : WellFormedBindings found) :
    Gives (readBinding known item found) WellFormedBindings := by
  intro cs found' rest h
  obtain ⟨⟨key, more⟩, -, h⟩ := bind_eq_ok.mp h
  dsimp only at h
  split_ifs at h
  · cases h
  · obtain ⟨more', -, h⟩ := bind_eq_ok.mp h
    obtain ⟨⟨v, last⟩, hv, h⟩ := bind_eq_ok.mp h
    cases h
    exact List.forall_mem_append.mpr ⟨hfound, List.forall_mem_singleton.mpr (hitem hv)⟩
  · obtain ⟨more', -, h⟩ := bind_eq_ok.mp h
    obtain ⟨skipped, -, h⟩ := bind_eq_ok.mp h
    cases h
    exact hfound

theorem wellFormed_readPositional {item : Reader Value} (hitem : Gives item Value.WellFormed)
    (names : List String) (first : Bool) :
    Gives (readPositional item names first) WellFormedBindings := by
  induction names generalizing first with
  | nil =>
    intro cs found rest h
    obtain ⟨more, -, h⟩ := bind_eq_ok.mp h
    cases h
    exact List.forall_mem_nil _
  | cons name names ih =>
    have hnext := gives_followed (R := WellFormedBindings) hitem (ih false)
      (fun x found => (name, x) :: found)
      fun x found hx hfound => List.forall_mem_cons.mpr ⟨hx, hfound⟩
    intro cs found rest h
    rw [readPositional] at h
    split at h
    · cases h
    · split_ifs at h
      · cases h
        exact List.forall_mem_nil _
      · exact hnext h
      · split at h
        · cases h
        · split_ifs at h
          · cases h
          · exact hnext h
      · cases h

theorem refuseType_ne_ok {expected : String} {cs : List Char} {x : α} :
    refuseType expected cs ≠ .ok x := by
  intro h
  unfold refuseType at h
  split at h
  · cases h
  · cases h
  · obtain ⟨⟨v, rest⟩, -, h⟩ := bind_eq_ok.mp h
    cases h

theorem wellFormed_readRecord {item : Nat → Reader Value}
    (hitem : ∀ n, Gives (item n) Value.WellFormed) (expected : String) (known : List String)
    (depth : Nat) : Gives (readRecord expected known item depth) WellFormedBindings := by
  intro cs found rest h
  unfold readRecord at h
  split at h
  · cases h
  · split_ifs at h
    · split at h
      · cases h
      · exact wellFormed_readPositional (hitem _) known true h
    · split at h
      · cases h
      · exact gives_readObject (fun _ hs => wellFormed_readBinding known (hitem _) hs)
          (List.forall_mem_nil _) h
    · exact absurd h refuseType_ne_ok

theorem gives_readSequence {item : Nat → Reader α} {P : α → Prop} (hitem : ∀ n, Gives (item n) P)
    (depth : Nat) : Gives (readSequence item depth) fun xs => ∀ x ∈ xs, P x := by
  intro cs xs rest h
  unfold readSequence at h
  split at h
  · cases h
  · split_ifs at h
    · split at h
      · cases h
      · exact gives_readList (hitem _) h
    · exact absurd h refuseType_ne_ok

theorem readWholeText_eq_ok_iff {reader : Reader α} {text : String} {x : α} :
    readWholeText reader text = .ok x ↔
      ∃ left, reader text.toList = .ok (x, left) ∧ ∀ c ∈ left, isSpace c = true := by
  have hend : ∀ left, readEnd left = .ok () ↔ ∀ c ∈ left, isSpace c = true := by
    intro left
    rw [← List.dropWhile_eq_nil_iff, ← skipSpaces, readEnd]
    cases skipSpaces left with
    | nil => simp
    | cons c rest => simp [refuse]
  rw [readWholeText]
  cases reader text.toList with
  | error stop => simp [bind, Except.bind]
  | ok p =>
    obtain ⟨y, left⟩ := p
    simp only [Except.ok.injEq, Prod.mk.injEq, ← hend]
    cases hleft : readEnd left with
    | error stop => simp [bind, Except.bind, hleft]
    | ok u => simp [bind, Except.bind, pure, Except.pure, hleft]

theorem readWholeText_gives {reader : Reader α} {P : α → Prop} (hreader : Gives reader P)
    {text : String} {x : α} (h : readWholeText reader text = .ok x) : P x := by
  obtain ⟨left, hx, -⟩ := readWholeText_eq_ok_iff.mp h
  exact hreader hx

end Json

theorem Lenient.isFinite_number (v : Value) : (Lenient.number v).isFinite := by
  simp only [Lenient.number]
  split_ifs with h
  · exact h
  · decide +kernel

namespace Entry

structure WellFormed (e : Entry) : Prop where
  expiryTime : e.expiryTime.isFinite
  totalGB : e.totalGB.isFinite
  limitIp : e.limitIp.isFinite
  tgId : e.tgId.WellFormed

theorem WellFormed.finite {e : Entry} (h : e.WellFormed) : e.Finite :=
  ⟨h.expiryTime, h.totalGB, h.limitIp, h.tgId.finite⟩

theorem wellFormed_ofFields {fields : Fields} (h : Json.WellFormedBindings fields) :
    (ofFields fields).WellFormed :=
  ⟨Lenient.isFinite_number _, Lenient.isFinite_number _, Lenient.isFinite_number _,
    Json.Fields.wellFormed_get? h _⟩

theorem wellFormed_of_ofValue? {v : Value} (hv : v.WellFormed) {e : Entry}
    (h : ofValue? v = .ok e) : e.WellFormed := by
  unfold ofValue? at h
  split at h
  · cases h
    cases hv with
    | object _ hfields => exact wellFormed_ofFields hfields
  · split_ifs at h
    cases h
    cases hv with
    | array hitems =>
      refine wellFormed_ofFields fun f hf => hitems f.2 ?_
      exact (List.of_mem_zip hf).2
  · cases h

theorem wellFormed_reader (depth : Nat) : Json.Gives (reader depth) WellFormed := by
  intro cs e rest h
  obtain ⟨⟨found, more⟩, hfound, h⟩ := Json.bind_eq_ok.mp h
  cases h
  exact wellFormed_ofFields (Json.wellFormed_readRecord Json.wellFormed_readValue _ _ _ hfound)

theorem wellFormed_of_readAll {text : String} {entries : List Entry}
    (h : readAll text = .ok entries) : ∀ e ∈ entries, e.WellFormed :=
  Json.readWholeText_gives (Json.gives_readSequence wellFormed_reader _) h

end Entry

end FleetDrift
