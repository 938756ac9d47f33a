import FleetDrift.Proofs.Identifiers

/-! # Families of protocol tags
The family of an entry is read off its tag with the letters A to Z in lowercase, the family of a
sub-group off a tag that is in lowercase altogether. The two part where a letter beyond ASCII has its
lowercase in ASCII, and the Kelvin sign alone has. -/
namespace FleetDrift

open Text (trim asciiLowercase)

namespace Text

variable {c : Char} {s : String} {before after : List Char}

/-- It looks like the letter K, and its lowercase is `k`. -/
def kelvinSign : Char := '\u212a'

def Ascii (s : String) : Prop := ∀ c ∈ s.toList, c.toNat < 128

instance (s : String) : Decidable (Ascii s) :=
  show Decidable (∀ c ∈ s.toList, c.toNat < 128) from List.decidableBAll _ _

theorem ascii_forall {P : Char → Prop} (h : ∀ n ∈ List.range 128, P (Char.ofNat n))
    (hc : c.toNat < 128) : P c := by
  have hn := h c.toNat (List.mem_range.mpr hc)
  rwa [Char.ofNat_toNat] at hn

theorem lowerChar_of_ascii (h : c.toNat < 128) : lowerChar c = c.toLower :=
  ascii_forall (P := fun c => lowerChar c = c.toLower) (by decide +kernel) h

theorem toLower_ascii (h : c.toNat < 128) : c.toLower.toNat < 128 :=
  ascii_forall (P := fun c => c.toLower.toNat < 128) (by decide +kernel) h

theorem toLower_of_not_ascii (h : 128 ≤ c.toNat) : c.toLower = c := by
  have hc : ¬ (c.val ≥ 'A'.val ∧ c.val ≤ 'Z'.val) := by
    rintro ⟨-, hz⟩
    have hle : c.toNat ≤ 90 := hz
    omega
  exact dif_neg hc

/-- A run has code points of ASCII, or leads to none, or is that of the Kelvin sign. -/
theorem lowerRuns_into_ascii : lowerRuns.all (fun run => Nat.blt run.last 128 ||
    (Nat.ble 128 run.image.first ||
      (Nat.beq run.first kelvinSign.toNat && Nat.beq run.last kelvinSign.toNat))) = true := by
  decide +kernel

theorem lowerChar_not_ascii (h : 128 ≤ c.toNat) (hk : c ≠ kelvinSign) :
    128 ≤ (lowerChar c).toNat := by
  rcases lowerChar_eq_self_or c with he | ⟨run, hm, hc, himage⟩
  · rwa [he]
  · have hrun := List.all_eq_true.mp lowerRuns_into_ascii run hm
    simp only [Bool.or_eq_true, Bool.and_eq_true, Nat.blt_eq, Nat.ble_eq, Nat.beq_eq] at hrun
    have hcode := LowerRun.contains_iff.mp hc
    have hlower := LowerRun.contains_iff.mp himage
    rcases hrun with hlast | hfirst | ⟨hfirst, hlast⟩
    · omega
    · omega
    · have hsame : c.toNat = kelvinSign.toNat := by omega
      exact absurd (Char.toNat_inj.mp hsame) hk

theorem Settled.toLower_eq (h : Settled c) : c.toLower = c := by
  by_cases hc : c.toNat < 128
  · rw [← lowerChar_of_ascii hc, h.fixed]
  · exact toLower_of_not_ascii (Nat.le_of_not_lt hc)

@[simp] theorem asciiLowercase_lowercase (s : String) :
    asciiLowercase (lowercase s) = lowercase s := by
  rw [asciiLowercase, lowercase, String.toList_ofList]
  refine congrArg String.ofList ((List.map_congr_left fun c hc => ?_).trans (List.map_id _))
  exact (settled_of_mem_lowerFrom hc).toLower_eq

theorem lowerAt_of_toLower_ascii (h : c.toLower.toNat < 128) :
    lowerAt before c after = [c.toLower] := by
  have hc : c.toNat < 128 := by
    by_contra hc
    rw [toLower_of_not_ascii (Nat.le_of_not_lt hc)] at h
    exact hc h
  have hsigma : c ≠ 'Σ' := by
    rintro rfl
    exact absurd hc (by decide)
  have hdotted : c ≠ 'İ' := by
    rintro rfl
    exact absurd hc (by decide)
  rw [lowerAt, if_neg hsigma, if_neg hdotted, lowerChar_of_ascii hc]

theorem lowerAt_ascii (h : ∀ d ∈ lowerAt before c after, d.toNat < 128) (hk : c ≠ kelvinSign) :
    lowerAt before c after = [c.toLower] := by
  by_cases hc : c.toNat < 128
  · exact lowerAt_of_toLower_ascii (toLower_ascii hc)
  · exfalso
    have hbeyond := lowerChar_not_ascii (Nat.le_of_not_lt hc) hk
    unfold lowerAt at h
    split at h
    · split at h <;> simp at h
    · split at h
      · simp at h
      · have hlower := h _ List.mem_cons_self
        omega

theorem lowerFrom_of_toLower_ascii {cs : List Char}
    (h : ∀ c ∈ cs.map Char.toLower, c.toNat < 128) (before : List Char) :
    lowerFrom before cs = cs.map Char.toLower := by
  induction cs generalizing before with
  | nil => rfl
  | cons c after ih =>
    rw [List.map_cons, List.forall_mem_cons] at h
    rw [lowerFrom, lowerAt_of_toLower_ascii h.1, ih h.2]
    rfl

theorem lowerFrom_ascii {cs : List Char} (hk : kelvinSign ∉ cs) {before : List Char}
    (h : ∀ c ∈ lowerFrom before cs, c.toNat < 128) :
    lowerFrom before cs = cs.map Char.toLower := by
  induction cs generalizing before with
  | nil => rfl
  | cons c after ih =>
    rw [lowerFrom, List.forall_mem_append] at h
    rw [List.mem_cons, not_or] at hk
    rw [lowerFrom, lowerAt_ascii h.1 (Ne.symm hk.1), ih hk.2 h.2]
    rfl

theorem lowercase_of_asciiLowercase (h : Ascii (asciiLowercase s)) :
    lowercase s = asciiLowercase s := by
  rw [Ascii, asciiLowercase, String.toList_ofList] at h
  rw [lowercase, lowerChars, lowerFrom_of_toLower_ascii h, asciiLowercase]

theorem lowercase_eq_asciiLowercase (h : Ascii (lowercase s)) (hk : kelvinSign ∉ s.toList) :
    lowercase s = asciiLowercase s := by
  rw [Ascii, lowercase, String.toList_ofList] at h
  rw [lowercase, lowerChars, lowerFrom_ascii hk h, asciiLowercase]

theorem k_mem_lowercase (h : kelvinSign ∈ s.toList) : 'k' ∈ (lowercase s).toList := by
  rw [lowercase, String.toList_ofList]
  refine mem_lowerFrom (fun before after => ?_) h
  rw [lowerAt, if_neg (by decide), if_neg (by decide), List.mem_singleton]
  decide +kernel

theorem kelvinSign_mem_asciiLowercase (h : kelvinSign ∈ s.toList) :
    kelvinSign ∈ (asciiLowercase s).toList := by
  rw [asciiLowercase, String.toList_ofList]
  exact List.mem_map.mpr ⟨kelvinSign, h, by decide⟩

end Text

namespace CredentialFamily

def knownProtocols : List String := uuidProtocols ++ passwordProtocols

/-- Of the known protocols one has a `k` in its name. -/
theorem knownProtocols_spelling : ∀ name ∈ knownProtocols, Text.Ascii name ∧
    Text.kelvinSign ∉ name.toList ∧ ('k' ∈ name.toList → name = "shadowsocks") := by
  decide +kernel

variable {protocol : String}

theorem ofProtocol_eq_of_asciiLowercase {other : String}
    (h : asciiLowercase (trim protocol) = asciiLowercase (trim other)) :
    ofProtocol protocol = ofProtocol other := by
  simp only [ofProtocol, h]

theorem ofProtocol_eq_unknown (h : asciiLowercase (trim protocol) ∉ knownProtocols) :
    ofProtocol protocol = .unknown := by
  rw [knownProtocols, List.mem_append, not_or] at h
  simp only [ofProtocol, if_neg h.1, if_neg h.2]

end CredentialFamily

namespace Entry

variable {e : Entry}

theorem asciiLowercase_normalizedProtocol (e : Entry) :
    asciiLowercase (trim e.normalizedProtocol) = e.normalizedProtocol := by
  rw [Text.trim_eq_self e.trimmed_normalizedProtocol, normalizedProtocol,
    Text.asciiLowercase_lowercase]

/-- The tag reads `shadowsocks` in lowercase, and one of its letters is the Kelvin sign. -/
structure KelvinSpelled (e : Entry) : Prop where
  protocol : e.normalizedProtocol = "shadowsocks"
  sign : Text.kelvinSign ∈ (trim e.protocol).toList

instance : DecidablePred KelvinSpelled := fun e =>
  decidable_of_iff
    (e.normalizedProtocol = "shadowsocks" ∧ Text.kelvinSign ∈ (trim e.protocol).toList)
    ⟨fun h => ⟨h.1, h.2⟩, fun h => ⟨h.1, h.2⟩⟩

theorem family_of_not_kelvinSpelled (h : ¬ e.KelvinSpelled) :
    e.family = .ofProtocol e.normalizedProtocol := by
  -- a known protocol is in ASCII; an unknown one is unknown in both readings of the tag
  by_cases hn : e.normalizedProtocol ∈ CredentialFamily.knownProtocols
  · obtain ⟨hascii, -, hword⟩ := CredentialFamily.knownProtocols_spelling _ hn
    by_cases hk : Text.kelvinSign ∈ (trim e.protocol).toList
    · exact absurd ⟨hword (Text.k_mem_lowercase hk), hk⟩ h
    · apply CredentialFamily.ofProtocol_eq_of_asciiLowercase
      rw [asciiLowercase_normalizedProtocol]
      exact (Text.lowercase_eq_asciiLowercase hascii hk).symm
  · have htag : asciiLowercase (trim e.protocol) ∉ CredentialFamily.knownProtocols := by
      intro hm
      have hascii := (CredentialFamily.knownProtocols_spelling _ hm).1
      rw [← Text.lowercase_of_asciiLowercase hascii] at hm
      exact hn hm
    rw [← asciiLowercase_normalizedProtocol] at hn
    rw [family, CredentialFamily.ofProtocol_eq_unknown htag,
      CredentialFamily.ofProtocol_eq_unknown hn]

namespace KelvinSpelled

theorem family_eq (h : e.KelvinSpelled) : e.family = .unknown := by
  apply CredentialFamily.ofProtocol_eq_unknown
  intro hm
  -- folding the letters A to Z leaves the sign in the tag, and no known protocol has it
  exact (CredentialFamily.knownProtocols_spelling _ hm).2.1
    (Text.kelvinSign_mem_asciiLowercase h.sign)

theorem ofProtocol_eq (h : e.KelvinSpelled) :
    CredentialFamily.ofProtocol e.normalizedProtocol = .password := by
  rw [h.protocol]
  decide +kernel

end KelvinSpelled

/-- The family of an entry is that of its protocol but for one letter in one word. -/
theorem family_eq_iff : e.family = .ofProtocol e.normalizedProtocol ↔ ¬ e.KelvinSpelled := by
  refine ⟨fun h hk => ?_, family_of_not_kelvinSpelled⟩
  rw [hk.family_eq, hk.ofProtocol_eq] at h
  cases h

end Entry

end FleetDrift
