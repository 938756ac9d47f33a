import FleetDrift.Proofs.Copies
import FleetDrift.Proofs.Lowercase

/-! # What names an entry
The name of an entry is the first of three texts that is not blank. Families differ in the order of
the three, so they differ in the name but not in whether there is one. -/
namespace FleetDrift

open Text (trim lowercase Trimmed)

theorem CredentialFamily.mem_identifierOrder {family : CredentialFamily} {field : Field} :
    field ∈ family.identifierOrder ↔ field = .id ∨ field = .password ∨ field = .email := by
  cases family <;> cases field <;> simp [identifierOrder]

namespace Entry

variable {e : Entry} {field : Field}

theorem trimmed_normalizedProtocol (e : Entry) : Trimmed e.normalizedProtocol.toList :=
  Text.trimmed_lowercase (Text.trimmed_trim e.protocol)

theorem trimmed_nameText (e : Entry) (field : Field) : Trimmed (e.nameText field).toList := by
  cases field with
  | id | password | email => exact Text.trimmed_trim _
  | expiryTime | totalGB | enable | limitIp | flow | subId => exact Text.trimmed_nil

theorem lowercase_nameText_email (e : Entry) :
    lowercase (e.nameText .email) = e.normalizedEmail := by
  rw [normalizedEmail, nameText]
  cases e.email with
  | some email => rfl
  | none => rfl

theorem normalizedEmail_eq_empty_iff : e.normalizedEmail = "" ↔ e.nameText .email = "" := by
  rw [← lowercase_nameText_email, Text.lowercase_eq_empty_iff]

/-- The name that the order of a family gives to the entry. -/
def nameIn (e : Entry) (family : CredentialFamily) : String :=
  ((family.identifierOrder.map e.nameText).find? (· ≠ "")).getD ""

theorem identifier_eq_nameIn (e : Entry) : e.identifier = e.nameIn e.family := rfl

theorem nameIn_eq_empty_iff {family : CredentialFamily} : e.nameIn family = "" ↔
    e.nameText .id = "" ∧ e.nameText .password = "" ∧ e.nameText .email = "" := by
  have hall : (∀ field ∈ family.identifierOrder, e.nameText field = "") ↔
      e.nameText .id = "" ∧ e.nameText .password = "" ∧ e.nameText .email = "" := by
    simp [CredentialFamily.mem_identifierOrder]
  rw [← hall, nameIn]
  constructor
  · intro h field hf
    by_contra hne
    have hsome : ((family.identifierOrder.map e.nameText).find? (· ≠ "")).isSome := by
      rw [List.find?_isSome]
      exact ⟨_, List.mem_map_of_mem hf, decide_eq_true hne⟩
    obtain ⟨name, hname⟩ := Option.isSome_iff_exists.mp hsome
    rw [hname, Option.getD_some] at h
    simpa [h] using List.find?_some hname
  · intro h
    rw [List.find?_eq_none.mpr (by simpa using h), Option.getD_none]

theorem nameIn_congr {a b : Entry} {family : CredentialFamily}
    (h : ∀ field ∈ family.identifierOrder, a.nameText field = b.nameText field) :
    a.nameIn family = b.nameIn family := by
  rw [nameIn, nameIn, List.map_congr_left h]

theorem nameIn_of_first {family : CredentialFamily} {rest : List Field}
    (ho : family.identifierOrder = field :: rest) (hne : e.nameText field ≠ "") :
    e.nameIn family = e.nameText field := by
  rw [nameIn, ho, List.map_cons, List.find?_cons_of_pos (by simpa using hne), Option.getD_some]

theorem nameIn_of_second {family : CredentialFamily} {first : Field} {rest : List Field}
    (ho : family.identifierOrder = first :: field :: rest) (hblank : e.nameText first = "")
    (hne : e.nameText field ≠ "") : e.nameIn family = e.nameText field := by
  rw [nameIn, ho, List.map_cons, List.map_cons, List.find?_cons_of_neg (by simpa using hblank),
    List.find?_cons_of_pos (by simpa using hne), Option.getD_some]

theorem HasIdentity.identifier_ne_empty {K : Identity} (h : e.HasIdentity K) :
    e.identifier ≠ "" := by
  cases h with
  | email h =>
    intro hi
    rw [identifier_eq_nameIn, nameIn_eq_empty_iff, ← normalizedEmail_eq_empty_iff] at hi
    exact h hi.2.2
  | identifier _ hi => exact hi

theorem HasIdentity.kind_eq_email_iff {K : Identity} (h : e.HasIdentity K) :
    K.kind = .email ↔ e.normalizedEmail ≠ "" := by
  cases h with
  | email h => simp [h]
  | identifier h => simp [h]

/-- Beside protocol and email it is the identifier alone that tells identities apart. -/
theorem identity?_eq_iff {a b : Entry} (hp : a.normalizedProtocol = b.normalizedProtocol)
    (hm : a.normalizedEmail = b.normalizedEmail) :
    a.identity? = b.identity? ↔ b.normalizedEmail ≠ "" ∨ a.identifier = b.identifier := by
  rw [identity?, identity?, hp, hm]
  by_cases he : b.normalizedEmail = ""
  · by_cases ha : a.identifier = "" <;> by_cases hb : b.identifier = ""
    · simp [he, ha, hb]
    · simp [he, ha, hb, Ne.symm hb]
    · simp [he, ha, hb]
    · simp [he, ha, hb]
  · simp [he]

theorem HasIdentity.normalizedEmail_eq {K : Identity} (h : e.HasIdentity K) :
    e.normalizedEmail = if K.kind = .email then K.value else "" := by
  cases h with
  | email => rfl
  | identifier h => exact h

def Nameless (e : Entry) : Prop :=
  trim e.id = "" ∧ trim e.password = "" ∧ trim (e.email.getD "") = ""

instance : DecidablePred Nameless := fun _ => inferInstanceAs (Decidable (_ ∧ _ ∧ _))

theorem identity?_eq_none_iff : e.identity? = none ↔ e.Nameless := by
  rw [identity?_eq_none_iff_blank, normalizedEmail_eq_empty_iff, identifier_eq_nameIn,
    nameIn_eq_empty_iff]
  constructor
  · exact And.right
  · intro h
    exact ⟨h.2.2, h⟩

end Entry

theorem unidentifiable_eq (entries : List Entry) :
    unidentifiable entries = entries.countP fun e => e.Nameless := by
  refine List.countP_congr fun _ _ => ?_
  rw [Option.isNone_iff_eq_none, Entry.identity?_eq_none_iff, decide_eq_true_eq]

end FleetDrift
