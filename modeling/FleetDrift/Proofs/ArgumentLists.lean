import FleetDrift.CommandLine.Options
import FleetDrift.Proofs.WellFormedReading
import Mathlib.Data.List.Nodup

/-! # What arguments ask for
Arguments spell out options in long and short forms. Which run they ask for depends on the options
that are given, whatever their forms and their order. The delicate case is that of letters that are
run together: a letter with a value takes all that follows it, or else the next argument. -/
namespace FleetDrift.CommandLine

def OptionName.long : OptionName → String
  | value .config => "config"
  | value .input => "input"
  | value .format => "format"
  | value .plan => "plan"
  | value .protocol => "protocol"
  | value .source => "source"
  | flag .dryRun => "dry-run"
  | flag .perf => "perf"
  | flag .verbose => "verbose"
  | flag .quiet => "quiet"
  | help => "help"

def OptionName.letter? : OptionName → Option Char
  | value .config => some 'c'
  | value .format => some 'f'
  | flag .verbose => some 'v'
  | flag .quiet => some 'q'
  | help => some 'h'
  | _ => none

inductive Item where
  | flag (o : FlagOption)
  | value (o : ValueOption) (text : String)
  deriving DecidableEq, Repr

def Item.option : Item → OptionName
  | flag o => .flag o
  | value o _ => .value o

/-- What letters after one dash give, and the option that takes the next argument as its value. -/
inductive LettersGive : List Char → List Item → Option ValueOption → Prop where
  | nil : LettersGive [] [] none
  | flag {o : FlagOption} {c : Char} {cs : List Char} {items : List Item}
      {waiting : Option ValueOption} : OptionName.letter? (.flag o) = some c →
      LettersGive cs items waiting → LettersGive (c :: cs) (.flag o :: items) waiting
  | waiting {o : ValueOption} {c : Char} : OptionName.letter? (.value o) = some c →
      LettersGive [c] [] (some o)
  | attached {o : ValueOption} {c d : Char} {cs : List Char} :
      OptionName.letter? (.value o) = some c → d ≠ '=' →
      LettersGive (c :: d :: cs) [.value o (String.ofList (d :: cs))] none
  | equals {o : ValueOption} {c : Char} {cs : List Char} :
      OptionName.letter? (.value o) = some c →
      LettersGive (c :: '=' :: cs) [.value o (String.ofList cs)] none

/-- What arguments give, of which the first is a value if an option waits for one. -/
inductive Gives : Option ValueOption → List String → List Item → Prop where
  | nil : Gives none [] []
  | stop : Gives none ["--"] []
  | taken {o : ValueOption} {text : String} {args : List String} {items : List Item} :
      (∀ c cs, text.toList ≠ '-' :: c :: cs) → Gives none args items →
      Gives (some o) (text :: args) (.value o text :: items)
  | flag {o : FlagOption} {args : List String} {items : List Item} : Gives none args items →
      Gives none (("--" ++ OptionName.long (.flag o)) :: args) (.flag o :: items)
  | waiting {o : ValueOption} {args : List String} {items : List Item} :
      Gives (some o) args items →
      Gives none (("--" ++ OptionName.long (.value o)) :: args) items
  | attached {o : ValueOption} {text : String} {args : List String} {items : List Item} :
      Gives none args items →
      Gives none (("--" ++ OptionName.long (.value o) ++ "=" ++ text) :: args)
        (.value o text :: items)
  | letters {c : Char} {cs : List Char} {waiting : Option ValueOption} {args : List String}
      {given items : List Item} : LettersGive (c :: cs) given waiting → Gives waiting args items →
      Gives none (String.ofList ('-' :: c :: cs) :: args) (given ++ items)

structure Admitted (items : List Item) : Prop where
  once : (items.map Item.option).Nodup
  config : .value .config "" ∉ items
  input : .value .input "" ∉ items

/-- What run is asked for by options that are given. -/
structure RunOf (items : List Item) (o : Options) : Prop extends Admitted items where
  loudness : .flag .verbose ∉ items ∨ .flag .quiet ∉ items
  dryRun : o.dryRun = true ↔ .flag .dryRun ∈ items
  perf : o.perf = true ↔ .flag .perf ∈ items
  settings : ∀ path, o.config = some path ↔ .value .config path ∈ items
  snapshot : ∀ path, o.input = some path ↔ .value .input path ∈ items
  format : .value .format o.format ∈ items ∨
    o.format = "all" ∧ ∀ name, .value .format name ∉ items
  noPlan : o.plan = none → ∀ text, .value .plan text ∉ items ∧ .value .protocol text ∉ items ∧
    .value .source text ∉ items
  plan : ∀ q, o.plan = some q → .value .plan q.identity ∈ items ∧
    .value .protocol q.protocol ∈ items ∧ ∀ text, q.source = some text ↔ .value .source text ∈ items

def Asks (args : List String) (o : Options) : Prop := ∃ items, Gives none args items ∧ RunOf items o

theorem forall_option {P : OptionName → Prop} (h : ∀ e ∈ optionTable, P e.option)
    (o : OptionName) : P o := by
  have hmem : o ∈ optionTable.map (·.option) := by
    cases o with
    | flag o => cases o <;> decide
    | value o => cases o <;> decide
    | help => decide
  obtain ⟨e, he, rfl⟩ := List.mem_map.mp hmem
  exact h e he

theorem spelled_of_mem_optionTable : ∀ e ∈ optionTable,
    e.letter = e.option.letter? ∧ e.long = e.option.long := by
  simp [optionTable, OptionName.letter?, OptionName.long]

theorem ofLetter?_eq_some_iff {c : Char} {o : OptionName} :
    OptionName.ofLetter? c = some o ↔ o.letter? = some c := by
  constructor
  · intro h
    obtain ⟨e, he, rfl⟩ := Option.map_eq_some_iff.mp h
    have hletter := List.find?_some he
    rw [← (spelled_of_mem_optionTable e (List.mem_of_find?_eq_some he)).1]
    exact of_decide_eq_true hletter
  · intro h
    rw [OptionName.letter?.eq_def] at h
    split at h <;> cases h <;> rfl

theorem ofLong?_long (o : OptionName) : OptionName.ofLong? o.long = some o :=
  forall_option (P := fun o => OptionName.ofLong? o.long = some o) (by decide) o

theorem long_of_ofLong? {s : String} {o : OptionName} (h : OptionName.ofLong? s = some o) :
    o.long = s := by
  obtain ⟨e, he, rfl⟩ := Option.map_eq_some_iff.mp h
  have hlong := List.find?_some he
  rw [← (spelled_of_mem_optionTable e (List.mem_of_find?_eq_some he)).2]
  exact of_decide_eq_true hlong

theorem equals_not_mem_long (o : OptionName) : '=' ∉ o.long.toList :=
  forall_option (P := fun o => '=' ∉ o.long.toList) (by decide) o

theorem long_ne_nil (o : OptionName) : o.long.toList ≠ [] :=
  forall_option (P := fun o => o.long.toList ≠ []) (by decide) o

theorem letter?_ne_dash (o : OptionName) : o.letter? ≠ some '-' :=
  forall_option (P := fun o => o.letter? ≠ some '-') (by decide) o

namespace Given

variable {g g' : Given} {items : List Item}

def add (g : Given) : Item → Except Halt Given
  | .flag o => g.addFlag o
  | .value o text => g.addValue o text

def addAll (g : Given) (items : List Item) : Except Halt Given := items.foldlM add g

theorem addAll_cons (g : Given) (item : Item) (items : List Item) :
    g.addAll (item :: items) = (do (← g.add item).addAll items) := List.foldlM_cons

theorem addAll_append (g : Given) (xs items : List Item) :
    g.addAll (xs ++ items) = (do (← g.addAll xs).addAll items) := List.foldlM_append

theorem addAll_singleton (g : Given) (item : Item) : g.addAll [item] = g.add item := by
  rw [addAll_cons]
  cases g.add item <;> rfl

end Given

variable {g g' : Given} {cs : List Char} {items : List Item} {waiting : Option ValueOption}
  {args : List String}

theorem addLetters_of_give (h : LettersGive cs items waiting) (g : Given) :
    addLetters g cs = (do .ok (← g.addAll items, waiting)) := by
  induction h generalizing g with
  | nil => rfl
  | flag ho _ ih =>
    rw [addLetters, ofLetter?_eq_some_iff.mpr ho, Given.addAll_cons, bind_assoc]
    simp only [ih]
    rfl
  | waiting ho =>
    rw [addLetters, ofLetter?_eq_some_iff.mpr ho]
    rfl
  | attached ho hd =>
    rw [addLetters, ofLetter?_eq_some_iff.mpr ho, Given.addAll_singleton]
    simp only
    split
    · next heq => cases heq
    · next heq => exact absurd (List.cons.inj heq).1 hd
    · rfl
  | equals ho =>
    rw [addLetters, ofLetter?_eq_some_iff.mpr ho, Given.addAll_singleton]
    rfl

theorem exists_lettersGive (h : addLetters g cs = .ok (g', waiting)) :
    ∃ items, LettersGive cs items waiting := by
  induction cs generalizing g with
  | nil =>
    cases h
    exact ⟨[], .nil⟩
  | cons c cs ih =>
    rw [addLetters] at h
    split at h
    · cases h
    · cases h
    · next o ho =>
      obtain ⟨g₁, -, h⟩ := Json.bind_eq_ok.mp h
      obtain ⟨items, hitems⟩ := ih h
      exact ⟨_, .flag (ofLetter?_eq_some_iff.mp ho) hitems⟩
    · next o ho =>
      rw [ofLetter?_eq_some_iff] at ho
      split at h
      · cases h
        exact ⟨_, .waiting ho⟩
      · obtain ⟨g₁, -, h⟩ := Json.bind_eq_ok.mp h
        cases h
        exact ⟨_, .equals ho⟩
      · next hsome hequals =>
        obtain ⟨g₁, -, h⟩ := Json.bind_eq_ok.mp h
        cases h
        cases cs with
        | nil => exact absurd rfl hsome
        | cons d ds =>
          refine ⟨_, .attached ho ?_⟩
          rintro rfl
          exact hequals ds rfl

theorem takeWhile_long (name : OptionName) (rest : List Char)
    (hrest : rest.takeWhile (· ≠ '=') = []) :
    (name.long.toList ++ rest).takeWhile (· ≠ '=') = name.long.toList := by
  rw [List.takeWhile_append_of_pos, hrest, List.append_nil]
  rintro c hc
  have hne : c ≠ '=' := fun heq => equals_not_mem_long name (heq ▸ hc)
  exact decide_eq_true hne

theorem addLong_flag (g : Given) (o : FlagOption) :
    addLong g (OptionName.long (.flag o)).toList = (do .ok (← g.addFlag o, none)) := by
  have hname := takeWhile_long (.flag o) [] rfl
  rw [List.append_nil] at hname
  simp only [addLong, hname, String.ofList_toList, ofLong?_long, List.drop_length]

theorem addLong_waiting (g : Given) (o : ValueOption) :
    addLong g (OptionName.long (.value o)).toList = .ok (g, some o) := by
  have hname := takeWhile_long (.value o) [] rfl
  rw [List.append_nil] at hname
  simp only [addLong, hname, String.ofList_toList, ofLong?_long, List.drop_length]

theorem addLong_attached (g : Given) (o : ValueOption) (value : List Char) :
    addLong g ((OptionName.long (.value o)).toList ++ '=' :: value) =
      (do .ok (← g.addValue o (String.ofList value), none)) := by
  have hname := takeWhile_long (.value o) ('=' :: value) (List.takeWhile_cons_of_neg (by simp))
  simp only [addLong, hname, String.ofList_toList, ofLong?_long, List.drop_left]

/-- A long option that is accepted is a flag, an option that waits for its value, or one with a
value after the sign. -/
theorem addLong_eq_ok (h : addLong g cs = .ok (g', waiting)) :
    (∃ o, cs = (OptionName.long (.flag o)).toList ∧ waiting = none) ∨
    (∃ o, cs = (OptionName.long (.value o)).toList ∧ waiting = some o) ∨
    ∃ o value, cs = (OptionName.long (.value o)).toList ++ '=' :: value ∧ waiting = none := by
  obtain ⟨name, hname⟩ : ∃ name, cs.takeWhile (· ≠ '=') = name := ⟨_, rfl⟩
  obtain ⟨rest, hrest⟩ : ∃ rest, cs.dropWhile (· ≠ '=') = rest := ⟨_, rfl⟩
  have hcs : cs = name ++ rest := by rw [← hname, ← hrest, List.takeWhile_append_dropWhile]
  have hdrop : cs.drop name.length = rest := by rw [hcs, List.drop_left]
  have hlong : ∀ {o}, OptionName.ofLong? (String.ofList name) = some o → o.long.toList = name := by
    intro o ho
    rw [long_of_ofLong? ho, String.toList_ofList]
  simp only [addLong, hname, hdrop] at h
  split at h
  · cases h
  · next o ho =>
    obtain ⟨g₁, -, h⟩ := Json.bind_eq_ok.mp h
    cases h
    exact .inl ⟨o, by rw [hcs, hlong ho, List.append_nil], rfl⟩
  · next o ho =>
    cases h
    exact .inr (.inl ⟨o, by rw [hcs, hlong ho, List.append_nil], rfl⟩)
  · next o c value ho =>
    obtain ⟨g₁, -, h⟩ := Json.bind_eq_ok.mp h
    cases h
    -- what follows the name begins where the sign is
    have hne : cs.dropWhile (· ≠ '=') ≠ [] := hrest ▸ List.cons_ne_nil c value
    have hsign := List.head_dropWhile_not (· ≠ '=') hne
    simp only [hrest, List.head_cons] at hsign
    have hc : c = '=' := not_not.mp (of_decide_eq_false hsign)
    exact .inr (.inr ⟨o, value, by rw [hcs, hlong ho, hc], rfl⟩)
  · cases h

theorem looksLikeOption_eq_true {cs : List Char} :
    looksLikeOption cs = true ↔ ∃ c rest, cs = '-' :: c :: rest := by
  constructor
  · intro h
    rw [looksLikeOption.eq_def] at h
    split at h
    · exact ⟨_, _, rfl⟩
    · cases h
  · rintro ⟨c, rest, rfl⟩
    rfl

theorem addArguments_dashes {arg : String} (hdashes : arg.toList = '-' :: '-' :: cs)
    (hcs : cs ≠ []) (g : Given) (args : List String) : addArguments g none (arg :: args) = (do
      let (g, waiting) ← addLong g cs
      addArguments g waiting args) := by
  cases cs with
  | nil => exact absurd rfl hcs
  | cons c cs =>
    rw [addArguments, hdashes]
    rfl

theorem addArguments_dash {arg : String} {c : Char} (hdash : arg.toList = '-' :: c :: cs)
    (hc : c ≠ '-') (g : Given) (args : List String) : addArguments g none (arg :: args) = (do
      let (g, waiting) ← addLetters g (c :: cs)
      addArguments g waiting args) := by
  rw [addArguments, hdash]
  split
  · next heq => exact absurd (List.cons.inj (List.cons.inj heq).2).1 hc
  · next heq => exact absurd (List.cons.inj (List.cons.inj heq).2).1 hc
  · next heq =>
    cases heq
    rfl
  · next hne => exact absurd rfl (hne c cs)

theorem toList_dashes (text : String) : ("--" ++ text).toList = '-' :: '-' :: text.toList :=
  String.toList_append

theorem lettersGive_head_ne_dash {c : Char} (h : LettersGive (c :: cs) items waiting) :
    c ≠ '-' := by
  rintro rfl
  cases h with
  | flag ho => exact letter?_ne_dash _ ho
  | waiting ho => exact letter?_ne_dash _ ho
  | attached ho => exact letter?_ne_dash _ ho
  | equals ho => exact letter?_ne_dash _ ho

theorem addArguments_of_gives (h : Gives waiting args items) (g : Given) :
    addArguments g waiting args = g.addAll items := by
  induction h generalizing g with
  | nil => rfl
  | stop => rfl
  | @taken o text _ _ htext _ ih =>
    have hvalue : ¬ looksLikeOption text.toList = true := by
      rintro h
      obtain ⟨c, rest, heq⟩ := looksLikeOption_eq_true.mp h
      exact htext c rest heq
    rw [addArguments, if_neg hvalue, Given.addAll_cons]
    simp only [ih]
    rfl
  | @flag o args _ _ ih =>
    rw [addArguments_dashes (toList_dashes _) (long_ne_nil _), addLong_flag, Given.addAll_cons,
      bind_assoc]
    simp only [← ih]
    rfl
  | @waiting o args _ _ ih =>
    rw [addArguments_dashes (toList_dashes _) (long_ne_nil _), addLong_waiting]
    exact ih g
  | @attached o text args _ _ ih =>
    have htext : ("--" ++ OptionName.long (.value o) ++ "=" ++ text).toList =
        '-' :: '-' :: ((OptionName.long (.value o)).toList ++ '=' :: text.toList) := by
      simp [String.toList_append]
    rw [addArguments_dashes htext (by simp), addLong_attached, String.ofList_toList,
      Given.addAll_cons, bind_assoc]
    simp only [← ih]
    rfl
  | letters hletters _ ih =>
    rw [addArguments_dash String.toList_ofList (lettersGive_head_ne_dash hletters),
      addLetters_of_give hletters, Given.addAll_append, bind_assoc]
    simp only [← ih]
    rfl

theorem exists_gives (h : addArguments g waiting args = .ok g') :
    ∃ items, Gives waiting args items := by
  induction args generalizing g waiting with
  | nil =>
    cases waiting with
    | none => exact ⟨[], .nil⟩
    | some o => cases h
  | cons arg args ih =>
    cases waiting with
    | some o =>
      rw [addArguments] at h
      split at h
      · cases h
      · next hvalue =>
        obtain ⟨g₁, -, h⟩ := Json.bind_eq_ok.mp h
        obtain ⟨items, hitems⟩ := ih h
        refine ⟨_, .taken (fun c rest heq => hvalue ?_) hitems⟩
        exact looksLikeOption_eq_true.mpr ⟨c, rest, heq⟩
    | none =>
      rw [addArguments] at h
      split at h
      · next heq =>
        split at h
        · next hargs =>
          cases List.isEmpty_iff.mp hargs
          cases String.toList_inj.mp (heq.trans (toList_dashes "").symm)
          exact ⟨[], .stop⟩
        · cases h
      · next cs _ heq =>
        obtain ⟨⟨g₁, waiting⟩, hlong, h⟩ := Json.bind_eq_ok.mp h
        obtain ⟨items, hitems⟩ := ih h
        have harg : ∀ text : String, cs = text.toList → arg = "--" ++ text := by
          rintro text rfl
          exact String.toList_inj.mp (heq.trans (toList_dashes text).symm)
        obtain ⟨o, hcs, rfl⟩ | ⟨o, hcs, rfl⟩ | ⟨o, value, hcs, rfl⟩ := addLong_eq_ok hlong
        · rw [harg _ hcs]
          exact ⟨_, .flag hitems⟩
        · rw [harg _ hcs]
          exact ⟨_, .waiting hitems⟩
        · rw [harg (OptionName.long (.value o) ++ "=" ++ String.ofList value)
            (by simp [hcs, String.toList_append]), ← String.append_assoc, ← String.append_assoc]
          exact ⟨_, .attached hitems⟩
      · next c cs _ heq =>
        obtain ⟨⟨g₁, waiting⟩, hletters, h⟩ := Json.bind_eq_ok.mp h
        obtain ⟨items, hitems⟩ := ih h
        obtain ⟨given, hgiven⟩ := exists_lettersGive hletters
        rw [← String.ofList_toList (s := arg), heq]
        exact ⟨_, .letters hgiven hitems⟩
      · cases h

theorem ite_error_eq_ok {α ε : Type} {p : Prop} [Decidable p] {e : ε} {a b : α} :
    (if p then Except.error e else .ok a) = .ok b ↔ ¬ p ∧ a = b := by
  by_cases hp : p <;> simp [hp]

namespace Given

def ofItems (items : List Item) : Given where
  values := items.filterMap fun
    | .value o text => some (o, text)
    | .flag _ => none
  flags := items.filterMap fun
    | .flag o => some o
    | .value _ _ => none

theorem mem_values_ofItems {items : List Item} {o : ValueOption} {text : String} :
    (o, text) ∈ (ofItems items).values ↔ .value o text ∈ items := by
  simp only [ofItems, List.mem_filterMap]
  constructor
  · rintro ⟨item, hitem, heq⟩
    cases item with
    | flag _ => cases heq
    | value _ _ =>
      cases heq
      exact hitem
  · intro h
    exact ⟨_, h, rfl⟩

theorem has_ofItems {items : List Item} {o : FlagOption} :
    (ofItems items).has o = true ↔ .flag o ∈ items := by
  simp only [has, ofItems, decide_eq_true_eq, List.mem_filterMap]
  constructor
  · rintro ⟨item, hitem, heq⟩
    cases item with
    | flag _ =>
      cases heq
      exact hitem
    | value _ _ => cases heq
  · intro h
    exact ⟨_, h, rfl⟩

theorem value?_mem {items : List Item} {o : ValueOption} {text : String}
    (h : (ofItems items).value? o = some text) : .value o text ∈ items := by
  obtain ⟨⟨o', text⟩, hfound, rfl⟩ := Option.map_eq_some_iff.mp h
  have ho := List.find?_some hfound
  cases of_decide_eq_true ho
  exact mem_values_ofItems.mp (List.mem_of_find?_eq_some hfound)

theorem value?_isSome {items : List Item} {o : ValueOption} :
    ((ofItems items).value? o).isSome = true ↔ .value o ∈ items.map Item.option := by
  rw [value?, Option.isSome_map, List.find?_isSome]
  constructor
  · rintro ⟨⟨o', text⟩, hmem, heq⟩
    cases of_decide_eq_true heq
    exact List.mem_map.mpr ⟨_, mem_values_ofItems.mp hmem, rfl⟩
  · intro h
    obtain ⟨item, hitem, heq⟩ := List.mem_map.mp h
    cases item with
    | flag _ => cases heq
    | value o' text =>
      cases heq
      exact ⟨_, mem_values_ofItems.mpr hitem, decide_eq_true rfl⟩

theorem value?_eq_some_iff {items : List Item} (h : (items.map Item.option).Nodup) {o : ValueOption}
    {text : String} : (ofItems items).value? o = some text ↔ .value o text ∈ items := by
  refine ⟨value?_mem, fun hmem => ?_⟩
  obtain ⟨found, hfound⟩ := Option.isSome_iff_exists.mp
    (value?_isSome.mpr (List.mem_map_of_mem hmem : Item.option (.value o text) ∈ _))
  cases List.inj_on_of_nodup_map h (value?_mem hfound) hmem rfl
  exact hfound

theorem value?_eq_iff {items : List Item} (h : (items.map Item.option).Nodup) {o : ValueOption}
    {found : Option String} : (ofItems items).value? o = found ↔
      ∀ text, found = some text ↔ .value o text ∈ items := by
  simp only [← value?_eq_some_iff h]
  constructor
  · rintro rfl text
    rfl
  · intro hfound
    exact Option.ext fun text => (hfound text).symm

theorem value?_eq_none_iff {items : List Item} (h : (items.map Item.option).Nodup)
    {o : ValueOption} : (ofItems items).value? o = none ↔ ∀ text, .value o text ∉ items := by
  simp [value?_eq_iff h]

theorem addFlag_ofItems (items : List Item) (o : FlagOption) :
    (ofItems items).addFlag o =
      if (ofItems items).has o then .error .usageError else .ok (ofItems (items ++ [.flag o])) := by
  have hadded : ofItems (items ++ [.flag o]) =
      { ofItems items with flags := (ofItems items).flags ++ [o] } := by simp [ofItems]
  rw [hadded]
  rfl

theorem addValue_ofItems (items : List Item) (o : ValueOption) (text : String) :
    (ofItems items).addValue o text =
      if ((ofItems items).value? o).isSome || !acceptsValue o text then .error .usageError
      else .ok (ofItems (items ++ [.value o text])) := by
  have hadded : ofItems (items ++ [.value o text]) =
      { ofItems items with values := (ofItems items).values ++ [(o, text)] } := by simp [ofItems]
  rw [hadded]
  rfl

theorem acceptsValue_eq_true {o : ValueOption} {text : String} : acceptsValue o text = true ↔
    Item.value o text ≠ .value .config "" ∧ Item.value o text ≠ .value .input "" := by
  cases o <;> simp [acceptsValue]

theorem has_ofItems_iff_option {items : List Item} {o : FlagOption} :
    (ofItems items).has o = true ↔ OptionName.flag o ∈ items.map Item.option := by
  rw [has_ofItems, List.mem_map]
  constructor
  · intro h
    exact ⟨_, h, rfl⟩
  · rintro ⟨item, hitem, heq⟩
    cases item with
    | flag _ =>
      cases heq
      exact hitem
    | value _ _ => cases heq

theorem add_ofItems {items : List Item} {item : Item} : (ofItems items).add item = .ok g ↔
    (item.option ∉ items.map Item.option ∧ item ≠ .value .config "" ∧ item ≠ .value .input "") ∧
      ofItems (items ++ [item]) = g := by
  cases item with
  | flag o =>
    rw [add, addFlag_ofItems, ite_error_eq_ok, has_ofItems_iff_option]
    simp [Item.option]
  | value o text =>
    rw [add, addValue_ofItems, ite_error_eq_ok, Bool.or_eq_true, value?_isSome, not_or,
      Bool.not_eq_true', Bool.not_eq_false, acceptsValue_eq_true]
    rfl

theorem addAll_eq_ok (items : List Item) (g : Given) :
    addAll ⟨[], []⟩ items = .ok g ↔ Admitted items ∧ ofItems items = g := by
  induction items using List.reverseRecOn generalizing g with
  | nil =>
    have hnone : Admitted [] := ⟨List.nodup_nil, List.not_mem_nil, List.not_mem_nil⟩
    simp [addAll, hnone, ofItems, pure, Except.pure]
  | append_singleton items item ih =>
    have hadmitted : Admitted (items ++ [item]) ↔ Admitted items ∧
        item.option ∉ items.map Item.option ∧ item ≠ .value .config "" ∧
          item ≠ .value .input "" := by
      constructor
      · rintro ⟨hnodup, hconfig, hinput⟩
        simp only [List.map_append, List.map_cons, List.map_nil, List.nodup_append,
          List.mem_append, List.mem_singleton, not_or] at hnodup hconfig hinput
        exact ⟨⟨hnodup.1, hconfig.1, hinput.1⟩,
          fun hmem => hnodup.2.2 _ hmem _ rfl rfl, Ne.symm hconfig.2, Ne.symm hinput.2⟩
      · rintro ⟨⟨hnodup, hconfig, hinput⟩, hoption, hneConfig, hneInput⟩
        refine ⟨?_, ?_, ?_⟩
        · simpa using hnodup.concat hoption
        · simpa using ⟨hconfig, hneConfig.symm⟩
        · simpa using ⟨hinput, hneInput.symm⟩
    rw [addAll_append, Json.bind_eq_ok]
    simp only [ih, addAll_singleton, hadmitted]
    constructor
    · rintro ⟨_, ⟨hitems, rfl⟩, hitem⟩
      obtain ⟨hitem, hg⟩ := add_ofItems.mp hitem
      exact ⟨⟨hitems, hitem⟩, hg⟩
    · rintro ⟨⟨hitems, hitem⟩, hg⟩
      exact ⟨_, ⟨hitems, rfl⟩, add_ofItems.mpr ⟨hitem, hg⟩⟩

end Given

theorem runOf_of_ofGiven {items : List Item} {o : Options} (h : Admitted items)
    (ho : Options.ofGiven (.ofItems items) = .ok o) : RunOf items o := by
  have hformat : .value .format (((Given.ofItems items).value? .format).getD "all") ∈ items ∨
      ((Given.ofItems items).value? .format).getD "all" = "all" ∧
        ∀ name, .value .format name ∉ items := by
    cases hname : (Given.ofItems items).value? .format with
    | none => exact .inr ⟨rfl, (Given.value?_eq_none_iff h.once).mp hname⟩
    | some name => exact .inl (Given.value?_mem hname)
  rw [Options.ofGiven] at ho
  split at ho
  · cases ho
  · next hloud =>
    rw [Bool.and_eq_true, Given.has_ofItems, Given.has_ofItems, not_and_or] at hloud
    simp only at ho
    split at ho
    · next hplan hprotocol hsource =>
      rw [Given.value?_eq_none_iff h.once] at hplan hprotocol hsource
      cases ho
      refine ⟨h, hloud, Given.has_ofItems, Given.has_ofItems,
        fun _ => Given.value?_eq_some_iff h.once, fun _ => Given.value?_eq_some_iff h.once, hformat,
        fun _ text => ⟨hplan text, hprotocol text, hsource text⟩, ?_⟩
      rintro q ⟨⟩
    · next identity protocol hplan hprotocol =>
      cases ho
      refine ⟨h, hloud, Given.has_ofItems, Given.has_ofItems,
        fun _ => Given.value?_eq_some_iff h.once, fun _ => Given.value?_eq_some_iff h.once, hformat,
        ?_, ?_⟩
      · rintro ⟨⟩
      · rintro q ⟨⟩
        exact ⟨Given.value?_mem hplan, Given.value?_mem hprotocol,
          fun _ => Given.value?_eq_some_iff h.once⟩
    · cases ho

theorem RunOf.ofGiven {items : List Item} {o : Options} (h : RunOf items o) :
    Options.ofGiven (.ofItems items) = .ok o := by
  have hvalue : ∀ {name : ValueOption} {text : String}, .value name text ∈ items →
      (Given.ofItems items).value? name = some text := (Given.value?_eq_some_iff h.once).mpr
  have hloud :
      ¬ ((Given.ofItems items).has .verbose && (Given.ofItems items).has .quiet) = true := by
    rw [Bool.and_eq_true, Given.has_ofItems, Given.has_ofItems, not_and_or]
    exact h.loudness
  have hconfig : (Given.ofItems items).value? .config = o.config :=
    (Given.value?_eq_iff h.once).mpr h.settings
  have hinput : (Given.ofItems items).value? .input = o.input :=
    (Given.value?_eq_iff h.once).mpr h.snapshot
  have hformat : ((Given.ofItems items).value? .format).getD "all" = o.format := by
    rcases h.format with hgiven | ⟨hall, hnone⟩
    · rw [hvalue hgiven]
      rfl
    · rw [(Given.value?_eq_none_iff h.once).mpr hnone, hall]
      rfl
  have hdryRun : (Given.ofItems items).has .dryRun = o.dryRun :=
    Bool.eq_iff_iff.mpr (Given.has_ofItems.trans h.dryRun.symm)
  have hperf : (Given.ofItems items).has .perf = o.perf :=
    Bool.eq_iff_iff.mpr (Given.has_ofItems.trans h.perf.symm)
  rw [Options.ofGiven, if_neg hloud]
  simp only [hconfig, hinput, hformat, hdryRun, hperf]
  cases hplan : o.plan with
  | none =>
    have hnone := h.noPlan hplan
    rw [(Given.value?_eq_none_iff h.once).mpr fun text => (hnone text).1,
      (Given.value?_eq_none_iff h.once).mpr fun text => (hnone text).2.1,
      (Given.value?_eq_none_iff h.once).mpr fun text => (hnone text).2.2]
    simp only [← hplan]
  | some q =>
    obtain ⟨hidentity, hprotocol, hsource⟩ := h.plan q hplan
    rw [hvalue hidentity, hvalue hprotocol, (Given.value?_eq_iff h.once).mpr hsource]
    simp only [← hplan]

theorem ofArguments_eq_ok_iff {args : List String} {o : Options} :
    Options.ofArguments args = .ok o ↔ Asks args o := by
  rw [Options.ofArguments, Json.bind_eq_ok]
  constructor
  · rintro ⟨g, hargs, ho⟩
    obtain ⟨items, hitems⟩ := exists_gives hargs
    rw [addArguments_of_gives hitems] at hargs
    obtain ⟨hadmitted, rfl⟩ := (Given.addAll_eq_ok items g).mp hargs
    exact ⟨items, hitems, runOf_of_ofGiven hadmitted ho⟩
  · rintro ⟨items, hitems, ho⟩
    refine ⟨.ofItems items, ?_, ho.ofGiven⟩
    rw [addArguments_of_gives hitems]
    exact (Given.addAll_eq_ok items _).mpr ⟨ho.toAdmitted, rfl⟩

end FleetDrift.CommandLine
