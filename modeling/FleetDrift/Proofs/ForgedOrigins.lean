import FleetDrift.Proofs.SettingsTexts
import Mathlib.Data.List.Forall2

/-! # What clients say of their origin

A client object may carry the fields that tell where an entry was found. They are decoded and then
overwritten, so whatever stands there an entry is of the inbound that lists the client. What a
client says of itself can still cost its inbound all entries: settings in the form of a text are
read with a limited depth, and a value beyond that makes the whole text unreadable.
-/

namespace FleetDrift

open Json (Value Fields)

def Entry.originKeys : List Entry.Key :=
  [.serverId, .serverName, .inboundId, .inboundRemark, .protocol]

namespace Inbound

variable {origin : Origin} {inbound inbound' : Inbound} {client client' : Value}
  {clients clients' : List Value} {es : List Entry}

structure Stamped (origin : Origin) (inbound : Inbound) (client : Value) (e : Entry) : Prop where
  serverId : e.serverId = origin.id
  serverName : e.serverName = origin.name
  inboundId : e.inboundId = inbound.id
  inboundRemark : e.inboundRemark = inbound.remark
  protocol : e.protocol = inbound.protocol
  decoded : ∃ d, Entry.ofValue? client = .ok d ∧ e = inbound.stamp origin d

theorem entryOfClient_eq_ok_iff {index : Nat} {e : Entry} :
    inbound.entryOfClient origin index client = .ok e ↔ inbound.Stamped origin client e := by
  rw [entryOfClient]
  constructor
  · intro h
    cases hd : Entry.ofValue? client with
    | ok d =>
      rw [hd] at h
      cases h
      exact ⟨rfl, rfl, rfl, rfl, rfl, d, hd, rfl⟩
    | error m =>
      rw [hd] at h
      cases h
  · rintro ⟨-, -, -, -, -, d, hd, rfl⟩
    rw [hd]

theorem entriesFrom_eq_ok_iff {index : Nat} : inbound.entriesFrom origin index clients = .ok es ↔
    List.Forall₂ (inbound.Stamped origin) clients es := by
  induction clients generalizing index es with
  | nil =>
    rw [entriesFrom, List.forall₂_nil_left_iff, Except.ok.injEq, eq_comm]
  | cons client clients ih =>
    simp only [entriesFrom, Json.bind_eq_ok, entryOfClient_eq_ok_iff, ih, Except.ok.injEq]
    constructor
    · rintro ⟨e, he, rest, hrest, rfl⟩
      exact .cons he hrest
    · rintro (_ | ⟨he, hrest⟩)
      exact ⟨_, he, _, hrest, rfl⟩

/-- What an inbound gives: one entry for each client that it lists, in their order, or nothing. -/
inductive Gives (origin : Origin) (inbound : Inbound) : List Entry → Prop
  | all {clients : List Value} {es : List Entry} (accepted : inbound.entries origin = .ok es)
      (listed : inbound.clientValues = .ok clients)
      (stamped : List.Forall₂ (inbound.Stamped origin) clients es) : Gives origin inbound es
  | nothing {fault : InboundFault} (skipped : inbound.entries origin = .error fault) :
      Gives origin inbound []

theorem gives_contribution (origin : Origin) (inbound : Inbound) :
    inbound.Gives origin (inbound.contribution origin) := by
  rw [contribution]
  cases h : inbound.entries origin with
  | error fault => exact .nothing h
  | ok es =>
    obtain ⟨clients, hlisted, hes⟩ := Json.bind_eq_ok.mp h
    exact .all h hlisted (entriesFrom_eq_ok_iff.mp hes)

inductive SameClient : Value → Value → Prop
  | refl (v : Value) : SameClient v v
  | object {fields fields' : Fields}
      (h : ∀ key, key ∉ Entry.originKeys.map Entry.Key.name → fields.get? key = fields'.get? key) :
      SameClient (.object fields) (.object fields')

theorem SameClient.entryOfClient_eq (h : SameClient client client') (index : Nat) :
    inbound.entryOfClient origin index client = inbound.entryOfClient origin index client' := by
  cases h with
  | refl => rfl
  | @object fields fields' h =>
    have hkept : ∀ key : Entry.Key, key.name ∉ Entry.originKeys.map Entry.Key.name →
        (fields.get? key.name).getD .null = (fields'.get? key.name).getD .null :=
      fun key hkey => congrArg (·.getD .null) (h key.name hkey)
    have hstamp : inbound.stamp origin (.ofFields fields) =
        inbound.stamp origin (.ofFields fields') := by
      simp only [stamp, Entry.ofFields, Entry.ofValues, hkept .email (by decide),
        hkept .id (by decide), hkept .password (by decide), hkept .expiryTime (by decide),
        hkept .totalGB (by decide), hkept .enable (by decide), hkept .limitIp (by decide),
        hkept .flow (by decide), hkept .subId (by decide), hkept .tgId (by decide)]
    exact congrArg Except.ok hstamp

theorem entriesFrom_withSettings (v : Value) (h : List.Forall₂ SameClient clients clients')
    (index : Nat) : (inbound.withSettings v).entriesFrom origin index clients' =
      inbound.entriesFrom origin index clients := by
  induction h generalizing index with
  | nil => rfl
  | cons h _ ih =>
    rw [entriesFrom, entriesFrom, ih, h.entryOfClient_eq]
    rfl

/-- Settings of one form that list the same clients, but for what these say of their origin. Of two
texts both can be read or neither. -/
inductive SameClients : Value → Value → Prop
  | refl (v : Value) : SameClients v v
  | object {fields fields' : Fields} {clients clients' : List Value}
      (listed : fields.get? "clients" = some (.array clients))
      (listed' : fields'.get? "clients" = some (.array clients'))
      (same : List.Forall₂ SameClient clients clients') :
      SameClients (.object fields) (.object fields')
  | array {clients clients' rest : List Value} (same : List.Forall₂ SameClient clients clients') :
      SameClients (.array (.array clients :: rest)) (.array (.array clients' :: rest))
  | text {s s' : String} {clients clients' : List Value} (read : readClients s = .ok clients)
      (read' : readClients s' = .ok clients') (same : List.Forall₂ SameClient clients clients') :
      SameClients (.string s) (.string s')
  | unreadable {s s' : String} {fault fault' : Json.Fault} (failed : readClients s = .error fault)
      (failed' : readClients s' = .error fault') : SameClients (.string s) (.string s')

def SameButOrigins (inbound inbound' : Inbound) : Prop :=
  ∃ settings, SameClients inbound.settings settings ∧ inbound' = inbound.withSettings settings

theorem exists_notBlank_of_settingsReader {cs : List Char}
    {found : Json.Bindings (List Value) × List Char} (h : settingsReader cs = .ok found) :
    ∃ c ∈ cs, Text.isBlank c = false := by
  rw [settingsReader, Json.readRecord] at h
  cases hskip : Json.skipSpaces cs with
  | nil =>
    rw [hskip] at h
    cases h
  | cons c rest =>
    have hsuffix : c :: rest <:+ cs := hskip ▸ List.dropWhile_suffix Json.isSpace
    have hc : c ∈ cs := hsuffix.mem List.mem_cons_self
    rw [hskip] at h
    dsimp only at h
    split_ifs at h with hlist hobject
    · exact ⟨c, hc, hlist ▸ by decide⟩
    · exact ⟨c, hc, hobject ▸ by decide⟩
    · exact absurd h Json.refuseType_ne_ok

theorem settingsReader_of_readClients {s : String} (h : readClients s = .ok clients) :
    ∃ found, settingsReader s.toList = .ok found := by
  rw [readClients_eq] at h
  cases hread : Json.readWholeText settingsReader s with
  | error located =>
    rw [hread] at h
    cases h
  | ok found =>
    obtain ⟨left, hfound, -⟩ := Json.readWholeText_eq_ok_iff.mp hread
    exact ⟨_, hfound⟩

theorem readClients_refused {s : String} (h : (settingsReader s.toList).toBool = false) :
    ∃ fault, readClients s = .error fault := by
  cases hread : readClients s with
  | error fault => exact ⟨fault, rfl⟩
  | ok clients =>
    obtain ⟨found, hfound⟩ := settingsReader_of_readClients hread
    rw [hfound] at h
    cases h

/-- A text that can be read is not passed over as a blank one. -/
theorem clientValues_text {s : String} (hs : inbound.settings = .string s)
    (h : readClients s = .ok clients) : inbound.clientValues = .ok clients := by
  have hnotBlank : Text.trim s ≠ "" := by
    intro hblank
    obtain ⟨found, hfound⟩ := settingsReader_of_readClients h
    obtain ⟨c, hc, hkept⟩ := exists_notBlank_of_settingsReader hfound
    rw [Text.isBlank_of_trim_eq_empty hblank c hc] at hkept
    cases hkept
  rw [clientValues_string hs hnotBlank, h]
  rfl

/-- Printed settings come back unless they are too deep; two levels of brackets are around the
clients. -/
theorem readClients_print (hclients : ∀ v ∈ clients, v.WellFormed)
    (h : ∀ v ∈ clients, v.Restorable 125) :
    readClients (Value.object [("clients", .array clients)]).print = .ok clients := by
  rw [readClients_object (List.pairwise_singleton _ _)
    (List.forall_mem_singleton.mpr (.array hclients)) (List.forall_mem_singleton.mpr (.array h))]
  rfl

theorem contribution_unreadable {s : String} {fault : Json.Fault}
    (hs : inbound.settings = .string s) (h : readClients s = .error fault) :
    inbound.contribution origin = [] := by
  rw [contribution, entries, clientValues, hs]
  dsimp only
  split_ifs
  · rfl
  · rw [h]
    rfl

theorem contribution_listed {v : Value} (hlisted : inbound.clientValues = .ok clients)
    (hlisted' : (inbound.withSettings v).clientValues = .ok clients')
    (h : List.Forall₂ SameClient clients clients') :
    (inbound.withSettings v).contribution origin = inbound.contribution origin := by
  have hentries : (inbound.withSettings v).entries origin = inbound.entries origin := by
    rw [entries, entries, hlisted, hlisted']
    exact entriesFrom_withSettings v h 0
  rw [contribution, contribution, hentries]

theorem SameButOrigins.contribution_eq (h : inbound.SameButOrigins inbound') :
    inbound'.contribution origin = inbound.contribution origin := by
  obtain ⟨v, hsame, rfl⟩ := h
  obtain ⟨id, remark, protocol, settings⟩ := inbound
  cases hsame with
  | refl => rfl
  | object listed listed' same =>
    refine contribution_listed ?_ ?_ same
    · simp only [clientValues, clientsOfSettings, listed]
      rfl
    · simp only [clientValues, withSettings, clientsOfSettings, listed']
      rfl
  | @array clients clients' rest same =>
    cases rest with
    | nil => exact contribution_listed rfl rfl same
    | cons w rest =>
      -- refused for its length
      rfl
  | text read read' same =>
    exact contribution_listed (clientValues_text rfl read) (clientValues_text rfl read') same
  | unreadable failed failed' =>
    rw [contribution_unreadable rfl failed', contribution_unreadable rfl failed]

theorem allEntries_eq_flatten (origin : Origin) (inbounds : List Inbound) :
    allEntries origin inbounds = (inbounds.map (contribution origin)).flatten :=
  List.flatMap_def

theorem allEntries_congr {inbounds inbounds' : List Inbound}
    (h : List.Forall₂ SameButOrigins inbounds inbounds') :
    allEntries origin inbounds' = allEntries origin inbounds := by
  induction h with
  | nil => rfl
  | cons h _ ih =>
    rw [allEntries_eq_flatten, allEntries_eq_flatten] at ih ⊢
    rw [List.map_cons, List.map_cons, List.flatten_cons, List.flatten_cons, ih, h.contribution_eq]

/-- Entries are of the inbound whose clients they are, in the order of the inbounds and of their
clients, and what the clients say of their origin does not matter. -/
theorem clients_cannot_forge_origin (origin : Origin) (inbounds : List Inbound) :
    (∃ given, List.Forall₂ (Gives origin) inbounds given ∧
      allEntries origin inbounds = given.flatten) ∧
    ∀ inbounds', List.Forall₂ SameButOrigins inbounds inbounds' →
      allEntries origin inbounds' = allEntries origin inbounds := by
  refine ⟨⟨inbounds.map (contribution origin), ?_, allEntries_eq_flatten origin inbounds⟩, ?_⟩
  · rw [List.forall₂_map_right_iff, List.forall₂_same]
    intro inbound _
    exact gives_contribution origin inbound
  · intro inbounds' h
    exact allEntries_congr h

def nestedLists : Nat → Value
  | 0 => .null
  | n + 1 => .array [nestedLists n]

theorem wellFormed_nestedLists (n : Nat) : (nestedLists n).WellFormed := by
  induction n with
  | zero => exact .null
  | succ n ih => exact .array (List.forall_mem_singleton.mpr ih)

theorem restorable_nestedLists (n : Nat) : (nestedLists n).Restorable n := by
  induction n with
  | zero => exact .null
  | succ n ih => exact .array (List.forall_mem_singleton.mpr ih)

def ownFields : Fields := [("id", .string "u1")]

def forgedFields (protocol : Value) : Fields :=
  [("id", .string "u1"), ("inboundId", .number (.whole 7)), ("inboundRemark", .bool true),
    ("protocol", protocol), ("serverId", .string "b"), ("serverName", .null)]

theorem sameClient_forged (protocol : Value) :
    SameClient (.object ownFields) (.object (forgedFields protocol)) := by
  refine .object ?_
  intro key hkey
  simp only [Entry.originKeys, List.map_cons, List.map_nil, Entry.Key.name, List.mem_cons,
    List.not_mem_nil, or_false, not_or] at hkey
  obtain ⟨hserverId, hserverName, hinboundId, hinboundRemark, hprotocol⟩ := hkey
  simp [ownFields, forgedFields, Fields.get?_cons, Ne.symm hserverId, Ne.symm hserverName,
    Ne.symm hinboundId, Ne.symm hinboundRemark, Ne.symm hprotocol]

def settingsOf (fields : Fields) : Value := .object [("clients", .array [.object fields])]

def objectInbound (fields : Fields) : Inbound := ⟨1, "r", "vless", settingsOf fields⟩

def textInbound (fields : Fields) : Inbound := ⟨2, "r", "trojan", .string (settingsOf fields).print⟩

theorem readClients_own : readClients (settingsOf ownFields).print = .ok [.object ownFields] := by
  refine readClients_print (List.forall_mem_singleton.mpr ?_) (List.forall_mem_singleton.mpr ?_)
  · exact .object (by decide) (List.forall_mem_singleton.mpr (.string "u1"))
  · exact .object (List.forall_mem_singleton.mpr (.string "u1"))

theorem readClients_forged {protocol : Value} (hprotocol : protocol.WellFormed)
    (h : protocol.Restorable 124) :
    readClients (settingsOf (forgedFields protocol)).print =
      .ok [.object (forgedFields protocol)] := by
  refine readClients_print (List.forall_mem_singleton.mpr ?_) (List.forall_mem_singleton.mpr ?_)
  · refine .object ?_ ?_
    · simp only [forgedFields, Fields.Ascending, List.pairwise_cons, List.forall_mem_cons,
        List.not_mem_nil, false_implies, implies_true, and_true, List.Pairwise.nil]
      decide
    · simp only [forgedFields, List.forall_mem_cons]
      exact ⟨.string _, .number (by decide), .bool _, hprotocol, .string _, .null,
        List.forall_mem_nil _⟩
  · refine .object ?_
    simp only [forgedFields, List.forall_mem_cons]
    exact ⟨.string _, .whole _, .bool _, h, .string _, .null, List.forall_mem_nil _⟩

theorem sameButOrigins_object (protocol : Value) :
    (objectInbound ownFields).SameButOrigins (objectInbound (forgedFields protocol)) :=
  ⟨_, .object rfl rfl (.cons (sameClient_forged protocol) .nil), rfl⟩

theorem sameButOrigins_text {protocol : Value} (hprotocol : protocol.WellFormed)
    (h : protocol.Restorable 124) :
    (textInbound ownFields).SameButOrigins (textInbound (forgedFields protocol)) :=
  have hsame := List.Forall₂.cons (sameClient_forged protocol) .nil
  ⟨_, .text readClients_own (readClients_forged hprotocol h) hsame, rfl⟩

def ownInbounds : List Inbound := [objectInbound ownFields, textInbound ownFields]

def forgedInbounds : List Inbound :=
  [objectInbound (forgedFields (nestedLists 124)), textInbound (forgedFields (nestedLists 124))]

theorem clients_cannot_forge_origin_deep :
    List.Forall₂ SameButOrigins ownInbounds forgedInbounds ∧
    (allEntries ⟨"a", "a"⟩ ownInbounds).length = 2 ∧
    allEntries ⟨"a", "a"⟩ forgedInbounds = allEntries ⟨"a", "a"⟩ ownInbounds := by
  have hsame : List.Forall₂ SameButOrigins ownInbounds forgedInbounds := by
    refine .cons (sameButOrigins_object _) (.cons ?_ .nil)
    exact sameButOrigins_text (wellFormed_nestedLists 124) (restorable_nestedLists 124)
  obtain ⟨-, hforged⟩ := clients_cannot_forge_origin ⟨"a", "a"⟩ ownInbounds
  exact ⟨hsame, by decide +kernel, hforged forgedInbounds hsame⟩

/-- One level more, and the text that lists the client cannot be read. -/
theorem deep_claim_hides_client :
    SameClient (.object ownFields) (.object (forgedFields (nestedLists 125))) ∧
    (allEntries ⟨"a", "a"⟩ [textInbound ownFields]).length = 1 ∧
    allEntries ⟨"a", "a"⟩ [textInbound (forgedFields (nestedLists 125))] = [] := by
  refine ⟨sameClient_forged _, by decide +kernel, ?_⟩
  have hrefused : (settingsReader
      (settingsOf (forgedFields (nestedLists 125))).print.toList).toBool = false := by
    -- the detour through a string would have to encode every character and decode it again
    rw [Value.print, String.toList_ofList]
    decide +kernel
  obtain ⟨fault, hfault⟩ := readClients_refused hrefused
  rw [allEntries_eq_flatten, List.map_singleton, List.flatten_singleton]
  exact contribution_unreadable rfl hfault

end Inbound

end FleetDrift
