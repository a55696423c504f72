/-
Module: OwnerSwitch.ControlPlane.KillStateCodec
Layer: ControlPlane
Purpose: The strict reader accepts what the writer writes. A kill state that satisfies `Storable` and
  fits the reader's byte ceiling comes back with the same contents; only the enumeration order of the
  scoped kills can change, as an object's can.
Imports: Lib.JsonCodec, Lib.JsonRoundTrip, KillState
Trusted boundary: none
Main exports: Storable, enumerated, interpret_storable, interpret_fileBytes_eq, interpret_unsafe_epoch
Open obligations: none
-/
import OwnerSwitch.Lib.JsonCodec
import OwnerSwitch.Lib.JsonRoundTrip
import OwnerSwitch.ControlPlane.KillState

namespace OwnerSwitch

open CrashFs

theorem asKillEvent_toJson (e : KillEvent) : asKillEvent e.toJson = some e := by
  obtain ⟨source, reason, t, un⟩ := e
  cases reason <;> cases un <;> cases source <;> rfl

theorem normal_eventJson (e : KillEvent) : Json.Normal e.toJson := by
  refine Json.normal_present (K := eventKeys) rfl (by decide) (by decide) ?_
  obtain ⟨source, reason, t, un⟩ := e
  cases reason <;> cases un <;>
    simp [Json.Normal.str, Json.Normal.num, Json.Normal.bool]

/-- What the writer may be handed: the counter is a safe integer, the last kill is there exactly when
    killed, and the scoped kills are within the contract the reader checks. -/
structure Storable (s : PersistedKillState) : Prop where
  epoch : (s.epoch : Int) ≤ Json.maxSafeInteger
  lastKill : s.killed = s.lastKill.isSome
  agentKills : ∀ m ∈ s.agentKills, 0 < m.size ∧ m.size ≤ maxKilledAgents ∧
    ∀ id ∈ m.keys, isValidAgentId id = true

/-- The map a reader of the object gets. -/
def enumeratedMap (m : JsMap JsString KillEvent) : JsMap JsString KillEvent :=
  ⟨Json.ofEntries m.entries, Json.ofEntries_nodup m.nodup⟩

/-- The state a reader gets. -/
def PersistedKillState.enumerated (s : PersistedKillState) : PersistedKillState :=
  { s with agentKills := s.agentKills.map enumeratedMap }

theorem get?_enumeratedMap (m : JsMap JsString KillEvent) (id : JsString) :
    (enumeratedMap m).get? id = m.get? id :=
  Json.findEntry_ofEntries m.nodup id

/-- The reader's pass over the scoped kills: every entry is read back, provided its id is in the
    contract. -/
theorem mapM_asKillEvent (es : List (JsString × KillEvent)) :
    ((es.map fun e => (e.1, e.2.toJson)).mapM fun (id, raw) =>
        if isValidAgentId id then (asKillEvent raw).map fun e => (id, e) else none)
      = if ∀ e ∈ es, isValidAgentId e.1 = true then some es else none := by
  induction es with
  | nil => rfl
  | cons e es ih =>
      rw [List.map_cons, List.mapM_cons, ih]
      simp only [List.forall_mem_cons, asKillEvent_toJson]
      by_cases he : isValidAgentId e.1 = true
      · by_cases hes : ∀ x ∈ es, isValidAgentId x.1 = true
        · simp only [he, if_true, if_pos hes, if_pos (And.intro trivial hes)]
          rfl
        · simp only [he, if_true, if_neg hes, if_neg fun h : True ∧ _ => hes h.2]
          rfl
      · simp only [he, Bool.false_eq_true, if_false, false_and]
        rfl

/-- Scoped kills within the contract are read back. -/
theorem asAgentKills_toJson {m : JsMap JsString KillEvent} (hpos : 0 < m.size)
    (hsize : m.size ≤ maxKilledAgents) (hid : ∀ id ∈ m.keys, isValidAgentId id = true) :
    asAgentKills (.obj (Json.ofEntries (m.entries.map fun (id, e) => (id, e.toJson))))
      = some (enumeratedMap m) := by
  have hmap := Json.ofEntries_map KillEvent.toJson m.nodup
  have hperm := Json.ofEntries_perm m.nodup
  have hlen : (Json.ofEntries m.entries).length = m.size := hperm.length_eq
  have hvalid : ∀ e ∈ Json.ofEntries m.entries, isValidAgentId e.1 = true := fun e he =>
    hid _ (List.mem_map_of_mem (hperm.mem_iff.mp he))
  rw [asAgentKills, hmap, if_neg (by rw [List.length_map, hlen]; omega), mapM_asKillEvent, if_pos hvalid,
    Option.map_some]
  exact congrArg some (JsMap.ext (JsMap.entries_ofList (Json.ofEntries_nodup m.nodup)))

theorem asAgentKills_toJson_eq {m m' : JsMap JsString KillEvent}
    (h : asAgentKills (.obj (Json.ofEntries (m.entries.map fun (id, e) => (id, e.toJson)))) = some m') :
    m' = enumeratedMap m := by
  have hmap := Json.ofEntries_map KillEvent.toJson m.nodup
  rw [asAgentKills, hmap, mapM_asKillEvent] at h
  split at h
  · simp at h
  · split at h
    · obtain rfl := Option.some.inj h
      exact JsMap.ext (JsMap.entries_ofList (Json.ofEntries_nodup m.nodup))
    · simp at h

theorem normal_agentKillsJson (m : JsMap JsString KillEvent) :
    Json.Normal (.obj (Json.ofEntries (m.entries.map fun (id, e) => (id, e.toJson)))) := by
  have hnodup : ((m.entries.map fun e => (e.1, e.2.toJson)).map Prod.fst).Nodup := by
    rw [List.map_map]
    exact m.nodup
  refine .obj (Json.ofEntries_ofEntries hnodup) fun f hf => ?_
  obtain ⟨e, -, rfl⟩ := List.mem_map.mp ((Json.ofEntries_perm hnodup).mem_iff.mp hf)
  exact normal_eventJson e.2

/-- A kill state is written in the order a parser returns. -/
theorem normal_toJson (s : PersistedKillState) : Json.Normal s.toJson := by
  refine Json.normal_present (K := stateKeys) rfl (by decide) (by decide) ?_
  simp only [List.mem_cons, List.not_mem_nil, or_false, forall_eq_or_imp, forall_eq, Option.mem_def,
    Option.some.injEq, forall_eq']
  refine ⟨.num, .bool, .num, ?_, ?_⟩
  · intro v hv
    obtain ⟨e, -, rfl⟩ := Option.map_eq_some_iff.mp hv
    exact normal_eventJson e
  · intro v hv
    obtain ⟨m, -, rfl⟩ := Option.map_eq_some_iff.mp hv
    exact normal_agentKillsJson m

/-- The properties of a written state, as a reader finds them. -/
theorem get_toJson (s : PersistedKillState) :
    ∃ fs, s.toJson = .obj fs ∧ (fs.all fun f => stateKeys.contains f.1) = true ∧
      s.toJson.get (js "version") = some (.num (.ofInt 1)) ∧
      s.toJson.get (js "killed") = some (.bool s.killed) ∧
      s.toJson.get (js "epoch") = some (.num (.ofInt s.epoch)) ∧
      s.toJson.get (js "lastKill") = s.lastKill.map KillEvent.toJson ∧
      s.toJson.get (js "agentKills") = s.agentKills.map fun m =>
        .obj (Json.ofEntries (m.entries.map fun (id, e) => (id, e.toJson))) := by
  refine ⟨_, rfl, Json.present_all_contains (K := stateKeys) rfl, ?_, ?_, ?_, ?_, ?_⟩ <;>
    rw [PersistedKillState.toJson, Json.get_present (K := stateKeys) rfl (by decide)]
  · rfl
  · rfl
  · rfl
  · cases s.lastKill <;> rfl
  · cases s.agentKills <;> rfl

/-- A state that may be stored is read back. -/
theorem asPersistedKillState_toJson {s : PersistedKillState} (h : Storable s) :
    asPersistedKillState s.toJson = some s.enumerated := by
  obtain ⟨fs, hobj, hall, hversion, hkilled, hepoch, hlast, hagents⟩ := get_toJson s
  have hagentKills : optionalProp asAgentKills (s.agentKills.map fun m =>
      Json.obj (Json.ofEntries (m.entries.map fun (id, e) => (id, e.toJson))))
      = some (s.agentKills.map enumeratedMap) := by
    rcases hm : s.agentKills with _ | m
    · rfl
    · obtain ⟨hpos, hsize, hid⟩ := h.agentKills m hm
      show (asAgentKills _).map some = _
      rw [asAgentKills_toJson hpos hsize hid]
      rfl
  have hlastKill : optionalProp asKillEvent (s.lastKill.map KillEvent.toJson) = some s.lastKill := by
    cases s.lastKill with
    | none => rfl
    | some e =>
        show (asKillEvent _).map some = _
        rw [asKillEvent_toJson]
        rfl
  have hsafe : Json.safeNat? (.num (.ofInt s.epoch)) = some s.epoch := by
    simp [Json.safeNat?, h.epoch]
  rw [hobj] at hversion hkilled hepoch hlast hagents ⊢
  rw [asPersistedKillState]
  simp only [hall, if_true, hversion, hkilled, hepoch, hlast, hagents, hagentKills, hlastKill,
    Option.bind_some, Json.num?, Json.bool?, hsafe, Option.isSome_map, ← h.lastKill, ne_eq,
    not_true_eq_false, if_false, Option.map_some]
  rfl

/-- Whatever the reader accepts of a written state is that state. -/
theorem asPersistedKillState_toJson_eq {s st : PersistedKillState} (h : asPersistedKillState s.toJson = some st) :
    st = s.enumerated := by
  obtain ⟨fs, hobj, hall, hversion, hkilled, hepoch, hlast, hagents⟩ := get_toJson s
  rw [hobj] at hversion hkilled hepoch hlast hagents h
  rw [asPersistedKillState] at h
  simp only [hall, if_true, hversion, hkilled, hepoch, hlast, hagents, Option.bind_some, Json.num?,
    Json.bool?, ne_eq, not_true_eq_false, if_false, Option.isSome_map] at h
  obtain ⟨epoch, hsafe, h⟩ := Option.bind_eq_some_iff.mp h
  split at h
  · simp at h
  obtain ⟨agentKills, hagentKills, h⟩ := Option.bind_eq_some_iff.mp h
  obtain ⟨lastKill, hlastKill, rfl⟩ := Option.map_eq_some_iff.mp h
  obtain rfl : epoch = s.epoch := by
    simp only [Json.safeNat?, Decimal.toInt?_ofInt, Option.bind_some] at hsafe
    split at hsafe
    · simpa using hsafe.symm
    · simp at hsafe
  obtain rfl : lastKill = s.lastKill := by
    rcases hl : s.lastKill with _ | e <;> rw [hl] at hlastKill
    · simpa [optionalProp] using hlastKill.symm
    · simpa [optionalProp, asKillEvent_toJson] using hlastKill.symm
  obtain rfl : agentKills = s.agentKills.map enumeratedMap := by
    rcases hm : s.agentKills with _ | m <;> rw [hm] at hagentKills
    · simpa [optionalProp] using hagentKills.symm
    · obtain ⟨m', hm', rfl⟩ := Option.map_eq_some_iff.mp hagentKills
      rw [asAgentKills_toJson_eq hm']
      rfl
  rfl

theorem mapM_eq_keys {entries : List (JsString × Json)} {es : List (JsString × KillEvent)}
    (h : (entries.mapM fun (id, raw) =>
      if isValidAgentId id then (asKillEvent raw).map fun e => (id, e) else none) = some es) :
    es.map Prod.fst = entries.map Prod.fst ∧ ∀ e ∈ es, isValidAgentId e.1 = true := by
  induction entries generalizing es with
  | nil =>
      obtain rfl : [] = es := by simpa using h
      simp
  | cons x entries ih =>
      rw [List.mapM_cons] at h
      obtain ⟨e, he, h⟩ := Option.bind_eq_some_iff.mp h
      obtain ⟨rest, hrest, h⟩ := Option.bind_eq_some_iff.mp h
      obtain rfl := Option.some.inj h
      obtain ⟨hkeys, hvalid⟩ := ih hrest
      simp only at he
      split at he
      · rename_i hid
        obtain ⟨ev, -, rfl⟩ := Option.map_eq_some_iff.mp he
        exact ⟨by simp [hkeys], by simpa [hid] using fun a b hab => hvalid (a, b) hab⟩
      · simp at he

/-- Scoped kills that are read are within the contract. -/
theorem asAgentKills_contract {v : Json} {m : JsMap JsString KillEvent} (h : asAgentKills v = some m) :
    m.size ≤ maxKilledAgents ∧ ∀ id ∈ m.keys, isValidAgentId id = true := by
  unfold asAgentKills at h
  split at h
  · rename_i entries
    split at h
    · simp at h
    · rename_i hlen
      obtain ⟨es, hes, rfl⟩ := Option.map_eq_some_iff.mp h
      obtain ⟨hkeys, hvalid⟩ := mapM_eq_keys hes
      have hsub := JsMap.keys_ofList_subset es
      have hsize := JsMap.size_ofList_le es
      have hlength := congrArg List.length hkeys
      rw [List.length_map, List.length_map] at hlength
      refine ⟨by omega, fun id hid => ?_⟩
      obtain ⟨e, he, rfl⟩ := List.mem_map.mp (hsub hid)
      exact hvalid e he
  · simp at h

/-- Whatever the reader accepts is within the contract. -/
theorem asPersistedKillState_contract {v : Json} {s : PersistedKillState}
    (h : asPersistedKillState v = some s) :
    (s.epoch : Int) ≤ Json.maxSafeInteger ∧ s.killed = s.lastKill.isSome ∧
      ∀ m ∈ s.agentKills, m.size ≤ maxKilledAgents ∧ ∀ id ∈ m.keys, isValidAgentId id = true := by
  unfold asPersistedKillState at h
  split at h
  swap
  · simp at h
  split at h
  swap
  · simp at h
  split at h
  · simp at h
  obtain ⟨killed, hkilled, h⟩ := Option.bind_eq_some_iff.mp h
  obtain ⟨epoch, hepoch, h⟩ := Option.bind_eq_some_iff.mp h
  split at h
  · simp at h
  rename_i hlast
  obtain ⟨agentKills, hagentKills, h⟩ := Option.bind_eq_some_iff.mp h
  obtain ⟨lastKill, hlastKill, rfl⟩ := Option.map_eq_some_iff.mp h
  refine ⟨?_, ?_, ?_⟩
  · obtain ⟨x, -, hx⟩ := Option.bind_eq_some_iff.mp hepoch
    unfold Json.safeNat? at hx
    split at hx
    · obtain ⟨z, -, hz⟩ := Option.bind_eq_some_iff.mp hx
      split at hz
      · rename_i hrange
        obtain rfl := Option.some.inj hz
        simp only
        omega
      · simp at hz
    · simp at hx
  · rw [not_not] at hlast
    rw [hlast]
    rcases hv : Json.get _ (js "lastKill") with _ | w <;> rw [hv] at hlastKill
    · simpa [optionalProp] using hlastKill.symm
    · obtain ⟨e, -, rfl⟩ := Option.map_eq_some_iff.mp hlastKill
      rfl
  · rintro m ⟨rfl⟩
    rcases hv : Json.get _ (js "agentKills") with _ | w <;> rw [hv] at hagentKills
    · simp [optionalProp] at hagentKills
    · obtain ⟨m', hm', hsome⟩ := Option.map_eq_some_iff.mp hagentKills
      obtain rfl := Option.some.inj hsome
      exact asAgentKills_contract hm'

theorem asPersistedKillState_of_interpret {store : KillStateFileStore} {bytes : Bytes} {s : PersistedKillState}
    (h : store.interpret bytes = .ok s) : ∃ v, asPersistedKillState v = some s := by
  unfold KillStateFileStore.interpret at h
  split at h
  · simp at h
  · split at h
    · simp at h
    · rename_i hv
      exact ⟨_, by rw [hv, Except.ok.inj h]⟩

/-- The reader on the octets the writer wrote. -/
theorem interpret_fileBytes (store : KillStateFileStore) (s : PersistedKillState) :
    store.interpret s.fileBytes =
      match asPersistedKillState s.toJson with
      | none => .error (js "unexpected shape in " ++ store.filePath)
      | some state => .ok state := by
  have hwf : WellFormed (Json.stringifyIndented s.toJson ++ [0x0A]) :=
    (Json.wellFormed_render 2 0 s.toJson).append (.ascii_all rfl)
  have hparse : Json.parse (Json.stringifyIndented s.toJson ++ [0x0A]) = some s.toJson :=
    Json.parse_render (normal_toJson s) (by simp [Json.isWs])
  cases hstate : asPersistedKillState s.toJson <;>
    simp only [KillStateFileStore.interpret, PersistedKillState.fileBytes, Utf8.decode_encode hwf, hparse, hstate]

theorem interpret_fileBytes_eq {store : KillStateFileStore} {s st : PersistedKillState}
    (h : store.interpret s.fileBytes = .ok st) : st = s.enumerated := by
  rw [interpret_fileBytes] at h
  split at h
  · simp at h
  · rename_i state hstate
    obtain rfl := Except.ok.inj h
    exact asPersistedKillState_toJson_eq hstate

/-- The file of a state that may be stored is read back. -/
theorem interpret_storable (store : KillStateFileStore) {s : PersistedKillState} (h : Storable s) :
    store.interpret s.fileBytes = .ok s.enumerated := by
  rw [interpret_fileBytes, asPersistedKillState_toJson h]

/-- An epoch past the safe integers is refused. -/
theorem interpret_unsafe_epoch (store : KillStateFileStore) {s : PersistedKillState}
    (h : Json.maxSafeInteger < s.epoch) :
    store.interpret s.fileBytes = .error (js "unexpected shape in " ++ store.filePath) := by
  obtain ⟨fs, hobj, -, hversion, hkilled, hepoch, -, -⟩ := get_toJson s
  have hsafe : Json.safeNat? (.num (.ofInt s.epoch)) = none := by
    simp [Json.safeNat?, h]
  rw [interpret_fileBytes]
  rw [hobj] at hversion hkilled hepoch ⊢
  rw [asPersistedKillState]
  simp [hversion, hkilled, hepoch, hsafe, Json.num?, Json.bool?]

/-- The file is at least as long as the reason of the last kill. -/
theorem length_reason_le_fileBytes {s : PersistedKillState} {e : KillEvent} {reason : JsString}
    (hlast : s.lastKill = some e) (hreason : e.reason = some reason) : reason.length ≤ s.fileBytes.length := by
  obtain ⟨i, hi⟩ : ∃ i, (Json.render 2 i e.toJson).length ≤ (Json.stringifyIndented s.toJson).length := by
    refine Json.exists_render_mem (k := js "lastKill") ?_
    simp [Json.present, hlast]
  obtain ⟨j, hj⟩ : ∃ j, (Json.render 2 j (.str reason)).length ≤ (Json.render 2 i e.toJson).length := by
    refine Json.exists_render_mem (k := js "reason") ?_
    simp [Json.present, hreason]
  have hquote := Json.length_le_quote reason
  have hencode := Utf8.length_le_encode (Json.stringifyIndented s.toJson ++ [0x0A])
  rw [Json.render] at hj
  rw [List.length_append] at hencode
  rw [PersistedKillState.fileBytes]
  omega

end OwnerSwitch
