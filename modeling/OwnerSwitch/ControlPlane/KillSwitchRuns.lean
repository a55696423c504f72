/-
Module: OwnerSwitch.ControlPlane.KillSwitchRuns
Layer: ControlPlane
Purpose: Runs of a kill switch over its file store: booted from whatever the directory holds, then any
  transitions, each persisted under whatever the file system does to it. What a load would find after
  every transition, and whether a new switch on the same file is the same switch. Both depend on
  existence tests, which take a look-up that failed for an absence.
Imports: KillStateDurability
Trusted boundary: the power stays on during a run
Main exports: KillOp, switchRuns, SwitchRun, switch_trust, switch_trust_stale, switch_restart
Open obligations: none
-/
import OwnerSwitch.ControlPlane.KillStateDurability

namespace OwnerSwitch

open CrashFs CrashFs.Fs CrashFs.Prog KillStateFileStore

namespace KillSwitch

/-! ### Runs -/

/-- An operation on the switch. -/
inductive KillOp where
  | engage (source : KillSource) (reason : Option JsString) (unauthenticated : Bool)
  | engageAgent (agentId : JsString) (source : KillSource) (reason : Option JsString) (unauthenticated : Bool)
  | restore (auth : RestoreAuthorization)
  | restoreAgent (agentId : JsString) (auth : RestoreAuthorization)
  | alert (source : KillSource) (reason : Option JsString) (unauthenticated : Bool)

/-- The switch an operation leads to, before it is persisted; none where the operation throws. -/
def KillOp.apply (now : Int) (s : KillSwitch) : KillOp → Option KillSwitch
  | .engage source reason un => some (s.engaged now source reason un)
  | .engageAgent agentId source reason un => some (s.agentEngaged now agentId source reason un).1
  | .restore auth => (s.restored now auth).toOption
  | .restoreAgent agentId auth => (s.agentRestored now agentId auth).toOption
  | .alert source reason un => some (s.alert now source reason un)

/-- Whether the operation persists the switch it leads to. -/
def KillOp.persists : KillOp → Bool
  | .alert .. => false
  | _ => true

/-- A switch over its directory, and whether it has saved anything there yet. -/
structure SwitchRun where
  switch : KillSwitch
  fs : Fs
  saved : Bool

/-- An operation at a time, with the random suffix of the temporary file and what the file system does. -/
structure KillCall where
  op : KillOp
  now : Int
  hex : JsString
  script : List Turn

/-- The switch `s` is persisted under faults of `S`, with an outcome among the allowed ones. -/
def Persists (store : KillStateFileStore) (S : Fault → Prop) (allowed : StoreOutcome → Prop) (hex : JsString)
    (now : Int) (s : KillSwitch) (w : World) (r : SwitchRun) : Prop :=
  (∀ t ∈ w.script, S t.fault) ∧ ∃ o, (store.persist hex s.persistedState w).1 = .ok o ∧ allowed o ∧
    r = ⟨s.persist now o, (store.persist hex s.persistedState w).2.fs, true⟩

/-- The constructor: it loads, and persists if what it loaded cannot be trusted. -/
def Boots (store : KillStateFileStore) (S : Fault → Prop) (allowed : StoreOutcome → Prop) (hex : JsString)
    (now : Int) (w : World) (r : SwitchRun) : Prop :=
  (∀ t ∈ w.script, S t.fault) ∧ ∃ loaded, (store.load w).1 = .ok loaded ∧
    if (ofLoad now loaded).2 then Persists store S allowed hex now (ofLoad now loaded).1 (store.load w).2 r
    else r = ⟨(ofLoad now loaded).1, (store.load w).2.fs, false⟩

/-- The runs of a switch over a store under faults of `S`, all of whose saves have an allowed outcome, from
    any directory that calls of the store and power cuts can have left. -/
def switchRuns (store : KillStateFileStore) (S : Fault → Prop) (allowed : StoreOutcome → Prop) :
    Lts SwitchRun KillCall where
  init r := ∃ es fs hex now script, (storeRuns store).Exec es fs ∧ Boots store S allowed hex now ⟨fs, script⟩ r
  next r c r' :=
    match c.op.apply c.now r.switch with
    | none => r' = r
    | some s =>
        if c.op.persists then Persists store S allowed c.hex c.now s ⟨r.fs, c.script⟩ r'
        else r' = { r with switch := s }

/-! ### The switch -/

/-- What holds of every switch: the last kill is known while killed, and the scoped kills are within the
    contract. -/
structure Sound (s : KillSwitch) : Prop where
  lastKill : s.killedState = true → s.lastKillEvent.isSome = true
  size : s.agentKillMap.size ≤ maxKilledAgents
  ids : ∀ id, s.agentKillMap.has id = true → isValidAgentId id = true

variable {s : KillSwitch}

/-- An engaged switch is sound. -/
theorem Sound.engaged (h : s.Sound) (now : Int) (source : KillSource) (reason : Option JsString) (un : Bool) :
    (s.engaged now source reason un).Sound :=
  ⟨fun _ => rfl, h.size, h.ids⟩

/-- So is one that is engaged for an agent. -/
theorem Sound.agentEngaged (h : s.Sound) (now : Int) (agentId : JsString) (source : KillSource)
    (reason : Option JsString) (un : Bool) : (s.agentEngaged now agentId source reason un).1.Sound := by
  unfold KillSwitch.agentEngaged
  simp only
  split
  · exact h.engaged ..
  · rename_i hid
    split
    · exact h.engaged ..
    · rename_i hroom
      refine ⟨h.lastKill, ?_, fun id hid' => ?_⟩
      · simp only [JsMap.size_set]
        have hsize := h.size
        split
        · exact hsize
        · rename_i hnew
          simp only [hnew, Bool.not_false, Bool.true_and, decide_eq_true_eq, not_le] at hroom
          omega
      · simp only [JsMap.has_set, Bool.or_eq_true, decide_eq_true_eq] at hid'
        rcases hid' with rfl | hid'
        · simpa using hid
        · exact h.ids id hid'

/-- Every operation keeps the switch sound. -/
theorem Sound.apply (h : s.Sound) {now : Int} {op : KillOp} {s' : KillSwitch} (hop : op.apply now s = some s') :
    s'.Sound := by
  cases op with
  | engage source reason un =>
      obtain rfl := Option.some.inj hop
      exact h.engaged ..
  | engageAgent agentId source reason un =>
      obtain rfl := Option.some.inj hop
      exact h.agentEngaged ..
  | restore auth =>
      simp only [KillOp.apply, restored] at hop
      split at hop
      · simp [Except.toOption] at hop
      · split at hop
        · simp [Except.toOption] at hop
        · obtain rfl := Option.some.inj hop
          exact ⟨by simp, h.size, h.ids⟩
  | restoreAgent agentId auth =>
      simp only [KillOp.apply, agentRestored] at hop
      split at hop
      · simp [Except.toOption] at hop
      · split at hop
        · simp [Except.toOption] at hop
        · obtain rfl := Option.some.inj hop
          refine ⟨h.lastKill, (JsMap.size_filter_le _ _).trans h.size, fun id hid => h.ids id ?_⟩
          simp only [JsMap.has_delete, Bool.and_eq_true] at hid
          exact hid.2
  | alert source reason un =>
      obtain rfl := Option.some.inj hop
      exact ⟨h.lastKill, h.size, h.ids⟩

/-- Persisting keeps a switch sound. -/
theorem Sound.persist (h : s.Sound) (now : Int) (o : StoreOutcome) : (s.persist now o).Sound := by
  cases o <;> exact ⟨h.lastKill, h.size, h.ids⟩

theorem sound_fresh : fresh.Sound :=
  ⟨by simp [fresh], by simp [fresh, JsMap.size, JsMap.empty], by simp [fresh, JsMap.has]⟩

/-- A state the reader accepts is a sound switch. -/
theorem sound_ofState {state : PersistedKillState} (hlast : state.killed = state.lastKill.isSome)
    (hagents : ∀ m ∈ state.agentKills, m.size ≤ maxKilledAgents ∧ ∀ id ∈ m.keys, isValidAgentId id = true) :
    (ofState state).Sound := by
  refine ⟨fun hk => ?_, ?_, fun id hid => ?_⟩
  · rw [← hk]
    exact hlast.symm
  · rcases hm : state.agentKills with _ | m
    · simp [ofState, hm, JsMap.size, JsMap.ofList, JsMap.empty]
    · simpa [ofState, hm, JsMap.ofList_entries] using (hagents m hm).1
  · rcases hm : state.agentKills with _ | m
    · simp [ofState, hm, JsMap.has, JsMap.ofList, JsMap.empty, JsMap.get?, JsMap.findEntry] at hid
    · simp only [ofState, hm, Option.getD_some, JsMap.ofList_entries] at hid
      exact (hagents m hm).2 id (JsMap.mem_keys.mpr hid)

/-- What a boot starts with is a sound switch. -/
theorem sound_ofLoad (store : KillStateFileStore) {now : Int} {loaded : KillStateLoad}
    (h : ∀ state, loaded = .loaded state → ∃ bytes, store.interpret bytes = .ok state) :
    (ofLoad now loaded).1.Sound := by
  cases loaded with
  | absent => exact sound_fresh
  | corrupt detail => exact sound_fresh.engaged ..
  | loaded state =>
      obtain ⟨bytes, hbytes⟩ := h state rfl
      obtain ⟨v, hv⟩ := asPersistedKillState_of_interpret hbytes
      obtain ⟨-, hlast, hagents⟩ := asPersistedKillState_contract hv
      exact sound_ofState hlast hagents

/-- A sound switch can be stored while its counter is safe. -/
theorem Sound.storable (h : s.Sound) (hepoch : (s.epoch : Int) ≤ Json.maxSafeInteger) :
    Storable s.persistedState := by
  refine ⟨hepoch, ?_, ?_⟩
  · simp only [persistedState]
    cases hk : s.killedState with
    | false => rfl
    | true => simpa using (h.lastKill hk).symm
  · rintro m hm
    simp only [persistedState] at hm
    split at hm
    · obtain rfl := Option.some.inj hm
      exact ⟨‹_›, h.size, fun id hid => h.ids id (JsMap.mem_keys.mp hid)⟩
    · simp at hm

/-! ### The directory -/

/-- Neither name is or can become a symlink, and the marker stays. -/
def Sane (store : KillStateFileStore) (fs : Fs) : Prop :=
  store.Holds (.any _) Plain Plain Plain Plain fs

section Runs

variable {store : KillStateFileStore} {S : Fault → Prop} {allowed : StoreOutcome → Prop} {hex : JsString}
  {now : Int} {w : World} {r : SwitchRun}

/-- A save keeps both names plain files. -/
theorem sane_persist (h : Sane store w.fs) (hS : ∀ t ∈ w.script, S t.fault) {state : PersistedKillState}
    {o : StoreOutcome} (ho : (store.persist hex state w).1 = .ok o) :
    Sane store (store.persist hex state w).2.fs ∧
      KillStateFileStore.Persisted S (.any store.filePath) Plain Plain Plain Plain state.fileBytes
        (store.persist hex state w).2.fs o := by
  have hpost := (persist_spec hex state plain_file plain_file fun s hs => hs false).returns h hS ho
  have hplain : ∀ s, (Plain s ∨ s = .file state.fileBytes) ∨ s = .missing → Plain s := by
    rintro s ((hs | rfl) | rfl)
    · exact hs
    · exact plain_file _
    · simp [Plain]
  refine ⟨?_, hpost⟩
  cases o with
  | noStore => exact hpost.elim
  | durable =>
      exact hpost.2.mono (fun s hs => hplain s (.inl hs)) (fun _ h => h)
        (fun s hs => hs ▸ plain_file _) fun _ h => h
  | published detail =>
      exact hpost.mono (fun s hs => hplain s (.inl hs)) (fun _ h => h) (fun s hs => hs ▸ plain_file _)
        fun _ h => h.1
  | failed reason quarantined => exact hpost.1.mono hplain (fun _ h => h) hplain fun _ h => h

/-- What a load that returns finds, and that it leaves the state file alone. -/
theorem sane_load (h : Sane store w.fs) (hS : ∀ t ∈ w.script, S t.fault) {l : KillStateLoad}
    (hl : (store.load w).1 = .ok l) :
    Sane store (store.load w).2.fs ∧
      (store.load w).2.fs.sight store.filePath = w.fs.sight store.filePath ∧
      Loads store S (w.fs.sight store.filePath) (w.fs.sight store.markerPath) l := by
  have hnow : store.Holds (.any _) Plain Plain (· = w.fs.sight store.filePath)
      (· = w.fs.sight store.markerPath) w.fs := ⟨h.state, h.marker, rfl, rfl, h.kept⟩
  obtain ⟨⟨hholds, -⟩, hfound, -⟩ := (load_spec (S := S) _ _ plain_file plain_file (fun s hs => hs false)
    h.markerNow).returns hnow hS hl
  exact ⟨hholds.mono (fun _ h => h) (fun _ h => h) (fun s hs => hs ▸ h.stateNow) fun _ h => h,
    hholds.stateNow, hfound⟩

/-- A load that finds no state leaves the marker alone too. -/
theorem sane_load_unloaded (h : Sane store w.fs) (hS : ∀ t ∈ w.script, S t.fault)
    {l : KillStateLoad} (hl : (store.load w).1 = .ok l) (hunloaded : ∀ st, l ≠ .loaded st) :
    (store.load w).2.fs.sight store.markerPath = w.fs.sight store.markerPath := by
  have hnow : store.Holds (.any _) Plain Plain (· = w.fs.sight store.filePath)
      (· = w.fs.sight store.markerPath) w.fs := ⟨h.state, h.marker, rfl, rfl, h.kept⟩
  exact (((load_spec (S := S) _ _ plain_file plain_file (fun s hs => hs false) h.markerNow).returns hnow hS
    hl).1.2 hunloaded).markerNow

/-- An operation that persists is a step. -/
theorem next_of_persists {c : KillCall} {r' : SwitchRun} (hs : c.op.apply c.now r.switch = some s)
    (hpersists : c.op.persists = true) (h : Persists store S allowed c.hex c.now s ⟨r.fs, c.script⟩ r') :
    (switchRuns store S allowed).next r c r' := by
  simp only [switchRuns, hs, hpersists, if_true]
  exact h

/-! ### What the flags say -/

/-- While the flag of a failed quarantine is down the visible store holds the switch's state, or nothing
    beside the marker, if no test of the state file was blind; while the flag of degraded persistence is down
    nothing but that state can be found, now or after a power cut. -/
structure Vouched (store : KillStateFileStore) (S : Fault → Prop) (r : SwitchRun) : Prop where
  sane : Sane store r.fs
  sound : r.switch.Sound
  visible : ¬ S (.blind store.filePath) → r.saved = true → r.switch.quarantineFailed = false →
    r.fs.sight store.filePath = .file r.switch.persistedState.fileBytes ∨
      (Gone (r.fs.sight store.filePath) ∧ Present (r.fs.sight store.markerPath))
  durable : r.saved = true → r.switch.persistenceDegraded = false →
    ∀ s, r.fs.MaySee store.filePath s → s = .file r.switch.persistedState.fileBytes

/-- After a save the flags of the switch are true of the disk. -/
theorem vouched_persists (hsane : Sane store w.fs) (hsound : s.Sound)
    (h : Persists store S allowed hex now s w r) : Vouched store S r := by
  obtain ⟨hS, o, ho, -, rfl⟩ := h
  obtain ⟨hsane', hpost⟩ := sane_persist hsane hS ho
  refine ⟨hsane', hsound.persist now o, fun hsees _ hq => ?_, fun _ hd => ?_⟩
  · simp only [persist_persistedState]
    cases o with
    | noStore => exact hpost.elim
    | durable => exact .inl hpost.2.stateNow
    | published detail => exact .inl hpost.stateNow
    | failed reason quarantined =>
        have hquarantines := hpost.2 (by simpa [persist, quarantineFailed] using hq)
        exact .inr ⟨hquarantines.state hsees, hquarantines.marker⟩
  · simp only [persist_persistedState]
    cases o with
    | noStore => exact hpost.elim
    | durable => exact hpost.1.state
    | published detail => simp [persist, persistenceDegraded] at hd
    | failed reason quarantined => simp [persist, persistenceDegraded] at hd

/-- A boot is vouched for. -/
theorem vouched_boots (hsane : Sane store w.fs) (h : Boots store S allowed hex now w r) : Vouched store S r := by
  obtain ⟨hS, loaded, hl, h⟩ := h
  obtain ⟨hsane', -, hfound⟩ := sane_load hsane hS hl
  have hsound : (ofLoad now loaded).1.Sound := by
    refine sound_ofLoad store fun state hstate => ?_
    subst hstate
    obtain ⟨bytes, -, -, hint⟩ := hfound
    exact ⟨bytes, hint⟩
  split at h
  · exact vouched_persists hsane' hsound h
  · subst h
    exact ⟨hsane', hsound, by simp, by simp⟩

/-- A step is vouched for. -/
theorem vouched_next {c : KillCall} {r' : SwitchRun} (h : Vouched store S r)
    (hnext : (switchRuns store S allowed).next r c r') : Vouched store S r' := by
  simp only [switchRuns] at hnext
  split at hnext
  · exact hnext ▸ h
  · rename_i s hs
    have hsound := h.sound.apply hs
    split at hnext
    · exact vouched_persists h.sane hsound hnext
    · -- an alert changes nothing but the log
      rename_i hpersists
      subst hnext
      cases hop : c.op with
      | alert source reason un =>
          rw [hop] at hs
          obtain rfl := Option.some.inj hs
          exact ⟨h.sane, hsound, h.visible, h.durable⟩
      | _ => simp [hop, KillOp.persists] at hpersists

/-- In every run the flags of the switch are true of the disk. -/
theorem exec_vouched {es : List (Lts.Edge SwitchRun KillCall)} (h : (switchRuns store S allowed).Exec es r) :
    Vouched store S r := by
  refine h.invariant ⟨?_, fun _ _ _ => vouched_next⟩
  rintro r ⟨es, fs, hex, now, script, hexec, hboots⟩
  exact vouched_boots (w := ⟨fs, script⟩) (exec_holds hexec) hboots

/-- With the flag of a failed quarantine down, whatever a load under faults of `seen` returns is the switch's
    own state or fails closed. -/
def QuarantineTrusted (store : KillStateFileStore) (seen : Fault → Prop) (r : SwitchRun) : Prop :=
  r.switch.quarantineFailed = false → ∀ script, (∀ t ∈ script, seen t.fault) → ∀ l,
    (store.load ⟨r.fs, script⟩).1 = .ok l → LoadsOneOf [r.switch.persistedState] l

/-- With the flag of degraded persistence down, the file holds the switch's state and no power cut can change
    it. -/
def DurabilityTrusted (store : KillStateFileStore) (r : SwitchRun) : Prop :=
  r.switch.persistenceDegraded = false →
    r.fs.sight store.filePath = .file r.switch.persistedState.fileBytes ∧
    ∀ fs', r.fs.Cut fs' → fs'.sight store.filePath = .file r.switch.persistedState.fileBytes

/-- Once a switch has persisted a transition its flags can be trusted. The flag of a failed quarantine can if
    no test of the state file in the run was blind, and by a load whose test of the marker is not. -/
theorem switch_trust {es : List (Lts.Edge SwitchRun KillCall)} (h : (switchRuns store S allowed).Exec es r)
    (hsaved : r.saved = true) :
    ((∀ f, S f → Sees store.filePath f) → QuarantineTrusted store (Sees store.markerPath) r) ∧
      DurabilityTrusted store r := by
  have hv := exec_vouched h
  refine ⟨fun hsees hq script hscript l hl => ?_, fun hd => ⟨hv.durable hsaved hd _ (r.fs.maySee_sight _),
    fun fs' hcut => hv.durable hsaved hd _ (hcut.maySee (fs'.maySee_sight _))⟩⟩
  have hvisible := hv.visible (fun hblind => hsees _ hblind rfl) hsaved hq
  obtain ⟨-, -, hfound⟩ := sane_load (w := ⟨r.fs, script⟩) hv.sane hscript hl
  cases l with
  | corrupt detail => trivial
  | absent =>
      rcases hvisible with hfile | ⟨-, hpresent⟩
      · exact absurd (hfile.symm.trans hfound.1) (by simp)
      · exact absurd hpresent (hfound.2 fun hblind => hblind rfl)
  | loaded state =>
      obtain ⟨bytes, hbytes, -, hint⟩ := hfound
      rcases hvisible with hfile | ⟨hgone, -⟩
      · obtain rfl := Sight.file.inj (hbytes.symm.trans hfile)
        exact ⟨_, by simp, interpret_fileBytes_eq hint⟩
      · rw [hbytes] at hgone
        simp [Gone] at hgone

/-! ### Restarts -/

/-- Two switches in the same kill state: killed or not, at which epoch, by what, and with which agents
    scope-killed by what. -/
structure Same (s s' : KillSwitch) : Prop where
  killed : s'.killed = s.killed
  epoch : s'.epoch = s.epoch
  lastKill : s.killed = true → s'.lastKill = s.lastKill
  agentKills : ∀ id, s'.agentKillMap.get? id = s.agentKillMap.get? id

/-- A new switch on the same directory, where nothing fails, is the same switch. -/
def SurvivesRestart (store : KillStateFileStore) (r : SwitchRun) : Prop :=
  ∀ hex now script, (∀ t ∈ script, Calm t.fault) →
    ∃ s' w', boot store hex now ⟨r.fs, script⟩ = (.ok s', w') ∧ Same r.switch s'

/-- The state file is missing although the store is initialised. -/
def Deleted (store : KillStateFileStore) (fs : Fs) : Prop :=
  fs.sight store.filePath = .missing ∧ Present (fs.sight store.markerPath)

/-- The switch's state, as the file holds it, is within what the reader accepts. -/
def Fits (s : KillSwitch) : Prop :=
  s.persistedState.fileBytes.length ≤ maxKillStateFileBytes ∧ (s.epoch : Int) ≤ Json.maxSafeInteger

theorem not_faulty_calm : ¬ Faulty Calm :=
  fun ⟨_, h⟩ => h

/-- A boot is a load, and a save where the load said to start killed. -/
theorem boot_eq {l : KillStateLoad} (hl : (store.load w).1 = .ok l) :
    boot store hex now w =
      (if (ofLoad now l).2 then (ofLoad now l).1.persistTo store hex now else pure (ofLoad now l).1)
        (store.load w).2 :=
  bind_of_ok hl

theorem persistTo_eq {o : StoreOutcome} (ho : (store.persist hex s.persistedState w).1 = .ok o) :
    s.persistTo store hex now w = (.ok (s.persist now o), (store.persist hex s.persistedState w).2) :=
  bind_of_ok ho

/-- `Boots` is what the constructor does. -/
theorem boot_of_boots (h : Boots store S allowed hex now w r) :
    (boot store hex now w).1 = .ok r.switch ∧ (boot store hex now w).2.fs = r.fs := by
  obtain ⟨-, l, hl, h⟩ := h
  rw [boot_eq hl]
  split at h
  · rename_i hclosed
    obtain ⟨-, o, ho, -, rfl⟩ := h
    rw [if_pos hclosed, persistTo_eq ho]
    exact ⟨rfl, rfl⟩
  · rename_i hopen
    subst h
    rw [if_neg hopen]
    exact ⟨rfl, rfl⟩

/-- Where nothing fails a load returns. -/
theorem load_calm (h : Sane store w.fs) (hcalm : ∀ t ∈ w.script, Calm t.fault) :
    ∃ l, (store.load w).1 = .ok l ∧
      Loads store Calm (w.fs.sight store.filePath) (w.fs.sight store.markerPath) l ∧
      LoadsCalmly store (w.fs.sight store.filePath) (w.fs.sight store.markerPath) l ∧
      Sane store (store.load w).2.fs ∧ ∀ t ∈ (store.load w).2.script, Calm t.fault := by
  have hnow : store.Holds (.any _) Plain Plain (· = w.fs.sight store.filePath)
      (· = w.fs.sight store.markerPath) w.fs := ⟨h.state, h.marker, rfl, rfl, h.kept⟩
  have hspec := load_spec (S := Calm) (O := .any store.filePath) (A := Plain) (w.fs.sight store.filePath)
    _ plain_file plain_file (fun s hs => hs false) h.markerNow
  obtain ⟨l, hl⟩ := hspec.total hnow hcalm (fun _ _ he => not_faulty_calm he.1) id
  obtain ⟨-, hfound, hexact⟩ := hspec.returns hnow hcalm hl
  exact ⟨l, hl, hfound, hexact not_faulty_calm, (sane_load h hcalm hl).1, hspec.rest hnow hcalm⟩

/-- A boot that finds the store corrupt ends killed, by a kill of its own at that time. -/
theorem boot_corrupt (h : Sane store w.fs) (hcalm : ∀ t ∈ w.script, Calm t.fault) {detail : JsString}
    (hl : (store.load w).1 = .ok (.corrupt detail)) {w' : World} (hboot : boot store hex now w = (.ok s, w')) :
    s.killed = true ∧ ∃ e, s.lastKill = some e ∧ e.at = .ofInt now := by
  obtain ⟨-, -, -, -, hsane', hscript⟩ := load_calm h hcalm
  have hspec := persist_spec (S := Calm) (O := .any store.filePath) (A := Plain) (a := Plain) hex
    (ofLoad now (.corrupt detail)).1.persistedState plain_file plain_file fun s hs => hs false
  obtain ⟨o, ho⟩ := hspec.total hsane' hscript (fun _ _ he => he) id
  have hpersists : (ofLoad now (.corrupt detail)).1.persistTo store hex now (store.load w).2 = (.ok s, w') := by
    rw [boot_eq hl] at hboot
    exact hboot
  rw [persistTo_eq ho] at hpersists
  obtain rfl := Except.ok.inj (congrArg Prod.fst hpersists)
  exact ⟨(persist_killed ..).trans rfl, _, (persist_lastKill ..).trans rfl, rfl⟩

/-- A switch over a file that holds its own state survives. -/
theorem survives_loaded (h : Sane store r.fs) {bytes : Bytes} {st : PersistedKillState}
    (hfile : r.fs.sight store.filePath = .file bytes) (hlen : bytes.length ≤ maxKillStateFileBytes)
    (hint : store.interpret bytes = .ok st) (hsame : Same r.switch (ofState st)) : SurvivesRestart store r := by
  intro hex now script hcalm
  obtain ⟨l, hl, -, hexact, -⟩ := load_calm (w := ⟨r.fs, script⟩) h hcalm
  obtain rfl := hexact.1 bytes hfile hlen st hint
  exact ⟨_, _, by rw [boot_eq hl]; rfl, hsame⟩

/-- A switch that has saved nothing over an empty store survives. -/
theorem survives_absent (h : Sane store r.fs) (hfile : r.fs.sight store.filePath = .missing)
    (hmarker : ¬ Present (r.fs.sight store.markerPath)) (hsame : Same r.switch fresh) :
    SurvivesRestart store r := by
  intro hex now script hcalm
  obtain ⟨l, hl, -, hexact, -⟩ := load_calm (w := ⟨r.fs, script⟩) h hcalm
  obtain rfl := hexact.2 hfile hmarker
  exact ⟨_, _, by rw [boot_eq hl]; rfl, hsame⟩

/-- What the reader makes of a switch's own state is that switch. -/
theorem same_ofState (s : KillSwitch) : Same s (ofState s.persistedState.enumerated) := by
  refine ⟨rfl, rfl, fun hk => ?_, fun id => ?_⟩
  · have hk' : s.killedState = true := hk
    simp [ofState, PersistedKillState.enumerated, persistedState, lastKill, hk']
  · simp only [ofState, PersistedKillState.enumerated, persistedState]
    split
    · simp only [Option.map_some, Option.getD_some, JsMap.ofList_entries]
      exact get?_enumeratedMap _ _
    · rename_i hsize
      have hnil : s.agentKillMap.entries = [] := List.length_eq_zero_iff.mp (by simpa [JsMap.size] using hsize)
      simp [JsMap.get?, hnil, JsMap.ofList, JsMap.empty, JsMap.findEntry]

/-- A switch whose file is visible and within the limit survives a restart. -/
theorem survives_saved (h : Vouched store S r) (hfile : r.fs.sight store.filePath
    = .file r.switch.persistedState.fileBytes) (hfits : Fits r.switch) : SurvivesRestart store r :=
  survives_loaded h.sane hfile hfits.1 (interpret_storable store (h.sound.storable hfits.2)) (same_ofState _)

/-- A file the reader refuses boots a switch that is killed now and by nothing the old one knew. -/
theorem not_survives_saved (h : Vouched store S r) (hfile : r.fs.sight store.filePath
    = .file r.switch.persistedState.fileBytes) (hfits : ¬ Fits r.switch) : ¬ SurvivesRestart store r := by
  intro hsurvives
  have hkill : ∀ now, ∃ e, r.switch.killed = true ∧ r.switch.lastKill = some e ∧ e.at = .ofInt now := by
    intro now
    obtain ⟨l, hl, hfound, -, -, -⟩ := load_calm (w := ⟨r.fs, []⟩) h.sane (by simp)
    obtain ⟨s', w', hboot, hsame⟩ := hsurvives [] now [] (by simp)
    cases l with
    | absent => exact absurd (hfound.1.symm.trans hfile) (by simp)
    | loaded st =>
        obtain ⟨bytes, hbytes, hlen, hint⟩ := hfound
        obtain rfl := Sight.file.inj (hbytes.symm.trans hfile)
        refine absurd ⟨hlen, ?_⟩ hfits
        by_contra hepoch
        rw [interpret_unsafe_epoch store (not_le.mp hepoch)] at hint
        simp at hint
    | corrupt detail =>
        obtain ⟨hkilled, e, he, hat⟩ := boot_corrupt (w := ⟨r.fs, []⟩) h.sane (by simp) hl hboot
        have hk : r.switch.killed = true := hsame.killed.symm.trans hkilled
        exact ⟨e, hk, (hsame.lastKill hk).symm.trans he, hat⟩
  obtain ⟨e, -, he, hat⟩ := hkill 0
  obtain ⟨e', -, he', hat'⟩ := hkill 1
  obtain rfl := Option.some.inj (he.symm.trans he')
  exact absurd (Decimal.ofInt_injective (hat.symm.trans hat')) (by decide)

/-- A switch that lives over a deleted state file does not: a new one boots killed. -/
theorem not_survives_deleted (h : Sane store r.fs) (hdeleted : Deleted store r.fs)
    (hlive : r.switch.killed = false) : ¬ SurvivesRestart store r := by
  intro hsurvives
  obtain ⟨l, hl, hfound, -, -, -⟩ := load_calm (w := ⟨r.fs, []⟩) h (by simp)
  obtain ⟨s', w', hboot, hsame⟩ := hsurvives [] 0 [] (by simp)
  cases l with
  | absent => exact hfound.2 id hdeleted.2
  | loaded st =>
      obtain ⟨bytes, hbytes, -⟩ := hfound
      exact absurd (hbytes.symm.trans hdeleted.1) (by simp)
  | corrupt detail =>
      have hkilled := (boot_corrupt (w := ⟨r.fs, []⟩) h (by simp) hl hboot).1
      exact absurd (hkilled.symm.trans (hsame.killed.trans hlive)) (by simp)

/-- What a run all of whose saves were durable keeps: a switch that has saved is not degraded, one that
    has not would boot again as it did, unless it overlooked a deleted state file. -/
structure Restartable (store : KillStateFileStore) (S : Fault → Prop) (r : SwitchRun) : Prop where
  vouched : Vouched store S r
  saved : r.saved = true → r.switch.persistenceDegraded = false
  unsaved : r.saved = false → ¬ Deleted store r.fs → SurvivesRestart store r
  overlooked : r.saved = false → Deleted store r.fs → r.switch.killed = false

/-- A switch whose save was durable can be restarted. -/
theorem restartable_persists (hsane : Sane store w.fs) (hsound : s.Sound)
    (h : Persists store S (· = .durable) hex now s w r) : Restartable store S r := by
  refine ⟨vouched_persists hsane hsound h, fun _ => ?_, ?_, ?_⟩ <;> obtain ⟨-, o, -, rfl, rfl⟩ := h
  · rfl
  · simp
  · simp

/-- A switch that booted can be restarted. -/
theorem restartable_boots (hsane : Sane store w.fs) (h : Boots store S (· = .durable) hex now w r) :
    Restartable store S r := by
  have hvouched := vouched_boots hsane h
  obtain ⟨hS, loaded, hl, h⟩ := h
  obtain ⟨hsane', hsight, hfound⟩ := sane_load hsane hS hl
  split at h
  · refine restartable_persists hsane' ?_ h
    refine sound_ofLoad store fun state hstate => ?_
    subst hstate
    obtain ⟨bytes, -, -, hint⟩ := hfound
    exact ⟨bytes, hint⟩
  · rename_i hopen
    subst h
    cases loaded with
    | corrupt detail => exact absurd rfl hopen
    | absent =>
        have hmarker := sane_load_unloaded hsane hS hl (by simp)
        refine ⟨hvouched, by simp, fun _ hdeleted => ?_, fun _ _ => rfl⟩
        have hmissing : (store.load w).2.fs.sight store.filePath = .missing := hsight.trans hfound.1
        exact survives_absent hsane' hmissing (fun hpresent => hdeleted ⟨hmissing, hpresent⟩)
          ⟨rfl, rfl, fun _ => rfl, fun _ => rfl⟩
    | loaded state =>
        obtain ⟨bytes, hbytes, hlen, hint⟩ := hfound
        have hfile : (store.load w).2.fs.sight store.filePath = .file bytes := hsight.trans hbytes
        refine ⟨hvouched, by simp, fun _ _ => ?_, fun _ hdeleted => ?_⟩
        · exact survives_loaded hsane' hfile hlen hint ⟨rfl, rfl, fun _ => rfl, fun _ => rfl⟩
        · exact absurd (hfile.symm.trans hdeleted.1) (by simp)

/-- A step leaves a switch that can be restarted. -/
theorem restartable_next {c : KillCall} {r' : SwitchRun} (h : Restartable store S r)
    (hnext : (switchRuns store S (· = .durable)).next r c r') : Restartable store S r' := by
  have hvouched := vouched_next h.vouched hnext
  simp only [switchRuns] at hnext
  split at hnext
  · exact hnext ▸ h
  · rename_i s hs
    split at hnext
    · exact restartable_persists h.vouched.sane (h.vouched.sound.apply hs) hnext
    · rename_i hpersists
      subst hnext
      cases hop : c.op with
      | alert source reason un =>
          rw [hop] at hs
          obtain rfl := Option.some.inj hs
          refine ⟨hvouched, h.saved, fun hsaved hkept hex now script hcalm => ?_, h.overlooked⟩
          obtain ⟨s', w', hboot, hsame⟩ := h.unsaved hsaved hkept hex now script hcalm
          exact ⟨s', w', hboot, hsame.killed, hsame.epoch, hsame.lastKill, hsame.agentKills⟩
      | _ => simp [hop, KillOp.persists] at hpersists

/-- Every run keeps it whose saves were all durable. -/
theorem exec_restartable {es : List (Lts.Edge SwitchRun KillCall)}
    (h : (switchRuns store S (· = .durable)).Exec es r) : Restartable store S r := by
  refine h.invariant ⟨?_, fun _ _ _ => restartable_next⟩
  rintro r ⟨es, fs, hex, now, script, hexec, hboots⟩
  exact restartable_boots (w := ⟨fs, script⟩) (exec_holds hexec) hboots

/-- After a run all of whose saves were durable a new switch on the same file is the same switch, exactly
    when what was saved is within what the reader accepts and, where nothing was saved, the boot did not
    overlook a deleted state file. -/
theorem switch_restart {es : List (Lts.Edge SwitchRun KillCall)}
    (h : (switchRuns store S (· = .durable)).Exec es r) :
    SurvivesRestart store r ↔
      (r.saved = true → Fits r.switch) ∧ (r.saved = false → ¬ Deleted store r.fs) := by
  have hr := exec_restartable h
  cases hsaved : r.saved with
  | false =>
      refine ⟨fun hsurvives => ⟨by simp, fun _ hdeleted => ?_⟩, fun hkept => hr.unsaved hsaved (hkept.2 rfl)⟩
      exact not_survives_deleted hr.vouched.sane hdeleted (hr.overlooked hsaved hdeleted) hsurvives
  | true =>
      have hfile := hr.vouched.durable hsaved (hr.saved hsaved) _ (r.fs.maySee_sight _)
      refine ⟨fun hsurvives => ⟨fun _ => ?_, by simp⟩, fun hfits => survives_saved hr.vouched hfile (hfits.1 rfl)⟩
      by_contra hfits
      exact not_survives_saved hr.vouched hfile hfits hsurvives

end Runs

/-! ### A first kill -/

/-- A switch booted in an empty directory. -/
def booted : SwitchRun :=
  ⟨fresh, (sampleStore.load ⟨.empty, []⟩).2.fs, false⟩

/-- Its first kill, with nothing failing. -/
def firstKill (reason : Option JsString) : KillCall where
  op := .engage .button reason false
  now := 0
  hex := js "0"
  script := []

def afterKill (reason : Option JsString) : SwitchRun :=
  let s := fresh.engaged 0 .button reason false
  ⟨s.persist 0 .durable, (sampleStore.persist (js "0") s.persistedState ⟨booted.fs, []⟩).2.fs, true⟩

variable {S : Fault → Prop}

/-- The first boot of the sample. -/
theorem boots_booted : Boots sampleStore S (· = .durable) [] 0 ⟨.empty, []⟩ booted := by
  have hsane : Sane sampleStore Fs.empty := atRest_empty.holds
  obtain ⟨l, hl, -, hexact, -⟩ := load_calm (w := ⟨.empty, []⟩) hsane (by simp)
  have hmissing : ∀ n, Fs.empty.sight n = .missing := fun _ => rfl
  obtain rfl := hexact.2 (hmissing _) (by simp [Present, hmissing])
  exact ⟨by simp, .absent, hl, rfl⟩

/-- The kill is persisted durably. -/
theorem persists_afterKill (reason : Option JsString) :
    Persists sampleStore S (· = .durable) (js "0") 0 (fresh.engaged 0 .button reason false) ⟨booted.fs, []⟩
      (afterKill reason) := by
  have hready : sampleStore.Ready (js "0") booted.fs := ⟨by decide +kernel, by decide +kernel⟩
  have hspec := persist_calm sampleStore (js "0") (fresh.engaged 0 .button reason false).persistedState
  obtain ⟨o, ho⟩ := hspec.total (w := ⟨booted.fs, []⟩) hready (by simp) (fun _ _ he => he) id
  have hdurable := hspec.returns (w := ⟨booted.fs, []⟩) hready (by simp) ho
  subst hdurable
  exact ⟨by simp, .durable, ho, rfl, rfl⟩

theorem exec_afterKill (reason : Option JsString) :
    (switchRuns sampleStore S (· = .durable)).Exec [⟨booted, firstKill reason, afterKill reason⟩]
      (afterKill reason) := by
  have hinit : (switchRuns sampleStore S (· = .durable)).init booted :=
    ⟨[], .empty, [], 0, [], Lts.Exec.nil atRest_empty, boots_booted⟩
  have hnext : (switchRuns sampleStore S (· = .durable)).next booted (firstKill reason) (afterKill reason) :=
    next_of_persists rfl rfl (persists_afterKill reason)
  exact Lts.Exec.snoc (.nil hinit) hnext

/-- A kill with a reason longer than the reader's limit does not survive a restart. -/
theorem switch_restart_long_reason :
    ¬ ∀ (store : KillStateFileStore) (es : List (Lts.Edge SwitchRun KillCall)) (r : SwitchRun),
      (switchRuns store Powered (· = .durable)).Exec es r → SurvivesRestart store r := by
  intro h
  have hsurvives := h _ _ _ (exec_afterKill (some (List.replicate 70000 0x78)))
  have hvouched := exec_vouched (exec_afterKill (S := Powered) (some (List.replicate 70000 0x78)))
  refine not_survives_saved hvouched (hvouched.durable rfl rfl _ (Fs.maySee_sight _ _)) (fun hfits => ?_) hsurvives
  have hlength := length_reason_le_fileBytes (s := (afterKill (some (List.replicate 70000 0x78))).switch.persistedState)
    rfl rfl
  rw [List.length_replicate] at hlength
  have hlimit := hfits.1
  unfold maxKillStateFileBytes at hlimit
  omega

/-- A kill without a reason does. -/
theorem switch_restart_afterKill : SurvivesRestart sampleStore (afterKill none) :=
  (switch_restart (exec_afterKill (S := Powered) none)).mpr
    ⟨fun _ => ⟨by decide +kernel, by decide +kernel⟩, by simp [afterKill]⟩

/-- The flags after it. -/
theorem switch_trust_afterKill :
    (afterKill none).switch.quarantineFailed = false ∧ (afterKill none).switch.persistenceDegraded = false ∧
      QuarantineTrusted sampleStore (Sees sampleStore.markerPath) (afterKill none) ∧
      DurabilityTrusted sampleStore (afterKill none) :=
  have htrust := switch_trust (exec_afterKill (S := Sees sampleStore.filePath) none) rfl
  ⟨rfl, rfl, htrust.1 fun _ h => h, htrust.2⟩

/-! ### A file that stays -/

namespace Stale

/-- An armed state is on the disk, -/
def directory : Fs :=
  after sampleStore .empty [.save (js "0") Undone.armed []]

/-- the switch boots from it, -/
def booted : SwitchRun :=
  ⟨ofState Undone.armed.enumerated, (sampleStore.load ⟨directory, []⟩).2.fs, false⟩

/-- and is engaged. The temporary file cannot be opened, the state file can be neither removed nor looked up. -/
def kill : KillCall where
  op := .engage .button none false
  now := 1
  hex := js "1"
  script := [⟨0, .none⟩, ⟨0, .none⟩, ⟨0, .fail []⟩, ⟨0, .none⟩, ⟨0, .none⟩, ⟨0, .fail []⟩,
    ⟨0, .blind sampleStore.filePath⟩]

/-- The switch says that its file is quarantined. -/
def killed : SwitchRun :=
  let s := booted.switch.engaged 1 .button none false
  ⟨s.persist 1 (.failed [] true), (sampleStore.persist (js "1") s.persistedState ⟨booted.fs, kill.script⟩).2.fs, true⟩

theorem exec_directory :
    (storeRuns sampleStore).Exec (edges sampleStore .empty [.save (js "0") Undone.armed []]) directory :=
  ⟨_, atRest_empty, path_edges (by decide +kernel)⟩

theorem boots_booted : Boots sampleStore Powered (fun _ => True) [] 0 ⟨directory, []⟩ booted := by
  obtain ⟨l, hl, -, hexact, -⟩ := load_calm (w := ⟨directory, []⟩) (exec_holds exec_directory) (by simp)
  have hstorable : Storable Undone.armed := ⟨by decide, rfl, by simp [Undone.armed]⟩
  obtain rfl := hexact.1 Undone.armed.fileBytes (by decide +kernel) (by decide +kernel) _
    (interpret_storable sampleStore hstorable)
  exact ⟨by simp, _, hl, rfl⟩

theorem persists_killed : Persists sampleStore Powered (fun _ => True) (js "1") 1
    (booted.switch.engaged 1 .button none false) ⟨booted.fs, kill.script⟩ killed := by
  have houtcome : (sampleStore.persist (js "1") (booted.switch.engaged 1 .button none false).persistedState
      ⟨booted.fs, kill.script⟩).1 = .ok (.failed [] true) := by decide +kernel
  exact ⟨by simp [kill, Powered], _, houtcome, trivial, rfl⟩

/-- The run of the stale file. -/
theorem exec_killed : (switchRuns sampleStore Powered fun _ => True).Exec [⟨booted, kill, killed⟩] killed := by
  have hinit : (switchRuns sampleStore Powered fun _ => True).init booted :=
    ⟨_, directory, [], 0, [], exec_directory, boots_booted⟩
  exact Lts.Exec.snoc (.nil hinit) (next_of_persists rfl rfl persists_killed)

/-- What a load finds after it is not killed. -/
theorem load_killed : ∃ state, (sampleStore.load ⟨killed.fs, []⟩).1 = .ok (.loaded state) ∧ state.killed = false := by
  have harmed : isArmed (sampleStore.load ⟨killed.fs, []⟩).1 = true := by decide +kernel
  exact loaded_of_isArmed harmed

end Stale

/-- A file that can be neither removed nor looked up is taken for quarantined, and an armed state is loaded
    from it again. -/
theorem switch_trust_stale :
    ¬ ∀ (store : KillStateFileStore) (allowed : StoreOutcome → Prop) (es : List (Lts.Edge SwitchRun KillCall))
      (r : SwitchRun), (switchRuns store Powered allowed).Exec es r → r.saved = true →
        QuarantineTrusted store Powered r ∧ DurabilityTrusted store r := by
  intro h
  obtain ⟨state, hl, hlive⟩ := Stale.load_killed
  obtain ⟨st, hst, heq⟩ := (h _ _ _ _ Stale.exec_killed rfl).1 rfl [] (by simp) _ hl
  obtain rfl := List.mem_singleton.mp hst
  rw [heq] at hlive
  exact absurd hlive (by decide)

end KillSwitch

end OwnerSwitch
