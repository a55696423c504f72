/-
Module: OwnerSwitch.ControlPlane.Kill
Layer: ControlPlane
Purpose: The kill switch: the global kill, the scoped kills, the epoch, the audit log and the two
  persistence flags, with every transition. What the store made of a save is an argument here
  (`StoreOutcome`); `ControlPlane.KillState` supplies it from the file store. Then what the control plane answers
  about it: the body of `GET /status` and the bodies of `POST /kill`.
Imports: Lib.Json, Shared.ToolCall
Trusted boundary: the epoch counter does not reach 2^53
Main exports: KillSwitch, engage, engageAgent, restore, restoreAgent, alert, persist, ofLoad, statusBody,
  scopedKillBody, globalKillBody
Open obligations: none
-/
import OwnerSwitch.Lib.Json
import OwnerSwitch.Shared.ToolCall

namespace OwnerSwitch

inductive KillSource where
  | button | honeytoken | app | voice | api | limit
  deriving DecidableEq, Repr, Inhabited

/-- `MAX_SCOPED_KILL_REASON_CHARS` -/
def maxScopedKillReasonChars : Nat := 128

/-- Control characters become spaces, then the result is capped. -/
def sanitizeScopedKillReason (reason : JsString) : JsString :=
  (reason.map fun u => if u ≤ 0x1F ∨ u = 0x7F then 0x20 else u).take maxScopedKillReasonChars

structure KillEvent where
  source : KillSource
  reason : Option JsString
  «at» : Decimal
  unauthenticated : Bool
  deriving DecidableEq, Repr

/-- What a completed ceremony yields. -/
structure RestoreAuthorization where
  ceremonyId : JsString
  ownerId : JsString
  completedAt : Int
  deriving DecidableEq, Repr

inductive AuditEntry where
  | kill (event : KillEvent)
  | restore (auth : RestoreAuthorization) («at» : Int)
  | alert (event : KillEvent)
  | agentKill (agentId : JsString) (event : KillEvent)
  | agentRestore (agentId : JsString) (auth : RestoreAuthorization) («at» : Int)
  deriving DecidableEq, Repr

/-- What is saved. `lastKill` is present exactly when killed, `agentKills` exactly when non-empty. -/
structure PersistedKillState where
  killed : Bool
  epoch : Nat
  lastKill : Option KillEvent
  agentKills : Option (JsMap JsString KillEvent)

/-- What loading the store gives. -/
inductive KillStateLoad where
  | absent
  | loaded (state : PersistedKillState)
  | corrupt (detail : JsString)

/-- What became of one `persist`: there is no store, the save published durably, published without
    durability, or threw and the store was asked to quarantine what it had. -/
inductive StoreOutcome where
  | noStore
  | durable
  | published (detail : JsString)
  | failed (reason : JsString) (quarantined : Bool)
  deriving DecidableEq, Repr

structure KillSwitch where
  killedState : Bool
  epochCounter : Nat
  log : List AuditEntry
  consumedCeremonies : List JsString
  lastKillEvent : Option KillEvent
  degradedSince : Option (Int × JsString)
  quarantineFailedState : Bool
  agentKillMap : JsMap JsString KillEvent

namespace KillSwitch

/-- Armed, epoch 0. -/
def fresh : KillSwitch where
  killedState := false
  epochCounter := 0
  log := []
  consumedCeremonies := []
  lastKillEvent := none
  degradedSince := none
  quarantineFailedState := false
  agentKillMap := .empty

variable (s : KillSwitch)

/-! ### Readers -/

def killed : Bool := s.killedState

def epoch : Nat := s.epochCounter

def lastKill : Option KillEvent := s.lastKillEvent

def agentKilled (agentId : JsString) : Bool := s.agentKillMap.has agentId

/-- In kill order. -/
def killedAgents : List JsString := s.agentKillMap.keys

def persistenceDegraded : Bool := s.degradedSince.isSome

def quarantineFailed : Bool := s.quarantineFailedState

/-! ### Persistence -/

/-- What `persist` hands to the store. -/
def persistedState : PersistedKillState where
  killed := s.killedState
  epoch := s.epochCounter
  lastKill := if s.killedState then s.lastKillEvent else none
  agentKills := if 0 < s.agentKillMap.size then some s.agentKillMap else none

/-- The flags after the store has answered. -/
def persist (now : Int) : StoreOutcome → KillSwitch
  | .noStore => s
  | .failed reason quarantined =>
      { s with degradedSince := some (now, reason), quarantineFailedState := !quarantined }
  | .durable => { s with degradedSince := none, quarantineFailedState := false }
  | .published detail => { s with degradedSince := some (now, detail), quarantineFailedState := false }

/-! ### Transitions -/

/-- `engage` up to its `persist`. -/
def engaged (now : Int) (source : KillSource) (reason : Option JsString) (unauthenticated : Bool) :
    KillSwitch :=
  let event : KillEvent := { source, reason, «at» := .ofInt now, unauthenticated }
  { s with epochCounter := s.epochCounter + 1, log := s.log ++ [.kill event], lastKillEvent := some event,
           killedState := true }

/-- The reason of a scoped kill that becomes a global one because its id is outside the contract. -/
def badIdReason (agentId : JsString) (sanitized : Option JsString) : JsString :=
  js "scoped kill requested for an id outside the agentId contract (" ++ sanitizeScopedKillReason agentId
    ++ js ") — escalated to a global kill"
    ++ (sanitized.map (js "; original reason: " ++ ·)).getD []

/-- The reason of a scoped kill that becomes a global one because there is no room. -/
def capacityReason (agentId : JsString) (sanitized : Option JsString) : JsString :=
  js "scoped-kill capacity (64 agents) exceeded at agent \"" ++ agentId
    ++ js "\" — escalated to a global kill"
    ++ (sanitized.map (js "; original reason: " ++ ·)).getD []

/-- `engageAgent` up to its `persist`, and whether the kill became global. A stop is never refused. -/
def agentEngaged (now : Int) (agentId : JsString) (source : KillSource) (reason : Option JsString)
    (unauthenticated : Bool) : KillSwitch × Bool :=
  let sanitized := reason.map sanitizeScopedKillReason
  if !isValidAgentId agentId then
    (s.engaged now source (some (badIdReason agentId sanitized)) unauthenticated, true)
  else if !s.agentKillMap.has agentId && maxKilledAgents ≤ s.agentKillMap.size then
    (s.engaged now source (some (capacityReason agentId sanitized)) unauthenticated, true)
  else
    let event : KillEvent := { source, reason := sanitized, «at» := .ofInt now, unauthenticated }
    ({ s with epochCounter := s.epochCounter + 1, log := s.log ++ [.agentKill agentId event],
              agentKillMap := s.agentKillMap.set agentId event }, false)

/-- What `restore` and `restoreAgent` check of an authorization. -/
def checkAuthorization (auth : RestoreAuthorization) : Except JsString Unit :=
  if auth.ceremonyId = [] ∨ auth.ownerId = [] then .error (js "restore requires a completed 2GO ceremony")
  else if auth.ceremonyId ∈ s.consumedCeremonies then
    .error (js "ceremony \"" ++ auth.ceremonyId
      ++ js "\" already consumed — restore authorizations are single-use")
  else .ok ()

/-- `restore` up to its `persist`. -/
def restored (now : Int) (auth : RestoreAuthorization) : Except JsString KillSwitch :=
  if !s.killedState then .error (js "not killed — nothing to restore")
  else
    match s.checkAuthorization auth with
    | .error e => .error e
    | .ok () =>
        .ok { s with consumedCeremonies := s.consumedCeremonies.insert auth.ceremonyId,
                     log := s.log ++ [.restore auth now], killedState := false }

/-- `restoreAgent` up to its `persist`. -/
def agentRestored (now : Int) (agentId : JsString) (auth : RestoreAuthorization) :
    Except JsString KillSwitch :=
  if !s.agentKillMap.has agentId then
    .error (js "agent \"" ++ agentId ++ js "\" is not scope-killed — nothing to restore")
  else
    match s.checkAuthorization auth with
    | .error e => .error e
    | .ok () =>
        .ok { s with consumedCeremonies := s.consumedCeremonies.insert auth.ceremonyId,
                     log := s.log ++ [.agentRestore agentId auth now],
                     agentKillMap := s.agentKillMap.delete agentId }

def engage (now : Int) (source : KillSource) (reason : Option JsString) (unauthenticated : Bool)
    (o : StoreOutcome) : KillSwitch :=
  (s.engaged now source reason unauthenticated).persist now o

def engageAgent (now : Int) (agentId : JsString) (source : KillSource) (reason : Option JsString)
    (unauthenticated : Bool) (o : StoreOutcome) : KillSwitch × Bool :=
  let (s', escalated) := s.agentEngaged now agentId source reason unauthenticated
  (s'.persist now o, escalated)

def restore (now : Int) (auth : RestoreAuthorization) (o : StoreOutcome) : Except JsString KillSwitch :=
  (s.restored now auth).map (·.persist now o)

def restoreAgent (now : Int) (agentId : JsString) (auth : RestoreAuthorization) (o : StoreOutcome) :
    Except JsString KillSwitch :=
  (s.agentRestored now agentId auth).map (·.persist now o)

/-- A flagged event that changes nothing but the log. -/
def alert (now : Int) (source : KillSource) (reason : Option JsString) (unauthenticated : Bool) :
    KillSwitch :=
  { s with log := s.log ++ [.alert { source, reason, «at» := .ofInt now, unauthenticated }] }

/-! ### Construction -/

/-- The reason a switch that cannot trust its store boots killed with. -/
def distrustReason (detail : JsString) : JsString :=
  js "kill state cannot be trusted at boot — failed closed (" ++ detail ++ js ")"

/-- A switch over a store that loaded `state`. -/
def ofState (state : PersistedKillState) : KillSwitch :=
  let agentKills := (state.agentKills.getD .empty).entries
  { fresh with
    killedState := state.killed
    epochCounter := state.epoch
    lastKillEvent := state.lastKill
    log := (state.lastKill.map AuditEntry.kill).toList ++ agentKills.map fun (id, e) => .agentKill id e
    agentKillMap := JsMap.ofList agentKills }

/-- The constructor up to the `persist` of a boot that failed closed, which needs one. -/
def ofLoad (now : Int) : KillStateLoad → KillSwitch × Bool
  | .absent => (fresh, false)
  | .corrupt detail => (fresh.engaged now .api (some (distrustReason detail)) false, true)
  | .loaded state => (ofState state, false)

/-! ### What each transition does -/

@[simp] theorem persist_killed (now : Int) (o : StoreOutcome) : (s.persist now o).killed = s.killed := by
  cases o <;> rfl

/-- Only a kill or a restore moves the epoch. -/
@[simp] theorem persist_epoch (now : Int) (o : StoreOutcome) : (s.persist now o).epoch = s.epoch := by
  cases o <;> rfl

@[simp] theorem persist_lastKill (now : Int) (o : StoreOutcome) : (s.persist now o).lastKill = s.lastKill := by
  cases o <;> rfl

@[simp] theorem persist_agentKillMap (now : Int) (o : StoreOutcome) :
    (s.persist now o).agentKillMap = s.agentKillMap := by
  cases o <;> rfl

@[simp] theorem persist_consumedCeremonies (now : Int) (o : StoreOutcome) :
    (s.persist now o).consumedCeremonies = s.consumedCeremonies := by
  cases o <;> rfl

@[simp] theorem persist_persistedState (now : Int) (o : StoreOutcome) :
    (s.persist now o).persistedState = s.persistedState := by
  cases o <;> rfl

section Transitions

variable {s} {s' : KillSwitch} {now : Int} {source : KillSource} {reason : Option JsString} {unauthenticated : Bool}
  {o : StoreOutcome} {agentId : JsString} {auth : RestoreAuthorization}

@[simp] theorem engage_killed : (s.engage now source reason unauthenticated o).killed = true :=
  persist_killed ..

/-- Every kill is an epoch of its own. -/
@[simp] theorem engage_epoch : (s.engage now source reason unauthenticated o).epoch = s.epoch + 1 :=
  persist_epoch ..

@[simp] theorem engage_agentKillMap :
    (s.engage now source reason unauthenticated o).agentKillMap = s.agentKillMap :=
  persist_agentKillMap ..

@[simp] theorem engage_consumedCeremonies :
    (s.engage now source reason unauthenticated o).consumedCeremonies = s.consumedCeremonies :=
  persist_consumedCeremonies ..

/-- A scoped kill is the transition and what the store makes of it. -/
theorem engageAgent_eq (s : KillSwitch) (now : Int) (agentId : JsString) (source : KillSource)
    (reason : Option JsString) (unauthenticated : Bool) (o : StoreOutcome) :
    s.engageAgent now agentId source reason unauthenticated o
      = ((s.agentEngaged now agentId source reason unauthenticated).1.persist now o,
        (s.agentEngaged now agentId source reason unauthenticated).2) := rfl

/-- A scoped kill records its agent, or becomes a global one. -/
theorem engageAgent_cases (s : KillSwitch) (now : Int) (agentId : JsString) (source : KillSource)
    (reason : Option JsString) (unauthenticated : Bool) (o : StoreOutcome) :
    ((s.engageAgent now agentId source reason unauthenticated o).2 = true ∧
        (s.engageAgent now agentId source reason unauthenticated o).1.killed = true ∧
        (s.engageAgent now agentId source reason unauthenticated o).1.agentKillMap = s.agentKillMap) ∨
      ((s.engageAgent now agentId source reason unauthenticated o).2 = false ∧
        (s.engageAgent now agentId source reason unauthenticated o).1.killed = s.killed ∧
        ∃ event, (s.engageAgent now agentId source reason unauthenticated o).1.agentKillMap
          = s.agentKillMap.set agentId event) := by
  rw [engageAgent_eq]
  unfold agentEngaged
  split
  · exact .inl ⟨rfl, persist_killed .., persist_agentKillMap ..⟩
  · split
    · exact .inl ⟨rfl, persist_killed .., persist_agentKillMap ..⟩
    · exact .inr ⟨rfl, persist_killed .., _, persist_agentKillMap ..⟩

/-- A scoped kill is in force after it, as itself or as the global one it became. -/
theorem engageAgent_kills (s : KillSwitch) (now : Int) (agentId : JsString) (source : KillSource)
    (reason : Option JsString) (unauthenticated : Bool) (o : StoreOutcome) :
    if (s.engageAgent now agentId source reason unauthenticated o).2 then
      (s.engageAgent now agentId source reason unauthenticated o).1.killed = true
    else (s.engageAgent now agentId source reason unauthenticated o).1.agentKilled agentId = true := by
  rcases s.engageAgent_cases now agentId source reason unauthenticated o with
    ⟨hescalated, hkilled, -⟩ | ⟨hescalated, -, event, hmap⟩
  · rw [hescalated, if_pos rfl, hkilled]
  · rw [hescalated, if_neg Bool.false_ne_true, agentKilled, hmap, JsMap.has_set]
    simp

@[simp] theorem engageAgent_epoch :
    (s.engageAgent now agentId source reason unauthenticated o).1.epoch = s.epoch + 1 := by
  rw [engageAgent_eq]
  unfold agentEngaged
  split
  · exact persist_epoch ..
  · split
    · exact persist_epoch ..
    · exact persist_epoch ..

@[simp] theorem engageAgent_consumedCeremonies :
    (s.engageAgent now agentId source reason unauthenticated o).1.consumedCeremonies = s.consumedCeremonies := by
  rw [engageAgent_eq]
  unfold agentEngaged
  split
  · exact persist_consumedCeremonies ..
  · split
    · exact persist_consumedCeremonies ..
    · exact persist_consumedCeremonies ..

/-- An authorization is good once, and names its ceremony and its owner. -/
theorem checkAuthorization_ok (h : s.checkAuthorization auth = .ok ()) :
    auth.ceremonyId ≠ [] ∧ auth.ownerId ≠ [] ∧ auth.ceremonyId ∉ s.consumedCeremonies := by
  unfold checkAuthorization at h
  split at h
  · cases h
  · rename_i hids
    split at h
    · cases h
    · rename_i hfresh
      rw [not_or] at hids
      exact ⟨hids.1, hids.2, hfresh⟩

/-- What a restore needs and does. -/
structure Restored (s : KillSwitch) (auth : RestoreAuthorization) (s' : KillSwitch) : Prop where
  wasKilled : s.killed = true
  killed : s'.killed = false
  epoch : s'.epoch = s.epoch
  agentKillMap : s'.agentKillMap = s.agentKillMap
  unconsumed : auth.ceremonyId ∉ s.consumedCeremonies
  consumedCeremonies : s'.consumedCeremonies = s.consumedCeremonies.insert auth.ceremonyId

/-- What a restore that is accepted changes. -/
theorem restore_ok (h : s.restore now auth o = .ok s') : Restored s auth s' := by
  unfold restore restored at h
  split at h
  · cases h
  · rename_i hkilled
    cases hcheck : s.checkAuthorization auth with
    | error e =>
        rw [hcheck] at h
        cases h
    | ok u =>
        rw [hcheck] at h
        obtain rfl := Except.ok.inj h
        have hwas : s.killedState = true := by simpa using hkilled
        refine ⟨hwas, persist_killed .., persist_epoch .., persist_agentKillMap ..,
          (checkAuthorization_ok hcheck).2.2, persist_consumedCeremonies ..⟩

/-- What a restore of an agent needs and does. -/
structure AgentRestored (s : KillSwitch) (agentId : JsString) (auth : RestoreAuthorization) (s' : KillSwitch) :
    Prop where
  wasKilled : s.agentKilled agentId = true
  killed : s'.killed = s.killed
  epoch : s'.epoch = s.epoch
  agentKillMap : s'.agentKillMap = s.agentKillMap.delete agentId
  unconsumed : auth.ceremonyId ∉ s.consumedCeremonies
  consumedCeremonies : s'.consumedCeremonies = s.consumedCeremonies.insert auth.ceremonyId

/-- What a scoped restore that is accepted changes. -/
theorem restoreAgent_ok (h : s.restoreAgent now agentId auth o = .ok s') : AgentRestored s agentId auth s' := by
  unfold restoreAgent agentRestored at h
  split at h
  · cases h
  · rename_i hkilled
    cases hcheck : s.checkAuthorization auth with
    | error e =>
        rw [hcheck] at h
        cases h
    | ok u =>
        rw [hcheck] at h
        obtain rfl := Except.ok.inj h
        refine ⟨by simpa [agentKilled] using hkilled, persist_killed .., persist_epoch .., persist_agentKillMap ..,
          (checkAuthorization_ok hcheck).2.2, persist_consumedCeremonies ..⟩

end Transitions

/-! ### What the control plane answers -/

section Answers

variable (s : KillSwitch)

/-- The fields that say the durable state cannot be trusted. -/
def degradedFields : List (JsString × Option Json) :=
  [(js "persistenceDegraded", if s.persistenceDegraded then some (.bool true) else none),
   (js "unhealthy", if s.quarantineFailed then
      some (.str (js "stale kill state could not be quarantined — durable state is untrustworthy; owner intervention required"))
    else none)]

/-- `GET /status` -/
def statusBody : Json :=
  .obj <| Json.present <|
    (if s.killed then
      [(js "killed", some (.bool true)),
       (js "reason", (s.lastKill.bind KillEvent.reason).map .str),
       (js "at", s.lastKill.map fun e => .num e.at),
       (js "epoch", some (.num (.ofInt s.epoch))),
       (js "killedAgents", some (.arr (s.killedAgents.map .str)))]
    else
      [(js "killed", some (.bool false)),
       (js "epoch", some (.num (.ofInt s.epoch))),
       (js "killedAgents", some (.arr (s.killedAgents.map .str)))])
      ++ s.degradedFields

/-- `POST /kill` with an agent id: which switch flipped. -/
def scopedKillBody (agentId : JsString) (escalated : Bool) : Json :=
  .obj <| Json.present <|
    [(js "killed", some (.bool s.killed)),
     (js "epoch", some (.num (.ofInt s.epoch))),
     if escalated then (js "escalatedToGlobal", some (.bool true)) else (js "killedAgent", some (.str agentId))]
      ++ s.degradedFields

/-- `POST /kill` without one. -/
def globalKillBody : Json :=
  .obj <| Json.present <|
    [(js "killed", some (.bool true)), (js "epoch", some (.num (.ofInt s.epoch)))] ++ s.degradedFields

end Answers

end KillSwitch

end OwnerSwitch
