/-
Module: OwnerSwitch.ControlPlane.PlaneRuns
Layer: ControlPlane
Purpose: Runs of a control plane: any requests in any order, at times that do not go back. What one request
  does to each part of the state, one inversion for each part.
Imports: Lib.Lts, ControlPlane.Served
Trusted boundary: those of ControlPlane.Plane
Main exports: PlaneState, PlaneStep, planeRuns, Draw, FreshDraws, SwitchMove, WindowMove, ReviewMove
Open obligations: none
-/
import OwnerSwitch.Lib.Lts
import OwnerSwitch.ControlPlane.Served

namespace OwnerSwitch

/-- A plane and the last clock value it has read. -/
structure PlaneState where
  plane : Plane
  clock : Int

/-- A request and the clock value it reads. -/
structure PlaneStep where
  request : Request
  now : Int

/-- A plane that has just been constructed over whatever its files held. -/
def Plane.boot (killSwitch : KillSwitch) (devices : Devices) (registryFile : DeviceTable) (passkeySignCount : Nat) :
    Plane where
  killSwitch := killSwitch
  devices := devices
  registryFile := registryFile
  vetoWindows := .empty
  ownerDeliveries := .empty
  grantedWindows := []
  mintedGrants := .empty
  windowToGrant := .empty
  committedGrants := []
  approvalChallenges := .empty
  passkeySignCount := passkeySignCount
  loginChallenges := .empty
  ceremonies := .empty
  restoreChallenges := .empty
  draining := []

/-- The state a request leaves. -/
def PlaneState.after (prim : Primitives) (opts : ServerOptions) (s : PlaneState) (l : PlaneStep) : PlaneState :=
  ⟨(s.plane.serve prim opts l.now l.request).2, l.now⟩

/-- Runs from any construction, with the requests of any callers in any order. -/
def planeRuns (prim : Primitives) (opts : ServerOptions) : Lts PlaneState PlaneStep where
  init s := ∃ killSwitch devices registryFile signCount, s.plane = .boot killSwitch devices registryFile signCount
  next s l t := s.clock ≤ l.now ∧ t = s.after prim opts l

/-- One served request of a run. -/
abbrev PlaneEdge := Lts.Edge PlaneState PlaneStep

/-- What the request was answered. -/
def PlaneEdge.reply (prim : Primitives) (opts : ServerOptions) (e : PlaneEdge) : Reply :=
  (e.src.plane.serve prim opts e.label.now e.label.request).1

/-! ### Random draws -/

/-- What a request may draw at random, by its use. -/
inductive Draw where
  | ceremony (uuid : JsString)
  | window (hex : JsString)
  | delivery (hex : JsString)
  | grant (hex : JsString)
  | challenge (random : Bytes)
  deriving DecidableEq

def Request.draw : Request → Option Draw
  | .ceremonyStart _ _ _ uuid => some (.ceremony uuid)
  | .restoreChallengeDrained _ random => some (.challenge random)
  | .registerVeto _ _ hex => some (.window hex)
  | .getVeto _ _ hex => some (.grant hex)
  | .vetoDetail _ _ hex => some (.delivery hex)
  | .approvalChallengeDrained _ random => some (.challenge random)
  | .sessionChallenge random => some (.challenge random)
  | _ => none

/-- No draw of the run repeats an earlier one, and the suffix of a grant id is 8 bytes in hex. -/
structure FreshDraws (es : List PlaneEdge) : Prop where
  distinct : (es.filterMap fun e => e.label.request.draw).Nodup
  grantLength : ∀ e ∈ es, ∀ hex, e.label.request.draw = some (.grant hex) → hex.length = 16

section

variable {prim : Primitives} {opts : ServerOptions} {es : List PlaneEdge} {t : PlaneState} {e : PlaneEdge}

theorem served_of_next {s t : PlaneState} {l : PlaneStep} (h : (planeRuns prim opts).next s l t) :
    s.plane.Served prim opts l.now l.request (PlaneEdge.reply prim opts ⟨s, l, t⟩) t.plane := by
  obtain ⟨-, rfl⟩ := h
  exact Plane.serve_served l.request

theorem clock_mono {s : PlaneState} {l : PlaneStep} (h : (planeRuns prim opts).next s l t) : s.clock ≤ t.clock := by
  obtain ⟨hclock, rfl⟩ := h
  exact hclock

theorem FreshDraws.prefix {fs : List PlaneEdge} (h : FreshDraws (es ++ fs)) : FreshDraws es where
  distinct := by
    have hdistinct := h.distinct
    rw [List.filterMap_append, List.nodup_append] at hdistinct
    exact hdistinct.1
  grantLength e he := h.grantLength e (List.mem_append_left _ he)

/-- The draw of the last request was not made before. -/
theorem FreshDraws.last {draw : Draw} (h : FreshDraws (es ++ [e])) (hdraw : e.label.request.draw = some draw) :
    ∀ d ∈ es, d.label.request.draw ≠ some draw := by
  have hdistinct := h.distinct
  rw [List.filterMap_append, List.nodup_append] at hdistinct
  intro d hd hsame
  refine hdistinct.2.2 draw (List.mem_filterMap.mpr ⟨d, hd, hsame⟩) draw ?_ rfl
  exact List.mem_filterMap.mpr ⟨e, List.mem_singleton_self e, hdraw⟩

end

/-! ### The kill switch -/

/-- An engagement, global or scoped. -/
def AuditEntry.isKill : AuditEntry → Bool
  | .kill _ => true
  | .agentKill _ _ => true
  | _ => false

/-- The engagements of a switch, oldest first. -/
def KillSwitch.kills (s : KillSwitch) : List AuditEntry :=
  s.log.filter AuditEntry.isKill

namespace KillSwitch

variable {s s' : KillSwitch} {now : Int} {source : KillSource} {reason : Option JsString} {unauthenticated : Bool}
  {o : StoreOutcome} {agentId : JsString} {auth : RestoreAuthorization}

theorem kills_persist (s : KillSwitch) (now : Int) (o : StoreOutcome) : (s.persist now o).kills = s.kills := by
  cases o <;> rfl

theorem kills_engage (s : KillSwitch) (now : Int) (source : KillSource) (reason : Option JsString)
    (unauthenticated : Bool) (o : StoreOutcome) :
    ∃ entry, (s.engage now source reason unauthenticated o).kills = s.kills ++ [entry] := by
  rw [engage, kills_persist]
  exact ⟨_, List.filter_append ..⟩

/-- A scoped kill is on record as itself, or as the global one it became. -/
theorem kills_engageAgent (s : KillSwitch) (now : Int) (agentId : JsString) (source : KillSource)
    (reason : Option JsString) (unauthenticated : Bool) (o : StoreOutcome) :
    (∃ entry, (s.engageAgent now agentId source reason unauthenticated o).1.kills = s.kills ++ [entry] ∧
      (s.engageAgent now agentId source reason unauthenticated o).1.agentKillMap = s.agentKillMap ∧
      (s.engageAgent now agentId source reason unauthenticated o).1.killed = true) ∨
    ∃ event,
      (s.engageAgent now agentId source reason unauthenticated o).1.kills = s.kills ++ [.agentKill agentId event] ∧
      (s.engageAgent now agentId source reason unauthenticated o).1.agentKillMap = s.agentKillMap.set agentId event ∧
      (s.engageAgent now agentId source reason unauthenticated o).1.killed = s.killed := by
  rw [engageAgent_eq, kills_persist, persist_agentKillMap, persist_killed]
  unfold agentEngaged
  split
  · exact .inl ⟨_, List.filter_append .., rfl, rfl⟩
  · split
    · exact .inl ⟨_, List.filter_append .., rfl, rfl⟩
    · exact .inr ⟨_, List.filter_append .., rfl, rfl⟩

theorem kills_alert : (s.alert now source reason unauthenticated).kills = s.kills := by
  rw [kills, alert, List.filter_append]
  exact List.append_nil _

theorem kills_restore (h : s.restore now auth o = .ok s') : s'.kills = s.kills := by
  unfold restore restored at h
  split at h
  · cases h
  · split at h
    · cases h
    · obtain rfl := Except.ok.inj h
      rw [kills_persist, kills, List.filter_append]
      exact List.append_nil _

theorem kills_restoreAgent (h : s.restoreAgent now agentId auth o = .ok s') : s'.kills = s.kills := by
  unfold restoreAgent agentRestored at h
  split at h
  · cases h
  · split at h
    · cases h
    · obtain rfl := Except.ok.inj h
      rw [kills_persist, kills, List.filter_append]
      exact List.append_nil _

end KillSwitch

namespace Plane

/-- No challenge of any kind is outstanding. -/
structure ChallengesVoid (p : Plane) : Prop where
  approval : p.approvalChallenges = .empty
  login : p.loginChallenges = .empty
  restore : p.restoreChallenges = .empty

/-- The ceremony a restore request names, checked and confirmed by it. -/
structure Confirms (p : Plane) (now : Int) (request : Request) (scope : Option JsString) (id : JsString)
    (record : CeremonyRecord) (authz : RestoreAuthorization) : Prop where
  requested : ∃ body o, request = .restore (some record.ceremony.ownerId) (.ok body) o ∧
    (bodyText body (js "ceremonyId")).getD [] = id
  known : p.ceremonies.get? id = some record
  epoch : record.epoch = p.killSwitch.epoch
  scope : record.agentId = scope
  confirmed : (record.ceremony.confirm now).2 = some authz

/-- What a request can do to the kill switch. Every engagement voids the challenges. -/
inductive SwitchMove (p : Plane) (now : Int) (request : Request) (p' : Plane) : Prop where
  | kept (hkilled : p'.killSwitch.killed = p.killSwitch.killed) (hepoch : p'.killSwitch.epoch = p.killSwitch.epoch)
      (hagents : p'.killSwitch.agentKillMap = p.killSwitch.agentKillMap)
      (hkills : p'.killSwitch.kills = p.killSwitch.kills)
  | engaged (entry : AuditEntry) (hepoch : p'.killSwitch.epoch = p.killSwitch.epoch + 1)
      (hkilled : p.killSwitch.killed = true → p'.killSwitch.killed = true)
      (hagents : ∀ agentId, p.killSwitch.agentKilled agentId = true → p'.killSwitch.agentKilled agentId = true)
      (hscoped : ∀ agentId, p'.killSwitch.agentKilled agentId = true → p.killSwitch.agentKilled agentId = true ∨
        ∃ event, entry = .agentKill agentId event)
      (hkills : p'.killSwitch.kills = p.killSwitch.kills ++ [entry]) (hvoid : p'.ChallengesVoid)
  | restored {id record authz} (hconfirms : p.Confirms now request none id record authz)
      (hrestored : p.killSwitch.Restored authz p'.killSwitch) (hkills : p'.killSwitch.kills = p.killSwitch.kills)
  | agentRestored {agentId id record authz} (hconfirms : p.Confirms now request (some agentId) id record authz)
      (hlive : p.killSwitch.killed = false) (hrestored : p.killSwitch.AgentRestored agentId authz p'.killSwitch)
      (hkills : p'.killSwitch.kills = p.killSwitch.kills)

/-! ### Sweeps -/

section

variable {prim : Primitives} {opts : ServerOptions} {p p' : Plane} {now : Int} {request : Request} {reply : Reply}
  {id : JsString}

/-- A window after the sweeps of a handler, in order. -/
def sweptWindow (prim : Primitives) (p : Plane) (now : Int) (sweeps : List (JsString × Devices)) (w : VetoWindow) :
    VetoWindow :=
  sweeps.foldl (fun w (id, devices) =>
    (w.revokeDeliveryEvidence (devices.witnessStanding prim.parseSpki p.killSwitch.killed) now id).1) w

/-- The sweeps touch nothing but the deliveries and the windows. -/
theorem sweepAll_eq (prim : Primitives) (p : Plane) (now : Int) (sweeps : List (JsString × Devices)) :
    ∃ deliveries windows, p.sweepAll prim now sweeps
        = { p with ownerDeliveries := deliveries, vetoWindows := windows } ∧
      (∀ id delivery, deliveries.get? id = some delivery → p.ownerDeliveries.get? id = some delivery) ∧
      ∀ id, windows.get? id = (p.vetoWindows.get? id).map (p.sweptWindow prim now sweeps) := by
  induction sweeps generalizing p with
  | nil => exact ⟨_, _, rfl, fun _ _ h => h, fun id => by cases p.vetoWindows.get? id <;> rfl⟩
  | cons sweep sweeps ih =>
      obtain ⟨deliveries, windows, heq, hdeliveries, hwindows⟩ := ih (p.sweepDevice prim now sweep.1 sweep.2)
      refine ⟨deliveries, windows, heq, fun id delivery h => JsMap.get?_of_filter (hdeliveries id delivery h),
        fun id => ?_⟩
      rw [hwindows, sweepDevice, JsMap.get?_mapVal, Option.map_map]
      rfl

/-- What a handler that changes standing leaves of the plane. -/
theorem adopt_eq {ρ : Type} (prim : Primitives) (p : Plane) (now : Int) (r : Handled ρ) (o : StoreOutcome) :
    ∃ deliveries windows swept, swept = { p with
        devices := r.devices, registryFile := r.registryFile, ownerDeliveries := deliveries, vetoWindows := windows } ∧
      (p.adopt prim r now o = swept ∨
        ∃ reason, p.adopt prim r now o
          = { swept with killSwitch := p.killSwitch.engage now .api (some reason) false o }.clearChallenges) ∧
      (∀ id delivery, deliveries.get? id = some delivery → p.ownerDeliveries.get? id = some delivery) ∧
      ∀ id, windows.get? id = (p.vetoWindows.get? id).map (p.sweptWindow prim now r.sweeps) := by
  obtain ⟨deliveries, windows, heq, hdeliveries, hwindows⟩ := sweepAll_eq prim p now r.sweeps
  refine ⟨deliveries, windows, _, rfl, ?_, hdeliveries, hwindows⟩
  unfold adopt
  rw [heq]
  cases r.engages with
  | none => exact .inl rfl
  | some reason => exact .inr ⟨reason, rfl⟩

/-! ### What a request does to the switch -/

theorem SwitchMove.of_engage {q : Plane} {source : KillSource} {reason : Option JsString} {unauthenticated : Bool}
    {o : StoreOutcome} (h : p' = { q with
      killSwitch := p.killSwitch.engage now source reason unauthenticated o }.clearChallenges) :
    SwitchMove p now request p' := by
  subst h
  obtain ⟨entry, hkills⟩ := p.killSwitch.kills_engage now source reason unauthenticated o
  have hagents : ∀ agentId, (p.killSwitch.engage now source reason unauthenticated o).agentKilled agentId
      = p.killSwitch.agentKilled agentId :=
    fun agentId => congrArg (·.has agentId) KillSwitch.engage_agentKillMap
  exact .engaged entry KillSwitch.engage_epoch (fun _ => KillSwitch.engage_killed)
    (fun agentId h => (hagents agentId).trans h) (fun agentId h => .inl ((hagents agentId).symm.trans h)) hkills
    ⟨rfl, rfl, rfl⟩

theorem SwitchMove.of_engageAgent {agentId : JsString} {source : KillSource} {reason : Option JsString}
    {unauthenticated : Bool} {o : StoreOutcome} (h : p' = { p with
      killSwitch := (p.killSwitch.engageAgent now agentId source reason unauthenticated o).1 }.clearChallenges) :
    SwitchMove p now request p' := by
  subst h
  rcases p.killSwitch.kills_engageAgent now agentId source reason unauthenticated o with
    ⟨entry, hkills, hmap, hkilled⟩ | ⟨event, hkills, hmap, hkilled⟩
  · exact .engaged entry KillSwitch.engageAgent_epoch (fun _ => hkilled)
      (fun id h => (congrArg (·.has id) hmap).trans h) (fun id h => .inl ((congrArg (·.has id) hmap).symm.trans h))
      hkills ⟨rfl, rfl, rfl⟩
  · have hagents : ∀ id, (p.killSwitch.engageAgent now agentId source reason unauthenticated o).1.agentKilled id
        = (decide (id = agentId) || p.killSwitch.agentKilled id) :=
      fun id => (congrArg (·.has id) hmap).trans (JsMap.has_set _ _ _ _)
    refine .engaged (.agentKill agentId event) KillSwitch.engageAgent_epoch (fun h => hkilled.trans h)
      (fun id h => ?_) (fun id h => ?_) hkills ⟨rfl, rfl, rfl⟩
    · exact (hagents id).trans (by rw [h, Bool.or_true])
    · have hid := (hagents id).symm.trans h
      rw [Bool.or_eq_true, decide_eq_true_eq] at hid
      rcases hid with rfl | hid
      · exact .inr ⟨event, rfl⟩
      · exact .inl hid

theorem SwitchMove.of_adopt {ρ : Type} (r : Handled ρ) (o : StoreOutcome) :
    SwitchMove p now request (p.adopt prim r now o) := by
  obtain ⟨deliveries, windows, swept, rfl, hadopt, -, -⟩ := adopt_eq prim p now r o
  rcases hadopt with hadopt | ⟨reason, hadopt⟩
  · rw [hadopt]
    exact .kept rfl rfl rfl rfl
  · exact .of_engage hadopt

theorem Served.switchMove (h : p.Served prim opts now request reply p') : SwitchMove p now request p' := by
  cases h with
  | engaged => exact .of_engage rfl
  | agentEngaged => exact .of_engageAgent rfl
  | alerted => exact .kept rfl rfl rfl KillSwitch.kills_alert
  | restored hnamed hget howner hepoch hscope hrestorable hredeemed hconfirm hrestore =>
      subst howner
      exact .restored ⟨⟨_, _, rfl, hnamed⟩, hget, hepoch, hscope, hconfirm⟩ (KillSwitch.restore_ok hrestore)
        (KillSwitch.kills_restore hrestore)
  | agentRestored hnamed hget howner hepoch hscope hlive hredeemed hconfirm hrestore =>
      subst howner
      exact .agentRestored ⟨⟨_, _, rfl, hnamed⟩, hget, hepoch, hscope, hconfirm⟩ hlive
        (KillSwitch.restoreAgent_ok hrestore) (KillSwitch.kills_restoreAgent hrestore)
  | revoked => exact .of_adopt _ _
  | enrolled => exact .of_adopt _ _
  | _ => exact .kept rfl rfl rfl rfl

/-! ### What a request does to a window -/

/-- The sweeps of a request that changes standing. -/
def sweepsOf (prim : Primitives) (p : Plane) (now : Int) : Request → List (JsString × Devices)
  | .deviceRevoke _ id registrySave save _ =>
      (p.devices.postDeviceRevoke p.registryFile id registrySave save now).sweeps
  | .deviceEnroll submission deviceId registrySave save _ =>
      (p.devices.postDeviceEnroll prim.parseSpki p.registryFile submission deviceId registrySave save now).sweeps
  | _ => []

/-- Where a window comes from that a request leaves. -/
inductive WindowMove (prim : Primitives) (p : Plane) (now : Int) (request : Request) (reply : Reply) (p' : Plane)
    (id : JsString) (w' : VetoWindow) : Prop where
  | kept (hget : p.vetoWindows.get? id = some w')
  | registered {body call} (purpose : Option VetoPurpose) (hex : JsString)
      (hrequest : request = .registerVeto true (.ok body) hex)
      (hreply : reply = .registered id (VetoWindow.register call p.killSwitch.epoch purpose now).status)
      (hid : id = js "veto_" ++ hex)
      (hcall : toolCallFrom (body.get (js "call")) = some call)
      (hagent : p.killSwitch.agentKilled call.agentId = false) (hw : w' = .register call p.killSwitch.epoch purpose now)
  | ticked {w} (hget : p.vetoWindows.get? id = some w) (hw : w' = w.tick (p.witnessStanding prim) now)
  | swept {w} (hget : p.vetoWindows.get? id = some w)
      (hw : w' = p.sweptWindow prim now (p.sweepsOf prim now request) w)
  | acked {w ownerDevice body deviceId deliveryId delivery generation}
      (hrequest : request = .vetoSeen ownerDevice id (.ok body))
      (hdevice : p.validOwnerDeviceId prim ownerDevice = some deviceId) (hget : p.vetoWindows.get? id = some w)
      (hundelivered : w.delivered = none) (hopen : (w.tick (p.witnessStanding prim) now).status.isOpen = true)
      (haccepted : AckAccepted prim p now id deviceId (w.tick (p.witnessStanding prim) now) body deliveryId delivery
        generation)
      (hconsumed : p'.ownerDeliveries = p.ownerDeliveries.set deliveryId { delivery with consumed := true })
      (hw : w' = (w.tick (p.witnessStanding prim) now).markDelivered (some deviceId) (some generation) now)
  | vetoed {w «by»} (ownerId fleetDevice : Option JsString) (ownerDevice : Option OwnerDeviceCredential) (body : Body)
      (hrequest : request = .veto ownerId fleetDevice ownerDevice id body) (hget : p.vetoWindows.get? id = some w)
      (hcommitted : (p.windowToGrant.get? id).any p.committedGrants.contains = false) (hveto : w.veto «by» = .ok w')
  | approved {w ownerId} (fleetDevice : Option JsString) (ownerDevice : Option OwnerDeviceCredential) (body : Json)
      (hrequest : request = .veto (some ownerId) fleetDevice ownerDevice id (.ok body)) (hreply : reply = .approved)
      (hget : p.vetoWindows.get? id = some w) (hlive : p.killSwitch.killed = false)
      (hagent : p.killSwitch.agentKilled w.call.agentId = false)
      (happrove : w.approve ownerId p.killSwitch.epoch now = .ok w')

theorem WindowMove.of_set {id' : JsString} {w w' : VetoWindow} (hget : (p.vetoWindows.set id' w').get? id = some w)
    (hmove : WindowMove prim p now request reply p' id' w') : WindowMove prim p now request reply p' id w := by
  rw [JsMap.get?_set] at hget
  split at hget
  · rename_i hsame
    obtain rfl := Option.some.inj hget
    subst hsame
    exact hmove
  · exact .kept hget

theorem WindowMove.of_adopt {ρ : Type} {r : Handled ρ} {o : StoreOutcome} {w : VetoWindow}
    (hsweeps : r.sweeps = p.sweepsOf prim now request)
    (hget : (p.adopt prim r now o).vetoWindows.get? id = some w) :
    WindowMove prim p now request reply p' id w := by
  obtain ⟨deliveries, windows, swept, rfl, hadopt, -, hwindows⟩ := adopt_eq prim p now r o
  have hswept : (p.vetoWindows.get? id).map (p.sweptWindow prim now r.sweeps) = some w := by
    rcases hadopt with hadopt | ⟨reason, hadopt⟩
    · rw [hadopt] at hget
      exact (hwindows id).symm.trans hget
    · rw [hadopt] at hget
      exact (hwindows id).symm.trans hget
  obtain ⟨old, hold, rfl⟩ := Option.map_eq_some_iff.mp hswept
  rw [hsweeps]
  exact .swept hold rfl

theorem Served.windowMove {w : VetoWindow} (h : p.Served prim opts now request reply p')
    (hget : p'.vetoWindows.get? id = some w) : WindowMove prim p now request reply p' id w := by
  cases h with
  | approved fleetDevice ownerDevice hfound heligible hlive hagent hredeemed happrove =>
      exact .of_set hget (.approved fleetDevice ownerDevice _ rfl rfl hfound hlive hagent happrove)
  | stopped ownerId fleetDevice ownerDevice body hfound hcommitted hveto =>
      exact .of_set hget (.vetoed ownerId fleetDevice ownerDevice body rfl hfound hcommitted hveto)
  | registered purpose hex hcall hagent => exact .of_set hget (.registered purpose hex rfl rfl rfl hcall hagent rfl)
  | statusRead deviceRead hex hfound => exact .of_set hget (.ticked hfound rfl)
  | granted deviceRead hex hfound => exact .of_set hget (.ticked hfound rfl)
  | listed windows =>
      rw [tickWindows, JsMap.get?_mapVal] at hget
      obtain ⟨old, hold, hticked⟩ := Option.map_eq_some_iff.mp hget
      exact .ticked hold hticked.symm
  | detailed ownerDevice hex hfound => exact .of_set hget (.ticked hfound rfl)
  | fetched hex hdevice hfound => exact .of_set hget (.ticked hfound rfl)
  | reacked ownerDevice body hfound => exact .of_set hget (.ticked hfound rfl)
  | unacked ownerDevice body hfound => exact .of_set hget (.ticked hfound rfl)
  | forgotten ownerDevice body hfound => exact .of_set hget (.ticked hfound rfl)
  | acked hdevice hfound hundelivered hlive hopen haccepted =>
      exact .of_set hget (.acked rfl hdevice hfound hundelivered hopen haccepted rfl rfl)
  | revoked => exact .of_adopt rfl hget
  | enrolled => exact .of_adopt rfl hget
  | _ => exact .kept hget

theorem sweptWindow_sameReview (sweeps : List (JsString × Devices)) (w : VetoWindow) :
    w.SameReview (p.sweptWindow prim now sweeps w) := by
  induction sweeps generalizing w with
  | nil => exact .refl w
  | cons sweep sweeps ih =>
      exact (w.revokeDeliveryEvidence_sameReview _ now sweep.1).trans (ih _)

/-- What a request can do to what has been decided of a window. -/
inductive ReviewMove (p : Plane) (now : Int) (request : Request) (reply : Reply) (id : JsString) (w' : VetoWindow) :
    Prop where
  | same {w} (hget : p.vetoWindows.get? id = some w) (hsame : w.SameReview w')
  | registered {body call} (purpose : Option VetoPurpose) (hex : JsString)
      (hrequest : request = .registerVeto true (.ok body) hex)
      (hreply : reply = .registered id (VetoWindow.register call p.killSwitch.epoch purpose now).status)
      (hid : id = js "veto_" ++ hex)
      (hcall : toolCallFrom (body.get (js "call")) = some call)
      (hagent : p.killSwitch.agentKilled call.agentId = false) (hw : w' = .register call p.killSwitch.epoch purpose now)
  | vetoed {w «by»} (ownerId fleetDevice : Option JsString) (ownerDevice : Option OwnerDeviceCredential) (body : Body)
      (hrequest : request = .veto ownerId fleetDevice ownerDevice id body) (hget : p.vetoWindows.get? id = some w)
      (hcommitted : (p.windowToGrant.get? id).any p.committedGrants.contains = false)
      (hw : w' = { w with status := .vetoed, vetoedBy := some «by» })
  | approved {w ownerId} (fleetDevice : Option JsString) (ownerDevice : Option OwnerDeviceCredential) (body : Json)
      (hrequest : request = .veto (some ownerId) fleetDevice ownerDevice id (.ok body)) (hreply : reply = .approved)
      (hget : p.vetoWindows.get? id = some w) (hlive : p.killSwitch.killed = false)
      (hagent : p.killSwitch.agentKilled w.call.agentId = false) (hvetoed : w.status ≠ .vetoed)
      (hfirst : w.approval = none) (hw : w' = { w with approval := some ⟨ownerId, now, p.killSwitch.epoch⟩ })

theorem WindowMove.review {w : VetoWindow} (h : WindowMove prim p now request reply p' id w) :
    ReviewMove p now request reply id w := by
  cases h with
  | kept hget => exact .same hget (.refl w)
  | registered purpose hex hrequest hreply hid hcall hagent hw =>
      exact .registered purpose hex hrequest hreply hid hcall hagent hw
  | ticked hget hw =>
      subst hw
      exact .same hget (VetoWindow.tick_sameReview _ _ _)
  | swept hget hw =>
      subst hw
      exact .same hget (sweptWindow_sameReview _ _)
  | acked hrequest hdevice hget hundelivered hopen haccepted hconsumed hw =>
      subst hw
      exact .same hget ((VetoWindow.tick_sameReview _ _ _).trans (VetoWindow.markDelivered_sameReview _ _ _ _))
  | vetoed ownerId fleetDevice ownerDevice body hrequest hget hcommitted hveto =>
      exact .vetoed ownerId fleetDevice ownerDevice body hrequest hget hcommitted (VetoWindow.veto_ok hveto)
  | approved fleetDevice ownerDevice body hrequest hreply hget hlive hagent happrove =>
      obtain ⟨hvetoed, hfirst, hw⟩ := VetoWindow.approve_ok happrove
      exact .approved fleetDevice ownerDevice body hrequest hreply hget hlive hagent hvetoed hfirst hw

/-- A window is never forgotten. -/
theorem Served.window_kept {w : VetoWindow} (h : p.Served prim opts now request reply p')
    (hget : p.vetoWindows.get? id = some w) : ∃ w', p'.vetoWindows.get? id = some w' := by
  have hset : ∀ id' w', ∃ w'', (p.vetoWindows.set id' w').get? id = some w'' := by
    intro id' w'
    rw [JsMap.get?_set]
    split
    · exact ⟨w', rfl⟩
    · exact ⟨w, hget⟩
  have hadopt : ∀ {ρ : Type} (r : Handled ρ) (o : StoreOutcome),
      ∃ w'', (p.adopt prim r now o).vetoWindows.get? id = some w'' := by
    intro ρ r o
    obtain ⟨deliveries, windows, swept, rfl, hadopt | ⟨reason, hadopt⟩, -, hwindows⟩ := adopt_eq prim p now r o
    · rw [hadopt]
      exact ⟨_, (hwindows id).trans (congrArg _ hget)⟩
    · rw [hadopt]
      exact ⟨_, (hwindows id).trans (congrArg _ hget)⟩
  cases h with
  | approved => exact hset _ _
  | stopped => exact hset _ _
  | registered => exact hset _ _
  | statusRead => exact hset _ _
  | granted => exact hset _ _
  | listed windows =>
      rw [tickWindows, JsMap.get?_mapVal, hget]
      exact ⟨_, rfl⟩
  | detailed => exact hset _ _
  | fetched => exact hset _ _
  | reacked => exact hset _ _
  | unacked => exact hset _ _
  | forgotten => exact hset _ _
  | acked => exact hset _ _
  | revoked => exact hadopt _ _
  | enrolled => exact hadopt _ _
  | _ => exact ⟨w, hget⟩

end

end Plane

/-- The engagements grow with the epoch, and only with it. -/
theorem kills_of_epoch {prim : Primitives} {opts : ServerOptions} {s t : PlaneState} {es : List PlaneEdge}
    (h : (planeRuns prim opts).Path s es t) :
    s.plane.killSwitch.epoch ≤ t.plane.killSwitch.epoch ∧
      (t.plane.killSwitch.epoch = s.plane.killSwitch.epoch → t.plane.killSwitch.kills = s.plane.killSwitch.kills) := by
  refine h.stable (P := fun u => s.plane.killSwitch.epoch ≤ u.plane.killSwitch.epoch ∧
    (u.plane.killSwitch.epoch = s.plane.killSwitch.epoch → u.plane.killSwitch.kills = s.plane.killSwitch.kills))
    ?_ ⟨le_rfl, fun _ => rfl⟩
  rintro u l v ⟨hle, hkills⟩ hnext
  cases (served_of_next hnext).switchMove with
  | kept hkilled hepoch hagents hsame =>
      rw [hepoch, hsame]
      exact ⟨hle, hkills⟩
  | engaged entry hepoch =>
      rw [hepoch]
      exact ⟨by omega, fun h => by omega⟩
  | restored hconfirms hrestored hsame =>
      rw [hrestored.epoch, hsame]
      exact ⟨hle, hkills⟩
  | agentRestored hconfirms hlive hrestored hsame =>
      rw [hrestored.epoch, hsame]
      exact ⟨hle, hkills⟩

/-! ### Sample runs -/

namespace PlaneSample

/-- A platform for samples: printable ASCII is displayable and normalised, the hash pads or cuts its input to 32 bytes,
    and a signature is the key's text followed by what it signs. -/
def prim : Primitives where
  net := { forbidden := fun value => value.any fun u => u < 0x20 || 0x7E < u, isNfc := fun _ => true }
  crypto :=
    { sha256 := fun bs => (bs ++ List.replicate 32 0).take 32
      verify := fun key bs signature => some (decide (signature = Utf8.encode key ++ bs)) }
  parseSpki := some

/-- A control plane without a passkey. -/
def sessionOnly : ServerOptions where
  ownerPasskey := none
  dev := true
  grantKey := true
  killStateKey := true
  grantTtlMs := 300000

/-- No device of either population. -/
def noDevices : Devices where
  ownerDevices := .empty
  enrolledDevices := .unconfigured
  standingStore := false
  standingQuarantined := false
  unenrolledStanding := .empty

/-- One static device, in good standing. -/
def onePhone : Devices :=
  { noDevices with
    ownerDevices := JsMap.ofList [(js "phone", { publicKey := js "key", generation := 1, revokedAt := none })] }

def phone : OwnerDeviceCredential where
  deviceId := js "phone"
  publicKey := js "key"

def boot (devices : Devices) : PlaneState :=
  ⟨.boot .fresh devices .empty 0, 0⟩

def enabled (s : PlaneState) (l : PlaneStep) : Bool :=
  decide (s.clock ≤ l.now)

/-- Requests at times that do not go back are a run. -/
theorem exec (prim : Primitives) (opts : ServerOptions) (devices : Devices) (ls : List PlaneStep) (l : PlaneStep)
    (h : Lts.allEnabled (PlaneState.after prim opts) enabled (boot devices) (ls ++ [l]) = true) :
    (planeRuns prim opts).Exec
      (Lts.trace (PlaneState.after prim opts) (boot devices) ls ++
        [⟨ls.foldl (PlaneState.after prim opts) (boot devices), l,
          (ls.foldl (PlaneState.after prim opts) (boot devices)).after prim opts l⟩])
      ((ls.foldl (PlaneState.after prim opts) (boot devices)).after prim opts l) := by
  have hsound : ∀ s l, enabled s l = true → (planeRuns prim opts).next s l (s.after prim opts l) :=
    fun _ _ h => ⟨of_decide_eq_true h, rfl⟩
  exact Lts.Exec.trace_snoc hsound ⟨_, _, _, _, rfl⟩ h

/-- Whether requests draw what is fresh. -/
def drawsFresh (ls : List PlaneStep) : Bool :=
  decide (ls.filterMap fun l => l.request.draw).Nodup && ls.all fun l =>
    match l.request.draw with
    | some (.grant hex) => hex.length = 16
    | _ => true

theorem fresh_of_labels {es : List PlaneEdge} (h : drawsFresh (es.map Lts.Edge.label) = true) : FreshDraws es := by
  rw [drawsFresh, Bool.and_eq_true, decide_eq_true_eq, List.filterMap_map, List.all_eq_true] at h
  refine ⟨h.1, fun e he hex hdraw => ?_⟩
  have hlength := h.2 e.label (List.mem_map_of_mem he)
  rw [hdraw] at hlength
  exact of_decide_eq_true hlength

theorem fresh (prim : Primitives) (opts : ServerOptions) (devices : Devices) (ls : List PlaneStep) (l : PlaneStep)
    (h : drawsFresh (ls ++ [l]) = true) :
    FreshDraws (Lts.trace (PlaneState.after prim opts) (boot devices) ls ++
      [⟨ls.foldl (PlaneState.after prim opts) (boot devices), l,
        (ls.foldl (PlaneState.after prim opts) (boot devices)).after prim opts l⟩]) := by
  apply fresh_of_labels
  rw [List.map_append, Lts.trace_labels]
  exact h

end PlaneSample

end OwnerSwitch
