/-
Module: OwnerSwitch.ControlPlane.ScopedKillRuns
Layer: ControlPlane
Purpose: A scoped kill voids what the agent had: the one epoch that all kills share passes every window and approval of
  the agent, and only what is registered or approved afterwards counts again.
Imports: ControlPlane.GrantRuns, ControlPlane.ReleaseRuns
Trusted boundary: those of ControlPlane.Plane
Main exports: ScopeKills, ServesReleased, StaleRead, scoped_kill_voids
Open obligations: none
-/
import OwnerSwitch.ControlPlane.GrantRuns
import OwnerSwitch.ControlPlane.ReleaseRuns

namespace OwnerSwitch

/-- The request `k` scope-killed the agent. -/
def ScopeKills (k : PlaneEdge) (agentId : JsString) : Prop :=
  ∃ event, k.dst.plane.killSwitch.kills = k.src.plane.killSwitch.kills ++ [.agentKill agentId event]

section

variable (prim : Primitives) (opts : ServerOptions) (e : PlaneEdge) (id : JsString)

/-- The request `e` registered the window `id`. -/
def Registers : Prop :=
  ∃ signed body hex status, e.label.request = .registerVeto signed body hex ∧ e.reply prim opts = .registered id status

/-- The detail fetch or repeated ack `e` of the window `id`. -/
def RereadsWindow : Prop :=
  (∃ ownerDevice hex, e.label.request = .vetoDetail ownerDevice id hex) ∨
    ∃ ownerDevice body, e.label.request = .vetoSeen ownerDevice id body

/-- A read `e` of the window `id` served it as released. -/
def ServesReleased : Prop :=
  (∃ deviceRead hex pacing grant, e.label.request = .getVeto id deviceRead hex ∧
      e.reply prim opts = .window (.ofWindow .released) pacing grant) ∨
    (∃ ownerDevice hex display revision deadline delivery, e.label.request = .vetoDetail ownerDevice id hex ∧
      e.reply prim opts = .detail id display .released revision deadline delivery) ∨
    ∃ ownerDevice body deadline revision, e.label.request = .vetoSeen ownerDevice id body ∧
      e.reply prim opts = .seen .released deadline revision

/-- What makes a window count among the requests `since`: in the lane of the merge grants its approval, in the plain
    lane its registration. -/
def Renewed (since : List PlaneEdge) (w : VetoWindow) : Prop :=
  if opts.grantKey && (prim.grantEligibleArgs w).isSome then ∃ a ∈ since, Approves prim opts a id
  else ∃ r ∈ since, Registers prim opts r id

end

/-- After `pre`, the request `e` re-reads a released window that has not counted since a scoped kill of its agent. -/
def StaleRead (prim : Primitives) (opts : ServerOptions) (pre : List PlaneEdge) (e : PlaneEdge) : Prop :=
  ∃ id w, RereadsWindow e id ∧ e.src.plane.vetoWindows.get? id = some w ∧
    (w.tick (e.src.plane.witnessStanding prim) e.label.now).status = .released ∧
    ∃ before k since, pre = before ++ k :: since ∧ ScopeKills k w.call.agentId ∧ ¬ Renewed prim opts id since w

/-! ### Epochs -/

/-- The epoch `n` of something of an agent: not past the epoch in force, and passed while the agent is killed. -/
def KillSwitch.Passes (s : KillSwitch) (agentId : JsString) (n : Nat) : Prop :=
  n ≤ s.epoch ∧ (s.agentKilled agentId = true → n < s.epoch)

variable {prim : Primitives} {opts : ServerOptions} {es pre post before since : List PlaneEdge} {s t : PlaneState}
  {l : PlaneStep} {e k : PlaneEdge} {id agentId : JsString} {w : VetoWindow}

theorem KillSwitch.Passes.step {p p' : Plane} {now : Int} {request : Request} {n : Nat}
    (h : p.killSwitch.Passes agentId n) (hmove : p.SwitchMove now request p') : p'.killSwitch.Passes agentId n := by
  obtain ⟨hle, hlt⟩ := h
  cases hmove with
  | kept hkilled hepoch hagents =>
      rw [KillSwitch.Passes, hepoch, KillSwitch.agentKilled, hagents]
      exact ⟨hle, hlt⟩
  | engaged entry hepoch =>
      rw [KillSwitch.Passes, hepoch]
      exact ⟨by omega, fun _ => by omega⟩
  | restored hconfirms hrestored =>
      rw [KillSwitch.Passes, hrestored.epoch, KillSwitch.agentKilled, hrestored.agentKillMap]
      exact ⟨hle, hlt⟩
  | agentRestored hconfirms hlive hrestored =>
      rw [KillSwitch.Passes, hrestored.epoch, KillSwitch.agentKilled, hrestored.agentKillMap, JsMap.has_delete,
        Bool.and_eq_true]
      exact ⟨hle, fun h => hlt h.2⟩

/-- The epochs of every window and of every approval pass with those of the switch. -/
theorem epochs_pass (h : (planeRuns prim opts).Exec es t) (hget : t.plane.vetoWindows.get? id = some w) :
    t.plane.killSwitch.Passes w.call.agentId w.killEpoch ∧
      ∀ approval, w.approval = some approval →
        t.plane.killSwitch.Passes w.call.agentId approval.approvalEpoch := by
  revert id w
  refine h.induct (I := fun es t => ∀ {id : JsString} {w : VetoWindow}, t.plane.vetoWindows.get? id = some w →
    t.plane.killSwitch.Passes w.call.agentId w.killEpoch ∧ ∀ approval, w.approval = some approval →
      t.plane.killSwitch.Passes w.call.agentId approval.approvalEpoch) ?_ ?_
  · rintro s ⟨killSwitch, devices, registryFile, signCount, hboot⟩ id w hget
    rw [hboot] at hget
    cases hget
  · intro es s l t _ ih hnext id w hget
    have hserved := served_of_next hnext
    have hmove := hserved.switchMove
    cases (hserved.windowMove hget).review with
    | same hold hsame =>
        rw [hsame.call, hsame.killEpoch, hsame.approval]
        exact ⟨(ih hold).1.step hmove, fun approval happroval => ((ih hold).2 approval happroval).step hmove⟩
    | registered purpose hex hrequest hreply hid hcall hagent hw =>
        subst hw
        refine ⟨KillSwitch.Passes.step ⟨le_rfl, fun h => ?_⟩ hmove, nofun⟩
        rw [VetoWindow.register, hagent] at h
        cases h
    | vetoed ownerId fleetDevice ownerDevice body hrequest hold hcommitted hw =>
        subst hw
        exact ⟨(ih hold).1.step hmove, fun approval happroval => ((ih hold).2 approval happroval).step hmove⟩
    | approved fleetDevice ownerDevice body hrequest hreply hold hlive hagent hvetoed hfirst hw =>
        subst hw
        refine ⟨(ih hold).1.step hmove, fun approval happroval => ?_⟩
        obtain rfl := Option.some.inj happroval
        refine KillSwitch.Passes.step ⟨le_rfl, fun h => ?_⟩ hmove
        rw [hagent] at h
        cases h

/-- A window was registered by a request, in the epoch it carries. -/
theorem registration_recorded (h : (planeRuns prim opts).Exec es t) (hget : t.plane.vetoWindows.get? id = some w) :
    ∃ r ∈ es, Registers prim opts r id ∧ r.src.plane.killSwitch.epoch = w.killEpoch := by
  revert id w
  refine h.induct (I := fun es t => ∀ {id : JsString} {w : VetoWindow}, t.plane.vetoWindows.get? id = some w →
    ∃ r ∈ es, Registers prim opts r id ∧ r.src.plane.killSwitch.epoch = w.killEpoch) ?_ ?_
  · rintro s ⟨killSwitch, devices, registryFile, signCount, hboot⟩ id w hget
    rw [hboot] at hget
    cases hget
  · intro es s l t _ ih hnext id w hget
    have hearlier : ∀ {old : VetoWindow}, s.plane.vetoWindows.get? id = some old → w.killEpoch = old.killEpoch →
        ∃ r ∈ es ++ [⟨s, l, t⟩], Registers prim opts r id ∧ r.src.plane.killSwitch.epoch = w.killEpoch := by
      intro old hold hsame
      obtain ⟨r, hr, hregisters, hepoch⟩ := ih hold
      exact ⟨r, List.mem_append_left _ hr, hregisters, hepoch.trans hsame.symm⟩
    cases ((served_of_next hnext).windowMove hget).review with
    | same hold hsame => exact hearlier hold hsame.killEpoch
    | @registered body call purpose hex hrequest hreply hid hcall hagent hw =>
        subst hw
        exact ⟨⟨s, l, t⟩, by simp, ⟨true, .ok body, hex, _, hrequest, hreply⟩, rfl⟩
    | vetoed ownerId fleetDevice ownerDevice body hrequest hold hcommitted hw =>
        exact hearlier hold (by rw [hw])
    | approved fleetDevice ownerDevice body hrequest hreply hold hlive hagent hvetoed hfirst hw =>
        exact hearlier hold (by rw [hw])

theorem scopeKills_epoch (hnext : (planeRuns prim opts).next k.src k.label k.dst) (hkills : ScopeKills k agentId) :
    k.src.plane.killSwitch.epoch < k.dst.plane.killSwitch.epoch := by
  obtain ⟨event, hkills⟩ := hkills
  have hgrown : k.dst.plane.killSwitch.kills ≠ k.src.plane.killSwitch.kills := by
    rw [hkills]
    exact fun h => absurd (List.append_right_eq_self.mp h) (by simp)
  cases (served_of_next hnext).switchMove with
  | kept hkilled hepoch hagents hsame => exact absurd hsame hgrown
  | engaged entry hepoch => omega
  | restored hconfirms hrestored hsame => exact absurd hsame hgrown
  | agentRestored hconfirms hlive hrestored hsame => exact absurd hsame hgrown

/-- What happened in the epoch in force happened after every kill. -/
theorem since_kill (h : (planeRuns prim opts).Exec (before ++ k :: since) t) (hkills : ScopeKills k agentId)
    {r : PlaneEdge} (hr : r ∈ before ++ k :: since)
    (hepoch : r.src.plane.killSwitch.epoch = t.plane.killSwitch.epoch) : r ∈ since := by
  obtain ⟨hbefore, hnext, hsince⟩ := h.split
  have hkill := scopeKills_epoch hnext hkills
  have hlater := (kills_of_epoch hsince).1
  rcases List.mem_append.mp hr with hr | hr
  · obtain ⟨a, b, rfl⟩ := List.append_of_mem hr
    obtain ⟨-, hstep, hpath⟩ := hbefore.split
    have hearlier := (kills_of_epoch ((Lts.Path.single hstep).append hpath)).1
    omega
  · rcases List.mem_cons.mp hr with rfl | hr
    · omega
    · exact hr

/-! ### What one request shows -/

namespace Plane

variable {p p' : Plane} {now : Int} {request : Request} {reply : Reply}

theorem Served.registers {signed : Bool} {body : Body} {hex : JsString} {status : VetoWindow.Status}
    (h : p.Served prim opts now (.registerVeto signed body hex) (.registered id status) p') :
    p'.killSwitch = p.killSwitch ∧ ∃ w, p'.vetoWindows.get? id = some w ∧
      p.killSwitch.agentKilled w.call.agentId = false := by
  cases h with
  | registered purpose hex hcall hagent => exact ⟨rfl, _, JsMap.get?_set_self _ _ _, hagent⟩

theorem Served.approves {ownerId fleetDevice : Option JsString} {ownerDevice : Option OwnerDeviceCredential}
    {body : Body} (h : p.Served prim opts now (.veto ownerId fleetDevice ownerDevice id body) .approved p') :
    p'.killSwitch = p.killSwitch ∧ ∃ w, p'.vetoWindows.get? id = some w ∧
      p.killSwitch.agentKilled w.call.agentId = false := by
  cases h with
  | approved fleetDevice ownerDevice hget heligible hlive hagent hredeemed happrove =>
      obtain ⟨-, -, rfl⟩ := VetoWindow.approve_ok happrove
      exact ⟨rfl, _, JsMap.get?_set_self _ _ _, hagent⟩

/-- A status read serves a release of the epoch in force only, and in the lane of the merge grants an approval of it. -/
theorem Served.reads_released {deviceRead : Bool} {hex : JsString} {pacing : Option Pacing} {grant : Option MergeGrant}
    (h : p.Served prim opts now (.getVeto id deviceRead hex) (.window (.ofWindow .released) pacing grant) p')
    (hget : p.vetoWindows.get? id = some w) :
    ((opts.grantKey && (prim.grantEligibleArgs w).isSome) = false ∧ w.killEpoch = p.killSwitch.epoch) ∨
      ((opts.grantKey && (prim.grantEligibleArgs w).isSome) = true ∧ ∃ approval, w.approval = some approval ∧
        approval.approvalEpoch = p.killSwitch.epoch) := by
  generalize hreply : Reply.window (.ofWindow .released) pacing grant = reply at h
  cases h with
  | refused => cases hreply
  | statusRead deviceRead hex hfound status pacing' hreleased =>
      obtain rfl := Option.some.inj (hget.symm.trans hfound)
      injection hreply with hstatus
      obtain ⟨hplain, hepoch, -⟩ := hreleased hstatus.symm
      refine .inl ⟨?_, hepoch⟩
      rcases hplain with hkey | hargs
      · rw [hkey, Bool.false_and]
      · rw [hargs, Option.isSome_none, Bool.and_false]
  | granted deviceRead hex hfound hkey heligible hstatus happroval hungranted hlive hepoch grant hjti =>
      obtain rfl := Option.some.inj (hget.symm.trans hfound)
      refine .inr ⟨?_, _, happroval, hepoch⟩
      rw [hkey, heligible]
      rfl

theorem Served.details {ownerDevice : Option OwnerDeviceCredential} {hex : JsString} {display : RenderableAlert}
    {status : VetoWindow.Status} {revision : Nat} {deadline : Int} {delivery : Option MintedDelivery}
    (h : p.Served prim opts now (.vetoDetail ownerDevice id hex)
      (.detail id display status revision deadline delivery) p')
    (hget : p.vetoWindows.get? id = some w) : (w.tick (p.witnessStanding prim) now).status = status := by
  generalize hreply : Reply.detail id display status revision deadline delivery = reply at h
  cases h with
  | refused => cases hreply
  | detailed ownerDevice hex hfound =>
      obtain rfl := Option.some.inj (hget.symm.trans hfound)
      injection hreply with _ _ hstatus
      exact hstatus.symm
  | fetched hex hdevice hfound =>
      obtain rfl := Option.some.inj (hget.symm.trans hfound)
      injection hreply with _ _ hstatus
      exact hstatus.symm

theorem Served.seen {ownerDevice : Option OwnerDeviceCredential} {body : Body} {status : VetoWindow.Status}
    {deadline : Int} {revision : Option Nat}
    (h : p.Served prim opts now (.vetoSeen ownerDevice id body) (.seen status deadline revision) p')
    (hget : p.vetoWindows.get? id = some w) : (w.tick (p.witnessStanding prim) now).status = status := by
  generalize hreply : Reply.seen status deadline revision = reply at h
  cases h with
  | reacked ownerDevice body hfound =>
      obtain rfl := Option.some.inj (hget.symm.trans hfound)
      injection hreply with hstatus
      exact hstatus.symm
  | acked hdevice hfound =>
      obtain rfl := Option.some.inj (hget.symm.trans hfound)
      injection hreply with hstatus
      exact hstatus.symm
  | _ => cases hreply

end Plane

/-! ### While the agent is killed -/

/-- While an agent is killed, each of its windows was last renewed before a scoped kill of it. -/
theorem killed_unrenewed (h : (planeRuns prim opts).Exec es t) (hget : t.plane.vetoWindows.get? id = some w)
    (hkilled : t.plane.killSwitch.agentKilled w.call.agentId = true) :
    ∃ before k since, es = before ++ k :: since ∧ ScopeKills k w.call.agentId ∧
      ∀ d ∈ since, ¬ Registers prim opts d id ∧ ¬ Approves prim opts d id := by
  revert id w
  refine h.induct (I := fun es t => ∀ {id : JsString} {w : VetoWindow}, t.plane.vetoWindows.get? id = some w →
    t.plane.killSwitch.agentKilled w.call.agentId = true →
    ∃ before k since, es = before ++ k :: since ∧ ScopeKills k w.call.agentId ∧
      ∀ d ∈ since, ¬ Registers prim opts d id ∧ ¬ Approves prim opts d id) ?_ ?_
  · rintro s ⟨killSwitch, devices, registryFile, signCount, hboot⟩ id w hget
    rw [hboot] at hget
    cases hget
  · intro es s l t _ ih hnext id w hget hkilled
    have hserved := served_of_next hnext
    -- neither a registration nor an approval of this window is the last request
    have hrenews : ¬ Registers prim opts ⟨s, l, t⟩ id ∧ ¬ Approves prim opts ⟨s, l, t⟩ id := by
      constructor
      · rintro ⟨signed, body, hex, status, hrequest, hreply⟩
        rw [hreply, show l.request = _ from hrequest] at hserved
        obtain ⟨hswitch, w', hget', hagent⟩ := hserved.registers
        obtain rfl := Option.some.inj (hget.symm.trans hget')
        rw [hswitch, hagent] at hkilled
        cases hkilled
      · rintro ⟨ownerId, fleetDevice, ownerDevice, body, hrequest, hreply⟩
        rw [hreply, show l.request = _ from hrequest] at hserved
        obtain ⟨hswitch, w', hget', hagent⟩ := hserved.approves
        obtain rfl := Option.some.inj (hget.symm.trans hget')
        rw [hswitch, hagent] at hkilled
        cases hkilled
    cases hbefore : s.plane.killSwitch.agentKilled w.call.agentId with
    | false =>
        -- the last request is the scoped kill
        refine ⟨es, ⟨s, l, t⟩, [], rfl, ?_, fun d hd => absurd hd List.not_mem_nil⟩
        cases hserved.switchMove with
        | kept hsame hepoch hagents =>
            rw [KillSwitch.agentKilled, hagents] at hkilled
            exact absurd (hkilled.symm.trans hbefore) (by decide)
        | engaged entry hepoch hstill hagents hscoped hkills =>
            rcases hscoped _ hkilled with hwas | ⟨event, rfl⟩
            · exact absurd (hwas.symm.trans hbefore) (by decide)
            · exact ⟨event, hkills⟩
        | restored hconfirms hrestored =>
            rw [KillSwitch.agentKilled, hrestored.agentKillMap] at hkilled
            exact absurd (hkilled.symm.trans hbefore) (by decide)
        | agentRestored hconfirms hlive hrestored =>
            rw [KillSwitch.agentKilled, hrestored.agentKillMap, JsMap.has_delete, Bool.and_eq_true] at hkilled
            exact absurd (hkilled.2.symm.trans hbefore) (by decide)
    | true =>
        have hearlier : ∀ {old : VetoWindow}, s.plane.vetoWindows.get? id = some old → w.call = old.call →
            ∃ before k since, es ++ [⟨s, l, t⟩] = before ++ k :: since ∧ ScopeKills k w.call.agentId ∧
              ∀ d ∈ since, ¬ Registers prim opts d id ∧ ¬ Approves prim opts d id := by
          intro old hold hcall
          rw [hcall] at hbefore ⊢
          obtain ⟨before, k, since, rfl, hkills, hsince⟩ := ih hold hbefore
          refine ⟨before, k, since ++ [⟨s, l, t⟩], by simp, hkills, fun d hd => ?_⟩
          rcases List.mem_append.mp hd with hd | hd
          · exact hsince d hd
          · obtain rfl := List.mem_singleton.mp hd
            exact hrenews
        cases (hserved.windowMove hget).review with
        | same hold hsame => exact hearlier hold hsame.call
        | registered purpose hex hrequest hreply hid =>
            exact absurd ⟨_, _, hex, _, hrequest, hreply⟩ hrenews.1
        | vetoed ownerId fleetDevice ownerDevice body hrequest hold hcommitted hw =>
            exact hearlier hold (by rw [hw])
        | approved fleetDevice ownerDevice body hrequest hreply hold hlive hagent hvetoed hfirst hw =>
            exact hearlier hold (by rw [hw])

/-! ### The law -/

/-- What a run may not do with the windows of an agent that is or was scope-killed. -/
structure ScopedKillVoids (prim : Primitives) (opts : ServerOptions) (es : List PlaneEdge) (t : PlaneState) : Prop where
  /-- Every window and approval of a killed agent is of an earlier epoch. -/
  epochs : ∀ id w, t.plane.vetoWindows.get? id = some w → t.plane.killSwitch.agentKilled w.call.agentId = true →
    w.killEpoch < t.plane.killSwitch.epoch ∧
      ∀ approval, w.approval = some approval → approval.approvalEpoch < t.plane.killSwitch.epoch
  /-- Nothing of a killed agent is read as released, granted or committed. -/
  unread : ∀ pre e post, es = pre ++ e :: post → ∀ id w, e.src.plane.vetoWindows.get? id = some w →
    e.src.plane.killSwitch.agentKilled w.call.agentId = true →
    ¬ ServesReleased prim opts e id ∧ ∀ jti, ¬ Mints prim opts e id jti ∧
      (e.src.plane.mintedGrants.get? jti = some id → ¬ CommitsGrant prim opts e jti)
  /-- Whatever is served released was renewed since every scoped kill of the agent, and what is granted or committed
      was approved since. -/
  renewed : ∀ before k since e post, es = before ++ k :: since ++ e :: post → ∀ id w,
    e.src.plane.vetoWindows.get? id = some w → ScopeKills k w.call.agentId →
    (ServesReleased prim opts e id → Renewed prim opts id since w) ∧
      ∀ jti, (Mints prim opts e id jti ∨ (e.src.plane.mintedGrants.get? jti = some id ∧ CommitsGrant prim opts e jti)) →
        ∃ a ∈ since, Approves prim opts a id

/-- An approval of the epoch in force was recorded since every kill. -/
theorem approved_since (h : (planeRuns prim opts).Exec (before ++ k :: since) t) (hkills : ScopeKills k agentId)
    (hget : t.plane.vetoWindows.get? id = some w) {approval : OwnerApproval} (happroval : w.approval = some approval)
    (hepoch : approval.approvalEpoch = t.plane.killSwitch.epoch) : ∃ a ∈ since, Approves prim opts a id := by
  obtain ⟨a, ha, happroves, hrecorded⟩ := approval_recorded h hget happroval
  exact ⟨a, since_kill h hkills ha (hrecorded.trans hepoch), happroves⟩

/-- A mint or a commit takes an approval of the epoch in force, and an agent that is not killed. -/
theorem granted_approved (hnext : (planeRuns prim opts).next e.src e.label e.dst)
    (hget : e.src.plane.vetoWindows.get? id = some w) {jti : JsString}
    (h : Mints prim opts e id jti ∨ (e.src.plane.mintedGrants.get? jti = some id ∧ CommitsGrant prim opts e jti)) :
    ∃ approval, w.approval = some approval ∧ approval.approvalEpoch = e.src.plane.killSwitch.epoch := by
  have hserved := served_of_next hnext
  rcases h with ⟨deviceRead, hex, status, pacing, grant, hrequest, hreply, -⟩ |
    ⟨hminted, killed, epoch, nonce, expiresAt, hreply⟩
  · rw [hreply, hrequest] at hserved
    obtain ⟨-, -, -, -, w', approval, hget', happroval, hepoch⟩ := hserved.mints
    obtain rfl := Option.some.inj (hget.symm.trans hget')
    exact ⟨approval, happroval, hepoch⟩
  · rw [hreply] at hserved
    obtain ⟨id', w', approval, hminted', hget', -, -, -, happroval, hepoch⟩ :=
      Plane.committable_iff.mp hserved.commits.1
    obtain rfl := Option.some.inj (hminted.symm.trans hminted')
    obtain rfl := Option.some.inj (hget.symm.trans hget')
    exact ⟨approval, happroval, hepoch⟩

/-- A status read that serves a release takes a window that was renewed since every kill. -/
theorem read_renewed (h : (planeRuns prim opts).Exec (before ++ k :: since) e.src)
    (hnext : (planeRuns prim opts).next e.src e.label e.dst) (hkills : ScopeKills k agentId)
    (hget : e.src.plane.vetoWindows.get? id = some w) {deviceRead : Bool} {hex : JsString} {pacing : Option Pacing}
    {grant : Option MergeGrant} (hrequest : e.label.request = .getVeto id deviceRead hex)
    (hreply : e.reply prim opts = .window (.ofWindow .released) pacing grant) : Renewed prim opts id since w := by
  have hserved := served_of_next hnext
  rw [hreply, hrequest] at hserved
  unfold Renewed
  rcases hserved.reads_released hget with ⟨hlane, hepoch⟩ | ⟨hlane, approval, happroval, hepoch⟩
  · rw [hlane, if_neg Bool.false_ne_true]
    obtain ⟨r, hr, hregisters, hrecorded⟩ := registration_recorded h hget
    exact ⟨r, since_kill h hkills hr (hrecorded.trans hepoch), hregisters⟩
  · rw [hlane, if_pos rfl]
    exact approved_since h hkills hget happroval hepoch

/-- So does any read, unless it re-reads a release that has not counted since. -/
theorem served_renewed (h : (planeRuns prim opts).Exec (before ++ k :: since) e.src)
    (hnext : (planeRuns prim opts).next e.src e.label e.dst) (hkills : ScopeKills k w.call.agentId)
    (hget : e.src.plane.vetoWindows.get? id = some w) (hserves : ServesReleased prim opts e id)
    (hfresh : ¬ StaleRead prim opts (before ++ k :: since) e) : Renewed prim opts id since w := by
  have hserved := served_of_next hnext
  rcases hserves with ⟨deviceRead, hex, pacing, grant, hrequest, hreply⟩ |
    ⟨ownerDevice, hex, display, revision, deadline, delivery, hrequest, hreply⟩ |
    ⟨ownerDevice, body, deadline, revision, hrequest, hreply⟩
  · exact read_renewed h hnext hkills hget hrequest hreply
  · by_contra hstale
    rw [hreply, hrequest] at hserved
    exact hfresh ⟨id, w, .inl ⟨ownerDevice, hex, hrequest⟩, hget, hserved.details hget, before, k, since, rfl, hkills,
      hstale⟩
  · by_contra hstale
    rw [hreply, hrequest] at hserved
    exact hfresh ⟨id, w, .inr ⟨ownerDevice, body, hrequest⟩, hget, hserved.seen hget, before, k, since, rfl, hkills,
      hstale⟩

/-- A scoped kill voids everything of its agent, in every run in which no detail fetch and no repeated ack finds a
    release that has not counted since the kill. -/
theorem scoped_kill_voids (h : (planeRuns prim opts).Exec es t)
    (hfresh : ∀ pre e post, es = pre ++ e :: post → ¬ StaleRead prim opts pre e) : ScopedKillVoids prim opts es t := by
  constructor
  · intro id w hget hkilled
    obtain ⟨hwindow, happrovals⟩ := epochs_pass h hget
    exact ⟨hwindow.2 hkilled, fun approval happroval => (happrovals approval happroval).2 hkilled⟩
  · rintro pre e post rfl id w hget hkilled
    obtain ⟨hpre, hnext, -⟩ := h.split
    have hungranted : ∀ jti, ¬ (Mints prim opts e id jti ∨
        (e.src.plane.mintedGrants.get? jti = some id ∧ CommitsGrant prim opts e jti)) := by
      intro jti hgranted
      obtain ⟨approval, happroval, hepoch⟩ := granted_approved hnext hget hgranted
      have hpassed := ((epochs_pass hpre hget).2 approval happroval).2 hkilled
      omega
    refine ⟨fun hserves => ?_, fun jti => ⟨fun hmint => hungranted jti (.inl hmint),
      fun hminted hcommit => hungranted jti (.inr ⟨hminted, hcommit⟩)⟩⟩
    obtain ⟨before, k, since, rfl, hkills, hsince⟩ := killed_unrenewed hpre hget hkilled
    have hrenewed := served_renewed hpre hnext hkills hget hserves (hfresh _ e post rfl)
    unfold Renewed at hrenewed
    split at hrenewed
    · obtain ⟨a, ha, happroves⟩ := hrenewed
      exact (hsince a ha).2 happroves
    · obtain ⟨r, hr, hregisters⟩ := hrenewed
      exact (hsince r hr).1 hregisters
  · rintro before k since e post rfl id w hget hkills
    obtain ⟨hpre, hnext, -⟩ := h.split
    refine ⟨fun hserves => served_renewed hpre hnext hkills hget hserves (hfresh _ e post rfl), fun jti hgranted => ?_⟩
    obtain ⟨approval, happroval, hepoch⟩ := granted_approved hnext hget hgranted
    exact approved_since hpre hkills hget happroval hepoch

/-! ### Samples -/

namespace ScopedKillSample

/-- A scoped kill of the agent of a released window. -/
def kill : PlaneStep :=
  ⟨.kill ⟨true, false⟩ (.ok (.obj [(js "agentId", .str (js "agent-1"))])) .noStore, 250000⟩

/-- The phone fetches the detail of the window once more. -/
def reread : PlaneStep :=
  ⟨.vetoDetail (some PlaneSample.phone) (js "veto_1") (js "2"), 260000⟩

/-- A window, a scoped kill of its agent, and a status read. -/
def read : PlaneStep :=
  ⟨.getVeto (js "veto_1") false (List.replicate 16 0x30), 260000⟩

def registered : List PlaneStep :=
  [⟨.registerVeto true (.ok ReleaseSample.registration) (js "1"), 1000⟩, kill]

/-- What the status read is made of. -/
def killed : PlaneState :=
  registered.foldl (PlaneState.after PlaneSample.prim PlaneSample.sessionOnly) (PlaneSample.boot PlaneSample.onePhone)

def rereads : Request → Bool
  | .vetoDetail _ _ _ => true
  | .vetoSeen _ _ _ => true
  | _ => false

theorem not_stale (h : ∀ e ∈ es, rereads e.label.request = false) :
    ∀ pre e post, es = pre ++ e :: post → ¬ StaleRead prim opts pre e := by
  rintro pre e post rfl ⟨id, w, ⟨ownerDevice, hex, hrequest⟩ | ⟨ownerDevice, body, hrequest⟩, -⟩
  · have hread := h e (by simp)
    rw [hrequest] at hread
    cases hread
  · have hread := h e (by simp)
    rw [hrequest] at hread
    cases hread

theorem not_stale_of_labels {ls : List PlaneStep} (hlabels : es.map Lts.Edge.label = ls)
    (h : ls.all (fun l => !rereads l.request) = true) :
    ∀ pre e post, es = pre ++ e :: post → ¬ StaleRead prim opts pre e := by
  refine not_stale fun e he => ?_
  rw [← hlabels, List.all_eq_true] at h
  simpa using h e.label (List.mem_map_of_mem he)

end ScopedKillSample

/-- A registered window whose agent is killed before it is read. -/
theorem scoped_kill_voids_sample :
    ScopedKillVoids PlaneSample.prim PlaneSample.sessionOnly
      (Lts.trace (PlaneState.after PlaneSample.prim PlaneSample.sessionOnly) (PlaneSample.boot PlaneSample.onePhone)
          ScopedKillSample.registered ++
        [⟨ScopedKillSample.killed, ScopedKillSample.read,
          ScopedKillSample.killed.after PlaneSample.prim PlaneSample.sessionOnly ScopedKillSample.read⟩])
      (ScopedKillSample.killed.after PlaneSample.prim PlaneSample.sessionOnly ScopedKillSample.read) :=
  scoped_kill_voids (PlaneSample.exec PlaneSample.prim PlaneSample.sessionOnly PlaneSample.onePhone
    ScopedKillSample.registered ScopedKillSample.read (by decide))
    (ScopedKillSample.not_stale_of_labels (by rw [List.map_append, Lts.trace_labels, List.map_singleton]) (by decide))

/-- A detail fetch serves the released window of an agent that is scope-killed as released. -/
theorem killed_window_served_released :
    ¬ ∀ (prim : Primitives) (opts : ServerOptions) (es : List PlaneEdge) (t : PlaneState),
      (planeRuns prim opts).Exec es t → ScopedKillVoids prim opts es t := by
  intro h
  have hexec := PlaneSample.exec PlaneSample.prim PlaneSample.sessionOnly PlaneSample.onePhone
    (ReleaseSample.shown ++ [ReleaseSample.ack] ++ [ReleaseSample.read, ScopedKillSample.kill])
    ScopedKillSample.reread (by decide)
  have hkilled : (ReleaseSample.shown ++ [ReleaseSample.ack] ++ [ReleaseSample.read, ScopedKillSample.kill]).foldl
      (PlaneState.after PlaneSample.prim PlaneSample.sessionOnly) (PlaneSample.boot PlaneSample.onePhone)
      = [ReleaseSample.read, ScopedKillSample.kill].foldl (PlaneState.after PlaneSample.prim PlaneSample.sessionOnly)
          ReleaseSample.acked := by
    rw [List.foldl_append, ReleaseSample.acked_run]
  rw [hkilled] at hexec
  have hunread := (h _ _ _ _ hexec).unread _ _ [] rfl (js "veto_1") ReleaseSample.released
    (by with_unfolding_all rfl) (by with_unfolding_all rfl)
  exact hunread.1 (.inr (.inl ⟨_, _, _, _, _, _, rfl, by with_unfolding_all rfl⟩))

end OwnerSwitch
