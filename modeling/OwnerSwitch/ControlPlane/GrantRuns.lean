/-
Module: OwnerSwitch.ControlPlane.GrantRuns
Layer: ControlPlane
Purpose: What becomes of a window over a run: its grant is minted once, and a commit of that grant and an accepted
  veto of the window exclude each other.
Imports: ControlPlane.PlaneRuns
Trusted boundary: those of ControlPlane.Plane; the ids drawn at random are fresh
Main exports: Mints, CommitsGrant, AcceptsVeto, Approves, commit_excludes_veto
Open obligations: none
-/
import OwnerSwitch.ControlPlane.PlaneRuns

namespace OwnerSwitch

section

variable (prim : Primitives) (opts : ServerOptions) (e : PlaneEdge)

/-- The status read `e` minted the grant `jti` of the window `id`. -/
def Mints (id jti : JsString) : Prop :=
  ∃ deviceRead hex status pacing grant, e.label.request = .getVeto id deviceRead hex ∧
    e.reply prim opts = .window status pacing (some grant) ∧ grant.jti = jti

/-- The commit request `e` for the grant `jti` was answered `committed: true`. -/
def CommitsGrant (jti : JsString) : Prop :=
  ∃ killed epoch nonce expiresAt, e.reply prim opts = .commit killed epoch nonce expiresAt jti true

/-- The veto request `e` for the window `id` was answered as accepted. -/
def AcceptsVeto (id : JsString) : Prop :=
  ∃ ownerId fleetDevice ownerDevice body status, e.label.request = .veto ownerId fleetDevice ownerDevice id body ∧
    e.reply prim opts = .vetoed status

/-- The request `e` recorded the owner's approval of the window `id`. -/
def Approves (id : JsString) : Prop :=
  ∃ ownerId fleetDevice ownerDevice body, e.label.request = .veto (some ownerId) fleetDevice ownerDevice id body ∧
    e.reply prim opts = .approved

end

/-! ### Grants over one request -/

namespace Plane

/-- The id of a grant of a window. -/
def grantId (id hex : JsString) : JsString :=
  js "grant_" ++ id ++ js "_" ++ hex

theorem grantId_window {id id' hex hex' : JsString} (hlength : hex.length = hex'.length)
    (h : grantId id hex = grantId id' hex') : id = id' := by
  obtain ⟨hpre, -⟩ := List.append_inj' h hlength
  obtain ⟨hids, -⟩ := List.append_inj' hpre rfl
  exact List.append_cancel_left hids

/-- What a request can do to the grants. -/
inductive GrantMove (p : Plane) (request : Request) (reply : Reply) (p' : Plane) : Prop where
  | same (hminted : p'.mintedGrants = p.mintedGrants) (hlinked : p'.windowToGrant = p.windowToGrant)
      (hgranted : p'.grantedWindows = p.grantedWindows) (hcommitted : p'.committedGrants = p.committedGrants)
  | minted {id hex w approval grant} (deviceRead : Bool) (hrequest : request = .getVeto id deviceRead hex)
      (hreply : reply = .window (.ofWindow .released) none (some grant)) (hjti : grant.jti = grantId id hex)
      (hget : p.vetoWindows.get? id = some w) (happroval : w.approval = some approval)
      (hungranted : id ∉ p.grantedWindows) (hlive : p.killSwitch.killed = false)
      (hepoch : approval.approvalEpoch = p.killSwitch.epoch)
      (hminted : p'.mintedGrants = p.mintedGrants.set (grantId id hex) id)
      (hlinked : p'.windowToGrant = p.windowToGrant.set id (grantId id hex))
      (hgranted : p'.grantedWindows = p.grantedWindows.insert id) (hcommitted : p'.committedGrants = p.committedGrants)
  | committed {jti} (body : Body) (hrequest : request = .grantCommit body true)
      (hcommittable : p.committable jti = true) (hminted : p'.mintedGrants = p.mintedGrants)
      (hlinked : p'.windowToGrant = p.windowToGrant) (hgranted : p'.grantedWindows = p.grantedWindows)
      (hcommitted : p'.committedGrants = p.committedGrants.insert jti)

variable {prim : Primitives} {opts : ServerOptions} {p p' : Plane} {now : Int} {request : Request} {reply : Reply}
  {id jti : JsString}

theorem GrantMove.of_adopt {ρ : Type} (r : Handled ρ) (o : StoreOutcome) :
    GrantMove p request reply (p.adopt prim r now o) := by
  obtain ⟨deliveries, windows, swept, rfl, hadopt | ⟨reason, hadopt⟩, -, -⟩ := adopt_eq prim p now r o
  · rw [hadopt]
    exact .same rfl rfl rfl rfl
  · rw [hadopt]
    exact .same rfl rfl rfl rfl

theorem Served.grantMove (h : p.Served prim opts now request reply p') : GrantMove p request reply p' := by
  cases h with
  | granted deviceRead hex hget hkey heligible hstatus happroval hungranted hlive hepoch grant hjti =>
      exact .minted deviceRead rfl rfl hjti hget happroval hungranted hlive hepoch (by rw [hjti]; rfl)
        (by rw [hjti]; rfl) rfl rfl
  | committed body nonce hcommittable => exact .committed body rfl hcommittable rfl rfl rfl rfl
  | revoked => exact .of_adopt _ _
  | enrolled => exact .of_adopt _ _
  | _ => exact .same rfl rfl rfl rfl

/-- What a grant that may be committed is checked for. -/
theorem committable_iff : p.committable jti = true ↔ ∃ id w approval, p.mintedGrants.get? jti = some id ∧
    p.vetoWindows.get? id = some w ∧ w.status ≠ .vetoed ∧ p.killSwitch.killed = false ∧
    p.killSwitch.agentKilled w.call.agentId = false ∧ w.approval = some approval ∧
    approval.approvalEpoch = p.killSwitch.epoch := by
  unfold committable
  simp only [Option.any_eq_true, Option.bind_eq_some_iff, Bool.and_eq_true, Bool.not_eq_true', decide_eq_true_eq]
  constructor
  · rintro ⟨w, ⟨id, hminted, hget⟩, ⟨⟨hvetoed, hlive⟩, hagent⟩, approval, happroval, hepoch⟩
    exact ⟨id, w, approval, hminted, hget, hvetoed, hlive, hagent, happroval, hepoch⟩
  · rintro ⟨id, w, approval, hminted, hget, hvetoed, hlive, hagent, happroval, hepoch⟩
    exact ⟨w, ⟨id, hminted, hget⟩, ⟨⟨hvetoed, hlive⟩, hagent⟩, approval, happroval, hepoch⟩

/-- A request that is answered with a grant minted it. -/
theorem Served.mints {deviceRead : Bool} {hex : JsString} {status : VetoWireStatus} {pacing : Option Pacing}
    {grant : MergeGrant}
    (h : p.Served prim opts now (.getVeto id deviceRead hex) (.window status pacing (some grant)) p') :
    grant.jti = grantId id hex ∧ p'.mintedGrants = p.mintedGrants.set grant.jti id ∧
      p'.windowToGrant = p.windowToGrant.set id grant.jti ∧ id ∉ p.grantedWindows ∧
      ∃ w approval, p.vetoWindows.get? id = some w ∧ w.approval = some approval ∧
        approval.approvalEpoch = p.killSwitch.epoch := by
  cases h with
  | granted deviceRead hex hget hkey heligible hstatus happroval hungranted hlive hepoch grant hjti =>
      exact ⟨hjti, rfl, rfl, hungranted, _, _, hget, happroval, hepoch⟩

theorem getSignedKillState_cases (opts : ServerOptions) (p : Plane) (nonce jti : Option JsString) (now : Int) :
    (∃ status error, p.getSignedKillState opts nonce jti now = .error status error) ∨
      ∃ killed epoch nonce' expiresAt grantLive,
        p.getSignedKillState opts nonce jti now = .killState killed epoch nonce' expiresAt grantLive := by
  unfold getSignedKillState
  split
  · exact .inl ⟨_, _, rfl⟩
  · split
    · exact .inl ⟨_, _, rfl⟩
    · split
      · exact .inl ⟨_, _, rfl⟩
      · exact .inr ⟨_, _, _, _, _, rfl⟩

/-- A commit that is answered true was committable. -/
theorem Served.commits {killed : Bool} {epoch : Nat} {nonce : JsString} {expiresAt : Int}
    (h : p.Served prim opts now request (.commit killed epoch nonce expiresAt jti true) p') :
    p.committable jti = true ∧ jti ∈ p'.committedGrants := by
  generalize hreply : Reply.commit killed epoch nonce expiresAt jti true = reply at h
  cases h with
  | committed body nonce hcommittable =>
      injection hreply with _ _ _ _ hjti
      subst hjti
      exact ⟨hcommittable, List.mem_insert_self⟩
  | probed nonce jti =>
      rcases getSignedKillState_cases opts p nonce jti now with ⟨_, _, hprobe⟩ | ⟨_, _, _, _, _, hprobe⟩
      · rw [hprobe] at hreply
        cases hreply
      · rw [hprobe] at hreply
        cases hreply
  | _ => cases hreply

/-- An accepted veto leaves the window vetoed. -/
theorem Served.acceptsVeto {ownerId fleetDevice : Option JsString} {ownerDevice : Option OwnerDeviceCredential}
    {body : Body} {status : VetoWindow.Status}
    (h : p.Served prim opts now (.veto ownerId fleetDevice ownerDevice id body) (.vetoed status) p') :
    ∃ w, p'.vetoWindows.get? id = some w ∧ w.status = .vetoed := by
  generalize hreply : Reply.vetoed status = reply at h
  cases h with
  | alreadyVetoed ownerId fleetDevice ownerDevice body hget hvetoed => exact ⟨_, hget, hvetoed⟩
  | stopped ownerId fleetDevice ownerDevice body hget hcommitted hveto =>
      obtain rfl := VetoWindow.veto_ok hveto
      exact ⟨_, JsMap.get?_set_self _ _ _, rfl⟩
  | _ => cases hreply

end Plane

/-! ### Grants over a run -/

variable {prim : Primitives} {opts : ServerOptions} {es : List PlaneEdge} {s t : PlaneState} {l : PlaneStep}

/-- Every window was registered under a draw of the run. -/
theorem window_registered (h : (planeRuns prim opts).Exec es t) {id : JsString} {w : VetoWindow}
    (hget : t.plane.vetoWindows.get? id = some w) :
    ∃ e ∈ es, ∃ hex, e.label.request.draw = some (.window hex) ∧ id = js "veto_" ++ hex := by
  revert id w
  refine h.induct (I := fun es t => ∀ {id : JsString} {w : VetoWindow}, t.plane.vetoWindows.get? id = some w →
    ∃ e ∈ es, ∃ hex, e.label.request.draw = some (.window hex) ∧ id = js "veto_" ++ hex) ?_ ?_
  · rintro s ⟨killSwitch, devices, registryFile, signCount, hboot⟩ id w hget
    rw [hboot] at hget
    cases hget
  · intro es s l t _ ih hnext id w hget
    have hearlier : ∀ {w : VetoWindow}, s.plane.vetoWindows.get? id = some w →
        ∃ e ∈ es ++ [⟨s, l, t⟩], ∃ hex, e.label.request.draw = some (.window hex) ∧ id = js "veto_" ++ hex := by
      intro w hold
      obtain ⟨e, he, hdraw⟩ := ih hold
      exact ⟨e, List.mem_append_left _ he, hdraw⟩
    cases ((served_of_next hnext).windowMove hget).review with
    | same hold => exact hearlier hold
    | registered purpose hex hrequest hreply hid =>
        refine ⟨⟨s, l, t⟩, by simp, hex, ?_, hid⟩
        show l.request.draw = _
        rw [hrequest]
        rfl
    | vetoed ownerId fleetDevice ownerDevice body hrequest hold => exact hearlier hold
    | approved fleetDevice ownerDevice body hrequest hreply hold => exact hearlier hold

/-- A registration draws an id that no window has. -/
theorem registration_fresh (h : (planeRuns prim opts).Exec es s) (hfresh : FreshDraws (es ++ [⟨s, l, t⟩]))
    {signed : Bool} {body : Body} {hex : JsString} (hrequest : l.request = .registerVeto signed body hex) :
    s.plane.vetoWindows.get? (js "veto_" ++ hex) = none := by
  cases hget : s.plane.vetoWindows.get? (js "veto_" ++ hex) with
  | none => rfl
  | some w =>
      obtain ⟨e, he, hex', hdraw, hid⟩ := window_registered h hget
      obtain rfl := List.append_cancel_left hid
      refine absurd hdraw (@FreshDraws.last _ _ (.window hex) hfresh ?_ e he)
      show l.request.draw = _
      rw [hrequest]
      rfl

/-- An approval that is on record was recorded by a request, in the epoch it carries. -/
theorem approval_recorded (h : (planeRuns prim opts).Exec es t) {id : JsString} {w : VetoWindow}
    {approval : OwnerApproval} (hget : t.plane.vetoWindows.get? id = some w) (happroval : w.approval = some approval) :
    ∃ e ∈ es, Approves prim opts e id ∧ e.src.plane.killSwitch.epoch = approval.approvalEpoch := by
  revert id w
  refine h.induct (I := fun es t => ∀ {id : JsString} {w : VetoWindow}, t.plane.vetoWindows.get? id = some w →
    w.approval = some approval →
    ∃ e ∈ es, Approves prim opts e id ∧ e.src.plane.killSwitch.epoch = approval.approvalEpoch) ?_ ?_
  · rintro s ⟨killSwitch, devices, registryFile, signCount, hboot⟩ id w hget
    rw [hboot] at hget
    cases hget
  · intro es s l t _ ih hnext id w hget happroval
    have hearlier : ∀ {w : VetoWindow}, s.plane.vetoWindows.get? id = some w → w.approval = some approval →
        ∃ e ∈ es ++ [⟨s, l, t⟩], Approves prim opts e id ∧
          e.src.plane.killSwitch.epoch = approval.approvalEpoch := by
      intro w hold happroval
      obtain ⟨e, he, hrecorded⟩ := ih hold happroval
      exact ⟨e, List.mem_append_left _ he, hrecorded⟩
    cases ((served_of_next hnext).windowMove hget).review with
    | same hold hsame => exact hearlier hold (hsame.approval.symm.trans happroval)
    | registered purpose hex hrequest hreply hid hcall hagent hw =>
        subst hw
        cases happroval
    | vetoed ownerId fleetDevice ownerDevice body hrequest hold hcommitted hw =>
        subst hw
        exact hearlier hold happroval
    | @approved w ownerId fleetDevice ownerDevice body hrequest hreply hold hlive hagent hvetoed hfirst hw =>
        subst hw
        obtain rfl := Option.some.inj happroval
        exact ⟨⟨s, l, t⟩, by simp, ⟨ownerId, fleetDevice, ownerDevice, .ok body, hrequest, hreply⟩, rfl⟩

/-- A vetoed window stays vetoed. -/
theorem vetoed_step (h : (planeRuns prim opts).Exec es s) (hfresh : FreshDraws (es ++ [⟨s, l, t⟩]))
    (hnext : (planeRuns prim opts).next s l t) {id : JsString}
    (hvetoed : ∃ w, s.plane.vetoWindows.get? id = some w ∧ w.status = .vetoed) :
    ∃ w, t.plane.vetoWindows.get? id = some w ∧ w.status = .vetoed := by
  obtain ⟨w, hget, hstatus⟩ := hvetoed
  have hserved := served_of_next hnext
  obtain ⟨w', hget'⟩ := hserved.window_kept hget
  refine ⟨w', hget', ?_⟩
  cases (hserved.windowMove hget').review with
  | same hold hsame =>
      obtain rfl := Option.some.inj (hget.symm.trans hold)
      exact hsame.vetoed.mpr hstatus
  | registered purpose hex hrequest hreply hid =>
      subst hid
      rw [registration_fresh h hfresh hrequest] at hget
      cases hget
  | vetoed ownerId fleetDevice ownerDevice body hrequest hold hcommitted hw => rw [hw]
  | approved fleetDevice ownerDevice body hrequest hreply hold hlive hagent hopen =>
      obtain rfl := Option.some.inj (hget.symm.trans hold)
      exact absurd hstatus hopen

theorem vetoed_of_accepted (h : (planeRuns prim opts).Exec es t) (hfresh : FreshDraws es) {e : PlaneEdge} (he : e ∈ es)
    {id : JsString} (hveto : AcceptsVeto prim opts e id) :
    ∃ w, t.plane.vetoWindows.get? id = some w ∧ w.status = .vetoed := by
  revert e
  refine h.induct (I := fun es t => FreshDraws es → ∀ {e : PlaneEdge}, e ∈ es → AcceptsVeto prim opts e id →
    ∃ w, t.plane.vetoWindows.get? id = some w ∧ w.status = .vetoed)
      (fun _ _ _ _ h => absurd h List.not_mem_nil) ?_ hfresh
  intro es s l t hexec ih hnext hfresh e he hveto
  rcases List.mem_append.mp he with he | he
  · exact vetoed_step hexec hfresh hnext (ih hfresh.prefix he hveto)
  · obtain rfl := List.mem_singleton.mp he
    obtain ⟨ownerId, fleetDevice, ownerDevice, body, status, hrequest, hreply⟩ := hveto
    have hserved := served_of_next hnext
    rw [hreply] at hserved
    dsimp only at hrequest
    rw [hrequest] at hserved
    exact hserved.acceptsVeto

theorem committed_recorded (h : (planeRuns prim opts).Exec es t) {f : PlaneEdge} (hf : f ∈ es) {jti : JsString}
    (hcommit : CommitsGrant prim opts f jti) : jti ∈ t.plane.committedGrants := by
  refine h.since (P := fun u => jti ∈ u.plane.committedGrants) (fun u l v hu hnext => ?_) hf ?_
  · cases (served_of_next hnext).grantMove with
    | same hminted hlinked hgranted hcommitted => exact hcommitted ▸ hu
    | minted deviceRead hrequest hreply hjti hget happroval hungranted hlive hepoch hminted hlinked
        hgranted hcommitted =>
        exact hcommitted ▸ hu
    | committed body hrequest hcommittable hminted hlinked hgranted hcommitted =>
        rw [hcommitted]
        exact List.mem_insert_of_mem hu
  · obtain ⟨killed, epoch, nonce, expiresAt, hreply⟩ := hcommit
    have hserved := served_of_next (h.next_of_mem hf)
    rw [hreply] at hserved
    exact hserved.commits.2

/-- The tables of the grants, against the requests that minted them. -/
structure GrantTables (prim : Primitives) (opts : ServerOptions) (es : List PlaneEdge) (p : Plane) : Prop where
  minted : ∀ {jti id}, p.mintedGrants.get? jti = some id → ∃ m ∈ es, Mints prim opts m id jti
  mints : ∀ m ∈ es, ∀ {id jti}, Mints prim opts m id jti → p.mintedGrants.get? jti = some id
  linked : ∀ {jti id}, p.mintedGrants.get? jti = some id ↔ p.windowToGrant.get? id = some jti
  granted : ∀ {id jti}, p.windowToGrant.get? id = some jti → id ∈ p.grantedWindows

/-- The id of a grant names its window: no other window has been granted under it. -/
theorem Mints.grantId {m : PlaneEdge} {id jti : JsString} (hmint : Mints prim opts m id jti)
    (hnext : (planeRuns prim opts).next m.src m.label m.dst) :
    ∃ hex, m.label.request.draw = some (.grant hex) ∧ jti = Plane.grantId id hex := by
  obtain ⟨deviceRead, hex, status, pacing, grant, hrequest, hreply, rfl⟩ := hmint
  have hserved := served_of_next hnext
  rw [hreply, hrequest] at hserved
  exact ⟨hex, by rw [hrequest]; rfl, hserved.mints.1⟩

/-- A grant that is minted gets an id that no grant has, for a window that has no grant. -/
theorem GrantTables.fresh (h : GrantTables prim opts es s.plane) (hexec : (planeRuns prim opts).Exec es s)
    (hfresh : FreshDraws (es ++ [⟨s, l, t⟩])) {id hex : JsString} {deviceRead : Bool}
    (hrequest : l.request = .getVeto id deviceRead hex) (hungranted : id ∉ s.plane.grantedWindows) :
    s.plane.mintedGrants.get? (Plane.grantId id hex) = none ∧ s.plane.windowToGrant.get? id = none := by
  have hfree : s.plane.windowToGrant.get? id = none := by
    cases hlinked : s.plane.windowToGrant.get? id with
    | none => rfl
    | some jti => exact absurd (h.granted hlinked) hungranted
  refine ⟨?_, hfree⟩
  cases hminted : s.plane.mintedGrants.get? (Plane.grantId id hex) with
  | none => rfl
  | some id' =>
      obtain ⟨m, hm, hmint⟩ := h.minted hminted
      obtain ⟨hex', hdraw, hsame⟩ := hmint.grantId (hexec.next_of_mem hm)
      have hlength : hex.length = hex'.length := by
        rw [hfresh.grantLength m (List.mem_append_left _ hm) hex' hdraw]
        refine hfresh.grantLength ⟨s, l, t⟩ (by simp) hex ?_
        show l.request.draw = _
        rw [hrequest]
        rfl
      obtain rfl := Plane.grantId_window hlength hsame
      rw [h.linked, hfree] at hminted
      cases hminted

/-- A request that mints nothing keeps the tables. -/
theorem GrantTables.same (h : GrantTables prim opts es s.plane)
    (hnext : (planeRuns prim opts).next s l t)
    (hminted : t.plane.mintedGrants = s.plane.mintedGrants) (hlinked : t.plane.windowToGrant = s.plane.windowToGrant)
    (hgranted : t.plane.grantedWindows = s.plane.grantedWindows) :
    GrantTables prim opts (es ++ [⟨s, l, t⟩]) t.plane where
  minted hget := by
    rw [hminted] at hget
    obtain ⟨m, hm, hmint⟩ := h.minted hget
    exact ⟨m, List.mem_append_left _ hm, hmint⟩
  mints m hm id jti hmint := by
    rcases List.mem_append.mp hm with hm | hm
    · rw [hminted]
      exact h.mints m hm hmint
    · obtain rfl := List.mem_singleton.mp hm
      obtain ⟨deviceRead, hex, status, pacing, grant, hrequest, hreply, rfl⟩ := hmint
      have hserved := served_of_next hnext
      dsimp only at hrequest
      rw [hreply, hrequest] at hserved
      rw [hserved.mints.2.1, JsMap.get?_set_self]
  linked := by
    intro jti id
    rw [hminted, hlinked]
    exact h.linked
  granted := by
    intro id jti
    rw [hlinked, hgranted]
    exact h.granted

theorem grantTables (h : (planeRuns prim opts).Exec es t) (hfresh : FreshDraws es) :
    GrantTables prim opts es t.plane := by
  refine h.induct (I := fun es t => FreshDraws es → GrantTables prim opts es t.plane) ?_ ?_ hfresh
  · rintro s ⟨killSwitch, devices, registryFile, signCount, hboot⟩ -
    rw [hboot]
    exact ⟨nofun, fun m hm => absurd hm List.not_mem_nil, ⟨nofun, nofun⟩, nofun⟩
  · intro es s l t hexec ih hnext hfresh
    have htables := ih hfresh.prefix
    cases (served_of_next hnext).grantMove with
    | same hminted hlinked hgranted hcommitted => exact htables.same hnext hminted hlinked hgranted
    | committed body hrequest hcommittable hminted hlinked hgranted hcommitted =>
        exact htables.same hnext hminted hlinked hgranted
    | @minted id hex w approval grant deviceRead hrequest hreply hjti hget happroval hungranted hlive hepoch
        hminted hlinked
        hgranted hcommitted =>
        obtain ⟨hnew, hfree⟩ := htables.fresh hexec hfresh hrequest hungranted
        have hmints : Mints prim opts ⟨s, l, t⟩ id (Plane.grantId id hex) :=
          ⟨deviceRead, hex, _, _, grant, hrequest, hreply, hjti⟩
        constructor
        · intro jti id' hget'
          rw [hminted, JsMap.get?_set] at hget'
          split at hget'
          · rename_i hsame
            obtain rfl := Option.some.inj hget'
            subst hsame
            exact ⟨⟨s, l, t⟩, by simp, hmints⟩
          · obtain ⟨m, hm, hmint⟩ := htables.minted hget'
            exact ⟨m, List.mem_append_left _ hm, hmint⟩
        · intro m hm id' jti hmint
          rcases List.mem_append.mp hm with hm | hm
          · have hold := htables.mints m hm hmint
            rw [hminted, JsMap.get?_set_ne _ _ fun hsame => ?_, hold]
            rw [hsame, hnew] at hold
            cases hold
          · obtain rfl := List.mem_singleton.mp hm
            obtain ⟨deviceRead', hex', status, pacing, grant', hrequest', hreply', rfl⟩ := hmint
            obtain ⟨hid, -, hhex⟩ := Request.getVeto.inj (hrequest.symm.trans hrequest')
            obtain ⟨-, -, hgrant⟩ := Reply.window.inj (hreply.symm.trans hreply')
            rw [← Option.some.inj hgrant, hjti, hminted, ← hid, JsMap.get?_set_self]
        · intro jti id'
          rw [hminted, hlinked, JsMap.get?_set, JsMap.get?_set]
          by_cases hid : id' = id
          · subst hid
            by_cases hsame : jti = Plane.grantId id' hex
            · rw [if_pos hsame, if_pos rfl, hsame]
              exact ⟨fun _ => rfl, fun _ => rfl⟩
            · rw [if_neg hsame, if_pos rfl, htables.linked, hfree]
              exact ⟨nofun, fun h => absurd (Option.some.inj h).symm hsame⟩
          · rw [if_neg hid, ← htables.linked]
            split
            · rename_i hsame
              rw [hsame, hnew]
              exact ⟨fun h => absurd (Option.some.inj h).symm hid, nofun⟩
            · exact Iff.rfl
        · intro id' jti hget'
          rw [hlinked, JsMap.get?_set] at hget'
          rw [hgranted]
          split at hget'
          · rename_i hid
            rw [hid]
            exact List.mem_insert_self
          · exact List.mem_insert_of_mem (htables.granted hget')

/-- A committed grant is that of a window which is not vetoed. -/
theorem committed_unvetoed (h : (planeRuns prim opts).Exec es t) (hfresh : FreshDraws es) {jti : JsString}
    (hcommitted : jti ∈ t.plane.committedGrants) :
    ∃ id w, t.plane.mintedGrants.get? jti = some id ∧ t.plane.vetoWindows.get? id = some w ∧ w.status ≠ .vetoed := by
  revert jti
  refine h.induct (I := fun es t => FreshDraws es → ∀ {jti : JsString}, jti ∈ t.plane.committedGrants →
    ∃ id w, t.plane.mintedGrants.get? jti = some id ∧ t.plane.vetoWindows.get? id = some w ∧ w.status ≠ .vetoed)
    ?_ ?_ hfresh
  · rintro s ⟨killSwitch, devices, registryFile, signCount, hboot⟩ - jti hmem
    rw [hboot] at hmem
    cases hmem
  · intro es s l t hexec ih hnext hfresh jti hmem
    have hserved := served_of_next hnext
    have htables := grantTables hexec hfresh.prefix
    have htables' := grantTables (hexec.snoc hnext) hfresh
    -- it was committed before, or it is committed by this request
    have hbefore : (jti ∈ s.plane.committedGrants ∨ ∃ body, l.request = .grantCommit body true) ∧
        ∃ id w, s.plane.mintedGrants.get? jti = some id ∧ s.plane.vetoWindows.get? id = some w ∧
          w.status ≠ .vetoed := by
      cases hserved.grantMove with
      | same hminted hlinked hgranted hsame =>
          rw [hsame] at hmem
          exact ⟨.inl hmem, ih hfresh.prefix hmem⟩
      | minted deviceRead hrequest hreply hjti hget happroval hungranted hlive hepoch hminted hlinked hgranted hsame =>
          rw [hsame] at hmem
          exact ⟨.inl hmem, ih hfresh.prefix hmem⟩
      | @committed jti' body hrequest hcommittable hminted hlinked hgranted hsame =>
          rw [hsame, List.mem_insert_iff] at hmem
          rcases hmem with rfl | hmem
          · obtain ⟨id, w, approval, hget, hwindow, hvetoed, -⟩ := Plane.committable_iff.mp hcommittable
            exact ⟨.inr ⟨body, hrequest⟩, id, w, hget, hwindow, hvetoed⟩
          · exact ⟨.inl hmem, ih hfresh.prefix hmem⟩
    obtain ⟨hwhen, id, w, hminted, hget, hvetoed⟩ := hbefore
    obtain ⟨m, hm, hmint⟩ := htables.minted hminted
    obtain ⟨w', hget'⟩ := hserved.window_kept hget
    refine ⟨id, w', htables'.mints m (List.mem_append_left _ hm) hmint, hget', ?_⟩
    cases (hserved.windowMove hget').review with
    | same hold hsame =>
        obtain rfl := Option.some.inj (hget.symm.trans hold)
        exact fun h => hvetoed (hsame.vetoed.mp h)
    | registered purpose hex hrequest hreply hid hcall hagent hw =>
        rw [hw]
        exact nofun
    | vetoed ownerId fleetDevice ownerDevice body hrequest hold huncommitted hw =>
        -- a stop is refused once it finds the grant of the window among the committed ones
        rw [htables.linked.mp hminted, Option.any_some, List.contains_eq_mem, decide_eq_false_iff_not] at huncommitted
        rcases hwhen with hmem | ⟨body', hcommit⟩
        · exact absurd hmem huncommitted
        · rw [hcommit] at hrequest
          cases hrequest
    | approved fleetDevice ownerDevice body hrequest hreply hold hlive hagent hopen hfirst hw =>
        obtain rfl := Option.some.inj (hget.symm.trans hold)
        rw [hw]
        exact hopen

/-- What a run may not do with the windows and their grants. -/
structure CommitExcludesVeto (prim : Primitives) (opts : ServerOptions) (es : List PlaneEdge) : Prop where
  /-- No window has both a committed grant and an accepted veto, in whichever order. -/
  exclusive : ∀ e ∈ es, ∀ f ∈ es, ∀ m ∈ es, ∀ id jti, AcceptsVeto prim opts e id → Mints prim opts m id jti →
    ¬ CommitsGrant prim opts f jti
  /-- A window is granted once. -/
  once : es.Pairwise fun m m' => ∀ id jti jti', Mints prim opts m id jti → ¬ Mints prim opts m' id jti'
  /-- At most one grant of a window is committed. -/
  oneCommit : ∀ f ∈ es, ∀ f' ∈ es, ∀ m ∈ es, ∀ m' ∈ es, ∀ id jti jti', CommitsGrant prim opts f jti →
    CommitsGrant prim opts f' jti' → Mints prim opts m id jti → Mints prim opts m' id jti' → jti = jti'
  /-- A grant is committed for a window approved in the epoch in force, that is not vetoed, while nothing is killed. -/
  committed : ∀ pre f post jti, es = pre ++ f :: post → CommitsGrant prim opts f jti →
    ∃ id w, (∃ m ∈ pre, Mints prim opts m id jti) ∧
      (∃ a ∈ pre, Approves prim opts a id ∧ a.src.plane.killSwitch.epoch = f.src.plane.killSwitch.epoch) ∧
      f.src.plane.vetoWindows.get? id = some w ∧ w.status ≠ .vetoed ∧ f.src.plane.killSwitch.killed = false ∧
      f.src.plane.killSwitch.agentKilled w.call.agentId = false

theorem minted_once (h : (planeRuns prim opts).Exec es t) (hfresh : FreshDraws es) :
    es.Pairwise fun m m' => ∀ id jti jti', Mints prim opts m id jti → ¬ Mints prim opts m' id jti' := by
  refine h.induct (I := fun es _ => FreshDraws es → es.Pairwise fun m m' => ∀ id jti jti',
    Mints prim opts m id jti → ¬ Mints prim opts m' id jti') (fun _ _ _ => .nil) ?_ hfresh
  intro es s l t hexec ih hnext hfresh
  have htables := grantTables hexec hfresh.prefix
  rw [List.pairwise_append]
  refine ⟨ih hfresh.prefix, List.pairwise_singleton _ _, fun m hm last hlast id jti jti' hmint hagain => ?_⟩
  obtain rfl := List.mem_singleton.mp hlast
  obtain ⟨deviceRead, hex, status, pacing, grant, hrequest, hreply, rfl⟩ := hagain
  have hserved := served_of_next hnext
  dsimp only at hrequest
  rw [hreply, hrequest] at hserved
  exact hserved.mints.2.2.2.1 (htables.granted (htables.linked.mp (htables.mints m hm hmint)))

/-- Over every order of registrations, approvals, vetoes, reads, commits, kills and restores, a commit of a grant and a
    veto of its window exclude each other. -/
theorem commit_excludes_veto (h : (planeRuns prim opts).Exec es t) (hfresh : FreshDraws es) :
    CommitExcludesVeto prim opts es := by
  have htables := grantTables h hfresh
  constructor
  · intro e he f hf m hm id jti hveto hmint hcommit
    obtain ⟨w, hget, hvetoed⟩ := vetoed_of_accepted h hfresh he hveto
    obtain ⟨id', w', hminted, hget', hopen⟩ := committed_unvetoed h hfresh (committed_recorded h hf hcommit)
    obtain rfl := Option.some.inj ((htables.mints m hm hmint).symm.trans hminted)
    obtain rfl := Option.some.inj (hget.symm.trans hget')
    exact hopen hvetoed
  · exact minted_once h hfresh
  · intro f hf f' hf' m hm m' hm' id jti jti' hcommit hcommit' hmint hmint'
    have hlinked := htables.linked.mp (htables.mints m hm hmint)
    have hlinked' := htables.linked.mp (htables.mints m' hm' hmint')
    exact Option.some.inj (hlinked.symm.trans hlinked')
  · rintro pre f post jti rfl hcommit
    obtain ⟨hpre, hnext, -⟩ := h.split
    obtain ⟨killed, epoch, nonce, expiresAt, hreply⟩ := hcommit
    have hserved := served_of_next hnext
    rw [hreply] at hserved
    obtain ⟨id, w, approval, hminted, hget, hvetoed, hlive, hagent, happroval, hepoch⟩ :=
      Plane.committable_iff.mp hserved.commits.1
    obtain ⟨a, ha, hrecorded, hsame⟩ := approval_recorded hpre hget happroval
    exact ⟨id, w, (grantTables hpre hfresh.prefix).minted hminted, ⟨a, ha, hrecorded, hsame.trans hepoch⟩, hget,
      hvetoed, hlive, hagent⟩

/-! ### A sample -/

namespace GrantSample

/-- A merge, held for review. -/
def registration : Json :=
  .obj
    [(js "call", .obj
      [(js "agentId", .str (js "agent-1")), (js "tool", .str (js "merge")), (js "args", .obj
        [(js "owner", .str (js "o")), (js "repo", .str (js "r")), (js "pullNumber", .num (.ofInt 1)),
          (js "expectedHeadSha", .str (List.replicate 40 0x61)), (js "expectedBaseRef", .str (js "main"))])]),
      (js "purpose", .obj [(js "connector", .str githubConnector), (js "operation", .str mergePullRequest)])]

def hex : JsString :=
  List.replicate 16 0x30

/-- The merge is registered, approved and granted; its commit comes last. -/
def before : List PlaneStep :=
  [⟨.registerVeto true (.ok registration) (js "1"), 1000⟩,
    ⟨.veto (some (js "owner")) none none (js "veto_1") (.ok (.obj [(js "decision", .str (js "approve"))])), 2000⟩,
    ⟨.getVeto (js "veto_1") false hex, 3000⟩]

def commit : PlaneStep :=
  ⟨.grantCommit (.ok (.obj
    [(js "jti", .str (Plane.grantId (js "veto_1") hex)), (js "nonce", .str (js "n")), (js "ts", .num (.ofInt 4000)),
      (js "sig", .str (js "s"))])) true, 4000⟩

/-- The plane the commit is requested of. -/
def granted : PlaneState :=
  before.foldl (PlaneState.after PlaneSample.prim PlaneSample.sessionOnly) (PlaneSample.boot PlaneSample.noDevices)

end GrantSample

/-- A grant that is minted and committed. -/
theorem commit_excludes_veto_sample :
    CommitExcludesVeto PlaneSample.prim PlaneSample.sessionOnly
      (Lts.trace (PlaneState.after PlaneSample.prim PlaneSample.sessionOnly) (PlaneSample.boot PlaneSample.noDevices)
        GrantSample.before ++
        [⟨GrantSample.granted, GrantSample.commit,
          GrantSample.granted.after PlaneSample.prim PlaneSample.sessionOnly GrantSample.commit⟩]) :=
  commit_excludes_veto (PlaneSample.exec PlaneSample.prim PlaneSample.sessionOnly PlaneSample.noDevices
    GrantSample.before GrantSample.commit
      (by decide))
    (PlaneSample.fresh PlaneSample.prim PlaneSample.sessionOnly PlaneSample.noDevices GrantSample.before
      GrantSample.commit
      (by decide))

end OwnerSwitch
