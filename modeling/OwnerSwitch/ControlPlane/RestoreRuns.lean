/-
Module: OwnerSwitch.ControlPlane.RestoreRuns
Layer: ControlPlane
Purpose: A kill is lifted only by a ceremony of that kill: whatever is requested in between, a restore names a
  ceremony that its owner started after the newest engagement, for that scope, and never confirmed before.
Imports: ControlPlane.PlaneRuns
Trusted boundary: those of ControlPlane.Plane
Main exports: Lifts, restore_needs_ceremony
Open obligations: none
-/
import OwnerSwitch.ControlPlane.PlaneRuns

namespace OwnerSwitch

/-! ### Ceremonies over one request -/

/-- A ceremony carried on by a request: ticked, or confirmed. -/
structure CeremonyRecord.Carried (now : Int) (r r' : CeremonyRecord) : Prop where
  ceremonyId : r'.ceremony.ceremonyId = r.ceremony.ceremonyId
  ownerId : r'.ceremony.ownerId = r.ceremony.ownerId
  startedAt : r'.ceremony.startedAt = r.ceremony.startedAt
  epoch : r'.epoch = r.epoch
  agentId : r'.agentId = r.agentId
  completed : r.ceremony.status = .completed → r'.ceremony.status = .completed
  ready : r'.ceremony.status = .ready →
    r.ceremony.status = .ready ∨ RestoreCeremony.cooldownMs ≤ now - r.ceremony.startedAt

namespace CeremonyRecord

theorem Carried.refl (now : Int) (r : CeremonyRecord) : Carried now r r :=
  ⟨rfl, rfl, rfl, rfl, rfl, id, .inl⟩

theorem carried_tick (now : Int) (r : CeremonyRecord) : Carried now r { r with ceremony := r.ceremony.tick now } where
  ceremonyId := RestoreCeremony.tick_ceremonyId
  ownerId := RestoreCeremony.tick_ownerId
  startedAt := RestoreCeremony.tick_startedAt
  epoch := rfl
  agentId := rfl
  completed := RestoreCeremony.tick_completed.mpr
  ready h := (RestoreCeremony.tick_ready h).2.2

theorem carried_confirm (now : Int) (r : CeremonyRecord) :
    Carried now r { r with ceremony := (r.ceremony.confirm now).1 } := by
  rcases r.ceremony.confirm_cases now with hconfirm | ⟨hready, hconfirm⟩
  · rw [hconfirm]
    exact r.carried_tick now
  · have hticked := r.carried_tick now
    rw [hconfirm]
    exact ⟨hticked.ceremonyId, hticked.ownerId, hticked.startedAt, rfl, rfl, fun _ => rfl, nofun⟩

end CeremonyRecord

namespace Plane

/-- Where a record comes from that a request leaves. -/
inductive CeremonyMove (p : Plane) (now : Int) (request : Request) (reply : Reply) (id : JsString)
    (record' : CeremonyRecord) : Prop where
  | carried {record} (hget : p.ceremonies.get? id = some record) (hcarried : record.Carried now record')
  | started {body uuid} (licenseRefusal : Option JsString) (state : CeremonyState) (remaining expiresAt : Int)
      (hrequest : request = .ceremonyStart (some record'.ceremony.ownerId) (.ok body) licenseRefusal uuid)
      (hreply : reply = .ceremony 201 id state remaining expiresAt record'.agentId) (hid : id = js "cer_" ++ uuid)
      (hscope : ceremonyScope body = some record'.agentId) (hepoch : record'.epoch = p.killSwitch.epoch)
      (hstate : record'.ceremony = .start id record'.ceremony.ownerId now)

section

variable {prim : Primitives} {opts : ServerOptions} {p p' : Plane} {now : Int} {request : Request} {reply : Reply}
  {id id' : JsString} {record record' : CeremonyRecord}

theorem CeremonyMove.of_set (hget : p.ceremonies.get? id' = some record) (hcarried : record.Carried now record')
    {ceremonies : JsMap JsString CeremonyRecord}
    (hold : ∀ id r, ceremonies.get? id = some r → p.ceremonies.get? id = some r) {r : CeremonyRecord}
    (h : (ceremonies.set id' record').get? id = some r) : CeremonyMove p now request reply id r := by
  rw [JsMap.get?_set] at h
  split at h
  · rename_i hsame
    obtain rfl := Option.some.inj h
    subst hsame
    exact .carried hget hcarried
  · exact .carried (hold id r h) (.refl now r)

theorem Served.ceremonyMove (h : p.Served prim opts now request reply p')
    (hget : p'.ceremonies.get? id = some record') : CeremonyMove p now request reply id record' := by
  have hpurged : ∀ id r, (p.purgedCeremonies now).get? id = some r → p.ceremonies.get? id = some r :=
    fun _ _ h => JsMap.get?_of_filter h
  cases h with
  | purged => exact .carried (hpurged _ _ hget) (.refl now _)
  | resumed body licenseRefusal uuid hfound howner =>
      exact .of_set (hpurged _ _ hfound) (CeremonyRecord.carried_tick now _) hpurged hget
  | @started ownerId body licenseRefusal uuid scope hscope hrestorable =>
      rw [RestoreCeremony.start_tick] at hget
      dsimp only at hget
      rw [JsMap.get?_set] at hget
      split at hget
      · rename_i hid
        obtain rfl := Option.some.inj hget
        subst hid
        exact .started licenseRefusal _ _ _ rfl rfl rfl hscope rfl rfl
      · exact .carried (hpurged _ _ hget) (.refl now _)
  | observed hfound => exact .of_set hfound (CeremonyRecord.carried_tick now _) (fun _ _ h => h) hget
  | restoreUnready random hfound => exact .of_set hfound (CeremonyRecord.carried_tick now _) (fun _ _ h => h) hget
  | restoreChallenged random hfound => exact .of_set hfound (CeremonyRecord.carried_tick now _) (fun _ _ h => h) hget
  | unconfirmed ownerId o hnamed hfound =>
      exact .of_set hfound (CeremonyRecord.carried_confirm now _) (fun _ _ h => h) hget
  | restored hnamed hfound => exact .of_set hfound (CeremonyRecord.carried_confirm now _) (fun _ _ h => h) hget
  | agentRestored hnamed hfound => exact .of_set hfound (CeremonyRecord.carried_confirm now _) (fun _ _ h => h) hget
  | revoked caller id registrySave save o =>
      obtain ⟨deliveries, windows, swept, rfl, hadopt | ⟨reason, hadopt⟩, -, -⟩ :=
        adopt_eq prim p now (p.devices.postDeviceRevoke p.registryFile id registrySave save now) o
      · rw [hadopt] at hget
        exact .carried hget (.refl now _)
      · rw [hadopt] at hget
        exact .carried hget (.refl now _)
  | enrolled submission deviceId registrySave save o =>
      obtain ⟨deliveries, windows, swept, rfl, hadopt | ⟨reason, hadopt⟩, -, -⟩ := adopt_eq prim p now
        (p.devices.postDeviceEnroll prim.parseSpki p.registryFile submission deviceId registrySave save now) o
      · rw [hadopt] at hget
        exact .carried hget (.refl now _)
      · rw [hadopt] at hget
        exact .carried hget (.refl now _)
  | _ => exact .carried hget (.refl now _)

end

end Plane

/-! ### Ceremonies over a run -/

/-- The request `s` started the ceremony `id` as the record says. -/
structure Starts (prim : Primitives) (opts : ServerOptions) (s : PlaneEdge) (id : JsString) (record : CeremonyRecord) :
    Prop where
  requested : ∃ body licenseRefusal uuid,
    s.label.request = .ceremonyStart (some record.ceremony.ownerId) (.ok body) licenseRefusal uuid ∧
      id = js "cer_" ++ uuid ∧ Plane.ceremonyScope body = some record.agentId
  answered : ∃ state remaining expiresAt, s.reply prim opts = .ceremony 201 id state remaining expiresAt record.agentId
  named : record.ceremony.ceremonyId = id
  epoch : record.epoch = s.src.plane.killSwitch.epoch
  startedAt : record.ceremony.startedAt = s.label.now

/-- The ceremony `id` is there at `t` and has not been confirmed. -/
def Unconfirmed (id : JsString) (t : PlaneState) : Prop :=
  ∃ record, t.plane.ceremonies.get? id = some record ∧ record.ceremony.status ≠ .completed

variable {prim : Primitives} {opts : ServerOptions} {es pre post : List PlaneEdge} {s t : PlaneState} {e : PlaneEdge}

/-- Every ceremony was started by some request, is ready only after its pause, and was there since, unconfirmed as
    long as it is unconfirmed now. -/
theorem ceremony_started (h : (planeRuns prim opts).Exec es t) {id : JsString} {record : CeremonyRecord}
    (hget : t.plane.ceremonies.get? id = some record) :
    (record.ceremony.status = .ready → RestoreCeremony.cooldownMs ≤ t.clock - record.ceremony.startedAt) ∧
      ∃ before s since, es = before ++ s :: since ∧ Starts prim opts s id record ∧
        (record.ceremony.status ≠ .completed → Unconfirmed id s.dst ∧ ∀ d ∈ since, Unconfirmed id d.dst) := by
  revert id record
  refine h.induct (I := fun es t => ∀ {id : JsString} {record : CeremonyRecord},
    t.plane.ceremonies.get? id = some record →
    (record.ceremony.status = .ready → RestoreCeremony.cooldownMs ≤ t.clock - record.ceremony.startedAt) ∧
      ∃ before s since, es = before ++ s :: since ∧ Starts prim opts s id record ∧
        (record.ceremony.status ≠ .completed → Unconfirmed id s.dst ∧ ∀ d ∈ since, Unconfirmed id d.dst)) ?_ ?_
  · rintro s ⟨killSwitch, devices, registryFile, signCount, hboot⟩ id record hget
    rw [hboot] at hget
    cases hget
  · intro es s l t hexec ih hnext id record hget
    have hclock := clock_mono hnext
    have hnow : t.clock = l.now := congrArg PlaneState.clock hnext.2
    cases (served_of_next hnext).ceremonyMove hget with
    | @carried old hold hcarried =>
        obtain ⟨hready, before, start, since, rfl, hstarts, hsince⟩ := ih hold
        refine ⟨fun h => ?_, before, start, since ++ [⟨s, l, t⟩], by simp, ?_, fun hlive => ?_⟩
        · rw [hcarried.startedAt]
          rcases hcarried.ready h with h | h
          · have hcooldown := hready h
            omega
          · rw [hnow]
            exact h
        · obtain ⟨⟨body, licenseRefusal, uuid, hrequest, hid, hscope⟩, hanswered, hnamed, hepoch, hstartedAt⟩ := hstarts
          exact ⟨⟨body, licenseRefusal, uuid, by rw [hcarried.ownerId, hrequest],
            hid, by rw [hcarried.agentId, hscope]⟩,
            by rw [hcarried.agentId]; exact hanswered, hcarried.ceremonyId.trans hnamed, hcarried.epoch.trans hepoch,
            hcarried.startedAt.trans hstartedAt⟩
        · obtain ⟨hstart, hsince⟩ := hsince (mt hcarried.completed hlive)
          refine ⟨hstart, fun d hd => ?_⟩
          rcases List.mem_append.mp hd with hd | hd
          · exact hsince d hd
          · obtain rfl := List.mem_singleton.mp hd
            exact ⟨record, hget, hlive⟩
    | @started body uuid licenseRefusal state remaining expiresAt hrequest hreply hid hscope hepoch hstate =>
        refine ⟨fun h => ?_, es, ⟨s, l, t⟩, [], rfl, ⟨⟨body, licenseRefusal, uuid, hrequest, hid, hscope⟩,
          ⟨state, remaining, expiresAt, hreply⟩, by rw [hstate]; rfl, hepoch, by rw [hstate]; rfl⟩, fun hlive => ?_⟩
        · rw [hstate] at h
          cases h
        · exact ⟨⟨record, hget, hlive⟩, fun d hd => absurd hd List.not_mem_nil⟩

/-! ### What lifts a kill -/

/-- The restore request `e`, after the requests `before ++ s :: since`, names a ceremony of this scope that `s` started
    for the same owner. No engagement came in between, the pause is over and the bound is not reached, and the
    ceremony was not confirmed before. -/
structure Lifts (prim : Primitives) (opts : ServerOptions) (scope : Option JsString) (s : PlaneEdge)
    (since : List PlaneEdge) (e : PlaneEdge) : Prop where
  requests : ∃ ownerId startBody licenseRefusal uuid body o,
    s.label.request = .ceremonyStart (some ownerId) (.ok startBody) licenseRefusal uuid ∧
    Plane.ceremonyScope startBody = some scope ∧
    (∃ state remaining expiresAt, s.reply prim opts = .ceremony 201 (js "cer_" ++ uuid) state remaining expiresAt scope) ∧
    e.label.request = .restore (some ownerId) (.ok body) o ∧
    bodyText body (js "ceremonyId") = some (js "cer_" ++ uuid) ∧
    Unconfirmed (js "cer_" ++ uuid) s.dst ∧ ∀ d ∈ since, Unconfirmed (js "cer_" ++ uuid) d.dst
  epoch : s.src.plane.killSwitch.epoch = e.src.plane.killSwitch.epoch
  kills : s.src.plane.killSwitch.kills = e.src.plane.killSwitch.kills
  cooldown : RestoreCeremony.cooldownMs ≤ e.label.now - s.label.now
  ttl : e.label.now - s.label.now < RestoreCeremony.ttlMs

/-- What a request that confirms a ceremony comes after. -/
theorem lifts_of_confirms (h : (planeRuns prim opts).Exec (pre ++ e :: post) t) {scope : Option JsString}
    {id : JsString} {record : CeremonyRecord} {authz : RestoreAuthorization}
    (hconfirms : e.src.plane.Confirms e.label.now e.label.request scope id record authz) :
    ∃ before s since, pre = before ++ s :: since ∧ Lifts prim opts scope s since e := by
  obtain ⟨hpre, hnext, -⟩ := h.split
  obtain ⟨⟨body, o, hrequest, hnamed⟩, hget, hepoch, rfl, hconfirmed⟩ := hconfirms
  obtain ⟨hcooldown, before, s, since, rfl, hstarts, hsince⟩ := ceremony_started hpre hget
  obtain ⟨⟨startBody, licenseRefusal, uuid, hstart, hid, hscope⟩, hanswered, -, hstartEpoch, hstartedAt⟩ := hstarts
  subst hid
  have hready : (record.ceremony.tick e.label.now).status = .ready := by
    rcases record.ceremony.confirm_cases e.label.now with hnone | ⟨hready, -⟩
    · rw [hnone] at hconfirmed
      cases hconfirmed
    · exact hready
  obtain ⟨hlive, httl, hpause⟩ := RestoreCeremony.tick_ready hready
  obtain ⟨-, hstep, hpath⟩ := hpre.split
  have hepochs : e.src.plane.killSwitch.epoch = s.src.plane.killSwitch.epoch := hepoch.symm.trans hstartEpoch
  have hkills := (kills_of_epoch (((Lts.Path.single hstep).append hpath))).2 hepochs
  refine ⟨before, s, since, rfl, ⟨record.ceremony.ownerId, startBody, licenseRefusal, uuid, body, o, hstart, hscope,
    hanswered, hrequest, ?_, hsince hlive⟩, hepochs.symm, hkills.symm, ?_, ?_⟩
  · cases hname : bodyText body (js "ceremonyId") with
    | none =>
        rw [hname] at hnamed
        cases hnamed
    | some name =>
        rw [hname] at hnamed
        exact congrArg some hnamed
  · have hclock := hnext.1
    rw [← hstartedAt]
    rcases hpause with hpause | hpause
    · have hcooldown := hcooldown hpause
      omega
    · exact hpause
  · rw [← hstartedAt]
    exact httl

/-- A kill is lifted by a ceremony of that kill only: the global one by a global ceremony, that of an agent by one
    scoped to it, while no global kill is in force. -/
theorem restore_needs_ceremony (h : (planeRuns prim opts).Exec (pre ++ e :: post) t) :
    (e.src.plane.killSwitch.killed = true → e.dst.plane.killSwitch.killed = false →
      ∃ before s since, pre = before ++ s :: since ∧ Lifts prim opts none s since e) ∧
    ∀ agentId, e.src.plane.killSwitch.agentKilled agentId = true →
      e.dst.plane.killSwitch.agentKilled agentId = false →
      e.src.plane.killSwitch.killed = false ∧
        ∃ before s since, pre = before ++ s :: since ∧ Lifts prim opts (some agentId) s since e := by
  obtain ⟨-, hnext, -⟩ := h.split
  constructor
  · intro hkilled hlifted
    cases (served_of_next hnext).switchMove with
    | kept hsame => simp [hsame, hkilled] at hlifted
    | engaged entry hepoch hstill => simp [hstill hkilled] at hlifted
    | restored hconfirms => exact lifts_of_confirms h hconfirms
    | agentRestored hconfirms hlive => simp [hkilled] at hlive
  · intro agentId hkilled hlifted
    cases (served_of_next hnext).switchMove with
    | kept hsame hepoch hagents =>
        rw [KillSwitch.agentKilled, hagents] at hlifted
        exact absurd (hkilled.symm.trans hlifted) (by decide)
    | engaged entry hepoch hstill hagents =>
        rw [hagents agentId hkilled] at hlifted
        cases hlifted
    | restored hconfirms hrestored =>
        rw [KillSwitch.agentKilled, hrestored.agentKillMap] at hlifted
        exact absurd (hkilled.symm.trans hlifted) (by decide)
    | @agentRestored restored id record authz hconfirms hlive hrestored =>
        obtain rfl : agentId = restored := by
          by_contra hne
          rw [KillSwitch.agentKilled, hrestored.agentKillMap, JsMap.has_delete, decide_eq_true hne,
            Bool.true_and] at hlifted
          exact absurd (hkilled.symm.trans hlifted) (by decide)
        exact ⟨hlive, lifts_of_confirms h hconfirms⟩

/-! ### A sample -/

namespace RestoreSample

/-- A kill and a ceremony; the pause has passed when the restore comes. -/
def before : List PlaneStep :=
  [⟨.kill ⟨true, false⟩ (.ok (.obj [])) .noStore, 1000⟩,
    ⟨.ceremonyStart (some (js "owner")) (.ok (.obj [])) none (js "1"), 2000⟩]

def restore : PlaneStep :=
  ⟨.restore (some (js "owner")) (.ok (.obj [(js "ceremonyId", .str (js "cer_1"))])) .noStore, 32000⟩

/-- What the restore is requested of. -/
def killed : PlaneState :=
  before.foldl (PlaneState.after PlaneSample.prim PlaneSample.sessionOnly) (PlaneSample.boot PlaneSample.noDevices)

end RestoreSample

/-- A kill, a ceremony, and the restore it authorizes. -/
theorem restore_needs_ceremony_sample :
    ∃ before s since, Lts.trace (PlaneState.after PlaneSample.prim PlaneSample.sessionOnly)
        (PlaneSample.boot PlaneSample.noDevices) RestoreSample.before = before ++ s :: since ∧
      Lifts PlaneSample.prim PlaneSample.sessionOnly none s since
        ⟨RestoreSample.killed, RestoreSample.restore,
          RestoreSample.killed.after PlaneSample.prim PlaneSample.sessionOnly RestoreSample.restore⟩ :=
  (restore_needs_ceremony (PlaneSample.exec PlaneSample.prim PlaneSample.sessionOnly PlaneSample.noDevices
    RestoreSample.before RestoreSample.restore
      (by decide))).1
    (by decide +kernel) (by decide +kernel)

end OwnerSwitch
