/-
Module: OwnerSwitch.Gateway.LimitDeployment
Layer: Gateway
Purpose: One gateway's limit tracker composed with the control plane's kill switch over a network that
  delays, duplicates, reorders and loses: kill reports of a latch and their answers, `/status` answers,
  and the kills and restores of everyone else. A latch is released only by a restore of its own kill.
Imports: Lib.Lts, Limits, LimitRuns, ControlPlane.Kill
Trusted boundary: an answer to a report reaches the reporter that sent it
Main exports: LimitDeployment, deploymentRuns, latch_own_restore
Open obligations: none
-/
import OwnerSwitch.Lib.Lts
import OwnerSwitch.ControlPlane.Kill
import OwnerSwitch.Gateway.LimitRuns

namespace OwnerSwitch

/-! ### What the gateway reads -/

/-- The epoch at which the control plane committed this agent's kill, read off its answer. -/
def parseLimitKillConfirmation (body : Json) (agentId : JsString) : Option Nat :=
  match body with
  | .obj fields =>
      let keys := joinStrings (js ",") (sortStrings (fields.map Prod.fst))
      let isScoped := keys == js "epoch,killed,killedAgent"
      let isEscalated := keys == js "epoch,escalatedToGlobal,killed"
      if !isScoped && !isEscalated then none
      else
        match (body.get (js "killed")).bind Json.bool?, (body.get (js "epoch")).bind Json.safeNat? with
        | some killed, some epoch =>
            if epoch < 1 then none
            else if isScoped && (body.get (js "killedAgent")).bind Json.str? != some agentId then none
            else if isEscalated && !((body.get (js "escalatedToGlobal")).bind Json.bool? == some true && killed)
            then none
            else some epoch
        | _, _ => none
  | _ => none

/-- Kill state as the gateway holds it. -/
structure KillState where
  killed : Bool
  epoch : Option Nat
  killedAgents : List JsString
  durable : Bool

/-- No answer, or one that cannot be trusted. -/
def KillState.failClosed : KillState :=
  ⟨true, none, [], false⟩

/-- The scoped-kill list under the shared agent id contract. -/
def parseKilledAgents : Option Json → Option (List JsString)
  | some (.arr entries) =>
      if maxKilledAgents < entries.length then none
      else entries.mapM fun entry => entry.str?.filter isValidAgentId
  | _ => none

/-- A `/status` body, read. -/
def parseStatus (body : Json) : KillState :=
  match (body.get (js "killed")).bind Json.bool?, (body.get (js "epoch")).bind Json.safeNat?,
      parseKilledAgents (body.get (js "killedAgents")) with
  | some killed, some epoch, some killedAgents =>
      let durable := (body.get (js "persistenceDegraded")).isNone && (body.get (js "unhealthy")).isNone
      ⟨killed, some epoch, killedAgents, durable⟩
  | _, _, _ => .failClosed

/-! ### The deployment -/

/-- A kill report in the network: its latch generation and its reason. -/
structure KillReport where
  generation : Nat
  reason : JsString

/-- The tracker, the switch and everything ever put on the network. -/
structure LimitDeployment where
  run : LimitRun
  plane : KillSwitch
  reports : List KillReport
  /-- answers to reports, with the generation of the report -/
  answers : List (Nat × Json)
  statuses : List Json

/-- A letter of the run. -/
inductive DeploymentStep where
  /-- a call is observed, or its error -/
  | observeCall (call : ToolCall) (epoch : Option Int) («at» now : ℚ)
  | observeError (call : ToolCall) (epoch : Option Int) («at» now : ℚ)
  /-- a report, sent once or again, reaches the control plane -/
  | receiveReport (report : KillReport) (now : Int)
  /-- an answer to a report of this generation reaches the gateway -/
  | receiveAnswer (generation : Nat) (body : Json)
  /-- the control plane answers `/status` -/
  | status
  /-- such an answer reaches the gateway -/
  | receiveStatus (body : Json)
  /-- kills and restores of others -/
  | engage (now : Int) (source : KillSource) (reason : Option JsString) (unauthenticated : Bool)
  | engageAgent (now : Int) (agentId : JsString) (source : KillSource) (reason : Option JsString)
      (unauthenticated : Bool)
  | restore (now : Int) (auth : RestoreAuthorization)
  | restoreAgent (now : Int) (agentId : JsString) (auth : RestoreAuthorization)

section Deployment

variable (regExpTest : JsString → JsString → Bool) (rules : List LimitRule) (maxEvents : Nat) (agentId : JsString)

/-- The reports an observation asks for. -/
def reportsOf (trips : List LimitTrip) : List KillReport :=
  trips.filterMap fun trip => trip.latchGeneration.map (⟨·, limitTripReason trip agentId⟩)

/-- What an observation makes of the deployment. -/
def LimitDeployment.observed (d : LimitDeployment) (result : LimitTracker × List LimitTrip) (now : ℚ) :
    LimitDeployment :=
  { d with run := ⟨result.1, now⟩, reports := d.reports ++ reportsOf agentId result.2 }

def LimitDeployment.withTracker (d : LimitDeployment) (tracker : LimitTracker) : LimitDeployment :=
  { d with run := { d.run with tracker := tracker } }

/-- The reporter feeds back what it can read off an answer to a report of this generation. -/
def LimitTracker.receiveAnswer (t : LimitTracker) (body : Json) (generation : Nat) : LimitTracker :=
  match parseLimitKillConfirmation body agentId with
  | some epoch => t.confirmKillDelivered epoch generation
  | none => t

/-- The proxy shows the tracker an answer that does not stop everything. -/
def LimitTracker.receiveStatus (t : LimitTracker) (observed : KillState) : LimitTracker :=
  if observed.killed then t
  else t.observeKillState observed.killedAgents (observed.epoch.map Int.ofNat) observed.durable

/-- Every save is durable. -/
def deploymentRuns : Lts LimitDeployment DeploymentStep where
  init d := d.run.tracker = .new rules maxEvents ∧ d.plane.persistenceDegraded = false ∧
    d.plane.quarantineFailed = false ∧ d.reports = [] ∧ d.answers = [] ∧ d.statuses = []
  next d step d' :=
    match step with
    | .observeCall call epoch a now =>
        d.run.tracker.killTripped = none ∧ call.agentId = agentId ∧ d.run.clock ≤ a ∧ a ≤ now ∧
          d' = d.observed agentId (d.run.tracker.observeCall regExpTest call epoch a now) now
    | .observeError call epoch a now =>
        call.agentId = agentId ∧ d.run.clock ≤ a ∧ a ≤ now ∧
          d' = d.observed agentId (d.run.tracker.observeError regExpTest call epoch a now) now
    | .receiveReport report now =>
        report ∈ d.reports ∧ isValidAgentId agentId = true ∧
          let (plane, escalated) := d.plane.engageAgent now agentId .limit (some report.reason) false .durable
          d' = { d with
            plane := plane
            answers := d.answers ++ [(report.generation, plane.scopedKillBody agentId escalated)] }
    | .receiveAnswer generation body =>
        (generation, body) ∈ d.answers ∧
          d' = d.withTracker (d.run.tracker.receiveAnswer agentId body generation)
    | .status => d' = { d with statuses := d.statuses ++ [d.plane.statusBody] }
    | .receiveStatus body =>
        body ∈ d.statuses ∧ d' = d.withTracker (d.run.tracker.receiveStatus (parseStatus body))
    | .engage now source reason unauthenticated =>
        d' = { d with plane := d.plane.engage now source reason unauthenticated .durable }
    | .engageAgent now id source reason unauthenticated =>
        d' = { d with plane := (d.plane.engageAgent now id source reason unauthenticated .durable).1 }
    | .restore now auth => ∃ plane, d.plane.restore now auth .durable = .ok plane ∧ d' = { d with plane := plane }
    | .restoreAgent now id auth =>
        ∃ plane, d.plane.restoreAgent now id auth .durable = .ok plane ∧ d' = { d with plane := plane }

end Deployment

/-! ### What answers say -/

section Answers

variable {s : KillSwitch} {agentId : JsString} {escalated : Bool}

/-- The body of a scoped kill carries the epoch. -/
theorem get_epoch_scopedKillBody :
    (s.scopedKillBody agentId escalated).get (js "epoch") = some (.num (.ofInt s.epoch)) := by
  cases escalated <;> rfl

/-- What is read off an answer is its epoch. -/
theorem parseLimitKillConfirmation_get {body : Json} {epoch : Nat}
    (h : parseLimitKillConfirmation body agentId = some epoch) :
    (body.get (js "epoch")).bind Json.safeNat? = some epoch := by
  unfold parseLimitKillConfirmation at h
  split at h
  · simp only at h
    split at h
    · cases h
    · split at h
      · rename_i killed epoch' _ hepoch
        rw [hepoch]
        split at h
        · cases h
        · split at h
          · cases h
          · split at h
            · cases h
            · exact h
      · cases h
  · cases h

theorem safeNat?_ofInt {n m : Nat} (h : (Json.num (.ofInt n)).safeNat? = some m) : m = n := by
  simp only [Json.safeNat?, Decimal.toInt?_ofInt, Option.bind_some] at h
  split at h
  · exact (Option.some.inj h).symm
  · cases h

/-- The epoch read off an answer is the one it was given at. -/
theorem parseLimitKillConfirmation_epoch {epoch : Nat}
    (h : parseLimitKillConfirmation (s.scopedKillBody agentId escalated) agentId = some epoch) :
    epoch = s.epoch := by
  have hget := parseLimitKillConfirmation_get h
  rw [get_epoch_scopedKillBody] at hget
  exact safeNat?_ofInt hget

theorem sortStrings_scoped : sortStrings [js "killed", js "epoch", js "killedAgent"]
    = [js "epoch", js "killed", js "killedAgent"] := by
  have hkilled : JsString.le (js "killed") (js "epoch") = false := by decide +kernel
  have hkey : JsString.le (js "epoch") (js "killedAgent") = true := by decide +kernel
  have hagent : JsString.le (js "killed") (js "killedAgent") = true := by decide +kernel
  simp [sortStrings, List.mergeSort, List.MergeSort.Internal.splitInTwo, hkilled, hkey, hagent]

/-- A durable scoped kill of an epoch the wire can carry is read off as such. -/
theorem parseLimitKillConfirmation_scoped (hdurable : s.persistenceDegraded = false)
    (hquarantine : s.quarantineFailed = false) (hpos : 0 < s.epoch) (hsafe : s.epoch ≤ Json.maxSafeInteger) :
    parseLimitKillConfirmation (s.scopedKillBody agentId false) agentId = some s.epoch := by
  have hbody : s.scopedKillBody agentId false = .obj [(js "killed", .bool s.killed),
      (js "epoch", .num (.ofInt s.epoch)), (js "killedAgent", .str agentId)] := by
    simp [KillSwitch.scopedKillBody, KillSwitch.degradedFields, hdurable, hquarantine, Json.present]
  have hkeys : joinStrings (js ",") [js "epoch", js "killed", js "killedAgent"] = js "epoch,killed,killedAgent" := by
    decide +kernel
  have hother : (js "epoch,killed,killedAgent" == js "epoch,escalatedToGlobal,killed") = false := by decide +kernel
  have hsafeNat : (Json.num (.ofInt s.epoch)).safeNat? = some s.epoch := by
    simp [Json.safeNat?, hsafe]
  have hkilled : (s.scopedKillBody agentId false).get (js "killed") = some (.bool s.killed) := rfl
  have hagent : (s.scopedKillBody agentId false).get (js "killedAgent") = some (.str agentId) := rfl
  have hepoch : ((s.scopedKillBody agentId false).get (js "epoch")).bind Json.safeNat? = some s.epoch := by
    rw [get_epoch_scopedKillBody]
    exact hsafeNat
  rw [hbody] at hkilled hagent hepoch ⊢
  simp only [parseLimitKillConfirmation, List.map_cons, List.map_nil, sortStrings_scoped, hkeys, hother, hkilled,
    hagent, hepoch, Option.bind_some, Json.bool?, Json.str?]
  simp [Nat.ne_of_gt hpos]

/-- Names that are read from texts are those texts. -/
theorem mapM_str_filter {entries agents : List JsString} {p : JsString → Bool}
    (h : (entries.map Json.str).mapM (fun entry => entry.str?.filter p) = some agents) : agents = entries := by
  induction entries generalizing agents with
  | nil =>
      rw [List.map_nil, List.mapM_nil] at h
      exact (Option.some.inj h).symm
  | cons entry entries ih =>
      rw [List.map_cons, List.mapM_cons] at h
      obtain ⟨first, hfirst, h⟩ := Option.bind_eq_some_iff.mp h
      obtain ⟨rest, hrest, h⟩ := Option.bind_eq_some_iff.mp h
      obtain rfl := Option.some.inj h
      obtain ⟨hentry, -⟩ := Option.filter_eq_some_iff.mp hfirst
      rw [ih hrest, ← Option.some.inj hentry]

/-- A status either fails closed, or says what its body says. -/
theorem parseStatus_cases (body : Json) :
    parseStatus body = .failClosed ∨
      ((body.get (js "killed")).bind Json.bool? = some (parseStatus body).killed ∧
        (∃ epoch, (body.get (js "epoch")).bind Json.safeNat? = some epoch ∧ (parseStatus body).epoch = some epoch) ∧
        parseKilledAgents (body.get (js "killedAgents")) = some (parseStatus body).killedAgents) := by
  unfold parseStatus
  split
  · rename_i killed epoch killedAgents hkilled hepoch hagents
    exact .inr ⟨hkilled, ⟨epoch, hepoch, rfl⟩, hagents⟩
  · exact .inl rfl

/-- A `/status` answer that does not stop everything shows the switch as it was. -/
theorem parseStatus_statusBody (h : (parseStatus s.statusBody).killed = false) :
    s.killed = false ∧ (parseStatus s.statusBody).epoch = some s.epoch ∧
      (parseStatus s.statusBody).killedAgents = s.killedAgents := by
  rcases parseStatus_cases s.statusBody with hfail | ⟨hkilled, ⟨epoch, hepoch, heq⟩, hagents⟩
  · rw [hfail] at h
    cases h
  · rw [h] at hkilled
    cases hs : s.killed with
    | true =>
        rw [KillSwitch.statusBody, if_pos hs] at hkilled
        cases hkilled
    | false =>
        have hbody : s.statusBody = .obj (Json.present
            ([(js "killed", some (.bool false)), (js "epoch", some (.num (.ofInt s.epoch))),
              (js "killedAgents", some (.arr (s.killedAgents.map .str)))] ++ s.degradedFields)) := by
          rw [KillSwitch.statusBody, if_neg (by simp [hs])]
        have hgetEpoch : s.statusBody.get (js "epoch") = some (.num (.ofInt s.epoch)) := by
          rw [hbody]
          rfl
        have hgetAgents : s.statusBody.get (js "killedAgents") = some (.arr (s.killedAgents.map .str)) := by
          rw [hbody]
          rfl
        rw [hgetEpoch] at hepoch
        rw [hgetAgents] at hagents
        refine ⟨rfl, by rw [heq, safeNat?_ofInt hepoch], ?_⟩
        unfold parseKilledAgents at hagents
        simp only at hagents
        split at hagents
        · cases hagents
        · exact mapM_str_filter hagents

end Answers

/-! ### The latch -/

namespace LimitTracker

variable {t : LimitTracker}

/-- A confirmation changes the latch of its own generation, and anchors it at the commit. -/
theorem confirmKillDelivered_latch (t : LimitTracker) (epoch : Int) (generation : Nat) :
    (t.confirmKillDelivered epoch generation).latch = t.latch ∨
      ∃ record, t.latch = .unconfirmed record ∧ generation = record.generation ∧
        (t.confirmKillDelivered epoch generation).latch
          = .confirmed { record with confirmed := true, epochFloor := some epoch } := by
  unfold confirmKillDelivered
  cases hlatch : t.latch with
  | armed => exact .inl hlatch
  | confirmed record => exact .inl hlatch
  | unconfirmed record =>
      simp only
      split
      · exact .inl hlatch
      · rename_i hgeneration
        split
        · exact .inl hlatch
        · split
          · exact .inl hlatch
          · refine .inr ⟨record, rfl, by simpa using hgeneration, ?_⟩
            simp

/-- Raising the floor keeps the generation. -/
theorem raiseFloor_generation (record : LatchedLimitTrip) (epoch : Option Int) :
    (raiseFloor record epoch).generation = record.generation := by
  unfold raiseFloor
  split
  · rfl
  · split <;> rfl

theorem raiseFloor_agentId (record : LatchedLimitTrip) (epoch : Option Int) :
    (raiseFloor record epoch).agentId = record.agentId := by
  unfold raiseFloor
  split
  · rfl
  · split <;> rfl

/-- Floors only go up. -/
theorem raiseFloor_epochFloor {record : LatchedLimitTrip} {floor : Int} (h : record.epochFloor = some floor)
    (epoch : Option Int) : ∃ floor', (raiseFloor record epoch).epochFloor = some floor' ∧ floor ≤ floor' := by
  unfold raiseFloor
  split
  · exact ⟨floor, h, le_refl _⟩
  · rename_i e
    split
    · rename_i hlt
      rw [h, Option.all_some, decide_eq_true_eq] at hlt
      exact ⟨e, rfl, le_of_lt hlt⟩
    · exact ⟨floor, h, le_refl _⟩

end LimitTracker

section Steps

variable {regExpTest : JsString → JsString → Bool} {rules : List LimitRule} {maxEvents : Nat} {agentId : JsString}
  {d d' : LimitDeployment} {step : DeploymentStep}

/-- The tracker's part of a step is a step of the tracker, or none. -/
theorem deployment_run_next (h : (deploymentRuns regExpTest rules maxEvents agentId).next d step d') :
    d'.run = d.run ∨ ∃ step', (limitRuns regExpTest rules maxEvents).next d.run step' d'.run := by
  cases step with
  | observeCall call epoch a now =>
      obtain ⟨htripped, -, ha, hnow, rfl⟩ := h
      exact .inr ⟨.observeCall call epoch a now, htripped, ha, hnow, rfl⟩
  | observeError call epoch a now =>
      obtain ⟨-, ha, hnow, rfl⟩ := h
      exact .inr ⟨.observeError call epoch a now, ha, hnow, rfl⟩
  | receiveReport report now =>
      obtain ⟨-, -, rfl⟩ := h
      exact .inl rfl
  | receiveAnswer generation body =>
      obtain ⟨-, rfl⟩ := h
      unfold LimitDeployment.withTracker LimitTracker.receiveAnswer
      cases parseLimitKillConfirmation body agentId with
      | none => exact .inl rfl
      | some epoch => exact .inr ⟨.confirmKillDelivered epoch generation, rfl⟩
  | status =>
      obtain rfl := h
      exact .inl rfl
  | receiveStatus body =>
      obtain ⟨-, rfl⟩ := h
      unfold LimitDeployment.withTracker LimitTracker.receiveStatus
      cases (parseStatus body).killed with
      | true => exact .inl rfl
      | false => exact .inr ⟨.observeKillState _ _ _, rfl⟩
  | engage now source reason unauthenticated =>
      obtain rfl := h
      exact .inl rfl
  | engageAgent now id source reason unauthenticated =>
      obtain rfl := h
      exact .inl rfl
  | restore now auth =>
      obtain ⟨plane, -, rfl⟩ := h
      exact .inl rfl
  | restoreAgent now id auth =>
      obtain ⟨plane, -, rfl⟩ := h
      exact .inl rfl

/-- The tracker of a deployment is a sound run of its own. -/
theorem exec_deployment_sound {es : List (Lts.Edge LimitDeployment DeploymentStep)}
    (h : (deploymentRuns regExpTest rules maxEvents agentId).Exec es d) : Sound rules d.run := by
  refine h.invariant (P := fun d => Sound rules d.run) ⟨?_, ?_⟩
  · rintro ⟨⟨tracker, clock⟩, plane, reports, answers, statuses⟩ ⟨rfl, -⟩
    exact sound_new rules maxEvents clock
  · intro d step d' hsound hnext
    rcases deployment_run_next hnext with heq | ⟨step', hstep⟩
    · rw [heq]
      exact hsound
    · exact hsound.next hstep

/-- What a step does to the switch: its epoch does not fall, a scoped kill of the agent ends with a restore of
    the agent only, and a global one with a global restore only. -/
theorem plane_next (h : (deploymentRuns regExpTest rules maxEvents agentId).next d step d') :
    d.plane.epoch ≤ d'.plane.epoch ∧
      (∀ id, d.plane.agentKilled id = true → d'.plane.agentKilled id = false →
        ∃ now auth, step = .restoreAgent now id auth) ∧
      (d.plane.killed = true → d'.plane.killed = false → ∃ now auth, step = .restore now auth) := by
  have hkept : d'.plane = d.plane → d.plane.epoch ≤ d'.plane.epoch ∧
      (∀ id, d.plane.agentKilled id = true → d'.plane.agentKilled id = false →
        ∃ now auth, step = .restoreAgent now id auth) ∧
      (d.plane.killed = true → d'.plane.killed = false → ∃ now auth, step = .restore now auth) := by
    intro heq
    rw [heq]
    exact ⟨le_refl _, fun _ hk hn => by simp [hk] at hn, fun hk hn => by simp [hk] at hn⟩
  have hengaged : ∀ now id source reason unauthenticated,
      d'.plane = (d.plane.engageAgent now id source reason unauthenticated .durable).1 →
      d.plane.epoch ≤ d'.plane.epoch ∧
      (∀ id, d.plane.agentKilled id = true → d'.plane.agentKilled id = false →
        ∃ now auth, step = .restoreAgent now id auth) ∧
      (d.plane.killed = true → d'.plane.killed = false → ∃ now auth, step = .restore now auth) := by
    intro now id source reason unauthenticated heq
    rw [heq, KillSwitch.engageAgent_epoch]
    refine ⟨Nat.le_succ _, fun id' hk hn => ?_, fun hk hn => ?_⟩
    · rcases d.plane.engageAgent_cases now id source reason unauthenticated .durable with
        ⟨-, -, hmap⟩ | ⟨-, -, event, hmap⟩
      · rw [KillSwitch.agentKilled, hmap] at hn
        rw [KillSwitch.agentKilled, hn] at hk
        cases hk
      · rw [KillSwitch.agentKilled, hmap, JsMap.has_set] at hn
        rw [KillSwitch.agentKilled] at hk
        simp [hk] at hn
    · rcases d.plane.engageAgent_cases now id source reason unauthenticated .durable with
        ⟨-, hkilled, -⟩ | ⟨-, hkilled, -⟩
      · rw [hkilled] at hn
        cases hn
      · rw [hkilled, hk] at hn
        cases hn
  cases step with
  | observeCall call epoch a now =>
      obtain ⟨-, -, -, -, rfl⟩ := h
      exact hkept rfl
  | observeError call epoch a now =>
      obtain ⟨-, -, -, rfl⟩ := h
      exact hkept rfl
  | receiveReport report now =>
      obtain ⟨-, -, rfl⟩ := h
      exact hengaged _ _ _ _ _ rfl
  | receiveAnswer generation body =>
      obtain ⟨-, rfl⟩ := h
      exact hkept rfl
  | status =>
      obtain rfl := h
      exact hkept rfl
  | receiveStatus body =>
      obtain ⟨-, rfl⟩ := h
      exact hkept rfl
  | engage now source reason unauthenticated =>
      obtain rfl := h
      refine ⟨?_, fun id hk hn => ?_, fun _ hn => ?_⟩
      · simp
      · rw [KillSwitch.agentKilled] at hk hn
        simp [hk] at hn
      · simp at hn
  | engageAgent now id source reason unauthenticated =>
      obtain rfl := h
      exact hengaged _ _ _ _ _ rfl
  | restore now auth =>
      obtain ⟨plane, hrestore, rfl⟩ := h
      have hok := KillSwitch.restore_ok hrestore
      refine ⟨le_of_eq hok.epoch.symm, fun id hk hn => ?_, fun _ _ => ⟨now, auth, rfl⟩⟩
      rw [KillSwitch.agentKilled, hok.agentKillMap] at hn
      rw [KillSwitch.agentKilled, hn] at hk
      cases hk
  | restoreAgent now id auth =>
      obtain ⟨plane, hrestore, rfl⟩ := h
      have hok := KillSwitch.restoreAgent_ok hrestore
      refine ⟨le_of_eq hok.epoch.symm, fun id' hk hn => ?_, fun hk hn => ?_⟩
      · by_cases hid : id' = id
        · exact ⟨now, auth, by rw [hid]⟩
        · rw [KillSwitch.agentKilled, hok.agentKillMap, JsMap.has_delete] at hn
          rw [KillSwitch.agentKilled] at hk
          simp [hk, hid] at hn
      · rw [hok.killed, hk] at hn
        cases hn

/-- What a step does to the latch, whose record is this agent's. -/
inductive LatchStep (agentId : JsString) (d : LimitDeployment) (step : DeploymentStep) (d' : LimitDeployment) :
    Prop where
  | same (h : d'.run.tracker.latch = d.run.tracker.latch)
  | latched (record : LatchedLimitTrip) (hsrc : d.run.tracker.latch = .armed)
      (hdst : d'.run.tracker.latch = .unconfirmed record) (hagent : record.agentId = agentId)
  | confirmed (record : LatchedLimitTrip) (body : Json) (epoch : Nat)
      (hsrc : d.run.tracker.latch = .unconfirmed record) (hstep : step = .receiveAnswer record.generation body)
      (hanswer : (record.generation, body) ∈ d.answers)
      (hparse : parseLimitKillConfirmation body agentId = some epoch)
      (hdst : d'.run.tracker.latch = .confirmed { record with confirmed := true, epochFloor := some (epoch : Int) })
  | raised (record : LatchedLimitTrip) (epoch : Option Int) (hsrc : d.run.tracker.latch = .confirmed record)
      (hdst : d'.run.tracker.latch = .confirmed (LimitTracker.raiseFloor record epoch))
  | released (record : LatchedLimitTrip) (body : Json) (floor : Int) (epoch : Nat)
      (hsrc : d.run.tracker.latch = .confirmed record) (hdst : d'.run.tracker.latch = .armed)
      (hstatus : body ∈ d.statuses) (hkilled : (parseStatus body).killed = false)
      (habsent : record.agentId ∉ (parseStatus body).killedAgents) (hfloor : record.epochFloor = some floor)
      (hepoch : (parseStatus body).epoch = some epoch) (hle : floor ≤ epoch)

/-- A call that is observed sets the latch, or leaves it. -/
theorem latchStep_observe {call : ToolCall} {metrics : List LimitMetric} {epoch : Option Int} {a now : ℚ}
    (hsound : Sound rules d.run) (hagent : call.agentId = agentId)
    (h : d'.run.tracker = (d.run.tracker.observe regExpTest call metrics epoch a now).1) :
    LatchStep agentId d step d' := by
  by_cases harmed : d.run.tracker.latch = .armed
  · rcases LimitTracker.observe_armed regExpTest call metrics epoch a now hsound.inRange harmed with
      ⟨-, -, hlatch, -⟩ | ⟨-, record, hlatch, hrecord, -⟩
    · apply LatchStep.same
      rw [h, hlatch, harmed]
    · apply LatchStep.latched record harmed
      · rw [h, hlatch]
      · rw [hrecord, hagent]
  · apply LatchStep.same
    rw [h]
    exact (LimitTracker.observe_latched regExpTest call metrics epoch a now hsound.inRange harmed).1

/-- A step does nothing else to the latch. -/
theorem latchStep_next (hsound : Sound rules d.run)
    (h : (deploymentRuns regExpTest rules maxEvents agentId).next d step d') : LatchStep agentId d step d' := by
  cases step with
  | observeCall call epoch a now =>
      obtain ⟨-, hagent, -, -, rfl⟩ := h
      exact latchStep_observe hsound hagent rfl
  | observeError call epoch a now =>
      obtain ⟨hagent, -, -, rfl⟩ := h
      exact latchStep_observe hsound hagent rfl
  | receiveReport report now =>
      obtain ⟨-, -, rfl⟩ := h
      exact .same rfl
  | receiveAnswer generation body =>
      obtain ⟨hanswer, rfl⟩ := h
      cases hparse : parseLimitKillConfirmation body agentId with
      | none =>
          apply LatchStep.same
          simp only [LimitDeployment.withTracker, LimitTracker.receiveAnswer, hparse]
      | some epoch =>
          rcases d.run.tracker.confirmKillDelivered_latch epoch generation with hsame | ⟨record, hsrc, rfl, hdst⟩
          · apply LatchStep.same
            simpa only [LimitDeployment.withTracker, LimitTracker.receiveAnswer, hparse] using hsame
          · apply LatchStep.confirmed record body epoch hsrc rfl hanswer hparse
            simpa only [LimitDeployment.withTracker, LimitTracker.receiveAnswer, hparse] using hdst
  | status =>
      obtain rfl := h
      exact .same rfl
  | receiveStatus body =>
      obtain ⟨hstatus, rfl⟩ := h
      cases hkilled : (parseStatus body).killed with
      | true =>
          apply LatchStep.same
          simp [LimitDeployment.withTracker, LimitTracker.receiveStatus, hkilled]
      | false =>
          have htracker : (d.withTracker (d.run.tracker.receiveStatus (parseStatus body))).run.tracker
              = d.run.tracker.observeKillState (parseStatus body).killedAgents
                ((parseStatus body).epoch.map Int.ofNat) (parseStatus body).durable := by
            simp [LimitDeployment.withTracker, LimitTracker.receiveStatus, hkilled]
          by_cases hconfirmed : ∃ record, d.run.tracker.latch = .confirmed record
          · obtain ⟨record, hsrc⟩ := hconfirmed
            rcases LimitTracker.observeKillState_confirmed hsrc with
              heq | heq | ⟨-, habsent, ⟨floor, e, hfloor, hepoch, hle⟩, heq⟩
            · apply LatchStep.same
              rw [htracker, heq]
              exact Latching.rememberEpoch_latch ..
            · apply LatchStep.raised record _ hsrc
              rw [htracker, heq]
            · obtain ⟨epoch, hepoch', rfl⟩ := Option.map_eq_some_iff.mp hepoch
              apply LatchStep.released record body floor epoch hsrc _ hstatus hkilled habsent hfloor hepoch' hle
              rw [htracker, heq]
              rfl
          · apply LatchStep.same
            rw [htracker, LimitTracker.observeKillState_unconfirmed fun record hr => hconfirmed ⟨record, hr⟩]
            exact Latching.rememberEpoch_latch ..
  | engage now source reason unauthenticated =>
      obtain rfl := h
      exact .same rfl
  | engageAgent now id source reason unauthenticated =>
      obtain rfl := h
      exact .same rfl
  | restore now auth =>
      obtain ⟨plane, -, rfl⟩ := h
      exact .same rfl
  | restoreAgent now id auth =>
      obtain ⟨plane, -, rfl⟩ := h
      exact .same rfl

end Steps

/-! ### Runs -/

section Runs

variable {regExpTest : JsString → JsString → Bool} {rules : List LimitRule} {maxEvents : Nat} {agentId : JsString}
  {d d' : LimitDeployment} {step : DeploymentStep} {es : List (Lts.Edge LimitDeployment DeploymentStep)}

/-- The step commits a report of this generation at the control plane, and `body` answers it. -/
structure Commits (agentId : JsString) (c : Lts.Edge LimitDeployment DeploymentStep) (generation : Nat)
    (body : Json) (escalated : Bool) : Prop where
  report : ∃ report now, c.label = .receiveReport report now ∧ report ∈ c.src.reports ∧
    report.generation = generation
  body_eq : body = c.dst.plane.scopedKillBody agentId escalated
  epoch : c.dst.plane.epoch = c.src.plane.epoch + 1
  kills : if escalated then c.dst.plane.killed = true else c.dst.plane.agentKilled agentId = true

/-- The step confirms a latch of this generation by an answer to a commit before it, and the floor is no lower
    than the epoch of that commit. -/
structure Confirmed (agentId : JsString) (es : List (Lts.Edge LimitDeployment DeploymentStep))
    (record : LatchedLimitTrip) (c k : Lts.Edge LimitDeployment DeploymentStep) (escalated : Bool) : Prop where
  order : Lts.Precedes es c k
  commits : ∃ body, Commits agentId c record.generation body escalated ∧
    k.label = .receiveAnswer record.generation body ∧
    parseLimitKillConfirmation body agentId = some c.dst.plane.epoch
  floor : ∃ floor, record.epochFloor = some floor ∧ (c.dst.plane.epoch : Int) ≤ floor

/-- A confirmation stays one as the run goes on. -/
theorem Confirmed.append {record : LatchedLimitTrip} {c k : Lts.Edge LimitDeployment DeploymentStep}
    {escalated : Bool} (h : Confirmed agentId es record c k escalated)
    (fs : List (Lts.Edge LimitDeployment DeploymentStep)) : Confirmed agentId (es ++ fs) record c k escalated :=
  ⟨h.order.append, h.commits, h.floor⟩

/-- Every answer, every status and every confirmation has its origin in the run. -/
structure Traced (agentId : JsString) (es : List (Lts.Edge LimitDeployment DeploymentStep)) (d : LimitDeployment) :
    Prop where
  answers : ∀ generation body, (generation, body) ∈ d.answers →
    ∃ c ∈ es, ∃ escalated, Commits agentId c generation body escalated
  statuses : ∀ body ∈ d.statuses, ∃ s ∈ es, s.label = .status ∧ body = s.src.plane.statusBody
  owned : ∀ record, d.run.tracker.killTripped = some record → record.agentId = agentId
  confirmed : ∀ record, d.run.tracker.latch = .confirmed record →
    ∃ c k escalated, Confirmed agentId es record c k escalated

/-- A report that reaches the control plane is committed there. -/
theorem commits_receiveReport {report : KillReport} {now : Int}
    (h : (deploymentRuns regExpTest rules maxEvents agentId).next d (.receiveReport report now) d') :
    ∃ body escalated, d'.answers = d.answers ++ [(report.generation, body)] ∧
      Commits agentId ⟨d, .receiveReport report now, d'⟩ report.generation body escalated := by
  obtain ⟨hreport, -, rfl⟩ := h
  have hkills := d.plane.engageAgent_kills now agentId .limit (some report.reason) false .durable
  exact ⟨_, (d.plane.engageAgent now agentId .limit (some report.reason) false .durable).2, rfl,
    ⟨report, now, rfl, hreport, rfl⟩, rfl, KillSwitch.engageAgent_epoch, hkills⟩

/-- Any other step adds no answer. -/
theorem answers_next (h : (deploymentRuns regExpTest rules maxEvents agentId).next d step d')
    (hstep : ∀ report now, step ≠ .receiveReport report now) : d'.answers = d.answers := by
  cases step with
  | receiveReport report now => exact absurd rfl (hstep report now)
  | observeCall call epoch a now =>
      obtain ⟨-, -, -, -, rfl⟩ := h
      rfl
  | observeError call epoch a now =>
      obtain ⟨-, -, -, rfl⟩ := h
      rfl
  | receiveAnswer generation body =>
      obtain ⟨-, rfl⟩ := h
      rfl
  | status =>
      obtain rfl := h
      rfl
  | receiveStatus body =>
      obtain ⟨-, rfl⟩ := h
      rfl
  | engage now source reason unauthenticated =>
      obtain rfl := h
      rfl
  | engageAgent now id source reason unauthenticated =>
      obtain rfl := h
      rfl
  | restore now auth =>
      obtain ⟨plane, -, rfl⟩ := h
      rfl
  | restoreAgent now id auth =>
      obtain ⟨plane, -, rfl⟩ := h
      rfl

/-- A status is put on the network by the step that makes it only. -/
theorem statuses_next (h : (deploymentRuns regExpTest rules maxEvents agentId).next d step d') :
    d'.statuses = d.statuses ∨ (step = .status ∧ d'.statuses = d.statuses ++ [d.plane.statusBody]) := by
  cases step with
  | status =>
      obtain rfl := h
      exact .inr ⟨rfl, rfl⟩
  | receiveReport report now =>
      obtain ⟨-, -, rfl⟩ := h
      exact .inl rfl
  | observeCall call epoch a now =>
      obtain ⟨-, -, -, -, rfl⟩ := h
      exact .inl rfl
  | observeError call epoch a now =>
      obtain ⟨-, -, -, rfl⟩ := h
      exact .inl rfl
  | receiveAnswer generation body =>
      obtain ⟨-, rfl⟩ := h
      exact .inl rfl
  | receiveStatus body =>
      obtain ⟨-, rfl⟩ := h
      exact .inl rfl
  | engage now source reason unauthenticated =>
      obtain rfl := h
      exact .inl rfl
  | engageAgent now id source reason unauthenticated =>
      obtain rfl := h
      exact .inl rfl
  | restore now auth =>
      obtain ⟨plane, -, rfl⟩ := h
      exact .inl rfl
  | restoreAgent now id auth =>
      obtain ⟨plane, -, rfl⟩ := h
      exact .inl rfl

/-- A confirmation that is read says the epoch the plane had. -/
theorem Commits.parsed {c : Lts.Edge LimitDeployment DeploymentStep} {generation : Nat} {body : Json}
    {escalated : Bool} (h : Commits agentId c generation body escalated) {epoch : Nat}
    (hparse : parseLimitKillConfirmation body agentId = some epoch) : epoch = c.dst.plane.epoch := by
  rw [h.body_eq] at hparse
  exact parseLimitKillConfirmation_epoch hparse

/-- In every run the answers, the statuses and the confirmations have their origin in it. -/
theorem exec_traced (h : (deploymentRuns regExpTest rules maxEvents agentId).Exec es d) :
    Traced agentId es d := by
  apply h.induct (I := Traced agentId)
  · rintro ⟨⟨tracker, clock⟩, plane, reports, answers, statuses⟩ ⟨rfl, -, -, -, rfl, rfl⟩
    constructor
    · simp
    · simp
    · rintro record ⟨⟩
    · rintro record ⟨⟩
  · intro es d step d' hexec ih hnext
    have hlatch := latchStep_next (exec_deployment_sound hexec) hnext
    constructor
    · intro generation body hmem
      by_cases hreport : ∃ report now, step = .receiveReport report now
      · obtain ⟨report, now, rfl⟩ := hreport
        obtain ⟨body', escalated, hanswers, hcommits⟩ := commits_receiveReport hnext
        rw [hanswers, List.mem_append, List.mem_singleton] at hmem
        rcases hmem with hmem | hmem
        · obtain ⟨c, hc, hcommits⟩ := ih.answers generation body hmem
          exact ⟨c, List.mem_append_left _ hc, hcommits⟩
        · obtain ⟨rfl, rfl⟩ := Prod.mk.inj hmem
          exact ⟨_, List.mem_append_right _ (List.mem_singleton_self _), escalated, hcommits⟩
      · rw [answers_next hnext fun report now heq => hreport ⟨report, now, heq⟩] at hmem
        obtain ⟨c, hc, hcommits⟩ := ih.answers generation body hmem
        exact ⟨c, List.mem_append_left _ hc, hcommits⟩
    · intro body hmem
      rcases statuses_next hnext with heq | ⟨rfl, heq⟩
      · obtain ⟨s, hs, hstatus⟩ := ih.statuses body (heq ▸ hmem)
        exact ⟨s, List.mem_append_left _ hs, hstatus⟩
      · rw [heq, List.mem_append, List.mem_singleton] at hmem
        rcases hmem with hmem | rfl
        · obtain ⟨s, hs, hstatus⟩ := ih.statuses body hmem
          exact ⟨s, List.mem_append_left _ hs, hstatus⟩
        · exact ⟨_, List.mem_append_right _ (List.mem_singleton_self _), rfl, rfl⟩
    · intro record hrecord
      have howned := ih.owned
      unfold LimitTracker.killTripped at hrecord howned
      cases hlatch with
      | same hsame =>
          rw [hsame] at hrecord
          exact howned record hrecord
      | latched record' hsrc hdst hagent =>
          rw [hdst] at hrecord
          obtain rfl := Option.some.inj hrecord
          exact hagent
      | confirmed record' body epoch hsrc hstep hanswer hparse hdst =>
          rw [hdst] at hrecord
          obtain rfl := Option.some.inj hrecord
          exact howned record' (by rw [hsrc])
      | raised record' epoch hsrc hdst =>
          rw [hdst] at hrecord
          obtain rfl := Option.some.inj hrecord
          rw [LimitTracker.raiseFloor_agentId]
          exact howned record' (by rw [hsrc])
      | released record' body floor epoch hsrc hdst =>
          rw [hdst] at hrecord
          cases hrecord
    · intro record hrecord
      cases hlatch with
      | same hsame =>
          obtain ⟨c, k, escalated, hconfirmed⟩ := ih.confirmed record (hsame ▸ hrecord)
          exact ⟨c, k, escalated, hconfirmed.append _⟩
      | latched record' hsrc hdst hagent =>
          rw [hdst] at hrecord
          cases hrecord
      | confirmed record' body epoch hsrc hstep hanswer hparse hdst =>
          rw [hdst] at hrecord
          obtain rfl := LatchState.confirmed.inj hrecord
          obtain ⟨c, hc, escalated, hcommits⟩ := ih.answers _ _ hanswer
          obtain rfl := hcommits.parsed hparse
          refine ⟨c, ⟨d, step, d'⟩, escalated, Lts.precedes_snoc hc, ⟨body, hcommits, hstep, hparse⟩, ?_⟩
          exact ⟨_, rfl, le_refl _⟩
      | raised record' epoch hsrc hdst =>
          rw [hdst] at hrecord
          obtain rfl := LatchState.confirmed.inj hrecord
          obtain ⟨c, k, escalated, horder, hcommits, floor, hfloor, hle⟩ := ih.confirmed record' hsrc
          obtain ⟨floor', hfloor', hle'⟩ := LimitTracker.raiseFloor_epochFloor hfloor epoch
          refine ⟨c, k, escalated, horder.append, ?_, floor', hfloor', hle.trans hle'⟩
          rw [LimitTracker.raiseFloor_generation]
          exact hcommits
      | released record' body floor epoch hsrc hdst =>
          rw [hdst] at hrecord
          cases hrecord

/-- The edge is a restore that lifts a scoped kill of the agent, or, where the kill was escalated, the global
    one. -/
def Restores (agentId : JsString) (x : Lts.Edge LimitDeployment DeploymentStep) (escalated : Bool) : Prop :=
  if escalated then ∃ now auth, x.label = .restore now auth
  else ∃ now auth, x.label = .restoreAgent now agentId auth

/-- What a run up to a step says of it. -/
structure OwnRestore (agentId : JsString) (pre : List (Lts.Edge LimitDeployment DeploymentStep))
    (e : Lts.Edge LimitDeployment DeploymentStep) : Prop where
  /-- A latch is released after its own kill was committed, confirmed with the epoch of that commit, and then
      restored. -/
  released : e.src.run.tracker.latch ≠ .armed → e.dst.run.tracker.latch = .armed →
    ∃ record, e.src.run.tracker.latch = .confirmed record ∧
      ∃ c k escalated, Confirmed agentId pre record c k escalated ∧
        ∃ x, Restores agentId x escalated ∧ Lts.Precedes pre c x
  /-- A latch that is not confirmed stays so, but for an answer to its own report, committed before. -/
  unconfirmed : ∀ record, e.src.run.tracker.latch = .unconfirmed record →
    e.dst.run.tracker.latch = .unconfirmed record ∨
      ∃ body, e.label = .receiveAnswer record.generation body ∧
        ∃ c ∈ pre, (∃ escalated, Commits agentId c record.generation body escalated) ∧
          e.dst.run.tracker.latch
            = .confirmed { record with confirmed := true, epochFloor := some (c.dst.plane.epoch : Int) }

/-- A restore lies between a commit and a later status that shows its kill gone. -/
theorem restore_between (h : (deploymentRuns regExpTest rules maxEvents agentId).Exec es d)
    {c s : Lts.Edge LimitDeployment DeploymentStep} (hc : c ∈ es) (hs : s ∈ es) {generation : Nat} {body : Json}
    {escalated : Bool} (hcommits : Commits agentId c generation body escalated) (hstatus : s.label = .status)
    (hkilled : s.src.plane.killed = false) (habsent : s.src.plane.agentKilled agentId = false)
    (hepoch : c.dst.plane.epoch ≤ s.src.plane.epoch) :
    ∃ x, Restores agentId x escalated ∧ Lts.Precedes es c x := by
  have hmono : ∀ d step d', (deploymentRuns regExpTest rules maxEvents agentId).next d step d' →
      d.plane.epoch ≤ d'.plane.epoch := fun _ _ _ hnext => (plane_next hnext).1
  have hcs : Lts.Precedes es c s := by
    rcases Lts.precedes_or hc hs with hcs | rfl | hsc
    · exact hcs
    · obtain ⟨report, now, hlabel, -⟩ := hcommits.report
      rw [hlabel] at hstatus
      cases hstatus
    · have hlater := h.monotone_between (g := fun d => d.plane.epoch) hmono hsc
      have hown := hmono _ _ _ (h.next_of_mem hs)
      have hcommit := hcommits.epoch
      omega
  cases escalated with
  | true =>
      have hkills : c.dst.plane.killed = true := hcommits.kills
      obtain ⟨x, hcx, -, hsrc, hdst⟩ := h.lost_between (P := fun d => d.plane.killed = true) hcs hkills
        (by simp [hkilled])
      obtain ⟨pre, mid, post, heq⟩ := hcx
      have hx := h.next_of_mem (e := x) (by simp [heq])
      exact ⟨x, (plane_next hx).2.2 hsrc (by simpa using hdst), pre, mid, post, heq⟩
  | false =>
      have hkills : c.dst.plane.agentKilled agentId = true := hcommits.kills
      obtain ⟨x, hcx, -, hsrc, hdst⟩ := h.lost_between (P := fun d => d.plane.agentKilled agentId = true) hcs hkills
        (by simp [habsent])
      obtain ⟨pre, mid, post, heq⟩ := hcx
      have hx := h.next_of_mem (e := x) (by simp [heq])
      exact ⟨x, (plane_next hx).2.1 agentId hsrc (by simpa using hdst), pre, mid, post, heq⟩

/-- A latch is released only by a restore of its own kill. -/
theorem latch_own_restore {pre post : List (Lts.Edge LimitDeployment DeploymentStep)}
    {e : Lts.Edge LimitDeployment DeploymentStep}
    (h : (deploymentRuns regExpTest rules maxEvents agentId).Exec (pre ++ e :: post) d) :
    OwnRestore agentId pre e := by
  obtain ⟨hpre, hnext, -⟩ := h.split
  have htraced := exec_traced hpre
  have hlatch := latchStep_next (exec_deployment_sound hpre) hnext
  constructor
  · intro hsrc hdst
    cases hlatch with
    | same hsame => exact absurd (hsame ▸ hdst) hsrc
    | latched record hsrc' => exact absurd hsrc' hsrc
    | confirmed record body epoch _ _ _ _ hdst' =>
        rw [hdst'] at hdst
        cases hdst
    | raised record epoch _ hdst' =>
        rw [hdst'] at hdst
        cases hdst
    | released record body floor epoch hsrc' _ hstatus hkilled habsent hfloor hepoch hle =>
        obtain ⟨c, k, escalated, hconfirmed⟩ := htraced.confirmed record hsrc'
        obtain ⟨s, hs, hlabel, rfl⟩ := htraced.statuses body hstatus
        obtain ⟨hnotKilled, hseenEpoch, hseenAgents⟩ := parseStatus_statusBody hkilled
        obtain ⟨body', hcommits, -, -⟩ := hconfirmed.commits
        obtain ⟨floor', hfloor', hcommitFloor⟩ := hconfirmed.floor
        refine ⟨record, hsrc', c, k, escalated, hconfirmed, ?_⟩
        have hc : c ∈ pre := by
          obtain ⟨a, b, z, rfl⟩ := hconfirmed.order
          simp
        apply restore_between hpre hc hs hcommits hlabel hnotKilled
        · have howned := htraced.owned record (by simp [LimitTracker.killTripped, hsrc'])
          rw [hseenAgents, howned, KillSwitch.killedAgents, JsMap.mem_keys] at habsent
          simpa [KillSwitch.agentKilled] using habsent
        · rw [hseenEpoch] at hepoch
          obtain rfl := Option.some.inj hepoch
          rw [hfloor] at hfloor'
          obtain rfl := Option.some.inj hfloor'
          omega
  · intro record hsrc
    cases hlatch with
    | same hsame => exact .inl (hsame.trans hsrc)
    | latched record' hsrc' =>
        rw [hsrc] at hsrc'
        cases hsrc'
    | confirmed record' body epoch hsrc' hstep hanswer hparse hdst' =>
        rw [hsrc] at hsrc'
        obtain rfl := LatchState.unconfirmed.inj hsrc'
        obtain ⟨c, hc, escalated, hcommits⟩ := htraced.answers _ _ hanswer
        obtain rfl := hcommits.parsed hparse
        exact .inr ⟨body, hstep, c, hc, ⟨escalated, hcommits⟩, hdst'⟩
    | raised record' epoch hsrc' =>
        rw [hsrc] at hsrc'
        cases hsrc'
    | released record' body floor epoch hsrc' =>
        rw [hsrc] at hsrc'
        cases hsrc'

end Runs

/-! ### A latch reported, committed, confirmed, restored and released -/

/-- What a step that is enabled leads to. -/
def LimitDeployment.after (d : LimitDeployment) : DeploymentStep → LimitDeployment
  | .observeCall call epoch a now =>
      d.observed (js "agent-1") (d.run.tracker.observeCall sampleTest call epoch a now) now
  | .observeError call epoch a now =>
      d.observed (js "agent-1") (d.run.tracker.observeError sampleTest call epoch a now) now
  | .receiveReport report now =>
      let (plane, escalated) := d.plane.engageAgent now (js "agent-1") .limit (some report.reason) false .durable
      { d with
        plane := plane
        answers := d.answers ++ [(report.generation, plane.scopedKillBody (js "agent-1") escalated)] }
  | .receiveAnswer generation body => d.withTracker (d.run.tracker.receiveAnswer (js "agent-1") body generation)
  | .status => { d with statuses := d.statuses ++ [d.plane.statusBody] }
  | .receiveStatus body => d.withTracker (d.run.tracker.receiveStatus (parseStatus body))
  | .engage now source reason unauthenticated =>
      { d with plane := d.plane.engage now source reason unauthenticated .durable }
  | .engageAgent now id source reason unauthenticated =>
      { d with plane := (d.plane.engageAgent now id source reason unauthenticated .durable).1 }
  | .restore now auth => { d with plane := (d.plane.restore now auth .durable).toOption.getD d.plane }
  | .restoreAgent now id auth => { d with plane := (d.plane.restoreAgent now id auth .durable).toOption.getD d.plane }

/-- The edge of a step that is enabled. -/
def LimitDeployment.edge (d : LimitDeployment) (step : DeploymentStep) : Lts.Edge LimitDeployment DeploymentStep :=
  ⟨d, step, d.after step⟩

namespace LimitSample

def d₀ : LimitDeployment :=
  ⟨sampleStart, .fresh, [], [], []⟩

def d₁ : LimitDeployment :=
  d₀.after (.observeCall sampleCall (some 0) 0 0)

/-- The second call is over the limit. -/
def d₂ : LimitDeployment :=
  d₁.after (.observeCall sampleCall (some 0) 1 1)

def report : KillReport :=
  d₂.reports.headD ⟨0, []⟩

def d₃ : LimitDeployment :=
  d₂.after (.receiveReport report 5)

def answer : Json :=
  d₃.plane.scopedKillBody (js "agent-1") false

def d₄ : LimitDeployment :=
  d₃.after (.receiveAnswer 1 answer)

def auth : RestoreAuthorization :=
  ⟨js "ceremony-1", js "owner-1", 40000⟩

def d₅ : LimitDeployment :=
  d₄.after (.restoreAgent 40000 (js "agent-1") auth)

def d₆ : LimitDeployment :=
  d₅.after .status

def release : Lts.Edge LimitDeployment DeploymentStep :=
  d₆.edge (.receiveStatus d₅.plane.statusBody)

def pre : List (Lts.Edge LimitDeployment DeploymentStep) :=
  [d₀.edge (.observeCall sampleCall (some 0) 0 0), d₁.edge (.observeCall sampleCall (some 0) 1 1),
    d₂.edge (.receiveReport report 5), d₃.edge (.receiveAnswer 1 answer),
    d₄.edge (.restoreAgent 40000 (js "agent-1") auth), d₅.edge .status]

theorem exec_release :
    (deploymentRuns sampleTest [sampleRule] maxWindowEvents (js "agent-1")).Exec (pre ++ release :: []) release.dst := by
  have hstart : (deploymentRuns sampleTest [sampleRule] maxWindowEvents (js "agent-1")).Exec [] d₀ :=
    .nil ⟨rfl, rfl, rfl, rfl, rfl, rfl⟩
  have hfirst : d₀.run.tracker.killTripped = none := rfl
  have hsecond : d₁.run.tracker.killTripped = none := by decide +kernel
  have hgeneration : report.generation = 1 := by decide +kernel
  have hreport : report ∈ d₂.reports := by
    have hreports : d₂.reports.length = 1 := by decide +kernel
    obtain ⟨only, honly⟩ := List.length_eq_one_iff.mp hreports
    simp [report, honly]
  have hanswer : (1, answer) ∈ d₃.answers := by
    have hescalated : (d₂.plane.engageAgent 5 (js "agent-1") .limit (some report.reason) false .durable).2 = false := by
      decide +kernel
    have hanswers : d₃.answers = d₂.answers ++ [(report.generation, d₃.plane.scopedKillBody (js "agent-1")
        (d₂.plane.engageAgent 5 (js "agent-1") .limit (some report.reason) false .durable).2)] := rfl
    rw [hanswers, hgeneration, hescalated]
    exact List.mem_append_right _ (List.mem_singleton_self _)
  have hrestore : ∃ plane, d₄.plane.restoreAgent 40000 (js "agent-1") auth .durable = .ok plane ∧
      d₅ = { d₄ with plane := plane } := by
    have hrestored : (d₄.plane.restoreAgent 40000 (js "agent-1") auth .durable).isOk = true := by decide +kernel
    cases hok : d₄.plane.restoreAgent 40000 (js "agent-1") auth .durable with
    | error e =>
        rw [hok] at hrestored
        cases hrestored
    | ok plane =>
        refine ⟨plane, rfl, ?_⟩
        rw [d₅, LimitDeployment.after, hok]
        rfl
  refine .snoc (.snoc (.snoc (.snoc (.snoc (.snoc (.snoc hstart ?_) ?_) ?_) ?_) ?_) ?_) ?_
  · exact ⟨hfirst, rfl, le_refl _, le_refl _, rfl⟩
  · exact ⟨hsecond, rfl, zero_le_one, le_refl _, rfl⟩
  · exact ⟨hreport, by decide +kernel, rfl⟩
  · exact ⟨hanswer, rfl⟩
  · exact hrestore
  · rfl
  · exact ⟨List.mem_append_right _ (List.mem_singleton_self _), rfl⟩

/-- The last step of the sample run releases the latch. -/
theorem release_releases : release.src.run.tracker.latch ≠ .armed ∧ release.dst.run.tracker.latch = .armed := by
  have hparse : parseLimitKillConfirmation answer (js "agent-1") = some 1 :=
    parseLimitKillConfirmation_scoped (by decide +kernel) (by decide +kernel) (by decide +kernel) (by decide +kernel)
  have htracker : d₆.run.tracker = d₃.run.tracker.confirmKillDelivered 1 1 := by
    show (d₃.withTracker (d₃.run.tracker.receiveAnswer (js "agent-1") answer 1)).run.tracker = _
    rw [LimitTracker.receiveAnswer, hparse]
    rfl
  constructor
  · show d₆.run.tracker.latch ≠ .armed
    rw [htracker]
    decide +kernel
  · show (d₆.run.tracker.receiveStatus (parseStatus d₅.plane.statusBody)).latch = .armed
    rw [htracker]
    decide +kernel

end LimitSample

/-- A latch that was released, and the restore that did it. -/
theorem latch_own_restore_sample :
    (LimitSample.release.src.run.tracker.latch ≠ .armed ∧ LimitSample.release.dst.run.tracker.latch = .armed) ∧
      OwnRestore (js "agent-1") LimitSample.pre LimitSample.release :=
  ⟨LimitSample.release_releases, latch_own_restore LimitSample.exec_release⟩

end OwnerSwitch
