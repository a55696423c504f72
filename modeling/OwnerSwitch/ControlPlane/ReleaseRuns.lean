/-
Module: OwnerSwitch.ControlPlane.ReleaseRuns
Layer: ControlPlane
Purpose: A window is released on silence only over live evidence: an ack, by a device that still stands, of a delivery
  fetched for this very content, early enough before the deadline.
Imports: ControlPlane.PlaneRuns
Trusted boundary: those of ControlPlane.Plane; the ids drawn at random are fresh
Main exports: Fetches, AckedBy, LiveEvidence, release_has_evidence
Open obligations: none
-/
import OwnerSwitch.ControlPlane.PlaneRuns

namespace OwnerSwitch

/-! ### Evidence over one request -/

namespace VetoWindow

variable {w w' : VetoWindow} {witnessStanding : WitnessStanding} {now : Int} {ev : DeliveryEvidence}

/-- `w'` awaits the evidence that `w` awaited, at the same deadline, and is otherwise the same review. -/
structure StillAwaits (w w' : VetoWindow) (ev : DeliveryEvidence) : Prop where
  isOpen : w.status.isOpen = true
  delivered : w.delivered = some ev
  deadline : w'.deadline = w.deadline

/-- A tick that leaves a window open with evidence has left it as it was. -/
theorem tick_awaits (hopen : (w.tick witnessStanding now).status.isOpen = true)
    (hdelivered : (w.tick witnessStanding now).delivered = some ev) :
    StillAwaits w (w.tick witnessStanding now) ev := by
  have hticked := w.ticked witnessStanding now
  generalize w.tick witnessStanding now = result at hticked hopen hdelivered ⊢
  cases hticked with
  | idle => exact ⟨hopen, hdelivered, rfl⟩
  | released => cases hopen
  | extended => cases hdelivered
  | held => cases hopen

/-- A tick that releases a window does so at its deadline, over evidence that stands. -/
theorem tick_releases (hunreleased : w.status ≠ .released)
    (hreleased : (w.tick witnessStanding now).status = .released) :
    ∃ ev, w.status.isOpen = true ∧ w.delivered = some ev ∧ w.deadline ≤ now ∧
      witnessStanding ev.deliveredByDevice ev.deliveredByGeneration = true ∧
      (w.tick witnessStanding now).releasedAt = some w.deadline := by
  have hticked := w.ticked witnessStanding now
  generalize w.tick witnessStanding now = result at hticked hreleased ⊢
  cases hticked with
  | idle => exact absurd hreleased hunreleased
  | released ev hopen hdue hdelivered hstands => exact ⟨ev, hopen, hdelivered, hdue, hstands, rfl⟩
  | extended => cases hreleased
  | held => cases hreleased

theorem tick_undelivered (witnessStanding : WitnessStanding) (now : Int) (h : w.delivered = none) :
    (w.tick witnessStanding now).delivered = none := by
  have hticked := w.ticked witnessStanding now
  generalize w.tick witnessStanding now = result at hticked ⊢
  cases hticked with
  | idle => exact h
  | released ev hopen hdue hdelivered => rw [h] at hdelivered; cases hdelivered
  | extended => rfl
  | held => rfl

theorem markDelivered_undelivered (deviceId : Option JsString) (deviceGeneration : Option Nat) (now : Int)
    (h : w.delivered = none) :
    w.markDelivered deviceId deviceGeneration now = { w with delivered := some ⟨deviceId, deviceGeneration, now⟩ } := by
  rw [markDelivered, h]

theorem tick_of_not_open (h : w.status.isOpen = false) : w.tick witnessStanding now = w := by
  rw [tick, h]
  rfl

end VetoWindow

namespace Plane

open VetoWindow

variable {prim : Primitives} {opts : ServerOptions} {p p' : Plane} {now : Int} {request : Request} {reply : Reply}
  {id did : JsString} {w : VetoWindow} {ev : DeliveryEvidence}

/-- The first of a series of sweeps ticks the window, and clears at most its evidence. -/
theorem sweptWindow_cons (prim : Primitives) (p : Plane) (now : Int) (sweep : JsString × Devices)
    (sweeps : List (JsString × Devices)) (w : VetoWindow) :
    ∃ w', p.sweptWindow prim now (sweep :: sweeps) w = p.sweptWindow prim now sweeps w' ∧
      (w' = w.tick (sweep.2.witnessStanding prim.parseSpki p.killSwitch.killed) now ∨
        ((w.tick (sweep.2.witnessStanding prim.parseSpki p.killSwitch.killed) now).status.isOpen = true ∧
          w' = { w.tick (sweep.2.witnessStanding prim.parseSpki p.killSwitch.killed) now with delivered := none })) :=
  ⟨_, rfl, w.revokeDeliveryEvidence_cases _ now sweep.1⟩

/-- So has a series of sweeps. -/
theorem sweptWindow_awaits (sweeps : List (JsString × Devices))
    (hopen : (p.sweptWindow prim now sweeps w).status.isOpen = true)
    (hdelivered : (p.sweptWindow prim now sweeps w).delivered = some ev) :
    StillAwaits w (p.sweptWindow prim now sweeps w) ev := by
  induction sweeps generalizing w with
  | nil => exact ⟨hopen, hdelivered, rfl⟩
  | cons sweep sweeps ih =>
      obtain ⟨w', hrest, hfirst⟩ := sweptWindow_cons prim p now sweep sweeps w
      rw [hrest] at hopen hdelivered ⊢
      obtain ⟨hopen', hdelivered', hdeadline⟩ := ih hopen hdelivered
      rcases hfirst with rfl | ⟨-, rfl⟩
      · have hticked := tick_awaits hopen' hdelivered'
        exact ⟨hticked.isOpen, hticked.delivered, hdeadline.trans hticked.deadline⟩
      · cases hdelivered'

theorem sweptWindow_of_not_open (sweeps : List (JsString × Devices)) (h : w.status.isOpen = false) :
    p.sweptWindow prim now sweeps w = w := by
  induction sweeps generalizing w with
  | nil => rfl
  | cons sweep sweeps ih =>
      obtain ⟨w', hrest, hfirst⟩ := sweptWindow_cons prim p now sweep sweeps w
      rw [tick_of_not_open h] at hfirst
      rcases hfirst with rfl | ⟨hopen, -⟩
      · rw [hrest]
        exact ih h
      · rw [h] at hopen
        cases hopen

/-- A series of sweeps releases a window over evidence that stands during one of them. -/
theorem sweptWindow_releases (sweeps : List (JsString × Devices)) (hunreleased : w.status ≠ .released)
    (hreleased : (p.sweptWindow prim now sweeps w).status = .released) :
    ∃ ev sweep, sweep ∈ sweeps ∧ w.status.isOpen = true ∧ w.delivered = some ev ∧ w.deadline ≤ now ∧
      sweep.2.witnessStanding prim.parseSpki p.killSwitch.killed ev.deliveredByDevice ev.deliveredByGeneration = true ∧
      (p.sweptWindow prim now sweeps w).releasedAt = some w.deadline := by
  induction sweeps generalizing w with
  | nil => exact absurd hreleased hunreleased
  | cons sweep sweeps ih =>
      obtain ⟨w', hrest, hfirst⟩ := sweptWindow_cons prim p now sweep sweeps w
      rw [hrest] at hreleased ⊢
      rcases hfirst with rfl | ⟨hopen, rfl⟩
      · by_cases hnow : (w.tick (sweep.2.witnessStanding prim.parseSpki p.killSwitch.killed) now).status = .released
        · -- the tick of the first sweep releases it, and the others leave it
          obtain ⟨ev, hopen, hdelivered, hdue, hstands, hreleasedAt⟩ := tick_releases hunreleased hnow
          have hclosed : (w.tick (sweep.2.witnessStanding prim.parseSpki p.killSwitch.killed) now).status.isOpen
              = false := by
            rw [hnow]
            rfl
          rw [sweptWindow_of_not_open sweeps hclosed]
          exact ⟨ev, sweep, List.mem_cons_self, hopen, hdelivered, hdue, hstands, hreleasedAt⟩
        · obtain ⟨ev, sweep', hmem, hopen, hdelivered, hdue, hstands, hreleasedAt⟩ := ih hnow hreleased
          have hticked := tick_awaits hopen hdelivered
          rw [hticked.deadline] at hdue hreleasedAt
          exact ⟨ev, sweep', List.mem_cons_of_mem _ hmem, hticked.isOpen, hticked.delivered, hdue, hstands,
            hreleasedAt⟩
      · -- what has lost its evidence is not released by a later sweep
        have hstill : ({ w.tick (sweep.2.witnessStanding prim.parseSpki p.killSwitch.killed) now with
            delivered := none } : VetoWindow).status ≠ .released := by
          intro h
          rw [show (w.tick _ now).status = .released from h] at hopen
          cases hopen
        obtain ⟨ev, sweep', -, -, hdelivered, -⟩ := ih hstill hreleased
        cases hdelivered

/-! ### Deliveries over one request -/

/-- Where a delivery comes from that a request leaves. -/
inductive DeliveryMove (prim : Primitives) (p : Plane) (now : Int) (request : Request) (reply : Reply)
    (deliveryId : JsString) (delivery' : OwnerDelivery) : Prop where
  | kept (hget : p.ownerDeliveries.get? deliveryId = some delivery')
  | consumed {delivery} (hget : p.ownerDeliveries.get? deliveryId = some delivery)
      (hdelivery : delivery' = { delivery with consumed := true })
  | fetched {ownerDevice w display minted} (hex : JsString)
      (hrequest : request = .vetoDetail ownerDevice delivery'.windowId hex)
      (hdevice : p.validOwnerDeviceId prim ownerDevice = some delivery'.deviceId)
      (hget : p.vetoWindows.get? delivery'.windowId = some w)
      (hreply : reply = .detail delivery'.windowId display (w.tick (p.witnessStanding prim) now).status
        delivery'.revision (w.tick (p.witnessStanding prim) now).deadline (some minted))
      (hid : deliveryId = js "del_" ++ hex) (hnamed : minted.deliveryId = deliveryId)
      (hhash : minted.renderContentHash = delivery'.renderHash)
      (hcall : delivery'.callHash = prim.callHashOf w) (hfresh : delivery'.consumed = false)

theorem DeliveryMove.of_adopt {ρ : Type} {r : Handled ρ} {o : StoreOutcome} {delivery : OwnerDelivery}
    (hget : (p.adopt prim r now o).ownerDeliveries.get? did = some delivery) :
    DeliveryMove prim p now request reply did delivery := by
  obtain ⟨deliveries, windows, swept, rfl, hadopt | ⟨reason, hadopt⟩, hdeliveries, -⟩ := adopt_eq prim p now r o
  · rw [hadopt] at hget
    exact .kept (hdeliveries _ _ hget)
  · rw [hadopt] at hget
    exact .kept (hdeliveries _ _ hget)

theorem callHashOf_tick (prim : Primitives) (w : VetoWindow) (witnessStanding : WitnessStanding) (now : Int) :
    prim.callHashOf (w.tick witnessStanding now) = prim.callHashOf w := by
  rw [Primitives.callHashOf, (w.tick_sameReview witnessStanding now).call]
  rfl

theorem Served.deliveryMove {delivery : OwnerDelivery} (h : p.Served prim opts now request reply p')
    (hget : p'.ownerDeliveries.get? did = some delivery) : DeliveryMove prim p now request reply did delivery := by
  cases h with
  | fetched hex hdevice hfound hopen hackable hdelivery display =>
      dsimp only at hget
      rw [JsMap.get?_set] at hget
      split at hget
      · rename_i hid
        obtain rfl := Option.some.inj hget
        subst hid
        subst hdelivery
        exact .fetched hex rfl hdevice hfound rfl rfl rfl rfl (callHashOf_tick _ _ _ _) rfl
      · exact .kept hget
  | forgotten ownerDevice body hfound deliveryId => exact .kept (JsMap.get?_of_delete hget)
  | acked hdevice hfound hundelivered hlive hopen haccepted =>
      dsimp only at hget
      rw [JsMap.get?_set] at hget
      split at hget
      · rename_i hid
        obtain rfl := Option.some.inj hget
        subst hid
        exact .consumed haccepted.known rfl
      · exact .kept hget
  | revoked => exact .of_adopt hget
  | enrolled => exact .of_adopt hget
  | _ => exact .kept hget

/-- An ack that counts consumes the delivery it names. -/
theorem Served.acks {ownerDevice : Option OwnerDeviceCredential} {body : Json} {status : VetoWindow.Status}
    {deadline : Int} {revision : Nat}
    (h : p.Served prim opts now (.vetoSeen ownerDevice id (.ok body)) (.seen status deadline (some revision)) p') :
    ∃ delivery, (p.ownerDeliveries.get? ((bodyText body (js "deliveryId")).getD []) = some delivery ∧
      delivery.consumed = false) ∧
      p'.ownerDeliveries.get? ((bodyText body (js "deliveryId")).getD []) = some { delivery with consumed := true } := by
  generalize hreply : Reply.seen status deadline (some revision) = reply at h
  cases h with
  | reacked ownerDevice body hfound =>
      injection hreply with _ _ hrevision
      cases hrevision
  | acked hdevice hfound hundelivered hlive hopen haccepted =>
      rw [haccepted.named]
      exact ⟨_, ⟨haccepted.known, haccepted.unconsumed⟩, JsMap.get?_set_self _ _ _⟩
  | _ => cases hreply

theorem ownerDeviceLaneWired_of_valid {ownerDevice : Option OwnerDeviceCredential} {deviceId : JsString}
    (h : p.validOwnerDeviceId prim ownerDevice = some deviceId) : p.ownerDeviceLaneWired = true := by
  by_contra hwired
  rw [Bool.not_eq_true] at hwired
  rw [validOwnerDeviceId, hwired] at h
  cases h

/-- What an ack is checked for is enough: one that echoes what its device was shown counts. -/
theorem ackRefusal_ok {deviceId : JsString} {body : Json} {delivery : OwnerDelivery} {generation : Nat}
    {ackable : RenderableAlert} (h : AckAccepted prim p now id deviceId w body did delivery generation)
    (hackable : prim.ackableContent w = some ackable)
    (hrevision : (body.get (js "revision")).bind Json.num? = some (.ofInt w.revision))
    (hecho : bodyText body (js "renderContentHash") = some (prim.renderContentHashOf ackable)) :
    p.ackRefusal prim id w deviceId body now = .ok (did, delivery, generation) := by
  obtain ⟨device, hresolve, hgeneration⟩ := h.standing
  obtain ⟨ackable', hackable', hrendered⟩ := h.rendered
  obtain rfl := Option.some.inj (hackable.symm.trans hackable')
  have hstanding : ((p.devices.resolveOwnerDevice prim.parseSpki deviceId).filter fun device =>
      decide (delivery.deviceGeneration = device.generation)) = some device := by
    rw [hresolve, h.generation]
    simp [hgeneration]
  unfold ackRefusal
  dsimp only
  rw [h.named, h.known]
  dsimp only
  rw [if_neg (by simp [h.unconsumed]), if_neg (not_le.mpr h.live), if_neg (not_not.mpr h.ofWindow),
    if_neg (not_not.mpr h.ofDevice), hstanding]
  dsimp only
  rw [if_neg (by simp [h.revision, hrevision]), hackable]
  dsimp only
  rw [if_neg (by simp [hrendered, hecho]), if_neg (not_not.mpr h.call), if_neg (not_lt.mpr h.floor), hgeneration]

theorem postVetoSeen_acked {ownerDevice : Option OwnerDeviceCredential} {deviceId : JsString} {body : Json}
    {delivery : OwnerDelivery} {generation : Nat} {ackable : RenderableAlert}
    (hdevice : p.validOwnerDeviceId prim ownerDevice = some deviceId) (hget : p.vetoWindows.get? id = some w)
    (hundelivered : w.delivered = none) (htrusted : p.devices.standingQuarantined = false)
    (hlive : p.killSwitch.killed = false) (hopen : (w.tick (p.witnessStanding prim) now).status.isOpen = true)
    (haccepted : AckAccepted prim p now id deviceId (w.tick (p.witnessStanding prim) now) body did delivery generation)
    (hackable : prim.ackableContent (w.tick (p.witnessStanding prim) now) = some ackable)
    (hrevision : (body.get (js "revision")).bind Json.num?
      = some (.ofInt (w.tick (p.witnessStanding prim) now).revision))
    (hecho : bodyText body (js "renderContentHash") = some (prim.renderContentHashOf ackable)) :
    (p.postVetoSeen prim ownerDevice id (.ok body) now).2 = { p with
      ownerDeliveries := p.ownerDeliveries.set did { delivery with consumed := true }
      vetoWindows := p.vetoWindows.set id { w.tick (p.witnessStanding prim) now with
        delivered := some ⟨some deviceId, some generation, now⟩ } } := by
  have hok : (p.setWindow id (w.tick (p.witnessStanding prim) now)).ackRefusal prim id
      (w.tick (p.witnessStanding prim) now) deviceId body now = .ok (did, delivery, generation) :=
    ackRefusal_ok ⟨haccepted.named, haccepted.known, haccepted.unconsumed, haccepted.live, haccepted.ofWindow,
      haccepted.ofDevice, haccepted.standing, haccepted.generation, haccepted.revision, haccepted.rendered,
      haccepted.call, haccepted.floor⟩ hackable hrevision hecho
  unfold postVetoSeen
  rw [if_neg (by simp [ownerDeviceLaneWired_of_valid hdevice]), hdevice]
  dsimp only
  rw [hget]
  dsimp only
  rw [if_neg (by simp [hundelivered]), if_neg (by simp [htrusted, hlive]), if_neg (by simp [hopen]), hok]
  dsimp only
  rw [markDelivered_undelivered _ _ _ (tick_undelivered _ _ hundelivered)]
  simp only [setWindow, JsMap.set_set]

/-- What a standing witness is. -/
theorem witnessStanding_iff {parseSpki : JsString → Option JsString} {devices : Devices} {killed : Bool}
    {deviceId : Option JsString} {generation : Option Nat} :
    devices.witnessStanding parseSpki killed deviceId generation = true ↔
      killed = false ∧ devices.standingQuarantined = false ∧ ∃ id device, deviceId = some id ∧
        devices.resolveOwnerDevice parseSpki id = some device ∧ device.revokedAt = none ∧
        generation = some device.generation := by
  unfold Devices.witnessStanding
  split
  · rename_i hkilled
    simp [hkilled]
  · rename_i hlive
    split
    · rename_i hquarantined
      simp [hquarantined]
    · rename_i htrusted
      rw [Bool.not_eq_true] at hlive htrusted
      split
      · rename_i id g
        simp only [Option.any_eq_true, Bool.and_eq_true, Option.isNone_iff_eq_none, decide_eq_true_eq]
        constructor
        · rintro ⟨device, hresolve, hrevoked, hgeneration⟩
          exact ⟨hlive, htrusted, id, device, rfl, hresolve, hrevoked, by rw [hgeneration]⟩
        · rintro ⟨-, -, id', device, hid, hresolve, hrevoked, hgeneration⟩
          obtain rfl := Option.some.inj hid
          exact ⟨device, hresolve, hrevoked, (Option.some.inj hgeneration).symm⟩
      · rename_i hnone
        refine ⟨nofun, ?_⟩
        rintro ⟨-, -, id, device, rfl, -, -, rfl⟩
        exact absurd rfl (hnone id device.generation rfl)

end Plane

/-! ### Evidence over a run -/

section

variable (prim : Primitives) (opts : ServerOptions)

/-- The detail fetch `f` of the window `id` gave the device `deviceId` this delivery. -/
structure Fetches (f : PlaneEdge) (id deviceId deliveryId : JsString) (delivery : OwnerDelivery) : Prop where
  requested : ∃ ownerDevice hex, f.label.request = .vetoDetail ownerDevice id hex ∧ deliveryId = js "del_" ++ hex ∧
    f.src.plane.validOwnerDeviceId prim ownerDevice = some deviceId
  answered : ∃ display status deadline minted, f.reply prim opts = .detail id display status delivery.revision deadline
      (some minted) ∧ minted.deliveryId = deliveryId ∧ minted.renderContentHash = delivery.renderHash
  call : ∃ w, f.src.plane.vetoWindows.get? id = some w ∧ delivery.callHash = prim.callHashOf w
  remembered : f.dst.plane.ownerDeliveries.get? deliveryId = some delivery
  unconsumed : delivery.consumed = false

/-- The ack `a` of the window `id`, which its deadline makes `w`, confirms it with the delivery that its device had
    fetched among the requests `before`, for the content that is current. -/
structure AckedBy (before : List PlaneEdge) (a : PlaneEdge) (id deviceId deliveryId : JsString) (generation : Nat)
    (w : VetoWindow) : Prop where
  requested : ∃ ownerDevice body, a.label.request = .vetoSeen ownerDevice id (.ok body) ∧
    a.src.plane.validOwnerDeviceId prim ownerDevice = some deviceId ∧
    (bodyText body (js "deliveryId")).getD [] = deliveryId
  window : ∃ old, a.src.plane.vetoWindows.get? id = some old ∧
    w = old.tick (a.src.plane.witnessStanding prim) a.label.now
  device : ∃ device, a.src.plane.devices.resolveOwnerDevice prim.parseSpki deviceId = some device ∧
    device.generation = generation
  delivery : ∃ delivery, a.src.plane.ownerDeliveries.get? deliveryId = some delivery ∧
    a.dst.plane.ownerDeliveries.get? deliveryId = some { delivery with consumed := true } ∧
    (∃ f ∈ before, Fetches prim opts f id deviceId deliveryId delivery) ∧ a.label.now < delivery.expiresAt ∧
    delivery.deviceGeneration = generation ∧ delivery.revision = w.revision ∧
    (∃ ackable, prim.ackableContent w = some ackable ∧ delivery.renderHash = prim.renderContentHashOf ackable) ∧
    delivery.callHash = prim.callHashOf w
  floor : a.label.now + minVetoResponseMs ≤ w.deadline

end

variable {prim : Primitives} {opts : ServerOptions} {es pre post : List PlaneEdge} {s t : PlaneState} {l : PlaneStep}
  {e : PlaneEdge} {id did : JsString} {w w' : VetoWindow} {ev : DeliveryEvidence}

/-- A delivery that is not consumed is as some device fetched it. -/
theorem delivery_fetched (h : (planeRuns prim opts).Exec es t) {delivery : OwnerDelivery}
    (hget : t.plane.ownerDeliveries.get? did = some delivery) :
    ∃ f ∈ es, Fetches prim opts f delivery.windowId delivery.deviceId did { delivery with consumed := false } := by
  revert did delivery
  refine h.induct (I := fun es t => ∀ {did : JsString} {delivery : OwnerDelivery},
    t.plane.ownerDeliveries.get? did = some delivery → ∃ f ∈ es,
      Fetches prim opts f delivery.windowId delivery.deviceId did { delivery with consumed := false }) ?_ ?_
  · rintro s ⟨killSwitch, devices, registryFile, signCount, hboot⟩ did delivery hget
    rw [hboot] at hget
    cases hget
  · intro es s l t _ ih hnext did delivery hget
    cases (served_of_next hnext).deliveryMove hget with
    | kept hold =>
        obtain ⟨f, hf, hfetches⟩ := ih hold
        exact ⟨f, List.mem_append_left _ hf, hfetches⟩
    | consumed hold hdelivery =>
        subst hdelivery
        obtain ⟨f, hf, hfetches⟩ := ih hold
        exact ⟨f, List.mem_append_left _ hf, hfetches⟩
    | @fetched ownerDevice w display minted hex hrequest hdevice hfound hreply hid hnamed hhash hcall hfresh =>
        have hsame : { delivery with consumed := false } = delivery := by rw [← hfresh]
        rw [hsame]
        exact ⟨⟨s, l, t⟩, by simp, ⟨ownerDevice, hex, hrequest, hid, hdevice⟩,
          ⟨display, _, _, minted, hreply, hnamed, hhash⟩, ⟨w, hfound, hcall⟩, hget, hfresh⟩

/-- A window that awaits its deadline with evidence was acked, and its deadline is the one of the ack. -/
theorem evidence_acked (h : (planeRuns prim opts).Exec es t) (hget : t.plane.vetoWindows.get? id = some w)
    (hopen : w.status.isOpen = true) (hdelivered : w.delivered = some ev) :
    ∃ before a since deviceId deliveryId generation acked, es = before ++ a :: since ∧
      AckedBy prim opts before a id deviceId deliveryId generation acked ∧ ev.deliveredByDevice = some deviceId ∧
      ev.deliveredByGeneration = some generation ∧ acked.deadline = w.deadline := by
  revert id w
  refine h.induct (I := fun es t => ∀ {id : JsString} {w : VetoWindow}, t.plane.vetoWindows.get? id = some w →
    w.status.isOpen = true → w.delivered = some ev →
    ∃ before a since deviceId deliveryId generation acked, es = before ++ a :: since ∧
      AckedBy prim opts before a id deviceId deliveryId generation acked ∧ ev.deliveredByDevice = some deviceId ∧
      ev.deliveredByGeneration = some generation ∧ acked.deadline = w.deadline) ?_ ?_
  · rintro s ⟨killSwitch, devices, registryFile, signCount, hboot⟩ id w hget
    rw [hboot] at hget
    cases hget
  · intro es s l t hexec ih hnext id w hget hopen hdelivered
    have hearlier : ∀ {old : VetoWindow}, s.plane.vetoWindows.get? id = some old → VetoWindow.StillAwaits old w ev →
        ∃ before a since deviceId deliveryId generation acked, es ++ [⟨s, l, t⟩] = before ++ a :: since ∧
          AckedBy prim opts before a id deviceId deliveryId generation acked ∧ ev.deliveredByDevice = some deviceId ∧
          ev.deliveredByGeneration = some generation ∧ acked.deadline = w.deadline := by
      intro old hold hawaits
      obtain ⟨before, a, since, deviceId, deliveryId, generation, acked, rfl, hacked, hdevice,
        hgeneration, hdeadline⟩ :=
        ih hold hawaits.isOpen hawaits.delivered
      exact ⟨before, a, since ++ [⟨s, l, t⟩], deviceId, deliveryId, generation, acked, by simp, hacked, hdevice,
        hgeneration, hdeadline.trans hawaits.deadline.symm⟩
    cases (served_of_next hnext).windowMove hget with
    | kept hold => exact hearlier hold ⟨hopen, hdelivered, rfl⟩
    | registered purpose hex hrequest hreply hid hcall hagent hw =>
        subst hw
        cases hdelivered
    | ticked hold hw =>
        subst hw
        exact hearlier hold (VetoWindow.tick_awaits hopen hdelivered)
    | swept hold hw =>
        subst hw
        exact hearlier hold (Plane.sweptWindow_awaits _ hopen hdelivered)
    | @acked old ownerDevice body deviceId deliveryId delivery generation hrequest hdevice hold hundelivered hawaiting
        haccepted hconsumed hw =>
        have hmarked := VetoWindow.markDelivered_undelivered (some deviceId) (some generation) l.now
          (VetoWindow.tick_undelivered (s.plane.witnessStanding prim) l.now hundelivered)
        rw [hmarked] at hw
        subst hw
        obtain rfl := Option.some.inj hdelivered
        obtain ⟨f, hf, hfetches⟩ := delivery_fetched hexec haccepted.known
        have hsame : { delivery with consumed := false } = delivery := by rw [← haccepted.unconsumed]
        rw [hsame, haccepted.ofWindow, haccepted.ofDevice] at hfetches
        have hnow : l.now + minVetoResponseMs ≤ (old.tick (s.plane.witnessStanding prim) l.now).deadline := by
          have hfloor := haccepted.floor
          omega
        have hget' : t.plane.ownerDeliveries.get? deliveryId = some { delivery with consumed := true } := by
          rw [hconsumed, JsMap.get?_set_self]
        exact ⟨es, ⟨s, l, t⟩, [], deviceId, deliveryId, generation, _, rfl,
          { requested := ⟨ownerDevice, body, hrequest, hdevice, haccepted.named⟩
            window := ⟨old, hold, rfl⟩
            device := haccepted.standing
            delivery := ⟨delivery, haccepted.known, hget', ⟨f, hf, hfetches⟩, haccepted.live, haccepted.generation,
              haccepted.revision, haccepted.rendered, haccepted.call⟩
            floor := hnow }, rfl, rfl, rfl⟩
    | vetoed ownerId fleetDevice ownerDevice body hrequest hold hcommitted hveto =>
        obtain rfl := VetoWindow.veto_ok hveto
        cases hopen
    | approved fleetDevice ownerDevice body hrequest hreply hold hlive hagent happrove =>
        obtain ⟨-, -, rfl⟩ := VetoWindow.approve_ok happrove
        exact hearlier hold ⟨hopen, hdelivered, rfl⟩

/-- The ack `a` was counted, with this delivery. -/
def Acks (prim : Primitives) (opts : ServerOptions) (a : PlaneEdge) (deliveryId : JsString) : Prop :=
  ∃ ownerDevice id body status deadline revision, a.label.request = .vetoSeen ownerDevice id (.ok body) ∧
    a.reply prim opts = .seen status deadline (some revision) ∧ (bodyText body (js "deliveryId")).getD [] = deliveryId

/-- The release of `w` as `w'` by the request `e` rests on an ack among the requests `pre`, made in time for the very
    deadline, by a device that stands unrevoked in the same generation when the release is decided, while the plane is
    neither killed nor quarantined. -/
def LiveEvidence (prim : Primitives) (opts : ServerOptions) (pre : List PlaneEdge) (e : PlaneEdge) (id : JsString)
    (w' : VetoWindow) : Prop :=
  ∃ before a since deviceId deliveryId generation acked, pre = before ++ a :: since ∧
    AckedBy prim opts before a id deviceId deliveryId generation acked ∧ w'.releasedAt = some acked.deadline ∧
    acked.deadline ≤ e.label.now ∧ e.src.plane.killSwitch.killed = false ∧
    ∃ devices, (devices = e.src.plane.devices ∨
        ∃ sweep ∈ e.src.plane.sweepsOf prim e.label.now e.label.request, devices = sweep.2) ∧
      devices.standingQuarantined = false ∧ ∃ device,
        devices.resolveOwnerDevice prim.parseSpki deviceId = some device ∧ device.revokedAt = none ∧
        device.generation = generation

theorem liveEvidence_of_standing (h : (planeRuns prim opts).Exec pre e.src)
    (hget : e.src.plane.vetoWindows.get? id = some w) (hopen : w.status.isOpen = true)
    (hdelivered : w.delivered = some ev)
    (hdue : w.deadline ≤ e.label.now) (hreleasedAt : w'.releasedAt = some w.deadline) {devices : Devices}
    (hwhen : devices = e.src.plane.devices ∨
      ∃ sweep ∈ e.src.plane.sweepsOf prim e.label.now e.label.request, devices = sweep.2)
    (hstands : devices.witnessStanding prim.parseSpki e.src.plane.killSwitch.killed ev.deliveredByDevice
      ev.deliveredByGeneration = true) : LiveEvidence prim opts pre e id w' := by
  obtain ⟨before, a, since, deviceId, deliveryId, generation, acked, hpre, hacked, hdevice, hgeneration, hdeadline⟩ :=
    evidence_acked h hget hopen hdelivered
  obtain ⟨hlive, htrusted, id', device, hid, hresolve, hrevoked, hsame⟩ := Plane.witnessStanding_iff.mp hstands
  obtain rfl := Option.some.inj (hdevice.symm.trans hid)
  refine ⟨before, a, since, deviceId, deliveryId, generation, acked, hpre, hacked, ?_, ?_, hlive, devices, hwhen,
    htrusted, device, hresolve, hrevoked, (Option.some.inj (hgeneration.symm.trans hsame)).symm⟩
  · rw [hdeadline]
    exact hreleasedAt
  · rw [hdeadline]
    exact hdue

/-- What has been confirmed once stays consumed. -/
theorem acked_consumed (h : (planeRuns prim opts).Exec es t) (hfresh : FreshDraws es) {a : PlaneEdge} (ha : a ∈ es)
    (hacks : Acks prim opts a did) {delivery : OwnerDelivery}
    (hget : t.plane.ownerDeliveries.get? did = some delivery) :
    delivery.consumed = true := by
  revert a delivery
  refine h.induct (I := fun es t => FreshDraws es → ∀ {a : PlaneEdge}, a ∈ es → Acks prim opts a did →
    ∀ {delivery : OwnerDelivery}, t.plane.ownerDeliveries.get? did = some delivery → delivery.consumed = true)
    (fun _ _ _ _ ha => absurd ha List.not_mem_nil) ?_ hfresh
  intro es s l t hexec ih hnext hfresh a ha hacks delivery hget
  have hserved := served_of_next hnext
  rcases List.mem_append.mp ha with ha | ha
  · cases hserved.deliveryMove hget with
    | kept hold => exact ih hfresh.prefix ha hacks hold
    | consumed hold hdelivery => rw [hdelivery]
    | fetched hex hrequest hdevice hfound hreply hid =>
        -- the ack named a delivery that an earlier fetch had drawn
        obtain ⟨pre, post, rfl⟩ := List.append_of_mem ha
        obtain ⟨hpre, hstep, -⟩ := hexec.split
        obtain ⟨ownerDevice, id, body, status, deadline, revision, hrequest', hreply', hnamed⟩ := hacks
        have hserved' := served_of_next hstep
        rw [hreply', hrequest'] at hserved'
        obtain ⟨acked, hknown, -⟩ := hserved'.acks
        rw [hnamed] at hknown
        obtain ⟨f, hf, ⟨ownerDevice', hex', hdraw, hid', -⟩, -⟩ := delivery_fetched hpre hknown.1
        obtain rfl := List.append_cancel_left (hid.symm.trans hid')
        refine absurd (show f.label.request.draw = some (.delivery hex) by rw [hdraw]; rfl)
          (hfresh.last ?_ f (List.mem_append_left _ hf))
        show l.request.draw = _
        rw [hrequest]
        rfl
  · obtain rfl := List.mem_singleton.mp ha
    obtain ⟨ownerDevice, id, body, status, deadline, revision, hrequest, hreply, hnamed⟩ := hacks
    rw [hreply, show l.request = _ from hrequest] at hserved
    obtain ⟨acked, -, hconsumed⟩ := hserved.acks
    rw [hnamed] at hconsumed
    obtain rfl := Option.some.inj (hconsumed.symm.trans hget)
    rfl

theorem confirms_once (h : (planeRuns prim opts).Exec es t) (hfresh : FreshDraws es) :
    es.Pairwise fun a a' => ∀ deliveryId, Acks prim opts a deliveryId → ¬ Acks prim opts a' deliveryId := by
  refine h.induct (I := fun es _ => FreshDraws es → es.Pairwise fun a a' => ∀ deliveryId,
    Acks prim opts a deliveryId → ¬ Acks prim opts a' deliveryId) (fun _ _ _ => .nil) ?_ hfresh
  intro es s l t hexec ih hnext hfresh
  rw [List.pairwise_append]
  refine ⟨ih hfresh.prefix, List.pairwise_singleton _ _, fun a ha last hlast deliveryId hacks hagain => ?_⟩
  obtain rfl := List.mem_singleton.mp hlast
  obtain ⟨ownerDevice, id, body, status, deadline, revision, hrequest, hreply, rfl⟩ := hagain
  have hserved := served_of_next hnext
  rw [hreply, show l.request = _ from hrequest] at hserved
  obtain ⟨acked, hknown, -⟩ := hserved.acks
  have hconsumed := acked_consumed hexec hfresh.prefix ha hacks hknown.1
  rw [hknown.2] at hconsumed
  cases hconsumed

/-- Every release on silence has live evidence, and no delivery confirms two acks. -/
theorem release_has_evidence (h : (planeRuns prim opts).Exec es t) (hfresh : FreshDraws es) :
    (∀ pre e post, es = pre ++ e :: post → ∀ id w w', e.src.plane.vetoWindows.get? id = some w →
      w.status ≠ .released → e.dst.plane.vetoWindows.get? id = some w' → w'.status = .released →
      LiveEvidence prim opts pre e id w') ∧
    es.Pairwise fun a a' => ∀ deliveryId, Acks prim opts a deliveryId → ¬ Acks prim opts a' deliveryId := by
  refine ⟨?_, confirms_once h hfresh⟩
  rintro pre e post rfl id w w' hget hunreleased hget' hreleased
  obtain ⟨hpre, hnext, -⟩ := h.split
  cases (served_of_next hnext).windowMove hget' with
  | kept hold =>
      obtain rfl := Option.some.inj (hget.symm.trans hold)
      exact absurd hreleased hunreleased
  | registered purpose hex hrequest hreply hid hcall hagent hw =>
      subst hw
      cases hreleased
  | ticked hold hw =>
      obtain rfl := Option.some.inj (hget.symm.trans hold)
      subst hw
      obtain ⟨ev, hopen, hdelivered, hdue, hstands, hreleasedAt⟩ := VetoWindow.tick_releases hunreleased hreleased
      exact liveEvidence_of_standing hpre hget hopen hdelivered hdue hreleasedAt (.inl rfl) hstands
  | swept hold hw =>
      obtain rfl := Option.some.inj (hget.symm.trans hold)
      subst hw
      obtain ⟨ev, sweep, hsweep, hopen, hdelivered, hdue, hstands, hreleasedAt⟩ :=
        Plane.sweptWindow_releases _ hunreleased hreleased
      exact liveEvidence_of_standing hpre hget hopen hdelivered hdue hreleasedAt (.inr ⟨sweep, hsweep, rfl⟩) hstands
  | acked hrequest hdevice hold hundelivered hawaiting haccepted hconsumed hw =>
      rw [hw, VetoWindow.markDelivered_undelivered _ _ _ (VetoWindow.tick_undelivered _ _ hundelivered)] at hreleased
      rw [show (VetoWindow.tick _ _ _).status = _ from hreleased] at hawaiting
      cases hawaiting
  | vetoed ownerId fleetDevice ownerDevice body hrequest hold hcommitted hveto =>
      obtain rfl := VetoWindow.veto_ok hveto
      cases hreleased
  | approved fleetDevice ownerDevice body hrequest hreply hold hlive hagent happrove =>
      obtain rfl := Option.some.inj (hget.symm.trans hold)
      obtain ⟨-, -, rfl⟩ := VetoWindow.approve_ok happrove
      exact absurd hreleased hunreleased

/-! ### A sample -/

namespace ReleaseSample

/-- A plain call without arguments, held for review. -/
def registration : Json :=
  .obj [(js "call", .obj [(js "agentId", .str (js "agent-1")), (js "tool", .str (js "deploy"))])]

/-- What its owner is shown of it. -/
def alert : RenderableAlert where
  agentId := js "agent-1"
  tool := js "deploy"
  summary := js "(no arguments)"

def confirmation : Json :=
  .obj
    [(js "deliveryId", .str (js "del_1")), (js "revision", .num (.ofInt 1)),
      (js "renderContentHash", .str (PlaneSample.prim.renderContentHashOf alert))]

/-- The phone fetches the detail of a new window. -/
def shown : List PlaneStep :=
  [⟨.registerVeto true (.ok registration) (js "1"), 1000⟩, ⟨.vetoDetail (some PlaneSample.phone) (js "veto_1") (js "1"), 2000⟩]

/-- And confirms it. -/
def ack : PlaneStep :=
  ⟨.vetoSeen (some PlaneSample.phone) (js "veto_1") (.ok confirmation), 3000⟩

/-- The deadline has come. -/
def read : PlaneStep :=
  ⟨.getVeto (js "veto_1") false (List.replicate 16 0x30), 241000⟩

def window : VetoWindow :=
  .register ⟨js "agent-1", js "deploy", none⟩ 0 none 1000

def delivery : OwnerDelivery where
  windowId := js "veto_1"
  revision := 1
  renderHash := PlaneSample.prim.renderContentHashOf alert
  callHash := PlaneSample.prim.callHashOf window
  deviceId := js "phone"
  deviceGeneration := 1
  expiresAt := 122000
  consumed := false

def fetched : PlaneState :=
  shown.foldl (PlaneState.after PlaneSample.prim PlaneSample.sessionOnly) (PlaneSample.boot PlaneSample.onePhone)

/-- The plane after the ack. -/
def acked : PlaneState :=
  ⟨{ fetched.plane with
      ownerDeliveries := fetched.plane.ownerDeliveries.set (js "del_1") { delivery with consumed := true }
      vetoWindows := fetched.plane.vetoWindows.set (js "veto_1")
        { window with delivered := some ⟨some (js "phone"), some 1, 3000⟩ } }, 3000⟩

theorem fetched_delivery : fetched.plane.ownerDeliveries.get? (js "del_1") = some delivery := by
  with_unfolding_all rfl

theorem fetched_window : fetched.plane.vetoWindows.get? (js "veto_1") = some window := by
  with_unfolding_all rfl

theorem window_ackable : PlaneSample.prim.ackableContent window = some alert := by
  with_unfolding_all rfl

theorem fetched_ack : fetched.after PlaneSample.prim PlaneSample.sessionOnly ack = acked := by
  have haccepted : Plane.AckAccepted PlaneSample.prim fetched.plane 3000 (js "veto_1") (js "phone") window confirmation
      (js "del_1") delivery 1 :=
    { named := by rfl
      known := fetched_delivery
      unconsumed := rfl
      live := by decide
      ofWindow := rfl
      ofDevice := rfl
      standing := ⟨⟨js "key", 1, none⟩, by with_unfolding_all rfl, rfl⟩
      generation := rfl
      revision := rfl
      rendered := ⟨alert, window_ackable, rfl⟩
      call := rfl
      floor := by decide }
  have htick : window.tick (fetched.plane.witnessStanding PlaneSample.prim) 3000 = window := by
    with_unfolding_all rfl
  have hserved : (fetched.plane.postVetoSeen PlaneSample.prim (some PlaneSample.phone) (js "veto_1") (.ok confirmation)
      3000).2 = _ := Plane.postVetoSeen_acked (w := window)
        (by with_unfolding_all rfl) fetched_window rfl (by with_unfolding_all rfl) (by with_unfolding_all rfl)
    (by rw [htick]; rfl) (htick.symm ▸ haccepted) (by rw [htick]; exact window_ackable) (by rw [htick]; rfl) (by rfl)
  rw [htick] at hserved
  exact congrArg (PlaneState.mk · 3000) hserved

theorem acked_run : (shown ++ [ack]).foldl (PlaneState.after PlaneSample.prim PlaneSample.sessionOnly)
    (PlaneSample.boot PlaneSample.onePhone) = acked := by
  rw [List.foldl_append]
  exact fetched_ack

theorem acked_window : acked.plane.vetoWindows.get? (js "veto_1")
    = some { window with delivered := some ⟨some (js "phone"), some 1, 3000⟩ } :=
  JsMap.get?_set_self _ _ _

def released : VetoWindow :=
  { window with delivered := some ⟨some (js "phone"), some 1, 3000⟩, status := .released, releasedAt := some 241000 }

theorem read_window : (acked.after PlaneSample.prim PlaneSample.sessionOnly read).plane.vetoWindows.get? (js "veto_1")
    = some released := by
  with_unfolding_all rfl

end ReleaseSample

/-- A window that is delivered, acked by the owner's phone, and released. -/
theorem release_has_evidence_sample :
    LiveEvidence PlaneSample.prim PlaneSample.sessionOnly
      (Lts.trace (PlaneState.after PlaneSample.prim PlaneSample.sessionOnly)
        (PlaneSample.boot PlaneSample.onePhone) (ReleaseSample.shown ++ [ReleaseSample.ack]))
      ⟨ReleaseSample.acked, ReleaseSample.read,
        ReleaseSample.acked.after PlaneSample.prim PlaneSample.sessionOnly ReleaseSample.read⟩
      (js "veto_1") ReleaseSample.released := by
  have hexec := PlaneSample.exec PlaneSample.prim PlaneSample.sessionOnly PlaneSample.onePhone
    (ReleaseSample.shown ++ [ReleaseSample.ack]) ReleaseSample.read (by decide)
  have hfresh := PlaneSample.fresh PlaneSample.prim PlaneSample.sessionOnly PlaneSample.onePhone
    (ReleaseSample.shown ++ [ReleaseSample.ack]) ReleaseSample.read (by decide)
  rw [ReleaseSample.acked_run] at hexec hfresh
  exact (release_has_evidence hexec hfresh).1 _ _ [] rfl _ _ _ ReleaseSample.acked_window nofun
    ReleaseSample.read_window rfl

end OwnerSwitch
