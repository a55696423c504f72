/-
Module: OwnerSwitch.ControlPlane.VetoRoutes
Layer: ControlPlane
Purpose: The review windows: registration, approval, stops, status reads, the mint of a grant, foreground details and
  acks, and the signed channel over which the broker commits a grant.
Imports: ControlPlane.Plane
Trusted boundary: those of ControlPlane.Plane
Main exports: postVeto, postRegisterVeto, getVeto, getVetoDetail, postVetoSeen, postGrantCommit
Open obligations: none
-/
import OwnerSwitch.ControlPlane.Plane

namespace OwnerSwitch

namespace Plane

section

variable (prim : Primitives) (p : Plane) (opts : ServerOptions)

/-! ### Approval and veto -/

/-- `postApprovalChallenge` before it drains the body. -/
def postApprovalChallenge (ownerId : Option JsString) (id : JsString) : Reply × Plane :=
  if ownerId.isNone then (.unauthorized, p)
  else if opts.ownerPasskey.isNone then
    (.error 501 (js "no owner approval passkey is enrolled on this control plane"), p)
  else
    match p.vetoWindows.get? id with
    | none => (.error 404 (js "no veto window \"" ++ id ++ js "\""), p)
    | some window =>
        if (prim.grantEligibleArgs window).isNone then
          (.error 400 (js "approval ceremonies exist only for grant-eligible windows"), p)
        else if p.killSwitch.killed then
          (.error 409 (js "cannot open an approval ceremony while the kill switch is engaged"), p)
        else (.draining, { p with draining := .approval id :: p.draining })

/-- `postApprovalChallenge` after it has drained the body. -/
def postApprovalChallengeDrained (id : JsString) (random : Bytes) (now : Int) : Reply × Plane :=
  if .approval id ∉ p.draining then (.error 404 (js "not found"), p)
  else
    let p := { p with draining := p.draining.erase (.approval id) }
    if p.killSwitch.killed then
      (.error 409 (js "cannot open an approval ceremony while the kill switch is engaged"), p)
    else
      match (p.vetoWindows.get? id).bind prim.grantEligibleArgs with
      | none => (.error 400 (js "approval ceremonies exist only for grant-eligible windows"), p)
      | some canonicalArgs =>
          match (prim.net.parseMergePrArgs canonicalArgs).bind prim.net.buildRenderableApproval with
          | none => (.error 400 (js "cannot render this call for owner approval"), p)
          | some args =>
              let renderable := Primitives.renderableApproval args
              let renderHash := prim.sha256Hex (canonicalJson renderable)
              let callHash := prim.sha256Hex canonicalArgs
              let challenge := Base64url.encode random
              (.approvalChallenge challenge renderable renderHash callHash (now + challengeTtlMs),
                { p with
                  approvalChallenges := p.approvalChallenges.set id
                    { challenge, callHash, renderHash, killEpoch := p.killSwitch.epoch
                      expiresAt := now + challengeTtlMs } })

/-- The fresh assertion an approval demands where a passkey is enrolled; a production plane without one refuses.
    The challenge is spent whether or not it verifies. -/
def redeemApprovalChallenge (id canonicalArgs : JsString) (body : Json) (now : Int) : Option Reply × Plane :=
  match opts.ownerPasskey with
  | none =>
      if opts.dev then (none, p)
      else
        (some (.error 403 (js "no owner approval passkey is enrolled — a production control plane refuses session-only merge approval; enroll a passkey (ownerPasskey) or run dev mode")), p)
  | some passkey =>
      let spent := { p with approvalChallenges := p.approvalChallenges.delete id }
      match (p.approvalChallenges.get? id).filter fun ceremony => now < ceremony.expiresAt with
      | none =>
          (some (.error 401 (js "no live approval ceremony for this window — request POST /veto/:id/approval-challenge and sign it with the enrolled passkey (challenges are single-use and short-lived)")), spent)
      | some ceremony =>
          if ceremony.killEpoch ≠ p.killSwitch.epoch then
            (some (.error 401 (js "the approval ceremony was minted in a different kill epoch — request a fresh one")), spent)
          else if ceremony.callHash ≠ prim.sha256Hex canonicalArgs then
            (some (.error 401 (js "the approval ceremony was minted for different call bytes")), spent)
          else
            match assertionFrom (body.get (js "assertion")) with
            | none =>
                (some (.error 400 (js "approve requires assertion: \x7bcredentialId, clientDataJSON, authenticatorData, signature\x7d, each base64url")), spent)
            | some assertion => spent.redeemAssertion prim passkey ceremony.challenge assertion

/-- `postVeto` with the decision to approve. -/
def approveWindow (ownerId id : JsString) (window : VetoWindow) (body : Json) (now : Int) : Reply × Plane :=
  match prim.grantEligibleArgs window with
  | none =>
      (.error 400 (js "this window is not grant-eligible (only a github/merge_pull_request call with valid closed arguments can be actively approved); it releases on the veto lane's own terms, not by approval"), p)
  | some canonicalArgs =>
      if p.killSwitch.killed then
        (.error 409 (js "cannot approve while the kill switch is engaged — restore first, then re-approve"), p)
      else if p.killSwitch.agentKilled window.call.agentId then
        (.error 409 (js "cannot approve — this window's agent is scope-killed; restore the agent first, then re-approve"), p)
      else
        match p.redeemApprovalChallenge prim opts id canonicalArgs body now with
        | (some refusal, spent) => (refusal, spent)
        | (none, redeemed) =>
            match window.approve ownerId redeemed.killSwitch.epoch now with
            | .error e => (.error 409 e, redeemed)
            | .ok approved => (.approved, redeemed.setWindow id approved)

/-- The stop itself, as a session or a device asks for it. -/
def stopWindow (id : JsString) (window : VetoWindow) («by» : JsString) : Reply × Plane :=
  if window.status = .vetoed then (.vetoed .vetoed, p)
  else if (p.windowToGrant.get? id).any p.committedGrants.contains then
    (.error 409 (js "the approved merge is already committed for dispatch (in flight) — too late to veto"), p)
  else
    match window.veto «by» with
    | .error e => (.error 409 e, p)
    | .ok vetoed => (.vetoed vetoed.status, p.setWindow id vetoed)

/-- An attribution a relayed stop may carry: `channel:<kind>`. -/
def isChannelAttribution (attribution : JsString) : Bool :=
  let lower (u : UInt16) : Bool := (0x61 ≤ u && u ≤ 0x7A) || (0x30 ≤ u && u ≤ 0x39)
  match attribution.drop 8 with
  | [] => false
  | u :: kind =>
      (js "channel:").isPrefixOf attribution && lower u && kind.length ≤ 62 && kind.all fun v => lower v || v = 0x2D

/-- `postDeviceVeto` -/
def postDeviceVeto (fleetDevice : Option JsString) (ownerDevice : Option OwnerDeviceCredential) (id : JsString)
    (body : Body) : Reply × Plane :=
  let signer := match fleetDevice with
    | some fleetId => some (js "device:" ++ fleetId)
    | none => (p.validOwnerDeviceId prim ownerDevice).map (js "owner-device:" ++ ·)
  match signer with
  | none => (.unauthorized, p)
  | some signer =>
      match p.vetoWindows.get? id with
      | none => (.error 404 (js "no veto window \"" ++ id ++ js "\""), p)
      | some window =>
          match body with
          | .error e => (.error 400 e, p)
          | .ok body =>
              if (body.get (js "decision")).any fun decision => decision.str? ≠ some (js "veto") then
                (.error 403 (js "a device credential carries exactly one verb here: veto — approval requires the owner's session and passkey"), p)
              else
                match body.get (js "attribution") with
                | none => p.stopWindow id window signer
                | some attribution =>
                    match attribution.str?.filter isChannelAttribution with
                    | none =>
                        (.error 400 (js "attribution must be \"channel:<kind>\" (lowercase alphanumeric/hyphen), e.g. \"channel:sms-reply\""), p)
                    | some attribution => p.stopWindow id window attribution

/-- `body.decision ?? "veto"`, which takes null as absent. -/
def vetoDecision (body : Json) : Option JsString :=
  match body.get (js "decision") with
  | none => some (js "veto")
  | some .null => some (js "veto")
  | some decision => decision.str?

/-- `postVeto` -/
def postVeto (ownerId fleetDevice : Option JsString) (ownerDevice : Option OwnerDeviceCredential) (id : JsString)
    (body : Body) (now : Int) : Reply × Plane :=
  match ownerId with
  | none => p.postDeviceVeto prim fleetDevice ownerDevice id body
  | some ownerId =>
      match p.vetoWindows.get? id with
      | none => (.error 404 (js "no veto window \"" ++ id ++ js "\""), p)
      | some window =>
          match body with
          | .error e => (.error 400 e, p)
          | .ok body =>
              let decision := vetoDecision body
              if decision = some (js "approve") then p.approveWindow prim opts ownerId id window body now
              else if decision = some (js "veto") then p.stopWindow id window ownerId
              else (.error 400 (js "decision must be \"veto\" or \"approve\""), p)

/-- `postRegisterVeto` -/
def postRegisterVeto (signed : Bool) (body : Body) (hex : JsString) (now : Int) : Reply × Plane :=
  if !signed then (.unauthorized, p)
  else
    match body with
    | .error e => (.error 400 e, p)
    | .ok body =>
        match toolCallFrom (body.get (js "call")) with
        | none => (.error 400 (js "call must be an object with string agentId and tool"), p)
        | some call =>
            if p.killSwitch.agentKilled call.agentId then
              (.error 409 (js "agent \"" ++ call.agentId
                ++ js "\" is scope-killed — no new review windows until an owner restores it"), p)
            else
              match vetoPurposeFrom prim.net (body.get (js "purpose")) call with
              | .error e => (.error 400 e, p)
              | .ok purpose =>
                  let id := js "veto_" ++ hex
                  let window := VetoWindow.register call p.killSwitch.epoch purpose now
                  (.registered id window.status, p.setWindow id window)

/-! ### Status reads -/

/-- `mintGrant`: remembered in both directions, so that a veto finds the grant. -/
def mintGrant (windowId : JsString) (window : VetoWindow) (canonicalArgs : JsString) (approvalEpoch : Nat)
    (expiresAt : Int) (hex : JsString) : MergeGrant × Plane :=
  let jti := js "grant_" ++ windowId ++ js "_" ++ hex
  ({ jti, agentId := window.call.agentId, tool := window.call.tool
     connector := (window.purpose.map VetoPurpose.connector).getD []
     operation := (window.purpose.map VetoPurpose.operation).getD []
     policyVersion := (window.purpose.map VetoPurpose.policyVersion).getD []
     canonicalArgs, callHash := prim.sha256Hex canonicalArgs, killEpoch := approvalEpoch, expiresAt },
    { p with
      mintedGrants := p.mintedGrants.set jti windowId
      windowToGrant := p.windowToGrant.set windowId jti })

/-- `getVeto` of a grant-eligible window: only the owner's active approval releases it, once. -/
def readGrantLane (id : JsString) (window : VetoWindow) (canonicalArgs : JsString) (pacing : Option Pacing)
    (hex : JsString) (now : Int) : Reply × Plane :=
  if window.status = .vetoed then (.window (.ofWindow .vetoed) none none, p)
  else
    match window.approval with
    | none => (.window (.ofWindow .pending) pacing none, p)
    | some approval =>
        if p.grantedWindows.contains id then (.window .spent none none, p)
        else if p.killSwitch.killed || approval.approvalEpoch ≠ p.killSwitch.epoch then (.window .spent none none, p)
        else
          let expiresAt := approval.approvedAt + opts.grantTtlMs
          if expiresAt ≤ now then (.window .spent none none, p)
          else
            let (grant, minted) := p.mintGrant prim id window canonicalArgs approval.approvalEpoch expiresAt hex
            (.window (.ofWindow .released) none (some grant),
              { minted with grantedWindows := minted.grantedWindows.insert id })

/-- The wire status of a window: a release from a dead epoch is spent. -/
def wireStatus (window : VetoWindow) : VetoWireStatus :=
  if window.status = .released && window.killEpoch ≠ p.killSwitch.epoch then .spent else .ofWindow window.status

/-- `getVeto` -/
def getVeto (id : JsString) (deviceRead : Bool) (hex : JsString) (now : Int) : Reply × Plane :=
  match p.vetoWindows.get? id with
  | none => (.error 404 (js "no veto window \"" ++ id ++ js "\""), p)
  | some window =>
      let window := window.tick (p.witnessStanding prim) now
      let p := p.setWindow id window
      let pacing : Option Pacing :=
        if deviceRead then some { deadline := window.deadline, delivered := window.delivered.isSome } else none
      match if opts.grantKey then prim.grantEligibleArgs window else none with
      | some canonicalArgs => p.readGrantLane prim opts id window canonicalArgs pacing hex now
      | none => (.window (p.wireStatus window) pacing none, p)

/-- Every window advanced. -/
def tickWindows (now : Int) : Plane :=
  { p with vetoWindows := p.vetoWindows.mapVal fun _ window => window.tick (p.witnessStanding prim) now }

/-- `getVetoPending` -/
def getVetoPending (signed : Bool) (now : Int) : Reply × Plane :=
  if !signed then (.unauthorized, p)
  else
    let p := p.tickWindows prim now
    let windows := (p.vetoWindows.entries.filter fun (_, window) => window.status.isOpen).map fun (id, window) =>
      { id, status := window.status, agentId := window.call.agentId, tool := window.call.tool
        deadline := window.deadline, delivered := window.delivered.isSome : PendingWindow }
    (.pending windows, p)

/-! ### Delivery -/

/-- `getVetoDetail` -/
def getVetoDetail (ownerDevice : Option OwnerDeviceCredential) (id : JsString) (hex : JsString) (now : Int) :
    Reply × Plane :=
  if !p.ownerDeviceLaneWired then
    (.error 501 (js "delivery confirmation is not wired: no owner device enrolled (ownerDeviceKeys or the enrollment registry)"), p)
  else
    match p.validOwnerDeviceId prim ownerDevice with
    | none => (.unauthorized, p)
    | some fetchingDeviceId =>
        match p.vetoWindows.get? id with
        | none => (.error 404 (js "no veto window \"" ++ id ++ js "\""), p)
        | some window =>
            let window := window.tick (p.witnessStanding prim) now
            let p := p.setWindow id window
            let ackable :=
              if !p.devices.standingQuarantined && !p.killSwitch.killed && window.status.isOpen then
                prim.ackableContent window
              else none
            let display := prim.displayEnvelope window ackable
            match ackable with
            | none => (.detail id display window.status window.revision window.deadline none, p)
            | some renderable =>
                let renderHash := prim.renderContentHashOf renderable
                let deliveryId := js "del_" ++ hex
                let delivery : OwnerDelivery :=
                  { windowId := id, revision := window.revision, renderHash, callHash := prim.callHashOf window
                    deviceId := fetchingDeviceId
                    deviceGeneration :=
                      ((p.devices.resolveOwnerDevice prim.parseSpki fetchingDeviceId).map
                        EnrolledOwnerDevice.generation).getD 0
                    expiresAt := now + deliveryTtlMs, consumed := false }
                (.detail id display window.status window.revision window.deadline
                    (some { renderable, deliveryId, renderContentHash := renderHash
                            deliveryExpiresAt := now + deliveryTtlMs }),
                  { p with ownerDeliveries := p.ownerDeliveries.set deliveryId delivery })

/-- Why an ack does not count, and the plane it leaves; the outer window is open and not delivered. -/
def ackRefusal (id : JsString) (window : VetoWindow) (deviceId : JsString) (body : Json) (now : Int) :
    Except (JsString × Plane) (JsString × OwnerDelivery × Nat) :=
  let deliveryId := (bodyText body (js "deliveryId")).getD []
  let echoedRevision := (body.get (js "revision")).bind Json.num?
  let echoedHash := (bodyText body (js "renderContentHash")).getD []
  let forgotten := { p with ownerDeliveries := p.ownerDeliveries.delete deliveryId }
  match p.ownerDeliveries.get? deliveryId with
  | none => .error (js "unknown or expired delivery — fetch GET /veto/:id/detail first", p)
  | some delivery =>
      if delivery.consumed then
        .error (js "this delivery was already used to confirm — fetch a fresh detail", p)
      else if delivery.expiresAt ≤ now then .error (js "delivery expired — fetch a fresh detail", forgotten)
      else if delivery.windowId ≠ id then .error (js "delivery is for a different window", p)
      else if delivery.deviceId ≠ deviceId then .error (js "delivery belongs to a different device", p)
      else
        match (p.devices.resolveOwnerDevice prim.parseSpki deviceId).filter fun device =>
            delivery.deviceGeneration = device.generation with
        | none =>
            .error (js "delivery was minted under a superseded device generation — fetch a fresh detail", forgotten)
        | some device =>
            if delivery.revision ≠ window.revision || echoedRevision ≠ some (.ofInt window.revision) then
              .error (js "stale delivery — the window advanced since it was rendered; re-fetch the detail", p)
            else
              match prim.ackableContent window with
              | none => .error (js "this window is no longer ackable — it requires full owner approval", p)
              | some ackable =>
                  let currentHash := prim.renderContentHashOf ackable
                  if delivery.renderHash ≠ currentHash || echoedHash ≠ currentHash then
                    .error (js "render hash mismatch — the detail does not match the current window", p)
                  else if delivery.callHash ≠ prim.callHashOf window then
                    .error (js "call mismatch — the detail was minted for different call bytes", p)
                  else if window.deadline - minVetoResponseMs < now then
                    .error (js "ack arrived inside the minimum veto-response floor (60 s before the deadline) — not counted; the window will extend or hold, re-ack against the new deadline", p)
                  else .ok (deliveryId, delivery, device.generation)

/-- `postVetoSeen` -/
def postVetoSeen (ownerDevice : Option OwnerDeviceCredential) (id : JsString) (body : Body) (now : Int) :
    Reply × Plane :=
  if !p.ownerDeviceLaneWired then
    (.error 501 (js "delivery confirmation is not wired: no owner-app device is enrolled on this control plane (neither ownerDeviceKeys nor the enrollment registry), so no device may flip the release-permitting 'delivered' bit — windows walk to held (passkey approval) instead."), p)
  else
    match p.validOwnerDeviceId prim ownerDevice with
    | none => (.unauthorized, p)
    | some deviceId =>
        match p.vetoWindows.get? id with
        | none => (.error 404 (js "no veto window \"" ++ id ++ js "\""), p)
        | some window =>
            let ticked := window.tick (p.witnessStanding prim) now
            if window.delivered.isSome then (.seen ticked.status ticked.deadline none, p.setWindow id ticked)
            else if p.devices.standingQuarantined || p.killSwitch.killed then
              (.error 503 (js "no delivery evidence is accepted right now: the control plane is "
                ++ (if p.killSwitch.killed then js "KILLED"
                  else js "standing-quarantined (a revocation could not be durably persisted)")
                ++ js " — the owner-device lane reopens after recovery/restore"), p)
            else
              let p := p.setWindow id ticked
              if !ticked.status.isOpen then
                (.error 409 (js "cannot ack in status \"" ++ ticked.status.text ++ js "\""), p)
              else
                match body with
                | .error e => (.error 400 e, p)
                | .ok body =>
                    match p.ackRefusal prim id ticked deviceId body now with
                    | .error (reason, p) => (.error 409 reason, p)
                    | .ok (deliveryId, delivery, generation) =>
                        (.seen ticked.status ticked.deadline (some ticked.revision),
                          { p with
                            ownerDeliveries := p.ownerDeliveries.set deliveryId { delivery with consumed := true }
                          }.setWindow id (ticked.markDelivered (some deviceId) (some generation) now))

/-! ### The signed channel -/

/-- Whether the plane vouches for a grant: it minted it, and its window is neither vetoed nor of a killed agent. -/
def grantLive (jti : JsString) : Bool :=
  ((p.mintedGrants.get? jti).bind p.vetoWindows.get?).any fun window =>
    window.status ≠ .vetoed && !p.killSwitch.agentKilled window.call.agentId

/-- `getSignedKillState` -/
def getSignedKillState (nonce jti : Option JsString) (now : Int) : Reply :=
  if !opts.killStateKey then .error 501 (js "signed kill-state channel is not configured")
  else
    match nonce.filter fun nonce => !nonce.isEmpty && nonce.length ≤ 128 with
    | none => .error 400 (js "kill-state requires a nonce (1–128 chars)")
    | some nonce =>
        if jti.any fun jti => 256 < jti.length then .error 400 (js "kill-state jti probe too long")
        else
          .killState p.killSwitch.killed p.killSwitch.epoch nonce (now + killStateTtlMs)
            ((jti.filter fun jti => !jti.isEmpty).map fun jti => (jti, p.grantLive jti))

/-- Whether a grant may be committed for dispatch. -/
def committable (jti : JsString) : Bool :=
  ((p.mintedGrants.get? jti).bind p.vetoWindows.get?).any fun window =>
    window.status ≠ .vetoed && !p.killSwitch.killed && !p.killSwitch.agentKilled window.call.agentId &&
      window.approval.any fun approval => approval.approvalEpoch = p.killSwitch.epoch

/-- `postGrantCommit`; `authentic` says whether the body's signature is the broker's. -/
def postGrantCommit (body : Body) (authentic : Bool) (now : Int) : Reply × Plane :=
  if !opts.killStateKey then (.error 501 (js "signed kill-state channel is not configured"), p)
  else
    match body with
    | .error e => (.error 400 e, p)
    | .ok body =>
        let fields := do
          let jti ← textField body (js "jti")
          if 256 < jti.length then none
          let nonce ← textField body (js "nonce")
          if 128 < nonce.length then none
          let ts ← (body.get (js "ts")).bind Json.num?
          let _ ← textField body (js "sig")
          some (jti, nonce, ts)
        match fields with
        | none => (.error 400 (js "commit requires \x7bjti, nonce, ts, sig\x7d"), p)
        | some (jti, nonce, ts) =>
            if !authentic then (.unauthorized, p)
            else if ts.before (now - commitRequestSkewMs) || !ts.atMost (now + commitRequestSkewMs) then
              (.error 401 (js "commit request timestamp is stale"), p)
            else
              let committed := p.committable jti
              (.commit p.killSwitch.killed p.killSwitch.epoch nonce (now + killStateTtlMs) jti committed,
                if committed then { p with committedGrants := p.committedGrants.insert jti } else p)

end

end Plane

end OwnerSwitch
