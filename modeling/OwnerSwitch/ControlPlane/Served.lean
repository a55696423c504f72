/-
Module: OwnerSwitch.ControlPlane.Served
Layer: ControlPlane
Purpose: What one request can do: for every route the answers it can give and, written out, the plane each of
  them leaves with the facts that were checked. Everything about runs is derived from it.
Imports: ControlPlane.Server
Trusted boundary: those of ControlPlane.Plane
Main exports: Served, serve_served
Open obligations: none
-/
import OwnerSwitch.ControlPlane.Server

namespace OwnerSwitch

namespace Plane

variable (prim : Primitives) (opts : ServerOptions) (p : Plane) (now : Int)

/-- The ceremonies that are left once the dead ones are purged. -/
def purgedCeremonies : JsMap JsString CeremonyRecord :=
  p.ceremonies.filter fun _ record => !p.deadCeremony now record

/-- How an assertion over a challenge of a kind is redeemed: the counter it leaves. -/
structure AssertionRedeemed (passkey : OwnerPasskey) (challenge : JsString) (body : Json)
    (assertion : WebAuthnAssertion) (signCount : Nat) : Prop where
  «from» : assertionFrom (body.get (js "assertion")) = some assertion
  verified : ∃ k, assertion.verifyOwnerAssertion prim.crypto passkey challenge p.passkeySignCount = .ok k ∧
    signCount = max p.passkeySignCount k

/-- What GO 2/2 redeems: a live challenge of this ceremony and epoch, where a passkey is enrolled. -/
inductive RestoreRedeemed (id : JsString) (body : Json) : JsMap JsString RestoreChallenge → Nat → Prop where
  | sessionOnly (hnone : opts.ownerPasskey = none) : RestoreRedeemed id body p.restoreChallenges p.passkeySignCount
  | assertion {passkey chal assertion signCount} (henrolled : opts.ownerPasskey = some passkey)
      (hget : p.restoreChallenges.get? id = some chal) (hlive : now < chal.expiresAt)
      (hepoch : chal.killEpoch = p.killSwitch.epoch)
      (hredeemed : AssertionRedeemed prim p passkey chal.challenge body assertion signCount) :
      RestoreRedeemed id body (p.restoreChallenges.delete id) signCount

/-- What an approval redeems: a live challenge of this window, call and epoch, where a passkey is enrolled. -/
inductive ApprovalRedeemed (id canonicalArgs : JsString) (body : Json) :
    JsMap JsString ApprovalChallenge → Nat → Prop where
  | sessionOnly (hnone : opts.ownerPasskey = none) :
      ApprovalRedeemed id canonicalArgs body p.approvalChallenges p.passkeySignCount
  | assertion {passkey chal assertion signCount} (henrolled : opts.ownerPasskey = some passkey)
      (hget : p.approvalChallenges.get? id = some chal) (hlive : now < chal.expiresAt)
      (hepoch : chal.killEpoch = p.killSwitch.epoch) (hcall : chal.callHash = prim.sha256Hex canonicalArgs)
      (hredeemed : AssertionRedeemed prim p passkey chal.challenge body assertion signCount) :
      ApprovalRedeemed id canonicalArgs body (p.approvalChallenges.delete id) signCount

/-- What an ack that counts was checked for. -/
structure AckAccepted (id deviceId : JsString) (window : VetoWindow) (body : Json) (deliveryId : JsString)
    (delivery : OwnerDelivery) (generation : Nat) : Prop where
  named : (bodyText body (js "deliveryId")).getD [] = deliveryId
  known : p.ownerDeliveries.get? deliveryId = some delivery
  unconsumed : delivery.consumed = false
  live : now < delivery.expiresAt
  ofWindow : delivery.windowId = id
  ofDevice : delivery.deviceId = deviceId
  standing : ∃ device, p.devices.resolveOwnerDevice prim.parseSpki deviceId = some device ∧
    device.generation = generation
  generation : delivery.deviceGeneration = generation
  revision : delivery.revision = window.revision
  rendered : ∃ ackable, prim.ackableContent window = some ackable ∧
    delivery.renderHash = prim.renderContentHashOf ackable
  call : delivery.callHash = prim.callHashOf window
  floor : now ≤ window.deadline - minVetoResponseMs

/-- `p.Served prim opts now request reply p'`: the request may be answered so, and leaves `p'`. -/
inductive Served : Request → Reply → Plane → Prop where
  | refused (request : Request) (status : Nat) (error : JsString) : Served request (.error status error) p
  | probed (nonce jti : Option JsString) : Served (.killState nonce jti) (p.getSignedKillState opts nonce jti now) p
  -- kill
  | engaged (caller : Caller) (body : Body) (o : StoreOutcome) (source : KillSource) (reason : Option JsString)
      (reply : Json) :
      Served (.kill caller body o) (.killed reply)
        { p with killSwitch := p.killSwitch.engage now source reason (!caller.authenticated) o }.clearChallenges
  | agentEngaged (caller : Caller) (body : Body) (o : StoreOutcome) (agentId : JsString) (source : KillSource)
      (reason : Option JsString) (reply : Json) :
      Served (.kill caller body o) (.killed reply)
        { p with
          killSwitch := (p.killSwitch.engageAgent now agentId source reason (!caller.authenticated) o).1
        }.clearChallenges
  | alerted (caller : Caller) (body : Body) (source : KillSource) (reason : Option JsString) (killed : Bool) :
      Served (.alert caller body) (.alerted killed)
        { p with killSwitch := p.killSwitch.alert now source reason (!caller.authenticated) }
  -- restore ceremony
  | purged (ownerId : JsString) (body : Body) (licenseRefusal : Option JsString) (uuid : JsString) (status : Nat)
      (error : JsString) :
      Served (.ceremonyStart (some ownerId) body licenseRefusal uuid) (.error status error)
        { p with ceremonies := p.purgedCeremonies now }
  | resumed {ownerId : JsString} (body : Body) (licenseRefusal : Option JsString) (uuid : JsString) {id : JsString}
      {record : CeremonyRecord} (hget : (p.purgedCeremonies now).get? id = some record)
      (howner : record.ceremony.ownerId = ownerId) :
      Served (.ceremonyStart (some ownerId) body licenseRefusal uuid)
        (.ceremony 200 id (record.ceremony.tick now).status ((record.ceremony.tick now).cooldownRemainingMs now)
          (record.ceremony.tick now).expiresAt record.agentId)
        { p with ceremonies := (p.purgedCeremonies now).set id { record with ceremony := record.ceremony.tick now } }
  | started {ownerId : JsString} {body : Json} (licenseRefusal : Option JsString) (uuid : JsString)
      {scope : Option JsString} (hscope : ceremonyScope body = some scope) (hrestorable : p.restorable scope = true) :
      Served (.ceremonyStart (some ownerId) (.ok body) licenseRefusal uuid)
        (.ceremony 201 (js "cer_" ++ uuid) ((RestoreCeremony.start (js "cer_" ++ uuid) ownerId now).tick now).status
          (((RestoreCeremony.start (js "cer_" ++ uuid) ownerId now).tick now).cooldownRemainingMs now)
          ((RestoreCeremony.start (js "cer_" ++ uuid) ownerId now).tick now).expiresAt scope)
        { p with
          ceremonies := (p.purgedCeremonies now).set (js "cer_" ++ uuid)
            { ceremony := (RestoreCeremony.start (js "cer_" ++ uuid) ownerId now).tick now
              epoch := p.killSwitch.epoch, agentId := scope } }
  | observed {ownerId id : JsString} {record : CeremonyRecord} (hget : p.ceremonies.get? id = some record)
      (state : CeremonyWireState) (cooldownRemainingMs expiresAt : Int) (agentId : Option JsString) :
      Served (.ceremony (some ownerId) id) (.ceremonyState state cooldownRemainingMs expiresAt agentId)
        { p with ceremonies := p.ceremonies.set id { record with ceremony := record.ceremony.tick now } }
  | restoreDraining (ownerId : Option JsString) (id : JsString) :
      Served (.restoreChallenge ownerId id) .draining { p with draining := .restore id :: p.draining }
  | restoreDrained (id : JsString) (random : Bytes) (status : Nat) (error : JsString) :
      Served (.restoreChallengeDrained id random) (.error status error)
        { p with draining := p.draining.erase (.restore id) }
  | restoreUnready {id : JsString} (random : Bytes) {record : CeremonyRecord}
      (hget : p.ceremonies.get? id = some record) (status : Nat) (error : JsString) :
      Served (.restoreChallengeDrained id random) (.error status error)
        { p with
          draining := p.draining.erase (.restore id)
          ceremonies := p.ceremonies.set id { record with ceremony := record.ceremony.tick now } }
  | restoreChallenged {id : JsString} (random : Bytes) {record : CeremonyRecord}
      (hget : p.ceremonies.get? id = some record) (hrestorable : p.restorable record.agentId = true)
      (hepoch : record.epoch = p.killSwitch.epoch) :
      Served (.restoreChallengeDrained id random)
        (.restoreChallenge (Base64url.encode random) id p.killSwitch.epoch (now + challengeTtlMs) record.agentId)
        { p with
          draining := p.draining.erase (.restore id)
          ceremonies := p.ceremonies.set id { record with ceremony := record.ceremony.tick now }
          restoreChallenges := p.restoreChallenges.set id
            { challenge := Base64url.encode random, killEpoch := p.killSwitch.epoch,
              expiresAt := now + challengeTtlMs } }
  | restoreSpent (ownerId : JsString) {body : Json} (o : StoreOutcome) {id : JsString}
      (hnamed : (bodyText body (js "ceremonyId")).getD [] = id) (status : Nat) (error : JsString) :
      Served (.restore (some ownerId) (.ok body) o) (.error status error)
        { p with restoreChallenges := p.restoreChallenges.delete id }
  | unconfirmed (ownerId : JsString) {body : Json} (o : StoreOutcome) {id : JsString} {record : CeremonyRecord}
      {challenges : JsMap JsString RestoreChallenge} {signCount : Nat}
      (hnamed : (bodyText body (js "ceremonyId")).getD [] = id) (hget : p.ceremonies.get? id = some record)
      (hredeemed : RestoreRedeemed prim opts p now id body challenges signCount) (status : Nat) (error : JsString) :
      Served (.restore (some ownerId) (.ok body) o) (.error status error)
        { p with
          restoreChallenges := challenges, passkeySignCount := signCount
          ceremonies := p.ceremonies.set id { record with ceremony := (record.ceremony.confirm now).1 } }
  | restored {ownerId : JsString} {body : Json} {o : StoreOutcome} {id : JsString} {record : CeremonyRecord}
      {challenges : JsMap JsString RestoreChallenge} {signCount : Nat} {authz : RestoreAuthorization}
      {killSwitch : KillSwitch} (hnamed : (bodyText body (js "ceremonyId")).getD [] = id)
      (hget : p.ceremonies.get? id = some record) (howner : record.ceremony.ownerId = ownerId)
      (hepoch : record.epoch = p.killSwitch.epoch) (hscope : record.agentId = none)
      (hrestorable : p.killSwitch.killed = true)
      (hredeemed : RestoreRedeemed prim opts p now id body challenges signCount)
      (hconfirm : (record.ceremony.confirm now).2 = some authz)
      (hrestore : p.killSwitch.restore now authz o = .ok killSwitch) :
      Served (.restore (some ownerId) (.ok body) o) (.restored false none)
        { p with
          restoreChallenges := challenges, passkeySignCount := signCount
          ceremonies := p.ceremonies.set id { record with ceremony := (record.ceremony.confirm now).1 }
          killSwitch }
  | agentRestored {ownerId : JsString} {body : Json} {o : StoreOutcome} {id agentId : JsString}
      {record : CeremonyRecord}
      {challenges : JsMap JsString RestoreChallenge} {signCount : Nat} {authz : RestoreAuthorization}
      {killSwitch : KillSwitch} (hnamed : (bodyText body (js "ceremonyId")).getD [] = id)
      (hget : p.ceremonies.get? id = some record) (howner : record.ceremony.ownerId = ownerId)
      (hepoch : record.epoch = p.killSwitch.epoch) (hscope : record.agentId = some agentId)
      (hrestorable : p.killSwitch.killed = false)
      (hredeemed : RestoreRedeemed prim opts p now id body challenges signCount)
      (hconfirm : (record.ceremony.confirm now).2 = some authz)
      (hrestore : p.killSwitch.restoreAgent now agentId authz o = .ok killSwitch) :
      Served (.restore (some ownerId) (.ok body) o) (.restored killSwitch.killed (some agentId))
        { p with
          restoreChallenges := challenges, passkeySignCount := signCount
          ceremonies := p.ceremonies.set id { record with ceremony := (record.ceremony.confirm now).1 }
          killSwitch }
  -- login
  | loginSwept (random : Bytes) (status : Nat) (error : JsString) :
      Served (.sessionChallenge random) (.error status error)
        { p with loginChallenges := p.loginChallenges.filter fun _ record => now < record.expiresAt }
  | loginChallenged (random : Bytes) :
      Served (.sessionChallenge random) (.loginChallenge (Base64url.encode random) (now + challengeTtlMs))
        { p with
          loginChallenges := (p.loginChallenges.filter fun _ record => now < record.expiresAt).set
            (Base64url.encode random) { expiresAt := now + challengeTtlMs, killEpoch := p.killSwitch.epoch } }
  | loginSpent {body : Json} {challenge : JsString} (hnamed : textField body (js "challenge") = some challenge)
      (status : Nat) (error : JsString) :
      Served (.session (.ok body)) (.error status error)
        { p with loginChallenges := p.loginChallenges.delete challenge }
  | loggedIn {body : Json} {challenge : JsString} {record : LoginChallenge} {passkey : OwnerPasskey}
      {assertion : WebAuthnAssertion} {signCount : Nat} (hnamed : textField body (js "challenge") = some challenge)
      (henrolled : opts.ownerPasskey = some passkey) (hget : p.loginChallenges.get? challenge = some record)
      (hlive : now < record.expiresAt) (hepoch : record.killEpoch = p.killSwitch.epoch)
      (hredeemed : AssertionRedeemed prim p passkey challenge body assertion signCount) :
      Served (.session (.ok body)) (.session (js "owner"))
        { p with loginChallenges := p.loginChallenges.delete challenge, passkeySignCount := signCount }
  -- approval and veto
  | approvalDraining (ownerId : Option JsString) (id : JsString) :
      Served (.approvalChallenge ownerId id) .draining { p with draining := .approval id :: p.draining }
  | approvalDrained (id : JsString) (random : Bytes) (status : Nat) (error : JsString) :
      Served (.approvalChallengeDrained id random) (.error status error)
        { p with draining := p.draining.erase (.approval id) }
  | approvalChallenged {id : JsString} (random : Bytes) {window : VetoWindow} {canonicalArgs : JsString}
      (hget : p.vetoWindows.get? id = some window) (heligible : prim.grantEligibleArgs window = some canonicalArgs)
      (hlive : p.killSwitch.killed = false) (renderable : Json) (renderHash : JsString) :
      Served (.approvalChallengeDrained id random)
        (.approvalChallenge (Base64url.encode random) renderable renderHash (prim.sha256Hex canonicalArgs)
          (now + challengeTtlMs))
        { p with
          draining := p.draining.erase (.approval id)
          approvalChallenges := p.approvalChallenges.set id
            { challenge := Base64url.encode random, callHash := prim.sha256Hex canonicalArgs, renderHash
              killEpoch := p.killSwitch.epoch, expiresAt := now + challengeTtlMs } }
  | approvalSpent (ownerId : JsString) (fleetDevice : Option JsString) (ownerDevice : Option OwnerDeviceCredential)
      (id : JsString) (body : Json) (status : Nat) (error : JsString) :
      Served (.veto (some ownerId) fleetDevice ownerDevice id (.ok body)) (.error status error)
        { p with approvalChallenges := p.approvalChallenges.delete id }
  | unapproved (ownerId : JsString) (fleetDevice : Option JsString) (ownerDevice : Option OwnerDeviceCredential)
      {id canonicalArgs : JsString} {body : Json} {challenges : JsMap JsString ApprovalChallenge} {signCount : Nat}
      (hredeemed : ApprovalRedeemed prim opts p now id canonicalArgs body challenges signCount) (status : Nat)
      (error : JsString) :
      Served (.veto (some ownerId) fleetDevice ownerDevice id (.ok body)) (.error status error)
        { p with approvalChallenges := challenges, passkeySignCount := signCount }
  | approved {ownerId : JsString} (fleetDevice : Option JsString) (ownerDevice : Option OwnerDeviceCredential)
      {id canonicalArgs : JsString} {body : Json} {window window' : VetoWindow}
      {challenges : JsMap JsString ApprovalChallenge} {signCount : Nat} (hget : p.vetoWindows.get? id = some window)
      (heligible : prim.grantEligibleArgs window = some canonicalArgs) (hlive : p.killSwitch.killed = false)
      (hagent : p.killSwitch.agentKilled window.call.agentId = false)
      (hredeemed : ApprovalRedeemed prim opts p now id canonicalArgs body challenges signCount)
      (happrove : window.approve ownerId p.killSwitch.epoch now = .ok window') :
      Served (.veto (some ownerId) fleetDevice ownerDevice id (.ok body)) .approved
        { p with
          approvalChallenges := challenges, passkeySignCount := signCount
          vetoWindows := p.vetoWindows.set id window' }
  | alreadyVetoed (ownerId fleetDevice : Option JsString) (ownerDevice : Option OwnerDeviceCredential) {id : JsString}
      (body : Body) {window : VetoWindow} (hget : p.vetoWindows.get? id = some window)
      (hvetoed : window.status = .vetoed) :
      Served (.veto ownerId fleetDevice ownerDevice id body) (.vetoed .vetoed) p
  | stopped (ownerId fleetDevice : Option JsString) (ownerDevice : Option OwnerDeviceCredential) {id : JsString}
      (body : Body) {window window' : VetoWindow} {«by» : JsString} (hget : p.vetoWindows.get? id = some window)
      (hcommitted : (p.windowToGrant.get? id).any p.committedGrants.contains = false)
      (hveto : window.veto «by» = .ok window') :
      Served (.veto ownerId fleetDevice ownerDevice id body) (.vetoed window'.status) (p.setWindow id window')
  | registered {body : Json} {call : ToolCall} (purpose : Option VetoPurpose) (hex : JsString)
      (hcall : toolCallFrom (body.get (js "call")) = some call)
      (hagent : p.killSwitch.agentKilled call.agentId = false) :
      Served (.registerVeto true (.ok body) hex)
        (.registered (js "veto_" ++ hex) (VetoWindow.register call p.killSwitch.epoch purpose now).status)
        (p.setWindow (js "veto_" ++ hex) (VetoWindow.register call p.killSwitch.epoch purpose now))
  -- status reads
  | statusRead {id : JsString} (deviceRead : Bool) (hex : JsString) {window : VetoWindow}
      (hget : p.vetoWindows.get? id = some window) (status : VetoWireStatus) (pacing : Option Pacing)
      (hreleased : status = .ofWindow .released →
        (opts.grantKey = false ∨ prim.grantEligibleArgs window = none) ∧ window.killEpoch = p.killSwitch.epoch ∧
          (window.tick (p.witnessStanding prim) now).status = .released) :
      Served (.getVeto id deviceRead hex) (.window status pacing none)
        (p.setWindow id (window.tick (p.witnessStanding prim) now))
  | granted {id : JsString} (deviceRead : Bool) (hex : JsString) {window : VetoWindow} {canonicalArgs : JsString}
      {approval : OwnerApproval} (hget : p.vetoWindows.get? id = some window) (hkey : opts.grantKey = true)
      (heligible : prim.grantEligibleArgs window = some canonicalArgs)
      (hstatus : (window.tick (p.witnessStanding prim) now).status ≠ .vetoed)
      (happroval : window.approval = some approval) (hungranted : id ∉ p.grantedWindows)
      (hlive : p.killSwitch.killed = false) (hepoch : approval.approvalEpoch = p.killSwitch.epoch) (grant : MergeGrant)
      (hjti : grant.jti = js "grant_" ++ id ++ js "_" ++ hex) :
      Served (.getVeto id deviceRead hex) (.window (.ofWindow .released) none (some grant))
        { p with
          vetoWindows := p.vetoWindows.set id (window.tick (p.witnessStanding prim) now)
          mintedGrants := p.mintedGrants.set grant.jti id
          windowToGrant := p.windowToGrant.set id grant.jti
          grantedWindows := p.grantedWindows.insert id }
  | listed (windows : List PendingWindow) : Served (.vetoPending true) (.pending windows) (p.tickWindows prim now)
  -- delivery
  | detailed (ownerDevice : Option OwnerDeviceCredential) {id : JsString} (hex : JsString) {window : VetoWindow}
      (hget : p.vetoWindows.get? id = some window) (display : RenderableAlert) :
      Served (.vetoDetail ownerDevice id hex)
        (.detail id display (window.tick (p.witnessStanding prim) now).status
          (window.tick (p.witnessStanding prim) now).revision (window.tick (p.witnessStanding prim) now).deadline none)
        (p.setWindow id (window.tick (p.witnessStanding prim) now))
  | fetched {ownerDevice : Option OwnerDeviceCredential} {id : JsString} (hex : JsString) {window : VetoWindow}
      {deviceId : JsString} {delivery : OwnerDelivery} {ackable : RenderableAlert}
      (hdevice : p.validOwnerDeviceId prim ownerDevice = some deviceId) (hget : p.vetoWindows.get? id = some window)
      (hopen : (window.tick (p.witnessStanding prim) now).status.isOpen = true)
      (hackable : prim.ackableContent (window.tick (p.witnessStanding prim) now) = some ackable)
      (hdelivery : delivery =
        { windowId := id, revision := (window.tick (p.witnessStanding prim) now).revision
          renderHash := prim.renderContentHashOf ackable
          callHash := prim.callHashOf (window.tick (p.witnessStanding prim) now), deviceId
          deviceGeneration :=
            ((p.devices.resolveOwnerDevice prim.parseSpki deviceId).map EnrolledOwnerDevice.generation).getD 0
          expiresAt := now + deliveryTtlMs, consumed := false })
      (display : RenderableAlert) :
      Served (.vetoDetail ownerDevice id hex)
        (.detail id display (window.tick (p.witnessStanding prim) now).status
          (window.tick (p.witnessStanding prim) now).revision (window.tick (p.witnessStanding prim) now).deadline
          (some
            { renderable := ackable, deliveryId := js "del_" ++ hex
              renderContentHash := prim.renderContentHashOf ackable, deliveryExpiresAt := now + deliveryTtlMs }))
        { p with
          vetoWindows := p.vetoWindows.set id (window.tick (p.witnessStanding prim) now)
          ownerDeliveries := p.ownerDeliveries.set (js "del_" ++ hex) delivery }
  | reacked (ownerDevice : Option OwnerDeviceCredential) {id : JsString} (body : Body) {window : VetoWindow}
      (hget : p.vetoWindows.get? id = some window) (hdelivered : window.delivered.isSome = true) :
      Served (.vetoSeen ownerDevice id body)
        (.seen (window.tick (p.witnessStanding prim) now).status
          (window.tick (p.witnessStanding prim) now).deadline none)
        (p.setWindow id (window.tick (p.witnessStanding prim) now))
  | unacked (ownerDevice : Option OwnerDeviceCredential) {id : JsString} (body : Body) {window : VetoWindow}
      (hget : p.vetoWindows.get? id = some window) (status : Nat) (error : JsString) :
      Served (.vetoSeen ownerDevice id body) (.error status error)
        (p.setWindow id (window.tick (p.witnessStanding prim) now))
  | forgotten (ownerDevice : Option OwnerDeviceCredential) {id : JsString} (body : Body) {window : VetoWindow}
      (hget : p.vetoWindows.get? id = some window) (deliveryId : JsString) (status : Nat) (error : JsString) :
      Served (.vetoSeen ownerDevice id body) (.error status error)
        { p with
          vetoWindows := p.vetoWindows.set id (window.tick (p.witnessStanding prim) now)
          ownerDeliveries := p.ownerDeliveries.delete deliveryId }
  | acked {ownerDevice : Option OwnerDeviceCredential} {id : JsString} {body : Json} {window : VetoWindow}
      {deviceId deliveryId : JsString} {delivery : OwnerDelivery} {generation : Nat}
      (hdevice : p.validOwnerDeviceId prim ownerDevice = some deviceId) (hget : p.vetoWindows.get? id = some window)
      (hundelivered : window.delivered = none) (hlive : p.killSwitch.killed = false)
      (hopen : (window.tick (p.witnessStanding prim) now).status.isOpen = true)
      (haccepted :
        AckAccepted prim p now id deviceId (window.tick (p.witnessStanding prim) now) body deliveryId delivery
        generation) :
      Served (.vetoSeen ownerDevice id (.ok body))
        (.seen (window.tick (p.witnessStanding prim) now).status (window.tick (p.witnessStanding prim) now).deadline
          (some (window.tick (p.witnessStanding prim) now).revision))
        { p with
          ownerDeliveries := p.ownerDeliveries.set deliveryId { delivery with consumed := true }
          vetoWindows := p.vetoWindows.set id
            ((window.tick (p.witnessStanding prim) now).markDelivered (some deviceId) (some generation) now) }
  -- the signed channel
  | committed (body : Body) (nonce : JsString) {jti : JsString} (hcommittable : p.committable jti = true) :
      Served (.grantCommit body true)
        (.commit p.killSwitch.killed p.killSwitch.epoch nonce (now + killStateTtlMs) jti true)
        { p with committedGrants := p.committedGrants.insert jti }
  | uncommitted (body : Body) (nonce jti : JsString) :
      Served (.grantCommit body true)
        (.commit p.killSwitch.killed p.killSwitch.epoch nonce (now + killStateTtlMs) jti false) p
  -- devices
  | revoked (caller : Caller) (id : JsString) (registrySave : RegistrySave) (save : StandingSave) (o : StoreOutcome) :
      Served (.deviceRevoke caller id registrySave save o)
        (.revoked (p.devices.postDeviceRevoke p.registryFile id registrySave save now).reply)
        (p.adopt prim (p.devices.postDeviceRevoke p.registryFile id registrySave save now) now o)
  | enrolled (submission : PerformEnrollmentOutcome) (deviceId : JsString) (registrySave : RegistrySave)
      (save : StandingSave) (o : StoreOutcome) :
      Served (.deviceEnroll submission deviceId registrySave save o)
        (.enrolled
          (p.devices.postDeviceEnroll prim.parseSpki p.registryFile submission deviceId registrySave save now).reply)
        (p.adopt prim
          (p.devices.postDeviceEnroll prim.parseSpki p.registryFile submission deviceId registrySave save now) now o)
  | minted (save : RegistrySave) : Served (.mintInvite save) .minted (p.mintInvite save)

variable {prim opts p now}

theorem postKill_served (caller : Caller) (body : Body) (o : StoreOutcome) :
    Served prim opts p now (.kill caller body o) (p.postKill caller body now o).1 (p.postKill caller body now o).2 := by
  unfold postKill
  split
  · exact .refused _ _ _
  · cases body with
    | error e => exact .refused _ _ _
    | ok body =>
        dsimp only
        split
        · split
          · exact .refused _ _ _
          · exact .agentEngaged caller (.ok body) o _ _ _ _
        · exact .engaged caller (.ok body) o _ _ _

theorem postAlert_served (caller : Caller) (body : Body) :
    Served prim opts p now (.alert caller body) (p.postAlert caller body now).1 (p.postAlert caller body now).2 := by
  unfold postAlert
  split
  · exact .refused _ _ _
  · cases body with
    | error e => exact .refused _ _ _
    | ok body => exact .alerted caller (.ok body) _ _ _

theorem startCeremony_served {ownerId : JsString} {body : Json} (licenseRefusal : Option JsString) (uuid : JsString)
    {scope : Option JsString} (hscope : ceremonyScope body = some scope) (hrestorable : p.restorable scope = true) :
    Served prim opts p now (.ceremonyStart (some ownerId) (.ok body) licenseRefusal uuid)
      (p.startCeremony ownerId scope licenseRefusal uuid now).1
      (p.startCeremony ownerId scope licenseRefusal uuid now).2 := by
  unfold startCeremony
  dsimp only
  split
  · rename_i id record hfind
    have hmem := List.mem_of_find?_eq_some hfind
    have howned := List.find?_some hfind
    simp only [Bool.and_eq_true, decide_eq_true_eq] at howned
    exact .resumed (.ok body) licenseRefusal uuid (JsMap.get?_eq_some_iff.mpr hmem) howned.1
  · split
    · exact .purged ownerId (.ok body) _ uuid _ _
    · split
      · exact .purged ownerId (.ok body) _ uuid _ _
      · exact .started _ uuid hscope hrestorable

theorem postCeremonyStart_served (ownerId : Option JsString) (body : Body) (licenseRefusal : Option JsString)
    (uuid : JsString) :
    Served prim opts p now (.ceremonyStart ownerId body licenseRefusal uuid)
      (p.postCeremonyStart ownerId body licenseRefusal uuid now).1
      (p.postCeremonyStart ownerId body licenseRefusal uuid now).2 := by
  unfold postCeremonyStart
  cases ownerId with
  | none => exact .refused _ _ _
  | some ownerId =>
      cases body with
      | error e => exact .refused _ _ _
      | ok body =>
          dsimp only
          split
          · exact .refused _ _ _
          · rename_i scope hscope
            split
            · rename_i hrestorable
              exact startCeremony_served licenseRefusal uuid hscope hrestorable
            · cases scope with
              | none => exact .refused _ _ _
              | some agentId =>
                  dsimp only
                  split
                  · exact .refused _ _ _
                  · exact .refused _ _ _

theorem getCeremony_served (ownerId : Option JsString) (id : JsString) :
    Served prim opts p now (.ceremony ownerId id) (p.getCeremony ownerId id now).1
      (p.getCeremony ownerId id now).2 := by
  unfold getCeremony
  cases ownerId with
  | none => exact .refused _ _ _
  | some ownerId =>
      dsimp only
      split
      · exact .refused _ _ _
      · rename_i record hget
        exact .observed (Option.filter_eq_some_iff.mp hget).1 _ _ _ _

theorem postRestoreChallenge_served (ownerId : Option JsString) (id : JsString) :
    Served prim opts p now (.restoreChallenge ownerId id) (p.postRestoreChallenge opts ownerId id).1
      (p.postRestoreChallenge opts ownerId id).2 := by
  unfold postRestoreChallenge
  cases ownerId with
  | none => exact .refused _ _ _
  | some ownerId =>
      dsimp only
      split
      · exact .refused _ _ _
      · split
        · exact .refused _ _ _
        · split
          · exact .refused _ _ _
          · split
            · exact .refused _ _ _
            · split
              · exact .refused _ _ _
              · exact .restoreDraining (some ownerId) id

theorem postRestoreChallengeDrained_served (id : JsString) (random : Bytes) :
    Served prim opts p now (.restoreChallengeDrained id random) (p.postRestoreChallengeDrained id random now).1
      (p.postRestoreChallengeDrained id random now).2 := by
  unfold postRestoreChallengeDrained
  split
  · exact .refused _ _ _
  · dsimp only
    split
    · exact .restoreDrained id random _ _
    · rename_i record hget
      obtain ⟨hget, hchecked⟩ := Option.filter_eq_some_iff.mp hget
      rw [Bool.and_eq_true, decide_eq_true_eq] at hchecked
      split
      · exact .restoreUnready random hget _ _
      · exact .restoreChallenged random hget hchecked.1 hchecked.2

/-- What the verification of an assertion leaves. -/
theorem redeemAssertion_cases (prim : Primitives) (p : Plane) (passkey : OwnerPasskey) (challenge : JsString)
    {body : Json} {assertion : WebAuthnAssertion} (hfrom : assertionFrom (body.get (js "assertion")) = some assertion) :
    (∃ reason, p.redeemAssertion prim passkey challenge assertion
      = (some (.error 401 (js "passkey assertion rejected: " ++ reason)), p)) ∨
    ∃ signCount, AssertionRedeemed prim p passkey challenge body assertion signCount ∧
      p.redeemAssertion prim passkey challenge assertion = (none, { p with passkeySignCount := signCount }) := by
  unfold redeemAssertion
  cases hverify : assertion.verifyOwnerAssertion prim.crypto passkey challenge p.passkeySignCount with
  | error reason => exact .inl ⟨reason, rfl⟩
  | ok k => exact .inr ⟨_, ⟨hfrom, k, hverify, rfl⟩, rfl⟩

/-- A challenge is spent by its redemption, whether the assertion is good or not. -/
theorem redeemRestoreChallenge_cases (prim : Primitives) (opts : ServerOptions) (p : Plane) (now : Int)
    (id : JsString) (body : Json) :
    (∃ status error, p.redeemRestoreChallenge prim opts id body now
      = (some (.error status error), { p with restoreChallenges := p.restoreChallenges.delete id })) ∨
    ∃ challenges signCount, RestoreRedeemed prim opts p now id body challenges signCount ∧
      p.redeemRestoreChallenge prim opts id body now
        = (none, { p with restoreChallenges := challenges, passkeySignCount := signCount }) := by
  unfold redeemRestoreChallenge
  cases henrolled : opts.ownerPasskey with
  | none => exact .inr ⟨_, _, .sessionOnly henrolled, rfl⟩
  | some passkey =>
      dsimp only
      split
      · exact .inl ⟨_, _, rfl⟩
      · rename_i chal hget
        obtain ⟨hget, hlive⟩ := Option.filter_eq_some_iff.mp hget
        split
        · exact .inl ⟨_, _, rfl⟩
        · rename_i hepoch
          cases hfrom : assertionFrom (body.get (js "assertion")) with
          | none => exact .inl ⟨_, _, rfl⟩
          | some assertion =>
              dsimp only
              rcases redeemAssertion_cases prim { p with restoreChallenges := p.restoreChallenges.delete id } passkey
                chal.challenge hfrom with
                ⟨reason, hrefused⟩ | ⟨signCount, ⟨hsame, hverified⟩, hredeemed⟩
              · exact .inl ⟨_, _, hrefused⟩
              · exact .inr ⟨_, signCount, .assertion henrolled hget (of_decide_eq_true hlive) (not_not.mp hepoch)
                  ⟨hsame, hverified⟩, hredeemed⟩

/-- The end of a restore whose challenge was redeemed. -/
theorem confirmRestore_served {ownerId : JsString} {body : Json} (o : StoreOutcome) {id : JsString}
    {record : CeremonyRecord} {challenges : JsMap JsString RestoreChallenge} {signCount : Nat}
    (hnamed : (bodyText body (js "ceremonyId")).getD [] = id) (hget : p.ceremonies.get? id = some record)
    (howner : record.ceremony.ownerId = ownerId) (hepoch : record.epoch = p.killSwitch.epoch)
    (hrestorable : p.restorable record.agentId = true)
    (hredeemed : RestoreRedeemed prim opts p now id body challenges signCount) :
    Served prim opts p now (.restore (some ownerId) (.ok body) o)
      (confirmRestore { p with restoreChallenges := challenges, passkeySignCount := signCount } id record now o).1
      (confirmRestore { p with restoreChallenges := challenges, passkeySignCount := signCount } id record now o).2 := by
  obtain ⟨ceremony, epoch, scope⟩ := record
  unfold confirmRestore
  dsimp only at howner hepoch hrestorable ⊢
  cases hconfirm : (ceremony.confirm now).2 with
  | none => exact .unconfirmed ownerId o hnamed hget hredeemed _ _
  | some authz =>
      cases scope with
      | none =>
          dsimp only
          cases hrestore : p.killSwitch.restore now authz o with
          | error e => exact .unconfirmed ownerId o hnamed hget hredeemed _ _
          | ok killSwitch =>
              exact .restored hnamed hget howner hepoch rfl hrestorable hredeemed hconfirm hrestore
      | some agentId =>
          rw [restorable, Bool.and_eq_true, Bool.not_eq_true'] at hrestorable
          dsimp only
          cases hrestore : p.killSwitch.restoreAgent now agentId authz o with
          | error e => exact .unconfirmed ownerId o hnamed hget hredeemed _ _
          | ok killSwitch =>
              exact .agentRestored hnamed hget howner hepoch rfl hrestorable.1 hredeemed hconfirm hrestore

theorem postRestore_served (ownerId : Option JsString) (body : Body) (o : StoreOutcome) :
    Served prim opts p now (.restore ownerId body o) (p.postRestore prim opts ownerId body now o).1
      (p.postRestore prim opts ownerId body now o).2 := by
  unfold postRestore
  cases ownerId with
  | none => exact .refused _ _ _
  | some ownerId =>
      cases body with
      | error e => exact .refused _ _ _
      | ok body =>
          dsimp only
          cases hget : p.ceremonies.get? ((bodyText body (js "ceremonyId")).getD []) with
          | none => exact .refused _ _ _
          | some record =>
              dsimp only
              split
              · exact .refused _ _ _
              · rename_i hchecked
                simp only [Bool.or_eq_true, decide_eq_true_eq, Bool.not_eq_true', not_or, not_not,
                  Bool.not_eq_false] at hchecked
                obtain ⟨⟨⟨-, howner⟩, hepoch⟩, hrestorable⟩ := hchecked
                rcases redeemRestoreChallenge_cases prim opts p now
                  ((bodyText body (js "ceremonyId")).getD []) body with
                  ⟨status, error, hrefused⟩ | ⟨challenges, signCount, hredeemed, haccepted⟩
                · rw [hrefused]
                  exact .restoreSpent ownerId o rfl status error
                · rw [haccepted]
                  exact confirmRestore_served o rfl hget howner hepoch hrestorable hredeemed

theorem postSessionChallenge_served (random : Bytes) :
    Served prim opts p now (.sessionChallenge random) (p.postSessionChallenge opts random now).1
      (p.postSessionChallenge opts random now).2 := by
  unfold postSessionChallenge
  split
  · exact .refused _ _ _
  · dsimp only
    split
    · exact .loginSwept random _ _
    · exact .loginChallenged random

theorem postSession_served (body : Body) :
    Served prim opts p now (.session body) (p.postSession prim opts body now).1
      (p.postSession prim opts body now).2 := by
  unfold postSession
  cases henrolled : opts.ownerPasskey with
  | none => exact .refused _ _ _
  | some passkey =>
      cases body with
      | error e => exact .refused _ _ _
      | ok body =>
          dsimp only
          cases hnamed : textField body (js "challenge") with
          | none => exact .refused _ _ _
          | some challenge =>
              dsimp only
              unfold redeemLoginChallenge
              dsimp only
              cases hget : (p.loginChallenges.get? challenge).filter fun record => decide (now < record.expiresAt) with
              | none => exact .loginSpent hnamed _ _
              | some record =>
                  obtain ⟨hget, hlive⟩ := Option.filter_eq_some_iff.mp hget
                  dsimp only
                  by_cases hepoch : record.killEpoch = p.killSwitch.epoch
                  · rw [if_neg (not_not.mpr hepoch)]
                    cases hfrom : assertionFrom (body.get (js "assertion")) with
                    | none => exact .loginSpent hnamed _ _
                    | some assertion =>
                        dsimp only
                        rcases redeemAssertion_cases prim
                          { p with loginChallenges := p.loginChallenges.delete challenge } passkey challenge
                          hfrom with ⟨reason, hrefused⟩ | ⟨signCount, ⟨hsame, hverified⟩, hredeemed⟩
                        · rw [hrefused]
                          exact .loginSpent hnamed _ _
                        · rw [hredeemed]
                          exact .loggedIn hnamed henrolled hget (of_decide_eq_true hlive) hepoch ⟨hsame, hverified⟩
                  · rw [if_pos hepoch]
                    exact .loginSpent hnamed _ _

theorem postApprovalChallenge_served (ownerId : Option JsString) (id : JsString) :
    Served prim opts p now (.approvalChallenge ownerId id) (p.postApprovalChallenge prim opts ownerId id).1
      (p.postApprovalChallenge prim opts ownerId id).2 := by
  unfold postApprovalChallenge
  split
  · exact .refused _ _ _
  · split
    · exact .refused _ _ _
    · split
      · exact .refused _ _ _
      · split
        · exact .refused _ _ _
        · split
          · exact .refused _ _ _
          · exact .approvalDraining ownerId id

theorem postApprovalChallengeDrained_served (id : JsString) (random : Bytes) :
    Served prim opts p now (.approvalChallengeDrained id random) (p.postApprovalChallengeDrained prim id random now).1
      (p.postApprovalChallengeDrained prim id random now).2 := by
  unfold postApprovalChallengeDrained
  split
  · exact .refused _ _ _
  · dsimp only
    split
    · exact .approvalDrained id random _ _
    · rename_i hlive
      split
      · exact .approvalDrained id random _ _
      · rename_i canonicalArgs heligible
        obtain ⟨window, hget, heligible⟩ := Option.bind_eq_some_iff.mp heligible
        split
        · exact .approvalDrained id random _ _
        · exact .approvalChallenged random hget heligible (Bool.not_eq_true _ ▸ hlive) _ _

/-- A redemption that is refused changes nothing but the challenge, which it may spend. -/
theorem redeemApprovalChallenge_cases (prim : Primitives) (opts : ServerOptions) (p : Plane) (now : Int)
    (id canonicalArgs : JsString) (body : Json) :
    (∃ status error, p.redeemApprovalChallenge prim opts id canonicalArgs body now = (some (.error status error), p)) ∨
    (∃ status error, p.redeemApprovalChallenge prim opts id canonicalArgs body now
      = (some (.error status error), { p with approvalChallenges := p.approvalChallenges.delete id })) ∨
    ∃ challenges signCount, ApprovalRedeemed prim opts p now id canonicalArgs body challenges signCount ∧
      p.redeemApprovalChallenge prim opts id canonicalArgs body now
        = (none, { p with approvalChallenges := challenges, passkeySignCount := signCount }) := by
  unfold redeemApprovalChallenge
  cases henrolled : opts.ownerPasskey with
  | none =>
      dsimp only
      split
      · exact .inr (.inr ⟨_, _, .sessionOnly henrolled, rfl⟩)
      · exact .inl ⟨_, _, rfl⟩
  | some passkey =>
      refine .inr ?_
      dsimp only
      split
      · exact .inl ⟨_, _, rfl⟩
      · rename_i chal hget
        obtain ⟨hget, hlive⟩ := Option.filter_eq_some_iff.mp hget
        split
        · exact .inl ⟨_, _, rfl⟩
        · rename_i hepoch
          split
          · exact .inl ⟨_, _, rfl⟩
          · rename_i hcall
            cases hfrom : assertionFrom (body.get (js "assertion")) with
            | none => exact .inl ⟨_, _, rfl⟩
            | some assertion =>
                dsimp only
                rcases redeemAssertion_cases prim { p with approvalChallenges := p.approvalChallenges.delete id }
                  passkey chal.challenge hfrom with
                  ⟨reason, hrefused⟩ | ⟨signCount, ⟨hsame, hverified⟩, hredeemed⟩
                · exact .inl ⟨_, _, hrefused⟩
                · exact .inr ⟨_, signCount, .assertion henrolled hget (of_decide_eq_true hlive) (not_not.mp hepoch)
                    (not_not.mp hcall) ⟨hsame, hverified⟩, hredeemed⟩

/-- An approval of a window that is there. -/
theorem approveWindow_served (ownerId : JsString) (fleetDevice : Option JsString)
    (ownerDevice : Option OwnerDeviceCredential) {id : JsString} {window : VetoWindow} (body : Json)
    (hget : p.vetoWindows.get? id = some window) :
    Served prim opts p now (.veto (some ownerId) fleetDevice ownerDevice id (.ok body))
      (p.approveWindow prim opts ownerId id window body now).1
      (p.approveWindow prim opts ownerId id window body now).2 := by
  unfold approveWindow
  cases heligible : prim.grantEligibleArgs window with
  | none => exact .refused _ _ _
  | some canonicalArgs =>
      dsimp only
      split
      · exact .refused _ _ _
      · rename_i hlive
        split
        · exact .refused _ _ _
        · rename_i hagent
          rcases redeemApprovalChallenge_cases prim opts p now id canonicalArgs
            body with ⟨status, error, hrefused⟩ | ⟨status, error, hspent⟩ |
              ⟨challenges, signCount, hredeemed, haccepted⟩
          · rw [hrefused]
            exact .refused _ _ _
          · rw [hspent]
            exact .approvalSpent ownerId fleetDevice ownerDevice id body _ _
          · rw [haccepted]
            dsimp only
            cases happrove : window.approve ownerId p.killSwitch.epoch now with
            | error e => exact .unapproved ownerId fleetDevice ownerDevice hredeemed _ _
            | ok window' =>
                exact .approved fleetDevice ownerDevice hget heligible (Bool.eq_false_iff.mpr hlive)
                  (Bool.eq_false_iff.mpr hagent) hredeemed happrove

/-- A veto of a window that is there. -/
theorem stopWindow_served (ownerId fleetDevice : Option JsString) (ownerDevice : Option OwnerDeviceCredential)
    {id : JsString} (body : Body) {window : VetoWindow} («by» : JsString)
    (hget : p.vetoWindows.get? id = some window) :
    Served prim opts p now (.veto ownerId fleetDevice ownerDevice id body) (p.stopWindow id window «by»).1
      (p.stopWindow id window «by»).2 := by
  unfold stopWindow
  split
  · rename_i hvetoed
    exact .alreadyVetoed ownerId fleetDevice ownerDevice body hget hvetoed
  · split
    · exact .refused _ _ _
    · rename_i hcommitted
      cases hveto : window.veto «by» with
      | error e => exact .refused _ _ _
      | ok window' =>
          exact .stopped ownerId fleetDevice ownerDevice body hget (Bool.eq_false_iff.mpr hcommitted) hveto

theorem postDeviceVeto_served (fleetDevice : Option JsString) (ownerDevice : Option OwnerDeviceCredential)
    (id : JsString) (body : Body) :
    Served prim opts p now (.veto none fleetDevice ownerDevice id body)
      (p.postDeviceVeto prim fleetDevice ownerDevice id body).1
      (p.postDeviceVeto prim fleetDevice ownerDevice id body).2 := by
  unfold postDeviceVeto
  dsimp only
  split
  · exact .refused _ _ _
  · cases hget : p.vetoWindows.get? id with
    | none => exact .refused _ _ _
    | some window =>
        cases body with
        | error e => exact .refused _ _ _
        | ok body =>
            dsimp only
            split
            · exact .refused _ _ _
            · split
              · exact stopWindow_served none fleetDevice ownerDevice (.ok body) _ hget
              · split
                · exact .refused _ _ _
                · exact stopWindow_served none fleetDevice ownerDevice (.ok body) _ hget

theorem postVeto_served (ownerId fleetDevice : Option JsString) (ownerDevice : Option OwnerDeviceCredential)
    (id : JsString) (body : Body) :
    Served prim opts p now (.veto ownerId fleetDevice ownerDevice id body)
      (p.postVeto prim opts ownerId fleetDevice ownerDevice id body now).1
      (p.postVeto prim opts ownerId fleetDevice ownerDevice id body now).2 := by
  unfold postVeto
  cases ownerId with
  | none => exact postDeviceVeto_served fleetDevice ownerDevice id body
  | some ownerId =>
      cases hget : p.vetoWindows.get? id with
      | none => exact .refused _ _ _
      | some window =>
          cases body with
          | error e => exact .refused _ _ _
          | ok body =>
              dsimp only
              split
              · exact approveWindow_served ownerId fleetDevice ownerDevice body hget
              · split
                · exact stopWindow_served (some ownerId) fleetDevice ownerDevice (.ok body) ownerId hget
                · exact .refused _ _ _

theorem postRegisterVeto_served (signed : Bool) (body : Body) (hex : JsString) :
    Served prim opts p now (.registerVeto signed body hex) (p.postRegisterVeto prim signed body hex now).1
      (p.postRegisterVeto prim signed body hex now).2 := by
  unfold postRegisterVeto
  cases signed with
  | false => exact .refused _ _ _
  | true =>
      cases body with
      | error e => exact .refused _ _ _
      | ok body =>
          rw [if_neg (by simp)]
          dsimp only
          cases hcall : toolCallFrom (body.get (js "call")) with
          | none => exact .refused _ _ _
          | some call =>
              dsimp only
              split
              · exact .refused _ _ _
              · rename_i hagent
                split
                · exact .refused _ _ _
                · exact .registered _ hex hcall (Bool.eq_false_iff.mpr hagent)

/-- A status read in the grant lane. -/
theorem readGrantLane_served {id : JsString} (deviceRead : Bool) (hex : JsString) {window : VetoWindow}
    {canonicalArgs : JsString} (pacing : Option Pacing) (hget : p.vetoWindows.get? id = some window)
    (hkey : opts.grantKey = true)
    (heligible : prim.grantEligibleArgs window = some canonicalArgs) :
    Served prim opts p now (.getVeto id deviceRead hex)
      ((p.setWindow id (window.tick (p.witnessStanding prim) now)).readGrantLane prim opts id
        (window.tick (p.witnessStanding prim) now) canonicalArgs pacing hex now).1
      ((p.setWindow id (window.tick (p.witnessStanding prim) now)).readGrantLane prim opts id
        (window.tick (p.witnessStanding prim) now) canonicalArgs pacing hex now).2 := by
  unfold readGrantLane
  split
  · exact .statusRead deviceRead hex hget _ _ nofun
  · rename_i hstatus
    split
    · exact .statusRead deviceRead hex hget _ _ nofun
    · rename_i approval happroval
      rw [VetoWindow.tick_approval] at happroval
      split
      · exact .statusRead deviceRead hex hget _ _ nofun
      · rename_i hungranted
        split
        · exact .statusRead deviceRead hex hget _ _ nofun
        · rename_i hlive
          rw [Bool.or_eq_true, not_or, decide_eq_true_eq, not_not, Bool.not_eq_true] at hlive
          dsimp only
          split
          · exact .statusRead deviceRead hex hget _ _ nofun
          · exact .granted deviceRead hex hget hkey heligible hstatus happroval
              (by simpa [setWindow] using hungranted) hlive.1 hlive.2 _ rfl

/-- What is told released is released in the epoch the switch is in. -/
theorem wireStatus_released {window : VetoWindow} (h : p.wireStatus window = .ofWindow .released) :
    window.killEpoch = p.killSwitch.epoch ∧ window.status = .released := by
  unfold wireStatus at h
  split at h
  · cases h
  · rename_i hspent
    injection h with hstatus
    rw [Bool.and_eq_true, decide_eq_true_eq, decide_eq_true_eq, not_and, not_not] at hspent
    exact ⟨hspent hstatus, hstatus⟩

/-- A status read, in the grant lane or out of it. -/
theorem getVeto_served (id : JsString) (deviceRead : Bool) (hex : JsString) :
    Served prim opts p now (.getVeto id deviceRead hex) (p.getVeto prim opts id deviceRead hex now).1
      (p.getVeto prim opts id deviceRead hex now).2 := by
  unfold getVeto
  cases hget : p.vetoWindows.get? id with
  | none => exact .refused _ _ _
  | some window =>
      dsimp only
      rw [Primitives.grantEligibleArgs_tick]
      split
      · rename_i canonicalArgs heligible
        split at heligible
        · rename_i hkey
          exact readGrantLane_served deviceRead hex _ hget hkey heligible
        · cases heligible
      · rename_i hplain
        refine .statusRead deviceRead hex hget _ _ fun hreleased => ?_
        obtain ⟨hepoch, hstatus⟩ := wireStatus_released hreleased
        rw [VetoWindow.tick_killEpoch] at hepoch
        refine ⟨?_, hepoch, hstatus⟩
        split at hplain
        · exact .inr hplain
        · rename_i hkey
          exact .inl (Bool.eq_false_iff.mpr hkey)

theorem getVetoPending_served (signed : Bool) :
    Served prim opts p now (.vetoPending signed) (p.getVetoPending prim signed now).1
      (p.getVetoPending prim signed now).2 := by
  cases signed with
  | false => exact .refused _ _ _
  | true => exact .listed _

theorem getVetoDetail_served (ownerDevice : Option OwnerDeviceCredential) (id hex : JsString) :
    Served prim opts p now (.vetoDetail ownerDevice id hex) (p.getVetoDetail prim ownerDevice id hex now).1
      (p.getVetoDetail prim ownerDevice id hex now).2 := by
  unfold getVetoDetail
  split
  · exact .refused _ _ _
  · cases hdevice : p.validOwnerDeviceId prim ownerDevice with
    | none => exact .refused _ _ _
    | some deviceId =>
        cases hget : p.vetoWindows.get? id with
        | none => exact .refused _ _ _
        | some window =>
            dsimp only
            split
            · exact .detailed ownerDevice hex hget _
            · rename_i ackable hackable
              split at hackable
              · rename_i hopen
                rw [Bool.and_eq_true] at hopen
                exact .fetched hex hdevice hget hopen.2 hackable rfl _
              · cases hackable

/-- An ack counts, or leaves the deliveries as they are or without the one it named. -/
theorem ackRefusal_cases (prim : Primitives) (p : Plane) (now : Int) (id : JsString) (window : VetoWindow)
    (deviceId : JsString) (body : Json) :
    (∃ reason, p.ackRefusal prim id window deviceId body now = .error (reason, p)) ∨
    (∃ reason deliveryId, p.ackRefusal prim id window deviceId body now
      = .error (reason, { p with ownerDeliveries := p.ownerDeliveries.delete deliveryId })) ∨
    ∃ deliveryId delivery generation, AckAccepted prim p now id deviceId window body deliveryId delivery generation ∧
      p.ackRefusal prim id window deviceId body now = .ok (deliveryId, delivery, generation) := by
  unfold ackRefusal
  dsimp only
  cases hknown : p.ownerDeliveries.get? ((bodyText body (js "deliveryId")).getD []) with
  | none => exact .inl ⟨_, rfl⟩
  | some delivery =>
      dsimp only
      by_cases hconsumed : delivery.consumed = true
      · exact .inl ⟨_, if_pos hconsumed⟩
      rw [if_neg hconsumed]
      by_cases hexpired : delivery.expiresAt ≤ now
      · exact .inr (.inl ⟨_, _, if_pos hexpired⟩)
      rw [if_neg hexpired]
      by_cases hwindow : delivery.windowId = id
      · rw [if_neg (not_not.mpr hwindow)]
        by_cases hdevice : delivery.deviceId = deviceId
        · rw [if_neg (not_not.mpr hdevice)]
          cases hstanding : (p.devices.resolveOwnerDevice prim.parseSpki deviceId).filter fun device =>
              decide (delivery.deviceGeneration = device.generation) with
          | none => exact .inr (.inl ⟨_, _, rfl⟩)
          | some device =>
              obtain ⟨hresolved, hgeneration⟩ := Option.filter_eq_some_iff.mp hstanding
              dsimp only
              split
              · exact .inl ⟨_, rfl⟩
              · rename_i hrevision
                rw [Bool.or_eq_true, not_or, decide_eq_true_eq, not_not] at hrevision
                cases hackable : prim.ackableContent window with
                | none => exact .inl ⟨_, rfl⟩
                | some ackable =>
                    dsimp only
                    split
                    · exact .inl ⟨_, rfl⟩
                    · rename_i hhash
                      rw [Bool.or_eq_true, not_or, decide_eq_true_eq, not_not] at hhash
                      split
                      · exact .inl ⟨_, rfl⟩
                      · rename_i hcall
                        split
                        · exact .inl ⟨_, rfl⟩
                        · rename_i hfloor
                          exact .inr (.inr ⟨_, delivery, device.generation,
                            { named := rfl, known := hknown, unconsumed := Bool.eq_false_iff.mpr hconsumed
                              live := not_le.mp hexpired, ofWindow := hwindow, ofDevice := hdevice
                              standing := ⟨device, hresolved, rfl⟩, generation := of_decide_eq_true hgeneration
                              revision := hrevision.1, rendered := ⟨ackable, hackable, hhash.1⟩
                              call := not_not.mp hcall, floor := not_lt.mp hfloor }, rfl⟩)
        · exact .inl ⟨_, if_pos hdevice⟩
      · exact .inl ⟨_, if_pos hwindow⟩

theorem postVetoSeen_served (ownerDevice : Option OwnerDeviceCredential) (id : JsString) (body : Body) :
    Served prim opts p now (.vetoSeen ownerDevice id body) (p.postVetoSeen prim ownerDevice id body now).1
      (p.postVetoSeen prim ownerDevice id body now).2 := by
  unfold postVetoSeen
  split
  · exact .refused _ _ _
  · cases hdevice : p.validOwnerDeviceId prim ownerDevice with
    | none => exact .refused _ _ _
    | some deviceId =>
        cases hget : p.vetoWindows.get? id with
        | none => exact .refused _ _ _
        | some window =>
            dsimp only
            split
            · rename_i hdelivered
              exact .reacked ownerDevice body hget hdelivered
            · rename_i hundelivered
              split
              · exact .refused _ _ _
              · rename_i hlive
                rw [Bool.or_eq_true, not_or, Bool.not_eq_true, Bool.not_eq_true] at hlive
                split
                · exact .unacked ownerDevice body hget _ _
                · rename_i hopen
                  cases body with
                  | error e => exact .unacked ownerDevice _ hget _ _
                  | ok body =>
                      dsimp only
                      rcases ackRefusal_cases prim (p.setWindow id (window.tick (p.witnessStanding prim) now)) now id
                        (window.tick (p.witnessStanding prim) now) deviceId body with
                        ⟨reason, hrefused⟩ | ⟨reason, deliveryId, hforgotten⟩ |
                          ⟨deliveryId, delivery, generation, haccepted, hok⟩
                      · rw [hrefused]
                        exact .unacked ownerDevice _ hget _ _
                      · rw [hforgotten]
                        exact .forgotten ownerDevice _ hget deliveryId _ _
                      · rw [hok]
                        obtain ⟨hnamed, hknown, hunconsumed, hexpires, hwindow, hsigner, hstanding, hgeneration,
                          hrevision, hrendered, hcall, hfloor⟩ := haccepted
                        have hacked : Served prim opts p now _ _ _ :=
                          .acked hdevice hget (by simpa using hundelivered) hlive.2 (by simpa using hopen)
                            ⟨hnamed, hknown, hunconsumed, hexpires, hwindow, hsigner, hstanding, hgeneration, hrevision,
                              hrendered, hcall, hfloor⟩
                        simpa only [setWindow, JsMap.set_set] using hacked

/-- A commit of a grant, or a refusal. -/
theorem postGrantCommit_served (body : Body) (authentic : Bool) :
    Served prim opts p now (.grantCommit body authentic) (p.postGrantCommit opts body authentic now).1
      (p.postGrantCommit opts body authentic now).2 := by
  unfold postGrantCommit
  split
  · exact .refused _ _ _
  · cases body with
    | error e => exact .refused _ _ _
    | ok body =>
        dsimp only
        split
        · exact .refused _ _ _
        · cases authentic with
          | false => exact .refused _ _ _
          | true =>
              rw [if_neg (by simp)]
              split
              · exact .refused _ _ _
              · rename_i jti nonce ts hfields hfresh
                cases hcommittable : p.committable jti with
                | true => exact .committed (.ok body) nonce hcommittable
                | false => exact .uncommitted (.ok body) nonce jti

/-- A revocation, and the evidence that goes with it. -/
theorem postDeviceRevoke_served (caller : Caller) (id : JsString) (registrySave : RegistrySave) (save : StandingSave)
    (o : StoreOutcome) :
    Served prim opts p now (.deviceRevoke caller id registrySave save o)
      (p.postDeviceRevoke prim caller id registrySave save now o).1
      (p.postDeviceRevoke prim caller id registrySave save now o).2 := by
  unfold postDeviceRevoke
  split
  · exact .refused _ _ _
  · exact .revoked caller id registrySave save o

/-- What a request does is one of the cases. -/
theorem serve_served (request : Request) :
    Served prim opts p now request (p.serve prim opts now request).1 (p.serve prim opts now request).2 := by
  cases request with
  | kill caller body o => exact postKill_served caller body o
  | alert caller body => exact postAlert_served caller body
  | ceremonyStart ownerId body licenseRefusal uuid => exact postCeremonyStart_served ownerId body licenseRefusal uuid
  | ceremony ownerId id => exact getCeremony_served ownerId id
  | restoreChallenge ownerId id => exact postRestoreChallenge_served ownerId id
  | restoreChallengeDrained id random => exact postRestoreChallengeDrained_served id random
  | restore ownerId body o => exact postRestore_served ownerId body o
  | veto ownerId fleetDevice ownerDevice id body => exact postVeto_served ownerId fleetDevice ownerDevice id body
  | registerVeto signed body hex => exact postRegisterVeto_served signed body hex
  | getVeto id deviceRead hex => exact getVeto_served id deviceRead hex
  | vetoPending signed => exact getVetoPending_served signed
  | vetoDetail ownerDevice id hex => exact getVetoDetail_served ownerDevice id hex
  | vetoSeen ownerDevice id body => exact postVetoSeen_served ownerDevice id body
  | approvalChallenge ownerId id => exact postApprovalChallenge_served ownerId id
  | approvalChallengeDrained id random => exact postApprovalChallengeDrained_served id random
  | sessionChallenge random => exact postSessionChallenge_served random
  | session body => exact postSession_served body
  | killState nonce jti => exact .probed nonce jti
  | grantCommit body authentic => exact postGrantCommit_served body authentic
  | deviceRevoke caller id registrySave save o => exact postDeviceRevoke_served caller id registrySave save o
  | deviceEnroll submission deviceId registrySave save o => exact .enrolled submission deviceId registrySave save o
  | mintInvite save => exact .minted save

end Plane

end OwnerSwitch
