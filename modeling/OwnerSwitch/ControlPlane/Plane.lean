/-
Module: OwnerSwitch.ControlPlane.Plane
Layer: ControlPlane
Purpose: The control plane as one process: its state, the requests it serves, what it answers, and the reads of its
  state that several routes share.
Imports: ControlPlane.DeviceStanding, ControlPlane.Review, ControlPlane.Twogo
Trusted boundary: sessions, HMACs and fleet signatures are judged by the caller of a route; random draws, the
  license and what the stores make of a save are arguments; one request reads one clock value
Main exports: Plane, Request, Reply, witnessStanding, validOwnerDeviceId, redeemAssertion
Open obligations: none
-/
import OwnerSwitch.ControlPlane.DeviceStanding
import OwnerSwitch.ControlPlane.Review
import OwnerSwitch.ControlPlane.Twogo

namespace OwnerSwitch

/-! ### Constants -/

/-- `MAX_CEREMONY_RECORDS` -/
def maxCeremonyRecords : Nat := 256

/-- `MAX_LOGIN_CHALLENGES` -/
def maxLoginChallenges : Nat := 256

/-- `MIN_VETO_RESPONSE_MS` -/
def minVetoResponseMs : Int := 60000

/-- `DELIVERY_TTL_MS` -/
def deliveryTtlMs : Int := 2 * 60000

/-- `APPROVAL_CHALLENGE_TTL_MS`, `LOGIN_CHALLENGE_TTL_MS` and `RESTORE_CHALLENGE_TTL_MS` -/
def challengeTtlMs : Int := 2 * 60000

/-- `COMMIT_REQUEST_SKEW_MS` -/
def commitRequestSkewMs : Int := 30000

/-- `KILL_STATE_TTL_MS` -/
def killStateTtlMs : Int := 5000

/-! ### State -/

/-- The configuration the routes consult; a key is configured when it is set and not empty. -/
structure ServerOptions where
  ownerPasskey : Option OwnerPasskey
  dev : Bool
  grantKey : Bool
  killStateKey : Bool
  grantTtlMs : Int

/-- A foreground-detail delivery: the showing it was minted for and the device that fetched it. -/
structure OwnerDelivery where
  windowId : JsString
  revision : Nat
  renderHash : JsString
  callHash : JsString
  deviceId : JsString
  deviceGeneration : Nat
  expiresAt : Int
  consumed : Bool

structure ApprovalChallenge where
  challenge : JsString
  callHash : JsString
  renderHash : JsString
  killEpoch : Nat
  expiresAt : Int

structure LoginChallenge where
  expiresAt : Int
  killEpoch : Nat

structure RestoreChallenge where
  challenge : JsString
  killEpoch : Nat
  expiresAt : Int

/-- A ceremony with the kill epoch it was started in and its scope. -/
structure CeremonyRecord where
  ceremony : RestoreCeremony
  epoch : Nat
  agentId : Option JsString

/-- A challenge request that has passed its first checks and drains its body. -/
inductive Draining where
  | restore (ceremonyId : JsString)
  | approval (windowId : JsString)
  deriving DecidableEq

structure Plane where
  killSwitch : KillSwitch
  devices : Devices
  registryFile : DeviceTable
  vetoWindows : JsMap JsString VetoWindow
  ownerDeliveries : JsMap JsString OwnerDelivery
  grantedWindows : List JsString
  mintedGrants : JsMap JsString JsString
  windowToGrant : JsMap JsString JsString
  committedGrants : List JsString
  approvalChallenges : JsMap JsString ApprovalChallenge
  passkeySignCount : Nat
  loginChallenges : JsMap JsString LoginChallenge
  ceremonies : JsMap JsString CeremonyRecord
  restoreChallenges : JsMap JsString RestoreChallenge
  draining : List Draining

/-! ### Requests -/

/-- The body of a request: the object it parses to, or the error `parseJsonBody` throws. -/
abbrev Body := Except JsString Json

/-- Who a stopping request comes from. -/
structure Caller where
  authenticated : Bool
  loopback : Bool

/-- A signature over a request under the name of an owner device, made with the private half of `publicKey`. -/
structure OwnerDeviceCredential where
  deviceId : JsString
  publicKey : JsString

/-- A request past its transport. An `ownerId` is that of the session it carries, if it carries one. -/
inductive Request where
  | kill (caller : Caller) (body : Body) (o : StoreOutcome)
  | alert (caller : Caller) (body : Body)
  | ceremonyStart (ownerId : Option JsString) (body : Body) (licenseRefusal : Option JsString) (uuid : JsString)
  | ceremony (ownerId : Option JsString) (id : JsString)
  | restoreChallenge (ownerId : Option JsString) (id : JsString)
  | restoreChallengeDrained (id : JsString) (random : Bytes)
  | restore (ownerId : Option JsString) (body : Body) (o : StoreOutcome)
  | veto (ownerId : Option JsString) (fleetDevice : Option JsString) (ownerDevice : Option OwnerDeviceCredential)
      (id : JsString) (body : Body)
  | registerVeto (signed : Bool) (body : Body) (hex : JsString)
  | getVeto (id : JsString) (deviceRead : Bool) (hex : JsString)
  | vetoPending (signed : Bool)
  | vetoDetail (ownerDevice : Option OwnerDeviceCredential) (id : JsString) (hex : JsString)
  | vetoSeen (ownerDevice : Option OwnerDeviceCredential) (id : JsString) (body : Body)
  | approvalChallenge (ownerId : Option JsString) (id : JsString)
  | approvalChallengeDrained (id : JsString) (random : Bytes)
  | sessionChallenge (random : Bytes)
  | session (body : Body)
  | killState (nonce jti : Option JsString)
  | grantCommit (body : Body) (authentic : Bool)
  | deviceRevoke (caller : Caller) (id : JsString) (registrySave : RegistrySave) (save : StandingSave)
      (o : StoreOutcome)
  | deviceEnroll (submission : PerformEnrollmentOutcome) (deviceId : JsString) (registrySave : RegistrySave)
      (save : StandingSave) (o : StoreOutcome)
  | mintInvite (save : RegistrySave)

/-- What a status read says of a window's clock. -/
structure Pacing where
  deadline : Int
  delivered : Bool
  deriving DecidableEq

/-- One entry of the pending listing. -/
structure PendingWindow where
  id : JsString
  status : VetoWindow.Status
  agentId : JsString
  tool : JsString
  deadline : Int
  delivered : Bool
  deriving DecidableEq

/-- The part of a detail that is present when a delivery was minted. -/
structure MintedDelivery where
  renderable : RenderableAlert
  deliveryId : JsString
  renderContentHash : JsString
  deliveryExpiresAt : Int
  deriving DecidableEq

/-- What the read of a ceremony says of its state. -/
inductive CeremonyWireState where
  | ofCeremony (state : CeremonyState)
  | consumed
  deriving DecidableEq

/-- The answer to a request; an answer without a status of its own is a 200. -/
inductive Reply where
  | error (status : Nat) (error : JsString)
  | killed (body : Json)
  | alerted (killed : Bool)
  | ceremony (status : Nat) (id : JsString) (state : CeremonyState) (cooldownRemainingMs expiresAt : Int)
      (agentId : Option JsString)
  | ceremonyState (state : CeremonyWireState) (cooldownRemainingMs expiresAt : Int) (agentId : Option JsString)
  | draining
  | restoreChallenge (challenge ceremonyId : JsString) (killEpoch : Nat) (expiresAt : Int) (agentId : Option JsString)
  | restored (killed : Bool) (restoredAgent : Option JsString)
  | approved
  | vetoed (status : VetoWindow.Status)
  | registered (id : JsString) (status : VetoWindow.Status)
  | window (status : VetoWireStatus) (pacing : Option Pacing) (grant : Option MergeGrant)
  | pending (windows : List PendingWindow)
  | detail (windowId : JsString) (display : RenderableAlert) (status : VetoWindow.Status) (revision : Nat)
      (deadline : Int) (delivery : Option MintedDelivery)
  | seen (status : VetoWindow.Status) (deadline : Int) (revision : Option Nat)
  | approvalChallenge (challenge : JsString) (renderable : Json) (renderHash callHash : JsString) (expiresAt : Int)
  | loginChallenge (challenge : JsString) (expiresAt : Int)
  | session (ownerId : JsString)
  | killState (killed : Bool) (epoch : Nat) (nonce : JsString) (expiresAt : Int) (grantLive : Option (JsString × Bool))
  | commit (killed : Bool) (epoch : Nat) (nonce : JsString) (expiresAt : Int) (jti : JsString) (committed : Bool)
  | revoked (reply : RevokeReply)
  | enrolled (reply : Devices.EnrollReply)
  | minted

/-- `sendUnauthorized` -/
def Reply.unauthorized : Reply :=
  .error 401 (js "unauthorized")

/-- A property of a body that is a string. -/
def bodyText (body : Json) (key : JsString) : Option JsString :=
  (body.get key).bind Json.str?

/-- `assertionFrom` -/
def assertionFrom (value : Option Json) : Option WebAuthnAssertion := do
  let value ← value
  let credentialId ← textField value (js "credentialId")
  let clientDataJSON ← textField value (js "clientDataJSON")
  if clientDataJSON.length > 8 * 1024 then none
  let authenticatorData ← textField value (js "authenticatorData")
  if authenticatorData.length > 8 * 1024 then none
  let signature ← textField value (js "signature")
  if signature.length > 4 * 1024 then none
  some { credentialId, clientDataJSON, authenticatorData, signature }

namespace Plane

section

variable (prim : Primitives) (p : Plane)

/-- `witnessStanding` with the standing in force. -/
def witnessStanding : WitnessStanding :=
  p.devices.witnessStanding prim.parseSpki p.killSwitch.killed

/-- A window advanced in place. -/
def setWindow (id : JsString) (window : VetoWindow) : Plane :=
  { p with vetoWindows := p.vetoWindows.set id window }

/-- The voids every kill performs. -/
def clearChallenges : Plane :=
  { p with approvalChallenges := .empty, loginChallenges := .empty, restoreChallenges := .empty }

/-- `ownerDeviceLaneWired` -/
def ownerDeviceLaneWired : Bool :=
  0 < p.devices.ownerDevices.size ||
    match p.devices.enrolledDevices with
    | .unconfigured => false
    | _ => true

/-- `validOwnerDeviceIdFrom`: a device authenticates while it is known, unrevoked, and holds the key that signed. -/
def validOwnerDeviceId (credential : Option OwnerDeviceCredential) : Option JsString := do
  if !p.ownerDeviceLaneWired then none
  let credential ← credential
  let device ← p.devices.resolveOwnerDevice prim.parseSpki credential.deviceId
  if device.revokedAt.isSome || device.publicKey ≠ credential.publicKey then none
  some credential.deviceId

/-- The verification of an assertion over a challenge: why it is refused, or the counter advanced. -/
def redeemAssertion (passkey : OwnerPasskey) (challenge : JsString) (assertion : WebAuthnAssertion) :
    Option Reply × Plane :=
  match assertion.verifyOwnerAssertion prim.crypto passkey challenge p.passkeySignCount with
  | .error reason => (some (.error 401 (js "passkey assertion rejected: " ++ reason)), p)
  | .ok signCount => (none, { p with passkeySignCount := max p.passkeySignCount signCount })

end

end Plane

end OwnerSwitch
