/-
Module: OwnerSwitch.ControlPlane.InviteContract
Layer: ControlPlane
Purpose: The contract of an invite: the mint over the bootstrap socket that answers with it, the preflight that reads it
  back, and the runs of the registry that they are steps of.
Imports: Lib.Lts, Shared.EnrollmentInvite, ControlPlane.RegistrySteps
Trusted boundary: those of ControlPlane.DeviceRegistry
Main exports: EnrollmentRp, enrollmentContractFor, bootstrapMintInvite, getEnrollContract, registryRuns
Open obligations: none
-/
import OwnerSwitch.Lib.Lts
import OwnerSwitch.Shared.EnrollmentInvite
import OwnerSwitch.ControlPlane.RegistrySteps

namespace OwnerSwitch

open RegistryFile

/-- The relying party of the enrollment; a server without either text refuses to start. -/
structure EnrollmentRp where
  rpId : JsString
  rpName : JsString
  named : rpId ≠ [] ∧ rpName ≠ []

/-- What a mint asks for over the bootstrap socket. -/
structure BootstrapMintRequest where
  tokenHash : JsString
  ownerId : JsString
  deviceName : JsString

inductive BootstrapMintResult where
  | minted (invite : EnrollmentInviteContract)
  | refused (error : JsString)

/-- What `randomBytes` returned in a mint; `handle` is the draw that the loop of a new owner ended with. -/
structure MintDraws where
  inviteId : Draw 9
  challenge : Draw 32
  assertionChallenge : Draw 32
  handle : Draw 32

/-- The answer of the preflight. -/
inductive ContractReply where
  | found (invite : EnrollmentInviteContract)
  | refused (status : Nat) (error : JsString)

/-- Exactly these properties, all strings, none empty. -/
def BootstrapMintRequest.ofFields (request : Json) (fields : List (JsString × Json)) : Option BootstrapMintRequest := do
  guard (fields.length = 3)
  let tokenHash ← request.property (js "tokenHash") Json.str?
  let ownerId ← request.property (js "ownerId") Json.str?
  let deviceName ← request.property (js "deviceName") Json.str?
  guard (ownerId ≠ [] ∧ ownerId.length ≤ 256 ∧ tokenHash ≠ [] ∧ deviceName ≠ [])
  some { tokenHash, ownerId, deviceName }

def BootstrapMintRequest.parse (request : Json) : Except JsString BootstrapMintRequest :=
  match request.fields? with
  | none => .error (js "request must be a JSON object")
  | some fields =>
      match ofFields request fields with
      | none => .error (js "exactly {tokenHash, ownerId, deviceName} (strings) is required")
      | some request => .ok request

/-- The request that the registry is handed. -/
def BootstrapMintRequest.mint (request : BootstrapMintRequest) (draws : MintDraws) : MintInviteRequest where
  inviteId := js "inv_" ++ draws.inviteId.text
  tokenHash := request.tokenHash
  deviceName := request.deviceName
  challenge := draws.challenge.text
  assertionChallenge := draws.assertionChallenge.text
  issuer := .bootstrap request.ownerId

namespace EnrolledDeviceRegistry

variable (store : EnrolledDeviceFileStore) (rp : EnrollmentRp) (registry : EnrolledDeviceRegistry)

/-- `ownerUserId`: the owner's handle, or nothing before their first mint. -/
def ownerUserId (ownerId : JsString) : Except JsString (Option JsString) :=
  match registry.state with
  | none => .error registry.unusable
  | some state => .ok ((state.owners.get? ownerId).map OwnerHandle.userId)

/-- The contract of an invite for the owner with this handle. -/
def contractOf (record : InviteRecord) (userId : JsString) : EnrollmentInviteContract where
  inviteId := record.inviteId
  expiresAt := record.expiresAt
  ownerId := record.ownerId
  rpId := rp.rpId
  rpName := rp.rpName
  user := { id := userId, name := record.ownerId, displayName := record.ownerId }
  challenge := record.challenge
  assertionChallenge := record.assertionChallenge
  deviceName := record.deviceName

/-- `enrollmentContractFor` -/
def enrollmentContractFor (record : InviteRecord) : Except JsString (Option EnrollmentInviteContract) :=
  (registry.ownerUserId record.ownerId).map fun userId => userId.map (contractOf rp record)

/-- `bootstrapMintInvite` -/
def bootstrapMintInvite (clock : MintClock) (draws : MintDraws) (fate : PublishFate) (kill : LiveKillState)
    (request : Json) : Option (BootstrapMintResult × EnrolledDeviceRegistry) :=
  match BootstrapMintRequest.parse request with
  | .error error => some (.refused error, registry)
  | .ok request =>
      (registry.mintInvite store clock draws.handle fate kill (request.mint draws)).map fun (minted, registry) =>
        match minted with
        | .error message => (.refused message, registry)
        | .ok record =>
            match registry.enrollmentContractFor rp record with
            | .error message => (.refused message, registry)
            | .ok none => (.refused (js "owner user handle missing after mint — refusing"), registry)
            | .ok (some contract) => (.minted contract, registry)

/-- `getEnrollContract` -/
def getEnrollContract (now : Int) (inviteId : JsString) : ContractReply × EnrolledDeviceRegistry :=
  match registry.state with
  | none => (.refused 503 (js "enrolled-device registry is not usable"), registry)
  | some _ =>
      let (record, invites) := registry.invites.peek now inviteId
      let registry := { registry with invites }
      match record with
      | none => (.refused 404 (js "unknown, expired, or already-spent invite"), registry)
      | some record =>
          match registry.enrollmentContractFor rp record with
          | .ok (some contract) => (.found contract, registry)
          | _ => (.refused 404 (js "unknown, expired, or already-spent invite"), registry)

/-! ### Runs -/

/-- The registry of a process that has just started, over the files it finds. -/
def fresh (disk : RegistryDisk) : EnrolledDeviceRegistry where
  state := none
  corruptDetail := none
  invites := { invites := .empty, ttlMs := defaultInviteTtlMs, maxInvites := defaultMaxInvites }
  disk := disk

/-- What can happen to the registry, with the answer. A boot finds the files as they are then. -/
inductive RegistryStep where
  | boot (disk : RegistryDisk) (handle : JsString → Draw 32) (load : LoadFate) (fate : PublishFate)
      (result : Except JsString Unit)
  | mint (clock : MintClock) (draws : MintDraws) (fate : PublishFate) (kill : LiveKillState) (request : Json)
      (result : BootstrapMintResult)
  | commit (crypto : EnrollmentCrypto) (clock : CommitClock) (deviceId : JsString) (fate : PublishFate)
      (submission : Json) (opts : CommitEnrollmentOptions) (result : Commit)
  | revoke (deviceId : JsString) (revokedAt : Decimal) (fate : PublishFate)
      (result : Except JsString RegistryRevocation)
  | supersede (currentEpoch : Nat)
  | preflight (now : Int) (inviteId : JsString) (reply : ContractReply)

/-- One step of the registry. -/
inductive Steps : EnrolledDeviceRegistry → RegistryStep → EnrolledDeviceRegistry → Prop where
  | boot {registry disk handle load fate result after}
      (booted : (fresh disk).initializeRegistry store handle load fate = some (result, after)) :
      Steps registry (.boot disk handle load fate result) after
  | mint {registry clock draws fate kill request result after}
      (minted : registry.bootstrapMintInvite store rp clock draws fate kill request = some (result, after)) :
      Steps registry (.mint clock draws fate kill request result) after
  | commit {registry crypto clock deviceId fate submission opts result after}
      (committed : registry.commitEnrollment store crypto clock deviceId fate submission opts = some (result, after)) :
      Steps registry (.commit crypto clock deviceId fate submission opts result) after
  | revoke {registry deviceId revokedAt fate} :
      Steps registry (.revoke deviceId revokedAt fate (registry.revoke store deviceId revokedAt fate).1)
        (registry.revoke store deviceId revokedAt fate).2
  | supersede {registry currentEpoch} :
      Steps registry (.supersede currentEpoch) (registry.invalidateSupersededEpoch currentEpoch)
  | preflight {registry now inviteId} :
      Steps registry (.preflight now inviteId (registry.getEnrollContract rp now inviteId).1)
        (registry.getEnrollContract rp now inviteId).2

/-- The runs of the registry over its processes. -/
def registryRuns : Lts EnrolledDeviceRegistry RegistryStep where
  init := fun registry => ∃ disk, registry = fresh disk
  next := Steps store rp

end EnrolledDeviceRegistry

end OwnerSwitch
