/-
Module: OwnerSwitch.ControlPlane.DeviceRegistry
Layer: ControlPlane
Purpose: The runtime of the ceremony registry over its file: load and save, first boot and migration, the owner
  handles, minting, the enrollment commit and revocation. What the file system makes of a load and of a publish, the
  readings of the clock and the random draws are arguments.
Imports: ControlPlane.RegistryFile
Trusted boundary: a rename that throws has not been made
Main exports: EnrolledDeviceRegistry, EnrolledDeviceFileStore.load, EnrolledDeviceFileStore.save, initializeRegistry,
  revoke, mintInvite, commitEnrollment
Open obligations: none
-/
import OwnerSwitch.ControlPlane.RegistryFile

namespace OwnerSwitch

open RegistryFile

/-! ### The store -/

/-- The registry file and its marker. -/
structure RegistryFiles where
  content : Option Bytes
  marker : Bool
  deriving DecidableEq

/-- What a reader of the directory sees, and what is proven to survive a power cut. -/
structure RegistryDisk where
  visible : RegistryFiles
  proven : RegistryFiles
  deriving DecidableEq

/-- What the file system makes of a load: it refuses it before the content is read, it reads everything but cannot
    prove it durable, or it does both. One that is not proven may have created the marker. -/
inductive LoadFate where
  | refused (detail : JsString)
  | unproven (detail : JsString) (marked : Bool)
  | proven

/-- What the file system makes of a publish. One that fails may have created the marker. One that is torn throws
    although it has replaced the file: the directory cannot be closed after its fsync, which went well or not. -/
inductive PublishFate where
  | durable
  | unproven (detail : JsString)
  | failed (message : JsString) (marked : Bool)
  | torn (message : JsString) (synced : Bool)

/-- What a save that returned says of itself. -/
inductive RegistrySaveResult where
  | durable
  | visible (detail : JsString)
  deriving DecidableEq

inductive EnrolledDevicesLoad where
  | absent
  | loaded (state : PersistedEnrolledDevices)
  | legacyV1 (state : LegacyState)
  | corrupt (detail : JsString)

structure EnrolledDeviceFileStore where
  filePath : JsString
  /-- the message of the error `JSON.parse` throws on a text -/
  syntaxMessage : JsString → JsString
  /-- whether octets are the SPKI DER of a P-256 key, all of them -/
  isSpkiDer : Bytes → Bool
  /-- the draw that the placeholder loop of an owner ended with -/
  placeholder : JsString → Draw 24

namespace EnrolledDeviceFileStore

variable (store : EnrolledDeviceFileStore)

/-- The content of a registry file, as `load` reads it. -/
def interpret (bytes : Bytes) : EnrolledDevicesLoad :=
  if maxEnrolledDevicesFileBytes < bytes.length then
    .corrupt (store.filePath ++ js " exceeds the 524288-byte registry limit — refusing to read it")
  else
    match Json.parse (Utf8.decode bytes) with
    | none => .corrupt (js "cannot parse " ++ store.filePath ++ js ": " ++ store.syntaxMessage (Utf8.decode bytes))
    | some parsed =>
        match asPersistedEnrolledDevices store.isSpkiDer maxOwners parsed with
        | some state => .loaded state
        | none =>
            match asLegacyV1 store.isSpkiDer store.placeholder parsed with
            | some legacy => .legacyV1 legacy
            | none => .corrupt (js "unexpected shape in " ++ store.filePath)

/-- The file, or why there is none. -/
def openFile (files : RegistryFiles) : Except EnrolledDevicesLoad Bytes :=
  match files.content with
  | some bytes => .ok bytes
  | none =>
      if files.marker then
        .error (.corrupt (store.filePath ++ js " is missing but the store is initialised (" ++ store.filePath
          ++ js ".initialized exists) — deleting the registry must not un-enroll silently"))
      else .error .absent

/-- A state is served only when the file and its marker are proven durable. -/
def prove (bytes : Bytes) (result : EnrolledDevicesLoad) (disk : RegistryDisk) :
    LoadFate → EnrolledDevicesLoad × RegistryDisk
  | .refused detail => (.corrupt detail, disk)
  | .unproven detail marked => (.corrupt detail, { disk with visible.marker := disk.visible.marker || marked })
  | .proven => (result, { visible := ⟨some bytes, true⟩, proven := ⟨some bytes, true⟩ })

def load (fate : LoadFate) (disk : RegistryDisk) : EnrolledDevicesLoad × RegistryDisk :=
  match fate with
  | .refused detail => (.corrupt detail, disk)
  | fate =>
      match store.openFile disk.visible with
      | .error result => (result, disk)
      | .ok bytes =>
          match store.interpret bytes with
          | .corrupt detail => (.corrupt detail, disk)
          | result => prove bytes result disk fate

/-- What a publish that was not refused leaves. -/
def publish (bytes : Bytes) (disk : RegistryDisk) : PublishFate → Except JsString RegistrySaveResult × RegistryDisk
  | .durable => (.ok .durable, { visible := ⟨some bytes, true⟩, proven := ⟨some bytes, true⟩ })
  | .unproven detail => (.ok (.visible detail), { disk with visible := ⟨some bytes, true⟩ })
  | .failed message marked => (.error message, { disk with visible.marker := disk.visible.marker || marked })
  | .torn message synced =>
      (.error message, { visible := ⟨some bytes, true⟩, proven := if synced then ⟨some bytes, true⟩ else disk.proven })

/-- `save`: nothing is published that `load` would not accept. -/
def save (state : PersistedEnrolledDevices) (fate : PublishFate) (disk : RegistryDisk) :
    Except JsString RegistrySaveResult × RegistryDisk :=
  let data := state.fileBytes
  if maxEnrolledDevicesFileBytes < data.length then
    (.error (js "refusing to publish: serialized registry is " ++ Json.natText data.length
      ++ js " bytes, over the 524288-byte load limit"), disk)
  else
    match (Json.parse (Utf8.decode data)).bind (asPersistedEnrolledDevices store.isSpkiDer maxOwners) with
    | none =>
        (.error (js "refusing to publish: the serialized registry does not satisfy the loader's schema — a publish the next restart would refuse is not a publish"),
          disk)
    | some _ => publish data disk fate

end EnrolledDeviceFileStore

/-! ### The registry -/

/-- The registry as the process holds it, with the files of its store. -/
structure EnrolledDeviceRegistry where
  state : Option PersistedEnrolledDevices
  corruptDetail : Option JsString
  invites : InviteStore
  disk : RegistryDisk

/-- The live answer of the kill switch. -/
structure EnrolledDeviceRegistry.LiveKillState where
  killed : Bool
  epoch : Decimal

/-- The epoch of a snapshot that is not malformed. -/
def EnrolledDeviceRegistry.LiveKillState.epoch? (kill : EnrolledDeviceRegistry.LiveKillState) : Option Nat :=
  Json.safeNat? (.num kill.epoch)

inductive InviteIssuer where
  | bootstrap (ownerId : JsString)
  | device (deviceId : JsString)

structure MintInviteRequest where
  inviteId : JsString
  tokenHash : JsString
  deviceName : JsString
  challenge : JsString
  assertionChallenge : JsString
  issuer : InviteIssuer

/-- The readings of the clock in a mint: one for each invite that is swept, and one for the new one. -/
structure MintClock where
  swept : JsString → Int
  now : Int

/-- The readings of the clock in a commit. -/
structure CommitClock where
  peeked : Int
  consumed : Int
  enrolled : Int

structure CommitEnrollmentOptions where
  kill : EnrolledDeviceRegistry.LiveKillState
  rpId : JsString
  expectedOrigin : JsString

namespace EnrolledDeviceRegistry

/-- What `commitEnrollment` answers. -/
inductive Commit where
  | admitted (device : RegistryFile.PersistedEnrolledDevice)
  | refused (reason : JsString) (inviteSurvives : Bool)

variable (store : EnrolledDeviceFileStore) (registry : EnrolledDeviceRegistry)

def quarantine (detail : JsString) : EnrolledDeviceRegistry :=
  { registry with state := none, corruptDetail := some detail }

/-- The registry that serves a state. -/
def serve (state : PersistedEnrolledDevices) : EnrolledDeviceRegistry :=
  { registry with state := some state, corruptDetail := none }

/-- The message that a call on an unusable registry throws. -/
def unusable : JsString :=
  js "enrolled-device registry is not usable" ++
    match registry.corruptDetail with
    | some detail => js ": " ++ detail
    | none => js " (initialize() first)"

/-! #### Boot -/

/-- The handles of the owners that the records name, in their order. `handle` is the draw that an owner's loop ended
    with; no run has `none` here, since the loop draws until the handle is new. -/
def mintHandles (handle : JsString → Draw 32) (owners : JsMap JsString OwnerHandle) :
    List JsString → Option (JsMap JsString OwnerHandle)
  | [] => some owners
  | ownerId :: rest =>
      if owners.has ownerId then mintHandles handle owners rest
      else if (handle ownerId).text ∈ owners.values.map OwnerHandle.userId then none
      else mintHandles handle (owners.set ownerId ⟨(handle ownerId).text⟩) rest

/-- The owners that the records name. -/
def ownersOf (devices : JsMap JsString RegistryFile.PersistedEnrolledDevice) : List JsString :=
  devices.values.map RegistryFile.PersistedEnrolledDevice.ownerId

/-- A publish of a first state, durable or refused; `failed` and `undurable` start the refusals. -/
def publishFirst (failed undurable : JsString) (fate : PublishFate) (state : PersistedEnrolledDevices) :
    Except JsString Unit × EnrolledDeviceRegistry :=
  let (saved, disk) := store.save state fate registry.disk
  let registry := { registry with disk }
  match saved with
  | .error message => (.error (failed ++ message), registry.quarantine (failed ++ message))
  | .ok (.visible detail) => (.error (undurable ++ detail), registry.quarantine (undurable ++ detail))
  | .ok .durable => (.ok (), registry.serve state)

/-- The state of a first boot. -/
def initial : PersistedEnrolledDevices where
  bootstrapGeneration := 1
  devices := .empty
  owners := .empty

/-- `initialize` -/
def initializeRegistry (handle : JsString → Draw 32) (load : LoadFate) (fate : PublishFate) :
    Option (Except JsString Unit × EnrolledDeviceRegistry) :=
  let (loaded, disk) := store.load load registry.disk
  let registry := { registry with disk }
  match loaded with
  | .corrupt detail => some (.error detail, registry.quarantine detail)
  | .loaded state => some (.ok (), registry.serve state)
  | .legacyV1 legacy =>
      let distinctOwners := (ownersOf legacy.devices).dedup
      if maxOwners < distinctOwners.length then
        let detail := js "v1 -> v2 registry migration refused: " ++ Json.natText distinctOwners.length
          ++ js " distinct owners exceed the 128 owner-handle ceiling — nothing was published (fail closed)"
        some (.error detail, registry.quarantine detail)
      else
        (mintHandles handle .empty (ownersOf legacy.devices)).map fun owners =>
          registry.publishFirst store (js "v1 -> v2 registry migration persist failed: ")
            (js "v1 -> v2 registry migration not durable: ") fate
            { bootstrapGeneration := legacy.bootstrapGeneration, devices := legacy.devices, owners }
  | .absent =>
      some (registry.publishFirst store (js "first-boot registry persist failed: ")
        (js "first-boot registry persist not durable: ") fate initial)

/-! #### Revocation -/

/-- The state with one record revoked. -/
def severed (state : PersistedEnrolledDevices) (deviceId : JsString) (revokedAt : Decimal) : PersistedEnrolledDevices :=
  { state with devices := state.devices.mapVal fun id d =>
      if id = deviceId then { d with revokedAt := some revokedAt, generation := d.generation + 1 } else d }

/-- `revoke`: memory changes only when the publish is durable; any other outcome quarantines. -/
def revoke (deviceId : JsString) (revokedAt : Decimal) (fate : PublishFate) :
    Except JsString RegistryRevocation × EnrolledDeviceRegistry :=
  match registry.state with
  | none => (.error registry.unusable, registry)
  | some state =>
      match state.devices.get? deviceId with
      | none => (.ok .unknown, registry)
      | some device =>
          if device.revokedAt.isSome then (.ok (.alreadyRevoked device.generation), registry)
          else
            let next := severed state deviceId revokedAt
            let (saved, disk) := store.save next fate registry.disk
            let registry := { registry with disk }
            match saved with
            | .error message =>
                let detail := js "revocation publish FAILED (" ++ message ++ js ")"
                (.ok (.publishFailed detail), registry.quarantine detail)
            | .ok (.visible detail) =>
                let detail := js "revocation publish durability UNPROVEN: " ++ detail
                (.ok (.publishFailed detail), registry.quarantine detail)
            | .ok .durable => (.ok (.revoked (device.generation + 1)), { registry with state := some next })

/-! #### Minting -/

/-- `standing`: enrolled, not revoked, at exactly this generation. -/
def standing (state : PersistedEnrolledDevices) (deviceId : JsString) (generation : Nat) : Bool :=
  (state.devices.get? deviceId).any fun d => d.revokedAt.isNone && d.generation = generation

def activeDeviceCount (state : PersistedEnrolledDevices) : Nat :=
  activeDevices state.devices.entries

/-- `#liveWitness`, of a snapshot with this epoch. -/
def liveWitness (state : PersistedEnrolledDevices) (killed : Bool) (killEpoch : Nat) : InviteSpendWitness where
  killed := killed
  killEpoch := killEpoch
  bootstrapGeneration := state.bootstrapGeneration
  activeDeviceCount := activeDeviceCount state
  deviceStanding := standing state

/-- `#ensureOwnerUserId`: the owner's handle, published before it is adopted. No run has `none` here, since the loop
    draws until the handle is new. -/
def ensureOwnerUserId (state : PersistedEnrolledDevices) (ownerId : JsString) (handle : Draw 32) (fate : PublishFate) :
    Option (Except JsString JsString × EnrolledDeviceRegistry) :=
  match state.owners.get? ownerId with
  | some owner => some (.ok owner.userId, registry)
  | none =>
      if maxOwners ≤ state.owners.size then
        some (.error (js "owner-handle ceiling reached (128) — nothing mints for new owners"), registry)
      else if handle.text ∈ state.owners.values.map OwnerHandle.userId then none
      else
        let next := { state with owners := state.owners.set ownerId ⟨handle.text⟩ }
        let (saved, disk) := store.save next fate registry.disk
        let registry := { registry with disk }
        some <|
          match saved with
          | .error message =>
              (.error (js "owner user-handle persist FAILED (" ++ message ++ js ") — nothing mints"), registry)
          | .ok (.visible detail) =>
              (.error (js "owner user-handle publish durability UNPROVEN (" ++ detail
                  ++ js ") — registry quarantined until recovery"),
                registry.quarantine (js "owner user-handle publish durability UNPROVEN: " ++ detail))
          | .ok .durable => (.ok handle.text, { registry with state := some next })

/-- The origin and the owner that a mint fills in from the state. -/
def issue (state : PersistedEnrolledDevices) : InviteIssuer → Except JsString (InviteOrigin × JsString)
  | .bootstrap ownerId => .ok (.bootstrap state.bootstrapGeneration, ownerId)
  | .device deviceId =>
      match state.devices.get? deviceId with
      | some issuer =>
          if issuer.revokedAt.isNone then .ok (.device issuer.deviceId issuer.generation, issuer.ownerId)
          else .error (js "the inviting device is not enrolled and in standing — nothing mints")
      | none => .error (js "the inviting device is not enrolled and in standing — nothing mints")

/-- The terms of an invite. -/
def terms (request : MintInviteRequest) (ownerId : JsString) (killEpoch : Nat) (origin : InviteOrigin) :
    InviteTerms where
  inviteId := request.inviteId
  tokenHash := request.tokenHash
  ownerId := ownerId
  deviceName := request.deviceName
  challenge := request.challenge
  assertionChallenge := request.assertionChallenge
  killEpoch := killEpoch
  origin := origin

/-- The registration of an invite, under the state that the owner's handle left. -/
def registerInvite (clock : MintClock) (killed : Bool) (terms : InviteTerms) :
    Except JsString InviteRecord × EnrolledDeviceRegistry :=
  match registry.state with
  | none => (.error registry.unusable, registry)
  | some state =>
      let (registered, invites) := registry.invites.register clock.swept clock.now terms
        (liveWitness state killed terms.killEpoch)
      (registered, { registry with invites })

/-- `mintInvite` -/
def mintInvite (clock : MintClock) (handle : Draw 32) (fate : PublishFate) (kill : LiveKillState)
    (request : MintInviteRequest) : Option (Except JsString InviteRecord × EnrolledDeviceRegistry) :=
  match registry.state with
  | none => some (.error registry.unusable, registry)
  | some state =>
      match kill.epoch? with
      | none => some (.error (js "malformed live kill state — nothing mints unproven (fail closed)"), registry)
      | some killEpoch =>
          match issue state request.issuer with
          | .error message => some (.error message, registry)
          | .ok (origin, ownerId) =>
              (registry.ensureOwnerUserId store state ownerId handle fate).map fun (ensured, registry) =>
                match ensured with
                | .error message => (.error message, registry)
                | .ok _ => registry.registerInvite clock kill.killed (terms request ownerId killEpoch origin)

/-! #### Enrollment -/

/-- The record of a device at its admission. -/
def newDevice (deviceId : JsString) (invite : InviteRecord) (credential : EnrolledCredential)
    (cheapLaneKeySpki : JsString) (enrolledAt : Int) : RegistryFile.PersistedEnrolledDevice where
  deviceId := deviceId
  ownerId := invite.ownerId
  deviceName := invite.deviceName
  credentialId := credential.credentialId
  publicKeySpki := credential.publicKeySpki
  cheapLaneKeySpki := cheapLaneKeySpki
  signCount := credential.signCount
  transports := credential.transports
  userHandle := credential.userHandle
  generation := 1
  revokedAt := none
  enrolledAt := .ofInt enrolledAt

/-- The state with the device, and after a bootstrap spend with the next bootstrap generation. -/
def admitted (state : PersistedEnrolledDevices) (invite : InviteRecord)
    (device : RegistryFile.PersistedEnrolledDevice) :
    PersistedEnrolledDevices :=
  { state with
    bootstrapGeneration :=
      if invite.origin.isBootstrap then state.bootstrapGeneration + 1 else state.bootstrapGeneration
    devices := state.devices.set device.deviceId device }

/-- The first record that has one of the keys, and the refusal it is answered with. -/
def duplicate (credentialId cheapLaneKeySpki : JsString) :
    List RegistryFile.PersistedEnrolledDevice → Option JsString
  | [] => none
  | existing :: rest =>
      if existing.credentialId = credentialId then
        some (js "this WebAuthn credential was already enrolled here — re-enrolment requires fresh keys")
      else if existing.cheapLaneKeySpki = cheapLaneKeySpki then
        some (js "this cheap-lane key was already enrolled here — re-enrolment requires fresh keys")
      else duplicate credentialId cheapLaneKeySpki rest

/-- The publish of an admission. -/
def publishAdmission (next : PersistedEnrolledDevices) (device : RegistryFile.PersistedEnrolledDevice)
    (fate : PublishFate) : Commit × EnrolledDeviceRegistry :=
  let (saved, disk) := store.save next fate registry.disk
  let registry := { registry with disk }
  match saved with
  | .error message =>
      (.refused (js "enrollment not admitted: durable registry publish FAILED (" ++ message
        ++ js ") — the invite is spent, mint a new one") false, registry)
  | .ok (.visible detail) =>
      (.refused (js "enrollment not admitted: durable registry publish UNPROVEN (" ++ detail
          ++ js ") — registry quarantined until recovery, the invite is spent") false,
        registry.quarantine (js "enrollment publish durability UNPROVEN: " ++ detail))
  | .ok .durable => (.admitted device, { registry with state := some next })

/-- `commitEnrollment`. `deviceId` is what the id factory ended with; no run has `none` here, since the factory draws
    until the id is free. -/
def commitEnrollment (crypto : EnrollmentCrypto) (clock : CommitClock) (deviceId : JsString) (fate : PublishFate)
    (submission : Json) (opts : CommitEnrollmentOptions) : Option (Commit × EnrolledDeviceRegistry) :=
  match registry.state with
  | none =>
      some (.refused (js "enrolled-device registry is not usable" ++
        (match registry.corruptDetail with
          | some detail => js ": " ++ detail
          | none => []) ++ js " — nothing enrolls") true, registry)
  | some state =>
      match opts.kill.epoch? with
      | none =>
          some (.refused (js "malformed live kill state — nothing enrolls unproven (fail closed)") true, registry)
      | some killEpoch =>
          if maxActiveDevices ≤ activeDeviceCount state then
            some (.refused (js "device ceiling reached (64) — revoke before enrolling more") true, registry)
          else
            let (outcome, invites) := performEnrollment crypto submission registry.invites
              (liveWitness state opts.kill.killed killEpoch) opts.rpId opts.expectedOrigin clock.peeked clock.consumed
            let registry := { registry with invites }
            match outcome with
            | .refused reason inviteSurvives => some (.refused reason inviteSurvives, registry)
            | .verified invite credential cheapLaneKeySpki =>
                match duplicate credential.credentialId cheapLaneKeySpki state.devices.values with
                | some reason => some (.refused reason false, registry)
                | none =>
                    if state.devices.has deviceId ∨ deviceId ∈ forbiddenDeviceIds then none
                    else
                      let device := newDevice deviceId invite credential cheapLaneKeySpki clock.enrolled
                      some (registry.publishAdmission store (admitted state invite device) device fate)

/-- The hook of a kill and of a restore. -/
def invalidateSupersededEpoch (currentEpoch : Nat) : EnrolledDeviceRegistry :=
  { registry with invites := (registry.invites.invalidateSupersededEpoch currentEpoch).2 }

/-- `peekInvite` -/
def peekInvite (now : Int) (inviteId : JsString) : Except JsString (Option InviteRecord) × EnrolledDeviceRegistry :=
  match registry.state with
  | none => (.error registry.unusable, registry)
  | some _ =>
      let (record, invites) := registry.invites.peek now inviteId
      (.ok record, { registry with invites })

end EnrolledDeviceRegistry

end OwnerSwitch
