/-
Module: OwnerSwitch.ControlPlane.InviteFates
Layer: ControlPlane
Purpose: What a refused mint and a refused enrollment leave: the invite book, the registry in memory and its file, and
  what the refusal says of the invite.
Imports: ControlPlane.RegistrySteps
Trusted boundary: none beyond ControlPlane.DeviceRegistry
Main exports: MintLeaves, mint_refused, RefusalTrue, refusal_true
Open obligations: none
-/
import OwnerSwitch.ControlPlane.RegistrySteps

namespace OwnerSwitch

open RegistryFile InviteStore

namespace EnrolledDeviceRegistry

/-! ### Refused mints -/

/-- The owner a request mints for has no handle yet, and `next` is the state with this one. -/
inductive Adds (registry : EnrolledDeviceRegistry) (request : MintInviteRequest) (userId : JsString) :
    PersistedEnrolledDevices → Prop where
  | handle {state origin ownerId} (usable : registry.state = some state)
      (issued : issue state request.issuer = .ok (origin, ownerId)) (unheld : state.owners.get? ownerId = none) :
      Adds registry request userId (withHandle state ownerId userId)

/-- What a refused mint leaves of the registry and its file, by what the file system made of its own publish of the
    handle it drew: everything as it was, a quarantine where the publish was not proven, the durable handle where it
    was. Where it threw after the file was replaced memory is as it was, and the file holds the handle. -/
inductive MintLeaves (registry after : EnrolledDeviceRegistry) (request : MintInviteRequest) (userId : JsString) :
    PublishFate → Prop where
  | unchanged {fate} (memory : after.state = registry.state) (file : Unpublished registry.disk after.disk) :
      MintLeaves registry after request userId fate
  | quarantined {detail next} (adds : Adds registry request userId next) (memory : after.state = none)
      (visible : after.disk.visible = ⟨some next.fileBytes, true⟩) (proven : after.disk.proven = registry.disk.proven) :
      MintLeaves registry after request userId (.unproven detail)
  | handle {next} (adds : Adds registry request userId next) (memory : after.state = some next)
      (file : after.disk = .durably next.fileBytes) : MintLeaves registry after request userId .durable
  | torn {message synced next} (adds : Adds registry request userId next) (memory : after.state = registry.state)
      (file : RegistryDisk.Torn next.fileBytes registry.disk after.disk) :
      MintLeaves registry after request userId (.torn message synced)

/-- A refused mint, with the handle it drew and what the file system made of the handle's publish. -/
structure MintRefused (registry after : EnrolledDeviceRegistry) (clock : MintClock) (handle : Draw 32)
    (fate : PublishFate) (request : MintInviteRequest) : Prop where
  invites : LosesExpired (fun t => ∃ id, clock.swept id = t) registry.invites after.invites
  leaves : MintLeaves registry after request handle.text fate

/-- A mint that throws registers no invite. -/
theorem mint_refused (store : EnrolledDeviceFileStore) (registry after : EnrolledDeviceRegistry) (clock : MintClock)
    (handle : Draw 32) (fate : PublishFate) (kill : LiveKillState) (request : MintInviteRequest) (message : JsString)
    (h : registry.mintInvite store clock handle fate kill request = some (.error message, after)) :
    MintRefused registry after clock handle fate request := by
  cases mintInvite_cases h with
  | refused => exact ⟨.refl _ _, .unchanged rfl (.refl _)⟩
  | ensureRefused hunpublished => exact ⟨.refl _ _, .unchanged rfl hunpublished⟩
  | torn husable hissued hunheld htorn => exact ⟨.refl _ _, .torn (.handle husable hissued hunheld) rfl htorn⟩
  | unproven husable hissued hunheld =>
      exact ⟨.refl _ _, .quarantined (.handle husable hissued hunheld) rfl rfl rfl⟩
  | held husable hissued hregistered =>
      cases hregistered with
      | refused => exact ⟨losesExpired_sweep _ _, .unchanged rfl (.refl _)⟩
  | minted husable hissued hunheld haccepted hregistered =>
      cases hregistered with
      | refused => exact ⟨losesExpired_sweep _ _, .handle (.handle husable hissued.origin hunheld) rfl rfl⟩

/-- Memory, file and invites are as they were, or the registry is quarantined. -/
def MintAtomic (registry after : EnrolledDeviceRegistry) (clock : MintClock) : Prop :=
  LosesExpired (fun t => ∃ id, clock.swept id = t) registry.invites after.invites ∧
    ((after.state = registry.state ∧ after.disk.visible.content = registry.disk.visible.content) ∨ after.state = none)

/-- The store of a fresh installation. -/
def freshStore : EnrolledDeviceFileStore where
  filePath := js "/var/lib/ownerswitch/devices.json"
  syntaxMessage := fun _ => js "Unexpected token"
  isSpkiDer := fun _ => true
  placeholder := fun _ => ⟨List.replicate 24 0, rfl⟩

/-- A registry after its first boot. -/
def firstBoot : EnrolledDeviceRegistry where
  state := some initial
  corruptDetail := none
  invites := ⟨.empty, defaultInviteTtlMs, defaultMaxInvites⟩
  disk := .durably initial.fileBytes

/-- A request to mint for a new owner, -/
def newOwnerMint : MintInviteRequest where
  inviteId := js "inv_1"
  tokenHash := Base64url.encode (List.replicate 32 1)
  deviceName := js "phone"
  challenge := js "c"
  assertionChallenge := js "a"
  issuer := .bootstrap (js "owner-1")

/-- and its mint while the plane is killed. -/
def killedMint : Option (Except JsString InviteRecord × EnrolledDeviceRegistry) :=
  firstBoot.mintInvite freshStore ⟨fun _ => 0, 0⟩ ⟨List.replicate 32 7, rfl⟩ .durable ⟨true, .ofInt 1⟩ newOwnerMint

theorem killedMint_refused :
    killedMint.map (fun r => (r.1.toOption.isNone, r.2.state.map fun state => state.owners.size)) =
      some (true, some 1) := by
  decide +kernel

/-- A mint that is refused while killed leaves the new owner's handle behind. -/
theorem mint_not_atomic :
    ¬ ∀ (store : EnrolledDeviceFileStore) (registry after : EnrolledDeviceRegistry) (clock : MintClock)
      (handle : Draw 32)
        (fate : PublishFate) (kill : LiveKillState) (request : MintInviteRequest) (message : JsString),
        registry.mintInvite store clock handle fate kill request = some (.error message, after) →
          MintAtomic registry after clock := by
  intro hatomic
  have hmint := killedMint_refused
  obtain ⟨⟨result, after⟩, hresult, hleft⟩ := Option.map_eq_some_iff.mp hmint
  obtain ⟨hnone, hsize⟩ := Prod.mk.inj hleft
  cases result with
  | ok record => cases hnone
  | error message =>
      obtain ⟨-, hsame | hnone⟩ := hatomic _ _ after _ _ _ _ _ message hresult
      · rw [hsame.1] at hsize
        cases hsize
      · rw [hnone] at hsize
        cases hsize

/-- A mint under a kill. -/
theorem mint_refused_killed :
    ∃ message after, killedMint = some (.error message, after) ∧
      MintRefused firstBoot after ⟨fun _ => 0, 0⟩ ⟨List.replicate 32 7, rfl⟩ .durable newOwnerMint := by
  obtain ⟨⟨result, after⟩, hresult, hleft⟩ := Option.map_eq_some_iff.mp killedMint_refused
  cases result with
  | ok record => cases (Prod.mk.inj hleft).1
  | error message => exact ⟨message, after, hresult, mint_refused freshStore firstBoot after _ _ _ _ _ message hresult⟩

/-! ### Refused enrollments -/

/-- What a refused enrollment leaves of the registry and its file, by what the file system made of its own publish:
    everything as it was, or a quarantine where the publish of the admission was not proven. Where it threw after the
    file was replaced memory is as it was, and of the file nothing is said. -/
inductive RefusalLeaves (registry after : EnrolledDeviceRegistry) : PublishFate → Prop where
  | unchanged {fate} (memory : after.state = registry.state) (file : Unpublished registry.disk after.disk) :
      RefusalLeaves registry after fate
  | quarantined {detail state invite device} (usable : registry.state = some state)
      (unused : state.devices.get? device.deviceId = none) (memory : after.state = none)
      (visible : after.disk.visible = ⟨some (admitted state invite device).fileBytes, true⟩)
      (proven : after.disk.proven = registry.disk.proven) : RefusalLeaves registry after (.unproven detail)
  | torn {message synced} (memory : after.state = registry.state) : RefusalLeaves registry after (.torn message synced)

/-- What is true of an enrollment that was refused with `survives`. -/
structure RefusalTrue (registry after : EnrolledDeviceRegistry) (clock : CommitClock) (fate : PublishFate)
    (submission : Json) (survives : Bool) : Prop where
  gone : survives = false →
    ∃ inviteId, namedInvite submission = some inviteId ∧ after.invites.invites.get? inviteId = none
  kept : survives = true → LosesExpired (· = clock.peeked) registry.invites after.invites
  leaves : RefusalLeaves registry after fate

/-- A refused enrollment tells the fate of the invite it named. It adds no device to the registry, and none to the file
    unless the publish could not be proven durable, which quarantines the registry, or threw too late. -/
theorem refusal_true (store : EnrolledDeviceFileStore) (registry after : EnrolledDeviceRegistry)
    (crypto : EnrollmentCrypto) (clock : CommitClock) (deviceId : JsString) (fate : PublishFate) (submission : Json)
    (opts : CommitEnrollmentOptions) (reason : JsString) (survives : Bool)
    (h : registry.commitEnrollment store crypto clock deviceId fate submission opts =
      some (.refused reason survives, after)) :
    RefusalTrue registry after clock fate submission survives := by
  cases commitEnrollment_cases h with
  | survives hloses => exact ⟨by simp, fun _ => hloses, .unchanged rfl (.refl _)⟩
  | gone hnamed hunlisted hsub => exact ⟨fun _ => ⟨_, hnamed, hunlisted⟩, by simp, .unchanged rfl (.refl _)⟩
  | spent hspend hunpublished =>
      exact ⟨fun _ => ⟨_, hspend.named, get?_spentInvites_self ..⟩, by simp, .unchanged rfl hunpublished⟩
  | torn hspend hadmission htorn =>
      exact ⟨fun _ => ⟨_, hspend.named, get?_spentInvites_self ..⟩, by simp, .torn rfl⟩
  | unproven hspend hadmission =>
      exact ⟨fun _ => ⟨_, hspend.named, get?_spentInvites_self ..⟩, by simp,
        .quarantined hspend.usable hadmission.unused rfl rfl rfl⟩

/-- The registry lists a device, or a boot from its files would. -/
def Lists (store : EnrolledDeviceFileStore) (registry : EnrolledDeviceRegistry) (deviceId : JsString) : Prop :=
  (∃ state, registry.state = some state ∧ (state.devices.get? deviceId).isSome = true) ∨
    ∃ handle load fate after state, registry.initializeRegistry store handle load fate = some (.ok (), after) ∧
      after.state = some state ∧ (state.devices.get? deviceId).isSome = true

/-- A refusal that is true of the invite and after which no device is listed that was not. -/
def RefusalExact (store : EnrolledDeviceFileStore) (registry after : EnrolledDeviceRegistry) (clock : CommitClock)
    (fate : PublishFate) (submission : Json) (survives : Bool) : Prop :=
  RefusalTrue registry after clock fate submission survives ∧
    ∀ deviceId, Lists store after deviceId → Lists store registry deviceId

/-- An oracle that accepts every proof. -/
def openCrypto : EnrollmentCrypto where
  sha256 := fun _ => List.replicate 32 0
  verify := fun _ _ _ => some true
  verifyOwnerRegistration := fun _ _ => .ok ⟨Base64url.encode [1, 2, 3], Base64url.encode [4, 5, 6], 0, none⟩
  storedSpkiToPem := fun _ => .ok []
  enrolledOwnerDeviceFromSpki := fun _ => .ok [7, 8, 9]
  verifyRaw := fun _ _ _ => some true

/-- A registry whose owner has a handle. -/
def oneOwner : PersistedEnrolledDevices :=
  withHandle initial (js "owner-1") (Base64url.encode (List.replicate 32 7))

/-- The bootstrap invite of the first phone. -/
def firstInvite : InviteRecord where
  inviteId := js "inv_1"
  tokenHash := Base64url.encode (List.replicate 32 0)
  ownerId := js "owner-1"
  deviceName := js "phone"
  challenge := js "c"
  assertionChallenge := js "a"
  killEpoch := 0
  origin := .bootstrap 1
  expiresAt := 100

/-- A registry with one live invite. -/
def invited : EnrolledDeviceRegistry where
  state := some oneOwner
  corruptDetail := none
  invites := ⟨.set .empty (js "inv_1") firstInvite, defaultInviteTtlMs, defaultMaxInvites⟩
  disk := .durably oneOwner.fileBytes

def firstSubmission : Json :=
  .obj
    [(js "inviteId", .str (js "inv_1")), (js "token", .str (Base64url.encode (List.replicate 18 0))),
     (js "registration", .obj []),
     (js "possessionAssertion", .obj
       [(js "credentialId", .str (Base64url.encode [1, 2, 3])),
        (js "clientDataJSON", .str (Base64url.encode (Utf8.encode
          (js "\x7b\"type\":\"webauthn.get\",\"challenge\":\"a\",\"origin\":\"o\"\x7d")))),
        (js "authenticatorData", .str (Base64url.encode (List.replicate 32 0 ++ [5, 0, 0, 0, 1]))),
        (js "signature", .str (Base64url.encode [1]))]),
     (js "cheapLaneKey", .str (js "k")), (js "cheapLaneKeyProof", .str (Base64url.encode (List.replicate 64 0))),
     (js "deviceName", .str (js "phone"))]

/-- The enrollment of the first phone; the publish is visible, but its directory entry could not be fsynced. -/
def unprovenCommit : Option (Commit × EnrolledDeviceRegistry) :=
  invited.commitEnrollment freshStore openCrypto ⟨1, 2, 3⟩ (js "dev_1") (.unproven (js "EIO")) firstSubmission
    ⟨⟨false, .ofInt 0⟩, js "o", js "o"⟩

/-- Whether an answer is a refusal, and of which kind. -/
def Commit.survives? : Commit → Option Bool
  | .admitted _ => none
  | .refused _ inviteSurvives => some inviteSurvives

/-- The boot after a refused enrollment. -/
def bootAfterUnproven : Option (Option Bool × Bool × Option Bool) :=
  unprovenCommit.bind fun r =>
    (r.2.initializeRegistry freshStore (fun _ => ⟨List.replicate 32 7, rfl⟩) .proven .durable).map fun booted =>
      (r.1.survives?, booted.1.toOption.isSome,
        booted.2.state.map fun state => (state.devices.get? (js "dev_1")).isSome)

theorem bootAfterUnproven_lists : bootAfterUnproven = some (some false, true, some true) := by
  decide +kernel

/-- An enrollment whose publish is not proven. -/
theorem refusal_true_unproven :
    ∃ reason after, unprovenCommit = some (.refused reason false, after) ∧
      RefusalTrue invited after ⟨1, 2, 3⟩ (.unproven (js "EIO")) firstSubmission false := by
  obtain ⟨⟨commit, after⟩, hcommit, hboot⟩ := Option.bind_eq_some_iff.mp bootAfterUnproven_lists
  obtain ⟨booted, -, hlists⟩ := Option.map_eq_some_iff.mp hboot
  cases commit with
  | admitted device => cases (Prod.mk.inj hlists).1
  | refused reason survives =>
      obtain rfl := Option.some.inj (Prod.mk.inj hlists).1
      exact ⟨reason, after, hcommit, refusal_true freshStore invited after openCrypto _ _ _ _ _ reason false hcommit⟩

theorem accepts_oneOwner : freshStore.Accepts oneOwner := by
  constructor
  · decide +kernel
  · rw [← Option.isSome_iff_exists]
    decide +kernel

/-- A boot from the files of the invited registry serves no device. -/
theorem not_lists_invited (deviceId : JsString) : ¬ Lists freshStore invited deviceId := by
  have hempty : oneOwner.devices.get? deviceId = none := rfl
  rintro (⟨state, hstate, hlisted⟩ | ⟨handle, load, fate, after, state, hboot, hstate, hlisted⟩)
  · obtain rfl := Option.some.inj hstate
    rw [hempty] at hlisted
    cases hlisted
  · obtain ⟨read, hinterpret, hread⟩ := accepts_oneOwner.interpret
    cases initializeRegistry_cases hboot with
    | loaded hcontent hloaded =>
        obtain rfl := Option.some.inj hcontent
        rw [hinterpret] at hloaded
        obtain rfl := EnrolledDevicesLoad.loaded.inj hloaded
        obtain rfl := Option.some.inj hstate
        rw [(asPersistedEnrolledDevices_toJson hread).devices, hempty] at hlisted
        cases hlisted
    | migrated hcontent hlegacy =>
        obtain rfl := Option.some.inj hcontent
        rw [hinterpret] at hlegacy
        cases hlegacy
    | first hmissing => cases hmissing

/-- The device of a refused enrollment is listed once the registry is initialized again. -/
theorem refusal_not_exact :
    ¬ ∀ (store : EnrolledDeviceFileStore) (registry after : EnrolledDeviceRegistry) (crypto : EnrollmentCrypto)
        (clock : CommitClock) (deviceId : JsString) (fate : PublishFate) (submission : Json)
        (opts : CommitEnrollmentOptions) (reason : JsString) (survives : Bool),
        registry.commitEnrollment store crypto clock deviceId fate submission opts =
            some (.refused reason survives, after) →
          RefusalExact store registry after clock fate submission survives := by
  intro hexact
  obtain ⟨⟨commit, after⟩, hcommit, hboot⟩ := Option.bind_eq_some_iff.mp bootAfterUnproven_lists
  obtain ⟨⟨result, booted⟩, hbooted, hlists⟩ := Option.map_eq_some_iff.mp hboot
  obtain ⟨hsurvives, hrest⟩ := Prod.mk.inj hlists
  obtain ⟨hok, hlisted⟩ := Prod.mk.inj hrest
  cases commit with
  | admitted device => cases hsurvives
  | refused reason survives =>
      obtain ⟨state, hstate, hsome⟩ := Option.map_eq_some_iff.mp hlisted
      cases result with
      | error message => cases hok
      | ok u =>
          have hlists : Lists freshStore after (js "dev_1") := .inr ⟨_, _, _, booted, state, hbooted, hstate, hsome⟩
          exact not_lists_invited _ ((hexact _ _ _ _ _ _ _ _ _ _ _ hcommit).2 _ hlists)

end EnrolledDeviceRegistry

end OwnerSwitch
