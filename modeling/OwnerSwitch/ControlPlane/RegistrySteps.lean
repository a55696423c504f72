/-
Module: OwnerSwitch.ControlPlane.RegistrySteps
Layer: ControlPlane
Purpose: How the operations of the ceremony registry can go: one case for each end that a save, a load, a mint, a
  commit, a revocation and a boot can come to, with what it leaves of memory, of the files and of the invites.
Imports: ControlPlane.RegistryCodec, ControlPlane.DeviceRegistry
Trusted boundary: none beyond ControlPlane.DeviceRegistry
Main exports: SaveCase, LoadCase, MintCase, CommitCase, RevokeCase, InitializeCase
Open obligations: none
-/
import OwnerSwitch.ControlPlane.RegistryCodec
import OwnerSwitch.ControlPlane.DeviceRegistry

namespace OwnerSwitch

open RegistryFile

/-! ### The files -/

/-- The files after a publish that is proven durable. -/
def RegistryDisk.durably (bytes : Bytes) : RegistryDisk where
  visible := ⟨some bytes, true⟩
  proven := ⟨some bytes, true⟩

/-- Nothing was published. -/
structure Unpublished (before after : RegistryDisk) : Prop where
  content : after.visible.content = before.visible.content
  marker : before.visible.marker = true → after.visible.marker = true
  proven : after.proven = before.proven

theorem Unpublished.refl (disk : RegistryDisk) : Unpublished disk disk :=
  ⟨rfl, fun h => h, rfl⟩

/-- The file was replaced by a publish that then threw; it may have been proven durable. -/
structure RegistryDisk.Torn (bytes : Bytes) (before after : RegistryDisk) : Prop where
  visible : after.visible = ⟨some bytes, true⟩
  proven : after.proven = before.proven ∨ after.proven = after.visible

namespace EnrolledDeviceFileStore

variable (store : EnrolledDeviceFileStore)

/-- A state that `save` does not refuse. -/
structure Accepts (state : PersistedEnrolledDevices) : Prop where
  fits : state.fileBytes.length ≤ maxEnrolledDevicesFileBytes
  valid : ∃ read, asPersistedEnrolledDevices store.isSpkiDer maxOwners state.toJson = some read

variable {store}

/-- A file that `save` writes is loaded as the state it was written for. -/
theorem Accepts.interpret {state : PersistedEnrolledDevices} (h : store.Accepts state) :
    ∃ read, store.interpret state.fileBytes = .loaded read ∧
      asPersistedEnrolledDevices store.isSpkiDer maxOwners state.toJson = some read := by
  obtain ⟨read, hread⟩ := h.valid
  refine ⟨read, ?_, hread⟩
  simp only [EnrolledDeviceFileStore.interpret, if_neg (not_lt.mpr h.fits), parse_fileBytes, hread]

/-- How a save can go, by what the file system makes of its publish. -/
inductive SaveCase (store : EnrolledDeviceFileStore) (state : PersistedEnrolledDevices) (disk : RegistryDisk) :
    PublishFate → Except JsString RegistrySaveResult × RegistryDisk → Prop where
  | refused {fate message after} (unpublished : Unpublished disk after) :
      SaveCase store state disk fate (.error message, after)
  | torn {message synced after} (accepted : store.Accepts state) (torn : RegistryDisk.Torn state.fileBytes disk after) :
      SaveCase store state disk (.torn message synced) (.error message, after)
  | visible {detail} (accepted : store.Accepts state) :
      SaveCase store state disk (.unproven detail)
        (.ok (.visible detail), { disk with visible := ⟨some state.fileBytes, true⟩ })
  | durable (accepted : store.Accepts state) :
      SaveCase store state disk .durable (.ok .durable, .durably state.fileBytes)

/-- What a save comes to, and what it leaves on the disk. -/
theorem save_cases (store : EnrolledDeviceFileStore) (state : PersistedEnrolledDevices) (fate : PublishFate)
    (disk : RegistryDisk) : SaveCase store state disk fate (store.save state fate disk) := by
  unfold save
  dsimp only
  split
  · exact .refused (.refl disk)
  · rename_i hfits
    rw [parse_fileBytes, Option.bind_some]
    cases hread : asPersistedEnrolledDevices store.isSpkiDer maxOwners state.toJson with
    | none => exact .refused (.refl disk)
    | some read =>
        have haccepted : store.Accepts state := ⟨not_lt.mp hfits, read, hread⟩
        cases fate with
        | durable => exact .durable haccepted
        | unproven detail => exact .visible haccepted
        | failed message marked =>
            apply SaveCase.refused
            constructor
            · rfl
            · intro h
              simp only [h, Bool.true_or]
            · rfl
        | torn message synced =>
            apply SaveCase.torn haccepted
            cases synced with
            | false => exact ⟨rfl, .inl rfl⟩
            | true => exact ⟨rfl, .inr rfl⟩

/-- How a load can go. A state is served only from a file that is proven durable by then. -/
inductive LoadCase (store : EnrolledDeviceFileStore) (disk : RegistryDisk) :
    EnrolledDevicesLoad × RegistryDisk → Prop where
  | corrupt {detail after} (unpublished : Unpublished disk after) : LoadCase store disk (.corrupt detail, after)
  | absent (missing : disk.visible.content = none) (unmarked : disk.visible.marker = false) :
      LoadCase store disk (.absent, disk)
  | loaded {bytes state} (content : disk.visible.content = some bytes) (read : store.interpret bytes = .loaded state) :
      LoadCase store disk (.loaded state, .durably bytes)
  | legacy {bytes state} (content : disk.visible.content = some bytes)
      (read : store.interpret bytes = .legacyV1 state) :
      LoadCase store disk (.legacyV1 state, .durably bytes)

/-- A file that is there is not absent. -/
theorem interpret_ne_absent (store : EnrolledDeviceFileStore) (bytes : Bytes) : store.interpret bytes ≠ .absent := by
  unfold interpret
  split
  · nofun
  · split
    · nofun
    · split
      · nofun
      · split <;> nofun

/-- What a load comes to, and what it leaves on the disk. -/
theorem load_cases (store : EnrolledDeviceFileStore) (fate : LoadFate) (disk : RegistryDisk) :
    LoadCase store disk (store.load fate disk) := by
  have hmarked : ∀ marked : Bool,
      Unpublished disk { disk with visible.marker := disk.visible.marker || marked } := by
    intro marked
    constructor
    · rfl
    · intro h
      simp only [h, Bool.true_or]
    · rfl
  unfold load openFile
  cases hcontent : disk.visible.content with
  | none =>
      cases hmarker : disk.visible.marker with
      | true =>
          cases fate with
          | refused detail => exact .corrupt (.refl disk)
          | unproven detail marked => exact .corrupt (.refl disk)
          | proven => exact .corrupt (.refl disk)
      | false =>
          cases fate with
          | refused detail => exact .corrupt (.refl disk)
          | unproven detail marked => exact .absent hcontent hmarker
          | proven => exact .absent hcontent hmarker
  | some bytes =>
      dsimp only
      cases hread : store.interpret bytes with
      | corrupt detail =>
          cases fate with
          | refused detail => exact .corrupt (.refl disk)
          | unproven detail marked => exact .corrupt (.refl disk)
          | proven => exact .corrupt (.refl disk)
      | absent => exact absurd hread (interpret_ne_absent store bytes)
      | loaded state =>
          cases fate with
          | refused detail => exact .corrupt (.refl disk)
          | unproven detail marked => exact .corrupt (hmarked marked)
          | proven => exact .loaded hcontent hread
      | legacyV1 state =>
          cases fate with
          | refused detail => exact .corrupt (.refl disk)
          | unproven detail marked => exact .corrupt (hmarked marked)
          | proven => exact .legacy hcontent hread

/-- A load that proves what it reads serves a file that was saved. -/
theorem load_durably {state : PersistedEnrolledDevices} (h : store.Accepts state) :
    ∃ read, store.load .proven (.durably state.fileBytes) = (.loaded read, .durably state.fileBytes) ∧
      asPersistedEnrolledDevices store.isSpkiDer maxOwners state.toJson = some read := by
  obtain ⟨read, hinterpret, hread⟩ := h.interpret
  refine ⟨read, ?_, hread⟩
  simp only [load, openFile, RegistryDisk.durably, hinterpret, prove]

end EnrolledDeviceFileStore

namespace EnrolledDeviceRegistry

open EnrolledDeviceFileStore InviteStore

variable {store : EnrolledDeviceFileStore} {registry : EnrolledDeviceRegistry}

/-! ### Minting -/

/-- The state with one owner handle more. -/
def withHandle (state : PersistedEnrolledDevices) (ownerId userId : JsString) : PersistedEnrolledDevices :=
  { state with owners := state.owners.set ownerId ⟨userId⟩ }

/-- How the owner's handle can be established, by what the file system makes of its publish. -/
inductive EnsureCase (store : EnrolledDeviceFileStore) (registry : EnrolledDeviceRegistry)
    (state : PersistedEnrolledDevices) (ownerId userId : JsString) :
    PublishFate → Except JsString JsString × EnrolledDeviceRegistry → Prop where
  | held {fate owner} (held : state.owners.get? ownerId = some owner) :
      EnsureCase store registry state ownerId userId fate (.ok owner.userId, registry)
  | refused {fate message disk} (unpublished : Unpublished registry.disk disk) :
      EnsureCase store registry state ownerId userId fate (.error message, { registry with disk })
  | torn {saved synced message disk} (unheld : state.owners.get? ownerId = none)
      (torn : RegistryDisk.Torn (withHandle state ownerId userId).fileBytes registry.disk disk) :
      EnsureCase store registry state ownerId userId (.torn saved synced) (.error message, { registry with disk })
  | unproven {saved message detail} (unheld : state.owners.get? ownerId = none) :
      EnsureCase store registry state ownerId userId (.unproven saved)
        (.error message,
          quarantine { registry with disk.visible := ⟨some (withHandle state ownerId userId).fileBytes, true⟩ } detail)
  | minted (unheld : state.owners.get? ownerId = none) (accepted : store.Accepts (withHandle state ownerId userId)) :
      EnsureCase store registry state ownerId userId .durable
        (.ok userId, { registry with state := some (withHandle state ownerId userId),
                                     disk := .durably (withHandle state ownerId userId).fileBytes })

theorem ensureOwnerUserId_cases {state : PersistedEnrolledDevices} {ownerId : JsString} {handle : Draw 32}
    {fate : PublishFate} {result : Except JsString JsString × EnrolledDeviceRegistry}
    (h : registry.ensureOwnerUserId store state ownerId handle fate = some result) :
    EnsureCase store registry state ownerId handle.text fate result := by
  unfold ensureOwnerUserId at h
  cases hheld : state.owners.get? ownerId with
  | some owner =>
      rw [hheld] at h
      obtain rfl := Option.some.inj h
      exact .held hheld
  | none =>
      rw [hheld] at h
      dsimp only at h
      split at h
      · obtain rfl := Option.some.inj h
        exact .refused (.refl registry.disk)
      · split at h
        · cases h
        · obtain rfl := Option.some.inj h
          have hcase := save_cases store (withHandle state ownerId handle.text) fate registry.disk
          unfold withHandle at hcase
          generalize store.save _ fate registry.disk = saved at hcase ⊢
          cases hcase with
          | refused hunpublished => exact .refused hunpublished
          | torn haccepted htorn => exact .torn hheld htorn
          | visible haccepted => exact .unproven hheld
          | durable haccepted => exact .minted hheld haccepted

/-- What the terms of an invite are under a state and a live epoch. -/
structure Issued (state : PersistedEnrolledDevices) (kill : LiveKillState) (request : MintInviteRequest)
    (terms : InviteTerms) : Prop where
  inviteId : terms.inviteId = request.inviteId
  epoch : kill.epoch? = some terms.killEpoch
  origin : issue state request.issuer = .ok (terms.origin, terms.ownerId)

/-- How an invite can be registered. -/
inductive RegisteredCase (registry : EnrolledDeviceRegistry) (state : PersistedEnrolledDevices) (clock : MintClock)
    (killed : Bool) (terms : InviteTerms) : Except JsString InviteRecord × EnrolledDeviceRegistry → Prop where
  | refused {message} :
      RegisteredCase registry state clock killed terms
        (.error message, { registry with invites := registry.invites.sweep clock.swept })
  | registered {record} (record_eq : record = { terms with expiresAt := clock.now + registry.invites.ttlMs })
      (unused : (registry.invites.sweep clock.swept).invites.get? terms.inviteId = none)
      (authorizes : Authorizes (liveWitness state killed terms.killEpoch) terms) :
      RegisteredCase registry state clock killed terms
        (.ok record, { registry with invites :=
          { registry.invites.sweep clock.swept with
            invites := (registry.invites.sweep clock.swept).invites.set terms.inviteId record } })

theorem registerInvite_cases {state : PersistedEnrolledDevices} (hstate : registry.state = some state)
    (clock : MintClock) (killed : Bool) (terms : InviteTerms) :
    RegisteredCase registry state clock killed terms (registry.registerInvite clock killed terms) := by
  obtain ⟨_, corruptDetail, invites, disk⟩ := registry
  obtain rfl := hstate
  simp only [registerInvite]
  have hcase := register_cases invites clock.swept clock.now terms (liveWitness state killed terms.killEpoch)
  generalize invites.register clock.swept clock.now terms _ = result at hcase ⊢
  cases hcase with
  | refused => exact .refused
  | registered heq hunused hauthorizes => exact .registered heq hunused hauthorizes

/-- How a mint can go: it ends before the owner's handle is established, with the handle, or at the registration of the
    invite under the state that the handle left. -/
inductive MintCase (store : EnrolledDeviceFileStore) (registry : EnrolledDeviceRegistry) (clock : MintClock)
    (userId : JsString) (kill : LiveKillState) (request : MintInviteRequest) :
    PublishFate → Except JsString InviteRecord × EnrolledDeviceRegistry → Prop where
  | refused {fate message} : MintCase store registry clock userId kill request fate (.error message, registry)
  | ensureRefused {fate message disk} (unpublished : Unpublished registry.disk disk) :
      MintCase store registry clock userId kill request fate (.error message, { registry with disk })
  | torn {saved synced message state origin ownerId disk} (usable : registry.state = some state)
      (issued : issue state request.issuer = .ok (origin, ownerId)) (unheld : state.owners.get? ownerId = none)
      (torn : RegistryDisk.Torn (withHandle state ownerId userId).fileBytes registry.disk disk) :
      MintCase store registry clock userId kill request (.torn saved synced) (.error message, { registry with disk })
  | unproven {saved message detail state origin ownerId} (usable : registry.state = some state)
      (issued : issue state request.issuer = .ok (origin, ownerId)) (unheld : state.owners.get? ownerId = none) :
      MintCase store registry clock userId kill request (.unproven saved)
        (.error message,
          quarantine { registry with disk.visible := ⟨some (withHandle state ownerId userId).fileBytes, true⟩ } detail)
  | held {fate state terms result} (usable : registry.state = some state) (issued : Issued state kill request terms)
      (registered : RegisteredCase registry state clock kill.killed terms result) :
      MintCase store registry clock userId kill request fate result
  | minted {state terms result} (usable : registry.state = some state) (issued : Issued state kill request terms)
      (unheld : state.owners.get? terms.ownerId = none)
      (accepted : store.Accepts (withHandle state terms.ownerId userId))
      (registered : RegisteredCase
        { registry with state := some (withHandle state terms.ownerId userId),
                        disk := .durably (withHandle state terms.ownerId userId).fileBytes }
        (withHandle state terms.ownerId userId) clock kill.killed terms result) :
      MintCase store registry clock userId kill request .durable result

/-- What a mint comes to. -/
theorem mintInvite_cases {clock : MintClock} {handle : Draw 32} {fate : PublishFate} {kill : LiveKillState}
    {request : MintInviteRequest} {result : Except JsString InviteRecord × EnrolledDeviceRegistry}
    (h : registry.mintInvite store clock handle fate kill request = some result) :
    MintCase store registry clock handle.text kill request fate result := by
  unfold mintInvite at h
  cases hstate : registry.state with
  | none =>
      rw [hstate] at h
      obtain rfl := Option.some.inj h
      exact .refused
  | some state =>
      rw [hstate] at h
      dsimp only at h
      cases hepoch : kill.epoch? with
      | none =>
          rw [hepoch] at h
          obtain rfl := Option.some.inj h
          exact .refused
      | some killEpoch =>
          rw [hepoch] at h
          dsimp only at h
          cases hissue : issue state request.issuer with
          | error message =>
              rw [hissue] at h
              obtain rfl := Option.some.inj h
              exact .refused
          | ok issued =>
              obtain ⟨origin, ownerId⟩ := issued
              rw [hissue] at h
              obtain ⟨ensured, hensured, rfl⟩ := Option.map_eq_some_iff.mp h
              have hissued : Issued state kill request (terms request ownerId killEpoch origin) := ⟨rfl, hepoch, hissue⟩
              cases ensureOwnerUserId_cases hensured with
              | held => exact .held hstate hissued (registerInvite_cases hstate ..)
              | refused hunpublished => exact .ensureRefused hunpublished
              | torn hunheld htorn => exact .torn hstate hissue hunheld htorn
              | unproven hunheld => exact .unproven hstate hissue hunheld
              | minted hunheld haccepted =>
                  exact .minted hstate hissued hunheld haccepted (registerInvite_cases rfl ..)

/-! ### Enrollment -/

/-- A spend: the invite that a submission named, under the live facts that authorized it. -/
structure Spend (registry : EnrolledDeviceRegistry) (state : PersistedEnrolledDevices) (clock : CommitClock)
    (submission : Json) (kill : LiveKillState) (inviteId : JsString) (invite : InviteRecord) : Prop where
  usable : registry.state = some state
  room : activeDeviceCount state < maxActiveDevices
  named : namedInvite submission = some inviteId
  listed : registry.invites.invites.get? inviteId = some invite
  live : clock.consumed < invite.expiresAt
  authorizes : ∃ killEpoch, kill.epoch? = some killEpoch ∧
    Authorizes (liveWitness state kill.killed killEpoch) invite.toInviteTerms

/-- The book after a spend. -/
def spentInvites (registry : EnrolledDeviceRegistry) (inviteId : JsString) (invite : InviteRecord) : InviteStore :=
  (registry.invites.drop inviteId).settle invite

/-- What is left of the book when an invite was spent. -/
theorem get?_of_spentInvites {inviteId id : JsString} {invite record : InviteRecord}
    (h : (registry.spentInvites inviteId invite).invites.get? id = some record) :
    id ≠ inviteId ∧ registry.invites.invites.get? id = some record ∧
      (invite.origin.isBootstrap = true → record.origin.isBootstrap = false) := by
  obtain ⟨hget, hsibling⟩ := get?_of_settle h
  rw [get?_drop] at hget
  split at hget
  · cases hget
  · rename_i hne
    exact ⟨hne, hget, hsibling⟩

theorem get?_spentInvites_self (inviteId : JsString) (invite : InviteRecord) :
    (registry.spentInvites inviteId invite).invites.get? inviteId = none := by
  rw [Option.eq_none_iff_forall_ne_some]
  intro record h
  exact (get?_of_spentInvites h).1 rfl

/-- The admission that a commit publishes: a record with fresh keys under a free id. -/
structure Admission (state : PersistedEnrolledDevices) (invite : InviteRecord)
    (device : RegistryFile.PersistedEnrolledDevice) : Prop where
  unused : state.devices.get? device.deviceId = none
  credential : ∀ id d, state.devices.get? id = some d → d.credentialId ≠ device.credentialId
  cheapLaneKey : ∀ id d, state.devices.get? id = some d → d.cheapLaneKeySpki ≠ device.cheapLaneKeySpki
  ownerId : device.ownerId = invite.ownerId
  generation : device.generation = 1
  active : device.revokedAt = none

/-- How a commit can go, by what the file system makes of its publish. -/
inductive CommitCase (store : EnrolledDeviceFileStore) (registry : EnrolledDeviceRegistry) (clock : CommitClock)
    (submission : Json) (kill : LiveKillState) : PublishFate → Commit × EnrolledDeviceRegistry → Prop where
  | survives {fate reason invites} (loses : LosesExpired (· = clock.peeked) registry.invites invites) :
      CommitCase store registry clock submission kill fate (.refused reason true, { registry with invites })
  | gone {fate reason invites inviteId} (named : namedInvite submission = some inviteId)
      (unlisted : invites.invites.get? inviteId = none)
      (sub : ∀ id record, invites.invites.get? id = some record → registry.invites.invites.get? id = some record) :
      CommitCase store registry clock submission kill fate (.refused reason false, { registry with invites })
  | spent {fate reason state inviteId invite disk} (spend : Spend registry state clock submission kill inviteId invite)
      (unpublished : Unpublished registry.disk disk) :
      CommitCase store registry clock submission kill fate
        (.refused reason false, { registry with invites := registry.spentInvites inviteId invite, disk })
  | torn {saved synced reason state inviteId invite device disk}
      (spend : Spend registry state clock submission kill inviteId invite) (admission : Admission state invite device)
      (torn : RegistryDisk.Torn (admitted state invite device).fileBytes registry.disk disk) :
      CommitCase store registry clock submission kill (.torn saved synced)
        (.refused reason false, { registry with invites := registry.spentInvites inviteId invite, disk })
  | unproven {saved reason detail state inviteId invite device}
      (spend : Spend registry state clock submission kill inviteId invite) (admission : Admission state invite device) :
      CommitCase store registry clock submission kill (.unproven saved)
        (.refused reason false,
          quarantine { registry with invites := registry.spentInvites inviteId invite,
                                     disk.visible := ⟨some (admitted state invite device).fileBytes, true⟩ } detail)
  | admitted {state inviteId invite device} (spend : Spend registry state clock submission kill inviteId invite)
      (admission : Admission state invite device) (accepted : store.Accepts (admitted state invite device)) :
      CommitCase store registry clock submission kill .durable
        (.admitted device,
          { registry with invites := registry.spentInvites inviteId invite,
                          state := some (admitted state invite device),
                          disk := .durably (admitted state invite device).fileBytes })

/-- A new device shares its credential and its key with none. -/
theorem duplicate_none {credentialId cheapLaneKeySpki : JsString} {records : List RegistryFile.PersistedEnrolledDevice}
    (h : duplicate credentialId cheapLaneKeySpki records = none) :
    ∀ d ∈ records, d.credentialId ≠ credentialId ∧ d.cheapLaneKeySpki ≠ cheapLaneKeySpki := by
  induction records with
  | nil => nofun
  | cons existing rest ih =>
      rw [duplicate] at h
      split at h
      · cases h
      · rename_i hcredential
        split at h
        · cases h
        · rename_i hkey
          intro d hd
          rcases List.mem_cons.mp hd with rfl | hd
          · exact ⟨hcredential, hkey⟩
          · exact ih h d hd

/-- What an enrollment comes to. -/
theorem commitEnrollment_cases {crypto : EnrollmentCrypto} {clock : CommitClock} {deviceId : JsString}
    {fate : PublishFate} {submission : Json} {opts : CommitEnrollmentOptions} {result : Commit × EnrolledDeviceRegistry}
    (h : registry.commitEnrollment store crypto clock deviceId fate submission opts = some result) :
    CommitCase store registry clock submission opts.kill fate result := by
  unfold commitEnrollment at h
  obtain ⟨served, corruptDetail, invites, disk⟩ := registry
  cases served with
  | none =>
      obtain rfl := Option.some.inj h
      exact .survives (.refl _ _)
  | some state =>
      dsimp only at h
      cases hepoch : opts.kill.epoch? with
      | none =>
          rw [hepoch] at h
          obtain rfl := Option.some.inj h
          exact .survives (.refl _ _)
      | some killEpoch =>
          rw [hepoch] at h
          dsimp only at h
          split at h
          · obtain rfl := Option.some.inj h
            exact .survives (.refl _ _)
          · rename_i hroom
            have hcase := performEnrollment_cases crypto submission invites
              (liveWitness state opts.kill.killed killEpoch) opts.rpId opts.expectedOrigin clock.peeked clock.consumed
            generalize performEnrollment crypto submission invites _ opts.rpId opts.expectedOrigin clock.peeked
              clock.consumed = enrolled at hcase h
            cases hcase with
            | alive hloses =>
                obtain rfl := Option.some.inj h
                exact .survives hloses
            | gone hnamed hunlisted hkept =>
                obtain rfl := Option.some.inj h
                apply CommitCase.gone hnamed hunlisted
                intro id record hget
                rcases hkept with hloses | ⟨read, hloses, rfl⟩
                · exact hloses.sub id record hget
                · exact hloses.sub id record (JsMap.get?_of_delete hget)
            | verified hnamed hlisted hlive hauthorizes =>
                rename_i invite credential key inviteId
                have hspend :
                  Spend ⟨some state, corruptDetail, invites, disk⟩ state clock submission opts.kill inviteId invite :=
                  ⟨rfl, not_le.mp hroom, hnamed, hlisted, hlive, killEpoch, hepoch, hauthorizes⟩
                dsimp only at h
                cases hduplicate : duplicate credential.credentialId key state.devices.values with
                | some reason =>
                    rw [hduplicate] at h
                    obtain rfl := Option.some.inj h
                    exact .spent hspend (.refl disk)
                | none =>
                    rw [hduplicate] at h
                    dsimp only at h
                    split at h
                    · cases h
                    · rename_i hfree
                      rw [not_or, Bool.not_eq_true] at hfree
                      have hadmission :
                        Admission state invite (newDevice deviceId invite credential key clock.enrolled) := by
                        have hfresh := duplicate_none hduplicate
                        constructor
                        · exact JsMap.has_eq_false_iff.mp hfree.1
                        · intro id d hget
                          exact (hfresh d (JsMap.mem_values.mpr ⟨id, hget⟩)).1
                        · intro id d hget
                          exact (hfresh d (JsMap.mem_values.mpr ⟨id, hget⟩)).2
                        · rfl
                        · rfl
                        · rfl
                      obtain rfl := Option.some.inj h
                      unfold publishAdmission
                      dsimp only
                      have hsave := save_cases store
                        (admitted state invite (newDevice deviceId invite credential key clock.enrolled)) fate disk
                      generalize store.save _ fate disk = saved at hsave ⊢
                      cases hsave with
                      | refused hunpublished => exact .spent hspend hunpublished
                      | torn haccepted htorn => exact .torn hspend hadmission htorn
                      | visible haccepted => exact .unproven hspend hadmission
                      | durable haccepted => exact .admitted hspend hadmission haccepted

/-! ### Revocation -/

/-- How a revocation can go. -/
inductive RevokeCase (store : EnrolledDeviceFileStore) (registry : EnrolledDeviceRegistry) (deviceId : JsString)
    (revokedAt : Decimal) : Except JsString RegistryRevocation × EnrolledDeviceRegistry → Prop where
  | unusable {message} : RevokeCase store registry deviceId revokedAt (.error message, registry)
  | unknown : RevokeCase store registry deviceId revokedAt (.ok .unknown, registry)
  | already {state device} (usable : registry.state = some state) (listed : state.devices.get? deviceId = some device)
      (revoked : device.revokedAt.isSome = true) :
      RevokeCase store registry deviceId revokedAt (.ok (.alreadyRevoked device.generation), registry)
  | refused {state device detail disk} (usable : registry.state = some state)
      (listed : state.devices.get? deviceId = some device) (unpublished : Unpublished registry.disk disk) :
      RevokeCase store registry deviceId revokedAt
        (.ok (.publishFailed detail), quarantine { registry with disk } detail)
  | torn {state device detail disk} (usable : registry.state = some state)
      (listed : state.devices.get? deviceId = some device)
      (torn : RegistryDisk.Torn (severed state deviceId revokedAt).fileBytes registry.disk disk) :
      RevokeCase store registry deviceId revokedAt
        (.ok (.publishFailed detail), quarantine { registry with disk } detail)
  | unproven {state device detail} (usable : registry.state = some state)
      (listed : state.devices.get? deviceId = some device) (active : device.revokedAt = none)
      (accepted : store.Accepts (severed state deviceId revokedAt)) :
      RevokeCase store registry deviceId revokedAt
        (.ok (.publishFailed detail),
          quarantine { registry with disk.visible := ⟨some (severed state deviceId revokedAt).fileBytes, true⟩ } detail)
  | revoked {state device} (usable : registry.state = some state) (listed : state.devices.get? deviceId = some device)
      (active : device.revokedAt = none) (accepted : store.Accepts (severed state deviceId revokedAt)) :
      RevokeCase store registry deviceId revokedAt
        (.ok (.revoked (device.generation + 1)),
          { registry with state := some (severed state deviceId revokedAt),
                          disk := .durably (severed state deviceId revokedAt).fileBytes })

/-- What a revocation comes to. -/
theorem revoke_cases (store : EnrolledDeviceFileStore) (registry : EnrolledDeviceRegistry) (deviceId : JsString)
    (revokedAt : Decimal) (fate : PublishFate) :
    RevokeCase store registry deviceId revokedAt (registry.revoke store deviceId revokedAt fate) := by
  unfold revoke
  obtain ⟨served, corruptDetail, invites, disk⟩ := registry
  cases served with
  | none => exact .unusable
  | some state =>
      dsimp only
      cases hlisted : state.devices.get? deviceId with
      | none => exact .unknown
      | some device =>
          dsimp only
          split
          · rename_i hrevoked
            exact .already rfl hlisted hrevoked
          · rename_i hactive
            rw [Bool.not_eq_true, Option.isSome_eq_false_iff, Option.isNone_iff_eq_none] at hactive
            have hsave := save_cases store (severed state deviceId revokedAt) fate disk
            generalize store.save _ fate disk = saved at hsave ⊢
            cases hsave with
            | refused hunpublished => exact .refused rfl hlisted hunpublished
            | torn haccepted htorn => exact .torn rfl hlisted htorn
            | visible haccepted => exact .unproven rfl hlisted hactive haccepted
            | durable haccepted => exact .revoked rfl hlisted hactive haccepted

/-! ### Boot -/

/-- How the publish of a first state can go. -/
inductive PublishFirstCase (store : EnrolledDeviceFileStore) (registry : EnrolledDeviceRegistry)
    (state : PersistedEnrolledDevices) : Except JsString Unit × EnrolledDeviceRegistry → Prop where
  | refused {message disk} (unpublished : Unpublished registry.disk disk) :
      PublishFirstCase store registry state (.error message, quarantine { registry with disk } message)
  | torn {message disk} (torn : RegistryDisk.Torn state.fileBytes registry.disk disk) :
      PublishFirstCase store registry state (.error message, quarantine { registry with disk } message)
  | unproven {message} (accepted : store.Accepts state) :
      PublishFirstCase store registry state
        (.error message, quarantine { registry with disk.visible := ⟨some state.fileBytes, true⟩ } message)
  | served (accepted : store.Accepts state) :
      PublishFirstCase store registry state
        (.ok (), serve { registry with disk := .durably state.fileBytes } state)

theorem publishFirst_cases (failed undurable : JsString) (fate : PublishFate) (state : PersistedEnrolledDevices) :
    PublishFirstCase store registry state (registry.publishFirst store failed undurable fate state) := by
  unfold publishFirst
  dsimp only
  have hsave := save_cases store state fate registry.disk
  generalize store.save state fate registry.disk = saved at hsave ⊢
  cases hsave with
  | refused hunpublished => exact .refused hunpublished
  | torn haccepted htorn => exact .torn htorn
  | visible haccepted => exact .unproven haccepted
  | durable haccepted => exact .served haccepted

/-- How `initialize` can go. -/
inductive InitializeCase (store : EnrolledDeviceFileStore) (registry : EnrolledDeviceRegistry)
    (handle : JsString → Draw 32) : Except JsString Unit × EnrolledDeviceRegistry → Prop where
  | corrupt {detail disk} (unpublished : Unpublished registry.disk disk) :
      InitializeCase store registry handle (.error detail, quarantine { registry with disk } detail)
  | loaded {bytes state} (content : registry.disk.visible.content = some bytes)
      (read : store.interpret bytes = .loaded state) :
      InitializeCase store registry handle (.ok (), serve { registry with disk := .durably bytes } state)
  | overfull {bytes legacy detail} (content : registry.disk.visible.content = some bytes)
      (read : store.interpret bytes = .legacyV1 legacy) (ceiling : maxOwners < (ownersOf legacy.devices).dedup.length) :
      InitializeCase store registry handle (.error detail, quarantine { registry with disk := .durably bytes } detail)
  | migrated {bytes legacy owners result} (content : registry.disk.visible.content = some bytes)
      (read : store.interpret bytes = .legacyV1 legacy)
      (handles : mintHandles handle .empty (ownersOf legacy.devices) = some owners)
      (published : PublishFirstCase store { registry with disk := .durably bytes }
        ⟨legacy.bootstrapGeneration, legacy.devices, owners⟩ result) :
      InitializeCase store registry handle result
  | first {result} (missing : registry.disk.visible.content = none) (unmarked : registry.disk.visible.marker = false)
      (published : PublishFirstCase store registry initial result) : InitializeCase store registry handle result

/-- What a boot comes to. -/
theorem initializeRegistry_cases {handle : JsString → Draw 32} {load : LoadFate} {fate : PublishFate}
    {result : Except JsString Unit × EnrolledDeviceRegistry}
    (h : registry.initializeRegistry store handle load fate = some result) :
    InitializeCase store registry handle result := by
  unfold initializeRegistry at h
  have hload := load_cases store load registry.disk
  generalize store.load load registry.disk = loaded at hload h
  cases hload with
  | corrupt hunpublished =>
      obtain rfl := Option.some.inj h
      exact .corrupt hunpublished
  | absent hmissing hunmarked =>
      obtain rfl := Option.some.inj h
      exact .first hmissing hunmarked (publishFirst_cases ..)
  | loaded hcontent hread =>
      obtain rfl := Option.some.inj h
      exact .loaded hcontent hread
  | legacy hcontent hread =>
      dsimp only at h
      split at h
      · rename_i hceiling
        obtain rfl := Option.some.inj h
        exact .overfull hcontent hread hceiling
      · obtain ⟨owners, howners, rfl⟩ := Option.map_eq_some_iff.mp h
        exact .migrated hcontent hread howners (publishFirst_cases ..)

end EnrolledDeviceRegistry

end OwnerSwitch
