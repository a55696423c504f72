/-
Module: OwnerSwitch.ControlPlane.InviteContractRuns
Layer: ControlPlane
Purpose: What every step of the registry keeps of the owner handles and of the invites, and from it that what is minted
  is what the preflight and the readers of an invite accept, in every run.
Imports: ControlPlane.InviteContract
Trusted boundary: those of ControlPlane.DeviceRegistry
Main exports: Keeps, MintedInvite, mintInvite_ok, commitEnrollment_keeps, BootstrapMintCase, bootstrapMintInvite_cases
Open obligations: none
-/
import OwnerSwitch.ControlPlane.InviteContract

namespace OwnerSwitch

open RegistryFile InviteStore EnrolledDeviceFileStore

namespace EnrolledDeviceRegistry

variable {store : EnrolledDeviceFileStore} {rp : EnrollmentRp} {registry after : EnrolledDeviceRegistry}

/-! ### Owner handles -/

/-- Every handle of a state is one that a reader of an invite accepts. -/
def HandlesCanonical (state : PersistedEnrolledDevices) : Prop :=
  ∀ ownerId owner, state.owners.get? ownerId = some owner → isCanonicalB64url owner.userId 16 64 = true

theorem asOwnerHandle_canonical {ownerId : JsString} {v : Json} {owner : OwnerHandle}
    (h : asOwnerHandle ownerId v = some owner) : isCanonicalB64url owner.userId 16 64 = true := by
  simp only [asOwnerHandle, Option.bind_eq_bind, Option.bind_eq_some_iff, Option.guard_eq_some', exists_const,
    Option.some.injEq] at h
  obtain ⟨-, fs, -, -, userId, huser, rfl⟩ := h
  obtain ⟨value, -, hread⟩ := Option.bind_eq_some_iff.mp huser
  exact (Option.filter_eq_some_iff.mp hread).2

/-- A state that is read from a file has canonical handles. -/
theorem handlesCanonical_read {isSpkiDer : Bytes → Bool} {max : Nat} {v : Json} {state : PersistedEnrolledDevices}
    (h : asPersistedEnrolledDevices isSpkiDer max v = some state) : HandlesCanonical state := by
  cases asPersistedEnrolledDevices_iff.mp h with
  | mk hfields hkeys hversion hgeneration hdevices howners hcoherent =>
      intro ownerId owner hget
      obtain ⟨table, -, htable⟩ := Option.bind_eq_some_iff.mp howners
      obtain ⟨fs, hfs, -⟩ := Option.bind_eq_some_iff.mp htable
      cases table with
      | obj entries =>
          obtain ⟨w, -, hread⟩ := (Json.of_readTable htable).2 _ (JsMap.mem_of_get?_ofList hget)
          exact asOwnerHandle_canonical hread
      | null => cases hfs
      | bool => cases hfs
      | num => cases hfs
      | str => cases hfs
      | arr => cases hfs

/-- So has a state that a save does not refuse. -/
theorem handlesCanonical_accepts {state : PersistedEnrolledDevices} (h : store.Accepts state) :
    HandlesCanonical state := by
  obtain ⟨read, hread⟩ := h.valid
  intro ownerId owner hget
  apply handlesCanonical_read hread ownerId
  rw [(asPersistedEnrolledDevices_toJson hread).owners ownerId, hget]

/-! ### What a step keeps -/

/-- No handle of an owner changes. -/
def OwnersGrow (state state' : PersistedEnrolledDevices) : Prop :=
  ∀ ownerId owner, state.owners.get? ownerId = some owner → state'.owners.get? ownerId = some owner

theorem ownersGrow_withHandle {state : PersistedEnrolledDevices} {ownerId userId : JsString}
    (hunheld : state.owners.get? ownerId = none) : OwnersGrow state (withHandle state ownerId userId) := by
  intro other owner hget
  rw [withHandle, JsMap.get?_set_ne, hget]
  rintro rfl
  rw [hunheld] at hget
  cases hget

/-- What a step other than a boot keeps: invites are only lost, but for the one that is minted. -/
structure Keeps (registry after : EnrolledDeviceRegistry) (fresh : InviteRecord → Prop) : Prop where
  ttl : after.invites.ttlMs = registry.invites.ttlMs
  owners : ∀ state', after.state = some state' →
    ∃ state, registry.state = some state ∧ OwnersGrow state state' ∧ (HandlesCanonical state → HandlesCanonical state')
  invites : ∀ id record, after.invites.invites.get? id = some record →
    registry.invites.invites.get? id = some record ∨ record.inviteId = id ∧ fresh record

variable {minted : InviteRecord → Prop}

/-- A step that leaves the state as it is, or serves none. -/
theorem Keeps.of_state (hstate : ∀ state', after.state = some state' → registry.state = some state')
    (httl : after.invites.ttlMs = registry.invites.ttlMs)
    (hinvites : ∀ id record, after.invites.invites.get? id = some record →
      registry.invites.invites.get? id = some record) : Keeps registry after minted where
  ttl := httl
  owners := fun state' h => ⟨state', hstate state' h, fun _ _ hget => hget, fun hcanonical => hcanonical⟩
  invites := fun id record h => .inl (hinvites id record h)

theorem Keeps.refl (registry : EnrolledDeviceRegistry) : Keeps registry registry minted :=
  .of_state (fun _ h => h) rfl (fun _ _ h => h)

theorem keeps_quarantine {detail : JsString} {disk : RegistryDisk} :
    Keeps registry (quarantine { registry with disk } detail) minted :=
  .of_state (fun _ h => by cases h) rfl (fun _ _ h => h)

theorem get?_of_sweep {book : InviteStore} {swept : JsString → Int} {id : JsString} {record : InviteRecord}
    (h : (book.sweep swept).invites.get? id = some record) : book.invites.get? id = some record :=
  (losesExpired_sweep book swept).sub id record h

/-- An invite that is registered is one of the terms. -/
theorem registered_keeps {state : PersistedEnrolledDevices} {clock : MintClock} {killed : Bool} {terms : InviteTerms}
    {result : Except JsString InviteRecord × EnrolledDeviceRegistry}
    (h : RegisteredCase registry state clock killed terms result) :
    Keeps registry result.2 fun record => result.1 = .ok record := by
  cases h with
  | refused => exact .of_state (fun _ h => h) rfl (fun _ _ h => get?_of_sweep h)
  | registered heq hunused hauthorizes =>
      constructor
      · rfl
      · exact fun state' h => ⟨state', h, fun _ _ hget => hget, fun hcanonical => hcanonical⟩
      · intro id record hget
        dsimp only at hget
        rw [JsMap.get?_set] at hget
        split at hget
        · rename_i hid
          obtain rfl := Option.some.inj hget
          refine .inr ⟨?_, rfl⟩
          rw [heq]
          exact hid.symm
        · exact .inl (get?_of_sweep hget)

/-- A mint adds its invite to the book, and its owner's handle. -/
theorem mintInvite_keeps {clock : MintClock} {handle : Draw 32} {fate : PublishFate} {kill : LiveKillState}
    {request : MintInviteRequest} {result : Except JsString InviteRecord × EnrolledDeviceRegistry}
    (h : registry.mintInvite store clock handle fate kill request = some result) :
    Keeps registry result.2 fun record => result.1 = .ok record := by
  cases mintInvite_cases h with
  | refused => exact .refl registry
  | ensureRefused => exact .of_state (fun _ h => h) rfl (fun _ _ h => h)
  | torn => exact .of_state (fun _ h => h) rfl (fun _ _ h => h)
  | unproven => exact keeps_quarantine
  | held husable hissued hregistered => exact registered_keeps hregistered
  | minted husable hissued hunheld haccepted hregistered =>
      have hkeeps := registered_keeps hregistered
      constructor
      · exact hkeeps.ttl
      · intro state' hstate'
        obtain ⟨state, hstate, hgrow, hcanonical⟩ := hkeeps.owners state' hstate'
        obtain rfl := Option.some.inj hstate
        exact ⟨_, husable, fun id owner hget => hgrow id owner (ownersGrow_withHandle hunheld id owner hget),
          fun _ => hcanonical (handlesCanonical_accepts haccepted)⟩
      · exact hkeeps.invites

theorem peek_ttlMs (book : InviteStore) (now : Int) (inviteId : JsString) :
    (book.peek now inviteId).2.ttlMs = book.ttlMs := by
  unfold peek
  split
  · rfl
  · split
    · rfl
    · rfl

theorem settle_ttlMs (book : InviteStore) (record : InviteRecord) : (book.settle record).ttlMs = book.ttlMs := by
  unfold settle
  split
  · rfl
  · rfl

theorem consume_ttlMs (book : InviteStore) (sha256 : Bytes → Bytes) (now : Int) (inviteId tokenSecret : JsString)
    (witness : InviteSpendWitness) : (book.consume sha256 now inviteId tokenSecret witness).2.ttlMs = book.ttlMs := by
  have hcase := consume_cases book sha256 now inviteId tokenSecret witness
  generalize book.consume sha256 now inviteId tokenSecret witness = result at hcase ⊢
  cases hcase with
  | alive => rfl
  | absent => rfl
  | dropped => rfl
  | spent => exact settle_ttlMs ..

theorem performEnrollment_ttlMs (crypto : EnrollmentCrypto) (submission : Json) (book : InviteStore)
    (witness : InviteSpendWitness) (rpId expectedOrigin : JsString) (peeked consumed : Int) :
    (performEnrollment crypto submission book witness rpId expectedOrigin peeked consumed).2.ttlMs = book.ttlMs := by
  unfold performEnrollment
  split
  · rfl
  · rename_i fields _
    have hpeek := peek_ttlMs book peeked fields.inviteId
    generalize book.peek peeked fields.inviteId = peeked at hpeek ⊢
    obtain ⟨invite, read⟩ := peeked
    dsimp only at hpeek ⊢
    split
    · exact hpeek
    · split
      · exact hpeek
      · have hconsume := consume_ttlMs read crypto.sha256 consumed fields.inviteId fields.token witness
        generalize read.consume crypto.sha256 consumed fields.inviteId fields.token witness = burnt at hconsume ⊢
        obtain ⟨burn, left⟩ := burnt
        dsimp only at hconsume ⊢
        split
        · exact hconsume.trans hpeek
        · exact hconsume.trans hpeek

theorem publishAdmission_invites (next : PersistedEnrolledDevices) (device : RegistryFile.PersistedEnrolledDevice)
    (fate : PublishFate) : (registry.publishAdmission store next device fate).2.invites = registry.invites := by
  unfold publishAdmission
  generalize store.save next fate registry.disk = saved
  obtain ⟨saved, disk⟩ := saved
  dsimp only
  split
  · rfl
  · rfl
  · rfl

theorem commitEnrollment_ttlMs {crypto : EnrollmentCrypto} {clock : CommitClock} {deviceId : JsString}
    {fate : PublishFate} {submission : Json} {opts : CommitEnrollmentOptions} {result : Commit × EnrolledDeviceRegistry}
    (h : registry.commitEnrollment store crypto clock deviceId fate submission opts = some result) :
    result.2.invites.ttlMs = registry.invites.ttlMs := by
  unfold commitEnrollment at h
  split at h
  · obtain rfl := Option.some.inj h
    rfl
  · rename_i state _
    split at h
    · obtain rfl := Option.some.inj h
      rfl
    · rename_i killEpoch _
      split at h
      · obtain rfl := Option.some.inj h
        rfl
      · have hperformed := performEnrollment_ttlMs crypto submission registry.invites
          (liveWitness state opts.kill.killed killEpoch) opts.rpId opts.expectedOrigin clock.peeked clock.consumed
        generalize performEnrollment crypto submission registry.invites
          (liveWitness state opts.kill.killed killEpoch) opts.rpId opts.expectedOrigin clock.peeked clock.consumed =
          performed at hperformed h
        obtain ⟨outcome, invites⟩ := performed
        dsimp only at hperformed h
        split at h
        · obtain rfl := Option.some.inj h
          exact hperformed
        · split at h
          · obtain rfl := Option.some.inj h
            exact hperformed
          · split at h
            · cases h
            · obtain rfl := Option.some.inj h
              rw [publishAdmission_invites]
              exact hperformed

/-- An enrollment adds no invite and takes no handle. -/
theorem commitEnrollment_keeps {crypto : EnrollmentCrypto} {clock : CommitClock} {deviceId : JsString}
    {fate : PublishFate} {submission : Json} {opts : CommitEnrollmentOptions} {result : Commit × EnrolledDeviceRegistry}
    (h : registry.commitEnrollment store crypto clock deviceId fate submission opts = some result) :
    Keeps registry result.2 fun _ => False := by
  have httl := commitEnrollment_ttlMs h
  have hspent : ∀ inviteId invite id record,
      (registry.spentInvites inviteId invite).invites.get? id = some record →
        registry.invites.invites.get? id = some record := by
    intro inviteId invite id record hget
    exact (get?_of_spentInvites hget).2.1
  cases commitEnrollment_cases h with
  | survives hloses => exact .of_state (fun _ h => h) httl hloses.sub
  | gone hnamed hunlisted hsub => exact .of_state (fun _ h => h) httl hsub
  | spent hspend hunpublished => exact .of_state (fun _ h => h) httl (hspent _ _)
  | torn hspend => exact .of_state (fun _ h => h) httl (hspent _ _)
  | unproven hspend =>
      apply Keeps.of_state _ httl (hspent _ _)
      intro state' hstate'
      cases hstate'
  | admitted hspend hadmission haccepted =>
      constructor
      · exact httl
      · intro state' hstate'
        obtain rfl := Option.some.inj hstate'
        exact ⟨_, hspend.usable, fun _ _ hget => hget, fun hcanonical => hcanonical⟩
      · exact fun id record hget => .inl (hspent _ _ id record hget)

/-- A revocation adds no invite and takes no handle. -/
theorem revoke_keeps (deviceId : JsString) (revokedAt : Decimal) (fate : PublishFate) :
    Keeps registry (registry.revoke store deviceId revokedAt fate).2 fun _ => False := by
  have hcase := revoke_cases store registry deviceId revokedAt fate
  generalize registry.revoke store deviceId revokedAt fate = result at hcase ⊢
  cases hcase with
  | unusable => exact .refl registry
  | unknown => exact .refl registry
  | already => exact .refl registry
  | refused => exact keeps_quarantine
  | torn => exact keeps_quarantine
  | unproven => exact keeps_quarantine
  | revoked husable hlisted hactive haccepted =>
      constructor
      · rfl
      · intro state' hstate'
        obtain rfl := Option.some.inj hstate'
        exact ⟨_, husable, fun _ _ hget => hget, fun hcanonical => hcanonical⟩
      · exact fun _ _ hget => .inl hget

theorem getEnrollContract_state (rp : EnrollmentRp) (now : Int) (inviteId : JsString) :
    (registry.getEnrollContract rp now inviteId).2.state = registry.state ∧
      ((registry.getEnrollContract rp now inviteId).2 = registry ∨
        (registry.getEnrollContract rp now inviteId).2.invites = (registry.invites.peek now inviteId).2) := by
  unfold getEnrollContract
  split
  · exact ⟨rfl, .inl rfl⟩
  · dsimp only
    split
    · exact ⟨rfl, .inr rfl⟩
    · split
      · exact ⟨rfl, .inr rfl⟩
      · exact ⟨rfl, .inr rfl⟩

/-- A preflight adds no invite and takes no handle. -/
theorem getEnrollContract_keeps (now : Int) (inviteId : JsString) :
    Keeps registry (registry.getEnrollContract rp now inviteId).2 fun _ => False := by
  obtain ⟨hstate, hsame | hinvites⟩ := registry.getEnrollContract_state rp now inviteId
  · rw [hsame]
    exact .refl registry
  · apply Keeps.of_state
    · intro state' h
      rw [← hstate]
      exact h
    · rw [hinvites]
      exact peek_ttlMs ..
    · rw [hinvites]
      exact (losesExpired_peek registry.invites now inviteId).sub

theorem invalidateSupersededEpoch_keeps (currentEpoch : Nat) :
    Keeps registry (registry.invalidateSupersededEpoch currentEpoch) fun _ => False :=
  .of_state (fun _ h => h) rfl (fun _ _ hget => (get?_of_keep hget).1)

/-- A boot serves a state with canonical handles, and no invites. -/
theorem initialize_serves {disk : RegistryDisk} {handle : JsString → Draw 32} {load : LoadFate} {fate : PublishFate}
    {result : Except JsString Unit × EnrolledDeviceRegistry}
    (h : (fresh disk).initializeRegistry store handle load fate = some result) :
    result.2.invites = (fresh disk).invites ∧ ∀ state, result.2.state = some state → HandlesCanonical state := by
  have hfirst : ∀ {registry : EnrolledDeviceRegistry} {state : PersistedEnrolledDevices}
      {result : Except JsString Unit × EnrolledDeviceRegistry}, PublishFirstCase store registry state result →
      result.2.invites = registry.invites ∧ ∀ state, result.2.state = some state → HandlesCanonical state := by
    intro registry state result hpublished
    cases hpublished with
    | refused => exact ⟨rfl, fun state h => by cases h⟩
    | torn => exact ⟨rfl, fun state h => by cases h⟩
    | unproven => exact ⟨rfl, fun state h => by cases h⟩
    | served haccepted =>
        refine ⟨rfl, fun served h => ?_⟩
        obtain rfl := Option.some.inj h
        exact handlesCanonical_accepts haccepted
  cases initializeRegistry_cases h with
  | corrupt => exact ⟨rfl, fun state h => by cases h⟩
  | overfull => exact ⟨rfl, fun state h => by cases h⟩
  | migrated hcontent hread hhandles hpublished =>
      obtain ⟨hinvites, hserves⟩ := hfirst hpublished
      exact ⟨hinvites, hserves⟩
  | first hmissing hunmarked hpublished => exact hfirst hpublished
  | loaded hcontent hread =>
      refine ⟨rfl, fun served h => ?_⟩
      obtain rfl := Option.some.inj h
      unfold interpret at hread
      split at hread
      · cases hread
      · split at hread
        · cases hread
        · split at hread
          · rename_i hvalid
            obtain rfl := EnrolledDevicesLoad.loaded.inj hread
            exact handlesCanonical_read hvalid
          · split at hread
            · cases hread
            · cases hread

/-! ### What is minted -/

/-- What an invite is that was minted, and that its owner has a handle by then. -/
structure MintedInvite (registry : EnrolledDeviceRegistry) (clock : MintClock) (request : MintInviteRequest)
    (record : InviteRecord) (after : EnrolledDeviceRegistry) : Prop where
  inviteId : record.inviteId = request.inviteId
  deviceName : record.deviceName = request.deviceName
  named : request.deviceName ≠ [] ∧ request.deviceName.length ≤ 200
  challenge : record.challenge = request.challenge
  assertionChallenge : record.assertionChallenge = request.assertionChallenge
  owner : ∀ ownerId, request.issuer = .bootstrap ownerId → record.ownerId = ownerId
  expiresAt : record.expiresAt = clock.now + registry.invites.ttlMs
  held : ∃ state owner, after.state = some state ∧ state.owners.get? record.ownerId = some owner
  listed : after.invites.invites.get? record.inviteId = some record

/-- The record of a registration that is accepted. -/
theorem register_ok {book : InviteStore} {swept : JsString → Int} {now : Int} {terms : InviteTerms}
    {witness : InviteSpendWitness} {record : InviteRecord}
    (h : (book.register swept now terms witness).1 = .ok record) :
    record = { terms with expiresAt := now + book.ttlMs } ∧
      (book.register swept now terms witness).2.invites.get? record.inviteId = some record ∧
      terms.deviceName ≠ [] ∧ terms.deviceName.length ≤ 200 := by
  unfold register at h ⊢
  dsimp only at h ⊢
  split at h
  · cases h
  · rename_i hchecked
    obtain rfl := Except.ok.inj h
    refine ⟨rfl, JsMap.get?_set_self .., ?_⟩
    cases hterms : (book.sweep swept).checkTerms terms with
    | error reason =>
        rw [hterms] at hchecked
        cases hchecked
    | ok u =>
        unfold checkTerms at hterms
        split_ifs at hterms with _ _ _ _ hname
        rw [not_or, not_lt] at hname
        exact hname

/-- The owner's handle is there once it is established, and nothing else of the registry changed. -/
theorem ensureOwnerUserId_ok {state : PersistedEnrolledDevices} (husable : registry.state = some state)
    {ownerId userId : JsString} {handle : Draw 32} {fate : PublishFate}
    (h : registry.ensureOwnerUserId store state ownerId handle fate = some (.ok userId, after)) :
    after.invites = registry.invites ∧
      ∃ state' owner, after.state = some state' ∧ state'.owners.get? ownerId = some owner := by
  cases ensureOwnerUserId_cases h with
  | held hheld => exact ⟨rfl, state, _, husable, hheld⟩
  | minted hunheld haccepted => exact ⟨rfl, _, _, rfl, JsMap.get?_set_self ..⟩

/-- The record of a mint that is accepted. -/
theorem mintInvite_ok {clock : MintClock} {handle : Draw 32} {fate : PublishFate} {kill : LiveKillState}
    {request : MintInviteRequest} {record : InviteRecord}
    (h : registry.mintInvite store clock handle fate kill request = some (.ok record, after)) :
    MintedInvite registry clock request record after := by
  unfold mintInvite at h
  split at h
  · cases h
  · rename_i state husable
    split at h
    · cases h
    · rename_i killEpoch _
      split at h
      · cases h
      · rename_i origin ownerId hissue
        obtain ⟨⟨ensured, established⟩, hensured, h⟩ := Option.map_eq_some_iff.mp h
        cases ensured with
        | error message => cases h
        | ok userId =>
            obtain ⟨hinvites, state', owner, hstate', hheld⟩ := ensureOwnerUserId_ok husable hensured
            simp only [registerInvite, hstate', hinvites] at h
            obtain ⟨hrecord, rfl⟩ := Prod.mk.inj h
            obtain ⟨rfl, hlisted, hnamed⟩ := register_ok hrecord
            constructor
            · rfl
            · rfl
            · exact hnamed
            · rfl
            · rfl
            · intro bootstrapOwner hissuer
              rw [hissuer] at hissue
              obtain ⟨-, rfl⟩ := Prod.mk.inj (Except.ok.inj hissue)
              rfl
            · rfl
            · exact ⟨state', owner, rfl, hheld⟩
            · exact hlisted

/-- How a mint over the socket can go. -/
inductive BootstrapMintCase (rp : EnrollmentRp) (registry : EnrolledDeviceRegistry) (clock : MintClock)
    (draws : MintDraws)
    : BootstrapMintResult × EnrolledDeviceRegistry → Prop where
  | refused {error after} (keeps : Keeps registry after fun _ => False) :
      BootstrapMintCase rp registry clock draws (.refused error, after)
  | minted {request : BootstrapMintRequest} {record state owner after}
      (sized : request.ownerId ≠ [] ∧ request.ownerId.length ≤ 256)
      (keeps : Keeps registry after (· = record))
      (invite : MintedInvite registry clock (request.mint draws) record after)
      (serves : after.state = some state) (held : state.owners.get? record.ownerId = some owner) :
      BootstrapMintCase rp registry clock draws (.minted (contractOf rp record owner.userId), after)

theorem BootstrapMintRequest.parse_sized {value : Json} {request : BootstrapMintRequest}
    (h : BootstrapMintRequest.parse value = .ok request) : request.ownerId ≠ [] ∧ request.ownerId.length ≤ 256 := by
  unfold BootstrapMintRequest.parse at h
  split at h
  · cases h
  · split at h
    · cases h
    · rename_i hfields
      obtain rfl := Except.ok.inj h
      simp only [BootstrapMintRequest.ofFields, Option.bind_eq_bind, Option.bind_eq_some_iff, Option.guard_eq_some',
        exists_const, Option.some.injEq] at hfields
      obtain ⟨-, tokenHash, -, ownerId, -, deviceName, -, hsized, rfl⟩ := hfields
      exact ⟨hsized.1, hsized.2.1⟩

/-- What a bootstrap mint comes to. -/
theorem bootstrapMintInvite_cases {clock : MintClock} {draws : MintDraws} {fate : PublishFate} {kill : LiveKillState}
    {value : Json} {result : BootstrapMintResult × EnrolledDeviceRegistry}
    (h : registry.bootstrapMintInvite store rp clock draws fate kill value = some result) :
    BootstrapMintCase rp registry clock draws result := by
  unfold bootstrapMintInvite at h
  split at h
  · obtain rfl := Option.some.inj h
    exact .refused (.refl registry)
  · rename_i request hrequest
    obtain ⟨⟨minted, after⟩, hminted, rfl⟩ := Option.map_eq_some_iff.mp h
    have hkeeps := mintInvite_keeps hminted
    cases minted with
    | error message =>
        apply BootstrapMintCase.refused
        exact ⟨hkeeps.ttl, hkeeps.owners, fun id record hget =>
          (hkeeps.invites id record hget).imp_right fun hfresh => by cases hfresh.2⟩
    | ok record =>
        have hinvite := mintInvite_ok hminted
        obtain ⟨state, owner, hserves, hheld⟩ := hinvite.held
        simp only [enrollmentContractFor, ownerUserId, hserves, hheld, Option.map_some, Except.map]
        apply BootstrapMintCase.minted (BootstrapMintRequest.parse_sized hrequest) _ hinvite hserves hheld
        refine ⟨hkeeps.ttl, hkeeps.owners, fun id other hget => ?_⟩
        rcases hkeeps.invites id other hget with hold | ⟨hid, hfresh⟩
        · exact .inl hold
        · exact .inr ⟨hid, (Except.ok.inj hfresh).symm⟩

end EnrolledDeviceRegistry

end OwnerSwitch
