/-
Module: OwnerSwitch.ControlPlane.InviteReaders
Layer: ControlPlane
Purpose: The minter of an invite and its readers agree in every run: what is minted is read back by the app and by the
  shared package, a secret is one for the readers where it is one at the spend, and the preflight answers with the
  contract that was minted.
Imports: ControlPlane.InviteContractRuns, ControlPlane.InviteFates
Trusted boundary: those of ControlPlane.DeviceRegistry
Main exports: InviteReadersAgree, invite_readers_agree, preflight_repeats_mint
Open obligations: none
-/
import OwnerSwitch.ControlPlane.InviteContractRuns
import OwnerSwitch.ControlPlane.InviteFates

namespace OwnerSwitch

open RegistryFile InviteStore EnrollmentInvite EnrolledDeviceRegistry

variable {store : EnrolledDeviceFileStore} {rp : EnrollmentRp}

/-! ### Runs -/

/-- What holds of the registry in every run. -/
structure Serving (registry : EnrolledDeviceRegistry) : Prop where
  ttl : registry.invites.ttlMs = defaultInviteTtlMs
  handles : ∀ state, registry.state = some state → HandlesCanonical state

theorem Serving.of_keeps {registry after : EnrolledDeviceRegistry} {minted : InviteRecord → Prop} (h : Serving registry)
    (hkeeps : Keeps registry after minted) : Serving after where
  ttl := hkeeps.ttl.trans h.ttl
  handles := by
    intro state' hstate'
    obtain ⟨state, hstate, -, hcanonical⟩ := hkeeps.owners state' hstate'
    exact hcanonical (h.handles state hstate)

theorem serving_invariant : (registryRuns store rp).Invariant Serving where
  init := by
    rintro registry ⟨disk, rfl⟩
    exact ⟨rfl, fun state h => by cases h⟩
  step := by
    intro registry step after hserving hstep
    cases hstep with
    | boot hbooted =>
        obtain ⟨hinvites, hhandles⟩ := initialize_serves hbooted
        exact ⟨congrArg InviteStore.ttlMs hinvites, hhandles⟩
    | mint hminted =>
        cases bootstrapMintInvite_cases hminted with
        | refused hkeeps => exact hserving.of_keeps hkeeps
        | minted hsized hkeeps hinvite hserves hheld => exact hserving.of_keeps hkeeps
    | commit hcommitted => exact hserving.of_keeps (commitEnrollment_keeps hcommitted)
    | revoke => exact hserving.of_keeps (revoke_keeps _ _ _)
    | supersede => exact hserving.of_keeps (invalidateSupersededEpoch_keeps _)
    | preflight => exact hserving.of_keeps (getEnrollContract_keeps _ _)

/-! ### What is minted is read -/

/-- The time values that a date can have, from the epoch on. -/
def IsTimeValue (now : Int) : Prop :=
  0 ≤ now ∧ now ≤ 8640000000000000

theorem text_bytes {n lo hi : Nat} (draw : Draw n) (hlo : lo ≤ n) (hhi : n ≤ hi) :
    ∃ bytes : Bytes, draw.text = Base64url.encode bytes ∧ lo ≤ bytes.length ∧ bytes.length ≤ hi := by
  refine ⟨draw.1, rfl, ?_, ?_⟩
  · rw [draw.2]
    exact hlo
  · rw [draw.2]
    exact hhi

theorem canonical_bytes {text : JsString} {lo hi : Nat} (h : isCanonicalB64url text lo hi = true) :
    ∃ bytes : Bytes, text = Base64url.encode bytes ∧ lo ≤ bytes.length ∧ bytes.length ≤ hi := by
  unfold isCanonicalB64url at h
  split at h
  · cases h
  · rename_i bytes hbytes
    rw [Bool.and_eq_true, decide_eq_true_eq, decide_eq_true_eq] at h
    exact ⟨bytes, Base64url.decode_iff.mp hbytes, h⟩

theorem length_encode (bytes : Bytes) : (Base64url.encode bytes).length = (4 * bytes.length + 2) / 3 := by
  rw [Base64.encode_eq_map, List.length_map, Base64.length_sextets]

/-- The contract of an invite that was just minted is within the bounds of its readers. -/
theorem runnable_minted {registry after : EnrolledDeviceRegistry} {clock : MintClock} {draws : MintDraws}
    {contract : EnrollmentInviteContract} (hserving : Serving registry) (hclock : IsTimeValue clock.now)
    (hrpId : rp.rpId.length ≤ 256) (hrpName : rp.rpName.length ≤ 256)
    (h : BootstrapMintCase rp registry clock draws (.minted contract, after)) : Runnable contract := by
  cases h with
  | @minted request record state owner _ hsized hkeeps hinvite hserves hheld =>
      have howner : record.ownerId ≠ [] ∧ record.ownerId.length ≤ 256 := by
        rw [hinvite.owner request.ownerId rfl]
        exact hsized
      have hexpires : record.expiresAt = clock.now + defaultInviteTtlMs := by
        rw [hinvite.expiresAt, hserving.ttl]
      have hhandle := (hserving.of_keeps hkeeps).handles state hserves record.ownerId owner hheld
      obtain ⟨bytes, hbytes, hlo, hhi⟩ := canonical_bytes hhandle
      constructor
      case inviteId =>
        have hlength : (js "inv_" ++ draws.inviteId.text).length = 16 := by
          rw [List.length_append, Draw.text, length_encode, draws.inviteId.2]
          rfl
        have hid : (contractOf rp record owner.userId).inviteId = js "inv_" ++ draws.inviteId.text := hinvite.inviteId
        rw [hid]
        refine ⟨?_, by omega⟩
        intro hempty
        rw [hempty] at hlength
        cases hlength
      case expiresAt =>
        have hlate : (contractOf rp record owner.userId).expiresAt = clock.now + 600000 := hexpires
        obtain ⟨hepoch, hlast⟩ := hclock
        rw [hlate, Json.maxSafeInteger]
        omega
      case ownerId => exact howner
      case rpId => exact ⟨rp.named.1, hrpId⟩
      case rpName => exact ⟨rp.named.2, hrpName⟩
      case deviceName =>
        have hname : (contractOf rp record owner.userId).deviceName = request.deviceName := hinvite.deviceName
        rw [hname]
        exact hinvite.named
      case challenge =>
        rw [show (contractOf rp record owner.userId).challenge = draws.challenge.text from hinvite.challenge]
        exact text_bytes draws.challenge (by decide) (by decide)
      case assertionChallenge =>
        rw [show (contractOf rp record owner.userId).assertionChallenge = draws.assertionChallenge.text from
          hinvite.assertionChallenge]
        exact text_bytes draws.assertionChallenge (by decide) (by decide)
      case userId => exact ⟨bytes, hbytes, by omega, hhi⟩
      case userName => exact howner
      case userDisplayName => exact howner

/-! ### Secrets -/

/-- A text is a secret for the readers where it has the length of one and encodes something. -/
theorem canonicalB64url_token {read : JsString → Option Bytes} (h : ReadsCanonical read) (text : JsString) :
    (canonicalB64url read 16 96 (.str text)).isSome = isToken text := by
  rw [Bool.eq_iff_iff, Option.isSome_iff_exists, isToken, Bool.and_eq_true, Bool.and_eq_true, decide_eq_true_eq,
    decide_eq_true_eq, Option.isSome_iff_exists]
  constructor
  · rintro ⟨t, ht⟩
    obtain ⟨-, bytes, rfl, hlo, hhi⟩ := (canonicalB64url_iff h (by decide)).mp ht
    rw [length_encode]
    exact ⟨⟨by omega, by omega⟩, bytes, Base64url.decode_encode bytes⟩
  · rintro ⟨⟨hlo, hhi⟩, bytes, hbytes⟩
    obtain rfl := Base64url.decode_iff.mp hbytes
    rw [length_encode] at hlo hhi
    exact ⟨_, canonicalB64url_encode h (by decide) (by omega) (by omega)⟩

/-- A spend that gets as far as its secret. -/
structure ReachesSecret (book : InviteStore) (now : Int) (inviteId : JsString) (witness : InviteSpendWitness)
    (record : InviteRecord) : Prop where
  unkilled : witness.killed = false
  wellFormed : witness.isMalformed = false
  listed : book.invites.get? inviteId = some record
  live : now < record.expiresAt

/-- The answer to a secret that is not canonical. -/
def notCanonical : InviteConsume :=
  .refused (js "invite secret is not a canonical token (base64url, >= 22 chars)") .alive

theorem consume_notCanonical {book : InviteStore} {now : Int} {inviteId : JsString} {witness : InviteSpendWitness}
    {record : InviteRecord} (h : ReachesSecret book now inviteId witness record) (sha256 : Bytes → Bytes)
    (text : JsString) :
    (book.consume sha256 now inviteId text witness).1 = notCanonical ↔ isToken text = false := by
  unfold consume
  rw [if_neg (by rw [h.unkilled]; exact Bool.false_ne_true), if_neg (by rw [h.wellFormed]; exact Bool.false_ne_true)]
  simp only [h.listed, if_neg (not_le.mpr h.live)]
  cases htoken : isToken text with
  | false => exact ⟨fun _ => rfl, fun _ => rfl⟩
  | true =>
      constructor
      · intro hsame
        exfalso
        rw [if_neg (by decide)] at hsame
        split at hsame
        · have hreason := (InviteConsume.refused.inj hsame).1
          revert hreason
          decide
        · split at hsame
          · cases (InviteConsume.refused.inj hsame).2
          · cases hsame
      · intro hfalse
        cases hfalse

/-! ### A first mint -/

def sampleRp : EnrollmentRp where
  rpId := js "owner.example"
  rpName := js "OwnerSwitch"
  named := ⟨by decide, by decide⟩

def emptyDisk : RegistryDisk where
  visible := ⟨none, false⟩
  proven := ⟨none, false⟩

/-- The first boot of an installation. -/
def sampleBoot : Option (Except JsString Unit × EnrolledDeviceRegistry) :=
  (fresh emptyDisk).initializeRegistry freshStore (fun _ => ⟨List.replicate 32 4, rfl⟩) .proven .durable

def sampleDraws : MintDraws where
  inviteId := ⟨List.replicate 9 1, rfl⟩
  challenge := ⟨List.replicate 32 2, rfl⟩
  assertionChallenge := ⟨List.replicate 32 3, rfl⟩
  handle := ⟨List.replicate 32 4, rfl⟩

def sampleMintRequest : Json :=
  .obj
    [(js "tokenHash", .str (Base64url.encode (List.replicate 32 1))), (js "ownerId", .str (js "owner-1")),
     (js "deviceName", .str (js "phone"))]

def sampleMint (registry : EnrolledDeviceRegistry) : Option (BootstrapMintResult × EnrolledDeviceRegistry) :=
  registry.bootstrapMintInvite freshStore sampleRp ⟨fun _ => 0, 0⟩ sampleDraws .durable
    ⟨false, .ofInt 0⟩ sampleMintRequest

def BootstrapMintResult.isMinted : BootstrapMintResult → Bool
  | .minted _ => true
  | .refused _ => false

def ContractReply.isFound : ContractReply → Bool
  | .found _ => true
  | .refused .. => false

/-- The first boot and the first mint after it, and whether the preflight finds the invite. -/
theorem sampleMint_found :
    (sampleBoot.bind fun booted => (sampleMint booted.2).map fun minted =>
      (minted.1.isMinted, (minted.2.getEnrollContract sampleRp 0 (js "inv_" ++ sampleDraws.inviteId.text)).1.isFound)) =
      some (true, true) := by
  decide +kernel

/-! ### Agreement -/

/-- The minter and the readers of an invite agree. -/
structure InviteReadersAgree (store : EnrolledDeviceFileStore) (rp : EnrollmentRp) : Prop where
  readers : ∀ platform value, enrollmentInviteFromWire platform value = parseEnrollmentInvite value
  minted : ∀ registry, (registryRuns store rp).Reachable registry →
    ∀ clock draws fate kill request contract after,
      registry.bootstrapMintInvite store rp clock draws fate kill request = some (.minted contract, after) →
      IsTimeValue clock.now → rp.rpId.length ≤ 256 → rp.rpName.length ≤ 256 →
      ∀ secret : Bytes, 16 ≤ secret.length → secret.length ≤ 96 →
        parseEnrollmentInvite (payload contract (Base64url.encode secret)) =
            some { contract with token := Base64url.encode secret } ∧
          ∀ platform, enrollmentInviteFromWire platform (payload contract (Base64url.encode secret)) =
            some { contract with token := Base64url.encode secret }
  secrets : ∀ book now inviteId witness record, ReachesSecret book now inviteId witness record →
    ∀ sha256 text,
      ((canonicalB64url Base64.readAtob 16 96 (.str text)).isSome = true ↔
          (book.consume sha256 now inviteId text witness).1 ≠ notCanonical) ∧
        ∀ platform : Platform, (canonicalB64url platform.base64urlDecode 16 96 (.str text)).isSome = true ↔
          (book.consume sha256 now inviteId text witness).1 ≠ notCanonical

/-- In every run the minter and both readers agree. -/
theorem invite_readers_agree (store : EnrolledDeviceFileStore) (rp : EnrollmentRp) : InviteReadersAgree store rp where
  readers := by
    intro platform value
    rw [enrollmentInviteFromWire, parseEnrollmentInvite, sharedRules_eq,
      platform.readsCanonical.unique readsCanonical_atob]
  minted := by
    intro registry hreachable clock draws fate kill request contract after hminted hclock hrpId hrpName secret hlo hhi
    have hserving : Serving registry := hreachable.invariant serving_invariant
    have hrunnable := runnable_minted hserving hclock hrpId hrpName (bootstrapMintInvite_cases hminted)
    have hread : ∀ read, ReadsCanonical read →
        EnrollmentInvite.parse ownerAppRules read (payload contract (Base64url.encode secret)) =
          some { contract with token := Base64url.encode secret } := by
      intro read hcanonical
      rw [parse_payload hcanonical hrunnable, canonicalB64url_encode hcanonical (by decide) hlo hhi]
      rfl
    exact ⟨hread _ readsCanonical_atob, fun platform => hread _ platform.readsCanonical⟩
  secrets := by
    intro book now inviteId witness record hreaches sha256 text
    have hsecret : ∀ read, ReadsCanonical read → ((canonicalB64url read 16 96 (.str text)).isSome = true ↔
        (book.consume sha256 now inviteId text witness).1 ≠ notCanonical) := by
      intro read hcanonical
      rw [canonicalB64url_token hcanonical, ne_eq, consume_notCanonical hreaches, Bool.not_eq_false]
    exact ⟨hsecret _ readsCanonical_atob, fun platform => hsecret _ platform.readsCanonical⟩

/-- The first invite of an installation is read back. -/
theorem invite_readers_agree_first :
    ∃ contract after, (sampleBoot.bind fun booted => sampleMint booted.2) = some (.minted contract, after) ∧
      parseEnrollmentInvite (payload contract (Base64url.encode (List.replicate 16 9))) =
        some { contract with token := Base64url.encode (List.replicate 16 9) } := by
  obtain ⟨⟨booted, registry⟩, hbooted, hfound⟩ := Option.bind_eq_some_iff.mp sampleMint_found
  obtain ⟨⟨minted, after⟩, hminted, hflags⟩ := Option.map_eq_some_iff.mp hfound
  cases minted with
  | refused error => cases (Prod.mk.inj hflags).1
  | minted contract =>
      have hreachable : (registryRuns freshStore sampleRp).Reachable registry :=
        ⟨_, (Lts.Exec.nil (M := registryRuns freshStore sampleRp) ⟨emptyDisk, rfl⟩).snoc (.boot hbooted)⟩
      refine ⟨contract, after, ?_, ?_⟩
      · rw [hbooted]
        exact hminted
      · exact ((invite_readers_agree freshStore sampleRp).minted registry hreachable _ _ _ _ _ contract after hminted
          ⟨by decide, by decide⟩ (by decide) (by decide) (List.replicate 16 9) (by decide) (by decide)).1

/-! ### The preflight -/

/-- The edge is a mint that answered with the contract. -/
def MintsContract (contract : EnrollmentInviteContract) (e : Lts.Edge EnrolledDeviceRegistry RegistryStep) : Prop :=
  ∃ clock draws fate kill request, e.label = .mint clock draws fate kill request (.minted contract)

/-- A step after which an earlier invite of this id is not there: a boot, another mint of the id, an enrollment with
    it. -/
inductive Ends (inviteId : JsString) : RegistryStep → Prop where
  | boot {disk handle load fate result} : Ends inviteId (.boot disk handle load fate result)
  | mint {clock draws fate kill request contract} (same : contract.inviteId = inviteId) :
      Ends inviteId (.mint clock draws fate kill request (.minted contract))
  | commit {crypto clock deviceId fate submission opts device} (named : namedInvite submission = some inviteId) :
      Ends inviteId (.commit crypto clock deviceId fate submission opts (.admitted device))

/-- The newest mint of an id answered with this contract, and nothing ended the invite since. -/
def NewestMint (es : List (Lts.Edge EnrolledDeviceRegistry RegistryStep)) (inviteId : JsString)
    (contract : EnrollmentInviteContract) : Prop :=
  ∃ pre m post, es = pre ++ m :: post ∧ MintsContract contract m ∧ contract.inviteId = inviteId ∧
    ∀ d ∈ post, ¬ Ends inviteId d.label

theorem NewestMint.snoc {es : List (Lts.Edge EnrolledDeviceRegistry RegistryStep)} {inviteId : JsString}
    {contract : EnrollmentInviteContract} (h : NewestMint es inviteId contract)
    {e : Lts.Edge EnrolledDeviceRegistry RegistryStep} (he : ¬ Ends inviteId e.label) :
    NewestMint (es ++ [e]) inviteId contract := by
  obtain ⟨pre, m, post, rfl, hmints, hid, hpost⟩ := h
  refine ⟨pre, m, post ++ [e], by simp, hmints, hid, ?_⟩
  intro d hd
  rcases List.mem_append.mp hd with hd | hd
  · exact hpost d hd
  · rw [List.mem_singleton.mp hd]
    exact he

/-- Where the invites of a book come from: each is the newest mint of its id, for the owner's handle. -/
def InvitesTraced (rp : EnrollmentRp) (es : List (Lts.Edge EnrolledDeviceRegistry RegistryStep))
    (registry : EnrolledDeviceRegistry) : Prop :=
  ∀ id record, registry.invites.invites.get? id = some record →
    ∃ userId, NewestMint es id (contractOf rp record userId) ∧
      ∀ state, registry.state = some state → ∃ owner, state.owners.get? record.ownerId = some owner ∧
        owner.userId = userId

/-- What was traced stays so over a step that does not end it. -/
theorem InvitesTraced.carry {es : List (Lts.Edge EnrolledDeviceRegistry RegistryStep)}
    {registry after : EnrolledDeviceRegistry} {minted : InviteRecord → Prop} (h : InvitesTraced rp es registry)
    (hkeeps : Keeps registry after minted) {step : RegistryStep} {id : JsString} {record : InviteRecord}
    (hold : registry.invites.invites.get? id = some record) (hstep : ¬ Ends id step) :
    ∃ userId, NewestMint (es ++ [⟨registry, step, after⟩]) id (contractOf rp record userId) ∧
      ∀ state, after.state = some state → ∃ owner, state.owners.get? record.ownerId = some owner ∧
        owner.userId = userId := by
  obtain ⟨userId, hnewest, hhandle⟩ := h id record hold
  refine ⟨userId, hnewest.snoc hstep, ?_⟩
  intro state' hstate'
  obtain ⟨state, hstate, hgrow, -⟩ := hkeeps.owners state' hstate'
  obtain ⟨owner, howner, huser⟩ := hhandle state hstate
  exact ⟨owner, hgrow _ owner howner, huser⟩

theorem InvitesTraced.of_keeps {es : List (Lts.Edge EnrolledDeviceRegistry RegistryStep)}
    {registry after : EnrolledDeviceRegistry} (h : InvitesTraced rp es registry)
    (hkeeps : Keeps registry after fun _ => False) {step : RegistryStep}
    (hstep : ∀ id record, after.invites.invites.get? id = some record → ¬ Ends id step) :
    InvitesTraced rp (es ++ [⟨registry, step, after⟩]) after := by
  intro id record hget
  rcases hkeeps.invites id record hget with hold | ⟨-, hfresh⟩
  · exact h.carry hkeeps hold (hstep id record hget)
  · exact hfresh.elim

/-- An admitted enrollment leaves the invite it named behind. -/
theorem commit_ends {registry after : EnrolledDeviceRegistry} {crypto : EnrollmentCrypto} {clock : CommitClock}
    {deviceId inviteId : JsString} {fate : PublishFate} {submission : Json} {opts : CommitEnrollmentOptions}
    {device : RegistryFile.PersistedEnrolledDevice}
    (h : registry.commitEnrollment store crypto clock deviceId fate submission opts = some (.admitted device, after))
    (hnamed : namedInvite submission = some inviteId) : after.invites.invites.get? inviteId = none := by
  cases commitEnrollment_cases h with
  | admitted hspend hadmission haccepted =>
      obtain rfl := Option.some.inj (hnamed.symm.trans hspend.named)
      exact get?_spentInvites_self ..

theorem invitesTraced_step {es : List (Lts.Edge EnrolledDeviceRegistry RegistryStep)}
    {registry after : EnrolledDeviceRegistry}
    {step : RegistryStep} (h : InvitesTraced rp es registry) (hstep : Steps store rp registry step after) :
    InvitesTraced rp (es ++ [⟨registry, step, after⟩]) after := by
  cases hstep with
  | boot hbooted =>
      obtain ⟨hinvites, -⟩ := initialize_serves hbooted
      intro id record hget
      rw [hinvites] at hget
      cases hget
  | mint hminted =>
      cases bootstrapMintInvite_cases hminted with
      | refused hkeeps =>
          apply h.of_keeps hkeeps
          intro id record hget hends
          cases hends
      | @minted request record state owner after hsized hkeeps hinvite hserves hheld =>
          intro id other hget
          by_cases hid : record.inviteId = id
          · obtain rfl : record = other := by
              rw [← hid, hinvite.listed] at hget
              exact Option.some.inj hget
            refine ⟨owner.userId, ⟨es, _, [], rfl, ⟨_, _, _, _, _, rfl⟩, hid, by simp⟩, ?_⟩
            intro served hserved
            obtain rfl := Option.some.inj (hserves.symm.trans hserved)
            exact ⟨owner, hheld, rfl⟩
          · rcases hkeeps.invites id other hget with hold | ⟨hsame, rfl⟩
            · apply h.carry hkeeps hold
              intro hends
              cases hends with
              | mint hsame => exact hid hsame
            · exact absurd hsame hid
  | commit hcommitted =>
      apply h.of_keeps (commitEnrollment_keeps hcommitted)
      intro id record hget hends
      cases hends with
      | commit hnamed =>
          rw [commit_ends hcommitted hnamed] at hget
          cases hget
  | revoke =>
      apply h.of_keeps (revoke_keeps _ _ _)
      intro id record hget hends
      cases hends
  | supersede =>
      apply h.of_keeps (invalidateSupersededEpoch_keeps _)
      intro id record hget hends
      cases hends
  | preflight =>
      apply h.of_keeps (getEnrollContract_keeps _ _)
      intro id record hget hends
      cases hends

theorem invitesTraced_run {es : List (Lts.Edge EnrolledDeviceRegistry RegistryStep)} {registry : EnrolledDeviceRegistry}
    (h : (registryRuns store rp).Exec es registry) : InvitesTraced rp es registry := by
  apply h.induct (I := InvitesTraced rp)
  · rintro registry ⟨disk, rfl⟩ id record hget
    cases hget
  · exact fun es registry step after _ htraced hstep => invitesTraced_step htraced hstep

/-- What a preflight finds is in the book, and has not expired. -/
theorem getEnrollContract_found {registry : EnrolledDeviceRegistry} {now : Int} {inviteId : JsString}
    {contract : EnrollmentInviteContract} (h : (registry.getEnrollContract rp now inviteId).1 = .found contract) :
    ∃ record state owner, registry.invites.invites.get? inviteId = some record ∧ now < record.expiresAt ∧
      registry.state = some state ∧ state.owners.get? record.ownerId = some owner ∧
      contract = contractOf rp record owner.userId := by
  unfold getEnrollContract at h
  obtain ⟨hleft, hlive⟩ := peek_spec registry.invites now inviteId
  have hsub := (losesExpired_peek registry.invites now inviteId).sub
  cases hstate : registry.state with
  | none =>
      rw [hstate] at h
      cases h
  | some state =>
      rw [hstate] at h
      dsimp only at h
      cases hpeek : (registry.invites.peek now inviteId).1 with
      | none =>
          rw [hpeek] at h
          cases h
      | some record =>
          rw [hpeek] at h hleft
          simp only [enrollmentContractFor, ownerUserId, Except.map] at h
          cases hheld : state.owners.get? record.ownerId with
          | none =>
              simp only [hheld, Option.map_none] at h
              cases h
          | some owner =>
              simp only [hheld, Option.map_some] at h
              exact ⟨record, state, owner, hsub _ _ hleft, hlive record hpeek, rfl, hheld,
                (ContractReply.found.inj h).symm⟩

theorem preflight_reply {registry after : EnrolledDeviceRegistry} {now : Int} {inviteId : JsString}
    {reply : ContractReply} (h : Steps store rp registry (.preflight now inviteId reply) after) :
    reply = (registry.getEnrollContract rp now inviteId).1 := by
  cases h with
  | preflight => rfl

/-- A preflight that finds an invite answers with the contract of the newest mint of its id, which has not expired,
    and which no boot and no enrollment ended since. -/
theorem preflight_repeats_mint (store : EnrolledDeviceFileStore) (rp : EnrollmentRp)
    (es : List (Lts.Edge EnrolledDeviceRegistry RegistryStep)) (registry after : EnrolledDeviceRegistry) (now : Int)
    (inviteId : JsString) (contract : EnrollmentInviteContract)
    (h : (registryRuns store rp).Exec (es ++ [⟨registry, .preflight now inviteId (.found contract), after⟩]) after) :
    NewestMint es inviteId contract ∧ now < contract.expiresAt := by
  obtain ⟨hexec, hnext, -⟩ := h.split
  have htraced : InvitesTraced rp es registry := invitesTraced_run hexec
  have hanswer := preflight_reply hnext
  obtain ⟨record, state, owner, hget, hlive, hstate, hheld, rfl⟩ := getEnrollContract_found hanswer.symm
  obtain ⟨userId, hnewest, hhandle⟩ := htraced inviteId record hget
  obtain ⟨owner', hheld', rfl⟩ := hhandle state hstate
  obtain rfl := Option.some.inj (hheld.symm.trans hheld')
  exact ⟨hnewest, hlive⟩

/-- A preflight right after the first mint. -/
theorem preflight_repeats_mint_first :
    ∃ es registry after contract,
      (registryRuns freshStore sampleRp).Exec
        (es ++ [⟨registry, .preflight 0 (js "inv_" ++ sampleDraws.inviteId.text) (.found contract), after⟩]) after ∧
      NewestMint es (js "inv_" ++ sampleDraws.inviteId.text) contract ∧ 0 < contract.expiresAt := by
  obtain ⟨⟨booted, registry⟩, hbooted, hfound⟩ := Option.bind_eq_some_iff.mp sampleMint_found
  obtain ⟨⟨minted, after⟩, hminted, hflags⟩ := Option.map_eq_some_iff.mp hfound
  have hexec := ((Lts.Exec.nil (M := registryRuns freshStore sampleRp) ⟨emptyDisk, rfl⟩).snoc (.boot hbooted)).snoc
    (.mint hminted)
  have hlast := hexec.snoc (@Steps.preflight freshStore sampleRp after 0 (js "inv_" ++ sampleDraws.inviteId.text))
  cases hreply : (after.getEnrollContract sampleRp 0 (js "inv_" ++ sampleDraws.inviteId.text)).1 with
  | refused status error =>
      rw [hreply] at hflags
      cases (Prod.mk.inj hflags).2
  | found contract =>
      rw [hreply] at hlast
      exact ⟨_, _, _, contract, hlast, preflight_repeats_mint freshStore sampleRp _ _ _ 0 _ contract hlast⟩

end OwnerSwitch
