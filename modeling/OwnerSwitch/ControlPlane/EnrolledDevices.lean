/-
Module: OwnerSwitch.ControlPlane.EnrolledDevices
Layer: ControlPlane
Purpose: The ceremony registry: the device table with its uniqueness, and the two operations that publish it,
  admission and revocation. What a publish came to is an argument.
Imports: Lib.Json
Trusted boundary: the enrollment proof chain and the id factory are arguments
Main exports: DeviceTable, Registry, RegistrySave, DeviceTable.revoke, DeviceTable.commitEnrollment, Evolves, Moves
Open obligations: none
-/
import OwnerSwitch.Lib.Json

namespace OwnerSwitch

/-- `deviceId.startsWith("dev_")`: the namespace reserved for the ceremony registry. -/
def isCeremonyId (deviceId : JsString) : Bool :=
  (js "dev_").isPrefixOf deviceId

/-! ### The ceremony registry -/

/-- One enrolled device, in the fields its admission and its standing use. -/
structure PersistedEnrolledDevice where
  credentialId : JsString
  cheapLaneKeySpki : JsString
  generation : Nat
  revokedAt : Option Decimal
  deriving DecidableEq, Repr

/-- A device table. Over the whole history, revoked records included, one credential and one cheap-lane key
    name one device. -/
structure DeviceTable where
  devices : JsMap JsString PersistedEnrolledDevice
  ceremonyIds : ∀ id r, devices.get? id = some r → isCeremonyId id = true
  uniqueCredential : ∀ id id' r r', devices.get? id = some r → devices.get? id' = some r' →
    r.credentialId = r'.credentialId → id = id'
  uniqueKey : ∀ id id' r r', devices.get? id = some r → devices.get? id' = some r' →
    r.cheapLaneKeySpki = r'.cheapLaneKeySpki → id = id'

namespace DeviceTable

/-- The first-boot table. -/
def empty : DeviceTable where
  devices := .empty
  ceremonyIds := by simp
  uniqueCredential := by simp
  uniqueKey := by simp

/-- A table whose records keep their credential and their key. -/
def mapStanding (t : DeviceTable) (f : JsString → PersistedEnrolledDevice → PersistedEnrolledDevice)
    (hcredential : ∀ id r, (f id r).credentialId = r.credentialId)
    (hkey : ∀ id r, (f id r).cheapLaneKeySpki = r.cheapLaneKeySpki) : DeviceTable where
  devices := t.devices.mapVal f
  ceremonyIds := by
    intro id r h
    rw [JsMap.get?_mapVal, Option.map_eq_some_iff] at h
    obtain ⟨r₀, h₀, -⟩ := h
    exact t.ceremonyIds id r₀ h₀
  uniqueCredential := by
    intro id id' r r' h h'
    rw [JsMap.get?_mapVal, Option.map_eq_some_iff] at h h'
    obtain ⟨r₀, h₀, rfl⟩ := h
    obtain ⟨r₁, h₁, rfl⟩ := h'
    rw [hcredential, hcredential]
    exact t.uniqueCredential id id' r₀ r₁ h₀ h₁
  uniqueKey := by
    intro id id' r r' h h'
    rw [JsMap.get?_mapVal, Option.map_eq_some_iff] at h h'
    obtain ⟨r₀, h₀, rfl⟩ := h
    obtain ⟨r₁, h₁, rfl⟩ := h'
    rw [hkey, hkey]
    exact t.uniqueKey id id' r₀ r₁ h₀ h₁

/-- The table with one record revoked. -/
def sever (t : DeviceTable) (deviceId : JsString) (revokedAt : Int) : DeviceTable :=
  t.mapStanding
    (fun id r =>
      if id = deviceId then { r with revokedAt := some (.ofInt revokedAt), generation := r.generation + 1 } else r)
    (by intro id r; split <;> rfl) (by intro id r; split <;> rfl)

/-- What the admission of a device needs of the table. -/
structure Admits (t : DeviceTable) (deviceId : JsString) (r : PersistedEnrolledDevice) : Prop where
  ceremonyId : isCeremonyId deviceId = true
  unused : t.devices.get? deviceId = none
  credential : ∀ id r', t.devices.get? id = some r' → r'.credentialId ≠ r.credentialId
  key : ∀ id r', t.devices.get? id = some r' → r'.cheapLaneKeySpki ≠ r.cheapLaneKeySpki

/-- The table with one device more. -/
def insert (t : DeviceTable) (deviceId : JsString) (r : PersistedEnrolledDevice) (h : t.Admits deviceId r) :
    DeviceTable where
  devices := t.devices.set deviceId r
  ceremonyIds := by
    intro id r' hget
    rw [JsMap.get?_set] at hget
    split at hget
    · rename_i heq
      exact heq ▸ h.ceremonyId
    · exact t.ceremonyIds id r' hget
  uniqueCredential := by
    intro id id' r₁ r₂ h₁ h₂ heq
    rw [JsMap.get?_set] at h₁ h₂
    split at h₁ <;> split at h₂
    · simp_all
    · cases h₁
      exact absurd heq.symm (h.credential id' r₂ h₂)
    · cases h₂
      exact absurd heq (h.credential id r₁ h₁)
    · exact t.uniqueCredential id id' r₁ r₂ h₁ h₂ heq
  uniqueKey := by
    intro id id' r₁ r₂ h₁ h₂ heq
    rw [JsMap.get?_set] at h₁ h₂
    split at h₁ <;> split at h₂
    · simp_all
    · cases h₁
      exact absurd heq.symm (h.key id' r₂ h₂)
    · cases h₂
      exact absurd heq (h.key id r₁ h₁)
    · exact t.uniqueKey id id' r₁ r₂ h₁ h₂ heq

/-- `activeDeviceCount` -/
def activeDeviceCount (t : DeviceTable) : Nat :=
  (t.devices.values.filter fun r => r.revokedAt.isNone).length

/-- A severed device keeps its record, with its end and a new generation. -/
theorem get?_sever (t : DeviceTable) (deviceId : JsString) (revokedAt : Int) (id : JsString) :
    (t.sever deviceId revokedAt).devices.get? id = (t.devices.get? id).map fun r =>
      if id = deviceId then { r with revokedAt := some (.ofInt revokedAt), generation := r.generation + 1 } else r :=
  JsMap.get?_mapVal ..

theorem get?_insert {t : DeviceTable} {deviceId : JsString} {r : PersistedEnrolledDevice}
    (h : t.Admits deviceId r) (id : JsString) :
    (t.insert deviceId r h).devices.get? id = if id = deviceId then some r else t.devices.get? id :=
  JsMap.get?_set ..

end DeviceTable

/-- The registry as the process holds it. A quarantined one serves nothing. -/
inductive Registry where
  | unconfigured
  | quarantined (detail : JsString)
  | usable (table : DeviceTable)

/-- The table that a usable registry serves. -/
def Registry.table : Registry → Option DeviceTable
  | .usable t => some t
  | _ => none

/-- The record the registry serves for an id. -/
def Registry.get? (registry : Registry) (deviceId : JsString) : Option PersistedEnrolledDevice :=
  registry.table.bind (·.devices.get? deviceId)

/-- One key is served for one id. -/
theorem Registry.unique_key {registry : Registry} {id id' : JsString} {r r' : PersistedEnrolledDevice}
    (h : registry.get? id = some r) (h' : registry.get? id' = some r')
    (hkey : r.cheapLaneKeySpki = r'.cheapLaneKeySpki) :
    id = id' := by
  cases registry with
  | unconfigured => cases h
  | quarantined => cases h
  | usable t => exact t.uniqueKey id id' r r' h h' hkey

/-- What became of a publish of the registry: it is durable, it was refused, or it is visible and whether it
    survives (`kept`) shows at the next load. -/
inductive RegistrySave where
  | durable
  | failed (detail : JsString)
  | unproven (detail : JsString) (kept : Bool)

/-- The registry file after a publish of `next` over `t`. -/
def RegistrySave.file (t next : DeviceTable) : RegistrySave → DeviceTable
  | .durable => next
  | .failed _ => t
  | .unproven _ kept => if kept then next else t

/-- What `revoke` answers. -/
inductive RegistryRevocation where
  | revoked (generation : Nat)
  | alreadyRevoked (generation : Nat)
  | unknown
  | publishFailed (detail : JsString)

/-- `EnrolledDeviceRegistry.revoke` over a usable table: the answer, the registry and its file. Memory changes only
    when the publish is durable; any other outcome quarantines. -/
def DeviceTable.revoke (t : DeviceTable) (deviceId : JsString) (revokedAt : Int) (save : RegistrySave) :
    RegistryRevocation × Registry × DeviceTable :=
  match t.devices.get? deviceId with
  | none => (.unknown, .usable t, t)
  | some device =>
      match device.revokedAt with
      | some _ => (.alreadyRevoked device.generation, .usable t, t)
      | none =>
          let next := t.sever deviceId revokedAt
          match save with
          | .durable => (.revoked (device.generation + 1), .usable next, save.file t next)
          | .failed detail =>
              let detail := js "revocation publish FAILED (" ++ detail ++ js ")"
              (.publishFailed detail, .quarantined detail, save.file t next)
          | .unproven detail _ =>
              let detail := js "revocation publish durability UNPROVEN: " ++ detail
              (.publishFailed detail, .quarantined detail, save.file t next)

/-- `MAX_ACTIVE_DEVICES` -/
def maxActiveDevices : Nat := 64

/-- What the enrollment proof chain hands on: the verified credential and the canonical cheap-lane key. -/
structure CeremonyProof where
  credentialId : JsString
  cheapLaneKeySpki : JsString

/-- What the enrollment proof chain made of a submission. -/
inductive PerformEnrollmentOutcome where
  | verified (proof : CeremonyProof)
  | refused (reason : JsString) (inviteSurvives : Bool)

/-- What `commitEnrollment` answers. -/
inductive CommitEnrollmentOutcome where
  | admitted (device : PersistedEnrolledDevice)
  | refused (reason : JsString) (inviteSurvives : Bool)

namespace DeviceTable

/-- The record of a device at its admission. -/
def newDevice (proof : CeremonyProof) : PersistedEnrolledDevice where
  credentialId := proof.credentialId
  cheapLaneKeySpki := proof.cheapLaneKeySpki
  generation := 1
  revokedAt := none

instance (t : DeviceTable) (deviceId : JsString) (r : PersistedEnrolledDevice) : Decidable (t.Admits deviceId r) :=
  decidable_of_iff
    (isCeremonyId deviceId = true ∧ t.devices.get? deviceId = none ∧
      (∀ e ∈ t.devices.entries, e.2.credentialId ≠ r.credentialId) ∧
      ∀ e ∈ t.devices.entries, e.2.cheapLaneKeySpki ≠ r.cheapLaneKeySpki)
    ⟨fun ⟨hid, hunused, hcredential, hkey⟩ =>
      ⟨hid, hunused, fun id r' h => hcredential (id, r') (JsMap.get?_eq_some_iff.mp h),
        fun id r' h => hkey (id, r') (JsMap.get?_eq_some_iff.mp h)⟩,
    fun h => ⟨h.ceremonyId, h.unused, fun e he => h.credential e.1 e.2 (JsMap.get?_eq_some_iff.mpr he),
      fun e he => h.key e.1 e.2 (JsMap.get?_eq_some_iff.mpr he)⟩⟩

/-- The publish of an admission. -/
def publishAdmission (t next : DeviceTable) (device : PersistedEnrolledDevice) :
    RegistrySave → CommitEnrollmentOutcome × Registry × DeviceTable
  | .durable => (.admitted device, .usable next, next)
  | .failed detail =>
      (.refused (js "enrollment not admitted: durable registry publish FAILED (" ++ detail
        ++ js ") — the invite is spent, mint a new one") false, .usable t, t)
  | .unproven detail kept =>
      (.refused (js "enrollment not admitted: durable registry publish UNPROVEN (" ++ detail
          ++ js ") — registry quarantined until recovery, the invite is spent") false,
        .quarantined (js "enrollment publish durability UNPROVEN: " ++ detail), if kept then next else t)

/-- `EnrolledDeviceRegistry.commitEnrollment` over a usable table: the answer, the registry and its file.
    `deviceId` is what the id factory ended with. -/
def commitEnrollment (t : DeviceTable) (submission : PerformEnrollmentOutcome) (deviceId : JsString)
    (save : RegistrySave) : CommitEnrollmentOutcome × Registry × DeviceTable :=
  if maxActiveDevices ≤ t.activeDeviceCount then
    (.refused (js "device ceiling reached (64) — revoke before enrolling more") true, .usable t, t)
  else
    match submission with
    | .refused reason inviteSurvives => (.refused reason inviteSurvives, .usable t, t)
    | .verified proof =>
        if t.devices.values.any (·.credentialId = proof.credentialId) then
          (.refused (js "this WebAuthn credential was already enrolled here — re-enrolment requires fresh keys")
            false, .usable t, t)
        else if t.devices.values.any (·.cheapLaneKeySpki = proof.cheapLaneKeySpki) then
          (.refused (js "this cheap-lane key was already enrolled here — re-enrolment requires fresh keys")
            false, .usable t, t)
        else if h : t.Admits deviceId (newDevice proof) then
          publishAdmission t (t.insert deviceId (newDevice proof) h) (newDevice proof) save
        else
          -- the factory draws until the id is free, so no call ends here
          (.refused [] false, .usable t, t)

end DeviceTable

/-! ### How a registry moves on -/

/-- How a device table moves on: records keep their keys, a revoked record stays as it is, and only `fresh` ones
    are new. -/
structure DeviceTable.Evolves (t t' : DeviceTable) (fresh : JsString → PersistedEnrolledDevice → Prop) : Prop where
  back : ∀ id r', t'.devices.get? id = some r' →
    (∃ r, t.devices.get? id = some r ∧ r'.cheapLaneKeySpki = r.cheapLaneKeySpki ∧ (r.revokedAt.isSome = true → r' = r))
      ∨ fresh id r'
  forth : ∀ id r, t.devices.get? id = some r →
    ∃ r', t'.devices.get? id = some r' ∧ r'.cheapLaneKeySpki = r.cheapLaneKeySpki

namespace DeviceTable

variable {fresh : JsString → PersistedEnrolledDevice → Prop}

theorem Evolves.refl (t : DeviceTable) : t.Evolves t fresh where
  back := fun _ r' h => .inl ⟨r', h, rfl, fun _ => rfl⟩
  forth := fun _ r h => ⟨r, h, rfl⟩

/-- A revocation is an evolution of the table. -/
theorem evolves_sever (t : DeviceTable) {deviceId : JsString} (now : Int)
    (hactive : ∀ r, t.devices.get? deviceId = some r → r.revokedAt = none) :
    t.Evolves (t.sever deviceId now) fresh where
  back := by
    intro id r' h
    rw [get?_sever, Option.map_eq_some_iff] at h
    obtain ⟨r, hr, rfl⟩ := h
    refine .inl ⟨r, hr, by split <;> rfl, fun hrevoked => ?_⟩
    split
    · rename_i heq
      subst heq
      rw [hactive r hr] at hrevoked
      cases hrevoked
    · rfl
  forth := by
    intro id r h
    refine ⟨_, by rw [get?_sever, h]; rfl, ?_⟩
    dsimp only
    split <;> rfl

/-- An enrollment is an evolution of the table. -/
theorem evolves_insert {t : DeviceTable} {deviceId : JsString} {r : PersistedEnrolledDevice} (h : t.Admits deviceId r) :
    t.Evolves (t.insert deviceId r h) (fun id r' => id = deviceId ∧ r' = r) where
  back := by
    intro id r' hget
    rw [get?_insert] at hget
    split at hget
    · rename_i heq
      exact .inr ⟨heq, (Option.some.inj hget).symm⟩
    · exact .inl ⟨r', hget, rfl, fun _ => rfl⟩
  forth := by
    intro id r' hget
    refine ⟨r', ?_, rfl⟩
    rw [get?_insert, if_neg, hget]
    rintro rfl
    rw [h.unused] at hget
    cases hget

/-- What a publish of the registry leaves: the file evolved, and the process serves it or serves nothing. -/
structure Moves (t : DeviceTable) (fresh : JsString → PersistedEnrolledDevice → Prop) (registry : Registry)
    (file : DeviceTable) : Prop where
  evolves : t.Evolves file fresh
  serves : registry = .usable file ∨ ∃ detail, registry = .quarantined detail

theorem Moves.refl (t : DeviceTable) : t.Moves fresh (.usable t) t :=
  ⟨.refl t, .inl rfl⟩

/-- How a revocation can go. -/
inductive RevokeCase (t : DeviceTable) (deviceId : JsString) (revokedAt : Int) (save : RegistrySave) :
    RegistryRevocation × Registry × DeviceTable → Prop where
  | unknown (unlisted : t.devices.get? deviceId = none) : RevokeCase t deviceId revokedAt save (.unknown, .usable t, t)
  | already {device} (listed : t.devices.get? deviceId = some device) (revoked : device.revokedAt.isSome = true) :
      RevokeCase t deviceId revokedAt save (.alreadyRevoked device.generation, .usable t, t)
  | revoked {device} (listed : t.devices.get? deviceId = some device) (active : device.revokedAt = none)
      (durable : save = .durable) :
      RevokeCase t deviceId revokedAt save
        (.revoked (device.generation + 1), .usable (t.sever deviceId revokedAt), t.sever deviceId revokedAt)
  | publishFailed {device detail} (listed : t.devices.get? deviceId = some device) (active : device.revokedAt = none)
      (undurable : save ≠ .durable) :
      RevokeCase t deviceId revokedAt save
        (.publishFailed detail, .quarantined detail, save.file t (t.sever deviceId revokedAt))

theorem revoke_cases (t : DeviceTable) (deviceId : JsString) (revokedAt : Int) (save : RegistrySave) :
    RevokeCase t deviceId revokedAt save (t.revoke deviceId revokedAt save) := by
  unfold revoke
  split
  · rename_i hunlisted
    exact .unknown hunlisted
  · rename_i device hlisted
    split
    · rename_i hrevoked
      exact .already hlisted (by rw [hrevoked]; rfl)
    · rename_i hactive
      cases save with
      | durable => exact .revoked hlisted hactive rfl
      | failed detail => exact .publishFailed hlisted hactive (by simp)
      | unproven detail kept => exact .publishFailed hlisted hactive (by simp)

/-- A revocation evolves the table on disk and in memory alike, or leaves it. -/
theorem revoke_moves (t : DeviceTable) (deviceId : JsString) (now : Int) (save : RegistrySave) :
    t.Moves fresh (t.revoke deviceId now save).2.1 (t.revoke deviceId now save).2.2 := by
  have hsever : ∀ device, t.devices.get? deviceId = some device → device.revokedAt = none →
      t.Evolves (t.sever deviceId now) fresh := by
    intro device hlisted hactive
    apply t.evolves_sever now
    intro r hr
    rw [hlisted] at hr
    exact Option.some.inj hr ▸ hactive
  have hcase := t.revoke_cases deviceId now save
  generalize t.revoke deviceId now save = result at hcase
  cases hcase with
  | unknown => exact .refl t
  | already => exact .refl t
  | revoked hlisted hactive => exact ⟨hsever _ hlisted hactive, .inl rfl⟩
  | publishFailed hlisted hactive hundurable =>
      refine ⟨?_, .inr ⟨_, rfl⟩⟩
      cases save with
      | durable => exact absurd rfl hundurable
      | failed detail => exact .refl t
      | unproven detail kept =>
          cases kept with
          | true => exact hsever _ hlisted hactive
          | false => exact .refl t

/-- How a commit can go. -/
inductive CommitCase (t : DeviceTable) (submission : PerformEnrollmentOutcome) (deviceId : JsString) :
    CommitEnrollmentOutcome × Registry × DeviceTable → Prop where
  | refused {reason survives} : CommitCase t submission deviceId (.refused reason survives, .usable t, t)
  | unproven {reason survives detail proof} {kept : Bool} (verified : submission = .verified proof)
      (admits : t.Admits deviceId (newDevice proof)) :
      CommitCase t submission deviceId
        (.refused reason survives, .quarantined detail, if kept then t.insert deviceId (newDevice proof) admits else t)
  | admitted {proof} (verified : submission = .verified proof) (admits : t.Admits deviceId (newDevice proof)) :
      CommitCase t submission deviceId (.admitted (newDevice proof),
        .usable (t.insert deviceId (newDevice proof) admits), t.insert deviceId (newDevice proof) admits)

theorem commitEnrollment_cases (t : DeviceTable) (submission : PerformEnrollmentOutcome) (deviceId : JsString)
    (save : RegistrySave) : CommitCase t submission deviceId (t.commitEnrollment submission deviceId save) := by
  unfold commitEnrollment
  split
  · exact .refused
  · cases submission with
    | refused reason survives => exact .refused
    | verified proof =>
        dsimp only
        split
        · exact .refused
        · split
          · exact .refused
          · split
            · rename_i hadmits
              cases save with
              | durable => exact .admitted rfl hadmits
              | failed detail => exact .refused
              | unproven detail kept => exact .unproven rfl hadmits
            · exact .refused

/-- The record an enrollment may add. -/
def Drawn (submission : PerformEnrollmentOutcome) (deviceId : JsString) (id : JsString) (r : PersistedEnrolledDevice) :
    Prop :=
  id = deviceId ∧ ∃ proof, submission = .verified proof ∧ r = newDevice proof

theorem evolves_admitted {t : DeviceTable} {submission : PerformEnrollmentOutcome} {deviceId : JsString}
    {proof : CeremonyProof} (hverified : submission = .verified proof) (hadmits : t.Admits deviceId (newDevice proof)) :
    t.Evolves (t.insert deviceId (newDevice proof) hadmits) (Drawn submission deviceId) where
  back := by
    intro id r hr
    rcases (evolves_insert hadmits).back id r hr with hold | ⟨hid, hnew⟩
    · exact .inl hold
    · exact .inr ⟨hid, proof, hverified, hnew⟩
  forth := (evolves_insert hadmits).forth

/-- An enrollment evolves the table on disk and in memory alike, or leaves it. -/
theorem commitEnrollment_moves (t : DeviceTable) (submission : PerformEnrollmentOutcome) (deviceId : JsString)
    (save : RegistrySave) :
    t.Moves (Drawn submission deviceId) (t.commitEnrollment submission deviceId save).2.1
      (t.commitEnrollment submission deviceId save).2.2 := by
  have hcase := t.commitEnrollment_cases submission deviceId save
  generalize t.commitEnrollment submission deviceId save = result at hcase
  cases hcase with
  | refused => exact .refl t
  | unproven hverified hadmits =>
      refine ⟨?_, .inr ⟨_, rfl⟩⟩
      dsimp only
      split
      · exact evolves_admitted hverified hadmits
      · exact .refl t
  | admitted hverified hadmits => exact ⟨evolves_admitted hverified hadmits, .inl rfl⟩

end DeviceTable

/-- The registry and its file before and after a handler. -/
inductive RegistryMoves (fresh : JsString → PersistedEnrolledDevice → Prop) (registry : Registry) (file : DeviceTable) :
    Registry → DeviceTable → Prop where
  | kept : RegistryMoves fresh registry file registry file
  | moved {t registry' file'} (usable : registry = .usable t) (moves : t.Moves fresh registry' file') :
      RegistryMoves fresh registry file registry' file'

end OwnerSwitch
