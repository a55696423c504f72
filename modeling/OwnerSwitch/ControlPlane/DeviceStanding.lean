/-
Module: OwnerSwitch.ControlPlane.DeviceStanding
Layer: ControlPlane
Purpose: The two owner-device populations of the control plane (the static keys file and the ceremony
  registry), the standing file composed from them, and the handlers that change standing: boot, revoke,
  enroll. What a save made of the two files is an argument.
Imports: ControlPlane.EnrolledDevices
Trusted boundary: the strict SPKI parser and the enrollment proof chain are parameters; a file published
  without proven durability stays as it was published
Main exports: DeviceStanding, Devices, composeStanding, persistStanding, boot, postDeviceRevoke,
  postDeviceEnroll, witnessStanding, deviceInGoodStanding
Open obligations: none
-/
import OwnerSwitch.ControlPlane.EnrolledDevices

namespace OwnerSwitch

/-- Standing of one device. Only an entry of a ceremony-enrolled device carries an SPKI. -/
structure DeviceStanding where
  generation : Nat
  revokedAt : Option Decimal
  spki : Option JsString
  deriving DecidableEq, Repr

/-- The `devices` of a standing file. -/
abbrev StandingMap := JsMap JsString DeviceStanding

/-- An owner device as the process holds it; the key is the canonical SPKI. -/
structure EnrolledOwnerDevice where
  publicKey : JsString
  generation : Nat
  revokedAt : Option Decimal
  deriving DecidableEq, Repr

/-- Marks a device revoked and bumps its generation. -/
def EnrolledOwnerDevice.sever (now : Int) (device : EnrolledOwnerDevice) : EnrolledOwnerDevice :=
  { device with revokedAt := some (.ofInt now), generation := device.generation + 1 }

/-! ### The standing of the process -/

/-- What the control plane holds about owner devices while it runs. `unenrolledStanding` is the part of the
    standing file, as loaded at boot, that names no static device. -/
structure Devices where
  ownerDevices : JsMap JsString EnrolledOwnerDevice
  enrolledDevices : Registry
  standingStore : Bool
  standingQuarantined : Bool
  unenrolledStanding : StandingMap

/-- What became of a save of the standing file. -/
inductive StandingSave where
  | durable
  | unproven (detail : JsString)
  | failed (detail : JsString)

/-- The standing as `persistStanding` reports it. -/
structure Persisted where
  durable : Bool
  detail : Option JsString

/-- `persisted.detail ?? "unknown"` -/
def Persisted.why (p : Persisted) : JsString :=
  p.detail.getD (js "unknown")

namespace Devices

variable (d : Devices)

/-- The retained history: a ceremony entry is exported revoked, whatever it was. -/
def historyStanding : StandingMap :=
  d.unenrolledStanding.mapVal fun deviceId standing =>
    if standing.spki.isSome || isCeremonyId deviceId then
      { standing with revokedAt := some (standing.revokedAt.getD (.ofInt 0)) }
    else standing

def staticStanding : StandingMap :=
  d.ownerDevices.mapVal fun _ device => { generation := device.generation, revokedAt := device.revokedAt, spki := none }

/-- The projection of the registry, if it can vouch. -/
def registryStanding : StandingMap :=
  match d.enrolledDevices.table with
  | none => .empty
  | some t =>
      t.devices.mapVal fun _ record =>
        { generation := record.generation, revokedAt := record.revokedAt, spki := some record.cheapLaneKeySpki }

/-- The `devices` that `persistStanding` saves: history first, then the static devices, then the registry. -/
def composeStanding : StandingMap :=
  (d.historyStanding.assign d.staticStanding).assign d.registryStanding

/-- What is reported of the save, and the file it published, if any. -/
def persistStanding (save : StandingSave) : Persisted × Option StandingMap :=
  if d.standingStore then
    match save with
    | .durable => (⟨true, none⟩, some d.composeStanding)
    | .unproven detail => (⟨false, some detail⟩, some d.composeStanding)
    | .failed detail => (⟨false, some detail⟩, none)
  else (⟨false, some (js "no standing registry configured (dev)")⟩, none)

end Devices

section Keys

-- the strict parser: the canonical SPKI of a key text, if it accepts the text
variable (parseSpki : JsString → Option JsString)

namespace Devices

variable (d : Devices)

/-- `resolveOwnerDevice` -/
def resolveOwnerDevice (deviceId : JsString) : Option EnrolledOwnerDevice :=
  match d.ownerDevices.get? deviceId with
  | some device => some device
  | none => do
      let record ← d.enrolledDevices.get? deviceId
      let publicKey ← parseSpki record.cheapLaneKeySpki
      some { publicKey, generation := record.generation, revokedAt := record.revokedAt }

/-- The release-time witness check. -/
def witnessStanding (killed : Bool) (deviceId : Option JsString) (generation : Option Nat) : Bool :=
  if killed then false
  else if d.standingQuarantined then false
  else
    match deviceId, generation with
    | some deviceId, some generation =>
        (d.resolveOwnerDevice parseSpki deviceId).any fun device =>
          device.revokedAt.isNone && device.generation = generation
    | _, _ => false

/-! ### Boot -/

/-- The keys of `enrolledByCanonSpki`: every key the history or the registry can name. -/
def migratedKeys : List JsString :=
  d.unenrolledStanding.values.filterMap (fun standing => standing.spki.bind parseSpki)
    ++ (match d.enrolledDevices.table with
      | none => []
      | some t => t.devices.values.filterMap fun record => parseSpki record.cheapLaneKeySpki)

/-- A static device whose key migrated to the registry is revoked. -/
def reconcileStaticAliases (now : Int) : Devices :=
  { d with ownerDevices := d.ownerDevices.mapVal fun _ device =>
      if device.revokedAt.isNone && (d.migratedKeys parseSpki).contains device.publicKey then device.sever now
      else device }

/-- A standing file that cannot be trusted revokes every static device. -/
def distrustStanding : Devices :=
  { d with ownerDevices := d.ownerDevices.mapVal fun _ device => device.sever 0 }

/-- The standing of a loaded file: that of the static devices is taken over, the rest is kept as history. -/
def adoptStanding (file : StandingMap) : Devices :=
  { d with
    ownerDevices := d.ownerDevices.mapVal fun deviceId device =>
      match file.get? deviceId with
      | some standing => { device with generation := standing.generation, revokedAt := standing.revokedAt }
      | none => device
    unenrolledStanding := file.filter fun deviceId _ => !d.ownerDevices.has deviceId }

end Devices

/-- What `initialize` makes of the registry at a boot. `absent` is a registry that was reset: it starts with no
    device. -/
inductive RegistryBoot where
  | unconfigured
  | corrupt (detail : JsString)
  | absent
  | loaded

/-- `enrolledDevices !== undefined` -/
def RegistryBoot.isConfigured : RegistryBoot → Bool
  | .unconfigured => false
  | _ => true

/-- The registry and its file after `initialize`. -/
def RegistryBoot.initializeFrom (file : DeviceTable) : RegistryBoot → Registry × DeviceTable
  | .unconfigured => (.unconfigured, file)
  | .corrupt detail => (.quarantined detail, file)
  | .absent => (.usable .empty, .empty)
  | .loaded => (.usable file, file)

/-- How a boot reads the standing file. Reading can fail on a file that is sound. -/
inductive StandingRead where
  | sound
  | corrupt

/-- The configuration and the environment of one boot. -/
structure BootOptions where
  ownerDeviceKeys : JsMap JsString JsString
  standingStore : Bool
  registry : RegistryBoot
  read : StandingRead
  save : StandingSave
  now : Int

/-- The static devices of a keys file: no id of the ceremony namespace, every key accepted by the parser. -/
def staticDevices (ownerDeviceKeys : JsMap JsString JsString) : Option (JsMap JsString EnrolledOwnerDevice) :=
  if ownerDeviceKeys.entries.all fun (deviceId, spki) => !isCeremonyId deviceId && (parseSpki spki).isSome then
    some (ownerDeviceKeys.mapVal fun _ spki =>
      { publicKey := (parseSpki spki).getD [], generation := 1, revokedAt := none })
  else none

/-- A standing file as it was published, with the standing it was composed from. -/
structure Publication where
  standing : StandingMap
  devices : Devices

/-- What a boot leaves: the process, unless it refused to start, the registry file, and the standing file it
    published, if any. -/
structure BootResult where
  devices : Option Devices
  registryFile : DeviceTable
  published : Option Publication

/-- The standing part of a boot over the files found on disk. -/
def boot (opts : BootOptions) (registryFile : DeviceTable) (standingFile : Option StandingMap) : BootResult :=
  match staticDevices parseSpki opts.ownerDeviceKeys with
  | none => ⟨none, registryFile, none⟩
  | some ownerDevices =>
      let (registry, registryFile) := opts.registry.initializeFrom registryFile
      let d : Devices :=
        { ownerDevices, enrolledDevices := registry, standingStore := opts.standingStore,
          standingQuarantined := false, unenrolledStanding := .empty }
      if !opts.standingStore then ⟨some (d.reconcileStaticAliases parseSpki opts.now), registryFile, none⟩
      else if ownerDevices.size = 0 && !opts.registry.isConfigured then ⟨some d, registryFile, none⟩
      else
        match opts.read with
        | .corrupt => ⟨some d.distrustStanding, registryFile, none⟩
        | .sound =>
            let adopted := match standingFile with
              | none => d
              | some file => d.adoptStanding file
            let reconciled := adopted.reconcileStaticAliases parseSpki opts.now
            let (persisted, published) := reconciled.persistStanding opts.save
            ⟨if persisted.durable then some reconciled else none, registryFile, published.map (⟨·, reconciled⟩)⟩

end Keys

/-! ### Revocation -/

/-- The body of an answer of `POST /devices/:id/revoke` and its status, apart from the count of cleared evidence. -/
structure RevokeReply where
  status : Nat
  deviceId : JsString
  generation : Option Nat
  alreadyRevoked : Bool
  durable : Option Bool
  standingExported : Bool
  quarantined : Bool
  killed : Bool
  error : Option JsString
  deriving DecidableEq

/-- What a handler that changes standing leaves. `sweeps` lists the devices whose evidence is swept, with the
    standing in force during the sweep; `engages` is the reason of the kill it engages. -/
structure Handled (ρ : Type) where
  devices : Devices
  registryFile : DeviceTable
  published : Option StandingMap
  sweeps : List (JsString × Devices)
  engages : Option JsString
  reply : ρ

namespace RevokeReply

/-- A revocation in force, reported with status 200. -/
def done (deviceId : JsString) (generation : Nat) (alreadyRevoked : Bool) (durable : Option Bool) : RevokeReply where
  status := 200
  deviceId := deviceId
  generation := some generation
  alreadyRevoked := alreadyRevoked
  durable := durable
  standingExported := true
  quarantined := false
  killed := false
  error := none

/-- No such device: 404. -/
def unknown (deviceId error : JsString) : RevokeReply where
  status := 404
  deviceId := deviceId
  generation := none
  alreadyRevoked := false
  durable := none
  standingExported := true
  quarantined := false
  killed := false
  error := some error

/-- A revocation that could not be recorded everywhere: 503. -/
def degraded (deviceId : JsString) (generation : Option Nat) (alreadyRevoked durable standingExported killed : Bool)
    (error : JsString) : RevokeReply where
  status := 503
  deviceId := deviceId
  generation := generation
  alreadyRevoked := alreadyRevoked
  durable := some durable
  standingExported := standingExported
  quarantined := true
  killed := killed
  error := some error

end RevokeReply

namespace Devices

variable (d : Devices)

/-- `postDeviceRevoke` for a static device that is revoked already: a retry recovers from a quarantine. -/
def retryRevoke (registryFile : DeviceTable) (id : JsString) (device : EnrolledOwnerDevice) (save : StandingSave) :
    Handled RevokeReply :=
  if d.standingQuarantined && d.standingStore then
    let (retried, published) := d.persistStanding save
    if retried.durable then
      { devices := { d with standingQuarantined := false }, registryFile, published, sweeps := [], engages := none
        reply := .done id device.generation true none }
    else
      { devices := d, registryFile, published, sweeps := [], engages := none
        reply := .degraded id (some device.generation) true false true false
          (js "revoked IN MEMORY ONLY — standing persistence still failing (" ++ retried.why
            ++ js "); the owner-device lane stays closed") }
  else
    { devices := d, registryFile, published := none, sweeps := [], engages := none
      reply := .done id device.generation true none }

/-- One static device marked revoked. -/
def severStatic (staticId : JsString) (device : EnrolledOwnerDevice) (now : Int) : Devices :=
  { d with ownerDevices := d.ownerDevices.set staticId (device.sever now) }

/-- `postDeviceRevoke` for a static device in good standing. -/
def revokeStatic (registryFile : DeviceTable) (id : JsString) (device : EnrolledOwnerDevice) (save : StandingSave)
    (now : Int) : Handled RevokeReply :=
  let severed := d.severStatic id device now
  let (persisted, published) := severed.persistStanding save
  if severed.standingStore && !persisted.durable then
    { devices := { severed with standingQuarantined := true }, registryFile, published, sweeps := [(id, severed)]
      engages := some (js "device-standing persistence FAILED while revoking \"" ++ id ++ js "\" (" ++ persisted.why
        ++ js ") — fail-closed kill so a restart cannot resurrect the device from the stale registry. Repair the standing path, re-run the revoke, then restore via 2GO.")
      reply := .degraded id (some (device.generation + 1)) false false true true
        (js "revoked IN MEMORY ONLY — standing persistence failed (" ++ persisted.why
          ++ js "); the owner-device lane is quarantined and the KILL SWITCH is engaged (durably), so a restart boots killed instead of resurrecting the device. Repair the registry, retry this revoke, then restore via 2GO.") }
  else
    { devices := { severed with standingQuarantined := false }, registryFile, published, sweeps := [(id, severed)]
      engages := none
      reply := .done id (device.generation + 1) false (some persisted.durable) }

/-- The export after a revocation that the registry holds durably. -/
def exportRevocation (registryFile : DeviceTable) (id : JsString) (generation : Nat) (alreadyRevoked : Bool)
    (save : StandingSave) : Handled RevokeReply :=
  let (exported, published) := d.persistStanding save
  if d.standingStore && !exported.durable then
    { devices := { d with standingQuarantined := true }, registryFile, published, sweeps := [(id, d)]
      engages := some (js "device-standing export FAILED after revoking enrolled device \"" ++ id ++ js "\" ("
        ++ exported.why
        ++ js ") — the stale standing file would keep the revoked phone's push-enrollment lane alive in the escalation service; fail-closed kill. Repair the standing path, re-run the revoke, then restore via 2GO.")
      reply := .degraded id (some generation) alreadyRevoked true false true
        (js "revoked durably in the registry, but the shared standing file could not be re-exported (" ++ exported.why
          ++ js ") — the escalation service would still trust the stale entry, so the standing lane is quarantined and the KILL SWITCH is engaged (durably). Repair the standing path, retry this revoke, then restore via 2GO.") }
  else
    { devices := { d with standingQuarantined := false }, registryFile, published, sweeps := [(id, d)]
      engages := none
      reply := .done id generation alreadyRevoked (some true) }

/-- `revokeEnrolledDevice` -/
def revokeEnrolledDevice (registryFile : DeviceTable) (id : JsString) (registrySave : RegistrySave)
    (save : StandingSave) (now : Int) : Handled RevokeReply :=
  let refuse (error : JsString) : Handled RevokeReply :=
    { devices := d, registryFile, published := none, sweeps := [], engages := none, reply := .unknown id error }
  match d.enrolledDevices with
  | .unconfigured => refuse (js "no enrolled owner device \"" ++ id ++ js "\"")
  | .quarantined detail =>
      refuse (js "cannot revoke \"" ++ id ++ js "\": the enrolled-device registry is quarantined (" ++ detail
        ++ js ") — every dev_ identity is already refused while quarantined; repair the registry, then retry")
  | .usable t =>
      let (outcome, enrolledDevices, registryFile') := t.revoke id now registrySave
      let d' := { d with enrolledDevices }
      match outcome with
      | .unknown => refuse (js "no enrolled owner device \"" ++ id ++ js "\"")
      | .publishFailed detail =>
          -- the standing file is left as it is
          { devices := d', registryFile := registryFile', published := none, sweeps := []
            engages := some (js "enrolled-device registry publish FAILED while revoking \"" ++ id ++ js "\" (" ++ detail
              ++ js ") — fail-closed kill so a restart cannot resurrect the device from the stale registry. Repair the registry path, re-run the revoke, then restore via 2GO.")
            reply := .degraded id none false false true true
              (js "revocation NOT durably recorded (" ++ detail
                ++ js "); the enrolled-device registry is quarantined (no dev_ identity authenticates in this process) and the KILL SWITCH is engaged (durably), so a restart boots killed instead of resurrecting the device. Repair the registry, retry this revoke, then restore via 2GO.") }
      | .revoked generation => d'.exportRevocation registryFile' id generation false save
      | .alreadyRevoked generation => d'.exportRevocation registryFile' id generation true save

/-- `postDeviceRevoke`, past its authentication. -/
def postDeviceRevoke (registryFile : DeviceTable) (id : JsString) (registrySave : RegistrySave) (save : StandingSave)
    (now : Int) : Handled RevokeReply :=
  match d.ownerDevices.get? id with
  | none => d.revokeEnrolledDevice registryFile id registrySave save now
  | some device =>
      if device.revokedAt.isSome then d.retryRevoke registryFile id device save
      else d.revokeStatic registryFile id device save now

/-! ### Enrollment -/

/-- The answer of `POST /devices/enroll`. -/
inductive EnrollReply where
  | created (deviceId : JsString)
  | refused (status : Nat) (error : JsString) (inviteSurvives : Option Bool)

/-- The loop over the static devices: those that hold `key` in good standing are severed one after another. -/
def severAliases (key : JsString) (now : Int) :
    List (JsString × EnrolledOwnerDevice) → Devices → Devices × List (JsString × Devices)
  | [], d => (d, [])
  | (staticId, device) :: rest, d =>
      if device.revokedAt.isSome || device.publicKey ≠ key then severAliases key now rest d
      else
        let d' := d.severStatic staticId device now
        let (last, sweeps) := severAliases key now rest d'
        (last, (staticId, d') :: sweeps)

/-- The synchronous section of `postDeviceEnroll` after an admission. -/
def supersedeAliases (parseSpki : JsString → Option JsString) (registryFile : DeviceTable) (deviceId : JsString)
    (device : PersistedEnrolledDevice) (save : StandingSave) (now : Int) : Handled EnrollReply :=
  let (severed, sweeps) := match parseSpki device.cheapLaneKeySpki with
    | none => (d, [])
    | some canonNew => severAliases canonNew now d.ownerDevices.entries d
  let (exported, published) := severed.persistStanding save
  match sweeps.getLast? with
  | some (severedAlias, _) =>
      if severed.standingStore && !exported.durable then
        { devices := { severed with standingQuarantined := true }, registryFile, published, sweeps
          engages := some (js "device-standing persistence FAILED while superseding static device \"" ++ severedAlias
            ++ js "\" (now enrolled as \"" ++ deviceId ++ js "\"): " ++ exported.why
            ++ js " — fail-closed kill so a restart cannot leave one key trusted under two identities. Repair the standing path, then restore via 2GO.")
          reply := .created deviceId }
      else { devices := severed, registryFile, published, sweeps, engages := none, reply := .created deviceId }
  | none => { devices := severed, registryFile, published, sweeps, engages := none, reply := .created deviceId }

/-- `postDeviceEnroll`, with what the proof chain made of the body and the id the factory ended with. -/
def postDeviceEnroll (parseSpki : JsString → Option JsString) (registryFile : DeviceTable)
    (submission : PerformEnrollmentOutcome) (deviceId : JsString) (registrySave : RegistrySave) (save : StandingSave)
    (now : Int) : Handled EnrollReply :=
  let refuse (d : Devices) (registryFile : DeviceTable) (status : Nat) (error : JsString)
      (inviteSurvives : Option Bool) : Handled EnrollReply :=
    { devices := d, registryFile, published := none, sweeps := [], engages := none
      reply := .refused status error inviteSurvives }
  match d.enrolledDevices with
  | .unconfigured => refuse d registryFile 501 (js "device enrollment is not configured") none
  | .quarantined _ =>
      refuse d registryFile 503
        (js "enrolled-device registry is not usable — enrollment refuses until recovery") none
  | .usable t =>
      let (outcome, enrolledDevices, registryFile') := t.commitEnrollment submission deviceId registrySave
      let d' := { d with enrolledDevices }
      match outcome with
      | .refused reason inviteSurvives =>
          let status := if enrolledDevices.table.isNone then 503 else if inviteSurvives then 400 else 410
          refuse d' registryFile' status reason (some inviteSurvives)
      | .admitted device => d'.supersedeAliases parseSpki registryFile' deviceId device save now

/-- The publish of a new owner handle, as `mintInvite` makes it: the table stays, but a publish of unproven
    durability quarantines the registry. -/
def ensureOwnerUserId (save : RegistrySave) : Devices :=
  match d.enrolledDevices, save with
  | .usable _, .unproven detail _ =>
      { d with enrolledDevices := .quarantined (js "owner user-handle publish durability UNPROVEN: " ++ detail) }
  | _, _ => d

end Devices

/-! ### The escalation reader -/

/-- `deviceInGoodStanding` over what the reader loaded of the standing file, if it loaded. -/
def deviceInGoodStanding (loaded : Option StandingMap) (deviceId : JsString) : Bool :=
  match loaded with
  | none => false
  | some devices => (devices.get? deviceId).any fun standing => standing.revokedAt.isNone

/-! ### What a composed file says -/

namespace Devices

variable {d : Devices}

/-- The registry's part of the standing file. -/
theorem get?_registryStanding (d : Devices) (id : JsString) :
    d.registryStanding.get? id = (d.enrolledDevices.get? id).map fun record =>
      { generation := record.generation, revokedAt := record.revokedAt, spki := some record.cheapLaneKeySpki } := by
  unfold registryStanding Registry.get?
  cases d.enrolledDevices.table with
  | none => rfl
  | some t => exact JsMap.get?_mapVal ..

/-- The registry's word comes before that of the static devices, and theirs before the history. -/
theorem get?_composeStanding (d : Devices) (id : JsString) :
    d.composeStanding.get? id
      = (d.registryStanding.get? id).or ((d.staticStanding.get? id).or (d.historyStanding.get? id)) := by
  rw [composeStanding, JsMap.get?_assign, JsMap.get?_assign]

@[simp] theorem composeStanding_quarantined (d : Devices) (q : Bool) :
    ({ d with standingQuarantined := q } : Devices).composeStanding = d.composeStanding :=
  rfl

/-- Where an entry of a composed file comes from. -/
inductive ComposedFrom (d : Devices) (id : JsString) (st : DeviceStanding) : Prop where
  | registry (record : PersistedEnrolledDevice) (served : d.enrolledDevices.get? id = some record)
      (spki : st.spki = some record.cheapLaneKeySpki) (revokedAt : st.revokedAt = record.revokedAt)
  | «static» (device : EnrolledOwnerDevice) (held : d.ownerDevices.get? id = some device)
      (spki : st.spki = none) (revokedAt : st.revokedAt = device.revokedAt)
  | history (old : DeviceStanding) (retained : d.unenrolledStanding.get? id = some old)
      (unnamed : d.ownerDevices.get? id = none) (spki : st.spki = old.spki)
      (verbatim : old.revokedAt.isSome = true → st.revokedAt = old.revokedAt)
      (tombstone : st.spki.isSome = true ∨ isCeremonyId id = true → st.revokedAt.isSome = true)

/-- Each line of the standing file comes from one of three sources. -/
theorem composedFrom {id : JsString} {st : DeviceStanding} (h : d.composeStanding.get? id = some st) :
    ComposedFrom d id st := by
  rw [get?_composeStanding, get?_registryStanding] at h
  cases hregistry : d.enrolledDevices.get? id with
  | some record =>
      rw [hregistry] at h
      obtain rfl := Option.some.inj h
      exact .registry record hregistry rfl rfl
  | none =>
      rw [hregistry, Option.map_none, Option.none_or, staticStanding, JsMap.get?_mapVal] at h
      cases hstatic : d.ownerDevices.get? id with
      | some device =>
          rw [hstatic] at h
          obtain rfl := Option.some.inj h
          exact .static device hstatic rfl rfl
      | none =>
          rw [hstatic, Option.map_none, Option.none_or, historyStanding, JsMap.get?_mapVal,
            Option.map_eq_some_iff] at h
          obtain ⟨old, hold, rfl⟩ := h
          apply ComposedFrom.history old hold hstatic
          · split <;> rfl
          · intro hrevoked
            obtain ⟨t, ht⟩ := Option.isSome_iff_exists.mp hrevoked
            split <;> simp [ht]
          · intro hceremony
            split at hceremony <;> simp_all

/-- The registry's word on a device is the first. -/
theorem get?_composeStanding_of_registry {id : JsString} {record : PersistedEnrolledDevice}
    (h : d.enrolledDevices.get? id = some record) :
    d.composeStanding.get? id = some
      { generation := record.generation, revokedAt := record.revokedAt, spki := some record.cheapLaneKeySpki } := by
  rw [get?_composeStanding, get?_registryStanding, h]
  rfl

/-- A static device stands where the registry does not name it. -/
theorem get?_composeStanding_of_static {id : JsString} {device : EnrolledOwnerDevice}
    (hregistry : d.enrolledDevices.get? id = none) (h : d.ownerDevices.get? id = some device) :
    d.composeStanding.get? id = some
      { generation := device.generation, revokedAt := device.revokedAt, spki := none } := by
  rw [get?_composeStanding, get?_registryStanding, hregistry, staticStanding, JsMap.get?_mapVal, h]
  rfl

/-- A device of the history stays where nothing else names it. -/
theorem get?_composeStanding_of_history {id : JsString} {old : DeviceStanding}
    (hregistry : d.enrolledDevices.get? id = none) (hstatic : d.ownerDevices.get? id = none)
    (h : d.unenrolledStanding.get? id = some old) :
    ∃ st, d.composeStanding.get? id = some st ∧ st.spki = old.spki := by
  rw [get?_composeStanding, get?_registryStanding, hregistry, staticStanding, historyStanding, JsMap.get?_mapVal,
    JsMap.get?_mapVal, hstatic, h]
  refine ⟨_, rfl, ?_⟩
  dsimp only
  split <;> rfl

/-- A save reports success exactly when the composed file is published durably. -/
theorem persistStanding_durable {save : StandingSave} (h : (d.persistStanding save).1.durable = true) :
    d.standingStore = true ∧ save = .durable ∧ (d.persistStanding save).2 = some d.composeStanding := by
  unfold persistStanding at h ⊢
  split at h
  · rename_i hstore
    cases save with
    | durable => exact ⟨hstore, rfl, by rw [if_pos hstore]⟩
    | unproven detail => cases h
    | failed detail => cases h
  · cases h

/-- What is published is what was composed. -/
theorem persistStanding_published {save : StandingSave} {f : StandingMap} (h : (d.persistStanding save).2 = some f) :
    d.standingStore = true ∧ f = d.composeStanding := by
  unfold persistStanding at h
  split at h
  · rename_i hstore
    cases save with
    | durable => exact ⟨hstore, (Option.some.inj h).symm⟩
    | unproven detail => exact ⟨hstore, (Option.some.inj h).symm⟩
    | failed detail => cases h
  · cases h

end Devices

/-! ### What each handler may change -/

/-- What a handler may do to the standing. -/
structure Devices.Handles {ρ : Type} (d : Devices) (registryFile : DeviceTable)
    (fresh : JsString → PersistedEnrolledDevice → Prop) (now : Int) (r : Handled ρ) : Prop where
  store : r.devices.standingStore = d.standingStore
  history : r.devices.unenrolledStanding = d.unenrolledStanding
  statics : ∀ id, r.devices.ownerDevices.get? id = d.ownerDevices.get? id ∨
    ∃ device, d.ownerDevices.get? id = some device ∧ device.revokedAt = none ∧
      r.devices.ownerDevices.get? id = some (device.sever now)
  registry : RegistryMoves fresh d.enrolledDevices registryFile r.devices.enrolledDevices r.registryFile
  published : ∀ f, r.published = some f → d.standingStore = true ∧ f = r.devices.composeStanding
  vouches : r.published.isSome = true → d.enrolledDevices.table.isSome = true →
    r.devices.enrolledDevices.table.isSome = true
  producer : r.published.isSome = true → d.enrolledDevices = .unconfigured →
    ∃ id device, d.ownerDevices.get? id = some device
  unpublished : r.published = none → d.standingStore = true → r.devices.standingQuarantined = true ∨
    (r.devices.ownerDevices = d.ownerDevices ∧ r.devices.standingQuarantined = d.standingQuarantined)

namespace Devices

variable {d : Devices} {registryFile : DeviceTable} {fresh : JsString → PersistedEnrolledDevice → Prop} {now : Int}
  {id : JsString} {save : StandingSave}

/-- What is not published was not durable. -/
theorem persistStanding_unpublished (hstore : d.standingStore = true) (h : (d.persistStanding save).2 = none) :
    (d.persistStanding save).1.durable = false := by
  unfold persistStanding at h ⊢
  rw [if_pos hstore] at h ⊢
  cases save with
  | durable => cases h
  | unproven detail => cases h
  | failed detail => rfl

/-- A handler that persists what it changed. -/
theorem handles_of_persist {ρ : Type} (d d₁ : Devices) {q : Bool} {registryFile' : DeviceTable}
    {sweeps : List (JsString × Devices)} {engages : Option JsString} {reply : ρ}
    (hstore : d₁.standingStore = d.standingStore) (hhistory : d₁.unenrolledStanding = d.unenrolledStanding)
    (hstatics : ∀ id, d₁.ownerDevices.get? id = d.ownerDevices.get? id ∨
      ∃ device, d.ownerDevices.get? id = some device ∧ device.revokedAt = none ∧
        d₁.ownerDevices.get? id = some (device.sever now))
    (hregistry : RegistryMoves fresh d.enrolledDevices registryFile d₁.enrolledDevices registryFile')
    (hvouches : d.enrolledDevices.table.isSome = true → d₁.enrolledDevices.table.isSome = true)
    (hproducer : d.enrolledDevices = .unconfigured → ∃ id device, d.ownerDevices.get? id = some device)
    (hquarantine : d₁.standingStore = true → (d₁.persistStanding save).1.durable = false →
      q = true ∨ (d₁.ownerDevices = d.ownerDevices ∧ q = d.standingQuarantined)) :
    d.Handles registryFile fresh now
      { devices := { d₁ with standingQuarantined := q }, registryFile := registryFile'
        published := (d₁.persistStanding save).2, sweeps, engages, reply } where
  store := hstore
  history := hhistory
  statics := hstatics
  registry := hregistry
  published := fun _ hf => ⟨hstore ▸ (persistStanding_published hf).1, (persistStanding_published hf).2⟩
  vouches := fun _ => hvouches
  producer := fun _ => hproducer
  unpublished := by
    intro hnone hconfigured
    rw [← hstore] at hconfigured
    exact hquarantine hconfigured (persistStanding_unpublished hconfigured hnone)

/-- One that changes nothing but the registry and persists nothing. -/
theorem handles_of_registry {ρ : Type} {registry : Registry} {registryFile' : DeviceTable}
    {engages : Option JsString} {reply : ρ}
    (hregistry : RegistryMoves fresh d.enrolledDevices registryFile registry registryFile') :
    d.Handles registryFile fresh now
      { devices := { d with enrolledDevices := registry }, registryFile := registryFile', published := none
        sweeps := [], engages, reply } where
  store := rfl
  history := rfl
  statics := fun _ => .inl rfl
  registry := hregistry
  published := by
    intro f hf
    cases hf
  vouches := by
    intro hf
    cases hf
  producer := by
    intro hf
    cases hf
  unpublished := fun _ _ => .inr ⟨rfl, rfl⟩

theorem retryRevoke_handles {device : EnrolledOwnerDevice} (hget : d.ownerDevices.get? id = some device) :
    d.Handles registryFile fresh now (d.retryRevoke registryFile id device save) := by
  unfold retryRevoke
  split
  · rename_i hquarantined
    rw [Bool.and_eq_true] at hquarantined
    dsimp only
    split
    · rename_i hdurable
      apply handles_of_persist d d rfl rfl (fun _ => .inl rfl) .kept (fun h => h) (fun _ => ⟨id, device, hget⟩)
      intro _ hfailed
      rw [hfailed] at hdurable
      cases hdurable
    · exact handles_of_persist d d rfl rfl (fun _ => .inl rfl) .kept (fun h => h)
        (fun _ => ⟨id, device, hget⟩) fun _ _ => .inr ⟨rfl, rfl⟩
  · exact handles_of_registry .kept

theorem severStatic_statics {device : EnrolledOwnerDevice} (hget : d.ownerDevices.get? id = some device)
    (hactive : device.revokedAt = none) (id' : JsString) :
    (d.severStatic id device now).ownerDevices.get? id' = d.ownerDevices.get? id' ∨
      ∃ device', d.ownerDevices.get? id' = some device' ∧ device'.revokedAt = none ∧
        (d.severStatic id device now).ownerDevices.get? id' = some (device'.sever now) := by
  by_cases heq : id' = id
  · subst heq
    exact .inr ⟨device, hget, hactive, JsMap.get?_set_self ..⟩
  · exact .inl (JsMap.get?_set_ne _ _ heq)

/-- What the revocation of a static device may do to the standing. -/
theorem revokeStatic_handles {device : EnrolledOwnerDevice} (hget : d.ownerDevices.get? id = some device)
    (hactive : device.revokedAt = none) :
    d.Handles registryFile fresh now (d.revokeStatic registryFile id device save now) := by
  unfold revokeStatic
  dsimp only
  split
  · exact handles_of_persist d (d.severStatic id device now) rfl rfl (severStatic_statics hget hactive) .kept
      (fun h => h) (fun _ => ⟨id, device, hget⟩) fun _ _ => .inl rfl
  · rename_i hdurable
    apply handles_of_persist d (d.severStatic id device now) rfl rfl (severStatic_statics hget hactive) .kept
      (fun h => h) (fun _ => ⟨id, device, hget⟩)
    intro hstore hfailed
    rw [hfailed] at hdurable
    exact absurd (by simpa using hstore) hdurable

/-- The export of a revocation that is in the registry already. -/
theorem exportRevocation_handles {d' : Devices} {registryFile' : DeviceTable} {generation : Nat} {alreadyRevoked : Bool}
    (hstore : d'.standingStore = d.standingStore) (hhistory : d'.unenrolledStanding = d.unenrolledStanding)
    (hstatics : d'.ownerDevices = d.ownerDevices)
    (hregistry : RegistryMoves fresh d.enrolledDevices registryFile d'.enrolledDevices registryFile')
    (hvouches : d.enrolledDevices.table.isSome = true → d'.enrolledDevices.table.isSome = true)
    (hconfigured : d.enrolledDevices ≠ .unconfigured) :
    d.Handles registryFile fresh now (d'.exportRevocation registryFile' id generation alreadyRevoked save) := by
  unfold exportRevocation
  dsimp only
  split
  · exact handles_of_persist d d' hstore hhistory (fun _ => .inl (by rw [hstatics])) hregistry hvouches
        (fun h => absurd h hconfigured) fun _ _ => .inl rfl
  · rename_i hdurable
    apply handles_of_persist d d' hstore hhistory (fun _ => .inl (by rw [hstatics])) hregistry hvouches
        (fun h => absurd h hconfigured)
    intro hconfigured hfailed
    rw [hfailed] at hdurable
    exact absurd (by simpa using hconfigured) hdurable

/-- How a revocation of a ceremony-enrolled device can go. -/
inductive RevokeEnrolledCase (d : Devices) (registryFile : DeviceTable) (id : JsString) (registrySave : RegistrySave)
    (save : StandingSave) (now : Int) : Handled RevokeReply → Prop where
  | refused {error} :
      RevokeEnrolledCase d registryFile id registrySave save now
        { devices := d, registryFile, published := none, sweeps := [], engages := none, reply := .unknown id error }
  | publishFailed {t registry registryFile' record reason error} (usable : d.enrolledDevices = .usable t)
      (listed : t.devices.get? id = some record) (active : record.revokedAt = none)
      (undurable : registrySave ≠ .durable) (moves : ∀ fresh, t.Moves fresh registry registryFile') :
      RevokeEnrolledCase d registryFile id registrySave save now
        { devices := { d with enrolledDevices := registry }, registryFile := registryFile', published := none
          sweeps := [], engages := some reason, reply := .degraded id none false false true true error }
  | exported {t t' record generation alreadyRevoked} (usable : d.enrolledDevices = .usable t)
      (moves : ∀ fresh, t.Moves fresh (.usable t') t') (listed : t'.devices.get? id = some record)
      (revoked : record.revokedAt.isSome = true) :
      RevokeEnrolledCase d registryFile id registrySave save now
        (({ d with enrolledDevices := .usable t' } : Devices).exportRevocation t' id generation alreadyRevoked save)

theorem revokeEnrolledDevice_cases (d : Devices) (registryFile : DeviceTable) (id : JsString)
    (registrySave : RegistrySave) (save : StandingSave) (now : Int) :
    RevokeEnrolledCase d registryFile id registrySave save now
      (d.revokeEnrolledDevice registryFile id registrySave save now) := by
  unfold revokeEnrolledDevice
  cases hregistry : d.enrolledDevices with
  | unconfigured => exact .refused
  | quarantined detail => exact .refused
  | usable t =>
      dsimp only
      have hmoves := fun fresh => @DeviceTable.revoke_moves fresh t id now registrySave
      have hcase := t.revoke_cases id now registrySave
      generalize t.revoke id now registrySave = result at hcase hmoves
      cases hcase with
      | unknown => exact .refused
      | already hlisted hrevoked => exact .exported hregistry hmoves hlisted hrevoked
      | revoked hlisted => 
          exact .exported hregistry hmoves (by rw [DeviceTable.get?_sever, hlisted]; rfl) (by simp)
      | publishFailed hlisted hactive hundurable => exact .publishFailed hregistry hlisted hactive hundurable hmoves

/-- What the revocation of an enrolled device may do to the standing. -/
theorem revokeEnrolledDevice_handles (registrySave : RegistrySave) :
    d.Handles registryFile fresh now (d.revokeEnrolledDevice registryFile id registrySave save now) := by
  have hcase := d.revokeEnrolledDevice_cases registryFile id registrySave save now
  generalize d.revokeEnrolledDevice registryFile id registrySave save now = result at hcase
  cases hcase with
  | refused => exact handles_of_registry .kept
  | publishFailed husable _ _ _ hmoves => exact handles_of_registry (.moved husable (hmoves fresh))
  | exported husable hmoves =>
      exact exportRevocation_handles rfl rfl rfl (.moved husable (hmoves fresh)) (fun _ => rfl) (by rw [husable]; simp)

/-- What a revocation may do to the standing. -/
theorem postDeviceRevoke_handles (d : Devices) (registryFile : DeviceTable) (id : JsString)
    (registrySave : RegistrySave) (save : StandingSave) (now : Int) :
    d.Handles registryFile fresh now (d.postDeviceRevoke registryFile id registrySave save now) := by
  unfold postDeviceRevoke
  split
  · exact revokeEnrolledDevice_handles registrySave
  · rename_i device hget
    split
    · exact retryRevoke_handles hget
    · rename_i hactive
      exact revokeStatic_handles hget (by simpa using hactive)

/-- How a revocation of a known device can end when nothing failed: it was in force already and nothing is pending, or
    the file that was published shows it. -/
inductive Revoked (d : Devices) (registryFile : DeviceTable) (id : JsString) (r : Handled RevokeReply) : Prop where
  | already (device : EnrolledOwnerDevice) (held : d.ownerDevices.get? id = some device)
      (revoked : device.revokedAt.isSome = true) (settled : d.standingQuarantined = false)
      (kept : r = { devices := d, registryFile, published := none, sweeps := [], engages := none, reply := r.reply })
  | ofStatic (device : EnrolledOwnerDevice) (held : r.devices.ownerDevices.get? id = some device)
      (revoked : device.revokedAt.isSome = true) (published : r.published = some r.devices.composeStanding)
  | ofRecord (unnamed : d.ownerDevices.get? id = none) (record : PersistedEnrolledDevice)
      (served : r.devices.enrolledDevices.get? id = some record) (revoked : record.revokedAt.isSome = true)
      (published : r.published = some r.devices.composeStanding)

theorem retryRevoke_complete {device : EnrolledOwnerDevice} (hstore : d.standingStore = true)
    (hget : d.ownerDevices.get? id = some device) (hrevoked : device.revokedAt.isSome = true)
    (hcomplete : (d.retryRevoke registryFile id device save).reply.status = 200 ∨ save = .durable) :
    Revoked d registryFile id (d.retryRevoke registryFile id device save) := by
  unfold retryRevoke at hcomplete ⊢
  by_cases hquarantined : d.standingQuarantined = true
  · rw [if_pos (by rw [hquarantined, hstore]; rfl)] at hcomplete ⊢
    dsimp only at hcomplete ⊢
    by_cases hdurable : (d.persistStanding save).1.durable = true
    · rw [if_pos hdurable]
      exact .ofStatic device hget hrevoked (persistStanding_durable hdurable).2.2
    · rw [if_neg hdurable] at hcomplete
      rcases hcomplete with hstatus | rfl
      · cases hstatus
      · exact absurd (by rw [persistStanding, if_pos hstore]) hdurable
  · rw [if_neg (by simp [hquarantined])]
    exact .already device hget hrevoked (by simpa using hquarantined) rfl

/-- The revocation of an active static device ends with a file that shows it, where nothing failed. -/
theorem revokeStatic_complete {device : EnrolledOwnerDevice} (hstore : d.standingStore = true)
    (hcomplete : (d.revokeStatic registryFile id device save now).reply.status = 200 ∨ save = .durable) :
    Revoked d registryFile id (d.revokeStatic registryFile id device save now) := by
  unfold revokeStatic at hcomplete ⊢
  dsimp only at hcomplete ⊢
  by_cases hdurable : ((d.severStatic id device now).persistStanding save).1.durable = true
  · rw [if_neg (by rw [hdurable]; simp)]
    exact .ofStatic (device.sever now) (JsMap.get?_set_self ..) rfl (persistStanding_durable hdurable).2.2
  · rcases hcomplete with hstatus | rfl
    · rw [if_pos (by rw [Bool.and_eq_true]; exact ⟨hstore, by simpa using hdurable⟩)] at hstatus
      cases hstatus
    · exact absurd
        (by rw [persistStanding, if_pos (show (d.severStatic id device now).standingStore = true from hstore)])
        hdurable

theorem exportRevocation_complete (d' : Devices) {registryFile' : DeviceTable} {generation : Nat}
    {alreadyRevoked : Bool}
    {record : PersistedEnrolledDevice} (hstore : d'.standingStore = true) (hunnamed : d.ownerDevices.get? id = none)
    (hserved : d'.enrolledDevices.get? id = some record) (hrevoked : record.revokedAt.isSome = true)
    (hcomplete : (d'.exportRevocation registryFile' id generation alreadyRevoked save).reply.status = 200 ∨
      save = .durable) :
    Revoked d registryFile id (d'.exportRevocation registryFile' id generation alreadyRevoked save) := by
  unfold exportRevocation at hcomplete ⊢
  dsimp only at hcomplete ⊢
  by_cases hdurable : (d'.persistStanding save).1.durable = true
  · rw [if_neg (by rw [hdurable]; simp)]
    exact .ofRecord hunnamed record hserved hrevoked (persistStanding_durable hdurable).2.2
  · rcases hcomplete with hstatus | rfl
    · rw [if_pos (by simpa [hdurable] using hstore)] at hstatus
      cases hstatus
    · exact absurd (by rw [persistStanding, if_pos hstore]) hdurable

/-- The revocation of an enrolled device ends with a file that shows it, where nothing failed. -/
theorem revokeEnrolledDevice_complete {registrySave : RegistrySave} (hstore : d.standingStore = true)
    (hunnamed : d.ownerDevices.get? id = none)
    (hsave : ∀ record, d.enrolledDevices.get? id = some record → record.revokedAt = none → registrySave = .durable)
    (hcomplete : (d.revokeEnrolledDevice registryFile id registrySave save now).reply.status = 200 ∨
      ((d.revokeEnrolledDevice registryFile id registrySave save now).reply.status = 503 ∧ save = .durable)) :
    Revoked d registryFile id (d.revokeEnrolledDevice registryFile id registrySave save now) := by
  have hcase := d.revokeEnrolledDevice_cases registryFile id registrySave save now
  generalize d.revokeEnrolledDevice registryFile id registrySave save now = result at hcase hcomplete ⊢
  cases hcase with
  | refused => rcases hcomplete with hstatus | ⟨hstatus, -⟩ <;> cases hstatus
  | publishFailed husable hlisted hactive hundurable =>
      rw [husable] at hsave
      exact absurd (hsave _ hlisted hactive) hundurable
  | exported husable hmoves hlisted hrevoked =>
      exact exportRevocation_complete _ hstore hunnamed hlisted hrevoked (hcomplete.imp_right And.right)

/-- A revocation that is reported done, or degraded though the standing file could be written, is in force in the file
    that was published or was so before. -/
theorem postDeviceRevoke_complete {registrySave : RegistrySave} (hstore : d.standingStore = true)
    (hsave : d.ownerDevices.get? id = none → ∀ record, d.enrolledDevices.get? id = some record →
      record.revokedAt = none → registrySave = .durable)
    (hcomplete : (d.postDeviceRevoke registryFile id registrySave save now).reply.status = 200 ∨
      ((d.postDeviceRevoke registryFile id registrySave save now).reply.status = 503 ∧ save = .durable)) :
    Revoked d registryFile id (d.postDeviceRevoke registryFile id registrySave save now) := by
  unfold postDeviceRevoke at hcomplete ⊢
  cases hget : d.ownerDevices.get? id with
  | none =>
      rw [hget] at hcomplete
      exact revokeEnrolledDevice_complete hstore hget (hsave hget) hcomplete
  | some device =>
      rw [hget] at hcomplete
      dsimp only at hcomplete ⊢
      split at hcomplete
      · rename_i hrevoked
        rw [if_pos hrevoked]
        exact retryRevoke_complete hstore hget hrevoked (hcomplete.imp_right And.right)
      · rename_i hactive
        rw [if_neg hactive]
        exact revokeStatic_complete hstore (hcomplete.imp_right And.right)

/-- What is left of a static device whose key has just been enrolled. -/
def superseded (key : JsString) (now : Int) (device : EnrolledOwnerDevice) : EnrolledOwnerDevice :=
  if device.revokedAt = none ∧ device.publicKey = key then device.sever now else device

theorem superseded_cases (key : JsString) (now : Int) (device : EnrolledOwnerDevice) :
    superseded key now device = device ∨
      (device.revokedAt = none ∧ superseded key now device = device.sever now) := by
  unfold superseded
  split
  · rename_i h
    exact .inr ⟨h.1, rfl⟩
  · exact .inl rfl

/-- A device that is active after a key was taken over has another key. -/
theorem superseded_key {key : JsString} {now : Int} {device : EnrolledOwnerDevice}
    (h : (superseded key now device).revokedAt = none) : (superseded key now device).publicKey ≠ key := by
  unfold superseded at h ⊢
  split at h
  · cases h
  · rename_i hkept
    rw [if_neg hkept]
    exact fun hkey => hkept ⟨h, hkey⟩

/-- The loop severs the devices of the list that hold the key, and touches nothing else. -/
theorem get?_severAliases (key : JsString) (now : Int) (id : JsString) :
    ∀ (es : List (JsString × EnrolledOwnerDevice)) (d : Devices), (es.map Prod.fst).Nodup →
      (∀ e ∈ es, d.ownerDevices.get? e.1 = some e.2) →
      (severAliases key now es d).1.ownerDevices.get? id
        = (d.ownerDevices.get? id).map fun device =>
            if id ∈ es.map Prod.fst then superseded key now device else device := by
  intro es
  induction es with
  | nil => simp [severAliases]
  | cons e es ih =>
      intro d hnodup hheld
      obtain ⟨staticId, device⟩ := e
      rw [List.map_cons, List.nodup_cons] at hnodup
      have hhead : d.ownerDevices.get? staticId = some device := hheld (staticId, device) (by simp)
      have htail : ∀ e ∈ es, d.ownerDevices.get? e.1 = some e.2 := fun e he => hheld e (by simp [he])
      by_cases hkept : device.revokedAt.isSome = true ∨ device.publicKey ≠ key
      · have hsame : superseded key now device = device := by
          unfold superseded
          rw [if_neg]
          rintro ⟨hactive, hkey⟩
          simp [hactive, hkey] at hkept
        rw [severAliases, if_pos (by simpa using hkept), ih d hnodup.2 htail]
        by_cases hid : id = staticId
        · subst hid
          simp [hhead, hsame]
        · congr 1
          funext device'
          congr 1
          simp [hid]
      · have hsevered : superseded key now device = device.sever now := by
          unfold superseded
          rw [if_pos]
          simpa using hkept
        have htail' : ∀ e ∈ es, (d.severStatic staticId device now).ownerDevices.get? e.1 = some e.2 := by
          intro e he
          have hne : e.1 ≠ staticId := by
            rintro rfl
            exact hnodup.1 (List.mem_map.mpr ⟨e, he, rfl⟩)
          rw [severStatic, JsMap.get?_set_ne _ _ hne]
          exact htail e he
        rw [severAliases, if_neg (by simpa using hkept)]
        dsimp only
        rw [ih _ hnodup.2 htail', severStatic, JsMap.get?_set]
        by_cases hid : id = staticId
        · subst hid
          simp [hhead, hsevered, hnodup.1]
        · rw [if_neg hid]
          congr 1
          funext device'
          congr 1
          simp [hid]

theorem severAliases_frame (key : JsString) (now : Int) :
    ∀ (es : List (JsString × EnrolledOwnerDevice)) (d : Devices),
      (severAliases key now es d).1.standingStore = d.standingStore ∧
        (severAliases key now es d).1.unenrolledStanding = d.unenrolledStanding ∧
        (severAliases key now es d).1.enrolledDevices = d.enrolledDevices ∧
        (severAliases key now es d).1.standingQuarantined = d.standingQuarantined ∧
        ((severAliases key now es d).2 = [] → (severAliases key now es d).1 = d) := by
  intro es
  induction es with
  | nil => exact fun d => ⟨rfl, rfl, rfl, rfl, fun _ => rfl⟩
  | cons e es ih =>
      intro d
      unfold severAliases
      split
      · exact ih d
      · obtain ⟨hstore, hhistory, hregistry, hquarantined, -⟩ := ih (d.severStatic e.1 e.2 now)
        exact ⟨hstore, hhistory, hregistry, hquarantined, by simp⟩

/-- The loop over all static devices. -/
theorem get?_severAliases_all (key : JsString) (now : Int) (d : Devices) (id : JsString) :
    (severAliases key now d.ownerDevices.entries d).1.ownerDevices.get? id
      = (d.ownerDevices.get? id).map (superseded key now) := by
  rw [get?_severAliases key now id _ d d.ownerDevices.nodup fun e he => JsMap.get?_eq_some_iff.mpr he]
  cases hget : d.ownerDevices.get? id with
  | none => rfl
  | some device =>
      have hmem : id ∈ d.ownerDevices.entries.map Prod.fst :=
        List.mem_map.mpr ⟨(id, device), JsMap.get?_eq_some_iff.mp hget, rfl⟩
      simp only [Option.map_some, if_pos hmem]

/-- The static devices after an enrollment, if its key is one the parser accepts. -/
theorem get?_supersedeAliases {parseSpki : JsString → Option JsString} {device : PersistedEnrolledDevice}
    {key : JsString} (hkey : parseSpki device.cheapLaneKeySpki = some key) (d : Devices) (registryFile : DeviceTable)
    (deviceId : JsString) (save : StandingSave) (now : Int) (id : JsString) :
    (d.supersedeAliases parseSpki registryFile deviceId device save now).devices.ownerDevices.get? id
      = (d.ownerDevices.get? id).map (superseded key now) := by
  rw [← get?_severAliases_all]
  unfold supersedeAliases
  rw [hkey]
  dsimp only
  split
  · split <;> rfl
  · rfl

/-- Taking a key over leaves the registry as it is. -/
theorem supersedeAliases_registry {parseSpki : JsString → Option JsString} {device : PersistedEnrolledDevice}
    (d : Devices) (registryFile : DeviceTable) (deviceId : JsString) (save : StandingSave) (now : Int) :
    (d.supersedeAliases parseSpki registryFile deviceId device save now).devices.enrolledDevices =
      d.enrolledDevices := by
  have hsevered : ∀ key, (severAliases key now d.ownerDevices.entries d).1.enrolledDevices = d.enrolledDevices :=
    fun key => (severAliases_frame key now d.ownerDevices.entries d).2.2.1
  unfold supersedeAliases
  cases parseSpki device.cheapLaneKeySpki with
  | none => rfl
  | some key =>
      dsimp only
      split
      · split <;> exact hsevered key
      · exact hsevered key

theorem supersedeAliases_handles {parseSpki : JsString → Option JsString} {device : PersistedEnrolledDevice}
    {d' : Devices} {registryFile' : DeviceTable} {deviceId : JsString}
    (hstore : d'.standingStore = d.standingStore) (hhistory : d'.unenrolledStanding = d.unenrolledStanding)
    (hstatics : d'.ownerDevices = d.ownerDevices) (hquarantined : d'.standingQuarantined = d.standingQuarantined)
    (hregistry : RegistryMoves fresh d.enrolledDevices registryFile d'.enrolledDevices registryFile')
    (hvouches : d.enrolledDevices.table.isSome = true → d'.enrolledDevices.table.isSome = true)
    (hconfigured : d.enrolledDevices ≠ .unconfigured) :
    d.Handles registryFile fresh now (d'.supersedeAliases parseSpki registryFile' deviceId device save now) := by
  have hsome : ∃ severed : Devices × List (JsString × Devices),
      (match parseSpki device.cheapLaneKeySpki with
        | none => (d', [])
        | some canonNew => severAliases canonNew now d'.ownerDevices.entries d') = severed ∧
      severed.1.standingStore = d.standingStore ∧ severed.1.unenrolledStanding = d.unenrolledStanding ∧
      severed.1.enrolledDevices = d'.enrolledDevices ∧
      (severed.2 = [] → severed.1 = d') ∧
      ∀ id, severed.1.ownerDevices.get? id = d.ownerDevices.get? id ∨
        ∃ device, d.ownerDevices.get? id = some device ∧ device.revokedAt = none ∧
          severed.1.ownerDevices.get? id = some (device.sever now) := by
    refine ⟨_, rfl, ?_⟩
    split
    · exact ⟨hstore, hhistory, rfl, fun _ => rfl, fun id => .inl (by rw [hstatics])⟩
    · rename_i canonNew _
      obtain ⟨hs, hh, hr, -, hnone⟩ := severAliases_frame canonNew now d'.ownerDevices.entries d'
      refine ⟨hs.trans hstore, hh.trans hhistory, hr, hnone, fun id => ?_⟩
      rw [get?_severAliases_all, hstatics]
      cases d.ownerDevices.get? id with
      | none => exact .inl rfl
      | some device =>
          rcases superseded_cases canonNew now device with hsame | ⟨hactive, hsevered⟩
          · exact .inl (by rw [Option.map_some, hsame])
          · exact .inr ⟨device, rfl, hactive, by rw [Option.map_some, hsevered]⟩
  obtain ⟨severed, heq, hstore', hhistory', hregistry', hnone, hstatics'⟩ := hsome
  unfold supersedeAliases
  rw [heq]
  dsimp only
  split
  · split
    · exact handles_of_persist d severed.1 hstore' hhistory' hstatics' (hregistry' ▸ hregistry) (hregistry' ▸ hvouches)
        (fun h => absurd h hconfigured) fun _ _ => .inl rfl
    · rename_i hdurable
      apply handles_of_persist d severed.1 hstore' hhistory' hstatics' (hregistry' ▸ hregistry) (hregistry' ▸ hvouches)
        (fun h => absurd h hconfigured)
      intro hconfigured hfailed
      rw [hfailed] at hdurable
      exact absurd (by simpa using hconfigured) hdurable
  · rename_i hlast
    have hsame : severed.1 = d' := hnone (List.getLast?_eq_none_iff.mp hlast)
    apply handles_of_persist d severed.1 hstore' hhistory' hstatics' (hregistry' ▸ hregistry) (hregistry' ▸ hvouches)
        (fun h => absurd h hconfigured)
    intro _ _
    exact .inr ⟨by rw [hsame, hstatics], (congrArg standingQuarantined hsame).trans hquarantined⟩

/-- How an enrollment can go. -/
inductive EnrollCase (d : Devices) (parseSpki : JsString → Option JsString) (registryFile : DeviceTable)
    (submission : PerformEnrollmentOutcome) (deviceId : JsString) (save : StandingSave) (now : Int) :
    Handled EnrollReply → Prop where
  | refused {registry registryFile' status error survives}
      (moves : RegistryMoves (DeviceTable.Drawn submission deviceId) d.enrolledDevices registryFile registry
        registryFile')
      (kept : registry = d.enrolledDevices ∨ registry.table = none) :
      EnrollCase d parseSpki registryFile submission deviceId save now
        { devices := { d with enrolledDevices := registry }, registryFile := registryFile', published := none
          sweeps := [], engages := none, reply := .refused status error survives }
  | admitted {t proof} (usable : d.enrolledDevices = .usable t) (verified : submission = .verified proof)
      (admits : t.Admits deviceId (DeviceTable.newDevice proof)) :
      EnrollCase d parseSpki registryFile submission deviceId save now
        (({ d with enrolledDevices := .usable (t.insert deviceId (DeviceTable.newDevice proof) admits) } : Devices)
          |>.supersedeAliases parseSpki (t.insert deviceId (DeviceTable.newDevice proof) admits) deviceId
            (DeviceTable.newDevice proof) save now)

theorem postDeviceEnroll_cases (d : Devices) (parseSpki : JsString → Option JsString) (registryFile : DeviceTable)
    (submission : PerformEnrollmentOutcome) (deviceId : JsString) (registrySave : RegistrySave) (save : StandingSave)
    (now : Int) :
    EnrollCase d parseSpki registryFile submission deviceId save now
      (d.postDeviceEnroll parseSpki registryFile submission deviceId registrySave save now) := by
  unfold postDeviceEnroll
  cases hregistry : d.enrolledDevices with
  | unconfigured => exact .refused .kept (.inl rfl)
  | quarantined detail => exact .refused .kept (.inl rfl)
  | usable t =>
      dsimp only
      have hmoves : RegistryMoves _ d.enrolledDevices registryFile _ _ :=
        .moved hregistry (t.commitEnrollment_moves submission deviceId registrySave)
      have hcase := t.commitEnrollment_cases submission deviceId registrySave
      generalize t.commitEnrollment submission deviceId registrySave = result at hcase hmoves ⊢
      cases hcase with
      | refused => exact .refused hmoves (.inl hregistry.symm)
      | unproven => exact .refused hmoves (.inr rfl)
      | admitted hverified hadmits => exact .admitted hregistry hverified hadmits

/-- What an enrollment may do to the standing. -/
theorem postDeviceEnroll_handles (d : Devices) (parseSpki : JsString → Option JsString) (registryFile : DeviceTable)
    (submission : PerformEnrollmentOutcome) (deviceId : JsString) (registrySave : RegistrySave) (save : StandingSave)
    (now : Int) :
    d.Handles registryFile (DeviceTable.Drawn submission deviceId) now
      (d.postDeviceEnroll parseSpki registryFile submission deviceId registrySave save now) := by
  have hcase := d.postDeviceEnroll_cases parseSpki registryFile submission deviceId registrySave save now
  generalize d.postDeviceEnroll parseSpki registryFile submission deviceId registrySave save now = result at hcase
  cases hcase with
  | refused hmoves => exact handles_of_registry hmoves
  | admitted husable hverified hadmits =>
      exact supersedeAliases_handles rfl rfl rfl rfl
        (.moved husable ⟨DeviceTable.evolves_admitted hverified hadmits, .inl rfl⟩) (fun _ => rfl)
          (by rw [husable]; simp)

/-- An enrollment that publishes has admitted the device it names. -/
theorem postDeviceEnroll_published {parseSpki : JsString → Option JsString} {submission : PerformEnrollmentOutcome}
    {deviceId : JsString} {registrySave : RegistrySave}
    (h : (d.postDeviceEnroll parseSpki registryFile submission deviceId registrySave save now).published.isSome =
      true) :
    ∃ proof, submission = .verified proof ∧
      (d.postDeviceEnroll parseSpki registryFile submission deviceId registrySave save now).devices.enrolledDevices.get?
        deviceId = some (DeviceTable.newDevice proof) := by
  have hcase := d.postDeviceEnroll_cases parseSpki registryFile submission deviceId registrySave save now
  generalize d.postDeviceEnroll parseSpki registryFile submission deviceId registrySave save now = result at hcase h ⊢
  cases hcase with
  | refused => cases h
  | @admitted t proof husable hverified hadmits =>
      refine ⟨proof, hverified, ?_⟩
      rw [supersedeAliases_registry, Registry.get?, Registry.table, Option.bind_some, DeviceTable.get?_insert,
        if_pos rfl]

/-- Once a new key is served, no static device in good standing holds it. -/
theorem postDeviceEnroll_aliases {parseSpki : JsString → Option JsString} {submission : PerformEnrollmentOutcome}
    {deviceId : JsString} {registrySave : RegistrySave} {r : PersistedEnrolledDevice} {device : EnrolledOwnerDevice}
    (hnew : d.enrolledDevices.get? deviceId = none)
    (hserved :
      (d.postDeviceEnroll parseSpki registryFile submission deviceId registrySave save now).devices.enrolledDevices.get?
      deviceId = some r)
    (hcanonical : parseSpki r.cheapLaneKeySpki = some r.cheapLaneKeySpki)
    (hget :
      (d.postDeviceEnroll parseSpki registryFile submission deviceId registrySave save now).devices.ownerDevices.get?
      id = some device)
    (hactive : device.revokedAt = none) : r.cheapLaneKeySpki ≠ device.publicKey := by
  have hcase := d.postDeviceEnroll_cases parseSpki registryFile submission deviceId registrySave save now
  generalize d.postDeviceEnroll parseSpki registryFile submission deviceId registrySave save now = result
    at hcase hserved hget
  cases hcase with
  | refused hmoves hkept =>
      rcases hkept with rfl | hnone
      · rw [hnew] at hserved
        cases hserved
      · rw [Registry.get?, hnone] at hserved
        cases hserved
  | admitted husable hverified hadmits =>
      rw [supersedeAliases_registry, Registry.get?, Registry.table, Option.bind_some, DeviceTable.get?_insert,
        if_pos rfl] at hserved
      obtain rfl := Option.some.inj hserved
      rw [get?_supersedeAliases hcanonical, Option.map_eq_some_iff] at hget
      obtain ⟨old, -, rfl⟩ := hget
      exact (superseded_key hactive).symm

/-- A severing that is not persisted to the configured path quarantines the lane and engages the kill switch. -/
theorem supersedeAliases_unpersisted {parseSpki : JsString → Option JsString} {device : PersistedEnrolledDevice}
    {deviceId : JsString} (hstore : d.standingStore = true) (hsave : save ≠ .durable)
    (hsevered : (d.supersedeAliases parseSpki registryFile deviceId device save now).devices.ownerDevices
      ≠ d.ownerDevices) :
    (d.supersedeAliases parseSpki registryFile deviceId device save now).devices.standingQuarantined = true ∧
      ∃ reason, (d.supersedeAliases parseSpki registryFile deviceId device save now).engages = some reason := by
  unfold supersedeAliases at hsevered ⊢
  cases hkey : parseSpki device.cheapLaneKeySpki with
  | none =>
      rw [hkey] at hsevered
      exact absurd rfl hsevered
  | some key =>
      obtain ⟨hsameStore, -, -, -, hnone⟩ := severAliases_frame key now d.ownerDevices.entries d
      have hundurable : ((severAliases key now d.ownerDevices.entries d).1.persistStanding save).1.durable = false := by
        rw [Bool.eq_false_iff]
        intro hdurable
        exact hsave (persistStanding_durable hdurable).2.1
      rw [hkey] at hsevered
      dsimp only at hsevered ⊢
      split at hsevered
      · rw [if_pos (by rw [hsameStore, hstore, hundurable]; rfl)]
        exact ⟨rfl, _, rfl⟩
      · rename_i hlast
        rw [hnone (List.getLast?_eq_none_iff.mp hlast)] at hsevered
        exact absurd rfl hsevered

theorem postDeviceEnroll_unpersisted {parseSpki : JsString → Option JsString} {submission : PerformEnrollmentOutcome}
    {deviceId : JsString} {registrySave : RegistrySave} (hstore : d.standingStore = true) (hsave : save ≠ .durable)
    (hsevered :
      (d.postDeviceEnroll parseSpki registryFile submission deviceId registrySave save now).devices.ownerDevices
        ≠ d.ownerDevices) :
    (d.postDeviceEnroll parseSpki registryFile submission deviceId registrySave save now).devices.standingQuarantined =
        true ∧
      ∃ reason,
        (d.postDeviceEnroll parseSpki registryFile submission deviceId registrySave save now).engages =
          some reason := by
  have hcase := d.postDeviceEnroll_cases parseSpki registryFile submission deviceId registrySave save now
  generalize d.postDeviceEnroll parseSpki registryFile submission deviceId registrySave save now = result
    at hcase hsevered ⊢
  cases hcase with
  | refused => exact absurd rfl hsevered
  | admitted => exact supersedeAliases_unpersisted hstore hsave hsevered

theorem ensureOwnerUserId_frame (d : Devices) (save : RegistrySave) :
    (d.ensureOwnerUserId save).standingStore = d.standingStore ∧
      (d.ensureOwnerUserId save).unenrolledStanding = d.unenrolledStanding ∧
      (d.ensureOwnerUserId save).ownerDevices = d.ownerDevices ∧
      (d.ensureOwnerUserId save).standingQuarantined = d.standingQuarantined := by
  unfold ensureOwnerUserId
  split
  · exact ⟨rfl, rfl, rfl, rfl⟩
  · exact ⟨rfl, rfl, rfl, rfl⟩

/-- The table the process serves is the one on disk, so an owner handle's publish leaves the device table as it was. -/
theorem ensureOwnerUserId_moves (d : Devices) (fresh : JsString → PersistedEnrolledDevice → Prop) (save : RegistrySave)
    (hfile : ∀ t, d.enrolledDevices = .usable t → t = registryFile) :
    RegistryMoves fresh d.enrolledDevices registryFile (d.ensureOwnerUserId save).enrolledDevices registryFile := by
  unfold ensureOwnerUserId
  split
  · rename_i t detail _ husable
    obtain rfl := hfile t husable
    exact .moved husable ⟨.refl t, .inr ⟨_, rfl⟩⟩
  · exact .kept

end Devices

/-! ### What a boot starts with -/

section Boot

variable {parseSpki : JsString → Option JsString}

theorem staticDevices_names {keys : JsMap JsString JsString} {devices : JsMap JsString EnrolledOwnerDevice}
    (h : staticDevices parseSpki keys = some devices) {id : JsString} {device : EnrolledOwnerDevice}
    (hget : devices.get? id = some device) : isCeremonyId id = false := by
  unfold staticDevices at h
  split at h
  · rename_i hall
    obtain rfl := Option.some.inj h
    rw [JsMap.get?_mapVal, Option.map_eq_some_iff] at hget
    obtain ⟨spki, hspki, -⟩ := hget
    rw [List.all_eq_true] at hall
    have hentry := hall _ (JsMap.get?_eq_some_iff.mp hspki)
    simp only [Bool.and_eq_true, Bool.not_eq_eq_eq_not, Bool.not_true] at hentry
    exact hentry.1
  · cases h

/-- A key the registry serves is among the migrated ones. -/
theorem Devices.mem_migratedKeys {d : Devices} {id key : JsString} {r : PersistedEnrolledDevice}
    (hserved : d.enrolledDevices.get? id = some r) (hkey : parseSpki r.cheapLaneKeySpki = some key) :
    key ∈ d.migratedKeys parseSpki := by
  unfold Registry.get? at hserved
  unfold migratedKeys
  cases htable : d.enrolledDevices.table with
  | none =>
      rw [htable] at hserved
      cases hserved
  | some t =>
      rw [htable] at hserved
      apply List.mem_append_right
      rw [List.mem_filterMap]
      exact ⟨r, List.mem_map.mpr ⟨(id, r), JsMap.get?_eq_some_iff.mp hserved, rfl⟩, hkey⟩

/-- What every boot that starts a process establishes of it. -/
structure Boots (parseSpki : JsString → Option JsString) (opts : BootOptions) (registryFile : DeviceTable)
    (standingFile : Option StandingMap) (d : Devices) : Prop where
  store : d.standingStore = opts.standingStore
  registry : d.enrolledDevices = (opts.registry.initializeFrom registryFile).1
  names : ∀ id device, d.ownerDevices.get? id = some device →
    isCeremonyId id = false ∧ d.unenrolledStanding.get? id = none
  aliases : ∀ id device id' r, d.ownerDevices.get? id = some device → device.revokedAt = none →
    d.enrolledDevices.get? id' = some r → parseSpki r.cheapLaneKeySpki ≠ some device.publicKey
  history : ∀ id st, d.unenrolledStanding.get? id = some st → ∃ f, standingFile = some f ∧ f.get? id = some st

/-- A boot that reads the file takes all of it over. -/
structure Adopts (standingFile : Option StandingMap) (d : Devices) : Prop where
  adopted : ∀ f id st, standingFile = some f → f.get? id = some st →
    (∃ device, d.ownerDevices.get? id = some device ∧ (st.revokedAt.isSome = true → device.revokedAt.isSome = true)) ∨
      d.unenrolledStanding.get? id = some st

namespace Devices

variable {d : Devices} {opts : BootOptions} {registryFile : DeviceTable} {standingFile : Option StandingMap}

theorem get?_reconcileStaticAliases (now : Int) (id : JsString) :
    (d.reconcileStaticAliases parseSpki now).ownerDevices.get? id = (d.ownerDevices.get? id).map fun device =>
      if device.revokedAt.isNone && (d.migratedKeys parseSpki).contains device.publicKey then device.sever now
      else device :=
  JsMap.get?_mapVal ..

/-- Reconciliation leaves no static device in good standing with a key the registry serves. -/
theorem reconciled_aliases {now : Int} {id id' : JsString} {device : EnrolledOwnerDevice} {r : PersistedEnrolledDevice}
    (hget : (d.reconcileStaticAliases parseSpki now).ownerDevices.get? id = some device)
    (hactive : device.revokedAt = none) (hserved : d.enrolledDevices.get? id' = some r) :
    parseSpki r.cheapLaneKeySpki ≠ some device.publicKey := by
  rw [get?_reconcileStaticAliases, Option.map_eq_some_iff] at hget
  obtain ⟨old, -, hold⟩ := hget
  intro hkey
  split at hold
  · obtain rfl := hold
    cases hactive
  · rename_i hkept
    obtain rfl := hold
    apply hkept
    rw [hactive, Option.isNone_none, Bool.true_and, List.contains_iff_mem]
    exact mem_migratedKeys hserved hkey

/-- A boot that reconciles its aliases is a boot. -/
theorem reconciled_boots (hstore : d.standingStore = opts.standingStore)
    (hregistry : d.enrolledDevices = (opts.registry.initializeFrom registryFile).1)
    (hnames : ∀ id device, d.ownerDevices.get? id = some device →
      isCeremonyId id = false ∧ d.unenrolledStanding.get? id = none)
    (hhistory : ∀ id st, d.unenrolledStanding.get? id = some st → ∃ f, standingFile = some f ∧ f.get? id = some st) :
    Boots parseSpki opts registryFile standingFile (d.reconcileStaticAliases parseSpki opts.now) where
  store := hstore
  registry := hregistry
  names := by
    intro id device hget
    rw [get?_reconcileStaticAliases, Option.map_eq_some_iff] at hget
    obtain ⟨old, hold, -⟩ := hget
    exact hnames id old hold
  aliases := fun _ _ _ _ hget hactive hserved => reconciled_aliases hget hactive hserved
  history := hhistory

/-- A device that has its file entry's standing stays revoked through reconciliation. -/
theorem reconciled_adopts (now : Int) (h : Adopts standingFile d) :
    Adopts standingFile (d.reconcileStaticAliases parseSpki now) where
  adopted := by
    intro f id st hf hst
    rcases h.adopted f id st hf hst with ⟨device, hget, hrevoked⟩ | hhistory
    · refine .inl ⟨_, by rw [get?_reconcileStaticAliases, hget]; rfl, fun hst => ?_⟩
      dsimp only
      split
      · rfl
      · exact hrevoked hst
    · exact .inr hhistory

theorem adoptStanding_adopts (d : Devices) (file : StandingMap) : Adopts (some file) (d.adoptStanding file) where
  adopted := by
    intro f id st hf hst
    obtain rfl := Option.some.inj hf
    cases hstatic : d.ownerDevices.get? id with
    | some device =>
        refine .inl ⟨{ device with generation := st.generation, revokedAt := st.revokedAt }, ?_, fun h => h⟩
        simp only [adoptStanding, JsMap.get?_mapVal, hstatic, Option.map_some, hst]
    | none =>
        refine .inr ?_
        simp [adoptStanding, JsMap.get?_filter, hst, JsMap.has, hstatic]

theorem adoptStanding_names {file : StandingMap}
    (hstatic : ∀ id device, d.ownerDevices.get? id = some device → isCeremonyId id = false) {id : JsString}
    {device : EnrolledOwnerDevice} (hget : (d.adoptStanding file).ownerDevices.get? id = some device) :
    isCeremonyId id = false ∧ (d.adoptStanding file).unenrolledStanding.get? id = none := by
  simp only [adoptStanding, JsMap.get?_mapVal, Option.map_eq_some_iff] at hget
  obtain ⟨old, hold, -⟩ := hget
  refine ⟨hstatic id old hold, ?_⟩
  simp only [adoptStanding, JsMap.get?_filter, JsMap.has, hold]
  cases file.get? id <;> rfl

/-- The history of a boot is what the file has. -/
theorem adoptStanding_history {file : StandingMap} {id : JsString} {st : DeviceStanding}
    (h : (d.adoptStanding file).unenrolledStanding.get? id = some st) : file.get? id = some st :=
  JsMap.get?_of_filter h

/-- A boot without a standing file it can trust revokes every static device. -/
theorem distrustStanding_revoked {id : JsString} {device : EnrolledOwnerDevice}
    (h : d.distrustStanding.ownerDevices.get? id = some device) :
    device.revokedAt.isSome = true ∧ ∃ old, d.ownerDevices.get? id = some old := by
  simp only [distrustStanding, JsMap.get?_mapVal, Option.map_eq_some_iff] at h
  obtain ⟨old, hold, rfl⟩ := h
  exact ⟨rfl, old, hold⟩

end Devices

/-- How a boot can go. -/
inductive BootCase (parseSpki : JsString → Option JsString) (opts : BootOptions) (registryFile : DeviceTable)
    (standingFile : Option StandingMap) : BootResult → Prop where
  /-- It refuses the keys file. -/
  | refused : BootCase parseSpki opts registryFile standingFile ⟨none, registryFile, none⟩
  /-- It has no standing path, or no producer of standing, or cannot trust what it read. -/
  | silent {d} (boots : Boots parseSpki opts registryFile standingFile d)
      (why : opts.standingStore = false ∨
        (d.ownerDevices.size = 0 ∧ d.enrolledDevices = .unconfigured ∧ d.unenrolledStanding = .empty) ∨
        opts.read = .corrupt) :
      BootCase parseSpki opts registryFile standingFile ⟨some d, (opts.registry.initializeFrom registryFile).2, none⟩
  /-- It publishes, or fails to, and starts if what it published is durable. -/
  | persisted {d} (boots : Boots parseSpki opts registryFile standingFile d) (adopts : Adopts standingFile d)
      (store : opts.standingStore = true) (read : opts.read = .sound) :
      BootCase parseSpki opts registryFile standingFile
        ⟨if (d.persistStanding opts.save).1.durable then some d else none,
          (opts.registry.initializeFrom registryFile).2,
          (d.persistStanding opts.save).2.map (⟨·, d⟩)⟩

/-- What a boot comes to. -/
theorem boot_cases (parseSpki : JsString → Option JsString) (opts : BootOptions) (registryFile : DeviceTable)
    (standingFile : Option StandingMap) :
    BootCase parseSpki opts registryFile standingFile (boot parseSpki opts registryFile standingFile) := by
  unfold boot
  cases hkeys : staticDevices parseSpki opts.ownerDeviceKeys with
  | none => exact .refused
  | some ownerDevices =>
      dsimp only
      have hnames : ∀ id device, ownerDevices.get? id = some device → isCeremonyId id = false :=
        fun id device hget => staticDevices_names hkeys hget
      split
      · rename_i hstore
        apply BootCase.silent _ (.inl (by simpa using hstore))
        exact Devices.reconciled_boots rfl rfl (fun id device hget => ⟨hnames id device hget, rfl⟩)
          (fun id st hst => by cases hst)
      · rename_i hstore
        split
        · rename_i hidle
          rw [Bool.and_eq_true, decide_eq_true_eq] at hidle
          have hnone : ∀ id, ownerDevices.get? id = none := JsMap.get?_of_size_eq_zero hidle.1
          apply BootCase.silent
          · refine ⟨rfl, rfl, fun id device hget => ?_, fun id device _ _ hget => ?_, fun id st hst => by cases hst⟩
            · rw [hnone id] at hget
              cases hget
            · rw [hnone id] at hget
              cases hget
          · refine .inr (.inl ⟨hidle.1, ?_, rfl⟩)
            cases hreg : opts.registry <;> simp_all [RegistryBoot.initializeFrom, RegistryBoot.isConfigured]
        · split
          · rename_i hread
            apply BootCase.silent _ (.inr (.inr hread))
            refine ⟨rfl, rfl, fun id device hget => ?_, fun id device _ _ hget hactive => ?_,
              fun id st hst => by cases hst⟩
            · obtain ⟨old, hold⟩ := (Devices.distrustStanding_revoked hget).2
              exact ⟨hnames id old hold, rfl⟩
            · have hrevoked := (Devices.distrustStanding_revoked hget).1
              rw [hactive] at hrevoked
              cases hrevoked
          · rename_i hread
            apply BootCase.persisted _ _ (by simpa using hstore) hread
            · cases standingFile with
              | none =>
                  exact Devices.reconciled_boots rfl rfl (fun id device hget => ⟨hnames id device hget, rfl⟩)
                    (fun id st hst => by cases hst)
              | some file =>
                  exact Devices.reconciled_boots rfl rfl
                    (fun id device hget => Devices.adoptStanding_names hnames hget)
                    (fun id st hst => ⟨file, rfl, Devices.adoptStanding_history hst⟩)
            · cases standingFile with
              | none => exact Devices.reconciled_adopts opts.now ⟨fun f id st hf => by cases hf⟩
              | some file => exact Devices.reconciled_adopts opts.now (Devices.adoptStanding_adopts _ file)

end Boot

end OwnerSwitch
