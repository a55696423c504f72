/-
Module: OwnerSwitch.ControlPlane.RegistryRoundTrip
Layer: ControlPlane
Purpose: What a boot reads of a registry file: the state a durable save was of, and for a file of the version before
  owner handles the state that the migration serves.
Imports: ControlPlane.RegistrySteps
Trusted boundary: none beyond ControlPlane.DeviceRegistry
Main exports: save_load, MigratesTo, Migration, registry_round_trip
Open obligations: none
-/
import OwnerSwitch.ControlPlane.RegistrySteps

namespace OwnerSwitch

open RegistryFile EnrolledDeviceFileStore

/-! ### What a legacy file has -/

namespace RegistryFile

/-- What holds of every registry that is read from a file of version 1. -/
structure LegacyAccepted (isSpkiDer : Bytes → Bool) (legacy : LegacyState) : Prop where
  generation : asGeneration (.num (.ofInt legacy.bootstrapGeneration)) = some legacy.bootstrapGeneration
  devices : ∀ id d, legacy.devices.get? id = some d → asDevice isSpkiDer id d.toJson = some d
  credentials : (legacy.devices.entries.map (·.2.credentialId)).Nodup
  cheapLaneKeys : (legacy.devices.entries.map (·.2.cheapLaneKeySpki)).Nodup
  active : activeDevices legacy.devices.entries ≤ maxActiveDevices
  owners : ∀ e ∈ legacy.devices.entries,
    e.2.ownerId ≠ [] ∧ e.2.ownerId.length ≤ 256 ∧ e.2.ownerId ∉ forbiddenDeviceIds

section Read

variable {isSpkiDer : Bytes → Bool}

theorem asOwnerHandle_named {ownerId : JsString} {v : Json} {h : OwnerHandle}
    (hread : asOwnerHandle ownerId v = some h) :
    ownerId ≠ [] ∧ ownerId.length ≤ 256 ∧ ownerId ∉ forbiddenDeviceIds := by
  simp only [asOwnerHandle, Option.bind_eq_bind, Option.bind_eq_some_iff, Option.guard_eq_some', exists_const] at hread
  exact hread.1

/-- The records of a device table that is read from a parsed value. -/
theorem readTable_asDevice {v : Json} (hv : Json.Normal v) {records : List (JsString × PersistedEnrolledDevice)}
    (h : Json.readTable (asDevice isSpkiDer) v = some records) :
    (records.map Prod.fst).Nodup ∧ ∀ e ∈ records, asDevice isSpkiDer e.1 e.2.toJson = some e.2 := by
  obtain ⟨fs, hfields, -⟩ := Option.bind_eq_some_iff.mp h
  cases v with
  | obj entries =>
      obtain ⟨hkeys, hvalues⟩ := Json.of_readTable h
      constructor
      · rw [hkeys]
        exact hv.nodup
      · intro e he
        obtain ⟨w, -, hread⟩ := hvalues e he
        exact asDevice_again hread
  | null => cases hfields
  | bool => cases hfields
  | num => cases hfields
  | str => cases hfields
  | arr => cases hfields

theorem asLegacyV1_accepted {placeholder : JsString → Draw 24} {v : Json} {legacy : LegacyState} (hv : Json.Normal v)
    (h : asLegacyV1 isSpkiDer placeholder v = some legacy) : LegacyAccepted isSpkiDer legacy := by
  simp only [asLegacyV1, Option.bind_eq_bind, Option.bind_eq_some_iff, Option.guard_eq_some', exists_const,
    Option.some.injEq] at h
  obtain ⟨fs, -, -, -, generation, -, devices, hdevices, upgraded, hupgraded, rfl⟩ := h
  obtain ⟨-, -, -, hgeneration, hrecords, hhandles, hcoherent⟩ := asPersistedEnrolledDevices_iff.mp hupgraded
  rename_i records handles
  obtain ⟨hnodup, hagain⟩ := readTable_asDevice (hv.get hdevices) hrecords
  have hentries : (JsMap.ofList records).entries = records := JsMap.entries_ofList hnodup
  constructor
  case generation => exact asGeneration_again hgeneration
  case devices =>
    intro id d hget
    have hmem := JsMap.get?_eq_some_iff.mp hget
    rw [hentries] at hmem
    exact hagain (id, d) hmem
  case credentials =>
    rw [hentries]
    exact hcoherent.credentials
  case cheapLaneKeys =>
    rw [hentries]
    exact hcoherent.cheapLaneKeys
  case active =>
    rw [hentries]
    exact hcoherent.active
  case owners =>
    -- a record is accepted only under an owner with a placeholder, and the placeholder was read under its owner's name
    rw [hentries]
    intro e he
    obtain ⟨owned, howned, hsame⟩ := List.mem_map.mp (hcoherent.owned e he)
    obtain ⟨-, hvalues⟩ := Json.of_readTable hhandles
    obtain ⟨w, -, hread⟩ := hvalues owned howned
    rw [← hsame]
    exact asOwnerHandle_named hread

end Read

end RegistryFile

/-! ### Round trip -/

namespace EnrolledDeviceFileStore

variable {store : EnrolledDeviceFileStore}

/-- A load that proves what it reads serves this state. -/
def ServesAgain (store : EnrolledDeviceFileStore) (disk : RegistryDisk) (state : PersistedEnrolledDevices) : Prop :=
  ∃ read, store.load .proven disk = (.loaded read, disk) ∧ Same read state

theorem Accepts.servesAgain {state : PersistedEnrolledDevices} (h : store.Accepts state) :
    ServesAgain store (.durably state.fileBytes) state := by
  obtain ⟨read, hload, hread⟩ := load_durably h
  exact ⟨read, hload, asPersistedEnrolledDevices_toJson hread⟩

/-- A state whose save is durable is loaded again. -/
theorem save_load {state : PersistedEnrolledDevices} {fate : PublishFate} {disk after : RegistryDisk}
    (h : store.save state fate disk = (.ok .durable, after)) : ServesAgain store after state := by
  have hsave := save_cases store state fate disk
  rw [h] at hsave
  cases hsave with
  | durable haccepted => exact haccepted.servesAgain

/-- A save is refused by the file system, or because the file would not be loaded. -/
theorem save_durable {state : PersistedEnrolledDevices} (h : store.Accepts state) (disk : RegistryDisk) :
    store.save state .durable disk = (.ok .durable, .durably state.fileBytes) := by
  obtain ⟨read, hread⟩ := h.valid
  simp only [save, if_neg (not_lt.mpr h.fits), parse_fileBytes, Option.bind_some, hread]
  rfl

/-- The legacy registry that a load served was read from the file. -/
theorem load_legacy {fate : LoadFate} {disk after : RegistryDisk} {legacy : LegacyState}
    (h : store.load fate disk = (.legacyV1 legacy, after)) :
    ∃ bytes, store.interpret bytes = .legacyV1 legacy ∧ after = .durably bytes := by
  have hload := load_cases store fate disk
  rw [h] at hload
  cases hload with
  | legacy hcontent hread => exact ⟨_, hread, rfl⟩

theorem interpret_legacy {bytes : Bytes} {legacy : LegacyState} (h : store.interpret bytes = .legacyV1 legacy) :
    LegacyAccepted store.isSpkiDer legacy := by
  unfold interpret at h
  split at h
  · cases h
  · split at h
    · cases h
    · rename_i hparse
      split at h
      · cases h
      · split at h
        · rename_i hlegacy
          cases h
          exact asLegacyV1_accepted (Json.normal_of_parse hparse) hlegacy
        · cases h

end EnrolledDeviceFileStore

/-! ### Migration -/

namespace EnrolledDeviceRegistry

variable {store : EnrolledDeviceFileStore}

/-- A handle table for these owners. -/
structure Minted (named : List JsString) (owners : JsMap JsString OwnerHandle) : Prop where
  has : ∀ ownerId, owners.has ownerId = true ↔ ownerId ∈ named
  userIds : (owners.entries.map (·.2.userId)).Nodup
  canonical : ∀ ownerId owner, owners.get? ownerId = some owner → isCanonicalB64url owner.userId 16 64 = true

theorem minted_empty : Minted [] .empty where
  has := fun _ => by simp [JsMap.has]
  userIds := .nil
  canonical := nofun

/-- A random handle is canonical. -/
theorem canonical_text (draw : Draw 32) : isCanonicalB64url draw.text 16 64 = true := by
  unfold isCanonicalB64url Draw.text
  rw [Base64url.decode_encode]
  simp [draw.2]

theorem Minted.set {named : List JsString} {owners : JsMap JsString OwnerHandle} (h : Minted named owners)
    {ownerId : JsString} {draw : Draw 32} (hnew : owners.has ownerId = false)
    (hfree : draw.text ∉ owners.values.map OwnerHandle.userId) :
    Minted (ownerId :: named) (owners.set ownerId ⟨draw.text⟩) := by
  constructor
  case has =>
    intro id
    rw [JsMap.has_set, Bool.or_eq_true, decide_eq_true_eq, h.has, List.mem_cons]
  case userIds =>
    have hnot : ownerId ∉ owners.entries.map Prod.fst := by
      intro hmem
      rw [JsMap.mem_keys.mp hmem] at hnew
      cases hnew
    have hentries : (owners.set ownerId ⟨draw.text⟩).entries = owners.entries ++ [(ownerId, ⟨draw.text⟩)] :=
      JsMap.setEntry_new hnot
    rw [hentries, List.map_append, List.map_singleton]
    apply List.Nodup.append h.userIds (List.nodup_singleton _)
    intro userId hold hsame
    obtain rfl := List.mem_singleton.mp hsame
    apply hfree
    rw [JsMap.values, List.map_map]
    exact hold
  case canonical =>
    intro id owner hget
    rw [JsMap.get?_set] at hget
    split at hget
    · obtain rfl := Option.some.inj hget
      exact canonical_text draw
    · exact h.canonical id owner hget

theorem Minted.mono {named named' : List JsString} {owners : JsMap JsString OwnerHandle} (h : Minted named owners)
    (hsame : ∀ ownerId, ownerId ∈ named ↔ ownerId ∈ named') : Minted named' owners where
  has := fun ownerId => (h.has ownerId).trans (hsame ownerId)
  userIds := h.userIds
  canonical := h.canonical

theorem mintHandles_minted {handle : JsString → Draw 32} {rest named : List JsString}
    {owners minted : JsMap JsString OwnerHandle} (hstart : Minted named owners)
    (h : mintHandles handle owners rest = some minted) : Minted (named ++ rest) minted := by
  induction rest generalizing named owners with
  | nil =>
      obtain rfl := Option.some.inj h
      rw [List.append_nil]
      exact hstart
  | cons ownerId rest ih =>
      rw [mintHandles] at h
      split at h
      · rename_i hheld
        apply (ih hstart h).mono
        intro id
        have hmem := (hstart.has ownerId).mp hheld
        grind
      · rename_i hnew
        split at h
        · cases h
        · rename_i hfree
          apply (ih (hstart.set (Bool.eq_false_iff.mpr hnew) hfree) h).mono
          intro id
          grind

/-- The handles are as many as the distinct owners. -/
theorem Minted.length_le {named : List JsString} {owners : JsMap JsString OwnerHandle} (h : Minted named owners) :
    owners.entries.length ≤ named.dedup.length := by
  have hsub : owners.entries.map Prod.fst ⊆ named.dedup := by
    intro ownerId hmem
    exact List.mem_dedup.mpr ((h.has ownerId).mp (JsMap.mem_keys.mp hmem))
  have hle := (List.subperm_of_subset owners.nodup hsub).length_le
  rwa [List.length_map] at hle

/-- The draws of a run in which every owner's loop ends with a handle of its own. -/
def DistinctDraws (handle : JsString → Draw 32) (named : List JsString) : Prop :=
  ∀ a ∈ named, ∀ b ∈ named, (handle a).text = (handle b).text → a = b

theorem mintHandles_isSome {handle : JsString → Draw 32} {rest : List JsString} {owners : JsMap JsString OwnerHandle}
    {named : List JsString} (hnamed : ∀ ownerId owner, owners.get? ownerId = some owner →
      ownerId ∈ named ∧ owner.userId = (handle ownerId).text)
    (hrest : rest ⊆ named) (hdraws : DistinctDraws handle named) : (mintHandles handle owners rest).isSome = true := by
  induction rest generalizing owners with
  | nil => rfl
  | cons ownerId rest ih =>
      have hmem : ownerId ∈ named := hrest List.mem_cons_self
      have htail : rest ⊆ named := fun id hid => hrest (List.mem_cons_of_mem _ hid)
      rw [mintHandles]
      split
      · exact ih hnamed htail
      · rename_i hnew
        split
        · rename_i htaken
          obtain ⟨owner, howner, hsame⟩ := List.mem_map.mp htaken
          obtain ⟨id, hget⟩ := JsMap.mem_values.mp howner
          obtain ⟨hid, htext⟩ := hnamed id owner hget
          obtain rfl := hdraws id hid ownerId hmem (htext.symm.trans hsame)
          exact absurd (JsMap.has_iff.mpr ⟨owner, hget⟩) hnew
        · apply ih _ htail
          intro id owner hget
          rw [JsMap.get?_set] at hget
          split at hget
          · rename_i hid
            obtain rfl := hid
            obtain rfl := Option.some.inj hget
            exact ⟨hmem, rfl⟩
          · exact hnamed id owner hget

/-- A state that a migration may serve: the records and the generation of the file, and one handle for each owner. -/
structure MigratesTo (legacy : LegacyState) (state : PersistedEnrolledDevices) : Prop where
  bootstrapGeneration : state.bootstrapGeneration = legacy.bootstrapGeneration
  devices : state.devices = legacy.devices
  owners : ∀ ownerId, (∃ owner, state.owners.get? ownerId = some owner) ↔ ownerId ∈ ownersOf legacy.devices
  userIds : ∀ a b owner, state.owners.get? a = some owner → state.owners.get? b = some owner → a = b

/-- Handles that differ are held by one owner each. -/
theorem Minted.unique {named : List JsString} {owners : JsMap JsString OwnerHandle} (h : Minted named owners)
    {a b : JsString} {owner : OwnerHandle} (ha : owners.get? a = some owner) (hb : owners.get? b = some owner) :
    a = b := by
  have hsame := List.inj_on_of_nodup_map h.userIds (JsMap.get?_eq_some_iff.mp ha) (JsMap.get?_eq_some_iff.mp hb) rfl
  exact congrArg Prod.fst hsame

theorem mem_ownersOf {devices : JsMap JsString RegistryFile.PersistedEnrolledDevice} {ownerId : JsString} :
    ownerId ∈ ownersOf devices ↔ ∃ e ∈ devices.entries, e.2.ownerId = ownerId := by
  rw [ownersOf, JsMap.values, List.map_map, List.mem_map]
  rfl

/-- The file of a migrated registry is refused only for its length. -/
theorem accepts_migrated {legacy : LegacyState} {owners : JsMap JsString OwnerHandle}
    (hlegacy : LegacyAccepted store.isSpkiDer legacy) (howners : Minted (ownersOf legacy.devices) owners)
    (hcount : (ownersOf legacy.devices).dedup.length ≤ maxOwners)
    (hfits : (PersistedEnrolledDevices.mk legacy.bootstrapGeneration legacy.devices owners).fileBytes.length
      ≤ maxEnrolledDevicesFileBytes) :
    store.Accepts ⟨legacy.bootstrapGeneration, legacy.devices, owners⟩ := by
  apply Accepts.mk hfits
  apply asPersistedEnrolledDevices_complete hlegacy.generation hlegacy.devices
  · intro ownerId owner hget
    obtain ⟨e, he, rfl⟩ := mem_ownersOf.mp ((howners.has ownerId).mp (JsMap.has_iff.mpr ⟨owner, hget⟩))
    exact asOwnerHandle_ok (hlegacy.owners e he) (howners.canonical _ _ hget)
  · constructor
    case credentials => exact hlegacy.credentials
    case cheapLaneKeys => exact hlegacy.cheapLaneKeys
    case active => exact hlegacy.active
    case userIds => exact howners.userIds
    case ceiling => exact howners.length_le.trans hcount
    case owned =>
      intro e he
      exact JsMap.mem_keys.mpr ((howners.has _).mpr (mem_ownersOf.mpr ⟨e, he, rfl⟩))

/-- How a boot over a file of version 1 goes, on a file system that refuses nothing: the migrated registry is served,
    now and after every restart, unless its file is over the limit of a load. -/
inductive Migration (store : EnrolledDeviceFileStore) (legacy : LegacyState) :
    Except JsString Unit × EnrolledDeviceRegistry → Prop where
  | served {after state} (migrates : MigratesTo legacy state) (memory : after.state = some state)
      (again : ServesAgain store after.disk state) : Migration store legacy (.ok (), after)
  | oversized {after state message} (migrates : MigratesTo legacy state) (memory : after.state = none)
      (exceeds : maxEnrolledDevicesFileBytes < state.fileBytes.length) : Migration store legacy (.error message, after)

theorem migration {registry : EnrolledDeviceRegistry} {load : LoadFate} {disk : RegistryDisk} {legacy : LegacyState}
    {handle : JsString → Draw 32} {result : Except JsString Unit × EnrolledDeviceRegistry}
    (hload : store.load load registry.disk = (.legacyV1 legacy, disk))
    (hcount : (ownersOf legacy.devices).dedup.length ≤ maxOwners)
    (h : registry.initializeRegistry store handle load .durable = some result) : Migration store legacy result := by
  obtain ⟨bytes, hread, -⟩ := load_legacy hload
  have hlegacy := interpret_legacy hread
  simp only [initializeRegistry, hload, if_neg (not_lt.mpr hcount)] at h
  obtain ⟨owners, hminted, rfl⟩ := Option.map_eq_some_iff.mp h
  have howners : Minted (ownersOf legacy.devices) owners := mintHandles_minted minted_empty hminted
  have hmigrates : MigratesTo legacy ⟨legacy.bootstrapGeneration, legacy.devices, owners⟩ := by
    constructor
    · rfl
    · rfl
    · intro ownerId
      rw [← howners.has, JsMap.has_iff]
    · intro a b owner ha hb
      exact howners.unique ha hb
  rcases Nat.lt_or_ge maxEnrolledDevicesFileBytes
    (PersistedEnrolledDevices.mk legacy.bootstrapGeneration legacy.devices owners).fileBytes.length with hover | hfits
  · simp only [publishFirst, save, if_pos hover]
    exact .oversized hmigrates rfl hover
  · have haccepts := accepts_migrated hlegacy howners hcount hfits
    simp only [publishFirst, save_durable haccepts]
    exact .served hmigrates rfl haccepts.servesAgain

/-- Every boot over such a file ends. -/
theorem migration_ends {registry : EnrolledDeviceRegistry} {load : LoadFate} {disk : RegistryDisk}
    {legacy : LegacyState} {handle : JsString → Draw 32} (fate : PublishFate)
    (hload : store.load load registry.disk = (.legacyV1 legacy, disk))
    (hdraws : DistinctDraws handle (ownersOf legacy.devices)) :
    (registry.initializeRegistry store handle load fate).isSome = true := by
  simp only [initializeRegistry, hload]
  split
  · rfl
  · rw [Option.isSome_map]
    exact mintHandles_isSome nofun (List.Subset.refl _) hdraws

/-- What is saved durably is loaded again, and what is read of a file of version 1 is served and loaded again as the
    registry it migrates to. -/
theorem registry_round_trip (store : EnrolledDeviceFileStore) :
    (∀ (state : PersistedEnrolledDevices) (fate : PublishFate) (disk after : RegistryDisk),
      store.save state fate disk = (.ok .durable, after) → ServesAgain store after state) ∧
    ∀ (registry : EnrolledDeviceRegistry) (load : LoadFate) (disk : RegistryDisk) (legacy : LegacyState)
      (handle : JsString → Draw 32),
      store.load load registry.disk = (.legacyV1 legacy, disk) →
      (ownersOf legacy.devices).dedup.length ≤ maxOwners →
      DistinctDraws handle (ownersOf legacy.devices) →
      ∃ result, registry.initializeRegistry store handle load .durable = some result ∧
        Migration store legacy result := by
  constructor
  · intro state fate disk after hsave
    exact save_load hsave
  · intro registry load disk legacy handle hload hcount hdraws
    obtain ⟨result, hresult⟩ := Option.isSome_iff_exists.mp (migration_ends .durable hload hdraws)
    exact ⟨result, hresult, migration hload hcount hresult⟩

/-! ### A file of version 1 -/

namespace LegacySample

/-- A revoked device; its keys are short. -/
def device (deviceId ownerId credentialId publicKeySpki cheapLaneKeySpki : JsString) :
    JsString × RegistryFile.PersistedEnrolledDevice :=
  (deviceId,
    { deviceId, ownerId, deviceName := js "phone", credentialId, publicKeySpki, cheapLaneKeySpki, signCount := 0,
      transports := none, userHandle := none, generation := 1, revokedAt := some (.ofInt 9), enrolledAt := .ofInt 5 })

/-- The devices of two owners. -/
def devices : List (JsString × RegistryFile.PersistedEnrolledDevice) :=
  [device (js "dev_1") (js "alice") (js "AQID") (js "AQIE") (js "AQIF"),
   device (js "dev_2") (js "bob") (js "AQIG") (js "AQIH") (js "AQII"),
   device (js "dev_3") (js "alice") (js "AQIJ") (js "AQIK") (js "AQIL")]

def file : Json :=
  .obj
    [(js "version", .num (.ofInt 1)), (js "bootstrapGeneration", .num (.ofInt 2)),
     (js "devices", .obj (devices.map fun (deviceId, device) => (deviceId, device.toJson)))]

def fileStore : EnrolledDeviceFileStore where
  filePath := js "devices.json"
  syntaxMessage := fun _ => []
  isSpkiDer := fun der => der.length = 3
  placeholder := fun ownerId => ⟨List.replicate 24 (UInt8.ofNat ownerId.length), List.length_replicate⟩

def registry : EnrolledDeviceRegistry where
  state := none
  corruptDetail := none
  invites := ⟨.empty, defaultInviteTtlMs, defaultMaxInvites⟩
  disk := .durably (Utf8.encode (Json.stringify file))

/-- The handle that is drawn for an owner. -/
def handle (ownerId : JsString) : Draw 32 :=
  ⟨List.replicate 32 (UInt8.ofNat ownerId.length), List.length_replicate⟩

theorem load_registry : ∃ legacy disk, fileStore.load .proven registry.disk = (.legacyV1 legacy, disk) ∧
    legacy.devices.keys = devices.map Prod.fst ∧ ownersOf legacy.devices = [js "alice", js "bob", js "alice"] := by
  have hread : (match fileStore.load .proven registry.disk with
      | (.legacyV1 legacy, _) =>
          decide (legacy.devices.keys = devices.map Prod.fst ∧
            ownersOf legacy.devices = [js "alice", js "bob", js "alice"])
      | _ => false) = true := by
    decide +kernel
  split at hread
  · rename_i legacy disk hload
    exact ⟨legacy, disk, hload, of_decide_eq_true hread⟩
  · cases hread

theorem distinct_handles : DistinctDraws handle [js "alice", js "bob", js "alice"] := by
  unfold DistinctDraws
  decide +kernel

end LegacySample

open LegacySample in
/-- The three devices of two owners are migrated. -/
theorem registry_round_trip_sample : ∃ legacy disk result,
    fileStore.load .proven registry.disk = (.legacyV1 legacy, disk) ∧ legacy.devices.keys = devices.map Prod.fst ∧
      registry.initializeRegistry fileStore handle .proven .durable = some result ∧
        Migration fileStore legacy result := by
  obtain ⟨legacy, disk, hload, hdevices, howners⟩ := load_registry
  have hcount : (ownersOf legacy.devices).dedup.length ≤ maxOwners := by
    rw [howners]
    decide
  have hdraws : DistinctDraws handle (ownersOf legacy.devices) := howners ▸ distinct_handles
  obtain ⟨result, hresult, hmigration⟩ :=
    (registry_round_trip fileStore).2 registry .proven disk legacy handle hload hcount hdraws
  exact ⟨legacy, disk, result, hload, hdevices, hresult, hmigration⟩

open LegacySample in
example : (registry.initializeRegistry fileStore handle .proven .durable).map
      (fun r => r.2.state.map fun s => (s.bootstrapGeneration, s.devices.keys, s.owners.keys)) =
    some (some (2, devices.map Prod.fst, [js "alice", js "bob"])) := by
  decide +kernel

end EnrolledDeviceRegistry

end OwnerSwitch
