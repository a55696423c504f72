/-
Module: OwnerSwitch.ControlPlane.RegistryFile
Layer: ControlPlane
Purpose: The file of the ceremony registry: the records in full, what is written for a state, and the strict
  validator of what is read, with its rules across records and the shape of the version before owner handles.
Imports: Lib.JsonCodec, ControlPlane.Enrollment, ControlPlane.EnrolledDevices
Trusted boundary: whether octets are the SPKI DER of a P-256 key is a parameter
Main exports: RegistryFile.PersistedEnrolledDevices, RegistryFile.toJson, RegistryFile.asPersistedEnrolledDevices,
  RegistryFile.asLegacyV1, RegistryFile.fileBytes
Open obligations: none
-/
import OwnerSwitch.Lib.JsonCodec
import OwnerSwitch.ControlPlane.Enrollment
import OwnerSwitch.ControlPlane.EnrolledDevices

namespace OwnerSwitch

namespace RegistryFile

/-! ### Records -/

/-- One enrolled device, exactly as persisted. -/
structure PersistedEnrolledDevice where
  deviceId : JsString
  ownerId : JsString
  deviceName : JsString
  credentialId : JsString
  publicKeySpki : JsString
  cheapLaneKeySpki : JsString
  signCount : Nat
  transports : Option (List JsString)
  userHandle : Option JsString
  generation : Nat
  revokedAt : Option Decimal
  enrolledAt : Decimal
  deriving DecidableEq, Repr

/-- The opaque WebAuthn user handle of an owner. -/
structure OwnerHandle where
  userId : JsString
  deriving DecidableEq, Repr

structure PersistedEnrolledDevices where
  bootstrapGeneration : Nat
  devices : JsMap JsString PersistedEnrolledDevice
  owners : JsMap JsString OwnerHandle

/-- `MAX_ENROLLED_DEVICES_FILE_BYTES` -/
def maxEnrolledDevicesFileBytes : Nat := 512 * 1024

/-- `MAX_OWNERS` -/
def maxOwners : Nat := 128

/-- `FORBIDDEN_DEVICE_IDS` -/
def forbiddenDeviceIds : List JsString :=
  [js "__proto__", js "constructor", js "prototype"]

/-! ### What is written -/

/-- A time, or null. -/
def timeJson : Option Decimal → Json
  | none => .null
  | some t => .num t

def PersistedEnrolledDevice.fields (d : PersistedEnrolledDevice) : List (JsString × Option Json) :=
  [(js "deviceId", some (.str d.deviceId)),
   (js "ownerId", some (.str d.ownerId)),
   (js "deviceName", some (.str d.deviceName)),
   (js "credentialId", some (.str d.credentialId)),
   (js "publicKeySpki", some (.str d.publicKeySpki)),
   (js "cheapLaneKeySpki", some (.str d.cheapLaneKeySpki)),
   (js "signCount", some (.num (.ofInt d.signCount))),
   (js "transports", d.transports.map fun ts => .arr (ts.map .str)),
   (js "userHandle", d.userHandle.map .str),
   (js "generation", some (.num (.ofInt d.generation))),
   (js "revokedAt", some (timeJson d.revokedAt)),
   (js "enrolledAt", some (.num d.enrolledAt))]

def PersistedEnrolledDevice.toJson (d : PersistedEnrolledDevice) : Json :=
  .obj (Json.present d.fields)

def OwnerHandle.toJson (h : OwnerHandle) : Json :=
  .obj [(js "userId", .str h.userId)]

def PersistedEnrolledDevices.toJson (s : PersistedEnrolledDevices) : Json :=
  .obj
    [(js "version", .num (.ofInt 2)),
     (js "bootstrapGeneration", .num (.ofInt s.bootstrapGeneration)),
     (js "devices", Json.table PersistedEnrolledDevice.toJson s.devices),
     (js "owners", Json.table OwnerHandle.toJson s.owners)]

/-- The octets `save` writes. -/
def PersistedEnrolledDevices.fileBytes (s : PersistedEnrolledDevices) : Bytes :=
  Utf8.encode (Json.stringifyIndented s.toJson ++ [0x0A])

/-! ### What is read -/

/-- A time, or null. -/
def asTime : Json → Option (Option Decimal)
  | .null => some none
  | .num t => some (some t)
  | _ => none

/-- A text of so many octets in canonical form. -/
def asB64url (minBytes maxBytes : Nat) (v : Json) : Option JsString :=
  v.str?.filter fun s => isCanonicalB64url s minBytes maxBytes

/-- A positive safe integer. -/
def asGeneration (v : Json) : Option Nat :=
  (Json.safeNat? v).filter (1 ≤ ·)

def asTransports : Json → Option (List JsString)
  | .arr ts => if 8 < ts.length then none else ts.mapM fun t => stringField (some t) 32
  | _ => none

/-- The properties of a device record. -/
def deviceKeys : List JsString :=
  [js "deviceId", js "ownerId", js "deviceName", js "credentialId", js "publicKeySpki", js "cheapLaneKeySpki",
    js "signCount", js "transports", js "userHandle", js "generation", js "revokedAt", js "enrolledAt"]

section Read

-- whether octets are the SPKI DER of a P-256 key, all of them
variable (isSpkiDer : Bytes → Bool)

/-- `storedSpkiToPem` accepts the text. -/
def isStoredSpki (publicKeySpki : JsString) : Bool :=
  match Base64url.decode publicKeySpki with
  | none => false
  | some der => der ≠ [] && isSpkiDer der

/-- One record of the device table. -/
def asDevice (deviceId : JsString) (v : Json) : Option PersistedEnrolledDevice := do
  guard (deviceId ≠ [] ∧ deviceId.length ≤ 128 ∧ deviceId ∉ forbiddenDeviceIds)
  let fs ← v.fields?
  guard (fs.all fun f => deviceKeys.contains f.1)
  guard (v.property (js "deviceId") Json.str? = some deviceId)
  let ownerId ← stringField (v.get (js "ownerId")) 256
  let deviceName ← stringField (v.get (js "deviceName")) 200
  let credentialId ← v.property (js "credentialId") (asB64url 1 1024)
  let publicKeySpki ← (v.property (js "publicKeySpki") Json.str?).filter (isStoredSpki isSpkiDer)
  let cheapLaneKeySpki ← (v.property (js "cheapLaneKeySpki") Json.str?).filter (isStoredSpki isSpkiDer)
  let signCount ← v.property (js "signCount") Json.safeNat?
  let transports ← Json.readOptional asTransports (v.get (js "transports"))
  let userHandle ← Json.readOptional (asB64url 1 64) (v.get (js "userHandle"))
  let generation ← v.property (js "generation") asGeneration
  let revokedAt ← v.property (js "revokedAt") asTime
  let enrolledAt ← v.property (js "enrolledAt") Json.num?
  some { deviceId, ownerId, deviceName, credentialId, publicKeySpki, cheapLaneKeySpki, signCount, transports,
         userHandle, generation, revokedAt, enrolledAt }

/-- One record of the owner table. -/
def asOwnerHandle (ownerId : JsString) (v : Json) : Option OwnerHandle := do
  guard (ownerId ≠ [] ∧ ownerId.length ≤ 256 ∧ ownerId ∉ forbiddenDeviceIds)
  let fs ← v.fields?
  guard (fs.all fun f => f.1 = js "userId")
  let userId ← v.property (js "userId") (asB64url 16 64)
  some { userId }

def activeDevices (records : List (JsString × PersistedEnrolledDevice)) : Nat :=
  records.countP fun e => e.2.revokedAt.isNone

/-- The rules across records. -/
structure Coherent (maxOwners : Nat) (records : List (JsString × PersistedEnrolledDevice))
    (handles : List (JsString × OwnerHandle)) : Prop where
  credentials : (records.map (·.2.credentialId)).Nodup
  cheapLaneKeys : (records.map (·.2.cheapLaneKeySpki)).Nodup
  active : activeDevices records ≤ maxActiveDevices
  userIds : (handles.map (·.2.userId)).Nodup
  ceiling : handles.length ≤ maxOwners
  owned : ∀ e ∈ records, e.2.ownerId ∈ handles.map (·.1)

instance (maxOwners : Nat) (records : List (JsString × PersistedEnrolledDevice))
    (handles : List (JsString × OwnerHandle)) : Decidable (Coherent maxOwners records handles) :=
  decidable_of_iff
    ((records.map (·.2.credentialId)).Nodup ∧ (records.map (·.2.cheapLaneKeySpki)).Nodup ∧
      activeDevices records ≤ maxActiveDevices ∧ (handles.map (·.2.userId)).Nodup ∧ handles.length ≤ maxOwners ∧
      ∀ e ∈ records, e.2.ownerId ∈ handles.map (·.1))
    ⟨fun ⟨h₁, h₂, h₃, h₄, h₅, h₆⟩ => ⟨h₁, h₂, h₃, h₄, h₅, h₆⟩,
      fun h => ⟨h.credentials, h.cheapLaneKeys, h.active, h.userIds, h.ceiling, h.owned⟩⟩

/-- The properties of a registry file. -/
def registryKeys : List JsString :=
  [js "version", js "bootstrapGeneration", js "devices", js "owners"]

/-- `asPersistedEnrolledDevices` -/
def asPersistedEnrolledDevices (maxOwners : Nat) (v : Json) : Option PersistedEnrolledDevices := do
  let fs ← v.fields?
  guard (fs.all fun f => registryKeys.contains f.1)
  guard (v.property (js "version") Json.num? = some (.ofInt 2))
  let bootstrapGeneration ← v.property (js "bootstrapGeneration") asGeneration
  let records ← v.property (js "devices") (Json.readTable (asDevice isSpkiDer))
  let handles ← v.property (js "owners") (Json.readTable asOwnerHandle)
  guard (Coherent maxOwners records handles)
  some { bootstrapGeneration, devices := .ofList records, owners := .ofList handles }

/-! ### The version before owner handles -/

/-- What `randomBytes` returned. -/
abbrev Draw (n : Nat) :=
  { bytes : Bytes // bytes.length = n }

/-- `randomBytes(n).toString("base64url")` -/
def Draw.text {n : Nat} (draw : Draw n) : JsString :=
  Base64url.encode draw.1

/-- The owners that the raw device records name and that can have a placeholder. -/
def namedOwners (devices : List (JsString × Json)) : List JsString :=
  devices.filterMap fun f => ((f.2.get (js "ownerId")).bind Json.str?).filter fun ownerId =>
    ownerId ≠ [] && !forbiddenDeviceIds.contains ownerId

/-- A placeholder for each named owner; `placeholder` is the draw that an owner's loop ended with. -/
def syntheticOwners (placeholder : JsString → Draw 24) (devices : List (JsString × Json)) :
    JsMap JsString OwnerHandle :=
  (namedOwners devices).foldl
    (fun owners ownerId => if owners.has ownerId then owners else owners.set ownerId ⟨(placeholder ownerId).text⟩)
      .empty

/-- A registry without its owner handles. -/
structure LegacyState where
  bootstrapGeneration : Nat
  devices : JsMap JsString PersistedEnrolledDevice

/-- The properties of a file of version 1. -/
def legacyKeys : List JsString :=
  [js "bootstrapGeneration", js "devices", js "version"]

/-- `asLegacyV1`: the shared validator over placeholders, without the ceiling on owners. -/
def asLegacyV1 (placeholder : JsString → Draw 24) (v : Json) : Option LegacyState := do
  let fs ← v.fields?
  guard ((fs.map Prod.fst).length = 3 ∧ ∀ k ∈ legacyKeys, k ∈ fs.map Prod.fst)
  guard (v.property (js "version") Json.num? = some (.ofInt 1))
  let bootstrapGeneration ← v.get (js "bootstrapGeneration")
  let devices ← v.get (js "devices")
  let owners := syntheticOwners placeholder (devices.fields?.getD [])
  let upgraded ← asPersistedEnrolledDevices isSpkiDer Json.maxSafeInteger.toNat
    (.obj
      [(js "version", .num (.ofInt 2)), (js "bootstrapGeneration", bootstrapGeneration), (js "devices", devices),
       (js "owners", Json.table OwnerHandle.toJson owners)])
  some { bootstrapGeneration := upgraded.bootstrapGeneration, devices := upgraded.devices }

end Read

end RegistryFile

end OwnerSwitch
