/-
Module: OwnerSwitch.ControlPlane.StandingFile
Layer: ControlPlane
Purpose: The standing file and what it is composed of: the loader of the keys file, the static devices of a boot, the
  history that the file held, the records of the ceremony registry; the file that is written for them, and the strict
  loader of it.
Imports: ControlPlane.DeviceStanding, ControlPlane.DeviceRegistry, ControlPlane.RegistryCodec
Trusted boundary: the strict SPKI parser is a parameter; a save whose boundary is wrong counts as not durable
Main exports: loadOwnerDeviceKeysFile, StandingSources.composeStanding, StandingSources.persistStanding,
  DeviceStandingFileStore.load, asPersistedDeviceStanding, StandingSources.Held
Open obligations: none
-/
import OwnerSwitch.ControlPlane.DeviceStanding
import OwnerSwitch.ControlPlane.DeviceRegistry
import OwnerSwitch.ControlPlane.RegistryCodec

namespace OwnerSwitch

/-- `out[k] = v` on a plain object. An assignment to `__proto__` makes no property. -/
def assignProperty {α : Type} (out : JsMap JsString α) (k : JsString) (v : α) : JsMap JsString α :=
  if k = js "__proto__" then out else out.set k v

/-! ### The keys file -/

/-- The strict parser of a key text: its canonical SPKI, the error it throws otherwise, and the PEM of an SPKI. -/
structure SpkiParser where
  parse : JsString → Option JsString
  error : JsString → JsString → JsString
  pem : JsString → JsString

/-- `MAX_KEYS_FILE_BYTES` -/
def maxKeysFileBytes : Nat := 256 * 1024

/-- The PEM that is kept of one entry of the keys file. -/
def ownerDeviceKey (parser : SpkiParser) (deviceId : JsString) (spki : Json) : Except JsString JsString :=
  if deviceId = [] ∨ 0x3A ∈ deviceId then
    .error (js "owner device id " ++ Json.quote deviceId ++ js " is invalid (non-empty, no \":\")")
  else
    match spki.str? with
    | none => .error (js "owner device \"" ++ deviceId ++ js "\" has no SPKI public key string")
    | some spki =>
        if spki = [] then .error (js "owner device \"" ++ deviceId ++ js "\" has no SPKI public key string")
        else
          match parser.parse spki with
          | none => .error (parser.error deviceId spki)
          | some key => .ok (parser.pem key)

/-- The keys of the entries, in their order. -/
def ownerDeviceKeys (parser : SpkiParser) (out : JsMap JsString JsString) :
    List (JsString × Json) → Except JsString (JsMap JsString JsString)
  | [] => .ok out
  | (deviceId, spki) :: rest =>
      match ownerDeviceKey parser deviceId spki with
      | .error message => .error message
      | .ok pem => ownerDeviceKeys parser (assignProperty out deviceId pem) rest

/-- `loadOwnerDeviceKeysFile`, of a file that passes the checks of its path, owner and mode. -/
def loadOwnerDeviceKeysFile (parser : SpkiParser) (realPath : JsString) (syntaxMessage : JsString → JsString)
    (bytes : Bytes) : Except JsString (JsMap JsString JsString) :=
  if maxKeysFileBytes < bytes.length then .error (js "owner device keys file \"" ++ realPath ++ js "\" is too large")
  else
    match Json.parse (Utf8.decode bytes) with
    | none =>
        .error (js "owner device keys file \"" ++ realPath ++ js "\" is not valid JSON: "
          ++ syntaxMessage (Utf8.decode bytes))
    | some parsed =>
        match parsed.fields? with
        | none =>
            .error (js "owner device keys file \"" ++ realPath
              ++ js "\" must be a JSON object of deviceId → SPKI PEM")
        | some entries => ownerDeviceKeys parser .empty entries

/-! ### The standing file -/

/-- `MAX_DEVICE_STANDING_FILE_BYTES` -/
def maxDeviceStandingFileBytes : Nat := 256 * 1024

structure PersistedDeviceStanding where
  version : Nat
  devices : StandingMap

def DeviceStanding.fields (standing : DeviceStanding) : List (JsString × Option Json) :=
  [(js "generation", some (.num (.ofInt standing.generation))),
   (js "revokedAt", some (RegistryFile.timeJson standing.revokedAt)),
   (js "spki", standing.spki.map .str)]

def DeviceStanding.toJson (standing : DeviceStanding) : Json :=
  .obj (Json.present standing.fields)

def PersistedDeviceStanding.toJson (s : PersistedDeviceStanding) : Json :=
  .obj
    [(js "version", .num (.ofInt s.version)),
     (js "devices", Json.table DeviceStanding.toJson s.devices)]

/-- The octets `save` writes. -/
def PersistedDeviceStanding.fileBytes (s : PersistedDeviceStanding) : Bytes :=
  Utf8.encode (Json.stringifyIndented s.toJson ++ [0x0A])

/-- The properties of an entry. -/
def standingKeys : List JsString :=
  [js "generation", js "revokedAt", js "spki"]

/-- The ids of a standing file. -/
def isStandingId (deviceId : JsString) : Bool :=
  deviceId ≠ [] && 0x3A ∉ deviceId && deviceId ∉ RegistryFile.forbiddenDeviceIds

/-- `/^[A-Za-z0-9_-]+$/` -/
def isBase64urlText (s : JsString) : Bool :=
  s ≠ [] && s.all fun u => (Base64url.value u).isSome

/-- The key of an entry, checked for its shape only; a file of version 1 has none. -/
def asStandingSpki (version : Nat) (v : Json) : Option JsString :=
  if version = 2 then v.str?.filter isBase64urlText else none

/-- One entry of the device table. -/
def asStanding (version : Nat) (deviceId : JsString) (v : Json) : Option DeviceStanding := do
  guard (isStandingId deviceId = true)
  let fs ← v.fields?
  guard (fs.all fun f => standingKeys.contains f.1)
  let generation ← v.property (js "generation") RegistryFile.asGeneration
  let revokedAt ← v.property (js "revokedAt") RegistryFile.asTime
  let spki ← Json.readOptional (asStandingSpki version) (v.get (js "spki"))
  some { generation, revokedAt, spki }

/-- `1 | 2` -/
def asStandingVersion (v : Json) : Option Nat :=
  (Json.safeNat? v).filter fun n => n = 1 || n = 2

/-- The properties of a standing file. -/
def standingFileKeys : List JsString :=
  [js "version", js "devices"]

/-- `asPersistedDeviceStanding` -/
def asPersistedDeviceStanding (v : Json) : Option PersistedDeviceStanding := do
  let fs ← v.fields?
  guard (fs.all fun f => standingFileKeys.contains f.1)
  let version ← v.property (js "version") asStandingVersion
  let devices ← v.property (js "devices") (Json.readTable (asStanding version))
  some { version, devices := .ofList devices }

/-- The standing file and its marker. -/
structure StandingFiles where
  content : Option Bytes
  marker : Bool

/-- What the file system makes of a load: it refuses it before the content is read, or lets it read everything. A
    marker that is missing may be established then. -/
inductive StandingLoadFate where
  | refused (detail : JsString)
  | read (marked : Bool)

inductive DeviceStandingLoad where
  | absent
  | loaded (state : PersistedDeviceStanding)
  | corrupt (detail : JsString)

structure DeviceStandingFileStore where
  filePath : JsString
  /-- the message of the error `JSON.parse` throws on a text -/
  syntaxMessage : JsString → JsString

namespace DeviceStandingFileStore

variable (store : DeviceStandingFileStore)

/-- The content of a standing file, as `load` reads it. -/
def interpret (bytes : Bytes) : DeviceStandingLoad :=
  if maxDeviceStandingFileBytes < bytes.length then
    .corrupt (store.filePath ++ js " exceeds the 262144-byte standing limit — refusing to read it")
  else
    match Json.parse (Utf8.decode bytes) with
    | none => .corrupt (js "cannot parse " ++ store.filePath ++ js ": " ++ store.syntaxMessage (Utf8.decode bytes))
    | some parsed =>
        match asPersistedDeviceStanding parsed with
        | none => .corrupt (js "unexpected shape in " ++ store.filePath)
        | some state => .loaded state

def load (fate : StandingLoadFate) (files : StandingFiles) : DeviceStandingLoad × StandingFiles :=
  match fate with
  | .refused detail => (.corrupt detail, files)
  | .read marked =>
      match files.content with
      | none =>
          if files.marker then
            (.corrupt (store.filePath ++ js " is missing but the store is initialised (" ++ store.filePath
              ++ js ".initialized exists) — deleting the standing file must not resurrect a revoked device"), files)
          else (.absent, files)
      | some bytes =>
          match store.interpret bytes with
          | .loaded state => (.loaded state, { files with marker := files.marker || marked })
          | result => (result, files)

/-- `save`: what is published is not checked. -/
def save (state : PersistedDeviceStanding) (fate : PublishFate) (files : StandingFiles) : Persisted × StandingFiles :=
  match fate with
  | .durable => (⟨true, none⟩, ⟨some state.fileBytes, true⟩)
  | .unproven detail => (⟨false, some detail⟩, ⟨some state.fileBytes, true⟩)
  | .failed message marked => (⟨false, some message⟩, { files with marker := files.marker || marked })
  | .torn message _ => (⟨false, some message⟩, ⟨some state.fileBytes, true⟩)

end DeviceStandingFileStore

/-! ### The process -/

/-- What the control plane composes the standing file of. `enrolledDevices` is what a registry that is usable
    serves. -/
structure StandingSources where
  unenrolledStanding : StandingMap
  ownerDevices : JsMap JsString EnrolledOwnerDevice
  enrolledDevices : Option RegistryFile.PersistedEnrolledDevices

/-- A ceremony entry of the history is exported revoked, whatever it was. -/
def tombstone (deviceId : JsString) (standing : DeviceStanding) : DeviceStanding :=
  if standing.spki.isSome || isCeremonyId deviceId then
    { standing with revokedAt := some (standing.revokedAt.getD (.ofInt 0)) }
  else standing

def EnrolledOwnerDevice.standing (device : EnrolledOwnerDevice) : DeviceStanding where
  generation := device.generation
  revokedAt := device.revokedAt
  spki := none

/-- The standing of a record, with its cheap-lane key. -/
def RegistryFile.PersistedEnrolledDevice.standing (record : RegistryFile.PersistedEnrolledDevice) : DeviceStanding where
  generation := record.generation
  revokedAt := record.revokedAt
  spki := some record.cheapLaneKeySpki

namespace StandingSources

variable (s : StandingSources)

/-- `list()` of a registry that is usable. -/
def records : List RegistryFile.PersistedEnrolledDevice :=
  match s.enrolledDevices with
  | none => []
  | some registry => registry.devices.values

/-- The `devices` that `persistStanding` saves: history first, then the static devices, then the registry. -/
def composeStanding : StandingMap :=
  let devices := s.unenrolledStanding.entries.foldl (fun out e => assignProperty out e.1 (tombstone e.1 e.2)) .empty
  let devices := s.ownerDevices.entries.foldl (fun out e => assignProperty out e.1 e.2.standing) devices
  s.records.foldl (fun out record => assignProperty out record.deviceId record.standing) devices

def persistStanding (standingStore : Option DeviceStandingFileStore) (fate : PublishFate) (files : StandingFiles) :
    Persisted × StandingFiles :=
  match standingStore with
  | none => (⟨false, some (js "no standing registry configured (dev)")⟩, files)
  | some _ => DeviceStandingFileStore.save ⟨2, s.composeStanding⟩ fate files

/-- The sources after the standing file was loaded at a boot. -/
def ofLoad (ownerDevices : JsMap JsString EnrolledOwnerDevice)
    (enrolledDevices : Option RegistryFile.PersistedEnrolledDevices) : DeviceStandingLoad → StandingSources
  | .absent => { unenrolledStanding := .empty, ownerDevices, enrolledDevices }
  | .corrupt _ =>
      { unenrolledStanding := .empty, ownerDevices := ownerDevices.mapVal fun _ device => device.sever 0,
        enrolledDevices }
  | .loaded state =>
      { unenrolledStanding := state.devices.filter fun deviceId _ => !ownerDevices.has deviceId
        ownerDevices := ownerDevices.mapVal fun deviceId device =>
          match state.devices.get? deviceId with
          | some standing => { device with generation := standing.generation, revokedAt := standing.revokedAt }
          | none => device
        enrolledDevices }

/-- A static device revoked. -/
def sever (staticId : JsString) (device : EnrolledOwnerDevice) (now : Int) : StandingSources :=
  { s with ownerDevices := s.ownerDevices.set staticId (device.sever now) }

/-- A state that a registry may serve: the contents of a file that the strict validator accepts. -/
def Servable (isSpkiDer : Bytes → Bool) (state : RegistryFile.PersistedEnrolledDevices) : Prop :=
  ∃ v read, RegistryFile.asPersistedEnrolledDevices isSpkiDer RegistryFile.maxOwners v = some read ∧
    RegistryFile.Same read state

/-- What a process can hold: the static devices of a keys file under the standing that a boot loaded, any of them
    revoked since, and a registry that serves anything it may, or nothing. -/
inductive Held (parser : SpkiParser) (isSpkiDer : Bytes → Bool) : StandingSources → Prop where
  | boot {realPath syntaxMessage bytes keys ownerDevices enrolledDevices store fate files loaded files'}
      (keysFile : loadOwnerDeviceKeysFile parser realPath syntaxMessage bytes = .ok keys)
      (accepted : staticDevices parser.parse keys = some ownerDevices)
      (history : DeviceStandingFileStore.load store fate files = (loaded, files'))
      (served : ∀ state ∈ enrolledDevices, Servable isSpkiDer state) :
      Held parser isSpkiDer (ofLoad ownerDevices enrolledDevices loaded)
  | sever {s staticId device} (now : Int) (held : Held parser isSpkiDer s)
      (listed : s.ownerDevices.get? staticId = some device) : Held parser isSpkiDer (s.sever staticId device now)
  | registry {s enrolledDevices} (held : Held parser isSpkiDer s)
      (served : ∀ state ∈ enrolledDevices, Servable isSpkiDer state) :
      Held parser isSpkiDer { s with enrolledDevices }

end StandingSources

end OwnerSwitch
