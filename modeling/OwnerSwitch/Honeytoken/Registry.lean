/-
Module: OwnerSwitch.Honeytoken.Registry
Layer: Honeytoken
Purpose: The registry of planted decoys (registry.ts): what it matches, the message its tag covers, the file it
  is written to and the checks of the loader, in their order.
Imports: Lib.JsTrim, Lib.JsonCodec, Lib.JsonSame, Lib.Octets, Honeytoken.Generate
Trusted boundary: HMAC-SHA-256 is a parameter whose digests are 32 octets; lower case is decided as far as a
  comparison with the ASCII words of the weak keys can tell
Main exports: HmacSha256, RegistryEntry, HoneytokenRegistry, loadRegistry
Open obligations: none
-/
import OwnerSwitch.Lib.JsTrim
import OwnerSwitch.Lib.JsonCodec
import OwnerSwitch.Lib.JsonSame
import OwnerSwitch.Lib.Octets
import OwnerSwitch.Honeytoken.Generate

namespace OwnerSwitch

/-- `createHmac("sha256", key).update(message).digest()` -/
structure HmacSha256 where
  digest : Bytes → Bytes → Bytes
  length_digest : ∀ key message, (digest key message).length = 32

/-- `MAC_DOMAIN` -/
def macDomain : JsString := js "ownerswitch-honeytoken-registry-v1"

/-- `MAX_REGISTRY_ENTRIES` -/
def maxRegistryEntries : Nat := 10000

/-- `MIN_KEY_LENGTH` -/
def minKeyLength : Nat := 24

/-- `WEAK_KEYS` -/
def weakKeys : List JsString :=
  [js "changeme", js "change-me", js "secret", js "password", js "passphrase", js "test", js "testing",
    js "example", js "sample", js "canary", js "canarykey", js "canary-key", js "honeytoken", js "deployment",
    js "default", js "devsecret", js "dev-secret", js "devicesecret", js "device-secret", js "your-secret",
    js "your-secret-here", js "your-canary-key", js "placeholder", js "todo", js "0123456789abcdef"]

/-! ### Keys and identities -/

/-- Lower case of a unit, where that is ASCII: a capital letter, or the Kelvin sign. -/
def lowerUnit (u : UInt16) : UInt16 :=
  if 0x41 ≤ u ∧ u ≤ 0x5A then u + 0x20 else if u = 0x212A then 0x6B else u

/-- `/^(.)\1*$/`: one unit, not a line terminator, over and over. -/
def isRepeatedUnit : JsString → Bool
  | [] => false
  | u :: s => !(u = 0x0A || u = 0x0D || u = 0x2028 || u = 0x2029) && s.all (· = u)

/-- What `requireCanaryKey` throws. -/
inductive CanaryKeyError where
  | required
  | tooShort (length : Nat)
  | weak
  | repeated
  | isDeploymentId
  deriving DecidableEq, Repr

def CanaryKeyError.message : CanaryKeyError → JsString
  | .required => js "a dedicated per-deployment canary key is required (there is no fallback to the device secret)"
  | .tooShort length =>
      js "canary key is too short (" ++ Json.natText length ++ js " chars) — use at least "
        ++ Json.natText minKeyLength ++ js " random characters"
  | .weak => js "canary key is a weak or sample value — provision a real random secret"
  | .repeated => js "canary key is a single repeated character — provision a real random secret"
  | .isDeploymentId => js "canary key must not equal the deployment id — they are separate secrets"

/-- `requireCanaryKey` -/
def requireCanaryKey (canaryKey deploymentId : JsString) : Except CanaryKeyError Unit :=
  if canaryKey = [] then .error .required
  else if canaryKey.length < minKeyLength then .error (.tooShort canaryKey.length)
  else if weakKeys.contains (canaryKey.trim.map lowerUnit) then .error .weak
  else if isRepeatedUnit canaryKey then .error .repeated
  else if canaryKey = deploymentId then .error .isDeploymentId
  else .ok ()

/-- Whether `requireDeploymentId` lets an id pass. -/
def isDeploymentId (deploymentId : JsString) : Bool :=
  3 ≤ deploymentId.trim.length

structure RegistryIdentity where
  canaryKey : JsString
  deploymentId : JsString
  deriving DecidableEq

/-! ### Entries -/

/-- `isEntry` -/
def isEntry (v : Json) : Bool :=
  (v.get (js "canaryId")).any (·.str?.isSome) && (v.get (js "kind")).any (·.str?.isSome)
    && (v.get (js "value")).any (·.str?.isSome)
    && ((v.get (js "label")).isNone || (v.get (js "label")).any (·.str?.isSome))

/-- An entry is the object it was built as or parsed from. -/
structure RegistryEntry extends Json.Value where
  isEntry : isEntry val = true

namespace RegistryEntry

/-- A value that is an entry, taken as one. -/
def ofObject (v : Json) (h : v.Normal ∧ OwnerSwitch.isEntry v = true) : RegistryEntry where
  val := v
  normal := h.1
  isEntry := h.2

variable (e : RegistryEntry)

/-- A property that is a string. -/
def field (name : JsString) : Option JsString :=
  (e.val.get name).bind Json.str?

def canaryId : JsString :=
  (e.field (js "canaryId")).getD []

def kind : JsString :=
  (e.field (js "kind")).getD []

def label : Option JsString :=
  e.field (js "label")

def value : JsString :=
  (e.field (js "value")).getD []

/-- What an entry says. -/
def tuple : JsString × JsString × Option JsString × JsString :=
  (e.canaryId, e.kind, e.label, e.value)

/-- `[e.canaryId, e.kind, e.label ?? null, e.value]` -/
def covered : Json :=
  .arr [.str e.canaryId, .str e.kind, (e.label.map Json.str).getD .null, .str e.value]

end RegistryEntry

/-- The properties `add` writes. -/
def Honeytoken.entryFields (token : Honeytoken) : List (JsString × Option Json) :=
  [(js "canaryId", some (.str token.canaryId)), (js "kind", some (.str token.kind.text)),
    (js "label", token.label.map .str), (js "value", some (.str token.value))]

theorem Honeytoken.normal_entry (token : Honeytoken) : Json.Normal (.obj (Json.present token.entryFields)) := by
  apply Json.normal_present (K := [js "canaryId", js "kind", js "label", js "value"]) rfl
  · decide +kernel
  · decide +kernel
  · intro f hf v hv
    simp only [Honeytoken.entryFields, List.mem_cons, List.not_mem_nil, or_false] at hf
    rcases hf with rfl | rfl | rfl | rfl
    · cases hv
      exact .str
    · cases hv
      exact .str
    · obtain ⟨label, -, rfl⟩ := Option.map_eq_some_iff.mp hv
      exact .str
    · cases hv
      exact .str

/-- A property `add` writes, as it is read. -/
theorem Honeytoken.get_entry (token : Honeytoken) (k : JsString) :
    (Json.obj (Json.present token.entryFields)).get k = (JsMap.findEntry token.entryFields k).join :=
  Json.get_present (K := [js "canaryId", js "kind", js "label", js "value"]) rfl (by decide +kernel) k

theorem Honeytoken.isEntry_entry (token : Honeytoken) :
    isEntry (.obj (Json.present token.entryFields)) = true := by
  have hid : JsMap.findEntry token.entryFields (js "canaryId") = some (some (.str token.canaryId)) := rfl
  have hkind : JsMap.findEntry token.entryFields (js "kind") = some (some (.str token.kind.text)) := rfl
  have hlabel : JsMap.findEntry token.entryFields (js "label") = some (token.label.map .str) := rfl
  have hvalue : JsMap.findEntry token.entryFields (js "value") = some (some (.str token.value)) := rfl
  rw [isEntry, token.get_entry, token.get_entry, token.get_entry, token.get_entry, hid, hkind, hlabel, hvalue]
  cases token.label <;> rfl

/-- The entry `add` pushes. -/
def Honeytoken.toEntry (token : Honeytoken) : RegistryEntry where
  val := .obj (Json.present token.entryFields)
  normal := token.normal_entry
  isEntry := token.isEntry_entry

/-- An added entry says what the token says. -/
theorem Honeytoken.tuple_toEntry (token : Honeytoken) :
    token.toEntry.tuple = (token.canaryId, token.kind.text, token.label, token.value) := by
  have hid : JsMap.findEntry token.entryFields (js "canaryId") = some (some (.str token.canaryId)) := rfl
  have hkind : JsMap.findEntry token.entryFields (js "kind") = some (some (.str token.kind.text)) := rfl
  have hlabel : JsMap.findEntry token.entryFields (js "label") = some (token.label.map .str) := rfl
  have hvalue : JsMap.findEntry token.entryFields (js "value") = some (some (.str token.value)) := rfl
  have hfield : ∀ k, token.toEntry.field k = ((JsMap.findEntry token.entryFields k).join).bind Json.str? :=
    fun k => congrArg (·.bind Json.str?) (token.get_entry k)
  simp only [RegistryEntry.tuple, RegistryEntry.canaryId, RegistryEntry.kind, RegistryEntry.label,
    RegistryEntry.value, hfield, hid, hkind, hlabel, hvalue]
  cases token.label <;> rfl

/-! ### The registry -/

/-- `HoneytokenRegistry`, with what its constructor requires. -/
structure HoneytokenRegistry extends RegistryIdentity where
  entries : List RegistryEntry
  key : requireCanaryKey canaryKey deploymentId = .ok ()
  deployment : isDeploymentId deploymentId = true

/-- What `match` reports of an entry. -/
structure HoneytokenMatch where
  canaryId : JsString
  kind : JsString
  value : JsString
  index : Nat
  deriving DecidableEq, Repr

/-- `text.indexOf(word)` -/
def indexOf (text word : JsString) : Option Nat :=
  match text with
  | [] => if word = [] then some 0 else none
  | c :: t => if word <+: c :: t then some 0 else (indexOf t word).map (· + 1)

namespace HoneytokenRegistry

variable (r : HoneytokenRegistry)

/-- `add(token)` -/
def add (token : Honeytoken) : HoneytokenRegistry :=
  { r with entries := r.entries ++ [token.toEntry] }

/-- `canaryIds()` -/
def canaryIds : List JsString :=
  r.entries.map RegistryEntry.canaryId

/-- The loop of `match`: the ids already reported are skipped. -/
def matchFrom (text : JsString) : List JsString → List RegistryEntry → List HoneytokenMatch
  | _, [] => []
  | seen, e :: es =>
      if e.canaryId ∈ seen then matchFrom text seen es
      else
        match indexOf text e.value with
        | some index =>
            { canaryId := e.canaryId, kind := e.kind, value := e.value, index }
              :: matchFrom text (e.canaryId :: seen) es
        | none => matchFrom text seen es

/-- `match(text)` -/
def matched (text : JsString) : List HoneytokenMatch :=
  (matchFrom text [] r.entries).mergeSort fun a b => a.index ≤ b.index

/-- `JSON.stringify(this.entries.map((e) => [e.canaryId, e.kind, e.label ?? null, e.value]))` -/
def canonicalEntries : JsString :=
  Json.stringify (.arr (r.entries.map RegistryEntry.covered))

/-- The message the tag covers. -/
def macMessage : JsString :=
  macDomain ++ [0x0A] ++ r.deploymentId ++ [0x0A] ++ r.canonicalEntries

variable (hmac : HmacSha256)

/-- The tag's octets. -/
def tag : Bytes :=
  hmac.digest (Utf8.encode r.canaryKey) (Utf8.encode r.macMessage)

/-- `computeMac()` -/
def computeMac : JsString :=
  hexText (r.tag hmac)

/-- The object `serialize` writes. -/
def file : Json :=
  .obj [(js "version", .num (.ofInt 1)), (js "deploymentId", .str r.deploymentId),
    (js "entries", .arr (r.entries.map (·.val))), (js "mac", .str (r.computeMac hmac))]

/-- `serialize()` -/
def serialize : JsString :=
  Json.stringifyIndented (r.file hmac) ++ [0x0A]

end HoneytokenRegistry

/-- `equalHex` -/
def equalHex (a b : JsString) : Bool :=
  if a.length ≠ b.length then false
  else if (fromHex a).length ≠ (fromHex b).length ∨ (fromHex a).length = 0 then false
  else fromHex a = fromHex b

/-- `verifyMac(mac)` -/
def HoneytokenRegistry.verifyMac (r : HoneytokenRegistry) (hmac : HmacSha256) (mac : JsString) : Bool :=
  equalHex (r.computeMac hmac) mac

/-! ### The loader -/

/-- What `loadRegistry` throws. -/
inductive RegistryError where
  | canaryKey (error : CanaryKeyError)
  | deploymentId
  | notJson
  | notObject
  | version (got : Option Json)
  | otherDeployment (got : Option Json) (expected : JsString)
  | entriesNotArray
  | tooManyEntries (length : Nat)
  | malformedEntries
  | missingMac
  | mac

/-- The text of an error; `string` is what `String(v)` makes of a value in it. -/
def RegistryError.message (string : Option Json → JsString) : RegistryError → JsString
  | .canaryKey error => error.message
  | .deploymentId => js "a deployment id of at least 3 characters is required"
  | .notJson => js "honeytoken registry is not valid JSON"
  | .notObject => js "honeytoken registry must be a JSON object"
  | .version got => js "unsupported honeytoken registry version " ++ string got
  | .otherDeployment got expected =>
      js "honeytoken registry is for deployment \"" ++ string got ++ js "\", not \"" ++ expected ++ js "\""
  | .entriesNotArray => js "honeytoken registry entries must be an array"
  | .tooManyEntries length =>
      js "honeytoken registry has " ++ Json.natText length ++ js " entries, over the "
        ++ Json.natText maxRegistryEntries ++ js "-entry limit"
  | .malformedEntries => js "honeytoken registry entries are malformed"
  | .missingMac => js "honeytoken registry is missing its integrity MAC"
  | .mac =>
      js "honeytoken registry MAC does not verify — the file was tampered with or the canary key is wrong"

/-- `JSON.parse`, and that it gave an object. -/
def parseRegistry (serialized : JsString) : Except RegistryError Json.Value :=
  match h : Json.parse serialized with
  | none => .error .notJson
  | some v =>
      match v with
      | .obj _ | .arr _ => .ok ⟨_, Json.normal_of_parse h⟩
      | _ => .error .notObject

/-- The entries of the parsed file, once there are few enough and each is one. -/
def entriesOf (obj : Json.Value) : Except RegistryError (List RegistryEntry) :=
  match h : obj.val.get (js "entries") with
  | some (.arr xs) =>
      if xs.length > maxRegistryEntries then .error (.tooManyEntries xs.length)
      else if hall : ∀ x ∈ xs, isEntry x = true then
        .ok (xs.pmap RegistryEntry.ofObject fun x hx => ⟨Json.Normal.of_mem (obj.normal.get h) hx, hall x hx⟩)
      else .error .malformedEntries
  | _ => .error .entriesNotArray

/-- `loadRegistry(serialized, identity)` -/
def loadRegistry (hmac : HmacSha256) (serialized : JsString) (identity : RegistryIdentity) :
    Except RegistryError HoneytokenRegistry :=
  match hkey : requireCanaryKey identity.canaryKey identity.deploymentId with
  | .error e => .error (.canaryKey e)
  | .ok () =>
      if hdep : isDeploymentId identity.deploymentId = true then do
        let obj ← parseRegistry serialized
        if (obj.val.get (js "version")).bind Json.num? ≠ some (.ofInt 1) then
          .error (.version (obj.val.get (js "version")))
        else if (obj.val.get (js "deploymentId")).bind Json.str? ≠ some identity.deploymentId then
          .error (.otherDeployment (obj.val.get (js "deploymentId")) identity.deploymentId)
        else
          let entries ← entriesOf obj
          match (obj.val.get (js "mac")).bind Json.str? with
          | none => .error .missingMac
          | some mac =>
              let registry : HoneytokenRegistry := { identity with entries, key := hkey, deployment := hdep }
              if registry.verifyMac hmac mac then .ok registry else .error .mac
      else .error .deploymentId

end OwnerSwitch
