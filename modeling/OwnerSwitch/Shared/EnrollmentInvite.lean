/-
Module: OwnerSwitch.Shared.EnrollmentInvite
Layer: Shared
Purpose: The invite that goes from the host to a new phone: the payload, and the validator that the shared package and
  the owner app each have of it, with the base64 decoders of their platforms.
Imports: Lib.Base64, Lib.JsonCodec
Trusted boundary: none
Main exports: EnrollmentInviteContract, EnrollmentInviteWire, EnrollmentInvite.Rules, parseEnrollmentInvite,
  enrollmentInviteFromWire, canonicalB64url_iff, parse_payload
Open obligations: none
-/
import OwnerSwitch.Lib.Base64
import OwnerSwitch.Lib.JsonCodec

namespace OwnerSwitch

/-! ### The payload -/

/-- The user entity of a creation: an opaque handle, and two labels. -/
structure EnrollmentUser where
  id : JsString
  name : JsString
  displayName : JsString
  deriving DecidableEq, Repr

/-- What a mint answers with. The creation constants are the same in every invite, and stand in `toJson` alone. -/
structure EnrollmentInviteContract where
  inviteId : JsString
  expiresAt : Int
  ownerId : JsString
  rpId : JsString
  rpName : JsString
  user : EnrollmentUser
  challenge : JsString
  assertionChallenge : JsString
  deviceName : JsString
  deriving DecidableEq, Repr

/-- The payload: the contract with the secret. -/
structure EnrollmentInviteWire extends EnrollmentInviteContract where
  token : JsString
  deriving DecidableEq, Repr

namespace EnrollmentInvite

def userJson (user : EnrollmentUser) : Json :=
  .obj [(js "id", .str user.id), (js "name", .str user.name), (js "displayName", .str user.displayName)]

/-- ES256, and nothing else. -/
def pubKeyCredParams : Json :=
  .arr [.obj [(js "type", .str (js "public-key")), (js "alg", .num (.ofInt (-7)))]]

def authenticatorSelection : Json :=
  .obj
    [(js "authenticatorAttachment", .str (js "platform")), (js "residentKey", .str (js "preferred")),
     (js "userVerification", .str (js "required"))]

/-- The properties of a contract, in the order of the mint response. -/
def contractFields (contract : EnrollmentInviteContract) : List (JsString × Json) :=
  [(js "inviteId", .str contract.inviteId),
   (js "expiresAt", .num (.ofInt contract.expiresAt)),
   (js "ownerId", .str contract.ownerId),
   (js "rpId", .str contract.rpId),
   (js "rpName", .str contract.rpName),
   (js "user", userJson contract.user),
   (js "pubKeyCredParams", pubKeyCredParams),
   (js "authenticatorSelection", authenticatorSelection),
   (js "challenge", .str contract.challenge),
   (js "assertionChallenge", .str contract.assertionChallenge),
   (js "deviceName", .str contract.deviceName)]

/-- `{ ...contract, token }` -/
def payload (contract : EnrollmentInviteContract) (token : JsString) : Json :=
  .obj (contractFields contract ++ [(js "token", .str token)])

/-! ### The validator -/

/-- The key sets, the bounds and the constants that a validator of invites is written with. -/
structure Rules where
  topKeys : List JsString
  userKeys : List JsString
  paramKeys : List JsString
  selectionKeys : List JsString
  -- the greatest lengths of the texts
  inviteId : Nat
  ownerId : Nat
  rpId : Nat
  rpName : Nat
  deviceName : Nat
  userName : Nat
  userDisplayName : Nat
  -- the least and the greatest number of octets that the binary fields encode
  token : Nat × Nat
  challenge : Nat × Nat
  assertionChallenge : Nat × Nat
  userId : Nat × Nat
  paramType : JsString
  paramAlg : Int
  authenticatorAttachment : JsString
  residentKey : JsString
  userVerification : JsString

/-- These properties, and no others. -/
def exactKeys (record : List (JsString × Json)) (keys : List JsString) : Bool :=
  let present := record.map Prod.fst
  present.length = keys.length && present.all keys.contains && keys.all present.contains

def boundedString (max : Nat) (value : Json) : Option JsString :=
  value.str?.filter fun s => s ≠ [] && s.length ≤ max

/-- A positive safe integer. -/
def asExpiry (value : Json) : Option Int :=
  ((Json.safeNat? value).filter (1 ≤ ·)).map (↑)

section Read

-- what the file of the validator says, and what the platform's decoder and the round trip make of a text
variable (rules : Rules) (read : JsString → Option Bytes)

def canonicalB64url (minBytes maxBytes : Nat) (value : Json) : Option JsString :=
  value.str?.filter fun s => (read s).any fun bytes => minBytes ≤ bytes.length && bytes.length ≤ maxBytes

def asUser (value : Json) : Option EnrollmentUser := do
  let user ← value.fields?
  guard (exactKeys user rules.userKeys)
  let id ← value.property (js "id") (canonicalB64url read rules.userId.1 rules.userId.2)
  let name ← value.property (js "name") (boundedString rules.userName)
  let displayName ← value.property (js "displayName") (boundedString rules.userDisplayName)
  some { id, name, displayName }

/-- The one parameter that is allowed. -/
def isPinnedParams (value : Json) : Bool :=
  match value with
  | .arr [param] =>
      match param.fields? with
      | none => false
      | some fields =>
          exactKeys fields rules.paramKeys && param.property (js "type") Json.str? = some rules.paramType &&
            param.property (js "alg") Json.num? = some (.ofInt rules.paramAlg)
  | _ => false

def isPinnedSelection (value : Json) : Bool :=
  match value.fields? with
  | none => false
  | some fields =>
      exactKeys fields rules.selectionKeys &&
        value.property (js "authenticatorAttachment") Json.str? = some rules.authenticatorAttachment &&
        value.property (js "residentKey") Json.str? = some rules.residentKey &&
        value.property (js "userVerification") Json.str? = some rules.userVerification

/-- The payload that a value is, by the rules and over a decoder. -/
def parse (value : Json) : Option EnrollmentInviteWire := do
  let record ← value.fields?
  guard (exactKeys record rules.topKeys)
  let inviteId ← value.property (js "inviteId") (boundedString rules.inviteId)
  let token ← value.property (js "token") (canonicalB64url read rules.token.1 rules.token.2)
  let expiresAt ← value.property (js "expiresAt") asExpiry
  let ownerId ← value.property (js "ownerId") (boundedString rules.ownerId)
  let rpId ← value.property (js "rpId") (boundedString rules.rpId)
  let rpName ← value.property (js "rpName") (boundedString rules.rpName)
  let deviceName ← value.property (js "deviceName") (boundedString rules.deviceName)
  let challenge ← value.property (js "challenge") (canonicalB64url read rules.challenge.1 rules.challenge.2)
  let assertionChallenge ← value.property (js "assertionChallenge")
    (canonicalB64url read rules.assertionChallenge.1 rules.assertionChallenge.2)
  let user ← value.property (js "user") (asUser rules read)
  guard ((value.get (js "pubKeyCredParams")).any (isPinnedParams rules))
  guard ((value.get (js "authenticatorSelection")).any (isPinnedSelection rules))
  some { inviteId, token, expiresAt, ownerId, rpId, rpName, user, challenge, assertionChallenge, deviceName }

end Read

end EnrollmentInvite

/-- Where the shared package runs: with a `Buffer`, or in a browser. -/
inductive Platform where
  | node
  | browser
  deriving DecidableEq, Repr

/-- `base64urlDecode` of the shared package. -/
def Platform.base64urlDecode : Platform → JsString → Option Bytes
  | .node => Base64.readBuffer
  | .browser => Base64.readAtob

/-- What the owner app's `enroll-invite.mjs` says. -/
def ownerAppRules : EnrollmentInvite.Rules where
  topKeys :=
    [js "inviteId", js "token", js "expiresAt", js "ownerId", js "rpId", js "rpName", js "user", js "pubKeyCredParams",
      js "authenticatorSelection", js "challenge", js "assertionChallenge", js "deviceName"]
  userKeys := [js "id", js "name", js "displayName"]
  paramKeys := [js "type", js "alg"]
  selectionKeys := [js "authenticatorAttachment", js "residentKey", js "userVerification"]
  inviteId := 256
  ownerId := 256
  rpId := 256
  rpName := 256
  deviceName := 200
  userName := 256
  userDisplayName := 256
  token := (16, 96)
  challenge := (16, 96)
  assertionChallenge := (16, 96)
  userId := (1, 64)
  paramType := js "public-key"
  paramAlg := -7
  authenticatorAttachment := js "platform"
  residentKey := js "preferred"
  userVerification := js "required"

/-- What the shared package's `enrollment-invite.ts` says. -/
def sharedRules : EnrollmentInvite.Rules where
  topKeys :=
    [js "inviteId", js "token", js "expiresAt", js "ownerId", js "rpId", js "rpName", js "user", js "pubKeyCredParams",
      js "authenticatorSelection", js "challenge", js "assertionChallenge", js "deviceName"]
  userKeys := [js "id", js "name", js "displayName"]
  paramKeys := [js "type", js "alg"]
  selectionKeys := [js "authenticatorAttachment", js "residentKey", js "userVerification"]
  inviteId := 256
  ownerId := 256
  rpId := 256
  rpName := 256
  deviceName := 200
  userName := 256
  userDisplayName := 256
  token := (16, 96)
  challenge := (16, 96)
  assertionChallenge := (16, 96)
  userId := (1, 64)
  paramType := js "public-key"
  paramAlg := -7
  authenticatorAttachment := js "platform"
  residentKey := js "preferred"
  userVerification := js "required"

/-- `parseEnrollmentInvite` of the owner app. -/
def parseEnrollmentInvite : Json → Option EnrollmentInviteWire :=
  EnrollmentInvite.parse ownerAppRules Base64.readAtob

/-- `enrollmentInviteFromWire` of the shared package. -/
def enrollmentInviteFromWire (platform : Platform) : Json → Option EnrollmentInviteWire :=
  EnrollmentInvite.parse sharedRules platform.base64urlDecode

/-- The two files say the same. -/
theorem sharedRules_eq : sharedRules = ownerAppRules :=
  rfl

/-! ### What the validator accepts -/

/-- A decoder that accepts the canonical texts that are not empty. -/
def ReadsCanonical (read : JsString → Option Bytes) : Prop :=
  ∀ text, read text = if text = [] then none else Base64url.decode text

theorem readsCanonical_atob : ReadsCanonical Base64.readAtob :=
  Base64.readAtob_eq

theorem Platform.readsCanonical (platform : Platform) : ReadsCanonical platform.base64urlDecode := by
  cases platform with
  | node => exact Base64.readBuffer_eq
  | browser => exact Base64.readAtob_eq

/-- Two such decoders are one. -/
theorem ReadsCanonical.unique {read read' : JsString → Option Bytes} (h : ReadsCanonical read)
    (h' : ReadsCanonical read') : read = read' := by
  funext text
  rw [h, h']

namespace EnrollmentInvite

variable {read : JsString → Option Bytes}

/-- Of at least one octet, a text is accepted where it encodes so many. -/
theorem canonicalB64url_iff (h : ReadsCanonical read) {minBytes maxBytes : Nat} (hmin : 0 < minBytes) {s t : JsString} :
    canonicalB64url read minBytes maxBytes (.str s) = some t ↔
      t = s ∧ ∃ bytes : Bytes, s = Base64url.encode bytes ∧ minBytes ≤ bytes.length ∧ bytes.length ≤ maxBytes := by
  have hread : ∀ bytes : Bytes, minBytes ≤ bytes.length → (read s = some bytes ↔ s = Base64url.encode bytes) := by
    intro bytes hlength
    rw [h, ← Base64url.decode_iff]
    split
    · rename_i hempty
      subst hempty
      constructor
      · intro hnone
        cases hnone
      · intro hnil
        obtain rfl := Option.some.inj hnil
        exact absurd hlength (not_le.mpr hmin)
    · rfl
  rw [canonicalB64url, Json.str?, Option.filter_eq_some_iff, Option.any_eq_true]
  constructor
  · rintro ⟨hs, bytes, hbytes, hbounds⟩
    obtain rfl := Option.some.inj hs
    rw [Bool.and_eq_true, decide_eq_true_eq, decide_eq_true_eq] at hbounds
    exact ⟨rfl, bytes, (hread bytes hbounds.1).mp hbytes, hbounds⟩
  · rintro ⟨rfl, bytes, hbytes, hbounds⟩
    refine ⟨rfl, bytes, (hread bytes hbounds.1).mpr hbytes, ?_⟩
    rw [Bool.and_eq_true, decide_eq_true_eq, decide_eq_true_eq]
    exact hbounds

/-- The canonical text of enough octets, and not too many, is accepted. -/
theorem canonicalB64url_encode (h : ReadsCanonical read) {minBytes maxBytes : Nat} {bytes : Bytes} (hmin : 0 < minBytes)
    (hlo : minBytes ≤ bytes.length) (hhi : bytes.length ≤ maxBytes) :
    canonicalB64url read minBytes maxBytes (.str (Base64url.encode bytes)) = some (Base64url.encode bytes) :=
  (canonicalB64url_iff h hmin).mpr ⟨rfl, bytes, rfl, hlo, hhi⟩

/-- A text within the bound is accepted. -/
theorem boundedString_str {max : Nat} {s : JsString} (hempty : s ≠ []) (hlength : s.length ≤ max) :
    boundedString max (.str s) = some s := by
  rw [boundedString, Json.str?, Option.filter_eq_some_iff, Bool.and_eq_true]
  exact ⟨rfl, decide_eq_true hempty, decide_eq_true hlength⟩

theorem asExpiry_num {z : Int} (hpos : 0 < z) (hsafe : z ≤ Json.maxSafeInteger) :
    asExpiry (.num (.ofInt z)) = some z := by
  have hnat : Json.safeNat? (.num (.ofInt z)) = some z.toNat := by
    rw [Json.safeNat?, Decimal.toInt?_ofInt, Option.bind_some, if_pos ⟨hpos.le, hsafe⟩]
  have hone : 1 ≤ z.toNat := by omega
  rw [asExpiry, hnat, Option.filter_some, if_pos (decide_eq_true hone), Option.map_some, Int.toNat_of_nonneg hpos.le]

/-- A contract within the bounds of the validator. -/
structure Runnable (contract : EnrollmentInviteContract) : Prop where
  inviteId : contract.inviteId ≠ [] ∧ contract.inviteId.length ≤ 256
  expiresAt : 0 < contract.expiresAt ∧ contract.expiresAt ≤ Json.maxSafeInteger
  ownerId : contract.ownerId ≠ [] ∧ contract.ownerId.length ≤ 256
  rpId : contract.rpId ≠ [] ∧ contract.rpId.length ≤ 256
  rpName : contract.rpName ≠ [] ∧ contract.rpName.length ≤ 256
  deviceName : contract.deviceName ≠ [] ∧ contract.deviceName.length ≤ 200
  challenge : ∃ bytes : Bytes, contract.challenge = Base64url.encode bytes ∧ 16 ≤ bytes.length ∧ bytes.length ≤ 96
  assertionChallenge :
    ∃ bytes : Bytes, contract.assertionChallenge = Base64url.encode bytes ∧ 16 ≤ bytes.length ∧ bytes.length ≤ 96
  userId : ∃ bytes : Bytes, contract.user.id = Base64url.encode bytes ∧ 1 ≤ bytes.length ∧ bytes.length ≤ 64
  userName : contract.user.name ≠ [] ∧ contract.user.name.length ≤ 256
  userDisplayName : contract.user.displayName ≠ [] ∧ contract.user.displayName.length ≤ 256

/-- The user of a contract within the bounds is read back. -/
theorem asUser_userJson (h : ReadsCanonical read) {contract : EnrollmentInviteContract}
    (hrunnable : Runnable contract) :
    asUser ownerAppRules read (userJson contract.user) = some contract.user := by
  obtain ⟨bytes, hid, hlo, hhi⟩ := hrunnable.userId
  have hbytes : canonicalB64url read 1 64 (.str contract.user.id) = some contract.user.id := by
    rw [hid]
    exact canonicalB64url_encode h Nat.one_pos hlo hhi
  simp only [asUser, Option.bind_eq_bind, Option.bind_eq_some_iff, Option.guard_eq_some', exists_const]
  exact ⟨_, rfl, by rw [exactKeys]; rfl, _, hbytes, _, boundedString_str hrunnable.userName.1 hrunnable.userName.2, _,
    boundedString_str hrunnable.userDisplayName.1 hrunnable.userDisplayName.2, rfl⟩

/-- A contract within the bounds is read back, with every secret that the validator reads and no other. -/
theorem parse_payload (h : ReadsCanonical read) {contract : EnrollmentInviteContract} (hrunnable : Runnable contract)
    (token : JsString) :
    parse ownerAppRules read (payload contract token) =
      (canonicalB64url read 16 96 (.str token)).map fun token => { contract with token } := by
  obtain ⟨challenge, hchallenge, hlo, hhi⟩ := hrunnable.challenge
  obtain ⟨assertion, hassertion, hlo', hhi'⟩ := hrunnable.assertionChallenge
  have hfirst : canonicalB64url read 16 96 (.str contract.challenge) = some contract.challenge := by
    rw [hchallenge]
    exact canonicalB64url_encode h (by decide) hlo hhi
  have hsecond : canonicalB64url read 16 96 (.str contract.assertionChallenge) = some contract.assertionChallenge := by
    rw [hassertion]
    exact canonicalB64url_encode h (by decide) hlo' hhi'
  have hinviteId : (payload contract token).property (js "inviteId") (boundedString ownerAppRules.inviteId) =
      some contract.inviteId :=
    boundedString_str hrunnable.inviteId.1 hrunnable.inviteId.2
  have hexpiresAt : (payload contract token).property (js "expiresAt") asExpiry = some contract.expiresAt :=
    asExpiry_num hrunnable.expiresAt.1 hrunnable.expiresAt.2
  have hownerId : (payload contract token).property (js "ownerId") (boundedString ownerAppRules.ownerId) =
      some contract.ownerId :=
    boundedString_str hrunnable.ownerId.1 hrunnable.ownerId.2
  have hrpId : (payload contract token).property (js "rpId") (boundedString ownerAppRules.rpId) = some contract.rpId :=
    boundedString_str hrunnable.rpId.1 hrunnable.rpId.2
  have hrpName : (payload contract token).property (js "rpName") (boundedString ownerAppRules.rpName) =
      some contract.rpName :=
    boundedString_str hrunnable.rpName.1 hrunnable.rpName.2
  have hdeviceName : (payload contract token).property (js "deviceName") (boundedString ownerAppRules.deviceName) =
      some contract.deviceName :=
    boundedString_str hrunnable.deviceName.1 hrunnable.deviceName.2
  have hchallengeAt : (payload contract token).property (js "challenge")
      (canonicalB64url read ownerAppRules.challenge.1 ownerAppRules.challenge.2) = some contract.challenge := hfirst
  have hassertionAt : (payload contract token).property (js "assertionChallenge")
      (canonicalB64url read ownerAppRules.assertionChallenge.1 ownerAppRules.assertionChallenge.2) =
        some contract.assertionChallenge := hsecond
  have huser : (payload contract token).property (js "user") (asUser ownerAppRules read) = some contract.user :=
    asUser_userJson h hrunnable
  have htoken : (payload contract token).property (js "token")
      (canonicalB64url read ownerAppRules.token.1 ownerAppRules.token.2) =
        canonicalB64url read 16 96 (.str token) := rfl
  have hfields : (payload contract token).fields? = some (contractFields contract ++ [(js "token", .str token)]) := rfl
  have hkeys : exactKeys (contractFields contract ++ [(js "token", .str token)]) ownerAppRules.topKeys = true := rfl
  have hparams : ((payload contract token).get (js "pubKeyCredParams")).any (isPinnedParams ownerAppRules) = true := rfl
  have hselection :
      ((payload contract token).get (js "authenticatorSelection")).any (isPinnedSelection ownerAppRules) = true := rfl
  simp only [parse, Option.bind_eq_bind, hfields, hkeys, hinviteId, htoken, hexpiresAt, hownerId, hrpId, hrpName,
    hdeviceName, hchallengeAt, hassertionAt, huser, hparams, hselection, guard_true, Option.bind_some]
  cases canonicalB64url read 16 96 (.str token) with
  | none => rfl
  | some t => rfl

end EnrollmentInvite

end OwnerSwitch
