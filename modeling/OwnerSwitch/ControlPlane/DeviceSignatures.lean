/-
Module: OwnerSwitch.ControlPlane.DeviceSignatures
Layer: ControlPlane
Purpose: The two device lanes: a fleet device signs with a shared secret, an owner device with its own key. Both verify a
  request against a clock window and then spend its nonce in one store that they share and sweep by time.
Imports: Lib.Octets, Shared.OwnerDeviceSig
Trusted boundary: HMAC, the hash, the signature scheme, the permissive base64 reader, the URL serializer and the
  upper-case mapping are parameters
Main exports: SignatureCrypto, verifyDeviceSignature, verifyOwnerDeviceSignature, SignedCall, SignedCall.verify_eq
Open obligations: none
-/
import Mathlib.Data.Int.ConditionallyCompleteOrder
import OwnerSwitch.Lib.Octets
import OwnerSwitch.Shared.OwnerDeviceSig

namespace OwnerSwitch

/-- The primitives of both lanes; a signature check may throw, and is `none` then. -/
structure SignatureCrypto (κ : Type) where
  hmacSha256 : Bytes → Bytes → Bytes
  sha256 : Bytes → Bytes
  cryptoVerify : κ → Bytes → Bytes → Option Bool
  fromBase64url : JsString → Bytes
  serializeTarget : JsString → Option JsString
  toUpperCase : JsString → JsString

/-- Nonce key, and the instant it can be forgotten after. -/
abbrev SeenNonces := JsMap JsString Int

/-! ### The sweep -/

/-- The entries that are kept, the clock being read once for each. -/
def sweepEntries (now : Nat → Int) : List (JsString × Int) → List (JsString × Int)
  | [] => []
  | (key, staleAfter) :: rest =>
      if now 0 > staleAfter then sweepEntries (fun i => now (i + 1)) rest
      else (key, staleAfter) :: sweepEntries (fun i => now (i + 1)) rest

theorem sweepEntries_sublist (now : Nat → Int) (entries : List (JsString × Int)) :
    (sweepEntries now entries).Sublist entries := by
  induction entries generalizing now with
  | nil => exact .slnil
  | cons entry rest ih =>
      rw [sweepEntries]
      split_ifs
      · exact (ih _).cons _
      · exact (ih _).cons_cons _

/-- What the loop at the head of both verifiers leaves of the store. -/
def SeenNonces.sweep (seen : SeenNonces) (now : Nat → Int) : SeenNonces :=
  ⟨sweepEntries now seen.entries, seen.nodup.sublist ((sweepEntries_sublist now seen.entries).map _)⟩

theorem SeenNonces.get?_of_sweep {seen : SeenNonces} {now : Nat → Int} {key : JsString} {staleAfter : Int}
    (h : (seen.sweep now).get? key = some staleAfter) : seen.get? key = some staleAfter :=
  JsMap.get?_eq_some_iff.mpr ((sweepEntries_sublist now seen.entries).subset (JsMap.get?_eq_some_iff.mp h))

theorem mem_sweepEntries {now : Nat → Int} (hnow : Monotone now) {entries : List (JsString × Int)} {key : JsString}
    {staleAfter : Int} (h : (key, staleAfter) ∈ entries) :
    (key, staleAfter) ∈ sweepEntries now entries ∨ staleAfter < now entries.length := by
  induction entries generalizing now with
  | nil => cases h
  | cons entry rest ih =>
      obtain ⟨key', staleAfter'⟩ := entry
      have hlater : Monotone fun i => now (i + 1) := fun i j hij => hnow (Nat.succ_le_succ hij)
      rw [sweepEntries]
      cases h with
      | head =>
          by_cases hstale : now 0 > staleAfter
          · exact .inr (lt_of_lt_of_le hstale (hnow (Nat.zero_le _)))
          · rw [if_neg hstale]
            exact .inl (List.mem_cons_self ..)
      | tail _ h =>
          rcases ih hlater h with hkept | hpassed
          · left
            split_ifs
            · exact hkept
            · exact List.mem_cons_of_mem _ hkept
          · exact .inr hpassed

/-- An entry is kept, or the clock has passed the instant it can be forgotten after. -/
theorem SeenNonces.get?_sweep {seen : SeenNonces} {now : Nat → Int} (hnow : Monotone now) {key : JsString}
    {staleAfter : Int} (h : seen.get? key = some staleAfter) :
    (seen.sweep now).get? key = some staleAfter ∨ staleAfter < now seen.size := by
  rcases mem_sweepEntries hnow (JsMap.get?_eq_some_iff.mp h) with hkept | hpassed
  · exact .inl (JsMap.get?_eq_some_iff.mpr hkept)
  · exact .inr hpassed

/-! ### The fleet lane -/

/-- A credential as it is presented; the timestamp is `none` where it is no finite number. -/
structure DeviceCredential where
  deviceId : JsString
  timestamp : Option Decimal
  nonce : JsString
  signature : JsString

namespace DeviceCredential

variable (c : DeviceCredential)

/-- The timestamp where it is an integer. -/
def time? : Option Int :=
  c.timestamp.bind Decimal.toInt?

/-- `signedPayload`, of a credential whose timestamp is an integer -/
def signedPayload (timestamp : Int) (rawBody : JsString) : JsString :=
  c.deviceId ++ js "." ++ Json.numText (.ofInt timestamp) ++ js "." ++ c.nonce ++ js "." ++ rawBody

end DeviceCredential

def unambiguousField (value : JsString) : Bool :=
  !value.isEmpty && !value.contains 0x2E

section Verify

variable {κ : Type} (crypto : SignatureCrypto κ)

/-- The checks of `verifyDeviceSignature` before the nonce, when the clock reads `reading`: the timestamp of a request
    that passes them. -/
def deviceChecks (credential : DeviceCredential) (rawBody secret : JsString) (maxSkewMs reading : Int) :
    Option Int := do
  guard (unambiguousField credential.deviceId ∧ unambiguousField credential.nonce ∧ credential.signature ≠ [])
  let timestamp ← credential.time?
  guard ¬ |reading - timestamp| > maxSkewMs
  let expected := crypto.hmacSha256 (utf8 secret) (utf8 (credential.signedPayload timestamp rawBody))
  let provided := fromHex credential.signature
  guard (provided.length = expected.length)
  guard (provided = expected)
  some timestamp

/-- `verifyDeviceSignature` with the store it leaves; `now` is what its readings of the clock give. -/
def verifyDeviceSignature (credential : DeviceCredential) (rawBody secret : JsString) (maxSkewMs : Int)
    (now : Nat → Int) (seenNonces : SeenNonces) : Bool × SeenNonces :=
  let seen := seenNonces.sweep now
  match deviceChecks crypto credential rawBody secret maxSkewMs (now seenNonces.size) with
  | none => (false, seen)
  | some timestamp =>
      let nonceKey := credential.deviceId ++ js ":" ++ credential.nonce
      if seen.has nonceKey then (false, seen)
      else (true, seen.set nonceKey (timestamp + maxSkewMs))

/-! ### The owner lane -/

/-- What the verifier reads of an enrolled device. -/
structure OwnerDeviceKey (κ : Type) where
  publicKey : κ
  revokedAt : Option Decimal

/-- The checks of `verifyOwnerDeviceSignature` before the nonce; `devices` is what the lookup gives. -/
def ownerDeviceChecks (credential : DeviceCredential) (method pathAndQuery rawBody : JsString)
    (devices : JsString → Option (OwnerDeviceKey κ)) (maxSkewMs reading : Int) : Option Int := do
  guard (credential.deviceId ≠ [] ∧ 0x3A ∉ credential.deviceId)
  guard (credential.nonce ≠ [] ∧ 0x3A ∉ credential.nonce)
  guard (credential.signature ≠ [])
  let timestamp ← credential.time?
  guard (isSafeInteger (.ofInt timestamp))
  guard ¬ |reading - timestamp| > maxSkewMs
  let device ← devices credential.deviceId
  guard device.revokedAt.isNone
  let preimage ← (ownerDeviceSigPreimage crypto.serializeTarget crypto.toUpperCase
    { deviceId := credential.deviceId
      method := method
      pathAndQuery := pathAndQuery
      bodyHash := crypto.sha256 (utf8 rawBody)
      timestamp := .ofInt timestamp
      nonce := credential.nonce }).toOption
  let sig := crypto.fromBase64url credential.signature
  guard (sig.length = 64)
  guard (crypto.cryptoVerify device.publicKey preimage sig = some true)
  some timestamp

/-- `verifyOwnerDeviceSignature` with the store it leaves. -/
def verifyOwnerDeviceSignature (credential : DeviceCredential) (method pathAndQuery rawBody : JsString)
    (devices : JsString → Option (OwnerDeviceKey κ)) (maxSkewMs : Int) (now : Nat → Int) (seenNonces : SeenNonces) :
    Option JsString × SeenNonces :=
  let seen := seenNonces.sweep now
  match ownerDeviceChecks crypto credential method pathAndQuery rawBody devices maxSkewMs (now seenNonces.size) with
  | none => (none, seen)
  | some timestamp =>
      let nonceKey := js "owner:" ++ credential.deviceId ++ js ":" ++ credential.nonce
      if seen.has nonceKey then (none, seen)
      else (some credential.deviceId, seen.set nonceKey (timestamp + maxSkewMs))

end Verify

/-! ### Calls of either lane -/

inductive Lane where
  | fleet | owner
  deriving DecidableEq, Repr

/-- What a verifier is given with a credential. -/
inductive LaneContext (κ : Type) where
  | fleet (rawBody secret : JsString)
  | owner (method pathAndQuery rawBody : JsString) (devices : JsString → Option (OwnerDeviceKey κ))

def LaneContext.lane {κ : Type} : LaneContext κ → Lane
  | .fleet .. => .fleet
  | .owner .. => .owner

/-- A call of a verifier: the clock does not run backwards during it. -/
structure SignedCall (κ : Type) where
  context : LaneContext κ
  credential : DeviceCredential
  maxSkewMs : Int
  now : Nat → Int
  monotone : Monotone now

namespace SignedCall

variable {κ : Type} (crypto : SignatureCrypto κ) (call : SignedCall κ)

/-- Whether the request is accepted, and the store that is left. -/
def verify (seen : SeenNonces) : Bool × SeenNonces :=
  match call.context with
  | .fleet rawBody secret =>
      verifyDeviceSignature crypto call.credential rawBody secret call.maxSkewMs call.now seen
  | .owner method pathAndQuery rawBody devices =>
      let (deviceId, seen) :=
        verifyOwnerDeviceSignature crypto call.credential method pathAndQuery rawBody devices
          call.maxSkewMs call.now seen
      (deviceId.isSome, seen)

/-- The timestamp of a request whose signature is valid and whose time is inside the window. -/
def checked (reading : Int) : Option Int :=
  match call.context with
  | .fleet rawBody secret => deviceChecks crypto call.credential rawBody secret call.maxSkewMs reading
  | .owner method pathAndQuery rawBody devices =>
      ownerDeviceChecks crypto call.credential method pathAndQuery rawBody devices call.maxSkewMs reading

/-- The lane, the device and the nonce of a request. -/
def triple : Lane × JsString × JsString :=
  (call.context.lane, call.credential.deviceId, call.credential.nonce)

/-- The key under which the nonce is spent. -/
def nonceKey : JsString :=
  match call.context.lane with
  | .fleet => call.credential.deviceId ++ js ":" ++ call.credential.nonce
  | .owner => js "owner:" ++ call.credential.deviceId ++ js ":" ++ call.credential.nonce

/-- Both verifiers sweep, check the request, and spend its nonce last. -/
theorem verify_eq (seen : SeenNonces) :
    call.verify crypto seen =
      match call.checked crypto (call.now seen.size) with
      | none => (false, seen.sweep call.now)
      | some timestamp =>
          if (seen.sweep call.now).has call.nonceKey then (false, seen.sweep call.now)
          else (true, (seen.sweep call.now).set call.nonceKey (timestamp + call.maxSkewMs)) := by
  obtain ⟨context, credential, maxSkewMs, now, hmono⟩ := call
  cases context with
  | fleet rawBody secret => rfl
  | owner method pathAndQuery rawBody devices =>
      simp only [verify, verifyOwnerDeviceSignature, checked, nonceKey, LaneContext.lane]
      cases ownerDeviceChecks crypto credential method pathAndQuery rawBody devices maxSkewMs (now seen.size) with
      | none => rfl
      | some timestamp =>
          by_cases hseen : (seen.sweep now).has (js "owner:" ++ credential.deviceId ++ js ":" ++ credential.nonce)
          · simp only [hseen, if_true, Option.isSome_none]
          · simp only [hseen, Bool.false_eq_true, if_false, Option.isSome_some]

/-! ### What a checked request has -/

/-- What is known of a request that passes the checks. -/
structure Checked (reading timestamp : Int) : Prop where
  time : call.credential.time? = some timestamp
  window : |reading - timestamp| ≤ call.maxSkewMs
  /-- The fields of the owner lane are free of the separator. -/
  separate : call.context.lane = .owner → 0x3A ∉ call.credential.deviceId ∧ 0x3A ∉ call.credential.nonce

variable {crypto call}

theorem checked_spec {reading timestamp : Int} (h : call.checked crypto reading = some timestamp) :
    call.Checked reading timestamp := by
  obtain ⟨context, credential, maxSkewMs, now, hmono⟩ := call
  cases context with
  | fleet rawBody secret =>
      simp only [checked, deviceChecks, Option.bind_eq_bind, Option.bind_eq_some_iff,
        Option.guard_eq_some', exists_const,
        Option.some.injEq] at h
      obtain ⟨-, time, htime, hwindow, -, -, rfl⟩ := h
      constructor
      · exact htime
      · exact not_lt.mp hwindow
      · intro howner
        cases howner
  | owner method pathAndQuery rawBody devices =>
      simp only [checked, ownerDeviceChecks, Option.bind_eq_bind, Option.bind_eq_some_iff, Option.guard_eq_some',
        exists_const, Option.some.injEq] at h
      obtain ⟨hdevice, hnonce, -, time, htime, -, hwindow, -, -, -, -, -, -, -, rfl⟩ := h
      constructor
      · exact htime
      · exact not_lt.mp hwindow
      · exact fun _ => ⟨hdevice.2, hnonce.2⟩

end SignedCall

end OwnerSwitch
