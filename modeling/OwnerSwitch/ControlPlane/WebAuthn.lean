/-
Module: OwnerSwitch.ControlPlane.WebAuthn
Layer: ControlPlane
Purpose: Verification of an assertion of the owner's approval passkey: the enrolled credential, over the
  challenge of this ceremony, from the enrolled origin, with user presence and verification, an advancing
  counter and a valid signature.
Imports: Lib.Base64url, Lib.JsonText
Trusted boundary: SHA-256 and the ECDSA verification are parameters; a clientDataJSON that is the JSON
  value null is refused here, where the source throws
Main exports: OwnerPasskey, WebAuthnAssertion, verifyOwnerAssertion, verifyOwnerAssertion_challenge
Open obligations: none
-/
import OwnerSwitch.Lib.Base64url
import OwnerSwitch.Lib.JsonText

namespace OwnerSwitch

/-- The enrolled passkey, with the relying party and the origin its assertions are bound to. -/
structure OwnerPasskey where
  credentialId : JsString
  publicKeyPem : JsString
  rpId : JsString
  origin : JsString

structure WebAuthnAssertion where
  credentialId : JsString
  clientDataJSON : JsString
  authenticatorData : JsString
  signature : JsString
  deriving DecidableEq, Repr

/-- `constantTimeStringEqual`: the two texts have one UTF-8 form. -/
def constantTimeStringEqual (a b : JsString) : Bool :=
  Utf8.encode a = Utf8.encode b

/-- The hash, and the verification of a DER signature under a PEM key, which may throw. -/
structure AssertionCrypto where
  sha256 : Bytes → Bytes
  verify : JsString → Bytes → Bytes → Option Bool

namespace WebAuthnAssertion

variable (crypto : AssertionCrypto) (assertion : WebAuthnAssertion) (passkey : OwnerPasskey)

/-- The octets of the client data and what they parse to. -/
def clientData : Except JsString (Bytes × Json) :=
  match Base64url.decode assertion.clientDataJSON with
  | none => .error (js "clientDataJSON is not canonical base64url")
  | some raw =>
      match Json.parse (Utf8.decode raw) with
      | none => .error (js "clientDataJSON does not decode")
      | some clientData => .ok (raw, clientData)

/-- The right ceremony, over this challenge, from the enrolled origin. -/
def checkClientData (clientData : Json) (expectedChallenge : JsString) : Except JsString Unit :=
  if (clientData.get (js "type")).bind Json.str? ≠ some (js "webauthn.get") then
    .error (js "clientData.type is not webauthn.get")
  else if !((clientData.get (js "challenge")).bind Json.str?).any (constantTimeStringEqual · expectedChallenge) then
    .error (js "assertion challenge does not match this ceremony")
  else if passkey.origin = [] then
    .error (js "no expected origin configured — refusing to skip origin binding")
  else if (clientData.get (js "origin")).bind Json.str? ≠ some passkey.origin then
    .error (js "assertion origin does not match the enrolled origin")
  else if (clientData.get (js "crossOrigin")).any (fun v => v.bool? ≠ some false) then
    .error (js "assertion was produced in a cross-origin (embedded) context")
  else if (clientData.get (js "topOrigin")).any (fun v => v.str? ≠ some passkey.origin) then
    .error (js "assertion topOrigin does not match the enrolled origin")
  else .ok ()

/-- A big-endian number. -/
def readUInt32BE (bs : Bytes) : Nat :=
  bs.foldl (fun n b => n * 256 + b.toNat) 0

/-- The relying party, the UP and UV flags, and the counter, which is returned. -/
def checkAuthData (authData : Bytes) (lastSignCount : Nat) : Except JsString Nat :=
  let flags := (authData.getD 32 0).toNat
  let signCount := readUInt32BE ((authData.drop 33).take 4)
  if authData.length < 37 then .error (js "authenticatorData is too short")
  else if authData.take 32 ≠ crypto.sha256 (Utf8.encode passkey.rpId) then
    .error (js "assertion rpIdHash does not match this control plane's rpId")
  else if flags % 2 = 0 then .error (js "user presence (UP) not asserted")
  else if flags / 4 % 2 = 0 then
    .error (js "user verification (UV) not asserted — the merge lane requires it")
  else if (signCount ≠ 0 || lastSignCount ≠ 0) && signCount ≤ lastSignCount then
    .error (js "signature counter did not advance (" ++ Json.natText signCount ++ js " after " ++ Json.natText lastSignCount
      ++ js ") — possible cloned authenticator")
  else .ok signCount

/-- The signature over the authenticator data and the hash of the client data. -/
def checkSignature (authData raw : Bytes) : Except JsString Unit :=
  match Base64url.decode assertion.signature with
  | none => .error (js "signature is not canonical base64url")
  | some signature =>
      match crypto.verify passkey.publicKeyPem (authData ++ crypto.sha256 raw) signature with
      | none => .error (js "the enrolled public key or signature is unusable")
      | some false => .error (js "assertion signature does not verify under the enrolled passkey")
      | some true => .ok ()

/-- `verifyOwnerAssertion`: the counter of an assertion that is accepted, or the reason it is not. -/
def verifyOwnerAssertion (expectedChallenge : JsString) (lastSignCount : Nat) : Except JsString Nat :=
  if !constantTimeStringEqual assertion.credentialId passkey.credentialId then
    .error (js "assertion is not from the enrolled passkey")
  else do
    let (raw, clientData) ← assertion.clientData
    checkClientData passkey clientData expectedChallenge
    match Base64url.decode assertion.authenticatorData with
    | none => .error (js "authenticatorData is not canonical base64url")
    | some authData =>
        let signCount ← checkAuthData crypto passkey authData lastSignCount
        assertion.checkSignature crypto passkey authData raw
        .ok signCount

/-- The challenge in the client data of an assertion. -/
def challenge : Option JsString :=
  match assertion.clientData with
  | .error _ => none
  | .ok (_, clientData) => (clientData.get (js "challenge")).bind Json.str?

variable {crypto assertion passkey}

theorem checkClientData_challenge {clientData : Json} {expectedChallenge : JsString}
    (h : checkClientData passkey clientData expectedChallenge = .ok ()) :
    ∃ c, (clientData.get (js "challenge")).bind Json.str? = some c ∧ Utf8.encode c = Utf8.encode expectedChallenge := by
  unfold checkClientData at h
  split at h
  · cases h
  · split at h
    · cases h
    · rename_i hmatches
      rw [Bool.not_eq_true, Bool.not_eq_false', Option.any_eq_true] at hmatches
      obtain ⟨c, hc, hsame⟩ := hmatches
      exact ⟨c, hc, of_decide_eq_true hsame⟩

/-- An accepted assertion names the challenge it was accepted for. -/
theorem verifyOwnerAssertion_challenge {expectedChallenge : JsString} {lastSignCount signCount : Nat}
    (h : assertion.verifyOwnerAssertion crypto passkey expectedChallenge lastSignCount = .ok signCount) :
    ∃ c, assertion.challenge = some c ∧ Utf8.encode c = Utf8.encode expectedChallenge := by
  unfold verifyOwnerAssertion at h
  split at h
  · cases h
  · cases hdata : assertion.clientData with
    | error e =>
        rw [hdata] at h
        cases h
    | ok data =>
        rw [hdata] at h
        cases hcheck : checkClientData passkey data.2 expectedChallenge with
        | error e =>
            simp only [bind, Except.bind, hcheck] at h
            cases h
        | ok u =>
            obtain ⟨c, hc, hsame⟩ := checkClientData_challenge hcheck
            refine ⟨c, ?_, hsame⟩
            rw [challenge, hdata]
            exact hc

/-- An assertion is accepted for one challenge only. -/
theorem verifyOwnerAssertion_unique {c c' : JsString} (hc : WellFormed c) (hc' : WellFormed c') {m n k l : Nat}
    (h : assertion.verifyOwnerAssertion crypto passkey c m = .ok k)
    (h' : assertion.verifyOwnerAssertion crypto passkey c' n = .ok l) : c = c' := by
  obtain ⟨d, hd, hsame⟩ := verifyOwnerAssertion_challenge h
  obtain ⟨d', hd', hsame'⟩ := verifyOwnerAssertion_challenge h'
  obtain rfl := Option.some.inj (hd.symm.trans hd')
  have hencoded : Utf8.encode c = Utf8.encode c' := hsame.symm.trans hsame'
  rw [← Utf8.decode_encode hc, hencoded, Utf8.decode_encode hc']

end WebAuthnAssertion

end OwnerSwitch
