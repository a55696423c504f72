/-
Module: OwnerSwitch.ControlPlane.Enrollment
Layer: ControlPlane
Purpose: The enrollment spend path: the wire envelope of a submission, the proof chain over the invite it names, and
  the burn, which nothing but the whole chain reaches.
Imports: Shared.OwnerDeviceSig, ControlPlane.Invites, ControlPlane.WebAuthn
Trusted boundary: the attestation parser, the two SPKI parsers and the signature check are parameters
Main exports: EnrollmentCrypto, EnrollmentOutcome, performEnrollment, EnrollmentCase, performEnrollment_cases
Open obligations: none
-/
import OwnerSwitch.Shared.OwnerDeviceSig
import OwnerSwitch.ControlPlane.Invites
import OwnerSwitch.ControlPlane.WebAuthn

namespace OwnerSwitch

/-- A registration that `verifyOwnerRegistration` accepts. -/
structure OwnerRegistration where
  credentialId : JsString
  publicKeySpki : JsString
  signCount : Nat
  transports : Option (List JsString)

structure VerifyRegistrationOptions where
  rpId : JsString
  expectedOrigin : JsString
  expectedChallenge : JsString

/-- What the proof chain rests on. A parser that throws returns the message. -/
structure EnrollmentCrypto extends AssertionCrypto where
  verifyOwnerRegistration : Json → VerifyRegistrationOptions → Except JsString OwnerRegistration
  storedSpkiToPem : JsString → Except JsString JsString
  /-- the canonical SPKI DER of the key -/
  enrolledOwnerDeviceFromSpki : JsString → Except JsString Bytes
  /-- `cryptoVerify` of a raw signature under an SPKI DER, which may throw -/
  verifyRaw : Bytes → Bytes → Bytes → Option Bool

/-- The credential as it is stored. The counter is the one of the possession assertion. -/
structure EnrolledCredential where
  credentialId : JsString
  publicKeySpki : JsString
  signCount : Nat
  transports : Option (List JsString)
  userHandle : Option JsString

inductive EnrollmentOutcome where
  | verified (invite : InviteRecord) (credential : EnrolledCredential) (cheapLaneKeySpki : JsString)
  | refused (reason : JsString) (inviteSurvives : Bool)

/-! ### The wire envelope -/

/-- `MAX_FIELD_CHARS` -/
def maxFieldChars : Nat := 128 * 1024

/-- `SUBMISSION_KEYS` -/
def submissionKeys : List JsString :=
  [js "inviteId", js "token", js "registration", js "possessionAssertion", js "cheapLaneKey", js "cheapLaneKeyProof",
    js "deviceName"]

/-- A string that is not empty and not too long. -/
def stringField (value : Option Json) (cap : Nat) : Option JsString :=
  (value.bind Json.str?).filter fun s => s ≠ [] && s.length ≤ cap

/-- The properties of an assertion on the wire. -/
def assertionKeys : List JsString :=
  [js "credentialId", js "clientDataJSON", js "authenticatorData", js "signature", js "userHandle"]

/-- `assertionFrom`: the assertion, and its user handle if it has one. -/
def Enrollment.assertionFrom (value : Json) : Option (WebAuthnAssertion × Option JsString) :=
  match value with
  | .obj fs => do
      guard (fs.all fun f => assertionKeys.contains f.1)
      let credentialId ← stringField (value.get (js "credentialId")) 4096
      let clientDataJSON ← stringField (value.get (js "clientDataJSON")) (64 * 1024)
      let authenticatorData ← stringField (value.get (js "authenticatorData")) (8 * 1024)
      let signature ← stringField (value.get (js "signature")) (4 * 1024)
      let userHandle ← match value.get (js "userHandle") with
        | none => some none
        | some raw => ((stringField (some raw) 256).filter fun handle => isCanonicalB64url handle 1 64).map some
      some ({ credentialId, clientDataJSON, authenticatorData, signature }, userHandle)
  | _ => none

/-- A submission that has every field. -/
structure Submission where
  inviteId : JsString
  token : JsString
  cheapLaneKey : JsString
  cheapLaneKeyProof : JsString
  deviceName : JsString
  registration : Json
  possessionAssertion : Json

/-- The value, or a refusal that the invite survives. -/
def orRefuse {α : Type} (value : Option α) (reason : JsString) : Except JsString α :=
  match value with
  | none => .error reason
  | some a => .ok a

/-- The envelope of `performEnrollment`: exact keys, strings, size caps. -/
def submissionFrom (submission : Json) : Except JsString Submission :=
  match submission with
  | .obj fs => do
      match fs.find? fun f => !submissionKeys.contains f.1 with
      | some f => .error (js "unexpected enrolment property " ++ Json.quote f.1)
      | none => .ok ()
      let inviteId ← orRefuse (stringField (submission.get (js "inviteId")) 256)
        (js "inviteId must be a non-empty string")
      let token ← orRefuse (stringField (submission.get (js "token")) 256) (js "token must be a non-empty string")
      let cheapLaneKey ← orRefuse (stringField (submission.get (js "cheapLaneKey")) (8 * 1024))
        (js "cheapLaneKey must be a non-empty string")
      let cheapLaneKeyProof ← orRefuse (stringField (submission.get (js "cheapLaneKeyProof")) 1024)
        (js "cheapLaneKeyProof must be a non-empty string")
      let deviceName ← orRefuse (stringField (submission.get (js "deviceName")) 200)
        (js "deviceName is required — the label committed at mint, repeated as confirmation")
      let registration ← orRefuse (submission.get (js "registration")) (js "registration is required")
      let possessionAssertion ← orRefuse (submission.get (js "possessionAssertion"))
        (js "possessionAssertion is required — with attestation \"none\" only a fresh assertion with the new credential proves the client holds its private key")
      if (registration.str?).any fun s => maxFieldChars < s.length then .error (js "registration is oversized")
      else .ok { inviteId, token, cheapLaneKey, cheapLaneKeyProof, deviceName, registration, possessionAssertion }
  | _ => .error (js "enrolment must be a JSON object")

/-! ### The proof chain -/

section Chain

variable (crypto : EnrollmentCrypto)

/-- `verifyEnrollProofOfPossession` under the canonical SPKI DER of the cheap-lane key. -/
def verifyEnrollProofOfPossession (inviteId ownerId credentialId proof : JsString) (spki : Bytes) : Bool :=
  match Base64url.decode credentialId with
  | none => false
  | some credentialId =>
      match ownerEnrollPopPreimage { inviteId, ownerId, credentialId, spki } with
      | .error _ => false
      | .ok preimage =>
          match Base64url.decode proof with
          | none => false
          | some signature => signature.length = 64 && crypto.verifyRaw spki preimage signature = some true

/-- The proofs of a submission over the invite it names: the credential and the cheap-lane key they establish, or the
    reason of a refusal that the invite survives. -/
def proofChain (rpId expectedOrigin : JsString) (submission : Submission) (invite : InviteRecord) :
    Except JsString (EnrolledCredential × JsString) := do
  if submission.deviceName ≠ invite.deviceName then
    .error (js "deviceName does not match the label committed at mint")
  else .ok ()
  let registration ←
    match crypto.verifyOwnerRegistration submission.registration
        { rpId, expectedOrigin, expectedChallenge := invite.challenge } with
    | .error reason => .error (js "registration refused: " ++ reason)
    | .ok registration => .ok registration
  let (assertion, userHandle) ← orRefuse (Enrollment.assertionFrom submission.possessionAssertion)
    (js "possessionAssertion is malformed")
  let publicKeyPem ←
    match crypto.storedSpkiToPem registration.publicKeySpki with
    | .error reason => .error (js "registration key unusable: " ++ reason)
    | .ok pem => .ok pem
  let signCount ←
    match assertion.verifyOwnerAssertion crypto.toAssertionCrypto
        { credentialId := registration.credentialId, publicKeyPem, rpId, origin := expectedOrigin }
        invite.assertionChallenge registration.signCount with
    | .error reason => .error (js "possession assertion refused: " ++ reason)
    | .ok signCount => .ok signCount
  let spki ←
    match crypto.enrolledOwnerDeviceFromSpki submission.cheapLaneKey with
    | .error message => .error (js "cheapLaneKey refused: " ++ message)
    | .ok spki => .ok spki
  if !verifyEnrollProofOfPossession crypto submission.inviteId invite.ownerId registration.credentialId
      submission.cheapLaneKeyProof spki then
    .error (js "cheap-lane proof of possession refused")
  else
    .ok ({ credentialId := registration.credentialId, publicKeySpki := registration.publicKeySpki, signCount,
           transports := registration.transports, userHandle }, Base64url.encode spki)

/-- `performEnrollment`: what it answers, and the book. The clock is read at the look-up and at the burn. -/
def performEnrollment (submission : Json) (store : InviteStore) (witness : InviteSpendWitness)
    (rpId expectedOrigin : JsString) (peeked consumed : Int) : EnrollmentOutcome × InviteStore :=
  match submissionFrom submission with
  | .error reason => (.refused reason true, store)
  | .ok submission =>
      let (invite, store) := store.peek peeked submission.inviteId
      match invite with
      | none => (.refused (js "unknown, expired, or already-spent invite") false, store)
      | some invite =>
          match proofChain crypto rpId expectedOrigin submission invite with
          | .error reason => (.refused reason true, store)
          | .ok (credential, cheapLaneKeySpki) =>
              let (burn, store) := store.consume crypto.sha256 consumed submission.inviteId submission.token witness
              match burn with
              | .refused reason fate => (.refused reason (fate = .alive), store)
              | .spent record => (.verified record credential cheapLaneKeySpki, store)

/-- The id of the invite a submission names. -/
def namedInvite (submission : Json) : Option JsString :=
  match submissionFrom submission with
  | .error _ => none
  | .ok submission => some submission.inviteId

open InviteStore

/-- How an enrollment can go. -/
inductive EnrollmentCase (submission : Json) (store : InviteStore) (witness : InviteSpendWitness)
    (peeked consumed : Int) :
    EnrollmentOutcome × InviteStore → Prop where
  | alive {reason after} (loses : LosesExpired (· = peeked) store after) :
      EnrollmentCase submission store witness peeked consumed (.refused reason true, after)
  | gone {reason after inviteId} (named : namedInvite submission = some inviteId)
      (unlisted : after.invites.get? inviteId = none) (kept : LosesExpired (· = peeked) store after ∨
        ∃ read, LosesExpired (· = peeked) store read ∧ after = read.drop inviteId) :
      EnrollmentCase submission store witness peeked consumed (.refused reason false, after)
  | verified {record credential key inviteId} (named : namedInvite submission = some inviteId)
      (listed : store.invites.get? inviteId = some record) (live : consumed < record.expiresAt)
      (authorizes : Authorizes witness record.toInviteTerms) :
      EnrollmentCase submission store witness peeked consumed
        (.verified record credential key, (store.drop inviteId).settle record)

theorem performEnrollment_cases (submission : Json) (store : InviteStore) (witness : InviteSpendWitness)
    (rpId expectedOrigin : JsString) (peeked consumed : Int) :
    EnrollmentCase submission store witness peeked consumed
      (performEnrollment crypto submission store witness rpId expectedOrigin peeked consumed) := by
  unfold performEnrollment
  cases henvelope : submissionFrom submission with
  | error reason => exact .alive (.refl _ _)
  | ok fields =>
      have hnamed : namedInvite submission = some fields.inviteId := by rw [namedInvite, henvelope]
      have hloses := losesExpired_peek store peeked fields.inviteId
      obtain ⟨hread, hlive⟩ := peek_spec store peeked fields.inviteId
      dsimp only
      cases hpeek : (store.peek peeked fields.inviteId).1 with
      | none =>
          rw [hpeek] at hread
          exact .gone hnamed hread (.inl hloses)
      | some invite =>
          dsimp only
          cases hproofs : proofChain crypto rpId expectedOrigin fields invite with
          | error reason => exact .alive hloses
          | ok proved =>
              -- a look-up that finds the invite leaves the book as it was
              have hsame : (store.peek peeked fields.inviteId).2 = store := by
                unfold peek at hpeek ⊢
                cases hget : store.invites.get? fields.inviteId with
                | none => rfl
                | some record =>
                    rw [hget] at hpeek
                    dsimp only at hpeek ⊢
                    split at hpeek
                    · cases hpeek
                    · rename_i hunexpired
                      rw [if_neg hunexpired]
              rw [hsame] at hloses ⊢
              have hcase := consume_cases store crypto.sha256 consumed fields.inviteId fields.token witness
              dsimp only
              generalize store.consume crypto.sha256 consumed fields.inviteId fields.token witness = result at hcase ⊢
              cases hcase with
              | alive => exact .alive hloses
              | absent hunlisted => exact .gone hnamed hunlisted (.inl hloses)
              | dropped hgone =>
                  rename_i reason fate
                  have hfate : decide (fate = InviteFate.alive) = false := decide_eq_false hgone
                  simp only [hfate]
                  exact .gone hnamed (get?_drop_self _) (.inr ⟨store, hloses, rfl⟩)
              | spent hlisted hunexpired hauthorizes => exact .verified hnamed hlisted hunexpired hauthorizes

end Chain

end OwnerSwitch
