/-
Module: OwnerSwitch.Shared.MergeGrant
Layer: Shared
Purpose: The merge grant on the wire: the message its signature covers, and the verification the broker makes of
  whatever is presented to it.
Imports: Lib.Octets, Shared.CanonicalJson
Trusted boundary: SHA-256 and its HMAC are parameters
Main exports: PresentedGrant, grantMessage, verifyMergeGrant, grantMessage_injective, verifyMergeGrant_ok
Open obligations: none
-/
import OwnerSwitch.Lib.Octets
import OwnerSwitch.Shared.CanonicalJson

namespace OwnerSwitch

/-- A grant as it is presented: its numbers are whatever a numeral says, as far as the checks allow. -/
structure PresentedGrant where
  jti : JsString
  agentId : JsString
  tool : JsString
  connector : JsString
  operation : JsString
  policyVersion : JsString
  canonicalArgs : JsString
  callHash : JsString
  killEpoch : Int
  expiresAt : Decimal
  deriving DecidableEq, Repr

namespace PresentedGrant

variable (g : PresentedGrant)

/-- The signed fields. -/
def fields : List (JsString × Json) :=
  [(js "v", .num (.ofInt 2)), (js "jti", .str g.jti), (js "agentId", .str g.agentId), (js "tool", .str g.tool),
    (js "connector", .str g.connector), (js "operation", .str g.operation),
    (js "policyVersion", .str g.policyVersion), (js "canonicalArgs", .str g.canonicalArgs),
    (js "callHash", .str g.callHash), (js "killEpoch", .num (.ofInt g.killEpoch)), (js "expiresAt", .num g.expiresAt)]

/-- `grantMessage` -/
def grantMessage : JsString :=
  canonicalJson (.obj g.fields)

end PresentedGrant

/-- The hash and its keyed form: a key, then a message. -/
structure GrantCrypto where
  sha256 : Bytes → Bytes
  hmacSha256 : Bytes → Bytes → Bytes

namespace GrantCrypto

variable (crypto : GrantCrypto)

/-- What `createHmac("sha256", grantKey)` makes of a grant. -/
def signature (grantKey : JsString) (grant : PresentedGrant) : Bytes :=
  crypto.hmacSha256 (Utf8.encode grantKey) (Utf8.encode grant.grantMessage)

/-- The fields of what is presented, where they have the types of a grant's, with its signature. -/
def presentedFields (s : Json) : Option (PresentedGrant × JsString) := do
  let text (key : JsString) := (s.get key).bind Json.str?
  let jti ← text (js "jti")
  let agentId ← text (js "agentId")
  let tool ← text (js "tool")
  let connector ← textField s (js "connector")
  let operation ← textField s (js "operation")
  let policyVersion ← text (js "policyVersion")
  let canonicalArgs ← text (js "canonicalArgs")
  let callHash ← text (js "callHash")
  let killEpoch ← ((s.get (js "killEpoch")).bind Json.num?).bind Decimal.toInt?
  if Json.maxSafeInteger < |killEpoch| then none
  let expiresAt ← (s.get (js "expiresAt")).bind Json.num?
  let sig ← textField s (js "sig")
  some ({ jti, agentId, tool, connector, operation, policyVersion, canonicalArgs, callHash, killEpoch, expiresAt }, sig)

/-- `verifyMergeGrant`: the grant, or the reason it is rejected for. -/
def verifyMergeGrant (signed : Option Json) (grantKey : JsString) (now : Int) : Except JsString PresentedGrant :=
  if grantKey.isEmpty then .error (js "no grant key configured")
  else
    match signed with
    | some (.obj fields) => verify (.obj fields)
    | some (.arr items) => verify (.arr items)
    | _ => .error (js "grant is not an object")
where
  verify (s : Json) : Except JsString PresentedGrant :=
    if (s.get (js "v")).bind Json.num? ≠ some (.ofInt 2) then .error (js "unsupported grant version")
    else
      match presentedFields s with
      | none => .error (js "grant is missing or malformed fields")
      | some (grant, sig) =>
          if fromHex sig ≠ crypto.signature grantKey grant then .error (js "grant signature does not verify")
          else if hexText (crypto.sha256 (Utf8.encode grant.canonicalArgs)) ≠ grant.callHash then
            .error (js "grant callHash does not match its canonicalArgs")
          else if !grant.expiresAt.atMost now then .ok grant
          else .error (js "grant has expired")

/-- What a verified grant has behind it: a signature over it was presented, and it has not expired. -/
structure Verified (signed : Option Json) (grantKey : JsString) (now : Int) (grant : PresentedGrant) : Prop where
  signed : ∃ s sig, signed = some s ∧ presentedFields s = some (grant, sig) ∧
    fromHex sig = crypto.signature grantKey grant
  callHash : hexText (crypto.sha256 (Utf8.encode grant.canonicalArgs)) = grant.callHash
  alive : grant.expiresAt.atMost now = false

/-- A grant that is accepted is one that the key has signed for this call, and it has not expired. -/
theorem verifyMergeGrant_ok {signed : Option Json} {grantKey : JsString} {now : Int} {grant : PresentedGrant}
    (h : crypto.verifyMergeGrant signed grantKey now = .ok grant) : crypto.Verified signed grantKey now grant := by
  have hverify : ∃ s, signed = some s ∧ verifyMergeGrant.verify crypto grantKey now s = .ok grant := by
    unfold verifyMergeGrant at h
    split_ifs at h
    split at h
    · exact ⟨_, rfl, h⟩
    · exact ⟨_, rfl, h⟩
    · cases h
  obtain ⟨s, rfl, hs⟩ := hverify
  unfold verifyMergeGrant.verify at hs
  split_ifs at hs
  split at hs
  · cases hs
  · rename_i g sig hfields
    split_ifs at hs with hsig hhash halive
    cases hs
    constructor
    · exact ⟨s, sig, rfl, hfields, not_not.mp hsig⟩
    · exact not_not.mp hhash
    · simpa using halive

end GrantCrypto

/-! ### The signed message determines the grant -/

theorem PresentedGrant.fields_nodup (g : PresentedGrant) : (g.fields.map Prod.fst).Nodup := by
  show [js "v", js "jti", js "agentId", js "tool", js "connector", js "operation", js "policyVersion",
    js "canonicalArgs", js "callHash", js "killEpoch", js "expiresAt"].Nodup
  decide

/-- The signed message tells grants apart. -/
theorem grantMessage_injective {g g' : PresentedGrant} (h : g.grantMessage = g'.grantMessage) : g = g' := by
  have hget := get_of_canonicalJson_eq g.fields_nodup g'.fields_nodup h
  have htext : ∀ (key : JsString) {s t : JsString}, (Json.obj g.fields).get key = some (.str s) →
      (Json.obj g'.fields).get key = some (.str t) → s = t := by
    intro key s t hs ht
    have hkey := hget key
    rw [hs, ht] at hkey
    simpa using hkey
  have hnum : ∀ (key : JsString) {d e : Decimal}, (Json.obj g.fields).get key = some (.num d) →
      (Json.obj g'.fields).get key = some (.num e) → d = e := by
    intro key d e hd he
    have hkey := hget key
    rw [hd, he] at hkey
    simpa using hkey
  have hepoch := Decimal.ofInt_injective (hnum (js "killEpoch") rfl rfl)
  cases g
  cases g'
  simp only [PresentedGrant.mk.injEq]
  exact ⟨htext (js "jti") rfl rfl, htext (js "agentId") rfl rfl, htext (js "tool") rfl rfl,
    htext (js "connector") rfl rfl, htext (js "operation") rfl rfl,
    htext (js "policyVersion") rfl rfl, htext (js "canonicalArgs") rfl rfl,
    htext (js "callHash") rfl rfl, hepoch, hnum (js "expiresAt") rfl rfl⟩

end OwnerSwitch
