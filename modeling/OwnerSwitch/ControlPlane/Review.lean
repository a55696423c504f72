/-
Module: OwnerSwitch.ControlPlane.Review
Layer: ControlPlane
Purpose: What the routes read off a registered window: whether it may mint a merge grant, the envelope the
  owner is shown and confirms, the hashes both are bound to, and what a registration body is accepted as.
Imports: ControlPlane.Veto, ControlPlane.WebAuthn, Lib.Octets
Trusted boundary: SHA-256 and the Unicode tables are parameters
Main exports: Primitives, grantEligibleArgs, ackableContent, renderContentHashOf, callHashOf, MergeGrant,
  toolCallFrom, vetoPurposeFrom
Open obligations: none
-/
import OwnerSwitch.ControlPlane.Veto
import OwnerSwitch.ControlPlane.WebAuthn
import OwnerSwitch.Lib.Octets

namespace OwnerSwitch

/-- What the routes take from the platform: the Unicode tables, the hash and signature verification, and the strict
    parser of public keys. -/
structure Primitives where
  net : DisplayNet
  crypto : AssertionCrypto
  parseSpki : JsString → Option JsString

/-- The characters of a text, as a loop over it sees them. -/
def codePoints : JsString → List JsString
  | [] => []
  | [u] => [[u]]
  | u :: v :: rest =>
      if isHighSurrogate u && isLowSurrogate v then [u, v] :: codePoints rest else [u] :: codePoints (v :: rest)

def codePointLength (text : JsString) : Nat :=
  (codePoints text).length

/-! ### The alert envelope -/

structure RenderableAlert where
  agentId : JsString
  tool : JsString
  summary : JsString
  deriving DecidableEq, Repr

/-- `RENDERABLE_ALERT_V1_LIMITS.agentId` and `.tool` -/
def maxAlertName : Nat := 64

/-- `RENDERABLE_ALERT_V1_LIMITS.summary` -/
def maxAlertSummary : Nat := 200

/-- `validateRenderableAlert(alert) === null`, for an envelope of the right shape. -/
def RenderableAlert.conforms (net : DisplayNet) (alert : RenderableAlert) : Bool :=
  [(alert.agentId, maxAlertName), (alert.tool, maxAlertName), (alert.summary, maxAlertSummary)].all
    fun (value, limit) =>
    codePointLength value ≤ limit && !net.forbidden value

/-- `canonicalRenderableAlert` -/
def RenderableAlert.canonical (alert : RenderableAlert) : JsString :=
  canonicalJson (.obj [(js "v", .num (.ofInt 1)), (js "agentId", .str alert.agentId), (js "tool", .str alert.tool),
    (js "summary", .str alert.summary)])

/-- The text of a method; a merge without one is the default. -/
def mergeMethodText : Option MergeMethod → JsString
  | some .squash => js "squash"
  | some .rebase => js "rebase"
  | _ => js "merge"

/-- A merge grant; it is signed as a whole. -/
structure MergeGrant where
  jti : JsString
  agentId : JsString
  tool : JsString
  connector : JsString
  operation : JsString
  policyVersion : JsString
  canonicalArgs : JsString
  callHash : JsString
  killEpoch : Nat
  expiresAt : Int
  deriving DecidableEq, Repr

namespace Primitives

variable (prim : Primitives)

def sha256Hex (text : JsString) : JsString :=
  hexText (prim.crypto.sha256 (Utf8.encode text))

/-- Whether a purpose is the one a grant can be minted for. -/
def isMergePurpose (purpose : VetoPurpose) : Bool :=
  purpose.connector = githubConnector && purpose.operation = mergePullRequest

/-- The canonical arguments of a window, if it may mint a merge grant. -/
def grantEligibleArgs (window : VetoWindow) : Option JsString :=
  if window.purpose.any isMergePurpose && (prim.net.parseMergePrArgs window.call.canonicalArgs).isSome then
    some window.call.canonicalArgs
  else none

/-- The sentence that names the operation, unless the window cannot be rendered decision-completely. -/
def decisionCompleteSummary (window : VetoWindow) : Option JsString :=
  match window.purpose with
  | some purpose => do
      if !isMergePurpose purpose then none
      let canonicalArgs ← prim.grantEligibleArgs window
      let args ← prim.net.parseMergePrArgs canonicalArgs
      let approval ← prim.net.buildRenderableApproval args
      some (js "Merge " ++ approval.owner ++ js "/" ++ approval.repo ++ js "#" ++ Json.natText approval.pullNumber
        ++ js " into " ++ approval.expectedBaseRef ++ js " — " ++ mergeMethodText approval.mergeMethod ++ js ", head "
        ++ approval.expectedHeadSha.take 12)
  | none =>
      let canonicalArgs := window.call.canonicalArgs
      let summary := if canonicalArgs = js "{}" then js "(no arguments)" else canonicalArgs
      if prim.net.forbidden summary || codePointLength summary > maxAlertSummary then none else some summary

/-- The content an ack confirms, unless the window is not ackable. -/
def ackableContent (window : VetoWindow) : Option RenderableAlert := do
  let summary ← prim.decisionCompleteSummary window
  let alert : RenderableAlert := { agentId := window.call.agentId, tool := window.call.tool, summary }
  if alert.conforms prim.net then some alert else none

/-- What is displayed: the ackable envelope, or a stripped one that asks for full approval. -/
def displayEnvelope (window : VetoWindow) (ackable : Option RenderableAlert) : RenderableAlert :=
  let strip (text : JsString) : JsString :=
    (((codePoints text).filter fun ch => !prim.net.forbidden ch).take maxAlertName).flatten
  match ackable with
  | some alert => alert
  | none =>
      { agentId := strip window.call.agentId, tool := strip window.call.tool
        summary := js "This action needs full owner approval — open OwnerSwitch to review." }

def renderContentHashOf (alert : RenderableAlert) : JsString :=
  Base64url.encode (prim.crypto.sha256 (Utf8.encode alert.canonical))

/-- The hash of the call bytes a delivery is bound to. -/
def callHashOf (window : VetoWindow) : JsString :=
  prim.sha256Hex window.call.canonicalArgs

/-- The typed view of a merge the owner approves: `RenderableApprovalV1`. -/
def renderableApproval (args : MergePrArgs) : Json :=
  .obj
    [(js "v", .num (.ofInt 1)), (js "action", .str (js "github.merge_pull_request")), (js "owner", .str args.owner),
      (js "repo", .str args.repo), (js "pullNumber", .num (.ofInt args.pullNumber)),
      (js "expectedHeadSha", .str args.expectedHeadSha), (js "expectedBaseRef", .str args.expectedBaseRef),
      (js "mergeMethod", .str (match args.mergeMethod with
        | none => js "default"
        | some method => mergeMethodText (some method)))]

theorem grantEligibleArgs_tick (w : VetoWindow) (witnessStanding : WitnessStanding) (now : Int) :
    prim.grantEligibleArgs (w.tick witnessStanding now) = prim.grantEligibleArgs w := by
  have hsame := w.tick_sameReview witnessStanding now
  unfold grantEligibleArgs
  rw [hsame.call, hsame.purpose]

end Primitives

/-! ### What a registration is accepted as -/

/-- `toolCallFrom` -/
def toolCallFrom (value : Option Json) : Option ToolCall := do
  let value ← value
  let .obj _ := value | none
  let agentId ← (value.get (js "agentId")).bind Json.str?
  if !isValidAgentId agentId then none
  let tool ← (value.get (js "tool")).bind Json.str?
  if tool.isEmpty then none
  match value.get (js "args") with
  | none => some { agentId, tool, args := none }
  | some (.obj fields) => some { agentId, tool, args := some (.obj fields) }
  | some _ => none

/-- `vetoPurposeFrom`: the purpose of a registration, or why it is refused. -/
def vetoPurposeFrom (net : DisplayNet) (value : Option Json) (call : ToolCall) : Except JsString (Option VetoPurpose) :=
  match value with
  | none => .ok none
  | some (.obj fields) =>
      let known := [js "connector", js "operation", js "policyVersion"]
      match fields.find? fun (key, _) => !known.contains key with
      | some (key, _) =>
          .error (js "unknown purpose field \"" ++ key ++ js "\" — allowed: connector, operation, policyVersion")
      | none =>
          match textField (.obj fields) (js "connector") with
          | none => .error (js "purpose.connector must be a non-empty string")
          | some connector =>
              match textField (.obj fields) (js "operation") with
              | none => .error (js "purpose.operation must be a non-empty string")
              | some operation =>
                  let purpose (policyVersion : JsString) : Except JsString (Option VetoPurpose) :=
                    let purpose : VetoPurpose := { connector, operation, policyVersion }
                    if Primitives.isMergePurpose purpose && (net.parseMergePrArgs call.canonicalArgs).isNone then
                      .error (js "a github/merge_pull_request window requires arguments that parse under the closed merge schema")
                    else .ok (some purpose)
                  match (Json.obj fields).get (js "policyVersion") with
                  | none => purpose []
                  | some (.str policyVersion) => purpose policyVersion
                  | some _ => .error (js "purpose.policyVersion must be a string when present")
  | some _ => .error (js "purpose must be an object with string connector and operation")

end OwnerSwitch
