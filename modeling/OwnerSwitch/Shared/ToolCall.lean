/-
Module: OwnerSwitch.Shared.ToolCall
Layer: Shared
Purpose: What the gateway and the control plane say to each other about a call under review: the agent id contract
  every layer validates with, the call, the purpose its window is registered under, and the closed argument schema
  of the one purpose a merge grant can be signed for.
Imports: Lib.JsValue
Trusted boundary: the Unicode tables behind the display check
Main exports: isValidAgentId, maxKilledAgents, ToolCall, VetoPurpose, MergePrArgs, DisplayNet, parseMergePrArgs,
  mergeArgsFault, buildRenderableApproval
Open obligations: none
-/
import OwnerSwitch.Lib.JsValue

namespace OwnerSwitch

/-! ### Agent ids -/

/-- `MAX_AGENT_ID_CHARS` -/
def maxAgentIdChars : Nat := 128

/-- `MAX_KILLED_AGENTS` -/
def maxKilledAgents : Nat := 64

/-- `FORBIDDEN_AGENT_IDS` -/
def forbiddenAgentIds : List JsString :=
  [js "__proto__", js "constructor", js "prototype"]

/-- `[\x20-\x7e]` -/
def isPrintable (u : UInt16) : Bool :=
  0x20 ≤ u && u ≤ 0x7E

/-- `[\x21-\x7e]` -/
def isVisible (u : UInt16) : Bool :=
  0x21 ≤ u && u ≤ 0x7E

/-- 1–128 printable-ASCII chars, no edge whitespace, no prototype footguns. -/
def isValidAgentId (value : JsString) : Bool :=
  1 ≤ value.length && value.length ≤ maxAgentIdChars
    && (value.all isPrintable && value.head?.any isVisible && value.getLast?.any isVisible)
    && !forbiddenAgentIds.contains value

/-! ### Calls -/

structure ToolCall where
  agentId : JsString
  tool : JsString
  args : Option Json

structure VetoPurpose where
  connector : JsString
  operation : JsString
  policyVersion : JsString

/-! ### Canonical text -/

mutual

/-- The same value with the properties of every object by name. -/
def stable : Json → Json
  | .arr items => .arr (stableItems items)
  | .obj fields => .obj (Json.ofEntries ((stableFields fields).mergeSort fun a b => JsString.le a.1 b.1))
  | v => v

def stableItems : List Json → List Json
  | [] => []
  | item :: items => stable item :: stableItems items

def stableFields : List (JsString × Json) → List (JsString × Json)
  | [] => []
  | (k, v) :: fields => (k, stable v) :: stableFields fields

end

/-- `canonicalJson` of what a value is written as; `JsValue.canonicalJson` is that of the value itself. -/
def canonicalJson (value : Json) : JsString :=
  Json.stringify (stable value)

/-- `canonicalJson(call.args ?? {})` -/
def ToolCall.canonicalArgs (call : ToolCall) : JsString :=
  canonicalJson (call.args.getD (.obj []))

/-! ### The merge purpose -/

/-- `GITHUB_CONNECTOR` -/
def githubConnector : JsString := js "github"

/-- `MERGE_PULL_REQUEST` -/
def mergePullRequest : JsString := js "merge_pull_request"

inductive MergeMethod where
  | merge | squash | rebase
  deriving DecidableEq, Repr

structure MergePrArgs where
  owner : JsString
  repo : JsString
  pullNumber : Nat
  expectedHeadSha : JsString
  expectedBaseRef : JsString
  mergeMethod : Option MergeMethod

/-- `MERGE_PR_CANONICAL_KEYS` -/
def mergePrCanonicalKeys : List JsString :=
  [js "owner", js "repo", js "pullNumber", js "mergeMethod", js "expectedHeadSha", js "expectedBaseRef"]

/-- `MAX_BASE_REF_LENGTH` -/
def maxBaseRefLength : Nat := 300

/-- A full commit id: 40 or 64 hex digits of either case. -/
def isCommitId (s : JsString) : Bool :=
  (s.length = 40 || s.length = 64) &&
    s.all fun u => (0x30 ≤ u && u ≤ 0x39) || (0x61 ≤ u && u ≤ 0x66) || (0x41 ≤ u && u ≤ 0x46)

/-- A non-empty text field. -/
def textField (parsed : Json) (key : JsString) : Option JsString := do
  let value ← (parsed.get key).bind Json.str?
  if value.isEmpty then none else some value

/-- The method a merge asks for; the outer option is whether the field is acceptable. -/
def mergeMethodOf : Option Json → Option (Option MergeMethod)
  | none => some none
  | some v =>
      if v.str? = some (js "merge") then some (some .merge)
      else if v.str? = some (js "squash") then some (some .squash)
      else if v.str? = some (js "rebase") then some (some .rebase)
      else none

mutual

/-- `String(value)`, which throws where this is `none`: an own `toString` hides the one that works. -/
def stringOf : Json → Option JsString
  | .null => some (js "null")
  | .bool b => some (if b then js "true" else js "false")
  | .num d => some (Double.ofDecimal d).text
  | .str s => some s
  | .arr items => (itemTexts items).map (joinStrings (js ","))
  | .obj fields => if fields.any fun (key, _) => key = js "toString" then none else some (js "[object Object]")

/-- The texts an array is joined from. -/
def itemTexts : List Json → Option (List JsString)
  | [] => some []
  | .null :: items => (itemTexts items).map ([] :: ·)
  | item :: items => do
      let text ← stringOf item
      let texts ← itemTexts items
      some (text :: texts)

end

/-- The message `parseMergePrArgs` throws with, where it throws. -/
def mergeArgsFault (canonicalArgs : JsString) : JsString :=
  match Json.parse canonicalArgs with
  | none => js "canonicalArgs is not valid JSON"
  | some (.obj fields) =>
      let parsed : Json := .obj fields
      match fields.find? fun (key, _) => !mergePrCanonicalKeys.contains key with
      | some (key, _) =>
          js "unknown argument \"" ++ key ++
            js "\" for merge_pull_request — the argument schema is closed: owner, repo, pullNumber, mergeMethod, expectedHeadSha, expectedBaseRef"
      | none =>
          if (textField parsed (js "owner")).isNone then js "merge_pull_request requires owner"
          else if (textField parsed (js "repo")).isNone then js "merge_pull_request requires repo"
          else if ((parsed.get (js "pullNumber")).bind JsValue.safeNat?).all (· = 0) then
            js "merge_pull_request requires a safe positive integer pullNumber"
          else if (mergeMethodOf (parsed.get (js "mergeMethod"))).isNone then
            match (parsed.get (js "mergeMethod")).bind stringOf with
            | some text => js "unknown mergeMethod \"" ++ text ++ js "\""
            | none => js "Cannot convert object to primitive value"
          else if !(textField parsed (js "expectedHeadSha")).any isCommitId then
            js "merge_pull_request requires expectedHeadSha: a full 40- or 64-character hex commit id, pinned by OwnerSwitch at review time"
          else
            js "merge_pull_request requires expectedBaseRef: the destination branch pinned by OwnerSwitch at review time (non-empty, bounded, and PRINTABLE ASCII — a non-ASCII branch name is refused rather than risk a homoglyph the owner cannot distinguish)"
  | some _ => js "canonicalArgs must be a JSON object"

/-- The Unicode tables a display check consults: whether a text has a character that a renderer drops or
    reorders, and whether it is in NFC. -/
structure DisplayNet where
  forbidden : JsString → Bool
  isNfc : JsString → Bool

namespace DisplayNet

variable (net : DisplayNet)

def isSafeToDisplay (value : JsString) : Bool :=
  !net.forbidden value && net.isNfc value

def isAsciiDisplaySafeRef (value : JsString) : Bool :=
  !value.isEmpty && value.all (fun u => 0x21 ≤ u && u ≤ 0x7E) && net.isSafeToDisplay value

/-- `parseMergePrArgs`, which throws where this is `none`. -/
def parseMergePrArgs (canonicalArgs : JsString) : Option MergePrArgs := do
  let parsed ← Json.parse canonicalArgs
  let .obj fields := parsed | none
  if fields.any fun (key, _) => !mergePrCanonicalKeys.contains key then none
  let owner ← textField parsed (js "owner")
  let repo ← textField parsed (js "repo")
  let pullNumber ← (parsed.get (js "pullNumber")).bind JsValue.safeNat?
  if pullNumber = 0 then none
  let mergeMethod ← mergeMethodOf (parsed.get (js "mergeMethod"))
  let expectedHeadSha ← textField parsed (js "expectedHeadSha")
  if !isCommitId expectedHeadSha then none
  let expectedBaseRef ← textField parsed (js "expectedBaseRef")
  if expectedBaseRef.length > maxBaseRefLength || !net.isAsciiDisplaySafeRef expectedBaseRef then none
  some { owner, repo, pullNumber, expectedHeadSha, expectedBaseRef, mergeMethod }

/-- `buildRenderableApproval`: the fields the owner is shown, unless one of them is unsafe to display. -/
def buildRenderableApproval (args : MergePrArgs) : Option MergePrArgs :=
  if net.isSafeToDisplay args.owner && net.isSafeToDisplay args.repo && net.isSafeToDisplay args.expectedBaseRef
      && net.isSafeToDisplay args.expectedHeadSha then some args
  else none

end DisplayNet

end OwnerSwitch
