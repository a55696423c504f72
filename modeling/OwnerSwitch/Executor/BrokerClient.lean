/-
Module: OwnerSwitch.Executor.BrokerClient
Layer: Executor
Purpose: The gateway's end of the merge broker's socket. An exchange writes one request and reads one line, and ends once,
  whatever else happens to the socket; the client turns its end into the result of a merge, an error that says whether
  the merge was performed, or a pinned head.
Imports: Executor.MergeBroker, Lib.LineReader
Trusted boundary: which events the socket has; a destroyed socket does not connect
Main exports: BrokerRequest, WireResponse.wire, Exchange, SocketEvent, BrokerMergeClient, mergePullRequest
Open obligations: none
-/
import OwnerSwitch.Executor.MergeBroker
import OwnerSwitch.Lib.LineReader

namespace OwnerSwitch

/-! ### What is written to the socket -/

def MergePrArgs.wire (args : MergePrArgs) : Json :=
  .obj (Json.present
    [(js "owner", some (.str args.owner)),
      (js "repo", some (.str args.repo)),
      (js "pullNumber", some (.num (.ofInt args.pullNumber))),
      (js "expectedHeadSha", some (.str args.expectedHeadSha)),
      (js "expectedBaseRef", some (.str args.expectedBaseRef)),
      (js "mergeMethod", args.mergeMethod.map fun method => .str (GitHubMergeClient.methodText method))])

/-- What `exchange` is called with. -/
inductive BrokerRequest where
  | pinHead (owner repo : JsString) (pullNumber : Nat)
  | merge (grant : Json) (args : MergePrArgs)

def BrokerRequest.wire : BrokerRequest → Json
  | .pinHead owner repo pullNumber =>
      .obj
        [(js "op", .str (js "pin-head")),
          (js "args", .obj
            [(js "owner", .str owner), (js "repo", .str repo), (js "pullNumber", .num (.ofInt pullNumber))])]
  | .merge grant args => .obj [(js "op", .str (js "merge")), (js "grant", grant), (js "args", args.wire)]

/-- The object `finish` writes. -/
def WireResponse.wire : WireResponse → Json
  | .pinned headSha baseRef =>
      .obj [(js "ok", .bool true), (js "headSha", .str headSha), (js "baseRef", .str baseRef)]
  | .merged isMerged sha message =>
      .obj [(js "ok", .bool true), (js "merged", .bool isMerged), (js "sha", .str sha), (js "message", .str message)]
  | .record fields => .obj [(js "ok", .bool true), (js "record", fields)]
  | .refused error => .obj [(js "ok", .bool false), (js "kind", .str (js "refused")), (js "error", .str error)]
  | .connector outcome error =>
      .obj
        [(js "ok", .bool false), (js "kind", .str (js "connector")), (js "outcome", .str outcome.text),
          (js "error", .str error)]

/-! ### One exchange -/

/-- `MAX_RESPONSE_BYTES` -/
def maxResponseBytes : Nat := 64 * 1024

/-- `BrokerTransportError` -/
structure BrokerTransportError where
  message : JsString
  sent : Bool
  deriving DecidableEq, Repr

/-- The variables of `exchange`, and how its promise was settled. -/
structure Exchange where
  buffer : JsString
  sent : Bool
  settled : Option (Except BrokerTransportError Json)

inductive SocketEvent where
  | connect
  | data (chunk : Bytes)
  | error
  | close
  | timeout

namespace Exchange

def fresh : Exchange :=
  ⟨[], false, none⟩

def fail (x : Exchange) (message : JsString) : Exchange :=
  if x.settled.isSome then x else { x with settled := some (.error ⟨message, x.sent⟩) }

/-- `resolve(JSON.parse(line) ?? {})`, or the rejection of a line that is no JSON. -/
def answered (x : Exchange) (line : JsString) : Except BrokerTransportError Json :=
  match Json.parse line with
  | none => .error ⟨js "the merge broker's response was not JSON", x.sent⟩
  | some .null => .ok (.obj [])
  | some value => .ok value

/-- `socket.on("data")` -/
def receive (x : Exchange) (chunk : Bytes) : Exchange :=
  if x.settled.isSome then x
  else
    let buffer := x.buffer ++ Utf8.decode chunk
    let x := { x with buffer }
    if maxResponseBytes < buffer.length then x.fail (js "the merge broker's response exceeded the size bound")
    else if buffer.contains 0x0A then { x with settled := some (x.answered (buffer.takeWhile (· ≠ 0x0A))) }
    else x

end Exchange

/-- `BrokerMergeClientOptions`, the ledger as what it redacts. -/
structure BrokerMergeClient where
  socketPath : JsString
  timeoutMs : Nat
  redact : JsString → JsString

/-- What `mergePullRequest` resolves with. -/
structure BrokeredMerge where
  merged : Bool
  sha : JsString
  message : JsString
  deriving DecidableEq, Repr

/-- A `ConnectorCallError`, or any other error. -/
inductive BrokerCallError where
  | connector (error : ConnectorCallError)
  | other (message : JsString)
  deriving DecidableEq, Repr

namespace BrokerMergeClient

variable (c : BrokerMergeClient)

/-- An event of the socket, or of the timer beside it. -/
def next (x : Exchange) : SocketEvent → Exchange
  | .connect => if x.settled.isSome then x else { x with sent := true }
  | .data chunk => x.receive chunk
  | .error => x.fail (js "cannot reach the merge broker at \"" ++ c.socketPath ++ js "\" — is it running?")
  | .close => x.fail (js "the merge broker closed the connection without answering")
  | .timeout => x.fail (js "the merge broker did not answer within " ++ Json.natText c.timeoutMs ++ js "ms")

/-- `exchange`, after some events. -/
def exchange (events : List SocketEvent) : Exchange :=
  events.foldl c.next .fresh

/-! ### What the client makes of an exchange -/

def redactedError (res : Json) (fallback : JsString) : JsString :=
  let raw := match (res.get (js "error")).bind Json.str? with
    | some error => if error = [] then fallback else error
    | none => fallback
  (c.redact raw).take 400

def checkYourself (args : MergePrArgs) : JsString :=
  js "Check " ++ args.owner ++ js "/" ++ args.repo ++ js "#" ++ Json.natText args.pullNumber
    ++ js " directly (or query the broker's \x7bop:\"outcome\"\x7d surface) before re-approving — a re-approved merge could run twice."

/-- The transport failed. -/
def transportFailure (args : MergePrArgs) (err : BrokerTransportError) : ConnectorCallError :=
  if err.sent then
    ⟨js "the merge request was sent to the broker but no answer arrived (" ++ err.message
      ++ js ") — the broker may still be performing it, so the outcome is UNKNOWN. " ++ checkYourself args, .unknown⟩
  else ⟨js "the merge was not dispatched: " ++ err.message, .notPerformed⟩

/-- The broker answered. -/
def mergeAnswer (args : MergePrArgs) (res : Json) : Except ConnectorCallError BrokeredMerge :=
  let text (key : JsString) := (res.get key).bind Json.str?
  if (res.get (js "ok")).bind Json.bool? = some true ∧ (res.get (js "merged")).isSome then
    .ok
      { merged := (res.get (js "merged")).bind Json.bool? = some true
        sha := match text (js "sha") with
          | some sha => c.redact sha
          | none => []
        message := match text (js "message") with
          | some message => (c.redact message).take 400
          | none => [] }
  else if text (js "kind") = some (js "connector") then
    .error
      ⟨c.redactedError res (js "the merge failed at the broker"),
        if text (js "outcome") = some (js "not-performed") then .notPerformed else .unknown⟩
  else if text (js "kind") = some (js "refused") then
    .error ⟨c.redactedError res (js "the merge broker refused the request"), .notPerformed⟩
  else
    .error
      ⟨js "the merge broker's answer was unrecognizable (" ++ c.redactedError res (js "no detail")
        ++ js ") — the outcome is UNKNOWN. " ++ checkYourself args, .unknown⟩

/-- What an exchange that ended means for its merge. -/
def mergeOutcome (args : MergePrArgs) : Except BrokerTransportError Json → Except ConnectorCallError BrokeredMerge
  | .error err => .error (transportFailure args err)
  | .ok res => c.mergeAnswer args res

/-- The error of a merge without a grant. -/
def ungranted : ConnectorCallError :=
  ⟨js "the merge was not dispatched — no owner authorization grant (a broker-routed merge requires an owner-gated lane; the merge was not attempted)",
    .notPerformed⟩

/-- `mergePullRequest` after some events of its socket; nothing while its exchange goes on. -/
def mergePullRequest (args : MergePrArgs) (grant : Option Json) (events : List SocketEvent) :
    Option (Except BrokerCallError BrokeredMerge) :=
  match assertSafeRepoName args.repo with
  | .error message => some (.error (.other message))
  | .ok _ =>
      match grant with
      | none => some (.error (.connector ungranted))
      | some _ => (c.exchange events).settled.map fun settled => (c.mergeOutcome args settled).mapError .connector

/-- `getPullRequestHead` after some events of its socket. -/
def getPullRequestHead (repo : JsString) (events : List SocketEvent) : Option (Except JsString (JsString × JsString)) :=
  match assertSafeRepoName repo with
  | .error message => some (.error message)
  | .ok _ =>
      (c.exchange events).settled.map fun settled =>
        match settled with
        | .error err => .error err.message
        | .ok res =>
            let text (key : JsString) := ((res.get key).bind Json.str?).filter (· ≠ [])
            match (res.get (js "ok")).bind Json.bool?, text (js "headSha"), text (js "baseRef") with
            | some true, some headSha, some baseRef => .ok (c.redact headSha, c.redact baseRef)
            | _, _, _ => .error (c.redactedError res (js "the merge broker refused the head-pin read"))

end BrokerMergeClient

end OwnerSwitch
