/-
Module: OwnerSwitch.Executor.MergeBroker
Layer: Executor
Purpose: The merge broker as one process: its connections, the coroutine each of them may run, and the ledger of burned
  grants they share. A coroutine awaits the live kill state, an installation token or GitHub; between two awaits
  it runs to the end, and a timer may answer for it at any await.
Imports: Executor.BurnStore, Executor.Executor, Executor.GitHubClient, Lib.JsMap, Lib.Lts, Shared.CanonicalValue,
  Shared.MergeGrant
Trusted boundary: what the clock, the control plane, the token source and GitHub answer; what becomes of a write to
  the ledger; the text of a syntax error; which values are nested too deep for the call stack of canonicalJson
Main exports: MergeBroker, BrokerState, Connection, MergeTask, BrokerStep, launchMerge, resumeMerge, brokerRuns
Open obligations: none
-/
import OwnerSwitch.Executor.BurnStore
import OwnerSwitch.Executor.Executor
import OwnerSwitch.Executor.GitHubClient
import OwnerSwitch.Lib.JsMap
import OwnerSwitch.Lib.Lts
import OwnerSwitch.Shared.CanonicalValue
import OwnerSwitch.Shared.MergeGrant

namespace OwnerSwitch

/-! ### State -/

/-- `MAX_REQUEST_BYTES` -/
def maxRequestBytes : Nat := 8 * 1024

/-- The configuration of a broker. -/
structure MergeBroker where
  net : DisplayNet
  crypto : GrantCrypto
  grantKey : JsString
  allowedRepos : Option (List JsString)
  requestTimeoutMs : Nat
  client : GitHubMergeClient
  /-- the message of the error `JSON.parse` throws for a text -/
  syntaxError : JsString → JsString
  /-- `canonicalJson` runs out of call stack on the value -/
  overflows : Json → Bool

/-- What is answered over the socket. -/
inductive WireResponse where
  | pinned (headSha baseRef : JsString)
  | merged (merged : Bool) (sha message : JsString)
  | record (record : Json)
  | refused (error : JsString)
  | connector (outcome : ConnectorOutcome) (error : JsString)

/-- `BrokerRefusal`, or any other error. -/
inductive BrokerError where
  | refusal (message : JsString)
  | other (message : JsString)
  deriving DecidableEq, Repr

structure RequestPhase where
  dispatched : Bool
  abandoned : Bool
  jti : Option JsString
  deriving DecidableEq, Repr

/-- What `merge` awaits once its grant is burned; `before` is the epoch of the pre-mint check. -/
inductive MergeStage where
  | probing
  | minting (prUrl : JsString) (before : Int)
  | readingBase (prUrl : JsString) (before : Int) (token : JsString)
  | committing (prUrl : JsString) (before : Int) (token : JsString)
  | putting (prUrl token : JsString)
  | verifying (prUrl token cause : JsString)
  deriving DecidableEq, Repr

/-- `merge` after the burn: the grant it burned and the arguments it carries out. -/
structure MergeTask where
  grant : PresentedGrant
  args : MergePrArgs
  stage : MergeStage

/-- What `pinHead` awaits. -/
inductive PinStage where
  | probing
  | minting
  | reading
  deriving DecidableEq, Repr

structure PinTask where
  owner : JsString
  repo : JsString
  pullNumber : Nat
  stage : PinStage

/-- A suspended coroutine. -/
inductive BrokerTask where
  | pin (task : PinTask)
  | merge (task : MergeTask)

structure Connection where
  buffer : JsString
  done : Bool
  started : Bool
  phase : RequestPhase
  /-- the coroutine of its request, while it is suspended -/
  task : Option BrokerTask
  /-- what was written to the socket -/
  answer : Option WireResponse

def Connection.fresh : Connection :=
  ⟨[], false, false, ⟨false, false, none⟩, none, none⟩

/-- The records of the burn store by jti, and the connections in the order they were accepted. -/
structure BrokerState where
  records : JsMap JsString Json
  connections : List Connection

/-! ### The ledger -/

/-- What becomes of a write to the ledger; a failed one leaves anything or nothing in the record's place. -/
inductive LedgerWrite where
  | written
  | failed (message : JsString) (left : Option Json)

/-- `burns.burn`: the records, and whether the jti was fresh. -/
def burnJti (records : JsMap JsString Json) (jti : JsString) (expiresAt : Decimal) (write : LedgerWrite) (now : Int) :
    JsMap JsString Json × Except JsString BurnResult :=
  if records.has jti then (records, .ok .alreadyBurned)
  else
    match write with
    | .written => (records.set jti (freshRecord jti expiresAt now), .ok .burned)
    | .failed message none => (records, .error message)
    | .failed message (some left) => (records.set jti left, .error message)

/-- The record a patch is applied to. -/
def patchBase (records : JsMap JsString Json) (jti : JsString) (now : Int) : Json :=
  match records.get? jti with
  | none => freshRecord jti (.ofInt 0) now
  | some record => if isUnreadable record then freshRecord jti (.ofInt 0) now else record

/-- `recordOutcome`: a failure is swallowed. -/
def recordOutcome (records : JsMap JsString Json) (jti : JsString) (patch : BurnPatch) (write : LedgerWrite)
    (now : Int) :
    JsMap JsString Json :=
  match write with
  | .written => records.set jti ((patchBase records jti now).assign patch.fields)
  | .failed _ none => records
  | .failed _ (some left) => records.set jti left

def refusedPatch (message : JsString) : BurnPatch :=
  ⟨none, none, .notPerformed, none, none, none, none, none, some message⟩

def connectorErrorPatch (error : ConnectorCallError) : BurnPatch :=
  ⟨none, none, .connectorError, none, some error.outcome.text, none, none, none, some error.message⟩

def mergedPatch (result : MergeResult) : BurnPatch :=
  let state := if result.attribution = .mergedStateOnly then .mergedStateObserved else .performed
  ⟨none, none, state, none, none, some result.merged, some result.sha, some result.message, none⟩

/-! ### The coroutines -/

/-- What a coroutine comes to at its next await: the records it leaves, and where it stands. -/
inductive Progress where
  | suspended (task : BrokerTask)
  | answered (response : WireResponse)
  | thrown (error : BrokerError)

/-- What an await settles with. -/
inductive AwaitResult where
  | live (state : Option LiveKillState)
  | token (token : Except JsString JsString)
  | http (answer : HttpAnswer)

namespace MergeBroker

variable (b : MergeBroker)

def assertRepoAllowed (repo : JsString) : Except BrokerError Unit :=
  match assertSafeRepoName repo with
  | .error message => .error (.other message)
  | .ok () =>
      if b.allowedRepos.all fun allowed => allowed.contains repo then .ok ()
      else .error (.refusal (js "repository \"" ++ repo ++ js "\" is not in the broker's allow-list"))

/-- The message of the `RangeError` for a call stack that has run out. -/
def stackExceeded : JsString := js "Maximum call stack size exceeded"

/-- What a burned grant authorizes: its signed arguments, which the wire arguments match. -/
def authorize (grant : PresentedGrant) (rawArgs : Option Json) : Except BrokerError MergePrArgs :=
  if rawArgs.any b.overflows then .error (.other stackExceeded)
  else if rawArgs.any fun raw => JsValue.canonicalJson (.ofJson raw) ≠ grant.canonicalArgs then
    .error (.refusal (js "supplied args do not match the grant's authorized args"))
  else
    match b.net.parseMergePrArgs grant.canonicalArgs with
    | none =>
        .error (.refusal
          (js "the grant's authorized args are not a valid merge: " ++ mergeArgsFault grant.canonicalArgs))
    | some args =>
        match b.assertRepoAllowed args.repo with
        | .error e => .error e
        | .ok () => .ok args

/-- The `catch` around everything after the burn: a refusal is written down, and every error goes on. -/
def throwBurned (records : JsMap JsString Json) (grant : PresentedGrant) (error : BrokerError) (write : LedgerWrite)
    (now : Int) : JsMap JsString Json × Progress :=
  match error with
  | .refusal message => (recordOutcome records grant.jti (refusedPatch message) write now, .thrown error)
  | .other _ => (records, .thrown error)

/-- `merge` up to its first await. The phase is the connection's, with the jti of a grant it burned. -/
def launchMerge (records : JsMap JsString Json) (phase : RequestPhase) (rawGrant rawArgs : Option Json) (now : Int)
    (burn write : LedgerWrite) : JsMap JsString Json × RequestPhase × Progress :=
  match b.crypto.verifyMergeGrant rawGrant b.grantKey now with
  | .error reason => (records, phase, .thrown (.refusal (js "grant rejected: " ++ reason)))
  | .ok grant =>
      if grant.connector ≠ githubConnector ∨ grant.operation ≠ mergePullRequest then
        (records, phase, .thrown (.refusal
          (js "grant purpose is \"" ++ grant.connector ++ js "." ++ grant.operation ++ js "\", not \"" ++ githubConnector
            ++ js "." ++ mergePullRequest ++ js "\" — this broker performs GitHub merges only")))
      else
        match burnJti records grant.jti grant.expiresAt burn now with
        | (records, .error message) => (records, phase, .thrown (.other message))
        | (records, .ok .alreadyBurned) => (records, phase, .thrown (.refusal (js "grant already used (single-use)")))
        | (records, .ok .burned) =>
            let phase := { phase with jti := some grant.jti }
            match b.authorize grant rawArgs with
            | .error e =>
                let (records, progress) := throwBurned records grant e write now
                (records, phase, progress)
            | .ok args => (records, phase, .suspended (.merge ⟨grant, args, .probing⟩))

/-- Why the answer to the grant-liveness probe refuses the merge. -/
def probeRefusal (grant : PresentedGrant) (before : LiveKillState) : Option JsString :=
  if before.killed then some (js "kill switch engaged (or control plane unreachable) — refused")
  else if before.epoch ≠ grant.killEpoch then
    some (js "kill epoch moved since approval (grant " ++ Json.numText (.ofInt grant.killEpoch) ++ js ", live "
      ++ Json.numText (.ofInt before.epoch) ++ js ") — a kill happened in between")
  else if before.grantLive ≠ some true then
    some (js "the control plane no longer vouches for this grant — vetoed since approval, unknown to it, or it restarted; nothing was dispatched")
  else none

/-- Why `beforeDispatch` throws after its commit is answered. -/
def commitRefusal (phase : RequestPhase) (grant : PresentedGrant) (before : Int) (after : LiveKillState) (now : Int) :
    Option JsString :=
  if after.killed || after.epoch ≠ before then some (js "kill state changed during token minting")
  else if grant.expiresAt.atMost now then
    some (js "the grant expired during token minting — refused before dispatch")
  else if after.committed ≠ some true then
    some (js "the control plane did not commit this grant for dispatch (vetoed, killed, or unknown at commit time) — refused before dispatch")
  else if phase.abandoned then
    some (js "the connection was abandoned during the pre-dispatch checks — not dispatched")
  else none

/-- The inner `try` around the client: its result or its error is recorded and answered. -/
def settleMerge (records : JsMap JsString Json) (grant : PresentedGrant)
    (result : Except ConnectorCallError MergeResult)
    (write : LedgerWrite) (now : Int) : JsMap JsString Json × Progress :=
  match result with
  | .ok result =>
      (recordOutcome records grant.jti (mergedPatch result) write now,
        .answered (.merged result.merged result.sha result.message))
  | .error error =>
      (recordOutcome records grant.jti (connectorErrorPatch error) write now,
        .answered (.connector error.outcome error.message))

/-- `merge` from an await to the next one; an answer to something else than what it awaits does not come. -/
def resumeMerge (records : JsMap JsString Json) (phase : RequestPhase) (task : MergeTask) (settled : AwaitResult)
    (now : Int) (write : LedgerWrite) : Option (JsMap JsString Json × RequestPhase × Progress) :=
  let throwRefusal (message : JsString) : JsMap JsString Json × RequestPhase × Progress :=
    let (records, progress) := throwBurned records task.grant (.refusal message) write now
    (records, phase, progress)
  let fail (error : ConnectorCallError) : JsMap JsString Json × RequestPhase × Progress :=
    let (records, progress) := settleMerge records task.grant (.error error) write now
    (records, phase, progress)
  let suspend (stage : MergeStage) : JsMap JsString Json × RequestPhase × Progress :=
    (records, phase, .suspended (.merge { task with stage }))
  match task.stage, settled with
  | .probing, .live state =>
      let before := fetchLive state
      some <|
        match probeRefusal task.grant before with
        | some message => throwRefusal message
        | none =>
            match b.client.mergePath task.args with
            | .error error => fail error
            | .ok prUrl => suspend (.minting prUrl before.epoch)
  | .minting prUrl before, .token token =>
      some <|
        match b.client.mergeToken token with
        | .error error => fail error
        | .ok token => suspend (.readingBase prUrl before token)
  | .readingBase prUrl before token, .http answer =>
      some <|
        match b.client.checkBase task.args answer with
        | .error error => fail error
        | .ok () =>
            -- the latch is read before the commit is sent, and again once it is answered
            if phase.abandoned then
              fail (b.client.notDispatched
                (js "the connection was abandoned before dispatch (client timed out) — not dispatched"))
            else suspend (.committing prUrl before token)
  | .committing prUrl before token, .live state =>
      some <|
        match commitRefusal phase task.grant before (fetchLive state) now with
        | some message => fail (b.client.notDispatched message)
        | none =>
            (records,
              { phase with dispatched := true }, .suspended (.merge { task with stage := .putting prUrl token }))
  | .putting prUrl token, .http answer =>
      some <|
        match b.client.putAnswered task.args answer with
        | .merged result =>
            let (records, progress) := settleMerge records task.grant (.ok result) write now
            (records, phase, progress)
        | .rejected error => fail error
        | .ambiguous cause => suspend (.verifying prUrl token cause)
  | .verifying _ _ cause, .http answer =>
      let (records, progress) :=
        settleMerge records task.grant (b.client.verifyAfterAmbiguousDispatch task.args cause answer) write now
      some (records, phase, progress)
  | _, _ => none

/-- `asPinArgs` -/
def asPinArgs (rawArgs : Option Json) : Except JsString PinTask :=
  match rawArgs with
  | some (.obj fields) => ofObject (.obj fields)
  | some (.arr items) => ofObject (.arr items)
  | _ => .error (js "pin-head requires args")
where
  ofObject (raw : Json) : Except JsString PinTask :=
    match textField raw (js "owner"), textField raw (js "repo") with
    | none, _ => .error (js "pin-head requires owner")
    | some _, none => .error (js "pin-head requires repo")
    | some owner, some repo =>
        match ((raw.get (js "pullNumber")).bind JsValue.safeNat?).filter (0 < ·) with
        | none => .error (js "pin-head requires a safe positive integer pullNumber")
        | some pullNumber => .ok { owner, repo, pullNumber, stage := .probing }

/-- `pinHead` up to its first await. -/
def launchPin (rawArgs : Option Json) : Progress :=
  match asPinArgs rawArgs with
  | .error message => .thrown (.refusal message)
  | .ok task =>
      match b.assertRepoAllowed task.repo with
      | .error e => .thrown e
      | .ok () => .suspended (.pin task)

/-- A head that cannot be read. -/
def pinFailure (message : JsString) : Progress :=
  .thrown (.refusal (js "cannot read the pull request head: " ++ message))

/-- `pinHead` from an await to the next one. -/
def resumePin (task : PinTask) : AwaitResult → Option Progress
  | .live state =>
      if task.stage ≠ .probing then none
      else if (fetchLive state).killed then
        some (.thrown (.refusal (js "kill switch engaged (or control plane unreachable) — refused")))
      else
        match b.client.prPath task.owner task.repo task.pullNumber with
        | .error message => some (pinFailure message)
        | .ok _ => some (.suspended (.pin { task with stage := .minting }))
  | .token token =>
      if task.stage ≠ .minting then none
      else
        match token with
        | .error message => some (pinFailure message)
        | .ok _ => some (.suspended (.pin { task with stage := .reading }))
  | .http answer =>
      if task.stage ≠ .reading then none
      else
        match b.client.pullRequestHead task.owner task.repo task.pullNumber answer with
        | .error message => some (pinFailure message)
        | .ok (headSha, baseRef) => some (.answered (.pinned headSha baseRef))

/-- `outcomeOf` -/
def outcomeOf (records : JsMap JsString Json) (rawArgs : Option Json) : Except BrokerError WireResponse :=
  match rawArgs.bind fun raw => textField raw (js "jti") with
  | none => .error (.refusal (js "outcome requires a jti"))
  | some jti =>
      match records.get? jti with
      | none => .error (.refusal (js "no burn record for that jti — the grant was never presented here"))
      | some record =>
          let field (key : JsString) : Option Json := record.get key
          let error : Option Json := (field (js "error")).map fun e =>
            match e with
            | .str text => .str ((b.client.redact text).take 400)
            | e => e
          .ok (.record (.obj (Json.present
            [(js "jti", some (.str jti)), (js "state", field (js "state")), (js "outcome", field (js "outcome")),
              (js "merged", field (js "merged")), (js "sha", field (js "sha")), (js "message", field (js "message")),
              (js "error", error)])))

/-! ### Connections -/

/-- What a response is cut to before it is written. -/
def safeResponse : WireResponse → WireResponse
  | .refused error => .refused ((b.client.redact error).take 400)
  | .connector outcome error => .connector outcome ((b.client.redact error).take 400)
  | response => response

/-- `finish`: only the first answer is written. -/
def finish (c : Connection) (response : WireResponse) : Connection :=
  if c.done then c else { c with done := true, answer := some (b.safeResponse response) }

/-- What the handler answers for an error that escaped its request. -/
def escaped (phase : RequestPhase) : BrokerError → WireResponse
  | .refusal message => .refused message
  | .other message =>
      if phase.dispatched then
        .connector .unknown
          (js "the merge was dispatched, then an unexpected broker error occurred (" ++ b.client.redact message
            ++ js "); its outcome is UNKNOWN, not refused — query \x7bop:\"outcome\"\x7d with jti \"" ++ phase.jti.getD []
            ++ js "\" to resolve it")
      else .refused (b.client.redact message)

/-- A request runs to its next await, or ends in an answer. -/
def progress (c : Connection) : Progress → Connection
  | .suspended task => { c with task := some task }
  | .answered response => b.finish { c with task := none } response
  | .thrown error => b.finish { c with task := none } (b.escaped c.phase error)

/-- The request of a line, up to its first await. -/
def launch (records : JsMap JsString Json) (c : Connection) (line : JsString) (now : Int) (burn write : LedgerWrite) :
    JsMap JsString Json × Connection :=
  match Json.parse line with
  | none => (records, b.progress c (.thrown (.other (b.syntaxError line))))
  | some req =>
      let op := (req.get (js "op")).bind Json.str?
      if op = some (js "pin-head") then (records, b.progress c (b.launchPin (req.get (js "args"))))
      else if op = some (js "merge") then
        let (records, phase, progress) :=
          b.launchMerge records c.phase (req.get (js "grant")) (req.get (js "args")) now burn write
        (records, b.progress { c with phase } progress)
      else if op = some (js "outcome") then
        (records, b.progress c
          (match b.outcomeOf records (req.get (js "args")) with
          | .ok response => .answered response
          | .error e => .thrown e))
      else (records, b.finish c (.refused (js "unknown operation")))

/-- `socket.on("data")`: the first line of a connection is its request, and nothing after it is read. -/
def receive (records : JsMap JsString Json) (c : Connection) (chunk : Bytes) (now : Int) (burn write : LedgerWrite) :
    JsMap JsString Json × Connection :=
  if c.done || c.started then (records, c)
  else
    let buffer := c.buffer ++ Utf8.decode chunk
    let c := { c with buffer }
    if maxRequestBytes < buffer.length then (records, b.finish c (.refused (js "request too large")))
    else if buffer.contains 0x0A then
      b.launch records { c with started := true } (buffer.takeWhile (· ≠ 0x0A)) now burn write
    else (records, c)

/-- The timer of a connection. -/
def expire (c : Connection) : Connection :=
  let phase := { c.phase with abandoned := true }
  let c := { c with phase }
  if phase.dispatched then
    b.finish c (.connector .unknown
      (js "the merge dispatch exceeded the " ++ Json.natText b.requestTimeoutMs
        ++ js "ms budget and is still in flight — its outcome is UNKNOWN, not refused. It will finish and be recorded; query \x7bop:\"outcome\"\x7d with jti \""
        ++ phase.jti.getD [] ++ js "\" to resolve it before re-approving"))
  else b.finish c (.refused (js "request timed out before dispatch — nothing was sent to GitHub"))

/-- A suspended coroutine goes on. -/
def resume (records : JsMap JsString Json) (c : Connection) (settled : AwaitResult) (now : Int) (write : LedgerWrite) :
    Option (JsMap JsString Json × Connection) :=
  match c.task with
  | none => none
  | some (.pin task) => (b.resumePin task settled).map fun p => (records, b.progress c p)
  | some (.merge task) =>
      (b.resumeMerge records c.phase task settled now write).map fun (records, phase, p) =>
        (records, b.progress { c with phase } p)

end MergeBroker

/-! ### Runs of the broker -/

inductive BrokerStep where
  | accept
  | data (index : Nat) (chunk : Bytes) (now : Int) (burn write : LedgerWrite)
  | timeout (index : Nat)
  | socketError (index : Nat)
  | settled (index : Nat) (settled : AwaitResult) (now : Int) (write : LedgerWrite)

namespace BrokerState

variable (s : BrokerState)

/-- A connection moves on, over the records it leaves. -/
def move (index : Nat) (result : JsMap JsString Json × Connection) : BrokerState :=
  { s with records := result.1, connections := s.connections.set index result.2 }

end BrokerState

/-- Any order of connections, chunks, timers and answers. A timer that was cleared does not fire. -/
def brokerRuns (b : MergeBroker) : Lts BrokerState BrokerStep where
  init s := s.connections = []
  next s step s' :=
    match step with
    | .accept => s' = { s with connections := s.connections ++ [.fresh] }
    | .data index chunk now burn write =>
        ∃ c, s.connections[index]? = some c ∧ s' = s.move index (b.receive s.records c chunk now burn write)
    | .timeout index =>
        ∃ c, s.connections[index]? = some c ∧ c.done = false ∧ s' = s.move index (s.records, b.expire c)
    | .socketError index =>
        ∃ c, s.connections[index]? = some c ∧ s' = s.move index (s.records, { c with done := true })
    | .settled index settled now write =>
        ∃ c result, s.connections[index]? = some c ∧ b.resume s.records c settled now write = some result ∧
          s' = s.move index result

end OwnerSwitch
