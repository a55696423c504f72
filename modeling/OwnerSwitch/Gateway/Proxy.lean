/-
Module: OwnerSwitch.Gateway.Proxy
Layer: Gateway
Purpose: The gateway proxy from a yes-decision to the action: the head pin of a routed merge, the owner-review
  lane, the scan for decoys right before a call crosses the boundary, and the dispatch. Calls are coroutines
  that await a pin read, a limit observation or the lane, in any order.
Imports: Honeytoken.Registry, Gateway.Engine, Gateway.VetoLane
Trusted boundary: that of Gateway.VetoLane; the decision, the pin read and the limit tracker answer as they like
Main exports: validateMergePrRequestArgs, ProxyConfig, decoyIds, Proxy, proxyRuns
Open obligations: none
-/
import OwnerSwitch.Honeytoken.Registry
import OwnerSwitch.Gateway.Engine
import OwnerSwitch.Gateway.VetoLane

namespace OwnerSwitch

/-! ### The arguments of a routed merge -/

structure NormalizedMergeRequest where
  owner : JsString
  repo : JsString
  pullNumber : Nat
  mergeMethod : Option MergeMethod

def MergeMethod.text : MergeMethod → JsString
  | .merge => js "merge"
  | .squash => js "squash"
  | .rebase => js "rebase"

/-- `MERGE_PR_ALLOWED_KEYS` -/
def mergePrAllowedKeys : List JsString :=
  [js "owner", js "repo", js "pullNumber", js "mergeMethod"]

/-- `validateMergePrRequestArgs`, on the entries of an object. -/
def validateMergePrRequestArgs (args : List (JsString × Json)) : Except JsString NormalizedMergeRequest :=
  match [js "expectedHeadSha", js "expectedBaseRef"].find? fun pinned => ((Json.obj args).get pinned).isSome with
  | some pinned =>
      .error (pinned ++ js " is derived by OwnerSwitch at review time and cannot be supplied by "
        ++ js "the agent — remove it and call again")
  | none =>
      match args.find? fun (key, _) => !mergePrAllowedKeys.contains key with
      | some (key, _) =>
          .error (js "unknown argument \"" ++ key
            ++ js "\" for merge_pull_request — allowed: owner, repo, pullNumber, mergeMethod")
      | none =>
          match (((Json.obj args).get (js "owner")).bind Json.str?).filter (· ≠ []) with
          | none => .error (js "merge_pull_request requires owner")
          | some owner =>
              match (((Json.obj args).get (js "repo")).bind Json.str?).filter (· ≠ []) with
              | none => .error (js "merge_pull_request requires repo")
              | some repo =>
                  match (((Json.obj args).get (js "pullNumber")).bind JsValue.safeNat?).filter (· ≠ 0) with
                  | none => .error (js "merge_pull_request requires a safe positive integer pullNumber")
                  | some pullNumber =>
                      match mergeMethodOf ((Json.obj args).get (js "mergeMethod")) with
                      | none => .error (js "mergeMethod must be one of \"merge\", \"squash\", \"rebase\"")
                      | some mergeMethod => .ok { owner, repo, pullNumber, mergeMethod }

/-- The fields of a normalized request, as an object is built from them. -/
def NormalizedMergeRequest.fields (base : NormalizedMergeRequest) : List (JsString × Option Json) :=
  [(js "owner", some (.str base.owner)), (js "repo", some (.str base.repo)),
    (js "pullNumber", some (.num (.ofInt base.pullNumber))),
    (js "mergeMethod", base.mergeMethod.map fun m => .str m.text)]

/-- `{ ...base, expectedHeadSha: target.headSha, expectedBaseRef: target.baseRef }` -/
def NormalizedMergeRequest.pinned (base : NormalizedMergeRequest) (headSha baseRef : JsString) : Json :=
  .obj (Json.present (base.fields
    ++ [(js "expectedHeadSha", some (.str headSha)), (js "expectedBaseRef", some (.str baseRef))]))

/-! ### The proxy -/

/-- The options the way of a call depends on. -/
structure ProxyConfig where
  digest : JsString → JsString
  policyVersion : JsString
  honeytokens : Option HoneytokenRegistry
  /-- the executor's routes; none where no executor is wired -/
  routes : JsMap JsString ExecutorRoute
  requiresGrant : Bool
  /-- whether the executor can pin a head -/
  pinsHeads : Bool
  net : DisplayNet

/-- What crosses the boundary. -/
inductive Crossing where
  | upstream (call : ToolCall)
  | executor (call : ToolCall) (route : ExecutorRoute) (mintEpoch : Nat) (grant : Option Json)
  | headPin (base : NormalizedMergeRequest)

/-- The arguments that cross. -/
def Crossing.args : Crossing → Json
  | .upstream call => call.args.getD (.obj [])
  | .executor call _ _ _ => call.args.getD (.obj [])
  | .headPin base => .obj (Json.present base.fields)

/-- A decoy that was reported: a kill where the call was about to cross, an alert where it was held. -/
structure DecoyReport where
  kill : Bool
  canaryIds : List JsString
  call : ToolCall

/-- A call that awaits the head of its pull request. -/
structure Pinning where
  call : ToolCall
  decision : Decision
  mintEpoch : Option Nat
  base : NormalizedMergeRequest

/-- A call that was scanned and awaits the limit tracker. -/
structure Dispatch where
  call : ToolCall
  mintEpoch : Option Nat
  grant : Option Json

structure Proxy where
  lane : VetoLane
  pinning : List Pinning
  dispatching : List Dispatch
  crossed : List Crossing
  reports : List DecoyReport

/-- What the pin does with a call before it awaits anything. -/
inductive PinStart where
  | unpinned
  | decoys (canaryIds : List JsString)
  | refused
  | reading (base : NormalizedMergeRequest)

namespace ProxyConfig

variable (cfg : ProxyConfig)

/-- `decoyIds(call)` -/
def decoyIds (call : ToolCall) : List JsString :=
  match cfg.honeytokens with
  | none => []
  | some registry => (registry.matched (Json.stringify (call.args.getD (.obj [])))).map HoneytokenMatch.canaryId

/-- Whether a route is the one whose head is pinned. -/
def isMerge (route : ExecutorRoute) : Bool :=
  route.connector = githubConnector && route.operation = mergePullRequest

/-- `pinIfRoutedMerge`, up to its read. -/
def pinIfRoutedMerge (call : ToolCall) : PinStart :=
  match cfg.routes.get? call.tool with
  | none => .unpinned
  | some route =>
      if !isMerge route then .unpinned
      else if cfg.decoyIds call ≠ [] then .decoys (cfg.decoyIds call)
      else
        match call.args.getD (.obj []) with
        | .obj args =>
            match validateMergePrRequestArgs args with
            | .ok base => if cfg.pinsHeads then .reading base else .refused
            | .error _ => .refused
        | _ => .refused

/-- Whether `mintActionTicket` finds a valid action in the arguments. -/
def mints (route : ExecutorRoute) (call : ToolCall) : Bool :=
  !isMerge route || (cfg.net.parseMergePrArgs call.canonicalArgs).isSome

end ProxyConfig

namespace Proxy

variable (cfg : ProxyConfig) (s : Proxy)

def cross (crossing : Crossing) : Proxy :=
  { s with crossed := s.crossed ++ [crossing] }

def report (report : DecoyReport) : Proxy :=
  { s with reports := s.reports ++ [report] }

/-- `alertIfDecoy` -/
def alertIfDecoy (call : ToolCall) : Proxy :=
  if cfg.decoyIds call = [] then s else s.report ⟨false, cfg.decoyIds call, call⟩

/-- `forwardOrKill`, up to the limit tracker. -/
def forwardOrKill (call : ToolCall) (mintEpoch : Option Nat) (grant : Option Json) : Proxy :=
  if cfg.decoyIds call = [] then { s with dispatching := s.dispatching ++ [⟨call, mintEpoch, grant⟩] }
  else s.report ⟨true, cfg.decoyIds call, call⟩

/-- `forwardOrKill`, once the limits let the call pass: the executor lane, or upstream. -/
def dispatch (d : Dispatch) : Proxy :=
  match cfg.routes.get? d.call.tool with
  | none => s.cross (.upstream d.call)
  | some route =>
      if cfg.requiresGrant && d.grant.isNone then s
      else
        match d.mintEpoch with
        | none => s
        | some mintEpoch => if cfg.mints route d.call then s.cross (.executor d.call route mintEpoch d.grant) else s

/-- `vetoLane` begins. -/
def vetoLane (call : ToolCall) (mintEpoch : Option Nat) : Proxy :=
  let p := s.lane.enter cfg.digest cfg.routes cfg.policyVersion call
  { s with lane := p.1.spawn call mintEpoch p.2 }

/-- What a yes does with a call whose head is pinned or needs no pin. -/
def proceed (call : ToolCall) (decision : Decision) (mintEpoch : Option Nat) : Proxy :=
  match decision with
  | .allow => s.forwardOrKill cfg call mintEpoch none
  | .veto => s.vetoLane cfg call mintEpoch
  | .deny | .approve => s

/-- A decided call, no lockdown in its way. -/
def decided (call : ToolCall) (decision : Decision) (mintEpoch : Option Nat) : Proxy :=
  match decision with
  | .deny | .approve => s.alertIfDecoy cfg call
  | .allow | .veto =>
      match cfg.pinIfRoutedMerge call with
      | .unpinned => s.proceed cfg call decision mintEpoch
      | .decoys canaryIds => s.report ⟨true, canaryIds, call⟩
      | .refused => s
      | .reading base =>
          { s.cross (.headPin base) with pinning := s.pinning ++ [⟨call, decision, mintEpoch, base⟩] }

/-- The head read is answered. -/
def pin (index : Nat) (p : Pinning) : Option (JsString × JsString) → Proxy
  | none => { s with pinning := s.pinning.eraseIdx index }
  | some (headSha, baseRef) =>
      proceed cfg { s with pinning := s.pinning.eraseIdx index }
        { p.call with args := some (p.base.pinned headSha baseRef) } p.decision p.mintEpoch

/-- The limit tracker has observed a call. -/
def afterObserved (index : Nat) (d : Dispatch) (admitted : Bool) : Proxy :=
  let s' : Proxy := { s with dispatching := s.dispatching.eraseIdx index }
  if admitted then s'.dispatch cfg d else s'

/-- What a coroutine of the lane does when it ends. -/
def laneEnds : Option LaneCall → Proxy
  | some ⟨call, _, .done (.forwarded _ mintEpoch grant)⟩ => s.forwardOrKill cfg call mintEpoch grant
  | some ⟨call, _, .done (.vetoPending _ true _)⟩ => s.alertIfDecoy cfg call
  | _ => s

end Proxy

inductive ProxyStep where
  /-- a call is decided -/
  | decided (call : ToolCall) (decision : Decision) (mintEpoch : Option Nat)
  /-- a head read is answered, or fails -/
  | pinned (index : Nat) (target : Option (JsString × JsString))
  /-- a registration is answered -/
  | registered (registration : Nat) (id : Option JsString)
  /-- a coroutine of the lane resumes with its registration -/
  | resumed (index : Nat)
  /-- a coroutine of the lane resumes with its status -/
  | answered (index : Nat) (answer : Option (VetoStatus × Option Json))
  /-- the limit tracker has observed a call -/
  | observed (index : Nat) (admitted : Bool)

/-- The proxy over any order of calls and answers. -/
def proxyRuns (cfg : ProxyConfig) : Lts Proxy ProxyStep where
  init s := s = ⟨⟨.empty, [], []⟩, [], [], [], []⟩
  next s step s' :=
    match step with
    | .decided call decision mintEpoch => s' = s.decided cfg call decision mintEpoch
    | .pinned index target => ∃ p, s.pinning[index]? = some p ∧ s' = s.pin cfg index p target
    | .registered registration id => ∃ lane,
        (vetoLaneRuns cfg.digest cfg.routes cfg.policyVersion).next s.lane (.registered registration id) lane ∧
          s' = { s with lane := lane }
    | .resumed index => ∃ lane,
        (vetoLaneRuns cfg.digest cfg.routes cfg.policyVersion).next s.lane (.resumed index) lane ∧
          s' = { s with lane := lane }.laneEnds cfg lane.calls[index]?
    | .answered index answer => ∃ lane,
        (vetoLaneRuns cfg.digest cfg.routes cfg.policyVersion).next s.lane (.answered index answer) lane ∧
          s' = { s with lane := lane }.laneEnds cfg lane.calls[index]?
    | .observed index admitted => ∃ d, s.dispatching[index]? = some d ∧ s' = s.afterObserved cfg index d admitted

end OwnerSwitch
