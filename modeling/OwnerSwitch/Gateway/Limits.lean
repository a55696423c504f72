/-
Module: OwnerSwitch.Gateway.Limits
Layer: Gateway
Purpose: The limit tracker: cumulative limit rules over tool calls, sliding windows and lifetime totals,
  and the latch a kill-action trip sets, which only the control plane's answer to its own kill confirms
  and only a later absence of the agent releases.
Imports: Shared.ToolCall
Trusted boundary: the test of a regular expression against a call's arguments; times are exact
Main exports: LimitRule, LimitTracker, observeCall, observeError, observeKillState, confirmKillDelivered
Open obligations: none
-/
import Mathlib.Data.Rat.Defs
import Mathlib.Algebra.Order.Ring.Rat
import OwnerSwitch.Shared.ToolCall

namespace OwnerSwitch

inductive LimitMetric where
  | calls | errors | amount
  deriving DecidableEq, Repr

def LimitMetric.text : LimitMetric → JsString
  | .calls => js "calls"
  | .errors => js "errors"
  | .amount => js "amount"

inductive LimitAction where
  | kill | alert
  deriving DecidableEq, Repr

/-- `MAX_LIMIT_MAX` -/
def maxLimitMax : Nat := 2 ^ 50

/-- `MAX_WINDOW_EVENTS` -/
def maxWindowEvents : Nat := 16384

/-- `Number.MAX_SAFE_INTEGER` -/
def maxSafe : Nat := 9007199254740991

/-- A limit rule, as the configuration accepts it. -/
structure LimitRule where
  id : JsString
  tool : JsString
  argsPattern : Option JsString
  metric : LimitMetric
  amountPath : Option JsString
  max : Nat
  windowMs : Option Nat
  action : LimitAction
  /-- the path comes with the metric that needs it -/
  path : metric = .amount ↔ amountPath.isSome
  max_le : max ≤ maxLimitMax
  window_pos : ∀ w, windowMs = some w → 0 < w

/-! ### Matching -/

/-- What `.` does not match. -/
def isLineTerminator (u : UInt16) : Bool :=
  u = 0x0A || u = 0x0D || u = 0x2028 || u = 0x2029

/-- `.*` and then `rest`. -/
def skipAny (rest : JsString → Bool) : JsString → Bool
  | [] => rest []
  | u :: us => rest (u :: us) || (!isLineTerminator u && skipAny rest us)

/-- The literal parts of a glob, with anything between two of them. -/
def globPartsMatch : List JsString → JsString → Bool
  | [], tool => tool.isEmpty
  | [part], tool => tool == part
  | part :: parts, tool => part.isPrefixOf tool && skipAny (globPartsMatch parts) (tool.drop part.length)

def toolGlobMatches (glob tool : JsString) : Bool :=
  globPartsMatch (glob.splitOn 0x2A) tool

/-- The amount at a dot-path of the arguments: a non-negative safe integer, or nothing. -/
def amountAt (args : Option Json) (path : JsString) : Option Nat :=
  (((path.splitOn 0x2E).foldl (fun node key => node.bind (Json.get · key)) args)).bind JsValue.safeNat?

/-- Checked addition: clamps to the greatest safe integer. -/
def checkedAdd (a b : Nat) : Nat :=
  if a + b ≤ maxSafe then a + b else maxSafe

/-! ### The tracker's data -/

inductive TripCause where
  | thresholdCrossed | amountUnreadable | trackingOverflow | totalOverflow
  deriving DecidableEq, Repr

structure LimitTrip where
  rule : LimitRule
  total : Nat
  cause : TripCause
  /-- set on the one trip that latched the tracker -/
  latchGeneration : Option Nat

/-- The audit reason of a trip. -/
def limitTripReason (trip : LimitTrip) (agentId : JsString) : JsString :=
  let why :=
    match trip.cause with
    | .thresholdCrossed => js "total " ++ Json.natText trip.total ++ js " exceeded max " ++ Json.natText trip.rule.max
    | .amountUnreadable => js "a counted call's amount at \"" ++ trip.rule.amountPath.getD (js "undefined")
        ++ js "\" was not a non-negative integer — failing closed"
    | .totalOverflow => js "the running total left safe-integer range — failing closed rather than rounding"
    | .trackingOverflow => js "event tracking overflowed the window buffer — failing closed"
  js "limit \"" ++ trip.rule.id ++ js "\" tripped for agent \"" ++ agentId ++ js "\": " ++ why
    ++ js " (metric " ++ trip.rule.metric.text ++ js ", tool " ++ trip.rule.tool ++ js ")"

structure LatchedLimitTrip where
  ruleId : JsString
  agentId : JsString
  reason : JsString
  «at» : ℚ
  confirmed : Bool
  generation : Nat
  /-- no answer of a lower epoch speaks about this trip -/
  epochFloor : Option Int
  deriving DecidableEq

inductive LatchState where
  | armed
  | unconfirmed (record : LatchedLimitTrip)
  | confirmed (record : LatchedLimitTrip)
  deriving DecidableEq

/-- One counted call inside a window. -/
structure LimitEvent where
  «at» : ℚ
  value : Nat
  deriving DecidableEq

structure RuleState where
  rule : LimitRule
  lifetimeTotal : Nat
  /-- oldest first -/
  events : List LimitEvent
  saturatedUntil : Option ℚ

/-- The latch, how many it has opened, and the newest epoch shown. -/
structure Latching where
  latch : LatchState
  latchGenerations : Nat
  lastObservedEpoch : Option Int
  deriving DecidableEq

structure LimitTracker extends Latching where
  states : List RuleState
  maxWindowEvents : Nat

/-! ### Rule states -/

namespace RuleState

def new (rule : LimitRule) : RuleState where
  rule := rule
  lifetimeTotal := 0
  events := []
  saturatedUntil := none

/-- Every budget fresh. -/
def reset (s : RuleState) : RuleState :=
  { s with lifetimeTotal := 0, events := [], saturatedUntil := none }

def saturate (s : RuleState) («at» : ℚ) : RuleState :=
  { s with events := [], saturatedUntil := some («at» + (s.rule.windowMs.getD 0 : Nat)) }

def prune (s : RuleState) («at» : ℚ) : RuleState :=
  match s.rule.windowMs with
  | none => s
  | some windowMs => { s with events := s.events.dropWhile fun e => e.«at» ≤ «at» - windowMs }

def currentTotal (s : RuleState) : Nat :=
  match s.rule.windowMs with
  | none => s.lifetimeTotal
  | some _ => s.events.foldl (fun sum e => checkedAdd sum e.value) 0

/-- What the call adds to the rule's total. -/
def valueOf (rule : LimitRule) (call : ToolCall) : Option Nat :=
  match rule.metric with
  | .amount => amountAt call.args (rule.amountPath.getD [])
  | _ => some 1

end RuleState

section Observe

-- `new RegExp(pattern).test(text)`
variable (regExpTest : JsString → JsString → Bool)

/-- Whether the rule counts the call under these metrics. -/
def LimitRule.counts (rule : LimitRule) (metrics : List LimitMetric) (call : ToolCall) : Bool :=
  metrics.contains rule.metric && toolGlobMatches rule.tool call.tool &&
    match rule.argsPattern with
    | none => true
    | some pattern => regExpTest pattern (Json.stringify (call.args.getD (.obj [])))

/-- A state whose saturation has run out. -/
def RuleState.resume (s : RuleState) («at» : ℚ) : RuleState :=
  match s.saturatedUntil with
  | none => s
  | some expiry => if «at» < expiry then s else { s with saturatedUntil := none }

/-- The loop's body for a rule that counts the call and is not saturated. -/
def RuleState.count (s : RuleState) (call : ToolCall) («at» : ℚ) (maxEvents : Nat) :
    RuleState × Option LimitTrip :=
  let s := s.prune «at»
  let before := s.currentTotal
  let trip (total : Nat) (cause : TripCause) : Option LimitTrip := some ⟨s.rule, total, cause, none⟩
  match RuleState.valueOf s.rule call with
  | none => (s, trip before .amountUnreadable)
  | some value =>
      let total := checkedAdd before value
      if total = maxSafe ∧ before ≠ maxSafe then
        match s.rule.windowMs with
        | none => ({ s with lifetimeTotal := maxSafe }, trip total .totalOverflow)
        | some _ => (s.saturate «at», trip total .totalOverflow)
      else
        let crossed := if before ≤ s.rule.max ∧ s.rule.max < total then trip total .thresholdCrossed else none
        match s.rule.windowMs with
        | none => ({ s with lifetimeTotal := total }, crossed)
        | some _ =>
            let events := s.events ++ [⟨«at», value⟩]
            if maxEvents < events.length then
              (({ s with events := events } : RuleState).saturate «at», trip total .trackingOverflow)
            else ({ s with events := events }, crossed)

/-- The loop's body. -/
def RuleState.observe (s : RuleState) (call : ToolCall) (metrics : List LimitMetric) («at» : ℚ)
    (maxEvents : Nat) : RuleState × Option LimitTrip :=
  if s.rule.counts regExpTest metrics call then
    let s := s.resume «at»
    if s.saturatedUntil.isSome then (s, none) else s.count call «at» maxEvents
  else (s, none)

/-- A trip recorded: the first kill-action trip while armed latches. -/
def Latching.trip (l : Latching) (trip : LimitTrip) (call : ToolCall) (epochAtCall : Option Int) (now : ℚ) :
    Latching × LimitTrip :=
  if trip.rule.action ≠ .kill ∨ l.latch ≠ .armed then (l, trip)
  else
    let generation := l.latchGenerations + 1
    let record : LatchedLimitTrip :=
      { ruleId := trip.rule.id
        agentId := call.agentId
        reason := limitTripReason trip call.agentId
        «at» := now
        confirmed := false
        generation := generation
        epochFloor := (epochAtCall <|> l.lastObservedEpoch).map (· + 1) }
    ({ l with latch := .unconfirmed record, latchGenerations := generation },
      { trip with latchGeneration := some generation })

/-- Epoch memory is monotone. -/
def Latching.rememberEpoch (l : Latching) : Option Int → Latching
  | none => l
  | some epoch =>
      if l.lastObservedEpoch.all (· < epoch) then { l with lastObservedEpoch := some epoch } else l

/-- The loop over the rules, with the trips in order. -/
def observeRules (call : ToolCall) (metrics : List LimitMetric) (epochAtCall : Option Int) («at» now : ℚ)
    (maxEvents : Nat) : List RuleState → Latching → List RuleState × Latching × List LimitTrip
  | [], l => ([], l, [])
  | s :: states, l =>
      match s.observe regExpTest call metrics «at» maxEvents with
      | (s', none) =>
          let (states', l', trips) := observeRules call metrics epochAtCall «at» now maxEvents states l
          (s' :: states', l', trips)
      | (s', some trip) =>
          let (l', stamped) := l.trip trip call epochAtCall now
          let (states', l'', trips) := observeRules call metrics epochAtCall «at» now maxEvents states l'
          (s' :: states', l'', stamped :: trips)

namespace LimitTracker

def new (rules : List LimitRule) (maxEvents : Nat) : LimitTracker where
  latch := .armed
  latchGenerations := 0
  lastObservedEpoch := none
  states := rules.map RuleState.new
  maxWindowEvents := maxEvents

/-- An observation at `«at»`; a trip is stamped with the clock at `now`. -/
def observe (t : LimitTracker) (call : ToolCall) (metrics : List LimitMetric) (epochAtCall : Option Int)
    («at» now : ℚ) : LimitTracker × List LimitTrip :=
  let l := t.toLatching.rememberEpoch epochAtCall
  let (states, l, trips) := observeRules regExpTest call metrics epochAtCall «at» now t.maxWindowEvents t.states l
  ({ toLatching := l, states := states, maxWindowEvents := t.maxWindowEvents }, trips)

def observeCall (t : LimitTracker) (call : ToolCall) (epoch : Option Int) («at» now : ℚ) :
    LimitTracker × List LimitTrip :=
  t.observe regExpTest call [.calls, .amount] epoch «at» now

def observeError (t : LimitTracker) (call : ToolCall) (epoch : Option Int) («at» now : ℚ) :
    LimitTracker × List LimitTrip :=
  t.observe regExpTest call [.errors] epoch «at» now

end LimitTracker

end Observe

/-! ### The latch's life -/

namespace LimitTracker

/-- The latched trip, if any. -/
def killTripped (t : LimitTracker) : Option LatchedLimitTrip :=
  match t.latch with
  | .armed => none
  | .unconfirmed record => some record
  | .confirmed record => some record

/-- Floors only go up. -/
def raiseFloor (record : LatchedLimitTrip) : Option Int → LatchedLimitTrip
  | none => record
  | some epoch => if record.epochFloor.all (· < epoch) then { record with epochFloor := some epoch } else record

/-- The latch is cleared and every budget is fresh. -/
def release (t : LimitTracker) : LimitTracker :=
  { t with latch := .armed, states := t.states.map RuleState.reset }

def observeKillState (t : LimitTracker) (killedAgents : List JsString) (epoch : Option Int) (durable : Bool) :
    LimitTracker :=
  let t : LimitTracker := { t with toLatching := t.toLatching.rememberEpoch epoch }
  if !durable then t
  else
    match t.latch with
    | .confirmed record =>
        let listed := killedAgents.contains record.agentId
        let admissible :=
          match record.epochFloor with
          | none => true
          | some floor => epoch.any (floor ≤ ·)
        if !admissible then t
        else if listed then { t with latch := .confirmed (raiseFloor record epoch) }
        else
          match record.epochFloor, epoch with
          | some _, some _ => t.release
          | _, _ => t
    | _ => t

/-- The control plane's answer to the kill of this generation, with its commit epoch. -/
def confirmKillDelivered (t : LimitTracker) (epoch : Int) (generation : Nat) : LimitTracker :=
  match t.latch with
  | .unconfirmed record =>
      if generation ≠ record.generation then t
      else if epoch < 1 ∨ Json.maxSafeInteger < epoch then t
      else if record.epochFloor.any (epoch < ·) then t
      else
        { t with
          toLatching :=
            ({ t.toLatching with
              latch := .confirmed { record with confirmed := true, epochFloor := some epoch } } :
                Latching).rememberEpoch
              (some epoch) }
  | _ => t

end LimitTracker

end OwnerSwitch
