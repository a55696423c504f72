/-
Module: OwnerSwitch.Escalation.Ladder
Layer: Escalation
Purpose: The ladder engine of the escalation service: windows coalesce into one run, whose rungs fire by the
  run's clock unless a cap refuses them or every open window is confirmed. Caps and costs are in double precision.
Imports: Lib.Double, Lib.JsonText
Trusted boundary: instants are exact, as those of whole milliseconds are
Main exports: LadderEngine, LadderEngine.make, admitSend, fireRungs, tick, LadderOp, LadderEngine.after
Open obligations: none
-/
import Mathlib.Algebra.Order.Ring.Rat
import Mathlib.Data.Rat.Floor
import Mathlib.Data.Finset.Insert
import Mathlib.Data.List.Sort
import OwnerSwitch.Lib.Double
import OwnerSwitch.Lib.JsonText

namespace OwnerSwitch

/-! ### The data of the ladder -/

inductive ChannelKind where
  | push | email | sms | voice
  deriving DecidableEq, Repr

/-- One rung: fire `channel` this long after the run's clock started. -/
structure LadderRung where
  afterMs : ℚ
  channel : ChannelKind
  deriving DecidableEq

structure RateLimits where
  maxVoiceCallsPer10Min : Double
  maxSmsPerHour : Double
  maxDailySpendUsd : Double

/-- What a rung sends; the deadline of no window at all is the infinite one. -/
structure EscalationAlert where
  windowIds : List JsString
  headline : JsString
  deadlineMs : WithTop ℚ
  deriving DecidableEq

inductive StandDownReason where
  | confirmed | vetoed | windowClosed | capHit
  deriving DecidableEq, Repr

/-- What `tick` tells the edge to do. -/
inductive LadderAction where
  | send (channel : ChannelKind) (alert : EscalationAlert)
  | relayVeto (windowIds : List JsString) (channel : ChannelKind) (attribution : JsString)
  | standDown (windowIds : List JsString) (reason : StandDownReason)
  deriving DecidableEq

/-- What comes back from a channel; the content of evidence is recorded elsewhere. -/
inductive ChannelEvent where
  | evidence (windowIds : List JsString)
  | veto (windowIds : List JsString) (channel : ChannelKind) (attribution : JsString)
  deriving DecidableEq

structure TrackedWindow where
  windowId : JsString
  headline : JsString
  deadlineMs : ℚ
  delivered : Bool
  closed : Bool
  deriving DecidableEq

/-- One storm: `startedAtMs` is -1 until the first tick that sees the run, `fired` holds the indexes of the
    rungs that are spent. -/
structure LadderRun where
  startedAtMs : ℚ
  fired : Finset Nat
  windows : JsMap JsString TrackedWindow

structure LadderEngineOptions where
  rungs : Option (List LadderRung)
  limits : Option RateLimits
  costUsd : ChannelKind → Option Double

/-- The engine. The send logs and the day's spend outlive the runs. -/
structure LadderEngine where
  rungs : List LadderRung
  limits : RateLimits
  costUsd : ChannelKind → Double
  run : Option LadderRun
  voiceSends : List ℚ
  smsSends : List ℚ
  spendDay : Int
  spendUsd : Double
  pending : List LadderAction

def defaultRungs : List LadderRung :=
  [⟨0, .push⟩, ⟨0, .email⟩, ⟨150000, .sms⟩, ⟨300000, .voice⟩]

def defaultLimits : RateLimits :=
  ⟨.ofRat 2, .ofRat 6, .ofRat 5⟩

def defaultCostUsd : ChannelKind → Double
  | .push => 0
  | .email => .ofRat (1 / 10000)
  | .sms => .ofRat (8 / 1000)
  | .voice => .ofRat (14 / 1000)

/-- A call may go out ten minutes after the one before it, a text an hour after. -/
def voiceHorizonMs : ℚ := 600000

def smsHorizonMs : ℚ := 3600000

/-- The UTC day of an instant. -/
def utcDay (nowMs : ℚ) : Int :=
  ⌊nowMs / 86400000⌋

/-- `ids` of the windows, in the order of their opening -/
def windowIdsOf (windows : List TrackedWindow) : List JsString :=
  windows.map TrackedWindow.windowId

/-- `alertFor`: a headline and a count at most, and the earliest deadline. -/
def alertFor (opened : List TrackedWindow) : EscalationAlert where
  windowIds := windowIdsOf opened
  headline :=
    match opened with
    | [w] => js "OwnerSwitch: " ++ w.headline ++ js " held for your review"
    | ws => js "OwnerSwitch: " ++ Json.natText ws.length ++ js " actions held for your review"
  deadlineMs := opened.foldr (fun w earliest => min (w.deadlineMs : WithTop ℚ) earliest) ⊤

/-- The windows of a run that are not closed. -/
def LadderRun.open (run : LadderRun) : List TrackedWindow :=
  run.windows.values.filter fun w => !w.closed

/-- When the run's clock started, as a tick at `nowMs` has it. -/
def LadderRun.startedBy (run : LadderRun) (nowMs : ℚ) : ℚ :=
  if run.startedAtMs = -1 then nowMs else run.startedAtMs

/-- Windows of a run changed in place; a window the run does not hold is not added. -/
def LadderRun.update (run : LadderRun) (windowId : JsString) (f : TrackedWindow → TrackedWindow) : LadderRun :=
  match run.windows.get? windowId with
  | some tracked => { run with windows := run.windows.set windowId (f tracked) }
  | none => run

namespace LadderEngine

/-! ### The engine's operations -/

/-- `!Number.isFinite(value) || value < 0` -/
def isNonsense (value : Double) : Bool :=
  !value.isFinite || value < 0

/-- The constructor: rungs sorted by their offset, stably, and nonsense refused. -/
def make (opts : LadderEngineOptions) : Except JsString LadderEngine :=
  let rungs := (opts.rungs.getD defaultRungs).insertionSort fun a b => a.afterMs ≤ b.afterMs
  let limits := opts.limits.getD defaultLimits
  if rungs.any (fun rung => rung.afterMs < 0) then .error (js "rung.afterMs must be >= 0")
  else if isNonsense limits.maxVoiceCallsPer10Min then
    .error (js "limits.maxVoiceCallsPer10Min must be a finite non-negative number")
  else if isNonsense limits.maxSmsPerHour then
    .error (js "limits.maxSmsPerHour must be a finite non-negative number")
  else if isNonsense limits.maxDailySpendUsd then
    .error (js "limits.maxDailySpendUsd must be a finite non-negative number")
  else .ok
    { rungs, limits
      costUsd := fun channel => (opts.costUsd channel).getD (defaultCostUsd channel)
      run := none
      voiceSends := []
      smsSends := []
      spendDay := -1
      spendUsd := 0
      pending := [] }

variable (e : LadderEngine)

/-- A window opened: it joins the live run, or arms a fresh one. -/
def windowOpened (windowId headline : JsString) (deadlineMs : ℚ) : LadderEngine :=
  let tracked : TrackedWindow := ⟨windowId, headline, deadlineMs, false, false⟩
  match e.run with
  | some run =>
      if run.windows.has windowId then e
      else { e with run := some { run with windows := run.windows.set windowId tracked } }
  | none => { e with run := some ⟨-1, ∅, JsMap.empty.set windowId tracked⟩ }

/-- The control plane says the window's delivered bit is set. -/
def windowDelivered (windowId : JsString) : LadderEngine :=
  { e with run := e.run.map fun run => run.update windowId fun w => { w with delivered := true } }

/-- The window left pending and extended. -/
def windowClosed (windowId : JsString) : LadderEngine :=
  { e with run := e.run.map fun run => run.update windowId fun w => { w with closed := true } }

/-- The window's deadline moved. -/
def windowDeadline (windowId : JsString) (deadlineMs : ℚ) : LadderEngine :=
  { e with run := e.run.map fun run => run.update windowId fun w => { w with deadlineMs } }

def openWindowIds : List JsString :=
  match e.run with
  | none => []
  | some run => windowIdsOf run.open

/-- A veto queues a relay for every open window it covers; evidence queues nothing. -/
def channelEvent : ChannelEvent → LadderEngine
  | .evidence _ => e
  | .veto windowIds channel attribution =>
      let openIds := e.openWindowIds.filter fun id => windowIds.isEmpty || windowIds.contains id
      if openIds.isEmpty then e
      else { e with pending := e.pending ++ [.relayVeto openIds channel attribution] }

inductive Verdict where
  | sent | capped
  deriving DecidableEq, Repr

/-- The ceilings: `sent` records the spend, `capped` refuses. -/
def admitSend (channel : ChannelKind) (nowMs : ℚ) : Verdict × LadderEngine :=
  let cost := e.costUsd channel
  let day := utcDay nowMs
  let e := if e.spendDay ≠ day then { e with spendDay := day, spendUsd := 0 } else e
  if e.limits.maxDailySpendUsd < e.spendUsd + cost then (.capped, e)
  else
    match channel with
    | .voice =>
        let e := { e with voiceSends := e.voiceSends.filter fun a => nowMs - a < voiceHorizonMs }
        if e.limits.maxVoiceCallsPer10Min ≤ .ofRat e.voiceSends.length then (.capped, e)
        else (.sent, { e with voiceSends := e.voiceSends ++ [nowMs], spendUsd := e.spendUsd + cost })
    | .sms =>
        let e := { e with smsSends := e.smsSends.filter fun a => nowMs - a < smsHorizonMs }
        if e.limits.maxSmsPerHour ≤ .ofRat e.smsSends.length then (.capped, e)
        else (.sent, { e with smsSends := e.smsSends ++ [nowMs], spendUsd := e.spendUsd + cost })
    | .push | .email => (.sent, { e with spendUsd := e.spendUsd + cost })

/-- Where the loop over the rungs stands: the accounts, the spent rungs, and what each rung pushed. -/
structure Firing where
  engine : LadderEngine
  fired : Finset Nat
  passed : List (Nat × LadderAction)

/-- One turn of the loop. -/
def Firing.rung (opened : List TrackedWindow) (startedAtMs nowMs : ℚ) (f : Firing) (i : Nat) (rung : LadderRung) :
    Firing :=
  if i ∈ f.fired then f
  else if nowMs - startedAtMs < rung.afterMs then f
  else
    match f.engine.admitSend rung.channel nowMs with
    | (.capped, engine) =>
        -- loudly and exactly once; never a release
        { engine, fired := insert i f.fired,
          passed := f.passed ++ [(i, .standDown (windowIdsOf opened) .capHit)] }
    | (.sent, engine) =>
        { engine, fired := insert i f.fired, passed := f.passed ++ [(i, .send rung.channel (alertFor opened))] }

/-- The loop over the rungs from index `i` on. -/
def fireRungs (opened : List TrackedWindow) (startedAtMs nowMs : ℚ) : List LadderRung → Nat → Firing → Firing
  | [], _, f => f
  | rung :: rungs, i, f => fireRungs opened startedAtMs nowMs rungs (i + 1) (f.rung opened startedAtMs nowMs i rung)

/-- `dropClosed`: the closed windows leave the run, with one stand-down for all of them. -/
def dropClosed (run : LadderRun) : LadderRun × List LadderAction :=
  let closed := run.windows.values.filter fun w => w.closed
  if closed.isEmpty then (run, [])
  else
    ({ run with windows := run.windows.filter fun _ w => !w.closed },
      [.standDown (windowIdsOf closed) .windowClosed])

/-- The clock of a run starts at the first tick that sees it. -/
def arm (run : LadderRun) (nowMs : ℚ) : LadderRun :=
  { run with startedAtMs := run.startedBy nowMs }

/-- Every open window is confirmed, and there is one. -/
def calm (run : LadderRun) : Bool :=
  !run.open.isEmpty && run.open.all TrackedWindow.delivered

/-- What a tick makes of the rungs of a run whose closed windows are gone. -/
def tickRun (run : LadderRun) (nowMs : ℚ) : LadderEngine × List LadderAction × List (Nat × LadderAction) :=
  let opened := run.open
  if calm run then
    let unfired := (List.range e.rungs.length).any fun i => i ∉ run.fired
    let stood := if unfired then [.standDown (windowIdsOf opened) .confirmed] else []
    ({ e with run := some { run with fired := run.fired ∪ Finset.range e.rungs.length } }, stood, [])
  else
    let f := fireRungs opened run.startedAtMs nowMs e.rungs 0 ⟨e, run.fired, []⟩
    ({ f.engine with run := some { run with fired := f.fired } }, f.passed.map Prod.snd, f.passed)

/-- `tick`, with what each rung pushed. -/
def tickPassed (nowMs : ℚ) : LadderEngine × List LadderAction × List (Nat × LadderAction) :=
  let drained := { e with pending := [] }
  match e.run with
  | none => (drained, e.pending, [])
  | some run =>
      let (run, stood) := dropClosed (arm run nowMs)
      if run.windows.size = 0 then ({ drained with run := none }, e.pending ++ stood, [])
      else
        let (engine, actions, passed) := drained.tickRun run nowMs
        (engine, e.pending ++ stood ++ actions, passed)

/-- The actions of a tick: relays queued by events first, then what the rungs make. -/
def tick (nowMs : ℚ) : LadderEngine × List LadderAction :=
  ((e.tickPassed nowMs).1, (e.tickPassed nowMs).2.1)

/-- True while a run is live. -/
def active : Bool :=
  e.run.isSome

end LadderEngine

/-! ### One call on the engine -/

inductive LadderOp where
  | windowOpened (windowId headline : JsString) (deadlineMs : ℚ)
  | windowDelivered (windowId : JsString)
  | windowClosed (windowId : JsString)
  | windowDeadline (windowId : JsString) (deadlineMs : ℚ)
  | channelEvent (event : ChannelEvent)
  | tick (nowMs : ℚ)

/-- The engine after a call. -/
def LadderEngine.after (e : LadderEngine) : LadderOp → LadderEngine
  | .windowOpened windowId headline deadlineMs => e.windowOpened windowId headline deadlineMs
  | .windowDelivered windowId => e.windowDelivered windowId
  | .windowClosed windowId => e.windowClosed windowId
  | .windowDeadline windowId deadlineMs => e.windowDeadline windowId deadlineMs
  | .channelEvent event => e.channelEvent event
  | .tick nowMs => (e.tick nowMs).1

/-- What a call makes: only a tick makes anything. -/
def LadderEngine.actions (e : LadderEngine) : LadderOp → List LadderAction
  | .tick nowMs => (e.tick nowMs).2
  | _ => []

end OwnerSwitch
