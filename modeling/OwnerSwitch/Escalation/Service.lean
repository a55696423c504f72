/-
Module: OwnerSwitch.Escalation.Service
Layer: Escalation
Purpose: The escalation service around the ladder: poll ticks and provider callbacks as coroutines that await
  a listing, a relay or a send, over one engine, one set of tracked windows and one list of relays to retry.
Imports: Lib.Lts, Ladder
Trusted boundary: the clock, the answers of the control plane, the channels with their callback verification
Main exports: EscalationService, reconcile, jobsOf, respondTwiml, ServiceStep, serviceRuns
Open obligations: none
-/
import OwnerSwitch.Lib.Lts
import OwnerSwitch.Escalation.Ladder

namespace OwnerSwitch

/-! ### Data -/

/-- One window of the pending listing; the fields the service reads. -/
structure EscalationService.PendingWindow where
  id : JsString
  tool : JsString
  deadline : ℚ
  delivered : Bool

/-- A stop on its way to the control plane. -/
structure VetoRelay where
  windowId : JsString
  attribution : JsString
  deriving DecidableEq

/-- What an activity awaits, one after another. A stand-down is a line in the log and awaits nothing. -/
inductive ServiceJob where
  | relay (relay : VetoRelay)
  | send (channel : ChannelKind) (alert : EscalationAlert)
  deriving DecidableEq

/-- The webhook paths a provider posts to. -/
inductive TwilioPath where
  | smsInbound | smsStatus | voiceKey
  deriving DecidableEq, Repr

/-- How the control plane answers a request: an HTTP status, or the transport fails. -/
inductive RelayAnswer where
  | status (code : Nat)
  | failed
  deriving DecidableEq

/-- `res.ok` -/
def RelayAnswer.ok : RelayAnswer → Bool
  | .status code => 200 ≤ code && code < 300
  | .failed => false

/-- Where a coroutine stands. -/
inductive ActivityState where
  /-- a poll awaits the listing -/
  | listing
  /-- a poll performs the relays it took for retry; the first one is under way -/
  | retrying (relays : List VetoRelay)
  /-- actions of a tick are performed, the first one is under way; `reply` answers the provider at the end -/
  | performing (jobs : List ServiceJob) (reply : Option JsString)
  | done (reply : Option JsString)

structure EscalationService where
  engine : LadderEngine
  tracked : List JsString
  pendingRelays : List VetoRelay
  activities : List ActivityState

def twimlSay (text : String) : JsString :=
  js "<?xml version=\"1.0\" encoding=\"UTF-8\"?><Response><Say>" ++ js text ++ js "</Say></Response>"

/-- What tells a caller that everything is stopped. -/
def stoppedTwiml : JsString :=
  twimlSay "Stopped. Nothing will run. Goodbye."

def nothingStoppedTwiml : JsString :=
  twimlSay "Nothing stopped. Goodbye."

def ackTwiml : JsString :=
  js "<?xml version=\"1.0\" encoding=\"UTF-8\"?><Response/>"

def ChannelEvent.isVeto : ChannelEvent → Bool
  | .veto _ _ _ => true
  | .evidence _ => false

/-- The reply is composed from the events of the callback. -/
def respondTwiml (path : TwilioPath) (events : List ChannelEvent) : JsString :=
  let stopped := events.any ChannelEvent.isVeto
  if path = .voiceKey then (if stopped then stoppedTwiml else nothingStoppedTwiml) else ackTwiml

/-- `perform`, as what it awaits. -/
def jobsOf : LadderAction → List ServiceJob
  | .send channel alert => [.send channel alert]
  | .relayVeto windowIds _ attribution => windowIds.map fun id => .relay ⟨id, attribution⟩
  | .standDown _ _ => []

namespace EscalationService

variable (s : EscalationService)

/-! ### What the service does between two awaits -/

/-- A window that is tracked but not listed has left pending and extended. -/
def closeGone (listing : List EscalationService.PendingWindow) : EscalationService :=
  let openIds := listing.map EscalationService.PendingWindow.id
  { s with
    engine := (s.tracked.filter fun id => !openIds.contains id).foldl LadderEngine.windowClosed s.engine
    tracked := s.tracked.filter openIds.contains }

/-- One listed window: opened when it is new, then its deadline and its delivered bit. -/
def observe (w : EscalationService.PendingWindow) : EscalationService :=
  let s := if s.tracked.contains w.id then s
    else { s with
      engine := s.engine.windowOpened w.id (js "\"" ++ w.tool ++ js "\"") w.deadline
      tracked := s.tracked ++ [w.id] }
  let engine := s.engine.windowDeadline w.id w.deadline
  { s with engine := if w.delivered then engine.windowDelivered w.id else engine }

/-- The windows the engine knows, brought in line with the listing; without one they stay. -/
def reconcile : Option (List EscalationService.PendingWindow) → EscalationService
  | none => s
  | some listing => listing.foldl observe (s.closeGone listing)

/-- An activity moves on. -/
def move (index : Nat) (state : ActivityState) : EscalationService :=
  { s with activities := s.activities.set index state }

/-- `for (const action of engine.tick(now())) await perform(action)`, up to its first await. -/
def tickInto (now : ℚ) (reply : Option JsString) : EscalationService × ActivityState :=
  let (engine, actions) := s.engine.tick now
  match actions.flatMap jobsOf with
  | [] => ({ s with engine }, .done reply)
  | jobs => ({ s with engine }, .performing jobs reply)

/-- A poll has its listing: the relays to retry are taken, and then the engine ticks. -/
def listed (listing : Option (List EscalationService.PendingWindow)) (now : ℚ) : EscalationService × ActivityState :=
  let s := s.reconcile listing
  let retries := s.pendingRelays.filter fun r => s.tracked.contains r.windowId
  let s := { s with pendingRelays := [] }
  match retries with
  | [] => s.tickInto now none
  | relays => (s, .retrying relays)

/-- A relay is answered: a refusal is logged, a transport failure is queued for the next tick. -/
def relayed (relay : VetoRelay) : RelayAnswer → EscalationService
  | .status _ => s
  | .failed => { s with pendingRelays := s.pendingRelays ++ [relay] }

/-- A verified provider callback: the engine takes its events and ticks at once. -/
def callback (path : TwilioPath) (events : List ChannelEvent) (now : ℚ) : EscalationService × ActivityState :=
  let reply := some (respondTwiml path events)
  if events.isEmpty then (s, .done reply)
  else tickInto { s with engine := events.foldl LadderEngine.channelEvent s.engine } now reply

/-- The await an activity is in ends. -/
def finished (state : ActivityState) (answer : RelayAnswer) (now : ℚ) : EscalationService × ActivityState :=
  match state with
  | .retrying (relay :: relays) =>
      let s := s.relayed relay answer
      match relays with
      | [] => s.tickInto now none
      | relays => (s, .retrying relays)
  | .performing (job :: jobs) reply =>
      let s := match job with
        | .relay relay => s.relayed relay answer
        | .send _ _ => s
      match jobs with
      | [] => (s, .done reply)
      | jobs => (s, .performing jobs reply)
  | state => (s, state)

end EscalationService

/-! ### Every interleaving -/

inductive ServiceStep where
  /-- `tickOnce` is called -/
  | poll
  /-- the listing of a poll is answered, or fails -/
  | listed (index : Nat) (listing : Option (List EscalationService.PendingWindow)) (now : ℚ)
  /-- a provider posts to a webhook, and its channel makes these events of it -/
  | callback (path : TwilioPath) (events : List ChannelEvent) (now : ℚ)
  /-- the relay or the send an activity awaits ends -/
  | finished (index : Nat) (answer : RelayAnswer) (now : ℚ)

/-- The coroutine awaits a relay or a send. -/
def ActivityState.Busy : ActivityState → Prop
  | .retrying relays => relays ≠ []
  | .performing jobs _ => jobs ≠ []
  | _ => False

/-- Any order of polls, callbacks and answers. -/
def serviceRuns (engine : LadderEngine) : Lts EscalationService ServiceStep where
  init s := s = ⟨engine, [], [], []⟩
  next s step s' :=
    match step with
    | .poll => s' = { s with activities := s.activities ++ [.listing] }
    | .listed index listing now =>
        s.activities[index]? = some .listing ∧
          s' = (s.listed listing now).1.move index (s.listed listing now).2
    | .callback path events now =>
        s' = { (s.callback path events now).1 with
          activities := s.activities ++ [(s.callback path events now).2] }
    | .finished index answer now =>
        ∃ state, s.activities[index]? = some state ∧ state.Busy ∧
          s' = (s.finished state answer now).1.move index (s.finished state answer now).2

end OwnerSwitch
