/-
Module: OwnerSwitch.Button.Daemon
Layer: Button
Purpose: The button daemon (daemon.ts): presses, the kill sequences they start, their attempts and waits, and
  start and stop, as a machine whose sequences are coroutines over the daemon's shared variables.
Imports: Lib.Json, Lib.Lts
Trusted boundary: the clock does not go back; an attempt settles with any outcome; a timer fires at any time
Main exports: Daemon, DaemonStep, daemonRuns
Open obligations: none
-/
import OwnerSwitch.Lib.Json
import OwnerSwitch.Lib.Lts

namespace OwnerSwitch

/-- `BACKOFF_MS` -/
def buttonBackoffMs : List Nat := [200, 400, 800]

/-- `STEADY_RETRY_MS` -/
def steadyRetryMs : Nat := 2000

/-- `delayMs` after a failed attempt. -/
def retryDelayMs (attempt : Nat) : Nat :=
  buttonBackoffMs.getD (attempt - 1) steadyRetryMs

structure AttemptOutcome where
  ok : Bool
  status : Nat
  body : Option Json

structure KillConfirmation where
  attempts : Nat
  status : Nat
  body : Option Json
  confirmedAt : Int

/-- Where `runSequence` stands. -/
inductive SequenceStage where
  /-- it awaits the outcome of an attempt -/
  | attempting
  /-- it waits in backoff -/
  | waiting (delayMs : Nat)
  /-- its wait is over, it has not looked at the daemon yet -/
  | woken
  | returned
  deriving DecidableEq

def SequenceStage.isWaiting : SequenceStage → Bool
  | .waiting _ => true
  | _ => false

/-- A call of `runSequence`. -/
structure KillSequence where
  gen : Nat
  attempt : Nat
  stage : SequenceStage

/-- The variables of `createButtonDaemon`. `sequences` are the calls of `runSequence`, in order; `cancelWait` is the
    sequence whose wait it would end; `confirmations` are the calls of `onKill`, with the sequence that made
    each. -/
structure Daemon where
  active : Bool
  generation : Nat
  lastPressAt : Option Int
  unconfirmed : Bool
  failedInSequence : Nat
  cancelWait : Option Nat
  sequences : List KillSequence
  confirmations : List (Nat × KillConfirmation)
  clock : Int

/-- What happens to the daemon. -/
inductive DaemonStep where
  | start
  | stop
  | press
  /-- an attempt of a sequence settles -/
  | settled (sequence : Nat) (outcome : AttemptOutcome)
  /-- the timer of a wait fires -/
  | fired (sequence : Nat)
  /-- a sequence goes on after its wait -/
  | resumed (sequence : Nat)

namespace Daemon

/-- `createButtonDaemon` -/
def fresh (clock : Int) : Daemon where
  active := false
  generation := 0
  lastPressAt := none
  unconfirmed := false
  failedInSequence := 0
  cancelWait := none
  sequences := []
  confirmations := []
  clock := clock

variable (s : Daemon)

/-- Moves a sequence on. -/
def move (i : Nat) (q : KillSequence) : Daemon :=
  { s with sequences := s.sequences.set i q }

/-- `cancelWait?.()` -/
def cancel : Daemon :=
  match s.cancelWait with
  | none => s
  | some i =>
      match s.sequences[i]? with
      | none => { s with cancelWait := none }
      | some q => { s.move i { q with stage := .woken } with cancelWait := none }

/-- `startSequence` -/
def startSequence : Daemon :=
  let woken := { s with generation := s.generation + 1, failedInSequence := 0, unconfirmed := true }.cancel
  { woken with sequences := woken.sequences ++ [⟨s.generation + 1, 1, .attempting⟩] }

/-- Whether `handlePress` drops a press as a bounce. -/
def bounces (debounceMs : Int) : Bool :=
  (s.lastPressAt.any fun last => s.clock - last < debounceMs) && s.failedInSequence = 0

/-- `handlePress` -/
def handlePress (debounceMs : Int) : Daemon :=
  if !s.active then s
  else
    let pressed := { s with lastPressAt := some s.clock }
    if s.bounces debounceMs then pressed else pressed.startSequence

/-- `runSequence`, from the outcome of an attempt to its next await. -/
def settle (i : Nat) (q : KillSequence) (outcome : AttemptOutcome) : Daemon :=
  if !s.active || q.gen ≠ s.generation then s.move i { q with stage := .returned }
  else if outcome.ok then
    { s.move i { q with stage := .returned } with
      unconfirmed := false
      failedInSequence := 0
      confirmations := s.confirmations ++ [(i, ⟨q.attempt, outcome.status, outcome.body, s.clock⟩)] }
  else
    { s.move i { q with stage := .waiting (retryDelayMs q.attempt) } with
      failedInSequence := s.failedInSequence + 1
      cancelWait := some i }

/-- The head of the loop of `runSequence`, after a wait. -/
def resume (i : Nat) (q : KillSequence) : Daemon :=
  if s.active && q.gen = s.generation then s.move i { q with attempt := q.attempt + 1, stage := .attempting }
  else s.move i { q with stage := .returned }

/-- `start()` -/
def start : Daemon :=
  if s.active then s else { s with active := true }

/-- `stop()` -/
def stop : Daemon :=
  if !s.active then s
  else { s with active := false, generation := s.generation + 1 }.cancel

/-- What a step does at the daemon's clock. -/
def apply (debounceMs : Int) : DaemonStep → Daemon
  | .start => s.start
  | .stop => s.stop
  | .press => s.handlePress debounceMs
  | .settled i outcome => s.sequences[i]?.elim s fun q => s.settle i q outcome
  | .fired i => s.sequences[i]?.elim s fun q => { s.move i { q with stage := .woken } with cancelWait := none }
  | .resumed i => s.sequences[i]?.elim s fun q => s.resume i q

/-- Whether a step can happen: an attempt settles once, a timer fires while its wait stands. -/
def enables : DaemonStep → Bool
  | .start | .stop | .press => true
  | .settled i _ => s.sequences[i]?.any fun q => q.stage = .attempting
  | .fired i => s.sequences[i]?.any fun q => q.stage.isWaiting
  | .resumed i => s.sequences[i]?.any fun q => q.stage = .woken

end Daemon

/-- A step and the time it happens at. -/
structure TimedStep where
  time : Int
  step : DaemonStep

/-- The daemon over any order of presses, settlements, timers, starts and stops, with a clock that does not go
    back. -/
def daemonRuns (debounceMs : Int) : Lts Daemon TimedStep where
  init s := ∃ clock, s = Daemon.fresh clock
  next s l s' := s.clock ≤ l.time ∧ s.enables l.step = true ∧ s' = { s with clock := l.time }.apply debounceMs l.step

end OwnerSwitch
