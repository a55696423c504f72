/-
Module: OwnerSwitch.Honeytoken.Report
Layer: Honeytoken
Purpose: The trip reporter (report.ts): its two lanes, each a queue drained by one loop that retries its head,
  and the flushes that bound the retries and await the drain. They share one budget: a flush sets it, and each
  sets it to infinity again when it goes on.
Imports: Lib.Lts, Lib.JsString
Trusted boundary: an attempt settles with any outcome; the callbacks of a delivery return and call nothing; the
  lanes share nothing, so each is run on its own
Main exports: Trip, TripLane, TripReporter, FlushRun, flushRuns
Open obligations: none
-/
import Mathlib.Data.List.Nodup
import OwnerSwitch.Lib.Lts
import OwnerSwitch.Lib.JsString

namespace OwnerSwitch

inductive TripTier where
  | alert | kill
  deriving DecidableEq, Repr

structure Trip where
  tier : TripTier
  canaryIds : List JsString
  how : JsString
  source : Option JsString
  agentId : Option JsString
  reason : Option JsString
  deriving DecidableEq, Repr

namespace Trip

/-- `tripReason(trip)` -/
def tripReason (trip : Trip) : JsString :=
  let ids := if trip.canaryIds = [] then js "(id unknown)" else joinStrings (js "+") trip.canaryIds
  js "honeytoken " ++ ids ++ js " tripped: " ++ trip.how

/-- `effectiveReason(trip)` -/
def effectiveReason (trip : Trip) : JsString :=
  trip.reason.getD trip.tripReason

end Trip

/-- Where the drain of a lane stands. -/
inductive DrainStage where
  /-- `drainPromise` is null -/
  | idle
  /-- it awaits attempt `n` of the head -/
  | attempting (n : Nat)
  /-- it waits after attempt `n` of the head failed -/
  | waiting (n : Nat)
  /-- it returned, and `drainPromise` is not cleared yet -/
  | returned
  deriving DecidableEq, Repr

/-- A lane. The budget is `none` where it is infinite. The flushes that were called and have not gone on are
    counted: those that await the promise of the present drain, and those whose promise has settled. -/
structure TripLane where
  queue : List Trip
  retryBudget : Option Nat
  stage : DrainStage
  awaiting : Nat
  settled : Nat
  deriving DecidableEq, Repr

namespace TripLane

/-- A lane of a new reporter. -/
def empty : TripLane :=
  ⟨[], none, .idle, 0, 0⟩

/-- The head of the `while` loop of `drain`. -/
def drain (active : Bool) (l : TripLane) : TripLane :=
  if active && !l.queue.isEmpty then { l with stage := .attempting 1 } else { l with stage := .returned }

def ensureDraining (active : Bool) (l : TripLane) : TripLane :=
  if l.stage = .idle then l.drain active else l

/-- `enqueue(trip)`: a trip with the reason of a queued one collapses into it. -/
def enqueue (active : Bool) (l : TripLane) (trip : Trip) : TripLane :=
  if l.queue.any fun q => q.effectiveReason = trip.effectiveReason then l
  else ensureDraining active { l with queue := l.queue ++ [trip] }

/-- `drain`, from the outcome of attempt `n` to its next await. -/
def settle (active : Bool) (l : TripLane) (n : Nat) (ok : Bool) : TripLane :=
  if !active then { l with stage := .returned }
  else if ok then drain active { l with queue := l.queue.tail }
  else if l.retryBudget.any (· ≤ n) then { l with stage := .returned }
  else { l with stage := .waiting n }

/-- `drain`, from the end of the wait after attempt `n`. -/
def wake (active : Bool) (l : TripLane) (n : Nat) : TripLane :=
  if active && l.retryBudget.all (n + 1 ≤ ·) then { l with stage := .attempting (n + 1) }
  else if l.retryBudget.isSome then { l with stage := .returned }
  else l.drain active

/-- The `finally` of the drain: the flushes that awaited it can go on. -/
def clear (l : TripLane) : TripLane :=
  { l with stage := .idle, awaiting := 0, settled := l.settled + l.awaiting }

/-- `Math.max(1, Math.floor(maxAttempts))` of a whole number. -/
def flushBudget (maxAttempts : Nat) : Nat :=
  max 1 maxAttempts

/-- `flush(maxAttempts)`, up to its await. A wait that it cuts short ends by itself. -/
def flushStart (maxAttempts : Nat) (l : TripLane) : TripLane :=
  ensureDraining true { l with retryBudget := some (flushBudget maxAttempts) }

/-- `flush(maxAttempts)`, after its await. -/
def flushEnd (l : TripLane) : TripLane :=
  { l with retryBudget := none }

/-- What every lane keeps: the reasons in its queue are distinct, its budget allows an attempt, a drain that is
    not over has a head and counts from one, and nothing awaits a drain where there is none. -/
structure Valid (l : TripLane) : Prop where
  distinct : (l.queue.map Trip.effectiveReason).Nodup
  budget : ∀ b, l.retryBudget = some b → 1 ≤ b
  busy : ∀ n, l.stage = .attempting n ∨ l.stage = .waiting n → 1 ≤ n ∧ l.queue ≠ []
  unawaited : l.stage = .idle → l.awaiting = 0

end TripLane

/-! ### A flush -/

/-- Where a flush stands on a lane. -/
inductive FlushStage where
  /-- it awaits the promise of the drain that was under way when it was called -/
  | awaiting
  /-- that promise has settled -/
  | settled
  /-- it has gone on -/
  | returned
  deriving DecidableEq, Repr

/-- A lane since a flush was called, with the trips attempted since, one entry for each attempt that settled, and
    those delivered. -/
structure FlushRun where
  lane : TripLane
  own : FlushStage
  attempted : List Trip
  delivered : List Trip
  deriving DecidableEq, Repr

/-- What can happen on a lane while a flush is under way and no report and no stop comes in. -/
inductive TripLaneStep where
  /-- the attempt in flight settles -/
  | settled (ok : Bool)
  /-- the wait ends, by its timer or because a flush cut it short -/
  | woken
  /-- the promise of a drain that returned is cleared -/
  | cleared
  /-- another flush is called -/
  | flushed (maxAttempts : Nat)
  /-- another flush goes on after its await -/
  | resumed
  /-- this flush goes on after its await -/
  | returned

namespace FlushRun

/-- The run when `flush(maxAttempts)` is called on a lane. -/
def start (maxAttempts : Nat) (l : TripLane) : FlushRun :=
  ⟨l.flushStart maxAttempts, .awaiting, [], []⟩

/-- A step of a run; the other flushes called on the way pass counts that `others` allows. -/
inductive Step (others : Nat → Prop) (run : FlushRun) : TripLaneStep → FlushRun → Prop where
  | settled {n trip rest} (ok : Bool) (stage : run.lane.stage = .attempting n) (queue : run.lane.queue = trip :: rest) :
      Step others run (.settled ok)
        { run with lane := run.lane.settle true n ok
                   attempted := run.attempted ++ [trip]
                   delivered := if ok then run.delivered ++ [trip] else run.delivered }
  | woken {n} (stage : run.lane.stage = .waiting n) : Step others run .woken { run with lane := run.lane.wake true n }
  | cleared (stage : run.lane.stage = .returned) :
      Step others run .cleared
        { run with lane := run.lane.clear, own := if run.own = .awaiting then .settled else run.own }
  | flushed {maxAttempts} (allowed : others maxAttempts) :
      Step others run (.flushed maxAttempts)
        { run with lane :=
          { run.lane.flushStart maxAttempts with awaiting := (run.lane.flushStart maxAttempts).awaiting + 1 } }
  | resumed {k} (settled : run.lane.settled = k + 1) :
      Step others run .resumed { run with lane := { run.lane.flushEnd with settled := k } }
  | returned (own : run.own = .settled) :
      Step others run .returned { run with lane := run.lane.flushEnd, own := .returned }

end FlushRun

/-- The runs of `flush(maxAttempts)` on a lane. -/
def flushRuns (others : Nat → Prop) (maxAttempts : Nat) (l : TripLane) : Lts FlushRun TripLaneStep where
  init run := run = .start maxAttempts l
  next := FlushRun.Step others

/-- The reporter's variables; a lane is always a valid one. -/
structure TripReporter where
  active : Bool
  kill : { l : TripLane // l.Valid }
  alert : { l : TripLane // l.Valid }

namespace TripReporter

variable (r : TripReporter)

def lane : TripTier → TripLane
  | .kill => r.kill.val
  | .alert => r.alert.val

/-- What a flush can make of a lane until it goes on, and after; a stopped reporter returns at once. -/
def Flushes (others : Nat → Prop) (maxAttempts : Nat) (tier : TripTier) (run : FlushRun) : Prop :=
  if r.active then (flushRuns others maxAttempts (r.lane tier)).Reachable run
  else run = ⟨r.lane tier, .returned, [], []⟩

end TripReporter

/-! ### Lanes stay valid -/

namespace TripLane

variable {l : TripLane} {active : Bool} {n : Nat}

theorem valid_empty : empty.Valid :=
  ⟨List.nodup_nil, by simp [empty], by simp [empty], fun _ => rfl⟩

/-- A lane is valid at its next await, whatever the drain comes to. -/
theorem Valid.at (h : l.Valid) {stage : DrainStage}
    (hbusy : ∀ n, stage = .attempting n ∨ stage = .waiting n → 1 ≤ n ∧ l.queue ≠ []) (hstage : stage ≠ .idle) :
    Valid { l with stage } :=
  ⟨h.distinct, h.budget, hbusy, fun hidle => absurd hidle hstage⟩

theorem Valid.drain (h : l.Valid) : (l.drain active).Valid := by
  unfold TripLane.drain
  split
  · rename_i hbusy
    refine h.at (fun n hn => ?_) (by simp)
    simp only [Bool.and_eq_true, Bool.not_eq_true', List.isEmpty_eq_false_iff] at hbusy
    simp only [DrainStage.attempting.injEq, reduceCtorEq, or_false] at hn
    exact ⟨Nat.le_of_eq hn, hbusy.2⟩
  · exact h.at (by simp) (by simp)

theorem Valid.ensureDraining (h : l.Valid) : (l.ensureDraining active).Valid := by
  unfold TripLane.ensureDraining
  split
  · exact h.drain
  · exact h

theorem Valid.enqueue (h : l.Valid) (trip : Trip) : (l.enqueue active trip).Valid := by
  unfold TripLane.enqueue
  split
  · exact h
  · rename_i hnew
    refine Valid.ensureDraining ⟨?_, h.budget, fun n hn => ⟨(h.busy n hn).1, by simp⟩, h.unawaited⟩
    rw [List.map_append, List.nodup_append]
    refine ⟨h.distinct, List.nodup_singleton _, ?_⟩
    rintro reason hreason _ htrip rfl
    obtain ⟨q, hq, rfl⟩ := List.mem_map.mp hreason
    obtain ⟨t, ht, heq⟩ := List.mem_map.mp htrip
    rw [List.mem_singleton.mp ht] at heq
    exact hnew (List.any_eq_true.mpr ⟨q, hq, decide_eq_true heq.symm⟩)

theorem Valid.settle (h : l.Valid) (hstage : l.stage = .attempting n) (ok : Bool) :
    (l.settle active n ok).Valid := by
  unfold TripLane.settle
  split
  · exact h.at (by simp) (by simp)
  · split
    · unfold TripLane.drain
      have htail : (l.queue.tail.map Trip.effectiveReason).Nodup := by
        rw [List.map_tail]
        exact h.distinct.sublist (List.tail_sublist _)
      split
      · rename_i hbusy
        simp only [Bool.and_eq_true, Bool.not_eq_true', List.isEmpty_eq_false_iff] at hbusy
        exact ⟨htail, h.budget, fun n hn => ⟨by simp at hn; omega, hbusy.2⟩, by simp⟩
      · exact ⟨htail, h.budget, by simp, by simp⟩
    · split
      · exact h.at (by simp) (by simp)
      · refine h.at (fun m hm => ?_) (by simp)
        simp only [reduceCtorEq, DrainStage.waiting.injEq, false_or] at hm
        exact hm ▸ h.busy n (.inl hstage)

theorem Valid.wake (h : l.Valid) (hstage : l.stage = .waiting n) : (l.wake active n).Valid := by
  unfold TripLane.wake
  split
  · refine h.at (fun m hm => ?_) (by simp)
    simp only [DrainStage.attempting.injEq, reduceCtorEq, or_false] at hm
    exact ⟨by omega, (h.busy n (.inr hstage)).2⟩
  · split
    · exact h.at (by simp) (by simp)
    · exact h.drain

theorem Valid.clear (h : l.Valid) : l.clear.Valid :=
  ⟨h.distinct, h.budget, by simp [TripLane.clear], fun _ => rfl⟩

theorem Valid.flushStart (h : l.Valid) (maxAttempts : Nat) : (l.flushStart maxAttempts).Valid := by
  refine Valid.ensureDraining ⟨h.distinct, fun b hb => ?_, h.busy, h.unawaited⟩
  obtain rfl := Option.some.inj hb
  exact Nat.le_max_left _ _

theorem Valid.flushEnd (h : l.Valid) : l.flushEnd.Valid :=
  ⟨h.distinct, by simp [TripLane.flushEnd], h.busy, h.unawaited⟩

end TripLane

end OwnerSwitch
