/-
Module: OwnerSwitch.Honeytoken.FlushRuns
Layer: Honeytoken
Purpose: What a flush gives the trips that are queued when it is called, whatever the outcomes of the attempts and
  whatever other flushes are called meanwhile. Every trip is delivered or gets its attempts exactly where no lane
  holds more than one trip and none that was attempted before, no drain has just returned, and no other flush
  passes a smaller count. A flush that shares its lanes with no other comes to its end.
Imports: Honeytoken.Report
Trusted boundary: that of Honeytoken.Report
Main exports: flush_returns, TripLane.Serves, TripLane.Fresh, FlushServes, flush_serves_iff
Open obligations: none
-/
import Mathlib.Tactic.Ring
import OwnerSwitch.Honeytoken.Report

namespace OwnerSwitch

/-! ### What a step does to a lane -/

namespace TripLane

variable {l : TripLane} {active : Bool} {n b : Nat}

@[simp] theorem drain_queue : (l.drain active).queue = l.queue := by
  unfold drain
  split <;> rfl

@[simp] theorem ensureDraining_queue : (l.ensureDraining active).queue = l.queue := by
  unfold ensureDraining
  split
  · exact drain_queue
  · rfl

@[simp] theorem wake_queue : (l.wake active n).queue = l.queue := by
  unfold wake
  split
  · rfl
  · split
    · rfl
    · exact drain_queue

@[simp] theorem flushStart_queue (maxAttempts : Nat) : (l.flushStart maxAttempts).queue = l.queue :=
  ensureDraining_queue

/-- A delivered head is taken from the queue, a failed one stays. -/
theorem settle_queue (ok : Bool) : (l.settle true n ok).queue = if ok then l.queue.tail else l.queue := by
  unfold settle
  cases ok with
  | true => exact drain_queue
  | false =>
      simp only [Bool.not_true, Bool.false_eq_true, if_false]
      split <;> rfl

/-- A flush of a lane that drains sets the budget and nothing else. -/
theorem flushStart_of_busy (h : l.stage ≠ .idle) (maxAttempts : Nat) :
    l.flushStart maxAttempts = { l with retryBudget := some (flushBudget maxAttempts) } :=
  if_neg h

/-- A flush that is called awaits a drain. -/
theorem flushStart_stage_ne (maxAttempts : Nat) : (l.flushStart maxAttempts).stage ≠ .idle := by
  unfold flushStart ensureDraining drain
  split
  · split <;> simp
  · assumption

theorem flushStart_retryBudget (maxAttempts : Nat) :
    (l.flushStart maxAttempts).retryBudget = some (flushBudget maxAttempts) := by
  unfold flushStart ensureDraining drain
  split
  · split <;> rfl
  · rfl

/-- How an attempt that failed leaves a lane with a finite budget. -/
theorem settle_failed (h : l.retryBudget = some b) :
    l.settle true n false = { l with stage := if b ≤ n then .returned else .waiting n } := by
  simp only [settle, h, Bool.not_true, Bool.false_eq_true, if_false, Option.any_some, decide_eq_true_eq]
  split <;> rfl

/-- How a wait that ended leaves it. -/
theorem wake_finite (h : l.retryBudget = some b) :
    l.wake true n = { l with stage := if n + 1 ≤ b then .attempting (n + 1) else .returned } := by
  simp only [wake, h, Option.all_some, Bool.true_and, decide_eq_true_eq, Option.isSome_some, if_true]
  split <;> rfl

end TripLane

/-! ### A flush comes to its end -/

namespace FlushRun

variable {run run' : FlushRun} {others : Nat → Prop} {step : TripLaneStep} {budget : Nat}

/-- A flush that shares the lane with no other, under its budget: while it awaits the drain, that has something to
    do. -/
inductive Alone (budget : Nat) (run : FlushRun) : Prop where
  | working (own : run.own = .awaiting) (finite : run.lane.retryBudget = some budget)
      (unsettled : run.lane.settled = 0) (draining : run.lane.stage ≠ .idle)
      (busy : ∀ n, run.lane.stage = .attempting n ∨ run.lane.stage = .waiting n → run.lane.queue ≠ [])
  | ended (own : run.own ≠ .awaiting) (idle : run.lane.stage = .idle)

/-- How many more steps such a run can make. -/
def weight (budget : Nat) (run : FlushRun) : Nat :=
  (match run.own, run.lane.stage with
    | .awaiting, .attempting n => run.lane.queue.length * (2 * (budget + 1)) + 2 * (budget + 1 - n) + 3
    | .awaiting, .waiting n => run.lane.queue.length * (2 * (budget + 1)) + 2 * (budget + 1 - n) + 2
    | .awaiting, _ => 2
    | .settled, _ => 1
    | .returned, _ => 0) + run.lane.awaiting + run.lane.settled

/-- A drain at the head of its loop has at most this much ahead of it. -/
theorem weight_drain_le (l : TripLane) (attempted delivered : List Trip) :
    weight budget ⟨l.drain true, .awaiting, attempted, delivered⟩
      ≤ l.queue.length * (2 * (budget + 1)) + 2 * budget + 3 + l.awaiting + l.settled := by
  unfold TripLane.drain
  split
  · simp only [weight]
    omega
  · simp only [weight]
    omega

/-- An attempt that settles leaves less to do. -/
theorem Alone.settled {n : Nat} {trip : Trip} {rest : List Trip} (h : Alone budget run)
    (hstage : run.lane.stage = .attempting n) (hqueue : run.lane.queue = trip :: rest) (ok : Bool)
    {attempted delivered} :
    Alone budget ⟨run.lane.settle true n ok, run.own, attempted, delivered⟩ ∧
      weight budget ⟨run.lane.settle true n ok, run.own, attempted, delivered⟩ < weight budget run := by
  cases h with
  | ended _ hidle => simp [hidle] at hstage
  | working hown hfinite hunsettled hdraining hbusy =>
      have hweight : weight budget run
          = (rest.length + 1) * (2 * (budget + 1)) + 2 * (budget + 1 - n) + 3 + run.lane.awaiting := by
        simp [weight, hown, hstage, hqueue, hunsettled]
      have hexpand :
        (rest.length + 1) * (2 * (budget + 1)) = rest.length * (2 * (budget + 1)) + 2 * budget + 2 := by ring
      cases ok with
      | true =>
          have hsettle : run.lane.settle true n true = TripLane.drain true { run.lane with queue := rest } := by
            simp [TripLane.settle, hqueue]
          rw [hsettle, hown]
          have hle := @weight_drain_le budget ⟨rest, run.lane.retryBudget, run.lane.stage,
            run.lane.awaiting, run.lane.settled⟩ attempted delivered
          refine ⟨?_, ?_⟩
          swap
          · rw [hweight]
            refine lt_of_le_of_lt hle ?_
            simp only [hunsettled]
            omega
          unfold TripLane.drain
          split
          · rename_i hrest
            refine .working rfl hfinite hunsettled (by simp) fun m _ => ?_
            simp only [Bool.true_and, Bool.not_eq_true', List.isEmpty_eq_false_iff] at hrest
            exact hrest
          · exact .working rfl hfinite hunsettled (by simp) (by simp)
      | false =>
          rw [TripLane.settle_failed hfinite, hown, hweight]
          refine ⟨.working rfl hfinite hunsettled ?_ fun m _ => by simp [hqueue], ?_⟩
          · split <;> simp
          · split
            · simp only [weight, hunsettled]
              omega
            · simp only [weight, hunsettled, hqueue, List.length_cons]
              omega

/-- So does a wait that ends. -/
theorem Alone.woken {n : Nat} (h : Alone budget run) (hstage : run.lane.stage = .waiting n) {attempted delivered} :
    Alone budget ⟨run.lane.wake true n, run.own, attempted, delivered⟩ ∧
      weight budget ⟨run.lane.wake true n, run.own, attempted, delivered⟩ < weight budget run := by
  cases h with
  | ended _ hidle => simp [hidle] at hstage
  | working hown hfinite hunsettled hdraining hbusy =>
      have hlength : 1 ≤ run.lane.queue.length := List.length_pos_iff.mpr (hbusy n (.inr hstage))
      have hweight : weight budget run
          = run.lane.queue.length * (2 * (budget + 1)) + 2 * (budget + 1 - n) + 2 + run.lane.awaiting := by
        simp [weight, hown, hstage, hunsettled]
      have hhead : 2 * (budget + 1) ≤ run.lane.queue.length * (2 * (budget + 1)) := Nat.le_mul_of_pos_left _ hlength
      rw [TripLane.wake_finite hfinite, hown, hweight]
      refine ⟨.working rfl hfinite hunsettled ?_ fun m _ => hbusy n (.inr hstage), ?_⟩
      · split <;> simp
      · split
        · simp only [weight, hunsettled]
          omega
        · simp only [weight, hunsettled]
          omega

/-- Every step brings the end closer. -/
theorem Alone.next (h : Alone budget run) (hstep : Step (fun _ => False) run step run') :
    Alone budget run' ∧ weight budget run' < weight budget run := by
  cases hstep with
  | settled ok hstage hqueue => exact h.settled hstage hqueue ok
  | woken hstage => exact h.woken hstage
  | flushed hallowed => exact hallowed.elim
  | cleared hstage =>
      cases h with
      | ended _ hidle => simp [hidle] at hstage
      | working hown hfinite hunsettled hdraining hbusy =>
          rw [if_pos hown]
          refine ⟨.ended (by simp) rfl, ?_⟩
          simp only [weight, TripLane.clear, hown, hstage, hunsettled]
          omega
  | resumed hsettled =>
      cases h with
      | working hown hfinite hunsettled hdraining hbusy => simp [hunsettled] at hsettled
      | ended hown hidle =>
          refine ⟨.ended hown hidle, ?_⟩
          simp only [weight, TripLane.flushEnd, hsettled, hidle]
          omega
  | returned hown =>
      cases h with
      | working hawaiting hfinite hunsettled hdraining hbusy => simp [hawaiting] at hown
      | ended _ hidle =>
          refine ⟨.ended (by simp) hidle, ?_⟩
          simp only [weight, TripLane.flushEnd, hown]
          omega

/-- As long as the flush has not returned something can happen. -/
theorem Alone.progress (h : Alone budget run) (hown : run.own ≠ .returned) :
    ∃ step run', Step (fun _ => False) run step run' := by
  cases h with
  | ended hawaiting hidle =>
      rcases ho : run.own with _ | _ | _
      · exact absurd ho hawaiting
      · exact ⟨_, _, .returned ho⟩
      · exact absurd ho hown
  | working hawaiting hfinite hunsettled hdraining hbusy =>
      rcases hstage : run.lane.stage with _ | n | n | _
      · exact absurd hstage hdraining
      · obtain ⟨trip, rest, hqueue⟩ := List.exists_cons_of_ne_nil (hbusy n (.inl hstage))
        exact ⟨_, _, .settled true hstage hqueue⟩
      · exact ⟨_, _, .woken hstage⟩
      · exact ⟨_, _, .cleared hstage⟩

/-- A flush that is called on a lane no other flush awaits is alone. -/
theorem start_alone {l : TripLane} (h : l.Valid) (hunsettled : l.settled = 0) (maxAttempts : Nat) :
    Alone (TripLane.flushBudget maxAttempts) (.start maxAttempts l) := by
  have hvalid := h.flushStart maxAttempts
  refine .working rfl (TripLane.flushStart_retryBudget maxAttempts) ?_ (TripLane.flushStart_stage_ne maxAttempts)
    fun n hn => (hvalid.busy n hn).2
  show (l.flushStart maxAttempts).settled = 0
  unfold TripLane.flushStart TripLane.ensureDraining TripLane.drain
  split
  · split <;> exact hunsettled
  · exact hunsettled

end FlushRun

/-- A flush that shares its lane with no other comes to its end, whatever the outcomes: its runs are bounded, and
    each can go on until the flush has returned. -/
theorem flush_returns {l : TripLane} (h : l.Valid) (hunsettled : l.settled = 0) (maxAttempts : Nat) :
    ∃ bound, ∀ es run, (flushRuns (fun _ => False) maxAttempts l).Exec es run →
      es.length ≤ bound ∧
        (run.own ≠ .returned → ∃ step run', (flushRuns (fun _ => False) maxAttempts l).next run step run') := by
  refine ⟨(FlushRun.start maxAttempts l).weight (TripLane.flushBudget maxAttempts), fun es run hexec => ?_⟩
  have hrun : (run.Alone (TripLane.flushBudget maxAttempts)) ∧
      es.length + run.weight (TripLane.flushBudget maxAttempts)
        ≤ (FlushRun.start maxAttempts l).weight (TripLane.flushBudget maxAttempts) := by
    refine hexec.induct (I := fun es run => run.Alone (TripLane.flushBudget maxAttempts) ∧
      es.length + run.weight (TripLane.flushBudget maxAttempts)
        ≤ (FlushRun.start maxAttempts l).weight (TripLane.flushBudget maxAttempts)) ?_ ?_
    · rintro run rfl
      exact ⟨FlushRun.start_alone h hunsettled maxAttempts, by simp⟩
    · intro es run step run' _ ih hnext
      obtain ⟨halone, hlt⟩ := ih.1.next hnext
      refine ⟨halone, ?_⟩
      have hle := ih.2
      simp only [List.length_append, List.length_cons, List.length_nil]
      omega
  exact ⟨by omega, hrun.1.progress⟩

/-! ### Who is served -/

namespace TripLane

variable {l : TripLane} {maxAttempts : Nat} {others : Nat → Prop}

/-- Every trip of the lane was delivered or attempted often enough, and those still queued are of the second
    kind. -/
structure Serves (l : TripLane) (maxAttempts : Nat) (run : FlushRun) : Prop where
  served : ∀ trip ∈ l.queue, trip ∈ run.delivered ∨ maxAttempts ≤ run.attempted.count trip
  pending : ∀ trip ∈ run.lane.queue, maxAttempts ≤ run.attempted.count trip

/-- The queue of a lane is empty, or holds one trip that no attempt was made of, unless the one in flight is all
    that is promised, and the lane drains or can start to. -/
def Fresh (l : TripLane) (maxAttempts : Nat) : Prop :=
  l.queue = [] ∨ l.queue.length = 1 ∧
    match l.stage with
    | .idle => True
    | .attempting n => n = 1 ∨ maxAttempts ≤ 1
    | .waiting _ => False
    | .returned => False

/-- A lane with one fresh trip, while it is flushed and no budget is too small. -/
inductive Serving (trip : Trip) (maxAttempts : Nat) (run : FlushRun) : Prop where
  | attempting {n} (stage : run.lane.stage = .attempting n) (queue : run.lane.queue = [trip])
      (own : run.own = .awaiting) (budget : ∀ b, run.lane.retryBudget = some b → maxAttempts ≤ b)
      (count : maxAttempts ≤ 1 ∨ n = run.attempted.count trip + 1)
  | waiting {n} (stage : run.lane.stage = .waiting n) (queue : run.lane.queue = [trip]) (own : run.own = .awaiting)
      (budget : ∀ b, run.lane.retryBudget = some b → maxAttempts ≤ b) (count : n = run.attempted.count trip)
  | delivered (delivered : trip ∈ run.delivered) (queue : run.lane.queue = [])
  | gaveUp (count : maxAttempts ≤ run.attempted.count trip) (queue : ∀ t ∈ run.lane.queue, t = trip)

/-- An attempt that settles keeps the trip served. -/
theorem Serving.settled {trip head : Trip} {rest : List Trip} {run : FlushRun} {n : Nat}
    (h : Serving trip maxAttempts run) (hstage : run.lane.stage = .attempting n)
    (hqueue : run.lane.queue = head :: rest) (ok : Bool) :
    Serving trip maxAttempts
      { run with lane := run.lane.settle true n ok
                 attempted := run.attempted ++ [head]
                 delivered := if ok then run.delivered ++ [head] else run.delivered } := by
  cases h with
  | waiting hwaiting => simp [hwaiting] at hstage
  | delivered _ hempty => simp [hempty] at hqueue
  | gaveUp hcount honly =>
      refine .gaveUp ?_ ?_
      · exact hcount.trans (List.Sublist.count_le _ (List.sublist_append_left _ _))
      · intro t ht
        rw [settle_queue] at ht
        split at ht
        · exact honly t (List.mem_of_mem_tail ht)
        · exact honly t ht
  | @attempting m hattempting hone hown hbudget hcount =>
      obtain ⟨rfl, rfl⟩ : trip = head ∧ rest = [] := by simpa [hone] using hqueue
      obtain rfl : m = n := DrainStage.attempting.inj (hattempting.symm.trans hstage)
      have hnext : (run.attempted ++ [trip]).count trip = run.attempted.count trip + 1 := by simp
      cases ok with
      | true => exact .delivered (by simp) (by simp [settle_queue, hone])
      | false =>
          by_cases hdone : maxAttempts ≤ run.attempted.count trip + 1
          · refine .gaveUp (by simpa [hnext] using hdone) fun t ht => ?_
            simpa [settle_queue, hone] using ht
          · -- the budget allows more, so the drain waits
            have hm : m = run.attempted.count trip + 1 := hcount.resolve_left (by omega)
            have hsettle : run.lane.settle true m false = { run.lane with stage := .waiting m } := by
              simp only [settle, Bool.not_true, Bool.false_eq_true, if_false]
              refine if_neg ?_
              cases hb : run.lane.retryBudget with
              | none => simp
              | some b =>
                  have hle := hbudget b hb
                  simp only [Option.any_some, decide_eq_true_eq]
                  omega
            exact .waiting (by rw [hsettle]) (by rw [hsettle]; exact hone) hown (by rw [hsettle]; exact hbudget)
              (by simpa [hnext] using hm)

/-- A step keeps the trip served where no other flush cuts the attempts. -/
theorem Serving.next {trip : Trip} {run run' : FlushRun} {step : TripLaneStep} (h : Serving trip maxAttempts run)
    (hothers : ∀ m, others m → maxAttempts ≤ flushBudget m) (hstep : FlushRun.Step others run step run') :
    Serving trip maxAttempts run' := by
  cases hstep with
  | settled ok hstage hqueue => exact h.settled hstage hqueue ok
  | @woken n hstage =>
      cases h with
      | attempting hattempting => simp [hattempting] at hstage
      | delivered hdelivered hempty => exact .delivered hdelivered (by simpa using hempty)
      | gaveUp hcount honly => exact .gaveUp hcount (by simpa using honly)
      | @waiting m hwaiting hone hown hbudget hcount =>
          obtain rfl : m = n := DrainStage.waiting.inj (hwaiting.symm.trans hstage)
          cases hb : run.lane.retryBudget with
          | none =>
              have hwake : run.lane.wake true m = { run.lane with stage := .attempting (m + 1) } := by
                simp [wake, hb]
              exact .attempting (by rw [hwake]) (by rw [hwake]; exact hone) hown (by rw [hwake]; exact hbudget)
                (.inr (by rw [hcount]))
          | some b =>
              have hwake := wake_finite (n := m) hb
              have hle := hbudget b hb
              by_cases hlt : m + 1 ≤ b
              · rw [if_pos hlt] at hwake
                exact .attempting (by rw [hwake]) (by rw [hwake]; exact hone) hown (by rw [hwake]; exact hbudget)
                  (.inr (by rw [hcount]))
              · exact .gaveUp (by show maxAttempts ≤ run.attempted.count trip; omega) (by simp [hone])
  | cleared hstage =>
      cases h with
      | attempting hattempting => simp [hattempting] at hstage
      | waiting hwaiting => simp [hwaiting] at hstage
      | delivered hdelivered hempty => exact .delivered hdelivered hempty
      | gaveUp hcount honly => exact .gaveUp hcount honly
  | @flushed m hallowed =>
      cases h with
      | attempting hstage hone hown hbudget hcount =>
          rw [flushStart_of_busy (by simp [hstage])]
          refine .attempting hstage hone hown (fun b hb => ?_) hcount
          obtain rfl := Option.some.inj hb
          exact hothers m hallowed
      | waiting hstage hone hown hbudget hcount =>
          rw [flushStart_of_busy (by simp [hstage])]
          refine .waiting hstage hone hown (fun b hb => ?_) hcount
          obtain rfl := Option.some.inj hb
          exact hothers m hallowed
      | delivered hdelivered hempty => exact .delivered hdelivered (by simpa using hempty)
      | gaveUp hcount honly => exact .gaveUp hcount (by simpa using honly)
  | resumed hsettled =>
      cases h with
      | attempting hstage hone hown hbudget hcount => exact .attempting hstage hone hown (by simp [flushEnd]) hcount
      | waiting hstage hone hown hbudget hcount => exact .waiting hstage hone hown (by simp [flushEnd]) hcount
      | delivered hdelivered hempty => exact .delivered hdelivered hempty
      | gaveUp hcount honly => exact .gaveUp hcount honly
  | returned hown =>
      cases h with
      | attempting _ _ hawaiting => simp [hawaiting] at hown
      | waiting _ _ hawaiting => simp [hawaiting] at hown
      | delivered hdelivered hempty => exact .delivered hdelivered hempty
      | gaveUp hcount honly => exact .gaveUp hcount honly

/-- A flush that has gone on served its trip. -/
theorem Serving.serves {trip : Trip} {run : FlushRun} (h : Serving trip maxAttempts run) (hown : run.own = .returned)
    (hqueue : l.queue = [trip]) : l.Serves maxAttempts run := by
  have hone : ∀ t ∈ l.queue, t = trip := by simp [hqueue]
  cases h with
  | attempting _ _ hawaiting => simp [hawaiting] at hown
  | waiting _ _ hawaiting => simp [hawaiting] at hown
  | delivered hdelivered hempty => exact ⟨fun t ht => .inl (hone t ht ▸ hdelivered), by simp [hempty]⟩
  | gaveUp hcount honly => exact ⟨fun t ht => .inr (hone t ht ▸ hcount), fun t ht => honly t ht ▸ hcount⟩

/-- A flush of a fresh lane awaits an attempt of its trip, the first one unless one is all that is promised. -/
theorem Fresh.stage {trip : Trip} (h : l.Fresh maxAttempts) (hqueue : l.queue = [trip]) :
    ∃ n, (l.flushStart maxAttempts).stage = .attempting n ∧ (maxAttempts ≤ 1 ∨ n = 1) := by
  have hstage := (h.resolve_left (by simp [hqueue])).2
  rcases hl : l.stage with _ | n | n | _ <;> rw [hl] at hstage
  · exact ⟨1, by simp [flushStart, ensureDraining, drain, hl, hqueue], .inr rfl⟩
  · exact ⟨n, by rw [flushStart_of_busy (by simp [hl])]; exact hl, hstage.symm⟩
  · exact hstage.elim
  · exact hstage.elim

/-- A flush of a fresh lane serves its trip. -/
theorem Fresh.serving {trip : Trip} (h : l.Fresh maxAttempts) (hqueue : l.queue = [trip]) :
    Serving trip maxAttempts (.start maxAttempts l) := by
  have hbudget : ∀ b, (l.flushStart maxAttempts).retryBudget = some b → maxAttempts ≤ b := by
    intro b hb
    rw [flushStart_retryBudget] at hb
    obtain rfl := Option.some.inj hb
    exact Nat.le_max_right _ _
  obtain ⟨n, hstage, hn⟩ := h.stage hqueue
  exact .attempting hstage ((flushStart_queue maxAttempts).trans hqueue) rfl hbudget hn

/-- An empty lane is served in every run. -/
theorem serves_of_nil (hnil : l.queue = []) {run : FlushRun} (hrun : (flushRuns others maxAttempts l).Reachable run) :
    l.Serves maxAttempts run := by
  have hempty : run.lane.queue = [] := by
    refine hrun.invariant (P := fun run => run.lane.queue = []) ⟨?_, ?_⟩
    · rintro _ rfl
      exact (flushStart_queue maxAttempts).trans hnil
    · intro run step run' hempty hstep
      cases hstep with
      | settled _ _ hqueue => simp [hempty] at hqueue
      | woken => simpa using hempty
      | cleared => exact hempty
      | flushed => simpa using hempty
      | resumed => exact hempty
      | returned => exact hempty
  exact ⟨by simp [hnil], by simp [hempty]⟩

/-- A fresh lane is served in every run in which the other flushes pass no smaller count. -/
theorem Fresh.serves (h : l.Fresh maxAttempts) (hothers : ∀ m, others m → maxAttempts ≤ flushBudget m) {run : FlushRun}
    (hrun : (flushRuns others maxAttempts l).Reachable run) (hown : run.own = .returned) :
    l.Serves maxAttempts run := by
  rcases h with hnil | hone
  · exact serves_of_nil hnil hrun
  · obtain ⟨trip, hqueue⟩ := List.length_eq_one_iff.mp hone.1
    have hserving : Serving trip maxAttempts run := by
      refine hrun.invariant ⟨?_, fun _ _ _ hserving hstep => hserving.next hothers hstep⟩
      rintro _ rfl
      exact Fresh.serving (.inr hone) hqueue
    exact hserving.serves hown hqueue

/-! ### Who is not -/

/-- The attempts that a budget leaves to the head of a lane that drains. -/
def attemptsLeft (budget : Nat) : DrainStage → Nat
  | .attempting n => max 1 (budget + 1 - n)
  | .waiting n => budget - n
  | _ => 0

/-- A run of a flush in which every attempt fails: the head alone is attempted, at most so often, and the flush
    returns. -/
structure Fails (M : Lts FlushRun TripLaneStep) (run : FlushRun) (trip : Trip) (bound : Nat) (final : FlushRun) :
    Prop where
  path : ∃ es, M.Path run es final
  own : final.own = .returned
  queue : final.lane.queue = run.lane.queue
  delivered : final.delivered = run.delivered
  attempted : ∃ c ≤ bound, final.attempted = run.attempted ++ List.replicate c trip

/-- A failed attempt uses up the budget, -/
theorem step_gaveUp (others : Nat → Prop) {run : FlushRun} {n b : Nat} {trip : Trip} {rest : List Trip}
    (hstage : run.lane.stage = .attempting n) (hqueue : run.lane.queue = trip :: rest)
    (hbudget : run.lane.retryBudget = some b) (hle : b ≤ n) :
    FlushRun.Step others run (.settled false)
      ⟨{ run.lane with stage := .returned }, run.own, run.attempted ++ [trip], run.delivered⟩ := by
  have hstep : FlushRun.Step others run (.settled false) _ := .settled false hstage hqueue
  rw [settle_failed hbudget, if_pos hle] at hstep
  exact hstep

/-- or the drain waits, -/
theorem step_failed (others : Nat → Prop) {run : FlushRun} {n b : Nat} {trip : Trip} {rest : List Trip}
    (hstage : run.lane.stage = .attempting n) (hqueue : run.lane.queue = trip :: rest)
    (hbudget : run.lane.retryBudget = some b) (hlt : n < b) :
    FlushRun.Step others run (.settled false)
      ⟨{ run.lane with stage := .waiting n }, run.own, run.attempted ++ [trip], run.delivered⟩ := by
  have hstep : FlushRun.Step others run (.settled false) _ := .settled false hstage hqueue
  rw [settle_failed hbudget, if_neg (not_le.mpr hlt)] at hstep
  exact hstep

/-- and then tries again -/
theorem step_retried (others : Nat → Prop) {run : FlushRun} {n b : Nat} (hstage : run.lane.stage = .waiting n)
    (hbudget : run.lane.retryBudget = some b) (hlt : n < b) :
    FlushRun.Step others run .woken
      ⟨{ run.lane with stage := .attempting (n + 1) }, run.own, run.attempted, run.delivered⟩ := by
  have hstep : FlushRun.Step others run .woken _ := .woken hstage
  rw [wake_finite hbudget, if_pos (Nat.succ_le_of_lt hlt)] at hstep
  exact hstep

/-- or, where a flush lowered the budget meanwhile, does not. -/
theorem step_ended (others : Nat → Prop) {run : FlushRun} {n b : Nat} (hstage : run.lane.stage = .waiting n)
    (hbudget : run.lane.retryBudget = some b) (hle : b ≤ n) :
    FlushRun.Step others run .woken
      ⟨{ run.lane with stage := .returned }, run.own, run.attempted, run.delivered⟩ := by
  have hstep : FlushRun.Step others run .woken _ := .woken hstage
  rw [wake_finite hbudget, if_neg (not_le.mpr (Nat.lt_succ_of_le hle))] at hstep
  exact hstep

/-- A drain that returned ends the flush. -/
theorem fails_of_returned (run : FlushRun) (hown : run.own = .awaiting) (hstage : run.lane.stage = .returned)
    (trip : Trip) : ∃ final, Fails (flushRuns others maxAttempts l) run trip 0 final := by
  have hcleared : (flushRuns others maxAttempts l).next run .cleared
      ⟨run.lane.clear, .settled, run.attempted, run.delivered⟩ := by
    have hstep : FlushRun.Step others run .cleared _ := .cleared hstage
    rw [if_pos hown] at hstep
    exact hstep
  have hreturned : (flushRuns others maxAttempts l).next ⟨run.lane.clear, .settled, run.attempted, run.delivered⟩
      .returned ⟨run.lane.clear.flushEnd, .returned, run.attempted, run.delivered⟩ := FlushRun.Step.returned rfl
  exact ⟨_, ⟨_, (Lts.Path.single hcleared).append (.single hreturned)⟩, rfl, rfl, rfl, 0, le_rfl, by simp⟩

/-- A step in which no attempt settles leaves a failing run what it was. -/
theorem Fails.step {run run' final : FlushRun} {trip : Trip} {bound : Nat} {step : TripLaneStep}
    (h : Fails (flushRuns others maxAttempts l) run' trip bound final) (hstep : FlushRun.Step others run step run')
    (hqueue : run'.lane.queue = run.lane.queue) (hdelivered : run'.delivered = run.delivered)
    (hattempted : run'.attempted = run.attempted) : Fails (flushRuns others maxAttempts l) run trip bound final := by
  obtain ⟨⟨es, hpath⟩, hown, hqueue', hdelivered', c, hc, hattempted'⟩ := h
  exact ⟨⟨_, (Lts.Path.single hstep).append hpath⟩, hown, hqueue'.trans hqueue, hdelivered'.trans hdelivered, c, hc,
    hattempted ▸ hattempted'⟩

/-- One in which an attempt of the head fails counts. -/
theorem Fails.attempt {run run' final : FlushRun} {trip : Trip} {bound : Nat} {step : TripLaneStep}
    (h : Fails (flushRuns others maxAttempts l) run' trip bound final) (hstep : FlushRun.Step others run step run')
    (hqueue : run'.lane.queue = run.lane.queue) (hdelivered : run'.delivered = run.delivered)
    (hattempted : run'.attempted = run.attempted ++ [trip]) :
    Fails (flushRuns others maxAttempts l) run trip (bound + 1) final := by
  obtain ⟨⟨es, hpath⟩, hown, hqueue', hdelivered', c, hc, hattempted'⟩ := h
  refine ⟨⟨_, (Lts.Path.single hstep).append hpath⟩, hown, hqueue'.trans hqueue, hdelivered'.trans hdelivered, c + 1,
    by omega, ?_⟩
  rw [hattempted', hattempted, List.append_assoc, Nat.add_comm, List.replicate_add]
  rfl

/-- A failure within a bound is one within any greater bound. -/
theorem Fails.mono {run final : FlushRun} {trip : Trip} {bound bound' : Nat}
    (h : Fails (flushRuns others maxAttempts l) run trip bound final) (hle : bound ≤ bound') :
    Fails (flushRuns others maxAttempts l) run trip bound' final := by
  obtain ⟨hpath, hown, hqueue, hdelivered, c, hc, hattempted⟩ := h
  exact ⟨hpath, hown, hqueue, hdelivered, c, hc.trans hle, hattempted⟩

/-- Where every attempt fails, the head of a lane gets the attempts left to it and no other trip gets one. -/
theorem fails_of_draining {trip : Trip} {rest : List Trip} {b : Nat} (stage : DrainStage) (hstage : stage ≠ .idle) :
    ∀ (run : FlushRun), run.own = .awaiting → run.lane.retryBudget = some b → run.lane.queue = trip :: rest →
      run.lane.stage = stage →
      ∃ final, Fails (flushRuns others maxAttempts l) run trip (attemptsLeft b stage) final := by
  -- by induction on the attempts left: the attempt fails, and the wait after it ends
  have hattempting : ∀ (left n : Nat), b - n = left → ∀ run : FlushRun, run.own = .awaiting →
      run.lane.retryBudget = some b → run.lane.queue = trip :: rest → run.lane.stage = .attempting n →
      ∃ final, Fails (flushRuns others maxAttempts l) run trip (left + 1) final := by
    intro left
    induction left with
    | zero =>
        intro n hleft run hown hbudget hqueue hstage
        have hgaveUp := step_gaveUp others hstage hqueue hbudget (by omega)
        obtain ⟨final, hfails⟩ := fails_of_returned ⟨{ run.lane with stage := .returned }, run.own,
          run.attempted ++ [trip], run.delivered⟩ hown rfl trip
        exact ⟨final, hfails.attempt hgaveUp rfl rfl rfl⟩
    | succ left ih =>
        intro n hleft run hown hbudget hqueue hstage
        have hfailed := step_failed others hstage hqueue hbudget (by omega)
        have hretried : FlushRun.Step others ⟨{ run.lane with stage := .waiting n }, run.own, run.attempted ++ [trip],
            run.delivered⟩ .woken _ := step_retried others rfl hbudget (by omega)
        obtain ⟨final, hfails⟩ := ih (n + 1) (by omega) ⟨{ run.lane with stage := .attempting (n + 1) }, run.own,
          run.attempted ++ [trip], run.delivered⟩ hown hbudget hqueue rfl
        exact ⟨final, (hfails.step hretried rfl rfl rfl).attempt hfailed rfl rfl rfl⟩
  intro run hown hbudget hqueue hrun
  cases stage with
  | idle => exact absurd rfl hstage
  | returned => exact fails_of_returned run hown hrun trip
  | attempting n =>
      obtain ⟨final, hfails⟩ := hattempting (b - n) n rfl run hown hbudget hqueue hrun
      exact ⟨final, hfails.mono (by simp only [attemptsLeft]; omega)⟩
  | waiting n =>
      by_cases hlt : n < b
      · have hretried := step_retried others hrun hbudget hlt
        obtain ⟨final, hfails⟩ := hattempting (b - (n + 1)) (n + 1) rfl
          ⟨{ run.lane with stage := .attempting (n + 1) }, run.own, run.attempted, run.delivered⟩ hown
            hbudget hqueue rfl
        exact ⟨final, (hfails.step hretried rfl rfl rfl).mono (by simp only [attemptsLeft]; omega)⟩
      · have hended := step_ended others hrun hbudget (not_lt.mp hlt)
        obtain ⟨final, hfails⟩ := fails_of_returned ⟨{ run.lane with stage := .returned }, run.own,
          run.attempted, run.delivered⟩ hown rfl trip
        exact ⟨final, (hfails.step hended rfl rfl rfl).mono (Nat.zero_le _)⟩

/-- A failing run that serves its lane has nothing but the head in the queue, attempted often enough. -/
theorem Fails.served {run final : FlushRun} {trip : Trip} {rest : List Trip} {bound : Nat}
    (h : Fails (flushRuns others maxAttempts l) run trip bound final) (hdelivered : run.delivered = [])
    (hattempted : run.attempted = []) (hqueue : l.queue = trip :: rest) (hdistinct : l.queue.Nodup)
    (hpositive : 1 ≤ maxAttempts) (hserves : l.Serves maxAttempts final) : rest = [] ∧ maxAttempts ≤ bound := by
  obtain ⟨-, -, -, hdelivered', c, hc, hattempted'⟩ := h
  have hcount : ∀ t ∈ l.queue, maxAttempts ≤ (List.replicate c trip).count t := by
    intro t ht
    have hattempts := (hserves.served t ht).resolve_left (by simp [hdelivered', hdelivered])
    rwa [hattempted', hattempted, List.nil_append] at hattempts
  constructor
  · cases rest with
    | nil => rfl
    | cons next rest =>
        have hne : trip ≠ next := by
          rw [hqueue] at hdistinct
          rintro rfl
          exact (List.nodup_cons.mp hdistinct).1 (by simp)
        have hle := hcount next (by simp [hqueue])
        rw [List.count_replicate, if_neg (by simpa using hne)] at hle
        omega
  · have hle := hcount trip (by simp [hqueue])
    rw [List.count_replicate_self] at hle
    omega

/-- What a flush is sure to serve: a fresh lane, or, where something is queued, no other flush with a smaller
    count. -/
theorem fresh_of_serves (hvalid : l.Valid) (hpositive : 1 ≤ maxAttempts)
    (h : ∀ run, (flushRuns others maxAttempts l).Reachable run → run.own = .returned → l.Serves maxAttempts run) :
    l.Fresh maxAttempts ∧ (l.queue ≠ [] → ∀ m, others m → maxAttempts ≤ flushBudget m) := by
  have hbudget : flushBudget maxAttempts = maxAttempts := Nat.max_eq_right hpositive
  have hdistinct : l.queue.Nodup := List.Nodup.of_map _ hvalid.distinct
  cases hqueue : l.queue with
  | nil => exact ⟨.inl hqueue, by simp⟩
  | cons trip rest =>
      have hreach : ∀ {run final : FlushRun} {bound : Nat}, (flushRuns others maxAttempts l).Reachable run →
          run.delivered = [] → run.attempted = [] → Fails (flushRuns others maxAttempts l) run trip bound final →
          rest = [] ∧ maxAttempts ≤ bound := by
        rintro run final bound ⟨es, hexec⟩ hdelivered hattempted hfails
        obtain ⟨fs, hpath⟩ := hfails.path
        obtain ⟨s, hs, hfirst⟩ := hexec
        exact hfails.served hdelivered hattempted hqueue hdistinct hpositive
          (h final ⟨_, s, hs, hfirst.append hpath⟩ hfails.own)
      have hinit : (flushRuns others maxAttempts l).Reachable (.start maxAttempts l) := ⟨[], Lts.Exec.nil rfl⟩
      -- the flush alone
      obtain ⟨final, hfails⟩ := @fails_of_draining l maxAttempts others trip rest _ _ (flushStart_stage_ne maxAttempts)
        (.start maxAttempts l) rfl (flushStart_retryBudget maxAttempts)
          ((flushStart_queue maxAttempts).trans hqueue) rfl
      obtain ⟨rfl, hle⟩ := hreach hinit rfl rfl hfails
      rw [hbudget] at hle
      have hfresh : l.Fresh maxAttempts := by
        refine .inr ⟨by simp [hqueue], ?_⟩
        cases hl : l.stage with
        | idle => trivial
        | attempting n =>
            have hn := (hvalid.busy n (.inl hl)).1
            rw [flushStart_of_busy (by simp [hl])] at hle
            simp only [hl, attemptsLeft] at hle
            show n = 1 ∨ maxAttempts ≤ 1
            omega
        | waiting n =>
            have hn := (hvalid.busy n (.inr hl)).1
            rw [flushStart_of_busy (by simp [hl])] at hle
            simp only [hl, attemptsLeft] at hle
            show False
            omega
        | returned =>
            rw [flushStart_of_busy (by simp [hl])] at hle
            simp only [hl, attemptsLeft] at hle
            show False
            omega
      refine ⟨hfresh, fun _ m hm => ?_⟩
      -- the flush with another one right behind it
      have hflushed : (flushRuns others maxAttempts l).next (.start maxAttempts l) (.flushed m) _ :=
        FlushRun.Step.flushed hm
      obtain ⟨final, hfails⟩ := @fails_of_draining l maxAttempts others trip [] (flushBudget m) _
        (flushStart_stage_ne maxAttempts)
        { FlushRun.start maxAttempts l with lane :=
          { (l.flushStart maxAttempts).flushStart m with
            awaiting := ((l.flushStart maxAttempts).flushStart m).awaiting + 1 } } rfl
        (flushStart_retryBudget m) (by simp [hqueue])
        (by rw [flushStart_of_busy (flushStart_stage_ne maxAttempts)])
      obtain ⟨-, hle'⟩ := hreach ⟨_, Lts.Exec.snoc (Lts.Exec.nil rfl) hflushed⟩ rfl rfl hfails
      obtain ⟨n, hstage, hn⟩ := hfresh.stage hqueue
      have hone : 1 ≤ flushBudget m := Nat.le_max_left _ _
      simp only [hstage, attemptsLeft] at hle'
      omega

end TripLane

/-! ### The reporter -/

namespace TripReporter

variable (r : TripReporter)

theorem lane_valid (tier : TripTier) : (r.lane tier).Valid := by
  cases tier with
  | alert => exact r.alert.property
  | kill => exact r.kill.property

/-- A flush gives every queued trip its attempts, in every run in which the other flushes pass counts that `others`
    allows. -/
def FlushServes (others : Nat → Prop) (maxAttempts : Nat) : Prop :=
  ∀ tier run, r.Flushes others maxAttempts tier run → run.own = .returned → (r.lane tier).Serves maxAttempts run

/-- A flush serves every trip queued when it is called, whatever the outcomes and the flushes called meanwhile,
    exactly where each lane is fresh, none of those flushes passes a smaller count and, unless nothing is queued,
    the reporter runs. -/
theorem flush_serves_iff (others : Nat → Prop) (maxAttempts : Nat) :
    r.FlushServes others maxAttempts ↔
      maxAttempts = 0 ∨ (∀ tier, (r.lane tier).queue = []) ∨
        r.active = true ∧ (∀ tier, (r.lane tier).Fresh maxAttempts) ∧
          ∀ m, others m → maxAttempts ≤ TripLane.flushBudget m := by
  rcases Nat.eq_zero_or_pos maxAttempts with rfl | hpositive
  · exact iff_of_true (fun tier run _ _ => ⟨fun _ _ => .inr (Nat.zero_le _), fun _ _ => Nat.zero_le _⟩) (.inl rfl)
  · constructor
    · intro h
      right
      cases hactive : r.active with
      | true =>
          have hfresh : ∀ tier, (r.lane tier).Fresh maxAttempts ∧
              ((r.lane tier).queue ≠ [] → ∀ m, others m → maxAttempts ≤ TripLane.flushBudget m) := by
            intro tier
            refine TripLane.fresh_of_serves (r.lane_valid tier) hpositive fun run hrun hown => h tier run ?_ hown
            rw [Flushes, if_pos hactive]
            exact hrun
          by_cases hempty : ∀ tier, (r.lane tier).queue = []
          · exact .inl hempty
          · obtain ⟨tier, hqueue⟩ := not_forall.mp hempty
            exact .inr ⟨rfl, fun tier => (hfresh tier).1, (hfresh tier).2 hqueue⟩
      | false =>
          left
          intro tier
          have hserves := h tier ⟨r.lane tier, .returned, [], []⟩ (by simp [Flushes, hactive]) rfl
          refine List.eq_nil_iff_forall_not_mem.mpr fun trip htrip => ?_
          have hle := hserves.pending trip htrip
          rw [List.count_nil] at hle
          omega
    · rintro (rfl | hempty | ⟨hactive, hfresh, hothers⟩) tier run hrun hown
      · cases hpositive
      · unfold Flushes at hrun
        split at hrun
        · exact TripLane.serves_of_nil (hempty tier) hrun
        · rw [hrun]
          exact ⟨by simp [hempty tier], by simp [hempty tier]⟩
      · rw [Flushes, if_pos hactive] at hrun
        exact (hfresh tier).serves hothers hrun hown

end TripReporter

/-! ### A trip behind a head that gives up -/

/-- A kill lane that attempts one trip for the first time, with a second trip behind it. -/
def twoTrips : TripLane where
  queue := [⟨.kill, [js "ht-1"], js "file read", none, none, none⟩, ⟨.kill, [js "ht-2"], js "file read", none, none, none⟩]
  retryBudget := none
  stage := .attempting 1
  awaiting := 0
  settled := 0

theorem twoTrips_valid : twoTrips.Valid where
  distinct := by decide
  budget := by simp [twoTrips]
  busy := fun n hn => by
    simp only [twoTrips, DrainStage.attempting.injEq, reduceCtorEq, or_false] at hn
    exact ⟨by omega, by simp [twoTrips]⟩
  unawaited := by simp [twoTrips]

def twoTripsReporter : TripReporter where
  active := true
  kill := ⟨twoTrips, twoTrips_valid⟩
  alert := ⟨.empty, TripLane.valid_empty⟩

/-- Two trips reported, then a flush of one attempt each: the first fails its attempt, the second gets none, and
    both are still pending when the flush returns. -/
theorem flush_skips_second :
    (∃ run, twoTripsReporter.Flushes (fun _ => False) 1 .kill run ∧ run.own = .returned ∧
      run.attempted = twoTrips.queue.take 1 ∧ run.lane.queue = twoTrips.queue) ∧
      ¬ twoTripsReporter.FlushServes (fun _ => False) 1 := by
  have hgaveUp : FlushRun.Step (fun _ => False) (.start 1 twoTrips) (.settled false) _ :=
    TripLane.step_gaveUp _ rfl rfl rfl le_rfl
  obtain ⟨final, ⟨es, hpath⟩, hown, hqueue, hdelivered, c, hc, hattempted⟩ :=
    @TripLane.fails_of_returned twoTrips 1 (fun _ => False)
      ⟨{ (FlushRun.start 1 twoTrips).lane with stage := .returned }, .awaiting, twoTrips.queue.take 1, []⟩ rfl rfl
      ⟨.kill, [], [], none, none, none⟩
  obtain rfl := Nat.le_zero.mp hc
  rw [List.replicate_zero, List.append_nil] at hattempted
  have hrun : twoTripsReporter.Flushes (fun _ => False) 1 .kill final :=
    ⟨_, _, rfl, (Lts.Path.single hgaveUp).append hpath⟩
  refine ⟨⟨final, hrun, hown, hattempted, hqueue⟩, fun h => ?_⟩
  rcases (h .kill final hrun hown).served twoTrips.queue[1] (by decide) with hlanded | hserved
  · rw [hdelivered] at hlanded
    cases hlanded
  · rw [hattempted] at hserved
    exact absurd hserved (by decide)

end OwnerSwitch
