/-
Module: OwnerSwitch.Escalation.LadderCaps
Layer: Escalation
Purpose: The ceilings of the ladder hold over any storm: every horizon of every run stays within its cap, every
  UTC day within its own but for the rounding of its sum, a rung fires or is skipped once per run, and a queued
  stop outruns the sends of its tick.
Imports: LadderRuns
Trusted boundary: none
Main exports: pricesOn, CapsHold, caps_hold
Open obligations: none
-/
import OwnerSwitch.Escalation.LadderRuns

namespace OwnerSwitch

open RateLimit

/-- The prices of the sends of one UTC day, in their order. -/
def pricesOn (engine : LadderEngine) (es : List LadderEdge) (day : Int) : List Double :=
  chargesIn utcDay (chargesOf engine.costUsd (allSends es)) day

/-- The caps over a run. A count cap that is no whole number admits the next whole number of sends; what a day costs is
    added up in double precision, which loses one part of the cap in `2 ^ 53` for each send at most. -/
structure CapsHold (engine : LadderEngine) (es : List LadderEdge) : Prop where
  voice : ∀ start, (within voiceHorizonMs start (timesOn .voice (allSends es))).length ≤
    ⌈engine.limits.maxVoiceCallsPer10Min.value⌉₊
  sms : ∀ start, (within smsHorizonMs start (timesOn .sms (allSends es))).length ≤ ⌈engine.limits.maxSmsPerHour.value⌉₊
  daily : ∀ day, (pricesOn engine es day).foldl (· + ·) 0 ≤ engine.limits.maxDailySpendUsd
  exact : ∀ day, Double.exactSum (pricesOn engine es day) ≤
    engine.limits.maxDailySpendUsd.value * (1 + (pricesOn engine es day).length / 2 ^ 53)
  /-- no rung is fired or skipped twice in a run of rungs -/
  once : ∀ pre x post, es = pre ++ x :: post → x.spends.Nodup ∧ ∀ i ∈ x.spends, ∀ d ∈ stormOf pre, i ∉ d.spends
  /-- what was queued comes first, and is relays; what follows holds no relay -/
  outruns : ∀ x ∈ es, ∀ nowMs, x.label = .tick nowMs → ∃ rest,
    (x.src.engine.tick nowMs).2 = x.src.engine.pending ++ rest ∧
    (∀ a ∈ x.src.engine.pending, ∃ ids channel attribution, a = .relayVeto ids channel attribution) ∧
    ∀ a ∈ rest, ∀ ids channel attribution, a ≠ .relayVeto ids channel attribution

section Caps

variable {opts : LadderEngineOptions} {engine : LadderEngine} {es : List LadderEdge} {t : LadderState}

/-- A step's rungs, against those the run of rungs had spent before it. -/
theorem spends_once {pre post : List LadderEdge} {x : LadderEdge} (hmake : LadderEngine.make opts = .ok engine)
    (h : (ladderRuns engine).Exec (pre ++ x :: post) t) :
    x.spends.Nodup ∧ ∀ i ∈ x.spends, ∀ d ∈ stormOf pre, i ∉ d.spends := by
  obtain ⟨hpre, ⟨-, hafter⟩, -⟩ := h.split
  obtain ⟨s, op, u⟩ := x
  cases hrun : s.engine.run with
  | none =>
      have hnone : s.engine.spends op = [] := by
        unfold LadderEngine.spends
        cases op <;> simp only [hrun]
      show (s.engine.spends op).Nodup ∧ ∀ i ∈ s.engine.spends op, _
      rw [hnone]
      exact ⟨List.nodup_nil, nofun⟩
  | some run =>
      cases hrun' : (s.engine.after op).run with
      | none =>
          have hnone := LadderEngine.spends_ended hrun hrun'
          show (s.engine.spends op).Nodup ∧ ∀ i ∈ s.engine.spends op, _
          rw [hnone]
          exact ⟨List.nodup_nil, nofun⟩
      | some run' =>
          have hspent := LadderEngine.after_spent hrun hrun'
          refine ⟨hspent.nodup, ?_⟩
          intro i hi d hd hspends
          exact hspent.fresh i hi ((exec_fired hmake hpre hrun i).mpr ⟨d, hd, hspends⟩)

/-- The caps hold over any storm. -/
theorem caps_hold (hmake : LadderEngine.make opts = .ok engine) (hpriced : LadderEngine.Priced engine.costUsd)
    (h : (ladderRuns engine).Exec es t) : CapsHold engine es := by
  obtain ⟨hconfig, -, haccounts⟩ := exec_accounts hmake h
  have hdaily := haccounts.daily (hconfig.costUsd ▸ hpriced)
  rw [hconfig.limits, hconfig.costUsd] at hdaily
  obtain ⟨cap, hcap, hlimit, -⟩ := LadderEngine.finite_of_sense (hconfig.limits ▸ haccounts.sensible.spend)
  constructor
  · intro start
    rw [← hconfig.limits]
    exact haccounts.voiceCap start
  · intro start
    rw [← hconfig.limits]
    exact haccounts.smsCap start
  · intro day
    obtain ⟨total, hrep, htotal, -, hle, -⟩ := (hdaily day).sum
    rw [pricesOn, htotal]
    rw [hlimit] at hle ⊢
    exact hle
  · intro day
    obtain ⟨total, -, -, -, hle, hexact⟩ := (hdaily day).sum
    rw [mul_add, mul_one]
    exact hexact.trans (by unfold pricesOn; linarith)
  · rintro pre x post rfl
    exact spends_once hmake h
  · intro x hx nowMs _
    obtain ⟨pre, post, rfl⟩ := List.append_of_mem hx
    obtain ⟨hpre, -, -⟩ := h.split
    obtain ⟨rest, hactions, hrest⟩ := LadderEngine.tick_actions x.src.engine nowMs
    refine ⟨rest, hactions, (exec_accounts hmake hpre).2.1, ?_⟩
    rintro a ha ids channel attribution rfl
    rcases hrest _ ha with ⟨_, _, hstood⟩ | ⟨_, _, hsent⟩
    · cases hstood
    · cases hsent

end Caps

namespace LadderSample

/-- What the constructor makes of a list of rungs and some costs. -/
def started (rungs : List LadderRung) (limits : RateLimits) (costUsd : ChannelKind → Double) : LadderEngine where
  rungs := rungs
  limits := limits
  costUsd := costUsd
  run := none
  voiceSends := []
  smsSends := []
  spendDay := -1
  spendUsd := 0
  pending := []

/-- The options it is made from. -/
def options (rungs : List LadderRung) (limits : RateLimits) (costUsd : ChannelKind → Double) : LadderEngineOptions :=
  ⟨some rungs, some limits, fun channel => some (costUsd channel)⟩

theorem make_options {rungs : List LadderRung} {limits : RateLimits} {costUsd : ChannelKind → Double}
    (hsorted : rungs.insertionSort (fun a b => a.afterMs ≤ b.afterMs) = rungs)
    (hrungs : rungs.any (fun rung => rung.afterMs < 0) = false) (hlimits : LadderEngine.Sensible limits) :
    LadderEngine.make (options rungs limits costUsd) = .ok (started rungs limits costUsd) := by
  unfold options
  simp only [LadderEngine.make, Option.getD_some, hsorted, hrungs, hlimits.voice, hlimits.sms, hlimits.spend,
    Bool.false_eq_true, if_false]
  rfl

/-- Three storms of one window each, a minute apart. -/
def storms : List LadderOp :=
  [.windowOpened (js "v-1") (js "bash") 9000000, .tick 60000, .windowClosed (js "v-1"), .tick 60000,
    .windowOpened (js "v-2") (js "bash") 9000000, .tick 120000, .windowClosed (js "v-2"), .tick 120000,
    .windowOpened (js "v-3") (js "bash") 9000000, .tick 180000]

theorem exec (engine : LadderEngine) (ops : List LadderOp)
    (h : Lts.allEnabled LadderState.after LadderState.enabled ⟨engine, 0⟩ ops = true) :
    (ladderRuns engine).Exec (Lts.trace LadderState.after ⟨engine, 0⟩ ops)
      (ops.foldl LadderState.after ⟨engine, 0⟩) :=
  Lts.Exec.trace (fun _ _ henabled => And.intro henabled rfl) rfl h

/-- The same, with the last step named. -/
theorem exec_snoc (engine : LadderEngine) (ops : List LadderOp) (op : LadderOp)
    (h : Lts.allEnabled LadderState.after LadderState.enabled ⟨engine, 0⟩ (ops ++ [op]) = true) :
    (ladderRuns engine).Exec
      (Lts.trace LadderState.after ⟨engine, 0⟩ ops ++
        [⟨ops.foldl LadderState.after ⟨engine, 0⟩, op, (ops.foldl LadderState.after ⟨engine, 0⟩).after op⟩])
      ((ops.foldl LadderState.after ⟨engine, 0⟩).after op) :=
  Lts.Exec.trace_snoc (fun _ _ henabled => And.intro henabled rfl) rfl h

theorem sensible_default : LadderEngine.Sensible defaultLimits :=
  ⟨by decide +kernel, by decide +kernel, by decide +kernel⟩

theorem priced_default : LadderEngine.Priced defaultCostUsd := by
  intro channel
  cases channel <;> decide +kernel

/-- One call, at once, under the default limits. -/
def caller : LadderEngine :=
  started [⟨0, .voice⟩] defaultLimits defaultCostUsd

/-- A push for as much as the day allows, and an email for one dollar. -/
def spender : LadderEngine :=
  started [⟨0, .push⟩, ⟨0, .email⟩] ⟨.ofRat 2, .ofRat 6, .ofRat (2 ^ 53)⟩ fun channel =>
    if channel = .push then .ofRat (2 ^ 53) else .ofRat 1

end LadderSample

open LadderSample in
/-- Two calls in ten minutes, and the third storm is capped. -/
theorem caps_hold_sample :
    timesOn .voice (allSends (Lts.trace LadderState.after ⟨caller, 0⟩ storms)) = [60000, 120000] ∧
      CapsHold caller (Lts.trace LadderState.after ⟨caller, 0⟩ storms) :=
  ⟨by decide +kernel,
    caps_hold (make_options rfl (by decide) sensible_default) priced_default (exec _ _ (by decide +kernel))⟩

open LadderSample in
/-- A cap of half a call admits a call, and a dollar more than the day's cap is lost in the sum. -/
theorem caps_exceeded :
    (¬ ∀ (opts : LadderEngineOptions) (engine : LadderEngine) (es : List LadderEdge) (t : LadderState),
      LadderEngine.make opts = .ok engine → LadderEngine.Priced engine.costUsd → (ladderRuns engine).Exec es t →
      ∀ start, ((within voiceHorizonMs start (timesOn .voice (allSends es))).length : ℚ) ≤
        engine.limits.maxVoiceCallsPer10Min.value) ∧
    ¬ ∀ (opts : LadderEngineOptions) (engine : LadderEngine) (es : List LadderEdge) (t : LadderState),
      LadderEngine.make opts = .ok engine → LadderEngine.Priced engine.costUsd → (ladderRuns engine).Exec es t →
      ∀ day, Double.exactSum (pricesOn engine es day) ≤ engine.limits.maxDailySpendUsd.value := by
  constructor
  · intro h
    have hmake := @make_options [⟨0, .voice⟩] ⟨.ofRat (1 / 2), .ofRat 6, .ofRat 5⟩ defaultCostUsd rfl (by decide)
      ⟨by decide +kernel, by decide +kernel, by decide +kernel⟩
    have hcap := h _ _ _ _ hmake priced_default (exec _ storms (by decide +kernel)) 60000
    exact absurd hcap (by decide +kernel)
  · intro h
    have hmake : LadderEngine.make _ = .ok spender :=
      make_options (by decide +kernel) (by decide) ⟨by decide +kernel, by decide +kernel, by decide +kernel⟩
    have hpriced : LadderEngine.Priced spender.costUsd := by
      intro channel
      cases channel <;> decide +kernel
    have hcap := h _ _ _ _ hmake hpriced
      (exec _ [.windowOpened (js "v-1") (js "bash") 9000000, .tick 60000] (by decide +kernel)) 0
    exact absurd hcap (by decide +kernel)

end OwnerSwitch
