/-
Module: OwnerSwitch.Gateway.LimitRuns
Layer: Gateway
Purpose: Runs of a limit tracker under a caller that refuses what the tracker stops. While the tracker is
  armed every kill-action rule is within its budget (`Within`), so what is admitted in one window, or since
  a release, adds up to at most the rule's max.
Imports: Lib.Lts, Limits
Trusted boundary: the test of a regular expression against a call's arguments
Main exports: LimitStep, limitRuns, Within, limit_budgets
Open obligations: none
-/
import Mathlib.Algebra.Order.BigOperators.Group.List
import Mathlib.Tactic.Linarith
import OwnerSwitch.Lib.Lts
import OwnerSwitch.Gateway.Limits

namespace OwnerSwitch

/-! ### Totals -/

/-- What the events add up to. -/
def eventsTotal (events : List LimitEvent) : Nat :=
  (events.map LimitEvent.value).sum

@[simp] theorem eventsTotal_nil : eventsTotal [] = 0 := rfl

/-- The events of two parts add up. -/
@[simp] theorem eventsTotal_append (es fs : List LimitEvent) :
    eventsTotal (es ++ fs) = eventsTotal es + eventsTotal fs := by
  simp [eventsTotal]

@[simp] theorem eventsTotal_singleton (e : LimitEvent) : eventsTotal [e] = e.value := by
  simp [eventsTotal]

/-- Dropping events cannot raise their total. -/
theorem eventsTotal_sublist {es fs : List LimitEvent} (h : es.Sublist fs) : eventsTotal es ≤ eventsTotal fs :=
  (h.map LimitEvent.value).sum_le_sum fun _ _ => Nat.zero_le _

/-- What passes the test is behind what fails it from the start. -/
theorem filter_sublist_dropWhile {α : Type*} (p : α → Bool) (es : List α) :
    (es.filter p).Sublist (es.dropWhile fun e => !p e) := by
  induction es with
  | nil => simp
  | cons e es ih =>
      cases hp : p e with
      | true => simp [hp]
      | false => simpa [hp] using ih

theorem filter_sublist_filter {α : Type*} {p q : α → Bool} (h : ∀ a, p a = true → q a = true) (es : List α) :
    (es.filter p).Sublist (es.filter q) := by
  have heq : es.filter p = (es.filter q).filter p := by
    rw [List.filter_filter]
    congr 1
    funext a
    cases hp : p a with
    | true => simp [h a hp]
    | false => simp
  rw [heq]
  exact List.filter_sublist

namespace RuleState

/-- The exact total. -/
def runningTotal (s : RuleState) : Nat :=
  match s.rule.windowMs with
  | none => s.lifetimeTotal
  | some _ => eventsTotal s.events

/-- No total has left the safe integers; only a lifetime total can read as their end. -/
structure InRange (s : RuleState) : Prop where
  lifetime : s.lifetimeTotal ≤ maxSafe
  events : eventsTotal s.events < maxSafe

/-- A kill-action rule within its budget. -/
structure Within (s : RuleState) : Prop where
  unsaturated : s.saturatedUntil = none
  total : s.runningTotal ≤ s.rule.max

variable {s s' : RuleState} {call : ToolCall} {a : ℚ} {maxEvents : Nat}

/-- Checked addition is exact below its bound. -/
theorem foldl_checkedAdd (events : List LimitEvent) (sum : Nat) (h : sum + eventsTotal events ≤ maxSafe) :
    events.foldl (fun sum e => checkedAdd sum e.value) sum = sum + eventsTotal events := by
  induction events generalizing sum with
  | nil => simp
  | cons e events ih =>
      have hcons : eventsTotal (e :: events) = e.value + eventsTotal events := by simp [eventsTotal]
      rw [hcons] at h
      have hadd : checkedAdd sum e.value = sum + e.value := by
        rw [checkedAdd, if_pos (by omega)]
      rw [List.foldl_cons, hadd, ih _ (by omega), hcons]
      omega

/-- Within the range the total that is computed is the total. -/
theorem InRange.currentTotal (h : s.InRange) : s.currentTotal = s.runningTotal := by
  unfold RuleState.currentTotal runningTotal
  have hevents := h.events
  cases s.rule.windowMs with
  | none => rfl
  | some w => simpa using foldl_checkedAdd s.events 0 (by omega)

/-- Pruning keeps the rule. -/
@[simp] theorem prune_rule (s : RuleState) (a : ℚ) : (s.prune a).rule = s.rule := by
  unfold prune
  cases s.rule.windowMs <;> rfl

/-- Pruning drops events and adds none. -/
theorem prune_events_sublist (s : RuleState) (a : ℚ) : (s.prune a).events.Sublist s.events := by
  unfold prune
  cases s.rule.windowMs with
  | none => exact List.Sublist.refl _
  | some w => exact List.dropWhile_sublist _

@[simp] theorem prune_lifetimeTotal (s : RuleState) (a : ℚ) : (s.prune a).lifetimeTotal = s.lifetimeTotal := by
  unfold prune
  cases s.rule.windowMs <;> rfl

@[simp] theorem prune_saturatedUntil (s : RuleState) (a : ℚ) :
    (s.prune a).saturatedUntil = s.saturatedUntil := by
  unfold prune
  cases s.rule.windowMs <;> rfl

/-- A running total is a safe integer. -/
theorem InRange.runningTotal_le (h : s.InRange) : s.runningTotal ≤ maxSafe := by
  unfold runningTotal
  cases s.rule.windowMs with
  | none => exact h.lifetime
  | some w => exact Nat.le_of_lt h.events

/-- A sum that is cut off was no less than the greatest safe integer. -/
theorem le_of_checkedAdd_eq {x y : Nat} (h : checkedAdd x y = maxSafe) : maxSafe ≤ x + y := by
  unfold checkedAdd at h
  split at h <;> omega

@[simp] theorem saturate_lifetimeTotal (s : RuleState) (a : ℚ) :
    (s.saturate a).lifetimeTotal = s.lifetimeTotal := rfl

/-- Pruning keeps a state in range. -/
theorem InRange.prune (h : s.InRange) (a : ℚ) : (s.prune a).InRange where
  lifetime := by
    rw [prune_lifetimeTotal]
    exact h.lifetime
  events := Nat.lt_of_le_of_lt (eventsTotal_sublist (prune_events_sublist s a)) h.events

/-- Pruning cannot raise the running total. -/
theorem runningTotal_prune_le (s : RuleState) (a : ℚ) : (s.prune a).runningTotal ≤ s.runningTotal := by
  unfold runningTotal
  rw [prune_rule]
  cases s.rule.windowMs with
  | none => simp
  | some w => exact eventsTotal_sublist (prune_events_sublist s a)

/-- Pruning keeps the totals within the limits. -/
theorem Within.prune (h : s.Within) (a : ℚ) : (s.prune a).Within where
  unsaturated := by
    rw [prune_saturatedUntil]
    exact h.unsaturated
  total := by
    rw [prune_rule]
    exact (runningTotal_prune_le s a).trans h.total

/-- A value counted. -/
def spend (s : RuleState) (a : ℚ) (value : Nat) : RuleState :=
  match s.rule.windowMs with
  | none => { s with lifetimeTotal := checkedAdd s.lifetimeTotal value }
  | some _ => { s with events := s.events ++ [⟨a, value⟩] }

/-- What counting a call makes of a rule, and what it reports. -/
inductive Counted (s : RuleState) (call : ToolCall) (a : ℚ) : RuleState → Option LimitTrip → Prop where
  | unreadable (hvalue : valueOf s.rule call = none) :
      Counted s call a (s.prune a) (some ⟨s.rule, (s.prune a).runningTotal, .amountUnreadable, none⟩)
  | overflow {value : Nat} {s' : RuleState} (hvalue : valueOf s.rule call = some value)
      (hbefore : (s.prune a).runningTotal < maxSafe) (htotal : maxSafe ≤ (s.prune a).runningTotal + value)
      (hrule : s'.rule = s.rule) (hlifetime : s'.lifetimeTotal ≤ maxSafe) (hevents : s'.events.Sublist s.events) :
      Counted s call a s' (some ⟨s.rule, maxSafe, .totalOverflow, none⟩)
  | full {value total : Nat} {s' : RuleState} (hvalue : valueOf s.rule call = some value)
      (htotal : (s.prune a).runningTotal + value < maxSafe) (hrule : s'.rule = s.rule)
      (hlifetime : s'.lifetimeTotal = s.lifetimeTotal) (hevents : s'.events = []) :
      Counted s call a s' (some ⟨s.rule, total, .trackingOverflow, none⟩)
  | spent {value : Nat} {trip : Option LimitTrip} (hvalue : valueOf s.rule call = some value)
      (htotal : (s.prune a).runningTotal + value < maxSafe ∨
        (s.rule.windowMs = none ∧ s.lifetimeTotal = maxSafe))
      (htrip : trip = if (s.prune a).runningTotal ≤ s.rule.max ∧
          s.rule.max < checkedAdd (s.prune a).runningTotal value
        then some ⟨s.rule, checkedAdd (s.prune a).runningTotal value, .thresholdCrossed, none⟩ else none) :
      Counted s call a ((s.prune a).spend a value) trip

/-- The loop's body does one of these. -/
theorem counted_count (h : s.InRange) (call : ToolCall) (a : ℚ) (maxEvents : Nat) :
    Counted s call a (s.count call a maxEvents).1 (s.count call a maxEvents).2 := by
  have hprune := h.prune a
  unfold count
  simp only [hprune.currentTotal, prune_rule]
  cases hvalue : valueOf s.rule call with
  | none => exact .unreadable hvalue
  | some value =>
      simp only
      have hle : (s.prune a).runningTotal ≤ maxSafe := hprune.runningTotal_le
      split
      · rename_i hover
        have htotal : maxSafe ≤ (s.prune a).runningTotal + value := le_of_checkedAdd_eq hover.1
        have hbefore : (s.prune a).runningTotal < maxSafe := by omega
        rw [hover.1]
        cases hwindow : s.rule.windowMs with
        | none =>
            simp only
            exact .overflow hvalue hbefore htotal rfl (Nat.le_refl _) (prune_events_sublist s a)
        | some w =>
            simp only
            refine .overflow hvalue hbefore htotal (prune_rule s a) ?_ (List.nil_sublist _)
            rw [saturate_lifetimeTotal, prune_lifetimeTotal]
            exact h.lifetime
      · rename_i hover
        have htotal : (s.prune a).runningTotal + value < maxSafe ∨
            (s.rule.windowMs = none ∧ s.lifetimeTotal = maxSafe) := by
          by_contra hneg
          rw [not_or, not_lt] at hneg
          obtain ⟨hreach, hlifetime⟩ := hneg
          have hclamped : checkedAdd (s.prune a).runningTotal value = maxSafe := by
            unfold checkedAdd
            split <;> omega
          have hfull : (s.prune a).runningTotal = maxSafe := by
            by_contra hne
            exact hover ⟨hclamped, hne⟩
          cases hwindow : s.rule.windowMs with
          | none =>
              rw [runningTotal, prune_rule, hwindow] at hfull
              exact hlifetime ⟨hwindow, by simpa using hfull⟩
          | some w =>
              have hevents := hprune.events
              rw [runningTotal, prune_rule, hwindow] at hfull
              simp only at hfull
              omega
        cases hwindow : s.rule.windowMs with
        | none =>
            have hspend := Counted.spent hvalue htotal rfl
            simpa [spend, hwindow, runningTotal] using hspend
        | some w =>
            simp only
            split
            · have hsum := htotal.resolve_right fun hlifetime => by simp [hwindow] at hlifetime
              exact .full hvalue hsum rfl (prune_lifetimeTotal s a) rfl
            · have hspend := Counted.spent hvalue htotal rfl
              simpa [spend, hwindow] using hspend

/-- Counting a call keeps the rule. -/
theorem Counted.rule_eq {trip : Option LimitTrip} (h : Counted s call a s' trip) : s'.rule = s.rule := by
  cases h with
  | unreadable => exact prune_rule s a
  | overflow _ _ _ hrule => exact hrule
  | full _ _ hrule => exact hrule
  | spent =>
      unfold spend
      split
      · exact prune_rule s a
      · exact prune_rule s a

/-- Counting a call keeps a state in range. -/
theorem Counted.inRange {trip : Option LimitTrip} (h : Counted s call a s' trip) (hs : s.InRange) :
    s'.InRange := by
  cases h with
  | unreadable => exact hs.prune a
  | overflow _ _ _ _ hlifetime hevents =>
      exact ⟨hlifetime, Nat.lt_of_le_of_lt (eventsTotal_sublist hevents) hs.events⟩
  | full _ _ _ hlifetime hevents =>
      refine ⟨hlifetime ▸ hs.lifetime, ?_⟩
      rw [hevents]
      decide
  | @spent value trip hvalue htotal htrip =>
      have hprune := hs.prune a
      unfold spend
      split
      · refine ⟨?_, hprune.events⟩
        show checkedAdd _ value ≤ maxSafe
        unfold checkedAdd
        split <;> omega
      · rename_i w hwindow
        rw [prune_rule] at hwindow
        refine ⟨hprune.lifetime, ?_⟩
        have hsum : (s.prune a).runningTotal + value < maxSafe :=
          htotal.resolve_right fun hlifetime => by simp [hwindow] at hlifetime
        rw [runningTotal, prune_rule, hwindow] at hsum
        simpa using hsum

/-- A trip names its rule and is not stamped yet. -/
theorem Counted.trip_eq {trip : LimitTrip} (h : Counted s call a s' (some trip)) :
    trip.rule = s.rule ∧ trip.latchGeneration = none := by
  generalize hopt : some trip = opt at h
  cases h with
  | unreadable => cases hopt; exact ⟨rfl, rfl⟩
  | overflow => cases hopt; exact ⟨rfl, rfl⟩
  | full => cases hopt; exact ⟨rfl, rfl⟩
  | spent _ _ htrip =>
      rw [htrip] at hopt
      split at hopt
      · cases hopt; exact ⟨rfl, rfl⟩
      · cases hopt

/-- A rule within its budget that reports nothing has counted a value and stays within it. -/
theorem Counted.untripped (h : Counted s call a s' none) (hwithin : s.Within) :
    ∃ value, valueOf s.rule call = some value ∧ s' = (s.prune a).spend a value ∧
      (s.prune a).runningTotal + value ≤ s.rule.max := by
  generalize hopt : (none : Option LimitTrip) = opt at h
  cases h with
  | unreadable => cases hopt
  | overflow => cases hopt
  | full => cases hopt
  | @spent value trip hvalue htotal htrip =>
      refine ⟨value, hvalue, rfl, ?_⟩
      have hmax := s.rule.max_le
      have hlimit : maxLimitMax < maxSafe := by decide
      have hbefore : (s.prune a).runningTotal ≤ s.rule.max := by
        simpa using (hwithin.prune a).total
      have hsum : (s.prune a).runningTotal + value < maxSafe := by
        rcases htotal with htotal | ⟨hwindow, hfull⟩
        · exact htotal
        · rw [runningTotal, prune_rule, hwindow] at hbefore
          simp only [prune_lifetimeTotal] at hbefore
          omega
      rw [htrip] at hopt
      split at hopt
      · cases hopt
      · rename_i hcross
        rw [checkedAdd, if_pos (Nat.le_of_lt hsum)] at hcross
        omega

/-- What is spent is added to the running total. -/
theorem spend_runningTotal {value : Nat} (h : s.runningTotal + value ≤ maxSafe) :
    (s.spend a value).runningTotal = s.runningTotal + value := by
  unfold spend runningTotal at *
  cases hwindow : s.rule.windowMs with
  | none =>
      simp only [hwindow] at h ⊢
      rw [checkedAdd, if_pos h]
  | some w => simp [hwindow]

/-! ### Observations -/

variable (regExpTest : JsString → JsString → Bool) {metrics : List LimitMetric}

/-- The rule counts the call and is not saturated. -/
def Meters (s : RuleState) (call : ToolCall) (metrics : List LimitMetric) (a : ℚ) : Prop :=
  s.rule.counts regExpTest metrics call = true ∧ (s.resume a).saturatedUntil = none

/-- A state that resumes is the same, but for its saturation. -/
theorem resume_eq (s : RuleState) (a : ℚ) :
    s.resume a = s ∨ s.resume a = { s with saturatedUntil := none } := by
  unfold resume
  split
  · exact .inl rfl
  · split
    · exact .inl rfl
    · exact .inr rfl

theorem resume_of_unsaturated (h : s.saturatedUntil = none) (a : ℚ) : s.resume a = s := by
  unfold resume
  rw [h]

/-- Resuming keeps a state in range. -/
theorem InRange.resume (h : s.InRange) (a : ℚ) : (s.resume a).InRange := by
  rcases resume_eq s a with heq | heq <;> rw [heq]
  · exact h
  · exact ⟨h.lifetime, h.events⟩

theorem resume_rule (s : RuleState) (a : ℚ) : (s.resume a).rule = s.rule := by
  rcases resume_eq s a with heq | heq <;> rw [heq]

theorem resume_lifetimeTotal (s : RuleState) (a : ℚ) : (s.resume a).lifetimeTotal = s.lifetimeTotal := by
  rcases resume_eq s a with heq | heq <;> rw [heq]

/-- A rule either counts the call or is left as it was, but for a saturation that has run out. -/
theorem observe_cases (h : s.InRange) (call : ToolCall) (metrics : List LimitMetric) (a : ℚ) (maxEvents : Nat) :
    (s.Meters regExpTest call metrics a ∧ Counted (s.resume a) call a
        (s.observe regExpTest call metrics a maxEvents).1 (s.observe regExpTest call metrics a maxEvents).2) ∨
      (¬ s.Meters regExpTest call metrics a ∧ (s.observe regExpTest call metrics a maxEvents).2 = none ∧
        ((s.observe regExpTest call metrics a maxEvents).1 = s ∨
          (s.observe regExpTest call metrics a maxEvents).1 = s.resume a)) := by
  unfold observe Meters
  cases hcounts : s.rule.counts regExpTest metrics call with
  | false => simp
  | true =>
      simp only [if_true, true_and]
      cases hsaturated : (s.resume a).saturatedUntil with
      | some t => simp
      | none =>
          simp only [Option.isSome_none, Bool.false_eq_true, if_false]
          exact .inl ⟨trivial, counted_count (h.resume a) call a maxEvents⟩

/-- Observing a call keeps the rule. -/
theorem observe_rule (h : s.InRange) (call : ToolCall) (metrics : List LimitMetric) (a : ℚ) (maxEvents : Nat) :
    (s.observe regExpTest call metrics a maxEvents).1.rule = s.rule := by
  rcases observe_cases regExpTest h call metrics a maxEvents with ⟨-, hcounted⟩ | ⟨-, -, heq | heq⟩
  · exact hcounted.rule_eq.trans (resume_rule s a)
  · rw [heq]
  · rw [heq, resume_rule]

/-- A call keeps a rule's state within its range. -/
theorem InRange.observe (h : s.InRange) (call : ToolCall) (metrics : List LimitMetric) (a : ℚ)
    (maxEvents : Nat) : (s.observe regExpTest call metrics a maxEvents).1.InRange := by
  rcases observe_cases regExpTest h call metrics a maxEvents with ⟨-, hcounted⟩ | ⟨-, -, heq | heq⟩
  · exact hcounted.inRange (h.resume a)
  · rw [heq]
    exact h
  · rw [heq]
    exact h.resume a

/-- A trip is of the rule that was observed. -/
theorem observe_trip (h : s.InRange) {trip : LimitTrip}
    (htrip : (s.observe regExpTest call metrics a maxEvents).2 = some trip) :
    trip.rule = s.rule ∧ trip.latchGeneration = none := by
  rcases observe_cases regExpTest h call metrics a maxEvents with ⟨-, hcounted⟩ | ⟨-, hnone, -⟩
  · rw [htrip] at hcounted
    obtain ⟨hrule, hstamp⟩ := hcounted.trip_eq
    exact ⟨hrule.trans (resume_rule s a), hstamp⟩
  · rw [hnone] at htrip
    cases htrip

/-- An observation that a rule within its budget does not trip: a value spent, or nothing. -/
theorem observe_untripped (h : s.InRange) (hwithin : s.Within)
    (htrip : (s.observe regExpTest call metrics a maxEvents).2 = none) :
    (s.rule.counts regExpTest metrics call = true ∧ ∃ value, valueOf s.rule call = some value ∧
        (s.observe regExpTest call metrics a maxEvents).1 = (s.prune a).spend a value ∧
        (s.prune a).runningTotal + value ≤ s.rule.max) ∨
      (s.rule.counts regExpTest metrics call = false ∧
        (s.observe regExpTest call metrics a maxEvents).1 = s) := by
  have hresume := resume_of_unsaturated hwithin.unsaturated a
  have hcases := observe_cases regExpTest h call metrics a maxEvents
  rw [hresume, htrip] at hcases
  rcases hcases with ⟨⟨hcounts, -⟩, hcounted⟩ | ⟨hmeters, -, heq⟩
  · exact .inl ⟨hcounts, hcounted.untripped hwithin⟩
  · refine .inr ⟨?_, heq.elim id id⟩
    by_contra hcounts
    rw [Bool.not_eq_false] at hcounts
    exact hmeters ⟨hcounts, hresume.symm ▸ hwithin.unsaturated⟩

/-- A lifetime total reaches the end of the safe integers with a report. -/
theorem observe_clamped (h : s.InRange) (hold : s.lifetimeTotal ≠ maxSafe)
    (hfull : (s.observe regExpTest call metrics a maxEvents).1.lifetimeTotal = maxSafe) :
    (s.observe regExpTest call metrics a maxEvents).2 = some ⟨s.rule, maxSafe, .totalOverflow, none⟩ := by
  rcases observe_cases regExpTest h call metrics a maxEvents with ⟨-, hcounted⟩ | ⟨-, -, heq | heq⟩
  · have hlifetime := resume_lifetimeTotal s a
    have hrule := resume_rule s a
    generalize (s.observe regExpTest call metrics a maxEvents).1 = s',
      (s.observe regExpTest call metrics a maxEvents).2 = trip
      at hcounted hfull
    cases hcounted with
    | unreadable => exact absurd (hfull.symm.trans ((prune_lifetimeTotal _ a).trans hlifetime)).symm hold
    | overflow => rw [hrule]
    | full _ _ _ hsame => exact absurd (hlifetime.symm.trans (hsame.symm.trans hfull)) hold
    | @spent value trip hvalue htotal htrip =>
        exfalso
        unfold spend at hfull
        split at hfull
        · rename_i hwindow
          simp only [prune_lifetimeTotal, hlifetime, prune_rule, hrule] at hfull hwindow
          rcases htotal with htotal | ⟨-, hsame⟩
          · rw [runningTotal, prune_rule, hrule, hwindow] at htotal
            simp only [prune_lifetimeTotal, hlifetime] at htotal
            have hreach := le_of_checkedAdd_eq hfull
            omega
          · exact hold (hlifetime.symm.trans hsame)
        · exact hold (hlifetime.symm.trans ((prune_lifetimeTotal _ a).symm.trans hfull))
  · rw [heq] at hfull
    exact absurd hfull hold
  · rw [heq, resume_lifetimeTotal] at hfull
    exact absurd hfull hold

/-- A sum past the safe integers is reported, unless the total was there already. -/
theorem observe_overflow (maxEvents : Nat) (h : s.InRange) (hmeters : s.Meters regExpTest call metrics a) {value : Nat}
    (hvalue : valueOf s.rule call = some value) (hover : maxSafe ≤ (s.prune a).currentTotal + value) :
    (s.observe regExpTest call metrics a maxEvents).2 = some ⟨s.rule, maxSafe, .totalOverflow, none⟩ ∨
      s.lifetimeTotal = maxSafe := by
  rcases observe_cases regExpTest h call metrics a maxEvents with ⟨-, hcounted⟩ | ⟨hnot, -⟩
  · have hrule := resume_rule s a
    have htotal : ((s.resume a).prune a).runningTotal = (s.prune a).currentTotal := by
      rw [(h.prune a).currentTotal]
      rcases resume_eq s a with heq | heq <;> rw [heq]
      unfold prune runningTotal
      cases s.rule.windowMs <;> rfl
    generalize (s.observe regExpTest call metrics a maxEvents).1 = s',
      (s.observe regExpTest call metrics a maxEvents).2 = trip
      at hcounted
    cases hcounted with
    | unreadable hnone =>
        rw [hrule, hvalue] at hnone
        cases hnone
    | overflow => exact .inl (by rw [hrule])
    | full hvalue' hsum =>
        rw [hrule, hvalue] at hvalue'
        cases hvalue'
        omega
    | @spent value' trip hvalue' hsum htrip =>
        rw [hrule, hvalue] at hvalue'
        cases hvalue'
        rcases hsum with hsum | ⟨-, hsame⟩
        · omega
        · exact .inr ((resume_lifetimeTotal s a).symm.trans hsame)
  · exact absurd hmeters hnot

/-- A rule that a call does not trip is within its budget. -/
theorem Within.observe (h : s.InRange) (hwithin : s.Within)
    (htrip : (s.observe regExpTest call metrics a maxEvents).2 = none) :
    (s.observe regExpTest call metrics a maxEvents).1.Within := by
  rcases observe_untripped regExpTest h hwithin htrip with ⟨-, value, -, heq, hle⟩ | ⟨-, heq⟩
  · have hmax := s.rule.max_le
    have hlimit : maxLimitMax < maxSafe := by decide
    rw [heq]
    refine ⟨?_, ?_⟩
    · have hpruned := (hwithin.prune a).unsaturated
      unfold spend
      split <;> exact hpruned
    · rw [spend_runningTotal (by omega)]
      unfold spend
      split <;> simpa using hle
  · rw [heq]
    exact hwithin

end RuleState

/-! ### The loop over the rules -/

/-- The trip stops the call. -/
def LimitTrip.kills (trip : LimitTrip) : Bool :=
  trip.rule.action = .kill

/-- The latch generations stamped on trips. -/
def stamps (trips : List LimitTrip) : List Nat :=
  trips.filterMap LimitTrip.latchGeneration

namespace Latching

variable {l : Latching} {trip : LimitTrip} {call : ToolCall} {epochAtCall : Option Int} {now : ℚ}

/-- A rule that does not kill trips without a latch. -/
theorem trip_of_alert (h : trip.kills = false) : l.trip trip call epochAtCall now = (l, trip) := by
  unfold Latching.trip
  rw [if_pos]
  left
  simpa [LimitTrip.kills] using h

/-- A tracker that is latched takes no other latch. -/
theorem trip_of_latched (h : l.latch ≠ .armed) : l.trip trip call epochAtCall now = (l, trip) := by
  unfold Latching.trip
  rw [if_pos (.inr h)]

/-- A kill-action trip while armed latches. -/
theorem trip_latches (call : ToolCall) (epochAtCall : Option Int) (now : ℚ) (h : l.latch = .armed)
    (hkill : trip.kills = true) :
    ∃ record, (l.trip trip call epochAtCall now).1
        = { l with latch := .unconfirmed record, latchGenerations := l.latchGenerations + 1 } ∧
      (l.trip trip call epochAtCall now).2 = { trip with latchGeneration := some (l.latchGenerations + 1) } ∧
      record.agentId = call.agentId ∧ record.generation = l.latchGenerations + 1 ∧
      record.epochFloor = (epochAtCall <|> l.lastObservedEpoch).map (· + 1) := by
  have haction : trip.rule.action = .kill := by simpa [LimitTrip.kills] using hkill
  unfold Latching.trip
  rw [if_neg (by simp [haction, h])]
  exact ⟨_, rfl, rfl, rfl, rfl, rfl⟩

/-- A latched trip names the rule that tripped. -/
theorem trip_rule (l : Latching) (trip : LimitTrip) (call : ToolCall) (epochAtCall : Option Int) (now : ℚ) :
    (l.trip trip call epochAtCall now).2.rule = trip.rule := by
  unfold Latching.trip
  split <;> rfl

theorem trip_cause (l : Latching) (trip : LimitTrip) (call : ToolCall) (epochAtCall : Option Int) (now : ℚ) :
    (l.trip trip call epochAtCall now).2.cause = trip.cause := by
  unfold Latching.trip
  split <;> rfl

@[simp] theorem rememberEpoch_latch (l : Latching) (epoch : Option Int) :
    (l.rememberEpoch epoch).latch = l.latch := by
  unfold rememberEpoch
  split
  · rfl
  · split <;> rfl

@[simp] theorem rememberEpoch_latchGenerations (l : Latching) (epoch : Option Int) :
    (l.rememberEpoch epoch).latchGenerations = l.latchGenerations := by
  unfold rememberEpoch
  split
  · rfl
  · split <;> rfl

end Latching

section Loop

variable (regExpTest : JsString → JsString → Bool) (call : ToolCall) (metrics : List LimitMetric)
  (epochAtCall : Option Int) (a now : ℚ) (maxEvents : Nat)

/-- Each rule's state is observed on its own. -/
theorem observeRules_states (ss : List RuleState) (l : Latching) :
    (observeRules regExpTest call metrics epochAtCall a now maxEvents ss l).1
      = ss.map fun s => (s.observe regExpTest call metrics a maxEvents).1 := by
  induction ss generalizing l with
  | nil => rfl
  | cons s ss ih =>
      unfold observeRules
      rcases hobs : s.observe regExpTest call metrics a maxEvents with ⟨s', _ | trip⟩
      · simp [ih, hobs]
      · simp [ih, hobs]

/-- Every trip of a rule is returned, stamped or not. -/
theorem mem_trips_of_observe {ss : List RuleState} {s : RuleState} (hs : s ∈ ss) {trip : LimitTrip}
    (htrip : (s.observe regExpTest call metrics a maxEvents).2 = some trip) (l : Latching) :
    ∃ stamped ∈ (observeRules regExpTest call metrics epochAtCall a now maxEvents ss l).2.2,
      stamped.rule = trip.rule ∧ stamped.cause = trip.cause := by
  induction ss generalizing l with
  | nil => cases hs
  | cons s₀ ss ih =>
      unfold observeRules
      rcases hobs : s₀.observe regExpTest call metrics a maxEvents with ⟨s', _ | trip₀⟩
      · simp only
        rcases List.mem_cons.mp hs with rfl | hs
        · rw [hobs] at htrip
          cases htrip
        · exact ih hs l
      · simp only
        rcases List.mem_cons.mp hs with rfl | hs
        · rw [hobs] at htrip
          obtain rfl := Option.some.inj htrip
          exact ⟨_, List.mem_cons_self, l.trip_rule .., l.trip_cause ..⟩
        · obtain ⟨stamped, hmem, heq⟩ := ih hs (l.trip trip₀ call epochAtCall now).1
          exact ⟨stamped, List.mem_cons_of_mem _ hmem, heq⟩

/-- A latched tracker stays latched as it is, and stamps nothing. -/
theorem observeRules_latched (ss : List RuleState) (hss : ∀ s ∈ ss, s.InRange) (l : Latching)
    (h : l.latch ≠ .armed) :
    (observeRules regExpTest call metrics epochAtCall a now maxEvents ss l).2.1 = l ∧
      stamps (observeRules regExpTest call metrics epochAtCall a now maxEvents ss l).2.2 = [] := by
  induction ss with
  | nil => exact ⟨rfl, rfl⟩
  | cons s ss ih =>
      have ih := ih fun s' hs' => hss s' (List.mem_cons_of_mem _ hs')
      unfold observeRules
      rcases hobs : s.observe regExpTest call metrics a maxEvents with ⟨s', _ | trip⟩
      · exact ih
      · have hstamp := (RuleState.observe_trip regExpTest (hss s List.mem_cons_self) (by rw [hobs])).2
        simp only [Latching.trip_of_latched h]
        exact ⟨ih.1, by simpa [stamps, hstamp] using ih.2⟩

/-- An armed tracker: no trip kills, each rule that kills reported nothing, and the tracker stays armed; or
    one trip latches it under the next generation, and no other is stamped. -/
theorem observeRules_armed (ss : List RuleState) (hss : ∀ s ∈ ss, s.InRange) (l : Latching)
    (h : l.latch = .armed) :
    ((∀ trip ∈ (observeRules regExpTest call metrics epochAtCall a now maxEvents ss l).2.2, trip.kills = false) ∧
      (∀ s ∈ ss, s.rule.action = .kill → (s.observe regExpTest call metrics a maxEvents).2 = none) ∧
      (observeRules regExpTest call metrics epochAtCall a now maxEvents ss l).2.1 = l ∧
      stamps (observeRules regExpTest call metrics epochAtCall a now maxEvents ss l).2.2 = []) ∨
    ((∃ trip ∈ (observeRules regExpTest call metrics epochAtCall a now maxEvents ss l).2.2, trip.kills = true) ∧
      ∃ record, (observeRules regExpTest call metrics epochAtCall a now maxEvents ss l).2.1
          = { l with latch := .unconfirmed record, latchGenerations := l.latchGenerations + 1 } ∧
        record.agentId = call.agentId ∧ record.generation = l.latchGenerations + 1 ∧
        record.epochFloor = (epochAtCall <|> l.lastObservedEpoch).map (· + 1) ∧
        stamps (observeRules regExpTest call metrics epochAtCall a now maxEvents ss l).2.2
          = [l.latchGenerations + 1]) := by
  induction ss with
  | nil => exact .inl ⟨by simp [observeRules], by simp, rfl, rfl⟩
  | cons s ss ih =>
      have hrest : ∀ s' ∈ ss, s'.InRange := fun s' hs' => hss s' (List.mem_cons_of_mem _ hs')
      have ih := ih hrest
      unfold observeRules
      rcases hobs : s.observe regExpTest call metrics a maxEvents with ⟨s', _ | trip⟩
      · rcases ih with ⟨htrips, hkill, hlatch, hstamps⟩ | hlatched
        · refine .inl ⟨htrips, fun s₀ hs₀ haction => ?_, hlatch, hstamps⟩
          rcases List.mem_cons.mp hs₀ with rfl | hs₀
          · rw [hobs]
          · exact hkill s₀ hs₀ haction
        · exact .inr hlatched
      · obtain ⟨hrule, hstamp⟩ := RuleState.observe_trip regExpTest (hss s List.mem_cons_self) (by rw [hobs])
        cases hkills : trip.kills with
        | false =>
            have haction : s.rule.action ≠ .kill := by simpa [LimitTrip.kills, hrule] using hkills
            simp only [Latching.trip_of_alert hkills]
            rcases ih with ⟨htrips, hkill, hlatch, hstamps⟩ |
              ⟨⟨t, ht, htkills⟩, record, hlatch, hagent, hgen, hfloor, hstamps⟩
            · refine .inl ⟨?_, fun s₀ hs₀ hs₀action => ?_, hlatch, by simpa [stamps, hstamp] using hstamps⟩
              · exact List.forall_mem_cons.mpr ⟨hkills, htrips⟩
              · rcases List.mem_cons.mp hs₀ with rfl | hs₀
                · exact absurd hs₀action haction
                · exact hkill s₀ hs₀ hs₀action
            · exact .inr ⟨⟨t, List.mem_cons_of_mem _ ht, htkills⟩, record, hlatch, hagent, hgen, hfloor,
                by simpa [stamps, hstamp] using hstamps⟩
        | true =>
            -- the first kill-action trip latches; the rest of the loop runs latched
            obtain ⟨record, hl, ht, hagent, hgen, hfloor⟩ := Latching.trip_latches call epochAtCall now h
              hkills
            obtain ⟨hlatched, hstamps⟩ := observeRules_latched regExpTest call metrics epochAtCall a now maxEvents ss
              hrest (l.trip trip call epochAtCall now).1 (by rw [hl]; simp)
            refine .inr ⟨⟨_, List.mem_cons_self, ?_⟩, record, ?_, hagent, hgen, hfloor, ?_⟩
            · simpa [LimitTrip.kills, Latching.trip_rule] using hkills
            · exact hlatched.trans hl
            · simp only [stamps, List.filterMap_cons, ht]
              simpa [stamps] using hstamps

end Loop

/-! ### The tracker -/

namespace LimitTracker

variable {regExpTest : JsString → JsString → Bool} {t : LimitTracker} {call : ToolCall}
  {metrics : List LimitMetric} {epoch : Option Int} {a now : ℚ}

/-- Every rule observes every call. -/
theorem observe_states : (t.observe regExpTest call metrics epoch a now).1.states
    = t.states.map fun s => (s.observe regExpTest call metrics a t.maxWindowEvents).1 :=
  observeRules_states ..

/-- What an observation does to a latched tracker. -/
theorem observe_latched (regExpTest : JsString → JsString → Bool) (call : ToolCall) (metrics : List LimitMetric)
    (epoch : Option Int) (a now : ℚ) (hrange : ∀ s ∈ t.states, s.InRange) (h : t.latch ≠ .armed) :
    (t.observe regExpTest call metrics epoch a now).1.latch = t.latch ∧
      (t.observe regExpTest call metrics epoch a now).1.latchGenerations = t.latchGenerations ∧
      stamps (t.observe regExpTest call metrics epoch a now).2 = [] := by
  obtain ⟨hlatch, hstamps⟩ := observeRules_latched regExpTest call metrics epoch a now t.maxWindowEvents t.states
    hrange (t.toLatching.rememberEpoch epoch) (by simpa using h)
  refine ⟨(congrArg Latching.latch hlatch).trans ?_, (congrArg Latching.latchGenerations hlatch).trans ?_, hstamps⟩
  · simp
  · simp

/-- What an observation does to an armed one: no kill trips, or a latch. -/
theorem observe_armed (regExpTest : JsString → JsString → Bool) (call : ToolCall) (metrics : List LimitMetric)
    (epoch : Option Int) (a now : ℚ) (hrange : ∀ s ∈ t.states, s.InRange) (h : t.latch = .armed) :
    ((∀ trip ∈ (t.observe regExpTest call metrics epoch a now).2, trip.kills = false) ∧
      (∀ s ∈ t.states, s.rule.action = .kill →
        (s.observe regExpTest call metrics a t.maxWindowEvents).2 = none) ∧
      (t.observe regExpTest call metrics epoch a now).1.latch = .armed ∧
      (t.observe regExpTest call metrics epoch a now).1.latchGenerations = t.latchGenerations ∧
      stamps (t.observe regExpTest call metrics epoch a now).2 = []) ∨
    ((∃ trip ∈ (t.observe regExpTest call metrics epoch a now).2, trip.kills = true) ∧
      ∃ record, (t.observe regExpTest call metrics epoch a now).1.latch = .unconfirmed record ∧
        record.agentId = call.agentId ∧ record.generation = t.latchGenerations + 1 ∧
        record.epochFloor = (epoch <|> (t.toLatching.rememberEpoch epoch).lastObservedEpoch).map (· + 1) ∧
        (t.observe regExpTest call metrics epoch a now).1.latchGenerations = t.latchGenerations + 1 ∧
        stamps (t.observe regExpTest call metrics epoch a now).2 = [t.latchGenerations + 1]) := by
  rcases observeRules_armed regExpTest call metrics epoch a now t.maxWindowEvents t.states
      hrange (t.toLatching.rememberEpoch epoch) (by simpa using h) with
    ⟨htrips, hkill, hlatch, hstamps⟩ | ⟨htrip, record, hlatch, hagent, hgen, hfloor, hstamps⟩
  · refine .inl ⟨htrips, hkill, (congrArg Latching.latch hlatch).trans ?_,
      (congrArg Latching.latchGenerations hlatch).trans ?_, hstamps⟩
    · simpa using h
    · simp
  · refine .inr ⟨htrip, record, congrArg Latching.latch hlatch, hagent, ?_, hfloor,
      (congrArg Latching.latchGenerations hlatch).trans ?_, ?_⟩
    · simpa using hgen
    · simp
    · refine hstamps.trans ?_
      simp

/-- A tracker that has been shown an epoch. -/
def remember (t : LimitTracker) (epoch : Option Int) : LimitTracker :=
  { t with toLatching := t.toLatching.rememberEpoch epoch }

/-- An answer about a latch that is not confirmed changes nothing but the epoch memory. -/
theorem observeKillState_unconfirmed {killedAgents : List JsString} {durable : Bool}
    (h : ∀ record, t.latch ≠ .confirmed record) :
    t.observeKillState killedAgents epoch durable = t.remember epoch := by
  unfold observeKillState
  cases durable with
  | false => rfl
  | true =>
      simp only [Bool.not_true, Bool.false_eq_true, if_false, Latching.rememberEpoch_latch]
      cases hlatch : t.latch with
      | armed => rfl
      | unconfirmed record => rfl
      | confirmed record => exact absurd hlatch (h record)

/-- An answer about a confirmed latch is remembered, raises the floor, or releases: the last only where it is
    durable, of an epoch at or past the floor, and without the agent. -/
theorem observeKillState_confirmed {killedAgents : List JsString} {durable : Bool} {record : LatchedLimitTrip}
    (h : t.latch = .confirmed record) :
    t.observeKillState killedAgents epoch durable = t.remember epoch ∨
      t.observeKillState killedAgents epoch durable
        = { t.remember epoch with latch := .confirmed (raiseFloor record epoch) } ∨
      (durable = true ∧ record.agentId ∉ killedAgents ∧
        (∃ floor e, record.epochFloor = some floor ∧ epoch = some e ∧ floor ≤ e) ∧
        t.observeKillState killedAgents epoch durable = (t.remember epoch).release) := by
  unfold observeKillState
  cases durable with
  | false => exact .inl rfl
  | true =>
      simp only [Bool.not_true, Bool.false_eq_true, if_false, Latching.rememberEpoch_latch, h]
      by_cases hlisted : record.agentId ∈ killedAgents
      · have hcontains : killedAgents.contains record.agentId = true := by simpa using hlisted
        simp only [hcontains, if_true]
        cases hfloor : record.epochFloor with
        | none =>
            right; left
            simp [remember]
        | some floor =>
            cases hadmissible : epoch.any (floor ≤ ·) with
            | false =>
                left
                simp [hadmissible, remember]
            | true =>
                right; left
                simp [hadmissible, remember]
      · have hcontains : killedAgents.contains record.agentId = false := by simpa using hlisted
        simp only [hcontains, Bool.false_eq_true, if_false]
        cases hfloor : record.epochFloor with
        | none => simp [remember]
        | some floor =>
            cases epoch with
            | none => simp [remember]
            | some e =>
                by_cases hle : floor ≤ e
                · refine .inr (.inr ⟨trivial, hlisted, ⟨floor, e, rfl, rfl, hle⟩, ?_⟩)
                  simp [hle, remember]
                · left
                  simp [hle, remember]

/-- Budgets change with a release only. -/
theorem observeKillState_cases (t : LimitTracker) (killedAgents : List JsString) (epoch : Option Int)
    (durable : Bool) :
    (t.observeKillState killedAgents epoch durable).latchGenerations = t.latchGenerations ∧
      (((t.observeKillState killedAgents epoch durable).states = t.states ∧
          ((t.observeKillState killedAgents epoch durable).latch = .armed ↔ t.latch = .armed)) ∨
        (t.latch ≠ .armed ∧ (t.observeKillState killedAgents epoch durable).latch = .armed ∧
          (t.observeKillState killedAgents epoch durable).states = t.states.map RuleState.reset)) := by
  by_cases hconfirmed : ∃ record, t.latch = .confirmed record
  · obtain ⟨record, hrecord⟩ := hconfirmed
    have hcases := @observeKillState_confirmed t epoch killedAgents durable record hrecord
    rcases hcases with heq | heq | ⟨-, -, -, heq⟩ <;> rw [heq]
    · simp [remember]
    · simp [remember, hrecord]
    · simp [remember, release, hrecord]
  · rw [observeKillState_unconfirmed fun record h => hconfirmed ⟨record, h⟩]
    simp [remember]

/-- A confirmation of a kill touches neither the rules nor the generations, and arms nothing. -/
theorem confirmKillDelivered_cases (t : LimitTracker) (epoch : Int) (generation : Nat) :
    (t.confirmKillDelivered epoch generation).latchGenerations = t.latchGenerations ∧
      (t.confirmKillDelivered epoch generation).states = t.states ∧
      ((t.confirmKillDelivered epoch generation).latch = .armed ↔ t.latch = .armed) := by
  unfold confirmKillDelivered
  cases hlatch : t.latch with
  | armed => simp [hlatch]
  | confirmed record => simp [hlatch]
  | unconfirmed record =>
      simp only
      split
      · simp [hlatch]
      · split
        · simp [hlatch]
        · split
          · simp [hlatch]
          · simp

end LimitTracker

/-! ### Runs -/

inductive LimitStep where
  | observeCall (call : ToolCall) (epoch : Option Int) («at» now : ℚ)
  | observeError (call : ToolCall) (epoch : Option Int) («at» now : ℚ)
  | observeKillState (killedAgents : List JsString) (epoch : Option Int) (durable : Bool)
  | confirmKillDelivered (epoch : Int) (generation : Nat)

/-- A tracker and the last reading of its clock. -/
structure LimitRun where
  tracker : LimitTracker
  clock : ℚ

section Runs

variable (regExpTest : JsString → JsString → Bool) (rules : List LimitRule) (maxEvents : Nat)

/-- Any order of calls, errors, answers and confirmations; no call is observed while a kill is latched. -/
def limitRuns : Lts LimitRun LimitStep where
  init r := r.tracker = .new rules maxEvents
  next r step r' :=
    match step with
    | .observeCall call epoch a now =>
        r.tracker.killTripped = none ∧ r.clock ≤ a ∧ a ≤ now ∧
          r' = ⟨(r.tracker.observeCall regExpTest call epoch a now).1, now⟩
    | .observeError call epoch a now =>
        r.clock ≤ a ∧ a ≤ now ∧ r' = ⟨(r.tracker.observeError regExpTest call epoch a now).1, now⟩
    | .observeKillState killedAgents epoch durable =>
        r' = ⟨r.tracker.observeKillState killedAgents epoch durable, r.clock⟩
    | .confirmKillDelivered epoch generation =>
        r' = ⟨r.tracker.confirmKillDelivered epoch generation, r.clock⟩

/-- The trips a step returned. -/
def tripsOf (e : Lts.Edge LimitRun LimitStep) : List LimitTrip :=
  match e.label with
  | .observeCall call epoch a now => (e.src.tracker.observeCall regExpTest call epoch a now).2
  | .observeError call epoch a now => (e.src.tracker.observeError regExpTest call epoch a now).2
  | _ => []

/-- The step admitted a call: it was observed and no kill-action rule tripped. -/
def Admits (e : Lts.Edge LimitRun LimitStep) (call : ToolCall) (a : ℚ) : Prop :=
  (∃ epoch now, e.label = .observeCall call epoch a now) ∧ ∀ trip ∈ tripsOf regExpTest e, trip.kills = false

/-- The step releases the latch. -/
def Releases (e : Lts.Edge LimitRun LimitStep) : Prop :=
  e.src.tracker.latch ≠ .armed ∧ e.dst.tracker.latch = .armed

/-- What a step spent of the rule's budget: the value of an admitted call the rule counts. -/
def admitted (rule : LimitRule) (e : Lts.Edge LimitRun LimitStep) : Option LimitEvent :=
  match e.label with
  | .observeCall call _ a _ =>
      if (tripsOf regExpTest e).any LimitTrip.kills then none
      else if rule.counts regExpTest [.calls, .amount] call then (RuleState.valueOf rule call).map (⟨a, ·⟩)
      else none
  | _ => none

/-- What every reachable tracker keeps. -/
structure Sound (r : LimitRun) : Prop where
  rules_eq : r.tracker.states.map RuleState.rule = rules
  inRange : ∀ s ∈ r.tracker.states, s.InRange
  within : r.tracker.latch = .armed → ∀ s ∈ r.tracker.states, s.rule.action = .kill → s.Within

variable {regExpTest rules maxEvents} {r r' : LimitRun} {step : LimitStep}

theorem RuleState.inRange_reset (s : RuleState) : s.reset.InRange := by
  refine ⟨Nat.zero_le _, ?_⟩
  show eventsTotal [] < maxSafe
  decide

theorem RuleState.within_reset (s : RuleState) : s.reset.Within := by
  refine ⟨rfl, ?_⟩
  have htotal : s.reset.runningTotal = 0 := by
    unfold RuleState.runningTotal reset
    cases s.rule.windowMs <;> rfl
  rw [htotal]
  exact Nat.zero_le _

/-- A new tracker is sound. -/
theorem sound_new (rules : List LimitRule) (maxEvents : Nat) (clock : ℚ) :
    Sound rules ⟨.new rules maxEvents, clock⟩ := by
  have hnew : ∀ s ∈ (LimitTracker.new rules maxEvents).states, s.reset = s := by
    intro s hs
    obtain ⟨rule, -, rfl⟩ := List.mem_map.mp hs
    rfl
  refine ⟨?_, fun s hs => ?_, fun _ s hs _ => ?_⟩
  · simp [LimitTracker.new, RuleState.new, Function.comp_def]
  · exact hnew s hs ▸ s.inRange_reset
  · exact hnew s hs ▸ s.within_reset

/-- An observation keeps it. -/
theorem Sound.observe (h : Sound rules r) (call : ToolCall) (metrics : List LimitMetric) (epoch : Option Int)
    (a now : ℚ) : Sound rules ⟨(r.tracker.observe regExpTest call metrics epoch a now).1, now⟩ := by
  refine ⟨?_, ?_, ?_⟩
  · rw [LimitTracker.observe_states, List.map_map, ← h.rules_eq]
    apply List.map_congr_left
    intro s hs
    exact RuleState.observe_rule regExpTest (h.inRange s hs) call metrics a _
  · rw [LimitTracker.observe_states]
    intro s' hs'
    obtain ⟨s, hs, rfl⟩ := List.mem_map.mp hs'
    exact (h.inRange s hs).observe regExpTest call metrics a _
  · rw [LimitTracker.observe_states]
    intro harmed s' hs' haction
    obtain ⟨s, hs, rfl⟩ := List.mem_map.mp hs'
    rw [RuleState.observe_rule regExpTest (h.inRange s hs)] at haction
    by_cases hsrc : r.tracker.latch = .armed
    · rcases LimitTracker.observe_armed regExpTest call metrics epoch a now h.inRange hsrc with
        ⟨-, hquiet, -⟩ | ⟨-, record, hlatch, -⟩
      · exact (h.within hsrc s hs haction).observe regExpTest (h.inRange s hs) (hquiet s hs haction)
      · rw [hlatch] at harmed
        cases harmed
    · rw [(LimitTracker.observe_latched regExpTest call metrics epoch a now h.inRange hsrc).1] at harmed
      exact absurd harmed hsrc

/-- A step keeps a run sound. -/
theorem Sound.next (h : Sound rules r) (hnext : (limitRuns regExpTest rules maxEvents).next r step r') :
    Sound rules r' := by
  cases step with
  | observeCall call epoch a now =>
      obtain ⟨-, -, -, rfl⟩ := hnext
      exact h.observe call _ epoch a now
  | observeError call epoch a now =>
      obtain ⟨-, -, rfl⟩ := hnext
      exact h.observe call _ epoch a now
  | observeKillState killedAgents epoch durable =>
      obtain rfl := hnext
      obtain ⟨-, ⟨hstates, hlatch⟩ | ⟨-, -, hstates⟩⟩ :=
        r.tracker.observeKillState_cases killedAgents epoch durable
      · refine ⟨hstates ▸ h.rules_eq, hstates ▸ h.inRange, fun harmed => ?_⟩
        rw [hstates]
        exact h.within (hlatch.mp harmed)
      · refine ⟨?_, ?_, fun _ => ?_⟩ <;> rw [hstates]
        · rw [List.map_map, ← h.rules_eq]
          rfl
        · intro s' hs'
          obtain ⟨s, -, rfl⟩ := List.mem_map.mp hs'
          exact s.inRange_reset
        · intro s' hs' _
          obtain ⟨s, -, rfl⟩ := List.mem_map.mp hs'
          exact s.within_reset
  | confirmKillDelivered epoch generation =>
      obtain rfl := hnext
      obtain ⟨-, hstates, hlatch⟩ := r.tracker.confirmKillDelivered_cases epoch generation
      refine ⟨hstates ▸ h.rules_eq, hstates ▸ h.inRange, fun harmed => ?_⟩
      rw [hstates]
      exact h.within (hlatch.mp harmed)

/-- In every run the tracker is sound. -/
theorem exec_sound {es : List (Lts.Edge LimitRun LimitStep)}
    (h : (limitRuns regExpTest rules maxEvents).Exec es r) : Sound rules r := by
  refine h.invariant ⟨?_, fun _ _ _ hs hnext => hs.next hnext⟩
  rintro ⟨tracker, clock⟩ rfl
  exact sound_new rules maxEvents clock

/-! ### What is admitted -/

/-- What was admitted against what the rule remembers: all of it, or what is past a cut no later than one
    window ago. -/
structure Accounts (admittedEvents : List LimitEvent) (clock : ℚ) (s : RuleState) : Prop where
  lifetime : s.rule.windowMs = none → eventsTotal admittedEvents ≤ s.lifetimeTotal
  windowed : ∀ w : Nat, s.rule.windowMs = some w → ∃ cut : ℚ, cut + w ≤ clock ∧
    (admittedEvents.filter fun e => cut < e.at).Sublist s.events

variable {A : List LimitEvent} {clock a now : ℚ} {s : RuleState}

/-- An account stands as time passes. -/
theorem Accounts.later (h : Accounts A clock s) (hnow : clock ≤ now) : Accounts A now s :=
  ⟨h.lifetime, fun w hw => (h.windowed w hw).imp fun _ hcut => ⟨hcut.1.trans hnow, hcut.2⟩⟩

/-- What is still in the window after pruning. -/
theorem Accounts.prune (h : Accounts A clock s) (ha : clock ≤ a) {w : Nat} (hw : s.rule.windowMs = some w) :
    (A.filter fun e => a - w < e.at).Sublist (s.prune a).events := by
  obtain ⟨cut, hcut, hsub⟩ := h.windowed w hw
  have hprune : (s.prune a).events = s.events.dropWhile fun e => e.at ≤ a - w := by
    rw [RuleState.prune, hw]
  have hlater : ∀ e : LimitEvent, decide (a - w < e.at) = true → decide (cut < e.at) = true := by
    intro e he
    simp only [decide_eq_true_eq] at he ⊢
    linarith
  have hfilter : A.filter (fun e => a - w < e.at)
      = (A.filter fun e => cut < e.at).filter fun e => a - w < e.at := by
    rw [List.filter_filter]
    congr 1
    funext e
    cases he : decide (a - w < e.at) with
    | true => simp [hlater e he]
    | false => simp
  have hnot : (fun e : LimitEvent => decide (e.at ≤ a - w)) = fun e => !decide (a - w < e.at) := by
    funext e
    rw [← decide_not, decide_eq_decide, not_lt]
  rw [hprune, hfilter, hnot]
  exact (hsub.filter _).trans (filter_sublist_dropWhile _ _)

/-- A value spent, admitted or not. -/
theorem Accounts.spend (h : Accounts A clock s) (ha : clock ≤ a) {value : Nat}
    (hrange : (s.prune a).runningTotal + value ≤ maxSafe) {extra : List LimitEvent}
    (hextra : extra = [] ∨ extra = [⟨a, value⟩]) : Accounts (A ++ extra) a ((s.prune a).spend a value) := by
  have hvalue : eventsTotal extra ≤ value := by
    rcases hextra with rfl | rfl <;> simp
  have hrule : ((s.prune a).spend a value).rule = s.rule := by
    unfold RuleState.spend
    split <;> simp
  refine ⟨fun hwindow => ?_, fun w hwindow => ?_⟩
  · rw [hrule] at hwindow
    have htotal := RuleState.spend_runningTotal (a := a) hrange
    rw [RuleState.runningTotal, hrule, RuleState.runningTotal, RuleState.prune_rule, hwindow] at htotal
    simp only [RuleState.prune_lifetimeTotal] at htotal
    have hlifetime := h.lifetime hwindow
    rw [eventsTotal_append]
    omega
  · rw [hrule] at hwindow
    have hpos : (0 : ℚ) < w := by exact_mod_cast s.rule.window_pos w hwindow
    have hevents : ((s.prune a).spend a value).events = (s.prune a).events ++ [⟨a, value⟩] := by
      rw [RuleState.spend, RuleState.prune_rule, hwindow]
    refine ⟨a - w, by linarith, ?_⟩
    rw [hevents, List.filter_append]
    apply (h.prune ha hwindow).append
    rcases hextra with rfl | rfl
    · exact List.nil_sublist _
    · exact List.filter_sublist

/-- What was admitted stays within the rule's budget: in any window, or in all. -/
structure Bounded (rule : LimitRule) (A : List LimitEvent) : Prop where
  lifetime : rule.windowMs = none → eventsTotal A ≤ rule.max
  windowed : ∀ w : Nat, rule.windowMs = some w → ∀ t : ℚ,
    eventsTotal (A.filter fun e => t - w < e.at ∧ e.at ≤ t) ≤ rule.max

/-- A value admitted by a rule that accounts for what came before it. -/
theorem Bounded.admitted (hbounded : Bounded s.rule A) (h : Accounts A clock s) (ha : clock ≤ a) {value : Nat}
    (hmax : (s.prune a).runningTotal + value ≤ s.rule.max) : Bounded s.rule (A ++ [⟨a, value⟩]) := by
  refine ⟨fun hwindow => ?_, fun w hwindow t => ?_⟩
  · have hlifetime := h.lifetime hwindow
    rw [RuleState.runningTotal, RuleState.prune_rule, hwindow] at hmax
    simp only [RuleState.prune_lifetimeTotal] at hmax
    simp only [eventsTotal_append, eventsTotal_singleton]
    omega
  · rw [RuleState.runningTotal, RuleState.prune_rule, hwindow] at hmax
    simp only at hmax
    rw [List.filter_append, eventsTotal_append]
    by_cases hat : a ≤ t
    · -- the window ends at or after this call: what is in it is still remembered
      have hsub : (A.filter fun e => t - w < e.at ∧ e.at ≤ t).Sublist (s.prune a).events := by
        refine List.Sublist.trans (filter_sublist_filter ?_ A) (h.prune ha hwindow)
        intro e he
        simp only [decide_eq_true_eq] at he ⊢
        linarith [he.1]
      have hold := eventsTotal_sublist hsub
      have hnew := eventsTotal_sublist (List.filter_sublist (p := fun e : LimitEvent => t - w < e.at ∧ e.at ≤ t)
        (l := [(⟨a, value⟩ : LimitEvent)]))
      simp only [eventsTotal_singleton] at hnew
      omega
    · have hnew : ([(⟨a, value⟩ : LimitEvent)].filter fun e => t - w < e.at ∧ e.at ≤ t) = [] := by
        simp [hat]
      rw [hnew]
      exact hbounded.windowed w hwindow t

/-- An observation that leaves the tracker armed, at a rule that kills: what it makes of the rule, and what
    the rule remembers with and without the value. -/
theorem accounts_observe (hsound : Sound rules r) (harmed : r.tracker.latch = .armed) {call : ToolCall}
    {metrics : List LimitMetric} {i : Nat} (hs : r.tracker.states[i]? = some s) (hkill : s.rule.action = .kill)
    (hquiet : (s.observe regExpTest call metrics a r.tracker.maxWindowEvents).2 = none)
    (haccounts : Accounts A r.clock s) (ha : r.clock ≤ a) :
    Accounts A a (s.observe regExpTest call metrics a r.tracker.maxWindowEvents).1 ∧
      (s.rule.counts regExpTest metrics call = true → ∃ value, RuleState.valueOf s.rule call = some value ∧
        (s.prune a).runningTotal + value ≤ s.rule.max ∧
        Accounts (A ++ [⟨a, value⟩]) a (s.observe regExpTest call metrics a r.tracker.maxWindowEvents).1) := by
  have hmem : s ∈ r.tracker.states := List.mem_of_getElem? hs
  have hmax := s.rule.max_le
  have hlimit : maxLimitMax < maxSafe := by decide
  rcases RuleState.observe_untripped regExpTest (hsound.inRange s hmem) (hsound.within harmed s hmem hkill) hquiet
    with ⟨-, value, hvalue, heq, hle⟩ | ⟨hcounts, heq⟩
  · rw [heq]
    refine ⟨?_, fun _ => ⟨value, hvalue, hle, haccounts.spend ha (by omega) (.inr rfl)⟩⟩
    simpa using haccounts.spend ha (Nat.le_trans hle (by omega)) (.inl rfl)
  · rw [heq]
    exact ⟨haccounts.later ha, fun htrue => by simp [hcounts] at htrue⟩

/-- A tracker without a tripped kill is armed. -/
theorem armed_of_killTripped {t : LimitTracker} (h : t.killTripped = none) : t.latch = .armed := by
  unfold LimitTracker.killTripped at h
  split at h
  · assumption
  · cases h
  · cases h

/-- One step of a stretch without a release. -/
theorem accounts_next (hsound : Sound rules r) (hnext : (limitRuns regExpTest rules maxEvents).next r step r')
    (hrelease : ¬ Releases ⟨r, step, r'⟩) {i : Nat} (hs : r.tracker.states[i]? = some s)
    (hkill : s.rule.action = .kill) (hbounded : Bounded s.rule A)
    (haccounts : r.tracker.latch = .armed → Accounts A r.clock s) :
    Bounded s.rule (A ++ (admitted regExpTest s.rule ⟨r, step, r'⟩).toList) ∧
      (r'.tracker.latch = .armed → ∀ s', r'.tracker.states[i]? = some s' →
        Accounts (A ++ (admitted regExpTest s.rule ⟨r, step, r'⟩).toList) r'.clock s') := by
  have hmem : s ∈ r.tracker.states := List.mem_of_getElem? hs
  have harmed : r'.tracker.latch = .armed → r.tracker.latch = .armed := fun h => by
    by_contra hlatched
    exact hrelease ⟨hlatched, h⟩
  have hstate : ∀ (call : ToolCall) (metrics : List LimitMetric) (epoch : Option Int) (a now : ℚ) (s' : RuleState),
      (r.tracker.observe regExpTest call metrics epoch a now).1.states[i]? = some s' →
        s' = (s.observe regExpTest call metrics a r.tracker.maxWindowEvents).1 := by
    intro call metrics epoch a now s' hs'
    rw [LimitTracker.observe_states, List.getElem?_map, hs] at hs'
    exact (Option.some.inj hs').symm
  have hunspent : admitted regExpTest s.rule ⟨r, step, r'⟩ = none →
      (r'.tracker.latch = .armed → ∀ s', r'.tracker.states[i]? = some s' → Accounts A r'.clock s') →
      Bounded s.rule (A ++ (admitted regExpTest s.rule ⟨r, step, r'⟩).toList) ∧
        (r'.tracker.latch = .armed → ∀ s', r'.tracker.states[i]? = some s' →
          Accounts (A ++ (admitted regExpTest s.rule ⟨r, step, r'⟩).toList) r'.clock s') := by
    intro hnone hkept
    rw [hnone]
    simpa using ⟨hbounded, hkept⟩
  cases step with
  | observeCall call epoch a now =>
      obtain ⟨htripped, ha, hnow, rfl⟩ := hnext
      have hsrc := armed_of_killTripped htripped
      rcases LimitTracker.observe_armed regExpTest call [.calls, .amount] epoch a now hsound.inRange hsrc with
        ⟨htrips, hquiet, -⟩ | ⟨⟨trip, htrip, hkills⟩, record, hlatch, -⟩
      · obtain ⟨hkept, hspent⟩ := accounts_observe hsound hsrc hs hkill (hquiet s hmem hkill) (haccounts hsrc) ha
        have hany : (tripsOf regExpTest ⟨r, .observeCall call epoch a now,
            ⟨(r.tracker.observeCall regExpTest call epoch a now).1, now⟩⟩).any LimitTrip.kills = false := by
          rw [List.any_eq_false]
          intro trip htrip
          simp [htrips trip htrip]
        cases hcounts : s.rule.counts regExpTest [.calls, .amount] call with
        | false =>
            apply hunspent
            · simp [admitted, hcounts]
            · intro _ s' hs'
              rw [hstate call _ epoch a now s' hs']
              exact hkept.later hnow
        | true =>
            obtain ⟨value, hvalue, hmax, hspend⟩ := hspent hcounts
            have hadmitted : admitted regExpTest s.rule ⟨r, .observeCall call epoch a now,
                ⟨(r.tracker.observeCall regExpTest call epoch a now).1, now⟩⟩ = some ⟨a, value⟩ := by
              simp [admitted, hany, hcounts, hvalue]
            rw [hadmitted]
            refine ⟨hbounded.admitted (haccounts hsrc) ha hmax, fun _ s' hs' => ?_⟩
            rw [hstate call _ epoch a now s' hs']
            exact hspend.later hnow
      · apply hunspent
        · have hany : (tripsOf regExpTest ⟨r, .observeCall call epoch a now,
              ⟨(r.tracker.observeCall regExpTest call epoch a now).1, now⟩⟩).any LimitTrip.kills = true :=
            List.any_eq_true.mpr ⟨trip, htrip, hkills⟩
          simp [admitted, hany]
        · intro hdst
          have hdst' : (r.tracker.observe regExpTest call [.calls, .amount] epoch a now).1.latch = .armed := hdst
          rw [hlatch] at hdst'
          cases hdst'
  | observeError call epoch a now =>
      obtain ⟨ha, hnow, rfl⟩ := hnext
      apply hunspent rfl
      intro hdst s' hs'
      have hsrc := harmed hdst
      rcases LimitTracker.observe_armed regExpTest call [.errors] epoch a now hsound.inRange hsrc with
        ⟨-, hquiet, -⟩ | ⟨-, record, hlatch, -⟩
      · obtain ⟨hkept, -⟩ := accounts_observe hsound hsrc hs hkill (hquiet s hmem hkill) (haccounts hsrc) ha
        rw [hstate call _ epoch a now s' hs']
        exact hkept.later hnow
      · have hdst' : (r.tracker.observe regExpTest call [.errors] epoch a now).1.latch = .armed := hdst
        rw [hlatch] at hdst'
        cases hdst'
  | observeKillState killedAgents epoch durable =>
      obtain rfl := hnext
      apply hunspent rfl
      intro hdst s' hs'
      obtain ⟨-, ⟨hstates, -⟩ | ⟨hlatched, hreleased, -⟩⟩ :=
        r.tracker.observeKillState_cases killedAgents epoch durable
      · simp only [hstates, hs, Option.some.injEq] at hs'
        exact hs' ▸ haccounts (harmed hdst)
      · exact absurd ⟨hlatched, hreleased⟩ hrelease
  | confirmKillDelivered epoch generation =>
      obtain rfl := hnext
      apply hunspent rfl
      intro hdst s' hs'
      obtain ⟨-, hstates, -⟩ := r.tracker.confirmKillDelivered_cases epoch generation
      simp only [hstates, hs, Option.some.injEq] at hs'
      exact hs' ▸ haccounts (harmed hdst)

/-- What a stretch of a run without a release admits is within every kill-action rule's budget. -/
theorem path_bounded (hsound : Sound rules r) {es : List (Lts.Edge LimitRun LimitStep)}
    (hpath : (limitRuns regExpTest rules maxEvents).Path r es r') (hrelease : ∀ e ∈ es, ¬ Releases e)
    {i : Nat} {rule : LimitRule} (hrule : rules[i]? = some rule) (hkill : rule.action = .kill) :
    Sound rules r' ∧ Bounded rule (es.filterMap (admitted regExpTest rule)) ∧
      (r'.tracker.latch = .armed → ∀ s, r'.tracker.states[i]? = some s →
        Accounts (es.filterMap (admitted regExpTest rule)) r'.clock s) := by
  induction hpath with
  | nil =>
      refine ⟨hsound, ⟨fun _ => Nat.zero_le _, fun _ _ _ => Nat.zero_le _⟩, fun _ s _ =>
        ⟨fun _ => Nat.zero_le _, fun w _ => ⟨r.clock - w, by linarith, List.nil_sublist _⟩⟩⟩
  | @snoc es t l u hpre hnext ih =>
      obtain ⟨hsound', hbounded, haccounts⟩ := ih fun e he => hrelease e (List.mem_append_left _ he)
      have hlookup : (t.tracker.states.map RuleState.rule)[i]? = some rule := by rw [hsound'.rules_eq, hrule]
      rw [List.getElem?_map, Option.map_eq_some_iff] at hlookup
      obtain ⟨s, hs, rfl⟩ := hlookup
      refine ⟨hsound'.next hnext, ?_⟩
      have hlast : [(⟨t, l, u⟩ : Lts.Edge LimitRun LimitStep)].filterMap (admitted regExpTest s.rule)
          = (admitted regExpTest s.rule ⟨t, l, u⟩).toList := by
        cases hadmitted : admitted regExpTest s.rule ⟨t, l, u⟩ <;> simp [hadmitted]
      rw [List.filterMap_append, hlast]
      exact accounts_next hsound' hnext (hrelease _ (by simp)) hs hkill hbounded
        fun harmed => haccounts harmed s hs

/-! ### Stamps and overflows -/

/-- The step observed the call under these metrics. -/
def Observes (e : Lts.Edge LimitRun LimitStep) (call : ToolCall) (metrics : List LimitMetric) (a : ℚ) : Prop :=
  (∃ epoch now, e.label = .observeCall call epoch a now ∧ metrics = [.calls, .amount]) ∨
    ∃ epoch now, e.label = .observeError call epoch a now ∧ metrics = [.errors]

/-- An overflow of the rule's total was reported. -/
def OverflowReported (regExpTest : JsString → JsString → Bool) (es : List (Lts.Edge LimitRun LimitStep))
    (rule : LimitRule) : Prop :=
  ∃ e ∈ es, ∃ trip ∈ tripsOf regExpTest e, trip.rule = rule ∧ trip.cause = .totalOverflow

/-- An overflow stays reported. -/
theorem OverflowReported.append {es fs : List (Lts.Edge LimitRun LimitStep)} {rule : LimitRule}
    (h : OverflowReported regExpTest es rule) : OverflowReported regExpTest (es ++ fs) rule := by
  obtain ⟨e, he, htrip⟩ := h
  exact ⟨e, List.mem_append_left _ he, htrip⟩

/-- A step is an observation, or returns no trips. -/
theorem step_cases (hnext : (limitRuns regExpTest rules maxEvents).next r step r') :
    (∃ call metrics epoch a now, Observes ⟨r, step, r'⟩ call metrics a ∧
        tripsOf regExpTest ⟨r, step, r'⟩ = (r.tracker.observe regExpTest call metrics epoch a now).2 ∧
        r'.tracker = (r.tracker.observe regExpTest call metrics epoch a now).1) ∨
      (tripsOf regExpTest ⟨r, step, r'⟩ = [] ∧ r'.tracker.latchGenerations = r.tracker.latchGenerations ∧
        (r'.tracker.states = r.tracker.states ∨ r'.tracker.states = r.tracker.states.map RuleState.reset)) := by
  cases step with
  | observeCall call epoch a now =>
      obtain ⟨-, -, -, rfl⟩ := hnext
      exact .inl ⟨call, _, epoch, a, now, .inl ⟨epoch, now, rfl, rfl⟩, rfl, rfl⟩
  | observeError call epoch a now =>
      obtain ⟨-, -, rfl⟩ := hnext
      exact .inl ⟨call, _, epoch, a, now, .inr ⟨epoch, now, rfl, rfl⟩, rfl, rfl⟩
  | observeKillState killedAgents epoch durable =>
      obtain rfl := hnext
      obtain ⟨hgenerations, hcases⟩ := r.tracker.observeKillState_cases killedAgents epoch durable
      exact .inr ⟨rfl, hgenerations, hcases.imp (·.1) (·.2.2)⟩
  | confirmKillDelivered epoch generation =>
      obtain rfl := hnext
      obtain ⟨hgenerations, hstates, -⟩ := r.tracker.confirmKillDelivered_cases epoch generation
      exact .inr ⟨rfl, hgenerations, .inl hstates⟩

/-- Every generation is stamped on one trip, in order. -/
theorem exec_stamps {es : List (Lts.Edge LimitRun LimitStep)}
    (h : (limitRuns regExpTest rules maxEvents).Exec es r) :
    es.flatMap (fun e => stamps (tripsOf regExpTest e)) = List.range' 1 r.tracker.latchGenerations := by
  refine h.induct (I := fun es r => es.flatMap (fun e => stamps (tripsOf regExpTest e))
    = List.range' 1 r.tracker.latchGenerations) ?_ ?_
  · rintro ⟨tracker, clock⟩ rfl
    rfl
  · intro es r step r' hexec ih hnext
    have hsound := exec_sound hexec
    rw [List.flatMap_append, ih, List.flatMap_cons, List.flatMap_nil, List.append_nil]
    rcases step_cases hnext with ⟨call, metrics, epoch, a, now, -, htrips, hdst⟩ | ⟨htrips, hgenerations, -⟩
    · rw [htrips, hdst]
      by_cases harmed : r.tracker.latch = .armed
      · rcases LimitTracker.observe_armed regExpTest call metrics epoch a now hsound.inRange harmed with
          ⟨-, -, -, hgenerations, hstamps⟩ | ⟨-, record, -, -, -, -, hgenerations, hstamps⟩
        · rw [hstamps, hgenerations, List.append_nil]
        · rw [hstamps, hgenerations, List.range'_1_concat, Nat.add_comm]
      · obtain ⟨-, hgenerations, hstamps⟩ :=
          LimitTracker.observe_latched regExpTest call metrics epoch a now hsound.inRange harmed
        rw [hstamps, hgenerations, List.append_nil]
    · rw [htrips, hgenerations]
      exact List.append_nil _

/-- An overflow of a metered rule is among the trips. -/
theorem overflow_mem_trips {call : ToolCall} {metrics : List LimitMetric} (epoch : Option Int) (now : ℚ)
    (hs : s ∈ r.tracker.states) {total : Nat}
    (htrip : (s.observe regExpTest call metrics a r.tracker.maxWindowEvents).2
      = some ⟨s.rule, total, .totalOverflow, none⟩) :
    ∃ trip ∈ (r.tracker.observe regExpTest call metrics epoch a now).2,
      trip.rule = s.rule ∧ trip.cause = .totalOverflow :=
  mem_trips_of_observe regExpTest call metrics epoch a now r.tracker.maxWindowEvents hs htrip _

/-- A lifetime total that reads as the end of the safe integers was reported. -/
theorem exec_clamped {es : List (Lts.Edge LimitRun LimitStep)}
    (h : (limitRuns regExpTest rules maxEvents).Exec es r) :
    ∀ s ∈ r.tracker.states, s.lifetimeTotal = maxSafe → OverflowReported regExpTest es s.rule := by
  refine h.induct (I := fun es r => ∀ s ∈ r.tracker.states, s.lifetimeTotal = maxSafe →
    OverflowReported regExpTest es s.rule) ?_ ?_
  · rintro ⟨tracker, clock⟩ rfl s hs hfull
    obtain ⟨rule, -, rfl⟩ := List.mem_map.mp hs
    cases hfull
  · intro es r step r' hexec ih hnext s' hs' hfull
    have hsound := exec_sound hexec
    rcases step_cases hnext with ⟨call, metrics, epoch, a, now, -, htrips, hdst⟩ | ⟨-, -, hstates | hstates⟩
    · rw [hdst, LimitTracker.observe_states] at hs'
      obtain ⟨s, hs, rfl⟩ := List.mem_map.mp hs'
      rw [RuleState.observe_rule regExpTest (hsound.inRange s hs)]
      by_cases hold : s.lifetimeTotal = maxSafe
      · exact (ih s hs hold).append
      · obtain ⟨trip, htrip, hreported⟩ := overflow_mem_trips epoch now hs
          (RuleState.observe_clamped regExpTest (hsound.inRange s hs) hold hfull)
        exact ⟨_, by simp, trip, htrips ▸ htrip, hreported⟩
    · rw [hstates] at hs'
      exact (ih s' hs' hfull).append
    · rw [hstates] at hs'
      obtain ⟨s, -, rfl⟩ := List.mem_map.mp hs'
      cases hfull

/-- A sum past the safe integers is reported, then or earlier. -/
theorem exec_overflow {pre post : List (Lts.Edge LimitRun LimitStep)} {e : Lts.Edge LimitRun LimitStep}
    (h : (limitRuns regExpTest rules maxEvents).Exec (pre ++ e :: post) r) {call : ToolCall}
    {metrics : List LimitMetric} (hobs : Observes e call metrics a) (hs : s ∈ e.src.tracker.states)
    (hmeters : s.Meters regExpTest call metrics a) {value : Nat} (hvalue : RuleState.valueOf s.rule call = some value)
    (hover : maxSafe ≤ (s.prune a).currentTotal + value) :
    OverflowReported regExpTest (pre ++ [e]) s.rule := by
  obtain ⟨hpre, -, -⟩ := h.split
  have hrange := (exec_sound hpre).inRange s hs
  rcases RuleState.observe_overflow regExpTest e.src.tracker.maxWindowEvents hrange hmeters hvalue hover with
    htrip | hfull
  · rcases hobs with ⟨epoch, now, hlabel, rfl⟩ | ⟨epoch, now, hlabel, rfl⟩
    · obtain ⟨trip, hmem, hreported⟩ := overflow_mem_trips epoch now hs htrip
      refine ⟨e, by simp, trip, ?_, hreported⟩
      rw [tripsOf, hlabel]
      exact hmem
    · obtain ⟨trip, hmem, hreported⟩ := overflow_mem_trips epoch now hs htrip
      refine ⟨e, by simp, trip, ?_, hreported⟩
      rw [tripsOf, hlabel]
      exact hmem
  · exact (exec_clamped hpre s hs hfull).append

/-- What the tracker promises of a run. -/
structure Budgets (regExpTest : JsString → JsString → Bool) (rules : List LimitRule)
    (es : List (Lts.Edge LimitRun LimitStep)) (r : LimitRun) : Prop where
  /-- While armed, every kill-action rule is unsaturated and within its max, at any time. -/
  within : r.tracker.latch = .armed → ∀ s ∈ r.tracker.states, s.rule.action = .kill →
    s.saturatedUntil = none ∧ s.currentTotal ≤ s.rule.max ∧ ∀ a, (s.prune a).currentTotal ≤ s.rule.max
  /-- What a stretch without a release admits is within the rule's max, in any window or in all. -/
  admitted : ∀ pre mid post, es = pre ++ mid ++ post → (∀ e ∈ mid, ¬ Releases e) → ∀ rule ∈ rules,
    rule.action = .kill → Bounded rule (mid.filterMap (OwnerSwitch.admitted regExpTest rule))
  /-- Every admitted call has a readable amount for each kill-action rule that meters it. -/
  readable : ∀ e ∈ es, ∀ call a, Admits regExpTest e call a → ∀ rule ∈ rules, rule.action = .kill →
    rule.counts regExpTest [.calls, .amount] call = true → rule.metric = .amount →
      ∃ value, amountAt call.args (rule.amountPath.getD []) = some value
  /-- The generations stamped on trips are the latches opened, each once and in order. -/
  stamped : es.flatMap (fun e => stamps (tripsOf regExpTest e)) = List.range' 1 r.tracker.latchGenerations
  /-- Every total is exact and a safe integer. -/
  safe : ∀ s ∈ r.tracker.states, s.currentTotal = s.runningTotal ∧ s.runningTotal ≤ maxSafe
  /-- A sum that leaves the safe integers is reported. -/
  overflow : ∀ pre e post, es = pre ++ e :: post → ∀ call metrics a, Observes e call metrics a →
    ∀ s ∈ e.src.tracker.states, s.Meters regExpTest call metrics a → ∀ value,
      RuleState.valueOf s.rule call = some value → maxSafe ≤ (s.prune a).currentTotal + value →
        OverflowReported regExpTest (pre ++ [e]) s.rule

/-- A call is admitted only where every kill rule that counts it can read its value. -/
theorem readable_of_admits {e : Lts.Edge LimitRun LimitStep} (hsound : Sound rules e.src)
    (hnext : (limitRuns regExpTest rules maxEvents).next e.src e.label e.dst) {call : ToolCall}
    (hadmits : Admits regExpTest e call a) {rule : LimitRule} (hrule : rule ∈ rules) (hkill : rule.action = .kill)
    (hcounts : rule.counts regExpTest [.calls, .amount] call = true) :
    ∃ value, RuleState.valueOf rule call = some value := by
  obtain ⟨⟨epoch, now, hlabel⟩, htrips⟩ := hadmits
  rw [hlabel] at hnext
  obtain ⟨htripped, -⟩ := hnext
  have harmed := armed_of_killTripped htripped
  rw [tripsOf, hlabel] at htrips
  rw [← hsound.rules_eq] at hrule
  obtain ⟨s, hs, rfl⟩ := List.mem_map.mp hrule
  rcases LimitTracker.observe_armed regExpTest call [.calls, .amount] epoch a now hsound.inRange harmed with
    ⟨-, hquiet, -⟩ | ⟨⟨trip, htrip, hkills⟩, -⟩
  · rcases RuleState.observe_untripped regExpTest (hsound.inRange s hs) (hsound.within harmed s hs hkill)
        (hquiet s hs hkill) with ⟨-, value, hvalue, -⟩ | ⟨hnot, -⟩
    · exact ⟨value, hvalue⟩
    · rw [hcounts] at hnot
      cases hnot
  · have hquiet := htrips trip htrip
    rw [hkills] at hquiet
    cases hquiet

/-- In every run the tracker keeps what it promises. -/
theorem limit_budgets {es : List (Lts.Edge LimitRun LimitStep)}
    (h : (limitRuns regExpTest rules maxEvents).Exec es r) : Budgets regExpTest rules es r := by
  have hsound := exec_sound h
  refine ⟨fun harmed s hs hkill => ?_, ?_, ?_, exec_stamps h, fun s hs => ?_, ?_⟩
  · have hwithin := hsound.within harmed s hs hkill
    have hrange := hsound.inRange s hs
    refine ⟨hwithin.unsaturated, ?_, fun a => ?_⟩
    · rw [hrange.currentTotal]
      exact hwithin.total
    · rw [(hrange.prune a).currentTotal]
      exact (RuleState.runningTotal_prune_le s a).trans hwithin.total
  · rintro pre mid post rfl hrelease rule hrule hkill
    obtain ⟨i, hi, hget⟩ := List.mem_iff_getElem.mp hrule
    obtain ⟨s₀, hinit, hpath⟩ := h
    obtain ⟨r₂, hpath, -⟩ := hpath.append_inv
    obtain ⟨r₁, hpre, hmid⟩ := hpath.append_inv
    exact (path_bounded (exec_sound ⟨s₀, hinit, hpre⟩) hmid hrelease (i := i)
      (by rw [List.getElem?_eq_getElem hi, hget]) hkill).2.1
  · intro e he call a hadmits rule hrule hkill hcounts hmetric
    obtain ⟨pre, post, rfl⟩ := List.append_of_mem he
    obtain ⟨hpre, hnext, -⟩ := h.split
    obtain ⟨value, hvalue⟩ := readable_of_admits (exec_sound hpre) hnext hadmits hrule hkill hcounts
    refine ⟨value, ?_⟩
    rw [RuleState.valueOf, hmetric] at hvalue
    exact hvalue
  · exact ⟨(hsound.inRange s hs).currentTotal, (hsound.inRange s hs).runningTotal_le⟩
  · rintro pre e post rfl call metrics a hobs s hs hmeters value hvalue hover
    exact exec_overflow h hobs hs hmeters hvalue hover

end Runs

/-! ### A budget spent, released and spent again -/

/-- One call a minute. -/
def sampleRule : LimitRule where
  id := js "payouts"
  tool := js "pay_*"
  argsPattern := none
  metric := .calls
  amountPath := none
  max := 1
  windowMs := some 60000
  action := .kill
  path := by simp
  max_le := by decide
  window_pos := by simp

def sampleCall : ToolCall :=
  ⟨js "agent-1", js "pay_invoice", none⟩

/-- No rule of the sample has a pattern. -/
def sampleTest : JsString → JsString → Bool :=
  fun _ _ => true

/-- What a step that is enabled leads to. -/
def LimitRun.after (r : LimitRun) : LimitStep → LimitRun
  | .observeCall call epoch a now => ⟨(r.tracker.observeCall sampleTest call epoch a now).1, now⟩
  | .observeError call epoch a now => ⟨(r.tracker.observeError sampleTest call epoch a now).1, now⟩
  | .observeKillState killedAgents epoch durable => ⟨r.tracker.observeKillState killedAgents epoch durable, r.clock⟩
  | .confirmKillDelivered epoch generation => ⟨r.tracker.confirmKillDelivered epoch generation, r.clock⟩

def sampleStart : LimitRun :=
  ⟨.new [sampleRule] maxWindowEvents, 0⟩

def sampleFirst : LimitRun :=
  sampleStart.after (.observeCall sampleCall (some 0) 0 0)

/-- The second call latches, its kill is confirmed, and the owner's restore releases it. -/
def sampleReleased : LimitRun :=
  ((sampleFirst.after (.observeCall sampleCall (some 0) 1 1)).after (.confirmKillDelivered 1 1)).after
    (.observeKillState [] (some 1) true)

def sampleRun : List (Lts.Edge LimitRun LimitStep) :=
  let second := sampleFirst.after (.observeCall sampleCall (some 0) 1 1)
  let confirmed := second.after (.confirmKillDelivered 1 1)
  [⟨sampleStart, .observeCall sampleCall (some 0) 0 0, sampleFirst⟩,
    ⟨sampleFirst, .observeCall sampleCall (some 0) 1 1, second⟩,
    ⟨second, .confirmKillDelivered 1 1, confirmed⟩,
    ⟨confirmed, .observeKillState [] (some 1) true, sampleReleased⟩,
    ⟨sampleReleased, .observeCall sampleCall (some 1) 2 2,
      sampleReleased.after (.observeCall sampleCall (some 1) 2 2)⟩]

/-- The sample run is one. -/
theorem exec_sampleRun : (limitRuns sampleTest [sampleRule] maxWindowEvents).Exec sampleRun
    (sampleReleased.after (.observeCall sampleCall (some 1) 2 2)) := by
  have hstart : (limitRuns sampleTest [sampleRule] maxWindowEvents).Exec [] sampleStart := .nil rfl
  have hfirst : sampleStart.tracker.killTripped = none := rfl
  have hsecond : sampleFirst.tracker.killTripped = none := by decide +kernel
  have hthird : sampleReleased.tracker.killTripped = none := by decide +kernel
  have hclock : sampleReleased.clock = 1 := by decide +kernel
  refine Lts.Exec.snoc (Lts.Exec.snoc (Lts.Exec.snoc (Lts.Exec.snoc (Lts.Exec.snoc hstart ?_) ?_) ?_) ?_) ?_
  · exact ⟨hfirst, le_refl _, le_refl _, rfl⟩
  · exact ⟨hsecond, zero_le_one, le_refl _, rfl⟩
  · rfl
  · rfl
  · exact ⟨hthird, by rw [hclock]; norm_num, le_refl _, rfl⟩

/-- A run within its budgets, through a latch and its release. -/
theorem limit_budgets_sampleRun : Budgets sampleTest [sampleRule] sampleRun
    (sampleReleased.after (.observeCall sampleCall (some 1) 2 2)) :=
  limit_budgets exec_sampleRun

/-- A window that spans a release admits more than the rule's max: the release re-arms the budget. -/
theorem window_over_budget_across_release :
    ¬ ∀ (regExpTest : JsString → JsString → Bool) (rules : List LimitRule) (maxEvents : Nat)
        (es : List (Lts.Edge LimitRun LimitStep)) (r : LimitRun),
      (limitRuns regExpTest rules maxEvents).Exec es r → ∀ rule ∈ rules, rule.action = .kill → ∀ w : Nat,
        rule.windowMs = some w → ∀ t : ℚ,
          eventsTotal ((es.filterMap (admitted regExpTest rule)).filter fun e => t - w < e.at ∧ e.at ≤ t)
            ≤ rule.max := by
  intro h
  have hwindow := h sampleTest [sampleRule] maxWindowEvents sampleRun _ exec_sampleRun sampleRule (by simp) rfl 60000
    rfl 2
  revert hwindow
  decide +kernel

end OwnerSwitch
