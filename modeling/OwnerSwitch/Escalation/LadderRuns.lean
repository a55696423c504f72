/-
Module: OwnerSwitch.Escalation.LadderRuns
Layer: Escalation
Purpose: Runs of the ladder engine under calls whose times do not decrease. The send logs and the day's spend
  hold what was sent in the whole run (`Accounts`), which bounds every horizon and every UTC day; the spent
  rungs of the live storm are the ones its ticks fired or skipped (`exec_fired`).
Imports: Lib.Lts, Lib.RateLimit, Ladder
Trusted boundary: none
Main exports: ladderRuns, allSends, stormOf, Accounts, Priced, Sensible, within_of_room, exec_accounts, exec_fired
Open obligations: none
-/
import Mathlib.Algebra.Order.Floor.Semiring
import Mathlib.Data.List.DropRight
import OwnerSwitch.Lib.Lts
import OwnerSwitch.Lib.RateLimit
import OwnerSwitch.Escalation.Ladder

namespace OwnerSwitch

open RateLimit

/-! ### Runs -/

/-- The engine and the time of the last tick. -/
structure LadderState where
  engine : LadderEngine
  clock : ℚ

abbrev LadderEdge := Lts.Edge LadderState LadderOp

def LadderState.after (s : LadderState) (op : LadderOp) : LadderState where
  engine := s.engine.after op
  clock :=
    match op with
    | .tick nowMs => nowMs
    | _ => s.clock

/-- A tick may not go back in time. -/
def LadderState.enabled (s : LadderState) : LadderOp → Bool
  | .tick nowMs => s.clock ≤ nowMs
  | _ => true

/-- The runs of an engine that a constructor returned. -/
def ladderRuns (engine : LadderEngine) : Lts LadderState LadderOp where
  init s := s.engine = engine
  next s op t := s.enabled op = true ∧ t = s.after op

/-- The channel an action sends on. -/
def LadderAction.sentOn : LadderAction → Option ChannelKind
  | .send channel _ => some channel
  | _ => none

/-- What the actions of a tick at `nowMs` send. -/
def sentBy (nowMs : ℚ) (actions : List LadderAction) : List (ℚ × ChannelKind) :=
  (actions.filterMap LadderAction.sentOn).map fun channel => (nowMs, channel)

/-- What one step sends, and when. -/
def LadderEdge.sends (x : LadderEdge) : List (ℚ × ChannelKind) :=
  sentBy x.dst.clock (x.src.engine.actions x.label)

def allSends (es : List LadderEdge) : List (ℚ × ChannelKind) :=
  es.flatMap LadderEdge.sends

/-- When something was sent on a channel. -/
def timesOn (channel : ChannelKind) (sends : List (ℚ × ChannelKind)) : List ℚ :=
  (sends.filter fun s => s.2 = channel).map Prod.fst

/-- What the sends cost, and when. -/
def chargesOf (costUsd : ChannelKind → Double) (sends : List (ℚ × ChannelKind)) : List (ℚ × Double) :=
  sends.map fun s => (s.1, costUsd s.2)

/-- What a list of actions sends is what its parts send. -/
@[simp] theorem sentBy_append (nowMs : ℚ) (as bs : List LadderAction) :
    sentBy nowMs (as ++ bs) = sentBy nowMs as ++ sentBy nowMs bs := by
  simp [sentBy]

@[simp] theorem sentBy_nil (nowMs : ℚ) : sentBy nowMs [] = [] := rfl

@[simp] theorem sentBy_send (nowMs : ℚ) (channel : ChannelKind) (alert : EscalationAlert) :
    sentBy nowMs [.send channel alert] = [(nowMs, channel)] := rfl

@[simp] theorem sentBy_standDown (nowMs : ℚ) (ids : List JsString) (reason : StandDownReason) :
    sentBy nowMs [.standDown ids reason] = [] := rfl

/-- The times on a channel are those of the parts. -/
@[simp] theorem timesOn_append (channel : ChannelKind) (ss ts : List (ℚ × ChannelKind)) :
    timesOn channel (ss ++ ts) = timesOn channel ss ++ timesOn channel ts := by
  simp [timesOn]

/-- The charges are those of the parts. -/
@[simp] theorem chargesOf_append (costUsd : ChannelKind → Double) (ss ts : List (ℚ × ChannelKind)) :
    chargesOf costUsd (ss ++ ts) = chargesOf costUsd ss ++ chargesOf costUsd ts := by
  simp [chargesOf]

theorem timesOn_self (channel : ChannelKind) (nowMs : ℚ) : timesOn channel [(nowMs, channel)] = [nowMs] := by
  simp [timesOn]

theorem timesOn_ne {channel other : ChannelKind} (h : other ≠ channel) (nowMs : ℚ) :
    timesOn channel [(nowMs, other)] = [] := by
  simp [timesOn, h]

/-! ### The accounts of an engine -/

namespace LadderEngine

/-- Every send has a price: a finite number that is not negative. -/
def Priced (costUsd : ChannelKind → Double) : Prop :=
  ∀ channel, isNonsense (costUsd channel) = false

/-- The limits are what the constructor lets pass. -/
structure Sensible (limits : RateLimits) : Prop where
  voice : isNonsense limits.maxVoiceCallsPer10Min = false
  sms : isNonsense limits.maxSmsPerHour = false
  spend : isNonsense limits.maxDailySpendUsd = false

/-- A limit that makes sense is finite and not negative. -/
theorem finite_of_sense {value : Double} (h : isNonsense value = false) :
    ∃ q hrep, value = .finite q hrep ∧ 0 ≤ q := by
  cases value with
  | nan => cases h
  | inf negative => cases h
  | finite q hrep => exact ⟨q, hrep, rfl, not_lt.mp (of_decide_eq_false h)⟩

/-- A log that does not reach its cap has room for one more. -/
theorem room_of_not_full {cap : Double} (hcap : isNonsense cap = false) {n : Nat} (h : ¬ cap ≤ .ofRat n) :
    n < ⌈cap.value⌉₊ := by
  obtain ⟨q, hrep, rfl, -⟩ := finite_of_sense hcap
  exact Nat.lt_ceil.mpr (Double.lt_of_not_le_ofRat h)

/-- Where the limit has room for a price, paying it stays within the limit. -/
theorem within_of_room {limit cost : Double} (hlimit : isNonsense limit = false) (hcost : isNonsense cost = false)
    {costs : List Double} (h : Double.SumsWithin limit.value costs) (hroom : ¬ limit < costs.foldl (· + ·) 0 + cost) :
    Double.SumsWithin limit.value (costs ++ [cost]) := by
  obtain ⟨cap, hcap, rfl, -⟩ := finite_of_sense hlimit
  obtain ⟨price, hprice, rfl, hnonneg⟩ := finite_of_sense hcost
  exact h.snoc hnonneg hroom

/-- The logs and the spend of the engine account for everything that was sent until `now`. -/
structure Accounts (sends : List (ℚ × ChannelKind)) (e : LadderEngine) (now : ℚ) : Prop where
  sensible : Sensible e.limits
  voiceLog : Keeps voiceHorizonMs (timesOn .voice sends) e.voiceSends now
  voiceCap : AtMost voiceHorizonMs ⌈e.limits.maxVoiceCallsPer10Min.value⌉₊ (timesOn .voice sends)
  smsLog : Keeps smsHorizonMs (timesOn .sms sends) e.smsSends now
  smsCap : AtMost smsHorizonMs ⌈e.limits.maxSmsPerHour.value⌉₊ (timesOn .sms sends)
  spent : Charged utcDay (chargesOf e.costUsd sends) e.spendDay e.spendUsd now
  daily : Priced e.costUsd →
    ∀ day, Double.SumsWithin e.limits.maxDailySpendUsd.value (chargesIn utcDay (chargesOf e.costUsd sends) day)

/-- Two engines of one configuration. -/
structure SameConfig (e e' : LadderEngine) : Prop where
  rungs : e'.rungs = e.rungs
  limits : e'.limits = e.limits
  costUsd : e'.costUsd = e.costUsd

/-- Two engines that agree on everything but the accounts. -/
structure SameQueue (e e' : LadderEngine) : Prop extends SameConfig e e' where
  pending : e'.pending = e.pending

theorem SameConfig.trans {e e' e'' : LadderEngine} (h : SameConfig e e') (h' : SameConfig e' e'') :
    SameConfig e e'' where
  rungs := h'.rungs.trans h.rungs
  limits := h'.limits.trans h.limits
  costUsd := h'.costUsd.trans h.costUsd

variable {e e' : LadderEngine} {sends : List (ℚ × ChannelKind)} {now t : ℚ} {channel : ChannelKind}

/-- Later times are on later days. -/
theorem utcDay_mono (h : now ≤ t) : utcDay now ≤ utcDay t := by
  unfold utcDay
  exact Int.floor_le_floor (by linarith)

/-- An account stands as time passes. -/
theorem Accounts.later (h : Accounts sends e now) (hlater : now ≤ t) : Accounts sends e t where
  sensible := h.sensible
  voiceLog := h.voiceLog.later hlater
  voiceCap := h.voiceCap
  smsLog := h.smsLog.later hlater
  smsCap := h.smsCap
  spent := h.spent.later (utcDay_mono hlater)
  daily := h.daily

/-- The accounts are the engine's logs, spend and configuration, and nothing else of it. -/
theorem Accounts.of_eq (h : Accounts sends e now) (hconfig : SameConfig e e') (hvoice : e'.voiceSends = e.voiceSends)
    (hsms : e'.smsSends = e.smsSends) (hday : e'.spendDay = e.spendDay) (husd : e'.spendUsd = e.spendUsd) :
    Accounts sends e' now := by
  constructor
  · rw [hconfig.limits]
    exact h.sensible
  · rw [hvoice]
    exact h.voiceLog
  · rw [hconfig.limits]
    exact h.voiceCap
  · rw [hsms]
    exact h.smsLog
  · rw [hconfig.limits]
    exact h.smsCap
  · rw [hconfig.costUsd, hday, husd]
    exact h.spent
  · rw [hconfig.costUsd, hconfig.limits]
    exact h.daily

/-- The day's bucket, as the admission of a rung finds it. -/
theorem Accounts.today (h : Accounts sends e now) :
    Accounts sends (if e.spendDay ≠ utcDay now then { e with spendDay := utcDay now, spendUsd := 0 } else e) now ∧
    (if e.spendDay ≠ utcDay now then { e with spendDay := utcDay now, spendUsd := 0 } else e).spendDay =
      utcDay now := by
  by_cases hday : e.spendDay = utcDay now
  · rw [if_neg (not_not.mpr hday)]
    exact ⟨h, hday⟩
  · rw [if_pos hday]
    exact ⟨⟨h.sensible, h.voiceLog, h.voiceCap, h.smsLog, h.smsCap, h.spent.reset hday, h.daily⟩, rfl⟩

/-- What an admission comes to. -/
inductive Admits (sends : List (ℚ × ChannelKind)) (e : LadderEngine) (channel : ChannelKind) (now : ℚ) :
    Verdict × LadderEngine → Prop where
  | capped {e' : LadderEngine} (queue : SameQueue e e') (accounts : Accounts sends e' now) :
      Admits sends e channel now (.capped, e')
  | sent {e' : LadderEngine} (queue : SameQueue e e') (accounts : Accounts (sends ++ [(now, channel)]) e' now) :
      Admits sends e channel now (.sent, e')

/-- Sending within the day's budget, where the logs hold the send too. -/
theorem Accounts.charge {voiceLog smsLog : List ℚ} (h : Accounts sends e now) (hday : e.spendDay = utcDay now)
    (hroom : ¬ e.limits.maxDailySpendUsd < e.spendUsd + e.costUsd channel)
    (hvoice : Keeps voiceHorizonMs (timesOn .voice (sends ++ [(now, channel)])) voiceLog now)
    (hvoiceCap :
      AtMost voiceHorizonMs ⌈e.limits.maxVoiceCallsPer10Min.value⌉₊ (timesOn .voice (sends ++ [(now, channel)])))
    (hsms : Keeps smsHorizonMs (timesOn .sms (sends ++ [(now, channel)])) smsLog now)
    (hsmsCap : AtMost smsHorizonMs ⌈e.limits.maxSmsPerHour.value⌉₊ (timesOn .sms (sends ++ [(now, channel)]))) :
    Accounts (sends ++ [(now, channel)])
      { e with voiceSends := voiceLog, smsSends := smsLog, spendUsd := e.spendUsd + e.costUsd channel } now := by
  have hspent := h.spent
  rw [hday] at hspent
  constructor
  · exact h.sensible
  · exact hvoice
  · exact hvoiceCap
  · exact hsms
  · exact hsmsCap
  · show Charged utcDay (chargesOf e.costUsd (sends ++ [(now, channel)])) e.spendDay _ now
    rw [chargesOf_append, hday]
    exact hspent.charge
  · intro hpriced
    rw [chargesOf_append]
    rw [← hspent.total] at hroom
    exact chargesIn_snoc_within (h.daily hpriced) fun hwithin =>
      within_of_room h.sensible.spend (hpriced channel) hwithin hroom

/-- An admission keeps the accounts, whatever it decides. -/
theorem admit_admits (h : Accounts sends e now) (channel : ChannelKind) :
    Admits sends e channel now (e.admitSend channel now) := by
  unfold admitSend
  obtain ⟨htoday, hday⟩ := h.today
  have hqueue : SameQueue e
      (if e.spendDay ≠ utcDay now then { e with spendDay := utcDay now, spendUsd := 0 } else e) := by
    split <;> exact ⟨⟨rfl, rfl, rfl⟩, rfl⟩
  have hcost : (if e.spendDay ≠ utcDay now then { e with spendDay := utcDay now, spendUsd := 0 } else e).costUsd
      channel = e.costUsd channel := by
    rw [hqueue.costUsd]
  dsimp only
  rw [← hcost]
  clear hcost
  generalize (if e.spendDay ≠ utcDay now then { e with spendDay := utcDay now, spendUsd := 0 } else e) = e₁
    at htoday hday hqueue
  have hsame : ∀ {vs ss : List ℚ} {usd : Double}, SameQueue e
      { e₁ with voiceSends := vs, smsSends := ss, spendUsd := usd } :=
    fun {_ _ _} => ⟨⟨hqueue.rungs, hqueue.limits, hqueue.costUsd⟩, hqueue.pending⟩
  by_cases hroom : e₁.limits.maxDailySpendUsd < e₁.spendUsd + e₁.costUsd channel
  · rw [if_pos hroom]
    exact .capped hqueue htoday
  · rw [if_neg hroom]
    have hcharge {voiceLog smsLog : List ℚ} :=
      @Accounts.charge e₁ sends now channel voiceLog smsLog htoday hday hroom
    simp only [timesOn_append] at hcharge
    cases channel with
    | push =>
        simp only [timesOn_ne (nofun : ChannelKind.push ≠ .voice), timesOn_ne (nofun : ChannelKind.push ≠ .sms),
          List.append_nil] at hcharge
        exact .sent hsame (hcharge htoday.voiceLog htoday.voiceCap htoday.smsLog htoday.smsCap)
    | email =>
        simp only [timesOn_ne (nofun : ChannelKind.email ≠ .voice), timesOn_ne (nofun : ChannelKind.email ≠ .sms),
          List.append_nil] at hcharge
        exact .sent hsame (hcharge htoday.voiceLog htoday.voiceCap htoday.smsLog htoday.smsCap)
    | sms =>
        simp only [timesOn_ne (nofun : ChannelKind.sms ≠ .voice), timesOn_self, List.append_nil] at hcharge
        dsimp only
        by_cases hfull : e₁.limits.maxSmsPerHour ≤ .ofRat (e₁.smsSends.filter fun a => now - a < smsHorizonMs).length
        · rw [if_pos hfull]
          exact .capped hsame
            ⟨htoday.sensible, htoday.voiceLog, htoday.voiceCap, htoday.smsLog.prune, htoday.smsCap,
              htoday.spent, htoday.daily⟩
        · rw [if_neg hfull]
          exact .sent hsame (hcharge htoday.voiceLog htoday.voiceCap htoday.smsLog.prune.record
            (htoday.smsCap.record htoday.smsLog (room_of_not_full htoday.sensible.sms hfull)))
    | voice =>
        simp only [timesOn_ne (nofun : ChannelKind.voice ≠ .sms), timesOn_self, List.append_nil] at hcharge
        dsimp only
        by_cases hfull : e₁.limits.maxVoiceCallsPer10Min ≤
            .ofRat (e₁.voiceSends.filter fun a => now - a < voiceHorizonMs).length
        · rw [if_pos hfull]
          exact .capped hsame
            ⟨htoday.sensible, htoday.voiceLog.prune, htoday.voiceCap, htoday.smsLog, htoday.smsCap,
              htoday.spent, htoday.daily⟩
        · rw [if_neg hfull]
          exact .sent hsame (hcharge htoday.voiceLog.prune.record
            (htoday.voiceCap.record htoday.voiceLog (room_of_not_full htoday.sensible.voice hfull)) htoday.smsLog
              htoday.smsCap)

/-! ### What a tick does -/

/-- What the loop over the rungs from index `i` on does: each rung that is due and unspent is spent, with a
    send or a stand-down for the windows that are open. -/
structure Passes (opened : List TrackedWindow) (startedAtMs nowMs : ℚ) (rungs : List LadderRung) (i : Nat)
    (f f' : Firing) (new : List (Nat × LadderAction)) : Prop where
  passed : f'.passed = f.passed ++ new
  fired : f'.fired = f.fired ∪ (new.map Prod.fst).toFinset
  nodup : (new.map Prod.fst).Nodup
  sound : ∀ j a, (j, a) ∈ new → j ∉ f.fired ∧ ∃ k rung, j = i + k ∧ rungs[k]? = some rung ∧
    rung.afterMs ≤ nowMs - startedAtMs ∧
    (a = .send rung.channel (alertFor opened) ∨ a = .standDown (windowIdsOf opened) .capHit)
  complete : ∀ k rung, rungs[k]? = some rung → rung.afterMs ≤ nowMs - startedAtMs → i + k ∈ f'.fired
  queue : SameQueue f.engine f'.engine
  accounts : ∀ sends, Accounts sends f.engine nowMs →
    Accounts (sends ++ sentBy nowMs (new.map Prod.snd)) f'.engine nowMs

variable {opened : List TrackedWindow} {startedAtMs nowMs : ℚ} {rungs : List LadderRung} {rung : LadderRung} {i : Nat}
  {f f' f'' : Firing} {new new' : List (Nat × LadderAction)}

theorem SameQueue.refl (e : LadderEngine) : SameQueue e e :=
  ⟨⟨rfl, rfl, rfl⟩, rfl⟩

theorem SameQueue.trans {e e' e'' : LadderEngine} (h : SameQueue e e') (h' : SameQueue e' e'') :
    SameQueue e e'' :=
  ⟨h.toSameConfig.trans h'.toSameConfig, h'.pending.trans h.pending⟩

/-- The admission of a rung leaves configuration and queue alone. -/
theorem admitSend_queue (e : LadderEngine) (channel : ChannelKind) (now : ℚ) :
    SameQueue e (e.admitSend channel now).2 := by
  unfold admitSend
  cases channel <;> dsimp only <;> split_ifs <;> exact ⟨⟨rfl, rfl, rfl⟩, rfl⟩

/-- A turn of the loop as the loop over the one rung. -/
theorem rung_passes (opened : List TrackedWindow) (startedAtMs nowMs : ℚ) (f : Firing) (i : Nat) (rung : LadderRung) :
    ∃ new, Passes opened startedAtMs nowMs [rung] i f (f.rung opened startedAtMs nowMs i rung) new := by
  have hnone : (∀ k r, [rung][k]? = some r → r.afterMs ≤ nowMs - startedAtMs → i + k ∈ f.fired) →
      Passes opened startedAtMs nowMs [rung] i f f [] := by
    intro hcomplete
    constructor
    · simp
    · simp
    · exact List.nodup_nil
    · exact nofun
    · exact hcomplete
    · exact SameQueue.refl _
    · intro sends h
      simpa using h
  unfold Firing.rung
  by_cases hfired : i ∈ f.fired
  · rw [if_pos hfired]
    refine ⟨[], hnone ?_⟩
    intro k r hk _
    obtain ⟨rfl, -⟩ : k = 0 ∧ rung = r := by
      cases k with
      | zero => exact ⟨rfl, Option.some.inj hk⟩
      | succ k => cases hk
    exact hfired
  · rw [if_neg hfired]
    by_cases hearly : nowMs - startedAtMs < rung.afterMs
    · rw [if_pos hearly]
      refine ⟨[], hnone ?_⟩
      intro k r hk hdue
      cases k with
      | zero =>
          obtain rfl := Option.some.inj hk
          exact absurd hdue (not_le.mpr hearly)
      | succ k => cases hk
    · rw [if_neg hearly]
      have hqueue := admitSend_queue f.engine rung.channel nowMs
      have haccounts := fun sends h => @admit_admits f.engine sends nowMs h rung.channel
      have hspent : ∀ {engine action passed}, ∀ k r, [rung][k]? = some r → r.afterMs ≤ nowMs - startedAtMs →
          i + k ∈ (Firing.mk engine (insert i f.fired) (passed ++ [(i, action)])).fired := by
        intro _ _ _ k r hk _
        cases k with
        | zero => exact Finset.mem_insert_self _ _
        | succ k => cases hk
      generalize f.engine.admitSend rung.channel nowMs = admitted at hqueue haccounts
      obtain ⟨verdict, engine⟩ := admitted
      cases verdict with
      | capped =>
          refine ⟨[(i, .standDown (windowIdsOf opened) .capHit)], ?_⟩
          constructor
          · rfl
          · ext j
            simp
          · simp
          · intro j a hmem
            obtain ⟨rfl, rfl⟩ := Prod.mk.inj (List.mem_singleton.mp hmem)
            exact ⟨hfired, 0, rung, rfl, rfl, not_lt.mp hearly, .inr rfl⟩
          · exact hspent
          · exact hqueue
          · intro sends h
            cases haccounts sends h with
            | capped _ accounts => simpa using accounts
      | sent =>
          refine ⟨[(i, .send rung.channel (alertFor opened))], ?_⟩
          constructor
          · rfl
          · ext j
            simp
          · simp
          · intro j a hmem
            obtain ⟨rfl, rfl⟩ := Prod.mk.inj (List.mem_singleton.mp hmem)
            exact ⟨hfired, 0, rung, rfl, rfl, not_lt.mp hearly, .inl rfl⟩
          · exact hspent
          · exact hqueue
          · intro sends h
            cases haccounts sends h with
            | sent _ accounts => simpa using accounts

/-- A pass over the first rung and one over the rest are a pass over both. -/
theorem Passes.cons (h : Passes opened startedAtMs nowMs [rung] i f f' new)
    (h' : Passes opened startedAtMs nowMs rungs (i + 1) f' f'' new') :
    Passes opened startedAtMs nowMs (rung :: rungs) i f f'' (new ++ new') := by
  constructor
  · rw [h'.passed, h.passed, List.append_assoc]
  · rw [h'.fired, h.fired, List.map_append, List.toFinset_append, Finset.union_assoc]
  · rw [List.map_append, List.nodup_append]
    refine ⟨h.nodup, h'.nodup, ?_⟩
    rintro j hj k hk rfl
    obtain ⟨⟨_, a⟩, hmem, rfl⟩ := List.mem_map.mp hk
    have hfresh := (h'.sound _ _ hmem).1
    rw [h.fired, Finset.mem_union, List.mem_toFinset] at hfresh
    exact hfresh (.inr hj)
  · intro j a hmem
    rcases List.mem_append.mp hmem with hmem | hmem
    · obtain ⟨hfresh, k, r, rfl, hk, hrest⟩ := h.sound j a hmem
      obtain ⟨rfl, rfl⟩ : k = 0 ∧ rung = r := by
        cases k with
        | zero => exact ⟨rfl, Option.some.inj hk⟩
        | succ k => cases hk
      exact ⟨hfresh, 0, rung, rfl, rfl, hrest⟩
    · obtain ⟨hfresh, k, r, rfl, hk, hrest⟩ := h'.sound j a hmem
      rw [h.fired, Finset.mem_union, not_or] at hfresh
      exact ⟨hfresh.1, k + 1, r, by omega, hk, hrest⟩
  · intro k r hk hdue
    cases k with
    | zero =>
        rw [h'.fired, Finset.mem_union]
        exact .inl (h.complete 0 r hk hdue)
    | succ k =>
        have hspent := h'.complete k r hk hdue
        rwa [Nat.add_right_comm, Nat.add_assoc] at hspent
  · exact h.queue.trans h'.queue
  · intro sends haccounts
    rw [List.map_append, sentBy_append, ← List.append_assoc]
    exact h'.accounts _ (h.accounts sends haccounts)

/-- The loop, by induction on the rungs that are left. -/
theorem fireRungs_passes (opened : List TrackedWindow) (startedAtMs nowMs : ℚ) (rungs : List LadderRung) (i : Nat)
    (f : Firing) :
    ∃ new, Passes opened startedAtMs nowMs rungs i f (fireRungs opened startedAtMs nowMs rungs i f) new := by
  induction rungs generalizing i f with
  | nil =>
      refine ⟨[], ?_⟩
      constructor
      · simp [fireRungs]
      · simp [fireRungs]
      · exact List.nodup_nil
      · exact nofun
      · exact nofun
      · exact SameQueue.refl _
      · intro sends h
        simpa [fireRungs] using h
  | cons rung rungs ih =>
      obtain ⟨new, hturn⟩ := rung_passes opened startedAtMs nowMs f i rung
      obtain ⟨new', hrest⟩ := ih (i + 1) (f.rung opened startedAtMs nowMs i rung)
      exact ⟨new ++ new', hturn.cons hrest⟩

theorem dropClosed_values (run : LadderRun) : (dropClosed run).1.windows.values = run.open := by
  unfold dropClosed LadderRun.open
  dsimp only
  by_cases hclosed : (run.windows.values.filter fun w => w.closed).isEmpty = true
  · rw [if_pos hclosed]
    rw [List.isEmpty_iff, List.filter_eq_nil_iff] at hclosed
    exact (List.filter_eq_self.mpr fun w hw => by simpa using hclosed w hw).symm
  · rw [if_neg hclosed]
    show (run.windows.entries.filter fun e => !e.2.closed).map Prod.snd =
      (run.windows.entries.map Prod.snd).filter fun w => !w.closed
    exact (List.filter_map (p := fun w : TrackedWindow => !w.closed) (f := Prod.snd)).symm

@[simp] theorem dropClosed_open (run : LadderRun) : (dropClosed run).1.open = run.open := by
  have hvalues := dropClosed_values run
  unfold LadderRun.open at hvalues ⊢
  rw [hvalues, List.filter_filter]
  simp

@[simp] theorem dropClosed_fired (run : LadderRun) : (dropClosed run).1.fired = run.fired := by
  unfold dropClosed
  dsimp only
  split_ifs <;> rfl

@[simp] theorem dropClosed_startedAtMs (run : LadderRun) : (dropClosed run).1.startedAtMs = run.startedAtMs := by
  unfold dropClosed
  dsimp only
  split_ifs <;> rfl

/-- The stand-downs of windows that were closed. -/
theorem dropClosed_actions (run : LadderRun) {a : LadderAction} (h : a ∈ (dropClosed run).2) :
    ∃ ids, a = .standDown ids .windowClosed := by
  unfold dropClosed at h
  dsimp only at h
  split_ifs at h
  · cases h
  · exact ⟨_, List.mem_singleton.mp h⟩

theorem dropClosed_size (run : LadderRun) : (dropClosed run).1.windows.size = 0 ↔ run.open = [] := by
  rw [← dropClosed_values run, ← List.length_eq_zero_iff]
  unfold JsMap.values JsMap.size
  rw [List.length_map]

/-- What a tick comes to: no run is live, the run ends with its last window, every open window is confirmed,
    or the rungs fire. -/
inductive Ticked (e : LadderEngine) (nowMs : ℚ) : LadderEngine × List LadderAction × List (Nat × LadderAction) → Prop
    where
  | idle (norun : e.run = none) : Ticked e nowMs ({ e with pending := [] }, e.pending, [])
  | ended {run : LadderRun} (live : e.run = some run) (gone : run.open = []) :
      Ticked e nowMs ({ e with pending := [], run := none }, e.pending ++ (dropClosed (arm run nowMs)).2, [])
  | calm {run : LadderRun} {stood : List LadderAction} (live : e.run = some run) (some : run.open ≠ [])
      (confirmed : ∀ w ∈ run.open, w.delivered = true)
      (stands : stood = if (List.range e.rungs.length).any (fun i => i ∉ run.fired)
        then [.standDown (windowIdsOf run.open) .confirmed] else []) :
      Ticked e nowMs
        ({ e with
            pending := []
            run := Option.some ⟨run.startedBy nowMs, run.fired ∪ Finset.range e.rungs.length,
              (dropClosed (arm run nowMs)).1.windows⟩ },
          e.pending ++ (dropClosed (arm run nowMs)).2 ++ stood, [])
  | fired {run : LadderRun} {f : Firing} (live : e.run = some run)
      (unconfirmed : ∃ w ∈ run.open, w.delivered = false)
      (passes : Passes run.open (run.startedBy nowMs) nowMs e.rungs 0 ⟨{ e with pending := [] }, run.fired, []⟩ f
        f.passed) :
      Ticked e nowMs
        ({ f.engine with
            run := Option.some ⟨run.startedBy nowMs, f.fired, (dropClosed (arm run nowMs)).1.windows⟩ },
          e.pending ++ (dropClosed (arm run nowMs)).2 ++ f.passed.map Prod.snd, f.passed)

/-- A calm run has open windows, all of them delivered. -/
theorem calm_iff {run : LadderRun} : calm run = true ↔ run.open ≠ [] ∧ ∀ w ∈ run.open, w.delivered = true := by
  unfold calm
  simp

/-- A tick is one of the cases. -/
theorem tickPassed_ticked (e : LadderEngine) (nowMs : ℚ) : Ticked e nowMs (e.tickPassed nowMs) := by
  unfold tickPassed
  generalize hdrained : { e with pending := [] } = drained
  cases hrun : e.run with
  | none =>
      rw [← hdrained]
      exact .idle hrun
  | some run =>
      rw [← hdrained]
      dsimp only
      have hopen : (dropClosed (arm run nowMs)).1.open = run.open := dropClosed_open (arm run nowMs)
      have hsize := dropClosed_size (arm run nowMs)
      by_cases hgone : run.open = []
      · rw [if_pos (hsize.mpr hgone)]
        exact .ended hrun hgone
      · rw [if_neg fun h => hgone (hsize.mp h)]
        unfold tickRun
        dsimp only
        rw [dropClosed_fired, dropClosed_startedAtMs, hopen]
        by_cases hcalm : calm (dropClosed (arm run nowMs)).1 = true
        · rw [if_pos hcalm]
          rw [calm_iff, hopen] at hcalm
          dsimp only
          exact .calm hrun hcalm.1 hcalm.2 rfl
        · rw [if_neg hcalm]
          dsimp only
          rw [calm_iff, hopen] at hcalm
          have hunconfirmed : ∃ w ∈ run.open, w.delivered = false := by
            by_contra hnone
            push Not at hnone
            exact hcalm ⟨hgone, fun w hw => Bool.eq_true_of_not_eq_false (hnone w hw)⟩
          obtain ⟨new, hpasses⟩ := fireRungs_passes run.open (run.startedBy nowMs) nowMs e.rungs 0
            ⟨{ e with pending := [] }, run.fired, []⟩
          have hnew := hpasses.passed
          rw [List.nil_append] at hnew
          rw [← hnew] at hpasses
          exact .fired hrun hunconfirmed hpasses

/-! ### What one call keeps -/

/-- Only relays wait in the queue. -/
def Queued (e : LadderEngine) : Prop :=
  ∀ a ∈ e.pending, ∃ ids channel attribution, a = .relayVeto ids channel attribution

/-- The rungs that a call fires or skips. -/
def spends (e : LadderEngine) : LadderOp → List Nat
  | .tick nowMs =>
      match e.run with
      | none => []
      | some run =>
          if run.open = [] then []
          else if calm run then (List.range e.rungs.length).filter fun i => i ∉ run.fired
          else (e.tickPassed nowMs).2.2.map Prod.fst
  | _ => []

/-- A queue holds no sends. -/
theorem Queued.sentBy (h : Queued e) (nowMs : ℚ) : sentBy nowMs e.pending = [] := by
  unfold OwnerSwitch.sentBy
  have hnone : e.pending.filterMap LadderAction.sentOn = [] := by
    rw [List.filterMap_eq_nil_iff]
    intro a ha
    obtain ⟨ids, channel, attribution, rfl⟩ := h a ha
    rfl
  rw [hnone]
  rfl

theorem sentBy_dropClosed (run : LadderRun) (nowMs : ℚ) : sentBy nowMs (dropClosed run).2 = [] := by
  unfold sentBy
  have hnone : (dropClosed run).2.filterMap LadderAction.sentOn = [] := by
    rw [List.filterMap_eq_nil_iff]
    intro a ha
    obtain ⟨ids, rfl⟩ := dropClosed_actions run ha
    rfl
  rw [hnone]
  rfl

/-- No operation changes the configuration. -/
theorem after_config (e : LadderEngine) (op : LadderOp) : SameConfig e (e.after op) := by
  cases op with
  | windowOpened windowId headline deadlineMs =>
      unfold after windowOpened
      dsimp only
      split
      · split <;> exact ⟨rfl, rfl, rfl⟩
      · exact ⟨rfl, rfl, rfl⟩
  | windowDelivered => exact ⟨rfl, rfl, rfl⟩
  | windowClosed => exact ⟨rfl, rfl, rfl⟩
  | windowDeadline => exact ⟨rfl, rfl, rfl⟩
  | channelEvent event =>
      cases event with
      | evidence => exact ⟨rfl, rfl, rfl⟩
      | veto ids channel attribution =>
          unfold after channelEvent
          dsimp only
          split <;> exact ⟨rfl, rfl, rfl⟩
  | tick nowMs =>
      have hticked := tickPassed_ticked e nowMs
      unfold after tick
      dsimp only
      generalize e.tickPassed nowMs = ticked at hticked
      cases hticked with
      | idle => exact ⟨rfl, rfl, rfl⟩
      | ended => exact ⟨rfl, rfl, rfl⟩
      | calm => exact ⟨rfl, rfl, rfl⟩
      | fired _ _ passes => exact ⟨passes.queue.rungs, passes.queue.limits, passes.queue.costUsd⟩

/-- No operation queues a send. -/
theorem Queued.after (h : Queued e) (op : LadderOp) : Queued (e.after op) := by
  cases op with
  | windowOpened windowId headline deadlineMs =>
      unfold LadderEngine.after windowOpened
      dsimp only
      split
      · split <;> exact h
      · exact h
  | windowDelivered => exact h
  | windowClosed => exact h
  | windowDeadline => exact h
  | channelEvent event =>
      cases event with
      | evidence => exact h
      | veto ids channel attribution =>
          unfold LadderEngine.after channelEvent
          dsimp only
          split
          · exact h
          · intro a ha
            rcases List.mem_append.mp ha with ha | ha
            · exact h a ha
            · exact ⟨_, _, _, List.mem_singleton.mp ha⟩
  | tick nowMs =>
      have hticked := tickPassed_ticked e nowMs
      unfold LadderEngine.after tick
      dsimp only
      generalize e.tickPassed nowMs = ticked at hticked
      cases hticked with
      | idle =>
          intro a ha
          cases ha
      | ended =>
          intro a ha
          cases ha
      | calm =>
          intro a ha
          cases ha
      | fired _ _ passes =>
          intro a ha
          change a ∈ _ at ha
          rw [show _ = _ from passes.queue.pending] at ha
          cases ha

/-- A tick relays what was queued, and then stands down or sends. -/
theorem tick_actions (e : LadderEngine) (nowMs : ℚ) :
    ∃ rest, (e.tick nowMs).2 = e.pending ++ rest ∧
      ∀ a ∈ rest, (∃ ids reason, a = .standDown ids reason) ∨ ∃ channel alert, a = .send channel alert := by
  have hticked := tickPassed_ticked e nowMs
  unfold tick
  dsimp only
  generalize e.tickPassed nowMs = ticked at hticked
  cases hticked with
  | idle => exact ⟨[], (List.append_nil _).symm, nofun⟩
  | @ended run =>
      refine ⟨_, rfl, ?_⟩
      intro a ha
      obtain ⟨ids, rfl⟩ := dropClosed_actions _ ha
      exact .inl ⟨ids, _, rfl⟩
  | calm live some confirmed stands =>
      refine ⟨_, List.append_assoc _ _ _, ?_⟩
      intro a ha
      rcases List.mem_append.mp ha with ha | ha
      · obtain ⟨ids, rfl⟩ := dropClosed_actions _ ha
        exact .inl ⟨ids, _, rfl⟩
      · rw [stands] at ha
        split at ha
        · exact .inl ⟨_, _, List.mem_singleton.mp ha⟩
        · cases ha
  | fired live unconfirmed passes =>
      refine ⟨_, List.append_assoc _ _ _, ?_⟩
      intro a ha
      rcases List.mem_append.mp ha with ha | ha
      · obtain ⟨ids, rfl⟩ := dropClosed_actions _ ha
        exact .inl ⟨ids, _, rfl⟩
      · obtain ⟨⟨j, a⟩, hmem, rfl⟩ := List.mem_map.mp ha
        obtain ⟨-, k, rung, -, -, -, haction⟩ := passes.sound j a hmem
        rcases haction with rfl | rfl
        · exact .inr ⟨_, _, rfl⟩
        · exact .inl ⟨_, _, rfl⟩

/-- A call whose time has come keeps the accounts. -/
theorem Accounts.after (h : Accounts sends e now) (hqueued : Queued e) (op : LadderOp)
    (henabled : (LadderState.mk e now).enabled op = true) :
    Accounts (sends ++ sentBy ((LadderState.mk e now).after op).clock (e.actions op)) (e.after op)
      ((LadderState.mk e now).after op).clock := by
  cases op with
  | windowOpened windowId headline deadlineMs =>
      have hconfig := after_config e (.windowOpened windowId headline deadlineMs)
      show Accounts (sends ++ []) _ now
      rw [List.append_nil]
      apply h.of_eq hconfig <;> unfold LadderEngine.after windowOpened <;> dsimp only <;> split <;>
        first | rfl | (split <;> rfl)
  | windowDelivered windowId =>
      show Accounts (sends ++ []) _ now
      rw [List.append_nil]
      exact h.of_eq ⟨rfl, rfl, rfl⟩ rfl rfl rfl rfl
  | windowClosed windowId =>
      show Accounts (sends ++ []) _ now
      rw [List.append_nil]
      exact h.of_eq ⟨rfl, rfl, rfl⟩ rfl rfl rfl rfl
  | windowDeadline windowId deadlineMs =>
      show Accounts (sends ++ []) _ now
      rw [List.append_nil]
      exact h.of_eq ⟨rfl, rfl, rfl⟩ rfl rfl rfl rfl
  | channelEvent event =>
      have hconfig := after_config e (.channelEvent event)
      show Accounts (sends ++ []) _ now
      rw [List.append_nil]
      cases event with
      | evidence => exact h
      | veto ids channel attribution =>
          apply h.of_eq hconfig <;> unfold LadderEngine.after channelEvent <;> dsimp only <;> split <;> rfl
  | tick nowMs =>
      have hlater : now ≤ nowMs := of_decide_eq_true henabled
      replace h := h.later hlater
      have hticked := tickPassed_ticked e nowMs
      show Accounts (sends ++ sentBy nowMs (e.tick nowMs).2) (e.tick nowMs).1 nowMs
      unfold tick
      dsimp only
      generalize e.tickPassed nowMs = ticked at hticked
      cases hticked with
      | idle =>
          rw [hqueued.sentBy, List.append_nil]
          exact h.of_eq ⟨rfl, rfl, rfl⟩ rfl rfl rfl rfl
      | ended =>
          rw [sentBy_append, hqueued.sentBy, sentBy_dropClosed, List.append_nil, List.append_nil]
          exact h.of_eq ⟨rfl, rfl, rfl⟩ rfl rfl rfl rfl
      | calm live some confirmed stands =>
          have hstood : ∀ {stood : List LadderAction} {c : Prop} [Decidable c] {ids : List JsString},
              (stood = if c then [.standDown ids .confirmed] else []) → sentBy nowMs stood = [] := by
            rintro _ _ _ _ rfl
            split <;> rfl
          rw [sentBy_append, sentBy_append, hqueued.sentBy, sentBy_dropClosed, hstood stands, List.append_nil,
            List.append_nil, List.append_nil]
          exact h.of_eq ⟨rfl, rfl, rfl⟩ rfl rfl rfl rfl
      | fired live unconfirmed passes =>
          rw [sentBy_append, sentBy_append, hqueued.sentBy, sentBy_dropClosed, List.nil_append, List.nil_append]
          have hbefore : Accounts sends { e with pending := [] } nowMs :=
            h.of_eq ⟨rfl, rfl, rfl⟩ rfl rfl rfl rfl
          exact (passes.accounts sends hbefore).of_eq ⟨rfl, rfl, rfl⟩ rfl rfl rfl rfl

/-! ### The spent rungs -/

/-- The spent rungs of a run after a call: those before it and those the call fired or skipped, none of them
    twice. -/
structure Spent (e : LadderEngine) (op : LadderOp) (run run' : LadderRun) : Prop where
  fired : ∀ i, i ∈ run'.fired ↔ i ∈ run.fired ∨ i ∈ e.spends op
  nodup : (e.spends op).Nodup
  fresh : ∀ i ∈ e.spends op, i ∉ run.fired

/-- An operation that spends no rung leaves them as they were. -/
theorem Spent.of_eq {op : LadderOp} {run run' : LadderRun} (hspends : e.spends op = []) (h : run'.fired = run.fired) :
    Spent e op run run' where
  fired := fun i => by rw [hspends, h]; simp
  nodup := by rw [hspends]; exact List.nodup_nil
  fresh := by rw [hspends]; exact nofun

theorem update_fired (run : LadderRun) (windowId : JsString) (g : TrackedWindow → TrackedWindow) :
    (run.update windowId g).fired = run.fired := by
  unfold LadderRun.update
  split <;> rfl

/-- A channel event leaves the run of the ladder. -/
theorem channelEvent_run (event : ChannelEvent) : (e.channelEvent event).run = e.run := by
  cases event with
  | evidence => rfl
  | veto ids channel attribution =>
      unfold channelEvent
      dsimp only
      split <;> rfl

/-- A tick leaves the open windows of a run that outlives it. -/
theorem tick_open {run run' : LadderRun} (hrun : e.run = some run) (hrun' : (e.tick nowMs).1.run = some run') :
    run'.open = run.open := by
  have hticked := tickPassed_ticked e nowMs
  have hwindows : ∀ (started : ℚ) (fired : Finset Nat),
      (LadderRun.mk started fired (dropClosed (arm run nowMs)).1.windows).open = run.open :=
    fun _ _ => dropClosed_open (arm run nowMs)
  unfold tick at hrun'
  dsimp only at hrun'
  generalize e.tickPassed nowMs = ticked at hticked hrun'
  cases hticked with
  | idle norun =>
      rw [norun] at hrun
      cases hrun
  | ended => cases hrun'
  | calm live =>
      rw [hrun] at live
      obtain rfl := Option.some.inj live
      rw [← Option.some.inj hrun']
      exact hwindows _ _
  | fired live =>
      rw [hrun] at live
      obtain rfl := Option.some.inj live
      rw [← Option.some.inj hrun']
      exact hwindows _ _

/-- A run that outlives a call. -/
theorem after_spent {op : LadderOp} {run run' : LadderRun} (hrun : e.run = some run)
    (hrun' : (e.after op).run = some run') : Spent e op run run' := by
  cases op with
  | windowOpened windowId headline deadlineMs =>
      apply Spent.of_eq rfl
      unfold after windowOpened at hrun'
      rw [hrun] at hrun'
      dsimp only at hrun'
      split at hrun'
      · rw [hrun] at hrun'
        rw [Option.some.inj hrun']
      · rw [← Option.some.inj hrun']
  | windowDelivered windowId =>
      apply Spent.of_eq rfl
      unfold after windowDelivered at hrun'
      rw [hrun] at hrun'
      rw [← Option.some.inj hrun', update_fired]
  | windowClosed windowId =>
      apply Spent.of_eq rfl
      unfold after windowClosed at hrun'
      rw [hrun] at hrun'
      rw [← Option.some.inj hrun', update_fired]
  | windowDeadline windowId deadlineMs =>
      apply Spent.of_eq rfl
      unfold after windowDeadline at hrun'
      rw [hrun] at hrun'
      rw [← Option.some.inj hrun', update_fired]
  | channelEvent event =>
      apply Spent.of_eq rfl
      rw [show (e.after (.channelEvent event)).run = e.run from channelEvent_run event, hrun] at hrun'
      rw [Option.some.inj hrun']
  | tick nowMs =>
      have hticked := tickPassed_ticked e nowMs
      unfold after tick at hrun'
      dsimp only at hrun'
      have hspends : e.spends (.tick nowMs) = if run.open = [] then []
          else if calm run then (List.range e.rungs.length).filter fun i => i ∉ run.fired
          else (e.tickPassed nowMs).2.2.map Prod.fst := by
        simp only [spends, hrun]
      generalize e.tickPassed nowMs = ticked at hticked hrun' hspends
      cases hticked with
      | idle norun =>
          rw [norun] at hrun
          cases hrun
      | ended => cases hrun'
      | calm live some confirmed stands =>
          rw [hrun] at live
          obtain rfl := Option.some.inj live
          obtain rfl := Option.some.inj hrun'
          rw [if_neg some, if_pos (calm_iff.mpr ⟨some, confirmed⟩)] at hspends
          constructor
          · intro i
            rw [hspends, List.mem_filter, List.mem_range, decide_eq_true_eq, Finset.mem_union, Finset.mem_range]
            tauto
          · rw [hspends]
            exact List.nodup_range.filter _
          · intro i hi
            rw [hspends, List.mem_filter, decide_eq_true_eq] at hi
            exact hi.2
      | fired live unconfirmed passes =>
          rw [hrun] at live
          obtain rfl := Option.some.inj live
          obtain rfl := Option.some.inj hrun'
          have hopen : run.open ≠ [] := by
            obtain ⟨w, hw, -⟩ := unconfirmed
            exact List.ne_nil_of_mem hw
          have hcalm : ¬ calm run = true := by
            rw [calm_iff]
            rintro ⟨-, hall⟩
            obtain ⟨w, hw, hfalse⟩ := unconfirmed
            rw [hall w hw] at hfalse
            cases hfalse
          rw [if_neg hopen, if_neg hcalm] at hspends
          constructor
          · intro i
            rw [hspends]
            show i ∈ _ ↔ _
            rw [passes.fired, Finset.mem_union, List.mem_toFinset]
          · rw [hspends]
            exact passes.nodup
          · intro i hi
            rw [hspends] at hi
            obtain ⟨⟨j, a⟩, hmem, rfl⟩ := List.mem_map.mp hi
            exact (passes.sound j a hmem).1

/-- A run that a call starts has spent nothing, and the call is the opening of its first window. -/
theorem after_starts {op : LadderOp} {run' : LadderRun} (hrun : e.run = none) (hrun' : (e.after op).run = some run') :
    run'.fired = ∅ ∧ ∃ windowId headline deadlineMs, op = .windowOpened windowId headline deadlineMs := by
  cases op with
  | windowOpened windowId headline deadlineMs =>
      unfold after windowOpened at hrun'
      rw [hrun] at hrun'
      rw [← Option.some.inj hrun']
      exact ⟨rfl, _, _, _, rfl⟩
  | windowDelivered windowId =>
      unfold after windowDelivered at hrun'
      rw [hrun] at hrun'
      cases hrun'
  | windowClosed windowId =>
      unfold after windowClosed at hrun'
      rw [hrun] at hrun'
      cases hrun'
  | windowDeadline windowId deadlineMs =>
      unfold after windowDeadline at hrun'
      rw [hrun] at hrun'
      cases hrun'
  | channelEvent event =>
      rw [show (e.after (.channelEvent event)).run = e.run from channelEvent_run event, hrun] at hrun'
      cases hrun'
  | tick nowMs =>
      have hticked := tickPassed_ticked e nowMs
      unfold after tick at hrun'
      dsimp only at hrun'
      generalize e.tickPassed nowMs = ticked at hticked hrun'
      cases hticked with
      | idle norun =>
          change e.run = some run' at hrun'
          rw [hrun] at hrun'
          cases hrun'
      | ended => cases hrun'
      | calm live =>
          rw [hrun] at live
          cases live
      | fired live =>
          rw [hrun] at live
          cases live

/-- A call that ends the run fires and skips nothing. -/
theorem spends_ended {op : LadderOp} {run : LadderRun} (hrun : e.run = some run) (hended : (e.after op).run = none) :
    e.spends op = [] := by
  cases op with
  | tick nowMs =>
      have hticked := tickPassed_ticked e nowMs
      unfold after tick at hended
      dsimp only at hended
      simp only [spends, hrun]
      generalize e.tickPassed nowMs = ticked at hticked hended
      cases hticked with
      | idle norun =>
          rw [norun] at hrun
          cases hrun
      | ended live gone =>
          rw [hrun] at live
          obtain rfl := Option.some.inj live
          rw [if_pos gone]
      | calm => cases hended
      | fired => cases hended
  | _ => rfl

end LadderEngine

/-! ### What a run keeps -/

/-- The rungs a step fires or skips. -/
def LadderEdge.spends (x : LadderEdge) : List Nat :=
  x.src.engine.spends x.label

/-- The steps of the run of rungs that is live at the end of `es`: those since its first window opened. -/
def stormOf (es : List LadderEdge) : List LadderEdge :=
  es.rtakeWhile fun x => x.src.engine.run.isSome

section Runs

variable {opts : LadderEngineOptions} {engine : LadderEngine} {es : List LadderEdge} {t : LadderState}

/-- A step in a storm belongs to it. -/
theorem stormOf_snoc_live {x : LadderEdge} {run : LadderRun} (h : x.src.engine.run = some run) :
    stormOf (es ++ [x]) = stormOf es ++ [x] := by
  unfold stormOf
  rw [List.rtakeWhile_concat_pos _ _ _ (by rw [h]; rfl)]

/-- A step without a run ends the storm. -/
theorem stormOf_snoc_idle {x : LadderEdge} (h : x.src.engine.run = none) : stormOf (es ++ [x]) = [] := by
  unfold stormOf
  rw [List.rtakeWhile_concat_neg _ _ _ (by rw [h]; simp)]

/-- The steps of a storm are steps of the run. -/
theorem mem_of_mem_stormOf {x : LadderEdge} (h : x ∈ stormOf es) : x ∈ es :=
  (List.rtakeWhile_suffix _ _).subset h

/-- A ladder starts idle, with nothing queued and nothing spent. -/
theorem make_ok (h : LadderEngine.make opts = .ok engine) :
    engine.run = none ∧ engine.pending = [] ∧
      ∀ now, engine.Accounts [] now := by
  unfold LadderEngine.make at h
  dsimp only at h
  split_ifs at h with _ hvoice hsms hspend
  obtain rfl := Except.ok.inj h
  rw [Bool.not_eq_true] at hvoice hsms hspend
  refine ⟨rfl, rfl, fun now => ?_⟩
  constructor
  · exact ⟨hvoice, hsms, hspend⟩
  · exact Keeps.nil _ _
  · exact AtMost.nil _ _
  · exact Keeps.nil _ _
  · exact AtMost.nil _ _
  · exact Charged.nil _ _
  · intro _ day
    obtain ⟨cap, hrep, hlimit, hnonneg⟩ := LadderEngine.finite_of_sense hspend
    rw [hlimit]
    exact .nil hnonneg

/-- Over a run the configuration stays, only relays are queued, and the accounts are those of everything sent. -/
theorem exec_accounts (hmake : LadderEngine.make opts = .ok engine) (h : (ladderRuns engine).Exec es t) :
    engine.SameConfig t.engine ∧ t.engine.Queued ∧ t.engine.Accounts (allSends es) t.clock := by
  obtain ⟨-, hpending, haccounts⟩ := make_ok hmake
  refine h.induct (I := fun es t => engine.SameConfig t.engine ∧ t.engine.Queued ∧
    t.engine.Accounts (allSends es) t.clock) ?_ ?_
  · rintro s hs
    rw [show s.engine = engine from hs]
    refine ⟨⟨rfl, rfl, rfl⟩, ?_, haccounts _⟩
    intro a ha
    rw [hpending] at ha
    cases ha
  · rintro es s op t - ⟨hconfig, hqueued, hs⟩ ⟨henabled, rfl⟩
    refine ⟨hconfig.trans (LadderEngine.after_config _ op), hqueued.after op, ?_⟩
    have hafter := hs.after hqueued op henabled
    unfold allSends
    rw [List.flatMap_append, List.flatMap_singleton]
    exact hafter

/-- The spent rungs of the live run are the ones its steps fired or skipped. -/
theorem exec_fired (hmake : LadderEngine.make opts = .ok engine) (h : (ladderRuns engine).Exec es t)
    {run : LadderRun} (hrun : t.engine.run = some run) (i : Nat) :
    i ∈ run.fired ↔ ∃ d ∈ stormOf es, i ∈ d.spends := by
  revert run
  refine h.induct (I := fun es t => ∀ {run : LadderRun}, t.engine.run = some run →
    (i ∈ run.fired ↔ ∃ d ∈ stormOf es, i ∈ d.spends)) ?_ ?_
  · intro s hs run hrun
    rw [show s.engine = engine from hs, (make_ok hmake).1] at hrun
    cases hrun
  · rintro es s op t - ih ⟨henabled, rfl⟩ run' hrun'
    cases hrun : s.engine.run with
    | none =>
        obtain ⟨hempty, -⟩ := LadderEngine.after_starts hrun hrun'
        rw [stormOf_snoc_idle hrun, hempty]
        simp
    | some run =>
        have hspent := LadderEngine.after_spent hrun hrun'
        rw [stormOf_snoc_live hrun, hspent.fired, ih hrun]
        constructor
        · rintro (⟨d, hd, hi⟩ | hi)
          · exact ⟨d, List.mem_append_left _ hd, hi⟩
          · exact ⟨_, List.mem_append_right _ (List.mem_singleton_self _), hi⟩
        · rintro ⟨d, hd, hi⟩
          rcases List.mem_append.mp hd with hd | hd
          · exact .inl ⟨d, hd, hi⟩
          · obtain rfl := List.mem_singleton.mp hd
            exact .inr hi

end Runs

end OwnerSwitch
