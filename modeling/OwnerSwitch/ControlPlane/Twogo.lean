/-
Module: OwnerSwitch.ControlPlane.Twogo
Layer: ControlPlane
Purpose: The restore ceremony: a mandatory pause after the first GO, a bound on the whole, and a second GO
  that is accepted once.
Imports: ControlPlane.Kill
Trusted boundary: times are exact
Main exports: RestoreCeremony, tick, confirm, tick_ready, confirm_cases
Open obligations: none
-/
import OwnerSwitch.ControlPlane.Kill

namespace OwnerSwitch

inductive CeremonyState where
  | go1 | ready | completed | expired
  deriving DecidableEq, Repr

def CeremonyState.text : CeremonyState → JsString
  | .go1 => js "go1"
  | .ready => js "ready"
  | .completed => js "completed"
  | .expired => js "expired"

structure RestoreCeremony where
  ceremonyId : JsString
  ownerId : JsString
  status : CeremonyState
  startedAt : Int
  deriving DecidableEq, Repr

namespace RestoreCeremony

/-- The default of `cooldownMs`. -/
def cooldownMs : Int := 30000

/-- The default of `ttlMs`. -/
def ttlMs : Int := 5 * 60000

/-- A ceremony started now. -/
def start (ceremonyId ownerId : JsString) (now : Int) : RestoreCeremony where
  ceremonyId := ceremonyId
  ownerId := ownerId
  status := .go1
  startedAt := now

variable (c : RestoreCeremony)

def tick (now : Int) : RestoreCeremony :=
  if c.status = .completed || c.status = .expired then c
  else
    let elapsed := now - c.startedAt
    if ttlMs ≤ elapsed then { c with status := .expired }
    else if cooldownMs ≤ elapsed then { c with status := .ready }
    else c

/-- The milliseconds until the second GO unlocks. -/
def cooldownRemainingMs (now : Int) : Int :=
  max 0 (c.startedAt + cooldownMs - now)

def expiresAt : Int :=
  c.startedAt + ttlMs

/-- The ceremony after the second GO, and what it yields unless it is too early or too late. -/
def confirm (now : Int) : RestoreCeremony × Option RestoreAuthorization :=
  let ticked := c.tick now
  if ticked.status = .ready then
    ({ ticked with status := .completed },
      some { ceremonyId := ticked.ceremonyId, ownerId := ticked.ownerId, completedAt := now })
  else (ticked, none)

variable {c} {now : Int}

@[simp] theorem tick_ceremonyId : (c.tick now).ceremonyId = c.ceremonyId := by
  unfold tick
  dsimp only
  split_ifs <;> rfl

@[simp] theorem tick_ownerId : (c.tick now).ownerId = c.ownerId := by
  unfold tick
  dsimp only
  split_ifs <;> rfl

@[simp] theorem tick_startedAt : (c.tick now).startedAt = c.startedAt := by
  unfold tick
  dsimp only
  split_ifs <;> rfl

theorem tick_completed : (c.tick now).status = .completed ↔ c.status = .completed := by
  unfold tick
  dsimp only
  split_ifs with hdone
  · exact Iff.rfl
  · simp_all
  · simp_all
  · exact Iff.rfl

/-- A ceremony is ready within its bound, and since its pause ended. -/
theorem tick_ready (h : (c.tick now).status = .ready) :
    c.status ≠ .completed ∧ now - c.startedAt < ttlMs ∧ (c.status = .ready ∨ cooldownMs ≤ now - c.startedAt) := by
  unfold tick at h
  dsimp only at h
  split_ifs at h with hdone httl hcooldown
  · simp_all
  · rw [Bool.or_eq_true, not_or, decide_eq_true_eq, decide_eq_true_eq] at hdone
    exact ⟨hdone.1, not_le.mp httl, .inr hcooldown⟩
  · rw [Bool.or_eq_true, not_or, decide_eq_true_eq, decide_eq_true_eq] at hdone
    exact ⟨hdone.1, not_le.mp httl, .inl h⟩

theorem start_tick (ceremonyId ownerId : JsString) (now : Int) :
    (start ceremonyId ownerId now).tick now = start ceremonyId ownerId now := by
  simp [tick, start, ttlMs, cooldownMs]

/-- What the second GO leaves: the ticked ceremony, or the completed one. -/
theorem confirm_cases (c : RestoreCeremony) (now : Int) :
    c.confirm now = (c.tick now, none) ∨
      ((c.tick now).status = .ready ∧ c.confirm now = ({ c.tick now with status := .completed },
        some { ceremonyId := c.ceremonyId, ownerId := c.ownerId, completedAt := now })) := by
  unfold confirm
  dsimp only
  by_cases hready : (c.tick now).status = .ready
  · rw [if_pos hready, tick_ceremonyId, tick_ownerId]
    exact .inr ⟨hready, rfl⟩
  · rw [if_neg hready]
    exact .inl rfl

end RestoreCeremony

end OwnerSwitch
