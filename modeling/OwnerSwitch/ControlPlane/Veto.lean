/-
Module: OwnerSwitch.ControlPlane.Veto
Layer: ControlPlane
Purpose: The veto window: a call held for the owner, which silence releases only once an owner device has
  confirmed that the alert was seen. The witness check of the release is an argument of every operation
  that advances the window.
Imports: Shared.ToolCall
Trusted boundary: times are exact
Main exports: VetoWindow, tick, markDelivered, revokeDeliveryEvidence, veto, approve, Ticked, SameReview
Open obligations: none
-/
import OwnerSwitch.Shared.ToolCall

namespace OwnerSwitch

/-- `VetoStatus`: what a window itself can be. -/
inductive VetoWindow.Status where
  | pending | vetoed | released | extended | held
  deriving DecidableEq, Repr

/-- `VetoWireStatus`: what a status read may report. -/
inductive VetoWireStatus where
  | ofWindow (status : VetoWindow.Status)
  | spent
  deriving DecidableEq, Repr

/-- Silence may decide a window only while it is open. -/
def VetoWindow.Status.isOpen : VetoWindow.Status → Bool
  | .pending => true
  | .extended => true
  | _ => false

/-- Which device confirmed the alert, under which generation, and when. -/
structure DeliveryEvidence where
  deliveredByDevice : Option JsString
  deliveredByGeneration : Option Nat
  deliveredAt : Int
  deriving DecidableEq, Repr

/-- Who approved, when, and in which kill epoch. -/
structure OwnerApproval where
  approvedBy : JsString
  approvedAt : Int
  approvalEpoch : Nat
  deriving DecidableEq, Repr

/-- `delivered` is present exactly when the delivered bit is set, `approval` exactly when the owner approved. -/
structure VetoWindow where
  call : ToolCall
  killEpoch : Nat
  purpose : Option VetoPurpose
  status : VetoWindow.Status
  delivered : Option DeliveryEvidence
  revision : Nat
  deadline : Int
  releasedAt : Option Int
  approval : Option OwnerApproval
  vetoedBy : Option JsString

/-- What the witness check says of the device named by an ack. -/
abbrev WitnessStanding := Option JsString → Option Nat → Bool

namespace VetoWindow

/-- The default of `windowMs`. -/
def defaultWindowMs : Int := 4 * 60000

/-- The default of `extensionMs`. -/
def defaultExtensionMs : Int := 6 * 60000

/-- A window registered now, under the kill epoch in force. -/
def register (call : ToolCall) (killEpoch : Nat) (purpose : Option VetoPurpose) (now : Int) : VetoWindow where
  call := call
  killEpoch := killEpoch
  purpose := purpose
  status := .pending
  delivered := none
  revision := 1
  deadline := now + defaultWindowMs
  releasedAt := none
  approval := none
  vetoedBy := none

variable (w : VetoWindow)

/-- The first ack wins the attribution. -/
def markDelivered (deviceId : Option JsString) (deviceGeneration : Option Nat) (now : Int) : VetoWindow :=
  match w.delivered with
  | some _ => w
  | none => { w with delivered := some ⟨deviceId, deviceGeneration, now⟩ }

/-- The evidence that still counts at the release decision. -/
def standingEvidence (witnessStanding : WitnessStanding) : Option DeliveryEvidence :=
  w.delivered.filter fun e => witnessStanding e.deliveredByDevice e.deliveredByGeneration

/-- Advances the window; the release happened at the deadline, whenever it is noticed. -/
def tick (witnessStanding : WitnessStanding) (now : Int) : VetoWindow :=
  if !w.status.isOpen then w
  else if now < w.deadline then w
  else
    match w.standingEvidence witnessStanding with
    | some e => { w with delivered := some e, status := .released, releasedAt := some w.deadline }
    | none =>
        if w.status = .pending then
          { w with
            delivered := none, status := .extended, deadline := w.deadline + defaultExtensionMs
            revision := w.revision + 1 }
        else { w with delivered := none, status := .held }

/-- Decides a release that is due, then clears the evidence of the device that was revoked, and says whether it did. -/
def revokeDeliveryEvidence (witnessStanding : WitnessStanding) (now : Int) (deviceId : JsString) : VetoWindow × Bool :=
  let ticked := w.tick witnessStanding now
  if !ticked.status.isOpen then (ticked, false)
  else if ticked.delivered.any fun e => e.deliveredByDevice = some deviceId then
    ({ ticked with delivered := none }, true)
  else (ticked, false)

/-- The text of a status. -/
def Status.text : Status → JsString
  | .pending => js "pending"
  | .vetoed => js "vetoed"
  | .released => js "released"
  | .extended => js "extended"
  | .held => js "held"

/-- One tap from the owner. A purposed window accepts it at any point. -/
def veto («by» : JsString) : Except JsString VetoWindow :=
  if w.status = .vetoed then .error (js "cannot veto in status \"vetoed\"")
  else if w.purpose.isNone && !w.status.isOpen then
    .error (js "cannot veto in status \"" ++ w.status.text ++ js "\"")
  else .ok { w with status := .vetoed, vetoedBy := some «by» }

/-- The owner's active approval, in the kill epoch in force. -/
def approve («by» : JsString) (epoch : Nat) (now : Int) : Except JsString VetoWindow :=
  if w.status = .vetoed then .error (js "cannot approve a vetoed window")
  else
    match w.approval with
    | some _ => .error (js "window already approved")
    | none => .ok { w with approval := some ⟨«by», now, epoch⟩ }

/-! ### What the operations change -/

section

variable {w} {w' : VetoWindow} {witnessStanding : WitnessStanding} {now : Int}

/-- Every way a tick can go: the window is decided or not due, or its deadline decides it. -/
inductive Ticked (w : VetoWindow) (witnessStanding : WitnessStanding) (now : Int) : VetoWindow → Prop where
  | idle (hidle : w.status.isOpen = true → now < w.deadline) : Ticked w witnessStanding now w
  | released (e : DeliveryEvidence) (hopen : w.status.isOpen = true) (hdue : w.deadline ≤ now)
      (hdelivered : w.delivered = some e)
      (hstands : witnessStanding e.deliveredByDevice e.deliveredByGeneration = true) :
      Ticked w witnessStanding now { w with delivered := some e, status := .released, releasedAt := some w.deadline }
  | extended (hpending : w.status = .pending) (hdue : w.deadline ≤ now)
      (hunwitnessed : w.standingEvidence witnessStanding = none) :
      Ticked w witnessStanding now
        { w with
          delivered := none, status := .extended, deadline := w.deadline + defaultExtensionMs
          revision := w.revision + 1 }
  | held (hextended : w.status = .extended) (hdue : w.deadline ≤ now)
      (hunwitnessed : w.standingEvidence witnessStanding = none) :
      Ticked w witnessStanding now { w with delivered := none, status := .held }

theorem ticked (w : VetoWindow) (witnessStanding : WitnessStanding) (now : Int) :
    Ticked w witnessStanding now (w.tick witnessStanding now) := by
  unfold tick
  by_cases hopen : w.status.isOpen = true
  · rw [if_neg (by simp [hopen])]
    by_cases hdue : now < w.deadline
    · rw [if_pos hdue]
      exact .idle fun _ => hdue
    · rw [if_neg hdue]
      cases hevidence : w.standingEvidence witnessStanding with
      | some e =>
          obtain ⟨hdelivered, hstands⟩ := Option.filter_eq_some_iff.mp hevidence
          exact .released e hopen (not_lt.mp hdue) hdelivered hstands
      | none =>
          dsimp only
          split
          · rename_i hpending
            exact .extended hpending (not_lt.mp hdue) hevidence
          · rename_i hpending
            refine .held ?_ (not_lt.mp hdue) hevidence
            cases hstatus : w.status with
            | pending => exact absurd hstatus hpending
            | extended => rfl
            | vetoed => rw [hstatus] at hopen; cases hopen
            | released => rw [hstatus] at hopen; cases hopen
            | held => rw [hstatus] at hopen; cases hopen
  · rw [if_pos (by simpa using hopen)]
    exact .idle fun h => absurd h hopen

/-- A tick keeps what identifies a window and who approved or vetoed it. -/
structure SameReview (w w' : VetoWindow) : Prop where
  call : w'.call = w.call
  killEpoch : w'.killEpoch = w.killEpoch
  purpose : w'.purpose = w.purpose
  approval : w'.approval = w.approval
  vetoed : w'.status = .vetoed ↔ w.status = .vetoed

theorem SameReview.refl (w : VetoWindow) : SameReview w w :=
  ⟨rfl, rfl, rfl, rfl, Iff.rfl⟩

theorem SameReview.trans {w'' : VetoWindow} (h : SameReview w w') (h' : SameReview w' w'') : SameReview w w'' :=
  ⟨h'.call.trans h.call, h'.killEpoch.trans h.killEpoch, h'.purpose.trans h.purpose, h'.approval.trans h.approval,
    h'.vetoed.trans h.vetoed⟩

theorem Status.ne_vetoed_of_isOpen {status : Status} (h : status.isOpen = true) : status ≠ .vetoed := by
  rintro rfl
  cases h

/-- The clock changes nothing that the owner reviews. -/
theorem tick_sameReview (w : VetoWindow) (witnessStanding : WitnessStanding) (now : Int) :
    SameReview w (w.tick witnessStanding now) := by
  have hticked := w.ticked witnessStanding now
  generalize w.tick witnessStanding now = result at hticked ⊢
  cases hticked with
  | idle => exact .refl w
  | released e hopen => exact ⟨rfl, rfl, rfl, rfl, nofun, fun h => absurd h (Status.ne_vetoed_of_isOpen hopen)⟩
  | extended hpending => exact ⟨rfl, rfl, rfl, rfl, nofun, fun h => by rw [hpending] at h; cases h⟩
  | held hextended => exact ⟨rfl, rfl, rfl, rfl, nofun, fun h => by rw [hextended] at h; cases h⟩

theorem tick_approval : (w.tick witnessStanding now).approval = w.approval :=
  (tick_sameReview w witnessStanding now).approval

theorem tick_killEpoch : (w.tick witnessStanding now).killEpoch = w.killEpoch :=
  (tick_sameReview w witnessStanding now).killEpoch

theorem markDelivered_sameReview (w : VetoWindow) (deviceId : Option JsString) (deviceGeneration : Option Nat)
    (now : Int) : SameReview w (w.markDelivered deviceId deviceGeneration now) := by
  unfold markDelivered
  split
  · exact .refl w
  · exact ⟨rfl, rfl, rfl, rfl, Iff.rfl⟩

/-- A revocation ticks, and clears at most the evidence. -/
theorem revokeDeliveryEvidence_cases (w : VetoWindow) (witnessStanding : WitnessStanding) (now : Int)
    (deviceId : JsString) :
    (w.revokeDeliveryEvidence witnessStanding now deviceId).1 = w.tick witnessStanding now ∨
      ((w.tick witnessStanding now).status.isOpen = true ∧
        (w.revokeDeliveryEvidence witnessStanding now deviceId).1 =
          { w.tick witnessStanding now with delivered := none }) := by
  unfold revokeDeliveryEvidence
  dsimp only
  split
  · exact .inl rfl
  · rename_i hopen
    split
    · exact .inr ⟨by simpa using hopen, rfl⟩
    · exact .inl rfl

/-- Revoking a device changes nothing that the owner reviews. -/
theorem revokeDeliveryEvidence_sameReview (w : VetoWindow) (witnessStanding : WitnessStanding) (now : Int)
    (deviceId : JsString) : SameReview w (w.revokeDeliveryEvidence witnessStanding now deviceId).1 := by
  have hticked := w.tick_sameReview witnessStanding now
  rcases w.revokeDeliveryEvidence_cases witnessStanding now deviceId with hrevoked | ⟨-, hrevoked⟩
  · rw [hrevoked]
    exact hticked
  · rw [hrevoked]
    exact ⟨hticked.call, hticked.killEpoch, hticked.purpose, hticked.approval, hticked.vetoed⟩

/-- A veto that is accepted closes the window in its owner's name. -/
theorem veto_ok {«by» : JsString} (h : w.veto «by» = .ok w') :
    w' = { w with status := .vetoed, vetoedBy := some «by» } := by
  unfold veto at h
  split at h
  · cases h
  · split at h
    · cases h
    · exact (Except.ok.inj h).symm

/-- An approval is accepted once, and never of a vetoed window. -/
theorem approve_ok {«by» : JsString} {epoch : Nat} (h : w.approve «by» epoch now = .ok w') :
    w.status ≠ .vetoed ∧ w.approval = none ∧ w' = { w with approval := some ⟨«by», now, epoch⟩ } := by
  unfold approve at h
  split at h
  · cases h
  · rename_i hvetoed
    cases happroval : w.approval with
    | some approval =>
        rw [happroval] at h
        cases h
    | none =>
        rw [happroval] at h
        exact ⟨hvetoed, rfl, (Except.ok.inj h).symm⟩

end

end VetoWindow

end OwnerSwitch
