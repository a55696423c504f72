/-
Module: OwnerSwitch.Gateway.VetoLane
Layer: Gateway
Purpose: The owner-review lane of a gateway proxy: calls of the agent that join or open a veto window
  under their identity, as coroutines that await a registration and then a status, over one map of
  windows that all of them share.
Imports: Lib.JsMap, Lib.Lts, Shared.ToolCall, Limits
Trusted boundary: the digest of a call's identity; the control plane gives every window an id of its own
Main exports: callKey, VetoLane, vetoLaneRuns, Keyed, exec_keyed
Open obligations: none
-/
import OwnerSwitch.Lib.Lts
import OwnerSwitch.Gateway.Limits

namespace OwnerSwitch

/-! ### The identity of a call -/

/-- Stable identity of a call; `digest` is SHA-256 in hex. -/
def callKey (digest : JsString → JsString) (call : ToolCall) : JsString :=
  digest (Json.stringify (stable (.obj [(js "tool", .str call.tool), (js "args", call.args.getD (.obj []))])))

/-! ### The lane's data -/

/-- What the control plane says of a window. -/
inductive VetoStatus where
  | missing | pending | extended | vetoed | held | spent | released
  deriving DecidableEq, Repr

structure ExecutorRoute where
  connector : JsString
  operation : JsString

/-- What the promise of a window's id holds. -/
inductive Promised where
  | pending
  | resolved (id : JsString)
  | rejected
  deriving DecidableEq

/-- A window asked for. -/
structure Registration where
  call : ToolCall
  purpose : Option VetoPurpose
  id : Promised

/-- How the lane ends for a call. -/
inductive LaneResult where
  | vetoPending (id : JsString) (justOpened : Bool) (status : VetoStatus)
  | ownerVetoed (id : JsString)
  | vetoHeld (id : JsString)
  | vetoReleaseSpent (id : JsString)
  | controlPlaneUnavailable
  /-- `forwardOrKill` is entered -/
  | forwarded (id : JsString) (mintEpoch : Option Nat) (grant : Option Json)

/-- Where the coroutine of a call stands. -/
inductive LaneState where
  /-- it awaits the registration it opened -/
  | opening (registration : Nat)
  /-- it awaits the registration another call opened -/
  | settling (registration : Nat)
  /-- it awaits the status of its window -/
  | asking (registration : Nat) (id : JsString)
  | done (result : LaneResult)

/-- The registration a coroutine holds. -/
def LaneState.registration : LaneState → Option Nat
  | .opening registration => some registration
  | .settling registration => some registration
  | .asking registration _ => some registration
  | .done _ => none

structure LaneCall where
  call : ToolCall
  mintEpoch : Option Nat
  state : LaneState

/-- `windows` and the promises it points to, with the coroutines of all calls. -/
structure VetoLane where
  windows : JsMap JsString Nat
  registrations : List Registration
  calls : List LaneCall

inductive LaneStep where
  /-- a call that policy puts into owner review -/
  | call (call : ToolCall) (mintEpoch : Option Nat)
  /-- the registration is answered with an id, or fails -/
  | registered (registration : Nat) (id : Option JsString)
  /-- a coroutine resumes with its registration settled -/
  | resumed (index : Nat)
  /-- a coroutine resumes with its status and grant, or with a failure -/
  | answered (index : Nat) (answer : Option (VetoStatus × Option Json))

section Lane

variable (digest : JsString → JsString) (routes : JsMap JsString ExecutorRoute) (policyVersion : JsString)

namespace VetoLane

variable (s : VetoLane)

/-- `windows.delete(key)` -/
def drop (key : JsString) : VetoLane :=
  { s with windows := s.windows.delete key }

/-- The purpose a call registers under. -/
def purposeOf (call : ToolCall) : Option VetoPurpose :=
  (routes.get? call.tool).map fun route => ⟨route.connector, route.operation, policyVersion⟩

/-- The head of the loop: join the window under the call's key, or open one. -/
def enter (call : ToolCall) : VetoLane × LaneState :=
  match s.windows.get? (callKey digest call) with
  | some tracked => (s, .settling tracked)
  | none =>
      ({ s with
          windows := s.windows.set (callKey digest call) s.registrations.length
          registrations := s.registrations ++ [⟨call, purposeOf routes policyVersion call, .pending⟩] },
        .opening s.registrations.length)

/-- `settle`, and what follows for the call that opened the window. -/
def resume (c : LaneCall) (id : Promised) : VetoLane × LaneState :=
  match c.state, id with
  | .opening _, .resolved id => (s, .done (.vetoPending id true .pending))
  | .settling registration, .resolved id => (s, .asking registration id)
  | .opening _, .rejected => (s.drop (callKey digest c.call), .done .controlPlaneUnavailable)
  | .settling _, .rejected => (s.drop (callKey digest c.call), .done .controlPlaneUnavailable)
  | state, _ => (s, state)

/-- What a call makes of an answer about its window. -/
def answer (c : LaneCall) (id : JsString) : Option (VetoStatus × Option Json) → VetoLane × LaneState
  | none => (s, .done .controlPlaneUnavailable)
  | some (.missing, _) => (s.drop (callKey digest c.call)).enter digest routes policyVersion c.call
  | some (.pending, _) => (s, .done (.vetoPending id false .pending))
  | some (.extended, _) => (s, .done (.vetoPending id false .extended))
  | some (.vetoed, _) => (s, .done (.ownerVetoed id))
  | some (.held, _) => (s, .done (.vetoHeld id))
  | some (.spent, _) => (s.drop (callKey digest c.call), .done (.vetoReleaseSpent id))
  | some (.released, grant) => (s.drop (callKey digest c.call), .done (.forwarded id c.mintEpoch grant))

/-- A call's coroutine begins. -/
def spawn (call : ToolCall) (mintEpoch : Option Nat) (state : LaneState) : VetoLane :=
  { s with calls := s.calls ++ [⟨call, mintEpoch, state⟩] }

/-- A coroutine moves on. -/
def move (index : Nat) (c : LaneCall) (state : LaneState) : VetoLane :=
  { s with calls := s.calls.set index { c with state := state } }

end VetoLane

/-- Any order of calls, answers and resumptions. A window's id is given once. -/
def vetoLaneRuns : Lts VetoLane LaneStep where
  init s := s = ⟨.empty, [], []⟩
  next s step s' :=
    match step with
    | .call call mintEpoch =>
        let p := s.enter digest routes policyVersion call
        s' = p.1.spawn call mintEpoch p.2
    | .registered registration id =>
        ∃ r, s.registrations[registration]? = some r ∧ r.id = .pending ∧
          (∀ id', id = some id' → ∀ r' ∈ s.registrations, r'.id ≠ .resolved id') ∧
          s' = { s with
            registrations := s.registrations.set registration { r with id := id.elim .rejected .resolved } }
    | .resumed index =>
        ∃ c registration r, s.calls[index]? = some c ∧
          (c.state = .opening registration ∨ c.state = .settling registration) ∧
          s.registrations[registration]? = some r ∧ r.id ≠ .pending ∧
          let p := s.resume digest c r.id
          s' = p.1.move index c p.2
    | .answered index answer =>
        ∃ c registration id, s.calls[index]? = some c ∧ c.state = .asking registration id ∧
          let p := s.answer digest routes policyVersion c id answer
          s' = p.1.move index c p.2

end Lane

/-! ### Windows and the calls that hold them -/

section Keyed

variable {digest : JsString → JsString} {routes : JsMap JsString ExecutorRoute} {policyVersion : JsString}
  {s s' t : VetoLane} {step : LaneStep} {call : ToolCall} {c : LaneCall} {state : LaneState} {id : JsString}

/-- A coroutine holds a registration of its own key, and asks about the id that was given for it. -/
structure Fits (digest : JsString → JsString) (s : VetoLane) (call : ToolCall) (state : LaneState) : Prop where
  key : ∀ registration, state.registration = some registration →
    ∃ r, s.registrations[registration]? = some r ∧ callKey digest r.call = callKey digest call
  id : ∀ registration id, state = .asking registration id →
    ∃ r, s.registrations[registration]? = some r ∧ r.id = .resolved id

/-- What every reachable lane keeps. -/
structure Keyed (digest : JsString → JsString) (s : VetoLane) : Prop where
  window : ∀ key registration, s.windows.get? key = some registration →
    ∃ r, s.registrations[registration]? = some r ∧ callKey digest r.call = key
  calls : ∀ c ∈ s.calls, Fits digest s c.call c.state
  own : ∀ (i j : Nat) r r' id, s.registrations[i]? = some r → s.registrations[j]? = some r' →
    r.id = .resolved id → r'.id = .resolved id → i = j

/-- The registrations of `t` extend those of `s`. -/
def Extends (s t : VetoLane) : Prop :=
  ∀ (i : Nat) r, s.registrations[i]? = some r →
    ∃ r', t.registrations[i]? = some r' ∧ r'.call = r.call ∧ (r.id ≠ .pending → r'.id = r.id)

theorem Extends.refl (s : VetoLane) : Extends s s :=
  fun _ r hr => ⟨r, hr, rfl, fun _ => rfl⟩

/-- What a call holds still fits as registrations are added. -/
theorem Fits.extends (h : Fits digest s call state) (hext : Extends s t) : Fits digest t call state := by
  constructor
  · intro registration hstate
    obtain ⟨r, hr, hkey⟩ := h.key registration hstate
    obtain ⟨r', hr', hcall, -⟩ := hext registration r hr
    exact ⟨r', hr', by rw [hcall, hkey]⟩
  · intro registration id hstate
    obtain ⟨r, hr, hid⟩ := h.id registration id hstate
    obtain ⟨r', hr', -, hkept⟩ := hext registration r hr
    exact ⟨r', hr', by rw [hkept (by simp [hid]), hid]⟩

theorem fits_done (result : LaneResult) : Fits digest s call (.done result) := by
  constructor
  · rintro registration ⟨⟩
  · rintro registration id ⟨⟩

/-- Dropping a key leaves the rest keyed. -/
theorem Keyed.drop (h : Keyed digest s) (key : JsString) : Keyed digest (s.drop key) := by
  constructor
  · intro k registration hget
    exact h.window k registration (JsMap.get?_of_delete hget)
  · intro c hc
    exact (h.calls c hc).extends (.refl s)
  · exact h.own

/-- The head of the loop joins the window under the key, or opens a new one. -/
theorem enter_cases (digest : JsString → JsString) (routes : JsMap JsString ExecutorRoute)
    (policyVersion : JsString) (s : VetoLane) (call : ToolCall) :
    (∃ tracked, s.windows.get? (callKey digest call) = some tracked ∧
        s.enter digest routes policyVersion call = (s, .settling tracked)) ∨
      (s.windows.get? (callKey digest call) = none ∧ ∃ purpose,
        s.enter digest routes policyVersion call =
          ({ s with
              windows := s.windows.set (callKey digest call) s.registrations.length
              registrations := s.registrations ++ [⟨call, purpose, .pending⟩] },
            .opening s.registrations.length)) := by
  unfold VetoLane.enter
  cases hget : s.windows.get? (callKey digest call) with
  | some tracked => exact .inl ⟨tracked, rfl, rfl⟩
  | none => exact .inr ⟨rfl, _, rfl⟩

/-- Adding registrations is an extension. -/
theorem extends_append (s : VetoLane) (windows : JsMap JsString Nat) (rs : List Registration) :
    Extends s { s with windows := windows, registrations := s.registrations ++ rs } := by
  intro i r hr
  refine ⟨r, ?_, rfl, fun _ => rfl⟩
  obtain ⟨hi, -⟩ := List.getElem?_eq_some_iff.mp hr
  rw [List.getElem?_append_left hi]
  exact hr

/-- A call that enters leaves the lane keyed. -/
theorem Keyed.enter (h : Keyed digest s) (routes : JsMap JsString ExecutorRoute) (policyVersion : JsString)
    (call : ToolCall) : Keyed digest (s.enter digest routes policyVersion call).1 ∧
      Fits digest (s.enter digest routes policyVersion call).1 call (s.enter digest routes policyVersion call).2 := by
  rcases enter_cases digest routes policyVersion s call with ⟨tracked, hget, heq⟩ | ⟨hget, purpose, heq⟩
  · rw [heq]
    refine ⟨h, ?_, ?_⟩
    · rintro registration ⟨⟩
      exact h.window _ _ hget
    · rintro registration id ⟨⟩
  · rw [heq]
    refine ⟨⟨?_, ?_, ?_⟩, ?_, ?_⟩
    · intro key registration hwindow
      rw [JsMap.get?_set] at hwindow
      split at hwindow
      · rename_i hkey
        obtain rfl := Option.some.inj hwindow
        exact ⟨_, List.getElem?_concat_length, hkey.symm⟩
      · obtain ⟨r, hr, hcall⟩ := h.window key registration hwindow
        obtain ⟨r', hr', hcall', -⟩ := extends_append s (s.windows.set (callKey digest call) s.registrations.length)
          [⟨call, purpose, .pending⟩] registration r hr
        exact ⟨r', hr', by rw [hcall', hcall]⟩
    · intro c hc
      exact (h.calls c hc).extends (extends_append s _ _)
    · intro i j r r' id hi hj hr hr'
      rcases Nat.lt_or_ge i s.registrations.length with hilt | hige
      · rcases Nat.lt_or_ge j s.registrations.length with hjlt | hjge
        · rw [List.getElem?_append_left hilt] at hi
          rw [List.getElem?_append_left hjlt] at hj
          exact h.own i j r r' id hi hj hr hr'
        · rw [List.getElem?_append_right hjge, List.getElem?_singleton] at hj
          split at hj
          · obtain rfl := Option.some.inj hj
            cases hr'
          · cases hj
      · rw [List.getElem?_append_right hige, List.getElem?_singleton] at hi
        split at hi
        · obtain rfl := Option.some.inj hi
          cases hr
        · cases hi
    · rintro registration ⟨⟩
      exact ⟨_, List.getElem?_concat_length, rfl⟩
    · rintro registration id ⟨⟩

/-- A call that moves on leaves the lane keyed. -/
theorem Keyed.move (h : Keyed digest s) (index : Nat) (hstate : Fits digest s c.call state) :
    Keyed digest (s.move index c state) := by
  constructor
  · exact h.window
  · intro c' hc'
    rcases List.mem_or_eq_of_mem_set hc' with hold | rfl
    · exact (h.calls c' hold).extends fun i r hr => ⟨r, hr, rfl, fun _ => rfl⟩
    · exact hstate.extends fun i r hr => ⟨r, hr, rfl, fun _ => rfl⟩
  · exact h.own

/-- A coroutine that resumes keeps to its registration. -/
theorem Keyed.resume (h : Keyed digest s) (hc : Fits digest s c.call c.state) {registration : Nat}
    {r : Registration} (hstate : c.state = .opening registration ∨ c.state = .settling registration)
    (hr : s.registrations[registration]? = some r) (hsettled : r.id ≠ .pending) :
    Keyed digest (s.resume digest c r.id).1 ∧
      Fits digest (s.resume digest c r.id).1 c.call (s.resume digest c r.id).2 := by
  unfold VetoLane.resume
  cases hid : r.id with
  | pending => exact absurd hid hsettled
  | rejected =>
      rcases hstate with hstate | hstate
      · rw [hstate]
        exact ⟨h.drop _, fits_done _⟩
      · rw [hstate]
        exact ⟨h.drop _, fits_done _⟩
  | resolved id =>
      rcases hstate with hstate | hstate
      · rw [hstate]
        exact ⟨h, fits_done _⟩
      · rw [hstate] at hc ⊢
        refine ⟨h, ?_, ?_⟩
        · rintro registration' ⟨⟩
          exact hc.key registration rfl
        · rintro registration' id' ⟨⟩
          exact ⟨r, hr, hid⟩

/-- An answer leaves the lane keyed. -/
theorem Keyed.answer (h : Keyed digest s) (routes : JsMap JsString ExecutorRoute) (policyVersion : JsString)
    (c : LaneCall) (id : JsString) (answer : Option (VetoStatus × Option Json)) :
    Keyed digest (s.answer digest routes policyVersion c id answer).1 ∧
      Fits digest (s.answer digest routes policyVersion c id answer).1 c.call
        (s.answer digest routes policyVersion c id answer).2 := by
  cases answer with
  | none => exact ⟨h, fits_done _⟩
  | some pair =>
      obtain ⟨status, grant⟩ := pair
      cases status with
      | missing => exact (h.drop _).enter routes policyVersion c.call
      | pending => exact ⟨h, fits_done _⟩
      | extended => exact ⟨h, fits_done _⟩
      | vetoed => exact ⟨h, fits_done _⟩
      | held => exact ⟨h, fits_done _⟩
      | spent => exact ⟨h.drop _, fits_done _⟩
      | released => exact ⟨h.drop _, fits_done _⟩

/-- An answer to a registration settles it once. -/
theorem extends_registered {registration : Nat} {r : Registration}
    (hr : s.registrations[registration]? = some r) (hpending : r.id = .pending) (id : Promised) :
    Extends s { s with registrations := s.registrations.set registration { r with id := id } } := by
  intro i r' hr'
  by_cases hi : registration = i
  · subst hi
    rw [hr] at hr'
    obtain rfl := Option.some.inj hr'
    refine ⟨{ r with id := id }, ?_, rfl, fun hne => absurd hpending hne⟩
    exact List.getElem?_set_self (List.getElem?_eq_some_iff.mp hr).1
  · exact ⟨r', by rw [List.getElem?_set_ne hi]; exact hr', rfl, fun _ => rfl⟩

/-- An entry of a list that had one entry set. -/
theorem getElem?_set_cases {α : Type*} {xs : List α} {i j : Nat} {a b : α} (h : (xs.set i a)[j]? = some b) :
    (j = i ∧ b = a) ∨ (j ≠ i ∧ xs[j]? = some b) := by
  by_cases hi : i = j
  · subst hi
    rw [List.getElem?_set] at h
    simp only [if_true] at h
    split at h
    · exact .inl ⟨rfl, (Option.some.inj h).symm⟩
    · cases h
  · rw [List.getElem?_set_ne hi] at h
    exact .inr ⟨Ne.symm hi, h⟩

/-- An entry of a list that had one entry put after it. -/
theorem getElem?_concat_cases {α : Type*} {xs : List α} {j : Nat} {a b : α} (h : (xs ++ [a])[j]? = some b) :
    xs[j]? = some b ∨ (j = xs.length ∧ b = a) := by
  rcases Nat.lt_trichotomy j xs.length with hlt | heq | hgt
  · rw [List.getElem?_append_left hlt] at h
    exact .inl h
  · rw [heq, List.getElem?_concat_length] at h
    exact .inr ⟨heq, (Option.some.inj h).symm⟩
  · rw [List.getElem?_eq_none (by simp only [List.length_append, List.length_singleton]; omega)] at h
    cases h

theorem Keyed.registered (h : Keyed digest s) {registration : Nat} {r : Registration}
    (hr : s.registrations[registration]? = some r) (hpending : r.id = .pending) {id : Option JsString}
    (hfresh : ∀ id', id = some id' → ∀ r' ∈ s.registrations, r'.id ≠ .resolved id') :
    Keyed digest
      { s with registrations := s.registrations.set registration { r with id := id.elim .rejected .resolved } } := by
  have hext := extends_registered hr hpending (id.elim .rejected .resolved)
  have hnew : ∀ id', ({ r with id := id.elim .rejected .resolved } : Registration).id = .resolved id' →
    id = some id' := by
    intro id' hid'
    cases id with
    | none => cases hid'
    | some id => exact congrArg some (Promised.resolved.inj hid')
  constructor
  · intro key i hget
    obtain ⟨r', hr', hkey⟩ := h.window key i hget
    obtain ⟨r'', hr'', hcall, -⟩ := hext i r' hr'
    exact ⟨r'', hr'', by rw [hcall, hkey]⟩
  · intro c hc
    exact (h.calls c hc).extends hext
  · intro i j r₁ r₂ id' hi hj h₁ h₂
    rcases getElem?_set_cases hi with ⟨rfl, rfl⟩ | ⟨hne, hold⟩
    · rcases getElem?_set_cases hj with ⟨rfl, rfl⟩ | ⟨hne', hold'⟩
      · rfl
      · exact absurd h₂ (hfresh id' (hnew id' h₁) r₂ (List.mem_of_getElem? hold'))
    · rcases getElem?_set_cases hj with ⟨rfl, rfl⟩ | ⟨hne', hold'⟩
      · exact absurd h₁ (hfresh id' (hnew id' h₂) r₁ (List.mem_of_getElem? hold))
      · exact h.own i j r₁ r₂ id' hold hold' h₁ h₂

/-- A step leaves the lane keyed. -/
theorem Keyed.next (h : Keyed digest s) (hnext : (vetoLaneRuns digest routes policyVersion).next s step s') :
    Keyed digest s' := by
  cases step with
  | call call mintEpoch =>
      obtain rfl := hnext
      obtain ⟨hkeyed, hfits⟩ := h.enter routes policyVersion call
      refine ⟨hkeyed.window, ?_, hkeyed.own⟩
      intro c hc
      rcases List.mem_append.mp hc with hold | hnew
      · exact (hkeyed.calls c hold).extends fun i r hr => ⟨r, hr, rfl, fun _ => rfl⟩
      · obtain rfl := List.mem_singleton.mp hnew
        exact hfits.extends fun i r hr => ⟨r, hr, rfl, fun _ => rfl⟩
  | registered registration id =>
      obtain ⟨r, hr, hpending, hfresh, rfl⟩ := hnext
      exact h.registered hr hpending hfresh
  | resumed index =>
      obtain ⟨c, registration, r, hc, hstate, hr, hsettled, rfl⟩ := hnext
      obtain ⟨hkeyed, hfits⟩ := h.resume (h.calls c (List.mem_of_getElem? hc)) hstate hr hsettled
      exact hkeyed.move index hfits
  | answered index answer =>
      obtain ⟨c, registration, id, hc, hstate, rfl⟩ := hnext
      obtain ⟨hkeyed, hfits⟩ := h.answer routes policyVersion c id answer
      exact hkeyed.move index hfits

/-- The lane is keyed in every run. -/
theorem exec_keyed {es : List (Lts.Edge VetoLane LaneStep)}
    (h : (vetoLaneRuns digest routes policyVersion).Exec es s) : Keyed digest s := by
  refine h.invariant ⟨?_, fun _ _ _ hs hnext => hs.next hnext⟩
  rintro s rfl
  constructor
  · rintro key registration ⟨⟩
  · rintro c ⟨⟩
  · rintro i j r r' id ⟨⟩

end Keyed

end OwnerSwitch
