/-
Module: OwnerSwitch.Gateway.VetoLaneRuns
Layer: Gateway
Purpose: What a released window authorizes, and what the owner's no forbids, over any order of calls and
  answers. One run per window holds where no two calls that picked a window up together are both told it is
  released; the no is final where nothing but the loss of that very window drops it.
Imports: Lib.Lts, VetoLane
Trusted boundary: as VetoLane
Main exports: window_runs_once, no_is_final
Open obligations: none
-/
import OwnerSwitch.Gateway.VetoLane

namespace OwnerSwitch

section Runs

variable {digest : JsString → JsString} {routes : JsMap JsString ExecutorRoute} {policyVersion : JsString}
  {s s' t : VetoLane} {step : LaneStep} {c : LaneCall} {state : LaneState} {es : List (Lts.Edge VetoLane LaneStep)}

/-! ### What a step does to the windows and to the calls -/

/-- What a coroutine that moves on to `state` leaves behind: it holds what it held, what the map had, or a new
    registration, and the map gains new registrations only. -/
structure Picks (s t : VetoLane) (held : Option Nat) (state : LaneState) : Prop where
  state : ∀ registration, state.registration = some registration →
    held = some registration ∨ (∃ key, s.windows.get? key = some registration) ∨
      s.registrations.length ≤ registration
  windows : ∀ key registration, t.windows.get? key = some registration →
    s.windows.get? key = some registration ∨ s.registrations.length ≤ registration
  length : s.registrations.length ≤ t.registrations.length
  grows : Extends s t
  calls : t.calls = s.calls

/-- A call that enters takes what the map has, or a new registration. -/
theorem picks_enter (digest : JsString → JsString) (routes : JsMap JsString ExecutorRoute)
    (policyVersion : JsString) (s : VetoLane) (call : ToolCall) (held : Option Nat) :
    Picks s (s.enter digest routes policyVersion call).1 held (s.enter digest routes policyVersion call).2 := by
  rcases enter_cases digest routes policyVersion s call with ⟨tracked, hget, heq⟩ | ⟨hget, purpose, heq⟩
  · rw [heq]
    constructor
    · rintro registration ⟨⟩
      exact .inr (.inl ⟨_, hget⟩)
    · exact fun _ _ h => .inl h
    · exact le_refl _
    · exact .refl s
    · rfl
  · rw [heq]
    constructor
    · rintro registration ⟨⟩
      exact .inr (.inr (le_refl _))
    · intro key registration h
      rw [JsMap.get?_set] at h
      split at h
      · obtain rfl := Option.some.inj h
        exact .inr (le_refl _)
      · exact .inl h
    · simp
    · exact extends_append s _ _
    · rfl

theorem picks_done (s : VetoLane) (held : Option Nat) (result : LaneResult) : Picks s s held (.done result) := by
  constructor
  · rintro registration ⟨⟩
  · exact fun _ _ h => .inl h
  · exact le_refl _
  · exact .refl s
  · rfl

/-- A key that is dropped before takes nothing away. -/
theorem Picks.drop {key : JsString} {held : Option Nat} (h : Picks (s.drop key) t held state) :
    Picks s t held state := by
  constructor
  · intro registration hstate
    rcases h.state registration hstate with hheld | ⟨key', hget⟩ | hnew
    · exact .inl hheld
    · exact .inr (.inl ⟨key', JsMap.get?_of_delete hget⟩)
    · exact .inr (.inr hnew)
  · intro key' registration hget
    rcases h.windows key' registration hget with hold | hnew
    · exact .inl (JsMap.get?_of_delete hold)
    · exact .inr hnew
  · exact h.length
  · exact h.grows
  · exact h.calls

/-- A call whose registration is answered goes on with what it held. -/
theorem picks_resume (digest : JsString → JsString) (s : VetoLane) (c : LaneCall) (id : Promised) :
    Picks s (s.resume digest c id).1 c.state.registration (s.resume digest c id).2 := by
  unfold VetoLane.resume
  split
  · exact picks_done ..
  · rename_i registration id hstate
    refine ⟨?_, fun _ _ h => .inl h, le_refl _, .refl s, rfl⟩
    rintro registration' ⟨⟩
    exact .inl (by rw [hstate]; rfl)
  · exact (picks_done ..).drop
  · exact (picks_done ..).drop
  · exact ⟨fun _ h => .inl h, fun _ _ h => .inl h, le_refl _, .refl s, rfl⟩

/-- An answered call is done, or enters again. -/
theorem picks_answer (digest : JsString → JsString) (routes : JsMap JsString ExecutorRoute)
    (policyVersion : JsString) (s : VetoLane) (c : LaneCall) (id : JsString)
    (answer : Option (VetoStatus × Option Json)) (held : Option Nat) :
    Picks s (s.answer digest routes policyVersion c id answer).1 held
      (s.answer digest routes policyVersion c id answer).2 := by
  cases answer with
  | none => exact picks_done ..
  | some pair =>
      obtain ⟨status, grant⟩ := pair
      cases status with
      | missing => exact (picks_enter ..).drop
      | pending => exact picks_done ..
      | extended => exact picks_done ..
      | vetoed => exact picks_done ..
      | held => exact picks_done ..
      | spent => exact (picks_done ..).drop
      | released => exact (picks_done ..).drop

/-- The call holds the registration: it awaits it, or the status of its window. -/
def Holds (s : VetoLane) (index registration : Nat) : Prop :=
  ∃ c, s.calls[index]? = some c ∧ c.state.registration = some registration

/-- No identity leads to the registration any more, and this call does not hold it. -/
structure Retired (index registration : Nat) (s : VetoLane) : Prop where
  window : ∀ key, s.windows.get? key ≠ some registration
  call : ¬ Holds s index registration
  old : registration < s.registrations.length

/-- A call that moves on does not take up a retired window. -/
theorem Retired.move {i index registration : Nat} (h : Retired i registration s) (hc : s.calls[index]? = some c)
    (hpicks : Picks s t c.state.registration state) : Retired i registration (t.move index c state) := by
  constructor
  · intro key hget
    rcases hpicks.windows key registration hget with hold | hnew
    · exact h.window key hold
    · exact absurd h.old (Nat.not_lt.mpr hnew)
  · rintro ⟨c', hc', hheld⟩
    simp only [VetoLane.move, hpicks.calls] at hc'
    rcases getElem?_set_cases hc' with ⟨rfl, rfl⟩ | ⟨-, hold⟩
    · rcases hpicks.state registration hheld with hsame | ⟨key, hget⟩ | hnew
      · exact h.call ⟨c, hc, hsame⟩
      · exact h.window key hget
      · exact absurd h.old (Nat.not_lt.mpr hnew)
    · exact h.call ⟨c', hold, hheld⟩
  · exact Nat.lt_of_lt_of_le h.old hpicks.length

/-- What is gone stays gone. -/
theorem Retired.next {i registration : Nat} (h : Retired i registration s)
    (hnext : (vetoLaneRuns digest routes policyVersion).next s step s') : Retired i registration s' := by
  cases step with
  | call call mintEpoch =>
      obtain rfl := hnext
      have hpicks := picks_enter digest routes policyVersion s call none
      constructor
      · intro key hget
        rcases hpicks.windows key registration hget with hold | hnew
        · exact h.window key hold
        · exact absurd h.old (Nat.not_lt.mpr hnew)
      · rintro ⟨c', hc', hheld⟩
        simp only [VetoLane.spawn, hpicks.calls] at hc'
        rcases getElem?_concat_cases hc' with hold | ⟨-, rfl⟩
        · exact h.call ⟨c', hold, hheld⟩
        · rcases hpicks.state registration hheld with hnone | ⟨key, hget⟩ | hnew
          · cases hnone
          · exact h.window key hget
          · exact absurd h.old (Nat.not_lt.mpr hnew)
      · exact Nat.lt_of_lt_of_le h.old hpicks.length
  | registered registration' id =>
      obtain ⟨r, -, -, -, rfl⟩ := hnext
      exact ⟨h.window, h.call, by simpa using h.old⟩
  | resumed index =>
      obtain ⟨c, registration', r, hc, -, -, -, rfl⟩ := hnext
      exact h.move hc (picks_resume ..)
  | answered index answer =>
      obtain ⟨c, registration', id, hc, -, rfl⟩ := hnext
      exact h.move hc (picks_answer ..)

/-! ### One released window, one run -/

/-- A call that asks about this registration's window is answered. -/
def Answered (e : Lts.Edge VetoLane LaneStep) (index registration : Nat) (id : JsString) (status : VetoStatus) : Prop :=
  ∃ c grant, e.label = .answered index (some (status, grant)) ∧ e.src.calls[index]? = some c ∧
    c.state = .asking registration id

/-- The step enters `forwardOrKill` on account of this window. -/
def Enters (e : Lts.Edge VetoLane LaneStep) (id : JsString) : Prop :=
  ∃ (index : Nat) (c : LaneCall) (mintEpoch : Option Nat) (grant : Option Json), e.dst.calls[index]? = some c ∧
    c.state = .done (.forwarded id mintEpoch grant) ∧ e.src.calls[index]? ≠ some c

/-- A call that enters is never done at once. -/
theorem enter_not_done (digest : JsString → JsString) (routes : JsMap JsString ExecutorRoute)
    (policyVersion : JsString) (s : VetoLane) (call : ToolCall) (result : LaneResult) :
    (s.enter digest routes policyVersion call).2 ≠ .done result := by
  rcases enter_cases digest routes policyVersion s call with ⟨tracked, -, heq⟩ | ⟨-, purpose, heq⟩
  · simp [heq]
  · simp [heq]

/-- A call is forwarded on an answer only, not on its registration. -/
theorem resume_not_forwarded (digest : JsString → JsString) (s : VetoLane) {registration : Nat}
    (hstate : c.state = .opening registration ∨ c.state = .settling registration) (promised : Promised)
    (id : JsString) (mintEpoch : Option Nat) (grant : Option Json) :
    (s.resume digest c promised).2 ≠ .done (.forwarded id mintEpoch grant) := by
  rcases hstate with hstate | hstate
  · cases promised <;> simp [VetoLane.resume, hstate]
  · cases promised <;> simp [VetoLane.resume, hstate]

/-- A coroutine is forwarded by a released answer. -/
theorem answer_forwarded {answer : Option (VetoStatus × Option Json)} {id id' : JsString} {mintEpoch : Option Nat}
    {grant : Option Json}
    (h : (s.answer digest routes policyVersion c id answer).2 = .done (.forwarded id' mintEpoch grant)) :
    id' = id ∧ ∃ grant, answer = some (.released, grant) := by
  cases answer with
  | none => cases h
  | some pair =>
      obtain ⟨status, grant'⟩ := pair
      cases status with
      | missing => exact absurd h (enter_not_done digest routes policyVersion _ c.call _)
      | pending => cases h
      | extended => cases h
      | vetoed => cases h
      | held => cases h
      | spent => cases h
      | released =>
          cases h
          exact ⟨rfl, _, rfl⟩

/-- `forwardOrKill` is entered for the calls that are told their window is released. -/
theorem enters_iff {id : JsString} (hnext : (vetoLaneRuns digest routes policyVersion).next s step s') :
    Enters ⟨s, step, s'⟩ id ↔ ∃ index registration, Answered ⟨s, step, s'⟩ index registration id .released := by
  constructor
  · rintro ⟨index, c, mintEpoch, grant, hdst, hstate, hsrc⟩
    simp only at hdst hsrc
    cases step with
    | call call mintEpoch' =>
        obtain rfl := hnext
        rw [VetoLane.spawn, (picks_enter digest routes policyVersion s call none).calls] at hdst
        rcases getElem?_concat_cases hdst with hold | ⟨-, rfl⟩
        · exact absurd hold hsrc
        · exact absurd hstate (enter_not_done digest routes policyVersion s call _)
    | registered registration promised =>
        obtain ⟨r, -, -, -, rfl⟩ := hnext
        exact absurd hdst hsrc
    | resumed index' =>
        obtain ⟨c', registration, r, hc', hawaits, -, -, rfl⟩ := hnext
        rw [VetoLane.move, (picks_resume digest s c' r.id).calls] at hdst
        rcases getElem?_set_cases hdst with ⟨-, rfl⟩ | ⟨-, hold⟩
        · exact absurd hstate (resume_not_forwarded digest s hawaits r.id id mintEpoch grant)
        · exact absurd hold hsrc
    | answered index' answer =>
        obtain ⟨c', registration, id', hc', hasking, rfl⟩ := hnext
        rw [VetoLane.move, (picks_answer digest routes policyVersion s c' id' answer none).calls] at hdst
        rcases getElem?_set_cases hdst with ⟨rfl, rfl⟩ | ⟨-, hold⟩
        · obtain ⟨rfl, grant', rfl⟩ := answer_forwarded hstate
          exact ⟨index, registration, c', grant', rfl, hc', hasking⟩
        · exact absurd hold hsrc
  · rintro ⟨index, registration, c, grant, hstep, hc, hasking⟩
    obtain rfl : step = .answered index (some (.released, grant)) := hstep
    obtain ⟨c', registration', id', hc', hasking', rfl⟩ := hnext
    simp only at hc
    rw [hc] at hc'
    obtain rfl := Option.some.inj hc'
    rw [hasking] at hasking'
    cases hasking'
    refine ⟨index, { c with state := .done (.forwarded id c.mintEpoch grant) }, c.mintEpoch, grant, ?_, rfl, ?_⟩
    · exact List.getElem?_set_self (List.getElem?_eq_some_iff.mp hc).1
    · rw [hc]
      intro hsame
      have hstate := congrArg LaneCall.state (Option.some.inj hsame)
      rw [hasking] at hstate
      cases hstate

/-- A step only adds registrations. -/
theorem extends_next (hnext : (vetoLaneRuns digest routes policyVersion).next s step s') : Extends s s' := by
  cases step with
  | call call mintEpoch =>
      obtain rfl := hnext
      exact (picks_enter digest routes policyVersion s call none).grows
  | registered registration id =>
      obtain ⟨r, hr, hpending, -, rfl⟩ := hnext
      exact extends_registered hr hpending _
  | resumed index =>
      obtain ⟨c, registration, r, -, -, -, -, rfl⟩ := hnext
      exact (picks_resume digest s c r.id).grows
  | answered index answer =>
      obtain ⟨c, registration, id, -, -, rfl⟩ := hnext
      exact (picks_answer digest routes policyVersion s c id answer none).grows

/-- The id the promise of a registration holds. -/
def HasId (s : VetoLane) (registration : Nat) (id : JsString) : Prop :=
  ∃ r, s.registrations[registration]? = some r ∧ r.id = .resolved id

/-- A registration keeps its id. -/
theorem HasId.next {registration : Nat} {id : JsString} (h : HasId s registration id)
    (hnext : (vetoLaneRuns digest routes policyVersion).next s step s') : HasId s' registration id := by
  obtain ⟨r, hr, hid⟩ := h
  obtain ⟨r', hr', -, hkept⟩ := extends_next hnext registration r hr
  exact ⟨r', hr', by rw [hkept (by simp [hid]), hid]⟩

/-- A registration has one id. -/
theorem HasId.unique {registration : Nat} {id id' : JsString} (h : HasId s registration id)
    (h' : HasId s registration id') : id = id' := by
  obtain ⟨r, hr, hid⟩ := h
  obtain ⟨r', hr', hid'⟩ := h'
  rw [hr] at hr'
  obtain rfl := Option.some.inj hr'
  rw [hid] at hid'
  exact Promised.resolved.inj hid'

/-- An answer is for the id of the registration its call holds. -/
theorem Answered.hasId {e : Lts.Edge VetoLane LaneStep} {index registration : Nat} {id : JsString}
    {status : VetoStatus} (h : Answered e index registration id status) (hkeyed : Keyed digest e.src) :
    HasId e.src registration id := by
  obtain ⟨c, grant, -, hc, hasking⟩ := h
  exact (hkeyed.calls c (List.mem_of_getElem? hc)).id registration id hasking

/-- An answered call holds the registration. -/
theorem Answered.holds {e : Lts.Edge VetoLane LaneStep} {index registration : Nat} {id : JsString}
    {status : VetoStatus} (h : Answered e index registration id status) : Holds e.src index registration := by
  obtain ⟨c, grant, -, hc, hasking⟩ := h
  exact ⟨c, hc, by rw [hasking]; rfl⟩

/-- A released answer ends its call and takes the window off the map: a call that does not hold it never will. -/
theorem Answered.retired (hkeyed : Keyed digest s) (hnext : (vetoLaneRuns digest routes policyVersion).next s step s')
    {i j registration : Nat} {id : JsString} (h : Answered ⟨s, step, s'⟩ i registration id .released)
    (hj : j = i ∨ ¬ Holds s j registration) : Retired j registration s' := by
  obtain ⟨c, grant, hstep, hc, hasking⟩ := h
  obtain rfl : step = .answered i (some (.released, grant)) := hstep
  obtain ⟨c', registration', id', hc', hasking', rfl⟩ := hnext
  simp only at hc
  rw [hc] at hc'
  obtain rfl := Option.some.inj hc'
  obtain ⟨r, hr, hkey⟩ := (hkeyed.calls c (List.mem_of_getElem? hc)).key registration (by rw [hasking]; rfl)
  constructor
  · intro key hget
    have hold : s.windows.get? key = some registration := JsMap.get?_of_delete hget
    obtain ⟨r', hr', hkey'⟩ := hkeyed.window key registration hold
    rw [hr] at hr'
    obtain rfl := Option.some.inj hr'
    have hretired : ((s.windows.delete (callKey digest c.call)).get? key) = none := by
      rw [← hkey', hkey, JsMap.get?_delete_self]
    exact absurd (hretired.symm.trans hget) (by simp)
  · rintro ⟨c'', hc'', hheld⟩
    rcases getElem?_set_cases hc'' with ⟨rfl, rfl⟩ | ⟨hne, hold⟩
    · cases hheld
    · rcases hj with rfl | hj
      · exact hne rfl
      · exact hj ⟨c'', hold, hheld⟩
  · exact (List.getElem?_eq_some_iff.mp hr).1

/-- Each window's id leads to one entry into `forwardOrKill` at most. -/
def OneRun (es : List (Lts.Edge VetoLane LaneStep)) : Prop :=
  ∀ e f id, Lts.Precedes es e f → Enters e id → ¬ Enters f id

/-- No call that held a window when another call was told it is released is told so too. -/
def ReleasedApart (es : List (Lts.Edge VetoLane LaneStep)) : Prop :=
  ∀ e f i j registration id id', Lts.Precedes es e f → Answered e i registration id .released →
    Answered f j registration id' .released → ¬ Holds e.src j registration

/-- A released window authorizes one run, where no two of the calls that share it are told it is released. -/
theorem window_runs_once (h : (vetoLaneRuns digest routes policyVersion).Exec es s) :
    OneRun es ↔ ReleasedApart es := by
  constructor
  · rintro hone e f i j registration id id' hef he hf -
    obtain ⟨pre, mid, post, rfl⟩ := hef
    obtain ⟨hpre, hnext, hpath⟩ := h.split
    obtain ⟨hmid, hnext', -⟩ := hpath.split
    have hid : HasId f.src registration id := by
      refine hmid.stable (P := fun d => HasId d registration id) (fun _ _ _ hd hstep => hd.next hstep) ?_
      exact (he.hasId (exec_keyed hpre)).next hnext
    have hkeyed : Keyed digest f.src := by
      refine hmid.stable (P := Keyed digest) (fun _ _ _ hd hstep => hd.next hstep) ?_
      exact (exec_keyed hpre).next hnext
    obtain rfl := hid.unique (hf.hasId hkeyed)
    refine hone e f id ⟨pre, mid, post, rfl⟩ ?_ ?_
    · exact (enters_iff hnext).mpr ⟨i, registration, he⟩
    · exact (enters_iff hnext').mpr ⟨j, registration, hf⟩
  · rintro hapart e f id ⟨pre, mid, post, rfl⟩ he hf
    obtain ⟨hpre, hnext, hpath⟩ := h.split
    obtain ⟨hmid, hnext', -⟩ := hpath.split
    have hkeyed : Keyed digest f.src := by
      refine hmid.stable (P := Keyed digest) (fun _ _ _ hd hstep => hd.next hstep) ?_
      exact (exec_keyed hpre).next hnext
    obtain ⟨i, registration, he⟩ := (enters_iff hnext).mp he
    obtain ⟨j, registration', hf⟩ := (enters_iff hnext').mp hf
    have hid : HasId f.src registration id := by
      refine hmid.stable (P := fun d => HasId d registration id) (fun _ _ _ hd hstep => hd.next hstep) ?_
      exact (he.hasId (exec_keyed hpre)).next hnext
    obtain ⟨r, hr, hrid⟩ := hid
    obtain ⟨r', hr', hrid'⟩ := hf.hasId hkeyed
    obtain rfl := hkeyed.own registration registration' r r' id hr hr' hrid hrid'
    have hretired : Retired j registration f.src := by
      refine hmid.stable (P := Retired j registration) (fun _ _ _ hd hstep => hd.next hstep) ?_
      exact he.retired (exec_keyed hpre) hnext (.inr (hapart e f i j registration id id ⟨pre, mid, post, rfl⟩ he hf))
    exact hretired.call hf.holds

/-! ### The owner's no -/

/-- A call is told that the window tracked under its identity is vetoed. -/
def Vetoed (digest : JsString → JsString) (e : Lts.Edge VetoLane LaneStep) (key : JsString) (registration : Nat) :
    Prop :=
  ∃ (index : Nat) (c : LaneCall) (id : JsString) (grant : Option Json),
    e.label = .answered index (some (.vetoed, grant)) ∧
    e.src.calls[index]? = some c ∧ c.state = .asking registration id ∧ callKey digest c.call = key ∧
    e.src.windows.get? key = some registration

/-- A call of this identity arrives. -/
def Arrives (digest : JsString → JsString) (e : Lts.Edge VetoLane LaneStep) (index : Nat) (key : JsString) : Prop :=
  ∃ call mintEpoch, e.label = .call call mintEpoch ∧ index = e.src.calls.length ∧ callKey digest call = key

/-- The call opens a window, or is forwarded. -/
def Acts (e : Lts.Edge VetoLane LaneStep) (index : Nat) : Prop :=
  ∃ c : LaneCall, e.dst.calls[index]? = some c ∧ e.src.calls[index]? ≠ some c ∧
    ((∃ registration, c.state = .opening registration) ∨
      ∃ id mintEpoch grant, c.state = .done (.forwarded id mintEpoch grant))

/-- The control plane answers that it has no such window. -/
def Misses (e : Lts.Edge VetoLane LaneStep) (registration : Nat) : Prop :=
  ∃ index id, Answered e index registration id .missing

/-- After a call was told that the window tracked under its identity is vetoed, no later call of that identity
    opens a window or is forwarded, unless the control plane lost that very window. -/
def NoIsFinal (digest : JsString → JsString) (es : List (Lts.Edge VetoLane LaneStep)) : Prop :=
  ∀ pre e mid f post key registration index, es = pre ++ e :: (mid ++ f :: post) →
    Vetoed digest e key registration → (∃ a ∈ mid ++ [f], Arrives digest a index key) → Acts f index →
    ∃ m ∈ mid ++ [f], Misses m registration

/-- The step takes the window under the key off the map, on account of an answer about this registration. -/
def Drops (digest : JsString → JsString) (e : Lts.Edge VetoLane LaneStep) (key : JsString) (registration : Nat) :
    Prop :=
  ∃ (index : Nat) (c : LaneCall), e.src.calls[index]? = some c ∧ callKey digest c.call = key ∧
    c.state.registration = some registration ∧
    ((e.label = .resumed index ∧ ∃ r, e.src.registrations[registration]? = some r ∧ r.id = .rejected) ∨
      ∃ status grant, e.label = .answered index (some (status, grant)) ∧
        (status = .missing ∨ status = .spent ∨ status = .released))

/-- While a vetoed window is the one tracked under its identity, only its own loss takes it off the map. -/
def DroppedByLoss (digest : JsString → JsString) (es : List (Lts.Edge VetoLane LaneStep)) : Prop :=
  ∀ e f key registration registration', Lts.Precedes es e f → Vetoed digest e key registration →
    f.src.windows.get? key = some registration → Drops digest f key registration' → Misses f registration

/-- A call that enters leaves a window that is there. -/
theorem enter_window {key : JsString} {registration : Nat} (h : s.windows.get? key = some registration)
    (call : ToolCall) :
    (s.enter digest routes policyVersion call).1.windows.get? key = some registration := by
  rcases enter_cases digest routes policyVersion s call with ⟨tracked, -, heq⟩ | ⟨hnone, purpose, heq⟩
  · rw [heq]
    exact h
  · rw [heq]
    have hne : key ≠ callKey digest call := by
      rintro rfl
      rw [hnone] at h
      cases h
    exact (JsMap.get?_set_ne _ _ hne).trans h

/-- A window leaves the map by a step that drops its key only. -/
theorem window_next {key : JsString} {registration : Nat} (h : s.windows.get? key = some registration)
    (hnext : (vetoLaneRuns digest routes policyVersion).next s step s') :
    s'.windows.get? key = some registration ∨ ∃ registration', Drops digest ⟨s, step, s'⟩ key registration' := by
  cases step with
  | call call mintEpoch =>
      obtain rfl := hnext
      exact .inl (enter_window h call)
  | registered registration' id =>
      obtain ⟨r, -, -, -, rfl⟩ := hnext
      exact .inl h
  | resumed index =>
      obtain ⟨c, registration', r, hc, hstate, hr, hsettled, rfl⟩ := hnext
      have hheld : c.state.registration = some registration' := by
        rcases hstate with hstate | hstate
        · rw [hstate]
          rfl
        · rw [hstate]
          rfl
      cases hid : r.id with
      | pending => exact absurd hid hsettled
      | resolved id =>
          left
          rcases hstate with hstate | hstate
          · simpa [VetoLane.resume, VetoLane.move, hstate] using h
          · simpa [VetoLane.resume, VetoLane.move, hstate] using h
      | rejected =>
          by_cases hkey : callKey digest c.call = key
          · exact .inr ⟨registration', index, c, hc, hkey, hheld, .inl ⟨rfl, r, hr, hid⟩⟩
          · left
            have hkept : (s.windows.delete (callKey digest c.call)).get? key = some registration :=
              (JsMap.get?_delete_ne _ (Ne.symm hkey)).trans h
            rcases hstate with hstate | hstate
            · simpa [VetoLane.resume, VetoLane.move, VetoLane.drop, hstate] using hkept
            · simpa [VetoLane.resume, VetoLane.move, VetoLane.drop, hstate] using hkept
  | answered index answer =>
      obtain ⟨c, registration', id, hc, hasking, rfl⟩ := hnext
      have hheld : c.state.registration = some registration' := by
        rw [hasking]
        rfl
      cases answer with
      | none => exact .inl h
      | some pair =>
          obtain ⟨status, grant⟩ := pair
          by_cases hkey : callKey digest c.call = key
          · by_cases hstatus : status = .missing ∨ status = .spent ∨ status = .released
            · exact .inr ⟨registration', index, c, hc, hkey, hheld, .inr ⟨status, grant, rfl, hstatus⟩⟩
            · left
              cases status with
              | missing => simp at hstatus
              | pending => exact h
              | extended => exact h
              | vetoed => exact h
              | held => exact h
              | spent => simp at hstatus
              | released => simp at hstatus
          · have hkept : (s.drop (callKey digest c.call)).windows.get? key = some registration :=
              (JsMap.get?_delete_ne _ (Ne.symm hkey)).trans h
            left
            cases status with
            | missing => exact enter_window hkept c.call
            | pending => exact h
            | extended => exact h
            | vetoed => exact h
            | held => exact h
            | spent => exact hkept
            | released => exact hkept

/-- The call at this index has this identity. -/
def HasKey (digest : JsString → JsString) (index : Nat) (key : JsString) (s : VetoLane) : Prop :=
  ∃ c, s.calls[index]? = some c ∧ callKey digest c.call = key

/-- A move of a call keeps the keys of the calls. -/
theorem HasKey.move {i index : Nat} {key : JsString} (h : HasKey digest i key s) (hc : s.calls[index]? = some c)
    (hcalls : t.calls = s.calls) : HasKey digest i key (t.move index c state) := by
  obtain ⟨c', hc', hkey⟩ := h
  unfold HasKey VetoLane.move
  rw [hcalls]
  by_cases hi : index = i
  · subst hi
    rw [hc] at hc'
    obtain rfl := Option.some.inj hc'
    exact ⟨{ c with state := state }, List.getElem?_set_self (List.getElem?_eq_some_iff.mp hc).1, hkey⟩
  · exact ⟨c', by rw [List.getElem?_set_ne hi]; exact hc', hkey⟩

/-- A call keeps its key. -/
theorem HasKey.next {index : Nat} {key : JsString} (h : HasKey digest index key s)
    (hnext : (vetoLaneRuns digest routes policyVersion).next s step s') : HasKey digest index key s' := by
  cases step with
  | call call mintEpoch =>
      obtain rfl := hnext
      obtain ⟨c, hc, hkey⟩ := h
      refine ⟨c, ?_, hkey⟩
      rw [VetoLane.spawn, (picks_enter digest routes policyVersion s call none).calls,
        List.getElem?_append_left (List.getElem?_eq_some_iff.mp hc).1]
      exact hc
  | registered registration id =>
      obtain ⟨r, -, -, -, rfl⟩ := hnext
      exact h
  | resumed index =>
      obtain ⟨c, registration, r, hc, -, -, -, rfl⟩ := hnext
      exact h.move hc (picks_resume digest s c r.id).calls
  | answered index answer =>
      obtain ⟨c, registration, id, hc, -, rfl⟩ := hnext
      exact h.move hc (picks_answer digest routes policyVersion s c id answer none).calls

/-- A call opens a window when no window is tracked under its identity, or when it is told that its own is
    missing, and is forwarded when it is told that it is released. -/
theorem acts_cases {index : Nat} (hnext : (vetoLaneRuns digest routes policyVersion).next s step s')
    (h : Acts ⟨s, step, s'⟩ index) :
    (∃ call mintEpoch, step = .call call mintEpoch ∧ s.windows.get? (callKey digest call) = none ∧
        ∃ c, s'.calls[index]? = some c ∧ c.call = call) ∨
      ∃ (c : LaneCall) (status : VetoStatus) (grant : Option Json) (registration : Nat) (id : JsString),
        step = .answered index (some (status, grant)) ∧ s.calls[index]? = some c ∧
        c.state = .asking registration id ∧ (status = .missing ∨ status = .spent ∨ status = .released) ∧
        ∃ c', s'.calls[index]? = some c' ∧ c'.call = c.call := by
  obtain ⟨c, hdst, hsrc, hstate⟩ := h
  simp only at hdst hsrc
  cases step with
  | call call mintEpoch =>
      obtain rfl := hnext
      left
      have hdst' := hdst
      rw [VetoLane.spawn, (picks_enter digest routes policyVersion s call none).calls] at hdst'
      rcases getElem?_concat_cases hdst' with hold | ⟨-, rfl⟩
      · exact absurd hold hsrc
      · refine ⟨call, mintEpoch, rfl, ?_, _, hdst, rfl⟩
        rcases enter_cases digest routes policyVersion s call with ⟨tracked, -, heq⟩ | ⟨hnone, -⟩
        · simp [heq] at hstate
        · exact hnone
  | registered registration id =>
      obtain ⟨r, -, -, -, rfl⟩ := hnext
      exact absurd hdst hsrc
  | resumed index' =>
      obtain ⟨c', registration, r, hc', hawaits, -, hsettled, rfl⟩ := hnext
      rw [VetoLane.move, (picks_resume digest s c' r.id).calls] at hdst
      rcases getElem?_set_cases hdst with ⟨-, rfl⟩ | ⟨-, hold⟩
      · have hquiet : ∀ registration', (s.resume digest c' r.id).2 ≠ .opening registration' := by
          intro registration'
          rcases hawaits with hawaits | hawaits
          · cases hid : r.id <;> simp_all [VetoLane.resume]
          · cases hid : r.id <;> simp_all [VetoLane.resume]
        rcases hstate with ⟨registration', hopening⟩ | ⟨id, mintEpoch, grant, hforwarded⟩
        · exact absurd hopening (hquiet registration')
        · exact absurd hforwarded (resume_not_forwarded digest s hawaits r.id id mintEpoch grant)
      · exact absurd hold hsrc
  | answered index' answer =>
      obtain ⟨c', registration, id, hc', hasking, rfl⟩ := hnext
      have hdst' := hdst
      rw [VetoLane.move, (picks_answer digest routes policyVersion s c' id answer none).calls] at hdst'
      rcases getElem?_set_cases hdst' with ⟨rfl, rfl⟩ | ⟨-, hold⟩
      · right
        cases answer with
        | none => simp [VetoLane.answer] at hstate
        | some pair =>
            obtain ⟨status, grant⟩ := pair
            refine ⟨c', status, grant, registration, id, rfl, hc', hasking, ?_, _, hdst, rfl⟩
            cases status with
            | missing => exact .inl rfl
            | spent => exact .inr (.inl rfl)
            | released => exact .inr (.inr rfl)
            | pending => simp [VetoLane.answer] at hstate
            | extended => simp [VetoLane.answer] at hstate
            | vetoed => simp [VetoLane.answer] at hstate
            | held => simp [VetoLane.answer] at hstate
      · exact absurd hold hsrc

/-- A call that arrives has its identity from then on. -/
theorem hasKey_of_arrives {t u : VetoLane} (h : (vetoLaneRuns digest routes policyVersion).Path t es u)
    {a : Lts.Edge VetoLane LaneStep} (ha : a ∈ es) {index : Nat} {key : JsString}
    (harrives : Arrives digest a index key) : HasKey digest index key u := by
  obtain ⟨pre, post, rfl⟩ := List.append_of_mem ha
  obtain ⟨-, hnext, hpath⟩ := h.split
  refine hpath.stable (P := HasKey digest index key) (fun _ _ _ hd hstep => hd.next hstep) ?_
  obtain ⟨call, mintEpoch, hlabel, rfl, hkey⟩ := harrives
  rw [hlabel] at hnext
  have hdst : a.dst = _ := hnext
  refine ⟨⟨call, mintEpoch, (a.src.enter digest routes policyVersion call).2⟩, ?_, hkey⟩
  rw [hdst, VetoLane.spawn, (picks_enter digest routes policyVersion a.src call none).calls,
    List.getElem?_concat_length]

/-- The owner's no is final, where a vetoed window leaves the map by its own loss only. -/
theorem no_is_final (h : (vetoLaneRuns digest routes policyVersion).Exec es s) (hdropped : DroppedByLoss digest es) :
    NoIsFinal digest es := by
  rintro pre e mid f post key registration index rfl hvetoed ⟨a, ha, harrives⟩ hacts
  by_contra hnone
  push Not at hnone
  obtain ⟨-, hnext, hpath⟩ := h.split
  obtain ⟨hmid, hnext', -⟩ := hpath.split
  -- the vetoed window stays tracked up to the act
  have hdst : e.dst.windows.get? key = some registration := by
    obtain ⟨i, c, id, grant, hlabel, -, -, -, hget⟩ := hvetoed
    rw [hlabel] at hnext
    obtain ⟨c', registration', id', -, -, hdst⟩ := hnext
    rw [hdst]
    exact hget
  have htracked : f.src.windows.get? key = some registration := by
    refine hmid.stable_of_mem (P := fun d => d.windows.get? key = some registration) (fun d hd hsrc => ?_) hdst
    rcases window_next hsrc (hmid.next_of_mem hd) with hkept | ⟨registration', hdrops⟩
    · exact hkept
    · obtain ⟨before, after, rfl⟩ := List.append_of_mem hd
      have hmiss := hdropped e d key registration registration' ⟨pre, before, after ++ f :: post, by simp⟩ hvetoed hsrc
        hdrops
      exact absurd hmiss (hnone d (by simp))
  have hkey : HasKey digest index key f.dst :=
    hasKey_of_arrives (.snoc hmid hnext') ha harrives
  obtain ⟨c, hc, hckey⟩ := hkey
  rcases acts_cases hnext' hacts with ⟨call, mintEpoch, -, huntracked, c', hc', rfl⟩ |
    ⟨c', status, grant, registration', id, hlabel, hsrc, hasking, hstatus, c'', hc'', hcall⟩
  · rw [hc] at hc'
    obtain rfl := Option.some.inj hc'
    rw [hckey, htracked] at huntracked
    cases huntracked
  · rw [hc] at hc''
    obtain rfl := Option.some.inj hc''
    rw [hcall] at hckey
    have hdrops : Drops digest f key registration' :=
      ⟨index, c', hsrc, hckey, by rw [hasking]; rfl, .inr ⟨status, grant, hlabel, hstatus⟩⟩
    have hmiss := hdropped e f key registration registration' ⟨pre, mid, post, rfl⟩ hvetoed htracked hdrops
    exact hnone f (by simp) hmiss

end Runs

/-! ### Runs of three calls -/

namespace LaneSample

/-- The one identity of these runs. -/
def digest : JsString → JsString :=
  fun _ => js "5c1f"

def call : ToolCall :=
  ⟨js "agent-1", js "send_email", none⟩

/-- What a step that is enabled leads to. -/
def after (s : VetoLane) : LaneStep → VetoLane
  | .call call mintEpoch =>
      let p := s.enter digest .empty [] call
      p.1.spawn call mintEpoch p.2
  | .registered registration id =>
      match s.registrations[registration]? with
      | some r =>
          { s with registrations := s.registrations.set registration { r with id := id.elim .rejected .resolved } }
      | none => s
  | .resumed index =>
      match s.calls[index]? with
      | some c =>
          match c.state.registration.bind (s.registrations[·]?) with
          | some r =>
              let p := s.resume digest c r.id
              p.1.move index c p.2
          | none => s
      | none => s
  | .answered index answer =>
      match s.calls[index]? with
      | some c =>
          match c.state with
          | .asking _ id =>
              let p := s.answer digest .empty [] c id answer
              p.1.move index c p.2
          | _ => s
      | none => s

def enabled (s : VetoLane) : LaneStep → Bool
  | .call _ _ => true
  | .registered registration id =>
      (s.registrations[registration]?).any (fun r => r.id = .pending) &&
        id.all fun id' => s.registrations.all fun r => r.id ≠ .resolved id'
  | .resumed index =>
      (s.calls[index]?).any fun c =>
        (match c.state with
          | .opening _ => true
          | .settling _ => true
          | _ => false) &&
        (c.state.registration.bind (s.registrations[·]?)).any fun r => r.id ≠ .pending
  | .answered index _ =>
      (s.calls[index]?).any fun c =>
        match c.state with
        | .asking _ _ => true
        | _ => false

/-- A step that is enabled is a step of the lane. -/
theorem next_of_enabled (s : VetoLane) (step : LaneStep) (h : enabled s step = true) :
    (vetoLaneRuns digest .empty []).next s step (after s step) := by
  cases step with
  | call call mintEpoch => rfl
  | registered registration id =>
      simp only [enabled, Bool.and_eq_true, Option.any_eq_true, decide_eq_true_eq] at h
      obtain ⟨⟨r, hr, hpending⟩, hfresh⟩ := h
      refine ⟨r, hr, hpending, ?_, by simp only [after, hr]⟩
      rintro id' rfl r' hr'
      simp only [Option.all_some, List.all_eq_true, decide_eq_true_eq] at hfresh
      exact hfresh r' hr'
  | resumed index =>
      simp only [enabled, Option.any_eq_true, Bool.and_eq_true] at h
      obtain ⟨c, hc, hstate, r, hr, hsettled⟩ := h
      obtain ⟨registration, hheld, hr'⟩ := Option.bind_eq_some_iff.mp hr
      refine ⟨c, registration, r, hc, ?_, hr', by simpa using hsettled, by simp only [after, hc, hr]⟩
      cases hc' : c.state with
      | opening registration' =>
          rw [hc'] at hheld
          exact .inl (congrArg LaneState.opening (Option.some.inj hheld))
      | settling registration' =>
          rw [hc'] at hheld
          exact .inr (congrArg LaneState.settling (Option.some.inj hheld))
      | asking registration' id => simp [hc'] at hstate
      | done result => simp [hc'] at hstate
  | answered index answer =>
      simp only [enabled, Option.any_eq_true] at h
      obtain ⟨c, hc, hstate⟩ := h
      cases hc' : c.state with
      | asking registration id => exact ⟨c, registration, id, hc, hc', by simp only [after, hc, hc']⟩
      | opening registration => simp [hc'] at hstate
      | settling registration => simp [hc'] at hstate
      | done result => simp [hc'] at hstate

def start : VetoLane :=
  ⟨.empty, [], []⟩

/-- A window opens, two more calls ask about it, and both are told it is released. -/
def released : List LaneStep :=
  [.call call (some 1), .registered 0 (some (js "veto_1")), .resumed 0, .call call (some 1), .resumed 1,
    .call call (some 1), .resumed 2, .answered 1 (some (.released, none)), .answered 2 (some (.released, none))]

theorem exec_released : (vetoLaneRuns digest .empty []).Exec (Lts.trace after start released)
    (released.foldl after start) :=
  .trace next_of_enabled rfl (by decide +kernel)

/-- Two calls ask about a window; the first is told it is released, the other that it is spent, and the next call opens
    another. -/
def releasedOnce : List LaneStep :=
  [.call call (some 1), .registered 0 (some (js "veto_1")), .resumed 0, .call call (some 1), .resumed 1,
    .call call (some 1), .resumed 2, .answered 1 (some (.released, none)), .answered 2 (some (.spent, none)),
    .call call (some 1), .registered 1 (some (js "veto_2")), .resumed 3]

theorem exec_releasedOnce : (vetoLaneRuns digest .empty []).Exec (Lts.trace after start releasedOnce)
    (releasedOnce.foldl after start) :=
  .trace next_of_enabled rfl (by decide +kernel)

/-- A window spent while two calls ask about it; after the first answer a new one opens and is vetoed, and then
    the second answer about the old one arrives. -/
def lateSpent : List LaneStep :=
  [.call call (some 1), .registered 0 (some (js "veto_1")), .resumed 0, .call call (some 1), .resumed 1,
    .call call (some 1), .resumed 2, .answered 1 (some (.spent, none)), .call call (some 2),
    .registered 1 (some (js "veto_2")), .resumed 3, .call call (some 2), .resumed 4,
    .answered 4 (some (.vetoed, none)), .answered 2 (some (.spent, none)), .call call (some 2)]

theorem exec_lateSpent : (vetoLaneRuns digest .empty []).Exec (Lts.trace after start lateSpent)
    (lateSpent.foldl after start) :=
  .trace next_of_enabled rfl (by decide +kernel)

/-- A window is vetoed, and the next call is told so too. -/
def vetoed : List LaneStep :=
  [.call call (some 1), .registered 0 (some (js "veto_1")), .resumed 0, .call call (some 1), .resumed 1,
    .answered 1 (some (.vetoed, none)), .call call (some 1), .resumed 2, .answered 2 (some (.vetoed, none))]

theorem exec_vetoed : (vetoLaneRuns digest .empty []).Exec (Lts.trace after start vetoed) (vetoed.foldl after start) :=
  .trace next_of_enabled rfl (by decide +kernel)

/-- The step drops no window. -/
def keeps (e : Lts.Edge VetoLane LaneStep) : Bool :=
  (match e.label with
    | .answered _ (some (status, _)) => status != .missing && status != .spent && status != .released
    | _ => true) &&
  e.src.registrations.all fun r => r.id != .rejected

/-- In a run whose steps drop no window none is lost. -/
theorem droppedByLoss_of_keeps {es : List (Lts.Edge VetoLane LaneStep)} (h : es.all keeps = true) :
    DroppedByLoss digest es := by
  rintro e f key registration registration' ⟨pre, mid, post, rfl⟩ - - ⟨index, c, -, -, -, hdrops⟩
  have hkeeps : keeps f = true := List.all_eq_true.mp h f (by simp)
  rw [keeps, Bool.and_eq_true] at hkeeps
  rcases hdrops with ⟨-, r, hr, hrejected⟩ | ⟨status, grant, hlabel, hstatus⟩
  · have hall := List.all_eq_true.mp hkeeps.2 r (List.mem_of_getElem? hr)
    simp [hrejected] at hall
  · rw [hlabel] at hkeeps
    rcases hstatus with rfl | rfl | rfl
    · simp at hkeeps
    · simp at hkeeps
    · simp at hkeeps

end LaneSample

/-- Two calls that share a window, one of them told it is released. -/
theorem window_runs_once_released : OneRun (Lts.trace LaneSample.after LaneSample.start LaneSample.releasedOnce) ↔
    ReleasedApart (Lts.trace LaneSample.after LaneSample.start LaneSample.releasedOnce) :=
  window_runs_once LaneSample.exec_releasedOnce

/-- Two calls that ask about a window at once are both forwarded. -/
theorem released_window_runs_twice :
    ¬ ∀ (digest : JsString → JsString) (routes : JsMap JsString ExecutorRoute) (policyVersion : JsString)
        (es : List (Lts.Edge VetoLane LaneStep)) (s : VetoLane),
      (vetoLaneRuns digest routes policyVersion).Exec es s → OneRun es := by
  intro h
  have hone := h LaneSample.digest .empty [] _ _ LaneSample.exec_released
  have hexec := LaneSample.exec_released
  have hsplit : Lts.trace LaneSample.after LaneSample.start LaneSample.released
      = Lts.trace LaneSample.after LaneSample.start (LaneSample.released.take 7) ++
        Lts.trace LaneSample.after ((LaneSample.released.take 7).foldl LaneSample.after LaneSample.start)
          [.answered 1 (some (.released, none)), .answered 2 (some (.released, none))] := rfl
  rw [hsplit] at hone hexec
  obtain ⟨-, hfirst, hpath⟩ := hexec.split
  obtain ⟨-, hsecond, -⟩ := hpath.cons_inv
  refine hone _ _ (js "veto_1") ⟨_, [], [], rfl⟩ ((enters_iff hfirst).mpr ?_) ((enters_iff hsecond).mpr ?_)
  · exact ⟨1, 0, _, none, rfl, rfl, rfl⟩
  · exact ⟨2, 0, _, none, rfl, rfl, rfl⟩

/-- The no of the owner stands. -/
theorem no_is_final_vetoed :
    NoIsFinal LaneSample.digest (Lts.trace LaneSample.after LaneSample.start LaneSample.vetoed) :=
  no_is_final LaneSample.exec_vetoed (LaneSample.droppedByLoss_of_keeps (by decide +kernel))

/-- A late answer about an older window drops the vetoed one, and the next call opens another. -/
theorem no_forgotten_after_late_answer :
    ¬ ∀ (digest : JsString → JsString) (routes : JsMap JsString ExecutorRoute) (policyVersion : JsString)
        (es : List (Lts.Edge VetoLane LaneStep)) (s : VetoLane),
      (vetoLaneRuns digest routes policyVersion).Exec es s → NoIsFinal digest es := by
  intro h
  have hfinal := h LaneSample.digest .empty [] _ _ LaneSample.exec_lateSpent
  have hsplit : Lts.trace LaneSample.after LaneSample.start LaneSample.lateSpent
      = Lts.trace LaneSample.after LaneSample.start (LaneSample.lateSpent.take 13) ++
        Lts.trace LaneSample.after ((LaneSample.lateSpent.take 13).foldl LaneSample.after LaneSample.start)
          [.answered 4 (some (.vetoed, none)), .answered 2 (some (.spent, none)), .call LaneSample.call (some 2)] := rfl
  obtain ⟨m, hm, index, id, c, grant, hlabel, -⟩ := hfinal _ _ [_] _ [] (js "5c1f") 1 5 hsplit
    ⟨4, _, js "veto_2", none, rfl, rfl, rfl, rfl, rfl⟩
    ⟨_, List.mem_append_right _ (List.mem_singleton_self _), LaneSample.call, some 2, rfl, rfl, rfl⟩
    ⟨_, rfl, fun heq => Option.some_ne_none _ (heq.symm.trans (rfl : _ = none)), .inl ⟨2, rfl⟩⟩
  simp only [List.cons_append, List.nil_append, List.mem_cons, List.not_mem_nil, or_false] at hm
  rcases hm with rfl | rfl
  · cases hlabel
  · cases hlabel

end OwnerSwitch
