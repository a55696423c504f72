/-
Module: OwnerSwitch.Escalation.LadderAlerts
Layer: Escalation
Purpose: When a rung comes due, it is sent, refused by a cap, or every open window is confirmed. A confirmed
  stand-down spends the rungs that are not due yet, so the law holds of a run exactly if no window joins it
  between such a stand-down and the time those rungs come due.
Imports: LadderRuns
Trusted boundary: none
Main exports: AlertLaw, NoLateJoin, alert_law_iff, late_window_unalerted
Open obligations: none
-/
import OwnerSwitch.Escalation.LadderCaps

namespace OwnerSwitch

namespace LadderEdge

/-- The open windows of the run a step finds. -/
def openWindows (x : LadderEdge) : List TrackedWindow :=
  match x.src.engine.run with
  | some run => run.open
  | none => []

/-- The step is a tick at or after the due time of a rung of the live run. -/
def due (x : LadderEdge) (i : Nat) : Bool :=
  match x.label, x.src.engine.run with
  | .tick nowMs, some run => x.src.engine.rungs[i]?.any fun rung => rung.afterMs ≤ nowMs - run.startedBy nowMs
  | _, _ => false

/-- The tick is the first of the live run at or after the rung's due time. -/
def FirstDue (pre : List LadderEdge) (x : LadderEdge) (i : Nat) : Prop :=
  x.due i = true ∧ ∀ d ∈ stormOf pre, LadderEdge.due d i = false

/-- The step makes the action, and makes it for the rung. -/
def Makes (x : LadderEdge) (i : Nat) (a : LadderAction) : Prop :=
  ∃ nowMs, x.label = .tick nowMs ∧ (i, a) ∈ (x.src.engine.tickPassed nowMs).2.2 ∧ a ∈ (x.src.engine.tick nowMs).2

/-- The step is a tick that finds every open window of the live run delivered. -/
def Calm (x : LadderEdge) : Prop :=
  ∃ nowMs run, x.label = .tick nowMs ∧ x.src.engine.run = some run ∧ LadderEngine.calm run = true

/-- The step stands the rungs down because every open window is confirmed. -/
def Confirms (x : LadderEdge) : Prop :=
  ∃ ids, .standDown ids .confirmed ∈ x.src.engine.actions x.label

/-- A window joins the live run. -/
def Joins (x : LadderEdge) : Prop :=
  ∃ windowId headline deadlineMs run, x.label = .windowOpened windowId headline deadlineMs ∧
    x.src.engine.run = some run ∧ run.windows.has windowId = false

end LadderEdge

/-- No open window is left without its alert. -/
structure AlertLaw (es : List LadderEdge) : Prop where
  /-- a rung passed over without a send was refused by a cap, or every open window was delivered -/
  passedOver : ∀ pre x post i, es = pre ++ x :: post → LadderEdge.FirstDue pre x i →
    (∃ channel alert, x.Makes i (.send channel alert)) ∨
    x.Makes i (.standDown (windowIdsOf x.openWindows) .capHit) ∨ ∀ w ∈ x.openWindows, w.delivered = true
  /-- a window open and undelivered when a rung comes due is covered by the rung's send or its stand-down -/
  covered : ∀ pre x post i, es = pre ++ x :: post → LadderEdge.FirstDue pre x i →
    ∀ w ∈ x.openWindows, w.delivered = false →
      (∃ channel alert, x.Makes i (.send channel alert) ∧ w.windowId ∈ alert.windowIds) ∨
      ∃ ids, x.Makes i (.standDown ids .capHit) ∧ w.windowId ∈ ids
  /-- a confirmed stand-down leaves the rungs that are not due yet to a window that joins later -/
  heard : ∀ pre d post, es = pre ++ d :: post → d.Joins → (∃ x ∈ stormOf pre, LadderEdge.Confirms x) →
    ∀ i < d.src.engine.rungs.length, (∀ y ∈ stormOf pre, LadderEdge.due y i = false) → ∀ y ∈ stormOf pre, i ∉ y.spends

/-- No window joins a run after one of its ticks found every open window delivered, unless each of the rungs has
    come due by then. -/
def NoLateJoin (es : List LadderEdge) : Prop :=
  ∀ pre d post, es = pre ++ d :: post → d.Joins → (∃ x ∈ stormOf pre, LadderEdge.Calm x) →
    ∀ i < d.src.engine.rungs.length, ∃ y ∈ stormOf pre, LadderEdge.due y i = true

/-! ### What a call does to the open windows -/

namespace LadderEngine

variable {e : LadderEngine} {op : LadderOp} {run run' : LadderRun}

theorem update_open {windowId : JsString} {g : TrackedWindow → TrackedWindow}
    (hg : ∀ w, (g w).closed = false → w.closed = false ∧ (w.delivered = true → (g w).delivered = true))
    (h : ∀ w ∈ run.open, w.delivered = true) : ∀ w ∈ (run.update windowId g).open, w.delivered = true := by
  intro w hw
  unfold LadderRun.update at hw
  cases hget : run.windows.get? windowId with
  | none =>
      rw [hget] at hw
      exact h w hw
  | some tracked =>
      rw [hget] at hw
      have hmem := List.mem_filter.mp hw
      rcases JsMap.mem_values_set hmem.1 with rfl | hold
      · have hclosed : (g tracked).closed = false := by simpa using hmem.2
        obtain ⟨hopen, hdelivered⟩ := hg tracked hclosed
        apply hdelivered
        apply h
        exact List.mem_filter.mpr ⟨JsMap.mem_values.mpr ⟨windowId, hget⟩, by simpa using hopen⟩
      · exact h w (List.mem_filter.mpr ⟨hold, hmem.2⟩)

/-- Where every open window is delivered, a call leaves it so unless a window joins. -/
theorem after_delivered (hrun : e.run = some run) (hrun' : (e.after op).run = some run')
    (hall : ∀ w ∈ run.open, w.delivered = true)
    (hjoin : ∀ windowId headline deadlineMs, op = .windowOpened windowId headline deadlineMs →
      run.windows.has windowId = true) :
    ∀ w ∈ run'.open, w.delivered = true := by
  cases op with
  | windowOpened windowId headline deadlineMs =>
      unfold after windowOpened at hrun'
      rw [hrun] at hrun'
      dsimp only at hrun'
      rw [if_pos (hjoin windowId headline deadlineMs rfl), hrun] at hrun'
      rw [← Option.some.inj hrun']
      exact hall
  | windowDelivered windowId =>
      unfold after windowDelivered at hrun'
      rw [hrun] at hrun'
      rw [← Option.some.inj hrun']
      exact update_open (fun w hclosed => ⟨hclosed, fun _ => rfl⟩) hall
  | windowClosed windowId =>
      unfold after windowClosed at hrun'
      rw [hrun] at hrun'
      rw [← Option.some.inj hrun']
      exact update_open (fun w hclosed => by cases hclosed) hall
  | windowDeadline windowId deadlineMs =>
      unfold after windowDeadline at hrun'
      rw [hrun] at hrun'
      rw [← Option.some.inj hrun']
      exact update_open (fun w hclosed => ⟨hclosed, id⟩) hall
  | channelEvent event =>
      rw [show (e.after (.channelEvent event)).run = e.run from channelEvent_run event, hrun] at hrun'
      rw [← Option.some.inj hrun']
      exact hall
  | tick nowMs =>
      have hopen := tick_open hrun hrun'
      rw [hopen]
      exact hall

end LadderEngine

/-! ### Rungs that are spent before they are due -/

namespace LadderEdge

variable {x : LadderEdge} {i : Nat}

theorem due_iff : x.due i = true ↔ ∃ nowMs run rung, x.label = .tick nowMs ∧ x.src.engine.run = some run ∧
    x.src.engine.rungs[i]? = some rung ∧ rung.afterMs ≤ nowMs - run.startedBy nowMs := by
  unfold due
  constructor
  · intro h
    split at h
    · next nowMs run hlabel hrun =>
        obtain ⟨rung, hrung, hdue⟩ := (Option.any_eq_true _ _).mp h
        exact ⟨nowMs, run, rung, hlabel, hrun, hrung, of_decide_eq_true hdue⟩
    · cases h
  · rintro ⟨nowMs, run, rung, hlabel, hrun, hrung, hdue⟩
    rw [hlabel, hrun, hrung]
    exact decide_eq_true hdue

/-- A rung is fired or skipped when it is due, or at a tick that finds every open window delivered. -/
theorem spends_due_or_calm (h : i ∈ x.spends) : x.due i = true ∨ x.Calm := by
  unfold LadderEdge.spends LadderEngine.spends at h
  cases hlabel : x.label with
  | tick nowMs =>
      rw [hlabel] at h
      dsimp only at h
      cases hrun : x.src.engine.run with
      | none =>
          rw [hrun] at h
          cases h
      | some run =>
          rw [hrun] at h
          dsimp only at h
          by_cases hcalm : LadderEngine.calm run = true
          · exact .inr ⟨nowMs, run, hlabel, hrun, hcalm⟩
          · left
            rw [if_neg hcalm] at h
            split at h
            · cases h
            · have hticked := LadderEngine.tickPassed_ticked x.src.engine nowMs
              generalize x.src.engine.tickPassed nowMs = ticked at hticked h
              cases hticked with
              | idle => cases h
              | ended => cases h
              | calm => cases h
              | fired live unconfirmed passes =>
                  rw [hrun] at live
                  obtain rfl := Option.some.inj live
                  obtain ⟨⟨j, a⟩, hmem, rfl⟩ := List.mem_map.mp h
                  obtain ⟨-, k, rung, hk, hrung, hdue, -⟩ := passes.sound j a hmem
                  rw [Nat.zero_add] at hk
                  exact due_iff.mpr ⟨nowMs, run, rung, hlabel, hrun, hk ▸ hrung, hdue⟩
  | _ =>
      rw [hlabel] at h
      cases h

/-- A calm tick that skips a rung says so. -/
theorem confirms_of_calm (hcalm : x.Calm) (h : i ∈ x.spends) : x.Confirms := by
  obtain ⟨nowMs, run, hlabel, hrun, hcalm⟩ := hcalm
  have hopen := (LadderEngine.calm_iff.mp hcalm).1
  unfold LadderEdge.spends LadderEngine.spends at h
  rw [hlabel, hrun] at h
  dsimp only at h
  rw [if_neg hopen, if_pos hcalm, List.mem_filter] at h
  have hunfired : (List.range x.src.engine.rungs.length).any (fun i => i ∉ run.fired) = true :=
    List.any_eq_true.mpr ⟨i, h.1, h.2⟩
  refine ⟨windowIdsOf run.open, ?_⟩
  rw [hlabel]
  show _ ∈ (x.src.engine.tickPassed nowMs).2.1
  have hticked := LadderEngine.tickPassed_ticked x.src.engine nowMs
  generalize x.src.engine.tickPassed nowMs = ticked at hticked
  cases hticked with
  | idle norun =>
      rw [norun] at hrun
      cases hrun
  | ended live gone =>
      rw [hrun] at live
      obtain rfl := Option.some.inj live
      exact absurd gone hopen
  | calm live some confirmed stands =>
      rw [hrun] at live
      obtain rfl := Option.some.inj live
      rw [if_pos hunfired] at stands
      rw [stands]
      exact List.mem_append_right _ (List.mem_singleton_self _)
  | fired live unconfirmed passes =>
      rw [hrun] at live
      obtain rfl := Option.some.inj live
      obtain ⟨w, hw, hfalse⟩ := unconfirmed
      rw [(LadderEngine.calm_iff.mp hcalm).2 w hw] at hfalse
      cases hfalse

/-- Only a calm tick stands rungs down as confirmed; what is queued are relays. -/
theorem Confirms.calm (hqueued : x.src.engine.Queued) (h : x.Confirms) : x.Calm := by
  obtain ⟨ids, hmem⟩ := h
  cases hlabel : x.label with
  | tick nowMs =>
      rw [hlabel] at hmem
      change _ ∈ (x.src.engine.tickPassed nowMs).2.1 at hmem
      have hpending : .standDown ids .confirmed ∉ x.src.engine.pending := by
        intro hin
        obtain ⟨_, _, _, hrelay⟩ := hqueued _ hin
        cases hrelay
      have hdropped : ∀ run, .standDown ids .confirmed ∉ (LadderEngine.dropClosed run).2 := by
        intro run hin
        obtain ⟨_, hstood⟩ := LadderEngine.dropClosed_actions run hin
        cases hstood
      have hticked := LadderEngine.tickPassed_ticked x.src.engine nowMs
      generalize x.src.engine.tickPassed nowMs = ticked at hticked hmem
      cases hticked with
      | idle => exact absurd hmem hpending
      | ended =>
          rcases List.mem_append.mp hmem with hmem | hmem
          · exact absurd hmem hpending
          · exact absurd hmem (hdropped _)
      | calm live some confirmed stands =>
          exact ⟨nowMs, _, hlabel, live, LadderEngine.calm_iff.mpr ⟨some, confirmed⟩⟩
      | fired live unconfirmed passes =>
          rcases List.mem_append.mp hmem with hmem | hmem
          · rcases List.mem_append.mp hmem with hmem | hmem
            · exact absurd hmem hpending
            · exact absurd hmem (hdropped _)
          · obtain ⟨⟨j, a⟩, hin, ha⟩ := List.mem_map.mp hmem
            obtain ⟨-, _, _, -, -, -, haction⟩ := passes.sound j a hin
            obtain rfl : a = .standDown ids .confirmed := ha
            rcases haction with haction | haction <;> cases haction
  | _ =>
      rw [hlabel] at hmem
      cases hmem

/-- A tick that finds a rung due and unspent answers it, unless every open window is delivered. -/
theorem answers_due {run : LadderRun} (hrun : x.src.engine.run = some run) (hdue : x.due i = true)
    (hfired : i ∉ run.fired) :
    (∃ channel, x.Makes i (.send channel (alertFor run.open))) ∨
      x.Makes i (.standDown (windowIdsOf run.open) .capHit) ∨ ∀ w ∈ run.open, w.delivered = true := by
  obtain ⟨nowMs, run', rung, hlabel, hrun', hrung, hafter⟩ := due_iff.mp hdue
  rw [hrun] at hrun'
  obtain rfl := Option.some.inj hrun'
  have hmakes : ∀ a, (i, a) ∈ (x.src.engine.tickPassed nowMs).2.2 → a ∈ (x.src.engine.tickPassed nowMs).2.1 →
      x.Makes i a := fun a hpassed hmade => ⟨nowMs, hlabel, hpassed, hmade⟩
  have hticked := LadderEngine.tickPassed_ticked x.src.engine nowMs
  generalize x.src.engine.tickPassed nowMs = ticked at hticked hmakes
  cases hticked with
  | idle norun =>
      rw [norun] at hrun
      cases hrun
  | ended live gone =>
      rw [hrun] at live
      obtain rfl := Option.some.inj live
      rw [gone]
      exact .inr (.inr nofun)
  | calm live some confirmed =>
      rw [hrun] at live
      obtain rfl := Option.some.inj live
      exact .inr (.inr confirmed)
  | fired live unconfirmed passes =>
      rw [hrun] at live
      obtain rfl := Option.some.inj live
      have hspent := passes.complete i rung hrung hafter
      rw [Nat.zero_add, passes.fired, Finset.mem_union] at hspent
      obtain ⟨⟨j, a⟩, hmem, rfl⟩ := List.mem_map.mp (List.mem_toFinset.mp (hspent.resolve_left hfired))
      have hmade := hmakes a hmem (List.mem_append_right _ (List.mem_map_of_mem hmem))
      obtain ⟨-, _, _, -, -, -, haction⟩ := passes.sound _ a hmem
      rcases haction with rfl | rfl
      · exact .inl ⟨_, hmade⟩
      · exact .inr (.inl hmade)

end LadderEdge

/-! ### Runs -/

section Runs

variable {opts : LadderEngineOptions} {engine : LadderEngine} {es : List LadderEdge} {t : LadderState}
  {run : LadderRun}

theorem NoLateJoin.of_append {fs : List LadderEdge} (h : NoLateJoin (es ++ fs)) : NoLateJoin es := by
  intro pre d post hes
  apply h pre d (post ++ fs)
  rw [hes]
  simp

/-- A calm tick spends every rung of the run. -/
theorem spent_of_calm (h : (ladderRuns engine).Exec es t) (hrun : t.engine.run = some run) {x : LadderEdge}
    (hx : x ∈ stormOf es) (hcalm : x.Calm) {i : Nat} (hi : i < t.engine.rungs.length) : i ∈ run.fired := by
  revert run
  refine h.induct (I := fun es t => x ∈ stormOf es → i < t.engine.rungs.length →
    ∀ {run : LadderRun}, t.engine.run = some run → i ∈ run.fired) ?_ ?_ hx hi
  · intro s _ hx
    cases hx
  · rintro es s op t hes ih ⟨henabled, rfl⟩ hx hi run' hrun'
    cases hrun : s.engine.run with
    | none =>
        rw [stormOf_snoc_idle hrun] at hx
        cases hx
    | some run =>
        have hspent := LadderEngine.after_spent hrun hrun'
        have hrungs : (s.engine.after op).rungs = s.engine.rungs := (LadderEngine.after_config _ op).rungs
        change i < (s.engine.after op).rungs.length at hi
        rw [hrungs] at hi
        rw [hspent.fired]
        rw [stormOf_snoc_live hrun] at hx
        rcases List.mem_append.mp hx with hx | hx
        · exact .inl (ih hx hi hrun)
        · obtain rfl := List.mem_singleton.mp hx
          obtain ⟨nowMs, run₁, hlabel, hrun₁, hcalm⟩ := hcalm
          dsimp only at hlabel hrun₁
          rw [hrun] at hrun₁
          obtain rfl := Option.some.inj hrun₁
          by_cases hfired : i ∈ run.fired
          · exact .inl hfired
          · right
            have hopen := (LadderEngine.calm_iff.mp hcalm).1
            unfold LadderEngine.spends
            rw [hlabel, hrun]
            dsimp only
            rw [if_neg hopen, if_pos hcalm, List.mem_filter, List.mem_range]
            exact ⟨hi, decide_eq_true hfired⟩

/-- A rung that is spent came due at a step of the live run, or one of its ticks was calm. -/
theorem fired_due_or_calm (hmake : LadderEngine.make opts = .ok engine) (h : (ladderRuns engine).Exec es t)
    (hrun : t.engine.run = some run) {i : Nat} (hi : i ∈ run.fired) :
    (∃ y ∈ stormOf es, LadderEdge.due y i = true) ∨ ∃ y ∈ stormOf es, LadderEdge.Calm y := by
  obtain ⟨y, hy, hspends⟩ := (exec_fired hmake h hrun i).mp hi
  rcases LadderEdge.spends_due_or_calm hspends with hdue | hcalm
  · exact .inl ⟨y, hy, hdue⟩
  · exact .inr ⟨y, hy, hcalm⟩

/-- Where no window joins late, a rung spent before it was due leaves only delivered windows behind. -/
theorem early_delivered (hmake : LadderEngine.make opts = .ok engine) (h : (ladderRuns engine).Exec es t)
    (hjoin : NoLateJoin es) (hrun : t.engine.run = some run) {i : Nat} (hi : i ∈ run.fired)
    (hbound : i < t.engine.rungs.length) (hearly : ∀ y ∈ stormOf es, LadderEdge.due y i = false) :
    ∀ w ∈ run.open, w.delivered = true := by
  revert run
  refine h.induct (I := fun es t => NoLateJoin es → i < t.engine.rungs.length →
    (∀ y ∈ stormOf es, LadderEdge.due y i = false) → ∀ {run : LadderRun}, t.engine.run = some run → i ∈ run.fired →
    ∀ w ∈ run.open, w.delivered = true) ?_ ?_ hjoin hbound hearly
  · intro s hs _ _ _ run hrun
    rw [show s.engine = engine from hs, (make_ok hmake).1] at hrun
    cases hrun
  · rintro es s op t hes ih ⟨henabled, rfl⟩ hjoin hbound hearly run' hrun' hi
    have hrungs : (s.engine.after op).rungs = s.engine.rungs := (LadderEngine.after_config _ op).rungs
    change i < (s.engine.after op).rungs.length at hbound
    rw [hrungs] at hbound
    cases hrun : s.engine.run with
    | none =>
        obtain ⟨hempty, -⟩ := LadderEngine.after_starts hrun hrun'
        rw [hempty] at hi
        cases hi
    | some run =>
        rw [stormOf_snoc_live hrun] at hearly
        have hearly' : ∀ y ∈ stormOf es, LadderEdge.due y i = false :=
          fun y hy => hearly y (List.mem_append_left _ hy)
        have hspent := LadderEngine.after_spent hrun hrun'
        rcases (hspent.fired i).mp hi with hfired | hspends
        · have hall := ih hjoin.of_append hbound hearly' hrun hfired
          apply LadderEngine.after_delivered hrun hrun' hall
          rintro windowId headline deadlineMs rfl
          by_contra hnew
          -- a window joins: the rung was spent by a calm tick, so it has come due
          have hcalm := (fired_due_or_calm hmake hes hrun hfired).resolve_left
            fun ⟨y, hy, hdue⟩ => by rw [hearly' y hy] at hdue; cases hdue
          obtain ⟨y, hy, hdue⟩ := hjoin es _ [] rfl
            ⟨windowId, headline, deadlineMs, run, rfl, hrun, Bool.eq_false_of_not_eq_true hnew⟩ hcalm i hbound
          rw [hearly' y hy] at hdue
          cases hdue
        · have hnotdue := hearly ⟨s, op, s.after op⟩ (List.mem_append_right _ (List.mem_singleton_self _))
          have hcalm := (LadderEdge.spends_due_or_calm
            (show i ∈ LadderEdge.spends ⟨s, op, s.after op⟩ from hspends)).resolve_left
            fun hdue => by rw [hnotdue] at hdue; cases hdue
          obtain ⟨nowMs, run₁, hlabel, hrun₁, hcalm⟩ := hcalm
          dsimp only at hlabel hrun₁
          rw [hrun] at hrun₁
          obtain rfl := Option.some.inj hrun₁
          subst hlabel
          rw [LadderEngine.tick_open hrun hrun']
          exact (LadderEngine.calm_iff.mp hcalm).2

/-- The law at the first tick at or after a rung's due time. -/
theorem first_due_answered {pre post : List LadderEdge} {x : LadderEdge} {i : Nat}
    (hmake : LadderEngine.make opts = .ok engine) (h : (ladderRuns engine).Exec (pre ++ x :: post) t)
    (hjoin : NoLateJoin (pre ++ x :: post)) (hfirst : LadderEdge.FirstDue pre x i) :
    (∃ channel, x.Makes i (.send channel (alertFor x.openWindows))) ∨
      x.Makes i (.standDown (windowIdsOf x.openWindows) .capHit) ∨ ∀ w ∈ x.openWindows, w.delivered = true := by
  obtain ⟨hpre, -, -⟩ := h.split
  obtain ⟨hdue, hearly⟩ := hfirst
  obtain ⟨nowMs, run, rung, hlabel, hrun, hrung, -⟩ := LadderEdge.due_iff.mp hdue
  have hopen : x.openWindows = run.open := by
    unfold LadderEdge.openWindows
    rw [hrun]
  rw [hopen]
  by_cases hfired : i ∈ run.fired
  · have hbound : i < x.src.engine.rungs.length := (List.getElem?_eq_some_iff.mp hrung).1
    exact .inr (.inr (early_delivered hmake hpre hjoin.of_append hrun hfired hbound hearly))
  · exact LadderEdge.answers_due hrun hdue hfired

/-- The law holds of a run exactly if no window joins it after a confirmed stand-down that came before a rung
    was due. -/
theorem alert_law_iff (hmake : LadderEngine.make opts = .ok engine) (h : (ladderRuns engine).Exec es t) :
    AlertLaw es ↔ NoLateJoin es := by
  constructor
  · rintro hlaw pre d post rfl hjoins ⟨x, hx, hcalm⟩ i hi
    by_contra hnone
    push Not at hnone
    have hearly : ∀ y ∈ stormOf pre, LadderEdge.due y i = false :=
      fun y hy => Bool.eq_false_of_not_eq_true (hnone y hy)
    obtain ⟨hpre, -, -⟩ := h.split
    obtain ⟨_, _, _, run, -, hrun, -⟩ := id hjoins
    have hfired := spent_of_calm hpre hrun hx hcalm hi
    obtain ⟨y, hy, hspends⟩ := (exec_fired hmake hpre hrun i).mp hfired
    have hcalmy := (LadderEdge.spends_due_or_calm hspends).resolve_left (hnone y hy)
    exact hlaw.heard pre d post rfl hjoins ⟨y, hy, LadderEdge.confirms_of_calm hcalmy hspends⟩ i hi hearly y hy
      hspends
  · intro hjoin
    constructor
    · rintro pre x post i rfl hfirst
      rcases first_due_answered hmake h hjoin hfirst with ⟨channel, hsend⟩ | hrest
      · exact .inl ⟨channel, _, hsend⟩
      · exact .inr hrest
    · rintro pre x post i rfl hfirst w hw hundelivered
      have hid : w.windowId ∈ windowIdsOf x.openWindows := List.mem_map_of_mem hw
      rcases first_due_answered hmake h hjoin hfirst with ⟨channel, hsend⟩ | hcapped | hall
      · exact .inl ⟨channel, _, hsend, hid⟩
      · exact .inr ⟨_, hcapped, hid⟩
      · rw [hall w hw] at hundelivered
        cases hundelivered
    · rintro pre d post rfl hjoins ⟨x, hx, hconfirms⟩ i hi hearly
      obtain ⟨hpre, -, -⟩ := h.split
      obtain ⟨a, b, hsplit⟩ := List.append_of_mem (mem_of_mem_stormOf hx)
      have hqueued : x.src.engine.Queued := by
        rw [hsplit] at hpre
        exact (exec_accounts hmake hpre.split.1).2.1
      obtain ⟨y, hy, hdue⟩ := hjoin pre d post rfl hjoins ⟨x, hx, hconfirms.calm hqueued⟩ i hi
      rw [hearly y hy] at hdue
      cases hdue

end Runs

namespace LadderSample

/-- One text, due two and a half minutes into a run. -/
def texting : LadderEngine :=
  started [⟨150000, .sms⟩] defaultLimits defaultCostUsd

theorem make_texting : LadderEngine.make (options [⟨150000, .sms⟩] defaultLimits defaultCostUsd) = .ok texting :=
  make_options rfl (by decide) sensible_default

/-- Both windows join before the first of them is confirmed. -/
def joinedEarly : List LadderOp :=
  [.windowOpened (js "v-1") (js "bash") 240000, .tick 0, .windowOpened (js "v-2") (js "bash") 300000,
    .windowDelivered (js "v-1"), .tick 150000]

/-- The first window is confirmed before the text is due, and a second one joins. -/
def joinedLate : List LadderOp :=
  [.windowOpened (js "v-1") (js "bash") 240000, .tick 0, .windowDelivered (js "v-1"), .tick 30000,
    .windowOpened (js "v-2") (js "bash") 300000]

end LadderSample

open LadderSample in
/-- The text covers the window that joined before the confirmation. -/
theorem alert_law_iff_sample :
    AlertLaw (Lts.trace LadderState.after ⟨texting, 0⟩ joinedEarly) ↔
      NoLateJoin (Lts.trace LadderState.after ⟨texting, 0⟩ joinedEarly) :=
  alert_law_iff make_texting (exec _ _ (by decide +kernel))

open LadderSample in
/-- The second window is open and undelivered when the text comes due, and nothing is sent. -/
theorem late_window_unalerted :
    ¬ ∀ (opts : LadderEngineOptions) (engine : LadderEngine) (es : List LadderEdge) (t : LadderState),
      LadderEngine.make opts = .ok engine → (ladderRuns engine).Exec es t → AlertLaw es := by
  intro h
  have hexec := exec_snoc texting joinedLate (.tick 150000) (by decide +kernel)
  have hcovered := (h _ _ _ _ make_texting hexec).covered _ _ [] 0 rfl ⟨by decide +kernel, by decide +kernel⟩
    ⟨js "v-2", js "bash", 300000, false, false⟩ (by decide +kernel) rfl
  have hnothing : (LadderEngine.tickPassed (joinedLate.foldl LadderState.after ⟨texting, 0⟩).engine 150000).2.2.isEmpty
      = true := by decide +kernel
  rw [List.isEmpty_iff] at hnothing
  have hmakes : ∀ a, ¬ LadderEdge.Makes ⟨joinedLate.foldl LadderState.after ⟨texting, 0⟩, .tick 150000,
      LadderState.after (joinedLate.foldl LadderState.after ⟨texting, 0⟩) (.tick 150000)⟩ 0 a := by
    rintro a ⟨nowMs, hlabel, hpassed, -⟩
    cases hlabel
    rw [hnothing] at hpassed
    cases hpassed
  rcases hcovered with ⟨_, _, hsend, -⟩ | ⟨_, hstood, -⟩
  · exact hmakes _ hsend
  · exact hmakes _ hstood

end OwnerSwitch
