/-
Module: OwnerSwitch.Escalation.ServiceRuns
Layer: Escalation
Purpose: A stop from a channel is relayed at every tick and never confirmed falsely, over any interleaving of
  ticks, callbacks and answers, as long as the control plane refuses no relay, accepts those of a pressed key
  and lets none hang over a tick. A refused relay is dropped, relays are made one after another, and the reply
  to a key press does not look at them.
Imports: LadderRuns, Service
Trusted boundary: the clock, the answers of the control plane, the channels with their callback verification
Main exports: StopLaw, AnsweredWell, Prompt, stop_law, stop_lost
Open obligations: none
-/
import OwnerSwitch.Escalation.LadderRuns
import OwnerSwitch.Escalation.Service

namespace OwnerSwitch

abbrev ServiceEdge := Lts.Edge EscalationService ServiceStep

/-- The relay an activity awaits. -/
def ActivityState.relay? : ActivityState → Option VetoRelay
  | .retrying (relay :: _) => some relay
  | .performing (.relay relay :: _) _ => some relay
  | _ => none

/-- The relays an activity awaits or will make. -/
def ActivityState.relays : ActivityState → List VetoRelay
  | .retrying relays => relays
  | .performing jobs _ => jobs.filterMap fun job => match job with
      | .relay relay => some relay
      | .send _ _ => none
  | _ => []

/-- How the activity answers its caller at the end. -/
def ActivityState.reply : ActivityState → Option JsString
  | .performing _ reply => reply
  | .done reply => reply
  | _ => none

/-- Some activity is at a relay for the window, or on its way to it. -/
def EscalationService.InHand (s : EscalationService) (w : JsString) : Prop :=
  ∃ state ∈ s.activities, ∃ r ∈ state.relays, r.windowId = w

/-- This activity is at a relay for the window, or on its way to it. -/
def EscalationService.Holds (s : EscalationService) (index : Nat) (w : JsString) : Prop :=
  ∃ state, s.activities[index]? = some state ∧ ∃ r ∈ state.relays, r.windowId = w

/-- This activity has sent a relay for the window and awaits its answer. -/
def EscalationService.Relaying (s : EscalationService) (index : Nat) (w : JsString) : Prop :=
  ∃ state, s.activities[index]? = some state ∧ ∃ r, state.relay? = some r ∧ r.windowId = w

/-- No activity is at a relay, or on its way to one. -/
def EscalationService.Quiet (s : EscalationService) : Prop :=
  ∀ state ∈ s.activities, state.relays = []

namespace ServiceEdge

/-- The step is a callback with a veto that covers the window, which is open. -/
def Covers (x : ServiceEdge) (w : JsString) : Prop :=
  ∃ path events now ids channel attribution, x.label = .callback path events now ∧
    .veto ids channel attribution ∈ events ∧ w ∈ x.src.engine.openWindowIds ∧ (ids = [] ∨ w ∈ ids)

/-- The step is a poll tick that has its listing, or goes on without one. -/
def Ticks (x : ServiceEdge) (index : Nat) : Prop :=
  ∃ listing now, x.label = .listed index listing now

/-- The window has left the pending listing. -/
def Leaves (x : ServiceEdge) (w : JsString) : Prop :=
  ∃ index listing now, x.label = .listed index (some listing) now ∧ w ∉ listing.map EscalationService.PendingWindow.id

/-- The control plane answers a relay for the window, or the transport fails. -/
def Answered (x : ServiceEdge) (index : Nat) (state : ActivityState) (w : JsString) (answer : RelayAnswer) : Prop :=
  ∃ now r, x.label = .finished index answer now ∧ x.src.activities[index]? = some state ∧ state.relay? = some r ∧
    r.windowId = w

/-- The control plane answers 200 or 409 for the window. -/
def Settles (x : ServiceEdge) (w : JsString) : Prop :=
  ∃ index state answer, x.Answered index state w answer ∧ (answer.ok = true ∨ answer = .status 409)

/-- The control plane accepts a relay of the activity for the window. -/
def Accepts (x : ServiceEdge) (index : Nat) (w : JsString) : Prop :=
  ∃ state answer, x.Answered index state w answer ∧ answer.ok = true

/-- The step is the callback the activity handles. -/
def Starts (x : ServiceEdge) (index : Nat) : Prop :=
  (∃ path events now, x.label = .callback path events now) ∧ index = x.src.activities.length

end ServiceEdge

/-- Each tick sends a relay for a window that was stopped, until the window is settled or leaves the listing. -/
def RelaysAgain (es : List ServiceEdge) : Prop :=
  ∀ pre c mid p post w index, es = pre ++ c :: (mid ++ p :: post) → ServiceEdge.Covers c w →
    w ∈ c.src.tracked → (∀ x ∈ mid ++ [p], ¬ ServiceEdge.Settles x w ∧ ¬ ServiceEdge.Leaves x w) →
    ServiceEdge.Ticks p index → ∃ x ∈ p :: post, x.dst.Relaying index w

/-- A caller is told that everything is stopped after every window of its event was accepted. -/
def ToldTruly (es : List ServiceEdge) : Prop :=
  ∀ pre x post, es = pre ++ x :: post → ∀ index, x.dst.activities[index]? = some (.done (some stoppedTwiml)) →
    ∀ c ∈ pre ++ [x], ServiceEdge.Starts c index → ∀ w, ServiceEdge.Covers c w →
      ∃ y ∈ pre ++ [x], ServiceEdge.Accepts y index w

/-- A channel stop is never lost and never falsely confirmed. -/
structure StopLaw (es : List ServiceEdge) : Prop where
  again : RelaysAgain es
  told : ToldTruly es

/-- The control plane refuses no relay, and accepts the relays of a pressed key. -/
structure AnsweredWell (es : List ServiceEdge) : Prop where
  unrefused : ∀ x ∈ es, ∀ index state w answer, ServiceEdge.Answered x index state w answer →
    answer.ok = true ∨ answer = .status 409 ∨ answer = .failed
  pressed : ∀ x ∈ es, ∀ index state w answer, ServiceEdge.Answered x index state w answer →
    state.reply = some stoppedTwiml → answer.ok = true

/-- Every relay is answered before the next poll has its listing, and before the run ends. -/
structure Prompt (es : List ServiceEdge) (t : EscalationService) : Prop where
  ticks : ∀ x ∈ es, ∀ index, ServiceEdge.Ticks x index → x.src.Quiet
  ended : t.Quiet

/-! ### What one step does -/

namespace EscalationService

variable {s t : EscalationService} {op : ServiceStep} {now : ℚ} {reply : Option JsString} {w : JsString}
  {state : ActivityState} {answer : RelayAnswer} {r : VetoRelay}
  {listing : Option (List EscalationService.PendingWindow)}

@[simp] theorem tickInto_tracked : (s.tickInto now reply).1.tracked = s.tracked := by
  unfold tickInto
  dsimp only
  split <;> rfl

@[simp] theorem tickInto_pendingRelays : (s.tickInto now reply).1.pendingRelays = s.pendingRelays := by
  unfold tickInto
  dsimp only
  split <;> rfl

@[simp] theorem tickInto_activities : (s.tickInto now reply).1.activities = s.activities := by
  unfold tickInto
  dsimp only
  split <;> rfl

theorem tickInto_reply : (s.tickInto now reply).2.reply = reply := by
  unfold tickInto
  dsimp only
  split <;> rfl

@[simp] theorem relayed_tracked : (s.relayed r answer).tracked = s.tracked := by
  cases answer <;> rfl

@[simp] theorem relayed_activities : (s.relayed r answer).activities = s.activities := by
  cases answer <;> rfl

/-- A relay that waits for its retry stays where another is answered. -/
theorem relayed_pendingRelays {r' : VetoRelay} (h : r' ∈ s.pendingRelays) :
    r' ∈ (s.relayed r answer).pendingRelays := by
  cases answer with
  | status => exact h
  | failed => exact List.mem_append_left _ h

/-- What the end of an await leaves alone, and what becomes of the relay that was under way. -/
structure Finishes (s : EscalationService) (state : ActivityState) (answer : RelayAnswer)
    (result : EscalationService × ActivityState) : Prop where
  tracked : result.1.tracked = s.tracked
  activities : result.1.activities = s.activities
  pendingRelays : ∀ r ∈ s.pendingRelays, r ∈ result.1.pendingRelays
  failed : ∀ r, state.relay? = some r → answer = .failed → r ∈ result.1.pendingRelays
  relays : ∀ r ∈ state.relays, state.relay? = some r ∨ r ∈ result.2.relays
  reply : result.2.reply = state.reply

/-- The end of an await is one of the cases. -/
theorem finished_finishes (s : EscalationService) (state : ActivityState) (answer : RelayAnswer) (now : ℚ) :
    Finishes s state answer (s.finished state answer now) := by
  have hidle : state.relay? = none → Finishes s state answer (s, state) := by
    intro hnone
    refine ⟨rfl, rfl, fun _ h => h, ?_, fun _ h => .inr h, rfl⟩
    intro r hr
    rw [hnone] at hr
    cases hr
  have hfailed : ∀ {relay r : VetoRelay}, some relay = some r → answer = .failed →
      r ∈ (s.relayed relay answer).pendingRelays := by
    rintro relay r hsame rfl
    obtain rfl := Option.some.inj hsame
    exact List.mem_append_right _ (List.mem_singleton_self _)
  cases state with
  | listing => exact hidle rfl
  | done => exact hidle rfl
  | retrying relays =>
      cases relays with
      | nil => exact hidle rfl
      | cons relay relays =>
          cases relays with
          | nil =>
              unfold finished
              dsimp only
              refine ⟨by simp, by simp, ?_, ?_, ?_, ?_⟩
              · intro r hr
                rw [tickInto_pendingRelays]
                exact relayed_pendingRelays hr
              · intro r hr hanswer
                rw [tickInto_pendingRelays]
                exact hfailed hr hanswer
              · intro r hr
                rw [List.mem_singleton.mp hr]
                exact .inl rfl
              · rw [tickInto_reply]
                rfl
          | cons next relays =>
              unfold finished
              dsimp only
              refine ⟨by simp, by simp, fun r hr => relayed_pendingRelays hr, fun r => hfailed, ?_, rfl⟩
              intro r hr
              rcases List.mem_cons.mp hr with rfl | hr
              · exact .inl rfl
              · exact .inr hr
  | performing jobs reply =>
      cases jobs with
      | nil => exact hidle rfl
      | cons job jobs =>
          cases job with
          | relay relay =>
              have hrest : ∀ r ∈ (ActivityState.performing (.relay relay :: jobs) reply).relays,
                  (ActivityState.performing (.relay relay :: jobs) reply).relay? = some r ∨
                    r ∈ (ActivityState.performing jobs reply).relays := by
                intro r hr
                rcases List.mem_cons.mp hr with rfl | hr
                · exact .inl rfl
                · exact .inr hr
              cases jobs with
              | nil =>
                  unfold finished
                  dsimp only
                  exact ⟨by simp, by simp, fun r hr => relayed_pendingRelays hr, fun r => hfailed, hrest, rfl⟩
              | cons next jobs =>
                  unfold finished
                  dsimp only
                  exact ⟨by simp, by simp, fun r hr => relayed_pendingRelays hr, fun r => hfailed, hrest, rfl⟩
          | send channel alert =>
              cases jobs with
              | nil => exact ⟨rfl, rfl, fun _ h => h, nofun, fun _ h => .inr h, rfl⟩
              | cons next jobs => exact ⟨rfl, rfl, fun _ h => h, nofun, fun _ h => .inr h, rfl⟩

/-- Observing a listed window leaves the relays and the activities, and drops no window. -/
theorem observe_frame (s : EscalationService) (p : EscalationService.PendingWindow) :
    (s.observe p).pendingRelays = s.pendingRelays ∧ (s.observe p).activities = s.activities ∧
      ∀ id ∈ s.tracked, id ∈ (s.observe p).tracked := by
  unfold observe
  dsimp only
  split
  · exact ⟨rfl, rfl, fun _ h => h⟩
  · exact ⟨rfl, rfl, fun _ h => List.mem_append_left _ h⟩

/-- So does observing a listing. -/
theorem foldl_observe_frame (ps : List EscalationService.PendingWindow) (s : EscalationService) :
    (ps.foldl observe s).pendingRelays = s.pendingRelays ∧ (ps.foldl observe s).activities = s.activities ∧
      ∀ id ∈ s.tracked, id ∈ (ps.foldl observe s).tracked := by
  induction ps generalizing s with
  | nil => exact ⟨rfl, rfl, fun _ h => h⟩
  | cons p ps ih =>
      obtain ⟨hpending, hactivities, htracked⟩ := observe_frame s p
      obtain ⟨hpending', hactivities', htracked'⟩ := ih (s.observe p)
      exact ⟨hpending'.trans hpending, hactivities'.trans hactivities, fun id h => htracked' id (htracked id h)⟩

/-- A listing leaves the relays and the coroutines, and every tracked window that it lists. -/
theorem reconcile_frame (s : EscalationService) (listing : Option (List EscalationService.PendingWindow)) :
    (s.reconcile listing).pendingRelays = s.pendingRelays ∧ (s.reconcile listing).activities = s.activities ∧
      ∀ id ∈ s.tracked, (∀ ps, listing = some ps → id ∈ ps.map EscalationService.PendingWindow.id) →
        id ∈ (s.reconcile listing).tracked := by
  cases listing with
  | none => exact ⟨rfl, rfl, fun _ h _ => h⟩
  | some ps =>
      obtain ⟨hpending, hactivities, htracked⟩ := foldl_observe_frame ps (s.closeGone ps)
      refine ⟨hpending, hactivities, fun id hid hlisted => htracked id ?_⟩
      exact List.mem_filter.mpr ⟨hid, by simpa using hlisted ps rfl⟩

/-- A poll that has its listing takes every queued relay of a tracked window in hand. -/
structure Lists (s : EscalationService) (listing : Option (List EscalationService.PendingWindow))
    (result : EscalationService × ActivityState) : Prop where
  activities : result.1.activities = s.activities
  tracked : ∀ id ∈ s.tracked, (∀ ps, listing = some ps → id ∈ ps.map EscalationService.PendingWindow.id) →
    id ∈ result.1.tracked
  relays : ∀ r ∈ s.pendingRelays, r.windowId ∈ s.tracked →
    (∀ ps, listing = some ps → r.windowId ∈ ps.map EscalationService.PendingWindow.id) → r ∈ result.2.relays
  reply : result.2.reply = none

/-- What a listing does is one of the cases. -/
theorem listed_lists (s : EscalationService) (listing : Option (List EscalationService.PendingWindow)) (now : ℚ) :
    Lists s listing (s.listed listing now) := by
  obtain ⟨hpending, hactivities, htracked⟩ := reconcile_frame s listing
  unfold listed
  dsimp only
  have htaken : ∀ r ∈ s.pendingRelays, r.windowId ∈ s.tracked →
      (∀ ps, listing = some ps → r.windowId ∈ ps.map EscalationService.PendingWindow.id) →
      r ∈ (s.reconcile listing).pendingRelays.filter fun r => (s.reconcile listing).tracked.contains r.windowId := by
    intro r hr hid hlisted
    rw [hpending]
    exact List.mem_filter.mpr ⟨hr, by simpa using htracked r.windowId hid hlisted⟩
  generalize (s.reconcile listing).pendingRelays.filter
    (fun r => (s.reconcile listing).tracked.contains r.windowId) = retries at htaken
  cases retries with
  | nil =>
      refine ⟨by simpa using hactivities, by simpa using htracked, ?_, tickInto_reply⟩
      intro r hr hid hlisted
      cases htaken r hr hid hlisted
  | cons relay relays => exact ⟨hactivities, htracked, htaken, rfl⟩

/-! ### A stop under way -/

/-- The channel events of a callback, taken one after another: the open windows stay, and every covered window
    gets a relay. -/
theorem foldl_channelEvent (events : List ChannelEvent) (e : LadderEngine) :
    (events.foldl LadderEngine.channelEvent e).openWindowIds = e.openWindowIds ∧
    (∀ a ∈ e.pending, a ∈ (events.foldl LadderEngine.channelEvent e).pending) ∧
    ∀ ids channel attribution, .veto ids channel attribution ∈ events → ∀ w ∈ e.openWindowIds, ids = [] ∨ w ∈ ids →
      ∃ covered, w ∈ covered ∧
        .relayVeto covered channel attribution ∈ (events.foldl LadderEngine.channelEvent e).pending := by
  induction events generalizing e with
  | nil => exact ⟨rfl, fun _ h => h, nofun⟩
  | cons event events ih =>
      obtain ⟨hopen, hkept, hcovered⟩ := ih (e.channelEvent event)
      have hrun : (e.channelEvent event).openWindowIds = e.openWindowIds := by
        unfold LadderEngine.openWindowIds
        rw [LadderEngine.channelEvent_run]
      have hqueue : ∀ a ∈ e.pending, a ∈ (e.channelEvent event).pending := by
        intro a ha
        cases event with
        | evidence => exact ha
        | veto ids channel attribution =>
            unfold LadderEngine.channelEvent
            dsimp only
            split
            · exact ha
            · exact List.mem_append_left _ ha
      refine ⟨hopen.trans hrun, fun a ha => hkept a (hqueue a ha), ?_⟩
      intro ids channel attribution hmem w hw hcovers
      rcases List.mem_cons.mp hmem with rfl | hmem
      · have hin : w ∈ e.openWindowIds.filter fun id => ids.isEmpty || ids.contains id := by
          rw [List.mem_filter]
          refine ⟨hw, ?_⟩
          rcases hcovers with rfl | hids
          · rfl
          · simp [hids]
        refine ⟨_, hin, hkept _ ?_⟩
        unfold LadderEngine.channelEvent
        dsimp only
        rw [if_neg fun hempty => List.ne_nil_of_mem hin (List.isEmpty_iff.mp hempty)]
        exact List.mem_append_right _ (List.mem_singleton_self _)
      · rw [← hrun] at hw
        exact hcovered ids channel attribution hmem w hw hcovers

/-- A relay that the engine's tick makes is a job of the activity. -/
theorem tickInto_relays {windowIds : List JsString} {channel : ChannelKind} {attribution : JsString}
    (hpending : .relayVeto windowIds channel attribution ∈ s.engine.pending) (hw : w ∈ windowIds) :
    ⟨w, attribution⟩ ∈ (s.tickInto now reply).2.relays := by
  obtain ⟨rest, hactions, -⟩ := LadderEngine.tick_actions s.engine now
  have hjob : ServiceJob.relay ⟨w, attribution⟩ ∈ (s.engine.tick now).2.flatMap jobsOf := by
    rw [List.mem_flatMap]
    refine ⟨.relayVeto windowIds channel attribution, ?_, List.mem_map.mpr ⟨w, hw, rfl⟩⟩
    rw [hactions]
    exact List.mem_append_left _ hpending
  unfold tickInto
  generalize s.engine.tick now = ticked at hjob
  obtain ⟨engine, actions⟩ := ticked
  dsimp only at hjob ⊢
  generalize actions.flatMap jobsOf = jobs at hjob
  cases jobs with
  | nil => cases hjob
  | cons job jobs => exact List.mem_filterMap.mpr ⟨_, hjob, rfl⟩

/-- A callback takes every covered window in hand. -/
theorem callback_relays {path : TwilioPath} {events : List ChannelEvent} {ids : List JsString} {channel : ChannelKind}
    {attribution : JsString} (hmem : .veto ids channel attribution ∈ events) (hw : w ∈ s.engine.openWindowIds)
    (hcovers : ids = [] ∨ w ∈ ids) : ⟨w, attribution⟩ ∈ (s.callback path events now).2.relays := by
  obtain ⟨-, -, hcovered⟩ := foldl_channelEvent events s.engine
  obtain ⟨covered, hin, hpending⟩ := hcovered ids channel attribution hmem w hw hcovers
  unfold callback
  dsimp only
  rw [if_neg fun hempty => List.ne_nil_of_mem hmem (List.isEmpty_iff.mp hempty)]
  exact tickInto_relays hpending hin

/-- A callback leaves the windows and the relays. -/
theorem callback_frame (s : EscalationService) (path : TwilioPath) (events : List ChannelEvent) (now : ℚ) :
    (s.callback path events now).1.tracked = s.tracked ∧
      (s.callback path events now).1.pendingRelays = s.pendingRelays ∧
      (s.callback path events now).2.reply = some (respondTwiml path events) := by
  unfold callback
  dsimp only
  split
  · exact ⟨rfl, rfl, rfl⟩
  · exact ⟨tickInto_tracked, tickInto_pendingRelays, tickInto_reply⟩

/-- The window is tracked, and a relay for it waits for the next tick or is in hand. -/
structure Underway (w : JsString) (s : EscalationService) : Prop where
  tracked : w ∈ s.tracked
  relay : (∃ r ∈ s.pendingRelays, r.windowId = w) ∨ s.InHand w

/-- What is in hand of the other activities stays when one of them moves on. -/
theorem inHand_move {index : Nat} {before : ActivityState} (hbefore : s.activities[index]? = some before)
    (hin : s.InHand w) (hkept : (∃ r ∈ before.relays, r.windowId = w) → ∃ r ∈ state.relays, r.windowId = w)
    (hsame : t.activities = s.activities) : (t.move index state).InHand w := by
  obtain ⟨st, hst, r, hr, hrw⟩ := hin
  obtain ⟨i, hi⟩ := List.mem_iff_getElem?.mp hst
  have hbound : index < s.activities.length := (List.getElem?_eq_some_iff.mp hbefore).1
  unfold move InHand
  dsimp only
  rw [hsame]
  by_cases heq : index = i
  · subst heq
    rw [hbefore] at hi
    obtain rfl := Option.some.inj hi
    exact ⟨state, List.mem_iff_getElem?.mpr ⟨index, by rw [List.getElem?_set, if_pos rfl, if_pos hbound]⟩,
      hkept ⟨r, hr, hrw⟩⟩
  · exact ⟨st, List.mem_iff_getElem?.mpr ⟨i, by rw [List.getElem?_set_ne heq, hi]⟩, r, hr, hrw⟩

theorem holds_moved {index : Nat} {before : ActivityState} (hbefore : t.activities[index]? = some before)
    (hr : r ∈ state.relays) (hrw : r.windowId = w) : (t.move index state).Holds index w := by
  have hbound : index < t.activities.length := (List.getElem?_eq_some_iff.mp hbefore).1
  exact ⟨state, by unfold move; rw [List.getElem?_set, if_pos rfl, if_pos hbound], r, hr, hrw⟩

/-- What one activity holds is in hand. -/
theorem Holds.inHand {index : Nat} (h : s.Holds index w) : s.InHand w := by
  obtain ⟨state, hstate, hrelay⟩ := h
  exact ⟨state, List.mem_of_getElem? hstate, hrelay⟩

/-- Nothing is in hand where all is quiet. -/
theorem Quiet.not_inHand (h : s.Quiet) : ¬ s.InHand w := by
  rintro ⟨state, hstate, r, hr, -⟩
  rw [h state hstate] at hr
  cases hr

/-- What is in hand stays so as activities are added. -/
theorem inHand_append {states : List ActivityState} (hin : s.InHand w) :
    InHand { t with activities := s.activities ++ states } w := by
  obtain ⟨st, hst, r, hr, hrw⟩ := hin
  exact ⟨st, List.mem_append_left _ hst, r, hr, hrw⟩

/-- A poll that has its listing takes a queued stop in hand. -/
theorem Underway.holds {index : Nat} (h : Underway w s) (hlisting : s.activities[index]? = some .listing)
    (hlisted : ∀ ps, listing = some ps → w ∈ ps.map EscalationService.PendingWindow.id)
    (hqueued : ∃ r ∈ s.pendingRelays, r.windowId = w) :
    ((s.listed listing now).1.move index (s.listed listing now).2).Holds index w := by
  have hlists := listed_lists s listing now
  obtain ⟨r, hr, rfl⟩ := hqueued
  have hbefore : (s.listed listing now).1.activities[index]? = some .listing := by
    rw [hlists.activities]
    exact hlisting
  exact holds_moved hbefore (hlists.relays r hr h.tracked hlisted) rfl

/-- A poll that has its listing has the stop in hand. -/
theorem Underway.inHand {index : Nat} (h : Underway w s)
    (hlisting : s.activities[index]? = some .listing)
    (hlisted : ∀ ps, listing = some ps → w ∈ ps.map EscalationService.PendingWindow.id) :
    ((s.listed listing now).1.move index (s.listed listing now).2).InHand w := by
  rcases h.relay with hqueued | hin
  · exact (h.holds hlisting hlisted hqueued).inHand
  · refine inHand_move hlisting hin ?_ (listed_lists s listing now).activities
    rintro ⟨r, hr, -⟩
    cases hr

/-- An activity that no longer holds a relay after a step had sent it before. -/
theorem Holds.sent {engine : LadderEngine} {index : Nat} (h : s.Holds index w)
    (hnext : (serviceRuns engine).next s op t) (hgone : ¬ t.Holds index w) : s.Relaying index w := by
  obtain ⟨state, hstate, r, hr, hrw⟩ := h
  have hkept : t.activities[index]? ≠ some state := fun hsame => hgone ⟨state, hsame, r, hr, hrw⟩
  have hbound : index < s.activities.length := (List.getElem?_eq_some_iff.mp hstate).1
  cases op with
  | poll =>
      obtain rfl : t = _ := hnext
      exact absurd (by rw [List.getElem?_append_left hbound]; exact hstate) hkept
  | callback path events now =>
      obtain rfl : t = _ := hnext
      exact absurd (by rw [List.getElem?_append_left hbound]; exact hstate) hkept
  | listed i listing now =>
      obtain ⟨hlisting, rfl⟩ := hnext
      have hother : i ≠ index := by
        rintro rfl
        rw [hstate] at hlisting
        obtain rfl := Option.some.inj hlisting
        cases hr
      refine absurd ?_ hkept
      unfold move
      dsimp only
      rw [(listed_lists s listing now).activities, List.getElem?_set_ne hother]
      exact hstate
  | finished i answer now =>
      obtain ⟨before, hbefore, -, rfl⟩ := hnext
      have hfinishes := finished_finishes s before answer now
      by_cases hi : i = index
      · subst hi
        rw [hstate] at hbefore
        obtain rfl := Option.some.inj hbefore
        rcases hfinishes.relays r hr with hsent | hlater
        · exact ⟨state, hstate, r, hsent, hrw⟩
        · have hmoved : (s.finished state answer now).1.activities[i]? = some state := by
            rw [hfinishes.activities]
            exact hstate
          exact absurd (holds_moved hmoved hlater hrw) hgone
      · refine absurd ?_ hkept
        unfold move
        dsimp only
        rw [hfinishes.activities, List.getElem?_set_ne hi]
        exact hstate

/-- A stop under way stays so, unless its window is settled, leaves the listing or has its relay refused. -/
theorem Underway.next {engine : LadderEngine} (h : Underway w s) (hnext : (serviceRuns engine).next s op t)
    (hsettles : ¬ ServiceEdge.Settles ⟨s, op, t⟩ w) (hleaves : ¬ ServiceEdge.Leaves ⟨s, op, t⟩ w)
    (hunrefused : ∀ index state answer, ServiceEdge.Answered ⟨s, op, t⟩ index state w answer →
      answer.ok = true ∨ answer = .status 409 ∨ answer = .failed) : Underway w t := by
  cases op with
  | poll =>
      obtain rfl : t = _ := hnext
      exact ⟨h.tracked, h.relay.imp id inHand_append⟩
  | listed index listing now =>
      obtain ⟨hlisting, rfl⟩ := hnext
      have hlisted : ∀ ps, listing = some ps → w ∈ ps.map EscalationService.PendingWindow.id := by
        rintro ps rfl
        by_contra hout
        exact hleaves ⟨index, ps, now, rfl, hout⟩
      exact ⟨(listed_lists s listing now).tracked w h.tracked hlisted, .inr (h.inHand hlisting hlisted)⟩
  | callback path events now =>
      obtain rfl : t = _ := hnext
      obtain ⟨htracked, hpending, -⟩ := callback_frame s path events now
      refine ⟨?_, ?_⟩
      · show w ∈ (s.callback path events now).1.tracked
        rw [htracked]
        exact h.tracked
      · rcases h.relay with hqueued | hin
        · left
          show ∃ r ∈ (s.callback path events now).1.pendingRelays, r.windowId = w
          rw [hpending]
          exact hqueued
        · exact .inr (inHand_append hin)
  | finished index answer now =>
      obtain ⟨state, hstate, -, rfl⟩ := hnext
      have hfinishes := finished_finishes s state answer now
      refine ⟨?_, ?_⟩
      · show w ∈ (s.finished state answer now).1.tracked
        rw [hfinishes.tracked]
        exact h.tracked
      · by_cases hhead : ∃ r, state.relay? = some r ∧ r.windowId = w
        · obtain ⟨r, hr, hrw⟩ := hhead
          have hanswered : ∀ u, ServiceEdge.Answered ⟨s, .finished index answer now, u⟩ index state w answer :=
            fun _ => ⟨now, r, rfl, hstate, hr, hrw⟩
          left
          rcases hunrefused index state answer (hanswered _) with hok | hconflict | hfailed
          · exact absurd ⟨index, state, answer, hanswered _, .inl hok⟩ hsettles
          · exact absurd ⟨index, state, answer, hanswered _, .inr hconflict⟩ hsettles
          · exact ⟨r, hfinishes.failed r hr hfailed, hrw⟩
        · rcases h.relay with ⟨r, hr, hrw⟩ | hin
          · exact .inl ⟨r, hfinishes.pendingRelays r hr, hrw⟩
          · right
            refine inHand_move hstate hin ?_ hfinishes.activities
            rintro ⟨r, hr, hrw⟩
            rcases hfinishes.relays r hr with hunder | hlater
            · exact absurd ⟨r, hunder, hrw⟩ hhead
            · exact ⟨r, hlater, hrw⟩

end EscalationService

/-! ### Every interleaving -/

section Runs

open EscalationService

variable {engine : LadderEngine} {es : List ServiceEdge} {t : EscalationService} {w : JsString} {c : ServiceEdge}

/-- A callback with a veto has each covered window under way. -/
theorem covers_underway (hnext : (serviceRuns engine).next c.src c.label c.dst) (hcovers : c.Covers w)
    (htracked : w ∈ c.src.tracked) : Underway w c.dst := by
  obtain ⟨path, events, now, ids, channel, attribution, hlabel, hmem, hopen, hids⟩ := hcovers
  rw [hlabel] at hnext
  rw [show c.dst = _ from hnext]
  refine ⟨?_, .inr ?_⟩
  · show w ∈ (c.src.callback path events now).1.tracked
    rw [(callback_frame c.src path events now).1]
    exact htracked
  · exact ⟨_, List.mem_append_right _ (List.mem_singleton_self _), _, callback_relays hmem hopen hids, rfl⟩

/-- Where the activity of a callback would tell its caller that everything is stopped, each covered window was
    accepted or is still ahead of it. -/
def Handles (index : Nat) (es : List ServiceEdge) (c : ServiceEdge) (s : EscalationService) : Prop :=
  ∃ state, s.activities[index]? = some state ∧ (state.reply = some stoppedTwiml → ∀ w, c.Covers w →
    (∃ r ∈ state.relays, r.windowId = w) ∨ ∃ y ∈ es, ServiceEdge.Accepts y index w)

/-- The activity of a callback handles its windows from the start. -/
theorem starts_handles (hnext : (serviceRuns engine).next c.src c.label c.dst) {index : Nat}
    (hstarts : c.Starts index) :
    Handles index (es ++ [c]) c c.dst := by
  obtain ⟨⟨path, events, now, hlabel⟩, rfl⟩ := hstarts
  rw [hlabel] at hnext
  rw [Handles, show c.dst = _ from hnext]
  refine ⟨(c.src.callback path events now).2, by simp, fun _ w hcovers => .inl ?_⟩
  obtain ⟨path', events', now', ids, channel, attribution, hlabel', hmem, hopen, hids⟩ := hcovers
  rw [hlabel] at hlabel'
  cases hlabel'
  exact ⟨_, callback_relays hmem hopen hids, rfl⟩

/-- A step leaves a handled window handled. -/
theorem Handles.next {x : ServiceEdge} {index : Nat} (h : Handles index es c x.src)
    (hnext : (serviceRuns engine).next x.src x.label x.dst)
    (hpressed : ∀ index state w answer, x.Answered index state w answer → state.reply = some stoppedTwiml →
      answer.ok = true) : Handles index (es ++ [x]) c x.dst := by
  obtain ⟨s, op, t⟩ := x
  obtain ⟨state, hstate, hahead⟩ := h
  have hkept : ∀ {u : EscalationService}, u.activities[index]? = some state →
    Handles index (es ++ [⟨s, op, t⟩]) c u := by
    intro u hu
    refine ⟨state, hu, fun hreply w hcovers => (hahead hreply w hcovers).imp id ?_⟩
    rintro ⟨y, hy, haccepts⟩
    exact ⟨y, List.mem_append_left _ hy, haccepts⟩
  have hbound : index < s.activities.length := (List.getElem?_eq_some_iff.mp hstate).1
  cases op with
  | poll =>
      apply hkept
      rw [show t = _ from hnext]
      dsimp only
      rw [List.getElem?_append_left hbound]
      exact hstate
  | callback path events now =>
      apply hkept
      rw [show t = _ from hnext]
      dsimp only
      rw [List.getElem?_append_left hbound]
      exact hstate
  | listed i listing now =>
      obtain ⟨hlisting, ht⟩ := hnext
      replace ht : t = _ := ht
      have hlists := listed_lists s listing now
      by_cases hi : i = index
      · subst hi
        refine ⟨(s.listed listing now).2, ?_, ?_⟩
        · rw [ht]
          unfold EscalationService.move
          dsimp only
          rw [hlists.activities, List.getElem?_set, if_pos rfl, if_pos hbound]
        · intro hreply
          rw [hlists.reply] at hreply
          cases hreply
      · apply hkept
        rw [ht]
        unfold EscalationService.move
        dsimp only
        rw [hlists.activities, List.getElem?_set_ne hi]
        exact hstate
  | finished i answer now =>
      obtain ⟨before, hbefore, -, ht⟩ := hnext
      replace ht : t = _ := ht
      have hfinishes := finished_finishes s before answer now
      by_cases hi : i = index
      · subst hi
        rw [hstate] at hbefore
        obtain rfl := Option.some.inj hbefore
        refine ⟨(s.finished state answer now).2, ?_, ?_⟩
        · show t.activities[i]? = _
          rw [ht]
          unfold EscalationService.move
          dsimp only
          rw [hfinishes.activities, List.getElem?_set, if_pos rfl, if_pos hbound]
        · intro hreply w hcovers
          rw [hfinishes.reply] at hreply
          rcases hahead hreply w hcovers with ⟨r, hr, hrw⟩ | ⟨y, hy, haccepts⟩
          · rcases hfinishes.relays r hr with hunder | hlater
            · have hanswered : ServiceEdge.Answered ⟨s, .finished i answer now, t⟩ i state w answer :=
                ⟨now, r, rfl, hstate, hunder, hrw⟩
              have hok := hpressed i state w answer hanswered hreply
              exact .inr ⟨_, List.mem_append_right _ (List.mem_singleton_self _), state, answer, hanswered, hok⟩
            · exact .inl ⟨r, hlater, hrw⟩
          · exact .inr ⟨y, List.mem_append_left _ hy, haccepts⟩
      · have hsame : t.activities[index]? = some state := by
          rw [ht]
          unfold EscalationService.move
          dsimp only
          rw [hfinishes.activities, List.getElem?_set_ne hi]
          exact hstate
        exact hkept hsame

/-- The windows of a callback are handled in every run. -/
theorem exec_handles (h : (serviceRuns engine).Exec es t) (hwell : AnsweredWell es) (hc : c ∈ es) {index : Nat}
    (hstarts : c.Starts index) : Handles index es c t := by
  refine h.induct (I := fun es t => AnsweredWell es → c ∈ es → Handles index es c t) ?_ ?_ hwell hc
  · intro s _ _ hc
    cases hc
  · intro es s op t _ ih hnext hwell hc
    rcases List.mem_append.mp hc with hc | hc
    · have hwell' : AnsweredWell es :=
        ⟨fun x hx => hwell.unrefused x (List.mem_append_left _ hx), fun x hx =>
          hwell.pressed x (List.mem_append_left _ hx)⟩
      have hbefore : Handles index es c (Lts.Edge.mk s op t).src := ih hwell' hc
      exact hbefore.next hnext (hwell.pressed _ (List.mem_append_right _ (List.mem_singleton_self _)))
    · obtain rfl := List.mem_singleton.mp hc
      exact starts_handles hnext hstarts

/-- A stop from a channel is relayed at each tick, where no relay is refused and none hangs. -/
theorem exec_relaysAgain (h : (serviceRuns engine).Exec es t) (hwell : AnsweredWell es) (hprompt : Prompt es t) :
    RelaysAgain es := by
  rintro pre c mid p post w index rfl hcovers htracked hopen hticks
  obtain ⟨-, hnext, hpath⟩ := h.split
  obtain ⟨hmid, hnextp, hpost⟩ := hpath.split
  have hunder : Underway w p.src := by
    apply hmid.induct_mem (P := Underway w) _ (covers_underway hnext hcovers htracked)
    intro x hx hstep hbefore
    have hin : x ∈ pre ++ c :: (mid ++ p :: post) := by simp [hx]
    obtain ⟨hsettles, hleaves⟩ := hopen x (List.mem_append_left _ hx)
    exact hbefore.next hstep hsettles hleaves fun index state answer => hwell.unrefused x hin index state w answer
  have hquiet : p.src.Quiet := hprompt.ticks p (by simp) index hticks
  -- nobody else is at the stop, so the tick takes it in hand,
  have hholds : p.dst.Holds index w := by
    obtain ⟨listing, now, hlabel⟩ := hticks
    rw [hlabel] at hnextp
    obtain ⟨hlisting, hdst⟩ := hnextp
    rw [hdst]
    refine hunder.holds hlisting ?_ (hunder.relay.resolve_right hquiet.not_inHand)
    rintro ps rfl
    by_contra hout
    exact (hopen p (List.mem_append_right _ (List.mem_singleton_self _))).2 ⟨index, ps, now, hlabel, hout⟩
  -- and no longer has it at the end
  obtain ⟨e, he, hbefore, hafter⟩ := hpost.lost (P := fun s => s.Holds index w) hholds
    fun hstill => hprompt.ended.not_inHand hstill.inHand
  have hsent := hbefore.sent (hpost.next_of_mem he) hafter
  rcases hpost.src_of_mem he with hsrc | ⟨d, hd, hsrc⟩
  · exact ⟨p, List.mem_cons_self, hsrc ▸ hsent⟩
  · exact ⟨d, List.mem_cons_of_mem _ hd, hsrc ▸ hsent⟩

/-- Nobody is told falsely that everything is stopped, where the relays of a pressed key are accepted. -/
theorem exec_toldTruly (h : (serviceRuns engine).Exec es t) (hwell : AnsweredWell es) : ToldTruly es := by
  rintro pre x post rfl index hdone c hc hstarts w hcovers
  obtain ⟨hpre, hnext, -⟩ := h.split
  have hwell' : AnsweredWell (pre ++ [x]) := by
    constructor
    · exact fun y hy => hwell.unrefused y (by simp only [List.mem_append, List.mem_cons] at hy ⊢; tauto)
    · exact fun y hy => hwell.pressed y (by simp only [List.mem_append, List.mem_cons] at hy ⊢; tauto)
  obtain ⟨state, hstate, hahead⟩ := exec_handles (hpre.snoc hnext) hwell' hc hstarts
  rw [hdone] at hstate
  obtain rfl := Option.some.inj hstate
  rcases hahead rfl w hcovers with ⟨r, hr, -⟩ | haccepted
  · cases hr
  · exact haccepted

/-- A stop from a channel is never falsely confirmed where no relay is refused and those of a pressed key are
    accepted, and it is relayed at each tick where besides none hangs. -/
theorem stop_law (h : (serviceRuns engine).Exec es t) (hwell : AnsweredWell es) :
    ToldTruly es ∧ (Prompt es t → StopLaw es) :=
  ⟨exec_toldTruly h hwell, fun hprompt => ⟨exec_relaysAgain h hwell hprompt, exec_toldTruly h hwell⟩⟩

end Runs

namespace ServiceSample

def engine : LadderEngine :=
  ⟨[], defaultLimits, defaultCostUsd, none, [], [], -1, 0, []⟩

def window : EscalationService.PendingWindow :=
  ⟨js "v-1", js "bash", 240000, false⟩

def start : EscalationService :=
  ⟨engine, [], [], []⟩

def polled : EscalationService :=
  { start with activities := [.listing] }

/-- The window is tracked. -/
def tracking : EscalationService :=
  (polled.listed (some [window]) 0).1.move 0 (polled.listed (some [window]) 0).2

def press : List ChannelEvent :=
  [.evidence [], .veto [] .voice (js "channel:voice-dtmf")]

/-- A provider posted a stop, and its relay is under way. -/
def pressed (path : TwilioPath) : EscalationService :=
  { (tracking.callback path press 1000).1 with
    activities := tracking.activities ++ [(tracking.callback path press 1000).2] }

def relaying (path : TwilioPath) : ActivityState :=
  .performing [.relay ⟨js "v-1", js "channel:voice-dtmf"⟩] (some (respondTwiml path press))

/-- The control plane answered, and the provider is told. -/
def answered (path : TwilioPath) (answer : RelayAnswer) : EscalationService :=
  let finished := (pressed path).finished (relaying path) answer 2000
  finished.1.move 1 finished.2

def repolled (path : TwilioPath) (answer : RelayAnswer) : EscalationService :=
  { answered path answer with activities := (answered path answer).activities ++ [.listing] }

/-- The window is listed again. -/
def relisted (path : TwilioPath) (answer : RelayAnswer) : EscalationService :=
  let listed := (repolled path answer).listed (some [window]) 60000
  listed.1.move 2 listed.2

/-- A window is tracked, a stop is posted, its relay is answered, and a poll lists the window again. -/
def opening (path : TwilioPath) (answer : RelayAnswer) : List ServiceEdge :=
  [⟨start, .poll, polled⟩, ⟨polled, .listed 0 (some [window]) 0, tracking⟩,
    ⟨tracking, .callback path press 1000, pressed path⟩,
    ⟨pressed path, .finished 1 answer 2000, answered path answer⟩,
    ⟨answered path answer, .poll, repolled path answer⟩,
    ⟨repolled path answer, .listed 2 (some [window]) 60000, relisted path answer⟩]

/-- The opening is a run. -/
theorem opening_exec (path : TwilioPath) (answer : RelayAnswer) :
    (serviceRuns engine).Exec (opening path answer) (relisted path answer) := by
  have hpolled : (serviceRuns engine).Path start [⟨start, .poll, polled⟩] polled := .single rfl
  have htracking : (serviceRuns engine).Path polled [⟨polled, .listed 0 (some [window]) 0, tracking⟩] tracking :=
    .single ⟨rfl, rfl⟩
  have hpressed : (serviceRuns engine).Path tracking [⟨tracking, .callback path press 1000, pressed path⟩]
      (pressed path) := .single rfl
  have hanswered : (serviceRuns engine).Path (pressed path)
      [⟨pressed path, .finished 1 answer 2000, answered path answer⟩] (answered path answer) :=
    .single ⟨relaying path, rfl, by simp [relaying, ActivityState.Busy], rfl⟩
  have hrepolled : (serviceRuns engine).Path (answered path answer)
      [⟨answered path answer, .poll, repolled path answer⟩] (repolled path answer) := .single rfl
  have hrelisted : (serviceRuns engine).Path (repolled path answer)
      [⟨repolled path answer, .listed 2 (some [window]) 60000, relisted path answer⟩] (relisted path answer) :=
    .single ⟨by cases answer <;> rfl, rfl⟩
  exact ⟨start, rfl,
    hpolled.append (htracking.append (hpressed.append (hanswered.append (hrepolled.append hrelisted))))⟩

/-- The relay is made again at the second tick, and accepted. -/
def retried : EscalationService :=
  let finished := (relisted .smsInbound .failed).finished (.retrying [⟨js "v-1", js "channel:voice-dtmf"⟩]) (.status 200) 61000
  finished.1.move 2 finished.2

def retries : List ServiceEdge :=
  opening .smsInbound .failed ++ [⟨relisted .smsInbound .failed, .finished 2 (.status 200) 61000, retried⟩]

theorem retries_exec : (serviceRuns engine).Exec retries retried :=
  (opening_exec .smsInbound .failed).snoc ⟨.retrying [⟨js "v-1", js "channel:voice-dtmf"⟩], rfl,
    by simp [ActivityState.Busy], rfl⟩

/-- The answers of this run: the transport fails once, and nobody pressed a key. -/
theorem retries_answers {x : ServiceEdge} (hx : x ∈ retries) {index : Nat} {state : ActivityState} {w : JsString}
    {answer : RelayAnswer} (h : x.Answered index state w answer) :
    (answer = .failed ∨ answer = .status 200) ∧ state.reply ≠ some stoppedTwiml := by
  obtain ⟨now, r, hlabel, hstate, -⟩ := h
  simp only [retries, opening, List.cons_append, List.nil_append, List.mem_cons, List.not_mem_nil, or_false] at hx
  rcases hx with rfl | rfl | rfl | rfl | rfl | rfl | rfl <;> cases hlabel
  · obtain rfl : state = relaying .smsInbound := (Option.some.inj hstate).symm
    exact ⟨.inl rfl, by decide +kernel⟩
  · obtain rfl : state = .retrying [⟨js "v-1", js "channel:voice-dtmf"⟩] := (Option.some.inj hstate).symm
    exact ⟨.inr rfl, by simp [ActivityState.reply]⟩

end ServiceSample

open ServiceSample in
/-- A stop whose relay fails once, and is made again at the next tick. -/
theorem stop_law_sample : StopLaw retries := by
  refine (stop_law retries_exec ⟨?_, ?_⟩).2 ⟨?_, ?_⟩
  · intro x hx index state w answer h
    rcases (retries_answers hx h).1 with rfl | rfl
    · exact .inr (.inr rfl)
    · exact .inl rfl
  · intro x hx index state w answer h hreply
    exact absurd hreply (retries_answers hx h).2
  · rintro x hx index ⟨listing, now, hlabel⟩
    simp only [retries, opening, List.cons_append, List.nil_append, List.mem_cons, List.not_mem_nil, or_false] at hx
    rcases hx with rfl | rfl | rfl | rfl | rfl | rfl | rfl <;> cases hlabel
    · show ∀ state ∈ [ActivityState.listing], state.relays = []
      simp [ActivityState.relays]
    · show ∀ state ∈ [ActivityState.done none, .done (some ackTwiml), .listing], state.relays = []
      simp [ActivityState.relays]
  · show ∀ state ∈ [ActivityState.done none, .done (some ackTwiml), .done none], state.relays = []
    simp [ActivityState.relays]

open ServiceSample in
/-- The control plane answers the relay of a pressed key with 500. The caller is told that everything is stopped, and
    the next tick, which finds the window listed, relays nothing. -/
theorem stop_lost : ¬ ∀ (engine : LadderEngine) (es : List ServiceEdge) (t : EscalationService),
    (serviceRuns engine).Exec es t → StopLaw es := by
  intro h
  have hlaw := h _ _ _ (opening_exec .voiceKey (.status 500))
  have hagain := hlaw.again
    [⟨start, .poll, polled⟩, ⟨polled, .listed 0 (some [window]) 0, tracking⟩]
    ⟨tracking, .callback .voiceKey press 1000, pressed .voiceKey⟩
    [⟨pressed .voiceKey, .finished 1 (.status 500) 2000, answered .voiceKey (.status 500)⟩,
      ⟨answered .voiceKey (.status 500), .poll, repolled .voiceKey (.status 500)⟩]
    ⟨repolled .voiceKey (.status 500), .listed 2 (some [window]) 60000, relisted .voiceKey (.status 500)⟩ []
    (js "v-1") 2 rfl
    ⟨_, _, _, _, _, _, rfl, List.mem_cons_of_mem _ (List.mem_singleton_self _), by decide +kernel, .inl rfl⟩
    (by decide +kernel) ?_ ⟨_, _, rfl⟩
  · obtain ⟨x, hx, state, hstate, r, hr, -⟩ := hagain
    obtain rfl := List.mem_singleton.mp hx
    obtain rfl : state = .done none := (Option.some.inj hstate).symm
    cases hr
  · intro x hx
    simp only [List.cons_append, List.nil_append, List.mem_cons, List.not_mem_nil, or_false] at hx
    rcases hx with rfl | rfl | rfl
    · refine ⟨?_, ?_⟩
      · rintro ⟨index, state, answer, ⟨now, r, hlabel, -⟩, hanswer⟩
        cases hlabel
        rcases hanswer with hok | hconflict
        · cases hok
        · cases hconflict
      · rintro ⟨index, listing, now, hlabel, -⟩
        cases hlabel
    · refine ⟨?_, ?_⟩
      · rintro ⟨index, state, answer, ⟨now, r, hlabel, -⟩, -⟩
        cases hlabel
      · rintro ⟨index, listing, now, hlabel, -⟩
        cases hlabel
    · refine ⟨?_, ?_⟩
      · rintro ⟨index, state, answer, ⟨now, r, hlabel, -⟩, -⟩
        cases hlabel
      · rintro ⟨index, listing, now, hlabel, hout⟩
        cases hlabel
        exact hout (List.mem_singleton_self _)

end OwnerSwitch
