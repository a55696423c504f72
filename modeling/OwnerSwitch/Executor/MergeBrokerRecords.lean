/-
Module: OwnerSwitch.Executor.MergeBrokerRecords
Layer: Executor
Purpose: What the record of a burned grant says once its request was refused. Every refusal after the burn is written
  down, whether the merge is refused at once, before its token or at its commit (`Tells`); an error that is no
  refusal is answered like one and is not.
Imports: Executor.MergeBrokerRuns
Trusted boundary: that of Executor.MergeBroker
Main exports: BrokerEdge.Burns, MergeBroker.EndsTruthful, MergeBroker.NamesUnsafeRepo, refused_truthful_iff
Open obligations: none
-/
import OwnerSwitch.Executor.MergeBrokerRuns

namespace OwnerSwitch

open MergeBroker

/-- Something the request of a connection awaits settles. -/
def BrokerStep.settles (i : Nat) : BrokerStep → Bool
  | .settled index _ _ _ => index = i
  | _ => false

theorem settles_eq_false {i : Nat} {op : BrokerStep} (h : ∀ settled now write, op ≠ .settled i settled now write) :
    op.settles i = false := by
  cases op with
  | settled index settled now write =>
      refine decide_eq_false fun hindex => ?_
      exact h settled now write (by rw [hindex])
  | accept => rfl
  | data => rfl
  | timeout => rfl
  | socketError => rfl

/-- The writes of outcomes in this step succeed. -/
def BrokerStep.recordsWritten : BrokerStep → Prop
  | .data _ _ _ _ write => write = .written
  | .settled _ _ _ write => write = .written
  | _ => True

/-- The step burns a grant for the request of a connection. -/
def BrokerEdge.Burns (b : MergeBroker) (e : BrokerEdge) (i : Nat) (grant : PresentedGrant)
    (rawArgs : Option Json) : Prop :=
  ∃ c chunk now write, e.label = .data i chunk now .written write ∧ e.src.connections[i]? = some c ∧
    b.Presents e.src.records c chunk now grant rawArgs

namespace MergeBroker

variable (b : MergeBroker)

variable {b} {records : JsMap JsString Json} {grant : PresentedGrant} {rawArgs : Option Json} {jti : JsString}

end MergeBroker

/-! ### From the burn to the end of the request -/

section Runs

variable {b : MergeBroker} {s t : BrokerState} {op : BrokerStep} {i : Nat} {c c' : Connection} {es : List BrokerEdge}
  {e : BrokerEdge} {grant : PresentedGrant} {rawArgs : Option Json} {jti error : JsString}

/-- The record of a jti says that nothing was performed. -/
def SaysUndone (records : JsMap JsString Json) (jti : JsString) : Prop :=
  Says records jti .notPerformed none ∨ Says records jti .connectorError (some (js "not-performed"))

/-- Once a burned grant's request has ended, its record says that nothing was performed, or it was dispatched. -/
def Tells (i : Nat) (jti : JsString) (s : BrokerState) : Prop :=
  ∃ c, s.connections[i]? = some c ∧ c.phase.jti = some jti ∧
    (c.task = none → c.phase.dispatched = true ∨ SaysUndone s.records jti)

/-- A request that ended over a fresh record which nothing rewrites. -/
def Stuck (i : Nat) (jti : JsString) (s : BrokerState) : Prop :=
  ∃ c, s.connections[i]? = some c ∧ c.phase.jti = some jti ∧ c.task = none ∧ Says s.records jti .dispatching none

theorem Says.congr {records records' : JsMap JsString Json} {state : BurnState} {outcome : Option JsString}
    (h : Says records jti state outcome) (hget : records'.get? jti = records.get? jti) :
    Says records' jti state outcome := by
  obtain ⟨fields, hrecord, htold⟩ := h
  exact ⟨fields, hget.trans hrecord, htold⟩

/-- A request that burned a grant goes on only where what it awaits settles. -/
theorem burned_move (hs : s.Sound) (h : (brokerRuns b).next s op t) (hc : s.connections[i]? = some c)
    (hjti : c.phase.jti = some jti) (hget : t.connections[i]? = some c') :
    (c'.task = c.task ∧ op.settles i = false) ∨
      ∃ task settled now write phase progress, c.task = some (.merge task) ∧ op = .settled i settled now write ∧
        Resumed b s.records c.phase task settled now write (t.records, phase, progress) ∧
        c' = b.progress { c with phase } progress := by
  have hsound := hs.connections i c hc
  have hstarted : c.started ≠ false := by
    intro hidle
    rw [(hsound.idle hidle).2.1] at hjti
    cases hjti
  have hsame : ∀ {d}, s.connections[i]? = some d → d = c := by
    intro d hd
    rw [hc] at hd
    exact (Option.some.inj hd).symm
  cases next_move h hget with
  | fresh absent =>
      rw [hc] at absent
      cases absent
  | kept before other =>
      obtain rfl := hsame before
      exact .inl ⟨rfl, settles_eq_false other⟩
  | received label before received =>
      obtain rfl := hsame before
      generalize t.records = records at received
      cases received with
      | kept => exact .inl ⟨rfl, by rw [label]; rfl⟩
      | answered idle => exact absurd idle hstarted
      | pinned _ _ _ idle => exact absurd idle hstarted
      | merging _ presents => exact absurd presents.unstarted.2 hstarted
      | refused _ presents => exact absurd presents.unstarted.2 hstarted
  | expired label before waiting after =>
      obtain rfl := hsame before
      exact .inl ⟨by rw [after, (expire_phase b waiting).2], by rw [label]; rfl⟩
  | closed before after _ label =>
      obtain rfl := hsame before
      exact .inl ⟨by rw [after], by rw [label]; rfl⟩
  | pinned before pin =>
      obtain rfl := hsame before
      rw [(hsound.pin _ pin).1] at hjti
      cases hjti
  | resumed label before merge resumed after =>
      obtain rfl := hsame before
      exact .inr ⟨_, _, _, _, _, _, merge, label, resumed, after⟩

/-- The record of a request that has ended is not touched again. -/
theorem ended_record (hs : s.Sound) (h : (brokerRuns b).next s op t) (hc : s.connections[i]? = some c)
    (hjti : c.phase.jti = some jti) (htask : c.task = none) : t.records.get? jti = s.records.get? jti := by
  rcases next_records h (hs.burned i c jti hc hjti) with hsame | ⟨j, d, task, -, -, -, -, hd, hdtask, rfl⟩
  · exact hsame
  · obtain rfl := hs.single i j c d _ hc hd hjti ((hs.connections j d hd).merge task hdtask).1
    rw [hc] at hd
    obtain rfl := Option.some.inj hd
    rw [htask] at hdtask
    cases hdtask

/-- Nor does the request come back. -/
theorem ended_stays (hs : s.Sound) (h : (brokerRuns b).next s op t) (hc : s.connections[i]? = some c)
    (hjti : c.phase.jti = some jti) (htask : c.task = none) (hget : t.connections[i]? = some c') : c'.task = none := by
  rcases burned_move hs h hc hjti hget with ⟨hsame, -⟩ | ⟨task, _, _, _, _, _, hmerge, -⟩
  · exact hsame.trans htask
  · rw [htask] at hmerge
    cases hmerge

/-- A merge that ends is written down, or was dispatched. -/
theorem resumed_tells {records records' : JsMap JsString Json} {phase phase' : RequestPhase} {task : MergeTask}
    {settled : AwaitResult} {now : Int} {progress : Progress} {burnedAt : Int}
    (h : Resumed b records phase task settled now .written (records', phase', progress))
    (hstage : task.stage.isDispatched = phase.dispatched)
    (hrecord : records.get? task.grant.jti = some (freshRecord task.grant.jti task.grant.expiresAt burnedAt))
    (hends : ∀ next, progress ≠ .suspended next) : phase'.dispatched = true ∨ SaysUndone records' task.grant.jti := by
  cases h with
  | minting => exact absurd rfl (hends _)
  | readingBase => exact absurd rfl (hends _)
  | committing => exact absurd rfl (hends _)
  | putting => exact absurd rfl (hends _)
  | verifying => exact absurd rfl (hends _)
  | refused message => exact .inr (.inl (says_recordOutcome (refusedPatch message) hrecord))
  | @failed error stage outcome =>
      have htold := @says_recordOutcome records _ now _ _ (connectorErrorPatch error) hrecord
      rw [show (connectorErrorPatch error).outcome = some (js "not-performed") by
        rw [connectorErrorPatch, outcome]; rfl] at htold
      exact .inr (.inr htold)
  | rejected stage =>
      rw [stage] at hstage
      exact .inl hstage.symm
  | merged stage => exact .inl (hstage.symm.trans stage)
  | unknown stage => exact .inl (hstage.symm.trans stage)

theorem Tells.next (h : Tells i jti s) (hs : s.Sound) (hnext : (brokerRuns b).next s op t)
    (hwritten : op.recordsWritten) :
    Tells i jti t := by
  obtain ⟨c, hc, hjti, htells⟩ := h
  have hsound := hs.connections i c hc
  obtain ⟨c', hget, hkeeps⟩ := next_keeps hs hnext hc
  refine ⟨c', hget, hkeeps.jti jti hjti, fun hended => ?_⟩
  cases htask : c.task with
  | none =>
      rcases htells htask with hdispatched | htold
      · exact .inl (hkeeps.dispatched hdispatched)
      · have hrecord := ended_record hs hnext hc hjti htask
        exact .inr (htold.imp (fun h => h.congr hrecord) fun h => h.congr hrecord)
  | some task =>
      cases task with
      | pin task =>
          rw [(hsound.pin task htask).1] at hjti
          cases hjti
      | merge task =>
          rcases burned_move hs hnext hc hjti hget with ⟨hsame, -⟩ |
            ⟨task', settled, now, write, phase, progress, hmerge, rfl, hresumed, hafter⟩
          · rw [hsame, htask] at hended
            cases hended
          obtain rfl : task = task' := by
            rw [htask] at hmerge
            cases hmerge
            rfl
          obtain ⟨hheld, hstage⟩ := hsound.merge task htask
          obtain rfl : task.grant.jti = jti := Option.some.inj (hheld.symm.trans hjti)
          obtain ⟨burnedAt, hrecord⟩ := hs.pending i c task hc htask
          obtain rfl : write = .written := hwritten
          have hends : ∀ next, progress ≠ .suspended next := by
            rintro next rfl
            rw [hafter] at hended
            cases hended
          rw [hafter, progress_phase]
          exact resumed_tells hresumed hstage hrecord hends

theorem Stuck.next (h : Stuck i jti s) (hs : s.Sound) (hnext : (brokerRuns b).next s op t) : Stuck i jti t := by
  obtain ⟨c, hc, hjti, htask, htold⟩ := h
  obtain ⟨c', hget, hkeeps⟩ := next_keeps hs hnext hc
  exact ⟨c', hget, hkeeps.jti jti hjti, ended_stays hs hnext hc hjti htask hget,
    htold.congr (ended_record hs hnext hc hjti htask)⟩

end Runs

end OwnerSwitch
