/-
Module: OwnerSwitch.Executor.MergeBrokerRuns
Layer: Executor
Purpose: Runs of the merge broker. A grant is burned by one connection, whose merge is under way while its record is the
  fresh one (`BrokerState.Sound`); a connection that was answered with a refusal has sent nothing and sends nothing. So
  a jti sees one merge request at most, and no dispatched merge is reported as not done.
Imports: Executor.MergeBrokerSteps
Trusted boundary: that of Executor.MergeBroker
Main exports: BrokerMove, next_move, BrokerState.Sound, sound_invariant, BrokerEdge.Sends, never_reports_undone
Open obligations: none
-/
import OwnerSwitch.Executor.MergeBrokerSteps

namespace OwnerSwitch

open MergeBroker

/-! ### What a step does to a connection -/

/-- What becomes of a connection in one step: it is new, it stays, or the step is its own. -/
inductive BrokerMove (b : MergeBroker) (s : BrokerState) (op : BrokerStep) (t : BrokerState) (i : Nat)
    (c' : Connection) :
    Prop where
  | fresh (absent : s.connections[i]? = none) (new : c' = .fresh) (records : t.records = s.records)
  | kept (before : s.connections[i]? = some c') (other : ∀ settled now write, op ≠ .settled i settled now write)
  | received {c : Connection} {chunk : Bytes} {now : Int} {burn write : LedgerWrite}
      (label : op = .data i chunk now burn write) (before : s.connections[i]? = some c)
      (received : Received b s.records c chunk now burn write (t.records, c'))
  | expired {c : Connection} (label : op = .timeout i) (before : s.connections[i]? = some c) (waiting : c.done = false)
      (after : c' = b.expire c) (records : t.records = s.records)
  | closed {c : Connection} (before : s.connections[i]? = some c) (after : c' = { c with done := true })
      (records : t.records = s.records) (label : op = .socketError i)
  | pinned {c : Connection} {task : PinTask} {progress : Progress} (before : s.connections[i]? = some c)
      (pin : c.task = some (.pin task)) (kind : ∀ next, progress = .suspended next → ∃ task, next = .pin task)
      (after : c' = b.progress c progress) (records : t.records = s.records)
  | resumed {c : Connection} {task : MergeTask} {settled : AwaitResult} {now : Int} {write : LedgerWrite}
      {phase : RequestPhase} {progress : Progress} (label : op = .settled i settled now write)
      (before : s.connections[i]? = some c) (merge : c.task = some (.merge task))
      (resumed : Resumed b s.records c.phase task settled now write (t.records, phase, progress))
      (after : c' = b.progress { c with phase } progress)

section Moves

variable {b : MergeBroker} {s t : BrokerState} {op : BrokerStep} {i j index : Nat} {c c' : Connection}

/-- After a move each connection is the one that moved, or as it was. -/
theorem move_connections {result : JsMap JsString Json × Connection}
    (hget : (s.move index result).connections[i]? = some c') :
    (i = index ∧ c' = result.2) ∨ (i ≠ index ∧ s.connections[i]? = some c') := by
  unfold BrokerState.move at hget
  dsimp only at hget
  rw [List.getElem?_set] at hget
  split_ifs at hget with hi hbound
  · exact .inl ⟨hi.symm, (Option.some.inj hget).symm⟩
  · exact .inr ⟨fun h => hi h.symm, hget⟩

/-- A pinned head stays a pinned head. -/
theorem resumePin_kind {task : PinTask} {settled : AwaitResult} {progress : Progress}
    (h : b.resumePin task settled = some progress) :
    ∀ next, progress = .suspended next → ∃ task, next = .pin task := by
  rintro next rfl
  unfold resumePin at h
  cases settled with
  | live state =>
      dsimp only at h
      split_ifs at h
      · cases h
      · split at h
        · cases h
        · cases h
          exact ⟨_, rfl⟩
  | token token =>
      dsimp only at h
      split_ifs at h
      split at h
      · cases h
      · cases h
        exact ⟨_, rfl⟩
  | http answer =>
      dsimp only at h
      split_ifs at h
      split at h
      · cases h
      · cases h

/-- A step moves one connection on, or leaves it. -/
theorem next_move (h : (brokerRuns b).next s op t) (hget : t.connections[i]? = some c') : BrokerMove b s op t i c' := by
  cases op with
  | accept =>
      obtain rfl : t = _ := h
      dsimp only at hget
      rw [List.getElem?_append] at hget
      split at hget
      · exact .kept hget (by simp)
      · rename_i habsent
        exact .fresh (List.getElem?_eq_none (not_lt.mp habsent)) (List.mem_singleton.mp (List.mem_of_getElem? hget)) rfl
  | data index chunk now burn write =>
      obtain ⟨c, hc, rfl⟩ := h
      rcases move_connections hget with ⟨rfl, rfl⟩ | ⟨-, hkept⟩
      · exact .received rfl hc receive_received
      · exact .kept hkept (by simp)
  | timeout index =>
      obtain ⟨c, hc, hwaiting, rfl⟩ := h
      rcases move_connections hget with ⟨rfl, rfl⟩ | ⟨-, hkept⟩
      · exact .expired rfl hc hwaiting rfl rfl
      · exact .kept hkept (by simp)
  | socketError index =>
      obtain ⟨c, hc, rfl⟩ := h
      rcases move_connections hget with ⟨rfl, rfl⟩ | ⟨-, hkept⟩
      · exact .closed hc rfl rfl rfl
      · exact .kept hkept (by simp)
  | settled index settled now write =>
      obtain ⟨c, result, hc, hresume, rfl⟩ := h
      rcases move_connections hget with ⟨rfl, rfl⟩ | ⟨hother, hkept⟩
      · unfold resume at hresume
        cases htask : c.task with
        | none =>
            rw [htask] at hresume
            cases hresume
        | some task =>
            rw [htask] at hresume
            cases task with
            | pin task =>
                obtain ⟨progress, hprogress, rfl⟩ := Option.map_eq_some_iff.mp hresume
                exact .pinned hc htask (resumePin_kind hprogress) rfl rfl
            | merge task =>
                obtain ⟨resumed, hresumed, rfl⟩ := Option.map_eq_some_iff.mp hresume
                exact .resumed rfl hc htask (resumeMerge_resumed hresumed) rfl
      · apply BrokerMove.kept hkept
        rintro _ _ _ hop
        cases hop
        exact hother rfl

/-- A step leaves every connection of the state in the state it leads to. -/
theorem next_get? (h : (brokerRuns b).next s op t) (hc : s.connections[i]? = some c) :
    ∃ c', t.connections[i]? = some c' := by
  have hlength : s.connections.length ≤ t.connections.length := by
    cases op with
    | accept =>
        obtain rfl : t = _ := h
        simp
    | data index =>
        obtain ⟨_, _, rfl⟩ := h
        simp [BrokerState.move]
    | timeout index =>
        obtain ⟨_, _, _, rfl⟩ := h
        simp [BrokerState.move]
    | socketError index =>
        obtain ⟨_, _, rfl⟩ := h
        simp [BrokerState.move]
    | settled index =>
        obtain ⟨_, _, _, _, rfl⟩ := h
        simp [BrokerState.move]
  obtain ⟨hi, -⟩ := List.getElem?_eq_some_iff.mp hc
  exact ⟨t.connections[i], List.getElem?_eq_getElem (by omega)⟩

/-- A chunk writes no record of a jti that has one, but for the grant it burns. -/
theorem received_get? {records : JsMap JsString Json} {chunk : Bytes} {now : Int} {burn write : LedgerWrite}
    {result : JsMap JsString Json × Connection} {jti : JsString} (h : Received b records c chunk now burn write result)
    (hhas : records.has jti = true) : result.1.get? jti = records.get? jti := by
  cases h with
  | kept => rfl
  | answered _ _ frame => exact frame jti hhas
  | pinned => rfl
  | merging _ presents =>
      apply JsMap.get?_set_ne
      rintro rfl
      rw [presents.fresh] at hhas
      cases hhas
  | @refused grant _ error _ presents =>
      have hne : jti ≠ grant.jti := by
        rintro rfl
        rw [presents.fresh] at hhas
        cases hhas
      cases error with
      | refusal message =>
          show (recordOutcome _ grant.jti _ _ _).get? jti = _
          rw [recordOutcome_get?_ne hne, JsMap.get?_set_ne _ _ hne]
      | other message => exact JsMap.get?_set_ne _ _ hne

/-- A record changes only when the merge of its own jti ends. -/
theorem next_records {jti : JsString} (h : (brokerRuns b).next s op t) (hhas : s.records.has jti = true) :
    t.records.get? jti = s.records.get? jti ∨
      ∃ i c task settled now write, op = .settled i settled now write ∧ s.connections[i]? = some c ∧
        c.task = some (.merge task) ∧ task.grant.jti = jti := by
  cases op with
  | accept =>
      obtain rfl : t = _ := h
      exact .inl rfl
  | data index chunk now burn write =>
      obtain ⟨c, hc, rfl⟩ := h
      exact .inl (received_get? receive_received hhas)
  | timeout index =>
      obtain ⟨c, hc, hwaiting, rfl⟩ := h
      exact .inl rfl
  | socketError index =>
      obtain ⟨c, hc, rfl⟩ := h
      exact .inl rfl
  | settled index settled now write =>
      obtain ⟨c, result, hc, hresume, rfl⟩ := h
      unfold resume at hresume
      cases htask : c.task with
      | none =>
          rw [htask] at hresume
          cases hresume
      | some task =>
          rw [htask] at hresume
          cases task with
          | pin task =>
              obtain ⟨progress, -, rfl⟩ := Option.map_eq_some_iff.mp hresume
              exact .inl rfl
          | merge task =>
              obtain ⟨resumed, hresumed, rfl⟩ := Option.map_eq_some_iff.mp hresume
              by_cases hjti : task.grant.jti = jti
              · exact .inr ⟨index, c, task, settled, now, write, rfl, hc, htask, hjti⟩
              · exact .inl ((resumeMerge_resumed hresumed).get?_ne fun h => hjti h.symm)

/-- A record that is there stays. -/
theorem next_has {jti : JsString} (h : (brokerRuns b).next s op t) (hhas : s.records.has jti = true) :
    t.records.has jti = true := by
  rcases next_records h hhas with hsame | ⟨i, c, task, settled, now, write, rfl, hc, htask, -⟩
  · obtain ⟨record, hrecord⟩ := JsMap.has_iff.mp hhas
    exact JsMap.has_iff.mpr ⟨record, hsame.trans hrecord⟩
  · obtain ⟨c', result, hc', hresume, rfl⟩ := h
    rw [hc] at hc'
    obtain rfl := Option.some.inj hc'
    unfold resume at hresume
    rw [htask] at hresume
    obtain ⟨resumed, hresumed, rfl⟩ := Option.map_eq_some_iff.mp hresume
    exact (resumeMerge_resumed hresumed).has hhas

end Moves

/-! ### The invariant -/

/-- A connection between two steps. -/
structure Connection.Sound (c : Connection) : Prop where
  idle : c.started = false → c.task = none ∧ c.phase.jti = none ∧ c.phase.dispatched = false
  ended : c.started = true → c.task = none → c.done = true
  waiting : c.done = false → c.answer = none
  pin : ∀ task, c.task = some (.pin task) → c.phase.jti = none ∧ c.phase.dispatched = false
  merge : ∀ task, c.task = some (.merge task) →
    c.phase.jti = some task.grant.jti ∧ task.stage.isDispatched = c.phase.dispatched
  /-- what was refused is not dispatched, and never will be -/
  refused : ∀ error, c.answer = some (.refused error) →
    c.phase.dispatched = false ∧ (c.task = none ∨ c.phase.abandoned = true)
  /-- what was reported as not performed has ended -/
  undone : ∀ error, c.answer = some (.connector .notPerformed error) → c.task = none

section Sound

variable {b : MergeBroker} {s t : BrokerState} {op : BrokerStep} {i j : Nat} {c c' : Connection}

/-- A fresh connection is sound. -/
theorem sound_fresh : Connection.fresh.Sound := by
  constructor
  · exact fun _ => ⟨rfl, rfl, rfl⟩
  · nofun
  · exact fun _ => rfl
  · nofun
  · nofun
  · nofun
  · nofun

/-- Only the first answer is written, and it is the last that is done to a connection. -/
theorem finish_cases (b : MergeBroker) (c : Connection) (response : WireResponse) :
    (c.done = true ∧ b.finish c response = c) ∨
      (c.done = false ∧ b.finish c response = { c with done := true, answer := some (b.safeResponse response) }) := by
  unfold finish
  cases hdone : c.done with
  | true => exact .inl ⟨rfl, if_pos rfl⟩
  | false => exact .inr ⟨rfl, if_neg nofun⟩

/-- A request that ends is sound, if a refusal is its answer only where nothing was sent. -/
theorem sound_ended (htask : c.task = none)
    (hidle : c.started = false → c.phase.jti = none ∧ c.phase.dispatched = false)
    (hwaiting : c.done = false → c.answer = none)
    (hrefused : ∀ error, c.answer = some (.refused error) → c.phase.dispatched = false) {response : WireResponse}
    (hresponse : ∀ error, b.safeResponse response = .refused error → c.phase.dispatched = false) :
    (b.finish c response).Sound := by
  rcases finish_cases b c response with ⟨hdone, hfinish⟩ | ⟨hdone, hfinish⟩
  · rw [hfinish]
    constructor
    · exact fun h => ⟨htask, hidle h⟩
    · exact fun _ _ => hdone
    · exact hwaiting
    · intro task h
      rw [htask] at h
      cases h
    · intro task h
      rw [htask] at h
      cases h
    · exact fun error h => ⟨hrefused error h, .inl htask⟩
    · exact fun _ _ => htask
  · rw [hfinish]
    constructor
    · exact fun h => ⟨htask, hidle h⟩
    · exact fun _ _ => rfl
    · simp
    · intro task h
      rw [htask] at h
      cases h
    · intro task h
      rw [htask] at h
      cases h
    · exact fun error h => ⟨hresponse error (Option.some.inj h), .inl htask⟩
    · exact fun _ _ => htask

/-- A merge that goes on is sound, if its phase is that of its stage. -/
theorem sound_merging {task : MergeTask} (hstarted : c.started = true) (hwaiting : c.done = false → c.answer = none)
    (hjti : c.phase.jti = some task.grant.jti) (hstage : task.stage.isDispatched = c.phase.dispatched)
    (hrefused : ∀ error, c.answer = some (.refused error) → c.phase.dispatched = false ∧ c.phase.abandoned = true)
    (hundone : ∀ error, c.answer ≠ some (.connector .notPerformed error)) :
    ({ c with task := some (.merge task) } : Connection).Sound := by
  constructor
  · intro h
    rw [hstarted] at h
    cases h
  · simp
  · exact hwaiting
  · simp
  · intro task' htask
    cases htask
    exact ⟨hjti, hstage⟩
  · intro error herror
    obtain ⟨hphase, habandoned⟩ := hrefused error herror
    exact ⟨hphase, .inr habandoned⟩
  · exact fun error herror => absurd herror (hundone error)

/-- A suspended coroutine belongs to a request. -/
theorem Connection.Sound.started (h : c.Sound) {task : BrokerTask} (htask : c.task = some task) : c.started = true := by
  cases hstarted : c.started with
  | true => rfl
  | false =>
      obtain ⟨hnone, -⟩ := h.idle hstarted
      rw [htask] at hnone
      cases hnone

/-- A suspended merge that was refused was abandoned before it was dispatched. -/
theorem Connection.Sound.latch (h : c.Sound) {task : BrokerTask} (htask : c.task = some task) :
    ∀ error, c.answer = some (.refused error) → c.phase.dispatched = false ∧ c.phase.abandoned = true := by
  intro error herror
  obtain ⟨hphase, hended | habandoned⟩ := h.refused error herror
  · rw [htask] at hended
    cases hended
  · exact ⟨hphase, habandoned⟩

/-- A suspended coroutine was not reported as not performed. -/
theorem Connection.Sound.unreported (h : c.Sound) {task : BrokerTask} (htask : c.task = some task) :
    ∀ error, c.answer ≠ some (.connector .notPerformed error) := by
  intro error herror
  rw [h.undone error herror] at htask
  cases htask

/-- A refusal that is sent is the redaction of a refusal. -/
theorem safeResponse_refused {response : WireResponse} {error : JsString}
    (h : b.safeResponse response = .refused error) : ∃ error, response = .refused error := by
  unfold safeResponse at h
  split at h
  · exact ⟨_, rfl⟩
  · cases h
  · rw [h]
    exact ⟨_, rfl⟩

/-- An error that escapes is a refusal only before the dispatch. -/
theorem escaped_refused {phase : RequestPhase} {e : BrokerError} {error : JsString}
    (h : b.escaped phase e = .refused error)
    (hdispatched : ∀ message, e = .refusal message → phase.dispatched = false) :
    phase.dispatched = false := by
  cases e with
  | refusal message => exact hdispatched message rfl
  | other message =>
      unfold escaped at h
      dsimp only at h
      split_ifs at h with hphase
      exact Bool.eq_false_iff.mpr hphase

/-- What is received leaves the connection sound. -/
theorem received_sound {records records' : JsMap JsString Json} {chunk : Bytes} {now : Int} {burn write : LedgerWrite}
    (h : Received b records c chunk now burn write (records', c')) (hc : c.Sound) : c'.Sound := by
  cases h with
  | kept buffer => exact ⟨hc.idle, hc.ended, hc.waiting, hc.pin, hc.merge, hc.refused, hc.undone⟩
  | answered idle ended =>
      obtain ⟨htask, hjti, hdispatched⟩ := hc.idle idle
      apply sound_ended
      · exact ended.elim id fun h => h.trans htask
      · exact fun _ => ⟨hjti, hdispatched⟩
      · exact hc.waiting
      · exact fun _ _ => hdispatched
      · exact fun _ _ => hdispatched
  | pinned buffer task waiting idle =>
      obtain ⟨-, hjti, hdispatched⟩ := hc.idle idle
      constructor
      · simp
      · simp
      · exact hc.waiting
      · exact fun _ _ => ⟨hjti, hdispatched⟩
      · simp
      · intro error herror
        rw [show c.answer = none from hc.waiting waiting] at herror
        cases herror
      · intro error herror
        rw [show c.answer = none from hc.waiting waiting] at herror
        cases herror
  | @merging grant _ args buffer presents =>
      obtain ⟨hwaiting, hidle⟩ := presents.unstarted
      obtain ⟨-, -, hdispatched⟩ := hc.idle hidle
      apply @sound_merging (burnedBy c buffer grant) ⟨grant, args, .probing⟩ rfl hc.waiting rfl hdispatched.symm
      · intro error herror
        rw [show (burnedBy c buffer grant).answer = none from hc.waiting hwaiting] at herror
        cases herror
      · intro error herror
        rw [show (burnedBy c buffer grant).answer = none from hc.waiting hwaiting] at herror
        cases herror
  | refused buffer presents =>
      obtain ⟨-, hidle⟩ := presents.unstarted
      obtain ⟨-, -, hdispatched⟩ := hc.idle hidle
      apply sound_ended rfl
      · nofun
      · exact hc.waiting
      · exact fun _ _ => hdispatched
      · exact fun _ _ => hdispatched

/-- The answer of a timer, which fires only where there is none. -/
theorem expire_eq (b : MergeBroker) (hwaiting : c.done = false) : ∃ answer,
    b.expire c = { c with done := true, phase := { c.phase with abandoned := true }, answer := some answer } ∧
      (∀ error, answer = .refused error → c.phase.dispatched = false) ∧
      ∀ error, answer ≠ .connector .notPerformed error := by
  have hfinish : ∀ response, b.finish { c with phase := { c.phase with abandoned := true } } response = { c with
      done := true, phase := { c.phase with abandoned := true }, answer := some (b.safeResponse response) } := by
    intro response
    exact if_neg (by simp [hwaiting])
  unfold expire
  dsimp only
  split_ifs with hdispatched
  · exact ⟨_, hfinish _, by simp [safeResponse], by simp [safeResponse]⟩
  · exact ⟨_, hfinish _, fun _ _ => Bool.eq_false_iff.mpr hdispatched, by simp [safeResponse]⟩

/-- So does the timer. -/
theorem expire_sound (hc : c.Sound) (hwaiting : c.done = false) : (b.expire c).Sound := by
  obtain ⟨answer, hexpire, hrefused, hundone⟩ := expire_eq b hwaiting
  rw [hexpire]
  constructor
  · exact hc.idle
  · exact fun _ _ => rfl
  · simp
  · exact hc.pin
  · exact hc.merge
  · exact fun error herror => ⟨hrefused error (Option.some.inj herror), .inr rfl⟩
  · exact fun error herror => absurd (Option.some.inj herror) (hundone error)

/-- A coroutine that ends leaves its connection sound. -/
theorem progress_sound (hc : c.Sound) {task : BrokerTask} (htask : c.task = some task) {phase : RequestPhase}
    (hphase : phase.dispatched = c.phase.dispatched) {progress : Progress}
    (hends : ∀ next, progress ≠ .suspended next)
    (hanswer : ∀ error, progress ≠ .answered (.refused error))
    (hrefusal : ∀ message, progress = .thrown (.refusal message) → c.phase.dispatched = false) :
    (b.progress { c with phase } progress).Sound := by
  have hstarted := hc.started htask
  have hrefused := fun error herror => hphase.trans (hc.refused error herror).1
  cases progress with
  | suspended next => exact absurd rfl (hends next)
  | answered response =>
      apply sound_ended rfl
      · intro h
        rw [show c.started = false from h] at hstarted
        cases hstarted
      · exact hc.waiting
      · exact hrefused
      · intro error herror
        obtain ⟨error, rfl⟩ := safeResponse_refused herror
        exact absurd rfl (hanswer error)
  | thrown e =>
      apply sound_ended rfl
      · intro h
        rw [show c.started = false from h] at hstarted
        cases hstarted
      · exact hc.waiting
      · exact hrefused
      · intro error herror
        obtain ⟨error, herror⟩ := safeResponse_refused herror
        apply escaped_refused herror
        rintro message rfl
        exact hphase.trans (hrefusal message rfl)

/-- A merge that goes on leaves the connection sound. -/
theorem resumed_sound (hc : c.Sound) {task : MergeTask} (htask : c.task = some (.merge task)) {settled : AwaitResult}
    {now : Int} {write : LedgerWrite} {records records' : JsMap JsString Json} {phase : RequestPhase}
    {progress : Progress} (h : Resumed b records c.phase task settled now write (records', phase, progress)) :
    (b.progress { c with phase } progress).Sound := by
  have hstarted := hc.started htask
  have hlatch := hc.latch htask
  obtain ⟨hjti, hstage⟩ := hc.merge task htask
  cases h with
  | minting stage =>
      rw [stage] at hstage
      exact sound_merging hstarted hc.waiting hjti hstage hlatch (hc.unreported htask)
  | readingBase stage =>
      rw [stage] at hstage
      exact sound_merging hstarted hc.waiting hjti hstage hlatch (hc.unreported htask)
  | committing stage =>
      rw [stage] at hstage
      exact sound_merging hstarted hc.waiting hjti hstage hlatch (hc.unreported htask)
  | @putting _ prUrl token _ stage answer committed =>
      apply @sound_merging { c with phase := { c.phase with dispatched := true } }
        { task with stage := .putting prUrl token } hstarted hc.waiting hjti rfl
      · intro error herror
        obtain ⟨-, habandoned⟩ := hlatch error herror
        obtain ⟨-, -, -, -, hunabandoned⟩ := commitRefusal_none committed
        rw [hunabandoned] at habandoned
        cases habandoned
      · exact hc.unreported htask
  | verifying stage =>
      rw [stage] at hstage
      exact sound_merging hstarted hc.waiting hjti hstage hlatch (hc.unreported htask)
  | refused message stage =>
      rw [stage] at hstage
      exact progress_sound hc htask rfl (by simp) (by simp) fun _ _ => hstage.symm
  | failed => exact progress_sound hc htask rfl (by simp) (by simp) (by simp)
  | rejected => exact progress_sound hc htask rfl (by simp) (by simp) (by simp)
  | merged => exact progress_sound hc htask rfl (by simp) (by simp) (by simp)
  | unknown => exact progress_sound hc htask rfl (by simp) (by simp) (by simp)

/-- So does a pin. -/
theorem pinned_sound (hc : c.Sound) {task : PinTask} (htask : c.task = some (.pin task)) {progress : Progress}
    (hkind : ∀ next, progress = .suspended next → ∃ task, next = .pin task) : (b.progress c progress).Sound := by
  have hstarted := hc.started htask
  obtain ⟨hjti, hdispatched⟩ := hc.pin task htask
  have hended : ∀ response, (b.finish { c with task := none } response).Sound := by
    intro response
    apply sound_ended rfl
    · exact fun _ => ⟨hjti, hdispatched⟩
    · exact hc.waiting
    · exact fun _ _ => hdispatched
    · exact fun _ _ => hdispatched
  cases progress with
  | suspended next =>
      obtain ⟨next, rfl⟩ := hkind next rfl
      constructor
      · intro h
        rw [show c.started = false from h] at hstarted
        cases hstarted
      · nofun
      · exact hc.waiting
      · exact fun _ _ => ⟨hjti, hdispatched⟩
      · nofun
      · exact fun error herror => ⟨hdispatched, .inr (hc.latch htask error herror).2⟩
      · exact fun error herror => absurd herror (hc.unreported htask error)
  | answered response => exact hended response
  | thrown e => exact hended _

/-- A step leaves every connection sound. -/
theorem Connection.Sound.move (h : ∀ c, s.connections[i]? = some c → c.Sound) (hmove : BrokerMove b s op t i c') :
    c'.Sound := by
  cases hmove with
  | fresh absent new =>
      rw [new]
      exact sound_fresh
  | kept before => exact h _ before
  | received label before received => exact received_sound received (h _ before)
  | expired label before waiting after =>
      rw [after]
      exact expire_sound (h _ before) waiting
  | closed before after =>
      have hc := h _ before
      rw [after]
      exact ⟨hc.idle, fun _ _ => rfl, nofun, hc.pin, hc.merge, hc.refused, hc.undone⟩
  | pinned before pin kind after =>
      rw [after]
      exact pinned_sound (h _ before) pin kind
  | resumed label before merge resumed after =>
      rw [after]
      exact resumed_sound (h _ before) merge resumed

/-! ### Single use -/

/-- An answer leaves the phase alone. -/
@[simp] theorem finish_phase (b : MergeBroker) (c : Connection) (response : WireResponse) :
    (b.finish c response).phase = c.phase := by
  unfold finish
  split_ifs <;> rfl

@[simp] theorem finish_task (b : MergeBroker) (c : Connection) (response : WireResponse) :
    (b.finish c response).task = c.task := by
  unfold finish
  split_ifs <;> rfl

@[simp] theorem progress_phase (b : MergeBroker) (c : Connection) (progress : Progress) :
    (b.progress c progress).phase = c.phase := by
  cases progress with
  | suspended task => rfl
  | answered response => exact finish_phase b _ response
  | thrown error => exact finish_phase b _ _

/-- A coroutine is suspended where its progress says so. -/
theorem progress_task {progress : Progress} {task : BrokerTask} (h : (b.progress c progress).task = some task) :
    progress = .suspended task := by
  cases progress with
  | suspended next =>
      cases h
      rfl
  | answered response =>
      rw [MergeBroker.progress, finish_task] at h
      cases h
  | thrown error =>
      rw [MergeBroker.progress, finish_task] at h
      cases h

theorem expire_phase (b : MergeBroker) (hwaiting : c.done = false) :
    (b.expire c).phase = { c.phase with abandoned := true } ∧ (b.expire c).task = c.task := by
  obtain ⟨answer, hexpire, -⟩ := expire_eq b hwaiting
  rw [hexpire]
  exact ⟨rfl, rfl⟩

/-- A connection holds a jti since it burned it. -/
theorem BrokerMove.jti {jti : JsString} (h : BrokerMove b s op t i c') (hjti : c'.phase.jti = some jti) :
    (∃ c, s.connections[i]? = some c ∧ c.phase.jti = some jti) ∨
      (s.records.has jti = false ∧ t.records.has jti = true ∧
        ∃ chunk now burn write, op = .data i chunk now burn write) := by
  cases h with
  | fresh absent new =>
      rw [new] at hjti
      cases hjti
  | kept before => exact .inl ⟨c', before, hjti⟩
  | received label before received =>
      generalize t.records = records at received ⊢
      cases received with
      | kept => exact .inl ⟨_, before, hjti⟩
      | answered =>
          rw [finish_phase] at hjti
          exact .inl ⟨_, before, hjti⟩
      | pinned => exact .inl ⟨_, before, hjti⟩
      | @merging grant _ _ buffer presents =>
          cases hjti
          exact .inr ⟨presents.fresh, by simp [JsMap.has_set], _, _, _, _, label⟩
      | @refused grant _ error buffer presents =>
          rw [progress_phase] at hjti
          cases hjti
          have hset : ∀ record, (s.records.set grant.jti record).has grant.jti = true := by simp [JsMap.has_set]
          have hhas : ∀ record now write,
              (throwBurned (s.records.set grant.jti record) grant error write now).1.has grant.jti = true := by
            intro record now write
            cases error with
            | refusal message => exact recordOutcome_has _ (hset record)
            | other message => exact hset record
          exact .inr ⟨presents.fresh, hhas _ _ _, _, _, _, _, label⟩
  | expired label before waiting after =>
      rw [after, (expire_phase b waiting).1] at hjti
      exact .inl ⟨_, before, hjti⟩
  | closed before after =>
      rw [after] at hjti
      exact .inl ⟨_, before, hjti⟩
  | pinned before pin kind after =>
      rw [after, progress_phase] at hjti
      exact .inl ⟨_, before, hjti⟩
  | resumed label before merge resumed after =>
      rw [after, progress_phase] at hjti
      exact .inl ⟨_, before, resumed.keepsPhase.1.symm.trans hjti⟩

/-- A suspended merge is the one before the step, further on, or a grant just burned. -/
theorem BrokerMove.task {task : MergeTask} (h : BrokerMove b s op t i c')
    (hsound : ∀ c, s.connections[i]? = some c → c.Sound) (htask : c'.task = some (.merge task)) :
    (∃ c old, s.connections[i]? = some c ∧ c.task = some (.merge old) ∧ old.grant = task.grant ∧ old.args = task.args ∧
      ((∀ settled now write, op ≠ .settled i settled now write) ∨ t.records = s.records)) ∨
    ∃ c chunk now burn write rawArgs, op = .data i chunk now burn write ∧ s.connections[i]? = some c ∧
      b.Presents s.records c chunk now task.grant rawArgs ∧ b.authorize task.grant rawArgs = .ok task.args ∧
      t.records = s.records.set task.grant.jti (freshRecord task.grant.jti task.grant.expiresAt now) := by
  cases h with
  | fresh absent new =>
      rw [new] at htask
      cases htask
  | kept before other => exact .inl ⟨c', task, before, htask, rfl, rfl, .inl other⟩
  | @received c _ _ _ _ label before received =>
      generalize t.records = records at received ⊢
      cases received with
      | kept => exact .inl ⟨c, task, before, htask, rfl, rfl, .inr rfl⟩
      | answered idle ended =>
          obtain ⟨hnone, -⟩ := (hsound c before).idle idle
          rw [finish_task, ended.elim id fun h => h.trans hnone] at htask
          cases htask
      | pinned => cases htask
      | merging buffer presents written authorized =>
          cases htask
          exact .inr ⟨_, _, _, _, _, _, label, before, presents, authorized, rfl⟩
      | refused buffer presents =>
          cases progress_task htask
  | expired label before waiting after records =>
      rw [after, (expire_phase b waiting).2] at htask
      exact .inl ⟨_, task, before, htask, rfl, rfl, .inr records⟩
  | closed before after records =>
      rw [after] at htask
      exact .inl ⟨_, task, before, htask, rfl, rfl, .inr records⟩
  | pinned before pin kind after =>
      rw [after] at htask
      obtain ⟨next, hnext⟩ := kind _ (progress_task htask)
      cases hnext
  | @resumed c old _ _ _ phase progress label before merge resumed after =>
      rw [after] at htask
      rw [progress_task htask] at resumed
      obtain ⟨stage, hnext, hrecords⟩ := resumed.same
      cases hnext
      exact .inl ⟨c, old, before, merge, rfl, rfl, .inr hrecords⟩

/-- The connections and the ledger together. -/
structure BrokerState.Sound (s : BrokerState) : Prop where
  connections : ∀ (i : Nat) (c : Connection), s.connections[i]? = some c → c.Sound
  burned : ∀ (i : Nat) (c : Connection) (jti : JsString), s.connections[i]? = some c → c.phase.jti = some jti →
    s.records.has jti = true
  single : ∀ (i j : Nat) (c c' : Connection) (jti : JsString), s.connections[i]? = some c →
    s.connections[j]? = some c' → c.phase.jti = some jti → c'.phase.jti = some jti → i = j
  /-- the record of a merge under way is the one its burn wrote -/
  pending : ∀ (i : Nat) (c : Connection) (task : MergeTask), s.connections[i]? = some c →
    c.task = some (.merge task) → ∃ burnedAt,
      s.records.get? task.grant.jti = some (freshRecord task.grant.jti task.grant.expiresAt burnedAt)

/-- A step leaves the broker sound. -/
theorem BrokerState.Sound.next (hs : s.Sound) (h : (brokerRuns b).next s op t) : t.Sound := by
  constructor
  · exact fun i c' hget => Connection.Sound.move (hs.connections i) (next_move h hget)
  · intro i c' jti hget hjti
    rcases (next_move h hget).jti hjti with ⟨c, hc, hheld⟩ | ⟨-, hhas, -⟩
    · exact next_has h (hs.burned i c jti hc hheld)
    · exact hhas
  · intro i j c c' jti hget hget' hjti hjti'
    rcases (next_move h hget).jti hjti with ⟨old, hold, hheld⟩ | ⟨hfresh, -, _, _, _, _, hop⟩
    · rcases (next_move h hget').jti hjti' with ⟨old', hold', hheld'⟩ | ⟨hfresh', -⟩
      · exact hs.single i j old old' jti hold hold' hheld hheld'
      · rw [hs.burned i old jti hold hheld] at hfresh'
        cases hfresh'
    · rcases (next_move h hget').jti hjti' with ⟨old', hold', hheld'⟩ | ⟨-, -, _, _, _, _, hop'⟩
      · rw [hs.burned j old' jti hold' hheld'] at hfresh
        cases hfresh
      · rw [hop] at hop'
        cases hop'
        rfl
  · intro i c' task hget htask
    rcases (next_move h hget).task (hs.connections i) htask with
      ⟨c, old, hc, hold, hgrant, -, hkept⟩ | ⟨c, _, now, _, _, _, -, -, -, -, hrecords⟩
    · obtain ⟨burnedAt, hrecord⟩ := hs.pending i c old hc hold
      rw [hgrant] at hrecord
      refine ⟨burnedAt, ?_⟩
      rcases hkept with hother | hrecords
      · have hhas : s.records.has task.grant.jti = true := JsMap.has_iff.mpr ⟨_, hrecord⟩
        rcases next_records h hhas with hsame | ⟨j, d, task', settled, _, _, rfl, hd, htask', hjti⟩
        · exact hsame.trans hrecord
        · obtain ⟨hphase, -⟩ := (hs.connections i c hc).merge old hold
          obtain ⟨hphase', -⟩ := (hs.connections j d hd).merge task' htask'
          rw [hgrant] at hphase
          rw [hjti] at hphase'
          obtain rfl := hs.single i j c d _ hc hd hphase hphase'
          exact absurd rfl (hother _ _ _)
      · rw [hrecords, hrecord]
    · exact ⟨now, by rw [hrecords, JsMap.get?_set_self]⟩

/-- The broker is sound in every run. -/
theorem sound_invariant : (brokerRuns b).Invariant BrokerState.Sound := by
  constructor
  · intro s hinit
    have hnone : ∀ (i : Nat) (c : Connection), s.connections[i]? ≠ some c := by
      intro i c hget
      rw [show s.connections = [] from hinit] at hget
      cases hget
    exact ⟨fun i c hc => absurd hc (hnone i c), fun i c _ hc => absurd hc (hnone i c),
      fun i _ c _ _ hc => absurd hc (hnone i c), fun i c _ hc => absurd hc (hnone i c)⟩
  · exact fun _ _ _ hs h => hs.next h

/-! ### What is said stays said -/

/-- What no step takes back from a connection. -/
structure Connection.Keeps (c c' : Connection) : Prop where
  jti : ∀ jti, c.phase.jti = some jti → c'.phase.jti = some jti
  dispatched : c.phase.dispatched = true → c'.phase.dispatched = true
  answer : ∀ answer, c.answer = some answer → c'.answer = some answer

/-- An answer keeps what was burned and dispatched. -/
theorem finish_keeps (hc : c.Sound) (buffer : JsString) (started : Bool) (task : Option BrokerTask)
    (response : WireResponse) : c.Keeps (b.finish { c with buffer, started, task } response) := by
  constructor
  · intro jti hjti
    rw [finish_phase, hjti]
  · intro hdispatched
    rw [finish_phase, hdispatched]
  · intro answer h
    rcases finish_cases b { c with buffer, started, task } response with ⟨-, hfinish⟩ | ⟨hwaiting, -⟩
    · rw [hfinish, h]
    · rw [hc.waiting hwaiting] at h
      cases h

theorem progress_keeps (hc : c.Sound) {phase : RequestPhase} (hjti : phase.jti = c.phase.jti)
    (hdispatched : c.phase.dispatched = true → phase.dispatched = true) (progress : Progress) :
    c.Keeps (b.progress { c with phase } progress) := by
  constructor
  · intro jti h
    rw [progress_phase, ← h]
    exact hjti
  · intro h
    rw [progress_phase]
    exact hdispatched h
  · intro answer h
    have hfinish : ∀ response, (b.finish { c with phase, task := none } response).answer = some answer := by
      intro response
      have hkeeps : c.Keeps (b.finish { c with task := none } response) :=
        finish_keeps hc c.buffer c.started none response
      rw [← hkeeps.answer answer h]
      unfold finish
      dsimp only
      split_ifs <;> rfl
    cases progress with
    | suspended next => exact h
    | answered response => exact hfinish response
    | thrown error => exact hfinish _

/-- A connection without a request has nothing to keep but an answer. -/
theorem idle_keeps (hc : c.Sound) (hidle : c.started = false)
    (hanswer : ∀ answer, c.answer = some answer → c'.answer = some answer) : c.Keeps c' := by
  obtain ⟨-, hjti, hdispatched⟩ := hc.idle hidle
  constructor
  · intro jti h
    rw [hjti] at h
    cases h
  · intro h
    rw [hdispatched] at h
    cases h
  · exact hanswer

/-- What is received keeps what was burned and dispatched. -/
theorem received_keeps {records records' : JsMap JsString Json} {chunk : Bytes} {now : Int} {burn write : LedgerWrite}
    (h : Received b records c chunk now burn write (records', c')) (hc : c.Sound) : c.Keeps c' := by
  have hunanswered : c.done = false → ∀ answer, c.answer ≠ some answer := by
    intro hwaiting answer h
    rw [hc.waiting hwaiting] at h
    cases h
  cases h with
  | kept => exact ⟨fun _ h => h, id, fun _ h => h⟩
  | answered => exact finish_keeps hc _ _ _ _
  | pinned _ _ waiting idle =>
      exact idle_keeps hc idle fun answer h => absurd h (hunanswered waiting answer)
  | merging _ presents =>
      obtain ⟨hwaiting, hidle⟩ := presents.unstarted
      exact idle_keeps hc hidle fun answer h => absurd h (hunanswered hwaiting answer)
  | refused _ presents =>
      obtain ⟨hwaiting, hidle⟩ := presents.unstarted
      exact idle_keeps hc hidle fun answer h => absurd h (hunanswered hwaiting answer)

/-- So does every step. -/
theorem next_keeps (hs : s.Sound) (h : (brokerRuns b).next s op t) (hc : s.connections[i]? = some c) :
    ∃ c', t.connections[i]? = some c' ∧ c.Keeps c' := by
  have hsound := hs.connections i c hc
  obtain ⟨c', hget⟩ := next_get? h hc
  refine ⟨c', hget, ?_⟩
  have hsame : ∀ {d}, s.connections[i]? = some d → d = c := by
    intro d hd
    rw [hc] at hd
    exact (Option.some.inj hd).symm
  cases next_move h hget with
  | fresh absent =>
      rw [hc] at absent
      cases absent
  | kept before =>
      obtain rfl := hsame before
      exact ⟨fun _ h => h, id, fun _ h => h⟩
  | received label before received =>
      obtain rfl := hsame before
      exact received_keeps received hsound
  | expired label before waiting after =>
      obtain rfl := hsame before
      obtain ⟨answer, hexpire, -⟩ := expire_eq b waiting
      rw [after, hexpire]
      constructor
      · exact fun _ h => h
      · exact id
      · intro answer h
        rw [hsound.waiting waiting] at h
        cases h
  | closed before after =>
      obtain rfl := hsame before
      rw [after]
      exact ⟨fun _ h => h, id, fun _ h => h⟩
  | pinned before pin kind after =>
      obtain rfl := hsame before
      rw [after]
      exact progress_keeps hsound rfl id _
  | resumed label before merge resumed after =>
      obtain rfl := hsame before
      rw [after]
      exact progress_keeps hsound resumed.keepsPhase.1 resumed.keepsPhase.2 _

/-- So it stays over a run. -/
theorem path_keeps {es : List BrokerEdge} (h : (brokerRuns b).Path s es t) (hs : s.Sound)
    (hc : s.connections[i]? = some c) : ∃ c', t.connections[i]? = some c' ∧ c.Keeps c' := by
  have hkept := h.stable (P := fun u => u.Sound ∧ ∃ c', u.connections[i]? = some c' ∧ c.Keeps c')
    (fun u op u' hu hnext => ?_) ⟨hs, c, hc, fun _ h => h, id, fun _ h => h⟩
  · exact hkept.2
  · obtain ⟨husound, c', hc', hkeeps⟩ := hu
    obtain ⟨c'', hc'', hkeeps'⟩ := next_keeps husound hnext hc'
    exact ⟨husound.next hnext, c'', hc'', fun jti h => hkeeps'.jti jti (hkeeps.jti jti h),
      fun h => hkeeps'.dispatched (hkeeps.dispatched h), fun a h => hkeeps'.answer a (hkeeps.answer a h)⟩

end Sound

/-! ### One merge request, honestly reported -/

namespace BrokerEdge

/-- The step sends the merge request of a connection. -/
def Sends (e : BrokerEdge) (i : Nat) (task : MergeTask) (put : MergePut) : Prop :=
  ∃ c c' prUrl before token, e.src.connections[i]? = some c ∧ c.task = some (.merge task) ∧
    task.stage = .committing prUrl before token ∧ e.dst.connections[i]? = some c' ∧
    c'.task = some (.merge { task with stage := .putting prUrl token }) ∧
      put = GitHubMergeClient.mergePut task.args prUrl token

/-- The step is GitHub's answer to the merge request of a connection, and the answer is a documented rejection. -/
def Rejects (e : BrokerEdge) (i : Nat) (jti : JsString) : Prop :=
  ∃ c task prUrl token status limited text now write, e.src.connections[i]? = some c ∧ c.task = some (.merge task) ∧
    task.stage = .putting prUrl token ∧ task.grant.jti = jti ∧
    e.label = .settled i (.http (.response status limited text)) now write ∧ status ∈ documentedRejectionStatuses

/-- The step leaves the connection that burned a jti with an answer that says nothing was done. -/
def ReportsUndone (e : BrokerEdge) (i : Nat) (jti : JsString) : Prop :=
  ∃ c error, e.dst.connections[i]? = some c ∧ c.phase.jti = some jti ∧
    (c.answer = some (.refused error) ∨ c.answer = some (.connector .notPerformed error))

end BrokerEdge

/-- At most one merge request for a jti, and none that the connection which burned it reports as not done. -/
structure NeverReportsUndone (es : List BrokerEdge) : Prop where
  once : ∀ e f i j task task' put put', Lts.Precedes es e f → BrokerEdge.Sends e i task put →
    BrokerEdge.Sends f j task' put' → task'.grant.jti ≠ task.grant.jti
  honest : ∀ e ∈ es, ∀ i jti, e.ReportsUndone i jti →
    (∀ f ∈ es, ∀ j task put, f.Sends j task put → task.grant.jti ≠ jti) ∨ ∃ f ∈ es, f.Rejects i jti

section Runs

variable {b : MergeBroker} {s t : BrokerState} {op : BrokerStep} {i j : Nat} {c c' : Connection} {es : List BrokerEdge}
  {e f : BrokerEdge} {task : MergeTask} {put : MergePut} {jti : JsString}

/-- A connection that sends its merge request holds the jti, and is dispatched from then on. -/
theorem BrokerEdge.Sends.dispatches (h : e.Sends i task put) (hdst : e.dst.Sound) :
    ∃ c, e.dst.connections[i]? = some c ∧ c.phase.jti = some task.grant.jti ∧ c.phase.dispatched = true := by
  obtain ⟨-, c', prUrl, -, token, -, -, -, hget, htask, -⟩ := h
  obtain ⟨hjti, hstage⟩ := (hdst.connections i c' hget).merge _ htask
  exact ⟨c', hget, hjti, hstage.symm⟩

/-- Until then it is not. -/
theorem BrokerEdge.Sends.undispatched (h : e.Sends i task put) (hsrc : e.src.Sound) :
    ∃ c, e.src.connections[i]? = some c ∧ c.phase.jti = some task.grant.jti ∧ c.task = some (.merge task) ∧
      c.phase.dispatched = false := by
  obtain ⟨c, -, prUrl, before, token, hget, htask, hcommitting, -⟩ := h
  obtain ⟨hjti, hstage⟩ := (hsrc.connections i c hget).merge _ htask
  rw [hcommitting] at hstage
  exact ⟨c, hget, hjti, htask, hstage.symm⟩

/-- A chunk leaves a request undispatched. -/
theorem received_undispatched {records records' : JsMap JsString Json} {chunk : Bytes} {now : Int}
    {burn write : LedgerWrite} (h : Received b records c chunk now burn write (records', c')) (hc : c.Sound) :
    (c'.phase = c.phase ∧ c'.answer = c.answer) ∨ c'.phase.dispatched = false := by
  cases h with
  | kept => exact .inl ⟨rfl, rfl⟩
  | answered idle =>
      rw [finish_phase]
      exact .inr (hc.idle idle).2.2
  | pinned => exact .inl ⟨rfl, rfl⟩
  | merging _ presents => exact .inr (hc.idle presents.unstarted.2).2.2
  | refused _ presents =>
      rw [progress_phase]
      exact .inr (hc.idle presents.unstarted.2).2.2

/-- A connection that was not answered yet has the answer it is given. -/
theorem finish_answer {response answer : WireResponse} (h : (b.finish c response).answer = some answer)
    (hanswer : c.answer ≠ some answer) : b.safeResponse response = answer := by
  rcases finish_cases b c response with ⟨-, hfinish⟩ | ⟨-, hfinish⟩
  · rw [hfinish] at h
    exact absurd h hanswer
  · rw [hfinish] at h
    exact Option.some.inj h

/-- A merge that ends as not performed was not dispatched, or GitHub's answer was a rejection. -/
theorem resumed_undone {settled : AwaitResult} {now : Int} {write : LedgerWrite}
    {records records' : JsMap JsString Json}
    {phase : RequestPhase} {progress : Progress} (hc : c.Sound) (htask : c.task = some (.merge task))
    (h : Resumed b records c.phase task settled now write (records', phase, progress)) {error : JsString}
    (hanswer : (b.progress { c with phase } progress).answer = some (.connector .notPerformed error)) :
    phase.dispatched = false ∨ ∃ prUrl token status limited text, task.stage = .putting prUrl token ∧
      settled = .http (.response status limited text) ∧ status ∈ documentedRejectionStatuses := by
  have hunreported := hc.unreported htask error
  obtain ⟨-, hstage⟩ := hc.merge task htask
  cases h with
  | minting => exact absurd hanswer hunreported
  | readingBase => exact absurd hanswer hunreported
  | committing => exact absurd hanswer hunreported
  | putting => exact absurd hanswer hunreported
  | verifying => exact absurd hanswer hunreported
  | refused message stage =>
      rw [stage] at hstage
      exact .inl hstage.symm
  | failed stage => exact .inl (hstage.symm.trans stage)
  | rejected stage answered verdict =>
      obtain ⟨-, status, limited, text, rfl, hdocumented⟩ := GitHubMergeClient.putAnswered_rejected verdict
      exact .inr ⟨_, _, status, limited, text, stage, answered, hdocumented⟩
  | merged => cases finish_answer hanswer hunreported
  | unknown stage outcome =>
      have hresponse := finish_answer hanswer hunreported
      rw [outcome] at hresponse
      cases hresponse

/-- A connection answered with a failure of the connector had sent nothing, or GitHub rejected its request. -/
theorem undispatched_or_rejected (h : (brokerRuns b).Exec es s) {error : JsString} :
    ∀ c : Connection, s.connections[i]? = some c → c.phase.jti = some jti →
      c.answer = some (.connector .notPerformed error) → c.phase.dispatched = false ∨ ∃ f ∈ es, f.Rejects i jti := by
  refine h.induct
    (I := fun (es : List BrokerEdge) s => ∀ c : Connection, s.connections[i]? = some c → c.phase.jti = some jti →
    c.answer = some (.connector .notPerformed error) → c.phase.dispatched = false ∨ ∃ f ∈ es, f.Rejects i jti)
    (fun s hinit c hget => ?_) fun es s op t hexec ih hnext c' hget hjti hanswer => ?_
  · rw [show s.connections = [] from hinit] at hget
    cases hget
  · have hsound := (hexec.invariant sound_invariant).connections i
    have hbefore : ∀ {c : Connection}, s.connections[i]? = some c → c.phase.jti = some jti →
        c.answer = some (.connector .notPerformed error) →
        c.phase.dispatched = false ∨ ∃ f ∈ es ++ [⟨s, op, t⟩], BrokerEdge.Rejects f i jti := by
      intro c hc hcjti hcanswer
      rcases ih c hc hcjti hcanswer with hundispatched | ⟨f, hf, hrejects⟩
      · exact .inl hundispatched
      · exact .inr ⟨f, List.mem_append_left _ hf, hrejects⟩
    cases next_move hnext hget with
    | fresh absent new =>
        rw [new] at hjti
        cases hjti
    | kept before => exact hbefore before hjti hanswer
    | received label before received =>
        rcases received_undispatched received (hsound _ before) with ⟨hphase, hsame⟩ | hundispatched
        · rw [hphase] at hjti ⊢
          rw [hsame] at hanswer
          exact hbefore before hjti hanswer
        · exact .inl hundispatched
    | expired label before waiting after =>
        obtain ⟨answer, hexpire, -, hundone⟩ := expire_eq b waiting
        rw [after, hexpire] at hanswer
        exact absurd (Option.some.inj hanswer) (hundone error)
    | closed before after =>
        rw [after] at hjti hanswer ⊢
        have hstands := hbefore before hjti hanswer
        exact hstands
    | pinned before pin kind after =>
        rw [after, progress_phase]
        exact .inl ((hsound _ before).pin _ pin).2
    | resumed label before merge resumed after =>
        rw [after] at hanswer hjti ⊢
        rw [progress_phase] at hjti ⊢
        rcases resumed_undone (hsound _ before) merge resumed hanswer with
          hundispatched | ⟨prUrl, token, status, limited, text, hstage, rfl, hdocumented⟩
        · exact .inl hundispatched
        · have hheld := resumed.keepsPhase.1.symm.trans hjti
          rw [((hsound _ before).merge _ merge).1] at hheld
          exact .inr ⟨⟨s, op, t⟩, by simp, _, _, prUrl, token, status, limited, text, _, _, before, merge, hstage,
            Option.some.inj hheld, label, hdocumented⟩

/-- A connection keeps what it has between two steps of a run. -/
theorem keeps_between (h : (brokerRuns b).Exec es s) (hef : Lts.Precedes es e f)
    (hget : e.dst.connections[i]? = some c) : ∃ c', f.src.connections[i]? = some c' ∧ c.Keeps c' := by
  obtain ⟨pre, mid, post, rfl⟩ := hef
  obtain ⟨hpre, hnext, hpath⟩ := h.split
  exact path_keeps hpath.split.1 ((hpre.invariant sound_invariant).next hnext) hget

/-- Every step of a run is between sound states. -/
theorem sound_of_mem (h : (brokerRuns b).Exec es s) (he : e ∈ es) : e.src.Sound ∧ e.dst.Sound := by
  obtain ⟨pre, post, rfl⟩ := List.append_of_mem he
  obtain ⟨hpre, hnext, -⟩ := h.split
  have hsrc := hpre.invariant sound_invariant
  exact ⟨hsrc, hsrc.next hnext⟩

/-- A jti sees one merge request at most. -/
theorem sends_once (h : (brokerRuns b).Exec es s) {task' : MergeTask} {put' : MergePut} (hef : Lts.Precedes es e f)
    (he : e.Sends i task put) (hf : f.Sends j task' put') : task'.grant.jti ≠ task.grant.jti := by
  intro hsame
  obtain ⟨c, hc, hjti, hdispatched⟩ := he.dispatches (sound_of_mem h hef.mem.1).2
  obtain ⟨c₁, hc₁, hkeeps⟩ := keeps_between h hef hc
  obtain ⟨d, hd, hdjti, -, hundispatched⟩ := hf.undispatched (sound_of_mem h hef.mem.2).1
  rw [hsame] at hdjti
  obtain rfl := (sound_of_mem h hef.mem.2).1.single i j c₁ d _ hc₁ hd (hkeeps.jti _ hjti) hdjti
  rw [hc₁] at hd
  obtain rfl := Option.some.inj hd
  rw [hkeeps.dispatched hdispatched] at hundispatched
  cases hundispatched

/-- A connection that was told nothing was done sends nothing afterwards. -/
theorem silent_after (h : (brokerRuns b).Exec es s) (hef : Lts.Precedes es e f) (he : e.ReportsUndone i jti)
    (hf : f.Sends j task put) : task.grant.jti ≠ jti := by
  rintro rfl
  obtain ⟨c, error, hget, hjti, hanswer⟩ := he
  obtain ⟨c₁, hc₁, hkeeps⟩ := keeps_between h hef hget
  obtain ⟨hsrc, hdst⟩ := sound_of_mem h hef.mem.2
  obtain ⟨d, hd, hdjti, hdtask, -⟩ := hf.undispatched hsrc
  obtain rfl := hsrc.single i j c₁ d _ hc₁ hd (hkeeps.jti _ hjti) hdjti
  rw [hc₁] at hd
  obtain rfl := Option.some.inj hd
  rcases hanswer with hrefused | hundone
  · -- the answer stands after the request was sent, where a refusal cannot
    obtain ⟨c', hc', -, hdispatched⟩ := hf.dispatches hdst
    obtain ⟨c₂, hc₂, hkeeps'⟩ := next_keeps hsrc (h.next_of_mem hef.mem.2) hc₁
    rw [hc'] at hc₂
    obtain rfl := Option.some.inj hc₂
    have hstands := hkeeps'.answer _ (hkeeps.answer _ hrefused)
    rw [((hdst.connections i c' hc').refused error hstands).1] at hdispatched
    cases hdispatched
  · rw [(hsrc.connections i c₁ hc₁).undone error (hkeeps.answer _ hundone)] at hdtask
    cases hdtask

/-- Nor had it sent anything, unless GitHub rejected what it sent. -/
theorem silent_before (h : (brokerRuns b).Exec es s) (he : e ∈ es) (hreports : e.ReportsUndone i jti) :
    (∃ c, e.dst.connections[i]? = some c ∧ c.phase.jti = some jti ∧ c.phase.dispatched = false) ∨
      ∃ f ∈ es, f.Rejects i jti := by
  obtain ⟨c, error, hget, hjti, hanswer⟩ := hreports
  rcases hanswer with hrefused | hundone
  · exact .inl ⟨c, hget, hjti, (((sound_of_mem h he).2.connections i c hget).refused error hrefused).1⟩
  · obtain ⟨pre, post, rfl⟩ := List.append_of_mem he
    obtain ⟨hpre, hnext, -⟩ := h.split
    rcases undispatched_or_rejected (hpre.snoc hnext) c hget hjti hundone with hundispatched | ⟨f, hf, hrejects⟩
    · exact .inl ⟨c, hget, hjti, hundispatched⟩
    · refine .inr ⟨f, ?_, hrejects⟩
      rcases List.mem_append.mp hf with hf | hf
      · exact List.mem_append_left _ hf
      · rw [List.mem_singleton.mp hf]
        exact he

/-- A merge request is reported as it was sent: a jti sees one at most, and none that its connection calls undone. -/
theorem never_reports_undone (h : (brokerRuns b).Exec es s) : NeverReportsUndone es := by
  constructor
  · exact fun e f i j task task' put put' hef he hf => sends_once h hef he hf
  · intro e he i jti hreports
    rcases silent_before h he hreports with ⟨c, hget, hjti, hundispatched⟩ | hrejected
    · refine .inl fun f hf j task put hsends => ?_
      rcases Lts.precedes_or he hf with hef | rfl | hfe
      · exact silent_after h hef hreports hsends
      · rintro rfl
        obtain ⟨d, hd, hdjti, hdispatched⟩ := hsends.dispatches (sound_of_mem h he).2
        obtain rfl := (sound_of_mem h he).2.single i j c d _ hget hd hjti hdjti
        rw [hget] at hd
        obtain rfl := Option.some.inj hd
        rw [hundispatched] at hdispatched
        cases hdispatched
      · rintro rfl
        obtain ⟨d, hd, hdjti, hdispatched⟩ := hsends.dispatches (sound_of_mem h hf).2
        obtain ⟨d₁, hd₁, hkeeps⟩ := keeps_between h hfe hd
        obtain ⟨d₂, hd₂, hkeeps'⟩ := next_keeps (sound_of_mem h he).1 (h.next_of_mem he) hd₁
        obtain rfl := (sound_of_mem h he).2.single i j c d₂ _ hget hd₂ hjti (hkeeps'.jti _ (hkeeps.jti _ hdjti))
        rw [hget] at hd₂
        obtain rfl := Option.some.inj hd₂
        rw [hkeeps'.dispatched (hkeeps.dispatched hdispatched)] at hundispatched
        cases hundispatched
    · exact .inr hrejected

end Runs

/-! ### A request that is refused at once -/

section Presented

variable (b : MergeBroker) (chunk : Bytes) (now : Int)

/-- One connection sends one chunk. -/
def presented : BrokerState :=
  BrokerState.move ⟨.empty, [.fresh]⟩ 0 (b.receive .empty .fresh chunk now .written .written)

def presentedEdge : BrokerEdge :=
  ⟨⟨.empty, [.fresh]⟩, .data 0 chunk now .written .written, presented b chunk now⟩

def presentedRun : List BrokerEdge :=
  [⟨⟨.empty, []⟩, .accept, ⟨.empty, [.fresh]⟩⟩, presentedEdge b chunk now]

theorem presentedEdge_mem : presentedEdge b chunk now ∈ presentedRun b chunk now :=
  List.mem_cons_of_mem _ (List.mem_singleton_self _)

/-- The presentation of a grant is a run. -/
theorem presentedRun_exec : (brokerRuns b).Exec (presentedRun b chunk now) (presented b chunk now) := by
  have haccept : (brokerRuns b).next ⟨.empty, []⟩ .accept ⟨.empty, [.fresh]⟩ := rfl
  have hdata : (brokerRuns b).next ⟨.empty, [.fresh]⟩ (.data 0 chunk now .written .written) (presented b chunk now) :=
    ⟨.fresh, rfl, rfl⟩
  exact ⟨⟨.empty, []⟩, rfl, (Lts.Path.single haccept).append (.single hdata)⟩

variable {b chunk now} {grant : PresentedGrant} {rawArgs : Option Json} {e : BrokerError}

/-- A grant that authorizes nothing is burned, and its request is refused. -/
theorem presented_refused (h : b.Presents .empty .fresh chunk now grant rawArgs)
    (hunauthorized : b.authorize grant rawArgs = .error e) :
    (presented b chunk now).records =
        (throwBurned (JsMap.empty.set grant.jti (freshRecord grant.jti grant.expiresAt now)) grant e .written now).1 ∧
      ∃ c error, (presented b chunk now).connections[0]? = some c ∧ c.phase.jti = some grant.jti ∧ c.task = none ∧
        c.answer = some (.refused error) := by
  obtain ⟨buffer, hreceive⟩ := @receive_presents b .empty grant rawArgs .fresh chunk now .written h
  rw [hunauthorized] at hreceive
  unfold presented
  rw [hreceive]
  refine ⟨rfl, b.progress (burnedBy .fresh buffer grant) (.thrown e), ?_⟩
  cases e with
  | refusal message => exact ⟨_, rfl, rfl, rfl, rfl⟩
  | other message => exact ⟨_, rfl, rfl, rfl, rfl⟩

end Presented

/-- A merge into one repository, as it is signed. -/
def sampleArgs (repo : JsString) : JsString :=
  Json.stringify <| .obj
    [(js "expectedBaseRef", .str (js "main")), (js "expectedHeadSha", .str (List.replicate 40 0x30)),
      (js "owner", .str (js "o")), (js "pullNumber", .num (.ofInt 7)), (js "repo", .str repo)]

def sampleGrant (repo : JsString) : PresentedGrant where
  jti := js "j"
  agentId := js "a"
  tool := js "merge"
  connector := githubConnector
  operation := mergePullRequest
  policyVersion := js "1"
  canonicalArgs := sampleArgs repo
  callHash := []
  killEpoch := 0
  expiresAt := .ofInt 1000

/-- The request that presents the sample grant, without arguments of its own. -/
def sampleRequest (repo : JsString) : Json :=
  .obj [(js "op", .str (js "merge")), (js "grant", .obj ((sampleGrant repo).fields ++ [(js "sig", .str (js "6b"))]))]

def sampleChunk (repo : JsString) : Bytes :=
  Utf8.encode (Json.stringify (sampleRequest repo) ++ [0x0A])

/-- A broker for one repository, whose signatures are its key. -/
def sampleBroker : MergeBroker where
  net := ⟨fun _ => false, fun _ => true⟩
  crypto := ⟨fun _ => [], fun key _ => key⟩
  grantKey := js "k"
  allowedRepos := some [js "r"]
  requestTimeoutMs := 30000
  client := ⟨js "https://api.github.com", id⟩
  syntaxError := id
  overflows := fun _ => false

theorem sampleRequest_normal (repo : JsString) : Json.Normal (sampleRequest repo) := by
  have hkeys : ((sampleGrant repo).fields ++ [(js "sig", Json.str (js "6b"))]).map Prod.fst =
      [js "v", js "jti", js "agentId", js "tool", js "connector", js "operation", js "policyVersion",
        js "canonicalArgs", js "callHash", js "killEpoch", js "expiresAt", js "sig"] := rfl
  have hgrant : Json.Normal (.obj ((sampleGrant repo).fields ++ [(js "sig", .str (js "6b"))])) := by
    apply Json.Normal.obj (Json.ofEntries_eq_self (by rw [hkeys]; decide) (by rw [hkeys]; decide))
    simp [PresentedGrant.fields, Json.Normal.str, Json.Normal.num]
  have hrequest : ([(js "op", Json.str (js "merge")),
      (js "grant", Json.obj ((sampleGrant repo).fields ++ [(js "sig", .str (js "6b"))]))]).map Prod.fst =
        [js "op", js "grant"] := rfl
  apply Json.Normal.obj (Json.ofEntries_eq_self (by rw [hrequest]; decide) (by rw [hrequest]; decide))
  intro field hfield
  rcases List.mem_pair.mp hfield with rfl | rfl
  · exact .str
  · exact hgrant

/-- The sample request presents its grant. -/
theorem sample_presents {repo : JsString}
    (hline : Connection.fresh.line? (sampleChunk repo) = some (Json.stringify (sampleRequest repo))) :
    sampleBroker.Presents .empty .fresh (sampleChunk repo) 0 (sampleGrant repo) none := by
  constructor
  · refine ⟨sampleRequest repo, ?_, rfl, ?_, rfl⟩
    · rw [hline, Option.bind_some, Json.parse_stringify (sampleRequest_normal repo)]
    · rfl
  · exact ⟨rfl, rfl⟩
  · rfl

/-- What is signed for a repository that is not allowed authorizes nothing. -/
theorem authorize_denied {b : MergeBroker} {grant : PresentedGrant} {e : BrokerError} (repo : JsString)
    (hparse : (b.net.parseMergePrArgs grant.canonicalArgs).map MergePrArgs.repo = some repo)
    (hdenied : b.assertRepoAllowed repo = .error e) : b.authorize grant none = .error e := by
  obtain ⟨args, hargs, rfl⟩ := Option.map_eq_some_iff.mp hparse
  unfold authorize
  rw [Option.any_none, Option.any_none, if_neg Bool.false_ne_true, if_neg Bool.false_ne_true, hargs]
  dsimp only
  rw [hdenied]

/-- A grant for another repository than the broker's is refused, and its connection says so. -/
theorem never_reports_undone_sample :
    NeverReportsUndone (presentedRun sampleBroker (sampleChunk (js "b")) 0) ∧
      ∃ e ∈ presentedRun sampleBroker (sampleChunk (js "b")) 0, e.ReportsUndone 0 (js "j") := by
  have hdenied : sampleBroker.authorize (sampleGrant (js "b")) none = .error (.refusal _) :=
    authorize_denied (js "b") (by decide +kernel) rfl
  obtain ⟨-, c, error, hc, hjti, -, hrefused⟩ := presented_refused (sample_presents (by decide +kernel)) hdenied
  constructor
  · exact never_reports_undone (presentedRun_exec sampleBroker (sampleChunk (js "b")) 0)
  · exact ⟨_, presentedEdge_mem sampleBroker (sampleChunk (js "b")) 0, c, error, hc, hjti, .inl hrefused⟩

end OwnerSwitch
