/-
Module: OwnerSwitch.Executor.MergeBrokerSteps
Layer: Executor
Purpose: What one step of the broker does: to the ledger, to the connection it moves and to the others. A chunk burns at
  most one grant (`Received`), and a suspended merge goes on, ends, or sends its request (`Resumed`).
Imports: Executor.MergeBroker
Trusted boundary: that of Executor.MergeBroker
Main exports: BrokerEdge, Received, receive_received, Resumed, resumeMerge_resumed
Open obligations: none
-/
import OwnerSwitch.Executor.MergeBroker

namespace OwnerSwitch

abbrev BrokerEdge := Lts.Edge BrokerState BrokerStep

/-! ### The ledger -/

section Ledger

variable {records : JsMap JsString Json} {jti : JsString} {now : Int} {write : LedgerWrite}

/-- A patch sets the state. -/
theorem get_state_patched (fields : List (JsString × Json)) (patch : BurnPatch) :
    ((Json.obj fields).assign patch.fields).get (js "state") = some (.str patch.state.text) := by
  have hmem : (js "state", Json.str patch.state.text) ∈ patch.fields :=
    List.mem_filterMap.mpr ⟨(js "state", some (.str patch.state.text)), by simp, rfl⟩
  obtain ⟨v, hget, hv⟩ := @Json.get_assign_of_mem fields _ _ (List.mem_map_of_mem hmem)
  obtain ⟨⟨k, x⟩, hx, hpair⟩ := List.mem_filterMap.mp hv
  obtain ⟨w, hw, heq⟩ := Option.map_eq_some_iff.mp hpair
  obtain ⟨rfl, rfl⟩ := Prod.mk.inj heq
  simp [js, utf16] at hx
  subst hx
  rw [hget, ← Option.some.inj hw]

/-- A patch sets the outcome, if it has one. -/
theorem get_outcome_patched (fields : List (JsString × Json)) {patch : BurnPatch} {outcome : JsString}
    (h : patch.outcome = some outcome) :
    ((Json.obj fields).assign patch.fields).get (js "outcome") = some (.str outcome) := by
  have hmem : (js "outcome", Json.str outcome) ∈ patch.fields :=
    List.mem_filterMap.mpr ⟨(js "outcome", some (.str outcome)), by simp [h], rfl⟩
  obtain ⟨v, hget, hv⟩ := @Json.get_assign_of_mem fields _ _ (List.mem_map_of_mem hmem)
  obtain ⟨⟨k, x⟩, hx, hpair⟩ := List.mem_filterMap.mp hv
  obtain ⟨w, hw, heq⟩ := Option.map_eq_some_iff.mp hpair
  obtain ⟨rfl, rfl⟩ := Prod.mk.inj heq
  simp [js, utf16] at hx
  rw [hx, h] at hw
  rw [hget, ← Option.some.inj hw]

/-- The record of a jti is in this state, with this outcome if there is one. -/
def Says (records : JsMap JsString Json) (jti : JsString) (state : BurnState) (outcome : Option JsString) : Prop :=
  ∃ fields, records.get? jti = some (.obj fields) ∧ (Json.obj fields).get (js "state") = some (.str state.text) ∧
    ∀ text, outcome = some text → (Json.obj fields).get (js "outcome") = some (.str text)

theorem says_recordOutcome {expiresAt : Decimal} {burnedAt : Int} (patch : BurnPatch)
    (h : records.get? jti = some (freshRecord jti expiresAt burnedAt)) :
    Says (recordOutcome records jti patch .written now) jti patch.state patch.outcome := by
  obtain ⟨fields, hobject⟩ : ∃ fields, freshRecord jti expiresAt burnedAt = .obj fields := ⟨_, rfl⟩
  have hbase : patchBase records jti now = .obj fields := by
    unfold patchBase
    rw [h, ← hobject]
    rfl
  have hget :
    (recordOutcome records jti patch .written now).get? jti = some ((Json.obj fields).assign patch.fields) := by
    rw [recordOutcome, hbase, JsMap.get?_set_self]
  exact ⟨_, hget, get_state_patched fields patch, fun text => get_outcome_patched fields⟩

/-- A record that is written is the one of its own jti. -/
theorem recordOutcome_get?_ne {jti' : JsString} (h : jti' ≠ jti) (patch : BurnPatch) :
    (recordOutcome records jti patch write now).get? jti' = records.get? jti' := by
  unfold recordOutcome
  split
  · exact JsMap.get?_set_ne _ _ h
  · rfl
  · exact JsMap.get?_set_ne _ _ h

theorem recordOutcome_has (patch : BurnPatch) {jti' : JsString} (h : records.has jti' = true) :
    (recordOutcome records jti patch write now).has jti' = true := by
  unfold recordOutcome
  split
  · rw [JsMap.has_set, h, Bool.or_true]
  · exact h
  · rw [JsMap.has_set, h, Bool.or_true]

/-- What a burn leaves: a fresh record for a new jti, whatever a fault leaves, or everything as it was. -/
theorem burnJti_cases {expiresAt : Decimal} {burn : LedgerWrite}
    {result : JsMap JsString Json × Except JsString BurnResult} (h : burnJti records jti expiresAt burn now = result) :
    (result.2 = .ok .burned ∧ records.has jti = false ∧ burn = .written ∧
      result.1 = records.set jti (freshRecord jti expiresAt now)) ∨
    (result.2 ≠ .ok .burned ∧ ∀ jti', records.has jti' = true → result.1.get? jti' = records.get? jti') := by
  subst h
  unfold burnJti
  split_ifs with hhas
  · exact .inr ⟨by simp, fun _ _ => rfl⟩
  · rw [Bool.not_eq_true] at hhas
    have hframe : ∀ left jti', records.has jti' = true → (records.set jti left).get? jti' = records.get? jti' := by
      intro left jti' hhas'
      apply JsMap.get?_set_ne
      rintro rfl
      rw [hhas] at hhas'
      cases hhas'
    cases burn with
    | written => exact .inl ⟨rfl, hhas, rfl, rfl⟩
    | failed message left =>
        cases left with
        | none => exact .inr ⟨by simp, fun _ _ => rfl⟩
        | some left => exact .inr ⟨by simp, hframe left⟩

end Ledger

/-! ### A chunk -/

/-- The line a chunk completes, which is the request of its connection. -/
def Connection.line? (c : Connection) (chunk : Bytes) : Option JsString :=
  let buffer := c.buffer ++ Utf8.decode chunk
  if c.done || c.started then none
  else if maxRequestBytes < buffer.length then none
  else if buffer.contains 0x0A then some (buffer.takeWhile (· ≠ 0x0A))
  else none

namespace MergeBroker

variable (b : MergeBroker)

/-- The chunk completes a merge request whose grant verifies, serves this broker's purpose and is not burned yet. -/
structure Presents (records : JsMap JsString Json) (c : Connection) (chunk : Bytes) (now : Int) (grant : PresentedGrant)
    (rawArgs : Option Json) : Prop where
  request : ∃ req, (c.line? chunk).bind Json.parse = some req ∧
    (req.get (js "op")).bind Json.str? = some (js "merge") ∧
    b.crypto.verifyMergeGrant (req.get (js "grant")) b.grantKey now = .ok grant ∧ req.get (js "args") = rawArgs
  purpose : grant.connector = githubConnector ∧ grant.operation = mergePullRequest
  fresh : records.has grant.jti = false

variable {b} {records records' : JsMap JsString Json} {c c' : Connection} {chunk : Bytes} {now : Int}
  {burn write : LedgerWrite} {grant : PresentedGrant} {rawArgs : Option Json}

/-- A connection that completes a line has not been answered, and has no request yet. -/
theorem Presents.unstarted (h : b.Presents records c chunk now grant rawArgs) : c.done = false ∧ c.started = false := by
  obtain ⟨req, hline, -⟩ := h.request
  unfold Connection.line? at hline
  dsimp only at hline
  split_ifs at hline with hclosed <;> simp_all

/-- The connection of a request that burned its grant. -/
def burnedBy (c : Connection) (buffer : JsString) (grant : PresentedGrant) : Connection :=
  { c with buffer, started := true, phase := { c.phase with jti := some grant.jti } }

/-- What a chunk does to the ledger and to its connection. -/
inductive Received (b : MergeBroker) (records : JsMap JsString Json) (c : Connection) (chunk : Bytes) (now : Int)
    (burn write : LedgerWrite) : JsMap JsString Json × Connection → Prop where
  /-- it is ignored, or completes no line -/
  | kept (buffer : JsString) : Received b records c chunk now burn write (records, { c with buffer })
  /-- the request ends at once and burns nothing -/
  | answered {records' : JsMap JsString Json} {buffer : JsString} {started : Bool} {task : Option BrokerTask}
      {response : WireResponse} (idle : c.started = false) (ended : task = none ∨ task = c.task)
      (frame : ∀ jti, records.has jti = true → records'.get? jti = records.get? jti) :
      Received b records c chunk now burn write (records', b.finish { c with buffer, started, task } response)
  | pinned (buffer : JsString) (task : PinTask) (waiting : c.done = false) (idle : c.started = false) :
      Received b records c chunk now burn write
        (records, { c with buffer, started := true, task := some (.pin task) })
  /-- a grant is burned, and its merge is under way -/
  | merging {grant : PresentedGrant} {rawArgs : Option Json} {args : MergePrArgs} (buffer : JsString)
      (presents : b.Presents records c chunk now grant rawArgs) (written : burn = .written)
      (authorized : b.authorize grant rawArgs = .ok args) :
      Received b records c chunk now burn write
        (records.set grant.jti (freshRecord grant.jti grant.expiresAt now),
          { burnedBy c buffer grant with task := some (.merge ⟨grant, args, .probing⟩) })
  /-- a grant is burned, and its merge is refused at once -/
  | refused {grant : PresentedGrant} {rawArgs : Option Json} {error : BrokerError} (buffer : JsString)
      (presents : b.Presents records c chunk now grant rawArgs) (written : burn = .written)
      (unauthorized : b.authorize grant rawArgs = .error error) :
      Received b records c chunk now burn write
        ((throwBurned (records.set grant.jti (freshRecord grant.jti grant.expiresAt now)) grant error write now).1,
          b.progress (burnedBy c buffer grant) (.thrown error))

/-- What a merge request does up to its first await. -/
theorem launchMerge_received (buffer : JsString) (hidle : c.started = false) {req : Json}
    (hline : (c.line? chunk).bind Json.parse = some req)
    (hop : (req.get (js "op")).bind Json.str? = some (js "merge"))
    {result : JsMap JsString Json × RequestPhase × Progress}
    (h : b.launchMerge records c.phase (req.get (js "grant")) (req.get (js "args")) now burn write = result) :
    Received b records c chunk now burn write
      (result.1, b.progress { c with buffer, started := true, phase := result.2.1 } result.2.2) := by
  subst h
  unfold launchMerge
  cases hverify : b.crypto.verifyMergeGrant (req.get (js "grant")) b.grantKey now with
  | error reason => exact .answered hidle (.inl rfl) fun _ _ => rfl
  | ok grant =>
      dsimp only
      split_ifs with hpurpose
      · exact .answered hidle (.inl rfl) fun _ _ => rfl
      · push Not at hpurpose
        have hcases := burnJti_cases (rfl : burnJti records grant.jti grant.expiresAt burn now = _)
        generalize burnJti records grant.jti grant.expiresAt burn now = result at hcases
        obtain ⟨left, outcome⟩ := result
        rcases hcases with ⟨rfl, hfresh, hwritten, rfl⟩ | ⟨hunburned, hframe⟩
        · have hpresents : b.Presents records c chunk now grant (req.get (js "args")) :=
            ⟨⟨req, hline, hop, hverify, rfl⟩, hpurpose, hfresh⟩
          dsimp only
          cases hauthorize : b.authorize grant (req.get (js "args")) with
          | ok args => exact .merging buffer hpresents hwritten hauthorize
          | error e =>
              have hthrown : ∀ records, (throwBurned records grant e write now).2 = .thrown e := by
                intro records
                cases e <;> rfl
              dsimp only
              rw [hthrown]
              exact .refused buffer hpresents hwritten hauthorize
        · cases outcome with
          | error message => exact .answered hidle (.inl rfl) hframe
          | ok outcome =>
              cases outcome with
              | burned => exact absurd rfl hunburned
              | alreadyBurned => exact .answered hidle (.inl rfl) hframe

theorem receive_received : Received b records c chunk now burn write (b.receive records c chunk now burn write) := by
  unfold receive
  split_ifs with hclosed
  · exact .kept c.buffer
  · rw [Bool.or_eq_true, not_or, Bool.not_eq_true, Bool.not_eq_true] at hclosed
    obtain ⟨hwaiting, hidle⟩ := hclosed
    dsimp only
    split_ifs with hlarge hnewline
    · exact .answered hidle (.inr rfl) fun _ _ => rfl
    · have hline : c.line? chunk = some ((c.buffer ++ Utf8.decode chunk).takeWhile (· ≠ 0x0A)) := by
        unfold Connection.line?
        dsimp only
        rw [hwaiting, hidle, Bool.or_false, if_neg Bool.false_ne_true, if_neg hlarge, if_pos hnewline]
      unfold launch
      cases hparse : Json.parse ((c.buffer ++ Utf8.decode chunk).takeWhile (· ≠ 0x0A)) with
      | none => exact .answered hidle (.inl rfl) fun _ _ => rfl
      | some req =>
          dsimp only
          split_ifs with hpin hmerge houtcome
          · unfold launchPin
            cases asPinArgs (req.get (js "args")) with
            | error message => exact .answered hidle (.inl rfl) fun _ _ => rfl
            | ok task =>
                dsimp only
                cases b.assertRepoAllowed task.repo with
                | error e => exact .answered hidle (.inl rfl) fun _ _ => rfl
                | ok _ => exact .pinned _ task hwaiting hidle
          · exact launchMerge_received _ hidle (by rw [hline, Option.bind_some, hparse]) hmerge rfl
          · cases b.outcomeOf records (req.get (js "args")) with
            | error e => exact .answered hidle (.inl rfl) fun _ _ => rfl
            | ok response => exact .answered hidle (.inl rfl) fun _ _ => rfl
          · exact .answered hidle (.inr rfl) fun _ _ => rfl
    · exact .kept _

/-- A request that presents a grant burns it, and is refused at once or under way. -/
theorem receive_presents {c : Connection} {chunk : Bytes} {now : Int} {write : LedgerWrite}
    (h : b.Presents records c chunk now grant rawArgs) : ∃ buffer, b.receive records c chunk now .written write =
      match b.authorize grant rawArgs with
      | .ok args => (records.set grant.jti (freshRecord grant.jti grant.expiresAt now),
          { burnedBy c buffer grant with task := some (.merge ⟨grant, args, .probing⟩) })
      | .error e =>
          ((throwBurned (records.set grant.jti (freshRecord grant.jti grant.expiresAt now)) grant e write now).1,
            b.progress (burnedBy c buffer grant) (.thrown e)) := by
  obtain ⟨hwaiting, hidle⟩ := h.unstarted
  obtain ⟨⟨req, hreq, hop, hverify, rfl⟩, hpurpose, hfresh⟩ := h
  obtain ⟨line, hline, hparse⟩ := Option.bind_eq_some_iff.mp hreq
  unfold Connection.line? at hline
  dsimp only at hline
  split_ifs at hline with hclosed hlarge hnewline
  refine ⟨c.buffer ++ Utf8.decode chunk, ?_⟩
  unfold receive
  rw [if_neg hclosed]
  dsimp only
  rw [if_neg hlarge, if_pos hnewline, Option.some.inj hline]
  unfold launch
  rw [hparse]
  dsimp only
  have hnotpin : (req.get (js "op")).bind Json.str? ≠ some (js "pin-head") := by
    rw [hop]
    decide
  rw [if_neg hnotpin, if_pos hop]
  unfold launchMerge
  rw [hverify]
  dsimp only
  rw [if_neg (by simp [hpurpose])]
  have hburn : burnJti records grant.jti grant.expiresAt .written now =
      (records.set grant.jti (freshRecord grant.jti grant.expiresAt now), .ok .burned) := by
    unfold burnJti
    rw [hfresh, if_neg Bool.false_ne_true]
  rw [hburn]
  dsimp only
  cases b.authorize grant (req.get (js "args")) with
  | ok args => rfl
  | error e =>
      cases e with
      | refusal message => rfl
      | other message => rfl

end MergeBroker

/-! ### An await that settles -/

/-- The merge request is on its way, or was. -/
def MergeStage.isDispatched : MergeStage → Bool
  | .putting _ _ => true
  | .verifying _ _ _ => true
  | _ => false

namespace GitHubMergeClient

variable {client : GitHubMergeClient} {args : MergePrArgs} {error : ConnectorCallError}

theorem mergePath_error (h : client.mergePath args = .error error) : error.outcome = .notPerformed := by
  unfold mergePath at h
  split at h
  · cases h
    rfl
  · split_ifs at h
    cases h
    rfl

theorem mergeToken_error {token : Except JsString JsString} (h : client.mergeToken token = .error error) :
    error.outcome = .notPerformed := by
  cases token with
  | error message =>
      cases h
      rfl
  | ok token => cases h

theorem checkBase_error {answer : HttpAnswer} (h : client.checkBase args answer = .error error) :
    error.outcome = .notPerformed := by
  unfold checkBase at h
  split at h
  · cases h
    rfl
  · split at h
    · cases h
      rfl
    · split_ifs at h
      cases h
      rfl

/-- Only a documented status is a rejection. -/
theorem putAnswered_rejected {answer : HttpAnswer} (h : client.putAnswered args answer = .rejected error) :
    error.outcome = .notPerformed ∧
      ∃ status limited text, answer = .response status limited text ∧ status ∈ documentedRejectionStatuses := by
  unfold putAnswered at h
  split at h
  · cases h
  · rename_i status limited text
    dsimp only at h
    split at h
    · split at h
      · cases h
      · cases h
    split at h
    · rename_i hdocumented
      cases h
      exact ⟨rfl, status, limited, text, rfl, List.contains_iff_mem.mp hdocumented⟩
    · cases h

theorem verifyAfterAmbiguousDispatch_error {cause : JsString} {answer : HttpAnswer}
    (h : client.verifyAfterAmbiguousDispatch args cause answer = .error error) : error.outcome = .unknown := by
  unfold verifyAfterAmbiguousDispatch at h
  dsimp only at h
  split at h
  · cases h
    rfl
  · split_ifs at h
    cases h
    rfl

end GitHubMergeClient

namespace MergeBroker

variable {b : MergeBroker} {records : JsMap JsString Json} {phase : RequestPhase} {task : MergeTask}
  {settled : AwaitResult} {now : Int} {write : LedgerWrite}

/-- What the commit says of a merge that is dispatched. -/
theorem commitRefusal_none {grant : PresentedGrant} {before : Int} {after : LiveKillState}
    (h : commitRefusal phase grant before after now = none) :
    after.killed = false ∧ after.epoch = before ∧ grant.expiresAt.atMost now = false ∧ after.committed = some true ∧
      phase.abandoned = false := by
  unfold commitRefusal at h
  split_ifs at h with hkilled hexpired hcommitted hlatch
  rw [Bool.or_eq_true, not_or, decide_eq_true_eq, not_not] at hkilled
  exact ⟨Bool.eq_false_iff.mpr hkilled.1, hkilled.2, Bool.eq_false_iff.mpr hexpired, not_not.mp hcommitted,
    Bool.eq_false_iff.mpr hlatch⟩

/-- What a settled await does to the ledger, the phase and the merge. -/
inductive Resumed (b : MergeBroker) (records : JsMap JsString Json) (phase : RequestPhase) (task : MergeTask)
    (settled : AwaitResult) (now : Int) (write : LedgerWrite) :
    JsMap JsString Json × RequestPhase × Progress → Prop where
  | minting {state : Option LiveKillState} {prUrl : JsString} (stage : task.stage = .probing)
      (answer : settled = .live state) (probed : probeRefusal task.grant (fetchLive state) = none)
      (path : b.client.mergePath task.args = .ok prUrl) :
      Resumed b records phase task settled now write
        (records, phase, .suspended (.merge { task with stage := .minting prUrl (fetchLive state).epoch }))
  | readingBase {prUrl token : JsString} {before : Int} (stage : task.stage = .minting prUrl before)
      (answer : settled = .token (.ok token)) :
      Resumed b records phase task settled now write
        (records, phase, .suspended (.merge { task with stage := .readingBase prUrl before token }))
  | committing {prUrl token : JsString} {before : Int} {answer : HttpAnswer}
      (stage : task.stage = .readingBase prUrl before token) (answered : settled = .http answer)
      (base : b.client.checkBase task.args answer = .ok ()) (latch : phase.abandoned = false) :
      Resumed b records phase task settled now write
        (records, phase, .suspended (.merge { task with stage := .committing prUrl before token }))
  | putting {state : Option LiveKillState} {prUrl token : JsString} {before : Int}
      (stage : task.stage = .committing prUrl before token) (answer : settled = .live state)
      (committed : commitRefusal phase task.grant before (fetchLive state) now = none) :
      Resumed b records phase task settled now write
        (records, { phase with dispatched := true }, .suspended (.merge { task with stage := .putting prUrl token }))
  | verifying {prUrl token cause : JsString} {answer : HttpAnswer} (stage : task.stage = .putting prUrl token)
      (answered : settled = .http answer) (ambiguous : b.client.putAnswered task.args answer = .ambiguous cause) :
      Resumed b records phase task settled now write
        (records, phase, .suspended (.merge { task with stage := .verifying prUrl token cause }))
  | refused (message : JsString) (stage : task.stage = .probing) :
      Resumed b records phase task settled now write
        (recordOutcome records task.grant.jti (refusedPatch message) write now, phase, .thrown (.refusal message))
  /-- an error before the request is sent -/
  | failed {error : ConnectorCallError} (stage : task.stage.isDispatched = false)
      (outcome : error.outcome = .notPerformed) :
      Resumed b records phase task settled now write
        (recordOutcome records task.grant.jti (connectorErrorPatch error) write now, phase,
          .answered (.connector error.outcome error.message))
  /-- GitHub answered the request with a rejection -/
  | rejected {prUrl token : JsString} {answer : HttpAnswer} {error : ConnectorCallError}
      (stage : task.stage = .putting prUrl token) (answered : settled = .http answer)
      (verdict : b.client.putAnswered task.args answer = .rejected error) :
      Resumed b records phase task settled now write
        (recordOutcome records task.grant.jti (connectorErrorPatch error) write now, phase,
          .answered (.connector error.outcome error.message))
  | merged {result : MergeResult} (stage : task.stage.isDispatched = true) :
      Resumed b records phase task settled now write
        (recordOutcome records task.grant.jti (mergedPatch result) write now, phase,
          .answered (.merged result.merged result.sha result.message))
  | unknown {error : ConnectorCallError} (stage : task.stage.isDispatched = true) (outcome : error.outcome = .unknown) :
      Resumed b records phase task settled now write
        (recordOutcome records task.grant.jti (connectorErrorPatch error) write now, phase,
          .answered (.connector error.outcome error.message))

theorem resumeMerge_resumed {result : JsMap JsString Json × RequestPhase × Progress}
    (h : b.resumeMerge records phase task settled now write = some result) :
    Resumed b records phase task settled now write result := by
  obtain ⟨grant, args, stage⟩ := task
  unfold resumeMerge at h
  dsimp only at h
  split at h
  · obtain rfl := Option.some.inj h
    rename_i state
    cases hprobe : probeRefusal grant (fetchLive state) with
    | some message => exact .refused message rfl
    | none =>
        dsimp only
        cases hpath : b.client.mergePath args with
        | error error => exact .failed rfl (GitHubMergeClient.mergePath_error hpath)
        | ok prUrl => exact .minting rfl rfl hprobe hpath
  · obtain rfl := Option.some.inj h
    rename_i prUrl before token
    cases htoken : b.client.mergeToken token with
    | error error => exact .failed rfl (GitHubMergeClient.mergeToken_error htoken)
    | ok minted =>
        cases token with
        | error message => cases htoken
        | ok token =>
            cases htoken
            exact .readingBase rfl rfl
  · obtain rfl := Option.some.inj h
    rename_i prUrl before token answer
    cases hbase : b.client.checkBase args answer with
    | error error => exact .failed rfl (GitHubMergeClient.checkBase_error hbase)
    | ok _ =>
        dsimp only
        split_ifs with hlatch
        · exact .failed rfl rfl
        · exact .committing rfl rfl hbase (by simpa using hlatch)
  · obtain rfl := Option.some.inj h
    rename_i prUrl before token state
    cases hcommit : commitRefusal phase grant before (fetchLive state) now with
    | some message => exact .failed rfl rfl
    | none => exact .putting rfl rfl hcommit
  · obtain rfl := Option.some.inj h
    rename_i prUrl token answer
    cases hverdict : b.client.putAnswered args answer with
    | merged result => exact .merged rfl
    | rejected error => exact .rejected rfl rfl hverdict
    | ambiguous cause => exact .verifying rfl rfl hverdict
  · obtain rfl := Option.some.inj h
    rename_i prUrl token cause answer
    cases hverify : b.client.verifyAfterAmbiguousDispatch args cause answer with
    | ok result => exact .merged rfl
    | error error => exact .unknown rfl (GitHubMergeClient.verifyAfterAmbiguousDispatch_error hverify)
  · cases h

/-- A merge writes no record but its own. -/
theorem Resumed.get?_ne {result : JsMap JsString Json × RequestPhase × Progress} {jti : JsString}
    (h : Resumed b records phase task settled now write result) (hne : jti ≠ task.grant.jti) :
    result.1.get? jti = records.get? jti := by
  cases h with
  | minting => rfl
  | readingBase => rfl
  | committing => rfl
  | putting => rfl
  | verifying => rfl
  | refused => exact recordOutcome_get?_ne hne _
  | failed => exact recordOutcome_get?_ne hne _
  | rejected => exact recordOutcome_get?_ne hne _
  | merged => exact recordOutcome_get?_ne hne _
  | unknown => exact recordOutcome_get?_ne hne _

/-- No record is lost. -/
theorem Resumed.has {result : JsMap JsString Json × RequestPhase × Progress} {jti : JsString}
    (h : Resumed b records phase task settled now write result) (hhas : records.has jti = true) :
    result.1.has jti = true := by
  cases h with
  | minting => exact hhas
  | readingBase => exact hhas
  | committing => exact hhas
  | putting => exact hhas
  | verifying => exact hhas
  | refused => exact recordOutcome_has _ hhas
  | failed => exact recordOutcome_has _ hhas
  | rejected => exact recordOutcome_has _ hhas
  | merged => exact recordOutcome_has _ hhas
  | unknown => exact recordOutcome_has _ hhas

/-- The jti stays that of the burned grant, and the dispatch is never undone. -/
theorem Resumed.keepsPhase {result : JsMap JsString Json × RequestPhase × Progress}
    (h : Resumed b records phase task settled now write result) :
    result.2.1.jti = phase.jti ∧ (phase.dispatched = true → result.2.1.dispatched = true) := by
  cases h with
  | putting => exact ⟨rfl, fun _ => rfl⟩
  | minting => exact ⟨rfl, id⟩
  | readingBase => exact ⟨rfl, id⟩
  | committing => exact ⟨rfl, id⟩
  | verifying => exact ⟨rfl, id⟩
  | refused => exact ⟨rfl, id⟩
  | failed => exact ⟨rfl, id⟩
  | rejected => exact ⟨rfl, id⟩
  | merged => exact ⟨rfl, id⟩
  | unknown => exact ⟨rfl, id⟩

/-- A merge that goes on is the same merge. -/
theorem Resumed.same {left : JsMap JsString Json} {phase' : RequestPhase} {next : BrokerTask}
    (h : Resumed b records phase task settled now write (left, phase', .suspended next)) :
    ∃ stage, next = .merge { task with stage } ∧ left = records := by
  cases h with
  | minting => exact ⟨_, rfl, rfl⟩
  | readingBase => exact ⟨_, rfl, rfl⟩
  | committing => exact ⟨_, rfl, rfl⟩
  | putting => exact ⟨_, rfl, rfl⟩
  | verifying => exact ⟨_, rfl, rfl⟩

end MergeBroker

end OwnerSwitch
