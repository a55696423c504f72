/-
Module: OwnerSwitch.Executor.BrokerHonesty
Layer: Executor
Purpose: The merge broker and the client at the other end of one of its connections, together. Whatever becomes of the
  socket and however its bytes are cut, a client that says its merge was not performed is right: the connection it spoke
  to sent no merge request, or GitHub rejected the one it sent.
Imports: Executor.BrokerFraming
Trusted boundary: what the socket carries is a beginning of what was written to it
Main exports: Exchange.Follows, mergeAnswer_undone, Linked, not_performed_true
Open obligations: none
-/
import OwnerSwitch.Executor.BrokerFraming

namespace OwnerSwitch

open Utf8

/-! ### What an exchange has read -/

/-- The chunk an event brings. -/
def SocketEvent.chunk? : SocketEvent → Option Bytes
  | .data chunk => some chunk
  | .connect | .error | .close | .timeout => none

/-- An exchange after some chunks: while it goes on it reads on where they end, and it resolves with a line of theirs. -/
structure Exchange.Follows (x : Exchange) (chunks : List Bytes) : Prop where
  pending : x.settled = none → ∀ more,
    LineReader.fresh.events maxResponseBytes (chunks ++ more) = x.reader.events maxResponseBytes more
  resolved : ∀ w, x.settled = some (.ok w) →
    ∃ g, .line g ∈ LineReader.fresh.events maxResponseBytes chunks ∧ x.answered g = .ok w
  rejected : ∀ e, x.settled = some (.error e) → e.sent = x.sent

namespace Exchange.Follows

variable {c : BrokerMergeClient} {x : Exchange} {chunks : List Bytes}

theorem fresh : Exchange.fresh.Follows [] := by
  constructor
  · exact fun _ _ => rfl
  · nofun
  · nofun

/-- A settled exchange resolves with the line it had. -/
theorem more (h : x.Follows chunks) (hsettled : x.settled.isSome = true) (tail : List Bytes) :
    x.Follows (chunks ++ tail) := by
  constructor
  · intro hnone
    rw [hnone] at hsettled
    cases hsettled
  · intro w hw
    obtain ⟨g, hg, hanswered⟩ := h.resolved w hw
    obtain ⟨r', happend⟩ := LineReader.events_append maxResponseBytes LineReader.fresh chunks tail
    refine ⟨g, ?_, hanswered⟩
    rw [happend]
    exact List.mem_append_left _ hg
  · exact h.rejected

theorem fail (h : x.Follows chunks) (message : JsString) : (x.fail message).Follows chunks := by
  unfold Exchange.fail
  split
  · exact h
  · constructor
    · nofun
    · nofun
    · intro e he
      cases he
      rfl

theorem receive (h : x.Follows chunks) (chunk : Bytes) : (x.receive chunk).Follows (chunks ++ [chunk]) := by
  cases hsettled : x.settled with
  | some result =>
      have hsome : x.settled.isSome = true := by rw [hsettled]; rfl
      rw [receive_settled hsome]
      exact h.more hsome [chunk]
  | none =>
      obtain ⟨hreader, hsent, hresult⟩ := receive_reader hsettled chunk
      have hread := h.pending hsettled
      constructor
      · intro hnone tail
        rw [hresult, Option.map_eq_none_iff] at hnone
        rw [List.append_assoc, hread, List.singleton_append, LineReader.events, hnone, hreader]
        rfl
      · intro w hw
        rw [hresult] at hw
        obtain ⟨e, he, hended⟩ := Option.map_eq_some_iff.mp hw
        cases e with
        | oversize => cases hended
        | line g =>
            refine ⟨g, ?_, ?_⟩
            · rw [hread, LineReader.events, he]
              exact List.mem_append_left _ (List.mem_singleton_self _)
            · rw [← hended]
              simp only [ended, answered, hsent]
      · intro e he
        rw [hresult] at he
        obtain ⟨event, -, hended⟩ := Option.map_eq_some_iff.mp he
        rw [hsent]
        cases event with
        | oversize =>
            cases hended
            rfl
        | line g =>
            have hline : x.answered g = .error e := hended
            unfold answered at hline
            split at hline
            · cases hline
              rfl
            · cases hline
            · cases hline

theorem next (h : x.Follows chunks) (event : SocketEvent) :
    (c.next x event).Follows (chunks ++ event.chunk?.toList) := by
  cases event with
  | data chunk => exact h.receive chunk
  | connect =>
      rw [SocketEvent.chunk?, Option.toList_none, List.append_nil, BrokerMergeClient.next]
      split
      · exact h
      · rename_i hopen
        rw [Option.isSome_iff_ne_none, not_not] at hopen
        constructor
        · exact fun _ => h.pending hopen
        · intro w hw
          rw [hopen] at hw
          cases hw
        · intro e he
          rw [hopen] at he
          cases he
  | error =>
      rw [SocketEvent.chunk?, Option.toList_none, List.append_nil]
      exact h.fail _
  | close =>
      rw [SocketEvent.chunk?, Option.toList_none, List.append_nil]
      exact h.fail _
  | timeout =>
      rw [SocketEvent.chunk?, Option.toList_none, List.append_nil]
      exact h.fail _

end Exchange.Follows

theorem exchange_follows (c : BrokerMergeClient) (events : List SocketEvent) :
    (c.exchange events).Follows (events.filterMap SocketEvent.chunk?) := by
  have hfold : ∀ (x : Exchange) (chunks : List Bytes), x.Follows chunks →
      (events.foldl c.next x).Follows (chunks ++ events.filterMap SocketEvent.chunk?) := by
    induction events with
    | nil =>
        intro x chunks h
        rw [List.filterMap_nil, List.append_nil]
        exact h
    | cons event events ih =>
        intro x chunks h
        have hsplit : (event :: events).filterMap SocketEvent.chunk?
            = event.chunk?.toList ++ events.filterMap SocketEvent.chunk? := by
          cases event <;> rfl
        rw [hsplit, ← List.append_assoc, List.foldl_cons]
        exact ih _ _ (h.next event)
  exact hfold .fresh [] .fresh

/-! ### What a client makes of an answer -/

section Answers

variable {c : BrokerMergeClient} {answer : WireResponse} {g : JsString} {w : Json}

/-- An object without these properties is no merge, no refusal and no failure of the connector. -/
theorem mergeAnswer_unrecognized {args : MergePrArgs} {err : ConnectorCallError}
    (hmerged : (w.get (js "merged")).isSome = false) (hkind : (w.get (js "kind")).isSome = false)
    (h : c.mergeAnswer args w = .error err) : err.outcome = .unknown := by
  rw [Option.isSome_eq_false_iff, Option.isNone_iff_eq_none] at hmerged hkind
  unfold BrokerMergeClient.mergeAnswer at h
  simp only [hmerged, hkind, Option.isSome_none, Bool.false_eq_true, and_false, if_false, Option.bind_none,
    reduceCtorEq] at h
  cases h
  rfl

/-- What an exchange resolves with is what its line is read as. -/
theorem parse_of_answered {x : Exchange} (hg : Garbles answer.wire.stringify g) (h : x.answered g = .ok w) :
    Json.parse g = some w := by
  obtain ⟨k, y, fs, hwire⟩ := answer.exists_wire
  rw [hwire] at hg
  unfold Exchange.answered at h
  split at h
  · cases h
  · rename_i hnull
    exact absurd hnull (Json.parse_garbled_ne_null hg)
  · rename_i value _ hparse
    cases h
    exact hparse

/-- The answer that says a merge was not performed says so in ASCII, and arrives saying it. -/
theorem mergeAnswer_undone {args : MergePrArgs} {err : ConnectorCallError} (hg : Garbles answer.wire.stringify g)
    (hparse : Json.parse g = some w) (h : c.mergeAnswer args w = .error err) (hundone : err.outcome = .notPerformed) :
    (∃ error, answer = .refused error) ∨ ∃ error, answer = .connector .notPerformed error := by
  have hunknown : ¬ err.outcome = .unknown := by
    rw [hundone]
    nofun
  cases answer with
  | pinned headSha baseRef =>
      have hget := Json.get_of_parse_garbles (K := [js "ok", js "headSha", js "baseRef"]) rfl (by decide +kernel)
        (by decide +kernel) hg hparse
      exact absurd (mergeAnswer_unrecognized (hget (js "merged")).2 (hget (js "kind")).2 h) hunknown
  | record fields =>
      have hget := Json.get_of_parse_garbles (K := [js "ok", js "record"]) rfl (by decide +kernel)
        (by decide +kernel) hg hparse
      exact absurd (mergeAnswer_unrecognized (hget (js "merged")).2 (hget (js "kind")).2 h) hunknown
  | merged isMerged sha message =>
      have hget := Json.get_of_parse_garbles (K := [js "ok", js "merged", js "sha", js "message"]) rfl (by decide +kernel)
        (by decide +kernel) hg hparse
      have hok := (hget (js "ok")).1 (.bool true) rfl (List.all_iff_forall_prop.mp (by decide +kernel))
      have hmerged := (hget (js "merged")).2
      unfold BrokerMergeClient.mergeAnswer at h
      rw [if_pos ⟨by rw [hok]; rfl, hmerged⟩] at h
      cases h
  | refused error => exact .inl ⟨error, rfl⟩
  | connector outcome error =>
      have hget := Json.get_of_parse_garbles (K := [js "ok", js "kind", js "outcome", js "error"]) rfl (by decide +kernel)
        (by decide +kernel) hg hparse
      have hok := (hget (js "ok")).1 (.bool false) rfl (List.all_iff_forall_prop.mp (by decide +kernel))
      have hkind := (hget (js "kind")).1 (.str (js "connector")) rfl (List.all_iff_forall_prop.mp (by decide +kernel))
      have houtcome := (hget (js "outcome")).1 (.str outcome.text) rfl
        (by cases outcome <;> exact List.all_iff_forall_prop.mp (by decide +kernel))
      cases outcome with
      | notPerformed => exact .inr ⟨error, rfl⟩
      | unknown =>
          have hnot : ¬ ((w.get (js "ok")).bind Json.bool? = some true ∧ (w.get (js "merged")).isSome = true) := by
            rw [hok]
            rintro ⟨hfalse, -⟩
            cases hfalse
          have hconnector : (w.get (js "kind")).bind Json.str? = some (js "connector") := by
            rw [hkind]
            rfl
          have hother : ¬ (w.get (js "outcome")).bind Json.str? = some (js "not-performed") := by
            rw [houtcome]
            decide +kernel
          unfold BrokerMergeClient.mergeAnswer at h
          dsimp only at h
          rw [if_neg hnot, if_pos hconnector, if_neg hother] at h
          cases h
          exact absurd rfl hunknown

end Answers

/-! ### The two ends together -/

/-- The octets an answer is written as. -/
def WireResponse.written (answer : Option WireResponse) : Bytes :=
  match answer with
  | some answer => encode (LineReader.lineOf answer.wire)
  | none => []

/-- The chunk a step brings to a connection. -/
def BrokerStep.chunk? (i : Nat) : BrokerStep → Option Bytes
  | .data j chunk _ _ _ => if j = i then some chunk else none
  | _ => none

/-- The client's socket and one connection of the broker: each end has received a beginning of what the other wrote. -/
structure Linked (c : BrokerMergeClient) (args : MergePrArgs) (grant : Json) (events : List SocketEvent)
    (es : List BrokerEdge) (i : Nat) (connection : Connection) : Prop where
  request : (es.filterMap fun e => e.label.chunk? i).flatten <+:
    if (c.exchange events).sent then encode (LineReader.lineOf (BrokerRequest.merge grant args).wire) else []
  answer : (events.filterMap SocketEvent.chunk?).flatten <+: WireResponse.written connection.answer

section Together

variable {b : MergeBroker} {s t : BrokerState} {op : BrokerStep} {i : Nat} {c' : Connection} {es : List BrokerEdge}

/-- A connection that has received nothing. -/
structure Connection.Untouched (c : Connection) : Prop where
  started : c.started = false
  buffer : c.buffer = []

/-- Without a chunk, nothing happens that a connection would take for a request. -/
theorem untouched_next (h : (brokerRuns b).next s op t) (hsound : s.Sound) (hchunk : ∀ chunk ∈ op.chunk? i, chunk = [])
    (hs : ∀ c, s.connections[i]? = some c → c.Untouched) (hget : t.connections[i]? = some c') : c'.Untouched := by
  have hmove := next_move h hget
  cases hmove with
  | fresh absent new =>
      rw [new]
      exact ⟨rfl, rfl⟩
  | kept before => exact hs _ before
  | @received c chunk now burn write label before =>
      subst label
      obtain ⟨c₁, hc₁, rfl⟩ := h
      rw [before] at hc₁
      obtain rfl := Option.some.inj hc₁
      obtain ⟨-, rfl⟩ | ⟨hother, -⟩ := move_connections hget
      · obtain rfl : chunk = [] := hchunk chunk (by rw [BrokerStep.chunk?, if_pos rfl]; rfl)
        obtain ⟨hstarted, hbuffer⟩ := hs c before
        have hnothing : decode [] = [] := rfl
        unfold MergeBroker.receive
        split_ifs with hclosed
        · exact ⟨hstarted, hbuffer⟩
        · dsimp only
          rw [hbuffer, hnothing, List.append_nil, List.length_nil, if_neg (Nat.not_lt_zero _), if_neg (by decide)]
          exact ⟨hstarted, rfl⟩
      · exact absurd rfl hother
  | expired label before waiting after =>
      obtain ⟨hstarted, hbuffer⟩ := hs _ before
      rw [after]
      unfold MergeBroker.expire
      dsimp only
      split
      · exact ⟨(finish_started _).trans hstarted, (finish_buffer _).trans hbuffer⟩
      · exact ⟨(finish_started _).trans hstarted, (finish_buffer _).trans hbuffer⟩
  | closed before after =>
      rw [after]
      exact ⟨(hs _ before).started, (hs _ before).buffer⟩
  | pinned before pin =>
      rw [((hsound.connections i _ before).idle (hs _ before).started).1] at pin
      cases pin
  | resumed label before merge =>
      rw [((hsound.connections i _ before).idle (hs _ before).started).1] at merge
      cases merge

/-- A connection to which nothing came has received nothing. -/
theorem untouched_of_silent (h : (brokerRuns b).Exec es s)
    (hsilent : (es.filterMap fun e => e.label.chunk? i).flatten = []) :
    ∀ c, s.connections[i]? = some c → c.Untouched := by
  refine h.induct (I := fun (es : List BrokerEdge) s => (es.filterMap fun e => e.label.chunk? i).flatten = [] →
    ∀ c, s.connections[i]? = some c → c.Untouched) ?_ ?_ hsilent
  · intro s hinit _ c hget
    rw [show s.connections = [] from hinit] at hget
    cases hget
  · intro es s op t hexec ih hnext hsilent c hget
    rw [List.filterMap_append, List.flatten_append, List.append_eq_nil_iff] at hsilent
    refine untouched_next hnext (hexec.invariant sound_invariant) (fun chunk hchunk => ?_) (ih hsilent.1) hget
    have hmem : chunk ∈ [(⟨s, op, t⟩ : BrokerEdge)].filterMap fun e => e.label.chunk? i :=
      List.mem_filterMap.mpr ⟨_, List.mem_singleton_self _, hchunk⟩
    exact List.flatten_eq_nil_iff.mp hsilent.2 chunk hmem

/-- A connection to which nothing came sends no merge request. -/
theorem silent_sends_nothing (h : (brokerRuns b).Exec es s)
    (hsilent : (es.filterMap fun e => e.label.chunk? i).flatten = []) {e : BrokerEdge} (he : e ∈ es) (task : MergeTask)
    (put : MergePut) : ¬ e.Sends i task put := by
  rintro ⟨c, -, prUrl, before, token, hget, htask, -⟩
  obtain ⟨pre, post, rfl⟩ := List.append_of_mem he
  obtain ⟨hpre, -, -⟩ := h.split
  rw [List.filterMap_append, List.flatten_append, List.append_eq_nil_iff] at hsilent
  have huntouched := untouched_of_silent hpre hsilent.1 c hget
  rw [(((hpre.invariant sound_invariant).connections i c hget).idle huntouched.started).1] at htask
  cases htask

/-- A connection whose answer says its merge was not performed sent no merge request, or GitHub rejected it. -/
theorem undone_sends_nothing (h : (brokerRuns b).Exec es s) {c : Connection} (hget : s.connections[i]? = some c)
    (hundone : (∃ error, c.answer = some (.refused error)) ∨
      ∃ error, c.answer = some (.connector .notPerformed error)) :
    (∀ e ∈ es, ∀ task put, ¬ e.Sends i task put) ∨ ∃ f ∈ es, ∃ jti, f.Rejects i jti := by
  by_cases hsends : ∃ e ∈ es, ∃ task put, e.Sends i task put
  · right
    obtain ⟨e, he, task, put, hsent⟩ := hsends
    -- what was sent leaves its connection dispatched until the end
    obtain ⟨d, hd, hjti, hdispatched⟩ := hsent.dispatches (sound_of_mem h he).2
    obtain ⟨pre, post, rfl⟩ := List.append_of_mem he
    obtain ⟨hpre, hnext, hpath⟩ := h.split
    obtain ⟨c₁, hc₁, hkeeps⟩ := path_keeps hpath ((hpre.invariant sound_invariant).next hnext) hd
    rw [hget] at hc₁
    obtain rfl := Option.some.inj hc₁
    have hstands := hkeeps.dispatched hdispatched
    rcases hundone with ⟨error, hrefused⟩ | ⟨error, hfailed⟩
    · rw [(((h.invariant sound_invariant).connections i c hget).refused error hrefused).1] at hstands
      cases hstands
    · rcases undispatched_or_rejected h c hget (hkeeps.jti _ hjti) hfailed with hundispatched | ⟨f, hf, hrejects⟩
      · rw [hundispatched] at hstands
        cases hstands
      · exact ⟨f, hf, _, hrejects⟩
  · left
    exact fun e he task put hsent => hsends ⟨e, he, task, put, hsent⟩

/-- A client that is told, or concludes, that its merge was not performed is right, then and later: in every run of the
    broker the connection at the other end sends no merge request, unless GitHub rejects the one it sends. -/
theorem not_performed_true (h : (brokerRuns b).Exec es s) {connection : Connection}
    (hget : s.connections[i]? = some connection) (c : BrokerMergeClient) (args : MergePrArgs) (grant : Json)
    (events : List SocketEvent) (hlinked : Linked c args grant events es i connection) {err : ConnectorCallError}
    (hresult : c.mergePullRequest args (some grant) events = some (.error (.connector err)))
    (hundone : err.outcome = .notPerformed) :
    (∀ e ∈ es, ∀ task put, ¬ e.Sends i task put) ∨ ∃ f ∈ es, ∃ jti, f.Rejects i jti := by
  unfold BrokerMergeClient.mergePullRequest at hresult
  split at hresult
  · cases hresult
  · obtain ⟨settled, hsettled, hmapped⟩ := Option.map_eq_some_iff.mp hresult
    have hfollows := exchange_follows c events
    cases settled with
    | error failure =>
        have herror : err = BrokerMergeClient.transportFailure args failure := by
          cases hmapped
          rfl
        have hunsent : failure.sent = false := by
          rw [herror, BrokerMergeClient.transportFailure] at hundone
          split at hundone
          · cases hundone
          · rename_i hsent
            exact Bool.not_eq_true _ ▸ hsent
        have hrequest := hlinked.request
        rw [← hfollows.rejected failure hsettled, hunsent, if_neg Bool.false_ne_true] at hrequest
        exact .inl fun e he task put => silent_sends_nothing h (List.prefix_nil.mp hrequest) he task put
    | ok w =>
        have hanswer : c.mergeAnswer args w = .error err := by
          have hmapped : (c.mergeAnswer args w).mapError BrokerCallError.connector = .error (.connector err) := hmapped
          cases hcase : c.mergeAnswer args w with
          | ok result =>
              rw [hcase] at hmapped
              cases hmapped
          | error err' =>
              rw [hcase] at hmapped
              cases hmapped
              rfl
        obtain ⟨g, hg, hline⟩ := hfollows.resolved w hsettled
        have hreceived := hlinked.answer
        cases hwritten : connection.answer with
        | none =>
            rw [hwritten] at hreceived
            rw [LineReader.events_silent _ (List.prefix_nil.mp hreceived)] at hg
            cases hg
        | some answer =>
            rw [hwritten] at hreceived
            have hgarbles := LineReader.garbles_of_line hreceived hg
            refine undone_sends_nothing h hget ?_
            rcases mergeAnswer_undone hgarbles (parse_of_answered hgarbles hline) hanswer hundone with
              ⟨error, rfl⟩ | ⟨error, rfl⟩
            · exact .inl ⟨error, hwritten⟩
            · exact .inr ⟨error, hwritten⟩

end Together

/-- The arguments of a merge whose grant is `null`. -/
def ungrantedArgs : MergePrArgs :=
  ⟨js "o", js "r", 7, List.replicate 40 0x30, js "main", none⟩

def ungrantedRequest : Bytes :=
  encode (LineReader.lineOf (BrokerRequest.merge .null ungrantedArgs).wire)

/-- The connection it came over, refused. -/
def ungrantedConnection : Connection :=
  (sampleBroker.receive .empty .fresh ungrantedRequest 0 .written .written).2

/-- What the client's socket has. -/
def ungrantedEvents : List SocketEvent :=
  [.connect, .data (WireResponse.written ungrantedConnection.answer)]

/-- A client without a secret. -/
def sampleClient : BrokerMergeClient :=
  ⟨js "s", 1, id⟩

theorem ungranted_linked :
    Linked sampleClient ungrantedArgs .null ungrantedEvents (presentedRun sampleBroker ungrantedRequest 0) 0
      ungrantedConnection := by
  constructor
  · have hsent : (sampleClient.exchange ungrantedEvents).sent = true := by decide +kernel
    rw [if_pos hsent]
    exact ⟨[], by rw [List.append_nil]; exact List.append_nil _⟩
  · exact ⟨[], by rw [List.append_nil]; exact List.append_nil _⟩

/-- A request whose grant is `null` is refused, and its client says that nothing was performed. -/
theorem not_performed_true_sample :
    sampleClient.mergePullRequest ungrantedArgs (some .null) ungrantedEvents =
        some (.error (.connector ⟨js "grant rejected: grant is not an object", .notPerformed⟩)) ∧
      ((∀ e ∈ presentedRun sampleBroker ungrantedRequest 0, ∀ task put, ¬ e.Sends 0 task put) ∨
        ∃ f ∈ presentedRun sampleBroker ungrantedRequest 0, ∃ jti, f.Rejects 0 jti) := by
  have hresult : sampleClient.mergePullRequest ungrantedArgs (some .null) ungrantedEvents =
      some (.error (.connector ⟨js "grant rejected: grant is not an object", .notPerformed⟩)) := by
    decide +kernel
  exact ⟨hresult, not_performed_true (presentedRun_exec sampleBroker ungrantedRequest 0) rfl sampleClient ungrantedArgs
    .null ungrantedEvents ungranted_linked hresult rfl⟩

end OwnerSwitch
