/-
Module: OwnerSwitch.Executor.BrokerFraming
Layer: Executor
Purpose: What the two ends of the merge broker's socket read of each other. Each end takes the first line of what it
  receives, decoding chunk by chunk, and neither reads the value that was written where a chunk ends inside a character.
Imports: Executor.BrokerClient, Executor.MergeBrokerRuns
Trusted boundary: none
Main exports: MergeBroker.requests, requests_iff, exchange_iff, framing_iff
Open obligations: none
-/
import OwnerSwitch.Executor.BrokerClient
import OwnerSwitch.Executor.MergeBrokerRuns

namespace OwnerSwitch

open Utf8

/-! ### The broker's end -/

/-- A chunk that arrives at the broker, with the time it does and what becomes of a burn and of a write then. -/
structure Arrival where
  chunk : Bytes
  now : Int
  burn : LedgerWrite
  write : LedgerWrite

namespace MergeBroker

variable (b : MergeBroker)

/-- The requests a connection takes up while some chunks arrive, as `JSON.parse` reads their lines. -/
def requests (records : JsMap JsString Json) (c : Connection) : List Arrival → List (Option Json)
  | [] => []
  | a :: arrivals =>
      ((c.line? a.chunk).map Json.parse).toList
        ++ requests (b.receive records c a.chunk a.now a.burn a.write).1
          (b.receive records c a.chunk a.now a.burn a.write).2 arrivals

end MergeBroker

/-- The reader a connection is. -/
def Connection.reader (c : Connection) : LineReader :=
  ⟨c.buffer, c.done || c.started⟩

section Broker

variable {b : MergeBroker} {records : JsMap JsString Json} {c : Connection} {now : Int} {burn write : LedgerWrite}

/-- The line a chunk completes is the one the reader gives. -/
theorem line?_eq (chunk : Bytes) :
    c.line? chunk = ((c.reader.data maxRequestBytes chunk).2).bind LineEvent.line? := by
  unfold Connection.line? LineReader.data Connection.reader LineReader.lineBreak
  dsimp only
  split
  · rfl
  · split
    · rfl
    · split
      · rfl
      · rfl

@[simp] theorem finish_buffer (response : WireResponse) : (b.finish c response).buffer = c.buffer := by
  unfold MergeBroker.finish
  split <;> rfl

@[simp] theorem finish_started (response : WireResponse) : (b.finish c response).started = c.started := by
  unfold MergeBroker.finish
  split <;> rfl

theorem finish_done (response : WireResponse) : (b.finish c response).done = true := by
  unfold MergeBroker.finish
  split
  · assumption
  · rfl

theorem progress_buffer (progress : Progress) : (b.progress c progress).buffer = c.buffer := by
  cases progress with
  | suspended task => rfl
  | answered response => exact finish_buffer response
  | thrown error => exact finish_buffer _

theorem progress_started (progress : Progress) : (b.progress c progress).started = c.started := by
  cases progress with
  | suspended task => rfl
  | answered response => exact finish_started response
  | thrown error => exact finish_started _

/-- Launching a request leaves what the connection has read. -/
theorem launch_reader (line : JsString) :
    (b.launch records c line now burn write).2.buffer = c.buffer ∧
      (b.launch records c line now burn write).2.started = c.started := by
  unfold MergeBroker.launch
  split
  · exact ⟨progress_buffer _, progress_started _⟩
  · dsimp only
    split_ifs
    · exact ⟨progress_buffer _, progress_started _⟩
    · exact ⟨progress_buffer _, progress_started _⟩
    · exact ⟨progress_buffer _, progress_started _⟩
    · exact ⟨finish_buffer _, finish_started _⟩

/-- A chunk that arrives moves the reader. -/
theorem receive_reader (chunk : Bytes) :
    (b.receive records c chunk now burn write).2.reader = (c.reader.data maxRequestBytes chunk).1 := by
  unfold MergeBroker.receive LineReader.data
  by_cases hclosed : c.done || c.started
  · rw [if_pos hclosed, if_pos (show c.reader.closed = true from hclosed)]
  · rw [if_neg hclosed, if_neg (show ¬ c.reader.closed = true from hclosed)]
    dsimp only
    by_cases hlarge : maxRequestBytes < (c.buffer ++ decode chunk).length
    · rw [if_pos hlarge, if_pos (show maxRequestBytes < (c.reader.buffer ++ decode chunk).length from hlarge)]
      unfold Connection.reader
      rw [finish_buffer, finish_done, Bool.true_or]
    · rw [if_neg hlarge, if_neg (show ¬ maxRequestBytes < (c.reader.buffer ++ decode chunk).length from hlarge)]
      by_cases hline : (c.buffer ++ decode chunk).contains 0x0A
      · rw [if_pos hline,
          if_pos (show (c.reader.buffer ++ decode chunk).contains LineReader.lineBreak = true from hline)]
        unfold Connection.reader
        rw [(launch_reader _).1, (launch_reader _).2, Bool.or_true]
      · rw [if_neg hline,
          if_neg (show ¬ (c.reader.buffer ++ decode chunk).contains LineReader.lineBreak = true from hline)]
        unfold Connection.reader
        rw [Bool.not_eq_true] at hclosed
        rw [hclosed]

/-- The requests of a connection are the lines its reader gives. -/
theorem requests_eq (arrivals : List Arrival) : b.requests records c arrivals =
    ((c.reader.events maxRequestBytes (arrivals.map Arrival.chunk)).filterMap LineEvent.line?).map Json.parse := by
  induction arrivals generalizing records c with
  | nil => rfl
  | cons a arrivals ih =>
      rw [MergeBroker.requests, ih, List.map_cons, LineReader.events, List.filterMap_append, List.map_append, line?_eq,
        receive_reader]
      cases (c.reader.data maxRequestBytes a.chunk).2 with
      | none => rfl
      | some e => cases e <;> rfl

end Broker

/-! ### The client's end -/

namespace Exchange

variable {x : Exchange}

/-- The reader an exchange is. -/
def reader (x : Exchange) : LineReader :=
  ⟨x.buffer, x.settled.isSome⟩

/-- How an exchange is settled by what its reader ends in. -/
def ended (x : Exchange) : LineEvent → Except BrokerTransportError Json
  | .oversize => .error ⟨js "the merge broker's response exceeded the size bound", x.sent⟩
  | .line line => x.answered line

/-- A settled exchange takes in nothing more. -/
theorem receive_settled (h : x.settled.isSome = true) (chunk : Bytes) : x.receive chunk = x := by
  rw [receive, if_pos h]

/-- A chunk that arrives moves the reader, and what the reader gives settles the exchange. -/
theorem receive_reader (h : x.settled = none) (chunk : Bytes) :
    (x.receive chunk).reader = (x.reader.data maxResponseBytes chunk).1 ∧ (x.receive chunk).sent = x.sent ∧
      (x.receive chunk).settled = (x.reader.data maxResponseBytes chunk).2.map x.ended := by
  have hopen : ¬ x.settled.isSome = true := by rw [h]; exact Bool.false_ne_true
  have hreader : ¬ x.reader.closed = true := hopen
  unfold receive LineReader.data
  rw [if_neg hopen, if_neg hreader]
  dsimp only
  by_cases hlarge : maxResponseBytes < (x.buffer ++ decode chunk).length
  · rw [if_pos hlarge, if_pos (show maxResponseBytes < (x.reader.buffer ++ decode chunk).length from hlarge), fail,
      if_neg hopen]
    exact ⟨rfl, rfl, rfl⟩
  · rw [if_neg hlarge, if_neg (show ¬ maxResponseBytes < (x.reader.buffer ++ decode chunk).length from hlarge)]
    by_cases hline : (x.buffer ++ decode chunk).contains 0x0A
    · rw [if_pos hline, if_pos (show (x.reader.buffer ++ decode chunk).contains LineReader.lineBreak = true from hline)]
      exact ⟨rfl, rfl, rfl⟩
    · rw [if_neg hline,
        if_neg (show ¬ (x.reader.buffer ++ decode chunk).contains LineReader.lineBreak = true from hline)]
      refine ⟨?_, rfl, h⟩
      rw [reader, h]
      rfl

/-- Once settled, an exchange stays as it is. -/
theorem foldl_receive_settled (h : x.settled.isSome = true) (chunks : List Bytes) : chunks.foldl receive x = x := by
  induction chunks with
  | nil => rfl
  | cons chunk chunks ih => rw [List.foldl_cons, receive_settled h, ih]

/-- The first thing the reader gives settles the exchange. -/
theorem foldl_receive (h : x.settled = none) (chunks : List Bytes) :
    (chunks.foldl receive x).settled = (x.reader.events maxResponseBytes chunks).head?.map x.ended := by
  induction chunks generalizing x with
  | nil => exact h
  | cons chunk chunks ih =>
      obtain ⟨hreader, hsent, hsettled⟩ := receive_reader h chunk
      rw [List.foldl_cons, LineReader.events]
      cases hevent : (x.reader.data maxResponseBytes chunk).2 with
      | none =>
          rw [hevent] at hsettled
          have hended : (x.receive chunk).ended = x.ended := by
            funext e
            cases e <;> simp only [ended, answered, hsent]
          rw [ih hsettled, hreader, hended]
          rfl
      | some e =>
          rw [hevent] at hsettled
          have hclosed : (x.receive chunk).settled.isSome = true := by rw [hsettled]; rfl
          rw [foldl_receive_settled hclosed, hsettled]
          rfl

/-- A line settles an exchange with a value that has properties exactly where it is that value's. -/
theorem answered_ok_iff {line k : JsString} {y : Json} {fs : List (JsString × Json)} :
    x.answered line = .ok (.obj ((k, y) :: fs)) ↔ Json.parse line = some (.obj ((k, y) :: fs)) := by
  unfold answered
  split
  · rename_i hparse
    rw [hparse]
    exact iff_of_false nofun nofun
  · rename_i hparse
    rw [hparse]
    exact iff_of_false (fun h => by cases h) (fun h => by cases h)
  · rename_i value _ hparse
    rw [hparse]
    constructor
    · intro h
      cases h
      rfl
    · intro h
      cases h
      rfl

end Exchange

/-- A response is written as an object that is not empty. -/
theorem WireResponse.exists_wire (response : WireResponse) : ∃ k y fs, response.wire = .obj ((k, y) :: fs) := by
  cases response with
  | pinned headSha baseRef => exact ⟨_, _, _, rfl⟩
  | merged isMerged sha message => exact ⟨_, _, _, rfl⟩
  | record fields => exact ⟨_, _, _, rfl⟩
  | refused error => exact ⟨_, _, _, rfl⟩
  | connector outcome error => exact ⟨_, _, _, rfl⟩

/-- A connected exchange over which nothing but chunks comes. -/
theorem exchange_chunks (c : BrokerMergeClient) (chunks : List Bytes) :
    c.exchange (.connect :: chunks.map .data) = chunks.foldl Exchange.receive ⟨[], true, none⟩ := by
  rw [BrokerMergeClient.exchange, List.foldl_cons, List.foldl_map]
  rfl

/-! ### What the ends read of each other -/

theorem normal_mergeArgs (args : MergePrArgs) : args.wire.Normal := by
  apply Json.normal_present (K := [js "owner", js "repo", js "pullNumber", js "expectedHeadSha", js "expectedBaseRef",
    js "mergeMethod"]) rfl (by decide +kernel) (by decide +kernel)
  intro f hf v hv
  simp only [List.mem_cons, List.not_mem_nil, or_false] at hf
  rcases hf with rfl | rfl | rfl | rfl | rfl | rfl
  · cases hv
    exact .str
  · cases hv
    exact .str
  · cases hv
    exact .num
  · cases hv
    exact .str
  · cases hv
    exact .str
  · obtain ⟨method, -, rfl⟩ := Option.map_eq_some_iff.mp hv
    exact .str

/-- The value of a request is enumerated as it stands where its grant is. -/
theorem normal_request {request : BrokerRequest} (h : ∀ grant args, request = .merge grant args → grant.Normal) :
    request.wire.Normal := by
  cases request with
  | pinHead owner repo pullNumber =>
      apply Json.normal_obj (K := [js "op", js "args"]) rfl (by decide +kernel) (by decide +kernel)
      intro f hf
      simp only [List.mem_cons, List.not_mem_nil, or_false] at hf
      rcases hf with rfl | rfl
      · exact .str
      · apply Json.normal_obj (K := [js "owner", js "repo", js "pullNumber"]) rfl (by decide +kernel) (by decide +kernel)
        intro f hf
        simp only [List.mem_cons, List.not_mem_nil, or_false] at hf
        rcases hf with rfl | rfl | rfl
        · exact .str
        · exact .str
        · exact .num
  | merge grant args =>
      apply Json.normal_obj (K := [js "op", js "grant", js "args"]) rfl (by decide +kernel) (by decide +kernel)
      intro f hf
      simp only [List.mem_cons, List.not_mem_nil, or_false] at hf
      rcases hf with rfl | rfl | rfl
      · exact .str
      · exact h grant args rfl
      · exact normal_mergeArgs args

/-- The value of an answer is enumerated as it stands where the record in it is. -/
theorem normal_response {response : WireResponse} (h : ∀ fields, response = .record fields → fields.Normal) :
    response.wire.Normal := by
  cases response with
  | pinned headSha baseRef =>
      apply Json.normal_obj (K := [js "ok", js "headSha", js "baseRef"]) rfl (by decide +kernel) (by decide +kernel)
      intro f hf
      simp only [List.mem_cons, List.not_mem_nil, or_false] at hf
      rcases hf with rfl | rfl | rfl
      · exact .bool
      · exact .str
      · exact .str
  | merged isMerged sha message =>
      apply Json.normal_obj (K := [js "ok", js "merged", js "sha", js "message"]) rfl (by decide +kernel) (by decide +kernel)
      intro f hf
      simp only [List.mem_cons, List.not_mem_nil, or_false] at hf
      rcases hf with rfl | rfl | rfl | rfl
      · exact .bool
      · exact .bool
      · exact .str
      · exact .str
  | record fields =>
      apply Json.normal_obj (K := [js "ok", js "record"]) rfl (by decide +kernel) (by decide +kernel)
      intro f hf
      simp only [List.mem_cons, List.not_mem_nil, or_false] at hf
      rcases hf with rfl | rfl
      · exact .bool
      · exact h fields rfl
  | refused error =>
      apply Json.normal_obj (K := [js "ok", js "kind", js "error"]) rfl (by decide +kernel) (by decide +kernel)
      intro f hf
      simp only [List.mem_cons, List.not_mem_nil, or_false] at hf
      rcases hf with rfl | rfl | rfl
      · exact .bool
      · exact .str
      · exact .str
  | connector outcome error =>
      apply Json.normal_obj (K := [js "ok", js "kind", js "outcome", js "error"]) rfl (by decide +kernel) (by decide +kernel)
      intro f hf
      simp only [List.mem_cons, List.not_mem_nil, or_false] at hf
      rcases hf with rfl | rfl | rfl | rfl
      · exact .bool
      · exact .str
      · exact .str
      · exact .str

/-- The broker takes a request from its chunks exactly where they are decoded as the whole would be. -/
theorem requests_iff (b : MergeBroker) (records : JsMap JsString Json) {request : BrokerRequest}
    {arrivals : List Arrival} (hnormal : request.wire.Normal)
    (hsent : (arrivals.map Arrival.chunk).flatten = encode (LineReader.lineOf request.wire)) :
    b.requests records .fresh arrivals = [some request.wire] ↔
      (LineReader.lineOf request.wire).length ≤ maxRequestBytes ∧ ∀ a ∈ arrivals, Whole a.chunk := by
  have hread := LineReader.events_value_iff maxRequestBytes hnormal hsent
  obtain ⟨e, hevents⟩ := LineReader.events_singleton maxRequestBytes hsent
  have hstream : (∀ chunk ∈ arrivals.map Arrival.chunk, Whole chunk) ↔ ∀ a ∈ arrivals, Whole a.chunk :=
    List.forall_mem_map
  rw [hstream, hevents] at hread
  have hfresh : Connection.fresh.reader = LineReader.fresh := rfl
  rw [requests_eq, hfresh, hevents, ← hread]
  cases e with
  | oversize => exact iff_of_false nofun (fun h => by cases h)
  | line text => exact Iff.rfl

/-- The client takes a response from its chunks exactly where they are decoded as the whole would be. -/
theorem exchange_iff (c : BrokerMergeClient) {response : WireResponse} {chunks : List Bytes}
    (hnormal : response.wire.Normal) (hwritten : chunks.flatten = encode (LineReader.lineOf response.wire)) :
    (c.exchange (.connect :: chunks.map .data)).settled = some (.ok response.wire) ↔
      (LineReader.lineOf response.wire).length ≤ maxResponseBytes ∧ ∀ chunk ∈ chunks, Whole chunk := by
  have hread := LineReader.events_value_iff maxResponseBytes hnormal hwritten
  obtain ⟨e, hevents⟩ := LineReader.events_singleton maxResponseBytes hwritten
  obtain ⟨k, y, fs, hwire⟩ := response.exists_wire
  rw [hevents] at hread
  have hfresh : (Exchange.mk [] true none).reader = LineReader.fresh := rfl
  rw [exchange_chunks, Exchange.foldl_receive rfl, hfresh, hevents, ← hread, hwire]
  cases e with
  | oversize => exact iff_of_false (fun h => by cases h) (fun h => by cases h)
  | line text =>
      simp only [List.head?_cons, Option.map_some, Exchange.ended, Option.some.injEq, Exchange.answered_ok_iff,
        List.map_cons, List.map_nil, List.cons.injEq, and_true, LineEvent.value, LineEvent.line?, Option.bind_some]

/-- A request is taken up once, as the value that was sent, exactly where its line fits and no chunk begins or ends inside
    a character; and so is an answer. -/
theorem framing_iff (b : MergeBroker) (records : JsMap JsString Json) (request : BrokerRequest)
    (arrivals : List Arrival) (hgrant : ∀ grant args, request = .merge grant args → grant.Normal)
    (hsent : (arrivals.map Arrival.chunk).flatten = encode (LineReader.lineOf request.wire))
    (c : BrokerMergeClient) (response : WireResponse) (chunks : List Bytes)
    (hrecord : ∀ fields, response = .record fields → fields.Normal)
    (hwritten : chunks.flatten = encode (LineReader.lineOf response.wire)) :
    (b.requests records .fresh arrivals = [some request.wire] ↔
      (LineReader.lineOf request.wire).length ≤ maxRequestBytes ∧ ∀ a ∈ arrivals, Whole a.chunk) ∧
    ((c.exchange (.connect :: chunks.map .data)).settled = some (.ok response.wire) ↔
      (LineReader.lineOf response.wire).length ≤ maxResponseBytes ∧ ∀ chunk ∈ chunks, Whole chunk) :=
  ⟨requests_iff b records (normal_request hgrant) hsent, exchange_iff c (normal_response hrecord) hwritten⟩

/-- A chunk that ends inside a character does not hold whole ones. -/
theorem not_whole_of_decode {chunk : Bytes} (h : encode (decode chunk) ≠ chunk) : ¬ Whole chunk := by
  rintro ⟨t, ht, rfl⟩
  rw [decode_encode ht] at h
  exact h rfl

/-- A request whose owner is one character of two octets. -/
def splitRequest : BrokerRequest :=
  .pinHead (js "é") (js "r") 1

theorem splitRequest_grant : ∀ grant args, splitRequest = .merge grant args → grant.Normal := by
  intro grant args h
  cases h

/-- Its line in one piece. -/
def wholeArrivals : List Arrival :=
  [⟨encode (LineReader.lineOf splitRequest.wire), 0, .written, .written⟩]

/-- An answer with such a character. -/
def sampleRefusal : WireResponse :=
  .refused (js "é")

theorem sampleRefusal_record : ∀ fields, sampleRefusal = .record fields → fields.Normal := by
  intro fields h
  cases h

/-- A request with one character of two octets, and an answer with another, each over the socket in one piece. -/
theorem framing_iff_sample :
    (∀ (b : MergeBroker) (records : JsMap JsString Json),
      b.requests records .fresh wholeArrivals = [some splitRequest.wire]) ∧
    ∀ c : BrokerMergeClient,
      (c.exchange [.connect, .data (encode (LineReader.lineOf sampleRefusal.wire))]).settled
        = some (.ok sampleRefusal.wire) := by
  have hlaw := fun b records c =>
    framing_iff b records splitRequest wholeArrivals splitRequest_grant (List.append_nil _) c sampleRefusal
    [encode (LineReader.lineOf sampleRefusal.wire)] sampleRefusal_record (List.append_nil _)
  have hwhole : ∀ v : Json, Whole (encode (LineReader.lineOf v)) := fun v => ⟨_, LineReader.wellFormed_lineOf v, rfl⟩
  constructor
  · intro b records
    refine (hlaw b records ⟨[], 0, id⟩).1.mpr ⟨by decide +kernel, fun a ha => ?_⟩
    obtain rfl := List.mem_singleton.mp ha
    exact hwhole _
  · intro c
    refine (hlaw sampleBroker .empty c).2.mpr ⟨by decide +kernel, fun chunk hchunk => ?_⟩
    obtain rfl := List.mem_singleton.mp hchunk
    exact hwhole _

/-- Its line, cut between the two. -/
def splitArrivals : List Arrival :=
  [⟨(encode (LineReader.lineOf splitRequest.wire)).take 35, 0, .written, .written⟩,
    ⟨(encode (LineReader.lineOf splitRequest.wire)).drop 35, 0, .written, .written⟩]

theorem splitArrivals_sent :
    (splitArrivals.map Arrival.chunk).flatten = encode (LineReader.lineOf splitRequest.wire) := by
  simp only [splitArrivals, List.map_cons, List.map_nil, List.flatten_cons, List.flatten_nil, List.append_nil,
    List.take_append_drop]

/-- A short request that is cut inside a character is not the one the broker takes up. -/
theorem split_request_misread :
    (LineReader.lineOf splitRequest.wire).length ≤ maxRequestBytes ∧
      (splitArrivals.map Arrival.chunk).flatten = encode (LineReader.lineOf splitRequest.wire) ∧
      ∀ (b : MergeBroker) (records : JsMap JsString Json),
        b.requests records .fresh splitArrivals ≠ [some splitRequest.wire] := by
  refine ⟨by decide +kernel, splitArrivals_sent, fun b records htaken => ?_⟩
  have hwhole := ((requests_iff b records (normal_request splitRequest_grant) splitArrivals_sent).mp htaken).2
  refine not_whole_of_decode ?_ (hwhole _ (List.mem_cons_self ..))
  decide +kernel

end OwnerSwitch
