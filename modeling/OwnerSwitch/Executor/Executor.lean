/-
Module: OwnerSwitch.Executor.Executor
Layer: Executor
Purpose: The executor's front door: a ticket is refused or handed to the backend after two live reads of the
  kill state, with the nonce burned between them. Each `run` is a coroutine that awaits a read, a second read
  and the backend; the set of burned nonces is shared by all of them.
Imports: Lib.JsonText, Lib.Lts
Trusted boundary: the clock, the answers of the control plane, the backend
Main exports: ActionTicket, LiveKillState, refuseTicket, Executor, ExecutorStep, executorRuns
Open obligations: none
-/
import OwnerSwitch.Lib.JsonText
import OwnerSwitch.Lib.Lts

namespace OwnerSwitch

/-! ### Tickets and live answers -/

/-- What crosses from decided to executed; the fields the executor reads, and those a backend performs. -/
structure ActionTicket where
  agentId : JsString
  connector : JsString
  operation : JsString
  canonicalArgs : JsString
  resourceId : JsString
  killEpoch : Int
  expiresAt : Int
  nonce : JsString
  deriving DecidableEq

/-- Live answer from the control plane; `grantLive` and `committed` answer the probes of a broker. -/
structure LiveKillState where
  killed : Bool
  epoch : Int
  killedAgents : Option (List JsString)
  grantLive : Option Bool
  committed : Option Bool
  deriving DecidableEq

inductive RefusalCode where
  | killEngaged | epochMismatch | ticketExpired | nonceConsumed
  deriving DecidableEq, Repr

structure Refusal where
  code : RefusalCode
  reason : JsString
  deriving DecidableEq

/-- The refusal core: `none` when the ticket may execute. -/
def refuseTicket (ticket : ActionTicket) (live : LiveKillState) (now : Int) (consumedNonces : List JsString) :
    Option Refusal :=
  if live.killed then some ⟨.killEngaged, js "kill switch engaged — nothing executes"⟩
  else if live.killedAgents.any fun agents => agents.contains ticket.agentId then
    some ⟨.killEngaged,
      js "agent \"" ++ ticket.agentId ++ js "\" is scope-killed — its tickets do not execute"⟩
  else if ticket.killEpoch ≠ live.epoch then
    some ⟨.epochMismatch,
      js "ticket minted in kill epoch " ++ Json.numText (.ofInt ticket.killEpoch) ++ js ", current epoch is " ++
        Json.numText (.ofInt live.epoch) ++ js " — a kill happened in between; approvals do not survive it"⟩
  else if now ≥ ticket.expiresAt then
    some ⟨.ticketExpired, js "ticket expired — a yes is not a standing grant"⟩
  else if consumedNonces.contains ticket.nonce then
    some ⟨.nonceConsumed, js "ticket already used — tickets are single-use"⟩
  else none

/-- What the two checks of a run have in common: the answer is of the ticket's own world. -/
structure LiveKillState.Admits (live : LiveKillState) (ticket : ActionTicket) : Prop where
  alive : live.killed = false
  unscoped : ∀ agents, live.killedAgents = some agents → ticket.agentId ∉ agents
  epoch : live.epoch = ticket.killEpoch

theorem refuseTicket_eq_none {ticket : ActionTicket} {live : LiveKillState} {now : Int} {nonces : List JsString} :
    refuseTicket ticket live now nonces = none ↔
      live.Admits ticket ∧ now < ticket.expiresAt ∧ ticket.nonce ∉ nonces := by
  unfold refuseTicket
  constructor
  · intro h
    split_ifs at h with hkilled hscoped hepoch hexpired hnonce
    refine ⟨⟨by simpa using hkilled, ?_, (not_not.mp hepoch).symm⟩, not_le.mp hexpired, by simpa using hnonce⟩
    intro agents hagents hmem
    rw [hagents] at hscoped
    exact hscoped (by simpa using hmem)
  · rintro ⟨⟨halive, hunscoped, hepoch⟩, hexpired, hnonce⟩
    have hscoped : ¬ (live.killedAgents.any fun agents => agents.contains ticket.agentId) = true := by
      intro h
      obtain ⟨agents, hagents, hmem⟩ := (Option.any_eq_true _ _).mp h
      exact hunscoped agents hagents (by simpa using hmem)
    rw [if_neg (by simp [halive]), if_neg hscoped, if_neg (not_not.mpr hepoch.symm), if_neg (not_le.mpr hexpired),
      if_neg (by simpa using hnonce)]

/-! ### Runs of the executor -/

/-- What a connector reports. -/
structure ExecutionResult where
  resourceId : JsString
  detail : Json

inductive ExecutionOutcome where
  | executed (result : ExecutionResult)
  | refused (refusal : Refusal)
  /-- the backend threw, and `run` rejects -/
  | rejected

/-- Where a call of `run` stands. -/
inductive RunState where
  /-- it awaits the first live read -/
  | reading
  /-- its nonce is burned, and it awaits the second -/
  | rechecking
  /-- the backend executes -/
  | executing
  | settled (outcome : ExecutionOutcome)

structure ExecutorRun where
  ticket : ActionTicket
  grant : Option Json
  state : RunState

/-- `consumedNonces`, and the coroutines of all calls of `run`. -/
structure Executor where
  consumedNonces : List JsString
  runs : List ExecutorRun

inductive ExecutorStep where
  /-- `run` is called -/
  | run (ticket : ActionTicket) (grant : Option Json)
  /-- a live read of a run answers, or fails; `now` is the clock at the check that follows -/
  | answered (index : Nat) (live : Option LiveKillState) (now : Int)
  /-- the backend answers, or throws -/
  | performed (index : Nat) (result : Option ExecutionResult)

/-- An unreadable control plane never reads as go. -/
def fetchLive : Option LiveKillState → LiveKillState
  | some live => live
  | none => ⟨true, -1, none, none, none⟩

namespace Executor

/-- What a run makes of a live answer: the second check ignores burned nonces, since this run burned its own. -/
def resume (s : Executor) (r : ExecutorRun) (live : Option LiveKillState) (now : Int) : Executor × RunState :=
  match r.state with
  | .reading =>
      match refuseTicket r.ticket (fetchLive live) now s.consumedNonces with
      | some refusal => (s, .settled (.refused refusal))
      | none => ({ s with consumedNonces := s.consumedNonces ++ [r.ticket.nonce] }, .rechecking)
  | .rechecking =>
      match refuseTicket r.ticket (fetchLive live) now [] with
      | some refusal => (s, .settled (.refused refusal))
      | none => (s, .executing)
  | state => (s, state)

/-- A run moves on. -/
def move (s : Executor) (index : Nat) (r : ExecutorRun) (state : RunState) : Executor :=
  { s with runs := s.runs.set index { r with state := state } }

end Executor

/-- Any order of calls, answers and failures. -/
def executorRuns : Lts Executor ExecutorStep where
  init s := s = ⟨[], []⟩
  next s step s' :=
    match step with
    | .run ticket grant => s' = { s with runs := s.runs ++ [⟨ticket, grant, .reading⟩] }
    | .answered index live now =>
        ∃ r, s.runs[index]? = some r ∧ (r.state = .reading ∨ r.state = .rechecking) ∧
          s' = (s.resume r live now).1.move index r (s.resume r live now).2
    | .performed index result =>
        ∃ r, s.runs[index]? = some r ∧ r.state = .executing ∧
          s' = s.move index r (.settled (result.elim .rejected .executed))

end OwnerSwitch
