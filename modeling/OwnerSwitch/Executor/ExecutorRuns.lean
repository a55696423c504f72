/-
Module: OwnerSwitch.Executor.ExecutorRuns
Layer: Executor
Purpose: A ticket runs at most once and only in its own world, over any interleaving of calls on one executor.
  Two runs between their checks never hold one nonce (`Exclusive`), and a nonce the backend was called with
  stays burned (`Spent`).
Imports: Executor
Trusted boundary: the clock, the answers of the control plane, the backend
Main exports: ExecutorEdge.Executes, RunsOnce, runs_once
Open obligations: none
-/
import OwnerSwitch.Executor.Executor

namespace OwnerSwitch

abbrev ExecutorEdge := Lts.Edge Executor ExecutorStep

namespace ExecutorEdge

/-- The step calls the backend for the ticket of a run. -/
structure Executes (x : ExecutorEdge) (index : Nat) (ticket : ActionTicket) : Prop where
  run : ∃ r, x.src.runs[index]? = some r ∧ r.ticket = ticket ∧ r.state = .rechecking
  answered : ∃ live now, x.label = .answered index live now
  called : ∃ r, x.dst.runs[index]? = some r ∧ r.state = .executing

/-- The step is a live read of a run that succeeded, and what it says is the ticket's own world. -/
def Admitted (x : ExecutorEdge) (index : Nat) (ticket : ActionTicket) (state : RunState) : Prop :=
  ∃ live now r, x.label = .answered index (some live) now ∧ x.src.runs[index]? = some r ∧ r.ticket = ticket ∧
    r.state = state ∧ live.Admits ticket ∧ now < ticket.expiresAt

/-- The step is a live read of a run that failed. -/
def ReadFails (x : ExecutorEdge) (index : Nat) : Prop :=
  ∃ now, x.label = .answered index none now

/-- The step leaves the run refused. -/
def Refuses (x : ExecutorEdge) (index : Nat) (code : RefusalCode) : Prop :=
  ∃ r refusal, x.dst.runs[index]? = some r ∧ r.state = .settled (.refused refusal) ∧ refusal.code = code

end ExecutorEdge

/-- A ticket runs at most once, and only in its own world. -/
structure RunsOnce (es : List ExecutorEdge) : Prop where
  once : ∀ e f i j ticket ticket', Lts.Precedes es e f → ExecutorEdge.Executes e i ticket →
    ExecutorEdge.Executes f j ticket' → ticket'.nonce ≠ ticket.nonce
  /-- both live reads of the run succeeded, in the ticket's world and before it expired -/
  admitted : ∀ pre f post index ticket, es = pre ++ f :: post → ExecutorEdge.Executes f index ticket →
    (∃ e ∈ pre, ExecutorEdge.Admitted e index ticket .reading) ∧ ExecutorEdge.Admitted f index ticket .rechecking
  /-- a failed read refuses, and the run never calls the backend -/
  failed : ∀ e ∈ es, ∀ index, e.ReadFails index → e.Refuses index .killEngaged ∧
    ∀ f ticket, Lts.Precedes es e f → ¬ ExecutorEdge.Executes f index ticket

/-! ### What a step does -/

section Steps

variable {s t : Executor} {op : ExecutorStep} {r r' : ExecutorRun} {live : Option LiveKillState} {now : Int}
  {index i j : Nat} {es : List ExecutorEdge} {nonce : JsString}

/-- What a run makes of a live answer. -/
inductive Resumes (s : Executor) (r : ExecutorRun) (live : Option LiveKillState) (now : Int) :
    Executor × RunState → Prop where
  | refused {refusal : Refusal} (code : live = none → refusal.code = .killEngaged) :
      Resumes s r live now (s, .settled (.refused refusal))
  | burns (state : r.state = .reading)
      (checked : refuseTicket r.ticket (fetchLive live) now s.consumedNonces = none) :
      Resumes s r live now ({ s with consumedNonces := s.consumedNonces ++ [r.ticket.nonce] }, .rechecking)
  | executes (state : r.state = .rechecking) (checked : refuseTicket r.ticket (fetchLive live) now [] = none) :
      Resumes s r live now (s, .executing)

/-- A failed read is an engaged kill switch. -/
theorem refuse_unread {ticket : ActionTicket} {nonces : List JsString} {refusal : Refusal}
    (h : refuseTicket ticket (fetchLive none) now nonces = some refusal) : refusal.code = .killEngaged := by
  unfold refuseTicket fetchLive at h
  rw [if_pos rfl] at h
  rw [← Option.some.inj h]

theorem resume_resumes (hstate : r.state = .reading ∨ r.state = .rechecking) :
    Resumes s r live now (s.resume r live now) := by
  unfold Executor.resume
  rcases hstate with hstate | hstate
  · rw [hstate]
    dsimp only
    cases hcheck : refuseTicket r.ticket (fetchLive live) now s.consumedNonces with
    | none => exact .burns hstate hcheck
    | some refusal =>
        apply Resumes.refused
        rintro rfl
        exact refuse_unread hcheck
  · rw [hstate]
    dsimp only
    cases hcheck : refuseTicket r.ticket (fetchLive live) now [] with
    | none => exact .executes hstate hcheck
    | some refusal =>
        apply Resumes.refused
        rintro rfl
        exact refuse_unread hcheck

/-- The run a step moves, and the runs it leaves alone. -/
theorem move_get? (s : Executor) (index : Nat) (r : ExecutorRun) (state : RunState) (i : Nat)
    (hget : (s.move index r state).runs[i]? = some r') :
    (i = index ∧ r' = { r with state := state }) ∨ (i ≠ index ∧ s.runs[i]? = some r') := by
  unfold Executor.move at hget
  dsimp only at hget
  rw [List.getElem?_set] at hget
  split_ifs at hget with hi hbound
  · exact .inl ⟨hi.symm, (Option.some.inj hget).symm⟩
  · exact .inr ⟨fun h => hi h.symm, hget⟩

theorem move_self {s : Executor} {index : Nat} {r₀ : ExecutorRun} (h : s.runs[index]? = some r₀) (r : ExecutorRun)
    (state : RunState) : (s.move index r state).runs[index]? = some { r with state := state } := by
  unfold Executor.move
  obtain ⟨hi, -⟩ := List.getElem?_eq_some_iff.mp h
  rw [List.getElem?_set, if_pos rfl, if_pos hi]

/-- What becomes of a run in one step: it is new, it stays, or the step is its own. -/
inductive RunMove (s : Executor) (op : ExecutorStep) (t : Executor) (i : Nat) (r' : ExecutorRun) : Prop where
  | fresh (state : r'.state = .reading)
  | kept (before : s.runs[i]? = some r')
  | refused {r : ExecutorRun} {refusal : Refusal} (before : s.runs[i]? = some r) (ticket : r'.ticket = r.ticket)
      (state : r'.state = .settled (.refused refusal))
  | burned {r : ExecutorRun} {live : Option LiveKillState} {now : Int} (label : op = .answered i live now)
      (before : s.runs[i]? = some r) (reading : r.state = .reading) (ticket : r'.ticket = r.ticket)
      (state : r'.state = .rechecking)
      (checked : refuseTicket r.ticket (fetchLive live) now s.consumedNonces = none)
      (burn : r.ticket.nonce ∈ t.consumedNonces)
  | executed {r : ExecutorRun} {live : Option LiveKillState} {now : Int} (label : op = .answered i live now)
      (before : s.runs[i]? = some r) (rechecking : r.state = .rechecking) (ticket : r'.ticket = r.ticket)
      (state : r'.state = .executing) (checked : refuseTicket r.ticket (fetchLive live) now [] = none)
  | performed {r : ExecutorRun} {outcome : ExecutionOutcome} (before : s.runs[i]? = some r)
      (executing : r.state = .executing) (ticket : r'.ticket = r.ticket) (state : r'.state = .settled outcome)

theorem next_runMove (h : executorRuns.next s op t) (hget : t.runs[i]? = some r') : RunMove s op t i r' := by
  cases op with
  | run ticket grant =>
      obtain rfl : t = _ := h
      dsimp only at hget
      rw [List.getElem?_append] at hget
      split at hget
      · exact .kept hget
      · obtain rfl := List.mem_singleton.mp (List.mem_of_getElem? hget)
        exact .fresh rfl
  | answered index live now =>
      obtain ⟨r, hr, hstate, rfl⟩ := h
      have hresumes : Resumes s r live now (s.resume r live now) := resume_resumes hstate
      generalize s.resume r live now = resumed at hresumes hget
      cases hresumes with
      | refused code =>
          rcases move_get? _ _ _ _ _ hget with ⟨rfl, rfl⟩ | ⟨-, hbefore⟩
          · exact .refused hr rfl rfl
          · exact .kept hbefore
      | burns state checked =>
          rcases move_get? _ _ _ _ _ hget with ⟨rfl, rfl⟩ | ⟨-, hbefore⟩
          · exact .burned rfl hr state rfl rfl checked (List.mem_append_right _ (List.mem_singleton_self _))
          · exact .kept hbefore
      | executes state checked =>
          rcases move_get? _ _ _ _ _ hget with ⟨rfl, rfl⟩ | ⟨-, hbefore⟩
          · exact .executed rfl hr state rfl rfl checked
          · exact .kept hbefore
  | performed index result =>
      obtain ⟨r, hr, hstate, rfl⟩ := h
      rcases move_get? _ _ _ _ _ hget with ⟨rfl, rfl⟩ | ⟨-, hbefore⟩
      · exact .performed hr hstate rfl rfl
      · exact .kept hbefore

theorem consumed_mono (h : executorRuns.next s op t) (hn : nonce ∈ s.consumedNonces) :
    nonce ∈ t.consumedNonces := by
  cases op with
  | run ticket grant =>
      obtain rfl : t = _ := h
      exact hn
  | answered index live now =>
      obtain ⟨r, -, hstate, rfl⟩ := h
      have hresumes : Resumes s r live now (s.resume r live now) := resume_resumes hstate
      generalize s.resume r live now = resumed at hresumes
      cases hresumes with
      | refused => exact hn
      | burns => exact List.mem_append_left _ hn
      | executes => exact hn
  | performed index result =>
      obtain ⟨r, -, -, rfl⟩ := h
      exact hn

/-- A settled run stays as it is. -/
theorem settled_stays {outcome : ExecutionOutcome} (h : executorRuns.next s op t) (hr : s.runs[i]? = some r)
    (hsettled : r.state = .settled outcome) : t.runs[i]? = some r := by
  have hother : ∀ {index : Nat} {r₁ : ExecutorRun} {state : RunState} {nonces : List JsString},
      s.runs[index]? = some r₁ → (∀ o, r₁.state ≠ .settled o) →
      (Executor.move ⟨nonces, s.runs⟩ index r₁ state).runs[i]? = some r := by
    intro index r₁ state nonces hr₁ hopen
    have hi : index ≠ i := by
      rintro rfl
      rw [hr] at hr₁
      obtain rfl := Option.some.inj hr₁
      exact hopen outcome hsettled
    unfold Executor.move
    rw [List.getElem?_set_ne hi]
    exact hr
  cases op with
  | run ticket grant =>
      obtain rfl : t = _ := h
      dsimp only
      rw [List.getElem?_append_left (List.getElem?_eq_some_iff.mp hr).1]
      exact hr
  | answered index live now =>
      obtain ⟨r₁, hr₁, hstate, rfl⟩ := h
      have hopen : ∀ o, r₁.state ≠ .settled o := by
        rintro o ho
        rcases hstate with hstate | hstate <;> rw [ho] at hstate <;> cases hstate
      have hresumes : Resumes s r₁ live now (s.resume r₁ live now) := resume_resumes hstate
      generalize s.resume r₁ live now = resumed at hresumes
      cases hresumes with
      | refused => exact hother hr₁ hopen
      | burns => exact hother hr₁ hopen
      | executes => exact hother hr₁ hopen
  | performed index result =>
      obtain ⟨r₁, hr₁, hstate, rfl⟩ := h
      exact hother hr₁ fun o ho => by rw [ho] at hstate; cases hstate

end Steps

/-! ### Nonces -/

section Nonces

variable {s t : Executor} {op : ExecutorStep} {nonce : JsString}

/-- A run between its checks has burned its nonce, and no other run between its checks holds it. -/
structure Exclusive (s : Executor) : Prop where
  burned : ∀ (i : Nat) r, s.runs[i]? = some r → r.state = .rechecking → r.ticket.nonce ∈ s.consumedNonces
  unique : ∀ (i j : Nat) r r', s.runs[i]? = some r → s.runs[j]? = some r' → r.state = .rechecking →
    r'.state = .rechecking → r'.ticket.nonce = r.ticket.nonce → i = j

/-- The nonce is burned, and no run that holds it is between its checks. -/
structure Spent (nonce : JsString) (s : Executor) : Prop where
  burned : nonce ∈ s.consumedNonces
  idle : ∀ (i : Nat) r, s.runs[i]? = some r → r.ticket.nonce = nonce → r.state ≠ .rechecking

/-- A run between its checks was so before the step, or the step is its first check. -/
theorem rechecking_cases (h : executorRuns.next s op t) {i : Nat} {r' : ExecutorRun} (hget : t.runs[i]? = some r')
    (hstate : r'.state = .rechecking) :
    s.runs[i]? = some r' ∨ (∃ live now, op = .answered i live now) ∧ r'.ticket.nonce ∉ s.consumedNonces ∧
      r'.ticket.nonce ∈ t.consumedNonces := by
  cases next_runMove h hget with
  | fresh state =>
      rw [state] at hstate
      cases hstate
  | kept before => exact .inl before
  | refused _ _ state =>
      rw [state] at hstate
      cases hstate
  | burned label before reading ticket state checked burn =>
      rw [ticket]
      exact .inr ⟨⟨_, _, label⟩, (refuseTicket_eq_none.mp checked).2.2, burn⟩
  | executed _ _ _ _ state =>
      rw [state] at hstate
      cases hstate
  | performed _ _ _ state =>
      rw [state] at hstate
      cases hstate

theorem exclusive_invariant : executorRuns.Invariant Exclusive where
  init := by
    rintro s rfl
    constructor
    · intro i r hget
      cases hget
    · intro i j r r' hget
      cases hget
  step := by
    intro s op t hs hnext
    constructor
    · intro i r hget hstate
      rcases rechecking_cases hnext hget hstate with hbefore | ⟨-, -, hburned⟩
      · exact consumed_mono hnext (hs.burned i r hbefore hstate)
      · exact hburned
    · intro i j r r' hget hget' hstate hstate' hsame
      rcases rechecking_cases hnext hget hstate with hbefore | ⟨⟨live, now, hlabel⟩, hfresh, -⟩
      · rcases rechecking_cases hnext hget' hstate' with hbefore' | ⟨-, hfresh', -⟩
        · exact hs.unique i j r r' hbefore hbefore' hstate hstate' hsame
        · rw [hsame] at hfresh'
          exact absurd (hs.burned i r hbefore hstate) hfresh'
      · rcases rechecking_cases hnext hget' hstate' with hbefore' | ⟨⟨live', now', hlabel'⟩, -, -⟩
        · rw [← hsame] at hfresh
          exact absurd (hs.burned j r' hbefore' hstate') hfresh
        · rw [hlabel] at hlabel'
          exact (ExecutorStep.answered.inj hlabel').1

theorem Spent.next (h : Spent nonce s) (hnext : executorRuns.next s op t) : Spent nonce t where
  burned := consumed_mono hnext h.burned
  idle := by
    intro i r hget hnonce hstate
    rcases rechecking_cases hnext hget hstate with hbefore | ⟨-, hfresh, -⟩
    · exact h.idle i r hbefore hnonce hstate
    · rw [hnonce] at hfresh
      exact hfresh h.burned

/-- A call of the backend leaves the nonce spent. -/
theorem ExecutorEdge.Executes.spent {x : ExecutorEdge} {index : Nat} {ticket : ActionTicket}
    (h : x.Executes index ticket) (hs : Exclusive x.src) (hnext : executorRuns.next x.src x.label x.dst) :
    Spent ticket.nonce x.dst := by
  obtain ⟨r, hget, rfl, hstate⟩ := h.run
  have hburned := hs.burned index r hget hstate
  refine ⟨consumed_mono hnext hburned, ?_⟩
  intro i r' hget' hnonce hstate'
  rcases rechecking_cases hnext hget' hstate' with hbefore | ⟨-, hfresh, -⟩
  · obtain rfl := hs.unique index i r r' hget hbefore hstate hstate' hnonce
    obtain ⟨r₁, hget₁, hexecuting⟩ := h.called
    rw [hget'] at hget₁
    obtain rfl := Option.some.inj hget₁
    rw [hstate'] at hexecuting
    cases hexecuting
  · rw [hnonce] at hfresh
    exact hfresh hburned

end Nonces

/-! ### Every interleaving -/

section Runs

variable {es : List ExecutorEdge} {t : Executor}

/-- A check that passed read an answer of the ticket's own world. -/
theorem passed_check {ticket : ActionTicket} {live : Option LiveKillState} {now : Int} {nonces : List JsString}
    (h : refuseTicket ticket (fetchLive live) now nonces = none) :
    ∃ answer, live = some answer ∧ answer.Admits ticket ∧ now < ticket.expiresAt := by
  obtain ⟨hadmits, hfresh, -⟩ := refuseTicket_eq_none.mp h
  cases live with
  | none => cases hadmits.alive
  | some answer => exact ⟨answer, rfl, hadmits, hfresh⟩

/-- A run between its checks passed the first of them. -/
theorem first_read (h : executorRuns.Exec es t) {index : Nat} {r : ExecutorRun} (hget : t.runs[index]? = some r)
    (hstate : r.state = .rechecking) : ∃ e ∈ es, ExecutorEdge.Admitted e index r.ticket .reading := by
  revert r
  refine h.induct (I := fun es t => ∀ {r : ExecutorRun}, t.runs[index]? = some r → r.state = .rechecking →
    ∃ e ∈ es, ExecutorEdge.Admitted e index r.ticket .reading) ?_ ?_
  · rintro s rfl r hget
    cases hget
  · intro es s op t _ ih hnext r hget hstate
    cases next_runMove hnext hget with
    | fresh state =>
        rw [state] at hstate
        cases hstate
    | kept before =>
        obtain ⟨e, he, hadmitted⟩ := ih before hstate
        exact ⟨e, List.mem_append_left _ he, hadmitted⟩
    | refused _ _ state =>
        rw [state] at hstate
        cases hstate
    | burned label before reading ticket state checked =>
        obtain ⟨answer, rfl, hadmits, hfresh⟩ := passed_check checked
        refine ⟨_, List.mem_append_right _ (List.mem_singleton_self _), ?_⟩
        rw [ticket]
        exact ⟨answer, _, _, label, before, rfl, reading, hadmits, hfresh⟩
    | executed _ _ _ _ state =>
        rw [state] at hstate
        cases hstate
    | performed _ _ _ state =>
        rw [state] at hstate
        cases hstate

/-- A call of the backend follows a second read that passed. -/
theorem ExecutorEdge.Executes.second_read {x : ExecutorEdge} {index : Nat} {ticket : ActionTicket}
    (h : x.Executes index ticket) (hnext : executorRuns.next x.src x.label x.dst) :
    x.Admitted index ticket .rechecking := by
  obtain ⟨r, hget, rfl, hstate⟩ := h.run
  obtain ⟨r', hget', hexecuting⟩ := h.called
  have hsame : ∀ {r₁ : ExecutorRun}, x.src.runs[index]? = some r₁ → r₁ = r := fun {r₁} hget₁ => by
    rw [hget] at hget₁
    exact (Option.some.inj hget₁).symm
  cases next_runMove hnext hget' with
  | fresh state =>
      rw [state] at hexecuting
      cases hexecuting
  | kept before =>
      rw [hsame before, hstate] at hexecuting
      cases hexecuting
  | refused _ _ state =>
      rw [state] at hexecuting
      cases hexecuting
  | burned _ _ _ _ state =>
      rw [state] at hexecuting
      cases hexecuting
  | executed label before rechecking ticket state checked =>
      obtain rfl := hsame before
      obtain ⟨answer, rfl, hadmits, hfresh⟩ := passed_check checked
      exact ⟨answer, _, _, label, before, rfl, rechecking, hadmits, hfresh⟩
  | performed _ _ _ state =>
      rw [state] at hexecuting
      cases hexecuting

/-- A failed read refuses its run. -/
theorem ExecutorEdge.ReadFails.refuses {x : ExecutorEdge} {index : Nat} (h : x.ReadFails index)
    (hnext : executorRuns.next x.src x.label x.dst) : x.Refuses index .killEngaged := by
  obtain ⟨now, hlabel⟩ := h
  rw [hlabel] at hnext
  obtain ⟨r, hget, hstate, hdst⟩ := hnext
  have hresumes : Resumes x.src r none now (x.src.resume r none now) := resume_resumes hstate
  rw [ExecutorEdge.Refuses, hdst]
  generalize x.src.resume r none now = resumed at hresumes
  cases hresumes with
  | refused code => exact ⟨_, _, move_self hget r _, rfl, code rfl⟩
  | burns _ checked =>
      obtain ⟨_, hnone, -⟩ := passed_check checked
      cases hnone
  | executes _ checked =>
      obtain ⟨_, hnone, -⟩ := passed_check checked
      cases hnone

/-- A ticket runs at most once and only in its own world, over any interleaving. -/
theorem runs_once (h : executorRuns.Exec es t) : RunsOnce es := by
  constructor
  · rintro e f i j ticket ticket' ⟨pre, mid, post, rfl⟩ he hf hsame
    obtain ⟨hpre, hnext, hpath⟩ := h.split
    have hspent := he.spent (hpre.invariant exclusive_invariant) hnext
    have hkept : Spent ticket.nonce f.src :=
      hpath.split.1.stable (fun _ _ _ hs hstep => hs.next hstep) hspent
    obtain ⟨r, hget, rfl, hstate⟩ := hf.run
    exact hkept.idle j r hget hsame hstate
  · rintro pre f post index ticket rfl hf
    obtain ⟨hpre, hnext, -⟩ := h.split
    obtain ⟨r, hget, rfl, hstate⟩ := id hf.run
    exact ⟨first_read hpre hget hstate, hf.second_read hnext⟩
  · intro e he index hfails
    have hrefuses := hfails.refuses (h.next_of_mem he)
    refine ⟨hrefuses, ?_⟩
    rintro f ticket ⟨pre, mid, post, rfl⟩ hf
    obtain ⟨r, refusal, hget, hsettled, -⟩ := hrefuses
    obtain ⟨-, -, hpath⟩ := h.split
    have hkept : f.src.runs[index]? = some r :=
      hpath.split.1.stable (P := fun s => s.runs[index]? = some r)
        (fun _ _ _ hs hstep => settled_stays hstep hs hsettled) hget
    obtain ⟨r', hget', -, hstate⟩ := hf.run
    rw [hkept] at hget'
    obtain rfl := Option.some.inj hget'
    rw [hsettled] at hstate
    cases hstate

end Runs

namespace ExecutorSample

def ticket : ActionTicket where
  agentId := js "agent-1"
  connector := js "github"
  operation := js "merge_pull_request"
  canonicalArgs := js "{}"
  resourceId := js "github:pr:o/r#7"
  killEpoch := 3
  expiresAt := 1000
  nonce := js "n-1"

def live : LiveKillState :=
  ⟨false, 3, none, none, none⟩

def first : ExecutorRun :=
  ⟨ticket, none, .reading⟩

/-- Both calls of `run` have begun. -/
def begun : Executor :=
  ⟨[], [first, first]⟩

/-- The first call burned the nonce. -/
def burned : Executor :=
  ⟨[js "n-1"], [⟨ticket, none, .rechecking⟩, first]⟩

/-- The second call found it burned. -/
def refused : Executor :=
  ⟨[js "n-1"], [⟨ticket, none, .rechecking⟩,
    ⟨ticket, none, .settled (.refused ⟨.nonceConsumed, js "ticket already used — tickets are single-use"⟩)⟩]⟩

/-- The first call reached the backend. -/
def executing : Executor :=
  ⟨[js "n-1"], [⟨ticket, none, .executing⟩,
    ⟨ticket, none, .settled (.refused ⟨.nonceConsumed, js "ticket already used — tickets are single-use"⟩)⟩]⟩

def steps : List ExecutorEdge :=
  [⟨⟨[], []⟩, .run ticket none, ⟨[], [first]⟩⟩, ⟨⟨[], [first]⟩, .run ticket none, begun⟩,
    ⟨begun, .answered 0 (some live) 500, burned⟩, ⟨burned, .answered 1 (some live) 500, refused⟩,
    ⟨refused, .answered 0 (some live) 600, executing⟩]

theorem exec : executorRuns.Exec steps executing := by
  have hfirst : executorRuns.Path ⟨[], []⟩ [⟨⟨[], []⟩, .run ticket none, ⟨[], [first]⟩⟩] ⟨[], [first]⟩ :=
    .single rfl
  have hbegun : executorRuns.Path ⟨[], [first]⟩ [⟨⟨[], [first]⟩, .run ticket none, begun⟩] begun := .single rfl
  have hburned : executorRuns.Path begun [⟨begun, .answered 0 (some live) 500, burned⟩] burned :=
    .single ⟨first, rfl, .inl rfl, rfl⟩
  have hrefused : executorRuns.Path burned [⟨burned, .answered 1 (some live) 500, refused⟩] refused :=
    .single ⟨first, rfl, .inl rfl, rfl⟩
  have hexecuting : executorRuns.Path refused [⟨refused, .answered 0 (some live) 600, executing⟩] executing :=
    .single ⟨⟨ticket, none, .rechecking⟩, rfl, .inr rfl, rfl⟩
  exact ⟨⟨[], []⟩, rfl, hfirst.append (hbegun.append (hburned.append (hrefused.append hexecuting)))⟩

end ExecutorSample

open ExecutorSample in
/-- Two calls with one ticket: one reaches the backend, the other is refused. -/
theorem runs_once_sample : RunsOnce steps ∧
    ExecutorEdge.Executes ⟨refused, .answered 0 (some live) 600, executing⟩ 0 ticket :=
  ⟨runs_once exec, ⟨_, rfl, rfl, rfl⟩, ⟨_, _, rfl⟩, ⟨_, rfl, rfl⟩⟩

end OwnerSwitch
