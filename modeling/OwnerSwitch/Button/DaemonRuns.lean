/-
Module: OwnerSwitch.Button.DaemonRuns
Layer: Button
Purpose: Which presses the daemon drops and which sequences are live, over any order of its steps. What an
  overtaken sequence learns never counts; a press is dropped only while its kill is in hand, and an unconfirmed
  kill has exactly one live sequence, as long as the daemon is not started again over a kill it was stopped
  with.
Imports: Button.Daemon
Trusted boundary: that of Button.Daemon
Main exports: Ordered, Running, KillInHand, press_never_swallowed_iff
Open obligations: none
-/
import OwnerSwitch.Button.Daemon

namespace OwnerSwitch

namespace Daemon

/-! ### Sequences of a daemon -/

/-- The number of sequences that still go on: the loop of any other one ends where it looks at the daemon next. -/
def liveSequences (s : Daemon) : Nat :=
  s.sequences.countP fun q => s.active && q.gen = s.generation && q.stage ≠ .returned

/-- The last sequence that was started was confirmed. -/
def LastConfirmed (s : Daemon) : Prop :=
  ∃ c ∈ s.confirmations, c.1 + 1 = s.sequences.length

def gens (s : Daemon) : List Nat :=
  s.sequences.map KillSequence.gen

variable {s : Daemon} {i : Nat} {q q' : KillSequence} {debounceMs : Int}

/-- The generations of the sequences: none is ahead of the daemon, only the last can be its own, and none is
    while it is stopped. -/
structure Ordered (s : Daemon) : Prop where
  bound : ∀ g ∈ s.gens, g ≤ s.generation
  older : ∀ (i g : Nat), s.gens[i]? = some g → i + 1 < s.gens.length → g < s.generation
  stopped : s.active = false → ∀ g ∈ s.gens, g < s.generation

/-- The last sequence goes on. -/
def Running (s : Daemon) : Prop :=
  ∃ i q, i + 1 = s.sequences.length ∧ s.sequences[i]? = some q ∧ q.gen = s.generation ∧ q.stage ≠ .returned

/-- A sequence that moves on keeps the generations. -/
theorem gens_move (hq : s.sequences[i]? = some q) (hgen : q'.gen = q.gen) : (s.move i q').gens = s.gens := by
  obtain ⟨hi, rfl⟩ := List.getElem?_eq_some_iff.mp hq
  rw [gens, move, List.map_set, hgen, gens]
  apply List.ext_getElem
  · simp
  · intro j hj hj'
    rw [List.getElem_set]
    split
    · rename_i hij
      subst hij
      simp
    · rfl

theorem length_gens (s : Daemon) : s.gens.length = s.sequences.length :=
  List.length_map ..

/-- Order depends on the generations alone. -/
theorem Ordered.of_gens {t : Daemon} (h : Ordered s) (hgens : t.gens = s.gens) (hgen : t.generation = s.generation)
    (hactive : t.active = false → s.active = false) : Ordered t := by
  constructor
  · rw [hgens, hgen]
    exact h.bound
  · rw [hgens, hgen]
    exact h.older
  · rw [hgens, hgen]
    exact fun hstopped => h.stopped (hactive hstopped)

/-- A running daemon keeps running where the sequence that moves does not return, or is not its own. -/
theorem Running.move (h : Running s) (hq : s.sequences[i]? = some q) (hgen : q'.gen = q.gen)
    (hstage : q'.stage ≠ .returned ∨ q.gen ≠ s.generation) : Running (s.move i q') := by
  obtain ⟨j, p, hlast, hj, hown, hp⟩ := h
  by_cases hij : i = j
  · subst hij
    rw [hj] at hq
    obtain rfl := Option.some.inj hq
    have hlt : i < s.sequences.length := by omega
    refine ⟨i, q', by rw [Daemon.move, List.length_set, hlast], List.getElem?_set_self hlt, hgen.trans hown, ?_⟩
    exact hstage.resolve_right fun hne => hne hown
  · refine ⟨j, p, by rw [Daemon.move, List.length_set, hlast], ?_, hown, hp⟩
    rw [Daemon.move, List.getElem?_set_ne hij]
    exact hj

/-- One sequence is live where the last one goes on. -/
theorem liveSequences_eq_one (hordered : Ordered s) (hactive : s.active = true) (h : Running s) :
    s.liveSequences = 1 := by
  obtain ⟨i, q, hlast, hq, hown, hstage⟩ := h
  have hsplit : s.sequences = s.sequences.take i ++ [q] := by
    obtain ⟨hi, rfl⟩ := List.getElem?_eq_some_iff.mp hq
    rw [List.take_concat_get' _ _ hi, hlast, List.take_length]
  have hlive : ∀ q ∈ s.sequences.take i, ¬ (s.active && q.gen = s.generation && q.stage ≠ .returned) = true := by
    intro p hp hall
    obtain ⟨j, hj⟩ := List.getElem?_of_mem hp
    obtain ⟨hji, hjget⟩ : j < i ∧ s.sequences[j]? = some p := by
      rw [List.getElem?_take] at hj
      split at hj
      · exact ⟨‹_›, hj⟩
      · cases hj
    have hlt := hordered.older j p.gen (by rw [gens, List.getElem?_map, hjget]; rfl) (by rw [length_gens]; omega)
    simp only [Bool.and_eq_true, decide_eq_true_eq] at hall
    omega
  rw [liveSequences, hsplit, List.countP_append, List.countP_eq_zero.mpr hlive]
  simp [hactive, hown, hstage]

/-- A stopped daemon has no sequence of its own generation. -/
theorem liveSequences_of_stopped (hordered : Ordered s) (hstopped : s.active = false) {t : Daemon}
    (hsequences : t.sequences = s.sequences) (hgen : t.generation = s.generation) : t.liveSequences = 0 := by
  rw [liveSequences, hsequences, List.countP_eq_zero]
  intro q hq hlive
  have hlt := hordered.stopped hstopped q.gen (List.mem_map_of_mem hq)
  simp only [Bool.and_eq_true, decide_eq_true_eq] at hlive
  omega

/-! ### What a step changes -/

/-- Cancelling a wait changes nothing but the stage of the sequence that waits. -/
theorem cancel_eq (s : Daemon) : ∃ sequences, s.cancel = { s with sequences := sequences, cancelWait := none }
    ∧ sequences.map KillSequence.gen = s.gens := by
  unfold cancel
  split
  · rename_i hnone
    exact ⟨s.sequences, by rw [← hnone], rfl⟩
  · split
    · exact ⟨s.sequences, rfl, rfl⟩
    · rename_i q hq
      exact ⟨_, rfl, gens_move hq rfl⟩

/-- A new sequence comes after the others, under the next generation. -/
theorem startSequence_eq (s : Daemon) : ∃ sequences, s.startSequence
      = { s with generation := s.generation + 1, failedInSequence := 0, unconfirmed := true, cancelWait := none,
                 sequences := sequences ++ [⟨s.generation + 1, 1, .attempting⟩] }
    ∧ sequences.map KillSequence.gen = s.gens := by
  obtain ⟨sequences, hcancel, hgens⟩ :=
    cancel_eq { s with generation := s.generation + 1, failedInSequence := 0, unconfirmed := true }
  refine ⟨sequences, ?_, hgens⟩
  rw [startSequence]
  simp only [hcancel]

/-- What a press does. -/
inductive PressCase (debounceMs : Int) (s : Daemon) : Daemon → Prop where
  | ignored : s.active = false → PressCase debounceMs s s
  | dropped : s.active = true → s.bounces debounceMs = true →
      PressCase debounceMs s { s with lastPressAt := some s.clock }
  | started (sequences : List KillSequence) : s.active = true → sequences.map KillSequence.gen = s.gens →
      PressCase debounceMs s
        { s with lastPressAt := some s.clock, generation := s.generation + 1, failedInSequence := 0,
                 unconfirmed := true, cancelWait := none,
                 sequences := sequences ++ [⟨s.generation + 1, 1, .attempting⟩] }

/-- What a press does is one of the cases. -/
theorem handlePress_cases (debounceMs : Int) (s : Daemon) : PressCase debounceMs s (s.handlePress debounceMs) := by
  unfold handlePress
  split
  · rename_i hinactive
    exact .ignored (by simpa using hinactive)
  · rename_i hactive
    have hactive : s.active = true := by simpa using hactive
    dsimp only
    split
    · rename_i hbounce
      exact .dropped hactive hbounce
    · obtain ⟨sequences, heq, hgens⟩ := startSequence_eq { s with lastPressAt := some s.clock }
      rw [heq]
      exact .started sequences hactive hgens

/-- What a step does to the daemon at its clock. -/
inductive StepCase (debounceMs : Int) (s : Daemon) : DaemonStep → Daemon → Prop where
  | started : s.active = false → StepCase debounceMs s .start { s with active := true }
  | already : s.active = true → StepCase debounceMs s .start s
  | stopped (sequences : List KillSequence) : s.active = true → sequences.map KillSequence.gen = s.gens →
      StepCase debounceMs s .stop
        { s with active := false, generation := s.generation + 1, sequences := sequences, cancelWait := none }
  | idle : s.active = false → StepCase debounceMs s .stop s
  | pressed {t : Daemon} : PressCase debounceMs s t → StepCase debounceMs s .press t
  | overtaken {i : Nat} {q : KillSequence} {outcome : AttemptOutcome} : s.sequences[i]? = some q →
      (s.active = false ∨ q.gen ≠ s.generation) →
      StepCase debounceMs s (.settled i outcome) (s.move i { q with stage := .returned })
  | confirmed {i : Nat} {q : KillSequence} {outcome : AttemptOutcome} : s.sequences[i]? = some q → s.active = true →
      q.gen = s.generation →
      StepCase debounceMs s (.settled i outcome)
        { s.move i { q with stage := .returned } with
          unconfirmed := false
          failedInSequence := 0
          confirmations := s.confirmations ++ [(i, ⟨q.attempt, outcome.status, outcome.body, s.clock⟩)] }
  | failed {i : Nat} {q : KillSequence} {outcome : AttemptOutcome} : s.sequences[i]? = some q → s.active = true →
      q.gen = s.generation →
      StepCase debounceMs s (.settled i outcome)
        { s.move i { q with stage := .waiting (retryDelayMs q.attempt) } with
          failedInSequence := s.failedInSequence + 1
          cancelWait := some i }
  | fired {i : Nat} {q : KillSequence} : s.sequences[i]? = some q →
      StepCase debounceMs s (.fired i) { s.move i { q with stage := .woken } with cancelWait := none }
  | retried {i : Nat} {q : KillSequence} : s.sequences[i]? = some q →
      StepCase debounceMs s (.resumed i) (s.move i { q with attempt := q.attempt + 1, stage := .attempting })
  | ended {i : Nat} {q : KillSequence} : s.sequences[i]? = some q → (s.active = false ∨ q.gen ≠ s.generation) →
      StepCase debounceMs s (.resumed i) (s.move i { q with stage := .returned })

/-- What a step does is one of the cases. -/
theorem apply_cases (debounceMs : Int) {step : DaemonStep} (h : s.enables step = true) :
    StepCase debounceMs s step (s.apply debounceMs step) := by
  cases step with
  | start =>
      simp only [apply, start]
      split
      · exact .already ‹_›
      · rename_i hinactive
        exact .started (by simpa using hinactive)
  | stop =>
      simp only [apply, stop]
      split
      · rename_i hinactive
        exact .idle (by simpa using hinactive)
      · rename_i hactive
        obtain ⟨sequences, heq, hgens⟩ := cancel_eq { s with active := false, generation := s.generation + 1 }
        rw [heq]
        exact .stopped sequences (by simpa using hactive) hgens
  | press => exact .pressed (handlePress_cases debounceMs s)
  | settled i outcome =>
      obtain ⟨q, hq, -⟩ := (Option.any_eq_true _ _).mp h
      simp only [apply, hq, Option.elim_some, settle]
      split
      · rename_i hstale
        exact .overtaken hq (by simpa using hstale)
      · rename_i hown
        have hown : s.active = true ∧ q.gen = s.generation := by simpa using hown
        split
        · exact .confirmed hq hown.1 hown.2
        · exact .failed hq hown.1 hown.2
  | fired i =>
      obtain ⟨q, hq, -⟩ := (Option.any_eq_true _ _).mp h
      simp only [apply, hq, Option.elim_some]
      exact .fired hq
  | resumed i =>
      obtain ⟨q, hq, -⟩ := (Option.any_eq_true _ _).mp h
      simp only [apply, hq, Option.elim_some, resume]
      split
      · exact .retried hq
      · rename_i hstale
        refine .ended hq ?_
        by_cases hactive : s.active = true
        · exact .inr fun hgen => hstale (by simp [hactive, hgen])
        · exact .inl (by simpa using hactive)

/-! ### Invariants -/

/-- A new sequence comes last. -/
theorem Ordered.started (h : Ordered s) {t : Daemon} (hgens : t.gens = s.gens ++ [s.generation + 1])
    (hgen : t.generation = s.generation + 1) (hactive : t.active = true) : Ordered t := by
  constructor
  · intro g hg
    rw [hgens, List.mem_append, List.mem_singleton] at hg
    rw [hgen]
    rcases hg with hg | rfl
    · exact Nat.le_succ_of_le (h.bound g hg)
    · exact le_rfl
  · intro i g hg hi
    rw [hgens, List.length_append, List.length_singleton] at hi
    rw [hgens, List.getElem?_append_left (by omega)] at hg
    rw [hgen]
    exact Nat.lt_succ_of_le (h.bound g (List.mem_of_getElem? hg))
  · intro hstopped
    rw [hactive] at hstopped
    cases hstopped

/-- A step keeps the sequences in order. -/
theorem Ordered.step (h : Ordered s) {step : DaemonStep} {t : Daemon} (hstep : StepCase debounceMs s step t) :
    Ordered t := by
  cases hstep with
  | started hinactive => exact h.of_gens rfl rfl fun _ => hinactive
  | already _ => exact h
  | stopped sequences _ hgens =>
      have hbehind : ∀ g ∈ sequences.map KillSequence.gen, g < s.generation + 1 := fun g hg =>
        Nat.lt_succ_of_le (h.bound g (hgens ▸ hg))
      exact ⟨fun g hg => Nat.le_of_lt (hbehind g hg), fun _ g hg _ => hbehind g (List.mem_of_getElem? hg),
        fun _ => hbehind⟩
  | idle _ => exact h
  | pressed hpress =>
      cases hpress with
      | ignored _ => exact h
      | dropped _ _ => exact h.of_gens rfl rfl id
      | started sequences hactive hgens =>
          exact h.started (by rw [← hgens, gens, List.map_append]; rfl) rfl hactive
  | overtaken hq _ => exact h.of_gens (gens_move hq rfl) rfl id
  | confirmed hq _ _ => exact h.of_gens (gens_move hq rfl) rfl id
  | failed hq _ _ => exact h.of_gens (gens_move hq rfl) rfl id
  | fired hq => exact h.of_gens (gens_move hq rfl) rfl id
  | retried hq => exact h.of_gens (gens_move hq rfl) rfl id
  | ended hq _ => exact h.of_gens (gens_move hq rfl) rfl id

/-- The sequence whose generation is the daemon's is the last one. -/
theorem Ordered.last (h : Ordered s) (hq : s.sequences[i]? = some q) (hgen : q.gen = s.generation) :
    i + 1 = s.sequences.length := by
  have hlt := (List.getElem?_eq_some_iff.mp hq).1
  by_contra hne
  have hold := h.older i q.gen (by rw [gens, List.getElem?_map, hq]; rfl) (by rw [length_gens]; omega)
  omega

/-- A press that was seen started a sequence, and a kill that is not unconfirmed was confirmed. -/
structure Recorded (s : Daemon) : Prop where
  pressed : s.lastPressAt ≠ none → s.sequences ≠ []
  confirmed : s.unconfirmed = false → s.sequences ≠ [] → LastConfirmed s

theorem Recorded.of_length (h : Recorded s) {t : Daemon} (hlength : t.sequences.length = s.sequences.length)
    (hpress : t.lastPressAt = s.lastPressAt) (hunconfirmed : t.unconfirmed = s.unconfirmed)
    (hconfirmations : t.confirmations = s.confirmations) : Recorded t := by
  have hnil : t.sequences ≠ [] ↔ s.sequences ≠ [] := by
    rw [← List.length_pos_iff, ← List.length_pos_iff, hlength]
  constructor
  · rw [hpress, hnil]
    exact h.pressed
  · rw [hunconfirmed, hnil, LastConfirmed, hlength, hconfirmations]
    exact h.confirmed

theorem length_move (i : Nat) (q : KillSequence) : (s.move i q).sequences.length = s.sequences.length :=
  List.length_set ..

/-- A step keeps every press recorded. -/
theorem Recorded.step (h : Recorded s) (hordered : Ordered s) {step : DaemonStep} {t : Daemon}
    (hstep : StepCase debounceMs s step t) : Recorded t := by
  cases hstep with
  | started _ => exact h.of_length rfl rfl rfl rfl
  | already _ => exact h
  | stopped sequences _ hgens =>
      have hlength := congrArg List.length hgens
      rw [List.length_map, length_gens] at hlength
      exact h.of_length hlength rfl rfl rfl
  | idle _ => exact h
  | pressed hpress =>
      cases hpress with
      | ignored _ => exact h
      | dropped hactive hbounce =>
          have hseen : s.lastPressAt ≠ none := by
            intro hnone
            simp [bounces, hnone] at hbounce
          exact ⟨fun _ => h.pressed hseen, h.confirmed⟩
      | started sequences _ _ => exact ⟨fun _ => by simp, nofun⟩
  | overtaken _ _ => exact h.of_length (length_move _ _) rfl rfl rfl
  | @confirmed i q outcome hq _ hgen =>
      refine ⟨fun hseen => ?_, fun _ _ => ?_⟩
      · have hlength := length_move (s := s) i { q with stage := .returned }
        exact List.length_pos_iff.mp (hlength.symm ▸ List.length_pos_iff.mpr (h.pressed hseen))
      · refine ⟨_, List.mem_append_right _ (List.mem_singleton_self _), ?_⟩
        exact (hordered.last hq hgen).trans (length_move _ _).symm
  | failed _ _ _ => exact h.of_length (length_move _ _) rfl rfl rfl
  | fired _ => exact h.of_length (length_move _ _) rfl rfl rfl
  | retried _ => exact h.of_length (length_move _ _) rfl rfl rfl
  | ended _ _ => exact h.of_length (length_move _ _) rfl rfl rfl

/-- An unconfirmed kill has its sequence. -/
def KillInHand (s : Daemon) : Prop :=
  s.active = true → s.unconfirmed = true → Running s

/-- The one step that loses the kill: starting the daemon over a kill it was stopped with. -/
def StartsOver (s : Daemon) (step : DaemonStep) : Prop :=
  step = .start ∧ s.active = false ∧ s.unconfirmed = true

/-- A kill stays in hand until the daemon starts over. -/
theorem KillInHand.step (h : KillInHand s) {step : DaemonStep} {t : Daemon}
    (hstep : StepCase debounceMs s step t) (hkept : ¬ StartsOver s step) : KillInHand t := by
  cases hstep with
  | started hinactive => exact fun _ hunconfirmed => absurd ⟨rfl, hinactive, hunconfirmed⟩ hkept
  | already _ => exact h
  | stopped _ _ _ => exact fun hactive => by cases hactive
  | idle _ => exact h
  | pressed hpress =>
      cases hpress with
      | ignored _ => exact h
      | dropped _ _ => exact h
      | started sequences _ _ =>
          exact fun _ _ => ⟨sequences.length, _, by simp, List.getElem?_concat_length, rfl, by simp⟩
  | overtaken hq hstale =>
      intro hactive hunconfirmed
      have hgen := hstale.resolve_left (by rw [show s.active = true from hactive]; exact Bool.true_eq_false.mp)
      exact (h hactive hunconfirmed).move hq rfl (.inr hgen)
  | confirmed _ _ _ => exact fun _ hunconfirmed => by cases hunconfirmed
  | failed hq _ _ =>
      exact fun hactive hunconfirmed => (h hactive hunconfirmed).move hq rfl (.inl (by simp))
  | fired hq => exact fun hactive hunconfirmed => (h hactive hunconfirmed).move hq rfl (.inl (by simp))
  | retried hq => exact fun hactive hunconfirmed => (h hactive hunconfirmed).move hq rfl (.inl (by simp))
  | ended hq hstale =>
      intro hactive hunconfirmed
      have hgen := hstale.resolve_left (by rw [show s.active = true from hactive]; exact Bool.true_eq_false.mp)
      exact (h hactive hunconfirmed).move hq rfl (.inr hgen)

/-- The sequence was overtaken: a newer one began, or the daemon was stopped since. -/
def Behind (i : Nat) (s : Daemon) : Prop :=
  ∃ g, s.gens[i]? = some g ∧ g < s.generation

/-- A sequence that is behind stays behind. -/
theorem Behind.step (h : Behind i s) {step : DaemonStep} {t : Daemon} (hstep : StepCase debounceMs s step t) :
    Behind i t := by
  obtain ⟨g, hg, hlt⟩ := h
  have hsame : ∀ t : Daemon, t.gens = s.gens → s.generation ≤ t.generation → Behind i t :=
    fun t hgens hgen => ⟨g, hgens ▸ hg, Nat.lt_of_lt_of_le hlt hgen⟩
  cases hstep with
  | started _ => exact hsame _ rfl le_rfl
  | already _ => exact ⟨g, hg, hlt⟩
  | stopped sequences _ hgens => exact hsame _ hgens (Nat.le_succ _)
  | idle _ => exact ⟨g, hg, hlt⟩
  | pressed hpress =>
      cases hpress with
      | ignored _ => exact ⟨g, hg, hlt⟩
      | dropped _ _ => exact hsame _ rfl le_rfl
      | started sequences _ hgens =>
          refine ⟨g, ?_, Nat.lt_succ_of_lt hlt⟩
          rw [gens, List.map_append, hgens, List.getElem?_append_left (List.getElem?_eq_some_iff.mp hg).1]
          exact hg
  | overtaken hq _ => exact hsame _ (gens_move hq rfl) le_rfl
  | confirmed hq _ _ => exact hsame _ (gens_move hq rfl) le_rfl
  | failed hq _ _ => exact hsame _ (gens_move hq rfl) le_rfl
  | fired hq => exact hsame _ (gens_move hq rfl) le_rfl
  | retried hq => exact hsame _ (gens_move hq rfl) le_rfl
  | ended hq _ => exact hsame _ (gens_move hq rfl) le_rfl

theorem Behind.later (h : Behind i s) (clock : Int) : Behind i { s with clock := clock } :=
  h

/-- What a sequence that was overtaken learns changes nothing. -/
theorem Behind.settled (h : Behind i s) {outcome : AttemptOutcome} {t : Daemon}
    (hstep : StepCase debounceMs s (.settled i outcome) t) :
    t.unconfirmed = s.unconfirmed ∧ t.failedInSequence = s.failedInSequence
      ∧ t.confirmations = s.confirmations := by
  obtain ⟨g, hg, hlt⟩ := h
  have hother : ∀ {q : KillSequence}, s.sequences[i]? = some q → q.gen ≠ s.generation := by
    intro q hq hgen
    rw [gens, List.getElem?_map, hq, Option.map_some, Option.some.injEq] at hg
    omega
  cases hstep with
  | overtaken _ _ => exact ⟨rfl, rfl, rfl⟩
  | confirmed hq _ hgen => exact absurd hgen (hother hq)
  | failed hq _ hgen => exact absurd hgen (hother hq)

end Daemon

/-! ### Runs -/

section Runs

open Daemon

variable {debounceMs : Int} {es : List (Lts.Edge Daemon TimedStep)} {s t : Daemon}

/-- The daemon as a step finds it: at the step's time. -/
def foundBy (e : Lts.Edge Daemon TimedStep) : Daemon :=
  { e.src with clock := e.label.time }

/-- A newer sequence began before the edge, or the daemon was stopped after this one began. -/
def Overtaken (before : List (Lts.Edge Daemon TimedStep)) (i : Nat) (s : Daemon) : Prop :=
  i + 1 < s.sequences.length
    ∨ ∃ f ∈ before, f.label.step = .stop ∧ f.src.active = true ∧ i < f.src.sequences.length

/-- What is promised of a step after others: a press is dropped only while a sequence is live or the last one was
    confirmed; an unconfirmed kill of an active daemon has exactly one live sequence; and what a superseded or
    stopped sequence learns confirms nothing, fails nothing and calls nobody. -/
structure PressKept (debounceMs : Int) (before : List (Lts.Edge Daemon TimedStep)) (e : Lts.Edge Daemon TimedStep) :
    Prop where
  dropped : e.label.step = .press → e.src.active = true → (foundBy e).bounces debounceMs = true →
    0 < e.src.liveSequences ∨ e.src.LastConfirmed
  one : e.dst.active = true → e.dst.unconfirmed = true → e.dst.liveSequences = 1
  overtaken : ∀ i outcome, e.label.step = .settled i outcome → Overtaken before i e.src →
    e.dst.unconfirmed = e.src.unconfirmed ∧ e.dst.failedInSequence = e.src.failedInSequence
      ∧ e.dst.confirmations = e.src.confirmations

/-- The daemon is started over a kill it was stopped with. -/
def StartedOver (e : Lts.Edge Daemon TimedStep) : Prop :=
  StartsOver e.src e.label.step

/-- A step at its time is one of the cases. -/
theorem next_cases {l : TimedStep} (h : (daemonRuns debounceMs).next s l t) :
    StepCase debounceMs { s with clock := l.time } l.step t := by
  obtain ⟨-, henabled, rfl⟩ := h
  exact apply_cases debounceMs (s := { s with clock := l.time }) henabled

theorem Daemon.Ordered.next {l : TimedStep} (h : Ordered s) (hnext : (daemonRuns debounceMs).next s l t) :
    Ordered t :=
  (h.of_gens rfl rfl id : Ordered { s with clock := l.time }).step (next_cases hnext)

theorem Daemon.Recorded.next {l : TimedStep} (h : Recorded s) (hordered : Ordered s)
    (hnext : (daemonRuns debounceMs).next s l t) : Recorded t :=
  (h.of_length rfl rfl rfl rfl : Recorded { s with clock := l.time }).step (hordered.of_gens rfl rfl id)
    (next_cases hnext)

/-- In every run the sequences are in order and every press is recorded. -/
theorem exec_recorded (h : (daemonRuns debounceMs).Exec es s) : Ordered s ∧ Recorded s := by
  refine h.invariant (P := fun s => Ordered s ∧ Recorded s)
    ⟨?_, fun s l t hs hnext => ⟨hs.1.next hnext, hs.2.next hs.1 hnext⟩⟩
  rintro s ⟨clock, rfl⟩
  exact ⟨⟨nofun, nofun, fun _ => nofun⟩, ⟨fun hnone => absurd rfl hnone, fun _ hnil => absurd rfl hnil⟩⟩

/-- Without a start over an unconfirmed kill, the kill keeps its sequence. -/
theorem exec_killInHand (h : (daemonRuns debounceMs).Exec es s) (hkept : ∀ e ∈ es, ¬ StartedOver e) :
    KillInHand s := by
  obtain ⟨s₀, ⟨clock, rfl⟩, hpath⟩ := h
  refine hpath.induct_mem (P := KillInHand) (fun e he hnext hsrc => ?_) fun _ hunconfirmed => by cases hunconfirmed
  have hfound : KillInHand { e.src with clock := e.label.time } := hsrc
  exact hfound.step (next_cases hnext) (hkept e he)

/-- A sequence that was overtaken stays behind. -/
theorem exec_behind {before : List (Lts.Edge Daemon TimedStep)} {i : Nat} (h : (daemonRuns debounceMs).Exec before s)
    (hi : i < s.sequences.length) (hover : Overtaken before i s) : Behind i s := by
  rcases hover with hnewer | ⟨f, hf, hstop, hactive, hbegan⟩
  · obtain ⟨g, hg⟩ : ∃ g, s.gens[i]? = some g := ⟨_, List.getElem?_eq_getElem (by rw [length_gens]; exact hi)⟩
    exact ⟨g, hg, (exec_recorded h).1.older i g hg (by rw [length_gens]; exact hnewer)⟩
  · have hstable : ∀ s l t, Behind i s → (daemonRuns debounceMs).next s l t → Behind i t := by
      intro s l t hs hnext
      exact (hs.later l.time).step (next_cases hnext)
    refine h.since hstable hf ?_
    obtain ⟨pre, post, rfl⟩ := List.append_of_mem hf
    obtain ⟨hpre, hnext, -⟩ := h.split
    have hordered := (exec_recorded hpre).1
    have hcase := next_cases hnext
    rw [hstop] at hcase
    obtain ⟨g, hg⟩ : ∃ g, f.src.gens[i]? = some g :=
      ⟨_, List.getElem?_eq_getElem (by rw [length_gens]; exact hbegan)⟩
    have hle := hordered.bound g (List.mem_of_getElem? hg)
    generalize f.dst = t at hcase ⊢
    cases hcase with
    | stopped sequences _ hgens =>
        have hsame : (sequences.map KillSequence.gen)[i]? = some g := by
          rw [hgens]
          exact hg
        exact ⟨g, hsame, Nat.lt_succ_of_le hle⟩
    | idle hinactive => exact absurd (hactive.symm.trans hinactive) (by decide)

/-- The steps up to one of a run are a run. -/
theorem exec_source {before after : List (Lts.Edge Daemon TimedStep)} {e : Lts.Edge Daemon TimedStep}
    (h : (daemonRuns debounceMs).Exec (before ++ e :: after) t) :
    (daemonRuns debounceMs).Exec (before ++ [e]) e.dst := by
  obtain ⟨hpre, hnext, -⟩ := h.split
  exact hpre.snoc hnext

/-- A step keeps what is promised, as long as no step up to it starts over an unconfirmed kill. -/
theorem pressKept {before : List (Lts.Edge Daemon TimedStep)} {e : Lts.Edge Daemon TimedStep}
    (h : (daemonRuns debounceMs).Exec (before ++ [e]) e.dst) (hkept : ∀ d ∈ before ++ [e], ¬ StartedOver d) :
    PressKept debounceMs before e := by
  obtain ⟨hpre, hnext, -⟩ := h.split
  obtain ⟨hordered, hrecorded⟩ := exec_recorded hpre
  have hinHand := exec_killInHand hpre fun d hd => hkept d (List.mem_append_left _ hd)
  constructor
  · intro _ hactive hbounce
    cases hunconfirmed : e.src.unconfirmed with
    | true =>
        have hone := liveSequences_eq_one hordered hactive (hinHand hactive hunconfirmed)
        exact .inl (by omega)
    | false =>
        have hseen : e.src.lastPressAt ≠ none := fun hnone => by simp [bounces, foundBy, hnone] at hbounce
        exact .inr (hrecorded.confirmed hunconfirmed (hrecorded.pressed hseen))
  · intro hactive hunconfirmed
    exact liveSequences_eq_one (exec_recorded h).1 hactive (exec_killInHand h hkept hactive hunconfirmed)
  · intro i outcome hsettled hover
    have hcase := next_cases hnext
    rw [hsettled] at hcase
    have hi : i < e.src.sequences.length := by
      obtain ⟨-, henabled, -⟩ := hnext
      rw [hsettled] at henabled
      obtain ⟨q, hq, -⟩ := (Option.any_eq_true _ _).mp henabled
      exact (List.getElem?_eq_some_iff.mp hq).1
    exact ((exec_behind hpre hi hover).later e.label.time).settled hcase

/-- The button never swallows the press that matters, in exactly the runs in which the daemon is never started
    over a kill it was stopped with before it was confirmed. -/
theorem press_never_swallowed_iff (h : (daemonRuns debounceMs).Exec es t) :
    (∀ before e after, es = before ++ e :: after → PressKept debounceMs before e) ↔ ∀ e ∈ es, ¬ StartedOver e := by
  constructor
  · intro hall e he ⟨hstart, hinactive, hunconfirmed⟩
    obtain ⟨before, after, rfl⟩ := List.append_of_mem he
    obtain ⟨hpre, hnext, -⟩ := h.split
    have hcase := next_cases hnext
    rw [hstart] at hcase
    have hone := (hall before e after rfl).one
    generalize e.dst = t at hcase hone
    cases hcase with
    | started _ =>
        have hnone := liveSequences_of_stopped (exec_recorded hpre).1 hinactive
          (t := { e.src with clock := e.label.time, active := true }) rfl rfl
        exact absurd (hone rfl hunconfirmed) (by rw [hnone]; decide)
    | already hactive => exact absurd (hinactive.symm.trans hactive) (by decide)
  · intro hkept before e after hes
    subst hes
    refine pressKept (exec_source h) fun d hd => hkept d ?_
    rcases List.mem_append.mp hd with hd | hd
    · exact List.mem_append_left _ hd
    · rw [List.mem_singleton.mp hd]
      simp

/-! ### Sample runs -/

/-- The daemon after a step at its time. -/
def daemonAfter (debounceMs : Int) (s : Daemon) (l : TimedStep) : Daemon :=
  { s with clock := l.time }.apply debounceMs l.step

def daemonEnabled (s : Daemon) (l : TimedStep) : Bool :=
  s.clock ≤ l.time && s.enables l.step

/-- A step that is enabled is a step of the daemon. -/
theorem daemonEnabled_sound (s : Daemon) (l : TimedStep) (h : daemonEnabled s l = true) :
    (daemonRuns debounceMs).next s l (daemonAfter debounceMs s l) := by
  simp only [daemonEnabled, Bool.and_eq_true, decide_eq_true_eq] at h
  exact ⟨h.1, h.2, rfl⟩

/-- Two presses half a second apart, the first one still on its way. -/
def bouncingSteps : List TimedStep := [⟨0, .start⟩, ⟨0, .press⟩, ⟨500, .press⟩]

/-- A button that bounces, on a daemon that is never stopped. -/
theorem press_never_swallowed_sample :
    (∀ e ∈ Lts.trace (daemonAfter 1000) (Daemon.fresh 0) bouncingSteps, ¬ StartedOver e)
      ∧ ∀ before e after, Lts.trace (daemonAfter 1000) (Daemon.fresh 0) bouncingSteps = before ++ e :: after →
          PressKept 1000 before e := by
  have hexec := Lts.Exec.trace (M := daemonRuns 1000) daemonEnabled_sound ⟨0, rfl⟩
    (show Lts.allEnabled (daemonAfter 1000) daemonEnabled (Daemon.fresh 0) bouncingSteps = true from by decide)
  have hkept : ∀ e ∈ Lts.trace (daemonAfter 1000) (Daemon.fresh 0) bouncingSteps, ¬ StartedOver e := by
    intro e he
    simp only [bouncingSteps, Lts.trace, List.mem_cons, List.not_mem_nil, or_false] at he
    rcases he with rfl | rfl | rfl
    · exact fun h => absurd h.2.2 (by decide)
    · exact fun h => by cases h.1
    · exact fun h => by cases h.1
  exact ⟨hkept, (press_never_swallowed_iff hexec).mpr hkept⟩

/-- The daemon is stopped while its kill is on its way, started again, and pressed within the bounce window. -/
def restartedSteps : List TimedStep := [⟨0, .start⟩, ⟨0, .press⟩, ⟨100, .stop⟩, ⟨200, .start⟩]

/-- The press after the restart is dropped although nothing is live and nothing was confirmed. -/
theorem press_swallowed_after_restart :
    ¬ ∀ (es : List (Lts.Edge Daemon TimedStep)) (t : Daemon), (daemonRuns 1000).Exec es t →
        ∀ before e after, es = before ++ e :: after → PressKept 1000 before e := by
  intro hall
  have hexec := Lts.Exec.trace_snoc (M := daemonRuns 1000) daemonEnabled_sound ⟨0, rfl⟩
    (show Lts.allEnabled (daemonAfter 1000) daemonEnabled (Daemon.fresh 0)
      (restartedSteps ++ [⟨500, .press⟩]) = true from by decide)
  have hkept := hall _ _ hexec _ _ [] rfl
  rcases hkept.dropped rfl rfl rfl with hlive | ⟨c, hc, -⟩
  · exact absurd hlive (by decide)
  · cases hc

end Runs

end OwnerSwitch
