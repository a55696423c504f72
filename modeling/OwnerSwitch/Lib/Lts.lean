/-
Module: OwnerSwitch.Lib.Lts
Layer: Lib
Purpose: Labelled transition systems over arbitrary state and label types. A run is kept as the list of
  its edges, oldest first, so that a statement about a run can name the step that did something, the
  steps before it and the steps after it. The induction over a run is packaged once
  (`Exec.induct`); invariants, stable predicates and the "some earlier step did it" pattern
  (`Exec.witness`) are instances of it.
Imports: none of the project
Trusted boundary: none
Main exports: Lts, Edge, Lts.Path, Lts.Exec, Lts.Invariant, Exec.induct, Path.stable, Exec.witness,
  Exec.between, trace
Open obligations: none
-/
import Mathlib.Data.List.Induction
import Mathlib.Order.Basic

/-- A labelled transition system: the states a run may start in, and what one step may do. -/
structure Lts (σ Λ : Type*) where
  init : σ → Prop
  next : σ → Λ → σ → Prop

namespace Lts

/-- One step of a run, with the states it leads from and to. -/
structure Edge (σ Λ : Type*) where
  src : σ
  label : Λ
  dst : σ

variable {σ Λ : Type*} {M : Lts σ Λ}

/-- The edge `f` comes after the edge `e`. -/
def Precedes (es : List (Edge σ Λ)) (e f : Edge σ Λ) : Prop :=
  ∃ pre mid post, es = pre ++ e :: (mid ++ f :: post)

theorem precedes_pair {a b e f : Edge σ Λ} (h : Precedes [a, b] e f) : e = a ∧ f = b := by
  obtain ⟨pre, mid, post, heq⟩ := h
  have hlength := congrArg List.length heq
  simp only [List.length_append, List.length_cons, List.length_nil] at hlength
  obtain rfl := List.length_eq_zero_iff.mp (by omega : pre.length = 0)
  obtain rfl := List.length_eq_zero_iff.mp (by omega : mid.length = 0)
  obtain rfl := List.length_eq_zero_iff.mp (by omega : post.length = 0)
  simpa [eq_comm] using heq

theorem Precedes.mem {es : List (Edge σ Λ)} {e f : Edge σ Λ} (h : Precedes es e f) : e ∈ es ∧ f ∈ es := by
  obtain ⟨pre, mid, post, rfl⟩ := h
  simp

theorem Precedes.append {es fs : List (Edge σ Λ)} {e f : Edge σ Λ} (h : Precedes es e f) :
    Precedes (es ++ fs) e f := by
  obtain ⟨pre, mid, post, rfl⟩ := h
  exact ⟨pre, mid, post ++ fs, by simp⟩

/-- What is there precedes what is added. -/
theorem precedes_snoc {es : List (Edge σ Λ)} {e f : Edge σ Λ} (he : e ∈ es) : Precedes (es ++ [f]) e f := by
  obtain ⟨pre, mid, rfl⟩ := List.append_of_mem he
  exact ⟨pre, mid, [], by simp⟩

/-- Two edges of a list are one, or one comes after the other. -/
theorem precedes_or {es : List (Edge σ Λ)} {e f : Edge σ Λ} (he : e ∈ es) (hf : f ∈ es) :
    Precedes es e f ∨ e = f ∨ Precedes es f e := by
  obtain ⟨pre, post, rfl⟩ := List.append_of_mem he
  rcases List.mem_append.mp hf with hf | hf
  · obtain ⟨a, b, rfl⟩ := List.append_of_mem hf
    exact .inr (.inr ⟨a, b, post, by simp⟩)
  · rcases List.mem_cons.mp hf with rfl | hf
    · exact .inr (.inl rfl)
    · obtain ⟨a, b, rfl⟩ := List.append_of_mem hf
      exact .inl ⟨pre, a, b, rfl⟩

/-- `M.Path s es t`: the edges `es`, oldest first, lead from `s` to `t`. -/
inductive Path (M : Lts σ Λ) (s : σ) : List (Edge σ Λ) → σ → Prop where
  | nil : Path M s [] s
  | snoc {es t l u} : Path M s es t → M.next t l u → Path M s (es ++ [⟨t, l, u⟩]) u

/-- `M.Exec es t`: the edges `es` are a run from an initial state to `t`. -/
def Exec (M : Lts σ Λ) (es : List (Edge σ Λ)) (t : σ) : Prop :=
  ∃ s, M.init s ∧ M.Path s es t

/-- A state some run ends in. -/
def Reachable (M : Lts σ Λ) (t : σ) : Prop :=
  ∃ es, M.Exec es t

/-- A predicate that holds initially and that every step from a state satisfying it preserves. -/
structure Invariant (M : Lts σ Λ) (P : σ → Prop) : Prop where
  init : ∀ s, M.init s → P s
  step : ∀ s l t, P s → M.next s l t → P t

namespace Path

theorem single {s t : σ} {l : Λ} (h : M.next s l t) : M.Path s [⟨s, l, t⟩] t :=
  .snoc .nil h

/-- Paths can be joined. -/
theorem append {s t u : σ} {es fs : List (Edge σ Λ)} (hst : M.Path s es t)
    (htu : M.Path t fs u) : M.Path s (es ++ fs) u := by
  induction htu with
  | nil => simpa using hst
  | snoc _ hnext ih =>
      rw [← List.append_assoc]
      exact .snoc ih hnext

/-- The last edge of a nonempty path. -/
theorem snoc_inv {s u : σ} {es : List (Edge σ Λ)} {e : Edge σ Λ} (h : M.Path s (es ++ [e]) u) :
    M.Path s es e.src ∧ M.next e.src e.label e.dst ∧ u = e.dst := by
  generalize hfs : es ++ [e] = fs at h
  cases h with
  | nil => simp at hfs
  | snoc hpath hnext =>
      obtain ⟨rfl, he⟩ := List.append_inj' hfs rfl
      obtain rfl := (List.cons.inj he).1
      exact ⟨hpath, hnext, rfl⟩

theorem nil_inv {s t : σ} (h : M.Path s [] t) : s = t := by
  generalize hfs : ([] : List (Edge σ Λ)) = fs at h
  cases h with
  | nil => rfl
  | snoc => simp at hfs

/-- A path can be cut anywhere. -/
theorem append_inv {s u : σ} {es fs : List (Edge σ Λ)} (h : M.Path s (es ++ fs) u) :
    ∃ t, M.Path s es t ∧ M.Path t fs u := by
  induction fs using List.reverseRecOn generalizing u with
  | nil => exact ⟨u, by simpa using h, .nil⟩
  | append_singleton fs e ih =>
      rw [← List.append_assoc] at h
      obtain ⟨hpath, hnext, rfl⟩ := h.snoc_inv
      obtain ⟨t, hst, htu⟩ := ih hpath
      exact ⟨t, hst, .snoc htu hnext⟩

/-- A path through a named edge splits before and after it. -/
theorem split {s u : σ} {es fs : List (Edge σ Λ)} {e : Edge σ Λ}
    (h : M.Path s (es ++ e :: fs) u) :
    M.Path s es e.src ∧ M.next e.src e.label e.dst ∧ M.Path e.dst fs u := by
  rw [← List.singleton_append, ← List.append_assoc] at h
  obtain ⟨t, hst, htu⟩ := h.append_inv
  obtain ⟨hpath, hnext, rfl⟩ := hst.snoc_inv
  exact ⟨hpath, hnext, htu⟩

/-- The first edge of a nonempty path. -/
theorem cons_inv {s u : σ} {es : List (Edge σ Λ)} {e : Edge σ Λ} (h : M.Path s (e :: es) u) :
    s = e.src ∧ M.next e.src e.label e.dst ∧ M.Path e.dst es u := by
  rw [← List.nil_append (e :: es)] at h
  obtain ⟨hpre, hnext, hpost⟩ := h.split
  exact ⟨hpre.nil_inv, hnext, hpost⟩

/-- A step of a path leads from where the path starts, or from where another of its steps ended. -/
theorem src_of_mem {s u : σ} {es : List (Edge σ Λ)} {e : Edge σ Λ} (h : M.Path s es u) (hmem : e ∈ es) :
    e.src = s ∨ ∃ d ∈ es, d.dst = e.src := by
  obtain ⟨pre, post, rfl⟩ := List.append_of_mem hmem
  obtain ⟨hpre, -, -⟩ := h.split
  rcases List.eq_nil_or_concat pre with rfl | ⟨init, d, rfl⟩
  · exact .inl hpre.nil_inv.symm
  · rw [List.concat_eq_append] at hpre
    exact .inr ⟨d, by simp, hpre.snoc_inv.2.2.symm⟩

/-- Each edge of a path is a step. -/
theorem next_of_mem {s u : σ} {es : List (Edge σ Λ)} {e : Edge σ Λ} (h : M.Path s es u)
    (hmem : e ∈ es) : M.next e.src e.label e.dst := by
  obtain ⟨pre, post, rfl⟩ := List.append_of_mem hmem
  exact h.split.2.1

/-- A predicate every step preserves is preserved by a path. -/
theorem stable {P : σ → Prop} (hP : ∀ s l t, P s → M.next s l t → P t) {s t : σ}
    {es : List (Edge σ Λ)} (h : M.Path s es t) (hs : P s) : P t := by
  induction h with
  | nil => exact hs
  | snoc _ hnext ih => exact hP _ _ _ ih hnext

/-- So is one that the steps of this path preserve. -/
theorem stable_of_mem {P : σ → Prop} {s t : σ} {es : List (Edge σ Λ)} (h : M.Path s es t)
    (hP : ∀ e ∈ es, P e.src → P e.dst) (hs : P s) : P t := by
  induction h with
  | nil => exact hs
  | @snoc es t l u _ _ ih =>
      have ht : P t := ih fun e he => hP e (List.mem_append_left _ he)
      exact hP ⟨t, l, u⟩ (by simp) ht

/-- The same, where the steps of the path are known to be steps. -/
theorem induct_mem {P : σ → Prop} {s t : σ} {es : List (Edge σ Λ)} (h : M.Path s es t)
    (hP : ∀ e ∈ es, M.next e.src e.label e.dst → P e.src → P e.dst) (hs : P s) : P t :=
  h.stable_of_mem (fun e he => hP e he (h.next_of_mem he)) hs

/-- A predicate that a path loses is lost at one of its steps. -/
theorem lost {P : σ → Prop} {s t : σ} {es : List (Edge σ Λ)} (h : M.Path s es t) (hs : P s) (ht : ¬ P t) :
    ∃ e ∈ es, P e.src ∧ ¬ P e.dst := by
  by_contra hnone
  push Not at hnone
  exact ht (h.stable_of_mem (fun e he hsrc => hnone e he hsrc) hs)

/-- A measure no step decreases is not decreased by a path. -/
theorem monotone {α : Type*} [Preorder α] {f : σ → α} (hf : ∀ s l t, M.next s l t → f s ≤ f t)
    {s t : σ} {es : List (Edge σ Λ)} (h : M.Path s es t) : f s ≤ f t :=
  h.stable (P := fun u => f s ≤ f u) (fun _ _ _ hs hnext => hs.trans (hf _ _ _ hnext)) le_rfl

end Path

namespace Exec

theorem nil {s : σ} (h : M.init s) : M.Exec [] s :=
  ⟨s, h, .nil⟩

/-- A run goes on by a step. -/
theorem snoc {es : List (Edge σ Λ)} {s t : σ} {l : Λ} (h : M.Exec es s) (hnext : M.next s l t) :
    M.Exec (es ++ [⟨s, l, t⟩]) t := by
  obtain ⟨s₀, hinit, hpath⟩ := h
  exact ⟨s₀, hinit, .snoc hpath hnext⟩

/-- A run up to one of its edges, the edge, and the rest. -/
theorem split {es fs : List (Edge σ Λ)} {e : Edge σ Λ} {t : σ} (h : M.Exec (es ++ e :: fs) t) :
    M.Exec es e.src ∧ M.next e.src e.label e.dst ∧ M.Path e.dst fs t := by
  obtain ⟨s₀, hinit, hpath⟩ := h
  obtain ⟨hpre, hnext, hpost⟩ := hpath.split
  exact ⟨⟨s₀, hinit, hpre⟩, hnext, hpost⟩

theorem next_of_mem {es : List (Edge σ Λ)} {t : σ} (h : M.Exec es t) {e : Edge σ Λ} (he : e ∈ es) :
    M.next e.src e.label e.dst := by
  obtain ⟨_, _, hpath⟩ := h
  exact hpath.next_of_mem he

/-- The steps between two edges, if they preserve `P`, carry it from after the first to before the second. -/
theorem between {es : List (Edge σ Λ)} {t : σ} (h : M.Exec es t) {e f : Edge σ Λ} (hef : Precedes es e f)
    {P : σ → Prop} (hP : ∀ d ∈ es, Precedes es e d → P d.src → P d.dst) (he : P e.dst) : P f.src := by
  obtain ⟨pre, mid, post, rfl⟩ := hef
  obtain ⟨-, -, hpath⟩ := h.split
  obtain ⟨hmid, -, -⟩ := hpath.split
  apply hmid.stable_of_mem _ he
  intro d hd
  obtain ⟨a, b, rfl⟩ := List.append_of_mem hd
  exact hP d (by simp) ⟨pre, a, b ++ f :: post, by simp⟩

/-- What an edge establishes and every step preserves holds at the end. -/
theorem since {P : σ → Prop} (hP : ∀ s l t, P s → M.next s l t → P t) {es : List (Edge σ Λ)} {t : σ}
    (h : M.Exec es t) {e : Edge σ Λ} (he : e ∈ es) (hdst : P e.dst) : P t := by
  obtain ⟨pre, post, rfl⟩ := List.append_of_mem he
  exact h.split.2.2.stable hP hdst

/-- A measure no step decreases is no lower at an edge than after an earlier one. -/
theorem monotone_between {α : Type*} [Preorder α] {g : σ → α} (hg : ∀ s l t, M.next s l t → g s ≤ g t)
    {es : List (Edge σ Λ)} {t : σ} (h : M.Exec es t) {e f : Edge σ Λ} (hef : Precedes es e f) :
    g e.dst ≤ g f.src := by
  obtain ⟨pre, mid, post, rfl⟩ := hef
  obtain ⟨-, -, hpath⟩ := h.split
  exact hpath.split.1.monotone hg

/-- A predicate lost between two edges is lost at an edge between them. -/
theorem lost_between {P : σ → Prop} {es : List (Edge σ Λ)} {t : σ} (h : M.Exec es t) {e f : Edge σ Λ}
    (hef : Precedes es e f) (he : P e.dst) (hf : ¬ P f.src) :
    ∃ d, Precedes es e d ∧ Precedes es d f ∧ P d.src ∧ ¬ P d.dst := by
  obtain ⟨pre, mid, post, rfl⟩ := hef
  obtain ⟨-, -, hpath⟩ := h.split
  obtain ⟨d, hd, hsrc, hdst⟩ := hpath.split.1.lost he hf
  obtain ⟨a, b, rfl⟩ := List.append_of_mem hd
  exact ⟨d, ⟨pre, a, b ++ f :: post, by simp⟩, ⟨pre ++ e :: a, b, post, by simp⟩, hsrc, hdst⟩

/-- The induction over runs: a relation between the edges taken so far and the state reached. -/
theorem induct {I : List (Edge σ Λ) → σ → Prop} (hinit : ∀ s, M.init s → I [] s)
    (hstep : ∀ es s l t, M.Exec es s → I es s → M.next s l t → I (es ++ [⟨s, l, t⟩]) t)
    {es : List (Edge σ Λ)} {t : σ} (h : M.Exec es t) : I es t := by
  obtain ⟨s₀, h₀, hpath⟩ := h
  induction hpath with
  | nil => exact hinit _ h₀
  | snoc hpre hnext ih => exact hstep _ _ _ _ ⟨s₀, h₀, hpre⟩ ih hnext

/-- What is there at the start and kept by every step is there after every run. -/
theorem invariant {P : σ → Prop} (hP : M.Invariant P) {es : List (Edge σ Λ)} {t : σ}
    (h : M.Exec es t) : P t :=
  h.induct (I := fun _ t => P t) hP.init (fun _ _ _ _ _ hs hnext => hP.step _ _ _ hs hnext)

/-- If `P` fails initially and every step that establishes `P` is a `Q` step, then a run that ends in
    `P` has a `Q` step after which `P` held throughout. -/
theorem witness {P : σ → Prop} {Q : Edge σ Λ → Prop} (hinit : ∀ s, M.init s → ¬ P s)
    (hstep : ∀ s l t, M.next s l t → P t → P s ∨ Q ⟨s, l, t⟩)
    {es : List (Edge σ Λ)} {t : σ} (h : M.Exec es t) (ht : P t) :
    ∃ pre e post, es = pre ++ e :: post ∧ Q e ∧ ∀ d ∈ post, P d.src ∧ P d.dst := by
  revert ht
  refine h.induct (I := fun es t => P t → ∃ pre e post, es = pre ++ e :: post ∧ Q e ∧
    ∀ d ∈ post, P d.src ∧ P d.dst) (fun s hs hP => absurd hP (hinit s hs)) ?_
  intro es s l t _ ih hnext ht
  by_cases hs : P s
  · obtain ⟨pre, e, post, rfl, hQ, hpost⟩ := ih hs
    refine ⟨pre, e, post ++ [⟨s, l, t⟩], by simp, hQ, ?_⟩
    intro d hd
    rcases List.mem_append.mp hd with hd | hd
    · exact hpost d hd
    · obtain rfl := List.mem_singleton.mp hd
      exact ⟨hs, ht⟩
  · rcases hstep s l t hnext ht with hs' | hQ
    · exact absurd hs' hs
    · exact ⟨es, ⟨s, l, t⟩, [], rfl, hQ, by simp⟩

end Exec

/-! ### Runs computed from their labels -/

section Trace

variable (after : σ → Λ → σ) (enabled : σ → Λ → Bool)

/-- The edges a list of labels leads through. -/
def trace : σ → List Λ → List (Edge σ Λ)
  | _, [] => []
  | s, l :: ls => ⟨s, l, after s l⟩ :: trace (after s l) ls

/-- Every label is enabled where it is taken. -/
def allEnabled : σ → List Λ → Bool
  | _, [] => true
  | s, l :: ls => enabled s l && allEnabled (after s l) ls

variable {after enabled}

/-- The trace of labels in two parts. -/
theorem trace_append (s : σ) (ls ms : List Λ) :
    trace after s (ls ++ ms) = trace after s ls ++ trace after (ls.foldl after s) ms := by
  induction ls generalizing s with
  | nil => rfl
  | cons l ls ih => simp [trace, ih]

theorem trace_labels (s : σ) (ls : List Λ) : (trace after s ls).map Edge.label = ls := by
  induction ls generalizing s with
  | nil => rfl
  | cons l ls ih => simp [trace, ih]

/-- The last label is taken where the others lead. -/
theorem mem_trace_append (s : σ) (ls : List Λ) (l : Λ) :
    (⟨ls.foldl after s, l, after (ls.foldl after s) l⟩ : Edge σ Λ) ∈ trace after s (ls ++ [l]) := by
  rw [trace_append]
  exact List.mem_append_right _ (List.mem_singleton_self _)

/-- Labels that are enabled one after another are a path. -/
theorem Path.trace (hsound : ∀ s l, enabled s l = true → M.next s l (after s l)) {s : σ} {ls : List Λ}
    (h : allEnabled after enabled s ls = true) : M.Path s (trace after s ls) (ls.foldl after s) := by
  induction ls generalizing s with
  | nil => exact .nil
  | cons l ls ih =>
      rw [allEnabled, Bool.and_eq_true] at h
      exact (Path.single (hsound s l h.1)).append (ih h.2)

/-- Labels that are enabled one after the other make a run. -/
theorem Exec.trace (hsound : ∀ s l, enabled s l = true → M.next s l (after s l)) {s : σ} (hinit : M.init s)
    {ls : List Λ} (h : allEnabled after enabled s ls = true) : M.Exec (trace after s ls) (ls.foldl after s) :=
  ⟨s, hinit, .trace hsound h⟩

/-- The same, with the last edge named. -/
theorem Exec.trace_snoc (hsound : ∀ s l, enabled s l = true → M.next s l (after s l)) {s : σ} (hinit : M.init s)
    {ls : List Λ} {l : Λ} (h : allEnabled after enabled s (ls ++ [l]) = true) :
    M.Exec (Lts.trace after s ls ++ [⟨ls.foldl after s, l, after (ls.foldl after s) l⟩])
      (after (ls.foldl after s) l) := by
  have hexec := Exec.trace hsound hinit h
  rw [trace_append, List.foldl_append] at hexec
  exact hexec

end Trace

theorem Reachable.invariant {P : σ → Prop} (hP : M.Invariant P) {t : σ} (h : M.Reachable t) : P t := by
  obtain ⟨es, hes⟩ := h
  exact hes.invariant hP

end Lts
