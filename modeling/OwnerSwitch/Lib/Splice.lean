/-
Module: OwnerSwitch.Lib.Splice
Layer: Lib
Purpose: Replacing every occurrence of a word in a text, as `text.split(word).join(marker)` does, and
  replacing several words one after another. A marker that stands between two fences which no word holds,
  and whose inside holds no word, can neither compose an occurrence of a word nor hide one: what is
  masked stays masked whatever is replaced next.
Imports: none of the project
Trusted boundary: none
Main exports: split, replaceAll, maskAll, Apart, infix_of_maskAll, not_infix_maskAll, maskAll_eq_self
Open obligations: none
-/
import Mathlib.Data.List.Basic
import Mathlib.Data.List.Infix

namespace Splice

variable {α : Type*}

section Words

variable {l xs ys : List α} {c : α}

/-- A word that does not hold a letter lies on one side of it. -/
theorem infix_of_not_mem (hc : c ∉ l) (h : l <:+: xs ++ c :: ys) : l <:+: xs ∨ l <:+: ys := by
  rcases List.infix_append_iff.mp h with hxs | hys | ⟨l₁, l₂, rfl, hsuf, hpre⟩
  · exact .inl hxs
  · rcases List.infix_cons_iff.mp hys with hpre | hys
    · cases l with
      | nil => exact .inl List.nil_infix
      | cons a l =>
          obtain ⟨rfl, -⟩ := List.cons_prefix_cons.mp hpre
          exact absurd (List.mem_cons_self ..) hc
    · exact .inr hys
  · cases l₂ with
    | nil => exact .inl (by simpa using hsuf.isInfix)
    | cons a l₂ =>
        obtain ⟨rfl, -⟩ := List.cons_prefix_cons.mp hpre
        exact absurd (by simp) hc

end Words

/-! ### Splitting at a word -/

variable [DecidableEq α]

/-- The pieces of a text between the occurrences of a word, the first units belonging to an occurrence
    that has already begun. Occurrences are taken from the left and do not overlap. -/
def splitFrom (sep : List α) : Nat → List α → List (List α)
  | _, [] => [[]]
  | k + 1, _ :: t => splitFrom sep k t
  | 0, c :: t =>
      if sep <+: c :: t then [] :: splitFrom sep (sep.length - 1) t
      else (splitFrom sep 0 t).modifyHead (c :: ·)

/-- `text.split(sep)` for a word that is not empty. -/
def split (sep text : List α) : List (List α) :=
  splitFrom sep 0 text

/-- `text.split(sep).join(marker)` -/
def replaceAll (marker sep text : List α) : List α :=
  ((split sep text).intersperse marker).flatten

section Split

variable {sep : List α}

theorem splitFrom_ne_nil (k : Nat) (text : List α) : splitFrom sep k text ≠ [] := by
  induction text generalizing k with
  | nil => simp [splitFrom]
  | cons c t ih =>
      cases k with
      | succ k => exact ih k
      | zero =>
          simp only [splitFrom]
          split
          · simp
          · obtain ⟨p, ps, hps⟩ := List.exists_cons_of_ne_nil (ih 0)
            simp [hps]

/-- The first piece begins the text. -/
theorem head_prefix {p : List α} {ps : List (List α)} {text : List α} (h : splitFrom sep 0 text = p :: ps) :
    p <+: text := by
  induction text generalizing p ps with
  | nil =>
      simp only [splitFrom, List.cons.injEq] at h
      rw [← h.1]
  | cons c t ih =>
      simp only [splitFrom] at h
      split at h
      · obtain ⟨rfl, -⟩ := List.cons.inj h
        exact List.nil_prefix
      · obtain ⟨q, qs, hqs⟩ := List.exists_cons_of_ne_nil (show splitFrom sep 0 t ≠ [] from splitFrom_ne_nil 0 t)
        rw [hqs, List.modifyHead_cons] at h
        obtain ⟨rfl, -⟩ := List.cons.inj h
        exact List.cons_prefix_cons.mpr ⟨rfl, ih hqs⟩

/-- Every piece is a part of the text. -/
theorem piece_within {k : Nat} {p text : List α} (h : p ∈ splitFrom sep k text) : p <:+: text := by
  induction text generalizing k p with
  | nil =>
      simp only [splitFrom, List.mem_singleton] at h
      rw [h]
  | cons c t ih =>
      cases k with
      | succ k => exact List.infix_cons (ih h)
      | zero =>
          obtain ⟨q, qs, hqs⟩ := List.exists_cons_of_ne_nil (show splitFrom sep 0 t ≠ [] from splitFrom_ne_nil 0 t)
          simp only [splitFrom] at h
          split at h
          · cases List.mem_cons.mp h with
            | inl hp => exact hp ▸ List.nil_infix
            | inr hp => exact List.infix_cons (ih hp)
          · rw [hqs, List.modifyHead_cons] at h
            cases List.mem_cons.mp h with
            | inl hp => exact hp ▸ (List.cons_prefix_cons.mpr ⟨rfl, head_prefix hqs⟩).isInfix
            | inr hp => exact List.infix_cons (ih (k := 0) (hqs ▸ List.mem_cons_of_mem q hp))

/-- No piece holds the word. -/
theorem piece_clean {k : Nat} {p text : List α} (hsep : sep ≠ []) (h : p ∈ splitFrom sep k text) :
    ¬ sep <:+: p := by
  induction text generalizing k p with
  | nil =>
      simp only [splitFrom, List.mem_singleton] at h
      rw [h, List.infix_nil]
      exact hsep
  | cons c t ih =>
      cases k with
      | succ k => exact ih h
      | zero =>
          obtain ⟨q, qs, hqs⟩ := List.exists_cons_of_ne_nil (show splitFrom sep 0 t ≠ [] from splitFrom_ne_nil 0 t)
          simp only [splitFrom] at h
          split at h
          · cases List.mem_cons.mp h with
            | inl hp => rw [hp, List.infix_nil]; exact hsep
            | inr hp => exact ih hp
          · rename_i hno
            rw [hqs, List.modifyHead_cons] at h
            cases List.mem_cons.mp h with
            | inr hp => exact ih (k := 0) (hqs ▸ List.mem_cons_of_mem q hp)
            | inl hp =>
                intro hin
                rw [hp] at hin
                cases List.infix_cons_iff.mp hin with
                | inl hpre =>
                    exact hno (hpre.trans (List.cons_prefix_cons.mpr ⟨rfl, head_prefix hqs⟩))
                | inr hin => exact ih (k := 0) (hqs ▸ List.mem_cons_self ..) hin

/-- A text without the word is one piece. -/
theorem split_eq_self {text : List α} (h : ¬ sep <:+: text) : split sep text = [text] := by
  induction text with
  | nil => rfl
  | cons c t ih =>
      have hpre : ¬ sep <+: c :: t := fun hpre => h hpre.isInfix
      have htail : ¬ sep <:+: t := fun hin => h (List.infix_cons hin)
      rw [split, splitFrom, if_neg hpre]
      exact (congrArg (List.modifyHead (c :: ·)) (ih htail)).trans rfl

end Split

/-! ### Fenced markers -/

/-- A marker: a word between two fences. -/
def fenced (o c : α) (w : List α) : List α :=
  o :: (w ++ [c])

/-- The word keeps away from the marker: it holds neither fence and is no part of the inside. -/
structure Apart (o c : α) (w l : List α) : Prop where
  openFence : o ∉ l
  closeFence : c ∉ l
  inside : ¬ l <:+: w

/-- The texts one after another, each with its words masked. -/
def maskAll (marker : List α) (seps : List (List α)) (text : List α) : List α :=
  seps.foldl (fun out sep => replaceAll marker sep out) text

section Masking

variable {o c : α} {w : List α}

omit [DecidableEq α] in
theorem Apart.ne_nil {l : List α} (h : Apart o c w l) : l ≠ [] := fun hnil =>
  h.inside (hnil ▸ List.nil_infix)

omit [DecidableEq α] in
/-- A word in pieces joined by the marker is in one of the pieces. -/
theorem infix_of_joined {l : List α} (h : Apart o c w l) {ps : List (List α)}
    (hin : l <:+: (ps.intersperse (fenced o c w)).flatten) : ∃ p ∈ ps, l <:+: p := by
  induction ps with
  | nil => exact absurd (List.infix_nil.mp hin) h.ne_nil
  | cons p ps ih =>
      cases ps with
      | nil => exact ⟨p, by simp, by simpa using hin⟩
      | cons q qs =>
          have hshape : ((p :: q :: qs).intersperse (fenced o c w)).flatten
              = p ++ o :: (w ++ c :: ((q :: qs).intersperse (fenced o c w)).flatten) := by
            simp [fenced]
          rw [hshape] at hin
          rcases infix_of_not_mem h.openFence hin with hp | hrest
          · exact ⟨p, by simp, hp⟩
          · rcases infix_of_not_mem h.closeFence hrest with hw | hrest
            · exact absurd hw h.inside
            · obtain ⟨r, hr, hlr⟩ := ih hrest
              exact ⟨r, List.mem_cons_of_mem p hr, hlr⟩

/-- A replacement composes no word. -/
theorem infix_of_replaceAll {l sep text : List α} (h : Apart o c w l)
    (hin : l <:+: replaceAll (fenced o c w) sep text) : l <:+: text := by
  obtain ⟨p, hp, hlp⟩ := infix_of_joined h hin
  exact hlp.trans (piece_within hp)

/-- A replaced word is gone. -/
theorem not_infix_replaceAll {sep : List α} (h : Apart o c w sep) (text : List α) :
    ¬ sep <:+: replaceAll (fenced o c w) sep text := by
  intro hin
  obtain ⟨p, hp, hsep⟩ := infix_of_joined h hin
  exact piece_clean h.ne_nil hp hsep

theorem replaceAll_eq_self {marker sep text : List α} (h : ¬ sep <:+: text) :
    replaceAll marker sep text = text := by
  simp [replaceAll, split_eq_self h]

/-- Masking composes no word. -/
theorem infix_of_maskAll {l : List α} (h : Apart o c w l) {seps : List (List α)} {text : List α}
    (hin : l <:+: maskAll (fenced o c w) seps text) : l <:+: text := by
  induction seps generalizing text with
  | nil => exact hin
  | cons sep seps ih => exact infix_of_replaceAll h (ih hin)

/-- After masking, none of the words is left, in whatever order they were taken. -/
theorem not_infix_maskAll {seps : List (List α)} (h : ∀ sep ∈ seps, Apart o c w sep) {sep : List α}
    (hsep : sep ∈ seps) (text : List α) : ¬ sep <:+: maskAll (fenced o c w) seps text := by
  induction seps generalizing text with
  | nil => cases hsep
  | cons s seps ih =>
      cases List.mem_cons.mp hsep with
      | inl hs =>
          intro hin
          subst hs
          exact not_infix_replaceAll (h sep (by simp)) text
            (infix_of_maskAll (h sep (by simp)) hin)
      | inr hs => exact ih (fun t ht => h t (List.mem_cons_of_mem s ht)) hs _

/-- A text with none of the words is left as it is. -/
theorem maskAll_eq_self {marker text : List α} {seps : List (List α)} (h : ∀ sep ∈ seps, ¬ sep <:+: text) :
    maskAll marker seps text = text := by
  induction seps with
  | nil => rfl
  | cons s seps ih =>
      rw [maskAll, List.foldl_cons, replaceAll_eq_self (h s (by simp))]
      exact ih fun t ht => h t (List.mem_cons_of_mem s ht)

end Masking

end Splice
