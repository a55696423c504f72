/-
Module: OwnerSwitch.Lib.JsTrim
Layer: Lib
Purpose: White space of the language and `trim`.
Imports: JsString
Trusted boundary: none
Main exports: JsString.isWhite, JsString.trim, JsString.length_trimStart_le, JsString.trim_of_suffix
Open obligations: none
-/
import Mathlib.Data.List.DropRight
import Mathlib.Data.List.TakeWhile
import OwnerSwitch.Lib.JsString

namespace JsString

/-- White space or a line terminator: what `trim` removes and `\s` matches. -/
def isWhite (u : UInt16) : Bool :=
  (0x09 ≤ u && u ≤ 0x0D) || u = 0x20 || u = 0xA0 || u = 0x1680 || (0x2000 ≤ u && u ≤ 0x200A)
    || u = 0x2028 || u = 0x2029 || u = 0x202F || u = 0x205F || u = 0x3000 || u = 0xFEFF

def trimStart (s : JsString) : JsString :=
  s.dropWhile isWhite

def trimEnd (s : JsString) : JsString :=
  (s.reverse.dropWhile isWhite).reverse

/-- `s.trim()` -/
def trim (s : JsString) : JsString :=
  trimEnd (trimStart s)

variable {s t : JsString}

theorem trimStart_suffix (s : JsString) : trimStart s <:+ s :=
  List.dropWhile_suffix _

theorem trimEnd_prefix (s : JsString) : trimEnd s <+: s := by
  rw [trimEnd, ← List.reverse_suffix, List.reverse_reverse]
  exact List.dropWhile_suffix _

/-- What begins with no white space is left as it is. -/
theorem trimStart_trimStart (s : JsString) : trimStart (trimStart s) = trimStart s := by
  unfold trimStart
  exact List.dropWhile_idempotent ..

/-- Trimming a trimmed text changes nothing. -/
theorem trim_trim (s : JsString) : trim (trim s) = trim s := by
  have hstart : trimStart (trim s) = trim s := by
    unfold trimStart
    rw [List.dropWhile_eq_self_iff]
    intro hpos
    have hhead : trim s <+: trimStart s := trimEnd_prefix _
    rw [hhead.getElem hpos]
    exact List.dropWhile_eq_self_iff.mp (trimStart_trimStart s) (Nat.lt_of_lt_of_le hpos hhead.length_le)
  have hend : trimEnd (trim s) = trim s := by
    rw [trim, trimEnd, trimEnd, List.reverse_reverse, List.dropWhile_idempotent]
  rw [trim, hstart, hend]

/-- A unit that is no white space stays. -/
theorem mem_trim {u : UInt16} (hu : isWhite u = false) (h : u ∈ s) : u ∈ trim s := by
  have hdrop : ∀ l : JsString, u ∈ l → u ∈ l.dropWhile isWhite := by
    intro l hl
    rw [← List.takeWhile_append_dropWhile (p := isWhite) (l := l)] at hl
    rcases List.mem_append.mp hl with hwhite | hl
    · rw [List.mem_takeWhile_imp hwhite] at hu
      cases hu
    · exact hl
  exact List.mem_reverse.mpr (hdrop _ (List.mem_reverse.mpr (hdrop s h)))

/-- An end of a text does not end in less white space. -/
theorem length_trimEnd_lt (h : t <:+ s) (hne : t ≠ s) (hs : trimEnd s ≠ []) :
    (trimEnd t).length < (trimEnd s).length := by
  obtain ⟨r, rfl⟩ := h
  have hr : r ≠ [] := by
    rintro rfl
    exact hne rfl
  rw [trimEnd, List.reverse_append, ne_eq, List.reverse_eq_nil_iff, List.dropWhile_append] at hs
  rw [trimEnd, trimEnd, List.reverse_append, List.dropWhile_append, List.length_reverse, List.length_reverse]
  split at hs
  · rename_i hwhite
    rw [if_pos hwhite, List.isEmpty_iff.mp hwhite]
    exact List.length_pos_of_ne_nil hs
  · rename_i hwhite
    rw [if_neg hwhite, List.length_append]
    have hpos := List.length_pos_of_ne_nil (List.reverse_ne_nil_iff.mpr hr)
    omega

/-- An end that trims to the same text holds all of it. -/
theorem length_trimStart_le (h : t <:+ s) (htrim : trim t = trim s) (hs : trim s ≠ []) :
    (trimStart s).length ≤ t.length := by
  by_contra hshort
  have hsuffix : trimStart t <:+ trimStart s := by
    refine List.suffix_of_suffix_length_le ((trimStart_suffix t).trans h) (trimStart_suffix s) ?_
    have hle := (trimStart_suffix t).length_le
    omega
  have hne : trimStart t ≠ trimStart s := by
    intro heq
    have hle := (trimStart_suffix t).length_le
    rw [heq] at hle
    exact hshort hle
  have hlt := length_trimEnd_lt hsuffix hne hs
  rw [trim, trim] at htrim
  rw [htrim] at hlt
  exact Nat.lt_irrefl _ hlt

/-- White space at the start makes no difference. -/
theorem trim_of_suffix (h : t <:+ s) (hle : (trimStart s).length ≤ t.length) : trim t = trim s := by
  have hsuffix : trimStart s <:+ t := List.suffix_of_suffix_length_le (trimStart_suffix s) h hle
  obtain ⟨r, rfl⟩ := hsuffix
  have hr : ∀ u ∈ r, isWhite u = true := by
    obtain ⟨q, hq⟩ := h
    rw [← List.append_assoc] at hq
    have hwhite : s.takeWhile isWhite ++ trimStart s = (q ++ r) ++ trimStart s := by
      rw [hq]
      exact List.takeWhile_append_dropWhile
    intro u hu
    apply List.mem_takeWhile_imp (l := s)
    rw [List.append_cancel_right hwhite]
    exact List.mem_append_right _ hu
  have hstart : trimStart (r ++ trimStart s) = trimStart s := by
    rw [trimStart, List.dropWhile_append_of_pos hr]
    exact trimStart_trimStart s
  rw [trim, hstart, trim]

end JsString
