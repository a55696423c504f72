/-
Module: OwnerSwitch.Lib.JsonSearch
Layer: Lib
Purpose: Searching the compact text of a value. It is one printable line; and a word of letters, digits, hyphens
  and underscores that begins with no letter an escape could show, and has a capital no numeral has, occurs in it
  exactly where it occurs in a string or in a key of the value: neither escapes nor quotes, separators, nesting
  and numerals hide an occurrence or compose one.
Imports: Lib.JsonSize, Lib.Splice
Trusted boundary: none
Main exports: printable_stringify, texts, Word, infix_stringify_iff
Open obligations: none
-/
import OwnerSwitch.Lib.JsonSize
import OwnerSwitch.Lib.Splice

namespace Json

/-! ### One printable line -/

theorem printable_quote {s : JsString} {u : UInt16} (h : u ∈ quote s) : 0x20 ≤ u := by
  have hescape : ∀ u, isEscapeUnit u = true → 0x20 ≤ u := by
    intro u hu
    simp only [isEscapeUnit, isDigit, Bool.or_eq_true, Bool.and_eq_true, decide_eq_true_eq,
      UInt16.le_iff_toNat_le] at hu ⊢
    rcases hu with ((((((((rfl | rfl) | rfl) | rfl) | rfl) | rfl) | rfl) | rfl) | hu) | hu
    iterate 8 decide
    · exact Nat.le_trans (by decide) hu.1
    · exact Nat.le_trans (by decide) hu.1
  rcases List.mem_cons.mp h with rfl | h
  · decide
  · rcases List.mem_append.mp h with h | h
    · rcases mem_quoteUnits h with hs | he
      · exact hs.2
      · exact hescape u he
    · rw [List.mem_singleton.mp h]
      decide

theorem printable_numText {d : Decimal} {u : UInt16} (h : u ∈ numText d) : 0x20 ≤ u := by
  have hunit := numText_units h
  simp only [isNumUnit, isDigit, Bool.or_eq_true, Bool.and_eq_true, decide_eq_true_eq] at hunit
  rcases hunit with ((((hunit | rfl) | rfl) | rfl) | rfl) | rfl
  · exact UInt16.le_trans (by decide) hunit.1
  iterate 5 decide

mutual

/-- A value is written without control characters. -/
theorem printable_render (ind : Nat) : ∀ v : Json, ∀ u ∈ render 0 ind v, 0x20 ≤ u
  | .null => by rw [render]; exact List.all_iff_forall_prop.mp (by decide +kernel)
  | .bool true => by rw [render]; exact List.all_iff_forall_prop.mp (by decide +kernel)
  | .bool false => by rw [render]; exact List.all_iff_forall_prop.mp (by decide +kernel)
  | .num _ => fun _ => printable_numText
  | .str _ => fun _ => printable_quote
  | .arr [] => by rw [render]; exact List.all_iff_forall_prop.mp (by decide +kernel)
  | .arr (x :: xs) => by
      intro u hu
      simp only [render, newline, if_true, List.nil_append, List.append_nil, List.mem_cons, List.mem_append,
        List.not_mem_nil, or_false] at hu
      rcases hu with rfl | (hx | hxs) | rfl
      · decide
      · exact printable_render _ x u hx
      · exact printable_renderElems _ xs u hxs
      · decide
  | .obj [] => by rw [render]; exact List.all_iff_forall_prop.mp (by decide +kernel)
  | .obj ((k, x) :: fs) => by
      intro u hu
      simp only [render, newline, colon, if_true, List.nil_append, List.append_nil, List.mem_cons, List.mem_append,
        List.not_mem_nil, or_false] at hu
      rcases hu with rfl | (((hk | rfl) | hx) | hfs) | rfl
      · decide
      · exact printable_quote hk
      · decide
      · exact printable_render _ x u hx
      · exact printable_renderMembers _ fs u hfs
      · decide

theorem printable_renderElems (ind : Nat) : ∀ xs : List Json, ∀ u ∈ renderElems 0 ind xs, 0x20 ≤ u
  | [] => nofun
  | x :: xs => by
      intro u hu
      simp only [renderElems, newline, if_true, List.nil_append, List.mem_cons, List.mem_append] at hu
      rcases hu with rfl | hx | hxs
      · decide
      · exact printable_render _ x u hx
      · exact printable_renderElems _ xs u hxs

theorem printable_renderMembers (ind : Nat) :
    ∀ fs : List (JsString × Json), ∀ u ∈ renderMembers 0 ind fs, 0x20 ≤ u
  | [] => nofun
  | (k, x) :: fs => by
      intro u hu
      simp only [renderMembers, newline, colon, if_true, List.nil_append, List.mem_cons, List.mem_append,
        List.not_mem_nil, or_false] at hu
      rcases hu with rfl | ((hk | rfl) | hx) | hfs
      · decide
      · exact printable_quote hk
      · decide
      · exact printable_render _ x u hx
      · exact printable_renderMembers _ fs u hfs

end

/-- The compact text holds no control character, line breaks included. -/
theorem printable_stringify {v : Json} {u : UInt16} (h : u ∈ stringify v) : 0x20 ≤ u :=
  printable_render 0 v u h

/-! ### Words -/

/-- A letter, a digit, a hyphen or an underscore. -/
def isWordUnit (u : UInt16) : Bool :=
  isDigit u || (0x41 ≤ u && u ≤ 0x5A) || (0x61 ≤ u && u ≤ 0x7A) || u = 0x2D || u = 0x5F

/-- A word that the syntax around a string can neither hide nor compose. -/
structure Word (t : JsString) : Prop where
  units : ∀ u ∈ t, isWordUnit u = true
  head : ∃ c rest, t = c :: rest ∧ isEscapeUnit c = false
  capital : ∃ c ∈ t, 0x41 ≤ c ∧ c ≤ 0x5A ∧ c ≠ 0x45

mutual

/-- Every string and every key of a value. -/
def texts : Json → List JsString
  | .null | .bool _ | .num _ => []
  | .str s => [s]
  | .arr xs => textsElems xs
  | .obj fs => textsMembers fs

def textsElems : List Json → List JsString
  | [] => []
  | x :: xs => texts x ++ textsElems xs

def textsMembers : List (JsString × Json) → List JsString
  | [] => []
  | (k, x) :: fs => k :: (texts x ++ textsMembers fs)

end

section Search

variable {t : JsString}

/-- Between escapes the text runs as the string does. -/
theorem prefix_of_prefix_quoteUnits {s : JsString} (hslash : 0x5C ∉ t) (h : t <+: quoteUnits s) : t <+: s := by
  have hcons : ∀ (u : UInt16) (q r : JsString), (∀ t, 0x5C ∉ t → t <+: q → t <+: r) → ∀ t, 0x5C ∉ t →
      t <+: quoteUnit u ++ q → t <+: u :: r := by
    intro u q r ih t hslash h
    rcases quoteUnit_cases u with ⟨hq, -⟩ | ⟨e, hq, -⟩
    · rw [hq, List.singleton_append] at h
      cases t with
      | nil => exact List.nil_prefix
      | cons c t =>
          obtain ⟨hc, ht⟩ := List.cons_prefix_cons.mp h
          exact List.cons_prefix_cons.mpr ⟨hc, ih t (fun hmem => hslash (List.mem_cons_of_mem c hmem)) ht⟩
    · rw [hq, List.cons_append] at h
      cases t with
      | nil => exact List.nil_prefix
      | cons c t =>
          obtain ⟨rfl, -⟩ := List.cons_prefix_cons.mp h
          exact absurd (List.mem_cons_self ..) hslash
  induction s using quoteUnits.induct generalizing t with
  | case1 => exact h
  | case2 u =>
      refine hcons u [] [] (fun _ _ h => h) t hslash ?_
      rwa [List.append_nil]
  | case3 u v s hpair ih =>
      simp only [quoteUnits, hpair, if_true] at h
      cases t with
      | nil => exact List.nil_prefix
      | cons c t =>
          obtain ⟨hc, ht⟩ := List.cons_prefix_cons.mp h
          refine List.cons_prefix_cons.mpr ⟨hc, ?_⟩
          cases t with
          | nil => exact List.nil_prefix
          | cons d t =>
              obtain ⟨hd, ht⟩ := List.cons_prefix_cons.mp ht
              refine List.cons_prefix_cons.mpr ⟨hd, ih (fun hmem => hslash ?_) ht⟩
              exact List.mem_cons_of_mem c (List.mem_cons_of_mem d hmem)
  | case4 u v s hpair ih =>
      rw [quoteUnits, if_neg hpair] at h
      exact hcons u (quoteUnits (v :: s)) (v :: s) (fun t ht h => ih ht h) t hslash h

/-- No occurrence begins inside an escape. -/
theorem infix_of_infix_escape {c : UInt16} {rest : JsString} (hc : isEscapeUnit c = false) {e q : JsString}
    (he : ∀ x ∈ e, isEscapeUnit x = true) (h : c :: rest <:+: e ++ q) : c :: rest <:+: q := by
  induction e with
  | nil => exact h
  | cons x e ih =>
      rcases List.infix_cons_iff.mp h with hpre | htail
      · obtain ⟨rfl, -⟩ := List.cons_prefix_cons.mp hpre
        rw [he c (List.mem_cons_self ..)] at hc
        cases hc
      · exact ih (fun y hy => he y (List.mem_cons_of_mem x hy)) htail

/-- A word has no backslash. -/
theorem Word.no_slash (h : Word t) : 0x5C ∉ t := fun hmem => by
  have hunit := h.units _ hmem
  revert hunit
  decide

/-- A word between the quotes is a word of the string. -/
theorem Word.infix_of_quoteUnits (hw : Word t) {s : JsString} (h : t <:+: quoteUnits s) : t <:+: s := by
  obtain ⟨c, rest, ht, hc⟩ := hw.head
  have hslash := hw.no_slash
  have hcons : ∀ (u : UInt16) (q s : JsString), (t <:+: q → t <:+: s) → (t <+: quoteUnit u ++ q → t <+: u :: s) →
      t <:+: quoteUnit u ++ q → t <:+: u :: s := by
    intro u q s ih hstarts h
    rcases quoteUnit_cases u with ⟨hq, -⟩ | ⟨e, hq, he⟩
    · rw [hq, List.singleton_append] at h hstarts
      rcases List.infix_cons_iff.mp h with hpre | htail
      · exact (hstarts hpre).isInfix
      · exact List.infix_cons (ih htail)
    · rw [hq] at h
      have hall : ∀ x ∈ (0x5C : UInt16) :: e, isEscapeUnit x = true := fun x hx => by
        cases List.mem_cons.mp hx with
        | inl hx => rw [hx]; rfl
        | inr hx => exact he x hx
      rw [ht] at h ih ⊢
      exact List.infix_cons (ih (infix_of_infix_escape hc hall h))
  induction s using quoteUnits.induct with
  | case1 => exact h
  | case2 u =>
      refine hcons u [] [] (fun h => h) (fun hpre => ?_) (by rwa [List.append_nil])
      exact prefix_of_prefix_quoteUnits hslash (by rwa [List.append_nil] at hpre)
  | case3 u v s hpair ih =>
      have hstarts := fun hpre => prefix_of_prefix_quoteUnits (t := t) (s := u :: v :: s) hslash hpre
      simp only [quoteUnits, hpair, if_true] at h hstarts
      rcases List.infix_cons_iff.mp h with hpre | htail
      · exact (hstarts hpre).isInfix
      · refine List.infix_cons ?_
        rcases List.infix_cons_iff.mp htail with hpre | htail
        · rw [ht] at hpre hslash ⊢
          obtain ⟨rfl, hrest⟩ := List.cons_prefix_cons.mp hpre
          refine (List.cons_prefix_cons.mpr ⟨rfl, prefix_of_prefix_quoteUnits (fun hmem => ?_) hrest⟩).isInfix
          exact hslash (List.mem_cons_of_mem c hmem)
        · exact List.infix_cons (ih htail)
  | case4 u v s hpair ih =>
      have hstarts := fun hpre => prefix_of_prefix_quoteUnits (t := t) (s := u :: v :: s) hslash hpre
      rw [quoteUnits, if_neg hpair] at h hstarts
      exact hcons u (quoteUnits (v :: s)) (v :: s) ih hstarts h

theorem Word.quoteUnit (hw : Word t) {u : UInt16} (h : u ∈ t) :
    Json.quoteUnit u = [u] ∧ isHighSurrogate u = false ∧ isLowSurrogate u = false := by
  have hunit := hw.units u h
  simp only [isWordUnit, isDigit, Bool.or_eq_true, Bool.and_eq_true, decide_eq_true_eq,
    UInt16.le_iff_toNat_le, ← UInt16.toNat_inj] at hunit
  simp only [UInt16.reduceToNat] at hunit
  have hhigh : isHighSurrogate u = false := by
    simp only [isHighSurrogate, Bool.and_eq_false_iff, decide_eq_false_iff_not]
    omega
  have hlow : isLowSurrogate u = false := by
    simp only [isLowSurrogate, Bool.and_eq_false_iff, decide_eq_false_iff_not]
    omega
  refine ⟨?_, hhigh, hlow⟩
  have hne : ∀ n : UInt16, (n.toNat < 0x2D ∨ n.toNat = 0x5C) → u ≠ n := by
    rintro n hn rfl
    omega
  have hge : ¬ u < 0x20 := by
    rw [UInt16.lt_iff_toNat_lt]
    simp only [UInt16.reduceToNat]
    omega
  rw [Json.quoteUnit, if_neg (hne 0x22 (.inl (by decide))), if_neg (hne 0x5C (.inr rfl)),
    if_neg (hne 0x08 (.inl (by decide))), if_neg (hne 0x0C (.inl (by decide))), if_neg (hne 0x0A (.inl (by decide))),
    if_neg (hne 0x0D (.inl (by decide))), if_neg (hne 0x09 (.inl (by decide))), if_neg]
  simp [hge, hhigh, hlow]

/-- What stands before a unit that is no low surrogate is quoted on its own. -/
theorem quoteUnits_append {c : UInt16} (hc : isLowSurrogate c = false) (s r : JsString) :
    quoteUnits (s ++ c :: r) = quoteUnits s ++ quoteUnits (c :: r) := by
  induction s using quoteUnits.induct with
  | case1 => rfl
  | case2 u =>
      have hpair : ¬ (isHighSurrogate u && isLowSurrogate c) = true := by simp [hc]
      rw [List.singleton_append, quoteUnits.eq_3, if_neg hpair, quoteUnits.eq_2]
  | case3 u v s hpair ih => simp only [List.cons_append, quoteUnits, hpair, if_true, ih]
  | case4 u v s hpair ih =>
      rw [List.cons_append, List.cons_append, quoteUnits, if_neg hpair, ← List.cons_append, ih]
      conv_rhs => rw [quoteUnits, if_neg hpair, List.append_assoc]

/-- A word of the string stands between the quotes. -/
theorem Word.infix_quoteUnits (hw : Word t) {s : JsString} (h : t <:+: s) : t <:+: quoteUnits s := by
  obtain ⟨a, b, rfl⟩ := h
  have hword : ∀ w, (∀ u ∈ w, u ∈ t) → quoteUnits (w ++ b) = w ++ quoteUnits b := by
    intro w hmem
    induction w with
    | nil => rfl
    | cons u w ih =>
        have hu := hw.quoteUnit (hmem u (List.mem_cons_self ..))
        rw [List.cons_append, quoteUnits_cons hu.2.1, hu.1, ih fun v hv => hmem v (List.mem_cons_of_mem u hv)]
        rfl
  obtain ⟨c, rest, ht, -⟩ := hw.head
  have hc := hw.quoteUnit (ht ▸ List.mem_cons_self .. : c ∈ t)
  have hsplit : quoteUnits (a ++ t ++ b) = quoteUnits a ++ (t ++ quoteUnits b) := by
    rw [← hword t fun u hu => hu, List.append_assoc, ht, List.cons_append, quoteUnits_append hc.2.2]
  exact ⟨quoteUnits a, quoteUnits b, by rw [hsplit, List.append_assoc]⟩

/-- A letter that is in no word lies between two places to look for it. -/
theorem Word.infix_append_cons (hw : Word t) {c : UInt16} (hc : isWordUnit c = false) {xs ys : JsString} :
    t <:+: xs ++ c :: ys ↔ t <:+: xs ∨ t <:+: ys := by
  have hmem : c ∉ t := fun hmem => by
    rw [hw.units c hmem] at hc
    cases hc
  constructor
  · exact Splice.infix_of_not_mem hmem
  · rintro (hxs | hys)
    · exact List.infix_append_of_infix_left hxs
    · exact List.infix_append_of_infix_right (List.infix_cons hys)

theorem Word.not_infix_nil (hw : Word t) : ¬ t <:+: [] := by
  obtain ⟨c, rest, rfl, -⟩ := hw.head
  simp

/-- A unit that no word has is in none. -/
theorem Word.infix_cons_iff (hw : Word t) {c : UInt16} (hc : isWordUnit c = false) {ys : JsString} :
    t <:+: c :: ys ↔ t <:+: ys := by
  have h : t <:+: [] ++ c :: ys ↔ t <:+: [] ∨ t <:+: ys := hw.infix_append_cons hc
  rw [List.nil_append] at h
  exact h.trans (or_iff_right hw.not_infix_nil)

/-- A word is in a quoted string where it is in the string. -/
theorem Word.infix_quote_iff (hw : Word t) {s : JsString} : t <:+: quote s ↔ t <:+: s := by
  rw [quote, hw.infix_cons_iff rfl, hw.infix_append_cons rfl]
  constructor
  · rintro (h | h)
    · exact hw.infix_of_quoteUnits h
    · exact absurd h hw.not_infix_nil
  · exact fun h => .inl (hw.infix_quoteUnits h)

/-- No word is part of a text without its capital. -/
theorem Word.not_infix_of (hw : Word t) {s : JsString} (h : ∀ u ∈ s, ¬ (0x41 ≤ u ∧ u ≤ 0x5A ∧ u ≠ 0x45)) :
    ¬ t <:+: s := fun hin => by
  obtain ⟨c, hmem, hc⟩ := hw.capital
  exact h c (hin.subset hmem) hc

/-- No word is in a number. -/
theorem Word.not_infix_numText (hw : Word t) (d : Decimal) : ¬ t <:+: numText d := by
  apply hw.not_infix_of
  rintro u hu ⟨hlo, hhi, hne⟩
  have hunit := numText_units hu
  simp only [isNumUnit, isDigit, Bool.or_eq_true, Bool.and_eq_true, decide_eq_true_eq,
    UInt16.le_iff_toNat_le] at hunit hlo hhi
  rcases hunit with ((((hunit | rfl) | rfl) | rfl) | rfl) | rfl
  · have h9 : (0x39 : UInt16).toNat = 0x39 := rfl
    have hA : (0x41 : UInt16).toNat = 0x41 := rfl
    omega
  · exact absurd hlo (by decide)
  · exact absurd hlo (by decide)
  · exact absurd hlo (by decide)
  · exact hne rfl
  · exact absurd hhi (by decide)

/-! ### The text of a value -/

mutual

/-- A word is in the text of a value where it is in one of its strings or names. -/
theorem infix_render_iff (hw : Word t) (ind : Nat) :
    ∀ v : Json, t <:+: render 0 ind v ↔ ∃ s ∈ texts v, t <:+: s
  | .null => by
      rw [render, texts, iff_false_right (by simp)]
      exact hw.not_infix_of (List.all_iff_forall_prop.mp (by decide +kernel))
  | .bool true => by
      rw [render, texts, iff_false_right (by simp)]
      exact hw.not_infix_of (List.all_iff_forall_prop.mp (by decide +kernel))
  | .bool false => by
      rw [render, texts, iff_false_right (by simp)]
      exact hw.not_infix_of (List.all_iff_forall_prop.mp (by decide +kernel))
  | .num d => by
      rw [render, texts, iff_false_right (by simp)]
      exact hw.not_infix_numText d
  | .str s => by
      rw [render, texts, hw.infix_quote_iff]
      simp
  | .arr [] => by
      rw [render, texts, textsElems, iff_false_right (by simp)]
      exact hw.not_infix_of (List.all_iff_forall_prop.mp (by decide +kernel))
  | .arr (x :: xs) => by
      simp only [render, newline, if_true, List.nil_append, List.append_nil, texts, textsElems]
      rw [hw.infix_cons_iff rfl, hw.infix_append_cons rfl, or_iff_left hw.not_infix_nil,
        infix_renderElems_iff hw _ xs, infix_render_iff hw _ x]
      simp only [List.mem_append, or_and_right, exists_or]
  | .obj [] => by
      rw [render, texts, textsMembers, iff_false_right (by simp)]
      exact hw.not_infix_of (List.all_iff_forall_prop.mp (by decide +kernel))
  | .obj ((k, x) :: fs) => by
      simp only [render, newline, colon, if_true, List.nil_append, List.append_assoc, List.cons_append,
        texts, textsMembers]
      rw [hw.infix_cons_iff rfl, hw.infix_append_cons rfl, hw.infix_quote_iff, ← List.append_assoc,
        hw.infix_append_cons rfl, or_iff_left hw.not_infix_nil, infix_renderMembers_iff hw _ fs,
        infix_render_iff hw _ x]
      simp only [List.mem_cons, List.mem_append, or_and_right, exists_or, exists_eq_left]

theorem infix_renderElems_iff (hw : Word t) (ind : Nat) :
    ∀ (xs : List Json) {a : JsString}, t <:+: a ++ renderElems 0 ind xs ↔ t <:+: a ∨ ∃ s ∈ textsElems xs, t <:+: s
  | [], a => by
      rw [renderElems, List.append_nil, textsElems]
      simp
  | x :: xs, a => by
      simp only [renderElems, newline, if_true, List.nil_append, textsElems]
      rw [hw.infix_append_cons rfl, infix_renderElems_iff hw _ xs, infix_render_iff hw _ x]
      simp only [List.mem_append, or_and_right, exists_or]

theorem infix_renderMembers_iff (hw : Word t) (ind : Nat) :
    ∀ (fs : List (JsString × Json)) {a : JsString},
      t <:+: a ++ renderMembers 0 ind fs ↔ t <:+: a ∨ ∃ s ∈ textsMembers fs, t <:+: s
  | [], a => by
      rw [renderMembers, List.append_nil, textsMembers]
      simp
  | (k, x) :: fs, a => by
      simp only [renderMembers, newline, colon, if_true, List.nil_append, List.append_assoc, List.cons_append,
        textsMembers]
      rw [hw.infix_append_cons rfl, hw.infix_append_cons rfl, hw.infix_quote_iff, infix_renderMembers_iff hw _ fs,
        infix_render_iff hw _ x]
      simp only [List.mem_cons, List.mem_append, or_and_right, exists_or, exists_eq_left]

end

/-- A word occurs in the compact text of a value exactly where a string or a key of the value holds it. -/
theorem infix_stringify_iff (hw : Word t) (v : Json) : t <:+: stringify v ↔ ∃ s ∈ texts v, t <:+: s :=
  infix_render_iff hw 0 v

end Search

end Json
