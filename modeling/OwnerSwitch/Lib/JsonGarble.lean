/-
Module: OwnerSwitch.Lib.JsonGarble
Layer: Lib
Purpose: A written value whose text arrives with characters outside ASCII replaced. What arrives is the text of a value of
  the same shape, and it is read back as the value that was written only where nothing was replaced.
Imports: Lib.JsonRoundTrip, Lib.JsonSearch, Lib.Utf8Chunks
Trusted boundary: none
Main exports: Json.exists_render_of_garbles, Json.replaced_of_parse_garbles, Json.parse_decodeChunks_iff
Open obligations: none
-/
import OwnerSwitch.Lib.JsonRoundTrip
import OwnerSwitch.Lib.JsonSearch
import OwnerSwitch.Lib.Utf8Chunks

/-! ### Garbled parts -/

namespace Utf8

variable {s t g : JsString} {u : UInt16}

/-- A character of one unit arrives or is replaced. -/
theorem Garbles.cons_unit (hu : isHighSurrogate u = false) (h : Garbles (u :: s) g) :
    (∃ g', g = u :: g' ∧ Garbles s g') ∨
      ∃ k g', 0x80 ≤ u.toNat ∧ g = List.replicate (k + 1) replacement ++ g' ∧ Garbles s g' := by
  cases h with
  | unit _ _ hrest => exact .inl ⟨_, rfl, hrest⟩
  | lostUnit k _ _ hbig hrest => exact .inr ⟨k, _, hbig, rfl, hrest⟩
  | pair hhigh _ _ =>
      rw [hu] at hhigh
      cases hhigh
  | lostPair k hhigh _ _ =>
      rw [hu] at hhigh
      cases hhigh

/-- A character of two units arrives or is replaced. -/
theorem Garbles.cons_pair {v : UInt16} (hu : isHighSurrogate u = true) (h : Garbles (u :: v :: s) g) :
    (∃ g', g = u :: v :: g' ∧ Garbles s g') ∨
      ∃ k g', g = List.replicate (k + 1) replacement ++ g' ∧ Garbles s g' := by
  cases h with
  | pair _ _ hrest => exact .inl ⟨_, rfl, hrest⟩
  | lostPair k _ _ hrest => exact .inr ⟨k, _, rfl, hrest⟩
  | unit hhigh _ _ =>
      rw [hu] at hhigh
      cases hhigh
  | lostUnit k hhigh _ _ _ =>
      rw [hu] at hhigh
      cases hhigh

/-- A garbled text in two parts, cut where the first is whole. -/
theorem Garbles.split (hs : WellFormed s) (h : Garbles (s ++ t) g) :
    ∃ g₁ g₂, g = g₁ ++ g₂ ∧ Garbles s g₁ ∧ Garbles t g₂ := by
  induction hs generalizing g with
  | nil => exact ⟨[], g, rfl, .nil, h⟩
  | @unit u s hu hl _ ih =>
      rcases Garbles.cons_unit hu h with ⟨g', rfl, hrest⟩ | ⟨k, g', hbig, rfl, hrest⟩
      · obtain ⟨g₁, g₂, rfl, h₁, h₂⟩ := ih hrest
        exact ⟨u :: g₁, g₂, rfl, .unit hu hl h₁, h₂⟩
      · obtain ⟨g₁, g₂, rfl, h₁, h₂⟩ := ih hrest
        exact ⟨List.replicate (k + 1) replacement ++ g₁, g₂, by rw [List.append_assoc], .lostUnit k hu hl hbig h₁, h₂⟩
  | @pair u v s hu hv _ ih =>
      rcases Garbles.cons_pair hu h with ⟨g', rfl, hrest⟩ | ⟨k, g', rfl, hrest⟩
      · obtain ⟨g₁, g₂, rfl, h₁, h₂⟩ := ih hrest
        exact ⟨u :: v :: g₁, g₂, rfl, .pair hu hv h₁, h₂⟩
      · obtain ⟨g₁, g₂, rfl, h₁, h₂⟩ := ih hrest
        exact ⟨List.replicate (k + 1) replacement ++ g₁, g₂, by rw [List.append_assoc], .lostPair k hu hv h₁, h₂⟩

theorem not_high_of_ascii (hu : u.toNat < 0x80) : isHighSurrogate u = false := by
  simp only [isHighSurrogate, Bool.and_eq_false_iff, decide_eq_false_iff_not]
  omega

/-- An ASCII character survives. -/
theorem Garbles.cons_ascii (hu : u.toNat < 0x80) (h : Garbles (u :: s) g) : ∃ g', g = u :: g' ∧ Garbles s g' := by
  rcases Garbles.cons_unit (not_high_of_ascii hu) h with harrived | ⟨k, g', hbig, -⟩
  · exact harrived
  · omega

/-- ASCII is not garbled. -/
theorem Garbles.ascii_append (hs : ∀ u ∈ s, u.toNat < 0x80) (h : Garbles (s ++ t) g) :
    ∃ g', g = s ++ g' ∧ Garbles t g' := by
  induction s generalizing g with
  | nil => exact ⟨g, rfl, h⟩
  | cons u s ih =>
      rw [List.forall_mem_cons] at hs
      obtain ⟨g₁, rfl, hrest⟩ := Garbles.cons_ascii hs.1 h
      obtain ⟨g₂, rfl, htail⟩ := ih hs.2 hrest
      exact ⟨g₂, rfl, htail⟩

/-- ASCII text survives as it is. -/
theorem Garbles.eq_of_ascii (hs : ∀ u ∈ s, u.toNat < 0x80) (h : Garbles s g) : g = s := by
  rw [← List.append_nil s] at h
  obtain ⟨g', rfl, hnil⟩ := Garbles.ascii_append hs h
  cases hnil
  exact List.append_nil s

theorem Garbles.eq_of_ascii_all (hs : (s.all fun u => u.toNat < 0x80) = true) (h : Garbles s g) : g = s :=
  Garbles.eq_of_ascii (List.all_iff_forall_prop.mp hs) h

end Utf8

namespace Json

open Utf8

/-! ### Strings -/

theorem toNat_lt_of_isEscapeUnit {u : UInt16} (h : isEscapeUnit u = true) : u.toNat < 0x80 := by
  simp only [isEscapeUnit, isDigit, Bool.or_eq_true, Bool.and_eq_true, decide_eq_true_eq,
    UInt16.le_iff_toNat_le] at h
  rcases h with ((((((((rfl | rfl) | rfl) | rfl) | rfl) | rfl) | rfl) | rfl) | ⟨-, hu⟩) | ⟨-, hu⟩
  iterate 8 decide
  · exact Nat.lt_of_le_of_lt hu (by decide)
  · exact Nat.lt_of_le_of_lt hu (by decide)

/-- The first unit of a text is the second half of a pair. -/
def LowFirst (s : JsString) : Prop :=
  ∃ u t, s = u :: t ∧ isLowSurrogate u = true

/-- A unit that starts no pair is quoted on its own. -/
theorem quoteUnits_cons_apart {u : UInt16} {s : JsString} (h : isHighSurrogate u = true → ¬ LowFirst s) :
    quoteUnits (u :: s) = quoteUnit u ++ quoteUnits s := by
  cases s with
  | nil => exact (List.append_nil _).symm
  | cons v s =>
      rw [quoteUnits, if_neg]
      rw [Bool.and_eq_true]
      rintro ⟨hu, hv⟩
      exact h hu ⟨v, s, rfl, hv⟩

theorem not_lowFirst_lost (k : Nat) (s : JsString) : ¬ LowFirst (List.replicate (k + 1) replacement ++ s) := by
  rintro ⟨u, t, hcons, hlow⟩
  rw [List.replicate_succ, List.cons_append] at hcons
  obtain ⟨rfl, -⟩ := List.cons.inj hcons
  exact absurd hlow (by decide)

theorem not_high_replacement : isHighSurrogate replacement = false :=
  rfl

/-- Replacement characters are quoted as they are. -/
theorem quoteUnits_replacements (k : Nat) (s : JsString) :
    quoteUnits (List.replicate k replacement ++ s) = List.replicate k replacement ++ quoteUnits s := by
  induction k with
  | zero => rfl
  | succ k ih =>
      have hnot : isHighSurrogate replacement = true → ¬ LowFirst (List.replicate k replacement ++ s) := by
        rw [not_high_replacement]
        nofun
      rw [List.replicate_succ, List.cons_append, quoteUnits_cons_apart hnot, ih]
      rfl

/-- A garbled quotation quotes some string. -/
theorem exists_quoteUnits_of_garbles {s g : JsString} (h : Garbles (quoteUnits s) g) :
    ∃ s', g = quoteUnits s' ∧ (LowFirst s' → LowFirst s) := by
  have hunit : ∀ {u : UInt16} {s g : JsString}, (isHighSurrogate u = true → ¬ LowFirst s) →
      (∀ g, Garbles (quoteUnits s) g → ∃ s', g = quoteUnits s' ∧ (LowFirst s' → LowFirst s)) →
      Garbles (quoteUnit u ++ quoteUnits s) g → ∃ s', g = quoteUnits s' ∧ (LowFirst s' → LowFirst (u :: s)) := by
    intro u s g hnot ih h
    have hkept : ∀ {s'}, (LowFirst s' → LowFirst s) → LowFirst (u :: s') → LowFirst (u :: s) := by
      rintro s' - ⟨v, t, hcons, hlow⟩
      obtain ⟨rfl, -⟩ := List.cons.inj hcons
      exact ⟨u, s, rfl, hlow⟩
    rcases quoteUnit_cases u with ⟨hq, -, -, -⟩ | ⟨t, hq, ht⟩
    · rw [hq, List.singleton_append] at h
      have hplain : WellFormed [u] := hq ▸ wellFormed_quoteUnit u
      obtain ⟨g₁, g₂, rfl, h₁, h₂⟩ := Garbles.split hplain h
      obtain ⟨s', rfl, hlow⟩ := ih g₂ h₂
      cases h₁ with
      | unit _ _ hnil =>
          cases hnil
          refine ⟨u :: s', ?_, hkept hlow⟩
          rw [quoteUnits_cons_apart fun hu hfirst => hnot hu (hlow hfirst), hq]
      | lostUnit k _ _ _ hnil =>
          cases hnil
          refine ⟨List.replicate (k + 1) replacement ++ s', ?_, fun hfirst => absurd hfirst (not_lowFirst_lost k s')⟩
          rw [quoteUnits_replacements, List.append_nil]
    · have hascii : ∀ x ∈ quoteUnit u, x.toNat < 0x80 := by
        rw [hq]
        exact List.forall_mem_cons.mpr ⟨by decide, fun x hx => toNat_lt_of_isEscapeUnit (ht x hx)⟩
      obtain ⟨g', rfl, hrest⟩ := Garbles.ascii_append hascii h
      obtain ⟨s', rfl, hlow⟩ := ih g' hrest
      exact ⟨u :: s', (quoteUnits_cons_apart fun hu hfirst => hnot hu (hlow hfirst)).symm, hkept hlow⟩
  induction s using quoteUnits.induct generalizing g with
  | case1 =>
      cases h
      exact ⟨[], rfl, id⟩
  | case2 u =>
      have hnil : ∀ g, Garbles (quoteUnits []) g → ∃ s', g = quoteUnits s' ∧ (LowFirst s' → LowFirst []) := by
        intro g hg
        cases hg
        exact ⟨[], rfl, id⟩
      refine hunit (fun _ => ?_) hnil (by rwa [quoteUnits_nil, List.append_nil])
      rintro ⟨v, t, hcons, -⟩
      cases hcons
  | case3 u v s hpair ih =>
      rw [quoteUnits, if_pos hpair] at h
      rw [Bool.and_eq_true] at hpair
      have hwell : WellFormed [u, v] := .pair hpair.1 hpair.2 .nil
      obtain ⟨g₁, g₂, rfl, h₁, h₂⟩ := Garbles.split hwell h
      obtain ⟨s', rfl, hlow⟩ := ih h₂
      rcases Garbles.cons_pair hpair.1 h₁ with ⟨g', rfl, hnil⟩ | ⟨k, g', rfl, hnil⟩
      · cases hnil
        refine ⟨u :: v :: s', ?_, ?_⟩
        · rw [quoteUnits, if_pos (by rw [hpair.1, hpair.2]; rfl)]
          rfl
        · rintro ⟨w, t, hcons, hw⟩
          obtain ⟨rfl, -⟩ := List.cons.inj hcons
          exact ⟨u, _, rfl, hw⟩
      · cases hnil
        refine ⟨List.replicate (k + 1) replacement ++ s', ?_, fun hfirst => absurd hfirst (not_lowFirst_lost k s')⟩
        rw [quoteUnits_replacements, List.append_nil]
  | case4 u v s hpair ih =>
      rw [quoteUnits, if_neg hpair] at h
      refine hunit (fun hu => ?_) (fun g hg => ih hg) h
      rintro ⟨w, t, hcons, hw⟩
      obtain ⟨rfl, -⟩ := List.cons.inj hcons
      exact hpair (by rw [hu, hw]; rfl)

/-- What is left of a quoted string is a quoted string. -/
theorem exists_quote_of_garbles {s g : JsString} (h : Garbles (quote s) g) : ∃ s', g = quote s' := by
  obtain ⟨g₁, rfl, h₁⟩ := Garbles.cons_ascii (by decide) h
  obtain ⟨g₂, g₃, rfl, h₂, h₃⟩ := Garbles.split (wellFormed_quoteUnits s) h₁
  obtain ⟨s', rfl, -⟩ := exists_quoteUnits_of_garbles h₂
  rw [Garbles.eq_of_ascii_all rfl h₃]
  exact ⟨s', rfl⟩

/-! ### Values -/

section Weigh

variable (text : JsString → Nat) (entry : Nat)

mutual

/-- The weight of the strings of a value and of the entries of its objects. -/
def weigh : Json → Nat
  | .str s => text s
  | .arr xs => weighElems xs
  | .obj fs => weighMembers fs
  | _ => 0

def weighElems : List Json → Nat
  | [] => 0
  | x :: xs => weigh x + weighElems xs

def weighMembers : List (JsString × Json) → Nat
  | [] => 0
  | (k, x) :: fs => entry + text k + weigh x + weighMembers fs

end

/-- Weights add up. -/
theorem weighMembers_append (fs gs : List (JsString × Json)) :
    weighMembers text entry (fs ++ gs) = weighMembers text entry fs + weighMembers text entry gs := by
  induction fs with
  | nil => exact (Nat.zero_add _).symm
  | cons f fs ih =>
      rw [List.cons_append, weighMembers, weighMembers, ih]
      omega

/-- A weight does not depend on the order of the properties. -/
theorem weighMembers_perm {fs gs : List (JsString × Json)} (h : fs.Perm gs) :
    weighMembers text entry fs = weighMembers text entry gs := by
  induction h with
  | nil => rfl
  | cons f _ ih => rw [weighMembers, weighMembers, ih]
  | swap f g fs =>
      rw [weighMembers, weighMembers, weighMembers, weighMembers]
      omega
  | trans _ _ ih₁ ih₂ => exact ih₁.trans ih₂

end Weigh

theorem entryCount_dropped {fs : List (JsString × Json)} (h : weighMembers (fun _ => 0) 1 fs = 0) : fs = [] := by
  cases fs with
  | nil => rfl
  | cons f fs =>
      rw [weighMembers] at h
      omega

mutual

/-- Reading a value back drops entries or changes no string of it. -/
theorem entryCount_tidy : ∀ v : Json, weigh (fun _ => 0) 1 (tidy v) ≤ weigh (fun _ => 0) 1 v ∧
    (weigh (fun _ => 0) 1 (tidy v) = weigh (fun _ => 0) 1 v → weigh replaced 0 (tidy v) = weigh replaced 0 v)
  | .null => ⟨Nat.le_refl _, fun _ => rfl⟩
  | .bool _ => ⟨Nat.le_refl _, fun _ => rfl⟩
  | .num _ => ⟨Nat.le_refl _, fun _ => rfl⟩
  | .str _ => ⟨Nat.le_refl _, fun _ => rfl⟩
  | .arr xs => by
      rw [tidy]
      exact entryCount_tidyElems xs
  | .obj fs => by
      obtain ⟨hle, heq⟩ := entryCount_tidyMembers fs
      obtain ⟨dropped, hperm⟩ := ofEntries_append_perm (tidyMembers fs)
      have hentries := weighMembers_perm (fun _ => 0) 1 hperm
      have hunits := weighMembers_perm replaced 0 hperm
      rw [weighMembers_append] at hentries hunits
      rw [tidy, weigh, weigh, weigh, weigh]
      refine ⟨by omega, fun h => ?_⟩
      obtain rfl := entryCount_dropped (show weighMembers (fun _ => 0) 1 dropped = 0 by omega)
      rw [← heq (by omega), hunits]
      rfl

/-- Tidying loses entries or nothing. -/
theorem entryCount_tidyElems : ∀ xs : List Json,
    weighElems (fun _ => 0) 1 (tidyElems xs) ≤ weighElems (fun _ => 0) 1 xs ∧
      (weighElems (fun _ => 0) 1 (tidyElems xs) = weighElems (fun _ => 0) 1 xs →
        weighElems replaced 0 (tidyElems xs) = weighElems replaced 0 xs)
  | [] => ⟨Nat.le_refl _, fun _ => rfl⟩
  | x :: xs => by
      obtain ⟨hle, heq⟩ := entryCount_tidy x
      obtain ⟨hles, heqs⟩ := entryCount_tidyElems xs
      rw [tidyElems, weighElems, weighElems, weighElems, weighElems]
      refine ⟨by omega, fun h => ?_⟩
      have hx := heq (by omega)
      have hxs := heqs (by omega)
      omega

theorem entryCount_tidyMembers : ∀ fs : List (JsString × Json),
    weighMembers (fun _ => 0) 1 (tidyMembers fs) ≤ weighMembers (fun _ => 0) 1 fs ∧
      (weighMembers (fun _ => 0) 1 (tidyMembers fs) = weighMembers (fun _ => 0) 1 fs →
        weighMembers replaced 0 (tidyMembers fs) = weighMembers replaced 0 fs)
  | [] => ⟨Nat.le_refl _, fun _ => rfl⟩
  | (k, x) :: fs => by
      obtain ⟨hle, heq⟩ := entryCount_tidy x
      obtain ⟨hles, heqs⟩ := entryCount_tidyMembers fs
      rw [tidyMembers, weighMembers, weighMembers, weighMembers, weighMembers]
      refine ⟨by omega, fun h => ?_⟩
      have hx := heq (by omega)
      have hfs := heqs (by omega)
      omega

end

/-! ### Garbled values -/

mutual

/-- A garbled value text is the text of a value with as many entries. -/
theorem exists_render_of_garbles (ind : Nat) : ∀ (v : Json) {g : JsString}, Garbles (render 0 ind v) g →
    ∃ r, g = render 0 ind r ∧ weigh (fun _ => 0) 1 r = weigh (fun _ => 0) 1 v
  | .null, g, h => ⟨.null, Garbles.eq_of_ascii_all (by rw [render]; rfl) h, rfl⟩
  | .bool true, g, h => ⟨.bool true, Garbles.eq_of_ascii_all (by rw [render]; rfl) h, rfl⟩
  | .bool false, g, h => ⟨.bool false, Garbles.eq_of_ascii_all (by rw [render]; rfl) h, rfl⟩
  | .num d, g, h => ⟨.num d, Garbles.eq_of_ascii (ascii_numText d) h, rfl⟩
  | .str s, g, h => by
      obtain ⟨s', rfl⟩ := exists_quote_of_garbles h
      exact ⟨.str s', rfl, rfl⟩
  | .arr [], g, h => ⟨.arr [], Garbles.eq_of_ascii_all (by rw [render]; rfl) h, rfl⟩
  | .arr (x :: xs), g, h => by
      rw [render] at h
      simp only [newline, if_pos, List.nil_append, List.append_nil, List.append_assoc] at h
      obtain ⟨g₁, rfl, h₁⟩ := Garbles.cons_ascii (by decide) h
      obtain ⟨g₂, g₃, rfl, h₂, h₃⟩ := Garbles.split (wellFormed_render 0 _ x) h₁
      obtain ⟨g₄, g₅, rfl, h₄, h₅⟩ := Garbles.split (wellFormed_renderElems 0 _ xs) h₃
      obtain ⟨y, rfl, hy⟩ := exists_render_of_garbles (ind + 0) x h₂
      obtain ⟨ys, rfl, hys⟩ := exists_renderElems_of_garbles (ind + 0) xs h₄
      rw [Garbles.eq_of_ascii_all rfl h₅]
      refine ⟨.arr (y :: ys), ?_, ?_⟩
      · rw [render]
        simp only [newline, if_pos, List.nil_append, List.append_nil, List.append_assoc]
      · rw [weigh, weigh, weighElems, weighElems, hy, hys]
  | .obj [], g, h => ⟨.obj [], Garbles.eq_of_ascii_all (by rw [render]; rfl) h, rfl⟩
  | .obj ((k, x) :: fs), g, h => by
      rw [render] at h
      simp only [newline, colon, if_pos, List.nil_append, List.append_nil, List.append_assoc] at h
      obtain ⟨g₁, rfl, h₁⟩ := Garbles.cons_ascii (by decide) h
      obtain ⟨g₂, g₃, rfl, h₂, h₃⟩ := Garbles.split (wellFormed_quote k) h₁
      obtain ⟨g₄, rfl, h₄⟩ := Garbles.cons_ascii (by decide) h₃
      obtain ⟨g₅, g₆, rfl, h₅, h₆⟩ := Garbles.split (wellFormed_render 0 _ x) h₄
      obtain ⟨g₇, g₈, rfl, h₇, h₈⟩ := Garbles.split (wellFormed_renderMembers 0 _ fs) h₆
      obtain ⟨k', rfl⟩ := exists_quote_of_garbles h₂
      obtain ⟨y, rfl, hy⟩ := exists_render_of_garbles (ind + 0) x h₅
      obtain ⟨gs, rfl, hgs⟩ := exists_renderMembers_of_garbles (ind + 0) fs h₇
      rw [Garbles.eq_of_ascii_all rfl h₈]
      refine ⟨.obj ((k', y) :: gs), ?_, ?_⟩
      · rw [render]
        simp only [newline, colon, if_pos, List.nil_append, List.append_nil, List.append_assoc, List.cons_append]
      · rw [weigh, weigh, weighMembers, weighMembers, hy, hgs]

/-- What is left of written items is written items, as many. -/
theorem exists_renderElems_of_garbles (ind : Nat) : ∀ (xs : List Json) {g : JsString},
    Garbles (renderElems 0 ind xs) g →
    ∃ ys, g = renderElems 0 ind ys ∧ weighElems (fun _ => 0) 1 ys = weighElems (fun _ => 0) 1 xs
  | [], g, h => ⟨[], Garbles.eq_of_ascii_all (by rw [renderElems]; rfl) h, rfl⟩
  | x :: xs, g, h => by
      rw [renderElems] at h
      simp only [newline, if_pos, List.nil_append] at h
      obtain ⟨g₁, rfl, h₁⟩ := Garbles.cons_ascii (by decide) h
      obtain ⟨g₂, g₃, rfl, h₂, h₃⟩ := Garbles.split (wellFormed_render 0 _ x) h₁
      obtain ⟨y, rfl, hy⟩ := exists_render_of_garbles ind x h₂
      obtain ⟨ys, rfl, hys⟩ := exists_renderElems_of_garbles ind xs h₃
      refine ⟨y :: ys, ?_, ?_⟩
      · rw [renderElems]
        simp only [newline, if_pos, List.nil_append]
      · rw [weighElems, weighElems, hy, hys]

/-- What is left of written properties is written properties, as many. -/
theorem exists_renderMembers_of_garbles (ind : Nat) : ∀ (fs : List (JsString × Json)) {g : JsString},
    Garbles (renderMembers 0 ind fs) g →
    ∃ gs, g = renderMembers 0 ind gs ∧ weighMembers (fun _ => 0) 1 gs = weighMembers (fun _ => 0) 1 fs
  | [], g, h => ⟨[], Garbles.eq_of_ascii_all (by rw [renderMembers]; rfl) h, rfl⟩
  | (k, x) :: fs, g, h => by
      rw [renderMembers] at h
      simp only [newline, colon, if_pos, List.nil_append, List.append_assoc, List.cons_append] at h
      obtain ⟨g₁, rfl, h₁⟩ := Garbles.cons_ascii (by decide) h
      obtain ⟨g₂, g₃, rfl, h₂, h₃⟩ := Garbles.split (wellFormed_quote k) h₁
      obtain ⟨g₄, rfl, h₄⟩ := Garbles.cons_ascii (by decide) h₃
      obtain ⟨g₅, g₆, rfl, h₅, h₆⟩ := Garbles.split (wellFormed_render 0 _ x) h₄
      obtain ⟨k', rfl⟩ := exists_quote_of_garbles h₂
      obtain ⟨y, rfl, hy⟩ := exists_render_of_garbles ind x h₅
      obtain ⟨gs, rfl, hgs⟩ := exists_renderMembers_of_garbles ind fs h₆
      refine ⟨(k', y) :: gs, ?_, ?_⟩
      · rw [renderMembers]
        simp only [newline, colon, if_pos, List.nil_append, List.append_assoc, List.cons_append]
      · rw [weighMembers, weighMembers, hy, hgs]

end

/-- The properties of a garbled object, where its keys are ASCII: the same keys, and the value of each garbled. -/
theorem exists_members_of_garbles (ind : Nat) {fs : List (JsString × Json)} {g : JsString}
    (hkeys : ∀ f ∈ fs, ∀ u ∈ quote f.1, u.toNat < 0x80) (h : Garbles (renderMembers 0 ind fs) g) :
    ∃ gs, g = renderMembers 0 ind gs ∧
      List.Forall₂ (fun f f' => f'.1 = f.1 ∧ Garbles (render 0 ind f.2) (render 0 ind f'.2)) fs gs := by
  induction fs generalizing g with
  | nil => exact ⟨[], Garbles.eq_of_ascii_all (by rw [renderMembers]; rfl) h, .nil⟩
  | cons f fs ih =>
      rw [List.forall_mem_cons] at hkeys
      obtain ⟨k, x⟩ := f
      rw [renderMembers] at h
      simp only [newline, colon, if_pos, List.nil_append, List.append_assoc, List.cons_append] at h
      obtain ⟨g₁, rfl, h₁⟩ := Garbles.cons_ascii (by decide) h
      obtain ⟨g₂, rfl, h₂⟩ := Garbles.ascii_append hkeys.1 h₁
      obtain ⟨g₃, rfl, h₃⟩ := Garbles.cons_ascii (by decide) h₂
      obtain ⟨g₄, g₅, rfl, h₄, h₅⟩ := Garbles.split (wellFormed_render 0 _ x) h₃
      obtain ⟨y, rfl, -⟩ := exists_render_of_garbles ind x h₄
      obtain ⟨gs, rfl, hgs⟩ := ih hkeys.2 h₅
      refine ⟨(k, y) :: gs, ?_, .cons ⟨rfl, h₄⟩ hgs⟩
      rw [renderMembers]
      simp only [newline, colon, if_pos, List.nil_append, List.append_assoc, List.cons_append]

/-- What is left of an object with ASCII names is an object with these names. -/
theorem exists_fields_of_garbles {fs : List (JsString × Json)} {g : JsString}
    (hkeys : ∀ f ∈ fs, ∀ u ∈ quote f.1, u.toNat < 0x80) (h : Garbles (stringify (.obj fs)) g) :
    ∃ gs, g = stringify (.obj gs) ∧
      List.Forall₂ (fun f f' => f'.1 = f.1 ∧ Garbles (stringify f.2) (stringify f'.2)) fs gs := by
  cases fs with
  | nil => exact ⟨[], Garbles.eq_of_ascii_all (by rw [stringify, render]; rfl) h, .nil⟩
  | cons f fs =>
      obtain ⟨k, x⟩ := f
      rw [List.forall_mem_cons] at hkeys
      rw [stringify, render] at h
      simp only [newline, colon, if_pos, List.nil_append, List.append_nil, List.append_assoc] at h
      obtain ⟨g₁, rfl, h₁⟩ := Garbles.cons_ascii (by decide) h
      obtain ⟨g₂, rfl, h₂⟩ := Garbles.ascii_append hkeys.1 h₁
      obtain ⟨g₃, rfl, h₃⟩ := Garbles.cons_ascii (by decide) h₂
      obtain ⟨g₄, g₅, rfl, h₄, h₅⟩ := Garbles.split (wellFormed_render 0 _ x) h₃
      obtain ⟨g₆, g₇, rfl, h₆, h₇⟩ := Garbles.split (wellFormed_renderMembers 0 _ fs) h₅
      obtain ⟨y, rfl, -⟩ := exists_render_of_garbles (0 + 0) x h₄
      obtain ⟨gs, rfl, hgs⟩ := exists_members_of_garbles (0 + 0) hkeys.2 h₆
      rw [Garbles.eq_of_ascii_all rfl h₇]
      refine ⟨(k, y) :: gs, ?_, .cons ⟨rfl, h₄⟩ hgs⟩
      rw [stringify, render]
      simp only [newline, colon, if_pos, List.nil_append, List.append_nil, List.append_assoc, List.cons_append]

theorem tidyMembers_keys (fs : List (JsString × Json)) : (tidyMembers fs).map Prod.fst = fs.map Prod.fst := by
  induction fs with
  | nil => rfl
  | cons f fs ih => rw [tidyMembers, List.map_cons, List.map_cons, ih]

/-- A property of a tidied object is the tidied property. -/
theorem findEntry_tidyMembers (fs : List (JsString × Json)) (k : JsString) :
    JsMap.findEntry (tidyMembers fs) k = (JsMap.findEntry fs k).map tidy := by
  induction fs with
  | nil => rfl
  | cons f fs ih =>
      rw [tidyMembers, JsMap.findEntry, JsMap.findEntry]
      split
      · rfl
      · exact ih

/-- A property of an object whose text was garbled, its keys being ASCII and distinct: it is there where it was, and what
    is written in ASCII is what it was. -/
theorem get_of_parse_garbles {fs : List (JsString × Json)} {g : JsString} {w : Json} {K : List JsString}
    (hK : fs.map Prod.fst = K) (hnodup : K.Nodup)
    (hascii : (K.all fun k => (quote k).all fun u => u.toNat < 0x80) = true) (h : Garbles (stringify (.obj fs)) g)
    (hparse : parse g = some w) (k : JsString) :
    (∀ x, JsMap.findEntry fs k = some x → (∀ u ∈ stringify x, u.toNat < 0x80) → w.get k = some (tidy x)) ∧
      (w.get k).isSome = (JsMap.findEntry fs k).isSome := by
  subst hK
  have hkeys : ∀ f ∈ fs, ∀ u ∈ quote f.1, u.toNat < 0x80 := by
    intro f hf u hu
    have hkey := List.all_eq_true.mp hascii f.1 (List.mem_map_of_mem hf)
    exact of_decide_eq_true (List.all_eq_true.mp hkey u hu)
  obtain ⟨gs, rfl, hgs⟩ := exists_fields_of_garbles hkeys h
  have hsame : gs.map Prod.fst = fs.map Prod.fst := by
    clear hnodup hkeys hascii h hparse
    induction hgs with
    | nil => rfl
    | cons hf _ ih => rw [List.map_cons, List.map_cons, ih, hf.1]
  have hget : w.get k = (JsMap.findEntry gs k).map tidy := by
    obtain rfl := Option.some.inj ((parse_stringify_tidy _).symm.trans hparse)
    have hdistinct : ((tidyMembers gs).map Prod.fst).Nodup := by rwa [tidyMembers_keys, hsame]
    rw [tidy, get, findEntry_ofEntries hdistinct, findEntry_tidyMembers]
  rw [hget, Option.isSome_map]
  clear hget hparse hsame hnodup hkeys hascii h
  induction hgs with
  | nil => exact ⟨nofun, rfl⟩
  | @cons f f' fs gs hf _ ih =>
      obtain ⟨j, x⟩ := f
      obtain ⟨j', y⟩ := f'
      obtain ⟨rfl, hgarbles⟩ := hf
      rw [JsMap.findEntry, JsMap.findEntry]
      split
      · refine ⟨fun z hz hascii => ?_, rfl⟩
        obtain rfl := Option.some.inj hz
        have hwritten := Garbles.eq_of_ascii hascii hgarbles
        have htidy := (parse_stringify_tidy y).symm.trans ((congrArg parse hwritten).trans (parse_stringify_tidy x))
        exact congrArg some (Option.some.inj htidy)
      · exact ih

/-! ### Reading a garbled value -/

/-- ASCII text holds no replacement character. -/
theorem replaced_ascii {s : JsString} (h : ∀ u ∈ s, u.toNat < 0x80) : replaced s = 0 := by
  apply List.count_eq_zero.mpr
  intro hmem
  exact absurd (h _ hmem) (by decide)

theorem replaced_cons_ascii {u : UInt16} (h : u.toNat < 0x80) (s : JsString) : replaced (u :: s) = replaced s := by
  have hunit : ∀ v ∈ [u], v.toNat < 0x80 := fun v hv => by rwa [List.mem_singleton.mp hv]
  rw [← List.singleton_append, replaced_append, replaced_ascii hunit, Nat.zero_add]

theorem replaced_quoteUnit (u : UInt16) : replaced (quoteUnit u) = replaced [u] := by
  rcases quoteUnit_cases u with ⟨hq, -, -, -⟩ | ⟨t, hq, ht⟩
  · rw [hq]
  · rw [hq, replaced_cons_ascii (by decide), replaced_ascii fun x hx => toNat_lt_of_isEscapeUnit (ht x hx)]
    have hne : u ≠ replacement := by
      rintro rfl
      cases hq
    exact (List.count_eq_zero.mpr fun hmem => hne (List.mem_singleton.mp hmem).symm).symm

/-- Quoting makes and loses no replacement character. -/
theorem replaced_quoteUnits (s : JsString) : replaced (quoteUnits s) = replaced s := by
  induction s using quoteUnits.induct with
  | case1 => rfl
  | case2 u => exact replaced_quoteUnit u
  | case3 u v s hpair ih =>
      rw [quoteUnits, if_pos hpair]
      have hsplit : ∀ t, replaced (u :: v :: t) = replaced [u, v] + replaced t := replaced_append [u, v]
      rw [hsplit (quoteUnits s), ih]
      exact (hsplit s).symm
  | case4 u v s hpair ih =>
      rw [quoteUnits, if_neg hpair, replaced_append, replaced_quoteUnit, ih]
      exact (replaced_append [u] (v :: s)).symm

theorem replaced_quote (s : JsString) : replaced (quote s) = replaced s := by
  have hlast : replaced [0x22] = 0 := rfl
  rw [quote, replaced_cons_ascii (by decide), replaced_append, replaced_quoteUnits, hlast, Nat.add_zero]

mutual

/-- A written value holds the replacement characters of its strings and names. -/
theorem replaced_render (ind : Nat) : ∀ v : Json, replaced (render 0 ind v) = weigh replaced 0 v
  | .null => by rw [render]; rfl
  | .bool true => by rw [render]; rfl
  | .bool false => by rw [render]; rfl
  | .num d => replaced_ascii (ascii_numText d)
  | .str s => replaced_quote s
  | .arr [] => by rw [render]; rfl
  | .arr (x :: xs) => by
      rw [render]
      simp only [newline, if_pos, List.nil_append, List.append_nil, List.append_assoc]
      rw [replaced_cons_ascii (by decide), replaced_append, replaced_append, replaced_render (ind + 0) x,
        replaced_renderElems (ind + 0) xs, show replaced [0x5D] = 0 from rfl, weigh, weighElems, Nat.add_zero]
  | .obj [] => by rw [render]; rfl
  | .obj ((k, x) :: fs) => by
      rw [render]
      simp only [newline, colon, if_pos, List.nil_append, List.append_nil, List.append_assoc, List.cons_append]
      rw [replaced_cons_ascii (by decide), replaced_append, replaced_quote, replaced_cons_ascii (by decide),
        replaced_append,
        replaced_append, replaced_render (ind + 0) x, replaced_renderMembers (ind + 0) fs,
        show replaced [0x7D] = 0 from rfl, weigh, weighMembers]
      omega

theorem replaced_renderElems (ind : Nat) : ∀ xs : List Json,
    replaced (renderElems 0 ind xs) = weighElems replaced 0 xs
  | [] => rfl
  | x :: xs => by
      rw [renderElems]
      simp only [newline, if_pos, List.nil_append]
      rw [replaced_cons_ascii (by decide), replaced_append, replaced_render ind x,
        replaced_renderElems ind xs, weighElems]

theorem replaced_renderMembers (ind : Nat) : ∀ fs : List (JsString × Json),
    replaced (renderMembers 0 ind fs) = weighMembers replaced 0 fs
  | [] => rfl
  | (k, x) :: fs => by
      rw [renderMembers]
      simp only [newline, colon, if_pos, List.nil_append, List.append_assoc, List.cons_append]
      rw [replaced_cons_ascii (by decide), replaced_append, replaced_quote, replaced_cons_ascii (by decide),
        replaced_append,
        replaced_render ind x, replaced_renderMembers ind fs, weighMembers]
      omega

end

/-- A garbled value text that is read back as the value has lost nothing. -/
theorem replaced_of_parse_garbles {v : Json} {g : JsString} (h : Garbles (stringify v) g)
    (hparse : parse g = some v) : replaced g = replaced (stringify v) := by
  obtain ⟨r, rfl, hentries⟩ := exists_render_of_garbles 0 v h
  have htidy : tidy r = v := Option.some.inj ((parse_stringify_tidy r).symm.trans hparse)
  have hunits := (entryCount_tidy r).2 (by rw [htidy, hentries])
  rw [stringify, replaced_render, replaced_render, ← hunits, htidy]

/-- The text of an object with properties is not read as `null`. -/
theorem parse_garbled_ne_null {k : JsString} {y : Json} {fs : List (JsString × Json)} {g : JsString}
    (h : Garbles (stringify (.obj ((k, y) :: fs))) g) : parse g ≠ some .null := by
  intro hparse
  obtain ⟨r, rfl, hentries⟩ := exists_render_of_garbles 0 _ h
  have htidy : tidy r = .null := Option.some.inj ((parse_stringify_tidy r).symm.trans hparse)
  rw [weigh, weighMembers] at hentries
  cases r with
  | null =>
      have hnone : weigh (fun _ => 0) 1 .null = 0 := rfl
      rw [hnone] at hentries
      omega
  | bool b => cases htidy
  | num d => cases htidy
  | str s => cases htidy
  | arr xs => cases htidy
  | obj fs => cases htidy

/-- The text of a value, decoded chunk by chunk, is read back as the value exactly where no chunk begins or ends inside
    a character. -/
theorem parse_decodeChunks_iff {v : Json} (hv : Normal v) {chunks : List Bytes} {g : JsString} {u : UInt16}
    (hu : u.toNat < 0x80) (h : chunks.flatten = encode (stringify v ++ [u])) (hg : decodeChunks chunks = g ++ [u]) :
    parse g = some v ↔ ∀ c ∈ chunks, Whole c := by
  have hwell : WellFormed (stringify v ++ [u]) :=
    (wellFormed_render 0 0 v).append (.ascii fun x hx => by rwa [List.mem_singleton.mp hx])
  rw [← decodeChunks_eq_iff_whole hwell h]
  constructor
  · intro hparse
    have hgarbles := garbles_decodeChunks hwell h
    rw [hg] at hgarbles
    obtain ⟨g₁, g₂, hsplit, h₁, h₂⟩ := Garbles.split (wellFormed_render 0 0 v) hgarbles
    have hlast := Garbles.eq_of_ascii (fun x hx => by rwa [List.mem_singleton.mp hx]) h₂
    rw [hlast] at hsplit
    obtain rfl := List.append_cancel_right hsplit
    have hcount := replaced_of_parse_garbles h₁ hparse
    have hle : replaced (decodeChunks chunks) ≤ replaced (decode chunks.flatten) := by
      apply Nat.le_of_eq
      rw [hg, h, decode_encode hwell, replaced_append, replaced_append, hcount]
    rw [decodeChunks_eq_of_replaced_le hle, h, decode_encode hwell]
  · intro heq
    rw [hg] at heq
    obtain rfl := List.append_cancel_right heq
    exact parse_stringify hv

end Json
