/-
Module: OwnerSwitch.Lib.JsonSize
Layer: Lib
Purpose: How many octets a JSON text takes in UTF-8. A character that is neither escaped nor a surrogate takes at most
  three, a quote or backslash two, a pair of surrogates four, and half of a pair alone six, since it is written as an
  escape.
Imports: Lib.JsonRoundTrip
Trusted boundary: none
Main exports: octets, octets_append, loneSurrogates, octets_quote_le, octets_render_obj, length_numText_le
Open obligations: none
-/
import OwnerSwitch.Lib.JsonRoundTrip

/-! ### Octets of a text -/

/-- The length of a text in UTF-8. -/
def octets (s : JsString) : Nat :=
  (Utf8.encode s).length

namespace Utf8

theorem length_encodePoint_le {n : Nat} (h : n < 0x10000) : (encodePoint n).length ≤ 3 := by
  unfold encodePoint
  split_ifs <;> simp

end Utf8

@[simp] theorem octets_nil : octets [] = 0 :=
  rfl

/-- After a well-formed string the octets add up. -/
theorem octets_append {s : JsString} (hs : WellFormed s) (t : JsString) : octets (s ++ t) = octets s + octets t := by
  rw [octets, Utf8.encode_append hs, List.length_append, octets, octets]

/-- ASCII takes one octet a character. -/
theorem octets_ascii {s : JsString} (h : ∀ u ∈ s, u.toNat < 0x80) : octets s = s.length := by
  induction s with
  | nil => rfl
  | cons u s ih =>
      have hu := h u (List.mem_cons_self ..)
      have hunit : WellFormed [u] := .ascii fun v hv => by rwa [List.mem_singleton.mp hv]
      have hone : octets [u] = 1 := by
        rw [octets, Utf8.encode_unit (by simp [isHighSurrogate]; omega) (by simp [isLowSurrogate]; omega),
          Utf8.encodePoint,
          if_pos hu]
        rfl
      rw [← List.singleton_append, octets_append hunit, hone, ih fun v hv => h v (List.mem_cons_of_mem _ hv),
        List.length_append, List.length_singleton]

theorem octets_cons {u : UInt16} (hu : u.toNat < 0x80) (s : JsString) : octets (u :: s) = 1 + octets s := by
  have hunit : ∀ v ∈ [u], v.toNat < 0x80 := fun v hv => by rwa [List.mem_singleton.mp hv]
  rw [← List.singleton_append, octets_append (.ascii hunit), octets_ascii hunit, List.length_singleton]

/-! ### Quoted strings -/

/-- The surrogates that are not in a pair. -/
def loneSurrogates : JsString → Nat
  | [] => 0
  | [u] => if isHighSurrogate u || isLowSurrogate u then 1 else 0
  | u :: v :: s =>
      if isHighSurrogate u && isLowSurrogate v then loneSurrogates s
      else (if isHighSurrogate u || isLowSurrogate u then 1 else 0) + loneSurrogates (v :: s)

namespace Json

theorem hexUnit_ascii {d : Nat} (h : d < 16) : (hexUnit d).toNat < 0x80 := by
  interval_cases d <;> decide

/-- An escaped unit takes six octets. -/
theorem octets_hexEscape (u : UInt16) : octets (hexEscape u) = 6 := by
  apply octets_ascii
  intro v hv
  have hu := u.toNat_lt
  simp only [hexEscape, List.mem_cons, List.not_mem_nil, or_false] at hv
  rcases hv with rfl | rfl | rfl | rfl | rfl | rfl
  · decide
  · decide
  · exact hexUnit_ascii (by omega)
  · exact hexUnit_ascii (by omega)
  · exact hexUnit_ascii (by omega)
  · exact hexUnit_ascii (by omega)

/-- How a unit that is no control character is written. -/
theorem quoteUnit_of_le {u : UInt16} (h : 0x20 ≤ u) :
    quoteUnit u = if u = 0x22 ∨ u = 0x5C then [0x5C, u]
      else if isHighSurrogate u || isLowSurrogate u then hexEscape u else [u] := by
  have hlow : 0x20 ≤ u.toNat := UInt16.le_iff_toNat_le.mp h
  have hne : ∀ v : UInt16, v.toNat < 0x20 → u ≠ v := by
    intro v hv heq
    rw [heq] at hlow
    omega
  have hcontrol : ¬ u < 0x20 := UInt16.not_lt.mpr h
  unfold quoteUnit
  rw [if_neg (hne 0x08 (by decide)), if_neg (hne 0x0C (by decide)), if_neg (hne 0x0A (by decide)),
    if_neg (hne 0x0D (by decide)), if_neg (hne 0x09 (by decide))]
  by_cases hquote : u = 0x22
  · simp [hquote]
  · by_cases hslash : u = 0x5C
    · simp [hslash]
    · simp [hquote, hslash, hcontrol]

/-- A unit that is no control character takes at most three octets, or is a surrogate and takes six. -/
theorem octets_quoteUnit_le {u : UInt16} (h : 0x20 ≤ u) :
    octets (quoteUnit u) ≤ 3 + 3 * (if isHighSurrogate u || isLowSurrogate u then 1 else 0) := by
  rw [quoteUnit_of_le h]
  by_cases hescaped : u = 0x22 ∨ u = 0x5C
  · rw [if_pos hescaped]
    rcases hescaped with rfl | rfl
    · decide
    · decide
  · rw [if_neg hescaped]
    cases hsurrogate : isHighSurrogate u || isLowSurrogate u with
    | true => rw [if_pos rfl, octets_hexEscape, if_pos rfl]
    | false =>
        obtain ⟨hhigh, hlow⟩ := Bool.or_eq_false_iff.mp hsurrogate
        rw [if_neg Bool.false_ne_true, octets, Utf8.encode_unit hhigh hlow, List.length_append]
        have hpoint := Utf8.length_encodePoint_le (n := u.toNat) u.toNat_lt
        exact Nat.le_trans hpoint (Nat.le_add_right 3 _)

/-- What a text without control characters takes between its quotes. -/
theorem octets_quoteUnits_le {s : JsString} (h : ∀ u ∈ s, 0x20 ≤ u) :
    octets (quoteUnits s) ≤ 3 * s.length + 3 * loneSurrogates s := by
  induction s using quoteUnits.induct with
  | case1 => exact Nat.zero_le _
  | case2 u => simpa [quoteUnits, loneSurrogates] using octets_quoteUnit_le (h u (List.mem_singleton_self u))
  | case3 u v s hpair ih =>
      have hrest := ih fun w hw => h w (List.mem_cons_of_mem _ (List.mem_cons_of_mem _ hw))
      obtain ⟨hu, hv⟩ := (Bool.and_eq_true _ _).mp hpair
      have hfour : octets [u, v] ≤ 6 := by
        have hbounds := Utf8.pairValue_bounds hu hv
        rw [octets, Utf8.encode_pair hu hv, List.length_append, Utf8.encodePoint, if_neg (by omega), if_neg (by omega),
          if_neg (by omega)]
        exact Nat.le_add_right 4 2
      rw [quoteUnits, if_pos hpair, loneSurrogates, if_pos hpair]
      have hsplit : octets (u :: v :: quoteUnits s) = octets [u, v] + octets (quoteUnits s) :=
        octets_append (.pair hu hv .nil) (quoteUnits s)
      rw [hsplit, List.length_cons, List.length_cons]
      omega
  | case4 u v s hpair ih =>
      have hrest := ih fun w hw => h w (List.mem_cons_of_mem _ hw)
      have hunit := octets_quoteUnit_le (h u (List.mem_cons_self ..))
      rw [quoteUnits, if_neg hpair, loneSurrogates, if_neg hpair, octets_append (wellFormed_quoteUnit u),
        List.length_cons]
      omega

/-- Two quotation marks around the quoted units. -/
theorem octets_quote (s : JsString) : octets (quote s) = 2 + octets (quoteUnits s) := by
  rw [quote, octets_cons (by decide), octets_append (wellFormed_quoteUnits s)]
  have hclose : octets [0x22] = 1 := rfl
  omega

theorem octets_quote_le {s : JsString} (h : ∀ u ∈ s, 0x20 ≤ u) :
    octets (quote s) ≤ 2 + 3 * s.length + 3 * loneSurrogates s := by
  have := octets_quoteUnits_le h
  rw [octets_quote]
  omega

theorem quoteUnits_cons {u : UInt16} (hu : isHighSurrogate u = false) (s : JsString) :
    quoteUnits (u :: s) = quoteUnit u ++ quoteUnits s := by
  cases s with
  | nil => rw [quoteUnits, quoteUnits, List.append_nil]
  | cons v s =>
      rw [quoteUnits, if_neg]
      rw [hu, Bool.false_and]
      exact Bool.false_ne_true

/-- A text of printable ASCII takes at most two octets a character between its quotes. -/
theorem octets_quote_ascii_le {s : JsString} (h : ∀ u ∈ s, 0x20 ≤ u ∧ u ≤ 0x7E) :
    octets (quote s) ≤ 2 + 2 * s.length := by
  have hunits : octets (quoteUnits s) ≤ 2 * s.length := by
    induction s with
    | nil => exact Nat.zero_le _
    | cons u s ih =>
        obtain ⟨hlow, hhigh⟩ := h u (List.mem_cons_self ..)
        have hlow' : 0x20 ≤ u.toNat := UInt16.le_iff_toNat_le.mp hlow
        have hhigh' : u.toNat ≤ 0x7E := UInt16.le_iff_toNat_le.mp hhigh
        have hplain : ¬ (isHighSurrogate u || isLowSurrogate u) = true := by
          simp only [isHighSurrogate, isLowSurrogate, Bool.or_eq_true, Bool.and_eq_true, decide_eq_true_eq]
          omega
        have hunit : octets (quoteUnit u) ≤ 2 := by
          rw [quoteUnit_of_le hlow, if_neg hplain]
          split_ifs with hescaped
          · rcases hescaped with rfl | rfl
            · decide
            · decide
          · rw [octets_cons (by omega), octets_nil]
            omega
        have hrest := ih fun v hv => h v (List.mem_cons_of_mem _ hv)
        rw [quoteUnits_cons (by simp [isHighSurrogate]; omega), octets_append (wellFormed_quoteUnit u),
          List.length_cons]
        omega
  rw [octets_quote]
  omega

/-! ### Numerals -/

/-- A number below a power of ten has as many digits at most. -/
theorem length_natText_le {n k : Nat} (h : n < 10 ^ k) (hk : 0 < k) : (natText n).length ≤ k := by
  unfold natText
  split_ifs
  · exact hk
  · rw [List.length_reverse, List.length_map, Nat.digits_length_le_iff (by decide)]
    exact h

/-- An integer of at most 21 digits is written out. -/
theorem numText_ofInt {z : Int} (h : z.natAbs < 10 ^ 21) :
    numText (.ofInt z) = (if z < 0 then [0x2D] else []) ++ natText z.natAbs := by
  have hdigits := length_natText_le h (by decide)
  have hpoint : pointAt (.ofInt z) = (natText z.natAbs).length := Int.sub_zero _
  have hplain : -6 < pointAt (.ofInt z) ∧ pointAt (.ofInt z) ≤ 21 := by
    rw [hpoint]
    exact ⟨by omega, by exact_mod_cast hdigits⟩
  have htext : plainText (Decimal.ofInt z).mant.natAbs (Decimal.ofInt z).places = natText z.natAbs := by
    simp [plainText, Decimal.ofInt]
  rw [numText, if_pos hplain, htext]
  rfl

/-- A safe integer has sixteen digits at most. -/
theorem length_safe_le {n : Nat} (h : (n : Int) ≤ maxSafeInteger) : (natText n).length ≤ 16 := by
  have hn : (n : Int) ≤ 9007199254740991 := h
  exact length_natText_le (by omega) (by decide)

/-- A safe integer has at most sixteen digits and a sign. -/
theorem length_numText_le {z : Int} (h : |z| ≤ maxSafeInteger) : (numText (.ofInt z)).length ≤ 17 := by
  have hdigits : (natText z.natAbs).length ≤ 16 := length_safe_le (by rwa [← Int.abs_eq_natAbs])
  have hz : z.natAbs < 10 ^ 21 := by
    rw [Int.abs_eq_natAbs, maxSafeInteger] at h
    omega
  rw [numText_ofInt hz, List.length_append]
  split_ifs
  · rw [List.length_singleton]
    omega
  · rw [List.length_nil]
    omega

theorem length_numText_natCast_le {n : Nat} (h : (n : Int) ≤ maxSafeInteger) : (numText (.ofInt n)).length ≤ 16 := by
  have hn : (n : Int).natAbs < 10 ^ 21 := by
    rw [maxSafeInteger] at h
    omega
  rw [numText_ofInt hn, if_neg (by omega), List.nil_append, Int.natAbs_natCast]
  exact length_safe_le h

theorem octets_numText (d : Decimal) : octets (numText d) = (numText d).length :=
  octets_ascii (ascii_numText d)

/-! ### Objects -/

/-- What a property takes, its comma or opening brace included. -/
def memberOctets (gap ind : Nat) (f : JsString × Json) : Nat :=
  1 + (newline gap ind).length + octets (quote f.1) + (colon gap).length + octets (render gap ind f.2)

theorem octets_newline (gap ind : Nat) : octets (newline gap ind) = (newline gap ind).length := by
  apply octets_ascii
  intro u hu
  unfold newline at hu
  split_ifs at hu
  · cases hu
  · rcases List.mem_cons.mp hu with rfl | hu
    · decide
    · rw [List.eq_of_mem_replicate hu]
      decide

theorem octets_colon (gap : Nat) : octets (colon gap) = (colon gap).length := by
  unfold colon
  split_ifs
  · rfl
  · rfl

/-- The octets of an object are those of its properties. -/
theorem octets_renderMembers (gap ind : Nat) (fs : List (JsString × Json)) :
    octets (renderMembers gap ind fs) = (fs.map (memberOctets gap ind)).sum := by
  induction fs with
  | nil => rfl
  | cons f fs ih =>
      obtain ⟨k, x⟩ := f
      rw [renderMembers, octets_cons (by decide)]
      simp only [List.append_assoc]
      rw [octets_append (wellFormed_newline _ _), octets_append (wellFormed_quote _),
        octets_append (wellFormed_colon _),
        octets_append (wellFormed_render _ _ _), ih, octets_newline, octets_colon, List.map_cons, List.sum_cons,
        memberOctets]
      show _ = 1 + _ + octets (quote k) + _ + octets (render gap ind x) + _
      omega

/-- An object takes what its properties take, a closing brace and what stands before it. -/
theorem octets_render_obj (gap ind : Nat) {fs : List (JsString × Json)} (h : fs ≠ []) :
    octets (render gap ind (.obj fs)) = (fs.map (memberOctets gap (ind + gap))).sum + (newline gap ind).length + 1 := by
  cases fs with
  | nil => exact absurd rfl h
  | cons f fs =>
      obtain ⟨k, x⟩ := f
      rw [render, octets_cons (by decide)]
      simp only [List.append_assoc]
      rw [octets_append (wellFormed_newline _ _), octets_append (wellFormed_quote _),
        octets_append (wellFormed_colon _),
        octets_append (wellFormed_render _ _ _), octets_append (wellFormed_renderMembers _ _ _),
        octets_append (wellFormed_newline _ _), octets_renderMembers, octets_newline, octets_newline, octets_colon,
        List.map_cons, List.sum_cons, memberOctets]
      have hbrace : octets [0x7D] = 1 := rfl
      show _ = 1 + _ + octets (quote k) + _ + octets (render gap (ind + gap) x) + _ + _ + 1
      omega

end Json
