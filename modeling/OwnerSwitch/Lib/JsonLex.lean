/-
Module: OwnerSwitch.Lib.JsonLex
Layer: Lib
Purpose: Round trips of the lexical elements of JSON: the quoted form of every code unit sequence is read
  back as that sequence, and the numeral of every decimal as that decimal.
Imports: JsonText
Trusted boundary: none
Main exports: parseChars_quoteUnits, readNumber_numText, wellFormed_quote, numText_units
Open obligations: none
-/
import Mathlib.Data.List.TakeWhile
import OwnerSwitch.Lib.JsonText

namespace Json

/-! ### Strings -/

/-- A hexadecimal digit is read as its value. -/
theorem hexValue_hexUnit {d : Nat} (h : d < 16) : hexValue (hexUnit d) = some d := by
  interval_cases d <;> rfl

theorem readHex_hexEscape (u : UInt16) :
    readHex (hexUnit (u.toNat / 0x1000)) (hexUnit (u.toNat / 0x100 % 0x10))
      (hexUnit (u.toNat / 0x10 % 0x10)) (hexUnit (u.toNat % 0x10)) = some u := by
  have hu := u.toNat_lt
  have hval : ((u.toNat / 0x1000 * 0x10 + u.toNat / 0x100 % 0x10) * 0x10 + u.toNat / 0x10 % 0x10) * 0x10
      + u.toNat % 0x10 = u.toNat := by omega
  simp only [readHex, hexValue_hexUnit (show u.toNat / 0x1000 < 16 by omega),
    hexValue_hexUnit (show u.toNat / 0x100 % 0x10 < 16 by omega),
    hexValue_hexUnit (show u.toNat / 0x10 % 0x10 < 16 by omega),
    hexValue_hexUnit (show u.toNat % 0x10 < 16 by omega), Option.bind_some, Option.map_some, hval,
    UInt16.ofNat_toNat]

/-- An escape of four digits is read as its unit. -/
theorem parseChars_hexEscape (u : UInt16) (t : JsString) :
    parseChars (hexEscape u ++ t) = (parseChars t).map fun (s, r) => (u :: s, r) := by
  rw [parseChars.eq_def]
  simp [hexEscape, readHex_hexEscape]

/-- A two-unit escape. -/
theorem parseChars_escape {c u : UInt16} (hc : c ≠ 0x75) (h : unescape c = some u) (t : JsString) :
    parseChars (0x5C :: c :: t) = (parseChars t).map fun (s, r) => (u :: s, r) := by
  rw [parseChars.eq_def]
  simp [hc, h]

/-- A unit that needs no escape stands for itself. -/
theorem parseChars_raw {u : UInt16} (hq : u ≠ 0x22) (hb : u ≠ 0x5C) (hc : ¬ u < 0x20) (t : JsString) :
    parseChars (u :: t) = (parseChars t).map fun (s, r) => (u :: s, r) := by
  rw [parseChars.eq_def]
  simp [hq, hb, hc]

theorem parseChars_close (r : JsString) : parseChars (0x22 :: r) = some ([], r) := by
  rw [parseChars.eq_def]
  rfl

/-- What a unit is quoted as is read as the unit. -/
theorem parseChars_quoteUnit (u : UInt16) (t : JsString) :
    parseChars (quoteUnit u ++ t) = (parseChars t).map fun (s, r) => (u :: s, r) := by
  unfold quoteUnit
  split_ifs with h1 h2 h3 h4 h5 h6 h7 h8
  · subst h1; exact parseChars_escape (by decide) rfl t
  · subst h2; exact parseChars_escape (by decide) rfl t
  · subst h3; exact parseChars_escape (by decide) rfl t
  · subst h4; exact parseChars_escape (by decide) rfl t
  · subst h5; exact parseChars_escape (by decide) rfl t
  · subst h6; exact parseChars_escape (by decide) rfl t
  · subst h7; exact parseChars_escape (by decide) rfl t
  · exact parseChars_hexEscape u t
  · simp only [Bool.or_eq_true, decide_eq_true_eq, not_or] at h8
    exact parseChars_raw h1 h2 h8.1.1 t

theorem parseChars_surrogate {u : UInt16} (h : 0xD800 ≤ u.toNat) (t : JsString) :
    parseChars (u :: t) = (parseChars t).map fun (s, r) => (u :: s, r) := by
  refine parseChars_raw ?_ ?_ ?_ t
  · rintro rfl; simp at h
  · rintro rfl; simp at h
  · rw [UInt16.lt_iff_toNat_lt]
    simp
    omega

/-- A quoted string is read back. -/
theorem parseChars_quoteUnits (s r : JsString) :
    parseChars (quoteUnits s ++ 0x22 :: r) = some (s, r) := by
  induction s using quoteUnits.induct with
  | case1 => simp [quoteUnits, parseChars_close]
  | case2 u => simp [quoteUnits, parseChars_quoteUnit, parseChars_close]
  | case3 u v s h ih =>
      have hu : 0xD800 ≤ u.toNat := by
        simp [isHighSurrogate] at h; omega
      have hv : 0xD800 ≤ v.toNat := by
        simp [isLowSurrogate] at h; omega
      simp only [quoteUnits, h, if_true, List.cons_append]
      rw [parseChars_surrogate hu, parseChars_surrogate hv, ih]
      rfl
  | case4 u v s h ih =>
      simp only [quoteUnits, h]
      simp [parseChars_quoteUnit, ih]

/-- The units the escapes of a string may hold. -/
def isEscapeUnit (u : UInt16) : Bool :=
  u = 0x22 || u = 0x5C || u = 0x62 || u = 0x66 || u = 0x6E || u = 0x72 || u = 0x74 || u = 0x75
    || isDigit u || (0x61 ≤ u && u ≤ 0x66)

theorem isEscapeUnit_hexUnit {d : Nat} (h : d < 16) : isEscapeUnit (hexUnit d) = true := by
  interval_cases d <;> decide

/-- An escape has only the units of an escape. -/
theorem mem_hexEscape {u x : UInt16} (h : x ∈ hexEscape u) : isEscapeUnit x = true := by
  have hu := u.toNat_lt
  simp only [hexEscape, List.mem_cons, List.not_mem_nil, or_false] at h
  rcases h with rfl | rfl | rfl | rfl | rfl | rfl
  · decide
  · decide
  iterate 4 exact isEscapeUnit_hexUnit (by omega)

/-- A unit stands as it is, or becomes an escape that begins with a backslash. -/
theorem quoteUnit_cases (u : UInt16) :
    (quoteUnit u = [u] ∧ u ≠ 0x22 ∧ u ≠ 0x5C ∧ 0x20 ≤ u)
      ∨ ∃ t, quoteUnit u = 0x5C :: t ∧ ∀ x ∈ t, isEscapeUnit x = true := by
  unfold quoteUnit
  split_ifs with h1 h2 h3 h4 h5 h6 h7 h8
  iterate 7 exact .inr ⟨_, rfl, List.all_iff_forall_prop.mp rfl⟩
  · exact .inr ⟨_, rfl, fun x hx => mem_hexEscape (u := u) (List.mem_cons_of_mem _ hx)⟩
  · simp only [Bool.or_eq_true, decide_eq_true_eq, not_or] at h8
    exact .inl ⟨rfl, h1, h2, UInt16.not_lt.mp h8.1.1⟩

theorem quoteUnits_nil : quoteUnits [] = [] :=
  rfl

/-- Every unit between the quotes is a unit of the string or belongs to an escape. -/
theorem mem_quoteUnits {s : JsString} {x : UInt16} (h : x ∈ quoteUnits s) :
    (x ∈ s ∧ 0x20 ≤ x) ∨ isEscapeUnit x = true := by
  have hunit : ∀ u, x ∈ quoteUnit u → (x = u ∧ 0x20 ≤ x) ∨ isEscapeUnit x = true := by
    intro u hx
    rcases quoteUnit_cases u with ⟨hq, -, -, hle⟩ | ⟨t, hq, ht⟩
    · rw [hq, List.mem_singleton] at hx
      exact .inl ⟨hx, hx ▸ hle⟩
    · rw [hq] at hx
      cases List.mem_cons.mp hx with
      | inl hx => exact .inr (hx ▸ rfl)
      | inr hx => exact .inr (ht x hx)
  have hsurrogate : ∀ u : UInt16, 0xD800 ≤ u.toNat → (0x20 : UInt16) ≤ u := fun u hu =>
    UInt16.le_iff_toNat_le.mpr (by simp; omega)
  induction s using quoteUnits.induct with
  | case1 => cases h
  | case2 u =>
      rcases hunit u h with hx | hx
      · exact .inl ⟨by simp [hx.1], hx.2⟩
      · exact .inr hx
  | case3 u v s hpair ih =>
      simp only [quoteUnits, hpair, if_true, List.mem_cons] at h
      simp only [isHighSurrogate, isLowSurrogate, Bool.and_eq_true, decide_eq_true_eq] at hpair
      rcases h with rfl | rfl | h
      · exact .inl ⟨by simp, hsurrogate x (by omega)⟩
      · exact .inl ⟨by simp, hsurrogate x (by omega)⟩
      · exact (ih h).imp_left fun hx => ⟨by simp [hx.1], hx.2⟩
  | case4 u v s hpair ih =>
      rw [quoteUnits, if_neg hpair, List.mem_append] at h
      rcases h with h | h
      · exact (hunit u h).imp_left fun hx => ⟨by simp [hx.1], hx.2⟩
      · exact (ih h).imp_left fun hx => ⟨List.mem_cons_of_mem u hx.1, hx.2⟩

/-- A string is unchanged between its quotes, or an escape stands there. -/
theorem quoteUnits_eq_or (s : JsString) : quoteUnits s = s ∨ 0x5C ∈ quoteUnits s := by
  induction s using quoteUnits.induct with
  | case1 => exact .inl rfl
  | case2 u =>
      rcases quoteUnit_cases u with ⟨hq, -⟩ | ⟨t, hq, -⟩
      · exact .inl hq
      · exact .inr (by simp [quoteUnits, hq])
  | case3 u v s hpair ih =>
      simp only [quoteUnits, hpair, if_true, List.mem_cons, List.cons.injEq, true_and]
      exact ih.imp_right fun h => .inr (.inr h)
  | case4 u v s hpair ih =>
      rw [quoteUnits, if_neg hpair]
      rcases quoteUnit_cases u with ⟨hq, -⟩ | ⟨t, hq, -⟩
      · rcases ih with h | h
        · exact .inl (by rw [hq, h]; rfl)
        · exact .inr (List.mem_append_right _ h)
      · exact .inr (by simp [hq])

theorem wellFormed_quoteUnit (u : UInt16) : WellFormed (quoteUnit u) := by
  have hhex : ∀ d < 16, (hexUnit d).toNat < 0x80 := by
    intro d hd
    interval_cases d <;> decide
  have hu := u.toNat_lt
  unfold quoteUnit
  split_ifs with h1 h2 h3 h4 h5 h6 h7 h8
  iterate 7 exact .ascii (by simp)
  · refine .ascii ?_
    simp only [hexEscape, List.mem_cons, List.not_mem_nil, or_false, forall_eq_or_imp, forall_eq]
    exact ⟨by decide, by decide, hhex _ (by omega), hhex _ (by omega), hhex _ (by omega), hhex _ (by omega)⟩
  · simp only [Bool.or_eq_true, decide_eq_true_eq, not_or, Bool.not_eq_true] at h8
    exact .unit h8.1.2 h8.2 .nil

theorem wellFormed_quoteUnits (s : JsString) : WellFormed (quoteUnits s) := by
  induction s using quoteUnits.induct with
  | case1 => exact .nil
  | case2 u => exact wellFormed_quoteUnit u
  | case3 u v s h ih =>
      simp only [quoteUnits, h, if_true]
      rw [Bool.and_eq_true] at h
      exact .pair h.1 h.2 ih
  | case4 u v s h ih =>
      simp only [quoteUnits, h]
      exact (wellFormed_quoteUnit u).append ih

/-- A quoted string has no half of a surrogate pair, since halves are escaped. -/
theorem wellFormed_quote (s : JsString) : WellFormed (quote s) :=
  .unit rfl rfl ((wellFormed_quoteUnits s).append (.ascii (by simp)))

/-! ### Numerals -/

theorem digitUnit_toNat {d : Nat} (h : d < 10) : (digitUnit d).toNat = 0x30 + d := by
  interval_cases d <;> rfl

theorem isDigit_digitUnit {d : Nat} (h : d < 10) : isDigit (digitUnit d) = true := by
  interval_cases d <;> rfl

/-- The value of digits read in two parts. -/
theorem digitsValue_append (xs ys : JsString) :
    digitsValue (xs ++ ys) = digitsValue xs * 10 ^ ys.length + digitsValue ys := by
  unfold digitsValue
  rw [List.foldl_append]
  generalize xs.foldl (fun a u => a * 10 + (u.toNat - 0x30)) 0 = a
  induction ys using List.reverseRecOn with
  | nil => simp
  | append_singleton ys y ih =>
      simp only [List.foldl_append, List.foldl_cons, List.foldl_nil, List.length_append,
        List.length_singleton, ih, pow_succ]
      ring

/-- The digits of `n`, nothing for zero. -/
theorem digitsValue_digits (n : Nat) :
    digitsValue ((Nat.digits 10 n).map digitUnit).reverse = n := by
  induction n using Nat.strong_induction_on with
  | _ n ih =>
      rcases Nat.eq_zero_or_pos n with rfl | hn
      · rfl
      · rw [Nat.digits_def' (by omega) hn, List.map_cons, List.reverse_cons, digitsValue_append,
          ih _ (by omega)]
        simp [digitsValue, digitUnit_toNat (show n % 10 < 10 by omega)]
        omega

/-- The digits of a number are read as the number. -/
theorem digitsValue_natText (n : Nat) : digitsValue (natText n) = n := by
  unfold natText
  split
  · simp_all [digitsValue, digitUnit]
  · exact digitsValue_digits n

theorem natText_ne_nil (n : Nat) : natText n ≠ [] := by
  unfold natText
  split
  · simp
  · simpa using Nat.digits_ne_nil_iff_ne_zero.mpr ‹_›

theorem natText_isDigit {n : Nat} {u : UInt16} (h : u ∈ natText n) : isDigit u = true := by
  unfold natText at h
  split at h
  · rw [List.mem_singleton] at h
    subst h
    rfl
  · rw [List.mem_reverse, List.mem_map] at h
    obtain ⟨d, hd, rfl⟩ := h
    exact isDigit_digitUnit (Nat.digits_lt_base (by omega) hd)

/-- Only the text of zero starts with a zero. -/
theorem natText_head {n : Nat} (h : (natText n).head? = some 0x30) : natText n = [0x30] := by
  unfold natText at h ⊢
  split
  · rfl
  · rename_i hn
    rw [if_neg hn, List.head?_reverse, List.getLast?_map] at h
    have hne := (Nat.digits_ne_nil_iff_ne_zero (b := 10)).mpr hn
    rw [List.getLast?_eq_some_getLast hne, Option.map_some, Option.some_inj] at h
    have hlt := Nat.digits_lt_base (b := 10) (by omega) (List.getLast_mem hne)
    have hval := congrArg UInt16.toNat h
    rw [digitUnit_toNat hlt] at hval
    exact absurd (by simpa using hval) (Nat.getLast_digit_ne_zero 10 hn)

theorem length_padText (p n : Nat) : (padText p n).length = p := by
  induction p generalizing n with
  | zero => rfl
  | succ p ih => simp [padText, ih]

theorem padText_isDigit {p n : Nat} {u : UInt16} (h : u ∈ padText p n) : isDigit u = true := by
  induction p generalizing n with
  | zero => simp [padText] at h
  | succ p ih =>
      rcases List.mem_append.mp h with h | h
      · exact ih h
      · rw [List.mem_singleton] at h
        subst h
        exact isDigit_digitUnit (by omega)

/-- Padded digits are read as the last digits of the number. -/
theorem digitsValue_padText (p n : Nat) : digitsValue (padText p n) = n % 10 ^ p := by
  induction p generalizing n with
  | zero => simp [padText, digitsValue, Nat.mod_one]
  | succ p ih =>
      rw [padText, digitsValue_append, ih]
      simp only [List.length_singleton, pow_one, digitsValue, List.foldl_cons, List.foldl_nil, zero_mul,
        zero_add, digitUnit_toNat (show n % 10 < 10 by omega)]
      have hmod : n % 10 ^ (p + 1) = n % 10 + 10 * (n / 10 % 10 ^ p) := by
        rw [pow_succ', Nat.mod_mul]
      omega

theorem isNumUnit_of_isDigit {u : UInt16} (h : isDigit u = true) : isNumUnit u = true := by
  simp [isNumUnit, h]

theorem plainText_units {n places : Nat} {u : UInt16} (h : u ∈ plainText n places) : isNumUnit u = true := by
  rcases List.mem_append.mp h with h | h
  · exact isNumUnit_of_isDigit (natText_isDigit h)
  · split at h
    · simp at h
    · rcases List.mem_cons.mp h with rfl | h
      · rfl
      · exact isNumUnit_of_isDigit (padText_isDigit h)

theorem exponentText_units {digits : JsString} (hdigits : ∀ u ∈ digits, isDigit u = true) {e : Int} {u : UInt16}
    (h : u ∈ exponentText digits e) : isNumUnit u = true := by
  simp only [exponentText, List.mem_append, List.mem_cons] at h
  rcases h with (h | h) | rfl | rfl | h
  · exact isNumUnit_of_isDigit (hdigits u (List.mem_of_mem_take h))
  · split at h
    · simp at h
    · rcases List.mem_cons.mp h with rfl | h
      · rfl
      · exact isNumUnit_of_isDigit (hdigits u (List.mem_of_mem_drop h))
  · rfl
  · split <;> rfl
  · exact isNumUnit_of_isDigit (natText_isDigit h)

theorem isDigit_of_mem_rdropWhile {n : Nat} {u : UInt16} (h : u ∈ (natText n).rdropWhile (· = 0x30)) :
    isDigit u = true :=
  natText_isDigit ((List.rdropWhile_prefix _ (l := natText n)).subset h)

/-- A number is written with the units of a numeral only. -/
theorem numText_units {d : Decimal} {u : UInt16} (h : u ∈ numText d) : isNumUnit u = true := by
  rcases List.mem_append.mp h with h | h
  · split at h
    · rw [List.mem_singleton] at h
      subst h
      rfl
    · simp at h
  · split at h
    · exact plainText_units h
    · exact exponentText_units (fun _ => isDigit_of_mem_rdropWhile) h

/-- What is taken ends where the test first fails. -/
theorem takeWhile_append_stop {α : Type*} {p : α → Bool} {xs ys : List α} (hx : ∀ x ∈ xs, p x = true)
    (hy : ∀ y ∈ ys.head?, p y = false) : (xs ++ ys).takeWhile p = xs := by
  rw [List.takeWhile_append_of_pos hx]
  cases ys with
  | nil => simp
  | cons y ys => simp [hy y (by simp)]

theorem dropWhile_append_stop {α : Type*} {p : α → Bool} {xs ys : List α} (hx : ∀ x ∈ xs, p x = true)
    (hy : ∀ y ∈ ys.head?, p y = false) : (xs ++ ys).dropWhile p = ys := by
  rw [List.dropWhile_append_of_pos hx]
  cases ys with
  | nil => rfl
  | cons y ys => simp [hy y (by simp)]

/-- The value of a numeral by its parts. -/
def numeralValue (neg : Bool) (ip fp : JsString) (e : Int) : Decimal :=
  let m : Int := digitsValue (ip ++ fp)
  let m := if neg then -m else m
  if (fp.length : Int) ≤ e then .ofInt (m * 10 ^ (e - fp.length).toNat) else .make m (fp.length - e).toNat

/-- A numeral is read by its parts, whatever its sign. -/
theorem readNumber_parts {t ip fp u : JsString} {e : Int} (htake : t.takeWhile isDigit = ip) (hne : ip ≠ [])
    (hzero : ip.head? = some 0x30 → ip = [0x30]) (hfrac : readFraction (t.dropWhile isDigit) = some (fp, u))
    (hexp : readExponent u = some e) (neg : Bool) :
    readNumber ((if neg then [0x2D] else []) ++ t) = some (numeralValue neg ip fp e) := by
  have hgood : ¬ (ip = [] ∨ ip.head? = some 0x30 ∧ ip ≠ [0x30]) := by
    rintro (h | ⟨h, hne⟩)
    · exact hne h
    · exact hne (hzero h)
  cases neg with
  | true =>
      simp only [readNumber, if_true, List.singleton_append, htake, hgood, if_false, hfrac, Option.bind_some, hexp,
        Option.map_some]
      rfl
  | false =>
      have hsign : ∀ u, ¬ t = 0x2D :: u := by
        rintro u rfl
        rw [List.takeWhile_cons_of_neg (by decide)] at htake
        exact hne htake.symm
      rw [if_neg Bool.false_ne_true, List.nil_append]
      unfold readNumber
      split
      rename_i heq
      split at heq
      · exact absurd rfl (hsign _)
      · obtain ⟨rfl, rfl⟩ := Prod.mk.inj heq
        simp only [htake, hgood, if_false, hfrac, Option.bind_some, hexp, Option.map_some]
        rfl

/-- What follows the digits before the point. -/
theorem readFraction_point {fp u : JsString} (hfp : fp ≠ []) (hdigits : ∀ x ∈ fp, isDigit x = true)
    (hstop : ∀ y ∈ u.head?, isDigit y = false) : readFraction (0x2E :: (fp ++ u)) = some (fp, u) := by
  have htake := takeWhile_append_stop hdigits hstop
  have hdrop := dropWhile_append_stop hdigits hstop
  simp [readFraction, htake, hdrop, hfp]

theorem readFraction_none {c : UInt16} {u : JsString} (hc : c ≠ 0x2E) : readFraction (c :: u) = some ([], c :: u) := by
  unfold readFraction
  split
  · rename_i heq
    exact absurd (List.cons.inj heq).1 hc
  · rfl

/-- The exponent part reads back. -/
theorem readExponent_natText (e : Int) :
    readExponent (0x65 :: (if e < 0 then 0x2D else 0x2B) :: natText e.natAbs) = some e := by
  have hne := natText_ne_nil e.natAbs
  have hall : (natText e.natAbs).all isDigit = true := List.all_eq_true.mpr fun u hu => natText_isDigit hu
  by_cases hneg : e < 0
  · have habs : -(e.natAbs : Int) = e := by omega
    rw [if_pos hneg]
    simp only [readExponent, or_true, if_true, hne, hall, ne_eq, not_false_eq_true, and_self, digitsValue_natText, habs]
  · have habs : (e.natAbs : Int) = e := by omega
    rw [if_neg hneg]
    simp only [readExponent, or_true, if_true, hne, hall, ne_eq, not_false_eq_true, and_self, digitsValue_natText, habs]
    rfl

/-- The digits of a number without the zeros at its end. -/
theorem natText_strip (n : Nat) : ∃ z, (natText n).length = ((natText n).rdropWhile (· = 0x30)).length + z ∧
    n = digitsValue ((natText n).rdropWhile (· = 0x30)) * 10 ^ z := by
  have hzeros : ∀ z : Nat, digitsValue (List.replicate z 0x30) = 0 := by
    intro z
    induction z with
    | zero => rfl
    | succ z ih =>
        rw [List.replicate_succ', digitsValue_append, ih]
        rfl
  have hsplit := List.rdropWhile_append_rtakeWhile (p := fun u : UInt16 => decide (u = 0x30)) (l := natText n)
  have htail : (natText n).rtakeWhile (· = 0x30) = List.replicate ((natText n).rtakeWhile (· = 0x30)).length 0x30 := by
    refine List.eq_replicate_iff.mpr ⟨rfl, fun u hu => ?_⟩
    simpa using List.mem_rtakeWhile_imp hu
  refine ⟨((natText n).rtakeWhile (· = 0x30)).length, ?_, ?_⟩
  · rw [← List.length_append, hsplit]
  · have hvalue := digitsValue_natText n
    rw [← hsplit, digitsValue_append, htail, hzeros, Nat.add_zero, List.length_replicate] at hvalue
    exact hvalue.symm

/-- Where the point stands in a numeral written out. -/
theorem readNumber_plainText (neg : Bool) (n places : Nat) :
    readNumber ((if neg then [0x2D] else []) ++ plainText n places) =
      some (numeralValue neg (natText (n / 10 ^ places)) (padText places n) 0) := by
  have hdigits : ∀ x ∈ natText (n / 10 ^ places), isDigit x = true := fun x hx => natText_isDigit hx
  have hstop : ∀ y ∈ (if places = 0 then ([] : JsString) else 0x2E :: padText places n).head?, isDigit y = false := by
    split
    · simp
    · rintro y ⟨rfl⟩
      rfl
  refine readNumber_parts (u := []) (takeWhile_append_stop hdigits hstop) (natText_ne_nil _) natText_head ?_ rfl neg
  rw [dropWhile_append_stop hdigits hstop]
  split
  · rename_i hplaces
    rw [hplaces]
    rfl
  · rename_i hplaces
    have hne : padText places n ≠ [] := by
      intro hnil
      have hlength := length_padText places n
      rw [hnil] at hlength
      exact hplaces hlength.symm
    have hpoint := @readFraction_point (padText places n) [] hne (fun x hx => padText_isDigit hx) (by simp)
    rwa [List.append_nil] at hpoint

/-- What a numeral written out denotes. -/
theorem numeralValue_plain (d : Decimal) :
    numeralValue (decide (d.mant < 0)) (natText (d.mant.natAbs / 10 ^ d.places))
      (padText d.places d.mant.natAbs) 0 = d := by
  have hvalue : digitsValue (natText (d.mant.natAbs / 10 ^ d.places) ++ padText d.places d.mant.natAbs) =
      d.mant.natAbs := by
    rw [digitsValue_append, digitsValue_natText, digitsValue_padText, length_padText]
    exact Nat.div_add_mod' _ _
  have hmant : (if decide (d.mant < 0) = true then -(d.mant.natAbs : Int) else d.mant.natAbs) = d.mant := by
    split_ifs with hneg
    · have := of_decide_eq_true hneg
      omega
    · have := of_decide_eq_false (Bool.not_eq_true _ ▸ hneg)
      omega
  unfold numeralValue
  dsimp only
  rw [hvalue, hmant, length_padText]
  split
  · have hplaces : d.places = 0 := by omega
    obtain ⟨m, p, hn⟩ := d
    obtain rfl : p = 0 := hplaces
    simp [Decimal.ofInt]
  · simpa using Decimal.make_normal d

/-- One digit, the others, and the exponent. -/
theorem readNumber_exponentText (neg : Bool) {digits : JsString} (hdigits : ∀ u ∈ digits, isDigit u = true)
    (hfirst : digits.take 1 ≠ []) (e : Int) :
    readNumber ((if neg then [0x2D] else []) ++ exponentText digits e) =
      some (numeralValue neg (digits.take 1) (digits.drop 1) e) := by
  obtain ⟨c, rest, rfl⟩ : ∃ c rest, digits = c :: rest := List.exists_cons_of_ne_nil (by rintro rfl; exact hfirst rfl)
  have hc : isDigit c = true := hdigits c (by simp)
  have hexponent := readExponent_natText e
  generalize htail : (0x65 : UInt16) :: (if e < 0 then 0x2D else 0x2B) :: natText e.natAbs = tail at hexponent
  have htext : exponentText (c :: rest) e = c :: ((if rest = [] then [] else 0x2E :: rest) ++ tail) := by
    rw [← htail]
    cases rest <;> simp [exponentText]
  have hstop : ∀ y ∈ ((if rest = [] then [] else 0x2E :: rest) ++ tail).head?, isDigit y = false := by
    rw [← htail]
    cases rest <;> (rintro y ⟨rfl⟩; rfl)
  rw [htext]
  have hwhole : ([c] ++ ((if rest = [] then [] else 0x2E :: rest) ++ tail)).takeWhile isDigit = [c] :=
    takeWhile_append_stop (by simpa using hc) hstop
  apply readNumber_parts (u := tail) hwhole hfirst _ _ hexponent neg
  · intro hzero
    rw [Option.some.inj hzero]
  · show readFraction (List.dropWhile isDigit ([c] ++ ((if rest = [] then [] else 0x2E :: rest) ++ tail))) = _
    rw [dropWhile_append_stop (by simpa using hc) hstop]
    cases hrest : rest with
    | nil =>
        rw [← htail]
        exact readFraction_none (by decide)
    | cons x xs =>
        refine readFraction_point (by simp) (fun y hy => hdigits y ?_) ?_
        · rw [hrest]
          exact List.mem_cons_of_mem _ hy
        · rw [← htail]
          rintro y ⟨rfl⟩
          rfl

/-- A number that is not written out has digits. -/
theorem strip_ne_nil {d : Decimal} (hd : ¬ (-6 < pointAt d ∧ pointAt d ≤ 21)) :
    (natText d.mant.natAbs).rdropWhile (· = 0x30) ≠ [] := by
  intro hnil
  obtain ⟨z, -, hvalue⟩ := natText_strip d.mant.natAbs
  rw [hnil] at hvalue
  have hzero : d.mant = 0 := by simpa [digitsValue] using hvalue
  have hplaces : d.places = 0 := d.normal.resolve_right fun hten => hten (by simp [hzero])
  apply hd
  have hpoint : pointAt d = 1 := by
    unfold pointAt
    rw [hzero, hplaces]
    rfl
  rw [hpoint]
  decide

/-- What a numeral with an exponent denotes. -/
theorem numeralValue_exponent (d : Decimal) (hd : ¬ (-6 < pointAt d ∧ pointAt d ≤ 21)) :
    numeralValue (decide (d.mant < 0)) (((natText d.mant.natAbs).rdropWhile (· = 0x30)).take 1)
      (((natText d.mant.natAbs).rdropWhile (· = 0x30)).drop 1) (pointAt d - 1) = d := by
  have hsome := List.length_pos_iff.mpr (strip_ne_nil hd)
  obtain ⟨z, hlength, hvalue⟩ := natText_strip d.mant.natAbs
  have hpoint : pointAt d = (natText d.mant.natAbs).length - d.places := rfl
  generalize (natText d.mant.natAbs).rdropWhile (· = 0x30) = digits at hsome hlength hvalue ⊢
  have hmant : (if decide (d.mant < 0) = true then -(digitsValue digits : Int) else digitsValue digits) * 10 ^ z =
      d.mant := by
    have hscaled : (d.mant.natAbs : Int) = digitsValue digits * 10 ^ z := by exact_mod_cast hvalue
    split_ifs with hneg
    · have := of_decide_eq_true hneg
      rw [neg_mul, ← hscaled]
      omega
    · have := of_decide_eq_false (Bool.not_eq_true _ ▸ hneg)
      rw [← hscaled]
      omega
  unfold numeralValue
  dsimp only
  rw [List.take_append_drop, List.length_drop]
  by_cases hplaces : d.places = 0
  · -- an integer, whose zeros at the end are in the exponent
    have hexponent : (pointAt d - 1 - ((digits.length - 1 : Nat) : Int)).toNat = z := by omega
    rw [if_pos (by omega), hexponent, hmant]
    obtain ⟨m, p, hn⟩ := d
    obtain rfl : p = 0 := hplaces
    rfl
  · -- a fraction has no zeros at its end
    have hten := d.normal.resolve_left hplaces
    obtain rfl : z = 0 := by
      by_contra hz
      apply hten
      rw [← hmant, ← Nat.succ_pred hz, pow_succ]
      exact Dvd.intro_left _ (mul_assoc _ _ _)
    rw [pow_zero, mul_one] at hmant
    have hexponent : (((digits.length - 1 : Nat) : Int) - (pointAt d - 1)).toNat = d.places := by omega
    rw [if_neg (by omega), hexponent, hmant]
    exact Decimal.make_normal d

/-- A written number is read back. -/
theorem readNumber_numText (d : Decimal) : readNumber (numText d) = some d := by
  have hsign : (if d.mant < 0 then ([0x2D] : JsString) else []) = if decide (d.mant < 0) then [0x2D] else [] := by
    simp
  unfold numText
  rw [hsign]
  by_cases hd : -6 < pointAt d ∧ pointAt d ≤ 21
  · rw [if_pos hd, readNumber_plainText, numeralValue_plain]
  · have hfirst : ((natText d.mant.natAbs).rdropWhile (· = 0x30)).take 1 ≠ [] := by
      simpa using strip_ne_nil hd
    rw [if_neg hd, readNumber_exponentText _ (fun _ => isDigit_of_mem_rdropWhile) hfirst, numeralValue_exponent d hd]

end Json
