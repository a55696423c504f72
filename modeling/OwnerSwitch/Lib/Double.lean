/-
Module: OwnerSwitch.Lib.Double
Layer: Lib
Purpose: Double precision as a program computes with it: rounding to the nearest number that has 53 significant bits,
  ties to even, the sum of two numbers, and their comparison. Rounding keeps what is representable, passes no
  representable number, and is off by at most one part in 2 ^ 53; a sum of sums is off by as many parts as it has terms.
Imports: none of the project
Trusted boundary: a zero has no sign
Main exports: Double, Double.Representable, nearest, Double.ofRat, le_nearest, nearest_eq_of_close, SumsWithin.snoc
Open obligations: none
-/
import Mathlib.Algebra.Order.Field.Basic
import Mathlib.Algebra.Order.Field.Power
import Mathlib.Algebra.Order.Ring.Rat
import Mathlib.Data.Int.Log
import Mathlib.Data.Rat.Floor
import Mathlib.Tactic.Linarith
import Mathlib.Tactic.NormNum
import Mathlib.Tactic.Positivity
import Mathlib.Tactic.Ring

namespace Double

/-! ### Rounding to an integer -/

/-- The integer nearest to a rational, the even one of two. -/
def roundEven (x : ℚ) : ℤ :=
  match compare (Int.fract x) (1 / 2) with
  | .lt => ⌊x⌋
  | .eq => if ⌊x⌋ % 2 = 0 then ⌊x⌋ else ⌊x⌋ + 1
  | .gt => ⌊x⌋ + 1

variable {x q r : ℚ} {k : ℤ}

/-- A number is rounded down from the lower half and up from the upper one. -/
theorem roundEven_cases (x : ℚ) :
    (roundEven x = ⌊x⌋ ∧ Int.fract x ≤ 1 / 2) ∨ (roundEven x = ⌊x⌋ + 1 ∧ 1 / 2 ≤ Int.fract x) := by
  unfold roundEven
  rcases hcompare : compare (Int.fract x) (1 / 2) with _ | _ | _
  · exact .inl ⟨rfl, (compare_lt_iff_lt.mp hcompare).le⟩
  · have hhalf := compare_eq_iff_eq.mp hcompare
    dsimp only
    split_ifs
    · exact .inl ⟨rfl, hhalf.le⟩
    · exact .inr ⟨rfl, hhalf.ge⟩
  · exact .inr ⟨rfl, (compare_gt_iff_gt.mp hcompare).le⟩

/-- Rounding to an integer is off by a half at most. -/
theorem roundEven_error (x : ℚ) : |(roundEven x : ℚ) - x| ≤ 1 / 2 := by
  have hsplit := Int.floor_add_fract x
  have hfract := Int.fract_nonneg x
  have hfract' := Int.fract_lt_one x
  rw [abs_le]
  rcases roundEven_cases x with ⟨hround, hle⟩ | ⟨hround, hle⟩
  · rw [hround]
    constructor <;> linarith
  · rw [hround]
    push_cast
    constructor <;> linarith

@[simp] theorem roundEven_intCast (k : ℤ) : roundEven k = k := by
  rcases roundEven_cases k with ⟨hround, -⟩ | ⟨-, hle⟩
  · rw [hround, Int.floor_intCast]
  · rw [Int.fract_intCast] at hle
    norm_num at hle

/-- Rounding passes no integer. -/
theorem le_roundEven (h : (k : ℚ) ≤ x) : k ≤ roundEven x := by
  have hfloor := Int.le_floor.mpr h
  rcases roundEven_cases x with ⟨hround, -⟩ | ⟨hround, -⟩ <;> omega

theorem roundEven_le (h : x ≤ k) : roundEven x ≤ k := by
  have hfloor := Int.floor_le x
  rcases roundEven_cases x with ⟨hround, -⟩ | ⟨hround, hhalf⟩
  · have : (⌊x⌋ : ℚ) ≤ k := hfloor.trans h
    rw [hround]
    exact_mod_cast this
  · have hsplit := Int.floor_add_fract x
    have hlt : (⌊x⌋ : ℚ) < k := by linarith
    rw [hround]
    exact_mod_cast hlt

/-! ### Rounding to 53 bits -/

/-- A number of at most 53 significant bits, in the range of the exponents. -/
def Representable (q : ℚ) : Prop :=
  ∃ m e : ℤ, q = m * 2 ^ e ∧ |m| < 2 ^ 53 ∧ -1074 ≤ e ∧ |q| < 2 ^ 1024

/-- The exponent of the last bit that is kept. -/
def lastBit (q : ℚ) : ℤ :=
  max (Int.log 2 |q| - 52) (-1074)

/-- The nearest number with 53 significant bits; its exponent is not bounded above. -/
def nearest (q : ℚ) : ℚ :=
  roundEven (q / 2 ^ lastBit q) * 2 ^ lastBit q

@[simp] theorem nearest_zero : nearest 0 = 0 := by
  rw [nearest, zero_div, ← Int.cast_zero, roundEven_intCast, Int.cast_zero, zero_mul]

/-- A smaller number keeps smaller bits. -/
theorem lastBit_le {e : ℤ} (hne : q ≠ 0) (he : -1074 ≤ e) (hq : |q| < 2 ^ (53 + e)) : lastBit q ≤ e := by
  refine max_le ?_ he
  have hlog := (Int.lt_zpow_iff_log_lt (b := 2) (by decide) (abs_pos.mpr hne)).mp (by exact_mod_cast hq)
  omega

/-- A number is less than 53 bits long, counted in its last one. -/
theorem abs_lt_lastBit (q : ℚ) : |q| < 2 ^ 53 * 2 ^ lastBit q := by
  have hlog := Int.lt_zpow_succ_log_self (b := 2) (by decide) |q|
  have hle : Int.log 2 |q| + 1 ≤ 53 + lastBit q := by
    have := le_max_left (Int.log 2 |q| - 52) (-1074)
    unfold lastBit
    omega
  calc |q| < 2 ^ (Int.log 2 |q| + 1) := by exact_mod_cast hlog
    _ ≤ 2 ^ (53 + lastBit q) := zpow_le_zpow_right₀ (by norm_num) hle
    _ = 2 ^ 53 * 2 ^ lastBit q := zpow_add₀ (by norm_num) 53 _

/-- A number whose exponent is not the smallest one has all of its 53 bits. -/
theorem le_abs_of_lastBit (hne : q ≠ 0) (h : lastBit q ≠ -1074) : 2 ^ 52 * 2 ^ lastBit q ≤ |q| := by
  have hbit : Int.log 2 |q| = 52 + lastBit q := by
    unfold lastBit at h ⊢
    omega
  have hlog := Int.zpow_log_le_self (b := 2) (by decide) (abs_pos.mpr hne)
  rw [hbit] at hlog
  calc (2 : ℚ) ^ 52 * 2 ^ lastBit q = 2 ^ (52 + lastBit q) := (zpow_add₀ (by norm_num) 52 _).symm
    _ ≤ |q| := by exact_mod_cast hlog

/-- Rounding is off by half of the last bit that is kept at most. -/
theorem nearest_error (q : ℚ) : |nearest q - q| ≤ 2 ^ lastBit q / 2 := by
  have hpos : (0 : ℚ) < 2 ^ lastBit q := by positivity
  have herror := roundEven_error (q / 2 ^ lastBit q)
  have hscaled : nearest q - q = (roundEven (q / 2 ^ lastBit q) - q / 2 ^ lastBit q) * 2 ^ lastBit q := by
    rw [nearest, sub_mul, div_mul_cancel₀ _ hpos.ne']
  rw [hscaled, abs_mul, abs_of_pos hpos]
  linarith [mul_le_mul_of_nonneg_right herror hpos.le]

/-- A multiple of the last bit is its own rounding. -/
theorem nearest_eq_self_of_multiple (h : q = k * 2 ^ lastBit q) : nearest q = q := by
  have hpos : (0 : ℚ) < 2 ^ lastBit q := by positivity
  have hscaled : q / 2 ^ lastBit q = k := by
    rw [div_eq_iff hpos.ne']
    exact h
  rw [nearest, hscaled, roundEven_intCast]
  exact h.symm

/-- A number with a coarser last bit is a multiple of a finer one. -/
theorem scale_eq {m e f : ℤ} (h : f ≤ e) : (m : ℚ) * 2 ^ e = (m * 2 ^ (e - f).toNat : ℤ) * 2 ^ f := by
  have hsplit : (2 : ℚ) ^ e = 2 ^ (e - f).toNat * 2 ^ f := by
    rw [← zpow_natCast, ← zpow_add₀ (by norm_num)]
    congr 1
    omega
  rw [hsplit]
  push_cast
  ring

/-- A number of 53 bits is below the next power of two. -/
theorem abs_lt_of_mantissa {m e : ℤ} (hm : |m| < 2 ^ 53) : |(m : ℚ) * 2 ^ e| < 2 ^ (53 + e) := by
  have hpos : (0 : ℚ) < 2 ^ e := by positivity
  have hmant : |(m : ℚ)| < 2 ^ 53 := by exact_mod_cast hm
  rw [abs_mul, abs_of_pos hpos, zpow_add₀ (by norm_num)]
  exact mul_lt_mul_of_pos_right hmant hpos

/-- What a number has in whole last bits is not rounded away. -/
theorem le_nearest_of_multiple (h : k * 2 ^ lastBit q ≤ q) : k * 2 ^ lastBit q ≤ nearest q := by
  have hpos : (0 : ℚ) < 2 ^ lastBit q := by positivity
  have hle : k ≤ roundEven (q / 2 ^ lastBit q) := le_roundEven ((le_div_iff₀ hpos).mpr h)
  exact mul_le_mul_of_nonneg_right (by exact_mod_cast hle) hpos.le

/-- Rounding passes no representable number. -/
theorem le_nearest (hr : Representable r) (hpos : 0 ≤ q) (h : r ≤ q) : r ≤ nearest q := by
  obtain ⟨m, e, hmant, hm, he, -⟩ := hr
  rcases le_or_gt (lastBit q) e with hbit | hbit
  · rw [hmant, scale_eq hbit] at h ⊢
    exact le_nearest_of_multiple h
  · -- a number with finer bits is below those that have all of their bits
    rcases hpos.eq_or_lt with rfl | hpos
    · rwa [nearest_zero]
    · have hfull := le_abs_of_lastBit hpos.ne' (by omega)
      rw [abs_of_pos hpos] at hfull
      have hsmall : r ≤ 2 ^ 52 * 2 ^ lastBit q := by
        calc r ≤ |(m : ℚ) * 2 ^ e| := hmant ▸ le_abs_self _
          _ ≤ 2 ^ (53 + e) := (abs_lt_of_mantissa hm).le
          _ ≤ 2 ^ (52 + lastBit q) := zpow_le_zpow_right₀ (by norm_num) (by omega)
          _ = 2 ^ 52 * 2 ^ lastBit q := zpow_add₀ (by norm_num) 52 _
      exact hsmall.trans (@le_nearest_of_multiple q (2 ^ 52) (by exact_mod_cast hfull) |>.trans' (by norm_num))

/-- Rounding keeps the sign. -/
theorem nearest_nonneg (h : 0 ≤ q) : 0 ≤ nearest q := by
  have hzero := @le_nearest_of_multiple q 0 (by simpa using h)
  simpa using hzero

/-- What is rounded has at most 53 bits. -/
theorem representable_nearest (h : |nearest q| < 2 ^ 1024) : Representable (nearest q) := by
  have hpos : (0 : ℚ) < 2 ^ lastBit q := by positivity
  have hbound : |q / 2 ^ lastBit q| < 2 ^ 53 := by
    rw [abs_div, abs_of_pos hpos, div_lt_iff₀ hpos]
    exact abs_lt_lastBit q
  obtain ⟨hlow, hhigh⟩ := abs_lt.mp hbound
  have hle : roundEven (q / 2 ^ lastBit q) ≤ 2 ^ 53 := roundEven_le (by exact_mod_cast hhigh.le)
  have hge : -2 ^ 53 ≤ roundEven (q / 2 ^ lastBit q) := le_roundEven (by exact_mod_cast hlow.le)
  have hbit : -1074 ≤ lastBit q := le_max_right _ _
  have hvalue : nearest q = roundEven (q / 2 ^ lastBit q) * 2 ^ lastBit q := rfl
  generalize roundEven (q / 2 ^ lastBit q) = m at hvalue hle hge
  rcases lt_or_ge |m| (2 ^ 53) with hm | hm
  · exact ⟨m, lastBit q, hvalue, hm, hbit, h⟩
  · -- the rounding has carried into a 54th bit
    have hcarry : ∃ c : ℤ, m = c * 2 ∧ |c| < 2 ^ 53 := by
      rcases le_or_gt 0 m with hsign | hsign
      · rw [abs_of_nonneg hsign] at hm
        obtain rfl : m = 2 ^ 53 := le_antisymm hle hm
        exact ⟨2 ^ 52, by norm_num, by norm_num⟩
      · rw [abs_of_neg hsign] at hm
        obtain rfl : m = -2 ^ 53 := by omega
        exact ⟨-2 ^ 52, by norm_num, by norm_num⟩
    obtain ⟨c, rfl, hc⟩ := hcarry
    refine ⟨c, lastBit q + 1, ?_, hc, by omega, h⟩
    rw [hvalue, zpow_add₀ (by norm_num)]
    push_cast
    ring

/-- A number within a half of an integer is rounded to it. -/
theorem roundEven_eq (h : |x - k| < 1 / 2) : roundEven x = k := by
  have herror := abs_le.mp (roundEven_error x)
  obtain ⟨hlow, hhigh⟩ := abs_lt.mp h
  have hupper : (roundEven x : ℚ) < k + 1 := by linarith [herror.2]
  have hlower : (k : ℚ) < roundEven x + 1 := by linarith [herror.1]
  have hle : roundEven x < k + 1 := by exact_mod_cast hupper
  have hge : k < roundEven x + 1 := by exact_mod_cast hlower
  omega

/-- Rounding to a multiple of the last bit. -/
theorem nearest_eq_of_lastBit {e : ℤ} (hbit : lastBit x = e) (h : |x - k * 2 ^ e| < 2 ^ e / 2) :
    nearest x = k * 2 ^ e := by
  have hpos : (0 : ℚ) < 2 ^ e := by positivity
  have hscaled : |x / 2 ^ e - k| < 1 / 2 := by
    rw [← mul_lt_mul_iff_left₀ hpos, ← abs_of_pos hpos, ← abs_mul, sub_mul, abs_of_pos hpos,
      div_mul_cancel₀ _ hpos.ne']
    linarith
  rw [nearest, hbit, roundEven_eq hscaled]

/-- A representable number in its last bits. -/
theorem Representable.mantissa (hq : Representable q) (hne : q ≠ 0) :
    ∃ k : ℤ, q = k * 2 ^ lastBit q ∧ |q| = |k| * 2 ^ lastBit q ∧ k ≠ 0 ∧ |k| < 2 ^ 53 := by
  have hpos : (0 : ℚ) < 2 ^ lastBit q := by positivity
  obtain ⟨m, e, hmant, hm, he, -⟩ := hq
  obtain ⟨k, hk⟩ : ∃ k : ℤ, q = k * 2 ^ lastBit q :=
    ⟨_, hmant.trans (scale_eq (lastBit_le hne he (hmant ▸ abs_lt_of_mantissa hm)))⟩
  have habs : |q| = |k| * 2 ^ lastBit q := by
    calc |q| = |(k : ℚ) * 2 ^ lastBit q| := congrArg abs hk
      _ = |k| * 2 ^ lastBit q := by rw [abs_mul, abs_of_pos hpos, Int.cast_abs]
  refine ⟨k, hk, habs, ?_, ?_⟩
  · rintro rfl
    exact hne (by simpa using hk)
  · have hlt := abs_lt_lastBit q
    rw [habs, mul_lt_mul_iff_left₀ hpos] at hlt
    exact_mod_cast hlt

theorem zpow_eq_two_mul (e : ℤ) : (2 : ℚ) ^ e = 2 * 2 ^ (e - 1) := by
  rw [← zpow_one_add₀ (by norm_num)]
  congr 1
  omega

/-- A number with finer bits that is less than half a bit from `q` leaves `q` the least mantissa. -/
theorem mantissa_of_finer {k e : ℤ} (habs : |q| = (|k| : ℤ) * 2 ^ e) (hhalf : |x - q| < 2 ^ e / 2)
    (hfull : 2 ^ 52 * 2 ^ e ≤ |q|) (hbit : lastBit x < e) : |k| = 2 ^ 52 := by
  have hpos : (0 : ℚ) < 2 ^ e := by positivity
  have hdist := abs_sub_abs_le_abs_sub q x
  rw [abs_sub_comm q x] at hdist
  have hx52 : |x| < 2 ^ 52 * 2 ^ e := by
    calc |x| < 2 ^ 53 * 2 ^ lastBit x := abs_lt_lastBit x
      _ = 2 ^ (53 + lastBit x) := (zpow_add₀ (by norm_num) 53 _).symm
      _ ≤ 2 ^ (52 + e) := zpow_le_zpow_right₀ (by norm_num) (by omega)
      _ = 2 ^ 52 * 2 ^ e := zpow_add₀ (by norm_num) 52 _
  have hle : (2 : ℚ) ^ 52 ≤ (|k| : ℤ) := by
    rwa [habs, mul_le_mul_iff_left₀ hpos] at hfull
  have hlt : ((|k| : ℤ) : ℚ) < 2 ^ 52 + 1 := by
    rw [← mul_lt_mul_iff_left₀ hpos, ← habs]
    linarith
  have hle' : (2 : ℤ) ^ 52 ≤ |k| := by exact_mod_cast hle
  have hlt' : |k| < 2 ^ 52 + 1 := by exact_mod_cast hlt
  omega

/-- Its bits are finer by one. -/
theorem lastBit_of_finer {e : ℤ} (hx : x ≠ 0) (habs : |q| = 2 ^ 52 * 2 ^ e) (hhalf : |x - q| < 2 ^ e / 2)
    (hbit : lastBit x < e) : lastBit x = e - 1 := by
  have hpos : (0 : ℚ) < 2 ^ e := by positivity
  have hdist := abs_sub_abs_le_abs_sub q x
  rw [abs_sub_comm q x] at hdist
  have hlog : e + 51 ≤ Int.log 2 |x| := by
    refine (Int.zpow_le_iff_le_log (by decide) (abs_pos.mpr hx)).mp ?_
    rw [zpow_add₀ (by norm_num)]
    show (2 : ℚ) ^ e * 2 ^ 51 ≤ |x|
    linarith
  have := le_max_left (Int.log 2 |x| - 52) (-1074)
  unfold lastBit at hbit ⊢
  omega

/-- What is near enough to a representable number is rounded to it: within half of its last bit, or a quarter where the
    numbers below it have a finer one. -/
theorem nearest_eq_of_close (hq : Representable q) (hne : q ≠ 0) (hhalf : |x - q| < 2 ^ lastBit q / 2)
    (hquarter : |q| = 2 ^ 52 * 2 ^ lastBit q → |x - q| < 2 ^ lastBit q / 4) : nearest x = q := by
  obtain ⟨k, hk, habs, hk0, hlong⟩ := hq.mantissa hne
  have hleast : -1074 ≤ lastBit q := le_max_right _ _
  have hfull := le_abs_of_lastBit hne
  generalize lastBit q = e at hk habs hhalf hquarter hleast hfull
  have hpos : (0 : ℚ) < 2 ^ e := by positivity
  have hdist := abs_sub_abs_le_abs_sub x q
  have hdist' := abs_sub_abs_le_abs_sub q x
  rw [abs_sub_comm q x] at hdist'
  have hbelow : |x| < 2 ^ (53 + e) := by
    have hlong' : ((|k| : ℤ) : ℚ) + 1 ≤ 2 ^ 53 := by exact_mod_cast hlong
    have hwhole := mul_le_mul_of_nonneg_right hlong' hpos.le
    rw [zpow_add₀ (by norm_num)]
    show |x| < 2 ^ 53 * 2 ^ e
    linarith
  have hx : x ≠ 0 := by
    rintro rfl
    have hone : (1 : ℚ) ≤ (|k| : ℤ) := by exact_mod_cast Int.one_le_abs hk0
    have hwhole := mul_le_mul_of_nonneg_right hone hpos.le
    rw [abs_zero] at hdist'
    linarith
  rcases (lastBit_le hx hleast hbelow).eq_or_lt with hbit | hbit
  · rw [hk] at hhalf ⊢
    exact nearest_eq_of_lastBit hbit hhalf
  · -- only a power of two has numbers with finer bits this near
    have hq52 := hfull (by have := le_max_right (Int.log 2 |x| - 52) (-1074); unfold lastBit at hbit; omega)
    have hpower := mantissa_of_finer habs hhalf hq52 hbit
    rw [hpower] at habs
    push_cast at habs
    have hclose := hquarter habs
    have hhalves := zpow_eq_two_mul e
    have hk' : q = (2 * k : ℤ) * 2 ^ (e - 1) := by
      rw [hk, hhalves]
      push_cast
      ring
    rw [hk'] at hclose ⊢
    refine nearest_eq_of_lastBit (lastBit_of_finer hx habs hhalf hbit) ?_
    rw [hhalves] at hclose
    linarith

/-- A number made of smallest bits is off by one part in `2 ^ 53` of its rounding at most. -/
theorem le_nearest_mul (hpos : 0 ≤ q) (hbits : q = k * 2 ^ (-1074 : ℤ)) : q ≤ nearest q * (1 + 1 / 2 ^ 53) := by
  rcases hpos.eq_or_lt with rfl | hpos
  · simp
  rcases eq_or_ne (lastBit q) (-1074) with hbit | hbit
  · have hexact : nearest q = q := nearest_eq_self_of_multiple (by rw [hbit]; exact hbits)
    rw [hexact]
    linarith
  · have hfull := le_abs_of_lastBit hpos.ne' hbit
    rw [abs_of_pos hpos] at hfull
    have hkept : (2 : ℚ) ^ 52 * 2 ^ lastBit q ≤ nearest q := by
      have hmultiple := @le_nearest_of_multiple q (2 ^ 52) (by exact_mod_cast hfull)
      exact_mod_cast hmultiple
    have herror := (abs_le.mp (nearest_error q)).1
    linarith

theorem representable_zero : Representable 0 :=
  ⟨0, 0, by norm_num, by norm_num, by norm_num, by norm_num⟩

/-- A representable number is made of smallest bits. -/
theorem Representable.bits (h : Representable q) : ∃ k : ℤ, q = k * 2 ^ (-1074 : ℤ) := by
  obtain ⟨m, e, rfl, -, he, -⟩ := h
  exact ⟨_, scale_eq he⟩

end Double

/-! ### Numbers -/

/-- A number of the language; there is one zero. -/
inductive Double where
  | nan
  | inf (negative : Bool)
  | finite (value : ℚ) (rep : Double.Representable value)
  deriving DecidableEq

namespace Double

/-- The number nearest to a rational, infinite beyond the range of the exponents. -/
def ofRat (q : ℚ) : Double :=
  if h : |nearest q| < 2 ^ 1024 then .finite (nearest q) (representable_nearest h) else .inf (q < 0)

/-- Beyond the range of the exponents. -/
theorem ofRat_of_large (h : 2 ^ 1024 ≤ q) : ofRat q = .inf false := by
  have hpos : 0 < q := lt_of_lt_of_le (by positivity) h
  have hexponent : (971 : ℤ) < lastBit q := by
    have hbits : (2 : ℚ) ^ (53 + 971 : ℤ) < 2 ^ 53 * 2 ^ lastBit q := by
      calc (2 : ℚ) ^ (53 + 971 : ℤ) = 2 ^ 1024 := by norm_num
        _ ≤ |q| := by rwa [abs_of_pos hpos]
        _ < 2 ^ 53 * 2 ^ lastBit q := abs_lt_lastBit q
    rw [zpow_add₀ (by norm_num)] at hbits
    exact (zpow_lt_zpow_iff_right₀ (by norm_num)).mp (lt_of_mul_lt_mul_left hbits (by positivity))
  have hlast := le_abs_of_lastBit hpos.ne' (by omega)
  have hnearest : (2 : ℚ) ^ 1024 ≤ nearest q := by
    calc (2 : ℚ) ^ 1024 = 2 ^ 52 * 2 ^ (972 : ℤ) := by rw [zpow_ofNat, ← pow_add]
      _ ≤ 2 ^ 52 * 2 ^ lastBit q := by gcongr <;> [norm_num; exact hexponent]
      _ = ((2 ^ 52 : ℤ) : ℚ) * 2 ^ lastBit q := by norm_num
      _ ≤ nearest q := le_nearest_of_multiple (by rw [abs_of_pos hpos] at hlast; exact_mod_cast hlast)
  rw [ofRat, dif_neg, decide_eq_false hpos.le.not_gt]
  exact (hnearest.trans (le_abs_self _)).not_gt

instance : Zero Double :=
  ⟨.finite 0 representable_zero⟩

/-- `Number.isFinite` -/
def isFinite : Double → Bool
  | .finite _ _ => true
  | _ => false

/-- What a finite number is. -/
def value : Double → ℚ
  | .finite q _ => q
  | _ => 0

/-- The number, where `Number.isSafeInteger` and it is not negative. -/
def safeNat? : Double → Option Nat
  | .nan => none
  | .inf _ => none
  | .finite q _ => if q.den = 1 ∧ 0 ≤ q.num ∧ q.num ≤ 9007199254740991 then some q.num.toNat else none

/-- The sum of two numbers. -/
def add : Double → Double → Double
  | .nan, _ => .nan
  | _, .nan => .nan
  | .inf a, .inf b => if a = b then .inf a else .nan
  | .inf a, .finite _ _ => .inf a
  | .finite _ _, .inf b => .inf b
  | .finite p _, .finite q _ => ofRat (p + q)

instance : Add Double :=
  ⟨add⟩

/-- `a < b`; what is no number is neither below nor above anything. -/
def lt : Double → Double → Prop
  | .nan, _ => False
  | _, .nan => False
  | .inf a, .inf b => a = true ∧ b = false
  | .inf a, .finite _ _ => a = true
  | .finite _ _, .inf b => b = false
  | .finite p _, .finite q _ => p < q

/-- `a <= b` -/
def le : Double → Double → Prop
  | .nan, _ => False
  | _, .nan => False
  | .inf a, .inf b => a = true ∨ b = false
  | .inf a, .finite _ _ => a = true
  | .finite _ _, .inf b => b = false
  | .finite p _, .finite q _ => p ≤ q

instance : LT Double :=
  ⟨lt⟩

instance : LE Double :=
  ⟨le⟩

instance : DecidableLT Double
  | .nan, _ => .isFalse id
  | .inf _, .nan => .isFalse id
  | .finite _ _, .nan => .isFalse id
  | .inf a, .inf b => inferInstanceAs (Decidable (a = true ∧ b = false))
  | .inf a, .finite _ _ => inferInstanceAs (Decidable (a = true))
  | .finite _ _, .inf b => inferInstanceAs (Decidable (b = false))
  | .finite p _, .finite q _ => inferInstanceAs (Decidable (p < q))

instance : DecidableLE Double
  | .nan, _ => .isFalse id
  | .inf _, .nan => .isFalse id
  | .finite _ _, .nan => .isFalse id
  | .inf a, .inf b => inferInstanceAs (Decidable (a = true ∨ b = false))
  | .inf a, .finite _ _ => inferInstanceAs (Decidable (a = true))
  | .finite _ _, .inf b => inferInstanceAs (Decidable (b = false))
  | .finite p _, .finite q _ => inferInstanceAs (Decidable (p ≤ q))

variable {p q cap : ℚ} {hp : Representable p} {hq : Representable q} {hcap : Representable cap}

@[simp] theorem finite_lt_finite : Double.finite p hp < .finite q hq ↔ p < q :=
  Iff.rfl

@[simp] theorem finite_le_finite : Double.finite p hp ≤ .finite q hq ↔ p ≤ q :=
  Iff.rfl

/-- A count that a cap is not reached by is below it. -/
theorem lt_of_not_le_ofRat {n : Nat} (h : ¬ Double.finite cap hcap ≤ ofRat n) : (n : ℚ) < cap := by
  by_contra hle
  apply h
  unfold ofRat
  split
  · exact le_nearest hcap (Nat.cast_nonneg n) (not_lt.mp hle)
  · show decide ((n : ℚ) < 0) = false
    exact decide_eq_false (not_lt.mpr (Nat.cast_nonneg n))

/-- A sum that does not pass a cap is finite. -/
theorem add_of_not_lt (hnonneg : 0 ≤ p) (hnonneg' : 0 ≤ q)
    (h : ¬ Double.finite cap hcap < .finite p hp + .finite q hq) :
    ∃ hsum, Double.finite p hp + .finite q hq = .finite (nearest (p + q)) hsum ∧ nearest (p + q) ≤ cap := by
  have hadd : Double.finite p hp + .finite q hq = ofRat (p + q) := rfl
  rw [hadd, ofRat] at h
  rw [hadd, ofRat]
  split at h
  · rename_i hbound
    rw [dif_pos hbound]
    exact ⟨representable_nearest hbound, rfl, not_lt.mp h⟩
  · refine absurd ?_ h
    show decide (p + q < 0) = false
    exact decide_eq_false (not_lt.mpr (add_nonneg hnonneg hnonneg'))

/-! ### Sums of numbers under a cap -/

/-- What a list of finite numbers adds up to, with nothing rounded. -/
def exactSum (costs : List Double) : ℚ :=
  (costs.map value).sum

/-- The sum of some numbers, added one after another, stays within a cap; it has lost at most one part of the cap in
    `2 ^ 53` for each of them. -/
structure SumsWithin (cap : ℚ) (costs : List Double) : Prop where
  sum : ∃ total hrep, costs.foldl (· + ·) 0 = .finite total hrep ∧ 0 ≤ total ∧ total ≤ cap ∧
    exactSum costs ≤ total + cap * (costs.length / 2 ^ 53)

/-- No costs come to nothing. -/
theorem SumsWithin.nil (h : 0 ≤ cap) : SumsWithin cap [] where
  sum := ⟨0, representable_zero, rfl, le_rfl, h, by simp [exactSum]⟩

/-- One more number that the cap has room for. -/
theorem SumsWithin.snoc {costs : List Double} (h : SumsWithin cap costs) (hnonneg : 0 ≤ q)
    (hroom : ¬ Double.finite cap hcap < costs.foldl (· + ·) 0 + .finite q hq) :
    SumsWithin cap (costs ++ [.finite q hq]) := by
  obtain ⟨total, hrep, htotal, hpos, hle, hexact⟩ := h.sum
  rw [htotal] at hroom
  obtain ⟨hsum, hadd, hwithin⟩ := add_of_not_lt hpos hnonneg hroom
  have hlost : total + q ≤ nearest (total + q) * (1 + 1 / 2 ^ 53) := by
    obtain ⟨k, hk⟩ := hrep.bits
    obtain ⟨l, hl⟩ := hq.bits
    refine le_nearest_mul (k := k + l) (add_nonneg hpos hnonneg) ?_
    rw [Int.cast_add, add_mul, ← hk, ← hl]
  refine ⟨nearest (total + q), hsum, ?_, nearest_nonneg (add_nonneg hpos hnonneg), hwithin, ?_⟩
  · rw [List.foldl_append, htotal]
    exact hadd
  · have hsnoc : exactSum (costs ++ [.finite q hq]) = exactSum costs + q := by
      simp [exactSum, value]
    rw [hsnoc, List.length_append, List.length_singleton]
    push_cast
    linarith

end Double
