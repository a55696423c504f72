/-
Module: OwnerSwitch.Lib.JsString
Layer: Lib
Purpose: Strings as sequences of UTF-16 code units, and their UTF-8 transport. A code unit sequence need
  not be well formed: lone surrogates are values like any other, and the encoder replaces them. The
  decoder is the replacing one, a machine that takes one octet at a time and reprocesses the octet that
  breaks a sequence.
Imports: none of the project
Trusted boundary: none
Main exports: JsString, js, Utf8.encode, Utf8.decode, WellFormed, decode_encode, decode_prefix
Open obligations: none
-/
import Mathlib.Data.Bool.AllAny
import Mathlib.Data.List.Basic
import Mathlib.Tactic.SplitIfs

/-- A string: its UTF-16 code units. -/
abbrev JsString := List UInt16

instance : LawfulBEq JsString :=
  inferInstance

/-- A sequence of octets. -/
abbrev Bytes := List UInt8

/-! ### Code points -/

/-- The UTF-16 form of a Unicode scalar value. -/
def utf16 (c : Char) : JsString :=
  if c.toNat < 0x10000 then [UInt16.ofNat c.toNat]
  else [UInt16.ofNat (0xD800 + (c.toNat - 0x10000) / 0x400),
    UInt16.ofNat (0xDC00 + (c.toNat - 0x10000) % 0x400)]

/-- A literal of the model, as code units. -/
def js (s : String) : JsString :=
  s.toList.flatMap utf16

/-- The order of strings: by code units. -/
def JsString.le : JsString → JsString → Bool
  | [], _ => true
  | _ :: _, [] => false
  | u :: us, v :: vs => u < v || (u = v && JsString.le us vs)

/-- `strings.sort()` -/
def sortStrings (ss : List JsString) : List JsString :=
  ss.mergeSort JsString.le

/-- `strings.join(sep)` -/
def joinStrings (sep : JsString) (ss : List JsString) : JsString :=
  (ss.intersperse sep).flatten

def isHighSurrogate (u : UInt16) : Bool :=
  0xD800 ≤ u.toNat && u.toNat < 0xDC00

def isLowSurrogate (u : UInt16) : Bool :=
  0xDC00 ≤ u.toNat && u.toNat < 0xE000

/-- The scalar value a surrogate pair stands for. -/
def pairValue (u v : UInt16) : Nat :=
  0x10000 + (u.toNat - 0xD800) * 0x400 + (v.toNat - 0xDC00)

/-- Every high surrogate is followed by a low one and every low one follows a high one. -/
inductive WellFormed : JsString → Prop where
  | nil : WellFormed []
  | unit {u s} : isHighSurrogate u = false → isLowSurrogate u = false → WellFormed s →
      WellFormed (u :: s)
  | pair {u v s} : isHighSurrogate u = true → isLowSurrogate v = true → WellFormed s →
      WellFormed (u :: v :: s)

namespace WellFormed

/-- Well-formed strings make well-formed strings. -/
theorem append {s t : JsString} (hs : WellFormed s) (ht : WellFormed t) : WellFormed (s ++ t) := by
  induction hs with
  | nil => exact ht
  | unit hu hl _ ih => exact .unit hu hl ih
  | pair hu hv _ ih => exact .pair hu hv ih

/-- ASCII text is well formed. -/
theorem ascii {s : JsString} (h : ∀ u ∈ s, u.toNat < 0x80) : WellFormed s := by
  induction s with
  | nil => exact .nil
  | cons u s ih =>
      have hu := h u (by simp)
      refine .unit ?_ ?_ (ih fun v hv => h v (by simp [hv]))
      · simp [isHighSurrogate]; omega
      · simp [isLowSurrogate]; omega

theorem ascii_all {s : JsString} (h : (s.all fun u => u.toNat < 0x80) = true) : WellFormed s :=
  ascii fun u hu => by simpa using List.all_eq_true.mp h u hu

end WellFormed

namespace Utf8

/-! ### Encoder -/

/-- The UTF-8 form of a code point below `0x110000`. -/
def encodePoint (n : Nat) : Bytes :=
  if n < 0x80 then [UInt8.ofNat n]
  else if n < 0x800 then [UInt8.ofNat (0xC0 + n / 0x40), UInt8.ofNat (0x80 + n % 0x40)]
  else if n < 0x10000 then
    [UInt8.ofNat (0xE0 + n / 0x1000), UInt8.ofNat (0x80 + n / 0x40 % 0x40), UInt8.ofNat (0x80 + n % 0x40)]
  else
    [UInt8.ofNat (0xF0 + n / 0x40000), UInt8.ofNat (0x80 + n / 0x1000 % 0x40),
      UInt8.ofNat (0x80 + n / 0x40 % 0x40), UInt8.ofNat (0x80 + n % 0x40)]

/-- The code unit that stands for what could not be represented. -/
def replacement : UInt16 := 0xFFFD

/-- UTF-8 of a code unit sequence; a lone surrogate is sent as the replacement character. -/
def encode : JsString → Bytes
  | [] => []
  | [u] =>
      if isHighSurrogate u || isLowSurrogate u then encodePoint replacement.toNat
      else encodePoint u.toNat
  | u :: v :: s =>
      if isHighSurrogate u && isLowSurrogate v then encodePoint (pairValue u v) ++ encode s
      else if isHighSurrogate u || isLowSurrogate u then
        encodePoint replacement.toNat ++ encode (v :: s)
      else encodePoint u.toNat ++ encode (v :: s)

/-! ### Decoder -/

/-- Where the decoder stands: the continuation octets still owed, the bounds on the next one and the
    bits read so far. -/
structure State where
  need : Nat
  lo : Nat
  hi : Nat
  acc : Nat
  deriving DecidableEq, Repr

/-- Between characters. -/
def State.start : State :=
  { need := 0, lo := 0x80, hi := 0xBF, acc := 0 }

/-- The first octet of a character. -/
def lead (b : Nat) : JsString × State :=
  if b < 0x80 then ([UInt16.ofNat b], .start)
  else if b < 0xC2 then ([replacement], .start)
  else if b < 0xE0 then ([], { need := 1, lo := 0x80, hi := 0xBF, acc := b - 0xC0 })
  else if b < 0xF0 then
    ([], { need := 2, lo := if b = 0xE0 then 0xA0 else 0x80, hi := if b = 0xED then 0x9F else 0xBF,
           acc := b - 0xE0 })
  else if b < 0xF5 then
    ([], { need := 3, lo := if b = 0xF0 then 0x90 else 0x80, hi := if b = 0xF4 then 0x8F else 0xBF,
           acc := b - 0xF0 })
  else ([replacement], .start)

/-- The code units of a decoded code point. -/
def units (n : Nat) : JsString :=
  if n < 0x10000 then [UInt16.ofNat n]
  else [UInt16.ofNat (0xD800 + (n - 0x10000) / 0x400), UInt16.ofNat (0xDC00 + (n - 0x10000) % 0x400)]

/-- One octet. An octet that cannot continue the character in progress replaces that character and is
    taken again as a first octet. -/
def step (q : State) (b : Nat) : JsString × State :=
  match q.need with
  | 0 => lead b
  | n + 1 =>
      if q.lo ≤ b ∧ b ≤ q.hi then
        let acc := q.acc * 0x40 + (b - 0x80)
        match n with
        | 0 => (units acc, .start)
        | _ + 1 => ([], { need := n, lo := 0x80, hi := 0xBF, acc })
      else (replacement :: (lead b).1, (lead b).2)

/-- The decoder from a state; an unfinished character at the end is replaced. -/
def decodeFrom (q : State) : Bytes → JsString
  | [] => if q.need = 0 then [] else [replacement]
  | b :: bs => (step q b.toNat).1 ++ decodeFrom (step q b.toNat).2 bs

def decode (bs : Bytes) : JsString :=
  decodeFrom .start bs

/-- The state after a sequence of octets. -/
def after (q : State) : Bytes → State
  | [] => q
  | b :: bs => after (step q b.toNat).2 bs

/-- The code units emitted while reading a sequence of octets, the end not yet seen. -/
def emitted (q : State) : Bytes → JsString
  | [] => []
  | b :: bs => (step q b.toNat).1 ++ emitted (step q b.toNat).2 bs

/-- What is decoded of two parts is what the first emits and what is decoded of the second from there. -/
theorem decodeFrom_append (q : State) (xs ys : Bytes) :
    decodeFrom q (xs ++ ys) = emitted q xs ++ decodeFrom (after q xs) ys := by
  induction xs generalizing q with
  | nil => rfl
  | cons x xs ih => simp [decodeFrom, emitted, after, ih]

/-- What is emitted for two parts. -/
theorem emitted_append (q : State) (xs ys : Bytes) :
    emitted q (xs ++ ys) = emitted q xs ++ emitted (after q xs) ys := by
  induction xs generalizing q with
  | nil => rfl
  | cons x xs ih => simp [emitted, after, ih]

/-! ### Round trip -/

theorem toNat_ofNat_lt {n : Nat} (h : n < 256) : (UInt8.ofNat n).toNat = n := by
  simp [UInt8.toNat_ofNat', Nat.mod_eq_of_lt h]

/-- A continuation octet within the bounds, not the last one owed. -/
theorem step_cont {n lo hi acc b : Nat} (hlo : lo ≤ b) (hhi : b ≤ hi) :
    step { need := n + 2, lo, hi, acc } b
      = ([], { need := n + 1, lo := 0x80, hi := 0xBF, acc := acc * 0x40 + (b - 0x80) }) := by
  simp [step, hlo, hhi]

/-- The last continuation octet owed. -/
theorem step_last {lo hi acc b : Nat} (hlo : lo ≤ b) (hhi : b ≤ hi) :
    step { need := 1, lo, hi, acc } b = (units (acc * 0x40 + (b - 0x80)), .start) := by
  simp [step, hlo, hhi]

theorem step_start (b : Nat) : step .start b = lead b :=
  rfl

/-- A scalar value's octets are read back as its code units, leaving the decoder between characters. -/
theorem emitted_encodePoint {n : Nat} (h : n < 0x110000) (hs : n < 0xD800 ∨ 0xE000 ≤ n) :
    emitted .start (encodePoint n) = units n ∧ after .start (encodePoint n) = .start := by
  by_cases h1 : n < 0x80
  · simp [encodePoint, h1, emitted, after, step_start, lead, units, show n < 256 by omega,
      show n < 65536 by omega, Nat.mod_eq_of_lt]
  by_cases h2 : n < 0x800
  · have hlead : lead (0xC0 + n / 0x40) = ([], { need := 1, lo := 0x80, hi := 0xBF, acc := n / 0x40 }) := by
      rw [lead, if_neg (by omega), if_neg (by omega), if_pos (by omega), Nat.add_sub_cancel_left]
    have hval : n / 0x40 * 0x40 + (0x80 + n % 0x40 - 0x80) = n := by omega
    simp only [encodePoint, h1, h2, if_true, if_false, emitted, after, step_start,
      toNat_ofNat_lt (show 0xC0 + n / 0x40 < 256 by omega),
      toNat_ofNat_lt (show 0x80 + n % 0x40 < 256 by omega), hlead]
    rw [step_last (by omega) (by omega), hval]
    simp
  by_cases h3 : n < 0x10000
  · have hlead : ∃ lo hi, lead (0xE0 + n / 0x1000) = ([], { need := 2, lo, hi, acc := n / 0x1000 })
        ∧ lo ≤ 0x80 + n / 0x40 % 0x40 ∧ 0x80 + n / 0x40 % 0x40 ≤ hi := by
      rw [lead, if_neg (by omega), if_neg (by omega), if_neg (by omega), if_pos (by omega),
        Nat.add_sub_cancel_left]
      refine ⟨_, _, rfl, ?_, ?_⟩ <;> split <;> omega
    obtain ⟨lo, hi, hlead, hlo, hhi⟩ := hlead
    have hval : (n / 0x1000 * 0x40 + (0x80 + n / 0x40 % 0x40 - 0x80)) * 0x40
        + (0x80 + n % 0x40 - 0x80) = n := by omega
    simp only [encodePoint, h1, h2, h3, if_true, if_false, emitted, after, step_start,
      toNat_ofNat_lt (show 0xE0 + n / 0x1000 < 256 by omega),
      toNat_ofNat_lt (show 0x80 + n / 0x40 % 0x40 < 256 by omega),
      toNat_ofNat_lt (show 0x80 + n % 0x40 < 256 by omega), hlead]
    rw [step_cont hlo hhi, step_last (by omega) (by omega), hval]
    simp
  · have hlead : ∃ lo hi, lead (0xF0 + n / 0x40000) = ([], { need := 3, lo, hi, acc := n / 0x40000 })
        ∧ lo ≤ 0x80 + n / 0x1000 % 0x40 ∧ 0x80 + n / 0x1000 % 0x40 ≤ hi := by
      rw [lead, if_neg (by omega), if_neg (by omega), if_neg (by omega), if_neg (by omega),
        if_pos (by omega), Nat.add_sub_cancel_left]
      refine ⟨_, _, rfl, ?_, ?_⟩ <;> split <;> omega
    obtain ⟨lo, hi, hlead, hlo, hhi⟩ := hlead
    have hval : ((n / 0x40000 * 0x40 + (0x80 + n / 0x1000 % 0x40 - 0x80)) * 0x40
        + (0x80 + n / 0x40 % 0x40 - 0x80)) * 0x40 + (0x80 + n % 0x40 - 0x80) = n := by omega
    simp only [encodePoint, h1, h2, h3, if_false, emitted, after, step_start,
      toNat_ofNat_lt (show 0xF0 + n / 0x40000 < 256 by omega),
      toNat_ofNat_lt (show 0x80 + n / 0x1000 % 0x40 < 256 by omega),
      toNat_ofNat_lt (show 0x80 + n / 0x40 % 0x40 < 256 by omega),
      toNat_ofNat_lt (show 0x80 + n % 0x40 < 256 by omega), hlead]
    rw [step_cont hlo hhi, step_cont (by omega) (by omega), step_last (by omega) (by omega), hval]
    simp

theorem units_unit {u : UInt16} : units u.toNat = [u] := by
  have hu := u.toNat_lt
  rw [units, if_pos (by omega)]
  simp

/-- A surrogate pair stands for a character beyond the first plane. -/
theorem pairValue_bounds {u v : UInt16} (hu : isHighSurrogate u = true) (hv : isLowSurrogate v = true) :
    0x10000 ≤ pairValue u v ∧ pairValue u v < 0x110000 := by
  simp only [isHighSurrogate, isLowSurrogate, Bool.and_eq_true, decide_eq_true_eq] at hu hv
  unfold pairValue
  omega

/-- The units of such a character are its pair. -/
theorem units_pair {u v : UInt16} (hu : isHighSurrogate u = true) (hv : isLowSurrogate v = true) :
    units (pairValue u v) = [u, v] := by
  have hb := pairValue_bounds hu hv
  simp only [isHighSurrogate, isLowSurrogate, Bool.and_eq_true, decide_eq_true_eq] at hu hv
  have hhi : 0xD800 + (pairValue u v - 0x10000) / 0x400 = u.toNat := by
    unfold pairValue; omega
  have hlo : 0xDC00 + (pairValue u v - 0x10000) % 0x400 = v.toNat := by
    unfold pairValue; omega
  rw [units, if_neg (by omega), hhi, hlo, UInt16.ofNat_toNat, UInt16.ofNat_toNat]

theorem encode_pair {u v : UInt16} {s : JsString} (hu : isHighSurrogate u = true)
    (hv : isLowSurrogate v = true) : encode (u :: v :: s) = encodePoint (pairValue u v) ++ encode s := by
  simp [encode, hu, hv]

theorem encode_unit {u : UInt16} {s : JsString} (hu : isHighSurrogate u = false)
    (hl : isLowSurrogate u = false) : encode (u :: s) = encodePoint u.toNat ++ encode s := by
  cases s <;> simp [encode, hu, hl]

/-- After a well-formed string the octets of the next start anew. -/
theorem encode_append {s : JsString} (hs : WellFormed s) (t : JsString) : encode (s ++ t) = encode s ++ encode t := by
  induction hs with
  | nil => rfl
  | unit hu hl _ ih => rw [List.cons_append, encode_unit hu hl, encode_unit hu hl, ih, List.append_assoc]
  | pair hu hv _ ih =>
      rw [List.cons_append, List.cons_append, encode_pair hu hv, encode_pair hu hv, ih, List.append_assoc]

/-- The state after two parts. -/
theorem after_append (q : State) (xs ys : Bytes) : after q (xs ++ ys) = after (after q xs) ys := by
  induction xs generalizing q with
  | nil => rfl
  | cons x xs ih => simp [after, ih]

/-- Reading the octets of a well formed string gives it back and owes nothing. -/
theorem emitted_encode {s : JsString} (h : WellFormed s) :
    emitted .start (encode s) = s ∧ after .start (encode s) = .start := by
  induction h with
  | nil => exact ⟨rfl, rfl⟩
  | @unit u s hu hl _ ih =>
      have hscalar : u.toNat < 0xD800 ∨ 0xE000 ≤ u.toNat := by
        simp only [isHighSurrogate, isLowSurrogate, Bool.and_eq_false_iff, decide_eq_false_iff_not] at hu hl
        omega
      have hlt := u.toNat_lt
      obtain ⟨he, ha⟩ := emitted_encodePoint (n := u.toNat) (by omega) hscalar
      rw [encode_unit hu hl, emitted_append, after_append, he, ha, ih.1, ih.2, units_unit]
      exact ⟨rfl, rfl⟩
  | @pair u v s hu hv _ ih =>
      have hb := pairValue_bounds hu hv
      obtain ⟨he, ha⟩ := emitted_encodePoint hb.2 (.inr (by omega))
      rw [encode_pair hu hv, emitted_append, after_append, he, ha, ih.1, ih.2, units_pair hu hv]
      exact ⟨rfl, rfl⟩

/-- UTF-8 transport is the identity on well formed strings. -/
theorem decode_encode {s : JsString} (h : WellFormed s) : decode (encode s) = s := by
  have hsplit := decodeFrom_append .start (encode s) []
  rw [List.append_nil] at hsplit
  rw [decode, hsplit, (emitted_encode h).1, (emitted_encode h).2]
  simp [decodeFrom, State.start]

/-- An octet after which nothing is owed has completed something. -/
theorem step_ne_nil {q : State} {b : Nat} (h : (step q b).2.need = 0) : (step q b).1 ≠ [] := by
  have hlead : ∀ c, (lead c).2.need = 0 → (lead c).1 ≠ [] := by
    intro c hc
    unfold lead at hc ⊢
    split_ifs at hc ⊢ <;> simp_all
  rcases hq : q.need with _ | n
  · simp only [step, hq] at h ⊢
    exact hlead b h
  · simp only [step, hq] at h ⊢
    split at h
    · cases n with
      | zero =>
          rename_i hb
          simp only [hb, and_self, if_true, units]
          split <;> simp
      | succ n => simp at h
    · rename_i hb
      simp [hb]

/-- Octets that end no character in its midst emit something. -/
theorem emitted_ne_nil {q : State} {xs : Bytes} (hx : xs ≠ []) (h : (after q xs).need = 0) :
    emitted q xs ≠ [] := by
  induction xs generalizing q with
  | nil => exact absurd rfl hx
  | cons x xs ih =>
      intro hnil
      obtain ⟨hstep, hrest⟩ := List.append_eq_nil_iff.mp hnil
      cases xs with
      | nil => exact step_ne_nil h hstep
      | cons y ys => exact ih (by simp) h hrest

/-- Octets cut off at the end: what is decoded is a proper prefix of the string, with at most one
    replacement character after it. -/
theorem decode_prefix {s : JsString} (h : WellFormed s) {p r : Bytes} (hp : encode s = p ++ r)
    (hr : r ≠ []) : ∃ q t, s = q ++ t ∧ t ≠ [] ∧ (decode p = q ∨ decode p = q ++ [replacement]) := by
  obtain ⟨he, ha⟩ := emitted_encode h
  rw [hp, emitted_append] at he
  rw [hp, after_append] at ha
  refine ⟨emitted .start p, _, he.symm, emitted_ne_nil hr (by rw [ha]; rfl), ?_⟩
  have hsplit := decodeFrom_append .start p []
  rw [List.append_nil] at hsplit
  rw [decode, hsplit]
  by_cases hneed : (after .start p).need = 0
  · left; simp [decodeFrom, hneed]
  · right; simp [decodeFrom, hneed]

theorem length_encodePoint_pos (n : Nat) : 0 < (encodePoint n).length := by
  unfold encodePoint
  split
  · simp
  · split
    · simp
    · split <;> simp

/-- A text takes at least as many octets as it has units. -/
theorem length_le_encode (s : JsString) : s.length ≤ (encode s).length := by
  induction s using encode.induct with
  | case1 => simp
  | case2 u h =>
      rw [encode, if_pos h]
      exact length_encodePoint_pos _
  | case3 u h =>
      rw [encode, if_neg h]
      exact length_encodePoint_pos _
  | case4 u v s h ih =>
      have hb := pairValue_bounds ((Bool.and_eq_true _ _).mp h).1 ((Bool.and_eq_true _ _).mp h).2
      have hlen : (encodePoint (pairValue u v)).length = 4 := by
        rw [encodePoint, if_neg (by omega), if_neg (by omega), if_neg (by omega)]
        rfl
      rw [encode, if_pos h, List.length_append, List.length_cons, List.length_cons]
      omega
  | case5 u v s h h' ih =>
      have hpos := length_encodePoint_pos replacement.toNat
      rw [encode, if_neg h, if_pos h', List.length_append, List.length_cons]
      omega
  | case6 u v s h h' ih =>
      have hpos := length_encodePoint_pos u.toNat
      rw [encode, if_neg h, if_neg h', List.length_append, List.length_cons]
      omega

end Utf8
