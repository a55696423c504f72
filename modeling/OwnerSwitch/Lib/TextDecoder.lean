/-
Module: OwnerSwitch.Lib.TextDecoder
Layer: Lib
Purpose: The text decoder for UTF-8 that fails on what is not UTF-8, and drops one byte order mark at the start.
Imports: Lib.JsString
Trusted boundary: none
Main exports: Utf8.decodeFatal, dropMark, textDecode, decodeFatal_iff, textDecode_iff
Open obligations: none
-/
import OwnerSwitch.Lib.JsString

namespace Utf8

/-- The octet can continue or begin a character here. -/
def accepts (q : State) (b : Nat) : Bool :=
  match q.need with
  | 0 => b < 0x80 || (0xC2 ≤ b && b < 0xF5)
  | _ + 1 => q.lo ≤ b && b ≤ q.hi

/-- The decoder from a state; it fails where the other one replaces. -/
def decodeFatalFrom (q : State) : Bytes → Option JsString
  | [] => if q.need = 0 then some [] else none
  | b :: bs =>
      if accepts q b.toNat then (decodeFatalFrom (step q b.toNat).2 bs).map ((step q b.toNat).1 ++ ·) else none

def decodeFatal (bs : Bytes) : Option JsString :=
  decodeFatalFrom .start bs

/-! ### Characters -/

/-- A scalar value: a code point that is not a surrogate. -/
def Scalar (n : Nat) : Prop :=
  n < 0x110000 ∧ (n < 0xD800 ∨ 0xE000 ≤ n)

/-- A scalar value is one unit outside the surrogates, or a pair of surrogates. -/
theorem units_cases {n : Nat} (h : Scalar n) :
    (∃ u, units n = [u] ∧ isHighSurrogate u = false ∧ isLowSurrogate u = false ∧ u.toNat = n) ∨
      ∃ u v, units n = [u, v] ∧ isHighSurrogate u = true ∧ isLowSurrogate v = true ∧ pairValue u v = n := by
  obtain ⟨hbound, hscalar⟩ := h
  by_cases hsmall : n < 0x10000
  · have hn : (UInt16.ofNat n).toNat = n := UInt16.toNat_ofNat_of_lt hsmall
    refine .inl ⟨UInt16.ofNat n, by rw [units, if_pos hsmall], ?_, ?_, hn⟩
    · simp only [isHighSurrogate, hn, Bool.and_eq_false_iff, decide_eq_false_iff_not]
      omega
    · simp only [isLowSurrogate, hn, Bool.and_eq_false_iff, decide_eq_false_iff_not]
      omega
  · have hhi : (UInt16.ofNat (0xD800 + (n - 0x10000) / 0x400)).toNat = 0xD800 + (n - 0x10000) / 0x400 :=
      UInt16.toNat_ofNat_of_lt (show _ < 0x10000 by omega)
    have hlo : (UInt16.ofNat (0xDC00 + (n - 0x10000) % 0x400)).toNat = 0xDC00 + (n - 0x10000) % 0x400 :=
      UInt16.toNat_ofNat_of_lt (show _ < 0x10000 by omega)
    have hunits :
      units n = [UInt16.ofNat (0xD800 + (n - 0x10000) / 0x400), UInt16.ofNat (0xDC00 + (n - 0x10000) % 0x400)] := by
      rw [units, if_neg hsmall]
    generalize UInt16.ofNat (0xD800 + (n - 0x10000) / 0x400) = u at hhi hunits
    generalize UInt16.ofNat (0xDC00 + (n - 0x10000) % 0x400) = v at hlo hunits
    refine .inr ⟨u, v, hunits, ?_, ?_, ?_⟩
    · simp only [isHighSurrogate, hhi, Bool.and_eq_true, decide_eq_true_eq]
      omega
    · simp only [isLowSurrogate, hlo, Bool.and_eq_true, decide_eq_true_eq]
      omega
    · unfold pairValue
      omega

theorem wellFormed_units {n : Nat} (h : Scalar n) {s : JsString} (hs : WellFormed s) : WellFormed (units n ++ s) := by
  rcases units_cases h with ⟨u, hu, hhigh, hlow, -⟩ | ⟨u, v, huv, hhigh, hlow, -⟩
  · rw [hu]
    exact .unit hhigh hlow hs
  · rw [huv]
    exact .pair hhigh hlow hs

theorem encode_units {n : Nat} (h : Scalar n) (s : JsString) : encode (units n ++ s) = encodePoint n ++ encode s := by
  rcases units_cases h with ⟨u, hu, hhigh, hlow, hn⟩ | ⟨u, v, huv, hhigh, hlow, hn⟩
  · rw [hu, List.singleton_append, encode_unit hhigh hlow, hn]
  · rw [huv, List.cons_append, List.singleton_append, encode_pair hhigh hlow, hn]

/-- A well formed text is empty or begins with a scalar value. -/
theorem wellFormed_cases {s : JsString} (h : WellFormed s) :
    s = [] ∨ ∃ n t, Scalar n ∧ s = units n ++ t ∧ WellFormed t := by
  cases h with
  | nil => exact .inl rfl
  | @unit u t hhigh hlow ht =>
      refine .inr ⟨u.toNat, t, ⟨?_, ?_⟩, by rw [units_unit]; rfl, ht⟩
      · have hlt := u.toNat_lt
        omega
      · simp only [isHighSurrogate, isLowSurrogate, Bool.and_eq_false_iff, decide_eq_false_iff_not] at hhigh hlow
        omega
  | @pair u v t hhigh hlow ht =>
      have hbounds := pairValue_bounds hhigh hlow
      exact .inr ⟨pairValue u v, t, ⟨hbounds.2, .inr (by omega)⟩, by rw [units_pair hhigh hlow]; rfl, ht⟩

/-! ### What is accepted -/

theorem decodeFatalFrom_cons {q : State} {b : UInt8} {bs : Bytes} (h : accepts q b.toNat = true) :
    decodeFatalFrom q (b :: bs) = (decodeFatalFrom (step q b.toNat).2 bs).map ((step q b.toNat).1 ++ ·) := by
  rw [decodeFatalFrom, if_pos h]

/-- A continuation octet within the bounds, not the last one owed. -/
theorem decodeFatalFrom_cont {n lo hi acc : Nat} {b : UInt8} {bs : Bytes} (hlo : lo ≤ b.toNat) (hhi : b.toNat ≤ hi) :
    decodeFatalFrom { need := n + 2, lo, hi, acc } (b :: bs)
      = decodeFatalFrom { need := n + 1, lo := 0x80, hi := 0xBF, acc := acc * 0x40 + (b.toNat - 0x80) } bs := by
  have hstep : step { need := n + 2, lo, hi, acc } b.toNat = ([], _) := step_cont hlo hhi
  rw [decodeFatalFrom_cons (by simp [accepts, hlo, hhi]), hstep]
  simp

/-- The last continuation octet owed. -/
theorem decodeFatalFrom_last {lo hi acc : Nat} {b : UInt8} {bs : Bytes} (hlo : lo ≤ b.toNat) (hhi : b.toNat ≤ hi) :
    decodeFatalFrom { need := 1, lo, hi, acc } (b :: bs)
      = (decodeFatalFrom .start bs).map (units (acc * 0x40 + (b.toNat - 0x80)) ++ ·) := by
  have hstep : step { need := 1, lo, hi, acc } b.toNat = _ := step_last hlo hhi
  rw [decodeFatalFrom_cons (by simp [accepts, hlo, hhi]), hstep]

/-- Anything else fails, the end included. -/
theorem decodeFatalFrom_some {n lo hi acc : Nat} {bs : Bytes} {s : JsString}
    (h : decodeFatalFrom { need := n + 1, lo, hi, acc } bs = some s) :
    ∃ b rest, bs = b :: rest ∧ lo ≤ b.toNat ∧ b.toNat ≤ hi := by
  cases bs with
  | nil => simp [decodeFatalFrom] at h
  | cons b rest =>
      rw [decodeFatalFrom] at h
      split at h
      · rename_i haccepts
        simp only [accepts, Bool.and_eq_true, decide_eq_true_eq] at haccepts
        exact ⟨b, rest, rfl, haccepts.1, haccepts.2⟩
      · cases h

/-- The first octet of a character, where it is accepted. -/
theorem decodeFatalFrom_lead {b : UInt8} {bs : Bytes} {s : JsString} (h : decodeFatalFrom .start (b :: bs) = some s) :
    b.toNat < 0x80 ∨ 0xC2 ≤ b.toNat ∧ b.toNat < 0xF5 := by
  rw [decodeFatalFrom] at h
  split at h
  · rename_i haccepts
    simpa [accepts, State.start] using haccepts
  · cases h

theorem decodeFatalFrom_ascii {b : UInt8} {bs : Bytes} (h : b.toNat < 0x80) :
    decodeFatalFrom .start (b :: bs) = (decodeFatalFrom .start bs).map (units b.toNat ++ ·) := by
  have hstep : step .start b.toNat = (units b.toNat, .start) := by
    rw [step_start, lead, if_pos h, units, if_pos (by omega)]
  rw [decodeFatalFrom_cons (by simp [accepts, State.start, h]), hstep]

theorem decodeFatalFrom_owing {b : UInt8} {bs : Bytes} {q : State} (hlo : 0xC2 ≤ b.toNat) (hhi : b.toNat < 0xF5)
    (hlead : lead b.toNat = ([], q)) : decodeFatalFrom .start (b :: bs) = decodeFatalFrom q bs := by
  rw [decodeFatalFrom_cons (by simp [accepts, State.start, hlo, hhi]), step_start, hlead]
  simp

/-- The octets of a scalar value are read as its units. -/
theorem decodeFatalFrom_encodePoint {n : Nat} (h : Scalar n) (bs : Bytes) :
    decodeFatalFrom .start (encodePoint n ++ bs) = (decodeFatalFrom .start bs).map (units n ++ ·) := by
  obtain ⟨hbound, hscalar⟩ := h
  by_cases h1 : n < 0x80
  · have hb : (UInt8.ofNat n).toNat = n := toNat_ofNat_lt (by omega)
    rw [encodePoint, if_pos h1, List.singleton_append, decodeFatalFrom_ascii (by rw [hb]; exact h1), hb]
  by_cases h2 : n < 0x800
  · have hb : (UInt8.ofNat (0xC0 + n / 0x40)).toNat = 0xC0 + n / 0x40 := toNat_ofNat_lt (by omega)
    have hc : (UInt8.ofNat (0x80 + n % 0x40)).toNat = 0x80 + n % 0x40 := toNat_ofNat_lt (by omega)
    have hlead : lead (0xC0 + n / 0x40) = ([], { need := 1, lo := 0x80, hi := 0xBF, acc := n / 0x40 }) := by
      rw [lead, if_neg (by omega), if_neg (by omega), if_pos (by omega), Nat.add_sub_cancel_left]
    have hval : n / 0x40 * 0x40 + (0x80 + n % 0x40 - 0x80) = n := by omega
    rw [encodePoint, if_neg h1, if_pos h2, List.cons_append, List.singleton_append,
      decodeFatalFrom_owing (by omega) (by omega) (by rw [hb]; exact hlead),
      decodeFatalFrom_last (by omega) (by omega), hc, hval]
  by_cases h3 : n < 0x10000
  · have hb : (UInt8.ofNat (0xE0 + n / 0x1000)).toNat = 0xE0 + n / 0x1000 := toNat_ofNat_lt (by omega)
    have hc : (UInt8.ofNat (0x80 + n / 0x40 % 0x40)).toNat = 0x80 + n / 0x40 % 0x40 := toNat_ofNat_lt (by omega)
    have hd : (UInt8.ofNat (0x80 + n % 0x40)).toNat = 0x80 + n % 0x40 := toNat_ofNat_lt (by omega)
    obtain ⟨lo, hi, hlead, hlo, hhi⟩ : ∃ lo hi, lead (0xE0 + n / 0x1000)
        = ([], { need := 2, lo, hi, acc := n / 0x1000 }) ∧ lo ≤ 0x80 + n / 0x40 % 0x40
          ∧ 0x80 + n / 0x40 % 0x40 ≤ hi := by
      rw [lead, if_neg (by omega), if_neg (by omega), if_neg (by omega), if_pos (by omega),
        Nat.add_sub_cancel_left]
      refine ⟨_, _, rfl, ?_, ?_⟩ <;> split <;> omega
    have hval : (n / 0x1000 * 0x40 + (0x80 + n / 0x40 % 0x40 - 0x80)) * 0x40
        + (0x80 + n % 0x40 - 0x80) = n := by omega
    rw [encodePoint, if_neg h1, if_neg h2, if_pos h3, List.cons_append, List.cons_append, List.singleton_append,
      decodeFatalFrom_owing (by omega) (by omega) (by rw [hb]; exact hlead),
      decodeFatalFrom_cont (by omega) (by omega), decodeFatalFrom_last (by omega) (by omega), hc, hd, hval]
  · have hb : (UInt8.ofNat (0xF0 + n / 0x40000)).toNat = 0xF0 + n / 0x40000 := toNat_ofNat_lt (by omega)
    have hc : (UInt8.ofNat (0x80 + n / 0x1000 % 0x40)).toNat = 0x80 + n / 0x1000 % 0x40 := toNat_ofNat_lt (by omega)
    have hd : (UInt8.ofNat (0x80 + n / 0x40 % 0x40)).toNat = 0x80 + n / 0x40 % 0x40 := toNat_ofNat_lt (by omega)
    have he : (UInt8.ofNat (0x80 + n % 0x40)).toNat = 0x80 + n % 0x40 := toNat_ofNat_lt (by omega)
    obtain ⟨lo, hi, hlead, hlo, hhi⟩ : ∃ lo hi, lead (0xF0 + n / 0x40000)
        = ([], { need := 3, lo, hi, acc := n / 0x40000 }) ∧ lo ≤ 0x80 + n / 0x1000 % 0x40
          ∧ 0x80 + n / 0x1000 % 0x40 ≤ hi := by
      rw [lead, if_neg (by omega), if_neg (by omega), if_neg (by omega), if_neg (by omega),
        if_pos (by omega), Nat.add_sub_cancel_left]
      refine ⟨_, _, rfl, ?_, ?_⟩ <;> split <;> omega
    have hval : ((n / 0x40000 * 0x40 + (0x80 + n / 0x1000 % 0x40 - 0x80)) * 0x40
        + (0x80 + n / 0x40 % 0x40 - 0x80)) * 0x40 + (0x80 + n % 0x40 - 0x80) = n := by omega
    rw [encodePoint, if_neg h1, if_neg h2, if_neg h3, List.cons_append, List.cons_append, List.cons_append,
      List.singleton_append, decodeFatalFrom_owing (by omega) (by omega) (by rw [hb]; exact hlead),
      decodeFatalFrom_cont (by omega) (by omega), decodeFatalFrom_cont (by omega) (by omega),
      decodeFatalFrom_last (by omega) (by omega), hc, hd, he, hval]

/-- What is read begins with the octets of a scalar value. -/
theorem decodeFatalFrom_inv {b : UInt8} {bs : Bytes} {s : JsString} (h : decodeFatalFrom .start (b :: bs) = some s) :
    ∃ n rest, Scalar n ∧ b :: bs = encodePoint n ++ rest := by
  have hself : ∀ {m : Nat} {c : UInt8}, m = c.toNat → UInt8.ofNat m = c := fun hm => by
    rw [hm, UInt8.ofNat_toNat]
  rcases decodeFatalFrom_lead h with hascii | ⟨hge, hlt⟩
  · refine ⟨b.toNat, bs, ⟨by omega, .inl (by omega)⟩, ?_⟩
    rw [encodePoint, if_pos hascii, hself rfl, List.singleton_append]
  by_cases h2 : b.toNat < 0xE0
  · have hlead : lead b.toNat = ([], { need := 1, lo := 0x80, hi := 0xBF, acc := b.toNat - 0xC0 }) := by
      rw [lead, if_neg (by omega), if_neg (by omega), if_pos h2]
    rw [decodeFatalFrom_owing hge hlt hlead] at h
    obtain ⟨c, rest, rfl, hclo, hchi⟩ := decodeFatalFrom_some h
    refine ⟨(b.toNat - 0xC0) * 0x40 + (c.toNat - 0x80), rest, ⟨by omega, by omega⟩, ?_⟩
    rw [encodePoint, if_neg (by omega), if_pos (by omega), hself (c := b) (by omega), hself (c := c) (by omega)]
    rfl
  by_cases h3 : b.toNat < 0xF0
  · have hlead : lead b.toNat = ([], .mk 2 (if b.toNat = 0xE0 then 0xA0 else 0x80)
        (if b.toNat = 0xED then 0x9F else 0xBF) (b.toNat - 0xE0)) := by
      rw [lead, if_neg (by omega), if_neg (by omega), if_neg (by omega), if_pos h3]
    rw [decodeFatalFrom_owing hge hlt hlead] at h
    obtain ⟨c, rest, rfl, hclo, hchi⟩ := decodeFatalFrom_some h
    rw [decodeFatalFrom_cont hclo hchi] at h
    obtain ⟨d, rest, rfl, hdlo, hdhi⟩ := decodeFatalFrom_some h
    refine ⟨((b.toNat - 0xE0) * 0x40 + (c.toNat - 0x80)) * 0x40 + (d.toNat - 0x80), rest, ⟨?_, ?_⟩, ?_⟩
    · split at hchi <;> omega
    · split at hclo <;> split at hchi <;> omega
    · have hc : 0x80 ≤ c.toNat ∧ c.toNat ≤ 0xBF := by
        split at hclo <;> split at hchi <;> omega
      have hmin : 0x800 ≤ ((b.toNat - 0xE0) * 0x40 + (c.toNat - 0x80)) * 0x40 + (d.toNat - 0x80) := by
        split at hclo <;> omega
      rw [encodePoint, if_neg (by omega), if_neg (by omega), if_pos (by omega), hself (c := b) (by omega),
        hself (c := c) (by omega), hself (c := d) (by omega)]
      rfl
  · have hlead : lead b.toNat = ([], .mk 3 (if b.toNat = 0xF0 then 0x90 else 0x80)
        (if b.toNat = 0xF4 then 0x8F else 0xBF) (b.toNat - 0xF0)) := by
      rw [lead, if_neg (by omega), if_neg (by omega), if_neg (by omega), if_neg (by omega), if_pos hlt]
    rw [decodeFatalFrom_owing hge hlt hlead] at h
    obtain ⟨c, rest, rfl, hclo, hchi⟩ := decodeFatalFrom_some h
    rw [decodeFatalFrom_cont hclo hchi] at h
    obtain ⟨d, rest, rfl, hdlo, hdhi⟩ := decodeFatalFrom_some h
    rw [decodeFatalFrom_cont hdlo hdhi] at h
    obtain ⟨e, rest, rfl, helo, hehi⟩ := decodeFatalFrom_some h
    have hc : 0x80 ≤ c.toNat ∧ c.toNat ≤ 0xBF := by
      split at hclo <;> split at hchi <;> omega
    have hmin : 0x10000 ≤ (((b.toNat - 0xF0) * 0x40 + (c.toNat - 0x80)) * 0x40 + (d.toNat - 0x80)) * 0x40
        + (e.toNat - 0x80) := by
      split at hclo <;> omega
    have hmax : (((b.toNat - 0xF0) * 0x40 + (c.toNat - 0x80)) * 0x40 + (d.toNat - 0x80)) * 0x40
        + (e.toNat - 0x80) < 0x110000 := by
      split at hchi <;> omega
    refine ⟨_, rest, ⟨hmax, .inr (by omega)⟩, ?_⟩
    rw [encodePoint, if_neg (by omega), if_neg (by omega), if_neg (by omega), hself (c := b) (by omega),
      hself (c := c) (by omega), hself (c := d) (by omega), hself (c := e) (by omega)]
    rfl

theorem decodeFatal_encode {s : JsString} (h : WellFormed s) : decodeFatal (encode s) = some s := by
  induction hlen : s.length using Nat.strongRecOn generalizing s with
  | ind len ih =>
      rcases wellFormed_cases h with rfl | ⟨n, t, hn, rfl, ht⟩
      · rfl
      · have hshort : t.length < len := by
          rw [← hlen, List.length_append]
          have hpos : 0 < (units n).length := by
            unfold units
            split <;> simp
          omega
        rw [decodeFatal, encode_units hn, decodeFatalFrom_encodePoint hn]
        have hrest := ih t.length hshort ht rfl
        rw [decodeFatal] at hrest
        rw [hrest, Option.map_some]

/-- What is accepted is exactly the UTF-8 of a well formed text, and is read as that text. -/
theorem decodeFatal_iff {bs : Bytes} {s : JsString} : decodeFatal bs = some s ↔ WellFormed s ∧ bs = encode s := by
  constructor
  · intro h
    induction hlen : bs.length using Nat.strongRecOn generalizing bs s with
    | ind len ih =>
        cases bs with
        | nil =>
            obtain rfl : [] = s := Option.some.inj h
            exact ⟨.nil, rfl⟩
        | cons b bs =>
            obtain ⟨n, rest, hn, hsplit⟩ := decodeFatalFrom_inv h
            have hpos := length_encodePoint_pos n
            have hlength := congrArg List.length hsplit
            rw [List.length_append] at hlength
            rw [decodeFatal, hsplit, decodeFatalFrom_encodePoint hn] at h
            obtain ⟨t, ht, rfl⟩ := Option.map_eq_some_iff.mp h
            obtain ⟨hwell, rfl⟩ := ih rest.length (by omega) ht rfl
            exact ⟨wellFormed_units hn hwell, by rw [hsplit, encode_units hn]⟩
  · rintro ⟨hwell, rfl⟩
    exact decodeFatal_encode hwell

end Utf8

/-! ### The byte order mark -/

/-- U+FEFF -/
def byteOrderMark : UInt16 := 0xFEFF

/-- The text without a byte order mark at its start. -/
def dropMark : JsString → JsString
  | [] => []
  | u :: s => if u = byteOrderMark then s else u :: s

/-- `new TextDecoder("utf-8", { fatal: true }).decode(raw)` -/
def textDecode (raw : Bytes) : Option JsString :=
  (Utf8.decodeFatal raw).map dropMark

theorem textDecode_encode {s : JsString} (h : WellFormed s) : textDecode (Utf8.encode s) = some (dropMark s) := by
  rw [textDecode, Utf8.decodeFatal_encode h, Option.map_some]

theorem textDecode_iff {raw : Bytes} {s : JsString} :
    textDecode raw = some s ↔ ∃ t, WellFormed t ∧ raw = Utf8.encode t ∧ s = dropMark t := by
  constructor
  · intro h
    obtain ⟨t, ht, rfl⟩ := Option.map_eq_some_iff.mp h
    obtain ⟨hwell, hraw⟩ := Utf8.decodeFatal_iff.mp ht
    exact ⟨t, hwell, hraw, rfl⟩
  · rintro ⟨t, hwell, rfl, rfl⟩
    exact textDecode_encode hwell
