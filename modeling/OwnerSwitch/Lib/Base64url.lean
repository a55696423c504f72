/-
Module: OwnerSwitch.Lib.Base64url
Layer: Lib
Purpose: The URL-safe base64 form of octets without padding, and the decoder that accepts only the
  canonical form.
Imports: Lib.JsString
Trusted boundary: none
Main exports: Base64url.encode, Base64url.decode, decode_encode, encode_injective
Open obligations: none
-/
import OwnerSwitch.Lib.JsString

namespace OwnerSwitch

namespace Base64url

/-- The character of a value below 64. -/
def digit (n : Nat) : UInt16 :=
  if n < 26 then UInt16.ofNat (0x41 + n)
  else if n < 52 then UInt16.ofNat (0x61 + (n - 26))
  else if n < 62 then UInt16.ofNat (0x30 + (n - 52))
  else if n = 62 then 0x2D
  else 0x5F

/-- The value of a character of the alphabet. -/
def value (u : UInt16) : Option Nat :=
  if 0x41 ≤ u ∧ u ≤ 0x5A then some (u.toNat - 0x41)
  else if 0x61 ≤ u ∧ u ≤ 0x7A then some (u.toNat - 0x61 + 26)
  else if 0x30 ≤ u ∧ u ≤ 0x39 then some (u.toNat - 0x30 + 52)
  else if u = 0x2D then some 62
  else if u = 0x5F then some 63
  else none

/-- `buffer.toString("base64url")` -/
def encode : Bytes → JsString
  | [] => []
  | [a] => [digit (a.toNat / 4), digit (a.toNat % 4 * 16)]
  | [a, b] => [digit (a.toNat / 4), digit (a.toNat % 4 * 16 + b.toNat / 16), digit (b.toNat % 16 * 4)]
  | a :: b :: c :: rest =>
      digit (a.toNat / 4) :: digit (a.toNat % 4 * 16 + b.toNat / 16) :: digit (b.toNat % 16 * 4 + c.toNat / 64) ::
        digit (c.toNat % 64) :: encode rest

/-- The octets of a text in canonical form: over the alphabet, no length that no octets have, and the bits of the
    last character that stand for nothing are zero. -/
def decode : JsString → Option Bytes
  | [] => some []
  | [_] => none
  | [u, v] => do
      let x ← value u
      let y ← value v
      if y % 16 = 0 then some [UInt8.ofNat (x * 4 + y / 16)] else none
  | [u, v, w] => do
      let x ← value u
      let y ← value v
      let z ← value w
      if z % 4 = 0 then some [UInt8.ofNat (x * 4 + y / 16), UInt8.ofNat (y % 16 * 16 + z / 4)] else none
  | u :: v :: w :: t :: rest => do
      let x ← value u
      let y ← value v
      let z ← value w
      let q ← value t
      let bs ← decode rest
      some (UInt8.ofNat (x * 4 + y / 16) :: UInt8.ofNat (y % 16 * 16 + z / 4) :: UInt8.ofNat (z % 4 * 64 + q) :: bs)

@[simp] theorem value_digit {n : Nat} (h : n < 64) : value (digit n) = some n := by
  have hall : ∀ n < 64, value (digit n) = some n := by decide
  exact hall n h

/-- What octets encode to decodes to them. -/
theorem decode_encode (bs : Bytes) : decode (encode bs) = some bs := by
  induction bs using encode.induct with
  | case1 => rfl
  | case2 a =>
      have ha := a.toNat_lt
      rw [encode, decode, value_digit (by omega), value_digit (by omega)]
      have hrest : a.toNat % 4 * 16 % 16 = 0 := by omega
      have hoctet : a.toNat / 4 * 4 + a.toNat % 4 * 16 / 16 = a.toNat := by omega
      simp only [Option.bind_eq_bind, Option.bind_some, hrest, hoctet, if_true, UInt8.ofNat_toNat]
  | case3 a b =>
      have ha := a.toNat_lt
      have hb := b.toNat_lt
      rw [encode, decode, value_digit (by omega), value_digit (by omega), value_digit (by omega)]
      have hrest : b.toNat % 16 * 4 % 4 = 0 := by omega
      have hfirst : a.toNat / 4 * 4 + (a.toNat % 4 * 16 + b.toNat / 16) / 16 = a.toNat := by omega
      have hsecond : (a.toNat % 4 * 16 + b.toNat / 16) % 16 * 16 + b.toNat % 16 * 4 / 4 = b.toNat := by omega
      simp only [Option.bind_eq_bind, Option.bind_some, hrest, hfirst, hsecond, if_true, UInt8.ofNat_toNat]
  | case4 a b c rest ih =>
      have ha := a.toNat_lt
      have hb := b.toNat_lt
      have hc := c.toNat_lt
      rw [encode, decode, value_digit (by omega), value_digit (by omega), value_digit (by omega),
        value_digit (by omega), ih]
      have hfirst : a.toNat / 4 * 4 + (a.toNat % 4 * 16 + b.toNat / 16) / 16 = a.toNat := by omega
      have hsecond : (a.toNat % 4 * 16 + b.toNat / 16) % 16 * 16 + (b.toNat % 16 * 4 + c.toNat / 64) / 4 = b.toNat := by
        omega
      have hthird : (b.toNat % 16 * 4 + c.toNat / 64) % 4 * 64 + c.toNat % 64 = c.toNat := by omega
      simp only [Option.bind_eq_bind, Option.bind_some, hfirst, hsecond, hthird, UInt8.ofNat_toNat]

theorem encode_injective {bs cs : Bytes} (h : encode bs = encode cs) : bs = cs := by
  have hdecoded := congrArg decode h
  rw [decode_encode, decode_encode] at hdecoded
  exact Option.some.inj hdecoded

/-- A character of the alphabet is the one of its value. -/
theorem digit_of_value {u : UInt16} {n : Nat} (h : value u = some n) : n < 64 ∧ digit n = u := by
  have hu := u.toNat_lt
  unfold value at h
  split at h
  · rename_i hrange
    obtain rfl := Option.some.inj h
    obtain ⟨hlo, hhi⟩ : 0x41 ≤ u.toNat ∧ u.toNat ≤ 0x5A :=
      ⟨UInt16.le_iff_toNat_le.mp hrange.1, UInt16.le_iff_toNat_le.mp hrange.2⟩
    refine ⟨by omega, ?_⟩
    rw [digit, if_pos (by omega), show 0x41 + (u.toNat - 0x41) = u.toNat by omega, UInt16.ofNat_toNat]
  split at h
  · rename_i hrange
    obtain rfl := Option.some.inj h
    obtain ⟨hlo, hhi⟩ : 0x61 ≤ u.toNat ∧ u.toNat ≤ 0x7A :=
      ⟨UInt16.le_iff_toNat_le.mp hrange.1, UInt16.le_iff_toNat_le.mp hrange.2⟩
    refine ⟨by omega, ?_⟩
    rw [digit, if_neg (by omega), if_pos (by omega), show 0x61 + (u.toNat - 0x61 + 26 - 26) = u.toNat by omega,
      UInt16.ofNat_toNat]
  split at h
  · rename_i hrange
    obtain rfl := Option.some.inj h
    obtain ⟨hlo, hhi⟩ : 0x30 ≤ u.toNat ∧ u.toNat ≤ 0x39 :=
      ⟨UInt16.le_iff_toNat_le.mp hrange.1, UInt16.le_iff_toNat_le.mp hrange.2⟩
    refine ⟨by omega, ?_⟩
    rw [digit, if_neg (by omega), if_neg (by omega), if_pos (by omega),
      show 0x30 + (u.toNat - 0x30 + 52 - 52) = u.toNat by omega, UInt16.ofNat_toNat]
  split at h
  · rename_i hminus
    obtain rfl := Option.some.inj h
    exact ⟨by decide, hminus.symm⟩
  split at h
  · rename_i hunderscore
    obtain rfl := Option.some.inj h
    exact ⟨by decide, hunderscore.symm⟩
  · cases h

/-- What a text decodes to encodes to it. -/
theorem encode_of_decode {s : JsString} {bs : Bytes} (h : decode s = some bs) : encode bs = s := by
  have hoctet : ∀ n < 256, (UInt8.ofNat n).toNat = n := fun n hn => by
    rw [UInt8.toNat_ofNat', Nat.mod_eq_of_lt hn]
  induction s using decode.induct generalizing bs with
  | case1 =>
      cases h
      rfl
  | case2 => cases h
  | case3 u v =>
      simp only [decode, Option.bind_eq_bind, Option.bind_eq_some_iff, Option.ite_none_right_eq_some,
        Option.some.injEq] at h
      obtain ⟨x, hx, y, hy, hzero, rfl⟩ := h
      obtain ⟨hxlt, rfl⟩ := digit_of_value hx
      obtain ⟨hylt, rfl⟩ := digit_of_value hy
      rw [encode, hoctet _ (by omega)]
      rw [show (x * 4 + y / 16) / 4 = x by omega, show (x * 4 + y / 16) % 4 * 16 = y by omega]
  | case4 u v w =>
      simp only [decode, Option.bind_eq_bind, Option.bind_eq_some_iff, Option.ite_none_right_eq_some,
        Option.some.injEq] at h
      obtain ⟨x, hx, y, hy, z, hz, hzero, rfl⟩ := h
      obtain ⟨hxlt, rfl⟩ := digit_of_value hx
      obtain ⟨hylt, rfl⟩ := digit_of_value hy
      obtain ⟨hzlt, rfl⟩ := digit_of_value hz
      rw [encode, hoctet _ (by omega), hoctet _ (by omega)]
      rw [show (x * 4 + y / 16) / 4 = x by omega,
        show (x * 4 + y / 16) % 4 * 16 + (y % 16 * 16 + z / 4) / 16 = y by omega,
        show (y % 16 * 16 + z / 4) % 16 * 4 = z by omega]
  | case5 u v w t rest ih =>
      simp only [decode, Option.bind_eq_bind, Option.bind_eq_some_iff, Option.some.injEq] at h
      obtain ⟨x, hx, y, hy, z, hz, q, hq, cs, hcs, rfl⟩ := h
      obtain ⟨hxlt, rfl⟩ := digit_of_value hx
      obtain ⟨hylt, rfl⟩ := digit_of_value hy
      obtain ⟨hzlt, rfl⟩ := digit_of_value hz
      obtain ⟨hqlt, rfl⟩ := digit_of_value hq
      rw [encode, hoctet _ (by omega), hoctet _ (by omega), hoctet _ (by omega), ih hcs]
      rw [show (x * 4 + y / 16) / 4 = x by omega,
        show (x * 4 + y / 16) % 4 * 16 + (y % 16 * 16 + z / 4) / 16 = y by omega,
        show (y % 16 * 16 + z / 4) % 16 * 4 + (z % 4 * 64 + q) / 64 = z by omega,
        show (z % 4 * 64 + q) % 64 = q by omega]

theorem decode_iff {s : JsString} {bs : Bytes} : decode s = some bs ↔ s = encode bs := by
  constructor
  · exact fun h => (encode_of_decode h).symm
  · rintro rfl
    exact decode_encode bs

end Base64url

end OwnerSwitch
