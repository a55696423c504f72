/-
Module: OwnerSwitch.Lib.Octets
Layer: Lib
Purpose: Strings of octets as texts and as fields: their hexadecimal form with the decoder that reads pairs of digits up
  to the first that is none, and their framing by the length in four octets, which binds the boundaries of the fields.
Imports: Lib.JsonLex
Trusted boundary: none
Main exports: hexText, fromHex, fromHex_hexText, hexText_injective, uint32, frames, uint32_injective, frames_injective
Open obligations: none
-/
import OwnerSwitch.Lib.JsonLex

namespace OwnerSwitch

/-! ### Hexadecimal form -/

/-- Lower-case hex. -/
def hexText (bs : Bytes) : JsString :=
  bs.flatMap fun b => [Json.hexUnit (b.toNat / 16), Json.hexUnit (b.toNat % 16)]

/-- `Buffer.from(text, "hex")` -/
def fromHex : JsString → Bytes
  | u :: v :: rest =>
      match Json.hexValue u, Json.hexValue v with
      | some x, some y => UInt8.ofNat (x * 16 + y) :: fromHex rest
      | _, _ => []
  | _ => []

/-- What octets are written as reads as them. -/
theorem fromHex_hexText (bs : Bytes) : fromHex (hexText bs) = bs := by
  induction bs with
  | nil => rfl
  | cons b bs ih =>
      have hb := b.toNat_lt
      have hoctet : b.toNat / 16 * 16 + b.toNat % 16 = b.toNat := by omega
      rw [hexText, List.flatMap_cons, ← hexText, List.cons_append, List.cons_append, List.nil_append, fromHex,
        Json.hexValue_hexUnit (by omega), Json.hexValue_hexUnit (by omega)]
      simp only [hoctet, UInt8.ofNat_toNat, ih]

/-- Octets of one hexadecimal form are the same. -/
theorem hexText_injective {bs cs : Bytes} (h : hexText bs = hexText cs) : bs = cs := by
  rw [← fromHex_hexText bs, h, fromHex_hexText cs]

/-! ### Framing -/

/-- Four octets, the most significant first. -/
def uint32 (n : Nat) : Bytes :=
  [UInt8.ofNat (n / 0x1000000), UInt8.ofNat (n / 0x10000), UInt8.ofNat (n / 0x100), UInt8.ofNat n]

@[simp] theorem length_uint32 (n : Nat) : (uint32 n).length = 4 :=
  rfl

/-- A count that fits into four octets is told by them. -/
theorem uint32_injective {n m : Nat} (hn : n < 0x100000000) (hm : m < 0x100000000) (h : uint32 n = uint32 m) :
    n = m := by
  have hoctet : ∀ {a b : Nat}, UInt8.ofNat a = UInt8.ofNat b → a % 256 = b % 256 := by
    intro a b hab
    simpa using congrArg UInt8.toNat hab
  simp only [uint32, List.cons.injEq, and_true] at h
  obtain ⟨h3, h2, h1, h0⟩ := h
  have h3 := hoctet h3
  have h2 := hoctet h2
  have h1 := hoctet h1
  have h0 := hoctet h0
  omega

/-- The fields one after the other, each behind its length. -/
def frames : List Bytes → Bytes
  | [] => []
  | field :: fields => uint32 field.length ++ field ++ frames fields

/-- A field can be counted in its prefix. -/
def Countable (fields : List Bytes) : Prop :=
  ∀ field ∈ fields, field.length < 0x100000000

theorem Countable.head {field : Bytes} {fields : List Bytes} (h : Countable (field :: fields)) :
    field.length < 0x100000000 :=
  h field (List.mem_cons_self ..)

theorem Countable.tail {field : Bytes} {fields : List Bytes} (h : Countable (field :: fields)) : Countable fields :=
  fun other hother => h other (List.mem_cons_of_mem _ hother)

/-- What is framed first is read first. -/
theorem frames_cons_inj {field other : Bytes} {rest rest' : Bytes} (hfield : field.length < 0x100000000)
    (hother : other.length < 0x100000000)
    (h : uint32 field.length ++ field ++ rest = uint32 other.length ++ other ++ rest') :
    field = other ∧ rest = rest' := by
  rw [List.append_assoc, List.append_assoc] at h
  obtain ⟨hlength, hbody⟩ := List.append_inj h (by rw [length_uint32, length_uint32])
  exact List.append_inj hbody (uint32_injective hfield hother hlength)

/-- Fields of one framing are the same, since each is behind its own length. -/
theorem frames_injective {fields others : List Bytes} (hfields : Countable fields) (hothers : Countable others)
    (h : frames fields = frames others) : fields = others := by
  induction fields generalizing others with
  | nil =>
      cases others with
      | nil => rfl
      | cons other others => cases h
  | cons field fields ih =>
      cases others with
      | nil => cases h
      | cons other others =>
          rw [frames, frames] at h
          obtain ⟨rfl, hrest⟩ := frames_cons_inj hfields.head hothers.head h
          rw [ih hfields.tail hothers.tail hrest]

end OwnerSwitch
