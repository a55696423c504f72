/-
Module: OwnerSwitch.ControlPlane.CborSteps
Layer: ControlPlane
Purpose: What the steps of the decoder do: reading octets and heads, naming a key. Each settles: it returns one value
  under a condition on the input, and throws otherwise.
Imports: ControlPlane.CborItems, Lib.JsonSize
Trusted boundary: none
Main exports: Settles, Reader.Holds, Reader.past, isHead_cases, isHead_of_readLength, keyName_settles
Open obligations: none
-/
import Mathlib
import OwnerSwitch.ControlPlane.CborItems
import OwnerSwitch.Lib.JsonSize

namespace OwnerSwitch

namespace Cbor

/-! ### Settled steps -/

/-- Under the condition the step returns the value and leaves the reader; otherwise it throws. -/
def Settles {α : Type} (P : Prop) (v : α) (r' : Reader) (res : EStateM.Result JsString Reader α) : Prop :=
  P ∧ res = .ok v r' ∨ ¬ P ∧ ∃ e s, res = .error e s

namespace Settles

variable {α β : Type} {P Q : Prop} {v : α} {w : β} {r r' r'' : Reader} {x : ReaderM α} {f : α → ReaderM β}

theorem ok {res : EStateM.Result JsString Reader α} (hp : P) (h : res = .ok v r') : Settles P v r' res :=
  .inl ⟨hp, h⟩

theorem error {res : EStateM.Result JsString Reader α} {e : JsString} {s : Reader} (hp : ¬ P) (h : res = .error e s) :
    Settles P v r' res :=
  .inr ⟨hp, e, s, h⟩

theorem congr {res : EStateM.Result JsString Reader α} (hpq : P ↔ Q) (h : Settles P v r' res) : Settles Q v r' res := by
  rwa [propext hpq] at h

/-- A step, and what follows it where it returns. -/
theorem bind (hx : Settles P v r' (x r)) (hf : P → Settles Q w r'' (f v r')) :
    Settles (P ∧ Q) w r'' ((x >>= f) r) := by
  rcases hx with ⟨hp, hx⟩ | ⟨hp, e, s, hx⟩
  · have hbind : (x >>= f) r = f v r' := by
      simp only [Bind.bind, EStateM.bind, hx]
    rw [hbind]
    rcases hf hp with ⟨hq, hf⟩ | ⟨hq, hf⟩
    · exact .inl ⟨⟨hp, hq⟩, hf⟩
    · exact .inr ⟨fun h => hq h.2, hf⟩
  · have hbind : (x >>= f) r = .error e s := by
      simp only [Bind.bind, EStateM.bind, hx]
    rw [hbind]
    exact .inr ⟨fun h => hp h.1, e, s, rfl⟩

/-- A step whose condition holds returns. -/
theorem eq_ok {res : EStateM.Result JsString Reader α} (h : Settles P v r' res) (hp : P) : res = .ok v r' := by
  rcases h with ⟨-, h⟩ | ⟨hnot, -⟩
  · exact h
  · exact absurd hp hnot

/-- A step that returned met its condition. -/
theorem of_ok {u : α} {s : Reader} (h : Settles P v r' (.ok u s)) : P ∧ u = v ∧ s = r' := by
  rcases h with ⟨hp, h⟩ | ⟨-, e, s, h⟩
  · cases h
    exact ⟨hp, rfl, rfl⟩
  · cases h

end Settles

/-- A sequence of steps that returned. -/
theorem bind_ok {α β : Type} {x : ReaderM α} {f : α → ReaderM β} {r r'' : Reader} {w : β}
    (h : (x >>= f) r = .ok w r'') : ∃ v r', x r = .ok v r' ∧ f v r' = .ok w r'' := by
  simp only [Bind.bind, EStateM.bind] at h
  split at h
  · rename_i v r' hx
    exact ⟨v, r', hx, h⟩
  · cases h

/-! ### The reader -/

namespace Reader

/-- What is next to read begins with the octets. -/
structure Holds (r : Reader) (bs : Bytes) : Prop where
  inside : r.offset ≤ r.bytes.length
  next : bs <+: r.bytes.drop r.offset

/-- The reader past the octets, with so many more items counted. -/
def past (r : Reader) (bs : Bytes) (count : Nat) : Reader :=
  { r with offset := r.offset + bs.length, items := r.items + count }

variable {r : Reader} {bs cs : Bytes} {m n : Nat}

/-- Reading on after reading on. -/
@[simp] theorem past_past : (r.past bs m).past cs n = r.past (bs ++ cs) (m + n) := by
  simp [past, Nat.add_assoc]

@[simp] theorem past_items : (r.past bs n).items = r.items + n :=
  rfl

@[simp] theorem past_nil : r.past [] 0 = r :=
  rfl

/-- What is held lies within the octets. -/
theorem Holds.length_le (h : r.Holds bs) : r.offset + bs.length ≤ r.bytes.length := by
  have hinside := h.inside
  have hle := h.next.length_le
  rw [List.length_drop] at hle
  omega

/-- The first part of what is held is held. -/
theorem Holds.left (h : r.Holds (bs ++ cs)) : r.Holds bs :=
  ⟨h.inside, (List.prefix_append bs cs).trans h.next⟩

/-- After the first part the second is held. -/
theorem Holds.right (h : r.Holds (bs ++ cs)) (n : Nat) : (r.past bs n).Holds cs := by
  refine ⟨h.left.length_le, ?_⟩
  obtain ⟨rest, hrest⟩ := h.next
  refine ⟨rest, ?_⟩
  rw [past, ← List.drop_drop, ← hrest, List.append_assoc, List.drop_left]

theorem Holds.counted (h : r.Holds cs) (n : Nat) : (r.past [] n).Holds cs :=
  Holds.right (show r.Holds ([] ++ cs) from h) n

/-- What is ahead, one part after the other. -/
theorem Holds.append (h : r.Holds bs) (h' : (r.past bs n).Holds cs) : r.Holds (bs ++ cs) := by
  refine ⟨h.inside, ?_⟩
  obtain ⟨rest, hrest⟩ := h.next
  obtain ⟨tail, htail⟩ := h'.next
  refine ⟨tail, ?_⟩
  rw [past, ← List.drop_drop, ← hrest, List.drop_left] at htail
  rw [List.append_assoc, htail, hrest]

theorem Holds.take (h : r.Holds bs) : (r.bytes.drop r.offset).take bs.length = bs :=
  List.prefix_iff_eq_take.mp h.next |>.symm

end Reader

variable {r r' : Reader} {bs : Bytes}

/-- Enough octets are ahead. -/
theorem need_ok {count : Nat} (h : r.offset + count ≤ r.bytes.length) : need count r = .ok () r := by
  have hnot : ¬ r.offset + count > r.bytes.length := by omega
  simp only [need, Bind.bind, EStateM.bind, get, getThe, MonadStateOf.get, EStateM.get, if_neg hnot]
  rfl

/-- Not enough octets are ahead. -/
theorem need_error {count : Nat} (h : ¬ r.offset + count ≤ r.bytes.length) :
    need count r = .error (js "CBOR: truncated input") r := by
  have hgt : r.offset + count > r.bytes.length := by omega
  simp only [need, Bind.bind, EStateM.bind, get, getThe, MonadStateOf.get, EStateM.get, if_pos hgt]
  rfl

/-- Octets that are ahead are taken. -/
theorem take_holds (h : r.Holds bs) : take bs.length r = .ok bs (r.past bs 0) := by
  have htake : take bs.length r = .ok ((r.bytes.drop r.offset).take bs.length) (r.past bs 0) := by
    simp only [take, Bind.bind, EStateM.bind, need_ok h.length_le]
    rfl
  rw [htake, h.take]

/-- An octet that is held is read. -/
theorem u8_holds {b : UInt8} (h : r.Holds [b]) : u8 r = .ok b.toNat (r.past [b] 0) := by
  have hneed : need 1 r = .ok () r := need_ok h.length_le
  have hread : u8 r = .ok (r.bytes.getD r.offset 0).toNat (r.past [b] 0) := by
    simp only [u8, Bind.bind, EStateM.bind, hneed]
    rfl
  obtain ⟨rest, hrest⟩ := h.next
  have hget : r.bytes[r.offset]? = some b := by
    rw [← List.head?_drop, ← hrest]
    rfl
  rw [hread, List.getD_eq_getElem?_getD, hget]
  rfl

/-- What is taken stands next. -/
theorem take_ok {count : Nat} (hinside : r.offset ≤ r.bytes.length) (h : take count r = .ok bs r') :
    bs.length = count ∧ r.Holds bs ∧ r' = r.past bs 0 := by
  by_cases hle : r.offset + count ≤ r.bytes.length
  · have hholds : r.Holds ((r.bytes.drop r.offset).take count) := ⟨hinside, List.take_prefix _ _⟩
    have hlength : ((r.bytes.drop r.offset).take count).length = count := by
      rw [List.length_take, List.length_drop]
      omega
    have htake := take_holds hholds
    rw [hlength, h] at htake
    cases htake
    exact ⟨hlength, hholds, rfl⟩
  · simp only [take, Bind.bind, EStateM.bind, need_error hle] at h
    cases h

/-- An octet that is read was held. -/
theorem u8_ok {n : Nat} (hinside : r.offset ≤ r.bytes.length) (h : u8 r = .ok n r') :
    ∃ b : UInt8, b.toNat = n ∧ r.Holds [b] ∧ r' = r.past [b] 0 := by
  by_cases hle : r.offset + 1 ≤ r.bytes.length
  · have hholds : r.Holds [r.bytes[r.offset]] := by
      refine ⟨hinside, ?_⟩
      rw [List.drop_eq_getElem_cons hle]
      exact ⟨_, rfl⟩
    have hread := u8_holds hholds
    rw [h] at hread
    cases hread
    exact ⟨_, rfl, hholds, rfl⟩
  · simp only [u8, Bind.bind, EStateM.bind, need_error hle] at h
    cases h

/-- An item is counted up to the limit. -/
theorem countItem_settles (r : Reader) :
    Settles (r.items + 1 ≤ MAX_ITEMS) () (r.past [] 1) (countItem r) := by
  by_cases hle : r.items + 1 ≤ MAX_ITEMS
  · refine .ok hle ?_
    have hnot : ¬ r.items + 1 > MAX_ITEMS := by omega
    simp only [countItem, modify, modifyGet, MonadStateOf.modifyGet, EStateM.modifyGet, Bind.bind, EStateM.bind, get,
      getThe, MonadStateOf.get, EStateM.get, if_neg hnot]
    rfl
  · refine .error hle (e := js "CBOR: too many items") (s := r.past [] 1) ?_
    have hgt : r.items + 1 > MAX_ITEMS := by omega
    simp only [countItem, modify, modifyGet, MonadStateOf.modifyGet, EStateM.modifyGet, Bind.bind, EStateM.bind, get,
      getThe, MonadStateOf.get, EStateM.get, if_pos hgt]
    rfl

/-! ### Heads -/

/-- A count fits into its octets. -/
theorem bigEndian_lt (bs : Bytes) : bigEndian bs < 0x100 ^ bs.length := by
  induction bs using List.reverseRecOn with
  | nil => simp [bigEndian]
  | append_singleton bs b ih =>
      have hb := b.toNat_lt
      rw [bigEndian, List.foldl_append, List.length_append, List.length_singleton, Nat.pow_succ]
      change bigEndian bs * 0x100 + b.toNat < _
      omega

/-- The length in a head is below two to the thirty-second. -/
theorem isHead_lt {major n : Nat} {h : Bytes} (hhead : IsHead major n h) : n < 2 ^ 32 := by
  cases hhead with
  | direct hlt => omega
  | @long info arg hform harg =>
      have hlt := bigEndian_lt arg
      rw [harg] at hlt
      simp only [List.mem_cons, Prod.mk.injEq, List.not_mem_nil, or_false] at hform
      rcases hform with ⟨-, hlength⟩ | ⟨-, hlength⟩ | ⟨-, hlength⟩ <;> rw [hlength] at hlt <;> omega

/-- The initial byte of a head, and how its argument is read. -/
theorem isHead_cases {major n : Nat} {h : Bytes} (hmajor : major < 8) (hhead : IsHead major n h) :
    ∃ (b : UInt8) (info : Nat) (arg : Bytes), h = b :: arg ∧ b.toNat = major * 0x20 + info ∧ info < 27 ∧
      ∀ r : Reader, r.Holds arg → readLength info r = .ok n (r.past arg 0) := by
  cases hhead with
  | direct hlt =>
      refine ⟨_, n, [], rfl, Utf8.toNat_ofNat_lt (by omega), by omega, fun r _ => ?_⟩
      rw [readLength, if_pos hlt]
      rfl
  | @long info arg hform harg =>
      simp only [List.mem_cons, Prod.mk.injEq, List.not_mem_nil, or_false] at hform
      refine ⟨_, info, arg, rfl, Utf8.toNat_ofNat_lt (by omega), by omega, fun r hr => ?_⟩
      rcases hform with ⟨rfl, hlength⟩ | ⟨rfl, hlength⟩ | ⟨rfl, hlength⟩
      · obtain ⟨b, rfl⟩ := List.length_eq_one_iff.mp hlength
        have hread := u8_holds hr
        rw [readLength, if_neg (by decide), if_pos rfl, hread, ← harg]
        simp [bigEndian]
      · have htake := take_holds hr
        rw [hlength] at htake
        rw [readLength, if_neg (by decide), if_neg (by decide), if_pos rfl]
        simp only [Bind.bind, EStateM.bind, htake, harg]
        rfl
      · have htake := take_holds hr
        rw [hlength] at htake
        rw [readLength, if_neg (by decide), if_neg (by decide), if_neg (by decide), if_pos rfl]
        simp only [Bind.bind, EStateM.bind, htake, harg]
        rfl

/-- What is read as an initial byte and its argument is a head. -/
theorem isHead_of_readLength {b : UInt8} {n : Nat} (hinside : r.offset ≤ r.bytes.length)
    (h : readLength (b.toNat % 0x20) r = .ok n r') :
    ∃ arg, IsHead (b.toNat / 0x20) n (b :: arg) ∧ r.Holds arg ∧ r' = r.past arg 0 := by
  have hbyte : UInt8.ofNat (b.toNat / 0x20 * 0x20 + b.toNat % 0x20) = b := by
    rw [Nat.div_add_mod', UInt8.ofNat_toNat]
  have hlong : ∀ {info : Nat} {arg : Bytes}, b.toNat % 0x20 = info → (info, arg.length) ∈ [(24, 1), (25, 2), (26, 4)] →
      IsHead (b.toNat / 0x20) (bigEndian arg) (b :: arg) := by
    intro info arg hinfo hform
    rw [← hinfo] at hform
    have hhead : IsHead (b.toNat / 0x20) (bigEndian arg) (_ :: arg) := .long hform rfl
    rwa [hbyte] at hhead
  rw [readLength] at h
  split at h
  · rename_i hlt
    cases h
    have hhead : IsHead (b.toNat / 0x20) (b.toNat % 0x20) [_] := .direct hlt
    rw [hbyte] at hhead
    exact ⟨[], hhead, ⟨hinside, List.nil_prefix⟩, rfl⟩
  · split at h
    · rename_i hinfo
      obtain ⟨c, rfl, hholds, hr'⟩ := u8_ok hinside h
      have hhead : IsHead (b.toNat / 0x20) (bigEndian [c]) (b :: [c]) := hlong hinfo (by simp)
      simp only [bigEndian, List.foldl_cons, List.foldl_nil, Nat.zero_mul, Nat.zero_add] at hhead
      exact ⟨[c], hhead, hholds, hr'⟩
    · split at h
      · rename_i hinfo
        obtain ⟨arg, r₁, htake, hret⟩ := bind_ok h
        obtain ⟨hlength, hholds, rfl⟩ := take_ok hinside htake
        cases hret
        exact ⟨arg, hlong hinfo (by simp [hlength]), hholds, rfl⟩
      · split at h
        · rename_i hinfo
          obtain ⟨arg, r₁, htake, hret⟩ := bind_ok h
          obtain ⟨hlength, hholds, rfl⟩ := take_ok hinside htake
          cases hret
          exact ⟨arg, hlong hinfo (by simp [hlength]), hholds, rfl⟩
        · cases h

/-! ### Keys -/

theorem spellsInteger_decimal (z : Int) : spellsInteger (decimal z) = true := by
  have hdigits : ∀ u ∈ Json.natText z.natAbs, Json.isDigit u = true := fun u hu => Json.natText_isDigit hu
  have hne := Json.natText_ne_nil z.natAbs
  have hall : (Json.natText z.natAbs).all Json.isDigit = true := List.all_eq_true.mpr hdigits
  unfold decimal
  by_cases hneg : z < 0
  · simp [spellsInteger, hneg, hne, hall]
  · have hhead : (Json.natText z.natAbs).head? ≠ some 0x2D := by
      intro hhead
      have hdigit := hdigits _ (List.mem_of_mem_head? hhead)
      exact absurd hdigit (by decide)
    simp [spellsInteger, hneg, hhead, hne, hall]

/-- A name that pollutes spells no integer. -/
theorem not_spellsInteger_of_pollutes {name : JsString} (h : pollutes name = true) : spellsInteger name = false := by
  simp only [pollutes, Bool.or_eq_true, decide_eq_true_eq] at h
  rcases h with (rfl | rfl) | rfl <;> decide

/-- No integer is a name that pollutes. -/
theorem not_pollutes_decimal (z : Int) : pollutes (decimal z) = false := by
  by_contra hpollutes
  have hspells := not_spellsInteger_of_pollutes (by simpa using hpollutes)
  rw [spellsInteger_decimal] at hspells
  cases hspells

/-- A key's name is read as the number it spells. -/
theorem readNumber_decimal (z : Int) : Json.readNumber (decimal z) = some (.ofInt z) := by
  have hread := Json.readNumber_plainText (decide (z < 0)) z.natAbs 0
  have hvalue := Json.numeralValue_plain (.ofInt z)
  have htext : decimal z = (if decide (z < 0) = true then [0x2D] else []) ++ Json.plainText z.natAbs 0 := by
    simp [decimal, Json.plainText]
  rw [htext, hread]
  exact congrArg some hvalue

/-- Integers of one decimal text are equal. -/
theorem decimal_injective {z w : Int} (h : decimal z = decimal w) : z = w := by
  have hread := congrArg Json.readNumber h
  rw [readNumber_decimal, readNumber_decimal] at hread
  exact Decimal.ofInt_injective (Option.some.inj hread)

end Cbor

/-- Different keys that are allowed have different names. -/
theorem CborKey.name_injective {k l : CborKey} (hk : k.Allowed) (hl : l.Allowed) (h : k.name = l.name) : k = l := by
  cases k with
  | int z =>
      cases l with
      | int w => rw [Cbor.decimal_injective h]
      | text t =>
          have hspells := Cbor.spellsInteger_decimal z
          rw [show Cbor.decimal z = t from h, hl.1] at hspells
          cases hspells
  | text s =>
      cases l with
      | int w =>
          have hspells := Cbor.spellsInteger_decimal w
          rw [show Cbor.decimal w = s from h.symm, hk.1] at hspells
          cases hspells
      | text t => rw [show s = t from h]

namespace Cbor

variable {r r' : Reader} {bs : Bytes}

/-- A name is accepted once, where it does not pollute. -/
theorem freshName_settles (name : JsString) (out : List (JsString × CborValue)) (r : Reader) :
    Settles (pollutes name = false ∧ name ∉ out.map Prod.fst) () r (freshName name out r) := by
  by_cases hpollutes : pollutes name = true
  · have hrun : freshName name out r
        = .error (js "CBOR: map key " ++ Json.quote name ++ js " is refused (prototype pollution)") r := by
      simp only [freshName, hpollutes, if_true]
      rfl
    exact .error (fun h => by rw [h.1] at hpollutes; cases hpollutes) hrun
  · by_cases hmem : name ∈ out.map Prod.fst
    · have hany : (out.any fun e => decide (e.1 = name)) = true := by
        obtain ⟨e, he, rfl⟩ := List.mem_map.mp hmem
        exact List.any_eq_true.mpr ⟨e, he, decide_eq_true rfl⟩
      have hrun : freshName name out r = .error (js "CBOR: duplicate map key " ++ Json.quote name) r := by
        simp only [freshName, hpollutes, hany, if_true]
        rfl
      exact .error (fun h => h.2 hmem) hrun
    · have hany : (out.any fun e => decide (e.1 = name)) = false := by
        rw [List.any_eq_false]
        intro e he heq
        exact hmem (List.mem_map.mpr ⟨e, he, of_decide_eq_true heq⟩)
      refine .ok ⟨by simpa using hpollutes, hmem⟩ ?_
      simp only [freshName, hpollutes, hany]
      rfl

/-- A key spells no integer, unless it is one. -/
def Distinguished : CborKey → Prop
  | .int _ => True
  | .text s => spellsInteger s = false

/-- A key is allowed where it is distinguished and pollutes nothing. -/
theorem allowed_iff (k : CborKey) : k.Allowed ↔ Distinguished k ∧ pollutes k.name = false := by
  cases k with
  | int z => exact iff_of_true trivial ⟨trivial, not_pollutes_decimal z⟩
  | text s => exact Iff.rfl

/-- A key is accepted where its name is its own. -/
theorem keyName_settles {k : CborKey} (hk : ∀ z, k = .int z → z.natAbs ≤ 2 ^ 32) (r : Reader) :
    Settles (Distinguished k) k.name r (keyName (CborData.toValue k.data) r) := by
  cases k with
  | int z =>
      have hsafe : z.natAbs ≤ Json.maxSafeInteger.natAbs := (hk z rfl).trans (by decide)
      refine .ok trivial ?_
      simp only [CborKey.data, CborData.toValue, keyName, if_pos hsafe]
      rfl
  | text s =>
      cases hspells : spellsInteger s with
      | true =>
          have hrun : keyName (.string s) r
              = .error (js "CBOR: text map key " ++ Json.quote s ++ js " impersonates an integer label") r := by
            simp only [keyName, hspells, if_true]
            rfl
          refine .error (fun h => ?_) hrun
          rw [show spellsInteger s = false from h] at hspells
          cases hspells
      | false =>
          refine .ok hspells ?_
          simp only [CborKey.data, CborData.toValue, keyName, hspells]
          rfl

/-- The integers of the subset are small. -/
theorem encodes_number_le {z : Int} (h : Encodes (.number z) bs) : z.natAbs ≤ 2 ^ 32 := by
  cases h with
  | nonneg hhead =>
      have hlt := isHead_lt hhead
      omega
  | negative hhead =>
      have hlt := isHead_lt hhead
      omega

end Cbor

/-! ### Items as they are read -/

namespace CborData

theorem unmarked_key (k : CborKey) : unmarked k.data = k.unmarked.data := by
  cases k <;> rfl

theorem keyed_key (p : CborKey → Prop) (k : CborKey) : Keyed p k.data := by
  cases k with
  | int z => exact .number
  | text s => exact .string

/-- An array is keyed where its elements are. -/
theorem keyed_array_iff {p : CborKey → Prop} {xs : List CborData} :
    Keyed p (.array xs) ↔ ∀ x ∈ xs, Keyed p x :=
  ⟨fun h => by cases h with | array h => exact h, .array⟩

/-- An object is keyed where its keys are distinct and allowed and its values are keyed. -/
theorem keyed_object_iff {p : CborKey → Prop} {es : List (CborKey × CborData)} :
    Keyed p (.object es) ↔ (es.map Prod.fst).Nodup ∧ (∀ e ∈ es, p e.1) ∧ ∀ e ∈ es, Keyed p e.2 :=
  ⟨fun h => by cases h with | object h₁ h₂ h₃ => exact ⟨h₁, h₂, h₃⟩, fun h => .object h.1 h.2.1 h.2.2⟩

theorem height_key (k : CborKey) : k.data.height = 1 := by
  cases k <;> rfl

theorem items_key (k : CborKey) : k.data.items = 1 := by
  cases k <;> rfl

/-- Every item is a level. -/
theorem height_pos {κ : Type} (x : Cbor κ) : 1 ≤ x.height := by
  cases x <;> simp [Cbor.height]

/-- The keys of the entries are allowed and distinct exactly where they are allowed and their names distinct. -/
theorem names_nodup_iff {es : List (CborKey × CborData)} (h : ∀ e ∈ es, e.1.Allowed) :
    (es.map fun e => e.1.name).Nodup ↔ (es.map Prod.fst).Nodup := by
  have hmap : (es.map fun e => e.1.name) = (es.map Prod.fst).map CborKey.name := by
    rw [List.map_map]
    rfl
  rw [hmap]
  constructor
  · exact List.Nodup.of_map _
  · refine List.Nodup.map_on fun k hk l hl hname => ?_
    obtain ⟨e, he, rfl⟩ := List.mem_map.mp hk
    obtain ⟨f, hf, rfl⟩ := List.mem_map.mp hl
    exact CborKey.name_injective (h e he) (h f hf) hname

/-- The properties are named by the keys. -/
theorem toProperties_keys (es : List (CborKey × CborData)) :
    (toProperties es).map Prod.fst = es.map fun e => e.1.name := by
  induction es with
  | nil => rfl
  | cons e es ih => rw [toProperties, List.map_cons, List.map_cons, ih]

end CborData

end OwnerSwitch
