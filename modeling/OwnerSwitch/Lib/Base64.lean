/-
Module: OwnerSwitch.Lib.Base64
Layer: Lib
Purpose: The base64 decoders of the language's platforms, `atob` and the lenient one of a buffer, with `btoa`, and that
  each of them followed by a round trip accepts exactly the canonical unpadded base64url texts.
Imports: Lib.Base64url
Trusted boundary: none
Main exports: Base64.atob, Base64.btoa, Base64.bufferFrom, Base64.readAtob_eq, Base64.readBuffer_eq
Open obligations: none
-/
import Mathlib.Data.List.TakeWhile
import OwnerSwitch.Lib.Base64url

namespace OwnerSwitch

namespace Base64

/-! ### The decoders -/

/-- `=` -/
def pad : UInt16 := 0x3D

/-- The character of the standard alphabet for one of the URL-safe alphabet: `-` and `_` are `+` and `/` there. -/
def toStandard (u : UInt16) : UInt16 :=
  if u = 0x2D then 0x2B else if u = 0x5F then 0x2F else u

/-- The character of the URL-safe alphabet for one of the standard alphabet. -/
def toUrl (u : UInt16) : UInt16 :=
  if u = 0x2B then 0x2D else if u = 0x2F then 0x5F else u

/-- The value of a character of the standard alphabet. -/
def value (u : UInt16) : Option Nat :=
  if u = 0x2B then some 62
  else if u = 0x2F then some 63
  else if u = 0x2D ∨ u = 0x5F then none
  else Base64url.value u

/-- The octets of a sequence of sextets; bits that make no octet are dropped. -/
def octets : List Nat → Bytes
  | x :: y :: z :: w :: rest =>
      UInt8.ofNat (x * 4 + y / 16) :: UInt8.ofNat (y % 16 * 16 + z / 4) :: UInt8.ofNat (z % 4 * 64 + w) :: octets rest
  | [x, y, z] => [UInt8.ofNat (x * 4 + y / 16), UInt8.ofNat (y % 16 * 16 + z / 4)]
  | [x, y] => [UInt8.ofNat (x * 4 + y / 16)]
  | [_] => []
  | [] => []

/-- White space of ASCII, as `atob` removes it. -/
def isAsciiWhite (u : UInt16) : Bool :=
  u = 0x09 || u = 0x0A || u = 0x0C || u = 0x0D || u = 0x20

/-- A text without the padding at its end, of at most two characters. -/
def dropPadding (s : JsString) : JsString :=
  if [pad, pad] <:+ s then s.dropLast.dropLast
  else if [pad] <:+ s then s.dropLast
  else s

/-- `atob`: the octets, or nothing where it throws. -/
def atob (s : JsString) : Option Bytes :=
  let s := s.filter fun u => !isAsciiWhite u
  let s := if s.length % 4 = 0 then dropPadding s else s
  if s.length % 4 = 1 then none else (s.mapM value).map octets

/-- `btoa`, of the octets of a binary string. -/
def btoa : Bytes → JsString
  | [] => []
  | [a] => (Base64url.encode [a]).map toStandard ++ [pad, pad]
  | [a, b] => (Base64url.encode [a, b]).map toStandard ++ [pad]
  | a :: b :: c :: rest => (Base64url.encode [a, b, c]).map toStandard ++ btoa rest

/-- `Buffer.from(s, "base64url")`, and with `"base64"`: characters of neither alphabet are skipped, and nothing is read
    after the padding. -/
def bufferFrom (s : JsString) : Bytes :=
  octets ((s.takeWhile (· ≠ pad)).filterMap fun u => (value u).or (Base64url.value u))

/-- `s.replace(/=+$/, "")` -/
def stripPadding (s : JsString) : JsString :=
  (s.reverse.dropWhile (· = pad)).reverse

/-- `/^[A-Za-z0-9_-]+$/` -/
def isAlphabetic (s : JsString) : Bool :=
  s ≠ [] && s.all fun u => (Base64url.value u).isSome

/-! ### Sextets -/

/-- The sextets of octets, the bits that are missing at the end zero. -/
def sextets : Bytes → List Nat
  | [] => []
  | [a] => [a.toNat / 4, a.toNat % 4 * 16]
  | [a, b] => [a.toNat / 4, a.toNat % 4 * 16 + b.toNat / 16, b.toNat % 16 * 4]
  | a :: b :: c :: rest =>
      a.toNat / 4 :: (a.toNat % 4 * 16 + b.toNat / 16) ::
        (b.toNat % 16 * 4 + c.toNat / 64) :: c.toNat % 64 :: sextets rest

/-- The padding of octets. -/
def padding (bs : Bytes) : Nat :=
  (3 - bs.length % 3) % 3

/-- The encoding is a digit for each sextet. -/
theorem encode_eq_map (bs : Bytes) : Base64url.encode bs = (sextets bs).map Base64url.digit := by
  induction bs using sextets.induct with
  | case1 => rfl
  | case2 a => rfl
  | case3 a b => rfl
  | case4 a b c rest ih =>
      rw [Base64url.encode, sextets, ih]
      rfl

/-- A sextet has six bits. -/
theorem sextets_lt (bs : Bytes) : ∀ n ∈ sextets bs, n < 64 := by
  induction bs using sextets.induct with
  | case1 => exact fun n hn => by cases hn
  | case2 a =>
      have ha := a.toNat_lt
      simp only [sextets, List.forall_mem_cons]
      exact ⟨by omega, by omega, fun n hn => by cases hn⟩
  | case3 a b =>
      have ha := a.toNat_lt
      have hb := b.toNat_lt
      simp only [sextets, List.forall_mem_cons]
      exact ⟨by omega, by omega, by omega, fun n hn => by cases hn⟩
  | case4 a b c rest ih =>
      have ha := a.toNat_lt
      have hb := b.toNat_lt
      have hc := c.toNat_lt
      simp only [sextets, List.forall_mem_cons]
      exact ⟨by omega, by omega, by omega, by omega, ih⟩

/-- The sextets of octets give the octets back. -/
theorem octets_sextets (bs : Bytes) : octets (sextets bs) = bs := by
  induction bs using sextets.induct with
  | case1 => rfl
  | case2 a =>
      have ha := a.toNat_lt
      rw [sextets, octets, show a.toNat / 4 * 4 + a.toNat % 4 * 16 / 16 = a.toNat by omega, UInt8.ofNat_toNat]
  | case3 a b =>
      have ha := a.toNat_lt
      have hb := b.toNat_lt
      rw [sextets, octets, show a.toNat / 4 * 4 + (a.toNat % 4 * 16 + b.toNat / 16) / 16 = a.toNat by omega,
        show (a.toNat % 4 * 16 + b.toNat / 16) % 16 * 16 + b.toNat % 16 * 4 / 4 = b.toNat by omega, UInt8.ofNat_toNat,
        UInt8.ofNat_toNat]
  | case4 a b c rest ih =>
      have ha := a.toNat_lt
      have hb := b.toNat_lt
      have hc := c.toNat_lt
      rw [sextets, octets, ih, show a.toNat / 4 * 4 + (a.toNat % 4 * 16 + b.toNat / 16) / 16 = a.toNat by omega,
        show (a.toNat % 4 * 16 + b.toNat / 16) % 16 * 16 + (b.toNat % 16 * 4 + c.toNat / 64) / 4 = b.toNat by omega,
        show (b.toNat % 16 * 4 + c.toNat / 64) % 4 * 64 + c.toNat % 64 = c.toNat by omega, UInt8.ofNat_toNat,
        UInt8.ofNat_toNat, UInt8.ofNat_toNat]

/-- The length of a text. -/
theorem length_sextets (bs : Bytes) : (sextets bs).length = (4 * bs.length + 2) / 3 := by
  induction bs using sextets.induct with
  | case1 => simp only [sextets, List.length_nil]
  | case2 a => simp only [sextets, List.length_cons, List.length_nil]
  | case3 a b => simp only [sextets, List.length_cons, List.length_nil]
  | case4 a b c rest ih =>
      simp only [sextets, List.length_cons, ih]
      omega

theorem padding_cons (a b c : UInt8) (rest : Bytes) : padding (a :: b :: c :: rest) = padding rest := by
  simp only [padding, List.length_cons]
  omega

/-- What a text lacks of whole groups. -/
theorem padding_eq (bs : Bytes) : (4 - (sextets bs).length % 4) % 4 = padding bs := by
  induction bs using sextets.induct with
  | case1 => simp only [sextets, padding, List.length_nil]
  | case2 a => simp only [sextets, padding, List.length_cons, List.length_nil]
  | case3 a b => simp only [sextets, padding, List.length_cons, List.length_nil]
  | case4 a b c rest ih =>
      rw [padding_cons, ← ih]
      simp only [sextets, List.length_cons]
      omega

/-- Two characters of padding are the most. -/
theorem padding_le (bs : Bytes) : padding bs ≤ 2 :=
  Nat.le_of_lt_succ (Nat.mod_lt _ (by decide))

/-- What is known of the characters of sextets. -/
structure Sextet (n : Nat) : Prop where
  url : Base64url.value (Base64url.digit n) = some n
  either : (value (Base64url.digit n)).or (Base64url.value (Base64url.digit n)) = some n
  standard : value (toStandard (Base64url.digit n)) = some n
  back : toUrl (toStandard (Base64url.digit n)) = Base64url.digit n
  white : isAsciiWhite (toStandard (Base64url.digit n)) = false
  pad : Base64url.digit n ≠ pad
  standardPad : toStandard (Base64url.digit n) ≠ Base64.pad

theorem sextet {n : Nat} (h : n < 64) : Sextet n where
  url := Base64url.value_digit h
  either := by
    have hall : ∀ n < 64, (value (Base64url.digit n)).or (Base64url.value (Base64url.digit n)) = some n := by decide
    exact hall n h
  standard := by
    have hall : ∀ n < 64, value (toStandard (Base64url.digit n)) = some n := by decide
    exact hall n h
  back := by
    have hall : ∀ n < 64, toUrl (toStandard (Base64url.digit n)) = Base64url.digit n := by decide
    exact hall n h
  white := by
    have hall : ∀ n < 64, isAsciiWhite (toStandard (Base64url.digit n)) = false := by decide
    exact hall n h
  pad := by
    have hall : ∀ n < 64, Base64url.digit n ≠ Base64.pad := by decide
    exact hall n h
  standardPad := by
    have hall : ∀ n < 64, toStandard (Base64url.digit n) ≠ Base64.pad := by decide
    exact hall n h

theorem isAlphabetic_encode {bs : Bytes} (h : Base64url.encode bs ≠ []) :
    isAlphabetic (Base64url.encode bs) = true := by
  rw [isAlphabetic, Bool.and_eq_true, List.all_eq_true]
  refine ⟨decide_eq_true h, fun u hu => ?_⟩
  rw [encode_eq_map, List.mem_map] at hu
  obtain ⟨n, hn, rfl⟩ := hu
  rw [(sextet (sextets_lt bs n hn)).url]
  rfl

/-! ### Reading back what was encoded -/

/-- The permissive reader reads canonical text. -/
theorem bufferFrom_encode (bs : Bytes) : bufferFrom (Base64url.encode bs) = bs := by
  have hall := sextets_lt bs
  have htake : (Base64url.encode bs).takeWhile (· ≠ pad) = Base64url.encode bs := by
    rw [encode_eq_map, List.takeWhile_eq_self_iff]
    intro u hu
    obtain ⟨n, hn, rfl⟩ := List.mem_map.mp hu
    exact decide_eq_true (sextet (hall n hn)).pad
  have hvalues : ∀ ns : List Nat, (∀ n ∈ ns, n < 64) →
      (ns.map Base64url.digit).filterMap (fun u => (value u).or (Base64url.value u)) = ns := by
    intro ns hns
    induction ns with
    | nil => rfl
    | cons n ns ih =>
        rw [List.forall_mem_cons] at hns
        rw [List.map_cons, List.filterMap_cons, (sextet hns.1).either, ih hns.2]
  rw [bufferFrom, htake, encode_eq_map, hvalues _ hall, octets_sextets]

/-- `btoa` is the encoder with the standard alphabet and padding. -/
theorem btoa_eq (bs : Bytes) : btoa bs = (Base64url.encode bs).map toStandard ++ List.replicate (padding bs) pad := by
  induction bs using btoa.induct with
  | case1 => rfl
  | case2 a => rfl
  | case3 a b => rfl
  | case4 a b c rest ih =>
      rw [btoa, ih, padding_cons, ← List.append_assoc, ← List.map_append]
      rfl

/-- The standard encoding without its padding, over the alphabet of URLs, is the canonical text. -/
theorem stripPadding_btoa (bs : Bytes) : stripPadding ((btoa bs).map toUrl) = Base64url.encode bs := by
  have hback : ((Base64url.encode bs).map toStandard).map toUrl = Base64url.encode bs := by
    rw [encode_eq_map, List.map_map, List.map_map, List.map_inj_left]
    exact fun n hn => (sextet (sextets_lt bs n hn)).back
  have hpads : (List.replicate (padding bs) pad).map toUrl = List.replicate (padding bs) pad := by
    rw [List.map_replicate]
    rfl
  rw [btoa_eq, List.map_append, hback, hpads, stripPadding, List.reverse_append, List.reverse_replicate,
    List.dropWhile_append_of_pos fun u hu => decide_eq_true (List.eq_of_mem_replicate hu)]
  have hnone : (Base64url.encode bs).reverse.dropWhile (· = pad) = (Base64url.encode bs).reverse := by
    rw [List.dropWhile_eq_self_iff]
    intro hpos hpad
    have hmem : (Base64url.encode bs).reverse[0] ∈ Base64url.encode bs := List.mem_reverse.mp (List.getElem_mem _)
    rw [of_decide_eq_true hpad, encode_eq_map, List.mem_map] at hmem
    obtain ⟨n, hn, heq⟩ := hmem
    exact (sextet (sextets_lt bs n hn)).pad heq
  rw [hnone, List.reverse_reverse]

/-- The padding is all that is taken from the end of a text without any. -/
theorem dropPadding_append {s : JsString} (hs : pad ∉ s) {k : Nat} (hk : k ≤ 2) :
    dropPadding (s ++ List.replicate k pad) = s := by
  have hnot : ∀ p : JsString, pad ∈ p → ¬ p <:+ s := fun p hp h => hs (h.subset hp)
  rcases Nat.lt_or_ge 0 k with hpos | hzero
  · have hsplit : s ++ List.replicate k pad = (s ++ List.replicate (k - 1) pad) ++ [pad] := by
      rw [List.append_assoc, ← List.replicate_succ', Nat.sub_add_cancel hpos]
    have hone : [pad] <:+ (s ++ List.replicate (k - 1) pad) ++ [pad] := List.suffix_append _ _
    rcases Nat.lt_or_ge 1 k with htwo | hle
    · obtain rfl : k = 2 := by omega
      have hboth : [pad, pad] <:+ s ++ [pad] ++ [pad] := ⟨s, by rw [List.append_assoc]; rfl⟩
      rw [hsplit, List.replicate_one, dropPadding, if_pos hboth, List.dropLast_concat, List.dropLast_concat]
    · obtain rfl : k = 1 := by omega
      have hboth : ¬ [pad, pad] <:+ s ++ [pad] := by
        rintro ⟨t, ht⟩
        have hfirst : t ++ [pad] = s := by
          have hlast : (t ++ [pad]) ++ [pad] = s ++ [pad] := by
            rw [← ht, List.append_assoc]
            rfl
          exact List.append_cancel_right hlast
        exact hnot [pad] List.mem_cons_self ⟨t, hfirst⟩
      rw [List.replicate_one, dropPadding, if_neg hboth, if_pos (List.suffix_append s [pad]), List.dropLast_concat]
  · obtain rfl : k = 0 := by omega
    rw [List.replicate_zero, List.append_nil, dropPadding, if_neg (hnot _ List.mem_cons_self),
      if_neg (hnot _ List.mem_cons_self)]

/-- Digits are read as their sextets. -/
theorem mapM_value {ns : List Nat} (hns : ∀ n ∈ ns, n < 64) :
    (ns.map fun n => toStandard (Base64url.digit n)).mapM value = some ns := by
  induction ns with
  | nil => rfl
  | cons n ns ih =>
      rw [List.forall_mem_cons] at hns
      rw [List.map_cons, List.mapM_cons, (sextet hns.1).standard, ih hns.2]
      rfl

/-- The browser's reader reads canonical text with its padding. -/
theorem atob_encode (bs : Bytes) :
    atob ((Base64url.encode bs).map toStandard ++ List.replicate (padding bs) pad) = some bs := by
  have hall := sextets_lt bs
  have hdigits : (Base64url.encode bs).map toStandard = (sextets bs).map fun n => toStandard (Base64url.digit n) := by
    rw [encode_eq_map, List.map_map]
    rfl
  have hlength : ((Base64url.encode bs).map toStandard).length = (sextets bs).length := by
    rw [hdigits, List.length_map]
  have hgroups := padding_eq bs
  have hshort := length_sextets bs
  -- nothing in the text is white space
  have hfilter : ((Base64url.encode bs).map toStandard ++ List.replicate (padding bs) pad).filter
      (fun u => !isAsciiWhite u) = (Base64url.encode bs).map toStandard ++ List.replicate (padding bs) pad := by
    rw [List.filter_eq_self, hdigits]
    intro u hu
    rcases List.mem_append.mp hu with hu | hu
    · obtain ⟨n, hn, rfl⟩ := List.mem_map.mp hu
      rw [(sextet (hall n hn)).white]
      rfl
    · rw [List.eq_of_mem_replicate hu]
      rfl
  have hpad : pad ∉ (Base64url.encode bs).map toStandard := by
    rw [hdigits]
    intro hmem
    obtain ⟨n, hn, heq⟩ := List.mem_map.mp hmem
    exact (sextet (hall n hn)).standardPad heq
  have hwhole : ((Base64url.encode bs).map toStandard ++ List.replicate (padding bs) pad).length % 4 = 0 := by
    rw [List.length_append, List.length_replicate, hlength]
    omega
  have hnotOne : ¬ ((Base64url.encode bs).map toStandard).length % 4 = 1 := by
    rw [hlength]
    omega
  rw [atob]
  simp only [hfilter, if_pos hwhole, dropPadding_append hpad (padding_le bs), if_neg hnotOne]
  rw [hdigits, mapM_value hall, Option.map_some, octets_sextets]

/-! ### The readers -/

/-- Decoding with `atob`, which is accepted where it encodes to the same text. -/
def readAtob (text : JsString) : Option Bytes :=
  if !isAlphabetic text then none
  else
    let padded := text.map toStandard
    match atob (padded ++ List.replicate ((4 - padded.length % 4) % 4) pad) with
    | none => none
    | some bytes => if stripPadding ((btoa bytes).map toUrl) = text then some bytes else none

/-- Decoding with a buffer, which is accepted where it encodes to the same text. -/
def readBuffer (text : JsString) : Option Bytes :=
  if !isAlphabetic text then none
  else if Base64url.encode (bufferFrom text) = text then some (bufferFrom text)
  else none

/-- Both readers accept the canonical texts, and nothing else. -/
theorem readBuffer_eq (text : JsString) : readBuffer text = if text = [] then none else Base64url.decode text := by
  by_cases hempty : text = []
  · subst hempty
    rfl
  · rw [if_neg hempty, readBuffer]
    cases hdecode : Base64url.decode text with
    | some bs =>
        obtain rfl := Base64url.decode_iff.mp hdecode
        rw [isAlphabetic_encode hempty, bufferFrom_encode, if_pos rfl]
        rfl
    | none =>
        split
        · rfl
        · split
          · rename_i hsame
            rw [Base64url.decode_iff.mpr hsame.symm] at hdecode
            cases hdecode
          · rfl

/-- The round trip accepts canonical texts alone. -/
theorem readAtob_eq (text : JsString) : readAtob text = if text = [] then none else Base64url.decode text := by
  by_cases hempty : text = []
  · subst hempty
    rfl
  · rw [if_neg hempty, readAtob]
    cases hdecode : Base64url.decode text with
    | some bs =>
        obtain rfl := Base64url.decode_iff.mp hdecode
        have hpadding : (4 - ((Base64url.encode bs).map toStandard).length % 4) % 4 = padding bs := by
          rw [List.length_map, encode_eq_map, List.length_map]
          exact padding_eq bs
        rw [isAlphabetic_encode hempty]
        dsimp only
        rw [hpadding, atob_encode]
        simp only [Bool.not_true, Bool.false_eq_true, if_false, stripPadding_btoa, if_true]
    | none =>
        split
        · rfl
        · dsimp only
          split
          · rfl
          · rename_i bytes _
            split
            · rename_i hsame
              rw [stripPadding_btoa] at hsame
              rw [Base64url.decode_iff.mpr hsame.symm] at hdecode
              cases hdecode
            · rfl

end Base64

end OwnerSwitch
