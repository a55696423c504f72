/-
Module: OwnerSwitch.Lib.Utf8Chunks
Layer: Lib
Purpose: Decoding octets chunk by chunk, each chunk on its own. A cut inside a character only adds replacement
  characters, and it always adds some; a cut between characters changes nothing.
Imports: Lib.TextDecoder
Trusted boundary: none
Main exports: Utf8.decodeChunks, Utf8.decode_cut, Utf8.suffix_decode_flatten, Utf8.mem_decode,
  Utf8.decodeChunks_eq_iff_whole, Utf8.Garbles
Open obligations: none
-/
import Mathlib.Algebra.Group.Nat.Defs
import Mathlib.Data.List.Induction
import OwnerSwitch.Lib.TextDecoder

namespace Utf8

/-- Each chunk decoded on its own, one text after the other. -/
def decodeChunks (chunks : List Bytes) : JsString :=
  chunks.flatMap decode

/-- The replacement characters of a text. -/
def replaced (s : JsString) : Nat :=
  s.count replacement

/-- The replacement characters of two strings add up. -/
@[simp] theorem replaced_append (s t : JsString) : replaced (s ++ t) = replaced s + replaced t :=
  List.count_append

@[simp] theorem replaced_replacement (s : JsString) : replaced (replacement :: s) = replaced s + 1 :=
  List.count_cons_self

@[simp] theorem replaced_nil : replaced [] = 0 :=
  rfl

/-! ### A cut adds replacement characters -/

/-- What an unfinished character is replaced by. -/
def flush (q : State) : JsString :=
  if q.need = 0 then [] else [replacement]

/-- A state whose bounds admit continuation octets only. -/
structure Bounded (q : State) : Prop where
  lo : 0x80 ≤ q.lo
  hi : q.hi ≤ 0xBF

theorem bounded_lead (b : Nat) : Bounded (lead b).2 := by
  unfold lead
  split
  · exact ⟨Nat.le_refl _, Nat.le_refl _⟩
  split
  · exact ⟨Nat.le_refl _, Nat.le_refl _⟩
  split
  · exact ⟨Nat.le_refl _, Nat.le_refl _⟩
  split
  · constructor
    · show 0x80 ≤ if b = 0xE0 then 0xA0 else 0x80
      split <;> omega
    · show (if b = 0xED then 0x9F else 0xBF) ≤ 0xBF
      split <;> omega
  split
  · constructor
    · show 0x80 ≤ if b = 0xF0 then 0x90 else 0x80
      split <;> omega
    · show (if b = 0xF4 then 0x8F else 0xBF) ≤ 0xBF
      split <;> omega
  · exact ⟨Nat.le_refl _, Nat.le_refl _⟩

theorem bounded_step (q : State) (b : Nat) : Bounded (step q b).2 := by
  unfold step
  split
  · exact bounded_lead b
  · split
    · split
      · exact ⟨Nat.le_refl _, Nat.le_refl _⟩
      · exact ⟨Nat.le_refl _, Nat.le_refl _⟩
    · exact bounded_lead b

/-- A decoder owes three octets at most, whatever it has read. -/
theorem bounded_after {q : State} (h : Bounded q) (xs : Bytes) : Bounded (after q xs) := by
  induction xs generalizing q with
  | nil => exact h
  | cons x xs ih => exact ih (bounded_step q x.toNat)

theorem bounded_start : Bounded .start :=
  ⟨Nat.le_refl _, Nat.le_refl _⟩

/-- Owing nothing, the decoder goes on as from the start. -/
theorem decodeFrom_of_need_zero {q : State} (h : q.need = 0) (ys : Bytes) : decodeFrom q ys = decodeFrom .start ys := by
  cases ys with
  | nil => simp [decodeFrom, h, State.start]
  | cons y ys =>
      have hstep : step q y.toNat = step .start y.toNat := by
        rw [step_start, step, h]
      rw [decodeFrom, decodeFrom, hstep]

/-- A stray continuation octet is replaced. -/
theorem decodeFrom_stray {b : UInt8} (hlo : 0x80 ≤ b.toNat) (hhi : b.toNat ≤ 0xBF) (ys : Bytes) :
    decodeFrom .start (b :: ys) = replacement :: decodeFrom .start ys := by
  have hstep : step .start b.toNat = ([replacement], .start) := by
    rw [step_start, lead, if_neg (by omega), if_pos (by omega)]
  rw [decodeFrom, hstep]
  rfl

theorem replaced_units_le (n : Nat) : replaced (units n) ≤ 1 := by
  unfold units
  split
  · exact List.count_le_length
  · rename_i hbig
    have hlow : (UInt16.ofNat (0xDC00 + (n - 0x10000) % 0x400)).toNat = 0xDC00 + (n - 0x10000) % 0x400 :=
      UInt16.toNat_ofNat_of_lt (show _ < 0x10000 by omega)
    have hne : UInt16.ofNat (0xDC00 + (n - 0x10000) % 0x400) ≠ replacement := by
      intro heq
      rw [heq] at hlow
      have hvalue : replacement.toNat = 0xFFFD := rfl
      omega
    have hhead : [UInt16.ofNat (0xD800 + (n - 0x10000) / 0x400)].count replacement ≤ 1 := List.count_le_length
    have hrest : [UInt16.ofNat (0xDC00 + (n - 0x10000) % 0x400)].count replacement = 0 :=
      List.count_eq_zero.mpr fun hmem => hne (List.mem_singleton.mp hmem).symm
    have hsplit :
      replaced [UInt16.ofNat (0xD800 + (n - 0x10000) / 0x400), UInt16.ofNat (0xDC00 + (n - 0x10000) % 0x400)]
        = _ := replaced_append [_] [_]
    rw [hsplit, replaced, replaced]
    omega

/-- The next octet continues the character in progress. -/
def Continues (q : State) (ys : Bytes) : Prop :=
  q.need ≠ 0 ∧ ∃ b rest, ys = b :: rest ∧ q.lo ≤ b.toNat ∧ b.toNat ≤ q.hi

/-- Cutting off the character in progress adds replacement characters where the next octet continues it, and changes
    nothing elsewhere. -/
theorem decodeFrom_cut {q : State} (hq : Bounded q) (ys : Bytes) :
    Continues q ys ∧ replaced (decodeFrom q ys) < replaced (flush q) + replaced (decodeFrom .start ys) ∨
      ¬ Continues q ys ∧ decodeFrom q ys = flush q ++ decodeFrom .start ys := by
  induction ys generalizing q with
  | nil =>
      right
      refine ⟨fun ⟨_, b, rest, h, _⟩ => List.cons_ne_nil _ _ h.symm, ?_⟩
      simp [decodeFrom, flush, State.start]
  | cons b ys ih =>
      rcases hneed : q.need with _ | n
      · right
        refine ⟨fun h => h.1 hneed, ?_⟩
        rw [decodeFrom_of_need_zero hneed, flush, if_pos hneed, List.nil_append]
      · have hflush : flush q = [replacement] := by
          rw [flush, if_neg (by omega)]
        by_cases hb : q.lo ≤ b.toNat ∧ b.toNat ≤ q.hi
        · left
          refine ⟨⟨by omega, b, ys, rfl, hb⟩, ?_⟩
          have hlo := hq.lo
          have hhi := hq.hi
          have hbelow : replaced (decodeFrom q (b :: ys)) ≤ 1 + replaced (decodeFrom .start ys) := by
            cases n with
            | zero =>
                obtain ⟨m, hread⟩ : ∃ m, decodeFrom q (b :: ys) = units m ++ decodeFrom .start ys := by
                  refine ⟨q.acc * 0x40 + (b.toNat - 0x80), ?_⟩
                  simp only [decodeFrom, step, hneed, if_pos hb]
                have hunits := replaced_units_le m
                rw [hread, replaced_append]
                omega
            | succ n =>
                obtain ⟨q', hstep, hq'⟩ : ∃ q', step q b.toNat = ([], q') ∧ q'.need = n + 1 := by
                  simp only [step, hneed, if_pos hb]
                  exact ⟨_, rfl, rfl⟩
                have hbounded : Bounded q' := by
                  have hnext := bounded_step q b.toNat
                  rwa [hstep] at hnext
                have hone : flush q' = [replacement] := by
                  rw [flush, if_neg (by omega)]
                have hread : decodeFrom q (b :: ys) = decodeFrom q' ys := by
                  rw [decodeFrom, hstep]
                  rfl
                rw [hread]
                rcases ih hbounded with ⟨-, hlt⟩ | ⟨-, heq⟩
                · rw [hone, replaced_replacement, replaced_nil] at hlt
                  omega
                · rw [heq, hone, List.singleton_append, replaced_replacement]
                  omega
          rw [hflush, decodeFrom_stray (by omega) (by omega), replaced_replacement, replaced_replacement, replaced_nil]
          omega
        · right
          refine ⟨?_, ?_⟩
          · rintro ⟨-, c, rest, hcons, hc⟩
            obtain ⟨rfl, -⟩ := List.cons.inj hcons
            exact hb hc
          · have hstep : step q b.toNat = (replacement :: (lead b.toNat).1, (lead b.toNat).2) := by
              simp only [step, hneed, if_neg hb]
            rw [hflush, decodeFrom, decodeFrom, hstep, step_start]
            rfl

/-- A decoding is what was emitted, and the end of it. -/
theorem decode_eq_emitted (xs : Bytes) : decode xs = emitted .start xs ++ flush (after .start xs) := by
  have hsplit := decodeFrom_append .start xs []
  rw [List.append_nil] at hsplit
  rw [decode, hsplit]
  rfl

/-- Decoding two parts adds replacement characters where the second continues a character of the first, and changes
    nothing elsewhere. -/
theorem decode_cut (xs ys : Bytes) :
    Continues (after .start xs) ys ∧ replaced (decode (xs ++ ys)) < replaced (decode xs) + replaced (decode ys) ∨
      ¬ Continues (after .start xs) ys ∧ decode (xs ++ ys) = decode xs ++ decode ys := by
  rw [decode_eq_emitted xs, decode, decode, decodeFrom_append, replaced_append, replaced_append]
  rcases decodeFrom_cut (bounded_after bounded_start xs) ys with ⟨hcont, hlt⟩ | ⟨hcont, heq⟩
  · exact .inl ⟨hcont, by omega⟩
  · exact .inr ⟨hcont, by rw [heq, List.append_assoc]⟩

/-- Reading octets whole makes no more replacement characters than reading them in two parts. -/
theorem replaced_decode_append_le (xs ys : Bytes) :
    replaced (decode (xs ++ ys)) ≤ replaced (decode xs) + replaced (decode ys) := by
  rcases decode_cut xs ys with ⟨-, hlt⟩ | ⟨-, heq⟩
  · exact Nat.le_of_lt hlt
  · exact Nat.le_of_eq (by rw [heq, replaced_append])

/-- Reading octets whole makes no more replacement characters than reading them in chunks. -/
theorem replaced_decode_le_chunks (chunks : List Bytes) :
    replaced (decode chunks.flatten) ≤ replaced (decodeChunks chunks) := by
  induction chunks with
  | nil => exact Nat.le_refl _
  | cons c chunks ih =>
      have hle := replaced_decode_append_le c chunks.flatten
      rw [List.flatten_cons, decodeChunks, List.flatMap_cons, replaced_append]
      rw [decodeChunks] at ih
      omega

/-- Where no replacement character was added, the cuts changed nothing. -/
theorem decodeChunks_eq_of_replaced_le {chunks : List Bytes}
    (h : replaced (decodeChunks chunks) ≤ replaced (decode chunks.flatten)) :
    decodeChunks chunks = decode chunks.flatten := by
  induction chunks with
  | nil => rfl
  | cons c chunks ih =>
      have hrest := replaced_decode_le_chunks chunks
      rw [List.flatten_cons, decodeChunks, List.flatMap_cons, replaced_append] at h
      rw [decodeChunks] at hrest ih
      rw [List.flatten_cons, decodeChunks, List.flatMap_cons]
      rcases decode_cut c chunks.flatten with ⟨-, hlt⟩ | ⟨-, heq⟩
      · omega
      · rw [heq, replaced_append] at h
        rw [heq, ih (by omega)]

/-- Cutting off the character in progress leaves the rest of the text as it is: only what comes before the end of that
    character is read differently, and if it is continued, the second part starts with replacement characters. -/
theorem decodeFrom_resumes {q : State} (hq : Bounded q) (ys : Bytes) :
    ∃ s k t, decodeFrom q ys = s ++ t ∧ decode ys = List.replicate k replacement ++ t ∧ (Continues q ys → 0 < k) := by
  induction ys generalizing q with
  | nil =>
      refine ⟨decodeFrom q [], 0, [], (List.append_nil _).symm, rfl, ?_⟩
      rintro ⟨-, b, rest, h, -⟩
      cases h
  | cons b ys ih =>
      by_cases hcont : Continues q (b :: ys)
      · obtain ⟨hneed, c, rest, hcons, hlo, hhi⟩ := hcont
        obtain ⟨rfl, rfl⟩ := List.cons.inj hcons
        have hqlo := hq.lo
        have hqhi := hq.hi
        have hstray : decode (b :: ys) = replacement :: decode ys := decodeFrom_stray (by omega) (by omega) ys
        obtain ⟨s, k, t, hread, hrest, -⟩ := ih (bounded_step q b.toNat)
        refine ⟨(step q b.toNat).1 ++ s, k + 1, t, ?_, ?_, fun _ => Nat.succ_pos k⟩
        · rw [decodeFrom, hread, List.append_assoc]
        · rw [hstray, hrest]
          rfl
      · rcases decodeFrom_cut hq (b :: ys) with ⟨h, -⟩ | ⟨-, heq⟩
        · exact absurd h hcont
        · exact ⟨flush q, 0, decode (b :: ys), heq, rfl, fun h => absurd h hcont⟩

/-- A cut that falls inside a character changes only that character and what is before it in the second part. -/
theorem decode_resumes {xs ys : Bytes} (h : Continues (after .start xs) ys) :
    ∃ s k t, decode (xs ++ ys) = s ++ t ∧ decode ys = List.replicate (k + 1) replacement ++ t := by
  obtain ⟨s, k, t, hread, hrest, hpos⟩ := decodeFrom_resumes (bounded_after bounded_start xs) ys
  obtain ⟨k, rfl⟩ := Nat.exists_eq_succ_of_ne_zero (Nat.ne_of_gt (hpos h))
  exact ⟨emitted .start xs ++ s, k, t, by rw [decode, decodeFrom_append, hread, List.append_assoc], hrest⟩

/-- Chunks are decoded one by one. -/
@[simp] theorem decodeChunks_append (cs ds : List Bytes) :
    decodeChunks (cs ++ ds) = decodeChunks cs ++ decodeChunks ds :=
  List.flatMap_append

@[simp] theorem decodeChunks_singleton (c : Bytes) : decodeChunks [c] = decode c :=
  List.flatMap_singleton ..

/-- An end of the text that holds no replacement character is the end of the text read in one piece. -/
theorem suffix_decode_flatten (cs : List Bytes) {t : JsString} (ht : replacement ∉ t) (h : t <:+ decodeChunks cs) :
    t <:+ decode cs.flatten := by
  induction cs using List.reverseRecOn generalizing t with
  | nil => exact h
  | append_singleton cs c ih =>
      rw [decodeChunks_append, decodeChunks_singleton] at h
      rw [List.flatten_append, List.flatten_singleton]
      by_cases hcont : Continues (after .start cs.flatten) c
      · obtain ⟨s, k, r, hread, hrest⟩ := decode_resumes hcont
        rw [hrest] at h
        rw [hread]
        rcases List.suffix_or_suffix_of_suffix h ⟨_, List.append_assoc ..⟩ with hshort | hlong
        · exact hshort.trans (List.suffix_append s r)
        · -- a longer end would hold the replacement character before the rest
          obtain ⟨u, rfl⟩ := hlong
          rw [List.replicate_succ', ← List.append_assoc, ← List.append_assoc, List.suffix_append_self_iff] at h
          rcases List.suffix_concat_iff.mp h with rfl | ⟨v, rfl, -⟩
          · exact List.suffix_append s r
          · exact absurd (List.mem_append_left _ (List.mem_append_right _ (List.mem_singleton_self _))) ht
      · obtain heq : decode (cs.flatten ++ c) = decode cs.flatten ++ decode c := by
          rcases decode_cut cs.flatten c with ⟨hyes, -⟩ | ⟨-, heq⟩
          · exact absurd hyes hcont
          · exact heq
        rw [heq]
        rcases List.suffix_or_suffix_of_suffix h (List.suffix_append _ _) with hshort | ⟨u, rfl⟩
        · exact List.suffix_append_of_suffix hshort
        · rw [List.suffix_append_self_iff] at h ⊢
          exact ih (fun hmem => ht (List.mem_append_left _ hmem)) h

/-! ### ASCII -/

/-- An octet of ASCII is read as it stands, wherever it is. -/
theorem decode_append_ascii (xs : Bytes) {b : UInt8} (hb : b.toNat < 0x80) (ys : Bytes) :
    decode (xs ++ b :: ys) = decode xs ++ UInt16.ofNat b.toNat :: decode ys := by
  have hread : decode (b :: ys) = UInt16.ofNat b.toNat :: decode ys := by
    rw [decode, decodeFrom, step_start, lead, if_pos hb]
    rfl
  rcases decode_cut xs (b :: ys) with ⟨⟨-, c, rest, hcons, hlo, -⟩, -⟩ | ⟨-, heq⟩
  · obtain ⟨rfl, -⟩ := List.cons.inj hcons
    have hbound := (bounded_after bounded_start xs).lo
    omega
  · rw [heq, hread]

/-- ASCII octets are their own characters. -/
theorem decode_of_ascii {bs : Bytes} (h : ∀ b ∈ bs, b.toNat < 0x80) :
    decode bs = bs.map fun b => UInt16.ofNat b.toNat := by
  induction bs with
  | nil => rfl
  | cons b bs ih =>
      rw [List.forall_mem_cons] at h
      have hread : decode (b :: bs) = UInt16.ofNat b.toNat :: decode bs := decode_append_ascii [] h.1 bs
      rw [hread, ih h.2, List.map_cons]

/-- A character in progress whose value is none of ASCII, and none beyond what two units hold. -/
structure Long (q : State) : Prop where
  bounded : Bounded q
  least : ∀ n, q.need = n + 1 → 0x80 ≤ (q.acc * 0x40 + (q.lo - 0x80)) * 0x40 ^ n
  greatest : ∀ n, q.need = n + 1 → (q.acc + 1) * 0x40 ^ (n + 1) ≤ 0x140000

theorem long_start : Long .start := by
  constructor
  · exact bounded_start
  · intro n hn
    cases hn
  · intro n hn
    cases hn

theorem long_lead (b : Nat) : Long (lead b).2 := by
  have hbounded := bounded_lead b
  unfold lead at hbounded ⊢
  split
  · exact long_start
  split
  · exact long_start
  split
  · rename_i hlow hhigh
    rw [if_neg (by omega), if_neg hlow, if_pos hhigh] at hbounded
    refine ⟨hbounded, ?_, ?_⟩
    · intro n hn
      obtain rfl : 0 = n := Nat.succ.inj hn
      dsimp only
      omega
    · intro n hn
      obtain rfl : 0 = n := Nat.succ.inj hn
      dsimp only
      omega
  split
  · rename_i hlow hhigh
    rw [if_neg (by omega), if_neg (by omega), if_neg hlow, if_pos hhigh] at hbounded
    refine ⟨hbounded, ?_, ?_⟩
    · intro n hn
      obtain rfl : 1 = n := Nat.succ.inj hn
      dsimp only
      split <;> omega
    · intro n hn
      obtain rfl : 1 = n := Nat.succ.inj hn
      dsimp only
      omega
  split
  · rename_i hlow hhigh
    rw [if_neg (by omega), if_neg (by omega), if_neg (by omega), if_neg hlow, if_pos hhigh] at hbounded
    refine ⟨hbounded, ?_, ?_⟩
    · intro n hn
      obtain rfl : 2 = n := Nat.succ.inj hn
      dsimp only
      split <;> omega
    · intro n hn
      obtain rfl : 2 = n := Nat.succ.inj hn
      dsimp only
      omega
  · exact long_start

theorem mem_units {n : Nat} (hlo : 0x80 ≤ n) (hhi : n < 0x140000) {u : UInt16} (h : u ∈ units n) : 0x80 ≤ u.toNat := by
  have hvalue : ∀ m < 0x10000, (UInt16.ofNat m).toNat = m := fun m hm => UInt16.toNat_ofNat_of_lt hm
  unfold units at h
  split at h
  · rename_i hsmall
    obtain rfl := List.mem_singleton.mp h
    rw [hvalue n hsmall]
    exact hlo
  · rcases List.mem_pair.mp h with rfl | rfl
    · rw [hvalue _ (by omega)]
      omega
    · rw [hvalue _ (by omega)]
      omega

theorem mem_lead {b : Nat} {u : UInt16} (h : u ∈ (lead b).1) (hu : u.toNat < 0x80) : u.toNat = b := by
  have hreplaced : ∀ {s : JsString}, s = [replacement] → u ∉ s := by
    rintro s rfl hmem
    obtain rfl := List.mem_singleton.mp hmem
    exact absurd hu (by decide)
  unfold lead at h
  split at h
  · obtain rfl := List.mem_singleton.mp h
    exact UInt16.toNat_ofNat_of_lt (show b < 0x10000 by omega)
  split at h
  · exact absurd h (hreplaced rfl)
  split at h
  · cases h
  split at h
  · cases h
  split at h
  · cases h
  · exact absurd h (hreplaced rfl)

/-- One octet: a unit of ASCII is that octet. -/
theorem long_step {q : State} (hq : Long q) (b : Nat) :
    Long (step q b).2 ∧ ∀ u ∈ (step q b).1, u.toNat < 0x80 → u.toNat = b := by
  unfold step
  split
  · exact ⟨long_lead b, fun u hu hsmall => mem_lead hu hsmall⟩
  · rename_i n hneed
    have hleast := hq.least n hneed
    have hgreatest := hq.greatest n hneed
    have hqlo := hq.bounded.lo
    have hqhi := hq.bounded.hi
    split
    · rename_i hin
      dsimp only
      split
      · refine ⟨long_start, fun u hu hsmall => ?_⟩
        rw [Nat.pow_zero, Nat.mul_one] at hleast
        rw [Nat.zero_add, Nat.pow_one] at hgreatest
        have hlo : 0x80 ≤ q.acc * 0x40 + (b - 0x80) := by omega
        have hhi : q.acc * 0x40 + (b - 0x80) < 0x140000 := by omega
        dsimp only at hu
        exact absurd (mem_units hlo hhi hu) (Nat.not_le.mpr hsmall)
      · rename_i m
        rw [Nat.succ_eq_add_one] at hleast hgreatest
        refine ⟨⟨⟨Nat.le_refl _, Nat.le_refl _⟩, ?_, ?_⟩, fun u hu => by cases hu⟩
        · intro k hk
          obtain rfl : m = k := Nat.succ.inj hk
          dsimp only
          have hpow : (q.acc * 0x40 + (b - 0x80)) * 0x40 ^ (m + 1) = (q.acc * 0x40 + (b - 0x80)) * 0x40 * 0x40 ^ m := by
            rw [Nat.pow_succ, Nat.mul_comm (0x40 ^ m), Nat.mul_assoc]
          have hmono : (q.acc * 0x40 + (q.lo - 0x80)) * 0x40 ^ (m + 1) ≤ (q.acc * 0x40 + (b - 0x80)) * 0x40 ^ (m + 1) :=
            Nat.mul_le_mul_right _ (by omega)
          rw [Nat.sub_self, Nat.add_zero, ← hpow]
          omega
        · intro k hk
          obtain rfl : m = k := Nat.succ.inj hk
          dsimp only
          have hpow : (q.acc + 1) * 0x40 ^ (m + 1 + 1) = (q.acc + 1) * 0x40 * 0x40 ^ (m + 1) := by
            rw [Nat.pow_succ (n := 0x40) (m := m + 1), Nat.mul_comm (0x40 ^ (m + 1)), Nat.mul_assoc]
          have hmono : (q.acc * 0x40 + (b - 0x80) + 1) * 0x40 ^ (m + 1) ≤ (q.acc + 1) * 0x40 * 0x40 ^ (m + 1) :=
            Nat.mul_le_mul_right _ (by omega)
          omega
    · refine ⟨long_lead b, fun u hu hsmall => ?_⟩
      rcases List.mem_cons.mp hu with rfl | hu
      · exact absurd hsmall (by decide)
      · exact mem_lead hu hsmall

/-- A unit of ASCII comes from its octet. -/
theorem mem_decodeFrom {q : State} (hq : Long q) {bs : Bytes} {u : UInt16} (h : u ∈ decodeFrom q bs)
    (hu : u.toNat < 0x80) : ∃ b ∈ bs, b.toNat = u.toNat := by
  induction bs generalizing q with
  | nil =>
      rw [decodeFrom] at h
      split at h
      · cases h
      · obtain rfl := List.mem_singleton.mp h
        exact absurd hu (by decide)
  | cons b bs ih =>
      obtain ⟨hnext, hstep⟩ := long_step hq b.toNat
      rcases List.mem_append.mp h with h | h
      · exact ⟨b, List.mem_cons_self, (hstep u h hu).symm⟩
      · obtain ⟨c, hc, hvalue⟩ := ih hnext h
        exact ⟨c, List.mem_cons_of_mem _ hc, hvalue⟩

/-- An ASCII character that is decoded was an octet. -/
theorem mem_decode {bs : Bytes} {u : UInt16} (h : u ∈ decode bs) (hu : u.toNat < 0x80) : ∃ b ∈ bs, b.toNat = u.toNat :=
  mem_decodeFrom long_start h hu

/-! ### Valid octets -/

/-- The octets of well-formed strings joined are their octets joined. -/
theorem encode_flatten {ss : List JsString} (h : ∀ s ∈ ss, WellFormed s) :
    encode ss.flatten = (ss.map encode).flatten := by
  induction ss with
  | nil => rfl
  | cons s ss ih =>
      rw [List.forall_mem_cons] at h
      rw [List.flatten_cons, List.map_cons, List.flatten_cons, encode_append h.1, ih h.2]

theorem wellFormed_flatten {ss : List JsString} (h : ∀ s ∈ ss, WellFormed s) : WellFormed ss.flatten := by
  induction ss with
  | nil => exact .nil
  | cons s ss ih =>
      rw [List.forall_mem_cons] at h
      exact h.1.append (ih h.2)

/-- A strict decoding of two parts goes on from the first. -/
theorem decodeFatalFrom_append {q : State} {xs ys : Bytes} {s : JsString} (h : decodeFatalFrom q (xs ++ ys) = some s) :
    ∃ t, decodeFatalFrom (after q xs) ys = some t ∧ s = emitted q xs ++ t := by
  induction xs generalizing q s with
  | nil => exact ⟨s, h, rfl⟩
  | cons x xs ih =>
      rw [List.cons_append, decodeFatalFrom] at h
      split at h
      · obtain ⟨u, hu, rfl⟩ := Option.map_eq_some_iff.mp h
        obtain ⟨t, ht, rfl⟩ := ih hu
        exact ⟨t, ht, by rw [emitted, List.append_assoc]⟩
      · cases h

/-- A strict decoding that stands between two characters has accepted what it read. -/
theorem decodeFatalFrom_take {q : State} {xs ys : Bytes} {s : JsString} (h : decodeFatalFrom q (xs ++ ys) = some s)
    (hneed : (after q xs).need = 0) : decodeFatalFrom q xs = some (emitted q xs) := by
  induction xs generalizing q s with
  | nil =>
      have hneed : q.need = 0 := hneed
      rw [decodeFatalFrom, if_pos hneed]
      rfl
  | cons x xs ih =>
      rw [List.cons_append, decodeFatalFrom] at h
      split at h
      · rename_i haccepts
        obtain ⟨u, hu, rfl⟩ := Option.map_eq_some_iff.mp h
        rw [decodeFatalFrom_cons haccepts, ih hu hneed]
        rfl
      · cases h

theorem decodeFatalFrom_of_need_zero {q : State} (h : q.need = 0) (ys : Bytes) :
    decodeFatalFrom q ys = decodeFatalFrom .start ys := by
  cases ys with
  | nil => simp [decodeFatalFrom, h, State.start]
  | cons y ys =>
      have hstep : step q y.toNat = step .start y.toNat := by
        rw [step_start, step, h]
      have haccepts : accepts q y.toNat = accepts .start y.toNat := by
        simp only [accepts, h, State.start]
      rw [decodeFatalFrom, decodeFatalFrom, hstep, haccepts]

/-- UTF-8 cut between characters: both parts are the UTF-8 of a part of the text. -/
theorem encode_split {s : JsString} (hs : WellFormed s) {xs ys : Bytes} (h : encode s = xs ++ ys)
    (hneed : (after .start xs).need = 0) :
    ∃ t u, s = t ++ u ∧ WellFormed t ∧ WellFormed u ∧ xs = encode t ∧ ys = encode u := by
  have hfatal : decodeFatalFrom .start (xs ++ ys) = some s := h ▸ decodeFatal_encode hs
  obtain ⟨u, hu, hsplit⟩ := decodeFatalFrom_append hfatal
  rw [decodeFatalFrom_of_need_zero hneed] at hu
  obtain ⟨ht, hxs⟩ := decodeFatal_iff.mp (decodeFatalFrom_take hfatal hneed)
  obtain ⟨hu, hys⟩ := decodeFatal_iff.mp hu
  exact ⟨_, u, hsplit, ht, hu, hxs, hys⟩

/-- UTF-8 cut inside a character: the second part continues it. -/
theorem continues_of_encode {s : JsString} (hs : WellFormed s) {xs ys : Bytes} (h : encode s = xs ++ ys)
    (hneed : (after .start xs).need ≠ 0) : Continues (after .start xs) ys := by
  have hfatal : decodeFatalFrom .start (xs ++ ys) = some s := h ▸ decodeFatal_encode hs
  obtain ⟨u, hu, -⟩ := decodeFatalFrom_append hfatal
  refine ⟨hneed, ?_⟩
  obtain ⟨n, hn⟩ := Nat.exists_eq_succ_of_ne_zero hneed
  have hstate : after .start xs = { need := n + 1, lo := (after .start xs).lo, hi := (after .start xs).hi,
                                    acc := (after .start xs).acc } := by
    rw [← Nat.succ_eq_add_one, ← hn]
  rw [hstate] at hu
  obtain ⟨b, rest, hcons, hlo, hhi⟩ := decodeFatalFrom_some hu
  exact ⟨b, rest, hcons, hlo, hhi⟩

/-- The chunk holds whole characters: it is the UTF-8 of a text. -/
def Whole (chunk : Bytes) : Prop :=
  ∃ t, WellFormed t ∧ chunk = encode t

/-- Decoding the UTF-8 of a text chunk by chunk gives the text exactly where no chunk begins or ends inside a
    character. -/
theorem decodeChunks_eq_iff_whole {s : JsString} (hs : WellFormed s) {chunks : List Bytes}
    (h : chunks.flatten = encode s) : decodeChunks chunks = s ↔ ∀ c ∈ chunks, Whole c := by
  constructor
  · intro heq
    induction chunks generalizing s with
    | nil => nofun
    | cons c chunks ih =>
        rw [List.flatten_cons] at h
        rw [decodeChunks, List.flatMap_cons] at heq
        have hdecode : decode (c ++ chunks.flatten) = s := by rw [h, decode_encode hs]
        have hrest := replaced_decode_le_chunks chunks
        rw [decodeChunks] at hrest
        have hnot : ¬ Continues (after .start c) chunks.flatten := by
          intro hcont
          rcases decode_cut c chunks.flatten with ⟨-, hlt⟩ | ⟨hnot, -⟩
          · rw [hdecode, ← heq, replaced_append] at hlt
            omega
          · exact hnot hcont
        have hneed : (after .start c).need = 0 := by
          by_contra hneed
          exact hnot (continues_of_encode hs h.symm hneed)
        obtain ⟨t, u, rfl, ht, hu, rfl, htail⟩ := encode_split hs h.symm hneed
        rw [decode_encode ht] at heq
        rw [List.forall_mem_cons]
        exact ⟨⟨t, ht, rfl⟩, ih hu htail (List.append_cancel_left heq)⟩
  · intro hwhole
    obtain ⟨ts, hts, rfl⟩ : ∃ ts : List JsString, (∀ t ∈ ts, WellFormed t) ∧ chunks = ts.map encode := by
      clear h
      induction chunks with
      | nil => exact ⟨[], nofun, rfl⟩
      | cons c chunks ih =>
          rw [List.forall_mem_cons] at hwhole
          obtain ⟨⟨t, ht, rfl⟩, hrest⟩ := hwhole
          obtain ⟨ts, hts, rfl⟩ := ih hrest
          exact ⟨t :: ts, List.forall_mem_cons.mpr ⟨ht, hts⟩, rfl⟩
    have hparts : decodeChunks (ts.map encode) = ts.flatten := by
      clear h hwhole
      induction ts with
      | nil => rfl
      | cons t ts ih =>
          rw [List.forall_mem_cons] at hts
          rw [List.map_cons, decodeChunks, List.flatMap_cons, decode_encode hts.1, List.flatten_cons]
          rw [decodeChunks] at ih
          rw [ih hts.2]
    rw [← encode_flatten hts] at h
    have hdecode := congrArg decode h
    rw [decode_encode (wellFormed_flatten hts), decode_encode hs] at hdecode
    rw [hparts, hdecode]

/-! ### What a cut makes of a text -/

/-- The second text is the first with some characters outside ASCII replaced, each by one or more replacement
    characters. -/
inductive Garbles : JsString → JsString → Prop where
  | nil : Garbles [] []
  | unit {u s t} : isHighSurrogate u = false → isLowSurrogate u = false → Garbles s t → Garbles (u :: s) (u :: t)
  | pair {u v s t} : isHighSurrogate u = true → isLowSurrogate v = true → Garbles s t →
      Garbles (u :: v :: s) (u :: v :: t)
  | lostUnit {u s t} (k : Nat) : isHighSurrogate u = false → isLowSurrogate u = false → 0x80 ≤ u.toNat → Garbles s t →
      Garbles (u :: s) (List.replicate (k + 1) replacement ++ t)
  | lostPair {u v s t} (k : Nat) : isHighSurrogate u = true → isLowSurrogate v = true → Garbles s t →
      Garbles (u :: v :: s) (List.replicate (k + 1) replacement ++ t)

namespace Garbles

theorem refl {s : JsString} (h : WellFormed s) : Garbles s s := by
  induction h with
  | nil => exact .nil
  | unit hu hl _ ih => exact .unit hu hl ih
  | pair hu hv _ ih => exact .pair hu hv ih

/-- What survives of two strings is what survives of each. -/
theorem append {s t s' t' : JsString} (h : Garbles s t) (h' : Garbles s' t') : Garbles (s ++ s') (t ++ t') := by
  induction h with
  | nil => exact h'
  | unit hu hl _ ih => exact .unit hu hl ih
  | pair hu hv _ ih => exact .pair hu hv ih
  | lostUnit k hu hl hbig _ ih =>
      rw [List.append_assoc]
      exact .lostUnit k hu hl hbig ih
  | lostPair k hu hv _ ih =>
      rw [List.append_assoc]
      exact .lostPair k hu hv ih

/-- A lost character. -/
theorem lost {n : Nat} (hn : Scalar n) (hbig : 0x80 ≤ n) (k : Nat) {s t : JsString} (h : Garbles s t) :
    Garbles (units n ++ s) (List.replicate (k + 1) replacement ++ t) := by
  rcases units_cases hn with ⟨u, hu, hhigh, hlow, rfl⟩ | ⟨u, v, huv, hhigh, hlow, -⟩
  · rw [hu]
    exact .lostUnit k hhigh hlow hbig h
  · rw [huv]
    exact .lostPair k hhigh hlow h

end Garbles

theorem mem_tail_encodePoint {n : Nat} {b : UInt8} (h : b ∈ (encodePoint n).tail) :
    0x80 ≤ b.toNat ∧ b.toNat ≤ 0xBF := by
  have hcont : ∀ m, (UInt8.ofNat (0x80 + m % 0x40)).toNat = 0x80 + m % 0x40 := fun m => toNat_ofNat_lt (by omega)
  unfold encodePoint at h
  split at h
  · simp at h
  split at h
  · obtain rfl := List.mem_singleton.mp h
    rw [hcont]
    omega
  split at h
  · simp only [List.tail_cons, List.mem_cons, List.not_mem_nil, or_false] at h
    rcases h with rfl | rfl <;> rw [hcont] <;> omega
  · simp only [List.tail_cons, List.mem_cons, List.not_mem_nil, or_false] at h
    rcases h with rfl | rfl | rfl <;> rw [hcont] <;> omega

/-- The continuation octets a first octet owes. -/
def owed (b : Nat) : Nat :=
  if b < 0xE0 then 1 else if b < 0xF0 then 2 else 3

/-- A leading octet owes the rest of its character. -/
theorem lead_owing {b : Nat} (hlo : 0xC2 ≤ b) (hhi : b < 0xF5) : (lead b).1 = [] ∧ (lead b).2.need = owed b := by
  unfold lead owed
  rw [if_neg (by omega), if_neg (by omega), if_pos hhi]
  split
  · exact ⟨rfl, rfl⟩
  · split
    · exact ⟨rfl, rfl⟩
    · exact ⟨rfl, rfl⟩

/-- The first octet of a longer character says how many follow. -/
theorem exists_lead_encodePoint {n : Nat} (hn : Scalar n) (hbig : 0x80 ≤ n) :
    ∃ b rest, encodePoint n = b :: rest ∧ 0xC2 ≤ b.toNat ∧ b.toNat < 0xF5 ∧ owed b.toNat = rest.length := by
  obtain ⟨hbound, -⟩ := hn
  unfold encodePoint
  rw [if_neg (by omega)]
  split
  · have hb : (UInt8.ofNat (0xC0 + n / 0x40)).toNat = 0xC0 + n / 0x40 := toNat_ofNat_lt (by omega)
    refine ⟨_, _, rfl, by omega, by omega, ?_⟩
    rw [hb, owed, if_pos (by omega)]
    rfl
  · split
    · have hb : (UInt8.ofNat (0xE0 + n / 0x1000)).toNat = 0xE0 + n / 0x1000 := toNat_ofNat_lt (by omega)
      refine ⟨_, _, rfl, by omega, by omega, ?_⟩
      rw [hb, owed, if_neg (by omega), if_pos (by omega)]
      rfl
    · have hb : (UInt8.ofNat (0xF0 + n / 0x40000)).toNat = 0xF0 + n / 0x40000 := toNat_ofNat_lt (by omega)
      refine ⟨_, _, rfl, by omega, by omega, ?_⟩
      rw [hb, owed, if_neg (by omega), if_neg (by omega)]
      rfl

/-- Fewer octets than are owed complete nothing. -/
theorem emitted_owing {q : State} {xs ys : Bytes} {s : JsString} (h : decodeFatalFrom q (xs ++ ys) = some s)
    (hlength : xs.length < q.need) : emitted q xs = [] ∧ (after q xs).need ≠ 0 := by
  induction xs generalizing q s with
  | nil => exact ⟨rfl, by simpa [after] using Nat.ne_of_gt hlength⟩
  | cons x xs ih =>
      rw [List.cons_append, decodeFatalFrom] at h
      split at h
      · rename_i haccepts
        obtain ⟨u, hu, rfl⟩ := Option.map_eq_some_iff.mp h
        rw [List.length_cons] at hlength
        obtain ⟨n, hn⟩ : ∃ n, q.need = n + 2 := ⟨q.need - 2, by omega⟩
        have hrange : q.lo ≤ x.toNat ∧ x.toNat ≤ q.hi := by
          simpa [accepts, hn] using haccepts
        have hstep : (step q x.toNat).1 = [] ∧ (step q x.toNat).2.need = n + 1 := by
          simp only [step, hn, if_pos hrange, and_self]
        obtain ⟨hemitted, hneed⟩ := ih hu (by omega)
        exact ⟨by rw [emitted, hstep.1, hemitted, List.append_nil], hneed⟩
      · cases h

/-- Some of the octets of a character, not all: they are replaced by one replacement character, the rest are
    continuation octets. -/
theorem decode_broken {n : Nat} (hn : Scalar n) {xs ys : Bytes} (h : encodePoint n = xs ++ ys) (hxs : xs ≠ [])
    (hys : ys ≠ []) : 0x80 ≤ n ∧ decode xs = [replacement] ∧ ∀ b ∈ ys, 0x80 ≤ b.toNat ∧ b.toNat ≤ 0xBF := by
  obtain ⟨x, xs, rfl⟩ := List.exists_cons_of_ne_nil hxs
  have hbig : 0x80 ≤ n := by
    by_contra hsmall
    rw [encodePoint, if_pos (by omega)] at h
    have hlength := congrArg List.length h
    have hpos := List.length_pos_of_ne_nil hys
    rw [List.length_singleton, List.length_append, List.length_cons] at hlength
    omega
  refine ⟨hbig, ?_, fun b hb => mem_tail_encodePoint (n := n) (by rw [h]; simp [hb])⟩
  obtain ⟨b, rest, hcons, hlo, hhi, howed⟩ := exists_lead_encodePoint hn hbig
  rw [hcons, List.cons_append] at h
  obtain ⟨rfl, rfl⟩ := List.cons.inj h
  have hfatal : decodeFatalFrom .start (encodePoint n ++ []) = some (units n ++ []) := by
    rw [decodeFatalFrom_encodePoint hn]
    rfl
  obtain ⟨hlead, hneed⟩ := lead_owing hlo hhi
  rw [List.append_nil, hcons, decodeFatalFrom] at hfatal
  split at hfatal
  · obtain ⟨u, hu, -⟩ := Option.map_eq_some_iff.mp hfatal
    rw [step_start] at hu
    have hpos := List.length_pos_of_ne_nil hys
    rw [List.length_append] at howed
    obtain ⟨hemitted, hafter⟩ := emitted_owing hu (by omega)
    rw [decode_eq_emitted, emitted, after, step_start, hlead, hemitted, flush, if_neg hafter]
    rfl
  · cases hfatal

/-- The octets of a text cut inside a character. -/
theorem exists_broken {s : JsString} (hs : WellFormed s) {xs ys : Bytes} (h : encode s = xs ++ ys)
    (hneed : (after .start xs).need ≠ 0) :
    ∃ t n u rest, s = t ++ (units n ++ u) ∧ WellFormed t ∧ Scalar n ∧ 0x80 ≤ n ∧ WellFormed u ∧
      decode xs = t ++ [replacement] ∧ ys = rest ++ encode u ∧ ∀ b ∈ rest, 0x80 ≤ b.toNat ∧ b.toNat ≤ 0xBF := by
  induction hlen : s.length using Nat.strongRecOn generalizing s xs with
  | ind len ih =>
      have hne : xs ≠ [] := by
        rintro rfl
        exact hneed rfl
      rcases wellFormed_cases hs with rfl | ⟨n, u, hn, rfl, hu⟩
      · exact absurd (List.append_eq_nil_iff.mp h.symm).1 hne
      · rw [encode_units hn] at h
        rcases List.append_eq_append_iff.mp h with ⟨zs, rfl, htail⟩ | ⟨zs, hhead, rfl⟩
        · have hfirst := emitted_encodePoint hn.1 hn.2
          have hafter : after .start (encodePoint n ++ zs) = after .start zs := by
            rw [after_append, hfirst.2]
          rw [hafter] at hneed
          have hshort : u.length < len := by
            rw [← hlen, List.length_append]
            have hpos : 0 < (units n).length := by
              unfold units
              split <;> simp
            omega
          obtain ⟨t, m, v, rest, rfl, ht, hm, hbig, hv, hdecode, hys, hrest⟩ := ih _ hshort hu htail hneed rfl
          refine ⟨units n ++ t, m, v, rest, by rw [List.append_assoc], wellFormed_units hn ht, hm, hbig, hv,
            ?_, hys, hrest⟩
          rw [decode_eq_emitted, emitted_append, hafter, hfirst.1, hfirst.2, List.append_assoc, ← decode_eq_emitted,
            hdecode, List.append_assoc]
        · by_cases hzs : zs = []
          · subst hzs
            rw [List.append_nil] at hhead
            rw [← hhead, (emitted_encodePoint hn.1 hn.2).2] at hneed
            exact absurd rfl hneed
          · obtain ⟨hbig, hdecode, hrest⟩ := decode_broken hn hhead hne hzs
            exact ⟨[], n, u, zs, rfl, .nil, hn, hbig, hu, hdecode, rfl, hrest⟩

/-- Chunks that hold some stray continuation octets and the UTF-8 of a text. -/
theorem garbles_of_stray (chunks : List Bytes) : ∀ {s : JsString} {stray : Bytes}, WellFormed s →
    chunks.flatten = stray ++ encode s → (∀ b ∈ stray, 0x80 ≤ b.toNat ∧ b.toNat ≤ 0xBF) →
    ∃ k t, decodeChunks chunks = List.replicate k replacement ++ t ∧ Garbles s t ∧ (stray = [] → k = 0) := by
  have hstray : ∀ {xs : Bytes}, (∀ b ∈ xs, 0x80 ≤ b.toNat ∧ b.toNat ≤ 0xBF) → ∀ ys,
      decode (xs ++ ys) = List.replicate xs.length replacement ++ decode ys := by
    intro xs hxs ys
    induction xs with
    | nil => rfl
    | cons x xs ih =>
        rw [List.forall_mem_cons] at hxs
        rw [List.cons_append, decode, decodeFrom_stray hxs.1.1 hxs.1.2, ← decode, ih hxs.2]
        rfl
  induction chunks with
  | nil =>
      intro s stray hs h _
      have hnil := (List.append_eq_nil_iff.mp h.symm).2
      have hlength := length_le_encode s
      rw [hnil] at hlength
      obtain rfl := List.length_eq_zero_iff.mp (Nat.le_zero.mp hlength)
      exact ⟨0, [], rfl, .nil, fun _ => rfl⟩
  | cons c chunks ih =>
      intro s stray hs h hcont
      rw [List.flatten_cons] at h
      rw [decodeChunks, List.flatMap_cons]
      rcases List.append_eq_append_iff.mp h with ⟨zs, rfl, htail⟩ | ⟨zs, rfl, htail⟩
      · -- the chunk ends among the stray octets
        rw [List.forall_mem_append] at hcont
        obtain ⟨k, t, hrest, hgarbles, hzero⟩ := ih hs htail hcont.2
        have hchunk := hstray hcont.1 []
        rw [List.append_nil, show decode [] = [] from rfl, List.append_nil] at hchunk
        rw [decodeChunks] at hrest
        refine ⟨c.length + k, t, by rw [hchunk, hrest, ← List.append_assoc, ← List.replicate_add], hgarbles,
          fun hnil => ?_⟩
        obtain ⟨rfl, hzs⟩ := List.append_eq_nil_iff.mp hnil
        rw [hzero hzs]
        rfl
      · -- the chunk reaches into the text
        rw [hstray hcont]
        by_cases hneed : (after .start zs).need = 0
        · obtain ⟨u, v, rfl, hu, hv, rfl, hys⟩ := encode_split hs htail hneed
          have hnone : ∀ b ∈ ([] : Bytes), 0x80 ≤ b.toNat ∧ b.toNat ≤ 0xBF := fun b hb => by cases hb
          obtain ⟨k, t, hrest, hgarbles, hzero⟩ := ih hv hys hnone
          rw [decodeChunks, hzero rfl] at hrest
          refine ⟨stray.length, u ++ t, ?_, (Garbles.refl hu).append hgarbles, fun hnil => by rw [hnil]; rfl⟩
          rw [decode_encode hu, hrest, List.append_assoc]
          rfl
        · obtain ⟨u, n, v, rest, rfl, hu, hn, hbig, hv, hdecode, hys, hrest⟩ := exists_broken hs htail hneed
          obtain ⟨k, t, hchunks, hgarbles, -⟩ := ih hv hys hrest
          rw [decodeChunks] at hchunks
          refine ⟨stray.length, u ++ (List.replicate (k + 1) replacement ++ t), ?_, ?_, fun hnil => by rw [hnil]; rfl⟩
          · rw [hdecode, hchunks, List.replicate_succ]
            simp
          · exact (Garbles.refl hu).append (.lost hn hbig _ hgarbles)

/-- Whatever the cuts, decoding the UTF-8 of a text chunk by chunk only garbles characters outside ASCII. -/
theorem garbles_decodeChunks {s : JsString} (hs : WellFormed s) {chunks : List Bytes} (h : chunks.flatten = encode s) :
    Garbles s (decodeChunks chunks) := by
  have hnone : ∀ b ∈ ([] : Bytes), 0x80 ≤ b.toNat ∧ b.toNat ≤ 0xBF := nofun
  obtain ⟨k, t, hdecode, hgarbles, hzero⟩ := garbles_of_stray chunks hs h hnone
  rw [hdecode, hzero rfl]
  exact hgarbles

end Utf8
