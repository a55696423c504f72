/-
Module: OwnerSwitch.Lib.Json
Layer: Lib
Purpose: JSON values as texts denote them. Numbers are decimals, which is what a numeral denotes; what double
  precision makes of it is `Double.ofDecimal`. An object is the list of its own properties in enumeration order,
  and `ofEntries` is the order a program gets by assigning entries one after another: array indices first,
  ascending, then the other keys by first insertion, the last value of a key winning.
Imports: JsMap, JsString
Trusted boundary: none
Main exports: Decimal, Json, Json.ofEntries, Json.get, Normal, ofEntries_eq_self, findEntry_ofEntries
Open obligations: none
-/
import Mathlib.Data.List.Sort
import Mathlib.Data.Nat.Digits.Lemmas
import OwnerSwitch.Lib.JsMap
import OwnerSwitch.Lib.JsString

/-! ### Numbers -/

/-- `mant / 10 ^ places`, in lowest terms. -/
structure Decimal where
  mant : Int
  places : Nat
  normal : places = 0 ∨ ¬ (10 : Int) ∣ mant
  deriving DecidableEq, Repr

namespace Decimal

/-- `d < t` -/
def before (d : Decimal) (t : Int) : Bool :=
  d.mant < t * 10 ^ d.places

/-- `d ≤ t` -/
def atMost (d : Decimal) (t : Int) : Bool :=
  d.mant ≤ t * 10 ^ d.places

/-- What is before a time is before a later one. -/
theorem before_mono {d : Decimal} {t u : Int} (h : d.before t = true) (htu : t ≤ u) : d.before u = true := by
  have hscale : t * 10 ^ d.places ≤ u * 10 ^ d.places := mul_le_mul_of_nonneg_right htu (by positivity)
  simp only [before, decide_eq_true_eq] at h ⊢
  omega

theorem before_of_atMost {d : Decimal} {t u : Int} (h : d.atMost t = true) (htu : t < u) : d.before u = true := by
  have hscale : t * 10 ^ d.places < u * 10 ^ d.places := mul_lt_mul_of_pos_right htu (by positivity)
  simp only [before, atMost, decide_eq_true_eq] at h ⊢
  omega

/-- No whole time is past `d` and not past `e`. -/
def Outlasts (d e : Decimal) : Prop :=
  ∀ t : Int, d.before t = true → e.before t = true

def ofInt (z : Int) : Decimal :=
  ⟨z, 0, .inl rfl⟩

instance : Inhabited Decimal :=
  ⟨ofInt 0⟩

/-- The decimal `m / 10 ^ p`. -/
def make (m : Int) : Nat → Decimal
  | 0 => ofInt m
  | p + 1 => if h : (10 : Int) ∣ m then make (m / 10) p else ⟨m, p + 1, .inr h⟩

/-- The integer it is, where it is one. -/
def toInt? (d : Decimal) : Option Int :=
  if d.places = 0 then some d.mant else none

@[simp] theorem toInt?_ofInt (z : Int) : (ofInt z).toInt? = some z :=
  rfl

theorem ofInt_injective {a b : Int} (h : ofInt a = ofInt b) : a = b :=
  congrArg mant h

/-- A decimal is made of its own mantissa and places. -/
theorem make_normal (d : Decimal) : make d.mant d.places = d := by
  obtain ⟨m, p, hp⟩ := d
  cases p with
  | zero => rfl
  | succ p => simp [make, hp.resolve_left (Nat.succ_ne_zero p)]

end Decimal

/-! ### Values -/

/-- A JSON value. -/
inductive Json where
  | null
  | bool (b : Bool)
  | num (d : Decimal)
  | str (s : JsString)
  | arr (xs : List Json)
  | obj (fs : List (JsString × Json))
  deriving Inhabited

namespace Json

/-- An own property of an object; other values have none that a program reads here. -/
def get (v : Json) (k : JsString) : Option Json :=
  match v with
  | obj fs => JsMap.findEntry fs k
  | _ => none

def str? : Json → Option JsString
  | str s => some s
  | _ => none

def num? : Json → Option Decimal
  | num d => some d
  | _ => none

def bool? : Json → Option Bool
  | bool b => some b
  | _ => none

/-- `Number.MAX_SAFE_INTEGER` -/
def maxSafeInteger : Int := 9007199254740991

/-- A value that is a number and a non-negative safe integer. -/
def safeNat? (v : Json) : Option Nat :=
  match v with
  | num d =>
      d.toInt?.bind fun z => if 0 ≤ z ∧ z ≤ maxSafeInteger then some z.toNat else none
  | _ => none

/-- The properties that are present: an absent one is not written. -/
def present (fs : List (JsString × Option Json)) : List (JsString × Json) :=
  fs.filterMap fun (k, v) => v.map (k, ·)

/-- The number a key denotes when it is an array index. -/
def arrayIndex (k : JsString) : Option Nat :=
  if k = [] ∨ k.any (fun u => u < 0x30 || 0x39 < u) then none
  else if k.head? = some 0x30 ∧ k ≠ [0x30] then none
  else
    let n := k.foldl (fun a u => a * 10 + (u.toNat - 0x30)) 0
    if n < 4294967295 then some n else none

/-- Whether a property is enumerated before another one assigned later. -/
def keyBefore {α : Type*} (a b : JsString × α) : Prop :=
  ∀ j ∈ arrayIndex b.1, ∃ i ∈ arrayIndex a.1, i ≤ j

instance {α : Type*} : DecidableRel (keyBefore (α := α)) := fun a b =>
  match h : arrayIndex b.1, h' : arrayIndex a.1 with
  | none, _ => isTrue (by simp [keyBefore, h])
  | some j, none => isFalse (by simp [keyBefore, h, h'])
  | some j, some i =>
      if hij : i ≤ j then isTrue (by simp [keyBefore, h, h', hij])
      else isFalse (by simp [keyBefore, h, h', hij])

/-- The properties of an object built by assigning `es` in order, as they are enumerated. -/
def ofEntries {α : Type*} (es : List (JsString × α)) : List (JsString × α) :=
  (JsMap.ofList es).entries.insertionSort keyBefore

section Entries

variable {α : Type*}

/-- Of two keys one is enumerated before the other. -/
theorem keyBefore_total (a b : JsString × α) : keyBefore a b ∨ keyBefore b a := by
  unfold keyBefore
  cases arrayIndex a.1 <;> cases arrayIndex b.1 <;> simp [Nat.le_total]

theorem keyBefore_trans {a b c : JsString × α} (hab : keyBefore a b) (hbc : keyBefore b c) :
    keyBefore a c := by
  intro k hk
  obtain ⟨j, hj, hjk⟩ := hbc k hk
  obtain ⟨i, hi, hij⟩ := hab j hj
  exact ⟨i, hi, hij.trans hjk⟩

instance : Std.Total (keyBefore (α := α)) := ⟨keyBefore_total⟩

instance : IsTrans (JsString × α) keyBefore := ⟨fun _ _ _ => keyBefore_trans⟩

/-- Building an object from entries reorders them, where each key stands once. -/
theorem ofEntries_perm {es : List (JsString × α)} (h : (es.map Prod.fst).Nodup) :
    (ofEntries es).Perm es := by
  rw [ofEntries, JsMap.entries_ofList h]
  exact List.perm_insertionSort _ _

theorem ofEntries_nodup {es : List (JsString × α)} (h : (es.map Prod.fst).Nodup) :
    ((ofEntries es).map Prod.fst).Nodup :=
  ((ofEntries_perm h).map _).nodup_iff.mpr h

/-- The properties of an object are enumerated in the order of their keys. -/
theorem ofEntries_sorted (es : List (JsString × α)) : (ofEntries es).Pairwise keyBefore :=
  List.pairwise_insertionSort _ _

/-- Entries with distinct keys that are already in enumeration order are enumerated as they stand. -/
theorem ofEntries_eq_of_sorted {es : List (JsString × α)} (h : (es.map Prod.fst).Nodup)
    (hs : es.Pairwise keyBefore) : ofEntries es = es := by
  rw [ofEntries, JsMap.entries_ofList h]
  exact hs.insertionSort_eq

/-- Building an object from its own properties changes nothing. -/
theorem ofEntries_ofEntries {es : List (JsString × α)} (h : (es.map Prod.fst).Nodup) :
    ofEntries (ofEntries es) = ofEntries es :=
  ofEntries_eq_of_sorted (ofEntries_nodup h) (ofEntries_sorted es)

/-- Without array indices the order is that of insertion. -/
theorem ofEntries_eq_self {es : List (JsString × α)} (h : (es.map Prod.fst).Nodup)
    (hk : ∀ k ∈ es.map Prod.fst, arrayIndex k = none) : ofEntries es = es := by
  refine ofEntries_eq_of_sorted h
    (List.Pairwise.imp_of_mem ?_ (List.pairwise_of_forall (R := fun _ _ => True) fun _ _ => trivial))
  intro a b _ hb _ j hj
  simp [hk b.1 (List.mem_map_of_mem hb)] at hj

/-- A property of the object is the entry of its name. -/
theorem findEntry_ofEntries {es : List (JsString × α)} (h : (es.map Prod.fst).Nodup) (k : JsString) :
    JsMap.findEntry (ofEntries es) k = JsMap.findEntry es k := by
  ext v
  rw [JsMap.findEntry_eq_some_iff (ofEntries_nodup h), JsMap.findEntry_eq_some_iff h,
    (ofEntries_perm h).mem_iff]

/-- Assigning the same properties again changes nothing. -/
theorem ofEntries_idem (es : List (JsString × α)) : ofEntries (ofEntries es) = ofEntries es := by
  have hmap : ofEntries es = ofEntries (JsMap.ofList es).entries := by
    rw [ofEntries, ofEntries, JsMap.ofList_entries]
  rw [hmap, ofEntries_ofEntries (JsMap.ofList es).nodup]

/-- A property of the object is the last entry of its name. -/
theorem findEntry_ofEntries_ofList (es : List (JsString × α)) (k : JsString) :
    JsMap.findEntry (ofEntries es) k = (JsMap.ofList es).get? k := by
  have hmap : ofEntries es = ofEntries (JsMap.ofList es).entries := by
    rw [ofEntries, ofEntries, JsMap.ofList_entries]
  rw [hmap, findEntry_ofEntries (JsMap.ofList es).nodup]
  rfl

/-- What assigning entries one after another keeps of them. -/
theorem ofEntries_append_perm (es : List (JsString × α)) : ∃ dropped, es.Perm (ofEntries es ++ dropped) := by
  have hsort : (ofEntries es).Perm (JsMap.ofList es).entries := List.perm_insertionSort keyBefore _
  have hnodup : (ofEntries es).Nodup := (hsort.nodup_iff).mpr (JsMap.ofList es).nodup.of_map
  have hsub : ofEntries es ⊆ es := fun e he =>
    JsMap.mem_of_get?_ofList (JsMap.get?_eq_some_iff.mpr (hsort.mem_iff.mp he))
  obtain ⟨kept, hperm, hkept⟩ := hnodup.subperm hsub
  obtain ⟨dropped, hdropped⟩ := hkept.exists_perm_append
  exact ⟨dropped, hdropped.trans (hperm.append_right dropped)⟩

/-- An object that is enumerated in its own order has each key once. -/
theorem nodup_of_ofEntries_eq {es : List (JsString × α)} (h : ofEntries es = es) : (es.map Prod.fst).Nodup := by
  rw [← h, ofEntries]
  exact ((List.perm_insertionSort keyBefore _).map _).nodup_iff.mpr (JsMap.ofList es).nodup

/-- A property of an object built from entries is one of the entries. -/
theorem mem_of_mem_ofEntries {es : List (JsString × α)} {e : JsString × α} (h : e ∈ ofEntries es) : e ∈ es := by
  have hfind := JsMap.findEntry_eq_some_iff (nodup_of_ofEntries_eq (ofEntries_idem es)) (k := e.1) (v := e.2)
  rw [findEntry_ofEntries_ofList] at hfind
  exact JsMap.mem_of_get?_ofList (hfind.mpr h)

/-- Changing the values of entries does not change how they are enumerated. -/
theorem ofEntries_map {β : Type*} (f : α → β) {es : List (JsString × α)} (h : (es.map Prod.fst).Nodup) :
    ofEntries (es.map fun e => (e.1, f e.2)) = (ofEntries es).map fun e => (e.1, f e.2) := by
  have hkeys : (es.map fun e => (e.1, f e.2)).map Prod.fst = es.map Prod.fst := by simp
  unfold ofEntries
  rw [JsMap.entries_ofList h, JsMap.entries_ofList (hkeys ▸ h)]
  exact (List.map_insertionSort keyBefore keyBefore (fun e : JsString × α => (e.1, f e.2)) es
    (fun _ _ _ _ => Iff.rfl)).symm

end Entries

/-- `{ ...v, ...gs }` of an object. -/
def assign (v : Json) (gs : List (JsString × Json)) : Json :=
  match v with
  | obj fs => obj (ofEntries (fs ++ gs))
  | v => v

/-! ### Objects with optional properties -/

theorem present_keys_sublist (fs : List (JsString × Option Json)) :
    ((present fs).map Prod.fst).Sublist (fs.map Prod.fst) := by
  induction fs with
  | nil => simp [present]
  | cons f fs ih =>
      obtain ⟨k, v⟩ := f
      cases v with
      | none => exact ih.trans (List.sublist_cons_self _ _)
      | some v => exact ih.cons_cons k

theorem present_all_contains {fs : List (JsString × Option Json)} {K : List JsString}
    (hks : fs.map Prod.fst = K) : (present fs).all (fun f => K.contains f.1) = true := by
  subst hks
  refine List.all_eq_true.mpr fun f hf => List.contains_iff_mem.mpr ?_
  exact (present_keys_sublist fs).subset (List.mem_map_of_mem hf)

/-- A property that may be absent is there where its value is. -/
theorem get_present {fs : List (JsString × Option Json)} {K : List JsString}
    (hks : fs.map Prod.fst = K) (h : K.Nodup) (k : JsString) :
    (obj (present fs)).get k = (JsMap.findEntry fs k).join := by
  subst hks
  show JsMap.findEntry (present fs) k = _
  ext v
  rw [JsMap.findEntry_eq_some_iff (h.sublist (present_keys_sublist fs)), Option.join_eq_some_iff,
    JsMap.findEntry_eq_some_iff h]
  simp only [present, List.mem_filterMap, Prod.exists, Option.map_eq_some_iff, Prod.mk.injEq]
  constructor
  · rintro ⟨k', v', hmem, w, rfl, rfl, rfl⟩
    exact hmem
  · intro hmem
    exact ⟨k, some v, hmem, v, rfl, rfl, rfl⟩

/-- Every object of the value is enumerated as it stands, which is what a parser returns. -/
inductive Normal : Json → Prop where
  | null : Normal .null
  | bool {b} : Normal (.bool b)
  | num {d} : Normal (.num d)
  | str {s} : Normal (.str s)
  | arr {xs} : (∀ x ∈ xs, Normal x) → Normal (.arr xs)
  | obj {fs} : ofEntries fs = fs → (∀ f ∈ fs, Normal f.2) → Normal (.obj fs)

/-- Assigning normal values keeps an object normal. -/
theorem normal_assign {fs gs : List (JsString × Json)} (h : Normal (.obj fs)) (hg : ∀ g ∈ gs, Normal g.2) :
    Normal ((obj fs).assign gs) := by
  cases h with
  | obj _ hf =>
      refine .obj (ofEntries_idem _) fun f hmem => ?_
      have hfind := JsMap.findEntry_eq_some_iff (nodup_of_ofEntries_eq (ofEntries_idem (fs ++ gs)))
        (k := f.1) (v := f.2)
      rw [findEntry_ofEntries_ofList] at hfind
      rcases List.mem_append.mp (JsMap.mem_of_get?_ofList (hfind.mpr hmem)) with hmem | hmem
      · exact hf _ hmem
      · exact hg _ hmem

/-- A property no later assignment touches. -/
theorem get_assign_of_not_mem {fs gs : List (JsString × Json)} (h : ofEntries fs = fs) {k : JsString}
    (hk : k ∉ gs.map Prod.fst) : ((obj fs).assign gs).get k = (obj fs).get k := by
  show JsMap.findEntry (ofEntries (fs ++ gs)) k = JsMap.findEntry fs k
  rw [findEntry_ofEntries_ofList, JsMap.get?_ofList_append_of_not_mem hk, JsMap.get?,
    JsMap.entries_ofList (nodup_of_ofEntries_eq h)]

/-- A property a later assignment sets. -/
theorem get_assign_of_mem {fs gs : List (JsString × Json)} {k : JsString} (hk : k ∈ gs.map Prod.fst) :
    ∃ v, ((obj fs).assign gs).get k = some v ∧ (k, v) ∈ gs := by
  obtain ⟨v, hget, hmem⟩ := JsMap.get?_ofList_append_of_mem fs hk
  refine ⟨v, ?_, hmem⟩
  show JsMap.findEntry (ofEntries (fs ++ gs)) k = _
  rw [findEntry_ofEntries_ofList, hget]

/-- A property is what the earlier object had, or one of the later assignments. -/
theorem get_assign {fs gs : List (JsString × Json)} (h : ofEntries fs = fs) (k : JsString) :
    ((obj fs).assign gs).get k = (obj fs).get k ∨ ∃ v, ((obj fs).assign gs).get k = some v ∧ (k, v) ∈ gs := by
  by_cases hk : k ∈ gs.map Prod.fst
  · exact .inr (get_assign_of_mem hk)
  · exact .inl (get_assign_of_not_mem h hk)

/-- An object whose keys are distinct and no array indices is enumerated as it stands. -/
theorem normal_obj {fs : List (JsString × Json)} {K : List JsString} (hks : fs.map Prod.fst = K) (h : K.Nodup)
    (hk : ∀ k ∈ K, arrayIndex k = none) (hv : ∀ f ∈ fs, Normal f.2) : Normal (.obj fs) := by
  subst hks
  exact .obj (ofEntries_eq_self h hk) hv

/-- An object written property by property, none of them an array index. -/
theorem normal_present {fs : List (JsString × Option Json)} {K : List JsString}
    (hks : fs.map Prod.fst = K) (h : K.Nodup) (hk : ∀ k ∈ K, arrayIndex k = none)
    (hv : ∀ f ∈ fs, ∀ v ∈ f.2, Normal v) : Normal (.obj (present fs)) := by
  subst hks
  have hsub := present_keys_sublist fs
  refine .obj (ofEntries_eq_self (h.sublist hsub) fun k hmem => hk k (hsub.subset hmem)) ?_
  intro f hf
  obtain ⟨⟨k, v⟩, hmem, hv'⟩ := List.mem_filterMap.mp hf
  obtain ⟨w, hw, rfl⟩ := Option.map_eq_some_iff.mp hv'
  exact hv _ hmem w hw

end Json
