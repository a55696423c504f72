/-
Module: OwnerSwitch.Lib.JsValue
Layer: Lib
Purpose: Values whose numbers are in double precision, as a program holds what it has parsed. A numeral is rounded
  when it is read; a number is written by the shortest decimal that is read as that number, and as null where it is
  not finite. What is written is therefore read as what is written again.
Imports: Lib.Double, Lib.JsonRoundTrip, Lib.JsonSame
Trusted boundary: a zero has no sign
Main exports: Decimal.value, Double.shortest, nearest_shortest, JsValue, JsValue.toJson, JsValue.ofJson,
  toJson_ofJson, safeNat?
Open obligations: none
-/
import OwnerSwitch.Lib.Double
import OwnerSwitch.Lib.JsonRoundTrip
import OwnerSwitch.Lib.JsonSame

/-! ### The number a decimal is -/

namespace Decimal

def value (d : Decimal) : ℚ :=
  d.mant / 10 ^ d.places

/-- Cancelling powers of ten does not change a decimal. -/
theorem value_make (m : Int) (p : Nat) : (make m p).value = m / 10 ^ p := by
  induction p generalizing m with
  | zero => rfl
  | succ p ih =>
      unfold make
      split_ifs with hten
      · obtain ⟨k, rfl⟩ := hten
        rw [ih, Int.mul_ediv_cancel_left _ (by decide), Int.cast_mul, pow_succ']
        exact (mul_div_mul_left _ _ (by norm_num)).symm
      · rfl

/-- `s * 10 ^ g` -/
def scaled (s g : Int) : Decimal :=
  if 0 ≤ g then .ofInt (s * 10 ^ g.toNat) else .make s (-g).toNat

theorem value_scaled (s g : Int) : (scaled s g).value = s * 10 ^ g := by
  unfold scaled
  split_ifs with hg
  · obtain ⟨n, rfl⟩ := Int.eq_ofNat_of_zero_le hg
    simp [value, ofInt]
  · obtain ⟨n, hn⟩ := Int.eq_ofNat_of_zero_le (show 0 ≤ -g by omega)
    obtain rfl : g = -(n : Int) := by omega
    rw [value_make]
    simp [div_eq_mul_inv]

end Decimal

namespace Double

/-- The number a numeral is read as. -/
def ofDecimal (d : Decimal) : Double :=
  .ofRat d.value

/-! ### The decimal a number is written by -/

/-- A multiple of a power of ten is read as `q`. -/
def readsAs (q : ℚ) (g s : Int) : Bool :=
  nearest (s * 10 ^ g) = q

/-- The multiple of a power of ten that is read as `q`; where there are two, the nearest. -/
def candidate (q : ℚ) (g : Int) : Option Decimal :=
  let low := ⌊q / 10 ^ g⌋
  if readsAs q g low && readsAs q g (low + 1) then some (.scaled (roundEven (q / 10 ^ g)) g)
  else if readsAs q g low then some (.scaled low g)
  else if readsAs q g (low + 1) then some (.scaled (low + 1) g)
  else none

/-- The decimal with the fewest digits that is read as `q`; seventeen are enough. -/
def shortest (q : ℚ) : Decimal :=
  ((List.range' 1 17).findSome? fun digits : Nat => candidate q (Int.log 10 |q| + 1 - digits)).getD (.ofInt 0)

/-- `String(value)` of a number. -/
def text : Double → JsString
  | .nan => js "NaN"
  | .inf negative => if negative then js "-Infinity" else js "Infinity"
  | .finite q _ => Json.numText (shortest q)

variable {q : ℚ} {g : Int}

/-- A candidate is read as the number it was found for. -/
theorem nearest_candidate {d : Decimal} (h : candidate q g = some d) : nearest d.value = q := by
  unfold candidate at h
  dsimp only at h
  split_ifs at h with hboth hlow hhigh
  · obtain rfl := Option.some.inj h
    rw [Bool.and_eq_true] at hboth
    rw [Decimal.value_scaled]
    rcases roundEven_cases (q / 10 ^ g) with ⟨hround, -⟩ | ⟨hround, -⟩
    · rw [hround]
      exact of_decide_eq_true hboth.1
    · rw [hround]
      exact of_decide_eq_true hboth.2
  · obtain rfl := Option.some.inj h
    rw [Decimal.value_scaled]
    exact of_decide_eq_true hlow
  · obtain rfl := Option.some.inj h
    rw [Decimal.value_scaled]
    exact of_decide_eq_true hhigh

/-- What a multiple is read as has a candidate. -/
theorem candidate_isSome (h : readsAs q g (roundEven (q / 10 ^ g)) = true) : (candidate q g).isSome = true := by
  unfold candidate
  dsimp only
  rcases roundEven_cases (q / 10 ^ g) with ⟨hround, -⟩ | ⟨hround, -⟩
  · rw [hround] at h
    rw [h]
    cases readsAs q g (⌊q / 10 ^ g⌋ + 1) <;> rfl
  · rw [hround] at h
    rw [h]
    cases readsAs q g ⌊q / 10 ^ g⌋ <;> rfl

/-- Seventeen digits tell a number from every other one. -/
theorem readsAs_seventeen (hq : Representable q) (hg : g = Int.log 10 |q| + 1 - 17) :
    readsAs q g (roundEven (q / 10 ^ g)) = true := by
  rcases eq_or_ne q 0 with rfl | hne
  · rw [zero_div, ← Int.cast_zero, roundEven_intCast, readsAs, Int.cast_zero, zero_mul, nearest_zero]
    rfl
  have hpos : (0 : ℚ) < 10 ^ g := by positivity
  have hfine : (10 : ℚ) ^ g * 10 ^ 16 ≤ |q| := by
    have hlog := Int.zpow_log_le_self (b := 10) (by decide) (abs_pos.mpr hne)
    have hexponent : Int.log 10 |q| = g + 16 := by omega
    rw [hexponent, zpow_add₀ (by norm_num)] at hlog
    exact_mod_cast hlog
  have herror : |roundEven (q / 10 ^ g) * 10 ^ g - q| ≤ 10 ^ g / 2 := by
    have hscaled : (roundEven (q / 10 ^ g) : ℚ) * 10 ^ g - q = (roundEven (q / 10 ^ g) - q / 10 ^ g) * 10 ^ g := by
      rw [sub_mul, div_mul_cancel₀ _ hpos.ne']
    rw [hscaled, abs_mul, abs_of_pos hpos]
    linarith [mul_le_mul_of_nonneg_right (roundEven_error (q / 10 ^ g)) hpos.le]
  apply decide_eq_true
  apply nearest_eq_of_close hq hne
  · have hlt := abs_lt_lastBit q
    linarith
  · intro hpower
    rw [hpower] at hfine
    linarith

/-- What is written is read as the number it was written for. -/
theorem nearest_shortest (hq : Representable q) : nearest (shortest q).value = q := by
  have hsome : ((List.range' 1 17).findSome? fun digits : Nat =>
      candidate q (Int.log 10 |q| + 1 - digits)).isSome = true := by
    rw [List.isSome_findSome?, List.any_eq_true]
    exact ⟨17, by decide, candidate_isSome (readsAs_seventeen hq rfl)⟩
  obtain ⟨d, hd⟩ := Option.isSome_iff_exists.mp hsome
  obtain ⟨digits, -, hcandidate⟩ := List.exists_of_findSome?_eq_some hd
  rw [shortest, hd, Option.getD_some]
  exact nearest_candidate hcandidate

/-- A number is read back from the decimal it is written by. -/
theorem ofDecimal_shortest (hq : Representable q) : ofDecimal (shortest q) = .finite q hq := by
  have hnearest := nearest_shortest hq
  obtain ⟨-, -, -, -, -, hbound⟩ := id hq
  unfold ofDecimal ofRat
  rw [dif_pos (by rwa [hnearest])]
  simp only [hnearest]

end Double

/-! ### Values -/

/-- A list that is a permutation of the values of another is the values of a permutation of it. -/
theorem exists_perm_of_map_perm {α β : Type*} {f : α → β} {l : List β} {xs : List α} (h : l.Perm (xs.map f)) :
    ∃ ys : List α, l = ys.map f ∧ ys.Perm xs := by
  have hcomp : Relation.Comp (fun ys zs => ys = List.map f zs) List.Perm l xs := by
    rw [List.eq_map_comp_perm]
    exact h
  exact hcomp

/-- A value of a program that was parsed, or can be. -/
inductive JsValue where
  | null
  | bool (b : Bool)
  | num (d : Double)
  | str (s : JsString)
  | arr (xs : List JsValue)
  | obj (fs : List (JsString × JsValue))
  deriving Inhabited

namespace JsValue

mutual

/-- What `JSON.stringify` writes for a value. -/
def toJson : JsValue → Json
  | .null => .null
  | .bool b => .bool b
  | .num (.finite q _) => .num (Double.shortest q)
  | .num _ => .null
  | .str s => .str s
  | .arr xs => .arr (itemsToJson xs)
  | .obj fs => .obj (fieldsToJson fs)

def itemsToJson : List JsValue → List Json
  | [] => []
  | x :: xs => toJson x :: itemsToJson xs

def fieldsToJson : List (JsString × JsValue) → List (JsString × Json)
  | [] => []
  | (k, x) :: fs => (k, toJson x) :: fieldsToJson fs

end

mutual

/-- What `JSON.parse` makes of what it reads. -/
def ofJson : Json → JsValue
  | .null => .null
  | .bool b => .bool b
  | .num d => .num (Double.ofDecimal d)
  | .str s => .str s
  | .arr xs => .arr (itemsOfJson xs)
  | .obj fs => .obj (fieldsOfJson fs)

def itemsOfJson : List Json → List JsValue
  | [] => []
  | x :: xs => ofJson x :: itemsOfJson xs

def fieldsOfJson : List (JsString × Json) → List (JsString × JsValue)
  | [] => []
  | (k, x) :: fs => (k, ofJson x) :: fieldsOfJson fs

end

/-- `JSON.parse` -/
def parse (text : JsString) : Option JsValue :=
  (Json.parse text).map ofJson

/-- A numeral that is read as a non-negative safe integer. -/
def safeNat? (v : Json) : Option Nat :=
  v.num?.bind fun d => (Double.ofDecimal d).safeNat?

theorem itemsToJson_eq_map (xs : List JsValue) : itemsToJson xs = xs.map toJson := by
  induction xs with
  | nil => rfl
  | cons x xs ih => rw [itemsToJson, ih, List.map_cons]

theorem fieldsToJson_eq_map (fs : List (JsString × JsValue)) : fieldsToJson fs = fs.map fun f => (f.1, toJson f.2) := by
  induction fs with
  | nil => rfl
  | cons f fs ih => rw [fieldsToJson, ih, List.map_cons]

/-! ### What is written is read -/

/-- A value whose numbers are written by their shortest decimals. -/
inductive Printed : Json → Prop where
  | null : Printed .null
  | bool (b : Bool) : Printed (.bool b)
  | num {q : ℚ} (rep : Double.Representable q) : Printed (.num (Double.shortest q))
  | str (s : JsString) : Printed (.str s)
  | arr {xs : List Json} (items : ∀ x ∈ xs, Printed x) : Printed (.arr xs)
  | obj {fs : List (JsString × Json)} (fields : ∀ f ∈ fs, Printed f.2) : Printed (.obj fs)

mutual

/-- What a value is written as has the shortest decimals of its numbers. -/
theorem printed_toJson : ∀ v : JsValue, Printed v.toJson
  | .null => .null
  | .bool b => .bool b
  | .num .nan => .null
  | .num (.inf _) => .null
  | .num (.finite _ hrep) => .num hrep
  | .str s => .str s
  | .arr xs => .arr (printed_itemsToJson xs)
  | .obj fs => .obj (printed_fieldsToJson fs)

theorem printed_itemsToJson : ∀ xs : List JsValue, ∀ x ∈ itemsToJson xs, Printed x
  | v :: _, _, .head _ => printed_toJson v
  | _ :: xs, x, .tail _ h => printed_itemsToJson xs x h

theorem printed_fieldsToJson : ∀ fs : List (JsString × JsValue), ∀ f ∈ fieldsToJson fs, Printed f.2
  | (_, v) :: _, _, .head _ => printed_toJson v
  | _ :: fs, f, .tail _ h => printed_fieldsToJson fs f h

end

/-- What was written is written again as it was. -/
theorem toJson_ofJson {v : Json} (h : Printed v) : (ofJson v).toJson = v := by
  induction h with
  | null => rfl
  | bool b => rfl
  | num hrep => rw [ofJson, Double.ofDecimal_shortest hrep, toJson]
  | str s => rfl
  | @arr xs hxs ih =>
      rw [ofJson, toJson]
      congr 1
      clear hxs
      induction xs with
      | nil => rfl
      | cons x xs ihs =>
          rw [itemsOfJson, itemsToJson, ih x (List.mem_cons_self ..), ihs]
          exact fun y hy => ih y (List.mem_cons_of_mem _ hy)
  | @obj fs hfs ih =>
      rw [ofJson, toJson]
      congr 1
      clear hfs
      induction fs with
      | nil => rfl
      | cons f fs ihs =>
          rw [fieldsOfJson, fieldsToJson, ih f (List.mem_cons_self ..), ihs]
          exact fun g hg => ih g (List.mem_cons_of_mem _ hg)

/-! ### Values up to the order of properties -/

mutual

/-- The two values differ at most in the order of the properties of their objects, and in single values that are alike. -/
inductive Same (alike : JsValue → JsValue → Prop) : JsValue → JsValue → Prop where
  | single {v w : JsValue} (h : alike v w) : Same alike v w
  | arr {xs ys : List JsValue} (items : SameItems alike xs ys) : Same alike (.arr xs) (.arr ys)
  | obj {fs gs : List (JsString × JsValue)} (fields : SameFields alike fs gs) : Same alike (.obj fs) (.obj gs)

inductive SameItems (alike : JsValue → JsValue → Prop) : List JsValue → List JsValue → Prop where
  | nil : SameItems alike [] []
  | cons {x y : JsValue} {xs ys : List JsValue} (head : Same alike x y) (tail : SameItems alike xs ys) :
      SameItems alike (x :: xs) (y :: ys)

/-- The same names, each with the same value, in any order. -/
inductive SameFields (alike : JsValue → JsValue → Prop) :
    List (JsString × JsValue) → List (JsString × JsValue) → Prop where
  | nil : SameFields alike [] []
  | cons {k : JsString} {v w : JsValue} {fs gs rest : List (JsString × JsValue)} (order : gs.Perm ((k, w) :: rest))
      (head : Same alike v w) (tail : SameFields alike fs rest) : SameFields alike ((k, v) :: fs) gs

end

/-- What is written as null: null, and a number that is not finite. -/
inductive Void : JsValue → Prop where
  | null : Void .null
  | num {d : Double} (infinite : d.isFinite = false) : Void (.num d)

/-- Equal, or both written as null. -/
def Alike (v w : JsValue) : Prop :=
  v = w ∨ Void v ∧ Void w

/-- What is written as null. -/
theorem Void.toJson_eq {v : JsValue} (h : Void v) : v.toJson = .null := by
  cases h with
  | null => rfl
  | @num d infinite =>
      cases d with
      | nan => rfl
      | inf negative => rfl
      | finite q hq => cases infinite

/-! What a value is, from what it is written as. -/

/-- Only null and the numbers that are not finite are written as null. -/
theorem void_of_toJson {v : JsValue} (h : v.toJson = .null) : Void v := by
  cases v with
  | null => exact .null
  | num d =>
      cases d with
      | nan => exact .num rfl
      | inf negative => exact .num rfl
      | finite q hq => cases h
  | _ => cases h

theorem eq_bool_of_toJson {v : JsValue} {b : Bool} (h : v.toJson = .bool b) : v = .bool b := by
  cases v with
  | bool c => rw [Json.bool.inj h]
  | num d => cases d <;> cases h
  | _ => cases h

/-- A number is the one its decimal is read as. -/
theorem eq_num_of_toJson {v : JsValue} {d : Decimal} (h : v.toJson = .num d) : v = .num (Double.ofDecimal d) := by
  cases v with
  | num e =>
      cases e with
      | finite q hq => rw [← Json.num.inj h, Double.ofDecimal_shortest hq]
      | _ => cases h
  | _ => cases h

theorem eq_str_of_toJson {v : JsValue} {s : JsString} (h : v.toJson = .str s) : v = .str s := by
  cases v with
  | str t => rw [Json.str.inj h]
  | num d => cases d <;> cases h
  | _ => cases h

/-- Only an array is written as one. -/
theorem eq_arr_of_toJson {v : JsValue} {items : List Json} (h : v.toJson = .arr items) :
    ∃ xs, v = .arr xs ∧ xs.map toJson = items := by
  cases v with
  | arr xs => exact ⟨xs, rfl, (itemsToJson_eq_map xs).symm.trans (Json.arr.inj h)⟩
  | num d => cases d <;> cases h
  | _ => cases h

/-- Only an object is written as one. -/
theorem eq_obj_of_toJson {v : JsValue} {fields : List (JsString × Json)} (h : v.toJson = .obj fields) :
    ∃ fs, v = .obj fs ∧ (fs.map fun f => (f.1, toJson f.2)) = fields := by
  cases v with
  | obj fs => exact ⟨fs, rfl, (fieldsToJson_eq_map fs).symm.trans (Json.obj.inj h)⟩
  | num d => cases d <;> cases h
  | _ => cases h

mutual

/-- Values that are alike up to the order of properties are written so. -/
theorem same_toJson : ∀ {v w : JsValue}, Same Alike v w → Json.Same v.toJson w.toJson
  | v, _, .single (.inl rfl) => Json.Same.refl v.toJson
  | _, _, .single (.inr ⟨hv, hw⟩) => by
      rw [hv.toJson_eq, hw.toJson_eq]
      exact .null
  | _, _, .arr items => .arr (same_itemsToJson items)
  | _, _, .obj fields => .obj (same_fieldsToJson fields)

theorem same_itemsToJson : ∀ {xs ys : List JsValue}, SameItems Alike xs ys →
    Json.SameItems (itemsToJson xs) (itemsToJson ys)
  | _, _, .nil => .nil
  | _, _, .cons head tail => .cons (same_toJson head) (same_itemsToJson tail)

theorem same_fieldsToJson : ∀ {fs gs : List (JsString × JsValue)}, SameFields Alike fs gs →
    Json.SameFields (fieldsToJson fs) (fieldsToJson gs)
  | _, _, .nil => .nil
  | _, gs, @SameFields.cons _ k _ w _ _ rest order head tail => by
      have hperm : (fieldsToJson gs).Perm (fieldsToJson ((k, w) :: rest)) := by
        rw [fieldsToJson_eq_map, fieldsToJson_eq_map]
        exact order.map _
      exact .cons hperm (same_toJson head) (same_fieldsToJson tail)

end

mutual

/-- Values that are written alike up to the order of properties are so. -/
theorem same_of_toJson : ∀ {a b : Json}, Json.Same a b → ∀ {v w : JsValue}, v.toJson = a → w.toJson = b →
    Same Alike v w
  | _, _, .null, _, _, hv, hw => .single (.inr ⟨void_of_toJson hv, void_of_toJson hw⟩)
  | _, _, .bool _, _, _, hv, hw => .single (.inl ((eq_bool_of_toJson hv).trans (eq_bool_of_toJson hw).symm))
  | _, _, .num _, _, _, hv, hw => .single (.inl ((eq_num_of_toJson hv).trans (eq_num_of_toJson hw).symm))
  | _, _, .str _, _, _, hv, hw => .single (.inl ((eq_str_of_toJson hv).trans (eq_str_of_toJson hw).symm))
  | _, _, .arr items, _, _, hv, hw => by
      obtain ⟨xs, rfl, hxs⟩ := eq_arr_of_toJson hv
      obtain ⟨ys, rfl, hys⟩ := eq_arr_of_toJson hw
      exact .arr (sameItems_of_toJson items hxs hys)
  | _, _, .obj fields, _, _, hv, hw => by
      obtain ⟨fs, rfl, hfs⟩ := eq_obj_of_toJson hv
      obtain ⟨gs, rfl, hgs⟩ := eq_obj_of_toJson hw
      exact .obj (sameFields_of_toJson fields hfs hgs)

theorem sameItems_of_toJson : ∀ {as bs : List Json}, Json.SameItems as bs → ∀ {xs ys : List JsValue},
    xs.map toJson = as → ys.map toJson = bs → SameItems Alike xs ys
  | _, _, .nil, _, _, hxs, hys => by
      obtain rfl := List.map_eq_nil_iff.mp hxs
      obtain rfl := List.map_eq_nil_iff.mp hys
      exact .nil
  | _, _, .cons head tail, _, _, hxs, hys => by
      obtain ⟨x, xs, rfl, hx, hxs⟩ := List.map_eq_cons_iff.mp hxs
      obtain ⟨y, ys, rfl, hy, hys⟩ := List.map_eq_cons_iff.mp hys
      exact .cons (same_of_toJson head hx hy) (sameItems_of_toJson tail hxs hys)

theorem sameFields_of_toJson : ∀ {as bs : List (JsString × Json)}, Json.SameFields as bs →
    ∀ {fs gs : List (JsString × JsValue)}, (fs.map fun f => (f.1, toJson f.2)) = as →
      (gs.map fun g => (g.1, toJson g.2)) = bs → SameFields Alike fs gs
  | _, _, .nil, _, _, hfs, hgs => by
      obtain rfl := List.map_eq_nil_iff.mp hfs
      obtain rfl := List.map_eq_nil_iff.mp hgs
      exact .nil
  | _, _, .cons order head tail, _, gs, hfs, hgs => by
      obtain ⟨⟨k, v⟩, fs, rfl, hhead, htail⟩ := List.map_eq_cons_iff.mp hfs
      -- the properties are found in the order their written forms are
      obtain ⟨sorted, hsorted, hperm⟩ := exists_perm_of_map_perm (hgs ▸ order.symm)
      obtain ⟨⟨k', w⟩, rest, rfl, hhead', hrest⟩ := List.map_eq_cons_iff.mp hsorted.symm
      obtain ⟨hk, hv⟩ := Prod.mk.inj hhead
      obtain ⟨hk', hw⟩ := Prod.mk.inj hhead'
      obtain rfl : k = k' := hk.trans hk'.symm
      exact .cons hperm.symm (same_of_toJson head hv hw) (sameFields_of_toJson tail htail hrest)

end

/-- What is written tells values apart, but for the order of properties and what is written as null. -/
theorem same_toJson_iff {v w : JsValue} : Json.Same v.toJson w.toJson ↔ Same Alike v w :=
  ⟨fun h => same_of_toJson h rfl rfl, same_toJson⟩

/-- A value as a program holds it: each of its objects is enumerated in its own order. -/
structure Held where
  val : JsValue
  normal : Json.Normal val.toJson

end JsValue
