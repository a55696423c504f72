/-
Module: OwnerSwitch.Lib.JsonSame
Layer: Lib
Purpose: Equality of JSON values up to the order in which the properties of an object are enumerated, and the order of
  strings by code units that sorting them settles on.
Imports: Lib.Json
Trusted boundary: none
Main exports: Json.Same, JsString.le_total, JsString.le_trans, JsString.le_antisymm
Open obligations: none
-/
import OwnerSwitch.Lib.Json

/-! ### The order of strings -/

namespace JsString

/-- Of two strings one is not after the other. -/
theorem le_total (s t : JsString) : (le s t || le t s) = true := by
  induction s generalizing t with
  | nil => rfl
  | cons u s ih =>
      cases t with
      | nil => rfl
      | cons v t =>
          simp only [le, Bool.or_eq_true, Bool.and_eq_true, decide_eq_true_eq]
          by_cases hsame : u = v
          · subst hsame
            rcases (Bool.or_eq_true _ _).mp (ih t) with hst | hts
            · exact .inl (.inr ⟨rfl, hst⟩)
            · exact .inr (.inr ⟨rfl, hts⟩)
          · rcases UInt16.lt_or_lt_of_ne hsame with huv | hvu
            · exact .inl (.inl huv)
            · exact .inr (.inl hvu)

theorem le_trans {s t r : JsString} (hst : le s t = true) (htr : le t r = true) : le s r = true := by
  induction s generalizing t r with
  | nil => cases r <;> rfl
  | cons u s ih =>
      cases t with
      | nil => cases hst
      | cons v t =>
          cases r with
          | nil => cases htr
          | cons w r =>
              simp only [le, Bool.or_eq_true, Bool.and_eq_true, decide_eq_true_eq] at hst htr ⊢
              rcases hst with huv | ⟨rfl, hst⟩
              · rcases htr with hvw | ⟨rfl, -⟩
                · exact .inl (UInt16.lt_trans huv hvw)
                · exact .inl huv
              · rcases htr with huw | ⟨rfl, htr⟩
                · exact .inl huw
                · exact .inr ⟨rfl, ih hst htr⟩

/-- Strings neither of which is after the other are equal. -/
theorem le_antisymm {s t : JsString} (hst : le s t = true) (hts : le t s = true) : s = t := by
  induction s generalizing t with
  | nil =>
      cases t with
      | nil => rfl
      | cons => cases hts
  | cons u s ih =>
      cases t with
      | nil => cases hst
      | cons v t =>
          simp only [le, Bool.or_eq_true, Bool.and_eq_true, decide_eq_true_eq] at hst hts
          rcases hst with huv | ⟨rfl, hst⟩
          · rcases hts with hvu | ⟨rfl, -⟩
            · exact absurd huv (UInt16.lt_asymm hvu)
            · exact absurd huv (UInt16.lt_irrefl _)
          · rcases hts with huu | ⟨-, hts⟩
            · exact absurd huu (UInt16.lt_irrefl _)
            · rw [ih hst hts]

end JsString

namespace Json

/-! ### Values up to the order of properties -/

mutual

/-- The two values differ at most in the order of the properties of their objects. -/
inductive Same : Json → Json → Prop where
  | null : Same .null .null
  | bool (b : Bool) : Same (.bool b) (.bool b)
  | num (d : Decimal) : Same (.num d) (.num d)
  | str (s : JsString) : Same (.str s) (.str s)
  | arr {xs ys : List Json} (items : SameItems xs ys) : Same (.arr xs) (.arr ys)
  | obj {fs gs : List (JsString × Json)} (fields : SameFields fs gs) : Same (.obj fs) (.obj gs)

inductive SameItems : List Json → List Json → Prop where
  | nil : SameItems [] []
  | cons {x y : Json} {xs ys : List Json} (head : Same x y) (tail : SameItems xs ys) : SameItems (x :: xs) (y :: ys)

/-- The same names, each with the same value, in any order. -/
inductive SameFields : List (JsString × Json) → List (JsString × Json) → Prop where
  | nil : SameFields [] []
  | cons {k : JsString} {v w : Json} {fs gs rest : List (JsString × Json)} (order : gs.Perm ((k, w) :: rest))
      (head : Same v w) (tail : SameFields fs rest) : SameFields ((k, v) :: fs) gs

end

mutual

/-- A value is the same as itself. -/
theorem Same.refl : ∀ v : Json, Same v v
  | .null => .null
  | .bool b => .bool b
  | .num d => .num d
  | .str s => .str s
  | .arr xs => .arr (SameItems.refl xs)
  | .obj fs => .obj (SameFields.refl fs)

theorem SameItems.refl : ∀ xs : List Json, SameItems xs xs
  | [] => .nil
  | x :: xs => .cons (Same.refl x) (SameItems.refl xs)

theorem SameFields.refl : ∀ fs : List (JsString × Json), SameFields fs fs
  | [] => .nil
  | (_, v) :: fs => .cons (.refl _) (Same.refl v) (SameFields.refl fs)

end

/-- The order of the properties does not matter. -/
theorem SameFields.perm {fs gs hs : List (JsString × Json)} (h : SameFields fs gs) (hperm : gs.Perm hs) :
    SameFields fs hs := by
  cases h with
  | nil =>
      obtain rfl := List.nil_perm.mp hperm
      exact .nil
  | cons order head tail => exact .cons (hperm.symm.trans order) head tail

/-- A value as a JavaScript program holds it: each of its objects is enumerated in its own order. A number is what it
    denotes, so that `-0` is `0`. -/
structure Value where
  val : Json
  normal : Normal val

end Json
