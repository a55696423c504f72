/-
Module: OwnerSwitch.ControlPlane.CborItems
Layer: ControlPlane
Purpose: The subset of CBOR that a registration uses, as data: its items, their encodings in any definite length form,
  the limits, and the value of the program that an item denotes.
Imports: ControlPlane.Cbor
Trusted boundary: none
Main exports: CborKey, CborData, IsHead, Encodes, CborData.Keyed, CborData.toValue, CborData.unmarked, Cbor.Same
Open obligations: none
-/
import OwnerSwitch.ControlPlane.Cbor

namespace OwnerSwitch

/-! ### Data -/

/-- A map key: an integer or a text. -/
inductive CborKey where
  | int (z : Int)
  | text (s : JsString)
  deriving DecidableEq

/-- A data item, whatever the forms of its lengths. -/
abbrev CborData := Cbor CborKey

namespace CborKey

/-- The key as an item. -/
def data : CborKey → CborData
  | int z => .number z
  | text s => .string s

/-- The name of the property it becomes. -/
def name : CborKey → JsString
  | int z => Cbor.decimal z
  | text s => s

/-- A text key that spells no integer and has none of the refused names. -/
def Allowed : CborKey → Prop
  | int _ => True
  | text s => Cbor.spellsInteger s = false ∧ Cbor.pollutes s = false

/-- The key without a byte order mark at its start. -/
def unmarked : CborKey → CborKey
  | int z => int z
  | text s => text (dropMark s)

end CborKey

namespace Cbor

variable {κ : Type}

/-! ### Limits -/

mutual

/-- Levels of nesting. -/
def height : Cbor κ → Nat
  | .array xs => heightAll xs + 1
  | .object es => heightEntries es + 1
  | _ => 1

def heightAll : List (Cbor κ) → Nat
  | [] => 0
  | x :: xs => max x.height (heightAll xs)

def heightEntries : List (κ × Cbor κ) → Nat
  | [] => 0
  | (_, x) :: es => max x.height (heightEntries es)

end

mutual

/-- Items in all, the keys of maps among them. -/
def items : Cbor κ → Nat
  | .array xs => itemsAll xs + 1
  | .object es => itemsEntries es + 1
  | _ => 1

def itemsAll : List (Cbor κ) → Nat
  | [] => 0
  | x :: xs => x.items + itemsAll xs

def itemsEntries : List (κ × Cbor κ) → Nat
  | [] => 0
  | (_, x) :: es => 1 + x.items + itemsEntries es

end

theorem heightAll_le_iff {xs : List (Cbor κ)} {n : Nat} : heightAll xs ≤ n ↔ ∀ x ∈ xs, x.height ≤ n := by
  induction xs with
  | nil => simp [heightAll]
  | cons x xs ih => rw [heightAll, Nat.max_le, List.forall_mem_cons, ih]

theorem heightEntries_le_iff {es : List (κ × Cbor κ)} {n : Nat} :
    heightEntries es ≤ n ↔ ∀ e ∈ es, e.2.height ≤ n := by
  induction es with
  | nil => simp [heightEntries]
  | cons e es ih => rw [heightEntries, Nat.max_le, List.forall_mem_cons, ih]

/-- Induction over a tree: what holds of the parts holds of the whole. -/
theorem induct {P : Cbor κ → Prop} (number : ∀ z, P (.number z)) (string : ∀ s, P (.string s))
    (bytes : ∀ bs, P (.bytes bs)) (bool : ∀ b, P (.bool b)) (null : P .null)
    (array : ∀ xs, (∀ x ∈ xs, P x) → P (.array xs)) (object : ∀ es, (∀ e ∈ es, P e.2) → P (.object es))
    (x : Cbor κ) : P x := by
  have hbounded : ∀ n (x : Cbor κ), x.height ≤ n → P x := by
    intro n
    induction n with
    | zero =>
        intro x hx
        cases x <;> simp [height] at hx
    | succ n ih =>
        intro x hx
        cases x with
        | number z => exact number z
        | string s => exact string s
        | bytes bs => exact bytes bs
        | bool b => exact bool b
        | null => exact null
        | array xs => exact array xs fun x hmem => ih x (heightAll_le_iff.mp (Nat.le_of_succ_le_succ hx) x hmem)
        | object es => exact object es fun e hmem => ih e.2 (heightEntries_le_iff.mp (Nat.le_of_succ_le_succ hx) e hmem)
  exact hbounded x.height x le_rfl

/-! ### Equality up to the order of entries -/

mutual

/-- The trees differ at most in the order of the entries of their maps. -/
def Same : Cbor κ → Cbor κ → Prop
  | .number z, .number w => z = w
  | .string s, .string t => s = t
  | .bytes bs, .bytes cs => bs = cs
  | .bool b, .bool c => b = c
  | .null, .null => True
  | .array xs, .array ys => SameAll xs ys
  | .object es, .object fs => es.length = fs.length ∧ SameEntries es fs
  | _, _ => False

def SameAll : List (Cbor κ) → List (Cbor κ) → Prop
  | [], [] => True
  | x :: xs, y :: ys => Same x y ∧ SameAll xs ys
  | _, _ => False

/-- Every entry has one of the same key and the same value on the other side. -/
def SameEntries : List (κ × Cbor κ) → List (κ × Cbor κ) → Prop
  | [], _ => True
  | (k, x) :: es, fs => (∃ y, (k, y) ∈ fs ∧ Same x y) ∧ SameEntries es fs

end

end Cbor

/-! ### Encodings -/

/-- The initial byte of an item with its argument, in any of the definite forms, the shortest or not. -/
inductive IsHead (major n : Nat) : Bytes → Prop where
  | direct : n < 24 → IsHead major n [UInt8.ofNat (major * 0x20 + n)]
  | long {info : Nat} {arg : Bytes} : (info, arg.length) ∈ [(24, 1), (25, 2), (26, 4)] → Cbor.bigEndian arg = n →
      IsHead major n (UInt8.ofNat (major * 0x20 + info) :: arg)

/-- The encodings of some items, one after the other. -/
inductive Concat {α : Type} (R : α → Bytes → Prop) : List α → Bytes → Prop where
  | nil : Concat R [] []
  | cons {x xs bs body} : R x bs → Concat R xs body → Concat R (x :: xs) (bs ++ body)

/-- The encodings of some entries, a key before its value. -/
inductive ConcatEntries (R : CborData → Bytes → Prop) : List (CborKey × CborData) → Bytes → Prop where
  | nil : ConcatEntries R [] []
  | cons {k x es key bs body} : R (CborKey.data k) key → R x bs → ConcatEntries R es body →
      ConcatEntries R ((k, x) :: es) (key ++ (bs ++ body))

/-- The octets are an encoding of the item. -/
inductive Encodes : CborData → Bytes → Prop where
  | nonneg {n : Nat} {h} : IsHead 0 n h → Encodes (.number n) h
  | negative {n : Nat} {h} : IsHead 1 n h → Encodes (.number (-1 - n)) h
  | bytes {bs h} : IsHead 2 bs.length h → Encodes (.bytes bs) (h ++ bs)
  | string {s h} : WellFormed s → IsHead 3 (Utf8.encode s).length h → Encodes (.string s) (h ++ Utf8.encode s)
  | array {xs h body} : IsHead 4 xs.length h → Concat Encodes xs body → Encodes (.array xs) (h ++ body)
  | object {es h body} : IsHead 5 es.length h → ConcatEntries Encodes es body → Encodes (.object es) (h ++ body)
  | bool {b : Bool} : Encodes (.bool b) [if b then 0xF5 else 0xF4]
  | null : Encodes .null [0xF6]

namespace CborData

/-- The keys of every map are distinct, and have a property. -/
inductive Keyed (p : CborKey → Prop) : CborData → Prop where
  | number {z} : Keyed p (.number z)
  | string {s} : Keyed p (.string s)
  | bytes {bs} : Keyed p (.bytes bs)
  | bool {b} : Keyed p (.bool b)
  | null : Keyed p .null
  | array {xs} : (∀ x ∈ xs, Keyed p x) → Keyed p (.array xs)
  | object {es} : (es.map Prod.fst).Nodup → (∀ e ∈ es, p e.1) → (∀ e ∈ es, Keyed p e.2) → Keyed p (.object es)

/-- Some text of the item, a key or not, begins with a byte order mark. -/
inductive Marked : CborData → Prop where
  | string {s} : s.head? = some byteOrderMark → Marked (.string s)
  | element {xs x} : x ∈ xs → Marked x → Marked (.array xs)
  | key {es e} : e ∈ es → Marked (CborKey.data e.1) → Marked (.object es)
  | entry {es e} : e ∈ es → Marked e.2 → Marked (.object es)

mutual

/-- The value of the program that the item denotes. -/
def toValue : CborData → CborValue
  | .number z => .number z
  | .string s => .string s
  | .bytes bs => .bytes bs
  | .bool b => .bool b
  | .null => .null
  | .array xs => .array (toValues xs)
  | .object es => .object (Json.ofEntries (toProperties es))

def toValues : List CborData → List CborValue
  | [] => []
  | x :: xs => toValue x :: toValues xs

def toProperties : List (CborKey × CborData) → List (JsString × CborValue)
  | [] => []
  | (k, x) :: es => (k.name, toValue x) :: toProperties es

end

mutual

/-- The item with every text less a byte order mark at its start. -/
def unmarked : CborData → CborData
  | .number z => .number z
  | .string s => .string (dropMark s)
  | .bytes bs => .bytes bs
  | .bool b => .bool b
  | .null => .null
  | .array xs => .array (unmarkedAll xs)
  | .object es => .object (unmarkedEntries es)

def unmarkedAll : List CborData → List CborData
  | [] => []
  | x :: xs => unmarked x :: unmarkedAll xs

def unmarkedEntries : List (CborKey × CborData) → List (CborKey × CborData)
  | [] => []
  | (k, x) :: es => (k.unmarked, unmarked x) :: unmarkedEntries es

end

end CborData

end OwnerSwitch
