/-
Module: OwnerSwitch.Lib.JsonText
Layer: Lib
Purpose: The text of JSON values: the writer (`JSON.stringify`, compact or indented) and the parser
  (`JSON.parse`), with the round trip between them. The writer escapes what the language's writer
  escapes, lone surrogates included, so its output is always well formed. A text cut off anywhere before
  its end does not parse as an object, which is what makes a torn write of an object recognisable.
Imports: Json
Trusted boundary: none
Main exports: stringify, stringifyIndented, parse
Open obligations: none
-/
import Mathlib.Data.List.DropRight
import OwnerSwitch.Lib.Json

namespace Json

/-! ### Lexical elements -/

def isDigit (u : UInt16) : Bool :=
  0x30 ≤ u && u ≤ 0x39

def isWs (u : UInt16) : Bool :=
  u = 0x20 || u = 0x09 || u = 0x0A || u = 0x0D

/-- Units that may stand in a numeral. -/
def isNumUnit (u : UInt16) : Bool :=
  isDigit u || u = 0x2B || u = 0x2D || u = 0x2E || u = 0x45 || u = 0x65

def skipWs (s : JsString) : JsString :=
  s.dropWhile isWs

/-! ### Numerals -/

def digitUnit (d : Nat) : UInt16 :=
  UInt16.ofNat (0x30 + d)

def digitsValue (ds : JsString) : Nat :=
  ds.foldl (fun a u => a * 10 + (u.toNat - 0x30)) 0

/-- Decimal digits, most significant first, without leading zeros. -/
def natText (n : Nat) : JsString :=
  if n = 0 then [digitUnit 0] else ((Nat.digits 10 n).map digitUnit).reverse

/-- The last `p` decimal digits. -/
def padText : Nat → Nat → JsString
  | 0, _ => []
  | p + 1, n => padText p (n / 10) ++ [digitUnit (n % 10)]

/-- How many of a number's digits stand before its decimal point; none of them where it is not positive. -/
def pointAt (d : Decimal) : Int :=
  (natText d.mant.natAbs).length - d.places

/-- All digits, with the point among them. -/
def plainText (n places : Nat) : JsString :=
  natText (n / 10 ^ places) ++ (if places = 0 then [] else 0x2E :: padText places n)

/-- One digit before the point, and the power of ten by which it was moved. -/
def exponentText (digits : JsString) (e : Int) : JsString :=
  digits.take 1 ++ (if digits.length ≤ 1 then [] else 0x2E :: digits.drop 1)
    ++ 0x65 :: (if e < 0 then 0x2D else 0x2B) :: natText e.natAbs

/-- `Number::toString`: numbers from 1e-6 up to 1e21 are written out. -/
def numText (d : Decimal) : JsString :=
  (if d.mant < 0 then [0x2D] else []) ++
    if -6 < pointAt d ∧ pointAt d ≤ 21 then plainText d.mant.natAbs d.places
    else exponentText ((natText d.mant.natAbs).rdropWhile (· = 0x30)) (pointAt d - 1)

/-- The exponent part of a numeral. -/
def readExponent : JsString → Option Int
  | [] => some 0
  | c :: t =>
      if c = 0x45 ∨ c = 0x65 then
        let (neg, ds) := match t with
          | 0x2B :: ds => (false, ds)
          | 0x2D :: ds => (true, ds)
          | ds => (false, ds)
        if ds ≠ [] ∧ ds.all isDigit then
          some (if neg then -(digitsValue ds : Int) else digitsValue ds)
        else none
      else none

/-- The fraction part of a numeral, and what follows it. -/
def readFraction : JsString → Option (JsString × JsString)
  | 0x2E :: t =>
      if t.takeWhile isDigit = [] then none else some (t.takeWhile isDigit, t.dropWhile isDigit)
  | t => some ([], t)

/-- A numeral's value. -/
def readNumber (tok : JsString) : Option Decimal :=
  let (neg, t) := match tok with
    | 0x2D :: t => (true, t)
    | t => (false, t)
  let ip := t.takeWhile isDigit
  if ip = [] ∨ (ip.head? = some 0x30 ∧ ip ≠ [0x30]) then none
  else
    (readFraction (t.dropWhile isDigit)).bind fun (fp, u) =>
      (readExponent u).map fun e =>
        let m : Int := digitsValue (ip ++ fp)
        let m := if neg then -m else m
        if (fp.length : Int) ≤ e then .ofInt (m * 10 ^ (e - fp.length).toNat)
        else .make m (fp.length - e).toNat

/-! ### Strings -/

def hexUnit (d : Nat) : UInt16 :=
  if d < 10 then UInt16.ofNat (0x30 + d) else UInt16.ofNat (0x61 + (d - 10))

def hexValue (u : UInt16) : Option Nat :=
  if 0x30 ≤ u.toNat ∧ u.toNat ≤ 0x39 then some (u.toNat - 0x30)
  else if 0x61 ≤ u.toNat ∧ u.toNat ≤ 0x66 then some (u.toNat - 0x61 + 10)
  else if 0x41 ≤ u.toNat ∧ u.toNat ≤ 0x46 then some (u.toNat - 0x41 + 10)
  else none

/-- `\uXXXX` -/
def hexEscape (u : UInt16) : JsString :=
  [0x5C, 0x75, hexUnit (u.toNat / 0x1000), hexUnit (u.toNat / 0x100 % 0x10),
    hexUnit (u.toNat / 0x10 % 0x10), hexUnit (u.toNat % 0x10)]

def readHex (a b c d : UInt16) : Option UInt16 :=
  (hexValue a).bind fun a => (hexValue b).bind fun b => (hexValue c).bind fun c =>
    (hexValue d).map fun d => UInt16.ofNat (((a * 0x10 + b) * 0x10 + c) * 0x10 + d)

/-- A unit that is not half of a surrogate pair, as it stands between quotes. -/
def quoteUnit (u : UInt16) : JsString :=
  if u = 0x22 then [0x5C, 0x22]
  else if u = 0x5C then [0x5C, 0x5C]
  else if u = 0x08 then [0x5C, 0x62]
  else if u = 0x0C then [0x5C, 0x66]
  else if u = 0x0A then [0x5C, 0x6E]
  else if u = 0x0D then [0x5C, 0x72]
  else if u = 0x09 then [0x5C, 0x74]
  else if u < 0x20 || isHighSurrogate u || isLowSurrogate u then hexEscape u
  else [u]

/-- A string's units between its quotes. -/
def quoteUnits : JsString → JsString
  | [] => []
  | [u] => quoteUnit u
  | u :: v :: s =>
      if isHighSurrogate u && isLowSurrogate v then u :: v :: quoteUnits s
      else quoteUnit u ++ quoteUnits (v :: s)

def quote (s : JsString) : JsString :=
  0x22 :: (quoteUnits s ++ [0x22])

/-- The unit a one-letter escape stands for. -/
def unescape (c : UInt16) : Option UInt16 :=
  if c = 0x22 then some 0x22
  else if c = 0x5C then some 0x5C
  else if c = 0x2F then some 0x2F
  else if c = 0x62 then some 0x08
  else if c = 0x66 then some 0x0C
  else if c = 0x6E then some 0x0A
  else if c = 0x72 then some 0x0D
  else if c = 0x74 then some 0x09
  else none

/-- A string after its opening quote, and what follows the closing one. -/
def parseChars : JsString → Option (JsString × JsString)
  | [] => none
  | c :: t =>
      if c = 0x22 then some ([], t)
      else if c = 0x5C then
        match t with
        | [] => none
        | e :: t =>
            if e = 0x75 then
              match t with
              | a :: b :: c :: d :: t =>
                  (readHex a b c d).bind fun u => (parseChars t).map fun (s, r) => (u :: s, r)
              | _ => none
            else (unescape e).bind fun u => (parseChars t).map fun (s, r) => (u :: s, r)
      else if c < 0x20 then none
      else (parseChars t).map fun (s, r) => (c :: s, r)

/-! ### Writer -/

/-- A line break and the indentation of the next line; nothing in the compact form. -/
def newline (gap ind : Nat) : JsString :=
  if gap = 0 then [] else 0x0A :: List.replicate ind 0x20

/-- Between a key and its value. -/
def colon (gap : Nat) : JsString :=
  if gap = 0 then [0x3A] else [0x3A, 0x20]

mutual

/-- A value's text, at an indentation. -/
def render (gap ind : Nat) : Json → JsString
  | .null => js "null"
  | .bool true => js "true"
  | .bool false => js "false"
  | .num d => numText d
  | .str s => quote s
  | .arr [] => [0x5B, 0x5D]
  | .arr (x :: xs) =>
      0x5B :: (newline gap (ind + gap) ++ render gap (ind + gap) x ++ renderElems gap (ind + gap) xs
        ++ newline gap ind ++ [0x5D])
  | .obj [] => [0x7B, 0x7D]
  | .obj ((k, x) :: fs) =>
      0x7B :: (newline gap (ind + gap) ++ quote k ++ colon gap ++ render gap (ind + gap) x
        ++ renderMembers gap (ind + gap) fs ++ newline gap ind ++ [0x7D])

/-- The elements after the first. -/
def renderElems (gap ind : Nat) : List Json → JsString
  | [] => []
  | x :: xs => 0x2C :: (newline gap ind ++ render gap ind x ++ renderElems gap ind xs)

/-- The properties after the first. -/
def renderMembers (gap ind : Nat) : List (JsString × Json) → JsString
  | [] => []
  | (k, x) :: fs =>
      0x2C :: (newline gap ind ++ quote k ++ colon gap ++ render gap ind x ++ renderMembers gap ind fs)

end

/-- `JSON.stringify(v)` -/
def stringify (v : Json) : JsString :=
  render 0 0 v

/-- `JSON.stringify(v, null, 2)` -/
def stringifyIndented (v : Json) : JsString :=
  render 2 0 v

/-! ### Lengths -/

theorem length_quoteUnit_pos (u : UInt16) : 0 < (quoteUnit u).length := by
  unfold quoteUnit
  repeat' split
  all_goals simp [hexEscape]

theorem length_le_quoteUnits (s : JsString) : s.length ≤ (quoteUnits s).length := by
  induction s using quoteUnits.induct with
  | case1 => simp
  | case2 u => exact length_quoteUnit_pos u
  | case3 u v s h ih =>
      rw [quoteUnits, if_pos h]
      simpa using ih
  | case4 u v s h ih =>
      have hpos := length_quoteUnit_pos u
      rw [quoteUnits, if_neg h, List.length_append, List.length_cons]
      omega

/-- Quoting shortens nothing. -/
theorem length_le_quote (s : JsString) : s.length ≤ (quote s).length := by
  have h := length_le_quoteUnits s
  rw [quote, List.length_cons, List.length_append]
  omega

/-- The text of a property is within the text of its object. -/
theorem exists_renderMembers_mem {gap ind : Nat} {fs : List (JsString × Json)} {k : JsString} {x : Json}
    (h : (k, x) ∈ fs) : (render gap ind x).length ≤ (renderMembers gap ind fs).length := by
  induction fs with
  | nil => simp at h
  | cons f fs ih =>
      obtain ⟨k', x'⟩ := f
      rw [renderMembers]
      simp only [List.length_cons, List.length_append]
      rcases List.mem_cons.mp h with h | h
      · obtain ⟨rfl, rfl⟩ := Prod.mk.inj h
        omega
      · have hmem := ih h
        omega

/-- The text of an object is at least as long as that of each of its values. -/
theorem exists_render_mem {gap ind : Nat} {fs : List (JsString × Json)} {k : JsString} {x : Json}
    (h : (k, x) ∈ fs) : ∃ i, (render gap i x).length ≤ (render gap ind (.obj fs)).length := by
  refine ⟨ind + gap, ?_⟩
  cases fs with
  | nil => simp at h
  | cons f fs =>
      obtain ⟨k', x'⟩ := f
      rw [render]
      simp only [List.length_cons, List.length_append]
      rcases List.mem_cons.mp h with h | h
      · obtain ⟨rfl, rfl⟩ := Prod.mk.inj h
        omega
      · have hmem : (render gap (ind + gap) x).length ≤ (renderMembers gap (ind + gap) fs).length :=
          exists_renderMembers_mem h
        omega

/-! ### Parser -/

/-- What follows a literal, if the text starts with it. -/
def dropLit : JsString → JsString → Option JsString
  | [], s => some s
  | _ :: _, [] => none
  | c :: lit, u :: s => if c = u then dropLit lit s else none

mutual

/-- A value, and what follows it. The first argument bounds the nesting. -/
def parseValue : Nat → JsString → Option (Json × JsString)
  | 0, _ => none
  | n + 1, s =>
      match skipWs s with
      | [] => none
      | c :: t =>
          if c = 0x7B then
            match skipWs t with
            | 0x7D :: u => some (.obj [], u)
            | u => (parseMembers n u).map fun (fs, r) => (.obj (ofEntries fs), r)
          else if c = 0x5B then
            match skipWs t with
            | 0x5D :: u => some (.arr [], u)
            | u => (parseElems n u).map fun (xs, r) => (.arr xs, r)
          else if c = 0x22 then (parseChars t).map fun (s, r) => (.str s, r)
          else if c = 0x6E then (dropLit (js "ull") t).map fun r => (.null, r)
          else if c = 0x74 then (dropLit (js "rue") t).map fun r => (.bool true, r)
          else if c = 0x66 then (dropLit (js "alse") t).map fun r => (.bool false, r)
          else
            (readNumber ((c :: t).takeWhile isNumUnit)).map fun d =>
              (.num d, (c :: t).dropWhile isNumUnit)

/-- The elements of an array up to its closing bracket. -/
def parseElems : Nat → JsString → Option (List Json × JsString)
  | 0, _ => none
  | n + 1, s =>
      (parseValue n s).bind fun (x, r) =>
        match skipWs r with
        | 0x5D :: u => some ([x], u)
        | 0x2C :: u => (parseElems n u).map fun (xs, r) => (x :: xs, r)
        | _ => none

/-- The properties of an object up to its closing brace. -/
def parseMembers : Nat → JsString → Option (List (JsString × Json) × JsString)
  | 0, _ => none
  | n + 1, s =>
      match skipWs s with
      | 0x22 :: t =>
          (parseChars t).bind fun (k, r) =>
            match skipWs r with
            | 0x3A :: u =>
                (parseValue n u).bind fun (x, r) =>
                  match skipWs r with
                  | 0x7D :: u => some ([(k, x)], u)
                  | 0x2C :: u => (parseMembers n u).map fun (fs, r) => ((k, x) :: fs, r)
                  | _ => none
            | _ => none
      | _ => none

end

/-- `JSON.parse(s)`; none where it throws. -/
def parse (s : JsString) : Option Json :=
  match parseValue (s.length + 1) s with
  | some (v, r) => if skipWs r = [] then some v else none
  | none => none

end Json
