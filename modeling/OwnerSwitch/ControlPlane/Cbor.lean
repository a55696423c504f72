/-
Module: OwnerSwitch.ControlPlane.Cbor
Layer: ControlPlane
Purpose: The strict CBOR decoder (cbor.ts): a reader over the bytes that counts items, one function for an item at a
  depth, and the entry points.
Imports: Lib.Json, Lib.JsonText, Lib.TextDecoder
Trusted boundary: none
Main exports: Cbor, CborValue, Reader, decodeItem, cborDecodeFirst, cborDecodeExact
Open obligations: none
-/
import OwnerSwitch.Lib.JsonText
import OwnerSwitch.Lib.TextDecoder

namespace OwnerSwitch

/-- A tree of values, its maps keyed by `κ`. -/
inductive Cbor (κ : Type) where
  | number (z : Int)
  | string (s : JsString)
  | bytes (bs : Bytes)
  | bool (b : Bool)
  | null
  | array (xs : List (Cbor κ))
  | object (es : List (κ × Cbor κ))
  deriving Inhabited

/-- What the decoder returns; an object is the list of its properties in enumeration order. -/
abbrev CborValue := Cbor JsString

namespace Cbor

def MAX_DEPTH : Nat := 8

def MAX_ITEMS : Nat := 1024

structure Reader where
  bytes : Bytes
  offset : Nat
  items : Nat
  deriving DecidableEq, Repr

/-- A step of the decoder; a throw keeps the reader as it stands. -/
abbrev ReaderM := EStateM JsString Reader

/-! ### Reader -/

def need (count : Nat) : ReaderM Unit := do
  let r ← get
  if r.offset + count > r.bytes.length then throw (js "CBOR: truncated input")

def u8 : ReaderM Nat := do
  need 1
  let r ← get
  set { r with offset := r.offset + 1 }
  return (r.bytes.getD r.offset 0).toNat

def take (count : Nat) : ReaderM Bytes := do
  need count
  let r ← get
  set { r with offset := r.offset + count }
  return (r.bytes.drop r.offset).take count

def countItem : ReaderM Unit := do
  modify fun r => { r with items := r.items + 1 }
  if (← get).items > MAX_ITEMS then throw (js "CBOR: too many items")

/-- Octets as a number, the most significant first. -/
def bigEndian (bs : Bytes) : Nat :=
  bs.foldl (fun n b => n * 0x100 + b.toNat) 0

/-- `readLength(reader, additional)` -/
def readLength (additional : Nat) : ReaderM Nat := do
  if additional < 24 then return additional
  if additional = 24 then return (← u8)
  if additional = 25 then return bigEndian (← take 2)
  if additional = 26 then return bigEndian (← take 4)
  throw (js "CBOR: length encoding not in the accepted subset")

/-! ### Map keys -/

/-- `/^-?\d+$/.test(key)` -/
def spellsInteger (key : JsString) : Bool :=
  let digits := if key.head? = some 0x2D then key.tail else key
  digits ≠ [] && digits.all Json.isDigit

/-- A name whose assignment is hazardous on an ordinary object. -/
def pollutes (name : JsString) : Bool :=
  name = js "__proto__" || name = js "constructor" || name = js "prototype"

/-- `String(key)` of a number; an argument has at most twenty digits. -/
def decimal (z : Int) : JsString :=
  (if z < 0 then [0x2D] else []) ++ Json.natText z.natAbs

/-- The property a decoded key names. -/
def keyName : CborValue → ReaderM JsString
  | .string key =>
      if spellsInteger key then
        throw (js "CBOR: text map key " ++ Json.quote key ++ js " impersonates an integer label")
      else return key
  | .number z =>
      if z.natAbs ≤ Json.maxSafeInteger.natAbs then return decimal z
      else throw (js "CBOR: map keys must be text strings or integers")
  | _ => throw (js "CBOR: map keys must be text strings or integers")

/-- The checks of a name before it is assigned. -/
def freshName (name : JsString) (out : List (JsString × CborValue)) : ReaderM Unit := do
  if pollutes name then
    throw (js "CBOR: map key " ++ Json.quote name ++ js " is refused (prototype pollution)")
  if out.any fun e => e.1 = name then throw (js "CBOR: duplicate map key " ++ Json.quote name)

/-! ### Items -/

/-- The loop over the elements of an array. -/
def decodeElements (item : ReaderM CborValue) : Nat → ReaderM (List CborValue)
  | 0 => return []
  | count + 1 => do
      let x ← item
      let xs ← decodeElements item count
      return x :: xs

/-- The loop over the entries of a map, with those assigned so far. -/
def decodeEntries (item : ReaderM CborValue) (out : List (JsString × CborValue)) :
    Nat → ReaderM (List (JsString × CborValue))
  | 0 => return out
  | count + 1 => do
      let key ← item
      let name ← keyName key
      freshName name out
      let x ← item
      decodeEntries item (out ++ [(name, x)]) count

/-- The text of a text string. -/
def decodeText (raw : Bytes) : ReaderM CborValue :=
  match textDecode raw with
  | some s => return .string s
  | none => throw (js "The encoded data was not valid for encoding utf-8")

/-- What follows the initial byte, the item one level down being `item`. -/
def decodeBody (item : ReaderM CborValue) (major additional : Nat) : ReaderM CborValue :=
  match major with
  | 0 => do
      let n ← readLength additional
      return .number n
  | 1 => do
      let n ← readLength additional
      return .number (-1 - n)
  | 2 => do
      let raw ← take (← readLength additional)
      return .bytes raw
  | 3 => do
      let raw ← take (← readLength additional)
      decodeText raw
  | 4 => do
      let xs ← decodeElements item (← readLength additional)
      return .array xs
  | 5 => do
      let out ← decodeEntries item [] (← readLength additional)
      return .object (Json.ofEntries out)
  | 7 =>
      if additional = 20 then return .bool false
      else if additional = 21 then return .bool true
      else if additional = 22 then return .null
      else throw (js "CBOR: simple/float values are not in the accepted subset")
  | _ => throw (js "CBOR: tags are not in the accepted subset")

/-- `decodeItem(reader, depth)`, with the levels still allowed in place of the depth. -/
def decodeItem : Nat → ReaderM CborValue
  | 0 => throw (js "CBOR: nesting too deep")
  | levels + 1 => do
      countItem
      let initial ← u8
      if initial % 0x20 = 31 then throw (js "CBOR: indefinite lengths are refused")
      decodeBody (decodeItem levels) (initial / 0x20) (initial % 0x20)

/-- `decodeItem(reader, 0)` on a new reader. -/
def decodeRoot (bytes : Bytes) : EStateM.Result JsString Reader CborValue :=
  decodeItem (MAX_DEPTH + 1) { bytes, offset := 0, items := 0 }

end Cbor

structure CborDecodeResult where
  value : CborValue
  bytesRead : Nat

def cborDecodeFirst (bytes : Bytes) : Except JsString CborDecodeResult :=
  match Cbor.decodeRoot bytes with
  | .ok value reader => .ok { value, bytesRead := reader.offset }
  | .error err _ => .error err

def cborDecodeExact (bytes : Bytes) : Except JsString CborValue := do
  let { value, bytesRead } ← cborDecodeFirst bytes
  if bytesRead ≠ bytes.length then
    throw (js "CBOR: " ++ Json.natText (bytes.length - bytesRead) ++ js " trailing byte(s) after the value")
  return value

end OwnerSwitch
