/-
Module: OwnerSwitch.Honeytoken.Generate
Layer: Honeytoken
Purpose: The decoy values (generate.ts): a costume, the visible marker and a random body, with the public label
  derived from the value.
Imports: Lib.JsString
Trusted boundary: the random octets and SHA-256 are parameters
Main exports: HoneytokenKind, Honeytoken, generateHoneytoken
Open obligations: none
-/
import OwnerSwitch.Lib.JsString

namespace OwnerSwitch

/-- `HONEYTOKEN_KINDS` -/
inductive HoneytokenKind where
  | aws | stripe | openai | generic
  deriving DecidableEq, Repr

def HoneytokenKind.text : HoneytokenKind → JsString
  | .aws => js "aws"
  | .stripe => js "stripe"
  | .openai => js "openai"
  | .generic => js "generic"

/-- `CANARY_MARKER` -/
def canaryMarker : JsString := js "CANARY"

/-- `BASE32` -/
def base32 : JsString := js "ABCDEFGHIJKLMNOPQRSTUVWXYZ234567"

/-- `BODY_CHARS` -/
def HoneytokenKind.bodyChars : HoneytokenKind → Nat
  | .aws => 10
  | .stripe => 18
  | .openai => 42
  | .generic => 34

/-- `CANARY_ID_LENGTH` -/
def canaryIdLength : Nat := 12

/-- What is written before the marker. -/
def HoneytokenKind.costume : HoneytokenKind → JsString
  | .aws => js "AKIA"
  | .stripe => js "sk_live_"
  | .openai => js "sk-"
  | .generic => []

/-- `BASE32[octet % BASE32.length]` -/
def base32Unit (octet : UInt8) : UInt16 :=
  base32.getD (octet.toNat % base32.length) 0

/-- `randomBase32`, on the octets drawn. -/
def randomBase32 (draw : Bytes) : JsString :=
  draw.map base32Unit

/-- `labelFor` -/
def labelFor (sha256 : Bytes → Bytes) (value : JsString) : JsString :=
  ((sha256 (Utf8.encode (js "ownerswitch-honeytoken-id:" ++ value))).take canaryIdLength).map base32Unit

structure Honeytoken where
  kind : HoneytokenKind
  label : Option JsString
  canaryId : JsString
  core : JsString
  value : JsString
  deriving DecidableEq, Repr

/-- `generateHoneytoken`, with as many octets drawn as the kind's body takes. -/
def generateHoneytoken (sha256 : Bytes → Bytes) (kind : HoneytokenKind) (label : Option JsString)
    (draw : { bs : Bytes // bs.length = kind.bodyChars }) : Honeytoken :=
  let core := canaryMarker ++ randomBase32 draw.val
  let value := kind.costume ++ core
  { kind, label, canaryId := labelFor sha256 value, core, value }

/-! ### The shape of a value -/

/-- A unit of the alphabets: a capital letter, a digit, or one of the units of a costume. -/
def isTokenUnit (u : UInt16) : Bool :=
  (0x41 ≤ u && u ≤ 0x5A) || (0x30 ≤ u && u ≤ 0x39) || (js "sk_live_-").contains u

theorem isTokenUnit_base32Unit (octet : UInt8) : isTokenUnit (base32Unit octet) = true := by
  have hlen : base32.length = 32 := by decide +kernel
  have hall : ∀ i < 32, isTokenUnit (base32.getD i 0) = true := by decide +kernel
  rw [base32Unit, hlen]
  exact hall _ (Nat.mod_lt _ (by decide))

/-- Every unit of a value is of the alphabets. -/
theorem isTokenUnit_of_mem {sha256 : Bytes → Bytes} {kind : HoneytokenKind} {label : Option JsString}
    {draw : { bs : Bytes // bs.length = kind.bodyChars }} {u : UInt16}
    (h : u ∈ (generateHoneytoken sha256 kind label draw).value) : isTokenUnit u = true := by
  have hcostume : ∀ u ∈ kind.costume, isTokenUnit u = true := by
    cases kind <;> exact List.all_iff_forall_prop.mp (by decide +kernel)
  have hmarker : ∀ u ∈ canaryMarker, isTokenUnit u = true := List.all_iff_forall_prop.mp (by decide +kernel)
  simp only [generateHoneytoken, randomBase32, List.mem_append, List.mem_map] at h
  rcases h with h | h | ⟨octet, -, rfl⟩
  · exact hcostume u h
  · exact hmarker u h
  · exact isTokenUnit_base32Unit octet

/-- A value begins with a capital letter or with `s`. -/
theorem head_generated (sha256 : Bytes → Bytes) (kind : HoneytokenKind) (label : Option JsString)
    (draw : { bs : Bytes // bs.length = kind.bodyChars }) :
    ∃ c rest, (generateHoneytoken sha256 kind label draw).value = c :: rest ∧ c ∈ js "ACs" := by
  cases kind
  · exact ⟨0x41, _, rfl, by decide +kernel⟩
  · exact ⟨0x73, _, rfl, by decide +kernel⟩
  · exact ⟨0x73, _, rfl, by decide +kernel⟩
  · exact ⟨0x43, _, rfl, by decide +kernel⟩

/-- Every value shows the marker. -/
theorem marker_infix (sha256 : Bytes → Bytes) (kind : HoneytokenKind) (label : Option JsString)
    (draw : { bs : Bytes // bs.length = kind.bodyChars }) :
    canaryMarker <:+: (generateHoneytoken sha256 kind label draw).value :=
  ⟨kind.costume, randomBase32 draw.val, by simp [generateHoneytoken]⟩

end OwnerSwitch
