/-
Module: OwnerSwitch.Gateway.CallIdentity
Layer: Gateway
Purpose: The text by which the components name a call: it is one text for values that differ in the order of their
  properties, the executor computes the same one, and the proxy's key of a call is made of it.
Imports: Gateway.VetoLane, Lib.Octets, Shared.CanonicalValue
Trusted boundary: SHA-256 is a parameter, taken to be injective
Main exports: Arguments, digestOf, identityKey, CanonicalLaw, canonical_law, infinite_amount_reads_as_null
Open obligations: none
-/
import OwnerSwitch.Gateway.VetoLane
import OwnerSwitch.Lib.Octets
import OwnerSwitch.Shared.CanonicalValue

namespace OwnerSwitch

open Json

/-- The arguments of a call: a record, enumerated in its own order. -/
structure Arguments where
  fields : List (JsString × JsValue)
  normal : Normal (JsValue.obj fields).toJson

/-- Missing arguments are read as none at all. -/
def argumentFields : Option Arguments → List (JsString × JsValue)
  | some args => args.fields
  | none => []

/-- `createHash("sha256").update(text).digest("hex")` -/
def digestOf (sha256 : Bytes → Bytes) (text : JsString) : JsString :=
  hexText (sha256 (Utf8.encode text))

/-- `callKey` of a call as the proxy holds it. -/
def identityKey (sha256 : Bytes → Bytes) (tool : JsString) (args : Option Arguments) : JsString :=
  digestOf sha256 (JsValue.canonicalJson (.obj [(js "tool", .str tool), (js "args", .obj (argumentFields args))]))

/-- A call with the arguments it may have, as it is written. -/
def callOf (agentId tool : JsString) (args : Option Arguments) : ToolCall :=
  ⟨agentId, tool, args.map fun args => (JsValue.obj args.fields).toJson⟩

section Identity

variable {sha256 : Bytes → Bytes}

/-- Texts of one digest are one text. -/
theorem digestOf_injective (h : Function.Injective sha256) {s t : JsString} (hs : WellFormed s) (ht : WellFormed t)
    (heq : digestOf sha256 s = digestOf sha256 t) : s = t := by
  have hoctets : Utf8.encode s = Utf8.encode t := h (hexText_injective heq)
  rw [← Utf8.decode_encode hs, hoctets, Utf8.decode_encode ht]

theorem normal_argumentFields (args : Option Arguments) : Normal (JsValue.obj (argumentFields args)).toJson := by
  cases args with
  | some args => exact args.normal
  | none =>
      apply Normal.obj
      · rfl
      · intro f hf
        cases hf

/-- What a call's key is the digest of. -/
def identityFields (tool : JsString) (args : Json) : List (JsString × Json) :=
  [(js "tool", .str tool), (js "args", args)]

theorem nodup_identityFields (tool : JsString) (args : Json) : ((identityFields tool args).map Prod.fst).Nodup := by
  show [js "tool", js "args"].Nodup
  decide

/-- A call's two names and values, as a normal value. -/
theorem normal_identityFields (tool : JsString) {args : Json} (h : Normal args) :
    Normal (.obj (identityFields tool args)) := by
  apply Normal.obj
  · apply ofEntries_eq_self
    · exact nodup_identityFields tool args
    · show ∀ k ∈ [js "tool", js "args"], arrayIndex k = none
      decide
  · intro f hf
    cases hf with
    | head => exact .str
    | tail _ hf =>
        cases hf with
        | head => exact h
        | tail _ hf => cases hf

theorem get_stable_identityFields {tool key : JsString} {args v : Json}
    (h : (Json.obj (identityFields tool args)).get key = some v) :
    (stable (.obj (identityFields tool args))).get key = some (stable v) := by
  rw [get_stable (nodup_identityFields tool args), h, Option.map_some]

/-- Two names and values are the same up to order only where both values are. -/
theorem same_identityFields_iff {tool tool' : JsString} {args args' : Json} (h : Normal args) (h' : Normal args') :
    Same (.obj (identityFields tool args)) (.obj (identityFields tool' args')) ↔ tool = tool' ∧ Same args args' := by
  constructor
  · intro hsame
    have hstable := stable_eq_of_same (normal_identityFields tool h) (normal_identityFields tool' h') hsame
    have htool : (stable (.obj (identityFields tool args))).get (js "tool") = some (stable (.str tool)) :=
      get_stable_identityFields rfl
    have hargs : (stable (.obj (identityFields tool args))).get (js "args") = some (stable args) :=
      get_stable_identityFields rfl
    rw [hstable] at htool hargs
    constructor
    · rw [get_stable_identityFields (v := .str tool') rfl, stable_str, stable_str] at htool
      exact (Json.str.inj (Option.some.inj htool)).symm
    · rw [get_stable_identityFields (v := args') rfl] at hargs
      exact same_of_stable_eq h h' (Option.some.inj hargs).symm
  · rintro ⟨rfl, hsame⟩
    exact .obj (.cons (.refl _) (.str tool) (.cons (.refl _) hsame .nil))

/-- What the proxy hashes is the canonical text of what the call is written as. -/
theorem identityKey_eq (tool : JsString) (args : Option Arguments) :
    identityKey sha256 tool args =
      digestOf sha256 (canonicalJson (.obj (identityFields tool (JsValue.obj (argumentFields args)).toJson))) := by
  have hnormal : Normal (JsValue.obj [(js "tool", .str tool), (js "args", .obj (argumentFields args))]).toJson :=
    normal_identityFields tool (normal_argumentFields args)
  rw [identityKey, JsValue.canonicalJson_toJson hnormal]
  rfl

/-- The key under which the veto lane keeps the window of a call. -/
theorem callKey_callOf (agentId tool : JsString) (args : Option Arguments) :
    callKey (digestOf sha256) (callOf agentId tool args) = identityKey sha256 tool args := by
  rw [identityKey_eq]
  cases args with
  | some args => rfl
  | none => rfl

/-- Calls are one call to the proxy exactly where their tools are equal and their arguments are alike. -/
theorem identityKey_eq_iff (hsha : Function.Injective sha256) (tool tool' : JsString) (args args' : Option Arguments) :
    identityKey sha256 tool args = identityKey sha256 tool' args' ↔
      tool = tool' ∧ JsValue.Same JsValue.Alike (.obj (argumentFields args)) (.obj (argumentFields args')) := by
  have hargs := normal_argumentFields args
  have hargs' := normal_argumentFields args'
  rw [identityKey_eq, identityKey_eq, ← JsValue.same_toJson_iff, ← same_identityFields_iff hargs hargs',
    ← canonicalJson_eq_iff (normal_identityFields tool hargs) (normal_identityFields tool' hargs')]
  constructor
  · exact digestOf_injective hsha (canonicalJson_wellFormed _) (canonicalJson_wellFormed _)
  · exact congrArg (digestOf sha256)

end Identity

/-! ### The law -/

/-- What canonical text is for: one text for one value, whoever computes it, and one key for one call. Two values that
    are written as null are not told apart, nor are two zeros. -/
structure CanonicalLaw (sha256 : Bytes → Bytes) : Prop where
  /-- The text is that of the value up to the order of properties. -/
  same : ∀ v w : JsValue.Held,
    JsValue.canonicalJson v.val = JsValue.canonicalJson w.val ↔ JsValue.Same JsValue.Alike v.val w.val
  /-- The text is read as a value of the same text. -/
  reread : ∀ v : JsValue.Held, ∃ w, JsValue.parse (JsValue.canonicalJson v.val) = some w ∧
    JsValue.canonicalJson w = JsValue.canonicalJson v.val
  /-- The executor's text is the same text. -/
  executor : ∀ args : Arguments,
    JsValue.canonicalizeArgs (.obj args.fields) = JsValue.canonicalJson (.obj args.fields)
  /-- The proxy's key is that of the tool and the arguments up to the order of properties. -/
  key : ∀ (tool tool' : JsString) (args args' : Option Arguments),
    identityKey sha256 tool args = identityKey sha256 tool' args' ↔
      tool = tool' ∧ JsValue.Same JsValue.Alike (.obj (argumentFields args)) (.obj (argumentFields args'))
  /-- It is the key under which the proxy keeps the window of the call. -/
  window : ∀ (agentId tool : JsString) (args : Option Arguments),
    callKey (digestOf sha256) (callOf agentId tool args) = identityKey sha256 tool args

/-- Canonical text is one for all components, and tells calls apart as far as it can. -/
theorem canonical_law (sha256 : Bytes → Bytes) (hsha : Function.Injective sha256) : CanonicalLaw sha256 := by
  constructor
  · exact JsValue.canonicalJson_eq_iff
  · exact JsValue.parse_canonicalJson
  · exact fun args => JsValue.canonicalizeArgs_eq (.obj args.fields)
  · exact identityKey_eq_iff hsha
  · exact callKey_callOf

/-- The law with octets for their own digest. -/
theorem canonical_law_sample : Function.Injective (id : Bytes → Bytes) ∧ CanonicalLaw id :=
  ⟨Function.injective_id, canonical_law id Function.injective_id⟩

/-! ### A number that is not finite -/

namespace AmountSample

/-- The arguments with this amount alone. -/
def amount (v : JsValue) : JsValue :=
  .obj [(js "amount", v)]

theorem normal_amount {v : JsValue} (h : Normal v.toJson) : Normal (amount v).toJson := by
  apply Normal.obj
  · apply ofEntries_eq_self
    · show [js "amount"].Nodup
      decide
    · show ∀ k ∈ [js "amount"], arrayIndex k = none
      decide
  · intro f hf
    cases hf with
    | head => exact h
    | tail _ hf => cases hf

/-- An amount beyond double precision. -/
def infinite : Arguments where
  fields := [(js "amount", .num (.inf false))]
  normal := normal_amount .null

/-- No amount. -/
def missing : Arguments where
  fields := [(js "amount", .null)]
  normal := normal_amount .null

theorem parse_amount {v : Json} (h : Normal v) : JsValue.parse (stringify (.obj [(js "amount", v)])) =
    some (amount (JsValue.ofJson v)) := by
  have hnormal : Normal (.obj [(js "amount", v)]) := by
    apply Normal.obj rfl
    intro f hf
    cases hf with
    | head => exact h
    | tail _ hf => cases hf
  rw [JsValue.parse, parse_stringify hnormal]
  rfl

theorem ofDecimal_infinite {z : Int} (h : z = 10 ^ 400) : Double.ofDecimal (.ofInt z) = .inf false := by
  apply Double.ofRat_of_large
  rw [Decimal.value, Decimal.ofInt, pow_zero, div_one, h, Int.cast_pow, Int.cast_ofNat]
  calc (2 : ℚ) ^ 1024 = (2 ^ 128) ^ 8 := by rw [← pow_mul]
    _ ≤ (10 ^ 50) ^ 8 := pow_le_pow_left₀ (by norm_num) (by norm_num) 8
    _ = 10 ^ 400 := by rw [← pow_mul]

theorem written_infinite : stringify (.obj [(js "amount", .num (.ofInt (10 ^ 400)))]) =
    js "\x7b\"amount\":1e+400\x7d" := by
  decide +kernel

theorem parse_infinite : JsValue.parse (js "\x7b\"amount\":1e+400\x7d") = some (.obj infinite.fields) := by
  have hread := parse_amount (.num (d := .ofInt (10 ^ 400)))
  rw [written_infinite, JsValue.ofJson, ofDecimal_infinite rfl] at hread
  exact hread

theorem parse_missing : JsValue.parse (js "\x7b\"amount\":null\x7d") = some (.obj missing.fields) := by
  have hwritten : stringify (.obj [(js "amount", .null)]) = js "\x7b\"amount\":null\x7d" := by
    decide +kernel
  have hread := parse_amount .null
  rw [hwritten] at hread
  exact hread

theorem not_same : ¬ JsValue.Same (· = ·) (.obj infinite.fields) (.obj missing.fields) := by
  intro h
  cases h with
  | single h => cases h
  | obj fields =>
      cases fields with
      | cons order head tail =>
          obtain ⟨hfield, -⟩ := List.cons.inj (List.singleton_perm.mp order)
          rw [← (Prod.mk.inj hfield).2] at head
          cases head with
          | single h => cases h

end AmountSample

open AmountSample in
/-- An amount that is read as infinite and no amount have one text and one key. -/
theorem infinite_amount_reads_as_null :
    JsValue.parse (js "\x7b\"amount\":1e+400\x7d") = some (.obj infinite.fields) ∧
      JsValue.parse (js "\x7b\"amount\":null\x7d") = some (.obj missing.fields) ∧
      ¬ JsValue.Same (· = ·) (.obj infinite.fields) (.obj missing.fields) ∧
      JsValue.canonicalJson (.obj infinite.fields) = JsValue.canonicalJson (.obj missing.fields) ∧
      identityKey id (js "pay") (some infinite) = identityKey id (js "pay") (some missing) := by
  have htext : JsValue.Same JsValue.Alike (.obj infinite.fields) (.obj missing.fields) :=
    .obj (.cons (.refl _) (.single (.inr ⟨.num rfl, .null⟩)) .nil)
  refine ⟨parse_infinite, parse_missing, not_same, ?_, ?_⟩
  · exact (JsValue.canonicalJson_eq_iff ⟨_, infinite.normal⟩ ⟨_, missing.normal⟩).mpr htext
  · exact (identityKey_eq_iff Function.injective_id _ _ (some infinite) (some missing)).mpr ⟨rfl, htext⟩

end OwnerSwitch
