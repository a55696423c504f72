/-
Module: OwnerSwitch.Executor.SecretLedger
Layer: Executor
Purpose: The ledger of every secret the connector has held (secret-ledger.ts) and its redaction: each
  recorded form, raw or as it stands inside a JSON string, is replaced by the marker, longest first.
Imports: Lib.JsonLex, Lib.Splice, Executor.GitHubClient
Trusted boundary: none
Main exports: SecretLedger, SecretLedger.redact, redact_masks, githubErrorMessage_masks
Open obligations: none
-/
import OwnerSwitch.Lib.JsonLex
import OwnerSwitch.Lib.Splice
import OwnerSwitch.Executor.GitHubClient

namespace OwnerSwitch

/-- `JSON.stringify(secret).slice(1, -1)`: a secret as it stands inside a JSON string. -/
def escapedForm (secret : JsString) : JsString :=
  ((Json.stringify (.str secret)).drop 1).dropLast

/-- `createSecretLedger`: every representation a secret might surface under, a set in insertion order. -/
structure SecretLedger where
  secrets : List JsString
  nodup : secrets.Nodup
  nonempty : [] ∉ secrets

namespace SecretLedger

def empty : SecretLedger :=
  { secrets := [], nodup := List.nodup_nil, nonempty := List.not_mem_nil }

/-- `secrets.add(form)` -/
def insert (ledger : SecretLedger) (form : JsString) (h : form ≠ []) : SecretLedger where
  secrets := if form ∈ ledger.secrets then ledger.secrets else ledger.secrets ++ [form]
  nodup := by
    split
    · exact ledger.nodup
    · rename_i hnew
      exact List.nodup_append.mpr ⟨ledger.nodup, List.nodup_singleton form, fun a ha b hb hab =>
        hnew (List.mem_singleton.mp hb ▸ hab ▸ ha)⟩
  nonempty := by
    split
    · exact ledger.nonempty
    · intro hnil
      rcases List.mem_append.mp hnil with hold | hnew
      · exact ledger.nonempty hold
      · exact h (List.mem_singleton.mp hnew).symm

theorem mem_insert {ledger : SecretLedger} {form s : JsString} {h : form ≠ []} :
    s ∈ (ledger.insert form h).secrets ↔ s ∈ ledger.secrets ∨ s = form := by
  simp only [insert]
  split
  · rename_i hold
    constructor
    · exact .inl
    · rintro (hs | rfl)
      · exact hs
      · exact hold
  · simp

theorem escapedForm_eq (secret : JsString) : escapedForm secret = Json.quoteUnits secret := by
  simp [escapedForm, Json.stringify, Json.render, Json.quote]

theorem escapedForm_ne_nil {secret : JsString} (h : secret ≠ []) : escapedForm secret ≠ [] := by
  intro hnil
  have hlen := Json.length_le_quoteUnits secret
  rw [← escapedForm_eq, hnil] at hlen
  exact h (List.length_eq_zero_iff.mp (Nat.le_zero.mp hlen))

/-- `add(secret)`: an undefined or empty value is ignored; the escaped form is recorded where it
    differs from the raw one. -/
def add (ledger : SecretLedger) : Option JsString → SecretLedger
  | none => ledger
  | some secret =>
      if h : secret = [] then ledger
      else
        let raw := ledger.insert secret h
        if escapedForm secret ≠ secret then raw.insert (escapedForm secret) (escapedForm_ne_nil h) else raw

/-- The ledger after a sequence of `add` calls. -/
def record (secrets : List (Option JsString)) : SecretLedger :=
  secrets.foldl add empty

/-- `[...secrets].sort((a, b) => b.length - a.length)` -/
def ordered (ledger : SecretLedger) : List JsString :=
  ledger.secrets.mergeSort fun a b => b.length ≤ a.length

/-- `redact(text)` -/
def redact (ledger : SecretLedger) (text : JsString) : JsString :=
  ledger.ordered.foldl (fun out secret => joinStrings (js "[REDACTED]") (Splice.split secret out)) text

/-! ### What is recorded -/

theorem mem_add {ledger : SecretLedger} {secret? : Option JsString} {form : JsString} :
    form ∈ (ledger.add secret?).secrets ↔ form ∈ ledger.secrets
      ∨ ∃ secret, secret? = some secret ∧ secret ≠ [] ∧ (form = secret ∨ form = escapedForm secret) := by
  cases secret? with
  | none => simp [add]
  | some secret =>
      by_cases h : secret = []
      · simp [add, h]
      · by_cases hesc : escapedForm secret = secret
        · simp [add, h, hesc, mem_insert]
        · simp [add, h, hesc, mem_insert, or_assoc]

/-- The ledger holds the raw and the escaped form of every secret that was added, and nothing else. -/
theorem mem_record {secrets : List (Option JsString)} {form : JsString} :
    form ∈ (record secrets).secrets ↔
      ∃ secret, some secret ∈ secrets ∧ secret ≠ [] ∧ (form = secret ∨ form = escapedForm secret) := by
  suffices h : ∀ ledger, form ∈ (secrets.foldl add ledger).secrets ↔ form ∈ ledger.secrets
      ∨ ∃ secret, some secret ∈ secrets ∧ secret ≠ [] ∧ (form = secret ∨ form = escapedForm secret) by
    simpa [record, empty] using h empty
  intro ledger
  induction secrets generalizing ledger with
  | nil => simp
  | cons secret? secrets ih =>
      rw [List.foldl_cons, ih, mem_add, or_assoc]
      apply or_congr_right
      constructor
      · rintro (⟨secret, rfl, hne, hform⟩ | ⟨secret, hmem, hne, hform⟩)
        · exact ⟨secret, List.mem_cons_self .., hne, hform⟩
        · exact ⟨secret, List.mem_cons_of_mem _ hmem, hne, hform⟩
      · rintro ⟨secret, hmem, hne, hform⟩
        cases List.mem_cons.mp hmem with
        | inl hhead => exact .inl ⟨secret, hhead.symm, hne, hform⟩
        | inr htail => exact .inr ⟨secret, htail, hne, hform⟩

/-! ### Masking -/

/-- The secret holds no square bracket and is no part of the word the marker shows. -/
structure Maskable (secret : JsString) : Prop where
  openBracket : 0x5B ∉ secret
  closeBracket : 0x5D ∉ secret
  inside : ¬ secret <:+: js "REDACTED"

/-- The marker is the word between its brackets. -/
theorem marker_fenced : js "[REDACTED]" = Splice.fenced 0x5B 0x5D (js "REDACTED") := by
  decide +kernel

theorem redact_eq (ledger : SecretLedger) (text : JsString) :
    ledger.redact text = Splice.maskAll (Splice.fenced 0x5B 0x5D (js "REDACTED")) ledger.ordered text := by
  rw [← marker_fenced]
  rfl

theorem Maskable.apart {secret : JsString} (h : Maskable secret) :
    Splice.Apart 0x5B 0x5D (js "REDACTED") secret :=
  ⟨h.openBracket, h.closeBracket, h.inside⟩

/-- The escaped form keeps away from the marker with the secret: escapes hold no bracket, and a form that
    differs from the secret holds a backslash. -/
theorem Maskable.escaped {secret : JsString} (h : Maskable secret) : Maskable (escapedForm secret) := by
  have hbracket : ∀ c, c ∉ secret → Json.isEscapeUnit c = false → c ∉ Json.quoteUnits secret := by
    intro c hc hesc hmem
    rcases Json.mem_quoteUnits hmem with hs | he
    · exact hc hs.1
    · rw [hesc] at he
      cases he
  rw [escapedForm_eq]
  refine ⟨hbracket _ h.openBracket (by decide), hbracket _ h.closeBracket (by decide), ?_⟩
  rcases Json.quoteUnits_eq_or secret with heq | hslash
  · rw [heq]
    exact h.inside
  · intro hin
    have hno : (0x5C : UInt16) ∉ js "REDACTED" := by decide +kernel
    exact hno (hin.subset hslash)

/-- Every form the ledger holds keeps away from the marker when every secret does. -/
theorem apart_of_mem_record {secrets : List (Option JsString)}
    (h : ∀ secret, some secret ∈ secrets → secret ≠ [] → Maskable secret) {form : JsString}
    (hform : form ∈ (record secrets).secrets) : Splice.Apart 0x5B 0x5D (js "REDACTED") form := by
  obtain ⟨secret, hmem, hne, rfl | rfl⟩ := mem_record.mp hform
  · exact (h form hmem hne).apart
  · exact (h secret hmem hne).escaped.apart

theorem mem_ordered {ledger : SecretLedger} {form : JsString} :
    form ∈ ledger.ordered ↔ form ∈ ledger.secrets :=
  List.mem_mergeSort

/-- A redacted text holds no form of a secret. -/
theorem not_infix_redact {secrets : List (Option JsString)}
    (h : ∀ secret, some secret ∈ secrets → secret ≠ [] → Maskable secret) {form : JsString}
    (hform : form ∈ (record secrets).secrets) (text : JsString) : ¬ form <:+: (record secrets).redact text := by
  rw [redact_eq]
  exact Splice.not_infix_maskAll (fun f hf => apart_of_mem_record h (mem_ordered.mp hf))
    (mem_ordered.mpr hform) text

/-- A text that holds no form of a secret is left as it is. -/
theorem redact_eq_self {ledger : SecretLedger} {text : JsString}
    (h : ∀ form ∈ ledger.secrets, ¬ form <:+: text) : ledger.redact text = text := by
  rw [redact_eq]
  exact Splice.maskAll_eq_self fun f hf => h f (mem_ordered.mp hf)

/-- Redaction is complete and stable: no secret that was added is left, raw or escaped; redacting again
    changes nothing; a text without any of them is returned as it is. -/
theorem redact_masks {secrets : List (Option JsString)}
    (h : ∀ secret, some secret ∈ secrets → secret ≠ [] → Maskable secret) (text : JsString) :
    (∀ secret, some secret ∈ secrets → secret ≠ [] →
        ¬ secret <:+: (record secrets).redact text ∧ ¬ escapedForm secret <:+: (record secrets).redact text)
      ∧ (record secrets).redact ((record secrets).redact text) = (record secrets).redact text
      ∧ ((∀ secret, some secret ∈ secrets → secret ≠ [] →
          ¬ secret <:+: text ∧ ¬ escapedForm secret <:+: text) → (record secrets).redact text = text) := by
  refine ⟨?_, ?_, ?_⟩
  · intro secret hmem hne
    exact ⟨not_infix_redact h (mem_record.mpr ⟨secret, hmem, hne, .inl rfl⟩) text,
      not_infix_redact h (mem_record.mpr ⟨secret, hmem, hne, .inr rfl⟩) text⟩
  · exact redact_eq_self fun form hform => not_infix_redact h hform text
  · intro hclean
    apply redact_eq_self
    intro form hform
    obtain ⟨secret, hmem, hne, rfl | rfl⟩ := mem_record.mp hform
    · exact (hclean form hmem hne).1
    · exact (hclean secret hmem hne).2

/-- A token, and a key whose lines end in a newline, quoted back in one text. -/
theorem redact_masks_sample :
    js "k\ny" <:+: js "a ghs_1 k\\ny k\ny"
      ∧ ¬ js "k\ny" <:+: (record [some (js "ghs_1"), none, some (js "k\ny")]).redact (js "a ghs_1 k\\ny k\ny") := by
  have hmaskable : ∀ secret, some secret ∈ [some (js "ghs_1"), none, some (js "k\ny")] → secret ≠ [] →
      Maskable secret := by
    intro secret hmem _
    simp only [List.mem_cons, Option.some.injEq, reduceCtorEq, List.not_mem_nil, or_false, false_or] at hmem
    rcases hmem with rfl | rfl
    · exact ⟨by decide +kernel, by decide +kernel, by decide +kernel⟩
    · exact ⟨by decide +kernel, by decide +kernel, by decide +kernel⟩
  exact ⟨by decide +kernel, ((redact_masks hmaskable _).1 _ (by simp) (by decide +kernel)).1⟩

/-! ### The client's texts -/

/-- An error text the client quotes from a body holds no secret, also where it was cut. -/
theorem githubErrorMessage_masks {secrets : List (Option JsString)}
    (h : ∀ secret, some secret ∈ secrets → secret ≠ [] → Maskable secret) {c : GitHubMergeClient}
    (hc : c.redact = (record secrets).redact) (bodyText : Option JsString) {secret : JsString}
    (hmem : some secret ∈ secrets) (hne : secret ≠ []) : ¬ secret <:+: c.githubErrorMessage bodyText := by
  unfold GitHubMergeClient.githubErrorMessage
  split
  · rename_i message _
    intro hin
    rw [hc] at hin
    exact not_infix_redact h (mem_record.mpr ⟨secret, hmem, hne, .inl rfl⟩) message
      (hin.trans (List.take_prefix _ _).isInfix)
  · exact fun hin => hne (List.infix_nil.mp hin)

end SecretLedger

end OwnerSwitch
