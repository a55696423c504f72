/-
Module: OwnerSwitch.Shared.OwnerDeviceSig
Layer: Shared
Purpose: The octets an owner device signs: the preimage of a request and the transcript that proves possession of a
  key at enrollment. Each determines its fields, and none of the one is one of the other.
Imports: Lib.JsonRoundTrip, Lib.Octets
Trusted boundary: the URL serializer and the upper-case mapping are parameters
Main exports: lengthPrefixed, assertCanonicalPathAndQuery, ownerDeviceSigPreimage, ownerEnrollPopPreimage, PreimageLaw,
  preimage_law
Open obligations: none
-/
import OwnerSwitch.Lib.JsonRoundTrip
import OwnerSwitch.Lib.Octets

namespace OwnerSwitch

/-! ### Framing -/

/-- `OWNER_DEVICE_SIG_LABEL` -/
def ownerDeviceSigLabel : JsString := js "ownerswitch/device-sig/v1"

/-- `ENROLL_POP_LABEL` -/
def enrollPopLabel : JsString := js "ownerswitch/enroll-cheap-lane/v1"

/-- `SHA256_LEN` -/
def sha256Len : Nat := 32

/-- `MAX_FIELD` -/
def maxField : Nat := 0xffffffff

def lengthPrefixed (fields : List Bytes) : Except JsString Bytes :=
  if fields.any fun field => maxField < field.length then .error (js "field too long to length-prefix in 4 bytes")
  else .ok (frames fields)

/-- `utf8` -/
def utf8 (text : JsString) : Bytes :=
  Utf8.encode text

/-! ### The request target -/

/-- What `/%.{0,2}/g` matches in a text without line terminators. -/
def percentEscapes : JsString → List JsString
  | [] => []
  | [u] => if u = 0x25 then [[u]] else []
  | [u, v] => if u = 0x25 then [[u, v]] else percentEscapes [v]
  | u :: v :: w :: rest => if u = 0x25 then [u, v, w] :: percentEscapes rest else percentEscapes (v :: w :: rest)

def isUpperHex (u : UInt16) : Bool :=
  (0x30 ≤ u && u ≤ 0x39) || (0x41 ≤ u && u ≤ 0x46)

/-- `/^%[0-9A-F]{2}$/` -/
def isCanonicalEscape : JsString → Bool
  | [u, v, w] => u = 0x25 && isUpperHex v && isUpperHex w
  | _ => false

section Preimages

variable (serializeTarget : JsString → Option JsString) (toUpperCase : JsString → JsString)

/-- `assertCanonicalPathAndQuery`; `serializeTarget` is the path and query that the URL parser makes of a target, where
    it parses. -/
def assertCanonicalPathAndQuery (pathAndQuery : JsString) : Except JsString Unit :=
  if pathAndQuery.head? ≠ some 0x2F then
    .error (js "pathAndQuery must be origin-form — it must start with \"/\"")
  else if pathAndQuery.any fun code => code < 0x21 || code > 0x7e then
    .error (js "pathAndQuery must be the serialized request target: printable ASCII only, " ++
      js "no spaces — percent-encode everything else exactly as it will be sent")
  else if pathAndQuery.contains 0x23 then
    .error (js "pathAndQuery must not carry a fragment — a fragment is never sent")
  else
    match (percentEscapes pathAndQuery).find? fun m => !isCanonicalEscape m with
    | some m =>
        .error (js "pathAndQuery has a non-canonical percent escape " ++ Json.stringify (.str m) ++ js " — " ++
          js "escapes must be complete and uppercase-hex")
    | none =>
        match serializeTarget pathAndQuery with
        | none => .error (js "pathAndQuery does not parse as a request target")
        | some serialized =>
            if serialized ≠ pathAndQuery then
              .error (js "pathAndQuery is not serialized request-target bytes — the URL serializer would " ++
                js "transmit " ++ Json.stringify (.str serialized) ++ js "; sign that instead")
            else .ok ()

/-- The fields of a request's signature. -/
structure OwnerDeviceSigFields where
  deviceId : JsString
  method : JsString
  pathAndQuery : JsString
  bodyHash : Bytes
  timestamp : Decimal
  nonce : JsString

/-- `Number.isSafeInteger` -/
def isSafeInteger (d : Decimal) : Bool :=
  d.toInt?.any fun z => |z| ≤ Json.maxSafeInteger

/-- The signed fields in their order. -/
def OwnerDeviceSigFields.signed (fields : OwnerDeviceSigFields) : List Bytes :=
  [utf8 ownerDeviceSigLabel, utf8 fields.deviceId, utf8 (toUpperCase fields.method), utf8 fields.pathAndQuery,
    fields.bodyHash, utf8 (Json.numText fields.timestamp), utf8 fields.nonce]

def ownerDeviceSigPreimage (fields : OwnerDeviceSigFields) : Except JsString Bytes :=
  if fields.bodyHash.length ≠ sha256Len then .error (js "bodyHash must be a 32-byte SHA-256 digest")
  else if !isSafeInteger fields.timestamp then .error (js "timestamp must be a safe integer (ms since epoch)")
  else do
    assertCanonicalPathAndQuery serializeTarget fields.pathAndQuery
    lengthPrefixed (fields.signed toUpperCase)

/-- The fields of an enrollment's proof of possession. -/
structure EnrollPopFields where
  inviteId : JsString
  ownerId : JsString
  credentialId : Bytes
  spki : Bytes

def ownerEnrollPopPreimage (fields : EnrollPopFields) : Except JsString Bytes :=
  if fields.inviteId.isEmpty then .error (js "enroll PoP requires a non-empty inviteId")
  else if fields.ownerId.isEmpty then .error (js "enroll PoP requires a non-empty ownerId")
  else if fields.credentialId.isEmpty then .error (js "enroll PoP requires the credentialId bytes")
  else if fields.spki.isEmpty then .error (js "enroll PoP requires the SPKI bytes")
  else
    lengthPrefixed [utf8 enrollPopLabel, utf8 fields.inviteId, utf8 fields.ownerId, fields.credentialId, fields.spki]

end Preimages

/-! ### Framed fields -/

/-- Fields are framed where each can be counted. -/
theorem lengthPrefixed_ok {fields : List Bytes} {bytes : Bytes} (h : lengthPrefixed fields = .ok bytes) :
    Countable fields ∧ bytes = frames fields := by
  unfold lengthPrefixed at h
  split_ifs at h with hlong
  cases h
  constructor
  · intro field hfield
    have hshort : ¬ maxField < field.length := fun hlt =>
      hlong (List.any_eq_true.mpr ⟨field, hfield, decide_eq_true hlt⟩)
    exact Nat.lt_succ_of_le (not_lt.mp hshort)
  · rfl

/-- Framed fields are bound where one ends and the next begins. -/
theorem lengthPrefixed_injective {fields others : List Bytes} {bytes : Bytes}
    (hfields : lengthPrefixed fields = .ok bytes) (hothers : lengthPrefixed others = .ok bytes) : fields = others := by
  obtain ⟨hcount, rfl⟩ := lengthPrefixed_ok hfields
  obtain ⟨hcount', heq⟩ := lengthPrefixed_ok hothers
  exact frames_injective hcount hcount' heq

/-- Well-formed texts of the same octets are one text. -/
theorem utf8_injective {s t : JsString} (hs : WellFormed s) (ht : WellFormed t) (h : utf8 s = utf8 t) : s = t := by
  rw [← Utf8.decode_encode hs, ← Utf8.decode_encode ht]
  exact congrArg Utf8.decode h

/-- Well-formed texts are told apart by their framed octets. -/
theorem lengthPrefixed_texts_injective {texts others : List JsString} {bytes : Bytes}
    (htexts : ∀ text ∈ texts, WellFormed text) (hothers : ∀ text ∈ others, WellFormed text)
    (h : lengthPrefixed (texts.map utf8) = .ok bytes) (h' : lengthPrefixed (others.map utf8) = .ok bytes) :
    texts = others := by
  have hoctets := lengthPrefixed_injective h h'
  clear h h'
  induction texts generalizing others with
  | nil => exact (List.map_eq_nil_iff.mp hoctets.symm).symm
  | cons text texts ih =>
      obtain ⟨other, others, rfl, hhead, htail⟩ := List.map_eq_cons_iff.mp hoctets.symm
      obtain rfl := utf8_injective (hothers other (List.mem_cons_self ..)) (htexts text (List.mem_cons_self ..)) hhead
      have hrest :=
        ih (fun s hs => htexts s (List.mem_cons_of_mem _ hs)) (fun s hs => hothers s (List.mem_cons_of_mem _ hs))
        htail.symm
      rw [hrest]

/-! ### What a preimage determines -/

section Determined

variable {serializeTarget : JsString → Option JsString} {toUpperCase : JsString → JsString}

/-- A canonical target is printable ASCII. -/
theorem wellFormed_of_canonical {pathAndQuery : JsString}
    (h : assertCanonicalPathAndQuery serializeTarget pathAndQuery = .ok ()) : WellFormed pathAndQuery := by
  unfold assertCanonicalPathAndQuery at h
  split_ifs at h with hstart hprintable
  apply WellFormed.ascii
  intro u hu
  simp only [List.any_eq_true, not_exists, not_and, Bool.or_eq_true, decide_eq_true_eq, not_or] at hprintable
  have hlast : u.toNat ≤ 0x7e := UInt16.le_iff_toNat_le.mp (UInt16.not_lt.mp (hprintable u hu).2)
  omega

/-- What stands behind a preimage that was made. -/
theorem ownerDeviceSigPreimage_ok {fields : OwnerDeviceSigFields} {bytes : Bytes}
    (h : ownerDeviceSigPreimage serializeTarget toUpperCase fields = .ok bytes) :
    WellFormed fields.pathAndQuery ∧ lengthPrefixed (fields.signed toUpperCase) = .ok bytes := by
  unfold ownerDeviceSigPreimage at h
  split_ifs at h
  cases hpath : assertCanonicalPathAndQuery serializeTarget fields.pathAndQuery with
  | error message =>
      rw [hpath] at h
      cases h
  | ok =>
      rw [hpath] at h
      exact ⟨wellFormed_of_canonical hpath, h⟩

theorem ownerEnrollPopPreimage_ok {fields : EnrollPopFields} {bytes : Bytes}
    (h : ownerEnrollPopPreimage fields = .ok bytes) :
    lengthPrefixed [utf8 enrollPopLabel, utf8 fields.inviteId, utf8 fields.ownerId, fields.credentialId, fields.spki] =
      .ok bytes := by
  unfold ownerEnrollPopPreimage at h
  split_ifs at h
  exact h

/-- The texts of a request have no lone surrogates. -/
structure OwnerDeviceSigFields.TextsWellFormed (fields : OwnerDeviceSigFields) : Prop where
  deviceId : WellFormed fields.deviceId
  method : WellFormed fields.method
  nonce : WellFormed fields.nonce

/-- The two requests are one as far as a signature goes. -/
structure OwnerDeviceSigFields.SameRequest (toUpperCase : JsString → JsString) (fields others : OwnerDeviceSigFields) :
    Prop where
  deviceId : fields.deviceId = others.deviceId
  method : toUpperCase fields.method = toUpperCase others.method
  pathAndQuery : fields.pathAndQuery = others.pathAndQuery
  bodyHash : fields.bodyHash = others.bodyHash
  timestamp : fields.timestamp = others.timestamp
  nonce : fields.nonce = others.nonce

theorem numText_injective {d e : Decimal} (h : Json.numText d = Json.numText e) : d = e := by
  have hread := Json.readNumber_numText d
  rw [h, Json.readNumber_numText] at hread
  exact (Option.some.inj hread).symm

/-- A preimage is of one request. -/
theorem sameRequest_of_preimage (hupper : ∀ s, WellFormed s → WellFormed (toUpperCase s))
    {fields others : OwnerDeviceSigFields} {bytes : Bytes} (hfields : fields.TextsWellFormed)
    (hothers : others.TextsWellFormed) (h : ownerDeviceSigPreimage serializeTarget toUpperCase fields = .ok bytes)
    (h' : ownerDeviceSigPreimage serializeTarget toUpperCase others = .ok bytes) :
    fields.SameRequest toUpperCase others := by
  obtain ⟨hpath, hsigned⟩ := ownerDeviceSigPreimage_ok h
  obtain ⟨hpath', hsigned'⟩ := ownerDeviceSigPreimage_ok h'
  have hoctets := lengthPrefixed_injective hsigned hsigned'
  simp only [OwnerDeviceSigFields.signed, List.cons.injEq, and_true, true_and] at hoctets
  obtain ⟨hdevice, hmethod, htarget, hbody, htimestamp, hnonce⟩ := hoctets
  constructor
  · exact utf8_injective hfields.deviceId hothers.deviceId hdevice
  · exact utf8_injective (hupper _ hfields.method) (hupper _ hothers.method) hmethod
  · exact utf8_injective hpath hpath' htarget
  · exact hbody
  · exact numText_injective (utf8_injective (Json.wellFormed_numText _) (Json.wellFormed_numText _) htimestamp)
  · exact utf8_injective hfields.nonce hothers.nonce hnonce

/-- The labels of the two preimages differ. -/
theorem labels_apart : utf8 ownerDeviceSigLabel ≠ utf8 enrollPopLabel := by
  decide

/-- What is signed for a request is never what is signed at enrollment. -/
theorem preimages_apart {fields : OwnerDeviceSigFields} {pop : EnrollPopFields} {bytes : Bytes}
    (h : ownerDeviceSigPreimage serializeTarget toUpperCase fields = .ok bytes) :
    ownerEnrollPopPreimage pop ≠ .ok bytes := by
  intro hpop
  have hoctets := lengthPrefixed_injective (ownerDeviceSigPreimage_ok h).2 (ownerEnrollPopPreimage_ok hpop)
  exact labels_apart (List.head_eq_of_cons_eq hoctets)

end Determined

/-! ### The law -/

/-- Signed octets are unambiguous. -/
structure PreimageLaw (serializeTarget : JsString → Option JsString) (toUpperCase : JsString → JsString) : Prop where
  /-- Framed octets are of one list of fields. -/
  fields : ∀ (fields others : List Bytes) (bytes : Bytes), lengthPrefixed fields = .ok bytes →
    lengthPrefixed others = .ok bytes → fields = others
  /-- Framed texts are of one list of well-formed texts. -/
  texts : ∀ (texts others : List JsString) (bytes : Bytes), (∀ text ∈ texts, WellFormed text) →
    (∀ text ∈ others, WellFormed text) → lengthPrefixed (texts.map utf8) = .ok bytes →
    lengthPrefixed (others.map utf8) = .ok bytes → texts = others
  /-- The preimage of a request is of that request only. -/
  request : ∀ (fields others : OwnerDeviceSigFields) (bytes : Bytes), fields.TextsWellFormed → others.TextsWellFormed →
    ownerDeviceSigPreimage serializeTarget toUpperCase fields = .ok bytes →
    ownerDeviceSigPreimage serializeTarget toUpperCase others = .ok bytes → fields.SameRequest toUpperCase others
  /-- No request has the preimage of an enrollment. -/
  apart : ∀ (fields : OwnerDeviceSigFields) (pop : EnrollPopFields) (bytes : Bytes),
    ownerDeviceSigPreimage serializeTarget toUpperCase fields = .ok bytes → ownerEnrollPopPreimage pop ≠ .ok bytes

/-- No two requests have one preimage, and no request has the preimage of an enrollment. -/
theorem preimage_law (serializeTarget : JsString → Option JsString) (toUpperCase : JsString → JsString)
    (hupper : ∀ s, WellFormed s → WellFormed (toUpperCase s)) : PreimageLaw serializeTarget toUpperCase := by
  constructor
  · exact fun _ _ _ => lengthPrefixed_injective
  · exact fun _ _ _ => lengthPrefixed_texts_injective
  · exact fun _ _ _ => sameRequest_of_preimage hupper
  · exact fun _ _ _ => preimages_apart

/-- The upper-case form of a text of ASCII characters; other characters are kept. -/
def asciiUpperCase (s : JsString) : JsString :=
  s.map fun u => if 0x61 ≤ u ∧ u ≤ 0x7a then u - 0x20 else u

theorem wellFormed_asciiUpperCase {s : JsString} (h : WellFormed s) : WellFormed (asciiUpperCase s) := by
  have hkept : ∀ {u : UInt16}, 0xD800 ≤ u.toNat → (if 0x61 ≤ u ∧ u ≤ 0x7a then u - 0x20 else u) = u := by
    intro u hu
    apply if_neg
    intro hletter
    have hlast : u.toNat ≤ 0x7a := UInt16.le_iff_toNat_le.mp hletter.2
    omega
  induction h with
  | nil => exact .nil
  | @unit u s hhigh hlow _ ih =>
      have hcons : asciiUpperCase (u :: s) = [if 0x61 ≤ u ∧ u ≤ 0x7a then u - 0x20 else u] ++ asciiUpperCase s := rfl
      rw [hcons]
      apply WellFormed.append _ ih
      by_cases hletter : 0x61 ≤ u ∧ u ≤ 0x7a
      · rw [if_pos hletter]
        apply WellFormed.ascii
        intro v hv
        obtain rfl := List.mem_singleton.mp hv
        have hfirst : 0x61 ≤ u.toNat := UInt16.le_iff_toNat_le.mp hletter.1
        have hlast : u.toNat ≤ 0x7a := UInt16.le_iff_toNat_le.mp hletter.2
        rw [UInt16.toNat_sub_of_le]
        · show u.toNat - 0x20 < 0x80
          omega
        · exact UInt16.le_iff_toNat_le.mpr (by show 0x20 ≤ u.toNat; omega)
      · rw [if_neg hletter]
        exact .unit hhigh hlow .nil
  | @pair u v s hu hv _ ih =>
      have hu' : 0xD800 ≤ u.toNat := by
        simp only [isHighSurrogate, Bool.and_eq_true, decide_eq_true_eq] at hu
        exact hu.1
      have hv' : 0xD800 ≤ v.toNat := by
        simp only [isLowSurrogate, Bool.and_eq_true, decide_eq_true_eq] at hv
        omega
      rw [asciiUpperCase, List.map_cons, List.map_cons, hkept hu', hkept hv']
      exact .pair hu hv ih

/-- A request that has a preimage, under the law for ASCII methods and targets that are serialized as they stand. -/
theorem preimage_law_sample :
    (ownerDeviceSigPreimage some asciiUpperCase
        ⟨js "d", js "get", js "/w", List.replicate 32 0, .ofInt 7, js "n"⟩).isOk = true ∧
      PreimageLaw some asciiUpperCase :=
  ⟨by decide +kernel, preimage_law some asciiUpperCase fun _ => wellFormed_asciiUpperCase⟩

end OwnerSwitch
