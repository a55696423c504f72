/-
Module: OwnerSwitch.ControlPlane.StoredKeys
Layer: ControlPlane
Purpose: The two readers of a stored device key: the one that takes canonical base64url alone, and the one that first
  looks whether the text is a PEM block. They part on the keys whose text happens to say so.
Imports: Lib.Base64, Lib.JsTrim, ControlPlane.RegistryFile
Trusted boundary: the parser of SPKI DER is a parameter; it takes nothing from no octets
Main exports: SpkiKeys, storedSpkiToPem, enrolledOwnerDeviceFromSpki, stored_readers_agree_iff
Open obligations: none
-/
import OwnerSwitch.Lib.Base64
import OwnerSwitch.Lib.JsTrim
import OwnerSwitch.ControlPlane.RegistryFile

namespace OwnerSwitch

/-- The keys of the platform: `createPublicKey` of SPKI DER, which may throw, and what a key says of itself. -/
structure SpkiKeys (κ : Type) where
  parse : Bytes → Option κ
  asymmetricKeyType : κ → JsString
  namedCurve : κ → Option JsString
  exportDer : κ → Bytes
  exportPem : κ → JsString
  parse_nil : parse [] = none

/-- An owner device whose key was read. -/
structure ParsedOwnerDevice (κ : Type) where
  deviceId : JsString
  publicKey : κ
  generation : Nat
  revokedAt : Option Int

section Readers

variable {κ : Type} (keys : SpkiKeys κ)

/-! ### The stored form -/

/-- `fromB64url` -/
def fromB64url (text : JsString) : Option Bytes :=
  if !text.all fun u => (Base64url.value u).isSome then none
  else if Base64url.encode (Base64.bufferFrom text) = Base64.stripPadding text then some (Base64.bufferFrom text)
  else none

/-- `storedSpkiToPem` -/
def storedSpkiToPem (publicKeySpki : JsString) : Except JsString JsString :=
  match fromB64url publicKeySpki with
  | none => .error (js "stored key is not canonical base64url")
  | some der =>
      if der.length = 0 then .error (js "stored key is not canonical base64url")
      else
        match keys.parse der with
        | none => .error (js "stored key does not parse as SPKI")
        | some key =>
            if keys.asymmetricKeyType key ≠ js "ec" ∨ keys.namedCurve key ≠ some (js "prime256v1") then
              .error (js "stored key is not EC P-256")
            else if keys.exportDer key ≠ der then
              .error (js "stored key has trailing bytes after the SPKI — refusing smuggled data")
            else .ok (keys.exportPem key)

/-! ### The configured form -/

/-- `[A-Z0-9 ]` -/
def isLabelUnit (u : UInt16) : Bool :=
  (0x41 ≤ u && u ≤ 0x5A) || (0x30 ≤ u && u ≤ 0x39) || u = 0x20

/-- A match of `-----BEGIN [A-Z0-9 ]*PRIVATE KEY-----` at the start of a text. -/
def startsPrivateKey (text : JsString) : Bool :=
  js "-----BEGIN " <+: text &&
    (let label := text.drop (js "-----BEGIN ").length
     (List.range ((label.takeWhile isLabelUnit).length + 1)).any fun k => js "PRIVATE KEY-----" <+: label.drop k)

/-- A match of it anywhere. -/
def hasPrivateKey (text : JsString) : Bool :=
  text.tails.any startsPrivateKey

/-- `text.includes(word)` -/
def textIncludes (text word : JsString) : Bool :=
  text.tails.any (word <+: ·)

/-- The number of matches of `-----BEGIN `, no two of which overlap. -/
def countBegin (text : JsString) : Nat :=
  text.tails.countP (js "-----BEGIN " <+: ·)

/-- `[A-Za-z0-9+/=\s]` -/
def isBodyUnit (u : UInt16) : Bool :=
  (Base64.value u).isSome || u = Base64.pad || JsString.isWhite u

def stripWhite (text : JsString) : JsString :=
  text.filter fun u => !JsString.isWhite u

/-- The text after the first line of a PEM block. -/
def afterBegin (text : JsString) : Option JsString :=
  if js "-----BEGIN PUBLIC KEY-----\r\n" <+: text then some (text.drop (js "-----BEGIN PUBLIC KEY-----\r\n").length)
  else if js "-----BEGIN PUBLIC KEY-----\n" <+: text then some (text.drop (js "-----BEGIN PUBLIC KEY-----\n").length)
  else none

/-- The body of `^-----BEGIN PUBLIC KEY-----\r?\n([A-Za-z0-9+/=\s]+?)-----END PUBLIC KEY-----\s*$`: no unit of it is a
    dash, so it ends where the last line begins. -/
def pemBody (text : JsString) : Option JsString :=
  (afterBegin text).bind fun rest =>
    let body := rest.takeWhile isBodyUnit
    let ending := rest.dropWhile isBodyUnit
    if body ≠ [] ∧ js "-----END PUBLIC KEY-----" <+: ending ∧
        (ending.drop (js "-----END PUBLIC KEY-----").length).all JsString.isWhite then some body
    else none

/-- The message that starts every refusal. -/
def aboutDevice (deviceId rest : JsString) : JsString :=
  js "owner device \"" ++ deviceId ++ js "\" " ++ rest

/-- The body of the text without white space, and whether it stands in a PEM block. -/
def keyBody (deviceId trimmed : JsString) : Except JsString (JsString × Bool) :=
  if hasPrivateKey trimmed then
    .error (aboutDevice deviceId (js "was given a PRIVATE key — provide ONLY the SPKI public key. A private key here would put signing authority in public-key configuration"))
  else if textIncludes trimmed (js "BEGIN") then
    if countBegin trimmed ≠ 1 then .error (aboutDevice deviceId (js "key must be exactly one PEM block"))
    else
      match pemBody trimmed with
      | none => .error (aboutDevice deviceId (js "key is not a single SPKI \"PUBLIC KEY\" PEM block"))
      | some body => .ok (stripWhite body, true)
  else .ok (stripWhite trimmed, false)

/-- `enrolledOwnerDeviceFromSpki`. The decoder reads both alphabets whichever it is asked for. -/
def enrolledOwnerDeviceFromSpki (deviceId spki : JsString) : Except JsString (ParsedOwnerDevice κ) :=
  match keyBody deviceId (JsString.trim spki) with
  | .error message => .error message
  | .ok (bodyText, isPem) =>
      let der := Base64.bufferFrom bodyText
      match keys.parse der with
      | none => .error (aboutDevice deviceId (js "key does not parse as an SPKI public key"))
      | some key =>
          if keys.asymmetricKeyType key ≠ js "ec" then
            .error (aboutDevice deviceId (js "key must be an ECDSA P-256 (prime256v1) public key"))
          else if keys.namedCurve key ≠ some (js "prime256v1") then
            .error (aboutDevice deviceId
              (js "key must be on prime256v1 (P-256), got " ++ (keys.namedCurve key).getD (js "unknown")))
          else if keys.exportDer key ≠ der then
            .error (aboutDevice deviceId (js "key has trailing bytes after the SPKI public key — refusing (a private key or padding may be smuggled after the public half)"))
          else if bodyText ≠ Base64.btoa (keys.exportDer key) ∧
              (isPem ∨ bodyText ≠ Base64url.encode (keys.exportDer key)) then
            .error (aboutDevice deviceId (js "key is not canonical base64 — trailing or non-standard characters after the SPKI public key (a second key may be smuggled in the encoding)"))
          else
            -- these are the octets that were parsed above
            match keys.parse (keys.exportDer key) with
            | none => .error (aboutDevice deviceId (js "key does not parse as an SPKI public key"))
            | some publicKey => .ok { deviceId, publicKey, generation := 1, revokedAt := none }

end Readers

/-! ### Texts over the alphabet -/

/-- A text over the base64url alphabet. -/
def OverAlphabet (text : JsString) : Prop :=
  ∀ u ∈ text, (Base64url.value u).isSome = true

instance (text : JsString) : Decidable (OverAlphabet text) :=
  -- over the text, not over every unit there is
  List.decidableBAll _ text

section Alphabet

variable {text : JsString}

/-- What a unit of the alphabet is not. -/
theorem not_of_value {u : UInt16} (h : (Base64url.value u).isSome = true) :
    JsString.isWhite u = false ∧ u ≠ Base64.pad ∧ u ≠ 0x20 := by
  obtain ⟨n, hn⟩ := Option.isSome_iff_exists.mp h
  obtain ⟨hlt, rfl⟩ := Base64url.digit_of_value hn
  have hall : ∀ n < 64, JsString.isWhite (Base64url.digit n) = false ∧ Base64url.digit n ≠ Base64.pad ∧
      Base64url.digit n ≠ 0x20 := by decide
  exact hall n hlt

theorem OverAlphabet.trim (h : OverAlphabet text) : JsString.trim text = text := by
  have hnone : ∀ s : JsString, (∀ u ∈ s, u ∈ text) → s.dropWhile JsString.isWhite = s := by
    intro s hs
    rw [List.dropWhile_eq_self_iff]
    intro hpos hwhite
    rw [(not_of_value (h _ (hs _ (List.getElem_mem hpos)))).1] at hwhite
    cases hwhite
  rw [JsString.trim, JsString.trimStart, hnone text (fun _ hu => hu), JsString.trimEnd,
    hnone text.reverse (fun _ hu => List.mem_reverse.mp hu), List.reverse_reverse]

theorem OverAlphabet.stripWhite (h : OverAlphabet text) : stripWhite text = text := by
  rw [OwnerSwitch.stripWhite, List.filter_eq_self]
  intro u hu
  rw [(not_of_value (h u hu)).1]
  rfl

/-- No word with a space begins anywhere in a text of the alphabet. -/
theorem OverAlphabet.not_prefix (h : OverAlphabet text) {word : JsString} (hword : 0x20 ∈ word) {t : JsString}
    (ht : t ∈ text.tails) : ¬ word <+: t := by
  intro hhead
  have hsuffix : t <:+ text := (List.mem_tails _ _).mp ht
  exact (not_of_value (h 0x20 (hsuffix.subset (hhead.subset hword)))).2.2 rfl

theorem OverAlphabet.hasPrivateKey (h : OverAlphabet text) : hasPrivateKey text = false := by
  rw [OwnerSwitch.hasPrivateKey, List.any_eq_false]
  intro t ht
  rw [startsPrivateKey, Bool.and_eq_true, decide_eq_true_eq]
  exact fun hstarts => h.not_prefix (by decide) ht hstarts.1

theorem OverAlphabet.countBegin (h : OverAlphabet text) : countBegin text = 0 := by
  rw [OwnerSwitch.countBegin, List.countP_eq_zero]
  intro t ht
  rw [decide_eq_true_eq]
  exact h.not_prefix (by decide) ht

theorem textIncludes_iff {word : JsString} : textIncludes text word = true ↔ word <:+: text := by
  rw [textIncludes, List.any_eq_true, List.infix_iff_prefix_suffix]
  constructor
  · rintro ⟨t, ht, hhead⟩
    exact ⟨t, of_decide_eq_true hhead, (List.mem_tails _ _).mp ht⟩
  · rintro ⟨t, hhead, hsuffix⟩
    exact ⟨t, (List.mem_tails _ _).mpr hsuffix, decide_eq_true hhead⟩

/-- The base64 of octets over the URL-safe alphabet is their URL-safe form. -/
theorem OverAlphabet.btoa (h : OverAlphabet text) {bs : Bytes} (hsame : text = Base64.btoa bs) :
    text = Base64url.encode bs := by
  have hpadded := Base64.btoa_eq bs
  rw [← hsame] at hpadded
  have hzero : Base64.padding bs = 0 := by
    by_contra hpos
    have hmem : Base64.pad ∈ text := by
      rw [hpadded]
      exact List.mem_append_right _ (List.mem_replicate.mpr ⟨hpos, rfl⟩)
    exact (not_of_value (h _ hmem)).2.1 rfl
  rw [hzero, List.replicate_zero, List.append_nil] at hpadded
  rw [hpadded]
  have hstays : ∀ u ∈ Base64url.encode bs, Base64.toStandard u = u := by
    intro u hu
    have hstandard : (Base64url.value (Base64.toStandard u)).isSome = true := by
      apply h
      rw [hpadded]
      exact List.mem_map_of_mem hu
    unfold Base64.toStandard at hstandard ⊢
    split
    · rename_i hminus
      rw [if_pos hminus] at hstandard
      exact absurd hstandard (by decide)
    · rename_i hminus
      split
      · rename_i hunderscore
        rw [if_neg hminus, if_pos hunderscore] at hstandard
        exact absurd hstandard (by decide)
      · rfl
  rw [List.map_congr_left hstays, List.map_id']

end Alphabet

/-! ### Agreement -/

section Agree

variable {κ : Type} {keys : SpkiKeys κ} {deviceId text : JsString}

/-- The canonical text of a P-256 key that its parser exports as it read it. -/
def CanonicalKey (keys : SpkiKeys κ) (text : JsString) (key : κ) : Prop :=
  ∃ der, text = Base64url.encode der ∧ keys.parse der = some key ∧ keys.asymmetricKeyType key = js "ec" ∧
    keys.namedCurve key = some (js "prime256v1") ∧ keys.exportDer key = der

theorem fromB64url_alphabet (h : OverAlphabet text) : fromB64url text = Base64url.decode text := by
  have hall : (text.all fun u => (Base64url.value u).isSome) = true := List.all_eq_true.mpr h
  have hstrip : Base64.stripPadding text = text := by
    have hnone : text.reverse.dropWhile (· = Base64.pad) = text.reverse := by
      rw [List.dropWhile_eq_self_iff]
      intro hpos hpad
      have hmem := List.mem_reverse.mp (List.getElem_mem hpos)
      exact (not_of_value (h _ hmem)).2.1 (of_decide_eq_true hpad)
    rw [Base64.stripPadding, hnone, List.reverse_reverse]
  rw [fromB64url, hall, hstrip]
  cases hdecode : Base64url.decode text with
  | some bs =>
      obtain rfl := Base64url.decode_iff.mp hdecode
      rw [Base64.bufferFrom_encode]
      exact if_pos rfl
  | none =>
      rw [Bool.not_true, if_neg Bool.false_ne_true, if_neg]
      intro hsame
      rw [Base64url.decode_iff.mpr hsame.symm] at hdecode
      cases hdecode

/-- The first reader accepts the canonical texts of keys. -/
theorem storedSpkiToPem_iff (h : OverAlphabet text) {pem : JsString} :
    storedSpkiToPem keys text = .ok pem ↔ ∃ key, CanonicalKey keys text key ∧ pem = keys.exportPem key := by
  unfold storedSpkiToPem
  rw [fromB64url_alphabet h]
  constructor
  · intro hpem
    cases hdecode : Base64url.decode text with
    | none =>
        rw [hdecode] at hpem
        cases hpem
    | some der =>
        rw [hdecode] at hpem
        dsimp only at hpem
        split at hpem
        · cases hpem
        · cases hparse : keys.parse der with
          | none =>
              rw [hparse] at hpem
              cases hpem
          | some key =>
              rw [hparse] at hpem
              dsimp only at hpem
              split_ifs at hpem with hcurve hexport
              rw [not_or, not_not, not_not] at hcurve
              exact ⟨key, ⟨der, Base64url.decode_iff.mp hdecode, hparse, hcurve.1, hcurve.2, not_not.mp hexport⟩,
                (Except.ok.inj hpem).symm⟩
  · rintro ⟨key, ⟨der, rfl, hparse, htype, hcurve, hexport⟩, rfl⟩
    have hlength : der.length ≠ 0 := by
      intro hzero
      rw [List.length_eq_zero_iff.mp hzero, keys.parse_nil] at hparse
      cases hparse
    simp only [Base64url.decode_encode, if_neg hlength, hparse, htype, hcurve, hexport, ne_eq, not_true, or_self,
      if_false]

/-- The second reader accepts those that do not look like a PEM block. -/
theorem enrolledOwnerDeviceFromSpki_iff (h : OverAlphabet text) {device : ParsedOwnerDevice κ} :
    enrolledOwnerDeviceFromSpki keys deviceId text = .ok device ↔
      ¬ js "BEGIN" <:+: text ∧ ∃ key, CanonicalKey keys text key ∧ device = ⟨deviceId, key, 1, none⟩ := by
  have hbody : keyBody deviceId text =
      if js "BEGIN" <:+: text then .error (aboutDevice deviceId (js "key must be exactly one PEM block"))
      else .ok (text, false) := by
    simp only [keyBody, h.hasPrivateKey, Bool.false_eq_true, if_false, textIncludes_iff, h.countBegin, h.stripWhite,
      ne_eq, Nat.zero_ne_one, not_false_eq_true, if_true]
  unfold enrolledOwnerDeviceFromSpki
  rw [h.trim, hbody]
  by_cases hbegin : js "BEGIN" <:+: text
  · rw [if_pos hbegin]
    constructor
    · intro hdevice
      cases hdevice
    · exact fun hdevice => absurd hbegin hdevice.1
  · rw [if_neg hbegin]
    dsimp only
    constructor
    · intro hdevice
      refine ⟨hbegin, ?_⟩
      cases hparse : keys.parse (Base64.bufferFrom text) with
      | none =>
          rw [hparse] at hdevice
          cases hdevice
      | some key =>
          rw [hparse] at hdevice
          dsimp only at hdevice
          split_ifs at hdevice with htype hcurve hexport hcanonical
          rw [not_not] at htype hcurve hexport
          rw [hexport, hparse] at hdevice
          have htext : text = Base64url.encode (keys.exportDer key) := by
            by_contra hne
            apply hcanonical
            refine ⟨fun hpadded => hne (h.btoa hpadded), .inr hne⟩
          rw [hexport] at htext
          exact ⟨key, ⟨_, htext, hparse, htype, hcurve, hexport⟩, (Except.ok.inj hdevice).symm⟩
    · rintro ⟨-, key, ⟨der, rfl, hparse, htype, hcurve, hexport⟩, rfl⟩
      simp only [Base64.bufferFrom_encode, hparse, htype, hcurve, hexport, ne_eq, not_true, if_false, and_false,
        Bool.false_eq_true, or_self]

theorem isOk_iff {ε α : Type} {e : Except ε α} : e.isOk = true ↔ ∃ a, e = .ok a := by
  cases e with
  | error err =>
      constructor
      · intro h
        cases h
      · rintro ⟨a, h⟩
        cases h
  | ok a => exact ⟨fun _ => ⟨a, rfl⟩, fun _ => rfl⟩

/-- What the validator of the registry file asks of octets. -/
def SpkiKeys.isSpkiDer (keys : SpkiKeys κ) (der : Bytes) : Bool :=
  (keys.parse der).any fun key =>
    keys.asymmetricKeyType key = js "ec" && keys.namedCurve key = some (js "prime256v1") && keys.exportDer key = der

theorem overAlphabet_encode (bs : Bytes) : OverAlphabet (Base64url.encode bs) := by
  intro u hu
  rw [Base64.encode_eq_map, List.mem_map] at hu
  obtain ⟨n, hn, rfl⟩ := hu
  rw [Base64url.value_digit (Base64.sextets_lt bs n hn)]
  rfl

/-- The first reader is the check that the registry file is validated with. -/
theorem storedSpkiToPem_isOk (keys : SpkiKeys κ) (text : JsString) :
    (storedSpkiToPem keys text).isOk = RegistryFile.isStoredSpki keys.isSpkiDer text := by
  rw [Bool.eq_iff_iff, isOk_iff, RegistryFile.isStoredSpki]
  cases hdecode : Base64url.decode text with
  | none =>
      constructor
      · rintro ⟨pem, hpem⟩
        by_cases halphabet : OverAlphabet text
        · obtain ⟨key, ⟨der, rfl, -⟩, -⟩ := (storedSpkiToPem_iff halphabet).mp hpem
          rw [Base64url.decode_encode] at hdecode
          cases hdecode
        · have hnone : fromB64url text = none := by
            rw [fromB64url, if_pos]
            rw [Bool.not_eq_true', ← Bool.not_eq_true, List.all_eq_true]
            exact halphabet
          rw [storedSpkiToPem, hnone] at hpem
          cases hpem
      · intro hnone
        cases hnone
  | some der =>
      obtain rfl := Base64url.decode_iff.mp hdecode
      simp only [storedSpkiToPem_iff (overAlphabet_encode der), Bool.and_eq_true, decide_eq_true_eq, SpkiKeys.isSpkiDer,
        Option.any_eq_true]
      constructor
      · rintro ⟨pem, key, ⟨der', hder, hparse, htype, hcurve, hexport⟩, rfl⟩
        obtain rfl := Base64url.encode_injective hder
        refine ⟨?_, key, hparse, ⟨htype, hcurve⟩, hexport⟩
        rintro rfl
        rw [keys.parse_nil] at hparse
        cases hparse
      · rintro ⟨-, key, hparse, ⟨htype, hcurve⟩, hexport⟩
        exact ⟨_, key, ⟨der, rfl, hparse, htype, hcurve, hexport⟩, rfl⟩

/-- The two readers accept the same text, and read the same key from it. -/
structure KeyReadersAgree (keys : SpkiKeys κ) (deviceId text : JsString) : Prop where
  accepts : (storedSpkiToPem keys text).isOk = (enrolledOwnerDeviceFromSpki keys deviceId text).isOk
  same : ∀ pem device, storedSpkiToPem keys text = .ok pem →
    enrolledOwnerDeviceFromSpki keys deviceId text = .ok device → pem = keys.exportPem device.publicKey

/-- The readers agree on a text where it is not the canonical text of a key that has `BEGIN` in it. -/
theorem stored_readers_agree_iff {κ : Type} (keys : SpkiKeys κ) (deviceId text : JsString) (h : OverAlphabet text) :
    KeyReadersAgree keys deviceId text ↔ ¬ js "BEGIN" <:+: text ∨ ∀ key, ¬ CanonicalKey keys text key := by
  constructor
  · intro hagree
    by_contra hboth
    rw [not_or, not_not, not_forall] at hboth
    obtain ⟨hbegin, key, hkey⟩ := hboth
    rw [not_not] at hkey
    have hstored : (storedSpkiToPem keys text).isOk = true :=
      isOk_iff.mpr ⟨_, (storedSpkiToPem_iff h).mpr ⟨key, hkey, rfl⟩⟩
    rw [hagree.accepts, isOk_iff] at hstored
    obtain ⟨device, hdevice⟩ := hstored
    exact ((enrolledOwnerDeviceFromSpki_iff h).mp hdevice).1 hbegin
  · intro hcondition
    constructor
    · rw [Bool.eq_iff_iff, isOk_iff, isOk_iff]
      constructor
      · rintro ⟨pem, hpem⟩
        obtain ⟨key, hkey, -⟩ := (storedSpkiToPem_iff h).mp hpem
        have hbegin : ¬ js "BEGIN" <:+: text := hcondition.resolve_right fun hnone => hnone key hkey
        exact ⟨_, (enrolledOwnerDeviceFromSpki_iff h).mpr ⟨hbegin, key, hkey, rfl⟩⟩
      · rintro ⟨device, hdevice⟩
        obtain ⟨-, key, hkey, -⟩ := (enrolledOwnerDeviceFromSpki_iff h).mp hdevice
        exact ⟨_, (storedSpkiToPem_iff h).mpr ⟨key, hkey, rfl⟩⟩
    · intro pem device hpem hdevice
      obtain ⟨key, ⟨der, rfl, hparse, -⟩, rfl⟩ := (storedSpkiToPem_iff h).mp hpem
      obtain ⟨-, other, ⟨der', hder, hparse', -⟩, rfl⟩ := (enrolledOwnerDeviceFromSpki_iff h).mp hdevice
      obtain rfl := Base64url.encode_injective hder
      obtain rfl := Option.some.inj (hparse.symm.trans hparse')
      rfl

end Agree

/-! ### Keys on P-256 -/

def p256Prime : Nat :=
  0xffffffff00000001000000000000000000000000ffffffffffffffffffffffff

def p256B : Nat :=
  0x5ac635d8aa3a93e7b3ebbd55769886bc651d06b0cc53b0f63bce3c3e27d2604b

/-- The SPKI DER of a P-256 key up to the coordinates of its point. -/
def p256Header : Bytes :=
  [0x30, 0x59, 0x30, 0x13, 0x06, 0x07, 0x2a, 0x86, 0x48, 0xce, 0x3d, 0x02, 0x01, 0x06, 0x08, 0x2a, 0x86, 0x48, 0xce,
    0x3d, 0x03, 0x01, 0x07, 0x03, 0x42, 0x00, 0x04]

def bigEndian (bs : Bytes) : Nat :=
  bs.foldl (fun n b => n * 256 + b.toNat) 0

/-- The SPKI DER of a point of the curve, with nothing after it. -/
def isP256Spki (der : Bytes) : Bool :=
  let x := bigEndian ((der.drop 27).take 32)
  let y := bigEndian (der.drop 59)
  der.length = 91 && p256Header <+: der && x < p256Prime && y < p256Prime &&
    y * y % p256Prime = (x * x * x + (p256Prime - 3) * x + p256B) % p256Prime

/-- The parser of the platform for uncompressed keys on P-256. What follows a key is not looked at. -/
def p256Keys : SpkiKeys Bytes where
  parse := fun der => if isP256Spki (der.take 91) then some (der.take 91) else none
  asymmetricKeyType := fun _ => js "ec"
  namedCurve := fun _ => some (js "prime256v1")
  exportDer := fun key => key
  exportPem := fun key =>
    js "-----BEGIN PUBLIC KEY-----\n" ++ (Base64.btoa key).take 64 ++ js "\n" ++ (Base64.btoa key).drop 64 ++
      js "\n-----END PUBLIC KEY-----\n"
  parse_nil := by decide

/-- The base point of the curve. -/
def baseKeyText : JsString :=
  js "MFkwEwYHKoZIzj0CAQYIKoZIzj0DAQcDQgAEaxfR8uEsQkf4vOblY6RA8ncDfYEt6zOg9KE5RdiYwpZP40Li_hp_m47n60p8D54WK84zV2sxXs7LtkBoN79R9Q"

/-- A key whose text has `BEGIN` in it. -/
def beginKeyText : JsString :=
  js "MFkwEwYHKoZIzj0CAQYIKoZIzj0DAQcDQgAEBEGINAAAAAAAAAAAAAAAAAAAAAAAAAAAAAAAAAAAAAHkDb6xeHO9AUq1mNyaIgtZkUIzqg9LLJgsSBGLRSdcrg"

/-- The base key is accepted by both readers. -/
theorem stored_readers_agree_base :
    KeyReadersAgree p256Keys (js "phone") baseKeyText ∧ (storedSpkiToPem p256Keys baseKeyText).isOk = true := by
  have halphabet : OverAlphabet baseKeyText := by decide +kernel
  have hbegin : ¬ js "BEGIN" <:+: baseKeyText := by decide +kernel
  exact ⟨(stored_readers_agree_iff p256Keys (js "phone") baseKeyText halphabet).mpr (.inl hbegin), by decide +kernel⟩

/-- The stored form of a key with `BEGIN` in it is refused by the other reader. -/
theorem stored_readers_part :
    ¬ ∀ (κ : Type) (keys : SpkiKeys κ) (deviceId text : JsString), OverAlphabet text →
      KeyReadersAgree keys deviceId text := by
  intro hagree
  have halphabet : OverAlphabet beginKeyText := by decide +kernel
  have hstored : (storedSpkiToPem p256Keys beginKeyText).isOk = true := by decide +kernel
  have hrefused : (enrolledOwnerDeviceFromSpki p256Keys (js "phone") beginKeyText).isOk = false := by decide +kernel
  rw [(hagree Bytes p256Keys (js "phone") beginKeyText halphabet).accepts, hrefused] at hstored
  cases hstored

end OwnerSwitch
