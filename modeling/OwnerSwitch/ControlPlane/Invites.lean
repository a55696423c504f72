/-
Module: OwnerSwitch.ControlPlane.Invites
Layer: ControlPlane
Purpose: The invite book: invites are registered as commitments to a secret that the book never sees, read, spent
  at most once, and swept by age and by kill epoch. Every reading of the clock is an argument.
Imports: Lib.Base64url, Lib.JsonText
Trusted boundary: SHA-256 is a parameter
Main exports: InviteRecord, InviteSpendWitness, InviteStore.register, InviteStore.peek, InviteStore.consume,
  InviteStore.invalidateSupersededEpoch, LosesExpired, ConsumeCase
Open obligations: none
-/
import OwnerSwitch.Lib.Base64url
import OwnerSwitch.Lib.JsonText

namespace OwnerSwitch

/-- Who minted an invite, at the standing in force at the mint. -/
inductive InviteOrigin where
  | bootstrap (bootstrapGeneration : Nat)
  | device (deviceId : JsString) (deviceGeneration : Nat)
  deriving DecidableEq, Repr

def InviteOrigin.isBootstrap : InviteOrigin → Bool
  | .bootstrap _ => true
  | .device .. => false

/-- An invite without its end: `Omit<InviteRecord, "expiresAt">`. -/
structure InviteTerms where
  inviteId : JsString
  tokenHash : JsString
  ownerId : JsString
  deviceName : JsString
  challenge : JsString
  assertionChallenge : JsString
  killEpoch : Nat
  origin : InviteOrigin
  deriving DecidableEq, Repr

structure InviteRecord extends InviteTerms where
  expiresAt : Int
  deriving DecidableEq, Repr

/-- The live facts at a mint and at a spend. -/
structure InviteSpendWitness where
  killed : Bool
  killEpoch : Nat
  bootstrapGeneration : Nat
  activeDeviceCount : Nat
  deviceStanding : JsString → Nat → Bool

/-- `Number.isSafeInteger` of a count. -/
def isSafeCount (n : Nat) : Bool :=
  (n : Int) ≤ Json.maxSafeInteger

def InviteSpendWitness.isMalformed (witness : InviteSpendWitness) : Bool :=
  witness.killed || !isSafeCount witness.killEpoch || !isSafeCount witness.bootstrapGeneration ||
    !isSafeCount witness.activeDeviceCount

inductive InviteFate where
  | alive
  | burned
  | absent
  deriving DecidableEq, Repr

inductive InviteConsume where
  | spent (record : InviteRecord)
  | refused (reason : JsString) (fate : InviteFate)

structure InviteStore where
  invites : JsMap JsString InviteRecord
  ttlMs : Int
  maxInvites : Nat

/-- `DEFAULT_TTL_MS` -/
def defaultInviteTtlMs : Int := 10 * 60000

/-- `DEFAULT_MAX` -/
def defaultMaxInvites : Nat := 32

/-- Canonical unpadded base64url of so many octets. -/
def isCanonicalB64url (value : JsString) (minBytes maxBytes : Nat) : Bool :=
  match Base64url.decode value with
  | none => false
  | some decoded => minBytes ≤ decoded.length && decoded.length ≤ maxBytes

namespace InviteStore

variable (store : InviteStore)

/-- The book with some records deleted. -/
def keep (p : JsString → InviteRecord → Bool) : InviteStore :=
  { store with invites := store.invites.filter p }

/-- The book without one record. -/
def drop (inviteId : JsString) : InviteStore :=
  { store with invites := store.invites.delete inviteId }

/-- Sweeps dead invites; `now` is the clock as it is read for each of them. -/
def sweep (now : JsString → Int) : InviteStore :=
  store.keep fun id record => !decide (record.expiresAt ≤ now id)

/-- The authority that an origin must record. -/
def checkOrigin : InviteOrigin → Except JsString Unit
  | .bootstrap bootstrapGeneration =>
      if !isSafeCount bootstrapGeneration then
        .error (js "bootstrap invites must record a non-negative bootstrapGeneration")
      else .ok ()
  | .device deviceId deviceGeneration =>
      if deviceId = [] then .error (js "device-minted invites must record the deviceId")
      else if !isSafeCount deviceGeneration || decide (deviceGeneration < 1) then
        .error (js "device-minted invites must record the issuer's generation (>= 1)")
      else .ok ()

/-- The recorded authority is the live one. -/
def checkLive (origin : InviteOrigin) (witness : InviteSpendWitness) : Except JsString Unit :=
  match origin with
  | .bootstrap bootstrapGeneration =>
      if bootstrapGeneration ≠ witness.bootstrapGeneration then
        .error (js "bootstrap invites must record the CURRENT bootstrap generation at mint")
      else if witness.activeDeviceCount ≠ 0 then
        .error (js "bootstrap invites mint only into an EMPTY registry — an active device exists")
      else .ok ()
  | .device deviceId deviceGeneration =>
      if !witness.deviceStanding deviceId deviceGeneration then
        .error (js "the inviting device is not in standing at its claimed generation")
      else .ok ()

/-- What `register` checks of the terms alone, after the sweep. -/
def checkTerms (record : InviteTerms) : Except JsString Unit :=
  if record.inviteId = [] then .error (js "inviteId must be non-empty")
  else if store.invites.has record.inviteId then
    .error (js "invite \"" ++ record.inviteId ++ js "\" already exists")
  else if !isCanonicalB64url record.tokenHash 32 32 then
    .error (js "tokenHash must be the canonical unpadded base64url of a SHA-256 (43 chars)")
  else if record.challenge = [] ∨ record.assertionChallenge = [] then
    .error (js "an invite carries BOTH ceremony challenges (creation + possession assertion)")
  else if record.deviceName = [] ∨ 200 < record.deviceName.length then
    .error (js "deviceName is required (non-empty, <= 200 chars)")
  else if record.ownerId = [] then .error (js "ownerId must be non-empty")
  else if !isSafeCount record.killEpoch then .error (js "killEpoch must be a non-negative safe integer")
  else checkOrigin record.origin

/-- The checks of `register` against the mint witness, and the cap. -/
def checkMint (record : InviteTerms) (mintWitness : InviteSpendWitness) : Except JsString Unit :=
  if mintWitness.killed then .error (js "the kill switch is engaged — nothing MINTS while killed")
  else if mintWitness.isMalformed then
    .error (js "malformed mint witness (fail closed) — nothing mints unproven")
  else if record.killEpoch ≠ mintWitness.killEpoch then
    .error (js "invite killEpoch must be the CURRENT kill epoch at mint")
  else do
    checkLive record.origin mintWitness
    if store.maxInvites ≤ store.invites.size then
      .error (js "too many live invites (" ++ Json.natText store.maxInvites ++ js ") — spend or let them expire")
    else .ok ()

/-- `register`: the record, or the reason it throws with, and the book. -/
def register (swept : JsString → Int) (now : Int) (record : InviteTerms) (mintWitness : InviteSpendWitness) :
    Except JsString InviteRecord × InviteStore :=
  let store := store.sweep swept
  match (do store.checkTerms record; store.checkMint record mintWitness : Except JsString Unit) with
  | .error reason => (.error reason, store)
  | .ok () =>
      let full : InviteRecord := { record with expiresAt := now + store.ttlMs }
      (.ok full, { store with invites := store.invites.set full.inviteId full })

/-- `peek`: reads without spending. -/
def peek (now : Int) (inviteId : JsString) : Option InviteRecord × InviteStore :=
  match store.invites.get? inviteId with
  | none => (none, store)
  | some record => if record.expiresAt ≤ now then (none, store.drop inviteId) else (some record, store)

/-- The secret is an opaque token in canonical form. -/
def isToken (tokenSecret : JsString) : Bool :=
  22 ≤ tokenSecret.length && tokenSecret.length ≤ 128 && (Base64url.decode tokenSecret).isSome

/-- The secret is the preimage of the commitment. -/
def opens (sha256 : Bytes → Bytes) (tokenSecret tokenHash : JsString) : Bool :=
  Base64url.decode tokenHash = some (sha256 (Utf8.encode tokenSecret))

/-- The live authority at a spend: the reason it is refused with. -/
def checkSpend (record : InviteRecord) (witness : InviteSpendWitness) : Except JsString Unit :=
  if record.killEpoch ≠ witness.killEpoch then .error (js "invite was minted under a superseded kill epoch")
  else
    match record.origin with
    | .bootstrap bootstrapGeneration =>
        if bootstrapGeneration ≠ witness.bootstrapGeneration then
          .error (js "invite was minted under a superseded bootstrap generation")
        else if witness.activeDeviceCount ≠ 0 then
          .error (js "bootstrap invites enroll only into an EMPTY registry — an active device exists")
        else .ok ()
    | .device deviceId deviceGeneration =>
        if !witness.deviceStanding deviceId deviceGeneration then
          .error (js "the inviting device is no longer in standing at its minting generation")
        else .ok ()

/-- The book after a record was reserved and its authority held: a bootstrap spend burns its siblings too. -/
def settle (record : InviteRecord) : InviteStore :=
  if record.origin.isBootstrap then store.keep fun _ sibling => !sibling.origin.isBootstrap else store

/-- `#consume`: check and burn, in one step. -/
def consume (sha256 : Bytes → Bytes) (now : Int) (inviteId tokenSecret : JsString) (witness : InviteSpendWitness) :
    InviteConsume × InviteStore :=
  if witness.killed then
    (.refused (js "the kill switch is engaged — nothing enrolls while killed, and the attempted invite is burned")
      (if store.invites.has inviteId then .burned else .absent), store.drop inviteId)
  else if witness.isMalformed then
    (.refused (js "spend refused: malformed live witness (fail closed)") .alive, store)
  else
    match store.invites.get? inviteId with
    | none => (.refused (js "unknown or already-spent invite") .absent, store)
    | some record =>
        if record.expiresAt ≤ now then (.refused (js "invite expired") .absent, store.drop inviteId)
        else if !isToken tokenSecret then
          (.refused (js "invite secret is not a canonical token (base64url, >= 22 chars)") .alive, store)
        else if !opens sha256 tokenSecret record.tokenHash then
          (.refused (js "invite secret does not match the commitment") .alive, store)
        else
          -- the record is reserved before its authority is judged
          let reserved := store.drop inviteId
          match checkSpend record witness with
          | .error reason => (.refused reason .burned, reserved)
          | .ok () => (.spent record, reserved.settle record)

/-- The hook of a kill and of a restore: how many invites of other epochs it removed, and the book. -/
def invalidateSupersededEpoch (currentEpoch : Nat) : Nat × InviteStore :=
  let kept := store.keep fun _ record => record.killEpoch = currentEpoch
  (store.invites.size - kept.invites.size, kept)

/-! ### What the operations do to the book -/

/-- The book only lost invites that had expired at a reading of the clock. -/
structure LosesExpired (read : Int → Prop) (before after : InviteStore) : Prop where
  sub : ∀ id record, after.invites.get? id = some record → before.invites.get? id = some record
  kept : ∀ id record, before.invites.get? id = some record →
    after.invites.get? id = some record ∨ ∃ t, read t ∧ record.expiresAt ≤ t

theorem LosesExpired.refl (read : Int → Prop) (store : InviteStore) : LosesExpired read store store where
  sub := fun _ _ h => h
  kept := fun _ _ h => .inl h

theorem LosesExpired.trans {read : Int → Prop} {a b c : InviteStore} (hab : LosesExpired read a b)
    (hbc : LosesExpired read b c) : LosesExpired read a c where
  sub := fun id record h => hab.sub id record (hbc.sub id record h)
  kept := by
    intro id record h
    cases hab.kept id record h with
    | inl hb => exact hbc.kept id record hb
    | inr hexpired => exact .inr hexpired

theorem LosesExpired.mono {read read' : Int → Prop} {a b : InviteStore} (h : LosesExpired read a b)
    (hread : ∀ t, read t → read' t) : LosesExpired read' a b where
  sub := h.sub
  kept := by
    intro id record hget
    cases h.kept id record hget with
    | inl hb => exact .inl hb
    | inr hexpired =>
        obtain ⟨t, ht, hle⟩ := hexpired
        exact .inr ⟨t, hread t ht, hle⟩

variable {store : InviteStore}

theorem get?_of_keep {p : JsString → InviteRecord → Bool} {id : JsString} {record : InviteRecord}
    (h : (store.keep p).invites.get? id = some record) : store.invites.get? id = some record ∧ p id record = true := by
  rw [keep, JsMap.get?_filter, Option.filter_eq_some_iff] at h
  exact h

theorem get?_keep_of {p : JsString → InviteRecord → Bool} {id : JsString} {record : InviteRecord}
    (h : store.invites.get? id = some record) (hp : p id record = true) :
    (store.keep p).invites.get? id = some record := by
  simp only [keep, JsMap.get?_filter, h, hp, Option.filter_some, if_true]

theorem get?_drop (inviteId id : JsString) :
    (store.drop inviteId).invites.get? id = if id = inviteId then none else store.invites.get? id :=
  JsMap.get?_delete ..

@[simp] theorem get?_drop_self (inviteId : JsString) : (store.drop inviteId).invites.get? inviteId = none :=
  JsMap.get?_delete_self ..

/-- A sweep loses expired invites alone. -/
theorem losesExpired_sweep (store : InviteStore) (now : JsString → Int) :
    LosesExpired (fun t => ∃ id, now id = t) store (store.sweep now) where
  sub := fun _ _ h => (get?_of_keep h).1
  kept := by
    intro id record h
    by_cases hexpired : record.expiresAt ≤ now id
    · exact .inr ⟨now id, ⟨id, rfl⟩, hexpired⟩
    · exact .inl (get?_keep_of h (by simpa using hexpired))

/-- An expired invite is dropped. -/
theorem losesExpired_drop {now : Int} {inviteId : JsString} {record : InviteRecord}
    (hlisted : store.invites.get? inviteId = some record) (hexpired : record.expiresAt ≤ now) :
    LosesExpired (· = now) store (store.drop inviteId) where
  sub := fun _ _ h => JsMap.get?_of_delete h
  kept := by
    intro id other h
    rw [get?_drop]
    split
    · rename_i heq
      rw [heq, hlisted] at h
      obtain rfl := Option.some.inj h
      exact .inr ⟨now, rfl, hexpired⟩
    · exact .inl h

/-- A look at an invite loses it where it has expired. -/
theorem losesExpired_peek (store : InviteStore) (now : Int) (inviteId : JsString) :
    LosesExpired (· = now) store (store.peek now inviteId).2 := by
  unfold peek
  cases hget : store.invites.get? inviteId with
  | none => exact .refl _ _
  | some record =>
      dsimp only
      split
      · rename_i hexpired
        exact losesExpired_drop hget hexpired
      · exact .refl _ _

/-- What `peek` does not find is not in the book it leaves; what it finds is, and has not expired. -/
theorem peek_spec (store : InviteStore) (now : Int) (inviteId : JsString) :
    (store.peek now inviteId).2.invites.get? inviteId = (store.peek now inviteId).1 ∧
      ∀ record, (store.peek now inviteId).1 = some record → now < record.expiresAt := by
  unfold peek
  cases hget : store.invites.get? inviteId with
  | none => exact ⟨hget, nofun⟩
  | some record =>
      dsimp only
      split
      · exact ⟨get?_drop_self inviteId, nofun⟩
      · rename_i hlive
        refine ⟨hget, fun other heq => ?_⟩
        obtain rfl := Option.some.inj heq
        exact not_le.mp hlive

/-- The live authority that a mint and a spend need. -/
structure Authorizes (witness : InviteSpendWitness) (terms : InviteTerms) : Prop where
  unkilled : witness.killed = false
  epoch : terms.killEpoch = witness.killEpoch
  bootstrap : ∀ generation, terms.origin = .bootstrap generation →
    generation = witness.bootstrapGeneration ∧ witness.activeDeviceCount = 0
  device : ∀ deviceId generation, terms.origin = .device deviceId generation →
    witness.deviceStanding deviceId generation = true

theorem authorizes_of_checkLive {origin : InviteOrigin} {witness : InviteSpendWitness}
    (h : checkLive origin witness = .ok ()) :
    (∀ generation, origin = .bootstrap generation →
      generation = witness.bootstrapGeneration ∧ witness.activeDeviceCount = 0) ∧
    ∀ deviceId generation, origin = .device deviceId generation →
      witness.deviceStanding deviceId generation = true := by
  cases origin with
  | bootstrap generation =>
      simp only [checkLive] at h
      split_ifs at h with hgeneration hactive
      rw [not_not] at hgeneration hactive
      refine ⟨fun other heq => ?_, nofun⟩
      obtain rfl := InviteOrigin.bootstrap.inj heq
      exact ⟨hgeneration, hactive⟩
  | device deviceId generation =>
      simp only [checkLive] at h
      split_ifs at h with hstanding
      refine ⟨nofun, fun id other heq => ?_⟩
      obtain ⟨rfl, rfl⟩ := InviteOrigin.device.inj heq
      simpa using hstanding

/-- An invite is spent only where its mint would still be authorized. -/
theorem authorizes_of_checkSpend {record : InviteRecord} {witness : InviteSpendWitness}
    (hunkilled : witness.killed = false) (h : checkSpend record witness = .ok ()) :
    Authorizes witness record.toInviteTerms := by
  unfold checkSpend at h
  split at h
  · cases h
  rename_i hepoch
  rw [not_not] at hepoch
  have hlive : checkLive record.origin witness = .ok () := by
    cases horigin : record.origin with
    | bootstrap generation =>
        rw [horigin] at h
        dsimp only at h
        split_ifs at h with hgeneration hactive
        simp only [checkLive, if_neg hgeneration, if_neg hactive]
    | device deviceId generation =>
        rw [horigin] at h
        dsimp only at h
        split_ifs at h with hstanding
        simp only [checkLive, if_neg hstanding]
  obtain ⟨hbootstrap, hdevice⟩ := authorizes_of_checkLive hlive
  exact ⟨hunkilled, hepoch, hbootstrap, hdevice⟩

/-- How `register` can go. -/
inductive RegisterCase (store : InviteStore) (now : Int) (terms : InviteTerms) (witness : InviteSpendWitness) :
    Except JsString InviteRecord × InviteStore → Prop where
  | refused {reason} : RegisterCase store now terms witness (.error reason, store)
  | registered {record} (record_eq : record = { terms with expiresAt := now + store.ttlMs })
      (unused : store.invites.get? terms.inviteId = none) (authorizes : Authorizes witness terms) :
      RegisterCase store now terms witness
        (.ok record, { store with invites := store.invites.set terms.inviteId record })

theorem checkTerms_unused {terms : InviteTerms} (h : store.checkTerms terms = .ok ()) :
    store.invites.get? terms.inviteId = none := by
  unfold checkTerms at h
  split_ifs at h with _ hunused
  exact JsMap.has_eq_false_iff.mp (by simpa using hunused)

/-- An invite is minted only by who may mint it. -/
theorem checkMint_authorizes {terms : InviteTerms} {witness : InviteSpendWitness}
    (h : store.checkMint terms witness = .ok ()) : Authorizes witness terms := by
  unfold checkMint at h
  split at h
  · cases h
  rename_i hkilled
  split at h
  · cases h
  split at h
  · cases h
  rename_i hepoch
  rw [not_not] at hepoch
  cases hlive : checkLive terms.origin witness with
  | error reason =>
      rw [hlive] at h
      cases h
  | ok u =>
      obtain ⟨hbootstrap, hdevice⟩ := authorizes_of_checkLive hlive
      exact ⟨by simpa using hkilled, hepoch, hbootstrap, hdevice⟩

/-- What a registration comes to. -/
theorem register_cases (store : InviteStore) (swept : JsString → Int) (now : Int) (terms : InviteTerms)
    (witness : InviteSpendWitness) :
    RegisterCase (store.sweep swept) now terms witness (store.register swept now terms witness) := by
  unfold register
  dsimp only
  cases hterms : (store.sweep swept).checkTerms terms with
  | error reason => exact .refused
  | ok u =>
      cases hmint : (store.sweep swept).checkMint terms witness with
      | error reason =>
          simp only [bind, Except.bind]
          exact .refused
      | ok u =>
          simp only [bind, Except.bind]
          exact .registered rfl (checkTerms_unused hterms) (checkMint_authorizes hmint)

/-- How `#consume` can go. -/
inductive ConsumeCase (store : InviteStore) (now : Int) (inviteId : JsString) (witness : InviteSpendWitness) :
    InviteConsume × InviteStore → Prop where
  | alive {reason} : ConsumeCase store now inviteId witness (.refused reason .alive, store)
  | absent {reason} (unlisted : store.invites.get? inviteId = none) :
      ConsumeCase store now inviteId witness (.refused reason .absent, store)
  | dropped {reason fate} (gone : fate ≠ .alive) :
      ConsumeCase store now inviteId witness (.refused reason fate, store.drop inviteId)
  | spent {record} (listed : store.invites.get? inviteId = some record) (live : now < record.expiresAt)
      (authorizes : Authorizes witness record.toInviteTerms) :
      ConsumeCase store now inviteId witness (.spent record, (store.drop inviteId).settle record)

/-- What a spend comes to. -/
theorem consume_cases (store : InviteStore) (sha256 : Bytes → Bytes) (now : Int) (inviteId tokenSecret : JsString)
    (witness : InviteSpendWitness) :
    ConsumeCase store now inviteId witness (store.consume sha256 now inviteId tokenSecret witness) := by
  unfold consume
  split
  · apply ConsumeCase.dropped
    split
    · intro halive
      cases halive
    · intro halive
      cases halive
  · rename_i hunkilled
    split
    · exact .alive
    · cases hget : store.invites.get? inviteId with
      | none => exact .absent hget
      | some record =>
          dsimp only
          split
          · exact .dropped (fun halive => by cases halive)
          · rename_i hlive
            split
            · exact .alive
            · split
              · exact .alive
              · cases hspend : checkSpend record witness with
                | error reason => exact .dropped (fun halive => by cases halive)
                | ok u =>
                    exact .spent hget (not_le.mp hlive)
                      (authorizes_of_checkSpend (by simpa using hunkilled) hspend)

/-- A settled book has only what was in the book, and after a bootstrap spend no bootstrap invite. -/
theorem get?_of_settle {record other : InviteRecord} {id : JsString}
    (h : (store.settle record).invites.get? id = some other) :
    store.invites.get? id = some other ∧ (record.origin.isBootstrap = true → other.origin.isBootstrap = false) := by
  unfold settle at h
  split at h
  · obtain ⟨hget, hsibling⟩ := get?_of_keep h
    exact ⟨hget, fun _ => by simpa using hsibling⟩
  · rename_i horigin
    exact ⟨h, fun hbootstrap => absurd hbootstrap horigin⟩

end InviteStore

end OwnerSwitch
