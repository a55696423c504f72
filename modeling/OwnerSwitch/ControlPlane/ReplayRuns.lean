/-
Module: OwnerSwitch.ControlPlane.ReplayRuns
Layer: ControlPlane
Purpose: What a nonce is worth over every sequence of calls of the two lanes on one store, with a clock that does not run
  backwards: it is spent until the clock has passed the window of the request that spent it, and a valid request is
  refused for its nonce only where one of the same key was accepted.
Imports: DeviceSignatures, Lib.Lts
Trusted boundary: that of DeviceSignatures
Main exports: replayRuns, ReplayEdge.Accepts, NonceLaw, nonce_law, replay_not_exact
Open obligations: none
-/
import OwnerSwitch.ControlPlane.DeviceSignatures
import OwnerSwitch.Lib.Lts

namespace OwnerSwitch

/-! ### Runs -/

/-- The shared store, and the last reading of the clock. -/
structure ReplayStore where
  seen : SeenNonces
  clock : Int

section Runs

variable {κ : Type} (crypto : SignatureCrypto κ)

/-- What a call leaves. -/
def ReplayStore.after (s : ReplayStore) (call : SignedCall κ) : ReplayStore :=
  ⟨(call.verify crypto s.seen).2, call.now s.seen.size⟩

/-- Calls of both lanes, one after the other. -/
def replayRuns : Lts ReplayStore (SignedCall κ) where
  init s := s.seen = JsMap.empty
  next s call s' := s.clock ≤ call.now 0 ∧ s' = s.after crypto call

namespace ReplayEdge

variable (e : Lts.Edge ReplayStore (SignedCall κ))

/-- The reading that the window is checked against. -/
def reading : Int :=
  e.label.now e.src.seen.size

/-- The request has a valid signature with this timestamp, inside the window. -/
def Valid (timestamp : Int) : Prop :=
  e.label.checked crypto (reading e) = some timestamp

def Accepts : Prop :=
  (e.label.verify crypto e.src.seen).1 = true

end ReplayEdge

open ReplayEdge

/-! ### One call -/

variable {crypto} {s : ReplayStore} {call : SignedCall κ}

/-- What an accepted call does. -/
structure Spends (crypto : SignatureCrypto κ) (s : ReplayStore) (call : SignedCall κ) (timestamp : Int) : Prop where
  checked : call.checked crypto (call.now s.seen.size) = some timestamp
  unspent : (s.seen.sweep call.now).get? call.nonceKey = none
  spent : (s.after crypto call).seen = (s.seen.sweep call.now).set call.nonceKey (timestamp + call.maxSkewMs)

/-- A call spends its nonce or leaves the swept store. -/
theorem after_cases (crypto : SignatureCrypto κ) (s : ReplayStore) (call : SignedCall κ) :
    (∃ timestamp, (call.verify crypto s.seen).1 = true ∧ Spends crypto s call timestamp) ∨
      (call.verify crypto s.seen).1 = false ∧ (s.after crypto call).seen = s.seen.sweep call.now ∧
        ∀ timestamp, call.checked crypto (call.now s.seen.size) = some timestamp →
          (s.seen.sweep call.now).has call.nonceKey = true := by
  have hverify := call.verify_eq crypto s.seen
  cases hchecked : call.checked crypto (call.now s.seen.size) with
  | none =>
      rw [hchecked] at hverify
      right
      rw [ReplayStore.after, hverify]
      exact ⟨rfl, rfl, fun _ h => by cases h⟩
  | some timestamp =>
      rw [hchecked] at hverify
      cases hhas : (s.seen.sweep call.now).has call.nonceKey with
      | true =>
          rw [hhas] at hverify
          right
          rw [ReplayStore.after, hverify]
          exact ⟨rfl, rfl, fun _ _ => rfl⟩
      | false =>
          rw [hhas] at hverify
          left
          refine ⟨timestamp, by rw [hverify]; rfl, hchecked, JsMap.has_eq_false_iff.mp hhas, ?_⟩
          rw [ReplayStore.after, hverify]
          rfl

theorem spends_of_accepts {e : Lts.Edge ReplayStore (SignedCall κ)} (h : Accepts crypto e) :
    ∃ timestamp, Spends crypto e.src e.label timestamp := by
  obtain ⟨timestamp, -, hspends⟩ | ⟨hrefused, -⟩ := after_cases crypto e.src e.label
  · exact ⟨timestamp, hspends⟩
  · rw [Accepts, hrefused] at h
    cases h

/-! ### The keys -/

/-- The fields of a request are free of the separator of the keys. -/
def SignedCall.Separate (call : SignedCall κ) : Prop :=
  0x3A ∉ call.credential.deviceId ∧ 0x3A ∉ call.credential.nonce

/-- A request of the fleet lane whose fields are free of the separator, or any of the owner lane, which refuses others. -/
def SignedCall.FleetSeparate (call : SignedCall κ) : Prop :=
  call.context.lane = .fleet → call.Separate

theorem SignedCall.FleetSeparate.separate {call : SignedCall κ} (h : call.FleetSeparate) {reading timestamp : Int}
    (hchecked : call.checked crypto reading = some timestamp) : call.Separate := by
  cases hlane : call.context.lane with
  | fleet => exact h hlane
  | owner => exact (SignedCall.checked_spec hchecked).separate hlane

/-- A key of the fleet lane is one of the owner lane where the device is called `owner`. -/
theorem nonceKey_alias {fleet owner : SignedCall κ} (hfleet : fleet.context.lane = .fleet)
    (howner : owner.context.lane = .owner) (hdevice : fleet.credential.deviceId = js "owner")
    (hnonce : fleet.credential.nonce = owner.credential.deviceId ++ js ":" ++ owner.credential.nonce) :
    fleet.nonceKey = owner.nonceKey := by
  simp only [SignedCall.nonceKey, hfleet, howner, hdevice, hnonce]
  rw [← List.append_assoc, ← List.append_assoc]
  rfl

/-- A text is split at its first separator in one way. -/
theorem joined_inj {left right left' right' : JsString} (hleft : 0x3A ∉ left) (hleft' : 0x3A ∉ left')
    (h : left ++ js ":" ++ right = left' ++ js ":" ++ right') : left = left' ∧ right = right' := by
  induction left generalizing left' with
  | nil =>
      cases left' with
      | nil => exact ⟨rfl, (List.cons.inj h).2⟩
      | cons u left' => exact absurd (List.mem_cons.mpr (.inl (List.cons.inj h).1)) hleft'
  | cons u left ih =>
      cases left' with
      | nil => exact absurd (List.mem_cons.mpr (.inl (List.cons.inj h).1.symm)) hleft
      | cons u' left' =>
          obtain ⟨rfl, hrest⟩ := List.cons.inj h
          obtain ⟨rfl, hright⟩ := ih (List.not_mem_of_not_mem_cons hleft) (List.not_mem_of_not_mem_cons hleft') hrest
          exact ⟨rfl, hright⟩

/-- Where the fields are free of the separator, a key is of one lane, one device and one nonce. -/
theorem nonceKey_separate {call other : SignedCall κ} (hcall : call.Separate) (hother : other.Separate)
    (h : call.nonceKey = other.nonceKey) : call.triple = other.triple := by
  obtain ⟨hdevice, hnonce⟩ := hcall
  obtain ⟨hdevice', hnonce'⟩ := hother
  -- a key of the owner lane is that of a device `owner` whose nonce has a separator
  have howner : 0x3A ∉ js "owner" := by decide
  have hlanes : ∀ {left right device nonce : JsString}, 0x3A ∉ left → 0x3A ∉ right →
      left ++ js ":" ++ right ≠ js "owner:" ++ device ++ js ":" ++ nonce := by
    intro left right device nonce hleft hright heq
    have hsplit : js "owner:" ++ device ++ js ":" ++ nonce = js "owner" ++ js ":" ++ (device ++ js ":" ++ nonce) := by
      simp only [List.append_assoc]
      rfl
    rw [hsplit] at heq
    obtain ⟨-, rfl⟩ := joined_inj hleft howner heq
    exact hright (List.mem_append_left _ (List.mem_append_right _ (List.mem_cons_self ..)))
  simp only [SignedCall.nonceKey, SignedCall.triple] at h ⊢
  cases hlane : call.context.lane with
  | fleet =>
      cases hlane' : other.context.lane with
      | fleet =>
          rw [hlane, hlane'] at h
          obtain ⟨hsame, hsame'⟩ := joined_inj hdevice hdevice' h
          rw [hsame, hsame']
      | owner =>
          rw [hlane, hlane'] at h
          exact absurd h (hlanes hdevice hnonce)
  | owner =>
      cases hlane' : other.context.lane with
      | fleet =>
          rw [hlane, hlane'] at h
          exact absurd h.symm (hlanes hdevice' hnonce')
      | owner =>
          rw [hlane, hlane'] at h
          simp only [List.append_assoc, List.append_cancel_left_eq] at h
          simp only [← List.append_assoc] at h
          obtain ⟨hsame, hsame'⟩ := joined_inj hdevice hdevice' h
          rw [hsame, hsame']

/-! ### Every run -/

/-- How the store of a run stands to the calls that were accepted. -/
structure SpentIn (crypto : SignatureCrypto κ) (es : List (Lts.Edge ReplayStore (SignedCall κ))) (s : ReplayStore) :
    Prop where
  /-- Every entry is that of a call that was accepted. -/
  accepted : ∀ key staleAfter, s.seen.get? key = some staleAfter → ∃ e ∈ es, Accepts crypto e ∧ e.label.nonceKey = key
  /-- Every accepted call has its entry until the clock has passed its window. -/
  kept : ∀ e ∈ es, ∀ timestamp, Accepts crypto e → Valid crypto e timestamp →
    timestamp + e.label.maxSkewMs < s.clock ∨
      s.seen.get? e.label.nonceKey = some (timestamp + e.label.maxSkewMs)

/-- An entry is still there after the sweep of a call, or the clock has passed it by the call's last reading. -/
theorem kept_of_sweep {key : JsString} {staleAfter : Int} (hclock : s.clock ≤ call.now 0)
    (h : staleAfter < s.clock ∨ s.seen.get? key = some staleAfter) :
    staleAfter < call.now s.seen.size ∨ (s.seen.sweep call.now).get? key = some staleAfter := by
  rcases h with hpassed | hget
  · left
    exact lt_of_lt_of_le hpassed (hclock.trans (call.monotone (Nat.zero_le _)))
  · exact (SeenNonces.get?_sweep call.monotone hget).symm

theorem spentIn_of_exec {es : List (Lts.Edge ReplayStore (SignedCall κ))} {t : ReplayStore}
    (h : (replayRuns crypto).Exec es t) : SpentIn crypto es t := by
  apply h.induct (I := fun es t => SpentIn crypto es t)
  · intro s hinit
    constructor
    · intro key staleAfter hget
      rw [hinit, JsMap.get?_empty] at hget
      cases hget
    · intro e he
      cases he
  · intro es s call t _ ih hnext
    obtain ⟨hclock, rfl⟩ := hnext
    have hlast : ⟨s, call, s.after crypto call⟩ ∈ es ++ [(⟨s, call, s.after crypto call⟩ : Lts.Edge _ _)] :=
      List.mem_append_right _ (List.mem_singleton_self _)
    constructor
    · intro key staleAfter hget
      obtain ⟨timestamp, haccepts, hspends⟩ | ⟨-, hseen, -⟩ := after_cases crypto s call
      · rw [hspends.spent, JsMap.get?_set] at hget
        split_ifs at hget with hkey
        · exact ⟨_, hlast, haccepts, hkey.symm⟩
        · obtain ⟨e, he, hold⟩ := ih.accepted key staleAfter (SeenNonces.get?_of_sweep hget)
          exact ⟨e, List.mem_append_left _ he, hold⟩
      · rw [hseen] at hget
        obtain ⟨e, he, hold⟩ := ih.accepted key staleAfter (SeenNonces.get?_of_sweep hget)
        exact ⟨e, List.mem_append_left _ he, hold⟩
    · intro e he timestamp haccepts hvalid
      rcases List.mem_append.mp he with he | he
      · have hswept := kept_of_sweep hclock (ih.kept e he timestamp haccepts hvalid)
        obtain ⟨timestamp', -, hspends⟩ | ⟨-, hseen, -⟩ := after_cases crypto s call
        · rcases hswept with hpassed | hget
          · exact .inl hpassed
          · -- the entry is in the way of every call of its key
            have hother : e.label.nonceKey ≠ call.nonceKey := by
              intro hsame
              rw [hsame, hspends.unspent] at hget
              cases hget
            right
            rw [hspends.spent, JsMap.get?_set_ne _ _ hother]
            exact hget
        · rw [hseen]
          exact hswept
      · obtain rfl := List.mem_singleton.mp he
        obtain ⟨timestamp', hspends⟩ := spends_of_accepts haccepts
        obtain rfl : timestamp' = timestamp := Option.some.inj (hspends.checked.symm.trans hvalid)
        right
        rw [hspends.spent, JsMap.get?_set_self]

/-! ### The law of nonces -/

/-- What holds of the two lanes over every run. -/
structure NonceLaw (crypto : SignatureCrypto κ) (es : List (Lts.Edge ReplayStore (SignedCall κ))) : Prop where
  /-- A lane accepts a nonce of a device again only after the window of the request that spent it. -/
  window : ∀ e f timestamp, Lts.Precedes es e f → Accepts crypto e → Accepts crypto f → Valid crypto e timestamp →
    e.label.triple = f.label.triple → timestamp + e.label.maxSkewMs < reading f
  /-- With the same skew it is accepted with a later timestamp only. -/
  once : ∀ e f timestamp timestamp', Lts.Precedes es e f → Accepts crypto e → Accepts crypto f →
    Valid crypto e timestamp → Valid crypto f timestamp' → e.label.maxSkewMs = f.label.maxSkewMs →
    e.label.triple = f.label.triple → timestamp < timestamp'
  /-- A valid request is refused for its nonce only where a request of its key was accepted before: one of its lane,
      device and nonce, if no separator is in the fields of either that is of the fleet lane. -/
  refused : ∀ f ∈ es, ∀ timestamp, Valid crypto f timestamp → ¬ Accepts crypto f →
    ∃ e, Lts.Precedes es e f ∧ Accepts crypto e ∧ e.label.nonceKey = f.label.nonceKey ∧
      (e.label.FleetSeparate → f.label.FleetSeparate → e.label.triple = f.label.triple)

theorem nonceKey_of_triple {call other : SignedCall κ} (h : call.triple = other.triple) :
    call.nonceKey = other.nonceKey := by
  simp only [SignedCall.triple, Prod.mk.injEq] at h
  obtain ⟨hlane, hdevice, hnonce⟩ := h
  simp only [SignedCall.nonceKey, hlane, hdevice, hnonce]

/-- Where a key is spent again, the clock has passed the window of the request that spent it. -/
theorem window_passed {es : List (Lts.Edge ReplayStore (SignedCall κ))} {t : ReplayStore}
    (h : (replayRuns crypto).Exec es t) {e f : Lts.Edge ReplayStore (SignedCall κ)} {timestamp : Int}
    (hef : Lts.Precedes es e f) (he : Accepts crypto e) (hf : Accepts crypto f) (hvalid : Valid crypto e timestamp)
    (hkey : e.label.nonceKey = f.label.nonceKey) : timestamp + e.label.maxSkewMs < reading f := by
  obtain ⟨pre, mid, post, rfl⟩ := hef
  rw [← List.cons_append, ← List.append_assoc] at h
  obtain ⟨hpre, hnext, -⟩ := h.split
  have hkept := (spentIn_of_exec hpre).kept e (List.mem_append_right _ (List.mem_cons_self ..)) timestamp he hvalid
  obtain ⟨timestamp', hspends⟩ := spends_of_accepts hf
  rcases kept_of_sweep hnext.1 hkept with hpassed | hget
  · exact hpassed
  · rw [hkey, hspends.unspent] at hget
    cases hget

/-- Every sequence of calls keeps the law. -/
theorem nonce_law (crypto : SignatureCrypto κ) (es : List (Lts.Edge ReplayStore (SignedCall κ))) (t : ReplayStore)
    (h : (replayRuns crypto).Exec es t) : NonceLaw crypto es := by
  have hwindow : ∀ e f timestamp, Lts.Precedes es e f → Accepts crypto e → Accepts crypto f →
      Valid crypto e timestamp → e.label.triple = f.label.triple → timestamp + e.label.maxSkewMs < reading f := by
    intro e f timestamp hef he hf hvalid htriple
    exact window_passed h hef he hf hvalid (nonceKey_of_triple htriple)
  constructor
  · exact hwindow
  · intro e f timestamp timestamp' hef he hf hvalid hvalid' hskew htriple
    have hpassed := hwindow e f timestamp hef he hf hvalid htriple
    have hinside := abs_le.mp (SignedCall.checked_spec hvalid').window
    omega
  · intro f hf timestamp hvalid hrefused
    obtain ⟨pre, post, rfl⟩ := List.append_of_mem hf
    obtain ⟨hpre, -, -⟩ := h.split
    obtain ⟨_, haccepts, -⟩ | ⟨-, -, hspent⟩ := after_cases crypto f.src f.label
    · exact absurd haccepts hrefused
    · obtain ⟨staleAfter, hget⟩ := JsMap.has_iff.mp (hspent timestamp hvalid)
      obtain ⟨e, he, haccepts, hkey⟩ := (spentIn_of_exec hpre).accepted _ _ (SeenNonces.get?_of_sweep hget)
      obtain ⟨_, hspends⟩ := spends_of_accepts haccepts
      have hprecedes : Lts.Precedes (pre ++ f :: post) e f := by
        obtain ⟨a, b, rfl⟩ := List.append_of_mem he
        exact ⟨a, b, post, by simp⟩
      refine ⟨e, hprecedes, haccepts, hkey, ?_⟩
      intro hsep hsep'
      exact nonceKey_separate (hsep.separate hspends.checked) (hsep'.separate hvalid) hkey

end Runs

/-! ### The keys of the two lanes meet, and nonces are forgotten -/

/-- Primitives that accept: every digest and signature is all zeros. -/
def zeroCrypto : SignatureCrypto Unit where
  hmacSha256 _ _ := List.replicate 32 0
  sha256 _ := List.replicate 32 0
  cryptoVerify _ _ _ := some true
  fromBase64url _ := List.replicate 64 0
  serializeTarget := some
  toUpperCase := asciiUpperCase

/-- A call at one instant with the server's skew. -/
def callAt (context : LaneContext Unit) (deviceId nonce : JsString) (instant : Int) : SignedCall Unit where
  context := context
  credential := ⟨deviceId, some (.ofInt instant), nonce, List.replicate 64 0x30⟩
  maxSkewMs := 60000
  now _ := instant
  monotone := fun _ _ _ => le_refl instant

/-- A request of the fleet lane, and one of an enrolled device. -/
def fleetContext : LaneContext Unit :=
  .fleet (js "{}") (js "secret")

def ownerContext : LaneContext Unit :=
  .owner (js "POST") (js "/delivered") (js "{}") fun _ => some ⟨(), none⟩

/-- In every run a lane accepts a nonce of a device once. -/
def EachOnce {κ : Type} (crypto : SignatureCrypto κ) : Prop :=
  ∀ es t, (replayRuns crypto).Exec es t → ∀ e f, Lts.Precedes es e f → ReplayEdge.Accepts crypto e →
    ReplayEdge.Accepts crypto f → e.label.triple ≠ f.label.triple

/-- In every run a valid request is refused for its nonce only where its lane accepted it before. -/
def RefusedForReuse {κ : Type} (crypto : SignatureCrypto κ) : Prop :=
  ∀ es t, (replayRuns crypto).Exec es t → ∀ f ∈ es, ∀ timestamp, ReplayEdge.Valid crypto f timestamp →
    ¬ ReplayEdge.Accepts crypto f →
    ∃ e, Lts.Precedes es e f ∧ ReplayEdge.Accepts crypto e ∧ e.label.triple = f.label.triple

/-- The edges of two calls from an empty store. -/
def pairEdges (first second : SignedCall Unit) : List (Lts.Edge ReplayStore (SignedCall Unit)) :=
  let s : ReplayStore := ⟨JsMap.empty, first.now 0⟩
  let t := s.after zeroCrypto first
  [⟨s, first, t⟩, ⟨t, second, t.after zeroCrypto second⟩]

theorem exec_pair (first second : SignedCall Unit) (h : first.now 0 ≤ second.now 0) :
    ∃ t, (replayRuns zeroCrypto).Exec (pairEdges first second) t := by
  let s : ReplayStore := ⟨JsMap.empty, first.now 0⟩
  have hfirst : (replayRuns zeroCrypto).Exec [] s := Lts.Exec.nil rfl
  have hnext : (replayRuns zeroCrypto).next s first (s.after zeroCrypto first) := ⟨le_refl _, rfl⟩
  have hlater : (replayRuns zeroCrypto).next (s.after zeroCrypto first) second
      ((s.after zeroCrypto first).after zeroCrypto second) := ⟨h, rfl⟩
  exact ⟨_, (hfirst.snoc hnext).snoc hlater⟩

/-- The law over a run that spends a nonce twice. -/
theorem nonce_law_sample :
    NonceLaw zeroCrypto (pairEdges (callAt fleetContext (js "button") (js "n") 0)
      (callAt fleetContext (js "button") (js "n") 60001)) := by
  obtain ⟨t, hexec⟩ := exec_pair (callAt fleetContext (js "button") (js "n") 0)
    (callAt fleetContext (js "button") (js "n") 60001) (by decide)
  exact nonce_law zeroCrypto _ t hexec

/-- A nonce that is signed again once its window has passed is accepted again, and a fleet device called `owner` spends
    the nonce of an owner device. -/
theorem replay_not_exact : ¬ EachOnce zeroCrypto ∧ ¬ RefusedForReuse zeroCrypto := by
  constructor
  · intro h
    let first := callAt fleetContext (js "button") (js "n") 0
    let second := callAt fleetContext (js "button") (js "n") 60001
    obtain ⟨t, hexec⟩ := exec_pair first second (by decide)
    apply h _ t hexec _ _ ⟨[], [], [], rfl⟩
    · show (first.verify zeroCrypto JsMap.empty).1 = true
      decide +kernel
    · show (second.verify zeroCrypto (first.verify zeroCrypto JsMap.empty).2).1 = true
      decide +kernel
    · rfl
  · intro h
    let first := callAt fleetContext (js "owner") (js "phone:n") 0
    let second := callAt ownerContext (js "phone") (js "n") 0
    obtain ⟨t, hexec⟩ := exec_pair first second (by decide)
    have hvalid : second.checked zeroCrypto 0 = some 0 := by decide +kernel
    have hrefused : (second.verify zeroCrypto (first.verify zeroCrypto JsMap.empty).2).1 = false := by decide +kernel
    obtain ⟨e, hprecedes, -, htriple⟩ := h _ t hexec _ (List.mem_cons_of_mem _ (List.mem_cons_self ..)) 0 hvalid
      fun haccepts => Bool.false_ne_true (hrefused.symm.trans haccepts)
    obtain ⟨rfl, -⟩ := Lts.precedes_pair hprecedes
    exact absurd (congrArg Prod.fst htriple) (by decide)

end OwnerSwitch
