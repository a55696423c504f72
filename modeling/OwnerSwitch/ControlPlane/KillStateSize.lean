/-
Module: OwnerSwitch.ControlPlane.KillStateSize
Layer: ControlPlane
Purpose: Whether what a switch saves is a file its loader reads: the octets of a state whose scoped kills are bounded at
  write time, over every sequence of scoped kills. The bound counts on no character of a reason being written as an
  escape, and half of a surrogate pair is.
Imports: Lib.JsonSize, KillSwitchRuns
Trusted boundary: instants and the epoch are safe integers
Main exports: ScopedKill, scopedRuns, maxLoneSurrogates, scoped_kills_fit, scoped_kills_overflow
Open obligations: none
-/
import Mathlib.Algebra.Order.BigOperators.Group.List
import OwnerSwitch.Lib.JsonSize
import OwnerSwitch.ControlPlane.KillSwitchRuns

namespace OwnerSwitch

open Json

namespace KillSwitch

/-! ### Sanitized reasons -/

theorem length_sanitizeScopedKillReason_le (reason : JsString) :
    (sanitizeScopedKillReason reason).length ≤ maxScopedKillReasonChars :=
  List.length_take_le _ _

/-- No control character is left. -/
theorem le_of_mem_sanitizeScopedKillReason {reason : JsString} {u : UInt16} (h : u ∈ sanitizeScopedKillReason reason) :
    0x20 ≤ u := by
  obtain ⟨v, -, rfl⟩ := List.mem_map.mp (List.mem_of_mem_take h)
  split_ifs with hcontrol
  · exact UInt16.le_refl _
  · have hv : ¬ v.toNat ≤ 0x1F := fun hle => hcontrol (.inl (UInt16.le_iff_toNat_le.mpr hle))
    exact UInt16.le_iff_toNat_le.mpr (by show 0x20 ≤ v.toNat; omega)

/-- The halves of surrogate pairs that a reason of every entry can have in a file that is not too long. -/
def maxLoneSurrogates : Nat := 84

/-- What a scoped kill saves of its event. -/
structure Fitting (e : KillEvent) : Prop where
  length : ∀ reason ∈ e.reason, reason.length ≤ maxScopedKillReasonChars
  visible : ∀ reason ∈ e.reason, ∀ u ∈ reason, 0x20 ≤ u
  lone : ∀ reason ∈ e.reason, loneSurrogates reason ≤ maxLoneSurrogates
  time : ∃ t : Int, e.at = .ofInt t ∧ |t| ≤ maxSafeInteger

theorem octets_quote_reason_le {e : KillEvent} (h : Fitting e) {reason : JsString} (hreason : reason ∈ e.reason) :
    octets (quote reason) ≤ 638 := by
  have hquote := octets_quote_le (h.visible reason hreason)
  have hlength : reason.length ≤ 128 := h.length reason hreason
  have hlone : loneSurrogates reason ≤ 84 := h.lone reason hreason
  omega

theorem octets_quote_source_le (source : KillSource) : octets (quote source.text) ≤ 12 := by
  cases source <;> decide

/-- A property of a value that takes at most `n` octets. -/
theorem memberOctets_le {ind n k : Nat} {key : JsString} {v : Json} (hkey : octets (quote key) = k)
    (hv : octets (render 2 ind v) ≤ n) : memberOctets 2 ind (key, v) ≤ ind + 4 + k + n := by
  have hnewline : (newline 2 ind).length = 1 + ind := by
    rw [newline, if_neg (by decide), List.length_cons, List.length_replicate]
    omega
  have hcolon : (colon 2).length = 2 := rfl
  rw [memberOctets, hkey, hnewline, hcolon]
  show 1 + (1 + ind) + k + 2 + octets (render 2 ind v) ≤ _
  omega

/-- What an optional property takes. -/
def optionalOctets (ind : Nat) (f : JsString × Option Json) : Nat :=
  (f.2.map fun v => memberOctets 2 ind (f.1, v)).getD 0

theorem sum_present (ind : Nat) (fs : List (JsString × Option Json)) :
    ((present fs).map (memberOctets 2 ind)).sum = (fs.map (optionalOctets ind)).sum := by
  induction fs with
  | nil => rfl
  | cons f fs ih =>
      obtain ⟨key, v⟩ := f
      rw [List.map_cons, List.sum_cons, ← ih]
      cases v with
      | none => exact (Nat.zero_add _).symm
      | some v => rfl

theorem optionalOctets_le {ind n : Nat} {key : JsString} {v : Option Json}
    (h : ∀ x ∈ v, memberOctets 2 ind (key, x) ≤ n) : optionalOctets ind (key, v) ≤ n := by
  cases v with
  | none => exact Nat.zero_le n
  | some x => exact h x rfl

theorem optionalOctets_some_le {ind n k : Nat} {key : JsString} {v : Json} (hkey : octets (quote key) = k)
    (hv : octets (render 2 ind v) ≤ n) : optionalOctets ind (key, some v) ≤ ind + 4 + k + n :=
  memberOctets_le hkey hv

/-- An event takes at most 754 octets where it stands in the file. -/
theorem octets_event_le {e : KillEvent} (h : Fitting e) : octets (render 2 4 e.toJson) ≤ 754 := by
  have hsource : optionalOctets 6 (js "source", some (.str e.source.text)) ≤ 30 :=
    optionalOctets_some_le (k := 8) (n := 12) (by decide) (octets_quote_source_le e.source)
  have hreason : optionalOctets 6 (js "reason", e.reason.map .str) ≤ 656 := by
    apply optionalOctets_le
    intro x hx
    obtain ⟨reason, hreason, rfl⟩ := Option.map_eq_some_iff.mp hx
    exact memberOctets_le (k := 8) (n := 638) (by decide) (octets_quote_reason_le h hreason)
  have htime : optionalOctets 6 (js "at", some (.num e.at)) ≤ 31 := by
    obtain ⟨t, ht, hsafe⟩ := h.time
    apply optionalOctets_some_le (k := 4) (n := 17) (by decide)
    rw [ht]
    exact (octets_numText _).trans_le (length_numText_le hsafe)
  have hunauthenticated :
      optionalOctets 6 (js "unauthenticated", if e.unauthenticated then some (.bool true) else none) ≤ 31 := by
    apply optionalOctets_le
    intro x hx
    split_ifs at hx
    · obtain rfl := Option.some.inj hx
      decide
    · cases hx
  have hclose : (newline 2 4).length = 5 := rfl
  rw [KillEvent.toJson, octets_render_obj 2 4 (by exact List.cons_ne_nil _ _), hclose, sum_present]
  simp only [List.map_cons, List.map_nil, List.sum_cons, List.sum_nil, Nat.reduceAdd]
  omega

/-- An id of the contract takes at most two octets a character. -/
theorem octets_quote_id_le {id : JsString} (h : isValidAgentId id = true) : octets (quote id) ≤ 258 := by
  simp only [isValidAgentId, Bool.and_eq_true, decide_eq_true_eq, List.all_eq_true] at h
  obtain ⟨⟨⟨-, hlength⟩, ⟨hprintable, -⟩, -⟩, -⟩ := h
  have hlength : id.length ≤ 128 := hlength
  have hquote := octets_quote_ascii_le (s := id) fun u hu => by
    simpa only [isPrintable, Bool.and_eq_true, decide_eq_true_eq] using hprintable u hu
  omega

/-- The scoped kills of a file. -/
theorem octets_agentKills_le {m : JsMap JsString KillEvent} (hpos : 0 < m.size) (hsize : m.size ≤ maxKilledAgents)
    (hids : ∀ id, m.has id = true → isValidAgentId id = true) (hfit : ∀ id e, m.get? id = some e → Fitting e) :
    octets (render 2 2 (.obj (ofEntries (m.entries.map fun f => (f.1, f.2.toJson))))) ≤ 64 * 1020 + 4 := by
  have hnodup : ((m.entries.map fun f => (f.1, f.2.toJson)).map Prod.fst).Nodup := by
    rw [List.map_map]
    exact m.nodup
  have hperm := ofEntries_perm hnodup
  have hlength := hperm.length_eq
  rw [List.length_map] at hlength
  have hne : ofEntries (m.entries.map fun f => (f.1, f.2.toJson)) ≠ [] :=
    List.ne_nil_of_length_pos (hlength ▸ hpos)
  have hentry : ∀ n ∈ (ofEntries (m.entries.map fun f => (f.1, f.2.toJson))).map (memberOctets 2 4), n ≤ 1020 := by
    intro n hn
    obtain ⟨f, hf, rfl⟩ := List.mem_map.mp hn
    obtain ⟨⟨id, e⟩, he, rfl⟩ := List.mem_map.mp (hperm.mem_iff.mp hf)
    have hget : m.get? id = some e := JsMap.get?_eq_some_iff.mpr he
    have hquote := octets_quote_id_le (hids id (JsMap.has_iff.mpr ⟨e, hget⟩))
    have hmember : memberOctets 2 4 (id, e.toJson) ≤ 4 + 4 + octets (quote id) + 754 :=
      memberOctets_le rfl (octets_event_le (hfit id e hget))
    exact hmember.trans (by omega)
  have hsum := List.sum_le_card_nsmul _ _ hentry
  rw [List.length_map, hlength] at hsum
  change _ ≤ m.entries.length * 1020 at hsum
  have hcount : m.entries.length * 1020 ≤ 64 * 1020 := Nat.mul_le_mul_right _ hsize
  have hclose : (newline 2 2).length = 3 := rfl
  rw [octets_render_obj 2 2 hne, hclose]
  simp only [Nat.reduceAdd]
  omega

/-- The scoped kills as they are saved. -/
def agentKillsJson (m : JsMap JsString KillEvent) : Json :=
  .obj (ofEntries (m.entries.map fun f => (f.1, f.2.toJson)))

/-- The object a state is saved as. -/
theorem toJson_persisted (s : PersistedKillState) : s.toJson =
    .obj (present
      [(js "version", some (.num (.ofInt 1))), (js "killed", some (.bool s.killed)), (js "epoch", some (.num (.ofInt s.epoch))),
        (js "lastKill", s.lastKill.map KillEvent.toJson), (js "agentKills", s.agentKills.map agentKillsJson)]) :=
  rfl

/-- What a state file takes, property by property. -/
theorem length_fileBytes (s : PersistedKillState) :
    s.fileBytes.length =
      optionalOctets 2 (js "version", some (.num (.ofInt 1))) + optionalOctets 2 (js "killed", some (.bool s.killed)) +
        optionalOctets 2 (js "epoch", some (.num (.ofInt s.epoch))) +
        optionalOctets 2 (js "lastKill", s.lastKill.map KillEvent.toJson) +
        optionalOctets 2 (js "agentKills", s.agentKills.map agentKillsJson) + 3 := by
  have htext : s.fileBytes.length = octets (stringifyIndented s.toJson) + 1 :=
    octets_append (wellFormed_render 2 0 s.toJson) [0x0A]
  have hclose : (newline 2 0).length = 1 := rfl
  rw [htext, stringifyIndented, toJson_persisted, octets_render_obj 2 0 (by exact List.cons_ne_nil _ _),
    hclose, sum_present]
  simp only [List.map_cons, List.map_nil, List.sum_cons, List.sum_nil, Nat.reduceAdd]
  omega

/-- What is saved while no kill is global takes at most 65369 octets. -/
theorem length_fileBytes_le {s : PersistedKillState} (hkilled : s.killed = false) (hlast : s.lastKill = none)
    (hepoch : (s.epoch : Int) ≤ maxSafeInteger)
    (hkills : ∀ m ∈ s.agentKills, 0 < m.size ∧ m.size ≤ maxKilledAgents ∧
      (∀ id, m.has id = true → isValidAgentId id = true) ∧ ∀ id e, m.get? id = some e → Fitting e) :
    s.fileBytes.length ≤ 65369 := by
  have hversion : optionalOctets 2 (js "version", some (.num (.ofInt 1))) ≤ 16 := by decide +kernel
  have hflag : optionalOctets 2 (js "killed", some (.bool false)) ≤ 19 := by decide
  have hcounter : optionalOctets 2 (js "epoch", some (.num (.ofInt s.epoch))) ≤ 29 :=
    optionalOctets_some_le (k := 7) (n := 16) (by decide)
      ((octets_numText _).trans_le (length_numText_natCast_le hepoch))
  have hnone : optionalOctets 2 (js "lastKill", (none : Option KillEvent).map KillEvent.toJson) = 0 := rfl
  have hentries : optionalOctets 2 (js "agentKills", s.agentKills.map agentKillsJson) ≤ 65302 := by
    apply optionalOctets_le
    intro x hx
    obtain ⟨m, hm, rfl⟩ := Option.map_eq_some_iff.mp hx
    obtain ⟨hpos, hsize, hids, hfit⟩ := hkills m hm
    exact memberOctets_le (k := 12) (n := 65284) (by decide) (octets_agentKills_le hpos hsize hids hfit)
  rw [length_fileBytes, hkilled, hlast, hnone]
  omega

/-! ### Sequences of scoped kills -/

theorem eq_of_snd {α β : Type} {p : α × β} {b : β} (h : p.2 = b) : p = (p.1, b) := by
  rw [← h]

/-- A scoped kill at an instant, and what the store makes of the save. -/
structure ScopedKill where
  agentId : JsString
  source : KillSource
  reason : Option JsString
  unauthenticated : Bool
  now : Int
  time : |now| ≤ maxSafeInteger
  outcome : StoreOutcome

/-- The switch after a scoped kill, and whether the kill became global. -/
def scopeKilled (s : KillSwitch) (c : ScopedKill) : KillSwitch × Bool :=
  s.engageAgent c.now c.agentId c.source c.reason c.unauthenticated c.outcome

/-- Scoped kills of agents of the contract from a fresh switch, none of which becomes global. -/
def scopedRuns : Lts KillSwitch ScopedKill where
  init s := s = fresh
  next s c s' := isValidAgentId c.agentId = true ∧ s.scopeKilled c = (s', false)

/-- The kill's reason has few halves of surrogate pairs once it is sanitized. -/
def ScopedKill.Bounded (c : ScopedKill) : Prop :=
  ∀ reason ∈ c.reason, loneSurrogates (sanitizeScopedKillReason reason) ≤ maxLoneSurrogates

/-- What a saved state is to its loader. -/
structure Reloads (store : KillStateFileStore) (s : PersistedKillState) : Prop where
  fits : s.fileBytes.length ≤ maxKillStateFileBytes
  accepted : store.interpret s.fileBytes = .ok s.enumerated

/-- What holds of a switch that has seen bounded scoped kills only. -/
structure ScopedOnly (s : KillSwitch) : Prop where
  sound : s.Sound
  killed : s.killedState = false
  fitting : ∀ id e, s.agentKillMap.get? id = some e → Fitting e

theorem scopedOnly_fresh : ScopedOnly fresh := by
  constructor
  · exact sound_fresh
  · rfl
  · intro id e hget
    cases hget

theorem fitting_event {c : ScopedKill} (h : c.Bounded) :
    Fitting ⟨c.source, c.reason.map sanitizeScopedKillReason, .ofInt c.now, c.unauthenticated⟩ := by
  have hreason : ∀ reason ∈ c.reason.map sanitizeScopedKillReason,
      ∃ given ∈ c.reason, sanitizeScopedKillReason given = reason := fun reason hmem => Option.map_eq_some_iff.mp hmem
  constructor
  · intro reason hmem
    obtain ⟨given, -, rfl⟩ := hreason reason hmem
    exact length_sanitizeScopedKillReason_le given
  · intro reason hmem u hu
    obtain ⟨given, -, rfl⟩ := hreason reason hmem
    exact le_of_mem_sanitizeScopedKillReason hu
  · intro reason hmem
    obtain ⟨given, hgiven, rfl⟩ := hreason reason hmem
    exact h given hgiven
  · exact ⟨c.now, rfl, c.time⟩

/-- What a scoped kill that does not become global does. -/
theorem scopeKilled_spec {s s' : KillSwitch} {c : ScopedKill} (h : s.scopeKilled c = (s', false)) :
    s'.killedState = s.killedState ∧ s'.agentKillMap = s.agentKillMap.set c.agentId
      ⟨c.source, c.reason.map sanitizeScopedKillReason, .ofInt c.now, c.unauthenticated⟩ := by
  rw [scopeKilled, engageAgent_eq] at h
  obtain ⟨rfl, hescalated⟩ := Prod.mk.inj h
  rw [persist_agentKillMap]
  unfold agentEngaged at hescalated ⊢
  split_ifs at hescalated ⊢
  exact ⟨persist_killed .., rfl⟩

theorem ScopedOnly.step {s s' : KillSwitch} {c : ScopedKill} (hs : ScopedOnly s) (hnext : scopedRuns.next s c s')
    (hc : c.Bounded) : ScopedOnly s' := by
  obtain ⟨-, hkilled⟩ := hnext
  obtain ⟨hstays, hmap⟩ := scopeKilled_spec hkilled
  constructor
  · rw [scopeKilled, engageAgent_eq] at hkilled
    obtain ⟨rfl, -⟩ := Prod.mk.inj hkilled
    exact (hs.sound.agentEngaged ..).persist ..
  · rw [hstays, hs.killed]
  · intro id e hget
    rw [hmap, JsMap.get?_set] at hget
    split_ifs at hget
    · obtain rfl := Option.some.inj hget
      exact fitting_event hc
    · exact hs.fitting id e hget

theorem ScopedOnly.reloads {s : KillSwitch} (h : ScopedOnly s) (hepoch : (s.epoch : Int) ≤ maxSafeInteger)
    (store : KillStateFileStore) : Reloads store s.persistedState := by
  constructor
  · apply (length_fileBytes_le _ _ hepoch _).trans (by decide)
    · exact h.killed
    · simp only [persistedState, h.killed, Bool.false_eq_true, if_false]
    · intro m hm
      simp only [persistedState] at hm
      split_ifs at hm with hpos
      · obtain rfl := Option.some.inj hm
        exact ⟨hpos, h.sound.size, h.sound.ids, h.fitting⟩
      · cases hm
  · exact interpret_storable store (h.sound.storable hepoch)

/-- Scoped kills whose sanitized reasons have few halves of surrogate pairs are always saved in a file that is read
    back. -/
theorem scoped_kills_fit (store : KillStateFileStore) (es : List (Lts.Edge KillSwitch ScopedKill)) (t : KillSwitch)
    (h : scopedRuns.Exec es t) (hbounded : ∀ e ∈ es, e.label.Bounded) :
    ∀ e ∈ es, (e.dst.epoch : Int) ≤ maxSafeInteger → Reloads store e.dst.persistedState := by
  have hscoped : (∀ e ∈ es, e.label.Bounded) → ScopedOnly t ∧ ∀ e ∈ es, ScopedOnly e.dst := by
    apply h.induct (I := fun es t => (∀ e ∈ es, e.label.Bounded) → ScopedOnly t ∧ ∀ e ∈ es, ScopedOnly e.dst)
    · intro s hinit _
      constructor
      · rw [hinit]
        exact scopedOnly_fresh
      · intro e he
        cases he
    · intro es s c s' _ ih hnext hbounded
      obtain ⟨hs, hes⟩ := ih fun e he => hbounded e (List.mem_append_left _ he)
      have hlast := hs.step hnext (hbounded ⟨s, c, s'⟩ (List.mem_append_right _ (List.mem_singleton_self _)))
      refine ⟨hlast, fun e he => ?_⟩
      rcases List.mem_append.mp he with he | he
      · exact hes e he
      · rw [List.mem_singleton.mp he]
        exact hlast
  intro e he hepoch
  exact ((hscoped hbounded).2 e he).reloads hepoch store

/-- An agent stopped for a reason that ends in half of a pair. -/
def sampleKill : ScopedKill where
  agentId := js "agent-1"
  source := .button
  reason := some (js "stop" ++ [0xD800])
  unauthenticated := true
  now := 7
  time := by decide
  outcome := .durable

/-- One scoped kill of an agent. -/
theorem scoped_kills_fit_sample : (fresh.scopeKilled sampleKill).1.epoch = 1 ∧
    Reloads ⟨js "kill-state.json", fun _ => []⟩ (fresh.scopeKilled sampleKill).1.persistedState := by
  have hnext : scopedRuns.next fresh sampleKill (fresh.scopeKilled sampleKill).1 := by
    constructor
    · decide
    · exact eq_of_snd rfl
  have hbounded : ∀ e ∈ [(⟨fresh, sampleKill, (fresh.scopeKilled sampleKill).1⟩ : Lts.Edge KillSwitch ScopedKill)],
      e.label.Bounded := by
    intro e he reason hreason
    obtain rfl := List.mem_singleton.mp he
    obtain rfl := Option.some.inj hreason
    decide
  have hexec := (Lts.Exec.nil rfl : scopedRuns.Exec [] fresh).snoc hnext
  constructor
  · decide
  · exact scoped_kills_fit _ _ _ hexec hbounded _ (List.mem_singleton_self _) (by decide)

/-! ### Reasons of half pairs -/

/-- An id of the contract that is written with 254 octets. -/
def floodId (i : Nat) : JsString :=
  UInt16.ofNat (0x41 + i / 8) :: UInt16.ofNat (0x41 + i % 8) :: List.replicate 126 0x22

/-- A scoped kill whose reason is the first half of a pair, over and over. -/
def floodKill (i : Nat) : ScopedKill where
  agentId := floodId i
  source := .api
  reason := some (List.replicate 128 0xD800)
  unauthenticated := false
  now := 0
  time := by decide
  outcome := .durable

def floodEvent : KillEvent :=
  ⟨.api, some (List.replicate 128 0xD800), .ofInt 0, false⟩

def floodEntries (n : Nat) : List (JsString × KillEvent) :=
  (List.range n).map fun i => (floodId i, floodEvent)

theorem floodIds_valid : ∀ i < 64, isValidAgentId (floodId i) = true := by
  decide +kernel

theorem floodIds_nodup : ((List.range 64).map floodId).Nodup := by
  decide +kernel

theorem floodId_octets : ∀ i < 64, octets (quote (floodId i)) = 256 := by
  decide +kernel

theorem floodEvent_octets : octets (render 2 4 floodEvent.toJson) = 832 := by
  decide +kernel

theorem floodKill_event (n : Nat) :
    (⟨(floodKill n).source, (floodKill n).reason.map sanitizeScopedKillReason, .ofInt (floodKill n).now,
      (floodKill n).unauthenticated⟩ : KillEvent) = floodEvent := by
  have hreason : sanitizeScopedKillReason (List.replicate 128 0xD800) = List.replicate 128 0xD800 := by
    decide +kernel
  simp only [floodKill, floodEvent, Option.map_some, hreason]

/-- A kill of another agent is recorded while there is room. -/
theorem scopeKilled_flood {s : KillSwitch} {n : Nat} (hn : n < 64)
    (hentries : s.agentKillMap.entries = floodEntries n) :
    (s.scopeKilled (floodKill n)).2 = false ∧
      (s.scopeKilled (floodKill n)).1.agentKillMap.entries = floodEntries (n + 1) := by
  have hnew : floodId n ∉ s.agentKillMap.entries.map Prod.fst := by
    have hsplit := floodIds_nodup.sublist ((List.range_sublist.mpr (Nat.succ_le_of_lt hn)).map floodId)
    rw [List.range_succ, List.map_append, List.nodup_append] at hsplit
    intro hmem
    rw [hentries, floodEntries, List.map_map] at hmem
    exact hsplit.2.2 _ hmem _ (List.mem_singleton_self _) rfl
  have hhas : s.agentKillMap.has (floodId n) = false := by
    rw [← Bool.not_eq_true, ← JsMap.mem_keys]
    exact hnew
  have hsize : ¬ maxKilledAgents ≤ s.agentKillMap.size := by
    rw [JsMap.size, hentries, floodEntries, List.length_map, List.length_range]
    exact Nat.not_le_of_lt hn
  have hroom : ¬ (!s.agentKillMap.has (floodId n) && decide (maxKilledAgents ≤ s.agentKillMap.size)) = true := by
    simp [hsize]
  have hvalid : ¬ (!isValidAgentId (floodId n)) = true := by
    simp [floodIds_valid n hn]
  have hscoped : (s.scopeKilled (floodKill n)).2 = false := by
    rw [scopeKilled, floodKill, engageAgent_eq, agentEngaged, if_neg hvalid, if_neg hroom]
  have hmap := (scopeKilled_spec (eq_of_snd hscoped)).2
  rw [floodKill_event] at hmap
  constructor
  · exact hscoped
  · rw [hmap]
    show JsMap.setEntry s.agentKillMap.entries (floodId n) floodEvent = _
    rw [JsMap.setEntry_new hnew, hentries, floodEntries, floodEntries, List.range_succ, List.map_append,
      List.map_singleton]

/-- A run that stops the first `n` agents. -/
theorem exec_flood (n : Nat) (hn : n ≤ 64) :
    ∃ es s, scopedRuns.Exec es s ∧ s.agentKillMap.entries = floodEntries n ∧ s.epoch = n ∧
      (0 < n → ∃ e ∈ es, e.dst = s) := by
  induction n with
  | zero => exact ⟨[], fresh, Lts.Exec.nil rfl, rfl, rfl, fun h => absurd h (Nat.lt_irrefl 0)⟩
  | succ n ih =>
      obtain ⟨es, s, hexec, hentries, hepoch, -⟩ := ih (Nat.le_of_succ_le hn)
      obtain ⟨hscoped, hmap⟩ := scopeKilled_flood hn hentries
      obtain ⟨s', hs'⟩ : ∃ s', s' = (s.scopeKilled (floodKill n)).1 := ⟨_, rfl⟩
      rw [← hs'] at hmap
      have hnext : scopedRuns.next s (floodKill n) s' := by
        constructor
        · exact floodIds_valid n hn
        · rw [hs']
          exact eq_of_snd hscoped
      refine ⟨_, s', hexec.snoc hnext, hmap, ?_, fun _ => ⟨_, List.mem_append_right _ (List.mem_singleton_self _), rfl⟩⟩
      rw [hs', scopeKilled, engageAgent_epoch, hepoch]

theorem lt_fileBytes_flood {s : KillSwitch} (hentries : s.agentKillMap.entries = floodEntries 64) :
    maxKillStateFileBytes < s.persistedState.fileBytes.length := by
  -- the ids are no array indices, so they stand in the file as they were recorded
  have hkeys : (floodEntries 64).map Prod.fst = (List.range 64).map floodId := by
    rw [floodEntries, List.map_map]
    rfl
  have hindex : ∀ id ∈ (List.range 64).map floodId, arrayIndex id = none := by
    decide +kernel
  have hobject : ofEntries (s.agentKillMap.entries.map fun f => (f.1, f.2.toJson)) =
      (List.range 64).map fun i => (floodId i, floodEvent.toJson) := by
    have hmap : s.agentKillMap.entries.map (fun f => (f.1, f.2.toJson)) =
        (List.range 64).map fun i => (floodId i, floodEvent.toJson) := by
      rw [hentries, floodEntries, List.map_map]
      rfl
    have hfst : ((List.range 64).map fun i => (floodId i, floodEvent.toJson)).map Prod.fst =
        (List.range 64).map floodId := by
      rw [List.map_map]
      rfl
    rw [hmap]
    exact ofEntries_eq_self (hfst ▸ floodIds_nodup) (hfst ▸ hindex)
  have hmember : ∀ i < 64, memberOctets 2 4 (floodId i, floodEvent.toJson) = 1096 := by
    intro i hi
    have hnewline : (newline 2 4).length = 5 := rfl
    have hcolon : (colon 2).length = 2 := rfl
    rw [memberOctets, hnewline, hcolon]
    show 1 + 5 + octets (quote (floodId i)) + 2 + octets (render 2 4 floodEvent.toJson) = 1096
    rw [floodId_octets i hi, floodEvent_octets]
  have hsum :
    ((List.range 64).map fun i => memberOctets 2 4 (floodId i, floodEvent.toJson)) = List.replicate 64 1096 := by
    apply List.eq_replicate_iff.mpr
    constructor
    · rw [List.length_map, List.length_range]
    · intro n hn
      obtain ⟨i, hi, rfl⟩ := List.mem_map.mp hn
      exact hmember i (List.mem_range.mp hi)
  have hkills : s.persistedState.agentKills = some s.agentKillMap := by
    have hsize : 0 < s.agentKillMap.size := by
      rw [JsMap.size, hentries, floodEntries, List.length_map, List.length_range]
      decide
    exact if_pos hsize
  have hbody : octets (render 2 2 (agentKillsJson s.agentKillMap)) = 64 * 1096 + 4 := by
    have hclose : (newline 2 2).length = 3 := rfl
    rw [agentKillsJson, hobject, octets_render_obj 2 2 (by decide), hclose, List.map_map]
    simp only [Function.comp_def, Nat.reduceAdd]
    rw [hsum, List.sum_replicate]
    rfl
  have hmap : octets (render 2 2 (agentKillsJson s.agentKillMap)) ≤
      optionalOctets 2 (js "agentKills", s.persistedState.agentKills.map agentKillsJson) := by
    rw [hkills]
    exact Nat.le_add_left _ _
  rw [length_fileBytes]
  have hmax : maxKillStateFileBytes = 65536 := rfl
  omega

/-- What is saved in a sequence of scoped kills always fits. -/
def AlwaysFits : Prop :=
  ∀ es t, scopedRuns.Exec es t → ∀ e ∈ es, (e.dst.epoch : Int) ≤ maxSafeInteger →
    e.dst.persistedState.fileBytes.length ≤ maxKillStateFileBytes

/-- Sixty-four agents stopped for a reason of half pairs make a file that is too long to be read back. -/
theorem scoped_kills_overflow : ¬ AlwaysFits := by
  intro h
  obtain ⟨es, s, hexec, hentries, hepoch, hlast⟩ := exec_flood 64 (Nat.le_refl 64)
  obtain ⟨e, he, hdst⟩ := hlast (by decide)
  have hfits := h es _ hexec e he (by rw [hdst, hepoch]; decide)
  rw [hdst] at hfits
  exact absurd hfits (Nat.not_le_of_lt (lt_fileBytes_flood hentries))

end KillSwitch

end OwnerSwitch
