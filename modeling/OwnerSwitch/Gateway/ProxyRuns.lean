/-
Module: OwnerSwitch.Gateway.ProxyRuns
Layer: Gateway
Purpose: The scan finds a decoy exactly where a string or a key of the arguments holds it, and nothing crosses
  the boundary unscanned: over any order of calls and answers, no argument that is forwarded, executed or sent
  to the head read holds a registered value, and what is reported is in the call that is blamed.
Imports: Lib.JsonSearch, Gateway.Proxy
Trusted boundary: that of Gateway.Proxy
Main exports: HoldsDecoy, mem_decoyIds_iff, exec_scanned, decoys_never_cross
Open obligations: none
-/
import OwnerSwitch.Lib.JsonSearch
import OwnerSwitch.Gateway.Proxy

namespace OwnerSwitch

/-! ### Matching -/

theorem indexOf_isSome_iff {text word : JsString} : (indexOf text word).isSome = true ↔ word <:+: text := by
  induction text with
  | nil =>
      simp only [indexOf, List.infix_nil]
      split <;> simp [*]
  | cons c t ih =>
      simp only [indexOf, List.infix_cons_iff]
      split
      · rename_i hpre
        exact iff_of_true rfl (.inl hpre)
      · rename_i hpre
        rw [Option.isSome_map, ih, or_iff_right hpre]

namespace HoneytokenRegistry

/-- An id is reported once some entry of it, not reported before, occurs in the text. -/
theorem mem_matchFrom_iff {text : JsString} {seen : List JsString} {es : List RegistryEntry} {id : JsString} :
    id ∈ (matchFrom text seen es).map HoneytokenMatch.canaryId
      ↔ id ∉ seen ∧ ∃ e ∈ es, e.canaryId = id ∧ e.value <:+: text := by
  induction es generalizing seen with
  | nil => simp [matchFrom]
  | cons e es ih =>
      simp only [matchFrom, List.mem_cons, exists_eq_or_imp]
      split
      · rename_i hseen
        rw [ih]
        constructor
        · rintro ⟨hid, h⟩
          exact ⟨hid, .inr h⟩
        · rintro ⟨hid, ⟨rfl, -⟩ | h⟩
          · exact absurd hseen hid
          · exact ⟨hid, h⟩
      · rename_i hseen
        split
        · rename_i index hindex
          have hin : e.value <:+: text := indexOf_isSome_iff.mp (by rw [hindex]; rfl)
          rw [List.map_cons, List.mem_cons, ih, List.mem_cons, not_or]
          constructor
          · rintro (rfl | ⟨⟨-, hid⟩, h⟩)
            · exact ⟨hseen, .inl ⟨rfl, hin⟩⟩
            · exact ⟨hid, .inr h⟩
          · rintro ⟨hid, ⟨rfl, -⟩ | h⟩
            · exact .inl rfl
            · by_cases hown : id = e.canaryId
              · exact .inl hown
              · exact .inr ⟨⟨hown, hid⟩, h⟩
        · rename_i hnone
          have hout : ¬ e.value <:+: text := fun hin => by
            have hsome := indexOf_isSome_iff.mpr hin
            rw [hnone] at hsome
            cases hsome
          rw [ih]
          constructor
          · rintro ⟨hid, h⟩
            exact ⟨hid, .inr h⟩
          · rintro ⟨hid, ⟨-, hin⟩ | h⟩
            · exact absurd hin hout
            · exact ⟨hid, h⟩

/-- The entries that match are those whose value the text holds. -/
theorem mem_matched_iff {r : HoneytokenRegistry} {text id : JsString} :
    id ∈ (r.matched text).map HoneytokenMatch.canaryId ↔ ∃ e ∈ r.entries, e.canaryId = id ∧ e.value <:+: text := by
  have hperm := (List.mergeSort_perm (matchFrom text [] r.entries) fun a b => a.index ≤ b.index).map
    HoneytokenMatch.canaryId
  rw [matched, hperm.mem_iff, mem_matchFrom_iff]
  simp

/-- Every entry was added for a generated token. -/
def Generated (sha256 : Bytes → Bytes) (r : HoneytokenRegistry) : Prop :=
  ∀ e ∈ r.entries, ∃ kind label draw, e = (generateHoneytoken sha256 kind label draw).toEntry

end HoneytokenRegistry

/-! ### Generated values in a tree -/

/-- The value is in a string or in a key of the tree. -/
def HoldsDecoy (value : JsString) (args : Json) : Prop :=
  ∃ s ∈ args.texts, value <:+: s

section Generated

variable {sha256 : Bytes → Bytes} {r : HoneytokenRegistry} {e : RegistryEntry}

/-- A generated value is a word the syntax of JSON cannot touch, and shows the marker. -/
theorem word_generated (hgen : r.Generated sha256) (he : e ∈ r.entries) :
    Json.Word e.value ∧ canaryMarker <:+: e.value := by
  obtain ⟨kind, label, draw, rfl⟩ := hgen e he
  have hvalue : (generateHoneytoken sha256 kind label draw).toEntry.value
      = (generateHoneytoken sha256 kind label draw).value :=
    congrArg (·.2.2.2) (Honeytoken.tuple_toEntry _)
  have hmarker := marker_infix sha256 kind label draw
  rw [hvalue]
  refine ⟨⟨?_, ?_, ?_⟩, hmarker⟩
  · intro u hu
    have hunit := isTokenUnit_of_mem hu
    have hcostume : ∀ u ∈ js "sk_live_-", Json.isWordUnit u = true :=
      List.all_iff_forall_prop.mp (by decide +kernel)
    simp only [isTokenUnit, Bool.or_eq_true, List.contains_iff_mem] at hunit
    rcases hunit with (hunit | hunit) | hunit
    · simp [Json.isWordUnit, hunit]
    · simp [Json.isWordUnit, Json.isDigit, hunit]
    · exact hcostume u hunit
  · obtain ⟨c, rest, hc, hmem⟩ := head_generated sha256 kind label draw
    have hplain : ∀ c ∈ js "ACs", Json.isEscapeUnit c = false :=
      List.all_iff_forall_prop.mp (by decide +kernel)
    exact ⟨c, rest, hc, hplain c hmem⟩
  · exact ⟨0x43, hmarker.subset (by decide +kernel), by decide, by decide, by decide⟩

variable {cfg : ProxyConfig}

/-- The scan reports an id exactly where the tree holds the value of an entry with that id. -/
theorem mem_decoyIds_iff (hgen : r.Generated sha256) (hcfg : cfg.honeytokens = some r) (call : ToolCall)
    (id : JsString) :
    id ∈ cfg.decoyIds call
      ↔ ∃ e ∈ r.entries, e.canaryId = id ∧ HoldsDecoy e.value (call.args.getD (.obj [])) := by
  simp only [ProxyConfig.decoyIds, hcfg, HoneytokenRegistry.mem_matched_iff]
  constructor
  · rintro ⟨e, he, hid, hin⟩
    exact ⟨e, he, hid, (Json.infix_stringify_iff (word_generated hgen he).1 _).mp hin⟩
  · rintro ⟨e, he, hid, hin⟩
    exact ⟨e, he, hid, (Json.infix_stringify_iff (word_generated hgen he).1 _).mpr hin⟩

/-- No registered value is in the tree. -/
def Clean (r : HoneytokenRegistry) (args : Json) : Prop :=
  ∀ e ∈ r.entries, ¬ HoldsDecoy e.value args

/-- A call in which no decoy is found has clean arguments. -/
theorem clean_of_decoyIds (hgen : r.Generated sha256) (hcfg : cfg.honeytokens = some r) {call : ToolCall}
    (h : cfg.decoyIds call = []) : Clean r (call.args.getD (.obj [])) := by
  intro e he hholds
  have hmem := (mem_decoyIds_iff hgen hcfg call e.canaryId).mpr ⟨e, he, rfl, hholds⟩
  rw [h] at hmem
  cases hmem

/-! ### The request that is sent to the head read -/

/-- An entry that is found is one. -/
theorem mem_of_findEntry {fs : List (JsString × Json)} {k : JsString} {v : Json}
    (h : JsMap.findEntry fs k = some v) : (k, v) ∈ fs := by
  induction fs with
  | nil => cases h
  | cons f fs ih =>
      rw [JsMap.findEntry] at h
      split at h
      · rename_i hk
        obtain rfl := Option.some.inj h
        rw [← hk]
        exact List.mem_cons_self ..
      · exact List.mem_cons_of_mem f (ih h)

theorem texts_subset_of_mem {fs : List (JsString × Json)} {k : JsString} {v : Json} (h : (k, v) ∈ fs) :
    v.texts ⊆ Json.textsMembers fs := by
  induction fs with
  | nil => cases h
  | cons f fs ih =>
      intro s hs
      rw [Json.textsMembers]
      cases List.mem_cons.mp h with
      | inl heq =>
          subst heq
          exact List.mem_cons_of_mem k (List.mem_append_left _ hs)
      | inr htail => exact List.mem_cons_of_mem f.1 (List.mem_append_right _ (ih htail hs))

/-- The texts of an object built from the fields that are present. -/
theorem mem_texts_present {fs : List (JsString × Option Json)} {s : JsString}
    (h : s ∈ (Json.obj (Json.present fs)).texts) : ∃ k v, (k, some v) ∈ fs ∧ (s = k ∨ s ∈ v.texts) := by
  have hmembers : ∀ gs : List (JsString × Json), s ∈ Json.textsMembers gs → ∃ g ∈ gs, s = g.1 ∨ s ∈ g.2.texts := by
    intro gs hs
    induction gs with
    | nil => cases hs
    | cons g gs ih =>
        rw [Json.textsMembers, List.mem_cons, List.mem_append] at hs
        rcases hs with hk | hv | hrest
        · exact ⟨g, List.mem_cons_self .., .inl hk⟩
        · exact ⟨g, List.mem_cons_self .., .inr hv⟩
        · obtain ⟨g', hg', hs⟩ := ih hrest
          exact ⟨g', List.mem_cons_of_mem g hg', hs⟩
  obtain ⟨⟨k, v⟩, hmem, hs⟩ := hmembers _ (by simpa only [Json.texts] using h)
  obtain ⟨⟨k', v'⟩, hf, hkv⟩ := List.mem_filterMap.mp hmem
  obtain ⟨w, rfl, hkw⟩ := Option.map_eq_some_iff.mp hkv
  obtain ⟨rfl, rfl⟩ := Prod.mk.inj hkw
  exact ⟨k', w, hf, hs⟩

/-- A string property is one of the tree's strings. -/
theorem mem_texts_of_get {args : List (JsString × Json)} {k s : JsString}
    (h : ((Json.obj args).get k).bind Json.str? = some s) : s ∈ (Json.obj args).texts := by
  obtain ⟨v, hv, hs⟩ := Option.bind_eq_some_iff.mp h
  cases v with
  | str s' =>
      obtain rfl := Option.some.inj hs
      exact texts_subset_of_mem (mem_of_findEntry hv) (by simp [Json.texts])
  | null => cases hs
  | bool => cases hs
  | num => cases hs
  | arr => cases hs
  | obj => cases hs

/-- A normalized request names the owner and the repository of the arguments. -/
theorem validate_ok {args : List (JsString × Json)} {base : NormalizedMergeRequest}
    (h : validateMergePrRequestArgs args = .ok base) :
    ((Json.obj args).get (js "owner")).bind Json.str? = some base.owner
      ∧ ((Json.obj args).get (js "repo")).bind Json.str? = some base.repo := by
  unfold validateMergePrRequestArgs at h
  split at h
  · cases h
  · split at h
    · cases h
    · split at h
      · cases h
      · rename_i owner howner
        split at h
        · cases h
        · rename_i repo hrepo
          split at h
          · cases h
          · split at h
            · cases h
            · obtain rfl := Except.ok.inj h
              exact ⟨(Option.filter_eq_some_iff.mp howner).1, (Option.filter_eq_some_iff.mp hrepo).1⟩

/-- A generated value is no part of the texts the request itself brings. -/
theorem not_infix_of_unmarked {value text : JsString} (hmarker : canaryMarker <:+: value)
    (htext : ¬ canaryMarker <:+: text) : ¬ value <:+: text := fun h => htext (hmarker.trans h)

/-- What is sent to the head read is as clean as the arguments it was taken from. -/
theorem clean_base (hgen : r.Generated sha256) {args : List (JsString × Json)} {base : NormalizedMergeRequest}
    (hclean : Clean r (.obj args)) (h : validateMergePrRequestArgs args = .ok base) :
    Clean r (Crossing.headPin base).args := by
  obtain ⟨howner, hrepo⟩ := validate_ok h
  intro e he hholds
  obtain ⟨s, hs, hin⟩ := hholds
  have hmarker := (word_generated hgen he).2
  have hown : s = base.owner ∨ s = base.repo ∨ s ∈ [js "owner", js "repo", js "pullNumber", js "mergeMethod",
      js "merge", js "squash", js "rebase"] := by
    obtain ⟨k, v, hmem, hsv⟩ := mem_texts_present hs
    simp only [NormalizedMergeRequest.fields, List.mem_cons, Prod.mk.injEq, Option.some.injEq, List.not_mem_nil,
      or_false] at hmem
    rcases hmem with ⟨rfl, rfl⟩ | ⟨rfl, rfl⟩ | ⟨rfl, rfl⟩ | ⟨rfl, hmethod⟩
    · rcases hsv with rfl | hsv
      · exact .inr (.inr (by simp))
      · exact .inl (List.mem_singleton.mp hsv)
    · rcases hsv with rfl | hsv
      · exact .inr (.inr (by simp))
      · exact .inr (.inl (List.mem_singleton.mp hsv))
    · rcases hsv with rfl | hsv
      · exact .inr (.inr (by simp))
      · cases hsv
    · rcases hsv with rfl | hsv
      · exact .inr (.inr (by simp))
      · obtain ⟨method, -, rfl⟩ := Option.map_eq_some_iff.mp hmethod.symm
        rw [List.mem_singleton.mp hsv]
        exact .inr (.inr (by cases method <;> simp [MergeMethod.text]))
  rcases hown with rfl | rfl | hconst
  · exact hclean e he ⟨_, mem_texts_of_get howner, hin⟩
  · exact hclean e he ⟨_, mem_texts_of_get hrepo, hin⟩
  · have hplain : ∀ s ∈ [js "owner", js "repo", js "pullNumber", js "mergeMethod", js "merge", js "squash",
        js "rebase"], ¬ canaryMarker <:+: s := by decide +kernel
    exact not_infix_of_unmarked hmarker (hplain s hconst) hin

/-! ### Runs -/

/-- What every reachable proxy keeps: a call that awaits its dispatch was scanned, what crossed is clean, and
    what was reported is in the call that is blamed. -/
structure Scanned (cfg : ProxyConfig) (r : HoneytokenRegistry) (s : Proxy) : Prop where
  dispatching : ∀ d ∈ s.dispatching, cfg.decoyIds d.call = []
  crossed : ∀ c ∈ s.crossed, Clean r c.args
  reports : ∀ report ∈ s.reports, report.canaryIds = cfg.decoyIds report.call

variable {s s' : Proxy}

namespace Scanned

/-- A report names the decoys of its call. -/
theorem report (h : Scanned cfg r s) {report : DecoyReport} (hids : report.canaryIds = cfg.decoyIds report.call) :
    Scanned cfg r (s.report report) := by
  refine ⟨h.dispatching, h.crossed, ?_⟩
  intro report' hmem
  cases List.mem_append.mp hmem with
  | inl hold => exact h.reports report' hold
  | inr hnew => rw [List.mem_singleton.mp hnew, hids]

/-- What crosses clean keeps the proxy scanned. -/
theorem cross (h : Scanned cfg r s) {crossing : Crossing} (hclean : Clean r crossing.args) :
    Scanned cfg r (s.cross crossing) := by
  refine ⟨h.dispatching, ?_, h.reports⟩
  intro c hmem
  cases List.mem_append.mp hmem with
  | inl hold => exact h.crossed c hold
  | inr hnew =>
      rw [List.mem_singleton.mp hnew]
      exact hclean

theorem alertIfDecoy (h : Scanned cfg r s) (call : ToolCall) : Scanned cfg r (s.alertIfDecoy cfg call) := by
  unfold Proxy.alertIfDecoy
  split
  · exact h
  · exact h.report rfl

/-- The scan right before the dispatch. -/
theorem forwardOrKill (h : Scanned cfg r s) (call : ToolCall) (mintEpoch : Option Nat) (grant : Option Json) :
    Scanned cfg r (s.forwardOrKill cfg call mintEpoch grant) := by
  unfold Proxy.forwardOrKill
  split
  · rename_i hnone
    refine ⟨?_, h.crossed, h.reports⟩
    intro d hmem
    cases List.mem_append.mp hmem with
    | inl hold => exact h.dispatching d hold
    | inr hnew =>
        rw [List.mem_singleton.mp hnew]
        exact hnone
  · exact h.report rfl

/-- A call without a decoy is dispatched clean. -/
theorem dispatch (hgen : r.Generated sha256) (hcfg : cfg.honeytokens = some r) (h : Scanned cfg r s)
    {d : Dispatch} (hd : cfg.decoyIds d.call = []) : Scanned cfg r (s.dispatch cfg d) := by
  have hclean := clean_of_decoyIds hgen hcfg hd
  unfold Proxy.dispatch
  split
  · exact h.cross hclean
  · split
    · exact h
    · split
      · exact h
      · split
        · exact h.cross hclean
        · exact h

theorem proceed (h : Scanned cfg r s) (call : ToolCall) (decision : Decision) (mintEpoch : Option Nat) :
    Scanned cfg r (s.proceed cfg call decision mintEpoch) := by
  cases decision with
  | allow => exact h.forwardOrKill call mintEpoch none
  | veto => exact ⟨h.dispatching, h.crossed, h.reports⟩
  | deny => exact h
  | approve => exact h

/-- A request goes to the head read only after the call was scanned. -/
theorem pinIfRoutedMerge_reading (hgen : r.Generated sha256) (hcfg : cfg.honeytokens = some r) {call : ToolCall}
    {base : NormalizedMergeRequest} (h : cfg.pinIfRoutedMerge call = .reading base) :
    Clean r (Crossing.headPin base).args := by
  unfold ProxyConfig.pinIfRoutedMerge at h
  split at h
  · cases h
  · split at h
    · cases h
    · split at h
      · cases h
      · rename_i hnone
        have hclean := clean_of_decoyIds hgen hcfg (not_not.mp hnone)
        split at h
        · rename_i args hargs
          rw [hargs] at hclean
          split at h
          · rename_i base' hbase
            split at h
            · obtain rfl := PinStart.reading.inj h
              exact clean_base hgen hclean hbase
            · cases h
          · cases h
        · cases h

theorem pinIfRoutedMerge_decoys {call : ToolCall} {canaryIds : List JsString}
    (h : cfg.pinIfRoutedMerge call = .decoys canaryIds) : canaryIds = cfg.decoyIds call := by
  unfold ProxyConfig.pinIfRoutedMerge at h
  split at h
  · cases h
  · split at h
    · cases h
    · split at h
      · exact (PinStart.decoys.inj h).symm
      · split at h
        · split at h
          · split at h <;> cases h
          · cases h
        · cases h

/-- A call that is decided is scanned before it goes on. -/
theorem decided (hgen : r.Generated sha256) (hcfg : cfg.honeytokens = some r) (h : Scanned cfg r s)
    (call : ToolCall) (decision : Decision) (mintEpoch : Option Nat) :
    Scanned cfg r (s.decided cfg call decision mintEpoch) := by
  have hreads : ∀ base, cfg.pinIfRoutedMerge call = .reading base → ∀ pinning,
      Scanned cfg r { s.cross (.headPin base) with pinning } := by
    intro base hreading pinning
    have hcross := h.cross (pinIfRoutedMerge_reading hgen hcfg hreading)
    exact ⟨hcross.dispatching, hcross.crossed, hcross.reports⟩
  unfold Proxy.decided
  split
  · exact h.alertIfDecoy call
  · exact h.alertIfDecoy call
  · split
    · exact h.proceed call .allow mintEpoch
    · rename_i hdecoys
      exact h.report (pinIfRoutedMerge_decoys hdecoys)
    · exact h
    · rename_i base hreading
      exact hreads base hreading _
  · split
    · exact h.proceed call .veto mintEpoch
    · rename_i hdecoys
      exact h.report (pinIfRoutedMerge_decoys hdecoys)
    · exact h
    · rename_i base hreading
      exact hreads base hreading _

theorem laneEnds (h : Scanned cfg r s) (c : Option LaneCall) : Scanned cfg r (s.laneEnds cfg c) := by
  unfold Proxy.laneEnds
  split
  · exact h.forwardOrKill _ _ _
  · exact h.alertIfDecoy _
  · exact h

/-- Whatever the proxy does next keeps to the scan. -/
theorem next (hgen : r.Generated sha256) (hcfg : cfg.honeytokens = some r) (h : Scanned cfg r s) {step : ProxyStep}
    (hnext : (proxyRuns cfg).next s step s') : Scanned cfg r s' := by
  cases step with
  | decided call decision mintEpoch =>
      obtain rfl := hnext
      exact h.decided hgen hcfg call decision mintEpoch
  | pinned index target =>
      obtain ⟨p, hp, rfl⟩ := hnext
      have hrest : Scanned cfg r { s with pinning := s.pinning.eraseIdx index } :=
        ⟨h.dispatching, h.crossed, h.reports⟩
      cases target with
      | none => exact hrest
      | some target => exact hrest.proceed _ _ _
  | registered registration id =>
      obtain ⟨lane, -, rfl⟩ := hnext
      exact ⟨h.dispatching, h.crossed, h.reports⟩
  | resumed index =>
      obtain ⟨lane, -, rfl⟩ := hnext
      have hlane : Scanned cfg r { s with lane := lane } := ⟨h.dispatching, h.crossed, h.reports⟩
      exact hlane.laneEnds _
  | answered index answer =>
      obtain ⟨lane, -, rfl⟩ := hnext
      have hlane : Scanned cfg r { s with lane := lane } := ⟨h.dispatching, h.crossed, h.reports⟩
      exact hlane.laneEnds _
  | observed index admitted =>
      obtain ⟨d, hd, rfl⟩ := hnext
      have hrest : Scanned cfg r { s with dispatching := s.dispatching.eraseIdx index } :=
        ⟨fun d' hd' => h.dispatching d' (List.mem_of_mem_eraseIdx hd'), h.crossed, h.reports⟩
      rw [Proxy.afterObserved]
      split
      · exact hrest.dispatch hgen hcfg (h.dispatching d (List.mem_of_getElem? hd))
      · exact hrest

end Scanned

end Generated

end OwnerSwitch
