/-
Module: OwnerSwitch.ControlPlane.KillStateDurability
Layer: ControlPlane
Purpose: Runs of a kill-state store whose calls can fail anywhere and whose power can go out at any system
  call. What a later load can return after a save that said it is durable, after the marker has reached
  the disk, and after a degrade that said it worked: it fails closed or gives no older state, unless an
  existence test that failed said that nothing is there or a power cut undid the removal.
Imports: Lib.Lts, KillStateCodec, KillStateStore
Trusted boundary: the containing directory itself is durable
Main exports: StoreCall, StoreCall.Step, storeRuns, Quarantined, store_contract
Open obligations: none
-/
import OwnerSwitch.Lib.Lts
import OwnerSwitch.ControlPlane.KillStateCodec
import OwnerSwitch.ControlPlane.KillStateStore

namespace OwnerSwitch

open CrashFs CrashFs.Fs CrashFs.Prog

namespace KillStateFileStore

/-! ### Calls and runs -/

/-- A call of the store, with the script of what happens at its system calls; or the power goes out
    between two calls. -/
inductive StoreCall where
  | save (hex : JsString) (state : PersistedKillState) (script : List Turn)
  | degrade (script : List Turn)
  | load (script : List Turn)
  | powerCut

/-- Where a call ends, before the power has gone out. -/
def StoreCall.stop (store : KillStateFileStore) (fs : Fs) : StoreCall → Fs
  | .save hex state script => (store.save hex state ⟨fs, script⟩).2.fs
  | .degrade script => (store.degrade ⟨fs, script⟩).2.fs
  | .load script => (store.load ⟨fs, script⟩).2.fs
  | .powerCut => fs

/-- Whether the power goes out. -/
def StoreCall.cut (store : KillStateFileStore) (fs : Fs) : StoreCall → Bool
  | .save hex state script => cutOff (store.save hex state ⟨fs, script⟩).1
  | .degrade script => cutOff (store.degrade ⟨fs, script⟩).1
  | .load script => cutOff (store.load ⟨fs, script⟩).1
  | .powerCut => true

/-- What a call makes of the directory, when the power cuts are those of `V`. -/
def StoreCall.Step (store : KillStateFileStore) (V : Fs → Fs → Prop) (fs : Fs) (c : StoreCall) (fs' : Fs) : Prop :=
  if c.cut store fs then V (c.stop store fs) fs' else fs' = c.stop store fs

/-- Nothing is on its way to the directory, and neither name is a symlink. -/
structure AtRest (store : KillStateFileStore) (fs : Fs) : Prop where
  pending : fs.pending = []
  state : ∀ r, fs.view store.filePath ≠ some (.symlink r)
  marker : ∀ r, fs.view store.markerPath ≠ some (.symlink r)

/-- The runs of a store. -/
def storeRuns (store : KillStateFileStore) : Lts Fs StoreCall where
  init := AtRest store
  next fs c fs' := c.Step store Fs.Cut fs fs'

/-- A step of a store's run. -/
abbrev StoreEdge : Type :=
  Lts.Edge Fs StoreCall

/-- The step is a save of the state that said it is durable. -/
def SavedDurably (store : KillStateFileStore) (e : StoreEdge) (state : PersistedKillState) : Prop :=
  ∃ hex script, e.label = .save hex state script ∧ (store.save hex state ⟨e.src, script⟩).1 = .ok .durable

/-- The step is a degrade that said it worked. -/
def Quarantined (store : KillStateFileStore) (e : StoreEdge) : Prop :=
  ∃ script, e.label = .degrade script ∧ (store.degrade ⟨e.src, script⟩).1 = .ok true

/-- The step is a load that returned. -/
def Loaded (store : KillStateFileStore) (e : StoreEdge) (r : KillStateLoad) : Prop :=
  ∃ script, e.label = .load script ∧ (store.load ⟨e.src, script⟩).1 = .ok r

/-- The marker's entry has reached the disk by the time the step's call ends. -/
def MarkerSynced (store : KillStateFileStore) (e : StoreEdge) : Prop :=
  (e.label.stop store e.src).disk.get? store.markerPath ≠ none

/-- The states handed to the saves of some steps. -/
def statesSaved (es : List StoreEdge) : List PersistedKillState :=
  es.filterMap fun e =>
    match e.label with
    | .save _ state _ => some state
    | _ => none

/-- A load that fails closed, or gives one of some states as a reader enumerates it. -/
def LoadsOneOf (states : List PersistedKillState) : KillStateLoad → Prop
  | .corrupt _ => True
  | .loaded state => ∃ st ∈ states, state = st.enumerated
  | .absent => False

/-! ### What a call preserves -/

section Steps

variable {store : KillStateFileStore} {O : Outlook store.filePath} {A B a b : Sight → Prop} {fs fs' : Fs}

/-- The cuts of `V` preserve every assertion about the state file. -/
def Preserves (O : Outlook store.filePath) (V : Fs → Fs → Prop) (B b : Sight → Prop) : Prop :=
  ∀ A fs fs', store.Holds O A B A b fs → V fs fs' → store.Holds O A B A b fs'

/-- What can be found under the state file's name after a call. -/
def StoreCall.After (A : Sight → Prop) : StoreCall → Sight → Prop
  | .save _ state _, s => A s ∨ s = .file state.fileBytes
  | .degrade _, s => A s ∨ s = .missing
  | _, s => A s

theorem StoreCall.stop_holds (c : StoreCall) (hB : ∀ x, B (.file x)) (hb : ∀ x, b (.file x))
    (hdangling : ∀ s, b s → s ≠ .symlink false) (h : store.Holds O A B A b fs) :
    store.Holds O (c.After A) B (c.After A) b (c.stop store fs) := by
  cases c with
  | save hex state script =>
      have hweak : ∀ fs, store.Holds O (fun s => A s ∨ s = .file state.fileBytes) B (· = .file state.fileBytes)
          (fun s => b s ∧ Present s) fs → store.Holds O (fun s => A s ∨ s = .file state.fileBytes) B
          (fun s => A s ∨ s = .file state.fileBytes) b fs := fun fs h =>
        h.mono (fun _ h => h) (fun _ h => h) (fun _ h => .inr h) fun _ h => h.1
      exact ((save_spec hex state hB hb hdangling).conseq (fun _ h => h) (fun _ fs h => hweak fs h.1)
        (fun _ _ h => h) fun _ h => h).ends h script
  | degrade script =>
      exact ((degrade_spec hB hb hdangling).conseq (fun _ h => h) (fun _ _ h => h.1) (fun _ _ h => h.elim)
        fun _ h => h).ends h script
  | load script =>
      have hnow : store.Holds O A B (· = fs.sight store.filePath) (· = fs.sight store.markerPath) fs :=
        ⟨h.state, h.marker, rfl, rfl, h.kept⟩
      have hweak : ∀ fs', store.Holds O A B (· = fs.sight store.filePath) b fs' →
          store.Holds O A B A b fs' := fun fs' h' =>
        h'.mono (fun _ h => h) (fun _ h => h) (fun s hs => hs ▸ h.stateNow) fun _ h => h
      exact ((load_spec _ _ hB hb hdangling h.markerNow).conseq (fun _ h => h) (fun _ fs' h => hweak fs' h.1.1)
        (fun _ fs' h => hweak fs' h.2) hweak).ends hnow script
  | powerCut => exact h

theorem StoreCall.step_holds {V : Fs → Fs → Prop} {c : StoreCall} (hV : Preserves O V B b)
    (hB : ∀ x, B (.file x)) (hb : ∀ x, b (.file x)) (hdangling : ∀ s, b s → s ≠ .symlink false)
    (h : store.Holds O A B A b fs) (hstep : c.Step store V fs fs') :
    store.Holds O (c.After A) B (c.After A) b fs' := by
  have hstop := c.stop_holds hB hb hdangling h
  unfold StoreCall.Step at hstep
  split at hstep
  · exact hV _ _ _ hstop hstep
  · exact hstep ▸ hstop

/-- What can be found under the state file's name after some steps: what could be before, one of the
    states saved meanwhile, or nothing. -/
theorem path_holds {V : Fs → Fs → Prop} {es : List StoreEdge} (hV : Preserves O V B b)
    (hB : ∀ x, B (.file x)) (hb : ∀ x, b (.file x)) (hdangling : ∀ s, b s → s ≠ .symlink false)
    (hpath : (storeRuns store).Path fs es fs') (hcuts : ∀ e ∈ es, e.label.Step store V e.src e.dst)
    (h : store.Holds O A B A b fs) :
    let A' := fun s => A s ∨ (∃ st ∈ statesSaved es, s = .file st.fileBytes) ∨ s = .missing
    store.Holds O A' B A' b fs' := by
  induction hpath with
  | nil => exact h.mono (fun _ h => .inl h) (fun _ h => h) (fun _ h => .inl h) fun _ h => h
  | @snoc es t c u hpath _ ih =>
      have hprev := ih fun e he => hcuts e (List.mem_append_left _ he)
      have hnext := StoreCall.step_holds hV hB hb hdangling hprev (hcuts ⟨t, c, u⟩ (by simp))
      have hweak : ∀ s, c.After (fun s => A s ∨ (∃ st ∈ statesSaved es, s = .file st.fileBytes) ∨ s = .missing) s →
          A s ∨ (∃ st ∈ statesSaved (es ++ [⟨t, c, u⟩]), s = .file st.fileBytes) ∨ s = .missing := by
        have hold : ∀ s, (A s ∨ (∃ st ∈ statesSaved es, s = .file st.fileBytes) ∨ s = .missing) →
            A s ∨ (∃ st ∈ statesSaved (es ++ [⟨t, c, u⟩]), s = .file st.fileBytes) ∨ s = .missing :=
          fun s hs => hs.imp_right <| Or.imp_left fun ⟨st, hst, hs⟩ =>
            ⟨st, by rw [statesSaved, List.filterMap_append]; exact List.mem_append_left _ hst, hs⟩
        intro s hs
        cases c with
        | save hex state script =>
            rcases hs with hs | hs
            · exact hold s hs
            · exact .inr (.inl ⟨state, by simp [statesSaved], hs⟩)
        | degrade script =>
            rcases hs with hs | hs
            · exact hold s hs
            · exact .inr (.inr hs)
        | load script => exact hold s hs
        | powerCut => exact hold s hs
      exact hnext.mono hweak (fun _ h => h) hweak fun _ h => h

/-- No load of the steps is wrong about whether the marker is there: the existence test reports a look-up
    that failed as an absence. -/
def LoadsSee (store : KillStateFileStore) (es : List StoreEdge) : Prop :=
  ∀ e ∈ es, ∀ script, e.label = .load script → ∀ t ∈ script, Sees store.markerPath t.fault

/-- No degrade of the steps is wrong about whether the state file is gone. -/
def DegradesSee (store : KillStateFileStore) (es : List StoreEdge) : Prop :=
  ∀ e ∈ es, ∀ script, e.label = .degrade script → ∀ t ∈ script, Sees store.filePath t.fault

/-- What a load that sees the marker, if it is there, finds. -/
theorem loads_of_loaded {e : StoreEdge} {r : KillStateLoad} (hB : ∀ x, B (.file x)) (hb : ∀ x, b (.file x))
    (hdangling : ∀ s, b s → s ≠ .symlink false) (h : store.Holds O A B a b e.src) (hload : Loaded store e r)
    (hsees : ∀ script, e.label = .load script → ∀ t ∈ script, Sees store.markerPath t.fault) :
    Loads store (Sees store.markerPath) (e.src.sight store.filePath) (e.src.sight store.markerPath) r := by
  obtain ⟨script, hlabel, hr⟩ := hload
  have hnow : store.Holds O A B (· = e.src.sight store.filePath) (· = e.src.sight store.markerPath) e.src :=
    ⟨h.state, h.marker, rfl, rfl, h.kept⟩
  exact ((load_spec _ _ hB hb hdangling h.markerNow).returns hnow (hsees script hlabel) hr).2.1

/-- A load where nothing but some states can be found, and the marker is there. -/
theorem loaded_oneOf {e : StoreEdge} {r : KillStateLoad} {states : List PersistedKillState}
    (hB : ∀ x, B (.file x)) (h : store.Holds O A B
      (fun s => (∃ st ∈ states, s = .file st.fileBytes) ∨ s = .missing) Present e.src)
    (hload : Loaded store e r)
    (hsees : ∀ script, e.label = .load script → ∀ t ∈ script, Sees store.markerPath t.fault) :
    LoadsOneOf states r := by
  have hfound := loads_of_loaded hB (by simp [Present]) (fun _ h => h.2) h hload hsees
  cases r with
  | corrupt detail => trivial
  | absent => exact absurd h.markerNow (hfound.2 fun hblind => hblind rfl)
  | loaded state =>
      obtain ⟨bytes, hbytes, -, hint⟩ := hfound
      rcases h.stateNow with ⟨st, hst, hs⟩ | hs
      · obtain rfl := Sight.file.inj (hbytes.symm.trans hs)
        exact ⟨st, hst, interpret_fileBytes_eq hint⟩
      · rw [hbytes] at hs
        simp at hs

/-! ### The contract -/

/-- What is not a symlink. -/
def Plain (s : Sight) : Prop :=
  ∀ r, s ≠ .symlink r

theorem plain_file (x : Bytes) : Plain (.file x) := by
  simp [Plain]

theorem present_file (x : Bytes) : Present (.file x) := by
  simp [Present]

theorem AtRest.holds (h : AtRest store fs) : store.Holds O Plain Plain Plain Plain fs := by
  have hplain : ∀ n, (∀ r, fs.view n ≠ some (.symlink r)) → ∀ s, fs.MaySee n s → Plain s := by
    intro n hn s ⟨e, he, hs⟩
    have hview : e = fs.view n := by
      simpa [mayHold, view, dir, h.pending] using he
    subst hview
    rcases hv : fs.view n with _ | (i | r | _) <;> rw [hv] at hs
    · obtain rfl := hs
      simp [Plain]
    · obtain ⟨x, -, rfl⟩ := hs
      exact plain_file x
    · exact absurd hv (hn r)
    · obtain rfl := hs
      simp [Plain]
  exact Holds.narrow ⟨hplain _ h.state, hplain _ h.marker, hplain _ h.state _ (fs.maySee_sight _),
    hplain _ h.marker _ (fs.maySee_sight _), by simp [h.pending]⟩

theorem preserves_cut : Preserves (Outlook.any store.filePath) Fs.Cut B B :=
  fun _ _ _ h hcut => h.cut hcut

/-- In every run both names stay free of symlinks. -/
theorem exec_holds {es : List StoreEdge} (h : (storeRuns store).Exec es fs) :
    store.Holds O Plain Plain Plain Plain fs := by
  obtain ⟨fs₀, hinit, hpath⟩ := h
  have hcuts : ∀ e ∈ es, e.label.Step store Fs.Cut e.src e.dst := fun e he => hpath.next_of_mem he
  have hall := path_holds preserves_cut plain_file plain_file (fun s hs => hs false) hpath hcuts
    (AtRest.holds hinit)
  have hweak : ∀ s, Plain s ∨ (∃ st ∈ statesSaved es, s = .file st.fileBytes) ∨ s = .missing → Plain s := by
    rintro s (hs | ⟨st, -, rfl⟩ | rfl)
    · exact hs
    · exact plain_file _
    · simp [Plain]
  exact Holds.narrow (hall.mono hweak (fun _ h => h) hweak fun _ h => h)

variable (store)

/-- After a save that said it is durable a load gives that state or a later one, or fails closed. -/
def DurableStays (es : List StoreEdge) : Prop :=
  ∀ pre e mid f post state r, es = pre ++ e :: (mid ++ f :: post) → SavedDurably store e state →
    Loaded store f r → LoadsOneOf (state :: statesSaved mid) r

/-- Once the marker has reached the disk no load finds the store fresh. -/
def InitialisedStays (es : List StoreEdge) : Prop :=
  ∀ pre e mid f post r, es = pre ++ e :: (mid ++ f :: post) → MarkerSynced store e →
    Loaded store f r → r ≠ .absent

/-- After a degrade that said it worked a load gives a state saved since, or fails closed. -/
def QuarantineStays (es : List StoreEdge) : Prop :=
  ∀ pre e mid f post r, es = pre ++ e :: (mid ++ f :: post) → Quarantined store e →
    Loaded store f r → LoadsOneOf (statesSaved mid) r

/-- A power cut that neither brings back a removed entry of the state file nor loses the marker. -/
def Spares (fs fs' : Fs) : Prop :=
  Outlook.Keeps store.filePath fs fs' ∧ (fs.view store.markerPath ≠ none → fs'.view store.markerPath ≠ none)

variable {store}

theorem preserves_spares :
    Preserves (Outlook.keeping store.filePath) store.Spares Plain Present := by
  intro A fs fs' h hspares
  have hcut := h.cut hspares.1
  refine ⟨hcut.state, hcut.marker, hcut.stateNow, ⟨fun hmissing => ?_, hcut.markerNow false⟩, hcut.kept⟩
  -- the marker was there, and the cut has not lost it
  refine hspares.2 (fun hnone => h.markerNow.1 (by simp [sight, hnone])) ?_
  unfold sight at hmissing
  rcases hv : fs'.view store.markerPath with _ | (i | r | _) <;> rw [hv] at hmissing <;> simp at hmissing

theorem exec_durableStays {es : List StoreEdge} (h : (storeRuns store).Exec es fs) (hsees : LoadsSee store es) :
    DurableStays store es := by
  rintro pre e mid f post state r rfl ⟨hex, script, hlabel, hdurable⟩ hload
  obtain ⟨hpre, hstep, hpost⟩ := h.split
  obtain ⟨hmid, -, -⟩ := hpost.split
  have hsaved := ((save_spec (S := Rough) hex state plain_file plain_file fun s hs => hs false).returns
    (exec_holds (O := .any _) hpre) (fun _ _ => trivial) hdurable).2 rfl
  have hdst : e.dst = (store.save hex state ⟨e.src, script⟩).2.fs := by
    simpa [storeRuns, StoreCall.Step, StoreCall.cut, StoreCall.stop, hlabel, hdurable, cutOff] using hstep
  rw [← hdst] at hsaved
  have hfound := path_holds preserves_cut present_file present_file (fun _ h => h.2) hmid
    (fun d hd => hmid.next_of_mem hd) hsaved
  refine loaded_oneOf present_file (hfound.mono (fun _ h => h) (fun _ h => h) ?_ fun _ h => h) hload
    (hsees f (by simp))
  rintro s (hs | ⟨st, hst, hs⟩ | hs)
  · exact .inl ⟨state, by simp, hs⟩
  · exact .inl ⟨st, by simp [hst], hs⟩
  · exact .inr hs

theorem exec_initialisedStays {es : List StoreEdge} (h : (storeRuns store).Exec es fs)
    (hsees : LoadsSee store es) : InitialisedStays store es := by
  rintro pre e mid f post r rfl hsynced hload rfl
  obtain ⟨hpre, hstep, hpost⟩ := h.split
  obtain ⟨hmid, -, -⟩ := hpost.split
  have hstop := e.label.stop_holds plain_file plain_file (fun s hs => hs false)
    (exec_holds (O := .any _) hpre)
  -- every entry the marker can have is one, and none is a symlink
  have hmarker : ∀ s, (e.label.stop store e.src).MaySee store.markerPath s → Present s := by
    intro s hs
    refine ⟨?_, hstop.marker s hs false⟩
    obtain ⟨entry, hentry, hshow⟩ := hs
    rintro rfl
    rcases entry with _ | (i | r | _)
    · rcases List.mem_cons.mp hentry with hdisk | hpending
      · exact hsynced hdisk.symm
      · exact hstop.kept hpending
    · obtain ⟨_, -, hfile⟩ := hshow
      simp at hfile
    · simp [MayShow] at hshow
    · simp [MayShow] at hshow
  have hpresent : store.Holds (.any _) (e.label.After Plain) Present (e.label.After Plain) Present e.dst := by
    have hstopped : store.Holds (.any _) (e.label.After Plain) Present (e.label.After Plain) Present
        (e.label.stop store e.src) :=
      ⟨hstop.state, hmarker, hstop.stateNow, hmarker _ (Fs.maySee_sight _ _), hstop.kept⟩
    have hstep' : e.label.Step store Fs.Cut e.src e.dst := hstep
    unfold StoreCall.Step at hstep'
    split at hstep'
    · exact hstopped.cut hstep'
    · exact hstep' ▸ hstopped
  have hfound := path_holds preserves_cut present_file present_file (fun _ h => h.2) hmid
    (fun d hd => hmid.next_of_mem hd) hpresent
  exact (loads_of_loaded present_file present_file (fun _ h => h.2) hfound hload (hsees f (by simp))).2
    (fun hblind => hblind rfl) hfound.markerNow

/-- No power cut after a degrade that said it worked undoes it. -/
def QuarantineSpared (store : KillStateFileStore) (es : List StoreEdge) : Prop :=
  ∀ pre e mid, es = pre ++ e :: mid → Quarantined store e →
    ∀ d ∈ mid, d.label.Step store store.Spares d.src d.dst

theorem exec_quarantineStays {es : List StoreEdge} (h : (storeRuns store).Exec es fs)
    (hloads : LoadsSee store es) (hdegrades : DegradesSee store es) (hspared : QuarantineSpared store es) :
    QuarantineStays store es := by
  rintro pre e mid f post r rfl hq hload
  have hspares := hspared pre e (mid ++ f :: post) rfl hq
  obtain ⟨script, hlabel, htrue⟩ := hq
  obtain ⟨hpre, hstep, hpost⟩ := h.split
  obtain ⟨hmid, -, -⟩ := hpost.split
  obtain ⟨hholds, hquarantines⟩ := (degrade_spec (S := Sees store.filePath) plain_file plain_file
    fun s hs => hs false).returns (exec_holds (O := .keeping _) hpre) (hdegrades e (by simp) script hlabel) htrue
  have hgone := (hquarantines rfl).state fun hblind => hblind rfl
  have hpresent := (hquarantines rfl).marker
  have hdst : e.dst = (store.degrade ⟨e.src, script⟩).2.fs := by
    simpa [storeRuns, StoreCall.Step, StoreCall.cut, StoreCall.stop, hlabel, htrue, cutOff] using hstep
  rw [← hdst] at hholds hgone hpresent
  -- under a name that is gone nothing but its absence can be found by the cuts reckoned with
  have hview : e.dst.view store.filePath = none := by
    have hnow := hholds.stateNow
    unfold sight at hnow hgone
    rcases hv : e.dst.view store.filePath with _ | (i | r | _) <;> rw [hv] at hnow hgone
    · simp [Gone] at hgone
    · simp [Plain] at hnow
    · simp [Gone] at hgone
  have hmissing : store.Holds (.keeping _) (· = .missing) Plain (· = .missing) Present e.dst :=
    ⟨fun s hs => Outlook.maySeeKept_of_view_none hview hs, hholds.marker, by simp [sight, hview], hpresent,
      hholds.kept⟩
  have hfound := path_holds preserves_spares plain_file present_file (fun _ h => h.2) hmid
    (fun d hd => hspares d (List.mem_append_left _ hd)) hmissing
  refine loaded_oneOf plain_file (hfound.mono (fun _ h => h) (fun _ h => h) ?_ fun _ h => h) hload
    (hloads f (by simp))
  rintro s (hs | hs | hs)
  · exact .inr hs
  · exact .inl hs
  · exact .inr hs

/-- The contract of the store over every run whose loads see the marker. `degrade` trusts an existence test
    and does not fsync the removal, so its part needs tests that see the state file and power cuts that do
    not undo the removal. -/
theorem store_contract {es : List StoreEdge} (h : (storeRuns store).Exec es fs) (hloads : LoadsSee store es) :
    DurableStays store es ∧ InitialisedStays store es ∧
      (DegradesSee store es → QuarantineSpared store es → QuarantineStays store es) :=
  ⟨exec_durableStays h hloads, exec_initialisedStays h hloads, exec_quarantineStays h hloads⟩

end Steps

/-! ### A removal that is undone -/

/-- The steps of some calls, none of which is cut. -/
def edges (store : KillStateFileStore) (fs : Fs) : List StoreCall → List StoreEdge
  | [] => []
  | c :: cs => ⟨fs, c, c.stop store fs⟩ :: edges store (c.stop store fs) cs

/-- The directory after some calls. -/
def after (store : KillStateFileStore) (fs : Fs) (cs : List StoreCall) : Fs :=
  cs.foldl (fun fs c => c.stop store fs) fs

/-- Whether the power stays on during some calls. -/
def uncut (store : KillStateFileStore) (fs : Fs) : List StoreCall → Bool
  | [] => true
  | c :: cs => !c.cut store fs && uncut store (c.stop store fs) cs

theorem path_edges {store : KillStateFileStore} {fs : Fs} {cs : List StoreCall} (h : uncut store fs cs = true) :
    (storeRuns store).Path fs (edges store fs cs) (after store fs cs) := by
  induction cs generalizing fs with
  | nil => exact .nil
  | cons c cs ih =>
      rw [uncut, Bool.and_eq_true, Bool.not_eq_true'] at h
      have hstep : (storeRuns store).next fs c (c.stop store fs) := by
        simp [storeRuns, StoreCall.Step, h.1]
      exact (Lts.Path.single hstep).append (ih h.2)

/-- Steps that are not cut are steps whatever power cuts are reckoned with. -/
theorem step_edges {store : KillStateFileStore} {V : Fs → Fs → Prop} {fs : Fs} {cs : List StoreCall}
    (h : uncut store fs cs = true) : ∀ e ∈ edges store fs cs, e.label.Step store V e.src e.dst := by
  induction cs generalizing fs with
  | nil => simp [edges]
  | cons c cs ih =>
      rw [uncut, Bool.and_eq_true, Bool.not_eq_true'] at h
      intro e he
      rcases List.mem_cons.mp he with rfl | he
      · simp [StoreCall.Step, h.1]
      · exact ih h.2 e he

/-- A store in an empty directory. -/
def sampleStore : KillStateFileStore where
  filePath := js "k"
  syntaxMessage _ := []

/-- A load returned a state that is not killed. -/
def isArmed : Except Stop KillStateLoad → Bool
  | .error _ => false
  | .ok .absent => false
  | .ok (.loaded state) => !state.killed
  | .ok (.corrupt _) => false

theorem loaded_of_isArmed {result : Except Stop KillStateLoad} (h : isArmed result = true) :
    ∃ state, result = .ok (.loaded state) ∧ state.killed = false := by
  cases result with
  | error stop => cases h
  | ok load =>
      cases load with
      | absent => cases h
      | loaded state => exact ⟨state, rfl, by simpa [isArmed] using h⟩
      | corrupt detail => cases h

theorem atRest_empty : AtRest sampleStore Fs.empty :=
  ⟨rfl, by simp [Fs.empty, view, dir], by simp [Fs.empty, view, dir]⟩

namespace Undone

def armed : PersistedKillState where
  killed := false
  epoch := 0
  lastKill := none
  agentKills := none

def killed : PersistedKillState where
  killed := true
  epoch := 1
  lastKill := some { source := .button, reason := none, «at» := .ofInt 1, unauthenticated := false }
  agentKills := none

/-- The armed state is saved, the killed one is not because its temporary file cannot be opened. -/
def saves : List StoreCall :=
  [.save (js "0") armed [], .save (js "1") killed [⟨0, .none⟩, ⟨0, .none⟩, ⟨0, .fail []⟩]]

/-- Then the armed state is quarantined, -/
def beforeCut : Fs :=
  after sampleStore .empty (saves ++ [.degrade []])

/-- and the power goes out. -/
def run : List StoreEdge :=
  edges sampleStore .empty saves ++ ⟨after sampleStore .empty saves, .degrade [], beforeCut⟩ ::
    ([⟨beforeCut, .powerCut, beforeCut.loseAll⟩] ++
      ⟨beforeCut.loseAll, .load [], after sampleStore beforeCut.loseAll [.load []]⟩ :: [])

theorem exec_run : (storeRuns sampleStore).Exec run (after sampleStore beforeCut.loseAll [.load []]) := by
  have hcalls : (storeRuns sampleStore).Path .empty (edges sampleStore .empty (saves ++ [.degrade []])) beforeCut :=
    path_edges (by decide +kernel)
  have hcut : (storeRuns sampleStore).next beforeCut .powerCut beforeCut.loseAll :=
    Fs.cut_loseAll (by decide +kernel)
  have hload : (storeRuns sampleStore).Path beforeCut.loseAll (edges sampleStore beforeCut.loseAll [.load []]) _ :=
    path_edges (by decide +kernel)
  exact ⟨_, atRest_empty, (hcalls.append (.single hcut)).append hload⟩

/-- The load after the cut gives a state that is not killed. -/
theorem loaded_armed : ∃ r,
    Loaded sampleStore ⟨beforeCut.loseAll, .load [], after sampleStore beforeCut.loseAll [.load []]⟩ r ∧
    ∃ state, r = .loaded state ∧ state.killed = false := by
  have harmed : isArmed (sampleStore.load ⟨beforeCut.loseAll, []⟩).1 = true := by decide +kernel
  obtain ⟨state, hload, hlive⟩ := loaded_of_isArmed harmed
  exact ⟨_, ⟨[], rfl, hload⟩, state, rfl, hlive⟩

end Undone

/-- A power cut can undo the removal, and the state the failed save did not replace is loaded again. -/
theorem store_contract_undone :
    ¬ ∀ (store : KillStateFileStore) (es : List StoreEdge) (fs : Fs), (storeRuns store).Exec es fs →
      DurableStays store es ∧ InitialisedStays store es ∧ QuarantineStays store es := by
  intro h
  obtain ⟨-, -, hstays⟩ := h sampleStore Undone.run _ Undone.exec_run
  obtain ⟨r, hload, state, rfl, -⟩ := Undone.loaded_armed
  have hquarantined : Quarantined sampleStore
      ⟨after sampleStore .empty Undone.saves, .degrade [], Undone.beforeCut⟩ :=
    ⟨[], rfl, by decide +kernel⟩
  have hone := hstays _ _ _ _ _ _ rfl hquarantined hload
  simp [statesSaved, LoadsOneOf] at hone

/-- The contract on the same calls with the power on. -/
theorem store_contract_uncut :
    let es := edges sampleStore .empty (Undone.saves ++ [.degrade [], .load []])
    DurableStays sampleStore es ∧ InitialisedStays sampleStore es ∧ QuarantineStays sampleStore es := by
  have huncut : uncut sampleStore .empty (Undone.saves ++ [.degrade [], .load []]) = true := by decide +kernel
  have hexec : (storeRuns sampleStore).Exec (edges sampleStore .empty (Undone.saves ++ [.degrade [], .load []])) _ :=
    ⟨_, atRest_empty, path_edges huncut⟩
  have hlabels : ∀ e ∈ edges sampleStore .empty (Undone.saves ++ [.degrade [], .load []]),
      (∀ script, e.label = .load script → script = []) ∧ ∀ script, e.label = .degrade script → script = [] := by
    simp [Undone.saves, edges]
  obtain ⟨hdurable, hinitialised, hquarantine⟩ := store_contract hexec fun e he script hlabel => by
    simp [(hlabels e he).1 script hlabel]
  refine ⟨hdurable, hinitialised, hquarantine (fun e he script hlabel => by
    simp [(hlabels e he).2 script hlabel]) fun pre e mid hes _ d hd => step_edges huncut d ?_⟩
  rw [hes]
  exact List.mem_append_right _ (List.mem_cons_of_mem _ hd)

end KillStateFileStore

end OwnerSwitch
