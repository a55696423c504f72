/-
Module: OwnerSwitch.ControlPlane.KillStateStore
Layer: ControlPlane
Purpose: One specification for each function of the kill-state store, over the file system that can fail
  and lose power. An assertion (`Holds`) says what can be found under the state file's name and the
  marker's, now or after a power cut, and what is found there now; every specification transforms it.
Imports: KillState
Trusted boundary: none
Main exports: Holds, ensureMarker_spec, publish_spec, save_spec, degrade_spec, persist_spec, load_spec
Open obligations: none
-/
import OwnerSwitch.ControlPlane.KillState

namespace OwnerSwitch

open CrashFs CrashFs.Fs CrashFs.Prog

namespace KillStateFileStore

variable (store : KillStateFileStore)

/-! ### Names -/

theorem markerPath_ne_filePath : store.markerPath ≠ store.filePath := by
  intro h
  have hlen := congrArg List.length h
  simp [markerPath, js, utf16] at hlen

theorem tmpPath_ne_filePath (hex : JsString) : store.tmpPath hex ≠ store.filePath := by
  intro h
  have hlen := congrArg List.length h
  simp [tmpPath, js, utf16] at hlen

theorem tmpPath_ne_markerPath (hex : JsString) : store.tmpPath hex ≠ store.markerPath := by
  intro h
  have hlast := congrArg (fun s => s.reverse.head?) h
  simp [tmpPath, markerPath, js, utf16] at hlast

/-! ### Assertions -/

/-- Something is there, following symlinks. -/
def Present (s : Sight) : Prop :=
  s ≠ .missing ∧ s ≠ .symlink false

/-- Nothing is there, following symlinks. -/
def Gone (s : Sight) : Prop :=
  s = .missing ∨ s = .symlink false

/-- What is known of a directory: `A` of whatever can be found under the state file's name, now or after
    a power cut of the kind reckoned with, `B` likewise of the marker's and any power cut, `a` and `b` of
    what is found there now. No removal of the marker is on its way. -/
structure Holds (O : Outlook store.filePath) (A B a b : Sight → Prop) (fs : Fs) : Prop where
  state : ∀ s, O.may fs s → A s
  marker : ∀ s, fs.MaySee store.markerPath s → B s
  stateNow : a (fs.sight store.filePath)
  markerNow : b (fs.sight store.markerPath)
  kept : none ∉ fs.pending.filterMap (DirOp.effect store.markerPath)

/-- The state file is there, and its content cannot be lost. -/
def Settled (data : Bytes) (fs : Fs) : Prop :=
  ∃ i, fs.view store.filePath = some (.file i) ∧ fs.Synced i ∧ (fs.inode i).cached = data

/-- Some call may fail. -/
def Faulty (S : Fault → Prop) : Prop :=
  ∃ m, S (.fail m)

/-- A path is present where something is seen there. -/
theorem present_iff (fs : Fs) (n : JsString) : present fs n = true ↔ Present (fs.sight n) := by
  unfold present Present sight
  rcases fs.view n with _ | (i | r | _) <;> simp

/-- It is not where nothing is seen. -/
theorem present_eq_false_iff (fs : Fs) (n : JsString) : present fs n = false ↔ Gone (fs.sight n) := by
  unfold present Gone sight
  rcases fs.view n with _ | (i | r | _) <;> simp

section Assertions

variable {store} {O : Outlook store.filePath} {A B a b A' B' a' b' : Sight → Prop} {fs : Fs}
  {S : Fault → Prop}

/-- What is held is held of anything weaker. -/
theorem Holds.mono (h : store.Holds O A B a b fs) (hA : ∀ s, A s → A' s) (hB : ∀ s, B s → B' s)
    (ha : ∀ s, a s → a' s) (hb : ∀ s, b s → b' s) : store.Holds O A' B' a' b' fs :=
  ⟨fun s hs => hA s (h.state s hs), fun s hs => hB s (h.marker s hs), ha _ h.stateNow, hb _ h.markerNow,
    h.kept⟩

/-- What is known reckoning with every power cut is known reckoning with fewer. -/
theorem Holds.narrow (h : store.Holds (.any _) A B a b fs) : store.Holds O A B a b fs :=
  ⟨fun s hs => h.state s (O.maySee hs), h.marker, h.stateNow, h.markerNow, h.kept⟩

theorem Holds.stable : Stable (store.Holds O A B a b) :=
  fun _ _ h => ⟨fun s hs => h.state s (O.tick hs), h.marker, h.stateNow, h.markerNow, h.kept⟩

/-- Syncing the directory keeps what is held. -/
theorem Holds.syncDir (h : store.Holds O A B a b fs) : store.Holds O A B a b fs.syncDir :=
  ⟨fun s hs => h.state s (O.shows (O.syncDir hs)),
    fun s hs => h.marker s (maySee_of_mayShow_view (maySee_syncDir.mp hs)), h.stateNow, h.markerNow,
    by simp [Fs.syncDir]⟩

/-- Creating a file under another name. -/
theorem Holds.create (h : store.Holds O A B a b fs) {n : JsString} (hp : store.filePath ≠ n)
    (hm : store.markerPath ≠ n) : store.Holds O A B a b (fs.create n) where
  state s hs := h.state s ((O.create hs).resolve_right fun hn => hp hn.1)
  marker s hs := h.marker s ((maySee_create.mp hs).resolve_right fun hn => hm hn.1)
  stateNow := by rw [sight_create_ne hp]; exact h.stateNow
  markerNow := by rw [sight_create_ne hm]; exact h.markerNow
  kept := by simpa [Fs.create, DirOp.effect, hm] using h.kept

/-- Removing another name. -/
theorem Holds.unlink (h : store.Holds O A B a b fs) {n : JsString} (hp : store.filePath ≠ n)
    (hm : store.markerPath ≠ n) : store.Holds O A B a b (fs.unlink n) where
  state s hs := h.state s ((O.unlink hs).resolve_right fun hn => hp hn.1)
  marker s hs := h.marker s ((maySee_unlink.mp hs).resolve_right fun hn => hm hn.1)
  stateNow := by rw [sight_unlink_ne hp]; exact h.stateNow
  markerNow := by rw [sight_unlink_ne hm]; exact h.markerNow
  kept := by simpa [Fs.unlink, DirOp.effect, hm] using h.kept

/-- Changing a file that neither name can denote. -/
theorem Holds.modify (h : store.Holds O A B a b fs) {i : Nat} {f : Inode → Inode}
    (hp : some (.file i) ∉ fs.mayHold store.filePath) (hm : some (.file i) ∉ fs.mayHold store.markerPath) :
    store.Holds O A B a b (fs.modify i f) where
  state s hs := h.state s (O.modify hp hs)
  marker s hs := h.marker s ((maySee_modify_of_not_mem hm).mp hs)
  stateNow := by rw [sight_modify_of_not_mem hp]; exact h.stateNow
  markerNow := by rw [sight_modify_of_not_mem hm]; exact h.markerNow
  kept := h.kept

/-- A power cut leaves what could be found. -/
theorem Holds.cut {fs' : Fs} (h : store.Holds O A B a b fs) (hcut : O.Survives fs fs') :
    store.Holds O A B A B fs' where
  state s hs := h.state s (O.survives hcut hs)
  marker s hs := h.marker s ((O.cut hcut).maySee hs)
  stateNow := h.state _ (O.survives hcut (O.sight fs'))
  markerNow := h.marker _ ((O.cut hcut).maySee (fs'.maySee_sight _))
  kept := by simp [(O.cut hcut).pending]

/-! ### fsyncDir -/

/-- It returns true only after the directory was fsynced. -/
theorem fsyncDir_spec {P Q : Fs → Prop} (hP : Stable P) (hQ : Stable Q) (hPQ : ∀ fs, P fs → Q fs.syncDir)
    (hQP : ∀ fs, Q fs → P fs) :
    Triple S P fsyncDir (fun d fs => P fs ∧ (d = true → Q fs)) (fun _ fs => Faulty S ∧ P fs) P := by
  have hR : ∀ d : Bool, Stable fun fs => P fs ∧ (d = true → Q fs) := fun d fs n h =>
    ⟨hP _ _ h.1, fun hd => hQ _ _ (h.2 hd)⟩
  refine Triple.bind (Q := fun _ => P) ?_ fun opened => ?_
  · refine Triple.tryCatch (F := fun _ => P) ?_ fun _ => Triple.pure fun _ h => h
    exact Triple.bind (Triple.touch hP (fun _ _ h => h) fun _ _ _ h => h) fun _ => Triple.pure fun _ h => h
  · split
    · refine Triple.finally_ (Q := fun d fs => P fs ∧ (d = true → Q fs)) (F := fun _ _ => False) ?_ ?_ ?_
      · refine Triple.tryCatch (F := fun _ => P) ?_ fun _ => Triple.pure fun _ h => ⟨h, by simp⟩
        refine Triple.bind (Q := fun _ => Q) ?_ fun _ => Triple.pure fun _ h => ⟨hQP _ h, fun _ => h⟩
        exact Triple.syscall hP (fun _ _ h => h) (fun _ _ _ h => h) (fun _ fs _ h _ => hPQ fs h) (by simp)
      · exact fun d => Triple.touch (hR d) (fun _ _ h => h.1) fun m hm _ h => ⟨⟨m, hm⟩, h.1⟩
      · exact fun _ => fun _ h => h.elim
    · exact Triple.pure fun _ h => ⟨h, by simp⟩

/-! ### ensureMarker -/

/-- The state file's name is not affected; where it returns, the marker is there. -/
theorem ensureMarker_spec (hB : ∀ x, B (.file x)) (hb : ∀ x, b (.file x))
    (hdangling : ∀ s, b s → s ≠ .symlink false) :
    Triple S (store.Holds O A B a b) store.ensureMarker (fun _ => store.Holds O A B a fun s => b s ∧ Present s)
      (fun _ fs => Faulty S ∧ store.Holds O A B a b fs) (store.Holds O A B a b) := by
  have hweak : ∀ fs, store.Holds O A B a (fun s => b s ∧ Present s) fs → store.Holds O A B a b fs :=
    fun fs h => h.mono (fun _ h => h) (fun _ h => h) (fun _ h => h) fun _ h => h.1
  -- a file opened for writing here is the marker's, and cannot be the state file's
  have hwrite : ∀ (i : Nat) (f : Inode → Inode) (fs : Fs),
      store.Holds O A B a (fun s => b s ∧ Present s) fs ∧ some (.file i) ∉ fs.mayHold store.filePath →
      store.Holds O A B a (fun s => b s ∧ Present s) (fs.modify i f) ∧
        some (.file i) ∉ (fs.modify i f).mayHold store.filePath := by
    rintro i f fs ⟨h, hp⟩
    refine ⟨⟨fun s hs => h.state s (O.modify hp hs), fun s hs => ?_, ?_, ?_, h.kept⟩, hp⟩
    · rcases maySee_modify hs with hs | ⟨x, rfl⟩
      · exact h.marker s hs
      · exact hB x
    · rw [sight_modify_of_not_mem hp]; exact h.stateNow
    · rcases sight_modify fs i f store.markerPath with hs | ⟨_, x, _, hs⟩
      · rw [hs]; exact h.markerNow
      · rw [hs]; exact ⟨hb x, by simp, by simp⟩
  refine Triple.bind (Q := fun fd fs => store.Holds O A B a (fun s => b s ∧ Present s) fs ∧
    ∀ i ∈ fd, some (.file i) ∉ fs.mayHold store.filePath) ?_ fun fd => ?_
  · refine Triple.tryCatch (F := fun e fs => store.Holds O A B a b fs ∧
        ((e.code = .EEXIST ∧ Present (fs.sight store.markerPath)) ∨ (e.code ≠ .EEXIST ∧ Faulty S)))
      (Triple.bind (Q := fun i fs => store.Holds O A B a (fun s => b s ∧ Present s) fs ∧
        some (.file i) ∉ fs.mayHold store.filePath) ?_ fun i => Triple.pure fun fs h => ⟨h.1, by
          rintro _ ⟨rfl⟩; exact h.2⟩) fun e => ?_
    · refine Triple.syscall Holds.stable (fun _ _ h => h) (fun m hm fs h => ⟨h, .inr ⟨by simp, m, hm⟩⟩) ?_ ?_
      · intro _ fs i h hact
        split at hact
        · simp at hact
        · rename_i hnone
          simp only [Except.ok.injEq] at hact
          subst hact
          refine ⟨⟨fun s hs => h.state s ?_, fun s hs => ?_, ?_, ?_, ?_⟩, ?_⟩
          · exact (O.create hs).resolve_right fun hn => store.markerPath_ne_filePath hn.1.symm
          · rcases maySee_create.mp hs with hs | ⟨-, rfl⟩
            · exact h.marker s hs
            · exact hB []
          · rw [sight_create_ne store.markerPath_ne_filePath.symm]; exact h.stateNow
          · rw [sight_create_self]; exact ⟨hb [], by simp, by simp⟩
          · simpa [Fs.create, DirOp.effect] using h.kept
          · intro hmem
            rcases mem_mayHold_create.mp hmem with hmem | ⟨hn, -⟩
            · exact absurd (lt_of_mem_mayHold hmem) (Nat.lt_irrefl _)
            · exact store.markerPath_ne_filePath hn.symm
      · intro _ fs e h hact
        split at hact
        · rename_i entry hsome
          simp only [Except.error.injEq] at hact
          subst hact
          refine ⟨h, .inl ⟨rfl, fun hmiss => ?_, hdangling _ h.markerNow⟩⟩
          unfold sight at hmiss
          rw [hsome] at hmiss
          rcases entry with i | r | _ <;> simp at hmiss
        · simp at hact
    · split
      · rename_i hcode
        refine Triple.pure fun fs h => ⟨?_, by simp⟩
        rcases h.2 with ⟨-, hpres⟩ | ⟨hne, -⟩
        · exact ⟨h.1.state, h.1.marker, h.1.stateNow, ⟨h.1.markerNow, hpres⟩, h.1.kept⟩
        · exact absurd hcode hne
      · rename_i hcode
        exact Triple.throw fun fs h => ⟨(h.2.resolve_left fun hx => hcode hx.1).2, h.1⟩
  · cases fd with
    | none => exact Triple.pure fun fs h => h.1
    | some i =>
        have hstable : Stable fun fs => store.Holds O A B a (fun s => b s ∧ Present s) fs ∧
            some (.file i) ∉ fs.mayHold store.filePath := Holds.stable.and fun _ _ h => h
        refine Triple.bind (Q := fun _ => store.Holds O A B a fun s => b s ∧ Present s) ?_ fun _ => ?_
        · refine (Triple.finally_ (P := fun fs => store.Holds O A B a (fun s => b s ∧ Present s) fs ∧
              some (.file i) ∉ fs.mayHold store.filePath)
            (Q := fun _ => store.Holds O A B a fun s => b s ∧ Present s)
            (F := fun _ fs => Faulty S ∧ store.Holds O A B a b fs)
            ?_ ?_ ?_).pre fun fs h => ⟨h.1, h.2 i rfl⟩
          · refine Triple.bind (Q := fun _ fs => store.Holds O A B a (fun s => b s ∧ Present s) fs ∧
              some (.file i) ∉ fs.mayHold store.filePath) ?_ fun _ => ?_
            · exact Triple.syscall hstable (fun _ fs h => hweak fs h.1)
                (fun m hm fs h => ⟨⟨m, hm⟩, hweak fs h.1⟩) (fun _ fs _ h _ => hwrite i _ fs h) (by simp)
            · exact Triple.syscall hstable (fun _ fs h => hweak fs h.1)
                (fun m hm fs h => ⟨⟨m, hm⟩, hweak fs h.1⟩) (fun _ fs _ h _ => (hwrite i _ fs h).1) (by simp)
          · exact fun _ => Triple.touch Holds.stable (fun _ fs h => hweak fs h)
              fun m hm fs h => ⟨⟨m, hm⟩, hweak fs h⟩
          · exact fun _ => Triple.touch (P := fun fs => Faulty S ∧ store.Holds O A B a b fs)
              (fun _ _ h => ⟨h.1, Holds.stable _ _ h.2⟩) (fun _ fs h => h.2) fun m hm fs h => ⟨⟨m, hm⟩, h.2⟩
        · refine (fsyncDir_spec (Q := store.Holds O A B a fun s => b s ∧ Present s) Holds.stable Holds.stable
            (fun _ h => h.syncDir) (fun _ h => h)).conseq (fun _ h => h) (fun _ _ h => h.1)
            (fun _ fs h => ⟨h.1, hweak fs h.2⟩) hweak

/-! ### publish -/

/-- The temporary file is open as `i`, holds `c`, and neither name can denote it. -/
def Writing (store : KillStateFileStore) (hex : JsString) (i : Nat) (c : Bytes) (fs : Fs) : Prop :=
  some (.file i) ∉ fs.mayHold store.filePath ∧ some (.file i) ∉ fs.mayHold store.markerPath ∧
    fs.view (store.tmpPath hex) = some (.file i) ∧ (fs.inode i).cached = c

theorem Writing.lt {hex : JsString} {i : Nat} {c : Bytes} (h : Writing store hex i c fs) :
    i < fs.inodes.length := by
  have hmem := fs.view_mem_mayHold (store.tmpPath hex)
  rw [h.2.2.1] at hmem
  exact lt_of_mem_mayHold hmem

theorem Writing.modify {hex : JsString} {i : Nat} {c : Bytes} {f : Inode → Inode}
    (h : Writing store hex i c fs) : Writing store hex i (f (fs.inode i)).cached (fs.modify i f) :=
  ⟨h.1, h.2.1, h.2.2.1, by rw [inode_modify_self h.lt]⟩

theorem transfer_pos {short : Option Nat} {len : Nat} (h : 0 < len) : 0 < transfer short len := by
  cases short <;> simp only [transfer] <;> omega

theorem transfer_le (short : Option Nat) (len : Nat) : transfer short len ≤ len := by
  cases short <;> simp only [transfer] <;> omega

/-- The write loop leaves the whole of the data in the file. -/
theorem writeLoop_spec {hex : JsString} {i : Nat} {data : Bytes} (fuel written : Nat)
    (hfuel : data.length ≤ written + fuel) (hw : written ≤ data.length) :
    Triple S (fun fs => store.Holds O A B a b fs ∧ Writing store hex i (data.take written) fs)
      (writeLoop i data fuel written)
      (fun _ fs => store.Holds O A B a b fs ∧ Writing store hex i data fs)
      (fun _ => store.Holds O A B a b) (store.Holds O A B a b) := by
  induction fuel generalizing written with
  | zero =>
      refine Triple.pure fun fs h => ?_
      rwa [List.take_of_length_le (by omega)] at h
  | succ fuel ih =>
      rw [writeLoop]
      split
      · rename_i hlt
        -- every call writes at least one octet, which is what bounds the loop
        refine Triple.bind (Q := fun n fs => (store.Holds O A B a b fs ∧
          Writing store hex i (data.take (written + n)) fs) ∧ 0 < n ∧ written + n ≤ data.length) ?_ fun n => ?_
        · refine Triple.syscall (Holds.stable.and fun _ _ h => h) (fun _ fs h => h.1) (fun _ _ fs h => h.1) ?_ (by simp)
          rintro short fs n ⟨h, hwr⟩ ⟨rfl⟩
          have hle := transfer_le short (data.drop written).length
          have hpos : 0 < transfer short (data.drop written).length :=
            transfer_pos (by rw [List.length_drop]; omega)
          have hlen : (data.drop written).length = data.length - written := List.length_drop
          refine ⟨⟨h.modify hwr.1 hwr.2.1, ?_⟩, hpos, by omega⟩
          have hmod := hwr.modify (f := fun x => { x with
            cached := x.cached ++ (data.drop written).take (transfer short (data.drop written).length)
            unsynced := (x.cached ++ (data.drop written).take
              (transfer short (data.drop written).length)) :: x.unsynced
            mtime := fs.clock })
          simp only [hwr.2.2.2] at hmod
          rw [List.take_add]
          exact hmod
        · exact Triple.assume fun ⟨hpos, hle⟩ => ih _ (by omega) hle
      · refine Triple.pure fun fs h => ?_
        rwa [List.take_of_length_le (by omega)] at h

/-- `publish` either puts the data under the state file's name or leaves what was there. -/
theorem publish_spec (hex : JsString) (data : Bytes) :
    Triple S (store.Holds O A B a b) (store.publish hex data)
      (fun _ fs => store.Holds O (fun s => A s ∨ s = .file data) B (· = .file data) b fs ∧
        store.Settled data fs)
      (fun _ => store.Holds O A B a b) (store.Holds O A B a b) := by
  have htp := store.tmpPath_ne_filePath hex
  have htm := store.tmpPath_ne_markerPath hex
  refine Triple.tryCatch (F := fun _ => store.Holds O A B a b) ?_ fun e => ?_
  · refine Triple.bind (Q := fun i fs => store.Holds O A B a b fs ∧ Writing store hex i [] fs) ?_ fun i => ?_
    · refine Triple.syscall Holds.stable (fun _ _ h => h) (fun _ _ _ h => h) ?_ ?_
      · intro _ fs i h hact
        split at hact
        · simp at hact
        · simp only [Except.ok.injEq] at hact
          subst hact
          refine ⟨h.create htp.symm htm.symm, ?_, ?_, ?_, ?_⟩
          · intro hmem
            rcases mem_mayHold_create.mp hmem with hmem | ⟨hn, -⟩
            · exact absurd (lt_of_mem_mayHold hmem) (Nat.lt_irrefl _)
            · exact htp hn.symm
          · intro hmem
            rcases mem_mayHold_create.mp hmem with hmem | ⟨hn, -⟩
            · exact absurd (lt_of_mem_mayHold hmem) (Nat.lt_irrefl _)
            · exact htm hn.symm
          · simp [view_create]
          · simp [inode_create_new]
      · intro _ fs e h hact
        split at hact
        · exact h
        · simp at hact
    · refine Triple.bind (Q := fun _ fs => store.Holds O A B a b fs ∧ Writing store hex i data fs ∧
        fs.Synced i) ?_ fun _ => ?_
      · refine Triple.tryCatch (F := fun _ => store.Holds O A B a b) ?_ fun e => ?_
        · refine Triple.bind (writeLoop_spec data.length 0 (by omega) (by omega)) fun _ => ?_
          refine Triple.bind (Q := fun _ fs => store.Holds O A B a b fs ∧ Writing store hex i data fs ∧
            fs.Synced i) ?_ fun _ => ?_
          · refine Triple.syscall (Holds.stable.and fun _ _ h => h) (fun _ fs h => h.1) (fun _ _ fs h => h.1) ?_
              (by simp)
            rintro _ fs _ ⟨h, hwr⟩ -
            refine ⟨h.modify hwr.1 hwr.2.1, ?_, ?_⟩
            · have hmod := hwr.modify (f := fun x => { x with synced := x.cached, unsynced := [] })
              simp only [hwr.2.2.2] at hmod
              exact hmod
            · unfold Synced Fs.sync
              rw [inode_modify_self hwr.lt]
              exact ⟨rfl, rfl⟩
          · exact Triple.touch (Holds.stable.and fun _ _ h => h) (fun _ fs h => h.1) fun _ _ fs h => h.1
        · refine Triple.bind (Q := fun _ => store.Holds O A B a b) ?_ fun _ => Triple.throw fun _ h => h
          exact Triple.tryCatch (F := fun _ => store.Holds O A B a b)
            (Triple.touch Holds.stable (fun _ _ h => h) fun _ _ _ h => h)
            fun _ => Triple.pure fun _ h => h
      · refine Triple.syscall (Holds.stable.and fun _ _ h => h) (fun _ fs h => h.1) (fun _ _ fs h => h.1) ?_ ?_
        · rintro _ fs _ ⟨h, hwr, hsync⟩ hact
          have hview := hwr.2.2.1
          simp only [hview] at hact ⊢
          split at hact
          · simp at hact
          · rename_i hdir
            simp only [hdir, if_false]
            have hdata : ∀ s, fs.MayShow (some (.file i)) s → s = .file data := by
              rintro s ⟨x, hx, rfl⟩
              rw [hsync.mayContain_iff.mp hx, hwr.2.2.2]
            refine ⟨⟨fun s hs => ?_, fun s hs => ?_, ?_, ?_, ?_⟩, i, ?_, hsync, hwr.2.2.2⟩
            · rcases O.rename hview hs with hs | ⟨-, hs⟩ | ⟨-, hn, -⟩
              · exact .inl (h.state s hs)
              · exact .inr (hdata s hs)
              · exact absurd hn htp.symm
            · rcases (maySee_rename hview).mp hs with hs | ⟨hn, -⟩ | ⟨-, hn, -⟩
              · exact h.marker s hs
              · exact absurd hn store.markerPath_ne_filePath
              · exact absurd hn htm.symm
            · simp [sight, view_rename hview, hwr.2.2.2]
            · rw [sight_rename_ne hview store.markerPath_ne_filePath htm.symm]
              exact h.markerNow
            · simpa [Fs.rename, hview, DirOp.effect, store.markerPath_ne_filePath, htm.symm] using h.kept
            · simp [view_rename hview]
        · rintro _ fs e ⟨h, hwr, -⟩ hact
          simp only [hwr.2.2.1] at hact ⊢
          split at hact
          · rename_i hdir
            simp only [hdir, if_true]
            exact h
          · simp at hact
  · refine Triple.bind (Q := fun _ => store.Holds O A B a b) ?_ fun _ => Triple.throw fun _ h => h
    refine Triple.tryCatch (F := fun _ => store.Holds O A B a b) ?_ fun _ => Triple.pure fun _ h => h
    refine Triple.syscall Holds.stable (fun _ _ h => h) (fun _ _ _ h => h) ?_ ?_
    · intro _ fs _ h hact
      split at hact
      · simp at hact
      · simp at hact
      · exact h.unlink htp.symm htm.symm
    · intro _ fs _ h hact
      split at hact
      · exact h
      · exact h
      · simp at hact

/-! ### save -/

theorem Settled.stable {data : Bytes} : Stable (store.Settled data) :=
  fun _ _ h => h

/-- After an fsync of the directory a settled state file is all that can be found under its name. -/
theorem Settled.may_syncDir {data : Bytes} (h : store.Settled data fs) {s : Sight}
    (hs : O.may fs.syncDir s) : s = .file data := by
  obtain ⟨i, hview, hsync, hdata⟩ := h
  have hshow := O.syncDir hs
  rw [hview] at hshow
  obtain ⟨x, hx, rfl⟩ := hshow
  rw [hsync.mayContain_iff.mp hx, hdata]

/-- A marker that is there is all that can be found under its name after an fsync of the directory. -/
theorem present_maySee_syncDir {n : JsString} (h : Present (fs.sight n)) {s : Sight}
    (hs : fs.syncDir.MaySee n s) : Present s := by
  rw [Fs.maySee_syncDir] at hs
  unfold sight at h
  rcases hv : fs.view n with _ | (i | r | _) <;> rw [hv] at h hs
  · exact absurd rfl h.1
  · obtain ⟨x, -, rfl⟩ := hs
    exact ⟨by simp, by simp⟩
  · obtain rfl := hs
    exact h
  · obtain rfl := hs
    exact ⟨by simp, by simp⟩

/-- A save that returns has published the data; one that says it is durable has left nothing else to be
    found. One that throws has done one or the other. -/
theorem save_spec (hex : JsString) (state : PersistedKillState) (hB : ∀ x, B (.file x))
    (hb : ∀ x, b (.file x)) (hdangling : ∀ s, b s → s ≠ .symlink false) :
    Triple S (store.Holds O A B a b) (store.save hex state)
      (fun r fs => store.Holds O (fun s => A s ∨ s = .file state.fileBytes) B (· = .file state.fileBytes)
          (fun s => b s ∧ Present s) fs ∧
        (r = .durable → store.Holds O (· = .file state.fileBytes) Present (· = .file state.fileBytes) Present fs))
      (fun _ => store.Holds O (fun s => A s ∨ s = .file state.fileBytes) B
        (fun s => a s ∨ s = .file state.fileBytes) b)
      (store.Holds O (fun s => A s ∨ s = .file state.fileBytes) B
        (fun s => a s ∨ s = .file state.fileBytes) b) := by
  have hbefore : ∀ fs, store.Holds O A B a b fs → store.Holds O (fun s => A s ∨ s = .file state.fileBytes) B
      (fun s => a s ∨ s = .file state.fileBytes) b fs := fun fs h =>
    h.mono (fun _ h => .inl h) (fun _ h => h) (fun _ h => .inl h) fun _ h => h
  have hafter : ∀ fs, store.Holds O (fun s => A s ∨ s = .file state.fileBytes) B (· = .file state.fileBytes)
      (fun s => b s ∧ Present s) fs → store.Holds O (fun s => A s ∨ s = .file state.fileBytes) B
      (fun s => a s ∨ s = .file state.fileBytes) b fs := fun fs h =>
    h.mono (fun _ h => h) (fun _ h => h) (fun _ h => .inr h) fun _ h => h.1
  refine Triple.bind (Q := fun _ => store.Holds O A B a b) (Triple.touch Holds.stable (fun _ => hbefore)
    fun _ _ => hbefore) fun _ => ?_
  refine Triple.bind (Q := fun _ => store.Holds O A B a fun s => b s ∧ Present s)
    ((ensureMarker_spec hB hb hdangling).conseq (fun _ h => h) (fun _ _ h => h)
      (fun _ fs h => hbefore fs h.2) hbefore) fun markerDurable => ?_
  have hbefore' : ∀ fs, store.Holds O A B a (fun s => b s ∧ Present s) fs →
      store.Holds O (fun s => A s ∨ s = .file state.fileBytes) B
        (fun s => a s ∨ s = .file state.fileBytes) b fs := fun fs h =>
    hbefore fs (h.mono (fun _ h => h) (fun _ h => h) (fun _ h => h) fun _ h => h.1)
  refine Triple.bind (Q := fun _ fs => store.Holds O (fun s => A s ∨ s = .file state.fileBytes) B
      (· = .file state.fileBytes) (fun s => b s ∧ Present s) fs ∧ store.Settled state.fileBytes fs)
    ((publish_spec hex state.fileBytes).conseq (fun _ h => h) (fun _ _ h => h) (fun _ => hbefore')
      hbefore') fun _ => ?_
  refine Triple.bind (Q := fun d fs => store.Holds O (fun s => A s ∨ s = .file state.fileBytes) B
      (· = .file state.fileBytes) (fun s => b s ∧ Present s) fs ∧
      (d = true → store.Holds O (· = .file state.fileBytes) Present (· = .file state.fileBytes) Present fs))
    ?_ fun dirDurable => ?_
  · refine (fsyncDir_spec (P := fun fs => store.Holds O (fun s => A s ∨ s = .file state.fileBytes) B
        (· = .file state.fileBytes) (fun s => b s ∧ Present s) fs ∧ store.Settled state.fileBytes fs)
      (Q := fun fs => (store.Holds O (fun s => A s ∨ s = .file state.fileBytes) B
        (· = .file state.fileBytes) (fun s => b s ∧ Present s) fs ∧ store.Settled state.fileBytes fs) ∧
        store.Holds O (· = .file state.fileBytes) Present (· = .file state.fileBytes) Present fs)
      (Holds.stable.and fun _ _ h => h)
      ((Holds.stable.and fun _ _ h => h).and Holds.stable) (fun fs h => ?_) (fun _ h => h.1)).conseq (fun _ h => h)
      (fun _ _ h => ⟨h.1.1, fun hd => (h.2 hd).2⟩) (fun _ fs h => hafter fs h.2.1) fun fs h => hafter fs h.1
    exact ⟨⟨h.1.syncDir, h.2⟩, fun s hs => h.2.may_syncDir hs,
      fun s hs => present_maySee_syncDir h.1.markerNow.2 hs, h.1.stateNow, h.1.markerNow.2,
      h.1.syncDir.kept⟩
  · split
    · rename_i hd
      exact Triple.pure fun fs h => ⟨h.1, fun _ => h.2 ((Bool.and_eq_true _ _).mp hd).2⟩
    · exact Triple.pure fun fs h => ⟨h.1, by simp⟩

/-! ### degrade -/

/-- What `degrade` says when it says true, under a script of faults `S` allows. -/
structure Quarantines (store : KillStateFileStore) (S : Fault → Prop) (fs : Fs) : Prop where
  state : ¬ S (.blind store.filePath) → Gone (fs.sight store.filePath)
  marker : Present (fs.sight store.markerPath)

/-- It never throws; where it says true, the marker is there, and the state file is not unless a look-up of it failed
    unnoticed. -/
theorem degrade_spec (hB : ∀ x, B (.file x)) (hb : ∀ x, b (.file x))
    (hdangling : ∀ s, b s → s ≠ .symlink false) :
    Triple S (store.Holds O A B a b) store.degrade
      (fun q fs => store.Holds O (fun s => A s ∨ s = .missing) B (fun s => a s ∨ s = .missing) b fs ∧
        (q = true → store.Quarantines S fs))
      (fun _ _ => False)
      (store.Holds O (fun s => A s ∨ s = .missing) B (fun s => a s ∨ s = .missing) b) := by
  have hbefore : ∀ fs, store.Holds O A B a b fs →
      store.Holds O (fun s => A s ∨ s = .missing) B (fun s => a s ∨ s = .missing) b fs := fun fs h =>
    h.mono (fun _ h => .inl h) (fun _ h => h) (fun _ h => .inl h) fun _ h => h
  have hstable : ∀ d : Bool, Stable fun fs => store.Holds O A B a b fs ∧
      (d = true → Present (fs.sight store.markerPath)) := fun _ => Holds.stable.and fun _ _ h => h
  refine Triple.bind (Q := fun d fs => store.Holds O A B a b fs ∧
    (d = true → Present (fs.sight store.markerPath))) ?_ fun markerOk => ?_
  · refine Triple.tryCatch (F := fun _ => store.Holds O A B a b) ?_ fun e => ?_
    · refine Triple.bind (Q := fun _ => store.Holds O A B a fun s => b s ∧ Present s)
        ((ensureMarker_spec hB hb hdangling).conseq (fun _ h => h) (fun _ _ h => h)
          (fun _ _ h => h.2) hbefore) fun _ => Triple.pure fun fs h => ⟨?_, fun _ => h.markerNow.2⟩
      exact h.mono (fun _ h => h) (fun _ h => h) (fun _ h => h) fun _ h => h.1
    · exact (Triple.fileExists Holds.stable fun _ => hbefore).conseq (fun _ h => h)
        (fun _ fs h => ⟨h.1, fun hd => (present_iff fs _).mp (h.2.1 hd)⟩) (fun _ _ h => h) fun _ h => h
  · refine Triple.bind (Q := fun d fs => store.Holds O (fun s => A s ∨ s = .missing) B
        (fun s => a s ∨ s = .missing) b fs ∧ (markerOk = true → Present (fs.sight store.markerPath)) ∧
        (d = true → ¬ S (.blind store.filePath) → Gone (fs.sight store.filePath))) ?_ fun stateGone =>
          Triple.pure fun fs h => ⟨h.1, fun hq =>
          ⟨h.2.2 ((Bool.and_eq_true _ _).mp hq).2, h.2.1 ((Bool.and_eq_true _ _).mp hq).1⟩⟩
    refine Triple.tryCatch (F := fun e fs => (store.Holds O A B a b fs ∧
        (markerOk = true → Present (fs.sight store.markerPath))) ∧
        (e.code = .ENOENT → Gone (fs.sight store.filePath))) ?_ fun e => ?_
    · refine Triple.bind (Q := fun _ fs => store.Holds O (fun s => A s ∨ s = .missing) B
        (fun s => a s ∨ s = .missing) b fs ∧ (markerOk = true → Present (fs.sight store.markerPath)) ∧
        Gone (fs.sight store.filePath)) ?_ fun _ => Triple.pure fun fs h => ⟨h.1, h.2.1, fun _ _ => h.2.2⟩
      refine Triple.syscall (hstable markerOk) (fun _ fs h => hbefore fs h.1) (fun _ _ _ h => ⟨h, by simp⟩) ?_ ?_
      · rintro _ fs _ ⟨h, hm⟩ hact
        split at hact
        · simp at hact
        · simp at hact
        · have hne := store.markerPath_ne_filePath
          refine ⟨⟨fun s hs => ?_, fun s hs => ?_, ?_, ?_, ?_⟩, ?_, ?_⟩
          · rcases O.unlink hs with hs | ⟨-, hs⟩
            · exact .inl (h.state s hs)
            · exact .inr hs
          · exact h.marker s ((maySee_unlink.mp hs).resolve_right fun hn => hne hn.1)
          · exact .inr (sight_unlink_self fs _)
          · rw [sight_unlink_ne hne]; exact h.markerNow
          · simpa [Fs.unlink, DirOp.effect, hne] using h.kept
          · rw [sight_unlink_ne hne]; exact hm
          · exact .inl (sight_unlink_self fs _)
      · rintro _ fs e h hact
        split at hact
        · rename_i hnone
          exact ⟨h, fun _ => .inl (by simp [sight, hnone])⟩
        · simp only [Except.error.injEq] at hact
          subst hact
          exact ⟨h, by simp⟩
        · simp at hact
    · split
      · rename_i hcode
        exact Triple.pure fun fs h => ⟨hbefore fs h.1.1, h.1.2, fun _ _ => h.2 hcode⟩
      · refine Triple.bind ((Triple.fileExists (P := fun fs => store.Holds O A B a b fs ∧
          (markerOk = true → Present (fs.sight store.markerPath))) (hstable markerOk)
          fun _ fs h => hbefore fs h.1).pre fun _ h => h.1) fun there => Triple.pure fun fs h => ?_
        refine ⟨hbefore fs h.1.1, h.1.2, fun hgone hsees => (present_eq_false_iff fs _).mp ?_⟩
        rw [← h.2.2 hsees]
        simpa using hgone

/-! ### persist -/

/-- What one `persist` can have made of the directory, by its outcome. -/
def Persisted (S : Fault → Prop) (O : Outlook store.filePath) (A B a b : Sight → Prop) (data : Bytes) (fs : Fs) :
    StoreOutcome → Prop
  | .noStore => False
  | .durable => store.Holds O (· = .file data) Present (· = .file data) Present fs ∧
      store.Holds O (fun s => A s ∨ s = .file data) B (· = .file data) b fs
  | .published _ => store.Holds O (fun s => A s ∨ s = .file data) B (· = .file data)
      (fun s => b s ∧ Present s) fs
  | .failed _ quarantined => store.Holds O (fun s => (A s ∨ s = .file data) ∨ s = .missing) B
      (fun s => (a s ∨ s = .file data) ∨ s = .missing) b fs ∧
      (quarantined = true → store.Quarantines S fs)

/-- What a persist leaves, by its outcome. -/
theorem persist_spec (hex : JsString) (state : PersistedKillState) (hB : ∀ x, B (.file x))
    (hb : ∀ x, b (.file x)) (hdangling : ∀ s, b s → s ≠ .symlink false) :
    Triple S (store.Holds O A B a b) (store.persist hex state)
      (fun o fs => Persisted S O A B a b state.fileBytes fs o) (fun _ _ => False)
      (store.Holds O (fun s => (A s ∨ s = .file state.fileBytes) ∨ s = .missing) B
        (fun s => (a s ∨ s = .file state.fileBytes) ∨ s = .missing) b) := by
  refine Triple.tryCatch (F := fun _ => store.Holds O (fun s => A s ∨ s = .file state.fileBytes) B
    (fun s => a s ∨ s = .file state.fileBytes) b) ?_ fun e => ?_
  · refine Triple.bind ((save_spec hex state hB hb hdangling).conseq (fun _ h => h) (fun _ _ h => h)
      (fun _ _ h => h) fun fs h => h.mono (fun _ h => .inl h) (fun _ h => h) (fun _ h => .inl h) fun _ h => h)
      fun r => ?_
    cases r with
    | durable =>
        exact Triple.pure fun fs h =>
          ⟨h.2 rfl, h.1.mono (fun _ h => h) (fun _ h => h) (fun _ h => h) fun _ h => h.1⟩
    | published detail => exact Triple.pure fun fs h => h.1
  · refine Triple.bind (Q := fun q fs => store.Holds O (fun s => (A s ∨ s = .file state.fileBytes) ∨ s = .missing)
      B (fun s => (a s ∨ s = .file state.fileBytes) ∨ s = .missing) b fs ∧
      (q = true → store.Quarantines S fs)) ?_ fun q => Triple.pure fun fs h => h
    exact Triple.tryCatch (F := fun _ _ => False) (degrade_spec hB hb hdangling) fun _ _ h => h.elim

/-! ### load -/

/-- What a load that returns can have found, given what was there when it started. It misses a marker where the
    look-up of it fails. -/
def Loads (store : KillStateFileStore) (S : Fault → Prop) (state marker : Sight) : KillStateLoad → Prop
  | .absent => state = .missing ∧ (¬ S (.blind store.markerPath) → ¬ Present marker)
  | .loaded st => ∃ bytes, state = .file bytes ∧ bytes.length ≤ maxKillStateFileBytes ∧
      store.interpret bytes = .ok st
  | .corrupt _ => True

/-- The read loop gives the whole content, or says that it is too long. -/
theorem readLoop_spec {P : Fs → Prop} (hP : Stable P) (i : Nat) (bytes : Bytes) (fuel : Nat) (total : Bytes)
    (hfuel : maxKillStateFileBytes + 1 < total.length + fuel) (htotal : total.length ≤ maxKillStateFileBytes)
    (hpre : total = bytes.take total.length) :
    Triple S (fun fs => P fs ∧ (fs.inode i).cached = bytes) (store.readLoop i fuel total)
      (fun r fs => P fs ∧ match r with
        | .ok x => x = bytes ∧ bytes.length ≤ maxKillStateFileBytes
        | .error _ => maxKillStateFileBytes < bytes.length)
      (fun _ fs => Faulty S ∧ P fs) P := by
  induction fuel generalizing total with
  | zero => omega
  | succ fuel ih =>
      rw [readLoop]
      refine Triple.bind (Q := fun chunk fs => (P fs ∧ (fs.inode i).cached = bytes) ∧
        chunk <+: bytes.drop total.length ∧ (chunk = [] → bytes.drop total.length = [])) ?_ fun chunk => ?_
      · refine Triple.syscall (fun fs d h => ⟨hP fs d h.1, h.2⟩) (fun _ fs h => h.1)
          (fun m hm fs h => ⟨⟨m, hm⟩, h.1⟩) ?_ (by simp)
        rintro short fs _ ⟨h, hino⟩ ⟨rfl⟩
        rw [hino]
        refine ⟨⟨h, rfl⟩, (List.take_prefix _ _).trans (List.take_prefix _ _), fun hnil => ?_⟩
        rcases Nat.eq_zero_or_pos (bytes.drop total.length).length with hzero | hpos
        · exact List.length_eq_zero_iff.mp hzero
        · have hlen : 0 < ((bytes.drop total.length).take
              (maxKillStateFileBytes + 1 - total.length)).length := by
            rw [List.length_take]; omega
          have htake := congrArg List.length hnil
          rw [List.length_take, List.length_nil] at htake
          have hpos' : 0 < transfer short _ := transfer_pos hlen
          omega
      · refine Triple.assume fun ⟨hpre, hnil⟩ => ?_
        obtain ⟨rest, hrest⟩ := hpre
        have hwhole : bytes = total ++ chunk ++ rest := by
          rw [List.append_assoc, hrest]
          conv_lhs => rw [← List.take_append_drop total.length bytes, ← hpre]
        split
        · rename_i hchunk
          refine Triple.pure fun fs h => ⟨h.1, ?_⟩
          have hempty := hnil hchunk
          rw [hchunk, List.nil_append] at hrest
          rw [hempty] at hrest
          subst hchunk hrest
          simp only [List.append_nil] at hwhole
          exact ⟨hwhole.symm, hwhole ▸ htotal⟩
        · rename_i hchunk
          have hpos := List.length_pos_iff.mpr hchunk
          split
          · rename_i hlong
            refine Triple.pure fun fs h => ⟨h.1, ?_⟩
            show maxKillStateFileBytes < bytes.length
            rw [hwhole, List.length_append]
            omega
          · refine ih (total ++ chunk) ?_ (by omega) ?_
            · rw [List.length_append]; omega
            · rw [hwhole, List.take_left']
              rfl

/-- What a descriptor was opened on. -/
def OpenedOn (state : Sight) (fs : Fs) : Handle → Prop
  | .file i => state = .file (fs.inode i).cached
  | .other => state = .directory

/-- What opening the state file finds. -/
theorem openState_spec (state marker : Sight) :
    Triple S (store.Holds O A B (· = state) (· = marker)) store.openState
      (fun r fs => store.Holds O A B (· = state) (· = marker) fs ∧ match r with
        | .ok fd => OpenedOn state fs fd
        | .error result => Loads store S state marker result ∧
            (¬ Faulty S → (∀ bytes, state ≠ .file bytes) ∧
              (state = .missing → ¬ Present marker → result = .absent)))
      (fun _ _ => False) (store.Holds O A B (· = state) (· = marker)) := by
  refine Triple.tryCatch (F := fun e fs => store.Holds O A B (· = state) (· = marker) fs ∧
    (e.code = .ENOENT → state = .missing) ∧ (¬ Faulty S → (∀ bytes, state ≠ .file bytes) ∧
      (state = .missing → e.code = .ENOENT))) ?_ fun e => ?_
  · refine Triple.bind (Q := fun fd fs => store.Holds O A B (· = state) (· = marker) fs ∧
      OpenedOn state fs fd) ?_ fun fd => Triple.pure fun _ h => h
    refine Triple.syscall Holds.stable (fun _ _ h => h)
      (fun m hm fs h => ⟨h, by simp, fun hcalm => absurd ⟨m, hm⟩ hcalm⟩) ?_ ?_
    · intro _ fs fd h hact
      have hsight := h.stateNow
      unfold sight at hsight
      split at hact
      · simp at hact
      · simp at hact
      · rename_i hdir
        rw [hdir] at hsight
        simp only [Except.ok.injEq] at hact
        subst hact
        exact ⟨h, hsight.symm⟩
      · rename_i i hfile
        rw [hfile] at hsight
        simp only [Except.ok.injEq] at hact
        subst hact
        exact ⟨h, hsight.symm⟩
    · intro _ fs e h hact
      have hsight := h.stateNow
      unfold sight at hsight
      split at hact
      · rename_i hnone
        rw [hnone] at hsight
        simp only [Except.error.injEq] at hact
        subst hact hsight
        exact ⟨h, fun _ => rfl, by simp⟩
      · rename_i r hlink
        rw [hlink] at hsight
        simp only [Except.error.injEq] at hact
        subst hact hsight
        exact ⟨h, by simp, by simp⟩
      · simp at hact
      · simp at hact
  · split
    · rename_i hcode
      refine Triple.bind ((Triple.fileExists (P := fun fs => store.Holds O A B (· = state) (· = marker) fs ∧
        state = .missing) (Holds.stable.and fun _ _ h => h) fun _ _ h => h.1).pre fun _ h => ⟨h.1, h.2.1 hcode⟩)
        fun initialised => ?_
      split
      · rename_i hinit
        refine Triple.pure fun fs h => ⟨h.1.1, trivial, fun _ => ⟨by simp [h.1.2], fun _ hnot => ?_⟩⟩
        refine absurd ?_ hnot
        rw [← h.1.1.markerNow]
        exact (present_iff fs _).mp (h.2.1 hinit)
      · rename_i habsent
        refine Triple.pure fun fs h =>
          ⟨h.1.1, ⟨h.1.2, fun hsees hpres => ?_⟩, fun _ => ⟨by simp [h.1.2], fun _ _ => rfl⟩⟩
        rw [← h.1.1.markerNow] at hpres
        exact habsent ((h.2.2 hsees).trans ((present_iff fs _).mpr hpres))
    · rename_i hcode
      split <;> exact Triple.pure fun fs h => ⟨h.1, trivial, fun hcalm =>
        ⟨(h.2.2 hcalm).1, fun hmiss _ => absurd ((h.2.2 hcalm).2 hmiss) hcode⟩⟩

/-- What reading it gives. -/
theorem readState_spec {P : Fs → Prop} (hP : Stable P) (state : Sight) (fd : Handle) :
    Triple S (fun fs => P fs ∧ OpenedOn state fs fd) (store.readState fd)
      (fun r fs => P fs ∧ (∀ bytes, r = .ok bytes → state = .file bytes ∧
          bytes.length ≤ maxKillStateFileBytes) ∧
        (¬ Faulty S → ∀ bytes, state = .file bytes → bytes.length ≤ maxKillStateFileBytes → r = .ok bytes))
      (fun _ fs => Faulty S ∧ P fs) P := by
  refine Triple.finally_ (Q := fun r fs => P fs ∧ (∀ bytes, r = .ok bytes → state = .file bytes ∧
      bytes.length ≤ maxKillStateFileBytes) ∧
      (¬ Faulty S → ∀ bytes, state = .file bytes → bytes.length ≤ maxKillStateFileBytes → r = .ok bytes))
    (F := fun _ _ => False) ?_
    (fun r => Triple.touch (fun fs d h => ⟨hP fs d h.1, h.2⟩) (fun _ _ h => h.1) fun m hm _ h => ⟨⟨m, hm⟩, h.1⟩)
    fun _ _ h => h.elim
  refine Triple.tryCatch (F := fun _ fs => Faulty S ∧ P fs) ?_ fun e => Triple.pure fun fs h =>
    ⟨h.2, by simp, fun hcalm => absurd h.1 hcalm⟩
  have hstable : Stable fun fs => P fs ∧ OpenedOn state fs fd := fun fs d h => ⟨hP fs d h.1, by
    cases fd <;> exact h.2⟩
  refine Triple.bind (Triple.touch hstable (fun _ _ h => h.1) fun m hm _ h => ⟨⟨m, hm⟩, h.1⟩) fun _ => ?_
  cases fd with
  | other =>
      refine Triple.pure fun fs h => ⟨h.1, by simp, fun _ bytes hbytes => ?_⟩
      have hdir : state = .directory := h.2
      rw [hdir] at hbytes
      simp at hbytes
  | file i =>
      rcases state with _ | r | _ | bytes
      · exact fun w hw => absurd hw.2 (by simp [OpenedOn])
      · exact fun w hw => absurd hw.2 (by simp [OpenedOn])
      · exact fun w hw => absurd hw.2 (by simp [OpenedOn])
      refine ((readLoop_spec hP i bytes (maxKillStateFileBytes + 2) [] (by simp)
        (by simp) (by simp)).pre fun fs h => ⟨h.1, ?_⟩).conseq (fun _ h => h) (fun r fs h => ⟨h.1, ?_, ?_⟩)
        (fun _ _ h => h) fun _ h => h
      · have hopen : Sight.file bytes = .file (fs.inode i).cached := h.2
        exact (Sight.file.inj hopen).symm
      · rintro x rfl
        exact ⟨by rw [h.2.1], h.2.1 ▸ h.2.2⟩
      · rintro - x ⟨rfl⟩ hlen
        cases r with
        | ok y => rw [h.2.1]
        | error _ => exact absurd h.2 (by simpa using hlen)

/-- What a load with nothing failing under it gives. -/
def LoadsCalmly (store : KillStateFileStore) (state marker : Sight) (l : KillStateLoad) : Prop :=
  (∀ bytes, state = .file bytes → bytes.length ≤ maxKillStateFileBytes → ∀ st,
    store.interpret bytes = .ok st → l = .loaded st) ∧
  (state = .missing → ¬ Present marker → l = .absent)

/-- `load` finds what is there. It heals the marker where it finds a state, and throws only where closing
    the file fails. -/
theorem load_spec (state marker : Sight) (hB : ∀ x, B (.file x)) (hb : ∀ x, b (.file x))
    (hdangling : ∀ s, b s → s ≠ .symlink false) (hmarker : b marker) :
    Triple S (store.Holds O A B (· = state) (· = marker)) store.load
      (fun r fs => (store.Holds O A B (· = state) b fs ∧
          ((∀ st, r ≠ .loaded st) → store.Holds O A B (· = state) (· = marker) fs)) ∧
        Loads store S state marker r ∧ (¬ Faulty S → LoadsCalmly store state marker r))
      (fun _ fs => Faulty S ∧ store.Holds O A B (· = state) b fs)
      (store.Holds O A B (· = state) b) := by
  have hweak : ∀ fs, store.Holds O A B (· = state) (· = marker) fs →
      store.Holds O A B (· = state) b fs := fun fs h =>
    h.mono (fun _ h => h) (fun _ h => h) (fun _ h => h) fun s hs => hs ▸ hmarker
  refine Triple.bind ((openState_spec state marker).conseq (fun _ h => h) (fun _ _ h => h)
    (fun _ _ h => h.elim) hweak) fun opened => ?_
  cases opened with
  | error result =>
      exact Triple.pure fun fs h => ⟨⟨hweak fs h.1, fun _ => h.1⟩, h.2.1, fun hcalm =>
        ⟨fun bytes hbytes => absurd hbytes ((h.2.2 hcalm).1 bytes), (h.2.2 hcalm).2⟩⟩
  | ok fd =>
      -- with a descriptor the state file is not missing
      refine (Triple.assume (φ := state ≠ .missing) fun hthere => ?_).pre fun fs h => ⟨h, ?_⟩
      swap
      · have hopened : OpenedOn state fs fd := h.2
        cases fd <;> rw [show state = _ from hopened] <;> simp
      refine Triple.bind ((readState_spec Holds.stable state fd).conseq (fun _ h => h) (fun _ _ h => h)
        (fun _ fs h => ⟨h.1, hweak fs h.2⟩) hweak) fun raw => ?_
      cases raw with
      | error detail =>
          exact Triple.pure fun fs h => ⟨⟨hweak fs h.1, fun _ => h.1⟩, trivial, fun hcalm =>
            ⟨fun bytes hbytes hlen => absurd (h.2.2 hcalm bytes hbytes hlen) (by simp),
              fun hmissing => absurd hmissing hthere⟩⟩
      | ok bytes =>
          simp only
          split
          · rename_i detail hint
            refine Triple.pure fun fs h => ⟨⟨hweak fs h.1, fun _ => h.1⟩, trivial, fun _ =>
              ⟨?_, fun hmissing => absurd hmissing hthere⟩⟩
            rintro bytes' hbytes' - st hst
            obtain ⟨rfl, -⟩ := h.2.1 bytes rfl
            obtain rfl := Sight.file.inj hbytes'
            rw [hint] at hst
            simp at hst
          · rename_i st hint
            refine Triple.bind (Q := fun _ fs => store.Holds O A B (· = state) b fs ∧
              state = .file bytes ∧ bytes.length ≤ maxKillStateFileBytes) ?_ fun _ => Triple.pure fun fs h =>
                ⟨⟨h.1, fun hnot => absurd rfl (hnot st)⟩, ⟨bytes, h.2.1, h.2.2, hint⟩, fun _ =>
                  ⟨fun bytes' hbytes' _ st' hst' => ?_, fun hmissing => absurd hmissing hthere⟩⟩
            · refine (Triple.assume (P := store.Holds O A B (· = state) b)
                (φ := state = .file bytes ∧ bytes.length ≤ maxKillStateFileBytes) fun hφ => ?_).pre fun fs h =>
                  ⟨hweak fs h.1, h.2.1 bytes rfl⟩
              refine Triple.tryCatch (F := fun _ => store.Holds O A B (· = state) b) ?_
                fun _ => Triple.pure fun _ h => ⟨h, hφ⟩
              refine Triple.bind ((ensureMarker_spec hB hb hdangling).conseq (fun _ h => h)
                (fun _ _ h => h) (fun _ _ h => h.2) fun _ h => h) fun _ => Triple.pure fun fs h => ⟨?_, hφ⟩
              exact h.mono (fun _ h => h) (fun _ h => h) (fun _ h => h) fun _ h => h.1
            · obtain rfl := Sight.file.inj (h.2.1.symm.trans hbytes')
              rw [hint] at hst'
              rw [Except.ok.inj hst']

/-! ### When nothing fails -/

/-- The temporary name is free, and a file can be renamed over the state file. -/
def Ready (store : KillStateFileStore) (hex : JsString) (fs : Fs) : Prop :=
  fs.view (store.tmpPath hex) = none ∧ fs.view store.filePath ≠ some .directory

/-- The temporary file is there, and can be renamed over the state file. -/
def Renamable (store : KillStateFileStore) (hex : JsString) (i : Nat) (fs : Fs) : Prop :=
  fs.view (store.tmpPath hex) = some (.file i) ∧ fs.view store.filePath ≠ some .directory

/-- Where nothing fails the directory is synced. -/
theorem fsyncDir_calm {P : Fs → Prop} (hP : Stable P) (hsync : ∀ fs, P fs → P fs.syncDir) :
    Triple Calm P fsyncDir (fun d fs => P fs ∧ d = true) (fun _ _ => False) fun _ => True := by
  refine Triple.bind (Q := fun opened fs => P fs ∧ opened = true) ?_ fun opened => ?_
  · refine Triple.tryCatch (F := fun _ _ => False) ?_ fun _ _ h => h.elim
    exact Triple.bind (Triple.touch hP (fun _ _ _ => trivial) fun _ hm => hm.elim) fun _ =>
      Triple.pure fun _ h => ⟨h, rfl⟩
  · refine Triple.assume fun hopened => ?_
    subst hopened
    refine Triple.finally_ (Q := fun d fs => P fs ∧ d = true) (F := fun _ _ => False) ?_
      (fun d => Triple.touch (hP.and fun _ _ h => h) (fun _ _ _ => trivial) fun _ hm => hm.elim)
      fun _ _ h => h.elim
    refine Triple.tryCatch (F := fun _ _ => False) ?_ fun _ _ h => h.elim
    exact Triple.bind (Triple.syscall (R := fun _ => P) hP (fun _ _ _ => trivial) (fun _ hm => hm.elim)
      (fun _ fs _ h _ => hsync fs h) (by simp)) fun _ => Triple.pure fun _ h => ⟨h, rfl⟩

/-- Where nothing fails the marker is durable. -/
theorem ensureMarker_calm (hex : JsString) :
    Triple Calm (store.Ready hex) store.ensureMarker (fun d fs => store.Ready hex fs ∧ d = true)
      (fun _ _ => False) fun _ => True := by
  have htm := store.tmpPath_ne_markerPath hex
  have hpm := store.markerPath_ne_filePath.symm
  have hready : Stable (store.Ready hex) := fun _ _ h => h
  refine Triple.bind (Q := fun _ => store.Ready hex) ?_ fun fd => ?_
  · refine Triple.tryCatch (F := fun e fs => store.Ready hex fs ∧ e.code = .EEXIST)
      (Triple.bind (Q := fun _ => store.Ready hex) ?_ fun _ => Triple.pure fun _ h => h) fun e => ?_
    · refine Triple.syscall hready (fun _ _ _ => trivial) (fun _ hm => hm.elim) ?_ ?_
      · intro _ fs i h hact
        split at hact
        · simp at hact
        · refine ⟨?_, ?_⟩
          · rw [view_create, if_neg htm]; exact h.1
          · rw [view_create, if_neg hpm]; exact h.2
      · intro _ fs e h hact
        split at hact
        · simp only [Except.error.injEq] at hact
          subst hact
          exact ⟨h, rfl⟩
        · simp at hact
    · exact Triple.assume fun he => by rw [if_pos he]; exact Triple.pure fun _ h => h
  · cases fd with
    | none => exact Triple.pure fun _ h => ⟨h, rfl⟩
    | some i =>
        refine Triple.bind (Q := fun _ => store.Ready hex) ?_ fun _ => fsyncDir_calm hready fun _ h => h
        refine Triple.finally_ (Q := fun _ => store.Ready hex) (F := fun _ _ => False) ?_
          (fun _ => Triple.touch hready (fun _ _ _ => trivial) fun _ hm => hm.elim) fun _ _ h => h.elim
        exact Triple.bind (Triple.syscall (R := fun _ => store.Ready hex) hready (fun _ _ _ => trivial)
          (fun _ hm => hm.elim) (fun _ _ _ h _ => h) (by simp)) fun _ =>
            Triple.syscall hready (fun _ _ _ => trivial) (fun _ hm => hm.elim) (fun _ _ _ h _ => h) (by simp)

/-- Where nothing fails the loop writes to its file alone. -/
theorem writeLoop_calm {P : Fs → Prop} (hP : Stable P) (hmodify : ∀ fs i f, P fs → P (fs.modify i f)) {i : Nat}
    {data : Bytes} (fuel written : Nat) :
    Triple Calm P (writeLoop i data fuel written) (fun _ => P) (fun _ _ => False) fun _ => True := by
  induction fuel generalizing written with
  | zero => exact Triple.pure fun _ h => h
  | succ fuel ih =>
      rw [writeLoop]
      split
      · exact Triple.bind (Triple.syscall (R := fun _ => P) hP (fun _ _ _ => trivial) (fun _ hm => hm.elim)
          (by rintro _ fs _ h ⟨rfl⟩; exact hmodify _ _ _ h) (by simp)) fun n => ih _
      · exact Triple.pure fun _ h => h

variable (store) in
/-- Where nothing fails a save is durable. -/
theorem persist_calm (hex : JsString) (state : PersistedKillState) :
    Triple Calm (store.Ready hex) (store.persist hex state) (fun o _ => o = .durable) (fun _ _ => False)
      fun _ => True := by
  have hready : Stable (store.Ready hex) := fun _ _ h => h
  refine Triple.tryCatch (F := fun _ _ => False) ?_ fun _ _ h => h.elim
  refine Triple.bind (Q := fun r _ => r = .durable) ?_ fun r => ?_
  swap
  · cases r with
    | durable => exact Triple.pure fun _ _ => rfl
    | published detail => exact fun _ h => by simp at h
  refine Triple.bind (Triple.touch hready (fun _ _ _ => trivial) fun _ hm => hm.elim) fun _ => ?_
  refine Triple.bind (ensureMarker_calm hex) fun markerDurable => Triple.assume fun hmarker => ?_
  subst hmarker
  have htmp : ∀ i, Stable (store.Renamable hex i) := fun _ _ _ h => h
  refine Triple.bind (Q := fun _ _ => True) ?_ fun _ => ?_
  · refine Triple.tryCatch (F := fun _ _ => False) ?_ fun _ _ h => h.elim
    refine Triple.bind (Q := store.Renamable hex) ?_ fun i => ?_
    · refine Triple.syscall hready (fun _ _ _ => trivial) (fun _ hm => hm.elim) ?_ ?_
      · intro _ fs i h hact
        simp only [h.1, Except.ok.injEq] at hact ⊢
        subst hact
        simp [Renamable, view_create, (store.tmpPath_ne_filePath hex).symm, h.2]
      · intro _ fs e h hact
        simp [h.1] at hact
    · refine Triple.bind (Q := fun _ => store.Renamable hex i) ?_ fun _ => ?_
      · refine Triple.tryCatch (F := fun _ _ => False) ?_ fun _ _ h => h.elim
        refine Triple.bind (writeLoop_calm (htmp i) (fun _ _ _ h => h) _ _) fun _ => ?_
        refine Triple.bind
          (Triple.syscall (R := fun _ => store.Renamable hex i) (htmp i) (fun _ _ _ => trivial) (fun _ hm => hm.elim)
          (fun _ _ _ h _ => h) (by simp)) fun _ => ?_
        exact Triple.touch (htmp i) (fun _ _ _ => trivial) fun _ hm => hm.elim
      · refine Triple.syscall (htmp i) (fun _ _ _ => trivial) (fun _ hm => hm.elim)
          (fun _ _ _ _ _ => trivial) ?_
        intro _ fs e h hact
        simp [h.1, h.2] at hact
  · refine Triple.bind (fsyncDir_calm (fun _ _ h => h) fun _ h => h) fun dirDurable => Triple.assume fun hdir => ?_
    subst hdir
    exact Triple.pure fun _ _ => rfl

end Assertions

end KillStateFileStore

end OwnerSwitch
