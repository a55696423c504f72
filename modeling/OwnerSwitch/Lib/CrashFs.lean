/-
Module: OwnerSwitch.Lib.CrashFs
Layer: Lib
Purpose: One directory of a file system that can lose power. File contents are lost until their fsync:
  an inode keeps the contents it went through since then, and a power cut leaves the synced content or a
  prefix of one of those. Directory entries are undone until an fsync of the directory: `disk` is the
  durable directory, `pending` the operations not yet in it, and a power cut keeps any sublist of them.
  `mayHold` collects the entries a name can have now or after a cut, `mayContain` the contents an inode
  can have; invariants are stated over these.
Imports: JsMap, JsString
Trusted boundary: the containing directory itself is durable
Main exports: Fs, Fs.view, Fs.create, Fs.write, Fs.truncate, Fs.sync, Fs.syncDir, Fs.unlink, Fs.rename,
  Fs.Cut, mayHold, mayContain and how each operation acts on them
Open obligations: none
-/
import Mathlib.Data.List.Forall2
import Mathlib.Data.List.Basic
import OwnerSwitch.Lib.JsMap
import OwnerSwitch.Lib.JsString

namespace CrashFs

/-- What a name denotes. -/
inductive Entry where
  | file (ino : Nat)
  | symlink (resolves : Bool)
  | directory
  deriving DecidableEq, Repr

/-- A regular file: what readers see, what is durable, and what it held since it was last synced. -/
structure Inode where
  cached : Bytes
  synced : Bytes
  unsynced : List Bytes
  born : Int
  mtime : Int
  deriving Inhabited

/-- An operation on the directory, with the entry it enters. -/
inductive DirOp where
  | link (n : JsString) (e : Entry)
  | unlink (n : JsString)
  | rename (src dst : JsString) (e : Entry)

/-- What the operation makes of a name, if it touches it. -/
def DirOp.effect (n : JsString) : DirOp → Option (Option Entry)
  | .link m e => if n = m then some (some e) else none
  | .unlink m => if n = m then some none else none
  | .rename src dst e => if n = dst then some (some e) else if n = src then some none else none

def DirOp.apply (d : JsMap JsString Entry) : DirOp → JsMap JsString Entry
  | .link n e => d.set n e
  | .unlink n => d.delete n
  | .rename src dst e => (d.delete src).set dst e

/-- What an operation leaves under a name: its effect on the name, or what was there. -/
theorem DirOp.get?_apply (d : JsMap JsString Entry) (op : DirOp) (n : JsString) :
    (op.apply d).get? n = (op.effect n).getD (d.get? n) := by
  cases op with
  | link m e => simp only [apply, effect, JsMap.get?_set]; split <;> rfl
  | unlink m => simp only [apply, effect, JsMap.get?_delete]; split <;> rfl
  | rename src dst e =>
      simp only [apply, effect, JsMap.get?_set, JsMap.get?_delete]
      split
      · rfl
      · split <;> rfl

/-- The directory. Every entry in it or on its way to it names an inode that exists. -/
structure Fs where
  inodes : List Inode
  disk : JsMap JsString Entry
  pending : List DirOp
  clock : Int
  linked : ∀ n i, disk.get? n = some (.file i) → i < inodes.length
  linkedPending : ∀ op ∈ pending, ∀ n i, op.effect n = some (some (.file i)) → i < inodes.length

namespace Fs

/-- Nothing in it. -/
def empty : Fs where
  inodes := []
  disk := .empty
  pending := []
  clock := 0
  linked _ _ h := by simp at h
  linkedPending _ h := by simp at h

variable {fs fs' : Fs} {n m : JsString} {i j : Nat} {e : Option Entry} {b : Bytes}

/-- The directory as readers see it. -/
def dir (fs : Fs) : JsMap JsString Entry :=
  fs.pending.foldl DirOp.apply fs.disk

/-- The entry of a name. -/
def view (fs : Fs) (n : JsString) : Option Entry :=
  fs.dir.get? n

def inode (fs : Fs) (i : Nat) : Inode :=
  fs.inodes.getD i default

/-! ### Possibilities -/

/-- The entries a name has now or can have after a power cut. -/
def mayHold (fs : Fs) (n : JsString) : List (Option Entry) :=
  fs.disk.get? n :: fs.pending.filterMap (DirOp.effect n)

/-- The contents a file has now or can have after a power cut. -/
def mayContain (fs : Fs) (i : Nat) (b : Bytes) : Prop :=
  b = (fs.inode i).cached ∨ b = (fs.inode i).synced ∨ ∃ u ∈ (fs.inode i).unsynced, b <+: u

/-- Nothing of the file's content can be lost. -/
def Synced (fs : Fs) (i : Nat) : Prop :=
  (fs.inode i).synced = (fs.inode i).cached ∧ (fs.inode i).unsynced = []

/-- A synced inode has one content only. -/
theorem Synced.mayContain_iff (h : fs.Synced i) : fs.mayContain i b ↔ b = (fs.inode i).cached := by
  unfold mayContain
  rw [h.1, h.2]
  simp

/-- A name has its entry, or what one of the operations made of it. -/
theorem foldl_apply_mem (d : JsMap JsString Entry) (ops : List DirOp) (n : JsString) :
    (ops.foldl DirOp.apply d).get? n ∈ d.get? n :: ops.filterMap (DirOp.effect n) := by
  induction ops generalizing d with
  | nil => simp
  | cons op ops ih =>
      have h := ih (op.apply d)
      rw [List.foldl_cons]
      rcases heff : op.effect n with _ | e
      · rw [DirOp.get?_apply, heff, Option.getD_none] at h
        simpa [heff] using h
      · rw [DirOp.get?_apply, heff, Option.getD_some] at h
        simp only [List.filterMap_cons, heff]
        exact List.mem_cons_of_mem _ h

/-- The entry a name has now is one it can have. -/
theorem view_mem_mayHold (fs : Fs) (n : JsString) : fs.view n ∈ fs.mayHold n :=
  foldl_apply_mem _ _ _

/-- No name can point to an inode that was never made. -/
theorem lt_of_mem_mayHold (h : some (.file i) ∈ fs.mayHold n) : i < fs.inodes.length := by
  rcases List.mem_cons.mp h with h | h
  · exact fs.linked n i h.symm
  · obtain ⟨op, hop, heff⟩ := List.mem_filterMap.mp h
    exact fs.linkedPending op hop n i heff

/-! ### Operations -/

/-- Time passes. -/
def tick (fs : Fs) (d : Nat) : Fs :=
  { fs with clock := fs.clock + d }

/-- A new empty file under a name. -/
def create (fs : Fs) (n : JsString) : Fs where
  inodes := fs.inodes ++ [{ cached := [], synced := [], unsynced := [], born := fs.clock, mtime := fs.clock }]
  disk := fs.disk
  pending := fs.pending ++ [.link n (.file fs.inodes.length)]
  clock := fs.clock
  linked m i h := by have := fs.linked m i h; simp; omega
  linkedPending op hop m i h := by
    rcases List.mem_append.mp hop with hop | hop
    · have := fs.linkedPending op hop m i h
      simp; omega
    · rw [List.mem_singleton] at hop
      subst hop
      simp only [DirOp.effect] at h
      split at h <;> simp_all

/-- Changes one inode. -/
def modify (fs : Fs) (i : Nat) (f : Inode → Inode) : Fs where
  inodes := fs.inodes.modify i f
  disk := fs.disk
  pending := fs.pending
  clock := fs.clock
  linked n j h := by simpa using fs.linked n j h
  linkedPending op hop n j h := by simpa using fs.linkedPending op hop n j h

/-- Appends to a file. -/
def write (fs : Fs) (i : Nat) (b : Bytes) : Fs :=
  fs.modify i fun x =>
    { x with cached := x.cached ++ b, unsynced := (x.cached ++ b) :: x.unsynced, mtime := fs.clock }

/-- Empties a file. -/
def truncate (fs : Fs) (i : Nat) : Fs :=
  fs.modify i fun x => { x with cached := [], unsynced := [] :: x.unsynced, mtime := fs.clock }

/-- fsync of a file. -/
def sync (fs : Fs) (i : Nat) : Fs :=
  fs.modify i fun x => { x with synced := x.cached, unsynced := [] }

/-- fsync of the directory. -/
def syncDir (fs : Fs) : Fs where
  inodes := fs.inodes
  disk := fs.dir
  pending := []
  clock := fs.clock
  linked n i h := by
    have hmem := fs.view_mem_mayHold n
    rw [view, h] at hmem
    exact lt_of_mem_mayHold hmem
  linkedPending op hop := by simp at hop

def unlink (fs : Fs) (n : JsString) : Fs where
  inodes := fs.inodes
  disk := fs.disk
  pending := fs.pending ++ [.unlink n]
  clock := fs.clock
  linked := fs.linked
  linkedPending op hop m i h := by
    rcases List.mem_append.mp hop with hop | hop
    · exact fs.linkedPending op hop m i h
    · rw [List.mem_singleton] at hop
      subst hop
      simp only [DirOp.effect] at h
      split at h <;> simp at h

/-- Moves the entry of `src`, which has one, over `dst`. -/
def rename (fs : Fs) (src dst : JsString) : Fs where
  inodes := fs.inodes
  disk := fs.disk
  pending := fs.pending ++ ((fs.view src).map fun e => .rename src dst e).toList
  clock := fs.clock
  linked := fs.linked
  linkedPending op hop m i h := by
    rcases List.mem_append.mp hop with hop | hop
    · exact fs.linkedPending op hop m i h
    · rw [Option.mem_toList, Option.map_eq_some_iff] at hop
      obtain ⟨e, he, rfl⟩ := hop
      simp only [DirOp.effect] at h
      split at h
      · simp only [Option.some.injEq] at h
        subst h
        have hmem := fs.view_mem_mayHold src
        rw [he] at hmem
        exact lt_of_mem_mayHold hmem
      · split at h <;> simp at h

/-- What a power cut makes of a file. -/
structure CutInode (x y : Inode) : Prop where
  synced : y.synced = y.cached
  unsynced : y.unsynced = []
  cached : y.cached = x.synced ∨ ∃ u ∈ x.unsynced, y.cached <+: u
  born : y.born = x.born
  mtime_ge : x.born ≤ y.mtime
  mtime_le : y.mtime ≤ x.mtime

/-- What a power cut leaves: any sublist of the pending operations has reached the directory. -/
structure Cut (fs fs' : Fs) : Prop where
  disk : ∃ kept, List.Sublist kept fs.pending ∧ fs'.disk = kept.foldl DirOp.apply fs.disk
  pending : fs'.pending = []
  inodes : List.Forall₂ CutInode fs.inodes fs'.inodes
  clock : fs.clock ≤ fs'.clock

/-! ### What the operations do to the visible directory -/

@[simp] theorem view_tick (fs : Fs) (d : Nat) : (fs.tick d).view = fs.view := rfl

@[simp] theorem view_modify (fs : Fs) (i : Nat) (f : Inode → Inode) : (fs.modify i f).view = fs.view := rfl

@[simp] theorem view_syncDir (fs : Fs) : fs.syncDir.view = fs.view := rfl

/-- A created name points to the new inode; the others are as they were. -/
theorem view_create (fs : Fs) (n m : JsString) :
    (fs.create n).view m = if m = n then some (.file fs.inodes.length) else fs.view m := by
  simp only [view, dir, create, List.foldl_append, List.foldl_cons, List.foldl_nil, DirOp.apply,
    JsMap.get?_set]

theorem view_unlink (fs : Fs) (n m : JsString) :
    (fs.unlink n).view m = if m = n then none else fs.view m := by
  simp only [view, dir, unlink, List.foldl_append, List.foldl_cons, List.foldl_nil, DirOp.apply,
    JsMap.get?_delete]

/-- The source's entry moves to the destination. -/
theorem view_rename {src : JsString} {e : Entry} (h : fs.view src = some e) (dst m : JsString) :
    (fs.rename src dst).view m
      = if m = dst then some e else if m = src then none else fs.view m := by
  have hpending : (fs.rename src dst).pending = fs.pending ++ [.rename src dst e] := by
    simp [rename, h]
  rw [view, dir, hpending, List.foldl_append]
  simp only [rename, List.foldl_cons, List.foldl_nil, DirOp.apply, JsMap.get?_set, JsMap.get?_delete, view,
    dir]

/-! ### What they do to the possibilities -/

@[simp] theorem mayHold_tick (fs : Fs) (d : Nat) : (fs.tick d).mayHold n = fs.mayHold n := rfl

@[simp] theorem mayHold_modify (fs : Fs) (i : Nat) (f : Inode → Inode) :
    (fs.modify i f).mayHold n = fs.mayHold n := rfl

@[simp] theorem mayHold_syncDir (fs : Fs) : fs.syncDir.mayHold n = [fs.view n] := rfl

/-- A cut may lose the creation, so the name keeps what it could have and gains the new inode. -/
theorem mayHold_create : (fs.create m).mayHold n
    = fs.mayHold n ++ if n = m then [some (.file fs.inodes.length)] else [] := by
  simp only [mayHold, create, List.filterMap_append, ← List.cons_append, List.filterMap_cons,
    List.filterMap_nil, DirOp.effect]
  by_cases h : n = m <;> simp [h]

/-- A cut may lose the removal, so the name keeps what it could have. -/
theorem mayHold_unlink : (fs.unlink m).mayHold n = fs.mayHold n ++ if n = m then [none] else [] := by
  simp only [mayHold, unlink, List.filterMap_append, ← List.cons_append, List.filterMap_cons,
    List.filterMap_nil, DirOp.effect]
  by_cases h : n = m <;> simp [h]

/-- A cut may lose either half of a rename. -/
theorem mayHold_rename {src dst : JsString} {e' : Entry} (h : fs.view src = some e') :
    (fs.rename src dst).mayHold n
      = fs.mayHold n ++ if n = dst then [some e'] else if n = src then [none] else [] := by
  simp only [mayHold, rename, h, Option.map_some, Option.toList_some, List.filterMap_append,
    ← List.cons_append, List.filterMap_cons, List.filterMap_nil, DirOp.effect]
  by_cases hd : n = dst
  · simp [hd]
  · by_cases hs : n = src
    · simp [hs, show src ≠ dst from hs ▸ hd]
    · simp [hd, hs]

theorem mem_mayHold_create : e ∈ (fs.create m).mayHold n ↔
    e ∈ fs.mayHold n ∨ (n = m ∧ e = some (.file fs.inodes.length)) := by
  rw [mayHold_create]
  split <;> simp_all

theorem mem_mayHold_unlink : e ∈ (fs.unlink m).mayHold n ↔ e ∈ fs.mayHold n ∨ (n = m ∧ e = none) := by
  rw [mayHold_unlink]
  split <;> simp_all

theorem mem_mayHold_rename {src dst : JsString} {e' : Entry} (h : fs.view src = some e') :
    e ∈ (fs.rename src dst).mayHold n ↔
      e ∈ fs.mayHold n ∨ (n = dst ∧ e = some e') ∨ (n ≠ dst ∧ n = src ∧ e = none) := by
  rw [mayHold_rename h]
  by_cases hd : n = dst
  · simp [hd]
  · by_cases hs : n = src
    · simp [hs, show src ≠ dst from hs ▸ hd]
    · simp [hd, hs]

/-- A power cut opens no possibility. -/
theorem Cut.mem_mayHold (h : fs.Cut fs') (he : e ∈ fs'.mayHold n) : e ∈ fs.mayHold n := by
  obtain ⟨kept, hsub, hdisk⟩ := h.disk
  rw [mayHold, h.pending, List.filterMap_nil, List.mem_singleton, hdisk] at he
  subst he
  exact List.mem_cons.mpr <| (List.mem_cons.mp (foldl_apply_mem fs.disk kept n)).imp_right
    fun hk => (hsub.filterMap _).subset hk

/-- What a name has after a power cut, it could have before. -/
theorem Cut.view_mem_mayHold (h : fs.Cut fs') (n : JsString) : fs'.view n ∈ fs.mayHold n :=
  h.mem_mayHold (fs'.view_mem_mayHold n)

/-! ### What they do to the files -/

@[simp] theorem inode_tick (fs : Fs) (d : Nat) : (fs.tick d).inode i = fs.inode i := rfl

@[simp] theorem inode_syncDir (fs : Fs) : fs.syncDir.inode i = fs.inode i := rfl

@[simp] theorem inode_unlink (fs : Fs) : (fs.unlink n).inode i = fs.inode i := rfl

@[simp] theorem inode_rename (fs : Fs) : (fs.rename n m).inode i = fs.inode i := rfl

theorem inode_create_old (h : i < fs.inodes.length) : (fs.create n).inode i = fs.inode i := by
  simp [inode, create, List.getElem?_append_left h]

/-- The inode of a created file is empty. -/
theorem inode_create_new : (fs.create n).inode fs.inodes.length
    = { cached := [], synced := [], unsynced := [], born := fs.clock, mtime := fs.clock } := by
  simp [inode, create]

theorem inode_modify_ne {f : Inode → Inode} (h : j ≠ i) : (fs.modify i f).inode j = fs.inode j := by
  simp [inode, modify, Ne.symm h]

theorem inode_modify_self {f : Inode → Inode} (h : i < fs.inodes.length) :
    (fs.modify i f).inode i = f (fs.inode i) := by
  simp [inode, modify, h]

/-- A power cut takes an inode to its synced content or to a torn write. -/
theorem Cut.inode (h : fs.Cut fs') (hi : i < fs.inodes.length) : CutInode (fs.inode i) (fs'.inode i) := by
  have hlen := h.inodes.length_eq
  have hget := h.inodes.get hi (hlen ▸ hi)
  simpa [Fs.inode, List.getD_eq_getElem?_getD, List.getElem?_eq_getElem hi,
    List.getElem?_eq_getElem (hlen ▸ hi : i < fs'.inodes.length)] using hget

theorem Cut.length_eq (h : fs.Cut fs') : fs'.inodes.length = fs.inodes.length :=
  h.inodes.length_eq.symm

/-- After a cut every file is synced. -/
theorem Cut.inode_synced (h : fs.Cut fs') (hi : i < fs.inodes.length) : fs'.Synced i :=
  ⟨(h.inode hi).synced, (h.inode hi).unsynced⟩

/-- A power cut gives an inode no content that it could not have. -/
theorem Cut.mayContain (h : fs.Cut fs') (hi : i < fs.inodes.length) (hb : fs'.mayContain i b) :
    fs.mayContain i b := by
  rw [(h.inode_synced hi).mayContain_iff] at hb
  subst hb
  rcases (h.inode hi).cached with hc | hc
  · exact .inr (.inl hc)
  · exact .inr (.inr hc)

/-! ### What a reader can find under a name -/

/-- What opening a name finds. -/
inductive Sight where
  | missing
  | symlink (resolves : Bool)
  | directory
  | file (b : Bytes)
  deriving DecidableEq, Repr

/-- What is found now. -/
def sight (fs : Fs) (n : JsString) : Sight :=
  match fs.view n with
  | none => .missing
  | some (.symlink r) => .symlink r
  | some .directory => .directory
  | some (.file i) => .file (fs.inode i).cached

/-- What an entry can be found to be. -/
def MayShow (fs : Fs) : Option Entry → Sight → Prop
  | none, s => s = .missing
  | some (.symlink r), s => s = .symlink r
  | some .directory, s => s = .directory
  | some (.file i), s => ∃ b, fs.mayContain i b ∧ s = .file b

/-- What can be found under a name, now or after a power cut. -/
def MaySee (fs : Fs) (n : JsString) (s : Sight) : Prop :=
  ∃ e ∈ fs.mayHold n, fs.MayShow e s

/-- What is seen now can be seen. -/
theorem maySee_sight (fs : Fs) (n : JsString) : fs.MaySee n (fs.sight n) := by
  refine ⟨fs.view n, fs.view_mem_mayHold n, ?_⟩
  unfold sight
  rcases fs.view n with _ | (i | r | _)
  · rfl
  · exact ⟨_, .inl rfl, rfl⟩
  · rfl
  · rfl

/-- What can be seen after a power cut could be seen before. -/
theorem Cut.maySee (h : fs.Cut fs') {s : Sight} (hs : fs'.MaySee n s) : fs.MaySee n s := by
  obtain ⟨e, he, hshow⟩ := hs
  refine ⟨e, h.mem_mayHold he, ?_⟩
  rcases e with _ | (i | r | _)
  · exact hshow
  · obtain ⟨b, hb, rfl⟩ := hshow
    exact ⟨b, h.mayContain (lt_of_mem_mayHold (h.mem_mayHold he)) hb, rfl⟩
  · exact hshow
  · exact hshow

/-- Two file systems agree on what a name can be found to be when they agree on its entries and on the
    files among them. -/
theorem maySee_congr {s : Sight} (hold : fs'.mayHold n = fs.mayHold n)
    (hino : ∀ i, some (.file i) ∈ fs.mayHold n → fs'.inode i = fs.inode i) :
    fs'.MaySee n s ↔ fs.MaySee n s := by
  unfold MaySee
  rw [hold]
  refine exists_congr fun e => and_congr_right fun he => ?_
  rcases e with _ | (i | r | _)
  · rfl
  · simp only [MayShow, mayContain, hino i he]
  · rfl
  · rfl

theorem sight_congr (hview : fs'.view n = fs.view n)
    (hino : ∀ i, fs.view n = some (.file i) → fs'.inode i = fs.inode i) : fs'.sight n = fs.sight n := by
  unfold sight
  rw [hview]
  rcases hv : fs.view n with _ | (i | r | _)
  · rfl
  · simp only [hino i hv]
  · rfl
  · rfl

/-! ### What the operations do to what a reader finds -/

theorem maySee_of_mayShow_view {s : Sight} (h : fs.MayShow (fs.view n) s) : fs.MaySee n s :=
  ⟨_, fs.view_mem_mayHold n, h⟩

/-- After a sync of the directory a name can be seen only as it is. -/
theorem maySee_syncDir {s : Sight} : fs.syncDir.MaySee n s ↔ fs.MayShow (fs.view n) s := by
  simp only [MaySee, mayHold_syncDir, List.mem_singleton, exists_eq_left]
  rfl

@[simp] theorem sight_syncDir (fs : Fs) : fs.syncDir.sight n = fs.sight n := rfl

/-- A removed name can be seen as missing, or as it could be before. -/
theorem maySee_unlink {s : Sight} : (fs.unlink m).MaySee n s ↔ fs.MaySee n s ∨ (n = m ∧ s = .missing) := by
  simp only [MaySee, mem_mayHold_unlink, or_and_right, exists_or]
  refine or_congr Iff.rfl ⟨?_, ?_⟩
  · rintro ⟨e, ⟨rfl, rfl⟩, hs⟩
    exact ⟨rfl, hs⟩
  · rintro ⟨rfl, rfl⟩
    exact ⟨none, ⟨rfl, rfl⟩, rfl⟩

theorem sight_unlink_self (fs : Fs) (n : JsString) : (fs.unlink n).sight n = .missing := by
  simp [sight, view_unlink]

theorem sight_unlink_ne (h : n ≠ m) : (fs.unlink m).sight n = fs.sight n :=
  sight_congr (by simp [view_unlink, h]) (fun _ _ => rfl)

theorem mayShow_create_old {e : Option Entry} (h : ∀ i, e = some (.file i) → i < fs.inodes.length)
    {s : Sight} : (fs.create m).MayShow e s ↔ fs.MayShow e s := by
  rcases e with _ | (i | r | _)
  · rfl
  · simp only [MayShow, mayContain, inode_create_old (h i rfl)]
  · rfl
  · rfl

/-- A created name can be seen as an empty file, or as it could be before. -/
theorem maySee_create {s : Sight} :
    (fs.create m).MaySee n s ↔ fs.MaySee n s ∨ (n = m ∧ s = .file []) := by
  have hold : ∀ e ∈ fs.mayHold n, ((fs.create m).MayShow e s ↔ fs.MayShow e s) := fun e he =>
    mayShow_create_old fun i hi => lt_of_mem_mayHold (hi ▸ he)
  have hnew : (fs.create m).MayShow (some (.file fs.inodes.length)) s ↔ s = .file [] := by
    simp [MayShow, mayContain, inode_create_new]
  simp only [MaySee, mem_mayHold_create, or_and_right, exists_or]
  refine or_congr (exists_congr fun e => and_congr_right (hold e)) ⟨?_, ?_⟩
  · rintro ⟨e, ⟨rfl, rfl⟩, hs⟩
    exact ⟨rfl, hnew.mp hs⟩
  · rintro ⟨rfl, hs⟩
    exact ⟨_, ⟨rfl, rfl⟩, hnew.mpr hs⟩

theorem sight_create_self (fs : Fs) (n : JsString) : (fs.create n).sight n = .file [] := by
  simp [sight, view_create, inode_create_new]

theorem sight_create_ne (h : n ≠ m) : (fs.create m).sight n = fs.sight n :=
  sight_congr (by simp [view_create, h]) fun i hi => inode_create_old <| by
    have hmem := fs.view_mem_mayHold n
    rw [hi] at hmem
    exact lt_of_mem_mayHold hmem

/-- A file no name of interest can denote. -/
theorem maySee_modify_of_not_mem {f : Inode → Inode} (h : some (.file i) ∉ fs.mayHold n) {s : Sight} :
    (fs.modify i f).MaySee n s ↔ fs.MaySee n s :=
  maySee_congr rfl fun j hj => inode_modify_ne (by rintro rfl; exact h hj)

theorem sight_modify_of_not_mem {f : Inode → Inode} (h : some (.file i) ∉ fs.mayHold n) :
    (fs.modify i f).sight n = fs.sight n :=
  sight_congr rfl fun j hj => inode_modify_ne (by
    rintro rfl
    exact h (hj ▸ fs.view_mem_mayHold n))

/-- Changing a file's content changes nothing but the content of a file. -/
theorem maySee_modify {f : Inode → Inode} {s : Sight} (h : (fs.modify i f).MaySee n s) :
    fs.MaySee n s ∨ ∃ b, s = .file b := by
  obtain ⟨e, he, hs⟩ := h
  rcases e with _ | (j | r | _)
  · exact .inl ⟨_, he, hs⟩
  · obtain ⟨b, -, rfl⟩ := hs
    exact .inr ⟨b, rfl⟩
  · exact .inl ⟨_, he, hs⟩
  · exact .inl ⟨_, he, hs⟩

/-- Changing an inode turns a file into a file, at most. -/
theorem sight_modify (fs : Fs) (i : Nat) (f : Inode → Inode) (n : JsString) :
    (fs.modify i f).sight n = fs.sight n ∨
      ∃ b b', fs.sight n = .file b ∧ (fs.modify i f).sight n = .file b' := by
  unfold sight
  rw [view_modify]
  rcases fs.view n with _ | (j | r | _)
  · exact .inl rfl
  · exact .inr ⟨_, _, rfl, rfl⟩
  · exact .inl rfl
  · exact .inl rfl

/-- A rename shows either name as it was or as it becomes. -/
theorem maySee_rename {src dst : JsString} {e : Entry} (h : fs.view src = some e) {s : Sight} :
    (fs.rename src dst).MaySee n s ↔
      fs.MaySee n s ∨ (n = dst ∧ fs.MayShow (some e) s) ∨ (n ≠ dst ∧ n = src ∧ s = .missing) := by
  simp only [MaySee, mem_mayHold_rename h, or_and_right, exists_or]
  refine or_congr Iff.rfl (or_congr ⟨?_, ?_⟩ ⟨?_, ?_⟩)
  · rintro ⟨_, ⟨rfl, rfl⟩, hs⟩
    exact ⟨rfl, hs⟩
  · rintro ⟨rfl, hs⟩
    exact ⟨_, ⟨rfl, rfl⟩, hs⟩
  · rintro ⟨_, ⟨hd, rfl, rfl⟩, hs⟩
    exact ⟨hd, rfl, hs⟩
  · rintro ⟨hd, rfl, rfl⟩
    exact ⟨none, ⟨hd, rfl, rfl⟩, rfl⟩

theorem sight_rename_ne {src dst : JsString} {e : Entry} (h : fs.view src = some e) (hd : n ≠ dst)
    (hs : n ≠ src) : (fs.rename src dst).sight n = fs.sight n :=
  sight_congr (by simp [view_rename h, hd, hs]) (fun _ _ => rfl)

/-- What a power cut leaves when nothing pending has reached the directory. -/
def loseAll (fs : Fs) : Fs where
  inodes := fs.inodes.map fun x => { x with cached := x.synced, unsynced := [] }
  disk := fs.disk
  pending := []
  clock := fs.clock
  linked n i h := by simpa using fs.linked n i h
  linkedPending op hop := by simp at hop

/-- A power cut can lose everything that is not synced. -/
theorem cut_loseAll (h : ∀ x ∈ fs.inodes, x.born ≤ x.mtime) : fs.Cut fs.loseAll where
  disk := ⟨[], List.nil_sublist _, rfl⟩
  pending := rfl
  inodes := by
    unfold loseAll
    rw [List.forall₂_map_right_iff]
    exact List.forall₂_same.mpr fun x hx =>
      { synced := rfl, unsynced := rfl, cached := .inl rfl, born := rfl, mtime_ge := h x hx,
        mtime_le := Int.le_refl _ }
  clock := Int.le_refl _

end Fs

/-! ### Outlooks -/

/-- What can be found under a name when power cuts of one kind are reckoned with: the sights possible in
    a directory (`may`), the cuts reckoned with (`Survives`), and how the operations act on them. -/
structure Outlook (n : JsString) where
  may : Fs → Fs.Sight → Prop
  Survives : Fs → Fs → Prop
  maySee : ∀ {fs : Fs} {s}, may fs s → fs.MaySee n s
  cut : ∀ {fs fs' : Fs}, Survives fs fs' → fs.Cut fs'
  survives : ∀ {fs fs' : Fs} {s}, Survives fs fs' → may fs' s → may fs s
  shows : ∀ {fs : Fs} {s}, fs.MayShow (fs.view n) s → may fs s
  tick : ∀ {fs : Fs} {d s}, may (fs.tick d) s → may fs s
  syncDir : ∀ {fs : Fs} {s}, may fs.syncDir s → fs.MayShow (fs.view n) s
  create : ∀ {fs : Fs} {m s}, may (fs.create m) s → may fs s ∨ (n = m ∧ s = .file [])
  unlink : ∀ {fs : Fs} {m s}, may (fs.unlink m) s → may fs s ∨ (n = m ∧ s = .missing)
  modify : ∀ {fs : Fs} {i f s}, some (.file i) ∉ fs.mayHold n → may (fs.modify i f) s → may fs s
  rename : ∀ {fs : Fs} {src dst e s}, fs.view src = some e → may (fs.rename src dst) s →
    may fs s ∨ (n = dst ∧ fs.MayShow (some e) s) ∨ (n ≠ dst ∧ n = src ∧ s = .missing)

namespace Outlook

variable {n : JsString} {fs fs' : Fs}

theorem sight (O : Outlook n) (fs : Fs) : O.may fs (fs.sight n) := by
  refine O.shows ?_
  unfold Fs.sight
  rcases fs.view n with _ | (i | r | _)
  · rfl
  · exact ⟨_, .inl rfl, rfl⟩
  · rfl
  · rfl

/-- Every power cut. -/
def any (n : JsString) : Outlook n where
  may fs s := fs.MaySee n s
  Survives := Fs.Cut
  maySee h := h
  cut h := h
  survives h hs := h.maySee hs
  shows := Fs.maySee_of_mayShow_view
  tick h := h
  syncDir := Fs.maySee_syncDir.mp
  create := Fs.maySee_create.mp
  unlink := Fs.maySee_unlink.mp
  modify h := (Fs.maySee_modify_of_not_mem h).mp
  rename h := (Fs.maySee_rename h).mp

/-- Entries from the last removal on. -/
def sinceRemoval : List (Option Entry) → List (Option Entry)
  | [] => []
  | e :: es => if none ∈ es then sinceRemoval es else e :: es

/-- The entries since the last removal are among the entries. -/
theorem sinceRemoval_subset (es : List (Option Entry)) : sinceRemoval es ⊆ es := by
  induction es with
  | nil => simp [sinceRemoval]
  | cons e es ih =>
      rw [sinceRemoval]
      split
      · exact List.Subset.trans ih (List.subset_cons_self _ _)
      · exact List.Subset.refl _

/-- A removal is the first of what follows it. -/
theorem sinceRemoval_append_none (es : List (Option Entry)) : sinceRemoval (es ++ [none]) = [none] := by
  induction es with
  | nil => simp [sinceRemoval]
  | cons e es ih => simp [sinceRemoval, ih]

theorem sinceRemoval_append_some (es : List (Option Entry)) (e : Entry) (hne : es ≠ []) :
    sinceRemoval (es ++ [some e]) = sinceRemoval es ++ [some e] := by
  induction es with
  | nil => exact absurd rfl hne
  | cons x es ih =>
      rw [List.cons_append, sinceRemoval, sinceRemoval]
      by_cases hn : none ∈ es
      · rw [if_pos (by simp [hn]), if_pos hn, ih (List.ne_nil_of_mem hn)]
      · rw [if_neg (by simp [hn]), if_neg hn]
        rfl

/-- A power cut that brings back no entry the name had before its last removal. -/
def Keeps (n : JsString) (fs fs' : Fs) : Prop :=
  fs.Cut fs' ∧ fs'.view n ∈ sinceRemoval (fs.mayHold n)

/-- What can be found under the name when no cut brings back a removed entry. -/
def MaySeeKept (n : JsString) (fs : Fs) (s : Fs.Sight) : Prop :=
  ∃ e ∈ sinceRemoval (fs.mayHold n), fs.MayShow e s

/-- The entry a name has now is the last it was given. -/
theorem last_mayHold (fs : Fs) (n : JsString) : (fs.mayHold n).getLast? = some (fs.view n) := by
  have haux : ∀ (ops : List DirOp) (d : JsMap JsString Entry),
      (d.get? n :: ops.filterMap (DirOp.effect n)).getLast? = some ((ops.foldl DirOp.apply d).get? n) := by
    intro ops
    induction ops with
    | nil => intro d; rfl
    | cons op ops ih =>
        intro d
        have hrest := ih (op.apply d)
        rw [DirOp.get?_apply] at hrest
        rw [List.foldl_cons]
        rcases heff : op.effect n with _ | e
        · simpa [heff] using hrest
        · rw [List.filterMap_cons, heff]
          simp only [heff, Option.getD_some] at hrest
          rw [List.getLast?_cons_cons]
          exact hrest
  exact haux fs.pending fs.disk

/-- The entry a name has now came with the last removal or after it. -/
theorem view_mem_sinceRemoval (fs : Fs) (n : JsString) : fs.view n ∈ sinceRemoval (fs.mayHold n) := by
  obtain ⟨ys, hys⟩ := List.getLast?_eq_some_iff.mp (last_mayHold fs n)
  rw [hys]
  rcases hview : fs.view n with _ | e
  · rw [sinceRemoval_append_none]; simp
  · cases ys with
    | nil => simp [sinceRemoval]
    | cons y ys => rw [sinceRemoval_append_some _ _ (by simp)]; simp

/-- Under a name that is not there now, nothing else can be found. -/
theorem maySeeKept_of_view_none (h : fs.view n = none) {s : Fs.Sight} (hs : MaySeeKept n fs s) :
    s = .missing := by
  obtain ⟨ys, hys⟩ := List.getLast?_eq_some_iff.mp (last_mayHold fs n)
  obtain ⟨e, he, hs⟩ := hs
  rw [hys, h, sinceRemoval_append_none, List.mem_singleton] at he
  subst he
  exact hs

theorem mayHold_ne_nil (fs : Fs) (n : JsString) : fs.mayHold n ≠ [] := by
  simp [Fs.mayHold]

/-- Power cuts that bring back no removed entry of the name. -/
def keeping (n : JsString) : Outlook n where
  may := MaySeeKept n
  Survives := Keeps n
  maySee := fun ⟨e, he, hs⟩ => ⟨e, sinceRemoval_subset _ he, hs⟩
  cut h := h.1
  survives {fs fs' s} h hs := by
    obtain ⟨hcut, hmem⟩ := h
    obtain ⟨e, he, hs⟩ := hs
    have hhold : fs'.mayHold n = [fs'.view n] := by simp [Fs.mayHold, Fs.view, Fs.dir, hcut.pending]
    rw [hhold, sinceRemoval, if_neg (by simp), List.mem_singleton] at he
    subst he
    refine ⟨_, hmem, ?_⟩
    rcases hget : fs'.view n with _ | (i | r | _) <;> rw [hget] at hs hmem
    · exact hs
    · obtain ⟨b, hb, rfl⟩ := hs
      exact ⟨b, hcut.mayContain (Fs.lt_of_mem_mayHold (sinceRemoval_subset _ hmem)) hb, rfl⟩
    · exact hs
    · exact hs
  shows {fs _} h := ⟨_, view_mem_sinceRemoval fs n, h⟩
  tick h := h
  syncDir {fs s} h := by
    obtain ⟨e, he, hs⟩ := h
    rw [Fs.mayHold_syncDir, sinceRemoval, if_neg (by simp), List.mem_singleton] at he
    subst he
    exact hs
  create {fs m s} h := by
    obtain ⟨e, he, hs⟩ := h
    have hold : ∀ e ∈ fs.mayHold n, ((fs.create m).MayShow e s ↔ fs.MayShow e s) := fun e he =>
      Fs.mayShow_create_old fun i hi => Fs.lt_of_mem_mayHold (hi ▸ he)
    rw [Fs.mayHold_create] at he
    split at he
    · rename_i hn
      rw [sinceRemoval_append_some _ _ (mayHold_ne_nil fs n), List.mem_append, List.mem_singleton] at he
      rcases he with he | rfl
      · exact .inl ⟨e, he, (hold e (sinceRemoval_subset _ he)).mp hs⟩
      · exact .inr ⟨hn, by simpa [Fs.MayShow, Fs.mayContain, Fs.inode_create_new] using hs⟩
    · rw [List.append_nil] at he
      exact .inl ⟨e, he, (hold e (sinceRemoval_subset _ he)).mp hs⟩
  unlink {fs m s} h := by
    obtain ⟨e, he, hs⟩ := h
    rw [Fs.mayHold_unlink] at he
    split at he
    · rename_i hn
      rw [sinceRemoval_append_none, List.mem_singleton] at he
      subst he
      exact .inr ⟨hn, hs⟩
    · rw [List.append_nil] at he
      exact .inl ⟨e, he, hs⟩
  modify {fs i f s} hi h := by
    obtain ⟨e, he, hs⟩ := h
    refine ⟨e, he, ?_⟩
    rcases e with _ | (j | r | _)
    · exact hs
    · have hne : j ≠ i := by
        rintro rfl
        exact hi (sinceRemoval_subset _ he)
      simpa only [Fs.MayShow, Fs.mayContain, Fs.inode_modify_ne hne] using hs
    · exact hs
    · exact hs
  rename {fs src dst e' s} hview h := by
    obtain ⟨e, he, hs⟩ := h
    rw [Fs.mayHold_rename hview] at he
    split at he
    · rename_i hn
      rw [sinceRemoval_append_some _ _ (mayHold_ne_nil fs n), List.mem_append, List.mem_singleton] at he
      rcases he with he | rfl
      · exact .inl ⟨e, he, hs⟩
      · exact .inr (.inl ⟨hn, hs⟩)
    · rename_i hd
      split at he
      · rename_i hn
        rw [sinceRemoval_append_none, List.mem_singleton] at he
        subst he
        exact .inr (.inr ⟨hd, hn, hs⟩)
      · rw [List.append_nil] at he
        exact .inl ⟨e, he, hs⟩

end Outlook

end CrashFs
