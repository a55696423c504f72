/-
Module: OwnerSwitch.Executor.BurnStoreRuns
Layer: Executor
Purpose: Runs of the single-use ledger under read failures, short writes and power cuts. A burn's record
  is kept (`Kept`): its entry is on the disk, nothing pending touches it, no other name shares its file,
  and whatever the file can be found to hold is a whole record with the grant's expiry or a torn one. A
  kept record keeps the jti burned until the grant expires.
Imports: Lib.Lts, Lib.JsonRoundTrip, BurnStore
Trusted boundary: the digest that names a record
Main exports: BurnCall, burnRuns, Kept, burn_once
Open obligations: none
-/
import OwnerSwitch.Lib.Lts
import OwnerSwitch.Lib.JsonRoundTrip
import OwnerSwitch.Executor.BurnStore

namespace OwnerSwitch

open CrashFs CrashFs.Fs CrashFs.Prog

/-! ### Records and torn records -/

/-- A record that expires no earlier than the grant does. -/
structure GoodRecord (expiry : Decimal) (record : Json) : Prop where
  normal : Json.Normal record
  object : ∃ fs, record = .obj fs
  jti : ∃ s, record.get (js "jti") = some (.str s)
  expiresAt : ∃ x, record.get (js "expiresAt") = some (.num x) ∧ x.Outlasts expiry

/-- The octets of such a record, or of as much of it as was written. -/
def Torn (expiry : Decimal) (b : Bytes) : Prop :=
  ∃ record, GoodRecord expiry record ∧ b <+: Utf8.encode (Json.stringify record)

/-- What is left of a torn record is torn. -/
theorem Torn.shortened {expiry : Decimal} {b u : Bytes} (h : Torn expiry u) (hb : b <+: u) : Torn expiry b := by
  obtain ⟨record, hgood, hu⟩ := h
  exact ⟨record, hgood, hb.trans hu⟩

/-- A torn record is not read as a record, and a whole one is read as itself. -/
theorem Torn.read {expiry : Decimal} {b : Bytes} (h : Torn expiry b) {record : Json}
    (hread : asBurnRecord (Utf8.decode b) = some record) : GoodRecord expiry record := by
  obtain ⟨whole, hgood, r, hr⟩ := h
  obtain ⟨fs, rfl⟩ := hgood.object
  unfold asBurnRecord at hread
  split at hread
  · simp at hread
  obtain ⟨parsed, hparsed, hread⟩ := Option.bind_eq_some_iff.mp hread
  split at hread
  · rename_i s d hjti hexpires
    obtain rfl := Option.some.inj hread
    -- what has properties is an object, and no proper prefix is read as one
    have hobject : ∃ gs, parsed = .obj gs := by
      cases parsed with
      | obj gs => exact ⟨gs, rfl⟩
      | _ => simp [Json.get] at hjti
    obtain ⟨gs, rfl⟩ := hobject
    have hwhole : r = [] := by
      by_contra hne
      exact Json.parse_torn_object hr.symm hne gs hparsed
    subst hwhole
    rw [List.append_nil] at hr
    subst hr
    have hwf : WellFormed (Json.stringify (.obj fs)) := Json.wellFormed_render 0 0 _
    rw [Utf8.decode_encode hwf] at hparsed
    exact Option.some.inj ((Json.parse_stringify hgood.normal).symm.trans hparsed) ▸ hgood
  · simp at hread

/-- The record of a burn is a normal value. -/
theorem normal_freshRecord (jti : JsString) (expiry : Decimal) (burnedAt : Int) :
    Json.Normal (freshRecord jti expiry burnedAt) := by
  apply Json.normal_present (K := [js "jti", js "expiresAt", js "state", js "burnedAt"]) rfl (by decide)
    (by decide)
  simp [Json.Normal.str, Json.Normal.num]

/-- The record of a burn expires no earlier than its grant. -/
theorem goodRecord_fresh (jti : JsString) (expiry : Decimal) (burnedAt : Int) :
    GoodRecord expiry (freshRecord jti expiry burnedAt) where
  normal := normal_freshRecord jti expiry burnedAt
  object := ⟨_, rfl⟩
  jti := ⟨jti, rfl⟩
  expiresAt := ⟨expiry, rfl, fun _ h => h⟩

/-- The fields of a patch are normal values. -/
theorem normal_patch (p : BurnPatch) : ∀ g ∈ p.fields, Json.Normal g.2 := by
  intro g hg
  obtain ⟨⟨k, v⟩, hmem, hv⟩ := List.mem_filterMap.mp hg
  obtain ⟨w, hw, rfl⟩ := Option.map_eq_some_iff.mp hv
  simp only [List.mem_cons, List.not_mem_nil, or_false, Prod.mk.injEq] at hmem
  rcases hmem with ⟨-, rfl⟩ | ⟨-, rfl⟩ | ⟨-, rfl⟩ | ⟨-, rfl⟩ | ⟨-, rfl⟩ | ⟨-, rfl⟩ | ⟨-, rfl⟩ | ⟨-, rfl⟩ |
    ⟨-, rfl⟩ <;> simp only [Option.map_eq_some_iff, Option.some.injEq] at hw
  · obtain ⟨_, -, rfl⟩ := hw; exact .str
  · obtain ⟨_, -, rfl⟩ := hw; exact .num
  · subst hw; exact .str
  · obtain ⟨_, -, rfl⟩ := hw; exact .num
  · obtain ⟨_, -, rfl⟩ := hw; exact .str
  · obtain ⟨_, -, rfl⟩ := hw; exact .bool
  · obtain ⟨_, -, rfl⟩ := hw; exact .str
  · obtain ⟨_, -, rfl⟩ := hw; exact .str
  · obtain ⟨_, -, rfl⟩ := hw; exact .str

/-- A patched jti is a string. -/
theorem jti_of_mem_fields {p : BurnPatch} {v : Json} (h : (js "jti", v) ∈ p.fields) : ∃ s, v = .str s := by
  obtain ⟨⟨k, x⟩, hmem, hv⟩ := List.mem_filterMap.mp h
  obtain ⟨w, hw, heq⟩ := Option.map_eq_some_iff.mp hv
  obtain ⟨rfl, rfl⟩ := Prod.mk.inj heq
  simp [js, utf16] at hmem
  subst hmem
  obtain ⟨s, -, rfl⟩ := Option.map_eq_some_iff.mp hw
  exact ⟨s, rfl⟩

/-- A patched expiry is the patch's. -/
theorem expiresAt_of_mem_fields {p : BurnPatch} {v : Json} (h : (js "expiresAt", v) ∈ p.fields) :
    ∃ x, p.expiresAt = some x ∧ v = .num x := by
  obtain ⟨⟨k, x⟩, hmem, hv⟩ := List.mem_filterMap.mp h
  obtain ⟨w, hw, heq⟩ := Option.map_eq_some_iff.mp hv
  obtain ⟨rfl, rfl⟩ := Prod.mk.inj heq
  simp [js, utf16] at hmem
  subst hmem
  obtain ⟨d, hd, rfl⟩ := Option.map_eq_some_iff.mp hw
  exact ⟨d, hd, rfl⟩

theorem expiresAt_mem_keys {p : BurnPatch} {x : Decimal} (h : p.expiresAt = some x) :
    js "expiresAt" ∈ p.fields.map Prod.fst := by
  apply List.mem_map.mpr
  refine ⟨(js "expiresAt", .num x), ?_, rfl⟩
  apply List.mem_filterMap.mpr
  exact ⟨(js "expiresAt", some (.num x)), by simp [h], rfl⟩

/-- What a record is written with after `existing` was read: an expiry the patch sets, or the one of a
    record that could be read. -/
def KeepsExpiry (expiry : Decimal) (patch : BurnPatch) (existing : Option Json) : Prop :=
  match patch.expiresAt with
  | some x => x.Outlasts expiry
  | none => ∃ record, existing = some record ∧ isUnreadable record = false

/-- A patch of a good record, where neither the patch nor, without one, the record shortens the expiry. -/
theorem GoodRecord.assign {expiry expiry' : Decimal} {record : Json} (h : GoodRecord expiry record)
    {p : BurnPatch} (hset : ∀ x, p.expiresAt = some x → x.Outlasts expiry')
    (hunset : p.expiresAt = none → expiry.Outlasts expiry') : GoodRecord expiry' (record.assign p.fields) := by
  obtain ⟨fs, rfl⟩ := h.object
  have hentries : Json.ofEntries fs = fs := by
    cases h.normal with
    | obj hfs _ => exact hfs
  refine ⟨Json.normal_assign h.normal (normal_patch p), ⟨_, rfl⟩, ?_, ?_⟩
  · rcases Json.get_assign hentries (js "jti") with hget | ⟨v, hget, hmem⟩
    · rw [hget]
      exact h.jti
    · obtain ⟨s, rfl⟩ := jti_of_mem_fields hmem
      exact ⟨s, hget⟩
  · by_cases hkey : js "expiresAt" ∈ p.fields.map Prod.fst
    · obtain ⟨v, hget, hmem⟩ := Json.get_assign_of_mem hkey
      obtain ⟨x, hx, rfl⟩ := expiresAt_of_mem_fields hmem
      exact ⟨x, hget, hset x hx⟩
    · have hnone : p.expiresAt = none := by
        cases hp : p.expiresAt with
        | none => rfl
        | some x => exact absurd (expiresAt_mem_keys hp) hkey
      obtain ⟨x, hget, hx⟩ := h.expiresAt
      refine ⟨x, ?_, fun t ht => hunset hnone t (hx t ht)⟩
      rw [Json.get_assign_of_not_mem hentries hkey, hget]

/-! ### A record's file -/

/-- The record under the name `n` is the file `i`, which no other name denotes, which holds a record that
    expires with the grant or a torn one, and whose clock readings are in order. -/
structure Filed (n : JsString) (expiry : Decimal) (i : Nat) (fs : Fs) : Prop where
  view : fs.view n = some (.file i)
  alone : ∀ m, m ≠ n → some (.file i) ∉ fs.mayHold m
  content : ∀ b, fs.mayContain i b → Torn expiry b
  born_le_mtime : (fs.inode i).born ≤ (fs.inode i).mtime
  born_le_clock : (fs.inode i).born ≤ fs.clock

/-- Such a record in the durable directory, of a grant that expires no later than `retention` after it. -/
structure Kept (retention : Int) (n : JsString) (expiry : Decimal) (i : Nat) (fs : Fs) : Prop
    extends Filed n expiry i fs where
  disk : fs.disk.get? n = some (.file i)
  pending : fs.pending.filterMap (DirOp.effect n) = []
  expires : expiry.atMost ((fs.inode i).born + retention) = true

section Files

variable {retention : Int} {n m : JsString} {expiry : Decimal} {i j : Nat} {fs fs' : Fs}

/-- A file that is filed exists. -/
theorem Filed.lt (h : Filed n expiry i fs) : i < fs.inodes.length := by
  have hmem := fs.view_mem_mayHold n
  rw [h.view] at hmem
  exact lt_of_mem_mayHold hmem

theorem Filed.tick (h : Filed n expiry i fs) (d : Nat) : Filed n expiry i (fs.tick d) := by
  have hclock := h.born_le_clock
  refine ⟨h.view, h.alone, h.content, h.born_le_mtime, ?_⟩
  show (fs.inode i).born ≤ fs.clock + d
  omega

/-- Syncing the directory keeps a file filed. -/
theorem Filed.syncDir (h : Filed n expiry i fs) : Filed n expiry i fs.syncDir := by
  refine ⟨h.view, fun m hm hmem => h.alone m hm ?_, h.content, h.born_le_mtime, h.born_le_clock⟩
  rw [mayHold_syncDir, List.mem_singleton] at hmem
  exact hmem ▸ fs.view_mem_mayHold m

/-- Another file is changed. -/
theorem Filed.modify_ne (h : Filed n expiry i fs) {f : Inode → Inode} (hj : j ≠ i) :
    Filed n expiry i (fs.modify j f) := by
  have hino : (fs.modify j f).inode i = fs.inode i := inode_modify_ne hj.symm
  refine ⟨h.view, h.alone, fun b hb => h.content b ?_, ?_, ?_⟩
  · simpa only [mayContain, hino] using hb
  · rw [hino]; exact h.born_le_mtime
  · rw [hino]; exact h.born_le_clock

/-- The file is changed to something that can still only be found to hold such a record. -/
theorem Filed.modify (h : Filed n expiry i fs) {f : Inode → Inode}
    (hcontent : ∀ b, (fs.modify i f).mayContain i b → Torn expiry b) (hborn : ∀ x, (f x).born = x.born)
    (hmtime : (fs.inode i).born ≤ (f (fs.inode i)).mtime) : Filed n expiry i (fs.modify i f) := by
  have hino : (fs.modify i f).inode i = f (fs.inode i) := inode_modify_self h.lt
  refine ⟨h.view, h.alone, hcontent, ?_, ?_⟩
  · rw [hino, hborn]; exact hmtime
  · rw [hino, hborn]; exact h.born_le_clock

theorem Filed.truncate (h : Filed n expiry i fs) : Filed n expiry i (fs.truncate i) := by
  refine h.modify (fun b hb => ?_) (fun _ => rfl) h.born_le_clock
  have hnil : Torn expiry [] := (h.content _ (.inl rfl)).shortened List.nil_prefix
  unfold mayContain at hb
  rw [inode_modify_self h.lt] at hb
  rcases hb with rfl | rfl | ⟨u, hu, hb⟩
  · exact hnil
  · exact h.content _ (.inr (.inl rfl))
  · rcases List.mem_cons.mp hu with rfl | hu
    · exact hnil.shortened hb
    · exact h.content _ (.inr (.inr ⟨u, hu, hb⟩))

/-- Octets are written to the empty file. -/
theorem Filed.write (h : Filed n expiry i fs) (hempty : (fs.inode i).cached = []) {b : Bytes}
    (hb : Torn expiry b) : Filed n expiry i (fs.write i b) := by
  refine h.modify (fun c hc => ?_) (fun _ => rfl) h.born_le_clock
  unfold mayContain at hc
  rw [inode_modify_self h.lt] at hc
  simp only [hempty, List.nil_append] at hc
  rcases hc with rfl | rfl | ⟨u, hu, hc⟩
  · exact hb
  · exact h.content _ (.inr (.inl rfl))
  · rcases List.mem_cons.mp hu with rfl | hu
    · exact hb.shortened hc
    · exact h.content _ (.inr (.inr ⟨u, hu, hc⟩))

/-- Any file is fsynced. -/
theorem Filed.sync (h : Filed n expiry i fs) (j : Nat) : Filed n expiry i (fs.sync j) := by
  by_cases hj : j = i
  · subst hj
    refine h.modify (fun b hb => ?_) (fun _ => rfl) h.born_le_mtime
    unfold mayContain at hb
    rw [inode_modify_self h.lt] at hb
    rcases hb with rfl | rfl | ⟨u, hu, -⟩
    · exact h.content _ (.inl rfl)
    · exact h.content _ (.inl rfl)
    · simp at hu
  · exact h.modify_ne hj

/-- A file is created under another name. -/
theorem Filed.create (h : Filed n expiry i fs) (hm : m ≠ n) : Filed n expiry i (fs.create m) := by
  have hino : (fs.create m).inode i = fs.inode i := inode_create_old h.lt
  refine ⟨?_, fun k hk hmem => ?_, fun b hb => h.content b ?_, ?_, ?_⟩
  · rw [view_create, if_neg hm.symm]
    exact h.view
  · rcases mem_mayHold_create.mp hmem with hmem | ⟨-, hi⟩
    · exact h.alone k hk hmem
    · have hlt := h.lt
      simp only [Option.some.injEq, Entry.file.injEq] at hi
      omega
  · simpa only [mayContain, hino] using hb
  · rw [hino]; exact h.born_le_mtime
  · rw [hino]; exact h.born_le_clock

/-- A name that is not there is created: the file is new. -/
theorem filed_create (hgood : Torn expiry []) : Filed n expiry fs.inodes.length (fs.create n) := by
  refine ⟨by simp [view_create], fun k hk hmem => ?_, fun b hb => ?_, ?_, ?_⟩
  · rcases mem_mayHold_create.mp hmem with hmem | ⟨hkn, -⟩
    · exact absurd (lt_of_mem_mayHold hmem) (Nat.lt_irrefl _)
    · exact hk hkn
  · unfold mayContain at hb
    rw [inode_create_new] at hb
    simp only [List.not_mem_nil, false_and, exists_false, or_false, or_self] at hb
    exact hb ▸ hgood
  · rw [inode_create_new]
  · rw [inode_create_new]
    exact Int.le_refl _

/-- A file that is filed under a synced entry is kept. -/
theorem Filed.kept (h : Filed n expiry i fs) (hexpires : expiry.atMost ((fs.inode i).born + retention) = true) :
    Kept retention n expiry i fs.syncDir :=
  ⟨h.syncDir, h.view, rfl, hexpires⟩

theorem Kept.tick (h : Kept retention n expiry i fs) (d : Nat) : Kept retention n expiry i (fs.tick d) :=
  ⟨h.toFiled.tick d, h.disk, h.pending, h.expires⟩

theorem Kept.syncDir (h : Kept retention n expiry i fs) : Kept retention n expiry i fs.syncDir :=
  h.toFiled.kept h.expires

/-- Writing to a file keeps it, where what is written is no less filed. -/
theorem Kept.modify {f : Inode → Inode} (h : Kept retention n expiry i fs)
    (hfiled : Filed n expiry i (fs.modify j f)) (hborn : ∀ x, (f x).born = x.born) :
    Kept retention n expiry i (fs.modify j f) := by
  refine ⟨hfiled, h.disk, h.pending, ?_⟩
  by_cases hj : j = i
  · subst hj
    rw [inode_modify_self h.lt, hborn]
    exact h.expires
  · rw [inode_modify_ne (Ne.symm hj)]
    exact h.expires

/-- Creating another file keeps this one. -/
theorem Kept.create (h : Kept retention n expiry i fs) (hm : m ≠ n) : Kept retention n expiry i (fs.create m) := by
  refine ⟨h.toFiled.create hm, h.disk, ?_, ?_⟩
  · simp [Fs.create, DirOp.effect, hm.symm, h.pending]
  · rw [inode_create_old h.lt]
    exact h.expires

/-- Removing another file keeps this one. -/
theorem Kept.unlink (h : Kept retention n expiry i fs) (hm : m ≠ n) : Kept retention n expiry i (fs.unlink m) := by
  refine ⟨⟨?_, fun k hk hmem => ?_, h.content, h.born_le_mtime, h.born_le_clock⟩, h.disk, ?_, h.expires⟩
  · rw [view_unlink, if_neg hm.symm]
    exact h.view
  · rcases mem_mayHold_unlink.mp hmem with hmem | ⟨-, hi⟩
    · exact h.alone k hk hmem
    · simp at hi
  · simp [Fs.unlink, DirOp.effect, hm.symm, h.pending]

/-- No power cut takes away the entry of a kept file. -/
theorem Kept.mayHold (h : Kept retention n expiry i fs) : fs.mayHold n = [some (.file i)] := by
  rw [Fs.mayHold, h.disk, h.pending]

/-- A power cut loses neither the entry nor what the record says of its expiry. -/
theorem Kept.cut (h : Kept retention n expiry i fs) (hcut : fs.Cut fs') : Kept retention n expiry i fs' := by
  have hino := hcut.inode h.lt
  have hview : fs'.view n = some (.file i) := by
    have hmem := hcut.view_mem_mayHold n
    rwa [h.mayHold, List.mem_singleton] at hmem
  refine ⟨⟨hview, fun k hk hmem => h.alone k hk (hcut.mem_mayHold hmem), fun b hb =>
    h.content b (hcut.mayContain h.lt hb), ?_, ?_⟩, ?_, by rw [hcut.pending]; rfl, ?_⟩
  · rw [hino.born]; exact hino.mtime_ge
  · rw [hino.born]; exact h.born_le_clock.trans hcut.clock
  · simpa [Fs.view, dir, hcut.pending] using hview
  · rw [hino.born]; exact h.expires

end Files

/-! ### What the calls keep -/

/-- The grant has expired, or its record is kept. -/
def Guarded (retention : Int) (n : JsString) (expiry : Decimal) (fs : Fs) : Prop :=
  expiry.before fs.clock = true ∨ ∃ i, Kept retention n expiry i fs

/-- A file open for writing `record`: if it is the record's own file, it is empty and `record` is good. -/
def Fillable (retention : Int) (n : JsString) (expiry : Decimal) (record : Json) (j : Nat) (fs : Fs) : Prop :=
  expiry.before fs.clock = true ∨ ∃ i, Kept retention n expiry i fs ∧
    (j = i → (fs.inode i).cached = [] ∧ GoodRecord expiry record)

section Calls

variable {store : JtiBurnStore} {retention : Int} {n : JsString} {expiry : Decimal} {fs fs' : Fs}

theorem Guarded.tick (h : Guarded retention n expiry fs) (d : Nat) : Guarded retention n expiry (fs.tick d) := by
  rcases h with h | ⟨i, h⟩
  · exact .inl (Decimal.before_mono h (by simp [Fs.tick]))
  · exact .inr ⟨i, h.tick d⟩

/-- Time passes without harm. -/
theorem Guarded.stable : Stable (Guarded retention n expiry) :=
  fun _ d h => h.tick d

theorem Guarded.syncDir (h : Guarded retention n expiry fs) : Guarded retention n expiry fs.syncDir :=
  h.imp_right fun ⟨i, h⟩ => ⟨i, h.syncDir⟩

/-- A power cut keeps the burn guarded. -/
theorem Guarded.cut (h : Guarded retention n expiry fs) (hcut : fs.Cut fs') : Guarded retention n expiry fs' := by
  rcases h with h | ⟨i, h⟩
  · exact .inl (Decimal.before_mono h hcut.clock)
  · exact .inr ⟨i, h.cut hcut⟩

/-- A file that can be filled is guarded. -/
theorem Fillable.guarded {record : Json} {j : Nat} (h : Fillable retention n expiry record j fs) :
    Guarded retention n expiry fs :=
  h.imp_right fun ⟨i, h, _⟩ => ⟨i, h⟩

theorem Fillable.stable {record : Json} {j : Nat} : Stable (Fillable retention n expiry record j) := by
  rintro fs d (h | ⟨i, h, hj⟩)
  · exact .inl (Decimal.before_mono h (by simp [Fs.tick]))
  · exact .inr ⟨i, h.tick d, hj⟩

/-- The octets one write takes over. -/
theorem torn_take {record : Json} (h : GoodRecord expiry record) (k : Nat) :
    Torn expiry ((Utf8.encode (Json.stringify record)).take k) :=
  ⟨record, h, List.take_prefix _ _⟩

/-- Any part of the record that is written keeps the burn guarded. -/
theorem Fillable.write {record : Json} {j : Nat} (h : Fillable retention n expiry record j fs) (k : Nat) :
    Guarded retention n expiry (fs.write j ((Utf8.encode (Json.stringify record)).take k)) := by
  rcases h with h | ⟨i, h, hj⟩
  · exact .inl h
  · refine .inr ⟨i, h.modify ?_ fun _ => rfl⟩
    by_cases hji : j = i
    · subst hji
      exact h.toFiled.write (hj rfl).1 (torn_take (hj rfl).2 k)
    · exact h.toFiled.modify_ne hji

theorem Guarded.sync (h : Guarded retention n expiry fs) (j : Nat) : Guarded retention n expiry (fs.sync j) :=
  h.imp_right fun ⟨i, h⟩ => ⟨i, h.modify (h.toFiled.sync j) fun _ => rfl⟩

/-- A call that leaves the directory alone. -/
theorem guarded_touch : Triple Rough (Guarded retention n expiry) Prog.touch
    (fun _ => Guarded retention n expiry) (fun _ => Guarded retention n expiry) (Guarded retention n expiry) :=
  Triple.touch Guarded.stable (fun _ _ h => h) fun _ _ _ h => h

/-- Syncing the directory keeps the burn guarded. -/
theorem fsyncDir_guarded :
    Triple Rough (Guarded retention n expiry) Prog.fsyncDir (fun _ => Guarded retention n expiry)
      (fun _ => Guarded retention n expiry) (Guarded retention n expiry) :=
  Triple.syscall Guarded.stable (fun _ _ h => h) (fun _ _ _ h => h) (fun _ _ _ h _ => h.syncDir) (by simp)

theorem now_guarded :
    Triple Rough (Guarded retention n expiry) Prog.now (fun t fs => Guarded retention n expiry fs ∧ fs.clock = t)
      (fun _ => Guarded retention n expiry) (Guarded retention n expiry) :=
  Triple.now Guarded.stable fun _ _ h => h

/-- Filling a record keeps the burn guarded, wherever it stops. -/
theorem fillRecord_guarded (record : Json) (j : Nat) :
    Triple Rough (Fillable retention n expiry record j) (JtiBurnStore.fillRecord record j)
      (fun _ => Guarded retention n expiry) (fun _ => Guarded retention n expiry) (Guarded retention n expiry) := by
  refine Triple.finally_ (Q := fun _ => Guarded retention n expiry) (F := fun _ => Guarded retention n expiry) ?_
    (fun _ => guarded_touch) fun _ => guarded_touch
  refine Triple.bind (Q := fun _ => Guarded retention n expiry) ?_ fun _ => ?_
  · refine Triple.syscall Fillable.stable (fun _ _ h => h.guarded) (fun _ _ _ h => h.guarded) ?_ (by simp)
    rintro short fs k h -
    exact h.write _
  · exact Triple.syscall Guarded.stable (fun _ _ h => h) (fun _ _ _ h => h) (fun _ _ _ h _ => h.sync j) (by simp)

/-- Looking at a record changes nothing. -/
theorem readRecord_frame {P : Fs → Prop} (hP : Stable P) (path : JsString) :
    Triple Rough P (JtiBurnStore.readRecord path) (fun _ => P) (fun _ _ => False) P := by
  apply Triple.tryCatch (F := fun _ => P)
  · apply Triple.bind (Triple.readFile hP fun _ _ h => h)
    exact fun _ => Triple.pure fun _ h => h.1
  · exact fun _ => Triple.pure fun _ h => h

/-- Whatever is read of the record, if it is readable it is a good one. -/
theorem readRecord_guarded (path : JsString) :
    Triple Rough (Guarded retention n expiry) (JtiBurnStore.readRecord path)
      (fun r fs => Guarded retention n expiry fs ∧ (path = n → ∀ record, r = some record →
        isUnreadable record = false → expiry.before fs.clock = true ∨ GoodRecord expiry record))
      (fun _ _ => False) (Guarded retention n expiry) := by
  have hunreadable : isUnreadable unreadableRecord = true := rfl
  apply Triple.tryCatch (F := fun _ => Guarded retention n expiry)
  · apply Triple.bind (Triple.readFile Guarded.stable fun _ _ h => h)
    intro bytes
    apply Triple.pure
    rintro fs ⟨hguard, i, hview, rfl⟩
    refine ⟨hguard, ?_⟩
    rintro rfl record hrecord hreadable
    refine hguard.imp_right fun ⟨i', h⟩ => ?_
    obtain rfl : i' = i := by simpa [h.view] using hview
    have htorn := h.content _ (.inl rfl)
    rcases hread : asBurnRecord (Utf8.decode (fs.inode i').cached) with _ | read
    · rw [hread] at hrecord
      obtain rfl : unreadableRecord = record := Option.some.inj hrecord
      rw [hunreadable] at hreadable
      simp at hreadable
    · rw [hread] at hrecord
      obtain rfl : read = record := Option.some.inj hrecord
      exact htorn.read hread
  · intro e
    apply Triple.pure
    refine fun fs h => ⟨h, fun _ record hrecord hreadable => ?_⟩
    split at hrecord
    · simp at hrecord
    · obtain rfl := Option.some.inj hrecord
      rw [hunreadable] at hreadable
      simp at hreadable

/-- The check that the directory is still the same one touches nothing. -/
theorem assertStillPinned_frame {P : Fs → Prop} (hP : Stable P) :
    Triple Rough P store.assertStillPinned (fun _ => P) (fun _ => P) P :=
  Triple.tryCatch (F := fun _ => P) (Triple.touch hP (fun _ _ h => h) fun _ _ _ h => h) fun _ =>
    Triple.throw fun _ h => h

/-- So does what `record` does before it writes. -/
theorem recordRead_frame {P : Fs → Prop} (hP : Stable P) (jti : JsString) :
    Triple Rough P (store.recordRead jti) (fun _ => P) (fun _ => P) P := by
  apply Triple.bind (assertStillPinned_frame hP)
  intro _
  exact (readRecord_frame hP _).conseq (fun _ h => h) (fun _ _ h => h) (fun _ _ h => h.elim) fun _ h => h

/-- A burn of any jti. -/
theorem burn_guarded (jti : JsString) (expiresAt : Decimal) :
    Triple Rough (Guarded retention n expiry) (store.burn jti expiresAt) (fun _ => Guarded retention n expiry)
      (fun _ => Guarded retention n expiry) (Guarded retention n expiry) := by
  refine Triple.bind (assertStillPinned_frame Guarded.stable) fun _ => ?_
  refine Triple.bind (Q := fun _ => Guarded retention n expiry) ?_ fun created => ?_
  · refine Triple.tryCatch (F := fun _ => Guarded retention n expiry) ?_ fun e => ?_
    · refine Triple.bind now_guarded fun burnedAt => Triple.pre ?_ fun _ h => h.1
      refine Triple.bind (Q := Fillable retention n expiry (freshRecord jti expiresAt burnedAt)) ?_ fun fd =>
        Triple.bind (fillRecord_guarded _ fd) fun _ => Triple.pure fun _ h => h
      refine Triple.syscall Guarded.stable (fun _ _ h => h) (fun _ _ _ h => h) ?_ ?_
      · intro _ fs fd h hact
        split at hact
        · simp at hact
        · rename_i hnone
          simp only [Except.ok.injEq] at hact
          subst hact
          refine h.imp_right fun ⟨i, h⟩ => ⟨i, h.create ?_, fun hi => ?_⟩
          · rintro rfl
            rw [h.view] at hnone
            simp at hnone
          · have hlt := h.lt
            omega
      · intro _ fs e h hact
        split at hact
        · exact h
        · simp at hact
    · split
      · exact Triple.pure fun _ h => h
      · exact Triple.throw fun _ h => h
  · split
    · refine Triple.bind (Q := fun _ => Guarded retention n expiry) ?_ fun _ => Triple.pure fun _ h => h
      exact Triple.tryCatch fsyncDir_guarded fun _ => Triple.throw fun _ h => h
    · exact Triple.pure fun _ h => h

/-- What `record` has read where it rewrites this grant's record, so that the new one is good. -/
def Rewritable (n : JsString) (expiry : Decimal) (path : JsString) (patch : BurnPatch) (existing : Option Json)
    (fs : Fs) : Prop :=
  path = n → expiry.before fs.clock = true ∨ (KeepsExpiry expiry patch existing ∧
    ∀ record, existing = some record → isUnreadable record = false → GoodRecord expiry record)

theorem Rewritable.stable {path : JsString} {patch : BurnPatch} {existing : Option Json} :
    Stable (Rewritable n expiry path patch existing) :=
  fun _ _ h hn => (h hn).imp_left fun hb => Decimal.before_mono hb (by simp [Fs.tick])

/-- The record a patch is applied to: the patched one is good, if it is this grant's. -/
theorem recordBase_guarded (jti : JsString) (patch : BurnPatch) (existing : Option Json) :
    Triple Rough (fun fs => Guarded retention n expiry fs ∧
        Rewritable n expiry (store.recordPath jti) patch existing fs)
      (JtiBurnStore.recordBase jti existing)
      (fun base fs => Guarded retention n expiry fs ∧ (store.recordPath jti = n →
        expiry.before fs.clock = true ∨ GoodRecord expiry (base.assign patch.fields)))
      (fun _ => Guarded retention n expiry) (Guarded retention n expiry) := by
  have hfresh : (∀ record, existing = some record → isUnreadable record = true) →
      Triple Rough (fun fs => Guarded retention n expiry fs ∧
          Rewritable n expiry (store.recordPath jti) patch existing fs)
        (Prog.now >>= fun burnedAt => pure (freshRecord jti (.ofInt 0) burnedAt))
        (fun base fs => Guarded retention n expiry fs ∧ (store.recordPath jti = n →
          expiry.before fs.clock = true ∨ GoodRecord expiry (base.assign patch.fields)))
        (fun _ => Guarded retention n expiry) (Guarded retention n expiry) := by
    intro hunreadable
    apply Triple.bind (Triple.now (Stable.and Guarded.stable Rewritable.stable) fun _ _ h => h.1)
    intro burnedAt
    apply Triple.pure
    rintro fs ⟨⟨hguard, hrewritable⟩, -⟩
    refine ⟨hguard, fun hn => (hrewritable hn).imp_right fun ⟨hkeeps, _⟩ => ?_⟩
    unfold KeepsExpiry at hkeeps
    cases hx : patch.expiresAt with
    | some x =>
        rw [hx] at hkeeps
        apply (goodRecord_fresh jti (.ofInt 0) burnedAt).assign
        · intro y hy
          obtain rfl := Option.some.inj (hx.symm.trans hy)
          exact hkeeps
        · simp [hx]
    | none =>
        rw [hx] at hkeeps
        obtain ⟨record, hrecord, hreadable⟩ := hkeeps
        simp [hunreadable record hrecord] at hreadable
  cases existing with
  | none => exact hfresh (by simp)
  | some record =>
      cases hread : isUnreadable record with
      | true =>
          simp only [JtiBurnStore.recordBase, hread, if_true]
          exact hfresh (by simp [hread])
      | false =>
          simp only [JtiBurnStore.recordBase, hread, Bool.false_eq_true, if_false]
          apply Triple.pure
          rintro fs ⟨hguard, hrewritable⟩
          refine ⟨hguard, fun hn => (hrewritable hn).imp_right fun ⟨hkeeps, hgood⟩ => ?_⟩
          unfold KeepsExpiry at hkeeps
          apply (hgood record rfl hread).assign
          · intro x hx
            rwa [hx] at hkeeps
          · exact fun _ _ h => h

/-- A record's file opened for rewriting. -/
theorem openTrunc_guarded (path : JsString) (record : Json) :
    Triple Rough (fun fs => Guarded retention n expiry fs ∧ (path = n →
        expiry.before fs.clock = true ∨ GoodRecord expiry record))
      (Prog.openTrunc path) (Fillable retention n expiry record) (fun _ => Guarded retention n expiry)
      (Guarded retention n expiry) := by
  have hstable : Stable fun fs => Guarded retention n expiry fs ∧ (path = n →
      expiry.before fs.clock = true ∨ GoodRecord expiry record) := by
    rintro fs d ⟨hguard, hrecord⟩
    exact ⟨hguard.tick d, fun hn => (hrecord hn).imp_left fun hb => Decimal.before_mono hb (by simp [Fs.tick])⟩
  apply Triple.syscall hstable (fun _ _ h => h.1) fun _ _ _ h => h.1
  · intro _ fs fd h hact
    obtain ⟨hguard, hrecord⟩ := h
    split at hact
    · rename_i hnone
      simp only [Except.ok.injEq] at hact
      subst hact
      simp only
      refine hguard.imp_right ?_
      rintro ⟨i, h⟩
      refine ⟨i, h.create ?_, fun hi => ?_⟩
      · intro hn
        rw [hn, h.view] at hnone
        simp at hnone
      · have hlt := h.lt
        omega
    · rename_i j hview
      simp only [Except.ok.injEq] at hact
      subst hact
      simp only
      by_cases hn : path = n
      · rcases hrecord hn with hbefore | hgood
        · exact .inl hbefore
        · refine hguard.imp_right ?_
          rintro ⟨i, h⟩
          obtain rfl : i = j := by simpa [hn, h.view] using hview
          refine ⟨i, h.modify h.toFiled.truncate fun _ => rfl, fun _ => ⟨?_, hgood⟩⟩
          show ((fs.modify i _).inode i).cached = []
          rw [inode_modify_self h.lt]
      · refine hguard.imp_right ?_
        rintro ⟨i, h⟩
        have hji : j ≠ i := by
          rintro rfl
          exact h.alone _ hn (hview ▸ fs.view_mem_mayHold _)
        exact ⟨i, h.modify (h.toFiled.modify_ne hji) fun _ => rfl, fun hji' => absurd hji' hji⟩
    · cases hact
    · cases hact
  · intro _ fs e h hact
    split at hact
    · cases hact
    · cases hact
    · exact h.1
    · exact h.1

/-- A record rewritten: another jti's, or this one's with an expiry that is kept. -/
theorem recordWrite_guarded (jti : JsString) (patch : BurnPatch) (existing : Option Json) :
    Triple Rough (fun fs => Guarded retention n expiry fs ∧
        Rewritable n expiry (store.recordPath jti) patch existing fs)
      (store.recordWrite jti patch existing) (fun _ => Guarded retention n expiry)
      (fun _ => Guarded retention n expiry) (Guarded retention n expiry) := by
  apply Triple.bind (recordBase_guarded jti patch existing)
  intro base
  apply Triple.bind (openTrunc_guarded (store.recordPath jti) (base.assign patch.fields))
  intro fd
  apply Triple.bind (fillRecord_guarded _ fd)
  intro _
  exact fsyncDir_guarded

/-- A readable record of the grant is a good one, unless the grant has expired. -/
theorem recordRead_guarded (jti : JsString) :
    Triple Rough (Guarded retention n expiry) (store.recordRead jti)
      (fun r fs => Guarded retention n expiry fs ∧ (store.recordPath jti = n → ∀ record, r = some record →
        isUnreadable record = false → expiry.before fs.clock = true ∨ GoodRecord expiry record))
      (fun _ => Guarded retention n expiry) (Guarded retention n expiry) := by
  apply Triple.bind (assertStillPinned_frame Guarded.stable)
  intro _
  exact (readRecord_guarded _).conseq (fun _ h => h) (fun _ _ h => h) (fun _ _ h => h.elim) fun _ h => h

/-- A lookup keeps the burn guarded. -/
theorem lookup_guarded (jti : JsString) :
    Triple Rough (Guarded retention n expiry) (store.lookup jti) (fun _ => Guarded retention n expiry)
      (fun _ => Guarded retention n expiry) (Guarded retention n expiry) :=
  (readRecord_frame Guarded.stable _).conseq (fun _ h => h) (fun _ _ h => h) (fun _ _ h => h.elim) fun _ h => h

/-- An anchor that is past its retention no earlier than the grant expires. -/
def Anchors (retention : Int) (n : JsString) (expiry : Decimal) (name : JsString) (anchor : Decimal) (fs : Fs) :
    Prop :=
  name = n → ∀ t, fs.clock ≤ t → anchor.before (t - retention) = true → expiry.before t = true

theorem Anchors.stable {name : JsString} {anchor : Decimal} : Stable (Anchors retention n expiry name anchor) := by
  intro fs d h hn t ht
  apply h hn
  simp only [Fs.tick] at ht
  omega

/-- After the expiry any anchor will do. -/
theorem anchors_expired {name : JsString} {anchor : Decimal} (h : expiry.before fs.clock = true) :
    Anchors retention n expiry name anchor fs :=
  fun _ _ ht _ => Decimal.before_mono h ht

/-- A time no earlier than the record's creation. -/
theorem Kept.anchors_ofInt {i : Nat} (h : Kept retention n expiry i fs) {name : JsString} {t : Int}
    (ht : (fs.inode i).born ≤ t) : Anchors retention n expiry name (.ofInt t) fs := by
  intro _ u _ hbefore
  have hlt : t < u - retention := by
    simpa [Decimal.before, Decimal.ofInt] using hbefore
  apply Decimal.before_of_atMost h.expires
  omega

/-- An expiry no earlier than the grant's. -/
theorem Kept.anchors_outlasting {i : Nat} (h : Kept retention n expiry i fs) {name : JsString} {x : Decimal}
    (hx : x.Outlasts expiry) : Anchors retention n expiry name x fs := by
  intro _ u hu hbefore
  by_cases hretention : 0 ≤ retention
  · exact hx u (Decimal.before_mono hbefore (by omega))
  · have hborn := h.born_le_clock
    apply Decimal.before_of_atMost h.expires
    omega

theorem Guarded.anchors_ofInt (h : Guarded retention n expiry fs) {name : JsString} {t : Int}
    (ht : ∀ i, Kept retention n expiry i fs → (fs.inode i).born ≤ t) :
    Anchors retention n expiry name (.ofInt t) fs := by
  rcases h with h | ⟨i, h⟩
  · exact anchors_expired h
  · exact h.anchors_ofInt (ht i h)

/-- What pruning reads of a record: a good one where it is this grant's and readable. -/
def Reads (n : JsString) (expiry : Decimal) (name : JsString) (record : Json) (fs : Fs) : Prop :=
  name = n → isUnreadable record = false → expiry.before fs.clock = true ∨ GoodRecord expiry record

/-- The anchor of a record keeps the file until the expiry. -/
theorem anchor_guarded (name : JsString) (record : Json) :
    Triple Rough (fun fs => Guarded retention n expiry fs ∧ Reads n expiry name record fs)
      (JtiBurnStore.anchor name record)
      (fun a fs => Guarded retention n expiry fs ∧ Anchors retention n expiry name a fs)
      (fun _ => Guarded retention n expiry) (Guarded retention n expiry) := by
  unfold JtiBurnStore.anchor
  cases hread : isUnreadable record with
  | false =>
      apply Triple.pure
      rintro fs ⟨hguard, hreads⟩
      refine ⟨hguard, fun hn => ?_⟩
      rcases hreads hn hread with hbefore | hgood
      · exact anchors_expired hbefore hn
      · obtain ⟨x, hget, houtlasts⟩ := hgood.expiresAt
        rw [hget]
        rcases hguard with hbefore | ⟨i, h⟩
        · exact anchors_expired hbefore hn
        · exact h.anchors_outlasting houtlasts hn
  | true =>
      apply Triple.pre (P := Guarded retention n expiry) _ fun _ h => h.1
      apply Triple.tryCatch (F := fun _ => Guarded retention n expiry)
      · apply Triple.bind (Q := fun t fs => Guarded retention n expiry fs ∧
          (name = n → ∀ i, Kept retention n expiry i fs → (fs.inode i).born ≤ t))
        · apply Triple.syscall Guarded.stable (fun _ _ h => h) fun _ _ _ h => h
          · intro _ fs t h hact
            split at hact
            · rename_i i hview
              obtain rfl := Except.ok.inj hact
              refine ⟨h, fun hn i' hkept => ?_⟩
              obtain rfl : i' = i := by simpa [hn, hkept.view] using hview
              exact hkept.born_le_mtime
            · cases hact
            · cases hact
          · intro _ fs e h hact
            split at hact <;> exact h
        · intro t
          apply Triple.pure
          rintro fs ⟨hguard, hborn⟩
          exact ⟨hguard, fun hn => hguard.anchors_ofInt (hborn hn) hn⟩
      · intro e
        apply Triple.bind now_guarded
        intro t
        apply Triple.pure
        rintro fs ⟨hguard, rfl⟩
        exact ⟨hguard, hguard.anchors_ofInt fun i h => h.born_le_clock⟩

/-- Removing an expired record keeps the burn guarded. -/
theorem Guarded.unlink (h : Guarded retention n expiry fs) {name : JsString}
    (hexpired : name = n → expiry.before fs.clock = true) : Guarded retention n expiry (fs.unlink name) := by
  by_cases hn : name = n
  · exact .inl (hexpired hn)
  · rcases h with h | ⟨i, h⟩
    · exact .inl h
    · exact .inr ⟨i, h.unlink hn⟩

/-- So does the call that removes it. -/
theorem unlink_guarded (name : JsString) :
    Triple Rough (fun fs => Guarded retention n expiry fs ∧ (name = n → expiry.before fs.clock = true))
      (Prog.unlink name) (fun _ => Guarded retention n expiry) (fun _ => Guarded retention n expiry)
      (Guarded retention n expiry) := by
  apply Triple.syscall
  · exact Stable.and Guarded.stable fun _ _ h hn => Decimal.before_mono (h hn) (by simp [Fs.tick])
  · exact fun _ _ h => h.1
  · exact fun _ _ _ h => h.1
  · intro _ fs _ h hact
    split at hact
    · cases hact
    · cases hact
    · exact h.1.unlink h.2
  · intro _ fs e h hact
    split at hact
    · exact h.1
    · exact h.1
    · cases hact

/-- A record is removed only once its grant has expired. -/
theorem pruneOne_guarded (name : JsString) :
    Triple Rough (Guarded store.retentionMs n expiry) (store.pruneOne name)
      (fun _ => Guarded store.retentionMs n expiry) (fun _ => Guarded store.retentionMs n expiry)
      (Guarded store.retentionMs n expiry) := by
  unfold JtiBurnStore.pruneOne
  split
  · apply Triple.bind ((readRecord_guarded name).conseq (fun _ h => h) (fun _ _ h => h) (fun _ _ h => h.elim)
      fun _ h => h)
    rintro (_ | record)
    · exact Triple.pure fun _ h => h.1
    · apply Triple.pre (P := fun fs => Guarded store.retentionMs n expiry fs ∧ Reads n expiry name record fs)
      · apply Triple.bind (anchor_guarded name record)
        intro anchor
        apply Triple.bind (Triple.now (Stable.and Guarded.stable Anchors.stable) fun _ _ h => h.1)
        intro now
        split
        · rename_i hbefore
          apply Triple.tryCatch (F := fun _ => Guarded store.retentionMs n expiry)
          · apply Triple.bind (Q := fun _ => Guarded store.retentionMs n expiry)
            · apply (unlink_guarded name).pre
              rintro fs ⟨⟨hguard, hanchors⟩, rfl⟩
              exact ⟨hguard, fun hn => hanchors hn _ (Int.le_refl _) hbefore⟩
            · exact fun _ => Triple.pure fun _ h => h
          · exact fun _ => Triple.pure fun _ h => h
        · exact Triple.pure fun _ h => h.1.1
      · rintro fs ⟨hguard, hreads⟩
        exact ⟨hguard, fun hn => hreads hn record rfl⟩
  · exact Triple.pure fun _ h => h

/-- The loop over the names removes expired records only. -/
theorem pruneLoop_guarded (names : List JsString) (removed : Nat) :
    Triple Rough (Guarded store.retentionMs n expiry) (store.pruneLoop names removed)
      (fun _ => Guarded store.retentionMs n expiry) (fun _ => Guarded store.retentionMs n expiry)
      (Guarded store.retentionMs n expiry) := by
  induction names generalizing removed with
  | nil => exact Triple.pure fun _ h => h
  | cons name names ih => exact Triple.bind (pruneOne_guarded name) fun _ => ih _

/-- Pruning keeps every burn that has not expired. -/
theorem pruneExpired_guarded :
    Triple Rough (Guarded store.retentionMs n expiry) store.pruneExpired
      (fun _ => Guarded store.retentionMs n expiry) (fun _ => Guarded store.retentionMs n expiry)
      (Guarded store.retentionMs n expiry) := by
  apply Triple.bind (Q := fun _ => Guarded store.retentionMs n expiry)
  · apply Triple.tryCatch (F := fun _ => Guarded store.retentionMs n expiry)
    · apply Triple.bind (Q := fun _ => Guarded store.retentionMs n expiry)
      · exact Triple.syscall Guarded.stable (fun _ _ h => h) (fun _ _ _ h => h) (fun _ _ _ h _ => h) (by simp)
      · exact fun _ => Triple.pure fun _ h => h
    · exact fun _ => Triple.pure fun _ h => h
  · rintro (_ | names)
    · exact Triple.pure fun _ h => h
    · exact pruneLoop_guarded names 0

end Calls

/-! ### A burn -/

section Burn

variable {store : JtiBurnStore} {retention : Int} {n : JsString} {expiry : Decimal}

/-- A good record's own file, open and empty. -/
theorem fillRecord_filed {record : Json} (hgood : GoodRecord expiry record) (j : Nat) :
    Triple Rough (fun fs => Filed n expiry j fs ∧ (fs.inode j).cached = []) (JtiBurnStore.fillRecord record j)
      (fun _ => Filed n expiry j) (fun _ _ => True) (fun _ => True) := by
  have hstable : Stable (Filed n expiry j) := fun _ d h => h.tick d
  apply Triple.finally_ (Q := fun _ => Filed n expiry j) (F := fun _ _ => True)
  · apply Triple.bind (Q := fun _ => Filed n expiry j)
    · apply Triple.syscall
      · exact Stable.and hstable fun _ _ h => h
      · exact fun _ _ _ => trivial
      · exact fun _ _ _ _ => trivial
      · rintro short fs k ⟨hfiled, hempty⟩ -
        exact hfiled.write hempty (torn_take hgood _)
      · exact fun _ _ _ _ _ => trivial
    · intro _
      exact Triple.syscall hstable (fun _ _ _ => trivial) (fun _ _ _ _ => trivial) (fun _ _ _ h _ => h.sync j)
        fun _ _ _ _ _ => trivial
  · exact fun _ => Triple.touch hstable (fun _ _ _ => trivial) fun _ _ _ _ => trivial
  · exact fun _ => Triple.touch (fun _ _ _ => trivial) (fun _ _ _ => trivial) fun _ _ _ _ => trivial

/-- A burn that says so has filed its record, durably. -/
theorem burn_files (jti : JsString) (expiresAt : Decimal) :
    Triple Rough (fun _ => True) (store.burn jti expiresAt)
      (fun r fs => r = .burned → ∃ i before, Filed (store.recordPath jti) expiresAt i before ∧ fs = before.syncDir)
      (fun _ _ => True) (fun _ => True) := by
  have htouch : Triple Rough (fun _ => True) Prog.touch (fun _ _ => True) (fun _ _ => True) fun _ => True :=
    Triple.touch (fun _ _ _ => trivial) (fun _ _ _ => trivial) fun _ _ _ _ => trivial
  apply Triple.bind (Triple.tryCatch htouch fun _ => Triple.throw fun _ _ => trivial)
  intro _
  apply Triple.bind (Q := fun created fs => created = true → ∃ i, Filed (store.recordPath jti) expiresAt i fs)
  · apply Triple.tryCatch (F := fun _ _ => True)
    · apply Triple.bind (Triple.now (fun _ _ _ => trivial) fun _ _ _ => trivial)
      intro burnedAt
      have hgood := goodRecord_fresh jti expiresAt burnedAt
      apply Triple.bind (Q := fun fd fs => Filed (store.recordPath jti) expiresAt fd fs ∧ (fs.inode fd).cached = [])
      · apply Triple.pre (P := fun _ => True) _ fun _ _ => trivial
        apply Triple.syscall (fun _ _ _ => trivial) (fun _ _ _ => trivial) fun _ _ _ _ => trivial
        · intro _ fs fd _ hact
          split at hact
          · cases hact
          · obtain rfl := Except.ok.inj hact
            refine ⟨filed_create ⟨_, hgood, List.nil_prefix⟩, ?_⟩
            rw [inode_create_new]
        · exact fun _ _ _ _ _ => trivial
      · intro fd
        apply Triple.bind (fillRecord_filed hgood fd)
        intro _
        exact Triple.pure fun _ h _ => ⟨fd, h⟩
    · intro e
      split
      · exact Triple.pure fun _ _ h => by cases h
      · exact Triple.throw fun _ _ => trivial
  · intro created
    split
    · rename_i hcreated
      apply Triple.bind (Q := fun _ fs => ∃ i before, Filed (store.recordPath jti) expiresAt i before ∧
        fs = before.syncDir)
      · apply Triple.tryCatch (F := fun _ _ => True)
        · apply Triple.syscall
          · exact fun fs d h hc => (h hc).imp fun i hi => hi.tick d
          · exact fun _ _ _ => trivial
          · exact fun _ _ _ _ => trivial
          · rintro _ fs _ h -
            obtain ⟨i, hi⟩ := h hcreated
            exact ⟨i, fs, hi, rfl⟩
          · exact fun _ _ _ _ _ => trivial
        · exact fun _ => Triple.throw fun _ _ => trivial
      · exact fun _ => Triple.pure fun _ h _ => h
    · exact Triple.pure fun _ _ h => by cases h

/-- A kept record refuses another burn of its jti. -/
theorem burn_kept (jti : JsString) (expiresAt : Decimal) :
    Triple Rough (fun fs => ∃ i, Kept retention (store.recordPath jti) expiry i fs) (store.burn jti expiresAt)
      (fun r _ => r = .alreadyBurned) (fun _ _ => True) (fun _ => True) := by
  have hstable : Stable fun fs => ∃ i, Kept retention (store.recordPath jti) expiry i fs :=
    fun _ d h => h.imp fun _ h => h.tick d
  apply Triple.bind (Q := fun _ fs => ∃ i, Kept retention (store.recordPath jti) expiry i fs)
  · apply Triple.tryCatch (F := fun _ _ => True)
    · exact Triple.touch hstable (fun _ _ _ => trivial) fun _ _ _ _ => trivial
    · exact fun _ => Triple.throw fun _ _ => trivial
  · intro _
    apply Triple.bind (Q := fun created _ => created = false)
    · apply Triple.tryCatch (F := fun _ _ => True)
      · apply Triple.bind (Triple.now hstable fun _ _ _ => trivial)
        intro _
        apply Triple.bind (Q := fun _ _ => False)
        · apply Triple.pre (P := fun fs => ∃ i, Kept retention (store.recordPath jti) expiry i fs) _ fun _ h => h.1
          apply Triple.syscall hstable (fun _ _ _ => trivial) fun _ _ _ _ => trivial
          · rintro _ fs fd ⟨i, h⟩ hact
            rw [h.view] at hact
            cases hact
          · exact fun _ _ _ _ _ => trivial
        · exact fun _ _ hw => hw.elim
      · intro e
        split
        · exact Triple.pure fun _ _ => rfl
        · exact Triple.throw fun _ _ => trivial
    · intro created
      split
      · rename_i hcreated
        intro _ hw
        simp [hcreated] at hw
      · exact Triple.pure fun _ _ => rfl

end Burn

/-! ### Runs -/

/-- What can happen to the burn directory: the calls, each under a script of faults, a restart of the
    broker and a power cut. -/
inductive BurnCall where
  | burn (jti : JsString) (expiresAt : Decimal) (script : List Turn)
  | record (jti : JsString) (patch : BurnPatch) (script : List Turn)
  | lookup (jti : JsString) (script : List Turn)
  | pruneExpired (script : List Turn)
  | restart (script : List Turn)
  | crash

/-- The process dies at a call, alone or with the power. -/
def Halts (fs fs' : Fs) : Prop :=
  fs' = fs ∨ fs.Cut fs'

def burnRuns (store : JtiBurnStore) : Lts Fs BurnCall where
  init _ := True
  next fs call fs' :=
    match call with
    | .burn jti expiresAt script => Leads Halts (store.burn jti expiresAt) script fs fs'
    | .record jti patch script => Leads Halts (store.record jti patch) script fs fs'
    | .lookup jti script => Leads Halts (store.lookup jti) script fs fs'
    | .pruneExpired script => Leads Halts store.pruneExpired script fs fs'
    | .restart script => Leads Halts Prog.touch script fs fs'
    | .crash => fs.Cut fs'

/-- The step is a burn of the jti that answers "burned". -/
def Burns (store : JtiBurnStore) (e : Lts.Edge Fs BurnCall) (jti : JsString) (expiresAt : Decimal) : Prop :=
  ∃ script, e.label = .burn jti expiresAt script ∧ (store.burn jti expiresAt ⟨e.src, script⟩).1 = .ok .burned

/-- The grant burned expires no later than the retention after its record was created. -/
def InTime (store : JtiBurnStore) (e : Lts.Edge Fs BurnCall) (jti : JsString) (expiresAt : Decimal) : Prop :=
  ∀ i, e.dst.view (store.recordPath jti) = some (.file i) →
    expiresAt.atMost ((e.dst.inode i).born + store.retentionMs) = true

/-- No jti is burned again before its grant has expired. -/
def BurnsOnce (store : JtiBurnStore) (es : List (Lts.Edge Fs BurnCall)) : Prop :=
  ∀ e f jti expiresAt expiresAt', Lts.Precedes es e f → Burns store e jti expiresAt →
    InTime store e jti expiresAt → Burns store f jti expiresAt' → expiresAt.before f.src.clock = true

/-- `record`, where it rewrites the record under the name `n`, reads a record there, or sets the expiry. -/
def Rewrites (store : JtiBurnStore) (n : JsString) (expiry : Decimal) (fs : Fs) : BurnCall → Prop
  | .record jti patch script => store.recordPath jti = n → ∀ existing,
      (store.recordRead jti ⟨fs, script⟩).1 = .ok existing → KeepsExpiry expiry patch existing
  | _ => True

/-- No record of an unexpired burn is rewritten without its expiry. -/
def RecordsKeep (store : JtiBurnStore) (es : List (Lts.Edge Fs BurnCall)) : Prop :=
  ∀ e f jti expiresAt, Lts.Precedes es e f → Burns store e jti expiresAt → InTime store e jti expiresAt →
    expiresAt.before f.src.clock = true ∨
      Rewrites store (store.recordPath jti) expiresAt f.src f.label

section Runs

variable {store : JtiBurnStore} {retention : Int} {n : JsString} {expiry : Decimal} {fs fs' : Fs}

/-- A run that stops early keeps the burn guarded. -/
theorem Guarded.halts (h : Guarded retention n expiry fs) (hhalts : Halts fs fs') :
    Guarded retention n expiry fs' := by
  rcases hhalts with rfl | hcut
  · exact h
  · exact h.cut hcut

/-- A program that keeps the record leaves it kept, wherever it is interrupted. -/
theorem Guarded.leads {α : Type} {p : Prog α} {script : List Turn}
    (hp : Triple Rough (Guarded retention n expiry) p (fun _ => Guarded retention n expiry)
      (fun _ => Guarded retention n expiry) (Guarded retention n expiry))
    (h : Guarded retention n expiry fs) (hleads : Leads Halts p script fs fs') :
    Guarded retention n expiry fs' :=
  hleads.holds (hp.ends h script) fun _ _ h hhalts => h.halts hhalts

/-- `record`, from what it reads on. -/
theorem record_ends (h : Guarded retention n expiry fs) {jti : JsString} {patch : BurnPatch} {script : List Turn}
    (hrewrites : expiry.before fs.clock = true ∨ Rewrites store n expiry fs (.record jti patch script)) :
    Guarded retention n expiry (store.record jti patch ⟨fs, script⟩).2.fs := by
  have hexpired : Stable fun fs => expiry.before fs.clock = true :=
    fun _ _ hb => Decimal.before_mono hb (by simp [Fs.tick])
  rcases hread : (store.recordRead jti ⟨fs, script⟩).1 with stop | existing
  · have hstop : (store.record jti patch ⟨fs, script⟩).2 = (store.recordRead jti ⟨fs, script⟩).2 :=
      congrArg Prod.snd (Prog.bind_of_error hread)
    rw [hstop]
    exact (recordRead_frame Guarded.stable jti).ends h script
  · have hrecord : store.record jti patch ⟨fs, script⟩
        = store.recordWrite jti patch existing (store.recordRead jti ⟨fs, script⟩).2 := Prog.bind_of_ok hread
    rw [hrecord]
    apply (recordWrite_guarded jti patch existing).ends
    refine ⟨(recordRead_frame Guarded.stable jti).returns h (fun _ _ => trivial) hread, ?_⟩
    rcases hrewrites with hbefore | hrewrites
    · exact fun _ => .inl ((recordRead_frame hexpired jti).returns hbefore (fun _ _ => trivial) hread)
    · intro hn
      obtain ⟨-, hgood⟩ := (recordRead_guarded jti).returns h (fun _ _ => trivial) hread
      by_cases hb : expiry.before (store.recordRead jti ⟨fs, script⟩).2.fs.clock = true
      · exact .inl hb
      · refine .inr ⟨hrewrites hn existing hread, fun record hrecord hreadable => ?_⟩
        exact (hgood hn record hrecord hreadable).resolve_left hb

/-- One step keeps the record. -/
theorem Guarded.next (h : Guarded store.retentionMs n expiry fs) {call : BurnCall}
    (hrewrites : expiry.before fs.clock = true ∨ Rewrites store n expiry fs call)
    (hnext : (burnRuns store).next fs call fs') : Guarded store.retentionMs n expiry fs' := by
  cases call with
  | burn jti expiresAt script => exact h.leads (burn_guarded jti expiresAt) hnext
  | record jti patch script =>
      exact Leads.holds hnext (record_ends h hrewrites) fun _ _ h hhalts => h.halts hhalts
  | lookup jti script => exact h.leads (lookup_guarded jti) hnext
  | pruneExpired script => exact h.leads pruneExpired_guarded hnext
  | restart script => exact h.leads guarded_touch hnext
  | crash => exact h.cut hnext

/-- A burn in time leaves its record kept. -/
theorem guarded_burn {e : Lts.Edge Fs BurnCall} (hnext : (burnRuns store).next e.src e.label e.dst)
    {jti : JsString} {expiresAt : Decimal} (hburns : Burns store e jti expiresAt)
    (htime : InTime store e jti expiresAt) :
    Guarded store.retentionMs (store.recordPath jti) expiresAt e.dst := by
  obtain ⟨script, hlabel, hburned⟩ := hburns
  rw [hlabel] at hnext
  have hdst : e.dst = _ := Leads.eq_of_returns hnext hburned
  obtain ⟨i, before, hfiled, hfs⟩ := (burn_files jti expiresAt).returns trivial (fun _ _ => trivial) hburned rfl
  rw [← hdst] at hfs
  refine .inr ⟨i, ?_⟩
  rw [hfs]
  apply hfiled.kept
  have hexpires := htime i
  rw [hfs] at hexpires
  exact hexpires hfiled.view

/-- A jti is burned once until its grant expires, in every run in which no record of an unexpired burn is
    rewritten without its expiry. -/
theorem burn_once {es : List (Lts.Edge Fs BurnCall)} (h : (burnRuns store).Exec es fs)
    (hkeep : RecordsKeep store es) : BurnsOnce store es := by
  intro e f jti expiresAt expiresAt' hef hburns htime hagain
  have he : e ∈ es := by
    obtain ⟨pre, mid, post, rfl⟩ := hef
    simp
  have hguarded : Guarded store.retentionMs (store.recordPath jti) expiresAt f.src := by
    apply h.between hef (P := Guarded store.retentionMs (store.recordPath jti) expiresAt)
    · intro d hd hed hguard
      exact hguard.next (hkeep e d jti expiresAt hed hburns htime) (h.next_of_mem hd)
    · exact guarded_burn (h.next_of_mem he) hburns htime
  rcases hguarded with hbefore | hkept
  · exact hbefore
  · obtain ⟨script, -, hburned⟩ := hagain
    have hrefused := (burn_kept jti expiresAt').returns hkept (fun _ _ => trivial) hburned
    cases hrefused

end Runs

/-! ### A grant burned, recorded and pruned -/

/-- A ledger, with the SHA-256 of the one jti it is asked about. -/
def sampleLedger : JtiBurnStore where
  dir := js "/var/lib/ownerswitch/burns"
  retentionMs := JtiBurnStore.defaultRetentionMs
  digest _ := js "d0bdcaf094d6f95a61d982808488d65764167aaba8e079216ad68674b7b54821"

def sampleJti : JsString :=
  js "grant_1"

/-- Five minutes after the burn. -/
def sampleExpiry : Decimal :=
  .ofInt 1000000300000

def performedPatch : BurnPatch where
  jti := none
  expiresAt := none
  state := .performed
  burnedAt := none
  outcome := none
  merged := some true
  sha := none
  message := none
  error := none

def beforeBurn : Fs :=
  Fs.empty.tick 1000000000000

def afterBurn : Fs :=
  (sampleLedger.burn sampleJti sampleExpiry ⟨beforeBurn, []⟩).2.fs

/-- The outcome recorded while the record cannot be read. -/
def unreadScript : List Turn :=
  [⟨0, .none⟩, ⟨0, .fail (js "EIO: i/o error, read")⟩]

def afterRecord (script : List Turn) : Fs :=
  (sampleLedger.record sampleJti performedPatch ⟨afterBurn, script⟩).2.fs

def afterPrune : Fs :=
  (sampleLedger.pruneExpired ⟨afterRecord unreadScript, []⟩).2.fs

def afterSecondBurn : Fs :=
  (sampleLedger.burn sampleJti sampleExpiry ⟨afterPrune, []⟩).2.fs

theorem exec_afterRecord (script : List Turn)
    (hcut : cutOff (sampleLedger.record sampleJti performedPatch ⟨afterBurn, script⟩).1 = false) :
    (burnRuns sampleLedger).Exec
      [⟨beforeBurn, .burn sampleJti sampleExpiry [], afterBurn⟩,
        ⟨afterBurn, .record sampleJti performedPatch script, afterRecord script⟩] (afterRecord script) := by
  have hburn : (burnRuns sampleLedger).next beforeBurn (.burn sampleJti sampleExpiry []) afterBurn :=
    leads_self (by decide +kernel)
  exact Lts.Exec.snoc (Lts.Exec.snoc (.nil trivial) hburn) (leads_self hcut)

theorem inTime_sample : InTime sampleLedger ⟨beforeBurn, .burn sampleJti sampleExpiry [], afterBurn⟩ sampleJti
    sampleExpiry := by
  have hview : afterBurn.view (sampleLedger.recordPath sampleJti) = some (.file 0) := by decide +kernel
  have hexpires : sampleExpiry.atMost ((afterBurn.inode 0).born + sampleLedger.retentionMs) = true := by
    decide +kernel
  intro i hi
  obtain rfl : 0 = i := by simpa [hview] using hi
  exact hexpires

theorem burns_first : Burns sampleLedger ⟨beforeBurn, .burn sampleJti sampleExpiry [], afterBurn⟩ sampleJti
    sampleExpiry :=
  ⟨[], rfl, by decide +kernel⟩

theorem burns_second : Burns sampleLedger ⟨afterPrune, .burn sampleJti sampleExpiry [], afterSecondBurn⟩ sampleJti
    sampleExpiry :=
  ⟨[], rfl, by decide +kernel⟩


/-- A read that fails once makes the jti burnable again: the record is rewritten with no expiry, pruned, and
    burned a second time, five minutes before the grant expires. -/
theorem burn_twice_after_failed_read :
    ¬ ∀ (store : JtiBurnStore) (es : List (Lts.Edge Fs BurnCall)) (fs : Fs),
      (burnRuns store).Exec es fs → BurnsOnce store es := by
  have hpruned : cutOff (sampleLedger.pruneExpired ⟨afterRecord unreadScript, []⟩).1 = false := by decide +kernel
  have hburned : cutOff (sampleLedger.burn sampleJti sampleExpiry ⟨afterPrune, []⟩).1 = false := by decide +kernel
  have hprune : (burnRuns sampleLedger).next (afterRecord unreadScript) (.pruneExpired []) afterPrune :=
    leads_self hpruned
  have hburn : (burnRuns sampleLedger).next afterPrune (.burn sampleJti sampleExpiry []) afterSecondBurn :=
    leads_self hburned
  have hrecord := exec_afterRecord unreadScript (by decide +kernel)
  have hunexpired : sampleExpiry.before afterPrune.clock = false := by decide +kernel
  have hprecedes : ∀ a b c d : Lts.Edge Fs BurnCall, Lts.Precedes ([a, b] ++ [c] ++ [d]) a d :=
    fun a b c d => ⟨[], [b, c], [], rfl⟩
  intro h
  have honce := h _ _ _ ((hrecord.snoc hprune).snoc hburn)
  have hbefore := honce _ _ _ _ _ (hprecedes _ _ _ _) burns_first inTime_sample burns_second
  rw [hunexpired] at hbefore
  cases hbefore

/-- A record that is read keeps the run safe. -/
theorem burn_once_after_read :
    BurnsOnce sampleLedger
      [⟨beforeBurn, .burn sampleJti sampleExpiry [], afterBurn⟩,
        ⟨afterBurn, .record sampleJti performedPatch [], afterRecord []⟩] := by
  apply burn_once (exec_afterRecord [] (by decide +kernel))
  intro e f jti expiresAt hef hburns _
  obtain ⟨rfl, rfl⟩ := Lts.precedes_pair hef
  refine .inr fun _ existing hread => ?_
  have hlegible : ((sampleLedger.recordRead sampleJti ⟨afterBurn, []⟩).1.toOption.join.any fun record =>
      !isUnreadable record) = true := by decide +kernel
  rw [hread] at hlegible
  cases existing with
  | none => cases hlegible
  | some record => exact ⟨record, rfl, by simpa [Except.toOption] using hlegible⟩

end OwnerSwitch
