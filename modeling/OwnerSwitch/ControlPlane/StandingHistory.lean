/-
Module: OwnerSwitch.ControlPlane.StandingHistory
Layer: ControlPlane
Purpose: What the standing file remembers over a run: when an exported key stays in every later file, and when
  one is dropped.
Imports: ControlPlane.StandingRuns
Trusted boundary: none beyond ControlPlane.StandingRuns
Main exports: Exports, TombstonesKept, RewritesKnown, tombstones_kept
Open obligations: none
-/
import OwnerSwitch.ControlPlane.StandingRuns

namespace OwnerSwitch

/-! ### Tombstones -/

/-- The file has an entry with this SPKI. -/
def Exports (file : StandingMap) (key : JsString) : Prop :=
  ∃ id st, file.get? id = some st ∧ st.spki = some key

instance (file : StandingMap) (key : JsString) : Decidable (Exports file key) :=
  decidable_of_iff (∃ st ∈ file.values, st.spki = some key)
    ⟨fun ⟨st, hst, hspki⟩ =>
      let ⟨e, he, heq⟩ := List.mem_map.mp hst
      ⟨e.1, st, JsMap.get?_eq_some_iff.mpr (heq ▸ he), hspki⟩,
    fun ⟨id, st, hget, hspki⟩ => ⟨st, List.mem_map.mpr ⟨(id, st), JsMap.get?_eq_some_iff.mp hget, rfl⟩, hspki⟩⟩

/-- A later file has every SPKI of an earlier one. -/
def Publication.Keeps (later earlier : Publication) : Prop :=
  ∀ key, Exports earlier.standing key → Exports later.standing key

/-- Over the published files, newest first: a later file has every SPKI of an earlier one, and an entry with an SPKI is
    revoked unless the registry was usable at that write and lists the device as active. -/
structure TombstonesKept (publications : List Publication) : Prop where
  kept : publications.Pairwise Publication.Keeps
  revoked : ∀ p ∈ publications, ∀ id st, p.standing.get? id = some st → st.spki.isSome = true →
    st.revokedAt.isSome = true ∨
      ∃ r, p.devices.enrolledDevices.get? id = some r ∧ st.spki = some r.cheapLaneKeySpki ∧ r.revokedAt = none

/-- The process can still write an entry for a key: its boot-loaded history has one, or its registry serves one. -/
def Devices.Knows (d : Devices) (key : JsString) : Prop :=
  (∃ id st, d.unenrolledStanding.get? id = some st ∧ st.spki = some key) ∨
    ∃ id r, d.enrolledDevices.get? id = some r ∧ r.cheapLaneKeySpki = key

/-- The key a request enrolls. -/
def HostStep.enrolls : HostStep → Option JsString
  | .enroll (.verified proof) .. => some proof.cheapLaneKeySpki
  | _ => none

/-- A request rewrites the standing file while the process knows every SPKI in it. -/
def RewritesKnown (e : Lts.Edge Host HostStep) : Prop :=
  ∀ d file, e.src.process = some d → e.src.standingFile = some file → e.dst.publications ≠ e.src.publications →
    e.label.isBoot = false →
    ∀ key, Exports file key → d.Knows key ∨ e.label.enrolls = some key

/-- Every SPKI of the map was issued for its id. -/
def Issues (issued : JsMap JsString JsString) (file : StandingMap) : Prop :=
  ∀ id st key, file.get? id = some st → st.spki = some key → isCeremonyId id = true ∧ issued.get? id = some key

theorem Issues.mono {issued issued' : JsMap JsString JsString} {file : StandingMap}
    (hkept : ∀ id key, issued.get? id = some key → issued'.get? id = some key) (h : Issues issued file) :
    Issues issued' file :=
  fun id st key hget hspki => ⟨(h id st key hget hspki).1, hkept id key (h id st key hget hspki).2⟩

/-- What the standing of a process must not mix up: static names are not in the history, and what an id stands for
    does not change. -/
structure Devices.Settled (issued : JsMap JsString JsString) (d : Devices) : Prop where
  names : ∀ id device, d.ownerDevices.get? id = some device →
    isCeremonyId id = false ∧ d.unenrolledStanding.get? id = none
  history : Issues issued d.unenrolledStanding
  registry : ∀ id r, d.enrolledDevices.get? id = some r →
    isCeremonyId id = true ∧ issued.get? id = some r.cheapLaneKeySpki

namespace Devices

variable {issued : JsMap JsString JsString} {d : Devices}

theorem Settled.composeStanding (h : d.Settled issued) : Issues issued d.composeStanding := by
  intro id st key hget hspki
  cases composedFrom hget with
  | registry r hserved hst =>
      rw [hst] at hspki
      obtain rfl := Option.some.inj hspki
      exact h.registry id r hserved
  | «static» device _ hnone =>
      rw [hnone] at hspki
      cases hspki
  | history old hold _ hsame =>
      rw [hsame] at hspki
      exact h.history id old key hold hspki

/-- A composed file has exactly the SPKIs that the process knows. -/
theorem Settled.exports_iff (h : d.Settled issued) (key : JsString) : Exports d.composeStanding key ↔ d.Knows key := by
  constructor
  · rintro ⟨id, st, hget, hspki⟩
    cases composedFrom hget with
    | registry r hserved hst =>
        rw [hst] at hspki
        exact .inr ⟨id, r, hserved, Option.some.inj hspki⟩
    | «static» device _ hnone =>
        rw [hnone] at hspki
        cases hspki
    | history old hold _ hsame =>
        rw [hsame] at hspki
        exact .inl ⟨id, old, hold, hspki⟩
  · rintro (⟨id, old, hold, hspki⟩ | ⟨id, r, hserved, rfl⟩)
    · cases hregistry : d.enrolledDevices.get? id with
      | some r =>
          have hissued := (h.history id old key hold hspki).2
          rw [(h.registry id r hregistry).2] at hissued
          exact ⟨id, _, get?_composeStanding_of_registry hregistry, hissued⟩
      | none =>
          have hstatic : d.ownerDevices.get? id = none := by
            rw [Option.eq_none_iff_forall_ne_some]
            intro device hdevice
            rw [(h.names id device hdevice).2] at hold
            cases hold
          obtain ⟨st, hget, hsame⟩ := get?_composeStanding_of_history hregistry hstatic hold
          exact ⟨id, st, hget, hsame.trans hspki⟩
    · exact ⟨id, _, get?_composeStanding_of_registry hserved, rfl⟩

/-- An entry with an SPKI that is not revoked is the projection of an active record. -/
theorem composed_revoked {id : JsString} {st : DeviceStanding} (hget : d.composeStanding.get? id = some st)
    (hspki : st.spki.isSome = true) :
    st.revokedAt.isSome = true ∨
      ∃ r, d.enrolledDevices.get? id = some r ∧ st.spki = some r.cheapLaneKeySpki ∧ r.revokedAt = none := by
  cases composedFrom hget with
  | registry r hserved hst hrevoked =>
      cases hr : r.revokedAt with
      | some t => exact .inl (by rw [hrevoked, hr]; rfl)
      | none => exact .inr ⟨r, hserved, hst, hr⟩
  | «static» device _ hnone =>
      rw [hnone] at hspki
      cases hspki
  | history old _ _ _ _ htombstone => exact .inl (htombstone (.inl hspki))

end Devices

namespace Host

variable {parseSpki : JsString → Option JsString} {h h' : Host} {s : HostStep} {d d' : Devices}

/-- What the published files and the process of a host have in common, when nobody else writes the standing file. -/
structure Remembers (parseSpki : JsString → Option JsString) (h : Host) : Prop where
  sound : h.Sound parseSpki
  file : h.standingFile = h.publications.head?.map Publication.standing
  issued : ∀ p ∈ h.publications, Issues h.issued p.standing
  history : ∀ d, h.process = some d → Issues h.issued d.unenrolledStanding

theorem Remembers.settled (hremembers : h.Remembers parseSpki) (hprocess : h.process = some d) :
    d.Settled h.issued where
  names := fun id device => hremembers.sound.names d id device hprocess
  history := hremembers.history d hprocess
  registry := by
    intro id r hserved
    have hfile := hremembers.sound.on_file hprocess hserved
    exact ⟨h.registryFile.ceremonyIds id r hfile, (hremembers.sound.recorded id r hfile).1⟩

/-- The history a boot takes over comes from the file, and so does what the registry serves. -/
theorem Remembers.settled_of_boots (hremembers : h.Remembers parseSpki) {opts : BootOptions}
    (hboots : Boots parseSpki opts h.registryFile h.standingFile d) : d.Settled h.issued where
  names := hboots.names
  history := by
    intro id st key hget hspki
    obtain ⟨f, hf, hst⟩ := hboots.history id st hget
    rw [hremembers.file, Option.map_eq_some_iff] at hf
    obtain ⟨p, hp, rfl⟩ := hf
    exact hremembers.issued p (List.mem_of_head? hp) id st key hst hspki
  registry := by
    intro id r hserved
    have hfile := on_file_of_boots hboots hserved
    exact ⟨h.registryFile.ceremonyIds id r hfile, (hremembers.sound.recorded id r hfile).1⟩

/-- A boot that reads the file knows every SPKI in it. -/
theorem Remembers.knows_of_adopts (hremembers : h.Remembers parseSpki) {opts : BootOptions}
    (hboots : Boots parseSpki opts h.registryFile h.standingFile d) (hadopts : Adopts h.standingFile d)
    {f : StandingMap} (hfile : h.standingFile = some f) {key : JsString} (hexports : Exports f key) : d.Knows key := by
  obtain ⟨id, st, hget, hspki⟩ := hexports
  rcases hadopts.adopted f id st hfile hget with ⟨device, hstatic, -⟩ | hhistory
  · rw [hremembers.file, Option.map_eq_some_iff] at hfile
    obtain ⟨p, hp, rfl⟩ := hfile
    have hceremony := (hremembers.issued p (List.mem_of_head? hp) id st key hget hspki).1
    rw [(hboots.names id device hstatic).1] at hceremony
    cases hceremony
  · exact .inl ⟨id, st, hhistory, hspki⟩

theorem remembers_invariant : (standingRuns parseSpki none).Invariant (Remembers parseSpki) where
  init := by
    intro h hinit
    have hsound := (sound_invariant none).init h hinit
    obtain ⟨hprocess, hpublications, hfile, -⟩ := hinit
    refine ⟨hsound, by rw [hfile, hpublications]; rfl, fun p hp => ?_, fun d hd => ?_⟩
    · rw [hpublications] at hp
      cases hp
    · rw [hprocess] at hd
      cases hd
  step := by
    intro h s h' hremembers hnext
    have hsound' := (sound_invariant none).step h s h' hremembers.sound hnext
    rcases next_cases hnext hremembers.sound.served with ⟨opts, killState, killSave, rfl, hopts, rfl⟩ | ⟨d, d', hserves⟩
    · have hhistory : ∀ d, (h.booted parseSpki opts killState killSave).process = some d →
          Issues h.issued d.unenrolledStanding :=
        fun d hd => (hremembers.settled_of_boots (booted_boots hd)).history
      rcases booted_published h opts killState killSave with ⟨hpublications, hfile⟩ |
        ⟨p, hpublications, hfile, hcomposed, hboots, -⟩
      · refine ⟨hsound', by rw [hfile, hpublications, hremembers.file], fun q hq => ?_, hhistory⟩
        exact hremembers.issued q (hpublications ▸ hq)
      · refine ⟨hsound', by rw [hfile, hpublications]; rfl, fun q hq => ?_, hhistory⟩
        rw [hpublications] at hq
        rcases List.mem_cons.mp hq with rfl | hold
        · rw [hcomposed]
          exact (hremembers.settled_of_boots hboots).composeStanding
        · exact hremembers.issued q hold
    · have hkept : ∀ id key, h.issued.get? id = some key → h'.issued.get? id = some key := by
        rw [hserves.issued]
        exact fun id key => issues_kept hnext.1
      have hhistory : Issues h'.issued d'.unenrolledStanding := by
        rw [hserves.history]
        exact (hremembers.history d hserves.process).mono hkept
      have hprocess' : ∀ d₁, h'.process = some d₁ → Issues h'.issued d₁.unenrolledStanding := by
        intro d₁ hd₁
        obtain rfl := Option.some.inj (hserves.process'.symm.trans hd₁)
        exact hhistory
      have hsettled : d'.Settled h'.issued := by
        refine ⟨fun id device => hsound'.names d' id device hserves.process', hhistory, fun id r hserved => ?_⟩
        have hfile := hsound'.on_file hserves.process' hserved
        exact ⟨h'.registryFile.ceremonyIds id r hfile, (hsound'.recorded id r hfile).1⟩
      rcases hserves.file with ⟨-, hpublications, hfile, -⟩ | ⟨hpublications, hfile, -⟩
      · refine ⟨hsound', by rw [hfile, hpublications]; rfl, fun q hq => ?_, hprocess'⟩
        rw [hpublications] at hq
        rcases List.mem_cons.mp hq with rfl | hold
        · exact hsettled.composeStanding
        · exact (hremembers.issued q hold).mono hkept
      · refine ⟨hsound', by rw [hfile, hpublications, hremembers.file], fun q hq => ?_, hprocess'⟩
        exact (hremembers.issued q (hpublications ▸ hq)).mono hkept

/-- A request that publishes keeps serving the keys the registry served. -/
theorem Serves.registry_forth (hserves : Serves h h' s d d') (hpublishes : h'.publications ≠ h.publications)
    {id : JsString} {r : PersistedEnrolledDevice} (hserved : d.enrolledDevices.get? id = some r) :
    ∃ r', d'.enrolledDevices.get? id = some r' ∧ r'.cheapLaneKeySpki = r.cheapLaneKeySpki := by
  have hvouches : d'.enrolledDevices.table.isSome = true := by
    rcases hserves.file with ⟨-, -, -, hvouches, -⟩ | ⟨hsame, -⟩
    · apply hvouches
      cases htable : d.enrolledDevices.table with
      | none =>
          rw [Registry.get?, htable] at hserved
          cases hserved
      | some t => rfl
    · exact absurd hsame hpublishes
  have hregistry := hserves.registry
  generalize d'.enrolledDevices = registry' at hregistry hvouches ⊢
  generalize h'.registryFile = file' at hregistry
  cases hregistry with
  | kept => exact ⟨r, hserved, rfl⟩
  | moved husable hmoves =>
      rw [husable] at hserved
      rcases hmoves.serves with rfl | ⟨detail, rfl⟩
      · exact hmoves.evolves.forth id r hserved
      · cases hvouches

/-- After a request that publishes, the process knows what it knew and what it enrolled. -/
theorem Serves.knows_iff (hserves : Serves h h' s d d') (hafter : h' = h.after parseSpki s)
    (hpublishes : h'.publications ≠ h.publications) (key : JsString) :
    d'.Knows key ↔ d.Knows key ∨ s.enrolls = some key := by
  constructor
  · rintro (hhistory | ⟨id, r', hserved, rfl⟩)
    · rw [hserves.history] at hhistory
      exact .inl (.inl hhistory)
    · rcases hserves.record hserved with ⟨r, hold, hkey, -⟩ | hdraws
      · exact .inl (.inr ⟨id, r, hold, hkey.symm⟩)
      · cases s with
        | boot => cases hdraws
        | revoke => cases hdraws
        | mintInvite => cases hdraws
        | enroll submission deviceId =>
            obtain ⟨rfl, proof, rfl, rfl⟩ := hdraws
            exact .inr rfl
  · rintro ((hhistory | ⟨id, r, hserved, rfl⟩) | henrolls)
    · exact .inl (by rw [hserves.history]; exact hhistory)
    · obtain ⟨r', hserved', hkey⟩ := hserves.registry_forth hpublishes hserved
      exact .inr ⟨id, r', hserved', hkey⟩
    · cases s with
      | boot => cases henrolls
      | revoke => cases henrolls
      | mintInvite => cases henrolls
      | enroll submission deviceId registrySave save now killSave =>
          have hprocess' := hserves.process'
          simp only [hafter, after, hserves.process, handled, ne_eq] at hpublishes hprocess'
          obtain ⟨proof, rfl, hnew⟩ := Devices.postDeviceEnroll_published (by
            rw [Option.isSome_iff_ne_none]
            intro hnone
            rw [hnone] at hpublishes
            exact hpublishes rfl)
          obtain rfl := Option.some.inj hprocess'
          exact .inr ⟨deviceId, _, hnew, Option.some.inj henrolls⟩

end Host

/-- A file put before files that keep one another only has to keep the newest of them. -/
theorem keeps_cons_iff {p : Publication} {older : List Publication} :
    (p :: older).Pairwise Publication.Keeps ↔
      (∀ file, older.head?.map Publication.standing = some file → ∀ key, Exports file key → Exports p.standing key) ∧
        older.Pairwise Publication.Keeps := by
  rw [List.pairwise_cons]
  constructor
  · rintro ⟨hall, holder⟩
    refine ⟨fun file hfile => ?_, holder⟩
    obtain ⟨q, hq, rfl⟩ := Option.map_eq_some_iff.mp hfile
    exact hall q (List.mem_of_head? hq)
  · rintro ⟨hhead, holder⟩
    refine ⟨fun q hq key hexports => ?_, holder⟩
    cases older with
    | nil => cases hq
    | cons newest rest =>
        apply hhead newest.standing rfl key
        rcases List.mem_cons.mp hq with rfl | hrest
        · exact hexports
        · exact (List.pairwise_cons.mp holder).1 q hrest key hexports

/-- One step keeps the files if and only if it rewrites nothing it does not know. -/
theorem keeps_step {parseSpki : JsString → Option JsString} {h h' : Host} {s : HostStep}
    (hremembers : h.Remembers parseSpki) (hremembers' : h'.Remembers parseSpki)
    (hnext : (standingRuns parseSpki none).next h s h') :
    h'.publications.Pairwise Publication.Keeps ↔
      h.publications.Pairwise Publication.Keeps ∧ RewritesKnown ⟨h, s, h'⟩ := by
  rcases Host.next_cases hnext hremembers.sound.served with ⟨opts, killState, killSave, rfl, -, rfl⟩ | ⟨d, d', hserves⟩
  · have hboot : RewritesKnown ⟨h, .boot opts killState killSave, h.booted parseSpki opts killState killSave⟩ :=
      fun d file _ _ _ hrequest => by cases hrequest
    rcases Host.booted_published h opts killState killSave with ⟨hsame, -⟩ | ⟨p, hnew, -, hcomposed, hboots, hadopts⟩
    · rw [hsame]
      exact ⟨fun hkept => ⟨hkept, hboot⟩, And.left⟩
    · rw [hnew, keeps_cons_iff, ← hremembers.file]
      refine ⟨fun hkept => ⟨hkept.2, hboot⟩, fun hkept => ⟨fun file hfile key hexports => ?_, hkept.1⟩⟩
      rw [hcomposed, (hremembers.settled_of_boots hboots).exports_iff]
      exact hremembers.knows_of_adopts hboots hadopts hfile hexports
  · rcases hserves.file with ⟨-, hnew, -⟩ | ⟨hsame, -⟩
    · have hchanged : h'.publications ≠ h.publications := by
        rw [hnew]
        exact List.cons_ne_self _ _
      have hexports : ∀ key, Exports d'.composeStanding key ↔ d.Knows key ∨ s.enrolls = some key := by
        intro key
        rw [(hremembers'.settled hserves.process').exports_iff, hserves.knows_iff hnext.2 hchanged]
      rw [hnew, keeps_cons_iff, ← hremembers.file]
      constructor
      · rintro ⟨hhead, holder⟩
        refine ⟨holder, fun d₀ file hd₀ hfile _ _ key hkey => ?_⟩
        obtain rfl := Option.some.inj (hserves.process.symm.trans hd₀)
        exact (hexports key).mp (hhead file hfile key hkey)
      · rintro ⟨holder, hknown⟩
        refine ⟨fun file hfile key hkey => ?_, holder⟩
        exact (hexports key).mpr (hknown d file hserves.process hfile hchanged hserves.request key hkey)
    · rw [hsame]
      exact ⟨fun hkept => ⟨hkept, fun _ _ _ _ hchanged => absurd hsame hchanged⟩, And.left⟩

/-- The published files of a run keep their tombstones exactly as long as every request that rewrites the standing file
    finds the process knowing each SPKI in it. -/
theorem tombstones_kept {parseSpki : JsString → Option JsString} {es : List (Lts.Edge Host HostStep)} {h : Host}
    (hrun : (standingRuns parseSpki none).Exec es h) :
    TombstonesKept h.publications ↔ ∀ e ∈ es, RewritesKnown e := by
  have hkept : h.publications.Pairwise Publication.Keeps ↔ ∀ e ∈ es, RewritesKnown e := by
    refine hrun.induct (I := fun es h => h.publications.Pairwise Publication.Keeps ↔ ∀ e ∈ es, RewritesKnown e) ?_ ?_
    · intro h hinit
      rw [hinit.2.1]
      simp
    · intro es h s h' hpre ih hnext
      have hremembers := hpre.invariant Host.remembers_invariant
      rw [keeps_step hremembers (Host.remembers_invariant.step h s h' hremembers hnext) hnext, ih,
        List.forall_mem_append, List.forall_mem_singleton]
  refine ⟨fun h => hkept.mp h.kept, fun h => ⟨hkept.mpr h, fun p hp id st hget hspki => ?_⟩⟩
  have hcomposed := (hrun.invariant (Host.publications_invariant none)).2 p hp
  exact Devices.composed_revoked (hcomposed.composed ▸ hget) hspki

/-! ### A sample -/

namespace StandingSample

def revoke (id : JsString) : HostStep :=
  .revoke id .durable .durable 3000 .noStore

/-- A key is enrolled and exported, then a static phone is revoked. -/
def exported : List HostStep :=
  [boot [(js "phone", keyG)] .absent, enroll (js "cred") keyH (js "dev_1") .durable, revoke (js "phone")]

/-- The same with the registry quarantined in between. -/
def quarantined : List HostStep :=
  [boot [(js "phone", keyG)] .absent, enroll (js "cred") keyH (js "dev_1") .durable,
    .mintInvite (.unproven (js "EIO") true), revoke (js "phone")]

end StandingSample

/-- The tombstone of a device that was enrolled and revoked. -/
theorem tombstones_kept_exported :
    TombstonesKept (StandingSample.exported.foldl (Host.after StandingSample.parseSpki)
      StandingSample.start).publications ↔
    ∀ e ∈ Lts.trace (Host.after StandingSample.parseSpki) StandingSample.start StandingSample.exported,
      RewritesKnown e :=
  tombstones_kept (StandingSample.run StandingSample.exported (by decide +kernel))

/-- A key exported since the last boot is dropped by a rewrite while the registry is quarantined. -/
theorem tombstone_dropped_midrun :
    ¬ ∀ (parseSpki : JsString → Option JsString) (es : List (Lts.Edge Host HostStep)) (h : Host),
      (standingRuns parseSpki none).Exec es h → TombstonesKept h.publications := by
  intro h
  have hkept := (h _ _ _ (StandingSample.run StandingSample.quarantined (by decide +kernel))).kept
  have hfiles : (StandingSample.quarantined.foldl (Host.after StandingSample.parseSpki)
      StandingSample.start).publications.map (fun p => decide (Exports p.standing StandingSample.keyH))
        = [false, true, false] := by
    decide +kernel
  generalize (StandingSample.quarantined.foldl (Host.after StandingSample.parseSpki)
    StandingSample.start).publications = publications at hkept hfiles
  rcases publications with _ | ⟨later, _ | ⟨earlier, rest⟩⟩
  · cases hfiles
  · simp at hfiles
  · simp only [List.map_cons, List.cons.injEq, decide_eq_false_iff_not, decide_eq_true_eq] at hfiles
    exact hfiles.1 ((List.pairwise_cons.mp hkept).1 earlier (by simp) StandingSample.keyH hfiles.2.1)

end OwnerSwitch
