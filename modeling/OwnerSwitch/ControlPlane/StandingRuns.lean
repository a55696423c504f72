/-
Module: OwnerSwitch.ControlPlane.StandingRuns
Layer: ControlPlane
Purpose: Runs of a control plane over any number of restarts, with its registry file and its standing file:
  boots, revocations, enrollments and mid-run quarantines in any order.
Imports: Lib.Lts, ControlPlane.DeviceStanding, ControlPlane.Kill
Trusted boundary: nobody else writes the two files; the id factory never draws an id twice
Main exports: Host, HostStep, standingRuns, Host.Sound, sound_invariant, one_key_one_identity
Open obligations: none
-/
import OwnerSwitch.Lib.Lts
import OwnerSwitch.ControlPlane.DeviceStanding
import OwnerSwitch.ControlPlane.Kill

namespace OwnerSwitch

/-- A control plane host: the configured standing path, the files, the process if one is running, and what the
    id factory has drawn so far, with the key of each draw. `publications` is newest first. -/
structure Host where
  standingStore : Bool
  standingFile : Option StandingMap
  publications : List Publication
  registryFile : DeviceTable
  process : Option Devices
  killSwitch : KillSwitch
  issued : JsMap JsString JsString

inductive HostStep where
  | boot (opts : BootOptions) (killState : KillStateLoad) (killSave : StoreOutcome)
  | revoke (id : JsString) (registrySave : RegistrySave) (save : StandingSave) (now : Int) (killSave : StoreOutcome)
  | enroll (submission : PerformEnrollmentOutcome) (deviceId : JsString) (registrySave : RegistrySave)
      (save : StandingSave) (now : Int) (killSave : StoreOutcome)
  | mintInvite (save : RegistrySave)

namespace HostStep

def isBoot : HostStep → Bool
  | .boot .. => true
  | _ => false

/-- The record a step may add to the registry. -/
def Draws : HostStep → JsString → PersistedEnrolledDevice → Prop
  | .enroll submission deviceId .. => DeviceTable.Drawn submission deviceId
  | _ => fun _ _ => False

/-- The draws of the id factory after a step. -/
def issues (issued : JsMap JsString JsString) : HostStep → JsMap JsString JsString
  | .enroll (.verified proof) deviceId .. => issued.set deviceId proof.cheapLaneKeySpki
  | _ => issued

end HostStep

namespace Host

variable (parseSpki : JsString → Option JsString) (h : Host)

/-- What a handler leaves of the host. -/
def handled {ρ : Type} (r : Handled ρ) (now : Int) (killSave : StoreOutcome) : Host :=
  { h with
    standingFile := r.published.or h.standingFile
    publications := (r.published.map fun f => ⟨f, r.devices⟩).toList ++ h.publications
    registryFile := r.registryFile
    process := some r.devices
    killSwitch := match r.engages with
      | none => h.killSwitch
      | some reason => h.killSwitch.engage now .api (some reason) false killSave }

/-- The switch a boot starts with. -/
def bootSwitch (now : Int) (killState : KillStateLoad) (killSave : StoreOutcome) : KillSwitch :=
  let (killSwitch, persists) := KillSwitch.ofLoad now killState
  if persists then killSwitch.persist now killSave else killSwitch

def booted (opts : BootOptions) (killState : KillStateLoad) (killSave : StoreOutcome) : Host :=
  let r := OwnerSwitch.boot parseSpki opts h.registryFile h.standingFile
  { h with
    standingFile := (r.published.map Publication.standing).or h.standingFile
    publications := r.published.toList ++ h.publications
    registryFile := r.registryFile
    process := r.devices
    killSwitch := bootSwitch opts.now killState killSave }

/-- The host after a step; a request finds nobody when no process runs. -/
def after (s : HostStep) : Host :=
  match s, h.process with
  | .boot opts killState killSave, _ => h.booted parseSpki opts killState killSave
  | _, none => h
  | .revoke id registrySave save now killSave, some d =>
      h.handled (d.postDeviceRevoke h.registryFile id registrySave save now) now killSave
  | .enroll submission deviceId registrySave save now killSave, some d =>
      { h.handled (d.postDeviceEnroll parseSpki h.registryFile submission deviceId registrySave save now)
        now killSave with
        issued := s.issues h.issued }
  | .mintInvite save, some d => { h with process := some (d.ensureOwnerUserId save) }

/-- A boot keeps the configured path; a drawn id is of the ceremony namespace and new; the key a ceremony hands on is
    the parser's own export. -/
def enabled (s : HostStep) : Bool :=
  match s with
  | .boot opts .. => opts.standingStore == h.standingStore
  | .revoke .. => h.process.isSome
  | .enroll submission deviceId .. =>
      h.process.isSome && isCeremonyId deviceId && !h.issued.has deviceId &&
        match submission with
        | .refused .. => true
        | .verified proof => parseSpki proof.cheapLaneKeySpki == some proof.cheapLaneKeySpki
  | .mintInvite _ => h.process.isSome

end Host

/-- The runs of a host that starts with a given standing file and any registry. -/
def standingRuns (parseSpki : JsString → Option JsString) (file : Option StandingMap) : Lts Host HostStep where
  init h := h.process = none ∧ h.publications = [] ∧ h.standingFile = file ∧
    (h.standingStore = false → file = none) ∧
    ∀ id r, h.registryFile.devices.get? id = some r →
      h.issued.get? id = some r.cheapLaneKeySpki ∧ parseSpki r.cheapLaneKeySpki = some r.cheapLaneKeySpki
  next h s h' := h.enabled parseSpki s = true ∧ h' = h.after parseSpki s

namespace Host

/-! ### One step -/

/-- What a request does to the host. -/
structure Serves (h h' : Host) (s : HostStep) (d d' : Devices) : Prop where
  request : s.isBoot = false
  process : h.process = some d
  process' : h'.process = some d'
  configured : h'.standingStore = h.standingStore
  store : d'.standingStore = d.standingStore
  history : d'.unenrolledStanding = d.unenrolledStanding
  statics : ∀ id, d'.ownerDevices.get? id = d.ownerDevices.get? id ∨
    ∃ device now, d.ownerDevices.get? id = some device ∧ device.revokedAt = none ∧
      d'.ownerDevices.get? id = some (device.sever now)
  registry : RegistryMoves s.Draws d.enrolledDevices h.registryFile d'.enrolledDevices h'.registryFile
  issued : h'.issued = s.issues h.issued
  file : (d.standingStore = true ∧ h'.publications = ⟨d'.composeStanding, d'⟩ :: h.publications ∧
      h'.standingFile = some d'.composeStanding ∧
      (d.enrolledDevices.table.isSome = true → d'.enrolledDevices.table.isSome = true) ∧
      (d.enrolledDevices = .unconfigured → ∃ id device, d.ownerDevices.get? id = some device)) ∨
    (h'.publications = h.publications ∧ h'.standingFile = h.standingFile ∧
      (d.standingStore = true → d'.standingQuarantined = true ∨
        (d'.ownerDevices = d.ownerDevices ∧ d'.standingQuarantined = d.standingQuarantined)))

theorem serves_of_handles {ρ : Type} {h : Host} (s : HostStep) {d : Devices} {now : Int} (killSave : StoreOutcome)
    {r : Handled ρ} (hrequest : s.isBoot = false) (hprocess : h.process = some d)
    (hr : d.Handles h.registryFile s.Draws now r) :
    Serves h { h.handled r now killSave with issued := s.issues h.issued } s d r.devices where
  request := hrequest
  process := hprocess
  process' := rfl
  configured := rfl
  store := hr.store
  history := hr.history
  statics := by
    intro id
    rcases hr.statics id with hsame | ⟨device, hget, hactive, hsevered⟩
    · exact .inl hsame
    · exact .inr ⟨device, now, hget, hactive, hsevered⟩
  registry := hr.registry
  issued := rfl
  file := by
    cases hpublished : r.published with
    | none => exact .inr ⟨by simp [handled, hpublished], by simp [handled, hpublished], hr.unpublished hpublished⟩
    | some f =>
        obtain ⟨hstore, rfl⟩ := hr.published f hpublished
        exact .inl ⟨hstore, by simp [handled, hpublished], by simp [handled, hpublished],
          hr.vouches (by rw [hpublished]; rfl), hr.producer (by rw [hpublished]; rfl)⟩

/-- A step is a boot or a request that the running process serves. -/
theorem next_cases {parseSpki : JsString → Option JsString} {file : Option StandingMap} {h h' : Host} {s : HostStep}
    (hnext : (standingRuns parseSpki file).next h s h')
    (hserved : ∀ d t, h.process = some d → d.enrolledDevices = .usable t → t = h.registryFile) :
    (∃ opts killState killSave, s = .boot opts killState killSave ∧ opts.standingStore = h.standingStore ∧
      h' = h.booted parseSpki opts killState killSave) ∨
    ∃ d d', Serves h h' s d d' := by
  obtain ⟨henabled, rfl⟩ := hnext
  cases s with
  | boot opts killState killSave =>
      exact .inl ⟨opts, killState, killSave, rfl, by simpa [enabled] using henabled, rfl⟩
  | revoke id registrySave save now killSave =>
      obtain ⟨d, hd⟩ := Option.isSome_iff_exists.mp henabled
      refine .inr ⟨d, (d.postDeviceRevoke h.registryFile id registrySave save now).devices, ?_⟩
      have hserves := serves_of_handles (.revoke id registrySave save now killSave) killSave rfl hd
        (d.postDeviceRevoke_handles h.registryFile id registrySave save now)
      have hafter : h.after parseSpki (.revoke id registrySave save now killSave)
          = h.handled (d.postDeviceRevoke h.registryFile id registrySave save now) now killSave := by
        simp only [after, hd]
      rw [hafter]
      exact hserves
  | enroll submission deviceId registrySave save now killSave =>
      have hrunning : h.process.isSome = true := by
        simp only [enabled, Bool.and_eq_true] at henabled
        exact henabled.1.1.1
      obtain ⟨d, hd⟩ := Option.isSome_iff_exists.mp hrunning
      refine .inr ⟨d,
        (d.postDeviceEnroll parseSpki h.registryFile submission deviceId registrySave save now).devices, ?_⟩
      have hserves := serves_of_handles (.enroll submission deviceId registrySave save now killSave) killSave rfl hd
        (d.postDeviceEnroll_handles parseSpki h.registryFile submission deviceId registrySave save now)
      simpa only [after, hd] using hserves
  | mintInvite save =>
      obtain ⟨d, hd⟩ := Option.isSome_iff_exists.mp henabled
      have hregistry := d.ensureOwnerUserId_moves (.mintInvite save : HostStep).Draws save (hserved d · hd)
      obtain ⟨hstore, hhistory, hstatics, hquarantined⟩ := d.ensureOwnerUserId_frame save
      refine .inr
        ⟨d, d.ensureOwnerUserId save, rfl, hd, by simp only [after, hd], by simp only [after, hd], hstore, hhistory,
        fun id => .inl (by rw [hstatics]), by simpa only [after, hd] using hregistry, by simp only [after, hd]; rfl,
        .inr ⟨by simp only [after, hd], by simp only [after, hd], fun _ => .inr ⟨hstatics, hquarantined⟩⟩⟩

theorem next_configured {parseSpki : JsString → Option JsString} {file : Option StandingMap} {h h' : Host}
    {s : HostStep} (hnext : (standingRuns parseSpki file).next h s h') : h'.standingStore = h.standingStore := by
  obtain ⟨-, rfl⟩ := hnext
  unfold after
  split <;> rfl

/-! ### What holds of every host -/

/-- What the files and the process of a host agree on, in every run. -/
structure Sound (parseSpki : JsString → Option JsString) (h : Host) : Prop where
  recorded : ∀ id r, h.registryFile.devices.get? id = some r →
    h.issued.get? id = some r.cheapLaneKeySpki ∧ parseSpki r.cheapLaneKeySpki = some r.cheapLaneKeySpki
  unstored : h.standingStore = false → h.standingFile = none
  configured : ∀ d, h.process = some d → d.standingStore = h.standingStore
  served : ∀ d t, h.process = some d → d.enrolledDevices = .usable t → t = h.registryFile
  names : ∀ d id device, h.process = some d → d.ownerDevices.get? id = some device →
    isCeremonyId id = false ∧ d.unenrolledStanding.get? id = none
  aliases : ∀ d id device id' r, h.process = some d → d.ownerDevices.get? id = some device → device.revokedAt = none →
    d.enrolledDevices.get? id' = some r → r.cheapLaneKeySpki ≠ device.publicKey

variable {parseSpki : JsString → Option JsString} {h h' : Host} {s : HostStep} {d d' : Devices}

/-- A record that the process serves is in the registry file. -/
theorem Sound.on_file (hsound : h.Sound parseSpki) (hprocess : h.process = some d) {id : JsString}
    {r : PersistedEnrolledDevice} (hget : d.enrolledDevices.get? id = some r) :
    h.registryFile.devices.get? id = some r := by
  cases hregistry : d.enrolledDevices with
  | unconfigured =>
      rw [hregistry] at hget
      cases hget
  | quarantined detail =>
      rw [hregistry] at hget
      cases hget
  | usable t =>
      rw [hregistry] at hget
      exact hsound.served d t hprocess hregistry ▸ hget

/-- A ceremony id is not the name of a static device. -/
theorem Sound.not_static (hsound : h.Sound parseSpki) (hprocess : h.process = some d) {id : JsString}
    {r : PersistedEnrolledDevice} (hget : d.enrolledDevices.get? id = some r) : d.ownerDevices.get? id = none := by
  have hceremony := h.registryFile.ceremonyIds id r (hsound.on_file hprocess hget)
  cases hstatic : d.ownerDevices.get? id with
  | none => rfl
  | some device =>
      rw [(hsound.names d id device hprocess hstatic).1] at hceremony
      cases hceremony

/-- Where the records of the registry file come from when a request moves it on. -/
theorem Serves.file_record (hserves : Serves h h' s d d') (hsound : h.Sound parseSpki) {id : JsString}
    {r' : PersistedEnrolledDevice} (hget : h'.registryFile.devices.get? id = some r') :
    (∃ r, h.registryFile.devices.get? id = some r ∧ r'.cheapLaneKeySpki = r.cheapLaneKeySpki ∧
      (r.revokedAt.isSome = true → r' = r)) ∨ s.Draws id r' := by
  have hregistry := hserves.registry
  generalize d'.enrolledDevices = registry' at hregistry
  generalize h'.registryFile = file' at hregistry hget
  cases hregistry with
  | kept => exact .inl ⟨r', hget, rfl, fun _ => rfl⟩
  | moved husable hmoves =>
      obtain rfl := hsound.served d _ hserves.process husable
      exact hmoves.evolves.back id r' hget

/-- What the process serves after a request is in the file after it. -/
theorem Serves.served (hserves : Serves h h' s d d') (hsound : h.Sound parseSpki) {t : DeviceTable}
    (husable : d'.enrolledDevices = .usable t) : t = h'.registryFile := by
  have hregistry := hserves.registry
  generalize d'.enrolledDevices = registry' at hregistry husable
  generalize h'.registryFile = file' at hregistry ⊢
  cases hregistry with
  | kept => exact hsound.served d t hserves.process husable
  | moved _ hmoves =>
      rcases hmoves.serves with hserves | ⟨detail, hquarantined⟩
      · rw [hserves] at husable
        exact (Registry.usable.inj husable).symm
      · rw [hquarantined] at husable
        cases husable

/-- Where the records the process serves come from when a request moves the registry on. -/
theorem Serves.record (hserves : Serves h h' s d d') {id : JsString}
    {r' : PersistedEnrolledDevice} (hget : d'.enrolledDevices.get? id = some r') :
    (∃ r, d.enrolledDevices.get? id = some r ∧ r'.cheapLaneKeySpki = r.cheapLaneKeySpki ∧
      (r.revokedAt.isSome = true → r' = r)) ∨ s.Draws id r' := by
  have hregistry := hserves.registry
  generalize d'.enrolledDevices = registry' at hregistry hget
  generalize h'.registryFile = file' at hregistry
  cases hregistry with
  | kept => exact .inl ⟨r', hget, rfl, fun _ => rfl⟩
  | moved husable hmoves =>
      rw [husable]
      rcases hmoves.serves with rfl | ⟨detail, rfl⟩
      · exact hmoves.evolves.back id r' hget
      · cases hget

/-- A record that a request adds was drawn for it. -/
theorem draws_issued (henabled : h.enabled parseSpki s = true) {id : JsString}
    {r : PersistedEnrolledDevice} (hdraws : s.Draws id r) :
    isCeremonyId id = true ∧ h.issued.get? id = none ∧ (s.issues h.issued).get? id = some r.cheapLaneKeySpki ∧
      parseSpki r.cheapLaneKeySpki = some r.cheapLaneKeySpki := by
  cases s with
  | boot => cases hdraws
  | revoke => cases hdraws
  | mintInvite => cases hdraws
  | enroll submission deviceId =>
      obtain ⟨rfl, proof, rfl, rfl⟩ := hdraws
      simp only [enabled, Bool.and_eq_true, beq_iff_eq, Bool.not_eq_true'] at henabled
      exact ⟨henabled.1.1.2, JsMap.has_eq_false_iff.mp henabled.1.2, by simp [HostStep.issues, DeviceTable.newDevice],
        henabled.2⟩

/-- The draws of the factory stay. -/
theorem issues_kept (henabled : h.enabled parseSpki s = true) {id key : JsString}
    (hissued : h.issued.get? id = some key) :
    (s.issues h.issued).get? id = some key := by
  cases s with
  | boot => exact hissued
  | revoke => exact hissued
  | mintInvite => exact hissued
  | enroll submission deviceId =>
      cases submission with
      | refused => exact hissued
      | verified proof =>
          simp only [enabled, Bool.and_eq_true, Bool.not_eq_true'] at henabled
          have hne : id ≠ deviceId := by
            rintro rfl
            rw [JsMap.has_eq_false_iff.mp henabled.1.2] at hissued
            cases hissued
          rw [HostStep.issues, JsMap.get?_set_ne _ _ hne]
          exact hissued

theorem initialize_file {registry : RegistryBoot} {file : DeviceTable} {id : JsString} {r : PersistedEnrolledDevice}
    (hget : (registry.initializeFrom file).2.devices.get? id = some r) : file.devices.get? id = some r := by
  cases registry with
  | absent => cases hget
  | unconfigured => exact hget
  | corrupt => exact hget
  | loaded => exact hget

theorem initialize_served {registry : RegistryBoot} {file t : DeviceTable}
    (husable : (registry.initializeFrom file).1 = .usable t) : t = (registry.initializeFrom file).2 := by
  cases registry with
  | absent => exact (Registry.usable.inj husable).symm
  | unconfigured => cases husable
  | corrupt => cases husable
  | loaded => exact (Registry.usable.inj husable).symm

theorem on_file_of_boots {opts : BootOptions} {file : DeviceTable} {standingFile : Option StandingMap}
    (hboots : Boots parseSpki opts file standingFile d) {id : JsString} {r : PersistedEnrolledDevice}
    (hserved : d.enrolledDevices.get? id = some r) : file.devices.get? id = some r := by
  rw [hboots.registry] at hserved
  cases hinit : (opts.registry.initializeFrom file).1 with
  | unconfigured =>
      rw [hinit] at hserved
      cases hserved
  | quarantined detail =>
      rw [hinit] at hserved
      cases hserved
  | usable t =>
      rw [hinit] at hserved
      exact initialize_file (initialize_served hinit ▸ hserved)

/-- What a boot that starts a process leaves sound. -/
theorem Sound.of_boots (hsound : h.Sound parseSpki) {opts : BootOptions} (hopts : opts.standingStore = h.standingStore)
    (hboots : ∀ d, h'.process = some d → Boots parseSpki opts h.registryFile h.standingFile d)
    (hconfigured : h'.standingStore = h.standingStore) (hissued : h'.issued = h.issued)
    (hregistry : h'.registryFile = h.registryFile ∧ h'.process = none ∨
      h'.registryFile = (opts.registry.initializeFrom h.registryFile).2)
    (hfile : h'.standingFile = h.standingFile ∨ h.standingStore = true) : h'.Sound parseSpki where
  recorded := by
    intro id r hget
    rw [hissued]
    rcases hregistry with ⟨hsame, -⟩ | hinit
    · exact hsound.recorded id r (hsame ▸ hget)
    · exact hsound.recorded id r (initialize_file (hinit ▸ hget))
  unstored := by
    intro hstore
    rw [hconfigured] at hstore
    rcases hfile with hsame | hset
    · rw [hsame]
      exact hsound.unstored hstore
    · rw [hstore] at hset
      cases hset
  configured := fun d hd => by rw [(hboots d hd).store, hopts, hconfigured]
  served := by
    intro d t hd husable
    rcases hregistry with ⟨-, hnone⟩ | hinit
    · rw [hnone] at hd
      cases hd
    · rw [hinit]
      exact initialize_served ((hboots d hd).registry ▸ husable)
  names := fun d id device hd => (hboots d hd).names id device
  aliases := by
    intro d id device id' r hd hget hactive hserved hkey
    apply (hboots d hd).aliases id device id' r hget hactive hserved
    rw [(hsound.recorded id' r (on_file_of_boots (hboots d hd) hserved)).2, hkey]

theorem booted_sound (hsound : h.Sound parseSpki) {opts : BootOptions} (killState : KillStateLoad)
    (killSave : StoreOutcome) (hopts : opts.standingStore = h.standingStore) :
    (h.booted parseSpki opts killState killSave).Sound parseSpki := by
  have hcase := boot_cases parseSpki opts h.registryFile h.standingFile
  unfold booted
  generalize boot parseSpki opts h.registryFile h.standingFile = result at hcase
  cases hcase with
  | refused => exact hsound.of_boots hopts (fun d hd => by cases hd) rfl rfl (.inl ⟨rfl, rfl⟩) (.inl rfl)
  | silent hboots =>
      exact hsound.of_boots hopts (fun d hd => Option.some.inj hd ▸ hboots) rfl rfl (.inr rfl) (.inl rfl)
  | persisted hboots _ hstore =>
      refine hsound.of_boots hopts (fun d hd => ?_) rfl rfl (.inr rfl) (.inr (hopts ▸ hstore))
      dsimp only at hd
      split at hd
      · exact Option.some.inj hd ▸ hboots
      · cases hd

theorem Serves.sound (hserves : Serves h h' s d d') (henabled : h.enabled parseSpki s = true)
    (hafter : h' = h.after parseSpki s) (hsound : h.Sound parseSpki) : h'.Sound parseSpki where
  recorded := by
    intro id r hget
    rw [hserves.issued]
    rcases hserves.file_record hsound hget with ⟨r₀, hold, hkey, -⟩ | hdraws
    · rw [hkey]
      exact ⟨issues_kept henabled (hsound.recorded id r₀ hold).1, (hsound.recorded id r₀ hold).2⟩
    · exact (draws_issued henabled hdraws).2.2
  unstored := by
    intro hstore
    rw [hserves.configured] at hstore
    rcases hserves.file with ⟨hset, -⟩ | ⟨-, hsame, -⟩
    · rw [hsound.configured d hserves.process, hstore] at hset
      cases hset
    · rw [hsame]
      exact hsound.unstored hstore
  configured := by
    intro d₁ hd₁
    obtain rfl := Option.some.inj (hserves.process'.symm.trans hd₁)
    rw [hserves.store, hsound.configured d hserves.process, hserves.configured]
  served := by
    intro d₁ t hd₁ husable
    obtain rfl := Option.some.inj (hserves.process'.symm.trans hd₁)
    exact hserves.served hsound husable
  names := by
    intro d₁ id device hd₁ hget
    obtain rfl := Option.some.inj (hserves.process'.symm.trans hd₁)
    rw [hserves.history]
    rcases hserves.statics id with hsame | ⟨old, _, hold, -⟩
    · exact hsound.names d id device hserves.process (hsame ▸ hget)
    · exact hsound.names d id old hserves.process hold
  aliases := by
    intro d₁ id device id' r hd₁ hget hactive hserved
    obtain rfl := Option.some.inj (hserves.process'.symm.trans hd₁)
    have hbefore : d.ownerDevices.get? id = some device := by
      rcases hserves.statics id with hsame | ⟨old, now, -, -, hsevered⟩
      · exact hsame ▸ hget
      · obtain rfl := Option.some.inj (hsevered.symm.trans hget)
        cases hactive
    rcases hserves.record hserved with ⟨r₀, hold, hkey, -⟩ | hdraws
    · rw [hkey]
      exact hsound.aliases d id device id' r₀ hserves.process hbefore hactive hold
    · obtain ⟨-, hnew, -, hcanonical⟩ := draws_issued henabled hdraws
      have hunserved : d.enrolledDevices.get? id' = none := by
        rw [Option.eq_none_iff_forall_ne_some]
        intro r₀ hr₀
        rw [(hsound.recorded id' r₀ (hsound.on_file hserves.process hr₀)).1] at hnew
        cases hnew
      cases s with
      | boot => cases hdraws
      | revoke => cases hdraws
      | mintInvite => cases hdraws
      | enroll submission deviceId registrySave save now killSave =>
          obtain rfl := hdraws.1
          have hresult :
            d' = (d.postDeviceEnroll parseSpki h.registryFile submission id' registrySave save now).devices := by
            have hprocess' := hserves.process'
            rw [hafter] at hprocess'
            simp only [after, hserves.process] at hprocess'
            exact (Option.some.inj hprocess').symm
          rw [hresult] at hget hserved
          exact Devices.postDeviceEnroll_aliases hunserved hserved hcanonical hget hactive

theorem booted_boots {opts : BootOptions} {killState : KillStateLoad} {killSave : StoreOutcome}
    (hprocess : (h.booted parseSpki opts killState killSave).process = some d) :
    Boots parseSpki opts h.registryFile h.standingFile d := by
  have hcase := boot_cases parseSpki opts h.registryFile h.standingFile
  unfold booted at hprocess
  generalize boot parseSpki opts h.registryFile h.standingFile = result at hcase hprocess
  cases hcase with
  | refused => cases hprocess
  | silent hboots => exact Option.some.inj hprocess ▸ hboots
  | persisted hboots =>
      dsimp only at hprocess
      split at hprocess
      · exact Option.some.inj hprocess ▸ hboots
      · cases hprocess

/-- A boot publishes nothing, or a file composed from the standing it reconciled. -/
theorem booted_published (h : Host) (opts : BootOptions) (killState : KillStateLoad) (killSave : StoreOutcome) :
    ((h.booted parseSpki opts killState killSave).publications = h.publications ∧
      (h.booted parseSpki opts killState killSave).standingFile = h.standingFile) ∨
    ∃ p, (h.booted parseSpki opts killState killSave).publications = p :: h.publications ∧
      (h.booted parseSpki opts killState killSave).standingFile = some p.standing ∧
      p.standing = p.devices.composeStanding ∧ Boots parseSpki opts h.registryFile h.standingFile p.devices ∧
      Adopts h.standingFile p.devices := by
  have hcase := boot_cases parseSpki opts h.registryFile h.standingFile
  unfold booted
  generalize boot parseSpki opts h.registryFile h.standingFile = result at hcase
  cases hcase with
  | refused => exact .inl ⟨rfl, rfl⟩
  | silent => exact .inl ⟨rfl, rfl⟩
  | @persisted d hboots hadopts =>
      dsimp only
      cases hpublished : (d.persistStanding opts.save).2 with
      | none => exact .inl ⟨rfl, rfl⟩
      | some f => exact .inr ⟨⟨f, d⟩, rfl, rfl, (Devices.persistStanding_published hpublished).2, hboots, hadopts⟩

/-- Every run is sound. -/
theorem sound_invariant (file : Option StandingMap) : (standingRuns parseSpki file).Invariant (Sound parseSpki) where
  init := by
    rintro h ⟨hprocess, -, hfile, hunstored, hrecorded⟩
    refine ⟨hrecorded, fun hstore => hfile.trans (hunstored hstore), ?_, ?_, ?_, ?_⟩ <;> simp [hprocess]
  step := by
    intro h s h' hsound hnext
    rcases next_cases hnext hsound.served with ⟨opts, killState, killSave, rfl, hopts, rfl⟩ | ⟨d, d', hserves⟩
    · exact booted_sound hsound killState killSave hopts
    · exact hserves.sound hnext.1 hnext.2 hsound

end Host

/-! ### One key, one identity -/

namespace Publication

variable (parseSpki : JsString → Option JsString) (p : Publication)

/-- The canonical key of an entry: its own SPKI, or that of the static device it stands for. -/
def entryKey (id : JsString) (st : DeviceStanding) : Option JsString :=
  match st.spki with
  | some text => parseSpki text
  | none => (p.devices.ownerDevices.get? id).map EnrolledOwnerDevice.publicKey

/-- What is known of a published file and the standing it was composed from. -/
structure Sound : Prop where
  composed : p.standing = p.devices.composeStanding
  canonical : ∀ id r, p.devices.enrolledDevices.get? id = some r →
    parseSpki r.cheapLaneKeySpki = some r.cheapLaneKeySpki
  aliases : ∀ id device id' r, p.devices.ownerDevices.get? id = some device → device.revokedAt = none →
    p.devices.enrolledDevices.get? id' = some r → r.cheapLaneKeySpki ≠ device.publicKey

variable {parseSpki p}

/-- Two active entries of a ceremony key are one. -/
theorem Sound.distinct (hsound : p.Sound parseSpki) {id id' key : JsString} {st st' : DeviceStanding}
    (hget : p.standing.get? id = some st) (hget' : p.standing.get? id' = some st') (hactive : st.revokedAt = none)
    (hactive' : st'.revokedAt = none) (hkey : p.entryKey parseSpki id st = some key)
    (hkey' : p.entryKey parseSpki id' st' = some key) (hspki : st.spki.isSome = true) : id = id' := by
  rw [hsound.composed] at hget hget'
  obtain ⟨r, hserved, hst⟩ : ∃ r, p.devices.enrolledDevices.get? id = some r ∧ st.spki = some r.cheapLaneKeySpki := by
    cases Devices.composedFrom hget with
    | registry r hserved hst => exact ⟨r, hserved, hst⟩
    | «static» device _ hnone => simp [hnone] at hspki
    | history old _ _ _ _ htombstone =>
        have hrevoked := htombstone (.inl hspki)
        rw [hactive] at hrevoked
        cases hrevoked
  have hk : key = r.cheapLaneKeySpki := by
    simp only [entryKey, hst, hsound.canonical id r hserved] at hkey
    exact (Option.some.inj hkey).symm
  subst hk
  cases Devices.composedFrom hget' with
  | registry r' hserved' hst' =>
      simp only [entryKey, hst', hsound.canonical id' r' hserved'] at hkey'
      exact Registry.unique_key hserved hserved' (Option.some.inj hkey').symm
  | «static» device hheld hnone hrevoked =>
      simp only [entryKey, hnone, hheld] at hkey'
      rw [hrevoked] at hactive'
      exact absurd (Option.some.inj hkey').symm (hsound.aliases id' device id r hheld hactive' hserved)
  | history old _ hunnamed _ _ htombstone =>
      cases hspki' : st'.spki with
      | some text =>
          have hrevoked := htombstone (.inl (by rw [hspki']; rfl))
          rw [hactive'] at hrevoked
          cases hrevoked
      | none =>
          simp only [entryKey, hspki', hunnamed] at hkey'
          cases hkey'

end Publication

namespace Host

variable {parseSpki : JsString → Option JsString}

theorem publications_invariant (file : Option StandingMap) :
    (standingRuns parseSpki file).Invariant fun h => h.Sound parseSpki ∧ ∀ p ∈ h.publications, p.Sound parseSpki where
  init := by
    intro h hinit
    refine ⟨(sound_invariant file).init h hinit, fun p hp => ?_⟩
    rw [hinit.2.1] at hp
    cases hp
  step := by
    rintro h s h' ⟨hsound, hpublished⟩ hnext
    have hsound' := (sound_invariant file).step h s h' hsound hnext
    refine ⟨hsound', fun p hp => ?_⟩
    rcases next_cases hnext hsound.served with ⟨opts, killState, killSave, rfl, hopts, rfl⟩ | ⟨d, d', hserves⟩
    · rcases booted_published h opts killState killSave with ⟨hsame, -⟩ | ⟨q, hnew, -, hcomposed, hboots, -⟩
      · exact hpublished p (hsame ▸ hp)
      · rw [hnew] at hp
        rcases List.mem_cons.mp hp with rfl | hold
        swap
        · exact hpublished p hold
        have hcanonical : ∀ id r, p.devices.enrolledDevices.get? id = some r →
            parseSpki r.cheapLaneKeySpki = some r.cheapLaneKeySpki :=
          fun id r hserved => (hsound.recorded id r (on_file_of_boots hboots hserved)).2
        refine ⟨hcomposed, hcanonical, fun id device id' r hget hactive hserved hkey => ?_⟩
        apply hboots.aliases id device id' r hget hactive hserved
        rw [hcanonical id' r hserved, hkey]
    · rcases hserves.file with ⟨-, hpublications, -⟩ | ⟨hpublications, -⟩
      · rw [hpublications] at hp
        rcases List.mem_cons.mp hp with rfl | hold
        · exact ⟨rfl, fun id r hr => (hsound'.recorded id r (hsound'.on_file hserves.process' hr)).2,
            fun id device id' r => hsound'.aliases d' id device id' r hserves.process'⟩
        · exact hpublished p hold
      · exact hpublished p (hpublications ▸ hp)

end Host

/-! ### Sample hosts -/

namespace StandingSample

/-- What every public key on the curve starts with. -/
def spkiHeader : JsString :=
  js "MFkwEwYHKoZIzj0CAQ" ++ js "YIKoZIzj0DAQcDQgAE"

/-- Two public keys on the curve, in the raw browser form. -/
def keyG : JsString :=
  spkiHeader ++ js "axfR8uEsQkf4vOblY6RA8n" ++ js "cDfYEt6zOg9KE5RdiYwpZP" ++
    js "40Li_hp_m47n60p8D54WK8" ++ js "4zV2sxXs7LtkBoN79R9Q"

def keyH : JsString :=
  spkiHeader ++ js "fPJ7GI0DT36KUjgDBLUaw8" ++ js "CJaeJ38hs1pgtI_EdmmXgH" ++
    js "d1UQ247QQCk9msafdDDbun" ++ js "2t5jzpgimeBLedInhz0Q"

/-- The parser on these two texts. -/
def parseSpki (text : JsString) : Option JsString :=
  if text = keyG ∨ text = keyH then some text else none

/-- A first boot: no standing file, no registry. -/
def start : Host where
  standingStore := true
  standingFile := none
  publications := []
  registryFile := .empty
  process := none
  killSwitch := .fresh
  issued := .empty

theorem init_start : (standingRuns parseSpki none).init start := by
  refine ⟨rfl, rfl, rfl, ?_, ?_⟩
  · intro h
    cases h
  · intro id r h
    cases h

theorem run (ls : List HostStep) (h : Lts.allEnabled (Host.after parseSpki) (Host.enabled parseSpki) start ls = true) :
    (standingRuns parseSpki none).Exec (Lts.trace (Host.after parseSpki) start ls)
      (ls.foldl (Host.after parseSpki) start) :=
  Lts.Exec.trace (fun _ _ henabled => And.intro henabled rfl) init_start h

/-- A boot that saves what it composes. -/
def boot (keys : List (JsString × JsString)) (registry : RegistryBoot) : HostStep :=
  .boot
    { ownerDeviceKeys := .ofList keys, standingStore := true, registry, read := .sound, save := .durable, now := 1000 }
    .absent .noStore

/-- An enrollment of a key under an id. -/
def enroll (credentialId key deviceId : JsString) (save : StandingSave) : HostStep :=
  .enroll (.verified ⟨credentialId, key⟩) deviceId .durable save 2000 .noStore

/-- Two static names are given one key. -/
def twoNames : List HostStep :=
  [boot [(js "phone", keyG), (js "tablet", keyG)] .unconfigured]

/-- A static key is enrolled, and the standing file cannot be written. -/
def unpersisted : List HostStep :=
  [boot [(js "phone", keyG)] .absent, enroll (js "cred") keyG (js "dev_1") (.failed (js "EROFS"))]

end StandingSample

/-- A static name and a ceremony id never both stand for one key: not in memory, and not in a published file. A
    severing that could not be persisted closes the lane and engages the kill switch. -/
theorem one_key_one_identity {parseSpki : JsString → Option JsString} {file : Option StandingMap}
    {es : List (Lts.Edge Host HostStep)} {h : Host} (hrun : (standingRuns parseSpki file).Exec es h) :
    (∀ d, h.process = some d → ∀ id device id' r, d.ownerDevices.get? id = some device →
      d.enrolledDevices.get? id' = some r → parseSpki r.cheapLaneKeySpki = some device.publicKey →
      device.revokedAt.isSome = true ∨ r.revokedAt.isSome = true) ∧
    (∀ p ∈ h.publications, ∀ id id' st st' key, p.standing.get? id = some st → p.standing.get? id' = some st' →
      st.revokedAt = none → st'.revokedAt = none → p.entryKey parseSpki id st = some key →
      p.entryKey parseSpki id' st' = some key → id = id' ∨ (st.spki = none ∧ st'.spki = none)) ∧
    ∀ e ∈ es, ∀ submission deviceId registrySave save now killSave,
      e.label = .enroll submission deviceId registrySave save now killSave →
      ∀ d d', e.src.process = some d → e.dst.process = some d' → d.standingStore = true →
      d'.ownerDevices ≠ d.ownerDevices → save ≠ .durable →
      d'.standingQuarantined = true ∧ e.dst.killSwitch.killed = true := by
  have hinv := hrun.invariant (Host.publications_invariant file)
  obtain ⟨hsound, hpublished⟩ := hinv
  refine ⟨?_, ?_, ?_⟩
  · intro d hd id device id' r hget hserved hkey
    have hcanonical := (hsound.recorded id' r (hsound.on_file hd hserved)).2
    rw [hcanonical] at hkey
    cases hactive : device.revokedAt with
    | some t => exact .inl rfl
    | none => exact absurd (Option.some.inj hkey) (hsound.aliases d id device id' r hd hget hactive hserved)
  · intro p hp id id' st st' key hget hget' hactive hactive' hkey hkey'
    have hp := hpublished p hp
    cases hspki : st.spki with
    | some text => exact .inl (hp.distinct hget hget' hactive hactive' hkey hkey' (by rw [hspki]; rfl))
    | none =>
        cases hspki' : st'.spki with
        | some text => exact .inl (hp.distinct hget' hget hactive' hactive hkey' hkey (by rw [hspki']; rfl)).symm
        | none => exact .inr ⟨rfl, rfl⟩
  · intro e he submission deviceId registrySave save now killSave hlabel d d' hd hd' hstore hsevered hsave
    have hafter := (hrun.next_of_mem he).2
    rw [hlabel] at hafter
    simp only [Host.after, hd] at hafter
    rw [hafter] at hd' ⊢
    obtain rfl := Option.some.inj hd'
    obtain ⟨hquarantined, reason, hengages⟩ := Devices.postDeviceEnroll_unpersisted hstore hsave hsevered
    refine ⟨hquarantined, ?_⟩
    show (Host.handled e.src _ now killSave).killSwitch.killed = true
    rw [Host.handled, hengages]
    exact KillSwitch.engage_killed

/-- A key that moved to the registry while the standing file could not be written. -/
theorem one_key_one_identity_unpersisted :
    (standingRuns StandingSample.parseSpki none).Exec
      (Lts.trace (Host.after StandingSample.parseSpki) StandingSample.start StandingSample.unpersisted)
      (StandingSample.unpersisted.foldl (Host.after StandingSample.parseSpki) StandingSample.start) ∧
    ∀ e ∈ Lts.trace (Host.after StandingSample.parseSpki) StandingSample.start StandingSample.unpersisted,
      ∀ submission deviceId registrySave save now killSave,
      e.label = .enroll submission deviceId registrySave save now killSave →
      ∀ d d', e.src.process = some d → e.dst.process = some d' → d.standingStore = true →
      d'.ownerDevices ≠ d.ownerDevices → save ≠ .durable →
      d'.standingQuarantined = true ∧ e.dst.killSwitch.killed = true := by
  have hrun := StandingSample.run StandingSample.unpersisted (by decide +kernel)
  exact ⟨hrun, (one_key_one_identity hrun).2.2⟩

/-- Two static names of one key are both published active. -/
theorem duplicate_static_names_published :
    ¬ ∀ (parseSpki : JsString → Option JsString) (file : Option StandingMap) (es : List (Lts.Edge Host HostStep))
        (h : Host), (standingRuns parseSpki file).Exec es h →
      ∀ p ∈ h.publications, ∀ id id' st st' key, p.standing.get? id = some st → p.standing.get? id' = some st' →
        st.revokedAt = none → st'.revokedAt = none → p.entryKey parseSpki id st = some key →
        p.entryKey parseSpki id' st' = some key → id = id' := by
  intro h
  have hrun := StandingSample.run StandingSample.twoNames (by decide +kernel)
  have hpublished : (StandingSample.twoNames.foldl (Host.after StandingSample.parseSpki)
      StandingSample.start).publications.head?.any (fun p =>
        p.standing.get? (js "phone") = some ⟨1, none, none⟩ ∧ p.standing.get? (js "tablet") = some ⟨1, none, none⟩ ∧
        p.entryKey StandingSample.parseSpki (js "phone") ⟨1, none, none⟩ = some StandingSample.keyG ∧
        p.entryKey StandingSample.parseSpki (js "tablet") ⟨1, none, none⟩ = some StandingSample.keyG) = true := by
    decide +kernel
  rw [Option.any_eq_true] at hpublished
  obtain ⟨p, hp, hentries⟩ := hpublished
  obtain ⟨hphone, htablet, hkey, hkey'⟩ := of_decide_eq_true hentries
  have hsame := h _ _ _ _ hrun p (List.mem_of_head? hp) _ _ _ _ _ hphone htablet rfl rfl hkey hkey'
  exact absurd hsame (by decide +kernel)

end OwnerSwitch
