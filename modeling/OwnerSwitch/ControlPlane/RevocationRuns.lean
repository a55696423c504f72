/-
Module: OwnerSwitch.ControlPlane.RevocationRuns
Layer: ControlPlane
Purpose: What a revocation that is answered as complete leaves for the other process: from that answer on the
  escalation reader finds no trusted entry of the device.
Imports: ControlPlane.StandingRuns
Trusted boundary: none beyond ControlPlane.StandingRuns
Main exports: RevocationsComplete, Unimpaired, Severed, revocation_complete
Open obligations: none
-/
import OwnerSwitch.ControlPlane.StandingRuns

namespace OwnerSwitch

/-- The answer claims completion: 200, or 503 with a standing path that could be written. -/
def RevokeReply.Complete (reply : RevokeReply) (save : StandingSave) : Prop :=
  reply.status = 200 ∨ (reply.status = 503 ∧ save = .durable)

/-- In a state, every revocation that the run answered as complete shows to the escalation reader. -/
def RevocationsComplete (es : List (Lts.Edge Host HostStep)) (h : Host) : Prop :=
  ∀ e ∈ es, ∀ id registrySave save now killSave d, e.label = .revoke id registrySave save now killSave →
    e.src.process = some d → (d.postDeviceRevoke e.src.registryFile id registrySave save now).reply.Complete save →
    deviceInGoodStanding h.standingFile id = false

/-- No boot reads the standing file as corrupt, and no publish of a revocation in the registry fails. -/
def Unimpaired (e : Lts.Edge Host HostStep) : Prop :=
  match e.label with
  | .boot opts .. => opts.read = .sound
  | .revoke id registrySave .. => ∀ d record, e.src.process = some d → d.ownerDevices.get? id = none →
      d.enrolledDevices.get? id = some record → record.revokedAt = none → registrySave = .durable
  | _ => True

namespace Host

variable {parseSpki : JsString → Option JsString} {file : Option StandingMap} {h h' : Host} {s : HostStep}
    {d d' : Devices}

/-! ### Revoked static devices are revoked in the file -/

/-- Unless the lane is quarantined, the file shows each static device revoked that the process holds revoked. -/
def StaticsExported (h : Host) : Prop :=
  ∀ d id device, h.process = some d → d.standingStore = true → d.standingQuarantined = false →
    d.ownerDevices.get? id = some device → device.revokedAt.isSome = true →
    ∃ f st, h.standingFile = some f ∧ f.get? id = some st ∧ st.revokedAt.isSome = true

/-- A boot that reads the file soundly and starts has nothing to export, or has published what it starts with. -/
theorem booted_started {opts : BootOptions} {killState : KillStateLoad} {killSave : StoreOutcome}
    (hread : opts.read = .sound) (hprocess : (h.booted parseSpki opts killState killSave).process = some d) :
    opts.standingStore = false ∨
      ((∀ id, d.ownerDevices.get? id = none) ∧ d.enrolledDevices = .unconfigured ∧ d.unenrolledStanding = .empty) ∨
      ((h.booted parseSpki opts killState killSave).standingFile = some d.composeStanding ∧
        Adopts h.standingFile d) := by
  have hcase := boot_cases parseSpki opts h.registryFile h.standingFile
  unfold booted at hprocess ⊢
  generalize boot parseSpki opts h.registryFile h.standingFile = result at hcase hprocess ⊢
  cases hcase with
  | refused => cases hprocess
  | silent _ hwhy =>
      obtain rfl := Option.some.inj hprocess
      rcases hwhy with hstore | ⟨hsize, hregistry, hhistory⟩ | hcorrupt
      · exact .inl hstore
      · exact .inr (.inl ⟨JsMap.get?_of_size_eq_zero hsize, hregistry, hhistory⟩)
      · rw [hread] at hcorrupt
        cases hcorrupt
  | persisted _ hadopts =>
      dsimp only at hprocess ⊢
      split at hprocess
      · rename_i hdurable
        obtain rfl := Option.some.inj hprocess
        refine .inr (.inr ⟨?_, hadopts⟩)
        rw [(Devices.persistStanding_durable hdurable).2.2]
        rfl
      · cases hprocess

/-- A composed file has the standing of each static device. -/
theorem composed_static (hsound : h.Sound parseSpki) (hprocess : h.process = some d) {id : JsString}
    {device : EnrolledOwnerDevice} (hget : d.ownerDevices.get? id = some device) :
    ∃ st, d.composeStanding.get? id = some st ∧ st.revokedAt = device.revokedAt := by
  have hregistry : d.enrolledDevices.get? id = none := by
    rw [Option.eq_none_iff_forall_ne_some]
    intro r hserved
    rw [hsound.not_static hprocess hserved] at hget
    cases hget
  exact ⟨_, Devices.get?_composeStanding_of_static hregistry hget, rfl⟩

theorem staticsExported_step (hsound : h.Sound parseSpki) (hexported : StaticsExported h)
    (hnext : (standingRuns parseSpki file).next h s h') (hunimpaired : Unimpaired ⟨h, s, h'⟩) :
    StaticsExported h' := by
  have hsound' := (sound_invariant file).step h s h' hsound hnext
  rcases next_cases hnext hsound.served with ⟨opts, killState, killSave, rfl, hopts, rfl⟩ | ⟨d, d', hserves⟩
  · intro d id device hprocess hstore _ hget hrevoked
    rcases booted_started hunimpaired hprocess with hnone | ⟨hidle, -⟩ | ⟨hfile, -⟩
    · rw [hsound'.configured d hprocess] at hstore
      rw [show h.standingStore = true from hstore] at hopts
      rw [hopts] at hnone
      cases hnone
    · rw [hidle id] at hget
      cases hget
    · obtain ⟨st, hst, hsame⟩ := composed_static hsound' hprocess hget
      exact ⟨_, st, hfile, hst, by rw [hsame]; exact hrevoked⟩
  · intro d₁ id device hprocess hstore hsettled hget hrevoked
    obtain rfl := Option.some.inj (hserves.process'.symm.trans hprocess)
    rcases hserves.file with ⟨-, -, hfile, -⟩ | ⟨-, hfile, hkept⟩
    · obtain ⟨st, hst, hsame⟩ := composed_static hsound' hprocess hget
      exact ⟨_, st, hfile, hst, by rw [hsame]; exact hrevoked⟩
    · rw [hserves.store] at hstore
      rcases hkept hstore with hquarantined | ⟨hstatics, hquarantine⟩
      · rw [hsettled] at hquarantined
        cases hquarantined
      · rw [hfile]
        exact hexported d id device hserves.process hstore (hquarantine ▸ hsettled) (hstatics ▸ hget) hrevoked

/-! ### A revoked device stays revoked -/

/-- The standing of a process can only bring a device back as revoked, and can bring back a static one. -/
structure Retains (id : JsString) (d : Devices) : Prop where
  «static» : ∀ device, d.ownerDevices.get? id = some device → device.revokedAt.isSome = true
  history : ∀ st, d.unenrolledStanding.get? id = some st → isCeremonyId id = false → st.revokedAt.isSome = true
  kept : isCeremonyId id = false → (∃ device, d.ownerDevices.get? id = some device) ∨
    (∃ st, d.unenrolledStanding.get? id = some st) ∨
    ((∀ id', d.ownerDevices.get? id' = none) ∧ d.enrolledDevices = .unconfigured)

/-- A device that no file and no process of a host brings back to good standing. -/
structure Severed (id : JsString) (h : Host) : Prop where
  configured : h.standingStore = true
  shown : ∀ f st, h.standingFile = some f → f.get? id = some st → st.revokedAt.isSome = true
  listed : isCeremonyId id = false → ∃ f st, h.standingFile = some f ∧ f.get? id = some st
  record : ∀ r, h.registryFile.devices.get? id = some r → r.revokedAt.isSome = true
  drawn : isCeremonyId id = true → ∃ key, h.issued.get? id = some key
  retained : ∀ d, h.process = some d → Retains id d

theorem Severed.untrusted {id : JsString} (hsevered : Severed id h) :
    deviceInGoodStanding h.standingFile id = false := by
  unfold deviceInGoodStanding
  cases hfile : h.standingFile with
  | none => rfl
  | some f =>
      dsimp only
      cases hget : f.get? id with
      | none => rfl
      | some st =>
          have hrevoked := hsevered.shown f st hfile hget
          rw [Option.any_some, ← Option.not_isSome, hrevoked]
          rfl

/-- A file composed from a standing that retains the device shows it revoked. -/
theorem Retains.composed {id : JsString} (hretains : Retains id d)
    (hrecord : ∀ r, d.enrolledDevices.get? id = some r → r.revokedAt.isSome = true) {st : DeviceStanding}
    (hget : d.composeStanding.get? id = some st) : st.revokedAt.isSome = true := by
  cases Devices.composedFrom hget with
  | registry r hserved _ hsame =>
      rw [hsame]
      exact hrecord r hserved
  | «static» device hheld _ hsame =>
      rw [hsame]
      exact hretains.static device hheld
  | history old hold _ _ hverbatim htombstone =>
      cases hceremony : isCeremonyId id with
      | true => exact htombstone (.inr hceremony)
      | false =>
          have hrevoked := hretains.history old hold hceremony
          rw [hverbatim hrevoked]
          exact hrevoked

/-- A composed file has an entry for every static name and for every name of the history. -/
theorem composed_entry {id : JsString} (hregistry : d.enrolledDevices.get? id = none)
    (hlisted : (∃ device, d.ownerDevices.get? id = some device) ∨ ∃ st, d.unenrolledStanding.get? id = some st) :
    ∃ st, d.composeStanding.get? id = some st := by
  cases hstatic : d.ownerDevices.get? id with
  | some device => exact ⟨_, Devices.get?_composeStanding_of_static hregistry hstatic⟩
  | none =>
      rcases hlisted with ⟨device, hheld⟩ | ⟨old, hold⟩
      · rw [hstatic] at hheld
        cases hheld
      · obtain ⟨st, hst, -⟩ := Devices.get?_composeStanding_of_history hregistry hstatic hold
        exact ⟨st, hst⟩

/-- A boot that reads the file finds a static name in its keys file or keeps it as history. -/
theorem Severed.listed_of_adopts {id : JsString} (hsevered : Severed id h) (hadopts : Adopts h.standingFile d)
    (hceremony : isCeremonyId id = false) :
    (∃ device, d.ownerDevices.get? id = some device) ∨ ∃ st, d.unenrolledStanding.get? id = some st := by
  obtain ⟨f, st, hfile, hget⟩ := hsevered.listed hceremony
  rcases hadopts.adopted f id st hfile hget with ⟨device, hheld, -⟩ | hhistory
  · exact .inl ⟨device, hheld⟩
  · exact .inr ⟨st, hhistory⟩

/-- A boot that reads the file takes the severing over. -/
theorem Severed.retains_of_adopts {id : JsString} (hsevered : Severed id h) {opts : BootOptions}
    (hboots : Boots parseSpki opts h.registryFile h.standingFile d) (hadopts : Adopts h.standingFile d) :
    Retains id d where
  «static» := by
    intro device hheld
    obtain ⟨hceremony, hunlisted⟩ := hboots.names id device hheld
    obtain ⟨f, st, hfile, hget⟩ := hsevered.listed hceremony
    rcases hadopts.adopted f id st hfile hget with ⟨device', hheld', hrevoked⟩ | hhistory
    · obtain rfl := Option.some.inj (hheld.symm.trans hheld')
      exact hrevoked (hsevered.shown f st hfile hget)
    · rw [hunlisted] at hhistory
      cases hhistory
  history := by
    intro st hget _
    obtain ⟨f, hfile, hst⟩ := hboots.history id st hget
    exact hsevered.shown f st hfile hst
  kept := by
    intro hceremony
    rcases hsevered.listed_of_adopts hadopts hceremony with hstatic | hhistory
    · exact .inl hstatic
    · exact .inr (.inl hhistory)

theorem booted_registryFile {opts : BootOptions} {killState : KillStateLoad} {killSave : StoreOutcome} {id : JsString}
    {r : PersistedEnrolledDevice}
    (hget : (h.booted parseSpki opts killState killSave).registryFile.devices.get? id = some r) :
    h.registryFile.devices.get? id = some r := by
  have hcase := boot_cases parseSpki opts h.registryFile h.standingFile
  unfold booted at hget
  generalize boot parseSpki opts h.registryFile h.standingFile = result at hcase hget
  cases hcase with
  | refused => exact hget
  | silent => exact initialize_file hget
  | persisted => exact initialize_file hget

theorem not_served_of_boots {opts : BootOptions}
    (hboots : Boots parseSpki opts h.registryFile h.standingFile d) {id : JsString}
    (hceremony : isCeremonyId id = false) : d.enrolledDevices.get? id = none := by
  rw [Option.eq_none_iff_forall_ne_some]
  intro r hserved
  rw [h.registryFile.ceremonyIds id r (on_file_of_boots hboots hserved)] at hceremony
  cases hceremony

theorem Severed.booted {id : JsString} (hsevered : Severed id h) {opts : BootOptions}
    (killState : KillStateLoad) (killSave : StoreOutcome) (hread : opts.read = .sound)
    (hopts : opts.standingStore = h.standingStore) :
    Severed id (h.booted parseSpki opts killState killSave) := by
  have hretained : ∀ d, (h.booted parseSpki opts killState killSave).process = some d → Retains id d := by
    intro d hprocess
    rcases booted_started hread hprocess with hnone | ⟨hidle, hunconfigured, hempty⟩ | ⟨-, hadopts⟩
    · rw [hopts, hsevered.configured] at hnone
      cases hnone
    · refine ⟨fun device hheld => ?_, fun st hget => ?_, fun _ => .inr (.inr ⟨hidle, hunconfigured⟩)⟩
      · rw [hidle id] at hheld
        cases hheld
      · rw [hempty] at hget
        cases hget
    · exact hsevered.retains_of_adopts (booted_boots hprocess) hadopts
  have hrecord : ∀ r, (h.booted parseSpki opts killState killSave).registryFile.devices.get? id = some r →
      r.revokedAt.isSome = true :=
    fun r hget => hsevered.record r (booted_registryFile hget)
  rcases h.booted_published opts killState killSave with
    ⟨-, hfile⟩ | ⟨p, -, hfile, hcomposed, hboots, hadopts⟩
  · refine ⟨hsevered.configured, ?_, ?_, hrecord, hsevered.drawn, hretained⟩
    · rw [hfile]
      exact hsevered.shown
    · rw [hfile]
      exact hsevered.listed
  · have hretains := hsevered.retains_of_adopts hboots hadopts
    refine ⟨hsevered.configured, fun f st hf hget => ?_, fun hceremony => ?_, hrecord, hsevered.drawn, hretained⟩
    · rw [hfile, hcomposed] at hf
      obtain rfl := Option.some.inj hf
      exact hretains.composed (fun r hserved => hsevered.record r (on_file_of_boots hboots hserved)) hget
    · obtain ⟨st, hst⟩ := composed_entry (not_served_of_boots hboots hceremony)
        (hsevered.listed_of_adopts hadopts hceremony)
      exact ⟨_, st, hfile, hcomposed ▸ hst⟩

/-- A request leaves the static names as they are. -/
theorem Serves.static_forth (hserves : Serves h h' s d d') {id : JsString}
    (hheld : ∃ device, d.ownerDevices.get? id = some device) : ∃ device, d'.ownerDevices.get? id = some device := by
  obtain ⟨device, hheld⟩ := hheld
  rcases hserves.statics id with hsame | ⟨_, now, -, -, hsevered⟩
  · exact ⟨device, hsame.trans hheld⟩
  · exact ⟨_, hsevered⟩

/-- A request keeps the severing. -/
theorem Serves.retains {id : JsString} (hserves : Serves h h' s d d') (hretains : Retains id d) : Retains id d' where
  «static» := by
    intro device' hheld'
    rcases hserves.statics id with hsame | ⟨device, now, -, -, hsevered⟩
    · exact hretains.static device' (hsame ▸ hheld')
    · obtain rfl := Option.some.inj (hsevered.symm.trans hheld')
      rfl
  history := by
    rw [hserves.history]
    exact hretains.history
  kept := by
    intro hceremony
    rw [hserves.history]
    rcases hretains.kept hceremony with hheld | hhistory | ⟨hidle, hunconfigured⟩
    · exact .inl (hserves.static_forth hheld)
    · exact .inr (.inl hhistory)
    · refine .inr (.inr ⟨fun id' => ?_, ?_⟩)
      · rcases hserves.statics id' with hsame | ⟨device, now, hheld, -⟩
        · rw [hsame]
          exact hidle id'
        · rw [hidle id'] at hheld
          cases hheld
      · have hregistry := hserves.registry
        generalize d'.enrolledDevices = registry' at hregistry ⊢
        generalize h'.registryFile = file' at hregistry
        cases hregistry with
        | kept => exact hunconfigured
        | moved husable =>
            rw [hunconfigured] at husable
            cases husable

theorem Severed.served {id : JsString} (hsevered : Severed id h) (hsound : h.Sound parseSpki)
    (hsound' : h'.Sound parseSpki) (henabled : h.enabled parseSpki s = true) (hserves : Serves h h' s d d') :
    Severed id h' := by
  have hretains := hserves.retains (hsevered.retained d hserves.process)
  have hrecord : ∀ r, h'.registryFile.devices.get? id = some r → r.revokedAt.isSome = true := by
    intro r hget
    rcases hserves.file_record hsound hget with ⟨r₀, hold, -, hkept⟩ | hdraws
    · have hrevoked := hsevered.record r₀ hold
      rw [hkept hrevoked]
      exact hrevoked
    · obtain ⟨hceremony, hunissued, -⟩ := draws_issued henabled hdraws
      obtain ⟨key, hissued⟩ := hsevered.drawn hceremony
      rw [hunissued] at hissued
      cases hissued
  have hdrawn : isCeremonyId id = true → ∃ key, h'.issued.get? id = some key := by
    intro hceremony
    obtain ⟨key, hissued⟩ := hsevered.drawn hceremony
    rw [hserves.issued]
    exact ⟨key, issues_kept henabled hissued⟩
  have hretained : ∀ d₁, h'.process = some d₁ → Retains id d₁ := by
    intro d₁ hprocess
    obtain rfl := Option.some.inj (hserves.process'.symm.trans hprocess)
    exact hretains
  have hconfigured : h'.standingStore = true := hserves.configured.trans hsevered.configured
  rcases hserves.file with ⟨-, -, hfile, -, hproducer⟩ | ⟨-, hfile, -⟩
  · refine ⟨hconfigured, fun f st hf hget => ?_, fun hceremony => ?_, hrecord, hdrawn, hretained⟩
    · rw [hfile] at hf
      obtain rfl := Option.some.inj hf
      exact hretains.composed (fun r hserved => hrecord r (hsound'.on_file hserves.process' hserved)) hget
    · have hunserved : d'.enrolledDevices.get? id = none := by
        rw [Option.eq_none_iff_forall_ne_some]
        intro r hserved
        rw [h'.registryFile.ceremonyIds id r (hsound'.on_file hserves.process' hserved)] at hceremony
        cases hceremony
      have hlisted : (∃ device, d'.ownerDevices.get? id = some device) ∨
          ∃ st, d'.unenrolledStanding.get? id = some st := by
        rcases (hsevered.retained d hserves.process).kept hceremony with hheld | hhistory | ⟨hidle, hunconfigured⟩
        · exact .inl (hserves.static_forth hheld)
        · exact .inr (hserves.history ▸ hhistory)
        · obtain ⟨id', device, hheld⟩ := hproducer hunconfigured
          rw [hidle id'] at hheld
          cases hheld
      obtain ⟨st, hst⟩ := composed_entry hunserved hlisted
      exact ⟨_, st, hfile, hst⟩
  · refine ⟨hconfigured, ?_, ?_, hrecord, hdrawn, hretained⟩
    · rw [hfile]
      exact hsevered.shown
    · rw [hfile]
      exact hsevered.listed

/-- A static device that the process holds revoked and the file shows revoked. -/
theorem Severed.of_static (hsound : h.Sound parseSpki) (hstore : h.standingStore = true) (hprocess : h.process = some d)
    {id : JsString} {device : EnrolledOwnerDevice} (hheld : d.ownerDevices.get? id = some device)
    (hrevoked : device.revokedAt.isSome = true) {f : StandingMap} {st : DeviceStanding}
    (hfile : h.standingFile = some f) (hget : f.get? id = some st) (hst : st.revokedAt.isSome = true) :
    Severed id h := by
  obtain ⟨hceremony, hunlisted⟩ := hsound.names d id device hprocess hheld
  refine ⟨hstore, fun f' st' hf' hget' => ?_, fun _ =>
    ⟨f, st, hfile, hget⟩, fun r hr => ?_, fun hid => ?_, fun d' hd' => ?_⟩
  · obtain rfl := Option.some.inj (hfile.symm.trans hf')
    obtain rfl := Option.some.inj (hget.symm.trans hget')
    exact hst
  · rw [h.registryFile.ceremonyIds id r hr] at hceremony
    cases hceremony
  · rw [hceremony] at hid
    cases hid
  · obtain rfl := Option.some.inj (hprocess.symm.trans hd')
    refine ⟨fun device' hheld' => ?_, fun st' hst' => ?_, fun _ => .inl ⟨device, hheld⟩⟩
    · obtain rfl := Option.some.inj (hheld.symm.trans hheld')
      exact hrevoked
    · rw [hunlisted] at hst'
      cases hst'

/-- A ceremony-enrolled device that the registry holds revoked, under the file composed from it. -/
theorem Severed.of_record (hsound : h.Sound parseSpki) (hstore : h.standingStore = true) (hprocess : h.process = some d)
    {id : JsString} {record : PersistedEnrolledDevice} (hserved : d.enrolledDevices.get? id = some record)
    (hrevoked : record.revokedAt.isSome = true) (hfile : h.standingFile = some d.composeStanding) : Severed id h := by
  have honFile := hsound.on_file hprocess hserved
  have hceremony := h.registryFile.ceremonyIds id record honFile
  have hretains : Retains id d := by
    refine ⟨fun device hheld => ?_, fun st _ hid => ?_, fun hid => ?_⟩
    · rw [hsound.not_static hprocess hserved] at hheld
      cases hheld
    · rw [hceremony] at hid
      cases hid
    · rw [hceremony] at hid
      cases hid
  have hrecord : ∀ r, h.registryFile.devices.get? id = some r → r.revokedAt.isSome = true := by
    intro r hr
    obtain rfl := Option.some.inj (honFile.symm.trans hr)
    exact hrevoked
  refine ⟨hstore, fun f st hf hget => ?_, fun hid => ?_, hrecord, fun _ => ⟨_, (hsound.recorded id record honFile).1⟩,
    fun d' hd' => ?_⟩
  · obtain rfl := Option.some.inj (hfile.symm.trans hf)
    exact hretains.composed (fun r hr => hrecord r (hsound.on_file hprocess hr)) hget
  · rw [hceremony] at hid
    cases hid
  · obtain rfl := Option.some.inj (hprocess.symm.trans hd')
    exact hretains

/-- A revocation answered as complete severs the device. -/
theorem severed_of_complete (hsound : h.Sound parseSpki) (hexported : StaticsExported h)
    (hstore : h.standingStore = true)
    {id : JsString} {registrySave : RegistrySave} {save : StandingSave} {now : Int} {killSave : StoreOutcome}
    (hnext : (standingRuns parseSpki file).next h (.revoke id registrySave save now killSave) h')
    (hprocess : h.process = some d)
    (hunimpaired : Unimpaired ⟨h, .revoke id registrySave save now killSave, h'⟩)
    (hcomplete : (d.postDeviceRevoke h.registryFile id registrySave save now).reply.Complete save) : Severed id h' := by
  have hsound' := (sound_invariant file).step h _ h' hsound hnext
  have hafter : h' = h.handled (d.postDeviceRevoke h.registryFile id registrySave save now) now killSave := by
    rw [hnext.2]
    simp only [after, hprocess]
  have hcase := Devices.postDeviceRevoke_complete
    ((hsound.configured d hprocess).trans hstore) (fun hunnamed record hserved hactive =>
      hunimpaired d record hprocess hunnamed hserved hactive) hcomplete
  have hstore' : h'.standingStore = true := by
    rw [hafter]
    exact hstore
  have hprocess' : h'.process = some (d.postDeviceRevoke h.registryFile id registrySave save now).devices := by
    rw [hafter]
    rfl
  have hpublished : (d.postDeviceRevoke h.registryFile id registrySave save now).published
        = some (d.postDeviceRevoke h.registryFile id registrySave save now).devices.composeStanding →
      h'.standingFile = some (d.postDeviceRevoke h.registryFile id registrySave save now).devices.composeStanding := by
    intro hset
    rw [hafter, handled, hset]
    rfl
  cases hcase with
  | already device hheld hrevoked hsettled hkept =>
      obtain ⟨f, st, hfile, hget, hst⟩ := hexported d id device hprocess ((hsound.configured d hprocess).trans hstore)
        hsettled hheld hrevoked
      have hfile' : h'.standingFile = some f := by
        rw [hafter, handled, hkept]
        exact hfile
      have hheld' : (d.postDeviceRevoke h.registryFile id registrySave save now).devices.ownerDevices.get? id
          = some device := by
        rw [hkept]
        exact hheld
      exact .of_static hsound' hstore' hprocess' hheld' hrevoked hfile' hget hst
  | ofStatic device hheld hrevoked hset =>
      obtain ⟨st, hst, hsame⟩ := composed_static hsound' hprocess' hheld
      exact .of_static hsound' hstore' hprocess' hheld hrevoked (hpublished hset) hst (hsame ▸ hrevoked)
  | ofRecord hunnamed record hserved hrevoked hset =>
      exact .of_record hsound' hstore' hprocess' hserved hrevoked (hpublished hset)

theorem Severed.step {id : JsString} (hsevered : Severed id h) (hsound : h.Sound parseSpki)
    (hnext : (standingRuns parseSpki file).next h s h') (hunimpaired : Unimpaired ⟨h, s, h'⟩) : Severed id h' := by
  have hsound' := (sound_invariant file).step h s h' hsound hnext
  rcases next_cases hnext hsound.served with ⟨opts, killState, killSave, rfl, hopts, rfl⟩ | ⟨d, d', hserves⟩
  · exact hsevered.booted killState killSave hunimpaired hopts
  · exact hsevered.served hsound hsound' hnext.1 hserves

theorem staticsExported_of_run {es : List (Lts.Edge Host HostStep)} (hrun : (standingRuns parseSpki file).Exec es h) :
    (∀ e ∈ es, Unimpaired e) → StaticsExported h := by
  refine hrun.induct (I := fun es h => (∀ e ∈ es, Unimpaired e) → StaticsExported h) ?_ ?_
  · intro h hinit _ d id device hprocess
    rw [hinit.1] at hprocess
    cases hprocess
  · intro es h s h' hpre ih hnext hunimpaired
    rw [List.forall_mem_append, List.forall_mem_singleton] at hunimpaired
    exact staticsExported_step (hpre.invariant (sound_invariant file)) (ih hunimpaired.1) hnext hunimpaired.2

end Host

/-- In a run in which no boot reads the standing file as corrupt and no registry publish of a revocation fails, a
    revocation answered as complete is complete for the escalation reader, from that answer on. -/
theorem revocation_complete {parseSpki : JsString → Option JsString} {file : Option StandingMap}
    {es : List (Lts.Edge Host HostStep)} {h : Host} (hrun : (standingRuns parseSpki file).Exec es h)
    (hunimpaired : ∀ e ∈ es, Unimpaired e) : RevocationsComplete es h := by
  intro e he id registrySave save now killSave d hlabel hprocess hcomplete
  have hsound := hrun.invariant (Host.sound_invariant file)
  cases hstore : h.standingStore with
  | false =>
      rw [hsound.unstored hstore]
      rfl
  | true =>
      obtain ⟨pre, post, rfl⟩ := List.append_of_mem he
      obtain ⟨hpre, hnext, hpost⟩ := hrun.split
      have hconfigured : e.src.standingStore = true := by
        have hsame : h.standingStore = e.src.standingStore :=
          ((Lts.Path.single hnext).append hpost).stable (P := fun h => h.standingStore = e.src.standingStore)
            (fun _ _ _ hs hnext => (Host.next_configured hnext).trans hs) rfl
        rw [← hsame, hstore]
      have hsevered : Host.Severed id e.dst := by
        have hunimpaired' := hunimpaired e (by simp)
        obtain ⟨src, label, dst⟩ := e
        obtain rfl := hlabel
        exact Host.severed_of_complete (hpre.invariant (Host.sound_invariant file))
          (Host.staticsExported_of_run hpre fun e' he' => hunimpaired e' (by simp [he'])) hconfigured hnext hprocess
          hunimpaired' hcomplete
      have hkept : h.Sound parseSpki ∧ Host.Severed id h := by
        apply hpost.stable_of_mem (P := fun h => h.Sound parseSpki ∧ Host.Severed id h)
        · intro e' he' ⟨hsound, hsevered⟩
          have hnext' := hpost.next_of_mem he'
          exact ⟨(Host.sound_invariant file).step _ _ _ hsound hnext',
            hsevered.step hsound hnext' (hunimpaired e' (by simp [he']))⟩
        · exact ⟨(Host.sound_invariant file).step _ _ _ (hpre.invariant (Host.sound_invariant file)) hnext, hsevered⟩
      exact hkept.2.untrusted

/-! ### A sample -/

namespace StandingSample

/-- A key is enrolled as `dev_1`. -/
def enrolling : List HostStep :=
  [boot [(js "phone", keyG)] .absent, enroll (js "cred") keyH (js "dev_1") .durable]

def enrolled : Host :=
  enrolling.foldl (Host.after parseSpki) start

/-- `dev_1` is enrolled, then revoked with a given publish of the registry. -/
def revoked (registrySave : RegistrySave) : List HostStep :=
  enrolling ++ [.revoke (js "dev_1") registrySave .durable 3000 .noStore]

theorem unimpaired_revoked :
    ∀ e ∈ Lts.trace (Host.after parseSpki) start (revoked .durable), Unimpaired e := by
  intro e he
  simp only [revoked, enrolling, List.cons_append, List.nil_append, Lts.trace, List.mem_cons, List.not_mem_nil,
    or_false] at he
  rcases he with rfl | rfl | rfl
  · exact rfl
  · exact True.intro
  · exact fun _ _ _ _ _ _ => rfl

end StandingSample

/-- The revocation of a device that was enrolled. -/
theorem revocation_complete_enrolled :
    RevocationsComplete (Lts.trace (Host.after StandingSample.parseSpki) StandingSample.start
        (StandingSample.revoked .durable))
      ((StandingSample.revoked .durable).foldl (Host.after StandingSample.parseSpki) StandingSample.start) :=
  revocation_complete (StandingSample.run (StandingSample.revoked .durable) (by decide +kernel))
    StandingSample.unimpaired_revoked

/-- A revocation whose registry publish fails is answered 503 and writes no standing file: the other process goes on
    trusting the device. -/
theorem revoked_device_trusted :
    ¬ ∀ (parseSpki : JsString → Option JsString) (file : Option StandingMap) (es : List (Lts.Edge Host HostStep))
        (h : Host), (standingRuns parseSpki file).Exec es h → RevocationsComplete es h := by
  intro h
  have hcomplete := h _ _ _ _ (StandingSample.run (StandingSample.revoked (.failed (js "EIO"))) (by decide +kernel))
  have htrusted : deviceInGoodStanding ((StandingSample.revoked (.failed (js "EIO"))).foldl
      (Host.after StandingSample.parseSpki) StandingSample.start).standingFile (js "dev_1") = true := by
    decide +kernel
  have hanswered : StandingSample.enrolled.process.any (fun d => decide ((d.postDeviceRevoke
      StandingSample.enrolled.registryFile (js "dev_1") (.failed (js "EIO")) .durable 3000).reply.status = 503)) = true := by
    decide +kernel
  obtain ⟨d, hprocess, hstatus⟩ := (Option.any_eq_true _ _).mp hanswered
  have huntrusted := hcomplete _ (Lts.mem_trace_append StandingSample.start StandingSample.enrolling _) _ _ _ _ _ d rfl
    hprocess (.inr ⟨of_decide_eq_true hstatus, rfl⟩)
  rw [htrusted] at huntrusted
  cases huntrusted

end OwnerSwitch
