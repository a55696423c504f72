/-
Module: OwnerSwitch.ControlPlane.StandingRoundTrip
Layer: ControlPlane
Purpose: Whether a standing file that was saved durably is loaded as it was saved. The save checks nothing, so the
  loader refuses what the three sources can hold and the file may not.
Imports: ControlPlane.StandingFile, Lib.JsonSize
Trusted boundary: none beyond ControlPlane.StandingFile
Main exports: StandingSources.Writable, standing_round_trip_iff, standing_round_trip_refused
Open obligations: none
-/
import OwnerSwitch.ControlPlane.StandingFile
import OwnerSwitch.Lib.JsonSize

namespace OwnerSwitch

open Json
open RegistryFile (asGeneration asTime timeJson asGeneration_ofInt)

/-! ### Entries -/

theorem normal_standingJson (standing : DeviceStanding) : Normal standing.toJson := by
  apply normal_present (K := standingKeys) rfl (by decide) (by decide)
  simp only [DeviceStanding.fields, List.mem_cons, List.not_mem_nil, or_false, forall_eq_or_imp, forall_eq,
    Option.mem_def, Option.some.injEq, forall_eq']
  refine ⟨.num, ?_, ?_⟩
  · cases standing.revokedAt with
    | none => exact .null
    | some t => exact .num
  · intro v hv
    obtain ⟨spki, -, rfl⟩ := Option.map_eq_some_iff.mp hv
    exact .str

/-- A property of a written standing is its field. -/
theorem get_standingJson (standing : DeviceStanding) (k : JsString) :
    standing.toJson.get k = (JsMap.findEntry standing.fields k).join :=
  get_present (K := standingKeys) rfl (by decide) k

theorem property_generation (standing : DeviceStanding) :
    standing.toJson.property (js "generation") asGeneration = asGeneration (.num (.ofInt standing.generation)) := by
  rw [property, get_standingJson]
  rfl

theorem property_revokedAt (standing : DeviceStanding) :
    standing.toJson.property (js "revokedAt") asTime = some standing.revokedAt := by
  rw [property, get_standingJson]
  show asTime (timeJson standing.revokedAt) = _
  cases standing.revokedAt with
  | none => rfl
  | some t => rfl

theorem get_spki (standing : DeviceStanding) : standing.toJson.get (js "spki") = standing.spki.map .str := by
  rw [get_standingJson]
  rfl

/-- A key is read as its own text, where it is base64url. -/
theorem asStandingSpki_str {text text' : JsString} :
    asStandingSpki 2 (.str text) = some text' ↔ text = text' ∧ isBase64urlText text' = true := by
  rw [asStandingSpki, if_pos rfl, str?, Option.filter_eq_some_iff, Option.some.injEq]

/-- What an entry needs to be read back. -/
structure ValidStanding (deviceId : JsString) (standing : DeviceStanding) : Prop where
  name : isStandingId deviceId = true
  generation : asGeneration (.num (.ofInt standing.generation)) = some standing.generation
  spki : ∀ spki ∈ standing.spki, isBase64urlText spki = true

/-- What is read as an entry was written for it. -/
theorem asStanding_recovers (deviceId : JsString) : Recovers DeviceStanding.toJson (asStanding 2 deviceId) := by
  intro standing standing' h
  simp only [asStanding, Option.bind_eq_bind, Option.bind_eq_some_iff, Option.guard_eq_some', exists_const,
    Option.some.injEq, property_generation, property_revokedAt, get_spki, exists_eq_left'] at h
  obtain ⟨-, fs, -, -, generation, hgeneration, spki, hspki, rfl⟩ := h
  have hkey : Recovers Json.str (asStandingSpki 2) := by
    intro text text' htext
    exact (asStandingSpki_str.mp htext).1.symm
  rw [asGeneration_ofInt hgeneration, readOptional_recovers hkey hspki]

/-- An entry is read back exactly when it is valid. -/
theorem asStanding_iff {deviceId : JsString} {standing : DeviceStanding} :
    asStanding 2 deviceId standing.toJson = some standing ↔ ValidStanding deviceId standing := by
  simp only [asStanding, Option.bind_eq_bind, Option.bind_eq_some_iff, Option.guard_eq_some', exists_const,
    Option.some.injEq, property_generation, property_revokedAt, get_spki, exists_eq_left']
  constructor
  · rintro ⟨hname, fs, -, -, generation, hgeneration, spki, hspki, hsame⟩
    obtain rfl := congrArg DeviceStanding.generation hsame
    obtain rfl := congrArg DeviceStanding.spki hsame
    constructor
    · exact hname
    · exact hgeneration
    · intro text htext
      rw [htext] at hspki
      obtain ⟨text', hread, hstored⟩ := Option.map_eq_some_iff.mp hspki
      obtain rfl := Option.some.inj hstored
      exact (asStandingSpki_str.mp hread).2
  · intro h
    refine ⟨h.name, _, rfl, present_all_contains (K := standingKeys) rfl, _, h.generation, standing.spki, ?_, rfl⟩
    cases hspki : standing.spki with
    | none => rfl
    | some text =>
        have hread := asStandingSpki_str.mpr ⟨rfl, h.spki text hspki⟩
        rw [Option.map_some, readOptional, hread]
        rfl

/-! ### The file -/

theorem normal_standingFile (s : PersistedDeviceStanding) : Normal s.toJson := by
  apply Normal.obj
  · exact ofEntries_eq_self (show standingFileKeys.Nodup by decide)
      (show ∀ k ∈ standingFileKeys, arrayIndex k = none by decide)
  · simp only [List.mem_cons, List.not_mem_nil, or_false, forall_eq_or_imp, forall_eq]
    exact ⟨.num, normal_table normal_standingJson _⟩

/-- The file is parsed as what was written. -/
theorem parse_standingFile (s : PersistedDeviceStanding) : Json.parse (Utf8.decode s.fileBytes) = some s.toJson := by
  have hwf : WellFormed (stringifyIndented s.toJson ++ [0x0A]) :=
    (wellFormed_render 2 0 s.toJson).append (.ascii_all rfl)
  rw [PersistedDeviceStanding.fileBytes, Utf8.decode_encode hwf]
  exact parse_render (normal_standingFile s) (by simp [isWs])

/-- A written file of version 2 is accepted when all its entries are valid, and read as it was written. -/
theorem asPersistedDeviceStanding_iff {devices : StandingMap} {read : PersistedDeviceStanding} :
    asPersistedDeviceStanding (PersistedDeviceStanding.toJson ⟨2, devices⟩) = some read ↔
      read = ⟨2, enumerate devices⟩ ∧ ∀ id standing, devices.get? id = some standing → ValidStanding id standing := by
  have hversion : (PersistedDeviceStanding.toJson ⟨2, devices⟩).property (js "version") asStandingVersion = some 2 := rfl
  have htable : (PersistedDeviceStanding.toJson ⟨2, devices⟩).property (js "devices") (readTable (asStanding 2)) =
      readTable (asStanding 2) (table DeviceStanding.toJson devices) := rfl
  have hkeys : standingFileKeys.all (fun k => standingFileKeys.contains k) = true := by
    decide
  have hentries : JsMap.ofList (ofEntries devices.entries) = enumerate devices :=
    JsMap.ext (JsMap.entries_ofList (ofEntries_nodup devices.nodup))
  simp only [asPersistedDeviceStanding, Option.bind_eq_bind, Option.bind_eq_some_iff, Option.guard_eq_some',
    exists_const, Option.some.injEq, hversion, exists_eq_left', htable, readTable_table_iff asStanding_recovers,
    asStanding_iff]
  constructor
  · rintro ⟨fs, -, -, es, ⟨rfl, hvalid⟩, rfl⟩
    rw [hentries]
    exact ⟨rfl, hvalid⟩
  · rintro ⟨rfl, hvalid⟩
    exact ⟨_, rfl, hkeys, _, ⟨rfl, hvalid⟩, by rw [hentries]⟩

/-! ### Its length -/

/-- What the entries of a map take in the file, each with its comma or the opening brace. -/
def entriesOctets (devices : StandingMap) : Nat :=
  (devices.entries.map fun e => memberOctets 2 4 (e.1, e.2.toJson)).sum

/-- What the entries may take. -/
def maxEntriesOctets : Nat :=
  maxDeviceStandingFileBytes - 38

/-- The octets of two maps, one over the other. -/
theorem entriesOctets_assign (m n : StandingMap) :
    entriesOctets (m.assign n) = entriesOctets n + entriesOctets (m.filter fun id _ => !n.has id) := by
  have hperm := (JsMap.assign_entries_perm m n).map fun e => memberOctets 2 4 (e.1, e.2.toJson)
  rw [entriesOctets, hperm.sum_eq, List.map_append, List.sum_append]
  rfl

theorem entriesOctets_filter_assign (m n : StandingMap) (p : JsString → DeviceStanding → Bool) :
    entriesOctets ((m.assign n).filter p) =
      entriesOctets (n.filter p) + entriesOctets ((m.filter fun id _ => !n.has id).filter p) := by
  have hperm := ((JsMap.assign_entries_perm m n).filter fun e => p e.1 e.2).map
    fun e => memberOctets 2 4 (e.1, e.2.toJson)
  rw [entriesOctets, JsMap.filter, hperm.sum_eq, List.filter_append, List.map_append, List.sum_append]
  rfl

/-- The length of a standing file. -/
theorem length_standingFile (devices : StandingMap) :
    (PersistedDeviceStanding.fileBytes ⟨2, devices⟩).length =
      if devices.entries = [] then 36 else 38 + entriesOctets devices := by
  have htext : (PersistedDeviceStanding.fileBytes ⟨2, devices⟩).length =
      octets (stringifyIndented (PersistedDeviceStanding.toJson ⟨2, devices⟩)) + 1 :=
    octets_append (wellFormed_render 2 0 _) [0x0A]
  have hversion : memberOctets 2 2 (js "version", .num (.ofInt 2)) = 16 := by
    decide +kernel
  have hdevices : ∀ v, memberOctets 2 2 (js "devices", v) = 15 + octets (render 2 2 v) := by
    intro v
    have hquote : octets (quote (js "devices")) = 9 := by decide +kernel
    rw [memberOctets, hquote]
    rfl
  have hclose : (newline 2 0).length = 1 := rfl
  rw [htext, stringifyIndented, PersistedDeviceStanding.toJson, octets_render_obj 2 0 (by exact List.cons_ne_nil _ _),
    hclose]
  simp only [List.map_cons, List.map_nil, List.sum_cons, List.sum_nil, Nat.zero_add]
  have hhead : memberOctets 2 2 (js "version", .num (.ofInt ((2 : Nat) : Int))) = 16 := hversion
  rw [hhead, hdevices]
  split
  · rename_i hempty
    have htable : table DeviceStanding.toJson devices = .obj [] := by
      rw [table, hempty]
      rfl
    rw [htable]
    rfl
  · rename_i hfull
    have hnodup : ((devices.entries.map fun e => (e.1, e.2.toJson)).map Prod.fst).Nodup := by
      rw [List.map_map]
      exact devices.nodup
    have hperm := ofEntries_perm hnodup
    have hne : ofEntries (devices.entries.map fun e => (e.1, e.2.toJson)) ≠ [] := by
      intro hnil
      rw [hnil] at hperm
      exact hfull (List.map_eq_nil_iff.mp hperm.nil_eq.symm)
    have hinner : (newline 2 2).length = 3 := rfl
    rw [table, octets_render_obj 2 2 hne, hinner, (hperm.map (memberOctets 2 (2 + 2))).sum_eq, List.map_map,
      entriesOctets]
    show 16 + (15 + ((devices.entries.map fun e => memberOctets 2 4 (e.1, e.2.toJson)).sum + 3 + 1)) + 1 + 1 + 1 = _
    omega

/-- A file is short enough when its entries are. -/
theorem standingFile_fits_iff (devices : StandingMap) :
    (PersistedDeviceStanding.fileBytes ⟨2, devices⟩).length ≤ maxDeviceStandingFileBytes ↔
      entriesOctets devices ≤ maxEntriesOctets := by
  rw [length_standingFile]
  have hlimit : maxDeviceStandingFileBytes = 262144 := rfl
  have hentries : maxEntriesOctets = 262106 := rfl
  split
  · rename_i hempty
    have hnone : entriesOctets devices = 0 := by
      rw [entriesOctets, hempty]
      rfl
    omega
  · omega

/-! ### The keys file -/

/-- The ids that the loader of the keys file can return. -/
structure KeysFileId (deviceId : JsString) : Prop where
  nonempty : deviceId ≠ []
  colon : 0x3A ∉ deviceId
  own : deviceId ≠ js "__proto__"

/-- The ids of a keys file are ids it may hold. -/
theorem ownerDeviceKeys_ids {parser : SpkiParser} {entries : List (JsString × Json)}
    {out keys : JsMap JsString JsString}
    (hout : ∀ id, out.has id = true → KeysFileId id) (h : ownerDeviceKeys parser out entries = .ok keys) :
    ∀ id, keys.has id = true → KeysFileId id := by
  induction entries generalizing out with
  | nil =>
      cases h
      exact hout
  | cons e rest ih =>
      obtain ⟨deviceId, spki⟩ := e
      rw [ownerDeviceKeys] at h
      split at h
      · cases h
      · rename_i pem hkey
        apply ih _ h
        intro id hid
        unfold assignProperty at hid
        split at hid
        · exact hout id hid
        · rename_i hown
          rw [JsMap.has_set, Bool.or_eq_true, decide_eq_true_eq] at hid
          rcases hid with rfl | hid
          · unfold ownerDeviceKey at hkey
            split at hkey
            · cases hkey
            · rename_i hnamed
              rw [not_or] at hnamed
              exact ⟨hnamed.1, hnamed.2, hown⟩
          · exact hout id hid

/-- So are those of a file that was loaded. -/
theorem loadOwnerDeviceKeysFile_ids {parser : SpkiParser} {realPath : JsString} {syntaxMessage : JsString → JsString}
    {bytes : Bytes} {keys : JsMap JsString JsString}
    (h : loadOwnerDeviceKeysFile parser realPath syntaxMessage bytes = .ok keys) :
    ∀ id, keys.has id = true → KeysFileId id := by
  unfold loadOwnerDeviceKeysFile at h
  split at h
  · cases h
  · split at h
    · cases h
    · split at h
      · cases h
      · apply ownerDeviceKeys_ids _ h
        intro id hid
        cases hid

/-- The static devices of a boot have the ids of the keys, and start at generation 1. -/
theorem staticDevices_spec {parse : JsString → Option JsString} {keys : JsMap JsString JsString}
    {ownerDevices : JsMap JsString EnrolledOwnerDevice} (h : staticDevices parse keys = some ownerDevices)
    {id : JsString} {device : EnrolledOwnerDevice} (hget : ownerDevices.get? id = some device) :
    keys.has id = true ∧ device.generation = 1 := by
  unfold staticDevices at h
  split at h
  · obtain rfl := Option.some.inj h
    rw [JsMap.get?_mapVal] at hget
    obtain ⟨spki, hspki, rfl⟩ := Option.map_eq_some_iff.mp hget
    exact ⟨JsMap.has_iff.mpr ⟨spki, hspki⟩, rfl⟩
  · cases h

/-! ### The registry -/

/-- What holds of a record that a registry serves. -/
structure ServedRecord (id : JsString) (record : RegistryFile.PersistedEnrolledDevice) : Prop where
  deviceId : record.deviceId = id
  named : id ≠ [] ∧ id ∉ RegistryFile.forbiddenDeviceIds
  generation : asGeneration (.num (.ofInt record.generation)) = some record.generation
  spki : isBase64urlText record.cheapLaneKeySpki = true

theorem isSome_value_of_decode {s : JsString} {bytes : Bytes} (h : Base64url.decode s = some bytes) :
    ∀ u ∈ s, (Base64url.value u).isSome = true := by
  induction s using Base64url.decode.induct generalizing bytes with
  | case1 =>
      intro u hu
      cases hu
  | case2 => cases h
  | case3 u v =>
      simp only [Base64url.decode, Option.bind_eq_bind, Option.bind_eq_some_iff] at h
      obtain ⟨x, hx, y, hy, -⟩ := h
      simp [hx, hy]
  | case4 u v w =>
      simp only [Base64url.decode, Option.bind_eq_bind, Option.bind_eq_some_iff] at h
      obtain ⟨x, hx, y, hy, z, hz, -⟩ := h
      simp [hx, hy, hz]
  | case5 u v w t rest ih =>
      simp only [Base64url.decode, Option.bind_eq_bind, Option.bind_eq_some_iff] at h
      obtain ⟨x, hx, y, hy, z, hz, q, hq, bs, hbs, -⟩ := h
      simpa [hx, hy, hz, hq] using ih hbs

/-- A stored key has the shape that the standing file asks for. -/
theorem isBase64urlText_of_stored {isSpkiDer : Bytes → Bool} {spki : JsString}
    (h : RegistryFile.isStoredSpki isSpkiDer spki = true) : isBase64urlText spki = true := by
  unfold RegistryFile.isStoredSpki at h
  split at h
  · cases h
  · rename_i der hdecode
    have hne : spki ≠ [] := by
      rintro rfl
      cases hdecode
      simp at h
    simp only [isBase64urlText, Bool.and_eq_true, decide_eq_true_eq, List.all_eq_true]
    exact ⟨hne, isSome_value_of_decode hdecode⟩

/-- The records of a registry that can be served are served. -/
theorem servedRecord_of_servable {isSpkiDer : Bytes → Bool} {state : RegistryFile.PersistedEnrolledDevices}
    (h : StandingSources.Servable isSpkiDer state) {id : JsString} {record : RegistryFile.PersistedEnrolledDevice}
    (hget : state.devices.get? id = some record) : ServedRecord id record := by
  obtain ⟨v, read, haccepted, hsame⟩ := h
  rw [← hsame.devices] at hget
  obtain ⟨-, -, -, -, hrecords, -, -⟩ := RegistryFile.asPersistedEnrolledDevices_iff.mp haccepted
  obtain ⟨table, -, hrecords⟩ := Option.bind_eq_some_iff.mp hrecords
  obtain ⟨fs, hfields, -⟩ := Option.bind_eq_some_iff.mp hrecords
  cases table with
  | obj entries =>
      obtain ⟨w, -, hread⟩ := (of_readTable hrecords).2 (id, record) (JsMap.mem_of_get?_ofList hget)
      have hreads := RegistryFile.asDevice_iff.mp hread
      obtain ⟨g, -, hgeneration⟩ := Option.bind_eq_some_iff.mp hreads.generation
      constructor
      · exact hreads.deviceId
      · exact ⟨hreads.named.1, hreads.named.2.2⟩
      · exact RegistryFile.asGeneration_again hgeneration
      · exact isBase64urlText_of_stored (Option.filter_eq_some_iff.mp hreads.cheapLaneKeySpki).2
  | null => cases hfields
  | bool => cases hfields
  | num => cases hfields
  | str => cases hfields
  | arr => cases hfields

/-! ### The history -/

/-- An entry that is read is valid. -/
theorem validStanding_of_read {version : Nat} {id : JsString} {v : Json} {standing : DeviceStanding}
    (h : asStanding version id v = some standing) : ValidStanding id standing := by
  simp only [asStanding, Option.bind_eq_bind, Option.bind_eq_some_iff, Option.guard_eq_some', exists_const,
    Option.some.injEq] at h
  obtain ⟨hname, fs, -, -, generation, hgeneration, revokedAt, -, spki, hspki, rfl⟩ := h
  obtain ⟨g, -, hgeneration⟩ := Option.bind_eq_some_iff.mp hgeneration
  constructor
  · exact hname
  · exact RegistryFile.asGeneration_again hgeneration
  · rintro text rfl
    cases hget : v.get (js "spki") with
    | none =>
        rw [hget] at hspki
        cases hspki
    | some w =>
        rw [hget] at hspki
        obtain ⟨text', hread, hsame⟩ := Option.map_eq_some_iff.mp hspki
        obtain rfl := Option.some.inj hsame
        unfold asStandingSpki at hread
        split at hread
        · exact (Option.filter_eq_some_iff.mp hread).2
        · cases hread

/-- The standings of an accepted file are valid. -/
theorem validStanding_of_accepted {v : Json} {state : PersistedDeviceStanding}
    (h : asPersistedDeviceStanding v = some state)
    {id : JsString} {standing : DeviceStanding} (hget : state.devices.get? id = some standing) :
    ValidStanding id standing := by
  simp only [asPersistedDeviceStanding, Option.bind_eq_bind, Option.bind_eq_some_iff, Option.guard_eq_some',
    exists_const, Option.some.injEq] at h
  obtain ⟨fs, -, -, version, -, devices, hdevices, rfl⟩ := h
  obtain ⟨table, -, hdevices⟩ := Option.bind_eq_some_iff.mp hdevices
  obtain ⟨entries, hfields, -⟩ := Option.bind_eq_some_iff.mp hdevices
  cases table with
  | obj entries =>
      obtain ⟨w, -, hread⟩ := (of_readTable hdevices).2 (id, standing) (JsMap.mem_of_get?_ofList hget)
      exact validStanding_of_read hread
  | null => cases hfields
  | bool => cases hfields
  | num => cases hfields
  | str => cases hfields
  | arr => cases hfields

/-- What a standing file that is loaded lists. -/
theorem validStanding_of_load {store : DeviceStandingFileStore} {fate : StandingLoadFate} {files files' : StandingFiles}
    {state : PersistedDeviceStanding} (h : store.load fate files = (.loaded state, files')) {id : JsString}
    {standing : DeviceStanding} (hget : state.devices.get? id = some standing) : ValidStanding id standing := by
  unfold DeviceStandingFileStore.load at h
  split at h
  · cases h
  · split at h
    · split at h
      · cases h
      · cases h
    · rename_i bytes hcontent
      split at h
      · rename_i read hread
        cases h
        unfold DeviceStandingFileStore.interpret at hread
        split at hread
        · cases hread
        · split at hread
          · cases hread
          · split at hread
            · cases hread
            · rename_i haccepted
              cases hread
              exact validStanding_of_accepted haccepted hget
      · rename_i hother
        exact absurd (Prod.mk.inj h).1 (hother state)

/-! ### The sources -/

/-- A tombstone of a valid standing is valid. -/
theorem ValidStanding.tombstone {id : JsString} {standing : DeviceStanding} (h : ValidStanding id standing) :
    ValidStanding id (tombstone id standing) := by
  unfold OwnerSwitch.tombstone
  split
  · exact ⟨h.name, h.generation, h.spki⟩
  · exact h

/-- No standing is named as a prototype is. -/
theorem ValidStanding.ne_proto {id : JsString} {standing : DeviceStanding} (h : ValidStanding id standing) :
    id ≠ js "__proto__" := by
  rintro rfl
  have hname := h.name
  revert hname
  decide

namespace StandingSources

/-- What the sources of a process guarantee of what they hold. -/
structure Sound (s : StandingSources) : Prop where
  history : ∀ id standing, s.unenrolledStanding.get? id = some standing → ValidStanding id standing
  statics : ∀ id device, s.ownerDevices.get? id = some device → KeysFileId id ∧ 1 ≤ device.generation
  registry : ∀ state ∈ s.enrolledDevices, ∀ id record, state.devices.get? id = some record → ServedRecord id record

theorem one_le_of_asGeneration {n m : Nat} (h : asGeneration (.num (.ofInt n)) = some m) : 1 ≤ n := by
  obtain rfl := asGeneration_ofInt h
  exact of_decide_eq_true (Option.filter_eq_some_iff.mp h).2

theorem sound_ofLoad {ownerDevices : JsMap JsString EnrolledOwnerDevice}
    {enrolledDevices : Option RegistryFile.PersistedEnrolledDevices} {loaded : DeviceStandingLoad}
    (hstatics : ∀ id device, ownerDevices.get? id = some device → KeysFileId id ∧ device.generation = 1)
    (hhistory : ∀ state, loaded = .loaded state → ∀ id standing, state.devices.get? id = some standing →
      ValidStanding id standing)
    (hregistry : ∀ state ∈ enrolledDevices, ∀ id record, state.devices.get? id = some record → ServedRecord id record) :
    Sound (ofLoad ownerDevices enrolledDevices loaded) := by
  cases loaded with
  | absent =>
      constructor
      · nofun
      · intro id device hget
        obtain ⟨hid, hgeneration⟩ := hstatics id device hget
        exact ⟨hid, hgeneration.ge⟩
      · exact hregistry
  | corrupt detail =>
      constructor
      · nofun
      · intro id device hget
        rw [ofLoad, JsMap.get?_mapVal] at hget
        obtain ⟨started, hstarted, rfl⟩ := Option.map_eq_some_iff.mp hget
        exact ⟨(hstatics id started hstarted).1, Nat.le_add_left 1 _⟩
      · exact hregistry
  | loaded state =>
      constructor
      · intro id standing hget
        exact hhistory state rfl id standing (JsMap.get?_of_filter hget)
      · intro id device hget
        rw [ofLoad, JsMap.get?_mapVal] at hget
        obtain ⟨started, hstarted, rfl⟩ := Option.map_eq_some_iff.mp hget
        obtain ⟨hid, hgeneration⟩ := hstatics id started hstarted
        refine ⟨hid, ?_⟩
        cases hlisted : state.devices.get? id with
        | none => exact hgeneration.ge
        | some standing => exact one_le_of_asGeneration (hhistory state rfl id standing hlisted).generation
      · exact hregistry

/-- What a process holds is sound. -/
theorem Held.sound {parser : SpkiParser} {isSpkiDer : Bytes → Bool} {s : StandingSources}
    (h : Held parser isSpkiDer s) : Sound s := by
  induction h with
  | boot hkeys haccepted hhistory hserved =>
      apply sound_ofLoad
      · intro id device hget
        obtain ⟨hlisted, hgeneration⟩ := staticDevices_spec haccepted hget
        exact ⟨loadOwnerDeviceKeysFile_ids hkeys id hlisted, hgeneration⟩
      · rintro state rfl id standing hget
        exact validStanding_of_load hhistory hget
      · intro state hstate id record hget
        exact servedRecord_of_servable (hserved state hstate) hget
  | @sever s staticId device now _ hlisted ih =>
      constructor
      · exact ih.history
      · intro id device' hget
        rw [StandingSources.sever, JsMap.get?_set] at hget
        split at hget
        · rename_i hid
          obtain rfl := hid
          obtain rfl := Option.some.inj hget
          exact ⟨(ih.statics id device hlisted).1, Nat.le_add_left 1 _⟩
        · exact ih.statics id device' hget
      · exact ih.registry
  | registry _ hserved ih =>
      constructor
      · exact ih.history
      · exact ih.statics
      · intro state hstate id record hget
        exact servedRecord_of_servable (hserved state hstate) hget

/-! ### What is composed of them -/

variable {s : StandingSources}

/-- The history as it is exported. -/
def historyStanding (s : StandingSources) : StandingMap :=
  s.unenrolledStanding.mapVal tombstone

def staticStanding (s : StandingSources) : StandingMap :=
  s.ownerDevices.mapVal fun _ device => device.standing

def registryStanding (s : StandingSources) : StandingMap :=
  match s.enrolledDevices with
  | none => .empty
  | some registry => registry.devices.mapVal fun _ record => record.standing

/-- Assigning properties one after another builds the map, where no name is that of a prototype. -/
theorem foldl_assignProperty {α β : Type} {key : β → JsString} {value : β → α} {es : List β}
    (h : ∀ e ∈ es, key e ≠ js "__proto__") (m : JsMap JsString α) :
    es.foldl (fun out e => assignProperty out (key e) (value e)) m =
      (es.map fun e => (key e, value e)).foldl (fun out e => out.set e.1 e.2) m := by
  induction es generalizing m with
  | nil => rfl
  | cons e es ih =>
      have hown : assignProperty m (key e) (value e) = m.set (key e) (value e) := if_neg (h e List.mem_cons_self)
      rw [List.foldl_cons, List.map_cons, List.foldl_cons, hown]
      exact ih (fun e' he' => h e' (List.mem_cons_of_mem _ he')) _

/-- The map that is saved: no source has a device that a plain object would not take up. -/
theorem composeStanding_eq (h : s.Sound) :
    s.composeStanding = (s.historyStanding.assign s.staticStanding).assign s.registryStanding := by
  have hhistory : s.unenrolledStanding.entries.foldl (fun out e => assignProperty out e.1 (tombstone e.1 e.2)) .empty =
      s.historyStanding := by
    have hown : ∀ e ∈ s.unenrolledStanding.entries, e.1 ≠ js "__proto__" := fun e he =>
      (h.history e.1 e.2 (JsMap.get?_eq_some_iff.mpr he)).ne_proto
    rw [foldl_assignProperty hown]
    exact JsMap.ofList_entries s.historyStanding
  have hstatic : ∀ m : StandingMap, s.ownerDevices.entries.foldl (fun out e => assignProperty out e.1 e.2.standing) m =
      m.assign s.staticStanding := by
    intro m
    have hown : ∀ e ∈ s.ownerDevices.entries, e.1 ≠ js "__proto__" := fun e he =>
      (h.statics e.1 e.2 (JsMap.get?_eq_some_iff.mpr he)).1.own
    rw [foldl_assignProperty hown]
    rfl
  have hregistry : ∀ m : StandingMap,
      s.records.foldl (fun out record => assignProperty out record.deviceId record.standing) m =
        m.assign s.registryStanding := by
    intro m
    unfold records registryStanding
    cases hstate : s.enrolledDevices with
    | none => rfl
    | some state =>
        have hserved : ∀ e ∈ state.devices.entries, ServedRecord e.1 e.2 := fun e he =>
          h.registry state hstate e.1 e.2 (JsMap.get?_eq_some_iff.mpr he)
        have hown : ∀ record ∈ state.devices.values, record.deviceId ≠ js "__proto__" := by
          intro record hrecord
          obtain ⟨e, he, rfl⟩ := List.mem_map.mp hrecord
          rw [(hserved e he).deviceId]
          rintro hproto
          apply (hserved e he).named.2
          rw [hproto]
          decide
        have hentries : (state.devices.values.map fun record => (record.deviceId, record.standing)) =
            (state.devices.mapVal fun _ record => record.standing).entries := by
          rw [JsMap.values, List.map_map]
          apply List.map_congr_left
          intro e he
          exact congrArg (·, e.2.standing) (hserved e he).deviceId
        rw [foldl_assignProperty hown, hentries]
        rfl
  rw [composeStanding, hhistory, hstatic, hregistry]

/-- The standings of the registry are those of its records. -/
theorem get?_registryStanding {id : JsString} {standing : DeviceStanding} :
    s.registryStanding.get? id = some standing ↔
      ∃ state ∈ s.enrolledDevices, ∃ record, state.devices.get? id = some record ∧ record.standing = standing := by
  unfold registryStanding
  cases s.enrolledDevices with
  | none => simp
  | some state => simp [JsMap.get?_mapVal]

/-! ### The condition -/

/-- What the sources must be for the file to be loaded again: no static device is named `constructor` or `prototype`,
    no record of the registry has a colon in its id, the generation of every static device that the registry does not
    list is a safe integer, and the entries take at most 262106 octets. -/
structure Writable (s : StandingSources) : Prop where
  names : s.ownerDevices.has (js "constructor") = false ∧ s.ownerDevices.has (js "prototype") = false
  colons : ∀ state ∈ s.enrolledDevices, ∀ id record, state.devices.get? id = some record → 0x3A ∉ id
  generations : ∀ id device, s.ownerDevices.get? id = some device →
    (∀ state ∈ s.enrolledDevices, state.devices.get? id = none) → (device.generation : Int) ≤ maxSafeInteger
  size : entriesOctets s.registryStanding +
    (entriesOctets (s.staticStanding.filter fun id _ => !s.registryStanding.has id) +
    entriesOctets ((s.historyStanding.filter fun id _ => !s.staticStanding.has id).filter
      fun id _ => !s.registryStanding.has id)) ≤ maxEntriesOctets

theorem isStandingId_iff {id : JsString} :
    isStandingId id = true ↔ id ≠ [] ∧ 0x3A ∉ id ∧ id ∉ RegistryFile.forbiddenDeviceIds := by
  simp only [isStandingId, Bool.and_eq_true, decide_eq_true_eq, and_assoc]

/-- A generation from one to the greatest safe integer is read as itself. -/
theorem asGeneration_of_le {n : Nat} (hpos : 1 ≤ n) (hsafe : (n : Int) ≤ maxSafeInteger) :
    asGeneration (.num (.ofInt n)) = some n := by
  have hread : safeNat? (.num (.ofInt n)) = some n := by
    rw [safeNat?, Decimal.toInt?_ofInt, Option.bind_some, if_pos ⟨Int.natCast_nonneg n, hsafe⟩, Int.toNat_natCast]
  exact Option.filter_eq_some_iff.mpr ⟨hread, decide_eq_true hpos⟩

theorem le_of_asGeneration {n m : Nat} (h : asGeneration (.num (.ofInt n)) = some m) : (n : Int) ≤ maxSafeInteger := by
  obtain ⟨h, -⟩ := Option.filter_eq_some_iff.mp h
  rw [safeNat?, Decimal.toInt?_ofInt, Option.bind_some] at h
  split at h
  · rename_i hrange
    exact hrange.2
  · cases h

/-- The registry's word comes before that of the static devices, and theirs before the history. -/
theorem get?_composeStanding (h : s.Sound) (id : JsString) :
    s.composeStanding.get? id =
      (s.registryStanding.get? id).or ((s.staticStanding.get? id).or (s.historyStanding.get? id)) := by
  rw [composeStanding_eq h, JsMap.get?_assign, JsMap.get?_assign]

/-- The map is the one that the handlers are modelled with. -/
theorem composeStanding_agrees (h : s.Sound) {d : Devices} (hhistory : d.unenrolledStanding = s.unenrolledStanding)
    (hstatics : d.ownerDevices = s.ownerDevices)
    (hregistry : ∀ id, d.registryStanding.get? id = s.registryStanding.get? id) (id : JsString) :
    s.composeStanding.get? id = d.composeStanding.get? id := by
  have hold : d.historyStanding = s.historyStanding := by
    rw [Devices.historyStanding, hhistory]
    rfl
  have hstatic : d.staticStanding = s.staticStanding := by
    rw [Devices.staticStanding, hstatics]
    rfl
  rw [get?_composeStanding h, Devices.get?_composeStanding, hregistry, hold, hstatic]

/-- What is saved of a static device that the registry does not list. -/
theorem composed_static (h : s.Sound) {id : JsString} {device : EnrolledOwnerDevice}
    (hlisted : s.ownerDevices.get? id = some device) (hunlisted : s.registryStanding.get? id = none) :
    s.composeStanding.get? id = some device.standing := by
  rw [get?_composeStanding h, hunlisted, Option.none_or, staticStanding, JsMap.get?_mapVal, hlisted]
  rfl

theorem registryStanding_eq_none {id : JsString} :
    s.registryStanding.get? id = none ↔ ∀ state ∈ s.enrolledDevices, state.devices.get? id = none := by
  unfold registryStanding
  cases s.enrolledDevices with
  | none => simp
  | some state => simp [JsMap.get?_mapVal]

/-- A static device of a name that the file may not have is not loaded again. -/
theorem not_has_of_valid (h : s.Sound)
    (hvalid : ∀ id standing, s.composeStanding.get? id = some standing → ValidStanding id standing) {id : JsString}
    (hforbidden : id ∈ RegistryFile.forbiddenDeviceIds) : s.ownerDevices.has id = false := by
  by_contra hhas
  obtain ⟨device, hdevice⟩ := JsMap.has_iff.mp (Bool.not_eq_false _ ▸ hhas)
  have hunlisted : s.registryStanding.get? id = none := by
    apply registryStanding_eq_none.mpr
    intro state hstate
    cases hget : state.devices.get? id with
    | none => rfl
    | some record => exact absurd hforbidden (h.registry state hstate id record hget).named.2
  have hname := (hvalid id _ (composed_static h hdevice hunlisted)).name
  exact (isStandingId_iff.mp hname).2.2 hforbidden

/-- The entries are all valid when the names, the colons and the generations are as the condition says. -/
theorem valid_iff (h : s.Sound) :
    (∀ id standing, s.composeStanding.get? id = some standing → ValidStanding id standing) ↔
      (s.ownerDevices.has (js "constructor") = false ∧ s.ownerDevices.has (js "prototype") = false) ∧
      (∀ state ∈ s.enrolledDevices, ∀ id record, state.devices.get? id = some record → 0x3A ∉ id) ∧
      ∀ id device, s.ownerDevices.get? id = some device →
        (∀ state ∈ s.enrolledDevices, state.devices.get? id = none) → (device.generation : Int) ≤ maxSafeInteger := by
  constructor
  · intro hvalid
    refine ⟨⟨?_, ?_⟩, ?_, ?_⟩
    · exact not_has_of_valid h hvalid (by decide)
    · exact not_has_of_valid h hvalid (by decide)
    · intro state hstate id record hget
      have hregistry := get?_registryStanding.mpr ⟨state, hstate, record, hget, rfl⟩
      have hcomposed : s.composeStanding.get? id = some record.standing := by
        rw [get?_composeStanding h, hregistry, Option.some_or]
      exact (isStandingId_iff.mp (hvalid id _ hcomposed).name).2.1
    · intro id device hget hunlisted
      have hcomposed := composed_static h hget (registryStanding_eq_none.mpr hunlisted)
      exact le_of_asGeneration (hvalid id _ hcomposed).generation
  · rintro ⟨⟨hconstructor, hprototype⟩, hcolons, hgenerations⟩ id standing hget
    rw [get?_composeStanding h] at hget
    cases hregistry : s.registryStanding.get? id with
    | some exported =>
        rw [hregistry, Option.some_or] at hget
        obtain rfl := Option.some.inj hget
        obtain ⟨state, hstate, record, hrecord, rfl⟩ := get?_registryStanding.mp hregistry
        have hserved := h.registry state hstate id record hrecord
        constructor
        · exact isStandingId_iff.mpr ⟨hserved.named.1, hcolons state hstate id record hrecord, hserved.named.2⟩
        · exact hserved.generation
        · intro spki hspki
          obtain rfl := Option.some.inj hspki
          exact hserved.spki
    | none =>
        rw [hregistry, Option.none_or, staticStanding, JsMap.get?_mapVal] at hget
        cases hstatic : s.ownerDevices.get? id with
        | some device =>
            rw [hstatic, Option.map_some, Option.some_or] at hget
            obtain rfl := Option.some.inj hget
            obtain ⟨hid, hpos⟩ := h.statics id device hstatic
            have hhas : s.ownerDevices.has id = true := JsMap.has_iff.mpr ⟨device, hstatic⟩
            constructor
            · apply isStandingId_iff.mpr ⟨hid.nonempty, hid.colon, _⟩
              intro hforbidden
              rcases List.mem_cons.mp hforbidden with rfl | hforbidden
              · exact hid.own rfl
              · rcases List.mem_cons.mp hforbidden with rfl | hforbidden
                · rw [hconstructor] at hhas
                  cases hhas
                · obtain rfl := List.mem_singleton.mp hforbidden
                  rw [hprototype] at hhas
                  cases hhas
            · exact asGeneration_of_le hpos (hgenerations id device hstatic (registryStanding_eq_none.mp hregistry))
            · nofun
        | none =>
            rw [hstatic, Option.map_none, Option.none_or, historyStanding, JsMap.get?_mapVal] at hget
            obtain ⟨old, hold, rfl⟩ := Option.map_eq_some_iff.mp hget
            exact (h.history id old hold).tombstone

/-- What the entries of the saved map take. -/
theorem entriesOctets_composeStanding (h : s.Sound) :
    entriesOctets s.composeStanding =
      entriesOctets s.registryStanding +
        (entriesOctets (s.staticStanding.filter fun id _ => !s.registryStanding.has id) +
        entriesOctets ((s.historyStanding.filter fun id _ => !s.staticStanding.has id).filter
          fun id _ => !s.registryStanding.has id)) := by
  rw [composeStanding_eq h, entriesOctets_assign, entriesOctets_filter_assign]

/-- The file is loaded, however the marker fares, and as the map that was saved. -/
def LoadsAs (store : DeviceStandingFileStore) (files : StandingFiles) (devices : StandingMap) : Prop :=
  ∀ marked, ∃ state, (store.load (.read marked) files).1 = .loaded state ∧ state.version = 2 ∧
    ∀ id, state.devices.get? id = devices.get? id

/-- A file that is written for a map is loaded again exactly when its entries are valid and it is not too long. -/
theorem loadsAs_iff {store : DeviceStandingFileStore} {devices : StandingMap} {marker : Bool} :
    LoadsAs store ⟨some (PersistedDeviceStanding.fileBytes ⟨2, devices⟩), marker⟩ devices ↔
      (∀ id standing, devices.get? id = some standing → ValidStanding id standing) ∧
        entriesOctets devices ≤ maxEntriesOctets := by
  rw [← standingFile_fits_iff]
  constructor
  · intro hloads
    obtain ⟨state, hload, -, -⟩ := hloads true
    simp only [DeviceStandingFileStore.load, DeviceStandingFileStore.interpret, parse_standingFile] at hload
    split at hload
    · rename_i hread
      split at hread
      · cases hread
      · rename_i hfits
        refine ⟨?_, not_lt.mp hfits⟩
        cases haccepted : asPersistedDeviceStanding (PersistedDeviceStanding.toJson ⟨2, devices⟩) with
        | none =>
            rw [haccepted] at hread
            cases hread
        | some read => exact (asPersistedDeviceStanding_iff.mp haccepted).2
    · rename_i hother
      exact absurd hload (hother state)
  · rintro ⟨hvalid, hfits⟩ marked
    have haccepted := asPersistedDeviceStanding_iff.mpr ⟨rfl, hvalid⟩
    refine ⟨⟨2, enumerate devices⟩, ?_, rfl, get?_enumerate devices⟩
    simp only [DeviceStandingFileStore.load, DeviceStandingFileStore.interpret, parse_standingFile, haccepted,
      if_neg (not_lt.mpr hfits)]

/-- A standing file that was saved durably is loaded as it was saved exactly when the sources are writable. -/
theorem standing_round_trip_iff {parser : SpkiParser} {isSpkiDer : Bytes → Bool} {s : StandingSources}
    (h : Held parser isSpkiDer s) (store : DeviceStandingFileStore) (fate : PublishFate) (files : StandingFiles)
    (hdurable : (s.persistStanding (some store) fate files).1.durable = true) :
    LoadsAs store (s.persistStanding (some store) fate files).2 s.composeStanding ↔ s.Writable := by
  have hsound := h.sound
  cases fate with
  | durable =>
      show LoadsAs store ⟨some (PersistedDeviceStanding.fileBytes ⟨2, s.composeStanding⟩), true⟩ _ ↔ _
      rw [loadsAs_iff, valid_iff hsound, entriesOctets_composeStanding hsound]
      constructor
      · rintro ⟨⟨hnames, hcolons, hgenerations⟩, hsize⟩
        exact ⟨hnames, hcolons, hgenerations, hsize⟩
      · intro hwritable
        exact ⟨⟨hwritable.names, hwritable.colons, hwritable.generations⟩, hwritable.size⟩
  | unproven detail => cases hdurable
  | failed message marked => cases hdurable
  | torn message synced => cases hdurable

/-! ### Keys files of one device -/

section OneKey

variable (spki pem : JsString)

/-- The strict parser, as far as one key goes. -/
def oneKeyParser : SpkiParser where
  parse := fun text => if text = spki ∨ text = pem then some spki else none
  error := fun deviceId _ => js "owner device \"" ++ deviceId ++ js "\" key does not parse as an SPKI public key"
  pem := fun _ => pem

/-- The keys file that gives the key an id. -/
def oneKeyFile (deviceId : JsString) : Bytes :=
  Utf8.encode (Json.stringify (.obj [(deviceId, .str spki)]))

/-- What a first boot over such a file holds. -/
def oneKeySources (deviceId : JsString) : StandingSources :=
  ofLoad (.set .empty deviceId ⟨spki, 1, none⟩) none .absent

variable {spki pem}

theorem parse_oneKeyFile (deviceId : JsString) :
    Json.parse (Utf8.decode (oneKeyFile spki deviceId)) = some (.obj [(deviceId, .str spki)]) := by
  have hnormal : Normal (.obj [(deviceId, .str spki)]) := by
    apply Normal.obj
    · rfl
    · simpa using .str
  rw [oneKeyFile, stringify, Utf8.decode_encode (wellFormed_render 0 0 _)]
  exact parse_stringify hnormal

/-- A keys file with one key is held. -/
theorem held_oneKey {deviceId : JsString} (hspki : spki ≠ []) (hid : KeysFileId deviceId)
    (hceremony : isCeremonyId deviceId = false) (hfits : (oneKeyFile spki deviceId).length ≤ maxKeysFileBytes) :
    Held (oneKeyParser spki pem) (fun _ => true) (oneKeySources spki deviceId) := by
  have hkeys : loadOwnerDeviceKeysFile (oneKeyParser spki pem) (js "/etc/ownerswitch/keys.json") (fun _ => [])
      (oneKeyFile spki deviceId) = .ok (.set .empty deviceId pem) := by
    have hparse : (oneKeyParser spki pem).parse spki = some spki := if_pos (.inl rfl)
    have hnamed : ¬ (deviceId = [] ∨ 0x3A ∈ deviceId) := not_or.mpr ⟨hid.nonempty, hid.colon⟩
    simp only [loadOwnerDeviceKeysFile, if_neg (not_lt.mpr hfits), parse_oneKeyFile, fields?, ownerDeviceKeys,
      ownerDeviceKey, if_neg hnamed, str?, if_neg hspki, hparse, assignProperty, if_neg hid.own]
    rfl
  have haccepted : staticDevices (oneKeyParser spki pem).parse (.set .empty deviceId pem) =
      some (.set .empty deviceId ⟨spki, 1, none⟩) := by
    have hparse : (oneKeyParser spki pem).parse pem = some spki := if_pos (.inr rfl)
    have hentries : (JsMap.empty.set deviceId pem).entries = [(deviceId, pem)] := rfl
    rw [staticDevices, hentries, if_pos (by simp [hceremony, hparse])]
    apply congrArg some
    apply JsMap.ext
    show [(deviceId, EnrolledOwnerDevice.mk (((oneKeyParser spki pem).parse pem).getD []) 1 none)] = _
    rw [hparse]
    rfl
  exact @Held.boot _ _ _ _ _ _ _ _ ⟨[], fun _ => []⟩ (.read true) ⟨none, false⟩ _ _ hkeys haccepted rfl
    (fun state hstate => by cases hstate)

end OneKey

/-- A P-256 key, as a browser exports it. -/
def sampleSpki : JsString :=
  js "MFkwEwYHKoZIzj0CAQYIKoZIzj0DAQc" ++ js "DQgAEaxfR8uEsQkf4vOblY6RA8ncDfY" ++
    js "Et6zOg9KE5RdiYwpZP40Li_hp_m47n6" ++ js "0p8D54WK84zV2sxXs7LtkBoN79R9Q"

/-- The PEM of the key. -/
def samplePem : JsString :=
  js "-----BEGIN PUBLIC KEY-----\nMFkwEwYHKoZIzj0CAQYIKoZIzj0DAQcDQgAEaxfR8uEsQkf4vOblY6RA8ncDfYEt\n6zOg9KE5RdiYwpZP40Li/hp/m47n60p8D54WK84zV2sxXs7LtkBoN79R9Q==\n-----END PUBLIC KEY-----\n"

/-- A device that a keys file names `constructor` is saved, and no load accepts the file again. -/
theorem standing_round_trip_refused :
    Held (oneKeyParser sampleSpki samplePem) (fun _ => true) (oneKeySources sampleSpki (js "constructor")) ∧
      ((oneKeySources sampleSpki (js "constructor")).persistStanding (some ⟨js "standing.json", fun _ => []⟩) .durable
        ⟨none, false⟩).1.durable = true ∧
      ¬ LoadsAs ⟨js "standing.json", fun _ => []⟩
        ((oneKeySources sampleSpki (js "constructor")).persistStanding (some ⟨js "standing.json", fun _ => []⟩) .durable
          ⟨none, false⟩).2
        (oneKeySources sampleSpki (js "constructor")).composeStanding := by
  have hid : KeysFileId (js "constructor") := ⟨by decide, by decide, by decide⟩
  have hheld : Held (oneKeyParser sampleSpki samplePem) (fun _ => true) (oneKeySources sampleSpki (js "constructor")) :=
    held_oneKey (by decide +kernel) hid (by decide) (by decide +kernel)
  refine ⟨hheld, rfl, fun hloads => ?_⟩
  have hvalid := (loadsAs_iff.mp hloads).1
  have hunlisted : (oneKeySources sampleSpki (js "constructor")).ownerDevices.has (js "constructor") = false :=
    not_has_of_valid hheld.sound hvalid (by decide)
  cases hunlisted

/-- A device that a keys file names `phone` is saved and loaded again. -/
theorem standing_round_trip_phone :
    LoadsAs ⟨js "standing.json", fun _ => []⟩
      ((oneKeySources sampleSpki (js "phone")).persistStanding (some ⟨js "standing.json", fun _ => []⟩) .durable
        ⟨none, false⟩).2
      (oneKeySources sampleSpki (js "phone")).composeStanding := by
  have hid : KeysFileId (js "phone") := ⟨by decide, by decide, by decide⟩
  have hheld : Held (oneKeyParser sampleSpki samplePem) (fun _ => true) (oneKeySources sampleSpki (js "phone")) :=
    held_oneKey (by decide +kernel) hid (by decide) (by decide +kernel)
  apply (standing_round_trip_iff hheld _ .durable _ rfl).mpr
  constructor
  · decide +kernel
  · nofun
  · intro id device hget _
    rw [oneKeySources, ofLoad, JsMap.get?_set] at hget
    split at hget
    · obtain rfl := Option.some.inj hget
      decide
    · cases hget
  · decide +kernel

end StandingSources

end OwnerSwitch
