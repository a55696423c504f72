/-
Module: OwnerSwitch.ControlPlane.RegistryCodec
Layer: ControlPlane
Purpose: What the strict validator makes of a registry file that was written for a state: nothing, or that state, its
  tables in the order an object enumerates. With it, what a state must have for the validator to accept its file.
Imports: ControlPlane.RegistryFile
Trusted boundary: none beyond ControlPlane.RegistryFile
Main exports: RegistryFile.Same, asPersistedEnrolledDevices_toJson, parse_fileBytes, asPersistedEnrolledDevices_complete
Open obligations: none
-/
import OwnerSwitch.ControlPlane.RegistryFile

namespace OwnerSwitch

namespace RegistryFile

open Json

/-! ### What is written is in normal form -/

theorem normal_deviceJson (d : PersistedEnrolledDevice) : Normal d.toJson := by
  apply normal_present (K := deviceKeys) rfl (by decide) (by decide)
  simp only [PersistedEnrolledDevice.fields, List.mem_cons, List.not_mem_nil, or_false, forall_eq_or_imp, forall_eq,
    Option.mem_def, Option.some.injEq, forall_eq']
  refine ⟨.str, .str, .str, .str, .str, .str, .num, ?_, ?_, .num, ?_, .num⟩
  · intro v hv
    obtain ⟨ts, -, rfl⟩ := Option.map_eq_some_iff.mp hv
    apply Normal.arr
    intro x hx
    obtain ⟨t, -, rfl⟩ := List.mem_map.mp hx
    exact .str
  · intro v hv
    obtain ⟨handle, -, rfl⟩ := Option.map_eq_some_iff.mp hv
    exact .str
  · cases d.revokedAt with
    | none => exact .null
    | some t => exact .num

theorem normal_handleJson (h : OwnerHandle) : Normal h.toJson := by
  apply Normal.obj
  · exact ofEntries_eq_self (by simp) (by simpa using by decide)
  · simpa using .str

/-- A registry is written in the order a parser returns. -/
theorem normal_toJson (s : PersistedEnrolledDevices) : Normal s.toJson := by
  apply Normal.obj
  · exact ofEntries_eq_self (show registryKeys.Nodup by decide)
      (show ∀ k ∈ registryKeys, arrayIndex k = none by decide)
  · simp only [List.mem_cons, List.not_mem_nil, or_false, forall_eq_or_imp, forall_eq]
    exact ⟨.num, .num, normal_table normal_deviceJson _, normal_table normal_handleJson _⟩

/-- The loader parses what `save` wrote. -/
theorem parse_fileBytes (s : PersistedEnrolledDevices) : Json.parse (Utf8.decode s.fileBytes) = some s.toJson := by
  have hwf : WellFormed (stringifyIndented s.toJson ++ [0x0A]) :=
    (wellFormed_render 2 0 s.toJson).append (.ascii_all rfl)
  rw [PersistedEnrolledDevices.fileBytes, Utf8.decode_encode hwf]
  exact parse_render (normal_toJson s) (by simp [isWs])

/-! ### What is read of it -/

section Read

variable {isSpkiDer : Bytes → Bool}

theorem safeNat?_ofInt {n m : Nat} (h : safeNat? (.num (.ofInt n)) = some m) : m = n := by
  simp only [safeNat?, Decimal.toInt?_ofInt, Option.bind_some] at h
  split at h
  · simpa using h.symm
  · cases h

/-- A written generation is read as itself. -/
theorem asGeneration_ofInt {n m : Nat} (h : asGeneration (.num (.ofInt n)) = some m) : m = n := by
  obtain ⟨h, -⟩ := Option.filter_eq_some_iff.mp h
  exact safeNat?_ofInt h

theorem asB64url_str {min max : Nat} {s t : JsString} (h : asB64url min max (.str s) = some t) : t = s := by
  obtain ⟨h, -⟩ := Option.filter_eq_some_iff.mp h
  exact (Option.some.inj h).symm

/-- So is a written base64url text. -/
theorem asB64url_recovers {min max : Nat} : Recovers Json.str (asB64url min max) := by
  intro s t h
  exact asB64url_str h

theorem stringField_str {cap : Nat} {s t : JsString} (h : stringField (some (.str s)) cap = some t) : t = s := by
  obtain ⟨h, -⟩ := Option.filter_eq_some_iff.mp h
  exact (Option.some.inj h).symm

/-- So is a written time. -/
theorem asTime_timeJson {t t' : Option Decimal} (h : asTime (timeJson t) = some t') : t' = t := by
  cases t <;> exact (Option.some.inj h).symm

theorem mapM_stringField {ts ts' : List JsString}
    (h : ((ts.map Json.str).mapM fun t => stringField (some t) 32) = some ts') : ts' = ts := by
  induction ts generalizing ts' with
  | nil => simpa using h.symm
  | cons t ts ih =>
      rw [List.map_cons, List.mapM_cons] at h
      obtain ⟨first, hfirst, h⟩ := Option.bind_eq_some_iff.mp h
      obtain ⟨rest, hrest, h⟩ := Option.bind_eq_some_iff.mp h
      obtain rfl := Option.some.inj h
      rw [stringField_str hfirst, ih hrest]

/-- So are the written transports. -/
theorem asTransports_recovers : Recovers (fun ts : List JsString => Json.arr (ts.map .str)) asTransports := by
  intro ts ts' h
  dsimp only [asTransports] at h
  split at h
  · cases h
  · exact mapM_stringField h

/-- What a value that is read as a device record has. -/
structure ReadsAs (isSpkiDer : Bytes → Bool) (id : JsString) (v : Json) (d : PersistedEnrolledDevice) : Prop where
  named : id ≠ [] ∧ id.length ≤ 128 ∧ id ∉ forbiddenDeviceIds
  keys : ∃ fs, v.fields? = some fs ∧ (fs.all fun f => deviceKeys.contains f.1) = true
  inner : v.property (js "deviceId") str? = some id
  deviceId : d.deviceId = id
  ownerId : stringField (v.get (js "ownerId")) 256 = some d.ownerId
  deviceName : stringField (v.get (js "deviceName")) 200 = some d.deviceName
  credentialId : v.property (js "credentialId") (asB64url 1 1024) = some d.credentialId
  publicKeySpki : (v.property (js "publicKeySpki") str?).filter (isStoredSpki isSpkiDer) = some d.publicKeySpki
  cheapLaneKeySpki : (v.property (js "cheapLaneKeySpki") str?).filter (isStoredSpki isSpkiDer) = some d.cheapLaneKeySpki
  signCount : v.property (js "signCount") safeNat? = some d.signCount
  transports : readOptional asTransports (v.get (js "transports")) = some d.transports
  userHandle : readOptional (asB64url 1 64) (v.get (js "userHandle")) = some d.userHandle
  generation : v.property (js "generation") asGeneration = some d.generation
  revokedAt : v.property (js "revokedAt") asTime = some d.revokedAt
  enrolledAt : v.property (js "enrolledAt") num? = some d.enrolledAt

/-- What a device record is read from. -/
theorem asDevice_iff {id : JsString} {v : Json} {d : PersistedEnrolledDevice} :
    asDevice isSpkiDer id v = some d ↔ ReadsAs isSpkiDer id v d := by
  simp only [asDevice, Option.bind_eq_bind, Option.bind_eq_some_iff, Option.guard_eq_some', exists_const,
    Option.some.injEq]
  constructor
  · rintro ⟨hnamed, fs, hfs, hkeys, hinner, ownerId, howner, deviceName, hname, credentialId, hcredential,
      publicKeySpki,
      hpublic, cheapLaneKeySpki, hcheap, signCount, hcount, transports, htransports, userHandle, hhandle, generation,
      hgeneration, revokedAt, hrevoked, enrolledAt, henrolled, rfl⟩
    exact ⟨hnamed, ⟨fs, hfs, hkeys⟩, hinner, rfl, howner, hname, hcredential, hpublic, hcheap, hcount,
      htransports, hhandle,
      hgeneration, hrevoked, henrolled⟩
  · intro h
    obtain ⟨fs, hfs, hkeys⟩ := h.keys
    refine ⟨h.named, fs, hfs, hkeys, h.inner, _, h.ownerId, _, h.deviceName, _, h.credentialId, _, h.publicKeySpki, _,
      h.cheapLaneKeySpki, _, h.signCount, _, h.transports, _, h.userHandle, _, h.generation, _, h.revokedAt, _,
      h.enrolledAt, ?_⟩
    rw [← h.deviceId]

/-- The properties of a written record. -/
structure Written (d : PersistedEnrolledDevice) : Prop where
  deviceId : d.toJson.get (js "deviceId") = some (.str d.deviceId)
  ownerId : d.toJson.get (js "ownerId") = some (.str d.ownerId)
  deviceName : d.toJson.get (js "deviceName") = some (.str d.deviceName)
  credentialId : d.toJson.get (js "credentialId") = some (.str d.credentialId)
  publicKeySpki : d.toJson.get (js "publicKeySpki") = some (.str d.publicKeySpki)
  cheapLaneKeySpki : d.toJson.get (js "cheapLaneKeySpki") = some (.str d.cheapLaneKeySpki)
  signCount : d.toJson.get (js "signCount") = some (.num (.ofInt d.signCount))
  transports : d.toJson.get (js "transports") = d.transports.map fun ts => .arr (ts.map .str)
  userHandle : d.toJson.get (js "userHandle") = d.userHandle.map .str
  generation : d.toJson.get (js "generation") = some (.num (.ofInt d.generation))
  revokedAt : d.toJson.get (js "revokedAt") = some (timeJson d.revokedAt)
  enrolledAt : d.toJson.get (js "enrolledAt") = some (.num d.enrolledAt)

/-- A written device record is read as itself. -/
theorem written (d : PersistedEnrolledDevice) : Written d := by
  have hget : ∀ k, d.toJson.get k = (JsMap.findEntry d.fields k).join :=
    get_present (K := deviceKeys) rfl (by decide)
  constructor
  all_goals
    rw [hget]
    rfl

/-- A device record that is read back is the one that was written. -/
theorem asDevice_recovers (id : JsString) : Recovers PersistedEnrolledDevice.toJson (asDevice isSpkiDer id) := by
  intro d d' h
  have hread := asDevice_iff.mp h
  have hwritten := written d
  have howner := hread.ownerId
  have hname := hread.deviceName
  have hcredential := hread.credentialId
  have hpublic := hread.publicKeySpki
  have hcheap := hread.cheapLaneKeySpki
  have hcount := hread.signCount
  have htransports := hread.transports
  have hhandle := hread.userHandle
  have hgeneration := hread.generation
  have hrevoked := hread.revokedAt
  have henrolled := hread.enrolledAt
  have hinner := hread.inner
  rw [hwritten.ownerId] at howner
  rw [hwritten.deviceName] at hname
  rw [property, hwritten.credentialId] at hcredential
  rw [property, hwritten.publicKeySpki] at hpublic
  rw [property, hwritten.cheapLaneKeySpki] at hcheap
  rw [property, hwritten.signCount] at hcount
  rw [hwritten.transports] at htransports
  rw [hwritten.userHandle] at hhandle
  rw [property, hwritten.generation] at hgeneration
  rw [property, hwritten.revokedAt] at hrevoked
  rw [property, hwritten.enrolledAt] at henrolled
  rw [property, hwritten.deviceId] at hinner
  have hid : d'.deviceId = d.deviceId := hread.deviceId.trans (Option.some.inj hinner).symm
  obtain ⟨deviceId', ownerId', deviceName', credentialId', publicKeySpki', cheapLaneKeySpki', signCount', transports',
    userHandle', generation', revokedAt', enrolledAt'⟩ := d'
  dsimp only at hid howner hname hcredential hpublic hcheap hcount htransports hhandle hgeneration hrevoked henrolled
  rw [hid, stringField_str howner, stringField_str hname, asB64url_str hcredential,
    ← Option.some.inj (Option.filter_eq_some_iff.mp hpublic).1,
      ← Option.some.inj (Option.filter_eq_some_iff.mp hcheap).1,
    safeNat?_ofInt hcount, readOptional_recovers asTransports_recovers htransports,
    readOptional_recovers asB64url_recovers hhandle, asGeneration_ofInt hgeneration,
    asTime_timeJson hrevoked, ← Option.some.inj henrolled]

/-- So is a written handle. -/
theorem asOwnerHandle_recovers (id : JsString) : Recovers OwnerHandle.toJson (asOwnerHandle id) := by
  intro h h' hread
  simp only [asOwnerHandle, Option.bind_eq_bind, Option.bind_eq_some_iff, Option.guard_eq_some', exists_const,
    Option.some.injEq] at hread
  obtain ⟨-, fs, -, -, userId, huser, rfl⟩ := hread
  obtain rfl := asB64url_str huser
  rfl

/-- Two states with the same contents: the tables may be enumerated differently. -/
structure Same (s t : PersistedEnrolledDevices) : Prop where
  bootstrapGeneration : s.bootstrapGeneration = t.bootstrapGeneration
  devices : ∀ id, s.devices.get? id = t.devices.get? id
  owners : ∀ id, s.owners.get? id = t.owners.get? id

theorem Same.refl (s : PersistedEnrolledDevices) : Same s s :=
  ⟨rfl, fun _ => rfl, fun _ => rfl⟩

theorem Same.trans {s t u : PersistedEnrolledDevices} (hst : Same s t) (htu : Same t u) : Same s u where
  bootstrapGeneration := hst.bootstrapGeneration.trans htu.bootstrapGeneration
  devices := fun id => (hst.devices id).trans (htu.devices id)
  owners := fun id => (hst.owners id).trans (htu.owners id)

/-- What a value that is read as a registry has. -/
inductive ReadsRegistry (isSpkiDer : Bytes → Bool) (max : Nat) (v : Json) : PersistedEnrolledDevices → Prop where
  | mk {fs bootstrapGeneration records handles} (fields : v.fields? = some fs)
      (keys : (fs.all fun f => registryKeys.contains f.1) = true)
      (version : v.property (js "version") num? = some (.ofInt 2))
      (generation : v.property (js "bootstrapGeneration") asGeneration = some bootstrapGeneration)
      (devices : v.property (js "devices") (readTable (asDevice isSpkiDer)) = some records)
      (owners : v.property (js "owners") (readTable asOwnerHandle) = some handles)
      (coherent : Coherent max records handles) :
      ReadsRegistry isSpkiDer max v ⟨bootstrapGeneration, .ofList records, .ofList handles⟩

/-- What a registry is read from. -/
theorem asPersistedEnrolledDevices_iff {max : Nat} {v : Json} {s : PersistedEnrolledDevices} :
    asPersistedEnrolledDevices isSpkiDer max v = some s ↔ ReadsRegistry isSpkiDer max v s := by
  simp only [asPersistedEnrolledDevices, Option.bind_eq_bind, Option.bind_eq_some_iff, Option.guard_eq_some',
    exists_const, Option.some.injEq]
  constructor
  · rintro ⟨fs, hfields, hkeys, hversion, generation, hgeneration, records, hrecords, handles, hhandles, hcoherent, rfl⟩
    exact .mk hfields hkeys hversion hgeneration hrecords hhandles hcoherent
  · intro h
    cases h with
    | mk hfields hkeys hversion hgeneration hrecords hhandles hcoherent =>
        exact ⟨_, hfields, hkeys, hversion, _, hgeneration, _, hrecords, _, hhandles, hcoherent, rfl⟩

/-- What the validator accepts of a written state is that state. -/
theorem asPersistedEnrolledDevices_toJson {max : Nat} {s s' : PersistedEnrolledDevices}
    (h : asPersistedEnrolledDevices isSpkiDer max s.toJson = some s') : Same s' s := by
  obtain ⟨-, -, -, hgeneration, hrecords, hhandles, -⟩ := asPersistedEnrolledDevices_iff.mp h
  obtain rfl := asGeneration_ofInt hgeneration
  obtain rfl := readTable_table asDevice_recovers hrecords
  obtain rfl := readTable_table asOwnerHandle_recovers hhandles
  have hdevices : JsMap.ofList (ofEntries s.devices.entries) = enumerate s.devices :=
    JsMap.ext (JsMap.entries_ofList (ofEntries_nodup s.devices.nodup))
  have howners : JsMap.ofList (ofEntries s.owners.entries) = enumerate s.owners :=
    JsMap.ext (JsMap.entries_ofList (ofEntries_nodup s.owners.nodup))
  rw [hdevices, howners]
  exact ⟨rfl, get?_enumerate s.devices, get?_enumerate s.owners⟩

/-! ### What is read is written back as it was read -/

/-- A safe integer that was read is read again. -/
theorem safeNat?_again {v : Json} {n : Nat} (h : safeNat? v = some n) : safeNat? (.num (.ofInt n)) = some n := by
  unfold safeNat? at h
  split at h
  · obtain ⟨z, -, hz⟩ := Option.bind_eq_some_iff.mp h
    split at hz
    · rename_i hrange
      obtain rfl := Option.some.inj hz
      have hcast : (z.toNat : Int) = z := Int.toNat_of_nonneg hrange.1
      simp only [safeNat?, Decimal.toInt?_ofInt, Option.bind_some, hcast, if_pos hrange]
    · cases hz
  · cases h

theorem asGeneration_again {v : Json} {n : Nat} (h : asGeneration v = some n) :
    asGeneration (.num (.ofInt n)) = some n := by
  obtain ⟨hsafe, hpos⟩ := Option.filter_eq_some_iff.mp h
  exact Option.filter_eq_some_iff.mpr ⟨safeNat?_again hsafe, hpos⟩

/-- A base64url text that was read is read again. -/
theorem asB64url_again {min max : Nat} {v : Json} {s : JsString} (h : asB64url min max v = some s) :
    asB64url min max (.str s) = some s :=
  Option.filter_eq_some_iff.mpr ⟨rfl, (Option.filter_eq_some_iff.mp h).2⟩

/-- A text that was read is read again. -/
theorem stringField_again {cap : Nat} {v : Option Json} {s : JsString} (h : stringField v cap = some s) :
    stringField (some (.str s)) cap = some s :=
  Option.filter_eq_some_iff.mpr ⟨rfl, (Option.filter_eq_some_iff.mp h).2⟩

/-- Transports that were read are read again. -/
theorem asTransports_again {v : Json} {ts : List JsString} (h : asTransports v = some ts) :
    asTransports (.arr (ts.map .str)) = some ts := by
  cases v with
  | arr xs =>
      dsimp only [asTransports] at h ⊢
      split at h
      · cases h
      · rename_i hlength
        have hall : ts.length = xs.length ∧ ((ts.map Json.str).mapM fun t => stringField (some t) 32) = some ts := by
          clear hlength
          induction xs generalizing ts with
          | nil =>
              obtain rfl : [] = ts := by simpa using h
              exact ⟨rfl, rfl⟩
          | cons x xs ih =>
              rw [List.mapM_cons] at h
              obtain ⟨t, ht, h⟩ := Option.bind_eq_some_iff.mp h
              obtain ⟨rest, hrest, h⟩ := Option.bind_eq_some_iff.mp h
              obtain rfl := Option.some.inj h
              obtain ⟨hlength, hread⟩ := ih hrest
              constructor
              · rw [List.length_cons, List.length_cons, hlength]
              · rw [List.map_cons, List.mapM_cons, hread, stringField_again ht]
                rfl
        rw [List.length_map, hall.1, if_neg hlength, hall.2]
  | null => cases h
  | bool => cases h
  | num => cases h
  | str => cases h
  | obj => cases h

/-- An optional part that was read is read again, where the part is. -/
theorem readOptional_again {α : Type} {write : α → Json} {read : Json → Option α}
    (hagain : ∀ v a, read v = some a → read (write a) = some a) {v : Option Json} {a : Option α}
    (h : readOptional read v = some a) : readOptional read (a.map write) = some a := by
  cases v with
  | none =>
      obtain rfl := Option.some.inj h
      rfl
  | some v =>
      obtain ⟨b, hb, rfl⟩ := Option.map_eq_some_iff.mp h
      rw [Option.map_some, readOptional, hagain v b hb]
      rfl

/-- An accepted device record is accepted again once it is written. -/
theorem asDevice_again {id : JsString} {v : Json} {d : PersistedEnrolledDevice} (h : asDevice isSpkiDer id v = some d) :
    asDevice isSpkiDer id d.toJson = some d := by
  have hread := asDevice_iff.mp h
  have hwritten := written d
  apply asDevice_iff.mpr
  constructor
  case named => exact hread.named
  case keys => exact ⟨_, rfl, present_all_contains (K := deviceKeys) rfl⟩
  case deviceId => exact hread.deviceId
  case inner =>
    rw [property, hwritten.deviceId, hread.deviceId]
    rfl
  case ownerId =>
    rw [hwritten.ownerId]
    exact stringField_again hread.ownerId
  case deviceName =>
    rw [hwritten.deviceName]
    exact stringField_again hread.deviceName
  case credentialId =>
    obtain ⟨w, -, hw⟩ := Option.bind_eq_some_iff.mp hread.credentialId
    rw [property, hwritten.credentialId]
    exact asB64url_again hw
  case publicKeySpki =>
    rw [property, hwritten.publicKeySpki]
    exact Option.filter_eq_some_iff.mpr ⟨rfl, (Option.filter_eq_some_iff.mp hread.publicKeySpki).2⟩
  case cheapLaneKeySpki =>
    rw [property, hwritten.cheapLaneKeySpki]
    exact Option.filter_eq_some_iff.mpr ⟨rfl, (Option.filter_eq_some_iff.mp hread.cheapLaneKeySpki).2⟩
  case signCount =>
    obtain ⟨w, -, hw⟩ := Option.bind_eq_some_iff.mp hread.signCount
    rw [property, hwritten.signCount]
    exact safeNat?_again hw
  case transports =>
    rw [hwritten.transports]
    exact readOptional_again (fun _ _ => asTransports_again) hread.transports
  case userHandle =>
    rw [hwritten.userHandle]
    exact @readOptional_again _ Json.str _ (fun _ _ => asB64url_again) _ _ hread.userHandle
  case generation =>
    obtain ⟨w, -, hw⟩ := Option.bind_eq_some_iff.mp hread.generation
    rw [property, hwritten.generation]
    exact asGeneration_again hw
  case revokedAt =>
    rw [property, hwritten.revokedAt]
    cases d.revokedAt <;> rfl
  case enrolledAt =>
    rw [property, hwritten.enrolledAt]
    rfl

/-- A canonical handle under an allowed name is accepted. -/
theorem asOwnerHandle_ok {ownerId userId : JsString}
    (hid : ownerId ≠ [] ∧ ownerId.length ≤ 256 ∧ ownerId ∉ forbiddenDeviceIds)
    (huser : isCanonicalB64url userId 16 64 = true) :
    asOwnerHandle ownerId (OwnerHandle.toJson ⟨userId⟩) = some ⟨userId⟩ := by
  simp only [asOwnerHandle, Option.bind_eq_bind, Option.bind_eq_some_iff, Option.guard_eq_some', exists_const,
    Option.some.injEq]
  have hread : asB64url 16 64 (.str userId) = some userId := Option.filter_eq_some_iff.mpr ⟨rfl, huser⟩
  exact ⟨hid, _, rfl, by simp, userId, hread, rfl⟩

/-! ### What the validator accepts -/

/-- The rules across records do not depend on the order of the tables. -/
theorem Coherent.perm {max : Nat} {records records' : List (JsString × PersistedEnrolledDevice)}
    {handles handles' : List (JsString × OwnerHandle)} (h : Coherent max records handles)
    (hrecords : records'.Perm records) (hhandles : handles'.Perm handles) : Coherent max records' handles' where
  credentials := ((hrecords.map _).nodup_iff).mpr h.credentials
  cheapLaneKeys := ((hrecords.map _).nodup_iff).mpr h.cheapLaneKeys
  active := (hrecords.countP_eq _).trans_le h.active
  userIds := ((hhandles.map _).nodup_iff).mpr h.userIds
  ceiling := hhandles.length_eq.trans_le h.ceiling
  owned := fun e he => ((hhandles.map _).mem_iff).mpr (h.owned e (hrecords.mem_iff.mp he))

/-- A state whose records are accepted one by one, and that keeps the rules across them, is accepted once it is
    written. -/
theorem asPersistedEnrolledDevices_complete {max : Nat} {s : PersistedEnrolledDevices}
    (hgeneration : asGeneration (.num (.ofInt s.bootstrapGeneration)) = some s.bootstrapGeneration)
    (hdevices : ∀ id d, s.devices.get? id = some d → asDevice isSpkiDer id d.toJson = some d)
    (howners : ∀ id h, s.owners.get? id = some h → asOwnerHandle id h.toJson = some h)
    (hcoherent : Coherent max s.devices.entries s.owners.entries) :
    ∃ read, asPersistedEnrolledDevices isSpkiDer max s.toJson = some read := by
  have hrecords := readTable_complete hdevices
  have hhandles := readTable_complete howners
  have hkept := hcoherent.perm (ofEntries_perm s.devices.nodup) (ofEntries_perm s.owners.nodup)
  have hkeys : registryKeys.all (fun k => registryKeys.contains k) = true := by
    decide
  exact ⟨_, asPersistedEnrolledDevices_iff.mpr (.mk rfl hkeys rfl hgeneration hrecords hhandles hkept)⟩

end Read

end RegistryFile

end OwnerSwitch
