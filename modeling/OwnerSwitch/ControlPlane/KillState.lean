/-
Module: OwnerSwitch.ControlPlane.KillState
Layer: ControlPlane
Purpose: The kill-state file: what is written for a kill state, what a strict reader accepts, and the
  store's `load`, `save`, `degrade` and `ensureMarker` as programs of system calls that can fail, be
  short or be cut by a power loss at any call. Over them, a `KillSwitch` whose transitions persist to a
  file store.
Imports: Lib.JsonText, Lib.SysProg, Kill
Trusted boundary: the message of a JSON syntax error (`syntaxMessage`)
Main exports: PersistedKillState.toJson, asPersistedKillState, KillStateFileStore.load, save and degrade,
  KillSwitch.persistTo, KillSwitch.boot
Open obligations: none
-/
import OwnerSwitch.Lib.JsonText
import OwnerSwitch.Lib.SysProg
import OwnerSwitch.ControlPlane.Kill

namespace OwnerSwitch

open CrashFs

/-! ### The file's content -/

namespace KillSource

def text : KillSource → JsString
  | .button => js "button"
  | .honeytoken => js "honeytoken"
  | .app => js "app"
  | .voice => js "voice"
  | .api => js "api"
  | .limit => js "limit"

/-- `KILL_SOURCES` -/
def all : List KillSource :=
  [.button, .honeytoken, .app, .voice, .api, .limit]

/-- `KILL_SOURCES.includes(source)` -/
def ofJson : Json → Option KillSource
  | .str s => all.find? fun k => k.text = s
  | _ => none

end KillSource

def KillEvent.toJson (e : KillEvent) : Json :=
  .obj <| Json.present
    [(js "source", some (.str e.source.text)),
     (js "reason", e.reason.map .str),
     (js "at", some (.num e.at)),
     (js "unauthenticated", if e.unauthenticated then some (.bool true) else none)]

/-- What `save` serialises. -/
def PersistedKillState.toJson (s : PersistedKillState) : Json :=
  .obj <| Json.present
    [(js "version", some (.num (.ofInt 1))),
     (js "killed", some (.bool s.killed)),
     (js "epoch", some (.num (.ofInt s.epoch))),
     (js "lastKill", s.lastKill.map KillEvent.toJson),
     (js "agentKills", s.agentKills.map fun m =>
       .obj (Json.ofEntries (m.entries.map fun (id, e) => (id, e.toJson))))]

/-- An absent property, or one of the right kind; none where it is of another kind. -/
def optionalProp {α : Type} (read : Json → Option α) : Option Json → Option (Option α)
  | none => some none
  | some v => (read v).map some

/-- The properties of a kill event. -/
def eventKeys : List JsString :=
  [js "source", js "reason", js "at", js "unauthenticated"]

/-- The properties of a state file. -/
def stateKeys : List JsString :=
  [js "version", js "killed", js "epoch", js "lastKill", js "agentKills"]

/-- Strict KillEvent shape check. -/
def asKillEvent (v : Json) : Option KillEvent :=
  match v with
  | .obj fs =>
      if fs.all fun f => eventKeys.contains f.1 then
        (v.get (js "source")).bind fun sourceJ => (KillSource.ofJson sourceJ).bind fun source =>
          (optionalProp Json.str? (v.get (js "reason"))).bind fun reason =>
            ((v.get (js "at")).bind Json.num?).bind fun «at» =>
              match v.get (js "unauthenticated") with
              | none => some { source, reason, «at», unauthenticated := false }
              | some (.bool true) => some { source, reason, «at», unauthenticated := true }
              | some _ => none
      else none
  | _ => none

/-- The scoped kills of a state file. -/
def asAgentKills (v : Json) : Option (JsMap JsString KillEvent) :=
  match v with
  | .obj entries =>
      if entries.length = 0 ∨ maxKilledAgents < entries.length then none
      else
        (entries.mapM fun (id, raw) =>
          if isValidAgentId id then (asKillEvent raw).map fun e => (id, e) else none).map
          JsMap.ofList
  | _ => none

/-- Strict shape check of a state file's value. -/
def asPersistedKillState (v : Json) : Option PersistedKillState :=
  match v with
  | .obj fs =>
      if fs.all fun f => stateKeys.contains f.1 then
        if (v.get (js "version")).bind Json.num? ≠ some (.ofInt 1) then none
        else
          ((v.get (js "killed")).bind Json.bool?).bind fun killed =>
            ((v.get (js "epoch")).bind Json.safeNat?).bind fun epoch =>
              if killed ≠ (v.get (js "lastKill")).isSome then none
              else
                (optionalProp asAgentKills (v.get (js "agentKills"))).bind fun agentKills =>
                  (optionalProp asKillEvent (v.get (js "lastKill"))).map fun lastKill =>
                    { killed, epoch, lastKill, agentKills }
      else none
  | _ => none

/-- `MAX_KILL_STATE_FILE_BYTES` -/
def maxKillStateFileBytes : Nat := 64 * 1024

/-- The octets `save` writes. -/
def PersistedKillState.fileBytes (s : PersistedKillState) : Bytes :=
  Utf8.encode (Json.stringifyIndented s.toJson ++ [0x0A])

/-! ### The store -/

structure KillStateFileStore where
  filePath : JsString
  /-- the message of the error `JSON.parse` throws on a text -/
  syntaxMessage : JsString → JsString

/-- What a save that returned says of itself. -/
inductive SaveResult where
  | durable
  | published (detail : JsString)
  deriving DecidableEq, Repr

namespace KillStateFileStore

variable (store : KillStateFileStore)

/-- The initialisation marker. -/
def markerPath : JsString :=
  store.filePath ++ js ".initialized"

/-- The name of a temporary file; `hex` is what `randomBytes(8).toString("hex")` drew. -/
def tmpPath (hex : JsString) : JsString :=
  store.filePath ++ js "." ++ hex ++ js ".tmp"

/-- False where the directory cannot be fsynced; an error of the final close escapes. -/
def fsyncDir : Prog Bool := do
  let opened ← Prog.tryCatch (do Prog.touch; pure true) fun _ => pure false
  if opened then
    Prog.finally_ (Prog.tryCatch (do Prog.fsyncDir; pure true) fun _ => pure false) Prog.touch
  else pure false

/-- The marker's text. -/
def markerText : Bytes :=
  Utf8.encode (js "ownerswitch kill-state store is initialised. If the sibling state file is missing, the control plane boots KILLED.\n")

/-- True when the marker durably exists (created and fsynced now, or already there). -/
def ensureMarker : Prog Bool := do
  let fd ← Prog.tryCatch (do let fd ← Prog.openExcl store.markerPath; pure (some fd)) fun e =>
    if e.code = .EEXIST then pure none else Prog.throw e
  match fd with
  | none => pure true
  | some fd => do
      Prog.finally_ (do let _ ← Prog.write fd markerText; Prog.fsync fd) Prog.touch
      fsyncDir

/-- The bounded read loop of `load`, with what it has read so far. The buffer is one octet larger than
    the limit and every read returns at least one octet before the end, which bounds the iterations. -/
def readLoop (fd : Nat) : Nat → Bytes → Prog (Except JsString Bytes)
  | 0, total => pure (.ok total)
  | fuel + 1, total => do
      let chunk ← Prog.read fd total.length (maxKillStateFileBytes + 1 - total.length)
      if chunk = [] then pure (.ok total)
      else if maxKillStateFileBytes < (total ++ chunk).length then
        pure (.error (store.filePath ++ js " is at least " ++ Json.natText (total ++ chunk).length
          ++ js " bytes, over the 65536-byte kill-state limit — refusing to read it into memory"))
      else readLoop fd fuel (total ++ chunk)

/-- `load` from the file's octets on. -/
def interpret (bytes : Bytes) : Except JsString PersistedKillState :=
  match Json.parse (Utf8.decode bytes) with
  | none => .error (js "cannot parse " ++ store.filePath ++ js ": " ++ store.syntaxMessage (Utf8.decode bytes))
  | some v =>
      match asPersistedKillState v with
      | none => .error (js "unexpected shape in " ++ store.filePath)
      | some state => .ok state

/-- `load` up to an open descriptor, or what it returns without one. -/
def openState : Prog (Except KillStateLoad Prog.Handle) :=
  Prog.tryCatch (do let fd ← Prog.openRead store.filePath; pure (Except.ok fd)) fun e =>
    if e.code = .ENOENT then do
      let initialised ← Prog.fileExists store.markerPath
      if initialised then
        pure (Except.error (.corrupt (store.filePath ++ js " is missing but the store is initialised ("
          ++ store.markerPath ++ js " exists) — the state file was deleted or the path moved")))
      else pure (Except.error .absent)
    else if e.code = .ELOOP then
      pure (Except.error (.corrupt (store.filePath ++ js " is a symlink — refusing to follow it")))
    else pure (Except.error (.corrupt (js "cannot read " ++ store.filePath ++ js ": " ++ e.message)))

/-- The octets of an open state file, or why they are not read. The descriptor is closed either way. -/
def readState (fd : Prog.Handle) : Prog (Except JsString Bytes) :=
  Prog.finally_
    (Prog.tryCatch
      (do
        Prog.touch
        match fd with
        | .other => pure (Except.error (store.filePath ++ js " is not a regular file"))
        | .file fd => store.readLoop fd (maxKillStateFileBytes + 2) [])
      fun e => pure (Except.error (js "cannot read " ++ store.filePath ++ js ": " ++ e.message)))
    Prog.touch

def load : Prog KillStateLoad := do
  let opened ← store.openState
  match opened with
  | .error result => pure result
  | .ok fd => do
      let raw ← store.readState fd
      match raw with
      | .error detail => pure (.corrupt detail)
      | .ok bytes =>
          match store.interpret bytes with
          | .error detail => pure (.corrupt detail)
          | .ok state => do
              Prog.tryCatch (do let _ ← store.ensureMarker; pure ()) fun _ => pure ()
              pure (.loaded state)

/-- `while (written < data.length) written += writeSync(...)`: every call writes at least one octet. -/
def writeLoop (fd : Nat) (data : Bytes) : Nat → Nat → Prog Unit
  | 0, _ => pure ()
  | fuel + 1, written =>
      if written < data.length then do
        let n ← Prog.write fd (data.drop written)
        writeLoop fd data fuel (written + n)
      else pure ()

/-- Writes the temporary file and renames it over the state file. On an error the descriptor is closed
    if it is still open, the temporary file is removed if that works, and the error goes on. -/
def publish (hex : JsString) (data : Bytes) : Prog Unit :=
  Prog.tryCatch
    (do
      let fd ← Prog.openExcl (store.tmpPath hex)
      Prog.tryCatch
        (do
          writeLoop fd data data.length 0
          Prog.fsync fd
          Prog.touch)
        (fun e => do
          Prog.tryCatch Prog.touch fun _ => pure ()
          Prog.throw e)
      Prog.rename (store.tmpPath hex) store.filePath)
    (fun e => do
      Prog.tryCatch (Prog.unlink (store.tmpPath hex)) fun _ => pure ()
      Prog.throw e)

def save (hex : JsString) (state : PersistedKillState) : Prog SaveResult := do
  Prog.touch
  let markerDurable ← store.ensureMarker
  store.publish hex state.fileBytes
  let dirDurable ← fsyncDir
  if markerDurable && dirDurable then pure .durable
  else pure (.published (js "the directory entry for " ++ store.filePath
    ++ js " could not be fsynced — the new state is visible but a power cut may resurface the previous one"))

/-- Makes the marker exist and the state file not exist. -/
def degrade : Prog Bool := do
  let markerOk ← Prog.tryCatch (do let _ ← store.ensureMarker; pure true) fun _ =>
    Prog.fileExists store.markerPath
  let stateGone ← Prog.tryCatch (do Prog.unlink store.filePath; pure true) fun e =>
    if e.code = .ENOENT then pure true else do
      let there ← Prog.fileExists store.filePath
      pure !there
  pure (markerOk && stateGone)

/-- `save` and, where it throws, `degrade`: what `KillSwitch.persist` does with the store. -/
def persist (hex : JsString) (state : PersistedKillState) : Prog StoreOutcome :=
  Prog.tryCatch
    (do
      let result ← store.save hex state
      match result with
      | .durable => pure .durable
      | .published detail => pure (.published detail))
    fun e => do
      let quarantined ← Prog.tryCatch store.degrade fun _ => pure false
      pure (.failed e.message quarantined)

end KillStateFileStore

/-! ### A switch over a file store -/

namespace KillSwitch

/-- `persist` over a file store. -/
def persistTo (store : KillStateFileStore) (hex : JsString) (now : Int) (s : KillSwitch) : Prog KillSwitch := do
  let o ← store.persist hex s.persistedState
  pure (s.persist now o)

/-- The constructor over a file store. -/
def boot (store : KillStateFileStore) (hex : JsString) (now : Int) : Prog KillSwitch := do
  let loaded ← store.load
  let (s, failedClosed) := ofLoad now loaded
  if failedClosed then s.persistTo store hex now else pure s

end KillSwitch

end OwnerSwitch
