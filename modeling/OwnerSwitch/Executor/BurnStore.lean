/-
Module: OwnerSwitch.Executor.BurnStore
Layer: Executor
Purpose: The broker's single-use ledger: one record file for each jti, created exclusively by `burn`,
  rewritten in place by `record`, read by `lookup` and removed by `pruneExpired`, as programs of system
  calls over one burn directory.
Imports: Lib.JsonText, Lib.SysProg
Trusted boundary: the digest that names a record; the directory pinned at startup is the one modelled
Main exports: JtiBurnStore, burn, record, lookup, pruneExpired
Open obligations: none
-/
import OwnerSwitch.Lib.JsonText
import OwnerSwitch.Lib.SysProg

namespace OwnerSwitch

open CrashFs

inductive BurnState where
  | dispatching | performed | mergedStateObserved | connectorError | notPerformed | unreadable
  deriving DecidableEq, Repr

def BurnState.text : BurnState → JsString
  | .dispatching => js "dispatching"
  | .performed => js "performed"
  | .mergedStateObserved => js "merged-state-observed"
  | .connectorError => js "connector-error"
  | .notPerformed => js "not-performed"
  | .unreadable => js "unreadable"

/-- What `record` is given: the properties that are set. -/
structure BurnPatch where
  jti : Option JsString
  expiresAt : Option Decimal
  state : BurnState
  burnedAt : Option Decimal
  outcome : Option JsString
  merged : Option Bool
  sha : Option JsString
  message : Option JsString
  error : Option JsString

def BurnPatch.fields (p : BurnPatch) : List (JsString × Json) :=
  Json.present
    [(js "jti", p.jti.map .str),
     (js "expiresAt", p.expiresAt.map .num),
     (js "state", some (.str p.state.text)),
     (js "burnedAt", p.burnedAt.map .num),
     (js "outcome", p.outcome.map .str),
     (js "merged", p.merged.map .bool),
     (js "sha", p.sha.map .str),
     (js "message", p.message.map .str),
     (js "error", p.error.map .str)]

/-- A record as `burn` writes it. -/
def freshRecord (jti : JsString) (expiresAt : Decimal) (burnedAt : Int) : Json :=
  .obj <| Json.present
    [(js "jti", some (.str jti)),
     (js "expiresAt", some (.num expiresAt)),
     (js "state", some (.str BurnState.dispatching.text)),
     (js "burnedAt", some (.num (.ofInt burnedAt)))]

/-- What stands for a record that is there and cannot be read. -/
def unreadableRecord : Json :=
  .obj <| Json.present
    [(js "jti", some (.str [])),
     (js "expiresAt", some (.num (.ofInt 0))),
     (js "state", some (.str BurnState.unreadable.text)),
     (js "burnedAt", some (.num (.ofInt 0)))]

/-- `record.state === "unreadable"` -/
def isUnreadable (record : Json) : Bool :=
  match record.get (js "state") with
  | some (.str s) => s = BurnState.unreadable.text
  | _ => false

/-- `MAX_RECORD_BYTES` -/
def maxRecordBytes : Nat := 16 * 1024

/-- A record's text, read. -/
def asBurnRecord (text : JsString) : Option Json :=
  if maxRecordBytes < text.length then none
  else
    (Json.parse text).bind fun parsed =>
      match parsed.get (js "jti"), parsed.get (js "expiresAt") with
      | some (.str _), some (.num _) => some parsed
      | _, _ => none

structure JtiBurnStore where
  dir : JsString
  retentionMs : Int
  /-- SHA-256, in hexadecimal -/
  digest : Bytes → JsString

inductive BurnResult where
  | burned
  | alreadyBurned
  deriving DecidableEq, Repr

namespace JtiBurnStore

variable (store : JtiBurnStore)

/-- 6 hours. -/
def defaultRetentionMs : Int := 6 * 60 * 60000

def assertStillPinned : Prog Unit :=
  Prog.tryCatch Prog.touch fun e =>
    Prog.throw ⟨.EOTHER, js "burn store directory \"" ++ store.dir ++ js "\" is no longer reachable ("
      ++ e.message ++ js ") — refusing to burn into an unknown namespace"⟩

/-- The name of a jti's record in the burn directory. -/
def recordPath (jti : JsString) : JsString :=
  store.digest (Utf8.encode jti) ++ js ".json"

/-- What `writeRecord` does with its descriptor. -/
def fillRecord (record : Json) (fd : Nat) : Prog Unit :=
  Prog.finally_
    (do
      let _ ← Prog.write fd (Utf8.encode (Json.stringify record))
      Prog.fsync fd)
    Prog.touch

def readRecord (path : JsString) : Prog (Option Json) :=
  Prog.tryCatch
    (do
      let bytes ← Prog.readFile path
      pure (some ((asBurnRecord (Utf8.decode bytes)).getD unreadableRecord)))
    fun e => pure (if e.code = .ENOENT then none else some unreadableRecord)

/-- The message of a burn that could not be written. -/
def burnFailure (message : JsString) : JsString :=
  js "the burn store could not persist the single-use burn (" ++ message
    ++ js ") — refusing to dispatch on a burn that a restart would forget"

/-- The message of a burn whose entry could not be made durable. -/
def commitFailure (message : JsString) : JsString :=
  js "the burn store could not durably commit the single-use burn (" ++ message
    ++ js ") — refusing to dispatch on a burn a crash could forget"

def burn (jti : JsString) (expiresAt : Decimal) : Prog BurnResult := do
  store.assertStillPinned
  let path := store.recordPath jti
  let created ← Prog.tryCatch
    (do
      let burnedAt ← Prog.now
      let fd ← Prog.openExcl path
      fillRecord (freshRecord jti expiresAt burnedAt) fd
      pure true)
    fun e => if e.code = .EEXIST then pure false else Prog.throw ⟨.EOTHER, burnFailure e.message⟩
  if created then do
    Prog.tryCatch Prog.fsyncDir fun e => Prog.throw ⟨.EOTHER, commitFailure e.message⟩
    pure .burned
  else pure .alreadyBurned

/-- `record` up to what it has read. -/
def recordRead (jti : JsString) : Prog (Option Json) := do
  store.assertStillPinned
  readRecord (store.recordPath jti)

/-- The record a patch is applied to. -/
def recordBase (jti : JsString) (existing : Option Json) : Prog Json :=
  match existing with
  | some record =>
      if isUnreadable record then do
        let burnedAt ← Prog.now
        pure (freshRecord jti (.ofInt 0) burnedAt)
      else pure record
  | none => do
      let burnedAt ← Prog.now
      pure (freshRecord jti (.ofInt 0) burnedAt)

/-- `record` from what it has read on. -/
def recordWrite (jti : JsString) (patch : BurnPatch) (existing : Option Json) : Prog Unit := do
  let base ← recordBase jti existing
  let fd ← Prog.openTrunc (store.recordPath jti)
  fillRecord (base.assign patch.fields) fd
  Prog.fsyncDir

def record (jti : JsString) (patch : BurnPatch) : Prog Unit := do
  let existing ← store.recordRead jti
  store.recordWrite jti patch existing

def lookup (jti : JsString) : Prog (Option Json) :=
  readRecord (store.recordPath jti)

/-- The time a record's retention counts from. -/
def anchor (path : JsString) (record : Json) : Prog Decimal :=
  if isUnreadable record then
    Prog.tryCatch (do let t ← Prog.mtime path; pure (.ofInt t)) fun _ => do
      let t ← Prog.now
      pure (.ofInt t)
  else pure (((record.get (js "expiresAt")).bind Json.num?).getD (.ofInt 0))

/-- One iteration of the pruning loop: 1 where the record was removed. -/
def pruneOne (name : JsString) : Prog Nat :=
  if (js ".json").isSuffixOf name then do
    let record ← readRecord name
    match record with
    | none => pure 0
    | some record => do
        let anchor ← anchor name record
        let now ← Prog.now
        if anchor.before (now - store.retentionMs) then
          Prog.tryCatch (do Prog.unlink name; pure 1) fun _ => pure 0
        else pure 0
  else pure 0

/-- The pruning loop over the remaining names, with what it has removed so far. -/
def pruneLoop : List JsString → Nat → Prog Nat
  | [], removed => pure removed
  | name :: names, removed => do
      let n ← store.pruneOne name
      pruneLoop names (removed + n)

def pruneExpired : Prog Nat := do
  let names ← Prog.tryCatch (do let names ← Prog.readDir; pure (some names)) fun _ => pure none
  match names with
  | none => pure 0
  | some names => store.pruneLoop names 0

end JtiBurnStore

end OwnerSwitch
