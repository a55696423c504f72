/-
Module: OwnerSwitch.ControlPlane.RestoreRoutes
Layer: ControlPlane
Purpose: The kill routes, the login ceremony and the restore ceremony. A route that awaits its body is its
  synchronous part after the await; one that checks state before the await as well is two requests.
Imports: ControlPlane.KillState, ControlPlane.Plane
Trusted boundary: those of ControlPlane.Plane
Main exports: postKill, postSession, postCeremonyStart, postRestoreChallenge, postRestore
Open obligations: none
-/
import OwnerSwitch.ControlPlane.KillState
import OwnerSwitch.ControlPlane.Plane

namespace OwnerSwitch

namespace Plane

section

variable (prim : Primitives) (p : Plane) (opts : ServerOptions)

/-! ### Kill -/

/-- The source a kill or an alert is recorded under. -/
def killSource (authenticated : Bool) (body : Json) : KillSource :=
  if authenticated then ((body.get (js "source")).bind KillSource.ofJson).getD .api else .api

/-- `postKill` -/
def postKill (caller : Caller) (body : Body) (now : Int) (o : StoreOutcome) : Reply × Plane :=
  if !caller.authenticated && !caller.loopback then (.unauthorized, p)
  else
    match body with
    | .error e => (.error 400 e, p)
    | .ok body =>
        let source := killSource caller.authenticated body
        let reason := bodyText body (js "reason")
        match body.get (js "agentId") with
        | some agentId =>
            match agentId.str?.filter isValidAgentId with
            | none => (.error 400 (js "agentId must be printable ASCII, 1-128 chars, no leading/trailing spaces"), p)
            | some agentId =>
                let (killSwitch, escalated) :=
                  p.killSwitch.engageAgent now agentId source reason (!caller.authenticated) o
                (.killed (killSwitch.scopedKillBody agentId escalated), { p with killSwitch }.clearChallenges)
        | none =>
            let killSwitch := p.killSwitch.engage now source reason (!caller.authenticated) o
            (.killed killSwitch.globalKillBody, { p with killSwitch }.clearChallenges)

/-- `postAlert` -/
def postAlert (caller : Caller) (body : Body) (now : Int) : Reply × Plane :=
  if !caller.authenticated && !caller.loopback then (.unauthorized, p)
  else
    match body with
    | .error e => (.error 400 e, p)
    | .ok body =>
        let killSwitch := p.killSwitch.alert now (killSource caller.authenticated body) (bodyText body (js "reason"))
          (!caller.authenticated)
        (.alerted killSwitch.killed, { p with killSwitch })

/-! ### Restore -/

/-- The scope a ceremony is started with: absent, or a valid agent id. -/
def ceremonyScope (body : Json) : Option (Option JsString) :=
  match body.get (js "agentId") with
  | none => some none
  | some agentId => (agentId.str?.filter isValidAgentId).map some

/-- Whether there is anything for a ceremony of this scope to restore. -/
def restorable (scope : Option JsString) : Bool :=
  match scope with
  | none => p.killSwitch.killed
  | some agentId => !p.killSwitch.killed && p.killSwitch.agentKilled agentId

/-- A record that no path can spend any more. -/
def deadCeremony (now : Int) (record : CeremonyRecord) : Bool :=
  record.ceremony.expiresAt ≤ now || record.ceremony.status = .completed || record.epoch ≠ p.killSwitch.epoch ||
    record.agentId.any fun agentId => !p.killSwitch.agentKilled agentId

/-- A ceremony of a scope that has something to restore: the one the owner has, or a new one. -/
def startCeremony (ownerId : JsString) (scope licenseRefusal : Option JsString) (uuid : JsString) (now : Int) :
    Reply × Plane :=
  let purged := p.ceremonies.filter fun _ record => !p.deadCeremony now record
  match purged.entries.find? fun (_, record) => record.ceremony.ownerId = ownerId && record.agentId = scope with
  | some (existingId, record) =>
      let ceremony := record.ceremony.tick now
      (.ceremony 200 existingId ceremony.status (ceremony.cooldownRemainingMs now) ceremony.expiresAt record.agentId,
        { p with ceremonies := purged.set existingId { record with ceremony } })
  | none =>
      match licenseRefusal with
      | some reason =>
          (.error 402 (js "2GO restore requires an active OwnerSwitch license: " ++ reason
            ++ js ". Stopping, vetoes, acks and the audit trail are free forever and unaffected."),
            { p with ceremonies := purged })
      | none =>
          if maxCeremonyRecords ≤ purged.size then
            (.error 409 (js "ceremony rejected"), { p with ceremonies := purged })
          else
            let id := js "cer_" ++ uuid
            let ceremony := (RestoreCeremony.start id ownerId now).tick now
            (.ceremony 201 id ceremony.status (ceremony.cooldownRemainingMs now) ceremony.expiresAt scope,
              { p with ceremonies := purged.set id { ceremony, epoch := p.killSwitch.epoch, agentId := scope } })

/-- `postCeremonyStart` -/
def postCeremonyStart (ownerId : Option JsString) (body : Body) (licenseRefusal : Option JsString) (uuid : JsString)
    (now : Int) : Reply × Plane :=
  match ownerId with
  | none => (.unauthorized, p)
  | some ownerId =>
      match body with
      | .error e => (.error 400 e, p)
      | .ok body =>
          match ceremonyScope body with
          | none => (.error 400 (js "agentId must be printable ASCII, 1-128 chars, no leading/trailing spaces"), p)
          | some scope =>
              if p.restorable scope then p.startCeremony ownerId scope licenseRefusal uuid now
              else
                match scope with
                | none => (.error 409 (js "not killed — nothing to restore"), p)
                | some _ =>
                    if p.killSwitch.killed then
                      (.error 409 (js "the global kill switch is engaged — restore it first, then the agent"), p)
                    else (.error 409 (js "agent is not scope-killed — nothing to restore"), p)

/-- `getCeremony` -/
def getCeremony (ownerId : Option JsString) (id : JsString) (now : Int) : Reply × Plane :=
  match ownerId with
  | none => (.unauthorized, p)
  | some ownerId =>
      match (p.ceremonies.get? id).filter fun record => record.ceremony.ownerId = ownerId with
      | none => (.error 404 (js "no ceremony \"" ++ id ++ js "\""), p)
      | some record =>
          let ceremony := record.ceremony.tick now
          let state : CeremonyWireState :=
            if ceremony.status = .completed then .consumed
            else if record.epoch ≠ p.killSwitch.epoch ||
                record.agentId.any (fun agentId => !p.killSwitch.agentKilled agentId) then .ofCeremony .expired
            else .ofCeremony ceremony.status
          (.ceremonyState state (ceremony.cooldownRemainingMs now) ceremony.expiresAt record.agentId,
            { p with ceremonies := p.ceremonies.set id { record with ceremony } })

/-- `postRestoreChallenge` before it drains the body. -/
def postRestoreChallenge (ownerId : Option JsString) (id : JsString) : Reply × Plane :=
  match ownerId with
  | none => (.unauthorized, p)
  | some ownerId =>
      if opts.ownerPasskey.isNone then
        (.error 501 (js "no owner approval passkey is enrolled — GO 2/2 is session-only on this control plane"), p)
      else if p.killSwitch.quarantineFailed then
        (.error 409 (js "restore is unavailable — durable kill state is untrustworthy"), p)
      else
        match (p.ceremonies.get? id).filter fun record => record.ceremony.ownerId = ownerId with
        | none => (.error 404 (js "no ceremony \"" ++ id ++ js "\""), p)
        | some record =>
            if !p.restorable record.agentId then (.error 409 (js "not killed — nothing to restore"), p)
            else if record.epoch ≠ p.killSwitch.epoch then
              (.error 409 (js "the ceremony is bound to a superseded kill epoch — start a fresh one"), p)
            else (.draining, { p with draining := .restore id :: p.draining })

/-- `postRestoreChallenge` after it has drained the body. A record purged meanwhile is dead, and these checks
    refuse it as well. -/
def postRestoreChallengeDrained (id : JsString) (random : Bytes) (now : Int) : Reply × Plane :=
  if .restore id ∉ p.draining then (.error 404 (js "not found"), p)
  else
    let p := { p with draining := p.draining.erase (.restore id) }
    match (p.ceremonies.get? id).filter fun record =>
      p.restorable record.agentId && record.epoch = p.killSwitch.epoch with
    | none => (.error 409 (js "the kill epoch moved while starting GO 2/2 — start a fresh ceremony"), p)
    | some record =>
        let ceremony := record.ceremony.tick now
        let p := { p with ceremonies := p.ceremonies.set id { record with ceremony } }
        if ceremony.status ≠ .ready then
          (.error 409 (js "GO 2/2 is not yet available (ceremony state \"" ++ ceremony.status.text
            ++ js "\") — wait out the cooldown"), p)
        else
          let challenge := Base64url.encode random
          (.restoreChallenge challenge id p.killSwitch.epoch (now + challengeTtlMs) record.agentId,
            { p with
              restoreChallenges := p.restoreChallenges.set id
                { challenge, killEpoch := p.killSwitch.epoch, expiresAt := now + challengeTtlMs } })

/-- The fresh assertion GO 2/2 demands where a passkey is enrolled. The challenge is spent whether or not it verifies. -/
def redeemRestoreChallenge (ceremonyId : JsString) (body : Json) (now : Int) : Option Reply × Plane :=
  match opts.ownerPasskey with
  | none => (none, p)
  | some passkey =>
      let spent := { p with restoreChallenges := p.restoreChallenges.delete ceremonyId }
      match (p.restoreChallenges.get? ceremonyId).filter fun chal => now < chal.expiresAt with
      | none =>
          (some (.error 401 (js "no live GO 2/2 assertion challenge — request POST /restore/ceremony/:id/challenge and sign it with the enrolled passkey (challenges are single-use and short-lived)")), spent)
      | some chal =>
          if chal.killEpoch ≠ p.killSwitch.epoch then
            (some (.error 401 (js "the GO 2/2 challenge was minted in a different kill epoch — request a fresh one")), spent)
          else
            match assertionFrom (body.get (js "assertion")) with
            | none =>
                (some (.error 400 (js "restore requires assertion: \x7bcredentialId, clientDataJSON, authenticatorData, signature\x7d, each base64url")), spent)
            | some assertion => spent.redeemAssertion prim passkey chal.challenge assertion

/-- The second GO: the ceremony is consumed, then the switch restored. -/
def confirmRestore (ceremonyId : JsString) (record : CeremonyRecord) (now : Int) (o : StoreOutcome) : Reply × Plane :=
  let (ceremony, authz) := record.ceremony.confirm now
  let p := { p with ceremonies := p.ceremonies.set ceremonyId { record with ceremony } }
  match authz with
  | none => (.error 409 (js "restore rejected"), p)
  | some authz =>
      match record.agentId with
      | none =>
          match p.killSwitch.restore now authz o with
          | .error _ => (.error 409 (js "restore rejected"), p)
          | .ok killSwitch => (.restored false none, { p with killSwitch })
      | some agentId =>
          match p.killSwitch.restoreAgent now agentId authz o with
          | .error _ => (.error 409 (js "restore rejected"), p)
          | .ok killSwitch => (.restored killSwitch.killed (some agentId), { p with killSwitch })

/-- `postRestore` -/
def postRestore (ownerId : Option JsString) (body : Body) (now : Int) (o : StoreOutcome) : Reply × Plane :=
  match ownerId with
  | none => (.unauthorized, p)
  | some ownerId =>
      match body with
      | .error e => (.error 400 e, p)
      | .ok body =>
          let ceremonyId := (bodyText body (js "ceremonyId")).getD []
          match p.ceremonies.get? ceremonyId with
          | none => (.error 409 (js "restore rejected"), p)
          | some record =>
              if p.killSwitch.quarantineFailed || record.ceremony.ownerId ≠ ownerId ||
                  record.epoch ≠ p.killSwitch.epoch || !p.restorable record.agentId then
                (.error 409 (js "restore rejected"), p)
              else
                match p.redeemRestoreChallenge prim opts ceremonyId body now with
                | (some refusal, spent) => (refusal, spent)
                | (none, redeemed) => redeemed.confirmRestore ceremonyId record now o

/-! ### Login -/

/-- `postSessionChallenge` -/
def postSessionChallenge (random : Bytes) (now : Int) : Reply × Plane :=
  if opts.ownerPasskey.isNone then
    (.error 501 (js "no owner approval passkey is enrolled on this control plane"), p)
  else
    let swept := p.loginChallenges.filter fun _ record => now < record.expiresAt
    if maxLoginChallenges ≤ swept.size then
      (.error 503 (js "too many pending login challenges — retry shortly"), { p with loginChallenges := swept })
    else
      let challenge := Base64url.encode random
      (.loginChallenge challenge (now + challengeTtlMs),
        { p with
          loginChallenges := swept.set challenge
            { expiresAt := now + challengeTtlMs, killEpoch := p.killSwitch.epoch } })

/-- The redemption of a login challenge, which is spent whether or not it verifies. -/
def redeemLoginChallenge (passkey : OwnerPasskey) (challenge : JsString) (body : Json) (now : Int) :
    Option Reply × Plane :=
  let spent := { p with loginChallenges := p.loginChallenges.delete challenge }
  match (p.loginChallenges.get? challenge).filter fun record => now < record.expiresAt with
  | none => (some (.error 401 (js "no live login challenge — request POST /session/challenge first")), spent)
  | some record =>
      if record.killEpoch ≠ p.killSwitch.epoch then
        (some (.error 401 (js "the login challenge was minted in a different kill epoch — request a fresh one")), spent)
      else
        match assertionFrom (body.get (js "assertion")) with
        | none => (some (.error 400 (js "session requires a well-formed passkey assertion")), spent)
        | some assertion => spent.redeemAssertion prim passkey challenge assertion

/-- `postSession` -/
def postSession (body : Body) (now : Int) : Reply × Plane :=
  match opts.ownerPasskey with
  | none => (.error 501 (js "no owner approval passkey is enrolled on this control plane"), p)
  | some passkey =>
      match body with
      | .error e => (.error 400 e, p)
      | .ok body =>
          match textField body (js "challenge") with
          | none => (.error 400 (js "session requires the challenge and a passkey assertion"), p)
          | some challenge =>
              match p.redeemLoginChallenge prim passkey challenge body now with
              | (some refusal, spent) => (refusal, spent)
              | (none, redeemed) => (.session (js "owner"), redeemed)

end

end Plane

end OwnerSwitch
