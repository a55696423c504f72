/-
Module: OwnerSwitch.ControlPlane.Server
Layer: ControlPlane
Purpose: The device routes, and all routes together.
Imports: ControlPlane.RestoreRoutes, ControlPlane.VetoRoutes
Trusted boundary: those of ControlPlane.Plane
Main exports: adopt, postDeviceRevoke, postDeviceEnroll, serve
Open obligations: none
-/
import OwnerSwitch.ControlPlane.RestoreRoutes
import OwnerSwitch.ControlPlane.VetoRoutes

namespace OwnerSwitch

namespace Plane

section

variable (prim : Primitives) (p : Plane) (opts : ServerOptions)

/-! ### Devices -/

/-- One severed device: its deliveries are purged and its evidence cleared, with the standing in force then. -/
def sweepDevice (now : Int) (id : JsString) (devices : Devices) : Plane :=
  { p with
    ownerDeliveries := p.ownerDeliveries.filter fun _ delivery => delivery.deviceId ≠ id
    vetoWindows := p.vetoWindows.mapVal fun _ window =>
      (window.revokeDeliveryEvidence (devices.witnessStanding prim.parseSpki p.killSwitch.killed) now id).1 }

/-- The sweeps of a handler, in order. -/
def sweepAll (now : Int) (sweeps : List (JsString × Devices)) : Plane :=
  sweeps.foldl (fun p (id, devices) => p.sweepDevice prim now id devices) p

/-- What a handler that changes standing does to the plane. -/
def adopt {ρ : Type} (r : Handled ρ) (now : Int) (o : StoreOutcome) : Plane :=
  let swept := { p.sweepAll prim now r.sweeps with devices := r.devices, registryFile := r.registryFile }
  match r.engages with
  | none => swept
  | some reason => { swept with killSwitch := p.killSwitch.engage now .api (some reason) false o }.clearChallenges

/-- `postDeviceRevoke` -/
def postDeviceRevoke (caller : Caller) (id : JsString) (registrySave : RegistrySave) (save : StandingSave) (now : Int)
    (o : StoreOutcome) : Reply × Plane :=
  if !caller.authenticated && !caller.loopback then (.unauthorized, p)
  else
    let r := p.devices.postDeviceRevoke p.registryFile id registrySave save now
    (.revoked r.reply, p.adopt prim r now o)

/-- `postDeviceEnroll` -/
def postDeviceEnroll (submission : PerformEnrollmentOutcome) (deviceId : JsString) (registrySave : RegistrySave)
    (save : StandingSave) (now : Int) (o : StoreOutcome) : Reply × Plane :=
  let r := p.devices.postDeviceEnroll prim.parseSpki p.registryFile submission deviceId registrySave save now
  (.enrolled r.reply, p.adopt prim r now o)

/-- What the mint of an invite may do to the registry. -/
def mintInvite (save : RegistrySave) : Plane :=
  { p with devices := p.devices.ensureOwnerUserId save }

/-! ### All routes -/

/-- The answer to a request and the plane it leaves. -/
def serve (now : Int) : Request → Reply × Plane
  | .kill caller body o => p.postKill caller body now o
  | .alert caller body => p.postAlert caller body now
  | .ceremonyStart ownerId body licenseRefusal uuid => p.postCeremonyStart ownerId body licenseRefusal uuid now
  | .ceremony ownerId id => p.getCeremony ownerId id now
  | .restoreChallenge ownerId id => p.postRestoreChallenge opts ownerId id
  | .restoreChallengeDrained id random => p.postRestoreChallengeDrained id random now
  | .restore ownerId body o => p.postRestore prim opts ownerId body now o
  | .veto ownerId fleetDevice ownerDevice id body => p.postVeto prim opts ownerId fleetDevice ownerDevice id body now
  | .registerVeto signed body hex => p.postRegisterVeto prim signed body hex now
  | .getVeto id deviceRead hex => p.getVeto prim opts id deviceRead hex now
  | .vetoPending signed => p.getVetoPending prim signed now
  | .vetoDetail ownerDevice id hex => p.getVetoDetail prim ownerDevice id hex now
  | .vetoSeen ownerDevice id body => p.postVetoSeen prim ownerDevice id body now
  | .approvalChallenge ownerId id => p.postApprovalChallenge prim opts ownerId id
  | .approvalChallengeDrained id random => p.postApprovalChallengeDrained prim id random now
  | .sessionChallenge random => p.postSessionChallenge opts random now
  | .session body => p.postSession prim opts body now
  | .killState nonce jti => (p.getSignedKillState opts nonce jti now, p)
  | .grantCommit body authentic => p.postGrantCommit opts body authentic now
  | .deviceRevoke caller id registrySave save o => p.postDeviceRevoke prim caller id registrySave save now o
  | .deviceEnroll submission deviceId registrySave save o =>
      p.postDeviceEnroll prim submission deviceId registrySave save now o
  | .mintInvite save => (.minted, p.mintInvite save)

end

end Plane

end OwnerSwitch
