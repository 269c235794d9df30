import AutoVPN.Server.Database

/-! The lease of the VPN server: taking it over from an expired owner, keeping
it, giving it back, and the recovery at startup. -/

namespace AutoVPN

namespace Server

def defaultLeaseSeconds : Nat := 60 * 60

def microseconds : Nat := 1000000

/-- `_iso` of a time in microseconds; the fraction of the second is dropped. -/
def isoSeconds (now : Nat) : Nat := now / microseconds

def OwnerType.name : OwnerType → String
  | install => "INSTALL"
  | ipChange => "IP_CHANGE"
  | server => "SERVER"

def busyError (owner : LeaseOwner) : String :=
  "VPN VPS is busy with " ++ owner.ownerType.name ++ " operation " ++ toString owner.ownerId

namespace Db

def findInstall (db : Db) (id : Nat) : Option InstallOperation :=
  db.installOperations.find? fun o => o.id == id

def findIp (db : Db) (id : Nat) : Option IpOperation := db.ipOperations.find? fun o => o.id == id

def findServer (db : Db) (id : Nat) : Option ServerOperation :=
  db.serverOperations.find? fun o => o.id == id

def updateInstall (db : Db) (id : Nat) (f : InstallOperation → InstallOperation) : Db :=
  { db with installOperations := db.installOperations.map fun o => if o.id == id then f o else o }

def updateIp (db : Db) (id : Nat) (f : IpOperation → IpOperation) : Db :=
  { db with ipOperations := db.ipOperations.map fun o => if o.id == id then f o else o }

def updateServer (db : Db) (id : Nat) (f : ServerOperation → ServerOperation) : Db :=
  { db with serverOperations := db.serverOperations.map fun o => if o.id == id then f o else o }

def updateSnapshot (db : Db) (revision : Nat) (f : VpnSnapshot → VpnSnapshot) : Db :=
  { db with snapshots := fun r => if r = revision then (db.snapshots r).map f else db.snapshots r }

end Db

/-- The owner's revision, when it is still only prepared, has failed. -/
def VpnSnapshot.failPrepared (s : VpnSnapshot) : VpnSnapshot :=
  if s.lifecycle = .prepared then { s with lifecycle := .failed } else s

def InstallOperation.interrupt (reason : String) (o : InstallOperation) : InstallOperation :=
  if o.status.terminal then o
  else { o with status := .failed, currentStep := "interrupted", errorMessage := some reason }

/-- The operation waits for SSH on an address that it has bought. -/
def IpOperation.waitsForSsh (o : IpOperation) : Bool :=
  (o.actionState == .waitingSsh || o.actionState == .sshWaitQueued) &&
    o.purchaseState == .confirmed && o.makeMainState == .notStarted &&
    o.applyState == .notStarted && (o.newIpId.getD "") != "" && (o.newIp.getD "") != ""

def IpOperation.started (o : IpOperation) : Bool :=
  o.purchaseState != .notStarted || o.makeMainState != .notStarted || o.applyState != .notStarted

def IpOperation.interrupt (reason : String) (o : IpOperation) : IpOperation :=
  if o.status.terminal then o
  else if o.waitsForSsh then
    { o with status := .done, actionState := .sshUnreachable, currentStep := "ssh_decision",
             errorMessage := some "" }
  else if o.started then
    { o with status := .ambiguous, currentStep := "interrupted", actionState := .ambiguous,
             errorMessage := some reason }
  else
    { o with status := .failed, currentStep := "interrupted", actionState := .notStarted,
             errorMessage := some reason }

def ServerOperation.interrupt (reason : String) (o : ServerOperation) : ServerOperation :=
  if o.status.terminal then o
  else if o.kind = .reboot ∧ o.actionState ≠ .notStarted then
    { o with status := .ambiguous, actionState := .ambiguous, currentStep := "interrupted",
             errorMessage := some reason }
  else
    { o with status := .failed, currentStep := "interrupted", errorMessage := some reason }

namespace Db

def failOwner (db : Db) (owner : LeaseOwner) (reason : String) : Db :=
  match owner.ownerType with
  | .install =>
    let failed := match (db.findInstall owner.ownerId).bind (·.revision) with
      | some revision => db.updateSnapshot revision VpnSnapshot.failPrepared
      | none => db
    failed.updateInstall owner.ownerId (InstallOperation.interrupt reason)
  | .ipChange => db.updateIp owner.ownerId (IpOperation.interrupt reason)
  | .server => db.updateServer owner.ownerId (ServerOperation.interrupt reason)

def expiredReason : String := "Operation lease expired before completion"

def grantedLease (owner : LeaseOwner) (now : Nat) : Lease :=
  ⟨owner, isoSeconds now, isoSeconds now,
    isoSeconds (now + defaultLeaseSeconds * microseconds)⟩

/-- The lease, taken over when its last owner let it expire. -/
def acquireVpsLease (db : Db) (owner : LeaseOwner) (now : Nat) : Except String Db :=
  match db.lease with
  | none => .ok { db with lease := some (grantedLease owner now) }
  | some existing =>
    if existing.expiresAt * microseconds > now then .error (busyError existing.owner)
    else
      .ok { db.failOwner existing.owner expiredReason with
        lease := some (grantedLease owner now) }

def holdsLease (db : Db) (owner : LeaseOwner) : Bool :=
  db.lease.any fun lease => lease.owner == owner

/-- Whether the lease was the owner's, and the database with the lease renewed. -/
def heartbeatVpsLease (db : Db) (owner : LeaseOwner) (now : Nat) : Bool × Db :=
  (db.holdsLease owner,
    { db with lease := db.lease.map fun lease =>
        if lease.owner == owner then
          { lease with heartbeatAt := isoSeconds now,
                       expiresAt := isoSeconds (now + defaultLeaseSeconds * microseconds) }
        else lease })

def releaseVpsLease (db : Db) (owner : LeaseOwner) : Db :=
  { db with lease := db.lease.filter fun lease => lease.owner != owner }

def activeIds {α : Type} (status : α → Status) (id : α → Nat) (rows : List α) : List Nat :=
  (rows.filter fun row => !(status row).terminal).map id

def recoverIncompleteVpsOperations (db : Db) (reason : String) : Db :=
  let installs := (activeIds (·.status) (·.id) db.installOperations).foldl
    (fun db id => db.failOwner ⟨.install, id⟩ reason) db
  let ips := (activeIds (·.status) (·.id) installs.ipOperations).foldl
    (fun db id => db.failOwner ⟨.ipChange, id⟩ reason) installs
  let servers := (activeIds (·.status) (·.id) ips.serverOperations).foldl
    (fun db id => db.failOwner ⟨.server, id⟩ reason) ips
  { servers with lease := none }

end Db

end Server

end AutoVPN
