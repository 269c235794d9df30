import AutoVPN.Server.Capture
import AutoVPN.Server.SprintboxReview

/-! Snapshots of the configuration and the operations that are bound to them. -/

namespace AutoVPN

namespace Server

namespace Db

section

variable (env : Environment) (db : Db)

/-- `_snapshot_payload`: the configuration, its payload and the payload's hash. -/
def snapshotPayload : Except String (CapturedVpnConfig × Value × String) := do
  let config ← db.capture env
  let payload := canonicalVpnConfigJson config
  return (config, payload, env.sha256 payload)

def insertSnapshot (revision : Nat) (snapshot : VpnSnapshot) : Db :=
  { db with snapshots := fun r => if r = revision then some snapshot else db.snapshots r }

end

end Db

/-- Payloads are compared by the text that `json.dumps` prints for them. -/
def VpnSnapshot.differs (dumps : Value → String) (s : VpnSnapshot) (payload : Value)
    (sha256 : String) : Bool :=
  dumps s.payload != dumps payload || s.payloadSha256 != sha256

def VpnSnapshot.reprepare (s : VpnSnapshot) : VpnSnapshot :=
  if s.lifecycle = .applied then s else { s with lifecycle := .prepared }

def VpnSnapshot.apply (s : VpnSnapshot) : VpnSnapshot := { s with lifecycle := .applied }

def VpnSnapshot.failUnapplied (s : VpnSnapshot) : VpnSnapshot :=
  if s.lifecycle = .applied then s else { s with lifecycle := .failed }

def immutableError (revision : Nat) : String :=
  "VPN revision " ++ toString revision ++ " already has different immutable content"

namespace Db

section

variable (env : Environment) (db : Db)

def ensureSnapshot (config : CapturedVpnConfig) (payload : Value) (sha256 : String)
    (reprepareFailed : Bool) : Except String Db :=
  match db.snapshots config.revision with
  | some existing =>
    if existing.differs env.dumps payload sha256 then .error (immutableError config.revision)
    else if reprepareFailed then .ok (db.updateSnapshot config.revision VpnSnapshot.reprepare)
    else .ok db
  | none => .ok (db.insertSnapshot config.revision ⟨payload, sha256, .prepared⟩)

def prepareInstallOperation (targetHost : String) (now : Nat) : Except String Db := do
  let (config, payload, sha256) ← db.snapshotPayload env
  let db ← db.ensureSnapshot env config payload sha256 true
  let id := db.installSequence + 1
  let inserted : Db := { db with
    installOperations := db.installOperations ++
      [⟨id, .pending, targetHost, "queued", some config.revision, none, none⟩]
    installSequence := id }
  inserted.acquireVpsLease ⟨.install, id⟩ now

def awaitsSshDecision (except : Nat) (o : IpOperation) : Bool :=
  o.status == .done && o.actionState == .sshUnreachable && o.id != except

def onHold (o : IpOperation) : Bool :=
  (o.status == .ambiguous && o.actionState != .reconciled) || o.actionState == .ambiguous ||
    o.actionState == .cleanupAmbiguous || o.actionState == .publishedAwaitingAwgCheck

def newIpOperation (id revision : Nat) : IpOperation where
  id := id
  status := .pending
  currentStep := "queued"
  revision := some revision
  actionState := .notStarted
  purchaseState := .notStarted
  makeMainState := .notStarted
  applyState := .notStarted
  oldIp := none
  oldIpId := none
  newIp := none
  newIpId := none
  publishedRevision := none
  publishedAt := none
  healthcheckResult := none
  cleanupWarning := none
  rollbackOutcome := none
  errorMessage := none
  reconciliationNote := none

/-- The boxes that a retry takes over from the decision that it answers. -/
def inheritedBoxes (db : Db) (previous : Nat) : List (String × Value) :=
  let kept := ((db.sprintboxContext env previous).get "retained_boxes").fields
  match db.findIp previous with
  | none => kept
  | some row =>
    let name := row.newIpId.getD ""
    kept.filter (fun entry => entry.1 != name) ++ [(name, .string (row.newIp.getD ""))]

/-- The decision, of either kind, that a new operation answers. -/
structure IpDecision where
  review : Option Nat
  ssh : Option Nat

def requestRetry (db : Db) (id : Nat) : Db :=
  db.updateIp id fun o => { o with actionState := .retryRequested }

/-- The checks of `prepare_ip_change_operation` before it writes. -/
def mayChangeIp (decision : IpDecision) : Except String Unit := do
  if decision.review.isSome && decision.ssh.isSome then .error "Choose one SprintBOX decision"
  if let some id := decision.ssh then
    let _ ← db.validateSshDecision env id false
  if db.ipOperations.any (awaitsSshDecision (decision.ssh.getD 0)) then
    .error "Choose whether to wait, create another box or cancel first"
  if let some id := decision.review then
    let _ ← db.validateReview env id
  if db.ipOperations.any onHold then
    .error "A previous IP operation requires manual verification"

def prepareIpChangeOperation (decision : IpDecision) (now : Nat) : Except String Db := do
  db.mayChangeIp env decision
  let (config, payload, sha256) ← db.snapshotPayload env
  let db ← db.ensureSnapshot env config payload sha256 false
  let id := db.ipSequence + 1
  let inserted : Db := { db with
    ipOperations := db.ipOperations ++ [newIpOperation id config.revision]
    ipSequence := id }
  let leased ← inserted.acquireVpsLease ⟨.ipChange, id⟩ now
  let bound ← leased.bindProvider env id
  let inherited := match decision.ssh with
    | some previous =>
      (bound.storeSetting (operationKey id "sprintbox")
        (env.dumps (.object [("retained_boxes",
          .object (inheritedBoxes env bound previous))]))).requestRetry previous
    | none => bound
  return match decision.review with
    | some previous => inherited.requestRetry previous
    | none => inherited

structure IpPublication where
  newIp : String
  healthcheckResult : String
  boxName : Option String
  sshKeyPath : Option String
  timestamp : String

def publishedSettings (p : IpPublication) : List (String × String) :=
  [("current_ip", p.newIp), ("vpn.config_updated_at", p.timestamp),
    ("last_healthcheck_status", "OK")] ++
  match p.boxName with
  | none => []
  | some name =>
    [("config.sprintbox_box_name", name), ("config.eu_ssh_host", "")] ++
    match p.sshKeyPath with
    | none => []
    | some path =>
      [("config.eu_ssh_user", "root"), ("config.eu_ssh_port", "22"),
        ("config.eu_ssh_key_path", path), ("config.eu_ssh_password", "")]

def publishIpChange (operationId : Nat) (p : IpPublication) : Except String Db :=
  match db.findIp operationId with
  | none => .error "IP change operation has no bound VPN snapshot"
  | some row =>
    match row.revision with
    | none => .error "IP change operation has no bound VPN snapshot"
    | some bound =>
      match db.snapshots bound with
      | none => .error "IP change operation has no bound VPN snapshot"
      | some snapshot =>
        if db.desiredRevision ≠ bound then
          .error "VPN configuration changed during IP rotation; refusing to publish"
        else
          match capturedVpnConfigFromJson snapshot.payload with
          | none => .error "Unsupported captured VPN configuration schema"
          | some boundConfig =>
            let published := bound + 1
            let payload := canonicalVpnConfigJson { boundConfig with
              currentIp := p.newIp, configUpdatedAt := p.timestamp, revision := published }
            if (db.snapshots published).isSome then
              .error "UNIQUE constraint failed: vpn_snapshots.revision"
            else
              let stored := ((db.insertSnapshot published ⟨payload, env.sha256 payload, .applied⟩)
                |>.updateSnapshot bound VpnSnapshot.apply).storeSettings (publishedSettings p)
              let applied : Db := { stored with
                desiredRevision := published, appliedRevision := some published }
              .ok (applied.purgeAppliedDeletedClients.updateIp operationId fun o =>
                { o with status := .running, currentStep := "delete_old_ipv4",
                         actionState := .published, publishedRevision := some published,
                         publishedAt := some p.timestamp,
                         healthcheckResult := some p.healthcheckResult })

end

section

variable (db : Db)

/-- The revision that is applied, once another one has been. -/
def newerRevision (applied : Option Nat) (revision : Nat) : Nat :=
  match applied with
  | none => revision
  | some applied => if applied < revision then revision else applied

def completeInstallOperation (operationId : Nat) (output : String) : Except String Db :=
  match (db.findInstall operationId).bind (·.revision) with
  | none => .error ("Install operation " ++ toString operationId ++ " has no revision")
  | some revision =>
    if (db.snapshots revision).isNone then
      .error ("VPN snapshot " ++ toString revision ++ " does not exist")
    else
      let marked : Db := { db.updateSnapshot revision VpnSnapshot.apply with
        appliedRevision := some (newerRevision db.appliedRevision revision) }
      let updated := marked.purgeAppliedDeletedClients.updateInstall operationId fun o =>
        { o with status := .done, currentStep := "done", output := some output,
                 errorMessage := none }
      .ok (updated.releaseVpsLease ⟨.install, operationId⟩)

def failInstallSnapshot (operationId : Nat) : Db :=
  match (db.findInstall operationId).bind (·.revision) with
  | some revision => db.updateSnapshot revision VpnSnapshot.failUnapplied
  | none => db

def failInstallOperation (operationId : Nat) (message : String) : Db :=
  ((db.failInstallSnapshot operationId).updateInstall operationId fun o =>
    { o with status := .failed, currentStep := "failed",
             errorMessage := some message }).releaseVpsLease ⟨.install, operationId⟩

def markInstallOperationAmbiguous (operationId : Nat) (message : String) : Db :=
  ((db.failInstallSnapshot operationId).updateInstall operationId fun o =>
    if o.status.terminal then o
    else { o with status := .ambiguous, currentStep := "ambiguous",
                  errorMessage := some message }).releaseVpsLease ⟨.install, operationId⟩

end

end Db

end Server

end AutoVPN
