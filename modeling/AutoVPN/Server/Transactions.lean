import AutoVPN.Lib.Lease
import AutoVPN.Server.Reboot
import AutoVPN.Server.SnapshotStore

/-! Every transaction on the operations of the three tables and on their lease. -/

namespace AutoVPN

open Server Server.Db

namespace Server

/-- The fields of `update_install_operation`. -/
structure InstallPatch where
  status : Option Status := none
  targetHost : Option String := none
  currentStep : Option String := none
  output : Option String := none
  errorMessage : Option String := none

def InstallPatch.apply (p : InstallPatch) (o : InstallOperation) : InstallOperation :=
  { o with
    status := p.status.getD o.status
    targetHost := p.targetHost.getD o.targetHost
    currentStep := p.currentStep.getD o.currentStep
    output := p.output.orElse fun _ => o.output
    errorMessage := p.errorMessage.orElse fun _ => o.errorMessage }

namespace Db

def updateInstallOperation (db : Db) (operationId : Nat) (p : InstallPatch) (now : Nat) : Db :=
  let updated := db.updateInstall operationId p.apply
  if p.status.any Status.terminal then updated.releaseVpsLease ⟨.install, operationId⟩
  else (updated.heartbeatVpsLease ⟨.install, operationId⟩ now).2

def heartbeatInstallOperation (db : Db) (operationId now : Nat) : Bool × Db :=
  if (db.findInstall operationId).any fun o => !o.status.terminal then
    db.heartbeatVpsLease ⟨.install, operationId⟩ now
  else (false, db)

def createProtocolRefreshOperation (db : Db) (now : Nat) : Except String Db :=
  let id := db.serverSequence + 1
  let inserted : Db := { db with
    serverOperations := db.serverOperations ++
      [{ newServerOperation id .status with currentStep := "queued_protocol_refresh" }]
    serverSequence := id }
  inserted.acquireVpsLease ⟨.server, id⟩ now

/-- The row may be claimed for the creation of a box. -/
def creatable (o : IpOperation) : Bool := o.purchaseState == .notStarted && o.status == .running

/-- The claim in `run_sprintbox_rotation` before the creation of a box. -/
def claimPurchase (db : Db) (operationId : Nat) : Bool × Db :=
  if (db.findIp operationId).any creatable then
    (true, db.updateIp operationId fun o =>
      { o with purchaseState := .sending, actionState := .purchaseSending })
  else (false, db)

def cleanable (o : IpOperation) : Bool := o.status == .pending && o.actionState == .cleanupQueued

/-- The claim at the start of `run_sprintbox_cleanup`. -/
def claimCleanup (db : Db) (operationId : Nat) : Bool × Db :=
  if (db.findIp operationId).any cleanable then
    (true, db.updateIp operationId fun o =>
      { o with status := .running, actionState := .cleanupRunning })
  else (false, db)

def resumable (o : IpOperation) : Bool := o.status == .pending && o.actionState == .sshWaitQueued

/-- The decision still fits the configuration and the account. -/
def sshDecisionHolds (env : Environment) (db : Db) (operationId : Nat) : Bool :=
  match db.validateSshDecision env operationId true with
  | .ok _ => true
  | .error _ => false

/-- The first transaction of `_resume_ssh_wait`. -/
def resumeSshWait (env : Environment) (db : Db) (operationId : Nat) : Db :=
  if (db.findIp operationId).any resumable then
    if db.sshDecisionHolds env operationId then
      db.updateIp operationId fun o => { o with status := .running, actionState := .waitingSsh }
    else
      (db.updateIp operationId fun o =>
        { o with status := .done, actionState := .sshUnreachable,
                 currentStep := "ssh_decision" }).releaseVpsLease ⟨.ipChange, operationId⟩
  else db

/-- The rows of the operations, their sequences and the lease stay. -/
structure SameOperations (db db' : Db) : Prop where
  install : db'.installOperations = db.installOperations
  ip : db'.ipOperations = db.ipOperations
  server : db'.serverOperations = db.serverOperations
  lease : db'.lease = db.lease
  installSequence : db'.installSequence = db.installSequence
  ipSequence : db'.ipSequence = db.ipSequence
  serverSequence : db'.serverSequence = db.serverSequence

end Db

/-- A transaction on the operations, with the time at which it reads the clock, or any other
transaction. -/
inductive Transaction
  | prepareInstall (targetHost : String) (now : Nat)
  | prepareIpChange (decision : Db.IpDecision) (now : Nat)
  | createServer (kind : ServerKind) (now : Nat)
  | createProtocolRefresh (now : Nat)
  | prepareCleanup (operationId now : Nat)
  | prepareSshWait (operationId now : Nat)
  | updateInstall (operationId : Nat) (p : InstallPatch) (now : Nat)
  | updateIp (operationId : Nat) (p : IpPatch) (now : Nat)
  | updateServer (operationId : Nat) (p : ServerPatch) (now : Nat)
  | heartbeatInstall (operationId now : Nat)
  | markRebootSending (operationId now : Nat)
  | claimPurchase (operationId : Nat)
  | claimCleanup (operationId : Nat)
  | resumeSshWait (operationId : Nat)
  | publish (operationId : Nat) (p : Db.IpPublication) (now : Nat)
  | completeInstall (operationId : Nat) (output : String) (now : Nat)
  | failInstall (operationId : Nat) (message : String)
  | markInstallAmbiguous (operationId : Nat) (message : String)
  | cancelSshWait (operationId : Nat) (warning : String)
  | reconcile (operationId : Nat) (note : String)
  | recover (reason : String)
  | reset
  | other

def Commits (env : Environment) (e : RebootEnvironment) (db : Db) : Transaction → Db → Prop
  | .prepareInstall targetHost now, db' => db.prepareInstallOperation env targetHost now = .ok db'
  | .prepareIpChange decision now, db' => db.prepareIpChangeOperation env decision now = .ok db'
  | .createServer kind now, db' => db.createServerOperation kind now = .ok db'
  | .createProtocolRefresh now, db' => db.createProtocolRefreshOperation now = .ok db'
  | .prepareCleanup id now, db' => db.prepareCleanup env id now = .ok db'
  | .prepareSshWait id now, db' => db.prepareSshWait env id now = .ok db'
  | .updateInstall id p now, db' => db' = db.updateInstallOperation id p now
  | .updateIp id p now, db' => db' = db.updateOperation id p now
  | .updateServer id p now, db' => db' = db.updateServerOperation e id p now
  | .heartbeatInstall id now, db' => db' = (db.heartbeatInstallOperation id now).2
  | .markRebootSending id now, db' => db' = (db.markRebootSending id now).2
  | .claimPurchase id, db' => db' = (db.claimPurchase id).2
  | .claimCleanup id, db' => db' = (db.claimCleanup id).2
  | .resumeSshWait id, db' => db' = db.resumeSshWait env id
  | .publish id p _, db' => db.publishIpChange env id p = .ok db'
  | .completeInstall id output _, db' => db.completeInstallOperation id output = .ok db'
  | .failInstall id message, db' => db' = db.failInstallOperation id message
  | .markInstallAmbiguous id message, db' => db' = db.markInstallOperationAmbiguous id message
  | .cancelSshWait id warning, db' => db.cancelSshWait id warning = .ok db'
  | .reconcile id note, db' => db.reconcileIpOperation id note = .ok db'
  | .recover reason, db' => db' = db.recoverIncompleteVpsOperations reason
  | .reset, db' => db.activeOperationOwner = none ∧ db'.installOperations = [] ∧
      db'.ipOperations = [] ∧ db'.serverOperations = [] ∧ db'.lease = none ∧
      db'.installSequence = db.installSequence ∧ db'.ipSequence = db.ipSequence ∧
      db'.serverSequence = db.serverSequence
  | .other, db' => db.SameOperations db'

/-- The reset by an administrator is the one of a history, and a start leaves the operations alone. -/
theorem commits_reset {env : Environment} {e : RebootEnvironment} {db db' : Db} {timestamp : String}
    (h : db.resetServerAndAezaState timestamp = .ok db') : Commits env e db .reset db' := by
  obtain ⟨howner, rfl⟩ := Db.resetServerAndAezaState_ok h
  have hlease : db.lease = none := by
    unfold Db.activeOperationOwner at howner
    split at howner
    · cases howner
    · rename_i hlease
      exact hlease
  rw [Db.clearServerAndAezaState_eq]
  exact ⟨howner, rfl, rfl, rfl, hlease, rfl, rfl, rfl⟩

theorem commits_startUp {env : Environment} {e : RebootEnvironment} {db db' : Db} {m : StartMaterial}
    {timestamp : String} (h : db.initDb env m timestamp = .ok db') : Commits env e db .other db' := by
  obtain ⟨-, hrest⟩ := initDb_rest h
  rw [hrest]
  exact ⟨rfl, rfl, rfl, rfl, rfl, rfl, rfl⟩

/-! The operations as parties that take one lease in turn. -/

def Status.phase : Status → LeasePhase
  | pending => .pending
  | running => .running
  | _ => .ended

namespace Db

def statusOf (db : Db) (owner : LeaseOwner) : Option Status :=
  match owner.ownerType with
  | .install => (db.findInstall owner.ownerId).map (·.status)
  | .ipChange => (db.findIp owner.ownerId).map (·.status)
  | .server => (db.findServer owner.ownerId).map (·.status)

def phaseOf (status : Option Status) : LeasePhase :=
  match status with
  | none => .absent
  | some status => status.phase

def leasing (db : Db) : Leasing LeaseOwner where
  phase := fun owner => phaseOf (db.statusOf owner)
  lease := db.lease.map fun lease => (lease.owner, lease.expiresAt)

end Db

/-- The end of a lease that is given out or renewed at `now`. -/
def leaseExpiry (now : Nat) : Nat := isoSeconds (now + defaultLeaseSeconds * microseconds)

def LeaseLive (expiresAt now : Nat) : Prop := now < expiresAt * microseconds

def writeEvent (owner : LeaseOwner) (status : Option Status) (now : Nat) : LeaseEvent LeaseOwner :=
  if status.any Status.terminal then .finish owner else .write owner (status.map Status.phase) now

/-- A transaction as the lease sees it. -/
def Transaction.event (env : Environment) (db : Db) : Transaction → LeaseEvent LeaseOwner
  | .prepareInstall _ now => .grant ⟨.install, db.installSequence + 1⟩ now
  | .prepareIpChange _ now => .grant ⟨.ipChange, db.ipSequence + 1⟩ now
  | .createServer _ now => .grant ⟨.server, db.serverSequence + 1⟩ now
  | .createProtocolRefresh now => .grant ⟨.server, db.serverSequence + 1⟩ now
  | .prepareCleanup id now => .grant ⟨.ipChange, id⟩ now
  | .prepareSshWait id now => .grant ⟨.ipChange, id⟩ now
  | .updateInstall id p now => writeEvent ⟨.install, id⟩ p.status now
  | .updateIp id p now => writeEvent ⟨.ipChange, id⟩ p.status now
  | .updateServer id p now => writeEvent ⟨.server, id⟩ p.status now
  | .heartbeatInstall id now =>
    if (db.findInstall id).any fun o => !o.status.terminal then .write ⟨.install, id⟩ none now
    else .idle
  | .markRebootSending id now =>
    if (db.findServer id).any sendable then .write ⟨.server, id⟩ (some .running) now else .idle
  | .claimPurchase _ => .idle
  | .claimCleanup id => if (db.findIp id).any cleanable then .report ⟨.ipChange, id⟩ else .idle
  | .resumeSshWait id =>
    if (db.findIp id).any resumable then
      if db.sshDecisionHolds env id then .report ⟨.ipChange, id⟩ else .finish ⟨.ipChange, id⟩
    else .idle
  | .publish id _ _ => .report ⟨.ipChange, id⟩
  | .completeInstall id _ _ => .finish ⟨.install, id⟩
  | .failInstall id _ => .finish ⟨.install, id⟩
  | .markInstallAmbiguous id _ => .finish ⟨.install, id⟩
  | .cancelSshWait _ _ => .idle
  | .reconcile _ _ => .idle
  | .recover _ => .clear
  | .reset => .erase
  | .other => .idle

/-- No row and no lease has a number that was not given out. -/
structure Numbered (db : Db) : Prop where
  install : ∀ o ∈ db.installOperations, o.id ≤ db.installSequence
  ip : ∀ o ∈ db.ipOperations, o.id ≤ db.ipSequence
  server : ∀ o ∈ db.serverOperations, o.id ≤ db.serverSequence
  lease : ∀ l, db.lease = some l → l.owner.ownerId ≤
    match l.owner.ownerType with
    | .install => db.installSequence
    | .ipChange => db.ipSequence
    | .server => db.serverSequence

end Server

end AutoVPN
