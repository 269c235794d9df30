import AutoVPN.Lib.Budget
import AutoVPN.Server.Operations

/-! A reboot of the VPN server: the transactions on its row and `run_server_reboot`
as a program over the database and the provider. -/

namespace AutoVPN

namespace Server

/-- The fields of `update_server_operation`. -/
structure ServerPatch where
  status : Option Status := none
  currentStep : Option String := none
  actionState : Option ServerAction := none
  providerStatus : Option String := none
  providerIp : Option String := none
  sshStatus : Option String := none
  servicesJson : Option String := none
  protocolHealthJson : Option String := none
  resultMessage : Option String := none
  errorMessage : Option String := none
  warningMessage : Option String := none

/-- What a run takes from its process. -/
structure RebootEnvironment where
  clean : String → String
  cleanShort : String → String
  safeError : String → String
  providerLabel : String
  providerUp : String → Option Bool
  attempts : Nat

def ServerPatch.apply (e : RebootEnvironment) (p : ServerPatch) (o : ServerOperation) :
    ServerOperation :=
  let cleaned (value old : Option String) : Option String := (value.map e.clean).orElse fun _ => old
  { o with
    status := p.status.getD o.status
    currentStep := (p.currentStep.map e.clean).getD o.currentStep
    actionState := p.actionState.getD o.actionState
    providerStatus := cleaned p.providerStatus o.providerStatus
    providerIp := cleaned p.providerIp o.providerIp
    sshStatus := cleaned p.sshStatus o.sshStatus
    servicesJson := cleaned p.servicesJson o.servicesJson
    protocolHealthJson := cleaned p.protocolHealthJson o.protocolHealthJson
    resultMessage := cleaned p.resultMessage o.resultMessage
    errorMessage := (p.errorMessage.map e.safeError).orElse fun _ => o.errorMessage
    warningMessage := (p.warningMessage.map e.safeError).orElse fun _ => o.warningMessage }

/-- What `mark_reboot_sending` writes. -/
def ServerOperation.markSending (o : ServerOperation) : ServerOperation :=
  { o with status := .running, currentStep := "send_reboot", actionState := .sending }

namespace Db

def newServerOperation (id : Nat) (kind : ServerKind) : ServerOperation where
  id := id
  kind := kind
  status := .pending
  currentStep := "queued"
  actionState := .notStarted
  providerStatus := none
  providerIp := none
  sshStatus := none
  servicesJson := none
  protocolHealthJson := none
  resultMessage := none
  errorMessage := none
  warningMessage := none

def createServerOperation (db : Db) (kind : ServerKind) (now : Nat) : Except String Db :=
  let id := db.serverSequence + 1
  let inserted : Db := { db with
    serverOperations := db.serverOperations ++ [newServerOperation id kind]
    serverSequence := id }
  inserted.acquireVpsLease ⟨.server, id⟩ now

def updateServerOperation (e : RebootEnvironment) (db : Db) (operationId : Nat) (p : ServerPatch)
    (now : Nat) : Db :=
  let updated := db.updateServer operationId (p.apply e)
  if p.status.any Status.terminal then updated.releaseVpsLease ⟨.server, operationId⟩
  else (updated.heartbeatVpsLease ⟨.server, operationId⟩ now).2

/-- The row may be claimed for sending. -/
def sendable (o : ServerOperation) : Bool :=
  o.kind == .reboot && !o.status.terminal && o.actionState == .notStarted

def markRebootSending (db : Db) (operationId now : Nat) : Bool × Db :=
  if (db.findServer operationId).any sendable then
    (true, ((db.updateServer operationId ServerOperation.markSending).heartbeatVpsLease
      ⟨.server, operationId⟩ now).2)
  else (false, db)

end Db

inductive RebootCall
  | getOperation
  | providerClient
  | update (p : ServerPatch)
  | providerStatus
  | host (providerIp : String)
  | markSending
  | rebootService
  | providerName
  | storeTask (task : String)
  | taskStatus (task : String)
  | tcpCheck (host : String)
  | services (host : String)
  | protocols (host : String)
  | sleep
  | settleFailure (error : String)

/-- The unhealthy services and the failed protocols are read off the reports. -/
abbrev RebootCall.Value : RebootCall → Type
  | getOperation => Option ServerOperation
  | providerClient => Unit
  | update _ => Unit
  | providerStatus => String × String
  | host _ => String
  | markSending => Bool
  | rebootService => String
  | providerName => String
  | storeTask _ => Unit
  | taskStatus _ => String
  | tcpCheck _ => Bool
  | services _ => String × List String
  | protocols _ => String × List String
  | sleep => Unit
  | settleFailure _ => Unit

abbrev RebootCall.Answer (c : RebootCall) : Type := Except Failure c.Value

abbrev Reboot (α : Type) := Program.Raising Failure RebootCall RebootCall.Answer α

namespace Reboot

def ask (c : RebootCall) : Reboot c.Value := ExceptT.mk (.call c .done)

def update (p : ServerPatch) : Reboot Unit := ask (.update p)

def fail {α : Type} (message : String) : Reboot α := throw (.other message)

/-- The problems that `_service_and_protocol_health` finds. -/
def healthError (unhealthy failed : List String) : String :=
  "; ".intercalate
    ((if unhealthy.isEmpty then [] else ["inactive services: " ++ ", ".intercalate unhealthy]) ++
      if failed.isEmpty then [] else ["failed protocols: " ++ ", ".intercalate failed])

def serviceAndProtocolHealth (host : String) : Reboot String := do
  update { currentStep := some "service_health" }
  let (services, unhealthy) ← ask (.services host)
  update { servicesJson := some services }
  update { currentStep := some "protocol_health" }
  let (protocols, failed) ← ask (.protocols host)
  update { protocolHealthJson := some protocols }
  return healthError unhealthy failed

/-- What the run knows once the reboot has been requested. -/
structure Requested where
  task : Option String
  ambiguous : Bool
  warnings : List String

/-- What follows the provider's answer in the protected block. -/
def recordSent (task : Option String) : Reboot Unit :=
  match task with
  | some task => do
    ask (.storeTask task)
    update { actionState := some .sent, currentStep := some "wait_reboot" }
  | none => update { actionState := some .sent, currentStep := some "wait_reboot" }

def taskStatusOf (task : Option String) : Reboot String :=
  match task with
  | none => return "finished"
  | some task => if task = "" then return "finished" else ask (.taskStatus task)

section

variable (e : RebootEnvironment)

/-- The request, with the provider's task; whatever is raised makes it ambiguous. -/
def requestReboot : Reboot (Option String × Option Failure) := do
  match ← Program.attempt (ask .rebootService) with
  | .error f => return (none, some f)
  | .ok response =>
    match ← Program.attempt (ask .providerName) with
    | .error f => return (none, some f)
    | .ok name =>
      let task := if name = "sprintbox" then some response else none
      match ← Program.attempt (recordSent task) with
      | .error f => return (task, some f)
      | .ok _ => return (task, none)

def sendReboot : Reboot Requested := do
  let (task, failure) ← requestReboot
  match failure with
  | none => return ⟨task, false, []⟩
  | some f => do
    let warning := e.providerLabel ++ " reboot request result is ambiguous: " ++
      e.safeError f.message
    update { actionState := some .ambiguous, currentStep := some "verify_ambiguous_reboot",
             warningMessage := some warning }
    return ⟨task, true, [warning]⟩

/-- How far the verification has come. -/
structure Watch where
  sawSshDown : Bool
  providerWaiting : Bool
  sshWaiting : Bool

/-- Whether the provider reports the server up, and whether to wait for it. -/
def watchProvider : Reboot (Option Bool × Bool) :=
  tryCatch
    (do
      let (status, ip) ← ask .providerStatus
      let status := e.cleanShort status
      update { providerStatus := some status, providerIp := some (e.cleanShort ip) }
      let up := e.providerUp status
      return (up, up == some false))
    fun
      | .timeout => return (some false, true)
      | f => throw f

def finish (host : String) (r : Requested) (w : Watch) : Reboot Unit := do
  let seen := if w.sawSshDown then []
    else ["SSH-down transition was not observed before recovery"]
  let health ← serviceAndProtocolHealth host
  let warnings := r.warnings ++ seen ++ if health = "" then [] else [health]
  let terminal : Status :=
    if r.ambiguous then .ambiguous else if health = "" then .done else .failed
  update {
    status := some terminal
    currentStep := some (if terminal = .done then "done" else "verification_complete")
    resultMessage := some "VPS reboot verification completed"
    warningMessage := some ("; ".intercalate warnings)
    errorMessage := some (if r.ambiguous then "Reboot request outcome remains ambiguous"
      else health) }

def timedOut (r : Requested) (w : Watch) : Reboot Unit :=
  let message := if w.providerWaiting then
      e.providerLabel ++ " did not report VPS recovery before timeout"
    else if w.sshWaiting then "SSH did not become reachable before timeout"
    else "VPS reboot verification timed out"
  update {
    status := some (if r.ambiguous then .ambiguous else .timedOut)
    currentStep := some (if w.providerWaiting then "wait_provider"
      else if w.sshWaiting then "wait_ssh" else "timed_out")
    errorMessage := some message
    warningMessage := some ("; ".intercalate r.warnings) }

def pause (remaining : Nat) : Reboot Unit := if remaining = 0 then return () else ask .sleep

/-- The verification, with `remaining` further attempts after this one. -/
def verify (host : String) (r : Requested) (w : Watch) : Nat → Reboot Unit
  | 0 => timedOut e r w
  | remaining + 1 => do
    update { currentStep := some (if r.ambiguous then "verify_ambiguous_reboot"
      else "verify_reboot") }
    let taskStatus ← taskStatusOf r.task
    if taskStatus = "error" then fail "SprintBOX reboot task failed; inspect the panel"
    else if taskStatus ≠ "finished" then do
      pause remaining
      verify host r { w with providerWaiting := true } remaining
    else do
      let (up, waiting) ← watchProvider e
      let ssh ← ask (.tcpCheck host)
      let w : Watch := ⟨w.sawSshDown || !ssh, waiting, !ssh⟩
      update { sshStatus := some (if ssh then "UP" else "DOWN") }
      if ssh && up != some false then finish host r w
      else do
        pause remaining
        verify host r w remaining

/-- The part of the run that a failure handler protects, up to the claim. -/
def prepareReboot : Reboot String := do
  ask .providerClient
  update { status := some .running, currentStep := some "provider_status_before_reboot" }
  let (status, ip) ← ask .providerStatus
  let ip := e.cleanShort ip
  update { providerStatus := some (e.cleanShort status), providerIp := some ip }
  let host ← ask (.host ip)
  if host = "" then fail "VPN VPS host is not configured" else return host

def performReboot : Reboot Unit := do
  let host ← prepareReboot e
  if ← ask .markSending then do
    let requested ← sendReboot e
    verify e host requested ⟨false, false, true⟩ (max 1 e.attempts)
  else fail "Reboot action was already started and will not be sent again"

def manualVerification : ServerPatch where
  status := some .ambiguous
  actionState := some .ambiguous
  currentStep := some "manual_verification_required"
  errorMessage := some "Reboot may already have been sent; it was not sent again"

/-- The run, once it has read its row. -/
def resume (operation : Option ServerOperation) : Reboot Unit :=
  match operation with
  | none => return ()
  | some operation =>
    if operation.actionState ≠ .notStarted then
      if operation.status.terminal then return () else update manualVerification
    else tryCatch (performReboot e) fun f => ask (.settleFailure f.message)

def runServerReboot : Reboot Unit := do
  resume e (← ask .getOperation)

end

end Reboot

end Server

end AutoVPN
