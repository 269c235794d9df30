import AutoVPN.Lib.Budget
import AutoVPN.Server.Operations
import AutoVPN.Server.VpnState

/-! `run_ip_change` for an operation that is bound to Aeza, as a program over the
database, the provider and the VPN server. -/

namespace AutoVPN

namespace Server

/-- An address as `normalize_ipv4` leaves it. -/
structure AezaIpv4 where
  id : String
  ip : String
  isMain : Bool

def findMainIp (list : List AezaIpv4) (currentIp : String) : Except Failure AezaIpv4 :=
  match list.find? (·.isMain) with
  | some item =>
    if currentIp ≠ "" && item.ip != currentIp then
      .error (.other ("Aeza main IPv4 does not match the published current_ip; " ++
        "manual reconciliation is required"))
    else .ok item
  | none =>
    match list.find? fun item => currentIp != "" && item.ip == currentIp with
    | some item => .ok item
    | none => .error (.other "Cannot find current main IPv4")

/-- `_find_new_ip`; `known` is the list from before the purchase. -/
def findNewIp (list : List AezaIpv4) (old created : AezaIpv4) (known : List AezaIpv4) :
    Option AezaIpv4 :=
  if created.id ≠ "" then list.find? fun item => item.id == created.id
  else if created.ip ≠ "" && !(known.map (·.ip)).contains created.ip then
    list.find? fun item => item.ip == created.ip
  else
    match list.filter fun item => item.id != old.id && item.ip != old.ip &&
      !(known.map (·.id)).contains item.id && !(known.map (·.ip)).contains item.ip with
    | [item] => some item
    | _ => none

/-- What a run takes from its process. -/
structure RotationEnvironment where
  safeError : Failure → String
  healthPayload : List (String × Bool) → Bool → String
  appearAttempts : Nat
  sshAttempts : Nat

inductive RotationCall
  | loadSnapshot
  | provider
  | desiredRevision
  | update (p : IpPatch)
  | getIpv4List
  | addIpv4
  | makeMainIpv4 (id : String)
  | deleteIpv4 (id : String)
  | sleep
  | tcpCheck (host : String)
  | buildScript
  | remoteApply (host script : String)
  | deepChecks (host : String)
  | publish (newIp healthcheckResult : String)
  | setHealthcheck (status : String)
  | actionState

/-- `provider` is the client with the service it is for. -/
abbrev RotationCall.Value : RotationCall → Type
  | loadSnapshot => IpOperation × CapturedVpnConfig
  | provider => String
  | desiredRevision => Nat
  | update _ => Unit
  | getIpv4List => List AezaIpv4
  | addIpv4 => AezaIpv4
  | makeMainIpv4 _ => Unit
  | deleteIpv4 _ => Unit
  | sleep => Unit
  | tcpCheck _ => Bool
  | buildScript => String
  | remoteApply _ _ => Int
  | deepChecks _ => List (String × Bool)
  | publish _ _ => Nat
  | setHealthcheck _ => Unit
  | actionState => Option ActionState

abbrev RotationCall.Answer (c : RotationCall) : Type := Except Failure c.Value

abbrev Rotation (α : Type) := Program.Raising Failure RotationCall RotationCall.Answer α

namespace Rotation

def ask (c : RotationCall) : Rotation c.Value := ExceptT.mk (.call c .done)

def update (p : IpPatch) : Rotation Unit := ask (.update p)

def fail {α : Type} (message : String) : Rotation α := throw (.other message)

/-- `_step`: every step reports the operation as running. -/
def step (name : String) (p : IpPatch) : Rotation Unit :=
  update { p with status := some .running, currentStep := some name }

def ensureBoundRevisionCurrent (revision : Nat) : Rotation Unit := do
  if (← ask .desiredRevision) ≠ revision then
    fail ("VPN configuration changed during IP rotation; the bound operation " ++
      "must be retried from the new desired revision")
  else return ()

def pause (remaining : Nat) : Rotation Unit := if remaining = 0 then return () else ask .sleep

def waitForNewIp (old created : AezaIpv4) (known : List AezaIpv4) : Nat → Rotation AezaIpv4
  | 0 => fail "New IPv4 did not appear in Aeza list before timeout"
  | remaining + 1 => do
    let list ← ask .getIpv4List
    match findNewIp list old created known with
    | some item =>
      if item.id ≠ "" && item.ip ≠ "" then return item
      else do
        pause remaining
        waitForNewIp old created known remaining
    | none => do
      pause remaining
      waitForNewIp old created known remaining

def waitForMainIp (expected : AezaIpv4) : Nat → Rotation Unit
  | 0 => fail "Aeza did not confirm the new IPv4 as main before timeout"
  | remaining + 1 => do
    let list ← ask .getIpv4List
    if list.any fun item => item.isMain && item.id == expected.id && item.ip == expected.ip then
      return ()
    else do
      pause remaining
      waitForMainIp expected remaining

def waitForSsh (host : String) : Nat → Rotation Unit
  | 0 => fail "SSH did not become reachable on the new IPv4 before timeout"
  | remaining + 1 => do
    if ← ask (.tcpCheck host) then return ()
    else do
      pause remaining
      waitForSsh host remaining

/-- What the protocols that are enabled still lack in the results. -/
def failedProtocols (config : CapturedVpnConfig) (results : List (String × Bool)) : List String :=
  ((if config.vless.protocol.enabled then [("vless", "VLESS")] else []) ++
    if config.hysteria.protocol.enabled then [("hysteria_salamander", "Hysteria")] else
      []).filterMap fun required =>
        if results.lookup required.1 = some true then none else some required.2

/-- A call that is never repeated: what it raises leaves the operation ambiguous. -/
def once (c : RotationCall) (ambiguous : IpPatch) : Rotation c.Value :=
  tryCatch (ask c) fun f => do
    update ambiguous
    throw f

section

variable (e : RotationEnvironment)

def verifyProtocolHealth (host : String) (config : CapturedVpnConfig) : Rotation String := do
  let results ← ask (.deepChecks host)
  let failed := failedProtocols config results
  if failed.isEmpty then
    return e.healthPayload results config.amnezia.protocol.enabled
  else fail ("New-endpoint protocol verification failed: " ++ ", ".intercalate failed)

def applyBoundSnapshot (host : String) : Rotation Unit := do
  step "sync_vpn_after_ip_change" { actionState := some .applying, applyState := some .running }
  let script ← ask .buildScript
  let exitCode ← once (.remoteApply host script)
    { actionState := some .ambiguous, applyState := some .ambiguous }
  if exitCode ≠ 0 then do
    update { actionState := some .applyFailed, applyState := some .failed }
    fail ("Transactional VPN apply failed with exit code " ++ toString exitCode)
  else update { actionState := some .applied, applyState := some .applied }

def rollbackOldMain (oldIpId : String) : Rotation String := do
  update { actionState := some .rollingBack, rollbackOutcome := some "SENDING" }
  match ← Program.attempt (ask (.makeMainIpv4 oldIpId)) with
  | .error f => do
    let outcome := "AMBIGUOUS: " ++ e.safeError f
    update { actionState := some .ambiguous, rollbackOutcome := some outcome }
    return outcome
  | .ok _ => do
    update { actionState := some .rolledBack, rollbackOutcome := some "RESTORED_OLD_MAIN" }
    return "RESTORED_OLD_MAIN"

/-- Up to the address that is main before the purchase. -/
def findOld (config : CapturedVpnConfig) : Rotation (AezaIpv4 × List AezaIpv4) := do
  if (← ask .provider) = "" then fail "AEZA_SERVICE_ID is not configured"
  else do
    ensureBoundRevisionCurrent config.revision
    step "get_ipv4_list" {}
    let list ← ask .getIpv4List
    step "find_current_main_ip" {}
    match findMainIp list config.currentIp with
    | .error f => throw f
    | .ok old => return (old, list)

def purchase (config : CapturedVpnConfig) (old : AezaIpv4) (known : List AezaIpv4) :
    Rotation AezaIpv4 := do
  update { oldIp := some old.ip, oldIpId := some old.id }
  ensureBoundRevisionCurrent config.revision
  step "create_new_ipv4"
    { actionState := some .purchaseSending, purchaseState := some .sending }
  let created ← once .addIpv4
    { actionState := some .ambiguous, purchaseState := some .ambiguous }
  update { actionState := some .purchaseSent, purchaseState := some .sent }
  step "wait_after_ipv4_purchase" {}
  ask .sleep
  step "wait_new_ipv4" {}
  let new ← waitForNewIp old created known (max 1 e.appearAttempts)
  update { newIp := some new.ip, newIpId := some new.id, actionState := some .purchaseConfirmed,
           purchaseState := some .confirmed }
  ensureBoundRevisionCurrent config.revision
  return new

def makeMain (config : CapturedVpnConfig) (new : AezaIpv4) : Rotation String := do
  step "make_new_ipv4_main"
    { actionState := some .makeMainSending, makeMainState := some .sending }
  once (.makeMainIpv4 new.id)
    { actionState := some .ambiguous, makeMainState := some .ambiguous }
  update { actionState := some .mainChanged, makeMainState := some .sent }
  step "confirm_new_ipv4_main" {}
  waitForMainIp new (max 1 e.appearAttempts)
  update { actionState := some .mainConfirmed, makeMainState := some .confirmed }
  step "wait_ssh" {}
  waitForSsh new.ip (max 1 e.sshAttempts)
  update {}
  ensureBoundRevisionCurrent config.revision
  applyBoundSnapshot new.ip
  ensureBoundRevisionCurrent config.revision
  step "protocol_health" {}
  let health ← verifyProtocolHealth e new.ip config
  ensureBoundRevisionCurrent config.revision
  step "update_current_ip" {}
  return health

def preservedWarning : String :=
  "Old Aeza IPv4 was preserved because AutoVPN has no real AmneziaWG probe through the new " ++
    "public endpoint; verify a client handshake manually before cleanup"

def deleteOld (oldIpId : String) : Rotation (Option String) :=
  tryCatch
    (do
      step "delete_old_ipv4" { actionState := some .cleanupSending }
      ask (.deleteIpv4 oldIpId)
      update { actionState := some .cleanupConfirmed }
      return none)
    fun f => do
      update { actionState := some .cleanupAmbiguous }
      return some ("New IPv4 was safely published, but the Aeza old-IPv4 DELETE outcome is " ++
        "ambiguous; check Aeza before any further cleanup (" ++ oldIpId ++ "): " ++ e.safeError f)

def settlePublished (step : String) (actionState : ActionState) (revision : Nat)
    (warning : String) : Rotation Unit :=
  update {
    status := some .done
    currentStep := some step
    actionState := some actionState
    publishedRevision := some revision
    cleanupWarning := some warning
    errorMessage := some "" }

def cleanup (config : CapturedVpnConfig) (old : AezaIpv4) (revision : Nat) : Rotation Unit :=
  if config.amnezia.protocol.enabled then do
    ask (.setHealthcheck "WARNING")
    settlePublished "manual_verification_required" .publishedAwaitingAwgCheck revision
      preservedWarning
  else do
    match ← deleteOld e old.id with
    | none => settlePublished "done" .done revision ""
    | some warning => settlePublished "done" .cleanupAmbiguous revision warning

/-- What the exception handler knows. -/
structure Flags where
  oldIpId : String
  makeMainStarted : Bool

/-- What is raised in a part of the run finds the flags as they then are. -/
def flagged {α : Type} (flags : Flags) (p : Rotation α) :
    Program.Raising (Failure × Flags) RotationCall RotationCall.Answer α :=
  ExceptT.mk (p.run >>= fun
    | .ok a => .done (.ok a)
    | .error f => .done (.error (f, flags)))

def perform (config : CapturedVpnConfig) :
    Program.Raising (Failure × Flags) RotationCall RotationCall.Answer Unit := do
  let (old, known) ← flagged ⟨"", false⟩ (findOld config)
  let new ← flagged ⟨old.id, false⟩ (purchase e config old known)
  flagged ⟨old.id, true⟩ do
    let health ← makeMain e config new
    let revision ← ask (.publish new.ip health)
    cleanup e config old revision

def startsWithAmbiguous (outcome : String) : Bool := startsWith "AMBIGUOUS" outcome

def rollback (flags : Flags) : Rotation String :=
  if flags.makeMainStarted && flags.oldIpId ≠ "" then rollbackOldMain e flags.oldIpId
  else return ""

def settleFailure (f : Failure) (flags : Flags) : Rotation Unit := do
  let outcome ← rollback e flags
  let current ← ask .actionState
  let ambiguous := current.any fun a => a == .ambiguous || startsWithAmbiguous outcome
  update {
    status := some (if ambiguous then .ambiguous else .failed)
    currentStep := some (if ambiguous then "manual_verification_required" else "failed")
    actionState := some (if ambiguous then .ambiguous else .failed)
    errorMessage := some (e.safeError f) }
  ask (.setHealthcheck "FAILED")
  throw f

def interruptedPatch : IpPatch where
  status := some .ambiguous
  currentStep := some "manual_verification_required"
  actionState := some .ambiguous
  errorMessage := some ("Interrupted IP rotation may already have changed Aeza or the VPS; " ++
    "automatic external actions were not resent")

/-- The run, once it has read its row and the bound configuration. -/
def resume (operation : IpOperation) (config : CapturedVpnConfig) : Rotation Unit :=
  if operation.status.terminal then return ()
  else if operation.started then update interruptedPatch
  else
    ExceptT.mk ((perform e config).run >>= fun
      | .ok () => .done (.ok ())
      | .error (f, flags) => (settleFailure e f flags).run)

def runIpChange : Rotation Unit := do
  let (operation, config) ← ask .loadSnapshot
  resume e operation config

end

end Rotation

end Server

end AutoVPN
