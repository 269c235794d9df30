import AutoVPN.Server.Coordinator

/-! Updates of the operations by their runs, and the reconciliation by the user. -/

namespace AutoVPN

namespace Server

/-- An exception; `asyncio.wait_for` raises the first. -/
inductive Failure
  | timeout
  | other (message : String)

def Failure.message : Failure → String
  | timeout => ""
  | other message => message

/-- The fields of `update_operation`. -/
structure IpPatch where
  status : Option Status := none
  currentStep : Option String := none
  actionState : Option ActionState := none
  purchaseState : Option PurchaseState := none
  makeMainState : Option MakeMainState := none
  applyState : Option ApplyState := none
  oldIp : Option String := none
  oldIpId : Option String := none
  newIp : Option String := none
  newIpId : Option String := none
  publishedRevision : Option Nat := none
  healthcheckResult : Option String := none
  cleanupWarning : Option String := none
  rollbackOutcome : Option String := none
  errorMessage : Option String := none

def IpPatch.apply (p : IpPatch) (o : IpOperation) : IpOperation :=
  { o with
    status := p.status.getD o.status
    currentStep := p.currentStep.getD o.currentStep
    actionState := p.actionState.getD o.actionState
    purchaseState := p.purchaseState.getD o.purchaseState
    makeMainState := p.makeMainState.getD o.makeMainState
    applyState := p.applyState.getD o.applyState
    oldIp := p.oldIp.orElse fun _ => o.oldIp
    oldIpId := p.oldIpId.orElse fun _ => o.oldIpId
    newIp := p.newIp.orElse fun _ => o.newIp
    newIpId := p.newIpId.orElse fun _ => o.newIpId
    publishedRevision := p.publishedRevision.orElse fun _ => o.publishedRevision
    healthcheckResult := p.healthcheckResult.orElse fun _ => o.healthcheckResult
    cleanupWarning := p.cleanupWarning.orElse fun _ => o.cleanupWarning
    rollbackOutcome := p.rollbackOutcome.orElse fun _ => o.rollbackOutcome
    errorMessage := p.errorMessage.orElse fun _ => o.errorMessage }

namespace Db

def updateOperation (db : Db) (operationId : Nat) (p : IpPatch) (now : Nat) : Db :=
  let updated := db.updateIp operationId p.apply
  if p.status.any Status.terminal then updated.releaseVpsLease ⟨.ipChange, operationId⟩
  else (updated.heartbeatVpsLease ⟨.ipChange, operationId⟩ now).2

def reconcileIpOperation (db : Db) (operationId : Nat) (note : String) : Except String Db :=
  match db.findIp operationId with
  | none => .error "IP operation not found"
  | some row =>
    if !row.status.terminal then .error "Only a terminal IP operation can be reconciled"
    else if row.actionState = .reconciled || !(row.status == .ambiguous ||
        row.actionState == .cleanupAmbiguous ||
        row.actionState == .publishedAwaitingAwgCheck) then
      .error "IP operation does not require reconciliation"
    else
      .ok (db.updateIp operationId fun o =>
        { o with actionState := .reconciled, reconciliationNote := some note })

end Db

end Server

end AutoVPN
