import AutoVPN.Server.Coordinator

/-! The decisions that are left to the user after a SprintBOX rotation, and the
provider that an operation is bound to. -/

namespace AutoVPN

namespace Server

def operationKey (operationId : Nat) (name : String) : String :=
  "ip_change." ++ toString operationId ++ "." ++ name

namespace Db

section

variable (env : Environment) (db : Db)

/-- `_value`: an empty box name is a choice, other empty values are not. -/
def reviewValue (key : String) : String :=
  match db.lookup ("config." ++ key) with
  | some value =>
    if key = "sprintbox_box_name" || value ≠ "" then value else env.configDefault key
  | none => env.configDefault key

def readJson (key : String) : Value :=
  match db.lookup key with
  | some text => (env.loads text).getD .null
  | none => .object []

def sprintboxContext (operationId : Nat) : Value :=
  db.readJson env (operationKey operationId "sprintbox")

/-- `_bound`. -/
def boundProvider (operationId : Nat) : Value :=
  db.readJson env (operationKey operationId "provider")

def credentialHash : String := env.sha256Text (db.reviewValue env "sprintbox_key")

def validateTarget (operationId : Nat) : Except String IpOperation :=
  match db.findIp operationId with
  | none => .error "This SprintBOX decision no longer matches the active VPN server/account"
  | some row =>
    let bound := db.boundProvider env operationId
    if bound.get "provider" |>.is "sprintbox" |> not then
      .error "This SprintBOX decision no longer matches the active VPN server/account"
    else if db.reviewValue env "vps_provider" ≠ "sprintbox" || row.publishedRevision.isNone ||
        row.publishedRevision = some 0 || row.newIp ≠ db.lookup "current_ip" ||
        (db.lookup "current_ip").isNone ||
        row.newIpId ≠ some (db.reviewValue env "sprintbox_box_name") ||
        !(bound.get "login").is (db.reviewValue env "sprintbox_login") ||
        !(bound.get "credential_hash").is (db.credentialHash env) then
      .error "This SprintBOX decision no longer matches the active VPN server/account"
    else .ok row

def validateReview (operationId : Nat) : Except String IpOperation := do
  let row ← db.validateTarget env operationId
  if row.status ≠ .done || row.actionState ≠ .awaitingUserReview then
    .error "This SprintBOX decision was already submitted"
  else return row

def validateSshDecision (operationId : Nat) (queued : Bool) : Except String IpOperation :=
  match db.findIp operationId with
  | none => .error "This SSH decision was already submitted"
  | some row =>
    let expected : Status × ActionState :=
      if queued then (.pending, .sshWaitQueued) else (.done, .sshUnreachable)
    if (row.status, row.actionState) ≠ expected then
      .error "This SSH decision was already submitted"
    else
      let bound := db.boundProvider env operationId
      if !(bound.get "provider").is "sprintbox" ||
          db.reviewValue env "vps_provider" ≠ "sprintbox" ||
          (["login", "box_name", "service", "distributive"].any fun key =>
            !(bound.get key).is (db.reviewValue env ("sprintbox_" ++ key))) ||
          !(bound.get "credential_hash").is (db.credentialHash env) ||
          row.revision ≠ some db.desiredRevision ||
          row.oldIp ≠ some (db.setting "current_ip") ||
          (row.publishedRevision.getD 0) ≠ 0 || row.purchaseState ≠ .confirmed ||
          row.applyState ≠ .notStarted || row.makeMainState ≠ .notStarted ||
          (row.newIpId.getD "") = "" || (row.newIp.getD "") = "" ||
          (bound.get "box_name").is (row.newIpId.getD "") then
        .error "VPN configuration/account changed; cancel this SSH decision first"
      else .ok row

def prepareCleanup (operationId now : Nat) : Except String Db := do
  let _ ← db.validateReview env operationId
  let leased ← db.acquireVpsLease ⟨.ipChange, operationId⟩ now
  return leased.updateIp operationId fun o =>
    { o with status := .pending, actionState := .cleanupQueued, currentStep := "cleanup_queued" }

def prepareSshWait (operationId now : Nat) : Except String Db := do
  let _ ← db.validateSshDecision env operationId false
  let leased ← db.acquireVpsLease ⟨.ipChange, operationId⟩ now
  return leased.updateIp operationId fun o =>
    { o with status := .pending, actionState := .sshWaitQueued, currentStep := "wait_ssh" }

/-- `cancel_ssh_wait`; `warning` lists the boxes that stay. -/
def cancelSshWait (operationId : Nat) (warning : String) : Except String Db :=
  match db.findIp operationId with
  | none => .error "This SSH decision was already submitted"
  | some row =>
    if row.status ≠ .done || row.actionState ≠ .sshUnreachable then
      .error "This SSH decision was already submitted"
    else
      .ok (db.updateIp operationId fun o =>
        { o with actionState := .cancelled, currentStep := "cancelled", errorMessage := some "",
                 cleanupWarning := some warning })

def bindProvider (operationId : Nat) : Except String Db :=
  let provider := db.reviewValue env "vps_provider"
  if provider ≠ "aeza" && provider ≠ "sprintbox" then
    .error "Unknown VPS provider; configure Setup before rotating IP"
  else
    let fields : List (String × Value) := [("provider", .string provider)] ++
      if provider = "sprintbox" then
        (["login", "box_name", "service", "distributive"].map fun key =>
          (key, .string (db.reviewValue env ("sprintbox_" ++ key)))) ++
        [("credential_hash", .string (db.credentialHash env))]
      else []
    .ok (db.storeSetting (operationKey operationId "provider") (env.dumps (.object fields)))

end

end Db

end Server

end AutoVPN
