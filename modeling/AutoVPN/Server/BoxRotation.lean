import AutoVPN.Lib.Crew
import AutoVPN.Lib.Mapping
import AutoVPN.Server.Payload
import AutoVPN.Server.Rotation
import AutoVPN.Server.Transactions

/-! `run_sprintbox_rotation`: a new box is bought under a label of its own, found again in the
provider's list, set up and published; and the run that goes on after a wait for SSH. -/

namespace AutoVPN

namespace Server

/-- `SprintboxApiError`, `SprintboxTaskIdMissing`, or another exception. -/
inductive CreationFailure
  | api (message : String)
  | taskIdMissing (message : String)
  | other (message : String)

def CreationFailure.message : CreationFailure → String
  | api message => message
  | taskIdMissing message => message
  | other message => message

structure ConfiguredProvider where
  provider : String
  login : String
  key : String
  boxName : String
  service : String
  distributive : String

def ConfiguredProvider.bindings (c : ConfiguredProvider) : List (String × String) :=
  [("login", c.login), ("box_name", c.boxName), ("service", c.service),
    ("distributive", c.distributive)]

structure BoxSsh where
  keyPath : String
  publicKey : String

/-- The boxes of the account by their names, as `list_boxes` gives them. -/
abbrev Boxes := List (String × Value)

/-- What a run takes from its process; `ipv4Address` is the text of an address that
`ipaddress.IPv4Address` takes, and `text` is `str`. -/
structure BoxEnvironment where
  sanitize : String → String
  sha256 : String → String
  ipv4Address : Value → Option String
  text : Value → String
  requestId : String
  pollAttempts : Nat
  deployPolls : Nat

/-- `waitForSsh` is answered by whether SSH has become reachable, `deployed` by the exit code of the
deployment once there is one, `claimResume` by the row and the context of an operation that may be
resumed. -/
inductive BoxCall
  | loadSnapshot
  | boundProvider
  | configured
  | desiredRevision
  | transactionalApply
  | sshHost
  | prepareSsh
  | context
  | retainedBoxes (name ip : String) (bound : Value)
  | update (p : IpPatch)
  | listBoxes
  | getBox (name : String)
  | randomLabel
  | saveContext (context : Value)
  | claimPurchase
  | createBox (service distributive publicKey marker : String)
  | taskStatus (task : String)
  | sleep
  | waitForSsh (host : String)
  | deployed (host : String)
  | protocolHealth (host : String)
  | publish (name ip health keyPath : String)
  | claimResume
  | keyFile (path : String)

abbrev BoxCall.Value : BoxCall → Type
  | loadSnapshot => IpOperation × CapturedVpnConfig
  | boundProvider => AutoVPN.Value
  | configured => ConfiguredProvider
  | desiredRevision => Nat
  | transactionalApply => Bool
  | sshHost => String
  | prepareSsh => BoxSsh
  | context => AutoVPN.Value
  | retainedBoxes _ _ _ => AutoVPN.Value
  | update _ => Unit
  | listBoxes => Boxes
  | getBox _ => AutoVPN.Value
  | randomLabel => Nat
  | saveContext _ => Unit
  | claimPurchase => Bool
  | createBox _ _ _ _ => String
  | taskStatus _ => String
  | sleep => Unit
  | waitForSsh _ => Bool
  | deployed _ => Option Int
  | protocolHealth _ => String
  | publish _ _ _ _ => Nat
  | claimResume => Option (IpOperation × AutoVPN.Value)
  | keyFile _ => Bool

abbrev BoxCall.Answer (c : BoxCall) : Type := Except CreationFailure c.Value

abbrev BoxRun (α : Type) := Program.Raising CreationFailure BoxCall BoxCall.Answer α

namespace BoxRotation

def ask (c : BoxCall) : BoxRun c.Value := ExceptT.mk (.call c .done)

def update (p : IpPatch) : BoxRun Unit := ask (.update p)

def fail {α : Type} (message : String) : BoxRun α := throw (.other message)

def step (name : String) (p : IpPatch) : BoxRun Unit :=
  update { p with status := some .running, currentStep := some name }

def isText (v : Value) (s : String) : Bool :=
  match v with
  | .string t => t == s
  | _ => false

def sameText : Value → Value → Bool
  | .string a, .string b => a == b
  | v, w => v.isNull && w.isNull

def textOf : Value → String
  | .string s => s
  | _ => ""

def ensureBoundRevisionCurrent (revision : Nat) : BoxRun Unit := do
  if (← ask .desiredRevision) ≠ revision then
    fail ("VPN configuration changed during IP rotation; the bound operation " ++
      "must be retried from the new desired revision")
  else return ()

def pause (remaining : Nat) : BoxRun Unit := if remaining = 0 then return () else ask .sleep

def waitTask (task name : String) : Nat → BoxRun Unit
  | 0 => fail "SprintBOX task did not finish before timeout; inspect the panel before retrying"
  | remaining + 1 => do
    step name {}
    let status ← ask (.taskStatus task)
    if status = "finished" then return ()
    else if status = "error" then
      throw (.api ("SprintBOX API TASK_FAILED: " ++
        "Asynchronous task failed; inspect the SprintBOX panel"))
    else do
      pause remaining
      waitTask task name remaining

/-- What the exception handler knows. -/
structure Known where
  creationStarted : Bool
  newName : String

/-- What is raised in a part of the run finds what the handler then knows. -/
def knowing {α : Type} (k : Known) (p : BoxRun α) :
    Program.Raising (CreationFailure × Known) BoxCall BoxCall.Answer α :=
  ExceptT.mk (p.run >>= fun
    | .ok a => .done (.ok a)
    | .error f => .done (.error (f, k)))

section

variable (e : BoxEnvironment)

def boxIpv4 (box : Value) : List String :=
  match box.get "ipv4" with
  | .array values => values.filterMap e.ipv4Address
  | _ => []

def description (box : Value) : String :=
  if (box.get "description").holds then e.text (box.get "description") else ""

/-- The labels from `offset` on, one after the other. -/
def freeLabel (existing : List String) (start : Nat) : Nat → Nat → Option String
  | _, 0 => none
  | offset, remaining + 1 =>
    let label := "бокс-" ++ toString (10000 + (start + offset) % 90000)
    if existing.contains label then freeLabel existing start (offset + 1) remaining else some label

def newBoxLabel (boxes : Boxes) : BoxRun String := do
  let start ← ask .randomLabel
  match freeLabel (boxes.map (·.1) ++ boxes.map fun box => description e box.2) start 0 90000 with
  | some label => return label
  | none => fail "No free five-digit SprintBOX name is available"

def checkBinding (bound : Value) : BoxRun Unit := do
  let current ← ask .configured
  if current.provider ≠ "sprintbox" ||
      (current.bindings.any fun b => !isText (bound.get b.1) b.2) ||
      !isText (bound.get "credential_hash") (e.sha256 current.key) then
    fail "SprintBOX settings changed; prepare a new operation"
  else return ()

def deploy (host : String) : Nat → BoxRun Unit
  | 0 => fail "TimeoutError"
  | remaining + 1 => do
    let done ← ask (.deployed host)
    step "install_new_box" { applyState := some .running }
    match done with
    | none => deploy host remaining
    | some exitCode =>
      if exitCode ≠ 0 then
        fail ("SprintBOX VPN installation failed (exit " ++ toString exitCode ++
          "); old box preserved")
      else return ()

def provisionBox (revision : Nat) (bound : Value) (ssh : BoxSsh) (name ip : String) :
    BoxRun Unit := do
  checkBinding e bound
  ensureBoundRevisionCurrent revision
  step "wait_ssh" { actionState := some .waitingSsh }
  if ← ask (.waitForSsh ip) then do
    update {}
    step "install_new_box" { actionState := some .applying, applyState := some .running }
    deploy ip e.deployPolls
    update { applyState := some .applied }
    checkBinding e bound
    ensureBoundRevisionCurrent revision
    step "protocol_health" {}
    let health ← ask (.protocolHealth ip)
    checkBinding e bound
    let published ← ask (.publish name ip health ssh.keyPath)
    update { status := some .done, currentStep := some "awaiting_user_review",
             actionState := some .awaitingUserReview, publishedRevision := some published,
             errorMessage := some "" }
  else update { status := some .done, actionState := some .sshUnreachable,
                currentStep := some "ssh_decision", errorMessage := some "" }

/-- The boxes that were not listed before and carry the marker under their own name. -/
def candidates (before : Boxes) (marker : String) (boxes : Boxes) : Boxes :=
  boxes.filter fun box => !(before.map (·.1)).contains box.1 && isText (box.2.get "name") box.1 &&
    isText (box.2.get "description") marker

def freshIp (before : Boxes) (currentIp ip : String) : Bool :=
  ip != currentIp && before.all fun box => !(boxIpv4 e box.2).contains ip

def unidentified (newName : String) : String :=
  if newName = "" then "Cannot uniquely identify new SprintBOX IPv4; inspect the panel"
  else "Бокс " ++ newName ++ " создан, но новый IPv4 не готов. Проверьте статус бокса и баланс " ++
    "в кабинете SprintBOX; при статусе «не оплачен» пополните баланс. " ++
    "Повторный запрос создания не отправлялся"

/-- The search for the new box, whose name is `newName` as far as it is known. -/
def identify (before : Boxes) (marker currentIp : String) (newName : String) :
    Nat → Program.Raising (CreationFailure × Known) BoxCall BoxCall.Answer (String × String)
  | 0 => throw (.other (unidentified newName), ⟨true, newName⟩)
  | remaining + 1 => do
    knowing ⟨true, newName⟩ (step "identify_new_box" {})
    let boxes ← knowing ⟨true, newName⟩ (ask .listBoxes)
    match candidates before marker boxes with
    | [] => do
      knowing ⟨true, newName⟩ (pause remaining)
      identify before marker currentIp newName remaining
    | [box] => do
      knowing ⟨true, box.1⟩ (update { newIpId := some box.1 })
      match boxIpv4 e box.2 with
      | [ip] =>
        if freshIp e before currentIp ip then return (box.1, ip)
        else do
          knowing ⟨true, box.1⟩ (pause remaining)
          identify before marker currentIp box.1 remaining
      | _ => do
        knowing ⟨true, box.1⟩ (pause remaining)
        identify before marker currentIp box.1 remaining
    | _ :: _ :: _ =>
      throw (.other "Multiple SprintBOX boxes match this operation; manual verification required",
        ⟨true, newName⟩)

/-- What the run has prepared when it is ready to buy a box. -/
structure Purchase where
  before : Boxes
  marker : String
  context : Value
  ssh : BoxSsh

def rotationContext (marker : String) (firstBox : Bool) (retained : Value) (keyPath : String) :
    Value :=
  .object [("marker", .string marker), ("request_id", .string e.requestId),
    ("first_box", .bool firstBox), ("retained_boxes", retained), ("ssh_key_path", .string keyPath)]

/-- `retained.update(...)`. -/
def merge (v w : Value) : Value := w.fields.foldl (fun v f => v.put f.1 f.2) v

/-- The boxes retained so far, with those of the box that is replaced. -/
def retainedBoxes (config : CapturedVpnConfig) (bound : Value) (firstBox : Bool) :
    BoxRun Value := do
  let context ← ask .context
  let retained : Value := .object (context.get "retained_boxes").fields
  if firstBox then return retained
  else do
    step "inspect_old_box" {}
    let old ← ask (.getBox (textOf (bound.get "box_name")))
    if !(boxIpv4 e old).contains config.currentIp then
      fail "Configured SprintBOX box does not own current_ip; refusing rotation"
    else do
      let chain ← ask (.retainedBoxes (textOf (bound.get "box_name")) config.currentIp bound)
      return merge retained chain

/-- The checks up to the key of the new box. -/
def checkRotation (key : String) (config : CapturedVpnConfig) (bound : Value) : BoxRun BoxSsh := do
  checkBinding e bound
  ensureBoundRevisionCurrent config.revision
  if !(← ask .transactionalApply) then
    fail "SprintBOX rotation requires transactional VPN apply"
  else if !(config.vless.protocol.enabled || config.hysteria.protocol.enabled ||
      config.amnezia.protocol.enabled) then
    fail "Enable at least one VPN protocol before rotating SprintBOX"
  else if config.enabledClients.isEmpty then
    fail "Create at least one enabled VPN client before creating a SprintBOX"
  else if textOf (bound.get "login") = "" || textOf (bound.get "service") = "" ||
      textOf (bound.get "distributive") = "" || key = "" then
    fail "Configure SprintBOX credentials, service and distributive in Setup"
  else do
    let host ← ask .sshHost
    if textOf (bound.get "box_name") ≠ "" &&
        (config.currentIp = "" || (host ≠ "" && host ≠ config.currentIp)) then
      fail "SprintBOX rotation requires SSH to use the current VPN IP"
    else ask .prepareSsh

def preparePurchase (key : String) (config : CapturedVpnConfig) (bound : Value) :
    BoxRun (Option Purchase) := do
  let ssh ← checkRotation e key config bound
  let firstBox := textOf (bound.get "box_name") = ""
  let retained ← retainedBoxes e config bound firstBox
  let before ← ask .listBoxes
  update { oldIp := some config.currentIp, oldIpId := some (textOf (bound.get "box_name")) }
  let marker ← newBoxLabel e before
  let context := rotationContext e marker firstBox retained ssh.keyPath
  ask (.saveContext context)
  checkBinding e bound
  ensureBoundRevisionCurrent config.revision
  step "create_new_box" {}
  if ← ask .claimPurchase then return some ⟨before, marker, context, ssh⟩ else return none

def createBox (bound : Value) (p : Purchase) :
    Program.Raising (CreationFailure × Known) BoxCall BoxCall.Answer (Option String) :=
  ExceptT.mk ((ask (.createBox (textOf (bound.get "service")) (textOf (bound.get "distributive"))
    p.ssh.publicKey p.marker)).run >>= fun
    | .ok job => .done (.ok (some job))
    | .error (.taskIdMissing _) => .done (.ok none)
    | .error (.api message) =>
      (knowing ⟨false, ""⟩ (do
        update { purchaseState := some .rejected }
        throw (.api message) : BoxRun (Option String))).run
    | .error (.other message) => .done (.error (.other message, ⟨true, ""⟩)))

def jobValue : Option String → Value
  | some job => .string job
  | none => .null

def buy (config : CapturedVpnConfig) (bound : Value) (p : Purchase) :
    Program.Raising (CreationFailure × Known) BoxCall BoxCall.Answer Unit := do
  let job ← createBox bound p
  knowing ⟨true, ""⟩ do
    ask (.saveContext (p.context.put "create_task" (jobValue job)))
    update { purchaseState := some .sent, actionState := some .purchaseSent }
    match job with
    | some job => waitTask job "wait_new_box" (max 1 e.pollAttempts)
    | none => return ()
  let (name, ip) ← identify e p.before p.marker config.currentIp "" (max 1 e.pollAttempts)
  knowing ⟨true, name⟩ do
    update { newIpId := some name, newIp := some ip, purchaseState := some .confirmed }
    provisionBox e config.revision bound p.ssh name ip

def perform (key : String) (config : CapturedVpnConfig) (bound : Value) :
    Program.Raising (CreationFailure × Known) BoxCall BoxCall.Answer Unit := do
  match ← knowing ⟨false, ""⟩ (preparePurchase e key config bound) with
  | none => return ()
  | some p => buy e config bound p

def nameOrUnknown (name : String) : String := if name = "" then "not identified" else name

def settleFailure (f : CreationFailure) (k : Known) : BoxRun Unit :=
  let message := e.sanitize f.message ++ if k.creationStarted then
    "; inspect SprintBOX before retrying (new box: " ++ nameOrUnknown k.newName ++
      "). Old box was not deleted." else ""
  update {
    status := some (if k.creationStarted then .ambiguous else .failed)
    actionState := some (if k.creationStarted then .ambiguous else .failed)
    currentStep := some (if k.creationStarted then "manual_verification_required" else "failed")
    errorMessage := some message }

def rotate (config : CapturedVpnConfig) : BoxRun Unit := do
  let bound ← ask .boundProvider
  let credentials ← ask .configured
  ExceptT.mk ((perform e credentials.key config bound).run >>= fun
    | .ok () => .done (.ok ())
    | .error (f, k) => (settleFailure e f k).run)

/-- The resumed run, for the row and the context that it has claimed. -/
def resumed (config : CapturedVpnConfig) (operation : IpOperation) (context : Value) :
    BoxRun Unit := do
  let bound ← ask .boundProvider
  checkBinding e bound
  ensureBoundRevisionCurrent config.revision
  let name := operation.newIpId.getD ""
  let ip := operation.newIp.getD ""
  let box ← ask (.getBox name)
  if !sameText (box.get "description") (context.get "marker") ||
      boxIpv4 e box ≠ [ip] then
    fail "Created box identity changed; refusing to resume"
  else if !(← ask (.keyFile (textOf (context.get "ssh_key_path")))) then
    fail "Original SprintBOX SSH key is missing"
  else do
    let ssh ← ask .prepareSsh
    if !isText (context.get "ssh_key_path") ssh.keyPath then
      fail "SprintBOX SSH key path changed; refusing to resume"
    else provisionBox e config.revision bound ssh name ip

def ambiguous (message : String) : IpPatch where
  status := some .ambiguous
  actionState := some .ambiguous
  currentStep := some "manual_verification_required"
  errorMessage := some message

def resumeSshWait (config : CapturedVpnConfig) : BoxRun Unit := do
  match ← ask .claimResume with
  | none => return ()
  | some (operation, context) =>
    tryCatch (resumed e config operation context) fun f => update (ambiguous (e.sanitize f.message))

def runSprintboxRotation : BoxRun Unit := do
  let (operation, config) ← ask .loadSnapshot
  if operation.status = .pending ∧ operation.actionState = .sshWaitQueued then
    resumeSshWait e config
  else if operation.status.terminal then return ()
  else if operation.started then
    update (ambiguous "Interrupted SprintBOX operation; external actions were not resent")
  else rotate e config

end

end BoxRotation

/-- A call of a run, with the database as it found it and its answer. -/
structure RunMark where
  run : Nat
  db : Db
  event : Program.Event BoxCall BoxCall.Answer

/-- The database, the calls of all runs so far, and the run that has claimed the purchase. -/
structure BoxWorld where
  db : Db
  past : List RunMark
  buyer : Option Nat

def boxEffect (env : Environment) (operationId : Nat) :
    (c : BoxCall) → Db → c.Answer → Db → Prop
  | .loadSnapshot, db, r, db' =>
    db' = db ∧ ((∃ loaded, db.loadIpChangeSnapshot operationId = .ok loaded ∧ r = .ok loaded) ∨
      ∃ f, r = .error f)
  | .update p, db, r, db' =>
    (r = .ok () ∧ ∃ now, db' = db.updateOperation operationId p now) ∨
      ∃ f, r = .error f ∧ db' = db
  | .saveContext context, db, r, db' =>
    (r = .ok () ∧ ∃ timestamp,
      db' = db.setSetting (operationKey operationId "sprintbox") (env.dumps context) timestamp) ∨
      ∃ f, r = .error f ∧ db' = db
  | .claimPurchase, db, r, db' =>
    (r = .ok (db.claimPurchase operationId).1 ∧ db' = (db.claimPurchase operationId).2) ∨
      ∃ f, r = .error f ∧ db' = db
  | .claimResume, db, r, db' =>
    (db' = db.resumeSshWait env operationId ∧
      ((∃ row, db.validateSshDecision env operationId true = .ok row ∧
        r = .ok (some (row, db.sprintboxContext env operationId))) ∨
      ((∀ row, db.validateSshDecision env operationId true ≠ .ok row) ∧ r = .ok none))) ∨
      ∃ f, r = .error f ∧ db' = db
  | .publish name ip health keyPath, db, r, db' =>
    (∃ timestamp, r = .ok db'.desiredRevision ∧ db.publishIpChange env operationId
      ⟨ip, health, some name, some keyPath, timestamp⟩ = .ok db') ∨ ∃ f, r = .error f ∧ db' = db
  | _, db, _, db' => db' = db

def bought : (c : BoxCall) → c.Answer → Bool
  | .claimPurchase, .ok claimed => claimed
  | _, _ => false

def boxStep (env : Environment) (operationId : Nat) (run : Nat) (c : BoxCall) (s : BoxWorld)
    (r : c.Answer) (s' : BoxWorld) : Prop :=
  boxEffect env operationId c s.db r s'.db ∧ s'.past = s.past ++ [⟨run, s.db, c, r⟩] ∧
    s'.buyer = if bought c r then some run else s.buyer

/-- What the runs have written of the purchase. -/
def purchaseOf (o : IpOperation) : PurchaseState × Option String × Option String :=
  (o.purchaseState, o.newIpId, o.newIp)

/-- What happens beside the runs: restarts, leases that change hands, and whatever leaves the
purchase of the operation alone. -/
inductive BoxMove (operationId : Nat) (s : BoxWorld) : BoxWorld → Prop
  | recover (reason : String) :
    BoxMove operationId s { s with db := s.db.recoverIncompleteVpsOperations reason }
  | acquire {owner : LeaseOwner} {now : Nat} {db' : Db}
    (h : s.db.acquireVpsLease owner now = .ok db') : BoxMove operationId s { s with db := db' }
  | prepareSshWait {env : Environment} {now : Nat} {db' : Db}
    (h : s.db.prepareSshWait env operationId now = .ok db') :
    BoxMove operationId s { s with db := db' }
  | other {db' : Db} (h : (db'.findIp operationId).map purchaseOf =
      (s.db.findIp operationId).map purchaseOf) : BoxMove operationId s { s with db := db' }

abbrev BoxCrew := Crew BoxCall BoxCall.Answer (Except CreationFailure Unit) BoxWorld Nat

def boxStarts (e : BoxEnvironment) (run : Nat) (s : BoxWorld)
    (p : Program BoxCall BoxCall.Answer (Except CreationFailure Unit)) : Prop :=
  p = (BoxRotation.runSprintboxRotation e).run ∧ ∀ m ∈ s.past, m.run ≠ run

abbrev BoxRuns (e : BoxEnvironment) (env : Environment) (operationId : Nat) :
    BoxCrew → BoxCrew → Prop :=
  Crew.Runs (boxStep env operationId) (BoxMove operationId) (boxStarts e) fun _ s s' => s' = s

end Server

end AutoVPN
