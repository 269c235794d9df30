import AutoVPN.Lib.Mapping
import AutoVPN.Lib.Sequence
import AutoVPN.Server.Transactions

/-! `run_sprintbox_cleanup`, which deletes the boxes that a SprintBOX rotation has retained, as a
program over the database and the provider. -/

namespace AutoVPN

namespace Server

/-- What a call to the provider or the database raises: `SprintboxApiError` or another exception. -/
inductive BoxFailure
  | api (message : String)
  | other (message : String)

def BoxFailure.isApi : BoxFailure → Bool
  | api _ => true
  | other _ => false

/-- What a run takes from its process; `pollAttempts` is the number of polls of a task. -/
structure CleanupEnvironment where
  sanitize : BoxFailure → String
  pollAttempts : Nat

/-- `getBox` is answered by the IPv4 addresses of the box that `box_ipv4` reads. -/
inductive CleanupCall
  | claim
  | validateTarget
  | update (p : IpPatch)
  | save (context : Value)
  | listBoxes
  | getBox (name : String)
  | deleteBox (name : String)
  | taskStatus (task : String)
  | sleep

abbrev CleanupCall.Value : CleanupCall → Type
  | claim => Option AutoVPN.Value
  | validateTarget => IpOperation
  | update _ => Unit
  | save _ => Unit
  | listBoxes => List String
  | getBox _ => List String
  | deleteBox _ => String
  | taskStatus _ => String
  | sleep => Unit

abbrev CleanupCall.Answer (c : CleanupCall) : Type := Except BoxFailure c.Value

abbrev Cleanup (α : Type) := Program.Raising BoxFailure CleanupCall CleanupCall.Answer α

namespace Cleanup

def ask (c : CleanupCall) : Cleanup c.Value := ExceptT.mk (.call c .done)

def fail {α : Type} (message : String) : Cleanup α := throw (.other message)

def step (name : String) : Cleanup Unit :=
  ask (.update { status := some .running, currentStep := some name })

def pause (remaining : Nat) : Cleanup Unit := if remaining = 0 then return () else ask .sleep

def waitTask (task name : String) : Nat → Cleanup Unit
  | 0 => fail "SprintBOX task did not finish before timeout; inspect the panel before retrying"
  | remaining + 1 => do
    step name
    let status ← ask (.taskStatus task)
    if status = "finished" then return ()
    else if status = "error" then
      throw (.api ("SprintBOX API TASK_FAILED: " ++
        "Asynchronous task failed; inspect the SprintBOX panel"))
    else do
      pause remaining
      waitTask task name remaining

def results (context : Value) : Value := context.get "cleanup_results"

/-- `results[name] = ...`. -/
def setResult (context : Value) (name : String) (result : Value) : Value :=
  context.put "cleanup_results" ((results context).put name result)

def state (text : String) : String × Value := ("state", .string text)

def hasIp (ips : List String) : Value → Bool
  | .string ip => ips.contains ip
  | _ => false

/-- Where an attempt to delete a box stands when something is raised. -/
structure Attempt where
  context : Value
  sending : Bool

def during {α : Type} (a : Attempt) (p : Cleanup α) :
    Program.Raising (BoxFailure × Attempt) CleanupCall CleanupCall.Answer α :=
  ExceptT.mk (p.run >>= fun
    | .ok x => .done (.ok x)
    | .error f => .done (.error (f, a)))

section

variable (e : CleanupEnvironment)

/-- The checks before a deletion; the answer is whether the box is still listed. -/
def checkBox (active : IpOperation) (context : Value) (name : String) (expected : Value) :
    Cleanup Bool := do
  let _ ← ask .validateTarget
  if active.newIpId = some name then fail "Refusing to delete the active VPN box"
  else do
    step "delete_old_box"
    if !(← ask .listBoxes).contains name then return false
    else if !hasIp (← ask (.getBox name)) expected then
      fail "Box IP changed; inspect it manually"
    else if (results context).has name then
      fail "Deletion was already attempted; inspect it manually"
    else return true

def sendingContext (context : Value) (name : String) : Value :=
  setResult context name (.object [state "SENDING"])

def sentContext (context : Value) (name job : String) : Value :=
  setResult (sendingContext context name) name (.object [state "SENT", ("task", .string job)])

def deletedContext (context : Value) (name job : String) : Value :=
  setResult (sentContext context name job) name
    (.object [state "DELETED", ("task", .string job)])

/-- The deletion, from its record to the box that is no longer listed. -/
def removeBox (context : Value) (name : String) :
    Program.Raising (BoxFailure × Attempt) CleanupCall CleanupCall.Answer Value := do
  during ⟨sendingContext context name, false⟩ (ask (.save (sendingContext context name)))
  let job ← during ⟨sendingContext context name, true⟩ (ask (.deleteBox name))
  during ⟨sentContext context name job, true⟩ do
    ask (.save (sentContext context name job))
    waitTask job "wait_old_box_deletion" (max 1 e.pollAttempts)
    if (← ask .listBoxes).contains name then fail "Delete task finished but box still exists"
    else return deletedContext context name job

def tryBox (active : IpOperation) (context : Value) (name : String) (expected : Value) :
    Program.Raising (BoxFailure × Attempt) CleanupCall CleanupCall.Answer Value := do
  if ← during ⟨context, false⟩ (checkBox active context name expected) then removeBox e context name
  else return setResult context name (.object [state "ABSENT"])

/-- What the loop carries from box to box. -/
structure Progress where
  context : Value
  ambiguous : Bool
  warnings : List String

/-- The exception handler of the loop. -/
def Progress.failed (p : Progress) (name : String) (f : BoxFailure) (a : Attempt) : Progress :=
  let uncertain := a.sending && !f.isApi
  let previous := (results a.context).get name
  let result := (Value.object previous.fields |>.put "state"
    (.string (if uncertain then "AMBIGUOUS" else "MANUAL"))).put "error" (.string (e.sanitize f))
  ⟨setResult a.context name result, p.ambiguous || uncertain,
    p.warnings ++ [name ++ ": " ++ e.sanitize f]⟩

/-- A box that is gone is retained no longer. -/
def settle (context : Value) (name : String) : Value :=
  match ((results context).get name).get "state" with
  | .string "DELETED" | .string "ABSENT" =>
    context.put "retained_boxes" ((context.get "retained_boxes").erase name)
  | _ => context

def Progress.after (p : Progress) (name : String) :
    Except (BoxFailure × Attempt) Value → Progress
  | .ok context => { p with context := settle context name }
  | .error (f, a) =>
    let failed := p.failed e name f a
    { failed with context := settle failed.context name }

/-- One round of the loop. -/
def visit (active : IpOperation) (p : Progress) (name : String) (expected : Value) :
    Cleanup Progress :=
  ExceptT.mk ((tryBox e active p.context name expected).run >>= fun outcome =>
    (do
      ask (.save (p.after e name outcome).context)
      return p.after e name outcome : Cleanup Progress).run)

def visitAll (active : IpOperation) (p : Progress) : List (String × Value) → Cleanup Progress
  | [] => return p
  | (name, expected) :: boxes => do
    let p ← visit e active p name expected
    visitAll active p boxes

def cleanupWarning (warnings : List String) : String :=
  if warnings.isEmpty then ""
  else "Удалите или проверьте старые боксы вручную в кабинете SprintBOX: " ++
    "; ".intercalate warnings

def finished (p : Progress) : IpPatch where
  status := some .done
  currentStep := some "done"
  errorMessage := some ""
  actionState := some (if p.ambiguous then .cleanupAmbiguous
    else if p.warnings.isEmpty then .done else .cleanupRejected)
  cleanupWarning := some (cleanupWarning p.warnings)

def abandoned (f : BoxFailure) : IpPatch where
  status := some .done
  currentStep := some "manual_verification_required"
  actionState := some .cleanupAmbiguous
  cleanupWarning := some
    ("Проверьте старые боксы вручную в кабинете SprintBOX: " ++ e.sanitize f)

/-- `operation_context.setdefault("cleanup_results", {})`; `cleanup_results` is written by this
function only, and as a mapping. -/
def withResults (context : Value) : Cleanup Value :=
  if !context.isObject then fail "the context is not a mapping"
  else if !context.has "cleanup_results" then return context.put "cleanup_results" (.object [])
  else if !(results context).isObject then fail "cleanup_results is not a mapping"
  else return context

def perform (context : Value) : Cleanup Unit := do
  let active ← ask .validateTarget
  let initial ← withResults context
  let p ← visitAll e active ⟨initial, false, []⟩ (context.get "retained_boxes").fields
  ask (.update (finished p))

def runSprintboxCleanup : Cleanup Unit := do
  match ← ask .claim with
  | none => return ()
  | some context => tryCatch (perform e context) fun f => ask (.update (abandoned e f))

end

end Cleanup

/-- A call, with the database as it found it and its answer. -/
structure CleanupMark where
  db : Db
  event : Program.Event CleanupCall CleanupCall.Answer

/-- The database, the calls so far, and whether a run was cut off in a deletion. -/
structure CleanupWorld where
  db : Db
  past : List CleanupMark
  cut : Bool

def contextKey (operationId : Nat) : String := operationKey operationId "sprintbox"

/-- Others may interrupt the operation, and leave its row and its context as they are otherwise. -/
def Beside (operationId : Nat) (db db' : Db) : Prop :=
  (db'.findIp operationId = db.findIp operationId ∨
    ∃ reason, db'.findIp operationId = (db.findIp operationId).map (IpOperation.interrupt reason)) ∧
  db'.lookup (contextKey operationId) = db.lookup (contextKey operationId)

/-- What a call does to the database, where it does anything. -/
def cleanupEffect (env : Environment) (operationId : Nat) :
    (c : CleanupCall) → Db → c.Answer → Db → Prop
  | .claim, db, r, db' =>
    (db' = (db.claimCleanup operationId).2 ∧
      r = .ok (if (db.claimCleanup operationId).1 then some (db.sprintboxContext env operationId)
        else none)) ∨ ∃ f, r = .error f ∧ db' = db
  | .validateTarget, db, r, db' =>
    db' = db ∧ ((∃ row, db.validateTarget env operationId = .ok row ∧ r = .ok row) ∨
      ∃ f, r = .error f)
  | .update p, db, r, db' =>
    (r = .ok () ∧ ∃ now, db' = db.updateOperation operationId p now) ∨
      ∃ f, r = .error f ∧ db' = db
  | .save context, db, r, db' =>
    (r = .ok () ∧ ∃ timestamp,
      db' = db.setSetting (contextKey operationId) (env.dumps context) timestamp) ∨
      ∃ f, r = .error f ∧ db' = db
  | _, db, _, db' => db' = db

def cleanupStep (env : Environment) (operationId : Nat) (c : CleanupCall) (s : CleanupWorld)
    (r : c.Answer) (s' : CleanupWorld) : Prop :=
  s'.cut = s.cut ∧ ∃ db, Beside operationId s.db db ∧ cleanupEffect env operationId c db r s'.db ∧
    s'.past = s.past ++ [⟨db, c, r⟩]

/-- What happens between the runs. -/
inductive CleanupMove (env : Environment) (operationId : Nat) (db : Db) : Db → Prop
  | prepare {now : Nat} {db' : Db} (h : db.prepareCleanup env operationId now = .ok db') :
    CleanupMove env operationId db db'
  | recover (reason : String) :
    CleanupMove env operationId db (db.recoverIncompleteVpsOperations reason)
  | reconcile {note : String} {db' : Db} (h : db.reconcileIpOperation operationId note = .ok db') :
    CleanupMove env operationId db db'
  | other {db' : Db} (h : Beside operationId db db') : CleanupMove env operationId db db'

def isDelete : Program.Event CleanupCall CleanupCall.Answer → Bool
  | ⟨.deleteBox _, _⟩ => true
  | _ => false

/-- A run that stops right after a deletion has not seen its answer. -/
def cutOff {α : Type} (tr : List (Program.Event CleanupCall CleanupCall.Answer)) (o : Option α) :
    Bool :=
  o.isNone && (tr.getLast?).any isDelete

/-- A run from its start to its end, or to the call that it does not survive. -/
inductive CleanupLife (e : CleanupEnvironment) (env : Environment) (operationId : Nat)
    (s : CleanupWorld) : CleanupWorld → Prop
  | move {db' : Db} (h : CleanupMove env operationId s.db db') :
    CleanupLife e env operationId s { s with db := db' }
  | run {s' : CleanupWorld} {tr : List (Program.Event CleanupCall CleanupCall.Answer)}
    {o : Option (Except BoxFailure Unit)}
    (h : Program.Exec (cleanupStep env operationId) (Cleanup.runSprintboxCleanup e).run s tr s' o) :
    CleanupLife e env operationId s { s' with cut := s'.cut || cutOff tr o }

abbrev CleanupLives (e : CleanupEnvironment) (env : Environment) (operationId : Nat) :
    CleanupWorld → CleanupWorld → Prop :=
  Relation.ReflTransGen (CleanupLife e env operationId)

end Server

end AutoVPN
