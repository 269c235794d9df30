import AutoVPN.Lib.Program
import AutoVPN.Router.Snapshot

/-! Maintenance of the router: a rebind or reset behind a lock with phases, and the programs that
look at the lock. -/

namespace AutoVPN

/-- The identity of the router at the server. -/
structure Binding where
  baseUrl : String
  routerId : String

/-- A file: a text, a lock, or state that a controller with a binding wrote. -/
inductive FileContent
  | text (s : String)
  | gate (action phase : String)
  | state (owner : Binding) (data : String)

structure Device where
  file : String → Option FileContent
  binding : Binding
  enabled : Bool
  prepared : Bool

inductive Presence
  | absent
  | present
  | error
  deriving DecidableEq

/-- Options of the configuration that are set together. -/
structure ConfigChange where
  binding : Option Binding
  enabled : Bool
  prepared : Option Bool

structure DeviceConfig where
  binding : Binding
  enabled : Bool
  prepared : Bool

/-- What a first run is judged by besides the files and the configuration. -/
structure FirstRunFacts where
  networkPhase : Option String
  networkInvalid : Bool
  bootstrapConfirmed : Bool

namespace Device

def set (d : Device) (path : String) (c : Option FileContent) : Device :=
  { d with file := Function.update d.file path c }

def change (d : Device) (c : ConfigChange) : Device :=
  { d with binding := c.binding.getD d.binding
           enabled := c.enabled
           prepared := c.prepared.getD d.prepared }

end Device

namespace Maintenance

def lockPath : String := "/etc/autovpn/state/maintenance.lock"

def updatePath : String := "/etc/autovpn/state/update.lock"

def credentialPath : String := "/etc/autovpn/credentials"

def journalPath : String := "/etc/autovpn/state/journal.json"

def laneFiles (root : String) : List String :=
  ["prepared.json", "current.json", "previous.json", "failover.json", "candidate.json", "run.json",
    "awg.json", "zapret.json", "awg-run.json", "awg-owned", "awg.conf"].map fun name =>
      root ++ "/" ++ name

/-- The journal and the runtime files of both lanes. -/
def stateFiles : List String :=
  journalPath :: (laneFiles "/etc/autovpn/runtime" ++ laneFiles "/etc/autovpn/runtime-zapret")

/-- By these files a lane knows that its tunnel is up. -/
def ownedFiles : List String :=
  ["/etc/autovpn/runtime/awg-owned", "/etc/autovpn/runtime-zapret/awg-owned"]

def temporary (path : String) : String := path ++ ".new"

end Maintenance

open Maintenance

/-- `failClosed` is the runtime adapter's answer, `networks` that of the network gate, and `work`
what a controller does that no lock stops. -/
inductive MaintCall
  | stat (path : String)
  | read (path : String)
  | unlink (path : String)
  | create (path : String) (c : FileContent)
  | chmod (path : String)
  | rename (source target : String)
  | sync
  | failClosed
  | networks
  | directories
  | config
  | changesClean
  | defaultPaths
  | commit (c : ConfigChange)
  | facts
  | wifi
  | work

abbrev MaintCall.Answer : MaintCall → Type
  | stat _ => Presence
  | read _ => Option FileContent
  | config => Option DeviceConfig
  | facts => FirstRunFacts
  | wifi => Option String
  | work => Unit
  | _ => Bool

abbrev Maint (α : Type) := Program MaintCall MaintCall.Answer α

/-- One write of a controller: the journal comes before the other files, and a temporary file
before each. -/
inductive ControllerWrite (d : Device) : Device → Prop
  | write {path : String} (data : String) (h : path ∈ stateFiles)
    (hj : path = journalPath ∨ (d.file journalPath).isSome) :
    ControllerWrite d (d.set path (some (.state d.binding data)))
  | scratch {path : String} (c : Option FileContent) (h : path ∈ stateFiles) :
    ControllerWrite d (d.set (temporary path) c)
  | remove {path : String} (h : path ∈ stateFiles) (hj : path ≠ journalPath) :
    ControllerWrite d (d.set path none)

/-- Lanes that are closed take their tunnels down. -/
abbrev TunnelsDown : Device → Device → Prop :=
  Relation.ReflTransGen fun d d' => ∃ path ∈ ownedFiles, d' = d.set path none

/-- A call may fail whatever the state; one that fails changes nothing but a file that it was to
create, a configuration that it was to commit, or the tunnels that it was to take down. -/
def MaintStep : (i : MaintCall) → Device → i.Answer → Device → Prop
  | .stat path, d, r, d' =>
    d' = d ∧ (r = .absent → d.file path = none) ∧ (r = .present → (d.file path).isSome)
  | .read path, d, r, d' => d' = d ∧ (r = d.file path ∨ r = none)
  | .unlink path, d, r, d' => (r = true ∧ d' = d.set path none) ∨ (r = false ∧ d' = d)
  | .create path c, d, r, d' =>
    (r = true ∧ d' = d.set path (some c)) ∨ (r = false ∧ (d' = d ∨ ∃ c', d' = d.set path c'))
  | .rename source target, d, r, d' =>
    (r = true ∧ ∃ c, d.file source = some c ∧ d' = (d.set source none).set target (some c)) ∨
      (r = false ∧ d' = d)
  | .commit c, d, r, d' => d' = d.change c ∨ (r = false ∧ d' = d)
  | .config, d, r, d' => d' = d ∧ ∀ c, r = some c → c = ⟨d.binding, d.enabled, d.prepared⟩
  | .work, d, _, d' => Relation.ReflTransGen ControllerWrite d d'
  | .failClosed, d, _, d' => TunnelsDown d d'
  | .chmod _, d, _, d' | .sync, d, _, d' | .networks, d, _, d'
  | .directories, d, _, d' | .changesClean, d, _, d' | .defaultPaths, d, _, d'
  | .facts, d, _, d' | .wifi, d, _, d' => d' = d

inductive MaintResult
  | fail (code : String)
  | ok (requiresActivation : Bool)
  | resumed (setupRequired : Bool)
  | locked (statusOnly : Bool)
  | worked

structure MaintenanceRequest where
  action : String
  confirmation : Option String
  baseUrl : Option String
  routerId : Option String
  credential : Option String

namespace Maintenance

def ask (c : MaintCall) : Maint c.Answer := .call c .done

/-! What is checked of the values of a request. -/

def tokenCharacter : Char → Bool := alphanumericOr ['_', '-']

def credentialPattern : Pattern :=
  [.char 'a', .char 'v', .char 'r', .char 't', .char '_', .between tokenCharacter 8 64, .char '.',
    .between tokenCharacter 43 128]

def validCredential (value : String) : Bool :=
  decide (value.utf8ByteSize ≤ 256) && credentialPattern.matches value

def validRouterId (value : String) : Bool := routerIdPattern.matches value

def hostCharacter : Char → Bool := alphanumericOr ['.', '-']

def pathCharacter : Char → Bool :=
  alphanumericOr ['.', '_', '~', '!', '$', '&', '\'', '(', ')', '*', '+', ',', ';', '=', ':', '@', '%',
    '/', '-']

/-- `[A-Za-z0-9]([A-Za-z0-9.-]{0,251}[A-Za-z0-9])?`. -/
def validHost (cs : List Char) : Bool :=
  decide (1 ≤ cs.length ∧ cs.length ≤ 253) && cs.all hostCharacter &&
    cs.head?.all Char.isAlphanum && cs.getLast?.all Char.isAlphanum

/-- `(:[0-9]{1,5})?(\/[...]*)?`. -/
def validRest (cs : List Char) : Bool :=
  let path := match cs with
    | ':' :: rest =>
      let digits := rest.takeWhile Char.isDigit
      if decide (1 ≤ digits.length ∧ digits.length ≤ 5) then some (rest.dropWhile Char.isDigit)
      else none
    | _ => some cs
  path.any fun path =>
    match path with
    | [] => true
    | c :: rest => c == '/' && rest.all pathCharacter

def validBaseUrl (value : String) : Bool :=
  let rest := value.toList.drop 8
  decide (value.utf8ByteSize ≤ 255) && (value.toList.take 8 == "https://".toList) &&
    validHost (rest.takeWhile hostCharacter) && validRest (rest.dropWhile hostCharacter)

/-! Files. -/

def discard (path : String) : Maint Bool := do
  let _ ← ask (.unlink (temporary path))
  return false

def atomic (path : String) (c : FileContent) : Maint Bool := do
  let _ ← ask (.unlink (temporary path))
  if !(← ask (.create (temporary path) c)) then discard path
  else if !(← ask (.chmod (temporary path))) then discard path
  else if !(← ask (.rename (temporary path) path)) then discard path
  else ask (.chmod path)

def removeOwned (path : String) : Maint Bool := do
  match ← ask (.stat path) with
  | .error => return false
  | .absent => return true
  | .present => ask (.unlink path)

def removeAll : List String → Maint Bool
  | [] => return true
  | path :: rest => do
    if !(← removeOwned path) then return false
    else removeAll rest

/-- The files that `clear_runtime_state` removes, in its order. -/
def clearedFiles : List String :=
  (stateFiles.flatMap fun path => [path, temporary path]) ++ [temporary credentialPath]

def clearRuntimeState : Maint Bool := removeAll clearedFiles

def writeLock (action phase : String) : Maint Bool := do
  if !(← atomic lockPath (.gate action phase)) then return false
  else ask .sync

def persistDisabled : Maint Bool := do
  if !(← ask (.commit ⟨none, false, none⟩)) then return false
  else ask .sync

/-! Rotation, rebind and reset. -/

/-- The configuration, when nothing in it leads elsewhere. -/
def safeConfig : Maint (Option DeviceConfig) := do
  match ← ask .config with
  | none => return none
  | some config =>
    if !(← ask .defaultPaths) then return none
    else if !(← ask .changesClean) then return none
    else return some config

def rotate (request : MaintenanceRequest) (config : DeviceConfig) : Maint MaintResult := do
  match request.credential.filter validCredential with
  | none => return .fail "rotation_invalid"
  | some credential =>
    if !validBaseUrl config.binding.baseUrl || !validRouterId config.binding.routerId then
      return .fail "rotation_invalid"
    else if !(← atomic credentialPath (.text (credential ++ "\n"))) then
      return .fail "credential_write_failed"
    else if !(← ask .sync) then return .fail "credential_write_failed"
    else return .ok false

/-- The binding and the credential of a rebind. -/
def rebindValues (request : MaintenanceRequest) : Option (Binding × String) := do
  let baseUrl ← request.baseUrl.filter validBaseUrl
  let routerId ← request.routerId.filter validRouterId
  let credential ← request.credential.filter validCredential
  if request.confirmation = some "REBIND" then some (⟨baseUrl, routerId⟩, credential) else none

/-- The lock, and with it a router that is switched off. -/
def seize (action : String) : Maint Bool := do
  if !(← writeLock action "running") then return false
  else if !(← persistDisabled) then return false
  else ask .failClosed

def updateBinding (binding : Binding) (credential : String) : Maint Bool := do
  if !(← ask (.commit ⟨some binding, false, some true⟩)) then return false
  else atomic credentialPath (.text (credential ++ "\n"))

def abandon (action code : String) : Maint MaintResult := do
  let _ ← writeLock action "failed"
  return .fail code

def conclude (action : String) (requiresActivation : Bool) : Maint MaintResult := do
  if !(← writeLock action "ready") then return .fail "maintenance_lock_failed"
  else return .ok requiresActivation

def rebind (request : MaintenanceRequest) : Maint MaintResult := do
  match rebindValues request with
  | none => return .fail "rebind_invalid"
  | some (binding, credential) =>
    if !(← seize "rebind") then return .fail "fail_closed_unconfirmed"
    else if !(← clearRuntimeState) then abandon "rebind" "state_clear_failed"
    else if !(← updateBinding binding credential) then abandon "rebind" "binding_write_failed"
    else conclude "rebind" true

/-- The options that nothing here reads are left out. -/
def resetConfig : Maint Bool := ask (.commit ⟨some ⟨"", ""⟩, false, some false⟩)

def reset (request : MaintenanceRequest) : Maint MaintResult := do
  if request.confirmation ≠ some "RESET" then return .fail "reset_confirmation_required"
  else if !(← seize "reset") then return .fail "fail_closed_unconfirmed"
  else if !(← clearRuntimeState) then abandon "reset" "state_clear_failed"
  else if !(← removeOwned credentialPath) then abandon "reset" "state_clear_failed"
  else if !(← resetConfig) then abandon "reset" "config_write_failed"
  else conclude "reset" false

def performLocked (request : MaintenanceRequest) (config : DeviceConfig) (lock : Presence) :
    Maint MaintResult := do
  if lock = .error then return .fail "maintenance_lock_invalid"
  else if request.action = "rotate" then
    if lock = .present then return .fail "maintenance_pending"
    else rotate request config
  else if !(← ask .networks) then return .fail "networks_not_confirmed"
  else if request.action = "rebind" then rebind request
  else reset request

def perform (request : MaintenanceRequest) : Maint MaintResult := do
  if !(["rotate", "rebind", "reset"].contains request.action) then
    return .fail "maintenance_request_invalid"
  else
    match ← safeConfig with
    | none => return .fail "maintenance_path_invalid"
    | some config =>
      if !(← ask .directories) then return .fail "maintenance_storage_failed"
      else
        match ← ask (.stat updatePath) with
        | .error => return .fail "update_gate_invalid"
        | .present => return .fail "update_in_progress"
        | .absent => performLocked request config (← ask (.stat lockPath))

/-! Setup. -/

inductive Gate
  | absent
  | ready
  | invalid
  deriving DecidableEq

/-- A lock whose content says that the procedure is through. -/
def gateOf (maintenance : Bool) : Option FileContent → Gate
  | some (.gate action phase) =>
    if phase ≠ "ready" then .invalid
    else if maintenance && action ≠ "rebind" && action ≠ "reset" then .invalid
    else .ready
  | _ => .invalid

def readyGate (path : String) (maintenance : Bool) : Maint Gate := do
  match ← ask (.stat path) with
  | .absent => return .absent
  | .error => return .invalid
  | .present => return gateOf maintenance (← ask (.read path))

/-- `firstRunAllowed`: whether a setup may go on, and whether as a retry. -/
def firstRunAllowed (clean enabled journal : Bool) (facts : FirstRunFacts)
    (prepared identityMatches credentialPresent : Bool) : Except String Bool :=
  if !clean || enabled || journal then .error "existing_installation"
  else if facts.networkPhase = some "pending" || facts.networkInvalid then
    .error "existing_installation"
  else if prepared then
    if identityMatches then .ok true else .error "setup_identity_locked"
  else if (facts.networkPhase.isNone ||
      (facts.bootstrapConfirmed && facts.networkPhase == some "confirmed")) &&
      !credentialPresent then .ok false
  else .error "existing_installation"

def firstRun (config : DeviceConfig) (identityMatches : Bool) : Maint (Except String Bool) := do
  let clean ← ask .changesClean
  let journal ← ask (.stat journalPath)
  let secret ← ask (.stat credentialPath)
  let facts ← ask .facts
  let invalid := facts.networkInvalid || journal == .error || secret == .error
  return firstRunAllowed clean config.enabled (journal == .present)
    { facts with networkInvalid := invalid } config.prepared identityMatches (secret == .present)

/-- Both locks, when neither is of an unfinished procedure. -/
def gates : Maint (Option (Gate × Gate)) := do
  let maintenance ← readyGate lockPath true
  let update ← readyGate updatePath false
  if maintenance = .invalid || update = .invalid then return none
  else return some (maintenance, update)

def configureBinding (binding : Binding) (credential : String) : Maint MaintResult := do
  match ← ask .config with
  | none => return .fail "config_load_failed"
  | some config =>
    match ← ask .wifi with
    | some code => return .fail code
    | none =>
      if !(← ask .defaultPaths) then return .fail "credential_path_invalid"
      else
        match ← firstRun config (config.binding.baseUrl == binding.baseUrl &&
            config.binding.routerId == binding.routerId) with
        | .error code => return .fail code
        | .ok _ =>
          if !(← ask .directories) then return .fail "credential_directory_failed"
          else if !(← ask (.commit ⟨some binding, false, some true⟩)) then
            return .fail "config_write_failed"
          else if !(← atomic credentialPath (.text (credential ++ "\n"))) then
            return .fail "credential_write_failed"
          else return .ok false

/-- `configure`, on a request whose values are checked. -/
def configure (binding : Binding) (credential : String) : Maint MaintResult := do
  match ← gates with
  | none => return .fail "maintenance_gate_invalid"
  | some (maintenance, update) =>
    if maintenance ≠ .absent || update ≠ .absent then return .fail "maintenance_pending"
    else configureBinding binding credential

/-- Whether the binding and the credential are of the right form. -/
def bindingValid (config : DeviceConfig) (credential : Option FileContent) : Bool :=
  validBaseUrl config.binding.baseUrl && validRouterId config.binding.routerId &&
    match credential with
    | some (.text s) => validCredential s.trimAscii.toString
    | _ => false

def activateBinding : Maint MaintResult := do
  match ← ask .config with
  | none => return .fail "config_load_failed"
  | some config =>
    if !(← ask .defaultPaths) then return .fail "setup_incomplete"
    else
      match ← firstRun config true with
      | .error code => return .fail code
      | .ok retry =>
        if !retry then return .fail "setup_incomplete"
        else if !bindingValid config (← ask (.read credentialPath)) then
          return .fail "setup_incomplete"
        else if !(← ask (.commit ⟨none, true, some false⟩)) then return .fail "config_write_failed"
        else return .ok false

def activate : Maint MaintResult := do
  match ← gates with
  | none => return .fail "maintenance_gate_invalid"
  | some (maintenance, update) =>
    if maintenance ≠ .absent || update ≠ .absent then return .fail "maintenance_pending"
    else if !(← ask .networks) then return .fail "networks_not_confirmed"
    else activateBinding

/-- The removal of a lock that is present. -/
def clearGate (path : String) (gate : Gate) : Maint Bool := do
  if gate = .absent then return true
  else ask (.unlink path)

def clearGates (maintenance update : Gate) : Maint Bool := do
  if !(← clearGate lockPath maintenance) then return false
  else clearGate updatePath update

def resumeBound (maintenance update : Gate) : Maint MaintResult := do
  if !(← ask (.commit ⟨none, true, some false⟩)) then return .fail "config_write_failed"
  else if !(← clearGates maintenance update) then
    let _ ← ask (.commit ⟨none, false, some true⟩)
    return .fail "maintenance_gate_clear_failed"
  else return .resumed false

def resumeUnbound : Maint MaintResult := do
  if !(← ask (.commit ⟨none, false, none⟩)) then return .fail "config_write_failed"
  else if !(← ask (.unlink updatePath)) then return .fail "maintenance_gate_clear_failed"
  else return .resumed true

def resumeGated (maintenance update : Gate) : Maint MaintResult := do
  match ← ask .config with
  | none => return .fail "config_not_clean"
  | some config =>
    if !(← ask .changesClean) then return .fail "config_not_clean"
    else if !(← ask .defaultPaths) then return .fail "setup_incomplete"
    else
      let valid := bindingValid config (← ask (.read credentialPath))
      if !valid && update ≠ .absent && maintenance = .absent then resumeUnbound
      else if !valid then return .fail "setup_incomplete"
      else resumeBound maintenance update

def resume : Maint MaintResult := do
  match ← gates with
  | none => return .fail "maintenance_gate_invalid"
  | some (maintenance, update) =>
    if maintenance = .absent && update = .absent then return .fail "maintenance_not_ready"
    else if !(← ask .networks) then return .fail "networks_not_confirmed"
    else resumeGated maintenance update

/-! The controller. -/

/-- `maintenanceBlocked`. -/
def blocked : List String → Maint Bool
  | [] => return false
  | path :: rest => do
    if (← ask (.stat path)) ≠ .absent then return true
    else blocked rest

/-- The controller with a command, up to what it does when no lock stops it. -/
def controller (command : String) : Maint MaintResult := do
  if ← blocked [lockPath, updatePath] then
    if command = "stop" then
      let _ ← ask .failClosed
      return .locked false
    else return .locked (command == "status")
  else
    ask .work
    return .worked

end Maintenance

end AutoVPN
