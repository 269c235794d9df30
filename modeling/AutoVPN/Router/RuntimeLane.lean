import AutoVPN.Lib.Program

/-! The runtime of a lane: the actions that start, probe and stop its tunnel behind a firewall
guard, with every command that they run answered by the router. -/

namespace AutoVPN

inductive LaneAction
  | status
  | capabilities
  | failClosed
  | prepare
  | activate
  | verify
  | rollback
  | restore
  | healthTick
  | pingAll
  | unknown
  deriving DecidableEq

/-- What a list of the guard's table shows. -/
inductive TableState
  | absent
  | owned
  | foreign

/-- Which lane's transport the helper's answer speaks of. -/
inductive ZapretOwner
  | unknown
  | empty
  | other
  | ours

structure ProbeAnswer where
  healthy : Bool
  failed : Option Bool
  nextProfile : Option String

/-- The commands. `hang` is a recursion that does not end. -/
inductive LaneCall
  | lock (name : String)
  | listTable
  | loadGuard (isOpen : Bool)
  | serviceStart
  | serviceStop
  | serviceRunning
  | zapretOwner
  | zapret (action : String)
  | helper (action : String) (profile : Option String)
  | helperCode
  | empty
  | activeProfile
  | selectedAwg
  | awgActive
  | awgOwned
  | awgUp
  | awgDown
  | awgSame
  | awgCheck
  | singBoxCheck
  | copyAwg
  | moveAwg
  | removeAwgRun
  | copyRun
  | moveRun
  | sameRun
  | listening
  | transparentDown
  | transparentActive
  | guardTransparent
  | routes
  | curl
  | probeHelper (action : String) (profile : Option String)
  | preflight
  | directories
  | hang

abbrev LaneCall.Answer : LaneCall → Type
  | listTable => TableState
  | zapretOwner => ZapretOwner
  | helperCode => String
  | activeProfile => Option String
  | removeAwgRun => Unit
  | routes => Option String
  | probeHelper _ _ => Option ProbeAnswer
  | hang => Empty
  | _ => Bool

abbrev Lane (α : Type) := Program LaneCall LaneCall.Answer α

inductive LaneExit
  | ok
  | error (code : String)
  deriving DecidableEq

namespace RuntimeLane

def ask (c : LaneCall) : Lane c.Answer := .call c .done

def profiles : List String := ["vless-reality", "hysteria2", "amneziawg"]

def zapret (action : String) : Lane Bool := do
  match ← ask .zapretOwner with
  | .ours => ask (.zapret action)
  | _ => return true

def loadGuard (isOpen : Bool) : Lane Bool := do
  match ← ask .listTable with
  | .foreign => return false
  | _ => ask (.loadGuard isOpen)

def guard (isOpen : Bool) : Lane Bool := do
  if isOpen then
    if !(← zapret "check") then return false
    else loadGuard true
  else loadGuard false

def awgDown : Lane Bool := do
  if !(← ask .awgOwned) then return true
  else ask .awgDown

/-- The tunnel is stopped even when the guard cannot be closed. -/
def closed : Lane Bool := do
  let guardOk ← guard false
  if !(← ask .serviceStop) then return false
  else if !(← ask .transparentDown) then return false
  else if !(← awgDown) then return false
  else if !(← zapret "down") then return false
  else return guardOk

def check : Lane Bool := do
  if !(← ask .singBoxCheck) then return false
  else zapret "validate"

def awgHealthy : Lane Bool := do
  if !(← ask .awgActive) then return false
  else if !(← ask .awgSame) then return false
  else ask .awgCheck

/-- `{ ! selected_awg || awg_healthy; }`. -/
def awgFine : Lane Bool := do
  if !(← ask .selectedAwg) then return true
  else awgHealthy

def awaitListener : Nat → Lane Bool
  | 0 => return false
  | n + 1 => do
    if ← ask .listening then return true
    else awaitListener n

/-! The steps of a start, each of which may end it with an error. -/

def step (c : Lane Bool) (code : String) : Lane (Except String Unit) := do
  if ← c then return .ok ()
  else return .error code

def next {α β : Type} (p : Lane (Except String α)) (f : α → Lane (Except String β)) : Lane (Except String β) := do
  match ← p with
  | .error code => return .error code
  | .ok a => f a

def helperStep (action : String) (failure : String) : Lane (Except String Unit) := do
  if ← ask (.helper action none) then return .ok ()
  else return .error (failure ++ (← ask .helperCode))

/-- An interface that does not come up: whether the start has to find another profile. -/
def awgFailed : Lane (Except String Bool) :=
  next (step awgDown "amneziawg_cleanup_failed") fun _ => do
    let selected ← ask .selectedAwg
    next (if selected then helperStep "fallback-awg" "amneziawg_fallback_"
      else helperStep "disable-awg" "amneziawg_disable_") fun _ =>
      next (step check "fallback_config_check_failed") fun _ =>
        next (step (zapret "up") "transport_zapret_restart_failed") fun _ => return .ok selected

def awgStart : Lane (Except String Bool) := do
  if !(← ask .awgActive) then return .ok false
  else if ← ask .awgUp then return .ok false
  else awgFailed

def awgState : Lane (Except String Unit) := do
  if ← ask .awgActive then
    next (step (ask .copyAwg) "amneziawg_state_copy_failed") fun _ =>
      step (ask .moveAwg) "amneziawg_state_commit_failed"
  else
    ask .removeAwgRun
    return .ok ()

def routesStep : Lane (Except String Unit) := do
  match ← ask .routes with
  | some code => return .error code
  | none => return .ok ()

def serviceUp : Lane (Except String Unit) :=
  next (step (ask .copyRun) "runtime_config_copy_failed") fun _ =>
    next (step (ask .moveRun) "runtime_config_commit_failed") fun _ =>
      next (step (ask .serviceStart) "tunnel_service_start_failed") fun _ =>
        next (step (awaitListener 6) "tunnel_listener_missing") fun _ =>
          next (step (ask .serviceRunning) "tunnel_service_not_running") fun _ => routesStep

def generic : String := "runtime_activation_failed"

/-- The part of a start up to the routes; whether AmneziaWG has failed for good. -/
def startTunnel : Lane (Except String Bool) :=
  next (step closed "runtime_close_failed") fun _ =>
    next (step (zapret "up") "transport_zapret_start_failed") fun _ =>
      next awgStart fun hard =>
        next awgState fun _ =>
          next serviceUp fun _ => return .ok hard

def confirm (profile : String) : Lane Bool := do
  match ← ask (.probeHelper "confirm" (some profile)) with
  | none => return false
  | some answer =>
    if !answer.healthy then return false
    else ask (.helper "commit-profile" (some profile))

def bootstrap : Lane (Except String String) := do
  match ← ask (.probeHelper "bootstrap" none) with
  | none => return .error generic
  | some answer =>
    match answer.nextProfile.filter fun p => p == "vless-reality" || p == "hysteria2" with
    | none => return .error generic
    | some profile =>
      next (step (ask (.helper "fallback-awg" (some profile))) generic) fun _ =>
        next (step check generic) fun _ => return .ok profile

/-- `start`, which calls itself once more when AmneziaWG has failed for good. -/
def start : Nat → Lane (Except String Unit)
  | 0 => do
    let impossible ← ask .hang
    nomatch impossible
  | n + 1 =>
    next startTunnel fun hard =>
      if !hard then return .ok ()
      else next bootstrap fun profile => next (start n) fun _ => step (confirm profile) generic

def probe : Lane Bool := ask .curl

def probeTwice : Lane Bool := do
  if !(← probe) then return false
  else probe

/-- The switch to another profile after a failure. -/
def switch (fuel : Nat) (profile : String) : Lane Bool := do
  if !(← ask (.helper "select-profile" (some profile))) then return false
  else if !(← check) then return false
  else
    match ← start fuel with
    | .error _ => return false
    | .ok () =>
      match (← ask .activeProfile).filter profiles.contains with
      | none => return false
      | some actual =>
        if !(← confirm actual) then return false
        else guard true

def monitorFailed (fuel : Nat) (recover : Bool) (answer : ProbeAnswer) : Lane Bool := do
  if !(← guard false) then return false
  else
    match answer.nextProfile.filter profiles.contains with
    | some profile => switch fuel profile
    | none => return !recover

def monitor (fuel : Nat) (recover : Bool) : Lane Bool := do
  match ← ask (.probeHelper (if recover then "recover" else "health") none) with
  | none => return false
  | some answer =>
    if answer.healthy then guard true
    else
      match answer.failed with
      | some false => return !recover
      | some true => monitorFailed fuel recover answer
      | none => return false

/-! The actions. -/

def fail (code : String) : Lane LaneExit := return .error code

def failClosedWith (code : String) : Lane LaneExit := do
  let _ ← closed
  return .error code

/-- The error that the helper printed. -/
def helperFailed : Lane LaneExit := do
  return .error (← ask .helperCode)

def shut : Lane LaneExit := do
  if ← closed then return .ok
  else fail "fail_closed_unconfirmed"

def status : Lane LaneExit := do
  if !(← ask (.helper "status" none)) then helperFailed
  else if ← ask .empty then return .ok
  else if !(← ask .serviceRunning) then fail "runtime_not_running"
  else if !(← ask .transparentActive) then fail "runtime_not_running"
  else if !(← ask .guardTransparent) then fail "runtime_not_running"
  else if !(← awgFine) then fail "runtime_not_running"
  else if !(← zapret "check") then fail "runtime_not_running"
  else return .ok

def prepare : Lane LaneExit := do
  if !(← ask (.helper "prepare" none)) then helperFailed
  else if ← ask .empty then return .ok
  else if !(← ask .preflight) then fail "runtime_preflight_failed"
  else if !(← check) then fail "sing_box_check_failed"
  else return .ok

def activate (fuel : Nat) : Lane LaneExit := do
  if !(← ask (.helper "activate" none)) then helperFailed
  else if ← ask .empty then shut
  else if !(← ask .preflight) then fail "runtime_preflight_failed"
  else if !(← check) then fail "sing_box_check_failed"
  else
    match ← start fuel with
    | .error code => fail code
    | .ok () => return .ok

/-- `probe && probe || monitor recover`. -/
def proven (fuel : Nat) : Lane Bool := do
  if ← probeTwice then return true
  else monitor fuel true

/-- The guard opens, and closes again when the helper then disagrees. -/
def openGuard (action : String) : Lane LaneExit := do
  if !(← guard true) then fail "firewall_activation_failed"
  else if !(← ask (.helper action none)) then failClosedWith "runtime_bundle_mismatch"
  else return .ok

def verify (fuel : Nat) : Lane LaneExit := do
  if !(← ask (.helper "verify" none)) then helperFailed
  else if ← ask .empty then return .ok
  else if !(← zapret "check") then failClosedWith "zapret_unavailable"
  else if !(← proven fuel) then fail "vpn_probe_failed"
  else openGuard "verify"

/-- A restore finds the committed runtime at work. -/
def reusable : Lane Bool := do
  if !(← ask .sameRun) then return false
  else if !(← awgFine) then return false
  else if !(← zapret "check") then return false
  else if !(← ask .serviceRunning) then return false
  else ask .transparentActive

def restart (fuel : Nat) : Lane LaneExit := do
  match ← start fuel with
  | .error _ => fail "runtime_restore_failed"
  | .ok () =>
    if !(← proven fuel) then failClosedWith "vpn_probe_failed"
    else openGuard "status"

def reinstate (fuel : Nat) (restore : Bool) : Lane LaneExit := do
  if !(← ask (.helper (if restore then "restore" else "rollback") none)) then helperFailed
  else if ← ask .empty then shut
  else if !(← ask .preflight) then fail "runtime_preflight_failed"
  else if !(← check) then fail "sing_box_check_failed"
  else
    let reuse ← (if restore then reusable else .done false)
    if reuse then
      match ← ask .routes with
      | some code => fail code
      | none => return .ok
    else restart fuel

def tickRound (fuel : Nat) : Lane LaneExit := do
  match ← ask .routes with
  | some code => failClosedWith code
  | none =>
    if !(← monitor fuel false) then failClosedWith "health_check_failed"
    else if !(← ask (.helper "status" none)) then failClosedWith "runtime_bundle_mismatch"
    else return .ok

def healthy : Lane Bool := do
  if !(← ask .sameRun) then return false
  else if !(← ask .serviceRunning) then return false
  else if !(← ask .transparentActive) then return false
  else if !(← awgFine) then return false
  else zapret "check"

def tickRestart (fuel : Nat) : Lane LaneExit := do
  if !(← ask (.helper "restore" none)) then fail "runtime_bundle_mismatch"
  else if ← ask .empty then fail "snapshot_not_applied"
  else if !(← check) then failClosedWith "runtime_restore_failed"
  else
    match ← start fuel with
    | .error _ => failClosedWith "runtime_restore_failed"
    | .ok () => tickRound fuel

def healthTick (fuel : Nat) : Lane LaneExit := do
  if !(← ask .preflight) then
    if !(← closed) then fail "fail_closed_unconfirmed"
    else fail "runtime_preflight_failed"
  else if !(← ask (.helper "restore" none)) then failClosedWith "runtime_bundle_mismatch"
  else if ← ask .empty then fail "snapshot_not_applied"
  else if !(← healthy) then tickRestart fuel
  else tickRound fuel

def pingAll (target : String) : Lane LaneExit := do
  if !(["youtube", "instagram"].contains target) then fail "invalid_probe_target"
  else if !(← ask .serviceRunning) then fail "runtime_not_running"
  else if !(← zapret "check") then fail "zapret_unavailable"
  else
    match ← ask (.probeHelper "ping-all" (some target)) with
    | none => fail "probe_failed"
    | some _ => return .ok

def act (fuel : Nat) (target : String) : LaneAction → Lane LaneExit
  | .status => status
  | .capabilities => return .ok
  | .failClosed => shut
  | .prepare => prepare
  | .activate => activate fuel
  | .verify => verify fuel
  | .rollback => reinstate fuel false
  | .restore => reinstate fuel true
  | .healthTick => healthTick fuel
  | .pingAll => pingAll target
  | .unknown => fail "unknown_runtime_action"

/-- The actions that a lock stops. -/
def gated : List LaneAction :=
  [.prepare, .activate, .verify, .rollback, .restore, .healthTick, .pingAll]

def locks : List String := ["maintenance.lock", "update.lock"]

def locked : List String → Lane Bool
  | [] => return false
  | name :: rest => do
    if ← ask (.lock name) then return true
    else locked rest

/-- What a lock leaves of an action. -/
def refuse (action : LaneAction) : Lane LaneExit := do
  if action = .pingAll then fail "maintenance_locked"
  else if !(← closed) then fail "fail_closed_unconfirmed"
  else fail "maintenance_locked"

def run (fuel : Nat) (target : String) (action : LaneAction) : Lane LaneExit := do
  if !(← ask .directories) then fail "directories_failed"
  else if !gated.contains action then act fuel target action
  else if ← locked locks then refuse action
  else act fuel target action

end RuntimeLane

end AutoVPN
