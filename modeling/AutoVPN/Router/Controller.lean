import AutoVPN.Lib.Program
import AutoVPN.Router.Machine

/-! The controller commands and the orchestration of an apply, as programs over
the journal file, the runtime adapter and the HTTP adapter. -/

namespace AutoVPN

inductive Action
  | prepare
  | activate
  | verify
  | rollback
  | restore
  | failClosed
  | healthTick
  | capabilities
  deriving DecidableEq

/-- What `popen`, `read` and `close` give for an adapter process. -/
inductive AdapterReply
  | notStarted
  | tooLarge
  | invalidJson
  | finished (response : Value) (status : Int)

/-- What `loadState` finds: `unusable` when the directory, the permissions, the
size or the syntax of the file rule the journal out. -/
inductive StoredJournal
  | unusable
  | contents (journal : Option Value)

inductive ResponseFile
  | missing
  | tooLarge
  | invalidJson
  | contents (body : Value)

inductive RouterCall
  | maintenanceBlocked
  | readJournal
  | writeJournal (journal : Value)
  | runtime (action : Action)
  | putResult (idempotencyKey : String) (etag : String)
  | fetch (etag : String)
  | readResponse (path : String)
  | credentialReadable
  | protectCredential

abbrev RouterCall.Answer : RouterCall → Type
  | maintenanceBlocked => Bool
  | readJournal => StoredJournal
  | writeJournal _ => Bool
  | runtime _ => AdapterReply
  | putResult _ _ => AdapterReply
  | fetch _ => AdapterReply
  | readResponse _ => ResponseFile
  | credentialReadable => Bool
  | protectCredential => Bool

abbrev Router (α : Type) := Program RouterCall RouterCall.Answer α

/-- The adapter's answer after `adapterCall` has checked it. -/
inductive Response
  | failure (code : Code)
  | success (value : Value)

def Response.ok : Response → Bool
  | .failure _ => false
  | .success _ => true

inductive ApplyOutcome
  | applied
  | rolledBack
  | failClosed
  deriving DecidableEq

structure Result where
  ok : Bool
  code : Option Code
  outcome : Option ApplyOutcome := none
  failureCode : Option Code := none
  rollbackConfirmed : Bool := false
  failClosedConfirmed : Bool := false
  reportSent : Bool := false
  reportError : Option Code := none
  state : Option State := none

structure Config where
  baseUrl : String
  routerId : String
  stateDir : String

inductive Command
  | recover
  | applyPolicy
  | stop
  | refresh
  | healthTick
  deriving DecidableEq

namespace Controller

open Machine (code)

def journalWriteFailed : Code := code "journal_write_failed"

def adapterStartFailed : Code := code "adapter_start_failed"

def interruptedApply : Code := code "interrupted_apply"

def runtimeRestored : Code := code "runtime_restored"

def ask (c : RouterCall) : Router c.Answer := .call c .done

def adapterResponse : AdapterReply → Response
  | .notStarted => .failure adapterStartFailed
  | .tooLarge => .failure (code "adapter_output_too_large")
  | .invalidJson => .failure (code "adapter_invalid_json")
  | .finished response status =>
    if !response.isObject then .failure (code "adapter_invalid_response")
    else if status ≠ 0 || !(response.get "ok").isTrue then
      .failure ((Text.ofValue (response.get "code")).getD (code "adapter_failed"))
    else .success response

def runtimeAction (action : Action) : Router Response := do
  return adapterResponse (← ask (.runtime action))

def saveState (state : State) : Router Bool := ask (.writeJournal state.encode)

def safeActiveProfile (v : Value) : Option Profile := Text.ofValue v

/-- The capabilities that the runtime reports when asked for them. -/
def runtimeCapabilities : Router Value := do
  match ← runtimeAction .capabilities with
  | .success value => return (Machine.normalizeCapabilities (value.get "capabilities")).encode
  | .failure _ => return Machine.emptyCapabilities.encode

def capabilitiesOf (value : Value) : Router Value :=
  if (value.get "capabilities").truthy then return value.get "capabilities"
  else runtimeCapabilities

def persist (transition : Transition) : Router Transition :=
  if !transition.ok && transition.code == some Machine.invalidPhase then return transition
  else do
    if ← saveState transition.state then return transition
    else return { ok := false, code := some journalWriteFailed, noop := false,
                  state := transition.state }

def ofTransition (transition : Transition) : Result :=
  { ok := transition.ok, code := transition.code, state := some transition.state }

/-- The profile that a confirmed rollback names replaces the recorded one. -/
def withProfile (state : State) (value : Value) : State :=
  if (value.get "active_profile").isNull then state
  else { state with activeProfile := safeActiveProfile (value.get "active_profile") }

theorem withProfile_fields (s : State) (value : Value) :
    (withProfile s value).phase = s.phase ∧ (withProfile s value).desired = s.desired ∧
      (withProfile s value).sequence = s.sequence := by
  unfold withProfile
  split <;> exact ⟨rfl, rfl, rfl⟩

def rollbackDesired (state : State) (failureCode : Option Code) : Router Result :=
  let failed := Machine.applyFailed state failureCode
  if !failed.ok && failed.code == some Machine.invalidPhase then return ofTransition failed
  else do
    let _ ← persist failed
    match ← runtimeAction .rollback with
    | .success value => do
      let working := withProfile failed.state value
      let rolledBack := Machine.rolledBack working true (← capabilitiesOf value)
      let stored ← persist rolledBack
      if !stored.ok then
        return { ok := false, code := stored.code, outcome := some .rolledBack,
                 failureCode := failureCode, rollbackConfirmed := true,
                 state := some rolledBack.state }
      else
        return { ok := rolledBack.ok, code := rolledBack.code, outcome := some .rolledBack,
                 failureCode := failureCode, state := some rolledBack.state }
    | .failure _ => do
      let failClosed ← runtimeAction .failClosed
      let closed := Machine.rolledBack failed.state false (.object [])
      let _ ← persist closed
      return { ok := closed.ok
               code := if failClosed.ok then closed.code else some (code "fail_closed_unconfirmed")
               outcome := some .failClosed, failureCode := failureCode
               failClosedConfirmed := failClosed.ok, state := some closed.state }

def applyDesired (state : State) : Router Result := do
  let begun := Machine.beginApply state
  let transition ← persist begun
  if !transition.ok then return ofTransition transition
  else
    let working := begun.state
    match ← runtimeAction .prepare with
    | .failure code => rollbackDesired working (some code)
    | .success _ =>
      let checkpoint := working
      let working := (Machine.prepared working).state
      let transition ← persist (Machine.prepared checkpoint)
      if !transition.ok then rollbackDesired checkpoint transition.code
      else
        let checkpoint := working
        let working := (Machine.activating working).state
        let transition ← persist (Machine.activating checkpoint)
        if !transition.ok then rollbackDesired checkpoint transition.code
        else
          match ← runtimeAction .activate with
          | .failure code => rollbackDesired working (some code)
          | .success _ =>
            let checkpoint := working
            let working := (Machine.activated working).state
            let transition ← persist (Machine.activated checkpoint)
            if !transition.ok then rollbackDesired checkpoint transition.code
            else
              match ← runtimeAction .verify with
              | .failure code => rollbackDesired working (some code)
              | .success value =>
                let verified := Machine.verified working
                  (safeActiveProfile (value.get "active_profile")) (← capabilitiesOf value)
                let committed ← persist verified
                if !committed.ok then rollbackDesired working committed.code
                else
                  return { ok := committed.ok, code := committed.code,
                           outcome := some .applied, state := some committed.state }

def reportPending (state : State) : Router Transition := do
  match state.pendingReport with
  | none => return Machine.noop none state
  | some report =>
    match adapterResponse (← ask (.putResult report.idempotencyKey report.etag.1)) with
    | .failure code => return Machine.failed code state
    | .success _ => persist (Machine.reportAccepted state report.idempotencyKey)

def recover (state : State) : Router Result :=
  if !Machine.recoverRequired state then return ofTransition (Machine.noop none state)
  else rollbackDesired state (some interruptedApply)

def restoreRuntime (state : State) : Router Result := do
  match ← runtimeAction .restore with
  | .failure failure => do
    let _ ← runtimeAction .failClosed
    return { ok := false, code := some failure, state := some state }
  | .success value =>
    if (value.get "restored").isFalse then
      return { ok := false, code := some (code "runtime_partially_restored"), state := some state }
    else
      let named : Option Code := Text.ofValue (value.get "code")
      return { ok := true, code := some (named.getD runtimeRestored), state := some state }

def finalizeRefresh (apply : Result) (report : Transition) : Result :=
  match apply.outcome with
  | some .rolledBack =>
    { ok := false, code := some (code "rolled_back"), outcome := some .rolledBack,
      failureCode := some (apply.code.getD Machine.applyFailedCode), reportSent := report.ok,
      reportError := if report.ok then none else report.code, state := apply.state }
  | some .applied =>
    if report.ok then
      { ok := true, code := some (code "applied"), outcome := some .applied, reportSent := true,
        state := apply.state }
    else
      { ok := false, code := some (code "apply_result_pending"), outcome := some .applied,
        reportError := report.code, state := apply.state }
  | _ => apply

/-- Applies the desired snapshot and sends the report that this leaves. -/
def applyAndReport (state : State) : Router Result := do
  let applied ← applyDesired state
  if !applied.ok && applied.outcome ≠ some .rolledBack && applied.outcome ≠ some .failClosed then
    return applied
  else
    return finalizeRefresh applied (← reportPending (applied.state.getD state))

def applyPolicy (state : State) : Router Result := do
  let recovered ← recover state
  if !recovered.ok then return recovered
  else
    let state := recovered.state.getD state
    let reported ← reportPending state
    if !reported.ok then return ofTransition reported
    else
      let state := reported.state
      match state.applied with
      | none =>
        return { ok := false, code := some (code "snapshot_not_applied"), state := some state }
      | some applied =>
        let accepted := Machine.receiveSnapshot state applied.snapshot.value
          (.string applied.etag.1) true
        let failure : Result := { ok := false, code := some (accepted.code.getD journalWriteFailed),
                                  state := some accepted.state }
        if !accepted.ok then return failure
        else if !(← saveState accepted.state) then return failure
        else applyAndReport accepted.state

def validResponsePath (stateDir : String) (v : Value) : Option String :=
  match v with
  | .string path =>
    let pre := (stateDir ++ "/http-response.").toList
    if path.toList.take pre.length = pre &&
        Pattern.matchesList [.many Char.isDigit 1] (path.toList.drop pre.length) then some path
    else none
  | _ => none

def consumeSnapshot (config : Config) (response : Value) : Router (Code ⊕ Value) := do
  match validResponsePath config.stateDir (response.get "response_file") with
  | none => return .inl (code "invalid_response_file")
  | some path =>
    match ← ask (.readResponse path) with
    | .missing => return .inl (code "snapshot_read_failed")
    | .tooLarge => return .inl (code "snapshot_too_large")
    | .invalidJson => return .inl (code "snapshot_invalid_json")
    | .contents body =>
      return if body.isObject then .inr body else .inl (code "snapshot_invalid_json")

/-- `^https:\/\/[^\/?#]+`: a prefix of the URL, so what follows is not constrained. -/
def httpsUrl (url : String) : Bool :=
  let scheme := "https://".toList
  url.toList.take scheme.length = scheme &&
    ((url.toList.drop scheme.length).head?).any fun c => !(['/', '?', '#'].contains c)

/-- The configuration checks before a fetch, with the code of the first that fails. -/
def checkConfiguration (config : Config) : Router (Option Code) := do
  if config.baseUrl == "" || config.routerId == "" then return some (code "not_configured")
  else if !(← ask .credentialReadable) then return some (code "not_configured")
  else if !(← ask .protectCredential) then return some (code "credential_permissions_failed")
  else if !httpsUrl config.baseUrl then return some (code "invalid_base_url")
  else if !routerIdPattern.matches config.routerId then return some (code "invalid_router_id")
  else return none

/-- The part of `refresh` after the pending report is out of the way. -/
def fetchAndApply (config : Config) (restored : Result) (state : State) : Router Result := do
  let stopWith (c : Code) : Result := { ok := false, code := some c, state := some state }
  match ← checkConfiguration config with
  | some failure => return stopWith failure
  | none =>
    let etag := (state.applied.map (·.etag.1)).getD ""
    match adapterResponse (← ask (.fetch etag)) with
    | .failure failure => return stopWith failure
    | .success response =>
      let status := response.get "status"
      if status.looseEq (.int 304) then
        return if restored.ok then ofTransition (Machine.fetchedNotModified state) else restored
      else if !status.looseEq (.int 200) then
        return stopWith (code "unexpected_snapshot_response")
      else
        match ← consumeSnapshot config response with
        | .inl failure => return stopWith failure
        | .inr body =>
          if !(body.get "router_id").looseEq (.string config.routerId) then
            return stopWith (code "router_identity_mismatch")
          else
            let accepted := Machine.receiveSnapshot state body (response.get "etag") false
            if !accepted.ok then
              if accepted.code == some Machine.snapshotValidationFailed then
                let _ ← saveState accepted.state
                return ofTransition accepted
              else return ofTransition accepted
            else if accepted.noop then
              return if restored.ok then ofTransition accepted else restored
            else if !(← saveState accepted.state) then
              return { ok := false, code := some journalWriteFailed,
                       state := some accepted.state }
            else applyAndReport accepted.state

def refresh (config : Config) (state : State) : Router Result := do
  let recovered ← recover state
  if !recovered.ok then return recovered
  else
    let state := recovered.state.getD state
    let restored ← restoreRuntime state
    let reported ← reportPending state
    if !reported.ok then return ofTransition reported
    else fetchAndApply config restored reported.state

def stop : Router Result := do
  match ← runtimeAction .failClosed with
  | .failure failure => return { ok := false, code := some failure }
  | .success value => return { ok := true, code := Text.ofValue (value.get "code") }

def healthTick (state : State) : Router Result := do
  if state.phase ≠ .idle || state.applied.isNone then
    return { ok := false, code := some (code "runtime_not_ready") }
  else
    match ← runtimeAction .healthTick with
    | .failure failure => return { ok := false, code := some failure }
    | .success value =>
      let profile := safeActiveProfile (value.get "active_profile")
      let result : Result := { ok := true, code := Text.ofValue (value.get "code") }
      if profile = state.activeProfile then return result
      else if ← saveState { state with activeProfile := profile } then return result
      else return { ok := false, code := some journalWriteFailed }

def dispatch (config : Config) (command : Command) (state : State) : Router Result :=
  match command with
  | .recover => recover state
  | .applyPolicy => applyPolicy state
  | .stop => stop
  | .refresh => refresh config state
  | .healthTick => healthTick state

/-- The state that `loadState` returns, `none` for an invalid journal. -/
def loadState : StoredJournal → Option State
  | .unusable => none
  | .contents journal => Journal.load journal Machine.initialState

/-- What a command does with the journal it finds. -/
def runCommand (config : Config) (command : Command) (found : StoredJournal) : Router Result := do
  match loadState found with
  | none =>
    let closed ← runtimeAction .failClosed
    return { ok := false, code := some (code "journal_invalid"), failClosedConfirmed := closed.ok }
  | some state => dispatch config command state

def main (config : Config) (command : Command) : Router Result := do
  if ← ask .maintenanceBlocked then
    if command = .stop then stop
    else return { ok := false, code := some (code "maintenance_locked") }
  else runCommand config command (← ask .readJournal)

end Controller

end AutoVPN
