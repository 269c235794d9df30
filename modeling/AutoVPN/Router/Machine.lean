import AutoVPN.Router.JournalLoad

/-! The transitions of the router state machine. A transition that fails
returns the state as it was left, like the object that the caller keeps. -/

namespace AutoVPN

structure Transition where
  ok : Bool
  code : Option Code
  noop : Bool
  state : State

namespace Machine

def code (s : String) (h : codePattern.matches s = true := by decide) : Code := ⟨s, h⟩

def invalidEtag : Code := code "invalid_etag"

def snapshotValidationFailed : Code := code "snapshot_validation_failed"

def etagNoop : Code := code "etag_noop"

def revisionRegression : Code := code "revision_regression"

def notModified : Code := code "not_modified"

def invalidPhase : Code := code "invalid_phase"

def reportKeyMismatch : Code := code "report_key_mismatch"

def rollbackFailed : Code := code "rollback_failed"

def applyFailedCode : Code := code "apply_failed"

def emptyCapabilities : Capabilities := ⟨false, false, false, false, false⟩

def initialState : State where
  journalVersion := versionOne
  sequence := 0
  phase := .idle
  desired := none
  applied := none
  lastGood := none
  rejected := none
  pendingReport := none
  capabilities := emptyCapabilities
  activeProfile := none
  lastError := none

def bump (state : State) : State := { state with sequence := state.sequence + 1 }

def done (state : State) : Transition := { ok := true, code := none, noop := false, state := state }

def failed (code : Code) (state : State) : Transition :=
  { ok := false, code := some code, noop := false, state := state }

def noop (code : Option Code) (state : State) : Transition :=
  { ok := true, code := code, noop := true, state := state }

@[simp] theorem done_state (state : State) : (done state).state = state := rfl

@[simp] theorem done_ok (state : State) : (done state).ok = true := rfl

@[simp] theorem failed_state (code : Code) (state : State) : (failed code state).state = state := rfl

@[simp] theorem failed_ok (code : Code) (state : State) : (failed code state).ok = false := rfl

@[simp] theorem noop_state (code : Option Code) (state : State) :
    (noop code state).state = state := rfl

def rejectedRevision (snapshot : Value) : Option Nat :=
  match snapshot.get "revision" with
  | .int n => if 0 ≤ n ∧ n ≤ maxSafeInteger then some n.toNat else none
  | _ => none

theorem rejectedRevision_le (snapshot : Value) :
    ∀ r ∈ rejectedRevision snapshot, r ≤ maxSafeInteger := by
  intro r hr
  unfold rejectedRevision at hr
  split at hr
  · split at hr
    · rw [Option.mem_some_iff] at hr
      omega
    · simp at hr
  · simp at hr

def receiveSnapshot (state : State) (snapshot etag : Value) (force : Bool) : Transition :=
  match (Text.ofValue etag : Option Etag) with
  | none => failed invalidEtag state
  | some etag =>
    match Snapshot.ofValue snapshot with
    | none =>
      failed snapshotValidationFailed <| bump
        { state with
          rejected := some
            { revision := rejectedRevision snapshot
              etag := etag
              code := snapshotValidationFailed
              errors := validateSnapshot snapshot
              revision_le := rejectedRevision_le snapshot
              reportable := validateSnapshot_reportable snapshot }
          lastError := some snapshotValidationFailed }
    | some snapshot =>
      if !force && state.applied.any (·.etag == etag) then noop (some etagNoop) state
      else if state.applied.any fun e => decide (snapshot.revision < e.snapshot.revision) then
        failed revisionRegression state
      else
        done <| bump
          { state with
            desired := some { etag := etag, snapshot := snapshot, attempt := state.sequence + 1 }
            rejected := none
            lastError := none
            phase := .ready }

def fetchedNotModified (state : State) : Transition := noop (some notModified) state

def beginApply (state : State) : Transition :=
  if state.phase = .ready ∧ state.desired.isSome then
    done <| bump { state with phase := .preparing, lastError := none }
  else failed invalidPhase state

/-- A transition that only moves from one phase to the next. -/
def advance (source target : Phase) (state : State) : Transition :=
  if state.phase = source then done <| bump { state with phase := target }
  else failed invalidPhase state

def prepared : State → Transition := advance .preparing .prepared

def activating : State → Transition := advance .prepared .activating

def activated : State → Transition := advance .activating .verifying

def normalizeCapabilities (v : Value) : Capabilities where
  vless := (v.get "vless").isTrue
  hysteria2 := (v.get "hysteria2").isTrue
  amneziawg := (v.get "amneziawg").isTrue
  zapret := (v.get "zapret").isTrue
  policyRouting := (v.get "policy_routing").isTrue

def reportKey (entry : Entry) : String :=
  String.ofList
    (Journal.keyPrefix entry.snapshot.revision entry.snapshot.sha256.1 ++
      (toString entry.attempt).toList)

def reportFor (entry : Entry) (activeProfile : Option Profile) (capabilities : Capabilities)
    (diagnostics : Diagnostics) : PendingReport where
  idempotencyKey := reportKey entry
  etag := entry.etag
  body :=
    { schemaVersion := versionOne
      revision := entry.snapshot.revision
      snapshotSha256 := entry.snapshot.sha256
      activeProfile := activeProfile
      capabilities := capabilities
      diagnostics := diagnostics
      revision_le := entry.snapshot.revision_le }

def verified (state : State) (activeProfile : Option Profile) (capabilities : Value) : Transition :=
  match state.phase, state.desired with
  | .verifying, some current =>
    done <| bump
      { state with
        lastGood := state.applied
        applied := some current
        desired := none
        phase := .idle
        capabilities := normalizeCapabilities capabilities
        activeProfile := activeProfile
        lastError := none
        pendingReport := some
          (reportFor current activeProfile (normalizeCapabilities capabilities) .verified) }
  | _, _ => failed invalidPhase state

def applyFailed (state : State) (code : Option Code) : Transition :=
  if state.desired.isSome then
    done <| bump { state with phase := .rollingBack, lastError := code }
  else failed invalidPhase state

def rolledBack (state : State) (rollbackOk : Bool) (capabilities : Value) : Transition :=
  match state.phase, state.desired with
  | .rollingBack, some entry =>
    let failure := state.lastError.getD applyFailedCode
    let activeProfile := if rollbackOk && state.applied.isSome then state.activeProfile else none
    let lastError := if rollbackOk then failure else rollbackFailed
    let stage := if rollbackOk then Stage.rolledBack else .rollbackFailed
    { ok := rollbackOk
      code := some lastError
      noop := false
      state := bump
        { state with
          rejected := some
            { revision := some entry.snapshot.revision
              etag := entry.etag
              code := failure
              errors := []
              revision_le := by simpa using entry.snapshot.revision_le
              reportable := ⟨Nat.zero_le 64, by simp⟩ }
          desired := if rollbackOk then none else some entry
          phase := if rollbackOk then .idle else .failClosed
          capabilities := normalizeCapabilities capabilities
          activeProfile := activeProfile
          lastError := some lastError
          pendingReport := some
            (reportFor entry activeProfile (normalizeCapabilities capabilities)
              (.failure stage lastError)) } }
  | _, _ => failed invalidPhase state

def reportAccepted (state : State) (idempotencyKey : String) : Transition :=
  match state.pendingReport with
  | none => noop none state
  | some report =>
    if report.idempotencyKey ≠ idempotencyKey then failed reportKeyMismatch state
    else done <| bump { state with pendingReport := none }

def recoverRequired (state : State) : Bool :=
  match state.phase with
  | .preparing | .prepared | .activating | .verifying | .rollingBack | .failClosed => true
  | .idle | .ready => false

/-! A transition of an apply refuses the phase or advances the sequence. -/

theorem beginApply_cases (s : State) :
    beginApply s = failed invalidPhase s ∨
      ((beginApply s).ok = true ∧
        (beginApply s).state.sequence = s.sequence + 1) := by
  unfold beginApply
  split
  · exact .inr ⟨rfl, rfl⟩
  · exact .inl rfl

theorem advance_cases (source target : Phase) (s : State) :
    advance source target s = failed invalidPhase s ∨
      ((advance source target s).ok = true ∧
        (advance source target s).state.sequence = s.sequence + 1) := by
  unfold advance
  split
  · exact .inr ⟨rfl, rfl⟩
  · exact .inl rfl

theorem verified_cases (s : State) (profile : Option Profile) (capabilities : Value) :
    verified s profile capabilities = failed invalidPhase s ∨
      ((verified s profile capabilities).ok = true ∧
        (verified s profile capabilities).state.sequence = s.sequence + 1) := by
  unfold verified
  split
  · exact .inr ⟨rfl, rfl⟩
  · exact .inl rfl

end Machine

end AutoVPN
