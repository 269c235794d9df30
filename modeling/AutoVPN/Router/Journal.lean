import AutoVPN.Router.SnapshotErrors

/-! The router journal: its records, whose fields carry the checks that concern
one field alone, and `journal.validState` on the JSON value that is stored. -/

namespace AutoVPN

/-- A string that matches a pattern. -/
abbrev Text (p : Pattern) := { s : String // p.matches s = true }

abbrev Etag := Text etagPattern
abbrev Sha256 := Text sha256Pattern
abbrev Code := Text codePattern
abbrev Profile := Text profilePattern

/-- The versions that the loose comparison with `1` lets through. -/
abbrev VersionOne := { v : Value // v.looseEq (.int 1) = true }

/-- A snapshot that `validateSnapshot` accepts. -/
structure Snapshot where
  value : Value
  accepted : validateSnapshot value = []

structure Entry where
  etag : Etag
  snapshot : Snapshot
  attempt : Nat

structure Rejected where
  revision : Option Nat
  etag : Etag
  code : Code
  errors : List SchemaError
  revision_le : ∀ r ∈ revision, r ≤ maxSafeInteger
  reportable : Reportable 64 errors

@[ext] structure Capabilities where
  vless : Bool
  hysteria2 : Bool
  amneziawg : Bool
  zapret : Bool
  policyRouting : Bool
  deriving DecidableEq

inductive Outcome
  | applied
  | failed
  deriving DecidableEq

inductive Stage
  | rolledBack
  | rollbackFailed
  deriving DecidableEq

inductive Diagnostics
  | verified
  | failure (stage : Stage) (code : Code)
  deriving DecidableEq

/-- The outcome is the one that the diagnostics belong to. -/
structure ReportBody where
  schemaVersion : VersionOne
  revision : Nat
  snapshotSha256 : Sha256
  activeProfile : Option Profile
  capabilities : Capabilities
  diagnostics : Diagnostics
  revision_le : revision ≤ maxSafeInteger

structure PendingReport where
  idempotencyKey : String
  etag : Etag
  body : ReportBody

inductive Phase
  | idle
  | ready
  | preparing
  | prepared
  | activating
  | verifying
  | rollingBack
  | failClosed
  deriving DecidableEq

structure State where
  journalVersion : VersionOne
  sequence : Nat
  phase : Phase
  desired : Option Entry
  applied : Option Entry
  lastGood : Option Entry
  rejected : Option Rejected
  pendingReport : Option PendingReport
  capabilities : Capabilities
  activeProfile : Option Profile
  lastError : Option Code

def versionOne : VersionOne := ⟨.int 1, rfl⟩

def Diagnostics.outcome : Diagnostics → Outcome
  | verified => .applied
  | failure _ _ => .failed

def ReportBody.outcome (b : ReportBody) : Outcome := b.diagnostics.outcome

theorem Snapshot.exists_revision (s : Snapshot) :
    ∃ n : Nat, s.value.get "revision" = .int n ∧ n ≤ maxSafeInteger := by
  obtain ⟨n, hn, hlo, hhi⟩ := Value.isInteger_iff.mp (validateSnapshot_accepted s.accepted).1
  lift n to Nat using hlo
  exact ⟨n, hn, by exact_mod_cast hhi⟩

theorem Snapshot.exists_sha256 (s : Snapshot) :
    ∃ t : Sha256, s.value.get "snapshot_sha256" = .string t.1 := by
  obtain ⟨t, ht, hm⟩ := Value.matches_iff.mp (validateSnapshot_accepted s.accepted).2
  exact ⟨⟨t, hm⟩, ht⟩

def Snapshot.revision (s : Snapshot) : Nat :=
  match s.value.get "revision" with
  | .int n => n.toNat
  | _ => 0

theorem Snapshot.get_revision (s : Snapshot) : s.value.get "revision" = .int s.revision := by
  obtain ⟨n, hn, _⟩ := s.exists_revision
  simp [revision, hn]

theorem Snapshot.revision_le (s : Snapshot) : s.revision ≤ maxSafeInteger := by
  obtain ⟨n, hn, hle⟩ := s.exists_revision
  simpa [revision, hn] using hle

def Snapshot.sha256String (s : Snapshot) : String :=
  match s.value.get "snapshot_sha256" with
  | .string t => t
  | _ => ""

theorem Snapshot.get_sha256 (s : Snapshot) :
    s.value.get "snapshot_sha256" = .string s.sha256String := by
  obtain ⟨t, ht⟩ := s.exists_sha256
  rw [sha256String, ht]

def Snapshot.sha256 (s : Snapshot) : Sha256 :=
  ⟨s.sha256String, by
    obtain ⟨t, ht⟩ := s.exists_sha256
    rw [sha256String, ht]
    exact t.2⟩

/-! The stored JSON value. -/

def orNull {α : Type*} (encode : α → Value) : Option α → Value
  | some a => encode a
  | none => .null

def SchemaError.encode (e : SchemaError) : Value :=
  .object [("path", .string e.path), ("code", .string e.code)]

def Entry.encode (e : Entry) : Value :=
  .object [("etag", .string e.etag.1), ("snapshot", e.snapshot.value), ("attempt", .int e.attempt)]

def Rejected.encode (r : Rejected) : Value :=
  .object [("revision", orNull (fun n : Nat => .int n) r.revision), ("etag", .string r.etag.1),
    ("code", .string r.code.1), ("errors", .array (r.errors.map SchemaError.encode))]

def Capabilities.encode (c : Capabilities) : Value :=
  .object [("vless", .bool c.vless), ("hysteria2", .bool c.hysteria2),
    ("amneziawg", .bool c.amneziawg), ("zapret", .bool c.zapret),
    ("policy_routing", .bool c.policyRouting)]

def Outcome.name : Outcome → String
  | applied => "APPLIED"
  | failed => "FAILED"

def Stage.name : Stage → String
  | rolledBack => "rolled_back"
  | rollbackFailed => "rollback_failed"

def Diagnostics.encode : Diagnostics → Value
  | verified => .object [("stage", .string "verified")]
  | failure stage code => .object [("stage", .string stage.name), ("code", .string code.1)]

def ReportBody.encode (b : ReportBody) : Value :=
  .object [("schema_version", b.schemaVersion.1), ("revision", .int b.revision),
    ("snapshot_sha256", .string b.snapshotSha256.1), ("outcome", .string b.outcome.name),
    ("active_profile", orNull (fun p : Profile => .string p.1) b.activeProfile),
    ("capabilities", b.capabilities.encode), ("diagnostics", b.diagnostics.encode)]

def PendingReport.encode (p : PendingReport) : Value :=
  .object [("idempotency_key", .string p.idempotencyKey), ("etag", .string p.etag.1),
    ("body", p.body.encode)]

def Phase.name : Phase → String
  | idle => "IDLE"
  | ready => "READY"
  | preparing => "PREPARING"
  | prepared => "PREPARED"
  | activating => "ACTIVATING"
  | verifying => "VERIFYING"
  | rollingBack => "ROLLING_BACK"
  | failClosed => "FAIL_CLOSED"

def State.encode (s : State) : Value :=
  .object [("journal_version", s.journalVersion.1), ("sequence", .int s.sequence),
    ("phase", .string s.phase.name), ("desired", orNull Entry.encode s.desired),
    ("applied", orNull Entry.encode s.applied), ("last_good", orNull Entry.encode s.lastGood),
    ("rejected", orNull Rejected.encode s.rejected),
    ("pending_report", orNull PendingReport.encode s.pendingReport),
    ("capabilities", s.capabilities.encode),
    ("active_profile", orNull (fun p : Profile => .string p.1) s.activeProfile),
    ("last_error", orNull (fun c : Code => .string c.1) s.lastError)]

/-! `journal.validState`. -/

namespace Journal

def phases : List String :=
  ["IDLE", "READY", "PREPARING", "PREPARED", "ACTIVATING", "VERIFYING", "ROLLING_BACK",
    "FAIL_CLOSED"]

def capabilityNames : List String :=
  ["vless", "hysteria2", "amneziawg", "zapret", "policy_routing"]

def strongEtag (v : Value) : Bool := v.matches etagPattern

def validCapabilities (v : Value) : Bool :=
  v.hasExactKeys capabilityNames && capabilityNames.all fun name => (v.get name).isBool

def sameBool : Value → Value → Bool
  | .bool a, .bool b => a == b
  | _, _ => false

def sameCapabilities (left right : Value) : Bool :=
  capabilityNames.all fun name => sameBool (left.get name) (right.get name)

def validEntry (v : Value) (sequence : Int) : Bool :=
  v.hasExactKeys ["etag", "snapshot", "attempt"] && strongEtag (v.get "etag") &&
    (v.get "attempt").isInteger 1 sequence && (validateSnapshot (v.get "snapshot")).isEmpty

def validError (v : Value) : Bool :=
  v.hasExactKeys ["path", "code"] && (v.get "path").matches errorPathPattern &&
    (v.get "code").matches codePattern

def validErrors (v : Value) : Bool :=
  v.isArray && decide (v.items.length ≤ 64) && v.items.all validError

def validRejected (v : Value) : Bool :=
  v.hasExactKeys ["revision", "etag", "code", "errors"] &&
    ((v.get "revision").isNull || (v.get "revision").isInteger 0 maxSafeInteger) &&
    strongEtag (v.get "etag") && (v.get "code").matches codePattern && validErrors (v.get "errors")

def validDiagnostics (v outcome : Value) : Bool :=
  if outcome.is "APPLIED" then v.hasExactKeys ["stage"] && (v.get "stage").is "verified"
  else
    v.hasExactKeys ["stage", "code"] &&
      ((v.get "stage").is "rolled_back" || (v.get "stage").is "rollback_failed") &&
      (v.get "code").matches codePattern

def validProfile (v : Value) : Bool := v.isNull || v.matches profilePattern

def validReportBody (v : Value) : Bool :=
  v.hasExactKeys ["schema_version", "revision", "snapshot_sha256", "outcome", "active_profile",
      "capabilities", "diagnostics"] &&
    (v.get "schema_version").looseEq (.int 1) &&
    (v.get "revision").isInteger 0 maxSafeInteger &&
    (v.get "snapshot_sha256").matches sha256Pattern &&
    ((v.get "outcome").is "APPLIED" || (v.get "outcome").is "FAILED") &&
    validProfile (v.get "active_profile") && validCapabilities (v.get "capabilities") &&
    validDiagnostics (v.get "diagnostics") (v.get "outcome")

def validPending (v : Value) : Bool :=
  v.hasExactKeys ["idempotency_key", "etag", "body"] &&
    (v.get "idempotency_key").matches idempotencyKeyPattern && strongEtag (v.get "etag") &&
    validReportBody (v.get "body")

/-- The part of an idempotency key before the attempt. -/
def keyPrefix (revision : Int) (sha256 : String) : List Char :=
  'r' :: ((toString revision).toList ++ '-' :: (sha256.toList.take 16 ++ ['-', 's']))

def attemptSuffix (key : List Char) (pre : List Char) : Option Nat :=
  if key.take pre.length = pre then
    let suffix := key.drop pre.length
    if !suffix.isEmpty && suffix.all Char.isDigit then some (digitsValue suffix) else none
  else none

def reportAttempt (report : Value) (sequence : Int) : Option Int :=
  let body := report.get "body"
  match report.get "idempotency_key", body.get "revision", body.get "snapshot_sha256" with
  | .string key, .int revision, .string sha256 =>
    (attemptSuffix key.toList (keyPrefix revision sha256)).bind fun attempt =>
      if 1 ≤ (attempt : Int) ∧ (attempt : Int) ≤ sequence then some attempt else none
  | _, _, _ => none

def reportMatchesEntry (report entry : Value) : Bool :=
  let body := report.get "body"
  let snapshot := entry.get "snapshot"
  !entry.isNull && (report.get "etag").looseEq (entry.get "etag") &&
    (body.get "revision").looseEq (snapshot.get "revision") &&
    (body.get "snapshot_sha256").looseEq (snapshot.get "snapshot_sha256") &&
    match entry.get "attempt" with
    | .int attempt => reportAttempt report attempt == some attempt
    | _ => false

/-- The rules for a pending report next to the rest of the state. -/
def validPendingIn (state : Value) (sequence : Int) : Bool :=
  let report := state.get "pending_report"
  let body := report.get "body"
  let rejected := state.get "rejected"
  validPending report && (reportAttempt report sequence).isSome &&
    (body.get "active_profile").looseEq (state.get "active_profile") &&
    sameCapabilities (body.get "capabilities") (state.get "capabilities") &&
    if (body.get "outcome").is "APPLIED" then
      (state.get "phase").is "IDLE" && reportMatchesEntry report (state.get "applied")
    else
      ((state.get "phase").is "IDLE" || (state.get "phase").is "FAIL_CLOSED") &&
        !rejected.isNull && (report.get "etag").looseEq (rejected.get "etag") &&
        (body.get "revision").looseEq (rejected.get "revision")

def validState (state : Value) : Bool :=
  match state.get "sequence" with
  | .int sequence =>
    let slot (name : String) := (state.get name).isNull || validEntry (state.get name) sequence
    state.hasExactKeys ["journal_version", "sequence", "phase", "desired", "applied",
      "last_good", "rejected", "pending_report", "capabilities", "active_profile",
      "last_error"] &&
    (state.get "journal_version").looseEq (.int 1) &&
    (Value.int sequence).isInteger 0 maxSafeInteger &&
    validCapabilities (state.get "capabilities") &&
    validProfile (state.get "active_profile") &&
    ((state.get "last_error").isNull || (state.get "last_error").matches codePattern) &&
    phases.any (state.get "phase").is &&
    slot "desired" && slot "applied" && slot "last_good" &&
    ((state.get "last_good").isNull || !(state.get "applied").isNull) &&
    ((state.get "active_profile").isNull || !(state.get "applied").isNull) &&
    (!(state.get "phase").is "FAIL_CLOSED" || (state.get "active_profile").isNull) &&
    ((state.get "rejected").isNull || validRejected (state.get "rejected")) &&
    ((state.get "phase").is "IDLE" == (state.get "desired").isNull) &&
    ((state.get "pending_report").isNull || validPendingIn state sequence)
  | _ => false

end Journal

end AutoVPN
