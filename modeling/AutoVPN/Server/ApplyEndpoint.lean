import AutoVPN.Server.ApplyResults

/-! The stored apply results, the transactions on them, and the endpoint that
receives a result from a router. -/

namespace AutoVPN

namespace Server

/-- A row of `router_apply_results`. -/
structure StoredRouterApplyResult where
  id : Nat
  credentialId : String
  idempotencyKey : String
  bodySha256 : String
  revision : Nat
  snapshotSha256 : String
  snapshotEtag : String
  outcome : String
  activeProfile : Option String
  createdAt : String
  id_pos : 1 ≤ id
  createdAt_length : 1 ≤ createdAt.utf8ByteSize ∧ createdAt.utf8ByteSize ≤ 64

/-- The applied snapshot as one router's requests see it: whether its payload
can be read, and the ETags of the two responses when its client is in it. -/
structure SnapshotRow where
  payloadSha256 : String
  readable : Bool
  etags : Option (String × String)

structure Applied where
  revision : Nat
  snapshot : Option SnapshotRow

/-- The part of the database that apply results concern. -/
structure ResultStore where
  applied : Option Applied
  results : List StoredRouterApplyResult

structure RouterApplyConflictError where
  code : String
  currentAppliedRevision : Option Nat

structure RouterApiError where
  statusCode : Nat
  code : String
  message : String
  currentAppliedRevision : Option Nat := none

/-- The id and the time that the database and the clock give to a new row. -/
structure Stamp where
  id : Nat
  timestamp : String
  id_pos : 1 ≤ id
  timestamp_length : 1 ≤ timestamp.utf8ByteSize ∧ timestamp.utf8ByteSize ≤ 64

namespace ResultStore

def find (store : ResultStore) (credentialId idempotencyKey : String) :
    Option StoredRouterApplyResult :=
  store.results.find? fun row =>
    row.credentialId == credentialId && row.idempotencyKey == idempotencyKey

/-- `record_router_apply_result`: the row, whether it is a replay, and the store. -/
def recordRouterApplyResult (store : ResultStore) (stamp : Stamp)
    (credentialId idempotencyKey : String) (result : ValidatedRouterApplyResult)
    (snapshotEtag : String) :
    Except RouterApplyConflictError (StoredRouterApplyResult × Bool) × ResultStore :=
  match store.applied with
  | none => (.error ⟨"snapshot_not_ready", none⟩, store)
  | some applied =>
    let current := some applied.revision
    if (applied.snapshot.map (·.payloadSha256)) ≠ some result.snapshotSha256 ||
        result.revision ≠ applied.revision then
      (.error ⟨"snapshot_conflict", current⟩, store)
    else
      match store.find credentialId idempotencyKey with
      | some existing =>
        if existing.bodySha256 ≠ result.bodySha256 then
          (.error ⟨"idempotency_conflict", current⟩, store)
        else if existing.snapshotEtag ≠ snapshotEtag then
          (.error ⟨"etag_mismatch", current⟩, store)
        else (.ok (existing, true), store)
      | none =>
        let row : StoredRouterApplyResult :=
          { id := stamp.id
            credentialId := credentialId
            idempotencyKey := idempotencyKey
            bodySha256 := result.bodySha256
            revision := result.revision
            snapshotSha256 := result.snapshotSha256
            snapshotEtag := snapshotEtag
            outcome := result.outcome
            activeProfile := result.activeProfile
            createdAt := stamp.timestamp
            id_pos := stamp.id_pos
            createdAt_length := stamp.timestamp_length }
        (.ok (row, false), { store with results := store.results ++ [row] })

end ResultStore

inductive ResultCall
  | findReplay (credentialId idempotencyKey : String)
  | loadApplied
  | record (credentialId idempotencyKey : String) (result : ValidatedRouterApplyResult)
      (snapshotEtag : String)

abbrev ResultCall.Answer : ResultCall → Type
  | findReplay _ _ => Option StoredRouterApplyResult
  | loadApplied => Option Applied
  | record _ _ _ _ => Except RouterApplyConflictError (StoredRouterApplyResult × Bool)

/-- The transactions of the endpoint. -/
def Transacts : (c : ResultCall) → ResultStore → c.Answer → ResultStore → Prop
  | .findReplay credentialId key, s, row, s' => s' = s ∧ row = s.find credentialId key
  | .loadApplied, s, applied, s' => s' = s ∧ applied = s.applied
  | .record credentialId key result etag, s, answer, s' =>
    ∃ stamp, (answer, s') = s.recordRouterApplyResult stamp credentialId key result etag

inductive Reply
  | refused (error : RouterApiError)
  | stored (etag : String) (row : StoredRouterApplyResult) (replayed : Bool)

abbrev Endpoint (α : Type) := Program ResultCall ResultCall.Answer α

def askStore (c : ResultCall) : Endpoint c.Answer := .call c .done

def loadAppliedSnapshot : Option Applied → Except RouterApiError (Nat × SnapshotRow)
  | some ⟨revision, some snapshot⟩ =>
    if snapshot.readable then .ok (revision, snapshot)
    else .error ⟨503, "snapshot_not_ready", "Applied VPN snapshot is unavailable", none⟩
  | _ => .error ⟨503, "snapshot_not_ready", "No applied VPN snapshot is available", none⟩

/-- A refusal that names the revision that is applied now. -/
def refuseApplied (statusCode : Nat) (code message : String) : Endpoint Reply := do
  match loadAppliedSnapshot (← askStore .loadApplied) with
  | .error error => return .refused error
  | .ok (revision, _) => return .refused ⟨statusCode, code, message, some revision⟩

def originalMismatch : String := "If-Match does not match the original idempotent result"

def differentResult : String :=
  "Idempotency key was already used for a different apply result"

def conflictReply (error : RouterApplyConflictError) : Reply :=
  if error.code = "snapshot_not_ready" then
    .refused ⟨503, "snapshot_not_ready", "No applied VPN snapshot is available", none⟩
  else if error.code = "etag_mismatch" then
    .refused ⟨412, "etag_mismatch", originalMismatch, error.currentAppliedRevision⟩
  else
    .refused
      { statusCode := 409
        code := error.code
        message := if error.code = "idempotency_conflict" then differentResult
          else "Applied VPN snapshot changed while accepting the result"
        currentAppliedRevision := error.currentAppliedRevision }

structure ApplyRequest where
  credentialId : String
  idempotencyKey : String
  ifMatch : String
  body : Value

/-- Why the applied snapshot does not allow the result, if it does not. -/
def refusal (request : ApplyRequest) (result : ValidatedRouterApplyResult) (revision : Nat)
    (snapshot : SnapshotRow) : Option RouterApiError :=
  match snapshot.etags with
  | none =>
    some ⟨409, "client_not_applied",
      "Router credential client is not present in the applied snapshot", none⟩
  | some (plain, dual) =>
    if request.ifMatch ≠ plain && request.ifMatch ≠ dual then
      some ⟨412, "etag_mismatch", "If-Match does not match the applied router snapshot",
        some revision⟩
    else if result.revision ≠ revision || result.snapshotSha256 ≠ snapshot.payloadSha256 then
      some ⟨409, "snapshot_conflict",
        "Apply result does not reference the current applied snapshot", some revision⟩
    else none

/-- A result that no earlier request has stored. -/
def recordResult (request : ApplyRequest) (result : ValidatedRouterApplyResult) :
    Endpoint Reply := do
  match loadAppliedSnapshot (← askStore .loadApplied) with
  | .error error => return .refused error
  | .ok (revision, snapshot) =>
    match refusal request result revision snapshot with
    | some error => return .refused error
    | none =>
      match ← askStore (.record request.credentialId request.idempotencyKey result
          request.ifMatch) with
      | .error conflict => return conflictReply conflict
      | .ok (row, replayed) => return .stored request.ifMatch row replayed

/-- A result whose key may have been used before. -/
def replayOrRecord (request : ApplyRequest) (result : ValidatedRouterApplyResult) :
    Endpoint Reply := do
  match ← askStore (.findReplay request.credentialId request.idempotencyKey) with
  | none => recordResult request result
  | some row =>
    if row.bodySha256 ≠ result.bodySha256 then
      refuseApplied 409 "idempotency_conflict" differentResult
    else if row.snapshotEtag ≠ request.ifMatch then
      refuseApplied 412 "etag_mismatch" originalMismatch
    else return .stored row.snapshotEtag row true

def routerApplyResult (py : PythonLibrary) (request : ApplyRequest) : Endpoint Reply :=
  if !idempotencyKeyPattern.matches request.idempotencyKey then
    return .refused ⟨400, "invalid_idempotency_key", "Invalid idempotency key", none⟩
  else if request.ifMatch.length > 256 then
    return .refused ⟨400, "invalid_header", "Conditional header is too long", none⟩
  else if request.ifMatch = "" then
    refuseApplied 428 "if_match_required" "If-Match for the applied router snapshot is required"
  else
    match validateRouterApplyResult py request.body with
    | .error message => return .refused ⟨400, "invalid_apply_result", message, none⟩
    | .ok result => replayOrRecord request result

def optionString : Option String → Value
  | some s => .string s
  | none => .null

def applyResultResponse (row : StoredRouterApplyResult) (replayed : Bool) : Value :=
  .object [("schema_version", .int 1), ("result_id", .int row.id),
    ("idempotency_key", .string row.idempotencyKey), ("revision", .int row.revision),
    ("snapshot_sha256", .string row.snapshotSha256), ("outcome", .string row.outcome),
    ("active_profile", optionString row.activeProfile), ("accepted_at", .string row.createdAt),
    ("replayed", .bool replayed)]

/-- The status, the `ETag` header and the body of a reply. -/
def Reply.http : Reply → Nat × Option String × Value
  | refused error =>
    (error.statusCode, none, .object [("error", .object [("code", .string error.code),
      ("message", .string error.message)])])
  | stored etag row replayed => (200, some etag, applyResultResponse row replayed)

end Server

end AutoVPN
