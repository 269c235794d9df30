import AutoVPN.Router.Controller
import Mathlib.Data.List.Infix

/-! The report side of the HTTP adapter: `preparePut` takes the report out of
the journal file, `finishPut` compares the answer with what was sent. -/

namespace AutoVPN

namespace Http

def capabilityNames : List String :=
  ["vless", "hysteria2", "amneziawg", "zapret", "policy_routing"]

/-- One of the words occurs in the text. -/
def mentions (words : List String) (text : List Char) : Bool :=
  words.any fun word => decide (word.toList <:+: text)

def lower (s : String) : List Char := s.toList.map Char.toLower

def printable (s : String) : Bool := s.toList.all fun c => ' ' ≤ c && c ≤ '~'

def hasMarkup (s : String) : Bool := s.toList.any fun c => c == '<' || c == '>'

def secretWords : List String :=
  ["authorization:", "bearer ", "password=", "private key", "presharedkey", "avrt_", "vless://",
    "hy2://", "vpn://"]

def secretKeyWords : List String :=
  ["authorization", "cookie", "password", "privatekey", "private_key", "preshared", "secret",
    "token"]

def secretCompactWords : List String :=
  ["authorization", "cookie", "password", "privatekey", "preshared", "secret", "token"]

def tokenPattern : Pattern := [.many (alphanumericOr ['_', '+', '/', '=', '-']) 1]

/-- `^[a-z][a-z0-9_]{0,63}$`. -/
def statusPattern : Pattern := [.exactly Char.isLower 1, .between isCodeChar 0 63]

def diagnosticString (s : String) : Bool :=
  decide (s.utf8ByteSize ≤ 500) && printable s && !hasMarkup s && !mentions secretWords (lower s) &&
    (decide (s.utf8ByteSize < 32) || decide (s.utf8ByteSize > 256) || !tokenPattern.matches s) &&
    !uuidPattern.matches s

def normalized (key : String) : List Char :=
  (lower key).map fun c => if c == '-' then '_' else c

def diagnosticKey (key : String) : Bool :=
  decide (1 ≤ key.utf8ByteSize) && decide (key.utf8ByteSize ≤ 64) && printable key &&
    !hasMarkup key && !mentions secretKeyWords (normalized key) &&
    !mentions secretCompactWords ((normalized key).filter (· != '_'))

/-- A `code` or `stage` that needs no further check. -/
def statusValue (key : String) (v : Value) : Bool :=
  (normalized key == "code".toList || normalized key == "stage".toList) && v.matches statusPattern

/-! The values of a report's diagnostics, with the number of values seen so far. -/

mutual

def diagnosticValue (depth budget : Nat) : Value → Option Nat
  | .string s =>
    if depth ≤ 5 && budget < 128 && diagnosticString s then some (budget + 1) else none
  | .array items =>
    if depth ≤ 5 && budget < 128 && items.length ≤ 32 then
      diagnosticItems (depth + 1) (budget + 1) items
    else none
  | .object fields =>
    if depth ≤ 5 && budget < 128 && fields.length ≤ 32 then
      diagnosticFields (depth + 1) (budget + 1) fields
    else none
  | _ => if depth ≤ 5 && budget < 128 then some (budget + 1) else none

def diagnosticItems (depth budget : Nat) : List Value → Option Nat
  | [] => some budget
  | item :: items => (diagnosticValue depth budget item).bind fun b => diagnosticItems depth b items

def diagnosticFields (depth budget : Nat) : List (String × Value) → Option Nat
  | [] => some budget
  | (key, value) :: fields =>
    if !diagnosticKey key then none
    else if statusValue key value then diagnosticFields depth budget fields
    else (diagnosticValue depth budget value).bind fun b => diagnosticFields depth b fields

end

section

-- `jsonLength` stands for the number of bytes that `sprintf('%J')` prints.
variable (jsonLength : Value → Nat)

def applyBody (body : Value) : Bool :=
  let outcome := body.get "outcome"
  body.hasExactKeys ["schema_version", "revision", "snapshot_sha256", "outcome",
      "active_profile", "capabilities", "diagnostics"] &&
    (body.get "schema_version").looseEq (.int 1) &&
    (match body.get "revision" with
      | .int n => decide (0 ≤ n)
      | _ => false) &&
    (body.get "snapshot_sha256").matches sha256Pattern &&
    (match outcome with
      | .string s => s == "APPLIED" || s == "DEGRADED" || s == "FAILED"
      | _ => false) &&
    ((body.get "active_profile").isNull || (body.get "active_profile").matches profilePattern) &&
    (body.get "capabilities").hasExactKeys capabilityNames && (body.get "diagnostics").isObject &&
    capabilityNames.all (fun name => ((body.get "capabilities").get name).isBool) &&
    (diagnosticValue 0 0 (body.get "diagnostics")).isSome &&
    decide (jsonLength (body.get "diagnostics") ≤ 8192)

/-- The body that is sent, when the journal still holds the report named by the arguments. -/
def preparePut (journal : Option Value) (idempotencyKey etag : String) : Option Value :=
  journal.bind fun v =>
    let pending := v.get "pending_report"
    if etagPattern.matches etag && idempotencyKeyPattern.matches idempotencyKey && v.isObject &&
        pending.hasExactKeys ["idempotency_key", "etag", "body"] &&
        (pending.get "idempotency_key").is idempotencyKey && (pending.get "etag").is etag &&
        applyBody jsonLength (pending.get "body") &&
        decide (jsonLength (pending.get "body") ≤ 16384) then
      some (pending.get "body")
    else none

end

/-- The statuses that are named in the code of a failure. -/
def knownStatuses : List Nat :=
  [400, 401, 403, 404, 409, 412, 413, 415, 428, 429, 500, 502, 503, 504]

def safeStatus (status : Nat) : String :=
  if knownStatuses.contains status then "http_" ++ toString status else "unexpected_http_status"

/-- Whether the answer was a replay, or the code of the failure. -/
def finishPut (status : Nat) (header : Option String) (response request : Value)
    (idempotencyKey etag : String) : Except String Bool :=
  if status ≠ 200 then .error (safeStatus status)
  else if header ≠ some etag then .error "invalid_response_etag"
  else
    let same (name : String) := (response.get name).looseEq (request.get name)
    let named := response.hasExactKeys ["schema_version", "result_id", "idempotency_key",
      "revision", "snapshot_sha256", "outcome", "active_profile", "accepted_at", "replayed"]
    let resultId := match response.get "result_id" with
      | .int n => decide (1 ≤ n)
      | _ => false
    if named && (response.get "schema_version").looseEq (.int 1) && resultId &&
        (response.get "idempotency_key").is idempotencyKey && same "revision" &&
        same "snapshot_sha256" && same "outcome" && same "active_profile" &&
        (response.get "accepted_at").isString 1 64 then
      match response.get "replayed" with
      | .bool replayed => .ok replayed
      | _ => .error "invalid_apply_response"
    else .error "invalid_apply_response"

/-- What the adapter prints for the outcome of `finishPut`, with its exit status. -/
def putReply : Except String Bool → AdapterReply
  | .ok replayed =>
    .finished (.object [("ok", .bool true), ("status", .int 200), ("replayed", .bool replayed)]) 0
  | .error code => .finished (.object [("ok", .bool false), ("code", .string code)]) 1

end Http

end AutoVPN
