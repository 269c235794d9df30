import AutoVPN.Lib.Program
import AutoVPN.Router.Snapshot
import Mathlib.Data.List.Infix

/-! The server's side of an apply result: validation of the body, the
transactions on the stored results, and the endpoint that runs them. -/

namespace AutoVPN

/-- What the server takes from Python's library: lower case, the control
categories of Unicode, `json.dumps` with sorted keys and SHA-256. -/
structure PythonLibrary where
  lower : String → String
  isControl : Char → Bool
  canonicalJson : Value → String
  sha256 : String → String

namespace Server

structure ValidatedRouterApplyResult where
  revision : Nat
  snapshotSha256 : String
  outcome : String
  activeProfile : Option String
  capabilities : Value
  diagnostics : Value
  bodySha256 : String

def capabilityNames : List String :=
  ["vless", "hysteria2", "amneziawg", "zapret", "policy_routing"]

def contains (text word : String) : Bool := decide (word.toList <:+: text.toList)

def sensitiveMarkers : List String :=
  ["-----begin ", "authorization:", "bearer ", "password=", "private key", "presharedkey",
    "avrt_", "vless://", "hy2://", "vpn://"]

def forbiddenKeyParts : List String :=
  ["authorization", "cookie", "password", "privatekey", "private_key", "preshared", "secret",
    "token"]

def secretValuePattern : Pattern := [.between (alphanumericOr ['_', '+', '/', '=', '-']) 32 256]

/-- `[a-z][a-z0-9_]{0,63}`. -/
def statusPattern : Pattern := [.exactly Char.isLower 1, .between isCodeChar 0 63]

section

variable (py : PythonLibrary)

def hasControlCharacter (s : String) : Bool := s.toList.any py.isControl

def hasMarkup (s : String) : Bool := s.toList.any fun c => c == '<' || c == '>'

def looksSensitive (s : String) : Bool :=
  sensitiveMarkers.any (contains (py.lower s)) || uuidPattern.matches s ||
    secretValuePattern.matches s

def without (c : Char) (cs : List Char) : List Char := cs.filter (· != c)

def normalizedKey (key : String) : List Char :=
  (py.lower key).toList.map fun c => if c == '-' then '_' else c

def forbiddenKey (key : String) : Bool :=
  forbiddenKeyParts.any fun part =>
    decide (part.toList <:+: normalizedKey py key) ||
      decide (without '_' part.toList <:+: without '_' (normalizedKey py key))

/-- The complaint about a diagnostic string, if there is one. -/
def stringComplaint (s : String) : Option String :=
  if s.length > 500 then some "Diagnostic string is too long"
  else if hasControlCharacter py s then some "Diagnostics contain control characters"
  else if hasMarkup s then some "Diagnostics cannot contain HTML markup"
  else if looksSensitive py s then some "Diagnostics may contain secret material"
  else none

def keyComplaint (key : String) : Option String :=
  if key.isEmpty || key.length > 64 then some "Diagnostic key is invalid"
  else if hasControlCharacter py key || hasMarkup key then some "Diagnostic key is invalid"
  else if forbiddenKey py key then some "Diagnostic key may contain secret material"
  else none

def isStatus (key : String) (v : Value) : Bool :=
  (normalizedKey py key == "code".toList || normalizedKey py key == "stage".toList) &&
    v.matches statusPattern

def complain {α : Type} (complaint : Option String) (otherwise : Except String α) :
    Except String α :=
  match complaint with
  | some message => .error message
  | none => otherwise

/-- The checks made on entry to every value; a value that passes is kept as it is. -/
def enter (depth budget : Nat) : Except String Nat :=
  if depth > 5 then .error "Diagnostics nesting is too deep"
  else if budget + 1 > 128 then .error "Diagnostics contain too many values"
  else .ok (budget + 1)

mutual

def validateDiagnosticValue (depth budget : Nat) : Value → Except String Nat
  | .string s => (enter depth budget).bind fun b => complain (stringComplaint py s) (.ok b)
  | .array items => (enter depth budget).bind fun b =>
      if items.length > 32 then .error "Diagnostic list is too long"
      else validateDiagnosticItems (depth + 1) b items
  | .object fields => (enter depth budget).bind fun b =>
      if fields.length > 32 then .error "Diagnostic object has too many keys"
      else validateDiagnosticFields (depth + 1) b fields
  | .infinite _ => (enter depth budget).bind fun _ =>
      .error "Diagnostics contain a non-finite number"
  | _ => enter depth budget

def validateDiagnosticItems (depth budget : Nat) : List Value → Except String Nat
  | [] => .ok budget
  | item :: items =>
    (validateDiagnosticValue depth budget item).bind fun b => validateDiagnosticItems depth b items

def validateDiagnosticFields (depth budget : Nat) : List (String × Value) → Except String Nat
  | [] => .ok budget
  | (key, value) :: fields =>
    complain (keyComplaint py key) <|
      if isStatus py key value then validateDiagnosticFields depth budget fields
      else
        (validateDiagnosticValue depth budget value).bind fun b =>
          validateDiagnosticFields depth b fields

end

/-- Equality with an integer, where `True` is `1` and `1.0` is `1`. -/
def equalsInt (v : Value) (n : Int) : Bool :=
  match v with
  | .bool b => (if b then 1 else 0) == n
  | .int m => m == n
  | .double d => d == n
  | _ => false

def outcomes : List String := ["APPLIED", "DEGRADED", "FAILED"]

def validateRouterApplyResult (payload : Value) : Except String ValidatedRouterApplyResult :=
  if !payload.isObject then .error "Request body must be a JSON object"
  else if !payload.hasExactKeys ["schema_version", "revision", "snapshot_sha256", "outcome",
      "active_profile", "capabilities", "diagnostics"] then
    .error "Request body has an invalid schema"
  else if !equalsInt (payload.get "schema_version") 1 then
    .error "Unsupported apply result schema version"
  else
    match payload.get "revision" with
    | .int (.ofNat revision) =>
      match payload.get "snapshot_sha256" with
      | .string sha256 =>
        if !sha256Pattern.matches sha256 then .error "snapshot_sha256 must be lowercase SHA-256"
        else
          match payload.get "outcome" with
          | .string outcome =>
            if !outcomes.contains outcome then .error "Invalid apply outcome"
            else
              let profile := payload.get "active_profile"
              let capabilities := payload.get "capabilities"
              let diagnostics := payload.get "diagnostics"
              if !profile.isNull && !profile.matches profilePattern then
                .error "active_profile is invalid"
              else if !capabilities.hasExactKeys capabilityNames then
                .error "capabilities has an invalid schema"
              else if !capabilityNames.all fun name => (capabilities.get name).isBool then
                .error "Capability values must be booleans"
              else if !diagnostics.isObject then .error "diagnostics must be a JSON object"
              else
                (validateDiagnosticValue py 0 0 diagnostics).bind fun _ =>
                  if (py.canonicalJson diagnostics).utf8ByteSize > 8192 then
                    .error "Diagnostics are too large"
                  else
                    let normalizedCapabilities : Value :=
                      .object (capabilityNames.map fun name => (name, capabilities.get name))
                    let normalized : Value :=
                      .object [("schema_version", .int 1), ("revision", .int revision),
                        ("snapshot_sha256", .string sha256), ("outcome", .string outcome),
                        ("active_profile", profile), ("capabilities", normalizedCapabilities),
                        ("diagnostics", diagnostics)]
                    .ok
                      { revision := revision
                        snapshotSha256 := sha256
                        outcome := outcome
                        activeProfile := match profile with
                          | .string s => some s
                          | _ => none
                        capabilities := normalizedCapabilities
                        diagnostics := diagnostics
                        bodySha256 := py.sha256 (py.canonicalJson normalized) }
          | _ => .error "Invalid apply outcome"
      | _ => .error "snapshot_sha256 must be lowercase SHA-256"
    | _ => .error "revision must be a non-negative integer"

end

end Server

end AutoVPN
