import AutoVPN.Lib.Crew
import AutoVPN.Lib.Lines
import AutoVPN.Lib.Pattern
import AutoVPN.Lib.Value

/-! The updater of the router: a check fetches and verifies a release of the controller, a queue
approves the checked plan, and a worker installs it behind a gate. -/

namespace AutoVPN

/-- How a process of the updater ends before its end: without a word in the state file, with a
failure written there, or cut off by `set -e`. -/
inductive UpdateExit
  | rejected (code : String) (status : Nat)
  | failed (code : String)
  | aborted

/-- What the updater finds at the path of its gate. -/
inductive GateFile
  | absent
  | unusable
  | file (content : Value)

/-- The contents of a downloaded package. -/
abbrev Package := String

/-- What the router says of itself, before any of it is checked. -/
structure BoardFacts where
  board : Value
  architecture : String
  kernelRelease : String
  kernel : Value

/-- The receipt of the release and the hash of the signing key, where both are plain files. -/
structure ReceiptFacts where
  receipt : Value
  keyHash : String

/-- The commands; `writeState` and `writeGate` are the whole functions, `spawn` the copy of the
script as a worker. -/
inductive UpdateCall
  | lockUpdate
  | lockController
  | readGate
  | gateExists
  | maintenance
  | workdir
  | receiptFacts
  | boardFacts
  | space
  | manifest (file url : String)
  | packageVersion
  | compare (a b : String)
  | package (file url : String)
  | sha256 (p : Package)
  | verify (p : Package)
  | metadata (p : Package)
  | uptime
  | readState
  | writeState (content : Value)
  | writeGate (content : Value)
  | networkGate
  | uciClean
  | disable
  | commit
  | sync
  | failClosed
  | prepareKeys
  | simulate (p : Package)
  | install (p : Package)
  | recordVersion (version : String)
  | spawn (name : String)

abbrev UpdateCall.Answer : UpdateCall → Type
  | readGate => GateFile
  | receiptFacts => Option ReceiptFacts
  | boardFacts => Option BoardFacts
  | manifest _ _ => Option Value
  | packageVersion => Option String
  | compare _ _ => Option String
  | package _ _ => Option Package
  | sha256 _ => Option String
  | metadata _ => Option Value
  | uptime => Option Nat
  | readState => Option Value
  | simulate _ => Option String
  | _ => Bool

abbrev Update (α : Type) := Program.Raising UpdateExit UpdateCall UpdateCall.Answer α

/-- `shown` is the text of a structure, and the others are what the tools compute. -/
structure UpdateEnvironment where
  shown : Value → String
  sha256 : Package → String
  isSigned : Package → Bool
  metadata : Package → Value
  compare : String → String → String

namespace UpdateHelper

def ask (c : UpdateCall) : Update c.Answer := ExceptT.mk (.call c fun r => .done (.ok r))

def abort {α : Type} : Update α := throw .aborted

def orAbort (ok : Bool) : Update Unit := if ok then return () else abort

/-! Texts. -/

/-- `grep -E` with an anchored pattern: any line of the text matches. -/
def grep (p : Pattern) (s : String) : Bool := (Lines.lines s.toList).any p.matchesList

def literal (s : String) : Pattern := s.toList.map .char

def isLower (c : Char) : Bool := 'a' ≤ c && c ≤ 'z'

def isUpper (c : Char) : Bool := 'A' ≤ c && c ≤ 'Z'

def isDigit (c : Char) : Bool := '0' ≤ c && c ≤ '9'

def isHex (c : Char) : Bool := isDigit c || ('a' ≤ c && c ≤ 'f')

def isAlnum (c : Char) : Bool := isLower c || isUpper c || isDigit c

def among (extra : String) (c : Char) : Bool := isAlnum c || extra.toList.contains c

def isVersionChar (c : Char) : Bool := among "._+~-" c

def isBoardChar (extra : String) (c : Char) : Bool :=
  isLower c || isDigit c || extra.toList.contains c

def validHash (s : String) : Bool := grep [.exactly isHex 64] s

def toLower (c : Char) : Char := if isUpper c then Char.ofNat (c.toNat + 32) else c

def validTag (s : String) : Bool :=
  grep [.exactly isAlnum 1, .between (among "._-") 0 79] s &&
    !(["latest", "main", "master", "head"].contains (String.ofList (s.toList.map toLower)))

def validVersion (s : String) : Bool := grep [.many isVersionChar 1] s

def validGateVersion (s : String) : Bool := grep [.between isVersionChar 1 128] s

def validFilename (s : String) : Bool :=
  grep (literal "autovpn-controller-" ++ [.many isVersionChar 1] ++ literal ".apk") s

def validId (s : String) : Bool :=
  grep [.many isDigit 1, .char '-', .exactly isHex 12] s

def basePattern : Pattern :=
  literal "https://github.com/" ++ [.many (among "_-") 1, .char '/', .many (among "_.-") 1] ++
    literal "/releases/download/" ++ [.many (among "._-") 1]

def repoPattern : Pattern := [.many (among "_-") 1, .char '/', .many (among "_.-") 1]

/-- What stands before the first `marker`. -/
def cutAt (marker : List Char) : List Char → List Char
  | [] => []
  | c :: cs => if marker.isPrefixOf (c :: cs) then [] else c :: cutAt marker cs

/-- The repository of a release, `${base#https://github.com/}` up to its `/releases/download/`. -/
def repoOf (base : String) : String :=
  let start := "https://github.com/".toList
  let rest := if start.isPrefixOf base.toList then base.toList.drop start.length else base.toList
  String.ofList (cutAt "/releases/download/".toList rest)

def unslash (s : String) : String :=
  String.ofList (s.toList.map fun c => if c = '/' then '-' else c)

def safeFile (s : String) : Bool := s ≠ "" && s.toList.all isVersionChar

section

variable (e : UpdateEnvironment)

/-- `field`, for the last step of a path. -/
def field (v : Value) (key : String) : Option String :=
  match v.get key with
  | .null => none
  | .string s => some s
  | .int n => some (toString n)
  | w => some (e.shown w)

def fieldText (v : Value) (key : String) : String := (field e v key).getD ""

end

def first (v : Value) : Value :=
  match v with
  | .array (x :: _) => x
  | _ => .null

/-! What is written. -/

def entry (phase code : String) (extra : List (String × Value)) : Value :=
  .object ([("schema_version", .int 1), ("phase", .string phase), ("code", .string code)] ++ extra)

/-- `fail` of a process that has no gate of its own. -/
def fail {α : Type} (code : String) : Update α := do
  orAbort (← ask (.writeState (entry "failed" code [])))
  throw (.failed code)

/-- `fail` of a worker with a gate. -/
def failGated {α : Type} (extra : List (String × Value)) (code : String) : Update α := do
  orAbort (← ask (.writeGate (entry "failed" code extra)))
  orAbort (← ask (.writeState (entry "failed" code extra)))
  throw (.failed code)

def need (ok : Bool) (code : String) : Update Unit := if ok then return () else fail code

def needSome {α : Type} (o : Option α) (code : String) : Update α :=
  match o with
  | some a => return a
  | none => fail code

def needGated (extra : List (String × Value)) (ok : Bool) (code : String) : Update Unit :=
  if ok then return () else failGated extra code

/-! The checks of a release. -/

structure Release where
  repo : String
  keyHash : String

structure Board where
  release : String
  target : String
  architecture : String
  kernelRelease : String
  kernelPackage : String

section

variable (e : UpdateEnvironment)

def receipt (facts : ReceiptFacts) : Option Release := do
  guard (fieldText e facts.receipt "schema_version" = "1")
  let base ← field e facts.receipt "release_base"
  let keyHash ← field e facts.receipt "signing_key_sha256"
  guard (grep basePattern base && validHash keyHash && facts.keyHash = keyHash &&
    grep repoPattern (repoOf base))
  return ⟨repoOf base, keyHash⟩

def board (facts : BoardFacts) : Option Board := do
  let release ← field e (facts.board.get "release") "version"
  let target ← field e (facts.board.get "release") "target"
  let package ← field e (first facts.kernel) "version"
  guard (fieldText e (first facts.kernel) "name" = "kernel" &&
    fieldText e (first facts.kernel) "arch" = facts.architecture &&
    grep (literal "25.12." ++ [.many isDigit 1]) release &&
    grep [.many (isBoardChar "_") 1, .char '/', .many (isBoardChar "_-") 1] target &&
    grep [.many (isBoardChar "_-") 1] facts.architecture && validVersion package)
  return ⟨release, target, facts.architecture, facts.kernelRelease, package⟩

/-- The selected entry of the manifest. -/
structure Selected where
  filename : String
  sha256 : String
  version : String
  deriving DecidableEq

/-- The packages up to the first one without a name, at most four. -/
def listed (manifest : Value) : List Value :=
  match manifest.get "packages" with
  | .array items => (items.take 4).takeWhile fun v => fieldText e v "name" ≠ ""
  | _ => []

def readEntry (v : Value) : Update Selected := do
  let filename ← needSome (field e v "filename") "invalid_update_manifest"
  let sha ← needSome (field e v "sha256") "invalid_update_manifest"
  let version ← needSome (field e v "version") "update_manifest_missing_package_version"
  return ⟨filename, sha, version⟩

def readEntries : List Value → Update (List Selected)
  | [] => return []
  | v :: rest => do
    let selected ← readEntry e v
    let others ← readEntries rest
    return selected :: others

def select (manifest : Value) : Update Selected := do
  match ← readEntries e ((listed e manifest).filter fun v =>
    fieldText e v "name" = "autovpn-controller") with
  | [selected] => return selected
  | _ => fail "update_not_controller_only"

/-- The failed update that a check recovers. -/
structure Interrupted where
  tag : String
  version : String

/-- The gate that a check finds, unless it stands in its way. -/
def inspectGate : Update (Option Interrupted) := do
  match ← ask .readGate with
  | .absent => return none
  | .unusable => fail "invalid_update_gate"
  | .file g => do
    need (fieldText e g "schema_version" = "1") "invalid_update_gate"
    need (["running", "failed"].contains (fieldText e g "phase")) "update_in_progress"
    need (validTag (fieldText e g "tag")) "invalid_update_gate"
    need (validGateVersion (fieldText e g "version")) "invalid_update_gate"
    return some ⟨fieldText e g "tag", fieldText e g "version"⟩

def fetchManifest (tag : String) : Update (String × Value × Board) := do
  let facts ← needSome (← ask .receiptFacts) "invalid_release_receipt"
  let release ← needSome (receipt e facts) "invalid_release_receipt"
  let raw ← needSome (← ask .boardFacts) "incompatible_router"
  let b ← needSome (board e raw) "incompatible_router"
  need (← ask .space) "insufficient_update_space"
  let base := "https://github.com/" ++ release.repo ++ "/releases/download/" ++ tag
  let file :=
    "manifest-" ++ b.release ++ "-" ++ unslash b.target ++ "-" ++ b.architecture ++ ".json"
  need (safeFile file) "update_manifest_download_failed"
  let manifest ← needSome (← ask (.manifest file (base ++ "/" ++ file)))
    "update_manifest_download_failed"
  need (fieldText e manifest "schema_version" = "1") "invalid_update_manifest"
  need (fieldText e manifest "release" = b.release) "update_release_mismatch"
  need (fieldText e manifest "target" = b.target) "update_target_mismatch"
  need (fieldText e manifest "architecture" = b.architecture) "update_architecture_mismatch"
  need (fieldText e manifest "kernel_release" = b.kernelRelease) "update_kernel_mismatch"
  need (fieldText e manifest "kernel_package" = b.kernelPackage) "update_kernel_abi_mismatch"
  need (fieldText e manifest "signing_key_sha256" = release.keyHash) "update_signing_key_mismatch"
  return (base, manifest, b)

def gateSha : GateFile → String
  | .file g => fieldText e g "sha256"
  | _ => ""

/-- The version is newer than that of the interrupted update, or the same of the same release. -/
def checkInterrupted (tag : String) (g : Interrupted) (selected : Selected) : Update Unit := do
  let comparison ← needSome (← ask (.compare g.version selected.version))
    "update_version_compare_failed"
  if comparison = "<" then return ()
  else if comparison = "=" then
    need (g.tag = tag && gateSha e (← ask .readGate) = selected.sha256) "update_plan_changed"
  else fail "update_not_newer"

/-- The version is newer, or finishes the update that was interrupted. -/
def checkNewer (tag : String) (gate : Option Interrupted) (selected : Selected) : Update Unit := do
  let current ← needSome (← ask .packageVersion) "controller_not_installed"
  let comparison ← needSome (← ask (.compare current selected.version))
    "update_version_compare_failed"
  match gate with
  | none => need (comparison = "<") "update_not_newer"
  | some g => do
    checkInterrupted e tag g selected
    need (comparison = "<" || comparison = "=") "update_not_newer"

/-- The package, once its bytes and what it says of itself are those of the plan. -/
def fetchPackage (base architecture : String) (selected : Selected) : Update Package := do
  need (safeFile selected.filename) "update_package_download_failed"
  let p ← needSome (← ask (.package selected.filename (base ++ "/" ++ selected.filename)))
    "update_package_download_failed"
  let actual ← needSome (← ask (.sha256 p)) "update_package_hash_failed"
  need (actual = selected.sha256) "update_package_hash_mismatch"
  orAbort (← ask .prepareKeys)
  need (← ask (.verify p)) "update_package_signature_invalid"
  let metadata ← needSome (← ask (.metadata p)) "update_package_metadata_invalid"
  let info := metadata.get "info"
  need (fieldText e info "name" = "autovpn-controller") "update_package_name_mismatch"
  need (fieldText e info "version" = selected.version) "update_package_version_mismatch"
  let arch ← needSome (field e info "arch") "update_package_architecture_invalid"
  need (arch = "noarch" || arch = "all" || arch = architecture)
    "update_package_architecture_mismatch"
  return p

/-- The plan that a check leaves in the state file. -/
def planEntry (tag : String) (selected : Selected) (recovery : Bool) : Update Unit := do
  let up ← ask .uptime
  let id := (up.elim "" toString) ++ "-" ++ String.ofList (selected.sha256.toList.take 12)
  match ← ask .uptime with
  | none => abort
  | some now =>
    orAbort (← ask (.writeState (entry "checked" "" [("id", .string id), ("tag", .string tag),
      ("version", .string selected.version), ("filename", .string selected.filename),
      ("sha256", .string selected.sha256), ("expires_uptime", .int (now + 900)),
      ("recovery", .int (if recovery then 1 else 0))])))

/-- `check_now` once the update lock is held. -/
def checkLocked (tag : String) : Update (Selected × Package) := do
  need (validTag tag) "invalid_update_tag"
  let gate ← inspectGate e
  need (!(← ask .maintenance)) "maintenance_in_progress"
  need (← ask .workdir) "update_workdir_failed"
  let (base, manifest, b) ← fetchManifest e tag
  let selected ← select e manifest
  need (validFilename selected.filename) "unsafe_update_filename"
  need (validHash selected.sha256) "invalid_update_hash"
  need (validVersion selected.version) "invalid_update_version"
  checkNewer e tag gate selected
  let p ← fetchPackage e base b.architecture selected
  planEntry tag selected gate.isSome
  return (selected, p)

def checkNow (tag : String) : Update Unit := do
  if !validTag tag then throw (.rejected "invalid_update_tag" 1)
  else if !(← ask .lockUpdate) then throw (.rejected "update_busy" 75)
  else do
    let _ ← checkLocked e tag
    return ()

/-- An approved plan. -/
structure Plan where
  tag : String
  selected : Selected
  expires : Int
  recovery : Bool

/-- A number, as the shell compares it. -/
def number? : Value → Option Int
  | .int n => some n
  | .string s => s.toInt?
  | _ => none

/-- `load_plan`, from the content of the state file and the time. -/
def loadPlan (id : String) (state : Value) (now : Nat) : Option (Plan × String) := do
  guard (validId id && fieldText e state "schema_version" = "1")
  let phase ← field e state "phase"
  guard (["checked", "queued"].contains phase && fieldText e state "id" = id)
  let tag ← field e state "tag"
  let version ← field e state "version"
  let filename ← field e state "filename"
  let sha ← field e state "sha256"
  let expires ← number? (state.get "expires_uptime")
  let recovery ← field e state "recovery"
  guard ((recovery = "0" || recovery = "1") && validTag tag && validHash sha &&
    (now : Int) ≤ expires)
  return (⟨tag, ⟨filename, sha, version⟩, expires, recovery = "1"⟩, phase)

def readPlan (id : String) : Update (Option (Plan × String)) := do
  match ← ask .readState with
  | none => return none
  | some state =>
    match ← ask .uptime with
    | none => return none
    | some now => return loadPlan e id state now

/-! The worker. -/

def startsWithPattern (p : Pattern) (line : List Char) : Bool :=
  (p ++ [Piece.many (fun _ => true) 0]).matchesList line

def isBlank (c : Char) : Bool := c = ' ' || c = '\t' || c = '\r' || c.toNat = 11 || c.toNat = 12

def planLines (output : String) : List (List Char) :=
  (Lines.lines output.toList).filter (startsWithPattern
    [Piece.char '(', .many isBlank 0, .many isDigit 1, .char '/', .many isDigit 1, .char ')',
      .char ' '])

/-- The simulation changes the controller and nothing else. -/
def onlyController (output : String) : Bool :=
  (planLines output).length == 1 && (planLines output).any fun line =>
    ["Installing", "Upgrading", "Replacing", "Reinstalling"].any fun verb =>
      startsWithPattern (literal ("(1/1) " ++ verb ++ " autovpn-controller ")) line

def gateExtra (id : String) (plan : Plan) : List (String × Value) :=
  [("id", .string id), ("tag", .string plan.tag), ("version", .string plan.selected.version),
    ("sha256", .string plan.selected.sha256)]

def readyExtra (id installed : String) (plan : Plan) : List (String × Value) :=
  [("id", .string id), ("tag", .string plan.tag), ("version", .string plan.selected.version),
    ("installed_version", .string installed)]

/-- From the gate on. -/
def apply (id : String) (plan : Plan) (p : Package) : Update Unit := do
  let extra := gateExtra id plan
  orAbort (← ask (.writeGate (entry "running" "" extra)))
  orAbort (← ask (.writeState (entry "running" "" extra)))
  needGated extra (← ask .disable) "update_disable_failed"
  needGated extra (← ask .commit) "update_disable_failed"
  orAbort (← ask .sync)
  needGated extra (← ask .failClosed) "update_fail_closed_failed"
  needGated extra (← ask .space) "insufficient_update_space"
  orAbort (← ask .prepareKeys)
  match ← ask (.simulate p) with
  | none => failGated extra "update_dependency_plan_failed"
  | some output => do
    needGated extra (planLines output ≠ []) "update_recovery_needs_newer_release"
    needGated extra (onlyController output) "update_dependency_plan_unsafe"
    needGated extra (← ask (.install p)) "update_apk_install_failed"
    match ← ask .packageVersion with
    | none => failGated extra "update_installed_version_unknown"
    | some installed => do
      needGated extra (installed = plan.selected.version) "update_installed_version_mismatch"
      needGated extra (validVersion installed) "update_receipt_write_failed"
      needGated extra (← ask (.recordVersion installed)) "update_receipt_write_failed"
      orAbort (← ask (.writeGate (entry "ready" "" (readyExtra id installed plan))))
      orAbort (← ask (.writeState (entry "ready" "" (readyExtra id installed plan))))

def worker (id : String) : Update Unit := do
  if !(← ask .lockUpdate) then throw (.rejected "update_busy" 75)
  else do
    need (← ask .lockController) "update_busy"
    need (!(← ask .maintenance)) "maintenance_in_progress"
    match ← readPlan e id with
    | none => fail "stale_update_plan"
    | some (plan, _) => do
      need (!(← ask .gateExists) || plan.recovery) "update_in_progress"
      let (selected, p) ← checkLocked e plan.tag
      need (selected = plan.selected) "update_plan_changed"
      need (← ask .networkGate) "update_network_not_safe"
      need (← ask .uciClean) "update_config_not_clean"
      apply id plan p

def checkQueue (tag : String) : Update Unit := do
  if !validTag tag then throw (.rejected "invalid_update_tag" 1)
  else if !(← ask .lockUpdate) then throw (.rejected "update_busy" 75)
  else do
    orAbort (← ask (.spawn "update-check-worker"))
    orAbort (← ask (.writeState (entry "checking" "" [("tag", .string tag)])))

def queue (id : String) : Update Unit := do
  if !(← ask .lockUpdate) then throw (.rejected "update_busy" 75)
  else
    match ← readPlan e id with
    | none => throw (.rejected "stale_update_plan" 1)
    | some (plan, phase) =>
      if phase ≠ "checked" then throw (.rejected "update_already_queued" 1)
      else do
        orAbort (← ask (.spawn "update-worker"))
        orAbort (← ask (.writeState (entry "queued" "" (("id", .string id) ::
          ("tag", .string plan.tag) :: ("version", .string plan.selected.version) ::
          ("filename", .string plan.selected.filename) ::
          ("sha256", .string plan.selected.sha256) :: ("expires_uptime", .int plan.expires) ::
          ("recovery", .int (if plan.recovery then 1 else 0)) :: []))))

end

/-- The processes that the helper is started as. -/
inductive Started (e : UpdateEnvironment) :
    Program UpdateCall UpdateCall.Answer (Except UpdateExit Unit) → Prop
  | checkQueue (tag : String) : Started e (checkQueue tag).run
  | checkNow (tag : String) : Started e (checkNow e tag).run
  | queue (id : String) : Started e (queue e id).run
  | worker (id : String) : Started e (worker e id).run

end UpdateHelper

end AutoVPN
