import AutoVPN.Lib.Mapping
import AutoVPN.Lib.Program
import AutoVPN.Router.Bundle
import AutoVPN.Router.JournalValid

/-! The helper that keeps the bundles of a lane on the disk: what is prepared, what is current and what
a rollback goes back to, with the files that the runtime is started from. -/

namespace AutoVPN

inductive RuntimeAction
  | prepare
  | activate
  | verify
  | status
  | rollback
  | restore
  | disableAwg
  | fallbackAwg
  | probeInfo
  | probeInfoLive
  | selectProfile
  | commitProfile
  | other (name : String)
  deriving DecidableEq

/-- The files of a lane. -/
inductive RuntimeFile
  | candidate
  | awg
  | zapret
  | prepared
  | current
  | previous
  | failover
  | run
  deriving DecidableEq

inductive RuntimeCall
  /-- The journal, where it is valid. -/
  | journal
  | routerId
  /-- The policy of the settings. -/
  | policy
  | read (file : RuntimeFile)
  | write (file : RuntimeFile) (value : Value)

abbrev RuntimeCall.Answer : RuntimeCall → Type
  | journal => Option State
  | routerId => Value
  | policy => Value
  | read _ => Value
  | write _ _ => Bool

abbrev RuntimeProgram (α : Type) := Program RuntimeCall RuntimeCall.Answer α

namespace RuntimeHelper

open Rendering

def ask (c : RuntimeCall) : RuntimeProgram c.Answer := .call c .done

def read (file : RuntimeFile) : RuntimeProgram Value := ask (.read file)

/-- The files in their order, up to the first that cannot be written. -/
def writeAll : List (RuntimeFile × Value) → RuntimeProgram Bool
  | [] => return true
  | (file, value) :: rest => do
    if ← ask (.write file value) then writeAll rest
    else return false

def failure (code : String) : Value := .object [("ok", .bool false), ("code", .string code)]

def journalPath : Pattern :=
  "/etc/autovpn/".toList.map .char ++ [.many (alphanumericOr ['_', '.', '-']) 1] ++
    "/journal.json".toList.map .char

def profiles : List String := ["vless-reality", "hysteria2", "amneziawg"]

def fixedProfile (value : Value) : Value :=
  if value.isObject && (value.get "profile").isIn profiles then value.get "profile" else .null

/-- The phases in which the runtime is that of the desired entry, or of the applied one. -/
def activeEntry (state : State) : Option Entry :=
  match state.phase, state.desired, state.applied with
  | .activating, some entry, _ | .verifying, some entry, _ => some entry
  | .idle, _, some entry | .rollingBack, _, some entry => some entry
  | _, _, _ => none

def probeEntry : State → Option Entry := activeEntry

def optionalAwgEntry : State → Option Entry := activeEntry

def expectedVersion (entry : Entry) : Int := if hasLanes entry.snapshot.value then 4 else 2

def hasVersion (value : Value) (version : Int) : Bool := (value.get "version").looseEq (.int version)

/-- `%J` prints both alike. -/
def same (a b : Value) : Bool := Json.print a == Json.print b

def withoutAwg (policy : Value) : Value := policy.put "awg_available" (.bool false)

def sameCommitPolicy (current staged : Value) : Bool :=
  same staged current ||
    ((current.get "awg_available").isTrue && same staged (withoutAwg current))

/-- The router of an entry is another than that of the settings. -/
def foreign (state : State) (routerId : Value) : Bool :=
  [state.desired, state.applied, state.lastGood].any fun slot => slot.any fun entry =>
    !(entry.snapshot.value.get "router_id").looseEq routerId

section

variable (jsonLength : Value → Nat) (lane : String)

def unsupported (entry : Entry) : Bool := lane == "vpn_zapret" && !hasLanes entry.snapshot.value

def emptyResult : Value :=
  .object [("ok", .bool true), ("empty", .bool true), ("lane", .string lane),
    ("legacy_transport", .bool false)]

def response (value : Value) (fields : List (String × Value)) : Value :=
  .object ([("ok", .bool true)] ++ fields ++ [("lane", .string lane),
    ("legacy_transport", .bool ((value.get "version").toNumber?.any fun n => decide (n < 3)))])

def active (value : Value) : Value :=
  response lane value [("active_profile", value.get "profile"),
    ("capabilities", value.get "capabilities")]

/-- `runtime.bundle`; where nothing is to be run there is no value. -/
def make (entry : Entry) (policy preferred : Value) : Except Value Value :=
  match bundle jsonLength entry.encode policy preferred (some lane) with
  | .failed code => .error (failure code)
  | .empty _ => .ok .null
  | .ok value => .ok value

def isBundle (value : Value) (entry : Entry) : Bool :=
  matchesBundle jsonLength value entry.encode (some lane)

/-- `runtime.migratableBundle`: a bundle of version 3 that can be made again. -/
def migratableBundle (value : Value) (entry : Entry) : Bool :=
  value.isObject && hasVersion value 3 && (value.get "lane").is lane &&
    (value.get "router_id").looseEq (entry.snapshot.value.get "router_id") &&
    (value.get "etag").looseEq (.string entry.etag.1) &&
    (validatePolicy (value.get "policy")).isNone && (value.get "profile").isIn profiles &&
    match bundle jsonLength entry.encode (value.get "policy") (value.get "profile") (some lane) with
    | .ok rebuilt => hasVersion rebuilt 4 && (rebuilt.get "profile").looseEq (value.get "profile")
    | _ => false

def upgrade (value : Value) (entry : Entry) (preferred : Value) : Except Value Value :=
  let own := fixedProfile value
  let chosen := if own.isNull then preferred else own
  if hasLanes entry.snapshot.value then
    if hasVersion value 4 then .ok value
    else make jsonLength lane entry (value.get "policy") chosen
  else if !hasVersion value 1 then .ok value
  else make jsonLength lane entry (value.get "policy") chosen

/-- The profile to stay with: that of the current bundle, where it is the applied one. -/
def keptProfile (state : State) : RuntimeProgram Value := do
  let current ← read .current
  return if state.applied.any (isBundle jsonLength lane current) then fixedProfile current else .null

/-! Without AmneziaWG. -/

def suits (entry : Entry) (candidate value : Value) : Bool :=
  isBundle jsonLength lane value entry && hasVersion value (expectedVersion entry) &&
    same (value.get "config") candidate

def strip (fallback : Bool) (requested : Value) (entry : Entry) (chosen : Value)
    (file : RuntimeFile) : RuntimeProgram Value :=
  if !fallback && (chosen.get "profile").is "amneziawg" then
    return failure "active_awg_required"
  else if fallback && !((chosen.get "policy").get "selection").is "auto" then
    return failure "selection_not_auto"
  else
    let preferred := if fallback then requested else chosen.get "profile"
    match make jsonLength lane entry (withoutAwg (chosen.get "policy")) preferred with
    | .error _ => return failure "selected_vpn_unavailable"
    | .ok value =>
      if !fallback && !(value.get "profile").looseEq (chosen.get "profile") then
        return failure "selected_vpn_unavailable"
      else do
        let written ← writeAll [(.candidate, value.get "config"), (.awg, .null),
          (.zapret, value.get "zapret"), (if fallback then .failover else file, value)]
        return if written then active lane value else failure "runtime_write_failed"

def optionalAwg (fallback : Bool) (requested : Value) (state : State) : RuntimeProgram Value :=
  match optionalAwgEntry state with
  | none => return failure "invalid_phase"
  | some entry => do
    if unsupported lane entry then return emptyResult lane
    else
      let candidate ← read .candidate
      let failover ← read .failover
      if suits jsonLength lane entry candidate failover then
        strip jsonLength lane fallback requested entry failover .failover
      else
        let current ← read .current
        if suits jsonLength lane entry candidate current then
          strip jsonLength lane fallback requested entry current .current
        else return failure "runtime_bundle_mismatch"

/-! Probes and the choice between profiles. -/

/-- What `+` appends to a text for the values of a bundle. -/
def appended : Value → String
  | .int n => toString n
  | v => v.text

def probeInfo (current : Value) : Value :=
  response lane current [("active_profile", current.get "profile"),
    ("selection", .string (if ((current.get "policy").get "selection").is "auto" then "auto"
      else "manual")),
    ("candidates", current.get "candidates"),
    ("identity", .string (appended (current.get "etag") ++ ":" ++
      appended (current.get "attempt") ++ ":" ++ appended (current.get "profile")))]

def commit (requested : Value) (entry : Entry) (current : Value) : RuntimeProgram Value := do
  let staged ← read .failover
  let candidate ← read .candidate
  if !suits jsonLength lane entry candidate staged ||
      !(staged.get "profile").looseEq requested ||
      !((staged.get "policy").get "selection").is "auto" ||
      !sameCommitPolicy (current.get "policy") (staged.get "policy") then
    return failure "failover_bundle_mismatch"
  else
    let written ← writeAll [(.current, staged)]
    return if written then active lane staged else failure "runtime_write_failed"

def selectProfile (requested : Value) (entry : Entry) (current : Value) : RuntimeProgram Value :=
  match make jsonLength lane entry (current.get "policy") requested with
  | .error result => return result
  | .ok value => do
    let written ← writeAll [(.failover, value), (.candidate, value.get "config"),
      (.zapret, value.get "zapret"), (.awg, value.get "awg")]
    return if written then active lane value else failure "runtime_write_failed"

def choose (commits : Bool) (requested : Value) (entry : Entry) (current : Value) :
    RuntimeProgram Value :=
  if !requested.isIn profiles then return failure "unsupported_profile"
  else if !((current.get "policy").get "selection").is "auto" then
    return failure "selection_not_auto"
  else if !(current.get "candidates").items.any (·.looseEq requested) then
    return failure "selected_vpn_unavailable"
  else if commits then commit jsonLength lane requested entry current
  else selectProfile jsonLength lane requested entry current

def probing (action : RuntimeAction) (requested : Value) (state : State) : RuntimeProgram Value :=
  match probeEntry state with
  | none => return failure "invalid_phase"
  | some entry => do
    if unsupported lane entry then return emptyResult lane
    else
      let current ← read .current
      if !isBundle jsonLength lane current entry then return failure "runtime_bundle_mismatch"
      else if !hasVersion current (expectedVersion entry) then
        return failure "runtime_upgrade_required"
      else if action = .probeInfo then return probeInfo lane current
      else if action = .probeInfoLive then
        let run ← read .run
        return if same (current.get "config") run then probeInfo lane current
          else failure "runtime_bundle_mismatch"
      else choose jsonLength lane (action = .commitProfile) requested entry current

/-! The way of an entry: prepared, activated, verified, and taken back. -/

/-- The files that the runtime is started from. -/
def started (value : Value) : List (RuntimeFile × Value) :=
  [(.candidate, value.get "config"), (.awg, value.get "awg"), (.zapret, value.get "zapret")]

def finish (value : Value) (files : List (RuntimeFile × Value)) : RuntimeProgram Value := do
  let written ← writeAll files
  return if written then active lane value else failure "runtime_write_failed"

def prepare (state : State) (entry : Entry) : RuntimeProgram Value := do
  let preferred ← keptProfile jsonLength lane state
  let policy ← ask .policy
  match make jsonLength lane entry policy preferred with
  | .error result => return result
  | .ok value => finish lane value ((.prepared, value) :: started value)

/-- The stored bundle for an entry. -/
def activateStored (entry : Entry) : RuntimeProgram (Except String Value) := do
  let value ← read .prepared
  return if isBundle jsonLength lane value entry then .ok value else .error "runtime_bundle_mismatch"

def keptStored (entry : Entry) : RuntimeProgram (Except String Value) := do
  let value ← read .current
  return if isBundle jsonLength lane value entry then .ok value else .error "runtime_bundle_mismatch"

/-- A rollback may also go back to the bundle before, and to one that can be migrated. -/
def rollbackStored (entry : Entry) : RuntimeProgram (Except String Value) := do
  let value ← read .current
  if isBundle jsonLength lane value entry || migratableBundle jsonLength lane value entry then
    return .ok value
  else
    let value ← read .previous
    return if isBundle jsonLength lane value entry || migratableBundle jsonLength lane value entry
      then .ok value else .error "rollback_bundle_missing"

/-- The bundle that a rollback goes back to is kept before the current one is replaced. -/
def savePrevious (state : State) : RuntimeProgram (Option String) := do
  let current ← read .current
  if state.applied.any (isBundle jsonLength lane current) then
    let written ← writeAll [(.previous, current)]
    return if written then none else some "runtime_write_failed"
  else
    match state.applied with
    | none => return none
    | some applied =>
      if unsupported lane applied then return none
      else
        let previous ← read .previous
        return if isBundle jsonLength lane previous applied then none
          else some "rollback_bundle_missing"

def activate (state : State) (entry : Entry) : RuntimeProgram Value := do
  match ← activateStored jsonLength lane entry with
  | .error code => return failure code
  | .ok stored =>
    let preferred ← keptProfile jsonLength lane state
    match upgrade jsonLength lane stored entry preferred with
    | .error result => return result
    | .ok value =>
      if !(← writeAll [(.prepared, value)]) then return failure "runtime_write_failed"
      else
        match ← savePrevious jsonLength lane state with
        | some code => return failure code
        | none => finish lane value ((.current, value) :: started value)

def goBack (entry : Entry) : RuntimeProgram Value := do
  match ← rollbackStored jsonLength lane entry with
  | .error code => return failure code
  | .ok stored =>
    match upgrade jsonLength lane stored entry .null with
    | .error result => return result
    | .ok value => finish lane value ((.current, value) :: started value)

/-- Other actions look at the current bundle; those that only report write nothing. -/
def keep (reports : Bool) (entry : Entry) : RuntimeProgram Value := do
  match ← keptStored jsonLength lane entry with
  | .error code => return failure code
  | .ok stored =>
    match upgrade jsonLength lane stored entry .null with
    | .error result => return result
    | .ok value => finish lane value (if reports then [] else started value)

/-- The entry that an action is about. -/
def actionEntry (action : RuntimeAction) (state : State) : Option Entry :=
  if action = .prepare ∨ action = .activate ∨ action = .verify then state.desired else state.applied

def advance (action : RuntimeAction) (state : State) : RuntimeProgram Value :=
  match actionEntry action state with
  | none => return emptyResult lane
  | some entry =>
    if unsupported lane entry then return emptyResult lane
    else
      match action with
      | .prepare => prepare jsonLength lane state entry
      | .activate => activate jsonLength lane state entry
      | .rollback | .restore => goBack jsonLength lane entry
      | .verify | .status => keep jsonLength lane true entry
      | _ => keep jsonLength lane false entry

def act (action : RuntimeAction) (requested : Value) (state : State) : RuntimeProgram Value :=
  match action with
  | .disableAwg => optionalAwg jsonLength lane false requested state
  | .fallbackAwg => optionalAwg jsonLength lane true requested state
  | .probeInfo | .probeInfoLive | .selectProfile | .commitProfile =>
    probing jsonLength lane action requested state
  | _ => advance jsonLength lane action state

def run (action : RuntimeAction) (path : String) (requested : Value) : RuntimeProgram Value :=
  if (Lanes.find lane).isNone then return failure "invalid_lane"
  else if !journalPath.matches path then return failure "invalid_journal_path"
  else do
    match ← ask .journal with
    | none => return failure "journal_invalid"
    | some state =>
      let routerId ← ask .routerId
      if foreign state routerId then return failure "router_identity_mismatch"
      else act jsonLength lane action requested state

end

end RuntimeHelper

end AutoVPN
