import AutoVPN.Lib.Program
import AutoVPN.Router.DirectZapret

/-! The helper of the direct network: its actions as programs over the commands and files that they
use, and what these do to the filter's table and to the helper's own files. -/

namespace AutoVPN

/-- Commands and file operations that succeed or fail. -/
inductive DirectCommand
  | directory
  | write (name raw : String)
  | unlink (name : String)
  | checkRules (name : String)
  | loadRules (name : String)
  | start
  | stop
  | running
  /-- `/proc/net/netfilter/nfnetlink_queue` has the queue. -/
  | queued
  | modprobe
  | accounting
  /-- `/proc/sys/net/netfilter/nf_conntrack_acct` is on. -/
  | accounted
  /-- There certainly is no such file. -/
  | absent (path : String)
  | networkGate
  | access (name mode : String)
  | checkEngine
  | sleep
deriving DecidableEq

inductive DirectCall
  | command (c : DirectCommand)
  | read (name : String) (limit : Nat)
  /-- Whether the table is listed, where `nft list tables` succeeds. -/
  | listTables
  | listTable
  | option (group name : String)
  /-- The output of `ubus`, where it is JSON. -/
  | wanStatus

abbrev DirectCall.Answer : DirectCall → Type
  | command _ => Bool
  | read _ _ => Option String
  | listTables => Option Bool
  | listTable => Option String
  | option _ _ => Value
  | wanStatus => Option Value

abbrev Direct (α : Type) := Program DirectCall DirectCall.Answer α

namespace DirectZapret

def ask (c : DirectCall) : Direct c.Answer := .call c .done

def tell (c : DirectCommand) : Direct Bool := ask (.command c)

/-- The commands up to the first that fails. -/
def allOf : List DirectCommand → Direct Bool
  | [] => return true
  | c :: cs => do
    if ← tell c then allOf cs
    else return false

/-- `\s` of a regular expression. -/
def isBlank (c : Char) : Bool := c == ' ' || decide (9 ≤ c.toNat) && decide (c.toNat ≤ 13)

/-- `chain ownership_autovpn_direct_zapret_v1\s*\{`. -/
def ownership (raw : String) : Bool :=
  let marker := "chain ownership_autovpn_direct_zapret_v1".toList
  raw.toList.tails.any fun cs => marker.isPrefixOf cs &&
    (((cs.drop marker.length).dropWhile isBlank).head? == some '\x7b')

structure Listing where
  ok : Bool
  present : Bool
  raw : Option String

def table : Direct Listing := do
  match ← ask .listTables with
  | none => return ⟨false, false, none⟩
  | some false => return ⟨true, false, none⟩
  | some true =>
    let raw ← ask .listTable
    return ⟨raw.any ownership, true, raw⟩

def apply (raw : String) : Direct Bool := do
  if !(← allOf [.directory, .write "rules.nft" raw, .checkRules "rules.nft",
      .loadRules "rules.nft"]) then return false
  else
    let owned ← table
    if owned.ok && owned.present then tell (.write "canonical.nft" (owned.raw.getD ""))
    else return false

def cleanEnabledFiles : Direct Unit := do
  let _ ← tell (.unlink "nfqws.conf")
  let _ ← tell (.unlink "check.conf")
  let _ ← tell (.unlink "open.nft")

def closeGuard : Direct Bool := do
  let owned ← table
  if !owned.ok || owned.present && !owned.raw.any ownership then
    let _ ← tell .stop
    return false
  else
    let closed ← apply closedNft
    let stopped ← tell .stop
    if !closed then return false
    else
      cleanEnabledFiles
      if stopped then tell (.write "plan.json" "null\n")
      else return false

/-! The settings. -/

structure Setting where
  ok : Bool
  value : Value
  enabled : Option Bool

def isSwitch (v : Value) : Bool := v.isNull || v.isIn ["0", "1"]

def orText (v : Value) (text : String) : Value := if v.isNull then .string text else v

def intOf : Value → Value
  | .string s => .int (digitsValue s.toList)
  | v => v

def repeatsPattern : Pattern := [.exactly (fun c => decide ('1' ≤ c ∧ c ≤ '6')) 1]

/-- The device of the settings, or the one that the router reports. -/
def wanDevice : Direct Value := do
  let wan ← ask (.option "runtime" "wan_device")
  if wan.truthy then return wan
  else
    let status ← ask .wanStatus
    if status.any Value.isObject then return (status.getD .null).get "l3_device"
    else return .string ""

def setting : Direct Setting := do
  let enabled ← ask (.option "direct" "zapret_enabled")
  if !enabled.isNull && !enabled.is "0" && !enabled.is "1" then return ⟨false, .null, none⟩
  else if enabled.is "0" then return ⟨true, .null, some false⟩
  else
    let discordMedia ← ask (.option "direct" "discord_media")
    let stun ← ask (.option "direct" "stun")
    let webStrategy ← ask (.option "direct" "web_strategy")
    let quicMode ← ask (.option "direct" "quic_mode")
    let mediaStrategy ← ask (.option "direct" "media_strategy")
    let mediaRepeats ← ask (.option "direct" "media_repeats")
    let hasOptions := [webStrategy, quicMode, discordMedia, stun, mediaStrategy,
      mediaRepeats].any fun v => !v.isNull
    if !isSwitch discordMedia || !isSwitch stun ||
        !webStrategy.isNull && !webStrategy.isIn webStrategies ||
        !quicMode.isNull && !quicMode.isIn quicModes ||
        !mediaStrategy.isNull && !mediaStrategy.isIn ["fake", "fake_badsum"] ||
        !mediaRepeats.isNull && !mediaRepeats.matches repeatsPattern then
      return ⟨false, .null, none⟩
    else
      let wan ← wanDevice
      let value := if hasOptions then plan wan (.bool true) (.object [
          ("web_strategy", orText webStrategy "upstream"),
          ("quic_mode", orText quicMode "process"),
          ("discord_media", .bool (discordMedia.is "1")), ("stun", .bool (stun.is "1")),
          ("media_strategy", orText mediaStrategy "fake"),
          ("media_repeats", if mediaRepeats.isNull then .int 2 else intOf mediaRepeats)])
        else plan wan (.bool true) .null
      return ⟨!value.isFalse, value, some true⟩

/-! The actions. -/

def engineConfig (value : Value) : String := (config value).getD ""

def validate (value : Value) : Direct (Option String) := do
  if value.isNull then return none
  else if !validPlan value then return some "direct_plan_invalid"
  else if !(← allOf [.access "nfqws2" "x"]) then return some "nfqws_unavailable"
  else if !(← allOf [.access "zapret-lib.lua" "r", .access "zapret-antidpi.lua" "r"]) then
    return some "zapret_lua_unavailable"
  else if !(← tell .directory) then return some "direct_runtime_unavailable"
  else if !(← tell (.write "check.conf" (engineConfig value ++ "--intercept=0\n"))) then
    return some "direct_check_write_failed"
  else
    let ok ← tell .checkEngine
    let _ ← tell (.unlink "check.conf")
    if ok then return none
    else return some "nfqws_validation_failed"

-- `shown` stands for `%J` of a value.
variable (shown : Value → String)

def planLine (value : Value) : String := shown value ++ "\n"

def check (value : Value) : Direct Bool := do
  let owned ← table
  if !owned.ok || !owned.present then return false
  else if (← ask (.read "canonical.nft" 32769)) != owned.raw then return false
  else if (← ask (.read "plan.json" 65537)) != some (planLine shown value) then return false
  else if value.isNull then return !(← tell .running)
  else if !validPlan value then return false
  else if (← ask (.read "nfqws.conf" 32769)) != config value then return false
  else allOf [.accounted, .running, .queued]

def unavailable : Except String Unit := .error "direct_zapret_unavailable"

def outcome (ok : Bool) : Except String Unit := if ok then .ok () else unavailable

/-- The action has failed, which closes the guard. -/
def shut (r : Except String Unit) : Direct (Except String Unit) := do
  let _ ← closeGuard
  return r

/-- Nothing forbids to open the guard. -/
def permitted : List DirectCommand :=
  [.absent "/etc/autovpn/state/maintenance.lock", .absent "/etc/autovpn/state/update.lock",
    .networkGate]

def openText (value : Value) : String := ((nft value).map Table.text).getD ""

/-- The guard is opened as soon as the engine has taken the queue. -/
def openWhenQueued (value : Value) : Nat → Direct Bool
  | 0 => return false
  | n + 1 => do
    if ← allOf [.queued, .running] then
      if !(← apply (openText value)) then return false
      else if ← tell (.write "plan.json" (planLine shown value)) then
        let _ ← tell (.unlink "open.nft")
        return true
      else return false
    else
      let _ ← tell .sleep
      openWhenQueued value n

/-- What has to succeed before the engine is waited for. -/
def prepare (value : Value) : List DirectCommand :=
  [.modprobe, .accounting, .write "nfqws.conf" (engineConfig value),
    .write "open.nft" (openText value), .checkRules "open.nft", .start]

def bringUp (value : Value) : Direct (Except String Unit) := do
  match ← validate value with
  | some code => shut (.error code)
  | none =>
    if ← tell .queued then shut unavailable
    else if !(← allOf (prepare value)) then shut unavailable
    else if ← openWhenQueued shown value 5 then return .ok ()
    else shut unavailable

def up (value : Value) : Direct (Except String Unit) := do
  if value.isNull then return outcome (← closeGuard)
  else if !(← allOf permitted) then shut unavailable
  else if ← check shown value then return .ok ()
  else if !(← closeGuard) then return unavailable
  else if !(← allOf permitted) then shut unavailable
  else bringUp shown value

inductive DirectAction
  | validate
  | up
  | check
  | down
deriving DecidableEq

def action? : List String → Option DirectAction
  | ["validate"] => some .validate
  | ["up"] => some .up
  | ["check"] => some .check
  | ["down"] => some .down
  | _ => none

structure Exit where
  result : Except String Unit
  enabled : Option Bool

def act (action : DirectAction) (desired : Setting) : Direct (Except String Unit) := do
  if !desired.ok then
    if action = .up then shut unavailable
    else return unavailable
  else
    match action with
    | .validate =>
      match ← validate desired.value with
      | some code => return .error code
      | none => return .ok ()
    | .check => return outcome (← check shown desired.value)
    | _ => up shown desired.value

def run (argv : List String) : Direct Exit := do
  match action? argv with
  | none => return ⟨unavailable, none⟩
  | some .down => return ⟨outcome (← closeGuard), none⟩
  | some action =>
    let desired ← setting
    return ⟨← act shown action desired, desired.enabled⟩

/-- What is printed. -/
def response (argv : List String) (exit : Exit) : Value :=
  .object ((match exit.result with
    | .ok _ => [("ok", .bool true)]
    | .error code => [("ok", .bool false), ("code", .string code)]) ++
    match argv, exit.enabled with
    | ["check"], some enabled => [("enabled", .bool enabled)]
    | _, _ => [])

end DirectZapret

end AutoVPN
