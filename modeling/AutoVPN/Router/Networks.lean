import AutoVPN.Lib.Program
import AutoVPN.Lib.Text
import AutoVPN.Lib.Value

/-! The network transaction: four configuration files are replaced behind a journal, a closed
guard and a watchdog, and somebody else may edit the files at any time. -/

namespace AutoVPN

inductive NetConfig
  | network
  | wireless
  | dhcp
  | firewall
  deriving DecidableEq

inductive NetPhase
  | pending
  | confirmed
  | rolledBack
  | rollbackConflict
  deriving DecidableEq

/-- The journal of a transaction with the contents of the files before and after it. -/
structure NetState where
  version : Int
  sequence : Int
  id : String
  phase : NetPhase
  ready : Bool
  deadline : Int
  expiresUptime : Int
  before : NetConfig → Option String
  after : NetConfig → Option String
  ssids : List Value
  radios : List Value
  wiredPorts : Option (List Value)
  wiredBridges : List Value

/-- What `load` gives; `unusable` stands for a journal that cannot be read or has another shape. -/
inductive NetJournal
  | absent
  | unusable
  | state (s : NetState)

structure Staged where
  after : NetConfig → Option String
  ssids : List Value
  radios : List Value
  wiredBridges : List Value

inductive NetCall
  | load
  | save (s : NetState)
  | read (name : NetConfig)
  | write (name : NetConfig) (raw : Option String)
  | clean
  | close
  | watch
  | reload
  | now
  | uptime
  | stage (before : NetConfig → Option String)
  | ready (s : NetState)

abbrev NetCall.Answer : NetCall → Type
  | load => NetJournal
  | save _ => Bool
  | read _ => Option String
  | write _ _ => Bool
  | clean => Bool
  | close => Bool
  | watch => Bool
  | reload => Bool
  | now => Int
  | uptime => Option Int
  | stage _ => String ⊕ Staged
  | ready _ => Bool

abbrev Net (α : Type) := Program NetCall NetCall.Answer α

inductive NetResult
  | fail (code : String)
  | notConfigured
  | shown (s : NetState)
  | idle
  | pending
  | rolledBack
  | open

def NetResult.ok : NetResult → Bool
  | .fail _ => false
  | _ => true

namespace Network

def configs : List NetConfig := [.network, .wireless, .dhcp, .firewall]

def maxLength : Nat := 65536

def idPattern : Pattern := [.many Char.isDigit 1, .char '-', .many Char.isDigit 1]

/-- The bridge and the one port of a wired member. -/
def memberOf (v : Value) : Option (String × String) :=
  match v.get "bridge", v.get "ports" with
  | .string bridge, .array [.string port] =>
    if ["br-avpn", "br-avpnnv"].contains bridge && ["lan3", "lan4"].contains port then
      some (bridge, port)
    else none
  | _, _ => none

def validMembers (members : List Value) : Bool :=
  decide (members.length ≤ 2) && members.all (fun v => (memberOf v).isSome) &&
    decide ((members.filterMap memberOf).map Prod.fst).Nodup &&
    decide ((members.filterMap memberOf).map Prod.snd).Nodup

def fits (contents : Option String) : Bool :=
  contents.any fun raw => decide (raw.utf8ByteSize ≤ maxLength)

def valid (state : NetState) : Bool :=
  state.version == 1 && decide (1 ≤ state.sequence) && idPattern.matches state.id &&
    validMembers state.wiredBridges &&
    configs.all fun name => fits (state.before name) && fits (state.after name)

def ask (c : NetCall) : Net c.Answer := .call c .done

def unconfirmed (phase : NetPhase) : Bool := phase == .pending || phase == .rollbackConflict

def status : Net NetResult := do
  match ← ask .load with
  | .unusable => return .fail "network_journal_invalid"
  | .absent => return .notConfigured
  | .state state =>
    if !valid state then return .fail "network_journal_invalid"
    else return .shown state

def gate : Net NetResult := do
  match ← ask .load with
  | .unusable => return .fail "network_journal_invalid"
  | .absent => return .open
  | .state state =>
    if !valid state then return .fail "network_journal_invalid"
    else if unconfirmed state.phase then return .fail "network_confirmation_required"
    else return .open

/-- Puts the backups of the files back; `true` when one is neither restored nor intact. -/
def restore (state : NetState) : List NetConfig → Bool → Net Bool
  | [], conflict => return conflict
  | name :: rest, conflict => do
    let current ← ask (.read name)
    if current = state.before name then restore state rest conflict
    else if current ≠ state.after name then restore state rest true
    else if !(← ask (.write name (state.before name))) then restore state rest true
    else restore state rest conflict

def finishRollback (state : NetState) (failed : Bool) : Net NetResult := do
  let ended := { state with phase := if failed then .rollbackConflict else .rolledBack
                            ready := false }
  if !(← ask (.save ended)) then return .fail "network_journal_write_failed"
  else return if failed then .fail "network_rollback_requires_attention" else .rolledBack

def rollback (state : NetState) (boot : Bool) : Net NetResult := do
  let safe ← (if boot then .done true else ask .close)
  let conflict ← restore state configs false
  let reloaded ← (if boot then .done true else ask .reload)
  finishRollback state (conflict || !safe || !reloaded)

def recover (boot : Bool) : Net NetResult := do
  match ← ask .load with
  | .unusable => return .fail "network_journal_invalid"
  | .absent => return .idle
  | .state state =>
    if !valid state then return .fail "network_journal_invalid"
    else if !unconfirmed state.phase then return .idle
    else if !boot && state.phase == .pending then
      match ← ask .uptime with
      | none => return .fail "network_helper_failed"
      | some uptime =>
        if uptime < state.expiresUptime then return .pending
        else rollback state boot
    else rollback state boot

/-- Reads the files one after the other; `none` when one is not available. -/
def readAll : List NetConfig → (NetConfig → Option String) →
    Net (Option (NetConfig → Option String))
  | [], before => return some before
  | name :: rest, before => do
    let contents ← ask (.read name)
    if !fits contents then return none
    else readAll rest (Function.update before name contents)

/-- Whether every file still has the contents. -/
def unchanged (contents : NetConfig → Option String) : List NetConfig → Net Bool
  | [] => return true
  | name :: rest => do
    if (← ask (.read name)) ≠ contents name then return false
    else unchanged contents rest

/-- Replaces the files one after the other; `false` at the first that fails. -/
def replace (state : NetState) : List NetConfig → Net Bool
  | [] => return true
  | name :: rest => do
    if (← ask (.read name)) ≠ state.before name then return false
    else if !(← ask (.write name (state.after name))) then return false
    else replace state rest

def restored (result : NetResult) (code : String) : NetResult :=
  if result.ok then .fail code else result

/-- The part of `begin` after the journal has been written. -/
def install (state : NetState) : Net NetResult := do
  if !(← ask .watch) then
    let _ ← rollback state false
    return .fail "network_watchdog_failed"
  else if !(← replace state configs) then
    return restored (← rollback state false) "network_write_failed"
  else if !(← ask .reload) then
    return restored (← rollback state false) "network_reload_failed"
  else
    let state := { state with ready := true }
    if !(← ask (.save state)) then
      let _ ← rollback state false
      return .fail "network_journal_write_failed"
    else status

/-- The part of `begin` after the plan. -/
def commit (state : NetState) : Net NetResult := do
  if !valid state then return .fail "network_stage_invalid"
  else if !(← ask .clean) then return .fail "uncommitted_network_changes"
  else if !(← unchanged state.before configs) then return .fail "network_config_changed"
  else if !(← ask .close) then return .fail "network_guard_failed"
  else if !(← ask (.save state)) then return .fail "network_journal_write_failed"
  else install state

def beginFrom (old : Option NetState) : Net NetResult := do
  if !(← ask .clean) then return .fail "uncommitted_network_changes"
  else
    match ← readAll configs fun _ => none with
    | none => return .fail "network_config_unavailable"
    | some before =>
      match ← ask (.stage before) with
      | .inl code => return .fail code
      | .inr staged =>
        let sequence := (old.map fun s => s.sequence + 1).getD 1
        let id := toString (← ask .now) ++ "-" ++ toString sequence
        let deadline := (← ask .now) + 180
        match ← ask .uptime with
        | none => return .fail "network_helper_failed"
        | some uptime =>
          commit
            { version := 1, sequence := sequence, id := id, phase := .pending, ready := false
              deadline := deadline, expiresUptime := uptime + 180, before := before
              after := staged.after, ssids := staged.ssids, radios := staged.radios
              wiredPorts := none, wiredBridges := staged.wiredBridges }

def begin : Net NetResult := do
  match ← ask .load with
  | .unusable => return .fail "network_journal_invalid"
  | .absent => beginFrom none
  | .state old =>
    if !valid old then return .fail "network_journal_invalid"
    else if unconfirmed old.phase then return .fail "network_transaction_pending"
    else beginFrom (some old)

def confirm (id : String) : Net NetResult := do
  match ← ask .load with
  | .unusable => return .fail "network_journal_invalid"
  | .absent => return .fail "network_confirmation_mismatch"
  | .state state =>
    if !valid state then return .fail "network_journal_invalid"
    else if state.phase ≠ .pending || !state.ready || id ≠ state.id then
      return .fail "network_confirmation_mismatch"
    else
      match ← ask .uptime with
      | none => return .fail "network_helper_failed"
      | some uptime =>
        if state.expiresUptime ≤ uptime then rollback state false
        else if !(← unchanged state.after configs) then return .fail "network_config_changed"
        else if !(← ask (.ready state)) then return .fail "wifi_not_ready"
        else if !(← ask (.save { state with phase := .confirmed })) then
          return .fail "network_journal_write_failed"
        else status

end Network

/-- What has become durable: a journal, or a file together with what it replaced. -/
inductive NetNote
  | saved (s : NetState) (files : NetConfig → Option String) (edited : NetConfig → Bool)
  | wrote (name : NetConfig) (raw found : Option String) (edited : Bool) (journal : NetJournal)
      (closed watching : Bool)

/-- The router during one command. A file is `edited` when somebody else has changed it since the
command last read or wrote it, and `touched` when that happened since the command began. -/
structure NetWorld where
  files : NetConfig → Option String
  journal : NetJournal
  edited : NetConfig → Bool
  touched : NetConfig → Bool
  closed : Bool
  watching : Bool
  log : List NetNote
  touched_of_edited : ∀ n, edited n = true → touched n = true

namespace NetWorld

/-- Somebody else gives the files the contents `g`. -/
def edit (w : NetWorld) (g : NetConfig → Option String) : NetWorld :=
  { w with
    files := g
    edited := fun n => w.edited n || decide (g n ≠ w.files n)
    touched := fun n => w.touched n || decide (g n ≠ w.files n)
    touched_of_edited := fun n h => by
      rw [Bool.or_eq_true] at h ⊢
      exact h.imp_left (w.touched_of_edited n) }

theorem touched_of_looked (w : NetWorld) (name n : NetConfig)
    (h : Function.update w.edited name false n = true) : w.touched n = true := by
  by_cases hn : n = name
  · simp [hn] at h
  · rw [Function.update_of_ne hn] at h
    exact w.touched_of_edited n h

def look (w : NetWorld) (name : NetConfig) : NetWorld :=
  { w with
    edited := Function.update w.edited name false
    touched_of_edited := w.touched_of_looked name }

def wrote (w : NetWorld) (name : NetConfig) (raw : Option String) : NetWorld :=
  { w with
    files := Function.update w.files name raw
    edited := Function.update w.edited name false
    log := w.log ++ [.wrote name raw (w.files name) (w.edited name) w.journal w.closed w.watching]
    touched_of_edited := w.touched_of_looked name }

def saved (w : NetWorld) (s : NetState) : NetWorld :=
  { w with journal := .state s, log := w.log ++ [.saved s w.files w.edited] }

/-- A new command: nothing has been edited since, and the guard and the watchdog are not known. -/
def begun (w : NetWorld) : NetWorld :=
  { w with
    edited := fun _ => false
    touched := fun _ => false
    closed := false
    watching := false
    touched_of_edited := nofun }

end NetWorld

/-- What a read gives of the contents: all of it, unless it fails or the file is too long. -/
def ReadsAs (contents answer : Option String) : Prop :=
  answer = none ∨ answer = contents ∨
    (Network.fits answer = false ∧ Network.fits contents = false)

/-- One operation after an edit by somebody else. A write or a save that fails may still have
replaced the file. -/
def NetStep (c : NetCall) (w : NetWorld) (r : c.Answer) (w' : NetWorld) : Prop :=
  ∃ g, match c, r with
    | .load, r => w' = w.edit g ∧ (r = .unusable ∨ r = w.journal)
    | .save s, r => w' = (w.edit g).saved s ∨ (r = false ∧ w' = w.edit g)
    | .read name, r => w' = (w.edit g).look name ∧ ReadsAs (g name) r
    | .write name raw, r => w' = (w.edit g).wrote name raw ∨ (r = false ∧ w' = w.edit g)
    | .close, r => w' = { w.edit g with closed := w.closed || r }
    | .watch, r => w' = { w.edit g with watching := w.watching || r }
    | _, _ => w' = w.edit g

inductive NetCommand
  | setup
  | confirm (id : String)
  | tick
  | boot
  | status
  | gate

namespace Network

def command : NetCommand → Net NetResult
  | .setup => begin
  | .confirm id => confirm id
  | .tick => recover false
  | .boot => recover true
  | .status => status
  | .gate => gate

end Network

/-- Commands run one after the other, each cut off anywhere, with edits at any time. -/
inductive NetRuns : NetWorld → NetWorld → Prop
  | nil (w : NetWorld) : NetRuns w w
  | cons {w w' w'' : NetWorld} {g : NetConfig → Option String} {c : NetCommand}
      {tr : List (Program.Event NetCall NetCall.Answer)} {o : Option NetResult}
      (h : Program.Exec NetStep (Network.command c) (w.edit g).begun tr w' o)
      (rest : NetRuns w' w'') : NetRuns w w''

end AutoVPN
