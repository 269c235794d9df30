import AutoVPN.Router.UpdateHelper

/-! The updater's processes side by side: their locks, the gate, and what each of them has done. -/

namespace AutoVPN

abbrev UpdateEvent := Program.Event UpdateCall UpdateCall.Answer

/-- A call of a process, with the locks and the gate as it found them. -/
structure UpdateMark where
  process : Nat
  updateLock : Option Nat
  controllerLock : Option Nat
  gate : Bool
  event : UpdateEvent

/-- Who holds the locks, whether there is a gate, whether the router has been altered since the
user last resumed it, and all calls so far. -/
structure UpdateWorld where
  updateLock : Option Nat
  controllerLock : Option Nat
  gate : Bool
  altered : Bool
  past : List UpdateMark

namespace UpdateHelper

def alters : UpdateCall → Bool
  | .disable | .commit | .failClosed | .install _ | .recordVersion _ => true
  | _ => false

/-- What the answer says of the locks, the gate and the package; a lock may also be refused because
others hold it. -/
def Told (e : UpdateEnvironment) (s : UpdateWorld) : (c : UpdateCall) → c.Answer → Prop
  | .lockUpdate, r => r = true → s.updateLock = none
  | .lockController, r => r = true → s.controllerLock = none
  | .readGate, r => s.gate = true → r ≠ .absent
  | .gateExists, r => r = true → s.gate = true
  | .compare a b, r => ∀ text, r = some text → text = e.compare a b
  | .sha256 p, r => ∀ text, r = some text → text = e.sha256 p
  | .verify p, r => r = true → e.isSigned p = true
  | .metadata p, r => ∀ v, r = some v → v = e.metadata p
  | _, _ => True

/-- A failed write leaves the old file or the new one. -/
def gateAfter (s : UpdateWorld) : (c : UpdateCall) → c.Answer → Bool → Prop
  | .writeGate _, r, gate => if r then gate = true else gate = true ∨ gate = s.gate
  | _, _, gate => gate = s.gate

def updateStep (e : UpdateEnvironment) (t : Nat) (c : UpdateCall) (s : UpdateWorld) (r : c.Answer)
    (s' : UpdateWorld) : Prop :=
  Told e s c r ∧ gateAfter s c r s'.gate ∧
    s'.updateLock = (match c, r with
      | .lockUpdate, true => some t
      | _, _ => s.updateLock) ∧
    s'.controllerLock = (match c, r with
      | .lockController, true => some t
      | _, _ => s.controllerLock) ∧
    s'.altered = (s.altered || alters c) ∧
    s'.past = s.past ++ [⟨t, s.updateLock, s.controllerLock, s.gate, ⟨c, r⟩⟩]

/-- What the user does beside the updater: a resume takes the gate away under the controller's
lock, and puts it back where the controller does not start. -/
inductive UpdateMove (s : UpdateWorld) : UpdateWorld → Prop
  | resume (h : s.controllerLock = none) : UpdateMove s { s with gate := false, altered := false }
  | restore : UpdateMove s { s with gate := true }

def leaves (t : Nat) (s s' : UpdateWorld) : Prop :=
  s' = { s with
    updateLock := if s.updateLock = some t then none else s.updateLock
    controllerLock := if s.controllerLock = some t then none else s.controllerLock }

abbrev UpdateCrew := Crew UpdateCall UpdateCall.Answer (Except UpdateExit Unit) UpdateWorld Nat

def starts (e : UpdateEnvironment) (t : Nat) (s : UpdateWorld)
    (p : Program UpdateCall UpdateCall.Answer (Except UpdateExit Unit)) : Prop :=
  Started e p ∧ ∀ m ∈ s.past, m.process ≠ t

abbrev UpdateRuns (e : UpdateEnvironment) : UpdateCrew → UpdateCrew → Prop :=
  Crew.Runs (updateStep e) UpdateMove (starts e) leaves

/-! What has been done. -/

def Did (t : Nat) (l : List UpdateEvent) (past : List UpdateMark) : Prop :=
  (l.map fun ev => (t, ev)).Sublist (past.map fun m => (m.process, m.event))

/-- The failed update that a gate speaks of. -/
def interrupted (e : UpdateEnvironment) : GateFile → Option Interrupted
  | .file g => some ⟨fieldText e g "tag", fieldText e g "version"⟩
  | _ => none

/-- The version is no step back, and beyond the interrupted update or its own tag's. -/
def Newer (e : UpdateEnvironment) (current tag version : String) : Option Interrupted → Prop
  | none => e.compare current version = "<"
  | some g => (e.compare current version = "<" ∨ e.compare current version = "=") ∧
      (e.compare g.version version = "<" ∨ e.compare g.version version = "=" ∧ g.tag = tag)

/-- The package is what the plan says, signed, and no other than the controller. -/
structure Genuine (e : UpdateEnvironment) (selected : Selected) (p : Package) : Prop where
  hash : e.sha256 p = selected.sha256
  isSigned : e.isSigned p = true
  name : fieldText e ((e.metadata p).get "info") "name" = "autovpn-controller"
  version : fieldText e ((e.metadata p).get "info") "version" = selected.version

/-- Under both locks the process has loaded a plan, found its version to be newer, downloaded the
package of the plan, which is genuine, closed the router behind the gate, and seen a simulation
that changes the controller only. -/
def Prepared (e : UpdateEnvironment) (t : Nat) (p : Package) (past : List UpdateMark) : Prop :=
  ∃ id state now plan phase found current file url output,
    Did t [⟨.lockUpdate, true⟩, ⟨.lockController, true⟩, ⟨.readState, some state⟩,
      ⟨.uptime, some now⟩, ⟨.readGate, found⟩, ⟨.packageVersion, some current⟩,
      ⟨.package file url, some p⟩, ⟨.networkGate, true⟩,
      ⟨.writeGate (entry "running" "" (gateExtra id plan)), true⟩, ⟨.commit, true⟩,
      ⟨.failClosed, true⟩, ⟨.simulate p, some output⟩] past ∧
    loadPlan e id state now = some (plan, phase) ∧ Genuine e plan.selected p ∧
    Newer e current plan.tag plan.selected.version (interrupted e found) ∧
    onlyController output = true

def Finished (e : UpdateEnvironment) (t : Nat) (content : Value) (past : List UpdateMark) : Prop :=
  ∃ id plan p, content = entry "ready" "" (readyExtra id plan.selected.version plan) ∧
    Genuine e plan.selected p ∧
    Did t [⟨.install p, true⟩, ⟨.packageVersion, some plan.selected.version⟩,
      ⟨.recordVersion plan.selected.version, true⟩] past

def isReady (content : Value) : Bool :=
  match content.get "phase" with
  | .string phase => phase == "ready"
  | _ => false

/-- What is true of every call that has been made. -/
structure Proper (e : UpdateEnvironment) (m : UpdateMark) (before : List UpdateMark) : Prop where
  state : ∀ content r, m.event = ⟨.writeState content, r⟩ → m.updateLock = some m.process
  gate : ∀ content r, m.event = ⟨.writeGate content, r⟩ →
    m.updateLock = some m.process ∧ m.controllerLock = some m.process ∧
      (isReady content = true → Finished e m.process content before)
  alters : alters m.event.1 = true →
    m.updateLock = some m.process ∧ m.controllerLock = some m.process ∧ m.gate = true
  install : ∀ p r, m.event = ⟨.install p, r⟩ → Prepared e m.process p before

/-- What every history of the updater guarantees. -/
structure UpdateSafe (e : UpdateEnvironment) (s : UpdateWorld) : Prop where
  proper : ∀ before m after, s.past = before ++ m :: after → Proper e m before
  gate : s.altered = true → s.gate = true

end UpdateHelper

end AutoVPN
