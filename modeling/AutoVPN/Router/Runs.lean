import AutoVPN.Router.Controller
import AutoVPN.Router.Transitions

/-! Runs of controller commands over the durable journal. The adapters, the
runtime and the server answer anything; a write either replaces the journal or
leaves it; an execution may be cut off after any call. -/

namespace AutoVPN

open Program

def RouterStep : (c : RouterCall) → Option Value → c.Answer → Option Value → Prop
  | .readJournal, j, found, j' => j' = j ∧ (found = .unusable ∨ found = .contents j)
  | .writeJournal v, j, written, j' => j' = if written then some v else j
  | _, j, _, j' => j' = j

abbrev RouterEvent := Event RouterCall RouterCall.Answer

/-- One command with the journal it starts from and the calls it makes. -/
structure Session where
  config : Config
  command : Command
  journal : Option Value
  trace : List RouterEvent

inductive Runs : Option Value → List Session → Option Value → Prop
  | nil (j : Option Value) : Runs j [] j
  | cons {config : Config} {command : Command} {j j' j'' : Option Value}
      {tr : List RouterEvent} {o : Option Result} {log : List Session}
      (h : Exec RouterStep (Controller.main config command) j tr j' o) (rest : Runs j' log j'') :
      Runs j (⟨config, command, j, tr⟩ :: log) j''

def writeCost : RouterCall → Nat
  | .writeJournal _ => 1
  | _ => 0

namespace Session

/-- The state that the command loads, if the journal allows it. -/
def state (s : Session) : Option State := Controller.loadState (.contents s.journal)

/-- The number of journal writes that the command attempts. -/
def attempts (s : Session) : Nat := (s.trace.map fun e => writeCost e.1).sum

/-- The command persists `v`. -/
def Persists (s : Session) (v : Value) : Prop := (⟨.writeJournal v, true⟩ : RouterEvent) ∈ s.trace

end Session

/-- The values that a journal starts from: none, or one that is accepted. -/
def Loadable (j : Option Value) : Prop := ∀ v, j = some v → Journal.validState v = true

theorem Loadable.exists_state {j : Option Value} (h : Loadable j) :
    ∃ s, Controller.loadState (.contents j) = some s ∧ s.Valid := by
  cases j with
  | none => exact ⟨_, rfl, Machine.initialState_valid⟩
  | some v => exact Journal.load_valid (h v rfl) Machine.initialState

theorem Loadable.of_valid {s : State} (h : s.Valid) : Loadable (some s.encode) := by
  intro v hv
  obtain rfl := Option.some.inj hv
  exact (Journal.validState_encode s).mpr h

/-- What one command preserves and guarantees holds along every run. -/
theorem Runs.induction {P : Option Value → Prop} {Q R : Session → Prop} {j j' : Option Value}
    {log : List Session} (hrun : Runs j log j') (hstart : P j) (hq : ∀ s ∈ log, Q s)
    (hstep : ∀ config command j tr j' o, P j → Q ⟨config, command, j, tr⟩ →
      Exec RouterStep (Controller.main config command) j tr j' o →
      P j' ∧ R ⟨config, command, j, tr⟩) :
    P j' ∧ ∀ s ∈ log, R s := by
  induction hrun with
  | nil j => exact ⟨hstart, by simp⟩
  | cons h _ ih =>
    obtain ⟨hnext, hsession⟩ := hstep _ _ _ _ _ _ hstart (hq _ List.mem_cons_self) h
    obtain ⟨hend, hlog⟩ := ih hnext fun s hs => hq s (List.mem_cons_of_mem _ hs)
    refine ⟨hend, fun s hs => ?_⟩
    rcases List.mem_cons.mp hs with rfl | hs
    · exact hsession
    · exact hlog s hs

theorem exec_main {config : Config} {command : Command} {j j' : Option Value} {s : State}
    {tr : List RouterEvent} {o : Option Result}
    (hload : Controller.loadState (.contents j) = some s)
    (he : Exec RouterStep (Controller.dispatch config command s) j tr j' o) :
    Exec RouterStep (Controller.main config command) j
      (⟨.maintenanceBlocked, false⟩ :: ⟨.readJournal, .contents j⟩ :: tr) j' o := by
  have hrest : Exec RouterStep (Controller.runCommand config command (.contents j)) j tr j' o := by
    rw [Controller.runCommand, hload]
    exact he
  have hread : RouterStep .readJournal j (.contents j) j := ⟨rfl, .inr rfl⟩
  have hunlocked : RouterStep .maintenanceBlocked j false j := rfl
  exact .call hunlocked (.call hread hrest)

/-! A small journal for runs on fixed inputs. -/

namespace Sample

def digest : String := "0123456789abcdef0123456789abcdef0123456789abcdef0123456789abcdef"

def disabledSlot (payload : String) : Value :=
  .object [("enabled", .bool false), (payload, .null)]

def snapshotValue : Value :=
  .object [("schema_version", .int 3), ("router_id", .string "router-0001"),
    ("revision", .int 7), ("snapshot_sha256", .string digest),
    ("applied_at", .string "2026-01-01T00:00:00Z"), ("published_at", .null),
    ("client", .object [("id", .int 1), ("name", .string "home")]),
    ("server", .object [("endpoint", .string "203.0.113.7")]),
    ("protocols", .object [("vless", disabledSlot "outbound"),
      ("hysteria2", disabledSlot "outbound"), ("amneziawg", disabledSlot "profile")])]

def snapshot : Snapshot := ⟨snapshotValue, by decide⟩

def etag : Etag := ⟨"\"" ++ digest ++ "\"", by decide⟩

def entry : Entry := { etag := etag, snapshot := snapshot, attempt := 1 }

/-- An apply that is being verified. -/
def verifying : State :=
  { Machine.initialState with sequence := 5, phase := .verifying, desired := some entry }

theorem verifying_valid : verifying.Valid := by
  refine State.Valid.of_core ⟨?_, ?_, ?_, ?_⟩ ?_ ?_ ?_ ?_ rfl
  · intro e he
    obtain rfl := Option.mem_some_iff.mp he
    exact ⟨Nat.le_refl 1, (by decide : 1 ≤ 5)⟩
  all_goals simp [verifying, Machine.initialState, maxSafeInteger]

/-- The same apply with its report not yet sent. -/
def reported : State := (Machine.verified verifying none .null).state

theorem reported_valid : reported.Valid :=
  Machine.verified_valid verifying_valid (by decide : 5 + 1 ≤ maxSafeInteger) none .null

def profile : Profile := ⟨"hysteria2", by decide⟩

end Sample

end AutoVPN
