import AutoVPN.Router.Lineage
import Mathlib.Algebra.Order.BigOperators.Group.List
import Mathlib.Algebra.Order.Monoid.Canonical.Defs

/-! A refresh that ends well leaves nothing in progress, unless it found a snapshot that was ready
and the server has nothing new. -/

namespace AutoVPN

open Program

namespace Controller

def fetchCost : RouterCall → Nat
  | .fetch _ => 1
  | _ => 0

/-- The program does not fetch. -/
abbrev FetchFree {α : Type} (p : Router α) : Prop := Costs fetchCost p 0

theorem FetchFree.bind {α β : Type} {p : Router α} {f : α → Router β} (h : FetchFree p)
    (hf : ∀ a, FetchFree (f a)) : FetchFree (p >>= f) := Costs.bind h hf

theorem FetchFree.ite {α : Type} {b : Prop} [Decidable b] {p q : Router α} (hp : FetchFree p)
    (hq : FetchFree q) : FetchFree (if b then p else q) := by
  split
  · exact hp
  · exact hq

theorem fetchFree_ask {c : RouterCall} (hc : fetchCost c = 0) : FetchFree (ask c) :=
  ⟨hc.le, fun _ => trivial⟩

theorem fetchFree_runtime (action : Action) : FetchFree (runtimeAction action) :=
  (fetchFree_ask rfl).bind fun _ => trivial

theorem fetchFree_persist (t : Transition) : FetchFree (persist t) :=
  .ite trivial ((fetchFree_ask rfl).bind fun _ => .ite trivial trivial)

theorem fetchFree_capabilitiesOf (value : Value) : FetchFree (capabilitiesOf value) := by
  refine .ite trivial ((fetchFree_runtime .capabilities).bind fun response => ?_)
  cases response <;> exact trivial

theorem fetchFree_rollbackDesired (s : State) (code : Option Code) :
    FetchFree (rollbackDesired s code) := by
  refine .ite trivial ((fetchFree_persist _).bind fun _ => (fetchFree_runtime _).bind fun response => ?_)
  cases response with
  | success value =>
    exact (fetchFree_capabilitiesOf value).bind fun _ => (fetchFree_persist _).bind fun _ =>
      .ite trivial trivial
  | failure failure => exact (fetchFree_runtime _).bind fun _ => (fetchFree_persist _).bind fun _ => trivial

theorem fetchFree_checkpoint (t : Transition) (s : State) {next : Router Result}
    (hnext : FetchFree next) : FetchFree (do
      let transition ← persist t
      if !transition.ok then rollbackDesired s transition.code else next) :=
  (fetchFree_persist t).bind fun _ => .ite (fetchFree_rollbackDesired s _) hnext

theorem fetchFree_applyDesired (s : State) : FetchFree (applyDesired s) := by
  refine (fetchFree_persist _).bind fun _ => .ite trivial ((fetchFree_runtime _).bind fun response => ?_)
  cases response with
  | failure failure => exact fetchFree_rollbackDesired _ _
  | success _ =>
    refine fetchFree_checkpoint _ _ (fetchFree_checkpoint _ _ ((fetchFree_runtime _).bind
      fun response => ?_))
    cases response with
    | failure failure => exact fetchFree_rollbackDesired _ _
    | success _ =>
      refine fetchFree_checkpoint _ _ ((fetchFree_runtime _).bind fun response => ?_)
      cases response with
      | failure failure => exact fetchFree_rollbackDesired _ _
      | success value =>
        exact (fetchFree_capabilitiesOf value).bind fun _ =>
          (fetchFree_persist _).bind fun _ => .ite (fetchFree_rollbackDesired _ _) trivial

theorem fetchFree_reportPending (s : State) : FetchFree (reportPending s) := by
  unfold reportPending
  cases s.pendingReport with
  | none => exact trivial
  | some report =>
    refine (fetchFree_ask rfl).bind fun reply => ?_
    cases adapterResponse reply with
    | failure failure => exact trivial
    | success _ => exact fetchFree_persist _

theorem fetchFree_applyAndReport (s : State) : FetchFree (applyAndReport s) :=
  (fetchFree_applyDesired s).bind fun _ =>
    .ite trivial ((fetchFree_reportPending _).bind fun _ => trivial)

theorem fetchFree_restoreRuntime (s : State) : FetchFree (restoreRuntime s) := by
  refine (fetchFree_runtime .restore).bind fun response => ?_
  cases response with
  | failure failure => exact (fetchFree_runtime .failClosed).bind fun _ => trivial
  | success value => exact .ite trivial trivial

theorem fetchFree_checkConfiguration (config : Config) : FetchFree (checkConfiguration config) :=
  .ite trivial ((fetchFree_ask rfl).bind fun _ => .ite trivial ((fetchFree_ask rfl).bind fun _ =>
    .ite trivial (.ite trivial (.ite trivial trivial))))

theorem fetchFree_consumeSnapshot (config : Config) (response : Value) :
    FetchFree (consumeSnapshot config response) := by
  unfold consumeSnapshot
  cases validResponsePath config.stateDir (response.get "response_file") with
  | none => exact trivial
  | some path =>
    refine (fetchFree_ask rfl).bind fun file => ?_
    cases file <;> exact trivial

theorem FetchFree.then {α β : Type} {p : Router α} {f : α → Router β} {n : Nat}
    (h : FetchFree p) (hf : ∀ a, Costs fetchCost (f a) n) : Costs fetchCost (p >>= f) n :=
  (Costs.bind h hf).mono (Nat.zero_add n).le

theorem costs_fetchAndApply (config : Config) (restored : Result) (s : State) :
    Costs fetchCost (fetchAndApply config restored s) 1 := by
  refine (fetchFree_checkConfiguration config).then fun failure => ?_
  cases failure with
  | some failure => exact trivial
  | none =>
    refine ⟨Nat.le_refl 1, fun reply => ?_⟩
    simp only [Program.bind]
    cases adapterResponse reply with
    | failure failure => exact trivial
    | success response =>
      refine FetchFree.ite trivial (.ite trivial ((fetchFree_consumeSnapshot _ _).bind
        fun body => ?_))
      cases body with
      | inl failure => exact trivial
      | inr body =>
        exact FetchFree.ite trivial (.ite (.ite ((fetchFree_ask rfl).bind fun _ => trivial) trivial)
          (.ite trivial ((fetchFree_ask rfl).bind fun _ =>
            .ite trivial (fetchFree_applyAndReport _))))

theorem costs_refresh (config : Config) (s : State) : Costs fetchCost (refresh config s) 1 := by
  have hrecover : FetchFree (recover s) := .ite trivial (fetchFree_rollbackDesired _ _)
  refine hrecover.then fun recovered => ?_
  split
  · exact trivial
  refine (fetchFree_restoreRuntime _).then fun restored => ?_
  refine (fetchFree_reportPending _).then fun reported => ?_
  split
  · exact trivial
  · exact costs_fetchAndApply config restored _

theorem costs_main (config : Config) : Costs fetchCost (main config .refresh) 1 := by
  have hblocked : FetchFree (ask .maintenanceBlocked) := fetchFree_ask rfl
  have hread : FetchFree (ask .readJournal) := fetchFree_ask rfl
  refine hblocked.then fun blocked => ?_
  split
  · exact trivial
  refine hread.then fun found => ?_
  unfold runCommand
  split
  · exact (fetchFree_runtime .failClosed).then fun _ => trivial
  · exact costs_refresh config _

end Controller

open Controller

theorem unique_of_sum_le_one {α : Type*} {l : List α} {f : α → Nat} (h : (l.map f).sum ≤ 1)
    {a b : α} (ha : a ∈ l) (hb : b ∈ l) (hfa : f a = 1) (hfb : f b = 1) : a = b := by
  induction l with
  | nil => cases ha
  | cons c l ih =>
    rw [List.map_cons, List.sum_cons] at h
    have hle (x : α) (hx : x ∈ l) : f x ≤ (l.map f).sum :=
      List.le_sum_of_mem (List.mem_map_of_mem hx)
    rcases List.mem_cons.mp ha with hac | ha'
    · rcases List.mem_cons.mp hb with hbc | hb'
      · exact hac.trans hbc.symm
      · have := hle b hb'
        subst hac
        omega
    · rcases List.mem_cons.mp hb with hbc | hb'
      · have := hle a ha'
        subst hbc
        omega
      · exact ih (by omega) ha' hb'

/-- The refresh with the calls `tr` finds a snapshot ready to be applied, and the server has
nothing that is newer than the applied one. -/
def Stranded (s : State) (tr : List RouterEvent) : Prop :=
  s.phase = .ready ∧ ∃ tag reply, (⟨.fetch tag, reply⟩ : RouterEvent) ∈ tr ∧ Unchanged s reply

theorem not_idle_of_ready {j : Option Value} {s : State} (hs : Stored j s)
    (hready : s.phase = .ready) : ¬Idle j := by
  rintro ⟨f, hf, hidle, -⟩
  obtain rfl := hf.unique hs
  exact absurd (hready.symm.trans hidle) (by simp)

/-- A refresh that ends well leaves the journal idle if and only if it did not strand a snapshot
that was ready. -/
theorem refresh_settles_iff {log : List Session} {j j' : Option Value} {config : Config}
    {tr : List RouterEvent} {r : Result} (hrun : Runs none log j)
    (he : Exec RouterStep (Controller.main config .refresh) j tr j' (some r)) (hok : r.ok = true) :
    ∃ s, Stored j s ∧ (Idle j' ↔ ¬Stranded s tr) := by
  obtain ⟨-, s, -, -, hs⟩ := lineage_of_runs hrun (f := Machine.initialState) rfl
  refine ⟨s, hs, ?_⟩
  have hmain : Promoting tr (fun r w' => Command.refresh = .refresh →
      s.Valid ∧ Refreshed tr s r w' ∨ r.ok = false) (Controller.main config .refresh) (j, []) :=
    promoting_main hs config .refresh
  have hend := hmain.result (he.along []) rfl
  obtain ⟨hv, hrefreshed⟩ := hend.resolve_right (by simp [hok])
  obtain ⟨t, hfetched, hleft⟩ := hrefreshed hok
  obtain ⟨tag, reply, hevent, hcase⟩ := hfetched hok
  have hidle (hphase : t.phase = .idle) (hnone : t.desired = none) : Idle j' := by
    rcases hcase with ⟨-, hstored⟩ | ⟨-, hidle⟩
    · exact ⟨t, hstored, hphase, hnone⟩
    · exact hidle
  rcases hleft with ⟨hphase, hnone, hrec⟩ | ⟨happ, hphase, hdes, hrec⟩
  · refine iff_of_true (hidle hphase hnone) fun hstranded => ?_
    simp [Machine.recoverRequired, hstranded.1] at hrec
  by_cases hready : s.phase = .ready
  · have hsame (x : AdapterReply) : Unchanged t x ↔ Unchanged s x := by
      unfold Unchanged
      rw [happ]
    rcases hcase with ⟨hunchanged, hstored⟩ | ⟨hnew, hdone⟩
    · have hnot := not_idle_of_ready hstored (hphase.trans hready)
      exact iff_of_false hnot fun h => h ⟨hready, tag, reply, hevent, (hsame reply).mp hunchanged⟩
    · refine iff_of_true hdone ?_
      rintro ⟨-, tag', reply', hevent', hunchanged⟩
      have hone := (costs_main config).total he
      have heq := unique_of_sum_le_one hone hevent hevent' rfl rfl
      cases heq
      exact hnew ((hsame reply).mpr hunchanged)
  · have hsidle : s.phase = .idle := by
      unfold Machine.recoverRequired at hrec
      split at hrec <;> simp_all
    refine iff_of_true (hidle (hphase.trans hsidle) (hdes.trans (hv.idle_iff.mp hsidle))) ?_
    exact fun hstranded => hready hstranded.1

namespace Sample

/-- The journal after a first apply that has been reported. -/
def settled : State := { Machine.initialState with sequence := 7, applied := some entry }

theorem committedReported_eq : committedReported = settled := by
  have hreport : committed.pendingReport.map PendingReport.idempotencyKey =
    some (Machine.reportKey entry) := rfl
  have hsettled : Machine.bump { committed with pendingReport := none } = settled := rfl
  unfold committedReported Machine.reportAccepted
  split
  · simp_all
  · simp_all [Machine.done]

theorem settled_valid : settled.Valid := by
  refine State.Valid.of_core ⟨?_, ?_, ?_, ?_⟩ ?_ ?_ ?_ ?_ rfl
  rotate_left
  · intro e he
    obtain rfl := Option.mem_some_iff.mp he
    exact ⟨Nat.le_refl 1, (by decide : 1 ≤ 7)⟩
  all_goals simp [settled, Machine.initialState, maxSafeInteger]

/-- The applied snapshot is to be applied once more. -/
def policyReady : State :=
  { settled with sequence := 8, phase := .ready, desired := some { entry with attempt := 8 } }

theorem policyReady_valid : policyReady.Valid :=
  Machine.receiveSnapshot_valid settled_valid rfl (by decide : 7 + 1 ≤ maxSafeInteger)
    snapshotValue (.string etag.1) true

/-- The policy has changed, and the power fails when the snapshot is ready. -/
def policySession : Session where
  config := config
  command := .applyPolicy
  journal := some committedReported.encode
  trace :=
    [⟨.maintenanceBlocked, false⟩, ⟨.readJournal, .contents (some committedReported.encode)⟩,
      ⟨.writeJournal policyReady.encode, true⟩]

theorem exec_policySession : Exec RouterStep (Controller.main config .applyPolicy)
    (some committedReported.encode) policySession.trace (some policyReady.encode) none := by
  have hload : loadState (.contents (some committedReported.encode)) = some settled := by
    rw [committedReported_eq]
    exact Journal.load_encode settled_valid Machine.initialState
  refine exec_main hload ?_
  refine .call (u := some policyReady.encode) rfl ?_
  exact .stop _ _

theorem run_policySession :
    Runs none [appliedRefresh, policySession] (some policyReady.encode) :=
  .cons exec_appliedRefresh (.cons exec_policySession (.nil _))

def notModified : AdapterReply :=
  .finished (.object [("ok", .bool true), ("status", .int 304)]) 0

/-- The refresh that follows: the server has nothing new. -/
def strandingTrace : List RouterEvent :=
  [⟨.maintenanceBlocked, false⟩, ⟨.readJournal, .contents (some policyReady.encode)⟩,
    ⟨.runtime .restore, done⟩, ⟨.credentialReadable, true⟩, ⟨.protectCredential, true⟩,
    ⟨.fetch etag.1, notModified⟩]

def notModifiedResult (s : State) : Result :=
  { ok := true, code := some Machine.notModified, state := some s }

theorem exec_stranding : Exec RouterStep (Controller.main config .refresh)
    (some policyReady.encode) strandingTrace (some policyReady.encode)
    (some (notModifiedResult policyReady)) := by
  refine exec_main (Journal.load_encode policyReady_valid Machine.initialState) ?_
  iterate 4 refine .call (u := some policyReady.encode) rfl ?_
  exact .done _ _

/-- The same answer when nothing is left over. -/
def idleTrace : List RouterEvent :=
  [⟨.maintenanceBlocked, false⟩, ⟨.readJournal, .contents (some settled.encode)⟩,
    ⟨.runtime .restore, done⟩, ⟨.credentialReadable, true⟩, ⟨.protectCredential, true⟩,
    ⟨.fetch etag.1, notModified⟩]

theorem exec_idle : Exec RouterStep (Controller.main config .refresh)
    (some settled.encode) idleTrace (some settled.encode)
    (some (notModifiedResult settled)) := by
  refine exec_main (Journal.load_encode settled_valid Machine.initialState) ?_
  iterate 4 refine .call (u := some settled.encode) rfl ?_
  exact .done _ _

end Sample

/-- A refresh after an apply and one after an interrupted change of the policy. -/
theorem refresh_settles_after_apply :
    (∃ s, Stored (some Sample.settled.encode) s ∧
      (Idle (some Sample.settled.encode) ↔ ¬Stranded s Sample.idleTrace)) ∧
    ∃ s, Stored (some Sample.policyReady.encode) s ∧
      (Idle (some Sample.policyReady.encode) ↔ ¬Stranded s Sample.strandingTrace) := by
  have hrun : Runs none [Sample.appliedRefresh] (some Sample.settled.encode) :=
    Sample.committedReported_eq ▸ .cons Sample.exec_appliedRefresh (.nil _)
  exact ⟨refresh_settles_iff hrun Sample.exec_idle rfl,
    refresh_settles_iff Sample.run_policySession Sample.exec_stranding rfl⟩

/-- A change of the policy that was interrupted stays behind a refresh that reports success. -/
theorem refresh_strands_policy :
    ¬∀ (log : List Session) (j : Option Value), Runs none log j → ∀ config tr j' r,
      Exec RouterStep (Controller.main config .refresh) j tr j' (some r) → r.ok = true →
      Idle j' := by
  intro hclaim
  have hstored : Stored (some Sample.policyReady.encode) Sample.policyReady := rfl
  exact not_idle_of_ready hstored rfl
    (hclaim _ _ Sample.run_policySession _ _ _ _ Sample.exec_stranding rfl)

end AutoVPN
