import AutoVPN.Router.Tracking

/-! The idempotency key of a report determines the report, over all runs of one
router in which no attempt that failed closed is rolled back after all. -/

namespace AutoVPN

open Program Controller

variable {before : List PendingReport} {whole : List RouterEvent} {w : Progress}

namespace Session

/-- The command records a confirmed rollback of an attempt whose rollback had
failed closed, and had been reported as such. -/
def ReportsAgain (x : Session) : Prop :=
  ∃ s, x.state = some s ∧ Machine.recoverRequired s = true ∧ s.rejected ≠ none ∧
    ¬NoReportAfterRollback x.trace

/-- The pending report `p` appears in the journal that the command persists. -/
def Reports (x : Session) (p : PendingReport) : Prop :=
  ∃ s : State, x.Persists s.encode ∧ s.pendingReport = some p

theorem Reports.mem {x : Session} {p : PendingReport} (h : x.Reports p) :
    p ∈ reportsOf x.trace := by
  obtain ⟨s, hpersists, hp⟩ := h
  exact List.mem_filterMap.mpr ⟨_, hpersists, (persistedReport_encode s).trans hp⟩

end Session

theorem tracks_dispatch {s : State} (config : Config) (command : Command)
    (h : Ledger s (ledgerAt before w)) (hknown : Known before s w)
    (hreport : Machine.recoverRequired s = true →
      s.rejected = none ∨ NoReportAfterRollback whole) :
    Tracks before whole (fun _ _ => True) (dispatch config command s) w := by
  cases command with
  | recover => exact (tracks_recover h hknown hreport).post fun _ _ _ => trivial
  | applyPolicy => exact tracks_applyPolicy h hknown hreport
  | stop => exact tracks_stop
  | refresh => exact tracks_refresh h hknown hreport config
  | healthTick => exact tracks_healthTick h hknown

theorem tracks_main (config : Config) (command : Command) (j : Option Value)
    (hagain : ¬(Session.mk config command j whole).ReportsAgain) :
    Tracks before whole (fun _ _ => True) (Controller.main config command) (j, []) := by
  unfold Controller.main
  refine (tracks_ask (w := (j, [])) (by simp)).bind fun blocked w₁ h₁ => ?_
  refine Tracks.ite (fun _ => Tracks.ite (fun _ => tracks_stop) fun _ => Tracks.pure trivial)
    fun _ => ?_
  have hj : w₁.1 = j := h₁.1.journal
  refine (tracks_ask (by simp)).bind fun found w₂ h₂ => ?_
  unfold runCommand
  split
  · exact (tracks_runtime .failClosed).bind fun _ _ _ => Tracks.pure trivial
  · rename_i s hs
    intro hw
    have hload : loadState (.contents j) = some s := by
      rcases h₂.2.2.2 with rfl | rfl
      · simp [loadState] at hs
      · rwa [hj] at hs
    have hstored : loadState (.contents w₂.1) = some s := by rwa [h₂.1.journal, hj]
    refine tracks_dispatch config command (hw.ledger s hstored) (hw.known hstored) ?_ hw
    intro hrec
    by_contra hnot
    rw [not_or] at hnot
    exact hagain ⟨s, hload, hrec, hnot.1, hnot.2⟩

theorem Recorded.initial : Recorded [] (none, []) := by
  have hload (s : State) (hs : loadState (.contents none) = some s) : s = Machine.initialState :=
    (Option.some.inj hs).symm
  refine ⟨by simp [Unique, ledgerAt, reportsOf], fun s hs => ?_, by simp⟩
  rw [hload s hs]
  exact Machine.initialState_ledger

theorem recorded_command {config : Config} {command : Command} {j j' : Option Value}
    {tr : List RouterEvent} {o : Option Result} (hstart : Recorded before (j, []))
    (hagain : ¬(Session.mk config command j tr).ReportsAgain)
    (he : Exec RouterStep (Controller.main config command) j tr j' o) :
    Recorded (before ++ reportsOf tr) (j', []) := by
  have htracks : Tracks before tr (fun _ _ => True) (Controller.main config command) (j, []) :=
    tracks_main config command j hagain
  have hend : Recorded before (j', tr) :=
    ((htracks hstart).mono (fun _ _ h => h) (fun _ _ h => h.1)).invariant (he.along [])
  have hledger : ledgerAt (before ++ reportsOf tr) (j', []) = ledgerAt before (j', tr) := by
    simp [ledgerAt, reportsOf]
  exact ⟨hledger ▸ hend.unique, fun s hs => hledger ▸ hend.ledger s hs, fun v hv => by
    simpa only [Known, hledger] using hend.written v hv⟩

/-- The reports of the commands run so far determine each other by their attempt. -/
theorem Runs.unique {j j' : Option Value} {log : List Session} (hrun : Runs j log j')
    (hlog : ∀ x ∈ log, ¬x.ReportsAgain) {before : List PendingReport}
    (hstart : Recorded before (j, [])) :
    Unique (before ++ log.flatMap fun x => reportsOf x.trace) := by
  induction hrun generalizing before with
  | nil j => simpa [ledgerAt, reportsOf] using hstart.unique
  | @cons config command j j₁ j₂ tr o log h _ ih =>
    have hnext := recorded_command hstart (hlog _ List.mem_cons_self) h
    have hrest := ih (fun x hx => hlog x (List.mem_cons_of_mem _ hx)) hnext
    rw [List.append_assoc] at hrest
    rw [List.flatMap_cons]
    exact hrest

/-- Two reports with one idempotency key that one router ever persists, from
its first journal on, are the same report. -/
theorem report_of_key {j : Option Value} {log : List Session} (hrun : Runs none log j)
    (hlog : ∀ x ∈ log, ¬x.ReportsAgain) {x y : Session} (hx : x ∈ log) (hy : y ∈ log)
    {p q : PendingReport} (hp : x.Reports p) (hq : y.Reports q)
    (hkey : p.idempotencyKey = q.idempotencyKey) : p.etag = q.etag ∧ p.body = q.body := by
  have hunique := hrun.unique hlog Recorded.initial
  have hsame : p = q := hunique p (List.mem_append_right _ (List.mem_flatMap.mpr ⟨x, hx, hp.mem⟩))
    q (List.mem_append_right _ (List.mem_flatMap.mpr ⟨y, hy, hq.mem⟩)) (congrArg keyAttempt hkey)
  exact ⟨congrArg PendingReport.etag hsame, congrArg PendingReport.body hsame⟩

namespace Sample

def config : Config := ⟨"https://vpn.example", "router-0001", "/etc/autovpn/state"⟩

def confirmed : AdapterReply := .finished (.object [("ok", .bool true)]) 0

def fetched : AdapterReply :=
  .finished (.object [("ok", .bool true), ("status", .int 200), ("etag", .string etag.1),
    ("response_file", .string "/etc/autovpn/state/http-response.1")]) 0

def ready : State :=
  Machine.bump { Machine.initialState with desired := some entry, phase := .ready }

def preparing : State := (Machine.beginApply ready).state

def interrupted : State :=
  (Machine.applyFailed preparing (some adapterStartFailed)).state

def failedClosed : State := (Machine.rolledBack interrupted false (.object [])).state

def closedAccepted : State := (Machine.reportAccepted failedClosed (Machine.reportKey entry)).state

def closedSilent : State := Machine.bump { failedClosed with pendingReport := none }

def recovering : State :=
  (Machine.applyFailed closedSilent (some interruptedApply)).state

def recovered : State :=
  (Machine.rolledBack recovering true Machine.emptyCapabilities.encode).state

def stuck : State := (Machine.rolledBack recovering false (.object [])).state

/-- A first refresh whose adapters fail to start: it fails closed and says so. -/
def firstRefresh : Session where
  config := config
  command := .refresh
  journal := none
  trace :=
    [⟨.maintenanceBlocked, false⟩, ⟨.readJournal, .contents none⟩, ⟨.runtime .restore, confirmed⟩,
      ⟨.credentialReadable, true⟩, ⟨.protectCredential, true⟩, ⟨.fetch "", fetched⟩,
      ⟨.readResponse "/etc/autovpn/state/http-response.1", .contents snapshotValue⟩,
      ⟨.writeJournal ready.encode, true⟩, ⟨.writeJournal preparing.encode, true⟩,
      ⟨.runtime .prepare, .notStarted⟩, ⟨.writeJournal interrupted.encode, true⟩,
      ⟨.runtime .rollback, .notStarted⟩, ⟨.runtime .failClosed, confirmed⟩,
      ⟨.writeJournal failedClosed.encode, true⟩,
      ⟨.putResult (Machine.reportKey entry) etag.1, confirmed⟩,
      ⟨.writeJournal closedAccepted.encode, true⟩]

def recovery (later : List RouterEvent) : Session where
  config := config
  command := .recover
  journal := some closedAccepted.encode
  trace :=
    [⟨.maintenanceBlocked, false⟩, ⟨.readJournal, .contents (some closedAccepted.encode)⟩,
      ⟨.writeJournal recovering.encode, true⟩] ++ later

/-- A recovery of the same attempt, in which the rollback succeeds. -/
def laterRecover : Session := recovery
  [⟨.runtime .rollback, confirmed⟩, ⟨.runtime .capabilities, .notStarted⟩,
    ⟨.writeJournal recovered.encode, true⟩]

/-- One in which it fails again. -/
def stuckRecover : Session := recovery
  [⟨.runtime .rollback, .notStarted⟩, ⟨.runtime .failClosed, confirmed⟩,
    ⟨.writeJournal stuck.encode, true⟩]

theorem closedAccepted_eq : closedAccepted = closedSilent := by
  have hreport : failedClosed.pendingReport.map PendingReport.idempotencyKey =
    some (Machine.reportKey entry) := rfl
  unfold closedAccepted Machine.reportAccepted
  split
  · simp_all
  · simp_all [closedSilent, Machine.done]

theorem closedAccepted_valid : closedAccepted.Valid := by
  have hready : ready.Valid := by
    refine State.Valid.of_core ⟨?_, ?_, ?_, ?_⟩ ?_ ?_ ?_ ?_ rfl
    · intro e he
      obtain rfl := Option.mem_some_iff.mp he
      exact ⟨Nat.le_refl 1, Nat.le_refl 1⟩
    all_goals simp [ready, Machine.bump, Machine.initialState, maxSafeInteger]
  have hpreparing : preparing.Valid :=
    Machine.beginApply_valid hready rfl (by decide : 1 + 1 ≤ maxSafeInteger)
  have hinterrupted : interrupted.Valid :=
    Machine.applyFailed_valid hpreparing rfl (by decide : 2 + 1 ≤ maxSafeInteger) _
  have hclosed : failedClosed.Valid :=
    Machine.rolledBack_valid hinterrupted.core (by decide : 3 + 1 ≤ maxSafeInteger) rfl rfl _ _
  exact Machine.reportAccepted_valid hclosed (by decide : 4 + 1 ≤ maxSafeInteger) _

theorem closedAccepted_loads :
    loadState (.contents (some closedAccepted.encode)) = some closedSilent :=
  closedAccepted_eq ▸ Journal.load_encode closedAccepted_valid Machine.initialState

theorem exec_firstRefresh : Exec RouterStep (Controller.main config .refresh) none
    firstRefresh.trace (some closedAccepted.encode) none := by
  refine exec_main (s := Machine.initialState) rfl ?_
  iterate 5 refine .call (u := none) rfl ?_
  refine .call (u := some ready.encode) rfl ?_
  iterate 2 refine .call (u := some preparing.encode) rfl ?_
  iterate 3 refine .call (u := some interrupted.encode) rfl ?_
  iterate 2 refine .call (u := some failedClosed.encode) rfl ?_
  refine .call (u := some closedAccepted.encode) rfl ?_
  exact .stop _ _

theorem exec_laterRecover : Exec RouterStep (Controller.main config .recover)
    (some closedAccepted.encode) laterRecover.trace (some recovered.encode) none := by
  refine exec_main closedAccepted_loads ?_
  iterate 3 refine .call (u := some recovering.encode) rfl ?_
  refine .call (u := some recovered.encode) rfl ?_
  exact .stop _ _

theorem exec_stuckRecover : Exec RouterStep (Controller.main config .recover)
    (some closedAccepted.encode) stuckRecover.trace (some stuck.encode) none := by
  refine exec_main closedAccepted_loads ?_
  iterate 3 refine .call (u := some recovering.encode) rfl ?_
  refine .call (u := some stuck.encode) rfl ?_
  exact .stop _ _

def closedReport : PendingReport := failedClosed.pendingReport.get rfl

def recoveredReport : PendingReport := recovered.pendingReport.get rfl

def stuckReport : PendingReport := stuck.pendingReport.get rfl

theorem firstRefresh_reports : firstRefresh.Reports closedReport :=
  ⟨failedClosed, by simp [Session.Persists, firstRefresh], rfl⟩

theorem laterRecover_reports : laterRecover.Reports recoveredReport :=
  ⟨recovered, by simp [Session.Persists, laterRecover, recovery], rfl⟩

theorem stuckRecover_reports : stuckRecover.Reports stuckReport :=
  ⟨stuck, by simp [Session.Persists, stuckRecover, recovery], rfl⟩

theorem firstRefresh_reports_once : ¬firstRefresh.ReportsAgain := by
  rintro ⟨s, hs, hrec, _⟩
  obtain rfl : Machine.initialState = s := Option.some.inj hs
  exact absurd hrec (by decide)

theorem stuckRecover_reports_once : ¬stuckRecover.ReportsAgain := by
  rintro ⟨_, _, _, _, hagain⟩
  refine hagain fun pre post reply value htrace hreply => ?_
  have hmem : (⟨.runtime .rollback, reply⟩ : RouterEvent) ∈ stuckRecover.trace := by
    simp [htrace]
  have hstarted : reply = .notStarted := by simpa [stuckRecover, recovery] using hmem
  simp [hstarted, adapterResponse] at hreply

end Sample

/-- An apply that failed closed is reported, and reported again when a later
recovery rolls it back: one key, two bodies. -/
theorem recovery_reports_again :
    ¬∀ (j : Option Value) (log : List Session), Runs none log j →
      ∀ x ∈ log, ∀ y ∈ log, ∀ p q, x.Reports p → y.Reports q →
        p.idempotencyKey = q.idempotencyKey → p.etag = q.etag ∧ p.body = q.body := by
  intro hclaim
  have hrun : Runs none [Sample.firstRefresh, Sample.laterRecover] (some Sample.recovered.encode) :=
    .cons Sample.exec_firstRefresh (.cons Sample.exec_laterRecover (.nil _))
  have hsame := hclaim _ _ hrun _ (by simp) _ (by simp) _ _ Sample.firstRefresh_reports
    Sample.laterRecover_reports rfl
  have hstage : Diagnostics.failure .rollbackFailed Machine.rollbackFailed =
    .failure .rolledBack interruptedApply :=
    congrArg ReportBody.diagnostics hsame.2
  simp at hstage

/-- A recovery that fails again repeats the report of the attempt. -/
theorem stuckRecover_repeats_report :
    Sample.closedReport.etag = Sample.stuckReport.etag ∧
      Sample.closedReport.body = Sample.stuckReport.body := by
  have hlog : ∀ x ∈ [Sample.firstRefresh, Sample.stuckRecover], ¬x.ReportsAgain := by
    simp only [List.forall_mem_cons]
    exact ⟨Sample.firstRefresh_reports_once, Sample.stuckRecover_reports_once, by simp⟩
  exact report_of_key (.cons Sample.exec_firstRefresh (.cons Sample.exec_stuckRecover (.nil _)))
    hlog List.mem_cons_self (List.mem_cons_of_mem _ List.mem_cons_self)
    Sample.firstRefresh_reports Sample.stuckRecover_reports rfl

end AutoVPN
