import AutoVPN.Router.Ledger

/-! The ledger followed through the programs of the controller: what each
command persists belongs to the reports known so far. -/

namespace AutoVPN

open Program Controller

/-- A rollback was confirmed in the trace. -/
def Confirmed (tr : List RouterEvent) : Prop :=
  ∃ pre post reply value, tr = pre ++ ⟨.runtime .rollback, reply⟩ :: post ∧
    adapterResponse reply = .success value

/-- No journal is written after a confirmed rollback. -/
def NoReportAfterRollback (tr : List RouterEvent) : Prop :=
  ∀ pre post reply value, tr = pre ++ (⟨.runtime .rollback, reply⟩ : RouterEvent) :: post →
    adapterResponse reply = .success value →
    ∀ v, (⟨.writeJournal v, true⟩ : RouterEvent) ∉ post

theorem Confirmed.append {tr : List RouterEvent} (h : Confirmed tr) (more : List RouterEvent) :
    Confirmed (tr ++ more) := by
  obtain ⟨pre, post, reply, value, rfl, hreply⟩ := h
  exact ⟨pre, post ++ more, reply, value, by simp, hreply⟩

theorem NoReportAfterRollback.refuses {tr past : List RouterEvent} {v : Value}
    (h : NoReportAfterRollback tr) (hpast : Confirmed past)
    (hpre : past ++ [⟨.writeJournal v, true⟩] <+: tr) : False := by
  obtain ⟨pre, post, reply, value, rfl, hreply⟩ := hpast
  obtain ⟨rest, rfl⟩ := hpre
  exact h pre (post ++ [⟨.writeJournal v, true⟩] ++ rest) reply value (by simp) hreply v (by simp)

/-- The journal and the events of the command so far. -/
abbrev Progress := Option Value × List RouterEvent

section Tracking

variable (before : List PendingReport) (whole : List RouterEvent)

def ledgerAt (w : Progress) : List PendingReport := before ++ reportsOf w.2

def Known (s : State) (w : Progress) : Prop := ∀ p ∈ s.pendingReport, p ∈ ledgerAt before w

/-- What is stored was written by the controller and belongs to the ledger. -/
structure Recorded (w : Progress) : Prop where
  unique : Unique (ledgerAt before w)
  ledger : ∀ s, loadState (.contents w.1) = some s → Ledger s (ledgerAt before w)
  written : ∀ v, w.1 = some v → ∃ s : State, v = s.encode ∧ Known before s w

abbrev Tracks {α : Type} (Q : α → Progress → Prop) (p : Router α) (w : Progress) : Prop :=
  Recorded before w →
    Sat (along RouterStep whole) (fun _ => Recorded before) (fun a w => Recorded before w ∧ Q a w)
      p w

end Tracking

variable {before : List PendingReport} {whole : List RouterEvent} {α : Type} {w : Progress}
  {Q : α → Progress → Prop}

theorem Tracks.pure {a : α} (h : Q a w) : Tracks before whole Q (.done a) w := fun hw => ⟨hw, h⟩

theorem Tracks.bind {β : Type} {p : Router α} {f : α → Router β} {R : β → Progress → Prop}
    (h : Tracks before whole Q p w) (hf : ∀ a w', Q a w' → Tracks before whole R (f a) w') :
    Tracks before whole R (p >>= f) w := fun hw =>
  Sat.bind ((h hw).post fun a w' ha => hf a w' ha.2 ha.1)

theorem Tracks.post {R : α → Progress → Prop} {p : Router α} (h : Tracks before whole Q p w)
    (hq : ∀ a w', Q a w' → R a w') : Tracks before whole R p w := fun hw =>
  (h hw).post fun a w' ha => ⟨ha.1, hq a w' ha.2⟩

theorem Tracks.ite {b : Prop} [Decidable b] {p q : Router α} (hp : b → Tracks before whole Q p w)
    (hq : ¬b → Tracks before whole Q q w) : Tracks before whole Q (if b then p else q) w := by
  split
  · exact hp ‹_›
  · exact hq ‹_›

/-- The calls between `w` and `w'` reported nothing. -/
structure Reads (before : List PendingReport) (w w' : Progress) : Prop where
  journal : w'.1 = w.1
  ledger : ledgerAt before w' = ledgerAt before w
  confirmed : Confirmed w.2 → Confirmed w'.2

theorem Reads.refl (w : Progress) : Reads before w w := ⟨rfl, rfl, id⟩

theorem Reads.trans {w₁ w₂ w₃ : Progress} (h₁ : Reads before w₁ w₂) (h₂ : Reads before w₂ w₃) :
    Reads before w₁ w₃ :=
  ⟨h₂.journal.trans h₁.journal, h₂.ledger.trans h₁.ledger, h₂.confirmed ∘ h₁.confirmed⟩

theorem ledgerAt_append (before : List PendingReport) (w : Progress) (j : Option Value)
    (e : RouterEvent) :
    ledgerAt before (j, w.2 ++ [e]) = ledgerAt before w ++ (persistedReport e).toList := by
  cases h : persistedReport e <;>
    simp [ledgerAt, reportsOf, List.filterMap_append, h]

theorem Recorded.of_same {w w' : Progress} (h : Recorded before w) (hj : w'.1 = w.1)
    (hl : ledgerAt before w' = ledgerAt before w) : Recorded before w' where
  unique := hl ▸ h.unique
  ledger s hs := by
    rw [hl]
    exact h.ledger s (hj ▸ hs)
  written v hv := by
    obtain ⟨s, hs, hknown⟩ := h.written v (hj ▸ hv)
    refine ⟨s, hs, fun p hp => ?_⟩
    rw [hl]
    exact hknown p hp

theorem loadState_encode {s t : State} (h : loadState (.contents (some s.encode)) = some t) :
    t = s := by
  rw [loadState, Journal.load] at h
  split at h
  · rw [State.ofValue_encode] at h
    exact (Option.some.inj h).symm
  · simp at h

theorem Recorded.known {s : State} (h : Recorded before w)
    (hs : loadState (.contents w.1) = some s) : Known before s w := by
  cases hj : w.1 with
  | none =>
    rw [hj] at hs
    obtain rfl : Machine.initialState = s := Option.some.inj hs
    simp [Known, Machine.initialState]
  | some v =>
    obtain ⟨t, rfl, ht⟩ := h.written v hj
    rw [hj] at hs
    exact loadState_encode hs ▸ ht

theorem tracks_ask {c : RouterCall} (hc : ∀ v, c ≠ .writeJournal v) :
    Tracks before whole (fun r w' => Reads before w w' ∧ w'.2 = w.2 ++ [⟨c, r⟩] ∧
      RouterStep c w.1 r w'.1) (ask c) w := by
  intro hw
  refine ⟨hw, fun r w' hs => ?_⟩
  obtain ⟨hstep, hpast, _⟩ := hs
  have hjournal : w'.1 = w.1 := by
    cases c with
    | writeJournal v => exact absurd rfl (hc v)
    | readJournal => exact hstep.1
    | _ => exact hstep
  obtain rfl : w' = (w.1, w.2 ++ [⟨c, r⟩]) := Prod.ext hjournal hpast
  have hnone : persistedReport ⟨c, r⟩ = none := by
    cases c with
    | writeJournal v => exact absurd rfl (hc v)
    | _ => rfl
  have hledger : ledgerAt before (w.1, w.2 ++ [⟨c, r⟩]) = ledgerAt before w := by
    rw [ledgerAt_append, hnone]
    exact List.append_nil _
  exact ⟨hw.of_same rfl hledger, ⟨rfl, hledger, fun h => h.append _⟩, rfl, hstep⟩

theorem persistedReport_encode (s : State) :
    persistedReport ⟨.writeJournal s.encode, true⟩ = s.pendingReport := by
  rw [persistedReport, State.ofValue_encode]
  rfl

theorem tracks_save {s : State}
    (h : Ledger s (ledgerAt before w ++ s.pendingReport.toList)) :
    Tracks before whole (fun r w' => ledgerAt before w' =
      ledgerAt before w ++ if r then s.pendingReport.toList else []) (saveState s) w := by
  intro hw
  refine ⟨hw, fun r w' hs => ?_⟩
  obtain ⟨hstep, hpast, _⟩ := hs
  cases r with
  | false =>
    obtain rfl : w' = (w.1, w.2 ++ [⟨.writeJournal s.encode, false⟩]) := Prod.ext hstep hpast
    have hledger := ledgerAt_append before w w.1 ⟨.writeJournal s.encode, false⟩
    rw [show persistedReport ⟨.writeJournal s.encode, false⟩ = none from rfl, Option.toList_none,
      List.append_nil] at hledger
    exact ⟨hw.of_same rfl hledger, by simpa using hledger⟩
  | true =>
    obtain rfl : w' = (some s.encode, w.2 ++ [⟨.writeJournal s.encode, true⟩]) :=
      Prod.ext hstep hpast
    have hledger :=
      ledgerAt_append before w (some s.encode) ⟨.writeJournal s.encode, true⟩
    rw [persistedReport_encode] at hledger
    refine ⟨⟨?_, ?_, ?_⟩, by simpa using hledger⟩
    · rw [hledger]
      exact h.unique
    · intro t ht
      rw [hledger, loadState_encode ht]
      exact h
    · intro v hv
      refine ⟨s, (Option.some.inj hv).symm, fun p hp => ?_⟩
      rw [hledger]
      exact List.mem_append_right _ (by simpa using hp)

theorem tracks_save_refused {s : State} (hwhole : NoReportAfterRollback whole)
    (hconfirmed : Confirmed w.2) :
    Tracks before whole (fun r w' => r = false ∧ ledgerAt before w' = ledgerAt before w)
      (saveState s) w := by
  intro hw
  refine ⟨hw, fun r w' hs => ?_⟩
  obtain ⟨hstep, hpast, hpre⟩ := hs
  cases r with
  | true =>
    rw [hpast] at hpre
    exact absurd hpre fun h => hwhole.refuses hconfirmed h
  | false =>
    obtain rfl : w' = (w.1, w.2 ++ [⟨.writeJournal s.encode, false⟩]) := Prod.ext hstep hpast
    have hledger := ledgerAt_append before w w.1 ⟨.writeJournal s.encode, false⟩
    rw [show persistedReport ⟨.writeJournal s.encode, false⟩ = none from rfl, Option.toList_none,
      List.append_nil] at hledger
    exact ⟨hw.of_same rfl hledger, rfl, hledger⟩

/-- The outcomes of `persist`: nothing was written, or the transition stands. -/
def Persisted (before : List PendingReport) (w : Progress) (t r : Transition) (w' : Progress) :
    Prop :=
  r.state = t.state ∧
    ((r.ok = false ∧ ledgerAt before w' = ledgerAt before w) ∨
      (r = t ∧ ledgerAt before w' = ledgerAt before w ++ t.state.pendingReport.toList))

theorem tracks_persist {t : Transition}
    (h : Ledger t.state (ledgerAt before w ++ t.state.pendingReport.toList)) :
    Tracks before whole (fun r w' => Persisted before w t r w') (persist t) w := by
  unfold persist
  refine Tracks.ite (fun hrefused => Tracks.pure ⟨rfl, .inl ⟨?_, rfl⟩⟩) fun _ => ?_
  · simp only [Bool.and_eq_true, Bool.not_eq_true'] at hrefused
    exact hrefused.1
  · refine (tracks_save h).bind fun r w' hr => ?_
    refine Tracks.ite (fun hsaved => Tracks.pure ⟨rfl, .inr ⟨rfl, ?_⟩⟩)
      fun hsaved => Tracks.pure ⟨rfl, .inl ⟨rfl, ?_⟩⟩
    · simpa [hsaved] using hr
    · simpa [hsaved] using hr

theorem tracks_persist_silent {t : Transition} (h : Ledger t.state (ledgerAt before w))
    (hsilent : t.state.pendingReport = none) :
    Tracks before whole (fun r w' => r.state = t.state ∧ ledgerAt before w' = ledgerAt before w)
      (persist t) w := by
  refine (tracks_persist (by simpa [hsilent] using h)).post fun r w' hr => ⟨hr.1, ?_⟩
  rcases hr.2 with hr | hr
  · exact hr.2
  · simpa [hsilent] using hr.2

theorem tracks_runtime (action : Action) :
    Tracks before whole (fun r w' => Reads before w w' ∧ ∃ reply, r = adapterResponse reply ∧
      w'.2 = w.2 ++ [⟨.runtime action, reply⟩]) (runtimeAction action) w :=
  (tracks_ask (by simp)).bind fun reply _ h => Tracks.pure ⟨h.1, reply, rfl, h.2.1⟩

theorem tracks_capabilitiesOf (value : Value) :
    Tracks before whole (fun _ w' => Reads before w w') (capabilitiesOf value) w := by
  refine Tracks.ite (fun _ => Tracks.pure (.refl w)) fun _ => ?_
  refine (tracks_runtime .capabilities).bind fun response _ h => ?_
  cases response <;> exact Tracks.pure h.1

theorem withProfile_ledger {s : State} {ledger : List PendingReport} (h : Ledger s ledger)
    (value : Value) : Ledger (withProfile s value) ledger ∧
      (withProfile s value).rejected = s.rejected := by
  unfold withProfile
  split
  · exact ⟨h, rfl⟩
  · exact ⟨h.step (Nat.le_refl _) (fun _ he => he) id, rfl⟩

theorem tracks_persist_rolledBack {s : State} (h : Ledger s (ledgerAt before w))
    (hphase : s.phase = .rollingBack) (hdesired : s.desired.isSome = true)
    (hallowed : s.rejected = none ∨ NoReportAfterRollback whole ∧ Confirmed w.2)
    (capabilities : Value) :
    Tracks before whole
      (fun _ w' => Ledger (Machine.rolledBack s true capabilities).state (ledgerAt before w'))
      (persist (Machine.rolledBack s true capabilities)) w := by
  have hunsaved := Machine.rolledBack_ledger_unsaved h true capabilities
  rcases hallowed with hrejected | ⟨hwhole, hconfirmed⟩
  · have hsaved := Machine.rolledBack_ledger h hrejected hphase hdesired capabilities
    refine (tracks_persist hsaved).post fun r w' hr => ?_
    rcases hr.2 with hr | hr
    · rw [hr.2]
      exact hunsaved
    · rw [hr.2]
      exact hsaved
  · unfold persist
    refine Tracks.ite (fun _ => Tracks.pure hunsaved) fun _ => ?_
    refine (tracks_save_refused hwhole hconfirmed).bind fun r w' hr => ?_
    refine Tracks.ite (fun _ => Tracks.pure ?_) fun _ => Tracks.pure ?_
    all_goals
      rw [hr.2]
      exact hunsaved

/-- The state of a result fits the ledger. -/
def ResultTracked (before : List PendingReport) (r : Result) (w : Progress) : Prop :=
  ∃ s, r.state = some s ∧ Ledger s (ledgerAt before w)

theorem tracks_rollbackDesired {s : State} (h : Ledger s (ledgerAt before w))
    (hknown : Known before s w) (hreport : s.rejected = none ∨ NoReportAfterRollback whole)
    (failureCode : Option Code) :
    Tracks before whole (ResultTracked before) (rollbackDesired s failureCode) w := by
  unfold rollbackDesired
  by_cases hdesired : s.desired.isSome = true
  · have hfailed : Machine.applyFailed s failureCode = Machine.done (Machine.bump
        { s with phase := .rollingBack, lastError := failureCode }) := if_pos hdesired
    have hledger := Machine.applyFailed_ledger h failureCode
    have hsave : Ledger (Machine.applyFailed s failureCode).state (ledgerAt before w ++
        (Machine.applyFailed s failureCode).state.pendingReport.toList) := by
      refine hledger.resave ?_
      rw [hfailed]
      exact hknown
    refine Tracks.ite (fun hrefused => ?_) fun _ => ?_
    · simp [hfailed] at hrefused
    refine (tracks_persist hsave).bind fun _ w₁ hp => ?_
    have hledger : Ledger (Machine.applyFailed s failureCode).state (ledgerAt before w₁) := by
      rcases hp.2 with hp | hp
      · rw [hp.2]
        exact hledger
      · rw [hp.2]
        exact hsave
    have hphase : (Machine.applyFailed s failureCode).state.phase = .rollingBack := by
      rw [hfailed]; rfl
    have hdes : (Machine.applyFailed s failureCode).state.desired.isSome = true := by
      rw [hfailed]; exact hdesired
    refine (tracks_runtime .rollback).bind fun response w₂ hresponse => ?_
    obtain ⟨hreads, reply, hreply, hpast⟩ := hresponse
    cases response with
    | success value =>
      have hconfirmed : Confirmed w₂.2 := ⟨w₁.2, [], reply, value, hpast, hreply.symm⟩
      refine (tracks_capabilitiesOf value).bind fun capabilities w₃ hreads' => ?_
      have hl : Ledger (withProfile (Machine.applyFailed s failureCode).state value)
          (ledgerAt before w₃) := by
        rw [hreads'.ledger, hreads.ledger]
        exact (withProfile_ledger hledger value).1
      obtain ⟨hwphase, hwdesired, _⟩ :=
        withProfile_fields (Machine.applyFailed s failureCode).state value
      have hallowed : (withProfile (Machine.applyFailed s failureCode).state value).rejected = none ∨
          NoReportAfterRollback whole ∧ Confirmed w₃.2 := by
        rcases hreport with hnone | hwhole
        · rw [(withProfile_ledger hledger value).2, hfailed]
          exact .inl hnone
        · exact .inr ⟨hwhole, hreads'.confirmed hconfirmed⟩
      have hentry := hwdesired.symm ▸ hdes
      refine (tracks_persist_rolledBack hl (hwphase.trans hphase) hentry hallowed
        capabilities).bind fun stored w₄ hstored => ?_
      exact Tracks.ite (fun _ => Tracks.pure ⟨_, rfl, hstored⟩) fun _ => Tracks.pure ⟨_, rfl, hstored⟩
    | failure failure =>
      refine (tracks_runtime .failClosed).bind fun _ w₃ hreads' => ?_
      have hl : Ledger (Machine.applyFailed s failureCode).state (ledgerAt before w₃) := by
        rw [hreads'.1.ledger, hreads.ledger]
        exact hledger
      have hsaved := Machine.failClosed_ledger hl hphase hdes
      refine (tracks_persist hsaved).bind fun _ w₄ hr => Tracks.pure ⟨_, rfl, ?_⟩
      rcases hr.2 with hr | hr
      · rw [hr.2]
        exact Machine.rolledBack_ledger_unsaved hl false _
      · rw [hr.2]
        exact hsaved
  · have hfailed : Machine.applyFailed s failureCode = Machine.failed Machine.invalidPhase s :=
      if_neg hdesired
    rw [hfailed]
    exact Tracks.pure ⟨s, rfl, h⟩

/-- A state of an apply whose attempt has not been reported. -/
structure Unreported (before : List PendingReport) (s : State) (w : Progress) : Prop where
  ledger : Ledger s (ledgerAt before w)
  silent : s.pendingReport = none
  rejected : s.rejected = none

theorem Unreported.known {s : State} (h : Unreported before s w) : Known before s w := by
  simp [Known, h.silent]

theorem Unreported.of_ledger {s : State} {w' : Progress} (h : Unreported before s w)
    (hl : ledgerAt before w' = ledgerAt before w) : Unreported before s w' :=
  ⟨hl ▸ h.ledger, h.silent, h.rejected⟩

theorem tracks_rollback {s : State} (h : Unreported before s w) (code : Option Code) :
    Tracks before whole (ResultTracked before) (rollbackDesired s code) w :=
  tracks_rollbackDesired h.ledger h.known (.inl h.rejected) code

theorem beginApply_unreported {s : State} (h : Unreported before s w) :
    Unreported before (Machine.beginApply s).state w := by
  refine ⟨Machine.beginApply_ledger h.ledger, ?_, ?_⟩
  all_goals
    unfold Machine.beginApply
    split
  exacts [h.silent, h.silent, h.rejected, h.rejected]

theorem advance_unreported (source target : Phase) {s : State} (h : Unreported before s w) :
    Unreported before (Machine.advance source target s).state w := by
  refine ⟨Machine.advance_ledger h.ledger, ?_, ?_⟩
  all_goals
    unfold Machine.advance
    split
  exacts [h.silent, h.silent, h.rejected, h.rejected]

theorem tracks_checkpoint {source target : Phase} {s : State} {next : Router Result}
    (h : Unreported before s w)
    (hnext : ∀ w', Unreported before (Machine.advance source target s).state w' →
      Tracks before whole (ResultTracked before) next w') :
    Tracks before whole (ResultTracked before) (do
      let transition ← persist (Machine.advance source target s)
      if !transition.ok then rollbackDesired s transition.code else next) w := by
  have hadvance := advance_unreported source target h
  refine (tracks_persist_silent hadvance.ledger hadvance.silent).bind fun transition w' hp => ?_
  refine Tracks.ite (fun _ => ?_) fun _ => ?_
  · exact tracks_rollback (h.of_ledger hp.2) transition.code
  · exact hnext w' (hadvance.of_ledger hp.2)

theorem tracks_commit {s : State} (h : Unreported before s w) (profile : Option Profile)
    (capabilities : Value) :
    Tracks before whole (ResultTracked before) (do
      let committed ← persist (Machine.verified s profile capabilities)
      if !committed.ok then rollbackDesired s committed.code
      else
        return { ok := committed.ok, code := committed.code, outcome := some .applied,
                 state := some committed.state }) w := by
  have hsaved := Machine.verified_ledger h.ledger h.rejected h.silent profile capabilities
  refine (tracks_persist hsaved).bind fun committed w' hc => ?_
  refine Tracks.ite (fun hfailed => ?_) fun hok => Tracks.pure ⟨_, rfl, ?_⟩
  · rcases hc.2 with hl | ⟨rfl, hl⟩
    · exact tracks_rollback (h.of_ledger hl.2) _
    · rcases Machine.verified_cases s profile capabilities with hv | hv
      · refine tracks_rollback (h.of_ledger ?_) _
        rw [hl, hv, Machine.failed_state, h.silent]
        exact List.append_nil _
      · simp [hv.1] at hfailed
  · rcases hc.2 with hl | ⟨rfl, hl⟩
    · simp [hl.1] at hok
    · rw [hl]
      exact hsaved

theorem tracks_applyDesired {s : State} (h : Unreported before s w) :
    Tracks before whole (ResultTracked before) (applyDesired s) w := by
  unfold applyDesired
  have hbegun := beginApply_unreported h
  refine (tracks_persist_silent hbegun.ledger hbegun.silent).bind fun transition w₁ hp => ?_
  have hbegun := hbegun.of_ledger hp.2
  refine Tracks.ite (fun _ => Tracks.pure ⟨_, rfl, ?_⟩) fun _ => ?_
  · rw [hp.1]
    exact hbegun.ledger
  refine (tracks_runtime .prepare).bind fun response w₂ hreads => ?_
  have hbegun := hbegun.of_ledger hreads.1.ledger
  cases response with
  | failure failure => exact tracks_rollback hbegun _
  | success _ =>
    refine tracks_checkpoint hbegun fun w₃ hprepared => ?_
    refine tracks_checkpoint hprepared fun w₄ hactivating => ?_
    refine (tracks_runtime .activate).bind fun response w₅ hreads => ?_
    have hactivating := hactivating.of_ledger hreads.1.ledger
    cases response with
    | failure failure => exact tracks_rollback hactivating _
    | success _ =>
      refine tracks_checkpoint hactivating fun w₆ hactivated => ?_
      refine (tracks_runtime .verify).bind fun response w₇ hreads => ?_
      have hactivated := hactivated.of_ledger hreads.1.ledger
      cases response with
      | failure failure => exact tracks_rollback hactivated _
      | success value =>
        refine (tracks_capabilitiesOf value).bind fun capabilities w₈ hreads => ?_
        have hactivated := hactivated.of_ledger hreads.ledger
        exact tracks_commit hactivated _ capabilities

theorem tracks_reportPending {s : State} (h : Ledger s (ledgerAt before w)) :
    Tracks before whole (fun r w' => Ledger r.state (ledgerAt before w') ∧
      (r.ok = true → r.state.pendingReport = none)) (reportPending s) w := by
  unfold reportPending
  cases hp : s.pendingReport with
  | none => exact Tracks.pure ⟨h, fun _ => hp⟩
  | some report =>
    refine (tracks_ask (by simp)).bind fun reply w₁ hreads => ?_
    have h := hreads.1.ledger ▸ h
    cases adapterResponse reply with
    | failure failure => exact Tracks.pure ⟨h, by simp⟩
    | success _ =>
      have hsilent : (Machine.reportAccepted s report.idempotencyKey).state.pendingReport = none := by
        simp [Machine.reportAccepted, hp, Machine.bump]
      have hledger := Machine.reportAccepted_ledger h report.idempotencyKey
      refine (tracks_persist_silent hledger hsilent).post fun r w' hr => ?_
      rw [hr.1, hr.2]
      exact ⟨hledger, fun _ => hsilent⟩

theorem tracks_applyAndReport {s : State} (h : Unreported before s w) :
    Tracks before whole (fun _ _ => True) (applyAndReport s) w := by
  unfold applyAndReport
  refine (tracks_applyDesired h).bind fun applied w' happ => ?_
  refine Tracks.ite (fun _ => Tracks.pure trivial) fun _ => ?_
  obtain ⟨st, hst, hledger⟩ := happ
  rw [hst]
  exact (tracks_reportPending hledger).bind fun _ _ _ => Tracks.pure trivial

theorem tracks_recover {s : State} (h : Ledger s (ledgerAt before w)) (hknown : Known before s w)
    (hreport : Machine.recoverRequired s = true →
      s.rejected = none ∨ NoReportAfterRollback whole) :
    Tracks before whole (ResultTracked before) (recover s) w := by
  refine Tracks.ite (fun _ => Tracks.pure ⟨s, rfl, h⟩) fun hrec => ?_
  exact tracks_rollbackDesired h hknown (hreport (by simpa using hrec)) _

theorem tracks_restoreRuntime (s : State) :
    Tracks before whole (fun _ w' => Reads before w w') (restoreRuntime s) w := by
  refine (tracks_runtime .restore).bind fun response w₁ hreads => ?_
  cases response with
  | failure failure =>
    exact (tracks_runtime .failClosed).bind fun _ _ h => Tracks.pure (hreads.1.trans h.1)
  | success value =>
    exact Tracks.ite (fun _ => Tracks.pure hreads.1) fun _ => Tracks.pure hreads.1

theorem tracks_saveReceived {s : State} (h : Ledger s (ledgerAt before w))
    (hsilent : s.pendingReport = none) (snapshot etag : Value) (force : Bool) :
    Tracks before whole (fun _ w' =>
      (Machine.receiveSnapshot s snapshot etag force).ok = true →
      (Machine.receiveSnapshot s snapshot etag force).noop = false →
      Unreported before (Machine.receiveSnapshot s snapshot etag force).state w')
      (saveState (Machine.receiveSnapshot s snapshot etag force).state) w := by
  have hledger := Machine.receiveSnapshot_ledger h snapshot etag force
  have hpending := (Machine.receiveSnapshot_pending s snapshot etag force).trans hsilent
  refine (tracks_save (by simpa [hpending] using hledger)).post fun r w' hr hok hnoop => ?_
  have hsame : ledgerAt before w' = ledgerAt before w := by simpa [hpending] using hr
  exact ⟨hsame ▸ hledger, hpending, Machine.receiveSnapshot_accepted hok hnoop⟩

theorem receiveSnapshot_force (s : State) (snapshot etag : Value)
    (hok : (Machine.receiveSnapshot s snapshot etag true).ok = true) :
    (Machine.receiveSnapshot s snapshot etag true).noop = false := by
  revert hok
  unfold Machine.receiveSnapshot
  split
  · simp
  · split
    · simp
    · split
      · simp_all
      · split
        · simp
        · exact fun _ => rfl

theorem tracks_applyPolicy {s : State} (h : Ledger s (ledgerAt before w))
    (hknown : Known before s w) (hreport : Machine.recoverRequired s = true →
      s.rejected = none ∨ NoReportAfterRollback whole) :
    Tracks before whole (fun _ _ => True) (applyPolicy s) w := by
  unfold applyPolicy
  refine (tracks_recover h hknown hreport).bind fun recovered _ hrec => ?_
  obtain ⟨st, hst, hledger⟩ := hrec
  refine Tracks.ite (fun _ => Tracks.pure trivial) fun _ => ?_
  rw [hst]
  refine (tracks_reportPending hledger).bind fun reported _ hrep => ?_
  refine Tracks.ite (fun _ => Tracks.pure trivial) fun hok => ?_
  have hsilent := hrep.2 (by simpa using hok)
  dsimp only
  split
  · exact Tracks.pure trivial
  · rename_i applied _
    refine Tracks.ite (fun _ => Tracks.pure trivial) fun haccepted => ?_
    have haccepted : (Machine.receiveSnapshot reported.state applied.snapshot.value
      (.string applied.etag.1) true).ok = true := by simpa using haccepted
    refine (tracks_saveReceived hrep.1 hsilent _ _ true).bind fun saved _ hsaved => ?_
    refine Tracks.ite (fun _ => Tracks.pure trivial) fun _ => ?_
    exact tracks_applyAndReport (hsaved haccepted (receiveSnapshot_force _ _ _ haccepted))

theorem tracks_checkConfiguration (config : Config) :
    Tracks before whole (fun _ w' => Reads before w w') (checkConfiguration config) w := by
  unfold checkConfiguration
  refine Tracks.ite (fun _ => Tracks.pure (.refl w)) fun _ => ?_
  refine (tracks_ask (by simp)).bind fun readable w₁ h₁ => ?_
  refine Tracks.ite (fun _ => Tracks.pure h₁.1) fun _ => ?_
  refine (tracks_ask (by simp)).bind fun guarded w₂ h₂ => ?_
  have h := h₁.1.trans h₂.1
  refine Tracks.ite (fun _ => Tracks.pure h) fun _ => Tracks.ite (fun _ => Tracks.pure h) fun _ => ?_
  exact Tracks.ite (fun _ => Tracks.pure h) fun _ => Tracks.pure h

theorem tracks_consumeSnapshot (config : Config) (response : Value) :
    Tracks before whole (fun _ w' => Reads before w w') (consumeSnapshot config response) w := by
  unfold consumeSnapshot
  cases validResponsePath config.stateDir (response.get "response_file") with
  | none => exact Tracks.pure (.refl w)
  | some path =>
    refine (tracks_ask (by simp)).bind fun file _ h => ?_
    cases file <;> exact Tracks.pure h.1

theorem tracks_fetchAndApply {s : State} (h : Ledger s (ledgerAt before w))
    (hsilent : s.pendingReport = none) (config : Config) (restored : Result) :
    Tracks before whole (fun _ _ => True) (fetchAndApply config restored s) w := by
  unfold fetchAndApply
  refine (tracks_checkConfiguration config).bind fun failure w₁ h₁ => ?_
  cases failure with
  | some failure => exact Tracks.pure trivial
  | none =>
    refine (tracks_ask (by simp)).bind fun reply w₂ h₂ => ?_
    cases adapterResponse reply with
    | failure failure => exact Tracks.pure trivial
    | success response =>
      dsimp only
      refine Tracks.ite (fun _ => Tracks.pure trivial) fun _ => ?_
      refine Tracks.ite (fun _ => Tracks.pure trivial) fun _ => ?_
      refine (tracks_consumeSnapshot config response).bind fun snapshot w₃ h₃ => ?_
      have hl : Ledger s (ledgerAt before w₃) := by
        rw [h₃.ledger, h₂.1.ledger, h₁.ledger]
        exact h
      cases snapshot with
      | inl failure => exact Tracks.pure trivial
      | inr body =>
        refine Tracks.ite (fun _ => Tracks.pure trivial) fun _ => Tracks.ite (fun _ => ?_) fun hok => ?_
        · refine Tracks.ite (fun _ => ?_) fun _ => Tracks.pure trivial
          exact (tracks_saveReceived hl hsilent _ _ false).bind fun _ _ _ => Tracks.pure trivial
        · refine Tracks.ite (fun _ => Tracks.pure trivial) fun hnoop => ?_
          refine (tracks_saveReceived hl hsilent _ _ false).bind fun saved _ hsaved => ?_
          refine Tracks.ite (fun _ => Tracks.pure trivial) fun _ => tracks_applyAndReport ?_
          exact hsaved (by simpa using hok) (by simpa using hnoop)

theorem tracks_refresh {s : State} (h : Ledger s (ledgerAt before w))
    (hknown : Known before s w) (hreport : Machine.recoverRequired s = true →
      s.rejected = none ∨ NoReportAfterRollback whole) (config : Config) :
    Tracks before whole (fun _ _ => True) (refresh config s) w := by
  unfold refresh
  refine (tracks_recover h hknown hreport).bind fun recovered _ hrec => ?_
  obtain ⟨st, hst, hledger⟩ := hrec
  refine Tracks.ite (fun _ => Tracks.pure trivial) fun _ => ?_
  rw [hst]
  refine (tracks_restoreRuntime _).bind fun restored w₁ hreads => ?_
  refine (tracks_reportPending (hreads.ledger ▸ hledger)).bind fun reported _ hrep => ?_
  refine Tracks.ite (fun _ => Tracks.pure trivial) fun hok => ?_
  exact tracks_fetchAndApply hrep.1 (hrep.2 (by simpa using hok)) config restored

theorem tracks_stop : Tracks before whole (fun _ _ => True) stop w := by
  refine (tracks_runtime .failClosed).bind fun response _ _ => ?_
  cases response <;> exact Tracks.pure trivial

theorem tracks_healthTick {s : State} (h : Ledger s (ledgerAt before w))
    (hknown : Known before s w) : Tracks before whole (fun _ _ => True) (healthTick s) w := by
  unfold healthTick
  refine Tracks.ite (fun _ => Tracks.pure trivial) fun _ => ?_
  refine (tracks_runtime .healthTick).bind fun response w₁ hreads => ?_
  have hledger := hreads.1.ledger
  cases response with
  | failure failure => exact Tracks.pure trivial
  | success value =>
    dsimp only
    refine Tracks.ite (fun _ => Tracks.pure trivial) fun _ => ?_
    have hstep : Ledger { s with activeProfile := safeActiveProfile (value.get "active_profile") }
        (ledgerAt before w₁) := by
      rw [hledger]
      exact h.step (Nat.le_refl _) (fun _ he => he) id
    refine (tracks_save (hstep.resave fun p hp => hledger ▸ hknown p hp)).bind fun _ _ _ => ?_
    exact Tracks.ite (fun _ => Tracks.pure trivial) fun _ => Tracks.pure trivial

end AutoVPN
