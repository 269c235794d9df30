import AutoVPN.Router.Runs

/-! Closure of the journal: what the commands write is accepted again. The
budget counts the writes that are left before the sequence would overflow. -/

namespace AutoVPN

open Program

namespace Controller

/-- Steps whose events meet `C`, drawing journal writes from a budget. -/
abbrev BudgetStep (C : RouterEvent → Prop) :
    (c : RouterCall) → Option Value × Nat → c.Answer → Option Value × Nat → Prop :=
  metered (fun c j r j' => RouterStep c j r j' ∧ C ⟨c, r⟩) writeCost

/-- The stored journal can be loaded. -/
def Holds (w : Option Value × Nat) : Prop := Loadable w.1

/-- What is written while the budget lasts is valid. -/
def WritesValid (c : RouterCall) (w : Option Value × Nat) : Prop :=
  Holds w ∧ ∀ v, c = .writeJournal v → 0 < w.2 → Journal.validState v = true

/-- A state at hand that can be written, with room for the writes that are left. -/
structure Usable (s : State) (n : Nat) : Prop where
  valid : s.Valid
  room : s.sequence + n ≤ maxSafeInteger

structure Quiet (s : State) (n : Nat) : Prop extends Usable s n where
  silent : s.pendingReport = none

variable {C : RouterEvent → Prop} {α : Type} {w : Option Value × Nat} {Q : α → Option Value × Nat → Prop}

/-- A program that only writes valid journals, started from a loadable one. -/
abbrev Keeps (C : RouterEvent → Prop) (Q : α → Option Value × Nat → Prop) (p : Router α)
    (w : Option Value × Nat) : Prop :=
  Holds w → Sat (BudgetStep C) WritesValid (fun a w => Holds w ∧ Q a w) p w

theorem Keeps.pure {a : α} (h : Q a w) : Keeps C Q (.done a) w := fun hw => ⟨hw, h⟩

theorem Keeps.bind {β : Type} {p : Router α} {f : α → Router β}
    {R : β → Option Value × Nat → Prop} (h : Keeps C Q p w)
    (hf : ∀ a w', Q a w' → Keeps C R (f a) w') : Keeps C R (p >>= f) w := fun hw =>
  Sat.bind ((h hw).post fun a w' ha => hf a w' ha.2 ha.1)

theorem Keeps.post {R : α → Option Value × Nat → Prop} {p : Router α} (h : Keeps C Q p w)
    (hq : ∀ a w', Q a w' → R a w') : Keeps C R p w := fun hw =>
  (h hw).post fun a w' ha => ⟨ha.1, hq a w' ha.2⟩

theorem Keeps.ite {b : Prop} [Decidable b] {p q : Router α} (hp : b → Keeps C Q p w)
    (hq : ¬b → Keeps C Q q w) : Keeps C Q (if b then p else q) w := by
  split
  · exact hp ‹_›
  · exact hq ‹_›

theorem keeps_ask {c : RouterCall} (hc : ∀ v, c ≠ .writeJournal v) :
    Keeps C (fun r w' => w' = w ∧ C ⟨c, r⟩) (ask c) w := by
  intro hw
  refine ⟨⟨hw, fun v hv => absurd hv (hc v)⟩, fun r w' hs => ?_⟩
  obtain ⟨⟨hstep, hC⟩, hcost⟩ := hs
  have hsame : w' = w := by
    cases c with
    | writeJournal v => exact absurd rfl (hc v)
    | readJournal => exact Prod.ext hstep.1 hcost.symm
    | _ => exact Prod.ext hstep hcost.symm
  subst hsame
  exact ⟨hw, rfl, hC⟩

theorem keeps_save {s : State} (hvalid : s.sequence ≤ maxSafeInteger → s.Valid)
    (hroom : s.sequence + w.2 ≤ maxSafeInteger + 1) :
    Keeps C (fun _ w' => w.2 = w'.2 + 1 ∧ Usable s w'.2) (saveState s) w := by
  intro hw
  refine ⟨⟨hw, ?_⟩, fun r w' hs => ?_⟩
  · rintro v hv hpos
    obtain rfl := RouterCall.writeJournal.inj hv
    exact (Journal.validState_encode s).mpr (hvalid (by omega))
  · obtain ⟨⟨hstep, _⟩, hcost⟩ := hs
    have hcost : w.2 = w'.2 + 1 := hcost
    have hs := hvalid (by omega)
    refine ⟨?_, hcost, hs, by omega⟩
    rw [Holds, hstep]
    cases r
    · exact hw
    · exact Loadable.of_valid hs

/-- A transition refuses the phase or makes one step of the sequence. -/
structure Advances (s : State) (t : Transition) : Prop where
  valid : t.state.sequence ≤ maxSafeInteger → t.state.Valid
  step : (t.ok = false ∧ t.code = some Machine.invalidPhase ∧ t.state = s) ∨
    ((t.ok = true ∨ t.code ≠ some Machine.invalidPhase) ∧ t.state.sequence = s.sequence + 1)

theorem keeps_persist {s : State} {t : Transition} (ht : Advances s t)
    (hs : s.sequence + w.2 ≤ maxSafeInteger) :
    Keeps C (fun r w' => Usable t.state w'.2 ∧ w'.2 ≤ w.2 ∧ r.state = t.state ∧
      (r.ok = true → t.ok = true)) (persist t) w := by
  unfold persist
  refine Keeps.ite (fun hrefused => ?_) fun hrefused => ?_
  · have hsame : t.state = s := by
      rcases ht.step with h | h
      · exact h.2.2
      · simp only [Bool.and_eq_true, Bool.not_eq_true', beq_iff_eq] at hrefused
        rcases h.1 with h | h
        · simp [h] at hrefused
        · exact absurd hrefused.2 h
    have hv := ht.valid (by rw [hsame]; omega)
    exact Keeps.pure ⟨⟨hv, by rw [hsame]; exact hs⟩, Nat.le_refl _, rfl, id⟩
  · have hseq : t.state.sequence = s.sequence + 1 := by
      rcases ht.step with h | h
      · simp [h.1, h.2.1] at hrefused
      · exact h.2
    refine (keeps_save ht.valid (by omega)).bind fun r w' hr => ?_
    refine Keeps.ite (fun _ => Keeps.pure ?_) fun _ => Keeps.pure ?_
    · exact ⟨hr.2, by omega, rfl, id⟩
    · exact ⟨hr.2, by omega, rfl, by simp⟩

theorem Advances.of_valid {s : State} {t : Transition} (hs : s.Valid)
    (hcases : t = Machine.failed Machine.invalidPhase s ∨
      (t.ok = true ∧ t.state.sequence = s.sequence + 1))
    (hvalid : Machine.Room s → t.state.Valid) : Advances s t := by
  rcases hcases with rfl | ⟨hok, hseq⟩
  · exact ⟨fun _ => hs, .inl ⟨rfl, rfl, rfl⟩⟩
  · refine ⟨fun hle => hvalid ?_, .inr ⟨.inl hok, hseq⟩⟩
    rw [Machine.Room, ← hseq]
    exact hle

theorem Quiet.of_usable {s : State} {n : Nat} (h : Usable s n) (hsilent : s.pendingReport = none) :
    Quiet s n := ⟨h, hsilent⟩

theorem Quiet.mono {s : State} {m n : Nat} (h : Quiet s m) (hmn : n ≤ m) : Quiet s n :=
  ⟨⟨h.valid, by have := h.room; omega⟩, h.silent⟩

theorem beginApply_silent {s : State} (h : s.pendingReport = none) :
    (Machine.beginApply s).state.pendingReport = none := by
  unfold Machine.beginApply
  split <;> exact h

theorem advance_silent {source target : Phase} {s : State} (h : s.pendingReport = none) :
    (Machine.advance source target s).state.pendingReport = none := by
  unfold Machine.advance
  split <;> exact h

theorem beginApply_advances {s : State} {n : Nat} (h : Quiet s n) :
    Advances s (Machine.beginApply s) :=
  .of_valid h.valid (Machine.beginApply_cases s) fun hr => Machine.beginApply_valid h.valid h.silent hr

theorem advance_advances {source target : Phase} {s : State} {n : Nat} (h : Quiet s n)
    (hsource : source ≠ .idle) (htarget : target ≠ .idle) (hclosed : target ≠ .failClosed) :
    Advances s (Machine.advance source target s) :=
  .of_valid h.valid (Machine.advance_cases source target s) fun hr =>
    Machine.advance_valid h.valid hsource htarget hclosed h.silent hr

theorem verified_advances {s : State} {n : Nat} (h : Quiet s n) (profile : Option Profile)
    (capabilities : Value) : Advances s (Machine.verified s profile capabilities) :=
  .of_valid h.valid (Machine.verified_cases s profile capabilities) fun hr =>
    Machine.verified_valid h.valid hr profile capabilities

theorem rolledBack_advances {s : State} (h : s.Core) (hphase : s.phase = .rollingBack)
    (hdesired : s.desired.isSome = true) (ok : Bool) (capabilities : Value) :
    Advances s (Machine.rolledBack s ok capabilities) := by
  obtain ⟨entry, hentry⟩ := Option.isSome_iff_exists.mp hdesired
  have hseq : (Machine.rolledBack s ok capabilities).state.sequence = s.sequence + 1 := by
    unfold Machine.rolledBack
    rw [hphase, hentry]
    rfl
  refine ⟨fun hle => Machine.rolledBack_valid h (by rw [Machine.Room, ← hseq]; exact hle) hphase
    hdesired ok capabilities, .inr ⟨?_, hseq⟩⟩
  unfold Machine.rolledBack
  rw [hphase, hentry]
  cases ok
  · have hne : some Machine.rollbackFailed ≠ some Machine.invalidPhase := by decide
    exact .inr hne
  · exact .inl rfl

theorem keeps_runtime (action : Action) :
    Keeps C (fun r w' => w' = w ∧ ∃ reply, r = adapterResponse reply ∧ C ⟨.runtime action, reply⟩)
      (runtimeAction action) w :=
  (keeps_ask (by simp)).bind fun reply _ h => Keeps.pure ⟨h.1, reply, rfl, h.2⟩

theorem keeps_runtimeCapabilities : Keeps C (fun _ w' => w' = w) runtimeCapabilities w := by
  refine (keeps_runtime .capabilities).bind fun r _ h => ?_
  cases r <;> exact Keeps.pure h.1

theorem keeps_capabilitiesOf (value : Value) :
    Keeps C (fun _ w' => w' = w) (capabilitiesOf value) w :=
  Keeps.ite (fun _ => Keeps.pure rfl) fun _ => keeps_runtimeCapabilities

/-- The result carries a state that can be written. -/
def ResultUsable (r : Result) (w : Option Value × Nat) : Prop :=
  ∃ s, r.state = some s ∧ Usable s w.2

theorem withProfile_core {s : State} (h : s.Core) (value : Value) : (withProfile s value).Core := by
  unfold withProfile
  split
  · exact h
  · exact ⟨h.desired, h.applied, h.lastGood, h.lastGood_applied⟩

theorem keeps_rollbackDesired {s : State} (h : Quiet s w.2) (failureCode : Option Code) :
    Keeps C ResultUsable (rollbackDesired s failureCode) w := by
  unfold rollbackDesired
  by_cases hdesired : s.desired.isSome = true
  · have hfailed : Machine.applyFailed s failureCode = Machine.done (Machine.bump
        { s with phase := .rollingBack, lastError := failureCode }) := if_pos hdesired
    have hadv : Advances s (Machine.applyFailed s failureCode) :=
      .of_valid h.valid (.inr (by rw [hfailed]; exact ⟨rfl, rfl⟩)) fun hr =>
        Machine.applyFailed_valid h.valid h.silent hr failureCode
    have hcore := Machine.applyFailed_core h.valid.core failureCode
    refine Keeps.ite (fun hrefused => ?_) fun _ => ?_
    · simp [hfailed] at hrefused
    · refine (keeps_persist hadv h.room).bind fun _ w' hp => ?_
      refine (keeps_runtime .rollback).bind fun response w'' hresponse => ?_
      obtain ⟨rfl, _⟩ := hresponse
      cases response with
      | success value =>
        refine (keeps_capabilitiesOf value).bind fun capabilities _ hw => ?_
        subst hw
        obtain ⟨hphase, hdes, hseq⟩ := withProfile_fields (Machine.applyFailed s failureCode).state value
        have hrolled := rolledBack_advances (withProfile_core hcore value)
          (by rw [hphase, hfailed]; rfl) (by rw [hdes, hfailed]; exact hdesired) true capabilities
        refine (keeps_persist hrolled (by rw [hseq]; exact hp.1.room)).bind fun stored _ hstored => ?_
        refine Keeps.ite (fun _ => Keeps.pure ?_) fun _ => Keeps.pure ?_
        all_goals exact ⟨_, rfl, hstored.1⟩
      | failure failure =>
        refine (keeps_runtime .failClosed).bind fun _ _ hw => ?_
        obtain ⟨rfl, _⟩ := hw
        have hrolled := rolledBack_advances hcore (by rw [hfailed]; rfl)
          (by rw [hfailed]; exact hdesired) false (.object [])
        exact (keeps_persist hrolled hp.1.room).bind fun _ _ hstored =>
          Keeps.pure ⟨_, rfl, hstored.1⟩
  · have hfailed : Machine.applyFailed s failureCode = Machine.failed Machine.invalidPhase s :=
      if_neg hdesired
    rw [hfailed]
    exact Keeps.pure ⟨s, rfl, h.toUsable⟩

theorem ofTransition_usable {t : Transition} (h : Usable t.state w.2) :
    ResultUsable (ofTransition t) w := ⟨t.state, rfl, h⟩

theorem keeps_checkpoint {source target : Phase} {s : State} {next : Router Result}
    (h : Quiet s w.2) (hsource : source ≠ .idle) (htarget : target ≠ .idle)
    (hclosed : target ≠ .failClosed)
    (hnext : ∀ w', Quiet (Machine.advance source target s).state w'.2 →
      Keeps C ResultUsable next w') :
    Keeps C ResultUsable (do
      let transition ← persist (Machine.advance source target s)
      if !transition.ok then rollbackDesired s transition.code else next) w := by
  have hadv := advance_advances h hsource htarget hclosed
  refine (keeps_persist hadv h.room).bind fun transition w' hp => ?_
  refine Keeps.ite (fun _ => ?_) fun _ => ?_
  · exact keeps_rollbackDesired (h.mono hp.2.1) transition.code
  · exact hnext w' (.of_usable hp.1 (advance_silent h.silent))

theorem keeps_applyDesired {s : State} (h : Quiet s w.2) :
    Keeps C ResultUsable (applyDesired s) w := by
  unfold applyDesired
  refine (keeps_persist (beginApply_advances h) h.room).bind fun transition w' hp => ?_
  refine Keeps.ite (fun _ => Keeps.pure ?_) fun _ => ?_
  · exact ofTransition_usable (by rw [hp.2.2.1]; exact hp.1)
  have hbegun : Quiet (Machine.beginApply s).state w'.2 :=
    .of_usable hp.1 (beginApply_silent h.silent)
  refine (keeps_runtime .prepare).bind fun response _ hw => ?_
  obtain ⟨rfl, _⟩ := hw
  cases response with
  | failure failure => exact keeps_rollbackDesired hbegun _
  | success _ =>
    refine keeps_checkpoint hbegun (by decide) (by decide) (by decide) fun w₁ hprepared => ?_
    refine keeps_checkpoint hprepared (by decide) (by decide) (by decide) fun w₂ hactivating => ?_
    refine (keeps_runtime .activate).bind fun response _ hw => ?_
    obtain ⟨rfl, _⟩ := hw
    cases response with
    | failure failure => exact keeps_rollbackDesired hactivating _
    | success _ =>
      refine keeps_checkpoint hactivating (by decide) (by decide) (by decide) fun w₃ hactivated => ?_
      refine (keeps_runtime .verify).bind fun response _ hw => ?_
      obtain ⟨rfl, _⟩ := hw
      cases response with
      | failure failure => exact keeps_rollbackDesired hactivated _
      | success value =>
        refine (keeps_capabilitiesOf value).bind fun capabilities _ hw => ?_
        subst hw
        have hadv := verified_advances hactivated
          (safeActiveProfile (value.get "active_profile")) capabilities
        refine (keeps_persist hadv hactivated.room).bind fun committed w₄ hc => ?_
        refine Keeps.ite (fun _ => ?_) fun _ => Keeps.pure ?_
        · exact keeps_rollbackDesired (hactivated.mono hc.2.1) _
        · exact ⟨_, congrArg some hc.2.2.1, hc.1⟩

theorem reportAccepted_cases (s : State) (p : PendingReport) (hp : s.pendingReport = some p) :
    Machine.reportAccepted s p.idempotencyKey =
      Machine.done (Machine.bump { s with pendingReport := none }) := by
  simp [Machine.reportAccepted, hp]

theorem keeps_reportPending {s : State} (h : Usable s w.2) :
    Keeps C (fun r w' => Usable r.state w'.2 ∧ (r.ok = true → r.state.pendingReport = none))
      (reportPending s) w := by
  unfold reportPending
  cases hp : s.pendingReport with
  | none => exact Keeps.pure ⟨h, fun _ => hp⟩
  | some report =>
    refine (keeps_ask (by simp)).bind fun reply _ hw => ?_
    obtain ⟨rfl, _⟩ := hw
    cases adapterResponse reply with
    | failure failure => exact Keeps.pure ⟨h, by simp⟩
    | success _ =>
      have hdone := reportAccepted_cases s report hp
      have hadv : Advances s (Machine.reportAccepted s report.idempotencyKey) :=
        .of_valid h.valid (.inr (by rw [hdone]; exact ⟨rfl, rfl⟩)) fun hr =>
          Machine.reportAccepted_valid h.valid hr _
      refine (keeps_persist hadv h.room).post fun r w' hr => ⟨?_, fun _ => ?_⟩
      · rw [hr.2.2.1]
        exact hr.1
      · rw [hr.2.2.1, hdone]
        rfl

theorem keeps_applyAndReport {s : State} (h : Quiet s w.2) :
    Keeps C (fun _ _ => True) (applyAndReport s) w := by
  unfold applyAndReport
  refine (keeps_applyDesired h).bind fun applied w' happ => ?_
  refine Keeps.ite (fun _ => Keeps.pure trivial) fun _ => ?_
  obtain ⟨st, hst, husable⟩ := happ
  rw [hst]
  exact (keeps_reportPending husable).bind fun _ _ _ => Keeps.pure trivial

/-- The journals from which a rollback may be recorded. -/
def Recoverable (s : State) : Prop := ¬(s.phase = .failClosed ∧ s.pendingReport ≠ none)

theorem silent_of_recoverRequired {s : State} (h : s.Valid) (hr : Recoverable s)
    (hrec : Machine.recoverRequired s = true) : s.pendingReport = none := by
  by_contra hp
  obtain ⟨p, hp'⟩ := Option.ne_none_iff_exists'.mp hp
  have hout := (h.pending p hp').outcome
  have hphase : s.phase = .idle ∨ s.phase = .failClosed := by
    unfold State.OutcomeValid at hout
    split at hout
    · exact .inl hout.1
    · exact hout.1
  rcases hphase with hphase | hphase
  · simp [Machine.recoverRequired, hphase] at hrec
  · exact hr ⟨hphase, hp⟩

theorem keeps_recover {s : State} (h : Usable s w.2) (hr : Recoverable s) :
    Keeps C ResultUsable (recover s) w := by
  refine Keeps.ite (fun _ => Keeps.pure (ofTransition_usable h)) fun hrec => ?_
  have hsilent := silent_of_recoverRequired h.valid hr (by simpa using hrec)
  exact keeps_rollbackDesired (.of_usable h hsilent) _

theorem keeps_restoreRuntime (s : State) : Keeps C (fun _ w' => w' = w) (restoreRuntime s) w := by
  refine (keeps_runtime .restore).bind fun response _ hw => ?_
  obtain ⟨rfl, _⟩ := hw
  cases response with
  | failure failure => exact (keeps_runtime .failClosed).bind fun _ _ hw => Keeps.pure hw.1
  | success value => exact Keeps.ite (fun _ => Keeps.pure rfl) fun _ => Keeps.pure rfl

theorem receiveSnapshot_advances {s : State} {n : Nat} (h : Quiet s n) (snapshot etag : Value)
    (force : Bool) (t : Transition) (ht : t = Machine.receiveSnapshot s snapshot etag force) :
    (t.state.sequence ≤ maxSafeInteger → t.state.Valid) ∧ t.state.sequence ≤ s.sequence + 1 ∧
      t.state.pendingReport = none := by
  subst ht
  have hseq : (Machine.receiveSnapshot s snapshot etag force).state = s ∨
      (Machine.receiveSnapshot s snapshot etag force).state.sequence = s.sequence + 1 := by
    unfold Machine.receiveSnapshot
    split
    · exact .inl rfl
    · split
      · exact .inr rfl
      · split
        · exact .inl rfl
        · split
          · exact .inl rfl
          · exact .inr rfl
  refine ⟨fun hle => ?_, ?_, ?_⟩
  · rcases hseq with hs | hs
    · rw [hs]
      exact h.valid
    · exact Machine.receiveSnapshot_valid h.valid h.silent
        (by rw [Machine.Room, ← hs]; exact hle) snapshot etag force
  · rcases hseq with hs | hs
    · rw [hs]
      exact Nat.le_succ _
    · exact hs.le
  · unfold Machine.receiveSnapshot
    split
    · exact h.silent
    · split
      · exact h.silent
      · split
        · exact h.silent
        · split <;> exact h.silent

theorem keeps_saveReceived {s : State} (h : Quiet s w.2) (snapshot etag : Value) (force : Bool) :
    Keeps C (fun _ w' => Quiet (Machine.receiveSnapshot s snapshot etag force).state w'.2)
      (saveState (Machine.receiveSnapshot s snapshot etag force).state) w := by
  obtain ⟨hvalid, hle, hsilent⟩ := receiveSnapshot_advances h snapshot etag force _ rfl
  have hroom := h.room
  exact (keeps_save hvalid (by omega)).post fun _ _ hw => ⟨hw.2, hsilent⟩

theorem keeps_applyPolicy {s : State} (h : Usable s w.2) (hr : Recoverable s) :
    Keeps C (fun _ _ => True) (applyPolicy s) w := by
  unfold applyPolicy
  refine (keeps_recover h hr).bind fun recovered _ hrec => ?_
  obtain ⟨st, hst, husable⟩ := hrec
  refine Keeps.ite (fun _ => Keeps.pure trivial) fun _ => ?_
  rw [hst]
  refine (keeps_reportPending husable).bind fun reported _ hrep => ?_
  refine Keeps.ite (fun _ => Keeps.pure trivial) fun hok => ?_
  have hquiet := Quiet.of_usable hrep.1 (hrep.2 (by simpa using hok))
  dsimp only
  split
  · exact Keeps.pure trivial
  · refine Keeps.ite (fun _ => Keeps.pure trivial) fun _ => ?_
    refine (keeps_saveReceived hquiet _ _ true).bind fun saved _ hsaved => ?_
    exact Keeps.ite (fun _ => Keeps.pure trivial) fun _ => keeps_applyAndReport hsaved

theorem keeps_checkConfiguration (config : Config) :
    Keeps C (fun _ w' => w' = w) (checkConfiguration config) w := by
  unfold checkConfiguration
  refine Keeps.ite (fun _ => Keeps.pure rfl) fun _ => ?_
  refine (keeps_ask (by simp)).bind fun readable _ hw => ?_
  obtain ⟨rfl, _⟩ := hw
  refine Keeps.ite (fun _ => Keeps.pure rfl) fun _ => ?_
  refine (keeps_ask (by simp)).bind fun protected' _ hw => ?_
  obtain ⟨rfl, _⟩ := hw
  refine Keeps.ite (fun _ => Keeps.pure rfl) fun _ => Keeps.ite (fun _ => Keeps.pure rfl) fun _ => ?_
  exact Keeps.ite (fun _ => Keeps.pure rfl) fun _ => Keeps.pure rfl

theorem keeps_consumeSnapshot (config : Config) (response : Value) :
    Keeps C (fun _ w' => w' = w) (consumeSnapshot config response) w := by
  unfold consumeSnapshot
  cases validResponsePath config.stateDir (response.get "response_file") with
  | none => exact Keeps.pure rfl
  | some path =>
    refine (keeps_ask (by simp)).bind fun file _ hw => ?_
    obtain ⟨rfl, _⟩ := hw
    cases file <;> exact Keeps.pure rfl

theorem keeps_fetchAndApply {s : State} (h : Quiet s w.2) (config : Config) (restored : Result) :
    Keeps C (fun _ _ => True) (fetchAndApply config restored s) w := by
  unfold fetchAndApply
  refine (keeps_checkConfiguration config).bind fun failure _ hw => ?_
  subst hw
  cases failure with
  | some failure => exact Keeps.pure trivial
  | none =>
    refine (keeps_ask (by simp)).bind fun reply _ hw => ?_
    obtain ⟨rfl, _⟩ := hw
    cases adapterResponse reply with
    | failure failure => exact Keeps.pure trivial
    | success response =>
      dsimp only
      refine Keeps.ite (fun _ => Keeps.pure trivial) fun _ => ?_
      refine Keeps.ite (fun _ => Keeps.pure trivial) fun _ => ?_
      refine (keeps_consumeSnapshot config response).bind fun snapshot _ hw => ?_
      subst hw
      cases snapshot with
      | inl failure => exact Keeps.pure trivial
      | inr body =>
        refine Keeps.ite (fun _ => Keeps.pure trivial) fun _ => Keeps.ite (fun _ => ?_) fun _ => ?_
        · refine Keeps.ite (fun _ => ?_) fun _ => Keeps.pure trivial
          exact (keeps_saveReceived h _ _ false).bind fun _ _ _ => Keeps.pure trivial
        · refine Keeps.ite (fun _ => Keeps.pure trivial) fun _ => ?_
          refine (keeps_saveReceived h _ _ false).bind fun saved _ hsaved => ?_
          exact Keeps.ite (fun _ => Keeps.pure trivial) fun _ => keeps_applyAndReport hsaved

theorem keeps_refresh {s : State} (h : Usable s w.2) (hr : Recoverable s) (config : Config) :
    Keeps C (fun _ _ => True) (refresh config s) w := by
  unfold refresh
  refine (keeps_recover h hr).bind fun recovered _ hrec => ?_
  obtain ⟨st, hst, husable⟩ := hrec
  refine Keeps.ite (fun _ => Keeps.pure trivial) fun _ => ?_
  rw [hst]
  refine (keeps_restoreRuntime _).bind fun restored _ hw => ?_
  subst hw
  refine (keeps_reportPending husable).bind fun reported _ hrep => ?_
  refine Keeps.ite (fun _ => Keeps.pure trivial) fun hok => ?_
  exact keeps_fetchAndApply (.of_usable hrep.1 (hrep.2 (by simpa using hok))) config restored

theorem keeps_stop : Keeps C (fun _ _ => True) stop w := by
  refine (keeps_runtime .failClosed).bind fun response _ _ => ?_
  cases response <;> exact Keeps.pure trivial

theorem keeps_write {s : State} (h : s.Valid) : Keeps C (fun _ _ => True) (saveState s) w := by
  intro hw
  refine ⟨⟨hw, ?_⟩, fun r w' hs => ⟨?_, trivial⟩⟩
  · rintro v hv _
    obtain rfl := RouterCall.writeJournal.inj hv
    exact (Journal.validState_encode s).mpr h
  · rw [Holds, hs.1.1]
    cases r
    · exact hw
    · exact Loadable.of_valid h

/-- The profile that the runtime reports may be recorded next to `s`. -/
def ProfileRecordable (s : State) (value : Value) : Prop :=
  s.pendingReport = none ∨ safeActiveProfile (value.get "active_profile") = s.activeProfile

theorem healthTick_valid {s : State} (h : s.Valid) (hidle : s.phase = .idle)
    (happlied : s.applied ≠ none) (profile : Option Profile) (hpending : s.pendingReport = none) :
    ({ s with activeProfile := profile } : State).Valid :=
  State.Valid.of_core ⟨h.desired, h.applied, h.lastGood, h.lastGood_applied⟩ h.sequence_le
    (fun _ => happlied) (fun hc => absurd (hidle.symm.trans hc) (by decide)) h.idle_iff hpending

theorem keeps_healthTick {s : State} (h : s.Valid)
    (hC : ∀ reply value, C ⟨.runtime .healthTick, reply⟩ → adapterResponse reply = .success value →
      ProfileRecordable s value) :
    Keeps C (fun _ _ => True) (healthTick s) w := by
  unfold healthTick
  refine Keeps.ite (fun _ => Keeps.pure trivial) fun hready => ?_
  rw [Bool.or_eq_true, not_or, decide_eq_true_eq, not_not] at hready
  obtain ⟨hidle, happlied⟩ := hready
  have happlied : s.applied ≠ none := by simpa using happlied
  refine (keeps_runtime .healthTick).bind fun response _ hw => ?_
  obtain ⟨rfl, reply, hreply, hevent⟩ := hw
  cases response with
  | failure failure => exact Keeps.pure trivial
  | success value =>
    dsimp only
    refine Keeps.ite (fun _ => Keeps.pure trivial) fun hne => ?_
    have hpending := (hC reply value hevent hreply.symm).resolve_right hne
    refine (keeps_write (healthTick_valid h hidle happlied _ hpending)).bind fun _ _ _ => ?_
    exact Keeps.ite (fun _ => Keeps.pure trivial) fun _ => Keeps.pure trivial

end Controller

open Controller

namespace Session

/-- What a command must find, and what the runtime may answer it, so that it
writes no journal that would be refused. -/
structure Safe (x : Session) : Prop where
  profile : x.command = .healthTick → ∀ s, x.state = some s → ∀ reply value,
    (⟨.runtime .healthTick, reply⟩ : RouterEvent) ∈ x.trace →
      adapterResponse reply = .success value → ProfileRecordable s value
  recoverable : x.command ∈ [.recover, .applyPolicy, .refresh] →
    ∀ s, x.state = some s → Recoverable s
  room : x.command ∈ [.recover, .applyPolicy, .refresh] →
    ∀ s, x.state = some s → s.sequence + x.attempts ≤ maxSafeInteger

end Session

theorem keeps_dispatch {C : RouterEvent → Prop} {w : Option Value × Nat} {s : State}
    (config : Config) (command : Command) (h : s.Valid)
    (hC : command = .healthTick → ∀ reply value, C ⟨.runtime .healthTick, reply⟩ →
      adapterResponse reply = .success value → ProfileRecordable s value)
    (hr : command ∈ [.recover, .applyPolicy, .refresh] → Recoverable s)
    (hroom : command ∈ [.recover, .applyPolicy, .refresh] →
      s.sequence + w.2 ≤ maxSafeInteger) :
    Keeps C (fun _ _ => True) (dispatch config command s) w := by
  cases command with
  | recover =>
    exact (keeps_recover ⟨h, hroom (by decide)⟩ (hr (by decide))).post fun _ _ _ => trivial
  | applyPolicy => exact keeps_applyPolicy ⟨h, hroom (by decide)⟩ (hr (by decide))
  | stop => exact keeps_stop
  | refresh => exact keeps_refresh ⟨h, hroom (by decide)⟩ (hr (by decide)) config
  | healthTick => exact keeps_healthTick h (hC rfl)

theorem keeps_main {C : RouterEvent → Prop} {w : Option Value × Nat} (config : Config)
    (command : Command)
    (h : ∀ s, loadState (.contents w.1) = some s → s.Valid →
      Keeps C (fun _ _ => True) (dispatch config command s) w) :
    Keeps C (fun _ _ => True) (Controller.main config command) w := by
  unfold Controller.main
  refine (keeps_ask (by simp)).bind fun blocked _ hw => ?_
  obtain ⟨rfl, _⟩ := hw
  refine Keeps.ite (fun _ => Keeps.ite (fun _ => keeps_stop) fun _ => Keeps.pure trivial)
    fun _ => ?_
  intro hw
  refine ⟨⟨hw, by simp⟩, fun found w' hs => ?_⟩
  obtain ⟨⟨⟨hj, hfound⟩, _⟩, hn⟩ := hs
  obtain rfl : w' = _ := Prod.ext hj hn.symm
  change Sat _ _ _ (runCommand config command found) w'
  unfold runCommand
  rcases hfound with rfl | rfl
  · exact ((keeps_runtime .failClosed).bind fun _ _ _ => Keeps.pure trivial) hw
  · obtain ⟨s, hs, hvalid⟩ := Loadable.exists_state hw
    rw [hs]
    exact h s hs hvalid hw

/-- Every journal that a run of commands persists, or tries to persist, is
accepted by `validState`, and the next command can load the journal. -/
theorem persisted_journals_accepted {j j' : Option Value} {log : List Session}
    (hstart : Loadable j) (hrun : Runs j log j') (hsafe : ∀ x ∈ log, x.Safe) :
    Loadable j' ∧ ∀ x ∈ log, ∀ v answer,
      (⟨.writeJournal v, answer⟩ : RouterEvent) ∈ x.trace → Journal.validState v = true := by
  refine hrun.induction (Q := Session.Safe) (R := fun x => ∀ v answer,
    (⟨.writeJournal v, answer⟩ : RouterEvent) ∈ x.trace → Journal.validState v = true)
    hstart hsafe ?_
  intro config command j tr j' o hj hs he
  have hbudget := (he.restrict (C := (· ∈ tr)) fun e he => he).metered
    writeCost (n := (tr.map fun e => writeCost e.1).sum) (Nat.le_refl _)
  have hkeeps : Keeps (· ∈ tr) (fun _ _ => True) (Controller.main config command)
      (j, (tr.map fun e => writeCost e.1).sum) := by
    refine keeps_main config command fun s hload hvalid => ?_
    exact keeps_dispatch config command hvalid
      (fun hc reply value => hs.profile hc s hload reply value)
      (fun hc => hs.recoverable hc s hload) (fun hc => hs.room hc s hload)
  have hsat := hkeeps hj
  refine ⟨?_, fun v answer hv => ?_⟩
  · exact (hsat.mono (fun _ _ hg => hg.1) (fun _ _ hq => hq.1)).invariant hbudget
  · obtain ⟨u, u', hguard, hstep⟩ := hsat.trace hbudget _ hv
    have hcost : u.2 = u'.2 + 1 := hstep.2
    exact hguard.2 v rfl (by omega)

namespace Sample

/-- The runtime has switched the profile on its own. -/
def switched : AdapterReply :=
  .finished (.object [("ok", .bool true), ("active_profile", .string profile.1)]) 0

def idleWith (pending : Option PendingReport) : State := { reported with pendingReport := pending }

def switchedWith (pending : Option PendingReport) : State :=
  { idleWith pending with activeProfile := some profile }

theorem idleWith_none_valid : (idleWith none).Valid :=
  State.Valid.of_core ⟨reported_valid.desired, reported_valid.applied, reported_valid.lastGood,
    reported_valid.lastGood_applied⟩ reported_valid.sequence_le
    reported_valid.activeProfile_applied reported_valid.failClosed reported_valid.idle_iff rfl

def healthTickSession (pending : Option PendingReport) : Session where
  config := ⟨"", "", ""⟩
  command := .healthTick
  journal := some (idleWith pending).encode
  trace :=
    [⟨.maintenanceBlocked, false⟩, ⟨.readJournal, .contents (some (idleWith pending).encode)⟩,
      ⟨.runtime .healthTick, switched⟩, ⟨.writeJournal (switchedWith pending).encode, true⟩]

theorem run_healthTick {pending : Option PendingReport} (hvalid : (idleWith pending).Valid) :
    Runs (some (idleWith pending).encode) [healthTickSession pending]
      (some (switchedWith pending).encode) := by
  have hload : loadState (.contents (some (idleWith pending).encode)) = some (idleWith pending) :=
    Journal.load_encode hvalid Machine.initialState
  have hruntime : RouterStep (.runtime .healthTick) (some (idleWith pending).encode) switched
    (some (idleWith pending).encode) := rfl
  have hwrite : RouterStep (.writeJournal (switchedWith pending).encode)
    (some (idleWith pending).encode) true (some (switchedWith pending).encode) := rfl
  exact .cons (exec_main hload (.call hruntime (.call hwrite (.stop _ _)))) (.nil _)

theorem healthTickSession_persists (pending : Option PendingReport) :
    (healthTickSession pending).Persists (switchedWith pending).encode := by
  simp [Session.Persists, healthTickSession]

theorem switchedWith_report_not_valid : ¬(switchedWith reported.pendingReport).Valid := by
  intro h
  have hprofile := (h.pending _ rfl).activeProfile
  exact absurd hprofile (by decide)

theorem healthTickSession_safe : (healthTickSession none).Safe where
  profile := by
    intro _ s hs _ _ _ _
    have hload : (healthTickSession none).state = some (idleWith none) :=
      Journal.load_encode idleWith_none_valid Machine.initialState
    obtain rfl := Option.some.inj (hload.symm.trans hs)
    exact .inl rfl
  recoverable := fun hc => absurd hc (by decide)
  room := fun hc => absurd hc (by decide)

end Sample

/-- A health tick next to an unsent report persists a journal that is refused. -/
theorem healthTick_breaks_journal :
    ¬∀ (j j' : Option Value) (log : List Session), Loadable j → Runs j log j' →
      ∀ x ∈ log, ∀ v, x.Persists v → Journal.validState v = true := by
  intro hclaim
  have hvalid := hclaim _ _ _ (Loadable.of_valid Sample.reported_valid)
    (Sample.run_healthTick Sample.reported_valid) _ List.mem_cons_self _
    (Sample.healthTickSession_persists Sample.reported.pendingReport)
  exact Sample.switchedWith_report_not_valid ((Journal.validState_encode _).mp hvalid)

/-- The same health tick without a report. -/
theorem healthTick_keeps_journal :
    Loadable (some (Sample.switchedWith none).encode) :=
  (persisted_journals_accepted (Loadable.of_valid Sample.idleWith_none_valid)
    (Sample.run_healthTick Sample.idleWith_none_valid)
    (by simpa using Sample.healthTickSession_safe)).1

end AutoVPN
