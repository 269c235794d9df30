import AutoVPN.Router.Runs

/-! The ledger of one router: every report that its journal has held. The
transitions report an attempt that is not in the ledger, except for a rollback
that is confirmed after it had failed closed. -/

namespace AutoVPN

open Program Controller

/-- The attempt at the end of an idempotency key. -/
def keyAttempt (key : String) : Nat :=
  digitsValue (key.toList.reverse.takeWhile Char.isDigit).reverse

theorem keyAttempt_reportKey (e : Entry) : keyAttempt (Machine.reportKey e) = e.attempt := by
  have hdigits : ∀ c ∈ (toString e.attempt).toList.reverse, c.isDigit = true :=
    fun c hc => isDigit_of_mem_toString (List.mem_reverse.mp hc)
  obtain ⟨rest, hrest⟩ : ∃ rest, (Journal.keyPrefix e.snapshot.revision
      e.snapshot.sha256.1).reverse = 's' :: rest :=
    ⟨_, by simp [Journal.keyPrefix]; rfl⟩
  rw [keyAttempt, Machine.reportKey_toList, List.reverse_append, hrest,
    List.takeWhile_append_of_pos hdigits, List.takeWhile_cons_of_neg (by decide), List.append_nil,
    List.reverse_reverse, digitsValue_toString]

namespace PendingReport

def attempt (p : PendingReport) : Nat := keyAttempt p.idempotencyKey

theorem attempt_reportFor (e : Entry) (profile : Option Profile) (c : Capabilities)
    (d : Diagnostics) : (Machine.reportFor e profile c d).attempt = e.attempt :=
  keyAttempt_reportKey e

end PendingReport

/-- The report of a rollback that failed closed says nothing but the entry. -/
def failClosedReport (e : Entry) : PendingReport :=
  Machine.reportFor e none Machine.emptyCapabilities
    (.failure .rollbackFailed Machine.rollbackFailed)

/-- The report that an event persists. -/
def persistedReport : RouterEvent → Option PendingReport
  | ⟨.writeJournal v, true⟩ => (State.ofValue v).bind State.pendingReport
  | _ => none

def reportsOf (tr : List RouterEvent) : List PendingReport := tr.filterMap persistedReport

def Unique (ledger : List PendingReport) : Prop :=
  ∀ p ∈ ledger, ∀ q ∈ ledger, p.attempt = q.attempt → p = q

/-- A state next to the reports that were persisted before. -/
structure Ledger (s : State) (ledger : List PendingReport) : Prop where
  unique : Unique ledger
  bounded : ∀ p ∈ ledger, p.attempt ≤ s.sequence
  desired : ∀ e ∈ s.desired, e.attempt ≤ s.sequence
  reported : ∀ e ∈ s.desired, ∀ p ∈ ledger, p.attempt = e.attempt →
    s.rejected ≠ none ∧ p = failClosedReport e

theorem Ledger.fresh {s : State} {ledger : List PendingReport} (h : Ledger s ledger)
    (hrejected : s.rejected = none) {e : Entry} (he : s.desired = some e) :
    ∀ p ∈ ledger, p.attempt ≠ e.attempt := fun p hp hatt =>
  (h.reported e he p hp hatt).1 hrejected

theorem Ledger.step {s t : State} {ledger : List PendingReport} (h : Ledger s ledger)
    (hseq : s.sequence ≤ t.sequence) (hdesired : ∀ e ∈ t.desired, e ∈ s.desired)
    (hrejected : s.rejected ≠ none → t.rejected ≠ none) : Ledger t ledger where
  unique := h.unique
  bounded p hp := (h.bounded p hp).trans hseq
  desired e he := (h.desired e (hdesired e he)).trans hseq
  reported e he p hp hatt := by
    obtain ⟨hr, hp⟩ := h.reported e (hdesired e he) p hp hatt
    exact ⟨hrejected hr, hp⟩

theorem Unique.append {ledger : List PendingReport} {r : PendingReport} (h : Unique ledger)
    (hr : ∀ p ∈ ledger, p.attempt = r.attempt → p = r) : Unique (ledger ++ [r]) := by
  intro p hp q hq hatt
  rw [List.mem_append, List.mem_singleton] at hp hq
  rcases hp with hp | rfl <;> rcases hq with hq | rfl
  · exact h p hp q hq hatt
  · exact hr p hp hatt
  · exact (hr q hq hatt.symm).symm
  · rfl

theorem Ledger.report {s t : State} {ledger : List PendingReport} {e : Entry} {r : PendingReport}
    (h : Ledger s ledger) (he : s.desired = some e) (hr : r.attempt = e.attempt)
    (hsame : ∀ p ∈ ledger, p.attempt = e.attempt → p = r) (hseq : s.sequence ≤ t.sequence)
    (hdesired : ∀ d ∈ t.desired, d = e ∧ t.rejected ≠ none ∧ r = failClosedReport e) :
    Ledger t (ledger ++ [r]) where
  unique := h.unique.append fun p hp hatt => hsame p hp (hatt.trans hr)
  bounded p hp := by
    rcases List.mem_append.mp hp with hp | hp
    · exact (h.bounded p hp).trans hseq
    · rw [List.mem_singleton.mp hp, hr]
      exact (h.desired e he).trans hseq
  desired d hd := by
    rw [(hdesired d hd).1]
    exact (h.desired e he).trans hseq
  reported d hd p hp hatt := by
    obtain ⟨rfl, hrejected, hclosed⟩ := hdesired d hd
    refine ⟨hrejected, ?_⟩
    rw [← hclosed]
    rcases List.mem_append.mp hp with hp | hp
    · exact hsame p hp hatt
    · exact List.mem_singleton.mp hp

theorem Ledger.append_mem {s : State} {ledger : List PendingReport} {r : PendingReport}
    (h : Ledger s ledger) (hr : r ∈ ledger) : Ledger s (ledger ++ [r]) := by
  have hmem (p : PendingReport) (hp : p ∈ ledger ++ [r]) : p ∈ ledger := by
    rcases List.mem_append.mp hp with hp | hp
    · exact hp
    · exact List.mem_singleton.mp hp ▸ hr
  exact ⟨fun p hp q hq => h.unique p (hmem p hp) q (hmem q hq), fun p hp => h.bounded p (hmem p hp),
    h.desired, fun e he p hp => h.reported e he p (hmem p hp)⟩

theorem Ledger.resave {s : State} {ledger : List PendingReport} (h : Ledger s ledger)
    (hknown : ∀ p ∈ s.pendingReport, p ∈ ledger) :
    Ledger s (ledger ++ s.pendingReport.toList) := by
  cases hp : s.pendingReport with
  | none => simpa using h
  | some p => exact h.append_mem (hknown p hp)

namespace Machine

theorem initialState_ledger : Ledger initialState [] :=
  ⟨by simp [Unique], by simp, by simp [initialState], by simp [initialState]⟩

theorem beginApply_ledger {s : State} {ledger : List PendingReport} (h : Ledger s ledger) :
    Ledger (beginApply s).state ledger := by
  unfold beginApply
  split
  · exact h.step (Nat.le_succ _) (fun _ he => he) id
  · exact h

theorem advance_ledger {source target : Phase} {s : State} {ledger : List PendingReport}
    (h : Ledger s ledger) : Ledger (advance source target s).state ledger := by
  unfold advance
  split
  · exact h.step (Nat.le_succ _) (fun _ he => he) id
  · exact h

theorem applyFailed_ledger {s : State} {ledger : List PendingReport} (h : Ledger s ledger)
    (code : Option Code) : Ledger (applyFailed s code).state ledger := by
  unfold applyFailed
  split
  · exact h.step (Nat.le_succ _) (fun _ he => he) id
  · exact h

theorem reportAccepted_ledger {s : State} {ledger : List PendingReport} (h : Ledger s ledger)
    (key : String) : Ledger (reportAccepted s key).state ledger := by
  unfold reportAccepted
  split
  · exact h
  · split
    · exact h
    · exact h.step (Nat.le_succ _) (fun _ he => he) id

theorem receiveSnapshot_ledger {s : State} {ledger : List PendingReport} (h : Ledger s ledger)
    (snapshot etag : Value) (force : Bool) :
    Ledger (receiveSnapshot s snapshot etag force).state ledger := by
  unfold receiveSnapshot
  split
  · exact h
  · split
    · exact h.step (Nat.le_succ _) (fun _ he => he) (by simp [bump])
    · split
      · exact h
      · split
        · exact h
        · refine ⟨h.unique, fun p hp => (h.bounded p hp).trans (Nat.le_succ _), ?_, ?_⟩
          · intro e he
            obtain rfl := Option.mem_some_iff.mp he
            exact Nat.le_refl _
          · intro e he p hp hatt
            obtain rfl := Option.mem_some_iff.mp he
            exact absurd (h.bounded p hp) (by rw [hatt]; exact Nat.not_succ_le_self _)

theorem receiveSnapshot_accepted {s : State} {snapshot etag : Value} {force : Bool}
    (hok : (receiveSnapshot s snapshot etag force).ok = true)
    (hnoop : (receiveSnapshot s snapshot etag force).noop = false) :
    (receiveSnapshot s snapshot etag force).state.rejected = none := by
  revert hok hnoop
  unfold receiveSnapshot
  split
  · simp
  · split
    · simp
    · split
      · simp [noop]
      · split
        · simp
        · exact fun _ _ => rfl

theorem receiveSnapshot_pending (s : State) (snapshot etag : Value) (force : Bool) :
    (receiveSnapshot s snapshot etag force).state.pendingReport = s.pendingReport := by
  unfold receiveSnapshot
  split
  · rfl
  · split
    · rfl
    · split
      · rfl
      · split <;> rfl

theorem verified_ledger {s : State} {ledger : List PendingReport} (h : Ledger s ledger)
    (hrejected : s.rejected = none) (hsilent : s.pendingReport = none)
    (profile : Option Profile) (capabilities : Value) :
    Ledger (verified s profile capabilities).state
      (ledger ++ (verified s profile capabilities).state.pendingReport.toList) := by
  unfold verified
  split
  · rename_i current _ hdesired
    refine h.report (e := current) hdesired (PendingReport.attempt_reportFor _ _ _ _) ?_
      (Nat.le_succ _) (by simp [bump])
    exact fun p hp hatt => absurd hatt (h.fresh hrejected hdesired p hp)
  · simpa [hsilent] using h

theorem rolledBack_ledger {s : State} {ledger : List PendingReport} (h : Ledger s ledger)
    (hrejected : s.rejected = none) (hphase : s.phase = .rollingBack)
    (hdesired : s.desired.isSome = true) (capabilities : Value) :
    Ledger (rolledBack s true capabilities).state
      (ledger ++ (rolledBack s true capabilities).state.pendingReport.toList) := by
  obtain ⟨entry, hentry⟩ := Option.isSome_iff_exists.mp hdesired
  unfold rolledBack
  rw [hphase, hentry]
  refine h.report (e := entry) hentry (PendingReport.attempt_reportFor _ _ _ _) ?_
    (Nat.le_succ _) (by simp [bump])
  exact fun p hp hatt => absurd hatt (h.fresh hrejected hentry p hp)

theorem failClosed_ledger {s : State} {ledger : List PendingReport} (h : Ledger s ledger)
    (hphase : s.phase = .rollingBack) (hdesired : s.desired.isSome = true) :
    Ledger (rolledBack s false (.object [])).state
      (ledger ++ (rolledBack s false (.object [])).state.pendingReport.toList) := by
  obtain ⟨entry, hentry⟩ := Option.isSome_iff_exists.mp hdesired
  unfold rolledBack
  rw [hphase, hentry]
  refine h.report (e := entry) (r := failClosedReport entry) hentry
    (PendingReport.attempt_reportFor _ _ _ _) ?_ (Nat.le_succ _) ?_
  · exact fun p hp hatt => (h.reported entry hentry p hp hatt).2
  · intro d hd
    obtain rfl := Option.mem_some_iff.mp hd
    exact ⟨rfl, by simp [bump], rfl⟩

theorem rolledBack_ledger_unsaved {s : State} {ledger : List PendingReport} (h : Ledger s ledger)
    (ok : Bool) (capabilities : Value) :
    Ledger (rolledBack s ok capabilities).state ledger := by
  unfold rolledBack
  split
  · rename_i entry _ hdesired
    refine h.step (Nat.le_succ _) ?_ (by simp [bump])
    cases ok
    · intro e he
      exact hdesired.trans (Option.mem_some_iff.mp he ▸ rfl)
    · simp [bump]
  · exact h

end Machine

end AutoVPN
