import AutoVPN.Router.JournalValid

/-! Loading the journal: every stored value that `validState` accepts reads back
as a typed state that satisfies the journal invariant. -/

namespace AutoVPN

namespace Journal

theorem text_of_optional {p : Pattern} {v : Value} (h : (v.isNull || v.matches p) = true) :
    ∃ o : Option (Text p), v = orNull (fun t : Text p => .string t.1) o := by
  rcases Bool.or_eq_true _ _ ▸ h with h | h
  · exact ⟨none, Value.isNull_iff.mp h⟩
  · obtain ⟨t, ht⟩ := Text.exists_of_matches h
    exact ⟨some t, ht⟩

theorem entry_of_valid {v : Value} {n : Nat} (h : validEntry v n = true) :
    ∃ e, Entry.ofValue v = some e ∧ e.Numbered n := by
  simp only [validEntry, strongEtag, Bool.and_eq_true, List.isEmpty_iff] at h
  obtain ⟨⟨⟨_, hetag⟩, hattempt⟩, hsnapshot⟩ := h
  obtain ⟨etag, hetag⟩ := Text.exists_of_matches hetag
  obtain ⟨a, ha, hlo, hhi⟩ := Value.isInteger_iff.mp hattempt
  lift a to Nat using by omega
  exact ⟨⟨etag, ⟨_, hsnapshot⟩, a⟩, Entry.ofValue_eq_some.mpr ⟨hetag, rfl, ha⟩,
    by exact_mod_cast hlo, by exact_mod_cast hhi⟩

theorem slot_of_valid {v : Value} {n : Nat} (h : (v.isNull || validEntry v n) = true) :
    ∃ o, optional Entry.ofValue v = some o ∧ (v.isNull = true ↔ o = none) ∧
      ∀ e ∈ o, e.Numbered n := by
  by_cases hn : v.isNull = true
  · rw [Value.isNull_iff.mp hn]
    exact ⟨none, rfl, iff_of_true rfl rfl, by simp⟩
  · have hv : v ≠ .null := fun hv => hn (Value.isNull_iff.mpr hv)
    obtain ⟨e, he, hnum⟩ := entry_of_valid ((Bool.or_eq_true _ _ ▸ h).resolve_left hn)
    exact ⟨some e, optional_of_some hv he, iff_of_false hn (by simp), by simpa using hnum⟩

theorem errors_of_valid {v : Value} (h : validErrors v = true) :
    ∃ es, v.items.mapM SchemaError.ofValue = some es ∧ Reportable 64 es := by
  simp only [validErrors, Bool.and_eq_true, decide_eq_true_eq, List.all_eq_true] at h
  obtain ⟨⟨_, hlen⟩, hall⟩ := h
  have hread (xs : List Value) (hxs : ∀ x ∈ xs, validError x = true) :
      ∃ es, xs.mapM SchemaError.ofValue = some es ∧ Reportable xs.length es := by
    induction xs with
    | nil => exact ⟨[], rfl, Reportable.nil⟩
    | cons x xs ih =>
      obtain ⟨es, hes, hrep⟩ := ih fun y hy => hxs y (List.mem_cons_of_mem x hy)
      have hx := hxs x List.mem_cons_self
      simp only [validError, Bool.and_eq_true] at hx
      obtain ⟨path, hpath⟩ := Text.exists_of_matches hx.1.2
      obtain ⟨code, hcode⟩ := Text.exists_of_matches hx.2
      have he : SchemaError.ofValue x = some ⟨path.1, code.1⟩ :=
        SchemaError.ofValue_eq_some.mpr ⟨hpath, hcode⟩
      have hw : SchemaError.WellFormed ⟨path.1, code.1⟩ := ⟨path.2, code.2⟩
      refine ⟨⟨path.1, code.1⟩ :: es, by simp [List.mapM_cons, he, hes], ?_⟩
      rw [List.length_cons, Nat.add_comm]
      exact (Reportable.singleton hw).append hrep
  obtain ⟨es, hes, hrep⟩ := hread v.items hall
  exact ⟨es, hes, hrep.mono hlen⟩

theorem rejected_of_valid {v : Value} (h : validRejected v = true) :
    ∃ r, Rejected.ofValue v = some r ∧ v.get "etag" = .string r.etag.1 ∧
      v.get "revision" = orNull (fun n : Nat => .int n) r.revision := by
  simp only [validRejected, strongEtag, Bool.and_eq_true, Bool.or_eq_true] at h
  obtain ⟨⟨⟨⟨_, hrevision⟩, hetag⟩, hcode⟩, herrors⟩ := h
  obtain ⟨etag, hetag⟩ := Text.exists_of_matches hetag
  obtain ⟨code, hcode⟩ := Text.exists_of_matches hcode
  obtain ⟨errors, herrors, hrep⟩ := errors_of_valid herrors
  have hrev : ∃ o : Option Nat, v.get "revision" = orNull (fun n : Nat => .int n) o ∧
      ∀ r ∈ o, r ≤ maxSafeInteger := by
    rcases hrevision with hn | hi
    · exact ⟨none, Value.isNull_iff.mp hn, by simp⟩
    · obtain ⟨n, hn, hlo, hhi⟩ := Value.isInteger_iff.mp hi
      lift n to Nat using hlo
      exact ⟨some n, hn, by simpa using hhi⟩
  obtain ⟨revision, hrevision, hle⟩ := hrev
  refine ⟨⟨revision, etag, code, errors, hle, hrep⟩,
    Rejected.ofValue_of_fields ?_ hetag hcode herrors, hetag, hrevision⟩
  rw [hrevision]
  exact optional_orNull (by simp) (fun _ => natOfValue_eq_some.mpr rfl) revision

theorem capabilities_of_valid {v : Value} (h : validCapabilities v = true) :
    ∃ c, Capabilities.ofValue v = some c := by
  simp only [validCapabilities, capabilityNames, List.all_cons, List.all_nil, Bool.and_eq_true,
    Bool.and_true, Value.isBool_iff] at h
  obtain ⟨_, ⟨b₁, h₁⟩, ⟨b₂, h₂⟩, ⟨b₃, h₃⟩, ⟨b₄, h₄⟩, b₅, h₅⟩ := h
  exact ⟨⟨b₁, b₂, b₃, b₄, b₅⟩, Capabilities.ofValue_eq_some.mpr ⟨h₁, h₂, h₃, h₄, h₅⟩⟩

theorem sameCapabilities_of_value {a b : Value} {c d : Capabilities}
    (ha : Capabilities.ofValue a = some c) (hb : Capabilities.ofValue b = some d) :
    sameCapabilities a b = sameCapabilities c.encode d.encode := by
  obtain ⟨a₁, a₂, a₃, a₄, a₅⟩ := Capabilities.ofValue_eq_some.mp ha
  obtain ⟨b₁, b₂, b₃, b₄, b₅⟩ := Capabilities.ofValue_eq_some.mp hb
  simp only [sameCapabilities, capabilityNames, List.all_cons, List.all_nil, a₁, a₂, a₃, a₄, a₅,
    b₁, b₂, b₃, b₄, b₅]
  rfl

theorem diagnostics_of_valid {v outcome : Value}
    (ho : outcome.is "APPLIED" = true ∨ outcome.is "FAILED" = true)
    (h : validDiagnostics v outcome = true) :
    ∃ d, Diagnostics.ofValue v = some d ∧ outcome = .string d.outcome.name := by
  by_cases ha : outcome.is "APPLIED" = true
  · rw [validDiagnostics, if_pos ha, Bool.and_eq_true] at h
    exact ⟨.verified, by rw [Diagnostics.ofValue, if_pos h.2], (Value.is_iff rfl).mp ha⟩
  · have hf := (Value.is_iff rfl).mp (ho.resolve_left ha)
    rw [validDiagnostics, if_neg ha, Bool.and_eq_true, Bool.and_eq_true, Bool.or_eq_true] at h
    obtain ⟨code, hcode⟩ := Text.exists_of_matches h.2
    have hread : Text.ofValue (v.get "code") = some code := Text.ofValue_eq_some.mpr hcode
    rcases h.1.2 with hs | hs
    · rw [Value.is_iff rfl] at hs
      refine ⟨.failure .rolledBack code, ?_, hf⟩
      rw [Diagnostics.ofValue, hs, hread]
      rfl
    · rw [Value.is_iff rfl] at hs
      refine ⟨.failure .rollbackFailed code, ?_, hf⟩
      rw [Diagnostics.ofValue, hs, hread]
      rfl

theorem body_of_valid {v : Value} (h : validReportBody v = true) :
    ∃ b, ReportBody.ofValue v = some b ∧ v.get "outcome" = .string b.outcome.name ∧
      v.get "active_profile" = orNull (fun p : Profile => .string p.1) b.activeProfile := by
  simp only [validReportBody, Bool.and_eq_true, Bool.or_eq_true] at h
  obtain ⟨⟨⟨⟨⟨⟨⟨_, hversion⟩, hrevision⟩, hsha⟩, houtcome⟩, hprofile⟩, hcaps⟩, hdiag⟩ := h
  obtain ⟨n, hn, hlo, hhi⟩ := Value.isInteger_iff.mp hrevision
  lift n to Nat using hlo
  obtain ⟨sha, hsha⟩ := Text.exists_of_matches hsha
  obtain ⟨profile, hprofile⟩ := text_of_optional hprofile
  obtain ⟨caps, hcaps⟩ := capabilities_of_valid hcaps
  obtain ⟨d, hd, hout⟩ := diagnostics_of_valid houtcome hdiag
  refine ⟨⟨⟨_, hversion⟩, n, sha, profile, caps, d, by exact_mod_cast hhi⟩,
    ReportBody.ofValue_eq_some.mpr ⟨rfl, hn, hsha, ?_, hcaps, hd⟩, hout, hprofile⟩
  rw [hprofile]
  exact optional_profile profile

theorem pending_of_valid {v : Value} (h : validPending v = true) :
    ∃ p, PendingReport.ofValue v = some p ∧
      idempotencyKeyPattern.matches p.idempotencyKey = true ∧
      (v.get "body").get "outcome" = .string p.body.outcome.name ∧
      (v.get "body").get "active_profile" =
        orNull (fun p : Profile => .string p.1) p.body.activeProfile := by
  simp only [validPending, strongEtag, Bool.and_eq_true] at h
  obtain ⟨⟨⟨_, hkey⟩, hetag⟩, hbody⟩ := h
  obtain ⟨key, hk, hkey⟩ := Value.matches_iff.mp hkey
  obtain ⟨etag, hetag⟩ := Text.exists_of_matches hetag
  obtain ⟨b, hb, hout, hprofile⟩ := body_of_valid hbody
  exact ⟨⟨key, etag, b⟩, PendingReport.ofValue_eq_some.mpr ⟨hk, hetag, hb⟩, hkey, hout, hprofile⟩

theorem reportAttempt_of_value {v : Value} {p : PendingReport}
    (h : PendingReport.ofValue v = some p) (n : Int) :
    reportAttempt v n = reportAttempt p.encode n := by
  obtain ⟨hk, _, hb⟩ := PendingReport.ofValue_eq_some.mp h
  obtain ⟨_, hr, hs, _⟩ := ReportBody.ofValue_eq_some.mp hb
  simp only [reportAttempt, hk, hr, hs]
  rfl

theorem reportMatchesEntry_of_value {v w : Value} {p : PendingReport} {e : Entry}
    (hp : PendingReport.ofValue v = some p) (hw : w ≠ .null) (he : Entry.ofValue w = some e) :
    reportMatchesEntry v w = reportMatchesEntry p.encode e.encode := by
  obtain ⟨hk, hetag, hb⟩ := PendingReport.ofValue_eq_some.mp hp
  obtain ⟨_, hr, hs, _⟩ := ReportBody.ofValue_eq_some.mp hb
  obtain ⟨hwetag, hwsnapshot, hwattempt⟩ := Entry.ofValue_eq_some.mp he
  have hnull : w.isNull = false := by simpa [← Value.isNull_iff] using hw
  simp only [reportMatchesEntry, hetag, hr, hs, hwetag, hwsnapshot, hwattempt, hnull,
    reportAttempt_of_value hp]
  rfl

theorem phases_eq_map : phases = [Phase.idle, .ready, .preparing, .prepared, .activating,
    .verifying, .rollingBack, .failClosed].map Phase.name := rfl

theorem phase_of_valid {v : Value} (h : phases.any v.is = true) :
    ∃ phase : Phase, v = .string phase.name := by
  rw [phases_eq_map, List.any_map, List.any_eq_true] at h
  obtain ⟨phase, _, hname⟩ := h
  have hnone : decimalNumber? phase.name = none := by cases phase <;> rfl
  exact ⟨phase, (Value.is_iff hnone).mp hname⟩

theorem reportMatchesSlot_of_value {v w : Value} {p : PendingReport} {o : Option Entry}
    (hp : PendingReport.ofValue v = some p) (ho : optional Entry.ofValue w = some o) :
    reportMatchesEntry v w = reportMatchesEntry p.encode (orNull Entry.encode o) := by
  cases o with
  | none =>
    rw [optional_eq_none.mp ho]
    rfl
  | some e =>
    have hw : w ≠ .null := by
      rintro rfl
      simp [optional_null] at ho
    exact reportMatchesEntry_of_value hp hw (optional_eq_some ho)

/-- The stored rejection agrees with `o` on what a report is compared with. -/
def ReadsRejected (v : Value) (o : Option Rejected) : Prop :=
  v.isNull = (orNull Rejected.encode o).isNull ∧
    v.get "etag" = (orNull Rejected.encode o).get "etag" ∧
    v.get "revision" = (orNull Rejected.encode o).get "revision"

theorem rejectedSlot_of_valid {v : Value} (h : (v.isNull || validRejected v) = true) :
    ∃ o, optional Rejected.ofValue v = some o ∧ ReadsRejected v o := by
  by_cases hn : v.isNull = true
  · rw [Value.isNull_iff.mp hn]
    exact ⟨none, rfl, rfl, rfl, rfl⟩
  · have hv : v ≠ .null := fun hv => hn (Value.isNull_iff.mpr hv)
    obtain ⟨r, hr, hetag, hrevision⟩ := rejected_of_valid ((Bool.or_eq_true _ _ ▸ h).resolve_left hn)
    exact ⟨some r, optional_of_some hv hr, Bool.eq_false_iff.mpr hn, hetag, hrevision⟩

theorem pendingIn_of_valid {v : Value} {s : State} {p : PendingReport}
    (hphase : v.get "phase" = .string s.phase.name)
    (happlied : optional Entry.ofValue (v.get "applied") = some s.applied)
    (hnum : ∀ e ∈ s.applied, e.Numbered s.sequence)
    (hrejected : ReadsRejected (v.get "rejected") s.rejected)
    (hcaps : Capabilities.ofValue (v.get "capabilities") = some s.capabilities)
    (hprofile : v.get "active_profile" = orNull (fun p : Profile => .string p.1) s.activeProfile)
    (hp : PendingReport.ofValue (v.get "pending_report") = some p)
    (hout : ((v.get "pending_report").get "body").get "outcome" = .string p.body.outcome.name)
    (hbody : ((v.get "pending_report").get "body").get "active_profile" =
      orNull (fun p : Profile => .string p.1) p.body.activeProfile)
    (hkey : idempotencyKeyPattern.matches p.idempotencyKey = true)
    (h : validPendingIn v s.sequence = true) : s.PendingValid p := by
  obtain ⟨_, hetag, hb⟩ := PendingReport.ofValue_eq_some.mp hp
  obtain ⟨_, hrevision, _, _, hbcaps, _⟩ := ReportBody.ofValue_eq_some.mp hb
  obtain ⟨hnull, hretag, hrrevision⟩ := hrejected
  simp only [validPendingIn, Bool.and_eq_true, reportAttempt_of_value hp, hbody, hprofile,
    sameCapabilities_of_value hbcaps hcaps, hout, hphase, reportMatchesSlot_of_value hp happlied,
    hnull, hetag, hretag, hrevision, hrrevision] at h
  obtain ⟨⟨⟨⟨_, hattempt⟩, hprof⟩, hsame⟩, houtcome⟩ := h
  exact ⟨hkey, reportAttempt_isSome.mp hattempt, (looseEq_orNull _ _).mp hprof,
    (sameCapabilities_encode _ _).mp hsame, (outcomeValid_encode s p hnum).mp houtcome⟩

/-- Every value that `validState` accepts stands for a state with the journal invariant. -/
theorem exists_of_validState {v : Value} (h : validState v = true) :
    ∃ s, State.ofValue v = some s ∧ s.Valid := by
  unfold validState at h
  split at h
  · rename_i sequence hsequence
    simp only [Bool.and_eq_true, beq_iff_eq] at h
    obtain ⟨⟨⟨⟨⟨⟨⟨⟨⟨⟨⟨⟨⟨⟨⟨_, hversion⟩, hinteger⟩, hcaps⟩, hprofile⟩, herror⟩, hphase⟩, hdesired⟩,
      happlied⟩, hgood⟩, hgoodApplied⟩, hactive⟩, hclosed⟩, hrejected⟩, hidle⟩, hpending⟩ := h
    obtain ⟨n, hn, hlo, hhi⟩ := Value.isInteger_iff.mp hinteger
    obtain rfl := Value.int.inj hn
    lift sequence to Nat using hlo
    obtain ⟨caps, hcaps⟩ := capabilities_of_valid hcaps
    obtain ⟨profile, hprofile⟩ := text_of_optional hprofile
    obtain ⟨lastError, herror⟩ := text_of_optional herror
    obtain ⟨phase, hphase⟩ := phase_of_valid hphase
    obtain ⟨desired, hdesired, hdesiredNull, hdesiredNum⟩ := slot_of_valid hdesired
    obtain ⟨applied, happlied, happliedNull, happliedNum⟩ := slot_of_valid happlied
    obtain ⟨lastGood, hgood, hgoodNull, hgoodNum⟩ := slot_of_valid hgood
    obtain ⟨rejected, hrejected, hreads⟩ := rejectedSlot_of_valid hrejected
    let base : State :=
      { journalVersion := ⟨_, hversion⟩, sequence := sequence, phase := phase, desired := desired,
        applied := applied, lastGood := lastGood, rejected := rejected, pendingReport := none,
        capabilities := caps, activeProfile := profile, lastError := lastError }
    have hprofileNull : (v.get "active_profile").isNull = true ↔ profile = none := by
      rw [hprofile]
      exact isNull_orNull _ (fun _ => Value.noConfusion) profile
    have hslot : ∃ o, optional PendingReport.ofValue (v.get "pending_report") = some o ∧
        ∀ p ∈ o, State.PendingValid { base with pendingReport := o } p := by
      by_cases hnull : (v.get "pending_report").isNull = true
      · rw [Value.isNull_iff.mp hnull]
        exact ⟨none, rfl, by simp⟩
      · have hin := (Bool.or_eq_true _ _ ▸ hpending).resolve_left hnull
        have hvalid : validPending (v.get "pending_report") = true := by
          simp only [validPendingIn, Bool.and_eq_true] at hin
          exact hin.1.1.1.1
        obtain ⟨p, hp, hkey, hout, hbody⟩ := pending_of_valid hvalid
        refine ⟨some p, optional_of_some (fun hv => hnull (Value.isNull_iff.mpr hv)) hp, ?_⟩
        rintro q ⟨⟩
        exact pendingIn_of_valid hphase happlied happliedNum hreads hcaps hprofile hp hout hbody
          hkey hin
    obtain ⟨pending, hpending, hpendingValid⟩ := hslot
    refine ⟨{ base with pendingReport := pending }, State.ofValue_eq_some.mpr ⟨rfl, hsequence, ?_,
      hdesired, happlied, hgood, hrejected, hpending, hcaps, ?_, ?_⟩, ?_⟩
    · rw [hphase]
      exact Phase.ofValue_name phase
    · rw [hprofile]
      exact optional_profile profile
    · rw [herror]
      exact optional_profile lastError
    · simp only [Bool.or_eq_true, Bool.not_eq_true', ← Bool.not_eq_true, happliedNull, hgoodNull,
        hprofileNull] at hgoodApplied hactive hclosed
      rw [hphase] at hclosed hidle
      refine ⟨by exact_mod_cast hhi, hdesiredNum, happliedNum, hgoodNum,
        fun hg => hgoodApplied.resolve_left hg, fun ha => hactive.resolve_left ha, ?_, ?_,
        hpendingValid⟩
      · exact fun hc => hclosed.resolve_left fun hne => hne ((phase_is phase .failClosed).mpr hc)
      · have hiff := Bool.eq_iff_iff.mp hidle
        rw [hdesiredNull] at hiff
        exact (phase_is phase .idle).symm.trans hiff
  · simp at h

/-- The state read by a command, `none` when the journal is unusable. -/
def load (stored : Option Value) (fallback : State) : Option State :=
  match stored with
  | none => some fallback
  | some v => if validState v then State.ofValue v else none

theorem load_encode {s : State} (h : s.Valid) (fallback : State) :
    load (some s.encode) fallback = some s := by
  rw [load, if_pos ((validState_encode s).mpr h), State.ofValue_encode]

theorem load_valid {v : Value} (h : validState v = true) (fallback : State) :
    ∃ s, load (some v) fallback = some s ∧ s.Valid := by
  obtain ⟨s, hs, hvalid⟩ := exists_of_validState h
  exact ⟨s, by rw [load, if_pos h, hs], hvalid⟩

end Journal

end AutoVPN
