import AutoVPN.Router.JournalDecode

/-! The rules of `validState` that relate several fields, stated on the typed
state, and their agreement with the check of the stored value. -/

namespace AutoVPN

/-- The attempt that an idempotency key names. -/
def PendingReport.attempt? (p : PendingReport) : Option Nat :=
  Journal.attemptSuffix p.idempotencyKey.toList
    (Journal.keyPrefix p.body.revision p.body.snapshotSha256.1)

structure PendingReport.Matches (p : PendingReport) (e : Entry) : Prop where
  etag : p.etag = e.etag
  revision : p.body.revision = e.snapshot.revision
  sha256 : p.body.snapshotSha256 = e.snapshot.sha256
  attempt : p.attempt? = some e.attempt

structure PendingReport.Refers (p : PendingReport) (r : Rejected) : Prop where
  etag : p.etag = r.etag
  revision : r.revision = some p.body.revision

def State.OutcomeValid (s : State) (p : PendingReport) : Prop :=
  match p.body.outcome with
  | .applied => s.phase = .idle ∧ ∃ e, s.applied = some e ∧ p.Matches e
  | .failed =>
    (s.phase = .idle ∨ s.phase = .failClosed) ∧ ∃ r, s.rejected = some r ∧ p.Refers r

structure State.PendingValid (s : State) (p : PendingReport) : Prop where
  key : idempotencyKeyPattern.matches p.idempotencyKey = true
  attempt : ∃ n, p.attempt? = some n ∧ 1 ≤ n ∧ n ≤ s.sequence
  activeProfile : p.body.activeProfile = s.activeProfile
  capabilities : p.body.capabilities = s.capabilities
  outcome : s.OutcomeValid p

structure Entry.Numbered (sequence : Nat) (e : Entry) : Prop where
  pos : 1 ≤ e.attempt
  le : e.attempt ≤ sequence

/-- The journal invariant. -/
structure State.Valid (s : State) : Prop where
  sequence_le : s.sequence ≤ maxSafeInteger
  desired : ∀ e ∈ s.desired, e.Numbered s.sequence
  applied : ∀ e ∈ s.applied, e.Numbered s.sequence
  lastGood : ∀ e ∈ s.lastGood, e.Numbered s.sequence
  lastGood_applied : s.lastGood ≠ none → s.applied ≠ none
  activeProfile_applied : s.activeProfile ≠ none → s.applied ≠ none
  failClosed : s.phase = .failClosed → s.activeProfile = none
  idle_iff : s.phase = .idle ↔ s.desired = none
  pending : ∀ p ∈ s.pendingReport, s.PendingValid p

namespace Journal

/-! Checks of written records. -/

theorem isNull_orNull {α : Type*} (encode : α → Value) (hn : ∀ a, encode a ≠ .null)
    (o : Option α) : (orNull encode o).isNull = true ↔ o = none := by
  cases o with
  | none => exact iff_of_true rfl rfl
  | some a => simp [orNull, Value.isNull_iff, hn a]

theorem validProfile_orNull (o : Option Profile) :
    validProfile (orNull (fun p : Profile => .string p.1) o) = true := by
  cases o with
  | none => rfl
  | some p => exact p.2

theorem looseEq_orNull {p : Pattern} (a b : Option (Text p)) :
    (orNull (fun t : Text p => .string t.1) a).looseEq
      (orNull (fun t : Text p => .string t.1) b) = true ↔ a = b := by
  cases a <;> cases b <;> simp [orNull, Subtype.ext_iff]

theorem validCapabilities_encode (c : Capabilities) : validCapabilities c.encode = true := rfl

theorem sameCapabilities_encode (c d : Capabilities) :
    sameCapabilities c.encode d.encode = true ↔ c = d := by
  have h : sameCapabilities c.encode d.encode =
      ((c.vless == d.vless) && ((c.hysteria2 == d.hysteria2) && ((c.amneziawg == d.amneziawg) &&
        ((c.zapret == d.zapret) && ((c.policyRouting == d.policyRouting) && true))))) := rfl
  rw [h, Capabilities.ext_iff]
  simp

theorem validEntry_encode (e : Entry) (n : Nat) :
    validEntry e.encode n = true ↔ e.Numbered n := by
  have h : validEntry e.encode n =
      (true && etagPattern.matches e.etag.1 && (Value.int e.attempt).isInteger 1 n &&
        (validateSnapshot e.snapshot.value).isEmpty) := rfl
  rw [h]
  simp only [e.etag.2, e.snapshot.accepted, List.isEmpty_nil, Value.isInteger, Bool.true_and,
    Bool.and_true, Bool.and_eq_true, decide_eq_true_eq]
  constructor
  · rintro ⟨h₁, h₂⟩
    exact ⟨by exact_mod_cast h₁, by exact_mod_cast h₂⟩
  · rintro ⟨h₁, h₂⟩
    exact ⟨by exact_mod_cast h₁, by exact_mod_cast h₂⟩

theorem validSlot_orNull (o : Option Entry) (n : Nat) :
    o = none ∨ validEntry (orNull Entry.encode o) n = true ↔ ∀ e ∈ o, e.Numbered n := by
  cases o with
  | none => exact iff_of_true (Or.inl rfl) (by simp)
  | some e => simpa [orNull] using validEntry_encode e n

theorem validErrors_encode {es : List SchemaError} (h : Reportable 64 es) :
    validErrors (.array (es.map SchemaError.encode)) = true := by
  have hall : (es.map SchemaError.encode).all validError = true := by
    rw [List.all_map, List.all_eq_true]
    intro e he
    have hw := h.2 e he
    have heq : (validError ∘ SchemaError.encode) e =
      (true && errorPathPattern.matches e.path && codePattern.matches e.code) := rfl
    rw [heq, hw.1, hw.2]
    rfl
  simp [validErrors, Value.isArray, Value.items, h.1, hall]

theorem validRejected_encode (r : Rejected) : validRejected r.encode = true := by
  have h : validRejected r.encode =
      (true && ((orNull (fun n : Nat => Value.int n) r.revision).isNull ||
        (orNull (fun n : Nat => Value.int n) r.revision).isInteger 0 maxSafeInteger) &&
        etagPattern.matches r.etag.1 && codePattern.matches r.code.1 &&
        validErrors (.array (r.errors.map SchemaError.encode))) := rfl
  rw [h, r.etag.2, r.code.2, validErrors_encode r.reportable]
  cases hr : r.revision with
  | none => rfl
  | some n =>
    have hle := r.revision_le n hr
    simp only [orNull, Value.isNull, Value.isInteger, Bool.true_and, Bool.false_or, Bool.and_true,
      Bool.and_eq_true, decide_eq_true_eq]
    exact ⟨Int.natCast_nonneg n, by exact_mod_cast hle⟩

theorem validDiagnostics_encode (d : Diagnostics) :
    validDiagnostics d.encode (.string d.outcome.name) = true := by
  cases d with
  | verified => rfl
  | failure stage code => cases stage <;> exact code.2

theorem validReportBody_encode (b : ReportBody) : validReportBody b.encode = true := by
  have h : validReportBody b.encode =
      (true && b.schemaVersion.1.looseEq (.int 1) &&
        (Value.int b.revision).isInteger 0 maxSafeInteger &&
        sha256Pattern.matches b.snapshotSha256.1 &&
        ((Value.string b.outcome.name).is "APPLIED" || (Value.string b.outcome.name).is "FAILED") &&
        validProfile (orNull (fun p : Profile => .string p.1) b.activeProfile) &&
        validCapabilities b.capabilities.encode &&
        validDiagnostics b.diagnostics.encode (.string b.outcome.name)) := rfl
  have hr : (Value.int b.revision).isInteger 0 maxSafeInteger = true :=
    Value.isInteger_iff.mpr ⟨_, rfl, Int.natCast_nonneg _, by exact_mod_cast b.revision_le⟩
  have ho : ((Value.string b.outcome.name).is "APPLIED" ||
      (Value.string b.outcome.name).is "FAILED") = true := by
    cases b.outcome <;> rfl
  rw [h, b.schemaVersion.2, hr, b.snapshotSha256.2, ho, validProfile_orNull,
    validCapabilities_encode, ReportBody.outcome, validDiagnostics_encode]
  rfl

theorem validPending_encode (p : PendingReport) :
    validPending p.encode = idempotencyKeyPattern.matches p.idempotencyKey := by
  have h : validPending p.encode =
      (true && idempotencyKeyPattern.matches p.idempotencyKey && etagPattern.matches p.etag.1 &&
        validReportBody p.body.encode) := rfl
  rw [h, p.etag.2, validReportBody_encode]
  simp

theorem reportAttempt_encode (p : PendingReport) (n : Nat) :
    reportAttempt p.encode n =
      p.attempt?.bind fun a => if 1 ≤ (a : Int) ∧ (a : Int) ≤ n then some (a : Int) else none := rfl

theorem reportAttempt_eq_some {p : PendingReport} {n a : Nat} :
    reportAttempt p.encode n = some (a : Int) ↔ p.attempt? = some a ∧ 1 ≤ a ∧ a ≤ n := by
  rw [reportAttempt_encode]
  cases p.attempt? with
  | none => simp
  | some b =>
    simp only [Option.bind_some]
    split
    · simp only [Option.some.injEq, Nat.cast_inj]
      omega
    · simp only [reduceCtorEq, false_iff, Option.some.injEq]
      omega

theorem reportAttempt_isSome {p : PendingReport} {n : Nat} :
    (reportAttempt p.encode n).isSome = true ↔ ∃ a, p.attempt? = some a ∧ 1 ≤ a ∧ a ≤ n := by
  rw [reportAttempt_encode]
  cases p.attempt? with
  | none => simp
  | some b =>
    simp only [Option.bind_some, Option.some.injEq]
    split
    · exact iff_of_true rfl ⟨b, rfl, by omega⟩
    · refine iff_of_false (by simp) ?_
      rintro ⟨a, rfl, h⟩
      omega

theorem reportMatchesEntry_encode (p : PendingReport) (e : Entry) :
    reportMatchesEntry p.encode e.encode = true ↔ p.Matches e ∧ 1 ≤ e.attempt := by
  have h : reportMatchesEntry p.encode e.encode =
      (true && (Value.string p.etag.1).looseEq (.string e.etag.1) &&
        (Value.int p.body.revision).looseEq (e.snapshot.value.get "revision") &&
        (Value.string p.body.snapshotSha256.1).looseEq
          (e.snapshot.value.get "snapshot_sha256") &&
        (reportAttempt p.encode e.attempt == some (e.attempt : Int))) := rfl
  rw [h, e.snapshot.get_revision, e.snapshot.get_sha256]
  simp only [Bool.true_and, Bool.and_eq_true, Value.looseEq_string, Value.looseEq_int,
    beq_iff_eq, reportAttempt_eq_some, Nat.cast_inj]
  constructor
  · rintro ⟨⟨⟨he, hr⟩, hs⟩, ha, hpos, -⟩
    exact ⟨⟨Subtype.ext he, hr, Subtype.ext hs, ha⟩, hpos⟩
  · rintro ⟨⟨he, hr, hs, ha⟩, hpos⟩
    exact ⟨⟨⟨congrArg Subtype.val he, hr⟩, congrArg Subtype.val hs⟩, ha, hpos, Nat.le_refl _⟩

theorem phase_is (phase other : Phase) :
    (Value.string phase.name).is other.name = true ↔ phase = other := by
  rw [Value.is, Value.looseEq_string]
  cases phase <;> cases other <;> decide

theorem outcomeValid_encode (s : State) (p : PendingReport)
    (ha : ∀ e ∈ s.applied, e.Numbered s.sequence) :
    (if (Value.string p.body.outcome.name).is "APPLIED" then
      (Value.string s.phase.name).is "IDLE" &&
        reportMatchesEntry p.encode (orNull Entry.encode s.applied)
    else
      ((Value.string s.phase.name).is "IDLE" || (Value.string s.phase.name).is "FAIL_CLOSED") &&
        !(orNull Rejected.encode s.rejected).isNull &&
        (Value.string p.etag.1).looseEq ((orNull Rejected.encode s.rejected).get "etag") &&
        (Value.int p.body.revision).looseEq
          ((orNull Rejected.encode s.rejected).get "revision")) = true ↔ s.OutcomeValid p := by
  unfold State.OutcomeValid
  cases p.body.outcome with
  | applied =>
    have hname : (Value.string Outcome.applied.name).is "APPLIED" = true := rfl
    rw [if_pos hname, Bool.and_eq_true]
    refine and_congr (phase_is s.phase .idle) ?_
    cases happ : s.applied with
    | none => exact iff_of_false (by simp [orNull, reportMatchesEntry, Value.isNull]) (by simp)
    | some e =>
      have hpos := (ha e happ).pos
      refine (reportMatchesEntry_encode p e).trans ⟨fun h => ⟨e, rfl, h.1⟩, ?_⟩
      rintro ⟨_, he, h⟩
      exact ⟨Option.some.inj he ▸ h, hpos⟩
  | failed =>
    have hname : ¬(Value.string Outcome.failed.name).is "APPLIED" = true := by decide
    rw [if_neg hname, Bool.and_assoc, Bool.and_assoc, Bool.and_eq_true, Bool.or_eq_true]
    refine and_congr (or_congr (phase_is s.phase .idle) (phase_is s.phase .failClosed)) ?_
    cases hrej : s.rejected with
    | none => exact iff_of_false (by simp [orNull, Value.isNull]) (by simp)
    | some r =>
      have he : (Value.string p.etag.1).looseEq ((orNull Rejected.encode (some r)).get "etag") =
          (Value.string p.etag.1).looseEq (.string r.etag.1) := rfl
      have hr : (Value.int p.body.revision).looseEq
          ((orNull Rejected.encode (some r)).get "revision") =
          (Value.int p.body.revision).looseEq (orNull (fun n : Nat => .int n) r.revision) := rfl
      rw [he, hr, show (orNull Rejected.encode (some r)).isNull = false from rfl, Bool.not_false,
        Bool.true_and, Bool.and_eq_true, Value.looseEq_string]
      constructor
      · rintro ⟨h₁, h₂⟩
        cases hrev : r.revision with
        | none => simp [hrev, orNull] at h₂
        | some n =>
          rw [hrev, orNull, Value.looseEq_int, Nat.cast_inj] at h₂
          exact ⟨r, rfl, Subtype.ext h₁, by rw [hrev, h₂]⟩
      · rintro ⟨q, hq, h⟩
        obtain rfl := Option.some.inj hq
        rw [h.revision, orNull, Value.looseEq_int]
        exact ⟨congrArg Subtype.val h.etag, rfl⟩

theorem validPendingIn_encode {s : State} {p : PendingReport} (hp : s.pendingReport = some p)
    (ha : ∀ e ∈ s.applied, e.Numbered s.sequence) :
    validPendingIn s.encode s.sequence = true ↔ s.PendingValid p := by
  have h : validPendingIn s.encode s.sequence =
      (validPending (orNull PendingReport.encode s.pendingReport) &&
        (reportAttempt (orNull PendingReport.encode s.pendingReport) s.sequence).isSome &&
        (((orNull PendingReport.encode s.pendingReport).get "body").get "active_profile").looseEq
          (orNull (fun p : Profile => .string p.1) s.activeProfile) &&
        sameCapabilities
          (((orNull PendingReport.encode s.pendingReport).get "body").get "capabilities")
          s.capabilities.encode &&
        if (((orNull PendingReport.encode s.pendingReport).get "body").get "outcome").is
            "APPLIED" then
          (Value.string s.phase.name).is "IDLE" &&
            reportMatchesEntry (orNull PendingReport.encode s.pendingReport)
              (orNull Entry.encode s.applied)
        else
          ((Value.string s.phase.name).is "IDLE" || (Value.string s.phase.name).is "FAIL_CLOSED") &&
            !(orNull Rejected.encode s.rejected).isNull &&
            ((orNull PendingReport.encode s.pendingReport).get "etag").looseEq
              ((orNull Rejected.encode s.rejected).get "etag") &&
            (((orNull PendingReport.encode s.pendingReport).get "body").get "revision").looseEq
              ((orNull Rejected.encode s.rejected).get "revision")) := rfl
  rw [h, hp, Bool.and_eq_true, Bool.and_eq_true, Bool.and_eq_true, Bool.and_eq_true]
  have hkey : validPending (orNull PendingReport.encode (some p)) = true ↔
      idempotencyKeyPattern.matches p.idempotencyKey = true := by
    rw [orNull, validPending_encode]
  have hprofile := looseEq_orNull p.body.activeProfile s.activeProfile
  have hcaps := sameCapabilities_encode p.body.capabilities s.capabilities
  constructor
  · rintro ⟨⟨⟨⟨h₁, h₂⟩, h₃⟩, h₄⟩, h₅⟩
    exact ⟨hkey.mp h₁, reportAttempt_isSome.mp h₂, hprofile.mp h₃, hcaps.mp h₄,
      (outcomeValid_encode s p ha).mp h₅⟩
  · rintro ⟨h₁, h₂, h₃, h₄, h₅⟩
    exact ⟨⟨⟨⟨hkey.mpr h₁, reportAttempt_isSome.mpr h₂⟩, hprofile.mpr h₃⟩, hcaps.mpr h₄⟩,
      (outcomeValid_encode s p ha).mpr h₅⟩

theorem phases_any_name (phase : Phase) : phases.any (Value.string phase.name).is = true := by
  cases phase <;> decide

theorem validState_encode (s : State) : validState s.encode = true ↔ s.Valid := by
  have h : validState s.encode =
      (true && s.journalVersion.1.looseEq (.int 1) &&
        (Value.int s.sequence).isInteger 0 maxSafeInteger &&
        validCapabilities s.capabilities.encode &&
        validProfile (orNull (fun p : Profile => .string p.1) s.activeProfile) &&
        ((orNull (fun c : Code => Value.string c.1) s.lastError).isNull ||
          (orNull (fun c : Code => Value.string c.1) s.lastError).matches codePattern) &&
        phases.any (Value.string s.phase.name).is &&
        ((orNull Entry.encode s.desired).isNull ||
          validEntry (orNull Entry.encode s.desired) s.sequence) &&
        ((orNull Entry.encode s.applied).isNull ||
          validEntry (orNull Entry.encode s.applied) s.sequence) &&
        ((orNull Entry.encode s.lastGood).isNull ||
          validEntry (orNull Entry.encode s.lastGood) s.sequence) &&
        ((orNull Entry.encode s.lastGood).isNull || !(orNull Entry.encode s.applied).isNull) &&
        ((orNull (fun p : Profile => Value.string p.1) s.activeProfile).isNull ||
          !(orNull Entry.encode s.applied).isNull) &&
        (!(Value.string s.phase.name).is "FAIL_CLOSED" ||
          (orNull (fun p : Profile => Value.string p.1) s.activeProfile).isNull) &&
        ((orNull Rejected.encode s.rejected).isNull ||
          validRejected (orNull Rejected.encode s.rejected)) &&
        ((Value.string s.phase.name).is "IDLE" == (orNull Entry.encode s.desired).isNull) &&
        ((orNull PendingReport.encode s.pendingReport).isNull ||
          validPendingIn s.encode s.sequence)) := rfl
  have hsequence : (Value.int s.sequence).isInteger 0 maxSafeInteger = true ↔
      s.sequence ≤ maxSafeInteger := by simp [Value.isInteger]
  have herror : ((orNull (fun c : Code => Value.string c.1) s.lastError).isNull ||
      (orNull (fun c : Code => Value.string c.1) s.lastError).matches codePattern) = true := by
    cases s.lastError with
    | none => rfl
    | some c => exact c.2
  have hrejected : ((orNull Rejected.encode s.rejected).isNull ||
      validRejected (orNull Rejected.encode s.rejected)) = true := by
    cases s.rejected with
    | none => rfl
    | some r => exact validRejected_encode r
  have hentry := fun o => isNull_orNull Entry.encode (fun _ => Value.noConfusion) o
  have hprofile := isNull_orNull (fun p : Profile => Value.string p.1)
    (fun _ => Value.noConfusion) s.activeProfile
  have hclosed : (Value.string s.phase.name).is "FAIL_CLOSED" = true ↔ s.phase = .failClosed :=
    phase_is s.phase .failClosed
  have hidle : ((Value.string s.phase.name).is "IDLE" ==
      (orNull Entry.encode s.desired).isNull) = true ↔ (s.phase = .idle ↔ s.desired = none) := by
    rw [beq_iff_eq, Bool.eq_iff_iff, hentry]
    exact Iff.of_eq (congrArg (· ↔ s.desired = none) (propext (phase_is s.phase .idle)))
  have hpending (ha : ∀ e ∈ s.applied, e.Numbered s.sequence) :
      ((orNull PendingReport.encode s.pendingReport).isNull ||
        validPendingIn s.encode s.sequence) = true ↔ ∀ p ∈ s.pendingReport, s.PendingValid p := by
    cases hp : s.pendingReport with
    | none => exact iff_of_true rfl (by simp)
    | some p =>
      have hnull : (orNull PendingReport.encode (some p)).isNull = false := rfl
      rw [hnull, Bool.false_or, validPendingIn_encode hp ha]
      simp
  rw [h, s.journalVersion.2, validCapabilities_encode, validProfile_orNull, herror, hrejected,
    phases_any_name]
  simp only [Bool.and_true, Bool.true_and, Bool.and_eq_true, hsequence, validSlot_orNull,
    Bool.or_eq_true, Bool.not_eq_true', ← Bool.not_eq_true, hentry, hprofile, hclosed, hidle]
  constructor
  · rintro ⟨⟨⟨⟨⟨⟨⟨⟨h₁, h₂⟩, h₃⟩, h₄⟩, h₅⟩, h₆⟩, h₇⟩, h₈⟩, h₉⟩
    exact ⟨h₁, h₂, h₃, h₄, fun hl => h₅.resolve_left hl, fun hl => h₆.resolve_left hl,
      fun hc => h₇.resolve_left (not_not_intro hc), h₈, (hpending h₃).mp (Bool.or_eq_true _ _ ▸ h₉)⟩
  · rintro ⟨h₁, h₂, h₃, h₄, h₅, h₆, h₇, h₈, h₉⟩
    exact ⟨⟨⟨⟨⟨⟨⟨⟨h₁, h₂⟩, h₃⟩, h₄⟩, or_iff_not_imp_left.mpr h₅⟩, or_iff_not_imp_left.mpr h₆⟩,
      or_iff_not_imp_left.mpr fun hc => h₇ (not_not.mp hc)⟩, h₈⟩,
      Bool.or_eq_true _ _ ▸ (hpending h₃).mpr h₉⟩

end Journal

end AutoVPN
