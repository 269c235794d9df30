import AutoVPN.Lib.Network
import AutoVPN.Router.Machine

/-! The transitions keep the journal invariant. A report stands only next to
the phases that allow it, so the transitions of an apply start without one. -/

namespace AutoVPN

theorem length_toString_le {n : Nat} (h : n ≤ maxSafeInteger) :
    (toString n).toList.length ≤ 16 := by
  rw [Nat.toString_eq_repr, Nat.toList_repr, Nat.length_toDigits_le_iff (by decide) (by decide)]
  exact Nat.lt_of_le_of_lt h (by decide)

namespace Machine

theorem reportKey_toList (e : Entry) : (reportKey e).toList =
    Journal.keyPrefix e.snapshot.revision e.snapshot.sha256.1 ++ (toString e.attempt).toList :=
  String.toList_ofList

theorem attemptSuffix_append (pre : List Char) {digits : List Char} (hne : digits ≠ [])
    (hdigits : ∀ c ∈ digits, c.isDigit = true) :
    Journal.attemptSuffix (pre ++ digits) pre = some (digitsValue digits) := by
  simp [Journal.attemptSuffix, hne, List.all_eq_true.mpr hdigits]

theorem attempt_reportFor (e : Entry) (profile : Option Profile) (c : Capabilities)
    (d : Diagnostics) : (reportFor e profile c d).attempt? = some e.attempt := by
  have h := attemptSuffix_append (Journal.keyPrefix e.snapshot.revision e.snapshot.sha256.1)
    (toString_ne_nil e.attempt) fun c hc => isDigit_of_mem_toString hc
  rw [← reportKey_toList, digitsValue_toString] at h
  exact h

theorem isLowerHex_of_mem_sha256 {sha : Sha256} {c : Char} (h : c ∈ sha.1.toList) :
    isLowerHex c = true :=
  (Piece.accepts_exactly.mp (Pattern.matchesList_singleton.mp sha.2)).2 c h

theorem reportKey_matches {e : Entry} (h : e.attempt ≤ maxSafeInteger) :
    idempotencyKeyPattern.matches (reportKey e) = true := by
  have hrev := length_toString_le e.snapshot.revision_le
  have hatt := length_toString_le h
  have hsha : (e.snapshot.sha256.1.toList.take 16).length ≤ 16 := List.length_take_le 16 _
  have hdigit (c : Char) (hc : c.isDigit = true) :
      alphanumericOr ['.', '_', '~', '-'] c = true := by
    simp [alphanumericOr, isAlphanumeric, hc]
  have hhex (c : Char) (hc : isLowerHex c = true) :
      alphanumericOr ['.', '_', '~', '-'] c = true := by
    rcases Bool.or_eq_true _ _ ▸ hc with hc | hc
    · exact hdigit c hc
    · have hlower : c.isLower = true := by
        simp only [Bool.and_eq_true, decide_eq_true_eq] at hc
        exact Bool.and_eq_true_iff.mpr
          ⟨decide_eq_true hc.1, decide_eq_true (UInt32.le_trans hc.2 (by decide))⟩
      simp [alphanumericOr, isAlphanumeric, hlower]
  have hshape : Journal.keyPrefix e.snapshot.revision e.snapshot.sha256.1 ++
      (toString e.attempt).toList = ['r'] ++ ((toString e.snapshot.revision).toList ++
        '-' :: (e.snapshot.sha256.1.toList.take 16 ++ ['-', 's']) ++
        (toString e.attempt).toList) := rfl
  rw [Pattern.matches, reportKey_toList, hshape]
  refine Pattern.matchesList_cons_append (by decide) ?_
  rw [Pattern.matchesList_singleton, Piece.accepts_between]
  refine ⟨⟨Nat.zero_le _, ?_⟩, fun c hc => ?_⟩
  · simp only [List.length_append, List.length_cons, List.length_nil]
    omega
  · simp only [List.mem_append, List.mem_cons, List.not_mem_nil, or_false] at hc
    rcases hc with (hc | rfl | hc | rfl | rfl) | hc
    · exact hdigit c (isDigit_of_mem_toString hc)
    · decide
    · exact hhex c (isLowerHex_of_mem_sha256 (List.mem_of_mem_take hc))
    · decide
    · decide
    · exact hdigit c (isDigit_of_mem_toString hc)

end Machine

theorem Entry.Numbered.mono {m n : Nat} {e : Entry} (h : e.Numbered m) (hmn : m ≤ n) :
    e.Numbered n := ⟨h.pos, h.le.trans hmn⟩

/-- The part of the invariant that every write keeps, also inside an apply. -/
structure State.Core (s : State) : Prop where
  desired : ∀ e ∈ s.desired, e.Numbered s.sequence
  applied : ∀ e ∈ s.applied, e.Numbered s.sequence
  lastGood : ∀ e ∈ s.lastGood, e.Numbered s.sequence
  lastGood_applied : s.lastGood ≠ none → s.applied ≠ none

theorem State.Valid.core {s : State} (h : s.Valid) : s.Core :=
  ⟨h.desired, h.applied, h.lastGood, h.lastGood_applied⟩

theorem State.Core.bump {s : State} (h : s.Core) : (Machine.bump s).Core :=
  ⟨fun e he => (h.desired e he).mono (Nat.le_succ _), fun e he => (h.applied e he).mono (Nat.le_succ _),
    fun e he => (h.lastGood e he).mono (Nat.le_succ _), h.lastGood_applied⟩

/-- Without a report, the sequence may grow and the fields that `validState`
leaves alone may change. -/
theorem State.Valid.of_core {s : State} (h : s.Core) (hle : s.sequence ≤ maxSafeInteger)
    (hactive : s.activeProfile ≠ none → s.applied ≠ none)
    (hclosed : s.phase = .failClosed → s.activeProfile = none)
    (hidle : s.phase = .idle ↔ s.desired = none) (hpending : s.pendingReport = none) :
    s.Valid :=
  ⟨hle, h.desired, h.applied, h.lastGood, h.lastGood_applied, hactive, hclosed, hidle,
    by simp [hpending]⟩

namespace Machine

theorem initialState_valid : initialState.Valid := by
  refine State.Valid.of_core ⟨?_, ?_, ?_, ?_⟩ (Nat.zero_le _) ?_ ?_ ?_ rfl <;> simp [initialState]

/-- One more transition does not exhaust the sequence. -/
def Room (s : State) : Prop := s.sequence + 1 ≤ maxSafeInteger

theorem bump_valid {s : State} (h : s.Core) (hroom : Room s)
    (hactive : s.activeProfile ≠ none → s.applied ≠ none)
    (hclosed : s.phase = .failClosed → s.activeProfile = none)
    (hidle : s.phase = .idle ↔ s.desired = none) (hpending : s.pendingReport = none) :
    (bump s).Valid :=
  State.Valid.of_core h.bump hroom hactive hclosed hidle hpending

theorem receiveSnapshot_valid {s : State} (h : s.Valid) (hpending : s.pendingReport = none)
    (hroom : Room s) (snapshot etag : Value) (force : Bool) :
    (receiveSnapshot s snapshot etag force).state.Valid := by
  unfold receiveSnapshot
  split
  · exact h
  · split
    · exact bump_valid ⟨h.desired, h.applied, h.lastGood, h.lastGood_applied⟩ hroom
        h.activeProfile_applied h.failClosed h.idle_iff hpending
    · split
      · exact h
      · split
        · exact h
        · refine State.Valid.of_core ⟨?_, h.core.bump.applied, h.core.bump.lastGood,
            h.lastGood_applied⟩ hroom h.activeProfile_applied (by simp [bump]) (by simp [bump])
            hpending
          intro e he
          obtain rfl := Option.mem_some_iff.mp he
          exact ⟨Nat.succ_pos _, Nat.le_refl _⟩

theorem beginApply_valid {s : State} (h : s.Valid) (hpending : s.pendingReport = none)
    (hroom : Room s) : (beginApply s).state.Valid := by
  unfold beginApply
  split
  · rename_i hphase
    refine bump_valid ⟨h.desired, h.applied, h.lastGood, h.lastGood_applied⟩ hroom
      h.activeProfile_applied (by simp) ?_ hpending
    simpa [← Option.isSome_iff_ne_none] using hphase.2
  · exact h

theorem advance_valid {s : State} {source target : Phase} (h : s.Valid)
    (hsource : source ≠ .idle) (htarget : target ≠ .idle) (hclosed : target ≠ .failClosed)
    (hpending : s.pendingReport = none) (hroom : Room s) :
    (advance source target s).state.Valid := by
  unfold advance
  split
  · rename_i hphase
    refine bump_valid ⟨h.desired, h.applied, h.lastGood, h.lastGood_applied⟩ hroom
      h.activeProfile_applied (fun hc => absurd hc hclosed) ?_ hpending
    have hne : ¬s.phase = .idle := hphase ▸ hsource
    exact iff_of_false htarget fun hd => hne (h.idle_iff.mpr hd)
  · exact h

theorem reportFor_valid {s : State} {e : Entry} {d : Diagnostics}
    (he : e.Numbered s.sequence) (hle : s.sequence ≤ maxSafeInteger)
    (hout : s.OutcomeValid (reportFor e s.activeProfile s.capabilities d)) :
    s.PendingValid (reportFor e s.activeProfile s.capabilities d) :=
  ⟨reportKey_matches (he.le.trans hle), ⟨e.attempt, attempt_reportFor e _ _ d, he.pos, he.le⟩,
    rfl, rfl, hout⟩

theorem verified_valid {s : State} (h : s.Valid) (hroom : Room s) (profile : Option Profile)
    (capabilities : Value) : (verified s profile capabilities).state.Valid := by
  unfold verified
  split
  · rename_i current hphase hdesired
    have hcurrent := h.core.bump.desired current hdesired
    refine ⟨hroom, by simp [done, bump], ?_, h.core.bump.applied, by simp [done, bump],
      by simp [done, bump], by simp [done, bump], by simp [done, bump], ?_⟩
    · intro e he
      obtain rfl := Option.mem_some_iff.mp he
      exact hcurrent
    · intro p hp
      obtain rfl := Option.mem_some_iff.mp hp
      refine reportFor_valid hcurrent hroom ⟨rfl, current, rfl, rfl, rfl, rfl, ?_⟩
      exact attempt_reportFor current _ _ _
  · exact h

theorem applyFailed_core {s : State} (h : s.Core) (code : Option Code) :
    (applyFailed s code).state.Core := by
  unfold applyFailed
  split
  · exact State.Core.bump ⟨h.desired, h.applied, h.lastGood, h.lastGood_applied⟩
  · exact h

theorem applyFailed_valid {s : State} (h : s.Valid) (hpending : s.pendingReport = none)
    (hroom : Room s) (code : Option Code) : (applyFailed s code).state.Valid := by
  unfold applyFailed
  split
  · rename_i hdesired
    refine bump_valid ⟨h.desired, h.applied, h.lastGood, h.lastGood_applied⟩ hroom
      h.activeProfile_applied (by simp) ?_ hpending
    simpa [← Option.isSome_iff_ne_none] using hdesired
  · exact h

/-- The end of a rollback is valid also when the runtime named a profile that
the state could not hold. -/
theorem rolledBack_valid {s : State} (h : s.Core) (hroom : Room s)
    (hphase : s.phase = .rollingBack) (hdesired : s.desired.isSome = true) (ok : Bool)
    (capabilities : Value) : (rolledBack s ok capabilities).state.Valid := by
  obtain ⟨entry, hentry⟩ := Option.isSome_iff_exists.mp hdesired
  have hnum := h.bump.desired entry hentry
  unfold rolledBack
  rw [hphase, hentry]
  refine ⟨hroom, ?_, h.bump.applied, h.bump.lastGood, h.lastGood_applied, ?_, ?_, ?_, ?_⟩
  · cases ok
    · intro e he
      obtain rfl := Option.mem_some_iff.mp he
      exact hnum
    · simp [bump]
  · cases ok <;> cases s.applied <;> simp [bump]
  · cases ok <;> simp [bump]
  · cases ok <;> simp [bump]
  · intro p hp
    obtain rfl := Option.mem_some_iff.mp hp
    refine reportFor_valid hnum hroom ⟨?_, _, rfl, rfl, rfl⟩
    cases ok
    · exact Or.inr rfl
    · exact Or.inl rfl

theorem reportAccepted_valid {s : State} (h : s.Valid) (hroom : Room s) (key : String) :
    (reportAccepted s key).state.Valid := by
  unfold reportAccepted
  split
  · exact h
  · split
    · exact h
    · exact bump_valid ⟨h.desired, h.applied, h.lastGood, h.lastGood_applied⟩ hroom
        h.activeProfile_applied h.failClosed h.idle_iff rfl

end Machine

end AutoVPN
