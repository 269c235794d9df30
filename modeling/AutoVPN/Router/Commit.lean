import AutoVPN.Router.Runs

/-! What an apply does to the applied and the last good entry of the durable journal: it leaves
both, or it commits the desired entry. -/

namespace AutoVPN

open Program

/-- The state that the journal file holds; without a file it is the initial one. -/
def Stored : Option Value → State → Prop
  | none, s => s = Machine.initialState
  | some v, s => v = s.encode

theorem Stored.unique {j : Option Value} {s t : State} (h : Stored j s) (h' : Stored j t) :
    s = t := by
  cases j with
  | none => exact Eq.trans h (Eq.symm h')
  | some v => exact State.encode_injective (Eq.trans (Eq.symm h) h')

theorem Stored.loaded {j : Option Value} {s t : State} (h : Stored j s)
    (hl : Controller.loadState (.contents j) = some t) : t = s := by
  cases j with
  | none =>
    obtain rfl := Option.some.inj hl
    exact Eq.symm h
  | some v =>
    obtain rfl : v = s.encode := h
    change (if Journal.validState s.encode then State.ofValue s.encode else none) = some t at hl
    split at hl
    · rw [State.ofValue_encode] at hl
      exact (Option.some.inj hl).symm
    · cases hl

theorem Stored.valid {j : Option Value} {s t : State} (h : Stored j s)
    (hl : Controller.loadState (.contents j) = some t) : s.Valid := by
  cases j with
  | none =>
    obtain rfl : s = Machine.initialState := h
    exact Machine.initialState_valid
  | some v =>
    obtain rfl : v = s.encode := h
    change (if Journal.validState s.encode then State.ofValue s.encode else none) = some t at hl
    split at hl
    · exact (Journal.validState_encode s).mp ‹_›
    · cases hl

/-- How the journal file changes. The applied and the last good entry stay and what is desired
stays, goes or is a new attempt that is not older than the applied entry; or the desired entry is
committed. -/
inductive Promotes (f s : State) : Prop
  | kept (applied : s.applied = f.applied) (lastGood : s.lastGood = f.lastGood)
      (desired : s.desired = f.desired ∨ s.desired = none ∨
        ∃ d, s.desired = some d ∧ f.sequence < d.attempt ∧ d.attempt ≤ s.sequence ∧
          ∀ a ∈ f.applied, a.snapshot.revision ≤ d.snapshot.revision)
      (sequence : f.sequence ≤ s.sequence)
  | committed (d : Entry) (desired : f.desired = some d) (applied : s.applied = some d)
      (lastGood : s.lastGood = f.applied) (none : s.desired = none)
      (sequence : f.sequence ≤ s.sequence)

/-- Nothing is in progress, or the next command recovers. -/
def Settling (s : State) : Prop :=
  (s.phase = .idle ∧ s.desired = none) ∨ Machine.recoverRequired s = true

namespace Controller

/-- The steps of a router inside an execution with the trace `whole`. -/
abbrev TraceStep (whole : List RouterEvent) := along RouterStep whole

/-- The journal file together with the calls so far. -/
abbrev Traced : Type := Option Value × List RouterEvent

/-- Whatever is written promotes what is stored. -/
def WritesPromote (c : RouterCall) (w : Traced) : Prop :=
  ∀ v, c = .writeJournal v → ∃ s, v = s.encode ∧ ∀ f, Stored w.1 f → Promotes f s

variable {whole : List RouterEvent} {α : Type} {w : Traced} {Q : α → Traced → Prop}

abbrev Promoting (whole : List RouterEvent) (Q : α → Traced → Prop) (p : Router α) (w : Traced) :
    Prop :=
  Sat (TraceStep whole) WritesPromote Q p w

theorem Promoting.pure {a : α} (h : Q a w) : Promoting whole Q (.done a) w := h

theorem Promoting.ite {b : Prop} [Decidable b] {p q : Router α} (hp : b → Promoting whole Q p w)
    (hq : ¬b → Promoting whole Q q w) : Promoting whole Q (if b then p else q) w := by
  split
  · exact hp ‹_›
  · exact hq ‹_›

theorem promoting_ask {c : RouterCall} (hc : ∀ v, c ≠ .writeJournal v) :
    Promoting whole (fun r w' => w'.1 = w.1 ∧ w'.2 = w.2 ++ [⟨c, r⟩] ∧
      (⟨c, r⟩ : RouterEvent) ∈ whole) (ask c) w := by
  refine ⟨fun v hv => absurd hv (hc v), fun r w' hs => ⟨?_, hs.2.1, ?_⟩⟩
  · cases c with
    | writeJournal v => exact absurd rfl (hc v)
    | readJournal => exact hs.1.1
    | _ => exact hs.1
  · refine hs.2.2.subset ?_
    rw [hs.2.1]
    exact List.mem_append_right _ List.mem_cons_self

theorem promoting_runtime (action : Action) :
    Promoting whole (fun response w' => w'.1 = w.1 ∧ ∃ reply, response = adapterResponse reply ∧
      w'.2 = w.2 ++ [⟨.runtime action, reply⟩]) (runtimeAction action) w :=
  Sat.bind ((promoting_ask (by simp)).post fun reply _ h => ⟨h.1, reply, rfl, h.2.1⟩)

/-- The event is a step of an apply that fails. -/
def Fails : RouterEvent → Prop
  | ⟨.writeJournal _, written⟩ => written = false
  | ⟨.runtime action, reply⟩ => action ≠ .capabilities ∧ (adapterResponse reply).ok = false
  | _ => False

/-- The events since `w` are none that fails. -/
def Smooth (w w' : Traced) : Prop := ∃ tr, w'.2 = w.2 ++ tr ∧ ∀ e ∈ tr, ¬Fails e

theorem Smooth.refl (w : Traced) : Smooth w w := ⟨[], (List.append_nil _).symm, nofun⟩

theorem Smooth.trans {a b c : Traced} (h : Smooth a b) (h' : Smooth b c) : Smooth a c := by
  obtain ⟨tr, htr, hsmooth⟩ := h
  obtain ⟨tr', htr', hsmooth'⟩ := h'
  refine ⟨tr ++ tr', by rw [htr', htr, List.append_assoc], fun e he => ?_⟩
  rcases List.mem_append.mp he with he | he
  · exact hsmooth e he
  · exact hsmooth' e he

theorem Smooth.one {w w' : Traced} {e : RouterEvent} (h : w'.2 = w.2 ++ [e]) (he : ¬Fails e) :
    Smooth w w' :=
  ⟨[e], h, fun e' he' => by rwa [List.mem_singleton.mp he']⟩

theorem promoting_capabilitiesOf (value : Value) :
    Promoting whole (fun _ w' => w'.1 = w.1 ∧ Smooth w w') (capabilitiesOf value) w := by
  unfold capabilitiesOf
  refine Promoting.ite (fun _ => ⟨rfl, .refl w⟩) fun _ => ?_
  unfold runtimeCapabilities
  refine Sat.bind ((promoting_runtime .capabilities).post fun response w' h => ?_)
  obtain ⟨hj, reply, -, htr⟩ := h
  have hsmooth : Smooth w w' := .one htr fun hf => hf.1 rfl
  cases response with
  | success value => exact ⟨hj, hsmooth⟩
  | failure code => exact ⟨hj, hsmooth⟩

theorem promoting_save {s : State} (hp : ∀ f, Stored w.1 f → Promotes f s) :
    Promoting whole (fun b w' => w'.1 = (if b then some s.encode else w.1) ∧
      w'.2 = w.2 ++ [⟨.writeJournal s.encode, b⟩]) (saveState s) w := by
  refine ⟨fun v hv => ?_, fun r w' hstep => ⟨hstep.1, hstep.2.1⟩⟩
  obtain rfl := RouterCall.writeJournal.inj hv
  exact ⟨s, rfl, hp⟩

/-- The slots of `s'` are those of `s`. -/
structure SameSlots (s s' : State) : Prop where
  desired : s'.desired = s.desired
  applied : s'.applied = s.applied
  lastGood : s'.lastGood = s.lastGood
  sequence : s.sequence ≤ s'.sequence

theorem SameSlots.refl (s : State) : SameSlots s s := ⟨rfl, rfl, rfl, Nat.le_refl _⟩

theorem SameSlots.trans {a b c : State} (h : SameSlots a b) (h' : SameSlots b c) : SameSlots a c :=
  ⟨h'.desired.trans h.desired, h'.applied.trans h.applied, h'.lastGood.trans h.lastGood,
    h.sequence.trans h'.sequence⟩

theorem sameSlots_bump (s : State) (phase : Phase) (error : Option Code) :
    SameSlots s (Machine.bump { s with phase := phase, lastError := error }) :=
  ⟨rfl, rfl, rfl, Nat.le_succ _⟩

theorem sameSlots_withProfile (s : State) (value : Value) : SameSlots s (withProfile s value) := by
  unfold withProfile
  split <;> exact ⟨rfl, rfl, rfl, Nat.le_refl _⟩

/-- What `persist` leaves of a transition. -/
structure PersistOutcome (t : Transition) (w : Traced) (r : Transition) (w' : Traced) : Prop where
  state : r.state = t.state
  journal : w'.1 = w.1 ∨ w'.1 = some t.state.encode
  written : r.ok = true → t.ok = true ∧ w'.1 = some t.state.encode ∧
    w'.2 = w.2 ++ [⟨.writeJournal t.state.encode, true⟩]
  refused : r.ok = false → t.ok = true → w'.1 = w.1 ∧
    w'.2 = w.2 ++ [⟨.writeJournal t.state.encode, false⟩]
  past : w.2 <+: w'.2

theorem promoting_persist {t : Transition}
    (hp : ∀ f, Stored w.1 f → Promotes f t.state) :
    Promoting whole (PersistOutcome t w) (persist t) w := by
  unfold persist
  refine Promoting.ite (fun hrefused => ?_) fun hwrite => ?_
  · have hok : t.ok = false := by
      simp only [Bool.and_eq_true, Bool.not_eq_true'] at hrefused
      exact hrefused.1
    exact ⟨rfl, .inl rfl, fun h => absurd h (by simp [hok]), fun _ h => absurd h (by simp [hok]),
      List.prefix_rfl⟩
  · refine Sat.bind ((promoting_save hp).post fun b w' h => ?_)
    obtain ⟨hj, htr⟩ := h
    have hpast : w.2 <+: w'.2 := ⟨_, htr.symm⟩
    cases b with
    | true =>
      refine ⟨rfl, .inr hj, fun h => ?_, fun h h' => absurd (Eq.trans (Eq.symm h') h) (by simp),
        hpast⟩
      exact ⟨h, hj, htr⟩
    | false => exact ⟨rfl, .inl hj, nofun, fun _ _ => ⟨hj, htr⟩, hpast⟩

/-- What is stored agrees with a state in memory that may be ahead of it. -/
structure Behind (f s : State) : Prop where
  applied : f.applied = s.applied
  lastGood : f.lastGood = s.lastGood
  desired : s.desired = f.desired ∨ s.desired = none
  sequence : f.sequence ≤ s.sequence

theorem Behind.refl (s : State) : Behind s s := ⟨rfl, rfl, .inl rfl, Nat.le_refl _⟩

theorem Behind.same {f s t : State} (h : Behind f s) (hs : SameSlots s t) : Behind f t :=
  ⟨h.applied.trans hs.applied.symm, h.lastGood.trans hs.lastGood.symm,
    hs.desired.symm ▸ h.desired, h.sequence.trans hs.sequence⟩

theorem Behind.promotes {f s : State} (h : Behind f s) : Promotes f s :=
  .kept h.applied.symm h.lastGood.symm (h.desired.imp id .inl) h.sequence

/-- A state in memory is at most ahead of the stored one. -/
def Backed (s : State) (j : Option Value) : Prop := ∃ f, Stored j f ∧ Behind f s

theorem Backed.of_stored {s : State} {j : Option Value} (h : Stored j s) : Backed s j :=
  ⟨s, h, .refl s⟩

theorem Backed.promotes {s t : State} {j : Option Value} (h : Backed s j) (hs : SameSlots s t) :
    ∀ f, Stored j f → Promotes f t := by
  intro f hf
  obtain ⟨f', hf', hbehind⟩ := h
  obtain rfl := hf.unique hf'
  exact (hbehind.same hs).promotes

/-- The state `u` of an apply that was started in `s`; what is stored has the slots of `s` and
makes the next command recover. -/
structure Held (s u : State) (w : Traced) : Prop where
  same : SameSlots s u
  stored : ∃ f, Stored w.1 f ∧ Behind f u ∧ Settling f

theorem Held.of_journal {s u : State} {w w' : Traced} (h : Held s u w) (hj : w'.1 = w.1) :
    Held s u w' := ⟨h.same, hj ▸ h.stored⟩

theorem Held.backed {s u : State} (h : Held s u w) : Backed u w.1 := by
  obtain ⟨f, hf, hbehind, -⟩ := h.stored
  exact ⟨f, hf, hbehind⟩

theorem Held.persisted {s u : State} {t r : Transition} {w' : Traced} (h : Held s u w)
    (hp : PersistOutcome t w r w') (hs : SameSlots u t.state) (hset : Settling t.state) :
    Held s t.state w' := by
  refine ⟨h.same.trans hs, ?_⟩
  rcases hp.journal with hj | hj
  · rw [hj]
    obtain ⟨f, hf, hbehind, hsettling⟩ := h.stored
    exact ⟨f, hf, hbehind.same hs, hsettling⟩
  · rw [hj]
    exact ⟨t.state, rfl, .refl _, hset⟩

/-- What a rollback leaves, when the apply was started in `s`. -/
structure RolledBack (s : State) (r : Result) (w' : Traced) : Prop where
  outcome : r.outcome = some .rolledBack ∨ r.outcome = some .failClosed
  confirmed : r.ok = true → r.outcome = some .rolledBack
  state : ∃ t, r.state = some t ∧ t.applied = s.applied ∧ t.lastGood = s.lastGood ∧
    (r.ok = true → Stored w'.1 t ∧ t.phase = .idle ∧ t.desired = none) ∧
    ∃ f, Stored w'.1 f ∧ Behind f t ∧ Settling f
  rolled : ∃ reply, (⟨.runtime .rollback, reply⟩ : RouterEvent) ∈ w'.2 ∧
    ((adapterResponse reply).ok = false →
      ∃ reply', (⟨.runtime .failClosed, reply'⟩ : RouterEvent) ∈ w'.2)

theorem applyFailed_eq {s : State} {d : Entry} (hd : s.desired = some d) (code : Option Code) :
    Machine.applyFailed s code =
      Machine.done (Machine.bump { s with phase := .rollingBack, lastError := code }) :=
  if_pos (by rw [hd]; rfl)

theorem rolledBack_state {s : State} (hp : s.phase = .rollingBack) {d : Entry}
    (hd : s.desired = some d) (ok : Bool) (capabilities : Value) :
    (Machine.rolledBack s ok capabilities).state.applied = s.applied ∧
      (Machine.rolledBack s ok capabilities).state.lastGood = s.lastGood ∧
      (Machine.rolledBack s ok capabilities).state.sequence = s.sequence + 1 ∧
      (Machine.rolledBack s ok capabilities).state.desired = (if ok then none else some d) ∧
      (Machine.rolledBack s ok capabilities).state.phase = (if ok then .idle else .failClosed) ∧
      (Machine.rolledBack s ok capabilities).ok = ok := by
  unfold Machine.rolledBack
  rw [hp, hd]
  exact ⟨rfl, rfl, rfl, rfl, rfl, rfl⟩

theorem Held.rolledBack {s u : State} (h : Held s u w) (hp : u.phase = .rollingBack) {d : Entry}
    (hd : u.desired = some d) (ok : Bool) (capabilities : Value) :
    Settling (Machine.rolledBack u ok capabilities).state ∧
      (Machine.rolledBack u ok capabilities).state.applied = s.applied ∧
      (Machine.rolledBack u ok capabilities).state.lastGood = s.lastGood ∧
      ∃ f, Stored w.1 f ∧ Behind f (Machine.rolledBack u ok capabilities).state ∧ Settling f := by
  obtain ⟨ha, hl, hseq, hdes, hphase, -⟩ := rolledBack_state hp hd ok capabilities
  obtain ⟨f, hf, hbehind, hsettling⟩ := h.stored
  refine ⟨?_, ha.trans h.same.applied, hl.trans h.same.lastGood, f, hf,
    ⟨hbehind.applied.trans ha.symm, hbehind.lastGood.trans hl.symm, ?_,
      by have := hbehind.sequence; omega⟩, hsettling⟩
  · cases ok
    · exact .inr (by rw [Machine.recoverRequired, hphase]; rfl)
    · exact .inl ⟨hphase, hdes⟩
  · rw [hdes]
    cases ok
    · exact hbehind.desired.imp hd.symm.trans fun h => absurd (hd.symm.trans h) (by simp)
    · exact .inr rfl

theorem stored_after {t r : Transition} {w' : Traced} (hp : PersistOutcome t w r w')
    (h : ∃ f, Stored w.1 f ∧ Behind f t.state ∧ Settling f) (hset : Settling t.state) :
    ∃ f, Stored w'.1 f ∧ Behind f t.state ∧ Settling f := by
  rcases hp.journal with hj | hj
  · rw [hj]
    exact h
  · rw [hj]
    exact ⟨t.state, rfl, .refl _, hset⟩

theorem promotes_of_behind {s : State} (h : ∃ f, Stored w.1 f ∧ Behind f s ∧ Settling f) :
    ∀ f, Stored w.1 f → Promotes f s := by
  obtain ⟨f, hf, hbehind, -⟩ := h
  exact Backed.promotes ⟨f, hf, hbehind⟩ (.refl s)

theorem promoting_rollbackDesired {s u : State} (h : Held s u w) {d : Entry}
    (hd : u.desired = some d) (failureCode : Option Code) :
    Promoting whole (RolledBack s) (rollbackDesired u failureCode) w := by
  unfold rollbackDesired
  dsimp only
  rw [applyFailed_eq hd failureCode, if_neg (by simp)]
  have hslots := sameSlots_bump u .rollingBack failureCode
  generalize hfailed : Machine.bump { u with phase := .rollingBack, lastError := failureCode } = v
    at hslots
  have hphase : v.phase = .rollingBack := by rw [← hfailed]; rfl
  have hset : Settling v := .inr (by rw [Machine.recoverRequired, hphase])
  have hdes : v.desired = some d := hslots.desired.trans hd
  refine Sat.bind ((promoting_persist (h.backed.promotes hslots)).post fun _ w₁ hp₁ => ?_)
  have hv₁ : Held s v w₁ := h.persisted hp₁ hslots hset
  refine Sat.bind ((promoting_runtime .rollback).post fun response w₂ hr => ?_)
  obtain ⟨hj₂, reply, hreply, htr₂⟩ := hr
  have hrolled : (⟨.runtime .rollback, reply⟩ : RouterEvent) ∈ w₂.2 := by simp [htr₂]
  have hv₂ := hv₁.of_journal hj₂
  cases response with
  | success value =>
    refine Sat.bind ((promoting_capabilitiesOf value).post fun capabilities w₃ hc => ?_)
    obtain ⟨hj₃, tr₃, htr₃, -⟩ := hc
    obtain ⟨hsame₃, f, hf, hbehind, hsettling⟩ := hv₂.of_journal hj₃
    have hprofile : SameSlots v (withProfile (Machine.done v).state value) :=
      sameSlots_withProfile v value
    generalize hworking : withProfile (Machine.done v).state value = u' at hprofile
    have hu : Held s u' w₃ :=
      ⟨hsame₃.trans hprofile, f, hf, hbehind.same hprofile, hsettling⟩
    have hphase' : u'.phase = .rollingBack := by
      rw [← hworking, (withProfile_fields _ value).1, Machine.done_state, hphase]
    have hdes' : u'.desired = some d := hprofile.desired.trans hdes
    obtain ⟨hsettled, ha, hl, hstored⟩ := hu.rolledBack hphase' hdes' true capabilities
    obtain ⟨-, -, -, hnone, hidle, -⟩ := rolledBack_state hphase' hdes' true capabilities
    refine Sat.bind ((promoting_persist (promotes_of_behind hstored)).post fun stored w₄ hp₄ => ?_)
    have hmem := hp₄.past.subset (htr₃ ▸ List.mem_append_left tr₃ hrolled)
    have hconfirmed : (adapterResponse reply).ok = true := by rw [← hreply]; rfl
    have hstored := stored_after hp₄ hstored hsettled
    refine Promoting.ite (fun hunwritten => ?_) fun hwritten => ?_
    · exact ⟨.inl rfl, fun _ => rfl, ⟨_, rfl, ha, hl, nofun, hstored⟩,
        ⟨reply, hmem, fun hno => absurd (hno.symm.trans hconfirmed) (by simp)⟩⟩
    · have hfinal := (hp₄.written (by simpa using hwritten)).2.1
      refine ⟨.inl rfl, fun _ => rfl, ⟨_, rfl, ha, hl, fun _ => ⟨?_, hidle, hnone⟩, hstored⟩,
        ⟨reply, hmem, fun hno => absurd (hno.symm.trans hconfirmed) (by simp)⟩⟩
      rw [hfinal]
      exact rfl
  | failure failure =>
    refine Sat.bind ((promoting_runtime .failClosed).post fun closing w₃ hc => ?_)
    obtain ⟨hj₃, reply', -, htr₃⟩ := hc
    have hv₃ := hv₂.of_journal hj₃
    obtain ⟨hsettled, ha, hl, hstored⟩ := hv₃.rolledBack hphase hdes false (.object [])
    obtain ⟨-, -, -, -, -, hok⟩ := rolledBack_state hphase hdes false (.object [])
    refine Sat.bind ((promoting_persist (promotes_of_behind hstored)).post fun _ w₄ hp₄ => ?_)
    have hmem := hp₄.past.subset (htr₃ ▸ List.mem_append_left _ hrolled)
    have hclosed : (⟨.runtime .failClosed, reply'⟩ : RouterEvent) ∈ w₃.2 := by simp [htr₃]
    have hno (hok' : (Machine.rolledBack v false (.object [])).ok = true) : False := by
      simp [hok] at hok'
    exact ⟨.inr rfl, fun hok' => (hno hok').elim,
      ⟨_, rfl, ha, hl, fun hok' => (hno hok').elim, stored_after hp₄ hstored hsettled⟩,
      ⟨reply, hmem, fun _ => ⟨reply', hp₄.past.subset hclosed⟩⟩⟩

/-- An apply under way: `u` is stored and nothing has failed since `w₀`. -/
structure Working (s : State) (w₀ : Traced) (u : State) (w : Traced) : Prop where
  same : SameSlots s u
  stored : Stored w.1 u
  desired : u.desired.isSome
  settling : Settling u
  smooth : Smooth w₀ w

theorem Working.held {s u : State} {w₀ : Traced} (h : Working s w₀ u w) : Held s u w :=
  ⟨h.same, u, h.stored, .refl u, h.settling⟩

/-- How an apply that was started in `s` ends. -/
inductive ApplyEnds (s : State) (w : Traced) (r : Result) (w' : Traced) : Prop
  | refused (hok : r.ok = false) (ho : r.outcome = none) (hj : w'.1 = w.1)
      (hstate : ∃ t, r.state = some t ∧ SameSlots s t)
      (htr : ∃ v, w'.2 = w.2 ++ [⟨.writeJournal v, false⟩])
  | rolledBack (h : RolledBack s r w')
  | applied (ho : r.outcome = some .applied)
      (hstate : ∃ t, r.state = some t ∧ Stored w'.1 t ∧ t.phase = .idle ∧
        t.desired = none ∧ t.applied = s.desired ∧ t.lastGood = s.applied)
      (hsmooth : Smooth w w')

theorem advance_eq {source target : Phase} {u : State} (h : u.phase = source) :
    Machine.advance source target u = Machine.done (Machine.bump { u with phase := target }) :=
  if_pos h

theorem promoting_rollback {s u : State} {w₀ : Traced} (h : Held s u w) (hd : u.desired.isSome)
    (code : Option Code) :
    Promoting whole (ApplyEnds s w₀) (rollbackDesired u code) w := by
  obtain ⟨d, hd⟩ := Option.isSome_iff_exists.mp hd
  exact (promoting_rollbackDesired h hd code).post fun _ _ hr => .rolledBack hr

theorem promoting_checkpoint {s u : State} {w₀ : Traced} {source target : Phase}
    {next : Router Result} (h : Working s w₀ u w) (hu : u.phase = source)
    (hset : ∀ t : State, t.phase = target → Settling t)
    (hnext : ∀ w', Working s w₀ (Machine.advance source target u).state w' →
      Promoting whole (ApplyEnds s w₀) next w') :
    Promoting whole (ApplyEnds s w₀) (do
      let transition ← persist (Machine.advance source target u)
      if !transition.ok then rollbackDesired u transition.code else next) w := by
  have hslots : SameSlots u (Machine.advance source target u).state := by
    rw [advance_eq hu]
    exact ⟨rfl, rfl, rfl, Nat.le_succ _⟩
  have hphase : (Machine.advance source target u).state.phase = target := by
    rw [advance_eq hu]
    rfl
  have hok : (Machine.advance source target u).ok = true := by rw [advance_eq hu]; rfl
  generalize Machine.advance source target u = t at *
  refine Sat.bind ((promoting_persist (h.held.backed.promotes hslots)).post fun r w' hp => ?_)
  refine Promoting.ite (fun hno => ?_) fun hwritten => ?_
  · have hj := (hp.refused (by simpa using hno) hok).1
    exact promoting_rollback (h.held.of_journal hj) h.desired _
  · obtain ⟨-, hj, htr⟩ := hp.written (by simpa using hwritten)
    refine hnext w' ⟨h.same.trans hslots, by rw [hj]; exact rfl,
      by rw [hslots.desired]; exact h.desired, hset _ hphase,
      h.smooth.trans (Smooth.one htr (by simp [Fails]))⟩

theorem promoting_commit {s u : State} {w₀ : Traced} (h : Working s w₀ u w)
    (hu : u.phase = .verifying) (profile : Option Profile) (capabilities : Value) :
    Promoting whole (ApplyEnds s w₀) (do
      let committed ← persist (Machine.verified u profile capabilities)
      if !committed.ok then rollbackDesired u committed.code
      else
        return { ok := committed.ok, code := committed.code, outcome := some .applied,
                 state := some committed.state }) w := by
  obtain ⟨d, hdes⟩ := Option.isSome_iff_exists.mp h.desired
  have hv : (Machine.verified u profile capabilities).ok = true ∧
      (Machine.verified u profile capabilities).state.desired = none ∧
      (Machine.verified u profile capabilities).state.applied = some d ∧
      (Machine.verified u profile capabilities).state.lastGood = u.applied ∧
      (Machine.verified u profile capabilities).state.phase = .idle ∧
      (Machine.verified u profile capabilities).state.sequence = u.sequence + 1 := by
    unfold Machine.verified
    rw [hu, hdes]
    exact ⟨rfl, rfl, rfl, rfl, rfl, rfl⟩
  obtain ⟨hvok, hnone, happ, hlast, hidle, hseq⟩ := hv
  generalize Machine.verified u profile capabilities = t at *
  have hcommit (f : State) (hf : Stored w.1 f) : Promotes f t.state := by
    obtain rfl := hf.unique h.stored
    exact .committed d hdes happ hlast hnone (by omega)
  refine Sat.bind ((promoting_persist hcommit).post fun r w' hp => ?_)
  refine Promoting.ite (fun hno => ?_) fun hok => ?_
  · have hj := (hp.refused (by simpa using hno) hvok).1
    exact promoting_rollback (h.held.of_journal hj) h.desired _
  · obtain ⟨-, hj, htr⟩ := hp.written (by simpa using hok)
    refine .applied rfl ⟨t.state, by rw [← hp.state], ?_, hidle, hnone, ?_, ?_⟩
      (h.smooth.trans (Smooth.one htr (by simp [Fails])))
    · rw [hj]
      exact rfl
    · rw [happ, ← hdes, h.same.desired]
    · rw [hlast, h.same.applied]

theorem Working.answered {s u : State} {w₀ : Traced} {action : Action} {reply : AdapterReply}
    {w' : Traced} (h : Working s w₀ u w) (hj : w'.1 = w.1)
    (htr : w'.2 = w.2 ++ [⟨.runtime action, reply⟩])
    (hok : (adapterResponse reply).ok = true) : Working s w₀ u w' := by
  refine ⟨h.same, hj ▸ h.stored, h.desired, h.settling, h.smooth.trans (.one htr ?_)⟩
  exact fun hf => absurd (hf.2.symm.trans hok) (by simp)

theorem promoting_applyDesired {s : State} (hs : Stored w.1 s)
    (hready : s.phase = .ready) (hd : s.desired.isSome) :
    Promoting whole (ApplyEnds s w) (applyDesired s) w := by
  unfold applyDesired
  have hbegin : Machine.beginApply s =
      Machine.done (Machine.bump { s with phase := .preparing, lastError := none }) :=
    if_pos ⟨hready, hd⟩
  have hslots := sameSlots_bump s .preparing none
  dsimp only
  rw [hbegin]
  generalize hu : Machine.bump { s with phase := .preparing, lastError := none } = u at hslots
  have hphase : u.phase = .preparing := by rw [← hu]; rfl
  refine Sat.bind ((promoting_persist
    ((Backed.of_stored hs).promotes hslots)).post fun r w₁ hp => ?_)
  refine Promoting.ite (fun hno => ?_) fun hok => ?_
  · have hno : r.ok = false := by simpa using hno
    obtain ⟨hj, htr⟩ := hp.refused hno rfl
    exact .refused hno rfl hj ⟨u, congrArg some hp.state, hslots⟩ ⟨_, htr⟩
  obtain ⟨-, hj₁, htr₁⟩ := hp.written (by simpa using hok)
  have hw₁ : Working s w u w₁ := by
    refine ⟨hslots, by rw [hj₁]; exact rfl, by rw [hslots.desired]; exact hd, .inr ?_,
      .one htr₁ (by simp [Fails])⟩
    rw [Machine.recoverRequired, hphase]
  refine Sat.bind ((promoting_runtime .prepare).post fun response w₂ hr => ?_)
  obtain ⟨hj₂, reply₂, hreply₂, htr₂⟩ := hr
  cases response with
  | failure failure => exact promoting_rollback (hw₁.held.of_journal hj₂) hw₁.desired _
  | success _ =>
    have hw₂ := hw₁.answered hj₂ htr₂ (by rw [← hreply₂]; rfl)
    refine promoting_checkpoint hw₂ hphase
      (fun t ht => .inr (by rw [Machine.recoverRequired, ht])) fun w₃ hw₃ => ?_
    have hphase₃ : (Machine.prepared u).state.phase = .prepared := by
      rw [Machine.prepared, advance_eq hphase]
      rfl
    refine promoting_checkpoint hw₃ hphase₃
      (fun t ht => .inr (by rw [Machine.recoverRequired, ht])) fun w₄ hw₄ => ?_
    have hphase₄ : (Machine.activating (Machine.prepared u).state).state.phase = .activating := by
      rw [Machine.activating, advance_eq hphase₃]
      rfl
    refine Sat.bind ((promoting_runtime .activate).post fun response w₅ hr => ?_)
    obtain ⟨hj₅, reply₅, hreply₅, htr₅⟩ := hr
    cases response with
    | failure failure => exact promoting_rollback (hw₄.held.of_journal hj₅) hw₄.desired _
    | success _ =>
      have hw₅ := hw₄.answered hj₅ htr₅ (by rw [← hreply₅]; rfl)
      refine promoting_checkpoint hw₅ hphase₄
        (fun t ht => .inr (by rw [Machine.recoverRequired, ht])) fun w₆ hw₆ => ?_
      have hphase₆ : (Machine.activated (Machine.activating
          (Machine.prepared u).state).state).state.phase = .verifying := by
        rw [Machine.activated, advance_eq hphase₄]
        rfl
      refine Sat.bind ((promoting_runtime .verify).post fun response w₇ hr => ?_)
      obtain ⟨hj₇, reply₇, hreply₇, htr₇⟩ := hr
      cases response with
      | failure failure => exact promoting_rollback (hw₆.held.of_journal hj₇) hw₆.desired _
      | success value =>
        have hw₇ := hw₆.answered hj₇ htr₇ (by rw [← hreply₇]; rfl)
        refine Sat.bind ((promoting_capabilitiesOf value).post fun capabilities w₈ hc => ?_)
        have hw₈ : Working s w _ w₈ := ⟨hw₇.same, hc.1 ▸ hw₇.stored, hw₇.desired,
          hw₇.settling, hw₇.smooth.trans hc.2⟩
        exact promoting_commit hw₈ hphase₆ _ capabilities

/-- The journal is idle with the desired entry of `s` applied. -/
def CommitsDesired (s : State) (j : Option Value) : Prop :=
  ∃ f, Stored j f ∧ f.phase = .idle ∧ f.applied = s.desired ∧ f.lastGood = s.applied

/-- The journal has the applied and the last good entry of `s`. -/
def KeepsApplied (s : State) (j : Option Value) : Prop :=
  ∃ f, Stored j f ∧ f.applied = s.applied ∧ f.lastGood = s.lastGood

/-- The runtime is rolled back, and closed when that fails. -/
def RollsBack (tr : List RouterEvent) : Prop :=
  ∃ reply, (⟨.runtime .rollback, reply⟩ : RouterEvent) ∈ tr ∧
    ((adapterResponse reply).ok = false →
      ∃ reply', (⟨.runtime .failClosed, reply'⟩ : RouterEvent) ∈ tr)

def SettledIn (j : Option Value) : Prop := ∃ f, Stored j f ∧ Settling f

/-- What one apply or rollback that is started in `s` does, with the calls `tr`. -/
structure Atomic (s : State) (tr : List RouterEvent) (j : Option Value) (r : Result) : Prop where
  commits : r.outcome = some .applied → CommitsDesired s j
  keeps : r.outcome ≠ some .applied → KeepsApplied s j
  rollsBack : (∃ reply, (⟨.runtime .prepare, reply⟩ : RouterEvent) ∈ tr) → (∃ e ∈ tr, Fails e) →
    RollsBack tr
  settled : (∃ v, (⟨.writeJournal v, true⟩ : RouterEvent) ∈ tr) → SettledIn j

theorem RolledBack.not_applied {s : State} {r : Result} {w : Traced} (h : RolledBack s r w) :
    r.outcome ≠ some .applied := by
  rcases h.outcome with ho | ho <;> simp [ho]

theorem RolledBack.atomic {s : State} {r : Result} {w : Traced} (h : RolledBack s r w) :
    Atomic s w.2 w.1 r := by
  obtain ⟨t, -, ha, hl, -, f, hf, hbehind, hsettling⟩ := h.state
  exact ⟨fun ho => absurd ho h.not_applied,
    fun _ => ⟨f, hf, hbehind.applied.trans ha, hbehind.lastGood.trans hl⟩, fun _ _ => h.rolled,
    fun _ => ⟨f, hf, hsettling⟩⟩

theorem ApplyEnds.atomic {s : State} {j : Option Value} {r : Result} {w : Traced}
    (hs : Stored j s) (h : ApplyEnds s (j, []) r w) : Atomic s w.2 w.1 r := by
  cases h with
  | refused hok ho hj hstate htr =>
    obtain ⟨v, htr⟩ := htr
    have hevent : ∀ e ∈ w.2, e = ⟨.writeJournal v, false⟩ := by simp [htr]
    refine ⟨by simp [ho], fun _ => ⟨s, hj ▸ hs, rfl, rfl⟩, ?_, ?_⟩
    · rintro ⟨reply, he⟩
      exact absurd (congrArg Sigma.fst (hevent _ he)) (by simp)
    · rintro ⟨v', he⟩
      simpa using hevent _ he
  | rolledBack h => exact h.atomic
  | applied ho hstate hsmooth =>
    obtain ⟨t, -, ht, hidle, hnone, happ, hlast⟩ := hstate
    refine ⟨fun _ => ⟨t, ht, hidle, happ, hlast⟩, fun hno => absurd ho hno, ?_,
      fun _ => ⟨t, ht, .inl ⟨hidle, hnone⟩⟩⟩
    rintro - ⟨e, he, hfails⟩
    obtain ⟨tr, htr, hnofail⟩ := hsmooth
    exact absurd hfails (hnofail e (by simpa [htr] using he))

/-- Only an apply that reports it ends idle with the desired entry applied, unless that entry is
the applied and the last good one already. -/
theorem ApplyEnds.applied_of_commits {s : State} {j : Option Value} {r : Result} {w : Traced}
    (hs : Stored j s) (hready : s.phase = .ready)
    (hnew : ¬(s.desired = s.applied ∧ s.applied = s.lastGood)) (h : ApplyEnds s (j, []) r w)
    (hc : CommitsDesired s w.1) : r.outcome = some .applied := by
  obtain ⟨f, hf, hidle, happ, hlast⟩ := hc
  cases h with
  | refused _ _ hj =>
    rw [hj] at hf
    obtain rfl := hf.unique hs
    exact absurd (hready.symm.trans hidle) (by simp)
  | rolledBack h =>
    obtain ⟨t, -, ha, hl, -, f', hf', hbehind, -⟩ := h.state
    obtain rfl := hf.unique hf'
    exact absurd ⟨(happ.symm.trans hbehind.applied).trans ha,
      (hlast.symm.trans hbehind.lastGood).trans hl⟩ hnew
  | applied ho => exact ho

theorem desired_isSome {s : State} (hv : s.Valid) (h : s.phase ≠ .idle) : s.desired.isSome :=
  Option.isSome_iff_ne_none.mpr fun hnone => h (hv.idle_iff.mpr hnone)

/-- An apply or a rollback commits the desired entry or leaves the applied and the last good one,
whatever fails. -/
theorem apply_and_rollback_atomic {s : State} (hv : s.Valid) {tr : List RouterEvent}
    {j : Option Value} {r : Result} :
    (s.phase = .ready → Exec RouterStep (applyDesired s) (some s.encode) tr j (some r) →
      Atomic s tr j r ∧ (¬(s.desired = s.applied ∧ s.applied = s.lastGood) →
        (r.outcome = some .applied ↔ CommitsDesired s j))) ∧
    (Machine.recoverRequired s = true → ∀ code,
      Exec RouterStep (rollbackDesired s code) (some s.encode) tr j (some r) →
      r.outcome ≠ some .applied ∧ Atomic s tr j r ∧ RollsBack tr ∧ SettledIn j) := by
  have hstored : Stored (some s.encode) s := rfl
  refine ⟨fun hready he => ?_, fun hrec code he => ?_⟩
  · have hd := desired_isSome hv (by rw [hready]; exact nofun)
    have hends : ApplyEnds s (some s.encode, []) r (j, tr) :=
      (promoting_applyDesired (w := (some s.encode, [])) hstored hready hd).result (he.along [])
    exact ⟨hends.atomic hstored, fun hnew => ⟨(hends.atomic hstored).commits,
      hends.applied_of_commits hstored hready hnew⟩⟩
  · have hd := desired_isSome hv fun hidle => by simp [Machine.recoverRequired, hidle] at hrec
    obtain ⟨d, hd⟩ := Option.isSome_iff_exists.mp hd
    have hheld : Held s s (some s.encode, []) := ⟨.refl s, s, hstored, .refl s, .inr hrec⟩
    have h : RolledBack s r (j, tr) :=
      (promoting_rollbackDesired hheld hd code).result (he.along [])
    obtain ⟨t, -, -, -, -, f, hf, -, hsettling⟩ := h.state
    exact ⟨h.not_applied, h.atomic, h.rolled, f, hf, hsettling⟩

end Controller

namespace Sample

/-- An entry that is prepared while `held` is the applied and the last good one. -/
def readyOver (held : Option Entry) : State :=
  { Machine.initialState with
    sequence := 3, phase := .ready, desired := some entry, applied := held, lastGood := held }

theorem readyOver_valid {held : Option Entry} (h : held = none ∨ held = some entry) :
    (readyOver held).Valid := by
  have hnumbered : ∀ e ∈ some entry, e.Numbered (readyOver held).sequence := by
    intro e he
    obtain rfl := Option.mem_some_iff.mp he
    exact ⟨Nat.le_refl 1, (by decide : 1 ≤ 3)⟩
  have hheld : ∀ e ∈ held, e.Numbered (readyOver held).sequence := by
    rcases h with rfl | rfl
    · exact nofun
    · exact hnumbered
  refine State.Valid.of_core ⟨hnumbered, hheld, hheld, ?_⟩ ?_ ?_ ?_ ?_ rfl
  all_goals simp [readyOver, Machine.initialState, maxSafeInteger]

def begunOver (held : Option Entry) : State := (Machine.beginApply (readyOver held)).state

def failedOver (held : Option Entry) : State :=
  (Machine.applyFailed (begunOver held) (some Controller.adapterStartFailed)).state

def rolledBackOver (held : Option Entry) : State :=
  (Machine.rolledBack (failedOver held) true Machine.emptyCapabilities.encode).state

def done : AdapterReply := .finished (.object [("ok", .bool true)]) 0

/-- The runtime does not start to prepare the entry and is rolled back. -/
def refusedTrace (held : Option Entry) : List RouterEvent :=
  [⟨.writeJournal (begunOver held).encode, true⟩, ⟨.runtime .prepare, .notStarted⟩,
    ⟨.writeJournal (failedOver held).encode, true⟩, ⟨.runtime .rollback, done⟩,
    ⟨.runtime .capabilities, .notStarted⟩, ⟨.writeJournal (rolledBackOver held).encode, true⟩]

def refusedResult (held : Option Entry) : Result :=
  { ok := true, code := some Controller.adapterStartFailed, outcome := some .rolledBack,
    failureCode := some Controller.adapterStartFailed, state := some (rolledBackOver held) }

theorem exec_refused (held : Option Entry) :
    Exec RouterStep (Controller.applyDesired (readyOver held)) (some (readyOver held).encode)
      (refusedTrace held) (some (rolledBackOver held).encode) (some (refusedResult held)) := by
  iterate 2 refine .call (u := some (begunOver held).encode) rfl ?_
  iterate 3 refine .call (u := some (failedOver held).encode) rfl ?_
  refine .call (u := some (rolledBackOver held).encode) rfl ?_
  exact .done _ _

theorem unconfirmed_matches : codePattern.matches "fail_closed_unconfirmed" = true := by decide

def closedResult : Result :=
  { ok := false, code := some (Machine.code "fail_closed_unconfirmed" unconfirmed_matches),
    outcome := some .failClosed,
    failureCode := none
    state := some (Machine.rolledBack (Machine.applyFailed verifying none).state false
      (.object [])).state }

/-- Nothing that the rollback of a verified snapshot needs works. -/
def closedTrace : List RouterEvent :=
  [⟨.writeJournal (Machine.applyFailed verifying none).state.encode, false⟩,
    ⟨.runtime .rollback, .notStarted⟩, ⟨.runtime .failClosed, .notStarted⟩,
    ⟨.writeJournal (Machine.rolledBack (Machine.applyFailed verifying none).state false
      (.object [])).state.encode, false⟩]

theorem exec_closed : Exec RouterStep (Controller.rollbackDesired verifying none)
    (some verifying.encode) closedTrace (some verifying.encode) (some closedResult) := by
  iterate 4 refine .call (u := some verifying.encode) rfl ?_
  exact .done _ _

end Sample

/-- A first apply that fails is rolled back, and a rollback that fails closes the runtime. -/
theorem failures_roll_back :
    Controller.KeepsApplied (Sample.readyOver none) (some (Sample.rolledBackOver none).encode) ∧
      ¬Controller.CommitsDesired (Sample.readyOver none)
        (some (Sample.rolledBackOver none).encode) ∧
      Controller.RollsBack Sample.closedTrace ∧ Controller.SettledIn (some Sample.verifying.encode) := by
  obtain ⟨hatomic, hiff⟩ := (Controller.apply_and_rollback_atomic
    (Sample.readyOver_valid (.inl rfl))).1 rfl (Sample.exec_refused none)
  obtain ⟨-, -, hrolls, hsettled⟩ := (Controller.apply_and_rollback_atomic
    Sample.verifying_valid).2 rfl none Sample.exec_closed
  have hnew : ¬((Sample.readyOver none).desired = (Sample.readyOver none).applied ∧
      (Sample.readyOver none).applied = (Sample.readyOver none).lastGood) := fun h => by cases h.1
  have hoc : (Sample.refusedResult none).outcome ≠ some .applied := by simp [Sample.refusedResult]
  exact ⟨hatomic.keeps hoc, fun hc => hoc ((hiff hnew).mpr hc), hrolls, hsettled⟩

/-- A rollback leaves the desired entry applied when it was the applied one before. -/
theorem rollback_looks_applied :
    ¬∀ s : State, s.Valid → s.phase = .ready → ∀ tr j r,
      Exec RouterStep (Controller.applyDesired s) (some s.encode) tr j (some r) →
      (r.outcome = some .applied ↔ Controller.CommitsDesired s j) := by
  intro hclaim
  have happlied := (hclaim _ (Sample.readyOver_valid (.inr rfl)) rfl _ _ _
    (Sample.exec_refused (some Sample.entry))).mpr
    ⟨Sample.rolledBackOver (some Sample.entry), rfl, rfl, rfl, rfl⟩
  simp [Sample.refusedResult] at happlied

end AutoVPN
