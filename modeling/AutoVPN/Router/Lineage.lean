import AutoVPN.Router.Closure
import AutoVPN.Router.Commit
import AutoVPN.Router.Idempotency

/-! The journals that a run writes one after the other: each promotes the one before, so that
revisions do not go down and attempts go up. -/

namespace AutoVPN

open Program

/-- Revisions do not go down and attempts go up from the last good over the applied to the
desired entry. -/
structure Ordered (s : State) : Prop where
  lastGood : ∀ l ∈ s.lastGood, ∃ a ∈ s.applied,
    l.snapshot.revision ≤ a.snapshot.revision ∧ l.attempt < a.attempt
  desired : ∀ d ∈ s.desired, ∀ a ∈ s.applied,
    a.snapshot.revision ≤ d.snapshot.revision ∧ a.attempt < d.attempt
  applied_le : ∀ a ∈ s.applied, a.attempt ≤ s.sequence
  desired_le : ∀ d ∈ s.desired, d.attempt ≤ s.sequence

/-- The applied entry of `t` is not older than that of `s`. -/
def NotOlder (s t : State) : Prop :=
  ∀ a ∈ s.applied, ∃ b ∈ t.applied, a.snapshot.revision ≤ b.snapshot.revision

theorem ordered_initial : Ordered Machine.initialState := ⟨nofun, nofun, nofun, nofun⟩

theorem NotOlder.trans {s t u : State} (h : NotOlder s t) (h' : NotOlder t u) : NotOlder s u := by
  intro a ha
  obtain ⟨b, hb, hab⟩ := h a ha
  obtain ⟨c, hc, hbc⟩ := h' b hb
  exact ⟨c, hc, hab.trans hbc⟩

theorem Promotes.ordered {f s : State} (hf : Ordered f) (h : Promotes f s) : Ordered s := by
  cases h with
  | kept happ hlast hdes hseq =>
    refine ⟨?_, fun d hd a ha => ?_, fun a ha => ?_, fun d hd => ?_⟩
    · rw [hlast, happ]
      exact hf.lastGood
    · rw [happ] at ha
      rcases hdes with hdes | hdes | ⟨d', hdes, hlt, -, hrev⟩
      · exact hf.desired d (hdes ▸ hd) a ha
      · simp [hdes] at hd
      · obtain rfl : d' = d := by simpa [hdes] using hd
        exact ⟨hrev a ha, (hf.applied_le a ha).trans_lt hlt⟩
    · rw [happ] at ha
      exact (hf.applied_le a ha).trans hseq
    · rcases hdes with hdes | hdes | ⟨d', hdes, -, hle, -⟩
      · exact (hf.desired_le d (hdes ▸ hd)).trans hseq
      · simp [hdes] at hd
      · obtain rfl : d' = d := by simpa [hdes] using hd
        exact hle
  | committed d hdes happ hlast hnone hseq =>
    have hle := hf.desired_le d hdes
    refine ⟨fun l hl => ⟨d, happ, hf.desired d hdes l (hlast ▸ hl)⟩, by simp [hnone],
      fun a ha => ?_, by simp [hnone]⟩
    obtain rfl : d = a := by simpa [happ] using ha
    exact hle.trans hseq

theorem Promotes.notOlder {f s : State} (hf : Ordered f) (h : Promotes f s) : NotOlder f s := by
  intro a ha
  cases h with
  | kept happ => exact ⟨a, happ ▸ ha, Nat.le_refl _⟩
  | committed d hdes happ => exact ⟨d, happ, (hf.desired d hdes a ha).1⟩

/-- The journals `vs` are written one after the other, from `f` to `g`. -/
inductive Lineage : State → List State → State → Prop
  | nil (f : State) : Lineage f [] f
  | cons {f s g : State} {ss : List State} (h : Promotes f s) (rest : Lineage s ss g) :
      Lineage f (s :: ss) g

namespace Lineage

theorem append {f g h : State} {ss ss' : List State} (hl : Lineage f ss g) (hr : Lineage g ss' h) :
    Lineage f (ss ++ ss') h := by
  induction hl with
  | nil f => exact hr
  | cons hp _ ih => exact .cons hp (ih hr)

theorem ordered {f g : State} {ss : List State} (h : Lineage f ss g) (hf : Ordered f) :
    ∀ s ∈ ss, Ordered s ∧ NotOlder f s := by
  induction h with
  | nil f => simp
  | cons hp _ ih =>
    have hs := hp.ordered hf
    intro t ht
    rcases List.mem_cons.mp ht with rfl | ht
    · exact ⟨hs, hp.notOlder hf⟩
    · obtain ⟨ho, hno⟩ := ih hs t ht
      exact ⟨ho, (hp.notOlder hf).trans hno⟩

theorem notOlder {f g : State} {ss : List State} (h : Lineage f ss g) (hf : Ordered f) :
    ss.Pairwise NotOlder := by
  induction h with
  | nil f => exact .nil
  | cons hp hrest ih =>
    have hs := hp.ordered hf
    exact .cons (fun t ht => (hrest.ordered hs t ht).2) (ih hs)

theorem last {f g : State} {ss : List State} (h : Lineage f ss g) : g = ss.getLast?.getD f := by
  induction h with
  | nil f => rfl
  | @cons f s g ss _ _ ih =>
    rw [ih]
    cases ss <;> rfl

end Lineage

/-- The journal that an event makes durable. -/
def durableJournal : RouterEvent → Option Value
  | ⟨.writeJournal v, true⟩ => some v
  | _ => none

/-- The journals that the calls make durable, in their order. -/
def durable (tr : List RouterEvent) : List Value := tr.filterMap durableJournal

namespace Controller

variable {whole : List RouterEvent} {w : Traced}

theorem lineage_of_exec {α : Type} {Q : α → Traced → Prop} {p : Router α} {w' : Traced}
    {tr : List RouterEvent} {o : Option α} (h : Promoting whole Q p w)
    (he : Exec (TraceStep whole) p w tr w' o) {f : State} (hf : Stored w.1 f) :
    ∃ ss g, durable tr = ss.map State.encode ∧ Lineage f ss g ∧ Stored w'.1 g := by
  induction he generalizing f with
  | stop p w => exact ⟨[], f, rfl, .nil f, hf⟩
  | done a w => exact ⟨[], f, rfl, .nil f, hf⟩
  | @call c next w u w' r tr o hs _ ih =>
    have hread (hj : u.1 = w.1) (hd : durableJournal ⟨c, r⟩ = none) :
        ∃ ss g, durable (⟨c, r⟩ :: tr) = ss.map State.encode ∧ Lineage f ss g ∧
          Stored w'.1 g := by
      obtain ⟨ss, g, hss, hline, hg⟩ := ih (h.2 r u hs) (f := f) (by rw [hj]; exact hf)
      exact ⟨ss, g, by rw [← hss, durable, List.filterMap_cons_none hd, durable], hline, hg⟩
    cases c with
    | writeJournal v =>
      have hj : u.1 = if r then some v else w.1 := hs.1
      cases r with
      | false => exact hread hj rfl
      | true =>
        obtain ⟨s, rfl, hp⟩ := h.1 v rfl
        obtain ⟨ss, g, hss, hline, hg⟩ := ih (h.2 true u hs) (f := s) (by rw [hj]; exact rfl)
        refine ⟨s :: ss, g, ?_, .cons (hp f hf) hline, hg⟩
        rw [List.map_cons, ← hss]
        rfl
    | readJournal => exact hread hs.1.1 rfl
    | _ => exact hread hs.1 rfl

/-- What sending the pending report does to the state in memory. -/
structure Reported (s : State) (w : Traced) (r : Transition) (w' : Traced) : Prop where
  same : SameSlots s r.state
  phase : r.state.phase = s.phase
  backed : Backed r.state w'.1
  stored : Stored w.1 s → r.ok = true → Stored w'.1 r.state

theorem promoting_reportPending {s : State} (h : Backed s w.1) :
    Promoting whole (Reported s w) (reportPending s) w := by
  unfold reportPending
  cases hp : s.pendingReport with
  | none => exact ⟨.refl s, rfl, h, fun hs _ => hs⟩
  | some report =>
    refine Sat.bind ((promoting_ask (by simp)).post fun reply w₁ hr => ?_)
    have h₁ : Backed s w₁.1 := hr.1 ▸ h
    cases adapterResponse reply with
    | failure failure => exact ⟨.refl s, rfl, h₁, fun _ hok => absurd hok (by simp)⟩
    | success _ =>
      have hslots : SameSlots s (Machine.bump { s with pendingReport := none }) :=
        ⟨rfl, rfl, rfl, Nat.le_succ _⟩
      dsimp only
      rw [reportAccepted_cases s report hp]
      refine (promoting_persist (h₁.promotes hslots)).post fun r w' hpersist => ?_
      rw [Machine.done] at hpersist
      refine ⟨hpersist.state ▸ hslots, by rw [hpersist.state]; rfl, ?_, fun _ hok => ?_⟩
      · rw [hpersist.state]
        rcases hpersist.journal with hj | hj
        · obtain ⟨f, hf, hbehind⟩ := h₁
          exact hj ▸ ⟨f, hf, hbehind.same hslots⟩
        · rw [hj]
          exact .of_stored rfl
      · rw [hpersist.state, (hpersist.written hok).2.1]
        exact rfl

/-- Nothing is stored as in progress. -/
def Idle (j : Option Value) : Prop := ∃ f, Stored j f ∧ f.phase = .idle ∧ f.desired = none

theorem promoting_applyAndReport {s : State} (hs : Stored w.1 s) (hready : s.phase = .ready)
    (hd : s.desired.isSome) :
    Promoting whole (fun r w' => r.ok = true → Idle w'.1) (applyAndReport s) w := by
  unfold applyAndReport
  refine Sat.bind ((promoting_applyDesired hs hready hd).post fun applied w₁ hends => ?_)
  refine Promoting.ite (fun hno => ?_) fun hgo => ?_
  · intro hok
    simp [hok] at hno
  cases hends with
  | refused hok ho => simp [hok, ho] at hgo
  | rolledBack h =>
    obtain ⟨t, ht, ha, hl, -, f, hf, hbehind, -⟩ := h.state
    rw [ht]
    refine Sat.bind ((promoting_reportPending ⟨f, hf, hbehind⟩).post fun r w' _ => ?_)
    intro hok
    rcases h.outcome with ho | ho
    · simp [finalizeRefresh, ho] at hok
    · simp only [finalizeRefresh, ho] at hok
      exact absurd (ho.symm.trans (h.confirmed hok)) (by simp)
  | applied ho hstate =>
    obtain ⟨t, ht, hstored, hidle, hnone, -, -⟩ := hstate
    rw [ht]
    refine Sat.bind ((promoting_reportPending (.of_stored hstored)).post fun r w' hr => ?_)
    intro hok
    have hsent : r.ok = true := by
      by_contra hno
      simp [finalizeRefresh, ho, hno] at hok
    exact ⟨r.state, hr.stored hstored hsent, hr.phase.trans hidle, hr.same.desired.trans hnone⟩

theorem receiveSnapshot_promotes (s : State) (snapshot etag : Value) (force : Bool) :
    Promotes s (Machine.receiveSnapshot s snapshot etag force).state := by
  have hsame (t : State) (ht : SameSlots s t) : Promotes s t :=
    (Behind.refl s |>.same ht).promotes
  unfold Machine.receiveSnapshot
  split
  · exact hsame _ (.refl s)
  · split
    · exact hsame _ ⟨rfl, rfl, rfl, Nat.le_succ _⟩
    · rename_i etag' _ _ snapshot' _
      split
      · exact hsame _ (.refl s)
      · split
        · exact hsame _ (.refl s)
        · rename_i hold
          refine .kept rfl rfl (.inr (.inr ⟨_, rfl, Nat.lt_succ_self _, Nat.le_refl _, ?_⟩))
            (Nat.le_succ _)
          intro a ha
          rw [Option.mem_def] at ha
          rw [ha] at hold
          simpa using hold

theorem receiveSnapshot_ready {s : State} {snapshot etag : Value} {force : Bool}
    (hok : (Machine.receiveSnapshot s snapshot etag force).ok = true)
    (hnoop : (Machine.receiveSnapshot s snapshot etag force).noop = false) :
    (Machine.receiveSnapshot s snapshot etag force).state.phase = .ready ∧
      (Machine.receiveSnapshot s snapshot etag force).state.desired.isSome ∧
      (force = false → ¬∃ a ∈ s.applied, etag = .string a.etag.1) := by
  revert hok hnoop
  unfold Machine.receiveSnapshot
  split
  · simp
  · rename_i etag' hetag
    split
    · simp
    · split
      · simp [Machine.noop]
      · rename_i hnew
        split
        · simp
        · refine fun _ _ => ⟨rfl, rfl, ?_⟩
          rintro rfl ⟨a, ha, rfl⟩
          rw [Option.mem_def] at ha
          have hsame : etag' = a.etag := by
            have h := Text.ofValue_eq_some.mp hetag
            exact Subtype.ext (Value.string.inj h).symm
          simp [ha, hsame] at hnew

theorem receiveSnapshot_noop {s : State} {snapshot etag : Value}
    (hnoop : (Machine.receiveSnapshot s snapshot etag false).noop = true) :
    ∃ a ∈ s.applied, etag = .string a.etag.1 := by
  revert hnoop
  unfold Machine.receiveSnapshot
  split
  · simp [Machine.failed]
  · rename_i etag' hetag
    split
    · simp [Machine.failed]
    · split
      · rename_i hsame
        intro _
        cases ha : s.applied with
        | none => simp [ha] at hsame
        | some a =>
          have heq : a.etag = etag' := Subtype.ext (by simpa [ha] using hsame)
          exact ⟨a, rfl, heq ▸ Text.ofValue_eq_some.mp hetag⟩
      · split
        · simp [Machine.failed]
        · simp [Machine.done]

theorem promoting_recover {s : State} (hs : Stored w.1 s) (hv : s.Valid) :
    Promoting whole (fun r w' => r.ok = true → ∃ t, r.state = some t ∧ Stored w'.1 t ∧
      (t.phase = .idle ∧ t.desired = none ∧ Machine.recoverRequired s = true ∨
        t = s ∧ Machine.recoverRequired s = false)) (recover s) w := by
  unfold recover
  refine Promoting.ite (fun hno => ?_) fun hrec => ?_
  · exact fun _ => ⟨s, rfl, hs, .inr ⟨rfl, by simpa using hno⟩⟩
  have hrec : Machine.recoverRequired s = true := by simpa using hrec
  have hd := desired_isSome hv fun hidle => by simp [Machine.recoverRequired, hidle] at hrec
  obtain ⟨d, hd⟩ := Option.isSome_iff_exists.mp hd
  refine (promoting_rollbackDesired ⟨.refl s, s, hs, .refl s, .inr hrec⟩ hd _).post
    fun r w' h hok => ?_
  obtain ⟨t, ht, -, -, hdone, -⟩ := h.state
  obtain ⟨hstored, hidle, hnone⟩ := hdone hok
  exact ⟨t, ht, hstored, .inl ⟨hidle, hnone, hrec⟩⟩

theorem promoting_restoreRuntime (s : State) :
    Promoting whole (fun _ w' => w'.1 = w.1) (restoreRuntime s) w := by
  refine Sat.bind ((promoting_runtime .restore).post fun response w₁ h₁ => ?_)
  cases response with
  | failure failure =>
    exact Sat.bind ((promoting_runtime .failClosed).post fun _ _ h => h.1.trans h₁.1)
  | success value => exact Promoting.ite (fun _ => h₁.1) fun _ => h₁.1

theorem promoting_checkConfiguration (config : Config) :
    Promoting whole (fun _ w' => w'.1 = w.1) (checkConfiguration config) w := by
  unfold checkConfiguration
  refine Promoting.ite (fun _ => rfl) fun _ => ?_
  refine Sat.bind ((promoting_ask (by simp)).post fun readable w₁ h₁ => ?_)
  refine Promoting.ite (fun _ => h₁.1) fun _ => ?_
  refine Sat.bind ((promoting_ask (by simp)).post fun guarded w₂ h₂ => ?_)
  have h := h₂.1.trans h₁.1
  refine Promoting.ite (fun _ => h) fun _ => Promoting.ite (fun _ => h) fun _ => ?_
  exact Promoting.ite (fun _ => h) fun _ => h

theorem promoting_consumeSnapshot (config : Config) (response : Value) :
    Promoting whole (fun _ w' => w'.1 = w.1) (consumeSnapshot config response) w := by
  unfold consumeSnapshot
  cases validResponsePath config.stateDir (response.get "response_file") with
  | none => exact rfl
  | some path =>
    refine Sat.bind ((promoting_ask (by simp)).post fun file _ h => ?_)
    cases file <;> exact h.1

theorem promoting_accept {s : State} (hs : Stored w.1 s) {snapshot etag : Value} {force : Bool}
    {failure : Result} (hfailure : failure.ok = false)
    (hok : (Machine.receiveSnapshot s snapshot etag force).ok = true)
    (hnoop : (Machine.receiveSnapshot s snapshot etag force).noop = false) :
    Promoting whole (fun r w' => r.ok = true → Idle w'.1) (do
      if !(← saveState (Machine.receiveSnapshot s snapshot etag force).state) then return failure
      else applyAndReport (Machine.receiveSnapshot s snapshot etag force).state) w := by
  obtain ⟨hready, hd, -⟩ := receiveSnapshot_ready hok hnoop
  have hpromotes (f : State) (hf : Stored w.1 f) :
      Promotes f (Machine.receiveSnapshot s snapshot etag force).state := by
    obtain rfl := hf.unique hs
    exact receiveSnapshot_promotes f snapshot etag force
  refine Sat.bind ((promoting_save hpromotes).post fun written w₁ h₁ => ?_)
  cases written with
  | false => exact fun h => absurd (h.symm.trans hfailure) (by simp)
  | true =>
    exact promoting_applyAndReport (by rw [h₁.1]; exact rfl) hready hd

theorem promoting_applyPolicy {s : State} (hs : Stored w.1 s) (hv : s.Valid) :
    Promoting whole (fun r w' => r.ok = true → Idle w'.1) (applyPolicy s) w := by
  unfold applyPolicy
  refine Sat.bind ((promoting_recover hs hv).post fun recovered w₁ hrec => ?_)
  refine Promoting.ite (fun hno => ?_) fun hok => ?_
  · exact fun hok => by simp [hok] at hno
  obtain ⟨t, ht, hstored, -⟩ := hrec (by simpa using hok)
  rw [ht]
  refine Sat.bind ((promoting_reportPending (.of_stored hstored)).post fun reported w₂ hrep => ?_)
  refine Promoting.ite (fun hno => ?_) fun hok => ?_
  · intro hok
    change reported.ok = true at hok
    simp [hok] at hno
  have hstored₂ := hrep.stored hstored (by simpa using hok)
  dsimp only
  split
  · exact nofun
  · rename_i applied _
    refine Promoting.ite (fun _ => nofun) fun haccepted => ?_
    have haccepted : (Machine.receiveSnapshot reported.state applied.snapshot.value
      (.string applied.etag.1) true).ok = true := by simpa using haccepted
    exact promoting_accept hstored₂ rfl haccepted (receiveSnapshot_force _ _ _ haccepted)

/-- The server's answer is that nothing is new: 304, or the etag of the applied snapshot. -/
def Unchanged (s : State) (reply : AdapterReply) : Prop :=
  ∃ response, adapterResponse reply = .success response ∧
    ((response.get "status").looseEq (.int 304) = true ∨
      ∃ a ∈ s.applied, response.get "etag" = .string a.etag.1)

def Fetched (whole : List RouterEvent) (s : State) (r : Result) (w' : Traced) : Prop :=
  r.ok = true → ∃ tag reply, (⟨.fetch tag, reply⟩ : RouterEvent) ∈ whole ∧
    (Unchanged s reply ∧ Stored w'.1 s ∨ ¬Unchanged s reply ∧ Idle w'.1)

theorem promoting_fetchAndApply {s : State} (hs : Stored w.1 s) (config : Config)
    (restored : Result) :
    Promoting whole (Fetched whole s) (fetchAndApply config restored s) w := by
  unfold fetchAndApply
  refine Sat.bind ((promoting_checkConfiguration config).post fun failure w₁ h₁ => ?_)
  cases failure with
  | some failure => exact nofun
  | none =>
    refine Sat.bind ((promoting_ask (by simp)).post fun reply w₂ h₂ => ?_)
    obtain ⟨hj₂, -, hevent⟩ := h₂
    cases hresponse : adapterResponse reply with
    | failure failure => exact nofun
    | success response =>
      have hs₂ : Stored w₂.1 s := by rwa [hj₂, h₁]
      have hsame (h : Unchanged s reply) (r : Result) (w' : Traced) (hj : w'.1 = w₂.1) :
          Fetched whole s r w' := fun _ => ⟨_, reply, hevent, .inl ⟨h, hj ▸ hs₂⟩⟩
      dsimp only
      refine Promoting.ite (fun h304 => ?_) fun hno304 => ?_
      · exact hsame ⟨response, hresponse, .inl h304⟩ _ _ rfl
      refine Promoting.ite (fun _ => nofun) fun _ => ?_
      refine Sat.bind ((promoting_consumeSnapshot config response).post fun body w₃ h₃ => ?_)
      have hs₃ : Stored w₃.1 s := by rwa [h₃]
      cases body with
      | inl failure => exact nofun
      | inr body =>
        refine Promoting.ite (fun _ => nofun) fun _ => Promoting.ite (fun hrejected => ?_) fun hok => ?_
        · have hno : (Machine.receiveSnapshot s body (response.get "etag") false).ok = false := by
            simpa using hrejected
          have hpost (w' : Traced) : Fetched whole s
              (ofTransition (Machine.receiveSnapshot s body (response.get "etag") false)) w' :=
            fun hok => absurd (hok.symm.trans hno) (by simp)
          refine Promoting.ite (fun _ => ?_) fun _ => hpost w₃
          have hpromotes (f : State) (hf : Stored w₃.1 f) :
              Promotes f (Machine.receiveSnapshot s body (response.get "etag") false).state := by
            obtain rfl := hf.unique hs₃
            exact receiveSnapshot_promotes f body (response.get "etag") false
          exact Sat.bind ((promoting_save hpromotes).post fun _ w' _ => hpost w')
        · have hok : (Machine.receiveSnapshot s body (response.get "etag") false).ok = true := by
            simpa using hok
          refine Promoting.ite (fun hnoop => ?_) fun hnew => ?_
          · exact hsame ⟨response, hresponse, .inr (receiveSnapshot_noop hnoop)⟩ _ _ h₃
          · have hnew : (Machine.receiveSnapshot s body (response.get "etag") false).noop = false := by
              simpa using hnew
            refine (promoting_accept hs₃ rfl hok hnew).post fun r w' hidle hr => ?_
            refine ⟨_, reply, hevent, .inr ⟨?_, hidle hr⟩⟩
            rintro ⟨response', hresponse', h304 | hetag⟩
            · obtain rfl := Response.success.inj (hresponse.symm.trans hresponse')
              exact hno304 h304
            · obtain rfl := Response.success.inj (hresponse.symm.trans hresponse')
              exact (receiveSnapshot_ready hok hnew).2.2 rfl hetag

/-- A refresh fetches from the journal that a recovery and the pending report leave. -/
def Refreshed (whole : List RouterEvent) (s : State) (r : Result) (w' : Traced) : Prop :=
  r.ok = true → ∃ t, Fetched whole t r w' ∧
    (t.phase = .idle ∧ t.desired = none ∧ Machine.recoverRequired s = true ∨
      t.applied = s.applied ∧ t.phase = s.phase ∧ t.desired = s.desired ∧
        Machine.recoverRequired s = false)

theorem promoting_refresh {s : State} (hs : Stored w.1 s) (hv : s.Valid) (config : Config) :
    Promoting whole (Refreshed whole s) (refresh config s) w := by
  unfold refresh
  refine Sat.bind ((promoting_recover hs hv).post fun recovered w₁ hrec => ?_)
  refine Promoting.ite (fun hno hok => by simp [hok] at hno) fun hok => ?_
  obtain ⟨t, ht, hstored, hleft⟩ := hrec (by simpa using hok)
  rw [ht]
  refine Sat.bind ((promoting_restoreRuntime _).post fun restored w₂ h₂ => ?_)
  have hstored₂ : Stored w₂.1 t := by rwa [h₂]
  refine Sat.bind ((promoting_reportPending (.of_stored hstored₂)).post fun reported w₃ hrep => ?_)
  refine Promoting.ite (fun hno => ?_) fun hok => ?_
  · intro hok
    change reported.ok = true at hok
    simp [hok] at hno
  have hstored₃ := hrep.stored hstored₂ (by simpa using hok)
  refine (promoting_fetchAndApply hstored₃ config restored).post fun r w' hfetched hr =>
    ⟨reported.state, hfetched, ?_⟩
  rcases hleft with ⟨hidle, hnone, hrequired⟩ | ⟨rfl, hno⟩
  · exact .inl ⟨hrep.phase.trans hidle, hrep.same.desired.trans hnone, hrequired⟩
  · exact .inr ⟨hrep.same.applied, hrep.phase, hrep.same.desired, hno⟩

theorem promoting_stop : Promoting whole (fun _ w' => w'.1 = w.1) stop w := by
  refine Sat.bind ((promoting_runtime .failClosed).post fun response _ h => ?_)
  cases response <;> exact h.1

theorem promoting_healthTick {s : State} (hs : Stored w.1 s) :
    Promoting whole (fun _ _ => True) (healthTick s) w := by
  unfold healthTick
  refine Promoting.ite (fun _ => trivial) fun _ => ?_
  refine Sat.bind ((promoting_runtime .healthTick).post fun response w₁ h₁ => ?_)
  cases response with
  | failure failure => exact trivial
  | success value =>
    dsimp only
    refine Promoting.ite (fun _ => trivial) fun _ => ?_
    have hslots : SameSlots s
        { s with activeProfile := safeActiveProfile (value.get "active_profile") } :=
      ⟨rfl, rfl, rfl, Nat.le_refl _⟩
    have hbacked : Backed s w₁.1 := .of_stored (h₁.1 ▸ hs)
    refine Sat.bind ((promoting_save (hbacked.promotes hslots)).post fun written _ _ => ?_)
    exact Promoting.ite (fun _ => trivial) fun _ => trivial

theorem promoting_dispatch {s : State} (hs : Stored w.1 s) (hv : s.Valid) (config : Config)
    (command : Command) :
    Promoting whole (fun r w' => command = .refresh → Refreshed whole s r w')
      (dispatch config command s) w := by
  cases command with
  | recover => exact (promoting_recover hs hv).post fun _ _ _ h => by cases h
  | applyPolicy => exact (promoting_applyPolicy hs hv).post fun _ _ _ h => by cases h
  | stop => exact promoting_stop.post fun _ _ _ h => by cases h
  | refresh => exact (promoting_refresh hs hv config).post fun _ _ h _ => h
  | healthTick => exact (promoting_healthTick hs).post fun _ _ _ h => by cases h

theorem promoting_main {f : State} (hf : Stored w.1 f) (config : Config) (command : Command) :
    Promoting whole (fun r w' => command = .refresh → f.Valid ∧ Refreshed whole f r w' ∨
      r.ok = false) (main config command) w := by
  unfold Controller.main
  refine Sat.bind ((promoting_ask (by simp)).post fun blocked w₁ h₁ => ?_)
  have hf₁ : Stored w₁.1 f := by rwa [h₁.1]
  refine Promoting.ite (fun _ => ?_) fun _ => ?_
  · refine Promoting.ite (fun hstop => ?_) fun _ _ => .inr rfl
    exact promoting_stop.post fun _ _ _ h => by rw [hstop] at h; cases h
  refine ⟨nofun, fun found w₂ hs => ?_⟩
  obtain ⟨⟨hj, hfound⟩, -, -⟩ := hs
  have hf₂ : Stored w₂.1 f := by rwa [hj]
  change Sat _ _ _ (runCommand config command found) w₂
  unfold runCommand
  cases hload : loadState found with
  | none =>
    exact Sat.bind ((promoting_runtime .failClosed).post fun _ _ _ => fun _ => .inr rfl)
  | some s =>
    rcases hfound with rfl | rfl
    · cases hload
    obtain rfl := hf₁.loaded hload
    have hv := hf₁.valid hload
    exact (promoting_dispatch hf₂ hv config command).post fun r w' h hr => .inl ⟨hv, h hr⟩

end Controller

open Controller

theorem lineage_command {config : Config} {command : Command} {j j' : Option Value}
    {tr : List RouterEvent} {o : Option Result} {f : State} (hf : Stored j f)
    (he : Exec RouterStep (Controller.main config command) j tr j' o) :
    ∃ ss g, durable tr = ss.map State.encode ∧ Lineage f ss g ∧ Stored j' g :=
  lineage_of_exec (promoting_main (w := (j, [])) hf config command) (he.along []) hf

def history (log : List Session) : List Value := log.flatMap fun x => durable x.trace

theorem lineage_of_runs {j j' : Option Value} {log : List Session} (hrun : Runs j log j')
    {f : State} (hf : Stored j f) :
    ∃ ss g, history log = ss.map State.encode ∧ Lineage f ss g ∧ Stored j' g := by
  induction hrun generalizing f with
  | nil j => exact ⟨[], f, rfl, .nil f, hf⟩
  | cons he _ ih =>
    obtain ⟨ss, g, hss, hline, hg⟩ := lineage_command hf he
    obtain ⟨ss', g', hss', hline', hg'⟩ := ih hg
    refine ⟨ss ++ ss', g', ?_, hline.append hline', hg'⟩
    rw [history, List.flatMap_cons, hss, List.map_append, ← hss', history]

/-- Over every run of commands the journals are ordered, and the applied revision does not go
down from one journal to a later one. -/
theorem revisions_and_attempts_ordered {log : List Session} {j : Option Value}
    (hrun : Runs none log j) :
    ∃ ss : List State, history log = ss.map State.encode ∧
      Stored j (ss.getLast?.getD Machine.initialState) ∧
      (∀ s ∈ ss, Ordered s) ∧ ss.Pairwise NotOlder := by
  obtain ⟨ss, g, hss, hline, hg⟩ := lineage_of_runs hrun (f := Machine.initialState) rfl
  exact ⟨ss, hss, hline.last ▸ hg, fun s hs => (hline.ordered ordered_initial s hs).1,
    hline.notOlder ordered_initial⟩

namespace Sample

/-- The phases of an apply of the snapshot that `s` has prepared. -/
def activatingFrom (s : State) : State :=
  (Machine.activating (Machine.prepared (Machine.beginApply s).state).state).state

def verifyingFrom (s : State) : State := (Machine.activated (activatingFrom s)).state

def committed : State :=
  (Machine.verified (verifyingFrom ready) none Machine.emptyCapabilities.encode).state

def committedReported : State :=
  (Machine.reportAccepted committed (Machine.reportKey entry)).state

def appliedRefresh : Session where
  config := config
  command := .refresh
  journal := none
  trace :=
    [⟨.maintenanceBlocked, false⟩, ⟨.readJournal, .contents none⟩, ⟨.runtime .restore, done⟩,
      ⟨.credentialReadable, true⟩, ⟨.protectCredential, true⟩, ⟨.fetch "", fetched⟩,
      ⟨.readResponse "/etc/autovpn/state/http-response.1", .contents snapshotValue⟩,
      ⟨.writeJournal ready.encode, true⟩, ⟨.writeJournal preparing.encode, true⟩,
      ⟨.runtime .prepare, done⟩,
      ⟨.writeJournal (Machine.prepared preparing).state.encode, true⟩,
      ⟨.writeJournal (activatingFrom ready).encode, true⟩, ⟨.runtime .activate, done⟩,
      ⟨.writeJournal (verifyingFrom ready).encode, true⟩, ⟨.runtime .verify, done⟩,
      ⟨.runtime .capabilities, .notStarted⟩, ⟨.writeJournal committed.encode, true⟩,
      ⟨.putResult (Machine.reportKey entry) etag.1, done⟩,
      ⟨.writeJournal committedReported.encode, true⟩]

theorem exec_appliedRefresh : Exec RouterStep (Controller.main config .refresh) none
    appliedRefresh.trace (some committedReported.encode) none := by
  refine exec_main (s := Machine.initialState) rfl ?_
  iterate 5 refine .call (u := none) rfl ?_
  refine .call (u := some ready.encode) rfl ?_
  iterate 2 refine .call (u := some preparing.encode) rfl ?_
  refine .call (u := some (Machine.prepared preparing).state.encode) rfl ?_
  iterate 2 refine .call (u := some (activatingFrom ready).encode) rfl ?_
  iterate 3 refine .call (u := some (verifyingFrom ready).encode) rfl ?_
  iterate 2 refine .call (u := some committed.encode) rfl ?_
  refine .call (u := some committedReported.encode) rfl ?_
  exact .stop _ _

end Sample

/-- The journals of a refresh that applies its snapshot. -/
theorem appliedRefresh_ordered :
    ∃ ss : List State, history [Sample.appliedRefresh] = ss.map State.encode ∧
      Stored (some Sample.committedReported.encode) (ss.getLast?.getD Machine.initialState) ∧
      (∀ s ∈ ss, Ordered s) ∧ ss.Pairwise NotOlder :=
  revisions_and_attempts_ordered (.cons Sample.exec_appliedRefresh (.nil _))

end AutoVPN
