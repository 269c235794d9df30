import AutoVPN.Router.Idempotency

/-! A refresh in which nothing local fails: the calls it makes up to the fetch
are those that the report needs. -/

namespace AutoVPN

open Program Controller

def RouterEvent.isFetch : RouterEvent → Bool
  | ⟨.fetch _, _⟩ => true
  | _ => false

def RouterEvent.isPut : RouterEvent → Bool
  | ⟨.putResult _ _, _⟩ => true
  | _ => false

theorem RouterEvent.not_fetch_of_isPut {e : RouterEvent} (h : e.isPut = true) :
    e.isFetch = false := by
  obtain ⟨c, answer⟩ := e
  cases c with
  | fetch etag => simp [isPut] at h
  | _ => rfl

/-- The answers of a router that is not locked, whose journal can be read and
written, whose credential is in place and whose rollbacks succeed. -/
def Granted : RouterEvent → Prop
  | ⟨.maintenanceBlocked, blocked⟩ => blocked = false
  | ⟨.readJournal, found⟩ => ∃ journal, found = .contents journal
  | ⟨.writeJournal _, written⟩ => written = true
  | ⟨.credentialReadable, readable⟩ => readable = true
  | ⟨.protectCredential, guarded⟩ => guarded = true
  | ⟨.runtime .rollback, reply⟩ => ∃ value, adapterResponse reply = .success value
  | _ => True

/-- The settings that `checkConfiguration` asks for. -/
structure Config.Complete (config : Config) : Prop where
  baseUrl : config.baseUrl ≠ ""
  routerId : config.routerId ≠ ""
  https : httpsUrl config.baseUrl = true
  identity : routerIdPattern.matches config.routerId = true

def GrantedStep (c : RouterCall) (w : Progress) (answer : c.Answer) (w' : Progress) : Prop :=
  RouterStep c w.1 answer w'.1 ∧ w'.2 = w.2 ++ [⟨c, answer⟩] ∧ Granted ⟨c, answer⟩

/-- Neither a fetch nor a report that was refused. -/
def Passes : RouterEvent → Prop
  | ⟨.fetch _, _⟩ => False
  | ⟨.putResult _ _, reply⟩ => ∃ value, adapterResponse reply = .success value
  | _ => True

/-- The program passes, and returns what meets `Q`. -/
abbrev Clears {α : Type} (Q : α → Prop) (p : Router α) : Prop :=
  ∀ w : Progress, (∀ e ∈ w.2, Passes e) →
    Sat GrantedStep (fun _ _ => True) (fun a w' => (∀ e ∈ w'.2, Passes e) ∧ Q a) p w

variable {α : Type} {Q : α → Prop}

theorem Clears.pure {a : α} (h : Q a) : Clears Q (.done a) := fun _ hw => ⟨hw, h⟩

theorem Clears.bind {β : Type} {p : Router α} {f : α → Router β} {R : β → Prop}
    (h : Clears Q p) (hf : ∀ a, Q a → Clears R (f a)) : Clears R (p >>= f) := fun w hw =>
  Sat.bind ((h w hw).post fun a w' ha => hf a ha.2 w' ha.1)

theorem Clears.ite {b : Prop} [Decidable b] {p q : Router α} (hp : b → Clears Q p)
    (hq : ¬b → Clears Q q) : Clears Q (if b then p else q) := by
  split
  · exact hp ‹_›
  · exact hq ‹_›

theorem clears_ask {c : RouterCall} (hc : ∀ answer, Passes ⟨c, answer⟩) :
    Clears (fun answer => Granted ⟨c, answer⟩) (ask c) := by
  refine fun w hw => ⟨trivial, fun answer w' hstep => ?_⟩
  obtain ⟨_, hpast, hgranted⟩ := hstep
  refine ⟨fun e he => ?_, hgranted⟩
  rw [hpast, List.mem_append, List.mem_singleton] at he
  rcases he with he | rfl
  · exact hw e he
  · exact hc answer

theorem clears_runtime (action : Action) :
    Clears (fun response => action = .rollback → ∃ value, response = .success value)
      (runtimeAction action) := by
  refine (clears_ask (c := .runtime action) fun _ => trivial).bind fun reply hgranted =>
    Clears.pure ?_
  rintro rfl
  exact hgranted

theorem clears_save (s : State) : Clears (· = true) (saveState s) := clears_ask fun _ => trivial

theorem clears_persist (t : Transition) : Clears (· = t) (persist t) := by
  refine Clears.ite (fun _ => Clears.pure rfl) fun _ => ?_
  refine (clears_save t.state).bind fun written hwritten => ?_
  rw [if_pos hwritten]
  exact Clears.pure rfl

theorem clears_capabilitiesOf (value : Value) : Clears (fun _ => True) (capabilitiesOf value) := by
  refine Clears.ite (fun _ => Clears.pure trivial) fun _ => ?_
  refine (clears_runtime .capabilities).bind fun response _ => ?_
  cases response <;> exact Clears.pure trivial

theorem Machine.rolledBack_ok {s : State} (hphase : s.phase = .rollingBack)
    (hdesired : s.desired.isSome = true) (capabilities : Value) :
    (Machine.rolledBack s true capabilities).ok = true := by
  obtain ⟨entry, hentry⟩ := Option.isSome_iff_exists.mp hdesired
  unfold Machine.rolledBack
  rw [hphase, hentry]

theorem clears_recover {s : State}
    (h : Machine.recoverRequired s = true → s.desired.isSome = true) :
    Clears (fun result => result.ok = true) (recover s) := by
  unfold recover
  refine Clears.ite (fun _ => Clears.pure rfl) fun hrequired => ?_
  have hdesired := h (by simpa using hrequired)
  have hfailed : Machine.applyFailed s (some interruptedApply) = Machine.done (Machine.bump
      { s with phase := .rollingBack, lastError := some interruptedApply }) := if_pos hdesired
  unfold rollbackDesired
  refine Clears.ite (fun hrefused => ?_) fun _ => ?_
  · simp [hfailed] at hrefused
  refine (clears_persist _).bind fun _ _ => ?_
  refine (clears_runtime .rollback).bind fun response hresponse => ?_
  obtain ⟨value, rfl⟩ := hresponse rfl
  refine (clears_capabilitiesOf value).bind fun capabilities _ => ?_
  refine (clears_persist _).bind fun stored hstored => ?_
  obtain ⟨hphase, hentry, _⟩ :=
    withProfile_fields (Machine.applyFailed s (some interruptedApply)).state value
  have hok := Machine.rolledBack_ok (hphase.trans (by rw [hfailed]; rfl))
    (hentry ▸ by rw [hfailed]; exact hdesired) capabilities
  rw [hstored, hok]
  exact Clears.pure rfl

theorem clears_restoreRuntime (s : State) : Clears (fun _ => True) (restoreRuntime s) := by
  refine (clears_runtime .restore).bind fun response _ => ?_
  cases response with
  | failure failure => exact (clears_runtime .failClosed).bind fun _ _ => Clears.pure trivial
  | success value =>
    exact Clears.ite (fun _ => Clears.pure trivial) fun _ => Clears.pure trivial

theorem clears_checkConfiguration {config : Config} (h : config.Complete) :
    Clears (· = none) (checkConfiguration config) := by
  unfold checkConfiguration
  rw [if_neg (by simp [h.baseUrl, h.routerId])]
  refine (clears_ask (c := .credentialReadable) fun _ => trivial).bind fun readable hreadable => ?_
  rw [show readable = true from hreadable, if_neg (by simp)]
  refine (clears_ask (c := .protectCredential) fun _ => trivial).bind fun guarded hguarded => ?_
  rw [show guarded = true from hguarded, if_neg (by simp), h.https, if_neg (by simp), h.identity,
    if_neg (by simp)]
  exact Clears.pure rfl

/-- A fetch was made, and everything before it passed. -/
def Fetched (past : List RouterEvent) : Prop :=
  ∃ pre e post, past = pre ++ e :: post ∧ e.isFetch = true ∧ ∀ x ∈ pre, Passes x

/-- The last call was a report that was refused, and everything before it passed. -/
def Stopped (past : List RouterEvent) : Prop :=
  ∃ pre e, past = pre ++ [e] ∧ e.isPut = true ∧ ¬Passes e ∧ ∀ x ∈ pre, Passes x

theorem sat_fetched (p : Router α) {w : Progress} (h : Fetched w.2) :
    Sat GrantedStep (fun _ _ => True) (fun _ w' => Fetched w'.2) p w := by
  induction p generalizing w with
  | done a => exact h
  | call c next ih =>
    refine ⟨trivial, fun answer w' hstep => ih answer ?_⟩
    obtain ⟨pre, e, post, hpast, he, hpre⟩ := h
    refine ⟨pre, e, post ++ [⟨c, answer⟩], ?_, he, hpre⟩
    rw [hstep.2.1, hpast, List.append_assoc, List.cons_append]

theorem sat_fetchAndApply {config : Config} (hconfig : config.Complete) (restored : Result)
    (s : State) {w : Progress} (hw : ∀ e ∈ w.2, Passes e) :
    Sat GrantedStep (fun _ _ => True) (fun _ w' => Fetched w'.2)
      (fetchAndApply config restored s) w := by
  refine Sat.bind ((clears_checkConfiguration hconfig w hw).post fun failure w₁ hchecked => ?_)
  obtain ⟨hw₁, rfl⟩ := hchecked
  refine ⟨trivial, fun reply w₂ hstep => sat_fetched _ ?_⟩
  exact ⟨w₁.2, _, [], hstep.2.1, rfl, hw₁⟩

theorem sat_reportPending (s : State) {β : Type} (f : Transition → Router β) {w : Progress}
    (hw : ∀ e ∈ w.2, Passes e)
    (hrefused : ∀ t w', t.ok = false → Stopped w'.2 → Sat GrantedStep (fun _ _ => True)
      (fun _ u => Fetched u.2 ∨ Stopped u.2) (f t) w')
    (haccepted : ∀ t w', t.ok = true → (∀ e ∈ w'.2, Passes e) → Sat GrantedStep (fun _ _ => True)
      (fun _ u => Fetched u.2 ∨ Stopped u.2) (f t) w') :
    Sat GrantedStep (fun _ _ => True) (fun _ u => Fetched u.2 ∨ Stopped u.2)
      (reportPending s >>= f) w := by
  unfold reportPending
  cases hp : s.pendingReport with
  | none => exact haccepted _ w rfl hw
  | some report =>
    refine ⟨trivial, fun reply w₁ hstep => ?_⟩
    obtain ⟨_, hpast, _⟩ := hstep
    dsimp only [Program.bind]
    cases hreply : adapterResponse reply with
    | failure code =>
      refine hrefused _ w₁ rfl ⟨w.2, _, hpast, rfl, ?_, hw⟩
      rintro ⟨value, hvalue⟩
      simp [hreply] at hvalue
    | success value =>
      have hw₁ : ∀ e ∈ w₁.2, Passes e := by
        intro e he
        rw [hpast, List.mem_append, List.mem_singleton] at he
        rcases he with he | rfl
        · exact hw e he
        · exact ⟨value, hreply⟩
      refine Sat.bind ((clears_persist _ w₁ hw₁).post fun t w₂ ht => ?_)
      refine haccepted t w₂ ?_ ht.1
      rw [ht.2, Machine.reportAccepted, hp]
      simp

theorem sat_refresh {config : Config} (hconfig : config.Complete) {s : State}
    (h : Machine.recoverRequired s = true → s.desired.isSome = true) {w : Progress}
    (hw : ∀ e ∈ w.2, Passes e) :
    Sat GrantedStep (fun _ _ => True) (fun _ w' => Fetched w'.2 ∨ Stopped w'.2)
      (refresh config s) w := by
  unfold refresh
  refine Sat.bind ((clears_recover h w hw).post fun recovered w₁ hrecovered => ?_)
  obtain ⟨hw₁, hok⟩ := hrecovered
  rw [if_neg (by simp [hok])]
  refine Sat.bind ((clears_restoreRuntime _ w₁ hw₁).post fun restored w₂ hrestored => ?_)
  refine sat_reportPending _ _ hrestored.1 (fun t w₃ ht hstopped => ?_) fun t w₃ ht hw₃ => ?_
  · rw [if_pos (by simp [ht])]
    exact .inr hstopped
  · rw [if_neg (by simp [ht])]
    exact (sat_fetchAndApply hconfig restored t.state hw₃).post fun _ _ hfetched => .inl hfetched

theorem State.Valid.of_loadState {j : Option Value} {s : State}
    (h : loadState (.contents j) = some s) : s.Valid := by
  cases j with
  | none => exact Option.some.inj h ▸ Machine.initialState_valid
  | some v =>
    have hvalid : Journal.validState v = true := by
      by_contra hinvalid
      simp [loadState, Journal.load, hinvalid] at h
    obtain ⟨t, ht, htvalid⟩ := Journal.load_valid hvalid Machine.initialState
    exact Option.some.inj (ht.symm.trans h) ▸ htvalid

theorem sat_main_refresh {config : Config} (hconfig : config.Complete) {j : Option Value}
    (hload : (loadState (.contents j)).isSome = true) :
    Sat GrantedStep (fun _ _ => True) (fun _ w' => Fetched w'.2 ∨ Stopped w'.2)
      (Controller.main config .refresh) (j, []) := by
  obtain ⟨s, hs⟩ := Option.isSome_iff_exists.mp hload
  have hvalid := State.Valid.of_loadState hs
  unfold Controller.main
  refine ⟨trivial, fun blocked w₁ hstep => ?_⟩
  obtain ⟨hj, hpast, hgranted⟩ := hstep
  have hw₁ : ∀ e ∈ w₁.2, Passes e := by simp [hpast, Passes]
  dsimp only [Program.bind]
  rw [show blocked = false from hgranted, if_neg (by simp)]
  refine ⟨trivial, fun found w₂ hstep => ?_⟩
  obtain ⟨hread, hpast₂, hgranted⟩ := hstep
  have hw₂ : ∀ e ∈ w₂.2, Passes e := by
    intro e he
    rw [hpast₂, List.mem_append, List.mem_singleton] at he
    rcases he with he | rfl
    · exact hw₁ e he
    · exact trivial
  have hfound : found = .contents j := by
    obtain ⟨journal, rfl⟩ := hgranted
    rcases hread.2 with h | h
    · simp at h
    · rw [h, hj]
  dsimp only [Program.bind]
  rw [runCommand, hfound, hs]
  refine sat_refresh hconfig (fun hrequired => ?_) hw₂
  rw [Option.isSome_iff_ne_none]
  intro hnone
  simp [Machine.recoverRequired, hvalid.idle_iff.mpr hnone] at hrequired

end AutoVPN
