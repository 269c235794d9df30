import AutoVPN.Router.RuntimeLane

/-! The guard of a lane: an action that succeeds leaves it open only behind a tunnel that has been
probed since its last start, and one that a lock stops leaves it closed. -/

namespace AutoVPN

open Program

/-- The guard and the locks, whether the action has started or stopped the tunnel, and whether a
probe through the tunnel has succeeded since. -/
structure LaneWorld where
  guardOpen : Bool
  restarted : Bool
  probed : Bool
  locked : String → Bool

/-- What the commands do to the guard and the tunnel, whether they succeed or not. -/
def LaneStep : (i : LaneCall) → LaneWorld → i.Answer → LaneWorld → Prop
  | .lock name, w, r, w' => r = w.locked name ∧ w' = w
  | .loadGuard isOpen, w, r, w' =>
    (r = true ∧ w' = { w with guardOpen := isOpen }) ∨ (r = false ∧ w' = w)
  | .serviceStart, w, _, w' => w' = { w with restarted := true, probed := false }
  | .serviceStop, w, _, w' => w' = { w with restarted := true, probed := false }
  | .awgUp, w, _, w' => w' = { w with restarted := true, probed := false }
  | .awgDown, w, _, w' => w' = { w with restarted := true, probed := false }
  | .curl, w, r, w' => w' = { w with probed := w.probed || r }
  | .probeHelper _ _, w, r, w' =>
    w' = { w with probed := w.probed || (r.map (·.healthy)).getD false }
  | _, w, _, w' => w' = w

namespace RuntimeLane

section

variable {α β : Type}

/-- What a program returns, whatever the commands answer. -/
abbrev Ends (Q : α → LaneWorld → Prop) (p : Lane α) (w : LaneWorld) : Prop :=
  Sat LaneStep (fun _ _ => True) Q p w

theorem ends_bind {p : Lane α} {f : α → Lane β} {Q : α → LaneWorld → Prop}
    {R : β → LaneWorld → Prop} {w : LaneWorld} (h : Ends Q p w)
    (hf : ∀ a w, Q a w → Ends R (f a) w) : Ends R (p >>= f) w :=
  Sat.bind (h.post fun a w hq => hf a w hq)

theorem ends_ask {c : LaneCall} {Q : c.Answer → LaneWorld → Prop} {w : LaneWorld}
    (h : ∀ r w', LaneStep c w r w' → Q r w') : Ends Q (ask c) w :=
  ⟨trivial, h⟩

/-- A program that leaves the guard and the tunnel alone. -/
def Quiet (p : Lane α) : Prop := ∀ w, Ends (fun _ w' => w' = w) p w

theorem quiet_bind {p : Lane α} {f : α → Lane β} (h : Quiet p) (hf : ∀ a, Quiet (f a)) :
    Quiet (p >>= f) := by
  intro w
  refine ends_bind (h w) fun a w' he => ?_
  subst he
  exact hf a w'

theorem quiet_done (a : α) : Quiet (Program.done a : Lane α) := fun _ => rfl

theorem quiet_ask {c : LaneCall} (h : ∀ w r w', LaneStep c w r w' → w' = w) : Quiet (ask c) :=
  fun w => ⟨trivial, h w⟩

theorem Quiet.then {p : Lane α} {f : α → Lane β} {R : β → LaneWorld → Prop} {w : LaneWorld}
    (h : Quiet p) (hf : ∀ a, Ends R (f a) w) : Ends R (p >>= f) w := by
  refine ends_bind (h w) fun a w' he => ?_
  subst he
  exact hf a

/-- `P` is kept whatever the program returns. -/
def Stays (P : LaneWorld → Prop) (p : Lane α) : Prop := ∀ w, P w → Ends (fun _ w' => P w') p w

theorem Quiet.stays {P : LaneWorld → Prop} {p : Lane α} (h : Quiet p) : Stays P p :=
  fun w hw => (h w).post fun _ _ he => he ▸ hw

theorem stays_bind {P : LaneWorld → Prop} {p : Lane α} {f : α → Lane β} (h : Stays P p)
    (hf : ∀ a, Stays P (f a)) : Stays P (p >>= f) :=
  fun w hw => ends_bind (h w hw) fun a w' hw' => hf a w' hw'

end

/-! The parts that leave the guard and the tunnel alone. -/

theorem zapret_quiet (action : String) : Quiet (zapret action) := by
  refine quiet_bind (quiet_ask fun _ _ _ h => h) fun owner => ?_
  cases owner with
  | ours => exact quiet_ask fun _ _ _ h => h
  | unknown => exact quiet_done _
  | empty => exact quiet_done _
  | other => exact quiet_done _

theorem check_quiet : Quiet check := by
  refine quiet_bind (quiet_ask fun _ _ _ h => h) fun r => ?_
  cases r with
  | false => exact quiet_done _
  | true => exact zapret_quiet _

theorem awgHealthy_quiet : Quiet awgHealthy := by
  refine quiet_bind (quiet_ask fun _ _ _ h => h) fun r => ?_
  cases r with
  | false => exact quiet_done _
  | true =>
    refine quiet_bind (quiet_ask fun _ _ _ h => h) fun r => ?_
    cases r with
    | false => exact quiet_done _
    | true => exact quiet_ask fun _ _ _ h => h

theorem awgFine_quiet : Quiet awgFine := by
  refine quiet_bind (quiet_ask fun _ _ _ h => h) fun r => ?_
  cases r with
  | false => exact quiet_done _
  | true => exact awgHealthy_quiet

theorem awaitListener_quiet (n : Nat) : Quiet (awaitListener n) := by
  induction n with
  | zero => exact quiet_done _
  | succ n ih =>
    refine quiet_bind (quiet_ask fun _ _ _ h => h) fun r => ?_
    cases r with
    | true => exact quiet_done _
    | false => exact ih

theorem helperFailed_quiet : Quiet helperFailed :=
  quiet_bind (quiet_ask fun _ _ _ h => h) fun _ => quiet_done _

/-! The guard. -/

variable {w : LaneWorld}

theorem guard_ends (isOpen : Bool) (w : LaneWorld) :
    Ends (fun r w' => (r = true ∧ w' = { w with guardOpen := isOpen }) ∨ (r = false ∧ w' = w))
      (guard isOpen) w := by
  have hload : Ends (fun r w' => (r = true ∧ w' = { w with guardOpen := isOpen }) ∨
      (r = false ∧ w' = w)) (loadGuard isOpen) w := by
    refine Quiet.then (quiet_ask fun _ _ _ h => h) fun state => ?_
    cases state with
    | foreign => exact .inr ⟨rfl, rfl⟩
    | absent => exact ends_ask fun r w' h => h
    | owned => exact ends_ask fun r w' h => h
  unfold guard
  cases isOpen with
  | false => exact hload
  | true =>
    refine (zapret_quiet "check").then fun r => ?_
    cases r with
    | false => exact .inr ⟨rfl, rfl⟩
    | true => exact hload

def Shut (w : LaneWorld) : Prop := w.guardOpen = false

theorem awgDown_ends (w : LaneWorld) :
    Ends (fun _ w' => w'.guardOpen = w.guardOpen) awgDown w := by
  refine Quiet.then (quiet_ask fun _ _ _ h => h) fun r => ?_
  cases r with
  | false => rfl
  | true =>
    refine ends_ask fun r w' h => ?_
    obtain rfl := h
    rfl

theorem awgDown_shut : Stays Shut awgDown :=
  fun w hw => (awgDown_ends w).post fun _ _ h => h.trans hw

theorem shut_ask {c : LaneCall} (hc : c ≠ .loadGuard true) : Stays Shut (ask c) := by
  refine fun w hw => ends_ask fun r w' h => ?_
  cases c with
  | loadGuard isOpen =>
    rcases h with ⟨-, rfl⟩ | ⟨-, rfl⟩
    · cases isOpen with
      | false => rfl
      | true => exact absurd rfl hc
    · exact hw
  | lock name => exact h.2 ▸ hw
  | _ =>
    obtain rfl := h
    exact hw

theorem closed_ends (w : LaneWorld) : Ends (fun r w' => r = true → Shut w') closed w := by
  refine ends_bind (guard_ends false w) fun guardOk w' hguard => ?_
  have hshut : guardOk = true → Shut w' := by
    rintro rfl
    rcases hguard with ⟨-, rfl⟩ | ⟨hf, -⟩
    · rfl
    · cases hf
  clear hguard
  refine ends_bind (Q := fun _ w' => guardOk = true → Shut w') (ends_ask ?_) fun r w' hshut => ?_
  · rintro r w' rfl
    exact hshut
  cases r with
  | false => exact nofun
  | true =>
    refine Quiet.then (quiet_ask fun _ _ _ h => h) fun r => ?_
    cases r with
    | false => exact nofun
    | true =>
      refine ends_bind (awgDown_ends w') fun r w'' hg => ?_
      cases r with
      | false => exact nofun
      | true =>
        refine (zapret_quiet "down").then fun r => ?_
        cases r with
        | false => exact nofun
        | true => exact fun ht => hg.trans (hshut ht)

/-! A start. -/

section

variable {α β : Type}

/-- The value of a step that succeeds. -/
def Good (P : α → LaneWorld → Prop) (r : Except String α) (w : LaneWorld) : Prop :=
  ∀ a, r = .ok a → P a w

theorem good_error {P : α → LaneWorld → Prop} {e : String} : Good P (.error e) w := nofun

theorem next_ends {p : Lane (Except String α)} {f : α → Lane (Except String β)}
    {P : α → LaneWorld → Prop} {Q : β → LaneWorld → Prop} (h : Ends (Good P) p w)
    (hf : ∀ a w, P a w → Ends (Good Q) (f a) w) : Ends (Good Q) (next p f) w := by
  refine ends_bind h fun r w' hr => ?_
  cases r with
  | error e => exact good_error
  | ok a => exact hf a w' (hr a rfl)

theorem step_ends {c : Lane Bool} {P : LaneWorld → Prop} {code : String}
    (h : Ends (fun r w => r = true → P w) c w) : Ends (Good fun _ => P) (step c code) w := by
  refine ends_bind h fun r w' hr => ?_
  cases r with
  | false => exact good_error
  | true => exact fun _ _ => hr rfl

theorem step_shut {c : Lane Bool} (h : Stays Shut c) (code : String) (hw : Shut w) :
    Ends (Good fun _ => Shut) (step c code) w :=
  step_ends ((h w hw).post fun _ _ hs _ => hs)

theorem helperStep_shut (action failure : String) (hw : Shut w) :
    Ends (Good fun _ => Shut) (helperStep action failure) w := by
  refine Quiet.then (quiet_ask fun _ _ _ h => h) fun r => ?_
  cases r with
  | true => exact fun _ _ => hw
  | false => exact Quiet.then (quiet_ask fun _ _ _ h => h) fun _ => good_error

end

theorem awgFailed_shut (hw : Shut w) : Ends (Good fun _ => Shut) awgFailed w := by
  refine next_ends (step_shut awgDown_shut _ hw) fun _ w hw => ?_
  refine Quiet.then (quiet_ask fun _ _ _ h => h) fun selected => ?_
  refine next_ends (P := fun _ => Shut) ?_ fun _ w hw => ?_
  · split
    · exact helperStep_shut _ _ hw
    · exact helperStep_shut _ _ hw
  refine next_ends (step_shut check_quiet.stays _ hw) fun _ w hw => ?_
  exact next_ends (step_shut (zapret_quiet "up").stays _ hw) fun _ w hw => fun _ _ => hw

theorem awgStart_shut (hw : Shut w) : Ends (Good fun _ => Shut) awgStart w := by
  refine Quiet.then (quiet_ask fun _ _ _ h => h) fun r => ?_
  cases r with
  | false => exact fun _ _ => hw
  | true =>
    refine ends_bind (shut_ask (by nofun) w hw) fun r w hw => ?_
    cases r with
    | true => exact fun _ _ => hw
    | false => exact awgFailed_shut hw

theorem awgState_shut (hw : Shut w) : Ends (Good fun _ => Shut) awgState w := by
  refine Quiet.then (quiet_ask fun _ _ _ h => h) fun r => ?_
  cases r with
  | false => exact Quiet.then (quiet_ask fun _ _ _ h => h) fun _ => fun _ _ => hw
  | true =>
    refine next_ends (step_shut (shut_ask (by nofun)) _ hw) fun _ w hw => ?_
    exact step_shut (shut_ask (by nofun)) _ hw

theorem serviceUp_shut (hw : Shut w) : Ends (Good fun _ => Shut) serviceUp w := by
  refine next_ends (step_shut (shut_ask (by nofun)) _ hw) fun _ w hw => ?_
  refine next_ends (step_shut (shut_ask (by nofun)) _ hw) fun _ w hw => ?_
  refine next_ends (step_shut (shut_ask (by nofun)) _ hw) fun _ w hw => ?_
  refine next_ends (step_shut (awaitListener_quiet 6).stays _ hw) fun _ w hw => ?_
  refine next_ends (step_shut (shut_ask (by nofun)) _ hw) fun _ w hw => ?_
  refine Quiet.then (quiet_ask fun _ _ _ h => h) fun r => ?_
  cases r with
  | some code => exact good_error
  | none => exact fun _ _ => hw

theorem startTunnel_shut (w : LaneWorld) : Ends (Good fun _ => Shut) startTunnel w := by
  refine next_ends (step_ends (closed_ends w)) fun _ w hw => ?_
  refine next_ends (step_shut (zapret_quiet "up").stays _ hw) fun _ w hw => ?_
  refine next_ends (awgStart_shut hw) fun hard w hw => ?_
  refine next_ends (awgState_shut hw) fun _ w hw => ?_
  exact next_ends (serviceUp_shut hw) fun _ w hw => fun _ _ => hw

theorem confirm_shut (profile : String) : Stays Shut (confirm profile) := by
  refine stays_bind (shut_ask (by nofun)) fun r => ?_
  cases r with
  | none => exact (quiet_done _).stays
  | some answer =>
    dsimp only
    split
    · exact (quiet_done _).stays
    · exact shut_ask (by nofun)

theorem bootstrap_shut (hw : Shut w) : Ends (Good fun _ => Shut) bootstrap w := by
  refine ends_bind (shut_ask (by nofun) w hw) fun r w hw => ?_
  cases r with
  | none => exact good_error
  | some answer =>
    dsimp only
    split
    · exact good_error
    · refine next_ends (step_shut (shut_ask (by nofun)) _ hw) fun _ w hw => ?_
      exact next_ends (step_shut check_quiet.stays _ hw) fun _ w hw => fun _ _ => hw

theorem start_shut (fuel : Nat) (w : LaneWorld) : Ends (Good fun _ => Shut) (start fuel) w := by
  induction fuel generalizing w with
  | zero => exact ⟨trivial, fun r => nomatch r⟩
  | succ n ih =>
    refine next_ends (startTunnel_shut w) fun hard w hw => ?_
    cases hard with
    | false => exact fun _ _ => hw
    | true =>
      refine next_ends (bootstrap_shut hw) fun profile w hw => ?_
      exact next_ends (ih w) fun _ w hw => step_shut (confirm_shut profile) _ hw

/-! Probes and switches. -/

/-- Where the guard is open, it was when the action began and the tunnel still runs, or a probe has
succeeded since the last start. -/
def Covered (w₀ w : LaneWorld) : Prop :=
  w.guardOpen = true → (w₀.guardOpen = true ∧ w.restarted = false) ∨ w.probed = true

def Probed (w : LaneWorld) : Prop := w.probed = true

theorem Shut.covered {w₀ : LaneWorld} (h : Shut w) : Covered w₀ w :=
  fun ho => absurd (h.symm.trans ho) (by decide)

theorem Probed.covered {w₀ : LaneWorld} (h : Probed w) : Covered w₀ w := fun _ => .inr h

theorem guard_probed (hw : Probed w) : Ends (fun _ w' => Probed w') (guard true) w := by
  refine (guard_ends true w).post fun r w' hr => ?_
  rcases hr with ⟨-, rfl⟩ | ⟨-, rfl⟩
  · exact hw
  · exact hw

theorem confirm_ends (profile : String) (w : LaneWorld) :
    Ends (fun r w' => r = true → Probed w') (confirm profile) w := by
  refine ⟨trivial, fun r w' hstep => ?_⟩
  obtain rfl := hstep
  cases r with
  | none => exact nofun
  | some answer =>
    show Ends _ (if !answer.healthy then _ else _) _
    cases hh : answer.healthy with
    | false => exact nofun
    | true =>
      refine ends_ask fun r w' h => ?_
      obtain rfl := h
      exact fun _ => by simp [Probed, hh]

theorem switch_ends (fuel : Nat) (profile : String) (w : LaneWorld) :
    Ends (fun r w' => r = true → Probed w') (switch fuel profile) w := by
  refine Quiet.then (quiet_ask fun _ _ _ h => h) fun r => ?_
  cases r with
  | false => exact nofun
  | true =>
    refine check_quiet.then fun r => ?_
    cases r with
    | false => exact nofun
    | true =>
      refine ends_bind (start_shut fuel w) fun r w hr => ?_
      cases r with
      | error e => exact nofun
      | ok a =>
        refine Quiet.then (quiet_ask fun _ _ _ h => h) fun actual => ?_
        split
        · exact nofun
        · refine ends_bind (confirm_ends _ w) fun r w hr => ?_
          cases r with
          | false => exact nofun
          | true => exact (guard_probed (hr rfl)).post fun _ _ h _ => h

/-- What a monitor that succeeds leaves. -/
def Monitored (w₀ : LaneWorld) (recover r : Bool) (w : LaneWorld) : Prop :=
  r = true → Covered w₀ w ∧ (recover = true → Probed w)

theorem monitorFailed_ends {w₀ : LaneWorld} (fuel : Nat) (recover : Bool) (answer : ProbeAnswer)
    (w : LaneWorld) : Ends (Monitored w₀ recover) (monitorFailed fuel recover answer) w := by
  refine ends_bind (guard_ends false w) fun r w' hr => ?_
  cases r with
  | false => exact nofun
  | true =>
    have hshut : Shut w' := by
      rcases hr with ⟨-, rfl⟩ | ⟨hf, -⟩
      · rfl
      · cases hf
    cases hnext : answer.nextProfile.filter profiles.contains with
    | some profile =>
      exact (switch_ends fuel profile w').post fun r w h hr => ⟨(h hr).covered, fun _ => h hr⟩
    | none =>
      intro hr
      refine ⟨hshut.covered, ?_⟩
      rintro rfl
      cases hr

theorem monitor_ends {w₀ : LaneWorld} (fuel : Nat) (recover : Bool) (hw : Covered w₀ w) :
    Ends (Monitored w₀ recover) (monitor fuel recover) w := by
  refine ⟨trivial, fun r w' hstep => ?_⟩
  obtain rfl := hstep
  cases r with
  | none => exact nofun
  | some answer =>
    show Ends _ (if answer.healthy then _ else _) _
    cases hh : answer.healthy with
    | true =>
      have hprobed : Probed { w with
          probed := w.probed || ((some answer).map (·.healthy)).getD false } := by
        simp [Probed, hh]
      exact (guard_probed hprobed).post fun r w h _ => ⟨h.covered, fun _ => h⟩
    | false =>
      have hcovered : Covered w₀ { w with
          probed := w.probed || ((some answer).map (·.healthy)).getD false } := by
        intro ho
        rcases hw ho with h | h
        · exact .inl h
        · exact .inr (by simp [h])
      cases hf : answer.failed with
      | none => exact nofun
      | some failed =>
        cases failed with
        | true => exact monitorFailed_ends fuel recover answer _
        | false =>
          intro hr
          refine ⟨hcovered, ?_⟩
          rintro rfl
          cases hr

theorem probe_ends (w : LaneWorld) : Ends (fun r w' => (r = true → Probed w') ∧
    ∀ w₀, Covered w₀ w → Covered w₀ w') probe w := by
  refine ends_ask fun r w' h => ?_
  obtain rfl := h
  refine ⟨?_, fun w₀ hw ho => ?_⟩
  · rintro rfl
    simp [Probed]
  · rcases hw ho with h | h
    · exact .inl h
    · exact .inr (by simp [h])

theorem probeTwice_ends (w : LaneWorld) : Ends (fun r w' => (r = true → Probed w') ∧
    ∀ w₀, Covered w₀ w → Covered w₀ w') probeTwice w := by
  refine ends_bind (probe_ends w) fun r w' hr => ?_
  cases r with
  | false => exact ⟨nofun, hr.2⟩
  | true => exact (probe_ends w').post fun r w h => ⟨h.1, fun w₀ hw => h.2 w₀ (hr.2 w₀ hw)⟩

theorem proven_ends {w₀ : LaneWorld} (fuel : Nat) (hw : Covered w₀ w) :
    Ends (fun r w' => r = true → Probed w') (proven fuel) w := by
  refine ends_bind (probeTwice_ends w) fun r w' hr => ?_
  cases r with
  | true => exact fun _ => hr.1 rfl
  | false => exact (monitor_ends fuel true (hr.2 w₀ hw)).post fun r w h ht => (h ht).2 rfl

/-! The actions. -/

/-- A success leaves the guard covered. -/
def Safe (w₀ : LaneWorld) (r : LaneExit) (w : LaneWorld) : Prop := r = .ok → Covered w₀ w

theorem fail_safe {w₀ : LaneWorld} (code : String) : Ends (Safe w₀) (fail code) w := nofun

theorem failClosedWith_safe {w₀ : LaneWorld} (code : String) (w : LaneWorld) :
    Ends (Safe w₀) (failClosedWith code) w :=
  ends_bind (closed_ends w) fun _ _ _ => nofun

theorem helperFailed_safe {w₀ : LaneWorld} (w : LaneWorld) : Ends (Safe w₀) helperFailed w :=
  Quiet.then (quiet_ask fun _ _ _ h => h) fun _ => nofun

theorem shut_safe {w₀ : LaneWorld} (w : LaneWorld) : Ends (Safe w₀) shut w := by
  refine ends_bind (closed_ends w) fun r w' hr => ?_
  cases r with
  | false => exact nofun
  | true => exact fun _ => (hr rfl).covered

theorem quiet_safe {w₀ : LaneWorld} {p : Lane LaneExit} (h : Quiet p) (hw : Covered w₀ w) :
    Ends (Safe w₀) p w :=
  (h w).post fun _ _ he _ => he ▸ hw

theorem status_quiet : Quiet status := by
  refine quiet_bind (quiet_ask fun _ _ _ h => h) fun r => ?_
  cases r with
  | false => exact helperFailed_quiet
  | true =>
    refine quiet_bind (quiet_ask fun _ _ _ h => h) fun r => ?_
    cases r with
    | true => exact quiet_done _
    | false =>
      refine quiet_bind (quiet_ask fun _ _ _ h => h) fun r => ?_
      cases r with
      | false => exact quiet_done _
      | true =>
        refine quiet_bind (quiet_ask fun _ _ _ h => h) fun r => ?_
        cases r with
        | false => exact quiet_done _
        | true =>
          refine quiet_bind (quiet_ask fun _ _ _ h => h) fun r => ?_
          cases r with
          | false => exact quiet_done _
          | true =>
            refine quiet_bind awgFine_quiet fun r => ?_
            cases r with
            | false => exact quiet_done _
            | true =>
              refine quiet_bind (zapret_quiet "check") fun r => ?_
              cases r with
              | false => exact quiet_done _
              | true => exact quiet_done _

theorem prepare_quiet : Quiet prepare := by
  refine quiet_bind (quiet_ask fun _ _ _ h => h) fun r => ?_
  cases r with
  | false => exact helperFailed_quiet
  | true =>
    refine quiet_bind (quiet_ask fun _ _ _ h => h) fun r => ?_
    cases r with
    | true => exact quiet_done _
    | false =>
      refine quiet_bind (quiet_ask fun _ _ _ h => h) fun r => ?_
      cases r with
      | false => exact quiet_done _
      | true =>
        refine quiet_bind check_quiet fun r => ?_
        cases r with
        | false => exact quiet_done _
        | true => exact quiet_done _

theorem activate_safe {w₀ : LaneWorld} (fuel : Nat) (w : LaneWorld) :
    Ends (Safe w₀) (activate fuel) w := by
  refine Quiet.then (quiet_ask fun _ _ _ h => h) fun r => ?_
  cases r with
  | false => exact helperFailed_safe w
  | true =>
    refine Quiet.then (quiet_ask fun _ _ _ h => h) fun r => ?_
    cases r with
    | true => exact shut_safe w
    | false =>
      refine Quiet.then (quiet_ask fun _ _ _ h => h) fun r => ?_
      cases r with
      | false => exact fail_safe _
      | true =>
        refine check_quiet.then fun r => ?_
        cases r with
        | false => exact fail_safe _
        | true =>
          refine ends_bind (start_shut fuel w) fun r w' hr => ?_
          cases r with
          | error code => exact fail_safe _
          | ok a => exact fun _ => (hr a rfl).covered

theorem openGuard_safe {w₀ : LaneWorld} (action : String) (hw : Probed w) :
    Ends (Safe w₀) (openGuard action) w := by
  refine ends_bind (guard_probed hw) fun r w' hw => ?_
  cases r with
  | false => exact fail_safe _
  | true =>
    refine Quiet.then (quiet_ask fun _ _ _ h => h) fun r => ?_
    cases r with
    | false => exact failClosedWith_safe _ _
    | true => exact fun _ => hw.covered

theorem verify_safe {w₀ : LaneWorld} (fuel : Nat) (hw : Covered w₀ w) :
    Ends (Safe w₀) (verify fuel) w := by
  refine Quiet.then (quiet_ask fun _ _ _ h => h) fun r => ?_
  cases r with
  | false => exact helperFailed_safe w
  | true =>
    refine Quiet.then (quiet_ask fun _ _ _ h => h) fun r => ?_
    cases r with
    | true => exact fun _ => hw
    | false =>
      refine (zapret_quiet "check").then fun r => ?_
      cases r with
      | false => exact failClosedWith_safe _ _
      | true =>
        refine ends_bind (proven_ends fuel hw) fun r w' hr => ?_
        cases r with
        | false => exact fail_safe _
        | true => exact openGuard_safe _ (hr rfl)

theorem reusable_quiet : Quiet reusable := by
  refine quiet_bind (quiet_ask fun _ _ _ h => h) fun r => ?_
  cases r with
  | false => exact quiet_done _
  | true =>
    refine quiet_bind awgFine_quiet fun r => ?_
    cases r with
    | false => exact quiet_done _
    | true =>
      refine quiet_bind (zapret_quiet "check") fun r => ?_
      cases r with
      | false => exact quiet_done _
      | true =>
        refine quiet_bind (quiet_ask fun _ _ _ h => h) fun r => ?_
        cases r with
        | false => exact quiet_done _
        | true => exact quiet_ask fun _ _ _ h => h

theorem restart_safe {w₀ : LaneWorld} (fuel : Nat) (w : LaneWorld) :
    Ends (Safe w₀) (restart fuel) w := by
  refine ends_bind (start_shut fuel w) fun r w' hr => ?_
  cases r with
  | error code => exact fail_safe _
  | ok a =>
    have hcovered : Covered w₀ w' := (hr a rfl).covered
    refine ends_bind (proven_ends fuel hcovered) fun r w' hr => ?_
    cases r with
    | false => exact failClosedWith_safe _ _
    | true => exact openGuard_safe _ (hr rfl)

theorem reinstate_safe {w₀ : LaneWorld} (fuel : Nat) (restore : Bool) (hw : Covered w₀ w) :
    Ends (Safe w₀) (reinstate fuel restore) w := by
  refine Quiet.then (quiet_ask fun _ _ _ h => h) fun r => ?_
  cases r with
  | false => exact helperFailed_safe w
  | true =>
    refine Quiet.then (quiet_ask fun _ _ _ h => h) fun r => ?_
    cases r with
    | true => exact shut_safe w
    | false =>
      refine Quiet.then (quiet_ask fun _ _ _ h => h) fun r => ?_
      cases r with
      | false => exact fail_safe _
      | true =>
        refine check_quiet.then fun r => ?_
        cases r with
        | false => exact fail_safe _
        | true =>
          have hreuse : Quiet (if restore then reusable else .done false) := by
            cases restore with
            | false => exact quiet_done _
            | true => exact reusable_quiet
          refine hreuse.then fun reuse => ?_
          cases reuse with
          | false => exact restart_safe fuel w
          | true =>
            refine Quiet.then (quiet_ask fun _ _ _ h => h) fun r => ?_
            cases r with
            | some code => exact fail_safe _
            | none => exact fun _ => hw

theorem tickRound_safe {w₀ : LaneWorld} (fuel : Nat) (hw : Covered w₀ w) :
    Ends (Safe w₀) (tickRound fuel) w := by
  refine Quiet.then (quiet_ask fun _ _ _ h => h) fun r => ?_
  cases r with
  | some code => exact failClosedWith_safe _ _
  | none =>
    refine ends_bind (monitor_ends fuel false hw) fun r w' hr => ?_
    cases r with
    | false => exact failClosedWith_safe _ _
    | true =>
      refine Quiet.then (quiet_ask fun _ _ _ h => h) fun r => ?_
      cases r with
      | false => exact failClosedWith_safe _ _
      | true => exact fun _ => (hr rfl).1

theorem healthy_quiet : Quiet healthy := by
  refine quiet_bind (quiet_ask fun _ _ _ h => h) fun r => ?_
  cases r with
  | false => exact quiet_done _
  | true =>
    refine quiet_bind (quiet_ask fun _ _ _ h => h) fun r => ?_
    cases r with
    | false => exact quiet_done _
    | true =>
      refine quiet_bind (quiet_ask fun _ _ _ h => h) fun r => ?_
      cases r with
      | false => exact quiet_done _
      | true =>
        refine quiet_bind awgFine_quiet fun r => ?_
        cases r with
        | false => exact quiet_done _
        | true => exact zapret_quiet "check"

theorem tickRestart_safe {w₀ : LaneWorld} (fuel : Nat) (w : LaneWorld) :
    Ends (Safe w₀) (tickRestart fuel) w := by
  refine Quiet.then (quiet_ask fun _ _ _ h => h) fun r => ?_
  cases r with
  | false => exact fail_safe _
  | true =>
    refine Quiet.then (quiet_ask fun _ _ _ h => h) fun r => ?_
    cases r with
    | true => exact fail_safe _
    | false =>
      refine check_quiet.then fun r => ?_
      cases r with
      | false => exact failClosedWith_safe _ _
      | true =>
        refine ends_bind (start_shut fuel w) fun r w' hr => ?_
        cases r with
        | error code => exact failClosedWith_safe _ _
        | ok a => exact tickRound_safe fuel (hr a rfl).covered

theorem healthTick_safe {w₀ : LaneWorld} (fuel : Nat) (hw : Covered w₀ w) :
    Ends (Safe w₀) (healthTick fuel) w := by
  refine Quiet.then (quiet_ask fun _ _ _ h => h) fun r => ?_
  cases r with
  | false =>
    refine ends_bind (closed_ends w) fun r w' _ => ?_
    cases r with
    | false => exact fail_safe _
    | true => exact fail_safe _
  | true =>
    refine Quiet.then (quiet_ask fun _ _ _ h => h) fun r => ?_
    cases r with
    | false => exact failClosedWith_safe _ _
    | true =>
      refine Quiet.then (quiet_ask fun _ _ _ h => h) fun r => ?_
      cases r with
      | true => exact fail_safe _
      | false =>
        refine healthy_quiet.then fun r => ?_
        cases r with
        | false => exact tickRestart_safe fuel w
        | true => exact tickRound_safe fuel hw

theorem pingAll_ends (target : String) (w : LaneWorld) :
    Ends (fun _ w' => w'.guardOpen = w.guardOpen ∧ w'.restarted = w.restarted ∧
      (w.probed = true → w'.probed = true)) (pingAll target) w := by
  unfold pingAll
  split
  · exact ⟨rfl, rfl, id⟩
  · refine Quiet.then (quiet_ask fun _ _ _ h => h) fun r => ?_
    cases r with
    | false => exact ⟨rfl, rfl, id⟩
    | true =>
      refine (zapret_quiet "check").then fun r => ?_
      cases r with
      | false => exact ⟨rfl, rfl, id⟩
      | true =>
        refine ⟨trivial, fun r w' h => ?_⟩
        obtain rfl := h
        have hprobed : w.probed = true →
            (w.probed || (r.map (·.healthy)).getD false) = true := fun hp => by simp [hp]
        cases r with
        | none => exact ⟨rfl, rfl, hprobed⟩
        | some answer => exact ⟨rfl, rfl, hprobed⟩

theorem act_safe {w₀ : LaneWorld} (fuel : Nat) (target : String) (action : LaneAction)
    (hw : Covered w₀ w) : Ends (Safe w₀) (act fuel target action) w := by
  cases action with
  | status => exact quiet_safe status_quiet hw
  | capabilities => exact fun _ => hw
  | failClosed => exact shut_safe w
  | prepare => exact quiet_safe prepare_quiet hw
  | activate => exact activate_safe fuel w
  | verify => exact verify_safe fuel hw
  | rollback => exact reinstate_safe fuel false hw
  | restore => exact reinstate_safe fuel true hw
  | healthTick => exact healthTick_safe fuel hw
  | pingAll =>
    refine (pingAll_ends target w).post fun r w' h _ ho => ?_
    rcases hw (h.1.symm.trans ho) with hopen | hprobed
    · exact .inl ⟨hopen.1, h.2.1.trans hopen.2⟩
    · exact .inr (h.2.2 hprobed)
  | unknown => exact fail_safe _

/-! The locks. -/

theorem locked_ends (names : List String) (w : LaneWorld) :
    Ends (fun r w' => r = names.any w.locked ∧ w' = w) (locked names) w := by
  induction names with
  | nil => exact ⟨rfl, rfl⟩
  | cons name rest ih =>
    refine ends_bind (ends_ask fun _ _ h => h) fun r w' h => ?_
    obtain ⟨rfl, rfl⟩ := h
    cases hl : w'.locked name with
    | true => exact ⟨by simp [hl], rfl⟩
    | false =>
      refine ih.post fun r w'' h => ?_
      simpa [hl] using h

/-- What a lock makes of an action: an error, with the guard closed unless the error says so. -/
def Refused (r : LaneExit) (w : LaneWorld) : Prop :=
  ∃ code, r = .error code ∧ (code ∈ ["fail_closed_unconfirmed", "directories_failed"] ∨ Shut w)

theorem refuse_ends {action : LaneAction} (h : action ≠ .pingAll) (w : LaneWorld) :
    Ends Refused (refuse action) w := by
  unfold refuse
  rw [if_neg h]
  refine ends_bind (closed_ends w) fun r w' hr => ?_
  cases r with
  | false => exact ⟨_, rfl, .inl (by decide)⟩
  | true => exact ⟨_, rfl, .inr (hr rfl)⟩

theorem refuse_safe {w₀ : LaneWorld} (action : LaneAction) (w : LaneWorld) :
    Ends (Safe w₀) (refuse action) w := by
  by_cases h : action = .pingAll
  · subst h
    exact fail_safe _
  · refine (refuse_ends h w).post fun r w' hr hok => ?_
    obtain ⟨code, rfl, -⟩ := hr
    cases hok

theorem run_safe {w₀ : LaneWorld} (fuel : Nat) (target : String) (action : LaneAction)
    (hw : Covered w₀ w) : Ends (Safe w₀) (run fuel target action) w := by
  refine Quiet.then (quiet_ask fun _ _ _ h => h) fun r => ?_
  cases r with
  | false => exact fail_safe _
  | true =>
    show Ends _ (if !gated.contains action then act fuel target action else _) _
    split
    · exact act_safe fuel target action hw
    · refine ends_bind (locked_ends locks w) fun r w' h => ?_
      obtain ⟨-, rfl⟩ := h
      cases r with
      | true => exact refuse_safe action w'
      | false => exact act_safe fuel target action hw

theorem run_refused {action : LaneAction} (fuel : Nat) (target : String) (hg : action ∈ gated)
    (hp : action ≠ .pingAll) (hl : ∃ name ∈ locks, w.locked name = true) :
    Ends Refused (run fuel target action) w := by
  have hany : locks.any w.locked = true := List.any_eq_true.mpr hl
  refine Quiet.then (quiet_ask fun _ _ _ h => h) fun r => ?_
  cases r with
  | false => exact ⟨_, rfl, .inl (by decide)⟩
  | true =>
    show Ends _ (if !gated.contains action then _ else _) _
    rw [List.contains_iff_mem.mpr hg]
    refine ends_bind (locked_ends locks w) fun r w' h => ?_
    obtain ⟨rfl, rfl⟩ := h
    rw [hany]
    exact refuse_ends hp w'

/-- The actions that only look. -/
def readOnly : List LaneAction := [.status, .capabilities, .pingAll]

theorem act_readOnly {action : LaneAction} (fuel : Nat) (target : String)
    (hr : action ∈ readOnly) (w : LaneWorld) :
    Ends (fun _ w' => w'.guardOpen = w.guardOpen) (act fuel target action) w := by
  simp only [readOnly, List.mem_cons, List.not_mem_nil, or_false] at hr
  rcases hr with rfl | rfl | rfl
  · exact (status_quiet w).post fun _ _ h => congrArg LaneWorld.guardOpen h
  · rfl
  · exact (pingAll_ends target w).post fun _ _ h => h.1

theorem refuse_readOnly {action : LaneAction} (hg : action ∈ gated) (hr : action ∈ readOnly)
    (w : LaneWorld) : Ends (fun _ w' => w'.guardOpen = w.guardOpen) (refuse action) w := by
  have hp : action = .pingAll := by
    revert hg hr
    cases action <;> decide
  subst hp
  rfl

theorem run_readOnly {action : LaneAction} (fuel : Nat) (target : String)
    (hr : action ∈ readOnly) (w : LaneWorld) :
    Ends (fun _ w' => w'.guardOpen = w.guardOpen) (run fuel target action) w := by
  refine Quiet.then (quiet_ask fun _ _ _ h => h) fun r => ?_
  cases r with
  | false => rfl
  | true =>
    show Ends _ (if !gated.contains action then act fuel target action else _) _
    split
    · exact act_readOnly fuel target hr w
    · rename_i hg
      refine ends_bind (locked_ends locks w) fun r w' h => ?_
      obtain ⟨-, rfl⟩ := h
      cases r with
      | true => exact refuse_readOnly (by simpa using hg) hr w'
      | false => exact act_readOnly fuel target hr w'

theorem run_failClosed (fuel : Nat) (target : String) (w : LaneWorld) :
    Ends (fun r w' => r = .ok → Shut w') (run fuel target .failClosed) w := by
  refine Quiet.then (quiet_ask fun _ _ _ h => h) fun r => ?_
  cases r with
  | false => exact nofun
  | true =>
    refine ends_bind (closed_ends w) fun r w' hr => ?_
    cases r with
    | false => exact nofun
    | true => exact fun _ => hr rfl

/-- An action that succeeds leaves the guard open only if it was open and the tunnel has been left
alone, or behind a tunnel that a probe has gone through since its last start. A lock turns every
action that changes the runtime into an error that leaves the guard closed. -/
theorem runtime_lane_guard_safe (fuel : Nat) (target : String) (action : LaneAction)
    (guardOpen : Bool) (locked : String → Bool)
    (tr : List (Event LaneCall LaneCall.Answer)) (t : LaneWorld) (r : LaneExit)
    (he : Exec LaneStep (run fuel target action) ⟨guardOpen, false, false, locked⟩ tr t (some r)) :
    (r = .ok → t.guardOpen = true →
      (guardOpen = true ∧ t.restarted = false) ∨ t.probed = true) ∧
    ((∃ name ∈ locks, locked name = true) → action ∈ gated → action ≠ .pingAll →
      ∃ code, r = .error code ∧
        (code ∈ ["fail_closed_unconfirmed", "directories_failed"] ∨ t.guardOpen = false)) ∧
    (action = .failClosed → r = .ok → t.guardOpen = false) ∧
    (action ∈ [.status, .capabilities, .pingAll] → t.guardOpen = guardOpen) := by
  refine ⟨?_, ?_, ?_, ?_⟩
  · have hstart : Covered ⟨guardOpen, false, false, locked⟩ ⟨guardOpen, false, false, locked⟩ :=
      fun ho => .inl ⟨ho, rfl⟩
    exact (run_safe fuel target action hstart).result he
  · exact fun hl hg hp => (run_refused fuel target hg hp hl).result he
  · rintro rfl
    exact (run_failClosed fuel target _).result he
  · exact fun hr => (run_readOnly fuel target hr _).result he

theorem runtime_lane_guard_safe_verify :
    ∃ tr t, Exec LaneStep (run 1 "youtube" .verify) ⟨false, false, false, fun _ => false⟩ tr t
      (some .ok) ∧ t.guardOpen = true ∧ t.probed = true := by
  have he : Exec LaneStep (run 1 "youtube" .verify) ⟨false, false, false, fun _ => false⟩
      [⟨.directories, true⟩, ⟨.lock "maintenance.lock", false⟩, ⟨.lock "update.lock", false⟩,
        ⟨.helper "verify" none, true⟩, ⟨.empty, false⟩, ⟨.zapretOwner, .other⟩, ⟨.curl, true⟩,
        ⟨.curl, true⟩, ⟨.zapretOwner, .other⟩, ⟨.listTable, .owned⟩, ⟨.loadGuard true, true⟩,
        ⟨.helper "verify" none, true⟩] ⟨true, false, true, fun _ => false⟩ (some .ok) :=
    .call rfl (.call ⟨rfl, rfl⟩ (.call ⟨rfl, rfl⟩ (.call rfl (.call rfl (.call rfl (.call rfl
      (.call rfl (.call rfl (.call rfl (.call (.inl ⟨rfl, rfl⟩) (.call rfl (.done _ _))))))))))))
  have hprobed := (runtime_lane_guard_safe _ _ _ _ _ _ _ _ he).1 rfl rfl
  exact ⟨_, _, he, rfl, hprobed.resolve_left nofun⟩

/-- A look at the targets under the maintenance lock leaves an open guard open. -/
theorem locked_ping_leaves_guard :
    ¬ ∀ (fuel : Nat) (target : String) (action : LaneAction) (guardOpen : Bool)
      (locked : String → Bool) (tr : List (Event LaneCall LaneCall.Answer)) (t : LaneWorld)
      (r : LaneExit),
      Exec LaneStep (run fuel target action) ⟨guardOpen, false, false, locked⟩ tr t (some r) →
      (∃ name ∈ locks, locked name = true) → t.guardOpen = false := by
  intro h
  have he : Exec LaneStep (run 1 "youtube" .pingAll) ⟨true, false, false, fun _ => true⟩
      [⟨.directories, true⟩, ⟨.lock "maintenance.lock", true⟩] ⟨true, false, false, fun _ => true⟩
      (some (.error "maintenance_locked")) :=
    .call rfl (.call ⟨rfl, rfl⟩ (.done _ _))
  have hclosed := h _ _ _ _ _ _ _ _ he ⟨"maintenance.lock", by simp [locks], rfl⟩
  cases hclosed

end RuntimeLane

end AutoVPN
