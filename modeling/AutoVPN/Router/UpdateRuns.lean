import AutoVPN.Router.UpdateWorld

/-! What the updater guarantees in every history: a package is installed only once it has been
verified, under both locks and behind the gate. -/

namespace AutoVPN

namespace UpdateHelper

open Program

section

variable {e : UpdateEnvironment} {t : Nat} {s s' : UpdateWorld} {α β : Type}
  {K : UpdateWorld → Prop} {l : List UpdateEvent}

/-- What a process may rely on. -/
structure Relied (t : Nat) (s s' : UpdateWorld) : Prop where
  past : s.past <+: s'.past
  updateLock : s.updateLock = some t → s'.updateLock = some t
  controllerLock : s.controllerLock = some t → s'.controllerLock = some t
  gate : s.controllerLock = some t → s.gate = true → s'.gate = true

/-- A call that may be made now. -/
def Allowed (e : UpdateEnvironment) (t : Nat) (c : UpdateCall) (s : UpdateWorld) : Prop :=
  ∀ r, Proper e ⟨t, s.updateLock, s.controllerLock, s.gate, ⟨c, r⟩⟩ s.past

theorem Relied.refl (t : Nat) (s : UpdateWorld) : Relied t s s :=
  ⟨List.prefix_rfl, id, id, fun _ => id⟩

theorem Relied.trans (t : Nat) ⦃a b c : UpdateWorld⦄ (h : Relied t a b) (h' : Relied t b c) :
    Relied t a c :=
  ⟨h.past.trans h'.past, fun hl => h'.updateLock (h.updateLock hl),
    fun hl => h'.controllerLock (h.controllerLock hl),
    fun hl hg => h'.gate (h.controllerLock hl) (h.gate hl hg)⟩

theorem gateAfter_kept {c : UpdateCall} {r : c.Answer} {gate : Bool} (h : gateAfter s c r gate)
    (hg : s.gate = true) : gate = true := by
  cases c with
  | writeGate content =>
    cases r with
    | true => exact h
    | false => exact h.elim id fun he => he.trans hg
  | _ =>
    have he : gate = s.gate := h
    exact he.trans hg

theorem relied_step {other : Nat} {c : UpdateCall} {r : c.Answer}
    (h : updateStep e other c s r s') : Relied t s s' := by
  obtain ⟨htold, hgate, hupdate, hcontroller, -, hpast⟩ := h
  refine ⟨⟨_, hpast.symm⟩, fun hl => ?_, fun hl => ?_, fun _ hg => gateAfter_kept hgate hg⟩
  · rw [hupdate]
    split
    · have hnone : s.updateLock = none := htold rfl
      rw [hnone] at hl
      cases hl
    · exact hl
  · rw [hcontroller]
    split
    · have hnone : s.controllerLock = none := htold rfl
      rw [hnone] at hl
      cases hl
    · exact hl

theorem safe_step {c : UpdateCall} {r : c.Answer} (h : UpdateSafe e s) (hg : Allowed e t c s)
    (hs : updateStep e t c s r s') : UpdateSafe e s' := by
  obtain ⟨-, hgate, -, -, haltered, hpast⟩ := hs
  refine ⟨?_, fun ha => ?_⟩
  · rw [hpast]
    exact splits_concat (P := fun before m => Proper e m before) h.proper (hg r)
  · rw [haltered, Bool.or_eq_true] at ha
    rcases ha with ha | ha
    · exact gateAfter_kept hgate (h.gate ha)
    · exact gateAfter_kept hgate ((hg r).alters ha).2.2

theorem safe_move (h : UpdateSafe e s) (hm : UpdateMove s s') :
    UpdateSafe e s' ∧ ∀ t, Relied t s s' := by
  cases hm with
  | resume hnone =>
    refine ⟨⟨h.proper, fun ha => by cases ha⟩, fun t => ⟨List.prefix_rfl, id, id, fun hl => ?_⟩⟩
    rw [hnone] at hl
    cases hl
  | restore => exact ⟨⟨h.proper, fun _ => rfl⟩, fun t => ⟨List.prefix_rfl, id, id, fun _ _ => rfl⟩⟩

theorem safe_leave (h : UpdateSafe e s) (hl : leaves t s s') :
    UpdateSafe e s' ∧ ∀ other, other ≠ t → Relied other s s' := by
  subst hl
  refine ⟨⟨h.proper, h.gate⟩, fun other hne =>
    ⟨List.prefix_rfl, fun ho => ?_, fun ho => ?_, fun _ => id⟩⟩
  · exact (if_neg fun ht => hne (Option.some.inj (ho.symm.trans ht))).trans ho
  · exact (if_neg fun ht => hne (Option.some.inj (ho.symm.trans ht))).trans ho

/-! Programs. -/

/-- The process makes allowed calls, and returns where `P` holds. -/
abbrev Secure (e : UpdateEnvironment) (t : Nat) (P : α → UpdateWorld → Prop) (x : Update α)
    (s : UpdateWorld) : Prop :=
  Safe (updateStep e t) (UpdateSafe e) (Relied t) (Allowed e t) (Ends P fun _ _ => True) x.run s

def Stable (t : Nat) (K : UpdateWorld → Prop) : Prop := ∀ ⦃u v⦄, K u → Relied t u v → K v

theorem Did.mono {past past' : List UpdateMark} (h : Did t l past) (hp : past <+: past') :
    Did t l past' := h.trans (hp.sublist.map _)

theorem Did.front {more : List UpdateEvent} {past : List UpdateMark}
    (h : Did t (l ++ more) past) : Did t l past := by
  rw [Did, List.map_append] at h
  exact (List.sublist_append_left _ _).trans h

theorem Did.back {more : List UpdateEvent} {past : List UpdateMark}
    (h : Did t (l ++ more) past) : Did t more past := by
  rw [Did, List.map_append] at h
  exact (List.sublist_append_right _ _).trans h

theorem Did.next {c : UpdateCall} {r : c.Answer} (h : Did t l s.past)
    (hs : updateStep e t c s r s') : Did t (l ++ [⟨c, r⟩]) s'.past := by
  have hlast : s'.past.map (fun m => (m.process, m.event)) =
      s.past.map (fun m => (m.process, m.event)) ++ [(t, ⟨c, r⟩)] := by
    rw [hs.2.2.2.2.2, List.map_append]
    rfl
  rw [Did, hlast, List.map_append]
  exact h.append (List.Sublist.refl _)

theorem stable_did : Stable t fun s => Did t l s.past := fun _ _ h hr => h.mono hr.past

theorem stable_locked : Stable t fun s => s.updateLock = some t := fun _ _ h hr => hr.updateLock h

theorem Stable.and {L : UpdateWorld → Prop} (h : Stable t K) (h' : Stable t L) :
    Stable t fun s => K s ∧ L s := fun _ _ hk hr => ⟨h hk.1 hr, h' hk.2 hr⟩

/-- The process holds both locks. -/
def Both (t : Nat) (s : UpdateWorld) : Prop :=
  s.updateLock = some t ∧ s.controllerLock = some t

/-- The process holds both locks and there is a gate. -/
def Closed (t : Nat) (s : UpdateWorld) : Prop :=
  s.updateLock = some t ∧ s.controllerLock = some t ∧ s.gate = true

theorem stable_both : Stable t (Both t) :=
  fun _ _ h hr => ⟨hr.updateLock h.1, hr.controllerLock h.2⟩

theorem stable_closed : Stable t (Closed t) :=
  fun _ _ h hr => ⟨hr.updateLock h.1, hr.controllerLock h.2.1, hr.gate h.2.1 h.2.2⟩

theorem secure_imp {P P' : α → UpdateWorld → Prop} {x : Update α} (h : Secure e t P x s)
    (hP : ∀ a u, P a u → P' a u) : Secure e t P' x s := by
  refine h.mono (fun _ _ _ hg => hg) fun r u _ hr => ?_
  cases r with
  | ok a => exact hP a u hr
  | error f => trivial

theorem secure_pure {P : α → UpdateWorld → Prop} {a : α} (hP : Stable t (P a)) (h : P a s) :
    Secure e t P (pure a) s := fun _ hr _ => hP h hr

theorem secure_throw {P : α → UpdateWorld → Prop} (f : UpdateExit) :
    Secure e t P (throw f) s := fun _ _ _ => trivial

theorem secure_bind {x : Update α} {f : α → Update β} {P : α → UpdateWorld → Prop}
    {Q : β → UpdateWorld → Prop} (h : Secure e t P x s)
    (hf : ∀ a u, P a u → Secure e t Q (f a) u) : Secure e t Q (x >>= f) s :=
  safe_bind (Relied.refl t) h (fun _ _ _ _ _ _ => trivial) fun a u _ hp => hf a u hp

theorem secure_ask {c : UpdateCall} (hG : ∀ u, K u → Did t l u.past → Allowed e t c u)
    (hK : Stable t K) (hs : K s ∧ Did t l s.past) :
    Secure e t (fun a u => (K u ∧ Did t (l ++ [⟨c, a⟩]) u.past) ∧ ∃ v, Told e v c a)
      (ask c) s := by
  intro u hr _
  have hk := hK hs.1 hr
  have hl : Did t l u.past := stable_did hs.2 hr
  refine ⟨hG u hk hl, fun a s' hstep v hv _ => ?_⟩
  exact ⟨⟨hK (hK hk (relied_step hstep)) hv, (hl.next hstep).mono hv.past⟩, u, hstep.1⟩

/-! Calm calls. -/

/-- The calls that are allowed wherever the update lock is held. -/
def Calm (c : UpdateCall) : Prop :=
  match c with
  | .writeGate _ => False
  | c => alters c = false

theorem Calm.allowed {c : UpdateCall} (h : Calm c) (hs : s.updateLock = some t) :
    Allowed e t c s := by
  intro r
  refine ⟨fun _ _ _ => hs, fun content r' he => ?_, fun ha => ?_, fun p r' he => ?_⟩
  · obtain rfl : c = .writeGate content := congrArg Sigma.fst he
    exact h.elim
  · cases c with
    | disable | commit | failClosed | install | recordVersion => cases h
    | _ => cases ha
  · obtain rfl : c = .install p := congrArg Sigma.fst he
    cases h

/-- Any other call than these is allowed at any time. -/
def Free (c : UpdateCall) : Prop :=
  match c with
  | .writeState _ => False
  | c => Calm c

theorem Free.allowed {c : UpdateCall} (h : Free c) : Allowed e t c s := by
  intro r
  refine ⟨fun content r' he => ?_, fun content r' he => ?_, fun ha => ?_, fun p r' he => ?_⟩
  · obtain rfl : c = .writeState content := congrArg Sigma.fst he
    exact h.elim
  · obtain rfl : c = .writeGate content := congrArg Sigma.fst he
    exact h.elim
  · cases c with
    | disable | commit | failClosed | install | recordVersion => cases h
    | _ => cases ha
  · obtain rfl : c = .install p := congrArg Sigma.fst he
    cases h

theorem secure_calm {x : Update α} (h : Uses Calm x.run) (hK : Stable t K)
    (hL : ∀ u, K u → u.updateLock = some t) (hs : K s) : Secure e t (fun _ => K) x s := by
  have hrun : ∀ (p : Program UpdateCall UpdateCall.Answer (Except UpdateExit α)) s,
      Uses Calm p → K s → Safe (updateStep e t) (UpdateSafe e) (Relied t) (Allowed e t)
        (fun _ => K) p s := by
    intro p
    induction p with
    | done a => exact fun s _ hs u hr _ => hK hs hr
    | call c next ih =>
      exact fun s h hs u hr _ => ⟨h.1.allowed (hL u (hK hs hr)), fun r s' hstep =>
        ih r s' (h.2 r) (hK (hK hs hr) (relied_step hstep))⟩
  refine (hrun x.run s h hs).mono (fun _ _ _ hg => hg) fun r u _ hr => ?_
  cases r with
  | ok a => exact hr
  | error f => trivial

theorem uses_ask {c : UpdateCall} (h : Calm c) : Uses Calm (ask c).run := ⟨h, fun _ => trivial⟩

theorem uses_orAbort (ok : Bool) : Uses Calm (orAbort ok).run := by
  cases ok with
  | true => exact uses_pure _
  | false => exact uses_throw _

theorem uses_fail (code : String) : Uses Calm (fail code : Update α).run :=
  uses_bind (uses_ask rfl) fun ok => uses_bind (uses_orAbort ok) fun _ => uses_throw _

theorem uses_need (ok : Bool) (code : String) : Uses Calm (need ok code).run := by
  cases ok with
  | true => exact uses_pure _
  | false => exact uses_fail code

theorem uses_needSome (o : Option α) (code : String) : Uses Calm (needSome o code).run := by
  cases o with
  | some a => exact uses_pure a
  | none => exact uses_fail code

theorem secure_fail {P : α → UpdateWorld → Prop} (hK : Stable t K)
    (hL : ∀ u, K u → u.updateLock = some t) (hs : K s) (code : String) :
    Secure e t P (fail code) s := by
  refine secure_bind (secure_calm (uses_ask rfl) hK hL hs) fun ok u hs => ?_
  exact secure_bind (secure_calm (uses_orAbort ok) hK hL hs) fun _ _ _ => secure_throw _

theorem secure_need (hK : Stable t K) (hL : ∀ u, K u → u.updateLock = some t) (hs : K s)
    (ok : Bool) (code : String) : Secure e t (fun _ u => K u ∧ ok = true) (need ok code) s := by
  cases ok with
  | true => exact secure_pure (fun _ _ h hr => ⟨hK h.1 hr, h.2⟩) ⟨hs, rfl⟩
  | false => exact secure_fail hK hL hs code

theorem secure_needSome (hK : Stable t K) (hL : ∀ u, K u → u.updateLock = some t) (hs : K s)
    (o : Option α) (code : String) :
    Secure e t (fun a u => K u ∧ o = some a) (needSome o code) s := by
  cases o with
  | some a => exact secure_pure (fun _ _ h hr => ⟨hK h.1 hr, h.2⟩) ⟨hs, rfl⟩
  | none => exact secure_fail hK hL hs code

/-! The parts of a check. -/

theorem secure_tell {c : UpdateCall} (hc : Calm c) (hK : Stable t K)
    (hL : ∀ u, K u → u.updateLock = some t) (hs : K s) :
    Secure e t (fun a u => K u ∧ ∃ v, Told e v c a) (ask c) s :=
  secure_imp (secure_ask (l := []) (fun u hk _ => hc.allowed (hL u hk)) hK
    ⟨hs, List.nil_sublist _⟩) fun _ _ h => ⟨h.1.1, h.2⟩

theorem secure_note {c : UpdateCall} (hc : Calm c) (hK : Stable t K)
    (hL : ∀ u, K u → u.updateLock = some t) (hs : K s ∧ Did t l s.past) :
    Secure e t (fun a u => K u ∧ Did t (l ++ [⟨c, a⟩]) u.past) (ask c) s :=
  secure_imp (secure_ask (fun u hk _ => hc.allowed (hL u hk)) hK hs) fun _ _ h => h.1

theorem secure_inspectGate (hK : Stable t K) (hL : ∀ u, K u → u.updateLock = some t)
    (hs : K s ∧ Did t l s.past) :
    Secure e t (fun gate u => ∃ found, (K u ∧ Did t (l ++ [⟨.readGate, found⟩]) u.past) ∧
      gate = interrupted e found) (inspectGate e) s := by
  unfold inspectGate
  refine secure_bind (secure_note rfl hK hL hs) fun found u hs => ?_
  have hK' : Stable t fun u => K u ∧ Did t (l ++ [⟨.readGate, found⟩]) u.past :=
    hK.and stable_did
  have hL' : ∀ u, K u ∧ Did t (l ++ [⟨.readGate, found⟩]) u.past → u.updateLock = some t :=
    fun u h => hL u h.1
  have hdone {gate : Option Interrupted} {u : UpdateWorld}
      (hs : K u ∧ Did t (l ++ [⟨.readGate, found⟩]) u.past) (hg : gate = interrupted e found) :
      Secure e t (fun gate u => ∃ found, (K u ∧ Did t (l ++ [⟨.readGate, found⟩]) u.past) ∧
        gate = interrupted e found) (pure gate) u :=
    secure_pure (fun _ _ ⟨found, h, hg⟩ hr => ⟨found, (hK.and stable_did) h hr, hg⟩)
      ⟨found, hs, hg⟩
  cases found with
  | absent => exact hdone hs rfl
  | unusable => exact secure_fail hK' hL' hs _
  | file g =>
    refine secure_bind (secure_calm (uses_need _ _) hK' hL' hs) fun _ u hs => ?_
    refine secure_bind (secure_calm (uses_need _ _) hK' hL' hs) fun _ u hs => ?_
    refine secure_bind (secure_calm (uses_need _ _) hK' hL' hs) fun _ u hs => ?_
    refine secure_bind (secure_calm (uses_need _ _) hK' hL' hs) fun _ u hs => ?_
    exact hdone hs rfl

theorem uses_fetchManifest (tag : String) : Uses Calm (fetchManifest e tag).run := by
  unfold fetchManifest
  refine uses_bind (uses_ask rfl) fun _ => uses_bind (uses_needSome _ _) fun facts => ?_
  refine uses_bind (uses_needSome _ _) fun release => ?_
  refine uses_bind (uses_ask rfl) fun _ => uses_bind (uses_needSome _ _) fun raw => ?_
  refine uses_bind (uses_needSome _ _) fun b => ?_
  refine uses_bind (uses_ask rfl) fun _ => uses_bind (uses_need _ _) fun _ => ?_
  refine uses_bind (uses_need _ _) fun _ => ?_
  refine uses_bind (uses_ask rfl) fun _ => uses_bind (uses_needSome _ _) fun manifest => ?_
  refine uses_bind (uses_need _ _) fun _ => uses_bind (uses_need _ _) fun _ => ?_
  refine uses_bind (uses_need _ _) fun _ => uses_bind (uses_need _ _) fun _ => ?_
  refine uses_bind (uses_need _ _) fun _ => uses_bind (uses_need _ _) fun _ => ?_
  exact uses_bind (uses_need _ _) fun _ => uses_pure _

theorem uses_readEntries (items : List Value) : Uses Calm (readEntries e items).run := by
  induction items with
  | nil => exact uses_pure _
  | cons v rest ih =>
    refine uses_bind ?_ fun selected => uses_bind ih fun others => uses_pure _
    exact uses_bind (uses_needSome _ _) fun _ => uses_bind (uses_needSome _ _) fun _ =>
      uses_bind (uses_needSome _ _) fun _ => uses_pure _

theorem uses_select (manifest : Value) : Uses Calm (select e manifest).run := by
  unfold select
  refine uses_bind (uses_readEntries _) fun entries => ?_
  split
  · exact uses_pure _
  · exact uses_fail _

theorem uses_planEntry (tag : String) (selected : Selected) (recovery : Bool) :
    Uses Calm (planEntry tag selected recovery).run := by
  unfold planEntry
  refine uses_bind (uses_ask rfl) fun up => uses_bind (uses_ask rfl) fun now => ?_
  split
  · exact uses_throw _
  · exact uses_bind (uses_ask rfl) fun ok => uses_orAbort ok

theorem secure_checkInterrupted (hK : Stable t K) (hL : ∀ u, K u → u.updateLock = some t)
    (tag : String) (g : Interrupted) (selected : Selected) (hs : K s) :
    Secure e t (fun _ u => K u ∧ (e.compare g.version selected.version = "<" ∨
      e.compare g.version selected.version = "=" ∧ g.tag = tag))
      (checkInterrupted e tag g selected) s := by
  unfold checkInterrupted
  refine secure_bind (secure_tell rfl hK hL hs) fun compared u ⟨hs, v, htold⟩ => ?_
  refine secure_bind (secure_needSome hK hL hs _ _) fun comparison u ⟨hs, hcompared⟩ => ?_
  have hcomparison : comparison = e.compare g.version selected.version := htold _ hcompared
  split
  · rename_i hless
    exact secure_pure (fun _ _ h hr => ⟨hK h.1 hr, h.2⟩) ⟨hs, .inl (hcomparison ▸ hless)⟩
  split
  · rename_i hequal
    refine secure_bind (secure_calm (uses_ask rfl) hK hL hs) fun found u hs => ?_
    refine secure_imp (secure_need hK hL hs _ _) fun _ u h => ⟨h.1, .inr ⟨hcomparison ▸ hequal, ?_⟩⟩
    have hboth := h.2
    rw [Bool.and_eq_true, decide_eq_true_eq] at hboth
    exact hboth.1
  · exact secure_fail hK hL hs _

theorem secure_checkNewer (hK : Stable t K) (hL : ∀ u, K u → u.updateLock = some t)
    (tag : String) (gate : Option Interrupted) (selected : Selected)
    (hs : K s ∧ Did t l s.past) :
    Secure e t (fun _ u => ∃ current,
      (K u ∧ Did t (l ++ [⟨.packageVersion, some current⟩]) u.past) ∧
        Newer e current tag selected.version gate) (checkNewer e tag gate selected) s := by
  unfold checkNewer
  refine secure_bind (secure_note rfl hK hL hs) fun answer u hs => ?_
  have hK' : Stable t fun u => K u ∧ Did t (l ++ [⟨.packageVersion, answer⟩]) u.past :=
    hK.and stable_did
  have hL' : ∀ u, K u ∧ Did t (l ++ [⟨.packageVersion, answer⟩]) u.past → u.updateLock = some t :=
    fun u h => hL u h.1
  refine secure_bind (secure_needSome hK' hL' hs _ _) fun current u ⟨hs, hanswer⟩ => ?_
  subst hanswer
  refine secure_bind (secure_tell rfl hK' hL' hs) fun compared u ⟨hs, v, htold⟩ => ?_
  refine secure_bind (secure_needSome hK' hL' hs _ _) fun comparison u ⟨hs, hcompared⟩ => ?_
  have hcomparison : comparison = e.compare current selected.version := htold _ hcompared
  subst hcomparison
  cases gate with
  | none =>
    refine secure_imp (secure_need hK' hL' hs _ _) fun _ _ h => ⟨current, h.1, ?_⟩
    exact (by simpa only [decide_eq_true_eq] using h.2 : e.compare current selected.version = "<")
  | some g =>
    refine secure_bind (secure_checkInterrupted hK' hL' tag g selected hs) fun _ u ⟨hs, hg⟩ => ?_
    refine secure_imp (secure_need hK' hL' hs _ _) fun _ u h => ⟨current, h.1, ?_, hg⟩
    simpa only [Bool.or_eq_true, decide_eq_true_eq] using h.2

theorem secure_fetchPackage (hK : Stable t K) (hL : ∀ u, K u → u.updateLock = some t)
    (base architecture : String) (selected : Selected) (hs : K s ∧ Did t l s.past) :
    Secure e t (fun p u => ∃ file url, (K u ∧ Did t (l ++ [⟨.package file url, some p⟩]) u.past) ∧
      Genuine e selected p) (fetchPackage e base architecture selected) s := by
  have hKl : Stable t fun u => K u ∧ Did t l u.past := hK.and stable_did
  unfold fetchPackage
  refine secure_bind (secure_calm (uses_need _ _) hKl (fun u h => hL u h.1) hs) fun _ u hs => ?_
  refine secure_bind (secure_note rfl hK hL hs) fun answer u hs => ?_
  obtain ⟨file, url, hfile⟩ : ∃ file url, Did t (l ++ [⟨.package file url, answer⟩]) u.past :=
    ⟨_, _, hs.2⟩
  have hK' : Stable t fun u => K u ∧ Did t (l ++ [⟨.package file url, answer⟩]) u.past :=
    hK.and stable_did
  have hL' : ∀ u, K u ∧ Did t (l ++ [⟨.package file url, answer⟩]) u.past →
    u.updateLock = some t := fun u h => hL u h.1
  refine secure_bind (secure_needSome hK' hL' ⟨hs.1, hfile⟩ _ _) fun p u ⟨hs, hanswer⟩ => ?_
  subst hanswer
  refine secure_bind (secure_tell rfl hK' hL' hs) fun hashed u ⟨hs, v, htold⟩ => ?_
  refine secure_bind (secure_needSome hK' hL' hs _ _) fun actual u ⟨hs, hhashed⟩ => ?_
  have hactual : actual = e.sha256 p := htold _ hhashed
  refine secure_bind (secure_need hK' hL' hs _ _) fun _ u ⟨hs, hhash⟩ => ?_
  refine secure_bind (secure_calm (uses_ask rfl) hK' hL' hs) fun ok u hs => ?_
  refine secure_bind (secure_calm (uses_orAbort ok) hK' hL' hs) fun _ u hs => ?_
  refine secure_bind (secure_tell rfl hK' hL' hs) fun signed u ⟨hs, v, hverified⟩ => ?_
  refine secure_bind (secure_need hK' hL' hs _ _) fun _ u ⟨hs, hsigned⟩ => ?_
  refine secure_bind (secure_tell rfl hK' hL' hs) fun dumped u ⟨hs, v, hread⟩ => ?_
  refine secure_bind (secure_needSome hK' hL' hs _ _) fun metadata u ⟨hs, hdumped⟩ => ?_
  have hmetadata : metadata = e.metadata p := hread _ hdumped
  subst hmetadata
  refine secure_bind (secure_need hK' hL' hs _ _) fun _ u ⟨hs, hname⟩ => ?_
  refine secure_bind (secure_need hK' hL' hs _ _) fun _ u ⟨hs, hversion⟩ => ?_
  refine secure_bind (secure_calm (uses_needSome _ _) hK' hL' hs) fun arch u hs => ?_
  refine secure_bind (secure_calm (uses_need _ _) hK' hL' hs) fun _ u hs => ?_
  refine secure_pure ?_ ⟨file, url, hs, ?_, hverified hsigned, of_decide_eq_true hname,
    of_decide_eq_true hversion⟩
  · exact fun _ _ ⟨file, url, h, hg⟩ hr => ⟨file, url, (hK.and stable_did) h hr, hg⟩
  · rw [← hactual]
    exact of_decide_eq_true hhash

theorem secure_checkLocked (hK : Stable t K) (hL : ∀ u, K u → u.updateLock = some t)
    (tag : String) (hs : K s ∧ Did t l s.past) :
    Secure e t (fun r u => ∃ found current file url, (K u ∧ Did t (l ++ [⟨.readGate, found⟩] ++
        [⟨.packageVersion, some current⟩] ++ [⟨.package file url, some r.2⟩]) u.past) ∧
      Genuine e r.1 r.2 ∧ Newer e current tag r.1.version (interrupted e found))
      (checkLocked e tag) s := by
  have hKl : Stable t fun u => K u ∧ Did t l u.past := hK.and stable_did
  unfold checkLocked
  refine secure_bind (secure_calm (uses_need _ _) hKl (fun u h => hL u h.1) hs) fun _ u hs => ?_
  refine secure_bind (secure_inspectGate hK hL hs) fun gate u ⟨found, hs, hgate⟩ => ?_
  subst hgate
  have hKg : Stable t fun u => K u ∧ Did t (l ++ [⟨.readGate, found⟩]) u.past := hK.and stable_did
  have hLg : ∀ u, K u ∧ Did t (l ++ [⟨.readGate, found⟩]) u.past → u.updateLock = some t :=
    fun u h => hL u h.1
  refine secure_bind (secure_calm (uses_ask rfl) hKg hLg hs) fun _ u hs => ?_
  refine secure_bind (secure_calm (uses_need _ _) hKg hLg hs) fun _ u hs => ?_
  refine secure_bind (secure_calm (uses_ask rfl) hKg hLg hs) fun _ u hs => ?_
  refine secure_bind (secure_calm (uses_need _ _) hKg hLg hs) fun _ u hs => ?_
  refine secure_bind (secure_calm (uses_fetchManifest tag) hKg hLg hs) fun fetched u hs => ?_
  obtain ⟨base, manifest, b⟩ := fetched
  refine secure_bind (secure_calm (uses_select manifest) hKg hLg hs) fun selected u hs => ?_
  refine secure_bind (secure_calm (uses_need _ _) hKg hLg hs) fun _ u hs => ?_
  refine secure_bind (secure_calm (uses_need _ _) hKg hLg hs) fun _ u hs => ?_
  refine secure_bind (secure_calm (uses_need _ _) hKg hLg hs) fun _ u hs => ?_
  refine secure_bind (secure_checkNewer hK hL tag _ selected hs)
    fun _ u ⟨current, hs, hnewer⟩ => ?_
  refine secure_bind (secure_fetchPackage hK hL base b.architecture selected hs)
    fun p u ⟨file, url, hs, hgenuine⟩ => ?_
  refine secure_bind (secure_calm (uses_planEntry tag selected _) (hK.and stable_did)
    (fun u h => hL u h.1) hs) fun _ u hs => ?_
  exact secure_pure (fun _ _ ⟨found, current, file, url, h, hg⟩ hr =>
    ⟨found, current, file, url, (hK.and stable_did) h hr, hg⟩)
    ⟨found, current, file, url, hs, hgenuine, hnewer⟩

/-! The worker. -/

theorem entry_ready (phase code : String) (extra : List (String × Value)) :
    isReady (entry phase code extra) = (phase == "ready") := rfl

theorem secure_writeGate {content : Value} (hs : Both t s ∧ Did t l s.past)
    (hready : ∀ u : UpdateWorld, Did t l u.past → isReady content = true →
      Finished e t content u.past) :
    Secure e t (fun a u => (Both t u ∧ Did t (l ++ [⟨.writeGate content, a⟩]) u.past) ∧
      (a = true → u.gate = true)) (ask (.writeGate content)) s := by
  intro u hr _
  have hboth : Both t u := stable_both hs.1 hr
  have hl : Did t l u.past := hs.2.mono hr.past
  refine ⟨fun r => ⟨fun _ _ he => ?_, fun other r' he => ?_, fun ha => ?_, fun _ _ he => ?_⟩,
    fun a s' hstep v hv _ => ?_⟩
  · cases congrArg Sigma.fst he
  · obtain rfl : content = other := UpdateCall.writeGate.inj (congrArg Sigma.fst he)
    exact ⟨hboth.1, hboth.2, hready u hl⟩
  · cases ha
  · cases congrArg Sigma.fst he
  · have hkept : Both t s' := stable_both hboth (relied_step hstep)
    refine ⟨⟨stable_both hkept hv, (hl.next hstep).mono hv.past⟩, fun ha => hv.gate hkept.2 ?_⟩
    subst ha
    exact hstep.2.1

theorem secure_failGated {P : α → UpdateWorld → Prop} (hs : Both t s)
    (extra : List (String × Value)) (code : String) : Secure e t P (failGated extra code) s := by
  unfold failGated
  refine secure_bind (secure_writeGate (l := []) ⟨hs, List.nil_sublist _⟩ fun _ _ h => ?_)
    fun ok u hs => ?_
  · rw [entry_ready] at h
    cases h
  have hL : ∀ u, Both t u → u.updateLock = some t := fun _ h => h.1
  refine secure_bind (secure_calm (uses_orAbort ok) stable_both hL hs.1.1) fun _ u hs => ?_
  refine secure_bind (secure_calm (uses_ask rfl) stable_both hL hs) fun ok u hs => ?_
  exact secure_bind (secure_calm (uses_orAbort ok) stable_both hL hs) fun _ _ _ => secure_throw _

/-- The process holds both locks behind its gate, and has done `l`. -/
def Behind (t : Nat) (l : List UpdateEvent) (s : UpdateWorld) : Prop :=
  Closed t s ∧ Did t l s.past

theorem stable_behind : Stable t (Behind t l) := stable_closed.and stable_did

theorem Behind.both (h : Behind t l s) : Both t s := ⟨h.1.1, h.1.2.1⟩

theorem secure_needGated (extra : List (String × Value)) (hs : Behind t l s) (ok : Bool)
    (code : String) :
    Secure e t (fun _ u => Behind t l u ∧ ok = true) (needGated extra ok code) s := by
  cases ok with
  | true => exact secure_pure (fun _ _ h hr => ⟨stable_behind h.1 hr, h.2⟩) ⟨hs, rfl⟩
  | false => exact secure_failGated hs.both extra code

theorem Closed.allowed {c : UpdateCall} (hc : ∀ content, c ≠ .writeGate content)
    (hs : Closed t s) (hp : ∀ p, c = .install p → Prepared e t p s.past) : Allowed e t c s := by
  intro r
  refine ⟨fun _ _ _ => hs.1, fun content r' he => ?_, fun _ => hs, fun p r' he => ?_⟩
  · exact absurd (congrArg Sigma.fst he) (hc content)
  · exact hp p (congrArg Sigma.fst he)

theorem secure_behind {c : UpdateCall} (hc : ∀ content, c ≠ .writeGate content)
    (hp : ∀ p (u : UpdateWorld), c = .install p → Did t l u.past → Prepared e t p u.past)
    (hs : Behind t l s) :
    Secure e t (fun a u => Behind t (l ++ [⟨c, a⟩]) u) (ask c) s :=
  secure_imp (secure_ask (fun u hk hl => hk.allowed hc fun p hi => hp p u hi hl) stable_closed hs)
    fun _ _ h => h.1

theorem Behind.front {more : List UpdateEvent} (h : Behind t (l ++ more) s) : Behind t l s :=
  ⟨h.1, h.2.front⟩

theorem secure_apply (id : String) (plan : Plan) (p : Package) (hs : Both t s ∧ Did t l s.past)
    (hgenuine : Genuine e plan.selected p)
    (hprepared : ∀ output past, onlyController output = true →
      Did t (l ++ [⟨.writeGate (entry "running" "" (gateExtra id plan)), true⟩] ++
        [⟨.commit, true⟩] ++ [⟨.failClosed, true⟩] ++ [⟨.simulate p, some output⟩]) past →
      Prepared e t p past) :
    Secure e t (fun _ _ => True) (apply id plan p) s := by
  have hL (l : List UpdateEvent) : ∀ u, Behind t l u → u.updateLock = some t := fun _ h => h.1.1
  have hcalm {l : List UpdateEvent} {u : UpdateWorld} {α : Type} {x : Update α}
      (h : Uses Calm x.run) (hs : Behind t l u) : Secure e t (fun _ => Behind t l) x u :=
    secure_calm h stable_behind (hL l) hs
  unfold apply
  refine secure_bind (secure_writeGate hs fun _ _ h => ?_) fun ok u ⟨hs, hgate⟩ => ?_
  · rw [entry_ready] at h
    cases h
  cases ok with
  | false => exact secure_bind (P := fun _ _ => False) (secure_throw _) fun _ _ h => h.elim
  | true =>
    have hs : Behind t _ u := ⟨⟨hs.1.1, hs.1.2, hgate rfl⟩, hs.2⟩
    refine secure_bind (hcalm (uses_orAbort true) hs) fun _ u hs => ?_
    refine secure_bind (hcalm (uses_ask rfl) hs) fun ok u hs => ?_
    refine secure_bind (hcalm (uses_orAbort ok) hs) fun _ u hs => ?_
    refine secure_bind (secure_behind (by simp) (by simp) hs) fun ok u hs => ?_
    refine secure_bind (secure_needGated _ hs.front ok _) fun _ u ⟨hs, _⟩ => ?_
    refine secure_bind (secure_behind (by simp) (by simp) hs) fun committed u hs => ?_
    refine secure_bind (secure_needGated _ hs committed _) fun _ u ⟨hs, hcommitted⟩ => ?_
    subst hcommitted
    refine secure_bind (hcalm (uses_ask rfl) hs) fun ok u hs => ?_
    refine secure_bind (hcalm (uses_orAbort ok) hs) fun _ u hs => ?_
    refine secure_bind (secure_behind (by simp) (by simp) hs) fun closed u hs => ?_
    refine secure_bind (secure_needGated _ hs closed _) fun _ u ⟨hs, hclosed⟩ => ?_
    subst hclosed
    refine secure_bind (hcalm (uses_ask rfl) hs) fun ok u hs => ?_
    refine secure_bind (secure_needGated _ hs ok _) fun _ u ⟨hs, _⟩ => ?_
    refine secure_bind (hcalm (uses_ask rfl) hs) fun ok u hs => ?_
    refine secure_bind (hcalm (uses_orAbort ok) hs) fun _ u hs => ?_
    refine secure_bind (secure_behind (by simp) (by simp) hs) fun simulated u hs => ?_
    cases simulated with
    | none => exact secure_failGated hs.both _ _
    | some output =>
      refine secure_bind (secure_needGated _ hs _ _) fun _ u ⟨hs, _⟩ => ?_
      refine secure_bind (secure_needGated _ hs _ _) fun _ u ⟨hs, honly⟩ => ?_
      refine secure_bind (secure_behind (by simp) (fun p' v hp hdid => ?_) hs)
        fun installed u hs => ?_
      · obtain rfl : p = p' := UpdateCall.install.inj hp
        exact hprepared output v.past honly hdid
      refine secure_bind (secure_needGated _ hs installed _) fun _ u ⟨hs, hinstalled⟩ => ?_
      subst hinstalled
      refine secure_bind (secure_behind (by simp) (by simp) hs) fun version u hs => ?_
      cases version with
      | none => exact secure_failGated hs.both _ _
      | some version =>
        refine secure_bind (secure_needGated _ hs _ _) fun _ u ⟨hs, hversion⟩ => ?_
        obtain rfl : version = plan.selected.version := of_decide_eq_true hversion
        refine secure_bind (secure_needGated _ hs _ _) fun _ u ⟨hs, _⟩ => ?_
        refine secure_bind (secure_behind (by simp) (by simp) hs) fun recorded u hs => ?_
        refine secure_bind (secure_needGated _ hs recorded _) fun _ u ⟨hs, hrecorded⟩ => ?_
        subst hrecorded
        refine secure_bind (secure_writeGate ⟨hs.both, hs.2⟩ fun v hv _ => ?_)
          fun ok u ⟨hs, _⟩ => ?_
        · refine ⟨id, plan, p, rfl, hgenuine, ?_⟩
          rw [List.append_assoc, List.append_assoc] at hv
          exact hv.back
        have hB : ∀ u, Both t u → u.updateLock = some t := fun _ h => h.1
        refine secure_bind (secure_calm (uses_orAbort ok) stable_both hB hs.1) fun _ u hs => ?_
        refine secure_bind (secure_calm (uses_ask rfl) stable_both hB hs) fun ok u hs => ?_
        exact secure_imp (secure_calm (uses_orAbort ok) stable_both hB hs) fun _ _ _ => trivial

theorem uses_readPlan (id : String) : Uses Calm (readPlan e id).run := by
  unfold readPlan
  refine uses_bind (uses_ask rfl) fun state => ?_
  split
  · exact uses_pure _
  refine uses_bind (uses_ask rfl) fun now => ?_
  split
  · exact uses_pure _
  · exact uses_pure _

theorem secure_readPlan (hK : Stable t K) (hL : ∀ u, K u → u.updateLock = some t) (id : String)
    (hs : K s ∧ Did t l s.past) :
    Secure e t (fun read u => K u ∧ ∀ plan phase, read = some (plan, phase) → ∃ state now,
      Did t (l ++ [⟨.readState, some state⟩] ++ [⟨.uptime, some now⟩]) u.past ∧
        loadPlan e id state now = some (plan, phase)) (readPlan e id) s := by
  have hstable (read : Option (Plan × String)) : Stable t fun u => K u ∧ ∀ plan phase,
      read = some (plan, phase) → ∃ state now,
        Did t (l ++ [⟨.readState, some state⟩] ++ [⟨.uptime, some now⟩]) u.past ∧
          loadPlan e id state now = some (plan, phase) := fun _ _ h hr =>
    ⟨hK h.1 hr, fun plan phase hp => by
      obtain ⟨state, now, hdid, hload⟩ := h.2 plan phase hp
      exact ⟨state, now, hdid.mono hr.past, hload⟩⟩
  unfold readPlan
  refine secure_bind (secure_note rfl hK hL hs) fun state u hs => ?_
  cases state with
  | none => exact secure_pure (hstable none) ⟨hs.1, fun _ _ h => by cases h⟩
  | some state =>
    refine secure_bind (secure_note rfl hK hL hs) fun now u hs => ?_
    cases now with
    | none => exact secure_pure (hstable none) ⟨hs.1, fun _ _ h => by cases h⟩
    | some now =>
      exact secure_pure (hstable _) ⟨hs.1, fun plan phase hp => ⟨state, now, hs.2, hp⟩⟩

theorem secure_lockUpdate : Secure e t
    (fun a u => a = true → u.updateLock = some t ∧ Did t [⟨.lockUpdate, true⟩] u.past)
    (ask .lockUpdate) s := by
  intro u hr _
  refine ⟨Free.allowed rfl, fun a s' hstep v hv _ ha => ?_⟩
  subst ha
  refine ⟨hv.updateLock hstep.2.2.1, Did.mono ?_ hv.past⟩
  exact Did.next (l := []) (List.nil_sublist _) hstep

theorem secure_lockController (hs : s.updateLock = some t ∧ Did t l s.past) : Secure e t
    (fun a u => (u.updateLock = some t ∧ Did t (l ++ [⟨.lockController, a⟩]) u.past) ∧
      (a = true → u.controllerLock = some t)) (ask .lockController) s := by
  intro u hr _
  have hlock : u.updateLock = some t := hr.updateLock hs.1
  refine ⟨Free.allowed rfl, fun a s' hstep v hv _ => ?_⟩
  refine ⟨⟨hv.updateLock ((relied_step hstep).updateLock hlock),
    ((hs.2.mono hr.past).next hstep).mono hv.past⟩, fun ha => ?_⟩
  subst ha
  exact hv.controllerLock hstep.2.2.2.1

theorem secure_worker (id : String) : Secure e t (fun _ _ => True) (worker e id) s := by
  have hlocked : ∀ u : UpdateWorld, u.updateLock = some t → u.updateLock = some t := fun _ h => h
  have hB : ∀ u, Both t u → u.updateLock = some t := fun _ h => h.1
  unfold worker
  refine secure_bind secure_lockUpdate fun locked u hs => ?_
  cases locked with
  | false => exact secure_throw _
  | true =>
    refine secure_bind (secure_lockController (hs rfl)) fun controller u ⟨hs, hcontroller⟩ => ?_
    cases controller with
    | false =>
      exact secure_bind (P := fun _ _ => False) (secure_fail (stable_locked.and stable_did)
        (fun _ h => h.1) hs _) fun _ _ h => h.elim
    | true =>
      have hs : Both t u ∧ Did t [⟨.lockUpdate, true⟩, ⟨.lockController, true⟩] u.past :=
        ⟨⟨hs.1, hcontroller rfl⟩, hs.2⟩
      have hK (l : List UpdateEvent) : Stable t fun u => Both t u ∧ Did t l u.past :=
        stable_both.and stable_did
      have hL (l : List UpdateEvent) : ∀ u, Both t u ∧ Did t l u.past → u.updateLock = some t :=
        fun u h => hB u h.1
      refine secure_bind (secure_calm (uses_need _ _) (hK _) (hL _) hs) fun _ u hs => ?_
      refine secure_bind (secure_calm (uses_ask rfl) (hK _) (hL _) hs) fun _ u hs => ?_
      refine secure_bind (secure_calm (uses_need _ _) (hK _) (hL _) hs) fun _ u hs => ?_
      refine secure_bind (secure_readPlan stable_both hB id hs) fun read u ⟨hboth, hread⟩ => ?_
      cases read with
      | none => exact secure_fail stable_both hB hboth _
      | some loaded =>
        obtain ⟨plan, phase⟩ := loaded
        obtain ⟨state, now, hdid, hload⟩ := hread plan phase rfl
        have hs := And.intro hboth hdid
        refine secure_bind (secure_calm (uses_ask rfl) (hK _) (hL _) hs) fun _ u hs => ?_
        refine secure_bind (secure_calm (uses_need _ _) (hK _) (hL _) hs) fun _ u hs => ?_
        refine secure_bind (secure_checkLocked stable_both hB plan.tag hs)
          fun checked u ⟨found, current, file, url, hs, hgenuine, hnewer⟩ => ?_
        obtain ⟨selected, p⟩ := checked
        refine secure_bind (secure_need (hK _) (hL _) hs _ _) fun _ u ⟨hs, hsame⟩ => ?_
        obtain rfl : selected = plan.selected := of_decide_eq_true hsame
        refine secure_bind (secure_note rfl stable_both hB hs) fun network u hs => ?_
        refine secure_bind (secure_need (hK _) (hL _) hs _ _) fun _ u ⟨hs, hnetwork⟩ => ?_
        subst hnetwork
        refine secure_bind (secure_calm (uses_ask rfl) (hK _) (hL _) hs) fun _ u hs => ?_
        refine secure_bind (secure_calm (uses_need _ _) (hK _) (hL _) hs) fun _ u hs => ?_
        refine secure_apply id plan p hs hgenuine fun output past honly hdid => ?_
        exact ⟨id, state, now, plan, phase, found, current, file, url, output, hdid, hload,
          hgenuine, hnewer, honly⟩

theorem secure_checkNow (tag : String) : Secure e t (fun _ _ => True) (checkNow e tag) s := by
  unfold checkNow
  split
  · exact secure_throw _
  refine secure_bind secure_lockUpdate fun locked u hs => ?_
  cases locked with
  | false => exact secure_throw _
  | true =>
    refine secure_bind (secure_checkLocked stable_locked (fun _ h => h) tag (hs rfl))
      fun _ u _ => ?_
    exact secure_pure (fun _ _ _ _ => trivial) trivial

theorem secure_underLock {x : Update Unit} (h : Uses Calm x.run) {f : UpdateExit} :
    Secure e t (fun _ _ => True)
      (ask .lockUpdate >>= fun locked => if !locked then throw f else x) s := by
  refine secure_bind secure_lockUpdate fun locked u hs => ?_
  cases locked with
  | false => exact secure_throw _
  | true =>
    have hx : Secure e t (fun _ _ => True) x u :=
      secure_imp (secure_calm h stable_locked (fun _ h => h) (hs rfl).1) fun _ _ _ => trivial
    exact hx

theorem secure_checkQueue (tag : String) :
    Secure e t (fun _ _ => True) (checkQueue tag) s := by
  unfold checkQueue
  split
  · exact secure_throw _
  refine secure_underLock ?_
  refine uses_bind (uses_ask rfl) fun _ => uses_bind (uses_orAbort _) fun _ => ?_
  exact uses_bind (uses_ask rfl) fun _ => uses_orAbort _

theorem secure_queue (id : String) : Secure e t (fun _ _ => True) (queue e id) s := by
  refine secure_underLock (uses_bind (uses_readPlan id) fun read => ?_)
  split
  · exact uses_throw _
  split
  · exact uses_throw _
  refine uses_bind (uses_ask rfl) fun _ => uses_bind (uses_orAbort _) fun _ => ?_
  exact uses_bind (uses_ask rfl) fun _ => uses_orAbort _

theorem secure_started {p : Program UpdateCall UpdateCall.Answer (Except UpdateExit Unit)}
    (h : Started e p) : Safe (updateStep e t) (UpdateSafe e) (Relied t) (Allowed e t)
      (Ends (fun _ _ => True) fun _ _ => True) p s := by
  cases h with
  | checkQueue tag => exact secure_checkQueue tag
  | checkNow tag => exact secure_checkNow tag
  | queue id => exact secure_queue id
  | worker id => exact secure_worker id

end

theorem update_contract (e : UpdateEnvironment) :
    Crew.Contract (updateStep e) UpdateMove (starts e) leaves (UpdateSafe e) Relied (Allowed e)
      (fun _ => Ends (fun _ _ => True) fun _ _ => True) where
  refl := Relied.refl
  trans := Relied.trans
  move := safe_move
  call := fun h hg hs => ⟨safe_step h hg hs, fun _ _ => relied_step hs⟩
  start := fun h _ => secure_started h.1
  leave := safe_leave

end UpdateHelper

/-- Over every history of checks, approvals, workers and resumes, interleaved and cut off anywhere,
with any answers: the state file and the gate are written under the update lock, the router is
altered under both locks and behind the gate, a package is installed only once the same worker has
verified it against the approved plan, and there is a gate until the user resumes. -/
theorem update_safe {e : UpdateEnvironment} {s : UpdateWorld} (hp : s.past = [])
    (ha : s.altered = false) {c : UpdateHelper.UpdateCrew}
    (h : UpdateHelper.UpdateRuns e ⟨s, fun _ => none⟩ c) : UpdateHelper.UpdateSafe e c.state := by
  refine ((UpdateHelper.update_contract e).runs (Crew.Sound.idle ⟨?_, ?_⟩) h).1
  · intro before m after hsplit
    rw [hp] at hsplit
    simp at hsplit
  · intro haltered
    rw [ha] at haltered
    cases haltered

namespace UpdateSample

open UpdateHelper

def environment : UpdateEnvironment where
  shown := fun _ => ""
  sha256 := fun _ => "0123456789abcdef0123456789abcdef0123456789abcdef0123456789abcdef"
  isSigned := fun _ => true
  metadata := fun _ => .object [("info", .object [("name", .string "autovpn-controller"),
    ("version", .string "2"), ("arch", .string "noarch")])]
  compare := fun a b => if a = b then "=" else "<"

def plan : Plan where
  tag := "v2"
  selected := ⟨"autovpn-controller-2.apk", environment.sha256 "", "2"⟩
  expires := 900
  recovery := false

def queued : Value := entry "queued" "" [("id", .string "0-0123456789ab"),
  ("tag", .string plan.tag), ("version", .string plan.selected.version),
  ("filename", .string plan.selected.filename), ("sha256", .string plan.selected.sha256),
  ("expires_uptime", .int plan.expires), ("recovery", .int 0)]

def receiptFacts : ReceiptFacts where
  receipt := .object [("schema_version", .int 1),
    ("release_base", .string "https://github.com/a/b/releases/download/v1"),
    ("signing_key_sha256", .string plan.selected.sha256)]
  keyHash := plan.selected.sha256

def boardFacts : BoardFacts where
  board := .object [("release", .object [("version", .string "25.12.0"),
    ("target", .string "a/b")])]
  architecture := "arm"
  kernelRelease := "6.12"
  kernel := .array [.object [("name", .string "kernel"), ("arch", .string "arm"),
    ("version", .string "6")]]

def manifest : Value := .object [("schema_version", .int 1), ("release", .string "25.12.0"),
  ("target", .string "a/b"), ("architecture", .string "arm"), ("kernel_release", .string "6.12"),
  ("kernel_package", .string "6"), ("signing_key_sha256", .string plan.selected.sha256),
  ("packages", .array [.object [("name", .string "autovpn-controller"),
    ("filename", .string plan.selected.filename), ("sha256", .string plan.selected.sha256),
    ("version", .string plan.selected.version)]])]

/-- Every command succeeds, on a router that has version 1. -/
def answer (s : UpdateWorld) : (c : UpdateCall) → c.Answer
  | .lockUpdate => s.updateLock.isNone
  | .lockController => s.controllerLock.isNone
  | .readGate => if s.gate then .unusable else .absent
  | .gateExists => s.gate
  | .maintenance => false
  | .receiptFacts => some receiptFacts
  | .boardFacts => some boardFacts
  | .manifest _ _ => some manifest
  | .packageVersion => some (if s.altered then "2" else "1")
  | .compare a b => some (environment.compare a b)
  | .package _ _ => some "package"
  | .sha256 p => some (environment.sha256 p)
  | .metadata p => some (environment.metadata p)
  | .uptime => some 0
  | .readState => some queued
  | .simulate _ => some "(1/1) Upgrading autovpn-controller (1 -> 2)"
  | .workdir | .space | .verify _ | .writeState _ | .writeGate _ | .networkGate | .uciClean
  | .disable | .commit | .sync | .failClosed | .prepareKeys | .install _ | .recordVersion _
  | .spawn _ => true

def next (c : UpdateCall) (s : UpdateWorld) (r : c.Answer) : UpdateWorld where
  updateLock := match c, r with
    | .lockUpdate, true => some 0
    | _, _ => s.updateLock
  controllerLock := match c, r with
    | .lockController, true => some 0
    | _, _ => s.controllerLock
  gate := match c with
    | .writeGate _ => true
    | _ => s.gate
  altered := s.altered || alters c
  past := s.past ++ [⟨0, s.updateLock, s.controllerLock, s.gate, ⟨c, r⟩⟩]

def reply (c : UpdateCall) (s : UpdateWorld) : Option (c.Answer × UpdateWorld) :=
  some (answer s c, next c s (answer s c))

theorem reply_step (c : UpdateCall) (s : UpdateWorld) (r : c.Answer) (s' : UpdateWorld)
    (h : reply c s = some (r, s')) : updateStep environment 0 c s r s' := by
  obtain ⟨rfl, rfl⟩ := Prod.mk.inj (Option.some.inj h)
  refine ⟨?_, ?_, rfl, rfl, rfl, rfl⟩
  · cases c with
    | lockUpdate | lockController => exact fun h => Option.isNone_iff_eq_none.mp h
    | readGate =>
      intro hg
      show (if s.gate then GateFile.unusable else .absent) ≠ .absent
      rw [hg]
      exact fun he => by cases he
    | gateExists => exact fun h => h
    | compare | sha256 | metadata => exact fun _ h => (Option.some.inj h).symm
    | verify => exact fun _ => rfl
    | _ => trivial
  · cases c with
    | writeGate => exact rfl
    | _ => exact rfl

def start : UpdateWorld := ⟨none, none, false, false, []⟩

def played : UpdateWorld :=
  (Program.play reply (worker environment "0-0123456789ab").run start).1

theorem played_runs : ∃ c, UpdateRuns environment ⟨start, fun _ => none⟩ c ∧ c.state = played := by
  obtain ⟨tr, h⟩ := Program.play_exec reply_step (worker environment "0-0123456789ab").run start
  obtain ⟨q, hq⟩ : ∃ q, UpdateRuns environment _ ⟨played, Function.update _ 0 (some q)⟩ :=
    Crew.Runs.exec (Function.update_self 0 _ fun _ => none) h
  exact ⟨_, .head (.start ⟨.worker _, fun _ hm => by cases hm⟩ rfl) hq, rfl⟩

end UpdateSample

open UpdateSample in
/-- A worker installs the package and leaves its gate. -/
theorem update_safe_installed : UpdateHelper.UpdateSafe environment played ∧
    played.altered = true ∧ played.past.any (fun m => match m.event.1 with
      | .install _ => true
      | _ => false) = true := by
  obtain ⟨c, hc, hstate⟩ := played_runs
  refine ⟨?_, by decide +kernel, by decide +kernel⟩
  rw [← hstate]
  exact update_safe rfl rfl hc

end AutoVPN
