import AutoVPN.Server.BoxOnce

/-! What one run of `run_sprintbox_rotation` does, call by call, while others run beside it. -/

namespace AutoVPN

open Server Server.Db

namespace Server.BoxRotation

open Program

section

variable {e : BoxEnvironment} {env : Environment} {operationId run : Nat} {s : BoxWorld}
  {α β ε : Type} {K : BoxWorld → Prop} {l : List BoxEvent}

/-- The run makes justified calls; it returns where `P` holds and raises where `E` does, whatever
the other runs do meanwhile. -/
abbrev Secure (e : BoxEnvironment) (env : Environment) (operationId run : Nat)
    (P : α → BoxWorld → Prop) (E : ε → BoxWorld → Prop)
    (x : Raising ε BoxCall BoxCall.Answer α) (s : BoxWorld) : Prop :=
  Safe (boxStep env operationId run) (Certain e operationId) (Relied operationId run)
    (Justified e operationId run) (Ends P E) x.run s

/-- What the other runs leave to the run. -/
def Stable (operationId run : Nat) (K : BoxWorld → Prop) : Prop :=
  ∀ ⦃u v⦄, K u → Relied operationId run u v → K v

/-- The run has seen these events, in this order. -/
def Facts (run : Nat) (l : List BoxEvent) (s : BoxWorld) : Prop :=
  (l.map fun ev => (run, ev)).Sublist (seen s.past)

theorem stable_true : Stable operationId run fun _ => True := fun _ _ _ _ => trivial

theorem stable_facts : Stable operationId run (Facts run l) :=
  fun _ _ h hr => h.trans (seen_mono hr.past)

theorem stable_identified {name ip : String} :
    Stable operationId run fun s => Identified e s.past name ip := fun _ _ h hr => h.mono hr.past

theorem stable_buying : Stable operationId run (Buying operationId run) := by
  rintro u v ⟨hb, hc⟩ hr
  refine ⟨(hr.buyer (by rw [hb]; rfl)).trans hb, fun row hrow => ?_⟩
  obtain ⟨row₀, h₀, hstate, -⟩ := SamePurchase.row (hr.purchase hb).2 hrow
  exact hstate ▸ hc row₀ h₀

theorem Stable.and {L : BoxWorld → Prop} (h : Stable operationId run K)
    (h' : Stable operationId run L) : Stable operationId run fun s => K s ∧ L s :=
  fun _ _ hk hr => ⟨h hk.1 hr, h' hk.2 hr⟩

theorem Facts.next {c : BoxCall} {r : c.Answer} {s' : BoxWorld} (h : Facts run l s)
    (hs : boxStep env operationId run c s r s') : Facts run (l ++ [⟨c, r⟩]) s' := by
  have hseen : seen s'.past = seen s.past ++ [(run, ⟨c, r⟩)] := by
    rw [seen, hs.2.1, List.map_append]
    rfl
  rw [Facts, hseen, List.map_append]
  exact h.append (List.Sublist.refl _)

theorem secure_imp {P P' : α → BoxWorld → Prop} {E E' : ε → BoxWorld → Prop}
    {x : Raising ε BoxCall BoxCall.Answer α} (h : Secure e env operationId run P E x s)
    (hP : ∀ a u, P a u → P' a u) (hE : ∀ f u, E f u → E' f u) :
    Secure e env operationId run P' E' x s := by
  refine h.mono (fun _ _ _ hg => hg) fun r u _ hr => ?_
  cases r with
  | ok a => exact hP a u hr
  | error f => exact hE f u hr

theorem secure_pure {P : α → BoxWorld → Prop} {E : ε → BoxWorld → Prop} {a : α}
    (hP : Stable operationId run (P a)) (h : P a s) :
    Secure e env operationId run P E (pure a) s := fun _ hr _ => hP h hr

theorem secure_throw {P : α → BoxWorld → Prop} {E : ε → BoxWorld → Prop} {f : ε}
    (hE : Stable operationId run (E f)) (h : E f s) :
    Secure e env operationId run P E (throw f) s := fun _ hr _ => hE h hr

theorem secure_mild {x : Raising ε BoxCall BoxCall.Answer α} (h : Uses Mild x.run)
    (hK : Stable operationId run K) (hs : K s) :
    Secure e env operationId run (fun _ => K) (fun _ => K) x s := by
  have hrun : ∀ (p : Program BoxCall BoxCall.Answer (Except ε α)) s, Uses Mild p → K s →
      Safe (boxStep env operationId run) (Certain e operationId) (Relied operationId run)
        (Justified e operationId run) (fun _ => K) p s := by
    intro p
    induction p with
    | done a => exact fun s _ hs u hr _ => hK hs hr
    | call c next ih =>
      exact fun s h hs u hr _ => ⟨h.1.justified, fun r s' hstep =>
        ih r s' (h.2 r) (hK (hK hs hr) (h.1.relied hstep))⟩
  refine (hrun x.run s h hs).mono (fun _ _ _ hg => hg) fun r u _ hr => ?_
  cases r with
  | ok a => exact hr
  | error f => exact hr

theorem secure_ask {c : BoxCall} (hc : Mild c) (hK : Stable operationId run K) (hs : K s)
    (hl : Facts run l s) :
    Secure e env operationId run (fun a s => K s ∧ Facts run (l ++ [⟨c, .ok a⟩]) s) (fun _ => K)
      (ask c) s := by
  intro u hr _
  refine ⟨hc.justified, fun r s' hstep v hv _ => ?_⟩
  have hk := hK (hK (hK hs hr) (hc.relied hstep)) hv
  cases r with
  | ok a => exact ⟨hk, stable_facts ((stable_facts hl hr).next hstep) hv⟩
  | error f => exact hk

theorem secure_bind {x : Raising ε BoxCall BoxCall.Answer α}
    {f : α → Raising ε BoxCall BoxCall.Answer β} {P : α → BoxWorld → Prop} {Q : β → BoxWorld → Prop}
    {E : ε → BoxWorld → Prop} (hE : ∀ g, Stable operationId run (E g))
    (h : Secure e env operationId run P E x s)
    (hf : ∀ a u, P a u → Secure e env operationId run Q E (f a) u) :
    Secure e env operationId run Q E (x >>= f) s :=
  safe_bind (Relied.refl operationId run) h (fun g _ hg _ hr _ => hE g hg hr)
    fun a u _ hp => hf a u hp

theorem secure_then {x : Raising ε BoxCall BoxCall.Answer α}
    {f : α → Raising ε BoxCall BoxCall.Answer β} {P : α → BoxWorld → Prop} {Q : β → BoxWorld → Prop}
    (h : Secure e env operationId run P (fun _ _ => True) x s)
    (hf : ∀ a u, P a u → Secure e env operationId run Q (fun _ _ => True) (f a) u) :
    Secure e env operationId run Q (fun _ _ => True) (x >>= f) s :=
  secure_bind (fun _ => stable_true) h hf

theorem secure_knowing {k : Known} {x : BoxRun α} {P : α → BoxWorld → Prop}
    (hP : ∀ a, Stable operationId run (P a))
    (h : Secure e env operationId run P (fun _ _ => True) x s) :
    Secure e env operationId run P (fun _ _ => True) (knowing k x) s := by
  refine Safe.bind (Relied.refl operationId run) (h.mono (fun _ _ _ hg => hg) fun r u _ hr => ?_)
  cases r with
  | ok a => exact fun v hv _ => hP a hr hv
  | error f => exact fun _ _ _ => trivial

/-! The mild parts. -/

theorem uses_ask {c : BoxCall} (h : Mild c) : Uses Mild (ask c).run := ⟨h, fun _ => trivial⟩

theorem uses_step {name : String} {p : IpPatch} (hp : plain p) : Uses Mild (step name p).run :=
  uses_ask (c := .update { p with status := some .running, currentStep := some name }) hp

theorem uses_ensure (revision : Nat) : Uses Mild (ensureBoundRevisionCurrent revision).run := by
  unfold ensureBoundRevisionCurrent
  refine uses_bind (uses_ask trivial) fun _ => ?_
  split
  · exact uses_throw _
  · exact uses_pure _

theorem uses_pause (remaining : Nat) : Uses Mild (pause remaining).run := by
  unfold pause
  split
  · exact uses_pure _
  · exact uses_ask trivial

theorem uses_waitTask (task name : String) (attempts : Nat) :
    Uses Mild (waitTask task name attempts).run := by
  induction attempts with
  | zero => exact uses_throw _
  | succ remaining ih =>
    unfold waitTask
    refine uses_bind (uses_step ⟨rfl, rfl, rfl⟩) fun _ => ?_
    refine uses_bind (uses_ask trivial) fun status => ?_
    split
    · exact uses_pure _
    split
    · exact uses_throw _
    · exact uses_bind (uses_pause remaining) fun _ => ih

theorem uses_checkBinding (bound : Value) : Uses Mild (checkBinding e bound).run := by
  unfold checkBinding
  refine uses_bind (uses_ask trivial) fun _ => ?_
  split
  · exact uses_throw _
  · exact uses_pure _

theorem uses_newBoxLabel (boxes : Boxes) : Uses Mild (newBoxLabel e boxes).run := by
  unfold newBoxLabel
  refine uses_bind (uses_ask trivial) fun start => ?_
  split
  · exact uses_pure _
  · exact uses_throw _

theorem uses_deploy (host : String) (polls : Nat) : Uses Mild (deploy host polls).run := by
  induction polls with
  | zero => exact uses_throw _
  | succ remaining ih =>
    unfold deploy
    refine uses_bind (uses_ask trivial) fun done => ?_
    refine uses_bind (uses_step ⟨rfl, rfl, rfl⟩) fun _ => ?_
    split
    · exact ih
    · split
      · exact uses_throw _
      · exact uses_pure _

theorem uses_retainedBoxes (config : CapturedVpnConfig) (bound : Value) (firstBox : Bool) :
    Uses Mild (retainedBoxes e config bound firstBox).run := by
  unfold retainedBoxes
  refine uses_bind (uses_ask trivial) fun context => ?_
  dsimp only
  split
  · exact uses_pure _
  refine uses_bind (uses_step ⟨rfl, rfl, rfl⟩) fun _ => ?_
  refine uses_bind (uses_ask trivial) fun old => ?_
  split
  · exact uses_throw _
  · exact uses_bind (uses_ask trivial) fun _ => uses_pure _

theorem uses_checkRotation (key : String) (config : CapturedVpnConfig) (bound : Value) :
    Uses Mild (checkRotation e key config bound).run := by
  unfold checkRotation
  refine uses_bind (uses_checkBinding bound) fun _ => ?_
  refine uses_bind (uses_ensure config.revision) fun _ => ?_
  refine uses_bind (uses_ask trivial) fun _ => ?_
  split
  · exact uses_throw _
  split
  · exact uses_throw _
  split
  · exact uses_throw _
  split
  · exact uses_throw _
  refine uses_bind (uses_ask trivial) fun host => ?_
  split
  · exact uses_throw _
  · exact uses_ask trivial

/-! What is published. -/

theorem secure_publish {name ip health keyPath : String} (hs : Identified e s.past name ip) :
    Secure e env operationId run (fun _ _ => True) (fun _ _ => True)
      (ask (.publish name ip health keyPath)) s := by
  intro u hr _
  refine ⟨hs.mono hr.past, fun r s' _ v _ _ => ?_⟩
  cases r with
  | ok a => trivial
  | error f => trivial

theorem secure_any {x : Raising ε BoxCall BoxCall.Answer α} (h : Uses Mild x.run) :
    Secure e env operationId run (fun _ _ => True) (fun _ _ => True) x s :=
  secure_mild h stable_true trivial

theorem secure_keep {x : Raising ε BoxCall BoxCall.Answer α} (h : Uses Mild x.run)
    (hK : Stable operationId run K) (hs : K s) :
    Secure e env operationId run (fun _ => K) (fun _ _ => True) x s :=
  secure_imp (secure_mild h hK hs) (fun _ _ h => h) fun _ _ _ => trivial

theorem secure_provisionBox (revision : Nat) (bound : Value) (ssh : BoxSsh) {name ip : String}
    (hs : Identified e s.past name ip) :
    Secure e env operationId run (fun _ _ => True) (fun _ _ => True)
      (provisionBox e revision bound ssh name ip) s := by
  have hident : Stable operationId run fun s => Identified e s.past name ip := stable_identified
  unfold provisionBox
  refine secure_then (secure_keep (uses_checkBinding bound) hident hs) fun _ u hs => ?_
  refine secure_then (secure_keep (uses_ensure revision) hident hs) fun _ u hs => ?_
  refine secure_then (secure_keep (uses_step ⟨rfl, rfl, rfl⟩) hident hs) fun _ u hs => ?_
  refine secure_then (secure_keep (uses_ask trivial) hident hs) fun reached u hs => ?_
  split
  swap
  · exact secure_any (uses_ask ⟨rfl, rfl, rfl⟩)
  refine secure_then (secure_keep (uses_ask ⟨rfl, rfl, rfl⟩) hident hs) fun _ u hs => ?_
  refine secure_then (secure_keep (uses_step ⟨rfl, rfl, rfl⟩) hident hs) fun _ u hs => ?_
  refine secure_then (secure_keep (uses_deploy ip _) hident hs) fun _ u hs => ?_
  refine secure_then (secure_keep (uses_ask ⟨rfl, rfl, rfl⟩) hident hs) fun _ u hs => ?_
  refine secure_then (secure_keep (uses_checkBinding bound) hident hs) fun _ u hs => ?_
  refine secure_then (secure_keep (uses_ensure revision) hident hs) fun _ u hs => ?_
  refine secure_then (secure_keep (uses_step ⟨rfl, rfl, rfl⟩) hident hs) fun _ u hs => ?_
  refine secure_then (secure_keep (uses_ask trivial) hident hs) fun health u hs => ?_
  refine secure_then (secure_keep (uses_checkBinding bound) hident hs) fun _ u hs => ?_
  refine secure_then (secure_publish hs) fun published u _ => ?_
  exact secure_any (uses_ask ⟨rfl, rfl, rfl⟩)

/-! The purchase. -/

/-- What a run knows once it has listed the boxes. -/
def Listed (operation : IpOperation) (config : CapturedVpnConfig) (before : Boxes) :
    List BoxEvent :=
  [⟨.loadSnapshot, .ok (operation, config)⟩, ⟨.listBoxes, .ok before⟩]

theorem secure_claim (hl : Facts run l s) :
    Secure e env operationId run
      (fun claimed s => claimed = true →
        (Buying operationId run s ∧ creations s.past = 0) ∧ Facts run l s)
      (fun _ _ => True) (ask .claimPurchase) s := by
  intro u hr hI
  refine ⟨trivial, fun r s' hstep v hv _ => ?_⟩
  obtain ⟨-, -, hbought, -⟩ := claimPurchase_step hI hstep
  cases r with
  | error f => trivial
  | ok claimed =>
    rintro rfl
    obtain ⟨hb, hzero⟩ := hbought rfl
    have hfacts : Facts run l s' := by
      have hnext := (stable_facts hl hr).next hstep
      rw [Facts, List.map_append] at hnext
      exact (List.sublist_append_left _ _).trans hnext
    exact ⟨⟨stable_buying hb hv, (hv.purchase hb.1).1.trans hzero⟩, stable_facts hfacts hv⟩

theorem secure_preparePurchase (key : String) {operation : IpOperation} {config : CapturedVpnConfig}
    (bound : Value) (hs : Facts run [⟨.loadSnapshot, .ok (operation, config)⟩] s) :
    Secure e env operationId run
      (fun p s => ∀ purchase, p = some purchase →
        (Buying operationId run s ∧ creations s.past = 0) ∧
          Facts run (Listed operation config purchase.before) s)
      (fun _ _ => True) (preparePurchase e key config bound) s := by
  unfold preparePurchase
  refine secure_then (secure_keep (uses_checkRotation key config bound) stable_facts hs)
    fun ssh u hs => ?_
  refine secure_then (secure_keep (uses_retainedBoxes config bound _) stable_facts hs)
    fun retained u hs => ?_
  refine secure_then (secure_imp (secure_ask (c := .listBoxes) trivial stable_true trivial hs)
    (fun before _ h => h.2) fun _ _ _ => trivial) fun before u hs => ?_
  have hs : Facts run (Listed operation config before) u := hs
  refine secure_then (secure_keep (uses_ask ⟨rfl, rfl, rfl⟩) stable_facts hs) fun _ u hs => ?_
  refine secure_then (secure_keep (uses_newBoxLabel before) stable_facts hs)
    fun marker u hs => ?_
  refine secure_then (secure_keep (uses_ask trivial) stable_facts hs) fun _ u hs => ?_
  refine secure_then (secure_keep (uses_checkBinding bound) stable_facts hs) fun _ u hs => ?_
  refine secure_then (secure_keep (uses_ensure _) stable_facts hs) fun _ u hs => ?_
  refine secure_then (secure_keep (uses_step ⟨rfl, rfl, rfl⟩) stable_facts hs)
    fun _ u hs => ?_
  refine secure_then (secure_claim hs) fun claimed u hclaimed => ?_
  split
  · rename_i hc
    obtain ⟨⟨hb, hzero⟩, hfacts⟩ := hclaimed hc
    refine secure_pure ?_ ?_
    · rintro a b h hr purchase hp
      obtain ⟨⟨hb, hzero⟩, hfacts⟩ := h purchase hp
      exact ⟨⟨stable_buying hb hr, (hr.purchase hb.1).1.trans hzero⟩, stable_facts hfacts hr⟩
    · rintro purchase hp
      obtain rfl := Option.some.inj hp
      exact ⟨⟨hb, hzero⟩, hfacts⟩
  · exact secure_pure (fun _ _ _ _ purchase hp => by cases hp) fun purchase hp => by cases hp

theorem secure_write {p : IpPatch} (hstate : p.purchaseState ≠ some .notStarted)
    (hne : p.purchaseState ≠ some .confirmed) (hs : Buying operationId run s ∧ Facts run l s) :
    Secure e env operationId run (fun _ s => Buying operationId run s ∧ Facts run l s)
      (fun _ _ => True) (update p) s := by
  intro u hr hI
  obtain ⟨hb, hl⟩ := (stable_buying.and stable_facts) hs hr
  refine ⟨.inr ⟨hb, hstate, fun h => absurd h hne⟩, fun r s' hstep v hv _ => ?_⟩
  obtain ⟨-, -, hbuying⟩ := purchase_step hI hb hstate (fun h => absurd h hne) hstep
  have hfacts : Facts run l s' := by
    have hnext := hl.next hstep
    rw [Facts, List.map_append] at hnext
    exact (List.sublist_append_left _ _).trans hnext
  cases r with
  | ok _ => exact ⟨stable_buying (hbuying hne) hv, stable_facts hfacts hv⟩
  | error f => trivial

/-- What a run knows once it has bought a box. -/
def Bought (operation : IpOperation) (config : CapturedVpnConfig) (before : Boxes)
    (marker : String) (run : Nat) (s : BoxWorld) : Prop :=
  ∃ service distributive key answer, Facts run (Listed operation config before ++
    [⟨.createBox service distributive key marker, answer⟩]) s

theorem stable_bought {operation : IpOperation} {config : CapturedVpnConfig} {before : Boxes}
    {marker : String} : Stable operationId run (Bought operation config before marker run) := by
  rintro u v ⟨service, distributive, key, answer, h⟩ hr
  exact ⟨service, distributive, key, answer, stable_facts h hr⟩

theorem secure_createBox (bound : Value) {operation : IpOperation} {config : CapturedVpnConfig}
    {p : Purchase} (hb : Buying operationId run s ∧ creations s.past = 0)
    (hs : Facts run (Listed operation config p.before) s) :
    Secure e env operationId run
      (fun _ s => Buying operationId run s ∧ Bought operation config p.before p.marker run s)
      (fun _ _ => True) (createBox bound p) s := by
  unfold createBox
  refine Safe.bind (Relied.refl operationId run) ?_
  intro u hr hI
  have hbu : Buying operationId run u := stable_buying hb.1 hr
  have hzero : creations u.past = 0 := (hr.purchase hb.1.1).1.trans hb.2
  refine ⟨⟨hbu.1, hzero⟩, fun r s' hstep v hv hIv => ?_⟩
  obtain ⟨-, -, hbuyer, hdb⟩ := create_step hI hbu.1 hzero hstep
  have hb' : Buying operationId run s' :=
    ⟨hbuyer.trans hbu.1, fun row hrow => hbu.2 row (hdb ▸ hrow)⟩
  have hbought : Bought operation config p.before p.marker run s' :=
    ⟨_, _, _, r, (stable_facts hs hr).next hstep⟩
  have hpair := (stable_buying.and stable_bought) ⟨hb', hbought⟩ hv
  have hkeep (job : Option String) : Secure e env operationId run
      (fun _ s => Buying operationId run s ∧ Bought operation config p.before p.marker run s)
      (fun _ _ => True)
      (pure job : Raising (CreationFailure × Known) BoxCall BoxCall.Answer (Option String)) v :=
    secure_pure (stable_buying.and stable_bought) hpair
  cases r with
  | ok job => exact hkeep (some job)
  | error f =>
    cases f with
    | taskIdMissing message => exact hkeep none
    | other message => exact fun _ _ _ => trivial
    | api message =>
      refine secure_knowing (fun _ => stable_buying.and stable_bought) ?_
      refine secure_then (secure_write (l := []) (by decide) (by decide)
        ⟨hpair.1, List.nil_sublist _⟩) fun _ w _ => ?_
      exact secure_throw stable_true trivial

theorem secure_identify {operation : IpOperation} {config : CapturedVpnConfig} {before : Boxes}
    {marker : String} (newName : String) (attempts : Nat)
    (hs : Buying operationId run s ∧ Bought operation config before marker run s) :
    Secure e env operationId run
      (fun found s => Buying operationId run s ∧ Identified e s.past found.1 found.2)
      (fun _ _ => True) (identify e before marker config.currentIp newName attempts) s := by
  have hboth : Stable operationId run fun s =>
      Buying operationId run s ∧ Bought operation config before marker run s :=
    stable_buying.and stable_bought
  induction attempts generalizing newName s with
  | zero => exact secure_throw stable_true trivial
  | succ remaining ih =>
    have hcontinue (name : String) {u : BoxWorld}
        (hs : Buying operationId run u ∧ Bought operation config before marker run u) :
        Secure e env operationId run
          (fun found s => Buying operationId run s ∧ Identified e s.past found.1 found.2)
          (fun _ _ => True)
          (knowing ⟨true, name⟩ (pause remaining) >>= fun _ =>
            identify e before marker config.currentIp name remaining) u :=
      secure_then (secure_knowing (fun _ => hboth)
        (secure_keep (uses_pause remaining) hboth hs))
        fun _ _ hs => ih name hs
    unfold identify
    refine secure_then (secure_knowing (fun _ => hboth)
      (secure_keep (uses_step ⟨rfl, rfl, rfl⟩) hboth hs)) fun _ u hs => ?_
    obtain ⟨hb, service, distributive, key, answer, hl⟩ := hs
    refine secure_then (secure_knowing (fun _ => stable_buying.and stable_facts)
      (secure_imp (secure_ask (c := .listBoxes) trivial stable_buying hb hl)
        (fun _ _ h => h) fun _ _ _ => trivial)) fun boxes u hs => ?_
    obtain ⟨hb, hl⟩ := hs
    have hbought : Bought operation config before marker run u := by
      refine ⟨service, distributive, key, answer, ?_⟩
      rw [Facts, List.map_append] at hl
      exact (List.sublist_append_left _ _).trans hl
    split
    · exact hcontinue newName ⟨hb, hbought⟩
    · rename_i box hcandidates
      refine secure_then (secure_knowing (fun _ => stable_buying.and stable_facts)
        (secure_write (by simp) (by simp) ⟨hb, hl⟩)) fun _ v hs => ?_
      obtain ⟨hb, hl⟩ := hs
      have hbought : Bought operation config before marker run v := by
        refine ⟨service, distributive, key, answer, ?_⟩
        rw [Facts, List.map_append] at hl
        exact (List.sublist_append_left _ _).trans hl
      split
      · rename_i ip hip
        split
        · rename_i hfresh
          exact secure_pure (stable_buying.and stable_identified) ⟨hb, run, operation, config,
            before, service, distributive, key, marker, answer, boxes, box.2, hl, hcandidates, hip,
            hfresh⟩
        · exact hcontinue box.1 ⟨hb, hbought⟩
      · exact hcontinue box.1 ⟨hb, hbought⟩
    · exact secure_throw stable_true trivial

theorem secure_confirm {name ip : String} (hb : Buying operationId run s)
    (hident : Identified e s.past name ip) :
    Secure e env operationId run (fun _ s => Identified e s.past name ip) (fun _ _ => True)
      (update { newIpId := some name, newIp := some ip, purchaseState := some .confirmed }) s := by
  intro u hr hI
  have hident' := hident.mono hr.past
  refine ⟨.inr ⟨stable_buying hb hr, by simp, fun _ => ⟨name, ip, rfl, rfl, hident'⟩⟩,
    fun r s' hstep v hv _ => ?_⟩
  cases r with
  | ok _ => exact (hident'.mono ⟨_, hstep.2.1.symm⟩).mono hv.past
  | error f => trivial

theorem secure_buy {operation : IpOperation} {config : CapturedVpnConfig} (bound : Value)
    {p : Purchase} (hb : Buying operationId run s ∧ creations s.past = 0)
    (hs : Facts run (Listed operation config p.before) s) :
    Secure e env operationId run (fun _ _ => True) (fun _ _ => True) (buy e config bound p) s := by
  have hboth : Stable operationId run fun s =>
      Buying operationId run s ∧ Bought operation config p.before p.marker run s :=
    stable_buying.and stable_bought
  unfold buy
  refine secure_then (secure_createBox bound hb hs) fun job u hs => ?_
  refine secure_then (secure_knowing (P := fun _ s => Buying operationId run s ∧
    Bought operation config p.before p.marker run s) (fun _ => hboth) ?_) fun _ v hs => ?_
  · refine secure_then (secure_keep (uses_ask trivial) hboth hs) fun _ v hs => ?_
    obtain ⟨hb, service, distributive, key, answer, hl⟩ := hs
    refine secure_then (secure_write (by simp) (by simp) ⟨hb, hl⟩) fun _ w hs => ?_
    have hs' : Buying operationId run w ∧ Bought operation config p.before p.marker run w :=
      ⟨hs.1, service, distributive, key, answer, hs.2⟩
    split
    · exact secure_keep (uses_waitTask _ _ _) hboth hs'
    · exact secure_pure hboth hs'
  refine secure_then (secure_identify "" _ hs) fun found w hs => ?_
  obtain ⟨hb, hident⟩ := hs
  refine secure_knowing (fun _ => stable_true) ?_
  refine secure_then (secure_confirm hb hident) fun _ x hident => ?_
  exact secure_provisionBox config.revision bound p.ssh hident

theorem secure_rotate {operation : IpOperation} {config : CapturedVpnConfig}
    (hs : Facts run [⟨.loadSnapshot, .ok (operation, config)⟩] s) :
    Secure e env operationId run (fun _ _ => True) (fun _ _ => True) (rotate e config) s := by
  unfold rotate
  refine secure_then (secure_keep (uses_ask trivial) stable_facts hs) fun bound u hs => ?_
  refine secure_then (secure_keep (uses_ask trivial) stable_facts hs)
    fun credentials u hs => ?_
  have hperform : Secure e env operationId run (fun _ _ => True) (fun _ _ => True)
      (perform e credentials.key config bound) u := by
    unfold perform
    refine secure_then (secure_knowing ?_
      (secure_preparePurchase credentials.key bound hs)) fun p v hp => ?_
    · rintro p a b h hr purchase hp
      obtain ⟨⟨hb, hzero⟩, hfacts⟩ := h purchase hp
      exact ⟨⟨stable_buying hb hr, (hr.purchase hb.1).1.trans hzero⟩, stable_facts hfacts hr⟩
    · split
      · exact secure_pure stable_true trivial
      · rename_i purchase
        obtain ⟨hb, hfacts⟩ := hp purchase rfl
        exact secure_buy bound hb hfacts
  refine Safe.bind (Relied.refl operationId run) (hperform.mono (fun _ _ _ hg => hg)
    fun r v _ _ => ?_)
  cases r with
  | ok _ => exact fun _ _ _ => trivial
  | error fk => exact secure_any (uses_ask ⟨rfl, rfl, rfl⟩)

/-! The run that goes on. -/

theorem validateSshDecision_confirmed {db : Db} {queued : Bool} {row : IpOperation}
    (h : db.validateSshDecision env operationId queued = .ok row) :
    row.purchaseState = .confirmed := by
  unfold validateSshDecision at h
  cases hrow : db.findIp operationId with
  | none => simp [hrow] at h
  | some found =>
    simp only [hrow] at h
    by_cases hstate : (found.status, found.actionState) =
        if queued then (.pending, .sshWaitQueued) else (.done, .sshUnreachable)
    · rw [if_neg (not_not.mpr hstate)] at h
      split at h
      · cases h
      · rename_i hchecks
        cases h
        simp only [Bool.or_eq_true, not_or, decide_eq_true_eq, not_not] at hchecks
        by_contra hne
        simp [hne] at hchecks
    · rw [if_pos hstate] at h
      cases h

theorem secure_claimResume :
    Secure e env operationId run
      (fun claimed s => ∀ operation context, claimed = some (operation, context) →
        Identified e s.past (operation.newIpId.getD "") (operation.newIp.getD ""))
      (fun _ _ => True) (ask .claimResume) s := by
  intro u hr hI
  refine ⟨trivial, fun r s' hstep v hv _ => ?_⟩
  cases r with
  | error f => trivial
  | ok claimed =>
    rintro operation context rfl
    obtain ⟨heffect, hpast, -⟩ := hstep
    rcases heffect with ⟨-, ⟨row, hvalid, hrow⟩ | ⟨-, hnone⟩⟩ | ⟨f, hf, -⟩
    · cases hrow
      have hfind := (validateSshDecision_row hvalid).1
      have hconfirmed := validateSshDecision_confirmed hvalid
      obtain ⟨name, ip, hname, hip, hident⟩ := hI.confirmed operation hfind hconfirmed
      rw [hname, hip]
      exact (hident.mono ⟨_, hpast.symm⟩).mono hv.past
    · cases hnone
    · cases hf

theorem secure_resumeSshWait (config : CapturedVpnConfig) :
    Secure e env operationId run (fun _ _ => True) (fun _ _ => True) (resumeSshWait e config)
      s := by
  unfold resumeSshWait
  refine secure_then secure_claimResume fun claimed u hclaimed => ?_
  split
  · exact secure_pure stable_true trivial
  rename_i operation context
  have hident := hclaimed operation context rfl
  have hresumed : Secure e env operationId run (fun _ _ => True) (fun _ _ => True)
      (resumed e config operation context) u := by
    have hs : Stable operationId run fun s =>
      Identified e s.past (operation.newIpId.getD "") (operation.newIp.getD "") := stable_identified
    unfold resumed
    refine secure_then (secure_keep (uses_ask trivial) hs hident) fun bound v hident => ?_
    refine secure_then (secure_keep (uses_checkBinding bound) hs hident) fun _ v hident => ?_
    refine secure_then (secure_keep (uses_ensure _) hs hident) fun _ v hident => ?_
    refine secure_then (secure_keep (uses_ask trivial) hs hident) fun box v hident => ?_
    split
    · exact secure_throw stable_true trivial
    refine secure_then (secure_keep (uses_ask trivial) hs hident) fun found v hident => ?_
    split
    · exact secure_throw stable_true trivial
    refine secure_then (secure_keep (uses_ask trivial) hs hident) fun ssh v hident => ?_
    split
    · exact secure_throw stable_true trivial
    · exact secure_provisionBox config.revision bound ssh hident
  exact safe_tryCatch (Relied.refl operationId run) hresumed (fun _ _ _ _ _ _ => trivial)
    fun f v _ _ => secure_any (uses_ask ⟨rfl, rfl, rfl⟩)

/-- A run is secure wherever it starts. -/
theorem secure_run : Secure e env operationId run (fun _ _ => True) (fun _ _ => True)
    (runSprintboxRotation e) s := by
  unfold runSprintboxRotation
  refine secure_then (secure_imp (secure_ask (c := .loadSnapshot) (l := []) trivial
    stable_true trivial (List.nil_sublist _)) (fun _ _ h => h.2) fun _ _ _ => trivial)
    fun loaded u hs => ?_
  obtain ⟨operation, config⟩ := loaded
  dsimp only
  split
  · exact secure_resumeSshWait config
  split
  · exact secure_pure stable_true trivial
  split
  · exact secure_any (uses_ask ⟨rfl, rfl, rfl⟩)
  · exact secure_rotate hs

end

end Server.BoxRotation

end AutoVPN
