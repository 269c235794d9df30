import AutoVPN.Server.BoxRotation
import AutoVPN.Server.RotationOnce
import AutoVPN.Server.Holds

/-! However the runs of one operation interleave, they buy one box, and what they publish has been
identified in the list of the run that bought it. -/

namespace AutoVPN

open Server Server.Db

namespace Server

abbrev BoxEvent := Program.Event BoxCall BoxCall.Answer

/-- The events of the past, each with its run. -/
def seen (past : List RunMark) : List (Nat × BoxEvent) := past.map fun m => (m.run, m.event)

def isCreate : BoxEvent → Bool
  | ⟨.createBox _ _ _ _, _⟩ => true
  | _ => false

def creations (past : List RunMark) : Nat := past.countP fun m => isCreate m.event

/-- A run has listed the boxes, bought one under its marker, and then found one box that is listed
under its own name, is not among those from before, carries the marker, and has one address, which
is neither the current one nor one from before. -/
def Identified (e : BoxEnvironment) (past : List RunMark) (name ip : String) : Prop :=
  ∃ run operation config before service distributive key marker answer boxes box,
    [(run, (⟨.loadSnapshot, .ok (operation, config)⟩ : BoxEvent)), (run, ⟨.listBoxes, .ok before⟩),
      (run, ⟨.createBox service distributive key marker, answer⟩),
      (run, ⟨.listBoxes, .ok boxes⟩)].Sublist (seen past) ∧
    BoxRotation.candidates before marker boxes = [(name, box)] ∧
    BoxRotation.boxIpv4 e box = [ip] ∧ BoxRotation.freshIp e before config.currentIp ip = true

theorem seen_mono {past past' : List RunMark} (h : past <+: past') :
    (seen past).Sublist (seen past') := (h.sublist).map _

theorem Identified.mono {e : BoxEnvironment} {past past' : List RunMark} {name ip : String}
    (h : Identified e past name ip) (hp : past <+: past') : Identified e past' name ip := by
  obtain ⟨run, operation, config, before, service, distributive, key, marker, answer, boxes, box,
    hs, hrest⟩ := h
  exact ⟨run, operation, config, before, service, distributive, key, marker, answer, boxes, box,
    hs.trans (seen_mono hp), hrest⟩

/-- Every publication so far was identified before it. -/
def Published (e : BoxEnvironment) (past : List RunMark) : Prop :=
  ∀ before m after name ip health keyPath answer, past = before ++ m :: after →
    m.event = ⟨.publish name ip health keyPath, answer⟩ → Identified e before name ip

/-- What holds at any time, whichever runs there are. -/
structure Certain (e : BoxEnvironment) (operationId : Nat) (s : BoxWorld) : Prop where
  unclaimed : s.buyer = none → creations s.past = 0 ∧
    ∀ row, s.db.findIp operationId = some row → row.purchaseState = .notStarted
  claimed : s.buyer ≠ none →
    ∀ row, s.db.findIp operationId = some row → row.purchaseState ≠ .notStarted
  once : creations s.past ≤ 1
  published : Published e s.past
  confirmed : ∀ row, s.db.findIp operationId = some row → row.purchaseState = .confirmed →
    ∃ name ip, row.newIpId = some name ∧ row.newIp = some ip ∧ Identified e s.past name ip

/-- What a run may rely on: nothing is unsaid, and where it has bought the box nobody else writes of
the purchase. -/
structure Relied (operationId : Nat) (run : Nat) (s s' : BoxWorld) : Prop where
  past : s.past <+: s'.past
  buyer : s.buyer.isSome = true → s'.buyer = s.buyer
  purchase : s.buyer = some run → creations s'.past = creations s.past ∧
    (s'.db.findIp operationId).map purchaseOf = (s.db.findIp operationId).map purchaseOf

def Unconfirmed (operationId : Nat) (s : BoxWorld) : Prop :=
  ∀ row, s.db.findIp operationId = some row → row.purchaseState ≠ .confirmed

/-- The update does not touch the purchase. -/
def plain (p : IpPatch) : Prop := p.purchaseState = none ∧ p.newIpId = none ∧ p.newIp = none

/-- The buyer has not confirmed its purchase. -/
def Buying (operationId run : Nat) (s : BoxWorld) : Prop :=
  s.buyer = some run ∧ Unconfirmed operationId s

/-- Where a call may be made. -/
def Justified (e : BoxEnvironment) (operationId run : Nat) (c : BoxCall) (s : BoxWorld) : Prop :=
  match c with
  | .createBox _ _ _ _ => s.buyer = some run ∧ creations s.past = 0
  | .publish name ip _ _ => Identified e s.past name ip
  | .update p => plain p ∨ (Buying operationId run s ∧ p.purchaseState ≠ some .notStarted ∧
      (p.purchaseState = some .confirmed →
        ∃ name ip, p.newIpId = some name ∧ p.newIp = some ip ∧ Identified e s.past name ip))
  | _ => True

theorem Relied.refl (operationId run : Nat) (s : BoxWorld) : Relied operationId run s s :=
  ⟨List.prefix_rfl, fun _ => rfl, fun _ => ⟨rfl, rfl⟩⟩

theorem Relied.trans (operationId run : Nat) ⦃a b c : BoxWorld⦄ (h : Relied operationId run a b)
    (h' : Relied operationId run b c) : Relied operationId run a c := by
  refine ⟨h.past.trans h'.past, fun hb => ?_, fun hb => ?_⟩
  · have hbuyer := h.buyer hb
    exact (h'.buyer (by rw [hbuyer]; exact hb)).trans hbuyer
  · have hbuyer : b.buyer = some run := (h.buyer (by rw [hb]; rfl)).trans hb
    obtain ⟨hc, hrow⟩ := h.purchase hb
    obtain ⟨hc', hrow'⟩ := h'.purchase hbuyer
    exact ⟨hc'.trans hc, hrow'.trans hrow⟩

section

variable {e : BoxEnvironment} {env : Environment} {operationId run : Nat} {s s' : BoxWorld}
  {db db' : Db}

/-! The row. -/

/-- The purchase is the same in both databases. -/
abbrev SamePurchase (operationId : Nat) (db db' : Db) : Prop :=
  (db'.findIp operationId).map purchaseOf = (db.findIp operationId).map purchaseOf

theorem SamePurchase.row (h : SamePurchase operationId db db') {row : IpOperation}
    (hr : db'.findIp operationId = some row) :
    ∃ row₀, db.findIp operationId = some row₀ ∧ row₀.purchaseState = row.purchaseState ∧
      row₀.newIpId = row.newIpId ∧ row₀.newIp = row.newIp := by
  rw [SamePurchase, hr] at h
  obtain ⟨row₀, h₀, he⟩ := Option.map_eq_some_iff.mp h.symm
  obtain ⟨hp, hn⟩ := Prod.mk.inj he
  obtain ⟨hid, hip⟩ := Prod.mk.inj hn
  exact ⟨row₀, h₀, hp, hid, hip⟩

theorem samePurchase_updateIp (db : Db) (f : IpOperation → IpOperation) (hid : ∀ o, (f o).id = o.id)
    (hf : ∀ o, purchaseOf (f o) = purchaseOf o) (target : Nat) :
    SamePurchase operationId db (db.updateIp target f) := by
  rw [SamePurchase, findIp_updateIp db target hid, Option.map_map]
  refine congrArg (fun g => Option.map g _) (funext fun o => ?_)
  rw [Function.comp_apply]
  split
  · exact hf o
  · rfl

theorem purchaseOf_interrupt (reason : String) (o : IpOperation) :
    purchaseOf (o.interrupt reason) = purchaseOf o := by
  unfold IpOperation.interrupt
  split
  · rfl
  split
  · rfl
  split <;> rfl

theorem purchaseOf_takenOver (db : Db) (id : Nat) (o : IpOperation) :
    purchaseOf (takenOver db id o) = purchaseOf o := by
  unfold takenOver
  split
  · exact purchaseOf_interrupt _ o
  · rfl

theorem samePurchase_acquire {owner : LeaseOwner} {now : Nat}
    (h : db.acquireVpsLease owner now = .ok db') : SamePurchase operationId db db' := by
  rw [SamePurchase, findIp_acquire h, Option.map_map]
  exact congrArg (fun g => Option.map g _) (funext (purchaseOf_takenOver db operationId))

theorem samePurchase_move (h : BoxMove operationId s s') :
    SamePurchase operationId s.db s'.db ∧ s'.past = s.past ∧ s'.buyer = s.buyer := by
  cases h with
  | recover reason =>
    refine ⟨?_, rfl, rfl⟩
    obtain ⟨b, hb⟩ := findIp_recover s.db reason operationId
    rw [SamePurchase, hb, Option.map_map]
    refine congrArg (fun g => Option.map g _) (funext fun o => ?_)
    rw [Function.comp_apply]
    split
    · exact purchaseOf_interrupt reason o
    · rfl
  | acquire h => exact ⟨samePurchase_acquire h, rfl, rfl⟩
  | prepareSshWait h =>
    refine ⟨?_, rfl, rfl⟩
    obtain ⟨_, -, h⟩ := except_bind_eq_ok.mp h
    obtain ⟨leased, hleased, h⟩ := except_bind_eq_ok.mp h
    cases h
    refine Eq.trans (samePurchase_updateIp leased (fun o => { o with
      status := .pending, actionState := .sshWaitQueued, currentStep := "wait_ssh" })
      (fun _ => rfl) (fun _ => rfl) operationId) (samePurchase_acquire hleased)
  | other h => exact ⟨h, rfl, rfl⟩

/-- The calls that neither buy, publish nor write of the purchase. -/
def Mild : BoxCall → Prop
  | .update p => plain p
  | .createBox _ _ _ _ => False
  | .publish _ _ _ _ => False
  | .claimPurchase => False
  | _ => True

theorem samePurchase_of_ipOperations (h : db'.ipOperations = db.ipOperations) :
    SamePurchase operationId db db' := by rw [SamePurchase, findIp_of_eq h]

theorem samePurchase_update {p : IpPatch} (hp : plain p) (now : Nat) :
    SamePurchase operationId db (db.updateOperation operationId p now) := by
  obtain ⟨hstate, hid, hip⟩ := hp
  refine (samePurchase_of_ipOperations (updateOperation_ipOperations db operationId p now)).trans
    (samePurchase_updateIp db p.apply (fun _ => rfl) (fun o => ?_) operationId)
  simp [purchaseOf, IpPatch.apply, hstate, hid, hip]

theorem samePurchase_resume (db : Db) :
    SamePurchase operationId db (db.resumeSshWait env operationId) := by
  unfold resumeSshWait
  split
  · split
    · exact samePurchase_updateIp db (fun o => { o with
        status := .running, actionState := .waitingSsh }) (fun _ => rfl) (fun _ => rfl) operationId
    · exact samePurchase_updateIp db (fun o => { o with
        status := .done, actionState := .sshUnreachable, currentStep := "ssh_decision" })
        (fun _ => rfl) (fun _ => rfl) operationId
  · rfl

theorem Mild.same {c : BoxCall} (hc : Mild c) {r : c.Answer}
    (h : boxEffect env operationId c db r db') : SamePurchase operationId db db' := by
  cases c with
  | createBox | publish | claimPurchase => exact hc.elim
  | update p =>
    rcases h with ⟨-, now, rfl⟩ | ⟨f, -, rfl⟩
    · exact samePurchase_update hc now
    · rfl
  | saveContext context =>
    rcases h with ⟨-, timestamp, rfl⟩ | ⟨f, -, rfl⟩
    · exact samePurchase_of_ipOperations (setSetting_ipOperations db _ _ timestamp)
    · rfl
  | loadSnapshot =>
    obtain ⟨rfl, -⟩ := h
    rfl
  | claimResume =>
    rcases h with ⟨rfl, -⟩ | ⟨f, -, rfl⟩
    · exact samePurchase_resume db
    · rfl
  | _ =>
    obtain rfl : db' = db := h
    rfl

theorem Mild.not_create {c : BoxCall} (hc : Mild c) (r : c.Answer) : isCreate ⟨c, r⟩ = false := by
  cases c with
  | createBox => exact hc.elim
  | _ => rfl

theorem Mild.not_bought {c : BoxCall} (hc : Mild c) (r : c.Answer) : bought c r = false := by
  cases c with
  | claimPurchase => exact hc.elim
  | _ => rfl

theorem creations_append (past : List RunMark) (m : RunMark) :
    creations (past ++ [m]) = creations past + if isCreate m.event then 1 else 0 := by
  rw [creations, List.countP_append, List.countP_singleton]
  rfl

theorem Mild.relied {c : BoxCall} (hc : Mild c) {r : c.Answer} {other : Nat}
    (h : boxStep env operationId other c s r s') : Relied operationId run s s' := by
  obtain ⟨heffect, hpast, hbuyer⟩ := h
  rw [hc.not_bought r] at hbuyer
  refine ⟨⟨_, hpast.symm⟩, fun _ => hbuyer, fun _ => ⟨?_, hc.same heffect⟩⟩
  rw [hpast, creations_append, hc.not_create r]
  rfl

theorem Mild.justified {c : BoxCall} (hc : Mild c) : Justified e operationId run c s := by
  cases c with
  | update p => exact .inl hc
  | createBox | publish | claimPurchase => exact hc.elim
  | _ => trivial

/-! The invariant. -/

theorem Published.append {past : List RunMark} (h : Published e past) {m : RunMark}
    (hm : ∀ name ip health keyPath answer, m.event = ⟨.publish name ip health keyPath, answer⟩ →
      Identified e past name ip) : Published e (past ++ [m]) := by
  intro before x after name ip health keyPath answer hsplit hx
  rcases Course.append_singleton_eq hsplit with ⟨rfl, rfl⟩ | ⟨rest, hpast⟩
  · exact hm name ip health keyPath answer hx
  · exact h before x rest name ip health keyPath answer hpast hx

theorem Certain.same (h : Certain e operationId s) (hp : SamePurchase operationId s.db s'.db)
    (hbuyer : s'.buyer = s.buyer) (hpast : s.past <+: s'.past)
    (hc : creations s'.past = creations s.past) (hpub : Published e s'.past) :
    Certain e operationId s' := by
  refine ⟨fun hb => ?_, fun hb row hr => ?_, by rw [hc]; exact h.once, hpub, fun row hr hcon => ?_⟩
  · rw [hbuyer] at hb
    refine ⟨by rw [hc]; exact (h.unclaimed hb).1, fun row hr => ?_⟩
    obtain ⟨row₀, h₀, hstate, -, -⟩ := hp.row hr
    exact hstate ▸ (h.unclaimed hb).2 row₀ h₀
  · rw [hbuyer] at hb
    obtain ⟨row₀, h₀, hstate, -, -⟩ := hp.row hr
    exact hstate ▸ h.claimed hb row₀ h₀
  · obtain ⟨row₀, h₀, hstate, hid, hip⟩ := hp.row hr
    obtain ⟨name, ip, hname, hadd, hident⟩ := h.confirmed row₀ h₀ (hstate.trans hcon)
    exact ⟨name, ip, hid ▸ hname, hip ▸ hadd, hident.mono hpast⟩

theorem certain_move (h : Certain e operationId s) (hm : BoxMove operationId s s') :
    Certain e operationId s' ∧ ∀ run, Relied operationId run s s' := by
  obtain ⟨hp, hpast, hbuyer⟩ := samePurchase_move hm
  have hext : s.past <+: s'.past := ⟨[], by rw [hpast, List.append_nil]⟩
  exact ⟨h.same hp hbuyer hext (by rw [hpast]) (by rw [hpast]; exact h.published),
    fun run => ⟨hext, fun _ => hbuyer, fun _ => ⟨by rw [hpast], hp⟩⟩⟩

theorem Mild.not_publish {c : BoxCall} (hc : Mild c) {r : c.Answer}
    {name ip health keyPath : String} {answer : (BoxCall.publish name ip health keyPath).Answer} :
    (⟨c, r⟩ : BoxEvent) ≠ ⟨.publish name ip health keyPath, answer⟩ := by
  intro he
  obtain rfl : c = .publish name ip health keyPath := congrArg Sigma.fst he
  exact hc

theorem claimPurchase_step {r : BoxCall.Answer .claimPurchase} (h : Certain e operationId s)
    (hs : boxStep env operationId run .claimPurchase s r s') :
    Certain e operationId s' ∧ (∀ other, other ≠ run → Relied operationId other s s') ∧
      (r = .ok true → Buying operationId run s' ∧ creations s'.past = 0) ∧
      (r ≠ .ok true → Relied operationId run s s') := by
  obtain ⟨heffect, hpast, hbuyer⟩ := hs
  have hext : s.past <+: s'.past := ⟨_, hpast.symm⟩
  have hcreations : creations s'.past = creations s.past := by
    rw [hpast, creations_append]
    rfl
  have hpub : Published e s'.past := by
    rw [hpast]
    exact h.published.append fun name ip health keyPath answer he => by
      cases congrArg Sigma.fst he
  by_cases hr : r = .ok true
  · subst hr
    rcases heffect with ⟨hclaim, hdb⟩ | ⟨f, hf, -⟩
    · have hcreatable : (s.db.findIp operationId).any creatable = true := by
        unfold claimPurchase at hclaim
        split at hclaim
        · assumption
        · cases hclaim
      obtain ⟨o, ho, hc⟩ := (Option.any_eq_true creatable _).mp hcreatable
      have hstate : o.purchaseState = .notStarted := by
        have hboth := Bool.and_eq_true_iff.mp hc
        simpa using hboth.1
      have hnone : s.buyer = none := by
        by_contra hb
        exact h.claimed hb o ho hstate
      have hbought : s'.buyer = some run := hbuyer
      have hfind : s'.db.findIp operationId = some
          { o with purchaseState := .sending, actionState := .purchaseSending } := by
        rw [hdb]
        unfold claimPurchase
        rw [if_pos hcreatable]
        refine (findIp_updateIp s.db operationId (f := fun o => { o with
          purchaseState := .sending, actionState := .purchaseSending })
          (fun _ => rfl) operationId).trans ?_
        rw [ho, Option.map_some, if_pos (by simpa using id_of_findIp ho)]
      have hzero : creations s'.past = 0 := hcreations.trans (h.unclaimed hnone).1
      refine ⟨⟨fun hb => ?_, fun _ row hrow => ?_, by omega, hpub, fun row hrow hcon => ?_⟩,
        fun other _ => ⟨hext, fun hb => ?_, fun hb => ?_⟩,
        fun _ => ⟨⟨hbought, fun row hrow => ?_⟩, hzero⟩, fun hne => absurd rfl hne⟩
      · rw [hbought] at hb
        cases hb
      · obtain rfl := Option.some.inj (hfind.symm.trans hrow)
        exact (by decide : PurchaseState.sending ≠ .notStarted)
      · obtain rfl := Option.some.inj (hfind.symm.trans hrow)
        cases hcon
      · rw [hnone] at hb
        cases hb
      · rw [hnone] at hb
        cases hb
      · obtain rfl := Option.some.inj (hfind.symm.trans hrow)
        exact (by decide : PurchaseState.sending ≠ .confirmed)
    · cases hf
  · have hnot : bought .claimPurchase r = false := by
      cases r with
      | error f => rfl
      | ok claimed =>
        cases claimed with
        | false => rfl
        | true => exact absurd rfl hr
    rw [hnot] at hbuyer
    have hsame : s'.db = s.db := by
      rcases heffect with ⟨hclaim, hdb⟩ | ⟨f, -, hdb⟩
      · rw [hdb]
        unfold claimPurchase at hclaim ⊢
        split
        · rename_i hany
          rw [if_pos hany] at hclaim
          exact absurd hclaim hr
        · rfl
      · exact hdb
    have hp : SamePurchase operationId s.db s'.db := by rw [hsame]
    have hrelied : ∀ other, Relied operationId other s s' := fun other =>
      ⟨hext, fun _ => hbuyer, fun _ => ⟨hcreations, hp⟩⟩
    exact ⟨h.same hp hbuyer hext hcreations hpub, fun other _ => hrelied other,
      fun he => absurd he hr, fun _ => hrelied run⟩

theorem purchase_step {p : IpPatch} {r : BoxCall.Answer (.update p)} (h : Certain e operationId s)
    (hb : Buying operationId run s) (hstate : p.purchaseState ≠ some .notStarted)
    (hconfirm : p.purchaseState = some .confirmed →
      ∃ name ip, p.newIpId = some name ∧ p.newIp = some ip ∧ Identified e s.past name ip)
    (hs : boxStep env operationId run (.update p) s r s') :
    Certain e operationId s' ∧ (∀ other, other ≠ run → Relied operationId other s s') ∧
      (p.purchaseState ≠ some .confirmed → Buying operationId run s') := by
  obtain ⟨heffect, hpast, hbuyer⟩ := hs
  have hbuyer : s'.buyer = s.buyer := hbuyer
  have hext : s.past <+: s'.past := ⟨_, hpast.symm⟩
  have hcreations : creations s'.past = creations s.past := by
    rw [hpast, creations_append]
    rfl
  have hpub : Published e s'.past := by
    rw [hpast]
    exact h.published.append fun name ip health keyPath answer he => by
      cases congrArg Sigma.fst he
  have hrow : ∀ row, s'.db.findIp operationId = some row → ∃ o,
      s.db.findIp operationId = some o ∧ (row = p.apply o ∨ row = o) := by
    intro row hr
    rcases heffect with ⟨-, now, hdb⟩ | ⟨f, -, hdb⟩
    · rw [hdb, findIp_of_eq (updateOperation_ipOperations s.db operationId p now),
        findIp_updateIp s.db operationId (f := p.apply) fun _ => rfl] at hr
      obtain ⟨o, ho, rfl⟩ := Option.map_eq_some_iff.mp hr
      exact ⟨o, ho, .inl (if_pos (by simpa using id_of_findIp ho))⟩
    · exact ⟨row, hdb ▸ hr, .inr rfl⟩
  refine ⟨⟨fun hnone => ?_, fun hne row hr => ?_, by rw [hcreations]; exact h.once, hpub,
    fun row hr hcon => ?_⟩, fun other hother => ⟨hext, fun _ => hbuyer, fun ho => ?_⟩,
    fun hne => ⟨hbuyer.trans hb.1, fun row hr => ?_⟩⟩
  · rw [hbuyer, hb.1] at hnone
    cases hnone
  · rw [hbuyer] at hne
    obtain ⟨o, ho, rfl | rfl⟩ := hrow row hr
    · show p.purchaseState.getD o.purchaseState ≠ .notStarted
      cases hp : p.purchaseState with
      | none => exact h.claimed hne o ho
      | some state =>
        rw [hp] at hstate
        exact fun he => hstate (congrArg some he)
    · exact h.claimed hne row ho
  · obtain ⟨o, ho, rfl | rfl⟩ := hrow row hr
    · have hcon : p.purchaseState.getD o.purchaseState = .confirmed := hcon
      cases hp : p.purchaseState with
      | none =>
        rw [hp] at hcon
        exact absurd hcon (hb.2 o ho)
      | some state =>
        rw [hp] at hcon
        obtain ⟨name, ip, hname, hip, hident⟩ := hconfirm (hp.trans (congrArg some hcon))
        refine ⟨name, ip, ?_, ?_, hident.mono hext⟩
        · show p.newIpId.orElse _ = _
          rw [hname]
          rfl
        · show p.newIp.orElse _ = _
          rw [hip]
          rfl
    · exact absurd hcon (hb.2 row ho)
  · rw [hb.1] at ho
    exact absurd (Option.some.inj ho).symm hother
  · obtain ⟨o, ho, rfl | rfl⟩ := hrow row hr
    · show p.purchaseState.getD o.purchaseState ≠ .confirmed
      cases hp : p.purchaseState with
      | none => exact hb.2 o ho
      | some state =>
        rw [hp] at hne
        exact fun he => hne (congrArg some he)
    · exact hb.2 row ho

theorem create_step {service distributive key marker : String}
    {r : BoxCall.Answer (.createBox service distributive key marker)} (h : Certain e operationId s)
    (hb : s.buyer = some run) (hzero : creations s.past = 0)
    (hs : boxStep env operationId run (.createBox service distributive key marker) s r s') :
    Certain e operationId s' ∧ (∀ other, other ≠ run → Relied operationId other s s') ∧
      s'.buyer = s.buyer ∧ s'.db = s.db := by
  obtain ⟨hdb, hpast, hbuyer⟩ := hs
  have hdb : s'.db = s.db := hdb
  have hbuyer : s'.buyer = s.buyer := hbuyer
  have hext : s.past <+: s'.past := ⟨_, hpast.symm⟩
  have hcreations : creations s'.past = creations s.past + 1 := by
    rw [hpast, creations_append]
    rfl
  refine ⟨⟨fun hnone => ?_, fun hne row hr => ?_, by omega, ?_, fun row hr hcon => ?_⟩,
    fun other hother => ⟨hext, fun _ => hbuyer, fun ho => ?_⟩, hbuyer, hdb⟩
  · rw [hbuyer, hb] at hnone
    cases hnone
  · rw [hbuyer] at hne
    exact h.claimed hne row (hdb ▸ hr)
  · rw [hpast]
    exact h.published.append fun name ip health keyPath answer he => by
      cases congrArg Sigma.fst he
  · obtain ⟨name, ip, hname, hip, hident⟩ := h.confirmed row (hdb ▸ hr) hcon
    exact ⟨name, ip, hname, hip, hident.mono hext⟩
  · rw [hb] at ho
    exact absurd (Option.some.inj ho).symm hother

theorem publish_step {name ip health keyPath : String}
    {r : BoxCall.Answer (.publish name ip health keyPath)} (h : Certain e operationId s)
    (hident : Identified e s.past name ip)
    (hs : boxStep env operationId run (.publish name ip health keyPath) s r s') :
    Certain e operationId s' ∧ ∀ other, Relied operationId other s s' := by
  obtain ⟨heffect, hpast, hbuyer⟩ := hs
  have hbuyer : s'.buyer = s.buyer := hbuyer
  have hext : s.past <+: s'.past := ⟨_, hpast.symm⟩
  have hcreations : creations s'.past = creations s.past := by
    rw [hpast, creations_append]
    rfl
  have hp : SamePurchase operationId s.db s'.db := by
    rcases heffect with ⟨timestamp, -, hpublish⟩ | ⟨f, -, hdb⟩
    · obtain ⟨row, hrow, -, hrow'⟩ := findIp_publishIpChange hpublish
      rw [SamePurchase, hrow, hrow']
      rfl
    · rw [SamePurchase, hdb]
  refine ⟨h.same hp hbuyer hext hcreations ?_, fun other =>
    ⟨hext, fun _ => hbuyer, fun _ => ⟨hcreations, hp⟩⟩⟩
  rw [hpast]
  refine h.published.append fun name' ip' health' keyPath' answer he => ?_
  cases he
  exact hident

/-- Every justified call keeps the invariant and what the other runs rely on. -/
theorem certain_call {c : BoxCall} {r : c.Answer} (h : Certain e operationId s)
    (hg : Justified e operationId run c s) (hs : boxStep env operationId run c s r s') :
    Certain e operationId s' ∧ ∀ other, other ≠ run → Relied operationId other s s' := by
  by_cases hc : Mild c
  · have hrelied : ∀ other, Relied operationId other s s' := fun other => hc.relied hs
    obtain ⟨heffect, hpast, hbuyer⟩ := hs
    rw [hc.not_bought r] at hbuyer
    refine ⟨h.same (hc.same heffect) hbuyer (hrelied run).past ?_ ?_, fun other _ => hrelied other⟩
    · rw [hpast, creations_append, hc.not_create r]
      rfl
    · rw [hpast]
      exact h.published.append fun name ip health keyPath answer he => absurd he hc.not_publish
  · cases c with
    | update p =>
      rcases hg with hplain | ⟨hb, hstate, hconfirm⟩
      · exact absurd hplain hc
      · obtain ⟨hcertain, hrelied, -⟩ := purchase_step h hb hstate hconfirm hs
        exact ⟨hcertain, hrelied⟩
    | createBox service distributive key marker =>
      obtain ⟨hcertain, hrelied, -⟩ := create_step h hg.1 hg.2 hs
      exact ⟨hcertain, hrelied⟩
    | publish name ip health keyPath =>
      obtain ⟨hcertain, hrelied⟩ := publish_step h hg hs
      exact ⟨hcertain, fun other _ => hrelied other⟩
    | claimPurchase =>
      obtain ⟨hcertain, hrelied, -⟩ := claimPurchase_step h hs
      exact ⟨hcertain, hrelied⟩
    | _ => exact absurd trivial hc

end

end Server

end AutoVPN
