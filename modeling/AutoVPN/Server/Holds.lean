import AutoVPN.Server.Histories

/-! Operations on hold, and operations that wait for a decision of the user. -/

namespace AutoVPN

open Server Server.Db

namespace Server

/-- The user has to decide whether to wait for the box, to create another one or to cancel. -/
def IpOperation.awaitsDecision (o : IpOperation) : Bool :=
  o.status == .done && o.actionState == .sshUnreachable

/-- The deletion of the boxes that are left, after the user's review. -/
def IpOperation.cleaning (o : IpOperation) : Bool :=
  o.actionState == .cleanupQueued || o.actionState == .cleanupRunning

namespace Db

def OnHold (db : Db) (id : Nat) : Prop := ∃ o, db.findIp id = some o ∧ onHold o = true

def AwaitsDecision (db : Db) (id : Nat) : Prop := ∃ o, db.findIp id = some o ∧ o.awaitsDecision = true

end Db

/-- An update that the cleanup makes. -/
def IpPatch.cleans (p : IpPatch) : Prop :=
  p.actionState = none ∧ p.status.all (· == .running) ∨
    p.status = some .done ∧ ∃ s ∈ [ActionState.cleanupAmbiguous, .cleanupRejected, .done],
      p.actionState = some s

/-- The operation whose row a run writes by its number alone. -/
def Transaction.writer : Transaction → Option LeaseOwner
  | .updateInstall id _ _ => some ⟨.install, id⟩
  | .updateIp id _ _ => some ⟨.ipChange, id⟩
  | .updateServer id _ _ => some ⟨.server, id⟩
  | .publish id _ _ => some ⟨.ipChange, id⟩
  | .claimPurchase id => some ⟨.ipChange, id⟩
  | _ => none

/-- The lease is not taken from an IP operation that has acted or waits for SSH. -/
def TakesNothingOver (db : Db) : Prop :=
  ∀ id o, db.holdsLease ⟨.ipChange, id⟩ = true → db.findIp id = some o → o.status.terminal = false →
    o.waitsForSsh = false ∧ o.started = false

/-- What the runs write: each while its operation holds the lease, the cleanup what it writes;
and no operation is created over another one that has acted. -/
structure RunWrites (db : Db) (_ : Tenures) (t : Transaction) (_ : Db) : Prop where
  owned : ∀ x, t.writer = some x → db.holdsLease x = true ∨ db.statusOf x = none
  cleans : ∀ id o, t.writer = some ⟨.ipChange, id⟩ → db.findIp id = some o → o.cleaning = true →
    ∃ p now, t = .updateIp id p now ∧ p.cleans
  created : ∀ decision now, t = .prepareIpChange decision now → TakesNothingOver db

variable {env : Environment} {e : RebootEnvironment} {start db db' : Db} {g : Tenures}
  {t : Transaction}

theorem RunWrites.fenced (h : RunWrites db g t db') : Fenced db t := by
  intro x hx
  refine h.owned x ?_
  cases t with
  | updateInstall | updateIp | updateServer =>
    simp only [Transaction.revives] at hx
    split at hx
    · exact hx
    · cases hx
  | publish => exact hx
  | _ => cases hx

/-! What a transaction does to the row of an IP operation. -/

/-- The row that another operation's admission leaves. -/
def takenOver (db : Db) (id : Nat) (o : IpOperation) : IpOperation :=
  if db.holdsLease ⟨.ipChange, id⟩ then o.interrupt expiredReason else o

/-- The row of an IP operation before and after a transaction. -/
inductive IpMove (db : Db) (t : Transaction) (id : Nat) :
    Option IpOperation → Option IpOperation → Prop
  | same (row : Option IpOperation) : IpMove db t id row row
  | interrupted (o : IpOperation) (reason : String) :
    IpMove db t id (some o) (some (o.interrupt reason))
  | written (o o' : IpOperation) (hw : t.writer = some ⟨.ipChange, id⟩)
    (hp : ∀ p now, t = .updateIp id p now → o' = p.apply o) : IpMove db t id (some o) (some o')
  | cleaned (o o' : IpOperation) (ht : o.status = .pending) (hs : o.cleaning = true)
    (hs' : o'.status = .running) (hc : o'.cleaning = true) : IpMove db t id (some o) (some o')
  | waited (o o' : IpOperation) (ht : o.status = .pending) (hs : o.actionState = .sshWaitQueued) :
    IpMove db t id (some o) (some o')
  | decided (o o' : IpOperation) (hd : o.awaitsDecision = true) :
    IpMove db t id (some o) (some o')
  | reviewed (o o' : IpOperation) (hd : o.status = .done) (hs : o.actionState = .awaitingUserReview)
    (hn : o'.status = .done ∧ o'.actionState = .retryRequested ∨ o'.cleaning = true) :
    IpMove db t id (some o) (some o')
  | reconciled (o o' : IpOperation) (note : String) (ht : t = .reconcile id note)
    (hn : o'.actionState = .reconciled) (hs : o'.status = o.status)
    (hd : o.status.terminal = true) : IpMove db t id (some o) (some o')
  | created (decision : Db.IpDecision) (now : Nat) (row : IpOperation)
    (ht : t = .prepareIpChange decision now) (hi : id = db.ipSequence + 1) :
    IpMove db t id none (some row)
  | erased (row : Option IpOperation) (ht : t = .reset) : IpMove db t id row none

theorem terminal_interrupt {o : IpOperation} (h : o.status.terminal = true) (reason : String) :
    o.interrupt reason = o := by simp [IpOperation.interrupt, h]

theorem findIp_failOwner (db : Db) (owner : LeaseOwner) (reason : String) (id : Nat) :
    (db.failOwner owner reason).findIp id = (db.findIp id).map fun o =>
      if owner = ⟨.ipChange, id⟩ then o.interrupt reason else o := by
  obtain ⟨type, n⟩ := owner
  cases type with
  | install =>
    simp only [LeaseOwner.mk.injEq, reduceCtorEq, false_and, if_false, Option.map_id']
    unfold failOwner
    dsimp only
    split <;> rfl
  | server =>
    simp only [LeaseOwner.mk.injEq, reduceCtorEq, false_and, if_false, Option.map_id']
    rfl
  | ipChange =>
    refine (findIp_updateIp db n (interrupt_ip_id reason) id).trans ?_
    cases hrow : db.findIp id with
    | none => rfl
    | some o =>
      rw [Option.map_some, Option.map_some, id_of_findIp hrow]
      by_cases hid : id = n
      · simp [hid]
      · simp [hid, Ne.symm hid]

theorem interrupt_interrupt (reason : String) (o : IpOperation) :
    (o.interrupt reason).interrupt reason = o.interrupt reason := by
  refine terminal_interrupt ?_ reason
  unfold IpOperation.interrupt
  split
  · assumption
  split
  · rfl
  split <;> rfl

theorem findIp_failOwners (type : OwnerType) (reason : String) (ids : List Nat) (db : Db) (id : Nat) :
    (ids.foldl (fun db n => db.failOwner ⟨type, n⟩ reason) db).findIp id = (db.findIp id).map fun o =>
      if type = .ipChange ∧ id ∈ ids then o.interrupt reason else o := by
  induction ids generalizing db with
  | nil => simp
  | cons n ids ih =>
    rw [List.foldl_cons, ih, findIp_failOwner, Option.map_map]
    congr 1
    funext o
    by_cases ht : type = .ipChange
    · by_cases hid : id = n
      · simp [ht, hid, interrupt_interrupt]
      · simp [ht, hid, Ne.symm hid]
    · simp [ht]

theorem findIp_acquire {owner : LeaseOwner} {now : Nat}
    (h : db.acquireVpsLease owner now = .ok db') (id : Nat) :
    db'.findIp id = (db.findIp id).map (takenOver db id) := by
  unfold acquireVpsLease at h
  split at h
  · rename_i hl
    cases h
    have hsame : takenOver db id = fun o => o := by
      funext o
      simp [takenOver, holdsLease, hl]
    rw [hsame, Option.map_id']
    rfl
  · rename_i l hl
    split at h
    · cases h
    · cases h
      refine (findIp_failOwner db l.owner expiredReason id).trans ?_
      congr 1
      funext o
      simp [takenOver, holdsLease, hl]

/-- What an IP operation that is created has passed. -/
structure MayChange (env : Environment) (db : Db) (decision : Db.IpDecision) : Prop where
  one : decision.review = none ∨ decision.ssh = none
  ssh : ∀ id, decision.ssh = some id → ∃ row, db.validateSshDecision env id false = .ok row
  awaits : ∀ o ∈ db.ipOperations, awaitsSshDecision (decision.ssh.getD 0) o = false
  review : ∀ id, decision.review = some id → ∃ row, db.validateReview env id = .ok row
  holds : ∀ o ∈ db.ipOperations, onHold o = false

theorem guard_ok {p : Prop} [Decidable p] {x y : Except String Unit}
    (h : (if p then y else x) = .ok ()) (hy : y ≠ .ok ()) : ¬ p ∧ x = .ok () := by
  split at h
  · exact absurd h hy
  · exact ⟨‹_›, h⟩

theorem all_false {p : IpOperation → Bool} (h : ¬ ∃ x, x ∈ db.ipOperations ∧ p x = true) :
    ∀ o ∈ db.ipOperations, p o = false := by
  intro o ho
  rw [Bool.eq_false_iff]
  exact fun hp => h ⟨o, ho, hp⟩

theorem mayChangeIp_ok {decision : Db.IpDecision} (h : db.mayChangeIp env decision = .ok ()) :
    MayChange env db decision := by
  obtain ⟨review, ssh⟩ := decision
  cases ssh with
  | none =>
    cases review with
    | none =>
      simp [mayChangeIp] at h
      obtain ⟨hawaits, h⟩ := guard_ok h nofun
      obtain ⟨hholds, -⟩ := guard_ok h nofun
      exact ⟨.inl rfl, nofun, all_false hawaits, nofun, all_false hholds⟩
    | some r =>
      simp [mayChangeIp] at h
      obtain ⟨hawaits, h⟩ := guard_ok h nofun
      obtain ⟨row, hrow, h⟩ := except_bind_eq_ok.1 h
      obtain ⟨hholds, -⟩ := guard_ok h nofun
      refine ⟨.inr rfl, nofun, all_false hawaits, fun id hid => ?_, all_false hholds⟩
      cases hid
      exact ⟨row, hrow⟩
  | some s =>
    cases review with
    | none =>
      simp [mayChangeIp] at h
      obtain ⟨row, hrow, h⟩ := except_bind_eq_ok.1 h
      obtain ⟨hawaits, h⟩ := guard_ok h nofun
      obtain ⟨hholds, -⟩ := guard_ok h nofun
      refine ⟨.inl rfl, fun id hid => ?_, all_false hawaits, nofun, all_false hholds⟩
      cases hid
      exact ⟨row, hrow⟩
    | some r =>
      simp [mayChangeIp] at h
      obtain ⟨-, h, -⟩ := except_bind_eq_ok.1 h
      cases h

theorem findIp_of_same (h : db.SameOperations db') (id : Nat) : db'.findIp id = db.findIp id :=
  findIp_of_eq h.ip id

/-- The row that a retry leaves of the operation whose decision it answers. -/
def retried (decision : Db.IpDecision) (id : Nat) (o : IpOperation) : IpOperation :=
  if decision.ssh = some id ∨ decision.review = some id then
    { o with actionState := .retryRequested }
  else o

theorem findIp_requestRetry (db : Db) (previous id : Nat) :
    (db.requestRetry previous).findIp id = (db.findIp id).map fun o =>
      if id = previous then { o with actionState := .retryRequested } else o := by
  refine (findIp_updateIp db previous
    (f := fun o => { o with actionState := .retryRequested }) (fun _ => rfl) id).trans ?_
  cases hrow : db.findIp id with
  | none => rfl
  | some o =>
    rw [Option.map_some, Option.map_some, id_of_findIp hrow]
    simp

theorem findIp_prepareIpChange {decision : Db.IpDecision} {now : Nat} (hn : Numbered db)
    (h : db.prepareIpChangeOperation env decision now = .ok db') :
    MayChange env db decision ∧ (∃ row, db'.findIp (db.ipSequence + 1) = some row) ∧
      ∀ id, id ≠ db.ipSequence + 1 →
        db'.findIp id = (db.findIp id).map fun o => retried decision id (takenOver db id o) := by
  obtain ⟨⟨⟩, hmay, h⟩ := except_bind_eq_ok.1 h
  obtain ⟨⟨config, payload, sha256⟩, -, h⟩ := except_bind_eq_ok.1 h
  obtain ⟨mid, he, h⟩ := except_bind_eq_ok.1 h
  obtain ⟨leased, hl, h⟩ := except_bind_eq_ok.1 h
  obtain ⟨bound, hb, h⟩ := except_bind_eq_ok.1 h
  have hchange := mayChangeIp_ok hmay
  have hm := ensureSnapshot_same he
  have hbound (id : Nat) : bound.findIp id = leased.findIp id :=
    findIp_of_same (bindProvider_same hb) id
  have hretry (id : Nat) : db'.findIp id = (leased.findIp id).map (retried decision id) := by
    cases h
    obtain ⟨review, ssh⟩ := decision
    cases ssh with
    | none =>
      cases review with
      | none =>
        show bound.findIp id = _
        rw [hbound, show retried ⟨none, none⟩ id = fun o => o from rfl, Option.map_id']
      | some r =>
        show (bound.requestRetry r).findIp id = _
        rw [findIp_requestRetry, hbound]
        congr 1
        funext o
        simp [retried, eq_comm]
    | some s =>
      cases review with
      | none =>
        refine (findIp_requestRetry _ s id).trans ?_
        show Option.map _ (bound.findIp id) = _
        rw [hbound]
        congr 1
        funext o
        simp [retried, eq_comm]
      | some r => rcases hchange.one with h | h <;> cases h
  have hleased (id : Nat) (hid : id ≠ db.ipSequence + 1) :
      leased.findIp id = (db.findIp id).map (takenOver db id) := by
    rw [findIp_acquire hl id]
    have hholds : takenOver { mid with
        ipOperations := mid.ipOperations ++ [newIpOperation (mid.ipSequence + 1) config.revision]
        ipSequence := mid.ipSequence + 1 } id = takenOver db id := by
      unfold takenOver holdsLease
      rw [← hm.lease]
    rw [hholds]
    congr 1
    show List.find? _ (mid.ipOperations ++ _) = _
    have hlast : ([newIpOperation (mid.ipSequence + 1) config.revision].find? fun o => o.id == id) =
        none := by
      simp [newIpOperation, hm.ipSequence, Ne.symm hid]
    rw [List.find?_append, hlast, Option.or_none, hm.ip]
    rfl
  refine ⟨hchange, ?_, fun id hid => ?_⟩
  · have hrow : ∃ row, leased.findIp (db.ipSequence + 1) = some row := by
      rw [findIp_acquire hl]
      refine ⟨_, congrArg (Option.map _)
        (?_ : _ = some (newIpOperation (mid.ipSequence + 1) config.revision))⟩
      show List.find? _ (mid.ipOperations ++ _) = _
      rw [hm.ip, hm.ipSequence, List.find?_append, List.find?_eq_none.mpr fun o ho hid => ?_]
      · simp [newIpOperation]
      · have hle := hn.ip o ho
        rw [beq_iff_eq.mp hid] at hle
        exact absurd hle (by omega)
    obtain ⟨row, hrow⟩ := hrow
    exact ⟨_, by rw [hretry, hrow]; rfl⟩
  · rw [hretry, hleased id hid, Option.map_map]
    rfl

theorem ipMove_of_eq {id : Nat} (h : db'.findIp id = db.findIp id) :
    IpMove db t id (db.findIp id) (db'.findIp id) := by
  rw [h]
  exact .same _

theorem ipMove_map {id : Nat} {f : IpOperation → IpOperation}
    (h : db'.findIp id = (db.findIp id).map f)
    (hf : ∀ o, db.findIp id = some o → IpMove db t id (some o) (some (f o))) :
    IpMove db t id (db.findIp id) (db'.findIp id) := by
  rw [h]
  cases hrow : db.findIp id with
  | none => exact .same none
  | some o => exact hf o hrow

theorem ipMove_takenOver {id : Nat} (o : IpOperation) :
    IpMove db t id (some o) (some (takenOver db id o)) := by
  unfold takenOver
  split
  · exact .interrupted o expiredReason
  · exact .same _

theorem ipMove_update {id target : Nat} {f : IpOperation → IpOperation} (hf : ∀ o, (f o).id = o.id)
    (hmove : ∀ o, db.findIp target = some o → IpMove db t target (some o) (some (f o))) :
    IpMove db t id (db.findIp id) ((db.updateIp target f).findIp id) := by
  rw [findIp_updateIp db target hf]
  cases hrow : db.findIp id with
  | none => exact .same none
  | some o =>
    rw [Option.map_some, id_of_findIp hrow]
    by_cases hid : id = target
    · subst hid
      rw [if_pos (by simp)]
      exact hmove o hrow
    · rw [if_neg (by simpa using hid)]
      exact .same _

theorem findIp_insertServer {row : ServerOperation} {n now : Nat}
    (h : { db with serverOperations := db.serverOperations ++ [row]
                   serverSequence := n }.acquireVpsLease ⟨.server, n⟩ now = .ok db') (id : Nat) :
    db'.findIp id = (db.findIp id).map (takenOver db id) :=
  findIp_acquire h id

theorem findIp_prepareInstall {targetHost : String} {now : Nat}
    (h : db.prepareInstallOperation env targetHost now = .ok db') (id : Nat) :
    db'.findIp id = (db.findIp id).map (takenOver db id) := by
  obtain ⟨⟨config, payload, sha256⟩, -, h⟩ := except_bind_eq_ok.1 h
  obtain ⟨mid, he, h⟩ := except_bind_eq_ok.1 h
  have hm := ensureSnapshot_same he
  refine (findIp_acquire h id).trans ?_
  show Option.map _ (mid.findIp id) = _
  rw [findIp_of_same hm]
  congr 1
  unfold takenOver holdsLease
  rw [← hm.lease]

theorem ipMove_readmit {leased : Db} {id target now : Nat} {f : IpOperation → IpOperation}
    {row : IpOperation} (h : db.acquireVpsLease ⟨.ipChange, target⟩ now = .ok leased)
    (hrow : db.findIp target = some row) (hended : row.status.terminal = true)
    (hf : ∀ o, (f o).id = o.id) (hmove : IpMove db t target (some row) (some (f row))) :
    IpMove db t id (db.findIp id) ((leased.updateIp target f).findIp id) := by
  rw [findIp_updateIp leased target hf, findIp_acquire h]
  cases ho : db.findIp id with
  | none => exact .same none
  | some o =>
    have hid := id_of_findIp ho
    have hkept : (takenOver db id o).id = id := by
      unfold takenOver
      split
      · rw [interrupt_ip_id, hid]
      · exact hid
    rw [Option.map_some, Option.map_some, hkept]
    by_cases he : id = target
    · subst he
      obtain rfl : o = row := Option.some.inj (ho.symm.trans hrow)
      have hsame : takenOver db id o = o := by
        unfold takenOver
        rw [terminal_interrupt hended, ite_self]
      rw [if_pos (by simp), hsame]
      exact hmove
    · rw [if_neg (by simpa using he)]
      exact ipMove_takenOver o

theorem findIp_recover (db : Db) (reason : String) (id : Nat) :
    ∃ b : Bool, (db.recoverIncompleteVpsOperations reason).findIp id =
      (db.findIp id).map fun o => if b then o.interrupt reason else o := by
  refine ⟨decide (id ∈ activeIds (·.status) (·.id) ((activeIds (·.status) (·.id)
    db.installOperations).foldl (fun db id => db.failOwner ⟨.install, id⟩ reason) db).ipOperations), ?_⟩
  refine (findIp_failOwners .server reason _ _ id).trans ?_
  rw [findIp_failOwners .ipChange, findIp_failOwners .install, Option.map_map, Option.map_map]
  congr 1
  funext o
  simp

theorem publish_ipMove {target id now : Nat} {p : IpPublication}
    (h : db.publishIpChange env target p = .ok db') :
    IpMove db (.publish target p now) id (db.findIp id) (db'.findIp id) := by
  obtain ⟨row, snapshot, bound, -, -, -, -, -, rfl⟩ := publishIpChange_ok h
  let publish : IpOperation → IpOperation := fun o => { o with
    status := .running, currentStep := "delete_old_ipv4", actionState := .published,
    publishedRevision := some (db.desiredRevision + 1), publishedAt := some p.timestamp,
    healthcheckResult := some p.healthcheckResult }
  have hs := same_publishedStore env db bound db.desiredRevision p
  have hrows : ((db.publishedStore env bound db.desiredRevision p).purgeAppliedDeletedClients.updateIp
      target publish).findIp id = (db.updateIp target publish).findIp id := by
    refine findIp_of_eq ?_ id
    show List.map _ _ = List.map _ _
    rw [hs.ip]
  rw [hrows]
  exact ipMove_update (fun _ => rfl) fun o _ => .written o (publish o) rfl (fun _ _ h => by cases h)

theorem findIp_completeInstall {target : Nat} {output : String}
    (h : db.completeInstallOperation target output = .ok db') (id : Nat) :
    db'.findIp id = db.findIp id := by
  unfold completeInstallOperation at h
  split at h
  · cases h
  · rename_i revision _
    split at h
    · cases h
    · cases h
      let marked : Db := { db.updateSnapshot revision VpnSnapshot.apply with
        appliedRevision := some (newerRevision db.appliedRevision revision) }
      exact findIp_of_eq (same_purge marked).ip id

theorem findIp_failInstallSnapshot (db : Db) (target id : Nat)
    (f : InstallOperation → InstallOperation) :
    (((db.failInstallSnapshot target).updateInstall target f).releaseVpsLease
      ⟨.install, target⟩).findIp id = db.findIp id :=
  findIp_of_eq (same_failInstallSnapshot db target).ip id

theorem cancelSshWait_ipMove {target id : Nat} {warning : String}
    (h : db.cancelSshWait target warning = .ok db') :
    IpMove db (.cancelSshWait target warning) id (db.findIp id) (db'.findIp id) := by
  unfold cancelSshWait at h
  split at h
  · cases h
  · rename_i row hrow
    split at h
    · cases h
    · rename_i hstate
      cases h
      refine ipMove_update (fun _ => rfl) fun o ho => .decided o _ ?_
      obtain rfl : o = row := Option.some.inj (ho.symm.trans hrow)
      simpa [IpOperation.awaitsDecision] using hstate

theorem reconcile_ipMove {target id : Nat} {note : String}
    (h : db.reconcileIpOperation target note = .ok db') :
    IpMove db (.reconcile target note) id (db.findIp id) (db'.findIp id) := by
  unfold reconcileIpOperation at h
  split at h
  · cases h
  rename_i row hrow
  split at h
  · cases h
  rename_i hended
  split at h
  · cases h
  cases h
  refine ipMove_update (fun _ => rfl) fun o ho => .reconciled o _ note rfl rfl rfl ?_
  obtain rfl : o = row := Option.some.inj (ho.symm.trans hrow)
  simpa using hended

/-- Every transaction does one of the moves to the row of an IP operation. -/
theorem commits_ipMove (hn : Numbered db) (hc : Commits env e db t db') (id : Nat) :
    IpMove db t id (db.findIp id) (db'.findIp id) := by
  cases t with
  | prepareInstall => exact ipMove_map (findIp_prepareInstall hc id) fun o _ => ipMove_takenOver o
  | createServer => exact ipMove_map (findIp_insertServer hc id) fun o _ => ipMove_takenOver o
  | createProtocolRefresh =>
    exact ipMove_map (findIp_insertServer hc id) fun o _ => ipMove_takenOver o
  | prepareIpChange decision now =>
    obtain ⟨hchange, ⟨row, hrow⟩, hothers⟩ := findIp_prepareIpChange hn hc
    by_cases hid : id = db.ipSequence + 1
    · have hnone : db.findIp id = none := by
        refine List.find?_eq_none.mpr fun o ho he => ?_
        have hle := hn.ip o ho
        rw [beq_iff_eq.mp he] at hle
        omega
      rw [hnone, hid, hrow]
      exact .created decision now row rfl rfl
    · refine ipMove_map (hothers id hid) fun o ho => ?_
      unfold retried
      split
      · rename_i hd
        have hsame (he : o.status.terminal = true) : takenOver db id o = o := by
          unfold takenOver
          rw [terminal_interrupt he, ite_self]
        rcases hd with hd | hd
        · obtain ⟨row, hrow⟩ := hchange.ssh id hd
          obtain ⟨hfound, hstate⟩ := validateSshDecision_row hrow
          obtain rfl : o = row := Option.some.inj (ho.symm.trans hfound)
          obtain ⟨hstatus, haction⟩ := Prod.mk.inj hstate
          exact .decided o _ (by simp [IpOperation.awaitsDecision, hstatus, haction])
        · obtain ⟨row, hrow⟩ := hchange.review id hd
          obtain ⟨hfound, hstatus, haction⟩ := validateReview_row hrow
          obtain rfl : o = row := Option.some.inj (ho.symm.trans hfound)
          rw [hsame (by rw [hstatus]; rfl)]
          exact .reviewed o _ hstatus haction (.inl ⟨hstatus, rfl⟩)
      · exact ipMove_takenOver o
  | prepareCleanup target now =>
    obtain ⟨row, hrow, hc⟩ := except_bind_eq_ok.1 hc
    obtain ⟨leased, hl, hc⟩ := except_bind_eq_ok.1 hc
    cases hc
    obtain ⟨hfound, hstatus, haction⟩ := validateReview_row hrow
    exact ipMove_readmit hl hfound (by rw [hstatus]; rfl) (fun _ => rfl)
      (.reviewed row _ hstatus haction (.inr rfl))
  | prepareSshWait target now =>
    obtain ⟨row, hrow, hc⟩ := except_bind_eq_ok.1 hc
    obtain ⟨leased, hl, hc⟩ := except_bind_eq_ok.1 hc
    cases hc
    obtain ⟨hfound, hstate⟩ := validateSshDecision_row hrow
    obtain ⟨hstatus, haction⟩ := Prod.mk.inj hstate
    exact ipMove_readmit hl hfound (by rw [hstatus]; rfl) (fun _ => rfl)
      (.decided row _ (by simp [IpOperation.awaitsDecision, hstatus, haction]))
  | updateInstall target p now =>
    rw [show db' = _ from hc]
    refine ipMove_of_eq ?_
    unfold updateInstallOperation
    dsimp only
    split <;> rfl
  | updateServer target p now =>
    rw [show db' = _ from hc]
    refine ipMove_of_eq ?_
    unfold updateServerOperation
    dsimp only
    split <;> rfl
  | updateIp target p now =>
    have hrows : db'.findIp id = (db.updateIp target p.apply).findIp id := by
      rw [show db' = _ from hc]
      unfold updateOperation
      dsimp only
      split <;> rfl
    rw [hrows]
    refine ipMove_update (fun _ => rfl) fun o _ => .written o _ rfl ?_
    intro p' now' ht
    obtain ⟨-, rfl, -⟩ := Transaction.updateIp.inj ht
    rfl
  | heartbeatInstall target now =>
    rw [show db' = _ from hc]
    refine ipMove_of_eq ?_
    unfold heartbeatInstallOperation
    split <;> rfl
  | markRebootSending target now =>
    rw [show db' = _ from hc]
    refine ipMove_of_eq ?_
    unfold markRebootSending
    split <;> rfl
  | claimPurchase target =>
    rw [show db' = _ from hc]
    unfold claimPurchase
    split
    · exact ipMove_update (fun _ => rfl) fun o _ => .written o _ rfl (fun _ _ h => by cases h)
    · exact .same _
  | claimCleanup target =>
    rw [show db' = _ from hc]
    unfold claimCleanup
    split
    · rename_i hrow
      refine ipMove_update (fun _ => rfl) fun o ho => ?_
      rw [ho] at hrow
      simp only [Option.any_some, cleanable, Bool.and_eq_true, beq_iff_eq] at hrow
      exact .cleaned o _ hrow.1 (by simp [IpOperation.cleaning, hrow.2]) rfl rfl
    · exact .same _
  | resumeSshWait target =>
    rw [show db' = _ from hc]
    unfold Db.resumeSshWait
    split
    · rename_i hrow
      have hqueued (o : IpOperation) (ho : db.findIp target = some o) :
          o.status = .pending ∧ o.actionState = .sshWaitQueued := by
        rw [ho] at hrow
        simpa [resumable] using hrow
      split
      · exact ipMove_update (fun _ => rfl) fun o ho =>
          .waited o _ (hqueued o ho).1 (hqueued o ho).2
      · exact ipMove_update (fun _ => rfl) fun o ho =>
          .waited o _ (hqueued o ho).1 (hqueued o ho).2
    · exact .same _
  | publish target p now => exact publish_ipMove hc
  | completeInstall target output now => exact ipMove_of_eq (findIp_completeInstall hc id)
  | failInstall target message =>
    rw [show db' = _ from hc]
    exact ipMove_of_eq (findIp_failInstallSnapshot db target id _)
  | markInstallAmbiguous target message =>
    rw [show db' = _ from hc]
    exact ipMove_of_eq (findIp_failInstallSnapshot db target id _)
  | cancelSshWait target warning => exact cancelSshWait_ipMove hc
  | reconcile target note => exact reconcile_ipMove hc
  | recover reason =>
    rw [show db' = _ from hc]
    obtain ⟨b, hb⟩ := findIp_recover db reason id
    refine ipMove_map hb fun o _ => ?_
    split
    · exact .interrupted o reason
    · exact .same _
  | reset =>
    have hnone : db'.findIp id = none := by
      rw [findIp, hc.2.2.1]
      rfl
    rw [hnone]
    exact .erased _ rfl
  | other => exact ipMove_of_eq (findIp_of_same hc id)

/-! Histories. -/

theorem findIp_zero {P : Db → Tenures → Transaction → Db → Prop} (h : History env e P start db g)
    (h0 : Unused start) : db.findIp 0 = none := by
  induction h with
  | start => rw [findIp, h0.ip]; rfl
  | commit h _ hc ih =>
    have hmove := commits_ipMove (h.numbered h0) hc 0
    rw [ih] at hmove
    generalize Db.findIp _ 0 = row at hmove
    cases hmove with
    | same | erased => rfl
    | created decision now row ht hi => exact absurd hi (Nat.succ_ne_zero _).symm

theorem holdsLease_active (ht : db.leasing.Tenured g) {id : Nat} {o : IpOperation}
    (hrow : db.findIp id = some o) (hl : db.holdsLease ⟨.ipChange, id⟩ = true) :
    o.status.terminal = false := by
  obtain ⟨u, hu⟩ := holdsLease_iff.mp hl
  obtain ⟨s, hs, hactive⟩ := active_iff.mpr (holder_active ht hu)
  have he : some o.status = some s := by
    rw [← hs]
    show _ = (db.findIp id).map (·.status)
    rw [hrow]
    rfl
  rw [Option.some.inj he]
  exact hactive

/-- Without a takeover from an operation that has acted, a new operation is the only one that
may be in doubt. -/
theorem created_clear {decision : Db.IpDecision} {now : Nat} (hn : Numbered db)
    (hz : db.findIp 0 = none) (ht : TakesNothingOver db)
    (h : db.prepareIpChangeOperation env decision now = .ok db') {id : Nat}
    (hid : id ≠ db.ipSequence + 1) : ¬ db'.OnHold id ∧ ¬ db'.AwaitsDecision id := by
  obtain ⟨hchange, -, hothers⟩ := findIp_prepareIpChange hn h
  cases hrow : db.findIp id with
  | none =>
    have hnone : db'.findIp id = none := by rw [hothers id hid, hrow]; rfl
    refine ⟨?_, ?_⟩
    · rintro ⟨o, ho, -⟩
      exact nomatch hnone.symm.trans ho
    · rintro ⟨o, ho, -⟩
      exact nomatch hnone.symm.trans ho
  | some o =>
    have hmem := List.mem_of_find?_eq_some hrow
    have hhold := hchange.holds o hmem
    have hawaits := hchange.awaits o hmem
    have hrow' : db'.findIp id = some (retried decision id (takenOver db id o)) := by
      rw [hothers id hid, hrow]
      rfl
    have htaken : takenOver db id o = o ∨ (takenOver db id o).status = .failed ∧
        (takenOver db id o).actionState = .notStarted := by
      unfold takenOver
      split
      · rename_i hl
        by_cases hended : o.status.terminal = true
        · exact .inl (terminal_interrupt hended expiredReason)
        · obtain ⟨hwaits, hstarted⟩ := ht id o hl hrow (by simpa using hended)
          exact .inr (by simp [IpOperation.interrupt, hended, hwaits, hstarted])
      · exact .inl rfl
    have hnot0 : id ≠ 0 := by
      rintro rfl
      rw [hz] at hrow
      cases hrow
    have hclear : onHold (retried decision id (takenOver db id o)) = false ∧
        (retried decision id (takenOver db id o)).awaitsDecision = false := by
      rcases htaken with hsame | ⟨hstatus, haction⟩
      · rw [hsame]
        unfold retried
        split
        · refine ⟨?_, by simp [IpOperation.awaitsDecision]⟩
          rename_i hd
          have hdone : o.status = .done := by
            rcases hd with hd | hd
            · obtain ⟨row, hfound⟩ := hchange.ssh id hd
              obtain ⟨hf, hstate⟩ := validateSshDecision_row hfound
              obtain rfl : o = row := Option.some.inj (hrow.symm.trans hf)
              exact (Prod.mk.inj hstate).1
            · obtain ⟨row, hfound⟩ := hchange.review id hd
              obtain ⟨hf, hstatus, -⟩ := validateReview_row hfound
              obtain rfl : o = row := Option.some.inj (hrow.symm.trans hf)
              exact hstatus
          simp [onHold, hdone]
        · rename_i hd
          refine ⟨hhold, ?_⟩
          have hexcept : o.id ≠ decision.ssh.getD 0 := by
            rw [id_of_findIp hrow]
            intro he
            cases hs : decision.ssh with
            | none =>
              rw [hs] at he
              exact hnot0 he
            | some n =>
              rw [hs] at he
              exact hd (.inl (by rw [hs, he]; rfl))
          simpa [awaitsSshDecision, IpOperation.awaitsDecision, hexcept] using hawaits
      · unfold retried
        split
        · simp [onHold, IpOperation.awaitsDecision, hstatus]
        · simp [onHold, IpOperation.awaitsDecision, hstatus, haction]
    refine ⟨?_, ?_⟩
    · rintro ⟨o', ho', hp⟩
      rw [← Option.some.inj (hrow'.symm.trans ho'), hclear.1] at hp
      cases hp
    · rintro ⟨o', ho', hp⟩
      rw [← Option.some.inj (hrow'.symm.trans ho'), hclear.2] at hp
      cases hp

/-- The operation awaits a decision, or may come to it. -/
def IpOperation.engaged (o : IpOperation) : Bool :=
  o.awaitsDecision || !o.status.terminal && !o.cleaning

namespace Db

def Engaged (db : Db) (id : Nat) : Prop := ∃ o, db.findIp id = some o ∧ o.engaged = true

end Db

theorem engaged_interrupt {o : IpOperation} {reason : String}
    (h : (o.interrupt reason).engaged = true) : o.engaged = true := by
  unfold IpOperation.interrupt at h
  split at h
  · exact h
  rename_i hactive
  split at h
  · rename_i hwaits
    simp only [IpOperation.waitsForSsh, Bool.and_eq_true, Bool.or_eq_true, beq_iff_eq] at hwaits
    have hcleaning : o.cleaning = false := by
      rcases hwaits.1.1.1.1.1 with hs | hs <;> simp [IpOperation.cleaning, hs]
    simp [IpOperation.engaged, hcleaning, hactive]
  split at h <;> simp [IpOperation.engaged, IpOperation.awaitsDecision, Status.terminal] at h

theorem engaged_cleans {o : IpOperation} {p : IpPatch} (hc : o.cleaning = true)
    (hp : p.cleans) : (p.apply o).engaged = false := by
  rcases hp with ⟨haction, hstatus⟩ | ⟨hstatus, s, hs, haction⟩
  · have hclean : (p.apply o).cleaning = true := by
      simpa [IpPatch.apply, IpOperation.cleaning, haction] using hc
    have hnot : (p.apply o).awaitsDecision = false := by
      rw [Bool.eq_false_iff]
      intro ha
      simp only [IpOperation.awaitsDecision, IpOperation.cleaning, Bool.and_eq_true, Bool.or_eq_true,
        beq_iff_eq] at ha hclean
      rcases hclean with hs | hs <;> rw [ha.2] at hs <;> cases hs
    simp [IpOperation.engaged, hclean, hnot]
  · have hdone : (p.apply o).status = .done := by simp [IpPatch.apply, hstatus]
    have hs' : (p.apply o).actionState = s := by simp [IpPatch.apply, haction]
    have hne : s ≠ .sshUnreachable := by
      rintro rfl
      simp at hs
    simp [IpOperation.engaged, IpOperation.awaitsDecision, hdone, hs', hne, Status.terminal]

theorem engaged_before (hn : Numbered db) (ht : db.leasing.Tenured g) (hp : RunWrites db g t db')
    (hc : Commits env e db t db') {id : Nat} (h : db'.Engaged id) :
    db.Engaged id ∨ ∃ decision now, t = .prepareIpChange decision now ∧ id = db.ipSequence + 1 := by
  obtain ⟨o', ho', hengaged⟩ := h
  have hmove := commits_ipMove hn hc id
  rw [ho'] at hmove
  cases hrow : db.findIp id with
  | none =>
    rw [hrow] at hmove
    cases hmove with
    | created decision now row ht' hi => exact .inr ⟨decision, now, ht', hi⟩
  | some o =>
    rw [hrow] at hmove
    refine .inl ⟨o, hrow, ?_⟩
    cases hmove with
    | same => exact hengaged
    | interrupted _ reason => exact engaged_interrupt hengaged
    | written _ _ hw hpatch =>
      by_contra hnot
      have hholds : db.holdsLease ⟨.ipChange, id⟩ = true := by
        refine (hp.owned _ hw).resolve_right fun habsent => ?_
        change (db.findIp id).map (·.status) = none at habsent
        rw [hrow] at habsent
        cases habsent
      have hactive := holdsLease_active ht hrow hholds
      have hcleaning : o.cleaning = true := by
        by_contra hnc
        exact hnot (by simp [IpOperation.engaged, hactive, hnc])
      obtain ⟨p, now, hupdate, hcleans⟩ := hp.cleans id o hw hrow hcleaning
      rw [hpatch p now hupdate, engaged_cleans hcleaning hcleans] at hengaged
      cases hengaged
    | cleaned _ _ hs hcl hs' hc' =>
      simp [IpOperation.engaged, IpOperation.awaitsDecision, hs', hc', Status.terminal] at hengaged
    | waited _ _ hs ha =>
      simp [IpOperation.engaged, IpOperation.cleaning, hs, ha, Status.terminal]
    | decided _ _ hd => simp [IpOperation.engaged, hd]
    | reviewed _ _ hd hs hor =>
      exfalso
      rcases hor with ⟨hdone, haction⟩ | hclean
      · simp [IpOperation.engaged, IpOperation.awaitsDecision, hdone, haction, Status.terminal]
          at hengaged
      · have hne : o'.actionState ≠ .sshUnreachable := by
          rintro he
          simp [IpOperation.cleaning, he] at hclean
        simp [IpOperation.engaged, IpOperation.awaitsDecision, hne, hclean] at hengaged
    | reconciled _ _ note ht' ha hs hd =>
      simp [IpOperation.engaged, IpOperation.awaitsDecision, ha, hs, hd] at hengaged

theorem History.engaged_one (h : History env e RunWrites start db g) (h0 : Unused start) :
    ∀ id id', db.Engaged id → db.Engaged id' → id = id' := by
  have hexclusive {db : Db} {g : Tenures} (h : History env e RunWrites start db g) :
      db.leasing.Exclusive :=
    (h.imp fun _ _ _ _ _ _ hp => hp.fenced : History env e (fun db _ t _ => Fenced db t) start db g)
      |>.exclusive h0
  induction h with
  | start =>
    rintro id id' ⟨o, ho, -⟩
    rw [findIp, h0.ip] at ho
    cases ho
  | @commit db db' g t h hp hc ih =>
    have hn := h.numbered h0
    have hnew : ∀ id decision now, t = .prepareIpChange decision now → db'.Engaged id →
        id = db.ipSequence + 1 := by
      rintro id decision now rfl ⟨o, ho, hengaged⟩
      by_contra hid
      have hclear := (created_clear hn (findIp_zero h h0) (hp.created decision now rfl) hc hid).2
      have hactive : o.status.terminal = false := by
        by_contra hnot
        have hawaits : o.awaitsDecision = true := by
          simpa [IpOperation.engaged, Bool.not_eq_false _ |>.mp hnot] using hengaged
        exact hclear ⟨o, ho, hawaits⟩
      have hx := hexclusive (History.commit h hp hc)
      obtain ⟨hchange, ⟨row, hrow⟩, -⟩ := findIp_prepareIpChange hn hc
      have hf := commits_follows hn hc
      have hphase : db'.leasing.phase ⟨.ipChange, db.ipSequence + 1⟩ = .pending := by
        rw [hf.leasing]
        simp [Transaction.event, LeaseEvent.apply]
      have hother : db'.Active ⟨.ipChange, id⟩ :=
        ⟨o.status, by show (db'.findIp id).map (·.status) = _; rw [ho]; rfl, hactive⟩
      have heq := hx.unique (active_iff.mp hother) (by rw [hphase]; rfl :
        (db'.leasing.phase ⟨.ipChange, db.ipSequence + 1⟩).active = true)
      exact hid (LeaseOwner.mk.inj heq).2
    intro id id' hid hid'
    rcases engaged_before hn (h.tenured h0) hp hc hid with hb | ⟨decision, now, ht, hi⟩
    · rcases engaged_before hn (h.tenured h0) hp hc hid' with hb' | ⟨decision, now, ht, hi⟩
      · exact ih id id' hb hb'
      · rw [hi, hnew id decision now ht hid]
    · rw [hi, hnew id' decision now ht hid']

theorem hold_released (hn : Numbered db) (ht : db.leasing.Tenured g) (hp : RunWrites db g t db')
    (hc : Commits env e db t db') {id : Nat} (hold : db.OnHold id)
    (hended : db.Ended ⟨.ipChange, id⟩) (hgone : ¬ db'.OnHold id) :
    (∃ note, t = .reconcile id note) ∨ t = .reset := by
  obtain ⟨o, hrow, hhold⟩ := hold
  have hterminal : o.status.terminal = true := by
    obtain ⟨s, hs, hterminal⟩ := hended
    change (db.findIp id).map (·.status) = some s at hs
    rw [hrow] at hs
    have he : o.status = s := Option.some.inj hs
    rw [he]
    exact hterminal
  have hmove := commits_ipMove hn hc id
  rw [hrow] at hmove
  generalize hrow' : db'.findIp id = row' at hmove
  cases hmove with
  | same => exact absurd ⟨o, hrow', hhold⟩ hgone
  | interrupted _ reason =>
    rw [terminal_interrupt hterminal] at hrow'
    exact absurd ⟨o, hrow', hhold⟩ hgone
  | written _ _ hw _ =>
    have hholds : db.holdsLease ⟨.ipChange, id⟩ = true := by
      refine (hp.owned _ hw).resolve_right fun habsent => ?_
      change (db.findIp id).map (·.status) = none at habsent
      rw [hrow] at habsent
      cases habsent
    rw [holdsLease_active ht hrow hholds] at hterminal
    cases hterminal
  | cleaned _ _ hs => rw [hs] at hterminal; cases hterminal
  | waited _ _ hs => rw [hs] at hterminal; cases hterminal
  | decided _ _ hd =>
    simp only [IpOperation.awaitsDecision, Bool.and_eq_true, beq_iff_eq] at hd
    simp [onHold, hd.1, hd.2] at hhold
  | reviewed _ _ hd hs => simp [onHold, hd, hs] at hhold
  | reconciled _ _ note ht' => exact .inl ⟨note, ht'⟩
  | erased _ ht' => exact .inr ht'

/-- Right after an operation is created no other one is on hold or awaits a decision; the hold of
an operation whose run is over goes with a reconciliation or a reset; one operation at most
awaits a decision. -/
theorem holds_bar_new_operations (h0 : Unused start) (h : History env e RunWrites start db g) :
    (∀ id id', db.AwaitsDecision id → db.AwaitsDecision id' → id = id') ∧
    ∀ t db', RunWrites db g t db' → Commits env e db t db' →
      (∀ decision now, t = .prepareIpChange decision now → ∀ id, id ≠ db.ipSequence + 1 →
        ¬ db'.OnHold id ∧ ¬ db'.AwaitsDecision id) ∧
      ∀ id, db.OnHold id → db.Ended ⟨.ipChange, id⟩ → ¬ db'.OnHold id →
        (∃ note, t = .reconcile id note) ∨ t = .reset := by
  have hengaged {id : Nat} (ha : db.AwaitsDecision id) : db.Engaged id := by
    obtain ⟨o, ho, hawaits⟩ := ha
    exact ⟨o, ho, by simp [IpOperation.engaged, hawaits]⟩
  refine ⟨fun id id' hid hid' => h.engaged_one h0 id id' (hengaged hid) (hengaged hid'),
    fun t db' hp hc => ⟨?_, fun id hold hended hgone => ?_⟩⟩
  · rintro decision now rfl id hid
    exact created_clear (h.numbered h0) (findIp_zero h h0) (hp.created decision now rfl) hc hid
  · exact hold_released (h.numbered h0) (h.tenured h0) hp hc hold hended hgone

end Server

namespace HoldSample

open StoreSample LeaseSample

/-- A rotation of Aeza addresses. -/
def bound : Db := added.setSetting "config.vps_provider" "aeza" "t1"

def rotation : Db := okOr bound (bound.prepareIpChangeOperation env ⟨none, none⟩ 0)

/-- The remote apply had no answer. -/
def doubtful : IpPatch := { actionState := some .ambiguous, applyState := some .ambiguous }

def held : Db := rotation.updateOperation 1 doubtful 0

/-- The rotation puts the old address back. -/
def rollingBack : IpPatch :=
  { actionState := some .rollingBack, rollbackOutcome := some "SENDING" }

def released : Db := held.updateOperation 1 rollingBack 0

theorem unused_bound : Unused bound := ⟨rfl, rfl, rfl, rfl⟩

theorem rotation_eq : bound.prepareIpChangeOperation env ⟨none, none⟩ 0 = .ok rotation :=
  ok_of_isOk (by decide +kernel)

theorem writes_free {db db' : Db} {g : Tenures} {t : Transaction} (hw : t.writer = none)
    (hl : db.lease = none) : RunWrites db g t db' := by
  refine ⟨fun x hx => ?_, fun id o hx => ?_, fun _ _ _ id o hh => ?_⟩
  · rw [hw] at hx
    cases hx
  · rw [hw] at hx
    cases hx
  · simp [holdsLease, hl] at hh

theorem writes_created :
    RunWrites bound (fun _ => none) (.prepareIpChange ⟨none, none⟩ 0) rotation := writes_free rfl rfl

theorem writes_own {db db' : Db} {g : Tenures} {p : IpPatch}
    (hl : db.holdsLease ⟨.ipChange, 1⟩ = true)
    (hc : ∀ o, db.findIp 1 = some o → o.cleaning = false) :
    RunWrites db g (.updateIp 1 p 0) db' := by
  refine ⟨fun x hx => ?_, fun id o hw ho hcl => ?_, nofun⟩
  · cases hx
    exact .inl hl
  · cases hw
    rw [hc o ho] at hcl
    cases hcl

theorem row_of_any {db : Db} {p : IpOperation → Bool} (h : (db.findIp 1).any p = true) :
    ∃ o, db.findIp 1 = some o ∧ p o = true := by
  cases ho : db.findIp 1 with
  | none =>
    rw [ho] at h
    cases h
  | some o => exact ⟨o, rfl, by simpa [ho] using h⟩

theorem all_of_any {db : Db} {p : IpOperation → Bool}
    (h : (db.findIp 1).all (fun o => !p o) = true) : ∀ o, db.findIp 1 = some o → p o = false := by
  intro o ho
  rw [ho] at h
  simpa using h

theorem history_held : ∃ g, History env process RunWrites bound held g :=
  ⟨_, .commit (t := .updateIp 1 doubtful 0)
    (.commit (t := .prepareIpChange ⟨none, none⟩ 0) .start writes_created rotation_eq)
    (writes_own (by decide +kernel) (all_of_any (by decide +kernel))) rfl⟩

/-- The run gives up, and leaves the operation on hold. -/
def ended : Db := held.updateOperation 1 { status := some .ambiguous } 0

def settled : Db := okOr ended (ended.reconcileIpOperation 1 "checked")

def second : Db := okOr settled (settled.prepareIpChangeOperation env ⟨none, none⟩ 0)

theorem settled_eq : ended.reconcileIpOperation 1 "checked" = .ok settled :=
  ok_of_isOk (by decide +kernel)

theorem second_eq : settled.prepareIpChangeOperation env ⟨none, none⟩ 0 = .ok second :=
  ok_of_isOk (by decide +kernel)

theorem writes_second {g : Tenures} :
    RunWrites settled g (.prepareIpChange ⟨none, none⟩ 0) second := writes_free rfl rfl

theorem history_settled : ∃ g, History env process RunWrites bound settled g := by
  obtain ⟨g, h⟩ := history_held
  exact ⟨_, .commit (t := .reconcile 1 "checked")
    (.commit (t := .updateIp 1 { status := some .ambiguous } 0) h
      (writes_own (by decide +kernel) (all_of_any (by decide +kernel))) rfl)
    (writes_free rfl rfl) settled_eq⟩

end HoldSample

open HoldSample StoreSample LeaseSample in
/-- The first rotation was on hold until it was reconciled; the second one was created only then. -/
theorem rotation_held_alone : ended.OnHold 1 ∧ ¬ second.OnHold 1 ∧ ¬ second.AwaitsDecision 1 := by
  obtain ⟨g, h⟩ := history_settled
  have hcreated := (holds_bar_new_operations unused_bound h).2 _ _ writes_second second_eq
  exact ⟨row_of_any (by decide +kernel), hcreated.1 _ _ rfl 1 (by decide +kernel)⟩

open HoldSample StoreSample LeaseSample in
/-- A hold that the operation's own rollback takes away. -/
theorem rollback_releases_hold : ∃ g, History env process RunWrites bound held g ∧
    held.OnHold 1 ∧ Commits env process held (.updateIp 1 rollingBack 0) released ∧
    ¬ released.OnHold 1 := by
  obtain ⟨g, h⟩ := history_held
  have hclear : ∀ o, released.findIp 1 = some o → onHold o = false :=
    all_of_any (by decide +kernel)
  refine ⟨g, h, row_of_any (by decide +kernel), rfl, ?_⟩
  rintro ⟨o, ho, hhold⟩
  rw [hclear o ho] at hhold
  cases hhold

end AutoVPN
