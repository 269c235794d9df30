import AutoVPN.Server.Histories
import AutoVPN.Server.Revisions

/-! Who publishes: the transactions that change what clients and routers are given. -/

namespace AutoVPN

open Server Server.Db

namespace Server

namespace Db

def isApplied (db : Db) (revision : Nat) : Bool :=
  (db.snapshots revision).any fun s => s.lifecycle == .applied

/-- Neither the applied revision nor the published address changes, and no snapshot is marked
applied. -/
structure Unpublished (db db' : Db) : Prop where
  revision : db'.appliedRevision = db.appliedRevision
  currentIp : db'.lookup "current_ip" = db.lookup "current_ip"
  applied : ∀ r, db'.isApplied r = true → db.isApplied r = true

theorem Unpublished.refl (db : Db) : db.Unpublished db := ⟨rfl, rfl, fun _ h => h⟩

theorem Unpublished.trans {a b c : Db} (h : a.Unpublished b) (h' : b.Unpublished c) :
    a.Unpublished c :=
  ⟨h'.revision.trans h.revision, h'.currentIp.trans h.currentIp,
    fun r hr => h.applied r (h'.applied r hr)⟩

end Db

variable {env : Environment} {e : RebootEnvironment} {db db' : Db}

theorem OperationWrite.unpublished (h : OperationWrite db db') : db.Unpublished db' := by
  rw [h.rest]
  exact ⟨rfl, rfl, fun _ h => h⟩

theorem unpublished_updateSnapshot (db : Db) (revision : Nat) {f : VpnSnapshot → VpnSnapshot}
    (hf : ∀ s, (f s).lifecycle = .applied → s.lifecycle = .applied) :
    db.Unpublished (db.updateSnapshot revision f) := by
  refine ⟨rfl, rfl, fun r hr => ?_⟩
  unfold isApplied updateSnapshot at *
  dsimp only at hr
  split at hr
  · cases hs : db.snapshots r with
    | none => simp [hs] at hr
    | some s =>
      simp only [hs, Option.map_some, Option.any_some, beq_iff_eq] at hr
      simpa using hf s hr
  · exact hr

theorem unpublished_ensureSnapshot {config : CapturedVpnConfig} {payload : Value}
    {sha256 : String} {reprepare : Bool}
    (h : db.ensureSnapshot env config payload sha256 reprepare = .ok db') : db.Unpublished db' := by
  unfold ensureSnapshot at h
  split at h
  · split at h
    · cases h
    · split at h
      · cases h
        refine unpublished_updateSnapshot db _ fun s hs => ?_
        unfold VpnSnapshot.reprepare at hs
        split at hs
        · exact hs
        · cases hs
      · cases h
        exact .refl db
  · cases h
    refine ⟨rfl, rfl, fun r hr => ?_⟩
    unfold isApplied insertSnapshot at *
    dsimp only at hr
    split at hr
    · cases hr
    · exact hr

theorem unpublished_failOwner (db : Db) (owner : LeaseOwner) (reason : String) :
    db.Unpublished (db.failOwner owner reason) := by
  unfold failOwner
  split
  · refine Unpublished.trans ?_ (OperationWrite.unpublished (operationWrite_updateInstall _ _ _))
    split
    · refine unpublished_updateSnapshot db _ fun s hs => ?_
      unfold VpnSnapshot.failPrepared at hs
      split at hs
      · cases hs
      · exact hs
    · exact .refl db
  · exact OperationWrite.unpublished (operationWrite_updateIp _ _ _)
  · exact OperationWrite.unpublished (operationWrite_updateServer _ _ _)

theorem unpublished_failOwners (type : OwnerType) (reason : String) (ids : List Nat) (db : Db) :
    db.Unpublished (ids.foldl (fun db id => db.failOwner ⟨type, id⟩ reason) db) := by
  induction ids generalizing db with
  | nil => exact .refl db
  | cons id ids ih => exact (unpublished_failOwner db ⟨type, id⟩ reason).trans (ih _)

theorem unpublished_acquire {owner : LeaseOwner} {now : Nat}
    (h : db.acquireVpsLease owner now = .ok db') : db.Unpublished db' := by
  unfold acquireVpsLease at h
  split at h
  · cases h
    exact OperationWrite.unpublished ⟨rfl⟩
  · split at h
    · cases h
    · cases h
      exact (unpublished_failOwner db _ _).trans (OperationWrite.unpublished ⟨rfl⟩)

theorem unpublished_recover (db : Db) (reason : String) :
    db.Unpublished (db.recoverIncompleteVpsOperations reason) :=
  (((unpublished_failOwners _ reason _ db).trans (unpublished_failOwners _ reason _ _)).trans
    (unpublished_failOwners _ reason _ _)).trans (OperationWrite.unpublished ⟨rfl⟩)

theorem unpublished_failInstallSnapshot (db : Db) (operationId : Nat) :
    db.Unpublished (db.failInstallSnapshot operationId) := by
  unfold failInstallSnapshot
  split
  · refine unpublished_updateSnapshot db _ fun s hs => ?_
    unfold VpnSnapshot.failUnapplied at hs
    split at hs
    · exact hs
    · cases hs
  · exact .refl db

theorem unpublished_note (db : Db) (operationId : Nat) (name value : String) :
    db.Unpublished (db.storeSetting (operationKey operationId name) value) := by
  refine ⟨rfl, lookup_storeSetting_of_ne value ?_, fun _ h => h⟩
  intro hk
  have hc := capturedKey_operationKey operationId name
  rw [← hk] at hc
  exact absurd hc (by decide)

theorem unpublished_prepareInstall {targetHost : String} {now : Nat}
    (h : db.prepareInstallOperation env targetHost now = .ok db') : db.Unpublished db' := by
  obtain ⟨⟨config, payload, sha256⟩, -, h⟩ := except_bind_eq_ok.1 h
  obtain ⟨mid, he, h⟩ := except_bind_eq_ok.1 h
  exact ((unpublished_ensureSnapshot he).trans (OperationWrite.unpublished ⟨rfl⟩)).trans
    (unpublished_acquire h)

theorem unpublished_bindProvider {operationId : Nat}
    (h : db.bindProvider env operationId = .ok db') : db.Unpublished db' := by
  unfold bindProvider at h
  simp only at h
  split at h
  · cases h
  · cases h
    exact unpublished_note db operationId "provider" _

theorem unpublished_prepareIpChange {decision : IpDecision} {now : Nat}
    (h : db.prepareIpChangeOperation env decision now = .ok db') : db.Unpublished db' := by
  obtain ⟨-, -, h⟩ := except_bind_eq_ok.1 h
  obtain ⟨⟨config, payload, sha256⟩, -, h⟩ := except_bind_eq_ok.1 h
  obtain ⟨mid, he, h⟩ := except_bind_eq_ok.1 h
  obtain ⟨leased, hl, h⟩ := except_bind_eq_ok.1 h
  obtain ⟨bound, hb, h⟩ := except_bind_eq_ok.1 h
  have hbound : db.Unpublished bound :=
    (((unpublished_ensureSnapshot he).trans (OperationWrite.unpublished ⟨rfl⟩)).trans
      (unpublished_acquire hl)).trans (unpublished_bindProvider hb)
  have hretry (db : Db) (id : Nat) : db.Unpublished (db.requestRetry id) :=
    OperationWrite.unpublished (operationWrite_updateIp db id _)
  cases h
  cases decision.ssh with
  | none =>
    cases decision.review with
    | none => exact hbound
    | some review => exact hbound.trans (hretry bound review)
  | some ssh =>
    have hnoted := (hbound.trans (unpublished_note bound (mid.ipSequence + 1) "sprintbox"
      (env.dumps (.object [("retained_boxes", .object (inheritedBoxes env bound ssh))])))).trans
      (hretry _ ssh)
    cases decision.review with
    | none => exact hnoted
    | some review => exact hnoted.trans (hretry _ review)

theorem unpublished_insertServer {row : ServerOperation} {n now : Nat}
    (h : { db with serverOperations := db.serverOperations ++ [row]
                   serverSequence := n }.acquireVpsLease ⟨.server, n⟩ now = .ok db') :
    db.Unpublished db' :=
  (OperationWrite.unpublished ⟨rfl⟩).trans (unpublished_acquire h)

theorem unpublished_readmit {leased : Db} {id now : Nat} (f : IpOperation → IpOperation)
    (h : db.acquireVpsLease ⟨.ipChange, id⟩ now = .ok leased) :
    db.Unpublished (leased.updateIp id f) :=
  (unpublished_acquire h).trans (OperationWrite.unpublished (operationWrite_updateIp leased id f))

theorem unpublished_write (updated : Db) (owner : LeaseOwner) (status : Option Status) (now : Nat)
    (h : OperationWrite db updated) : db.Unpublished
      (if status.any Status.terminal then updated.releaseVpsLease owner
        else (updated.heartbeatVpsLease owner now).2) := by
  split
  · exact OperationWrite.unpublished (h.trans ⟨rfl⟩)
  · exact OperationWrite.unpublished (h.trans ⟨rfl⟩)

/-- The operation that a transaction publishes for, and the time at which it commits. -/
def Transaction.publisher : Transaction → Option (LeaseOwner × Nat)
  | .publish id _ now => some (⟨.ipChange, id⟩, now)
  | .completeInstall id _ now => some (⟨.install, id⟩, now)
  | _ => none

/-- The transaction is one of an operation, or the recovery of all of them. -/
def Transaction.ofOperation : Transaction → Bool
  | .reset | .other => false
  | _ => true

theorem unpublished_of_not_publisher {t : Transaction} (hc : Commits env e db t db')
    (ho : t.ofOperation = true) (hp : t.publisher = none) : db.Unpublished db' := by
  have hsplit {p : Prop} [Decidable p] {b : Bool} {f : Db} (hf : db.Unpublished f) :
      db.Unpublished (if p then (b, f) else (false, db)).2 := by
    split
    · exact hf
    · exact .refl db
  cases t with
  | prepareInstall => exact unpublished_prepareInstall hc
  | prepareIpChange => exact unpublished_prepareIpChange hc
  | createServer => exact unpublished_insertServer hc
  | createProtocolRefresh => exact unpublished_insertServer hc
  | prepareCleanup | prepareSshWait =>
    obtain ⟨row, -, hc⟩ := except_bind_eq_ok.1 hc
    obtain ⟨leased, hl, hc⟩ := except_bind_eq_ok.1 hc
    cases hc
    exact unpublished_readmit _ hl
  | updateInstall => exact hc ▸ unpublished_write _ _ _ _ (operationWrite_updateInstall _ _ _)
  | updateIp => exact hc ▸ unpublished_write _ _ _ _ (operationWrite_updateIp _ _ _)
  | updateServer => exact hc ▸ unpublished_write _ _ _ _ (operationWrite_updateServer _ _ _)
  | heartbeatInstall id now =>
    rw [show db' = _ from hc]
    unfold heartbeatInstallOperation
    split
    · exact OperationWrite.unpublished ⟨rfl⟩
    · exact .refl db
  | markRebootSending => exact hc ▸ hsplit (OperationWrite.unpublished ⟨rfl⟩)
  | claimPurchase => exact hc ▸ hsplit (OperationWrite.unpublished ⟨rfl⟩)
  | claimCleanup => exact hc ▸ hsplit (OperationWrite.unpublished ⟨rfl⟩)
  | resumeSshWait id =>
    rw [show db' = _ from hc]
    unfold Db.resumeSshWait
    split
    · split <;> exact OperationWrite.unpublished ⟨rfl⟩
    · exact .refl db
  | failInstall id message =>
    exact hc ▸ (unpublished_failInstallSnapshot db id).trans (OperationWrite.unpublished ⟨rfl⟩)
  | markInstallAmbiguous id message =>
    exact hc ▸ (unpublished_failInstallSnapshot db id).trans (OperationWrite.unpublished ⟨rfl⟩)
  | cancelSshWait id warning =>
    have h : db.cancelSshWait id warning = .ok db' := hc
    unfold Db.cancelSshWait at h
    split at h
    · cases h
    · split at h
      · cases h
      · cases h
        exact OperationWrite.unpublished ⟨rfl⟩
  | reconcile id note =>
    have h : db.reconcileIpOperation id note = .ok db' := hc
    unfold reconcileIpOperation at h
    split at h
    · cases h
    split at h
    · cases h
    split at h
    · cases h
    · cases h
      exact OperationWrite.unpublished ⟨rfl⟩
  | recover reason => exact hc ▸ unpublished_recover db reason
  | publish | completeInstall => cases hp
  | reset | other => cases ho

/-- What an operation publishes, it publishes while it runs and holds a lease that is not over. -/
def OwnerPublishes (db : Db) (_ : Tenures) (t : Transaction) (db' : Db) : Prop :=
  t.ofOperation = true → ¬ db.Unpublished db' →
    ∃ x now, t.publisher = some (x, now) ∧ db.statusOf x = some .running ∧
      ∃ l, db.lease = some l ∧ l.owner = x ∧ LeaseLive l.expiresAt now

/-- A publication is committed in the tenure that the past grants its operation. -/
def PublishesInTime (db : Db) (g : Tenures) (t : Transaction) (db' : Db) : Prop :=
  ∀ x now, t.publisher = some (x, now) → ¬ db.Unpublished db' →
    ∃ u, g x = some ⟨true, u⟩ ∧ LeaseLive u now

theorem running_iff {x : LeaseOwner} :
    db.leasing.phase x = .running ↔ db.statusOf x = some .running := by
  show phaseOf (db.statusOf x) = .running ↔ _
  cases hs : db.statusOf x with
  | none => simp [phaseOf]
  | some s => cases s <;> simp [phaseOf, Status.phase]

theorem leasing_lease_iff {x : LeaseOwner} {u : Nat} :
    db.leasing.lease = some (x, u) ↔ ∃ l, db.lease = some l ∧ l.owner = x ∧ l.expiresAt = u := by
  show Option.map _ db.lease = _ ↔ _
  cases db.lease with
  | none => simp
  | some l => simp

theorem ownerPublishes_iff {g : Tenures} {t : Transaction} (ht : db.leasing.Tenured g)
    (hc : Commits env e db t db') : OwnerPublishes db g t db' ↔ PublishesInTime db g t db' := by
  constructor
  · intro h x now hp hpub
    have ho : t.ofOperation = true := by cases t <;> first | rfl | cases hp
    obtain ⟨y, at', hp', hrunning, l, hl, hy, hlive⟩ := h ho hpub
    obtain ⟨rfl, rfl⟩ : x = y ∧ now = at' := by
      rw [hp] at hp'
      exact Prod.mk.inj (Option.some.inj hp')
    exact ⟨l.expiresAt, ht.running_iff.mp
      ⟨leasing_lease_iff.mpr ⟨l, hl, hy, rfl⟩, running_iff.mpr hrunning⟩, hlive⟩
  · intro h ho hpub
    cases hp : t.publisher with
    | none => exact absurd (unpublished_of_not_publisher hc ho hp) hpub
    | some publisher =>
      obtain ⟨x, now⟩ := publisher
      obtain ⟨u, hg, hlive⟩ := h x now hp hpub
      obtain ⟨hl, hphase⟩ := ht.running_iff.mpr hg
      obtain ⟨l, hlease, hx, rfl⟩ := leasing_lease_iff.mp hl
      exact ⟨x, now, rfl, running_iff.mp hphase, l, hlease, hx, hlive⟩

/-- After every history, a transaction that commits next publishes as the running holder of a live
lease exactly where it is committed in the tenure that the history has granted its operation. -/
theorem owner_publishes_iff_in_time {P : Db → Tenures → Transaction → Db → Prop} {start : Db}
    {g : Tenures} (h0 : Unused start) (h : History env e P start db g) {t : Transaction}
    (hc : Commits env e db t db') : OwnerPublishes db g t db' ↔ PublishesInTime db g t db' :=
  ownerPublishes_iff (h.tenured h0) hc

end Server

namespace LeaseSample

open StoreSample

def started : Db := prepared.updateInstallOperation 1 { status := some .running } 0

def finished : Db := okOr started (started.completeInstallOperation 1 "ok")

/-- The run of the installation stalls, and a reboot takes its lease over. -/
def stalled : Db := okOr started (started.createServerOperation .reboot hour)

theorem unused_added : Unused added := ⟨rfl, rfl, rfl, rfl⟩

theorem stalled_eq : started.createServerOperation .reboot hour = .ok stalled :=
  ok_of_isOk (by decide +kernel)

/-- What the past of the installation grants it. -/
def granted : Tenures :=
  ((Transaction.updateInstall 1 { status := some .running } 0).event env prepared).tenure leaseExpiry
    (((Transaction.prepareInstall "192.0.2.1" 0).event env added).tenure leaseExpiry fun _ => none)

theorem history_started (P : Db → Tenures → Transaction → Db → Prop)
    (hp : P added (fun _ => none) (.prepareInstall "192.0.2.1" 0) prepared)
    (hu : P prepared (((Transaction.prepareInstall "192.0.2.1" 0).event env added).tenure
      leaseExpiry fun _ => none) (.updateInstall 1 { status := some .running } 0) started) :
    History env process P added started granted :=
  .commit (t := .updateInstall 1 { status := some .running } 0)
    (.commit (t := .prepareInstall "192.0.2.1" 0) .start hp prepared_eq) hu rfl

theorem finished_eq : started.completeInstallOperation 1 "ok" = .ok finished :=
  ok_of_isOk (by decide +kernel)

theorem published_finished : ¬ started.Unpublished finished := fun hu =>
  absurd hu.revision (by decide +kernel)

end LeaseSample

open LeaseSample StoreSample in
theorem installation_publishes_in_time : started.statusOf ⟨.install, 1⟩ = some .running ∧
    ∃ l, started.lease = some l ∧ l.owner = ⟨.install, 1⟩ ∧ LeaseLive l.expiresAt 0 := by
  have hstarted : History env process (fun _ _ _ _ => True) added started granted :=
    history_started _ trivial trivial
  have hiff := owner_publishes_iff_in_time (t := .completeInstall 1 "ok" 0) unused_added hstarted
    finished_eq
  have htime : PublishesInTime started granted (.completeInstall 1 "ok" 0) finished := by
    rintro x now hp -
    obtain ⟨rfl, rfl⟩ := Prod.mk.inj (Option.some.inj hp)
    exact ⟨3600, by rfl, (by decide : 0 < 3600 * microseconds)⟩
  obtain ⟨x, now, hx, hpublishes⟩ := hiff.mpr htime rfl published_finished
  obtain ⟨rfl, rfl⟩ := Prod.mk.inj (Option.some.inj hx)
  exact hpublishes

open LeaseSample StoreSample in
/-- The installation that was failed by a takeover completes afterwards. -/
theorem failed_installation_publishes : ∃ g db' t, History env process (fun _ _ _ _ => True) added
    stalled g ∧ Commits env process stalled t db' ∧ ¬ OwnerPublishes stalled g t db' := by
  refine ⟨_, okOr stalled (stalled.completeInstallOperation 1 "ok"), .completeInstall 1 "ok" hour,
    .commit (t := .createServer .reboot hour) (history_started _ trivial trivial) trivial stalled_eq,
    ok_of_isOk (by decide +kernel), fun h => ?_⟩
  obtain ⟨x, now, hx, hrunning, -⟩ := h rfl fun hu => absurd hu.revision (by decide +kernel)
  obtain ⟨rfl, rfl⟩ := Prod.mk.inj (Option.some.inj hx)
  exact absurd hrunning (by decide +kernel)

end AutoVPN
