import AutoVPN.Server.Leases

/-! Histories of the operations: transactions of any parties that commit one after the
other. A run writes by the number of its operation, also after its lease was taken over. -/

namespace AutoVPN

open Server Server.Db

namespace Server

/-- What the past of a history grants each operation. -/
abbrev Tenures : Type := LeaseOwner → Option Tenure

/-- Transactions that commit in turn, each of which meets `P`. -/
inductive History (env : Environment) (e : RebootEnvironment)
    (P : Db → Tenures → Transaction → Db → Prop) (start : Db) : Db → Tenures → Prop
  | start : History env e P start start fun _ => none
  | commit {db db' : Db} {g : Tenures} {t : Transaction} (h : History env e P start db g)
    (hp : P db g t db') (hc : Commits env e db t db') :
    History env e P start db' ((t.event env db).tenure leaseExpiry g)

/-- No operation was ever created. -/
structure Unused (db : Db) : Prop where
  install : db.installOperations = []
  ip : db.ipOperations = []
  server : db.serverOperations = []
  lease : db.lease = none

namespace Db

/-- The operation is PENDING or RUNNING. -/
def Active (db : Db) (x : LeaseOwner) : Prop := ∃ s, db.statusOf x = some s ∧ s.terminal = false

def Ended (db : Db) (x : LeaseOwner) : Prop := ∃ s, db.statusOf x = some s ∧ s.terminal = true

variable {db : Db} {x : LeaseOwner}

theorem active_iff : db.Active x ↔ (db.leasing.phase x).active = true := by
  show _ ↔ (phaseOf (db.statusOf x)).active = true
  cases hs : db.statusOf x with
  | none => simp [Active, hs, phaseOf, LeasePhase.active]
  | some s => cases s <;> simp [Active, hs, phaseOf, LeasePhase.active, Status.phase, Status.terminal]

theorem ended_iff : db.Ended x ↔ db.leasing.phase x = .ended := by
  show _ ↔ phaseOf (db.statusOf x) = .ended
  cases hs : db.statusOf x with
  | none => simp [Ended, hs, phaseOf]
  | some s => cases s <;> simp [Ended, hs, phaseOf, Status.phase, Status.terminal]

theorem absent_iff : db.statusOf x = none ↔ db.leasing.phase x = .absent := by
  show _ ↔ phaseOf (db.statusOf x) = .absent
  cases hs : db.statusOf x with
  | none => simp [phaseOf]
  | some s => cases s <;> simp [phaseOf, Status.phase]

theorem holdsLease_iff : db.holdsLease x = true ↔ ∃ u, db.leasing.lease = some (x, u) := by
  show (db.lease.any fun l => l.owner == x) = true ↔ ∃ u, Option.map _ db.lease = _
  cases db.lease with
  | none => simp
  | some l => simp

end Db

variable {env : Environment} {e : RebootEnvironment} {P : Db → Tenures → Transaction → Db → Prop}
  {start db : Db} {g : Tenures}

theorem Unused.numbered (h : Unused db) : Numbered db :=
  ⟨by simp [h.install], by simp [h.ip], by simp [h.server], by simp [h.lease]⟩

theorem Unused.absent (h : Unused db) (x : LeaseOwner) : db.leasing.phase x = .absent := by
  refine absent_iff.mp ?_
  unfold statusOf findInstall findIp findServer
  rw [h.install, h.ip, h.server]
  cases x.ownerType <;> rfl

theorem Unused.leasing_lease (h : Unused db) : db.leasing.lease = none := by
  show Option.map _ db.lease = none
  rw [h.lease]
  rfl

theorem History.numbered (h : History env e P start db g) (h0 : Unused start) : Numbered db := by
  induction h with
  | start => exact h0.numbered
  | commit _ _ hc ih => exact (commits_follows ih hc).numbered

/-- Whatever is written later, the lease is where the past has put it. -/
theorem History.tenured (h : History env e P start db g) (h0 : Unused start) :
    db.leasing.Tenured g := by
  induction h with
  | start => exact ⟨nofun, fun x _ u => by rw [h0.leasing_lease]; exact nofun⟩
  | commit h _ hc ih =>
    have hf := commits_follows (h.numbered h0) hc
    rw [hf.leasing]
    exact ih.step hf.enabled

theorem History.imp {Q : Db → Tenures → Transaction → Db → Prop}
    (h : History env e P start db g)
    (hpq : ∀ db g t db', History env e P start db g → Commits env e db t db' → P db g t db' →
      Q db g t db') : History env e Q start db g := by
  induction h with
  | start => exact .start
  | commit h hp hc ih => exact .commit ih (hpq _ _ _ _ h hc hp) hc

/-- The holder of the lease is PENDING or RUNNING in every history. -/
theorem holder_active (ht : db.leasing.Tenured g) {x : LeaseOwner} {u : Nat}
    (hl : db.leasing.lease = some (x, u)) : (db.leasing.phase x).active = true := by
  cases hg : g x with
  | none => exact absurd hl (ht.vacant x hg u)
  | some t =>
    rw [(ht.holds x t hg).2]
    split <;> rfl

/-! Writes by the holder of the lease. -/

/-- The operation that a run writes PENDING or RUNNING by its number alone. -/
def Transaction.revives : Transaction → Option LeaseOwner
  | .updateInstall id p _ =>
    if p.status.any fun s => !s.terminal then some ⟨.install, id⟩ else none
  | .updateIp id p _ => if p.status.any fun s => !s.terminal then some ⟨.ipChange, id⟩ else none
  | .updateServer id p _ => if p.status.any fun s => !s.terminal then some ⟨.server, id⟩ else none
  | .publish id _ _ => some ⟨.ipChange, id⟩
  | _ => none

/-- Such a write is committed while the operation holds the lease. -/
def Fenced (db : Db) (t : Transaction) : Prop :=
  ∀ x, t.revives = some x → db.holdsLease x = true ∨ db.statusOf x = none

/-- The entry points that resume an operation that has ended. -/
def Transaction.resumes (t : Transaction) (x : LeaseOwner) : Prop :=
  x.ownerType = .ipChange ∧
    ∃ now, t = .prepareCleanup x.ownerId now ∨ t = .prepareSshWait x.ownerId now

theorem Fenced.not_ended {t : Transaction} (hf : Fenced db t) (ht : db.leasing.Tenured g)
    {x : LeaseOwner} (hx : t.revives = some x) : db.leasing.phase x ≠ .ended := by
  intro hended
  rcases hf x hx with hh | hn
  · obtain ⟨u, hu⟩ := holdsLease_iff.mp hh
    have hactive := holder_active ht hu
    rw [hended] at hactive
    cases hactive
  · rw [absent_iff.mp hn] at hended
    cases hended

theorem writeEvent_current {s : Leasing LeaseOwner} {owner : LeaseOwner} {status : Option Status}
    {now : Nat} (h : status.any (fun s => !s.terminal) = true → s.phase owner ≠ .ended) :
    (writeEvent owner status now).Current s := by
  unfold writeEvent
  split
  · trivial
  · rename_i ht
    cases status with
    | none => trivial
    | some status => exact h (by simpa using ht)

theorem phase_of_row {α : Type} {status : α → Status} (row : Option α) {p : α → Bool}
    (h : row.any p = true) (hp : ∀ o, p o = true → (status o).terminal = false) :
    phaseOf (row.map status) ≠ .ended := by
  cases row with
  | none => cases h
  | some o =>
    have hactive := hp o h
    show (status o).phase ≠ .ended
    intro he
    rw [(phase_terminal _).mpr he] at hactive
    cases hactive

theorem Fenced.current {t : Transaction} (hf : Fenced db t) (ht : db.leasing.Tenured g) :
    (t.event env db).Current db.leasing := by
  cases t with
  | updateInstall id p now =>
    exact writeEvent_current fun hs => hf.not_ended ht (if_pos hs)
  | updateIp id p now => exact writeEvent_current fun hs => hf.not_ended ht (if_pos hs)
  | updateServer id p now => exact writeEvent_current fun hs => hf.not_ended ht (if_pos hs)
  | publish id p now => exact hf.not_ended ht rfl
  | heartbeatInstall id now =>
    simp only [Transaction.event]
    split <;> trivial
  | markRebootSending id now =>
    simp only [Transaction.event]
    split
    · rename_i hrow
      refine phase_of_row (db.findServer id) hrow fun o ho => ?_
      simp only [sendable, Bool.and_eq_true, Bool.not_eq_true'] at ho
      exact ho.1.2
    · trivial
  | claimCleanup id =>
    simp only [Transaction.event]
    split
    · rename_i hrow
      refine phase_of_row (db.findIp id) hrow fun o ho => ?_
      simp only [cleanable, Bool.and_eq_true, beq_iff_eq] at ho
      rw [ho.1]
      rfl
    · trivial
  | resumeSshWait id =>
    simp only [Transaction.event]
    split
    · rename_i hrow
      split
      · refine phase_of_row (db.findIp id) hrow fun o ho => ?_
        simp only [resumable, Bool.and_eq_true, beq_iff_eq] at ho
        rw [ho.1]
        rfl
      · trivial
    · trivial
  | prepareInstall | prepareIpChange | createServer | createProtocolRefresh | prepareCleanup
  | prepareSshWait | claimPurchase | completeInstall | failInstall | markInstallAmbiguous
  | cancelSshWait | reconcile | recover | reset | other => trivial

theorem fresh_absent (hn : Numbered db) {x : LeaseOwner}
    (hx : (match x.ownerType with
      | .install => db.installSequence
      | .ipChange => db.ipSequence
      | .server => db.serverSequence) < x.ownerId) : db.leasing.phase x = .absent := by
  refine absent_iff.mp ?_
  obtain ⟨type, id⟩ := x
  cases type with
  | install =>
    refine Option.map_eq_none_iff.mpr (List.find?_eq_none.mpr fun o ho he => ?_)
    have hle := hn.install o ho
    rw [beq_iff_eq.mp he] at hle
    exact absurd hx (Nat.not_lt.mpr hle)
  | ipChange =>
    refine Option.map_eq_none_iff.mpr (List.find?_eq_none.mpr fun o ho he => ?_)
    have hle := hn.ip o ho
    rw [beq_iff_eq.mp he] at hle
    exact absurd hx (Nat.not_lt.mpr hle)
  | server =>
    refine Option.map_eq_none_iff.mpr (List.find?_eq_none.mpr fun o ho he => ?_)
    have hle := hn.server o ho
    rw [beq_iff_eq.mp he] at hle
    exact absurd hx (Nat.not_lt.mpr hle)

theorem resumes_of_grant {t : Transaction} {x : LeaseOwner} {now : Nat} (hn : Numbered db)
    (hx : db.leasing.phase x ≠ .absent) (ht : t.event env db = .grant x now) : t.resumes x := by
  cases t with
  | prepareInstall targetHost at' =>
    obtain ⟨rfl, -⟩ := LeaseEvent.grant.inj ht
    exact absurd (fresh_absent hn (Nat.lt_succ_self _)) hx
  | prepareIpChange decision at' =>
    obtain ⟨rfl, -⟩ := LeaseEvent.grant.inj ht
    exact absurd (fresh_absent hn (Nat.lt_succ_self _)) hx
  | createServer kind at' =>
    obtain ⟨rfl, -⟩ := LeaseEvent.grant.inj ht
    exact absurd (fresh_absent hn (Nat.lt_succ_self _)) hx
  | createProtocolRefresh at' =>
    obtain ⟨rfl, -⟩ := LeaseEvent.grant.inj ht
    exact absurd (fresh_absent hn (Nat.lt_succ_self _)) hx
  | prepareCleanup id at' =>
    obtain ⟨rfl, -⟩ := LeaseEvent.grant.inj ht
    exact ⟨rfl, at', .inl rfl⟩
  | prepareSshWait id at' =>
    obtain ⟨rfl, -⟩ := LeaseEvent.grant.inj ht
    exact ⟨rfl, at', .inr rfl⟩
  | updateInstall | updateIp | updateServer =>
    simp only [Transaction.event, writeEvent] at ht
    split at ht <;> cases ht
  | heartbeatInstall | markRebootSending | claimCleanup =>
    simp only [Transaction.event] at ht
    split at ht <;> cases ht
  | resumeSshWait id =>
    simp only [Transaction.event] at ht
    split at ht
    · split at ht <;> cases ht
    · cases ht
  | claimPurchase | publish | completeInstall | failInstall | markInstallAmbiguous
  | cancelSshWait | reconcile | recover | reset | other => cases ht

theorem revives_active {s : Leasing LeaseOwner} {t : Transaction} {x : LeaseOwner}
    (ht : t.revives = some x) (hx : s.phase x ≠ .absent) :
    (((t.event env db).apply leaseExpiry s).phase x).active = true := by
  have hwrite (owner : LeaseOwner) (status : Option Status) (now : Nat)
      (hs : status.any (fun s => !s.terminal) = true) (hx : s.phase owner ≠ .absent) :
      (((writeEvent owner status now).apply leaseExpiry s).phase owner).active = true := by
    cases status with
    | none => cases hs
    | some status =>
      have hnot : status.terminal = false := by simpa using hs
      have hw : writeEvent owner (some status) now = .write owner (some status.phase) now :=
        if_neg (by simp [hnot])
      rw [hw]
      simp only [LeaseEvent.apply, if_true, Option.getD_some, put_of_present hx]
      cases status <;> first | rfl | cases hnot
  cases t with
  | updateInstall | updateIp | updateServer =>
    simp only [Transaction.revives] at ht
    split at ht
    · cases ht
      exact hwrite _ _ _ ‹_› hx
    · cases ht
  | publish =>
    cases ht
    simp [Transaction.event, LeaseEvent.apply, put_of_present hx, LeasePhase.active]
  | _ => cases ht

theorem History.exclusive (h : History env e (fun db _ t _ => Fenced db t) start db g)
    (h0 : Unused start) : db.leasing.Exclusive := by
  induction h with
  | start =>
    intro x hx
    rw [h0.absent x] at hx
    cases hx
  | commit h hp hc ih =>
    have hf := commits_follows (h.numbered h0) hc
    rw [hf.leasing]
    exact ih.step hf.enabled (hp.current (h.tenured h0))

/-- Over the histories in which a run writes PENDING or RUNNING only while its operation holds
the lease: one operation at most is PENDING or RUNNING, and it holds the lease. A transaction
keeps what has ended, except for the resumed operation, just when it is such a write. -/
theorem one_operation_at_a_time (h0 : Unused start)
    (h : History env e (fun db _ t _ => Fenced db t) start db g) :
    (∀ x, db.Active x → db.holdsLease x = true ∧ ∀ y, db.Active y → y = x) ∧
    ∀ t db', Commits env e db t db' → (Fenced db t ↔
      ∀ x, db.Ended x → db'.Active x → t.resumes x ∧ db'.holdsLease x = true) := by
  have hx := h.exclusive h0
  have hn := h.numbered h0
  have ht := h.tenured h0
  refine ⟨fun x hactive => ⟨?_, fun y hy => ?_⟩, fun t db' hc => ?_⟩
  · exact holdsLease_iff.mpr (hx x (active_iff.mp hactive))
  · exact hx.unique (active_iff.mp hy) (active_iff.mp hactive)
  have hf := commits_follows hn hc
  constructor
  · intro hfenced x hended hactive
    have hphase := ended_iff.mp hended
    have hactive' := active_iff.mp hactive
    have hexclusive := (History.commit h hfenced hc).exclusive h0
    refine ⟨?_, holdsLease_iff.mpr (hexclusive x hactive')⟩
    rw [hf.leasing] at hactive'
    obtain ⟨now, hgrant⟩ := Leasing.ended_stays hphase (hfenced.current ht) hactive'
    exact resumes_of_grant hn (by rw [hphase]; nofun) hgrant
  · intro hstays x hrevives
    by_contra hnot
    obtain ⟨hholds, hpresent⟩ := not_or.mp hnot
    have hpresent' : db.leasing.phase x ≠ .absent := fun ha => hpresent (absent_iff.mpr ha)
    have hended : db.leasing.phase x = .ended := by
      by_contra hne
      exact hholds (holdsLease_iff.mpr (hx x (Leasing.active_of_current hpresent' hne)))
    have hactive : db'.Active x := by
      rw [active_iff, hf.leasing]
      exact revives_active hrevives hpresent'
    obtain ⟨-, now, rfl | rfl⟩ := (hstays x (ended_iff.mpr hended) hactive).1 <;> cases hrevives

end Server

namespace LeaseSample

open StoreSample

/-- Any process; what it cleans needs no cleaning here. -/
def process : RebootEnvironment where
  clean := id
  cleanShort := id
  safeError := id
  providerLabel := "Aeza"
  providerUp := fun _ => none
  attempts := 1

/-- An hour in microseconds. -/
def hour : Nat := 3600 * microseconds

def refreshed : Db := okOr fresh (fresh.createProtocolRefreshOperation 0)

/-- The first operation is failed for the second one. -/
def overtaken : Db := okOr refreshed (refreshed.createServerOperation .reboot hour)

/-- The first run goes on. -/
def revived : Db := overtaken.updateServerOperation process 1
  { status := some .running, currentStep := some "protocol_health" } hour

theorem unused : Unused fresh := ⟨rfl, rfl, rfl, rfl⟩

theorem refreshed_eq : fresh.createProtocolRefreshOperation 0 = .ok refreshed := by rfl

theorem ok_of_isOk {db : Db} {result : Except String Db} (h : result.isOk = true) :
    result = .ok (okOr db result) := by
  cases result with
  | error message => cases h
  | ok db' => rfl

theorem overtaken_eq : refreshed.createServerOperation .reboot hour = .ok overtaken :=
  ok_of_isOk (by decide +kernel)

end LeaseSample

open LeaseSample StoreSample in
/-- The refresh lost the lease to the reboot, and its operation is over. -/
theorem refresh_takes_its_turn :
    (∀ x, overtaken.Active x → overtaken.holdsLease x = true ∧ ∀ y, overtaken.Active y → y = x) ∧
    ∀ t db', Commits env process overtaken t db' → (Fenced overtaken t ↔
      ∀ x, overtaken.Ended x → db'.Active x → t.resumes x ∧ db'.holdsLease x = true) :=
  one_operation_at_a_time unused
    (.commit (t := .createServer .reboot hour)
      (.commit (t := .createProtocolRefresh 0) .start (fun _ => nofun) refreshed_eq) (fun _ => nofun)
      overtaken_eq)

open LeaseSample StoreSample in
/-- A stale run revives its operation beside the one that took the lease over. -/
theorem stale_run_revives_operation : ∃ g,
    History env process (fun _ _ _ _ => True) fresh revived g ∧
      overtaken.Ended ⟨.server, 1⟩ ∧ revived.Active ⟨.server, 1⟩ ∧ revived.Active ⟨.server, 2⟩ := by
  refine ⟨_, .commit (t := .updateServer 1
      { status := some .running, currentStep := some "protocol_health" } hour)
    (.commit (t := .createServer .reboot hour)
      (.commit (t := .createProtocolRefresh 0) .start trivial refreshed_eq) trivial overtaken_eq)
    trivial rfl, ⟨.failed, by decide +kernel, rfl⟩,
    ⟨.running, by decide +kernel, rfl⟩, ⟨.pending, by decide +kernel, rfl⟩⟩

end AutoVPN
