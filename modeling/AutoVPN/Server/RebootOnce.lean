import AutoVPN.Server.Lookup
import AutoVPN.Server.Reboot

/-! Any number of runs of a reboot, with crashes and recoveries: the provider is
asked once, and the row shows it. -/

namespace AutoVPN

open Server Server.Db

/-- The database, and how often each operation has asked the provider to reboot. -/
structure RebootWorld where
  db : Db
  rebootCalls : Nat → Nat

/-- The end of a failed run: its row is read and written with no other run between. -/
def Server.Db.settleFailure (e : RebootEnvironment) (db : Db) (operationId : Nat) (error : String)
    (now : Nat) : Db :=
  let mayHaveSent := (db.findServer operationId).any fun o => o.actionState != .notStarted
  db.updateServerOperation e operationId {
    status := some (if mayHaveSent then .ambiguous else .failed)
    actionState := some (if mayHaveSent then .ambiguous else .notStarted)
    currentStep := some "failed"
    errorMessage := some error } now

def rebootStep (e : RebootEnvironment) (operationId : Nat) :
    (c : RebootCall) → RebootWorld → c.Answer → RebootWorld → Prop
  | .getOperation, s, r, s' =>
    s' = s ∧ (r = .ok (s.db.findServer operationId) ∨ ∃ f, r = .error f)
  | .update p, s, r, s' =>
    (r = .ok () ∧ ∃ now, s' = { s with db := s.db.updateServerOperation e operationId p now }) ∨
      ∃ f, r = .error f ∧ s' = s
  | .markSending, s, r, s' =>
    (∃ now, r = .ok (s.db.markRebootSending operationId now).1 ∧
      s' = { s with db := (s.db.markRebootSending operationId now).2 }) ∨
      ∃ f, r = .error f ∧ s' = s
  | .rebootService, s, _, s' =>
    s' = { s with rebootCalls := fun id =>
      s.rebootCalls id + if id = operationId then 1 else 0 }
  | .storeTask _, s, _, s' =>
    s'.rebootCalls = s.rebootCalls ∧ s'.db.serverOperations = s.db.serverOperations
  | .settleFailure error, s, r, s' =>
    (r = .ok () ∧ ∃ now, s' = { s with db := s.db.settleFailure e operationId error now }) ∨
      ∃ f, r = .error f ∧ s' = s
  | .providerClient, s, _, s' => s' = s
  | .providerStatus, s, _, s' => s' = s
  | .host _, s, _, s' => s' = s
  | .providerName, s, _, s' => s' = s
  | .taskStatus _, s, _, s' => s' = s
  | .tcpCheck _, s, _, s' => s' = s
  | .services _, s, _, s' => s' = s
  | .protocols _, s, _, s' => s' = s
  | .sleep, s, _, s' => s' = s

/-- What happens beside the runs: new operations, leases that change hands, recoveries, and
whatever leaves the rows of the reboots alone. -/
inductive RebootMove (s : RebootWorld) : RebootWorld → Prop
  | create {kind : ServerKind} {now : Nat} {db' : Db}
    (h : s.db.createServerOperation kind now = .ok db') : RebootMove s { s with db := db' }
  | acquire {owner : LeaseOwner} {now : Nat} {db' : Db}
    (h : s.db.acquireVpsLease owner now = .ok db') : RebootMove s { s with db := db' }
  | recover (reason : String) :
    RebootMove s { s with db := s.db.recoverIncompleteVpsOperations reason }
  | other {db' : Db} (h : ∀ id row, s.db.findServer id = some row → row.kind = .reboot →
      db'.findServer id = some row) : RebootMove s { s with db := db' }

abbrev RebootPool :=
  Pool RebootCall RebootCall.Answer (Except Failure Unit) RebootWorld Nat

abbrev RebootRuns (e : RebootEnvironment) : RebootPool → RebootPool → Prop :=
  Pool.Runs (rebootStep e) RebootMove (fun _ _ => True) fun _ => (Reboot.runServerReboot e).run

namespace Server.Db

variable {e : RebootEnvironment} {db db' : Db}

theorem updateServerOperation_serverOperations (e : RebootEnvironment) (db : Db)
    (operationId : Nat) (p : ServerPatch) (now : Nat) :
    (db.updateServerOperation e operationId p now).serverOperations =
      (db.updateServer operationId (p.apply e)).serverOperations := by
  unfold updateServerOperation
  split <;> rfl

theorem findServer_update (e : RebootEnvironment) (db : Db) (operationId : Nat) (p : ServerPatch)
    (now id : Nat) : (db.updateServerOperation e operationId p now).findServer id =
      (db.findServer id).map fun o => if o.id == operationId then p.apply e o else o := by
  rw [findServer_of_eq (updateServerOperation_serverOperations e db operationId p now),
    findServer_updateServer db operationId (f := p.apply e) fun _ => rfl]

theorem findServer_failOwner (db : Db) (owner : LeaseOwner) (reason : String) (id : Nat) :
    (db.failOwner owner reason).findServer id = db.findServer id ∨
      (db.failOwner owner reason).findServer id =
        (db.findServer id).map (ServerOperation.interrupt reason) := by
  unfold failOwner
  cases owner.ownerType with
  | install =>
    cases (db.findInstall owner.ownerId).bind (·.revision) with
    | none => exact .inl rfl
    | some revision => exact .inl rfl
  | ipChange => exact .inl rfl
  | server =>
    simp only [findServer_updateServer db owner.ownerId (interrupt_id reason)]
    cases hf : db.findServer id with
    | none => exact .inl rfl
    | some o =>
      by_cases ho : o.id = owner.ownerId
      · exact .inr (by simp [ho])
      · exact .inl (by simp [ho])

theorem interrupt_interrupt (reason : String) (o : ServerOperation) :
    (o.interrupt reason).interrupt reason = o.interrupt reason := by
  have hterminal : (o.interrupt reason).status.terminal = true := by
    unfold ServerOperation.interrupt
    split
    · assumption
    · split <;> rfl
  rw [ServerOperation.interrupt, if_pos hterminal]

/-- The rows of the reboots are the same, or interrupted. -/
def Interrupted (reason : String) (db db' : Db) : Prop :=
  ∀ id, db'.findServer id = db.findServer id ∨
    db'.findServer id = (db.findServer id).map (ServerOperation.interrupt reason)

theorem Interrupted.trans {a b c : Db} {reason : String} (h : Interrupted reason a b)
    (h' : Interrupted reason b c) : Interrupted reason a c := by
  intro id
  have hmap : ((a.findServer id).map (ServerOperation.interrupt reason)).map
      (ServerOperation.interrupt reason) =
      (a.findServer id).map (ServerOperation.interrupt reason) := by
    rw [Option.map_map]
    exact congrArg (fun f => Option.map f _) (funext (interrupt_interrupt reason))
  rcases h id with h | h <;> rcases h' id with h' | h'
  · exact .inl (h'.trans h)
  · exact .inr (by rw [h', h])
  · exact .inr (h'.trans h)
  · exact .inr (by rw [h', h, hmap])

theorem failOwners_interrupted (type : OwnerType) (reason : String) (ids : List Nat) (db : Db) :
    Interrupted reason db (ids.foldl (fun db id => db.failOwner ⟨type, id⟩ reason) db) := by
  induction ids generalizing db with
  | nil => exact fun _ => .inl rfl
  | cons id ids ih =>
    exact Interrupted.trans (fun other => findServer_failOwner db ⟨type, id⟩ reason other) (ih _)

theorem acquire_interrupted {owner : LeaseOwner} {now : Nat}
    (h : db.acquireVpsLease owner now = .ok db') : Interrupted expiredReason db db' := by
  unfold acquireVpsLease at h
  split at h
  · cases h
    exact fun _ => .inl rfl
  · split at h
    · cases h
    · cases h
      exact fun id => findServer_failOwner db _ expiredReason id

theorem recover_interrupted (db : Db) (reason : String) :
    Interrupted reason db (db.recoverIncompleteVpsOperations reason) :=
  ((failOwners_interrupted .install reason _ db).trans
    (failOwners_interrupted .ipChange reason _ _)).trans (failOwners_interrupted .server reason _ _)

theorem failOwners_serverOperations (type : OwnerType) (ht : type ≠ .server) (reason : String)
    (ids : List Nat) (db : Db) :
    (ids.foldl (fun db id => db.failOwner ⟨type, id⟩ reason) db).serverOperations =
      db.serverOperations := by
  induction ids generalizing db with
  | nil => rfl
  | cons id ids ih =>
    rw [List.foldl_cons, ih]
    cases type with
    | install =>
      unfold failOwner
      cases (db.findInstall id).bind (·.revision) <;> rfl
    | ipChange => rfl
    | server => exact absurd rfl ht

theorem failServers_of_mem (reason : String) {ids : List Nat} {id : Nat} (hid : id ∈ ids)
    (db : Db) : (ids.foldl (fun db id => db.failOwner ⟨.server, id⟩ reason) db).findServer id =
      (db.findServer id).map (ServerOperation.interrupt reason) := by
  induction ids generalizing db with
  | nil => cases hid
  | cons first ids ih =>
    have hrest := failOwners_interrupted .server reason ids (db.failOwner ⟨.server, first⟩ reason) id
    rw [List.foldl_cons]
    by_cases hf : id = first
    · have hself : (db.failOwner ⟨.server, first⟩ reason).findServer id =
          (db.findServer id).map (ServerOperation.interrupt reason) := by
        show (db.updateServer first (ServerOperation.interrupt reason)).findServer id = _
        rw [findServer_updateServer db first (interrupt_id reason)]
        cases hrow : db.findServer id with
        | none => rfl
        | some o => simp [id_of_findServer hrow, hf]
      rcases hrest with h | h
      · rw [h, hself]
      · rw [h, hself, Option.map_map]
        exact congrArg (fun f => Option.map f _) (funext (interrupt_interrupt reason))
    · have hmem : id ∈ ids := by
        rcases List.mem_cons.1 hid with h | h
        · exact absurd h hf
        · exact h
      rw [ih hmem]
      rcases findServer_failOwner db ⟨.server, first⟩ reason id with h | h
      · rw [h]
      · rw [h, Option.map_map]
        exact congrArg (fun f => Option.map f _) (funext (interrupt_interrupt reason))

theorem recover_findServer {id : Nat} {o : ServerOperation} (h : db.findServer id = some o)
    (ho : o.status.terminal = false) (reason : String) :
    (db.recoverIncompleteVpsOperations reason).findServer id = some (o.interrupt reason) := by
  let ips := (activeIds (·.status) (·.id) db.installOperations).foldl
    (fun db id => db.failOwner ⟨.install, id⟩ reason) db
  let servers := (activeIds (·.status) (·.id) ips.ipOperations).foldl
    (fun db id => db.failOwner ⟨.ipChange, id⟩ reason) ips
  have hsame : servers.serverOperations = db.serverOperations :=
    (failOwners_serverOperations .ipChange (by decide) reason _ _).trans
      (failOwners_serverOperations .install (by decide) reason _ _)
  have hrow : servers.findServer id = some o := (findServer_of_eq hsame id).trans h
  have hmem : id ∈ activeIds (fun (o : ServerOperation) => o.status) (·.id)
      servers.serverOperations := by
    rw [← id_of_findServer hrow]
    exact List.mem_map_of_mem
      (List.mem_filter.2 ⟨List.mem_of_find?_eq_some hrow, by simpa using ho⟩)
  have hfail := failServers_of_mem reason hmem servers
  rw [hrow] at hfail
  exact hfail

end Server.Db

/-! The claim of a reboot is earned once and spent once. -/

namespace Server.RebootCall

/-- Nothing but the end of a failed run may take an action back. -/
def allowed : RebootCall → Prop
  | .update p => p.actionState ≠ some .notStarted
  | _ => True

/-- The calls of a run without the request itself. -/
def quiet (c : RebootCall) : Prop := c.allowed ∧ c ≠ .rebootService

def cost (id t : Nat) : RebootCall → Nat
  | .rebootService => if t = id then 1 else 0
  | _ => 0

def gain (id t : Nat) : (c : RebootCall) → c.Answer → Nat
  | .markSending, .ok true => if t = id then 1 else 0
  | _, _ => 0

theorem quiet.cost {c : RebootCall} (h : c.quiet) (id t : Nat) : cost id t c = 0 := by
  cases c with
  | rebootService => exact absurd rfl h.2
  | _ => rfl

end Server.RebootCall

namespace Server.Reboot

open Program RebootCall

variable (e : RebootEnvironment)

theorem uses_ask {c : RebootCall} (h : c.quiet) : Uses quiet (ask c).run := ⟨h, fun _ => trivial⟩

theorem uses_update {p : ServerPatch} (h : p.actionState ≠ some .notStarted) :
    Uses quiet (update p).run := uses_ask ⟨h, nofun⟩

theorem uses_health (host : String) : Uses quiet (serviceAndProtocolHealth host).run := by
  unfold serviceAndProtocolHealth
  refine uses_bind (uses_update nofun) fun _ => ?_
  refine uses_bind (uses_ask ⟨trivial, nofun⟩) fun _ => ?_
  refine uses_bind (uses_update nofun) fun _ => ?_
  refine uses_bind (uses_update nofun) fun _ => ?_
  refine uses_bind (uses_ask ⟨trivial, nofun⟩) fun _ => ?_
  exact uses_bind (uses_update nofun) fun _ => uses_pure _

theorem uses_watchProvider : Uses quiet (watchProvider e).run := by
  unfold watchProvider
  refine uses_tryCatch ?_ fun f => ?_
  · refine uses_bind (uses_ask ⟨trivial, nofun⟩) fun _ => ?_
    exact uses_bind (uses_update nofun) fun _ => uses_pure _
  · cases f with
    | timeout => exact uses_pure _
    | other message => exact uses_throw _

theorem uses_taskStatusOf (task : Option String) : Uses quiet (taskStatusOf task).run := by
  unfold taskStatusOf
  cases task with
  | none => exact uses_pure _
  | some task =>
    dsimp only
    split
    · exact uses_pure _
    · exact uses_ask ⟨trivial, nofun⟩

theorem uses_recordSent (task : Option String) : Uses quiet (recordSent task).run := by
  unfold recordSent
  cases task with
  | none => exact uses_update nofun
  | some task => exact uses_bind (uses_ask ⟨trivial, nofun⟩) fun _ => uses_update nofun

theorem uses_finish (host : String) (r : Requested) (w : Watch) :
    Uses quiet (finish host r w).run := by
  unfold finish
  exact uses_bind (uses_health host) fun _ => uses_update nofun

theorem uses_pause (remaining : Nat) : Uses quiet (pause remaining).run := by
  unfold pause
  split
  · exact uses_pure _
  · exact uses_ask ⟨trivial, nofun⟩

theorem uses_verify (host : String) (r : Requested) (w : Watch) (remaining : Nat) :
    Uses quiet (verify e host r w remaining).run := by
  induction remaining generalizing w with
  | zero => exact uses_update nofun
  | succ remaining ih =>
    unfold verify
    refine uses_bind (uses_update nofun) fun _ => ?_
    refine uses_bind (uses_taskStatusOf r.task) fun taskStatus => ?_
    split
    · exact uses_throw _
    · split
      · exact uses_bind (uses_pause remaining) fun _ => ih _
      · refine uses_bind (uses_watchProvider e) fun _ => ?_
        refine uses_bind (uses_ask ⟨trivial, nofun⟩) fun _ => ?_
        refine uses_bind (uses_update nofun) fun _ => ?_
        split
        · exact uses_finish host r _
        · exact uses_bind (uses_pause remaining) fun _ => ih _

theorem uses_prepareReboot : Uses quiet (prepareReboot e).run := by
  unfold prepareReboot
  refine uses_bind (uses_ask ⟨trivial, nofun⟩) fun _ => ?_
  refine uses_bind (uses_update nofun) fun _ => ?_
  refine uses_bind (uses_ask ⟨trivial, nofun⟩) fun _ => ?_
  refine uses_bind (uses_update nofun) fun _ => ?_
  refine uses_bind (uses_ask ⟨trivial, nofun⟩) fun _ => ?_
  split
  · exact uses_throw _
  · exact uses_pure _

variable (id t : Nat)

abbrev Pays {α : Type} (n : Nat) (p : Reboot α) : Prop :=
  Spends (gain id t) (cost id t) allowed n p.run

theorem Pays.of_uses {α : Type} {p : Reboot α} (h : Uses quiet p.run) (n : Nat) :
    Pays id t n p :=
  h.sat (fun _ _ hq => ⟨by rw [hq.cost]; exact Nat.zero_le _, hq.1⟩) n

theorem Pays.bind {α β : Type} {x : Reboot α} {f : α → Reboot β} {n : Nat} (h : Pays id t n x)
    (hf : ∀ a m, Pays id t m (f a)) : Pays id t n (x >>= f) :=
  sat_bind (R := fun _ _ => True) (h.post fun _ _ _ _ _ => trivial) (fun _ _ => trivial)
    fun a m _ => hf a m

theorem pays_requestReboot {n : Nat} (hn : t = id → 1 ≤ n) : Pays id t n requestReboot := by
  unfold requestReboot
  refine Pays.bind id t ?_ fun r m => Pays.of_uses id t ?_ m
  · refine ⟨⟨?_, trivial⟩, fun r m _ => trivial⟩
    show (if t = id then 1 else 0) ≤ n
    split
    · exact hn ‹_›
    · exact Nat.zero_le n
  · cases r with
    | error f => exact uses_pure _
    | ok response =>
      refine uses_bind (uses_attempt (uses_ask ⟨trivial, nofun⟩)) fun r => ?_
      cases r with
      | error f => exact uses_pure _
      | ok name =>
        refine uses_bind (uses_attempt (uses_recordSent _)) fun r => ?_
        cases r with
        | error f => exact uses_pure _
        | ok u => exact uses_pure _

theorem pays_sendReboot {n : Nat} (hn : t = id → 1 ≤ n) : Pays id t n (sendReboot e) := by
  unfold sendReboot
  refine Pays.bind id t (pays_requestReboot id t hn) fun r m => Pays.of_uses id t ?_ m
  obtain ⟨task, failure⟩ := r
  cases failure with
  | none => exact uses_pure _
  | some f => exact uses_bind (uses_update nofun) fun _ => uses_pure _

theorem pays_performReboot (n : Nat) : Pays id t n (performReboot e) := by
  unfold performReboot
  refine Pays.bind id t (Pays.of_uses id t (uses_prepareReboot e) n) fun host m => ?_
  have hmark : Sat (budgetStep (gain id t) (cost id t)) (fun c k => cost id t c ≤ k ∧ c.allowed)
      (fun r k => ∀ b, r = .ok b → b = true → t = id → 1 ≤ k) (ask .markSending).run m := by
    refine ⟨⟨Nat.zero_le m, trivial⟩, fun r k hk b hr hb ht => ?_⟩
    subst hr hb
    have hgain : gain id t .markSending (.ok true) = 1 := if_pos ht
    rw [hk, hgain]
    exact Nat.le_add_left 1 _
  refine sat_bind hmark (fun _ _ => trivial) fun b k hk => ?_
  cases b with
  | false => exact Pays.of_uses id t (uses_throw _) k
  | true =>
    exact Pays.bind id t (pays_sendReboot e id t (hk rfl)) fun requested m =>
      Pays.of_uses id t (uses_verify e host requested _ _) m

theorem pays_runServerReboot : Pays id t 0 (runServerReboot e) := by
  unfold runServerReboot
  have hget : Uses quiet (ask .getOperation).run := uses_ask ⟨trivial, nofun⟩
  refine Pays.bind id t (Pays.of_uses id t hget 0) fun row n => ?_
  unfold resume
  cases row with
  | none => exact Pays.of_uses id t (uses_pure _) n
  | some operation =>
    dsimp only
    split
    · split
      · exact Pays.of_uses id t (uses_pure _) n
      · refine Pays.of_uses id t ?_ n
        exact uses_update nofun
    · refine Sat.bind ((pays_performReboot e id t n).post fun r m _ => ?_)
      cases r with
      | ok a => trivial
      | error f =>
        have hsettle : Uses quiet (ask (.settleFailure f.message)).run := uses_ask ⟨trivial, nofun⟩
        exact Pays.of_uses id t hsettle m

end Server.Reboot

/-! One call over all runs. -/

def claimed (o : ServerOperation) : Bool := o.kind == .reboot && o.actionState != .notStarted

/-- The claims of the operation that the database shows. -/
def claims (id : Nat) (s : RebootWorld) : Nat :=
  if (s.db.findServer id).any claimed then 1 else 0

/-- A claim that stands in the first database stands in the second. -/
def ClaimKept (id : Nat) (db db' : Db) : Prop :=
  (db.findServer id).any claimed = true → (db'.findServer id).any claimed = true

theorem ClaimKept.le {id : Nat} {s s' : RebootWorld} (h : ClaimKept id s.db s'.db) :
    claims id s ≤ claims id s' := by
  unfold claims
  by_cases hc : (s.db.findServer id).any claimed = true
  · rw [if_pos hc, if_pos (h hc)]
  · rw [if_neg hc]
    exact Nat.zero_le _

namespace Server.Db

variable {e : RebootEnvironment} {db db' : Db} {id : Nat}

theorem ClaimKept.of_map {f : ServerOperation → ServerOperation}
    (h : db'.findServer id = (db.findServer id).map f)
    (hf : ∀ o, claimed o = true → claimed (f o) = true) : ClaimKept id db db' := by
  intro hc
  rw [h]
  cases hrow : db.findServer id with
  | none => simp [hrow] at hc
  | some o =>
    rw [hrow, Option.any_some] at hc
    rw [Option.map_some, Option.any_some]
    exact hf o hc

theorem ClaimKept.of_eq (h : db'.findServer id = db.findServer id) : ClaimKept id db db' := by
  intro hc
  rw [h]
  exact hc

theorem claimed_interrupt (reason : String) (o : ServerOperation) (h : claimed o = true) :
    claimed (o.interrupt reason) = true := by
  unfold ServerOperation.interrupt
  split
  · exact h
  · split
    · simp only [claimed, Bool.and_eq_true] at h ⊢
      exact ⟨h.1, rfl⟩
    · exact h

theorem Interrupted.claimKept {reason : String} (h : Interrupted reason db db') (id : Nat) :
    ClaimKept id db db' := by
  rcases h id with h | h
  · exact ClaimKept.of_eq h
  · exact ClaimKept.of_map h (claimed_interrupt reason)

theorem claimed_apply {p : ServerPatch} (hp : p.actionState ≠ some .notStarted)
    (o : ServerOperation) (h : claimed o = true) : claimed (p.apply e o) = true := by
  simp only [claimed, Bool.and_eq_true, bne_iff_ne] at h ⊢
  refine ⟨h.1, ?_⟩
  show p.actionState.getD o.actionState ≠ .notStarted
  cases ha : p.actionState with
  | none => exact h.2
  | some a =>
    rintro rfl
    exact hp ha

theorem claimKept_update {p : ServerPatch} (hp : p.actionState ≠ some .notStarted)
    (operationId now : Nat) :
    ClaimKept id db (db.updateServerOperation e operationId p now) := by
  refine ClaimKept.of_map (findServer_update e db operationId p now id) fun o ho => ?_
  split
  · exact claimed_apply hp o ho
  · exact ho

theorem findServer_settleFailure (e : RebootEnvironment) (db : Db) (operationId : Nat)
    (error : String) (now : Nat) (id : Nat) :
    ∃ p : ServerPatch, (db.settleFailure e operationId error now).findServer id =
      (db.findServer id).map (fun o => if o.id == operationId then p.apply e o else o) ∧
      p.actionState = some (if (db.findServer operationId).any
        (fun o => o.actionState != .notStarted) then .ambiguous else .notStarted) :=
  ⟨_, findServer_update e db operationId _ now id, rfl⟩

theorem claimKept_settle (operationId : Nat) (error : String) (now : Nat) :
    ClaimKept id db (db.settleFailure e operationId error now) := by
  obtain ⟨p, hfind, hp⟩ := findServer_settleFailure e db operationId error now id
  intro hc
  rw [hfind]
  cases hrow : db.findServer id with
  | none => simp [hrow] at hc
  | some o =>
    rw [hrow, Option.any_some] at hc
    rw [Option.map_some, Option.any_some]
    by_cases ho : o.id = operationId
    · have hid : id = operationId := (id_of_findServer hrow).symm.trans ho
      have hstarted : o.actionState ≠ .notStarted := by
        simp only [claimed, Bool.and_eq_true, bne_iff_ne] at hc
        exact hc.2
      have hsent : (db.findServer operationId).any
          (fun o => o.actionState != .notStarted) = true := by
        rw [← hid, hrow]
        simpa using hstarted
      have hb : (o.id == operationId) = true := by simpa using ho
      rw [if_pos hb]
      refine claimed_apply ?_ o hc
      rw [hp, if_pos hsent]
      nofun
    · have hb : ¬(o.id == operationId) = true := by simpa using ho
      rw [if_neg hb]
      exact hc

theorem findServer_markRebootSending (db : Db) (operationId now id : Nat) :
    ((db.markRebootSending operationId now).1 = false ∧
      (db.markRebootSending operationId now).2 = db) ∨
    ((db.markRebootSending operationId now).1 = true ∧
      (db.findServer operationId).any sendable = true ∧
      (db.markRebootSending operationId now).2.findServer id =
        (db.findServer id).map fun o => if o.id == operationId then o.markSending else o) := by
  unfold markRebootSending
  by_cases h : (db.findServer operationId).any sendable = true
  · rw [if_pos h]
    refine .inr ⟨rfl, h, ?_⟩
    exact findServer_updateServer db operationId (f := ServerOperation.markSending)
      (fun _ => rfl) id
  · rw [if_neg h]
    exact .inl ⟨rfl, rfl⟩

theorem claimKept_create {kind : ServerKind} {now : Nat}
    (h : db.createServerOperation kind now = .ok db') : ClaimKept id db db' := by
  have hinserted : ClaimKept id db { db with
      serverOperations := db.serverOperations ++ [newServerOperation (db.serverSequence + 1) kind]
      serverSequence := db.serverSequence + 1 } := by
    intro hc
    cases hrow : db.findServer id with
    | none => simp [hrow] at hc
    | some o =>
      rw [hrow] at hc
      unfold findServer at hrow ⊢
      rw [List.find?_append, hrow]
      exact hc
  intro hc
  exact (acquire_interrupted h).claimKept id (hinserted hc)

end Server.Db

theorem RebootMove.kept {s s' : RebootWorld} (h : RebootMove s s') (id : Nat) :
    s'.rebootCalls id = s.rebootCalls id ∧ claims id s ≤ claims id s' := by
  cases h with
  | create h => exact ⟨rfl, (claimKept_create h).le⟩
  | acquire h => exact ⟨rfl, ((acquire_interrupted h).claimKept id).le⟩
  | recover reason => exact ⟨rfl, ((recover_interrupted s.db reason).claimKept id).le⟩
  | @other db' h =>
    refine ⟨rfl, ClaimKept.le fun hc => ?_⟩
    cases hrow : s.db.findServer id with
    | none => simp [hrow] at hc
    | some o =>
      rw [hrow, Option.any_some] at hc
      have hkind : o.kind = .reboot := by
        simp only [claimed, Bool.and_eq_true, beq_iff_eq] at hc
        exact hc.1
      show (db'.findServer id).any claimed = true
      rw [h id o hrow hkind, Option.any_some]
      exact hc

theorem claimed_markSending {o : ServerOperation} (h : o.kind = .reboot) :
    claimed o.markSending = true := by
  simp [claimed, ServerOperation.markSending, h]

theorem claims_markSending (s : RebootWorld) (t now id : Nat) :
    claims id s + RebootCall.gain id t .markSending (.ok (s.db.markRebootSending t now).1) ≤
      claims id { s with db := (s.db.markRebootSending t now).2 } := by
  rcases findServer_markRebootSending s.db t now id with ⟨hfalse, hsame⟩ | ⟨htrue, hsend, hfind⟩
  · rw [hfalse, hsame]
    exact le_rfl
  · rw [htrue]
    by_cases ht : t = id
    · subst ht
      cases hrow : s.db.findServer t with
      | none => simp [hrow] at hsend
      | some o =>
        rw [hrow, Option.any_some] at hsend
        simp only [sendable, Bool.and_eq_true, beq_iff_eq] at hsend
        have hbefore : claims t s = 0 := by
          unfold claims
          rw [hrow]
          simp [claimed, hsend.2]
        have hid : (o.id == t) = true := by simpa using id_of_findServer hrow
        have hrow' : (s.db.markRebootSending t now).2.findServer t = some o.markSending := by
          rw [hfind, hrow, Option.map_some, if_pos hid]
        have hafter : claims t { s with db := (s.db.markRebootSending t now).2 } = 1 := by
          unfold claims
          rw [hrow', Option.any_some, if_pos (claimed_markSending hsend.1.1)]
        have hgain : RebootCall.gain t t .markSending (.ok true) = 1 := if_pos rfl
        rw [hbefore, hafter, hgain]
    · have hgain : RebootCall.gain id t .markSending (.ok true) = 0 := if_neg ht
      rw [hgain]
      refine ClaimKept.le (ClaimKept.of_map hfind fun o ho => ?_)
      split
      · simp only [claimed, Bool.and_eq_true] at ho
        exact claimed_markSending (by simpa using ho.1)
      · exact ho

theorem rebootStep_accounts {e : RebootEnvironment} {t : Nat} {c : RebootCall}
    {s s' : RebootWorld} {r : c.Answer} (hc : c.allowed) (h : rebootStep e t c s r s') (id : Nat) :
    s'.rebootCalls id = s.rebootCalls id + RebootCall.cost id t c ∧
      claims id s + RebootCall.gain id t c r ≤ claims id s' := by
  have hsame (h : s' = s) (hgain : RebootCall.gain id t c r = 0)
      (hcost : RebootCall.cost id t c = 0) :
      s'.rebootCalls id = s.rebootCalls id + RebootCall.cost id t c ∧
        claims id s + RebootCall.gain id t c r ≤ claims id s' := by
    rw [hgain, hcost, h]
    exact ⟨rfl, le_rfl⟩
  cases c with
  | getOperation => exact hsame h.1 rfl rfl
  | update p =>
    rcases h with ⟨rfl, now, rfl⟩ | ⟨f, rfl, he⟩
    · exact ⟨rfl, (claimKept_update hc t now).le⟩
    · exact hsame he rfl rfl
  | markSending =>
    rcases h with ⟨now, rfl, rfl⟩ | ⟨f, rfl, he⟩
    · exact ⟨rfl, claims_markSending s t now id⟩
    · exact hsame he rfl rfl
  | rebootService =>
    obtain rfl := h
    refine ⟨?_, le_rfl⟩
    show s.rebootCalls id + (if id = t then 1 else 0) = s.rebootCalls id + if t = id then 1 else 0
    by_cases ht : t = id
    · rw [if_pos ht, if_pos ht.symm]
    · rw [if_neg ht, if_neg fun he => ht he.symm]
  | storeTask task =>
    exact ⟨congrFun h.1 id, (ClaimKept.of_eq (findServer_of_eq h.2 id)).le⟩
  | settleFailure error =>
    rcases h with ⟨rfl, now, rfl⟩ | ⟨f, rfl, he⟩
    · exact ⟨rfl, (claimKept_settle t error now).le⟩
    · exact hsame he rfl rfl
  | providerClient => exact hsame h rfl rfl
  | providerStatus => exact hsame h rfl rfl
  | host providerIp => exact hsame h rfl rfl
  | providerName => exact hsame h rfl rfl
  | taskStatus task => exact hsame h rfl rfl
  | tcpCheck host => exact hsame h rfl rfl
  | services host => exact hsame h rfl rfl
  | protocols host => exact hsame h rfl rfl
  | sleep => exact hsame h rfl rfl

theorem reboot_accounts (e : RebootEnvironment) (id : Nat) :
    Pool.Accounts (rebootStep e) RebootMove (fun _ _ => True)
      (fun _ => (Reboot.runServerReboot e).run) (RebootCall.gain id) (RebootCall.cost id)
      (fun _ => RebootCall.allowed) (fun s => s.rebootCalls id) (claims id) where
  move := fun h => h.kept id
  call := fun hc h => rebootStep_accounts hc h id
  start := fun t => Reboot.pays_runServerReboot e id t

/-- Requests are claimed, over every run from a database without requests. -/
theorem rebootCalls_le_claims {e : RebootEnvironment} {s : RebootWorld}
    (hs : ∀ id, s.rebootCalls id = 0) {p : RebootPool} (h : RebootRuns e ⟨s, []⟩ p) (id : Nat) :
    p.state.rebootCalls id ≤ claims id p.state := by
  have hidle : s.rebootCalls id ≤ claims id s := by
    rw [hs id]
    exact Nat.zero_le _
  exact ((reboot_accounts e id).runs (Pool.Solvent.idle hidle) h).paid_le

/-! After a crash. -/

def ambiguous (o : ServerOperation) : Prop := o.status = .ambiguous ∧ o.actionState = .ambiguous

/-- A reboot that may have been requested, and that has not ended but ambiguous. -/
def Unsettled (o : ServerOperation) : Prop :=
  claimed o = true ∧ (o.status.terminal = false ∨ ambiguous o)

def RowIs (P : ServerOperation → Prop) (id : Nat) (db : Db) : Prop :=
  ∃ o, db.findServer id = some o ∧ P o

theorem RowIs.map {P Q : ServerOperation → Prop} {id : Nat} {db db' : Db}
    (h : RowIs P id db) {f : ServerOperation → ServerOperation}
    (hf : db'.findServer id = (db.findServer id).map f) (hpq : ∀ o, P o → Q (f o)) :
    RowIs Q id db' := by
  obtain ⟨o, ho, hp⟩ := h
  exact ⟨f o, by rw [hf, ho]; rfl, hpq o hp⟩

theorem interrupt_unsettled (reason : String) {o : ServerOperation} (h : Unsettled o) :
    ambiguous (o.interrupt reason) := by
  obtain ⟨hc, hs⟩ := h
  simp only [claimed, Bool.and_eq_true, beq_iff_eq, bne_iff_ne] at hc
  unfold ServerOperation.interrupt
  split
  · rename_i ht
    rcases hs with hs | hs
    · rw [ht] at hs
      cases hs
    · exact hs
  · exact ⟨rfl, rfl⟩

theorem Unsettled.of_ambiguous {o o' : ServerOperation} (h : claimed o = true)
    (hk : o'.kind = o.kind) (ha : ambiguous o') : Unsettled o' := by
  refine ⟨?_, .inr ha⟩
  simp only [claimed, Bool.and_eq_true, beq_iff_eq, bne_iff_ne] at h ⊢
  exact ⟨hk.trans h.1, by rw [ha.2]; nofun⟩

/-- What the row of one operation may become, seen by the runs after the crash. -/
structure Settles (id : Nat) (db db' : Db) : Prop where
  unsettled : RowIs Unsettled id db → RowIs Unsettled id db'
  ambiguous : RowIs Unsettled id db → RowIs ambiguous id db → RowIs ambiguous id db'

theorem Settles.of_eq {id : Nat} {db db' : Db} (h : db'.findServer id = db.findServer id) :
    Settles id db db' := by
  refine ⟨fun hr => ?_, fun _ hr => ?_⟩
  · rwa [RowIs, h]
  · rwa [RowIs, h]

theorem Settles.of_map {id : Nat} {db db' : Db} {f : ServerOperation → ServerOperation}
    (h : db'.findServer id = (db.findServer id).map f)
    (hf : ∀ o, Unsettled o → (f o).kind = o.kind ∧ AutoVPN.ambiguous (f o)) :
    Settles id db db' ∧ (RowIs Unsettled id db → RowIs AutoVPN.ambiguous id db') := by
  have hamb : RowIs Unsettled id db → RowIs AutoVPN.ambiguous id db' :=
    fun hr => hr.map h fun o ho => (hf o ho).2
  exact ⟨⟨fun hr => hr.map h fun o ho => Unsettled.of_ambiguous ho.1 (hf o ho).1 (hf o ho).2,
    fun hr _ => hamb hr⟩, hamb⟩

theorem interrupt_kind (reason : String) (o : ServerOperation) :
    (o.interrupt reason).kind = o.kind := by
  unfold ServerOperation.interrupt
  split
  · rfl
  · split <;> rfl

theorem Server.Db.Interrupted.settles {reason : String} {db db' : Db} (h : Interrupted reason db db')
    (id : Nat) : Settles id db db' := by
  rcases h id with h | h
  · exact Settles.of_eq h
  · exact (Settles.of_map h fun o ho => ⟨interrupt_kind reason o, interrupt_unsettled reason ho⟩).1

theorem Settles.trans {id : Nat} {a b c : Db} (h : Settles id a b) (h' : Settles id b c) :
    Settles id a c :=
  ⟨fun hr => h'.unsettled (h.unsettled hr),
    fun hr ha => h'.ambiguous (h.unsettled hr) (h.ambiguous hr ha)⟩

theorem rebootStep_other {e : RebootEnvironment} {t id : Nat} (ht : t ≠ id) {c : RebootCall}
    {s s' : RebootWorld} {r : c.Answer} (h : rebootStep e t c s r s') :
    s'.db.findServer id = s.db.findServer id := by
  have hrow (f : ServerOperation → ServerOperation) :
      (s.db.findServer id).map (fun o => if o.id == t then f o else o) = s.db.findServer id := by
    cases hrow : s.db.findServer id with
    | none => rfl
    | some o =>
      have hne : (o.id == t) = false := by simpa [id_of_findServer hrow] using Ne.symm ht
      rw [Option.map_some, hne]
      rfl
  have hsame (h : s' = s) : s'.db.findServer id = s.db.findServer id := by rw [h]
  cases c with
  | getOperation => exact hsame h.1
  | update p =>
    rcases h with ⟨-, now, rfl⟩ | ⟨f, -, he⟩
    · exact (findServer_update e s.db t p now id).trans (hrow _)
    · exact hsame he
  | markSending =>
    rcases h with ⟨now, -, rfl⟩ | ⟨f, -, he⟩
    · rcases findServer_markRebootSending s.db t now id with ⟨-, hs⟩ | ⟨-, -, hf⟩
      · exact congrArg (fun db => Db.findServer db id) hs
      · exact hf.trans (hrow _)
    · exact hsame he
  | rebootService =>
    obtain rfl := h
    rfl
  | storeTask task => exact findServer_of_eq h.2 id
  | settleFailure error =>
    rcases h with ⟨-, now, rfl⟩ | ⟨f, -, he⟩
    · obtain ⟨p, hf, -⟩ := findServer_settleFailure e s.db t error now id
      exact hf.trans (hrow _)
    · exact hsame he
  | providerClient => exact hsame h
  | providerStatus => exact hsame h
  | host providerIp => exact hsame h
  | providerName => exact hsame h
  | taskStatus task => exact hsame h
  | tcpCheck host => exact hsame h
  | services host => exact hsame h
  | protocols host => exact hsame h
  | sleep => exact hsame h

theorem RebootMove.settles {s s' : RebootWorld} (h : RebootMove s s') {id : Nat}
    (hs : RowIs Unsettled id s.db) : Settles id s.db s'.db := by
  obtain ⟨o, ho, hu⟩ := hs
  cases h with
  | create h =>
    refine Settles.trans (b := { s.db with
      serverOperations := s.db.serverOperations ++ [newServerOperation (s.db.serverSequence + 1) _]
      serverSequence := s.db.serverSequence + 1 }) (Settles.of_eq ?_)
      ((acquire_interrupted h).settles id)
    rw [ho]
    unfold findServer at ho ⊢
    rw [List.find?_append, ho]
    rfl
  | acquire h => exact (acquire_interrupted h).settles id
  | recover reason => exact (recover_interrupted s.db reason).settles id
  | other h =>
    refine Settles.of_eq ?_
    have hkind : o.kind = .reboot := by
      have hc := hu.1
      simp only [claimed, Bool.and_eq_true, beq_iff_eq] at hc
      exact hc.1
    rw [ho]
    exact h id o ho hkind

/-- The calls of the runs that follow the crash, for the operation itself. -/
def Resumed (id t : Nat) (c : RebootCall) (_ : RebootWorld) : Prop :=
  t = id → c = .getOperation ∨ c = .update Reboot.manualVerification

def Settled (id t : Nat) (r : Except Failure Unit) (s : RebootWorld) : Prop :=
  t = id → r = .ok () → RowIs ambiguous id s.db

theorem manualVerification_settles (e : RebootEnvironment) {db : Db} {id : Nat} (now : Nat) :
    Settles id db (db.updateServerOperation e id Reboot.manualVerification now) ∧
      (RowIs Unsettled id db →
        RowIs ambiguous id (db.updateServerOperation e id Reboot.manualVerification now)) := by
  have hfind := findServer_update e db id Reboot.manualVerification now id
  have hrow : (db.updateServerOperation e id Reboot.manualVerification now).findServer id =
      (db.findServer id).map (Reboot.manualVerification.apply e) := by
    rw [hfind]
    cases hr : db.findServer id with
    | none => rfl
    | some o =>
      rw [Option.map_some, Option.map_some, if_pos (by simpa using id_of_findServer hr)]
  exact Settles.of_map hrow fun o _ => ⟨rfl, rfl, rfl⟩

theorem safe_of_trivial {ι : Type} {ρ : ι → Type} {α σ : Type}
    {step : (i : ι) → σ → ρ i → σ → Prop} {I : σ → Prop} {R : σ → σ → Prop}
    {G : ι → σ → Prop} {Q : α → σ → Prop} (hG : ∀ i s, G i s) (hQ : ∀ a s, Q a s)
    (p : Program ι ρ α) (s : σ) : Program.Safe step I R G Q p s := by
  induction p generalizing s with
  | done a => exact fun u _ _ => hQ a u
  | call i next ih => exact fun u _ _ => ⟨hG i u, fun r s' _ => ih r s'⟩

theorem reboot_contract (e : RebootEnvironment) (id : Nat) :
    Pool.Contract (rebootStep e) RebootMove (fun _ _ => True)
      (fun _ => (Reboot.runServerReboot e).run) (fun s => RowIs Unsettled id s.db)
      (fun s s' => Settles id s.db s'.db) (Resumed id) (Settled id) where
  refl := fun s => Settles.of_eq rfl
  trans := fun a b c h h' => Settles.trans h h'
  move := fun hs h => ⟨(h.settles hs).unsettled hs, h.settles hs⟩
  call := by
    intro t c s r s' hs hg h
    have hsettles : Settles id s.db s'.db := by
      by_cases ht : t = id
      · subst ht
        rcases hg rfl with rfl | rfl
        · rw [h.1]
          exact Settles.of_eq rfl
        · rcases h with ⟨-, now, rfl⟩ | ⟨f, -, rfl⟩
          · exact (manualVerification_settles e now).1
          · exact Settles.of_eq rfl
      · exact Settles.of_eq (rebootStep_other ht h)
    exact ⟨hsettles.unsettled hs, hsettles⟩
  start := by
    intro t s hs _
    by_cases ht : t = id
    · subst ht
      intro u _ hu
      refine ⟨fun _ => .inl rfl, fun r s' h => ?_⟩
      obtain ⟨rfl, hr⟩ := h
      rcases hr with rfl | ⟨f, rfl⟩
      · obtain ⟨o, ho, hun⟩ := hu
        have hclaimed := hun.1
        simp only [claimed, Bool.and_eq_true, beq_iff_eq, bne_iff_ne] at hclaimed
        show Program.Safe _ _ _ _ _ (Reboot.resume e (s'.db.findServer t)).run s'
        rw [ho]
        unfold Reboot.resume
        dsimp only
        rw [if_pos hclaimed.2]
        by_cases hterminal : o.status.terminal = true
        · rw [if_pos hterminal]
          have hamb : ambiguous o := by
            rcases hun.2 with hf | ha
            · rw [hterminal] at hf
              cases hf
            · exact ha
          exact fun v hv _ _ _ => hv.ambiguous ⟨o, ho, hun⟩ ⟨o, ho, hamb⟩
        · rw [if_neg hterminal]
          intro v _ hv
          refine ⟨fun _ => .inr rfl, fun r w h => ?_⟩
          rcases h with ⟨rfl, now, rfl⟩ | ⟨f, rfl, rfl⟩
          · have hw : Settles t v.db (v.db.updateServerOperation e t Reboot.manualVerification now) ∧
                (RowIs Unsettled t v.db → RowIs ambiguous t
                  (v.db.updateServerOperation e t Reboot.manualVerification now)) :=
              manualVerification_settles e now
            exact fun x hx _ _ _ => hx.ambiguous (hw.1.unsettled hv) (hw.2 hv)
          · exact fun x _ _ _ hr => by cases hr
      · exact fun v _ _ _ hr => by cases hr
    · exact safe_of_trivial (fun c s h => absurd h ht) (fun r s h => absurd h ht) _ s

/-- Over every run from a database without requests: each operation asks once at most; what
has asked is never taken for not started; and a crash between the claim and the end leaves
the operation ambiguous, after a recovery as after a new run. -/
theorem reboot_once {e : RebootEnvironment} {s : RebootWorld} (hs : ∀ id, s.rebootCalls id = 0)
    {p : RebootPool} (h : RebootRuns e ⟨s, []⟩ p) (id : Nat) :
    p.state.rebootCalls id ≤ 1 ∧
    (1 ≤ p.state.rebootCalls id →
      RowIs (fun o => o.kind = .reboot ∧ o.actionState ≠ .notStarted) id p.state.db) ∧
    (RowIs (fun o => o.kind = .reboot ∧ o.actionState ≠ .notStarted ∧
        o.status.terminal = false) id p.state.db →
      (∀ reason q, RebootRuns e
          ⟨{ p.state with db := p.state.db.recoverIncompleteVpsOperations reason }, []⟩ q →
        RowIs ambiguous id q.state.db) ∧
      ∀ q, RebootRuns e ⟨p.state, []⟩ q → (id, Program.done (.ok ())) ∈ q.tasks →
        RowIs ambiguous id q.state.db) := by
  have hle := rebootCalls_le_claims hs h id
  have hclaims : claims id p.state ≤ 1 := by
    unfold claims
    split
    · exact le_rfl
    · exact Nat.zero_le _
  refine ⟨hle.trans hclaims, fun hone => ?_, fun hrow => ?_⟩
  · cases hrow : p.state.db.findServer id with
    | none =>
      simp only [claims, hrow, Option.any_none, Bool.false_eq_true, if_false] at hle
      omega
    | some o =>
      by_cases hc : claimed o = true
      · simp only [claimed, Bool.and_eq_true, beq_iff_eq, bne_iff_ne] at hc
        exact ⟨o, hrow, hc⟩
      · simp only [claims, hrow, Option.any_some, hc, Bool.false_eq_true, if_false] at hle
        omega
  · obtain ⟨o, ho, hkind, haction, hstatus⟩ := hrow
    have hun : Unsettled o := ⟨by simp [claimed, hkind, haction], .inl hstatus⟩
    refine ⟨fun reason q hq => ?_, fun q hq hdone => ?_⟩
    · have hrecovered := recover_findServer ho hstatus reason
      have hamb := interrupt_unsettled reason hun
      have hstart : RowIs Unsettled id (p.state.db.recoverIncompleteVpsOperations reason) :=
        ⟨_, hrecovered, Unsettled.of_ambiguous hun.1 (interrupt_kind reason o) hamb⟩
      have hrun := (reboot_contract e id).runs (Pool.Sound.idle hstart) hq
      exact hrun.2.ambiguous hstart ⟨_, hrecovered, hamb⟩
    · have hstart : RowIs Unsettled id p.state.db := ⟨o, ho, hun⟩
      have hrun := (reboot_contract e id).runs (Pool.Sound.idle hstart) hq
      exact hrun.1.result (reboot_contract e id).refl hdone rfl rfl

namespace RebootSample

def environment : RebootEnvironment where
  clean := id
  cleanShort := id
  safeError := id
  providerLabel := "Aeza"
  providerUp := fun status => if status = "running" then some true else none
  attempts := 1

def queued : Db where
  settings := []
  clients := []
  routers := []
  peers := []
  credentials := []
  desiredRevision := 1
  appliedRevision := none
  snapshots := fun _ => none
  installOperations := []
  ipOperations := []
  serverOperations := [newServerOperation 1 .reboot]
  lease := some (grantedLease ⟨.server, 1⟩ 0)
  clientSequence := 0
  installSequence := 0
  ipSequence := 0
  serverSequence := 1

def start : RebootWorld := ⟨queued, fun _ => 0⟩

theorem solo {e : RebootEnvironment} {t : Nat} {c : RebootCall} {s s' : RebootWorld}
    {next : c.Answer → Program RebootCall RebootCall.Answer (Except Failure Unit)} (r : c.Answer)
    (h : rebootStep e t c s r s') :
    RebootRuns e ⟨s, [(t, .call c next)]⟩ ⟨s', [(t, next r)]⟩ := by
  have hstep : Pool.Step (rebootStep e) RebootMove (fun _ _ => True)
      (fun _ => (Reboot.runServerReboot e).run) ⟨s, [] ++ (t, .call c next) :: []⟩
      ⟨s', [] ++ (t, next r) :: []⟩ := .call h
  exact .single hstep

theorem lost {e : RebootEnvironment} {s : RebootWorld}
    {task : Nat × Program RebootCall RebootCall.Answer (Except Failure Unit)} :
    RebootRuns e ⟨s, [task]⟩ ⟨s, []⟩ := by
  have hstep : Pool.Step (rebootStep e) RebootMove (fun _ _ => True)
      (fun _ => (Reboot.runServerReboot e).run) ⟨s, [] ++ task :: []⟩ ⟨s, [] ++ []⟩ := .drop
  exact .single hstep

theorem crashed : ∃ s, RebootRuns environment ⟨start, []⟩ ⟨s, []⟩ ∧ s.rebootCalls 1 = 1 := by
  have hstart : RebootRuns environment ⟨start, []⟩
      ⟨start, [(1, (Reboot.runServerReboot environment).run)]⟩ := .single (.start trivial)
  have hread := hstart.trans (solo (.ok (queued.findServer 1)) ⟨rfl, .inl rfl⟩)
  have hclient := hread.trans (solo (.ok ()) rfl)
  have hrunning := hclient.trans (solo (.ok ()) (.inl ⟨rfl, 0, rfl⟩))
  have hstatus := hrunning.trans (solo (.ok ("running", "192.0.2.1")) rfl)
  have hnoted := hstatus.trans (solo (.ok ()) (.inl ⟨rfl, 0, rfl⟩))
  have hhost := hnoted.trans (solo (.ok "192.0.2.1") rfl)
  have hmarked := hhost.trans (solo (.ok true) (.inl ⟨0, rfl, rfl⟩))
  have hsent := hmarked.trans (solo (.error .timeout) rfl)
  exact ⟨_, hsent.trans lost, rfl⟩

end RebootSample

open RebootSample in
theorem crashedReboot_claimed : ∃ s : RebootWorld, s.rebootCalls 1 = 1 ∧
    RowIs (fun o => o.kind = .reboot ∧ o.actionState ≠ .notStarted) 1 s.db := by
  obtain ⟨s, hrun, hone⟩ := crashed
  exact ⟨s, hone, (reboot_once (fun _ => rfl) hrun 1).2.1 (by rw [hone])⟩

end AutoVPN
