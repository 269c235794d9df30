import AutoVPN.Server.Lookup
import AutoVPN.Server.Transactions

/-! Every transaction does to the operations and their lease what its event does. -/

namespace AutoVPN

open Server Server.Db

namespace Server

/-- The rows keep their numbers, and the lease its holder. -/
structure Kept (db db' : Db) : Prop where
  install : db'.installOperations.map (·.id) = db.installOperations.map (·.id)
  ip : db'.ipOperations.map (·.id) = db.ipOperations.map (·.id)
  server : db'.serverOperations.map (·.id) = db.serverOperations.map (·.id)
  installSequence : db'.installSequence = db.installSequence
  ipSequence : db'.ipSequence = db.ipSequence
  serverSequence : db'.serverSequence = db.serverSequence
  lease : ∀ l', db'.lease = some l' → ∃ l, db.lease = some l ∧ l.owner = l'.owner

theorem Kept.refl (db : Db) : Kept db db := ⟨rfl, rfl, rfl, rfl, rfl, rfl, fun l h => ⟨l, h, rfl⟩⟩

theorem Kept.trans {a b c : Db} (h : Kept a b) (h' : Kept b c) : Kept a c := by
  refine ⟨h'.install.trans h.install, h'.ip.trans h.ip, h'.server.trans h.server,
    h'.installSequence.trans h.installSequence, h'.ipSequence.trans h.ipSequence,
    h'.serverSequence.trans h.serverSequence, fun l hl => ?_⟩
  obtain ⟨m, hm, he⟩ := h'.lease l hl
  obtain ⟨n, hn, he'⟩ := h.lease m hm
  exact ⟨n, hn, he'.trans he⟩

theorem Kept.of_same {db db' : Db} (h : db.SameOperations db') : Kept db db' :=
  ⟨by rw [h.install], by rw [h.ip], by rw [h.server], h.installSequence, h.ipSequence,
    h.serverSequence, fun l hl => ⟨l, by rw [← h.lease]; exact hl, rfl⟩⟩

theorem le_of_map_eq {α : Type} {l l' : List α} {f : α → Nat} {n n' : Nat}
    (h : l'.map f = l.map f) (hn : n' = n) (hl : ∀ o ∈ l, f o ≤ n) : ∀ o ∈ l', f o ≤ n' := by
  intro o ho
  have hmem : f o ∈ l.map f := h ▸ List.mem_map_of_mem ho
  obtain ⟨x, hx, he⟩ := List.mem_map.mp hmem
  rw [hn, ← he]
  exact hl x hx

theorem Numbered.kept {db db' : Db} (hn : Numbered db) (h : Kept db db') : Numbered db' := by
  refine ⟨le_of_map_eq h.install h.installSequence hn.install, le_of_map_eq h.ip h.ipSequence hn.ip,
    le_of_map_eq h.server h.serverSequence hn.server, fun l hl => ?_⟩
  obtain ⟨m, hm, he⟩ := h.lease l hl
  have hle := hn.lease m hm
  rw [he] at hle
  rw [h.installSequence, h.ipSequence, h.serverSequence]
  exact hle

theorem map_update_id {α : Type} {key : α → Nat} (l : List α) (target : Nat) {f : α → α}
    (hf : ∀ o, key (f o) = key o) :
    (l.map fun o => if key o == target then f o else o).map key = l.map key := by
  rw [List.map_map]
  refine List.map_congr_left fun o _ => ?_
  simp only [Function.comp_apply]
  split
  · exact hf o
  · rfl

variable (db : Db)

theorem kept_updateInstall (id : Nat) {f : InstallOperation → InstallOperation}
    (hf : ∀ o, (f o).id = o.id) : Kept db (db.updateInstall id f) :=
  { Kept.refl db with install := map_update_id db.installOperations id hf }

theorem kept_updateIp (id : Nat) {f : IpOperation → IpOperation} (hf : ∀ o, (f o).id = o.id) :
    Kept db (db.updateIp id f) :=
  { Kept.refl db with ip := map_update_id db.ipOperations id hf }

theorem kept_updateServer (id : Nat) {f : ServerOperation → ServerOperation}
    (hf : ∀ o, (f o).id = o.id) : Kept db (db.updateServer id f) :=
  { Kept.refl db with server := map_update_id db.serverOperations id hf }

theorem kept_release (owner : LeaseOwner) : Kept db (db.releaseVpsLease owner) :=
  { Kept.refl db with lease := fun l hl => ⟨l, (Option.filter_eq_some_iff.mp hl).1, rfl⟩ }

theorem kept_heartbeat (owner : LeaseOwner) (now : Nat) :
    Kept db (db.heartbeatVpsLease owner now).2 := by
  refine { Kept.refl db with lease := fun l hl => ?_ }
  obtain ⟨m, hm, rfl⟩ := Option.map_eq_some_iff.mp hl
  exact ⟨m, hm, by split <;> rfl⟩

theorem kept_failOwner (owner : LeaseOwner) (reason : String) :
    Kept db (db.failOwner owner reason) := by
  unfold failOwner
  cases owner.ownerType with
  | install =>
    cases (db.findInstall owner.ownerId).bind (·.revision) with
    | none => exact kept_updateInstall db _ (interrupt_install_id reason)
    | some revision =>
      have hsnapshot : Kept db (db.updateSnapshot revision VpnSnapshot.failPrepared) :=
        ⟨rfl, rfl, rfl, rfl, rfl, rfl, fun l h => ⟨l, h, rfl⟩⟩
      exact hsnapshot.trans (kept_updateInstall _ _ (interrupt_install_id reason))
  | ipChange => exact kept_updateIp db _ (interrupt_ip_id reason)
  | server => exact kept_updateServer db _ (interrupt_id reason)

theorem kept_failOwners (type : OwnerType) (reason : String) (ids : List Nat) (db : Db) :
    Kept db (ids.foldl (fun db id => db.failOwner ⟨type, id⟩ reason) db) := by
  induction ids generalizing db with
  | nil => exact Kept.refl db
  | cons id ids ih => exact (kept_failOwner db ⟨type, id⟩ reason).trans (ih _)

/-! The phases after a write. -/

/-- The phase of `owner` changes by `g`, and no other one does. -/
def Rephases (db db' : Db) (owner : LeaseOwner) (g : LeasePhase → LeasePhase) : Prop :=
  ∀ x, db'.leasing.phase x = if x = owner then g (db.leasing.phase x) else db.leasing.phase x

theorem phase_update {α : Type} (key : α → Nat) {status : α → Status} {f : α → α}
    {g : LeasePhase → LeasePhase} (hg : ∀ o, (status (f o)).phase = g (status o).phase)
    (h0 : g .absent = .absent) {row : Option α} {id target : Nat}
    (hrow : ∀ o, row = some o → key o = id) :
    phaseOf ((row.map fun o => if key o == target then f o else o).map status) =
      if id = target then g (phaseOf (row.map status)) else phaseOf (row.map status) := by
  cases row with
  | none =>
    split
    · exact h0.symm
    · rfl
  | some o =>
    have hkey := hrow o rfl
    by_cases hid : id = target
    · rw [if_pos hid, Option.map_some, Option.map_some, if_pos (by simp [hkey, hid])]
      exact hg o
    · rw [if_neg hid, Option.map_some, Option.map_some, if_neg (by simp [hkey, hid])]
      rfl

variable {g : LeasePhase → LeasePhase}

theorem rephases_updateInstall (id : Nat) {f : InstallOperation → InstallOperation}
    (hf : ∀ o, (f o).id = o.id) (hg : ∀ o, (f o).status.phase = g o.status.phase)
    (h0 : g .absent = .absent) : Rephases db (db.updateInstall id f) ⟨.install, id⟩ g := by
  rintro ⟨type, x⟩
  cases type with
  | install =>
    show phaseOf (((db.updateInstall id f).findInstall x).map (·.status)) = _
    rw [findInstall_updateInstall db id hf,
      phase_update (·.id) hg h0 fun o ho => id_of_findInstall ho]
    simp only [LeaseOwner.mk.injEq, true_and]
    rfl
  | ipChange | server => rfl

theorem rephases_updateIp (id : Nat) {f : IpOperation → IpOperation} (hf : ∀ o, (f o).id = o.id)
    (hg : ∀ o, (f o).status.phase = g o.status.phase) (h0 : g .absent = .absent) :
    Rephases db (db.updateIp id f) ⟨.ipChange, id⟩ g := by
  rintro ⟨type, x⟩
  cases type with
  | ipChange =>
    show phaseOf (((db.updateIp id f).findIp x).map (·.status)) = _
    rw [findIp_updateIp db id hf, phase_update (·.id) hg h0 fun o ho => id_of_findIp ho]
    simp only [LeaseOwner.mk.injEq, true_and]
    rfl
  | install | server => rfl

theorem rephases_updateServer (id : Nat) {f : ServerOperation → ServerOperation}
    (hf : ∀ o, (f o).id = o.id) (hg : ∀ o, (f o).status.phase = g o.status.phase)
    (h0 : g .absent = .absent) : Rephases db (db.updateServer id f) ⟨.server, id⟩ g := by
  rintro ⟨type, x⟩
  cases type with
  | server =>
    show phaseOf (((db.updateServer id f).findServer x).map (·.status)) = _
    rw [findServer_updateServer db id hf,
      phase_update (·.id) hg h0 fun o ho => id_of_findServer ho]
    simp only [LeaseOwner.mk.injEq, true_and]
    rfl
  | install | ipChange => rfl

theorem phase_terminal (s : Status) : s.terminal = true ↔ s.phase = .ended := by cases s <;> decide

theorem phase_fail (s : Status) : s.phase.fail = if s.terminal then s.phase else .ended := by
  cases s <;> rfl

theorem interrupt_install_phase (reason : String) (o : InstallOperation) :
    (o.interrupt reason).status.phase = o.status.phase.fail := by
  rw [phase_fail]
  unfold InstallOperation.interrupt
  split <;> rfl

theorem interrupt_ip_phase (reason : String) (o : IpOperation) :
    (o.interrupt reason).status.phase = o.status.phase.fail := by
  rw [phase_fail]
  unfold IpOperation.interrupt
  split
  · rfl
  split
  · rfl
  split <;> rfl

theorem interrupt_phase (reason : String) (o : ServerOperation) :
    (o.interrupt reason).status.phase = o.status.phase.fail := by
  rw [phase_fail]
  unfold ServerOperation.interrupt
  split
  · rfl
  · split <;> rfl

theorem rephases_failOwner (owner : LeaseOwner) (reason : String) :
    Rephases db (db.failOwner owner reason) owner LeasePhase.fail := by
  obtain ⟨type, id⟩ := owner
  cases type with
  | install =>
    have hfail (db : Db) : Rephases db (db.updateInstall id (InstallOperation.interrupt reason))
        ⟨.install, id⟩ LeasePhase.fail :=
      rephases_updateInstall db id (interrupt_install_id reason) (interrupt_install_phase reason) rfl
    unfold failOwner
    dsimp only
    cases (db.findInstall id).bind (·.revision) with
    | none => exact hfail db
    | some revision => exact hfail (db.updateSnapshot revision VpnSnapshot.failPrepared)
  | ipChange => exact rephases_updateIp db id (interrupt_ip_id reason) (interrupt_ip_phase reason) rfl
  | server => exact rephases_updateServer db id (interrupt_id reason) (interrupt_phase reason) rfl

/-! The lease after a write. -/

theorem leasing_release (owner : LeaseOwner) :
    (db.releaseVpsLease owner).leasing.lease = db.leasing.lease.filter fun l => l.1 ≠ owner := by
  show Option.map _ (db.lease.filter _) = (Option.map _ db.lease).filter _
  cases hl : db.lease with
  | none => rfl
  | some l => by_cases ho : l.owner = owner <;> simp [Option.filter, ho]

theorem leasing_heartbeat (owner : LeaseOwner) (now : Nat) :
    (db.heartbeatVpsLease owner now).2.leasing.lease =
      db.leasing.lease.map fun l => if l.1 = owner then (owner, leaseExpiry now) else l := by
  show Option.map _ (Option.map _ db.lease) = Option.map _ (Option.map _ db.lease)
  cases hl : db.lease with
  | none => rfl
  | some l =>
    by_cases ho : l.owner = owner
    · simp [ho, leaseExpiry]
    · simp [ho]

theorem leasing_write {db db₁ : Db} {owner : LeaseOwner} {status : Option Status} {now : Nat}
    (hphase : Rephases db db₁ owner fun q => ((status.map Status.phase).getD q).put q)
    (hlease : db₁.lease = db.lease) :
    (if status.any Status.terminal then db₁.releaseVpsLease owner
      else (db₁.heartbeatVpsLease owner now).2).leasing =
      (writeEvent owner status now).apply leaseExpiry db.leasing := by
  have hl : db₁.leasing.lease = db.leasing.lease := by
    show Option.map _ db₁.lease = _
    rw [hlease]
    rfl
  have hrelease : (db₁.releaseVpsLease owner).leasing.phase = db₁.leasing.phase := rfl
  have hheartbeat : ((db₁.heartbeatVpsLease owner now).2).leasing.phase = db₁.leasing.phase := rfl
  unfold writeEvent
  by_cases ht : status.any Status.terminal = true
  · rw [if_pos ht, if_pos ht]
    cases status with
    | none => cases ht
    | some s =>
      have hended : s.phase = .ended := (phase_terminal s).mp ht
      ext1
      · rw [hrelease]
        funext x
        rw [hphase x]
        simp only [LeaseEvent.apply, Option.map_some, Option.getD_some, hended]
        split
        · rename_i hx
          rw [hx]
        · rfl
      · rw [leasing_release, hl]
        rfl
  · rw [if_neg ht, if_neg ht]
    ext1
    · rw [hheartbeat]
      funext x
      rw [hphase x]
      simp only [LeaseEvent.apply]
      split
      · rename_i hx
        rw [hx]
      · rfl
    · rw [leasing_heartbeat, hl]
      rfl

theorem writeEvent_enabled (s : Leasing LeaseOwner) (owner : LeaseOwner) (status : Option Status)
    (now : Nat) : (writeEvent owner status now).Enabled LeaseLive s := by
  unfold writeEvent
  split
  · trivial
  · rename_i ht
    cases status with
    | none => exact nofun
    | some status =>
      rintro p hp
      obtain rfl := Option.some.inj hp
      cases status with
      | pending | running => rfl
      | done | failed | timedOut | ambiguous => exact absurd rfl ht

/-! Admission. -/

theorem not_active_of_enabled {db : Db} {owner : LeaseOwner} {now : Nat} {db' : Db}
    (h : db.acquireVpsLease owner now = .ok db') :
    (LeaseEvent.grant owner now).Enabled LeaseLive db.leasing := by
  intro l hl
  obtain ⟨m, hm, rfl⟩ := Option.map_eq_some_iff.mp hl
  unfold acquireVpsLease at h
  rw [hm] at h
  dsimp only at h
  split at h
  · cases h
  · rename_i hlate
    exact hlate

/-- The lease goes to `owner`, and its last holder is failed. -/
theorem acquire_leasing {db : Db} {owner : LeaseOwner} {now : Nat} {db' : Db}
    (h : db.acquireVpsLease owner now = .ok db') :
    (∀ x, db'.leasing.phase x = if db.leasing.lease.any fun l => l.1 = x then
      (db.leasing.phase x).fail else db.leasing.phase x) ∧
    db'.leasing.lease = some (owner, leaseExpiry now) := by
  unfold acquireVpsLease at h
  cases hl : db.lease with
  | none =>
    rw [hl] at h
    cases h
    refine ⟨fun x => ?_, rfl⟩
    show _ = if (Option.map _ db.lease).any _ then _ else _
    rw [hl]
    rfl
  | some l =>
    rw [hl] at h
    dsimp only at h
    split at h
    · cases h
    · cases h
      refine ⟨fun x => ?_, rfl⟩
      show (db.failOwner l.owner expiredReason).leasing.phase x =
        if (Option.map _ db.lease).any _ then _ else _
      rw [rephases_failOwner db l.owner expiredReason x, hl]
      by_cases hx : x = l.owner
      · simp [hx]
      · simp [hx, Ne.symm hx]

theorem kept_acquire {db : Db} {owner : LeaseOwner} {now : Nat} {db' : Db}
    (hn : Numbered db) (h : db.acquireVpsLease owner now = .ok db')
    (ho : owner.ownerId ≤ match owner.ownerType with
      | .install => db.installSequence
      | .ipChange => db.ipSequence
      | .server => db.serverSequence) : Numbered db' := by
  have hgrant (mid : Db) (hm : Kept db mid) :
      Numbered { mid with lease := some (grantedLease owner now) } := by
    have hmid := hn.kept hm
    refine ⟨hmid.install, hmid.ip, hmid.server, fun l hl => ?_⟩
    obtain rfl := Option.some.inj hl
    show owner.ownerId ≤ _
    rw [← hm.installSequence, ← hm.ipSequence, ← hm.serverSequence] at ho
    exact ho
  unfold acquireVpsLease at h
  split at h
  · cases h
    exact hgrant db (Kept.refl db)
  · split at h
    · cases h
    · cases h
      exact hgrant _ (kept_failOwner db _ expiredReason)

theorem phase_append {α : Type} (key : α → Nat) (status : α → Status) {l : List α} {row : α}
    (hfresh : ∀ o ∈ l, key o < key row) (id : Nat) :
    phaseOf (((l ++ [row]).find? fun o => key o == id).map status) =
      if id = key row then (status row).phase
      else phaseOf ((l.find? fun o => key o == id).map status) := by
  rw [List.find?_append]
  by_cases hid : id = key row
  · have hnone : (l.find? fun o => key o == id) = none := by
      refine List.find?_eq_none.mpr fun o ho he => ?_
      have hlt := hfresh o ho
      rw [beq_iff_eq.mp he, hid] at hlt
      exact lt_irrefl _ hlt
    rw [if_pos hid, hnone]
    simp [hid, phaseOf]
  · have hlast : ([row].find? fun o => key o == id) = none := by simp [Ne.symm hid]
    rw [if_neg hid, hlast, Option.or_none]

/-- A new row with a number that was not given out. -/
structure Inserts (db db' : Db) (owner : LeaseOwner) : Prop where
  phase : ∀ x, db'.leasing.phase x = if x = owner then .pending else db.leasing.phase x
  lease : db'.lease = db.lease

theorem admit_leasing {db mid db' : Db} {owner : LeaseOwner} {now : Nat}
    (hi : Inserts db mid owner) (hfree : ∀ l, db.lease = some l → l.owner ≠ owner)
    (h : mid.acquireVpsLease owner now = .ok db') :
    db'.leasing = (LeaseEvent.grant owner now).apply leaseExpiry db.leasing ∧
      (LeaseEvent.grant owner now).Enabled LeaseLive db.leasing := by
  have hlease : mid.leasing.lease = db.leasing.lease := by
    show Option.map _ mid.lease = _
    rw [hi.lease]
    rfl
  obtain ⟨hphase, hl⟩ := acquire_leasing h
  refine ⟨?_, ?_⟩
  · ext1
    · funext x
      rw [hphase x, hi.phase x, hlease]
      by_cases hx : x = owner
      · have hno : (db.leasing.lease.any fun l => decide (l.1 = x)) = false := by
          show (Option.map _ db.lease).any _ = false
          cases hd : db.lease with
          | none => rfl
          | some l => simpa [hx] using hfree l hd
        rw [hno, if_pos hx]
        simp [LeaseEvent.apply, hx]
      · simp only [LeaseEvent.apply, hx, if_false]
    · exact hl
  · have he := not_active_of_enabled h
    intro l hd
    exact he l (by rw [hlease]; exact hd)

theorem readmit_leasing {db leased : Db} {id now : Nat} {f : IpOperation → IpOperation}
    (h : db.acquireVpsLease ⟨.ipChange, id⟩ now = .ok leased) (hf : ∀ o, (f o).id = o.id)
    (hpending : ∀ o, (f o).status = .pending) (hrow : ∃ row, db.findIp id = some row) :
    (leased.updateIp id f).leasing =
        (LeaseEvent.grant ⟨.ipChange, id⟩ now).apply leaseExpiry db.leasing ∧
      (LeaseEvent.grant ⟨.ipChange, id⟩ now).Enabled LeaseLive db.leasing := by
  obtain ⟨hphase, hl⟩ := acquire_leasing h
  refine ⟨?_, not_active_of_enabled h⟩
  have hupdate := rephases_updateIp leased id (g := LeasePhase.put .pending) hf
    (fun o => by rw [hpending o]; cases o.status <;> rfl) rfl
  ext1
  · funext x
    rw [hupdate x, hphase x]
    by_cases hx : x = ⟨.ipChange, id⟩
    · subst hx
      have hpresent : db.leasing.phase ⟨.ipChange, id⟩ ≠ .absent := by
        obtain ⟨row, hrow⟩ := hrow
        show phaseOf ((db.findIp id).map (·.status)) ≠ _
        rw [hrow]
        show row.status.phase ≠ _
        cases row.status <;> nofun
      have hfail : (db.leasing.phase ⟨.ipChange, id⟩).fail ≠ .absent := by
        cases hp : db.leasing.phase ⟨.ipChange, id⟩ with
        | absent => exact absurd hp hpresent
        | _ => nofun
      simp only [LeaseEvent.apply, if_true]
      split
      · exact if_neg hfail
      · exact if_neg hpresent
    · simp only [LeaseEvent.apply, hx, if_false]
  · exact hl

theorem statusOf_same {db db' : Db} (h : db.SameOperations db') : db'.statusOf = db.statusOf := by
  funext owner
  unfold statusOf findInstall findIp findServer
  rw [h.install, h.ip, h.server]

theorem leasing_same {db db' : Db} (h : db.SameOperations db') : db'.leasing = db.leasing := by
  unfold leasing
  rw [statusOf_same h, h.lease]

theorem phase_same {db db' : Db} (h : db.SameOperations db') (owner : LeaseOwner) :
    db'.leasing.phase owner = db.leasing.phase owner := by rw [leasing_same h]

theorem inserts_install {db mid : Db} (hn : Numbered db) (hm : db.SameOperations mid)
    {row : InstallOperation} (hid : row.id = db.installSequence + 1) (hp : row.status = .pending)
    (n : Nat) : Inserts db { mid with
      installOperations := mid.installOperations ++ [row], installSequence := n }
      ⟨.install, row.id⟩ := by
  refine ⟨?_, hm.lease⟩
  rintro ⟨type, x⟩
  cases type with
  | install =>
    show phaseOf (((mid.installOperations ++ [row]).find? fun o => o.id == x).map (·.status)) = _
    rw [hm.install, phase_append (fun (o : InstallOperation) => o.id) (fun o => o.status)
      (fun o ho => by rw [hid]; exact Nat.lt_succ_of_le (hn.install o ho)), hp]
    simp only [LeaseOwner.mk.injEq, true_and]
    rfl
  | ipChange => exact (phase_same hm ⟨.ipChange, x⟩).trans (if_neg (by simp)).symm
  | server => exact (phase_same hm ⟨.server, x⟩).trans (if_neg (by simp)).symm

theorem inserts_ip {db mid : Db} (hn : Numbered db) (hm : db.SameOperations mid)
    {row : IpOperation} (hid : row.id = db.ipSequence + 1) (hp : row.status = .pending) (n : Nat) :
    Inserts db { mid with ipOperations := mid.ipOperations ++ [row], ipSequence := n }
      ⟨.ipChange, row.id⟩ := by
  refine ⟨?_, hm.lease⟩
  rintro ⟨type, x⟩
  cases type with
  | ipChange =>
    show phaseOf (((mid.ipOperations ++ [row]).find? fun o => o.id == x).map (·.status)) = _
    rw [hm.ip, phase_append (fun (o : IpOperation) => o.id) (fun o => o.status)
      (fun o ho => by rw [hid]; exact Nat.lt_succ_of_le (hn.ip o ho)), hp]
    simp only [LeaseOwner.mk.injEq, true_and]
    rfl
  | install => exact (phase_same hm ⟨.install, x⟩).trans (if_neg (by simp)).symm
  | server => exact (phase_same hm ⟨.server, x⟩).trans (if_neg (by simp)).symm

theorem inserts_server {db mid : Db} (hn : Numbered db) (hm : db.SameOperations mid)
    {row : ServerOperation} (hid : row.id = db.serverSequence + 1) (hp : row.status = .pending)
    (n : Nat) : Inserts db { mid with
      serverOperations := mid.serverOperations ++ [row], serverSequence := n }
      ⟨.server, row.id⟩ := by
  refine ⟨?_, hm.lease⟩
  rintro ⟨type, x⟩
  cases type with
  | server =>
    show phaseOf (((mid.serverOperations ++ [row]).find? fun o => o.id == x).map (·.status)) = _
    rw [hm.server, phase_append (fun (o : ServerOperation) => o.id) (fun o => o.status)
      (fun o ho => by rw [hid]; exact Nat.lt_succ_of_le (hn.server o ho)), hp]
    simp only [LeaseOwner.mk.injEq, true_and]
    rfl
  | install => exact (phase_same hm ⟨.install, x⟩).trans (if_neg (by simp)).symm
  | ipChange => exact (phase_same hm ⟨.ipChange, x⟩).trans (if_neg (by simp)).symm

theorem ensureSnapshot_same {env : Environment} {db db' : Db} {config : CapturedVpnConfig}
    {payload : Value} {sha256 : String} {reprepare : Bool}
    (h : db.ensureSnapshot env config payload sha256 reprepare = .ok db') :
    db.SameOperations db' := by
  unfold ensureSnapshot at h
  split at h
  · split at h
    · cases h
    · split at h
      · cases h
        exact ⟨rfl, rfl, rfl, rfl, rfl, rfl, rfl⟩
      · cases h
        exact ⟨rfl, rfl, rfl, rfl, rfl, rfl, rfl⟩
  · cases h
    exact ⟨rfl, rfl, rfl, rfl, rfl, rfl, rfl⟩

/-- What a transaction does to the operations and their lease is its event, and the numbers stay
in order. -/
structure Follows (env : Environment) (db db' : Db) (t : Transaction) : Prop where
  leasing : db'.leasing = (t.event env db).apply leaseExpiry db.leasing
  enabled : (t.event env db).Enabled LeaseLive db.leasing
  numbered : Numbered db'

theorem free_of_numbered {db : Db} (hn : Numbered db) {owner : LeaseOwner}
    (ho : (match owner.ownerType with
      | .install => db.installSequence
      | .ipChange => db.ipSequence
      | .server => db.serverSequence) < owner.ownerId) :
    ∀ l, db.lease = some l → l.owner ≠ owner := by
  rintro l hl rfl
  exact absurd (hn.lease l hl) (Nat.not_le.mpr ho)

theorem mem_append_le {α : Type} {key : α → Nat} {l : List α} {row : α} {n : Nat}
    (hl : ∀ o ∈ l, key o ≤ n) (hrow : key row = n + 1) : ∀ o ∈ l ++ [row], key o ≤ n + 1 := by
  intro o ho
  rcases List.mem_append.mp ho with ho | ho
  · exact Nat.le_succ_of_le (hl o ho)
  · rw [List.mem_singleton.mp ho, hrow]

theorem Numbered.insertInstall {db : Db} (hn : Numbered db) {row : InstallOperation}
    (hid : row.id = db.installSequence + 1) : Numbered { db with
      installOperations := db.installOperations ++ [row]
      installSequence := db.installSequence + 1 } := by
  refine ⟨mem_append_le hn.install hid, hn.ip, hn.server, fun l hl => ?_⟩
  have hle := hn.lease l hl
  cases ht : l.owner.ownerType <;> simp only [ht] at hle ⊢ <;> omega

theorem Numbered.insertIp {db : Db} (hn : Numbered db) {row : IpOperation}
    (hid : row.id = db.ipSequence + 1) : Numbered { db with
      ipOperations := db.ipOperations ++ [row], ipSequence := db.ipSequence + 1 } := by
  refine ⟨hn.install, mem_append_le hn.ip hid, hn.server, fun l hl => ?_⟩
  have hle := hn.lease l hl
  cases ht : l.owner.ownerType <;> simp only [ht] at hle ⊢ <;> omega

theorem Numbered.insertServer {db : Db} (hn : Numbered db) {row : ServerOperation}
    (hid : row.id = db.serverSequence + 1) : Numbered { db with
      serverOperations := db.serverOperations ++ [row]
      serverSequence := db.serverSequence + 1 } := by
  refine ⟨hn.install, hn.ip, mem_append_le hn.server hid, fun l hl => ?_⟩
  have hle := hn.lease l hl
  cases ht : l.owner.ownerType <;> simp only [ht] at hle ⊢ <;> omega

theorem prepareInstall_follows {env : Environment} {db db' : Db} {targetHost : String} {now : Nat}
    (hn : Numbered db) (h : db.prepareInstallOperation env targetHost now = .ok db') :
    Follows env db db' (.prepareInstall targetHost now) := by
  obtain ⟨⟨config, payload, sha256⟩, -, h⟩ := except_bind_eq_ok.1 h
  obtain ⟨mid, he, h⟩ := except_bind_eq_ok.1 h
  have hm := ensureSnapshot_same he
  have hmid := hn.kept (Kept.of_same hm)
  have hid : mid.installSequence + 1 = db.installSequence + 1 := by rw [hm.installSequence]
  obtain ⟨hleasing, henabled⟩ := admit_leasing (inserts_install hn hm hid rfl _)
    (free_of_numbered hn (hid ▸ Nat.lt_succ_self _)) h
  refine ⟨?_, ?_, kept_acquire (hmid.insertInstall rfl) h le_rfl⟩
  · rw [hleasing]
    simp only [Transaction.event, hid]
  · simpa only [Transaction.event, hid] using henabled

theorem insertServer_follows {env : Environment} {db db' : Db} {t : Transaction}
    {row : ServerOperation} {now : Nat} (hn : Numbered db) (hid : row.id = db.serverSequence + 1)
    (hp : row.status = .pending)
    (h : { db with serverOperations := db.serverOperations ++ [row]
                   serverSequence := db.serverSequence + 1 }.acquireVpsLease ⟨.server, row.id⟩ now =
      .ok db')
    (ht : t.event env db = .grant ⟨.server, row.id⟩ now) : Follows env db db' t := by
  obtain ⟨hleasing, henabled⟩ := admit_leasing
    (inserts_server hn ⟨rfl, rfl, rfl, rfl, rfl, rfl, rfl⟩ hid hp _)
    (free_of_numbered hn (hid ▸ Nat.lt_succ_self _)) h
  exact ⟨ht ▸ hleasing, ht ▸ henabled, kept_acquire (hn.insertServer hid) h (by rw [hid])⟩

theorem createServer_follows {env : Environment} {db db' : Db} {kind : ServerKind} {now : Nat}
    (hn : Numbered db) (h : db.createServerOperation kind now = .ok db') :
    Follows env db db' (.createServer kind now) :=
  insertServer_follows hn rfl rfl h rfl

theorem createProtocolRefresh_follows {env : Environment} {db db' : Db} {now : Nat}
    (hn : Numbered db) (h : db.createProtocolRefreshOperation now = .ok db') :
    Follows env db db' (.createProtocolRefresh now) :=
  insertServer_follows hn rfl rfl h rfl

theorem bindProvider_same {env : Environment} {db db' : Db} {operationId : Nat}
    (h : db.bindProvider env operationId = .ok db') : db.SameOperations db' := by
  unfold bindProvider at h
  simp only at h
  split at h
  · cases h
  · cases h
    exact ⟨rfl, rfl, rfl, rfl, rfl, rfl, rfl⟩

/-- A write that touches neither a status nor the lease. -/
structure Quiet (db db' : Db) : Prop where
  leasing : db'.leasing = db.leasing
  kept : Kept db db'

theorem Quiet.refl (db : Db) : Quiet db db := ⟨rfl, Kept.refl db⟩

theorem Quiet.trans {a b c : Db} (h : Quiet a b) (h' : Quiet b c) : Quiet a c :=
  ⟨h'.leasing.trans h.leasing, h.kept.trans h'.kept⟩

theorem Quiet.of_same {db db' : Db} (h : db.SameOperations db') : Quiet db db' :=
  ⟨leasing_same h, Kept.of_same h⟩

theorem quiet_updateIp (db : Db) (id : Nat) {f : IpOperation → IpOperation}
    (hf : ∀ o, (f o).id = o.id) (hs : ∀ o, (f o).status = o.status) :
    Quiet db (db.updateIp id f) := by
  refine ⟨?_, kept_updateIp db id hf⟩
  have hphase := rephases_updateIp db id (g := fun q => q) hf (fun o => by rw [hs o]) rfl
  ext1
  · funext x
    rw [hphase x, ite_self]
  · rfl

theorem Follows.quiet {env : Environment} {db mid db' : Db} {t : Transaction}
    (h : Follows env db mid t) (hq : Quiet mid db') : Follows env db db' t :=
  ⟨hq.leasing.trans h.leasing, h.enabled, h.numbered.kept hq.kept⟩

theorem prepareIpChange_follows {env : Environment} {db db' : Db} {decision : IpDecision}
    {now : Nat} (hn : Numbered db) (h : db.prepareIpChangeOperation env decision now = .ok db') :
    Follows env db db' (.prepareIpChange decision now) := by
  obtain ⟨-, -, h⟩ := except_bind_eq_ok.1 h
  obtain ⟨⟨config, payload, sha256⟩, -, h⟩ := except_bind_eq_ok.1 h
  obtain ⟨mid, he, h⟩ := except_bind_eq_ok.1 h
  obtain ⟨leased, hl, h⟩ := except_bind_eq_ok.1 h
  obtain ⟨bound, hb, h⟩ := except_bind_eq_ok.1 h
  have hm := ensureSnapshot_same he
  have hmid := hn.kept (Kept.of_same hm)
  have hid : mid.ipSequence + 1 = db.ipSequence + 1 := by rw [hm.ipSequence]
  obtain ⟨hleasing, henabled⟩ := admit_leasing (inserts_ip hn hm hid rfl _)
    (free_of_numbered hn (hid ▸ Nat.lt_succ_self _)) hl
  have hleased : Follows env db leased (.prepareIpChange decision now) := by
    refine ⟨?_, ?_, kept_acquire (hmid.insertIp rfl) hl le_rfl⟩
    · rw [hleasing]
      simp only [Transaction.event, newIpOperation, hid]
    · simpa only [Transaction.event, newIpOperation, hid] using henabled
  refine hleased.quiet ((Quiet.of_same (bindProvider_same hb)).trans ?_)
  have hretry (db : Db) (id : Nat) : Quiet db (db.requestRetry id) :=
    quiet_updateIp db id (fun _ => rfl) fun _ => rfl
  cases h
  cases decision.ssh with
  | none =>
    cases decision.review with
    | none => exact Quiet.refl bound
    | some review => exact hretry bound review
  | some ssh =>
    let noted := bound.storeSetting (operationKey (mid.ipSequence + 1) "sprintbox")
      (env.dumps (.object [("retained_boxes", .object (inheritedBoxes env bound ssh))]))
    have hsame : bound.SameOperations noted := ⟨rfl, rfl, rfl, rfl, rfl, rfl, rfl⟩
    have hnoted := (Quiet.of_same hsame).trans (hretry noted ssh)
    cases decision.review with
    | none => exact hnoted
    | some review => exact hnoted.trans (hretry _ review)

theorem le_ipSequence {db : Db} (hn : Numbered db) {id : Nat} {row : IpOperation}
    (h : db.findIp id = some row) : id ≤ db.ipSequence := by
  rw [← id_of_findIp h]
  exact hn.ip row (List.mem_of_find?_eq_some h)

theorem readmit_follows {env : Environment} {db leased : Db} {t : Transaction} {id now : Nat}
    {f : IpOperation → IpOperation} {row : IpOperation} (hn : Numbered db)
    (hrow : db.findIp id = some row) (h : db.acquireVpsLease ⟨.ipChange, id⟩ now = .ok leased)
    (hf : ∀ o, (f o).id = o.id) (hpending : ∀ o, (f o).status = .pending)
    (ht : t.event env db = .grant ⟨.ipChange, id⟩ now) :
    Follows env db (leased.updateIp id f) t := by
  obtain ⟨hleasing, henabled⟩ := readmit_leasing h hf hpending ⟨row, hrow⟩
  have hnumbered : Numbered leased := kept_acquire hn h (le_ipSequence hn hrow)
  exact ⟨ht ▸ hleasing, ht ▸ henabled, hnumbered.kept (kept_updateIp leased id hf)⟩

theorem validateTarget_row {env : Environment} {db : Db} {id : Nat} {row : IpOperation}
    (h : db.validateTarget env id = .ok row) : db.findIp id = some row := by
  unfold validateTarget at h
  cases hrow : db.findIp id with
  | none => simp [hrow] at h
  | some found =>
    simp only [hrow] at h
    split at h
    · cases h
    · split at h
      · cases h
      · rw [Except.ok.inj h]

theorem validateReview_row {env : Environment} {db : Db} {id : Nat} {row : IpOperation}
    (h : db.validateReview env id = .ok row) : db.findIp id = some row ∧ row.status = .done ∧
      row.actionState = .awaitingUserReview := by
  obtain ⟨found, hfound, h⟩ := except_bind_eq_ok.1 h
  split at h
  · cases h
  · rename_i hstate
    cases h
    simp only [Bool.or_eq_true, decide_eq_true_eq, not_or, not_not] at hstate
    exact ⟨validateTarget_row hfound, hstate⟩

theorem validateSshDecision_row {env : Environment} {db : Db} {id : Nat} {queued : Bool}
    {row : IpOperation} (h : db.validateSshDecision env id queued = .ok row) :
    db.findIp id = some row ∧ (row.status, row.actionState) =
      if queued then (.pending, .sshWaitQueued) else (.done, .sshUnreachable) := by
  unfold validateSshDecision at h
  cases hrow : db.findIp id with
  | none => simp [hrow] at h
  | some found =>
    simp only [hrow] at h
    by_cases hstate : (found.status, found.actionState) =
        if queued then (.pending, .sshWaitQueued) else (.done, .sshUnreachable)
    · rw [if_neg (not_not.mpr hstate)] at h
      split at h
      · cases h
      · cases h
        exact ⟨rfl, hstate⟩
    · rw [if_pos hstate] at h
      cases h

theorem prepareCleanup_follows {env : Environment} {db db' : Db} {id now : Nat}
    (hn : Numbered db) (h : db.prepareCleanup env id now = .ok db') :
    Follows env db db' (.prepareCleanup id now) := by
  obtain ⟨row, hrow, h⟩ := except_bind_eq_ok.1 h
  obtain ⟨leased, hl, h⟩ := except_bind_eq_ok.1 h
  cases h
  exact readmit_follows hn (validateReview_row hrow).1 hl (fun _ => rfl) (fun _ => rfl) rfl

theorem prepareSshWait_follows {env : Environment} {db db' : Db} {id now : Nat}
    (hn : Numbered db) (h : db.prepareSshWait env id now = .ok db') :
    Follows env db db' (.prepareSshWait id now) := by
  obtain ⟨row, hrow, h⟩ := except_bind_eq_ok.1 h
  obtain ⟨leased, hl, h⟩ := except_bind_eq_ok.1 h
  cases h
  exact readmit_follows hn (validateSshDecision_row hrow).1 hl (fun _ => rfl) (fun _ => rfl) rfl

/-! Updates. -/

theorem phase_getD (status : Option Status) (s : Status) :
    (status.getD s).phase = ((status.map Status.phase).getD s.phase).put s.phase := by
  have hpresent : s.phase ≠ .absent := by cases s <;> nofun
  rw [LeasePhase.put, if_neg hpresent]
  cases status <;> rfl

theorem write_follows {env : Environment} {db db₁ : Db} {t : Transaction} {owner : LeaseOwner}
    (status : Option Status) (now : Nat) (hn : Numbered db)
    (hphase : Rephases db db₁ owner fun q => ((status.map Status.phase).getD q).put q)
    (hkept : Kept db db₁) (hlease : db₁.lease = db.lease)
    (ht : t.event env db = writeEvent owner status now) :
    Follows env db (if status.any Status.terminal then db₁.releaseVpsLease owner
      else (db₁.heartbeatVpsLease owner now).2) t := by
  refine ⟨ht ▸ leasing_write hphase hlease, ht ▸ writeEvent_enabled _ _ _ _, ?_⟩
  refine hn.kept (hkept.trans ?_)
  split
  · exact kept_release db₁ owner
  · exact kept_heartbeat db₁ owner now

theorem updateInstall_follows {env : Environment} {db : Db} (hn : Numbered db) (id : Nat)
    (p : InstallPatch) (now : Nat) :
    Follows env db (db.updateInstallOperation id p now) (.updateInstall id p now) :=
  write_follows p.status now hn (rephases_updateInstall db id (fun _ => rfl) (fun o => phase_getD _ o.status) rfl)
    (kept_updateInstall db id fun _ => rfl) rfl rfl

theorem updateIp_follows {env : Environment} {db : Db} (hn : Numbered db) (id : Nat)
    (p : IpPatch) (now : Nat) :
    Follows env db (db.updateOperation id p now) (.updateIp id p now) :=
  write_follows p.status now hn (rephases_updateIp db id (fun _ => rfl) (fun o => phase_getD _ o.status) rfl)
    (kept_updateIp db id fun _ => rfl) rfl rfl

theorem updateServer_follows {env : Environment} {e : RebootEnvironment} {db : Db}
    (hn : Numbered db) (id : Nat) (p : ServerPatch) (now : Nat) :
    Follows env db (db.updateServerOperation e id p now) (.updateServer id p now) :=
  write_follows p.status now hn (rephases_updateServer db id (fun _ => rfl) (fun o => phase_getD _ o.status) rfl)
    (kept_updateServer db id fun _ => rfl) rfl rfl

theorem Follows.idle {env : Environment} {db : Db} {t : Transaction} (hn : Numbered db)
    (ht : t.event env db = .idle) : Follows env db db t :=
  ⟨by rw [ht]; rfl, by rw [ht]; trivial, hn⟩

theorem heartbeatInstall_follows {env : Environment} {db : Db} (hn : Numbered db) (id now : Nat) :
    Follows env db (db.heartbeatInstallOperation id now).2 (.heartbeatInstall id now) := by
  unfold heartbeatInstallOperation
  split
  · rename_i hrow
    refine write_follows none now hn (fun x => ?_) (Kept.refl db) rfl
      (if_pos hrow)
    simp only [Option.map_none, Option.getD_none, LeasePhase.put]
    split
    · split
      · assumption
      · rfl
    · rfl
  · rename_i hrow
    exact .idle hn (if_neg hrow)

theorem markRebootSending_follows {env : Environment} {db : Db} (hn : Numbered db)
    (id now : Nat) : Follows env db (db.markRebootSending id now).2 (.markRebootSending id now) := by
  unfold markRebootSending
  split
  · rename_i hrow
    exact write_follows (some .running) now hn
      (rephases_updateServer db id (fun _ => rfl) (fun o => phase_getD (some .running) o.status) rfl)
      (kept_updateServer db id fun _ => rfl) rfl (if_pos hrow)
  · rename_i hrow
    exact .idle hn (if_neg hrow)

theorem report_follows {env : Environment} {db db' : Db} {t : Transaction} {owner : LeaseOwner}
    (hn : Numbered db) (hphase : Rephases db db' owner fun q => LeasePhase.running.put q)
    (hkept : Kept db db') (hlease : db'.lease = db.lease) (ht : t.event env db = .report owner) :
    Follows env db db' t := by
  refine ⟨?_, by rw [ht]; trivial, hn.kept hkept⟩
  rw [ht]
  ext1
  · funext x
    rw [hphase x]
    simp only [LeaseEvent.apply]
    split
    · rename_i hx
      rw [hx]
    · rfl
  · show Option.map _ db'.lease = _
    rw [hlease]
    rfl

theorem finish_follows {env : Environment} {db db₁ : Db} {t : Transaction} {owner : LeaseOwner}
    (hn : Numbered db) (hphase : Rephases db db₁ owner fun q => LeasePhase.ended.put q)
    (hkept : Kept db db₁) (hlease : db₁.lease = db.lease) (ht : t.event env db = .finish owner) :
    Follows env db (db₁.releaseVpsLease owner) t :=
  write_follows (some .done) 0 hn hphase hkept hlease ht

theorem put_of_present {p q : LeasePhase} (h : q ≠ .absent) : p.put q = p := if_neg h

theorem phase_ne_absent (s : Status) : s.phase ≠ .absent := by cases s <;> nofun

theorem claimCleanup_follows {env : Environment} {db : Db} (hn : Numbered db) (id : Nat) :
    Follows env db (db.claimCleanup id).2 (.claimCleanup id) := by
  unfold claimCleanup
  split
  · rename_i hrow
    exact report_follows hn (rephases_updateIp db id (fun _ => rfl)
      (fun o => (put_of_present (phase_ne_absent o.status)).symm) rfl)
      (kept_updateIp db id fun _ => rfl) rfl (if_pos hrow)
  · rename_i hrow
    exact .idle hn (if_neg hrow)

theorem claimPurchase_follows {env : Environment} {db : Db} (hn : Numbered db) (id : Nat) :
    Follows env db (db.claimPurchase id).2 (.claimPurchase id) := by
  have hidle : Follows env db db (.claimPurchase id) := .idle hn rfl
  unfold claimPurchase
  split
  · exact hidle.quiet (quiet_updateIp db id (fun _ => rfl) fun _ => rfl)
  · exact hidle

theorem resumeSshWait_follows {env : Environment} {db : Db} (hn : Numbered db) (id : Nat) :
    Follows env db (db.resumeSshWait env id) (.resumeSshWait id) := by
  unfold resumeSshWait
  split
  · rename_i hrow
    split
    · rename_i hholds
      exact report_follows hn (rephases_updateIp db id (fun _ => rfl)
        (fun o => (put_of_present (phase_ne_absent o.status)).symm) rfl)
        (kept_updateIp db id fun _ => rfl) rfl ((if_pos hrow).trans (if_pos hholds))
    · rename_i hholds
      exact finish_follows hn (rephases_updateIp db id (fun _ => rfl)
        (fun o => (put_of_present (phase_ne_absent o.status)).symm) rfl)
        (kept_updateIp db id fun _ => rfl) rfl ((if_pos hrow).trans (if_neg hholds))
  · rename_i hrow
    exact .idle hn (if_neg hrow)

theorem same_purge (db : Db) : db.SameOperations db.purgeAppliedDeletedClients := by
  rw [purge_eq]
  exact ⟨rfl, rfl, rfl, rfl, rfl, rfl, rfl⟩

theorem SameOperations.trans {a b c : Db} (h : a.SameOperations b) (h' : b.SameOperations c) :
    a.SameOperations c :=
  ⟨h'.install.trans h.install, h'.ip.trans h.ip, h'.server.trans h.server,
    h'.lease.trans h.lease, h'.installSequence.trans h.installSequence,
    h'.ipSequence.trans h.ipSequence, h'.serverSequence.trans h.serverSequence⟩

theorem rephases_of_same {db mid db' : Db} {owner : LeaseOwner} {g : LeasePhase → LeasePhase}
    (hs : db.SameOperations mid) (h : Rephases mid db' owner g) : Rephases db db' owner g := by
  intro x
  rw [h x, leasing_same hs]

theorem same_publishedStore (env : Environment) (db : Db) (bound : CapturedVpnConfig)
    (revision : Nat) (p : IpPublication) :
    db.SameOperations (db.publishedStore env bound revision p).purgeAppliedDeletedClients := by
  refine SameOperations.trans ?_ (same_purge _)
  rw [publishedStore_eq]
  exact ⟨rfl, rfl, rfl, rfl, rfl, rfl, rfl⟩

theorem publish_follows {env : Environment} {db db' : Db} {id : Nat} {p : IpPublication}
    {now : Nat} (hn : Numbered db) (h : db.publishIpChange env id p = .ok db') :
    Follows env db db' (.publish id p now) := by
  obtain ⟨row, snapshot, bound, -, -, -, -, -, rfl⟩ := publishIpChange_ok h
  have hs := same_publishedStore env db bound db.desiredRevision p
  exact report_follows hn
    (rephases_of_same hs (rephases_updateIp _ id (fun _ => rfl)
      (fun o => (put_of_present (phase_ne_absent o.status)).symm) rfl))
    ((Kept.of_same hs).trans (kept_updateIp _ id fun _ => rfl)) hs.lease rfl

theorem completeInstall_follows {env : Environment} {db db' : Db} {id : Nat} {output : String}
    {now : Nat} (hn : Numbered db) (h : db.completeInstallOperation id output = .ok db') :
    Follows env db db' (.completeInstall id output now) := by
  unfold completeInstallOperation at h
  split at h
  · cases h
  · rename_i revision _
    split at h
    · cases h
    · cases h
      let marked : Db := { db.updateSnapshot revision VpnSnapshot.apply with
        appliedRevision := some (newerRevision db.appliedRevision revision) }
      have hs : db.SameOperations marked.purgeAppliedDeletedClients :=
        SameOperations.trans (b := marked) ⟨rfl, rfl, rfl, rfl, rfl, rfl, rfl⟩ (same_purge marked)
      exact finish_follows hn
        (rephases_of_same hs (rephases_updateInstall _ id (fun _ => rfl)
          (fun o => (put_of_present (phase_ne_absent o.status)).symm) rfl))
        ((Kept.of_same hs).trans (kept_updateInstall _ id fun _ => rfl)) hs.lease rfl

theorem same_failInstallSnapshot (db : Db) (id : Nat) :
    db.SameOperations (db.failInstallSnapshot id) := by
  unfold failInstallSnapshot
  split <;> exact ⟨rfl, rfl, rfl, rfl, rfl, rfl, rfl⟩

theorem failInstall_follows {env : Environment} {db : Db} (hn : Numbered db) (id : Nat)
    (message : String) : Follows env db (db.failInstallOperation id message)
      (.failInstall id message) := by
  have hs := same_failInstallSnapshot db id
  exact finish_follows hn
    (rephases_of_same hs (rephases_updateInstall _ id (fun _ => rfl)
      (fun o => (put_of_present (phase_ne_absent o.status)).symm) rfl))
    ((Kept.of_same hs).trans (kept_updateInstall _ id fun _ => rfl)) hs.lease rfl

theorem markInstallAmbiguous_follows {env : Environment} {db : Db} (hn : Numbered db) (id : Nat)
    (message : String) : Follows env db (db.markInstallOperationAmbiguous id message)
      (.markInstallAmbiguous id message) := by
  let mark : InstallOperation → InstallOperation := fun o =>
    if o.status.terminal then o
    else { o with status := .ambiguous, currentStep := "ambiguous", errorMessage := some message }
  have hid (o : InstallOperation) : (mark o).id = o.id := by
    show (if _ then o else _ : InstallOperation).id = _
    split <;> rfl
  have hphase (o : InstallOperation) :
      (mark o).status.phase = LeasePhase.ended.put o.status.phase := by
    rw [put_of_present (phase_ne_absent o.status)]
    show (if _ then o else _ : InstallOperation).status.phase = _
    split
    · exact (phase_terminal _).mp ‹_›
    · rfl
  have hs := same_failInstallSnapshot db id
  exact finish_follows hn (rephases_of_same hs (rephases_updateInstall _ id hid hphase rfl))
    ((Kept.of_same hs).trans (kept_updateInstall _ id hid)) hs.lease rfl

theorem cancelSshWait_follows {env : Environment} {db db' : Db} {id : Nat} {warning : String}
    (hn : Numbered db) (h : db.cancelSshWait id warning = .ok db') :
    Follows env db db' (.cancelSshWait id warning) := by
  have hidle : Follows env db db (.cancelSshWait id warning) := .idle hn rfl
  unfold cancelSshWait at h
  split at h
  · cases h
  · split at h
    · cases h
    · cases h
      exact hidle.quiet (quiet_updateIp db id (fun _ => rfl) fun _ => rfl)

theorem reconcile_follows {env : Environment} {db db' : Db} {id : Nat} {note : String}
    (hn : Numbered db) (h : db.reconcileIpOperation id note = .ok db') :
    Follows env db db' (.reconcile id note) := by
  have hidle : Follows env db db (.reconcile id note) := .idle hn rfl
  unfold reconcileIpOperation at h
  split at h
  · cases h
  split at h
  · cases h
  split at h
  · cases h
  · cases h
    exact hidle.quiet (quiet_updateIp db id (fun _ => rfl) fun _ => rfl)

/-! The recovery at startup. -/

theorem fail_fail (p : LeasePhase) : p.fail.fail = p.fail := by cases p <;> rfl

theorem fail_of_not_active {p : LeasePhase} (h : p.active = false) : p.fail = p := by
  simp [LeasePhase.fail, h]

theorem phase_failOwners (type : OwnerType) (reason : String) (ids : List Nat) (db : Db)
    (x : LeaseOwner) :
    (ids.foldl (fun db id => db.failOwner ⟨type, id⟩ reason) db).leasing.phase x =
      if x.ownerType = type ∧ x.ownerId ∈ ids then (db.leasing.phase x).fail
      else db.leasing.phase x := by
  induction ids generalizing db with
  | nil => simp
  | cons id ids ih =>
    rw [List.foldl_cons, ih, rephases_failOwner db ⟨type, id⟩ reason x]
    obtain ⟨t, n⟩ := x
    by_cases ht : t = type
    · subst ht
      by_cases hid : n = id <;> by_cases hmem : n ∈ ids <;> simp [hid, hmem, fail_fail]
    · simp [ht]

theorem mem_activeIds {α : Type} {status : α → Status} {key : α → Nat} {rows : List α} {id : Nat}
    (h : (phaseOf ((rows.find? fun o => key o == id).map status)).active = true) :
    id ∈ activeIds status key rows := by
  cases hrow : rows.find? fun o => key o == id with
  | none =>
    rw [hrow] at h
    cases h
  | some o =>
    rw [hrow] at h
    have hactive : (status o).terminal = false := by
      change (status o).phase.active = true at h
      cases hs : status o <;> simp_all [Status.phase, LeasePhase.active, Status.terminal]
    refine List.mem_map.mpr ⟨o, List.mem_filter.mpr ⟨List.mem_of_find?_eq_some hrow, ?_⟩, ?_⟩
    · simp [hactive]
    · simpa using List.find?_some hrow

theorem phase_recover (type : OwnerType) (reason : String) {ids : List Nat} {db : Db}
    (hids : ∀ id, (db.leasing.phase ⟨type, id⟩).active = true → id ∈ ids) (x : LeaseOwner) :
    (ids.foldl (fun db id => db.failOwner ⟨type, id⟩ reason) db).leasing.phase x =
      if x.ownerType = type then (db.leasing.phase x).fail else db.leasing.phase x := by
  rw [phase_failOwners]
  obtain ⟨t, n⟩ := x
  by_cases ht : t = type
  · subst ht
    by_cases hmem : n ∈ ids
    · simp [hmem]
    · have hidle : (db.leasing.phase ⟨t, n⟩).active = false := by
        rw [Bool.eq_false_iff]
        exact fun ha => hmem (hids n ha)
      simp [hmem, fail_of_not_active hidle]
  · simp [ht]

theorem recover_follows {env : Environment} {db : Db} (hn : Numbered db) (reason : String) :
    Follows env db (db.recoverIncompleteVpsOperations reason) (.recover reason) := by
  let installs := (activeIds (·.status) (·.id) db.installOperations).foldl
    (fun db id => db.failOwner ⟨.install, id⟩ reason) db
  let ips := (activeIds (·.status) (·.id) installs.ipOperations).foldl
    (fun db id => db.failOwner ⟨.ipChange, id⟩ reason) installs
  let servers := (activeIds (·.status) (·.id) ips.serverOperations).foldl
    (fun db id => db.failOwner ⟨.server, id⟩ reason) ips
  have hinstalls (x : LeaseOwner) : installs.leasing.phase x =
      if x.ownerType = .install then (db.leasing.phase x).fail else db.leasing.phase x :=
    phase_recover .install reason (fun _ => mem_activeIds) x
  have hips (x : LeaseOwner) : ips.leasing.phase x =
      if x.ownerType = .ipChange then (installs.leasing.phase x).fail
      else installs.leasing.phase x :=
    phase_recover .ipChange reason (fun _ => mem_activeIds) x
  have hservers (x : LeaseOwner) : servers.leasing.phase x =
      if x.ownerType = .server then (ips.leasing.phase x).fail else ips.leasing.phase x :=
    phase_recover .server reason (fun _ => mem_activeIds) x
  have hkept : Kept db servers :=
    ((kept_failOwners .install reason _ db).trans (kept_failOwners .ipChange reason _ installs)).trans
      (kept_failOwners .server reason _ ips)
  refine ⟨?_, trivial, hn.kept (hkept.trans { Kept.refl servers with lease := nofun })⟩
  ext1
  · funext x
    show servers.leasing.phase x = (db.leasing.phase x).fail
    rw [hservers x, hips x, hinstalls x]
    cases x.ownerType <;> rfl
  · rfl

theorem idle_of_find {α : Type} {status : α → Status} {key : α → Nat} {rows : List α}
    (h : rows.find? (fun o => !(status o).terminal) = none) (id : Nat) :
    (phaseOf ((rows.find? fun o => key o == id).map status)).active = false := by
  rw [Bool.eq_false_iff]
  intro ha
  obtain ⟨o, ho, -⟩ := List.mem_map.mp (mem_activeIds ha)
  obtain ⟨hmem, hactive⟩ := List.mem_filter.mp ho
  exact List.find?_eq_none.mp h o hmem hactive

/-- Nothing is active, and nobody holds the lease. -/
theorem idle_of_activeOperationOwner {db : Db} (h : db.activeOperationOwner = none) :
    db.lease = none ∧ ∀ x, (db.leasing.phase x).active = false := by
  unfold activeOperationOwner at h
  split at h
  · cases h
  rename_i hlease
  split at h
  · cases h
  rename_i hinstall
  split at h
  · cases h
  rename_i hip
  have hserver := Option.map_eq_none_iff.mp h
  refine ⟨hlease, ?_⟩
  rintro ⟨type, id⟩
  cases type with
  | install => exact idle_of_find hinstall id
  | ipChange => exact idle_of_find hip id
  | server => exact idle_of_find hserver id

theorem reset_follows {env : Environment} {e : RebootEnvironment} {db db' : Db}
    (h : Commits env e db .reset db') : Follows env db db' .reset := by
  obtain ⟨hidle, hinstall, hip, hserver, hlease, -, -, -⟩ := h
  obtain ⟨hfree, hnone⟩ := idle_of_activeOperationOwner hidle
  have hphase : db'.leasing.phase = fun _ => .absent := by
    funext x
    show phaseOf (db'.statusOf x) = _
    unfold statusOf findInstall findIp findServer
    rw [hinstall, hip, hserver]
    cases x.ownerType <;> rfl
  have hlease' : db'.leasing.lease = none := by
    show Option.map _ db'.lease = none
    rw [hlease]
    rfl
  have hfree' : db.leasing.lease = none := by
    show Option.map _ db.lease = none
    rw [hfree]
    rfl
  refine ⟨Leasing.ext hphase hlease', ⟨hfree', hnone⟩, ?_⟩
  refine ⟨fun o ho => ?_, fun o ho => ?_, fun o ho => ?_, fun l hl => ?_⟩
  · rw [hinstall] at ho
    cases ho
  · rw [hip] at ho
    cases ho
  · rw [hserver] at ho
    cases ho
  · rw [hlease] at hl
    cases hl

/-- Every transaction does to the leasing what its event does. -/
theorem commits_follows {env : Environment} {e : RebootEnvironment} {db db' : Db}
    {t : Transaction} (hn : Numbered db) (h : Commits env e db t db') :
    Follows env db db' t := by
  cases t with
  | prepareInstall targetHost now => exact prepareInstall_follows hn h
  | prepareIpChange decision now => exact prepareIpChange_follows hn h
  | createServer kind now => exact createServer_follows hn h
  | createProtocolRefresh now => exact createProtocolRefresh_follows hn h
  | prepareCleanup id now => exact prepareCleanup_follows hn h
  | prepareSshWait id now => exact prepareSshWait_follows hn h
  | updateInstall id p now => exact h ▸ updateInstall_follows hn id p now
  | updateIp id p now => exact h ▸ updateIp_follows hn id p now
  | updateServer id p now => exact h ▸ updateServer_follows hn id p now
  | heartbeatInstall id now => exact h ▸ heartbeatInstall_follows hn id now
  | markRebootSending id now => exact h ▸ markRebootSending_follows hn id now
  | claimPurchase id => exact h ▸ claimPurchase_follows hn id
  | claimCleanup id => exact h ▸ claimCleanup_follows hn id
  | resumeSshWait id => exact h ▸ resumeSshWait_follows hn id
  | publish id p now => exact publish_follows hn h
  | completeInstall id output now => exact completeInstall_follows hn h
  | failInstall id message => exact h ▸ failInstall_follows hn id message
  | markInstallAmbiguous id message => exact h ▸ markInstallAmbiguous_follows hn id message
  | cancelSshWait id warning => exact cancelSshWait_follows hn h
  | reconcile id note => exact reconcile_follows hn h
  | recover reason => exact h ▸ recover_follows hn reason
  | reset => exact reset_follows h
  | other => exact (Follows.idle hn rfl).quiet (Quiet.of_same h)

end Server

end AutoVPN
