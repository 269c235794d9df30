import AutoVPN.Server.Coordinator

/-! Looking an operation up after a write. -/

namespace AutoVPN

namespace Server.Db

theorem find?_update {α : Type} {key : α → Nat} (l : List α) (target : Nat) {f : α → α}
    (hf : ∀ o, key (f o) = key o) (id : Nat) :
    (l.map fun o => if key o == target then f o else o).find? (fun o => key o == id) =
      (l.find? fun o => key o == id).map fun o => if key o == target then f o else o := by
  rw [List.find?_map]
  congr 2
  funext o
  simp only [Function.comp_apply]
  split
  · rw [hf]
  · rfl

theorem findInstall_updateInstall (db : Db) (target : Nat)
    {f : InstallOperation → InstallOperation} (hf : ∀ o, (f o).id = o.id) (id : Nat) :
    (db.updateInstall target f).findInstall id =
      (db.findInstall id).map fun o => if o.id == target then f o else o :=
  find?_update db.installOperations target hf id

theorem findIp_updateIp (db : Db) (target : Nat) {f : IpOperation → IpOperation}
    (hf : ∀ o, (f o).id = o.id) (id : Nat) : (db.updateIp target f).findIp id =
      (db.findIp id).map fun o => if o.id == target then f o else o :=
  find?_update db.ipOperations target hf id

theorem findServer_updateServer (db : Db) (target : Nat) {f : ServerOperation → ServerOperation}
    (hf : ∀ o, (f o).id = o.id) (id : Nat) : (db.updateServer target f).findServer id =
      (db.findServer id).map fun o => if o.id == target then f o else o :=
  find?_update db.serverOperations target hf id

variable {db db' : Db}

theorem id_of_findInstall {id : Nat} {o : InstallOperation} (h : db.findInstall id = some o) :
    o.id = id := by
  simpa using List.find?_some h

theorem id_of_findIp {id : Nat} {o : IpOperation} (h : db.findIp id = some o) : o.id = id := by
  simpa using List.find?_some h

theorem id_of_findServer {id : Nat} {o : ServerOperation} (h : db.findServer id = some o) :
    o.id = id := by
  simpa using List.find?_some h

theorem findIp_of_eq (h : db'.ipOperations = db.ipOperations) (id : Nat) :
    db'.findIp id = db.findIp id := by
  rw [findIp, h, findIp]

theorem findServer_of_eq (h : db'.serverOperations = db.serverOperations) (id : Nat) :
    db'.findServer id = db.findServer id := by
  rw [findServer, h, findServer]

theorem interrupt_id (reason : String) (o : ServerOperation) : (o.interrupt reason).id = o.id := by
  unfold ServerOperation.interrupt
  split
  · rfl
  · split <;> rfl

theorem interrupt_ip_id (reason : String) (o : IpOperation) : (o.interrupt reason).id = o.id := by
  unfold IpOperation.interrupt
  split
  · rfl
  split
  · rfl
  split <;> rfl

theorem interrupt_install_id (reason : String) (o : InstallOperation) :
    (o.interrupt reason).id = o.id := by
  unfold InstallOperation.interrupt
  split <;> rfl

end Server.Db

end AutoVPN
