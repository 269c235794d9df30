import AutoVPN.Lib.Program
import AutoVPN.Server.StartUp
import AutoVPN.Server.VpnState

/-! Runs of the server's database: every transaction on the configuration and on
the snapshots, by anybody and in any order. -/

namespace AutoVPN

open Server

/-- A write to the operations and the lease. -/
structure OperationWrite (db db' : Db) : Prop where
  rest : db' = { db with installOperations := db'.installOperations
                         ipOperations := db'.ipOperations
                         serverOperations := db'.serverOperations
                         lease := db'.lease
                         installSequence := db'.installSequence
                         ipSequence := db'.ipSequence
                         serverSequence := db'.serverSequence }

/-- Which writes of settings a run has: the values, and whether the writer asks for a
new revision. -/
abbrev Writes : Type := Db → List (String × String) → Bool → Prop

/-- One transaction on the configuration. -/
inductive ConfigStep (env : Environment) (W : Writes) : Db → Db → Prop
  | setSetting {db : Db} {key value timestamp : String} (hw : W db [(key, value)] true) :
    ConfigStep env W db (db.setSetting key value timestamp)
  | setSettings {db db' : Db} {values : List (String × String)} {mark requireIdle : Bool}
    {timestamp : String} (hw : W db values mark)
    (h : db.setSettings values mark requireIdle timestamp = .ok db') : ConfigStep env W db db'
  | createClient {db db' : Db} {name timestamp : String} {m : ClientMaterial}
    (h : db.createClient env name m timestamp = .ok db') : ConfigStep env W db db'
  | setClientEnabled (db : Db) (clientId : Nat) (enabled : Bool) (timestamp : String) :
    ConfigStep env W db (db.setClientEnabled clientId enabled timestamp)
  | updateClientName (db : Db) (clientId : Nat) (name timestamp : String) :
    ConfigStep env W db (db.updateClientName clientId name timestamp)
  | deleteClient (db : Db) (clientId : Nat) (timestamp : String) :
    ConfigStep env W db (db.deleteClient clientId timestamp)
  | purge (db : Db) : ConfigStep env W db db.purgeAppliedDeletedClients
  | createRouter {db db' : Db} {routerId label timestamp : String} {clientId : Nat}
    {m : PeerMaterial} (h : db.createRouter env routerId label clientId m timestamp = .ok db') :
    ConfigStep env W db db'
  | setRouterEnabled {db db' : Db} {routerId timestamp : String} {enabled : Bool}
    (h : db.setRouterEnabled routerId enabled timestamp = .ok db') : ConfigStep env W db db'
  | updateRouterLabel {db db' : Db} {routerId label : String}
    (h : db.updateRouterLabel routerId label = .ok db') : ConfigStep env W db db'
  | deleteRouter {db db' : Db} {routerId timestamp : String}
    (h : db.deleteRouter routerId timestamp = .ok db') : ConfigStep env W db db'
  | ensurePeer {db db' : Db} {routerId timestamp : String} {m : PeerMaterial}
    (h : db.ensureRouterAmneziaPeer env routerId m timestamp = .ok db') : ConfigStep env W db db'
  | startUp {db db' : Db} {m : StartMaterial} {timestamp : String}
    (h : db.initDb env m timestamp = .ok db') : ConfigStep env W db db'
  | reset {db db' : Db} {timestamp : String} (h : db.resetServerAndAezaState timestamp = .ok db') :
    ConfigStep env W db db'

/-- One transaction on the credentials of routers. -/
inductive CredentialStep (env : Environment) : Db → Db → Prop
  | issue {db db' : Db} {c : Db.NewCredential} {m : PeerMaterial} {timestamp : String}
    (h : db.issueRouterCredential env c m timestamp = .ok db') : CredentialStep env db db'
  | rotate {db db' : Db} {credentialId secretDigest : String} {expired : String → Bool}
    (h : db.rotateRouterCredential credentialId secretDigest expired = .ok db') :
    CredentialStep env db db'
  | revoke {db db' : Db} {credentialId timestamp : String}
    (h : db.revokeRouterCredential credentialId timestamp = .ok db') : CredentialStep env db db'

/-- One transaction on the snapshots and the operations bound to them. -/
inductive SnapshotStep (env : Environment) : Db → Db → Prop
  | prepareInstall {db db' : Db} {targetHost : String} {now : Nat}
    (h : db.prepareInstallOperation env targetHost now = .ok db') : SnapshotStep env db db'
  | prepareIpChange {db db' : Db} {decision : Db.IpDecision} {now : Nat}
    (h : db.prepareIpChangeOperation env decision now = .ok db') : SnapshotStep env db db'
  | publish {db db' : Db} {operationId : Nat} {p : Db.IpPublication}
    (h : db.publishIpChange env operationId p = .ok db') : SnapshotStep env db db'
  | completeInstall {db db' : Db} {operationId : Nat} {output : String}
    (h : db.completeInstallOperation operationId output = .ok db') : SnapshotStep env db db'
  | failInstall (db : Db) (operationId : Nat) (message : String) :
    SnapshotStep env db (db.failInstallOperation operationId message)
  | markAmbiguous (db : Db) (operationId : Nat) (message : String) :
    SnapshotStep env db (db.markInstallOperationAmbiguous operationId message)
  | prepareCleanup {db db' : Db} {operationId now : Nat}
    (h : db.prepareCleanup env operationId now = .ok db') : SnapshotStep env db db'
  | prepareSshWait {db db' : Db} {operationId now : Nat}
    (h : db.prepareSshWait env operationId now = .ok db') : SnapshotStep env db db'
  | acquire {db db' : Db} {owner : LeaseOwner} {now : Nat}
    (h : db.acquireVpsLease owner now = .ok db') : SnapshotStep env db db'
  | recover (db : Db) (reason : String) :
    SnapshotStep env db (db.recoverIncompleteVpsOperations reason)
  | operations {db db' : Db} (h : OperationWrite db db') : SnapshotStep env db db'

inductive StoreStep (env : Environment) (W : Writes) (db db' : Db) : Prop
  | config (h : ConfigStep env W db db')
  | credential (h : CredentialStep env db db')
  | snapshot (h : SnapshotStep env db db')

abbrev StoreRuns (env : Environment) (W : Writes) : Db → Db → Prop :=
  Relation.ReflTransGen (StoreStep env W)

/-! What the transactions leave alone. -/

/-- The settings that a captured configuration is read from. -/
def capturedKey (key : String) : Bool := isVpnSetting key || key == "vpn.config_updated_at"

/-- The snapshots and the revision that is applied stay; the desired revision does not go back. -/
structure SameSnapshots (db db' : Db) : Prop where
  snapshots : db'.snapshots = db.snapshots
  applied : db'.appliedRevision = db.appliedRevision
  desired : db.desiredRevision ≤ db'.desiredRevision

/-- The rows and settings of the configuration stay. -/
structure SameConfig (db db' : Db) : Prop where
  settings : ∀ key, capturedKey key → db'.lookup key = db.lookup key
  clients : db'.clients = db.clients
  routers : db'.routers = db.routers
  peers : db'.peers = db.peers
  desired : db'.desiredRevision = db.desiredRevision
  sequence : db'.clientSequence = db.clientSequence

theorem SameSnapshots.refl (db : Db) : SameSnapshots db db := ⟨rfl, rfl, le_rfl⟩

theorem SameSnapshots.trans {a b c : Db} (h : SameSnapshots a b) (h' : SameSnapshots b c) :
    SameSnapshots a c :=
  ⟨h'.snapshots.trans h.snapshots, h'.applied.trans h.applied, h.desired.trans h'.desired⟩

theorem SameConfig.refl (db : Db) : SameConfig db db := ⟨fun _ _ => rfl, rfl, rfl, rfl, rfl, rfl⟩

theorem SameConfig.trans {a b c : Db} (h : SameConfig a b) (h' : SameConfig b c) :
    SameConfig a c :=
  ⟨fun key hk => (h'.settings key hk).trans (h.settings key hk), h'.clients.trans h.clients,
    h'.routers.trans h.routers, h'.peers.trans h.peers, h'.desired.trans h.desired,
    h'.sequence.trans h.sequence⟩

theorem OperationWrite.trans {a b c : Db} (h : OperationWrite a b) (h' : OperationWrite b c) :
    OperationWrite a c := by
  refine ⟨?_⟩
  rw [h'.rest, h.rest]

theorem OperationWrite.sameSnapshots {db db' : Db} (h : OperationWrite db db') :
    SameSnapshots db db' := by
  rw [h.rest]
  exact ⟨rfl, rfl, le_rfl⟩

theorem OperationWrite.sameConfig {db db' : Db} (h : OperationWrite db db') :
    SameConfig db db' := by
  rw [h.rest]
  exact ⟨fun _ _ => rfl, rfl, rfl, rfl, rfl, rfl⟩

namespace Server.Db

variable {env : Environment} {db db' : Db}

theorem storeSettings_settings_congr {a b : Db} (h : a.settings = b.settings)
    (values : List (String × String)) :
    (a.storeSettings values).settings = (b.storeSettings values).settings := by
  induction values generalizing a b with
  | nil => exact h
  | cons entry values ih =>
    have hstep : (a.storeSetting entry.1 entry.2).settings =
        (b.storeSetting entry.1 entry.2).settings := by
      simp only [storeSetting, h]
    exact ih hstep

theorem storeSettings_eq_of (a b : Db) (values : List (String × String))
    (h : a.settings = b.settings) :
    a.storeSettings values = { a with settings := (b.storeSettings values).settings } := by
  rw [storeSettings_eq, storeSettings_settings_congr h]

theorem purge_eq (db : Db) : db.purgeAppliedDeletedClients =
    { db with clients := db.purgeAppliedDeletedClients.clients
              routers := db.purgeAppliedDeletedClients.routers
              peers := db.purgeAppliedDeletedClients.peers
              credentials := db.purgeAppliedDeletedClients.credentials } := by
  unfold purgeAppliedDeletedClients
  split
  · rfl
  · rfl

theorem operationWrite_updateIp (db : Db) (id : Nat) (f : IpOperation → IpOperation) :
    OperationWrite db (db.updateIp id f) := ⟨rfl⟩

theorem operationWrite_updateServer (db : Db) (id : Nat)
    (f : ServerOperation → ServerOperation) : OperationWrite db (db.updateServer id f) := ⟨rfl⟩

theorem operationWrite_updateInstall (db : Db) (id : Nat)
    (f : InstallOperation → InstallOperation) : OperationWrite db (db.updateInstall id f) := ⟨rfl⟩

end Server.Db

end AutoVPN
