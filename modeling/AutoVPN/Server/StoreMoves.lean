import AutoVPN.Server.Store

/-! What a transaction on the database can do, as a sequence of small moves. -/

namespace AutoVPN

open Server

/-- The settings after a write, and a new revision when a VPN setting changes. -/
def Server.Db.written (db : Db) (values : List (String × String)) (mark : Bool)
    (timestamp : String) : Db :=
  if mark && values.any fun entry => isVpnSetting entry.1 && db.setting entry.1 != entry.2 then
    (db.storeSettings values).markVpnConfigUpdated timestamp
  else db.storeSettings values

/-- An edit that keeps who a client is and whether it is deleted. -/
structure ClientEdit (f : ClientRow → ClientRow) : Prop where
  id : ∀ row, (f row).client.id = row.client.id
  amneziaIpv4 : ∀ row, (f row).client.amneziaIpv4 = row.client.amneziaIpv4
  deletedAt : ∀ row, (f row).deletedAt = row.deletedAt
  deletedRevision : ∀ row, (f row).deletedRevision = row.deletedRevision

structure RouterEdit (f : RouterRow → RouterRow) : Prop where
  routerId : ∀ router, (f router).routerId = router.routerId
  clientId : ∀ router, (f router).clientId = router.clientId

inductive ConfigMove (env : Environment) (W : Writes) : Db → Db → Prop
  | write {db : Db} {values : List (String × String)} {mark : Bool} (timestamp : String)
    (hw : W db values mark) : ConfigMove env W db (db.written values mark timestamp)
  | addClient {db : Db} {row : ClientRow} (timestamp : String)
    (ha : db.allocateAmneziaAddress env = .ok row.client.amneziaIpv4)
    (hid : row.client.id = db.clientSequence + 1) (hd : row.deletedAt = none)
    (hr : row.deletedRevision = none) :
    ConfigMove env W db (Db.markVpnConfigUpdated { db with
      clients := db.clients ++ [row]
      clientSequence := db.clientSequence + 1 } timestamp)
  | editClient {db : Db} (clientId : Nat) {f : ClientRow → ClientRow} (timestamp : String)
    (hf : ClientEdit f) :
    ConfigMove env W db ((db.updateClient clientId f).markVpnConfigUpdated timestamp)
  | deleteClient (db : Db) (clientId : Nat) (timestamp : String) :
    ConfigMove env W db ((db.markVpnConfigUpdated timestamp).updateClient clientId fun row =>
      { row with deletedAt := some timestamp, deletedRevision := some (db.desiredRevision + 1) })
  | purge (db : Db) : ConfigMove env W db db.purgeAppliedDeletedClients
  | addRouter {db : Db} (router : RouterRow)
    (hc : (db.findClient router.clientId).isSome)
    (hn : ∀ other ∈ db.routers, other.routerId ≠ router.routerId) :
    ConfigMove env W db { db with routers := db.routers ++ [router] }
  | editRouter {db : Db} (routerId : String) {f : RouterRow → RouterRow} (timestamp : String)
    (hf : RouterEdit f) :
    ConfigMove env W db ((db.updateRouter routerId f).markVpnConfigUpdated timestamp)
  | labelRouter (db : Db) (routerId label : String) :
    ConfigMove env W db (db.updateRouter routerId fun router => { router with label := label })
  | removeRouter (db : Db) (routerId timestamp : String) :
    ConfigMove env W db (Db.cascade { db.markVpnConfigUpdated timestamp with
      routers := db.routers.filter fun router => router.routerId != routerId })
  | addPeer {db : Db} {peer : PeerRow} (timestamp : String)
    (ha : db.allocateAmneziaAddress env = .ok peer.ipv4)
    (hr : ∃ router ∈ db.routers, router.routerId = peer.routerId)
    (hn : ∀ other ∈ db.peers, other.routerId ≠ peer.routerId) :
    ConfigMove env W db
      (Db.markVpnConfigUpdated { db with peers := db.peers ++ [peer] } timestamp)
  | setCredentials (db : Db) (credentials : List CredentialRow) :
    ConfigMove env W db { db with credentials := credentials }
  | startUp {db db' : Db} {m : StartMaterial} {timestamp : String}
    (h : db.initDb env m timestamp = .ok db') : ConfigMove env W db db'
  | reset (db : Db) (timestamp : String) :
    ConfigMove env W db (db.clearServerAndAezaState timestamp)

/-- An edit of a snapshot that leaves its content, and an applied snapshot applied. -/
structure SnapshotEdit (f : VpnSnapshot → VpnSnapshot) : Prop where
  payload : ∀ s, (f s).payload = s.payload
  payloadSha256 : ∀ s, (f s).payloadSha256 = s.payloadSha256
  applied : ∀ s, s.lifecycle = .applied → (f s).lifecycle = .applied

inductive SnapshotMove (env : Environment) : Db → Db → Prop
  | operations {db db' : Db} (h : OperationWrite db db') : SnapshotMove env db db'
  | note (db : Db) (operationId : Nat) (name value : String) :
    SnapshotMove env db (db.storeSetting (operationKey operationId name) value)
  | prepare {db : Db} {config : CapturedVpnConfig} (hc : db.capture env = .ok config)
    (hn : db.snapshots config.revision = none) :
    SnapshotMove env db (db.insertSnapshot config.revision
      ⟨canonicalVpnConfigJson config, env.sha256 (canonicalVpnConfigJson config), .prepared⟩)
  | editSnapshot (db : Db) (revision : Nat) {f : VpnSnapshot → VpnSnapshot}
    (hf : SnapshotEdit f) : SnapshotMove env db (db.updateSnapshot revision f)
  | publish {db db' : Db} {operationId : Nat} {p : Db.IpPublication}
    (h : db.publishIpChange env operationId p = .ok db') : SnapshotMove env db db'
  | completeInstall {db db' : Db} {operationId : Nat} {output : String}
    (h : db.completeInstallOperation operationId output = .ok db') : SnapshotMove env db db'

inductive StoreMove (env : Environment) (W : Writes) (db db' : Db) : Prop
  | config (h : ConfigMove env W db db')
  | snapshot (h : SnapshotMove env db db')

abbrev StoreMoves (env : Environment) (W : Writes) : Db → Db → Prop :=
  Relation.ReflTransGen (StoreMove env W)

namespace Server.Db

variable {env : Environment} {W : Writes} {db db' : Db}

theorem ensurePeer_moves {routerId timestamp : String} {m : PeerMaterial}
    (h : db.ensureRouterAmneziaPeer env routerId m timestamp = .ok db') :
    Relation.ReflTransGen (ConfigMove env W) db db' := by
  obtain ⟨created, hc, h⟩ := except_bind_eq_ok.1 h
  obtain rfl := Except.ok.inj h
  rcases createRouterAmneziaPeer_ok hc with rfl | ⟨peer, rfl, ha, hr, hn⟩
  · exact .refl
  · exact .single (.addPeer timestamp ha hr hn)

theorem insertRouter_moves {routerId label timestamp : String} {clientId : Nat} {m : PeerMaterial}
    (h : db.insertRouter env routerId label clientId m timestamp = .ok db') :
    Relation.ReflTransGen (ConfigMove env W) db db' := by
  unfold insertRouter at h
  split at h
  · cases h
  · rename_i hc
    split at h
    · cases h
    · split at h
      · cases h
      · rename_i hr
        have hadd : ConfigMove env W db
            { db with routers := db.routers ++ [⟨routerId, clientId, label, true⟩] } := by
          refine .addRouter ⟨routerId, clientId, label, true⟩ ?_ ?_
          · simpa [Option.isSome_iff_ne_none] using hc
          · simpa using hr
        exact (Relation.ReflTransGen.single hadd).trans (ensurePeer_moves h)

theorem written_setSettings {values : List (String × String)} {mark requireIdle : Bool}
    {timestamp : String} (h : db.setSettings values mark requireIdle timestamp = .ok db') :
    db' = db.written values mark timestamp := by
  unfold setSettings at h
  split at h
  · cases h
  · exact (Except.ok.inj h).symm

theorem written_setSetting (key value timestamp : String) :
    db.setSetting key value timestamp = db.written [(key, value)] true timestamp := by
  unfold setSetting written
  simp [storeSettings]

theorem assignRouter_moves {c : NewCredential} {m : PeerMaterial} {timestamp assigned : String}
    (h : db.assignRouter env c m timestamp = .ok (assigned, db')) :
    Relation.ReflTransGen (ConfigMove env W) db db' := by
  unfold assignRouter at h
  cases hc : c.routerId with
  | none =>
    simp only [hc] at h
    obtain ⟨inserted, hi, he⟩ := except_map_eq_ok.1 h
    cases he
    exact insertRouter_moves hi
  | some routerId =>
    simp only [hc] at h
    split at h
    · cases h
    · split at h
      · cases h
      · obtain ⟨ensured, hi, he⟩ := except_map_eq_ok.1 h
        cases he
        exact ensurePeer_moves hi

theorem issueCredential_moves {c : NewCredential} {m : PeerMaterial} {timestamp : String}
    (h : db.issueRouterCredential env c m timestamp = .ok db') :
    Relation.ReflTransGen (ConfigMove env W) db db' := by
  obtain ⟨⟨assigned, bound⟩, hb, h⟩ := except_bind_eq_ok.1 h
  simp only at h
  split at h
  · cases h
  · have he := Except.ok.inj h
    rw [← he]
    exact (assignRouter_moves hb).tail (.setCredentials bound _)

end Server.Db

open Server.Db in
theorem ConfigStep.moves {env : Environment} {W : Writes} {db db' : Db}
    (h : ConfigStep env W db db') : Relation.ReflTransGen (ConfigMove env W) db db' := by
  cases h with
  | setSetting hw =>
    rw [written_setSetting]
    exact .single (.write _ hw)
  | setSettings hw h =>
    rw [written_setSettings h]
    exact .single (.write _ hw)
  | createClient h =>
    obtain ⟨address, ha, h⟩ := except_bind_eq_ok.1 h
    split at h
    · cases h
    · have he := Except.ok.inj h
      rw [← he]
      exact .single (.addClient _ ha rfl rfl rfl)
  | setClientEnabled clientId enabled timestamp =>
    unfold Db.setClientEnabled
    split
    · exact .refl
    · split
      · exact .refl
      · exact .single (.editClient clientId timestamp
          ⟨fun _ => rfl, fun _ => rfl, fun _ => rfl, fun _ => rfl⟩)
  | updateClientName clientId name timestamp =>
    unfold Db.updateClientName
    split
    · exact .refl
    · split
      · exact .refl
      · exact .single (.editClient clientId timestamp
          ⟨fun _ => rfl, fun _ => rfl, fun _ => rfl, fun _ => rfl⟩)
  | deleteClient clientId timestamp =>
    unfold Db.deleteClient
    split
    · exact .refl
    · exact .single (.deleteClient db clientId timestamp)
  | purge => exact .single (.purge db)
  | createRouter h => exact insertRouter_moves h
  | setRouterEnabled h =>
    unfold Db.setRouterEnabled at h
    split at h
    · cases h
    · split at h
      · cases h
        exact .refl
      · cases h
        exact .single (.editRouter _ _ ⟨fun _ => rfl, fun _ => rfl⟩)
  | updateRouterLabel h =>
    unfold Db.updateRouterLabel at h
    split at h
    · cases h
    · cases h
      exact .single (.labelRouter db _ _)
  | deleteRouter h =>
    unfold Db.deleteRouter at h
    split at h
    · cases h
    · cases h
      exact .single (.removeRouter db _ _)
  | ensurePeer h => exact ensurePeer_moves h
  | startUp h => exact .single (.startUp h)
  | reset h =>
    obtain ⟨-, rfl⟩ := resetServerAndAezaState_ok h
    exact .single (.reset db _)

open Server.Db in
theorem CredentialStep.moves {env : Environment} {W : Writes} {db db' : Db}
    (h : CredentialStep env db db') : Relation.ReflTransGen (ConfigMove env W) db db' := by
  cases h with
  | issue h => exact issueCredential_moves h
  | rotate h =>
    unfold Db.rotateRouterCredential at h
    split at h
    · cases h
    · split at h
      · cases h
      · split at h
        · cases h
        · cases h
          exact .single (.setCredentials db _)
  | revoke h =>
    unfold Db.revokeRouterCredential at h
    split at h
    · cases h
    · cases h
      exact .single (.setCredentials db _)

theorem SnapshotEdit.reprepare : SnapshotEdit VpnSnapshot.reprepare := by
  refine ⟨fun s => ?_, fun s => ?_, fun s hs => ?_⟩
  · unfold VpnSnapshot.reprepare
    split <;> rfl
  · unfold VpnSnapshot.reprepare
    split <;> rfl
  · rw [VpnSnapshot.reprepare, if_pos hs, hs]

theorem SnapshotEdit.failPrepared : SnapshotEdit VpnSnapshot.failPrepared := by
  refine ⟨fun s => ?_, fun s => ?_, fun s hs => ?_⟩
  · unfold VpnSnapshot.failPrepared
    split <;> rfl
  · unfold VpnSnapshot.failPrepared
    split <;> rfl
  · rw [VpnSnapshot.failPrepared, hs, if_neg (by decide), hs]

theorem SnapshotEdit.failUnapplied : SnapshotEdit VpnSnapshot.failUnapplied := by
  refine ⟨fun s => ?_, fun s => ?_, fun s hs => ?_⟩
  · unfold VpnSnapshot.failUnapplied
    split <;> rfl
  · unfold VpnSnapshot.failUnapplied
    split <;> rfl
  · rw [VpnSnapshot.failUnapplied, if_pos hs, hs]

namespace Server.Db

variable {env : Environment} {db db' : Db}

abbrev SnapshotMoves (env : Environment) : Db → Db → Prop :=
  Relation.ReflTransGen (SnapshotMove env)

theorem failOwner_moves (env : Environment) (db : Db) (owner : LeaseOwner) (reason : String) :
    SnapshotMoves env db (db.failOwner owner reason) := by
  unfold failOwner
  cases owner.ownerType with
  | install =>
    cases (db.findInstall owner.ownerId).bind (·.revision) with
    | none => exact .single (.operations (operationWrite_updateInstall db _ _))
    | some revision =>
      have hedit : SnapshotMove env db (db.updateSnapshot revision VpnSnapshot.failPrepared) :=
        .editSnapshot db revision SnapshotEdit.failPrepared
      exact (Relation.ReflTransGen.single hedit).tail
        (.operations (operationWrite_updateInstall _ _ _))
  | ipChange => exact .single (.operations (operationWrite_updateIp db _ _))
  | server => exact .single (.operations (operationWrite_updateServer db _ _))

theorem failOwners_moves (env : Environment) (type : OwnerType) (reason : String)
    (ids : List Nat) (db : Db) :
    SnapshotMoves env db (ids.foldl (fun db id => db.failOwner ⟨type, id⟩ reason) db) := by
  induction ids generalizing db with
  | nil => exact .refl
  | cons id ids ih => exact (failOwner_moves env db ⟨type, id⟩ reason).trans (ih _)

theorem acquire_moves {owner : LeaseOwner} {now : Nat} (h : db.acquireVpsLease owner now = .ok db') :
    SnapshotMoves env db db' := by
  unfold acquireVpsLease at h
  split at h
  · cases h
    exact .single (.operations ⟨rfl⟩)
  · split at h
    · cases h
    · cases h
      exact (failOwner_moves env db _ _).tail (.operations ⟨rfl⟩)

theorem recover_moves (env : Environment) (db : Db) (reason : String) :
    SnapshotMoves env db (db.recoverIncompleteVpsOperations reason) :=
  (((failOwners_moves env .install reason _ db).trans
    (failOwners_moves env .ipChange reason _ _)).trans
    (failOwners_moves env .server reason _ _)).tail (.operations ⟨rfl⟩)

theorem capture_revision {config : CapturedVpnConfig} (h : db.capture env = .ok config) :
    config.revision = db.desiredRevision := by
  obtain ⟨vless, hv, h⟩ := except_bind_eq_ok.1 h
  obtain ⟨hysteria, hh, h⟩ := except_bind_eq_ok.1 h
  obtain ⟨amnezia, ha, h⟩ := except_bind_eq_ok.1 h
  cases h
  rfl

theorem snapshotPayload_ok {config : CapturedVpnConfig} {payload : Value} {sha256 : String}
    (h : db.snapshotPayload env = .ok (config, payload, sha256)) :
    db.capture env = .ok config ∧ payload = canonicalVpnConfigJson config ∧
      sha256 = env.sha256 (canonicalVpnConfigJson config) := by
  obtain ⟨captured, hc, h⟩ := except_bind_eq_ok.1 h
  cases h
  exact ⟨hc, rfl, rfl⟩

theorem ensureSnapshot_moves {config : CapturedVpnConfig} {payload : Value} {sha256 : String}
    {reprepare : Bool} (hp : db.snapshotPayload env = .ok (config, payload, sha256))
    (h : db.ensureSnapshot env config payload sha256 reprepare = .ok db') :
    SnapshotMoves env db db' := by
  obtain ⟨hc, rfl, rfl⟩ := snapshotPayload_ok hp
  unfold ensureSnapshot at h
  split at h
  · split at h
    · cases h
    · split at h
      · cases h
        exact .single (.editSnapshot db _ SnapshotEdit.reprepare)
      · cases h
        exact .refl
  · cases h
    exact .single (.prepare hc ‹_›)

theorem prepareInstall_moves {targetHost : String} {now : Nat}
    (h : db.prepareInstallOperation env targetHost now = .ok db') : SnapshotMoves env db db' := by
  obtain ⟨⟨config, payload, sha256⟩, hp, h⟩ := except_bind_eq_ok.1 h
  obtain ⟨ensured, he, h⟩ := except_bind_eq_ok.1 h
  exact ((ensureSnapshot_moves hp he).tail (.operations ⟨rfl⟩)).trans (acquire_moves h)

theorem bindProvider_moves {operationId : Nat} (h : db.bindProvider env operationId = .ok db') :
    SnapshotMoves env db db' := by
  unfold bindProvider at h
  simp only at h
  split at h
  · cases h
  · cases h
    exact .single (.note db operationId "provider" _)

theorem requestRetry_moves (env : Environment) (db : Db) (id : Nat) :
    SnapshotMoves env db (db.requestRetry id) :=
  .single (.operations (operationWrite_updateIp db _ _))

theorem prepareIpChange_moves {decision : IpDecision} {now : Nat}
    (h : db.prepareIpChangeOperation env decision now = .ok db') : SnapshotMoves env db db' := by
  obtain ⟨-, -, h⟩ := except_bind_eq_ok.1 h
  obtain ⟨⟨config, payload, sha256⟩, hp, h⟩ := except_bind_eq_ok.1 h
  obtain ⟨ensured, he, h⟩ := except_bind_eq_ok.1 h
  obtain ⟨leased, hl, h⟩ := except_bind_eq_ok.1 h
  obtain ⟨bound, hb, h⟩ := except_bind_eq_ok.1 h
  have hbound : SnapshotMoves env db bound :=
    (((ensureSnapshot_moves hp he).tail (.operations ⟨rfl⟩)).trans (acquire_moves hl)).trans
      (bindProvider_moves hb)
  cases h
  cases decision.ssh with
  | none =>
    cases decision.review with
    | none => exact hbound
    | some review => exact hbound.trans (requestRetry_moves env _ review)
  | some ssh =>
    let noted := bound.storeSetting (operationKey (ensured.ipSequence + 1) "sprintbox")
      (env.dumps (.object [("retained_boxes", .object (inheritedBoxes env bound ssh))]))
    have hssh : SnapshotMoves env db (noted.requestRetry ssh) :=
      (hbound.tail (.note bound _ "sprintbox" _)).trans (requestRetry_moves env noted ssh)
    cases decision.review with
    | none => exact hssh
    | some review => exact hssh.trans (requestRetry_moves env _ review)

theorem failInstallSnapshot_moves (env : Environment) (db : Db) (operationId : Nat) :
    SnapshotMoves env db (db.failInstallSnapshot operationId) := by
  unfold failInstallSnapshot
  split
  · exact .single (.editSnapshot db _ SnapshotEdit.failUnapplied)
  · exact .refl

end Server.Db

open Server.Db in
theorem SnapshotStep.moves {env : Environment} {db db' : Db} (h : SnapshotStep env db db') :
    Relation.ReflTransGen (SnapshotMove env) db db' := by
  cases h with
  | prepareInstall h => exact prepareInstall_moves h
  | prepareIpChange h => exact prepareIpChange_moves h
  | publish h => exact .single (.publish h)
  | completeInstall h => exact .single (.completeInstall h)
  | failInstall operationId message =>
    exact (failInstallSnapshot_moves env db operationId).tail (.operations ⟨rfl⟩)
  | markAmbiguous operationId message =>
    exact (failInstallSnapshot_moves env db operationId).tail (.operations ⟨rfl⟩)
  | prepareCleanup h =>
    obtain ⟨-, -, h⟩ := except_bind_eq_ok.1 h
    obtain ⟨leased, hl, h⟩ := except_bind_eq_ok.1 h
    cases h
    exact (acquire_moves hl).tail (.operations (operationWrite_updateIp _ _ _))
  | prepareSshWait h =>
    obtain ⟨-, -, h⟩ := except_bind_eq_ok.1 h
    obtain ⟨leased, hl, h⟩ := except_bind_eq_ok.1 h
    cases h
    exact (acquire_moves hl).tail (.operations (operationWrite_updateIp _ _ _))
  | acquire h => exact acquire_moves h
  | recover reason => exact recover_moves env db reason
  | operations h => exact .single (.operations h)

theorem StoreStep.moves {env : Environment} {W : Writes} {db db' : Db}
    (h : StoreStep env W db db') : StoreMoves env W db db' := by
  rcases h with h | h | h
  · exact h.moves.lift id fun _ _ h => StoreMove.config h
  · exact h.moves.lift id fun _ _ h => StoreMove.config h
  · exact h.moves.lift id fun _ _ h => StoreMove.snapshot h

theorem StoreRuns.moves {env : Environment} {W : Writes} {db db' : Db}
    (h : StoreRuns env W db db') : StoreMoves env W db db' := by
  induction h with
  | refl => exact .refl
  | tail _ hs ih => exact ih.trans hs.moves

end AutoVPN
