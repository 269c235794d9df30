import AutoVPN.Lib.Text
import AutoVPN.Server.Rows

/-! AmneziaWG addresses over the runs of the database: no two owners share one, and
a client of the applied snapshot keeps its own. -/

namespace AutoVPN

open Server Server.Db

/-- The address of the server in a network. -/
def serverAddress (network : String) : String := network ++ ".1"

theorem dot_not_mem_toString (n : Nat) : '.' ∉ (toString n).toList := by
  intro h
  exact absurd (isDigit_of_mem_toString h) (by decide)

theorem clientHosts_ne_serverAddress {network address : String}
    (h : address ∈ clientHosts network) (other : String) : address ≠ serverAddress other := by
  obtain ⟨i, -, rfl⟩ := List.mem_map.1 h
  intro he
  have hlist : network.toList ++ '.' :: (toString (i + 2)).toList =
      other.toList ++ '.' :: (toString 1).toList := by
    have hl := congrArg String.toList he
    rw [show (toString 1).toList = ['1'] from rfl]
    simpa [serverAddress] using hl
  have htext := append_separator_right_inj (dot_not_mem_toString _) (dot_not_mem_toString 1) hlist
  have hone : i + 2 = 1 := toString_injective (String.toList_injective htext)
  omega

/-- The snapshot of a revision, read back. -/
def Server.Db.snapshotConfig (db : Db) (revision : Nat) : Option CapturedVpnConfig :=
  (db.snapshots revision).bind fun s => capturedVpnConfigFromJson s.payload

/-- A row has the address of the snapshot's client, and goes only after the revision. -/
def KeepsAddress (db : Db) (revision : Nat) (client : VpnClient) : Prop :=
  ∃ row ∈ db.clients, row.client.id = client.id ∧
    row.client.amneziaIpv4 = client.amneziaIpv4 ∧
    ∀ d, row.deletedRevision = some d → revision < d

structure Addressed (env : Environment) (db : Db) : Prop where
  consistent : Consistent env db
  distinct : db.usedAddresses.Nodup
  hosts : ∀ address ∈ db.usedAddresses, ∃ network, address ∈ clientHosts network
  marked : ∀ row ∈ db.clients, Marked db.desiredRevision row
  covered : ∀ r config, db.snapshotConfig r = some config →
    (∀ a, db.appliedRevision = some a → a ≤ r) → ∀ client ∈ config.clients, KeepsAddress db r client

/-- The rows stay, but for those whose deletion has been applied. -/
def RowsStay (db db' : Db) : Prop :=
  ∀ row ∈ db.clients,
    (∃ row' ∈ db'.clients, row'.client.id = row.client.id ∧
      row'.client.amneziaIpv4 = row.client.amneziaIpv4 ∧
      ∀ d, row'.deletedRevision = some d → row.deletedRevision = some d ∨ db.desiredRevision < d) ∨
    ∃ d a, row.deletedRevision = some d ∧ db'.appliedRevision = some a ∧ d ≤ a

theorem RowsStay.of_subset {db db' : Db} (h : ∀ row ∈ db.clients, row ∈ db'.clients) :
    RowsStay db db' :=
  fun row hrow => .inl ⟨row, h row hrow, rfl, rfl, fun _ hd => .inl hd⟩

section

variable {env : Environment} {W : Writes} {db db' : Db}

theorem Addressed.keeps (h : Addressed env db) (he : Evolves db db') (hrows : RowsStay db db')
    {r : Nat} {config : CapturedVpnConfig} (hs : db.snapshotConfig r = some config)
    (hr : ∀ a, db'.appliedRevision = some a → a ≤ r) {client : VpnClient}
    (hclient : client ∈ config.clients) : KeepsAddress db' r client := by
  have hold : ∀ a, db.appliedRevision = some a → a ≤ r := by
    intro a ha
    obtain ⟨a', ha', hle⟩ := he.applied a ha
    exact hle.trans (hr a' ha')
  have hbound : r ≤ db.desiredRevision := by
    obtain ⟨s, hs, -⟩ := Option.bind_eq_some_iff.1 hs
    exact h.consistent.bounded r s hs
  obtain ⟨row, hrow, hid, hip, hd⟩ := h.covered r config hs hold client hclient
  rcases hrows row hrow with ⟨row', hrow', hid', hip', hd'⟩ | ⟨d, a, hdr, ha, hle⟩
  · refine ⟨row', hrow', hid'.trans hid, hip'.trans hip, fun d hd'' => ?_⟩
    rcases hd' d hd'' with hold' | hnew
    · exact hd d hold'
    · omega
  · have hlt := hd d hdr
    have hle' := hr a ha
    omega

theorem Addressed.frame (h : Addressed env db) (ha : Advances env db db')
    (hsnap : ∀ r config, db'.snapshotConfig r = some config → db.snapshotConfig r = some config)
    (hused : List.Sublist db'.usedAddresses db.usedAddresses) (hrows : RowsStay db db')
    (hmarked : ∀ row ∈ db'.clients, Marked db'.desiredRevision row) : Addressed env db' where
  consistent := ha.consistent
  distinct := hused.nodup h.distinct
  hosts := fun address hm => h.hosts address (hused.mem hm)
  marked := hmarked
  covered := fun r config hs hr _ hc => h.keeps ha.evolves hrows (hsnap r config hs) hr hc

theorem Addressed.sameClients (h : Addressed env db) (hs : SameSnapshots db db')
    (hc : db'.clients = db.clients) (hp : List.Sublist db'.peers db.peers) :
    Addressed env db' := by
  refine h.frame (hs.advances h.consistent) (fun r config hr => ?_) ?_
    (RowsStay.of_subset fun row hrow => hc ▸ hrow) fun row hrow => ?_
  · rwa [snapshotConfig, hs.snapshots] at hr
  · rw [usedAddresses, usedAddresses, hc]
    exact (List.Sublist.refl _).append (hp.map _)
  · exact (h.marked row (hc ▸ hrow)).mono hs.desired

theorem Addressed.editClients (h : Addressed env db) (hs : SameSnapshots db db')
    (f : ClientRow → ClientRow) (hc : db'.clients = db.clients.map f) (hp : db'.peers = db.peers)
    (hid : ∀ row, (f row).client.id = row.client.id)
    (hip : ∀ row, (f row).client.amneziaIpv4 = row.client.amneziaIpv4)
    (hd : ∀ row, Marked db.desiredRevision row → Marked db'.desiredRevision (f row) ∧
      ∀ d, (f row).deletedRevision = some d →
        row.deletedRevision = some d ∨ db.desiredRevision < d) : Addressed env db' := by
  have hused : db'.usedAddresses = db.usedAddresses := by
    have hmap : (db.clients.map f).map (fun row => row.client.amneziaIpv4) =
        db.clients.map fun row => row.client.amneziaIpv4 := by
      rw [List.map_map]
      exact List.map_congr_left fun row _ => hip row
    rw [usedAddresses, usedAddresses, hc, hp, hmap]
  refine h.frame (hs.advances h.consistent) (fun r config hr => ?_) (hused ▸ List.Sublist.refl _)
    (fun row hrow => ?_) fun row hrow => ?_
  · rwa [snapshotConfig, hs.snapshots] at hr
  · exact .inl ⟨f row, hc ▸ List.mem_map_of_mem hrow, hid row, hip row,
      (hd row (h.marked row hrow)).2⟩
  · rw [hc] at hrow
    obtain ⟨row₀, hrow₀, rfl⟩ := List.mem_map.1 hrow
    exact (hd row₀ (h.marked row₀ hrow₀)).1

theorem cascade_peers_sublist (db : Db) : List.Sublist db.cascade.peers db.peers :=
  List.filter_sublist

theorem Addressed.purge (h : Addressed env db) :
    Addressed env db.purgeAppliedDeletedClients := by
  have hs := sameSnapshots_purge db
  cases ha : db.appliedRevision with
  | none =>
    have he : db.purgeAppliedDeletedClients = db := by simp [purgeAppliedDeletedClients, ha]
    rwa [he]
  | some applied =>
    have he : db.purgeAppliedDeletedClients =
        Db.cascade { db with clients := db.clients.filter fun row => !purgeable applied row } := by
      simp [purgeAppliedDeletedClients, ha]
    have hclients : db.purgeAppliedDeletedClients.clients =
        db.clients.filter fun row => !purgeable applied row := by
      rw [he]
      rfl
    have hpeers : List.Sublist db.purgeAppliedDeletedClients.peers db.peers := by
      rw [he]
      exact cascade_peers_sublist _
    refine h.frame (hs.advances h.consistent) (fun r config hr => ?_) ?_ (fun row hrow => ?_)
      fun row hrow => ?_
    · rwa [snapshotConfig, hs.snapshots] at hr
    · rw [usedAddresses, hclients]
      exact (List.filter_sublist.map _).append (hpeers.map _)
    · by_cases hp : purgeable applied row = true
      · obtain ⟨d, hd, hle⟩ := (Option.any_eq_true _ _).1 hp
        exact .inr ⟨d, applied, hd, hs.applied.trans ha, of_decide_eq_true hle⟩
      · refine .inl ⟨row, ?_, rfl, rfl, fun _ hd => .inl hd⟩
        rw [hclients]
        exact List.mem_filter.2 ⟨hrow, by simpa using hp⟩
    · rw [hclients] at hrow
      exact (h.marked row (List.mem_filter.1 hrow).1).mono hs.desired

theorem Addressed.addClient (h : Addressed env db) {row : ClientRow} {timestamp : String}
    (ha : db.allocateAmneziaAddress env = .ok row.client.amneziaIpv4)
    (hr : row.deletedRevision = none) :
    Addressed env (Db.markVpnConfigUpdated { db with
      clients := db.clients ++ [row], clientSequence := db.clientSequence + 1 } timestamp) := by
  obtain ⟨hfresh, hhost⟩ := allocate_fresh ha
  have hs : SameSnapshots db (Db.markVpnConfigUpdated { db with
      clients := db.clients ++ [row], clientSequence := db.clientSequence + 1 } timestamp) :=
    ⟨rfl, rfl, Nat.le_succ _⟩
  have hadv := hs.advances h.consistent
  have hused : (Db.markVpnConfigUpdated { db with
      clients := db.clients ++ [row], clientSequence := db.clientSequence + 1 }
        timestamp).usedAddresses = db.clients.map (fun row => row.client.amneziaIpv4) ++
          row.client.amneziaIpv4 :: db.peers.map (·.ipv4) := by
    show (db.clients ++ [row]).map _ ++ db.peers.map _ = _
    simp
  refine ⟨hadv.consistent, ?_, ?_, ?_, ?_⟩
  · rw [hused, List.nodup_middle]
    exact List.nodup_cons.2 ⟨hfresh, h.distinct⟩
  · rw [hused]
    intro address hm
    rcases List.mem_cons.1 (List.perm_middle.mem_iff.1 hm) with rfl | hm
    · exact hhost
    · exact h.hosts address hm
  · intro row' hrow'
    rcases List.mem_append.1 hrow' with hold | hnew
    · exact (h.marked row' hold).mono (Nat.le_succ _)
    · have he : row' = row := by simpa using hnew
      rw [he]
      exact ⟨fun _ => hr, fun d hd => by rw [hr] at hd; cases hd⟩
  · intro r config hs' happlied client hc
    exact h.keeps hadv.evolves
      (RowsStay.of_subset fun row hrow => List.mem_append_left _ hrow) hs' happlied hc

theorem Addressed.addPeer (h : Addressed env db) {peer : PeerRow} {timestamp : String}
    (ha : db.allocateAmneziaAddress env = .ok peer.ipv4) :
    Addressed env (Db.markVpnConfigUpdated { db with peers := db.peers ++ [peer] } timestamp) := by
  obtain ⟨hfresh, hhost⟩ := allocate_fresh ha
  have hs : SameSnapshots db
      (Db.markVpnConfigUpdated { db with peers := db.peers ++ [peer] } timestamp) :=
    ⟨rfl, rfl, Nat.le_succ _⟩
  have hadv := hs.advances h.consistent
  have hused : (Db.markVpnConfigUpdated { db with peers := db.peers ++ [peer] }
      timestamp).usedAddresses = db.usedAddresses ++ [peer.ipv4] := by
    show db.clients.map _ ++ (db.peers ++ [peer]).map _ = _
    simp [usedAddresses]
  refine ⟨hadv.consistent, ?_, ?_, fun row hrow => (h.marked row hrow).mono (Nat.le_succ _), ?_⟩
  · rw [hused]
    exact List.Nodup.append h.distinct (List.nodup_singleton _)
      (List.disjoint_singleton.2 hfresh)
  · rw [hused]
    intro address hm
    rcases List.mem_append.1 hm with hm | hm
    · exact h.hosts address hm
    · rw [List.mem_singleton.1 hm]
      exact hhost
  · intro r config hs' happlied client hc
    exact h.keeps hadv.evolves (RowsStay.of_subset fun row hrow => hrow) hs' happlied hc

theorem Addressed.apart (h : Addressed env db) : Apart db :=
  ⟨h.distinct.filter _, fun address hm _ => h.hosts address hm⟩

theorem Server.Started.marked {db db' : Db} (h : Started db db')
    (hdesired : db.desiredRevision ≤ db'.desiredRevision)
    (hmarked : ∀ row ∈ db.clients, Marked db.desiredRevision row) :
    ∀ row ∈ db'.clients, Marked db'.desiredRevision row := by
  obtain ⟨f, hf, hfill, -⟩ := h.rows
  intro row hrow
  rw [hf] at hrow
  obtain ⟨old, hold, rfl⟩ := List.mem_map.1 hrow
  have hkept := (hmarked old hold).mono hdesired
  refine ⟨fun hd => ?_, fun d hd => ?_⟩
  · rw [hfill.deletedRevision]
    exact hkept.live (hfill.deletedAt old ▸ hd)
  · exact hkept.le d (hfill.deletedRevision old ▸ hd)

theorem Addressed.startUp {m : StartMaterial} {timestamp : String} (h : Addressed env db) (ht : Tidy db)
    (hs : SameSnapshots db db') (hup : db.initDb env m timestamp = .ok db') : Addressed env db' := by
  have hstarted := initDb_started ht.clientIds hup
  have hhas : ∀ address ∈ db.usedAddresses, address ≠ "" := by
    intro address hm
    obtain ⟨network, hhost⟩ := h.hosts address hm
    exact ne_empty_of_host hhost
  have hpeers : ∀ peer ∈ db.peers, peer.ipv4 ≠ "" := fun peer hpeer =>
    hhas _ (List.mem_append_right _ (List.mem_map_of_mem hpeer))
  obtain ⟨hdistinct, hhosts⟩ := hstarted.distinct hpeers h.apart
  have hadv := hs.advances h.consistent
  refine ⟨hadv.consistent, hdistinct, hhosts, hstarted.marked hs.desired h.marked,
    fun r config hr happlied client hc => ?_⟩
  rw [snapshotConfig, hs.snapshots] at hr
  obtain ⟨f, hf, hfill, -⟩ := hstarted.rows
  refine h.keeps hadv.evolves (fun row hrow => .inl ⟨f row, ?_, hfill.id row, ?_, fun d hd => .inl ?_⟩) hr
    happlied hc
  · rw [hf]
    exact List.mem_map_of_mem hrow
  · exact hfill.address row hrow (hhas _ (List.mem_append_left _ (List.mem_map_of_mem hrow)))
  · rwa [hfill.deletedRevision] at hd

theorem ConfigMove.addressed (ht : Tidy db) (h : Addressed env db) (hm : ConfigMove env W db db') :
    Addressed env db' := by
  have hs := hm.sameSnapshots
  cases hm with
  | write timestamp hw =>
    rw [written_eq] at hs ⊢
    exact h.sameClients hs rfl (List.Sublist.refl _)
  | addClient timestamp ha hid hd hr => exact h.addClient ha hr
  | editClient clientId timestamp hf =>
    refine h.editClients hs _ rfl rfl (fun row => ?_) (fun row => ?_) fun row hrow => ?_
    · split
      · exact hf.id row
      · rfl
    · split
      · exact hf.amneziaIpv4 row
      · rfl
    · have hrow' := hrow.mono (Nat.le_succ db.desiredRevision)
      split
      · refine ⟨⟨fun hd => ?_, fun d hd => ?_⟩, fun d hd => .inl ?_⟩
        · rw [hf.deletedAt] at hd
          rw [hf.deletedRevision]
          exact hrow.live hd
        · rw [hf.deletedRevision] at hd
          exact hrow'.le d hd
        · rwa [hf.deletedRevision] at hd
      · exact ⟨hrow', fun d hd => .inl hd⟩
  | deleteClient clientId timestamp =>
    refine h.editClients hs _ rfl rfl (fun row => ?_) (fun row => ?_) fun row hrow => ?_
    · split <;> rfl
    · split <;> rfl
    · split
      · refine ⟨⟨fun hd => ?_, fun d hd => ?_⟩, fun d hd => .inr ?_⟩
        · cases hd
        · cases hd
          exact le_rfl
        · cases hd
          exact Nat.lt_succ_self _
      · exact ⟨hrow.mono (Nat.le_succ _), fun d hd => .inl hd⟩
  | purge => exact h.purge
  | addRouter router hc hn => exact h.sameClients hs rfl (List.Sublist.refl _)
  | editRouter routerId timestamp hf => exact h.sameClients hs rfl (List.Sublist.refl _)
  | labelRouter routerId label => exact h.sameClients hs rfl (List.Sublist.refl _)
  | removeRouter routerId timestamp => exact h.sameClients hs rfl (cascade_peers_sublist _)
  | addPeer timestamp ha hr hn => exact h.addPeer ha
  | setCredentials credentials => exact h.sameClients hs rfl (List.Sublist.refl _)
  | startUp hup => exact h.startUp ht hs hup
  | reset timestamp =>
    rw [clearServerAndAezaState_eq] at hs ⊢
    exact h.sameClients hs rfl (List.Sublist.refl _)

theorem Addressed.newSnapshot (h : Addressed env db) (ha : Advances env db db')
    (hclients : db'.clients = db.clients) (hpeers : db'.peers = db.peers) {revision : Nat}
    {config : CapturedVpnConfig}
    (hsnap : ∀ r c, db'.snapshotConfig r = some c →
      db.snapshotConfig r = some c ∨ r = revision ∧ c = config)
    (hlive : ∀ client ∈ config.clients, ∃ row ∈ db.clients, row.client.id = client.id ∧
      row.client.amneziaIpv4 = client.amneziaIpv4 ∧ row.deletedRevision = none) :
    Addressed env db' := by
  have hused : db'.usedAddresses = db.usedAddresses := by
    rw [usedAddresses, usedAddresses, hclients, hpeers]
  refine ⟨ha.consistent, hused ▸ h.distinct, hused ▸ h.hosts, fun row hrow => ?_,
    fun r c hr happlied client hc => ?_⟩
  · exact (h.marked row (hclients ▸ hrow)).mono ha.evolves.desired
  · rcases hsnap r c hr with hold | ⟨-, rfl⟩
    · exact h.keeps ha.evolves (RowsStay.of_subset fun row hrow => hclients ▸ hrow) hold happlied hc
    · obtain ⟨row, hrow, hid, hip, hd⟩ := hlive client hc
      refine ⟨row, hclients ▸ hrow, hid, hip, fun d hd' => ?_⟩
      rw [hd] at hd'
      cases hd'

theorem captureClients_live (h : Addressed env db) {client : VpnClient}
    (hc : client ∈ db.captureClients) : ∃ row ∈ db.clients, row.client = client ∧
      row.deletedRevision = none := by
  have hc := (List.mem_mergeSort).1 hc
  obtain ⟨row, hrow, rfl⟩ := List.mem_map.1 hc
  obtain ⟨hrow, hd⟩ := List.mem_filter.1 hrow
  exact ⟨row, hrow, rfl, (h.marked row hrow).live (by simpa using hd)⟩

theorem snapshotConfig_insertSnapshot (db : Db) (revision : Nat) (c : CapturedVpnConfig)
    (sha256 : String) (lifecycle : Lifecycle) {r : Nat} {config : CapturedVpnConfig}
    (h : (db.insertSnapshot revision ⟨canonicalVpnConfigJson c, sha256, lifecycle⟩).snapshotConfig r
      = some config) :
    db.snapshotConfig r = some config ∨
      r = revision ∧ config = { c with clients := c.enabledClients } := by
  by_cases hr : r = revision
  · subst hr
    simp only [snapshotConfig, Db.insertSnapshot, if_true, Option.bind_some,
      capturedVpnConfigFromJson_canonical, Option.some.injEq] at h
    exact .inr ⟨rfl, h.symm⟩
  · simp only [snapshotConfig, Db.insertSnapshot, hr, if_false] at h
    exact .inl h

theorem snapshotConfig_updateSnapshot (db : Db) (revision : Nat) {f : VpnSnapshot → VpnSnapshot}
    (hf : ∀ s, (f s).payload = s.payload) (r : Nat) :
    (db.updateSnapshot revision f).snapshotConfig r = db.snapshotConfig r := by
  by_cases hr : r = revision
  · subst hr
    cases hs : db.snapshots r with
    | none => simp [snapshotConfig, updateSnapshot, hs]
    | some s => simp [snapshotConfig, updateSnapshot, hs, hf]
  · simp [snapshotConfig, updateSnapshot, hr]

theorem capture_clients {config : CapturedVpnConfig} (h : db.capture env = .ok config) :
    config.clients = db.captureClients := by
  obtain ⟨vless, hv, h⟩ := except_bind_eq_ok.1 h
  obtain ⟨hysteria, hh, h⟩ := except_bind_eq_ok.1 h
  obtain ⟨amnezia, ha, h⟩ := except_bind_eq_ok.1 h
  cases h
  rfl

theorem mem_enabledClients {c : CapturedVpnConfig} {client : VpnClient}
    (h : client ∈ c.enabledClients) : client ∈ c.clients := (List.mem_filter.1 h).1

theorem Addressed.prepare (h : Addressed env db) {config : CapturedVpnConfig}
    (hcap : db.capture env = .ok config) (hn : db.snapshots config.revision = none) :
    Addressed env (db.insertSnapshot config.revision
      ⟨canonicalVpnConfigJson config, env.sha256 (canonicalVpnConfigJson config), .prepared⟩) := by
  have hrev : config.revision ≤ db.desiredRevision := by rw [capture_revision hcap]
  refine h.newSnapshot (h.consistent.insertSnapshot hn hrev _ .prepared) rfl rfl
    (fun r c hr => snapshotConfig_insertSnapshot db _ _ _ _ hr) fun client hclient => ?_
  have hc := mem_enabledClients hclient
  rw [capture_clients hcap] at hc
  obtain ⟨row, hrow, rfl, hd⟩ := captureClients_live h hc
  exact ⟨row, hrow, rfl, rfl, hd⟩

theorem Addressed.live_of_desired (h : Addressed env db) {config : CapturedVpnConfig}
    (hs : db.snapshotConfig db.desiredRevision = some config) {client : VpnClient}
    (hc : client ∈ config.clients) : ∃ row ∈ db.clients, row.client.id = client.id ∧
      row.client.amneziaIpv4 = client.amneziaIpv4 ∧ row.deletedRevision = none := by
  obtain ⟨row, hrow, hid, hip, hd⟩ := h.covered db.desiredRevision config hs
    (fun a ha => (h.consistent.applied a ha).1) client hc
  refine ⟨row, hrow, hid, hip, ?_⟩
  cases hr : row.deletedRevision with
  | none => rfl
  | some d =>
    have hlt := hd d hr
    have hle := (h.marked row hrow).le d hr
    omega

theorem Addressed.publish (h : Addressed env db) {operationId : Nat} {p : IpPublication}
    (hp : db.publishIpChange env operationId p = .ok db') : Addressed env db' := by
  obtain ⟨row, snapshot, bound, -, -, hs, hb, hn, rfl⟩ := publishIpChange_ok hp
  have hbound : db.snapshotConfig db.desiredRevision = some bound := by
    simp [snapshotConfig, hs, hb]
  have heq := publishedStore_eq env db bound db.desiredRevision p
  have hsnap : ∀ r c, (db.publishedStore env bound db.desiredRevision p).snapshotConfig r = some c →
      db.snapshotConfig r = some c ∨ r = db.desiredRevision + 1 ∧
        c = { publishedConfig bound db.desiredRevision p with clients := bound.enabledClients } := by
    intro r c hr
    rw [heq] at hr
    exact snapshotConfig_insertSnapshot db _ _ _ _
      ((snapshotConfig_updateSnapshot _ _ SnapshotEdit.apply.payload r).symm.trans hr)
  have hclients : (db.publishedStore env bound db.desiredRevision p).clients = db.clients := by
    rw [heq]
    rfl
  have hpeers : (db.publishedStore env bound db.desiredRevision p).peers = db.peers := by
    rw [heq]
    rfl
  have hstored : Addressed env (db.publishedStore env bound db.desiredRevision p) :=
    h.newSnapshot (publishedStore_advances h.consistent hn bound p) hclients hpeers hsnap
      fun client hclient => h.live_of_desired hbound (mem_enabledClients hclient)
  exact hstored.purge.sameClients (operationWrite_updateIp _ operationId _).sameSnapshots rfl
    (List.Sublist.refl _)

theorem Addressed.sameConfig (h : Addressed env db) (hs : SameSnapshots db db')
    (hc : SameConfig db db') : Addressed env db' :=
  h.sameClients hs hc.clients (hc.peers ▸ List.Sublist.refl _)

theorem Addressed.complete (h : Addressed env db) {operationId : Nat} {output : String}
    (hp : db.completeInstallOperation operationId output = .ok db') : Addressed env db' := by
  obtain ⟨revision, snapshot, hs, hw⟩ := completeInstallOperation_ok hp
  have hstored : Addressed env (db.completedStore revision) := by
    refine h.frame (completedStore_advances h.consistent hs) (fun r config hr => ?_)
      (List.Sublist.refl _) (RowsStay.of_subset fun _ hrow => hrow) h.marked
    exact (snapshotConfig_updateSnapshot db revision SnapshotEdit.apply.payload r).symm.trans hr
  exact hstored.purge.sameConfig hw.sameSnapshots hw.sameConfig

theorem SnapshotMove.addressed (h : Addressed env db) (hm : SnapshotMove env db db') :
    Addressed env db' := by
  cases hm with
  | operations hw => exact h.sameConfig hw.sameSnapshots hw.sameConfig
  | note operationId name value =>
    exact h.sameClients ⟨rfl, rfl, le_rfl⟩ rfl (List.Sublist.refl _)
  | prepare hcap hn => exact h.prepare hcap hn
  | editSnapshot revision hf =>
    exact h.frame (h.consistent.editSnapshot revision hf)
      (fun r config hr => (snapshotConfig_updateSnapshot db revision hf.payload r).symm.trans hr)
      (List.Sublist.refl _) (RowsStay.of_subset fun _ hrow => hrow) h.marked
  | publish hp => exact h.publish hp
  | completeInstall hp => exact h.complete hp

theorem StoreMoves.addressed (ht : Tidy db) (h : Addressed env db) (hm : StoreMoves env W db db') :
    Addressed env db' := by
  induction hm with
  | refl => exact h
  | tail hpast hs ih =>
    rcases hs with hs | hs
    · exact hs.addressed (StoreMoves.tidy ht hpast) ih
    · exact hs.addressed ih

end

/-- A database that no configuration has been taken from. Clients may be without keys and addresses, and
routers without peers. -/
structure Legacy (db : Db) : Prop where
  unapplied : Unapplied db
  tidy : Tidy db
  apart : Apart db
  peers : ∀ peer ∈ db.peers, peer.ipv4 ≠ ""
  marked : ∀ row ∈ db.clients, Marked db.desiredRevision row

/-- The first start gives everybody an address. -/
theorem Legacy.addressed {env : Environment} {start up : Db} {m : StartMaterial} {timestamp : String}
    (h : Legacy start) (hup : start.initDb env m timestamp = .ok up) : Addressed env up := by
  have hstarted := initDb_started h.tidy.clientIds hup
  have hs : SameSnapshots start up :=
    ConfigMove.sameSnapshots (W := fun _ _ _ => True) (.startUp hup)
  obtain ⟨hdistinct, hhosts⟩ := hstarted.distinct h.peers h.apart
  refine ⟨(hs.advances (h.unapplied.consistent env)).consistent, hdistinct, hhosts,
    hstarted.marked hs.desired h.marked, fun r config hr => ?_⟩
  rw [snapshotConfig, hs.snapshots, h.unapplied.snapshots r] at hr
  cases hr

/-- No address is given out yet. -/
structure Unassigned (db : Db) : Prop where
  unapplied : Unapplied db
  clients : db.clients = []
  peers : db.peers = []

theorem Unassigned.addressed {db : Db} (h : Unassigned db) (env : Environment) :
    Addressed env db := by
  have hused : db.usedAddresses = [] := by simp [usedAddresses, h.clients, h.peers]
  refine ⟨h.unapplied.consistent env, ?_, ?_, ?_, fun r config hs => ?_⟩
  · rw [hused]
    exact List.nodup_nil
  · simp [hused]
  · simp [h.clients]
  · rw [snapshotConfig, h.unapplied.snapshots r] at hs
    cases hs

/-- Over every run from the first start: no two owners share an address or have the server's, and no row
but its own has the address of a client that the applied snapshot serves. -/
theorem tunnel_addresses {env : Environment} {W : Writes} {start up db : Db} {m : StartMaterial}
    {timestamp : String} (hstart : Legacy start) (hup : start.initDb env m timestamp = .ok up)
    (h : StoreRuns env W up db) :
    db.usedAddresses.Nodup ∧
    (∀ address ∈ db.usedAddresses, ∀ network, address ≠ serverAddress network) ∧
    ∀ revision config client, db.appliedRevision = some revision →
      db.snapshotConfig revision = some config → client ∈ config.clients →
      (∀ row ∈ db.clients, row.client.amneziaIpv4 = client.amneziaIpv4 →
        row.client.id = client.id) ∧
      ∀ peer ∈ db.peers, peer.ipv4 ≠ client.amneziaIpv4 := by
  have ha := h.moves.addressed (hstart.tidy.startUp hup) (hstart.addressed hup)
  refine ⟨ha.distinct, fun address hm network => ?_, ?_⟩
  · obtain ⟨own, hown⟩ := ha.hosts address hm
    exact clientHosts_ne_serverAddress hown network
  · intro revision config client happlied hs hc
    obtain ⟨holder, hholder, hid, hip, -⟩ := ha.covered revision config hs
      (fun a h => by rw [happlied] at h; cases h; exact le_rfl) client hc
    have hdistinct := List.nodup_append.1 ha.distinct
    refine ⟨fun row hrow he => ?_, fun peer hpeer he => ?_⟩
    · have hsame := List.inj_on_of_nodup_map hdistinct.1 hrow hholder (he.trans hip.symm)
      rw [hsame, hid]
    · exact hdistinct.2.2 _ (List.mem_map_of_mem hholder) _ (List.mem_map_of_mem hpeer)
        (hip.trans he.symm)

namespace AddressSample

open StoreSample

def legacyClient (id : Nat) (name token address : String) : VpnClient :=
  ⟨id, name, token, true, "uuid", "password", "", "", "", address, "t0"⟩

/-- A client without an address, one that has the address that the first would get by its id, a deleted
one, and a router without a peer. -/
def legacy : Db := { fresh with
  clients := [⟨legacyClient 1 "phone" "token-1" "", none, none⟩,
    ⟨legacyClient 2 "laptop" "token-2" "10.8.1.2", none, none⟩,
    ⟨legacyClient 3 "tablet" "token-3" "10.8.1.4", some "t0", some 1⟩]
  routers := [⟨"router", 2, "home", true⟩]
  clientSequence := 3 }

def startMaterial : StartMaterial where
  amneziaPrivateKey := "server"
  obfuscation := ⟨5, 40, 1000, 64, 128, 1, 2, 3, 4⟩
  realityPrivateKey := "reality"
  realityShortId := "short"
  hysteriaPassword := "hysteria"
  hysteriaObfsPassword := "obfs"
  publicKey := fun key => key ++ "-public"
  realityPublicKey := fun key => key ++ "-public"
  client := fun id => ⟨"client-" ++ toString id, "shared"⟩
  router := fun routerId => ⟨routerId, "shared"⟩

/-- The first start, a client, an installation that lets the deleted client's address go, and another
client. -/
def up : Db := okOr legacy (legacy.initDb env startMaterial "t1")

def grown : Db := okOr up (up.createClient env "desktop" ⟨"token-4", "uuid", "password", "private", "public",
  "shared"⟩ "t2")

def applying : Db := okOr grown (grown.prepareInstallOperation env "192.0.2.1" 0)

def applied : Db := okOr applying (applying.completeInstallOperation 1 "ok")

def reused : Db := okOr applied (applied.createClient env "watch" ⟨"token-5", "uuid", "password", "private",
  "public", "shared"⟩ "t3")

theorem up_eq : legacy.initDb env startMaterial "t1" = .ok up := by rfl

theorem okOr_eq {db : Db} {result : Except String Db} (h : result.isOk = true) :
    result = .ok (okOr db result) := by
  cases result with
  | error e => cases h
  | ok db' => rfl

theorem runs_reused (W : Writes) : StoreRuns env W up reused := by
  have hgrown : StoreStep env W up grown := .config (.createClient (okOr_eq (by decide +kernel)))
  have happlying : StoreStep env W grown applying :=
    .snapshot (.prepareInstall (okOr_eq (by decide +kernel)))
  have happlied : StoreStep env W applying applied :=
    .snapshot (.completeInstall (okOr_eq (by decide +kernel)))
  have hreused : StoreStep env W applied reused := .config (.createClient (okOr_eq (by decide +kernel)))
  exact (((Relation.ReflTransGen.single hgrown).tail happlying).tail happlied).tail hreused

set_option maxRecDepth 8000 in
theorem snapshot_reused : ∃ config s, grown.capture env = .ok config ∧ reused.snapshots 3 = some s ∧
    s.payload = canonicalVpnConfigJson config := ⟨_, _, rfl, rfl, rfl⟩

theorem config_reused : ∃ config, reused.snapshotConfig 3 = some config ∧
    (config.clients.map (·.id)).Perm [1, 2, 4] := by
  obtain ⟨captured, s, hcapture, hs, hpayload⟩ := snapshot_reused
  refine ⟨{ captured with clients := captured.enabledClients }, ?_, ?_⟩
  · rw [snapshotConfig, hs, Option.bind_some, hpayload, capturedVpnConfigFromJson_canonical]
  · have hrows : ((((grown.clients.filter fun row => row.deletedAt.isNone).map (·.client)).filter
        (·.enabled)).map (·.id)) = [1, 2, 4] := by decide +kernel
    rw [← hrows, CapturedVpnConfig.enabledClients, capture_clients hcapture]
    exact ((List.mergeSort_perm _ _).filter _).map _

theorem legacy_start : Legacy legacy where
  unapplied := ⟨fun _ => rfl, rfl⟩
  tidy := ⟨by decide, by decide, by decide, nofun⟩
  apart := by
    refine ⟨by decide, ?_⟩
    have hall : (legacy.usedAddresses.filter (· ≠ "")).all (clientHosts "10.8.1").contains = true := by decide
    intro address hm hne
    have hmem : address ∈ legacy.usedAddresses.filter (· ≠ "") :=
      List.mem_filter.2 ⟨hm, decide_eq_true hne⟩
    exact ⟨"10.8.1", List.contains_iff_mem.1 (List.all_eq_true.1 hall address hmem)⟩
  peers := nofun
  marked := by
    simp only [legacy, List.forall_mem_cons]
    refine ⟨⟨fun _ => rfl, nofun⟩, ⟨fun _ => rfl, nofun⟩, ⟨nofun, ?_⟩, nofun⟩
    rintro d ⟨⟩
    exact le_rfl

end AddressSample

open AddressSample StoreSample in
theorem reusedStore_addresses :
    reused.usedAddresses = ["10.8.1.3", "10.8.1.2", "10.8.1.6", "10.8.1.4", "10.8.1.5"] ∧
    reused.usedAddresses.Nodup ∧
    (∀ address ∈ reused.usedAddresses, ∀ network, address ≠ serverAddress network) ∧
    ∃ config, reused.appliedRevision = some 3 ∧ reused.snapshotConfig 3 = some config ∧
      (config.clients.map (·.id)).Perm [1, 2, 4] ∧ ∀ client ∈ config.clients,
        (∀ row ∈ reused.clients, row.client.amneziaIpv4 = client.amneziaIpv4 → row.client.id = client.id) ∧
        ∀ peer ∈ reused.peers, peer.ipv4 ≠ client.amneziaIpv4 := by
  obtain ⟨hdistinct, hserver, hkept⟩ := tunnel_addresses legacy_start up_eq (runs_reused fun _ _ _ => True)
  refine ⟨by decide +kernel, hdistinct, hserver, ?_⟩
  obtain ⟨config, hconfig, hids⟩ := config_reused
  have happlied : reused.appliedRevision = some 3 := by decide +kernel
  exact ⟨config, happlied, hconfig, hids, fun client hc => hkept 3 config client happlied hconfig hc⟩

end AutoVPN
