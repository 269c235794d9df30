import AutoVPN.Server.SnapshotStore
import Mathlib.Data.List.Nodup

/-! The keys of the tables, and what the capture sees of the rows. -/

namespace AutoVPN

open Server Server.Db

structure Tidy (db : Db) : Prop where
  clientIds : (db.clients.map (·.client.id)).Nodup
  clientsLe : ∀ row ∈ db.clients, row.client.id ≤ db.clientSequence
  routerIds : (db.routers.map (·.routerId)).Nodup
  owned : ∀ peer ∈ db.peers, ∃ router ∈ db.routers, router.routerId = peer.routerId

/-- A row that is not deleted has no revision of its deletion, and that of a deleted one is not beyond the
desired revision. -/
structure Marked (desired : Nat) (row : ClientRow) : Prop where
  live : row.deletedAt = none → row.deletedRevision = none
  le : ∀ d, row.deletedRevision = some d → d ≤ desired

theorem Marked.mono {a b : Nat} {row : ClientRow} (h : Marked a row) (hab : a ≤ b) : Marked b row :=
  ⟨h.live, fun d hd => (h.le d hd).trans hab⟩

theorem find?_key_eq_some {α κ : Type} [DecidableEq κ] {key : α → κ} {l : List α}
    (h : (l.map key).Nodup) {x : α} (hx : x ∈ l) :
    (l.find? fun y => key y == key x) = some x := by
  induction l with
  | nil => cases hx
  | cons y l ih =>
    have hcons := List.nodup_cons.1 h
    by_cases hk : key y = key x
    · rcases List.mem_cons.1 hx with rfl | hx
      · simp
      · exact absurd (hk ▸ List.mem_map_of_mem hx) hcons.1
    · have hx : x ∈ l := by
        rcases List.mem_cons.1 hx with rfl | hx
        · exact absurd rfl hk
        · exact hx
      rw [List.find?_cons_of_neg (by simpa using hk)]
      exact ih hcons.2 hx

theorem Tidy.sublist {db db' : Db} (h : Tidy db) (hc : List.Sublist db'.clients db.clients)
    (hs : db.clientSequence ≤ db'.clientSequence) (hr : List.Sublist db'.routers db.routers)
    (ho : ∀ peer ∈ db'.peers, ∃ router ∈ db'.routers, router.routerId = peer.routerId) :
    Tidy db' where
  clientIds := (hc.map _).nodup h.clientIds
  clientsLe := fun row hrow => (h.clientsLe row (hc.mem hrow)).trans hs
  routerIds := (hr.map _).nodup h.routerIds
  owned := ho

theorem cascade_owned (db : Db) : ∀ peer ∈ db.cascade.peers,
    ∃ router ∈ db.cascade.routers, router.routerId = peer.routerId := by
  intro peer hp
  obtain ⟨router, hr, he⟩ := List.any_eq_true.1 (List.mem_filter.1 hp).2
  exact ⟨router, hr, by simpa using he⟩

theorem Tidy.purge {db : Db} (h : Tidy db) : Tidy db.purgeAppliedDeletedClients := by
  unfold purgeAppliedDeletedClients
  split
  · exact h
  · exact h.sublist List.filter_sublist le_rfl List.filter_sublist (cascade_owned _)

theorem Tidy.mapClients {db db' : Db} (h : Tidy db) (f : ClientRow → ClientRow)
    (hf : ∀ row, (f row).client.id = row.client.id) (hc : db'.clients = db.clients.map f)
    (hs : db'.clientSequence = db.clientSequence) (hr : db'.routers = db.routers)
    (hp : db'.peers = db.peers) : Tidy db' := by
  have hids : db'.clients.map (·.client.id) = db.clients.map (·.client.id) := by
    rw [hc, List.map_map]
    exact List.map_congr_left fun row _ => hf row
  refine ⟨hids ▸ h.clientIds, fun row hrow => ?_, hr ▸ h.routerIds, ?_⟩
  · rw [hc] at hrow
    obtain ⟨row₀, hrow₀, rfl⟩ := List.mem_map.1 hrow
    rw [hf, hs]
    exact h.clientsLe row₀ hrow₀
  · rw [hp, hr]
    exact h.owned

theorem Tidy.mapRouters {db db' : Db} (h : Tidy db) (f : RouterRow → RouterRow)
    (hf : ∀ router, (f router).routerId = router.routerId) (hc : db'.clients = db.clients)
    (hs : db'.clientSequence = db.clientSequence) (hr : db'.routers = db.routers.map f)
    (hp : db'.peers = db.peers) : Tidy db' := by
  have hids : db'.routers.map (·.routerId) = db.routers.map (·.routerId) := by
    rw [hr, List.map_map]
    exact List.map_congr_left fun router _ => hf router
  refine ⟨hc ▸ h.clientIds, ?_, hids ▸ h.routerIds, fun peer hpeer => ?_⟩
  · rw [hc, hs]
    exact h.clientsLe
  · obtain ⟨router, hrouter, he⟩ := h.owned peer (hp ▸ hpeer)
    exact ⟨f router, hr ▸ List.mem_map_of_mem hrouter, (hf router).trans he⟩

section

variable {env : Environment} {W : Writes} {db db' : Db}

theorem nodup_append_singleton {α : Type} {l : List α} {x : α} (h : l.Nodup) (hx : x ∉ l) :
    (l ++ [x]).Nodup :=
  List.Nodup.append h (List.nodup_singleton x) (List.disjoint_singleton.2 hx)

theorem Tidy.startUp {m : StartMaterial} {timestamp : String} (h : Tidy db)
    (hup : db.initDb env m timestamp = .ok db') : Tidy db' := by
  obtain ⟨-, hrest⟩ := initDb_rest hup
  have hstarted := initDb_started h.clientIds hup
  obtain ⟨f, hf, hfill, -⟩ := hstarted.rows
  have hsequence : db'.clientSequence = db.clientSequence := by rw [hrest]
  have hrouters : db'.routers = db.routers := by rw [hrest]
  have hkept : Tidy { db' with peers := db.peers } := h.mapClients f hfill.id hf hsequence hrouters rfl
  refine ⟨hkept.clientIds, hkept.clientsLe, hkept.routerIds, fun peer hpeer => ?_⟩
  rw [hrouters]
  rcases hstarted.peers peer hpeer with hold | hnew
  · exact h.owned peer hold
  · exact hnew.1

theorem ConfigMove.tidy (h : Tidy db) (hm : ConfigMove env W db db') : Tidy db' := by
  cases hm with
  | write timestamp hw =>
    rw [written_eq]
    exact ⟨h.clientIds, h.clientsLe, h.routerIds, h.owned⟩
  | @addClient row timestamp ha hid hd hr =>
    refine ⟨?_, fun row' hrow' => ?_, h.routerIds, h.owned⟩
    · show ((db.clients ++ [row]).map (·.client.id)).Nodup
      rw [List.map_append]
      refine nodup_append_singleton h.clientIds fun hmem => ?_
      obtain ⟨row', hrow', he⟩ := List.mem_map.1 hmem
      have hle := h.clientsLe row' hrow'
      have he : row'.client.id = row.client.id := he
      omega
    · show row'.client.id ≤ db.clientSequence + 1
      rcases List.mem_append.1 hrow' with hold | hnew
      · exact (h.clientsLe row' hold).trans (Nat.le_succ _)
      · rw [List.mem_singleton.1 hnew, hid]
  | editClient clientId timestamp hf =>
    refine h.mapClients _ (fun row => ?_) rfl rfl rfl rfl
    split
    · exact hf.id row
    · rfl
  | deleteClient clientId timestamp =>
    refine h.mapClients _ (fun row => ?_) rfl rfl rfl rfl
    split <;> rfl
  | purge => exact h.purge
  | addRouter router hc hn =>
    refine ⟨h.clientIds, h.clientsLe, ?_, fun peer hpeer => ?_⟩
    · show ((db.routers ++ [router]).map (·.routerId)).Nodup
      rw [List.map_append]
      refine nodup_append_singleton h.routerIds fun hmem => ?_
      obtain ⟨other, hother, he⟩ := List.mem_map.1 hmem
      exact hn other hother he
    · obtain ⟨other, hother, he⟩ := h.owned peer hpeer
      exact ⟨other, List.mem_append_left _ hother, he⟩
  | editRouter routerId timestamp hf =>
    refine h.mapRouters _ (fun router => ?_) rfl rfl rfl rfl
    split
    · exact hf.routerId router
    · rfl
  | labelRouter routerId label =>
    refine h.mapRouters _ (fun router => ?_) rfl rfl rfl rfl
    split <;> rfl
  | removeRouter routerId timestamp =>
    exact h.sublist (List.Sublist.refl _) le_rfl (List.filter_sublist.trans List.filter_sublist)
      (cascade_owned _)
  | @addPeer peer timestamp ha hr hn =>
    refine ⟨h.clientIds, h.clientsLe, h.routerIds, fun other hother => ?_⟩
    rcases List.mem_append.1 hother with hold | hnew
    · exact h.owned other hold
    · rw [List.mem_singleton.1 hnew]
      exact hr
  | setCredentials credentials => exact ⟨h.clientIds, h.clientsLe, h.routerIds, h.owned⟩
  | startUp hup => exact h.startUp hup
  | reset timestamp =>
    rw [clearServerAndAezaState_eq]
    exact ⟨h.clientIds, h.clientsLe, h.routerIds, h.owned⟩

theorem Tidy.sameConfig (h : Tidy db) (hs : SameConfig db db') : Tidy db' := by
  refine ⟨hs.clients ▸ h.clientIds, ?_, hs.routers ▸ h.routerIds, ?_⟩
  · rw [hs.clients, hs.sequence]
    exact h.clientsLe
  · rw [hs.peers, hs.routers]
    exact h.owned

theorem SnapshotMove.tidy (h : Tidy db) (hm : SnapshotMove env db db') : Tidy db' := by
  cases hm with
  | operations hw => exact h.sameConfig hw.sameConfig
  | note operationId name value => exact ⟨h.clientIds, h.clientsLe, h.routerIds, h.owned⟩
  | prepare hcap hn => exact ⟨h.clientIds, h.clientsLe, h.routerIds, h.owned⟩
  | editSnapshot revision hf => exact ⟨h.clientIds, h.clientsLe, h.routerIds, h.owned⟩
  | @publish _ operationId p hp =>
    obtain ⟨row, snapshot, bound, -, -, -, -, -, rfl⟩ := publishIpChange_ok hp
    have hstored : Tidy (db.publishedStore env bound db.desiredRevision p) := by
      rw [publishedStore_eq]
      exact ⟨h.clientIds, h.clientsLe, h.routerIds, h.owned⟩
    exact hstored.purge.sameConfig (operationWrite_updateIp _ _ _).sameConfig
  | completeInstall hp =>
    obtain ⟨revision, snapshot, -, hw⟩ := completeInstallOperation_ok hp
    have hstored : Tidy (db.completedStore revision) :=
      ⟨h.clientIds, h.clientsLe, h.routerIds, h.owned⟩
    exact hstored.purge.sameConfig hw.sameConfig

theorem StoreMove.tidy (h : Tidy db) (hm : StoreMove env W db db') : Tidy db' := by
  rcases hm with hm | hm
  · exact hm.tidy h
  · exact hm.tidy h

theorem StoreMoves.tidy (h : Tidy db) (hm : StoreMoves env W db db') : Tidy db' := by
  induction hm with
  | refl => exact h
  | tail _ hm ih => exact hm.tidy ih

end

/-! What the capture sees of the rows. -/

/-- The captured peer of a row. -/
def capturedPeer (db : Db) (peer : PeerRow) : Option RouterAmneziaPeer := do
  let router ← db.routers.find? fun router => router.routerId == peer.routerId
  let row ← db.clients.find? fun row => row.client.id == router.clientId
  if router.enabled && row.client.enabled && row.deletedAt.isNone then
    some ⟨peer.routerId, router.clientId, peer.privateKey, peer.publicKey, peer.presharedKey,
      peer.ipv4⟩
  else none

theorem captureRouterPeers_eq (db : Db) : db.captureRouterPeers =
    (db.peers.filterMap (capturedPeer db)).mergeSort fun a b => decide (a.routerId ≤ b.routerId) :=
  rfl

/-- The rows are the same to the capture. -/
structure SameRows (db db' : Db) : Prop where
  clients : db'.captureClients = db.captureClients
  peers : db'.captureRouterPeers = db.captureRouterPeers

theorem SameRows.of_eq {db db' : Db} (hc : db'.clients = db.clients) (hr : db'.routers = db.routers)
    (hp : db'.peers = db.peers) : SameRows db db' := by
  refine ⟨by rw [captureClients, hc, captureClients], ?_⟩
  rw [captureRouterPeers, hc, hr, hp, captureRouterPeers]

theorem SameConfig.sameRows {db db' : Db} (h : SameConfig db db') : SameRows db db' :=
  SameRows.of_eq h.clients h.routers h.peers

theorem SameRows.addRouter {db : Db} (h : Tidy db) (router : RouterRow) :
    SameRows db { db with routers := db.routers ++ [router] } := by
  refine ⟨rfl, ?_⟩
  have hpeers : db.peers.filterMap (capturedPeer { db with routers := db.routers ++ [router] }) =
      db.peers.filterMap (capturedPeer db) := by
    refine List.filterMap_congr fun peer hpeer => ?_
    obtain ⟨other, hother, he⟩ := h.owned peer hpeer
    have hfind := find?_key_eq_some h.routerIds hother
    rw [he] at hfind
    have hfind' : ((db.routers ++ [router]).find? fun r => r.routerId == peer.routerId) =
        some other := by
      rw [List.find?_append, hfind]
      rfl
    simp only [capturedPeer, hfind, hfind']
  rw [captureRouterPeers_eq, captureRouterPeers_eq, hpeers]

theorem SameRows.labelRouter (db : Db) (routerId label : String) :
    SameRows db (db.updateRouter routerId fun router => { router with label := label }) := by
  refine ⟨rfl, ?_⟩
  have hpeers : db.peers.filterMap (capturedPeer
      (db.updateRouter routerId fun router => { router with label := label })) =
      db.peers.filterMap (capturedPeer db) := by
    refine List.filterMap_congr fun peer _ => ?_
    have hfind : ((db.routers.map fun router =>
        if router.routerId == routerId then { router with label := label } else router).find?
          fun r => r.routerId == peer.routerId) =
        (db.routers.find? fun r => r.routerId == peer.routerId).map fun router =>
          if router.routerId == routerId then { router with label := label } else router := by
      rw [List.find?_map]
      congr 2
      funext router
      simp only [Function.comp_apply]
      split <;> rfl
    simp only [capturedPeer, updateRouter, hfind]
    cases db.routers.find? fun r => r.routerId == peer.routerId with
    | none => rfl
    | some router =>
      simp only [Option.map_some, Option.bind_eq_bind, Option.bind_some]
      split <;> rfl
  rw [captureRouterPeers_eq, captureRouterPeers_eq]
  exact congrArg (fun l => List.mergeSort l _) hpeers

/-- A purge removes what the capture does not see: deleted clients, and the routers
and peers that were theirs. -/
theorem SameRows.purge {db : Db} (h : Tidy db)
    (hm : ∀ row ∈ db.clients, Marked db.desiredRevision row) :
    SameRows db db.purgeAppliedDeletedClients := by
  unfold purgeAppliedDeletedClients
  split
  · exact SameRows.of_eq rfl rfl rfl
  · rename_i applied _
    have hdeleted : ∀ row ∈ db.clients, purgeable applied row = true →
        row.deletedAt.isNone = false := by
      intro row hrow hp
      cases hd : row.deletedAt with
      | some timestamp => rfl
      | none =>
        rw [purgeable, (hm row hrow).live hd] at hp
        cases hp
    let clients := db.clients.filter fun row => !purgeable applied row
    let routers := db.routers.filter fun router =>
      clients.any fun row => row.client.id == router.clientId
    constructor
    · have hlive : clients.filter (fun row => row.deletedAt.isNone) =
          db.clients.filter fun row => row.deletedAt.isNone := by
        rw [List.filter_filter]
        refine List.filter_congr fun row hrow => ?_
        cases hp : purgeable applied row with
        | false => simp
        | true => simp [hdeleted row hrow hp]
      show ((clients.filter fun row => row.deletedAt.isNone).map (·.client)).mergeSort _ = _
      rw [hlive]
      rfl
    · have hpeers : (db.peers.filter fun peer =>
          routers.any fun router => router.routerId == peer.routerId).filterMap
            (capturedPeer { db with clients := clients, routers := routers }) =
          db.peers.filterMap (capturedPeer db) := by
        rw [List.filterMap_filter]
        refine List.filterMap_congr fun peer hpeer => ?_
        obtain ⟨router, hrouter, he⟩ := h.owned peer hpeer
        have hfind := find?_key_eq_some h.routerIds hrouter
        rw [he] at hfind
        by_cases hkept : router ∈ routers
        · have hany : (routers.any fun router => router.routerId == peer.routerId) = true :=
            List.any_eq_true.2 ⟨router, hkept, by simpa using he⟩
          have hfind' : (routers.find? fun r => r.routerId == peer.routerId) = some router :=
            he ▸ find?_key_eq_some ((List.filter_sublist.map _).nodup h.routerIds) hkept
          obtain ⟨row, hrow, hid⟩ := List.any_eq_true.1 (List.mem_filter.1 hkept).2
          have hid : row.client.id = router.clientId := by simpa using hid
          have hrow' : (clients.find? fun r => r.client.id == router.clientId) = some row :=
            hid ▸ find?_key_eq_some ((List.filter_sublist.map _).nodup h.clientIds) hrow
          have hold : (db.clients.find? fun r => r.client.id == router.clientId) = some row :=
            hid ▸ find?_key_eq_some h.clientIds (List.mem_filter.1 hrow).1
          simp only [hany, if_true, capturedPeer, hfind, hfind', Option.bind_eq_bind,
            Option.bind_some, hrow', hold]
        · have hany : (routers.any fun router => router.routerId == peer.routerId) = false := by
            refine List.any_eq_false.2 fun other hother hs => hkept ?_
            have hs : other.routerId = router.routerId := by
              rw [he]
              simpa using hs
            have hsame := List.inj_on_of_nodup_map h.routerIds (List.mem_filter.1 hother).1
              hrouter hs
            exact hsame ▸ hother
          have hgone : ∀ row ∈ db.clients, row.client.id = router.clientId →
              purgeable applied row = true := by
            intro row hrow hid
            by_contra hp
            refine hkept (List.mem_filter.2 ⟨hrouter, List.any_eq_true.2 ⟨row, ?_, by simpa using hid⟩⟩)
            exact List.mem_filter.2 ⟨hrow, by simpa using hp⟩
          simp only [hany, Bool.false_eq_true, if_false, capturedPeer, hfind, Option.bind_eq_bind,
            Option.bind_some]
          cases hrow : db.clients.find? fun row => row.client.id == router.clientId with
          | none => rfl
          | some row =>
            have hmem := List.mem_of_find?_eq_some hrow
            have hid : row.client.id = router.clientId := by
              simpa using List.find?_some hrow
            have hd := hdeleted row hmem (hgone row hmem hid)
            simp only [Option.bind_some, hd, Bool.and_false, Bool.false_eq_true, if_false]
      rw [captureRouterPeers_eq, captureRouterPeers_eq]
      exact congrArg (fun l => List.mergeSort l _) hpeers

end AutoVPN
