import AutoVPN.Lib.Fold
import AutoVPN.Lib.Program
import AutoVPN.Server.Reset
import Mathlib.Data.List.Sort

/-! `init_db` after the migrations: the defaults and keys that a database lacks, and the addresses of
clients and routers that were created before there were any. -/

namespace AutoVPN

namespace Server

structure KeyPair where
  privateKey : String
  presharedKey : String

/-- What a start generates. -/
structure StartMaterial where
  amneziaPrivateKey : String
  obfuscation : AmneziaObfuscation
  realityPrivateKey : String
  realityShortId : String
  hysteriaPassword : String
  hysteriaObfsPassword : String
  publicKey : String → String
  realityPublicKey : String → String
  client : Nat → KeyPair
  router : String → KeyPair

/-- `value or generated`. -/
def orElse (value generated : String) : String := if value = "" then generated else value

namespace Db

/-! Settings. -/

def ensureSetting (s : Db × Bool) (entry : String × String) : Db × Bool :=
  if s.1.setting entry.1 = "" then (s.1.storeSetting entry.1 entry.2, true) else s

/-- Stores what is missing or empty, and tells whether anything was. -/
def ensureSettings (db : Db) (values : List (String × String)) : Db × Bool :=
  values.foldl ensureSetting (db, false)

def ensureAmneziaSettings (db : Db) (m : StartMaterial) : Db × Bool :=
  let privateKey := orElse (db.setting "amnezia.server_private_key") m.amneziaPrivateKey
  let o := m.obfuscation
  db.ensureSettings ([("amnezia.server_private_key", privateKey),
    ("amnezia.server_public_key", m.publicKey privateKey)] ++
    [("amnezia.jc", o.jc), ("amnezia.jmin", o.jmin), ("amnezia.jmax", o.jmax), ("amnezia.s1", o.s1),
      ("amnezia.s2", o.s2), ("amnezia.h1", o.h1), ("amnezia.h2", o.h2), ("amnezia.h3", o.h3),
      ("amnezia.h4", o.h4)].map fun entry => (entry.1, toString entry.2))

def ensureRealitySettings (db : Db) (m : StartMaterial) : Db × Bool :=
  let privateKey := orElse (db.setting "vless.reality_private_key") m.realityPrivateKey
  db.ensureSettings [("vless.reality_private_key", privateKey),
    ("vless.reality_public_key", m.realityPublicKey privateKey),
    ("vless.reality_short_id", m.realityShortId)]

def ensureHysteriaSettings (db : Db) (m : StartMaterial) : Db × Bool :=
  db.ensureSettings [("hysteria.password", m.hysteriaPassword),
    ("hysteria.obfs_password", m.hysteriaObfsPassword)]

/-- The settings of the three servers. -/
def ensureServerSettings (db : Db) (m : StartMaterial) : Db × Bool :=
  let amnezia := db.ensureAmneziaSettings m
  let reality := amnezia.1.ensureRealitySettings m
  let hysteria := reality.1.ensureHysteriaSettings m
  (hysteria.1, amnezia.2 || reality.2 || hysteria.2)

/-! Clients and routers. -/

/-- The address that the client had by its id, where nobody else has it. -/
def legacyOrFreeAmneziaAddress (env : Environment) (db : Db) (clientId : Nat) :
    Except String String := do
  let network ← db.amneziaNetwork env
  let preferred := network ++ "." ++ toString (clientId + 1)
  if 2 ≤ clientId + 1 ∧ clientId + 1 ≤ 254 ∧ !db.usedAddresses.contains preferred then
    return preferred
  else db.allocateAmneziaAddress env

def withMaterial (privateKey publicKey presharedKey address : String) (row : ClientRow) : ClientRow :=
  { row with client := { row.client with
      amneziaPrivateKey := privateKey
      amneziaPublicKey := publicKey
      amneziaPresharedKey := presharedKey
      amneziaIpv4 := address } }

/-- `UPDATE clients SET ... WHERE id = ?`. -/
def setClientMaterial (db : Db) (clientId : Nat) (privateKey publicKey presharedKey address : String) :
    Db :=
  { db with clients := db.clients.map fun row => if row.client.id = clientId then
      withMaterial privateKey publicKey presharedKey address row else row }

/-- `client.get("amnezia_ipv4") or _legacy_or_free_amnezia_address(db, client["id"])`. -/
def ensuredAddress (env : Environment) (db : Db) (client : VpnClient) : Except String String :=
  if client.amneziaIpv4 = "" then db.legacyOrFreeAmneziaAddress env client.id
  else .ok client.amneziaIpv4

/-- One round of the loop over the clients, which were read before it. -/
def ensureClientMaterial (env : Environment) (m : StartMaterial) (s : Db × Bool) (client : VpnClient) :
    Except String (Db × Bool) := do
  let privateKey := orElse client.amneziaPrivateKey (m.client client.id).privateKey
  let publicKey := orElse client.amneziaPublicKey (m.publicKey privateKey)
  let presharedKey := orElse client.amneziaPresharedKey (m.client client.id).presharedKey
  let address ← s.1.ensuredAddress env client
  let complete := [client.amneziaPrivateKey, client.amneziaPublicKey, client.amneziaPresharedKey,
    client.amneziaIpv4].all (· ≠ "")
  return (s.1.setClientMaterial client.id privateKey publicKey presharedKey address, s.2 || !complete)

def ensureClientAmneziaMaterial (env : Environment) (db : Db) (m : StartMaterial) :
    Except String (Db × Bool) :=
  ((db.clients.map (·.client)).insertionSort (·.id ≤ ·.id)).foldlM (ensureClientMaterial env m)
    (db, false)

/-- One round of the loop over the routers. -/
def ensureRouterPeer (env : Environment) (m : StartMaterial) (s : Db × Bool) (routerId : String) :
    Except String (Db × Bool) := do
  let keys := m.router routerId
  let (stored, created) ← s.1.createRouterAmneziaPeer env routerId
    ⟨keys.privateKey, m.publicKey keys.privateKey, keys.presharedKey⟩
  return (stored, s.2 || created)

def ensureRouterAmneziaPeers (env : Environment) (db : Db) (m : StartMaterial) :
    Except String (Db × Bool) :=
  ((db.routers.map (·.routerId)).insertionSort (· ≤ ·)).foldlM (ensureRouterPeer env m) (db, false)

def initDb (env : Environment) (db : Db) (m : StartMaterial) (timestamp : String) :
    Except String Db := do
  let settings := db.insertDefaults.ensureServerSettings m
  let clients ← settings.1.ensureClientAmneziaMaterial env m
  let peers ← clients.1.ensureRouterAmneziaPeers env m
  return if settings.2 || clients.2 || peers.2 then peers.1.markVpnConfigUpdated timestamp else peers.1

end Db

open Db

/-! Addresses. -/

/-- The addresses that are given out are told apart, and are those of hosts. -/
structure Apart (db : Db) : Prop where
  distinct : (db.usedAddresses.filter (· ≠ "")).Nodup
  hosts : ∀ address ∈ db.usedAddresses, address ≠ "" → ∃ network, address ∈ clientHosts network

theorem ne_empty_of_host {network address : String} (h : address ∈ clientHosts network) :
    address ≠ "" := by
  obtain ⟨i, -, rfl⟩ := List.mem_map.mp h
  intro he
  have hlist := congrArg String.toList he
  simp at hlist

section

variable {env : Environment} {m : StartMaterial} {db db' : Db} {address : String}

theorem allocate_fresh (h : db.allocateAmneziaAddress env = .ok address) :
    address ∉ db.usedAddresses ∧ ∃ network, address ∈ clientHosts network := by
  obtain ⟨network, -, h⟩ := except_bind_eq_ok.1 h
  split at h
  · rename_i found hf
    cases h
    have hp := List.find?_some hf
    exact ⟨by simpa using hp, network, List.mem_of_find?_eq_some hf⟩
  · cases h

theorem legacy_fresh {clientId : Nat} (h : db.legacyOrFreeAmneziaAddress env clientId = .ok address) :
    address ∉ db.usedAddresses ∧ ∃ network, address ∈ clientHosts network := by
  obtain ⟨network, -, h⟩ := except_bind_eq_ok.1 h
  dsimp only at h
  split at h
  · rename_i hpreferred
    obtain ⟨hleast, hmost, hfree⟩ := hpreferred
    cases h
    refine ⟨by simpa using hfree, network, List.mem_map.mpr ⟨clientId - 1, ?_, ?_⟩⟩
    · exact List.mem_range.mpr (by omega)
    · rw [show clientId - 1 + 2 = clientId + 1 by omega]
  · exact allocate_fresh h

theorem nodup_replace {p : String → Bool} {before after : List String} {x y : String}
    (h : ((before ++ x :: after).filter p).Nodup) (hy : y ∉ before ++ x :: after) :
    ((before ++ y :: after).filter p).Nodup := by
  have hrest : (before.filter p ++ after.filter p).Nodup := by
    refine List.Sublist.nodup ?_ h
    rw [List.filter_append]
    exact (List.Sublist.refl _).append ((List.sublist_cons_self x after).filter p)
  rw [List.filter_append, List.filter_cons]
  split
  · rw [List.nodup_middle]
    refine List.nodup_cons.mpr ⟨fun hmem => hy ?_, hrest⟩
    rcases List.mem_append.mp hmem with hmem | hmem
    · exact List.mem_append_left _ (List.mem_of_mem_filter hmem)
    · exact List.mem_append_right _ (List.mem_cons_of_mem _ (List.mem_of_mem_filter hmem))
  · exact hrest

/-- One owner gets an address that nobody has. -/
theorem Apart.replace (h : Apart db) {before after : List String} {x y : String}
    (hused : db.usedAddresses = before ++ x :: after)
    (hused' : db'.usedAddresses = before ++ y :: after)
    (hy : y ∉ db.usedAddresses ∧ ∃ network, y ∈ clientHosts network) : Apart db' := by
  refine ⟨?_, fun address hm hne => ?_⟩
  · rw [hused']
    exact nodup_replace (hused ▸ h.distinct) (hused ▸ hy.1)
  · rw [hused'] at hm
    rcases List.mem_cons.mp (List.perm_middle.mem_iff.mp hm) with rfl | hm
    · exact hy.2
    · refine h.hosts address ?_ hne
      rw [hused]
      exact List.perm_middle.mem_iff.mpr (List.mem_cons_of_mem _ hm)

theorem Apart.add (h : Apart db) {y : String} (hused : db'.usedAddresses = db.usedAddresses ++ [y])
    (hy : y ∉ db.usedAddresses ∧ ∃ network, y ∈ clientHosts network) : Apart db' := by
  obtain ⟨hfresh, network, hhost⟩ := hy
  refine ⟨?_, fun address hm hne => ?_⟩
  · have hkept : [y].filter (· ≠ "") = [y] := by simp [ne_empty_of_host hhost]
    rw [hused, List.filter_append, hkept]
    exact List.Nodup.append h.distinct (List.nodup_singleton y)
      (List.disjoint_singleton.mpr fun hmem => hfresh (List.mem_of_mem_filter hmem))
  · rw [hused] at hm
    rcases List.mem_append.mp hm with hm | hm
    · exact h.hosts address hm hne
    · exact ⟨network, List.mem_singleton.mp hm ▸ hhost⟩

theorem Apart.same (h : Apart db) (hused : db'.usedAddresses = db.usedAddresses) : Apart db' :=
  ⟨hused ▸ h.distinct, hused ▸ h.hosts⟩

end

/-! Settings. -/

/-- Settings are stored, and none where none was missing. -/
structure OnlySettings (db db' : Db) (changed : Bool) : Prop where
  rest : db' = { db with settings := db'.settings }
  silent : changed = false → db' = db

theorem OnlySettings.trans {a b c : Db} {x y : Bool} (h : OnlySettings a b x) (h' : OnlySettings b c y) :
    OnlySettings a c (x || y) := by
  refine ⟨?_, fun hsilent => ?_⟩
  · rw [h'.rest, h.rest]
  · obtain ⟨hx, hy⟩ := Bool.or_eq_false_iff.mp hsilent
    exact (h'.silent hy).trans (h.silent hx)

theorem ensureSettings_onlySettings (db : Db) (values : List (String × String)) :
    OnlySettings db (db.ensureSettings values).1 (db.ensureSettings values).2 := by
  have hgeneral (s : Db × Bool) : OnlySettings db s.1 s.2 →
      OnlySettings db (values.foldl ensureSetting s).1 (values.foldl ensureSetting s).2 := by
    induction values generalizing s with
    | nil => exact id
    | cons entry values ih =>
      intro h
      refine ih _ ?_
      unfold ensureSetting
      split
      · refine ⟨?_, fun hs => nomatch hs⟩
        show s.1.storeSetting entry.1 entry.2 = _
        rw [h.rest]
        rfl
      · exact h
  exact hgeneral (db, false) ⟨rfl, fun _ => rfl⟩

theorem ensureServerSettings_onlySettings (db : Db) (m : StartMaterial) :
    OnlySettings db (db.ensureServerSettings m).1 (db.ensureServerSettings m).2 := by
  have hreality (db : Db) :
      OnlySettings db (db.ensureRealitySettings m).1 (db.ensureRealitySettings m).2 :=
    ensureSettings_onlySettings db _
  have hhysteria (db : Db) :
      OnlySettings db (db.ensureHysteriaSettings m).1 (db.ensureHysteriaSettings m).2 :=
    ensureSettings_onlySettings db _
  have hamnezia : OnlySettings db (db.ensureAmneziaSettings m).1 (db.ensureAmneziaSettings m).2 :=
    ensureSettings_onlySettings db _
  unfold ensureServerSettings
  dsimp only
  exact (hamnezia.trans (hreality _)).trans (hhysteria _)

/-! Clients. -/

/-- Rows keep who they are, whether they are deleted, and an address that they have. -/
structure ClientFill (rows : List ClientRow) (f : ClientRow → ClientRow) : Prop where
  id : ∀ row, (f row).client.id = row.client.id
  deletedAt : ∀ row, (f row).deletedAt = row.deletedAt
  deletedRevision : ∀ row, (f row).deletedRevision = row.deletedRevision
  address : ∀ row ∈ rows, row.client.amneziaIpv4 ≠ "" → (f row).client.amneziaIpv4 = row.client.amneziaIpv4

/-- After the rounds for some clients, these have addresses. -/
structure ClientsEnsured (db : Db) (done : List VpnClient) (s : Db × Bool) : Prop where
  rows : ∃ f, s.1.clients = db.clients.map f ∧ ClientFill db.clients f ∧
    ∀ row ∈ db.clients, row.client ∈ done → (f row).client.amneziaIpv4 ≠ ""
  apart : Apart db → Apart s.1
  silent : s.2 = false → s.1 = db

section

variable {env : Environment} {m : StartMaterial} {db : Db}

theorem setClientMaterial_clients {f : ClientRow → ClientRow} {s : Db} {row : ClientRow}
    {before after : List ClientRow} (hids : (db.clients.map (·.client.id)).Nodup)
    (hsplit : db.clients = before ++ row :: after) (hs : s.clients = db.clients.map f)
    (hf : ClientFill db.clients f) (privateKey publicKey presharedKey address : String) :
    (s.setClientMaterial row.client.id privateKey publicKey presharedKey address).clients =
      before.map f ++ withMaterial privateKey publicKey presharedKey address (f row) :: after.map f := by
  rw [hsplit, List.map_append, List.map_cons, List.nodup_middle, List.nodup_cons] at hids
  have hother : ∀ r ∈ before ++ after, r.client.id ≠ row.client.id := by
    intro r hr he
    refine hids.1 ?_
    rw [← List.map_append, ← he]
    exact List.mem_map_of_mem hr
  have hkeep (rows : List ClientRow) (hrows : ∀ r ∈ rows, r.client.id ≠ row.client.id)
      (g : ClientRow → ClientRow) : (rows.map f).map (fun r => if r.client.id = row.client.id then g r
        else r) = rows.map f := by
    rw [List.map_map]
    refine List.map_congr_left fun r hr => ?_
    rw [Function.comp_apply, if_neg]
    rw [hf.id]
    exact hrows r hr
  show s.clients.map _ = _
  rw [hs, hsplit, List.map_append, List.map_append, List.map_cons, List.map_cons,
    hkeep before (fun r hr => hother r (List.mem_append_left _ hr)),
    hkeep after (fun r hr => hother r (List.mem_append_right _ hr)), if_pos (hf.id row)]

theorem setClientMaterial_apart {f : ClientRow → ClientRow} {s : Db} {row : ClientRow}
    (hids : (db.clients.map (·.client.id)).Nodup) (hrow : row ∈ db.clients)
    (hs : s.clients = db.clients.map f) (hf : ClientFill db.clients f) {address : String}
    (ha : row.client.amneziaIpv4 ≠ "" ∧ address = row.client.amneziaIpv4 ∨
      address ∉ s.usedAddresses ∧ ∃ network, address ∈ clientHosts network)
    (privateKey publicKey presharedKey : String) (h : Apart s) :
    Apart (s.setClientMaterial row.client.id privateKey publicKey presharedKey address) := by
  obtain ⟨before, after, hsplit⟩ := List.append_of_mem hrow
  have hclients := setClientMaterial_clients hids hsplit hs hf privateKey publicKey presharedKey address
  have hused : s.usedAddresses = (before.map f).map (·.client.amneziaIpv4) ++
      (f row).client.amneziaIpv4 :: ((after.map f).map (·.client.amneziaIpv4) ++ s.peers.map (·.ipv4)) := by
    rw [usedAddresses, hs, hsplit]
    simp
  have hused' : (s.setClientMaterial row.client.id privateKey publicKey presharedKey
      address).usedAddresses = (before.map f).map (·.client.amneziaIpv4) ++
        address :: ((after.map f).map (·.client.amneziaIpv4) ++ s.peers.map (·.ipv4)) := by
    rw [usedAddresses, hclients]
    simp [setClientMaterial, withMaterial]
  rcases ha with ⟨hne, rfl⟩ | hfresh
  · refine h.same ?_
    rw [hused', hused, hf.address row hrow hne]
  · exact h.replace hused hused' hfresh

theorem setClientMaterial_own (hids : (db.clients.map (·.client.id)).Nodup) {row : ClientRow}
    (hrow : row ∈ db.clients) : db.setClientMaterial row.client.id row.client.amneziaPrivateKey
      row.client.amneziaPublicKey row.client.amneziaPresharedKey row.client.amneziaIpv4 = db := by
  have hrows : db.clients.map (fun r => if r.client.id = row.client.id then
      withMaterial row.client.amneziaPrivateKey row.client.amneziaPublicKey
        row.client.amneziaPresharedKey row.client.amneziaIpv4 r else r) = db.clients := by
    conv_rhs => rw [← List.map_id db.clients]
    refine List.map_congr_left fun r hr => ?_
    split
    · rename_i he
      obtain rfl := List.inj_on_of_nodup_map hids hr hrow he
      rfl
    · rfl
  rw [setClientMaterial, hrows]

theorem ensureClientMaterial_ensured {done : List VpnClient} {s s' : Db × Bool} {row : ClientRow}
    (hids : (db.clients.map (·.client.id)).Nodup) (hrow : row ∈ db.clients)
    (h : ClientsEnsured db done s) (hstep : ensureClientMaterial env m s row.client = .ok s') :
    ClientsEnsured db (done ++ [row.client]) s' := by
  obtain ⟨f, hs, hf, hdone⟩ := h.rows
  unfold ensureClientMaterial at hstep
  obtain ⟨address, haddress, hstep⟩ := except_bind_eq_ok.1 hstep
  obtain rfl := Except.ok.inj hstep
  have ha : row.client.amneziaIpv4 ≠ "" ∧ address = row.client.amneziaIpv4 ∨
      address ∉ s.1.usedAddresses ∧ ∃ network, address ∈ clientHosts network := by
    unfold ensuredAddress at haddress
    split at haddress
    · exact .inr (legacy_fresh haddress)
    · rename_i hne
      exact .inl ⟨hne, (Except.ok.inj haddress).symm⟩
  have hne : address ≠ "" := by
    rcases ha with ⟨hne, rfl⟩ | ⟨-, network, hhost⟩
    · exact hne
    · exact ne_empty_of_host hhost
  have hkept : row.client.amneziaIpv4 ≠ "" → address = row.client.amneziaIpv4 := by
    intro hne
    rw [ensuredAddress, if_neg hne] at haddress
    exact (Except.ok.inj haddress).symm
  refine ⟨⟨_, (congrArg (List.map _) hs).trans List.map_map, ⟨fun r => ?_, fun r => ?_, fun r => ?_,
    fun r hr hne => ?_⟩, fun r hr hmem => ?_⟩, fun hapart => ?_, fun hsilent => ?_⟩
  · rw [Function.comp_apply]
    split <;> exact hf.id r
  · rw [Function.comp_apply]
    split <;> exact hf.deletedAt r
  · rw [Function.comp_apply]
    split <;> exact hf.deletedRevision r
  · rw [Function.comp_apply]
    split
    · rename_i he
      rw [hf.id] at he
      obtain rfl := List.inj_on_of_nodup_map hids hr hrow he
      exact hkept hne
    · exact hf.address r hr hne
  · rw [Function.comp_apply]
    split
    · exact hne
    · rename_i hother
      refine hdone r hr ?_
      rcases List.mem_append.mp hmem with hmem | hmem
      · exact hmem
      · refine absurd ?_ hother
        rw [hf.id, List.mem_singleton.mp hmem]
  · exact setClientMaterial_apart hids hrow hs hf ha _ _ _ (h.apart hapart)
  · rw [Bool.or_eq_false_iff, Bool.not_eq_false'] at hsilent
    obtain ⟨hquiet, hcomplete⟩ := hsilent
    simp only [List.all_cons, List.all_nil, Bool.and_true, Bool.and_eq_true, decide_eq_true_eq] at hcomplete
    obtain ⟨hprivate, hpublic, hpreshared, hipv4⟩ := hcomplete
    rw [h.silent hquiet, hkept hipv4, orElse, orElse, orElse, if_neg hprivate, if_neg hpublic,
      if_neg hpreshared]
    exact setClientMaterial_own hids hrow

theorem ensureClientAmneziaMaterial_rest {s : Db × Bool}
    (h : db.ensureClientAmneziaMaterial env m = .ok s) : s.1 = { db with clients := s.1.clients } := by
  refine foldlM_invariant (I := fun _ s => s.1 = { db with clients := s.1.clients })
    (fun _ client s s' _ hI hstep => ?_) rfl h
  unfold ensureClientMaterial at hstep
  obtain ⟨address, -, hstep⟩ := except_bind_eq_ok.1 hstep
  obtain rfl := Except.ok.inj hstep
  dsimp only
  rw [hI]
  rfl

theorem ensureClientAmneziaMaterial_ensured {s : Db × Bool}
    (hids : (db.clients.map (·.client.id)).Nodup) (h : db.ensureClientAmneziaMaterial env m = .ok s) :
    ClientsEnsured db ((db.clients.map (·.client)).insertionSort (·.id ≤ ·.id)) s := by
  refine foldlM_invariant (I := ClientsEnsured db) (fun done client s s' hclient hI hstep => ?_) ?_ h
  · rw [List.mem_insertionSort] at hclient
    obtain ⟨row, hrow, rfl⟩ := List.mem_map.mp hclient
    exact ensureClientMaterial_ensured hids hrow hI hstep
  · exact ⟨⟨id, (List.map_id _).symm, ⟨fun _ => rfl, fun _ => rfl, fun _ => rfl, fun _ _ _ => rfl⟩,
      fun _ _ hmem => absurd hmem List.not_mem_nil⟩, id, fun _ => rfl⟩

end

/-! Routers. -/

theorem createRouterAmneziaPeer_ok {env : Environment} {db : Db} {s : Db × Bool} {routerId : String}
    {m : PeerMaterial} (h : db.createRouterAmneziaPeer env routerId m = .ok s) :
    s = (db, false) ∨ ∃ peer : PeerRow, s = ({ db with peers := db.peers ++ [peer] }, true) ∧
      db.allocateAmneziaAddress env = .ok peer.ipv4 ∧
      (∃ router ∈ db.routers, router.routerId = peer.routerId) ∧
      ∀ other ∈ db.peers, other.routerId ≠ peer.routerId := by
  unfold createRouterAmneziaPeer at h
  split at h
  · exact .inl (Except.ok.inj h).symm
  · rename_i hp
    split at h
    · cases h
    · rename_i hr
      obtain ⟨address, ha, h⟩ := except_bind_eq_ok.1 h
      split at h
      · cases h
      · refine .inr ⟨_, (Except.ok.inj h).symm, ha, ?_, ?_⟩
        · simpa using hr
        · simpa using hp

/-- Peers are added, each for a router that had none, with an address. -/
structure PeersEnsured (db : Db) (s : Db × Bool) : Prop where
  rest : s.1 = { db with peers := s.1.peers }
  peers : ∀ peer ∈ s.1.peers, peer ∈ db.peers ∨
    (∃ router ∈ db.routers, router.routerId = peer.routerId) ∧ peer.ipv4 ≠ ""
  apart : Apart db → Apart s.1
  silent : s.2 = false → s.1 = db

section

variable {env : Environment} {m : StartMaterial} {db db' : Db}

theorem ensureRouterPeer_ensured {s s' : Db × Bool} {routerId : String} (h : PeersEnsured db s)
    (hstep : ensureRouterPeer env m s routerId = .ok s') : PeersEnsured db s' := by
  unfold ensureRouterPeer at hstep
  obtain ⟨t, hcreate, hstep⟩ := except_bind_eq_ok.1 hstep
  obtain rfl := Except.ok.inj hstep
  rcases createRouterAmneziaPeer_ok hcreate with rfl | ⟨peer, rfl, hallocate, hrouter, -⟩
  · exact ⟨h.rest, h.peers, h.apart, fun hsilent => h.silent (Bool.or_eq_false_iff.mp hsilent).1⟩
  · have hfresh := allocate_fresh hallocate
    obtain ⟨network, hhost⟩ := hfresh.2
    refine ⟨?_, fun other hother => ?_, fun hapart => ?_, fun hsilent => ?_⟩
    · dsimp only
      rw [h.rest]
    · rcases List.mem_append.mp hother with hother | hother
      · exact h.peers other hother
      · obtain rfl := List.mem_singleton.mp hother
        rw [h.rest] at hrouter
        exact .inr ⟨hrouter, ne_empty_of_host hhost⟩
    · refine (h.apart hapart).add ?_ hfresh
      simp [usedAddresses]
    · exact nomatch (Bool.or_eq_false_iff.mp hsilent).2

theorem ensureRouterAmneziaPeers_ensured {s : Db × Bool}
    (h : db.ensureRouterAmneziaPeers env m = .ok s) : PeersEnsured db s :=
  foldlM_invariant (I := fun _ => PeersEnsured db)
    (fun _ _ _ _ _ hI hstep => ensureRouterPeer_ensured hI hstep)
    ⟨rfl, fun _ hp => .inl hp, id, fun _ => rfl⟩ h

end

/-! The whole start. -/

section

variable {env : Environment} {m : StartMaterial} {db db' : Db} {timestamp : String}

theorem initDb_rest (h : db.initDb env m timestamp = .ok db') : db.desiredRevision ≤ db'.desiredRevision ∧
    db' = { db with settings := db'.settings, clients := db'.clients, peers := db'.peers,
                    desiredRevision := db'.desiredRevision } := by
  obtain ⟨clients, hclients, h⟩ := except_bind_eq_ok.1 h
  obtain ⟨peers, hpeers, h⟩ := except_bind_eq_ok.1 h
  obtain rfl := Except.ok.inj h
  have hsettings := (ensureServerSettings_onlySettings db.insertDefaults m).rest
  have hrest : peers.1 = { db with settings := peers.1.settings, clients := peers.1.clients,
                                   peers := peers.1.peers } := by
    rw [(ensureRouterAmneziaPeers_ensured hpeers).rest,
      ensureClientAmneziaMaterial_rest hclients, hsettings,
      insertDefaults_eq]
  split
  · rw [hrest]
    exact ⟨Nat.le_succ _, rfl⟩
  · rw [hrest]
    exact ⟨le_rfl, rfl⟩

/-- What a start does: keys and addresses are filled in where they are missing, and a start that asks for
no new revision changes nothing that the VPN has. -/
structure Started (db db' : Db) : Prop where
  rows : ∃ f, db'.clients = db.clients.map f ∧ ClientFill db.clients f ∧
    ∀ row ∈ db.clients, (f row).client.amneziaIpv4 ≠ ""
  peers : ∀ peer ∈ db'.peers, peer ∈ db.peers ∨
    (∃ router ∈ db.routers, router.routerId = peer.routerId) ∧ peer.ipv4 ≠ ""
  apart : Apart db → Apart db'
  silent : db'.desiredRevision = db.desiredRevision → db' = db.insertDefaults

theorem initDb_started (hids : (db.clients.map (·.client.id)).Nodup)
    (h : db.initDb env m timestamp = .ok db') : Started db db' := by
  obtain ⟨clients, hclients, h⟩ := except_bind_eq_ok.1 h
  obtain ⟨peers, hpeers, h⟩ := except_bind_eq_ok.1 h
  obtain rfl := Except.ok.inj h
  have hsettings := ensureServerSettings_onlySettings db.insertDefaults m
  generalize db.insertDefaults.ensureServerSettings m = settings at hclients hsettings ⊢
  have hstored : settings.1 = { db with settings := settings.1.settings } := by
    rw [hsettings.rest, insertDefaults_eq]
  have hrows : settings.1.clients = db.clients := by rw [hstored]
  have hfilled := ensureClientAmneziaMaterial_ensured (hrows ▸ hids) hclients
  have hadded := ensureRouterAmneziaPeers_ensured hpeers
  have hrest := ensureClientAmneziaMaterial_rest hclients
  obtain ⟨f, hf, hfill, hdone⟩ := hfilled.rows
  rw [hrows] at hf hfill hdone
  have hclientsEq : peers.1.clients = db.clients.map f := by rw [hadded.rest, hf]
  have hdone : ∀ row ∈ db.clients, (f row).client.amneziaIpv4 ≠ "" := fun row hrow =>
    hdone row hrow ((List.mem_insertionSort _).mpr (List.mem_map_of_mem hrow))
  have hpeers' : ∀ peer ∈ peers.1.peers, peer ∈ db.peers ∨
      (∃ router ∈ db.routers, router.routerId = peer.routerId) ∧ peer.ipv4 ≠ "" := by
    have hsame : clients.1.routers = db.routers ∧ clients.1.peers = db.peers := by
      rw [hrest, hstored]
      exact ⟨rfl, rfl⟩
    intro peer hpeer
    rw [← hsame.1, ← hsame.2]
    exact hadded.peers peer hpeer
  have hapart (h : Apart db) : Apart peers.1 := by
    refine hadded.apart (hfilled.apart (h.same ?_))
    rw [hstored]
    rfl
  have hdesired : peers.1.desiredRevision = db.desiredRevision := by rw [hadded.rest, hrest, hstored]
  split
  · refine ⟨⟨f, hclientsEq, hfill, hdone⟩, hpeers', fun h => (hapart h).same rfl, fun he => ?_⟩
    have he : peers.1.desiredRevision + 1 = db.desiredRevision := he
    omega
  · rename_i hchanged
    rw [Bool.not_eq_true, Bool.or_eq_false_iff, Bool.or_eq_false_iff] at hchanged
    obtain ⟨⟨hquiet, hquiet'⟩, hquiet''⟩ := hchanged
    refine ⟨⟨f, hclientsEq, hfill, hdone⟩, hpeers', hapart, fun _ => ?_⟩
    rw [hadded.silent hquiet'', hfilled.silent hquiet', hsettings.silent hquiet]

/-- After a start every owner has an address. -/
theorem Started.ne_empty (h : Started db db') (hpeers : ∀ peer ∈ db.peers, peer.ipv4 ≠ "") :
    ∀ address ∈ db'.usedAddresses, address ≠ "" := by
  obtain ⟨f, hf, -, hfilled⟩ := h.rows
  intro address hm
  rcases List.mem_append.mp hm with hm | hm
  · obtain ⟨row, hrow, rfl⟩ := List.mem_map.mp hm
    rw [hf] at hrow
    obtain ⟨old, hold, rfl⟩ := List.mem_map.mp hrow
    exact hfilled old hold
  · obtain ⟨peer, hpeer, rfl⟩ := List.mem_map.mp hm
    rcases h.peers peer hpeer with hold | hnew
    · exact hpeers peer hold
    · exact hnew.2

theorem Started.distinct (h : Started db db') (hpeers : ∀ peer ∈ db.peers, peer.ipv4 ≠ "")
    (hapart : Apart db) : db'.usedAddresses.Nodup ∧
      ∀ address ∈ db'.usedAddresses, ∃ network, address ∈ clientHosts network := by
  have hne := h.ne_empty hpeers
  have hall : db'.usedAddresses.filter (· ≠ "") = db'.usedAddresses :=
    List.filter_eq_self.mpr fun address hm => decide_eq_true (hne address hm)
  have hapart' := h.apart hapart
  exact ⟨hall ▸ hapart'.distinct, fun address hm => hapart'.hosts address hm (hne address hm)⟩

end

end Server

end AutoVPN
