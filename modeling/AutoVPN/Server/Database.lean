import AutoVPN.Server.VpnConfig

/-! The tables of the server and the transactions on settings, clients, routers
and credentials. A transaction that fails leaves the database as it was. -/

namespace AutoVPN

namespace Server

structure ClientRow where
  client : VpnClient
  deletedAt : Option String
  deletedRevision : Option Nat

structure RouterRow where
  routerId : String
  clientId : Nat
  label : String
  enabled : Bool

structure PeerRow where
  routerId : String
  privateKey : String
  publicKey : String
  presharedKey : String
  ipv4 : String

structure CredentialRow where
  credentialId : String
  routerId : String
  clientId : Nat
  label : String
  secretDigest : String
  scopes : List String
  enabled : Bool
  expiresAt : Option String
  revokedAt : Option String

inductive Lifecycle
  | prepared
  | applied
  | failed
  deriving DecidableEq

structure VpnSnapshot where
  payload : Value
  payloadSha256 : String
  lifecycle : Lifecycle

inductive Status
  | pending
  | running
  | done
  | failed
  | timedOut
  | ambiguous
  deriving DecidableEq

/-- `TERMINAL_STATUSES`. -/
def Status.terminal : Status → Bool
  | pending | running => false
  | _ => true

inductive OwnerType
  | install
  | ipChange
  | server
  deriving DecidableEq

structure LeaseOwner where
  ownerType : OwnerType
  ownerId : Nat
  deriving DecidableEq

/-- The lease of the VPN server; times are seconds. -/
structure Lease where
  owner : LeaseOwner
  acquiredAt : Nat
  heartbeatAt : Nat
  expiresAt : Nat

structure InstallOperation where
  id : Nat
  status : Status
  targetHost : String
  currentStep : String
  revision : Option Nat
  output : Option String
  errorMessage : Option String

inductive PurchaseState
  | notStarted
  | sending
  | sent
  | confirmed
  | ambiguous
  | rejected
  deriving DecidableEq

inductive MakeMainState
  | notStarted
  | sending
  | sent
  | confirmed
  | ambiguous
  deriving DecidableEq

inductive ApplyState
  | notStarted
  | running
  | applied
  | failed
  | ambiguous
  deriving DecidableEq

/-- `action_state` of an IP operation. -/
inductive ActionState
  | notStarted
  | purchaseSending
  | purchaseSent
  | purchaseConfirmed
  | makeMainSending
  | mainChanged
  | mainConfirmed
  | applying
  | applyFailed
  | applied
  | published
  | cleanupSending
  | cleanupConfirmed
  | cleanupAmbiguous
  | publishedAwaitingAwgCheck
  | done
  | failed
  | ambiguous
  | rollingBack
  | rolledBack
  | reconciled
  | retryRequested
  | awaitingUserReview
  | cleanupQueued
  | cleanupRunning
  | cleanupRejected
  | waitingSsh
  | sshUnreachable
  | sshWaitQueued
  | cancelled
  deriving DecidableEq

structure IpOperation where
  id : Nat
  status : Status
  currentStep : String
  revision : Option Nat
  actionState : ActionState
  purchaseState : PurchaseState
  makeMainState : MakeMainState
  applyState : ApplyState
  oldIp : Option String
  oldIpId : Option String
  newIp : Option String
  newIpId : Option String
  publishedRevision : Option Nat
  publishedAt : Option String
  healthcheckResult : Option String
  cleanupWarning : Option String
  rollbackOutcome : Option String
  errorMessage : Option String
  reconciliationNote : Option String

inductive ServerKind
  | status
  | reboot
  deriving DecidableEq

inductive ServerAction
  | notStarted
  | sending
  | sent
  | ambiguous
  deriving DecidableEq

structure ServerOperation where
  id : Nat
  kind : ServerKind
  status : Status
  currentStep : String
  actionState : ServerAction
  providerStatus : Option String
  providerIp : Option String
  sshStatus : Option String
  servicesJson : Option String
  protocolHealthJson : Option String
  resultMessage : Option String
  errorMessage : Option String
  warningMessage : Option String

/-- The database. The sequences are the largest ids that were ever given out. -/
structure Db where
  settings : List (String × String)
  clients : List ClientRow
  routers : List RouterRow
  peers : List PeerRow
  credentials : List CredentialRow
  desiredRevision : Nat
  appliedRevision : Option Nat
  snapshots : Nat → Option VpnSnapshot
  installOperations : List InstallOperation
  ipOperations : List IpOperation
  serverOperations : List ServerOperation
  lease : Option Lease
  clientSequence : Nat
  installSequence : Nat
  ipSequence : Nat
  serverSequence : Nat

/-- What the transactions take from the environment: the settings of the
process and functions of the standard library. -/
structure Environment where
  vlessPort : Int
  hysteriaPort : Int
  amneziaPort : Int
  vlessRealityTarget : String
  vlessRealityServerNames : String
  vlessRealityServerName : String
  vlessRealityFingerprint : String
  vlessRealitySpiderX : String
  amneziaNetworkPrefix : String
  amneziaDns : String
  strip : String → String
  lower : String → String
  parseInt : String → Option Int
  isNetwork : String → Bool
  sha256 : Value → String
  sha256Text : String → String
  dumps : Value → String
  loads : String → Option Value
  configDefault : String → String

namespace Db

/-! Settings. -/

def lookup (db : Db) (key : String) : Option String := db.settings.lookup key

def setting (db : Db) (key : String) : String := (db.lookup key).getD ""

def storeSetting (db : Db) (key value : String) : Db :=
  { db with settings := (key, value) :: db.settings.filter fun entry => entry.1 != key }

def storeSettings (db : Db) (values : List (String × String)) : Db :=
  values.foldl (fun db entry => db.storeSetting entry.1 entry.2) db

def markVpnConfigUpdated (db : Db) (timestamp : String) : Db :=
  { db.storeSetting "vpn.config_updated_at" timestamp with
    desiredRevision := db.desiredRevision + 1 }

end Db

def startsWith (word text : String) : Bool := word.toList.isPrefixOf text.toList

def isVpnSetting (key : String) : Bool :=
  key == "current_ip" || ["vless.", "hysteria.", "amnezia.", "config.vless_", "config.hysteria_",
    "config.amnezia_"].any fun word => startsWith word key

namespace Db

def setSetting (db : Db) (key value timestamp : String) : Db :=
  let stored := db.storeSetting key value
  if isVpnSetting key && db.setting key != value then stored.markVpnConfigUpdated timestamp
  else stored

def activeOperationOwner (db : Db) : Option LeaseOwner :=
  match db.lease with
  | some lease => some lease.owner
  | none =>
    match db.installOperations.find? fun o => !o.status.terminal with
    | some o => some ⟨.install, o.id⟩
    | none =>
      match db.ipOperations.find? fun o => !o.status.terminal with
      | some o => some ⟨.ipChange, o.id⟩
      | none => (db.serverOperations.find? fun o => !o.status.terminal).map fun o => ⟨.server, o.id⟩

def setSettings (db : Db) (values : List (String × String)) (mark requireIdle : Bool)
    (timestamp : String) : Except String Db :=
  if requireIdle && db.activeOperationOwner.isSome then .error "VPN VPS is busy"
  else
    let changed := mark && values.any fun entry =>
      isVpnSetting entry.1 && db.setting entry.1 != entry.2
    let stored := db.storeSettings values
    .ok (if changed then stored.markVpnConfigUpdated timestamp else stored)

/-! AmneziaWG addresses. -/

/-- `list(network.hosts())[1:]` of a `/24` network. -/
def clientHosts (network : String) : List String :=
  (List.range 253).map fun i => network ++ "." ++ toString (i + 2)

def amneziaNetwork (env : Environment) (db : Db) : Except String String :=
  let configured := db.setting "config.amnezia_network_prefix"
  let network := if configured = "" then env.amneziaNetworkPrefix else configured
  if env.isNetwork network then .ok network
  else .error ("Invalid AmneziaWG /24 network prefix: " ++ network)

def usedAddresses (db : Db) : List String :=
  db.clients.map (fun row => row.client.amneziaIpv4) ++ db.peers.map (·.ipv4)

def allocateAmneziaAddress (env : Environment) (db : Db) : Except String String := do
  let network ← db.amneziaNetwork env
  match (clientHosts network).find? fun address => !db.usedAddresses.contains address with
  | some address => return address
  | none => .error ("AmneziaWG address pool " ++ network ++ ".0/24 is exhausted")

/-! Clients. -/

end Db

structure ClientMaterial where
  token : String
  vlessUuid : String
  hysteriaPassword : String
  amneziaPrivateKey : String
  amneziaPublicKey : String
  amneziaPresharedKey : String

structure PeerMaterial where
  privateKey : String
  publicKey : String
  presharedKey : String

namespace Db

def createClient (env : Environment) (db : Db) (name : String) (m : ClientMaterial)
    (timestamp : String) : Except String Db := do
  let address ← db.allocateAmneziaAddress env
  if db.clients.any fun row => row.client.token == m.token then
    .error "UNIQUE constraint failed: clients.token"
  else
    let row : ClientRow :=
      { client :=
          { id := db.clientSequence + 1
            name := name
            token := m.token
            enabled := true
            vlessUuid := m.vlessUuid
            hysteriaPassword := m.hysteriaPassword
            amneziaPrivateKey := m.amneziaPrivateKey
            amneziaPublicKey := m.amneziaPublicKey
            amneziaPresharedKey := m.amneziaPresharedKey
            amneziaIpv4 := address
            createdAt := timestamp }
        deletedAt := none
        deletedRevision := none }
    return { db with
      clients := db.clients ++ [row]
      clientSequence := db.clientSequence + 1 }.markVpnConfigUpdated timestamp

def findClient (db : Db) (clientId : Nat) : Option ClientRow :=
  db.clients.find? fun row => row.client.id == clientId && row.deletedAt.isNone

/-- `UPDATE clients SET ... WHERE id = ? AND deleted_at IS NULL`. -/
def updateClient (db : Db) (clientId : Nat) (f : ClientRow → ClientRow) : Db :=
  { db with clients := db.clients.map fun row =>
      if row.client.id == clientId && row.deletedAt.isNone then f row else row }

def setClientEnabled (db : Db) (clientId : Nat) (enabled : Bool) (timestamp : String) : Db :=
  match db.findClient clientId with
  | none => db
  | some row =>
    if row.client.enabled = enabled then db
    else
      (db.updateClient clientId fun row =>
        { row with client := { row.client with enabled := enabled } }).markVpnConfigUpdated timestamp

def updateClientName (db : Db) (clientId : Nat) (name timestamp : String) : Db :=
  match db.findClient clientId with
  | none => db
  | some row =>
    if row.client.name = name then db
    else
      (db.updateClient clientId fun row =>
        { row with client := { row.client with name := name } }).markVpnConfigUpdated timestamp

def deleteClient (db : Db) (clientId : Nat) (timestamp : String) : Db :=
  match db.findClient clientId with
  | none => db
  | some _ =>
    let marked := db.markVpnConfigUpdated timestamp
    marked.updateClient clientId fun row =>
      { row with deletedAt := some timestamp, deletedRevision := some marked.desiredRevision }

/-- The rows that refer to a deleted router or client go with it. -/
def cascade (db : Db) : Db :=
  let routers := db.routers.filter fun router =>
    db.clients.any fun row => row.client.id == router.clientId
  { db with
    routers := routers
    peers := db.peers.filter fun peer => routers.any fun router => router.routerId == peer.routerId
    credentials := db.credentials.filter fun credential =>
      (routers.any fun router => router.routerId == credential.routerId) &&
        db.clients.any fun row => row.client.id == credential.clientId }

def purgeable (applied : Nat) (row : ClientRow) : Bool :=
  row.deletedRevision.any fun revision => decide (revision ≤ applied)

def purgeAppliedDeletedClients (db : Db) : Db :=
  match db.appliedRevision with
  | none => db
  | some applied =>
    { db with clients := db.clients.filter fun row => !purgeable applied row }.cascade

/-! Routers. -/

/-- `_create_router_amnezia_peer`, and whether the peer is new. -/
def createRouterAmneziaPeer (env : Environment) (db : Db) (routerId : String) (m : PeerMaterial) :
    Except String (Db × Bool) := do
  if db.peers.any fun peer => peer.routerId == routerId then return (db, false)
  else if !db.routers.any fun router => router.routerId == routerId then
    .error "Router does not exist"
  else
    let address ← db.allocateAmneziaAddress env
    if db.peers.any fun peer => peer.publicKey == m.publicKey then
      .error "UNIQUE constraint failed: router_amnezia_peers.public_key"
    else
      let peer : PeerRow := ⟨routerId, m.privateKey, m.publicKey, m.presharedKey, address⟩
      return ({ db with peers := db.peers ++ [peer] }, true)

def ensureRouterAmneziaPeer (env : Environment) (db : Db) (routerId : String) (m : PeerMaterial)
    (timestamp : String) : Except String Db := do
  let (stored, created) ← db.createRouterAmneziaPeer env routerId m
  return if created then stored.markVpnConfigUpdated timestamp else stored

/-- A new router for a client that has none. -/
def insertRouter (env : Environment) (db : Db) (routerId label : String) (clientId : Nat)
    (m : PeerMaterial) (timestamp : String) : Except String Db :=
  if (db.findClient clientId).isNone then .error "Client does not exist"
  else if db.routers.any fun router => router.clientId == clientId then
    .error "Client already belongs to another router"
  else if db.routers.any fun router => router.routerId == routerId then
    .error "UNIQUE constraint failed: routers.router_id"
  else
    let inserted : Db := { db with routers := db.routers ++ [⟨routerId, clientId, label, true⟩] }
    inserted.ensureRouterAmneziaPeer env routerId m timestamp

def createRouter (env : Environment) (db : Db) (routerId label : String) (clientId : Nat)
    (m : PeerMaterial) (timestamp : String) : Except String Db :=
  db.insertRouter env routerId label clientId m timestamp

def findRouter (db : Db) (routerId : String) : Option RouterRow :=
  db.routers.find? fun router => router.routerId == routerId

def updateRouter (db : Db) (routerId : String) (f : RouterRow → RouterRow) : Db :=
  { db with routers := db.routers.map fun router =>
      if router.routerId == routerId then f router else router }

def setRouterEnabled (db : Db) (routerId : String) (enabled : Bool) (timestamp : String) :
    Except String Db :=
  match db.findRouter routerId with
  | none => .error "Router does not exist"
  | some router =>
    if router.enabled = enabled then .ok db
    else
      .ok ((db.updateRouter routerId fun router =>
        { router with enabled := enabled }).markVpnConfigUpdated timestamp)

def updateRouterLabel (db : Db) (routerId label : String) : Except String Db :=
  match db.findRouter routerId with
  | none => .error "Router does not exist"
  | some _ => .ok (db.updateRouter routerId fun router => { router with label := label })

def deleteRouter (db : Db) (routerId timestamp : String) : Except String Db :=
  match db.findRouter routerId with
  | none => .error "Router does not exist"
  | some _ =>
    let marked := db.markVpnConfigUpdated timestamp
    .ok { marked with
      routers := db.routers.filter fun router => router.routerId != routerId }.cascade

/-! Credentials. -/

/-- The row of a new credential, its scopes, label and expiry already checked. -/
structure NewCredential where
  credentialId : String
  clientId : Nat
  routerId : Option String
  newRouterId : String
  label : String
  secretDigest : String
  scopes : List String
  expiresAt : Option String

/-- The router of a new credential: one of the client's, or a new one. -/
def assignRouter (env : Environment) (db : Db) (c : NewCredential) (m : PeerMaterial)
    (timestamp : String) : Except String (String × Db) :=
  match c.routerId with
  | none =>
    (db.insertRouter env c.newRouterId c.label c.clientId m timestamp).map (c.newRouterId, ·)
  | some routerId =>
    if (db.findClient c.clientId).isNone then .error "Client does not exist"
    else if !db.routers.any fun router =>
        router.routerId == routerId && router.clientId == c.clientId then
      .error "Router does not belong to client"
    else (db.ensureRouterAmneziaPeer env routerId m timestamp).map (routerId, ·)

def issueRouterCredential (env : Environment) (db : Db) (c : NewCredential) (m : PeerMaterial)
    (timestamp : String) : Except String Db := do
  let (assigned, db) ← db.assignRouter env c m timestamp
  if db.credentials.any fun row => row.credentialId == c.credentialId then
    .error "UNIQUE constraint failed: router_credentials.credential_id"
  else
    return { db with credentials := db.credentials ++ [⟨c.credentialId, assigned, c.clientId, c.label,
      c.secretDigest, c.scopes, true, c.expiresAt, none⟩] }

def updateCredential (db : Db) (credentialId : String) (f : CredentialRow → CredentialRow) : Db :=
  { db with credentials := db.credentials.map fun row =>
      if row.credentialId == credentialId then f row else row }

/-- `rotate_router_credential`; `expired` tells whether an expiry is over or unreadable. -/
def rotateRouterCredential (db : Db) (credentialId secretDigest : String)
    (expired : String → Bool) : Except String Db :=
  match db.credentials.find? fun row => row.credentialId == credentialId with
  | none => .error "Router credential does not exist"
  | some row =>
    if !row.enabled || row.revokedAt.isSome then
      .error "Revoked router credential cannot be rotated"
    else if row.expiresAt.any expired then .error "Expired router credential cannot be rotated"
    else .ok (db.updateCredential credentialId fun row => { row with secretDigest := secretDigest })

def revokeRouterCredential (db : Db) (credentialId timestamp : String) : Except String Db :=
  match db.credentials.find? fun row => row.credentialId == credentialId with
  | none => .error "Router credential does not exist"
  | some _ =>
    .ok (db.updateCredential credentialId fun row =>
      { row with enabled := false, revokedAt := some (row.revokedAt.getD timestamp) })

/-! What a write leaves in the settings. -/

theorem storeSettings_eq (db : Db) (values : List (String × String)) :
    db.storeSettings values =
      { db with settings := (db.storeSettings values).settings } := by
  induction values generalizing db with
  | nil => rfl
  | cons entry values ih =>
    show (db.storeSetting entry.1 entry.2).storeSettings values = _
    rw [ih]
    rfl

theorem lookup_filter {settings : List (String × String)} {key : String} {p : String × String → Bool}
    (h : ∀ value, p (key, value) = true) : (settings.filter p).lookup key = settings.lookup key := by
  induction settings with
  | nil => rfl
  | cons entry settings ih =>
    obtain ⟨k, v⟩ := entry
    by_cases he : key = k
    · subst he
      simp [h]
    · have hb : (key == k) = false := by simpa using he
      by_cases hp : p (k, v) = true
      · simpa [List.filter_cons, List.lookup_cons, hp, hb] using ih
      · simpa [List.filter_cons, List.lookup_cons, hp, hb] using ih

theorem lookup_filter_of_neg {settings : List (String × String)} {key : String}
    {p : String × String → Bool} (h : ∀ value, p (key, value) = false) :
    (settings.filter p).lookup key = none := by
  rw [List.lookup_eq_none_iff]
  intro entry hentry
  have hkept := (List.mem_filter.mp hentry).2
  refine bne_iff_ne.mpr ?_
  rintro rfl
  rw [h] at hkept
  cases hkept

theorem lookup_storeSetting_of_ne {db : Db} {key other : String} (value : String) (h : key ≠ other) :
    (db.storeSetting other value).lookup key = db.lookup key := by
  have hb : (key == other) = false := by simpa using h
  show List.lookup key ((other, value) :: db.settings.filter fun entry => entry.1 != other) = _
  rw [List.lookup_cons, hb]
  exact lookup_filter fun _ => by simpa using h

@[simp] theorem lookup_storeSetting_self {db : Db} (key value : String) :
    (db.storeSetting key value).lookup key = some value := by
  show List.lookup key ((key, value) :: _) = _
  simp

end Db

end Server

end AutoVPN
