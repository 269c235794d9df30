import AutoVPN.Lib.Value

/-! The captured VPN configuration and its canonical JSON, which is the payload
of a stored snapshot. -/

namespace AutoVPN

namespace Server

structure ProtocolConfig where
  enabled : Bool
  port : Int
  deriving DecidableEq

structure VlessRealityConfig where
  protocol : ProtocolConfig
  privateKey : String
  publicKey : String
  shortId : String
  target : String
  serverNames : List String
  serverName : String
  fingerprint : String
  spiderX : String
  deriving DecidableEq

structure HysteriaConfig where
  protocol : ProtocolConfig
  password : String
  obfsPassword : String
  authType : String
  deriving DecidableEq

structure AmneziaObfuscation where
  jc : Int
  jmin : Int
  jmax : Int
  s1 : Int
  s2 : Int
  h1 : Int
  h2 : Int
  h3 : Int
  h4 : Int
  deriving DecidableEq

structure AmneziaConfig where
  protocol : ProtocolConfig
  serverPrivateKey : String
  serverPublicKey : String
  obfuscation : AmneziaObfuscation
  networkPrefix : String
  dns : String
  deriving DecidableEq

structure VpnClient where
  id : Nat
  name : String
  token : String
  enabled : Bool
  vlessUuid : String
  hysteriaPassword : String
  amneziaPrivateKey : String
  amneziaPublicKey : String
  amneziaPresharedKey : String
  amneziaIpv4 : String
  createdAt : String
  deriving DecidableEq

/-- The auxiliary identity of a router. -/
structure RouterAmneziaPeer where
  routerId : String
  clientId : Nat
  privateKey : String
  publicKey : String
  presharedKey : String
  ipv4 : String
  deriving DecidableEq

structure CapturedVpnConfig where
  currentIp : String
  configUpdatedAt : String
  vless : VlessRealityConfig
  hysteria : HysteriaConfig
  amnezia : AmneziaConfig
  clients : List VpnClient
  revision : Nat
  routerAmneziaPeers : List RouterAmneziaPeer
  deriving DecidableEq

def CapturedVpnConfig.enabledClients (c : CapturedVpnConfig) : List VpnClient :=
  c.clients.filter (·.enabled)

/-! `asdict` of each record. -/

def ProtocolConfig.asdict (p : ProtocolConfig) : Value :=
  .object [("enabled", .bool p.enabled), ("port", .int p.port)]

def VlessRealityConfig.asdict (v : VlessRealityConfig) : Value :=
  .object [("protocol", v.protocol.asdict), ("private_key", .string v.privateKey),
    ("public_key", .string v.publicKey), ("short_id", .string v.shortId),
    ("target", .string v.target), ("server_names", .array (v.serverNames.map .string)),
    ("server_name", .string v.serverName), ("fingerprint", .string v.fingerprint),
    ("spider_x", .string v.spiderX)]

def HysteriaConfig.asdict (h : HysteriaConfig) : Value :=
  .object [("protocol", h.protocol.asdict), ("password", .string h.password),
    ("obfs_password", .string h.obfsPassword), ("auth_type", .string h.authType)]

def AmneziaObfuscation.asdict (o : AmneziaObfuscation) : Value :=
  .object [("jc", .int o.jc), ("jmin", .int o.jmin), ("jmax", .int o.jmax), ("s1", .int o.s1),
    ("s2", .int o.s2), ("h1", .int o.h1), ("h2", .int o.h2), ("h3", .int o.h3), ("h4", .int o.h4)]

def AmneziaConfig.asdict (a : AmneziaConfig) : Value :=
  .object [("protocol", a.protocol.asdict), ("server_private_key", .string a.serverPrivateKey),
    ("server_public_key", .string a.serverPublicKey), ("obfuscation", a.obfuscation.asdict),
    ("network_prefix", .string a.networkPrefix), ("dns", .string a.dns)]

def VpnClient.asdict (c : VpnClient) : Value :=
  .object [("id", .int c.id), ("name", .string c.name), ("token", .string c.token),
    ("enabled", .bool c.enabled), ("vless_uuid", .string c.vlessUuid),
    ("hysteria_password", .string c.hysteriaPassword),
    ("amnezia_private_key", .string c.amneziaPrivateKey),
    ("amnezia_public_key", .string c.amneziaPublicKey),
    ("amnezia_preshared_key", .string c.amneziaPresharedKey),
    ("amnezia_ipv4", .string c.amneziaIpv4), ("created_at", .string c.createdAt)]

def RouterAmneziaPeer.asdict (p : RouterAmneziaPeer) : Value :=
  .object [("router_id", .string p.routerId), ("client_id", .int p.clientId),
    ("private_key", .string p.privateKey), ("public_key", .string p.publicKey),
    ("preshared_key", .string p.presharedKey), ("ipv4", .string p.ipv4)]

/-- `canonical_vpn_config_json`, as the value that `json.dumps` prints. -/
def canonicalVpnConfigJson (c : CapturedVpnConfig) : Value :=
  .object ([("schema_version", .int 1), ("revision", .int c.revision),
    ("current_ip", .string c.currentIp), ("config_updated_at", .string c.configUpdatedAt),
    ("vless", c.vless.asdict), ("hysteria", c.hysteria.asdict), ("amnezia", c.amnezia.asdict),
    ("clients", .array (c.enabledClients.map VpnClient.asdict))] ++
    if c.routerAmneziaPeers.isEmpty then []
    else [("router_amnezia_peers", .array (c.routerAmneziaPeers.map RouterAmneziaPeer.asdict))])

end Server

/-! Readers of single properties. -/

namespace Value

def bool? : Value → Option Bool
  | bool b => some b
  | _ => none

def int? : Value → Option Int
  | int n => some n
  | _ => none

def nat? : Value → Option Nat
  | int (.ofNat n) => some n
  | _ => none

def string? : Value → Option String
  | string s => some s
  | _ => none

def array? : Value → Option (List Value)
  | array items => some items
  | _ => none

@[simp] theorem bool?_bool (b : Bool) : (bool b).bool? = some b := rfl

@[simp] theorem int?_int (n : Int) : (int n).int? = some n := rfl

@[simp] theorem nat?_int (n : Nat) : (int n).nat? = some n := rfl

@[simp] theorem string?_string (s : String) : (string s).string? = some s := rfl

@[simp] theorem array?_array (items : List Value) : (array items).array? = some items := rfl

end Value

namespace Server

def readProtocol (v : Value) : Option ProtocolConfig := do
  return ⟨← (v.get "enabled").bool?, ← (v.get "port").int?⟩

def readVless (v : Value) : Option VlessRealityConfig := do
  return {
      protocol := ← readProtocol (v.get "protocol")
      privateKey := ← (v.get "private_key").string?
      publicKey := ← (v.get "public_key").string?
      shortId := ← (v.get "short_id").string?
      target := ← (v.get "target").string?
      serverNames := ← (← (v.get "server_names").array?).mapM Value.string?
      serverName := ← (v.get "server_name").string?
      fingerprint := ← (v.get "fingerprint").string?
      spiderX := ← (v.get "spider_x").string? }

/-- Historical payloads have no `auth_type`; they were deployed with shared auth. -/
def readHysteria (v : Value) : Option HysteriaConfig := do
  return {
      protocol := ← readProtocol (v.get "protocol")
      password := ← (v.get "password").string?
      obfsPassword := ← (v.get "obfs_password").string?
      authType := ← if (v.get "auth_type").isNull then some "password"
        else (v.get "auth_type").string? }

def readObfuscation (v : Value) : Option AmneziaObfuscation := do
  return {
      jc := ← (v.get "jc").int?
      jmin := ← (v.get "jmin").int?
      jmax := ← (v.get "jmax").int?
      s1 := ← (v.get "s1").int?
      s2 := ← (v.get "s2").int?
      h1 := ← (v.get "h1").int?
      h2 := ← (v.get "h2").int?
      h3 := ← (v.get "h3").int?
      h4 := ← (v.get "h4").int? }

def readAmnezia (v : Value) : Option AmneziaConfig := do
  return {
      protocol := ← readProtocol (v.get "protocol")
      serverPrivateKey := ← (v.get "server_private_key").string?
      serverPublicKey := ← (v.get "server_public_key").string?
      obfuscation := ← readObfuscation (v.get "obfuscation")
      networkPrefix := ← (v.get "network_prefix").string?
      dns := ← (v.get "dns").string? }

def readClient (v : Value) : Option VpnClient := do
  return {
      id := ← (v.get "id").nat?
      name := ← (v.get "name").string?
      token := ← (v.get "token").string?
      enabled := ← (v.get "enabled").bool?
      vlessUuid := ← (v.get "vless_uuid").string?
      hysteriaPassword := ← (v.get "hysteria_password").string?
      amneziaPrivateKey := ← (v.get "amnezia_private_key").string?
      amneziaPublicKey := ← (v.get "amnezia_public_key").string?
      amneziaPresharedKey := ← (v.get "amnezia_preshared_key").string?
      amneziaIpv4 := ← (v.get "amnezia_ipv4").string?
      createdAt := ← (v.get "created_at").string? }

def readPeer (v : Value) : Option RouterAmneziaPeer := do
  return {
      routerId := ← (v.get "router_id").string?
      clientId := ← (v.get "client_id").nat?
      privateKey := ← (v.get "private_key").string?
      publicKey := ← (v.get "public_key").string?
      presharedKey := ← (v.get "preshared_key").string?
      ipv4 := ← (v.get "ipv4").string? }

def absentAs (default v : Value) : Value := if v.isNull then default else v

/-- `captured_vpn_config_from_json`, on the parsed payload. -/
def capturedVpnConfigFromJson (payload : Value) : Option CapturedVpnConfig := do
  if !(payload.get "schema_version").looseEq (.int 1) then none
  return {
      currentIp := ← (payload.get "current_ip").string?
      configUpdatedAt := ← (absentAs (.string "") (payload.get "config_updated_at")).string?
      vless := ← readVless (payload.get "vless")
      hysteria := ← readHysteria (payload.get "hysteria")
      amnezia := ← readAmnezia (payload.get "amnezia")
      clients := ← (← (payload.get "clients").array?).mapM readClient
      revision := ← (payload.get "revision").nat?
      routerAmneziaPeers :=
        ← (← (absentAs (.array []) (payload.get "router_amnezia_peers")).array?).mapM readPeer }

/-! Reading back what was written. -/

theorem mapM_map_eq {α β : Type} {f : α → β} {g : β → Option α} (h : ∀ a, g (f a) = some a)
    (as : List α) : (as.map f).mapM g = some as := by
  induction as with
  | nil => rfl
  | cons a as ih => simp [h, ih]

theorem readVless_asdict (v : VlessRealityConfig) : readVless v.asdict = some v := by
  have hnames : (v.serverNames.map Value.string).mapM Value.string? = some v.serverNames :=
    mapM_map_eq Value.string?_string v.serverNames
  have hread : readVless v.asdict = (((v.serverNames.map Value.string).mapM Value.string?).bind
    fun names => some { v with serverNames := names }) := rfl
  rw [hread, hnames]
  rfl

theorem readClient_asdict (c : VpnClient) : readClient c.asdict = some c := rfl

theorem readPeer_asdict (p : RouterAmneziaPeer) : readPeer p.asdict = some p := rfl

theorem capturedVpnConfigFromJson_canonical (c : CapturedVpnConfig) :
    capturedVpnConfigFromJson (canonicalVpnConfigJson c) =
      some { c with clients := c.enabledClients } := by
  have hclients : (c.enabledClients.map VpnClient.asdict).mapM readClient =
      some c.enabledClients := mapM_map_eq readClient_asdict c.enabledClients
  have hpeers : (c.routerAmneziaPeers.map RouterAmneziaPeer.asdict).mapM readPeer =
      some c.routerAmneziaPeers := mapM_map_eq readPeer_asdict c.routerAmneziaPeers
  have hread : capturedVpnConfigFromJson (canonicalVpnConfigJson c) =
      (readVless c.vless.asdict).bind fun vless =>
        ((c.enabledClients.map VpnClient.asdict).mapM readClient).bind fun clients =>
          ((absentAs (.array []) ((canonicalVpnConfigJson c).get "router_amnezia_peers")).array?.bind
            fun peers => (peers.mapM readPeer).bind fun peers =>
              some { c with vless := vless, clients := clients, routerAmneziaPeers := peers }) := by
    cases hp : c.routerAmneziaPeers <;> rfl
  rw [hread, readVless_asdict, hclients]
  cases hp : c.routerAmneziaPeers with
  | nil =>
    have hnone : (canonicalVpnConfigJson c).get "router_amnezia_peers" = .null := by
      rw [canonicalVpnConfigJson, hp]
      rfl
    rw [hnone]
    rfl
  | cons peer peers =>
    have hsome : (canonicalVpnConfigJson c).get "router_amnezia_peers" =
        .array (c.routerAmneziaPeers.map RouterAmneziaPeer.asdict) := by
      rw [canonicalVpnConfigJson, hp]
      rfl
    rw [hsome]
    simp only [Option.bind_some, absentAs, Value.isNull, Bool.false_eq_true, if_false,
      Value.array?_array, hpeers, ← hp]

end Server

end AutoVPN
