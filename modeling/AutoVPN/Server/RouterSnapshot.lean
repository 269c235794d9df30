import AutoVPN.Server.ApplyEndpoint
import AutoVPN.Server.VpnConfig

/-! The snapshot that the server gives to a router, built from the applied
configuration, with its outbounds and its AmneziaWG profiles. -/

namespace AutoVPN

namespace Server

/-- What the profiles take from the environment's settings and from libraries:
`json.dumps` with and without indentation, `strip`, the packing of an import
key, the check of an address and SHA-256. -/
structure ProfileLibrary where
  amneziaPort : Int
  amneziaNetworkPrefix : String
  isIpAddress : String → Bool
  strip : String → String
  dumps : Value → String
  canonicalJson : Value → String
  pack : String → String
  sha256 : String → String

/-- `hysteria_auth` for a client of a captured configuration. -/
def hysteriaAuth (client : VpnClient) (config : CapturedVpnConfig) : Except String String :=
  if config.hysteria.authType = "password" then .ok config.hysteria.password
  else if config.hysteria.authType ≠ "userpass" then
    .error "Unsupported Hysteria authentication mode"
  else .ok ("client-" ++ toString client.id ++ ":" ++ client.hysteriaPassword)

def vlessOutbound (config : CapturedVpnConfig) (client : VpnClient) : Value :=
  .object [("type", .string "vless"), ("tag", .string "vless-reality"),
    ("server", .string config.currentIp), ("server_port", .int config.vless.protocol.port),
    ("uuid", .string client.vlessUuid), ("flow", .string "xtls-rprx-vision"),
    ("tls", .object [("enabled", .bool true), ("server_name", .string config.vless.serverName),
      ("utls", .object [("enabled", .bool true),
        ("fingerprint", .string config.vless.fingerprint)]),
      ("reality", .object [("enabled", .bool true),
        ("public_key", .string config.vless.publicKey),
        ("short_id", .string config.vless.shortId)])])]

def hysteriaOutbound (config : CapturedVpnConfig) (client : VpnClient) : Except String Value := do
  let password ← hysteriaAuth client config
  return .object ([("type", .string "hysteria2"), ("tag", .string "hysteria2"),
    ("server", .string config.currentIp), ("server_port", .int config.hysteria.protocol.port),
    ("password", .string password),
    ("tls", .object [("enabled", .bool true), ("server_name", .string config.vless.serverName),
      ("insecure", .bool true)])] ++
    if config.hysteria.obfsPassword = "" then []
    else [("obfs", .object [("type", .string "salamander"),
      ("password", .string config.hysteria.obfsPassword)])])

section

variable (lib : ProfileLibrary)

/-- `[item.strip() for item in dns.split(",") if item.strip()]`. -/
def dnsServers (dns : String) : List String :=
  ((dns.toList.splitOn ',').map fun item => lib.strip (String.ofList item)).filter (· ≠ "")

def clientAmneziaAddress (clientId : Nat) : Except String String :=
  if clientId + 1 > 254 then
    .error "AMNEZIA_NETWORK_PREFIX supports up to 253 clients in MVP"
  else
    let address := lib.amneziaNetworkPrefix ++ "." ++ toString (clientId + 1)
    if !lib.isIpAddress address then
      .error ("'" ++ address ++ "' does not appear to be an IPv4 or IPv6 address")
    else .ok address

/-- `client["amnezia_ipv4"] or client_amnezia_address(...)`. -/
def amneziaAddress (client : VpnClient) : Except String String :=
  if client.amneziaIpv4 = "" then clientAmneziaAddress lib client.id else .ok client.amneziaIpv4

def endpointPort (config : CapturedVpnConfig) : Int :=
  if config.amnezia.protocol.port = 0 then lib.amneziaPort else config.amnezia.protocol.port

def buildAmneziaClientConfig (config : CapturedVpnConfig) (client : VpnClient) :
    Except String String := do
  let address ← amneziaAddress lib client
  let obfuscation := config.amnezia.obfuscation
  return "[Interface]\n" ++ "PrivateKey = " ++ client.amneziaPrivateKey ++ "\n" ++
    "Address = " ++ address ++ "/32\n" ++ "DNS = " ++ config.amnezia.dns ++ "\n" ++
    "Jc = " ++ toString obfuscation.jc ++ "\n" ++ "Jmin = " ++ toString obfuscation.jmin ++ "\n" ++
    "Jmax = " ++ toString obfuscation.jmax ++ "\n" ++ "S1 = " ++ toString obfuscation.s1 ++ "\n" ++
    "S2 = " ++ toString obfuscation.s2 ++ "\n" ++ "H1 = " ++ toString obfuscation.h1 ++ "\n" ++
    "H2 = " ++ toString obfuscation.h2 ++ "\n" ++ "H3 = " ++ toString obfuscation.h3 ++ "\n" ++
    "H4 = " ++ toString obfuscation.h4 ++ "\n" ++ "\n[Peer]\n" ++
    "PublicKey = " ++ config.amnezia.serverPublicKey ++ "\n" ++
    "PresharedKey = " ++ client.amneziaPresharedKey ++ "\n" ++
    "AllowedIPs = 0.0.0.0/0, ::/0\n" ++
    "Endpoint = " ++ config.currentIp ++ ":" ++ toString (endpointPort lib config) ++ "\n" ++
    "PersistentKeepalive = 25\n"

def profileName (name protocol : String) : String := "[AutoVPN] " ++ name ++ " - " ++ protocol

def awgFields (config : CapturedVpnConfig) (client : VpnClient) (address text : String) :
    List (String × Value) :=
  let obfuscation := config.amnezia.obfuscation
  [("H1", .string (toString obfuscation.h1)), ("H2", .string (toString obfuscation.h2)),
    ("H3", .string (toString obfuscation.h3)), ("H4", .string (toString obfuscation.h4)),
    ("I1", .string ""), ("I2", .string ""), ("I3", .string ""), ("I4", .string ""),
    ("I5", .string ""), ("Jc", .string (toString obfuscation.jc)),
    ("Jmax", .string (toString obfuscation.jmax)), ("Jmin", .string (toString obfuscation.jmin)),
    ("S1", .string (toString obfuscation.s1)), ("S2", .string (toString obfuscation.s2)),
    ("S3", .string "0"), ("S4", .string "0"),
    ("allowed_ips", .array [.string "0.0.0.0/0", .string "::/0"]),
    ("clientId", .string client.amneziaPublicKey), ("client_ip", .string address),
    ("client_priv_key", .string client.amneziaPrivateKey),
    ("client_pub_key", .string client.amneziaPublicKey), ("config", .string text),
    ("hostName", .string config.currentIp), ("mtu", .string "1280"),
    ("persistent_keep_alive", .string "25"), ("port", .int (endpointPort lib config)),
    ("psk_key", .string client.amneziaPresharedKey),
    ("server_pub_key", .string config.amnezia.serverPublicKey)]

/-- `build_amnezia_vpn_key`: the profile as a link for the Amnezia application. -/
def renderAmneziaVpnKey (config : CapturedVpnConfig) (client : VpnClient) :
    Except String String := do
  let text ← buildAmneziaClientConfig lib config client
  let address ← amneziaAddress lib client
  let networkPrefix := if config.amnezia.networkPrefix = "" then lib.amneziaNetworkPrefix
    else config.amnezia.networkPrefix
  let servers := dnsServers lib config.amnezia.dns
  let dns1 := servers[0]?.getD "1.1.1.1"
  let dns2 := servers[1]?.getD dns1
  let awg := awgFields lib config client address text
  let payload : Value := .object [
    ("containers", .array [.object [
      ("awg", .object ((awg.map fun field =>
          if field.1 = "port" then ("port", .string (toString (endpointPort lib config))) else field) ++
        [("last_config", .string (lib.dumps (.object awg))), ("protocol_version", .string "2"),
          ("subnet_address", .string (networkPrefix ++ ".0")), ("transport_proto", .string "udp")])),
      ("container", .string "amnezia-awg2")]]),
    ("defaultContainer", .string "amnezia-awg2"),
    ("description", .string (profileName client.name "amnezia")),
    ("dns1", .string dns1), ("dns2", .string dns2), ("hostName", .string config.currentIp)]
  return "vpn://" ++ lib.pack (lib.dumps payload)

def profileFields (config : CapturedVpnConfig) (client : VpnClient) : List (String × Value) :=
  let obfuscation := config.amnezia.obfuscation
  [("protocol_version", .int 1),
    ("capabilities", .object [("awg_obfuscation_v1", .bool true), ("awg2_i_fields", .bool false),
      ("obfuscation_fields", .array (obfuscationNames.map .string))]),
    ("interface", .object [("private_key", .string client.amneziaPrivateKey),
      ("address", .string (client.amneziaIpv4 ++ "/32")),
      ("dns_servers", .array ((dnsServers lib config.amnezia.dns).map .string))]),
    ("peer", .object [("public_key", .string config.amnezia.serverPublicKey),
      ("preshared_key", .string client.amneziaPresharedKey),
      ("endpoint", .object [("host", .string config.currentIp),
        ("port", .int config.amnezia.protocol.port)]),
      ("persistent_keepalive", .int 25)]),
    ("obfuscation", .object [("Jc", .int obfuscation.jc), ("Jmin", .int obfuscation.jmin),
      ("Jmax", .int obfuscation.jmax), ("S1", .int obfuscation.s1), ("S2", .int obfuscation.s2),
      ("H1", .int obfuscation.h1), ("H2", .int obfuscation.h2), ("H3", .int obfuscation.h3),
      ("H4", .int obfuscation.h4)]),
    ("route_allowed_ips", .array [.string "0.0.0.0/0", .string "::/0"]),
    ("install_routes", .bool false)]

/-- `_amnezia_profile`; the dual response drops the import key of the auxiliary profile. -/
def amneziaProfile (config : CapturedVpnConfig) (client : VpnClient) (auxiliary : Bool) :
    Except String Value := do
  let key ← renderAmneziaVpnKey lib config client
  return .object (profileFields lib config client ++
    if auxiliary then [] else [("legacy_amnezia_vpn_import_key", .string key)])

/-- The row of the applied snapshot with its publication. -/
structure SnapshotHeader where
  revision : Nat
  payloadSha256 : String
  appliedAt : Option String
  publishedAt : Option String

def slot (enabled : Bool) (name : String) (payload : Value) : Value :=
  .object [("enabled", .bool enabled), (name, payload)]

/-- The payload of an enabled protocol; nothing is built for a disabled one. -/
def whenEnabled (enabled : Bool) (payload : Except String Value) : Except String Value :=
  if enabled then payload else .ok .null

/-- `build_router_snapshot_response` and, with `dual`, `build_router_dual_snapshot_response`. -/
def buildRouterSnapshot (dual : Bool) (snapshot : SnapshotHeader) (config : CapturedVpnConfig)
    (client : VpnClient) (routerId : String) : Except String Value := do
  let hysteria2 ← whenEnabled config.hysteria.protocol.enabled (hysteriaOutbound config client)
  let amneziawg ← whenEnabled config.amnezia.protocol.enabled
    (amneziaProfile lib config client false)
  let auxiliary ← match if dual then config.routerAmneziaPeers.find? (fun peer =>
      peer.routerId == routerId && peer.clientId == client.id) else none with
    | none => .ok .null
    | some peer => whenEnabled config.amnezia.protocol.enabled (amneziaProfile lib config
        { client with amneziaPrivateKey := peer.privateKey, amneziaPublicKey := peer.publicKey,
                      amneziaPresharedKey := peer.presharedKey, amneziaIpv4 := peer.ipv4 } true)
  let vless := if config.vless.protocol.enabled then vlessOutbound config client else .null
  return .object [("schema_version", .int (if dual then 4 else 3)),
    ("router_id", .string routerId), ("revision", .int snapshot.revision),
    ("snapshot_sha256", .string snapshot.payloadSha256),
    ("applied_at", optionString snapshot.appliedAt),
    ("published_at", optionString snapshot.publishedAt),
    ("client", .object [("id", .int client.id), ("name", .string client.name)]),
    ("server", .object [("endpoint", .string config.currentIp)]),
    ("protocols", .object ([
      ("vless", slot config.vless.protocol.enabled "outbound" vless),
      ("hysteria2", slot config.hysteria.protocol.enabled "outbound" hysteria2),
      ("amneziawg", slot config.amnezia.protocol.enabled "profile" amneziawg)] ++
      if dual then [("amneziawg_aux", slot (!auxiliary.isNull) "profile" auxiliary)] else []))]

def responseEtag (payload : Value) : String :=
  "\"" ++ lib.sha256 (lib.canonicalJson payload) ++ "\""

inductive SnapshotReply
  | refused (error : RouterApiError)
  | failed (message : String)
  | notModified (etag : String)
  | sent (etag : String) (payload : Value)

structure SnapshotRequest where
  clientId : Nat
  routerId : String
  ifNoneMatch : String

def clientFromAppliedSnapshot (clientId : Nat) (config : CapturedVpnConfig) : Option VpnClient :=
  config.enabledClients.find? fun client => client.id == clientId

/-- The snapshot endpoints, once the request is authorised and the applied
snapshot is loaded. -/
def routerSnapshot (dual : Bool) (snapshot : SnapshotHeader) (config : CapturedVpnConfig)
    (request : SnapshotRequest) : SnapshotReply :=
  match clientFromAppliedSnapshot request.clientId config with
  | none =>
    .refused ⟨409, "client_not_applied",
      "Router credential client is not present in the applied snapshot", none⟩
  | some client =>
    if config.currentIp = "" then
      .refused ⟨503, "snapshot_not_ready", "Applied VPN snapshot has no server endpoint", none⟩
    else
      match buildRouterSnapshot lib dual snapshot config client request.routerId with
      | .error message => .failed message
      | .ok payload =>
        let etag := responseEtag lib payload
        if request.ifNoneMatch.length > 256 then
          .refused ⟨400, "invalid_header", "Conditional header is too long", none⟩
        else if request.ifNoneMatch = etag then .notModified etag
        else .sent etag payload

end

end Server

end AutoVPN
