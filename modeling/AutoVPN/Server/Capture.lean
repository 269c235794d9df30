import AutoVPN.Server.Database

/-! `capture_vpn_config`: the configuration that the database stands for. -/

namespace AutoVPN

namespace Server

namespace Db

section

variable (env : Environment) (db : Db)

/-- `values.get(key, default)`. -/
def value (key default : String) : String := (db.lookup key).getD default

def configuredValue (key default : String) : String :=
  let value := db.value ("config." ++ key) ""
  if value = "" then default else value

def int (text : String) : Except String Int :=
  match env.parseInt text with
  | some n => .ok n
  | none => .error ("invalid literal for int() with base 10: '" ++ text ++ "'")

/-- `_protocol`: an empty port disables a protocol that is not switched explicitly. -/
def protocol (name : String) (defaultPort : Int) : Except String ProtocolConfig := do
  let enabled := match db.lookup ("config." ++ name ++ "_enabled") with
    | some configured => ["1", "true", "yes", "on"].contains (env.lower (env.strip configured))
    | none => db.lookup ("config." ++ name ++ "_port") != some ""
  let rawPort := db.value ("config." ++ name ++ "_port") ""
  let port ← if rawPort = "" then .ok defaultPort else int env rawPort
  return ⟨enabled, port⟩

def captureClients : List VpnClient :=
  ((db.clients.filter fun row => row.deletedAt.isNone).map (·.client)).mergeSort
    fun a b => decide (b.id ≤ a.id)

/-- The peers of the enabled routers of enabled clients. -/
def captureRouterPeers : List RouterAmneziaPeer :=
  (db.peers.filterMap fun peer => do
    let router ← db.routers.find? fun router => router.routerId == peer.routerId
    let row ← db.clients.find? fun row => row.client.id == router.clientId
    if router.enabled && row.client.enabled && row.deletedAt.isNone then
      some ⟨peer.routerId, router.clientId, peer.privateKey, peer.publicKey, peer.presharedKey,
        peer.ipv4⟩
    else none).mergeSort fun a b => decide (a.routerId ≤ b.routerId)

def splitNames (names : String) : List String :=
  ((names.toList.splitOn ',').map fun item => env.strip (String.ofList item)).filter (· ≠ "")

def captureVless : Except String VlessRealityConfig := do
  return {
    protocol := ← db.protocol env "vless" env.vlessPort
    privateKey := db.value "vless.reality_private_key" ""
    publicKey := db.value "vless.reality_public_key" ""
    shortId := db.value "vless.reality_short_id" ""
    target := db.configuredValue "vless_reality_target" env.vlessRealityTarget
    serverNames := splitNames env
      (db.configuredValue "vless_reality_server_names" env.vlessRealityServerNames)
    serverName := db.configuredValue "vless_reality_server_name" env.vlessRealityServerName
    fingerprint := db.configuredValue "vless_reality_fingerprint" env.vlessRealityFingerprint
    spiderX := db.configuredValue "vless_reality_spider_x" env.vlessRealitySpiderX }

def captureHysteria : Except String HysteriaConfig := do
  return {
    protocol := ← db.protocol env "hysteria" env.hysteriaPort
    password := db.value "hysteria.password" ""
    obfsPassword := db.value "hysteria.obfs_password" ""
    authType := "userpass" }

def captureObfuscation : Except String AmneziaObfuscation := do
  return {
    jc := ← int env (db.value "amnezia.jc" "5")
    jmin := ← int env (db.value "amnezia.jmin" "40")
    jmax := ← int env (db.value "amnezia.jmax" "1000")
    s1 := ← int env (db.value "amnezia.s1" "64")
    s2 := ← int env (db.value "amnezia.s2" "128")
    h1 := ← int env (db.value "amnezia.h1" "1")
    h2 := ← int env (db.value "amnezia.h2" "2")
    h3 := ← int env (db.value "amnezia.h3" "3")
    h4 := ← int env (db.value "amnezia.h4" "4") }

def captureAmnezia : Except String AmneziaConfig := do
  return {
    protocol := ← db.protocol env "amnezia" env.amneziaPort
    serverPrivateKey := db.value "amnezia.server_private_key" ""
    serverPublicKey := db.value "amnezia.server_public_key" ""
    obfuscation := ← db.captureObfuscation env
    networkPrefix := db.configuredValue "amnezia_network_prefix" env.amneziaNetworkPrefix
    dns := db.configuredValue "amnezia_dns" env.amneziaDns }

def capture : Except String CapturedVpnConfig := do
  return {
    vless := ← db.captureVless env
    hysteria := ← db.captureHysteria env
    amnezia := ← db.captureAmnezia env
    currentIp := db.value "current_ip" ""
    configUpdatedAt := db.value "vpn.config_updated_at" ""
    clients := db.captureClients
    revision := db.desiredRevision
    routerAmneziaPeers := db.captureRouterPeers }

end

end Db

end Server

end AutoVPN
