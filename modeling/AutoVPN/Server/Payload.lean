import AutoVPN.Server.VpnConfig

/-! The payload of a stored snapshot as the reader of the server takes it, which checks which fields
there are and hardly what they hold, and what a second trip through the writer makes of it. -/

namespace AutoVPN

namespace Value

/-- The truth of a value as the server's language has it. -/
def holds : Value → Bool
  | array items => !items.isEmpty
  | object fields => !fields.isEmpty
  | v => v.truthy

/-- A subscript, which needs a mapping with the key. -/
def item? (v : Value) (key : String) : Option Value :=
  match v with
  | object fields => fields.lookup key
  | _ => none

theorem get_of_item? {v w : Value} {key : String} (h : v.item? key = some w) : v.get key = w := by
  cases v with
  | object fields => exact congrArg (Option.getD · null) h
  | _ => cases h

/-- `dict.get` with a default. -/
def getOr (v : Value) (key : String) (default : Value) : Value :=
  (v.item? key).getD default

/-- What a loop over the value runs over. -/
def iterate : Value → Option (List Value)
  | array items => some items
  | object fields => some (fields.map fun f => string f.1)
  | string s => some (s.toList.map fun c => string c.toString)
  | _ => none

/-- `== 1`. -/
def isOne : Value → Bool
  | int n => n == 1
  | double d => d == 1
  | bool b => b
  | _ => false

end Value

namespace Server

/-- `str`; `repr` gives the texts of numbers with a fraction and of collections. -/
def pyStr (repr : Value → String) : Value → String
  | .string s => s
  | .null => "None"
  | .bool b => if b then "True" else "False"
  | .int n => toString n
  | v => repr v

/-- The decimal integer of a text, with blanks around it, a sign and single underscores. -/
def intOfText (s : String) : Option Int :=
  let body := s.trimAscii.toString.toList
  let unsigned (cs : List Char) : Option Nat :=
    let groups := cs.splitOn '_'
    if groups.all fun g => !g.isEmpty && g.all Char.isDigit then some (digitsValue groups.flatten)
    else none
  match body with
  | '-' :: cs => (unsigned cs).map fun n => -(n : Int)
  | '+' :: cs => (unsigned cs).map Int.ofNat
  | cs => (unsigned cs).map Int.ofNat

/-- `int`. -/
def pyInt : Value → Option Int
  | .int n => some n
  | .bool b => some (if b then 1 else 0)
  | .double d => some (if 0 ≤ d then d.floor else d.ceil)
  | .string s => intOfText s
  | _ => none

def protocolFields : List String := ["enabled", "port"]

def obfuscationFields : List String := ["jc", "jmin", "jmax", "s1", "s2", "h1", "h2", "h3", "h4"]

def clientFields : List String := ["id", "name", "token", "enabled", "vless_uuid",
  "hysteria_password", "amnezia_private_key", "amnezia_public_key", "amnezia_preshared_key",
  "amnezia_ipv4", "created_at"]

def peerFields : List String :=
  ["router_id", "client_id", "private_key", "public_key", "preshared_key", "ipv4"]

/-- A record whose fields hold anything. -/
abbrev Record (names : List String) := { values : List Value // values.length = names.length }

def Record.asdict {names : List String} (r : Record names) : Value := .object (names.zip r.1)

def Record.ofValue (names : List String) (v : Value) : Option (Record names) :=
  if v.hasExactKeys names then some ⟨names.map v.get, List.length_map _⟩ else none

/-- A client's flag, which is its fourth field. -/
def Record.enabled (r : Record clientFields) : Bool := (r.asdict.get "enabled").holds

structure VlessPayload where
  protocol : Record protocolFields
  privateKey : String
  publicKey : String
  shortId : String
  target : String
  serverNames : List Value
  serverName : String
  fingerprint : String
  spiderX : String

structure HysteriaPayload where
  protocol : Record protocolFields
  password : String
  obfsPassword : String
  authType : String

structure AmneziaPayload where
  protocol : Record protocolFields
  serverPrivateKey : String
  serverPublicKey : String
  obfuscation : Record obfuscationFields
  networkPrefix : String
  dns : String

/-- A captured configuration, with the types that the reader makes sure of. -/
structure PayloadConfig where
  currentIp : String
  configUpdatedAt : String
  vless : VlessPayload
  hysteria : HysteriaPayload
  amnezia : AmneziaPayload
  clients : List (Record clientFields)
  revision : Int
  routerAmneziaPeers : List (Record peerFields)

def PayloadConfig.enabledClients (c : PayloadConfig) : List (Record clientFields) :=
  c.clients.filter Record.enabled

def VlessPayload.asdict (v : VlessPayload) : Value :=
  .object [("protocol", v.protocol.asdict), ("private_key", .string v.privateKey),
    ("public_key", .string v.publicKey), ("short_id", .string v.shortId),
    ("target", .string v.target), ("server_names", .array v.serverNames),
    ("server_name", .string v.serverName), ("fingerprint", .string v.fingerprint),
    ("spider_x", .string v.spiderX)]

def HysteriaPayload.asdict (h : HysteriaPayload) : Value :=
  .object [("protocol", h.protocol.asdict), ("password", .string h.password),
    ("obfs_password", .string h.obfsPassword), ("auth_type", .string h.authType)]

def AmneziaPayload.asdict (a : AmneziaPayload) : Value :=
  .object [("protocol", a.protocol.asdict), ("server_private_key", .string a.serverPrivateKey),
    ("server_public_key", .string a.serverPublicKey), ("obfuscation", a.obfuscation.asdict),
    ("network_prefix", .string a.networkPrefix), ("dns", .string a.dns)]

/-- `canonical_vpn_config_json`. -/
def PayloadConfig.canonicalJson (c : PayloadConfig) : Value :=
  .object ([("schema_version", .int 1), ("revision", .int c.revision),
    ("current_ip", .string c.currentIp), ("config_updated_at", .string c.configUpdatedAt),
    ("vless", c.vless.asdict), ("hysteria", c.hysteria.asdict), ("amnezia", c.amnezia.asdict),
    ("clients", .array (c.enabledClients.map Record.asdict))] ++
    if c.routerAmneziaPeers.isEmpty then []
    else [("router_amnezia_peers", .array (c.routerAmneziaPeers.map Record.asdict))])

section

variable (repr : Value → String)

def text (v : Value) (key : String) : Option String := (v.item? key).map (pyStr repr)

def VlessPayload.ofValue (v : Value) : Option VlessPayload := do
  return {
      protocol := ← Record.ofValue protocolFields (← v.item? "protocol")
      privateKey := ← text repr v "private_key"
      publicKey := ← text repr v "public_key"
      shortId := ← text repr v "short_id"
      target := ← text repr v "target"
      serverNames := ← (← v.item? "server_names").iterate
      serverName := ← text repr v "server_name"
      fingerprint := ← text repr v "fingerprint"
      spiderX := ← text repr v "spider_x" }

def HysteriaPayload.ofValue (v : Value) : Option HysteriaPayload := do
  return {
      protocol := ← Record.ofValue protocolFields (← v.item? "protocol")
      password := ← text repr v "password"
      obfsPassword := ← text repr v "obfs_password"
      authType := pyStr repr (v.getOr "auth_type" (.string "password")) }

def AmneziaPayload.ofValue (v : Value) : Option AmneziaPayload := do
  return {
      protocol := ← Record.ofValue protocolFields (← v.item? "protocol")
      serverPrivateKey := ← text repr v "server_private_key"
      serverPublicKey := ← text repr v "server_public_key"
      obfuscation := ← Record.ofValue obfuscationFields (← v.item? "obfuscation")
      networkPrefix := ← text repr v "network_prefix"
      dns := ← text repr v "dns" }

/-- `captured_vpn_config_from_json`, on what `json.loads` gives; `none` where it raises. -/
def PayloadConfig.ofJson (payload : Value) : Option PayloadConfig := do
  if !(payload.getOr "schema_version" .null).isOne then none
  return {
      currentIp := ← text repr payload "current_ip"
      configUpdatedAt := pyStr repr (payload.getOr "config_updated_at" (.string ""))
      vless := ← VlessPayload.ofValue repr (← payload.item? "vless")
      hysteria := ← HysteriaPayload.ofValue repr (← payload.item? "hysteria")
      amnezia := ← AmneziaPayload.ofValue repr (← payload.item? "amnezia")
      clients := ← (← (← payload.item? "clients").iterate).mapM (Record.ofValue clientFields)
      revision := ← pyInt (← payload.item? "revision")
      routerAmneziaPeers := ← (← (payload.getOr "router_amnezia_peers" (.array [])).iterate).mapM
        (Record.ofValue peerFields) }

end

/-! Reading back what was written. -/

theorem map_get_zip {names : List String} {values : List Value} (hnd : names.Nodup)
    (hl : values.length = names.length) :
    names.map (Value.object (names.zip values)).get = values := by
  induction names generalizing values with
  | nil => exact (List.eq_nil_of_length_eq_zero hl).symm
  | cons name names ih =>
    obtain _ | ⟨value, values⟩ := values
    · cases hl
    obtain ⟨hname, hnd⟩ := List.nodup_cons.mp hnd
    have hrest : names.map (Value.object ((name, value) :: names.zip values)).get =
        names.map (Value.object (names.zip values)).get := by
      refine List.map_congr_left fun other hother => ?_
      have hne : (other == name) = false := beq_false_of_ne fun he => hname (he ▸ hother)
      simp only [Value.get, List.lookup_cons, hne]
    rw [List.zip_cons_cons, List.map_cons, hrest, ih hnd (Nat.succ.inj hl)]
    simp only [Value.get, List.lookup_cons, beq_self_eq_true, Option.getD_some]

theorem Record.ofValue_asdict {names : List String} (hnd : names.Nodup) (r : Record names) :
    Record.ofValue names r.asdict = some r := by
  have hkeys : r.asdict.hasExactKeys names = true := by
    simp only [Record.asdict, Value.hasExactKeys, List.map_fst_zip (Nat.le_of_eq r.2.symm),
      List.isPerm_iff, List.Perm.refl]
  rw [Record.ofValue, if_pos hkeys]
  exact congrArg some (Subtype.ext (map_get_zip hnd r.2))

theorem mapM_asdict {names : List String} (hnd : names.Nodup) (rs : List (Record names)) :
    (rs.map Record.asdict).mapM (Record.ofValue names) = some rs :=
  mapM_map_eq (Record.ofValue_asdict hnd) rs

theorem protocolFields_nodup : protocolFields.Nodup := by decide

theorem obfuscationFields_nodup : obfuscationFields.Nodup := by decide

theorem clientFields_nodup : clientFields.Nodup := by decide

theorem peerFields_nodup : peerFields.Nodup := by decide

variable (repr : Value → String)

theorem VlessPayload.ofValue_asdict (v : VlessPayload) :
    VlessPayload.ofValue repr v.asdict = some v := by
  have hread : VlessPayload.ofValue repr v.asdict =
      (Record.ofValue protocolFields v.protocol.asdict).bind fun protocol =>
        some { v with protocol := protocol } := rfl
  rw [hread, Record.ofValue_asdict protocolFields_nodup]
  rfl

theorem HysteriaPayload.ofValue_asdict (h : HysteriaPayload) :
    HysteriaPayload.ofValue repr h.asdict = some h := by
  have hread : HysteriaPayload.ofValue repr h.asdict =
      (Record.ofValue protocolFields h.protocol.asdict).bind fun protocol =>
        some { h with protocol := protocol } := rfl
  rw [hread, Record.ofValue_asdict protocolFields_nodup]
  rfl

theorem AmneziaPayload.ofValue_asdict (a : AmneziaPayload) :
    AmneziaPayload.ofValue repr a.asdict = some a := by
  have hread : AmneziaPayload.ofValue repr a.asdict =
      (Record.ofValue protocolFields a.protocol.asdict).bind fun protocol =>
        (Record.ofValue obfuscationFields a.obfuscation.asdict).bind fun obfuscation =>
          some { a with protocol := protocol, obfuscation := obfuscation } := rfl
  rw [hread, Record.ofValue_asdict protocolFields_nodup,
    Record.ofValue_asdict obfuscationFields_nodup]
  rfl

theorem PayloadConfig.ofJson_canonicalJson (c : PayloadConfig) :
    PayloadConfig.ofJson repr c.canonicalJson = some { c with clients := c.enabledClients } := by
  have hread : PayloadConfig.ofJson repr c.canonicalJson =
      (VlessPayload.ofValue repr c.vless.asdict).bind fun vless =>
        (HysteriaPayload.ofValue repr c.hysteria.asdict).bind fun hysteria =>
          (AmneziaPayload.ofValue repr c.amnezia.asdict).bind fun amnezia =>
            ((c.enabledClients.map Record.asdict).mapM (Record.ofValue clientFields)).bind
              fun clients =>
                ((c.routerAmneziaPeers.map Record.asdict).mapM (Record.ofValue peerFields)).bind
                  fun peers => some { c with
                    vless := vless, hysteria := hysteria, amnezia := amnezia, clients := clients,
                    routerAmneziaPeers := peers } := by
    cases hp : c.routerAmneziaPeers <;>
      · rw [PayloadConfig.canonicalJson, hp]
        rfl
  rw [hread, VlessPayload.ofValue_asdict, HysteriaPayload.ofValue_asdict,
    AmneziaPayload.ofValue_asdict, mapM_asdict clientFields_nodup, mapM_asdict peerFields_nodup]
  rfl

theorem PayloadConfig.canonicalJson_enabled (c : PayloadConfig) :
    { c with clients := c.enabledClients }.canonicalJson = c.canonicalJson := by
  have hfilter : { c with clients := c.enabledClients }.enabledClients = c.enabledClients :=
    (List.filter_filter ..).trans (congrArg (List.filter · c.clients)
      (funext fun r => Bool.and_self r.enabled))
  simp only [PayloadConfig.canonicalJson, hfilter]

/-! The payload of a configuration that was read from the database. -/

def ProtocolConfig.record (p : ProtocolConfig) : Record protocolFields :=
  ⟨[.bool p.enabled, .int p.port], rfl⟩

def AmneziaObfuscation.record (o : AmneziaObfuscation) : Record obfuscationFields :=
  ⟨[.int o.jc, .int o.jmin, .int o.jmax, .int o.s1, .int o.s2, .int o.h1, .int o.h2, .int o.h3,
    .int o.h4], rfl⟩

def VpnClient.record (c : VpnClient) : Record clientFields :=
  ⟨[.int c.id, .string c.name, .string c.token, .bool c.enabled, .string c.vlessUuid,
    .string c.hysteriaPassword, .string c.amneziaPrivateKey, .string c.amneziaPublicKey,
    .string c.amneziaPresharedKey, .string c.amneziaIpv4, .string c.createdAt], rfl⟩

def RouterAmneziaPeer.record (p : RouterAmneziaPeer) : Record peerFields :=
  ⟨[.string p.routerId, .int p.clientId, .string p.privateKey, .string p.publicKey,
    .string p.presharedKey, .string p.ipv4], rfl⟩

def CapturedVpnConfig.payload (c : CapturedVpnConfig) : PayloadConfig where
  currentIp := c.currentIp
  configUpdatedAt := c.configUpdatedAt
  vless := {
    protocol := c.vless.protocol.record
    privateKey := c.vless.privateKey
    publicKey := c.vless.publicKey
    shortId := c.vless.shortId
    target := c.vless.target
    serverNames := c.vless.serverNames.map .string
    serverName := c.vless.serverName
    fingerprint := c.vless.fingerprint
    spiderX := c.vless.spiderX }
  hysteria := {
    protocol := c.hysteria.protocol.record
    password := c.hysteria.password
    obfsPassword := c.hysteria.obfsPassword
    authType := c.hysteria.authType }
  amnezia := {
    protocol := c.amnezia.protocol.record
    serverPrivateKey := c.amnezia.serverPrivateKey
    serverPublicKey := c.amnezia.serverPublicKey
    obfuscation := c.amnezia.obfuscation.record
    networkPrefix := c.amnezia.networkPrefix
    dns := c.amnezia.dns }
  clients := c.clients.map VpnClient.record
  revision := c.revision
  routerAmneziaPeers := c.routerAmneziaPeers.map RouterAmneziaPeer.record

theorem VpnClient.asdict_record (c : VpnClient) : c.record.asdict = c.asdict := rfl

theorem RouterAmneziaPeer.asdict_record (p : RouterAmneziaPeer) : p.record.asdict = p.asdict := rfl

theorem CapturedVpnConfig.payload_enabledClients (c : CapturedVpnConfig) :
    c.payload.enabledClients = c.enabledClients.map VpnClient.record :=
  List.filter_map

theorem CapturedVpnConfig.payload_canonicalJson (c : CapturedVpnConfig) :
    c.payload.canonicalJson = canonicalVpnConfigJson c := by
  have hclients : c.payload.enabledClients.map Record.asdict =
      c.enabledClients.map VpnClient.asdict := by
    rw [c.payload_enabledClients, List.map_map]
    rfl
  have hpeers : c.payload.routerAmneziaPeers.map Record.asdict =
      c.routerAmneziaPeers.map RouterAmneziaPeer.asdict := List.map_map
  have hempty : c.payload.routerAmneziaPeers.isEmpty = c.routerAmneziaPeers.isEmpty :=
    List.isEmpty_map
  rw [PayloadConfig.canonicalJson, canonicalVpnConfigJson, hclients, hpeers, hempty]
  rfl

theorem PayloadConfig.ofJson_captured (c : CapturedVpnConfig) :
    PayloadConfig.ofJson repr (canonicalVpnConfigJson c) =
      (capturedVpnConfigFromJson (canonicalVpnConfigJson c)).map CapturedVpnConfig.payload := by
  rw [capturedVpnConfigFromJson_canonical, Option.map_some, ← c.payload_canonicalJson,
    PayloadConfig.ofJson_canonicalJson, c.payload_enabledClients]
  rfl

/-! What a payload of an older server lacks. -/

theorem authType_of_legacy {v : Value} {h : HysteriaPayload}
    (hread : HysteriaPayload.ofValue repr v = some h) (habsent : v.item? "auth_type" = none) :
    h.authType = "password" := by
  simp only [HysteriaPayload.ofValue, Option.bind_eq_bind, Option.bind_eq_some_iff,
    Option.pure_def, Option.some.injEq] at hread
  obtain ⟨_, _, _, _, _, _, _, _, rfl⟩ := hread
  simp only [Value.getOr, habsent, Option.getD_none, pyStr]

theorem PayloadConfig.ofJson_parts {p : Value} {c : PayloadConfig}
    (hread : PayloadConfig.ofJson repr p = some c) :
    (∃ hysteria, p.item? "hysteria" = some hysteria ∧
      HysteriaPayload.ofValue repr hysteria = some c.hysteria) ∧
    ∃ peers, (p.getOr "router_amnezia_peers" (.array [])).iterate = some peers ∧
      peers.mapM (Record.ofValue peerFields) = some c.routerAmneziaPeers := by
  cases hschema : (p.getOr "schema_version" .null).isOne with
  | false => simp [PayloadConfig.ofJson, hschema] at hread
  | true =>
    simp only [PayloadConfig.ofJson, hschema, Bool.not_true, Bool.false_eq_true, if_false,
      Option.bind_eq_bind, Option.bind_eq_some_iff, Option.pure_def,
      Option.some.injEq] at hread
    obtain ⟨_, _, _, _, _, _, hysteria, hitem, _, hvalue, _, _, _, _, _, _, _, _, _, _, _, _, _, _,
      peers, hpeers, _, hrecords, rfl⟩ := hread
    exact ⟨⟨hysteria, hitem, hvalue⟩, peers, hpeers, hrecords⟩

theorem routerAmneziaPeers_of_legacy {p : Value} {c : PayloadConfig}
    (hread : PayloadConfig.ofJson repr p = some c)
    (habsent : p.item? "router_amnezia_peers" = none) : c.routerAmneziaPeers = [] := by
  obtain ⟨-, peers, hpeers, hrecords⟩ := PayloadConfig.ofJson_parts repr hread
  simp only [Value.getOr, habsent, Option.getD_none, Value.iterate, Option.some.injEq] at hpeers
  subst hpeers
  exact (Option.some.inj hrecords).symm

/-- What the writer makes of a configuration reads back as the configuration with its enabled
clients, and what it makes of any payload that reads, of an older server also, no longer changes on
a second trip. -/
theorem canonical_json_round_trip :
    (∀ c : CapturedVpnConfig, PayloadConfig.ofJson repr (canonicalVpnConfigJson c) =
      some { c with clients := c.enabledClients }.payload) ∧
    (∀ c : PayloadConfig, PayloadConfig.ofJson repr c.canonicalJson =
      some { c with clients := c.enabledClients }) ∧
    (∀ p c, PayloadConfig.ofJson repr p = some c →
      ∃ c', PayloadConfig.ofJson repr c.canonicalJson = some c' ∧
        c'.canonicalJson = c.canonicalJson) ∧
    ∀ p c, PayloadConfig.ofJson repr p = some c →
      ((p.get "hysteria").item? "auth_type" = none → c.hysteria.authType = "password") ∧
      (p.item? "router_amnezia_peers" = none → c.routerAmneziaPeers = []) := by
  refine ⟨fun c => ?_, PayloadConfig.ofJson_canonicalJson repr, fun p c _ =>
    ⟨_, c.ofJson_canonicalJson repr, c.canonicalJson_enabled⟩, fun p c hread =>
    ⟨fun habsent => ?_, routerAmneziaPeers_of_legacy repr hread⟩⟩
  · rw [PayloadConfig.ofJson_captured, capturedVpnConfigFromJson_canonical, Option.map_some]
  · obtain ⟨⟨hysteria, hitem, hvalue⟩, -⟩ := PayloadConfig.ofJson_parts repr hread
    exact authType_of_legacy repr hvalue (Value.get_of_item? hitem ▸ habsent)

namespace LegacySample

def protocol (port : Int) : Value := .object [("enabled", .bool true), ("port", .int port)]

def texts (names : List String) : List (String × Value) := names.map fun name => (name, .string name)

/-- A payload of a server that knew neither of the authentication of each client nor of routers. -/
def payload : Value := .object [("schema_version", .int 1), ("revision", .int 3),
  ("current_ip", .string "192.0.2.1"), ("config_updated_at", .string ""),
  ("vless", .object ([("protocol", protocol 443), ("server_names", .array [.string "example.com"])] ++
    texts ["private_key", "public_key", "short_id", "target", "server_name", "fingerprint",
      "spider_x"])),
  ("hysteria", .object (("protocol", protocol 8443) :: texts ["password", "obfs_password"])),
  ("amnezia", .object ([("protocol", protocol 51820),
    ("obfuscation", .object (obfuscationFields.map fun name => (name, .int 5)))] ++
    texts ["server_private_key", "server_public_key", "network_prefix", "dns"])),
  ("clients", .array [.object ([("id", .int 1), ("enabled", .bool true)] ++
    texts (clientFields.filter fun name => name ≠ "id" && name ≠ "enabled"))])]

end LegacySample

open LegacySample in
theorem canonical_json_round_trip_legacy :
    ∃ c, PayloadConfig.ofJson (fun _ => "") payload = some c ∧ c.clients.length = 1 ∧
      c.hysteria.authType = "password" ∧ c.routerAmneziaPeers = [] ∧
      ∃ c', PayloadConfig.ofJson (fun _ => "") c.canonicalJson = some c' ∧
        c'.canonicalJson = c.canonicalJson := by
  have hread : (PayloadConfig.ofJson (fun _ => "") payload).map (·.clients.length) = some 1 := by
    decide +kernel
  obtain ⟨c, hc, hlength⟩ := Option.map_eq_some_iff.mp hread
  obtain ⟨-, -, hagain, hlegacy⟩ := canonical_json_round_trip fun _ => ""
  obtain ⟨hauth, hpeers⟩ := hlegacy payload c hc
  exact ⟨c, hc, hlength, hauth rfl, hpeers rfl, hagain payload c hc⟩

end Server

end AutoVPN
