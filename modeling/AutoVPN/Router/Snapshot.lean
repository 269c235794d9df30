import AutoVPN.Lib.Value

/-! Validation of a router snapshot: `lanes.validatePair` and
`state.validateSnapshot` with the paths and codes they report. -/

namespace AutoVPN

structure SchemaError where
  path : String
  code : String
  deriving DecidableEq

def addError (failed : Bool) (path code : String) : List SchemaError :=
  if failed then [⟨path, code⟩] else []

namespace Lanes

def keyPattern : Pattern :=
  [.exactly (alphanumericOr ['+', '/']) 43, .char '=']

def addressPattern : Pattern :=
  [.many Char.isDigit 1, .char '.', .many Char.isDigit 1, .char '.', .many Char.isDigit 1,
    .char '.', .many Char.isDigit 1, .char '/', .char '3', .char '2']

def address (v : Value) : Bool :=
  match v with
  | .string s =>
    addressPattern.matches s &&
      (((s.toList.takeWhile (· != '/')).splitOn '.').take 4).all fun part =>
        decide (digitsValue part ≤ 255) && (decide (part.length ≤ 1) || part.head? != some '0')
  | _ => false

/-- `none` for an absent profile, `some none` for an unusable one. -/
def identity (profile : Value) : Option (Option (Value × Value)) :=
  if profile.isNull then none
  else
    let interface := profile.get "interface"
    if !profile.isObject || !interface.isObject ||
        !(interface.get "private_key").matches keyPattern || !address (interface.get "address") then
      some none
    else some (some (interface.get "private_key", interface.get "address"))

/-- The code of the failure, when the two profiles may not be used together. -/
def validatePair (primaryAwg secondaryAwg : Value) : Option String :=
  match identity primaryAwg, identity secondaryAwg with
  | some none, _ => some "invalid_awg_lane_profile"
  | _, some none => some "invalid_awg_lane_profile"
  | some (some (primaryKey, primaryAddress)), some (some (secondaryKey, secondaryAddress)) =>
    if primaryKey.looseEq secondaryKey then some "shared_awg_private_key"
    else if primaryAddress.looseEq secondaryAddress then some "shared_awg_address"
    else none
  | _, _ => none

end Lanes

/-! The patterns that state.uc and journal.uc share. -/

def etagPattern : Pattern := [.char '"', .exactly isLowerHex 64, .char '"']

def sha256Pattern : Pattern := [.exactly isLowerHex 64]

def routerIdPattern : Pattern := [.between (alphanumericOr ['_', '-']) 8 64]

def uuidPattern : Pattern :=
  [.exactly isHex 8, .char '-', .exactly isHex 4, .char '-', .exactly isHex 4, .char '-',
    .exactly isHex 4, .char '-', .exactly isHex 12]

def codePattern : Pattern := [.between isCodeChar 1 64]

def errorPathPattern : Pattern :=
  [.char '$', .between (alphanumericOr ['_', '.', '[', ']', '-']) 0 255]

def profilePattern : Pattern :=
  [.exactly isAlphanumeric 1, .between (alphanumericOr ['_', '.', ':', '-']) 0 63]

def idempotencyKeyPattern : Pattern :=
  [.exactly isAlphanumeric 1, .between (alphanumericOr ['.', '_', '~', '-']) 0 127]

def validateTls (tls : Value) (path : String) (realityRequired : Bool) : List SchemaError :=
  let expected := if realityRequired then ["enabled", "server_name", "utls", "reality"]
    else ["enabled", "server_name", "insecure"]
  if !tls.hasExactKeys expected then addError true path "invalid_schema"
  else
    let utls := tls.get "utls"
    let reality := tls.get "reality"
    addError (!(tls.get "enabled").isTrue || !(tls.get "server_name").isString 1 253)
      path "invalid_tls" ++
    if !realityRequired then
      addError (!(tls.get "insecure").isBool) (path ++ ".insecure") "invalid_type"
    else
      addError (!utls.hasExactKeys ["enabled", "fingerprint"] || !(utls.get "enabled").isTrue ||
        !(utls.get "fingerprint").isString 1 64) (path ++ ".utls") "invalid_schema" ++
      addError (!reality.hasExactKeys ["enabled", "public_key", "short_id"] ||
        !(reality.get "enabled").isTrue || !(reality.get "public_key").isString 1 256 ||
        !(reality.get "short_id").isString 1 32) (path ++ ".reality") "invalid_schema"

def validateVless (value endpoint : Value) : List SchemaError :=
  let path := "$.protocols.vless.outbound"
  if !value.hasExactKeys ["type", "tag", "server", "server_port", "uuid", "flow", "tls"] then
    addError true path "invalid_schema"
  else
    addError (!(value.get "type").is "vless" || !(value.get "tag").is "vless-reality" ||
      !(value.get "server").looseEq endpoint) path "invalid_identity" ++
    addError (!(value.get "server_port").isInteger 1 65535) (path ++ ".server_port")
      "invalid_port" ++
    addError (!(value.get "uuid").matches uuidPattern) (path ++ ".uuid") "invalid_uuid" ++
    addError (!(value.get "flow").is "xtls-rprx-vision") (path ++ ".flow") "unsupported_flow" ++
    validateTls (value.get "tls") "$.protocols.vless.outbound.tls" true

def validateHysteria (value endpoint : Value) : List SchemaError :=
  let path := "$.protocols.hysteria2.outbound"
  let obfs := value.get "obfs"
  let expected := ["type", "tag", "server", "server_port", "password", "tls"] ++
    if obfs.isNull then [] else ["obfs"]
  if !value.isObject || !value.hasExactKeys expected then addError true path "invalid_schema"
  else
    addError (!(value.get "type").is "hysteria2" || !(value.get "tag").is "hysteria2" ||
      !(value.get "server").looseEq endpoint) path "invalid_identity" ++
    addError (!(value.get "server_port").isInteger 1 65535 ||
      !(value.get "password").isString 1 512) path "invalid_endpoint" ++
    validateTls (value.get "tls") "$.protocols.hysteria2.outbound.tls" false ++
    addError (!obfs.isNull && (!obfs.hasExactKeys ["type", "password"] ||
      !(obfs.get "type").is "salamander" || !(obfs.get "password").isString 1 512))
      (path ++ ".obfs") "invalid_schema"

def obfuscationNames : List String := ["Jc", "Jmin", "Jmax", "S1", "S2", "H1", "H2", "H3", "H4"]

def obfuscationPath (name : String) : String :=
  "$.protocols.amneziawg.profile.obfuscation." ++ name

def validateObfuscation (obfuscation : Value) : List SchemaError :=
  if !obfuscation.hasExactKeys obfuscationNames then
    addError true "$.protocols.amneziawg.profile.obfuscation" "invalid_schema"
  else
    obfuscation.fields.flatMap fun (name, value) =>
      addError (!value.isInteger 0 4294967295) (obfuscationPath name) "invalid_integer"

def validateAwg (value endpoint : Value) (auxiliary : Bool) : List SchemaError :=
  let path := "$.protocols.amneziawg.profile"
  let expected := ["protocol_version", "capabilities", "interface", "peer", "obfuscation",
    "route_allowed_ips", "install_routes"] ++
    if auxiliary then [] else ["legacy_amnezia_vpn_import_key"]
  if !value.hasExactKeys expected then addError true path "invalid_schema"
  else
    let routes := value.get "route_allowed_ips"
    let capabilities := value.get "capabilities"
    let interface := value.get "interface"
    let peer := value.get "peer"
    addError (!(value.get "protocol_version").looseEq (.int 1) ||
      !(value.get "install_routes").isFalse || !routes.isArray || routes.items.length != 2 ||
      !(routes.item 0).is "0.0.0.0/0" || !(routes.item 1).is "::/0")
      path "unsupported_profile" ++
    addError (!capabilities.hasExactKeys
        ["awg_obfuscation_v1", "awg2_i_fields", "obfuscation_fields"] ||
      !(capabilities.get "awg_obfuscation_v1").isTrue ||
      !(capabilities.get "awg2_i_fields").isFalse ||
      !(capabilities.get "obfuscation_fields").isArray) (path ++ ".capabilities")
      "invalid_schema" ++
    addError (!interface.hasExactKeys ["private_key", "address", "dns_servers"] ||
      !(interface.get "private_key").isString 1 512 || !(interface.get "address").isString 1 64 ||
      !(interface.get "dns_servers").isArray) (path ++ ".interface") "invalid_schema" ++
    addError (!peer.hasExactKeys
        ["public_key", "preshared_key", "endpoint", "persistent_keepalive"] ||
      !(peer.get "public_key").isString 1 512 || !(peer.get "preshared_key").isString 1 512 ||
      !(peer.get "persistent_keepalive").isInteger 0 65535 ||
      !(peer.get "endpoint").hasExactKeys ["host", "port"] ||
      !((peer.get "endpoint").get "host").looseEq endpoint ||
      !((peer.get "endpoint").get "port").isInteger 1 65535) (path ++ ".peer") "invalid_schema" ++
    validateObfuscation (value.get "obfuscation") ++
    addError (!auxiliary && !(value.get "legacy_amnezia_vpn_import_key").isString 1 16384)
      (path ++ ".legacy_amnezia_vpn_import_key") "invalid_string"

/-- The errors of a protocol slot, and whether its payload is to be checked. -/
def validateProtocolSlot (slot : Value) (payloadName : String) : List SchemaError × Bool :=
  let enabled := slot.get "enabled"
  let payload := slot.get payloadName
  if !slot.hasExactKeys ["enabled", payloadName] || !enabled.isBool then
    (addError true "$.protocols" "invalid_schema", false)
  else
    (addError (!enabled.isTrue && !payload.isNull) ("$.protocols." ++ payloadName)
        "must_be_null_when_disabled" ++
      addError (enabled.isTrue && !payload.isObject) ("$.protocols." ++ payloadName)
        "required_when_enabled",
      enabled.isTrue && payload.isObject)

def validateProtocol (slot : Value) (payloadName : String)
    (validatePayload : Value → List SchemaError) : List SchemaError :=
  let (errors, present) := validateProtocolSlot slot payloadName
  errors ++ if present then validatePayload (slot.get payloadName) else []

def validateHeader (snapshot : Value) : List SchemaError :=
  let version := snapshot.get "schema_version"
  let published := snapshot.get "published_at"
  let client := snapshot.get "client"
  let server := snapshot.get "server"
  addError (!version.looseEq (.int 3) && !version.looseEq (.int 4)) "$.schema_version"
    "unsupported_version" ++
  addError (!(snapshot.get "router_id").matches routerIdPattern) "$.router_id"
    "invalid_router_id" ++
  addError (!(snapshot.get "revision").isInteger 0 maxSafeInteger) "$.revision"
    "invalid_revision" ++
  addError (!(snapshot.get "snapshot_sha256").matches sha256Pattern) "$.snapshot_sha256"
    "invalid_sha256" ++
  addError (!(snapshot.get "applied_at").isString 1 64 ||
    !(published.isNull || published.isString 1 64)) "$.applied_at" "invalid_timestamp" ++
  addError (!client.hasExactKeys ["id", "name"] || !(client.get "id").isInteger 1 2147483647 ||
    !(client.get "name").isString 1 128) "$.client" "invalid_client" ++
  addError (!server.hasExactKeys ["endpoint"] || !(server.get "endpoint").isString 1 253)
    "$.server" "invalid_server"

def validateProtocols (protocols endpoint : Value) (dual : Bool) : List SchemaError :=
  validateProtocol (protocols.get "vless") "outbound" (validateVless · endpoint) ++
  validateProtocol (protocols.get "hysteria2") "outbound" (validateHysteria · endpoint) ++
  validateProtocol (protocols.get "amneziawg") "profile" (validateAwg · endpoint false) ++
  if dual then
    validateProtocol (protocols.get "amneziawg_aux") "profile" (validateAwg · endpoint true)
  else []

def protocolKeys (dual : Bool) : List String :=
  ["vless", "hysteria2", "amneziawg"] ++ if dual then ["amneziawg_aux"] else []

/-- The errors of a snapshot; it is accepted when there are none. -/
def validateSnapshot (snapshot : Value) : List SchemaError :=
  let dual := (snapshot.get "schema_version").looseEq (.int 4)
  let protocols := snapshot.get "protocols"
  if !snapshot.hasExactKeys ["schema_version", "router_id", "revision", "snapshot_sha256",
      "applied_at", "published_at", "client", "server", "protocols"] then
    addError true "$" "invalid_schema"
  else
    let header := validateHeader snapshot
    if !protocols.hasExactKeys (protocolKeys dual) then
      header ++ addError true "$.protocols" "invalid_schema"
    else
      let errors := header ++
        validateProtocols protocols ((snapshot.get "server").get "endpoint") dual
      if dual && errors.isEmpty then
        match Lanes.validatePair ((protocols.get "amneziawg").get "profile")
            ((protocols.get "amneziawg_aux").get "profile") with
        | some code => [⟨"$.protocols.amneziawg_aux.profile", code⟩]
        | none => []
      else errors

end AutoVPN
