import AutoVPN.Lib.Network
import AutoVPN.Router.Networks
import AutoVPN.Router.Zapret

/-! The plan of the managed networks: what `plan` checks of the configuration of the router, and the
sections that it removes, changes and adds. -/

namespace AutoVPN

/-- The value of an option is a text or a list of texts. -/
inductive UciValue
  | text (s : String)
  | list (items : List String)
  deriving DecidableEq

/-- A section of a configuration, with its name and its type apart from its options. -/
structure Section where
  name : String
  type : String
  options : List (String × UciValue)
  deriving DecidableEq

abbrev Configs := NetConfig → Option (List Section)

namespace Section

def get (s : Section) (option : String) : Option UciValue := s.options.lookup option

def text (s : Section) (option : String) : Option String :=
  match s.get option with
  | some (.text t) => some t
  | _ => none

def is (s : Section) (option value : String) : Bool := s.text option == some value

/-- `list`: the words of a text, or the items. -/
def list (s : Section) (option : String) : List String :=
  match s.get option with
  | some (.list items) => items
  | some (.text t) => (t.toList.splitOn ' ').map String.ofList
  | none => []

def set (s : Section) (option : String) (value : UciValue) : Section :=
  { s with options := s.options.filter (·.1 != option) ++ [(option, value)] }

end Section

/-- A route as `ip` prints it. -/
structure Route where
  dst : Value
  dev : Value

structure Patch where
  config : NetConfig
  name : String
  option : String
  value : UciValue

structure Ssid where
  ssid : String
  enabled : Bool
  mode : String
  primaryLan : Bool

structure WiredBridge where
  bridge : String
  ports : List String

structure NetPlan where
  remove : List (NetConfig × String)
  patches : List Patch
  sections : List (NetConfig × Section)
  ssids : List Ssid
  radios : List String
  wiredBridges : List WiredBridge

namespace Planner

def owner : String := "ssid-v1"

def positivePorts : List String := ["lan4"]

def negativePorts : List String := ["lan3"]

def managedPorts : List String := ["lan3", "lan4"]

structure Mode where
  id : String
  bridge : String
  octet : Nat
  suffix : String
  enabled : Bool

def modes : List Mode := [
  ⟨"direct", "br-avpnd", 29, "", true⟩,
  ⟨"vpn", "br-avpn", 30, "-в", true⟩,
  ⟨"negative", "br-avpnnv", 33, "-нв", true⟩]

structure ReservedMode where
  id : String
  bridge : String
  octet : Nat

def reservedModes : List ReservedMode := [
  ⟨"direct", "br-avpnd", 29⟩, ⟨"vpn", "br-avpn", 30⟩, ⟨"zapret", "br-avpndz", 31⟩,
  ⟨"vpn_zapret", "br-avpnz", 32⟩, ⟨"negative", "br-avpnnv", 33⟩]

def sameSet (left right : List String) : Bool :=
  left.length == right.length && left.all right.contains

/-- The plain name of a port, a tagged entry `port:tag` or a VLAN device `port.id`. -/
def physicalPortReference (value port : String) : Bool :=
  value == port || (port ++ ".").toList.isPrefixOf value.toList ||
    (port ++ ":").toList.isPrefixOf value.toList

def isControl (c : Char) : Bool := decide (1 ≤ c.toNat && c.toNat ≤ 31) || c.toNat == 127

def isPrintable (c : Char) : Bool := decide (32 ≤ c.toNat) && decide (c.toNat ≤ 126)

def passwordPatterns : List Pattern := [[.between isPrintable 8 63], [.exactly isHex 64]]

/-- The code of the failure of `validSettings`. -/
def invalidSettings (settings : Value) : Option String :=
  let ssid := settings.get "base_ssid"
  let flag (v : Value) : Bool := v.isNull || v.isBool
  if !settings.isObject || !ssid.isString 1 27 || ssid.text.toList.contains (Char.ofNat 0) ||
      ssid.text.toList.any isControl then some "invalid_base_ssid"
  else if !flag (settings.get "initial_setup") || !flag (settings.get "primary_lan") then
    some "invalid_network_settings"
  else if !passwordPatterns.any (settings.get "password").matches then some "invalid_wifi_password"
  else none

/-! Ranges of addresses. -/

structure Range where
  start : Nat
  stop : Nat

def ipNumber (cs : List Char) : Option Nat :=
  if Rendering.ipv4Text cs then
    some ((cs.splitOn '.').foldl (fun number part => number * 256 + digitsValue part) 0)
  else none

/-- The loop that counts the ones at the end of the host part. -/
def maskBits : Nat → Nat → Nat → Option Nat
  | 0, _, _ => none
  | fuel + 1, bits, host =>
    if host = 0 then some bits
    else if host % 2 = 1 then maskBits fuel (bits - 1) (host / 2)
    else none

def block (address bits : Nat) : Range :=
  let size := 2 ^ (32 - bits)
  let start := address - address % size
  ⟨start, start + size - 1⟩

/-- `range`; an option that is not a text is no mask. -/
def range (value : String) (mask : Option UciValue) : Option Range := do
  match value.toList.splitOn '/' with
  | [address, length] =>
    let address ← ipNumber address
    if Rendering.prefixLength length then return block address (digitsValue length) else none
  | [address] =>
    let address ← ipNumber address
    match mask with
    | none => return block address 32
    | some (.text mask) =>
      let number ← ipNumber mask.toList
      let bits ← maskBits 33 32 (4294967295 - number)
      return block address bits
    | some (.list _) => none
  | _ => none

def Range.meets (r own : Range) : Bool := decide (r.start ≤ own.stop) && decide (own.start ≤ r.stop)

def subnet (octet : Nat) : Range := block (quadNumber 192 168 octet 0) 24

def tun : Range := block (quadNumber 172 30 255 0) 29

/-- `overlaps`; what cannot be read overlaps. -/
def overlaps (value : String) (mask : Option UciValue) (primaryLan : Bool) : Bool :=
  match range value mask with
  | none => true
  | some target =>
    reservedModes.any (fun mode =>
      !(primaryLan && mode.id == "direct") && target.meets (subnet mode.octet)) ||
      target.meets tun

/-! What the plan reads from the sections. -/

structure Radio where
  name : String
  band : String
  disabled : Bool

structure Scan where
  radioDevices : List Radio := []
  ownedBridges : List String := []
  ownedVpnPorts : List String := []
  ownedNegativePorts : List String := []
  managementBridge : Option Section := none
  wanZones : Nat := 0
  lanZones : Nat := 0
  lanWanForwardings : Nat := 0
  lanInterfaces : Nat := 0
  staticLan : Bool := false
  remove : List (NetConfig × String) := []

def check (failed : Bool) (code : String) : Except String Unit := if failed then .error code else .ok ()

def avpnName (name : String) : Bool := "avpn_".toList.isPrefixOf name.toList

def isWordChar (c : Char) : Bool := alphanumericOr ['_'] c

/-- `^avpn_[A-Za-z0-9_]+$`. -/
def ownedName (name : String) : Bool :=
  avpnName name && decide (6 ≤ name.toList.length) && (name.toList.drop 5).all isWordChar

def radioPattern : Pattern := [.between isWordChar 1 32]

def owned (s : Section) : Bool := s.is "autovpn_owner" owner

def scanOwned (c : NetConfig) (st : Scan) (s : Section) : Except String Scan := do
  check (!ownedName s.name) "network_ownership_conflict"
  let bridge := c == .network && s.type == "device"
  return { st with
    remove := st.remove ++ [(c, s.name)]
    ownedBridges := st.ownedBridges ++ if bridge then (s.text "name").toList else []
    ownedVpnPorts := if bridge && s.is "name" "br-avpn" then s.list "ports" else st.ownedVpnPorts
    ownedNegativePorts :=
      if bridge && s.is "name" "br-avpnnv" then s.list "ports" else st.ownedNegativePorts }

def bands : List String := ["2g", "5g"]

def isRadio (s : Section) : Bool := s.type == "wifi-device" && (s.text "band").any bands.contains

def scanWireless (st : Scan) (s : Section) : Except String Scan := do
  if isRadio s then
    check (!radioPattern.matches s.name) "invalid_radio_name"
    return { st with radioDevices := st.radioDevices ++
      [⟨s.name, (s.text "band").getD "", s.is "disabled" "1"⟩] }
  else return st

def isManagementBridge (s : Section) : Bool := s.type == "device" && s.is "name" "br-lan"

def portConflict (s : Section) (port : String) : Bool :=
  (s.type != "device" && (s.text "device").any (physicalPortReference · port)) ||
    ((s.list "ports").any (physicalPortReference · port) && !s.is "name" "br-lan")

def reserves (s : Section) (mode : ReservedMode) : Bool :=
  s.is "name" mode.bridge || s.is "device" mode.bridge || (s.list "ports").contains mode.bridge

def isLan (s : Section) : Bool := s.name == "lan" && s.type == "interface"

def scanNetwork (primaryLan : Bool) (st : Scan) (s : Section) : Except String Scan := do
  check (s.type == "bridge-vlan" && s.is "device" "br-lan") "unsupported_dsa_vlan_topology"
  check (isManagementBridge s && (st.managementBridge.isSome || !s.is "type" "bridge"))
    "wired_port_conflict"
  check (managedPorts.any (portConflict s)) "wired_port_conflict"
  check (reservedModes.any (reserves s)) "network_ownership_conflict"
  check ((s.list "ipaddr").any (overlaps · (s.get "netmask") primaryLan)) "network_subnet_conflict"
  return { st with
    managementBridge := if isManagementBridge s then some s else st.managementBridge
    lanInterfaces := if isLan s then st.lanInterfaces + 1 else st.lanInterfaces
    staticLan := st.staticLan || (isLan s && s.is "proto" "static" &&
      (s.list "ipaddr").any fun address => (range address (s.get "netmask")).isSome) }

def scanFirewall (st : Scan) (s : Section) : Except String Scan := do
  check (s.type == "defaults" && (s.is "flow_offloading" "1" || s.is "flow_offloading_hw" "1"))
    "disable_flow_offloading"
  check (s.type == "zone" && avpnName ((s.text "name").getD "")) "network_ownership_conflict"
  let counts (b : Bool) (n : Nat) : Nat := if b then n + 1 else n
  return { st with
    wanZones := counts (s.type == "zone" && s.is "name" "wan" && s.is "masq" "1") st.wanZones
    lanZones := counts (s.type == "zone" && s.is "name" "lan" && (s.list "network").contains "lan")
      st.lanZones
    lanWanForwardings := counts (s.type == "forwarding" && s.is "src" "lan" && s.is "dest" "wan")
      st.lanWanForwardings }

def scanForeign (primaryLan : Bool) (c : NetConfig) (st : Scan) (s : Section) :
    Except String Scan := do
  check (avpnName s.name) "network_ownership_conflict"
  let st ← match c with
    | .wireless => scanWireless st s
    | .network => scanNetwork primaryLan st s
    | .firewall => scanFirewall st s
    | .dhcp => .ok st
  check ((s.list "network").any avpnName) "network_ownership_conflict"
  return st

def scanSection (primaryLan : Bool) (c : NetConfig) (st : Scan) (s : Section) :
    Except String Scan :=
  if owned s then scanOwned c st s else scanForeign primaryLan c st s

def scanConfig (primaryLan : Bool) (configs : Configs) (st : Scan) (c : NetConfig) :
    Except String Scan :=
  match configs c with
  | none => .error "network_config_unavailable"
  | some sections => sections.foldlM (scanSection primaryLan c) st

def scan (primaryLan : Bool) (configs : Configs) : Except String Scan :=
  Network.configs.foldlM (scanConfig primaryLan configs) {}

/-! The radios. -/

structure RadioScan where
  patches : List Patch := []
  safeStock : List String := []
  radios : List String := []

def stockOpenAp (s : Section) (radio : String) : Bool :=
  s.type == "wifi-iface" && s.name == "default_" ++ radio && s.is "device" radio &&
    s.is "mode" "ap" && s.is "ssid" "OpenWrt" && s.is "encryption" "none" &&
    s.list "network" == ["lan"]

def scanBss (initialSetup : Bool) (radio : Radio) (st : RadioScan) (bss : Section) :
    Except String RadioScan :=
  if owned bss || bss.type != "wifi-iface" || !bss.is "device" radio.name then .ok st
  else if initialSetup && stockOpenAp bss radio.name then
    .ok { st with
      safeStock := st.safeStock ++ [bss.name]
      patches := st.patches ++ if bss.is "disabled" "1" then []
        else [⟨.wireless, bss.name, "disabled", .text "1"⟩] }
  else if radio.disabled && !bss.is "disabled" "1" then .error "disabled_radio_bss_conflict"
  else .ok st

def scanRadio (initialSetup : Bool) (wireless : List Section) (st : RadioScan) (radio : Radio) :
    Except String RadioScan :=
  if radio.disabled && !initialSetup then .ok st
  else do
    let st ← wireless.foldlM (scanBss initialSetup radio) st
    return { st with
      radios := st.radios ++ [radio.name]
      patches := st.patches ++ if radio.disabled then
        [⟨.wireless, radio.name, "disabled", .text "0"⟩] else [] }

/-! The sections of a network. -/

def add (c : NetConfig) (name type : String) (values : List (String × UciValue)) :
    NetConfig × Section :=
  (c, ⟨name, type, values ++ [("autovpn_owner", .text owner)]⟩)

def Mode.name (mode : Mode) : String := "avpn_" ++ mode.id

def bridgePorts (mode : Mode) : List (String × UciValue) :=
  if mode.id == "vpn" then [("ports", .list positivePorts)]
  else if mode.id == "negative" then [("ports", .list negativePorts)]
  else []

def modeSections (mode : Mode) : List (NetConfig × Section) :=
  [add .network (mode.name ++ "_bridge") "device" ([("name", .text mode.bridge),
      ("type", .text "bridge"), ("bridge_empty", .text "1"), ("ipv6", .text "0")] ++
      bridgePorts mode),
    add .network mode.name "interface" [("device", .text mode.bridge), ("proto", .text "static"),
      ("ipaddr", .text ("192.168." ++ toString mode.octet ++ ".1")),
      ("netmask", .text "255.255.255.0"), ("delegate", .text "0")],
    add .dhcp mode.name "dhcp" [("interface", .text mode.name), ("start", .text "100"),
      ("limit", .text "100"), ("leasetime", .text "12h"), ("ra", .text "disabled"),
      ("dhcpv6", .text "disabled"), ("ndp", .text "disabled"),
      ("ignore", .text (if mode.enabled then "0" else "1"))],
    add .firewall mode.name "zone" [("name", .text mode.name), ("network", .list [mode.name]),
      ("input", .text "REJECT"), ("output", .text "ACCEPT"), ("forward", .text "REJECT")]] ++
  (if mode.enabled then
    [add .firewall (mode.name ++ "_dhcp") "rule" [("name", .text (mode.name ++ "-DHCP")),
      ("src", .text mode.name), ("proto", .text "udp"), ("src_port", .text "68"),
      ("dest_port", .text "67"), ("family", .text "ipv4"), ("target", .text "ACCEPT")]] else []) ++
  if mode.id == "direct" || mode.id == "zapret" then
    [add .firewall (mode.name ++ "_dns") "rule" [("name", .text (mode.name ++ "-DNS")),
      ("src", .text mode.name), ("proto", .list ["tcp", "udp"]), ("dest_port", .text "53"),
      ("family", .text "ipv4"), ("target", .text "ACCEPT")],
    add .firewall (mode.name ++ "_wan") "forwarding" [("src", .text mode.name),
      ("dest", .text "wan"), ("family", .text "ipv4")]]
  else []

def onPrimaryLan (primaryLan : Bool) (mode : Mode) : Bool := primaryLan && mode.id == "direct"

def wifiSection (primaryLan : Bool) (ssid password : String) (mode : Mode) (radio : String) :
    NetConfig × Section :=
  add .wireless (mode.name ++ "_" ++ radio) "wifi-iface" [("device", .text radio),
    ("mode", .text "ap"),
    ("network", .list [if onPrimaryLan primaryLan mode then "lan" else mode.name]),
    ("ssid", .text (ssid ++ mode.suffix)), ("encryption", .text "psk2+ccmp"),
    ("key", .text password), ("isolate", .text "1"),
    ("disabled", .text (if mode.enabled then "0" else "1"))]

def sectionsOf (primaryLan : Bool) (ssid password : String) (radios : List String) (mode : Mode) :
    List (NetConfig × Section) :=
  (if onPrimaryLan primaryLan mode then [] else modeSections mode) ++
    radios.map (wifiSection primaryLan ssid password mode)

/-! The plan. -/

def exemptSubnets : List String :=
  ["192.168.29.0/24", "192.168.30.0/24", "192.168.31.0/24", "192.168.32.0/24"]

/-- The routes that the plan does not look at. -/
def exempt (ownedBridges : List String) (r : Route) : Bool :=
  r.dst.is "default" || r.dst.is "0.0.0.0/0" ||
    (r.dev.isIn ownedBridges && r.dst.isIn exemptSubnets) ||
    (r.dev.is "avpn0" && r.dst.is "172.30.255.0/30") ||
    (r.dev.is "avpn1" && r.dst.is "172.30.255.4/30")

def routeConflict (primaryLan : Bool) (ownedBridges : List String) (r : Route) : Bool :=
  !exempt ownedBridges r &&
    match r.dst with
    | .string dst => overlaps dst none primaryLan
    | _ => true

def hasBand (radioDevices : List Radio) (radios : List String) (band : String) : Bool :=
  radioDevices.any fun d => radios.contains d.name && d.band == band

def ssidTaken (wireless : List Section) (safeStock : List String) (ssid : String) : Bool :=
  wireless.any fun s => !owned s && s.is "ssid" ssid && !safeStock.contains s.name

/-- The ports of the management bridge that are managed, and the others. -/
def foundPorts (ports : List String) : List String := ports.filter managedPorts.contains

def remainingPorts (ports : List String) : List String := ports.filter (!managedPorts.contains ·)

/-- The first setup, one from the time of a single bridge, or a repeated one. -/
def migrationAllowed (st : Scan) (found : List String) : Bool :=
  (sameSet found managedPorts && st.ownedVpnPorts.isEmpty && st.ownedNegativePorts.isEmpty) ||
    (found.isEmpty && sameSet st.ownedVpnPorts managedPorts && st.ownedNegativePorts.isEmpty) ||
    (found.isEmpty && sameSet st.ownedVpnPorts positivePorts &&
      sameSet st.ownedNegativePorts negativePorts)

def wiredBridges : List WiredBridge := [⟨"br-avpn", positivePorts⟩, ⟨"br-avpnnv", negativePorts⟩]

/-- The part of `plan` after the configuration has been read. -/
def planFrom (ssid password : String) (initialSetup primaryLan : Bool) (wireless : List Section)
    (st : Scan) (routes : Option (List Route)) : Except String NetPlan := do
  let radios ← st.radioDevices.foldlM (scanRadio initialSetup wireless) {}
  check (radios.radios.isEmpty || decide (4 < radios.radios.length)) "enabled_wifi_radio_required"
  check (initialSetup && !bands.all (hasBand st.radioDevices radios.radios)) "dual_band_wifi_required"
  check (st.wanZones != 1) "masquerading_wan_zone_required"
  match st.managementBridge with
  | none => .error "wired_port_conflict"
  | some bridge =>
    let ports := bridge.list "ports"
    check (!migrationAllowed st (foundPorts ports) || (remainingPorts ports).isEmpty)
      "wired_port_conflict"
    check (primaryLan && (st.lanInterfaces != 1 || !st.staticLan)) "static_lan_required"
    check (primaryLan && st.lanZones != 1) "lan_firewall_zone_required"
    check (primaryLan && st.lanWanForwardings != 1) "lan_wan_forwarding_required"
    match routes with
    | none => .error "network_routes_unavailable"
    | some routes =>
      check (routes.any (routeConflict primaryLan st.ownedBridges)) "network_subnet_conflict"
      check (modes.any fun mode => ssidTaken wireless radios.safeStock (ssid ++ mode.suffix))
        "ssid_already_exists"
      return {
        remove := st.remove
        patches := radios.patches ++
          [⟨.network, bridge.name, "ports", .list (remainingPorts ports)⟩]
        sections := modes.flatMap (sectionsOf primaryLan ssid password radios.radios)
        ssids := modes.map fun mode =>
          ⟨ssid ++ mode.suffix, mode.enabled, mode.id, onPrimaryLan primaryLan mode⟩
        radios := radios.radios
        wiredBridges := wiredBridges }

def plan (settings : Value) (configs : Configs) (routes : Option (List Route)) :
    Except String NetPlan :=
  match invalidSettings settings with
  | some code => .error code
  | none => do
    let primaryLan := (settings.get "primary_lan").isTrue
    let st ← scan primaryLan configs
    planFrom (settings.get "base_ssid").text (settings.get "password").text
      (settings.get "initial_setup").isTrue primaryLan ((configs .wireless).getD []) st routes

/-! Installing a plan. -/

def patchSection (patches : List Patch) (c : NetConfig) (s : Section) : Section :=
  patches.foldl (fun s p => if p.config == c && p.name == s.name then s.set p.option p.value else s) s

/-- The configuration with the sections of the plan removed, changed and added. -/
def install (p : NetPlan) (configs : Configs) : Configs := fun c =>
  (configs c).map fun sections =>
    (sections.filter fun s => !p.remove.contains (c, s.name)).map (patchSection p.patches c) ++
      (p.sections.filter (·.1 == c)).map (·.2)

end Planner

end AutoVPN
