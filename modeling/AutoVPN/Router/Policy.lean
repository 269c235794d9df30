import AutoVPN.Router.Snapshot
import Mathlib.Data.List.Sort

/-! The routing policy of a lane: `validatePolicy` with the checks of addresses and domains that it
makes, and the plan for the packet engine. -/

namespace AutoVPN

namespace Value

/-- The text of a string value. -/
def text : Value → String
  | string s => s
  | _ => ""

/-- The value of a number. -/
def number (v : Value) : ℚ := v.toNumber?.getD 0

def greater (v w : Value) : Bool := decide (w.number < v.number)

def isIn (v : Value) (names : List String) : Bool :=
  match v with
  | string s => names.contains s
  | _ => false

/-- The object with one field replaced, or added at the end. -/
def set (v : Value) (key : String) (w : Value) : Value :=
  match v with
  | object fs =>
    if (fs.map Prod.fst).contains key then
      object (fs.map fun f => if f.1 == key then (key, w) else f)
    else object (fs ++ [(key, w)])
  | _ => v

end Value

namespace Rendering

/-- `join(',', sort(names))`. -/
def joined (names : List String) : String :=
  ",".intercalate (names.insertionSort fun a b => ¬ b < a)

def keys (v : Value) : List String := v.fields.map Prod.fst

/-! Addresses, networks, domains and keys. -/

def ipv4Pattern : Pattern :=
  [.many Char.isDigit 1, .char '.', .many Char.isDigit 1, .char '.', .many Char.isDigit 1,
    .char '.', .many Char.isDigit 1]

def octet (part : List Char) : Bool :=
  decide (digitsValue part ≤ 255) && (decide (part.length ≤ 1) || part.head? != some '0')

def ipv4Text (cs : List Char) : Bool :=
  ipv4Pattern.matchesList cs && ((cs.splitOn '.').take 4).all octet

def ipv4 : Value → Bool
  | .string s => ipv4Text s.toList
  | _ => false

/-- `^(0|[1-9][0-9]?)$`, at most 32. -/
def prefixLength (cs : List Char) : Bool :=
  cs.all Char.isDigit && (cs.length == 1 || (cs.length == 2 && cs.head? != some '0')) &&
    decide (digitsValue cs ≤ 32)

def cidr : Value → Bool
  | .string s =>
    match s.toList.splitOn '/' with
    | [address, length] => ipv4Text address && prefixLength length
    | _ => false
  | _ => false

/-- `^[a-z0-9]([a-z0-9-]{0,61}[a-z0-9])?$`. -/
def label (cs : List Char) : Bool :=
  let plain (c : Char) : Bool := c.isDigit || c.isLower
  decide (1 ≤ cs.length) && decide (cs.length ≤ 63) && cs.all (fun c => plain c || c == '-') &&
    cs.head?.all plain && cs.getLast?.all plain

def domain : Value → Bool
  | .string s =>
    decide (s.utf8ByteSize ≤ 253) && s != "" && (s.toList.splitOn '.').all label &&
      !ipv4Text s.toList
  | _ => false

def awgKey (v : Value) : Bool := v.matches Lanes.keyPattern

def addressNumber (parts : List (List Char)) : Nat :=
  (parts.take 4).foldl (fun n part => n * 256 + digitsValue part) 0

/-- The managed networks and those of the tunnel device, with their sizes. -/
def forbidden : List (Nat × Nat) :=
  ([29, 30, 31, 32, 33].map fun n => (192 * 256 ^ 3 + 168 * 256 ^ 2 + n * 256, 256)) ++
    [(172 * 256 ^ 3 + 30 * 256 ^ 2 + 255 * 256, 8)]

def awgAddress (v : Value) : Bool :=
  cidr v &&
    match v.text.toList.splitOn '/' with
    | [address, length] =>
      length == ['3', '2'] && forbidden.all fun range =>
        !(decide (range.1 ≤ addressNumber (address.splitOn '.')) &&
          decide (addressNumber (address.splitOn '.') < range.1 + range.2))
    | _ => false

end Rendering

/-! The plan for the packet engine. -/

structure ZapretFlow where
  profile : String
  ip : Value
  port : Value
  transport : String
  mark : Nat
  strategy : Value

/-- A plan of version 2 is for a lane. -/
structure ZapretPlan where
  wanDevice : Value
  flows : List ZapretFlow
  repeats : Value
  lane : Option String

namespace Zapret

/-- The profiles with the names of their slots, the marks of version 1 and the strategies. -/
structure Slot where
  profile : String
  key : String
  mark : Nat
  transport : String
  strategies : List String

def slots : List Slot := [
  ⟨"vless-reality", "vless", 20201, "tcp",
    ["split", "multidisorder", "fake_multidisorder", "fake_multisplit"]⟩,
  ⟨"hysteria2", "hysteria2", 20202, "udp", ["fake", "fake_plain", "fake11"]⟩,
  ⟨"amneziawg", "amneziawg", 20194, "udp", ["fake"]⟩]

def ip : Value → Bool
  | .string s =>
    Rendering.ipv4Text s.toList && (s.toList.splitOn '.').all fun part => decide (part.length ≤ 3)
  | _ => false

def validPolicy (v : Value) : Bool :=
  v.isObject && Rendering.joined (Rendering.keys v) ==
      Rendering.joined ["vless", "hysteria2", "amneziawg", "repeats"] &&
    slots.all (fun s => (v.get s.key).isIn ("off" :: s.strategies)) &&
    (v.get "repeats").isInteger 1 6

def devicePattern : Pattern :=
  [.exactly isAlphanumeric 1, .between (alphanumericOr ['_', '.', '-']) 0 14]

def markOf (lane : Option String) (s : Slot) : Nat :=
  if lane.isSome && s.key == "amneziawg" then 20214 else s.mark

/-- The flows are those of distinct slots, in the order of the slots. -/
def validFlows (lane : Option String) : List Slot → List ZapretFlow → Bool
  | _, [] => true
  | [], _ :: _ => false
  | s :: rest, flow :: flows =>
    if flow.profile == s.profile then
      ip flow.ip && flow.port.isInteger 1 65535 && flow.mark == markOf lane s &&
        flow.transport == s.transport && flow.strategy.isIn s.strategies &&
        validFlows lane rest flows
    else validFlows lane rest (flow :: flows)

def validPlan (p : ZapretPlan) : Bool :=
  p.lane.all (· == "vpn_zapret") && p.wanDevice.matches devicePattern &&
    !p.wanDevice.isIn ["lo", "br-lan", "avpn0", "avpn1", "avpnwg0", "avpnwg1", "br-avpn",
      "br-avpnz", "br-avpnd", "br-avpndz"] &&
    p.repeats.isInteger 1 6 && decide (1 ≤ p.flows.length) && decide (p.flows.length ≤ 3) &&
    validFlows p.lane slots p.flows

def flow (snapshot policy : Value) (lane : Option String) (s : Slot) : ZapretFlow :=
  let slot := (snapshot.get "protocols").get
    (if lane.isSome && s.key == "amneziawg" then "amneziawg_aux" else s.key)
  let peer := ((slot.get "profile").get "peer").get "endpoint"
  let outbound := slot.get "outbound"
  { profile := s.profile
    ip := if s.key == "amneziawg" then peer.get "host" else outbound.get "server"
    port := if s.key == "amneziawg" then peer.get "port" else outbound.get "server_port"
    transport := s.transport
    mark := markOf lane s
    strategy := policy.get s.key }

/-- `none` is a plan that is not allowed, `some none` that there is nothing to do. -/
def plan (snapshot : Value) (candidates : List String) (wan policy : Value) (lane : Option String) :
    Option (Option ZapretPlan) :=
  if policy.isNull then some none
  else if lane.any (· != "vpn_zapret") then none
  else if !validPolicy policy then none
  else
    let chosen := slots.filter fun s => candidates.contains s.profile && !(policy.get s.key).is "off"
    let value : ZapretPlan := ⟨wan, chosen.map (flow snapshot policy lane), policy.get "repeats", lane⟩
    if value.flows.isEmpty then some none
    else if validPlan value then some (some value)
    else none

end Zapret

namespace Rendering

/-- The sets of keys that a policy may have, apart from `ru_bypass`. -/
def policyKeys : List (List String) :=
  let old := ["selection", "wan_device", "dns_server", "direct_domains", "direct_cidrs"]
  let current := old ++ ["hysteria_tls_mode", "awg_available"]
  let withZapret := current ++ ["zapret"]
  [old, current, withZapret].flatMap fun names => [names, names ++ ["vpn_domains", "vpn_cidrs"]]

def defaultTo (v : Value) (key : String) (w : Value) : Value :=
  if (v.get key).isNull then v.set key w else v

def normalizedPolicy (policy : Value) : Option Value :=
  let names := joined ((keys policy).filter (· != "ru_bypass"))
  if policyKeys.any (fun expected => names == joined expected) then
    some (defaultTo (defaultTo policy "hysteria_tls_mode" (.string "strict")) "awg_available"
      (.bool false))
  else none

def lists (policy : Value) (names : List String) (limit : Nat) : Bool :=
  names.all fun name =>
    (policy.get name).isArray && decide ((policy.get name).items.length ≤ limit)

/-- The code of the first check that fails, once the keys are known to be right. -/
def policyFailure (policy normalized : Value) : Option String :=
  let hasVpn := !(normalized.get "vpn_domains").isNull
  if (keys policy).contains "ru_bypass" && !(policy.get "ru_bypass").isBool then
    some "invalid_ru_bypass"
  else if !(normalized.get "zapret").isNull && !Zapret.validPolicy (normalized.get "zapret") then
    some "invalid_zapret_policy"
  else if !(normalized.get "selection").isIn ["auto", "vless-reality", "hysteria2", "amneziawg"] then
    some "unsupported_selection"
  else if !(normalized.get "wan_device").matches Zapret.devicePattern ||
      (normalized.get "wan_device").isIn ["lo", "avpn0", "avpn1", "avpnwg0", "avpnwg1", "br-avpn",
        "br-avpnz", "br-avpnd", "br-avpndz", "br-avpnnv", "br-lan"] then
    some "invalid_wan_device"
  else if !ipv4 (normalized.get "dns_server") then some "invalid_dns_server"
  else if !(normalized.get "hysteria_tls_mode").isIn ["subscription", "strict"] ||
      !(normalized.get "awg_available").isBool then
    some "invalid_runtime_mode"
  else if !lists normalized ["direct_domains", "direct_cidrs"] 128 then some "invalid_direct_rules"
  else if hasVpn == (normalized.get "vpn_cidrs").isNull ||
      (hasVpn && !lists normalized ["vpn_domains", "vpn_cidrs"] 256) then
    some "invalid_negative_vpn_rules"
  else if !(normalized.get "direct_domains").items.all domain then some "invalid_direct_domain"
  else if !(normalized.get "direct_cidrs").items.all cidr then some "invalid_direct_cidr"
  else if hasVpn && !(normalized.get "vpn_domains").items.all domain then
    some "invalid_negative_vpn_domain"
  else if hasVpn && !(normalized.get "vpn_cidrs").items.all cidr then
    some "invalid_negative_vpn_cidr"
  else none

/-- The code of the failure; a policy is accepted when there is none. -/
def validatePolicy (policy : Value) : Option String :=
  if !policy.isObject then some "invalid_policy"
  else
    match normalizedPolicy policy with
    | none => some "invalid_policy"
    | some normalized => policyFailure policy normalized

def validateAwg (profile : Value) : Bool :=
  let interface := profile.get "interface"
  let peer := profile.get "peer"
  let obfuscation := profile.get "obfuscation"
  profile.isObject && interface.isObject && peer.isObject && awgKey (interface.get "private_key") &&
    awgAddress (interface.get "address") && awgKey (peer.get "public_key") &&
    awgKey (peer.get "preshared_key") &&
    ["Jc", "Jmin", "Jmax", "S1", "S2"].all (fun name =>
      !(obfuscation.get name).greater (.int 65535)) &&
    !(obfuscation.get "Jmin").greater (obfuscation.get "Jmax")

end Rendering

end AutoVPN
