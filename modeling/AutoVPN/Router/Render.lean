import AutoVPN.Router.Journal
import AutoVPN.Router.Policy
import AutoVPN.Lib.FirstMatch

/-! The configuration of the tunnel that `render` makes from a snapshot and a policy, and what its
rules do with a connection. -/

namespace AutoVPN

structure LaneDescriptor where
  id : String
  root : String
  transparentPort : Nat
  healthPort : Nat
  probePorts : List (String × Nat)
  awgDevice : String
  awgInnerMark : Nat

/-- The routing rules, with the fields that the renderer uses. -/
inductive RuleAction
  | route (outbound : String)
  | hijackDns
  | sniff (timeout : String)
  | reject
  deriving DecidableEq

structure Rule where
  inbound : List String := []
  port : Option Nat := none
  ipVersion : Option Nat := none
  ipIsPrivate : Bool := false
  domainSuffix : List String := []
  ipCidr : List String := []
  ruleSet : List String := []
  action : RuleAction

structure Inbound where
  type : String
  tag : String
  listen : String
  listenPort : Nat

structure DnsServer where
  type : String
  tag : String
  server : Value
  serverPort : Nat
  detour : String

structure RuleSet where
  type : String
  tag : String
  format : String
  path : String

structure RuntimeConfig where
  logDisabled : Bool
  dnsServers : List DnsServer
  dnsFinal : String
  dnsStrategy : String
  reverseMapping : Bool
  inbounds : List Inbound
  outbounds : List Value
  rules : List Rule
  final : String
  defaultDomainResolver : String
  ruleSets : List RuleSet

structure Runtime where
  profile : String
  candidates : List String
  capabilities : Capabilities
  awg : Option Value
  zapret : Option ZapretPlan
  config : RuntimeConfig

inductive RenderResult (α : Type)
  | failed (code : String)
  | empty (lane : String)
  | ok (value : α)

namespace Lanes

def descriptors : List LaneDescriptor := [
  { id := "vpn", root := "/etc/autovpn/runtime", transparentPort := 12080, healthPort := 1088
    probePorts := [("vless-reality", 1089), ("hysteria2", 1090), ("amneziawg", 1091)]
    awgDevice := "avpnwg0", awgInnerMark := 20193 },
  { id := "vpn_zapret", root := "/etc/autovpn/runtime-zapret", transparentPort := 12081
    healthPort := 1108
    probePorts := [("vless-reality", 1109), ("hysteria2", 1110), ("amneziawg", 1111)]
    awgDevice := "avpnwg1", awgInnerMark := 20213 }]

def find (id : String) : Option LaneDescriptor := descriptors.find? (·.id == id)

/-- The values of a runtime without lanes. -/
def single : LaneDescriptor where
  id := ""
  root := "/etc/autovpn/runtime"
  transparentPort := 12080
  healthPort := 1088
  probePorts := [("vless-reality", 1089), ("hysteria2", 1090), ("amneziawg", 1091)]
  awgDevice := "avpnwg0"
  awgInnerMark := 20193

end Lanes

namespace Rendering

/-- `snapshot.schema_version >= 4`. -/
def hasLanes (snapshot : Value) : Bool :=
  (snapshot.get "schema_version").toNumber?.any fun n => decide (4 ≤ n)

/-- What the loop over the protocols collects. -/
structure Protocols where
  outbounds : List Value
  candidates : List String
  capabilities : Capabilities

def Protocols.enable (p : Protocols) (name : String) : Capabilities :=
  if name == "vless" then { p.capabilities with vless := true }
  else { p.capabilities with hysteria2 := true }

def addProtocol (snapshot policy : Value) (p : Protocols) (name : String) :
    Except String Protocols :=
  let slot := (snapshot.get "protocols").get name
  let outbound := slot.get "outbound"
  if !(slot.get "enabled").truthy then .ok p
  else if name == "hysteria2" && ((outbound.get "tls").get "insecure").truthy &&
      (policy.get "hysteria_tls_mode").is "strict" then
    if (policy.get "selection").is "hysteria2" then .error "hysteria_tls_unverified" else .ok p
  else .ok {
    outbounds := p.outbounds ++ [outbound.set "bind_interface" (policy.get "wan_device")]
    candidates := p.candidates ++ [(outbound.get "tag").text]
    capabilities := p.enable name }

def addAwg (lane : LaneDescriptor) (p : Protocols) : Protocols where
  outbounds := p.outbounds ++ [.object [("type", .string "direct"), ("tag", .string "amneziawg"),
    ("bind_interface", .string lane.awgDevice), ("routing_mark", .int lane.awgInnerMark),
    ("domain_resolver", .string "awg-dns")]]
  candidates := p.candidates ++ ["amneziawg"]
  capabilities := { p.capabilities with amneziawg := true }

def noCapabilities : Capabilities := ⟨false, false, false, false, false⟩

/-- The profile of AmneziaWG, where the lane has one that can be used. -/
def awgProfile (snapshot policy : Value) (managed : Option LaneDescriptor) : Option Value :=
  let slot := (snapshot.get "protocols").get
    (if managed.any (·.id == "vpn_zapret") then "amneziawg_aux" else "amneziawg")
  if (slot.get "enabled").truthy && (policy.get "awg_available").truthy &&
      validateAwg (slot.get "profile") then
    some (slot.get "profile")
  else none

def collect (snapshot policy : Value) (managed : Option LaneDescriptor) :
    Except String Protocols := do
  let p ← addProtocol snapshot policy ⟨[], [], noCapabilities⟩ "vless"
  let p ← addProtocol snapshot policy p "hysteria2"
  match awgProfile snapshot policy managed with
  | some _ => return addAwg (managed.getD Lanes.single) p
  | none => return p

def select (policy preferred : Value) (candidates : List String) : String :=
  if (policy.get "selection").is "auto" then
    if preferred.isIn candidates then preferred.text else candidates.headD ""
  else (policy.get "selection").text

/-- A flow marks the packets of the outbound that it is for. -/
def markOutbound (outbound : Value) (flow : ZapretFlow) : Value :=
  if (outbound.get "tag").is flow.profile && flow.profile != "amneziawg" then
    outbound.set "routing_mark" (.int flow.mark)
  else outbound

def zapretFlows (zapret : Option ZapretPlan) : List ZapretFlow := (zapret.map (·.flows)).getD []

def texts (v : Value) : List String := v.items.map Value.text

def probeInbound (candidate : String) : String := "probe-" ++ candidate

/-- Whether the lane serves the network that is sent directly by default. -/
def negativeVpn (policy : Value) (managed : Option LaneDescriptor) : Bool :=
  !(policy.get "vpn_domains").isNull && managed.all (·.id == "vpn")

def inboundsOf (lane : LaneDescriptor) (negative : Bool) (candidates : List String) :
    List Inbound :=
  [⟨"tproxy", "vpn-net", "0.0.0.0", lane.transparentPort⟩,
    ⟨"socks", "health", "127.0.0.1", lane.healthPort⟩] ++
  (if negative then [⟨"tproxy", "negative-vpn-net", "0.0.0.0", 12082⟩] else []) ++
  candidates.map fun candidate =>
    ⟨"socks", probeInbound candidate, "127.0.0.1", (lane.probePorts.lookup candidate).getD 0⟩

def negativeRules (policy : Value) (selected : String) : List Rule :=
  let domains := texts (policy.get "vpn_domains")
  let cidrs := texts (policy.get "vpn_cidrs")
  (if domains.isEmpty then [] else
    [{ inbound := ["negative-vpn-net"], domainSuffix := domains, action := .route selected }]) ++
  (if cidrs.isEmpty then [] else
    [{ inbound := ["negative-vpn-net"], ipCidr := cidrs, action := .route selected }]) ++
  [{ inbound := ["negative-vpn-net"], action := .route "direct" }]

def directRules (policy : Value) : List Rule :=
  let domains := texts (policy.get "direct_domains")
  let cidrs := texts (policy.get "direct_cidrs")
  (if domains.isEmpty then [] else [{ domainSuffix := domains, action := .route "direct" }]) ++
  (if cidrs.isEmpty then [] else [{ ipCidr := cidrs, action := .route "direct" }]) ++
  if (policy.get "ru_bypass").isTrue then
    [{ ruleSet := ["autovpn-ru"], action := .route "direct" }]
  else []

/-- The rules that precede every exception of the user. -/
def guardRules : List Rule := [
  { port := some 53, action := .hijackDns },
  { action := .sniff "300ms" },
  { ipVersion := some 6, action := .reject },
  { ipIsPrivate := true, action := .reject }]

def probeRule (candidate : String) : Rule :=
  { inbound := [probeInbound candidate], action := .route candidate }

def rulesOf (policy : Value) (negative : Bool) (candidates : List String) (selected : String) :
    List Rule :=
  [{ inbound := ["health"], action := .route selected }] ++ candidates.map probeRule ++
    guardRules ++ (if negative then negativeRules policy selected else []) ++ directRules policy

def directOutbound (policy : Value) : Value :=
  .object [("type", .string "direct"), ("tag", .string "direct"),
    ("bind_interface", policy.get "wan_device")]

def configOf (policy : Value) (lane : LaneDescriptor) (negative : Bool) (p : Protocols)
    (outbounds : List Value) (awg : Bool) (selected : String) : RuntimeConfig where
  logDisabled := true
  dnsServers := [⟨"udp", "tunnel-dns", policy.get "dns_server", 53, selected⟩] ++
    if awg then [⟨"udp", "awg-dns", policy.get "dns_server", 53, "amneziawg"⟩] else []
  dnsFinal := "tunnel-dns"
  dnsStrategy := "ipv4_only"
  reverseMapping := true
  inbounds := inboundsOf lane negative p.candidates
  outbounds := outbounds ++ [directOutbound policy]
  rules := rulesOf policy negative p.candidates selected
  final := selected
  defaultDomainResolver := "tunnel-dns"
  ruleSets := if (policy.get "ru_bypass").isTrue then 
    [⟨"local", "autovpn-ru", "source", "/etc/autovpn/routing/ru.json"⟩] else []

/-- In a snapshot with lanes only the second one has its packets preprocessed. -/
def planOf (snapshot policy : Value) (managed : Option LaneDescriptor) (candidates : List String) :
    Option (Option ZapretPlan) :=
  if managed.all (·.id == "vpn_zapret") then
    Zapret.plan snapshot candidates (policy.get "wan_device") (policy.get "zapret")
      (managed.map (·.id))
  else some none

def runtimeOf (snapshot policy : Value) (managed : Option LaneDescriptor) (p : Protocols)
    (selected : String) (zapret : Option ZapretPlan) : Runtime where
  profile := selected
  candidates := p.candidates
  capabilities := { p.capabilities with
    zapret := (zapretFlows zapret).any (·.profile == selected), policyRouting := true }
  awg := awgProfile snapshot policy managed
  zapret := zapret
  config := configOf policy (managed.getD Lanes.single) (negativeVpn policy managed) p
    (p.outbounds.map fun outbound => (zapretFlows zapret).foldl markOutbound outbound)
    (awgProfile snapshot policy managed).isSome selected

/-- The part of `render` after the lane is known. -/
def renderLane (snapshot policy preferred : Value) (managed : Option LaneDescriptor) :
    Except String Runtime :=
  if !ipv4 ((snapshot.get "server").get "endpoint") then .error "endpoint_ipv4_required"
  else do
    let p ← collect snapshot policy managed
    let selection := policy.get "selection"
    if p.candidates.isEmpty then .error "no_supported_vpn"
    else if !selection.is "auto" && !selection.isIn p.candidates then
      .error "selected_vpn_unavailable"
    else
      match planOf snapshot policy managed p.candidates with
      | none => .error "invalid_zapret_plan"
      | some zapret =>
        .ok (runtimeOf snapshot policy managed p (select policy preferred p.candidates) zapret)

/-- `laneDescriptor`: the lane, unless it is unknown. -/
def laneDescriptor : Option String → Option (Option LaneDescriptor)
  | none => some none
  | some id => (Lanes.find id).map some

def render (snapshot policy preferred : Value) (lane : Option String) : RenderResult Runtime :=
  if !(validateSnapshot snapshot).isEmpty then .failed "snapshot_validation_failed"
  else
    match laneDescriptor lane with
    | none => .failed "invalid_lane"
    | some descriptor =>
      if descriptor.any (·.id == "vpn_zapret") && !hasLanes snapshot then .empty "vpn_zapret"
      else
        match validatePolicy policy, normalizedPolicy policy with
        | none, some effective =>
          let managed := if hasLanes snapshot then descriptor else none
          match renderLane snapshot effective preferred managed with
          | .error code => .failed code
          | .ok runtime => .ok runtime
        | failure, _ => .failed (failure.getD "invalid_policy")

end Rendering

/-! What the rules do with a connection. -/

inductive Address
  | ipv4 (bits : BitVec 32)
  | ipv6 (bits : BitVec 128)

def Address.version : Address → Nat
  | ipv4 _ => 4
  | ipv6 _ => 6

structure InboundConnection where
  inbound : String
  port : Nat
  destination : Address
  domain : Option String

/-- How the rule items of the router program read a connection. -/
structure SingBox where
  isPrivate : Address → Bool
  inCidr : String → Address → Bool
  hasSuffix : String → String → Bool
  inRuleSet : String → InboundConnection → Bool
  sniffed : InboundConnection → Option String

inductive Verdict
  | outbound (tag : String)
  | hijacked
  | rejected
  deriving DecidableEq

namespace SingBox

variable (box : SingBox)

/-- A rule without an item for the destination is for all of them. -/
def matchesDestination (r : Rule) (c : InboundConnection) : Bool :=
  (r.domainSuffix.isEmpty && r.ipCidr.isEmpty && !r.ipIsPrivate && r.ruleSet.isEmpty) ||
    (c.domain.any fun d => r.domainSuffix.any (box.hasSuffix · d)) ||
    r.ipCidr.any (box.inCidr · c.destination) ||
    (r.ipIsPrivate && box.isPrivate c.destination) ||
    r.ruleSet.any (box.inRuleSet · c)

def matching (r : Rule) (c : InboundConnection) : Bool :=
  (r.inbound.isEmpty || r.inbound.contains c.inbound) && r.port.all (· == c.port) &&
    r.ipVersion.all (· == c.destination.version) && box.matchesDestination r c

/-- Only a sniff lets the evaluation go on. -/
def act (r : Rule) (c : InboundConnection) : InboundConnection ⊕ Verdict :=
  match r.action with
  | .route outbound => .inr (.outbound outbound)
  | .hijackDns => .inr .hijacked
  | .sniff _ => .inl { c with domain := box.sniffed c }
  | .reject => .inr .rejected

def evaluate (config : RuntimeConfig) (c : InboundConnection) : Verdict :=
  FirstMatch.run box.matching box.act (.outbound config.final) config.rules c

end SingBox

end AutoVPN
