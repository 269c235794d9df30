import AutoVPN.Lib.Json
import AutoVPN.Lib.JsonLine
import AutoVPN.Router.Zapret

/-! The bundle of a runtime, which is kept on the disk, and the check that it is still the one that is
rendered from the snapshot and the policy. -/

namespace AutoVPN

/-! The objects of a bundle, with their fields in the order in which they are printed. -/

/-- A field that is left out where there is nothing to say. -/
def optionalField {α : Type} (key : String) (encode : α → Value) (a : Option α) :
    List (String × Value) :=
  (a.map fun a => (key, encode a)).toList

def strings (names : List String) : Value := .array (names.map .string)

def listed (key : String) (names : List String) : List (String × Value) :=
  if names.isEmpty then [] else [(key, strings names)]

def RuleAction.encode : RuleAction → List (String × Value)
  | route outbound => [("action", .string "route"), ("outbound", .string outbound)]
  | hijackDns => [("action", .string "hijack-dns")]
  | sniff timeout => [("action", .string "sniff"), ("timeout", .string timeout)]
  | reject => [("action", .string "reject")]

def Rule.encode (r : Rule) : Value :=
  .object (listed "inbound" r.inbound ++ optionalField "port" (fun n : Nat => .int n) r.port ++
    optionalField "ip_version" (fun n : Nat => .int n) r.ipVersion ++
    (if r.ipIsPrivate then [("ip_is_private", .bool true)] else []) ++
    listed "domain_suffix" r.domainSuffix ++ listed "ip_cidr" r.ipCidr ++
    listed "rule_set" r.ruleSet ++ r.action.encode)

def Inbound.encode (i : Inbound) : Value :=
  .object [("type", .string i.type), ("tag", .string i.tag), ("listen", .string i.listen),
    ("listen_port", .int i.listenPort)]

def DnsServer.encode (s : DnsServer) : Value :=
  .object [("type", .string s.type), ("tag", .string s.tag), ("server", s.server),
    ("server_port", .int s.serverPort), ("detour", .string s.detour)]

def RuleSet.encode (r : RuleSet) : Value :=
  .object [("type", .string r.type), ("tag", .string r.tag), ("format", .string r.format),
    ("path", .string r.path)]

def RuntimeConfig.encode (c : RuntimeConfig) : Value :=
  .object [("log", .object [("disabled", .bool c.logDisabled)]),
    ("dns", .object [("servers", .array (c.dnsServers.map DnsServer.encode)),
      ("final", .string c.dnsFinal), ("strategy", .string c.dnsStrategy),
      ("reverse_mapping", .bool c.reverseMapping)]),
    ("inbounds", .array (c.inbounds.map Inbound.encode)), ("outbounds", .array c.outbounds),
    ("route", .object ([("rules", .array (c.rules.map Rule.encode)), ("final", .string c.final),
      ("default_domain_resolver", .string c.defaultDomainResolver)] ++
      if c.ruleSets.isEmpty then [] else [("rule_set", .array (c.ruleSets.map RuleSet.encode))]))]

def ZapretFlow.encode (f : ZapretFlow) : Value :=
  .object [("profile", .string f.profile), ("ip", f.ip), ("port", f.port),
    ("transport", .string f.transport), ("mark", .int f.mark), ("strategy", f.strategy)]

def ZapretPlan.encode (p : ZapretPlan) : Value :=
  .object ([("version", .int (if p.lane.isSome then 2 else 1)), ("wan_device", p.wanDevice),
    ("flows", .array (p.flows.map ZapretFlow.encode)), ("repeats", p.repeats)] ++
    optionalField "lane" .string p.lane)

/-- `json(sprintf('%J', value))`. -/
def copy (v : Value) : Value := (Json.parse (Json.print v)).getD .null

theorem copy_eq (v : Value) : copy v = v := by
  rw [copy, Json.parse_print, Option.getD_some]

namespace Rendering

/-! The runtime of version 1. -/

structure LegacyRuntime where
  profile : String
  capabilities : Capabilities
  awg : Option Value
  config : RuntimeConfig

def addLegacyAwg (p : Protocols) : Protocols where
  outbounds := p.outbounds ++ [.object [("type", .string "direct"), ("tag", .string "amneziawg"),
    ("bind_interface", .string "avpnwg0"), ("routing_mark", .int 20193)]]
  candidates := p.candidates ++ ["amneziawg"]
  capabilities := { p.capabilities with amneziawg := true }

def urlTest (candidates : List String) : Value :=
  .object [("type", .string "urltest"), ("tag", .string "auto"), ("outbounds", strings candidates),
    ("url", .string "https://www.gstatic.com/generate_204"), ("interval", .string "1m"),
    ("tolerance", .int 50), ("interrupt_exist_connections", .bool false)]

def legacyRules (policy : Value) (selected : String) : List Rule :=
  let domains := texts (policy.get "direct_domains")
  let cidrs := texts (policy.get "direct_cidrs")
  [{ inbound := ["health"], action := .route selected }] ++ guardRules ++
    (if domains.isEmpty then [] else [{ domainSuffix := domains, action := .route "direct" }]) ++
    if cidrs.isEmpty then [] else [{ ipCidr := cidrs, action := .route "direct" }]

def legacyConfig (policy : Value) (p : Protocols) (selected : String) : RuntimeConfig where
  logDisabled := true
  dnsServers := [⟨"udp", "tunnel-dns", policy.get "dns_server", 53, selected⟩]
  dnsFinal := "tunnel-dns"
  dnsStrategy := "ipv4_only"
  reverseMapping := true
  inbounds := [⟨"tproxy", "vpn-net", "0.0.0.0", 12080⟩, ⟨"socks", "health", "127.0.0.1", 1088⟩]
  outbounds := p.outbounds ++ (if selected == "auto" then [urlTest p.candidates] else []) ++
    [directOutbound policy]
  rules := legacyRules policy selected
  final := selected
  defaultDomainResolver := "tunnel-dns"
  ruleSets := []

/-- AmneziaWG is only prepared where it may be selected. -/
def legacyAwg (snapshot policy : Value) : Option Value :=
  if (policy.get "selection").isIn ["auto", "amneziawg"] then awgProfile snapshot policy none
  else none

def legacyRuntime (snapshot policy : Value) (p : Protocols) : LegacyRuntime where
  profile := (policy.get "selection").text
  capabilities := { p.capabilities with policyRouting := true }
  awg := legacyAwg snapshot policy
  config := legacyConfig policy p (policy.get "selection").text

def renderLegacyPolicy (snapshot policy : Value) : Except String LegacyRuntime :=
  if !ipv4 ((snapshot.get "server").get "endpoint") then .error "endpoint_ipv4_required"
  else do
    let p ← addProtocol snapshot policy ⟨[], [], noCapabilities⟩ "vless"
    let p ← addProtocol snapshot policy p "hysteria2"
    let p := if (legacyAwg snapshot policy).isSome then addLegacyAwg p else p
    let selection := policy.get "selection"
    if p.candidates.isEmpty then .error "no_supported_vpn"
    else if !selection.is "auto" && !selection.isIn p.candidates then
      .error "selected_vpn_unavailable"
    else .ok (legacyRuntime snapshot policy p)

def renderLegacy (snapshot policy : Value) : Except String LegacyRuntime :=
  if !(validateSnapshot snapshot).isEmpty then .error "snapshot_validation_failed"
  else
    match validatePolicy policy, normalizedPolicy policy with
    | none, some effective => renderLegacyPolicy snapshot effective
    | failure, _ => .error (failure.getD "invalid_policy")

/-! Bundles. -/

def identityFields (version : Int) (entry : Value) : List (String × Value) :=
  [("version", .int version), ("router_id", (entry.get "snapshot").get "router_id"),
    ("etag", entry.get "etag"), ("attempt", entry.get "attempt")]

def legacyValue (entry policy : Value) (rt : LegacyRuntime) : Value :=
  .object (identityFields 1 entry ++ [("policy", copy policy), ("config", rt.config.encode),
    ("profile", .string rt.profile), ("capabilities", rt.capabilities.encode)] ++
    optionalField "awg" id rt.awg)

def bundleVersion (entry : Value) (lane : Option String) : Int :=
  if lane.isSome && hasLanes (entry.get "snapshot") then 4 else 2

def bundleValue (entry policy : Value) (lane : Option String) (rt : Runtime) : Value :=
  let version := bundleVersion entry lane
  .object (identityFields version entry ++ [("policy", copy policy), ("config", rt.config.encode),
    ("profile", .string rt.profile), ("candidates", strings rt.candidates),
    ("capabilities", rt.capabilities.encode)] ++
    (if 3 ≤ version then optionalField "lane" .string lane else []) ++
    optionalField "awg" id rt.awg ++ optionalField "zapret" ZapretPlan.encode rt.zapret)

section

-- `jsonLength` stands for the number of bytes that `sprintf('%J')` prints.
variable (jsonLength : Value → Nat)

def bounded (value : Value) : RenderResult Value :=
  if 65536 ≤ jsonLength value then .failed "runtime_bundle_too_large" else .ok value

def legacyBundle (entry policy : Value) : RenderResult Value :=
  if entry.isNull then .failed "snapshot_not_applied"
  else
    match renderLegacy (entry.get "snapshot") policy with
    | .error code => .failed code
    | .ok rt => bounded jsonLength (legacyValue entry policy rt)

def bundle (entry policy preferred : Value) (lane : Option String) : RenderResult Value :=
  if entry.isNull then .failed "snapshot_not_applied"
  else
    match render (entry.get "snapshot") policy preferred lane with
    | .failed code => .failed code
    | .empty lane => .empty lane
    | .ok rt => bounded jsonLength (bundleValue entry policy lane rt)

/-- One of the versions that have been written. -/
def versionOf (value : Value) : Option Int :=
  match value.get "version" with
  | .int n => if [1, 2, 3, 4].contains n then some n else none
  | _ => none

/-- The bundle as it is made again for a version. -/
def expected (value entry : Value) (version : Int) : RenderResult Value :=
  if version == 1 then legacyBundle jsonLength entry (value.get "policy")
  else if version == 2 then bundle jsonLength entry (value.get "policy") (value.get "profile") none
  else bundle jsonLength entry (value.get "policy") (value.get "profile")
    (some (value.get "lane").text)

def isText : Value → Bool
  | .string _ => true
  | _ => false

def matchesLane (value : Value) (version : Int) (lane : Option String) : Bool :=
  !(lane == some "vpn_zapret" && decide (version < 3)) &&
    (decide (version < 3) || (isText (value.get "lane") && lane.all (value.get "lane").is))

def matchesBundle (value entry : Value) (lane : Option String) : Bool :=
  value.isObject && !entry.isNull &&
    (value.get "router_id").looseEq ((entry.get "snapshot").get "router_id") &&
    (value.get "etag").looseEq (entry.get "etag") &&
    (value.get "attempt").looseEq (entry.get "attempt") &&
    match versionOf value with
    | none => false
    | some version => matchesLane value version lane &&
      match expected jsonLength value entry version with
      | .ok again => Json.print again == Json.print value
      | _ => false

end

/-! A bundle that is made is accepted, and nothing else is. -/

theorem render_ok_iff {snapshot policy preferred : Value} {lane : Option String} {rt : Runtime} :
    render snapshot policy preferred lane = .ok rt ↔ validateSnapshot snapshot = [] ∧
      validatePolicy policy = none ∧ ∃ descriptor effective, laneDescriptor lane = some descriptor ∧
        (descriptor.any (·.id == "vpn_zapret") && !hasLanes snapshot) = false ∧
        normalizedPolicy policy = some effective ∧
        renderLane snapshot effective preferred (if hasLanes snapshot then descriptor else none) =
          .ok rt := by
  constructor
  · intro h
    unfold render at h
    split at h
    · cases h
    rename_i hs
    split at h
    · cases h
    rename_i descriptor hlane
    split at h
    · cases h
    rename_i hempty
    split at h
    · rename_i effective hp hn
      dsimp only at h
      split at h
      · cases h
      · rename_i hr
        obtain rfl := RenderResult.ok.inj h
        exact ⟨by simpa using hs, hp, descriptor, effective, hlane, Bool.eq_false_iff.mpr hempty, hn, hr⟩
    · cases h
  · rintro ⟨hs, hp, descriptor, effective, hlane, hempty, hn, hr⟩
    simp only [render, hs, hlane, hempty, hp, hn, hr]
    rfl

theorem select_again {policy preferred : Value} {candidates : List String}
    (h : candidates.isEmpty = false) :
    select policy (.string (select policy preferred candidates)) candidates =
      select policy preferred candidates := by
  by_cases hauto : (policy.get "selection").is "auto" = true
  · have hin : (Value.string (select policy preferred candidates)).isIn candidates = true :=
      List.contains_iff_mem.mpr (select_mem h (Or.inl hauto))
    rw [select, if_pos hauto, if_pos hin]
    rfl
  · rw [select, select, if_neg hauto, if_neg hauto]

theorem renderLane_again {snapshot policy preferred : Value} {managed : Option LaneDescriptor}
    {rt : Runtime} (h : renderLane snapshot policy preferred managed = .ok rt) :
    renderLane snapshot policy (.string rt.profile) managed = .ok rt := by
  unfold renderLane at h ⊢
  split at h
  · cases h
  rename_i hendpoint
  rw [if_neg hendpoint]
  obtain ⟨p, hp, h⟩ := except_bind_eq_ok.mp h
  refine except_bind_eq_ok.mpr ⟨p, hp, ?_⟩
  dsimp only at h ⊢
  split at h
  · cases h
  rename_i hcandidates
  rw [if_neg hcandidates]
  split at h
  · cases h
  rename_i hselection
  rw [if_neg hselection]
  split at h
  · cases h
  · rename_i zapret hplan
    obtain rfl := Except.ok.inj h
    have hagain : select policy (.string (select policy preferred p.candidates)) p.candidates =
        select policy preferred p.candidates := 
      select_again (Bool.eq_false_iff.mpr hcandidates)
    exact congrArg (fun selected => Except.ok (runtimeOf snapshot policy managed p selected zapret)) hagain

theorem render_again {snapshot policy preferred : Value} {lane : Option String} {rt : Runtime}
    (h : render snapshot policy preferred lane = .ok rt) :
    render snapshot policy (.string rt.profile) lane = .ok rt := by
  obtain ⟨hs, hp, descriptor, effective, hlane, hempty, hn, hr⟩ := render_ok_iff.mp h
  exact render_ok_iff.mpr
    ⟨hs, hp, descriptor, effective, hlane, hempty, hn, renderLane_again hr⟩

theorem render_without_lanes {snapshot policy preferred : Value} {lane : Option String}
    {rt : Runtime} (h : render snapshot policy preferred lane = .ok rt)
    (hlanes : hasLanes snapshot = false) :
    render snapshot policy preferred none = .ok rt ∧ lane ≠ some "vpn_zapret" := by
  obtain ⟨hs, hp, descriptor, effective, hlane, hempty, hn, hr⟩ := render_ok_iff.mp h
  refine ⟨render_ok_iff.mpr ⟨hs, hp, none, effective, rfl, rfl, hn, ?_⟩, ?_⟩
  · simpa [hlanes] using hr
  · rintro rfl
    have hd : descriptor.any (·.id == "vpn_zapret") = true := by
      rw [← Option.some.inj hlane]
      rfl
    rw [hd, hlanes] at hempty
    cases hempty

section

variable {jsonLength : Value → Nat}

theorem bounded_eq_ok {value v : Value} :
    bounded jsonLength value = .ok v ↔ jsonLength value < 65536 ∧ v = value := by
  unfold bounded
  split
  · rename_i h
    exact ⟨fun h' => (by cases h'), fun h' => absurd h (Nat.not_le.mpr h'.1)⟩
  · rename_i h
    exact ⟨fun h' => ⟨Nat.not_le.mp h, (RenderResult.ok.inj h').symm⟩, fun h' => by rw [h'.2]⟩

theorem bundle_eq_ok {entry policy preferred value : Value} {lane : Option String} :
    bundle jsonLength entry policy preferred lane = .ok value ↔ entry.isNull = false ∧
      ∃ rt, render (entry.get "snapshot") policy preferred lane = .ok rt ∧
        jsonLength (bundleValue entry policy lane rt) < 65536 ∧
        value = bundleValue entry policy lane rt := by
  unfold bundle
  split
  · rename_i h
    exact ⟨fun h' => (by cases h'), fun h' => absurd h (by simp [h'.1])⟩
  · rename_i h
    rw [Bool.not_eq_true] at h
    cases hr : render (entry.get "snapshot") policy preferred lane with
    | failed code => exact ⟨fun h' => (by cases h'), fun ⟨_, _, h', _⟩ => (by cases h')⟩
    | empty lane => exact ⟨fun h' => (by cases h'), fun ⟨_, _, h', _⟩ => (by cases h')⟩
    | ok rt =>
      rw [bounded_eq_ok]
      constructor
      · exact fun h' => ⟨h, rt, rfl, h'⟩
      · rintro ⟨-, rt', hrt, h'⟩
        obtain rfl := RenderResult.ok.inj hrt
        exact h'

theorem bundle_of_length {g : Value → Nat} {entry policy preferred value : Value}
    {lane : Option String} (h : bundle jsonLength entry policy preferred lane = .ok value)
    (hg : g value < 65536) : bundle g entry policy preferred lane = .ok value := by
  obtain ⟨hentry, rt, hrender, -, rfl⟩ := bundle_eq_ok.mp h
  exact bundle_eq_ok.mpr ⟨hentry, rt, hrender, hg, rfl⟩

theorem legacyBundle_eq_ok {entry policy value : Value} :
    legacyBundle jsonLength entry policy = .ok value ↔ entry.isNull = false ∧
      ∃ rt, renderLegacy (entry.get "snapshot") policy = .ok rt ∧
        jsonLength (legacyValue entry policy rt) < 65536 ∧ value = legacyValue entry policy rt := by
  unfold legacyBundle
  split
  · rename_i h
    exact ⟨fun h' => (by cases h'), fun h' => absurd h (by simp [h'.1])⟩
  · rename_i h
    rw [Bool.not_eq_true] at h
    cases hr : renderLegacy (entry.get "snapshot") policy with
    | error code => exact ⟨fun h' => (by cases h'), fun ⟨_, _, h', _⟩ => (by cases h')⟩
    | ok rt =>
      simp only []
      rw [bounded_eq_ok]
      constructor
      · exact fun h' => ⟨h, rt, rfl, h'⟩
      · rintro ⟨-, rt', hrt, h'⟩
        obtain rfl := Except.ok.inj hrt
        exact h'

theorem bundleValue_get (entry policy : Value) (lane : Option String) (rt : Runtime) :
    (bundleValue entry policy lane rt).get "version" = .int (bundleVersion entry lane) ∧
      (bundleValue entry policy lane rt).get "router_id" = (entry.get "snapshot").get "router_id" ∧
      (bundleValue entry policy lane rt).get "etag" = entry.get "etag" ∧
      (bundleValue entry policy lane rt).get "attempt" = entry.get "attempt" ∧
      (bundleValue entry policy lane rt).get "policy" = policy ∧
      (bundleValue entry policy lane rt).get "profile" = .string rt.profile := by
  refine ⟨rfl, rfl, rfl, rfl, ?_, rfl⟩
  exact copy_eq policy

theorem bundleVersion_none (entry : Value) : bundleVersion entry none = 2 := rfl

theorem bundleVersion_of_lanes {entry : Value} (lane : String)
    (h : hasLanes (entry.get "snapshot") = true) : bundleVersion entry (some lane) = 4 := by
  rw [bundleVersion, h]
  rfl

theorem bundleVersion_without_lanes {entry : Value} (lane : Option String)
    (h : hasLanes (entry.get "snapshot") = false) : bundleVersion entry lane = 2 := by
  rw [bundleVersion, h, Bool.and_false]
  rfl

theorem bundleValue_lane (entry policy : Value) (lane : String) (rt : Runtime)
    (h : hasLanes (entry.get "snapshot") = true) :
    (bundleValue entry policy (some lane) rt).get "lane" = .string lane := by
  simp only [bundleValue, bundleVersion_of_lanes lane h]
  rfl

theorem matchesLane_bundle {entry policy preferred : Value} {lane : Option String} {rt : Runtime}
    (h : render (entry.get "snapshot") policy preferred lane = .ok rt) :
    matchesLane (bundleValue entry policy lane rt) (bundleVersion entry lane) lane = true := by
  cases hlanes : hasLanes (entry.get "snapshot") with
  | false =>
    have hne := (render_without_lanes h hlanes).2
    simp [matchesLane, bundleVersion_without_lanes lane hlanes, hne]
  | true =>
    cases lane with
    | none => simp [matchesLane, bundleVersion_none]
    | some lane =>
      have hself : (Value.string lane).is lane = true := Value.looseEq_string.mpr rfl
      simp [matchesLane, bundleVersion_of_lanes lane hlanes,
        bundleValue_lane entry policy lane rt hlanes, isText, hself]

theorem expected_two (value entry : Value) : expected jsonLength value entry 2 =
    bundle jsonLength entry (value.get "policy") (value.get "profile") none := rfl

theorem expected_of_three_le {value entry : Value} {version : Int} (h : 3 ≤ version) :
    expected jsonLength value entry version =
      bundle jsonLength entry (value.get "policy") (value.get "profile")
        (some (value.get "lane").text) := by
  have hone : (version == 1) = false := beq_eq_false_iff_ne.mpr (by omega)
  have htwo : (version == 2) = false := beq_eq_false_iff_ne.mpr (by omega)
  rw [expected, hone, if_neg (by decide), htwo, if_neg (by decide)]

theorem expected_bundle {entry policy preferred value : Value} {lane : Option String}
    (h : bundle jsonLength entry policy preferred lane = .ok value) :
    expected jsonLength value entry (bundleVersion entry lane) = .ok value := by
  obtain ⟨hentry, rt, hr, hbound, rfl⟩ := bundle_eq_ok.mp h
  obtain ⟨-, -, -, -, hpolicy, hprofile⟩ := bundleValue_get entry policy lane rt
  have hagain := render_again hr
  cases hlanes : hasLanes (entry.get "snapshot") with
  | false =>
    have hversion := bundleVersion_without_lanes lane hlanes
    have hnone : bundleValue entry policy lane rt = bundleValue entry policy none rt := by
      simp only [bundleValue, hversion, bundleVersion_none]
      rfl
    rw [hversion, expected_two, hpolicy, hprofile]
    exact bundle_eq_ok.mpr ⟨hentry, rt, (render_without_lanes hagain hlanes).1, hnone ▸ hbound, hnone⟩
  | true =>
    cases lane with
    | none =>
      rw [bundleVersion_none, expected_two, hpolicy, hprofile]
      exact bundle_eq_ok.mpr ⟨hentry, rt, hagain, hbound, rfl⟩
    | some lane =>
      rw [bundleVersion_of_lanes lane hlanes, expected_of_three_le (by decide), hpolicy, hprofile,
        bundleValue_lane entry policy lane rt hlanes]
      exact bundle_eq_ok.mpr ⟨hentry, rt, hagain, hbound, rfl⟩

theorem versionOf_bundle (entry policy : Value) (lane : Option String) (rt : Runtime) :
    versionOf (bundleValue entry policy lane rt) = some (bundleVersion entry lane) := by
  have hversion : bundleVersion entry lane = 4 ∨ bundleVersion entry lane = 2 := by
    unfold bundleVersion
    split
    · exact Or.inl rfl
    · exact Or.inr rfl
  rw [versionOf, (bundleValue_get entry policy lane rt).1]
  rcases hversion with h | h <;> rw [h] <;> rfl

theorem validEntry_identity {entry : Value} {sequence : Int}
    (h : Journal.validEntry entry sequence = true) :
    entry.isNull = false ∧ (∀ v ∈ [(entry.get "snapshot").get "router_id", entry.get "etag",
      entry.get "attempt"], v.looseEq v = true) := by
  simp only [Journal.validEntry, Bool.and_eq_true] at h
  obtain ⟨⟨⟨hkeys, hetag⟩, hattempt⟩, hs⟩ := h
  have hnull : entry.isNull = false := by
    obtain ⟨fields, rfl, -⟩ := Value.hasExactKeys_iff.mp hkeys
    rfl
  obtain ⟨routerId, hrouter, -⟩ :=
    Value.matches_iff.mp (validateSnapshot_routerId (List.isEmpty_iff.mp hs))
  obtain ⟨etag, hetag, -⟩ := Value.matches_iff.mp hetag
  obtain ⟨attempt, hattempt, -⟩ := Value.isInteger_iff.mp hattempt
  refine ⟨hnull, fun v hv => ?_⟩
  simp only [List.mem_cons, List.not_mem_nil, or_false] at hv
  rcases hv with rfl | rfl | rfl
  · rw [hrouter]
    exact Value.looseEq_string.mpr rfl
  · rw [hetag]
    exact Value.looseEq_string.mpr rfl
  · rw [hattempt]
    exact Value.looseEq_int.mpr rfl

theorem matchesBundle_bundle {entry policy preferred value : Value} {lane : Option String}
    {sequence : Int} (hentry : Journal.validEntry entry sequence = true)
    (h : bundle jsonLength entry policy preferred lane = .ok value) :
    matchesBundle jsonLength value entry lane = true := by
  have hexpected := expected_bundle h
  obtain ⟨-, rt, hr, -, rfl⟩ := bundle_eq_ok.mp h
  obtain ⟨-, hrouter, hetag, hattempt, -, -⟩ := bundleValue_get entry policy lane rt
  obtain ⟨hnull, hself⟩ := validEntry_identity hentry
  have hobject : (bundleValue entry policy lane rt).isObject = true := rfl
  rw [matchesBundle, hobject, hrouter, hetag, hattempt, versionOf_bundle, hnull, hself _ (by simp),
    hself _ (by simp), hself _ (by simp)]
  simp [matchesLane_bundle hr, hexpected]

/-- What a value is that is accepted: the bundle of one of the three versions that are made, rendered
from the entry and from what the value says that its policy, its profile and its lane are. -/
inductive Fresh (value entry : Value) (lane : Option String) : Prop
  | legacy (rt : LegacyRuntime) (hlane : lane ≠ some "vpn_zapret")
      (rendered : renderLegacy (entry.get "snapshot") (value.get "policy") = .ok rt)
      (same : value = legacyValue entry (value.get "policy") rt)
  | single (rt : Runtime) (hlane : lane ≠ some "vpn_zapret")
      (rendered : render (entry.get "snapshot") (value.get "policy") (value.get "profile") none =
        .ok rt)
      (same : value = bundleValue entry (value.get "policy") none rt)
  | managed (rt : Runtime) (id : String) (hlane : ∀ l ∈ lane, l = id)
      (rendered : render (entry.get "snapshot") (value.get "policy") (value.get "profile")
        (some id) = .ok rt)
      (lanes : hasLanes (entry.get "snapshot") = true)
      (same : value = bundleValue entry (value.get "policy") (some id) rt)

theorem versionOf_eq {value : Value} {version : Int} (h : versionOf value = some version) :
    value.get "version" = .int version ∧ (version = 1 ∨ version = 2 ∨ version = 3 ∨ version = 4) := by
  unfold versionOf at h
  split at h
  · rename_i n hn
    split at h
    · rename_i hmem
      obtain rfl := Option.some.inj h
      exact ⟨hn, by simpa using hmem⟩
    · cases h
  · cases h

theorem fresh_of_matches {value entry : Value} {lane : Option String}
    (h : matchesBundle jsonLength value entry lane = true) : Fresh value entry lane := by
  simp only [matchesBundle, Bool.and_eq_true] at h
  obtain ⟨-, h⟩ := h
  cases hversion : versionOf value with
  | none => simp [hversion] at h
  | some version =>
    simp only [hversion, Bool.and_eq_true] at h
    obtain ⟨hlane, h⟩ := h
    obtain ⟨hget, hcases⟩ := versionOf_eq hversion
    cases hexpected : expected jsonLength value entry version with
    | failed code => simp [hexpected] at h
    | empty lane => simp [hexpected] at h
    | ok again =>
      simp only [hexpected, beq_iff_eq] at h
      obtain rfl := Json.print_injective h
      simp only [matchesLane, Bool.and_eq_true, Bool.or_eq_true, decide_eq_true_eq,
        Bool.not_eq_true', Bool.and_eq_false_iff, beq_eq_false_iff_ne, decide_eq_false_iff_not] at hlane
      rcases hcases with rfl | rfl | hmanaged
      · obtain ⟨-, rt, hr, -, hsame⟩ := legacyBundle_eq_ok.mp hexpected
        exact .legacy rt (by simpa using hlane.1) hr hsame
      · obtain ⟨-, rt, hr, -, hsame⟩ := bundle_eq_ok.mp hexpected
        exact .single rt (by simpa using hlane.1) hr hsame
      · have hthree : ¬version < 3 := by omega
        rw [expected_of_three_le (by omega)] at hexpected
        obtain ⟨-, rt, hr, -, hsame⟩ := bundle_eq_ok.mp hexpected
        obtain ⟨hstring, hall⟩ := hlane.2.resolve_left hthree
        cases hid : again.get "lane" with
        | string id =>
          rw [hid] at hr hsame hall
          have hlanes : hasLanes (entry.get "snapshot") = true := by
            have hnumber := hget
            rw [hsame, (bundleValue_get _ _ _ _).1] at hnumber
            by_contra hno
            have htwo := bundleVersion_without_lanes (some id) (Bool.eq_false_iff.mpr hno)
            rw [show (Value.string id).text = id from rfl, htwo] at hnumber
            have heq := Value.int.inj hnumber
            omega
          refine .managed rt id (fun l hl => ?_) hr hlanes hsame
          rw [Option.mem_def.mp hl, Option.all_some] at hall
          exact (Value.looseEq_string.mp hall).symm
        | _ =>
          rw [hid] at hstring
          cases hstring

/-- A bundle that is made is accepted for its entry and its lane, also after it has been printed and
read; a value that is accepted is the bundle that is made again from the entry. -/
theorem bundle_round_trip (jsonLength : Value → Nat) {entry : Value} {sequence : Int}
    (hentry : Journal.validEntry entry sequence = true) (lane : Option String) :
    (∀ policy preferred value, bundle jsonLength entry policy preferred lane = .ok value →
      matchesBundle jsonLength value entry lane = true ∧
        ∃ read, Json.parse (Json.print value) = some read ∧
          matchesBundle jsonLength read entry lane = true) ∧
    ∀ value, matchesBundle jsonLength value entry lane = true → Fresh value entry lane := by
  refine ⟨fun policy preferred value h => ?_, fun value h => fresh_of_matches h⟩
  have hmatches := matchesBundle_bundle hentry h
  exact ⟨hmatches, value, Json.parse_print value, hmatches⟩

end

namespace BundleSample

def entryOf (snapshot : Value) : Value :=
  .object [("etag", .string (String.ofList ('"' :: List.replicate 64 'a' ++ ['"']))),
    ("snapshot", snapshot), ("attempt", .int 1)]

/-- The entry with the snapshot of one protocol. -/
def entry : Value := entryOf PlanSample.snapshot

def lanesEntry : Value := entryOf PlanSample.lanesSnapshot

theorem valid : Journal.validEntry entry 1 = true := by decide +kernel

/-- No number in these values has a fraction. -/
def printedLength : Value → Nat := JsonLine.size fun _ => []

def made : RenderResult Value → Bool
  | .ok _ => true
  | _ => false

theorem exists_of_made {r : RenderResult Value} (h : made r = true) : ∃ value, r = .ok value := by
  cases r with
  | ok value => exact ⟨value, rfl⟩
  | _ => cases h

theorem bundled : ∃ value, bundle printedLength entry PlanSample.policy .null none = .ok value :=
  exists_of_made (by decide +kernel)

theorem lanes_bundled : ∃ value, bundle printedLength lanesEntry PlanSample.lanesPolicy .null
    (some "vpn_zapret") = .ok value :=
  exists_of_made (by decide +kernel)

end BundleSample

open BundleSample in
theorem bundle_round_trip_awg :
    ∃ value, bundle printedLength entry PlanSample.policy .null none = .ok value ∧
      matchesBundle printedLength value entry none = true ∧ Fresh value entry none := by
  obtain ⟨value, h⟩ := bundled
  have hround := bundle_round_trip printedLength valid none
  have hmatches := (hround.1 PlanSample.policy .null value h).1
  exact ⟨value, h, hmatches, hround.2 value hmatches⟩

end Rendering

end AutoVPN
