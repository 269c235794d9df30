import AutoVPN.Lib.Program
import AutoVPN.Router.Render
import Mathlib.Data.List.Nodup
import Mathlib.Data.List.Sublists

/-! The rendered rules are a kill switch: whatever a policy asks for, a connection leaves the tunnel
only where one of its exceptions says so. -/

namespace AutoVPN

namespace Value

theorem get_set_ne {v w : Value} {key name : String} (h : name ≠ key) :
    (v.set key w).get name = v.get name := by
  have hne : (name == key) = false := by simpa using h
  cases v with
  | object fs =>
    rw [set]
    split
    · rename_i hkey
      rw [get, get]
      congr 1
      clear hkey
      induction fs with
      | nil => rfl
      | cons f fs ih =>
        rw [List.map_cons, List.lookup_cons]
        by_cases hf : f.1 = key
        · rw [if_pos (by simpa using hf), List.lookup_cons, hf, hne, ih]
        · rw [if_neg (by simpa using hf), List.lookup_cons, ih]
    · have hnone : List.lookup name [(key, w)] = none := by
        rw [List.lookup_cons, hne]
        rfl
      rw [get, get, List.lookup_append, hnone, Option.or_none]
  | _ => rfl

end Value

namespace Rendering

open FirstMatch

/-! The effective policy. -/

theorem normalizedPolicy_get {policy effective : Value} (h : normalizedPolicy policy = some effective)
    {key : String} (hm : key ≠ "hysteria_tls_mode") (ha : key ≠ "awg_available") :
    effective.get key = policy.get key := by
  have hdefault {v w : Value} {name : String} (hn : key ≠ name) :
      (defaultTo v name w).get key = v.get key := by
    rw [defaultTo]
    split
    · exact Value.get_set_ne hn
    · rfl
  rw [normalizedPolicy] at h
  split at h
  · rw [← Option.some.inj h, hdefault ha, hdefault hm]
  · cases h

/-! The outbounds. -/

def tagOf (outbound : Value) : String := (outbound.get "tag").text

theorem tagOf_set {v w : Value} {key : String} (h : "tag" ≠ key) : tagOf (v.set key w) = tagOf v := by
  rw [tagOf, Value.get_set_ne h, tagOf]

theorem tagOf_mark (outbound : Value) (flow : ZapretFlow) :
    tagOf (markOutbound outbound flow) = tagOf outbound := by
  rw [markOutbound]
  split
  · exact tagOf_set (by decide)
  · rfl

theorem tagOf_marks (flows : List ZapretFlow) (outbound : Value) :
    tagOf (flows.foldl markOutbound outbound) = tagOf outbound := by
  induction flows generalizing outbound with
  | nil => rfl
  | cons flow flows ih => rw [List.foldl_cons, ih, tagOf_mark]

/-- The profiles in the order in which they are tried. -/
def profiles : List String := ["vless-reality", "hysteria2", "amneziawg"]

/-- What has been collected after the profiles `known`. -/
structure Protocols.Within (p : Protocols) (known : List String) : Prop where
  tags : p.outbounds.map tagOf = p.candidates
  sublist : p.candidates.Sublist known

theorem Protocols.Within.skip {p : Protocols} {known : List String} (h : p.Within known)
    (name : String) : p.Within (known ++ [name]) :=
  ⟨h.tags, h.sublist.trans (List.sublist_append_left _ _)⟩

theorem addProtocol_within {snapshot policy : Value} {p q : Protocols} {known : List String}
    {name tag : String} (h : addProtocol snapshot policy p name = .ok q) (hp : p.Within known)
    (ht : (((snapshot.get "protocols").get name).get "enabled").truthy = true →
      (((snapshot.get "protocols").get name).get "outbound").get "tag" = .string tag) :
    q.Within (known ++ [tag]) := by
  rw [addProtocol] at h
  split at h
  · obtain rfl := Except.ok.inj h
    exact hp.skip tag
  · rename_i henabled
    split at h
    · split at h
      · cases h
      · obtain rfl := Except.ok.inj h
        exact hp.skip tag
    · obtain rfl := Except.ok.inj h
      have htag := ht (by simpa using henabled)
      refine ⟨?_, ?_⟩
      · rw [List.map_append, hp.tags, List.map_singleton, tagOf_set (by decide), tagOf]
      · show (p.candidates ++ [_]).Sublist _
        rw [htag]
        exact hp.sublist.append_right [tag]

/-! What an accepted snapshot says of its outbounds. -/

theorem accepted_protocols {snapshot : Value} (h : validateSnapshot snapshot = []) :
    ∃ dual, (snapshot.get "protocols").hasExactKeys (protocolKeys dual) = true ∧
      validateProtocols (snapshot.get "protocols") ((snapshot.get "server").get "endpoint")
        dual = [] := by
  refine ⟨(snapshot.get "schema_version").looseEq (.int 4), ?_⟩
  unfold validateSnapshot at h
  dsimp only at h
  split at h
  · simp [addError] at h
  · split at h
    · simp [addError] at h
    · rename_i hkeys
      refine ⟨by simpa using hkeys, ?_⟩
      split at h
      · rename_i hempty
        simp only [Bool.and_eq_true, List.isEmpty_iff] at hempty
        exact (List.append_eq_nil_iff.mp hempty.2).2
      · exact (List.append_eq_nil_iff.mp h).2

theorem accepted_slot {slot : Value} {payloadName : String} {check : Value → List SchemaError}
    (h : validateProtocol slot payloadName check = []) (he : (slot.get "enabled").truthy = true) :
    check (slot.get payloadName) = [] := by
  unfold validateProtocol validateProtocolSlot at h
  dsimp only at h
  split at h
  · simp [addError] at h
  · rename_i hkeys
    simp only [Bool.or_eq_true, Bool.not_eq_true', not_or, Bool.not_eq_false] at hkeys
    have htrue : (slot.get "enabled").isTrue = true := by
      obtain ⟨b, hb⟩ := Value.isBool_iff.mp hkeys.2
      rw [hb] at he ⊢
      cases b with
      | true => rfl
      | false => cases he
    simp only [htrue, List.append_eq_nil_iff, addError_eq_nil, Bool.true_and,
      Bool.not_eq_false'] at h
    have hpayload := h.2
    rwa [if_pos h.1.2] at hpayload

theorem vless_tag {value endpoint : Value} (h : validateVless value endpoint = []) :
    value.get "tag" = .string "vless-reality" := by
  unfold validateVless at h
  dsimp only at h
  split at h
  · simp [addError] at h
  · simp only [List.append_eq_nil_iff, addError_eq_nil, Bool.or_eq_false_iff,
      Bool.not_eq_false'] at h
    exact (Value.is_iff (by decide)).mp h.1.1.1.1.1.2

theorem hysteria_tag {value endpoint : Value} (h : validateHysteria value endpoint = []) :
    value.get "tag" = .string "hysteria2" := by
  unfold validateHysteria at h
  extract_lets path obfs expected at h
  split at h
  · simp [addError] at h
  · have hidentity := (List.append_eq_nil_iff.mp (List.append_eq_nil_iff.mp
      (List.append_eq_nil_iff.mp h).1).1).1
    simp only [addError_eq_nil, Bool.or_eq_false_iff, Bool.not_eq_false'] at hidentity
    exact (Value.is_iff (by decide)).mp hidentity.1.2

theorem collect_within {snapshot policy : Value} {managed : Option LaneDescriptor} {p : Protocols}
    (hs : validateSnapshot snapshot = []) (h : collect snapshot policy managed = .ok p) :
    p.Within profiles ∧ ((awgProfile snapshot policy managed).isSome → "amneziawg" ∈ p.candidates) := by
  obtain ⟨dual, -, hprotocols⟩ := accepted_protocols hs
  simp only [validateProtocols, List.append_eq_nil_iff] at hprotocols
  obtain ⟨⟨⟨hvless, hhysteria⟩, -⟩, -⟩ := hprotocols
  obtain ⟨q, hq, h⟩ := except_bind_eq_ok.mp h
  obtain ⟨r, hr, h⟩ := except_bind_eq_ok.mp h
  have hstart : (⟨[], [], noCapabilities⟩ : Protocols).Within [] := ⟨rfl, List.Sublist.refl _⟩
  have hqw : q.Within ["vless-reality"] :=
    addProtocol_within hq hstart fun he => by
      have hpayload := accepted_slot hvless he
      exact vless_tag hpayload
  have hrw : r.Within ["vless-reality", "hysteria2"] :=
    addProtocol_within hr hqw fun he => by
      have hpayload := accepted_slot hhysteria he
      exact hysteria_tag hpayload
  split at h
  · rename_i hawg
    obtain rfl := Except.ok.inj h
    refine ⟨⟨?_, ?_⟩, fun _ => List.mem_append_right _ (List.mem_singleton_self _)⟩
    · show (r.outbounds ++ [_]).map tagOf = r.candidates ++ ["amneziawg"]
      rw [List.map_append, hrw.tags]
      rfl
    · exact hrw.sublist.append_right ["amneziawg"]
  · rename_i hawg
    obtain rfl := Except.ok.inj h
    exact ⟨hrw.skip "amneziawg", fun hsome => by rw [hawg] at hsome; cases hsome⟩

theorem select_mem {policy preferred : Value} {candidates : List String}
    (hne : candidates.isEmpty = false)
    (h : (policy.get "selection").is "auto" = true ∨ (policy.get "selection").isIn candidates = true) :
    select policy preferred candidates ∈ candidates := by
  have htext {v : Value} (hv : v.isIn candidates = true) : v.text ∈ candidates := by
    cases v with
    | string s => exact List.contains_iff_mem.mp hv
    | _ => cases hv
  rw [select]
  split
  · split
    · rename_i hpreferred
      exact htext hpreferred
    · cases candidates with
      | nil => cases hne
      | cons c cs => exact List.mem_cons_self
  · rename_i hauto
    exact htext (h.resolve_left hauto)

/-- What a rendered runtime is made of. -/
structure Made (policy : Value) (managed : Option LaneDescriptor) (rt : Runtime) : Prop where
  within : ∃ p : Protocols, p.Within profiles ∧ rt.candidates = p.candidates ∧
    ∃ outbounds, outbounds.map tagOf = p.candidates ∧ ∃ awg, (awg = true → "amneziawg" ∈ p.candidates) ∧
      rt.config = configOf policy (managed.getD Lanes.single) (negativeVpn policy managed) p outbounds
        awg rt.profile
  selected : rt.profile ∈ rt.candidates

theorem renderLane_made {snapshot policy preferred : Value} {managed : Option LaneDescriptor}
    {rt : Runtime} (hs : validateSnapshot snapshot = [])
    (h : renderLane snapshot policy preferred managed = .ok rt) : Made policy managed rt := by
  rw [renderLane] at h
  split at h
  · cases h
  obtain ⟨p, hp, h⟩ := except_bind_eq_ok.mp h
  obtain ⟨hwithin, hawg⟩ := collect_within hs hp
  dsimp only at h
  split at h
  · cases h
  rename_i hne
  split at h
  · cases h
  rename_i hselection
  split at h
  · cases h
  obtain rfl := Except.ok.inj h
  have hmem : select policy preferred p.candidates ∈ p.candidates := by
    refine select_mem (by simpa using hne) ?_
    simpa [Decidable.or_iff_not_imp_left] using hselection
  refine ⟨⟨p, hwithin, rfl, _, ?_, _, hawg, rfl⟩, hmem⟩
  rw [List.map_map, ← hwithin.tags]
  exact List.map_congr_left fun v _ => tagOf_marks _ v

end Rendering

/-! What the parts of the rules decide. -/

namespace SingBox

open FirstMatch Rendering

variable (box : SingBox)

def sniff (c : InboundConnection) : InboundConnection := { c with domain := box.sniffed c }

/-- The exceptions of the policy from the tunnel. -/
def isDirect (policy : Value) (c : InboundConnection) : Bool :=
  (c.domain.any fun d => (texts (policy.get "direct_domains")).any (box.hasSuffix · d)) ||
    (texts (policy.get "direct_cidrs")).any (box.inCidr · c.destination) ||
    ((policy.get "ru_bypass").isTrue && box.inRuleSet "autovpn-ru" c)

/-- What the policy sends from the negative network through the tunnel. -/
def isListed (policy : Value) (c : InboundConnection) : Bool :=
  (c.domain.any fun d => (texts (policy.get "vpn_domains")).any (box.hasSuffix · d)) ||
    (texts (policy.get "vpn_cidrs")).any (box.inCidr · c.destination)

/-- Destinations that no connection reaches. -/
def isBlocked (c : InboundConnection) : Bool :=
  c.destination.version == 6 || box.isPrivate c.destination

variable {box} {policy : Value} {final : Verdict} {c : InboundConnection} {rest : List Rule}

theorem matching_inbound {tag : String} {action : RuleAction} :
    box.matching { inbound := [tag], action := action } c = decide (c.inbound = tag) := by
  simp [matching, matchesDestination]

theorem matching_inbound_ne {r : Rule} {tag : String} (hr : r.inbound = [tag])
    (h : c.inbound ≠ tag) : box.matching r c = false := by
  simp [matching, hr, h]

theorem probeInbound_ne {tag : String} (h : tag.toList.head? ≠ some 'p') (candidate : String) :
    tag ≠ probeInbound candidate := by
  rintro rfl
  exact h (by simp [probeInbound])

theorem probeInbound_inj {a b : String} (h : probeInbound a = probeInbound b) : a = b :=
  (String.append_right_inj _).mp h

theorem run_guardRules :
    run box.matching box.act final (guardRules ++ rest) c =
      if c.port = 53 then .hijacked else if box.isBlocked c then .rejected
      else run box.matching box.act final rest (box.sniff c) := by
  have hport (r : Rule) (c : InboundConnection) (hr : r = { port := some 53, action := .hijackDns }) :
      box.matching r c = (53 == c.port) := by
    subst hr
    simp [matching, matchesDestination]
  by_cases hdns : c.port = 53
  · rw [if_pos hdns]
    exact run_stop (by simp [hport _ _ rfl, hdns]) rfl
  · rw [if_neg hdns]
    show run box.matching box.act final (_ :: _ :: _ :: _ :: rest) c = _
    rw [run_skip (by simpa [hport _ _ rfl] using fun h => hdns h.symm)]
    have hsniff : box.matching { action := .sniff "300ms" } c = true := by
      simp [matching, matchesDestination]
    rw [run_pass hsniff rfl]
    by_cases hversion : c.destination.version = 6
    · rw [if_pos (by simp [isBlocked, hversion])]
      exact run_stop (by simp [matching, matchesDestination, hversion]) rfl
    · rw [run_skip (by simpa [matching, matchesDestination, sniff] using fun h => hversion h.symm)]
      by_cases hprivate : box.isPrivate c.destination = true
      · rw [if_pos (by simp [isBlocked, hprivate])]
        exact run_stop (by simp [matching, matchesDestination, hprivate]) rfl
      · rw [if_neg (by simp [isBlocked, hversion, hprivate])]
        exact run_skip (by simpa [matching, matchesDestination, sniff] using hprivate)

variable {inbound : List String} (hi : inbound = [] ∨ c.inbound ∈ inbound) (names : List String)
  (action : RuleAction)

include hi

theorem any_suffix :
    (if names.isEmpty then [] else
      [({ inbound := inbound, domainSuffix := names, action := action } : Rule)]).any
        (box.matching · c) = c.domain.any fun d => names.any (box.hasSuffix · d) := by
  cases names with
  | nil => cases c.domain <;> rfl
  | cons name names => simp [matching, matchesDestination, hi]

theorem any_cidr :
    (if names.isEmpty then [] else
      [({ inbound := inbound, ipCidr := names, action := action } : Rule)]).any
        (box.matching · c) = names.any (box.inCidr · c.destination) := by
  cases names with
  | nil => rfl
  | cons name names => simp [matching, matchesDestination, hi]

omit hi

theorem run_directRules :
    run box.matching box.act final (directRules policy) c =
      if box.isDirect policy c then .outbound "direct" else final := by
  have hact : ∀ r ∈ directRules policy, box.act r c = .inr (.outbound "direct") := by
    intro r hr
    simp only [directRules, List.mem_append, List.mem_ite_nil_left, List.mem_ite_nil_right,
      List.mem_singleton] at hr
    rcases hr with (⟨-, rfl⟩ | ⟨-, rfl⟩) | ⟨-, rfl⟩
    all_goals rfl
  have hany : (directRules policy).any (box.matching · c) = box.isDirect policy c := by
    rw [directRules, List.any_append, List.any_append, any_suffix (.inl rfl), any_cidr (.inl rfl),
      isDirect]
    congr 1
    cases (policy.get "ru_bypass").isTrue with
    | true => simp [matching, matchesDestination]
    | false => rfl
  rw [← List.append_nil (directRules policy), run_uniform hact, hany]
  rfl

theorem run_negativeRules {selected : String} (hc : c.inbound = "negative-vpn-net") :
    run box.matching box.act final (negativeRules policy selected ++ rest) c =
      if box.isListed policy c then .outbound selected else .outbound "direct" := by
  have hi : ["negative-vpn-net"] = [] ∨ c.inbound ∈ ["negative-vpn-net"] := .inr (by simp [hc])
  rw [negativeRules, List.append_assoc, run_uniform (b := .outbound selected)]
  · rw [List.any_append, any_suffix hi, any_cidr hi, isListed]
    congr 1
    exact run_stop (by simp [matching_inbound, hc]) rfl
  · intro r hr
    simp only [List.mem_append, List.mem_ite_nil_left, List.mem_singleton] at hr
    rcases hr with ⟨-, rfl⟩ | ⟨-, rfl⟩
    all_goals rfl

theorem skip_negativeRules {selected : String} {r : Rule} (hr : r ∈ negativeRules policy selected)
    (hc : c.inbound ≠ "negative-vpn-net") : box.matching r c = false := by
  refine matching_inbound_ne ?_ hc
  simp only [negativeRules, List.mem_append, List.mem_ite_nil_left, List.mem_singleton] at hr
  rcases hr with (⟨-, rfl⟩ | ⟨-, rfl⟩) | rfl
  all_goals rfl

section

variable {negative : Bool} {candidates : List String} {selected : String}

theorem rulesOf_eq : rulesOf policy negative candidates selected =
    { inbound := ["health"], action := .route selected } :: (candidates.map probeRule ++
      (guardRules ++ ((if negative then negativeRules policy selected else []) ++
        directRules policy))) := by
  simp [rulesOf]

theorem run_health (hc : c.inbound = "health") :
    run box.matching box.act final (rulesOf policy negative candidates selected) c =
      .outbound selected := by
  rw [rulesOf_eq]
  exact run_stop (by simp [matching_inbound, hc]) rfl

theorem run_probe {candidate : String} (hm : candidate ∈ candidates)
    (hc : c.inbound = probeInbound candidate) :
    run box.matching box.act final (rulesOf policy negative candidates selected) c =
      .outbound candidate := by
  have hhealth : c.inbound ≠ "health" := fun h => probeInbound_ne (by decide) candidate (h.symm.trans hc)
  rw [rulesOf_eq, run_skip (matching_inbound_ne rfl hhealth)]
  refine run_stop_any (List.mem_map_of_mem hm) ?_ (fun r hr hmatch => ?_) _
  · rw [probeRule, matching_inbound, hc, decide_eq_true rfl]
  · obtain ⟨other, -, rfl⟩ := List.mem_map.mp hr
    rw [probeRule, matching_inbound, decide_eq_true_eq, hc] at hmatch
    rw [probeInbound_inj hmatch]
    rfl

theorem run_managed (hc : c.inbound ∈ ["vpn-net", "negative-vpn-net"]) :
    run box.matching box.act final (rulesOf policy negative candidates selected) c =
      if c.port = 53 then .hijacked else if box.isBlocked c then .rejected
      else run box.matching box.act final
        ((if negative then negativeRules policy selected else []) ++ directRules policy)
        (box.sniff c) := by
  have hhealth : c.inbound ≠ "health" := by
    rintro h
    rw [h] at hc
    revert hc
    decide
  have hprobe (candidate : String) : c.inbound ≠ probeInbound candidate := by
    rcases List.mem_pair.mp hc with h | h
    · rw [h]
      exact probeInbound_ne (by decide) candidate
    · rw [h]
      exact probeInbound_ne (by decide) candidate
  rw [rulesOf_eq, run_skip (matching_inbound_ne rfl hhealth), run_skip_all, run_guardRules]
  intro r hr
  obtain ⟨candidate, -, rfl⟩ := List.mem_map.mp hr
  exact matching_inbound_ne rfl (hprobe candidate)

theorem run_vpn (hc : c.inbound = "vpn-net") :
    run box.matching box.act final
        ((if negative then negativeRules policy selected else []) ++ directRules policy)
        (box.sniff c) =
      if box.isDirect policy (box.sniff c) then .outbound "direct" else final := by
  rw [run_skip_all, run_directRules]
  intro r hr
  rw [List.mem_ite_nil_right] at hr
  refine skip_negativeRules hr.2 ?_
  show c.inbound ≠ _
  rw [hc]
  decide

end

end SingBox

namespace Rendering

/-! The tags and the ports of a configuration. -/

def routesTo : RuleAction → List String
  | .route outbound => [outbound]
  | _ => []

/-- The outbounds that the routes and the name servers refer to. -/
def references (config : RuntimeConfig) : List String :=
  config.final :: config.rules.flatMap (fun r => routesTo r.action) ++
    config.dnsServers.map (·.detour)

/-- Every reference is to an outbound or a rule set that there is, and no tag or port is used
twice. -/
structure Consistent (config : RuntimeConfig) : Prop where
  references : ∀ tag ∈ references config, tag ∈ config.outbounds.map tagOf
  servers : [config.dnsFinal, config.defaultDomainResolver] ⊆ config.dnsServers.map (·.tag)
  ruleSets : ∀ r ∈ config.rules, r.ruleSet ⊆ config.ruleSets.map (·.tag)
  outboundTags : (config.outbounds.map tagOf).Nodup
  inboundTags : (config.inbounds.map (·.tag)).Nodup
  serverTags : (config.dnsServers.map (·.tag)).Nodup
  ruleSetTags : (config.ruleSets.map (·.tag)).Nodup
  ports : (config.inbounds.map (·.listenPort)).Nodup

/-- The lanes and the single runtime. -/
def lanes : List LaneDescriptor := Lanes.single :: Lanes.descriptors

theorem inbounds_distinct : ∀ candidates ∈ profiles.sublists, ∀ lane ∈ lanes, ∀ negative : Bool,
    ((inboundsOf lane negative candidates).map (·.tag)).Nodup ∧
      ((inboundsOf lane negative candidates).map (·.listenPort)).Nodup := by
  decide +kernel

theorem profiles_ne_direct : "direct" ∉ profiles := by decide

theorem mem_rulesOf {policy : Value} {negative : Bool} {candidates : List String}
    {selected : String} (hs : selected ∈ candidates) {r : Rule}
    (hr : r ∈ rulesOf policy negative candidates selected) :
    (routesTo r.action ⊆ "direct" :: candidates) ∧
      (r.ruleSet = [] ∨ (policy.get "ru_bypass").isTrue = true ∧ r.ruleSet = ["autovpn-ru"]) := by
  have hroute {tag : String} (ht : tag ∈ "direct" :: candidates) :
      routesTo (.route tag) ⊆ "direct" :: candidates := by
    simpa [routesTo] using ht
  have hselected := hroute (List.mem_cons_of_mem _ hs)
  have hdirect := hroute (List.mem_cons_self (l := candidates))
  simp only [rulesOf, List.mem_append, List.mem_singleton, List.mem_map, List.mem_ite_nil_right]
    at hr
  rcases hr with (((rfl | ⟨candidate, hc, rfl⟩) | hr) | ⟨-, hr⟩) | hr
  · exact ⟨hselected, .inl rfl⟩
  · exact ⟨hroute (List.mem_cons_of_mem _ hc), .inl rfl⟩
  · simp only [guardRules, List.mem_cons, List.not_mem_nil, or_false] at hr
    rcases hr with rfl | rfl | rfl | rfl
    all_goals exact ⟨List.nil_subset _, .inl rfl⟩
  · simp only [negativeRules, List.mem_append, List.mem_ite_nil_left, List.mem_singleton] at hr
    rcases hr with (⟨-, rfl⟩ | ⟨-, rfl⟩) | rfl
    · exact ⟨hselected, .inl rfl⟩
    · exact ⟨hselected, .inl rfl⟩
    · exact ⟨hdirect, .inl rfl⟩
  · simp only [directRules, List.mem_append, List.mem_ite_nil_left, List.mem_ite_nil_right,
      List.mem_singleton] at hr
    rcases hr with (⟨-, rfl⟩ | ⟨-, rfl⟩) | ⟨hru, rfl⟩
    · exact ⟨hdirect, .inl rfl⟩
    · exact ⟨hdirect, .inl rfl⟩
    · exact ⟨hdirect, .inr ⟨hru, rfl⟩⟩

theorem Made.consistent {policy : Value} {managed : Option LaneDescriptor} {rt : Runtime}
    (h : Made policy managed rt) (hlane : managed.getD Lanes.single ∈ lanes) :
    Consistent rt.config := by
  obtain ⟨p, hp, hcandidates, outbounds, htags, awg, hawg, hconfig⟩ := h.within
  have hselected := h.selected
  rw [hcandidates] at hselected
  have hsub : p.candidates ∈ profiles.sublists := List.mem_sublists.mpr hp.sublist
  have hinbounds := inbounds_distinct _ hsub _ hlane (negativeVpn policy managed)
  have hall : rt.config.outbounds.map tagOf = p.candidates ++ ["direct"] := by
    rw [hconfig, configOf, List.map_append, htags]
    rfl
  have hknown {tag : String} (ht : tag ∈ "direct" :: p.candidates) :
      tag ∈ rt.config.outbounds.map tagOf := by
    rw [hall]
    rcases List.mem_cons.mp ht with rfl | ht
    · exact List.mem_append_right _ (List.mem_singleton_self _)
    · exact List.mem_append_left _ ht
  constructor
  · intro tag ht
    rw [hconfig] at ht
    refine hknown ?_
    simp only [Rendering.references, configOf, List.mem_append, List.mem_cons, List.mem_flatMap,
      List.mem_map, List.not_mem_nil, or_false] at ht
    rcases ht with (rfl | ⟨r, hr, ht⟩) | ⟨server, (rfl | hserver), rfl⟩
    · exact List.mem_cons_of_mem _ hselected
    · exact (mem_rulesOf hselected hr).1 ht
    · exact List.mem_cons_of_mem _ hselected
    · rw [List.mem_ite_nil_right, List.mem_singleton] at hserver
      obtain ⟨ha, rfl⟩ := hserver
      exact List.mem_cons_of_mem _ (hawg ha)
  · rw [hconfig]
    simp [configOf]
  · intro r hr
    rw [hconfig] at hr ⊢
    rcases (mem_rulesOf hselected hr).2 with hnone | ⟨hru, hset⟩
    · rw [hnone]
      exact List.nil_subset _
    · rw [hset, configOf, if_pos hru]
      exact List.Subset.refl _
  · rw [hall]
    refine List.Nodup.append (hp.sublist.nodup (by decide)) (List.nodup_singleton _) ?_
    rw [List.disjoint_singleton]
    exact fun hd => profiles_ne_direct (hp.sublist.subset hd)
  · rw [hconfig]
    exact hinbounds.1
  · rw [hconfig]
    cases awg with
    | true =>
      show ["tunnel-dns", "awg-dns"].Nodup
      decide
    | false => exact List.nodup_singleton _
  · rw [hconfig]
    show (List.map _ (if (policy.get "ru_bypass").isTrue = true then [_] else [])).Nodup
    split
    · exact List.nodup_singleton _
    · exact List.nodup_nil
  · rw [hconfig]
    exact hinbounds.2

theorem mem_inboundsOf {lane : LaneDescriptor} {negative : Bool} {candidates : List String}
    {i : Inbound} (hi : i ∈ inboundsOf lane negative candidates) :
    i.tag = "vpn-net" ∨ i.tag = "health" ∨ (negative = true ∧ i.tag = "negative-vpn-net") ∨
      ∃ candidate ∈ candidates, i.tag = probeInbound candidate := by
  simp only [inboundsOf, List.mem_append, List.mem_cons, List.not_mem_nil, or_false,
    List.mem_ite_nil_right, List.mem_map] at hi
  rcases hi with ((rfl | rfl) | ⟨hn, rfl⟩) | ⟨candidate, hc, rfl⟩
  · exact .inl rfl
  · exact .inr (.inl rfl)
  · exact .inr (.inr (.inl ⟨hn, rfl⟩))
  · exact .inr (.inr (.inr ⟨candidate, hc, rfl⟩))

theorem negative_of_mem {lane : LaneDescriptor} {negative : Bool} {candidates : List String}
    (h : "negative-vpn-net" ∈ (inboundsOf lane negative candidates).map (·.tag)) :
    negative = true := by
  obtain ⟨i, hi, htag⟩ := List.mem_map.mp h
  rcases mem_inboundsOf hi with ht | ht | ⟨hn, -⟩ | ⟨candidate, -, ht⟩
  · exact absurd (ht.symm.trans htag) (by decide)
  · exact absurd (ht.symm.trans htag) (by decide)
  · exact hn
  · exact absurd (htag.symm.trans ht) (SingBox.probeInbound_ne (by decide) candidate)

end Rendering

open Rendering

/-- What the rules of a runtime decide for the connections of each inbound. -/
structure KillSwitch (box : SingBox) (policy : Value) (rt : Runtime) : Prop where
  inbounds : ∀ i ∈ rt.config.inbounds, i.tag ∈ ["vpn-net", "negative-vpn-net", "health"] ∨
    ∃ candidate ∈ rt.candidates, i.tag = probeInbound candidate
  tunnels : rt.profile ∈ rt.candidates ∧ "direct" ∉ rt.candidates
  health : ∀ c, c.inbound = "health" → box.evaluate rt.config c = .outbound rt.profile
  probe : ∀ candidate ∈ rt.candidates, ∀ c, c.inbound = probeInbound candidate →
    box.evaluate rt.config c = .outbound candidate
  dns : ∀ c, c.inbound ∈ ["vpn-net", "negative-vpn-net"] → c.port = 53 →
    box.evaluate rt.config c = .hijacked
  blocked : ∀ c, c.inbound ∈ ["vpn-net", "negative-vpn-net"] → c.port ≠ 53 →
    c.destination.version = 6 ∨ box.isPrivate c.destination = true →
    box.evaluate rt.config c = .rejected
  vpn : ∀ c, c.inbound = "vpn-net" → c.port ≠ 53 → box.isBlocked c = false →
    box.evaluate rt.config c =
      if box.isDirect policy (box.sniff c) then .outbound "direct" else .outbound rt.profile
  negative : "negative-vpn-net" ∈ rt.config.inbounds.map (·.tag) →
    ∀ c, c.inbound = "negative-vpn-net" → c.port ≠ 53 → box.isBlocked c = false →
    box.evaluate rt.config c =
      if box.isListed policy (box.sniff c) then .outbound rt.profile else .outbound "direct"

theorem Rendering.Made.killSwitch {policy : Value} {managed : Option LaneDescriptor} {rt : Runtime}
    (h : Made policy managed rt) (box : SingBox) : KillSwitch box policy rt := by
  obtain ⟨p, hp, hcandidates, outbounds, -, awg, -, hconfig⟩ := h.within
  have hevaluate (c : InboundConnection) : box.evaluate rt.config c =
      FirstMatch.run box.matching box.act (.outbound rt.profile)
        (rulesOf policy (negativeVpn policy managed) rt.candidates rt.profile) c := by
    rw [SingBox.evaluate, hconfig, hcandidates]
    rfl
  have hinbounds : rt.config.inbounds =
      inboundsOf (managed.getD Lanes.single) (negativeVpn policy managed) rt.candidates := by
    rw [hconfig, hcandidates]
    rfl
  constructor
  · intro i hi
    rw [hinbounds] at hi
    rcases mem_inboundsOf hi with ht | ht | ⟨-, ht⟩ | hprobe
    · exact .inl (by simp [ht])
    · exact .inl (by simp [ht])
    · exact .inl (by simp [ht])
    · exact .inr hprobe
  · refine ⟨h.selected, fun hd => profiles_ne_direct (hp.sublist.subset ?_)⟩
    rwa [hcandidates] at hd
  · intro c hc
    rw [hevaluate, SingBox.run_health hc]
  · intro candidate hm c hc
    rw [hevaluate, SingBox.run_probe hm hc]
  · intro c hc hport
    rw [hevaluate, SingBox.run_managed hc, if_pos hport]
  · intro c hc hport hblocked
    have hb : box.isBlocked c = true := by simpa [SingBox.isBlocked] using hblocked
    rw [hevaluate, SingBox.run_managed hc, if_neg hport, if_pos hb]
  · intro c hc hport hblocked
    rw [hevaluate, SingBox.run_managed (by simp [hc]), if_neg hport, if_neg (by simp [hblocked]),
      SingBox.run_vpn hc]
  · intro hmem c hc hport hblocked
    rw [hinbounds] at hmem
    have hsniff : (box.sniff c).inbound = "negative-vpn-net" := hc
    rw [hevaluate, SingBox.run_managed (by simp [hc]), if_neg hport, if_neg (by simp [hblocked]),
      if_pos (negative_of_mem hmem), SingBox.run_negativeRules hsniff]

theorem Rendering.Made.policy {policy effective : Value} {rt : Runtime} {box : SingBox}
    (hn : normalizedPolicy policy = some effective) (h : KillSwitch box effective rt) :
    KillSwitch box policy rt := by
  have hget (key : String) (hm : key ≠ "hysteria_tls_mode") (ha : key ≠ "awg_available") :=
    normalizedPolicy_get hn hm ha
  have hdirect : box.isDirect effective = box.isDirect policy := by
    funext c
    rw [SingBox.isDirect, hget "direct_domains" (by decide) (by decide),
      hget "direct_cidrs" (by decide) (by decide), hget "ru_bypass" (by decide) (by decide),
      SingBox.isDirect]
  have hlisted : box.isListed effective = box.isListed policy := by
    funext c
    rw [SingBox.isListed, hget "vpn_domains" (by decide) (by decide),
      hget "vpn_cidrs" (by decide) (by decide), SingBox.isListed]
  exact { h with vpn := hdirect ▸ h.vpn, negative := hlisted ▸ h.negative }

/-- A rendered configuration is consistent, and a kill switch under first-match evaluation. -/
theorem rendered_routing_kill_switch (box : SingBox) {snapshot policy preferred : Value}
    {lane : Option String} {rt : Runtime} (h : render snapshot policy preferred lane = .ok rt) :
    KillSwitch box policy rt ∧ Consistent rt.config := by
  rw [render] at h
  split at h
  · cases h
  rename_i hsnapshot
  have hs : validateSnapshot snapshot = [] := by simpa using hsnapshot
  split at h
  · cases h
  rename_i descriptor hlane
  split at h
  · cases h
  split at h
  · rename_i effective hvalid hn
    dsimp only at h
    split at h
    · cases h
    rename_i runtime hrender
    obtain rfl := RenderResult.ok.inj h
    have hmade := renderLane_made hs hrender
    refine ⟨Made.policy hn (hmade.killSwitch box), hmade.consistent ?_⟩
    split
    · cases lane with
      | none =>
        obtain rfl := Option.some.inj hlane
        exact List.mem_cons_self
      | some id =>
        obtain ⟨d, hd, rfl⟩ := Option.map_eq_some_iff.mp hlane
        exact List.mem_cons_of_mem _ (List.mem_of_find?_eq_some hd)
    · exact List.mem_cons_self
  · cases h

namespace Sample

def tunnelTls : Value := .object [("enabled", .bool true), ("server_name", .string "example.com"),
  ("utls", .object [("enabled", .bool true), ("fingerprint", .string "chrome")]),
  ("reality", .object [("enabled", .bool true), ("public_key", .string "key"),
    ("short_id", .string "0a")])]

def tunnelOutbound : Value := .object [("type", .string "vless"),
  ("tag", .string "vless-reality"), ("server", .string "203.0.113.7"), ("server_port", .int 443),
  ("uuid", .string "01234567-89ab-cdef-0123-456789abcdef"), ("flow", .string "xtls-rprx-vision"),
  ("tls", tunnelTls)]

def unusedSlot (payload : String) : Value := .object [("enabled", .bool false), (payload, .null)]

def tunnelSnapshot : Value :=
  .object [("schema_version", .int 4), ("router_id", .string "router-0001"),
    ("revision", .int 7), ("snapshot_sha256", .string
      "0123456789abcdef0123456789abcdef0123456789abcdef0123456789abcdef"),
    ("applied_at", .string "2026-01-01T00:00:00Z"), ("published_at", .null),
    ("client", .object [("id", .int 1), ("name", .string "home")]),
    ("server", .object [("endpoint", .string "203.0.113.7")]),
    ("protocols", .object [
      ("vless", .object [("enabled", .bool true), ("outbound", tunnelOutbound)]),
      ("hysteria2", unusedSlot "outbound"), ("amneziawg", unusedSlot "profile"),
      ("amneziawg_aux", unusedSlot "profile")])]

def tunnelPolicy : Value :=
  .object [("selection", .string "auto"), ("wan_device", .string "eth0"),
    ("dns_server", .string "1.1.1.1"), ("direct_domains", .array [.string "example.org"]),
    ("direct_cidrs", .array [.string "0.0.0.0/0"]), ("hysteria_tls_mode", .string "subscription"),
    ("awg_available", .bool true), ("vpn_domains", .array [.string "example.com"]),
    ("vpn_cidrs", .array []), ("ru_bypass", .bool true)]

def tunnelRuntime : RenderResult Runtime := render tunnelSnapshot tunnelPolicy .null (some "vpn")

def isRendered : RenderResult Runtime → Bool
  | .ok _ => true
  | _ => false

theorem tunnelRuntime_ok : isRendered tunnelRuntime = true := by decide +kernel

/-- The first bits of an address are those of a network. -/
def startsWith (bits size length : Nat) (network : Nat) : Bool :=
  bits / 2 ^ (size - length) == network

def singBox : SingBox where
  isPrivate
    | .ipv4 bits => startsWith bits.toNat 32 8 10 || startsWith bits.toNat 32 12 2753 ||
        startsWith bits.toNat 32 16 49320 || startsWith bits.toNat 32 8 127
    | .ipv6 bits => startsWith bits.toNat 128 7 126
  inCidr
    | "0.0.0.0/0", .ipv4 _ => true
    | _, _ => false
  hasSuffix suffix domain := domain == suffix || ("." ++ suffix).toList.isSuffixOf domain.toList
  inRuleSet _ _ := false
  sniffed c := c.domain

end Sample

open Sample in
theorem rendered_routing_kill_switch_vless :
    ∃ rt, render tunnelSnapshot tunnelPolicy .null (some "vpn") = .ok rt ∧
      KillSwitch singBox tunnelPolicy rt ∧ Consistent rt.config := by
  have hok := tunnelRuntime_ok
  cases hrt : tunnelRuntime with
  | ok rt => exact ⟨rt, hrt, rendered_routing_kill_switch singBox hrt⟩
  | failed code =>
    rw [hrt] at hok
    cases hok
  | empty lane =>
    rw [hrt] at hok
    cases hok

end AutoVPN
