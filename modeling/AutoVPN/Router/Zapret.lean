import Mathlib.Tactic.Ring
import AutoVPN.Lib.Nft
import AutoVPN.Router.KillSwitch

/-! The plan for the packet engine: the rules of the packet filter that are made from it, the plan
that is tried out with another strategy, and that a plan is never refused once the snapshot and the
policy are accepted. -/

namespace AutoVPN

/-! Addresses. -/

theorem le_digitsValue {c : Char} (cs : List Char) (hc : c.isDigit = true) (h0 : c ≠ '0') :
    10 ^ cs.length ≤ digitsValue (c :: cs) := by
  have hfold (n : Nat) : n * 10 ^ cs.length ≤
      cs.foldl (fun n c => 10 * n + (c.toNat - 48)) n := by
    induction cs generalizing n with
    | nil => simp
    | cons d cs ih =>
      refine le_trans ?_ (ih (10 * n + (d.toNat - 48)))
      rw [List.length_cons, pow_succ]
      have hle : n * 10 ≤ 10 * n + (d.toNat - 48) := by omega
      calc n * (10 ^ cs.length * 10) = n * 10 * 10 ^ cs.length := by ring
        _ ≤ _ := Nat.mul_le_mul_right _ hle
  have hone : 1 ≤ 10 * 0 + (c.toNat - 48) := by
    simp only [Char.isDigit, Bool.and_eq_true, decide_eq_true_eq] at hc
    have hne : c.toNat ≠ 48 := fun he => h0 (Char.toNat_inj.mp he)
    have hge : 48 ≤ c.toNat := hc.1
    omega
  calc 10 ^ cs.length = 1 * 10 ^ cs.length := (Nat.one_mul _).symm
    _ ≤ _ := Nat.mul_le_mul_right _ hone
    _ ≤ _ := hfold _

namespace Rendering

theorem octet_length {part : List Char} (hd : ∀ c ∈ part, c.isDigit = true)
    (h : octet part = true) : part.length ≤ 3 := by
  simp only [octet, Bool.and_eq_true, Bool.or_eq_true, decide_eq_true_eq, bne_iff_ne] at h
  obtain ⟨hvalue, hshort | hhead⟩ := h
  · omega
  · cases part with
    | nil => exact Nat.zero_le _
    | cons c cs =>
      have hle := le_digitsValue cs (hd c List.mem_cons_self) (fun he => hhead (by simp [he]))
      by_contra hlen
      have hthree : 3 ≤ cs.length := by
        rw [List.length_cons] at hlen
        omega
      have hpow : 10 ^ 3 ≤ 10 ^ cs.length := Nat.pow_le_pow_right (by decide) hthree
      omega

theorem not_mem_dot {part : List Char} (h : ∀ c ∈ part, c.isDigit = true) : '.' ∉ part :=
  fun hdot => absurd (h '.' hdot) (by decide)

theorem ipv4Text_parts {cs : List Char} (h : ipv4Text cs = true) : ∃ a b c d : List Char,
    (∀ part ∈ [a, b, c, d], (∀ x ∈ part, x.isDigit = true) ∧ octet part = true) ∧
      cs = a ++ '.' :: (b ++ '.' :: (c ++ '.' :: d)) ∧ cs.splitOn '.' = [a, b, c, d] := by
  rw [ipv4Text, Bool.and_eq_true, ipv4Pattern] at h
  obtain ⟨hpattern, hoctets⟩ := h
  obtain ⟨a, _, rfl, ha, hpattern₁⟩ := Pattern.matchesList_cons.mp hpattern
  obtain ⟨_, rfl, hpattern₂⟩ := Pattern.matchesList_char_cons.mp hpattern₁
  obtain ⟨b, _, rfl, hb, hpattern₃⟩ := Pattern.matchesList_cons.mp hpattern₂
  obtain ⟨_, rfl, hpattern₄⟩ := Pattern.matchesList_char_cons.mp hpattern₃
  obtain ⟨c, _, rfl, hc, hpattern₅⟩ := Pattern.matchesList_cons.mp hpattern₄
  obtain ⟨d, rfl, hd⟩ := Pattern.matchesList_char_cons.mp hpattern₅
  replace ha := (Piece.accepts_many.mp ha).2
  replace hb := (Piece.accepts_many.mp hb).2
  replace hc := (Piece.accepts_many.mp hc).2
  replace hd := (Piece.accepts_many.mp (Pattern.matchesList_singleton.mp hd)).2
  have hsplit : (a ++ '.' :: (b ++ '.' :: (c ++ '.' :: d))).splitOn '.' = [a, b, c, d] := by
    rw [List.splitOn_append_cons_self_of_not_mem (not_mem_dot ha),
      List.splitOn_append_cons_self_of_not_mem (not_mem_dot hb),
      List.splitOn_append_cons_self_of_not_mem (not_mem_dot hc), List.splitOn_eq_singleton (not_mem_dot hd)]
  rw [hsplit] at hoctets
  refine ⟨a, b, c, d, fun part hpart => ⟨?_, List.all_eq_true.mp hoctets part hpart⟩, rfl, hsplit⟩
  simp only [List.mem_cons, List.not_mem_nil, or_false] at hpart
  rcases hpart with rfl | rfl | rfl | rfl
  · exact ha
  · exact hb
  · exact hc
  · exact hd

theorem ip_of_ipv4 {v : Value} (h : ipv4 v = true) : Zapret.ip v = true := by
  cases v with
  | string s =>
    obtain ⟨a, b, c, d, hparts, -, hsplit⟩ := ipv4Text_parts h
    rw [Zapret.ip, hsplit, Bool.and_eq_true]
    refine ⟨h, List.all_eq_true.mpr fun part hpart => decide_eq_true ?_⟩
    obtain ⟨hdigits, hoctet⟩ := hparts part hpart
    exact octet_length hdigits hoctet
  | _ => cases h

theorem eq_of_looseEq_ipv4 {v w : Value} (hw : ipv4 w = true) (h : v.looseEq w = true) : v = w := by
  cases w with
  | string t =>
    refine (Value.is_iff ?_).mp h
    obtain ⟨a, b, c, d, hparts, htext, -⟩ := ipv4Text_parts hw
    have ha (x : Char) (hx : x ∈ a) : x.isDigit = true := (hparts a (by simp)).1 x hx
    have hdrop : t.toList.dropWhile Char.isDigit = '.' :: (b ++ '.' :: (c ++ '.' :: d)) := by
      rw [htext, List.dropWhile_append_of_pos ha, List.dropWhile_cons_of_neg (by decide)]
    have hfraction : (b ++ '.' :: (c ++ '.' :: d)).all Char.isDigit = false := by
      rw [List.all_append, List.all_cons]
      simp
    have hsign (cs : List Char) : t.toList ≠ '-' :: cs := by
      intro he
      rw [htext] at he
      cases a with
      | nil => exact absurd (List.cons.inj he).1 (by decide)
      | cons x a => exact absurd (ha x List.mem_cons_self) ((List.cons.inj he).1 ▸ by decide)
    unfold decimalNumber?
    dsimp only
    split
    · rename_i cs he
      exact absurd he (hsign cs)
    · simp only [hdrop, hfraction, Bool.false_and, Bool.false_eq_true, if_false]
  | _ => cases hw

/-! What an accepted snapshot says of the endpoints. -/

theorem vless_endpoint {value endpoint : Value} (h : validateVless value endpoint = []) :
    (value.get "server").looseEq endpoint = true ∧
      (value.get "server_port").isInteger 1 65535 = true := by
  unfold validateVless at h
  dsimp only at h
  split at h
  · simp [addError] at h
  · simp only [List.append_eq_nil_iff, addError_eq_nil, Bool.or_eq_false_iff,
      Bool.not_eq_false'] at h
    exact ⟨h.1.1.1.1.2, h.1.1.1.2⟩

theorem hysteria_endpoint {value endpoint : Value} (h : validateHysteria value endpoint = []) :
    (value.get "server").looseEq endpoint = true ∧
      (value.get "server_port").isInteger 1 65535 = true := by
  unfold validateHysteria at h
  extract_lets path obfs expected at h
  split at h
  · simp [addError] at h
  · have hidentity := (List.append_eq_nil_iff.mp (List.append_eq_nil_iff.mp
      (List.append_eq_nil_iff.mp h).1).1)
    simp only [addError_eq_nil, Bool.or_eq_false_iff, Bool.not_eq_false'] at hidentity
    exact ⟨hidentity.1.2, hidentity.2.1⟩

theorem awg_endpoint {value endpoint : Value} {auxiliary : Bool}
    (h : AutoVPN.validateAwg value endpoint auxiliary = []) :
    (((value.get "peer").get "endpoint").get "host").looseEq endpoint = true ∧
      (((value.get "peer").get "endpoint").get "port").isInteger 1 65535 = true := by
  unfold AutoVPN.validateAwg at h
  extract_lets path expected routes capabilities interface peer at h
  split at h
  · simp [addError] at h
  · have hpeer := (List.append_eq_nil_iff.mp (List.append_eq_nil_iff.mp
      (List.append_eq_nil_iff.mp h).1).1).2
    simp only [addError_eq_nil, Bool.or_eq_false_iff, Bool.not_eq_false'] at hpeer
    exact ⟨hpeer.1.2, hpeer.2⟩

/-! What an accepted policy says. -/

theorem ite_some_eq_none {c : Prop} [Decidable c] {code : String} {rest : Option String} :
    (if c then some code else rest) = none ↔ ¬c ∧ rest = none := by
  by_cases hc : c
  · simp [hc]
  · simp [hc]

theorem policyFailure_eq_none {policy normalized : Value}
    (h : policyFailure policy normalized = none) :
    ((normalized.get "zapret").isNull = false →
      Zapret.validPolicy (normalized.get "zapret") = true) ∧
    (normalized.get "wan_device").matches Zapret.devicePattern = true ∧
    (normalized.get "wan_device").isIn ["lo", "br-lan", "avpn0", "avpn1", "avpnwg0", "avpnwg1",
      "br-avpn", "br-avpnz", "br-avpnd", "br-avpndz"] = false := by
  simp only [policyFailure, ite_some_eq_none] at h
  obtain ⟨-, hzapret, -, hwan, -⟩ := h
  simp only [Bool.and_eq_true, Bool.not_eq_true', not_and, Bool.not_eq_false] at hzapret
  simp only [Bool.or_eq_true, Bool.not_eq_true', not_or, Bool.not_eq_false, Bool.not_eq_true] at hwan
  refine ⟨hzapret, hwan.1, ?_⟩
  cases hdevice : normalized.get "wan_device" with
  | string device =>
    have hnot := hwan.2
    rw [hdevice] at hnot
    simp only [Value.isIn, List.contains_eq_mem, decide_eq_false_iff_not, List.mem_cons,
      List.not_mem_nil, or_false, not_or] at hnot ⊢
    tauto
  | _ => rfl

theorem validatePolicy_eq_none {policy : Value} (h : validatePolicy policy = none) :
    ∃ effective, normalizedPolicy policy = some effective ∧
      policyFailure policy effective = none := by
  rw [validatePolicy] at h
  split at h
  · cases h
  split at h
  · cases h
  · exact ⟨_, by assumption, h⟩

/-! What the loop over the protocols collects. -/

theorem addProtocol_eq {snapshot policy : Value} {p q : Protocols} {name : String}
    (h : addProtocol snapshot policy p name = .ok q) :
    q = p ∨ (((snapshot.get "protocols").get name).get "enabled").truthy = true ∧ q = {
      outbounds := p.outbounds ++ [(((snapshot.get "protocols").get name).get "outbound").set
        "bind_interface" (policy.get "wan_device")]
      candidates := p.candidates ++
        [((((snapshot.get "protocols").get name).get "outbound").get "tag").text]
      capabilities := p.enable name } := by
  rw [addProtocol] at h
  split at h
  · exact .inl (Except.ok.inj h).symm
  rename_i henabled
  split at h
  · split at h
    · cases h
    · exact .inl (Except.ok.inj h).symm
  · exact .inr ⟨by simpa using henabled, (Except.ok.inj h).symm⟩

/-- The slot of the snapshot that a profile is taken from. -/
def slotName (managed : Option LaneDescriptor) (key : String) : String :=
  if managed.any (·.id == "vpn_zapret") && key == "amneziawg" then "amneziawg_aux" else key

def awgOutbound (lane : LaneDescriptor) : Value :=
  .object [("type", .string "direct"), ("tag", .string "amneziawg"),
    ("bind_interface", .string lane.awgDevice), ("routing_mark", .int lane.awgInnerMark),
    ("domain_resolver", .string "awg-dns")]

/-- The outbounds are those of the profiles `known`, and each profile that is in use has a slot
that is enabled. -/
structure Protocols.Known (p : Protocols) (snapshot : Value) (managed : Option LaneDescriptor) :
    Prop where
  outbounds : ∀ o ∈ p.outbounds, o.get "tag" = .string "vless-reality" ∨
    o.get "tag" = .string "hysteria2" ∨ o = awgOutbound (managed.getD Lanes.single)
  enabled : ∀ s ∈ Zapret.slots, s.profile ∈ p.candidates →
    (((snapshot.get "protocols").get (slotName managed s.key)).get "enabled").truthy = true

theorem addProtocol_known {snapshot policy : Value} {managed : Option LaneDescriptor}
    {p q : Protocols} {name tag : String} (h : addProtocol snapshot policy p name = .ok q)
    (hp : p.Known snapshot managed) (hname : slotName managed name = name)
    (hslot : ∀ s ∈ Zapret.slots, s.profile = tag → s.key = name)
    (htags : tag = "vless-reality" ∨ tag = "hysteria2")
    (ht : (((snapshot.get "protocols").get name).get "enabled").truthy = true →
      (((snapshot.get "protocols").get name).get "outbound").get "tag" = .string tag) :
    q.Known snapshot managed := by
  rcases addProtocol_eq h with rfl | ⟨henabled, rfl⟩
  · exact hp
  refine ⟨fun o ho => ?_, fun s hs hmem => ?_⟩
  · rcases List.mem_append.mp ho with ho | ho
    · exact hp.outbounds o ho
    · obtain rfl := List.mem_singleton.mp ho
      rw [Value.get_set_ne (by decide), ht henabled]
      rcases htags with rfl | rfl
      · exact .inl rfl
      · exact .inr (.inl rfl)
  · rcases List.mem_append.mp hmem with hmem | hmem
    · exact hp.enabled s hs hmem
    · rw [ht henabled] at hmem
      rw [hslot s hs (List.mem_singleton.mp hmem), hname]
      exact henabled

theorem collect_known {snapshot policy : Value} {managed : Option LaneDescriptor} {p : Protocols}
    (hs : validateSnapshot snapshot = []) (h : collect snapshot policy managed = .ok p) :
    p.Known snapshot managed := by
  obtain ⟨dual, -, hprotocols⟩ := accepted_protocols hs
  simp only [validateProtocols, List.append_eq_nil_iff] at hprotocols
  obtain ⟨⟨⟨hvless, hhysteria⟩, -⟩, -⟩ := hprotocols
  obtain ⟨q, hq, h⟩ := except_bind_eq_ok.mp h
  obtain ⟨r, hr, h⟩ := except_bind_eq_ok.mp h
  have hstart : (⟨[], [], noCapabilities⟩ : Protocols).Known snapshot managed :=
    ⟨by simp, by simp⟩
  have hqk : q.Known snapshot managed :=
    addProtocol_known hq hstart (by simp [slotName]) (by decide) (.inl rfl) fun he => by
      have hpayload := accepted_slot hvless he
      exact vless_tag hpayload
  have hrk : r.Known snapshot managed :=
    addProtocol_known hr hqk (by simp [slotName]) (by decide) (.inr rfl) fun he => by
      have hpayload := accepted_slot hhysteria he
      exact hysteria_tag hpayload
  split at h
  · rename_i profile hawg
    obtain rfl := Except.ok.inj h
    have henabled : (((snapshot.get "protocols").get (slotName managed "amneziawg")).get
        "enabled").truthy = true := by
      rw [awgProfile] at hawg
      obtain ⟨hcondition, -⟩ := Option.ite_none_right_eq_some.mp hawg
      simp only [Bool.and_eq_true] at hcondition
      simpa only [slotName, beq_self_eq_true, Bool.and_true] using hcondition.1.1
    refine ⟨fun o ho => ?_, fun s hs hmem => ?_⟩
    · rcases List.mem_append.mp ho with ho | ho
      · exact hrk.outbounds o ho
      · exact .inr (.inr (List.mem_singleton.mp ho))
    · rcases List.mem_append.mp hmem with hmem | hmem
      · exact hrk.enabled s hs hmem
      · have hkey : ∀ s ∈ Zapret.slots, s.profile = "amneziawg" → s.key = "amneziawg" := by decide
        rwa [hkey s hs (List.mem_singleton.mp hmem)]
  · obtain rfl := Except.ok.inj h
    exact hrk

/-! The flows of a plan. -/

theorem accepted_awg {snapshot : Value} {managed : Option LaneDescriptor}
    (hs : validateSnapshot snapshot = [])
    (he : (((snapshot.get "protocols").get (slotName managed "amneziawg")).get
      "enabled").truthy = true) :
    AutoVPN.validateAwg
      (((snapshot.get "protocols").get (slotName managed "amneziawg")).get "profile")
      ((snapshot.get "server").get "endpoint") (managed.any (·.id == "vpn_zapret")) = [] := by
  obtain ⟨dual, hkeys, hprotocols⟩ := accepted_protocols hs
  rw [validateProtocols] at hprotocols
  obtain ⟨hmain, haux⟩ := List.append_eq_nil_iff.mp hprotocols
  cases hmanaged : managed.any (·.id == "vpn_zapret") with
  | false =>
    have hname : slotName managed "amneziawg" = "amneziawg" := by simp [slotName, hmanaged]
    rw [hname] at he ⊢
    exact accepted_slot (List.append_eq_nil_iff.mp hmain).2 he
  | true =>
    have hname : slotName managed "amneziawg" = "amneziawg_aux" := by simp [slotName, hmanaged]
    rw [hname] at he ⊢
    cases dual with
    | true =>
      rw [if_pos rfl] at haux
      exact accepted_slot haux he
    | false =>
      -- Without lanes there is no such slot.
      obtain ⟨fs, hfs, hperm⟩ := Value.hasExactKeys_iff.mp hkeys
      have hnone : (snapshot.get "protocols").get "amneziawg_aux" = .null := by
        rw [hfs]
        have hlookup : fs.lookup "amneziawg_aux" = none := by
          rw [List.lookup_eq_none_iff]
          intro f hf
          refine bne_iff_ne.mpr fun he => ?_
          have hmem := hperm.mem_iff.mp (List.mem_map_of_mem (f := Prod.fst) hf)
          rw [← he] at hmem
          exact absurd hmem (by decide)
        rw [Value.get, hlookup]
        rfl
      rw [hnone] at he
      cases he

theorem flow_of_outbound (snapshot policy : Value) (lane : Option String) {s : Zapret.Slot}
    (h : (s.key == "amneziawg") = false) :
    (Zapret.flow snapshot policy lane s).ip =
        (((snapshot.get "protocols").get s.key).get "outbound").get "server" ∧
      (Zapret.flow snapshot policy lane s).port =
        (((snapshot.get "protocols").get s.key).get "outbound").get "server_port" := by
  simp [Zapret.flow, h]

theorem flow_accepted {snapshot : Value} (policy : Value) {managed : Option LaneDescriptor} {p : Protocols}
    (hs : validateSnapshot snapshot = [])
    (hendpoint : ipv4 ((snapshot.get "server").get "endpoint") = true)
    (hp : p.Known snapshot managed) (hlane : managed.all (·.id == "vpn_zapret") = true)
    {s : Zapret.Slot} (hslot : s ∈ Zapret.slots) (hmem : s.profile ∈ p.candidates) :
    (Zapret.flow snapshot policy (managed.map (·.id)) s).ip =
        (snapshot.get "server").get "endpoint" ∧
      (Zapret.flow snapshot policy (managed.map (·.id)) s).port.isInteger 1 65535 = true := by
  have henabled := hp.enabled s hslot hmem
  obtain ⟨dual, -, hprotocols⟩ := accepted_protocols hs
  simp only [validateProtocols, List.append_eq_nil_iff] at hprotocols
  obtain ⟨⟨⟨hvless, hhysteria⟩, -⟩, -⟩ := hprotocols
  simp only [Zapret.slots, List.mem_cons, List.not_mem_nil, or_false] at hslot
  rcases hslot with rfl | rfl | rfl
  · rw [show slotName managed "vless" = "vless" by simp [slotName]] at henabled
    have hpayload := accepted_slot hvless henabled
    obtain ⟨hserver, hport⟩ := vless_endpoint hpayload
    exact ⟨(flow_of_outbound _ _ _ (by decide)).1.trans (eq_of_looseEq_ipv4 hendpoint hserver),
      (congrArg (·.isInteger 1 65535) (flow_of_outbound _ _ _ (by decide)).2).trans hport⟩
  · rw [show slotName managed "hysteria2" = "hysteria2" by simp [slotName]] at henabled
    have hpayload := accepted_slot hhysteria henabled
    obtain ⟨hserver, hport⟩ := hysteria_endpoint hpayload
    exact ⟨(flow_of_outbound _ _ _ (by decide)).1.trans (eq_of_looseEq_ipv4 hendpoint hserver),
      (congrArg (·.isInteger 1 65535) (flow_of_outbound _ _ _ (by decide)).2).trans hport⟩
  · obtain ⟨hhost, hport⟩ := awg_endpoint (accepted_awg hs henabled)
    have hname : (if (managed.map (·.id)).isSome && "amneziawg" == "amneziawg" then "amneziawg_aux"
        else "amneziawg") = slotName managed "amneziawg" := by
      cases managed with
      | none => rfl
      | some lane =>
        rw [slotName]
        simp only [Option.all_some] at hlane
        simp [hlane]
    rw [← hname] at hhost hport
    exact ⟨eq_of_looseEq_ipv4 hendpoint hhost, hport⟩

end Rendering

namespace Zapret

theorem validFlows_of_head_ne {lane : Option String} {slots : List Slot} {flows : List ZapretFlow}
    {s : Slot} (hs : ∀ flow ∈ flows, flow.profile ≠ s.profile) :
    validFlows lane (s :: slots) flows = validFlows lane slots flows := by
  cases flows with
  | nil => cases slots <;> rfl
  | cons flow flows =>
    rw [validFlows, if_neg (by simpa using hs flow List.mem_cons_self)]

theorem validFlows_of_slots {lane : Option String} {make : Slot → ZapretFlow}
    {slots : List Slot} (hnd : (slots.map (·.profile)).Nodup) {chosen : Slot → Bool}
    (hprofile : ∀ s ∈ slots, (make s).profile = s.profile)
    (hmake : ∀ s ∈ slots, chosen s = true → (ip (make s).ip && (make s).port.isInteger 1 65535 &&
      (make s).mark == markOf lane s && (make s).transport == s.transport &&
      (make s).strategy.isIn s.strategies) = true) :
    validFlows lane slots ((slots.filter chosen).map make) = true := by
  induction slots with
  | nil => rfl
  | cons s slots ih =>
    obtain ⟨hnot, hnd⟩ := List.nodup_cons.mp hnd
    have hrest := ih hnd (fun t ht => hprofile t (List.mem_cons_of_mem _ ht))
      fun t ht => hmake t (List.mem_cons_of_mem _ ht)
    cases hc : chosen s with
    | true =>
      rw [List.filter_cons_of_pos hc, List.map_cons, validFlows,
        if_pos (by simpa using hprofile s List.mem_cons_self), hrest, Bool.and_true]
      exact hmake s List.mem_cons_self hc
    | false =>
      rw [List.filter_cons_of_neg (by simp [hc]), validFlows_of_head_ne, hrest]
      intro flow hflow he
      obtain ⟨t, ht, rfl⟩ := List.mem_map.mp hflow
      have htm := List.mem_of_mem_filter ht
      rw [hprofile t (List.mem_cons_of_mem _ htm)] at he
      exact hnot (List.mem_map.mpr ⟨t, htm, he⟩)

section

variable (policy : Value) (candidates : List String)

/-- The slots that a plan has flows for. -/
def chosen (s : Slot) : Bool := candidates.contains s.profile && !(policy.get s.key).is "off"

def strategyOf (profile : String) : Value :=
  match slots.find? (·.profile == profile) with
  | some s => policy.get s.key
  | none => .null

theorem strategyOf_profile : ∀ s ∈ slots, strategyOf policy s.profile = policy.get s.key := by
  simp [slots, strategyOf]

variable {policy candidates}

theorem strategy_isIn (hpolicy : validPolicy policy = true) {s : Slot} (hs : s ∈ slots)
    (hchosen : chosen policy candidates s = true) : (policy.get s.key).isIn s.strategies = true := by
  simp only [validPolicy, Bool.and_eq_true, List.all_eq_true] at hpolicy
  have hin := hpolicy.1.2 s hs
  simp only [chosen, Bool.and_eq_true, Bool.not_eq_true'] at hchosen
  cases hv : policy.get s.key with
  | string t =>
    rw [hv] at hin hchosen
    rcases List.mem_cons.mp (List.contains_iff_mem.mp hin) with rfl | ht
    · exact absurd hchosen.2 (by simp [Value.is])
    · exact List.contains_iff_mem.mpr ht
  | _ =>
    rw [hv] at hin
    cases hin

theorem repeats_isInteger (hpolicy : validPolicy policy = true) :
    (policy.get "repeats").isInteger 1 6 = true := by
  simp only [validPolicy, Bool.and_eq_true] at hpolicy
  exact hpolicy.2

theorem chosen_length (policy : Value) (candidates : List String) :
    (slots.filter (chosen policy candidates)).length ≤ 3 :=
  List.length_filter_le _ slots

/-- A plan is not refused when its parts are as the checks of the snapshot and the policy leave
them. -/
theorem plan_eq {snapshot wan : Value} {lane : Option String}
    (hlane : lane.all (· == "vpn_zapret") = true)
    (hpolicy : policy.isNull = false → validPolicy policy = true)
    (hwan : wan.matches devicePattern = true)
    (hdevice : wan.isIn ["lo", "br-lan", "avpn0", "avpn1", "avpnwg0", "avpnwg1", "br-avpn",
      "br-avpnz", "br-avpnd", "br-avpndz"] = false)
    (hflow : ∀ s ∈ slots, s.profile ∈ candidates → ip (flow snapshot policy lane s).ip = true ∧
      (flow snapshot policy lane s).port.isInteger 1 65535 = true) :
    plan snapshot candidates wan policy lane = some
      (if policy.isNull || ((slots.filter (chosen policy candidates)).map
          (flow snapshot policy lane)).isEmpty then none
      else some ⟨wan, (slots.filter (chosen policy candidates)).map (flow snapshot policy lane),
        policy.get "repeats", lane⟩) := by
  have hany : lane.any (· != "vpn_zapret") = false := by
    cases lane with
    | none => rfl
    | some l => simpa using hlane
  cases hnull : policy.isNull with
  | true => simp [plan, hnull]
  | false =>
    have hvalid := hpolicy hnull
    unfold plan
    simp only [hnull, hany, hvalid, Bool.not_true, Bool.false_eq_true, if_false, Bool.false_or]
    change (if ((slots.filter (chosen policy candidates)).map (flow snapshot policy lane)).isEmpty
      then some none else if _ then _ else none) = _
    cases hempty : ((slots.filter (chosen policy candidates)).map
        (flow snapshot policy lane)).isEmpty with
    | true => rfl
    | false =>
      have hpositive : 1 ≤ (slots.filter (chosen policy candidates)).length := by
        rw [List.isEmpty_map] at hempty
        exact List.length_pos_iff.mpr (List.isEmpty_eq_false_iff.mp hempty)
      have hflows : validFlows lane slots ((slots.filter (chosen policy candidates)).map
          (flow snapshot policy lane)) = true := by
        refine validFlows_of_slots (by decide) (fun s _ => rfl) fun s hs hc => ?_
        have hmem : s.profile ∈ candidates := by
          simp only [chosen, Bool.and_eq_true] at hc
          exact List.contains_iff_mem.mp hc.1
        obtain ⟨hip, hport⟩ := hflow s hs hmem
        have hstrategy : (flow snapshot policy lane s).strategy.isIn s.strategies = true :=
          strategy_isIn hvalid hs hc
        have hmark : (flow snapshot policy lane s).mark = markOf lane s := rfl
        have htransport : (flow snapshot policy lane s).transport = s.transport := rfl
        simp only [hip, hport, hstrategy, hmark, htransport, beq_self_eq_true, Bool.and_self]
      have hplan : validPlan ⟨wan, (slots.filter (chosen policy candidates)).map
          (flow snapshot policy lane), policy.get "repeats", lane⟩ = true := by
        have hlength := chosen_length policy candidates
        simp only [validPlan, hlane, hwan, hdevice, repeats_isInteger hvalid, hflows,
          decide_eq_true hpositive, List.length_map, decide_eq_true hlength, Bool.not_false,
          Bool.and_self]
      exact if_pos hplan

end

theorem plan_valid {snapshot wan policy : Value} {candidates : List String} {lane : Option String}
    {value : ZapretPlan} (h : plan snapshot candidates wan policy lane = some (some value)) :
    validPlan value = true := by
  unfold plan at h
  split at h
  · cases h
  split at h
  · cases h
  split at h
  · cases h
  dsimp only at h
  split at h
  · cases h
  split at h
  · rename_i hvalid
    obtain rfl := Option.some.inj (Option.some.inj h)
    exact hvalid
  · cases h

/-! The rules of the packet filter. -/

/-- The bit that the packet engine sets on the packets that it sends. -/
def engineBit : Nat := 1073741824

def queueNumber : Nat := 20195

def number : Value → String
  | .int n => toString n
  | v => v.text

def portOf : Value → Nat
  | .int n => n.toNat
  | _ => 0

def addressOf (v : Value) : BitVec 32 :=
  BitVec.ofNat 32 (Rendering.addressNumber (v.text.toList.splitOn '.'))

def transportOf (flow : ZapretFlow) : Nft.Transport :=
  if flow.transport == "tcp" then .tcp else .udp

def scope (value : ZapretPlan) (flow : ZapretFlow) (mark : Nat) : List Nft.Match :=
  [.oifname value.wanDevice.text, .mark mark, .daddr ⟨addressOf flow.ip, 32, flow.ip.text⟩,
    .dport (transportOf flow) (number flow.port) [(portOf flow.port, portOf flow.port)]]

def queueRules (value : ZapretPlan) (flow : ZapretFlow) : List Nft.Rule :=
  ⟨scope value flow flow.mark ++ [.originalPackets 1 12], .enqueue queueNumber⟩ ::
    if flow.transport == "tcp" then
      [⟨scope value flow flow.mark ++ [.finOrRst], .enqueue queueNumber⟩] else []

/-- The two chains of a plan. -/
structure Table where
  post : Nft.Chain
  raw : Nft.Chain

def Table.text (t : Table) : String :=
  "table inet autovpn_zapret\nflush table inet autovpn_zapret\ntable inet autovpn_zapret \x7b\n" ++
    " chain ownership_autovpn_zapret_v1 \x7b\x7d\n" ++ t.post.text ++ t.raw.text ++ "\x7d\n"

def nft (value : ZapretPlan) : Option Table :=
  if !validPlan value then none
  else some {
    post := ⟨"post", "postrouting priority 101", value.flows.flatMap (queueRules value)⟩
    raw := ⟨"raw", "output priority -401", value.flows.map fun flow =>
      ⟨scope value flow (engineBit + flow.mark), .notrack⟩⟩ }

/-- The packet leaves the WAN device to the endpoint of the flow. -/
structure Scoped (value : ZapretPlan) (flow : ZapretFlow) (p : Nft.Packet) : Prop where
  oif : p.oif = value.wanDevice.text
  daddr : p.destination = some (addressOf flow.ip)
  transport : p.transport.text = flow.transport
  dport : (p.dport : ℚ) = flow.port.number

theorem mem_validFlows {lane : Option String} {ss : List Slot} {flows : List ZapretFlow}
    (h : validFlows lane ss flows = true) {flow : ZapretFlow} (hflow : flow ∈ flows) :
    ∃ s ∈ ss, flow.port.isInteger 1 65535 = true ∧ flow.transport = s.transport := by
  induction ss generalizing flows with
  | nil =>
    cases flows with
    | nil => cases hflow
    | cons first flows => cases h
  | cons s ss ih =>
    cases flows with
    | nil => cases hflow
    | cons first flows =>
      rw [validFlows] at h
      split at h
      · simp only [Bool.and_eq_true, beq_iff_eq] at h
        obtain ⟨⟨⟨⟨⟨-, hport⟩, -⟩, htransport⟩, -⟩, hrest⟩ := h
        rcases List.mem_cons.mp hflow with rfl | hflow
        · exact ⟨s, List.mem_cons_self, hport, htransport⟩
        · obtain ⟨t, ht, hkept⟩ := ih hrest hflow
          exact ⟨t, List.mem_cons_of_mem _ ht, hkept⟩
      · obtain ⟨t, ht, hkept⟩ := ih h hflow
        exact ⟨t, List.mem_cons_of_mem _ ht, hkept⟩

theorem valid_transport {value : ZapretPlan} (h : validPlan value = true) {flow : ZapretFlow}
    (hflow : flow ∈ value.flows) : flow.port.isInteger 1 65535 = true ∧
      (transportOf flow).text = flow.transport := by
  simp only [validPlan, Bool.and_eq_true] at h
  obtain ⟨s, hs, hport, htransport⟩ := mem_validFlows h.2 hflow
  have hslots : ∀ s ∈ slots, s.transport = "tcp" ∨ s.transport = "udp" := by decide
  refine ⟨hport, ?_⟩
  rw [transportOf, htransport]
  rcases hslots s hs with ht | ht
  all_goals
    rw [ht]
    decide

theorem scoped_matching {value : ZapretPlan} (hvalid : validPlan value = true)
    {flow : ZapretFlow} (hflow : flow ∈ value.flows) {mark : Nat} {r : Nft.Rule}
    (hr : ∀ m ∈ scope value flow mark, m ∈ r.expressions) {p : Nft.Packet}
    (h : r.matching p = true) : Scoped value flow p ∧ p.mark = BitVec.ofNat 32 mark := by
  have hholds (m : Nft.Match) (hm : m ∈ scope value flow mark) : m.holds p = true :=
    Nft.matching_of_mem h (hr m hm)
  simp only [scope, List.forall_mem_cons] at hholds
  obtain ⟨hoif, hmark, hdaddr, hdport, -⟩ := hholds
  obtain ⟨hport, htext⟩ := valid_transport hvalid hflow
  obtain ⟨n, hn, hlow, -⟩ := Value.isInteger_iff.mp hport
  simp only [Nft.Match.dport, List.any_cons, List.any_nil, Bool.or_false, Bool.and_eq_true,
    beq_iff_eq, decide_eq_true_eq] at hdport
  obtain ⟨htransport, hfirst, hlast⟩ := hdport
  refine ⟨⟨eq_of_beq hoif, Nft.Net.contains_host.mp hdaddr, htransport ▸ htext, ?_⟩,
    eq_of_beq hmark⟩
  have hp : p.dport = n.toNat := by
    rw [hn] at hfirst hlast
    exact Nat.le_antisymm hlast hfirst
  rw [hp, hn]
  show ((n.toNat : Nat) : ℚ) = (n : ℚ)
  exact_mod_cast Int.toNat_of_nonneg (by omega)

/-- Every rule is for the packets of one flow, in the first chain with the mark of the flow and in
the second with the bit of the engine also. -/
theorem nft_scoped {value : ZapretPlan} {t : Table} (h : nft value = some t) :
    (∀ r ∈ t.post.rules, ∃ flow ∈ value.flows, ∀ p, r.matching p = true →
      Scoped value flow p ∧ p.mark = BitVec.ofNat 32 flow.mark) ∧
    ∀ r ∈ t.raw.rules, ∃ flow ∈ value.flows, ∀ p, r.matching p = true →
      Scoped value flow p ∧ p.mark = BitVec.ofNat 32 (engineBit + flow.mark) := by
  unfold nft at h
  split at h
  · cases h
  rename_i hvalid
  replace hvalid : validPlan value = true := by simpa using hvalid
  obtain rfl := Option.some.inj h
  refine ⟨fun r hr => ?_, fun r hr => ?_⟩
  · obtain ⟨flow, hflow, hr⟩ := List.mem_flatMap.mp hr
    refine ⟨flow, hflow, fun p hp => scoped_matching hvalid hflow (fun m hm => ?_) hp⟩
    rcases List.mem_cons.mp hr with rfl | hr
    · exact List.mem_append_left _ hm
    · obtain ⟨-, hr⟩ := List.mem_ite_nil_right.mp hr
      obtain rfl := List.mem_singleton.mp hr
      exact List.mem_append_left _ hm
  · obtain ⟨flow, hflow, rfl⟩ := List.mem_map.mp hr
    exact ⟨flow, hflow, fun p => scoped_matching hvalid hflow fun m hm => hm⟩

theorem nft_others {value : ZapretPlan} {t : Table} (h : nft value = some t) {p : Nft.Packet}
    (hp : ∀ flow ∈ value.flows, ¬Scoped value flow p) :
    t.post.handle p = .accepted ⟨p, [], false⟩ ∧ t.raw.handle p = .accepted ⟨p, [], false⟩ := by
  obtain ⟨hpost, hraw⟩ := nft_scoped h
  have hnone {rules : List Nft.Rule} {mark : ZapretFlow → BitVec 32}
      (hrules : ∀ r ∈ rules, ∃ flow ∈ value.flows, ∀ p, r.matching p = true →
        Scoped value flow p ∧ p.mark = mark flow) : ∀ r ∈ rules, r.matching p = false := by
    intro r hr
    obtain ⟨flow, hflow, hmatch⟩ := hrules r hr
    cases hm : r.matching p with
    | false => rfl
    | true => exact absurd (hmatch p hm).1 (hp flow hflow)
  exact ⟨Nft.walk_none (hnone hpost), Nft.walk_none (hnone hraw)⟩

/-! The plan that is tried out. -/

def diagnosticStrategies (profile : String) : List String :=
  if profile == "vless-reality" then ["split", "multidisorder", "fake_multidisorder", "fake_multisplit"]
  else if profile == "hysteria2" then ["fake", "fake_plain", "fake11"]
  else []

def withStrategy (profile strategy : String) (flow : ZapretFlow) : ZapretFlow :=
  if flow.profile == profile then { flow with strategy := .string strategy } else flow

def diagnosticPlan (value : ZapretPlan) (profile strategy : String) : Option ZapretPlan :=
  if !validPlan value || !(diagnosticStrategies profile).contains strategy then none
  else if (value.flows.filter (·.profile == profile)).length != 1 then none
  else
    let copy := { value with flows := value.flows.map (withStrategy profile strategy) }
    if validPlan copy then some copy else none

theorem map_withStrategy_of_ne {profile strategy : String} {flows : List ZapretFlow}
    (h : ∀ flow ∈ flows, ¬(flow.profile == profile) = true) :
    flows.map (withStrategy profile strategy) = flows :=
  (List.map_congr_left fun flow hflow => if_neg (h flow hflow)).trans (List.map_id' flows)

theorem diagnosticPlan_one {value copy : ZapretPlan} {profile strategy : String}
    (h : diagnosticPlan value profile strategy = some copy) :
    validPlan copy = true ∧ ∃ before flow after, value.flows = before ++ flow :: after ∧
      flow.profile = profile ∧ copy = { value with
        flows := before ++ { flow with strategy := .string strategy } :: after } := by
  unfold diagnosticPlan at h
  split at h
  · cases h
  split at h
  · cases h
  rename_i hone
  dsimp only at h
  split at h
  · rename_i hvalid
    obtain rfl := Option.some.inj h
    obtain ⟨flow, hflow⟩ := List.length_eq_one_iff.mp (by simpa using hone)
    obtain ⟨before, after, hsplit, hbefore, hprofile, hafter⟩ := List.filter_eq_cons_iff.mp hflow
    refine ⟨hvalid, before, flow, after, hsplit, by simpa using hprofile, ?_⟩
    have hrest : ∀ flow ∈ after, ¬(flow.profile == profile) = true := by
      simpa using List.filter_eq_nil_iff.mp hafter
    rw [hsplit, List.map_append, List.map_cons, map_withStrategy_of_ne hbefore,
      map_withStrategy_of_ne hrest, withStrategy, if_pos hprofile]
  · cases h

end Zapret

namespace Value

theorem get_set_self {v w : Value} {key : String} (h : v.isObject = true) : (v.set key w).get key = w := by
  cases v with
  | object fs =>
    rw [set]
    split
    · rename_i hmem
      have hlookup : (fs.map fun f => if f.1 == key then (key, w) else f).lookup key = some w := by
        clear h
        induction fs with
        | nil => simp at hmem
        | cons f fs ih =>
          obtain ⟨name, value⟩ := f
          by_cases he : name = key
          · simp [he]
          · have hne : (key == name) = false := beq_false_of_ne fun hk => he hk.symm
            have hrest : (fs.map Prod.fst).contains key = true := by
              simpa [Ne.symm he] using hmem
            rw [List.map_cons, if_neg (by simpa using he), List.lookup_cons, hne]
            exact ih hrest
      rw [get, hlookup]
      rfl
    · rename_i hmem
      have hnone : fs.lookup key = none := by
        rw [List.lookup_eq_none_iff]
        intro f hf
        refine bne_iff_ne.mpr fun he => hmem ?_
        rw [List.contains_iff_mem, he]
        exact List.mem_map_of_mem hf
      rw [get, List.lookup_append, hnone]
      simp
  | _ => cases h

theorem isObject_of_get {v : Value} {key s : String} (h : v.get key = string s) :
    v.isObject = true := by
  cases v with
  | object fs => rfl
  | _ => cases h

end Value

namespace Rendering

/-! The marks of the outbounds. -/

theorem tag_mark {o : Value} {tag : String} (h : o.get "tag" = .string tag) (flow : ZapretFlow) :
    (markOutbound o flow).get "tag" = .string tag := by
  rw [markOutbound]
  split
  · rw [Value.get_set_ne (by decide), h]
  · exact h

theorem mark_of_ne {o : Value} {tag : String} (h : o.get "tag" = .string tag)
    {flows : List ZapretFlow} (hne : ∀ flow ∈ flows, flow.profile = tag → tag = "amneziawg") :
    flows.foldl markOutbound o = o := by
  induction flows with
  | nil => rfl
  | cons flow flows ih =>
    have hkeep : markOutbound o flow = o := by
      refine if_neg fun hc => ?_
      simp only [Bool.and_eq_true, h, Value.is, Value.looseEq_string, bne_iff_ne] at hc
      exact hc.2 (hc.1 ▸ hne flow List.mem_cons_self hc.1.symm)
    rw [List.foldl_cons, hkeep]
    exact ih fun flow hflow => hne flow (List.mem_cons_of_mem _ hflow)

theorem mark_of_mem {o : Value} {flow : ZapretFlow} (h : o.get "tag" = .string flow.profile)
    (hawg : flow.profile ≠ "amneziawg") {flows : List ZapretFlow} (hmem : flow ∈ flows)
    (hnd : (flows.map (·.profile)).Nodup) :
    (flows.foldl markOutbound o).get "routing_mark" = .int flow.mark := by
  induction flows generalizing o with
  | nil => cases hmem
  | cons other flows ih =>
    obtain ⟨hnot, hnd⟩ := List.nodup_cons.mp hnd
    rw [List.foldl_cons]
    rcases List.mem_cons.mp hmem with rfl | hmem
    · have hset : markOutbound o flow = o.set "routing_mark" (.int flow.mark) := by
        refine if_pos ?_
        simp only [h, Value.is, Bool.and_eq_true, Value.looseEq_string, true_and]
        exact bne_iff_ne.mpr hawg
      have htag : (o.set "routing_mark" (.int flow.mark)).get "tag" = .string flow.profile := by
        rw [Value.get_set_ne (by decide), h]
      rw [hset, mark_of_ne htag, Value.get_set_self (Value.isObject_of_get h)]
      intro other hother he
      exact absurd (List.mem_map.mpr ⟨other, hother, he⟩) hnot
    · exact ih (tag_mark h other) hmem hnd

theorem filter_contains_of_sublist {α : Type} [DecidableEq α] {s l : List α} (h : s.Sublist l)
    (hnd : l.Nodup) : l.filter (s.contains ·) = s := by
  induction h with
  | slnil => rfl
  | @cons s l a hsub ih =>
    obtain ⟨hnot, hnd⟩ := List.nodup_cons.mp hnd
    rw [List.filter_cons_of_neg, ih hnd]
    simpa using fun hmem => hnot (hsub.subset hmem)
  | @cons_cons s l a hsub ih =>
    obtain ⟨hnot, hnd⟩ := List.nodup_cons.mp hnd
    rw [List.filter_cons_of_pos (by simp)]
    refine congrArg (a :: ·) ((List.filter_congr fun b hb => ?_).trans (ih hnd))
    have hne : b ≠ a := fun he => hnot (he ▸ hb)
    simp [hne]

theorem profiles_of_chosen {snapshot policy : Value} {lane : Option String} {candidates : List String}
    (h : candidates.Sublist profiles) :
    ((Zapret.slots.filter (Zapret.chosen policy candidates)).map
        (Zapret.flow snapshot policy lane)).map (·.profile) =
      candidates.filter fun name => !(Zapret.strategyOf policy name).is "off" := by
  have hslots : Zapret.slots.map (·.profile) = profiles := rfl
  have hchosen : Zapret.slots.filter (Zapret.chosen policy candidates) =
      Zapret.slots.filter ((fun name => candidates.contains name &&
        !(Zapret.strategyOf policy name).is "off") ∘ (·.profile)) := by
    refine List.filter_congr fun s hs => ?_
    rw [Zapret.chosen, Function.comp_apply, Zapret.strategyOf_profile policy s hs]
  have hcandidates : profiles.filter (candidates.contains ·) = candidates :=
    filter_contains_of_sublist h (by decide)
  rw [List.map_map, hchosen]
  calc (Zapret.slots.filter _).map (·.profile) =
      (Zapret.slots.map (·.profile)).filter (fun name => candidates.contains name &&
        !(Zapret.strategyOf policy name).is "off") := List.filter_map.symm
    _ = (profiles.filter (candidates.contains ·)).filter
        (fun name => !(Zapret.strategyOf policy name).is "off") := by
      rw [hslots, List.filter_filter]
      exact List.filter_congr fun name _ => Bool.and_comm _ _
    _ = _ := by rw [hcandidates]

/-- What holds of the plan of a runtime: `effective` is the policy with its defaults. -/
structure Planned (snapshot effective : Value) (managed : Option LaneDescriptor) (rt : Runtime) :
    Prop where
  valid : rt.zapret.all Zapret.validPlan = true
  none : (effective.get "zapret").isNull = true ∨ managed.all (·.id == "vpn_zapret") = false →
    rt.zapret = none
  flows : (effective.get "zapret").isNull = false → managed.all (·.id == "vpn_zapret") = true →
    (zapretFlows rt.zapret).map (·.profile) =
      rt.candidates.filter fun name => !(Zapret.strategyOf (effective.get "zapret") name).is "off"
  nodup : ((zapretFlows rt.zapret).map (·.profile)).Nodup
  endpoint : ∀ flow ∈ zapretFlows rt.zapret, flow.ip = (snapshot.get "server").get "endpoint" ∧
    flow.port.isInteger 1 65535 = true
  outbound : ∀ flow ∈ zapretFlows rt.zapret, flow.profile ∈ rt.config.outbounds.map tagOf
  marks : ∀ flow ∈ zapretFlows rt.zapret, ∀ o ∈ rt.config.outbounds, tagOf o = flow.profile →
    o.get "routing_mark" = .int (if flow.profile = "amneziawg" then
      (managed.getD Lanes.single).awgInnerMark else flow.mark : Nat)
  awg : ∀ flow ∈ zapretFlows rt.zapret, flow.profile = "amneziawg" →
    flow.mark = (managed.getD Lanes.single).awgInnerMark + 1

theorem planOf_eq {snapshot policy effective : Value} {managed : Option LaneDescriptor}
    {p : Protocols} (hs : validateSnapshot snapshot = [])
    (hpolicy : policyFailure policy effective = none)
    (hendpoint : ipv4 ((snapshot.get "server").get "endpoint") = true)
    (hp : p.Known snapshot managed) (hlane : managed.all (·.id == "vpn_zapret") = true) :
    planOf snapshot effective managed p.candidates = some
      (if (effective.get "zapret").isNull || ((Zapret.slots.filter (Zapret.chosen
          (effective.get "zapret") p.candidates)).map
            (Zapret.flow snapshot (effective.get "zapret") (managed.map (·.id)))).isEmpty then none
      else some ⟨effective.get "wan_device", (Zapret.slots.filter (Zapret.chosen
          (effective.get "zapret") p.candidates)).map
            (Zapret.flow snapshot (effective.get "zapret") (managed.map (·.id))),
        (effective.get "zapret").get "repeats", managed.map (·.id)⟩) := by
  obtain ⟨hzapret, hwan, hdevice⟩ := policyFailure_eq_none hpolicy
  rw [planOf, if_pos hlane]
  have hmap : (managed.map (·.id)).all (· == "vpn_zapret") = true := by
    cases managed with
    | none => rfl
    | some lane => exact hlane
  refine Zapret.plan_eq hmap hzapret hwan hdevice fun s hslot hmem => ?_
  obtain ⟨hip, hport⟩ := flow_accepted (effective.get "zapret") hs hendpoint hp hlane hslot hmem
  exact ⟨ip_of_ipv4 (hip ▸ hendpoint), hport⟩

theorem planOf_ne_none {snapshot policy effective : Value} {managed : Option LaneDescriptor}
    {p : Protocols} (hs : validateSnapshot snapshot = [])
    (hpolicy : policyFailure policy effective = none)
    (hendpoint : ipv4 ((snapshot.get "server").get "endpoint") = true)
    (hp : p.Known snapshot managed) : planOf snapshot effective managed p.candidates ≠ none := by
  cases hlane : managed.all (·.id == "vpn_zapret") with
  | true =>
    rw [planOf_eq hs hpolicy hendpoint hp hlane]
    exact Option.some_ne_none _
  | false => simp [planOf, hlane]

/-- The outbound of a profile has the mark of its flow, and that of AmneziaWG the mark inside the
tunnel. -/
theorem routing_mark_of_flow {snapshot : Value} {managed : Option LaneDescriptor} {p : Protocols}
    (hp : p.Known snapshot managed) {flows : List ZapretFlow}
    (hnd : (flows.map (·.profile)).Nodup) {flow : ZapretFlow} (hflow : flow ∈ flows) {o : Value}
    (ho : o ∈ p.outbounds) (ht : tagOf o = flow.profile) :
    (flows.foldl markOutbound o).get "routing_mark" = .int (if flow.profile = "amneziawg" then
      (managed.getD Lanes.single).awgInnerMark else flow.mark : Nat) := by
  have hplain {tag : String} (htag : o.get "tag" = .string tag) (hne : tag ≠ "amneziawg") :
      (flows.foldl markOutbound o).get "routing_mark" = .int (if flow.profile = "amneziawg" then
        (managed.getD Lanes.single).awgInnerMark else flow.mark : Nat) := by
    have hprofile : tag = flow.profile := by rw [← ht, tagOf, htag, Value.text]
    subst hprofile
    rw [mark_of_mem htag hne hflow hnd, if_neg hne]
  rcases hp.outbounds o ho with htag | htag | rfl
  · exact hplain htag (by decide)
  · exact hplain htag (by decide)
  · have hprofile : flow.profile = "amneziawg" := ht.symm
    rw [mark_of_ne (show _ = Value.string "amneziawg" from rfl) fun _ _ _ => rfl, if_pos hprofile]
    rfl

theorem renderLane_planned {snapshot policy effective preferred : Value}
    {managed : Option LaneDescriptor} {rt : Runtime} (hs : validateSnapshot snapshot = [])
    (hpolicy : policyFailure policy effective = none)
    (hmanaged : managed.getD Lanes.single ∈ lanes)
    (h : renderLane snapshot effective preferred managed = .ok rt) :
    Planned snapshot effective managed rt := by
  rw [renderLane] at h
  split at h
  · cases h
  rename_i hendpoint
  replace hendpoint : ipv4 ((snapshot.get "server").get "endpoint") = true := by
    simpa using hendpoint
  obtain ⟨p, hcollect, h⟩ := except_bind_eq_ok.mp h
  have hp := collect_known hs hcollect
  obtain ⟨hwithin, -⟩ := collect_within hs hcollect
  dsimp only at h
  split at h
  · cases h
  split at h
  · cases h
  split at h
  · cases h
  rename_i zapret hplan
  obtain rfl := Except.ok.inj h
  cases hlane : managed.all (·.id == "vpn_zapret") with
  | false =>
    have hnone : zapret = none := by
      simpa [planOf, hlane] using hplan.symm
    subst hnone
    exact ⟨rfl, fun _ => rfl, fun _ htrue => absurd (hlane.symm.trans htrue) (by decide),
      List.nodup_nil, by simp [runtimeOf, zapretFlows], by simp [runtimeOf, zapretFlows],
      by simp [runtimeOf, zapretFlows], by simp [runtimeOf, zapretFlows]⟩
  | true =>
    have hvalid : zapret.all Zapret.validPlan = true := by
      rw [planOf, if_pos hlane] at hplan
      cases zapret with
      | none => rfl
      | some value => exact Zapret.plan_valid hplan
    rw [planOf_eq hs hpolicy hendpoint hp hlane] at hplan
    have hflows : zapretFlows zapret = if (effective.get "zapret").isNull then []
        else (Zapret.slots.filter (Zapret.chosen (effective.get "zapret") p.candidates)).map
          (Zapret.flow snapshot (effective.get "zapret") (managed.map (·.id))) := by
      rw [← Option.some.inj hplan]
      split
      · rename_i hempty
        rcases Bool.or_eq_true .. ▸ hempty with hnull | hnil
        · rw [if_pos hnull]
          rfl
        · rw [List.isEmpty_iff.mp hnil, ite_self]
          rfl
      · rename_i hsome
        rw [if_neg fun hnull => hsome (by rw [hnull, Bool.true_or])]
        rfl
    have hmem {flow : ZapretFlow} (hflow : flow ∈ zapretFlows zapret) : ∃ s ∈ Zapret.slots,
        s.profile ∈ p.candidates ∧
          flow = Zapret.flow snapshot (effective.get "zapret") (managed.map (·.id)) s := by
      rw [hflows, List.mem_ite_nil_left] at hflow
      obtain ⟨s, hs, rfl⟩ := List.mem_map.mp hflow.2
      obtain ⟨hslot, hchosen⟩ := List.mem_filter.mp hs
      rw [Zapret.chosen, Bool.and_eq_true] at hchosen
      exact ⟨s, hslot, List.contains_iff_mem.mp hchosen.1, rfl⟩
    have hnd : ((zapretFlows zapret).map (·.profile)).Nodup := by
      rw [hflows]
      split
      · exact List.nodup_nil
      · rw [profiles_of_chosen hwithin.sublist]
        exact (hwithin.sublist.nodup (by decide)).filter _
    have htags : (p.outbounds.map fun o => (zapretFlows zapret).foldl markOutbound o).map tagOf =
        p.candidates := by
      rw [List.map_map, ← hwithin.tags]
      exact List.map_congr_left fun o _ => tagOf_marks _ o
    constructor
    · exact hvalid
    · rintro (hnull | hfalse)
      · rw [hnull, Bool.true_or, if_pos rfl] at hplan
        exact (Option.some.inj hplan).symm
      · exact absurd (hlane.symm.trans hfalse) (by decide)
    · intro hnull _
      show (zapretFlows zapret).map (·.profile) = _
      rw [hflows, if_neg (by simp [hnull]), profiles_of_chosen hwithin.sublist]
      rfl
    · exact hnd
    · intro flow hflow
      obtain ⟨s, hslot, hcandidate, rfl⟩ := hmem hflow
      exact flow_accepted _ hs hendpoint hp hlane hslot hcandidate
    · intro flow hflow
      obtain ⟨s, -, hcandidate, rfl⟩ := hmem hflow
      show s.profile ∈ ((_ ++ [_] : List Value)).map tagOf
      rw [List.map_append, htags]
      exact List.mem_append_left _ hcandidate
    · intro flow hflow o ho ht
      rcases List.mem_append.mp ho with ho | ho
      · obtain ⟨o, hcollected, rfl⟩ := List.mem_map.mp ho
        rw [tagOf_marks] at ht
        exact routing_mark_of_flow hp hnd hflow hcollected ht
      · obtain rfl := List.mem_singleton.mp ho
        obtain ⟨s, -, hcandidate, rfl⟩ := hmem hflow
        have hdirect : s.profile = "direct" := ht.symm
        exact absurd (hwithin.sublist.subset (hdirect ▸ hcandidate)) profiles_ne_direct
    · intro flow hflow hprofile
      obtain ⟨s, hslot, -, rfl⟩ := hmem hflow
      have hs : s = ⟨"amneziawg", "amneziawg", 20194, "udp", ["fake"]⟩ := by
        simp only [Zapret.slots, List.mem_cons, List.not_mem_nil, or_false] at hslot
        have hawg : s.profile = "amneziawg" := hprofile
        rcases hslot with rfl | rfl | rfl
        · exact absurd hawg (by decide)
        · exact absurd hawg (by decide)
        · rfl
      subst hs
      cases managed with
      | none => rfl
      | some lane =>
        simp only [lanes, Lanes.descriptors, Option.getD_some, List.mem_cons, List.not_mem_nil,
          or_false] at hmanaged
        rcases hmanaged with rfl | rfl | rfl
        · exact absurd hlane (by decide)
        · exact absurd hlane (by decide)
        · rfl

end Rendering

namespace Rendering

theorem except_bind_eq_error {ε α β : Type} {x : Except ε α} {f : α → Except ε β} {e : ε} :
    x >>= f = .error e ↔ x = .error e ∨ ∃ a, x = .ok a ∧ f a = .error e := by
  cases x with
  | error e' =>
    constructor
    · exact fun h => .inl (congrArg Except.error (Except.error.inj h))
    · rintro (h | ⟨_, h, _⟩)
      · exact congrArg Except.error (Except.error.inj h)
      · cases h
  | ok a =>
    constructor
    · exact fun h => .inr ⟨a, rfl, h⟩
    · rintro (h | ⟨b, hb, h⟩)
      · cases h
      · obtain rfl := Except.ok.inj hb
        exact h

theorem collect_error {snapshot policy : Value} {managed : Option LaneDescriptor} {code : String}
    (h : collect snapshot policy managed = .error code) : code = "hysteria_tls_unverified" := by
  have hadd {p : Protocols} {name : String} (h : addProtocol snapshot policy p name = .error code) :
      code = "hysteria_tls_unverified" := by
    rw [addProtocol] at h
    split at h
    · cases h
    split at h
    · split at h
      · exact (Except.error.inj h).symm
      · cases h
    · cases h
  rcases except_bind_eq_error.mp h with hq | ⟨q, -, h⟩
  · exact hadd hq
  rcases except_bind_eq_error.mp h with hr | ⟨r, -, h⟩
  · exact hadd hr
  · split at h <;> cases h

theorem renderLane_error {snapshot policy effective preferred : Value}
    {managed : Option LaneDescriptor} (hs : validateSnapshot snapshot = [])
    (hpolicy : policyFailure policy effective = none) :
    renderLane snapshot effective preferred managed ≠ .error "invalid_zapret_plan" := by
  intro h
  rw [renderLane] at h
  split at h
  · simp at h
  rename_i hendpoint
  replace hendpoint : ipv4 ((snapshot.get "server").get "endpoint") = true := by
    simpa using hendpoint
  cases hcollect : collect snapshot effective managed with
  | error code =>
    rw [hcollect] at h
    have hcode : code = "invalid_zapret_plan" := Except.error.inj h
    exact absurd ((collect_error hcollect).symm.trans hcode) (by decide)
  | ok p =>
    rw [hcollect] at h
    change (if p.candidates.isEmpty then _ else _) = _ at h
    split at h
    · simp at h
    split at h
    · simp at h
    split at h
    · rename_i hplan
      exact planOf_ne_none hs hpolicy hendpoint (collect_known hs hcollect) hplan
    · cases h

/-- The lane of a snapshot with lanes. -/
def managedLane (snapshot : Value) (lane : Option String) : Option LaneDescriptor :=
  if hasLanes snapshot then lane.bind Lanes.find else none

theorem managedLane_mem (snapshot : Value) (lane : Option String) :
    (managedLane snapshot lane).getD Lanes.single ∈ lanes := by
  rw [managedLane]
  split
  · cases hfind : lane.bind Lanes.find with
    | none => exact List.mem_cons_self
    | some d =>
      obtain ⟨id, -, hd⟩ := Option.bind_eq_some_iff.mp hfind
      exact List.mem_cons_of_mem _ (List.mem_of_find?_eq_some hd)
  · exact List.mem_cons_self

theorem laneDescriptor_eq {lane : Option String} {descriptor : Option LaneDescriptor}
    (h : laneDescriptor lane = some descriptor) : descriptor = lane.bind Lanes.find := by
  cases lane with
  | none => exact (Option.some.inj h).symm
  | some id =>
    obtain ⟨d, hd, rfl⟩ := Option.map_eq_some_iff.mp h
    exact hd.symm

/-- The result of the part of `render` after the lane is known. -/
def rendered : Except String Runtime → RenderResult Runtime
  | .error code => .failed code
  | .ok runtime => .ok runtime

theorem render_eq {snapshot policy : Value} (preferred : Value) (lane : Option String)
    (hs : validateSnapshot snapshot = []) (hp : validatePolicy policy = none) :
    ∃ effective, normalizedPolicy policy = some effective ∧ policyFailure policy effective = none ∧
      (render snapshot policy preferred lane = .failed "invalid_lane" ∨
        render snapshot policy preferred lane = .empty "vpn_zapret" ∨
        render snapshot policy preferred lane =
          rendered (renderLane snapshot effective preferred (managedLane snapshot lane))) := by
  obtain ⟨effective, hn, hfailure⟩ := validatePolicy_eq_none hp
  refine ⟨effective, hn, hfailure, ?_⟩
  cases hlane : laneDescriptor lane with
  | none => exact .inl (by simp [render, hs, hlane])
  | some descriptor =>
    cases hempty : descriptor.any (·.id == "vpn_zapret") && !hasLanes snapshot with
    | true => exact .inr (.inl (by simp only [render, hs, hlane, hempty]; rfl))
    | false =>
      refine .inr (.inr ?_)
      simp only [render, hs, hlane, hempty, hp, hn, managedLane, ← laneDescriptor_eq hlane]
      cases renderLane snapshot effective preferred (if hasLanes snapshot then descriptor else none)
      · rfl
      · rfl

theorem render_ok {snapshot policy preferred : Value} {lane : Option String} {rt : Runtime}
    (h : render snapshot policy preferred lane = .ok rt) :
    validateSnapshot snapshot = [] ∧ ∃ effective, normalizedPolicy policy = some effective ∧
      policyFailure policy effective = none ∧
      renderLane snapshot effective preferred (managedLane snapshot lane) = .ok rt := by
  have hs : validateSnapshot snapshot = [] := by
    by_contra hne
    have hempty : (validateSnapshot snapshot).isEmpty = false := by simpa using hne
    simp [render, hempty] at h
  have hp : validatePolicy policy = none := by
    by_contra hne
    obtain ⟨code, hcode⟩ := Option.ne_none_iff_exists'.mp hne
    simp only [render, hs, hcode] at h
    split at h
    · cases h
    split at h
    · cases h
    split at h
    · cases h
    · cases h
  obtain ⟨effective, hn, hfailure, hr | hr | hr⟩ := render_eq preferred lane hs hp
  · cases hr.symm.trans h
  · cases hr.symm.trans h
  · refine ⟨hs, effective, hn, hfailure, ?_⟩
    rw [h] at hr
    cases hlane : renderLane snapshot effective preferred (managedLane snapshot lane) with
    | error code =>
      rw [hlane] at hr
      cases hr
    | ok runtime =>
      rw [hlane] at hr
      exact congrArg Except.ok (RenderResult.ok.inj hr).symm

end Rendering

open Rendering

/-- What holds of the plan of a runtime, of the rules that are made from it and of the plans that are
tried out instead. -/
structure ZapretPlanned (snapshot policy : Value) (lane : Option String) (rt : Runtime) : Prop where
  planned : Planned snapshot policy (managedLane snapshot lane) rt
  primary : hasLanes snapshot = true → lane = some "vpn" → rt.zapret = none
  rules : ∀ value, rt.zapret = some value → ∃ t, Zapret.nft value = some t ∧
    (∀ r ∈ t.post.rules, ∃ flow ∈ value.flows, ∀ p, r.matching p = true →
      Zapret.Scoped value flow p ∧ p.mark = BitVec.ofNat 32 flow.mark) ∧
    ∀ r ∈ t.raw.rules, ∃ flow ∈ value.flows, ∀ p, r.matching p = true →
      Zapret.Scoped value flow p ∧ p.mark = BitVec.ofNat 32 (Zapret.engineBit + flow.mark)
  others : ∀ value t, rt.zapret = some value → Zapret.nft value = some t →
    ∀ p, (∀ flow ∈ value.flows, ¬Zapret.Scoped value flow p) →
      t.post.handle p = .accepted ⟨p, [], false⟩ ∧ t.raw.handle p = .accepted ⟨p, [], false⟩
  diagnostic : ∀ value profile strategy copy, rt.zapret = some value →
    Zapret.diagnosticPlan value profile strategy = some copy →
    Zapret.validPlan copy = true ∧ ∃ before flow after, value.flows = before ++ flow :: after ∧
      flow.profile = profile ∧ copy = { value with
        flows := before ++ { flow with strategy := .string strategy } :: after }

/-- An accepted snapshot and policy are never refused a plan, and the plan is for the candidates
whose strategy is not off. -/
theorem rendered_zapret_plan (snapshot policy preferred : Value) (lane : Option String) :
    (validateSnapshot snapshot = [] → validatePolicy policy = none →
      render snapshot policy preferred lane ≠ .failed "invalid_zapret_plan") ∧
    ∀ rt, render snapshot policy preferred lane = .ok rt →
      ZapretPlanned snapshot policy lane rt := by
  refine ⟨fun hs hp hfailed => ?_, fun rt hrt => ?_⟩
  · obtain ⟨effective, -, hfailure, hr | hr | hr⟩ := render_eq preferred lane hs hp
    · exact absurd (RenderResult.failed.inj (hr.symm.trans hfailed)) (by decide)
    · cases hr.symm.trans hfailed
    · rw [hfailed] at hr
      cases hlane : renderLane snapshot effective preferred (managedLane snapshot lane) with
      | error code =>
        rw [hlane] at hr
        rw [← RenderResult.failed.inj hr] at hlane
        exact renderLane_error hs hfailure hlane
      | ok runtime =>
        rw [hlane] at hr
        cases hr
  · obtain ⟨hs, effective, hn, hfailure, hlane⟩ := render_ok hrt
    have hplanned := renderLane_planned hs hfailure (managedLane_mem snapshot lane) hlane
    have hzapret : effective.get "zapret" = policy.get "zapret" :=
      normalizedPolicy_get hn (by decide) (by decide)
    refine ⟨⟨hplanned.valid, hzapret ▸ hplanned.none, hzapret ▸ hplanned.flows, hplanned.nodup,
      hplanned.endpoint, hplanned.outbound, hplanned.marks, hplanned.awg⟩, fun hlanes hvpn => ?_,
      fun value hvalue => ?_, fun value t _ ht p => Zapret.nft_others ht,
      fun value profile strategy copy _ => Zapret.diagnosticPlan_one⟩
    · refine hplanned.none (.inr ?_)
      rw [managedLane, if_pos hlanes, hvpn]
      decide
    · have hvalid : Zapret.validPlan value = true := by
        have hall := hplanned.valid
        rwa [hvalue] at hall
      have htable : ∃ t, Zapret.nft value = some t := by
        rw [Zapret.nft, if_neg (by simp [hvalid])]
        exact ⟨_, rfl⟩
      obtain ⟨t, ht⟩ := htable
      exact ⟨t, ht, Zapret.nft_scoped ht⟩

namespace PlanSample

def key (c : Char) : String := String.ofList (List.replicate 43 c ++ ['='])

def profileFields (privateKey address : String) : List (String × Value) :=
  [("protocol_version", .int 1),
    ("capabilities", .object [("awg_obfuscation_v1", .bool true), ("awg2_i_fields", .bool false),
      ("obfuscation_fields", .array [])]),
    ("interface", .object [("private_key", .string privateKey), ("address", .string address),
      ("dns_servers", .array [])]),
    ("peer", .object [("public_key", .string (key 'B')), ("preshared_key", .string (key 'C')),
      ("endpoint", .object [("host", .string "203.0.113.7"), ("port", .int 51820)]),
      ("persistent_keepalive", .int 25)]),
    ("obfuscation", .object (obfuscationNames.map fun name => (name, .int 5))),
    ("route_allowed_ips", .array [.string "0.0.0.0/0", .string "::/0"]),
    ("install_routes", .bool false)]

def awgSlot (fields : List (String × Value)) : Value :=
  .object [("enabled", .bool true), ("profile", .object fields)]

def importable : List (String × Value) :=
  profileFields (key 'A') "10.66.66.2/32" ++
    [("legacy_amnezia_vpn_import_key", .string "vpn://AAAA")]

def snapshotOf (version : Int) (protocols : List (String × Value)) : Value :=
  .object [("schema_version", .int version), ("router_id", .string "router-0001"),
    ("revision", .int 7), ("snapshot_sha256", .string
      "0123456789abcdef0123456789abcdef0123456789abcdef0123456789abcdef"),
    ("applied_at", .string "2026-01-01T00:00:00Z"), ("published_at", .null),
    ("client", .object [("id", .int 1), ("name", .string "home")]),
    ("server", .object [("endpoint", .string "203.0.113.7")]), ("protocols", .object protocols)]

def snapshot : Value := snapshotOf 3 [("vless", Sample.unusedSlot "outbound"),
  ("hysteria2", Sample.unusedSlot "outbound"), ("amneziawg", awgSlot importable)]

/-- A snapshot for both lanes, with a second tunnel for the second one. -/
def lanesSnapshot : Value := snapshotOf 4 [
  ("vless", .object [("enabled", .bool true), ("outbound", Sample.tunnelOutbound)]),
  ("hysteria2", Sample.unusedSlot "outbound"), ("amneziawg", awgSlot importable),
  ("amneziawg_aux", awgSlot (profileFields (key 'D') "10.66.66.3/32"))]

def policyOf (vless : String) : Value :=
  .object [("selection", .string "auto"), ("wan_device", .string "eth0"),
    ("dns_server", .string "1.1.1.1"), ("direct_domains", .array []), ("direct_cidrs", .array []),
    ("hysteria_tls_mode", .string "strict"), ("awg_available", .bool true),
    ("zapret", .object [("vless", .string vless), ("hysteria2", .string "off"),
      ("amneziawg", .string "fake"), ("repeats", .int 1)])]

def policy : Value := policyOf "off"

def lanesPolicy : Value := policyOf "split"

def runtime : RenderResult Runtime := render snapshot policy .null none

def hasOtherMark : RenderResult Runtime → Bool
  | .ok rt => (zapretFlows rt.zapret).any fun flow => rt.config.outbounds.any fun o =>
      (o.get "tag").is flow.profile && !(o.get "routing_mark").looseEq (.int flow.mark)
  | _ => false

theorem runtime_mark : hasOtherMark runtime = true := by decide +kernel

def flowProfiles : RenderResult Runtime → List String
  | .ok rt => (zapretFlows rt.zapret).map (·.profile)
  | _ => []

end PlanSample

open PlanSample in
/-- The packets of AmneziaWG have a mark outside the tunnel and another inside. -/
theorem flow_mark_not_routing_mark : ∃ rt, render snapshot policy .null none = .ok rt ∧
    ∃ flow ∈ zapretFlows rt.zapret, ∃ o ∈ rt.config.outbounds,
      (o.get "tag").is flow.profile = true ∧ o.get "routing_mark" ≠ .int flow.mark := by
  have hmark := runtime_mark
  cases hrt : runtime with
  | ok rt =>
    rw [hrt] at hmark
    obtain ⟨flow, hflow, hmark⟩ := List.any_eq_true.mp hmark
    obtain ⟨o, ho, hmark⟩ := List.any_eq_true.mp hmark
    rw [Bool.and_eq_true, Bool.not_eq_true'] at hmark
    refine ⟨rt, hrt, flow, hflow, o, ho, hmark.1, fun he => ?_⟩
    rw [he] at hmark
    exact absurd hmark.2 (by simp [Value.looseEq, Value.toNumber?])
  | failed code =>
    rw [hrt] at hmark
    cases hmark
  | empty lane =>
    rw [hrt] at hmark
    cases hmark

open PlanSample in
/-- The second lane has a flow for each of its tunnels. -/
theorem rendered_zapret_plan_lane : ∃ rt,
    render lanesSnapshot lanesPolicy .null (some "vpn_zapret") = .ok rt ∧
    (zapretFlows rt.zapret).map (·.profile) = ["vless-reality", "amneziawg"] ∧
    ZapretPlanned lanesSnapshot lanesPolicy (some "vpn_zapret") rt := by
  have hprofiles : flowProfiles (render lanesSnapshot lanesPolicy .null (some "vpn_zapret")) =
      ["vless-reality", "amneziawg"] := by decide +kernel
  cases hrt : render lanesSnapshot lanesPolicy .null (some "vpn_zapret") with
  | ok rt =>
    rw [hrt] at hprofiles
    exact ⟨rt, rfl, hprofiles,
      (rendered_zapret_plan lanesSnapshot lanesPolicy .null (some "vpn_zapret")).2 rt hrt⟩
  | failed code =>
    rw [hrt] at hprofiles
    cases hprofiles
  | empty lane =>
    rw [hrt] at hprofiles
    cases hprofiles

end AutoVPN
