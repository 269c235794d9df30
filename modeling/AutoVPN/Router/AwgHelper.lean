import Mathlib.Data.String.Basic
import AutoVPN.Router.Bundle

/-! The profiles that the helper for AmneziaWG takes, and why it takes each that a bundle has. -/

namespace AutoVPN

theorem Pattern.matchesList_append {p q : Pattern} {a b : List Char} (ha : p.matchesList a = true)
    (hb : q.matchesList b = true) : Pattern.matchesList (p ++ q) (a ++ b) = true := by
  induction p generalizing a with
  | nil =>
    rw [matchesList_nil] at ha
    rwa [ha]
  | cons piece p ih =>
    obtain ⟨c, d, rfl, hc, hd⟩ := matchesList_cons.mp ha
    rw [List.cons_append, List.append_assoc]
    exact matchesList_cons_append hc (ih hd)

namespace AwgHelper

open Rendering

def hasExactKeys (value : Value) (expected : List String) : Bool :=
  value.isObject && joined (keys value) == joined expected

def key (value : Value) : Bool := value.matches Lanes.keyPattern

def ipv4Cidr (value : Value) : Bool := Lanes.address value

/-- The lane of the argument, the first one where there is none. -/
def laneOf (argument : Option String) : Option LaneDescriptor := Lanes.find (argument.getD "vpn")

def expectedKeys (lane : Option LaneDescriptor) : List String :=
  if lane.any (·.id == "vpn") then
    ["protocol_version", "capabilities", "interface", "peer", "obfuscation", "route_allowed_ips",
      "install_routes", "legacy_amnezia_vpn_import_key"]
  else
    ["protocol_version", "capabilities", "interface", "peer", "obfuscation", "route_allowed_ips",
      "install_routes"]

def validPeer (peer : Value) : Bool :=
  let endpoint := peer.get "endpoint"
  hasExactKeys peer ["public_key", "preshared_key", "endpoint", "persistent_keepalive"] &&
    endpoint.isObject && hasExactKeys endpoint ["host", "port"] &&
    isText (endpoint.get "host") && ipv4Cidr (.string ((endpoint.get "host").text ++ "/32")) &&
    (endpoint.get "port").isInteger 1 65535 && (peer.get "persistent_keepalive").isInteger 0 65535

def validObfuscation (obfuscation : Value) : Bool :=
  hasExactKeys obfuscation ["Jc", "Jmin", "Jmax", "S1", "S2", "H1", "H2", "H3", "H4"] &&
    obfuscation.fields.all (fun field => field.2.isInteger 0 4294967295) &&
    ["Jc", "Jmin", "Jmax", "S1", "S2"].all (fun name =>
      !(obfuscation.get name).greater (.int 65535)) &&
    !(obfuscation.get "Jmin").greater (obfuscation.get "Jmax")

def valid (lane : Option LaneDescriptor) (profile : Value) : Bool :=
  let interface := profile.get "interface"
  let peer := profile.get "peer"
  let obfuscation := profile.get "obfuscation"
  hasExactKeys profile (expectedKeys lane) &&
    interface.isObject && peer.isObject && obfuscation.isObject &&
    (profile.get "protocol_version").looseEq (.int 1) && (profile.get "install_routes").isFalse &&
    key (interface.get "private_key") && ipv4Cidr (interface.get "address") &&
    key (peer.get "public_key") && key (peer.get "preshared_key") &&
    validPeer peer && validObfuscation obfuscation

/-! What the checks of the snapshot and of the renderer say in the words of the helper. -/

theorem joined_perm {names names' : List String} (h : names.Perm names') :
    joined names = joined names' := by
  have htotal : Std.Total (fun a b : String => ¬b < a) := ⟨fun a b => by
    simpa only [not_lt] using le_total a b⟩
  have htrans : IsTrans String (fun a b => ¬b < a) := ⟨fun a b c => by
    simpa only [not_lt] using le_trans⟩
  have hsorted : names.insertionSort (fun a b => ¬b < a) =
      names'.insertionSort (fun a b => ¬b < a) := by
    refine List.Perm.eq_of_pairwise (fun a b _ _ hab hba => ?_) (List.pairwise_insertionSort _ _)
      (List.pairwise_insertionSort _ _) ?_
    · exact le_antisymm (not_lt.mp hab) (not_lt.mp hba)
    · exact (List.perm_insertionSort _ _).trans (h.trans (List.perm_insertionSort _ _).symm)
  rw [joined, joined, hsorted]

theorem hasExactKeys_of_perm {value : Value} {expected expected' : List String}
    (h : value.hasExactKeys expected' = true) (hp : expected'.Perm expected) :
    hasExactKeys value expected = true := by
  obtain ⟨fs, rfl, hperm⟩ := Value.hasExactKeys_iff.mp h
  have hkeys : joined (keys (.object fs)) = joined expected := joined_perm (hperm.trans hp)
  rw [hasExactKeys, hkeys, Bool.and_eq_true]
  exact ⟨rfl, beq_self_eq_true _⟩

theorem isObject_of_exactKeys {value : Value} {expected : List String}
    (h : value.hasExactKeys expected = true) : value.isObject = true := by
  obtain ⟨fs, rfl, -⟩ := Value.hasExactKeys_iff.mp h
  rfl

theorem slash_not_mem_ipv4 {cs : List Char} (h : ipv4Text cs = true) : '/' ∉ cs := by
  obtain ⟨a, b, c, d, hparts, rfl, -⟩ := ipv4Text_parts h
  have hpart (part : List Char) (hp : part ∈ [a, b, c, d]) : '/' ∉ part := fun hm =>
    absurd ((hparts part hp).1 '/' hm) (by decide)
  simp only [List.mem_append, List.mem_cons, hpart a (by simp), hpart b (by simp),
    hpart c (by simp), hpart d (by simp), false_or, or_false, not_or]
  decide

theorem address_of_ipv4Text {cs : List Char} {s : String} (h : ipv4Text cs = true)
    (hs : s.toList = cs ++ ['/', '3', '2']) : Lanes.address (.string s) = true := by
  obtain ⟨hpattern, hoctets⟩ := Bool.and_eq_true_iff.mp h
  have hmatch : Lanes.addressPattern.matches s = true := by
    have htail : Pattern.matchesList [.char '/', .char '3', .char '2'] ['/', '3', '2'] = true := by
      decide
    have happend := Pattern.matchesList_append hpattern htail
    rwa [← hs] at happend
  have htake : s.toList.takeWhile (· != '/') = cs := by
    have hne : ∀ c ∈ cs, (c != '/') = true := fun c hc =>
      bne_iff_ne.mpr fun he => slash_not_mem_ipv4 h (he ▸ hc)
    rw [hs, List.takeWhile_append_of_pos hne]
    simp
  rw [Lanes.address, hmatch, htake, Bool.true_and]
  exact hoctets

theorem address_of_awgAddress {v : Value} (h : awgAddress v = true) : Lanes.address v = true := by
  cases v with
  | string s =>
    obtain ⟨hcidr, hlength⟩ := Bool.and_eq_true_iff.mp h
    rw [Value.text] at hlength
    rw [cidr] at hcidr
    split at hcidr
    · rename_i address length hsplit
      rw [hsplit] at hlength
      obtain ⟨hlength, -⟩ := Bool.and_eq_true_iff.mp hlength
      refine address_of_ipv4Text (Bool.and_eq_true_iff.mp hcidr).1 ?_
      have hjoin : ['/'].intercalate (s.toList.splitOn '/') = s.toList := List.intercalate_splitOn '/'
      rw [← hjoin, hsplit, eq_of_beq hlength]
      rfl
    · cases hcidr
  | _ => cases h

theorem host_of_ipv4 {v : Value} (h : ipv4 v = true) :
    isText v = true ∧ ipv4Cidr (.string (v.text ++ "/32")) = true := by
  cases v with
  | string s =>
    refine ⟨rfl, address_of_ipv4Text h ?_⟩
    rw [Value.text, String.toList_append]
    rfl
  | _ => cases h

/-- What the validation of a snapshot says of a profile. -/
structure Accepted (value endpoint : Value) (auxiliary : Bool) : Prop where
  keys : value.hasExactKeys (["protocol_version", "capabilities", "interface", "peer", "obfuscation",
    "route_allowed_ips", "install_routes"] ++
      if auxiliary then [] else ["legacy_amnezia_vpn_import_key"]) = true
  version : (value.get "protocol_version").looseEq (.int 1) = true
  routes : (value.get "install_routes").isFalse = true
  interface : (value.get "interface").hasExactKeys ["private_key", "address", "dns_servers"] = true
  peer : (value.get "peer").hasExactKeys
    ["public_key", "preshared_key", "endpoint", "persistent_keepalive"] = true
  keepalive : ((value.get "peer").get "persistent_keepalive").isInteger 0 65535 = true
  endpointKeys : ((value.get "peer").get "endpoint").hasExactKeys ["host", "port"] = true
  host : (((value.get "peer").get "endpoint").get "host").looseEq endpoint = true
  port : (((value.get "peer").get "endpoint").get "port").isInteger 1 65535 = true
  obfuscation : validateObfuscation (value.get "obfuscation") = []

theorem accepted_of_validateAwg {value endpoint : Value} {auxiliary : Bool}
    (h : AutoVPN.validateAwg value endpoint auxiliary = []) : Accepted value endpoint auxiliary := by
  unfold AutoVPN.validateAwg at h
  extract_lets path expected routes capabilities interface peer at h
  split at h
  · simp [addError] at h
  · rename_i hkeys
    rw [Bool.not_eq_true, Bool.not_eq_false'] at hkeys
    obtain ⟨hrest, -⟩ := List.append_eq_nil_iff.mp h
    obtain ⟨hrest, hobfuscation⟩ := List.append_eq_nil_iff.mp hrest
    obtain ⟨hrest, hpeer⟩ := List.append_eq_nil_iff.mp hrest
    obtain ⟨hrest, hinterface⟩ := List.append_eq_nil_iff.mp hrest
    obtain ⟨hprofile, -⟩ := List.append_eq_nil_iff.mp hrest
    simp only [addError_eq_nil, Bool.or_eq_false_iff, Bool.not_eq_false'] at hprofile hinterface hpeer
    exact
      { keys := hkeys
        version := hprofile.1.1.1.1.1
        routes := hprofile.1.1.1.1.2
        interface := hinterface.1.1.1
        peer := hpeer.1.1.1.1.1.1
        keepalive := hpeer.1.1.1.2
        endpointKeys := hpeer.1.1.2
        host := hpeer.1.2
        port := hpeer.2
        obfuscation := hobfuscation }

theorem obfuscation_of_accepted {obfuscation : Value} (h : validateObfuscation obfuscation = []) :
    obfuscation.hasExactKeys obfuscationNames = true ∧
      obfuscation.fields.all (fun field => field.2.isInteger 0 4294967295) = true := by
  unfold validateObfuscation at h
  split at h
  · simp [addError] at h
  · rename_i hkeys
    rw [Bool.not_eq_true, Bool.not_eq_false'] at hkeys
    refine ⟨hkeys, List.all_eq_true.mpr fun field hf => ?_⟩
    simpa only [addError_eq_nil, Bool.not_eq_false'] using List.flatMap_eq_nil_iff.mp h field hf

/-- The keys that are expected differ in their order, and for the lane with the packet engine there
is no key of an import. -/
theorem expectedKeys_perm {lane : Option LaneDescriptor} {auxiliary : Bool}
    (h : lane.any (·.id == "vpn") = !auxiliary) :
    (["protocol_version", "capabilities", "interface", "peer", "obfuscation", "route_allowed_ips",
      "install_routes"] ++ if auxiliary then [] else ["legacy_amnezia_vpn_import_key"]).Perm
      (expectedKeys lane) := by
  cases auxiliary with
  | false => simp [expectedKeys, h]
  | true => simp [expectedKeys, h]

theorem validPeer_of_accepted {value endpoint : Value} {auxiliary : Bool}
    (h : Accepted value endpoint auxiliary) (hendpoint : ipv4 endpoint = true) :
    validPeer (value.get "peer") = true := by
  have hhost := eq_of_looseEq_ipv4 hendpoint h.host
  obtain ⟨htext, hcidr⟩ := host_of_ipv4 (hhost ▸ hendpoint)
  rw [validPeer, hasExactKeys_of_perm h.peer (List.Perm.refl _), isObject_of_exactKeys h.endpointKeys,
    hasExactKeys_of_perm h.endpointKeys (List.Perm.refl _), htext, hcidr, h.port, h.keepalive]
  rfl

theorem valid_of_accepted {value endpoint : Value} {auxiliary : Bool} {lane : Option LaneDescriptor}
    (h : Accepted value endpoint auxiliary) (hendpoint : ipv4 endpoint = true)
    (hrender : Rendering.validateAwg value = true) (hlane : lane.any (·.id == "vpn") = !auxiliary) :
    valid lane value = true := by
  obtain ⟨hkeys, hnumbers⟩ := obfuscation_of_accepted h.obfuscation
  simp only [Rendering.validateAwg, Bool.and_eq_true] at hrender
  obtain ⟨⟨⟨⟨⟨⟨-, hprivate⟩, haddress⟩, hpublic⟩, hpreshared⟩, hsmall⟩, hrange⟩ := hrender
  have hobfuscation : validObfuscation (value.get "obfuscation") = true := by
    have hexact : hasExactKeys (value.get "obfuscation") obfuscationNames = true :=
      hasExactKeys_of_perm hkeys (List.Perm.refl _)
    simp only [validObfuscation, Bool.and_eq_true]
    exact ⟨⟨⟨hexact, hnumbers⟩, hsmall⟩, hrange⟩
  simp only [valid, Bool.and_eq_true]
  exact ⟨⟨⟨⟨⟨⟨⟨⟨⟨⟨⟨hasExactKeys_of_perm h.keys (expectedKeys_perm hlane),
    isObject_of_exactKeys h.interface⟩, isObject_of_exactKeys h.peer⟩, isObject_of_exactKeys hkeys⟩,
    h.version⟩, h.routes⟩, hprivate⟩, address_of_awgAddress haddress⟩, hpublic⟩, hpreshared⟩,
    validPeer_of_accepted h hendpoint⟩, hobfuscation⟩

/-! The profile of a bundle. -/

theorem renderLane_awg {snapshot policy preferred : Value} {managed : Option LaneDescriptor}
    {rt : Runtime} (h : renderLane snapshot policy preferred managed = .ok rt) :
    ipv4 ((snapshot.get "server").get "endpoint") = true ∧
      rt.awg = awgProfile snapshot policy managed := by
  unfold renderLane at h
  split at h
  · cases h
  rename_i hendpoint
  refine ⟨by simpa using hendpoint, ?_⟩
  obtain ⟨p, -, h⟩ := except_bind_eq_ok.mp h
  dsimp only at h
  split at h
  · cases h
  split at h
  · cases h
  split at h
  · cases h
  · obtain rfl := Except.ok.inj h
    rfl

theorem laneOf_any {snapshot : Value} {lane : Option String} {descriptor : Option LaneDescriptor}
    (hlane : laneDescriptor lane = some descriptor)
    (hempty : (descriptor.any (·.id == "vpn_zapret") && !hasLanes snapshot) = false) :
    (laneOf lane).any (·.id == "vpn") =
      !(if hasLanes snapshot then descriptor else none).any (·.id == "vpn_zapret") := by
  cases lane with
  | none =>
    obtain rfl := Option.some.inj hlane
    rw [ite_self]
    rfl
  | some id =>
    obtain ⟨d, hd, rfl⟩ := Option.map_eq_some_iff.mp hlane
    have hlane : laneOf (some id) = some d := hd
    have hmem : d ∈ Lanes.descriptors := List.mem_of_find?_eq_some hd
    have hid : d.id = "vpn" ∨ d.id = "vpn_zapret" := by
      simp only [Lanes.descriptors, List.mem_cons, List.not_mem_nil, or_false] at hmem
      rcases hmem with rfl | rfl
      · exact .inl rfl
      · exact .inr rfl
    rw [hlane]
    rcases hid with hid | hid
    · split <;> simp [hid]
    · have hlanes : hasLanes snapshot = true := by simpa [hid] using hempty
      simp [hlanes, hid]

theorem render_awg {snapshot policy preferred profile : Value} {lane : Option String} {rt : Runtime}
    (h : render snapshot policy preferred lane = .ok rt) (hawg : rt.awg = some profile) :
    valid (laneOf lane) profile = true := by
  obtain ⟨hs, -, descriptor, effective, hlane, hempty, -, hrender⟩ := render_ok_iff.mp h
  obtain ⟨hendpoint, hprofile⟩ := renderLane_awg hrender
  rw [hawg, awgProfile] at hprofile
  obtain ⟨hcondition, hvalue⟩ := Option.ite_none_right_eq_some.mp hprofile.symm
  simp only [Bool.and_eq_true] at hcondition
  have hslot : (if (if hasLanes snapshot then descriptor else none).any (·.id == "vpn_zapret") then
      "amneziawg_aux" else "amneziawg") =
      slotName (if hasLanes snapshot then descriptor else none) "amneziawg" := by
    simp [slotName]
  rw [hslot] at hcondition hvalue
  have haccepted := accepted_of_validateAwg (accepted_awg hs hcondition.1.1)
  rw [← Option.some.inj hvalue]
  exact valid_of_accepted haccepted hendpoint hcondition.2 (laneOf_any hlane hempty)

theorem bundleValue_awg (entry policy : Value) (lane : Option String) (rt : Runtime) :
    (bundleValue entry policy lane rt).get "awg" = rt.awg.getD .null := by
  have hversion (n : Int) : (if 3 ≤ n then optionalField "lane" Value.string lane else []).lookup "awg"
      = none := by
    split
    · cases lane <;> rfl
    · rfl
  simp only [bundleValue, Value.get, List.lookup_append, hversion]
  cases rt.awg with
  | none => cases rt.zapret <;> rfl
  | some profile => rfl

/-- The profile that a bundle has, and the copy of it in the file for the helper, is one that the
helper accepts for the lane of the bundle: for the first lane with the key of the import, for the
second without it. -/
theorem bundle_awg_valid (jsonLength : Value → Nat) {entry policy preferred value : Value}
    {lane : Option String} (h : bundle jsonLength entry policy preferred lane = .ok value)
    (hawg : (value.get "awg").isNull = false) :
    valid (laneOf lane) (value.get "awg") = true ∧ valid (laneOf lane) (copy (value.get "awg")) = true := by
  obtain ⟨-, rt, hrender, -, rfl⟩ := bundle_eq_ok.mp h
  rw [copy_eq, and_self]
  rw [bundleValue_awg] at hawg ⊢
  cases hrt : rt.awg with
  | none =>
    rw [hrt] at hawg
    cases hawg
  | some profile => exact render_awg hrender hrt

/-- Whether a bundle was made that has a profile. -/
def hasProfile : RenderResult Value → Bool
  | .ok value => !(value.get "awg").isNull
  | _ => false

open BundleSample in
/-- The profile of the second lane. -/
theorem bundle_awg_valid_auxiliary : ∃ value,
    bundle printedLength lanesEntry PlanSample.lanesPolicy .null (some "vpn_zapret") = .ok value ∧
      valid (laneOf (some "vpn_zapret")) (value.get "awg") = true ∧
      valid (laneOf (some "vpn_zapret")) (copy (value.get "awg")) = true := by
  have hprofile : hasProfile (bundle (fun _ => 0) lanesEntry PlanSample.lanesPolicy .null
      (some "vpn_zapret")) = true := by decide +kernel
  obtain ⟨value, h⟩ := lanes_bundled
  rw [bundle_of_length h (by decide), hasProfile, Bool.not_eq_true'] at hprofile
  exact ⟨value, h, bundle_awg_valid printedLength h hprofile⟩

end AwgHelper

end AutoVPN
