import AutoVPN.Router.NetworkInstall

/-! What holds of the router once a plan of the managed networks is installed: which sections have
changed, which addresses the networks share with nothing else, and which sections refer to the wired
ports. A plan is not made again on the networks that it has brought up. -/

namespace AutoVPN

namespace Planner

def Range.addresses (r : Range) : Set Nat := Set.Icc r.start r.stop

theorem Range.disjoint_of_not_meets {r own : Range} (h : r.meets own = false) :
    Disjoint r.addresses own.addresses := by
  rw [Set.disjoint_left]
  rintro x ⟨hr, hr'⟩ ⟨ho, ho'⟩
  have hmeets : r.meets own = true := by
    simp only [meets, Bool.and_eq_true, decide_eq_true_eq]
    exact ⟨hr.trans ho', ho.trans hr'⟩
  rw [h] at hmeets
  cases hmeets

/-- An address or a network that can be read and has no address in common with the managed networks
and the tunnel; the network that is sent directly is not managed on a primary LAN. -/
def Clear (primaryLan : Bool) (value : String) (mask : Option UciValue) : Prop :=
  ∃ r, range value mask = some r ∧ Disjoint r.addresses tun.addresses ∧
    ∀ mode ∈ reservedModes, (primaryLan && mode.id == "direct") = false →
      Disjoint r.addresses (subnet mode.octet).addresses

theorem clear_of_overlaps {primaryLan : Bool} {value : String} {mask : Option UciValue}
    (h : overlaps value mask primaryLan = false) : Clear primaryLan value mask := by
  unfold overlaps at h
  split at h
  · cases h
  · rename_i r hr
    rw [Bool.or_eq_false_iff] at h
    refine ⟨r, hr, Range.disjoint_of_not_meets h.2, fun mode hmode hmanaged => ?_⟩
    have hmeets := List.any_eq_false.mp h.1 mode hmode
    rw [hmanaged, Bool.not_false, Bool.true_and, Bool.not_eq_true] at hmeets
    exact Range.disjoint_of_not_meets hmeets

def ownedBridges (configs : Configs) : List String :=
  ((sectionsAt configs .network).filter fun s => owned s && s.type == "device").flatMap
    fun s => (s.text "name").toList

/-- What a plan promises of the configuration after it, for the one before it and the routes. -/
structure Safe (primaryLan : Bool) (before after : Configs) (table : List Route) : Prop where
  frame : ∀ c, ∃ kept new, after c = some (kept ++ new) ∧
    List.Forall₂ (Documented c) (foreign before c) kept ∧ ∀ s ∈ new, owned s = true
  addresses : ∀ s ∈ foreign after .network, ∀ address ∈ s.list "ipaddr",
    Clear primaryLan address (s.get "netmask")
  routes : ∀ r ∈ table, exempt (ownedBridges before) r = true ∨
    ∃ dst, r.dst = .string dst ∧ Clear primaryLan dst none
  ports : ∃ s ∈ foreign after .network, isManagementBridge s = true ∧ ∃ port ∈ s.list "ports", port ≠ ""
  names : ∀ c, ((sectionsAt after c).map Section.name).Nodup

section

variable {settings : Value} {configs : Configs} {table : List Route} {p : NetPlan} {st : Scan}
  {radios : RadioScan} {bridge : Section}

theorem Reads.ownedBridges_eq (hp : Reads settings configs table p st radios bridge) :
    st.ownedBridges = ownedBridges configs := by
  have hother {c : NetConfig} (hc : c ≠ .network) :
      ((sectionsAt configs c).map (c, ·)).filter ownedBridge = [] := by
    refine List.filter_eq_nil_iff.mpr fun x hx => ?_
    obtain ⟨s, -, rfl⟩ := List.mem_map.mp hx
    simp [ownedBridge, hc]
  rw [hp.remembers.ownedBridges]
  simp only [entries, Network.configs, List.flatMap_cons, List.flatMap_nil, List.filter_append,
    hother (c := .wireless) (by decide), hother (c := .dhcp) (by decide),
    hother (c := .firewall) (by decide), List.append_nil, List.filter_map, List.flatMap_map,
    ownedBridges]
  congr 1
  exact List.filter_congr fun s _ => by simp [ownedBridge]

theorem Reads.foreign_install (hp : Reads settings configs table p st radios bridge)
    (hu : Parsed configs) (c : NetConfig) :
    foreign (install p configs) c = (foreign configs c).map (patchSection p.patches c) := by
  rw [foreign, hp.sectionsAt_install, List.filter_append]
  have hkept : ((foreign configs c).map (patchSection p.patches c)).filter (!owned ·) =
      (foreign configs c).map (patchSection p.patches c) := by
    refine List.filter_eq_self.mpr fun s' hs' => ?_
    obtain ⟨s, hs, rfl⟩ := List.mem_map.mp hs'
    rw [(hp.patch_documented hu hs).owned, (mem_foreign.mp hs).2, Bool.not_false]
  have hnew : (added p c).filter (!owned ·) = [] :=
    List.filter_eq_nil_iff.mpr fun s hs => by simp [hp.added_owned hs]
  rw [hkept, hnew, List.append_nil]

theorem Reads.frame (hp : Reads settings configs table p st radios bridge) (hu : Parsed configs)
    (c : NetConfig) : ∃ kept new, install p configs c = some (kept ++ new) ∧
      List.Forall₂ (Documented c) (foreign configs c) kept ∧ ∀ s ∈ new, owned s = true := by
  refine ⟨_, _, hp.install_eq c, ?_, fun s hs => hp.added_owned hs⟩
  rw [List.forall₂_map_right_iff, List.forall₂_same]
  exact fun s hs => hp.patch_documented hu hs

theorem Reads.addresses (hp : Reads settings configs table p st radios bridge) (hu : Parsed configs)
    {s : Section} (hs : s ∈ foreign (install p configs) .network) {address : String}
    (ha : address ∈ s.list "ipaddr") :
    Clear (settings.get "primary_lan").isTrue address (s.get "netmask") := by
  rw [hp.foreign_install hu] at hs
  obtain ⟨s, hmem, rfl⟩ := List.mem_map.mp hs
  have hsame {option : String} (h : option ≠ "ports") :
      (patchSection p.patches .network s).get option = s.get option := by
    rw [hp.patch_network hu hmem]
    split
    · exact s.get_set_of_ne _ h
    · rfl
  rw [Section.list, hsame (by decide)] at ha
  rw [hsame (by decide)]
  obtain ⟨hmem, hforeign⟩ := mem_foreign.mp hmem
  exact clear_of_overlaps ((hp.passes hmem).addresses rfl hforeign address ha)

theorem Reads.routes (hp : Reads settings configs table p st radios bridge) {r : Route}
    (hr : r ∈ table) : exempt (ownedBridges configs) r = true ∨
      ∃ dst, r.dst = .string dst ∧ Clear (settings.get "primary_lan").isTrue dst none := by
  have hpass := hp.routes_pass r hr
  rw [routeConflict, hp.ownedBridges_eq, Bool.and_eq_false_iff, Bool.not_eq_false'] at hpass
  refine hpass.imp id fun h => ?_
  split at h
  · rename_i dst hdst
    exact ⟨dst, hdst, clear_of_overlaps h⟩
  · cases h

theorem Reads.names (hp : Reads settings configs table p st radios bridge) (hu : Parsed configs)
    (c : NetConfig) : ((sectionsAt (install p configs) c).map Section.name).Nodup := by
  have hkept : ((foreign configs c).map (patchSection p.patches c)).map Section.name =
      (foreign configs c).map Section.name := by
    rw [List.map_map]
    exact List.map_congr_left fun s hs => (hp.patch_documented hu hs).name
  rw [hp.sectionsAt_install, List.map_append, hkept]
  refine List.Nodup.append ((hu c).sublist (List.filter_sublist.map _)) (hp.added_nodup hu c) ?_
  intro name hname hnew
  obtain ⟨s, hs, rfl⟩ := List.mem_map.mp hname
  obtain ⟨hs, hforeign⟩ := mem_foreign.mp hs
  have havpn := hp.added_avpnName hnew
  rw [(hp.passes hs).foreign_name hforeign] at havpn
  cases havpn

/-- The bridge of the management has a port with a name that is not managed. -/
def KeepsPort (configs : Configs) : Prop :=
  ∃ s ∈ foreign configs .network, isManagementBridge s = true ∧
    ∃ port ∈ s.list "ports", port ∉ managedPorts ∧ port ≠ ""

theorem isManagementBridge_set (s : Section) (value : UciValue) :
    isManagementBridge (s.set "ports" value) = isManagementBridge s := by
  rw [isManagementBridge, isManagementBridge, Section.is, Section.is,
    s.text_set_of_ne value (by decide), Section.set_type]

theorem Reads.ports_iff (hp : Reads settings configs table p st radios bridge)
    (hu : Parsed configs) : (∃ s ∈ foreign (install p configs) .network,
      isManagementBridge s = true ∧ ∃ port ∈ s.list "ports", port ≠ "") ↔ KeepsPort configs := by
  rw [hp.foreign_install hu]
  constructor
  · rintro ⟨s', hs', hm, port, hport, hne⟩
    obtain ⟨s, hs, rfl⟩ := List.mem_map.mp hs'
    rw [hp.patch_network hu hs] at hm hport
    have hms : isManagementBridge s = true := by
      by_contra hms
      rw [if_neg hms] at hm
      exact hms hm
    rw [if_pos hms, Section.list_set_self] at hport
    obtain ⟨hport, hout⟩ := List.mem_filter.mp hport
    exact ⟨s, hs, hms, port, hport, by simpa using hout, hne⟩
  · rintro ⟨s, hs, hm, port, hport, hout, hne⟩
    refine ⟨_, List.mem_map_of_mem hs, ?_, port, ?_, hne⟩
    · rw [hp.patch_network hu hs, if_pos hm, isManagementBridge_set, hm]
    · rw [hp.patch_network hu hs, if_pos hm, Section.list_set_self]
      exact List.mem_filter.mpr ⟨hport, by simpa using hout⟩

end

/-! A router with two radios and four wired ports. -/

namespace SetupSample

def settings : Value := .object [("base_ssid", .string "Dorm"), ("password", .string "hello-pass")]

def network (ports : UciValue) : List Section := [
  ⟨"brlan", "device", [("name", .text "br-lan"), ("type", .text "bridge"), ("ports", ports)]⟩,
  ⟨"lan", "interface", [("device", .text "br-lan"), ("ipaddr", .text "192.168.1.1"),
    ("netmask", .text "255.255.255.0")]⟩]

def wireless : List Section := [
  ⟨"radio0", "wifi-device", [("band", .text "2g")]⟩,
  ⟨"radio1", "wifi-device", [("band", .text "5g")]⟩,
  ⟨"default_radio0", "wifi-iface", [("ssid", .text "Management"), ("network", .text "lan")]⟩]

def dhcp : List Section := [⟨"lan", "dhcp", [("interface", .text "lan")]⟩]

def firewall : List Section := [⟨"defaults", "defaults", []⟩,
  ⟨"wan", "zone", [("name", .text "wan"), ("network", .list ["wan"]), ("masq", .text "1")]⟩]

def configs (ports : UciValue) : Configs
  | .network => some (network ports)
  | .wireless => some wireless
  | .dhcp => some dhcp
  | .firewall => some firewall

def ports : UciValue := .list ["lan1", "lan2", "lan3", "lan4"]

/-- The list has a blank too many, and only managed ports. -/
def blankPorts : UciValue := .text "lan3  lan4"

/-- The list has a VLAN of a managed port. -/
def taggedPorts : UciValue := .list ["lan1", "lan2", "lan3", "lan4", "lan3.10"]

theorem parsed (ports : UciValue) : Parsed (configs ports) := by
  intro c
  cases c <;> simp [sectionsAt, configs, network, wireless, dhcp, firewall]

theorem planned (ports : UciValue) (h : (plan settings (configs ports) (some [])).isOk = true) :
    ∃ p, plan settings (configs ports) (some []) = .ok p := by
  cases hplan : plan settings (configs ports) (some []) with
  | error code =>
    rw [hplan] at h
    cases h
  | ok p => exact ⟨p, rfl⟩

theorem first_setup : ∃ p, plan settings (configs ports) (some []) = .ok p :=
  planned ports (by decide +kernel)

end SetupSample

/-- A plan that succeeds leaves the router safe exactly when the bridge of the management has a port
of its own: the empty words of a list of ports with more blanks than it needs are counted as ports. -/
theorem network_plan_safe {settings : Value} {configs : Configs} {table : List Route} {p : NetPlan}
    (h : plan settings configs (some table) = .ok p) (hu : Parsed configs) :
    Safe (settings.get "primary_lan").isTrue configs (install p configs) table ↔
      KeepsPort configs := by
  obtain ⟨table', st, radios, bridge, htable, hp⟩ := plan_ok h
  obtain rfl := Option.some.inj htable
  constructor
  · exact fun hsafe => (hp.ports_iff hu).mp hsafe.ports
  · intro hkeeps
    exact ⟨hp.frame hu, fun s hs address ha => hp.addresses hu hs ha, fun r hr => hp.routes hr,
      (hp.ports_iff hu).mpr hkeeps, hp.names hu⟩

theorem network_plan_safe_first_setup :
    ∃ p, plan SetupSample.settings (SetupSample.configs SetupSample.ports) (some []) = .ok p ∧
      (Safe false (SetupSample.configs SetupSample.ports)
        (install p (SetupSample.configs SetupSample.ports)) [] ↔
        KeepsPort (SetupSample.configs SetupSample.ports)) := by
  obtain ⟨p, hp⟩ := SetupSample.first_setup
  exact ⟨p, hp, network_plan_safe hp (SetupSample.parsed _)⟩

/-- A word that is empty is the only port that is left to the bridge of the management. -/
theorem management_without_port :
    ∃ p, plan SetupSample.settings (SetupSample.configs SetupSample.blankPorts) (some []) = .ok p ∧
      ¬Safe false (SetupSample.configs SetupSample.blankPorts)
        (install p (SetupSample.configs SetupSample.blankPorts)) [] := by
  obtain ⟨p, hp⟩ := SetupSample.planned SetupSample.blankPorts (by decide +kernel)
  refine ⟨p, hp, fun hsafe => ?_⟩
  obtain ⟨table, st, radios, bridge, -, hreads⟩ := plan_ok hp
  have hkeeps := (hreads.ports_iff (SetupSample.parsed _)).mp hsafe.ports
  have hnone : ¬KeepsPort (SetupSample.configs SetupSample.blankPorts) := by
    unfold KeepsPort
    decide +kernel
  exact hnone hkeeps

/-! The wired ports. -/

/-- A section names a port, or a VLAN of it, as its device, as what it is a VLAN of or among its
ports. -/
def refers (s : Section) (port : String) : Bool :=
  (s.text "device").any (physicalPortReference · port) ||
    (s.list "ifname").any (physicalPortReference · port) ||
    (s.list "ports").any (physicalPortReference · port)

def isBridge (bridge : String) (s : Section) : Bool := s.type == "device" && s.is "name" bridge

/-- Every managed port belongs to its bridge, and no other section refers to it. -/
def Isolated (network : List Section) : Prop :=
  ∀ b ∈ wiredBridges, (∃ s ∈ network, isBridge b.bridge s = true ∧ s.list "ports" = b.ports) ∧
    ∀ port ∈ b.ports, ∀ s ∈ network, refers s port = true → isBridge b.bridge s = true

/-- What is not checked of the sections that are not owned: a device has no managed port as its
`device`, none is a VLAN of one, and `br-lan` has no VLAN of one among its ports. -/
def Separate (configs : Configs) : Prop :=
  ∀ s ∈ foreign configs .network, ∀ port ∈ managedPorts,
    (s.type = "device" → (s.text "device").any (physicalPortReference · port) = false) ∧
    (s.list "ifname").any (physicalPortReference · port) = false ∧
    (s.is "name" "br-lan" = true → ∀ value ∈ s.list "ports",
      physicalPortReference value port = true → isManagementBridge s = true ∧ value = port)

theorem wiredBridge_of_managed {port : String} (h : port ∈ managedPorts) :
    ∃ b ∈ wiredBridges, port ∈ b.ports ∧ ∃ mode ∈ reservedModes, mode.bridge = b.bridge := by
  simp only [managedPorts, List.mem_cons, List.not_mem_nil, or_false] at h
  rcases h with rfl | rfl
  · exact ⟨⟨"br-avpnnv", negativePorts⟩, by simp [wiredBridges], by simp [negativePorts],
      ⟨"negative", "br-avpnnv", 33⟩, by simp [reservedModes], rfl⟩
  · exact ⟨⟨"br-avpn", positivePorts⟩, by simp [wiredBridges], by simp [positivePorts],
      ⟨"vpn", "br-avpn", 30⟩, by simp [reservedModes], rfl⟩

theorem managed_of_wiredBridge {b : WiredBridge} (hb : b ∈ wiredBridges) {port : String}
    (h : port ∈ b.ports) : port ∈ managedPorts := by
  simp only [wiredBridges, List.mem_cons, List.not_mem_nil, or_false] at hb
  rcases hb with rfl | rfl
  · rw [List.mem_singleton.mp h]
    decide
  · rw [List.mem_singleton.mp h]
    decide

theorem eq_of_managed_reference {value port : String} (hvalue : value ∈ managedPorts)
    (hport : port ∈ managedPorts) (h : physicalPortReference value port = true) : value = port := by
  have hall : (managedPorts.all fun value => managedPorts.all fun port =>
      !physicalPortReference value port || value == port) = true := by decide +kernel
  have hone := List.all_eq_true.mp (List.all_eq_true.mp hall value hvalue) port hport
  rw [h, Bool.not_true, Bool.false_or] at hone
  exact beq_iff_eq.mp hone

theorem modeSections_refers {mode : Mode} (hmode : mode ∈ modes) {s : Section}
    (hs : (.network, s) ∈ modeSections mode) {b : WiredBridge} (hb : b ∈ wiredBridges)
    {port : String} (hport : port ∈ b.ports) (h : refers s port = true) :
    isBridge b.bridge s = true := by
  have hall : (modes.all fun mode => (modeSections mode).all fun x => wiredBridges.all fun b =>
      b.ports.all fun port => !refers x.2 port || isBridge b.bridge x.2) = true := by decide +kernel
  have hmodes := List.all_eq_true.mp (List.all_eq_true.mp hall mode hmode) _ hs
  have hone := List.all_eq_true.mp (List.all_eq_true.mp hmodes b hb) port hport
  rw [h, Bool.not_true, Bool.false_or] at hone
  exact hone

section

variable {settings : Value} {configs : Configs} {table : List Route} {p : NetPlan} {st : Scan}
  {radios : RadioScan} {bridge : Section}

theorem Reads.added_network (hp : Reads settings configs table p st radios bridge) {s : Section} :
    s ∈ added p .network ↔ ∃ mode ∈ modes,
      onPrimaryLan (settings.get "primary_lan").isTrue mode = false ∧
        (.network, s) ∈ modeSections mode := by
  have hmem : s ∈ added p .network ↔ (.network, s) ∈ p.sections := by
    constructor
    · intro h
      obtain ⟨x, hx, rfl⟩ := List.mem_map.mp h
      obtain ⟨hx, hc⟩ := List.mem_filter.mp hx
      rw [← beq_iff_eq.mp hc]
      exact hx
    · exact fun h => List.mem_map.mpr ⟨_, List.mem_filter.mpr ⟨h, by simp⟩, rfl⟩
  rw [hmem, hp.sections, List.mem_flatMap]
  refine exists_congr fun mode => and_congr_right fun _ => ?_
  rw [sectionsOf, List.mem_append]
  constructor
  · rintro (h | h)
    · split at h
      · exact absurd h List.not_mem_nil
      · rename_i hprimary
        exact ⟨by simpa using hprimary, h⟩
    · obtain ⟨radio, -, heq⟩ := List.mem_map.mp h
      have hc : NetConfig.wireless = .network := congrArg Prod.fst heq
      cases hc
  · rintro ⟨hprimary, h⟩
    left
    rw [hprimary, if_neg (by decide)]
    exact h

theorem Reads.bridge_added (hp : Reads settings configs table p st radios bridge) {b : WiredBridge}
    (hb : b ∈ wiredBridges) :
    ∃ s ∈ added p .network, isBridge b.bridge s = true ∧ s.list "ports" = b.ports := by
  simp only [wiredBridges, List.mem_cons, List.not_mem_nil, or_false] at hb
  rcases hb with rfl | rfl
  · refine ⟨_, hp.added_network.mpr ⟨⟨"vpn", "br-avpn", 30, "-в", true⟩, by simp [modes],
      by simp [onPrimaryLan], List.mem_cons_self⟩, by decide +kernel, by decide +kernel⟩
  · refine ⟨_, hp.added_network.mpr ⟨⟨"negative", "br-avpnnv", 33, "-нв", true⟩, by simp [modes],
      by simp [onPrimaryLan], List.mem_cons_self⟩, by decide +kernel, by decide +kernel⟩

theorem Reads.not_bridge (hp : Reads settings configs table p st radios bridge)
    (hu : Parsed configs) {s : Section} (hs : s ∈ foreign configs .network) {mode : ReservedMode}
    (hmode : mode ∈ reservedModes) :
    isBridge mode.bridge (patchSection p.patches .network s) = false := by
  have hname : (patchSection p.patches .network s).is "name" mode.bridge =
      s.is "name" mode.bridge := by
    rw [hp.patch_network hu hs]
    split
    · rw [Section.is, Section.is, s.text_set_of_ne _ (by decide)]
    · rfl
  have hreserved := (hp.passes (mem_foreign.mp hs).1).reserved rfl (mem_foreign.mp hs).2 mode hmode
  rw [reserves, Bool.or_assoc, Bool.or_eq_false_iff] at hreserved
  rw [isBridge, hname, hreserved.1, Bool.and_false]

theorem Reads.kept_device (hp : Reads settings configs table p st radios bridge)
    (hu : Parsed configs) {s : Section} (hs : s ∈ foreign configs .network) :
    (patchSection p.patches .network s).text "device" = s.text "device" := by
  rw [hp.patch_network hu hs]
  split
  · exact s.text_set_of_ne _ (by decide)
  · rfl

theorem Reads.kept_ifname (hp : Reads settings configs table p st radios bridge)
    (hu : Parsed configs) {s : Section} (hs : s ∈ foreign configs .network) :
    (patchSection p.patches .network s).list "ifname" = s.list "ifname" := by
  rw [hp.patch_network hu hs]
  split
  · exact s.list_set_of_ne _ (by decide)
  · rfl

theorem Reads.kept_ports (hp : Reads settings configs table p st radios bridge)
    (hu : Parsed configs) {s : Section} (hs : s ∈ foreign configs .network) :
    (patchSection p.patches .network s).list "ports" =
      if isManagementBridge s then remainingPorts (s.list "ports") else s.list "ports" := by
  rw [hp.patch_network hu hs]
  split
  · exact s.list_set_self _ _
  · rfl

theorem Reads.separate (hp : Reads settings configs table p st radios bridge) (hu : Parsed configs)
    (h : Isolated (sectionsAt (install p configs) .network)) : Separate configs := by
  intro s hs port hport
  obtain ⟨b, hb, hbport, mode, hmode, hbridge⟩ := wiredBridge_of_managed hport
  have hno : refers (patchSection p.patches .network s) port = false := by
    rw [Bool.eq_false_iff]
    intro hrefers
    have hisbridge := (h b hb).2 port hbport _ (by
      rw [hp.sectionsAt_install]
      exact List.mem_append_left _ (List.mem_map_of_mem hs)) hrefers
    rw [← hbridge, hp.not_bridge hu hs hmode] at hisbridge
    cases hisbridge
  rw [refers, Bool.or_eq_false_iff, Bool.or_eq_false_iff, hp.kept_device hu hs,
    hp.kept_ifname hu hs, hp.kept_ports hu hs] at hno
  refine ⟨fun _ => hno.1.1, hno.1.2, fun _ value hvalue href => ?_⟩
  have hports := List.any_eq_false.mp hno.2 value
  by_cases hm : isManagementBridge s = true
  · rw [if_pos hm] at hports
    refine ⟨hm, eq_of_managed_reference ?_ hport href⟩
    by_contra hout
    exact hports (List.mem_filter.mpr ⟨hvalue, by simpa using hout⟩) href
  · rw [if_neg hm] at hports
    exact absurd href (hports hvalue)

theorem Reads.isolated (hp : Reads settings configs table p st radios bridge) (hu : Parsed configs)
    (h : Separate configs) : Isolated (sectionsAt (install p configs) .network) := by
  intro b hb
  rw [hp.sectionsAt_install]
  constructor
  · obtain ⟨s, hs, hbridge⟩ := hp.bridge_added hb
    exact ⟨s, List.mem_append_right _ hs, hbridge⟩
  intro port hbport s' hs' hrefers
  rcases List.mem_append.mp hs' with hs' | hs'
  · obtain ⟨s, hs, rfl⟩ := List.mem_map.mp hs'
    have hport := managed_of_wiredBridge hb hbport
    obtain ⟨hdevice, hifname, hlan⟩ := h s hs port hport
    have hconflict := (hp.passes (mem_foreign.mp hs).1).ports rfl (mem_foreign.mp hs).2 port hport
    rw [portConflict, Bool.or_eq_false_iff, Bool.and_eq_false_iff, Bool.and_eq_false_iff]
      at hconflict
    rw [refers, hp.kept_device hu hs, hp.kept_ifname hu hs, hp.kept_ports hu hs, Bool.or_eq_true,
      hifname, Bool.or_false] at hrefers
    rcases hrefers with hrefers | hrefers
    · have hnone : (s.text "device").any (physicalPortReference · port) = false :=
        hconflict.1.elim (fun htype => hdevice (by simpa using htype)) id
      rw [hnone] at hrefers
      cases hrefers
    · obtain ⟨value, hvalue, href⟩ := List.any_eq_true.mp hrefers
      have hmem : value ∈ s.list "ports" := by
        split at hvalue
        · exact (List.mem_filter.mp hvalue).1
        · exact hvalue
      have hname : s.is "name" "br-lan" = true := by
        rcases hconflict.2 with hnone | hname
        · exact absurd href (by simpa using List.any_eq_false.mp hnone value hmem)
        · simpa using hname
      obtain ⟨hm, rfl⟩ := hlan hname value hmem href
      rw [if_pos hm] at hvalue
      have hout := (List.mem_filter.mp hvalue).2
      rw [List.contains_iff_mem.mpr hport] at hout
      cases hout
  · obtain ⟨mode, hmode, -, hs'⟩ := hp.added_network.mp hs'
    exact modeSections_refers hmode hs' hb hbport hrefers

end

/-- After a plan the wired ports are isolated exactly when no section that it has not made refers to
one of them where it has not looked. -/
theorem wired_ports_isolated {settings : Value} {configs : Configs} {routes : Option (List Route)}
    {p : NetPlan} (h : plan settings configs routes = .ok p) (hu : Parsed configs) :
    Isolated (sectionsAt (install p configs) .network) ↔ Separate configs := by
  obtain ⟨table, st, radios, bridge, -, hp⟩ := plan_ok h
  exact ⟨hp.separate hu, hp.isolated hu⟩

theorem wired_ports_isolated_first_setup :
    ∃ p, plan SetupSample.settings (SetupSample.configs SetupSample.ports) (some []) = .ok p ∧
      (Isolated (sectionsAt (install p (SetupSample.configs SetupSample.ports)) .network) ↔
        Separate (SetupSample.configs SetupSample.ports)) := by
  obtain ⟨p, hp⟩ := SetupSample.first_setup
  exact ⟨p, hp, wired_ports_isolated hp (SetupSample.parsed _)⟩

/-- A VLAN of `lan3` stays a port of `br-lan`. -/
theorem wired_port_shared :
    ∃ p, plan SetupSample.settings (SetupSample.configs SetupSample.taggedPorts) (some []) = .ok p ∧
      ¬Isolated (sectionsAt (install p (SetupSample.configs SetupSample.taggedPorts)) .network) := by
  obtain ⟨p, hp⟩ := SetupSample.planned SetupSample.taggedPorts (by decide +kernel)
  refine ⟨p, hp, fun hisolated => ?_⟩
  obtain ⟨table, st, radios, bridge, -, hreads⟩ := plan_ok hp
  have hseparate := hreads.separate (SetupSample.parsed _) hisolated
  have hshared : ¬Separate (SetupSample.configs SetupSample.taggedPorts) := by
    unfold Separate
    decide +kernel
  exact hshared hseparate

/-! A plan is never made again on what it has installed. -/

/-- The connected route that the kernel makes for an interface. -/
def connectedRoute (s : Section) : Option Route := do
  if s.type != "interface" then none
  let address ← s.text "ipaddr"
  let device ← s.text "device"
  let r ← range address (s.get "netmask")
  return ⟨.string (quad r.start ++ "/" ++ toString (32 - Nat.log2 (r.stop + 1 - r.start))),
    .string device⟩

/-- The connected routes of the interfaces that a plan makes. -/
def connectedRoutes (p : NetPlan) : List Route := (added p .network).filterMap connectedRoute

/-- The same plan is made again, and changes nothing. -/
def Repeats (settings : Value) (configs : Configs) (table : List Route) (p : NetPlan) : Prop :=
  ∃ p', plan settings (install p configs) (some (table ++ connectedRoutes p)) = .ok p' ∧
    install p' (install p configs) = install p configs

def failureCode {α : Type} : Except String α → Option String
  | .error code => some code
  | .ok _ => none

theorem eq_error_of_failureCode {α : Type} {e : Except String α} {code : String}
    (h : failureCode e = some code) : e = .error code := by
  cases e with
  | error code' => exact congrArg Except.error (Option.some.inj h)
  | ok a => cases h

def negativeRoute : Route := ⟨.string "192.168.33.0/24", .string "br-avpnnv"⟩

def negativeInterface : Section :=
  ⟨"avpn_negative", "interface", [("device", .text "br-avpnnv"), ("proto", .text "static"),
    ("ipaddr", .text "192.168.33.1"), ("netmask", .text "255.255.255.0"), ("delegate", .text "0"),
    ("autovpn_owner", .text "ssid-v1")]⟩

theorem connectedRoute_negative : connectedRoute negativeInterface = some negativeRoute := by
  rfl

theorem routeConflict_negative (primaryLan : Bool) (bridges : List String) :
    routeConflict primaryLan bridges negativeRoute = true := by
  have hoverlaps : overlaps "192.168.33.0/24" none primaryLan = true := by
    cases primaryLan <;> decide +kernel
  have hexempt : exempt bridges negativeRoute = false := by
    have hsubnet : (Value.string "192.168.33.0/24").isIn exemptSubnets = false := by decide +kernel
    simp only [exempt, negativeRoute, hsubnet, Bool.and_false]
    decide +kernel
  rw [routeConflict, hexempt]
  exact hoverlaps

theorem negativeRoute_mem {settings : Value} {configs : Configs} {routes : Option (List Route)}
    {p : NetPlan} (h : plan settings configs routes = .ok p) : negativeRoute ∈ connectedRoutes p := by
  obtain ⟨table, st, radios, bridge, -, hp⟩ := plan_ok h
  refine List.mem_filterMap.mpr ⟨negativeInterface, ?_, connectedRoute_negative⟩
  exact hp.added_network.mpr ⟨⟨"negative", "br-avpnnv", 33, "-нв", true⟩, by simp [modes],
    by simp [onPrimaryLan], List.mem_cons_of_mem _ List.mem_cons_self⟩

/-- No plan is made while the route of the negative network is there. -/
theorem plan_conflict {settings : Value} {configs : Configs} {table : List Route}
    (h : negativeRoute ∈ table) {p : NetPlan} : plan settings configs (some table) ≠ .ok p := by
  intro hp
  obtain ⟨table', st, radios, bridge, htable, hp⟩ := plan_ok hp
  obtain rfl := Option.some.inj htable
  exact absurd ((routeConflict_negative _ _).symm.trans (hp.routes_pass negativeRoute h)) (by decide)

/-- Once the networks of a plan are up no plan is made: the routes that are let pass are those of the
reserved networks but for the negative one. -/
theorem replan_refused {settings : Value} {configs : Configs} {table : List Route} {p : NetPlan}
    (h : plan settings configs (some table) = .ok p) : ¬Repeats settings configs table p := by
  rintro ⟨p', hagain, -⟩
  exact plan_conflict (List.mem_append_right _ (negativeRoute_mem h)) hagain

theorem replan_refused_first_setup :
    ∃ p, plan SetupSample.settings (SetupSample.configs SetupSample.ports) (some []) = .ok p ∧
      ¬Repeats SetupSample.settings (SetupSample.configs SetupSample.ports) [] p := by
  obtain ⟨p, hp⟩ := SetupSample.first_setup
  exact ⟨p, hp, replan_refused hp⟩

theorem replan_conflicts :
    ∃ p, plan SetupSample.settings (SetupSample.configs SetupSample.ports) (some []) = .ok p ∧
      plan SetupSample.settings (install p (SetupSample.configs SetupSample.ports))
        (some ([] ++ connectedRoutes p)) = .error "network_subnet_conflict" ∧
      ¬Repeats SetupSample.settings (SetupSample.configs SetupSample.ports) [] p := by
  obtain ⟨p, hp⟩ := SetupSample.first_setup
  have hcode : failureCode (plan SetupSample.settings (SetupSample.configs SetupSample.ports) (some [])
      >>= fun p => plan SetupSample.settings (install p (SetupSample.configs SetupSample.ports))
        (some ([] ++ connectedRoutes p))) = some "network_subnet_conflict" := by decide +kernel
  rw [hp] at hcode
  have hagain := eq_error_of_failureCode hcode
  refine ⟨p, hp, hagain, ?_⟩
  rintro ⟨p', hp', -⟩
  exact absurd (hagain.symm.trans hp') (by simp)

end Planner

end AutoVPN
