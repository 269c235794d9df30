import AutoVPN.Lib.Fold
import AutoVPN.Router.NetworkPlan

/-! What the plan of the managed networks has read and checked once its loop over the sections of
the router has come to an end. -/

namespace AutoVPN

namespace Planner

theorem check_bind {β : Type} {failed : Bool} {code : String} {f : Unit → Except String β} {r : β} :
    (check failed code >>= f) = .ok r ↔ failed = false ∧ f () = .ok r := by
  cases failed with
  | true => exact ⟨fun h => (by cases h), fun h => (by cases h.1)⟩
  | false => exact ⟨fun h => ⟨rfl, h⟩, fun h => h.2⟩

abbrev Entry := NetConfig × Section

def sectionsAt (configs : Configs) (c : NetConfig) : List Section := (configs c).getD []

/-- The sections in the order in which they are read. -/
def entries (configs : Configs) : List Entry :=
  Network.configs.flatMap fun c => (sectionsAt configs c).map (c, ·)

theorem mem_entries {configs : Configs} {c : NetConfig} {s : Section} :
    (c, s) ∈ entries configs ↔ s ∈ sectionsAt configs c := by
  have hc : c ∈ Network.configs := by cases c <;> decide
  constructor
  · intro h
    obtain ⟨c', -, hs⟩ := List.mem_flatMap.mp h
    obtain ⟨s', hs', heq⟩ := List.mem_map.mp hs
    obtain ⟨rfl, rfl⟩ := Prod.mk.inj heq
    exact hs'
  · exact fun h => List.mem_flatMap.mpr ⟨c, hc, List.mem_map_of_mem h⟩

/-- A section of the network that is not owned and describes the bridge of the management. -/
def management (x : Entry) : Bool := !owned x.2 && x.1 == .network && isManagementBridge x.2

def ownedBridge (x : Entry) : Bool := owned x.2 && x.1 == .network && x.2.type == "device"

def foreignRadio (x : Entry) : Bool := !owned x.2 && x.1 == .wireless && isRadio x.2

def radioOf (s : Section) : Radio := ⟨s.name, (s.text "band").getD "", s.is "disabled" "1"⟩

/-- What is checked of one section. -/
structure Passes (primaryLan : Bool) (c : NetConfig) (s : Section) : Prop where
  owned_name : owned s = true → avpnName s.name = true
  foreign_name : owned s = false → avpnName s.name = false
  bridge_type : management (c, s) = true → s.is "type" "bridge" = true
  ports : c = .network → owned s = false → ∀ port ∈ managedPorts, portConflict s port = false
  reserved : c = .network → owned s = false → ∀ mode ∈ reservedModes, reserves s mode = false
  addresses : c = .network → owned s = false →
    ∀ address ∈ s.list "ipaddr", overlaps address (s.get "netmask") primaryLan = false

/-- What the loop remembers after some sections. -/
structure Remembers (primaryLan : Bool) (read : List Entry) (st : Scan) : Prop where
  passes : ∀ x ∈ read, Passes primaryLan x.1 x.2
  remove : st.remove = (read.filter (owned ·.2)).map fun x => (x.1, x.2.name)
  ownedBridges : st.ownedBridges = (read.filter ownedBridge).flatMap fun x => (x.2.text "name").toList
  bridge : st.managementBridge.toList = (read.filter management).map (·.2)
  radioDevices : st.radioDevices = (read.filter foreignRadio).map (radioOf ·.2)

variable {primaryLan : Bool}

theorem Remembers.snoc {read : List Entry} {st st' : Scan} {x : Entry}
    (h : Remembers primaryLan read st) (hpass : Passes primaryLan x.1 x.2)
    (hremove : st'.remove = st.remove ++ if owned x.2 then [(x.1, x.2.name)] else [])
    (hbridges : st'.ownedBridges = st.ownedBridges ++
      if ownedBridge x then (x.2.text "name").toList else [])
    (hbridge : st'.managementBridge.toList = st.managementBridge.toList ++
      if management x then [x.2] else [])
    (hradios : st'.radioDevices = st.radioDevices ++ if foreignRadio x then [radioOf x.2] else []) :
    Remembers primaryLan (read ++ [x]) st' where
  passes := by
    intro y hy
    rcases List.mem_append.mp hy with hy | hy
    · exact h.passes y hy
    · exact List.mem_singleton.mp hy ▸ hpass
  remove := by
    rw [hremove, h.remove, List.filter_append, List.map_append, List.filter_singleton]
    cases owned x.2 <;> rfl
  ownedBridges := by
    rw [hbridges, h.ownedBridges, List.filter_append, List.flatMap_append, List.filter_singleton]
    cases ownedBridge x
    · rfl
    · simp
  bridge := by
    rw [hbridge, h.bridge, List.filter_append, List.map_append, List.filter_singleton]
    cases management x <;> rfl
  radioDevices := by
    rw [hradios, h.radioDevices, List.filter_append, List.map_append, List.filter_singleton]
    cases foreignRadio x <;> rfl

theorem scanOwned_ok {c : NetConfig} {st st' : Scan} {s : Section}
    (h : scanOwned c st s = .ok st') :
    avpnName s.name = true ∧ st'.remove = st.remove ++ [(c, s.name)] ∧
      st'.ownedBridges = st.ownedBridges ++
        (if c == .network && s.type == "device" then (s.text "name").toList else []) ∧
      st'.managementBridge = st.managementBridge ∧ st'.radioDevices = st.radioDevices := by
  obtain ⟨hname, h⟩ := check_bind.mp h
  obtain rfl := Except.ok.inj h
  have hname : ownedName s.name = true := by simpa using hname
  rw [ownedName, Bool.and_eq_true, Bool.and_eq_true] at hname
  exact ⟨hname.1.1, rfl, rfl, rfl, rfl⟩

theorem scanWireless_ok {st st' : Scan} {s : Section} (h : scanWireless st s = .ok st') :
    st' = { st with radioDevices := st.radioDevices ++ if isRadio s then [radioOf s] else [] } := by
  unfold scanWireless at h
  by_cases hradio : isRadio s = true
  · rw [if_pos hradio] at h
    obtain ⟨-, h⟩ := check_bind.mp h
    obtain rfl := Except.ok.inj h
    rw [if_pos hradio]
    rfl
  · rw [if_neg hradio] at h
    obtain rfl := Except.ok.inj h
    rw [if_neg hradio, List.append_nil]

theorem scanFirewall_ok {st st' : Scan} {s : Section} (h : scanFirewall st s = .ok st') :
    st'.remove = st.remove ∧ st'.ownedBridges = st.ownedBridges ∧
      st'.managementBridge = st.managementBridge ∧ st'.radioDevices = st.radioDevices := by
  obtain ⟨-, h⟩ := check_bind.mp h
  obtain ⟨-, h⟩ := check_bind.mp h
  obtain rfl := Except.ok.inj h
  exact ⟨rfl, rfl, rfl, rfl⟩

theorem scanNetwork_ok {st st' : Scan} {s : Section} (h : scanNetwork primaryLan st s = .ok st') :
    (isManagementBridge s = true → s.is "type" "bridge" = true) ∧
      (∀ port ∈ managedPorts, portConflict s port = false) ∧
      (∀ mode ∈ reservedModes, reserves s mode = false) ∧
      (∀ address ∈ s.list "ipaddr", overlaps address (s.get "netmask") primaryLan = false) ∧
      st'.managementBridge.toList = st.managementBridge.toList ++
        (if isManagementBridge s then [s] else []) ∧
      st'.remove = st.remove ∧ st'.ownedBridges = st.ownedBridges ∧
      st'.radioDevices = st.radioDevices := by
  obtain ⟨-, h⟩ := check_bind.mp h
  obtain ⟨hbridge, h⟩ := check_bind.mp h
  obtain ⟨hports, h⟩ := check_bind.mp h
  obtain ⟨hreserved, h⟩ := check_bind.mp h
  obtain ⟨haddresses, h⟩ := check_bind.mp h
  obtain rfl := Except.ok.inj h
  have hone : isManagementBridge s = true →
      st.managementBridge = none ∧ s.is "type" "bridge" = true := by
    intro hs
    simpa [hs] using hbridge
  refine ⟨fun hs => (hone hs).2, fun port hp => ?_, fun mode hm => ?_, fun address ha => ?_, ?_,
    rfl, rfl, rfl⟩
  · simpa using List.any_eq_false.mp hports port hp
  · simpa using List.any_eq_false.mp hreserved mode hm
  · simpa using List.any_eq_false.mp haddresses address ha
  · by_cases hs : isManagementBridge s = true
    · simp [hs, (hone hs).1]
    · simp [hs]

theorem scanSection_remembers {read : List Entry} {st st' : Scan} {x : Entry}
    (hread : Remembers primaryLan read st)
    (h : scanSection primaryLan x.1 st x.2 = .ok st') : Remembers primaryLan (read ++ [x]) st' := by
  obtain ⟨c, s⟩ := x
  unfold scanSection at h
  by_cases howned : owned s = true
  · rw [if_pos howned] at h
    obtain ⟨hname, hremove, hbridges, hbridge, hradios⟩ := scanOwned_ok h
    refine hread.snoc ?_ ?_ ?_ ?_ ?_
    · constructor <;> simp [howned, hname, management]
    · simpa [howned] using hremove
    · simpa [ownedBridge, howned] using hbridges
    · simp [management, howned, hbridge]
    · simp [foreignRadio, howned, hradios]
  · rw [if_neg howned] at h
    rw [Bool.not_eq_true] at howned
    obtain ⟨hname, h⟩ := check_bind.mp h
    cases c with
    | network =>
      obtain ⟨st₁, hst, h⟩ := except_bind_eq_ok.mp h
      obtain ⟨-, h⟩ := check_bind.mp h
      obtain rfl := Except.ok.inj h
      obtain ⟨htype, hports, hreserved, haddresses, hbridge, hremove, hbridges, hradios⟩ :=
        scanNetwork_ok hst
      refine hread.snoc ⟨?_, ?_, ?_, ?_, ?_, ?_⟩ ?_ ?_ ?_ ?_
      · simp [howned]
      · exact fun _ => hname
      · exact fun h => htype (by simpa [management, howned] using h)
      · exact fun _ _ => hports
      · exact fun _ _ => hreserved
      · exact fun _ _ => haddresses
      · simp [howned, hremove]
      · simp [ownedBridge, howned, hbridges]
      · simpa [management, howned] using hbridge
      · simp [foreignRadio, hradios]
    | wireless =>
      obtain ⟨st₁, hst, h⟩ := except_bind_eq_ok.mp h
      obtain ⟨-, h⟩ := check_bind.mp h
      obtain rfl := Except.ok.inj h
      obtain rfl := scanWireless_ok hst
      refine hread.snoc ?_ ?_ ?_ ?_ ?_
      · constructor <;> simp [howned, hname, management]
      · simp [howned]
      · simp [ownedBridge]
      · simp [management]
      · simp [foreignRadio, howned]
    | dhcp =>
      obtain ⟨-, h⟩ := check_bind.mp h
      obtain rfl := Except.ok.inj h
      refine hread.snoc ?_ ?_ ?_ ?_ ?_
      · constructor <;> simp [howned, hname, management]
      · simp [howned]
      · simp [ownedBridge]
      · simp [management]
      · simp [foreignRadio]
    | firewall =>
      obtain ⟨st₁, hst, h⟩ := except_bind_eq_ok.mp h
      obtain ⟨-, h⟩ := check_bind.mp h
      obtain rfl := Except.ok.inj h
      obtain ⟨hremove, hbridges, hbridge, hradios⟩ := scanFirewall_ok hst
      refine hread.snoc ?_ ?_ ?_ ?_ ?_
      · constructor <;> simp [howned, hname, management]
      · simp [howned, hremove]
      · simp [ownedBridge, hbridges]
      · simp [management, hbridge]
      · simp [foreignRadio, hradios]

theorem scanConfig_remembers {configs : Configs} {read : List Entry} {st st' : Scan} {c : NetConfig}
    (hread : Remembers primaryLan read st) (h : scanConfig primaryLan configs st c = .ok st') :
    (configs c).isSome ∧
      Remembers primaryLan (read ++ (sectionsAt configs c).map (c, ·)) st' := by
  unfold scanConfig at h
  cases hc : configs c with
  | none =>
    rw [hc] at h
    cases h
  | some sections =>
    rw [hc] at h
    have hsections : sectionsAt configs c = sections := by rw [sectionsAt, hc, Option.getD_some]
    rw [hsections]
    refine ⟨rfl, foldlM_invariant (I := fun pre st =>
      Remembers primaryLan (read ++ pre.map (c, ·)) st) ?_ (by simpa using hread) h⟩
    intro pre s st₁ st₂ _ hI hstep
    rw [List.map_append, ← List.append_assoc]
    exact scanSection_remembers hI hstep

theorem scan_remembers {configs : Configs} {st : Scan} (h : scan primaryLan configs = .ok st) :
    (∀ c, (configs c).isSome) ∧ Remembers primaryLan (entries configs) st := by
  have hscan := foldlM_invariant (I := fun pre st => (∀ c ∈ pre, (configs c).isSome) ∧
    Remembers primaryLan (pre.flatMap fun c => (sectionsAt configs c).map (c, ·)) st)
    (fun pre c st₁ st₂ _ hI hstep => by
      obtain ⟨hsome, hread⟩ := scanConfig_remembers hI.2 hstep
      refine ⟨fun c' hc' => ?_, by simpa using hread⟩
      rcases List.mem_append.mp hc' with hc' | hc'
      · exact hI.1 c' hc'
      · exact List.mem_singleton.mp hc' ▸ hsome)
    ⟨by simp, ⟨by simp, rfl, rfl, rfl, rfl⟩⟩ h
  refine ⟨fun c => hscan.1 c ?_, hscan.2⟩
  cases c <;> decide

end Planner

end AutoVPN
