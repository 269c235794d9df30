import AutoVPN.Router.NetworkScan

/-! What installing the plan of the managed networks does to the configuration: the owned
sections give way to new ones, and the others change as the plan documents. -/

namespace AutoVPN

/-! Sections and their options. -/

namespace Section

@[simp]
theorem set_name (s : Section) (option : String) (value : UciValue) :
    (s.set option value).name = s.name := rfl

@[simp]
theorem set_type (s : Section) (option : String) (value : UciValue) :
    (s.set option value).type = s.type := rfl

theorem set_set (s : Section) (option : String) (value : UciValue) :
    (s.set option value).set option value = s.set option value := by
  have hfilter : (s.options.filter (·.1 != option)).filter (·.1 != option) =
      s.options.filter (·.1 != option) := List.filter_eq_self.mpr fun x hx => (List.mem_filter.mp hx).2
  have hlast : [(option, value)].filter (·.1 != option) = [] := by simp
  simp only [set, List.filter_append, hfilter, hlast, List.append_nil]

theorem get_set_self (s : Section) (option : String) (value : UciValue) :
    (s.set option value).get option = some value := by
  have hnone : (s.options.filter (·.1 != option)).lookup option = none := by
    refine List.lookup_eq_none_iff.mpr fun x hx => ?_
    have hne := (List.mem_filter.mp hx).2
    rw [bne_iff_ne] at hne
    simpa using Ne.symm hne
  simp [get, set, List.lookup_append, hnone]

theorem get_set_of_ne (s : Section) {option other : String} (value : UciValue)
    (h : other ≠ option) : (s.set option value).get other = s.get other := by
  have hfilter (l : List (String × UciValue)) :
      (l.filter (·.1 != option)).lookup other = l.lookup other := by
    induction l with
    | nil => rfl
    | cons x l ih =>
      by_cases hx : x.1 = option
      · have hne : (other == x.1) = false := by simpa [hx] using h
        rw [List.filter_cons_of_neg (by simp [hx]), List.lookup_cons, hne, ih]
      · rw [List.filter_cons_of_pos (by simpa using hx), List.lookup_cons, List.lookup_cons, ih]
  have hlast : List.lookup other [(option, value)] = none := by
    rw [List.lookup_cons, beq_eq_false_iff_ne.mpr h]
    rfl
  simp [get, set, List.lookup_append, hfilter, hlast]

theorem text_set_of_ne (s : Section) {option other : String} (value : UciValue)
    (h : other ≠ option) : (s.set option value).text other = s.text other := by
  rw [text, text, get_set_of_ne s value h]

theorem list_set_of_ne (s : Section) {option other : String} (value : UciValue)
    (h : other ≠ option) : (s.set option value).list other = s.list other := by
  rw [list, list, get_set_of_ne s value h]

theorem list_set_self (s : Section) (option : String) (items : List String) :
    (s.set option (.list items)).list option = items := by
  rw [list, get_set_self]

end Section

namespace Planner

theorem owned_set (s : Section) {option : String} (value : UciValue)
    (h : "autovpn_owner" ≠ option) : owned (s.set option value) = owned s := by
  rw [owned, owned, Section.is, Section.is, s.text_set_of_ne value h]

/-! Patches. -/

theorem patchSection_eq {patches : List Patch} {c : NetConfig} {s : Section} (option : String)
    (value : UciValue) (h : ∀ p ∈ patches, p.config = c → p.name = s.name →
      p.option = option ∧ p.value = value) :
    patchSection patches c s =
      if patches.any (fun p => p.config == c && p.name == s.name) then s.set option value else s := by
  have hkeeps (l : List Patch) (hl : ∀ p ∈ l, p ∈ patches) :
      patchSection l c (s.set option value) = s.set option value := by
    induction l with
    | nil => rfl
    | cons p l ih =>
      have hrest := ih fun q hq => hl q (List.mem_cons_of_mem _ hq)
      rw [patchSection, List.foldl_cons, Section.set_name]
      by_cases hp : p.config = c ∧ p.name = s.name
      · obtain ⟨ho, hv⟩ := h p (hl p List.mem_cons_self) hp.1 hp.2
        rw [if_pos (by simpa using hp), ho, hv, Section.set_set]
        exact hrest
      · rw [if_neg (by simpa using hp)]
        exact hrest
  have hgeneral (l : List Patch) (hl : ∀ p ∈ l, p ∈ patches) :
      patchSection l c s =
        if l.any (fun p => p.config == c && p.name == s.name) then s.set option value else s := by
    induction l with
    | nil => rfl
    | cons p l ih =>
      have hsub : ∀ q ∈ l, q ∈ patches := fun q hq => hl q (List.mem_cons_of_mem _ hq)
      rw [patchSection, List.foldl_cons, List.any_cons]
      by_cases hp : p.config = c ∧ p.name = s.name
      · obtain ⟨ho, hv⟩ := h p (hl p List.mem_cons_self) hp.1 hp.2
        have hmeets : (p.config == c && p.name == s.name) = true := by simpa using hp
        rw [hmeets, if_pos rfl, Bool.true_or, if_pos rfl, ho, hv]
        exact hkeeps l hsub
      · have hmeets : (p.config == c && p.name == s.name) = false := by
          rw [Bool.eq_false_iff]
          simpa using hp
        rw [hmeets, if_neg (by decide), Bool.false_or]
        exact ih hsub
  exact hgeneral patches fun _ hp => hp

theorem patchSection_cases {patches : List Patch} {c : NetConfig} {s : Section} (option : String)
    (value : UciValue) (h : ∀ p ∈ patches, p.config = c → p.name = s.name →
      p.option = option ∧ p.value = value) :
    patchSection patches c s = s ∨
      (∃ p ∈ patches, p.config = c ∧ p.name = s.name) ∧
        patchSection patches c s = s.set option value := by
  rw [patchSection_eq option value h]
  split
  · rename_i hany
    obtain ⟨p, hp, hmeets⟩ := List.any_eq_true.mp hany
    exact Or.inr ⟨⟨p, hp, by simpa using hmeets⟩, rfl⟩
  · exact Or.inl rfl

/-! Radios. -/

/-- The patches that the loop over the radios makes. -/
inductive RadioPatch (wireless : List Section) (radios : List Radio) : Patch → Prop
  | enable {radio : Radio} (mem : radio ∈ radios) (disabled : radio.disabled = true) :
      RadioPatch wireless radios ⟨.wireless, radio.name, "disabled", .text "0"⟩
  | stockAp {bss : Section} {radio : Radio} (mem : bss ∈ wireless) (foreign : owned bss = false)
      (stock : stockOpenAp bss radio.name = true) :
      RadioPatch wireless radios ⟨.wireless, bss.name, "disabled", .text "1"⟩

theorem scanBss_ok {wireless : List Section} {radios : List Radio} {initialSetup : Bool}
    {radio : Radio} {st st' : RadioScan} {bss : Section} (hmem : bss ∈ wireless)
    (hpatches : ∀ p ∈ st.patches, RadioPatch wireless radios p)
    (h : scanBss initialSetup radio st bss = .ok st') :
    st'.radios = st.radios ∧ ∀ p ∈ st'.patches, RadioPatch wireless radios p := by
  unfold scanBss at h
  by_cases hskip : (owned bss || bss.type != "wifi-iface" || !bss.is "device" radio.name) = true
  · rw [if_pos hskip] at h
    obtain rfl := Except.ok.inj h
    exact ⟨rfl, hpatches⟩
  · rw [if_neg hskip] at h
    have howned : owned bss = false := by
      simp only [Bool.or_eq_true, not_or, Bool.not_eq_true] at hskip
      exact hskip.1.1
    by_cases hstock : (initialSetup && stockOpenAp bss radio.name) = true
    · rw [if_pos hstock] at h
      obtain rfl := Except.ok.inj h
      refine ⟨rfl, fun p hp => ?_⟩
      rcases List.mem_append.mp hp with hp | hp
      · exact hpatches p hp
      · split at hp
        · exact absurd hp List.not_mem_nil
        · rw [List.mem_singleton.mp hp]
          exact .stockAp hmem howned (Bool.and_eq_true _ _ ▸ hstock).2
    · rw [if_neg hstock] at h
      split at h
      · cases h
      · obtain rfl := Except.ok.inj h
        exact ⟨rfl, hpatches⟩

theorem scanRadio_ok {wireless : List Section} {radios : List Radio} {initialSetup : Bool}
    {radio : Radio} {st st' : RadioScan} (hmem : radio ∈ radios)
    (hpatches : ∀ p ∈ st.patches, RadioPatch wireless radios p)
    (h : scanRadio initialSetup wireless st radio = .ok st') :
    (st'.radios = st.radios ∨ st'.radios = st.radios ++ [radio.name]) ∧
      ∀ p ∈ st'.patches, RadioPatch wireless radios p := by
  unfold scanRadio at h
  split at h
  · obtain rfl := Except.ok.inj h
    exact ⟨Or.inl rfl, hpatches⟩
  · obtain ⟨st₁, hbss, h⟩ := except_bind_eq_ok.mp h
    obtain rfl := Except.ok.inj h
    obtain ⟨hradios, hpatches⟩ := foldlM_invariant
      (I := fun _ st₁ => st₁.radios = st.radios ∧ ∀ p ∈ st₁.patches, RadioPatch wireless radios p)
      (fun _ bss st₂ st₃ hbss hI hstep => by
        obtain ⟨hkeep, hall⟩ := scanBss_ok hbss hI.2 hstep
        exact ⟨hkeep.trans hI.1, hall⟩)
      ⟨rfl, hpatches⟩ hbss
    refine ⟨Or.inr (by simp [hradios]), fun p hp => ?_⟩
    rcases List.mem_append.mp hp with hp | hp
    · exact hpatches p hp
    · split at hp
      · rename_i hdisabled
        rw [List.mem_singleton.mp hp]
        exact .enable hmem hdisabled
      · exact absurd hp List.not_mem_nil

theorem scanRadios_ok {wireless : List Section} {radios : List Radio} {initialSetup : Bool}
    {st : RadioScan} (h : radios.foldlM (scanRadio initialSetup wireless) {} = .ok st) :
    st.radios.Sublist (radios.map Radio.name) ∧ ∀ p ∈ st.patches, RadioPatch wireless radios p := by
  refine foldlM_invariant (I := fun pre st => st.radios.Sublist (pre.map Radio.name) ∧
    ∀ p ∈ st.patches, RadioPatch wireless radios p) ?_ ⟨List.Sublist.refl _, by simp⟩ h
  intro pre radio st₁ st₂ hmem hI hstep
  obtain ⟨hradios, hpatches⟩ := scanRadio_ok hmem hI.2 hstep
  refine ⟨?_, hpatches⟩
  rw [List.map_append]
  rcases hradios with hradios | hradios
  · exact hradios ▸ hI.1.trans (List.sublist_append_left _ _)
  · exact hradios ▸ hI.1.append (List.Sublist.refl _)

/-! What a plan that succeeds has read, and what it consists of. -/

structure Reads (settings : Value) (configs : Configs) (table : List Route) (p : NetPlan)
    (st : Scan) (radios : RadioScan) (bridge : Section) : Prop where
  available : ∀ c, (configs c).isSome
  remembers : Remembers (settings.get "primary_lan").isTrue (entries configs) st
  radios_eq : st.radioDevices.foldlM
    (scanRadio (settings.get "initial_setup").isTrue (sectionsAt configs .wireless)) {} = .ok radios
  bridge_eq : st.managementBridge = some bridge
  routes_pass : ∀ r ∈ table,
    routeConflict (settings.get "primary_lan").isTrue st.ownedBridges r = false
  remove : p.remove = st.remove
  patches : p.patches = radios.patches ++
    [⟨.network, bridge.name, "ports", .list (remainingPorts (bridge.list "ports"))⟩]
  sections : p.sections = modes.flatMap (sectionsOf (settings.get "primary_lan").isTrue
    (settings.get "base_ssid").text (settings.get "password").text radios.radios)

theorem plan_ok {settings : Value} {configs : Configs} {routes : Option (List Route)} {p : NetPlan}
    (h : plan settings configs routes = .ok p) :
    ∃ table st radios bridge, routes = some table ∧
      Reads settings configs table p st radios bridge := by
  unfold plan at h
  split at h
  · cases h
  obtain ⟨st, hscan, h⟩ := except_bind_eq_ok.mp h
  unfold planFrom at h
  obtain ⟨radios, hradios, h⟩ := except_bind_eq_ok.mp h
  obtain ⟨-, h⟩ := check_bind.mp h
  obtain ⟨-, h⟩ := check_bind.mp h
  obtain ⟨-, h⟩ := check_bind.mp h
  split at h
  · cases h
  rename_i bridge hbridge
  obtain ⟨-, h⟩ := check_bind.mp h
  obtain ⟨-, h⟩ := check_bind.mp h
  obtain ⟨-, h⟩ := check_bind.mp h
  obtain ⟨-, h⟩ := check_bind.mp h
  cases routes with
  | none => cases h
  | some table =>
    obtain ⟨hroutes, h⟩ := check_bind.mp h
    obtain ⟨-, h⟩ := check_bind.mp h
    obtain rfl := Except.ok.inj h
    obtain ⟨havailable, hremembers⟩ := scan_remembers hscan
    exact ⟨table, st, radios, bridge, rfl, havailable, hremembers, hradios, hbridge,
      by simpa using hroutes, rfl, rfl, rfl⟩

/-- The names of the sections of a configuration are different, as UCI keeps them. -/
def Parsed (configs : Configs) : Prop := ∀ c, ((sectionsAt configs c).map Section.name).Nodup

def foreign (configs : Configs) (c : NetConfig) : List Section :=
  (sectionsAt configs c).filter (!owned ·)

def added (p : NetPlan) (c : NetConfig) : List Section := (p.sections.filter (·.1 == c)).map (·.2)

theorem mem_foreign {configs : Configs} {c : NetConfig} {s : Section} :
    s ∈ foreign configs c ↔ s ∈ sectionsAt configs c ∧ owned s = false := by
  simp [foreign]

theorem Parsed.eq {configs : Configs} (h : Parsed configs) {c : NetConfig} {s s' : Section}
    (hs : s ∈ sectionsAt configs c) (hs' : s' ∈ sectionsAt configs c) (hname : s.name = s'.name) :
    s = s' := List.inj_on_of_nodup_map (h c) hs hs' hname

section

variable {settings : Value} {configs : Configs} {table : List Route} {p : NetPlan} {st : Scan}
  {radios : RadioScan} {bridge : Section}

theorem Reads.passes (hp : Reads settings configs table p st radios bridge) {c : NetConfig}
    {s : Section} (hs : s ∈ sectionsAt configs c) :
    Passes (settings.get "primary_lan").isTrue c s :=
  hp.remembers.passes (c, s) (mem_entries.mpr hs)

theorem Reads.removed (hp : Reads settings configs table p st radios bridge) {c : NetConfig}
    {s : Section} (hs : s ∈ sectionsAt configs c) : p.remove.contains (c, s.name) = owned s := by
  rw [Bool.eq_iff_iff, List.contains_iff_mem, hp.remove, hp.remembers.remove]
  constructor
  · intro h
    obtain ⟨⟨c', s'⟩, hmem, heq⟩ := List.mem_map.mp h
    obtain ⟨hmem, howned⟩ := List.mem_filter.mp hmem
    obtain ⟨rfl, hname⟩ := Prod.mk.inj heq
    by_contra hforeign
    have hno := (hp.passes hs).foreign_name (Bool.eq_false_iff.mpr hforeign)
    have hyes := (hp.passes (mem_entries.mp hmem)).owned_name howned
    rw [hname, hno] at hyes
    cases hyes
  · intro h
    exact List.mem_map.mpr ⟨(c, s), List.mem_filter.mpr ⟨mem_entries.mpr hs, h⟩, rfl⟩

theorem Reads.install_eq (hp : Reads settings configs table p st radios bridge) (c : NetConfig) :
    install p configs c =
      some ((foreign configs c).map (patchSection p.patches c) ++ added p c) := by
  obtain ⟨sections, hc⟩ := Option.isSome_iff_exists.mp (hp.available c)
  have hsections : sectionsAt configs c = sections := by rw [sectionsAt, hc, Option.getD_some]
  have hkept : (sections.filter fun s => !p.remove.contains (c, s.name)) = foreign configs c := by
    rw [foreign, hsections]
    exact List.filter_congr fun s hs => by rw [hp.removed (hsections ▸ hs)]
  rw [install, hc, Option.map_some, hkept]
  rfl

theorem Reads.sectionsAt_install (hp : Reads settings configs table p st radios bridge)
    (c : NetConfig) : sectionsAt (install p configs) c =
      (foreign configs c).map (patchSection p.patches c) ++ added p c := by
  rw [sectionsAt, hp.install_eq, Option.getD_some]

theorem Reads.bridge_mem (hp : Reads settings configs table p st radios bridge) {s : Section} :
    s ∈ foreign configs .network ∧ isManagementBridge s = true ↔ s = bridge := by
  have hbridge := hp.remembers.bridge
  rw [hp.bridge_eq, Option.toList_some] at hbridge
  have hmem : s ∈ ((entries configs).filter management).map (·.2) ↔
      s ∈ foreign configs .network ∧ isManagementBridge s = true := by
    rw [mem_foreign]
    constructor
    · intro h
      obtain ⟨⟨c, s'⟩, hx, rfl⟩ := List.mem_map.mp h
      obtain ⟨hx, hm⟩ := List.mem_filter.mp hx
      simp only [management, Bool.and_eq_true, Bool.not_eq_true', beq_iff_eq] at hm
      obtain ⟨⟨hforeign, rfl⟩, hm⟩ := hm
      exact ⟨⟨mem_entries.mp hx, hforeign⟩, hm⟩
    · rintro ⟨⟨hs, hforeign⟩, hm⟩
      refine List.mem_map.mpr ⟨(.network, s), List.mem_filter.mpr ⟨mem_entries.mpr hs, ?_⟩, rfl⟩
      simp [management, hforeign, hm]
  rw [← hmem, ← hbridge, List.mem_singleton]

theorem Reads.radio_mem (hp : Reads settings configs table p st radios bridge) {radio : Radio}
    (h : radio ∈ st.radioDevices) :
    ∃ s ∈ foreign configs .wireless, isRadio s = true ∧ radio = radioOf s := by
  rw [hp.remembers.radioDevices] at h
  obtain ⟨⟨c, s⟩, hx, rfl⟩ := List.mem_map.mp h
  obtain ⟨hx, hr⟩ := List.mem_filter.mp hx
  simp only [foreignRadio, Bool.and_eq_true, Bool.not_eq_true', beq_iff_eq] at hr
  obtain ⟨⟨hforeign, rfl⟩, hr⟩ := hr
  exact ⟨s, mem_foreign.mpr ⟨mem_entries.mp hx, hforeign⟩, hr, rfl⟩

/-- The changes of a section that a plan documents. -/
inductive Documented : NetConfig → Section → Section → Prop
  | unchanged (c : NetConfig) (s : Section) : Documented c s s
  | ports {s : Section} (bridge : isManagementBridge s = true) :
      Documented .network s (s.set "ports" (.list (remainingPorts (s.list "ports"))))
  | radio {s : Section} (radio : isRadio s = true) (disabled : s.is "disabled" "1" = true) :
      Documented .wireless s (s.set "disabled" (.text "0"))
  | stockAp {s : Section} {radio : String} (stock : stockOpenAp s radio = true) :
      Documented .wireless s (s.set "disabled" (.text "1"))

theorem Documented.name {c : NetConfig} {s s' : Section} (h : Documented c s s') :
    s'.name = s.name := by
  cases h <;> rfl

theorem Documented.owned {c : NetConfig} {s s' : Section} (h : Documented c s s') :
    owned s' = owned s := by
  cases h with
  | unchanged => rfl
  | ports => exact owned_set s _ (by decide)
  | radio => exact owned_set s _ (by decide)
  | stockAp => exact owned_set s _ (by decide)

theorem isRadio_type {s : Section} (h : isRadio s = true) : s.type = "wifi-device" := by
  simp only [isRadio, Bool.and_eq_true, beq_iff_eq] at h
  exact h.1

theorem stockOpenAp_type {s : Section} {radio : String} (h : stockOpenAp s radio = true) :
    s.type = "wifi-iface" := by
  simp only [stockOpenAp, Bool.and_eq_true, beq_iff_eq] at h
  exact h.1.1.1.1.1.1

theorem Reads.mem_patches (hp : Reads settings configs table p st radios bridge) {q : Patch} :
    q ∈ p.patches ↔ q ∈ radios.patches ∨
      q = ⟨.network, bridge.name, "ports", .list (remainingPorts (bridge.list "ports"))⟩ := by
  rw [hp.patches, List.mem_append, List.mem_singleton]

theorem Reads.wireless_patch (hp : Reads settings configs table p st radios bridge) {q : Patch}
    (hq : q ∈ radios.patches) : q.config = .wireless ∧ q.option = "disabled" ∧
      ((∃ s ∈ foreign configs .wireless, isRadio s = true ∧ s.is "disabled" "1" = true ∧
        q.name = s.name ∧ q.value = .text "0") ∨
      ∃ s ∈ foreign configs .wireless, (∃ radio, stockOpenAp s radio = true) ∧
        q.name = s.name ∧ q.value = .text "1") := by
  cases (scanRadios_ok hp.radios_eq).2 q hq with
  | enable mem disabled =>
    obtain ⟨s, hs, hradio, rfl⟩ := hp.radio_mem mem
    exact ⟨rfl, rfl, Or.inl ⟨s, hs, hradio, disabled, rfl, rfl⟩⟩
  | stockAp mem hforeign stock =>
    exact ⟨rfl, rfl, Or.inr ⟨_, mem_foreign.mpr ⟨mem, hforeign⟩, ⟨_, stock⟩, rfl, rfl⟩⟩

theorem Reads.patch_network (hp : Reads settings configs table p st radios bridge)
    (hu : Parsed configs) {s : Section} (hs : s ∈ foreign configs .network) :
    patchSection p.patches .network s = if isManagementBridge s then
      s.set "ports" (.list (remainingPorts (s.list "ports"))) else s := by
  have hbridge := hp.bridge_mem.mpr rfl
  have hsame : s.name = bridge.name → s = bridge :=
    hu.eq (mem_foreign.mp hs).1 (mem_foreign.mp hbridge.1).1
  have hpatch : ∀ q ∈ p.patches, q.config = .network → q =
      ⟨.network, bridge.name, "ports", .list (remainingPorts (bridge.list "ports"))⟩ := by
    intro q hq hconfig
    rcases hp.mem_patches.mp hq with hq | hq
    · exact absurd ((hp.wireless_patch hq).1.symm.trans hconfig) (by decide)
    · exact hq
  rw [patchSection_eq "ports" (.list (remainingPorts (bridge.list "ports")))
    (fun q hq hconfig _ => by rw [hpatch q hq hconfig]; exact ⟨rfl, rfl⟩)]
  by_cases hm : isManagementBridge s = true
  · obtain rfl := hp.bridge_mem.mp ⟨hs, hm⟩
    have hany : p.patches.any (fun q => q.config == .network && q.name == s.name) = true :=
      List.any_eq_true.mpr ⟨_, hp.mem_patches.mpr (Or.inr rfl), by simp⟩
    rw [hany, if_pos rfl, if_pos hm]
  · have hany : p.patches.any (fun q => q.config == .network && q.name == s.name) = false := by
      refine List.any_eq_false.mpr fun q hq hmeets => ?_
      simp only [Bool.and_eq_true, beq_iff_eq] at hmeets
      have hname := hmeets.2
      rw [hpatch q hq hmeets.1] at hname
      exact hm (hsame hname.symm ▸ hbridge.2)
    rw [hany, if_neg (by decide), if_neg hm]

theorem Reads.patch_wireless (hp : Reads settings configs table p st radios bridge)
    (hu : Parsed configs) {s : Section} (hs : s ∈ foreign configs .wireless) :
    Documented .wireless s (patchSection p.patches .wireless s) := by
  have hone {q : Patch} (hq : q ∈ p.patches) (hconfig : q.config = .wireless)
      (hname : q.name = s.name) : q.option = "disabled" ∧
        ((isRadio s = true ∧ s.is "disabled" "1" = true ∧ q.value = .text "0") ∨
          (∃ radio, stockOpenAp s radio = true) ∧ q.value = .text "1") := by
    rcases hp.mem_patches.mp hq with hq | hq
    · obtain ⟨-, hoption, hcase⟩ := hp.wireless_patch hq
      rcases hcase with ⟨s', hs', hradio, hdisabled, hname', hvalue⟩ |
        ⟨s', hs', hstock, hname', hvalue⟩
      · obtain rfl := hu.eq (mem_foreign.mp hs).1 (mem_foreign.mp hs').1 (hname.symm.trans hname')
        exact ⟨hoption, Or.inl ⟨hradio, hdisabled, hvalue⟩⟩
      · obtain rfl := hu.eq (mem_foreign.mp hs).1 (mem_foreign.mp hs').1 (hname.symm.trans hname')
        exact ⟨hoption, Or.inr ⟨hstock, hvalue⟩⟩
    · rw [hq] at hconfig
      cases hconfig
  by_cases hradio : isRadio s = true
  · have hstock : ¬∃ radio, stockOpenAp s radio = true := by
      rintro ⟨radio, h⟩
      have htypes := (isRadio_type hradio).symm.trans (stockOpenAp_type h)
      exact absurd htypes (by decide)
    have hall : ∀ q ∈ p.patches, q.config = .wireless → q.name = s.name →
        q.option = "disabled" ∧ q.value = .text "0" := by
      intro q hq hconfig hname
      obtain ⟨hoption, ⟨-, -, hvalue⟩ | ⟨h, -⟩⟩ := hone hq hconfig hname
      · exact ⟨hoption, hvalue⟩
      · exact absurd h hstock
    rcases patchSection_cases _ _ hall with h | ⟨⟨q, hq, hconfig, hname⟩, h⟩
    · rw [h]
      exact .unchanged _ _
    · obtain ⟨-, ⟨-, hdisabled, -⟩ | ⟨h', -⟩⟩ := hone hq hconfig hname
      · exact h ▸ .radio hradio hdisabled
      · exact absurd h' hstock
  · have hall : ∀ q ∈ p.patches, q.config = .wireless → q.name = s.name →
        q.option = "disabled" ∧ q.value = .text "1" := by
      intro q hq hconfig hname
      obtain ⟨hoption, ⟨h, -, -⟩ | ⟨-, hvalue⟩⟩ := hone hq hconfig hname
      · exact absurd h hradio
      · exact ⟨hoption, hvalue⟩
    rcases patchSection_cases _ _ hall with h | ⟨⟨q, hq, hconfig, hname⟩, h⟩
    · rw [h]
      exact .unchanged _ _
    · obtain ⟨-, ⟨h', -, -⟩ | ⟨⟨radio, hstock⟩, -⟩⟩ := hone hq hconfig hname
      · exact absurd h' hradio
      · exact h ▸ .stockAp hstock

theorem Reads.patch_documented (hp : Reads settings configs table p st radios bridge)
    (hu : Parsed configs) {c : NetConfig} {s : Section} (hs : s ∈ foreign configs c) :
    Documented c s (patchSection p.patches c s) := by
  have hnone (hnetwork : c ≠ .network) (hwireless : c ≠ .wireless) :
      patchSection p.patches c s = s := by
    have hno : ∀ q ∈ p.patches, q.config ≠ c := by
      intro q hq hconfig
      rcases hp.mem_patches.mp hq with hq | rfl
      · exact hwireless (hconfig.symm.trans (hp.wireless_patch hq).1)
      · exact hnetwork hconfig.symm
    rcases patchSection_cases "" (.text "")
      (fun q hq hconfig _ => absurd hconfig (hno q hq)) with h | ⟨⟨q, hq, hconfig, -⟩, -⟩
    · exact h
    · exact absurd hconfig (hno q hq)
  cases c with
  | network =>
    rw [hp.patch_network hu hs]
    split
    · rename_i hm
      exact .ports hm
    · exact .unchanged _ _
  | wireless => exact hp.patch_wireless hu hs
  | dhcp =>
    rw [hnone (by decide) (by decide)]
    exact .unchanged _ _
  | firewall =>
    rw [hnone (by decide) (by decide)]
    exact .unchanged _ _

/-! The sections that a plan adds. -/

theorem add_owned (c : NetConfig) (name type : String) (values : List (String × UciValue))
    (h : ∀ x ∈ values, x.1 ≠ "autovpn_owner") : owned (add c name type values).2 = true := by
  have hnone : values.lookup "autovpn_owner" = none :=
    List.lookup_eq_none_iff.mpr fun x hx => by simpa using Ne.symm (h x hx)
  simp [owned, add, Section.is, Section.text, Section.get, List.lookup_append, hnone, owner]

theorem modeSections_owned {mode : Mode} (hmode : mode ∈ modes) {x : Entry}
    (h : x ∈ modeSections mode) : owned x.2 = true := by
  have hall : modes.all (fun mode => (modeSections mode).all (owned ·.2)) = true := by decide +kernel
  exact List.all_eq_true.mp (List.all_eq_true.mp hall mode hmode) x h

theorem wifiSection_owned (ssid password : String) (mode : Mode) (radio : String)
    (primaryLan : Bool) : owned (wifiSection primaryLan ssid password mode radio).2 = true :=
  add_owned _ _ _ _ (by simp)

theorem sectionsOf_owned {primaryLan : Bool} {ssid password : String} {names : List String}
    {mode : Mode} (hmode : mode ∈ modes) {x : Entry}
    (h : x ∈ sectionsOf primaryLan ssid password names mode) : owned x.2 = true := by
  rcases List.mem_append.mp h with h | h
  · split at h
    · exact absurd h List.not_mem_nil
    · exact modeSections_owned hmode h
  · obtain ⟨radio, -, rfl⟩ := List.mem_map.mp h
    exact wifiSection_owned _ _ _ _ _

theorem added_names (hp : Reads settings configs table p st radios bridge) (c : NetConfig) :
    (added p c).map Section.name = modes.flatMap fun mode =>
      (if onPrimaryLan (settings.get "primary_lan").isTrue mode then []
        else ((modeSections mode).filter (·.1 == c)).map (·.2.name)) ++
        if c = .wireless then radios.radios.map (mode.name ++ "_" ++ ·) else [] := by
  have hmode (mode : Mode) (primaryLan : Bool) (ssid password : String) :
      ((sectionsOf primaryLan ssid password radios.radios mode).filter (·.1 == c)).map (·.2.name) =
        (if onPrimaryLan primaryLan mode then []
          else ((modeSections mode).filter (·.1 == c)).map (·.2.name)) ++
          if c = .wireless then radios.radios.map (mode.name ++ "_" ++ ·) else [] := by
    rw [sectionsOf, List.filter_append, List.map_append]
    congr 1
    · split <;> rfl
    · rw [List.filter_map, List.map_map]
      cases c with
      | wireless =>
        have hall : radios.radios.filter ((fun x : Entry => x.1 == .wireless) ∘
            wifiSection primaryLan ssid password mode) = radios.radios :=
          List.filter_eq_self.mpr fun radio _ => rfl
        rw [if_pos rfl, hall]
        rfl
      | network | dhcp | firewall =>
        rw [if_neg (by decide), List.filter_eq_nil_iff.mpr fun radio _ => (by simp [wifiSection, add])]
        rfl
  rw [added, List.map_map, hp.sections, List.filter_flatMap, List.map_flatMap]
  exact List.flatMap_congr fun mode _ => hmode mode _ _ _

theorem Reads.added_owned (hp : Reads settings configs table p st radios bridge) {c : NetConfig}
    {s : Section} (h : s ∈ added p c) : owned s = true := by
  obtain ⟨x, hx, rfl⟩ := List.mem_map.mp h
  have hx := (List.mem_filter.mp hx).1
  rw [hp.sections] at hx
  obtain ⟨mode, hmode, hx⟩ := List.mem_flatMap.mp hx
  exact sectionsOf_owned hmode hx

theorem mode_avpnName {mode : Mode} (hmode : mode ∈ modes) (radio : String) :
    avpnName (mode.name ++ "_" ++ radio) = true := by
  simp only [modes, List.mem_cons, List.not_mem_nil, or_false] at hmode
  rcases hmode with rfl | rfl | rfl <;> simp [avpnName, Mode.name, String.toList_append]

theorem modeSections_avpnName {mode : Mode} (hmode : mode ∈ modes) {x : Entry}
    (h : x ∈ modeSections mode) : avpnName x.2.name = true := by
  have hall : modes.all (fun mode => (modeSections mode).all (avpnName ·.2.name)) = true := by
    decide +kernel
  exact List.all_eq_true.mp (List.all_eq_true.mp hall mode hmode) x h

theorem Reads.added_avpnName (hp : Reads settings configs table p st radios bridge) {c : NetConfig}
    {name : String} (h : name ∈ (added p c).map Section.name) : avpnName name = true := by
  rw [added_names hp] at h
  obtain ⟨mode, hmode, h⟩ := List.mem_flatMap.mp h
  rcases List.mem_append.mp h with h | h
  · split at h
    · exact absurd h List.not_mem_nil
    · obtain ⟨x, hx, rfl⟩ := List.mem_map.mp h
      exact modeSections_avpnName hmode (List.mem_filter.mp hx).1
  · split at h
    · obtain ⟨radio, -, rfl⟩ := List.mem_map.mp h
      exact mode_avpnName hmode radio
    · exact absurd h List.not_mem_nil

theorem Reads.radios_nodup (hp : Reads settings configs table p st radios bridge)
    (hu : Parsed configs) : radios.radios.Nodup := by
  refine ((scanRadios_ok hp.radios_eq).1.nodup) ?_
  rw [hp.remembers.radioDevices, List.map_map]
  have hwireless : ((entries configs).filter foreignRadio).map (Radio.name ∘ (radioOf ·.2)) =
      ((sectionsAt configs .wireless).filter fun s => !owned s && isRadio s).map Section.name := by
    have hother {c : NetConfig} (hc : c ≠ .wireless) :
        ((sectionsAt configs c).map (c, ·)).filter foreignRadio = [] := by
      refine List.filter_eq_nil_iff.mpr fun x hx => ?_
      obtain ⟨s, -, rfl⟩ := List.mem_map.mp hx
      simp [foreignRadio, hc]
    simp only [entries, Network.configs, List.flatMap_cons, List.flatMap_nil, List.filter_append,
      hother (c := .network) (by decide), hother (c := .dhcp) (by decide),
      hother (c := .firewall) (by decide), List.nil_append, List.append_nil, List.filter_map,
      List.map_map]
    congr 1
    exact List.filter_congr fun s _ => by simp [foreignRadio]
  rw [hwireless]
  exact (hu .wireless).sublist (List.filter_sublist.map _)

theorem Reads.added_nodup (hp : Reads settings configs table p st radios bridge)
    (hu : Parsed configs) (c : NetConfig) : ((added p c).map Section.name).Nodup := by
  have hradios := hp.radios_nodup hu
  rw [added_names hp]
  by_cases hc : c = .wireless
  · subst hc
    have hnone (primaryLan : Bool) (mode : Mode) (hmode : mode ∈ modes) :
        (if onPrimaryLan primaryLan mode then []
          else ((modeSections mode).filter (·.1 == .wireless)).map (·.2.name)) = [] := by
      have hall : modes.all (fun mode => (modeSections mode).all (·.1 != .wireless)) = true := by
        decide +kernel
      split
      · rfl
      · refine List.map_eq_nil_iff.mpr (List.filter_eq_nil_iff.mpr fun x hx => ?_)
        simpa using List.all_eq_true.mp (List.all_eq_true.mp hall mode hmode) x hx
    rw [List.flatMap_congr fun mode hmode => by rw [hnone _ mode hmode, List.nil_append, if_pos rfl]]
    refine List.nodup_flatMap.mpr ⟨fun mode _ => hradios.map fun x y h => ?_, ?_⟩
    · have h := congrArg String.toList h
      simp only [String.toList_append] at h
      exact String.toList_inj.mp (List.append_cancel_left h)
    · have hne {m m' : Mode} {x y : Char} {xs ys : List Char}
          (hm : m.name.toList = "avpn_".toList ++ x :: xs)
          (hm' : m'.name.toList = "avpn_".toList ++ y :: ys) (hxy : x ≠ y) :
          List.Disjoint (radios.radios.map (m.name ++ "_" ++ ·))
            (radios.radios.map (m'.name ++ "_" ++ ·)) := by
        intro name h h'
        obtain ⟨r, -, rfl⟩ := List.mem_map.mp h
        obtain ⟨r', -, heq⟩ := List.mem_map.mp h'
        have heq := congrArg String.toList heq
        simp only [String.toList_append, hm, hm', List.append_assoc] at heq
        have heq := List.append_cancel_left heq
        exact hxy (List.cons.inj heq).1.symm
      simp only [modes, List.pairwise_cons, List.mem_cons, List.not_mem_nil, or_false,
        forall_eq_or_imp, forall_eq, false_implies, implies_true, List.Pairwise.nil, and_true]
      exact ⟨⟨hne (x := 'd') (y := 'v') rfl rfl (by decide),
        hne (x := 'd') (y := 'n') rfl rfl (by decide)⟩,
        hne (x := 'v') (y := 'n') rfl rfl (by decide)⟩
  · have hclosed : ∀ primaryLan : Bool, (modes.flatMap fun mode =>
        (if onPrimaryLan primaryLan mode then []
          else ((modeSections mode).filter (·.1 == c)).map (·.2.name)) ++ []).Nodup := by
      intro primaryLan
      cases primaryLan <;> cases c <;> decide +kernel
    simp only [if_neg hc]
    exact hclosed _

end

end Planner

end AutoVPN
