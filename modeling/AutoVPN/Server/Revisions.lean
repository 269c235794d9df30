import AutoVPN.Server.Addresses

/-! The captured configuration as a function of the desired revision, and the write
that changes one without the other. -/

namespace AutoVPN

open Server Server.Db

/-- The capture tells this key with an empty value from the key that is absent. -/
def absenceMatters (db : Db) (key : String) : Bool :=
  ["config.vless_enabled", "config.hysteria_enabled", "config.amnezia_enabled", "amnezia.jc",
    "amnezia.jmin", "amnezia.jmax", "amnezia.s1", "amnezia.s2", "amnezia.h1", "amnezia.h2",
    "amnezia.h3", "amnezia.h4"].contains key ||
  ["vless", "hysteria", "amnezia"].any fun name =>
    key == "config." ++ name ++ "_port" && (db.lookup ("config." ++ name ++ "_enabled")).isNone

/-- The write gets a new revision. -/
def Server.Db.bumps (db : Db) (values : List (String × String)) (mark : Bool) : Bool :=
  mark && values.any fun entry => isVpnSetting entry.1 && db.setting entry.1 != entry.2

/-- The writes on VPN settings: only with a new revision where a value changes. -/
def VpnWrites : Writes := fun _ values mark =>
  (∀ entry ∈ values, entry.1 ≠ "vpn.config_updated_at") ∧
    (mark = true ∨ ∀ entry ∈ values, isVpnSetting entry.1 = false)

/-- A write without a new revision stores no empty value under an absent key that the
capture tells from an empty one. -/
def NoEmptied : Writes := fun db values mark =>
  db.bumps values mark = true ∨ ∀ entry ∈ values,
    entry.2 = "" → absenceMatters db entry.1 = true → db.lookup entry.1 ≠ none

def FaithfulWrites : Writes := fun db values mark =>
  VpnWrites db values mark ∧ NoEmptied db values mark

/-- The key reads the same to the capture. -/
def SameReading (db db' : Db) (key : String) : Prop :=
  db'.lookup key = db.lookup key ∨
    db.lookup key = none ∧ db'.lookup key = some "" ∧ absenceMatters db key = false

section

variable {env : Environment} {db db' : Db}

theorem SameReading.value {key : String} (h : SameReading db db' key) :
    db'.value key "" = db.value key "" := by
  rcases h with h | ⟨h, h', -⟩
  · rw [Db.value, Db.value, h]
  · rw [Db.value, Db.value, h, h']
    rfl

theorem SameReading.lookup {key : String} (h : SameReading db db' key)
    (ha : absenceMatters db key = true) : db'.lookup key = db.lookup key := by
  rcases h with h | ⟨-, -, h⟩
  · exact h
  · rw [ha] at h
    cases h

/-- The settings read the same to the capture, but for those that it only copies. -/
def SameReadings (db db' : Db) : Prop :=
  ∀ key, isVpnSetting key = true → key ≠ "current_ip" → SameReading db db' key

theorem SameReadings.configuredValue (h : SameReadings db db') {key : String} (default : String)
    (hk : isVpnSetting ("config." ++ key) = true) (hne : "config." ++ key ≠ "current_ip") :
    db'.configuredValue key default = db.configuredValue key default := by
  rw [Db.configuredValue, Db.configuredValue, (h _ hk hne).value]

theorem SameReadings.protocol (h : SameReadings db db') {name : String} (port : Int)
    (hk : isVpnSetting ("config." ++ name ++ "_enabled") = true)
    (hne : "config." ++ name ++ "_enabled" ≠ "current_ip")
    (hk' : isVpnSetting ("config." ++ name ++ "_port") = true)
    (hne' : "config." ++ name ++ "_port" ≠ "current_ip")
    (ha : absenceMatters db ("config." ++ name ++ "_enabled") = true)
    (hn : name ∈ ["vless", "hysteria", "amnezia"]) :
    db'.protocol env name port = db.protocol env name port := by
  have henabled := (h _ hk hne).lookup ha
  have hport := (h _ hk' hne').value
  rw [Db.protocol, Db.protocol, henabled, hport]
  cases he : db.lookup ("config." ++ name ++ "_enabled") with
  | some configured => rfl
  | none =>
    have hmatters : absenceMatters db ("config." ++ name ++ "_port") = true := by
      rw [absenceMatters, Bool.or_eq_true]
      exact .inr (List.any_eq_true.2 ⟨name, hn, by simp [he]⟩)
    rw [(h _ hk' hne').lookup hmatters]

theorem SameReadings.captureVless (h : SameReadings db db') :
    db'.captureVless env = db.captureVless env := by
  simp only [Db.captureVless]
  rw [h.protocol env.vlessPort (by decide) (by decide) (by decide) (by decide) rfl (by simp),
    (h "vless.reality_private_key" (by decide) (by decide)).value,
    (h "vless.reality_public_key" (by decide) (by decide)).value,
    (h "vless.reality_short_id" (by decide) (by decide)).value,
    h.configuredValue _ (by decide) (by decide), h.configuredValue _ (by decide) (by decide),
    h.configuredValue _ (by decide) (by decide), h.configuredValue _ (by decide) (by decide),
    h.configuredValue _ (by decide) (by decide)]

theorem SameReadings.captureHysteria (h : SameReadings db db') :
    db'.captureHysteria env = db.captureHysteria env := by
  simp only [Db.captureHysteria]
  rw [h.protocol env.hysteriaPort (by decide) (by decide) (by decide) (by decide) rfl (by simp),
    (h "hysteria.password" (by decide) (by decide)).value,
    (h "hysteria.obfs_password" (by decide) (by decide)).value]

theorem SameReadings.valueOr (h : SameReadings db db') {key : String} (default : String)
    (hk : isVpnSetting key = true) (hne : key ≠ "current_ip")
    (ha : absenceMatters db key = true) : db'.value key default = db.value key default := by
  rw [Db.value, Db.value, (h key hk hne).lookup ha]

theorem SameReadings.captureObfuscation (h : SameReadings db db') :
    db'.captureObfuscation env = db.captureObfuscation env := by
  simp only [Db.captureObfuscation]
  rw [h.valueOr "5" (by decide) (by decide) rfl, h.valueOr "40" (by decide) (by decide) rfl,
    h.valueOr "1000" (by decide) (by decide) rfl, h.valueOr "64" (by decide) (by decide) rfl,
    h.valueOr "128" (by decide) (by decide) rfl, h.valueOr "1" (by decide) (by decide) rfl,
    h.valueOr "2" (by decide) (by decide) rfl, h.valueOr "3" (by decide) (by decide) rfl,
    h.valueOr "4" (by decide) (by decide) rfl]

theorem SameReadings.captureAmnezia (h : SameReadings db db') :
    db'.captureAmnezia env = db.captureAmnezia env := by
  simp only [Db.captureAmnezia]
  rw [h.protocol env.amneziaPort (by decide) (by decide) (by decide) (by decide) rfl (by simp),
    (h "amnezia.server_private_key" (by decide) (by decide)).value,
    (h "amnezia.server_public_key" (by decide) (by decide)).value, h.captureObfuscation,
    h.configuredValue _ (by decide) (by decide), h.configuredValue _ (by decide) (by decide)]

theorem capture_copied (h : SameReadings db db') (hrows : SameRows db db') :
    db'.capture env = (db.capture env).map fun config => { config with
      currentIp := db'.value "current_ip" ""
      configUpdatedAt := db'.value "vpn.config_updated_at" ""
      revision := db'.desiredRevision } := by
  simp only [Db.capture, h.captureVless, h.captureHysteria, h.captureAmnezia, hrows.clients,
    hrows.peers]
  cases db.captureVless env with
  | error e => rfl
  | ok vless =>
    cases db.captureHysteria env with
    | error e => rfl
    | ok hysteria =>
      cases db.captureAmnezia env with
      | error e => rfl
      | ok amnezia => rfl

/-- The settings, the rows and the revision are the same to the capture. -/
structure SameCapture (db db' : Db) : Prop where
  settings : ∀ key, capturedKey key = true → SameReading db db' key
  rows : SameRows db db'
  desired : db'.desiredRevision = db.desiredRevision

theorem SameCapture.capture (h : SameCapture db db') : db'.capture env = db.capture env := by
  have hread : SameReadings db db' := fun key hk _ => h.settings key (by simp [capturedKey, hk])
  rw [capture_copied hread h.rows, (h.settings "current_ip" rfl).value,
    (h.settings "vpn.config_updated_at" rfl).value, h.desired]
  simp only [Db.capture]
  cases db.captureVless env with
  | error e => rfl
  | ok vless =>
    cases db.captureHysteria env with
    | error e => rfl
    | ok hysteria =>
      cases db.captureAmnezia env with
      | error e => rfl
      | ok amnezia => rfl

theorem SameConfig.sameCapture (h : SameConfig db db') : SameCapture db db' :=
  ⟨fun key hk => .inl (h.settings key hk), h.sameRows, h.desired⟩

/-! Writes of settings. -/

theorem lookup_storeSettings (db : Db) (values : List (String × String)) (key : String) :
    (key ∉ values.map (·.1) ∧ (db.storeSettings values).lookup key = db.lookup key) ∨
      ∃ value, (key, value) ∈ values ∧ (db.storeSettings values).lookup key = some value := by
  induction values generalizing db with
  | nil => exact .inl ⟨by simp, rfl⟩
  | cons entry values ih =>
    have hstep : (db.storeSettings (entry :: values)) =
        (db.storeSetting entry.1 entry.2).storeSettings values := rfl
    rw [hstep]
    rcases ih (db.storeSetting entry.1 entry.2) with ⟨hn, h⟩ | ⟨value, hmem, h⟩
    · by_cases hk : key = entry.1
      · subst hk
        rw [lookup_storeSetting_self] at h
        exact .inr ⟨entry.2, List.mem_cons_self, h⟩
      · rw [lookup_storeSetting_of_ne _ hk] at h
        exact .inl ⟨by simpa [hk] using hn, h⟩
    · exact .inr ⟨value, List.mem_cons_of_mem _ hmem, h⟩

theorem written_of_silent {values : List (String × String)} {mark : Bool} {timestamp : String}
    (h : db.bumps values mark = false) :
    db.written values mark timestamp = db.storeSettings values := by
  rw [Db.written]
  exact if_neg (by rw [Db.bumps] at h; simp [h])

/-- A faithful write that gets no new revision changes nothing that the capture reads. -/
theorem written_sameCapture {values : List (String × String)} {mark : Bool} {timestamp : String}
    (hw : FaithfulWrites db values mark) (h : db.bumps values mark = false) :
    SameCapture db (db.written values mark timestamp) := by
  obtain ⟨⟨htime, hmark⟩, hempty⟩ := hw
  have hempty : ∀ entry ∈ values, entry.2 = "" → absenceMatters db entry.1 = true →
      db.lookup entry.1 ≠ none := by
    rcases hempty with hb | he
    · rw [h] at hb
      cases hb
    · exact he
  rw [written_of_silent h]
  refine ⟨fun key hk => ?_, ?_, by rw [storeSettings_eq]⟩
  · rcases lookup_storeSettings db values key with ⟨-, hsame⟩ | ⟨value, hmem, hnew⟩
    · exact .inl hsame
    · have hne : key ≠ "vpn.config_updated_at" := htime _ hmem
      have hvpn : isVpnSetting key = true := by simpa [capturedKey, hne] using hk
      have hmark : mark = true := by
        rcases hmark with hm | hm
        · exact hm
        · exact absurd hvpn (by simp [hm _ hmem])
      have hsetting : db.setting key = value := by
        rw [Db.bumps, hmark, Bool.true_and, List.any_eq_false] at h
        simpa [hvpn] using h _ hmem
      cases hl : db.lookup key with
      | some old =>
        rw [Db.setting, hl, Option.getD_some] at hsetting
        exact .inl (by rw [hnew, hl, hsetting])
      | none =>
        rw [Db.setting, hl, Option.getD_none] at hsetting
        subst hsetting
        cases ha : absenceMatters db key with
        | false => exact .inr ⟨hl, hnew, ha⟩
        | true => exact absurd hl (hempty _ hmem rfl ha)
  · rw [storeSettings_eq]
    exact SameRows.of_eq rfl rfl rfl

theorem sameReading_currentIp (hnew : db'.lookup "current_ip" = some ((db.lookup "current_ip").getD "")) :
    SameReading db db' "current_ip" := by
  cases hl : db.lookup "current_ip" with
  | some ip => exact .inl (by rw [hnew, hl]; rfl)
  | none => exact .inr ⟨hl, by rw [hnew, hl]; rfl, by simp [absenceMatters]⟩

theorem insertDefaults_sameCapture (db : Db) : SameCapture db db.insertDefaults := by
  refine ⟨fun key hk => ?_, ?_, ?_⟩
  · by_cases hip : key = "current_ip"
    · subst hip
      exact sameReading_currentIp currentIp_insertDefaults
    · refine .inl (lookup_insertDefaults hip ?_)
      rintro rfl
      exact absurd hk (by decide)
  · rw [insertDefaults_eq]
    exact SameRows.of_eq rfl rfl rfl
  · rw [insertDefaults_eq]

theorem reset_sameCapture {timestamp : String}
    (h : (db.clearServerAndAezaState timestamp).desiredRevision = db.desiredRevision) :
    SameCapture db (db.clearServerAndAezaState timestamp) := by
  obtain ⟨hnew, hold, htime⟩ := currentIp_of_silent h
  refine ⟨fun key hk => ?_, ?_, h⟩
  · by_cases hip : key = "current_ip"
    · subst hip
      exact sameReading_currentIp (by rw [hnew, hold])
    · by_cases hupdated : key = "vpn.config_updated_at"
      · exact .inl (hupdated ▸ htime)
      · have hvpn : isVpnSetting key = true := by simpa [capturedKey, hupdated] using hk
        have hstatus : key ≠ "last_healthcheck_status" := by
          rintro rfl
          exact absurd hk (by decide)
        refine .inl ((lookup_clearServerAndAezaState hip hstatus hupdated).trans ?_)
        rw [isReset_of_vpnSetting hvpn hip]
        rfl
  · rw [clearServerAndAezaState_eq]
    exact SameRows.of_eq rfl rfl rfl

theorem ConfigMove.sameCapture (ht : Tidy db) (hm : ∀ row ∈ db.clients, Marked db.desiredRevision row)
    (h : ConfigMove env FaithfulWrites db db') :
    db.desiredRevision < db'.desiredRevision ∨ SameCapture db db' := by
  cases h with
  | @write values mark timestamp hw =>
    cases hb : db.bumps values mark with
    | true =>
      have he : db.written values mark timestamp =
          (db.storeSettings values).markVpnConfigUpdated timestamp := by
        rw [Db.written]
        exact if_pos hb
      rw [he, storeSettings_eq]
      exact .inl (Nat.lt_succ_self _)
    | false => exact .inr (written_sameCapture hw hb)
  | addClient timestamp ha hid hd hr => exact .inl (Nat.lt_succ_self _)
  | editClient clientId timestamp hf => exact .inl (Nat.lt_succ_self _)
  | deleteClient clientId timestamp => exact .inl (Nat.lt_succ_self _)
  | purge =>
    refine .inr ⟨fun key hk => .inl ?_, SameRows.purge ht hm, ?_⟩
    · rw [purge_eq]
      rfl
    · rw [purge_eq]
  | addRouter router hc hn =>
    exact .inr ⟨fun _ _ => .inl rfl, SameRows.addRouter ht router, rfl⟩
  | editRouter routerId timestamp hf => exact .inl (Nat.lt_succ_self _)
  | labelRouter routerId label =>
    exact .inr ⟨fun _ _ => .inl rfl, SameRows.labelRouter db routerId label, rfl⟩
  | removeRouter routerId timestamp => exact .inl (Nat.lt_succ_self _)
  | addPeer timestamp ha hr hn => exact .inl (Nat.lt_succ_self _)
  | setCredentials credentials => exact .inr ⟨fun _ _ => .inl rfl, SameRows.of_eq rfl rfl rfl, rfl⟩
  | startUp h =>
    rcases (initDb_rest h).1.lt_or_eq with hlt | he
    · exact .inl hlt
    · rw [(initDb_started ht.clientIds h).silent he.symm]
      exact .inr (insertDefaults_sameCapture db)
  | reset timestamp =>
    rcases (desiredRevision_clear db timestamp).lt_or_eq with hlt | he
    · exact .inl hlt
    · exact .inr (reset_sameCapture he.symm)

theorem SameRows.trans {a b c : Db} (h : SameRows a b) (h' : SameRows b c) : SameRows a c :=
  ⟨h'.clients.trans h.clients, h'.peers.trans h.peers⟩

theorem capturedKey_operationKey (id : Nat) (name : String) :
    capturedKey (operationKey id name) = false := by
  have hlist : (operationKey id name).toList =
      'i' :: ("p_change." ++ toString id ++ "." ++ name).toList := by
    simp [operationKey]
  have hne (key : String) (c : Char) (rest : List Char) (hk : key.toList = c :: rest)
      (hc : c ≠ 'i') : (operationKey id name == key) = false := by
    rw [beq_eq_false_iff_ne]
    rintro rfl
    rw [hlist] at hk
    exact hc (List.cons.inj hk).1.symm
  have hword (word : String) (c : Char) (rest : List Char) (hk : word.toList = c :: rest)
      (hc : c ≠ 'i') : startsWith word (operationKey id name) = false := by
    have hb : (c == 'i') = false := by simpa using hc
    rw [startsWith, hlist, hk, List.isPrefixOf_cons_cons, hb, Bool.false_and]
  rw [capturedKey, isVpnSetting, hne "current_ip" 'c' _ rfl (by decide),
    hne "vpn.config_updated_at" 'v' _ rfl (by decide)]
  simp only [List.any_cons, List.any_nil, hword "vless." 'v' _ rfl (by decide),
    hword "hysteria." 'h' _ rfl (by decide), hword "amnezia." 'a' _ rfl (by decide),
    hword "config.vless_" 'c' _ rfl (by decide), hword "config.hysteria_" 'c' _ rfl (by decide),
    hword "config.amnezia_" 'c' _ rfl (by decide), Bool.or_self]

theorem note_sameCapture (db : Db) (id : Nat) (name value : String) :
    SameCapture db (db.storeSetting (operationKey id name) value) := by
  refine ⟨fun key hk => .inl (lookup_storeSetting_of_ne _ ?_), SameRows.of_eq rfl rfl rfl, rfl⟩
  rintro rfl
  rw [capturedKey_operationKey] at hk
  cases hk

/-! The snapshot of the desired revision is the configuration captured now. -/

structure CurrentStored (env : Environment) (db : Db) : Prop where
  addressed : Addressed env db
  tidy : Tidy db
  current : ∀ s, db.snapshots db.desiredRevision = some s →
    ∃ config, db.capture env = .ok config ∧ s.payload = canonicalVpnConfigJson config

/-- The payload of the desired revision, as far as it is stored. -/
def SameCurrent (db db' : Db) : Prop :=
  ∀ s', db'.snapshots db.desiredRevision = some s' →
    ∃ s, db.snapshots db.desiredRevision = some s ∧ s'.payload = s.payload

theorem CurrentStored.same (h : CurrentStored env db) (hs : SameCurrent db db') (hc : SameCapture db db') :
    ∀ s, db'.snapshots db'.desiredRevision = some s →
      ∃ config, db'.capture env = .ok config ∧ s.payload = canonicalVpnConfigJson config := by
  intro s' hs'
  rw [hc.desired] at hs'
  obtain ⟨s, hs, he⟩ := hs s' hs'
  rw [hc.capture, he]
  exact h.current s hs

theorem SameSnapshots.sameCurrent (h : SameSnapshots db db') : SameCurrent db db' :=
  fun s hs => ⟨s, h.snapshots ▸ hs, rfl⟩

theorem editSnapshot_sameCurrent (db : Db) (revision : Nat) {f : VpnSnapshot → VpnSnapshot}
    (hf : SnapshotEdit f) : SameCurrent db (db.updateSnapshot revision f) := by
  intro s' hs'
  by_cases hr : db.desiredRevision = revision
  · simp only [updateSnapshot, hr, if_true, Option.map_eq_some_iff] at hs'
    obtain ⟨s, hs, rfl⟩ := hs'
    exact ⟨s, hr ▸ hs, hf.payload s⟩
  · simp only [updateSnapshot, hr, if_false] at hs'
    exact ⟨s', hs', rfl⟩

theorem ConfigMove.current (h : CurrentStored env db) (hm : ConfigMove env FaithfulWrites db db') :
    ∀ s, db'.snapshots db'.desiredRevision = some s →
      ∃ config, db'.capture env = .ok config ∧ s.payload = canonicalVpnConfigJson config := by
  rcases hm.sameCapture h.tidy h.addressed.marked with hlt | hc
  · intro s hs
    rw [hm.sameSnapshots.snapshots] at hs
    have hle := h.addressed.consistent.bounded _ s hs
    omega
  · exact h.same hm.sameSnapshots.sameCurrent hc

theorem mem_publishedSettings {p : IpPublication} {entry : String × String}
    (h : entry ∈ publishedSettings p) :
    entry = ("current_ip", p.newIp) ∨ entry = ("vpn.config_updated_at", p.timestamp) ∨
      capturedKey entry.1 = false := by
  rcases p with ⟨newIp, result, _ | name, path, timestamp⟩
  · simp only [publishedSettings, List.append_nil, List.mem_cons, List.not_mem_nil, or_false] at h
    rcases h with rfl | rfl | rfl
    · exact .inl rfl
    · exact .inr (.inl rfl)
    · exact .inr (.inr rfl)
  · simp only [publishedSettings, List.cons_append, List.nil_append, List.mem_cons] at h
    have hbox : capturedKey "config.sprintbox_box_name" = false := by decide
    rcases h with rfl | rfl | rfl | rfl | rfl | h
    · exact .inl rfl
    · exact .inr (.inl rfl)
    · exact .inr (.inr rfl)
    · exact .inr (.inr hbox)
    · exact .inr (.inr rfl)
    · cases path with
      | none => cases h
      | some path =>
        simp only [List.mem_cons, List.not_mem_nil, or_false] at h
        have hkey : capturedKey "config.eu_ssh_key_path" = false := by decide
        have hpassword : capturedKey "config.eu_ssh_password" = false := by decide
        rcases h with rfl | rfl | rfl | rfl
        · exact .inr (.inr rfl)
        · exact .inr (.inr rfl)
        · exact .inr (.inr hkey)
        · exact .inr (.inr hpassword)

theorem lookup_published (db : Db) (p : IpPublication) {key value : String}
    (hmem : (key, value) ∈ publishedSettings p)
    (hone : ∀ other, (key, other) ∈ publishedSettings p → other = value) :
    (db.storeSettings (publishedSettings p)).value key "" = value := by
  rcases lookup_storeSettings db (publishedSettings p) key with ⟨hn, -⟩ | ⟨other, ho, h⟩
  · exact absurd (List.mem_map_of_mem hmem) hn
  · rw [Db.value, h, hone other ho]
    rfl

/-- The configuration that is captured right after a publication. -/
theorem capture_published (h : CurrentStored env db) {bound : CapturedVpnConfig} {s : VpnSnapshot}
    (hs : db.snapshots db.desiredRevision = some s)
    (hb : capturedVpnConfigFromJson s.payload = some bound) (p : IpPublication) (operationId : Nat)
    (f : IpOperation → IpOperation) :
    ∃ config, Db.capture env ((db.publishedStore env bound db.desiredRevision
        p).purgeAppliedDeletedClients.updateIp operationId f) = .ok config ∧
      canonicalVpnConfigJson (publishedConfig bound db.desiredRevision p) =
        canonicalVpnConfigJson config := by
  obtain ⟨config, hcap, hpayload⟩ := h.current s hs
  rw [hpayload, capturedVpnConfigFromJson_canonical, Option.some.injEq] at hb
  let stored := db.publishedStore env bound db.desiredRevision p
  let settings := (db.storeSettings (publishedSettings p)).settings
  have hstored := publishedStore_eq env db bound db.desiredRevision p
  have hpurged := purge_eq stored
  let published := stored.purgeAppliedDeletedClients.updateIp operationId f
  have hlookup : ∀ key, published.lookup key =
      (db.storeSettings (publishedSettings p)).lookup key := by
    intro key
    show stored.purgeAppliedDeletedClients.lookup key = _
    rw [hpurged, show stored = _ from hstored]
    rfl
  have hread : SameReadings db published := by
    intro key hk hne
    refine .inl ?_
    rw [hlookup]
    rcases lookup_storeSettings db (publishedSettings p) key with ⟨-, hsame⟩ | ⟨value, hmem, -⟩
    · exact hsame
    · rcases mem_publishedSettings hmem with he | he | he
      · exact absurd (Prod.mk.inj he).1 hne
      · rw [(Prod.mk.inj he).1] at hk
        cases hk
      · rw [capturedKey, hk, Bool.true_or] at he
        cases he
  have hrows : SameRows db published := by
    have hsame : SameRows db stored := by
      show SameRows db (db.publishedStore env bound db.desiredRevision p)
      rw [hstored]
      exact SameRows.of_eq rfl rfl rfl
    have htidy : Tidy stored := by
      show Tidy (db.publishedStore env bound db.desiredRevision p)
      rw [hstored]
      exact ⟨h.tidy.clientIds, h.tidy.clientsLe, h.tidy.routerIds, h.tidy.owned⟩
    have hmarked : ∀ row ∈ stored.clients, Marked stored.desiredRevision row := by
      show ∀ row ∈ (db.publishedStore env bound db.desiredRevision p).clients,
        Marked (db.publishedStore env bound db.desiredRevision p).desiredRevision row
      rw [hstored]
      exact fun row hrow => (h.addressed.marked row hrow).mono (Nat.le_succ _)
    exact (hsame.trans (SameRows.purge htidy hmarked)).trans (SameRows.of_eq rfl rfl rfl)
  have hvalue (key : String) : published.value key "" =
      (db.storeSettings (publishedSettings p)).value key "" := by
    rw [Db.value, hlookup, Db.value]
  have hip : published.value "current_ip" "" = p.newIp := by
    rw [hvalue]
    refine lookup_published db p (by simp [publishedSettings]) fun other ho => ?_
    rcases mem_publishedSettings ho with he | he | he
    · exact (Prod.mk.inj he).2
    · exact absurd (Prod.mk.inj he).1 (by decide)
    · cases he
  have htime : published.value "vpn.config_updated_at" "" = p.timestamp := by
    rw [hvalue]
    refine lookup_published db p (by simp [publishedSettings]) fun other ho => ?_
    rcases mem_publishedSettings ho with he | he | he
    · exact absurd (Prod.mk.inj he).1 (by decide)
    · exact (Prod.mk.inj he).2
    · have htrue : capturedKey "vpn.config_updated_at" = true := by decide
      rw [htrue] at he
      cases he
  have hrevision : published.desiredRevision = db.desiredRevision + 1 := by
    show stored.purgeAppliedDeletedClients.desiredRevision = _
    rw [hpurged, show stored = _ from hstored]
  have hafter : published.capture env = _ := capture_copied hread hrows
  rw [hcap, hip, htime, hrevision] at hafter
  refine ⟨_, hafter, ?_⟩
  rw [← hb]
  have hclients : config.enabledClients.filter (·.enabled) = config.enabledClients := by
    rw [CapturedVpnConfig.enabledClients, List.filter_filter]
    simp
  simp only [canonicalVpnConfigJson, publishedConfig, CapturedVpnConfig.enabledClients]
  rw [show (config.clients.filter (·.enabled)).filter (·.enabled) = _ from hclients]
  rfl

theorem completeInstall_sameCapture (ht : Tidy db)
    (hm : ∀ row ∈ db.clients, Marked db.desiredRevision row) {operationId : Nat}
    {output : String} (h : db.completeInstallOperation operationId output = .ok db') :
    SameCapture db db' := by
  obtain ⟨revision, snapshot, hs, hw⟩ := completeInstallOperation_ok h
  let stored := db.completedStore revision
  have hrows : SameRows db stored := SameRows.of_eq rfl rfl rfl
  have htidy : Tidy stored := ⟨ht.clientIds, ht.clientsLe, ht.routerIds, ht.owned⟩
  have hpurged := purge_eq stored
  refine ⟨fun key hk => .inl ?_, ?_, ?_⟩
  · rw [hw.sameConfig.settings key hk, show db.completedStore revision = stored from rfl, hpurged]
    rfl
  · exact (hrows.trans (SameRows.purge htidy hm)).trans hw.sameConfig.sameRows
  · rw [hw.sameConfig.desired, show db.completedStore revision = stored from rfl, hpurged]
    rfl

theorem SnapshotMove.sameCapture (ht : Tidy db)
    (hm : ∀ row ∈ db.clients, Marked db.desiredRevision row) (h : SnapshotMove env db db') :
    db.desiredRevision < db'.desiredRevision ∨ SameCapture db db' := by
  cases h with
  | operations hw => exact .inr hw.sameConfig.sameCapture
  | note operationId name value => exact .inr (note_sameCapture db operationId name value)
  | prepare hcap hn => exact .inr ⟨fun _ _ => .inl rfl, SameRows.of_eq rfl rfl rfl, rfl⟩
  | editSnapshot revision hf =>
    exact .inr ⟨fun _ _ => .inl rfl, SameRows.of_eq rfl rfl rfl, rfl⟩
  | publish hp =>
    obtain ⟨row, snapshot, bound, -, -, -, -, -, rfl⟩ := publishIpChange_ok hp
    refine .inl ?_
    show db.desiredRevision < (Db.purgeAppliedDeletedClients _).desiredRevision
    rw [purge_eq]
    exact Nat.lt_succ_self _
  | completeInstall hp => exact .inr (completeInstall_sameCapture ht hm hp)

theorem StoreMove.sameCapture (h : CurrentStored env db)
    (hm : StoreMove env FaithfulWrites db db') :
    db.desiredRevision < db'.desiredRevision ∨ SameCapture db db' := by
  rcases hm with hm | hm
  · exact hm.sameCapture h.tidy h.addressed.marked
  · exact hm.sameCapture h.tidy h.addressed.marked

theorem SnapshotMove.current (h : CurrentStored env db) (hm : SnapshotMove env db db') :
    ∀ s, db'.snapshots db'.desiredRevision = some s →
      ∃ config, db'.capture env = .ok config ∧ s.payload = canonicalVpnConfigJson config := by
  cases hm with
  | operations hw => exact h.same hw.sameSnapshots.sameCurrent hw.sameConfig.sameCapture
  | note operationId name value =>
    exact h.same (SameSnapshots.sameCurrent ⟨rfl, rfl, le_rfl⟩) (note_sameCapture db _ _ _)
  | @prepare config hcap hn =>
    intro s hs
    rw [capture_revision hcap] at hs
    simp only [Db.insertSnapshot, if_true, Option.some.injEq] at hs
    exact ⟨config, hcap, hs ▸ rfl⟩
  | editSnapshot revision hf =>
    exact h.same (editSnapshot_sameCurrent db revision hf)
      ⟨fun _ _ => .inl rfl, SameRows.of_eq rfl rfl rfl, rfl⟩
  | @publish _ operationId p hp =>
    obtain ⟨row, snapshot, bound, -, -, hs, hb, hn, rfl⟩ := publishIpChange_ok hp
    intro s hs'
    obtain ⟨config, hcap, hpayload⟩ := capture_published h hs hb p operationId fun o =>
      { o with status := .running, currentStep := "delete_old_ipv4", actionState := .published,
               publishedRevision := some (db.desiredRevision + 1),
               publishedAt := some p.timestamp,
               healthcheckResult := some p.healthcheckResult }
    refine ⟨config, hcap, ?_⟩
    have hsame := sameSnapshots_purge (db.publishedStore env bound db.desiredRevision p)
    have hdesired : (db.publishedStore env bound db.desiredRevision
        p).purgeAppliedDeletedClients.desiredRevision = db.desiredRevision + 1 := by
      rw [purge_eq]
      rfl
    have hs' : (db.publishedStore env bound db.desiredRevision p).snapshots
        (db.desiredRevision + 1) = some s := by
      rw [← hsame.snapshots, ← hdesired]
      exact hs'
    rw [publishedStore_eq] at hs'
    simp [updateSnapshot, Db.insertSnapshot] at hs'
    rw [← hs', ← hpayload]
  | completeInstall hp =>
    have hc := completeInstall_sameCapture h.tidy h.addressed.marked hp
    obtain ⟨revision, snapshot, hs, hw⟩ := completeInstallOperation_ok hp
    refine h.same (fun s' hs' => ?_) hc
    rw [hw.sameSnapshots.snapshots, (sameSnapshots_purge _).snapshots] at hs'
    exact editSnapshot_sameCurrent db revision SnapshotEdit.apply s' hs'

theorem StoreMove.currentStored (h : CurrentStored env db) (hm : StoreMove env FaithfulWrites db db') :
    CurrentStored env db' := by
  refine ⟨?_, hm.tidy h.tidy, ?_⟩
  · rcases hm with hm | hm
    · exact hm.addressed h.tidy h.addressed
    · exact hm.addressed h.addressed
  · rcases hm with hm | hm
    · exact hm.current h
    · exact hm.current h

theorem StoreMoves.sameCapture (h : CurrentStored env db)
    (hm : StoreMoves env FaithfulWrites db db') :
    CurrentStored env db' ∧ db.desiredRevision ≤ db'.desiredRevision ∧
      (db'.desiredRevision = db.desiredRevision → db'.capture env = db.capture env) := by
  induction hm with
  | refl => exact ⟨h, le_rfl, fun _ => rfl⟩
  | @tail mid last _ hs ih =>
    obtain ⟨hmid, hle, hcap⟩ := ih
    refine ⟨hs.currentStored hmid, ?_, fun he => ?_⟩
    · rcases hs.sameCapture hmid with hlt | hc
      · omega
      · rw [hc.desired]
        exact hle
    · rcases hs.sameCapture hmid with hlt | hc
      · omega
      · rw [hc.capture]
        exact hcap (hc.desired.symm.trans he)

end

/-- A database without clients and routers. -/
structure Pristine (db : Db) : Prop where
  unassigned : Unassigned db
  routers : db.routers = []

theorem Pristine.currentStored {db : Db} (h : Pristine db) (env : Environment) :
    CurrentStored env db := by
  refine ⟨h.unassigned.addressed env, ⟨?_, ?_, ?_, ?_⟩, fun s hs => ?_⟩
  · simp [h.unassigned.clients]
  · simp [h.unassigned.clients]
  · simp [h.routers]
  · simp [h.unassigned.peers]
  · rw [h.unassigned.unapplied.snapshots] at hs
    cases hs

/-- Over the runs whose writes store no empty value under a key that was absent, when the
capture tells the two apart: the payload is a function of the desired revision, storing it
never fails, and a publication stores what is captured right after it. -/
theorem payload_of_revision {env : Environment} {start db db' : Db} (hstart : Pristine start)
    (h : StoreRuns env FaithfulWrites start db) (h' : StoreRuns env FaithfulWrites db db') :
    (db'.desiredRevision = db.desiredRevision →
      db'.snapshotPayload env = db.snapshotPayload env) ∧
    (∀ config payload sha256 reprepare,
      db'.snapshotPayload env = .ok (config, payload, sha256) →
        ∃ ensured, db'.ensureSnapshot env config payload sha256 reprepare = .ok ensured) ∧
    ∀ operationId p published, db'.publishIpChange env operationId p = .ok published →
      ∃ s config, published.snapshots published.desiredRevision = some s ∧
        published.capture env = .ok config ∧ s.payload = canonicalVpnConfigJson config := by
  have hdb := (h.moves.sameCapture (hstart.currentStored env)).1
  obtain ⟨hdb', -, hcap⟩ := h'.moves.sameCapture hdb
  refine ⟨fun he => ?_, fun config payload sha256 reprepare hp => ?_,
    fun operationId p published hp => ?_⟩
  · rw [snapshotPayload, hcap he, snapshotPayload]
  · obtain ⟨hc, rfl, rfl⟩ := snapshotPayload_ok hp
    cases hs : db'.snapshots config.revision with
    | none => exact ⟨_, by simp [ensureSnapshot, hs]; rfl⟩
    | some s =>
      have hcurrent := hs
      rw [capture_revision hc] at hcurrent
      obtain ⟨config', hc', hpayload⟩ := hdb'.current s hcurrent
      have he : config' = config := by
        rw [hc] at hc'
        exact (Except.ok.inj hc').symm
      have hhash := hdb'.addressed.consistent.hashed _ s hs
      have hdiffers : s.differs env.dumps (canonicalVpnConfigJson config)
          (env.sha256 (canonicalVpnConfigJson config)) = false := by
        simp [VpnSnapshot.differs, hhash, hpayload, he]
      cases reprepare with
      | false => exact ⟨db', by simp [ensureSnapshot, hs, hdiffers]⟩
      | true => exact ⟨_, by simp [ensureSnapshot, hs, hdiffers]; rfl⟩
  · have hcurrent : ∀ s, published.snapshots published.desiredRevision = some s →
        ∃ config, published.capture env = .ok config ∧ s.payload = canonicalVpnConfigJson config :=
      SnapshotMove.current hdb' (.publish hp)
    have happlied := (publish_advances hdb'.addressed.consistent hp).consistent.applied
    obtain ⟨s, hs⟩ : ∃ s, published.snapshots published.desiredRevision = some s := by
      obtain ⟨row, snapshot, bound, -, -, -, -, -, rfl⟩ := publishIpChange_ok hp
      have hrevision : (db'.publishedStore env bound db'.desiredRevision
          p).purgeAppliedDeletedClients.desiredRevision = db'.desiredRevision + 1 := by
        rw [purge_eq]
        rfl
      have hsome : (db'.publishedStore env bound db'.desiredRevision
          p).purgeAppliedDeletedClients.appliedRevision = some (db'.desiredRevision + 1) := by
        rw [purge_eq]
        rfl
      obtain ⟨-, s, hs, -⟩ := happlied _ hsome
      exact ⟨s, hrevision ▸ hs⟩
    obtain ⟨config, hc, hpayload⟩ := hcurrent s hs
    exact ⟨s, config, hs, hc, hpayload⟩

namespace StoreSample

/-- An installed database in which the VLESS switch is emptied. -/
def switched : Db := fresh.setSetting "config.vless_enabled" "" "t1"

theorem pristine : Pristine fresh := ⟨⟨unapplied, rfl, rfl⟩, rfl⟩

end StoreSample

open StoreSample in
theorem installedStore_payload : installed.snapshotPayload env = prepared.snapshotPayload env :=
  (payload_of_revision pristine (runs_prepared _) (runs_installed _)).1 rfl

open StoreSample in
/-- The switch that is emptied where it was absent: no new revision, another payload. -/
theorem emptied_switch_changes_payload :
    StoreRuns env VpnWrites fresh switched ∧ switched.desiredRevision = fresh.desiredRevision ∧
      ∃ config config', fresh.capture env = .ok config ∧ switched.capture env = .ok config' ∧
        canonicalVpnConfigJson config' ≠ canonicalVpnConfigJson config := by
  refine ⟨.single (.config (.setSetting ⟨by simp, .inl rfl⟩)), rfl, _, _, rfl, rfl, fun he => ?_⟩
  have hread := congrArg capturedVpnConfigFromJson he
  rw [capturedVpnConfigFromJson_canonical, capturedVpnConfigFromJson_canonical] at hread
  have henabled := congrArg (fun c => c.map fun c => c.vless.protocol.enabled) hread
  exact absurd (Option.some.inj henabled) (by decide)

end AutoVPN
