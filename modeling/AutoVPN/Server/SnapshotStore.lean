import AutoVPN.Server.StoreMoves

/-! The invariant of the snapshot store: content is immutable, an applied revision
stays applied, and the applied revision never goes back. -/

namespace AutoVPN

open Server Server.Db

/-- What is stored agrees with itself. -/
structure Consistent (env : Environment) (db : Db) : Prop where
  bounded : ∀ r s, db.snapshots r = some s → r ≤ db.desiredRevision
  hashed : ∀ r s, db.snapshots r = some s → s.payloadSha256 = env.sha256 s.payload
  applied : ∀ a, db.appliedRevision = some a →
    a ≤ db.desiredRevision ∧ ∃ s, db.snapshots a = some s ∧ s.lifecycle = .applied

/-- What may become of a store. -/
structure Evolves (db db' : Db) : Prop where
  kept : ∀ r s, db.snapshots r = some s → ∃ s', db'.snapshots r = some s' ∧
    s'.payload = s.payload ∧ s'.payloadSha256 = s.payloadSha256 ∧
    (s.lifecycle = .applied → s'.lifecycle = .applied)
  applied : ∀ a, db.appliedRevision = some a → ∃ a', db'.appliedRevision = some a' ∧ a ≤ a'
  desired : db.desiredRevision ≤ db'.desiredRevision

theorem Evolves.refl (db : Db) : Evolves db db :=
  ⟨fun _ s hs => ⟨s, hs, rfl, rfl, id⟩, fun a ha => ⟨a, ha, le_rfl⟩, le_rfl⟩

theorem Evolves.trans {a b c : Db} (h : Evolves a b) (h' : Evolves b c) : Evolves a c := by
  refine ⟨fun r s hs => ?_, fun r hr => ?_, h.desired.trans h'.desired⟩
  · obtain ⟨s', hs', hp, hh, hl⟩ := h.kept r s hs
    obtain ⟨s'', hs'', hp', hh', hl'⟩ := h'.kept r s' hs'
    exact ⟨s'', hs'', hp'.trans hp, hh'.trans hh, fun ha => hl' (hl ha)⟩
  · obtain ⟨r', hr', hle⟩ := h.applied r hr
    obtain ⟨r'', hr'', hle'⟩ := h'.applied r' hr'
    exact ⟨r'', hr'', hle.trans hle'⟩

/-- The store evolves, and agrees with itself afterwards. -/
structure Advances (env : Environment) (db db' : Db) : Prop where
  evolves : Evolves db db'
  consistent : Consistent env db'

theorem SameSnapshots.advances {env : Environment} {db db' : Db} (h : SameSnapshots db db')
    (hc : Consistent env db) : Advances env db db' := by
  refine ⟨⟨fun r s hs => ⟨s, ?_, rfl, rfl, id⟩, fun a ha => ⟨a, ?_, le_rfl⟩, h.desired⟩,
    fun r s hs => ?_, fun r s hs => ?_, fun a ha => ?_⟩
  · rw [h.snapshots, hs]
  · rw [h.applied, ha]
  · rw [h.snapshots] at hs
    exact (hc.bounded r s hs).trans h.desired
  · rw [h.snapshots] at hs
    exact hc.hashed r s hs
  · rw [h.applied] at ha
    obtain ⟨hle, hs⟩ := hc.applied a ha
    rw [h.snapshots]
    exact ⟨hle.trans h.desired, hs⟩

theorem written_eq (db : Db) (values : List (String × String)) (mark : Bool) (timestamp : String) :
    db.written values mark timestamp = { db with
      settings := (db.written values mark timestamp).settings
      desiredRevision := (db.written values mark timestamp).desiredRevision } := by
  unfold written
  rw [storeSettings_eq]
  split <;> rfl

theorem sameSnapshots_written (db : Db) (values : List (String × String)) (mark : Bool)
    (timestamp : String) : SameSnapshots db (db.written values mark timestamp) := by
  unfold written
  rw [storeSettings_eq]
  split
  · exact ⟨rfl, rfl, Nat.le_succ _⟩
  · exact ⟨rfl, rfl, le_rfl⟩

theorem sameSnapshots_purge (db : Db) : SameSnapshots db db.purgeAppliedDeletedClients := by
  rw [purge_eq]
  exact ⟨rfl, rfl, le_rfl⟩

theorem ConfigMove.sameSnapshots {env : Environment} {W : Writes} {db db' : Db}
    (h : ConfigMove env W db db') : SameSnapshots db db' := by
  cases h with
  | write timestamp hw => exact sameSnapshots_written db _ _ timestamp
  | addClient timestamp _ _ _ _ => exact ⟨rfl, rfl, Nat.le_succ _⟩
  | editClient clientId timestamp hf => exact ⟨rfl, rfl, Nat.le_succ _⟩
  | deleteClient clientId timestamp => exact ⟨rfl, rfl, Nat.le_succ _⟩
  | purge => exact sameSnapshots_purge db
  | addRouter router _ _ => exact ⟨rfl, rfl, le_rfl⟩
  | editRouter routerId timestamp hf => exact ⟨rfl, rfl, Nat.le_succ _⟩
  | labelRouter routerId label => exact ⟨rfl, rfl, le_rfl⟩
  | removeRouter routerId timestamp => exact ⟨rfl, rfl, Nat.le_succ _⟩
  | addPeer timestamp _ _ _ => exact ⟨rfl, rfl, Nat.le_succ _⟩
  | setCredentials credentials => exact ⟨rfl, rfl, le_rfl⟩
  | startUp h =>
    obtain ⟨hdesired, hrest⟩ := initDb_rest h
    rw [hrest]
    exact ⟨rfl, rfl, hdesired⟩
  | reset timestamp =>
    have hdesired := desiredRevision_clear db timestamp
    rw [clearServerAndAezaState_eq]
    exact ⟨rfl, rfl, hdesired⟩

theorem Consistent.editSnapshot {env : Environment} {db : Db} (hc : Consistent env db)
    (revision : Nat) {f : VpnSnapshot → VpnSnapshot} (hf : SnapshotEdit f) :
    Advances env db (db.updateSnapshot revision f) := by
  have hget : ∀ r s, (db.updateSnapshot revision f).snapshots r = some s →
      ∃ s₀, db.snapshots r = some s₀ ∧ (s = s₀ ∨ s = f s₀) := by
    intro r s hs
    by_cases hr : r = revision
    · simp only [updateSnapshot, hr, if_true, Option.map_eq_some_iff] at hs
      obtain ⟨s₀, h₀, he⟩ := hs
      exact ⟨s₀, hr ▸ h₀, .inr he.symm⟩
    · simp only [updateSnapshot, hr, if_false] at hs
      exact ⟨s, hs, .inl rfl⟩
  have hkept : ∀ r s, db.snapshots r = some s →
      ∃ s', (db.updateSnapshot revision f).snapshots r = some s' ∧ s'.payload = s.payload ∧
        s'.payloadSha256 = s.payloadSha256 ∧
        (s.lifecycle = .applied → s'.lifecycle = .applied) := by
    intro r s hs
    by_cases hr : r = revision
    · subst hr
      refine ⟨f s, ?_, hf.payload s, hf.payloadSha256 s, hf.applied s⟩
      simp only [updateSnapshot, if_true, hs, Option.map_some]
    · refine ⟨s, ?_, rfl, rfl, id⟩
      simp only [updateSnapshot, hr, if_false, hs]
  refine ⟨⟨hkept, fun a ha => ⟨a, ha, le_rfl⟩, le_rfl⟩, fun r s hs => ?_, fun r s hs => ?_,
    fun a ha => ?_⟩
  · obtain ⟨s₀, h₀, -⟩ := hget r s hs
    exact hc.bounded r s₀ h₀
  · obtain ⟨s₀, h₀, he⟩ := hget r s hs
    have hh := hc.hashed r s₀ h₀
    rcases he with rfl | rfl
    · exact hh
    · rw [hf.payload, hf.payloadSha256]
      exact hh
  · obtain ⟨hle, s, hs, hl⟩ := hc.applied a ha
    obtain ⟨s', hs', -, -, hl'⟩ := hkept a s hs
    exact ⟨hle, s', hs', hl' hl⟩

theorem Consistent.insertSnapshot {env : Environment} {db : Db} (hc : Consistent env db)
    {revision : Nat} (hn : db.snapshots revision = none) (hr : revision ≤ db.desiredRevision)
    (payload : Value) (lifecycle : Lifecycle) :
    Advances env db (db.insertSnapshot revision ⟨payload, env.sha256 payload, lifecycle⟩) := by
  have hne : ∀ r s, db.snapshots r = some s → r ≠ revision := by
    rintro r s hs rfl
    rw [hn] at hs
    cases hs
  have hkept : ∀ r s, db.snapshots r = some s →
      (db.insertSnapshot revision ⟨payload, env.sha256 payload, lifecycle⟩).snapshots r =
        some s := by
    intro r s hs
    simp only [Db.insertSnapshot, hne r s hs, if_false, hs]
  refine ⟨⟨fun r s hs => ⟨s, hkept r s hs, rfl, rfl, id⟩, fun a ha => ⟨a, ha, le_rfl⟩, le_rfl⟩,
    fun r s hs => ?_, fun r s hs => ?_, fun a ha => ?_⟩
  · by_cases h : r = revision
    · exact h ▸ hr
    · simp only [Db.insertSnapshot, h, if_false] at hs
      exact hc.bounded r s hs
  · by_cases h : r = revision
    · simp only [Db.insertSnapshot, h, if_true, Option.some.injEq] at hs
      rw [← hs]
    · simp only [Db.insertSnapshot, h, if_false] at hs
      exact hc.hashed r s hs
  · obtain ⟨hle, s, hs, hl⟩ := hc.applied a ha
    exact ⟨hle, s, hkept a s hs, hl⟩

theorem Consistent.raise {env : Environment} {db : Db} (hc : Consistent env db) {a : Nat}
    (hle : ∀ b, db.appliedRevision = some b → b ≤ a) {s : VpnSnapshot}
    (hs : db.snapshots a = some s) (hl : s.lifecycle = .applied) :
    Advances env db { db with appliedRevision := some a } := by
  refine ⟨⟨fun r s hs => ⟨s, hs, rfl, rfl, id⟩, fun b hb => ⟨a, rfl, hle b hb⟩, le_rfl⟩,
    hc.bounded, hc.hashed, fun b hb => ?_⟩
  cases hb
  exact ⟨hc.bounded a s hs, s, hs, hl⟩

theorem SnapshotEdit.apply : SnapshotEdit VpnSnapshot.apply :=
  ⟨fun _ => rfl, fun _ => rfl, fun _ _ => rfl⟩

theorem Advances.next {env : Environment} {a b c : Db} (h : Advances env a b)
    (h' : Consistent env b → Advances env b c) : Advances env a c :=
  ⟨h.evolves.trans (h' h.consistent).evolves, (h' h.consistent).consistent⟩

namespace Server.Db

variable {env : Environment} {db db' : Db}

/-- The database after a publication, before the deleted clients go. -/
def publishedStore (env : Environment) (db : Db) (bound : CapturedVpnConfig) (revision : Nat)
    (p : IpPublication) : Db :=
  let payload := canonicalVpnConfigJson { bound with
    currentIp := p.newIp, configUpdatedAt := p.timestamp, revision := revision + 1 }
  { ((db.insertSnapshot (revision + 1) ⟨payload, env.sha256 payload, .applied⟩).updateSnapshot
      revision VpnSnapshot.apply).storeSettings (publishedSettings p) with
    desiredRevision := revision + 1, appliedRevision := some (revision + 1) }

/-- The content that a publication stores. -/
def publishedConfig (bound : CapturedVpnConfig) (revision : Nat) (p : IpPublication) :
    CapturedVpnConfig :=
  { bound with currentIp := p.newIp, configUpdatedAt := p.timestamp, revision := revision + 1 }

theorem publishedStore_eq (env : Environment) (db : Db) (bound : CapturedVpnConfig)
    (revision : Nat) (p : IpPublication) :
    db.publishedStore env bound revision p =
      { (db.insertSnapshot (revision + 1) ⟨canonicalVpnConfigJson (publishedConfig bound revision p),
          env.sha256 (canonicalVpnConfigJson (publishedConfig bound revision p)),
          .applied⟩).updateSnapshot revision VpnSnapshot.apply with
        settings := (db.storeSettings (publishedSettings p)).settings
        desiredRevision := revision + 1
        appliedRevision := some (revision + 1) } := by
  dsimp only [publishedStore]
  rw [storeSettings_eq_of _ db]
  · rfl
  · rfl

theorem publishIpChange_ok {operationId : Nat} {p : IpPublication}
    (h : db.publishIpChange env operationId p = .ok db') :
    ∃ row snapshot bound, db.findIp operationId = some row ∧
      row.revision = some db.desiredRevision ∧ db.snapshots db.desiredRevision = some snapshot ∧
      capturedVpnConfigFromJson snapshot.payload = some bound ∧
      db.snapshots (db.desiredRevision + 1) = none ∧
      db' = (db.publishedStore env bound db.desiredRevision p).purgeAppliedDeletedClients.updateIp
        operationId fun o =>
          { o with status := .running, currentStep := "delete_old_ipv4",
                   actionState := .published,
                   publishedRevision := some (db.desiredRevision + 1),
                   publishedAt := some p.timestamp,
                   healthcheckResult := some p.healthcheckResult } := by
  unfold publishIpChange at h
  cases hrow : db.findIp operationId with
  | none => simp [hrow] at h
  | some row =>
    cases hrev : row.revision with
    | none => simp [hrow, hrev] at h
    | some revision =>
      cases hs : db.snapshots revision with
      | none => simp [hrow, hrev, hs] at h
      | some snapshot =>
        simp only [hrow, hrev, hs] at h
        split at h
        · cases h
        · rename_i hd
          have hd : db.desiredRevision = revision := by simpa using hd
          split at h
          · cases h
          · rename_i bound hb
            split at h
            · cases h
            · rename_i hn
              have hn : db.snapshots (revision + 1) = none := by simpa using hn
              have he := (Except.ok.inj h).symm
              rw [hd]
              exact ⟨row, snapshot, bound, rfl, hrev, hs, hb, hn, he⟩

theorem publishedStore_advances (hc : Consistent env db)
    (hn : db.snapshots (db.desiredRevision + 1) = none) (bound : CapturedVpnConfig)
    (p : IpPublication) :
    Advances env db (db.publishedStore env bound db.desiredRevision p) := by
  let revision := db.desiredRevision
  let payload := canonicalVpnConfigJson { bound with
    currentIp := p.newIp, configUpdatedAt := p.timestamp, revision := revision + 1 }
  let bumped : Db := { db with desiredRevision := revision + 1 }
  let inserted := bumped.insertSnapshot (revision + 1) ⟨payload, env.sha256 payload, .applied⟩
  let marked := inserted.updateSnapshot revision VpnSnapshot.apply
  let raised : Db := { marked with appliedRevision := some (revision + 1) }
  have hbumped : SameSnapshots db bumped := ⟨rfl, rfl, Nat.le_succ _⟩
  have hnew : marked.snapshots (revision + 1) = some ⟨payload, env.sha256 payload, .applied⟩ := by
    have hne : revision + 1 ≠ revision := by omega
    simp [marked, inserted, updateSnapshot, Db.insertSnapshot]
  have happlied : ∀ b, marked.appliedRevision = some b → b ≤ revision + 1 := by
    intro b hb
    have hle := (hc.applied b hb).1
    exact Nat.le_succ_of_le hle
  have hraised : Advances env db raised :=
    (((hbumped.advances hc).next fun hc => hc.insertSnapshot hn le_rfl payload .applied).next
      fun hc => hc.editSnapshot revision SnapshotEdit.apply).next
        fun hc => hc.raise happlied hnew rfl
  have hrest : SameSnapshots raised (db.publishedStore env bound revision p) := by
    rw [publishedStore_eq]
    exact ⟨rfl, rfl, le_rfl⟩
  exact hraised.next fun hc => hrest.advances hc

theorem publish_advances (hc : Consistent env db) {operationId : Nat} {p : IpPublication}
    (h : db.publishIpChange env operationId p = .ok db') : Advances env db db' := by
  obtain ⟨row, snapshot, bound, -, -, -, -, hn, rfl⟩ := publishIpChange_ok h
  exact (publishedStore_advances hc hn bound p).next fun hc =>
    ((sameSnapshots_purge _).trans
      (operationWrite_updateIp _ operationId _).sameSnapshots).advances hc

/-- The database after an installation, before the deleted clients go. -/
def completedStore (db : Db) (revision : Nat) : Db :=
  { db.updateSnapshot revision VpnSnapshot.apply with
    appliedRevision := some (newerRevision db.appliedRevision revision) }

theorem completeInstallOperation_ok {operationId : Nat} {output : String}
    (h : db.completeInstallOperation operationId output = .ok db') :
    ∃ revision snapshot, db.snapshots revision = some snapshot ∧
      OperationWrite (db.completedStore revision).purgeAppliedDeletedClients db' := by
  unfold completeInstallOperation at h
  cases hrev : (db.findInstall operationId).bind (·.revision) with
  | none => simp [hrev] at h
  | some revision =>
    simp only [hrev] at h
    split at h
    · cases h
    · rename_i hs
      obtain ⟨snapshot, hs⟩ := Option.ne_none_iff_exists'.1 (by simpa using hs)
      have he := Except.ok.inj h
      rw [← he]
      exact ⟨revision, snapshot, hs, ⟨rfl⟩⟩

theorem completedStore_advances (hc : Consistent env db) {revision : Nat}
    {snapshot : VpnSnapshot} (hs : db.snapshots revision = some snapshot) :
    Advances env db (db.completedStore revision) := by
  have hmarked := hc.editSnapshot revision SnapshotEdit.apply
  have hnew : (db.updateSnapshot revision VpnSnapshot.apply).snapshots revision =
      some snapshot.apply := by
    simp [updateSnapshot, hs]
  refine hmarked.next fun hc' => ?_
  have happlied : (db.updateSnapshot revision VpnSnapshot.apply).appliedRevision =
    db.appliedRevision := rfl
  unfold completedStore
  cases ha : db.appliedRevision with
  | none =>
    refine hc'.raise (fun b hb => ?_) hnew rfl
    rw [happlied, ha] at hb
    cases hb
  | some applied =>
    obtain ⟨-, s, hs', hl⟩ := hc'.applied applied (happlied.trans ha)
    by_cases hlt : applied < revision
    · simp only [newerRevision, if_pos hlt]
      refine hc'.raise (fun b hb => ?_) hnew rfl
      rw [happlied, ha] at hb
      cases hb
      omega
    · simp only [newerRevision, if_neg hlt]
      refine hc'.raise (fun b hb => ?_) hs' hl
      rw [happlied, ha] at hb
      cases hb
      exact le_rfl

theorem complete_advances (hc : Consistent env db) {operationId : Nat} {output : String}
    (h : db.completeInstallOperation operationId output = .ok db') : Advances env db db' := by
  obtain ⟨revision, snapshot, hs, hw⟩ := completeInstallOperation_ok h
  exact (completedStore_advances hc hs).next fun hc =>
    ((sameSnapshots_purge _).trans hw.sameSnapshots).advances hc

end Server.Db

theorem SnapshotMove.advances {env : Environment} {db db' : Db} (hc : Consistent env db)
    (h : SnapshotMove env db db') : Advances env db db' := by
  cases h with
  | operations h => exact h.sameSnapshots.advances hc
  | note operationId name value => exact SameSnapshots.advances ⟨rfl, rfl, le_rfl⟩ hc
  | prepare hcap hn =>
    refine hc.insertSnapshot hn ?_ _ _
    rw [capture_revision hcap]
  | editSnapshot revision hf => exact hc.editSnapshot revision hf
  | publish h => exact publish_advances hc h
  | completeInstall h => exact complete_advances hc h

theorem StoreMoves.advances {env : Environment} {W : Writes} {db db' : Db}
    (hc : Consistent env db) (h : StoreMoves env W db db') : Advances env db db' := by
  induction h with
  | refl => exact ⟨Evolves.refl db, hc⟩
  | tail _ hs ih =>
    refine ih.next fun hc => ?_
    rcases hs with hs | hs
    · exact hs.sameSnapshots.advances hc
    · exact hs.advances hc

/-- Nothing is applied, and nothing was ever captured. -/
structure Unapplied (db : Db) : Prop where
  snapshots : ∀ r, db.snapshots r = none
  applied : db.appliedRevision = none

theorem Unapplied.consistent {db : Db} (h : Unapplied db) (env : Environment) :
    Consistent env db := by
  refine ⟨fun r s hs => ?_, fun r s hs => ?_, fun a ha => ?_⟩
  · rw [h.snapshots r] at hs
    cases hs
  · rw [h.snapshots r] at hs
    cases hs
  · rw [h.applied] at ha
    cases ha

/-- Over every run of the server's transactions, from a database without snapshots. -/
theorem snapshot_store_invariant {env : Environment} {W : Writes} {start db db' : Db}
    (hstart : Unapplied start) (h : StoreRuns env W start db) (h' : StoreRuns env W db db') :
    Evolves db db' ∧ Consistent env db' :=
  have hc := (h.moves.advances (hstart.consistent env)).consistent
  ⟨(h'.moves.advances hc).evolves, (h'.moves.advances hc).consistent⟩

namespace StoreSample

/-- An environment whose library functions agree with the real ones on the sample's texts. -/
def env : Environment where
  vlessPort := 443
  hysteriaPort := 8443
  amneziaPort := 51820
  vlessRealityTarget := "example.com:443"
  vlessRealityServerNames := "example.com"
  vlessRealityServerName := "example.com"
  vlessRealityFingerprint := "chrome"
  vlessRealitySpiderX := ""
  amneziaNetworkPrefix := "10.8.1"
  amneziaDns := "1.1.1.1"
  strip := id
  lower := id
  parseInt := fun text => [("5", 5), ("40", 40), ("1000", 1000), ("64", 64), ("128", 128), ("1", 1),
    ("2", 2), ("3", 3), ("4", 4)].lookup text
  isNetwork := fun network => network == "10.8.1"
  sha256 := fun _ => "digest"
  sha256Text := id
  dumps := fun _ => "document"
  loads := fun _ => none
  configDefault := fun _ => ""

def fresh : Db where
  settings := []
  clients := []
  routers := []
  peers := []
  credentials := []
  desiredRevision := 1
  appliedRevision := none
  snapshots := fun _ => none
  installOperations := []
  ipOperations := []
  serverOperations := []
  lease := none
  clientSequence := 0
  installSequence := 0
  ipSequence := 0
  serverSequence := 0

def okOr (db : Db) (result : Except String Db) : Db :=
  match result with
  | .ok db => db
  | .error _ => db

def material : ClientMaterial := ⟨"token", "uuid", "password", "private", "public", "shared"⟩

/-- One client, then an installation of its configuration. -/
def added : Db := okOr fresh (fresh.createClient env "phone" material "t1")

def prepared : Db := okOr added (added.prepareInstallOperation env "192.0.2.1" 0)

def installed : Db := okOr prepared (prepared.completeInstallOperation 1 "ok")

theorem unapplied : Unapplied fresh := ⟨fun _ => rfl, rfl⟩

theorem added_eq : fresh.createClient env "phone" material "t1" = .ok added := by rfl

theorem prepared_eq : added.prepareInstallOperation env "192.0.2.1" 0 = .ok prepared := by rfl

theorem installed_eq : prepared.completeInstallOperation 1 "ok" = .ok installed := by rfl

theorem runs_prepared (W : Writes) : StoreRuns env W fresh prepared :=
  (Relation.ReflTransGen.single (.config (.createClient added_eq))).tail
    (.snapshot (.prepareInstall prepared_eq))

theorem runs_installed (W : Writes) : StoreRuns env W prepared installed :=
  .single (.snapshot (.completeInstall installed_eq))

end StoreSample

open StoreSample in
theorem installedStore_consistent :
    (Evolves prepared installed ∧ Consistent env installed) ∧
      installed.appliedRevision = some 2 :=
  ⟨snapshot_store_invariant (W := fun _ _ _ => True) unapplied (runs_prepared _)
    (runs_installed _), rfl⟩

end AutoVPN
