import AutoVPN.Lib.Like
import AutoVPN.Server.Database

/-! `reset_server_and_aeza_state`: what the reset by an administrator deletes. -/

namespace AutoVPN

namespace Server

namespace Db

/-- `INSERT OR IGNORE INTO settings`. -/
def insertSetting (db : Db) (key value : String) : Db :=
  if (db.lookup key).isSome then db else db.storeSetting key value

/-- The settings that the VPN has whatever else is stored. -/
def insertDefaults (db : Db) : Db :=
  (db.insertSetting "current_ip" "").insertSetting "last_healthcheck_status" "UNKNOWN"

end Db

/-- `key LIKE pattern`. -/
def keyLike (pattern key : String) : Bool := Sql.like pattern.toList key.toList

def resetKeys : List String := ["current_ip", "last_healthcheck_status",
  "ssh.known_host_reset_last_output", "stats.last_refresh_at", "stats.last_error",
  "config.vps_provider"]

def resetPatterns : List String := ["config.eu_%", "config.aeza_%", "config.sprintbox_%",
  "ip_change.%.provider", "ip_change.%.sprintbox", "server_operation.%.sprintbox_task", "protocol.%"]

def isReset (key : String) : Bool :=
  resetKeys.contains key || resetPatterns.any fun pattern => keyLike pattern key

namespace Db

def clearServerAndAezaState (db : Db) (timestamp : String) : Db :=
  let vpnChanged := db.settings.any fun entry => entry.1 == "current_ip" && entry.2 != "" ||
    ["config.vless_%", "config.hysteria_%", "config.amnezia_%"].any fun pattern =>
      keyLike pattern entry.1
  let cleared : Db := { db with
    settings := db.settings.filter fun entry => !isReset entry.1
    ipOperations := []
    installOperations := []
    serverOperations := [] }
  if vpnChanged then cleared.insertDefaults.markVpnConfigUpdated timestamp
  else cleared.insertDefaults

def resetServerAndAezaState (db : Db) (timestamp : String) : Except String Db :=
  if db.activeOperationOwner.isSome then .error "VPN VPS is busy"
  else .ok (db.clearServerAndAezaState timestamp)

end Db

/-! What stays. -/

def vpnWords : List String :=
  ["vless.", "hysteria.", "amnezia.", "config.vless_", "config.hysteria_", "config.amnezia_"]

theorem isReset_of_vpnSetting {key : String} (h : isVpnSetting key = true) (hne : key ≠ "current_ip") :
    isReset key = false := by
  have hb : (key == "current_ip") = false := by simpa using hne
  rw [isVpnSetting, hb, Bool.false_or] at h
  obtain ⟨word, hword, hstart⟩ := List.any_eq_true.mp h
  have hword : word ∈ vpnWords := hword
  obtain ⟨rest, hrest⟩ := List.isPrefixOf_iff_prefix.mp hstart
  have hkeys : resetKeys.contains key = false := by
    have hall : (vpnWords.all fun word => resetKeys.all fun other => !startsWith word other) = true := by
      decide
    refine Bool.eq_false_iff.mpr fun hc => ?_
    have hother := List.all_eq_true.mp (List.all_eq_true.mp hall word hword) key
      (List.contains_iff_mem.mp hc)
    rw [hstart] at hother
    exact absurd hother (by decide)
  have hpatterns : (resetPatterns.any fun pattern => keyLike pattern key) = false := by
    have hall : (vpnWords.all fun word => resetPatterns.all fun pattern =>
        Sql.clashes pattern.toList word.toList) = true := by decide
    refine List.any_eq_false.mpr fun pattern hpattern => ?_
    have hclash := List.all_eq_true.mp (List.all_eq_true.mp hall word hword) pattern hpattern
    rw [keyLike, ← hrest, Sql.like_of_clashes hclash]
    decide
  rw [isReset, hkeys, hpatterns, Bool.or_self]

namespace Db

variable {db : Db} {key : String}

theorem insertSetting_eq (db : Db) (key value : String) : db.insertSetting key value =
    { db with settings := (db.insertSetting key value).settings } := by
  unfold insertSetting
  split <;> rfl

theorem insertDefaults_eq (db : Db) :
    db.insertDefaults = { db with settings := db.insertDefaults.settings } := by
  rw [insertDefaults, insertSetting_eq, insertSetting_eq db]

theorem lookup_insertSetting_of_ne {other : String} (value : String) (h : key ≠ other) :
    (db.insertSetting other value).lookup key = db.lookup key := by
  unfold insertSetting
  split
  · rfl
  · exact lookup_storeSetting_of_ne value h

theorem lookup_insertSetting_self (value : String) :
    (db.insertSetting key value).lookup key = some ((db.lookup key).getD value) := by
  unfold insertSetting
  cases h : db.lookup key with
  | some old => simp [h]
  | none => simp

theorem lookup_insertDefaults (h : key ≠ "current_ip") (h' : key ≠ "last_healthcheck_status") :
    db.insertDefaults.lookup key = db.lookup key := by
  rw [insertDefaults, lookup_insertSetting_of_ne _ h', lookup_insertSetting_of_ne _ h]

theorem currentIp_insertDefaults :
    db.insertDefaults.lookup "current_ip" = some ((db.lookup "current_ip").getD "") := by
  rw [insertDefaults, lookup_insertSetting_of_ne _ (by decide), lookup_insertSetting_self]

theorem clearServerAndAezaState_eq (db : Db) (timestamp : String) :
    db.clearServerAndAezaState timestamp = { db with
      settings := (db.clearServerAndAezaState timestamp).settings
      desiredRevision := (db.clearServerAndAezaState timestamp).desiredRevision
      ipOperations := []
      installOperations := []
      serverOperations := [] } := by
  unfold clearServerAndAezaState
  dsimp only
  split
  · rw [insertDefaults_eq]
    rfl
  · rw [insertDefaults_eq]

theorem desiredRevision_clear (db : Db) (timestamp : String) :
    db.desiredRevision ≤ (db.clearServerAndAezaState timestamp).desiredRevision := by
  unfold clearServerAndAezaState
  dsimp only
  split
  · rw [insertDefaults_eq]
    exact Nat.le_succ _
  · rw [insertDefaults_eq]

theorem lookup_clearServerAndAezaState {timestamp : String} (h : key ≠ "current_ip")
    (hstatus : key ≠ "last_healthcheck_status") (htime : key ≠ "vpn.config_updated_at") :
    (db.clearServerAndAezaState timestamp).lookup key = if isReset key then none else db.lookup key := by
  have hfilter : (db.settings.filter fun entry => !isReset entry.1).lookup key =
      if isReset key then none else db.lookup key := by
    cases hr : isReset key with
    | false => exact lookup_filter fun _ => by simp [hr]
    | true => exact lookup_filter_of_neg fun _ => by simp [hr]
  unfold clearServerAndAezaState
  dsimp only
  split
  · rw [lookup, markVpnConfigUpdated]
    exact (lookup_storeSetting_of_ne _ htime).trans ((lookup_insertDefaults h hstatus).trans hfilter)
  · exact (lookup_insertDefaults h hstatus).trans hfilter

theorem currentIp_of_silent {timestamp : String}
    (h : (db.clearServerAndAezaState timestamp).desiredRevision = db.desiredRevision) :
    (db.clearServerAndAezaState timestamp).lookup "current_ip" = some "" ∧
      (db.lookup "current_ip").getD "" = "" ∧
      (db.clearServerAndAezaState timestamp).lookup "vpn.config_updated_at" =
        db.lookup "vpn.config_updated_at" := by
  unfold clearServerAndAezaState at h ⊢
  dsimp only at h ⊢
  split at h
  · rw [insertDefaults_eq] at h
    exact absurd h (Nat.succ_ne_self _)
  · rename_i hchanged
    rw [if_neg hchanged]
    refine ⟨?_, ?_, ?_⟩
    · have hreset : isReset "current_ip" = true := by decide
      have hnone : (db.settings.filter fun entry => !isReset entry.1).lookup "current_ip" = none :=
        lookup_filter_of_neg fun _ => by simp [hreset]
      exact currentIp_insertDefaults.trans (congrArg (fun v => some (v.getD "")) hnone)
    · cases hl : db.lookup "current_ip" with
      | none => rfl
      | some ip =>
        have hmem : ("current_ip", ip) ∈ db.settings := by
          obtain ⟨l₁, l₂, hl, -⟩ := List.lookup_eq_some_iff.mp hl
          rw [hl]
          exact List.mem_append_right _ List.mem_cons_self
        have hsilent := List.any_eq_false.mp (Bool.eq_false_iff.mpr hchanged) _ hmem
        rw [Bool.or_eq_true, not_or] at hsilent
        simpa using hsilent.1
    · have hkept : isReset "vpn.config_updated_at" = false := by decide
      exact (lookup_insertDefaults (by decide) (by decide)).trans
        (lookup_filter fun _ => by simp [hkept])

theorem resetServerAndAezaState_ok {db' : Db} {timestamp : String}
    (h : db.resetServerAndAezaState timestamp = .ok db') :
    db.activeOperationOwner = none ∧ db' = db.clearServerAndAezaState timestamp := by
  unfold resetServerAndAezaState at h
  split at h
  · cases h
  · rename_i howner
    exact ⟨by simpa using howner, (Except.ok.inj h).symm⟩

end Db

end Server

end AutoVPN
