import AutoVPN.Lib.Sql

/-! The migrations of the server's database, and the procedure that applies those that are not
recorded yet. -/

namespace AutoVPN

open Sql

structure Migration where
  version : Int
  name : String
  signature : String
  apply : Work Unit

namespace Migration

/-- `digest` is the hexadecimal SHA-256 of a text. -/
def checksum (digest : String → String) (m : Migration) : String :=
  digest (toString m.version ++ "\x00" ++ m.name ++ "\x00" ++ m.signature)

end Migration

namespace Migrations

def plain (name : String) : Column := ⟨name, false, .null, none, none⟩

def required (name : String) : Column := { plain name with notNull := true }

def defaulted (name : String) (c : Cell) : Column := { required name with fallback := c }

def checked (column : Column) (check : Check) : Column := { column with check := some check }

def referring (column : Column) (table key : String) : Column :=
  { column with references := some (table, key) }

def columnExists (table column : String) : Work Bool := do
  let rows ← query (.tableInfo table)
  return rows.any fun row => row.get "name" == .text column

def addColumnIfMissing (table : String) (column : Column) : Work Unit := do
  if ← columnExists table column.name then return
  else execute (.addColumn table column)

def legacyTables : List Statement := [
  .createTable "settings" ⟨[plain "key", required "value"], [["key"]]⟩,
  .createTable "clients" ⟨[plain "id", required "name", required "token",
    defaulted "enabled" (.integer 1), required "vless_uuid", required "hysteria_password",
    required "created_at", plain "amnezia_private_key", plain "amnezia_public_key",
    plain "amnezia_preshared_key", plain "amnezia_ipv4"], [["id"], ["token"]]⟩,
  .createTable "ip_change_operations" ⟨[plain "id", required "status", plain "old_ip",
    plain "new_ip", plain "old_ip_id", plain "new_ip_id", required "current_step",
    plain "error_message", required "created_at", required "updated_at",
    plain "server_reachable_at", plain "healthcheck_result"], [["id"]]⟩,
  .createTable "vpn_install_operations" ⟨[plain "id", required "status", plain "target_host",
    required "current_step", plain "output", plain "error_message", required "created_at",
    required "updated_at"], [["id"]]⟩,
  .createTable "client_stats" ⟨[referring (plain "client_id") "clients" "id",
    defaulted "vless_uplink" (.integer 0), defaulted "vless_downlink" (.integer 0),
    defaulted "amnezia_rx" (.integer 0), defaulted "amnezia_tx" (.integer 0),
    defaulted "amnezia_latest_handshake" (.integer 0), plain "last_seen_at",
    required "updated_at", plain "raw"], [["client_id"]]⟩]

def applyLegacySchema : Work Unit := do
  each execute legacyTables
  each (addColumnIfMissing "clients") [plain "amnezia_private_key", plain "amnezia_public_key",
    plain "amnezia_preshared_key", plain "amnezia_ipv4"]
  each (addColumnIfMissing "client_stats") [defaulted "amnezia_rx" (.integer 0),
    defaulted "amnezia_tx" (.integer 0), defaulted "amnezia_latest_handshake" (.integer 0)]
  each (addColumnIfMissing "ip_change_operations") [plain "server_reachable_at",
    plain "healthcheck_result"]

def applyDesiredAppliedSnapshots : Work Unit := do
  addColumnIfMissing "clients" (plain "deleted_at")
  addColumnIfMissing "clients" (plain "deleted_revision")
  execute (.createTable "vpn_state" ⟨[checked (plain "singleton") (.oneOf [.integer 1]),
    defaulted "desired_revision" (.integer 0), plain "applied_revision",
    plain "desired_updated_at", plain "applied_updated_at"], [["singleton"]]⟩)
  execute (.insertOrIgnore "vpn_state" [("singleton", .integer 1),
    ("desired_revision", .integer 0), ("applied_revision", .null)])
  execute (.createTable "vpn_snapshots" ⟨[plain "revision", required "payload_json",
    required "payload_sha256",
    checked (required "lifecycle") (.oneOf [.text "PREPARED", .text "APPLIED", .text "FAILED"]),
    required "prepared_at", plain "applied_at", plain "failed_at", plain "error_message"],
    [["revision"]]⟩)
  addColumnIfMissing "vpn_install_operations"
    (referring (plain "revision") "vpn_snapshots" "revision")
  execute (.createIndex "vpn_install_operations_revision" "vpn_install_operations" ["revision"])

def applyOperationCoordinator : Work Unit := do
  execute (.createTable "operation_leases" ⟨[plain "resource", required "owner_type",
    required "owner_id", required "acquired_at", required "heartbeat_at", required "expires_at"],
    [["resource"]]⟩)
  execute (.createTable "server_operations" ⟨[plain "id",
    checked (required "kind") (.oneOf [.text "STATUS", .text "REBOOT"]),
    checked (required "status") (.oneOf [.text "PENDING", .text "RUNNING", .text "DONE",
      .text "FAILED", .text "TIMED_OUT", .text "AMBIGUOUS"]),
    required "current_step",
    checked (required "action_state") (.oneOf [.text "NOT_STARTED", .text "SENDING", .text "SENT",
      .text "AMBIGUOUS"]),
    plain "provider_status", plain "provider_ip", plain "ssh_status", plain "services_json",
    plain "protocol_health_json", plain "result_message", plain "warning_message",
    plain "error_message", required "created_at", required "updated_at", plain "started_at",
    plain "completed_at"], [["id"]]⟩)

def applySafeIpRotation : Work Unit := do
  each (addColumnIfMissing "ip_change_operations") [
    referring (plain "revision") "vpn_snapshots" "revision",
    referring (plain "published_revision") "vpn_snapshots" "revision",
    defaulted "action_state" (.text "NOT_STARTED"),
    defaulted "purchase_state" (.text "NOT_STARTED"),
    defaulted "make_main_state" (.text "NOT_STARTED"),
    defaulted "apply_state" (.text "NOT_STARTED"), plain "cleanup_warning",
    plain "rollback_outcome", plain "new_ip_created_at", plain "new_main_at",
    plain "apply_completed_at", plain "published_at", plain "reconciled_at",
    plain "reconciliation_note"]
  execute (.createIndex "ip_change_operations_revision" "ip_change_operations" ["revision"])

def flag (name : String) : Column :=
  checked (defaulted name (.integer 1)) (.oneOf [.integer 0, .integer 1])

def labelColumn : Column := checked (defaulted "label" (.text "")) (.length 0 100)

def applyRouterCredentials : Work Unit := do
  execute (.createTable "router_credentials" ⟨[checked (plain "credential_id") (.length 8 64),
    referring (required "client_id") "clients" "id", labelColumn,
    checked (required "secret_digest") (.length 64 64),
    checked (required "scopes") (.length 1 256), flag "enabled", required "created_at",
    required "updated_at", plain "last_used_at", plain "expires_at", plain "revoked_at"],
    [["credential_id"]]⟩)
  execute (.createIndex "router_credentials_client_id" "router_credentials" ["client_id"])

def applyRouterApplyResults : Work Unit := do
  execute (.createTable "router_apply_results" ⟨[plain "id",
    referring (required "credential_id") "router_credentials" "credential_id",
    checked (required "idempotency_key") (.length 1 128),
    checked (required "body_sha256") (.length 64 64),
    referring (required "revision") "vpn_snapshots" "revision",
    checked (required "snapshot_sha256") (.length 64 64),
    checked (required "snapshot_etag") (.length 66 66),
    checked (required "outcome") (.oneOf [.text "APPLIED", .text "DEGRADED", .text "FAILED"]),
    plain "active_profile", checked (required "capabilities_json") (.length 0 4096),
    checked (required "diagnostics_json") (.length 0 8192), required "created_at",
    required "updated_at"], [["id"], ["credential_id", "idempotency_key"]]⟩)
  execute (.createIndex "router_apply_results_revision" "router_apply_results"
    ["revision", "created_at"])
  execute (.createIndex "router_apply_results_credential_created" "router_apply_results"
    ["credential_id", "created_at"])

/-- Every credential from before there were routers gets one of its own. -/
def assignLegacyRouter (credential : Row) : Work Unit := do
  let routerId ← draw "token_urlsafe(12)"
  execute (.insert "routers" [("router_id", .text routerId),
    ("client_id", credential.get "client_id"), ("label", credential.get "label"),
    ("enabled", .integer 1), ("created_at", credential.get "created_at"),
    ("updated_at", credential.get "updated_at")])
  execute (.update "router_credentials" [("router_id", .cell (.text routerId))]
    (some ("credential_id", credential.get "credential_id")))

def applyRouters : Work Unit := do
  execute (.createTable "routers" ⟨[checked (plain "router_id") (.length 8 64),
    referring (required "client_id") "clients" "id", labelColumn, flag "enabled",
    required "created_at", required "updated_at", plain "last_seen_at"], [["router_id"]]⟩)
  execute (.createIndex "routers_client_id" "routers" ["client_id"])
  addColumnIfMissing "router_credentials" (referring (plain "router_id") "routers" "router_id")
  let credentials ← query (.select "router_credentials"
    ["credential_id", "client_id", "label", "created_at", "updated_at"] (some "router_id")
    ["created_at", "credential_id"])
  each assignLegacyRouter credentials
  execute (.createIndex "router_credentials_router_id" "router_credentials" ["router_id"])

def rotateHysteriaPassword (client : Row) : Work Unit := do
  let password ← draw "token_urlsafe(24)"
  execute (.update "clients" [("hysteria_password", .cell (.text password))]
    (some ("id", client.get "id")))

def applyHysteriaPerClientAuth : Work Unit := do
  let clients ← query (.select "clients" ["id"] none [])
  each rotateHysteriaPassword clients
  let timestamp ← draw "now"
  execute (.upsert "settings" "key" [("key", .text "vpn.config_updated_at"),
    ("value", .text timestamp)])
  execute (.update "vpn_state" [("desired_revision", .plus "desired_revision" 1),
    ("desired_updated_at", .cell (.text timestamp))] (some ("singleton", .integer 1)))

def applyRouterAmneziaPeers : Work Unit :=
  execute (.createTable "router_amnezia_peers" ⟨[
    referring (required "router_id") "routers" "router_id", required "private_key",
    required "public_key", required "preshared_key", required "ipv4"],
    [["router_id"], ["public_key"], ["ipv4"]]⟩)

/-- `MIGRATIONS`. -/
def all : List Migration := [
  ⟨1, "legacy_schema", "create current legacy tables; add clients amnezia material; " ++
    "add client_stats amnezia counters; add ip operation health fields", applyLegacySchema⟩,
  ⟨2, "desired_applied_snapshots", "add clients soft delete metadata and install revision; " ++
    "create singleton vpn state and immutable canonical snapshot lifecycle",
    applyDesiredAppliedSnapshots⟩,
  ⟨3, "shared_vps_operation_coordinator", "create exclusive VPN VPS operation leases and " ++
    "durable sanitized status/reboot server operations", applyOperationCoordinator⟩,
  ⟨4, "safe_aeza_ip_rotation", "bind IP rotation to immutable VPN revision; persist external " ++
    "action milestones, publish revision, cleanup warning, rollback outcome, and explicit " ++
    "manual reconciliation metadata", applySafeIpRotation⟩,
  ⟨5, "router_credentials", "create independently authenticated per-client router credentials " ++
    "with scopes, revocation, expiry, and usage timestamps", applyRouterCredentials⟩,
  ⟨6, "router_apply_results", "create durable idempotent router apply results with revision, " ++
    "canonical body hash, bounded capability and diagnostic payloads", applyRouterApplyResults⟩,
  ⟨7, "routers", "create stable independently enabled routers; migrate each legacy router " ++
    "credential to a router identity and bind credentials to routers", applyRouters⟩,
  ⟨8, "hysteria_per_client_auth", "rotate per-client Hysteria secrets once; mark desired " ++
    "config changed; preserve public tokens, other protocol keys and immutable snapshots",
    applyHysteriaPerClientAuth⟩,
  ⟨9, "router_amnezia_peers", "create one cascade-bound auxiliary AmneziaWG peer per router " ++
    "with unique public key and address; key generation and backfill stay in init",
    applyRouterAmneziaPeers⟩]

/-! Applying them. -/

/-- The version, name and checksum that a migration is recorded with. -/
abbrev Entry := Int × String × String

def entry (digest : String → String) (m : Migration) : Entry :=
  (m.version, m.name, m.checksum digest)

def table : String := "schema_migrations"

def tableDefinition : Definition :=
  ⟨[plain "version", required "name", required "checksum", required "applied_at"], [["version"]]⟩

/-- `str` of a cell. -/
def textOf : Cell → String
  | .null => "None"
  | .integer n => toString n
  | .text s => s

/-- The version is the integer key of the table. -/
def entryOf (row : Row) : Option Entry :=
  match row.get "version" with
  | .integer version => some (version, textOf (row.get "name"), textOf (row.get "checksum"))
  | _ => none

def entriesOf : List Row → Option (List Entry)
  | [] => some []
  | row :: rows => do
    let e ← entryOf row
    let es ← entriesOf rows
    return e :: es

def readApplied : Work (List Entry) := do
  let found ← query (.hasTable table)
  if found.isEmpty then return []
  else
    let rows ← query (.select table ["version", "name", "checksum"] none ["version"])
    match entriesOf rows with
    | some applied => return applied
    | none => throw "int() argument must be a number"

def validateApplied (digest : String → String) (ms : List Migration) :
    List Entry → Except String Unit
  | [] => .ok ()
  | e :: es =>
    match ms.find? fun m => m.version == e.1 with
    | none =>
      .error ("Database migration " ++ toString e.1 ++ " is newer than this application")
    | some m =>
      if e.2 ≠ (m.name, m.checksum digest) then
        .error ("Database migration " ++ toString e.1 ++ " checksum mismatch")
      else validateApplied digest ms es

/-- One migration, unless it is recorded. -/
def applyPending (digest : String → String) (applied : List Entry) (m : Migration) :
    Work Unit := do
  if applied.any fun e => e.1 == m.version then return
  else
    m.apply
    let timestamp ← draw "now"
    execute (.insert table [("version", .integer m.version), ("name", .text m.name),
      ("checksum", .text (m.checksum digest)), ("applied_at", .text timestamp)])

def applyAll (digest : String → String) (ms : List Migration) : Work Unit := do
  execute (.createTable table tableDefinition)
  let applied ← readApplied
  match validateApplied digest ms applied with
  | .error e => throw e
  | .ok () => each (applyPending digest applied) ms

def applyMigrations (digest : String → String) (ms : List Migration) :
    Program Call Call.Answer (Except String Unit) :=
  transaction (applyAll digest ms)

end Migrations

end AutoVPN
