import AutoVPN.Lib.Streak
import AutoVPN.Server.Store
import Mathlib.Logic.Relation

/-! The status of each protocol: what the refreshes write down of their checks, and that through all
rounds, however they interleave, the record of a protocol is that of its own checks since the last
reset. -/

namespace AutoVPN

namespace Server

inductive ProtocolKind
  | generic
  | hysteriaService
  | hysteriaTunnel
deriving DecidableEq

inductive ProtocolProbe
  | tcp
  | udp
deriving DecidableEq

structure Protocol where
  key : String
  name : String
  probe : Option ProtocolProbe
  udp : Bool
  deepKey : String
  kind : ProtocolKind

/-- `PROTOCOLS`; each of them is enabled. -/
def protocols : List Protocol := [
  ⟨"vless", "VLESS", some .tcp, false, "vless", .generic⟩,
  ⟨"hysteria_quic", "Hysteria · порт/сервис (QUIC)", some .udp, true, "hysteria_quic",
    .hysteriaService⟩,
  ⟨"hysteria_salamander", "Hysteria · туннель", none, false, "hysteria_salamander",
    .hysteriaTunnel⟩,
  ⟨"amnezia", "AmneziaWG", some .udp, true, "amnezia", .generic⟩]

structure ProbeResult where
  ok : Bool
  latencyMs : Option Int

inductive ProtocolStatus
  | verified
  | serviceActive
  | tcpReachable
  | udpPacketSent
  | unknown
  | failed
  | notConfigured
deriving DecidableEq

namespace ProtocolStatus

def text : ProtocolStatus → String
  | verified => "VERIFIED"
  | serviceActive => "SERVICE_ACTIVE"
  | tcpReachable => "TCP_REACHABLE"
  | udpPacketSent => "UDP_PACKET_SENT"
  | unknown => "UNKNOWN"
  | failed => "FAILED"
  | notConfigured => "NOT_CONFIGURED"

def sign : ProtocolStatus → Sign
  | failed => .fails
  | unknown => .silent
  | _ => .ends

def isGood : ProtocolStatus → Bool
  | verified | serviceActive | tcpReachable | udpPacketSent => true
  | _ => false

end ProtocolStatus

/-- `_compute_status`, where `deep` says whether the deep check has verified the protocol. -/
def computeStatus (p : Protocol) (probeOk : Option Bool) (deep : Option Bool) : ProtocolStatus :=
  match p.kind with
  | .hysteriaService =>
    match deep with
    | some true => .serviceActive
    | some false => .failed
    | none => if probeOk = some true then .udpPacketSent else .failed
  | .hysteriaTunnel =>
    match deep with
    | none => .unknown
    | some verified => if verified then .verified else .failed
  | .generic =>
    match deep with
    | some verified => if verified then .verified else .failed
    | none =>
      if probeOk = some true then if p.udp then .udpPacketSent else .tcpReachable
      else .failed

def protocolSetting (key field : String) : String := "protocol." ++ key ++ "." ++ field

namespace Db

/-- `set_setting` of a field of a protocol's record. -/
def record (db : Db) (key field value timestamp : String) : Db :=
  db.setSetting (protocolSetting key field) value timestamp

def recorded (db : Db) (key field : String) : String := db.setting (protocolSetting key field)

/-- `str(ping or "")`. -/
def pingText : Option Int → String
  | some n => if n = 0 then "" else toString n
  | none => ""

/-- What the first loop of a refresh writes for a protocol without a port. -/
def recordUnconfigured (db : Db) (p : Protocol) (now : String) : Db :=
  ((db.record p.key "status" (ProtocolStatus.text .notConfigured) now).record p.key "failed_since"
    "" now).record p.key "ping_ms" "" now

/-- What the last loop of a refresh writes for a protocol with a port. -/
def recordStatus (db : Db) (p : Protocol) (checkedAt : String) (probe : Option ProbeResult)
    (deep : Option Bool) (now : String) : Db :=
  let status := computeStatus p (probe.map (·.ok)) deep
  let checked := db.record p.key "last_checked_at" checkedAt now
  let marked :=
    if status = .unknown then checked.record p.key "ping_ms" "" now
    else if status.isGood then
      ((checked.record p.key "last_ok_at" checkedAt now).record p.key "failed_since" "" now).record
        p.key "ping_ms" (pingText (probe.bind (·.latencyMs))) now
    else
      (if checked.recorded p.key "failed_since" = "" then
          checked.record p.key "failed_since" checkedAt now
        else checked).record p.key "ping_ms" "" now
  marked.record p.key "status" status.text now

def transportStatus (p : Protocol) (probe : Option ProbeResult) : ProtocolStatus :=
  match probe with
  | none => .unknown
  | some result =>
    if result.ok then if p.udp then .udpPacketSent else .tcpReachable
    else .failed

/-- What a refresh of the transport writes for a protocol that was probed. -/
def recordTransport (db : Db) (p : Protocol) (checkedAt : String) (probe : Option ProbeResult)
    (now : String) : Db :=
  let status := transportStatus p probe
  let checked := (db.record p.key "transport_status" status.text now).record p.key
    "transport_last_checked_at" checkedAt now
  let marked :=
    if status.isGood then
      (checked.record p.key "transport_last_ok_at" checkedAt now).record p.key
        "transport_failed_since" "" now
    else if status = .failed ∧ checked.recorded p.key "transport_failed_since" = "" then
      checked.record p.key "transport_failed_since" checkedAt now
    else checked
  marked.record p.key "transport_ping_ms"
    (pingText (probe.bind fun result => if result.ok then result.latencyMs else none)) now

end Db

/-! Rounds. -/

/-- A check of a protocol that has been written down. -/
structure ProtocolCheck where
  key : String
  transport : Bool
  status : ProtocolStatus
  checkedAt : String

structure StatusWorld where
  db : Db
  checks : List ProtocolCheck

namespace StatusWorld

def unconfigure (w : StatusWorld) (p : Protocol) (now : String) : StatusWorld :=
  ⟨w.db.recordUnconfigured p now, w.checks ++ [⟨p.key, false, .notConfigured, now⟩]⟩

def refresh (w : StatusWorld) (p : Protocol) (checkedAt : String) (probe : Option ProbeResult)
    (deep : Option Bool) (now : String) : StatusWorld :=
  ⟨w.db.recordStatus p checkedAt probe deep now,
    w.checks ++ [⟨p.key, false, computeStatus p (probe.map (·.ok)) deep, checkedAt⟩]⟩

def refreshTransport (w : StatusWorld) (p : Protocol) (checkedAt : String)
    (probe : Option ProbeResult) (now : String) : StatusWorld :=
  ⟨w.db.recordTransport p checkedAt probe now,
    w.checks ++ [⟨p.key, true, Db.transportStatus p probe, checkedAt⟩]⟩

/-- The first loop of `refresh_protocol_statuses`, with the ports that it reads. -/
def startRefresh (w : StatusWorld) (ports : String → Option Nat) (now : String) : StatusWorld :=
  protocols.foldl (fun w p => if (ports p.key).isNone then w.unconfigure p now else w) w

/-- Its last loop, with the results of the probes and of the deep checks. -/
def finishRefresh (w : StatusWorld) (ports : String → Option Nat)
    (probes : String → Option ProbeResult) (deep : String → Option Bool) (checkedAt now : String) :
    StatusWorld :=
  protocols.foldl (fun w p => if (ports p.key).isSome then
    w.refresh p checkedAt (probes p.key) (deep p.deepKey) now else w) w

/-- `refresh_transport_protocol_statuses` once the probes have answered. -/
def finishTransport (w : StatusWorld) (scheduled : List Protocol)
    (probes : String → Option ProbeResult) (checkedAt now : String) : StatusWorld :=
  scheduled.foldl (fun w p => w.refreshTransport p checkedAt (probes p.key) now) w

/-- The protocols that a refresh of the transport probes. -/
def scheduled (currentIp : String) (ports : String → Option Nat) : List Protocol :=
  protocols.filter fun p => (ports p.key).isSome && p.probe.isSome && currentIp != ""

end StatusWorld

/-- The rows that refreshes write, in any order, with resets by an administrator between them and what
others write. The checks are those since the last reset. -/
inductive StatusMove (w : StatusWorld) : StatusWorld → Prop
  | unconfigured {p : Protocol} (hp : p ∈ protocols) (now : String) :
    StatusMove w (w.unconfigure p now)
  | checked {p : Protocol} (hp : p ∈ protocols) (probe : Option ProbeResult) (deep : Option Bool)
    {checkedAt : String} (now : String) (h : checkedAt ≠ "") :
    StatusMove w (w.refresh p checkedAt probe deep now)
  | probed {p : Protocol} (hp : p ∈ protocols) (probe : Option ProbeResult) {checkedAt : String}
    (now : String) (h : checkedAt ≠ "") : StatusMove w (w.refreshTransport p checkedAt probe now)
  | reset {db : Db} {timestamp : String} (h : w.db.resetServerAndAezaState timestamp = .ok db) :
    StatusMove w ⟨db, []⟩
  | other {db : Db} (h : ∀ p ∈ protocols, ∀ field, db.recorded p.key field =
      w.db.recorded p.key field) : StatusMove w ⟨db, w.checks⟩

abbrev StatusRuns : StatusWorld → StatusWorld → Prop := Relation.ReflTransGen StatusMove

/-! The loops of a refresh write rows. -/

theorem foldl_rows {f : StatusWorld → Protocol → StatusWorld} {rows : List Protocol}
    (hf : ∀ w, ∀ p ∈ rows, StatusRuns w (f w p)) (w : StatusWorld) :
    StatusRuns w (rows.foldl f w) := by
  induction rows generalizing w with
  | nil => exact .refl
  | cons p rows ih =>
    exact (hf w p List.mem_cons_self).trans
      (ih (fun w q hq => hf w q (List.mem_cons_of_mem _ hq)) (f w p))

theorem startRefresh_rows (w : StatusWorld) (ports : String → Option Nat) (now : String) :
    StatusRuns w (w.startRefresh ports now) := by
  refine foldl_rows (fun w p hp => ?_) w
  split
  · exact .single (.unconfigured hp now)
  · exact .refl

theorem finishRefresh_rows (w : StatusWorld) (ports : String → Option Nat)
    (probes : String → Option ProbeResult) (deep : String → Option Bool) {checkedAt : String}
    (now : String) (h : checkedAt ≠ "") :
    StatusRuns w (w.finishRefresh ports probes deep checkedAt now) := by
  refine foldl_rows (fun w p hp => ?_) w
  split
  · exact .single (.checked hp _ _ now h)
  · exact .refl

theorem finishTransport_rows (w : StatusWorld) (currentIp : String) (ports : String → Option Nat)
    (probes : String → Option ProbeResult) {checkedAt : String} (now : String)
    (h : checkedAt ≠ "") : StatusRuns w
      (w.finishTransport (StatusWorld.scheduled currentIp ports) probes checkedAt now) :=
  foldl_rows (fun _ _ hp => .single (.probed (List.mem_of_mem_filter hp) _ now h)) w

/-! What is recorded. -/

theorem cut_inj {a b c d : List Char} (ha : '.' ∉ a) (hb : '.' ∉ b)
    (h : a ++ '.' :: c = b ++ '.' :: d) : a = b ∧ c = d := by
  induction a generalizing b with
  | nil =>
    cases b with
    | nil => exact ⟨rfl, (List.cons.inj h).2⟩
    | cons y b => exact absurd ((List.cons.inj h).1 ▸ List.mem_cons_self) hb
  | cons x a ih =>
    cases b with
    | nil => exact absurd ((List.cons.inj h).1 ▸ List.mem_cons_self) ha
    | cons y b =>
      obtain ⟨rfl, hrest⟩ := List.cons.inj h
      obtain ⟨rfl, hcd⟩ := ih (fun hm => ha (List.mem_cons_of_mem _ hm))
        (fun hm => hb (List.mem_cons_of_mem _ hm)) hrest
      exact ⟨rfl, hcd⟩

theorem protocolSetting_toList (key field : String) : (protocolSetting key field).toList =
    "protocol.".toList ++ (key.toList ++ '.' :: field.toList) := by
  simp [protocolSetting]

theorem protocolSetting_inj {key key' field field' : String} (hk : '.' ∉ key.toList)
    (hk' : '.' ∉ key'.toList) (h : protocolSetting key field = protocolSetting key' field') :
    key = key' ∧ field = field' := by
  have hlist := congrArg String.toList h
  rw [protocolSetting_toList, protocolSetting_toList] at hlist
  obtain ⟨hkey, hfield⟩ := cut_inj hk hk' (List.append_cancel_left hlist)
  exact ⟨String.toList_inj.mp hkey, String.toList_inj.mp hfield⟩

theorem isVpnSetting_protocol (key field : String) :
    isVpnSetting (protocolSetting key field) = false := by
  have hne : protocolSetting key field ≠ "current_ip" := by
    intro h
    have hlist := congrArg String.toList h
    rw [protocolSetting_toList] at hlist
    simp at hlist
  have hb : (protocolSetting key field == "current_ip") = false := by simpa using hne
  rw [isVpnSetting, hb, Bool.false_or]
  simp [startsWith, protocolSetting_toList, List.isPrefixOf]

namespace Db

variable {db : Db} {key key' field field' value now : String}

theorem record_eq : db.record key field value now =
    db.storeSetting (protocolSetting key field) value := by
  unfold record setSetting
  dsimp only
  rw [if_neg (by rw [isVpnSetting_protocol, Bool.false_and]; decide)]

@[simp] theorem recorded_self : (db.record key field value now).recorded key field = value := by
  rw [record_eq, recorded, setting, lookup_storeSetting_self]
  rfl

theorem recorded_clearServerAndAezaState {timestamp : String} :
    (db.clearServerAndAezaState timestamp).recorded key field = "" := by
  have hreset : isReset (protocolSetting key field) = true := by
    have hlike : keyLike "protocol.%" (protocolSetting key field) = true := by
      rw [keyLike, protocolSetting_toList]
      have hword : '%' ∉ "protocol.".toList := by decide
      exact Sql.like_append_percent hword _
    rw [isReset, Bool.or_eq_true]
    exact .inr (List.any_eq_true.mpr ⟨"protocol.%", by decide, hlike⟩)
  have hne {other : String} (h : "protocol.".toList.isPrefixOf other.toList = false) :
      protocolSetting key field ≠ other := by
    rintro rfl
    rw [protocolSetting_toList] at h
    exact absurd (List.isPrefixOf_iff_prefix.mpr (List.prefix_append _ _)) (Bool.eq_false_iff.mp h)
  rw [recorded, setting, lookup_clearServerAndAezaState (hne (by decide)) (hne (by decide))
    (hne (by decide)), if_pos hreset]
  rfl

theorem recorded_of_ne (h : protocolSetting key' field' ≠ protocolSetting key field) :
    (db.record key field value now).recorded key' field' = db.recorded key' field' := by
  rw [record_eq, recorded, setting, lookup_storeSetting_of_ne _ h]
  rfl

theorem recorded_field (hk : '.' ∉ key.toList) (h : field' ≠ field) :
    (db.record key field value now).recorded key field' = db.recorded key field' :=
  recorded_of_ne fun he => h (protocolSetting_inj hk hk he).2

theorem recorded_key (hk : '.' ∉ key.toList) (hk' : '.' ∉ key'.toList) (h : key' ≠ key) :
    (db.record key field value now).recorded key' field' = db.recorded key' field' :=
  recorded_of_ne fun he => h (protocolSetting_inj hk' hk he).1

end Db

/-- The moment that a field of a record speaks of. -/
def momentOf (s : String) : Option String := if s = "" then none else some s

/-- The checks of a protocol, by their kind. -/
def checksOf (checks : List ProtocolCheck) (key : String) (transport : Bool) : List ProtocolCheck :=
  checks.filter fun c => c.key == key && c.transport == transport

def signsOf (checks : List ProtocolCheck) : List (Sign × String) :=
  checks.map fun c => (c.status.sign, c.checkedAt)

def lastGood (checks : List ProtocolCheck) : Option String :=
  (checks.filter (·.status.isGood)).getLast?.map (·.checkedAt)

/-- A record is that of the checks: what the last one found, when the last good one was, and when
the failure began that they end with. -/
structure RecordOf (checks : List ProtocolCheck) (status lastOk failedSince : String) : Prop where
  status : status = ((checks.getLast?.map (·.status.text)).getD "")
  lastOk : momentOf lastOk = lastGood checks
  failed : Streak.Begun (signsOf checks) (momentOf failedSince)

/-- What each record of a protocol says. -/
structure Faithful (w : StatusWorld) (key : String) : Prop where
  deep : RecordOf (checksOf w.checks key false) (w.db.recorded key "status")
    (w.db.recorded key "last_ok_at") (w.db.recorded key "failed_since")
  transport : RecordOf (checksOf w.checks key true) (w.db.recorded key "transport_status")
    (w.db.recorded key "transport_last_ok_at") (w.db.recorded key "transport_failed_since")

theorem checksOf_append (checks : List ProtocolCheck) (c : ProtocolCheck) (key : String)
    (transport : Bool) : checksOf (checks ++ [c]) key transport =
      if c.key = key ∧ c.transport = transport then checksOf checks key transport ++ [c]
      else checksOf checks key transport := by
  rw [checksOf, List.filter_append, checksOf]
  by_cases h : c.key = key ∧ c.transport = transport
  · rw [if_pos h]
    simp [h]
  · rw [if_neg h]
    have hfalse : (c.key == key && c.transport == transport) = false := by
      simpa using h
    simp [hfalse]

theorem lastGood_append (checks : List ProtocolCheck) (c : ProtocolCheck) :
    lastGood (checks ++ [c]) = if c.status.isGood then some c.checkedAt else lastGood checks := by
  rw [lastGood, List.filter_append, lastGood]
  cases hgood : c.status.isGood with
  | true => simp [hgood]
  | false => simp [hgood]

theorem signsOf_append (checks : List ProtocolCheck) (c : ProtocolCheck) :
    signsOf (checks ++ [c]) = signsOf checks ++ [(c.status.sign, c.checkedAt)] := by
  simp [signsOf]

theorem RecordOf.next {checks : List ProtocolCheck} {status lastOk failedSince : String}
    (h : RecordOf checks status lastOk failedSince) {c : ProtocolCheck}
    {lastOk' failedSince' : String} (hat : c.status = .notConfigured ∨ c.checkedAt ≠ "")
    (hok : lastOk' = if c.status.isGood then c.checkedAt else lastOk)
    (hfailed : failedSince' = match c.status.sign with
      | .silent => failedSince
      | .ends => ""
      | .fails => if failedSince = "" then c.checkedAt else failedSince) :
    RecordOf (checks ++ [c]) c.status.text lastOk' failedSince' := by
  refine ⟨by simp, ?_, ?_⟩
  · rw [lastGood_append, hok]
    cases hgood : c.status.isGood with
    | true =>
      have hne : c.checkedAt ≠ "" := by
        rcases hat with hs | hne
        · rw [hs] at hgood
          cases hgood
        · exact hne
      simp [momentOf, hne]
    | false => exact h.lastOk
  · rw [signsOf_append, hfailed]
    cases hsign : c.status.sign with
    | silent => exact Streak.begun_silent h.failed c.checkedAt
    | ends => exact Streak.begun_ends (signsOf checks) c.checkedAt
    | fails =>
      have hne : c.checkedAt ≠ "" := by
        rcases hat with hs | hne
        · rw [hs] at hsign
          cases hsign
        · exact hne
      have hnext := Streak.begun_fails h.failed c.checkedAt
      by_cases hs : failedSince = ""
      · simpa [momentOf, hs, hne] using hnext
      · simpa [momentOf, hs] using hnext

/-! Rows. -/

section

variable {db : Db} {p : Protocol} {checkedAt now : String} {probe : Option ProbeResult}
  {deep : Option Bool}

theorem computeStatus_ne (p : Protocol) (probeOk deep : Option Bool) :
    computeStatus p probeOk deep ≠ .notConfigured := by
  unfold computeStatus
  repeat' split
  all_goals nofun

theorem transportStatus_ne (p : Protocol) (probe : Option ProbeResult) :
    Db.transportStatus p probe ≠ .notConfigured := by
  unfold Db.transportStatus
  repeat' split
  all_goals nofun

/-- The fields of a record that a check with a status writes, and those of the other kind, which it
leaves. -/
structure RowWrites (db after : Db) (key lead : String) (others : List String) (c : ProtocolCheck) :
    Prop where
  status : after.recorded key (lead ++ "status") = c.status.text
  lastOk : after.recorded key (lead ++ "last_ok_at") =
    if c.status.isGood then c.checkedAt else db.recorded key (lead ++ "last_ok_at")
  failed : after.recorded key (lead ++ "failed_since") = match c.status.sign with
    | .silent => db.recorded key (lead ++ "failed_since")
    | .ends => ""
    | .fails => if db.recorded key (lead ++ "failed_since") = "" then c.checkedAt
      else db.recorded key (lead ++ "failed_since")
  others : ∀ field ∈ others, after.recorded key field = db.recorded key field

def deepFields : List String := ["status", "last_ok_at", "failed_since"]

def transportFields : List String :=
  ["transport_status", "transport_last_ok_at", "transport_failed_since"]

theorem writes_unconfigured (hp : '.' ∉ p.key.toList) :
    RowWrites db (db.recordUnconfigured p now) p.key "" transportFields
      ⟨p.key, false, .notConfigured, now⟩ := by
  constructor
  all_goals simp [Db.recordUnconfigured, Db.recorded_field hp, ProtocolStatus.isGood,
    ProtocolStatus.sign, transportFields]

theorem writes_status (hp : '.' ∉ p.key.toList) :
    RowWrites db (db.recordStatus p checkedAt probe deep now) p.key "" transportFields
      ⟨p.key, false, computeStatus p (probe.map (·.ok)) deep, checkedAt⟩ := by
  have hne := computeStatus_ne p (probe.map (·.ok)) deep
  unfold Db.recordStatus
  generalize computeStatus p (probe.map (·.ok)) deep = status at hne ⊢
  cases status with
  | notConfigured => exact absurd rfl hne
  | failed =>
    by_cases hold : db.recorded p.key "failed_since" = ""
    · constructor
      all_goals simp [Db.recorded_field hp, ProtocolStatus.isGood, ProtocolStatus.sign,
        transportFields, hold]
    · constructor
      all_goals simp [Db.recorded_field hp, ProtocolStatus.isGood, ProtocolStatus.sign,
        transportFields, hold]
  | _ =>
    constructor
    all_goals simp [Db.recorded_field hp, ProtocolStatus.isGood, ProtocolStatus.sign,
      transportFields]

theorem writes_transport (hp : '.' ∉ p.key.toList) :
    RowWrites db (db.recordTransport p checkedAt probe now) p.key "transport_" deepFields
      ⟨p.key, true, Db.transportStatus p probe, checkedAt⟩ := by
  have hne := transportStatus_ne p probe
  unfold Db.recordTransport
  generalize Db.transportStatus p probe = status at hne ⊢
  cases status with
  | notConfigured => exact absurd rfl hne
  | failed =>
    by_cases hold : db.recorded p.key "transport_failed_since" = ""
    · constructor
      all_goals simp [Db.recorded_field hp, ProtocolStatus.isGood, ProtocolStatus.sign,
        deepFields, hold]
    · constructor
      all_goals simp [Db.recorded_field hp, ProtocolStatus.isGood, ProtocolStatus.sign,
        deepFields, hold]
  | _ =>
    constructor
    all_goals simp [Db.recorded_field hp, ProtocolStatus.isGood, ProtocolStatus.sign, deepFields]

/-! A check of one protocol leaves the records of the others. -/

section

variable {key field : String} (hp : '.' ∉ p.key.toList) (hk : '.' ∉ key.toList) (h : key ≠ p.key)

include hp hk h

theorem other_unconfigured :
    (db.recordUnconfigured p now).recorded key field = db.recorded key field := by
  simp only [Db.recordUnconfigured, Db.recorded_key hp hk h]

theorem other_status :
    (db.recordStatus p checkedAt probe deep now).recorded key field = db.recorded key field := by
  unfold Db.recordStatus
  dsimp only
  rw [Db.recorded_key hp hk h]
  repeat' split
  all_goals simp only [Db.recorded_key hp hk h]

theorem other_transport :
    (db.recordTransport p checkedAt probe now).recorded key field = db.recorded key field := by
  unfold Db.recordTransport
  dsimp only
  rw [Db.recorded_key hp hk h]
  repeat' split
  all_goals simp only [Db.recorded_key hp hk h]

end

end

theorem protocol_key {p : Protocol} (hp : p ∈ protocols) : '.' ∉ p.key.toList := by
  revert p
  decide

section

variable {w : StatusWorld} {db' : Db} {c : ProtocolCheck} {key : String}

theorem faithful_elsewhere (h : Faithful w key) (hc : c.key ≠ key)
    (hsame : ∀ field, db'.recorded key field = w.db.recorded key field) :
    Faithful ⟨db', w.checks ++ [c]⟩ key := by
  refine ⟨?_, ?_⟩
  · show RecordOf (checksOf (w.checks ++ [c]) key false) (db'.recorded key _) _ _
    rw [checksOf_append, if_neg (fun h => hc h.1), hsame, hsame, hsame]
    exact h.deep
  · show RecordOf (checksOf (w.checks ++ [c]) key true) (db'.recorded key _) _ _
    rw [checksOf_append, if_neg (fun h => hc h.1), hsame, hsame, hsame]
    exact h.transport

theorem faithful_deep (h : Faithful w c.key) (ht : c.transport = false)
    (hat : c.status = .notConfigured ∨ c.checkedAt ≠ "")
    (hw : RowWrites w.db db' c.key "" transportFields c) :
    Faithful ⟨db', w.checks ++ [c]⟩ c.key := by
  have hstatus : db'.recorded c.key "status" = c.status.text := hw.status
  refine ⟨?_, ?_⟩
  · show RecordOf (checksOf (w.checks ++ [c]) c.key false) (db'.recorded c.key _) _ _
    rw [checksOf_append, if_pos ⟨rfl, ht⟩, hstatus]
    exact h.deep.next hat hw.lastOk hw.failed
  · show RecordOf (checksOf (w.checks ++ [c]) c.key true) (db'.recorded c.key _) _ _
    rw [checksOf_append, if_neg (fun h => by rw [ht] at h; exact absurd h.2 (by decide)),
      hw.others _ (by simp [transportFields]), hw.others _ (by simp [transportFields]),
      hw.others _ (by simp [transportFields])]
    exact h.transport

theorem faithful_transport (h : Faithful w c.key) (ht : c.transport = true)
    (hat : c.status = .notConfigured ∨ c.checkedAt ≠ "")
    (hw : RowWrites w.db db' c.key "transport_" deepFields c) :
    Faithful ⟨db', w.checks ++ [c]⟩ c.key := by
  have hstatus : db'.recorded c.key "transport_status" = c.status.text := hw.status
  refine ⟨?_, ?_⟩
  · show RecordOf (checksOf (w.checks ++ [c]) c.key false) (db'.recorded c.key _) _ _
    rw [checksOf_append, if_neg (fun h => by rw [ht] at h; exact absurd h.2 (by decide)),
      hw.others _ (by simp [deepFields]), hw.others _ (by simp [deepFields]),
      hw.others _ (by simp [deepFields])]
    exact h.deep
  · show RecordOf (checksOf (w.checks ++ [c]) c.key true) (db'.recorded c.key _) _ _
    rw [checksOf_append, if_pos ⟨rfl, ht⟩, hstatus]
    exact h.transport.next hat hw.lastOk hw.failed

end

/-- Every record is that of the protocol's own checks. -/
def AllFaithful (w : StatusWorld) : Prop := ∀ p ∈ protocols, Faithful w p.key

section

variable {w : StatusWorld} {p : Protocol} {checkedAt now : String}

theorem faithful_unconfigure (h : AllFaithful w) (hp : p ∈ protocols) :
    AllFaithful (w.unconfigure p now) := by
  intro q hq
  by_cases he : q.key = p.key
  · rw [he]
    exact faithful_deep (c := ⟨p.key, false, .notConfigured, now⟩) (h p hp) rfl (.inl rfl)
      (writes_unconfigured (protocol_key hp))
  · exact faithful_elsewhere (h q hq) (fun hk => he hk.symm) fun _ =>
      other_unconfigured (protocol_key hp) (protocol_key hq) he

theorem faithful_refresh (h : AllFaithful w) (hp : p ∈ protocols) (hat : checkedAt ≠ "")
    (probe : Option ProbeResult) (deep : Option Bool) :
    AllFaithful (w.refresh p checkedAt probe deep now) := by
  intro q hq
  by_cases he : q.key = p.key
  · rw [he]
    exact faithful_deep (c := ⟨p.key, false, _, checkedAt⟩) (h p hp) rfl (.inr hat)
      (writes_status (protocol_key hp))
  · exact faithful_elsewhere (h q hq) (fun hk => he hk.symm) fun _ =>
      other_status (protocol_key hp) (protocol_key hq) he

theorem faithful_refreshTransport (h : AllFaithful w) (hp : p ∈ protocols) (hat : checkedAt ≠ "")
    (probe : Option ProbeResult) : AllFaithful (w.refreshTransport p checkedAt probe now) := by
  intro q hq
  by_cases he : q.key = p.key
  · rw [he]
    exact faithful_transport (c := ⟨p.key, true, _, checkedAt⟩) (h p hp) rfl (.inr hat)
      (writes_transport (protocol_key hp))
  · exact faithful_elsewhere (h q hq) (fun hk => he hk.symm) fun _ =>
      other_transport (protocol_key hp) (protocol_key hq) he

end

theorem faithful_empty {w : StatusWorld} (hc : w.checks = [])
    (he : ∀ p ∈ protocols, ∀ field, w.db.recorded p.key field = "") : AllFaithful w := by
  intro p hp
  have hempty (transport : Bool) : RecordOf (checksOf w.checks p.key transport) "" "" "" := by
    rw [hc]
    exact ⟨rfl, rfl, Streak.begun_nil⟩
  refine ⟨?_, ?_⟩
  · rw [he p hp, he p hp, he p hp]
    exact hempty false
  · rw [he p hp, he p hp, he p hp]
    exact hempty true

theorem faithful_move {w w' : StatusWorld} (h : AllFaithful w) (hm : StatusMove w w') :
    AllFaithful w' := by
  cases hm with
  | unconfigured hp now => exact faithful_unconfigure h hp
  | checked hp probe deep now hat => exact faithful_refresh h hp hat probe deep
  | probed hp probe now hat => exact faithful_refreshTransport h hp hat probe
  | reset hreset =>
    obtain ⟨-, rfl⟩ := Db.resetServerAndAezaState_ok hreset
    exact faithful_empty rfl fun _ _ _ => Db.recorded_clearServerAndAezaState
  | other hsame =>
    intro p hp
    refine ⟨?_, ?_⟩
    · rw [hsame p hp, hsame p hp, hsame p hp]
      exact (h p hp).deep
    · rw [hsame p hp, hsame p hp, hsame p hp]
      exact (h p hp).transport

end Server

open Server in
/-- However the rows of refreshes of the statuses and of the transport interleave with each other, with
resets and with what others write, the record of each protocol is that of its own checks of each kind
since the last reset: the status is what the last one found, the last good moment is that of the last
good one, and the failure began at the first failing check that none has ended since, whatever unknown
results lie between. -/
theorem protocol_records {w w' : StatusWorld} (hc : w.checks = [])
    (he : ∀ p ∈ protocols, ∀ field, w.db.recorded p.key field = "") (h : StatusRuns w w') :
    ∀ p ∈ protocols, Faithful w' p.key := by
  induction h with
  | refl => exact faithful_empty hc he
  | tail _ hm ih => exact faithful_move ih hm

namespace StatusSample

open Server

def empty : Db where
  settings := []
  clients := []
  routers := []
  peers := []
  credentials := []
  desiredRevision := 0
  appliedRevision := none
  snapshots := fun _ => none
  installOperations := []
  ipOperations := []
  serverOperations := []
  lease := none
  clientSequence := 0
  installSequence := 0
  ipSequence := 0
  serverSequence := 0

def begin : StatusWorld := ⟨empty, []⟩

/-- A refresh in which nothing answers and nothing is verified but the tunnel. -/
def failing (w : StatusWorld) (checkedAt : String) : StatusWorld :=
  w.finishRefresh (fun _ => some 443) (fun _ => none)
    (fun key => if key = "hysteria_salamander" then some true else none) checkedAt checkedAt

/-- A reset after two rounds, with a round after it. -/
def again : StatusWorld :=
  failing ⟨(failing (failing begin "t1") "t2").db.clearServerAndAezaState "t3", []⟩ "t4"

end StatusSample

open Server StatusSample in
theorem protocol_records_failing : (∀ p ∈ protocols, Faithful again p.key) ∧
    (failing (failing begin "t1") "t2").db.recorded "vless" "failed_since" = "t1" ∧
    again.db.recorded "vless" "failed_since" = "t4" ∧
    again.db.recorded "hysteria_salamander" "last_ok_at" = "t4" := by
  have hround (w : StatusWorld) {checkedAt : String} (h : checkedAt ≠ "") :
      StatusRuns w (failing w checkedAt) := finishRefresh_rows w _ _ _ _ h
  have hreset (w : StatusWorld) (h : w.db.activeOperationOwner.isSome = false) :
      StatusRuns w ⟨w.db.clearServerAndAezaState "t3", []⟩ :=
    .single (.reset (by rw [Db.resetServerAndAezaState, h]; rfl))
  have hruns : StatusRuns begin again :=
    (((hround begin (show "t1" ≠ "" by decide)).trans (hround _ (show "t2" ≠ "" by decide))).trans
      (hreset _ (by decide))).trans (hround _ (by decide))
  exact ⟨protocol_records rfl (fun _ _ _ => rfl) hruns, by decide, by decide, by decide⟩

end AutoVPN
