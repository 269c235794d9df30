import AutoVPN.Server.IpChange
import AutoVPN.Server.SnapshotStore

/-! The rotations of one operation over time: runs that may stop at any call, recoveries and
other work between them, and the deeds that all of it leaves behind. -/

namespace AutoVPN

open Server Server.Db

namespace Server

def Db.loadIpChangeSnapshot (db : Db) (operationId : Nat) :
    Except String (IpOperation × CapturedVpnConfig) :=
  match db.findIp operationId with
  | none => .error "IP change operation has no bound VPN snapshot"
  | some row =>
    match row.revision.bind db.snapshots with
    | none => .error "IP change operation has no bound VPN snapshot"
    | some snapshot =>
      match capturedVpnConfigFromJson snapshot.payload with
      | none => .error "Unsupported captured VPN configuration schema"
      | some config => .ok (row, config)

/-- What a call did to the provider, to the VPN server or to what is published; `unsettled`
stands for a lost write that was to settle the published operation. -/
inductive Deed
  | addIpv4
  | makeMainIpv4 (id : String)
  | remoteApply (host : String) (applied : Bool)
  | verified (host : String)
  | publish (newIp : String)
  | deleteIpv4 (id : String)
  | unsettled
  deriving DecidableEq

def exitedZero (r : Except Failure Int) : Bool :=
  match r with
  | .ok exitCode => exitCode == 0
  | .error _ => false

/-- The update belongs to what follows the publication. -/
def IpPatch.settles (p : IpPatch) : Bool :=
  p.status == some .done || p.actionState == some .cleanupAmbiguous

def RotationCall.deed (config : Option CapturedVpnConfig) : (c : RotationCall) → c.Answer → Option Deed
  | .addIpv4, _ => some .addIpv4
  | .makeMainIpv4 id, _ => some (.makeMainIpv4 id)
  | .remoteApply host _, r => some (.remoteApply host (exitedZero r))
  | .deepChecks host, .ok results =>
    if config.any fun config => (Rotation.failedProtocols config results).isEmpty then
      some (.verified host)
    else none
  | .publish newIp _, .ok _ => some (.publish newIp)
  | .deleteIpv4 id, _ => some (.deleteIpv4 id)
  | .setHealthcheck status, .error _ => if status = "WARNING" then some .unsettled else none
  | .update p, .error _ => if p.settles then some .unsettled else none
  | _, _ => none

/-- A deed, with the database as the call found it and the configuration of its run. -/
structure Mark where
  deed : Deed
  row : Option IpOperation
  desiredRevision : Nat
  config : Option CapturedVpnConfig

/-- The past of an operation: the configuration of its last run, the addresses listed before
the purchase, the answer to the purchase, the address taken for the new one, and the deeds. -/
structure RotationPast where
  config : Option CapturedVpnConfig
  known : List AezaIpv4
  created : Option AezaIpv4
  accepted : Option (String × String)
  marks : List Mark

namespace RotationPast

def deeds (past : RotationPast) : List Deed := past.marks.map (·.deed)

def note (past : RotationPast) (operationId : Nat) (db : Db) (deed : Option Deed) : RotationPast :=
  match deed with
  | none => past
  | some deed =>
    { past with
      marks := past.marks ++ [⟨deed, db.findIp operationId, db.desiredRevision, past.config⟩] }

/-- What the call and its answer add besides the deed. -/
def learn (past : RotationPast) : (c : RotationCall) → c.Answer → RotationPast
  | .loadSnapshot, .ok loaded => { past with config := some loaded.2 }
  | .getIpv4List, .ok list =>
    if past.deeds.contains .addIpv4 then past else { past with known := list }
  | .addIpv4, .ok created => { past with created := some created }
  | .update p, _ =>
    match p.newIpId with
    | none => past
    | some id => { past with accepted := some (id, p.newIp.getD "") }
  | _, _ => past

def next (past : RotationPast) (operationId : Nat) (db : Db) (c : RotationCall) (r : c.Answer) :
    RotationPast :=
  (past.note operationId db (c.deed past.config r)).learn c r

end RotationPast

structure RotationWorld where
  db : Db
  past : RotationPast

def rotationEffect (env : Environment) (operationId : Nat) :
    (c : RotationCall) → Db → c.Answer → Db → Prop
  | .loadSnapshot, db, r, db' =>
    db' = db ∧ ((∃ loaded, db.loadIpChangeSnapshot operationId = .ok loaded ∧ r = .ok loaded) ∨
      ∃ f, r = .error f)
  | .desiredRevision, db, r, db' =>
    db' = db ∧ (r = .ok db.desiredRevision ∨ ∃ f, r = .error f)
  | .update p, db, r, db' =>
    (r = .ok () ∧ ∃ now, db' = db.updateOperation operationId p now) ∨
      ∃ f, r = .error f ∧ db' = db
  | .publish newIp healthcheckResult, db, r, db' =>
    (∃ timestamp, r = .ok db'.desiredRevision ∧
      db.publishIpChange env operationId
        ⟨newIp, healthcheckResult, none, none, timestamp⟩ = .ok db') ∨
      ∃ f, r = .error f ∧ db' = db
  | .setHealthcheck status, db, r, db' =>
    (r = .ok () ∧ ∃ timestamp, db' = db.setSetting "last_healthcheck_status" status timestamp) ∨
      ∃ f, r = .error f ∧ db' = db
  | .actionState, db, r, db' =>
    db' = db ∧ (r = .ok ((db.findIp operationId).map (·.actionState)) ∨ ∃ f, r = .error f)
  | _, db, _, db' => db' = db

/-- The row of the operation stays; anything else may change. -/
def KeepsIp (operationId : Nat) (db db' : Db) : Prop :=
  ∀ row, db.findIp operationId = some row → db'.findIp operationId = some row

/-- A condition on the answers to the calls of the runs. -/
abbrev RotationCondition := (c : RotationCall) → RotationWorld → c.Answer → Prop

/-- A call that is answered within the condition; other work may come before it. -/
def rotationStep (env : Environment) (operationId : Nat) (C : RotationCondition)
    (c : RotationCall) (s : RotationWorld) (r : c.Answer) (s' : RotationWorld) : Prop :=
  C c s r ∧ ∃ db, KeepsIp operationId s.db db ∧ rotationEffect env operationId c db r s'.db ∧
    s'.past = s.past.next operationId db c r

inductive RotationMove (operationId : Nat) (s : RotationWorld) : RotationWorld → Prop
  | recover (reason : String) :
    RotationMove operationId s { s with db := s.db.recoverIncompleteVpsOperations reason }
  | acquire {owner : LeaseOwner} {now : Nat} {db' : Db}
    (h : s.db.acquireVpsLease owner now = .ok db') : RotationMove operationId s { s with db := db' }
  | reconcile {note : String} {db' : Db} (h : s.db.reconcileIpOperation operationId note = .ok db') :
    RotationMove operationId s { s with db := db' }
  | other {db' : Db} (h : KeepsIp operationId s.db db') :
    RotationMove operationId s { s with db := db' }

/-- A run from its start to its end, or to the call that it does not survive. -/
inductive RotationLife (e : RotationEnvironment) (env : Environment) (operationId : Nat)
    (C : RotationCondition) (s : RotationWorld) : RotationWorld → Prop
  | move {s' : RotationWorld} (h : RotationMove operationId s s') :
    RotationLife e env operationId C s s'
  | run {s' : RotationWorld} {tr : List (Program.Event RotationCall RotationCall.Answer)}
    {o : Option (Except Failure Unit)}
    (h : Program.Exec (rotationStep env operationId C) (Rotation.runIpChange e).run s tr s' o) :
    RotationLife e env operationId C s s'

abbrev RotationLives (e : RotationEnvironment) (env : Environment) (operationId : Nat)
    (C : RotationCondition) : RotationWorld → RotationWorld → Prop :=
  Relation.ReflTransGen (RotationLife e env operationId C)

end Server

end AutoVPN
