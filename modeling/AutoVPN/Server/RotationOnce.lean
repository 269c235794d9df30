import AutoVPN.Server.Course
import AutoVPN.Server.Lookup

/-! Every rotation follows the course, each deed with its record in the database before it. -/

namespace AutoVPN

open Server Server.Db

namespace Server

/-- What the database records before a deed. -/
def Mark.Recorded (config : CapturedVpnConfig) (old new : AezaIpv4) (x : Mark) : Prop :=
  x.config = some config ∧ ∃ row, x.row = some row ∧
    match x.deed with
    | .addIpv4 => row.actionState = .purchaseSending ∧ row.purchaseState = .sending
    | .makeMainIpv4 id =>
      row.purchaseState = .confirmed ∧ row.newIpId = some new.id ∧
        ((row.actionState = .makeMainSending ∧ row.makeMainState = .sending ∧ id = new.id) ∨
          (row.actionState = .rollingBack ∧ row.rollbackOutcome = some "SENDING" ∧
            row.oldIpId = some id))
    | .remoteApply host _ =>
      row.actionState = .applying ∧ row.applyState = .running ∧ row.newIp = some host
    | .verified host => row.newIp = some host
    | .publish newIp => row.newIp = some newIp ∧ row.revision = some x.desiredRevision
    | .deleteIpv4 id =>
      row.actionState = .cleanupSending ∧ row.oldIpId = some id ∧ row.newIpId = some new.id ∧
        id = old.id
    | .unsettled => True

/-- The deeds have led to `stage`, each one recorded. -/
structure Track (P : List AezaIpv4 → AezaIpv4 → AezaIpv4 → Prop) (config : CapturedVpnConfig)
    (old new : AezaIpv4) (stage : Stage) (past : RotationPast) : Prop where
  course : Course config old new stage past.deeds
  recorded : ∀ x ∈ past.marks, x.Recorded config old new
  accepted : ∀ a, past.accepted = some a → a = (new.id, new.ip) ∧ P past.known old new
  fresh : stage = .idle → past.accepted = none
  settled : stage ≠ .idle → stage ≠ .bought → past.accepted.isSome = true

/-- What the row of an operation that has acted does not deny. -/
def IpOperation.Begun (o : IpOperation) : Prop :=
  o.purchaseState ≠ .notStarted ∧ o.actionState ≠ .notStarted

/-- Nothing has been done, or what has been done follows the course. -/
def Lawful (P : List AezaIpv4 → AezaIpv4 → AezaIpv4 → Prop) (past : RotationPast) : Prop :=
  (past.marks = [] ∧ past.accepted = none) ∨
    ∃ config old new stage, Track P config old new stage past

/-- The past is lawful, and the row does not deny it. -/
def Honest (P : List AezaIpv4 → AezaIpv4 → AezaIpv4 → Prop) (operationId : Nat)
    (s : RotationWorld) : Prop :=
  Lawful P s.past ∧
    (s.past.marks ≠ [] → ∃ row, s.db.findIp operationId = some row ∧ row.Begun)

/-- The past is `past` and the row meets `K`. -/
structure Stands (operationId : Nat) (past : RotationPast) (K : IpOperation → Prop)
    (s : RotationWorld) : Prop where
  past_eq : s.past = past
  row : ∃ row, s.db.findIp operationId = some row ∧ K row

end Server

namespace Server.Db

theorem updateOperation_ipOperations (db : Db) (operationId : Nat) (p : IpPatch) (now : Nat) :
    (db.updateOperation operationId p now).ipOperations =
      (db.updateIp operationId p.apply).ipOperations := by
  unfold updateOperation
  dsimp only
  split <;> rfl

theorem findIp_updateOperation {db : Db} {operationId : Nat} {row : IpOperation}
    (h : db.findIp operationId = some row) (p : IpPatch) (now : Nat) :
    (db.updateOperation operationId p now).findIp operationId = some (p.apply row) := by
  rw [findIp_of_eq (updateOperation_ipOperations db operationId p now),
    findIp_updateIp db operationId (f := p.apply) (fun _ => rfl), h, Option.map_some,
    if_pos (by simpa using id_of_findIp h)]

theorem findIp_publishIpChange {env : Environment} {db db' : Db} {operationId : Nat}
    {p : IpPublication} (h : db.publishIpChange env operationId p = .ok db') :
    ∃ row, db.findIp operationId = some row ∧ row.revision = some db.desiredRevision ∧
      db'.findIp operationId = some { row with
        status := .running, currentStep := "delete_old_ipv4", actionState := .published,
        publishedRevision := some (db.desiredRevision + 1), publishedAt := some p.timestamp,
        healthcheckResult := some p.healthcheckResult } := by
  obtain ⟨row, snapshot, bound, hrow, hrevision, -, -, -, rfl⟩ := publishIpChange_ok h
  refine ⟨row, hrow, hrevision, ?_⟩
  have hstore : (db.publishedStore env bound db.desiredRevision p).purgeAppliedDeletedClients.findIp
      operationId = some row := by
    rw [← hrow]
    refine findIp_of_eq ?_ operationId
    rw [purge_eq, publishedStore_eq]
    rfl
  let publish : IpOperation → IpOperation := fun o => { o with
    status := .running, currentStep := "delete_old_ipv4", actionState := .published,
    publishedRevision := some (db.desiredRevision + 1), publishedAt := some p.timestamp,
    healthcheckResult := some p.healthcheckResult }
  rw [findIp_updateIp _ operationId (f := publish) (fun _ => rfl), hstore, Option.map_some,
    if_pos (by simpa using id_of_findIp hrow)]

theorem setSetting_ipOperations (db : Db) (key value timestamp : String) :
    (db.setSetting key value timestamp).ipOperations = db.ipOperations := by
  unfold setSetting
  dsimp only
  split <;> rfl

end Server.Db

namespace Server.RotationPast

theorem deeds_note (past : RotationPast) (operationId : Nat) (db : Db) (d : Deed) :
    (past.note operationId db (some d)).deeds = past.deeds ++ [d] := by
  simp [deeds, note]

end Server.RotationPast

namespace Server

variable {P : List AezaIpv4 → AezaIpv4 → AezaIpv4 → Prop} {config : CapturedVpnConfig}
  {old new : AezaIpv4} {stage stage' : Stage} {past : RotationPast}

theorem Track.note (h : Track P config old new stage past) {operationId : Nat} {db : Db} {d : Deed}
    (hc : Course config old new stage' (past.deeds ++ [d]))
    (hm : Mark.Recorded config old new
      ⟨d, db.findIp operationId, db.desiredRevision, past.config⟩)
    (hs : stage' = .bought ∨ (stage' ≠ .idle ∧ past.accepted.isSome = true)) :
    Track P config old new stage' (past.note operationId db (some d)) := by
  refine ⟨?_, fun x hx => ?_, h.accepted, fun hi => ?_, fun _ hb => (hs.resolve_left hb).2⟩
  · rw [RotationPast.deeds_note]
    exact hc
  · rcases List.mem_append.mp hx with hx | hx
    · exact h.recorded x hx
    · rw [List.mem_singleton.mp hx]
      exact hm
  · rcases hs with hs | hs
    · rw [hs] at hi
      cases hi
    · exact absurd hi hs.1

/-- The calls that neither act nor change what is known of the past or the row. -/
def Calm (past : RotationPast) (K : IpOperation → Prop) : RotationCall → Prop
  | .update p => p.settles = false ∧ p.newIpId = none ∧ ∀ row, K row → K (p.apply row)
  | .getIpv4List => past.deeds.contains .addIpv4 = true
  | .setHealthcheck status => status ≠ "WARNING"
  | .provider => True
  | .desiredRevision => True
  | .sleep => True
  | .tcpCheck _ => True
  | .buildScript => True
  | .actionState => True
  | _ => False

section

variable {env : Environment} {operationId : Nat} {C : RotationCondition} {K L : IpOperation → Prop}
  {s s' : RotationWorld}

theorem Stands.kept (hs : Stands operationId past K s) {db : Db} (h : KeepsIp operationId s.db db) :
    ∃ row, db.findIp operationId = some row ∧ K row := by
  obtain ⟨row, hrow, hK⟩ := hs.row
  exact ⟨row, h row hrow, hK⟩

theorem Stands.weaken (hs : Stands operationId past K s) (h : ∀ row, K row → L row) :
    Stands operationId past L s := by
  obtain ⟨row, hrow, hK⟩ := hs.row
  exact ⟨hs.past_eq, row, hrow, h row hK⟩

theorem update_step {p : IpPatch} (hs : Stands operationId past K s) (hp : p.newIpId = none)
    (hsettle : p.settles = false) (hK : ∀ row, K row → L (p.apply row))
    {r : RotationCall.Answer (.update p)} (h : rotationStep env operationId C (.update p) s r s') :
    (r = .ok () ∧ Stands operationId past L s') ∨
      ∃ f, r = .error f ∧ Stands operationId past K s' := by
  obtain ⟨-, db, hkeep, heffect, hpast⟩ := h
  obtain ⟨row, hrow, hk⟩ := hs.kept hkeep
  have hsame : s.past.next operationId db (.update p) r = past := by
    cases r <;>
      simp [RotationPast.next, RotationPast.note, RotationPast.learn, RotationCall.deed, hp, hsettle,
        hs.past_eq]
  rcases heffect with ⟨rfl, now, hdb⟩ | ⟨f, rfl, hdb⟩
  · refine .inl ⟨rfl, hpast.trans hsame, p.apply row, ?_, hK row hk⟩
    rw [hdb]
    exact findIp_updateOperation hrow p now
  · exact .inr ⟨f, rfl, hpast.trans hsame, row, by rw [hdb]; exact hrow, hk⟩

theorem Calm.step {c : RotationCall} (hc : Calm past K c) (hs : Stands operationId past K s)
    {r : c.Answer} (h : rotationStep env operationId C c s r s') :
    Stands operationId past K s' := by
  cases c with
  | update p =>
    rcases update_step hs hc.2.1 hc.1 hc.2.2 h with ⟨-, hs⟩ | ⟨f, -, hs⟩ <;> exact hs
  | getIpv4List =>
    obtain ⟨-, db, hkeep, hdb, hpast⟩ := h
    obtain ⟨row, hrow, hk⟩ := hs.kept hkeep
    refine ⟨hpast.trans ?_, row, by rw [hdb]; exact hrow, hk⟩
    have hbought : past.deeds.contains .addIpv4 = true := hc
    cases r with
    | error f => exact hs.past_eq
    | ok list => simp [RotationPast.next, RotationPast.note, RotationPast.learn, RotationCall.deed,
        hs.past_eq, List.contains_iff_mem.mp hbought]
  | setHealthcheck status =>
    obtain ⟨-, db, hkeep, heffect, hpast⟩ := h
    obtain ⟨row, hrow, hk⟩ := hs.kept hkeep
    have hw : status ≠ "WARNING" := hc
    refine ⟨hpast.trans ?_, row, ?_, hk⟩
    · cases r <;>
        simp [RotationPast.next, RotationPast.note, RotationPast.learn, RotationCall.deed,
          hs.past_eq, hw]
    · rcases heffect with ⟨-, t, hdb⟩ | ⟨f, -, hdb⟩
      · rw [hdb, findIp_of_eq (setSetting_ipOperations db _ _ t)]
        exact hrow
      · rw [hdb]
        exact hrow
  | desiredRevision | actionState =>
    obtain ⟨-, db, hkeep, heffect, hpast⟩ := h
    obtain ⟨row, hrow, hk⟩ := hs.kept hkeep
    refine ⟨hpast.trans ?_, row, by rw [heffect.1]; exact hrow, hk⟩
    cases r <;> exact hs.past_eq
  | provider | sleep | buildScript | tcpCheck =>
    obtain ⟨-, db, hkeep, hdb, hpast⟩ := h
    obtain ⟨row, hrow, hk⟩ := hs.kept hkeep
    refine ⟨hpast.trans ?_, row, by rw [hdb]; exact hrow, hk⟩
    cases r <;> exact hs.past_eq
  | _ => exact hc.elim

theorem act_step {c : RotationCall} (hs : Stands operationId past K s) {r : c.Answer}
    (h : rotationStep env operationId C c s r s')
    (hc : ∀ db r db', rotationEffect env operationId c db r db' → db' = db) :
    ∃ db row, db.findIp operationId = some row ∧ s'.db.findIp operationId = some row ∧ K row ∧
      s'.past = past.next operationId db c r := by
  obtain ⟨-, db, hkeep, heffect, hpast⟩ := h
  obtain ⟨row, hrow, hk⟩ := hs.kept hkeep
  exact ⟨db, row, hrow, by rw [hc db r s'.db heffect]; exact hrow, hk, by rw [hpast, hs.past_eq]⟩

/-- Where the past is lawful and the row does not deny it, wherever the row meets `K`. -/
def Sound (P : List AezaIpv4 → AezaIpv4 → AezaIpv4 → Prop) (past : RotationPast)
    (K : IpOperation → Prop) : Prop :=
  Lawful P past ∧ (past.marks ≠ [] → ∀ row, K row → row.Begun)

theorem Stands.honest (hs : Stands operationId past K s) (h : Sound P past K) :
    Honest P operationId s := by
  refine ⟨by rw [hs.past_eq]; exact h.1, fun hm => ?_⟩
  obtain ⟨row, hrow, hk⟩ := hs.row
  rw [hs.past_eq] at hm
  exact ⟨row, hrow, h.2 hm row hk⟩

end

namespace Rotation

open Program

section

variable {env : Environment} {operationId : Nat} {C : RotationCondition} {K L : IpOperation → Prop}
  {s s' : RotationWorld} {α : Type}

/-- The program keeps the past honest; it returns where `R` holds and raises where `E` does. -/
abbrev Keeps (P : List AezaIpv4 → AezaIpv4 → AezaIpv4 → Prop) (env : Environment)
    (operationId : Nat) (C : RotationCondition) (R : α → RotationWorld → Prop)
    (E : Failure → RotationWorld → Prop) (x : Rotation α) (s : RotationWorld) : Prop :=
  Sat (rotationStep env operationId C) (fun _ => Honest P operationId) (Ends R E) x.run s

theorem keeps_calm {x : Rotation α} (h : Uses (Calm past K) x.run) (hP : Sound P past K)
    (hs : Stands operationId past K s) :
    Keeps P env operationId C (fun _ => Stands operationId past K)
      (fun _ => Stands operationId past K) x s :=
  h.ends (fun _ _ _ _ hc hs h => hc.step hs h) (fun _ _ hs => hs.honest hP) hs

theorem keeps_update {p : IpPatch} (hs : Stands operationId past K s) (hP : Sound P past K)
    (hp : p.newIpId = none) (hsettle : p.settles = false) (hK : ∀ row, K row → L (p.apply row)) :
    Keeps P env operationId C (fun _ => Stands operationId past L)
      (fun _ => Stands operationId past K) (update p) s := by
  refine ⟨hs.honest hP, fun r s' h => ?_⟩
  rcases update_step hs hp hsettle hK h with ⟨rfl, hs⟩ | ⟨f, rfl, hs⟩ <;> exact hs

theorem uses_ask {Q : RotationCall → Prop} {c : RotationCall} (h : Q c) : Uses Q (ask c).run :=
  ⟨h, fun _ => trivial⟩

theorem uses_step {name : String} {p : IpPatch} (hp : p.newIpId = none)
    (ha : p.actionState ≠ some .cleanupAmbiguous)
    (hK : ∀ row, K row → K ({ p with status := some .running, currentStep := some name }.apply row)) :
    Uses (Calm past K) (step name p).run :=
  uses_ask ⟨by simp [IpPatch.settles, ha], hp, hK⟩

theorem uses_ensure (revision : Nat) : Uses (Calm past K) (ensureBoundRevisionCurrent revision).run := by
  unfold ensureBoundRevisionCurrent
  refine uses_bind (uses_ask trivial) fun _ => ?_
  split
  · exact uses_throw _
  · exact uses_pure _

theorem uses_pause (remaining : Nat) : Uses (Calm past K) (pause remaining).run := by
  unfold pause
  split
  · exact uses_pure _
  · exact uses_ask trivial

theorem uses_waitForMainIp (hb : past.deeds.contains .addIpv4 = true) (expected : AezaIpv4)
    (attempts : Nat) : Uses (Calm past K) (waitForMainIp expected attempts).run := by
  induction attempts with
  | zero => exact uses_throw _
  | succ remaining ih =>
    unfold waitForMainIp
    refine uses_bind (uses_ask hb) fun _ => ?_
    split
    · exact uses_pure _
    · exact uses_bind (uses_pause remaining) fun _ => ih

theorem uses_waitForSsh (host : String) (attempts : Nat) :
    Uses (Calm past K) (waitForSsh host attempts).run := by
  induction attempts with
  | zero => exact uses_throw _
  | succ remaining ih =>
    unfold waitForSsh
    refine uses_bind (uses_ask trivial) fun _ => ?_
    split
    · exact uses_pure _
    · exact uses_bind (uses_pause remaining) fun _ => ih

theorem keeps_once {c : RotationCall} {ambiguous : IpPatch} {R : c.Value → RotationWorld → Prop}
    {E : Failure → RotationWorld → Prop} (hs : Honest P operationId s)
    (hp : ambiguous.newIpId = none) (hsettle : ambiguous.settles = false)
    (hok : ∀ a s', rotationStep env operationId C c s (.ok a) s' → R a s')
    (herror : ∀ f s', rotationStep env operationId C c s (.error f) s' →
      ∃ past K, Stands operationId past K s' ∧ Sound P past K ∧
        (∀ row, K row → K (ambiguous.apply row)) ∧
        ∀ f s, Stands operationId past K s → E f s) :
    Keeps P env operationId C R E (once c ambiguous) s := by
  refine ends_tryCatch (E := fun _ s => ∃ past K, Stands operationId past K s ∧ Sound P past K ∧
    (∀ row, K row → K (ambiguous.apply row)) ∧
      ∀ f s, Stands operationId past K s → E f s) ⟨hs, fun r s' h => ?_⟩ ?_
  · cases r with
    | ok a => exact hok a s' h
    | error f => exact herror f s' h
  · rintro f s ⟨past, K, hs, hP, hK, hE⟩
    exact ends_bind (keeps_update hs hP hp hsettle hK) hE fun _ s hs => hE f s hs

end

/-- What the row tells once the new address has been named. -/
def Named (old new : AezaIpv4) (o : IpOperation) : Prop :=
  o.purchaseState = .confirmed ∧ o.actionState ≠ .notStarted ∧ o.oldIpId = some old.id ∧
    o.newIpId = some new.id ∧ o.newIp = some new.ip

theorem Named.begun {old new : AezaIpv4} {o : IpOperation} (h : Named old new o) : o.Begun :=
  ⟨by rw [h.1]; decide, h.2.1⟩

theorem Named.apply {old new : AezaIpv4} {o : IpOperation} (h : Named old new o) {p : IpPatch}
    (hpurchase : p.purchaseState = none) (haction : p.actionState ≠ some .notStarted)
    (hold : p.oldIpId = none) (hnew : p.newIpId = none) (hip : p.newIp = none) :
    Named old new (p.apply o) := by
  obtain ⟨hc, ha, ho, hn, hi⟩ := h
  refine ⟨?_, ?_, ?_, ?_, ?_⟩
  · simpa [IpPatch.apply, hpurchase] using hc
  · unfold IpPatch.apply
    cases hp : p.actionState with
    | none => simpa using ha
    | some a =>
      rw [hp] at haction
      simpa using haction
  · simpa [IpPatch.apply, hold] using ho
  · simpa [IpPatch.apply, hnew] using hn
  · simpa [IpPatch.apply, hip] using hi

/-- A stage of the course, with the new address named in the row. -/
structure Placed (P : List AezaIpv4 → AezaIpv4 → AezaIpv4 → Prop) (config : CapturedVpnConfig)
    (old new : AezaIpv4) (stage : Stage) (past : RotationPast) : Prop where
  track : Track P config old new stage past
  config_eq : past.config = some config
  accepted : past.accepted.isSome = true
  bought : past.deeds.contains .addIpv4 = true

theorem Placed.sound (h : Placed P config old new stage past) {K : IpOperation → Prop}
    (hK : ∀ row, K row → Named old new row) : Sound P past K :=
  ⟨.inr ⟨config, old, new, stage, h.track⟩, fun _ row hk => (hK row hk).begun⟩

theorem Placed.note (h : Placed P config old new stage past) {operationId : Nat} {db : Db}
    {d : Deed} (hc : Course config old new stage' (past.deeds ++ [d]))
    (hm : Mark.Recorded config old new
      ⟨d, db.findIp operationId, db.desiredRevision, some config⟩) (hs : stage' ≠ .idle) :
    Placed P config old new stage' (past.note operationId db (some d)) := by
  refine ⟨h.track.note hc (by rw [h.config_eq]; exact hm) (.inr ⟨hs, h.accepted⟩), h.config_eq,
    h.accepted, ?_⟩
  rw [RotationPast.deeds_note, List.contains_iff_mem, List.mem_append]
  exact .inl (List.contains_iff_mem.mp h.bought)

/-- The old address may be made main again. -/
def Reversible (P : List AezaIpv4 → AezaIpv4 → AezaIpv4 → Prop) (operationId : Nat)
    (oldIpId : String) (s : RotationWorld) : Prop :=
  ∃ config old new stage past, old.id = oldIpId ∧ stage.revertible = true ∧
    Placed P config old new stage past ∧ Stands operationId past (Named old new) s

section

variable {env : Environment} {operationId : Nat} {C : RotationCondition} {s : RotationWorld}

theorem Reversible.honest (h : Reversible P operationId old.id s) : Honest P operationId s := by
  obtain ⟨config, old, new, stage, past, -, -, hp, hs⟩ := h
  exact hs.honest (hp.sound fun _ h => h)

theorem reversible {K : IpOperation → Prop} (hp : Placed P config old new stage past)
    (hr : stage.revertible = true) (hK : ∀ row, K row → Named old new row)
    (hs : Stands operationId past K s) : Reversible P operationId old.id s :=
  ⟨config, old, new, stage, past, rfl, hr, hp, hs.weaken hK⟩

theorem keeps_sendMain (hp : Placed P config old new .bought past)
    (hs : Stands operationId past
      (fun o => Named old new o ∧ o.actionState = .makeMainSending ∧ o.makeMainState = .sending) s) :
    Keeps P env operationId C
      (fun _ s => ∃ past, Placed P config old new .main past ∧
        Stands operationId past (Named old new) s)
      (fun _ => Reversible P operationId old.id)
      (once (.makeMainIpv4 new.id)
        { actionState := some .ambiguous, makeMainState := some .ambiguous }) s := by
  have hcall : ∀ r s', rotationStep env operationId C (.makeMainIpv4 new.id) s r s' →
      ∃ past, Placed P config old new .main past ∧ Stands operationId past (Named old new) s' := by
    intro r s' h
    obtain ⟨db, row, hfind, hrow, ⟨hn, ha, hm⟩, hpast⟩ := act_step hs h fun _ _ _ h => h
    exact ⟨_, hp.note (.makeMainIpv4 hp.track.course)
      ⟨rfl, row, hfind, hn.1, hn.2.2.2.1, .inl ⟨ha, hm, rfl⟩⟩ nofun, hpast, row, hrow, hn⟩
  refine keeps_once (hs.honest (hp.sound fun _ h => h.1)) rfl rfl
    (fun a s' h => hcall _ s' h) fun f s' h => ?_
  obtain ⟨past, hp, hs⟩ := hcall _ s' h
  exact ⟨past, Named old new, hs, hp.sound fun _ h => h,
    fun row h => h.apply rfl (by simp) rfl rfl rfl,
    fun _ _ hs => reversible hp rfl (fun _ h => h) hs⟩

theorem keeps_apply (hp : Placed P config old new .main past)
    (hs : Stands operationId past (Named old new) s) :
    Keeps P env operationId C
      (fun _ s => ∃ past, Placed P config old new .applied past ∧
        Stands operationId past (Named old new) s)
      (fun _ => Reversible P operationId old.id) (applyBoundSnapshot new.ip) s := by
  let K : IpOperation → Prop := fun o => Named old new o ∧ o.actionState = .applying ∧
    o.applyState = .running
  have hK : ∀ row, K row → Named old new row := fun _ h => h.1
  unfold applyBoundSnapshot
  refine ends_bind (keeps_update (L := K) hs (hp.sound fun _ h => h) rfl rfl fun row h =>
      ⟨h.apply rfl (by simp) rfl rfl rfl, rfl, rfl⟩)
    (fun _ _ hs => reversible hp rfl (fun _ h => h) hs) fun _ s hs => ?_
  refine ends_bind (keeps_calm (uses_ask (c := .buildScript) trivial) (hp.sound hK) hs)
    (fun _ _ hs => reversible hp rfl hK hs) fun script s hs => ?_
  have hcall : ∀ r s', rotationStep env operationId C (.remoteApply new.ip script) s r s' →
      ∃ past, Placed P config old new (if exitedZero r then .applied else .refused) past ∧
        Stands operationId past (Named old new) s' := by
    intro r s' h
    obtain ⟨db, row, hfind, hrow, ⟨hn, ha, hm⟩, hpast⟩ := act_step hs h fun _ _ _ h => h
    have hrecord : Mark.Recorded config old new ⟨.remoteApply new.ip (exitedZero r),
        db.findIp operationId, db.desiredRevision, some config⟩ :=
      ⟨rfl, row, hfind, ha, hm, hn.2.2.2.2⟩
    refine ⟨_, hp.note ?_ hrecord ?_, hpast, row, hrow, hn⟩
    · cases exitedZero r with
      | false => exact .refused hp.track.course
      | true => exact .applied hp.track.course
    · split <;> nofun
  refine ends_bind (keeps_once (R := fun exitCode s => ∃ past, Placed P config old new
      (if exitedZero (.ok exitCode) then .applied else .refused) past ∧
        Stands operationId past (Named old new) s) (hs.honest (hp.sound hK)) rfl rfl
    (fun a s' h => hcall _ s' h) fun f s' h => ?_) (fun _ _ h => h) fun exitCode s h => ?_
  · obtain ⟨past, hp, hs⟩ := hcall _ s' h
    exact ⟨past, Named old new, hs, hp.sound fun _ h => h,
      fun row h => h.apply rfl (by simp) rfl rfl rfl,
      fun _ _ hs => reversible hp rfl (fun _ h => h) hs⟩
  · obtain ⟨past, hp, hs⟩ := h
    by_cases hzero : exitCode = 0
    · subst hzero
      rw [if_neg (by simp)]
      exact (keeps_update (L := Named old new) hs (hp.sound fun _ h => h) rfl rfl fun row h =>
        h.apply rfl (by simp) rfl rfl rfl).post fun r s h => by
          cases r with
          | ok _ => exact ⟨past, hp, h⟩
          | error f => exact reversible hp rfl (fun _ h => h) h
    · have hp : Placed P config old new .refused past := by simpa [exitedZero, hzero] using hp
      rw [if_pos hzero]
      refine ends_bind (keeps_update (L := Named old new) hs (hp.sound fun _ h => h) rfl rfl
        fun row h => h.apply rfl (by simp) rfl rfl rfl)
        (fun _ _ hs => reversible hp rfl (fun _ h => h) hs) fun _ s hs => ?_
      exact reversible hp rfl (fun _ h => h) hs

theorem keeps_verify (e : RotationEnvironment) (hp : Placed P config old new .applied past)
    (hs : Stands operationId past (Named old new) s) :
    Keeps P env operationId C
      (fun _ s => ∃ past, Placed P config old new .verified past ∧
        Stands operationId past (Named old new) s)
      (fun _ => Reversible P operationId old.id) (verifyProtocolHealth e new.ip config) s := by
  unfold verifyProtocolHealth
  refine ⟨hs.honest (hp.sound fun _ h => h), fun r s' h => ?_⟩
  obtain ⟨db, row, hfind, hrow, hn, hpast⟩ := act_step hs h fun _ _ _ h => h
  cases r with
  | error f => exact reversible hp rfl (fun _ h => h) ⟨hpast, row, hrow, hn⟩
  | ok results =>
    by_cases hfailed : (failedProtocols config results).isEmpty = true
    · have hdeed : (RotationCall.deepChecks new.ip).deed past.config (.ok results) =
          some (.verified new.ip) := by
        simp [RotationCall.deed, hp.config_eq, hfailed]
      have hnext : s'.past = past.note operationId db (some (.verified new.ip)) := by
        rw [hpast, RotationPast.next, hdeed]
        rfl
      have hv : Placed P config old new .verified (past.note operationId db (some (.verified new.ip))) :=
        hp.note (.verified hp.track.course) ⟨rfl, row, hfind, hn.2.2.2.2⟩ nofun
      show Sat _ _ _ (ExceptT.run (if _ then _ else _)) s'
      rw [if_pos hfailed]
      exact ⟨_, hv, hnext, row, hrow, hn⟩
    · have hdeed : (RotationCall.deepChecks new.ip).deed past.config (.ok results) = none := by
        simp [RotationCall.deed, hp.config_eq, hfailed]
      have hnext : s'.past = past := by
        rw [hpast, RotationPast.next, hdeed]
        rfl
      show Sat _ _ _ (ExceptT.run (if _ then _ else _)) s'
      rw [if_neg hfailed]
      exact reversible hp rfl (fun _ h => h) ⟨hnext, row, hrow, hn⟩

theorem keeps_stage {α : Type} {x : Rotation α} (h : Uses (Calm past (Named old new)) x.run)
    (hp : Placed P config old new stage past) (hr : stage.revertible = true)
    (hs : Stands operationId past (Named old new) s) :
    Keeps P env operationId C (fun _ => Stands operationId past (Named old new))
      (fun _ => Reversible P operationId old.id) x s :=
  (keeps_calm h (hp.sound fun _ h => h) hs).post fun r s h => by
    cases r with
    | ok a => exact h
    | error f => exact reversible hp hr (fun _ h => h) h

theorem uses_report {p : IpPatch} (hsettle : p.settles = false) (hpurchase : p.purchaseState = none)
    (haction : p.actionState ≠ some .notStarted) (hold : p.oldIpId = none) (hnew : p.newIpId = none)
    (hip : p.newIp = none) : Uses (Calm past (Named old new)) (update p).run :=
  uses_ask ⟨hsettle, hnew, fun _ h => h.apply hpurchase haction hold hnew hip⟩

theorem keeps_makeMain (e : RotationEnvironment) (hp : Placed P config old new .bought past)
    (hs : Stands operationId past (Named old new) s) :
    Keeps P env operationId C
      (fun _ s => ∃ past, Placed P config old new .verified past ∧
        Stands operationId past (Named old new) s)
      (fun _ => Reversible P operationId old.id) (makeMain e config new) s := by
  unfold makeMain
  refine ends_bind (keeps_update (L := fun o => Named old new o ∧
      o.actionState = .makeMainSending ∧ o.makeMainState = .sending) hs (hp.sound fun _ h => h) rfl
      rfl fun row h => ⟨h.apply rfl (by simp) rfl rfl rfl, rfl, rfl⟩)
    (fun _ _ hs => reversible hp rfl (fun _ h => h) hs) fun _ s hs => ?_
  refine ends_bind (keeps_sendMain hp hs) (fun _ _ h => h) fun _ s h => ?_
  obtain ⟨past, hp, hs⟩ := h
  refine ends_bind (keeps_stage (uses_report rfl rfl (by simp) rfl rfl rfl) hp rfl hs)
    (fun _ _ h => h) fun _ s hs => ?_
  refine ends_bind (keeps_stage (uses_report rfl rfl (by simp) rfl rfl rfl) hp rfl hs)
    (fun _ _ h => h) fun _ s hs => ?_
  refine ends_bind (keeps_stage (uses_waitForMainIp hp.bought new _) hp rfl hs)
    (fun _ _ h => h) fun _ s hs => ?_
  refine ends_bind (keeps_stage (uses_report rfl rfl (by simp) rfl rfl rfl) hp rfl hs)
    (fun _ _ h => h) fun _ s hs => ?_
  refine ends_bind (keeps_stage (uses_report rfl rfl (by simp) rfl rfl rfl) hp rfl hs)
    (fun _ _ h => h) fun _ s hs => ?_
  refine ends_bind (keeps_stage (uses_waitForSsh new.ip _) hp rfl hs)
    (fun _ _ h => h) fun _ s hs => ?_
  refine ends_bind (keeps_stage (uses_report rfl rfl (by simp) rfl rfl rfl) hp rfl hs)
    (fun _ _ h => h) fun _ s hs => ?_
  refine ends_bind (keeps_stage (uses_ensure _) hp rfl hs) (fun _ _ h => h) fun _ s hs => ?_
  refine ends_bind (keeps_apply hp hs) (fun _ _ h => h) fun _ s h => ?_
  obtain ⟨past, hp, hs⟩ := h
  refine ends_bind (keeps_stage (uses_ensure _) hp rfl hs) (fun _ _ h => h) fun _ s hs => ?_
  refine ends_bind (keeps_stage (uses_report rfl rfl (by simp) rfl rfl rfl) hp rfl hs)
    (fun _ _ h => h) fun _ s hs => ?_
  refine ends_bind (keeps_verify e hp hs) (fun _ _ h => h) fun health s h => ?_
  obtain ⟨past, hp, hs⟩ := h
  refine ends_bind (keeps_stage (uses_ensure _) hp rfl hs) (fun _ _ h => h) fun _ s hs => ?_
  refine ends_bind (keeps_stage (uses_report rfl rfl (by simp) rfl rfl rfl) hp rfl hs)
    (fun _ _ h => h) fun _ s hs => ?_
  exact ⟨past, hp, hs⟩

theorem keeps_publish (health : String) (hp : Placed P config old new .verified past)
    (hs : Stands operationId past (Named old new) s) :
    Keeps P env operationId C
      (fun _ s => ∃ past, Placed P config old new .published past ∧
        Stands operationId past (Named old new) s)
      (fun _ => Reversible P operationId old.id) (ask (.publish new.ip health)) s := by
  refine ⟨hs.honest (hp.sound fun _ h => h), fun r s' h => ?_⟩
  obtain ⟨-, db, hkeep, heffect, hpast⟩ := h
  obtain ⟨row, hrow, hn⟩ := hs.kept hkeep
  rcases heffect with ⟨timestamp, rfl, hpublish⟩ | ⟨f, rfl, hdb⟩
  · obtain ⟨found, hfound, hrevision, hpublished⟩ := findIp_publishIpChange hpublish
    obtain rfl : found = row := Option.some.inj (hfound.symm.trans hrow)
    refine ⟨_, hp.note (.publish hp.track.course)
      ⟨rfl, found, hrow, hn.2.2.2.2, hrevision⟩ nofun, ?_, _, hpublished, ?_⟩
    · rw [hpast, hs.past_eq]
      rfl
    · exact ⟨hn.1, nofun, hn.2.2⟩
  · exact reversible hp rfl (fun _ h => h) ⟨hpast.trans hs.past_eq, row, by rw [hdb]; exact hrow, hn⟩

/-- The new address is published; the old one may be deleted already. -/
def Published (P : List AezaIpv4 → AezaIpv4 → AezaIpv4 → Prop) (operationId : Nat)
    (config : CapturedVpnConfig) (old new : AezaIpv4) (s : RotationWorld) : Prop :=
  ∃ stage past, (stage = .published ∨ stage = .deleted) ∧ Placed P config old new stage past ∧
    Stands operationId past (Named old new) s

theorem Published.honest (h : Published P operationId config old new s) :
    Honest P operationId s := by
  obtain ⟨stage, past, -, hp, hs⟩ := h
  exact hs.honest (hp.sound fun _ h => h)

theorem keeps_settle {c : RotationCall} (hs : Published P operationId config old new s)
    (hok : ∀ db a db' row, db.findIp operationId = some row → Named old new row →
      rotationEffect env operationId c db (.ok a) db' →
      ∃ row, db'.findIp operationId = some row ∧ Named old new row)
    (herror : ∀ db f db', rotationEffect env operationId c db (.error f) db' → db' = db)
    (hnext : ∀ past : RotationPast, ∀ db a, past.next operationId db c (.ok a) = past)
    (hlost : ∀ past : RotationPast, ∀ db f,
      past.next operationId db c (.error f) = past.note operationId db (some .unsettled)) :
    Keeps P env operationId C (fun _ => Published P operationId config old new)
      (fun _ => Reversible P operationId old.id) (ask c) s := by
  refine ⟨hs.honest, fun r s' h => ?_⟩
  obtain ⟨stage, past, hstage, hp, hs⟩ := hs
  obtain ⟨-, db, hkeep, heffect, hpast⟩ := h
  obtain ⟨row, hrow, hn⟩ := hs.kept hkeep
  rw [hs.past_eq] at hpast
  cases r with
  | ok a =>
    exact ⟨stage, past, hstage, hp, hpast.trans (hnext past db a),
      hok db a s'.db row hrow hn heffect⟩
  | error f =>
    have hlate : Placed P config old new .unsettled (past.note operationId db (some .unsettled)) :=
      hp.note (.unsettled hp.track.course hstage) ⟨rfl, row, hrow, trivial⟩ nofun
    refine reversible hlate rfl (fun _ h => h) ⟨hpast.trans (hlost past db f), row, ?_, hn⟩
    rw [herror db f s'.db heffect]
    exact hrow

theorem keeps_settleUpdate {p : IpPatch} (hs : Published P operationId config old new s)
    (hsettle : p.settles = true) (hnew : p.newIpId = none)
    (hK : ∀ row, Named old new row → Named old new (p.apply row)) :
    Keeps P env operationId C (fun _ => Published P operationId config old new)
      (fun _ => Reversible P operationId old.id) (update p) s := by
  refine keeps_settle hs ?_ ?_ ?_ ?_
  · rintro db a db' row hrow hn (⟨-, now, rfl⟩ | ⟨f, hf, -⟩)
    · exact ⟨p.apply row, findIp_updateOperation hrow p now, hK row hn⟩
    · cases hf
  · rintro db f db' (⟨hf, -⟩ | ⟨g, -, rfl⟩)
    · cases hf
    · rfl
  · intro past db a
    simp [RotationPast.next, RotationCall.deed, RotationPast.note, RotationPast.learn, hnew]
  · intro past db f
    simp [RotationPast.next, RotationCall.deed, RotationPast.note, RotationPast.learn, hnew, hsettle]

theorem keeps_warning (hs : Published P operationId config old new s) :
    Keeps P env operationId C (fun _ => Published P operationId config old new)
      (fun _ => Reversible P operationId old.id) (ask (.setHealthcheck "WARNING")) s := by
  refine keeps_settle hs ?_ ?_ (fun _ _ _ => rfl) (fun _ _ _ => rfl)
  · rintro db a db' row hrow hn (⟨-, t, rfl⟩ | ⟨f, hf, -⟩)
    · exact ⟨row, by rw [findIp_of_eq (setSetting_ipOperations db _ _ t)]; exact hrow, hn⟩
    · cases hf
  · rintro db f db' (⟨hf, -⟩ | ⟨g, -, rfl⟩)
    · cases hf
    · rfl

theorem keeps_deleteOld (e : RotationEnvironment) (ha : config.amnezia.protocol.enabled = false)
    (hp : Placed P config old new .published past) (hs : Stands operationId past (Named old new) s) :
    Keeps P env operationId C (fun _ => Published P operationId config old new)
      (fun _ => Reversible P operationId old.id) (deleteOld e old.id) s := by
  let K : IpOperation → Prop := fun o => Named old new o ∧ o.actionState = .cleanupSending
  unfold deleteOld
  refine ends_tryCatch (E := fun _ => Published P operationId config old new) ?_ fun f s hs => ?_
  · refine ends_bind (keeps_update (L := K) hs (hp.sound fun _ h => h) rfl rfl fun row h =>
        ⟨h.apply rfl (by simp) rfl rfl rfl, rfl⟩)
      (fun _ _ hs => ⟨.published, past, .inl rfl, hp, hs⟩) fun _ s hs => ?_
    have hcall : ∀ r s', rotationStep env operationId C (.deleteIpv4 old.id) s r s' →
        ∃ past, Placed P config old new .deleted past ∧ Stands operationId past (Named old new) s' := by
      intro r s' h
      obtain ⟨db, row, hfind, hrow, ⟨hn, hsending⟩, hpast⟩ := act_step hs h fun _ _ _ h => h
      exact ⟨_, hp.note (.deleteIpv4 hp.track.course ha)
        ⟨rfl, row, hfind, hsending, hn.2.2.1, hn.2.2.2.1, rfl⟩ nofun, hpast, row, hrow, hn⟩
    refine ends_bind (R := fun _ s => ∃ past, Placed P config old new .deleted past ∧
        Stands operationId past (Named old new) s) (E := fun _ => Published P operationId config old new)
      ⟨hs.honest (hp.sound fun _ h => h.1), fun r s' h => ?_⟩ (fun _ _ h => h) fun _ s h => ?_
    · obtain ⟨past, hp, hs⟩ := hcall r s' h
      cases r with
      | ok a => exact ⟨past, hp, hs⟩
      | error f => exact ⟨.deleted, past, .inr rfl, hp, hs⟩
    · obtain ⟨past, hp, hs⟩ := h
      refine ends_bind (keeps_update (L := Named old new) hs (hp.sound fun _ h => h) rfl rfl
          fun row h => h.apply rfl (by simp) rfl rfl rfl)
        (fun _ _ hs => ⟨.deleted, past, .inr rfl, hp, hs⟩) fun _ s hs => ?_
      exact ⟨.deleted, past, .inr rfl, hp, hs⟩
  · refine ends_bind (keeps_settleUpdate hs rfl rfl fun row h => h.apply rfl (by simp) rfl rfl rfl)
      (fun _ _ h => h) fun _ s hs => hs

theorem keeps_cleanup (e : RotationEnvironment) (revision : Nat)
    (hp : Placed P config old new .published past) (hs : Stands operationId past (Named old new) s) :
    Keeps P env operationId C (fun _ => Published P operationId config old new)
      (fun _ => Reversible P operationId old.id) (cleanup e config old revision) s := by
  unfold cleanup
  split
  · refine ends_bind (keeps_warning ⟨.published, past, .inl rfl, hp, hs⟩) (fun _ _ h => h)
      fun _ s hs => ?_
    exact keeps_settleUpdate hs rfl rfl fun row h => h.apply rfl (by simp) rfl rfl rfl
  · rename_i ha
    refine ends_bind (keeps_deleteOld e (by simpa using ha) hp hs) (fun _ _ h => h)
      fun warning s hs => ?_
    cases warning with
    | none => exact keeps_settleUpdate hs rfl rfl fun row h => h.apply rfl (by simp) rfl rfl rfl
    | some warning =>
      exact keeps_settleUpdate hs rfl rfl fun row h => h.apply rfl (by simp) rfl rfl rfl

end

/-- Before the purchase. -/
structure Unbought (config : CapturedVpnConfig) (past : RotationPast) : Prop where
  marks : past.marks = []
  accepted : past.accepted = none
  config_eq : past.config = some config

theorem Unbought.track (h : Unbought config past) (old new : AezaIpv4) :
    Track P config old new .idle past := by
  refine ⟨?_, ?_, ?_, fun _ => h.accepted, fun hi => absurd rfl hi⟩
  · rw [RotationPast.deeds, h.marks]
    exact .idle
  · rw [h.marks]
    exact fun x hx => absurd hx List.not_mem_nil
  · rw [h.accepted]
    exact nofun

theorem Unbought.sound (h : Unbought config past) (K : IpOperation → Prop) : Sound P past K :=
  ⟨.inl ⟨h.marks, h.accepted⟩, fun hm => absurd h.marks hm⟩

theorem findMainIp_mem {list : List AezaIpv4} {currentIp : String} {old : AezaIpv4}
    (h : findMainIp list currentIp = .ok old) : old ∈ list := by
  unfold findMainIp at h
  split at h
  · rename_i item hfind
    split at h
    · cases h
    · obtain rfl := Except.ok.inj h
      exact List.mem_of_find?_eq_some hfind
  · split at h
    · rename_i item hfind
      obtain rfl := Except.ok.inj h
      exact List.mem_of_find?_eq_some hfind
    · cases h

section

variable {env : Environment} {operationId : Nat} {C : RotationCondition} {s : RotationWorld}

theorem keeps_findOld (hu : Unbought config past)
    (hs : Stands operationId past (fun _ => True) s) :
    Keeps P env operationId C
      (fun found s => ∃ past, Unbought config past ∧ past.known = found.2 ∧ found.1 ∈ found.2 ∧
        Stands operationId past (fun _ => True) s)
      (fun _ => Honest P operationId) (findOld config) s := by
  have calm {α : Type} {x : Rotation α} {past : RotationPast} {s : RotationWorld}
      (hu : Unbought config past) (hs : Stands operationId past (fun _ => True) s)
      (h : Uses (Calm past fun _ => True) x.run) :
      Keeps P env operationId C (fun _ => Stands operationId past fun _ => True)
        (fun _ => Honest P operationId) x s :=
    (keeps_calm h (hu.sound _) hs).post fun r s h => by
      cases r with
      | ok a => exact h
      | error f => exact h.honest (hu.sound _)
  unfold findOld
  refine ends_bind (calm hu hs (uses_ask trivial)) (fun _ _ h => h) fun service s hs => ?_
  split
  · exact hs.honest (hu.sound _)
  refine ends_bind (calm hu hs (uses_ensure _)) (fun _ _ h => h) fun _ s hs => ?_
  refine ends_bind (calm hu hs (uses_step rfl nofun fun _ h => h)) (fun _ _ h => h) fun _ s hs => ?_
  refine ends_bind (R := fun list s => ∃ past, Unbought config past ∧ past.known = list ∧
      Stands operationId past (fun _ => True) s) (E := fun _ => Honest P operationId)
    ⟨hs.honest (hu.sound _), fun r s' h => ?_⟩ (fun _ _ h => h) fun list s h => ?_
  · obtain ⟨db, row, hfind, hrow, -, hpast⟩ := act_step hs h fun _ _ _ h => h
    cases r with
    | error f => exact Stands.honest ⟨hpast, row, hrow, trivial⟩ (hu.sound fun _ => True)
    | ok list =>
      have hnext : s'.past = { past with known := list } := by
        rw [hpast]
        simp [RotationPast.next, RotationCall.deed, RotationPast.note, RotationPast.learn,
          RotationPast.deeds, hu.marks]
      exact ⟨{ past with known := list }, ⟨hu.marks, hu.accepted, hu.config_eq⟩, rfl, hnext, row, hrow,
        trivial⟩
  obtain ⟨past, hu, hknown, hs⟩ := h
  refine ends_bind (calm hu hs (uses_step rfl nofun fun _ h => h)) (fun _ _ h => h) fun _ s hs => ?_
  cases hmain : findMainIp list config.currentIp with
  | error f => exact hs.honest (hu.sound _)
  | ok old => exact ⟨past, hu, hknown, findMainIp_mem hmain, hs⟩

/-- An address that the polling takes for the new one meets `P`. -/
def Polled (P : List AezaIpv4 → AezaIpv4 → AezaIpv4 → Prop) (operationId : Nat)
    (C : RotationCondition) : Prop :=
  ∀ s list row created old item, C .getIpv4List s (.ok list) →
    s.db.findIp operationId = some row → row.oldIpId = some old.id → row.oldIp = some old.ip →
    s.past.created = some created → s.past.accepted = none → old ∈ s.past.known →
    findNewIp list old created s.past.known = some item → item.id ≠ "" → item.ip ≠ "" →
    P s.past.known old item

def Sent (old : AezaIpv4) (o : IpOperation) : Prop :=
  o.Begun ∧ o.oldIpId = some old.id ∧ o.oldIp = some old.ip

/-- The purchase has been sent, and nothing else. -/
structure Bought (P : List AezaIpv4 → AezaIpv4 → AezaIpv4 → Prop) (config : CapturedVpnConfig)
    (old : AezaIpv4) (known : List AezaIpv4) (past : RotationPast) : Prop where
  track : ∀ new, Track P config old new .bought past
  accepted : past.accepted = none
  config_eq : past.config = some config
  known_eq : past.known = known
  mem : old ∈ known
  bought : past.deeds.contains .addIpv4 = true

theorem Bought.sound {known : List AezaIpv4} (h : Bought P config old known past)
    {K : IpOperation → Prop} (hK : ∀ row, K row → row.Begun) : Sound P past K :=
  ⟨.inr ⟨config, old, ⟨"", "", false⟩, .bought, h.track _⟩, fun _ => hK⟩

theorem keeps_waitForNewIp (hC : Polled P operationId C) {created : AezaIpv4}
    {known : List AezaIpv4} (hb : Bought P config old known past)
    (hcreated : past.created = some created) (attempts : Nat)
    (hs : Stands operationId past (Sent old) s) :
    Keeps P env operationId C (fun new s => P known old new ∧ Stands operationId past (Sent old) s)
      (fun _ => Honest P operationId) (waitForNewIp old created known attempts) s := by
  have hsound : Sound P past (Sent old) := hb.sound fun _ h => h.1
  induction attempts generalizing s with
  | zero => exact hs.honest hsound
  | succ remaining ih =>
    have hagain (s : RotationWorld) (hs : Stands operationId past (Sent old) s) :
        Keeps P env operationId C
          (fun new s => P known old new ∧ Stands operationId past (Sent old) s)
          (fun _ => Honest P operationId)
          (do pause remaining; waitForNewIp old created known remaining) s := by
      refine ends_bind (keeps_calm (uses_pause remaining) hsound hs)
        (fun _ _ hs => hs.honest hsound) fun _ s hs => ih hs
    unfold waitForNewIp
    refine ends_bind (R := fun list s => (∀ item, findNewIp list old created known = some item →
        item.id ≠ "" → item.ip ≠ "" → P known old item) ∧ Stands operationId past (Sent old) s)
      (E := fun _ => Honest P operationId)
      ⟨hs.honest hsound, fun r s' h => ?_⟩ (fun _ _ h => h) fun list s h => ?_
    · have hnext := Calm.step (c := .getIpv4List) hb.bought hs h
      cases r with
      | error f => exact hnext.honest hsound
      | ok list =>
        obtain ⟨row, hrow, -, hid, hip⟩ := hs.row
        refine ⟨fun item hitem hi hp => ?_, hnext⟩
        have hknown : s.past.known = known := by rw [hs.past_eq, hb.known_eq]
        rw [← hknown] at hitem ⊢
        exact hC s list row created old item h.1 hrow hid hip (by rw [hs.past_eq, hcreated])
          (by rw [hs.past_eq, hb.accepted]) (by rw [hknown]; exact hb.mem) hitem hi hp
    · cases hfind : findNewIp list old created known with
      | none => exact hagain s h.2
      | some item =>
        show Keeps P env operationId C _ _ (if _ then _ else _) s
        split
        · rename_i haccept
          simp only [ne_eq, decide_not, Bool.and_eq_true, Bool.not_eq_eq_eq_not, Bool.not_true,
            decide_eq_false_iff_not] at haccept
          exact ⟨h.1 item hfind haccept.1 haccept.2, h.2⟩
        · exact hagain s h.2

def acceptPatch (new : AezaIpv4) : IpPatch where
  newIp := some new.ip
  newIpId := some new.id
  actionState := some .purchaseConfirmed
  purchaseState := some .confirmed

theorem keeps_accept {known : List AezaIpv4} (hb : Bought P config old known past)
    (hP : P known old new) (hs : Stands operationId past (Sent old) s) :
    Keeps P env operationId C
      (fun _ s => ∃ past, Placed P config old new .bought past ∧
        Stands operationId past (Named old new) s)
      (fun _ => Honest P operationId)
      (update (acceptPatch new)) s := by
  let named : RotationPast := { past with accepted := some (new.id, new.ip) }
  have hplaced : Placed P config old new .bought named := by
    refine ⟨⟨(hb.track new).course, (hb.track new).recorded, fun a ha => ?_, nofun, fun _ _ => rfl⟩,
      hb.config_eq, rfl, hb.bought⟩
    obtain rfl := Option.some.inj ha
    exact ⟨rfl, by rw [show named.known = known from hb.known_eq]; exact hP⟩
  refine ⟨hs.honest (hb.sound fun _ h => h.1), fun r s' h => ?_⟩
  obtain ⟨-, db, hkeep, heffect, hpast⟩ := h
  obtain ⟨row, hrow, hsent⟩ := hs.kept hkeep
  have hnext : s'.past = named := by
    rw [hpast, hs.past_eq]
    cases r <;> rfl
  rcases heffect with ⟨rfl, now, hdb⟩ | ⟨f, rfl, hdb⟩
  · have hfind := findIp_updateOperation hrow (acceptPatch new) now
    rw [← hdb] at hfind
    exact ⟨named, hplaced, hnext, _, hfind, rfl, nofun, hsent.2.1, rfl, rfl⟩
  · exact Stands.honest (K := Sent old) ⟨hnext, row, by rw [hdb]; exact hrow, hsent⟩
      ⟨.inr ⟨config, old, new, .bought, hplaced.track⟩, fun _ _ h => h.1⟩

theorem keeps_purchase (e : RotationEnvironment) (hC : Polled P operationId C)
    {known : List AezaIpv4} (hu : Unbought config past) (hknown : past.known = known)
    (hmem : old ∈ known) (hs : Stands operationId past (fun _ => True) s) :
    Keeps P env operationId C
      (fun new s => ∃ past, Placed P config old new .bought past ∧
        Stands operationId past (Named old new) s)
      (fun _ => Honest P operationId) (purchase e config old known) s := by
  let K : IpOperation → Prop := fun o => o.oldIpId = some old.id ∧ o.oldIp = some old.ip
  unfold purchase
  refine ends_bind (keeps_update (L := K) hs (hu.sound _) rfl rfl fun _ _ => ⟨rfl, rfl⟩)
    (fun _ _ hs => hs.honest (hu.sound _)) fun _ s hs => ?_
  refine ends_bind (keeps_calm (uses_ensure _) (hu.sound K) hs)
    (fun _ _ hs => hs.honest (hu.sound K)) fun _ s hs => ?_
  refine ends_bind (keeps_update (L := fun o => K o ∧ o.actionState = .purchaseSending ∧
      o.purchaseState = .sending) hs (hu.sound K) rfl rfl fun _ h => ⟨h, rfl, rfl⟩)
    (fun _ _ hs => hs.honest (hu.sound K)) fun _ s hs => ?_
  have hcall : ∀ r s', rotationStep env operationId C .addIpv4 s r s' → ∃ past,
      Bought P config old known past ∧ (∀ created, r = .ok created → past.created = some created) ∧
        Stands operationId past (Sent old) s' := by
    intro r s' h
    obtain ⟨db, row, hfind, hrow, ⟨hk, ha, hp⟩, hpast⟩ := act_step hs h fun _ _ _ h => h
    have hidle : ∀ new, Track P config old new .idle past := fun new => hu.track old new
    have htrack : ∀ new, Track P config old new .bought (past.note operationId db (some .addIpv4)) :=
      fun new => (hidle new).note (.addIpv4 (hidle new).course)
        ⟨hu.config_eq, row, hfind, ha, hp⟩ (.inl rfl)
    have hdeed : (past.note operationId db (some .addIpv4)).deeds.contains .addIpv4 = true := by
      rw [RotationPast.deeds_note, List.contains_iff_mem]
      exact List.mem_append_right _ (List.mem_singleton_self _)
    have hsent : Sent old row := ⟨⟨by rw [hp]; decide, by rw [ha]; decide⟩, hk⟩
    have hbought (created : Option AezaIpv4) : Bought P config old known
        { past.note operationId db (some .addIpv4) with created := created } :=
      ⟨fun new => ⟨(htrack new).course, (htrack new).recorded, (htrack new).accepted,
          (htrack new).fresh, (htrack new).settled⟩,
        hu.accepted, hu.config_eq, hknown, hmem, hdeed⟩
    cases r with
    | error f => exact ⟨_, hbought past.created, nofun, hpast, row, hrow, hsent⟩
    | ok created =>
      refine ⟨_, hbought (some created), fun other h => ?_, hpast, row, hrow, hsent⟩
      rw [Except.ok.inj h]
  refine ends_bind (R := fun created s => ∃ past, Bought P config old known past ∧
      past.created = some created ∧ Stands operationId past (Sent old) s)
    (keeps_once (hs.honest (hu.sound _)) rfl rfl (fun a s' h => ?_) fun f s' h => ?_)
    (fun _ _ h => h) fun created s h => ?_
  · obtain ⟨past, hb, hcreated, hs⟩ := hcall _ s' h
    exact ⟨past, hb, hcreated a rfl, hs⟩
  · obtain ⟨past, hb, -, hs⟩ := hcall _ s' h
    exact ⟨past, Sent old, hs, hb.sound fun _ h => h.1, fun row h => ⟨⟨nofun, nofun⟩, h.2⟩,
      fun _ _ hs => hs.honest (hb.sound fun _ h => h.1)⟩
  obtain ⟨past, hb, hcreated, hs⟩ := h
  have hsound : Sound P past (Sent old) := hb.sound fun _ h => h.1
  have honest : ∀ (_ : Failure) s, Stands operationId past (Sent old) s → Honest P operationId s :=
    fun _ _ hs => hs.honest hsound
  refine ends_bind (keeps_calm (uses_ask ⟨rfl, rfl, fun _ h => ⟨⟨nofun, nofun⟩, h.2⟩⟩) hsound hs)
    honest fun _ s hs => ?_
  refine ends_bind (keeps_calm (uses_step rfl nofun fun _ h => h) hsound hs) honest fun _ s hs => ?_
  refine ends_bind (keeps_calm (uses_ask (c := .sleep) trivial) hsound hs) honest fun _ s hs => ?_
  refine ends_bind (keeps_calm (uses_step rfl nofun fun _ h => h) hsound hs) honest fun _ s hs => ?_
  refine ends_bind (keeps_waitForNewIp hC hb hcreated _ hs) (fun _ _ h => h) fun new s h => ?_
  refine ends_bind (keeps_accept hb h.1 h.2) (fun _ _ h => h) fun _ s h => ?_
  obtain ⟨past, hp, hs⟩ := h
  refine ends_bind (keeps_stage (uses_ensure _) hp rfl hs) (fun _ _ h => h.honest) fun _ s hs => ?_
  exact ⟨past, hp, hs⟩

theorem keeps_rollback (e : RotationEnvironment) {oldIpId : String}
    (hs : Reversible P operationId oldIpId s) :
    Keeps P env operationId C (fun _ => Honest P operationId) (fun _ => Honest P operationId)
      (rollbackOldMain e oldIpId) s := by
  obtain ⟨config, old, new, stage, past, rfl, hr, hp, hs⟩ := hs
  have settle {s : RotationWorld} {past : RotationPast} {stage : Stage} {p : IpPatch}
      (hp : Placed P config old new stage past) (hs : Stands operationId past (Named old new) s)
      (outcome : String) (h : Uses (Calm past (Named old new)) (update p).run) :
      Keeps P env operationId C (fun _ => Honest P operationId) (fun _ => Honest P operationId)
        (do update p; return outcome) s := by
    have hsound : Sound P past (Named old new) := hp.sound fun _ h => h
    exact ends_bind (keeps_calm h hsound hs) (fun _ _ h => h.honest hsound)
      fun _ s h => h.honest hsound
  unfold rollbackOldMain
  refine ends_bind (keeps_update (L := fun o => Named old new o ∧ o.actionState = .rollingBack ∧
      o.rollbackOutcome = some "SENDING") hs (hp.sound fun _ h => h) rfl rfl fun row h =>
        ⟨h.apply rfl (by simp) rfl rfl rfl, rfl, rfl⟩)
    (fun _ _ hs => hs.honest (hp.sound fun _ h => h)) fun _ s hs => ?_
  refine ⟨hs.honest (hp.sound fun _ h => h.1), fun r s' h => ?_⟩
  obtain ⟨db, row, hfind, hrow, ⟨hn, ha, ho⟩, hpast⟩ := act_step hs h fun _ _ _ h => h
  have hlate : Placed P config old new .reverted
      (past.note operationId db (some (.makeMainIpv4 old.id))) :=
    hp.note (.revert hp.track.course hr)
      ⟨rfl, row, hfind, hn.1, hn.2.2.2.1, .inr ⟨ha, ho, hn.2.2.1⟩⟩ nofun
  have hnow : Stands operationId (past.note operationId db (some (.makeMainIpv4 old.id)))
      (Named old new) s' := ⟨hpast, row, hrow, hn⟩
  cases r with
  | error f => exact settle hlate hnow _ (uses_report rfl rfl (by simp) rfl rfl rfl)
  | ok a => exact settle hlate hnow _ (uses_report rfl rfl (by simp) rfl rfl rfl)

end

/-- The calls that keep an honest past honest, wherever they are made. -/
def Tame : RotationCall → Prop
  | .update p => p.settles = false ∧ p.newIpId = none ∧ p.purchaseState = none ∧
    p.actionState ≠ some .notStarted
  | .setHealthcheck status => status ≠ "WARNING"
  | .actionState => True
  | _ => False

section

variable {env : Environment} {operationId : Nat} {C : RotationCondition} {s s' : RotationWorld}

theorem honest_of_past (hs : Honest P operationId s) (hpast : s'.past = s.past)
    (hrow : ∀ row, s.db.findIp operationId = some row → row.Begun →
      ∃ row, s'.db.findIp operationId = some row ∧ row.Begun) : Honest P operationId s' := by
  refine ⟨by rw [hpast]; exact hs.1, fun hm => ?_⟩
  obtain ⟨row, hfind, hb⟩ := hs.2 (by rwa [hpast] at hm)
  exact hrow row hfind hb

theorem begun_apply {p : IpPatch} (hp : p.purchaseState = none)
    (ha : p.actionState ≠ some .notStarted) {row : IpOperation} (h : row.Begun) :
    (p.apply row).Begun := by
  refine ⟨by simpa [IpPatch.apply, hp] using h.1, ?_⟩
  cases hc : p.actionState with
  | none => simpa [IpPatch.apply, hc] using h.2
  | some a =>
    rw [hc] at ha
    simpa [IpPatch.apply, hc] using ha

theorem Tame.step {c : RotationCall} (hc : Tame c) (hs : Honest P operationId s) {r : c.Answer}
    (h : rotationStep env operationId C c s r s') : Honest P operationId s' := by
  obtain ⟨-, db, hkeep, heffect, hpast⟩ := h
  cases c with
  | update p =>
    refine honest_of_past hs (hpast.trans ?_) fun row hrow hb => ?_
    · cases r <;>
        simp [RotationPast.next, RotationPast.note, RotationPast.learn, RotationCall.deed, hc.1,
          hc.2.1]
    · rcases heffect with ⟨-, now, hdb⟩ | ⟨f, -, hdb⟩
      · rw [hdb]
        exact ⟨_, findIp_updateOperation (hkeep row hrow) p now, begun_apply hc.2.2.1 hc.2.2.2 hb⟩
      · exact ⟨row, by rw [hdb]; exact hkeep row hrow, hb⟩
  | setHealthcheck status =>
    have hw : status ≠ "WARNING" := hc
    refine honest_of_past hs (hpast.trans ?_) fun row hrow hb => ⟨row, ?_, hb⟩
    · cases r <;>
        simp [RotationPast.next, RotationPast.note, RotationPast.learn, RotationCall.deed, hw]
    · rcases heffect with ⟨-, t, hdb⟩ | ⟨f, -, hdb⟩
      · rw [hdb, findIp_of_eq (setSetting_ipOperations db _ _ t)]
        exact hkeep row hrow
      · rw [hdb]
        exact hkeep row hrow
  | actionState =>
    refine honest_of_past hs (hpast.trans ?_) fun row hrow hb => ⟨row, ?_, hb⟩
    · cases r <;> rfl
    · rw [heffect.1]
      exact hkeep row hrow
  | _ => exact hc.elim

theorem keeps_tame {α : Type} {x : Rotation α} (h : Uses Tame x.run) (hs : Honest P operationId s) :
    Keeps P env operationId C (fun _ => Honest P operationId) (fun _ => Honest P operationId) x s :=
  h.ends (fun _ _ _ _ hc hs h => hc.step hs h) (fun _ _ h => h) hs

/-- What the exception handler is given. -/
def Caught (P : List AezaIpv4 → AezaIpv4 → AezaIpv4 → Prop) (operationId : Nat) (flags : Flags)
    (s : RotationWorld) : Prop :=
  Honest P operationId s ∧
    (flags.makeMainStarted = true → Reversible P operationId flags.oldIpId s)

theorem keeps_settleFailure (e : RotationEnvironment) (f : Failure) {flags : Flags}
    (hs : Caught P operationId flags s) :
    Keeps P env operationId C (fun _ => Honest P operationId) (fun _ => Honest P operationId)
      (settleFailure e f flags) s := by
  unfold settleFailure
  refine ends_bind (R := fun _ => Honest P operationId) (E := fun _ => Honest P operationId) ?_
    (fun _ _ h => h) fun outcome s hs => ?_
  · unfold rollback
    split
    · rename_i hflags
      exact keeps_rollback e (hs.2 (Bool.and_eq_true_iff.mp hflags).1)
    · exact hs.1
  · refine ends_bind (keeps_tame (uses_ask (c := .actionState) trivial) hs) (fun _ _ h => h)
      fun current s hs => ?_
    refine ends_bind (keeps_tame (uses_ask ⟨?_, rfl, rfl, ?_⟩) hs) (fun _ _ h => h) fun _ s hs => ?_
    · split <;> rfl
    · split <;> nofun
    refine ends_bind (keeps_tame (uses_ask (c := .setHealthcheck "FAILED")
      (show "FAILED" ≠ "WARNING" by decide)) hs)
      (fun _ _ h => h) fun _ s hs => hs

theorem ends_flagged {α : Type} {x : Rotation α} {flags : Flags}
    {G : RotationCall → RotationWorld → Prop} {R : α → RotationWorld → Prop}
    {E : Failure → RotationWorld → Prop}
    (h : Sat (rotationStep env operationId C) G (Ends R E) x.run s) :
    Sat (rotationStep env operationId C) G (Ends R fun x s => x.2 = flags ∧ E x.1 s)
      (flagged flags x).run s := by
  refine Sat.bind (h.post fun r s hr => ?_)
  cases r with
  | ok a => exact hr
  | error f => exact ⟨rfl, hr⟩

theorem keeps_perform (e : RotationEnvironment) (hC : Polled P operationId C)
    (hu : Unbought config past) (hs : Stands operationId past (fun _ => True) s) :
    Sat (rotationStep env operationId C) (fun _ => Honest P operationId)
      (Ends (fun _ => Honest P operationId) fun x => Caught P operationId x.2)
      (perform e config).run s := by
  unfold perform
  refine ends_bind (ends_flagged (keeps_findOld hu hs))
    (fun x s h => ⟨h.2, by rw [h.1]; exact nofun⟩) fun found s h => ?_
  obtain ⟨old, known⟩ := found
  obtain ⟨past, hu, hknown, hmem, hs⟩ := h
  refine ends_bind (ends_flagged (keeps_purchase e hC hu hknown hmem hs))
    (fun x s h => ⟨h.2, by rw [h.1]; exact nofun⟩) fun new s h => ?_
  obtain ⟨past, hp, hs⟩ := h
  have hrest : Keeps P env operationId C (fun _ => Honest P operationId)
      (fun _ => Reversible P operationId old.id) (do
        let health ← makeMain e config new
        let revision ← ask (.publish new.ip health)
        cleanup e config old revision) s := by
    refine ends_bind (keeps_makeMain e hp hs) (fun _ _ h => h) fun health s h => ?_
    obtain ⟨past, hp, hs⟩ := h
    refine ends_bind (keeps_publish health hp hs) (fun _ _ h => h) fun revision s h => ?_
    obtain ⟨past, hp, hs⟩ := h
    refine (keeps_cleanup e revision hp hs).post fun r s h => ?_
    cases r with
    | ok a => exact h.honest
    | error f => exact h
  refine (ends_flagged hrest).post fun r s h => ?_
  cases r with
  | ok a => exact h
  | error x =>
    obtain ⟨hflags, h⟩ : _ ∧ _ := h
    refine ⟨h.honest, fun _ => ?_⟩
    rw [hflags]
    exact h

theorem course_idle {config : CapturedVpnConfig} {old new : AezaIpv4} {stage : Stage}
    (h : Course config old new stage []) : stage = .idle := by
  generalize hl : ([] : List Deed) = l at h
  cases h with
  | idle => rfl
  | _ => simp at hl

theorem Lawful.unbought (h : Lawful P past) (hm : past.marks = []) : past.accepted = none := by
  rcases h with ⟨-, ha⟩ | ⟨config, old, new, stage, ht⟩
  · exact ha
  have hcourse := ht.course
  rw [show past.deeds = [] by rw [RotationPast.deeds, hm]; rfl] at hcourse
  exact ht.fresh (course_idle hcourse)

theorem keeps_resume (e : RotationEnvironment) (hC : Polled P operationId C)
    (operation : IpOperation) (hs : Honest P operationId s)
    (hconfig : s.past.config = some config) (hrow : s.db.findIp operationId = some operation) :
    Keeps P env operationId C (fun _ => Honest P operationId) (fun _ => Honest P operationId)
      (resume e operation config) s := by
  unfold resume
  split
  · exact hs
  split
  · exact keeps_tame (uses_ask ⟨rfl, rfl, rfl, by simp [interruptedPatch]⟩) hs
  · rename_i hstarted
    have hmarks : s.past.marks = [] := by
      by_contra hm
      obtain ⟨row, hfind, hb, -⟩ := hs.2 hm
      obtain rfl := Option.some.inj (hfind.symm.trans hrow)
      exact hstarted (by simp [IpOperation.started, hb])
    have hu : Unbought config s.past := ⟨hmarks, Lawful.unbought hs.1 hmarks, hconfig⟩
    refine Sat.bind ((keeps_perform e hC hu ⟨rfl, operation, hrow, trivial⟩).post fun r s h => ?_)
    cases r with
    | ok a => exact h
    | error x => exact keeps_settleFailure e x.1 h

theorem load_ok {db : Db} {operation : IpOperation}
    (h : db.loadIpChangeSnapshot operationId = .ok (operation, config)) :
    db.findIp operationId = some operation := by
  unfold Db.loadIpChangeSnapshot at h
  split at h
  · cases h
  · rename_i row hrow
    split at h
    · cases h
    · split at h
      · cases h
      · rw [hrow]
        exact congrArg some (Prod.mk.inj (Except.ok.inj h)).1

theorem keeps_runIpChange (e : RotationEnvironment) (hC : Polled P operationId C)
    (hs : Honest P operationId s) :
    Keeps P env operationId C (fun _ => Honest P operationId) (fun _ => Honest P operationId)
      (runIpChange e) s := by
  unfold runIpChange
  refine ends_bind (R := fun loaded s => Honest P operationId s ∧
      s.past.config = some loaded.2 ∧ s.db.findIp operationId = some loaded.1)
    (E := fun _ => Honest P operationId) ⟨hs, fun r s' h => ?_⟩ (fun _ _ h => h) fun loaded s h => ?_
  · obtain ⟨-, db, hkeep, ⟨hdb, hr⟩, hpast⟩ := h
    rcases hr with ⟨loaded, hload, rfl⟩ | ⟨f, rfl⟩
    · have hrow := load_ok (show db.loadIpChangeSnapshot operationId = .ok (loaded.1, loaded.2) from hload)
      rw [← hdb] at hrow
      refine ⟨⟨?_, fun hm => ?_⟩, by rw [hpast]; rfl, hrow⟩
      · rw [hpast]
        rcases hs.1 with h | ⟨config, old, new, stage, ht⟩
        · exact .inl h
        · exact .inr ⟨config, old, new, stage, ht.course, ht.recorded, ht.accepted, ht.fresh, ht.settled⟩
      · rw [hpast] at hm
        obtain ⟨row, hfind, hb⟩ := hs.2 hm
        exact ⟨row, by rw [hdb]; exact hkeep row hfind, hb⟩
    · refine honest_of_past hs hpast fun row hfind hb => ⟨row, ?_, hb⟩
      rw [hdb]
      exact hkeep row hfind
  · exact keeps_resume e hC loaded.1 h.1 h.2.1 h.2.2

end

end Rotation

/-! The moves between the runs. -/

section

variable {env : Environment} {operationId : Nat} {C : RotationCondition} {s s' : RotationWorld}

theorem begun_interrupt (reason : String) {o : IpOperation} (h : o.Begun) :
    (o.interrupt reason).Begun := by
  unfold IpOperation.interrupt
  split
  · exact h
  split
  · exact ⟨h.1, nofun⟩
  split
  · exact ⟨h.1, nofun⟩
  · rename_i hstarted
    exact absurd (by simp [IpOperation.started, h.1]) hstarted

/-- The row, where it had begun, still has. -/
def KeepsBegun (operationId : Nat) (db db' : Db) : Prop :=
  ∀ row, db.findIp operationId = some row → row.Begun →
    ∃ row, db'.findIp operationId = some row ∧ row.Begun

theorem KeepsBegun.of_eq {db db' : Db} (h : db'.ipOperations = db.ipOperations) :
    KeepsBegun operationId db db' :=
  fun row hrow hb => ⟨row, by rw [findIp_of_eq h]; exact hrow, hb⟩

theorem KeepsBegun.trans {a b c : Db} (h : KeepsBegun operationId a b)
    (h' : KeepsBegun operationId b c) : KeepsBegun operationId a c := by
  intro row hrow hb
  obtain ⟨row, hrow, hb⟩ := h row hrow hb
  exact h' row hrow hb

theorem keepsBegun_updateIp (db : Db) (target : Nat) {f : IpOperation → IpOperation}
    (hf : ∀ o, (f o).id = o.id) (hb : ∀ o, o.Begun → (f o).Begun) :
    KeepsBegun operationId db (db.updateIp target f) := by
  intro row hrow hbegun
  refine ⟨if row.id == target then f row else row, ?_, ?_⟩
  · rw [findIp_updateIp db target hf, hrow]
    rfl
  · split
    · exact hb row hbegun
    · exact hbegun

theorem keepsBegun_failOwner (db : Db) (owner : LeaseOwner) (reason : String) :
    KeepsBegun operationId db (db.failOwner owner reason) := by
  unfold failOwner
  cases owner.ownerType with
  | install => cases (db.findInstall owner.ownerId).bind (·.revision) <;> exact .of_eq rfl
  | ipChange =>
    exact keepsBegun_updateIp db owner.ownerId (interrupt_ip_id reason) fun _ => begun_interrupt reason
  | server => exact .of_eq rfl

theorem keepsBegun_failOwners (type : OwnerType) (reason : String) (ids : List Nat) (db : Db) :
    KeepsBegun operationId db (ids.foldl (fun db id => db.failOwner ⟨type, id⟩ reason) db) := by
  induction ids generalizing db with
  | nil => exact .of_eq rfl
  | cons id ids ih => exact (keepsBegun_failOwner db ⟨type, id⟩ reason).trans (ih _)

theorem RotationMove.keepsBegun (h : RotationMove operationId s s') :
    KeepsBegun operationId s.db s'.db := by
  cases h with
  | recover reason =>
    exact (((keepsBegun_failOwners .install reason _ s.db).trans
      (keepsBegun_failOwners .ipChange reason _ _)).trans
      (keepsBegun_failOwners .server reason _ _)).trans (.of_eq rfl)
  | @acquire owner now db' h =>
    unfold acquireVpsLease at h
    split at h
    · cases h
      exact .of_eq rfl
    split at h
    · cases h
    · cases h
      exact (keepsBegun_failOwner s.db _ expiredReason).trans (.of_eq rfl)
  | @reconcile note db' h =>
    unfold reconcileIpOperation at h
    split at h
    · cases h
    split at h
    · cases h
    split at h
    · cases h
    · cases h
      exact keepsBegun_updateIp s.db operationId (fun _ => rfl) fun _ h => ⟨h.1, nofun⟩
  | other h => exact fun row hrow hb => ⟨row, h row hrow, hb⟩

theorem RotationMove.past_eq (h : RotationMove operationId s s') : s'.past = s.past := by
  cases h <;> rfl

theorem honest_lives {e : RotationEnvironment} (hC : Rotation.Polled P operationId C)
    (hs : Honest P operationId s) (h : RotationLives e env operationId C s s') :
    Honest P operationId s' := by
  induction h with
  | refl => exact hs
  | tail _ hlife ih =>
    cases hlife with
    | move hm => exact Rotation.honest_of_past ih hm.past_eq hm.keepsBegun
    | run he =>
      refine Program.Sat.invariant (Program.Sat.post (Rotation.keeps_runIpChange e hC ih) ?_) he
      intro r s h
      cases r with
      | ok a => exact h
      | error f => exact h

end

end Server

end AutoVPN
