import AutoVPN.Server.RotationOnce

/-! What every history of rotations guarantees: nothing is done twice or too early, the new
address is new, and a published address stays main. -/

namespace AutoVPN

open Server Server.Db

namespace Server

def RotationPast.empty : RotationPast := ⟨none, [], none, none, []⟩

theorem honest_of_empty {P : List AezaIpv4 → AezaIpv4 → AezaIpv4 → Prop} {operationId : Nat}
    {s : RotationWorld} (hs : s.past = .empty) : Honest P operationId s := by
  refine ⟨.inl ?_, fun hm => ?_⟩
  · rw [hs]
    exact ⟨rfl, rfl⟩
  · rw [hs] at hm
    exact absurd rfl hm

/-! The order of the deeds. -/

/-- What the row tells before a deed that acts on the provider or the server. -/
def Mark.Durable (x : Mark) : Prop :=
  ∃ row config, x.row = some row ∧ x.config = some config ∧
    match x.deed with
    | .addIpv4 => row.actionState = .purchaseSending ∧ row.purchaseState = .sending
    | .makeMainIpv4 id =>
      row.purchaseState = .confirmed ∧
        ((row.actionState = .makeMainSending ∧ row.makeMainState = .sending ∧
            row.newIpId = some id) ∨
          (row.actionState = .rollingBack ∧ row.rollbackOutcome = some "SENDING" ∧
            row.oldIpId = some id))
    | .remoteApply host _ =>
      row.actionState = .applying ∧ row.applyState = .running ∧ row.newIp = some host
    | .verified host => row.newIp = some host
    | .publish newIp => row.newIp = some newIp ∧ row.revision = some x.desiredRevision
    | .deleteIpv4 id =>
      row.actionState = .cleanupSending ∧ row.oldIpId = some id ∧
        config.amnezia.protocol.enabled = false
    | .unsettled => True

theorem Course.deleted_disabled {config : CapturedVpnConfig} {old new : AezaIpv4} {stage : Stage}
    {l : List Deed} (h : Course config old new stage l) {id : String}
    (hd : .deleteIpv4 id ∈ l) : config.amnezia.protocol.enabled = false := by
  induction h with
  | deleteIpv4 h ha ih => exact ha
  | idle => cases hd
  | _ => simp_all

theorem Track.durable {P : List AezaIpv4 → AezaIpv4 → AezaIpv4 → Prop} {config : CapturedVpnConfig}
    {old new : AezaIpv4} {stage : Stage} {past : RotationPast}
    (h : Track P config old new stage past) : ∀ x ∈ past.marks, x.Durable := by
  intro x hx
  obtain ⟨hconfig, row, hrow, hx'⟩ := h.recorded x hx
  have hmem : x.deed ∈ past.deeds := List.mem_map_of_mem hx
  refine ⟨row, config, hrow, hconfig, ?_⟩
  revert hx' hmem
  cases x.deed with
  | makeMainIpv4 address =>
    rintro ⟨hp, hn, h⟩ -
    refine ⟨hp, h.imp (fun h => ⟨h.1, h.2.1, ?_⟩) id⟩
    rw [hn, h.2.2]
  | deleteIpv4 address => exact fun hx hmem => ⟨hx.1, hx.2.1, h.course.deleted_disabled hmem⟩
  | _ => exact fun hx _ => hx

/-- What holds of an operation at any time of its history. -/
structure InOrder (operationId : Nat) (s : RotationWorld) : Prop where
  addOnce : s.past.deeds.count .addIpv4 ≤ 1
  mainOnce : ∀ x ∈ s.past.marks, ∀ row address, x.row = some row →
    row.newIpId = some address → x.deed = .makeMainIpv4 address →
    s.past.deeds.count (.makeMainIpv4 address) ≤ 1
  durable : ∀ x ∈ s.past.marks, x.Durable
  ordered : ∀ before d after, s.past.deeds = before ++ d :: after → d.Follows before
  begun : s.past.deeds ≠ [] →
    ∃ row, s.db.findIp operationId = some row ∧ row.Begun

/-- While no address is taken for the new one, no list that is answered makes the old one it. -/
def PollsAnother (operationId : Nat) : RotationCondition
  | .getIpv4List, s, .ok list =>
    s.past.accepted = none → ∀ row ∈ s.db.findIp operationId, ∀ created ∈ s.past.created,
      ∀ item ∈ findNewIp list ⟨row.oldIpId.getD "", row.oldIp.getD "", true⟩ created s.past.known,
        item.id ≠ "" → item.ip ≠ "" → item.id ≠ row.oldIpId.getD ""
  | _, _, _ => True

theorem polled_another (operationId : Nat) :
    Rotation.Polled (fun _ old new => new.id ≠ old.id) operationId (PollsAnother operationId) := by
  intro s list row created old item h hrow hid hip hcreated haccepted _ hfind hi hp
  have hne := h haccepted row hrow created hcreated item
  rw [hid, hip] at hne
  exact hne hfind hi hp

theorem Honest.inOrder {operationId : Nat} {s : RotationWorld}
    (h : Honest (fun _ old new => new.id ≠ old.id) operationId s) : InOrder operationId s := by
  have hbegun : s.past.deeds ≠ [] → ∃ row, s.db.findIp operationId = some row ∧ row.Begun :=
    fun hd => h.2 fun hm => hd (by rw [RotationPast.deeds, hm]; rfl)
  rcases h.1 with ⟨hm, -⟩ | ⟨config, old, new, stage, ht⟩
  · have hd : s.past.deeds = [] := by rw [RotationPast.deeds, hm]; rfl
    refine ⟨by rw [hd]; exact Nat.zero_le _, ?_, ?_, ?_, hbegun⟩
    · rw [hm]
      exact fun x hx => absurd hx List.not_mem_nil
    · rw [hm]
      exact fun x hx => absurd hx List.not_mem_nil
    · intro before d after hl
      rw [hd] at hl
      simp at hl
  · refine ⟨?_, fun x hx row address hrow hnew hdeed => ?_, ht.durable,
      fun before d after hl => ht.course.ordered hl, hbegun⟩
    · rw [ht.course.count_addIpv4]
      split
      · exact Nat.zero_le 1
      · exact le_rfl
    · obtain ⟨-, found, hfound, hx'⟩ := ht.recorded x hx
      obtain rfl : found = row := Option.some.inj (hfound.symm.trans hrow)
      rw [hdeed] at hx'
      obtain rfl : new.id = address := Option.some.inj (hx'.2.1.symm.trans hnew)
      have hmem : .makeMainIpv4 new.id ∈ s.past.deeds := by
        rw [← hdeed]
        exact List.mem_map_of_mem hx
      by_cases hstage : stage = .idle ∨ stage = .bought
      · exfalso
        rcases hstage with rfl | rfl
        · rw [ht.course.eq_path rfl] at hmem
          cases hmem
        · rw [ht.course.eq_path rfl] at hmem
          simp at hmem
      · rw [not_or] at hstage
        obtain ⟨a, ha⟩ := Option.isSome_iff_exists.mp (ht.settled hstage.1 hstage.2)
        exact (ht.course.count_makeMain (ht.accepted a ha).2).1

/-- Over any history in which the old address is never taken for the new one: one purchase,
one change to the new address, every deed recorded before and after what it depends on. -/
theorem rotation_in_order {e : RotationEnvironment} {env : Environment} {operationId : Nat}
    {s s' : RotationWorld} (hs : s.past = .empty)
    (h : RotationLives e env operationId (PollsAnother operationId) s s') :
    InOrder operationId s' :=
  (honest_lives (polled_another operationId) (honest_of_empty hs) h).inOrder

/-! A published address. -/

/-- Over any history in which no write is lost that settles the published operation, no address
is made main after the publication. -/
theorem published_stays_main {e : RotationEnvironment} {env : Environment} {operationId : Nat}
    {s s' : RotationWorld} (hs : s.past = .empty)
    (h : RotationLives e env operationId (fun _ _ _ => True) s s')
    (hsettled : .unsettled ∉ s'.past.deeds) {before after : List Deed} {newIp : String}
    (hd : s'.past.deeds = before ++ .publish newIp :: after) (id : String) :
    .makeMainIpv4 id ∉ after := by
  intro hmem
  have hpolled : Rotation.Polled (fun _ _ _ => True) operationId fun _ _ _ => True :=
    fun _ _ _ _ _ _ _ _ _ _ _ _ _ _ _ _ => trivial
  obtain ⟨middle, rest, rfl⟩ := List.append_of_mem hmem
  have hsplit : s'.past.deeds =
      (before ++ .publish newIp :: middle) ++ .makeMainIpv4 id :: rest := by
    rw [hd]
    simp
  have hfollows : Deed.Follows (before ++ .publish newIp :: middle) (.makeMainIpv4 id) := by
    rcases (honest_lives hpolled (honest_of_empty hs) h).1 with ⟨hm, -⟩ | ⟨_, _, _, _, ht⟩
    · rw [RotationPast.deeds, hm] at hsplit
      simp at hsplit
    · exact ht.course.ordered hsplit
  refine hsettled ?_
  rw [hsplit]
  exact List.mem_append_left _ (hfollows ⟨newIp, by simp⟩)

/-! The new address is new. -/

/-- The id, or else the address, that the purchase was answered with does not lead to a record
of an address or an id that was listed before. -/
def Genuine (known : List AezaIpv4) (created : AezaIpv4) (list : List AezaIpv4) : Prop :=
  if created.id ≠ "" then
    ∀ item ∈ list.find? (fun item => item.id == created.id), item.ip ≠ "" →
      created.id ∉ known.map (·.id) ∧ item.ip ∉ known.map (·.ip)
  else if created.ip ≠ "" ∧ created.ip ∉ known.map (·.ip) then
    ∀ item ∈ list.find? (fun item => item.ip == created.ip), item.id ≠ "" →
      item.id ∉ known.map (·.id)
  else True

instance (known : List AezaIpv4) (created : AezaIpv4) (list : List AezaIpv4) :
    Decidable (Genuine known created list) := by
  unfold Genuine
  infer_instance

/-- Neither the id nor the address was listed before. -/
def AezaIpv4.New (known : List AezaIpv4) (item : AezaIpv4) : Prop :=
  item.id ∉ known.map (·.id) ∧ item.ip ∉ known.map (·.ip)

theorem difference_new {list : List AezaIpv4} {old item : AezaIpv4} {known : List AezaIpv4}
    (h : (match list.filter fun item => item.id != old.id && item.ip != old.ip &&
        !(known.map (·.id)).contains item.id && !(known.map (·.ip)).contains item.ip with
      | [item] => some item
      | _ => none) = some item) : item.New known := by
  split at h
  · rename_i only hfilter
    obtain rfl := Option.some.inj h
    have hmem := List.mem_filter.mp (hfilter ▸ List.mem_singleton_self only)
    obtain ⟨hold, hip⟩ := Bool.and_eq_true_iff.mp hmem.2
    obtain ⟨-, hid⟩ := Bool.and_eq_true_iff.mp hold
    exact ⟨by simpa using hid, by simpa using hip⟩
  · cases h

/-- The address found is new exactly where the provider's answers are genuine. -/
theorem findNewIp_new_iff (list : List AezaIpv4) (old created : AezaIpv4) (known : List AezaIpv4) :
    (∀ item, findNewIp list old created known = some item → item.id ≠ "" → item.ip ≠ "" →
      item.New known) ↔ Genuine known created list := by
  unfold findNewIp Genuine
  by_cases hid : created.id ≠ ""
  · rw [if_pos hid, if_pos hid]
    refine forall_congr' fun item => forall_congr' fun hfind => ?_
    have he : item.id = created.id := by simpa using List.find?_some hfind
    rw [AezaIpv4.New, he]
    exact ⟨fun h => h hid, fun h _ => h⟩
  rw [if_neg hid, if_neg hid]
  by_cases hip : created.ip ≠ "" ∧ created.ip ∉ known.map (·.ip)
  · rw [if_pos hip, if_pos (by simpa using hip)]
    refine forall_congr' fun item => forall_congr' fun hfind => ?_
    have he : item.ip = created.ip := by simpa using List.find?_some hfind
    rw [AezaIpv4.New, he]
    exact ⟨fun h hi => (h hi hip.1).1, fun h hi _ => ⟨h hi, hip.2⟩⟩
  · rw [if_neg hip, if_neg (by simpa using hip)]
    exact ⟨fun _ => trivial, fun _ item hfind _ _ => difference_new hfind⟩

/-- While no address is taken for the new one, the lists that are answered are genuine. -/
def PollsGenuine : RotationCondition
  | .getIpv4List, s, .ok list =>
    s.past.accepted = none → ∀ created ∈ s.past.created, Genuine s.past.known created list
  | _, _, _ => True

theorem polled_genuine (operationId : Nat) :
    Rotation.Polled (fun known old new => new.New known ∧ old ∈ known) operationId
      PollsGenuine := by
  intro s list row created old item h _ _ _ hcreated haccepted hmem hfind hi hp
  exact ⟨(findNewIp_new_iff list old created s.past.known).mpr (h haccepted created hcreated) item
    hfind hi hp, hmem⟩

/-- Over any history in which the provider's answers are genuine: the address that is taken for
the new one was not listed before the purchase, and the one that is deleted is another. -/
theorem accepted_address_new {e : RotationEnvironment} {env : Environment} {operationId : Nat}
    {s s' : RotationWorld} (hs : s.past = .empty)
    (h : RotationLives e env operationId PollsGenuine s s') :
    (∀ id ip, s'.past.accepted = some (id, ip) →
      id ∉ s'.past.known.map (·.id) ∧ ip ∉ s'.past.known.map (·.ip)) ∧
    ∀ x ∈ s'.past.marks, ∀ id, x.deed = .deleteIpv4 id →
      ∃ row published, x.row = some row ∧ row.newIpId = some published ∧ id ≠ published := by
  rcases (honest_lives (polled_genuine operationId) (honest_of_empty hs) h).1 with
    ⟨hm, ha⟩ | ⟨config, old, new, stage, ht⟩
  · refine ⟨fun id ip hid => ?_, fun x hx => ?_⟩
    · rw [ha] at hid
      cases hid
    · rw [hm] at hx
      cases hx
  · refine ⟨fun id ip hid => ?_, fun x hx id hdeed => ?_⟩
    · obtain ⟨he, hnew, -⟩ := ht.accepted _ hid
      obtain ⟨rfl, rfl⟩ := Prod.mk.inj he
      exact hnew
    · obtain ⟨-, row, hrow, hx'⟩ := ht.recorded x hx
      rw [hdeed] at hx'
      obtain ⟨-, -, hnew, rfl⟩ := hx'
      have hmem : .deleteIpv4 old.id ∈ s'.past.deeds := by
        rw [← hdeed]
        exact List.mem_map_of_mem hx
      have hstage : stage ≠ .idle ∧ stage ≠ .bought := by
        constructor <;> rintro rfl <;> rw [ht.course.eq_path rfl] at hmem <;> simp at hmem
      obtain ⟨a, ha⟩ := Option.isSome_iff_exists.mp (ht.settled hstage.1 hstage.2)
      obtain ⟨-, hn, hold⟩ := ht.accepted a ha
      refine ⟨row, new.id, hrow, hnew, fun he => hn.1 ?_⟩
      rw [← he]
      exact List.mem_map_of_mem hold

end Server

namespace RotationSample

open StoreSample

/-- A client's configuration with an Aeza server, and an operation that is to rotate its address. -/
def configured (amnezia : String) : Db :=
  { added with settings := [("config.vps_provider", "aeza"), ("config.amnezia_enabled", amnezia)] }

def rotating (amnezia : String) : Db :=
  okOr (configured amnezia) ((configured amnezia).prepareIpChangeOperation env ⟨none, none⟩ 0)

def environment : RotationEnvironment where
  safeError := fun _ => "error"
  healthPayload := fun _ _ => "OK"
  appearAttempts := 1
  sshAttempts := 1

def before : List AezaIpv4 := [⟨"1", "192.0.2.1", true⟩]

def after : List AezaIpv4 := [⟨"1", "192.0.2.1", false⟩, ⟨"2", "192.0.2.2", true⟩]

/-- What the provider and the server answer; `created` answers the purchase, `after` any
listing that follows it. -/
structure Script where
  created : AezaIpv4
  after : List AezaIpv4
  exitCode : Int
  warningStored : Bool

def answered (s : RotationWorld) (c : RotationCall) (r : c.Answer) (db : Db) :
    Option (c.Answer × RotationWorld) :=
  some (r, ⟨db, s.past.next 1 s.db c r⟩)

def lost : Failure := .other "lost"

def reply (script : Script) : (c : RotationCall) → RotationWorld → Option (c.Answer × RotationWorld)
  | .loadSnapshot, s =>
    match s.db.loadIpChangeSnapshot 1 with
    | .ok loaded => answered s .loadSnapshot (.ok loaded) s.db
    | .error _ => none
  | .provider, s => answered s .provider (.ok "service") s.db
  | .desiredRevision, s => answered s .desiredRevision (.ok s.db.desiredRevision) s.db
  | .update p, s => answered s (.update p) (.ok ()) (s.db.updateOperation 1 p 0)
  | .getIpv4List, s =>
    answered s .getIpv4List (.ok (if s.past.created.isSome then script.after else before)) s.db
  | .addIpv4, s => answered s .addIpv4 (.ok script.created) s.db
  | .makeMainIpv4 id, s => answered s (.makeMainIpv4 id) (.ok ()) s.db
  | .deleteIpv4 id, s => answered s (.deleteIpv4 id) (.ok ()) s.db
  | .sleep, s => answered s .sleep (.ok ()) s.db
  | .tcpCheck host, s => answered s (.tcpCheck host) (.ok true) s.db
  | .buildScript, s => answered s .buildScript (.ok "script") s.db
  | .remoteApply host text, s => answered s (.remoteApply host text) (.ok script.exitCode) s.db
  | .deepChecks host, s =>
    answered s (.deepChecks host) (.ok [("vless", true), ("hysteria_salamander", true)]) s.db
  | .publish newIp health, s =>
    match s.db.publishIpChange env 1 ⟨newIp, health, none, none, "t2"⟩ with
    | .ok db => answered s (.publish newIp health) (.ok db.desiredRevision) db
    | .error _ => none
  | .setHealthcheck status, s =>
    if status = "WARNING" ∧ script.warningStored = false then
      answered s (.setHealthcheck status) (.error lost) s.db
    else
      answered s (.setHealthcheck status) (.ok ())
        (s.db.setSetting "last_healthcheck_status" status "t3")
  | .actionState, s =>
    answered s .actionState (.ok ((s.db.findIp 1).map (·.actionState))) s.db

/-- The answers that `allowed` lets through. -/
def replied (allowed : (c : RotationCall) → RotationWorld → c.Answer → Bool) (script : Script)
    (c : RotationCall) (s : RotationWorld) : Option (c.Answer × RotationWorld) :=
  (reply script c s).filter fun answer => allowed c s answer.1

def played (allowed : (c : RotationCall) → RotationWorld → c.Answer → Bool) (amnezia : String)
    (script : Script) : RotationWorld :=
  (Program.play (replied allowed script) (Rotation.runIpChange environment).run
    ⟨rotating amnezia, .empty⟩).1

def anything : (c : RotationCall) → RotationWorld → c.Answer → Bool := fun _ _ _ => true

def genuine : (c : RotationCall) → RotationWorld → c.Answer → Bool
  | .getIpv4List, s, .ok list =>
    decide (s.past.accepted = none → ∀ created ∈ s.past.created, Genuine s.past.known created list)
  | _, _, _ => true

def another : (c : RotationCall) → RotationWorld → c.Answer → Bool
  | .getIpv4List, s, .ok list =>
    decide (s.past.accepted = none → ∀ row ∈ s.db.findIp 1, ∀ created ∈ s.past.created,
      ∀ item ∈ findNewIp list ⟨row.oldIpId.getD "", row.oldIp.getD "", true⟩ created s.past.known,
        item.id ≠ "" → item.ip ≠ "" → item.id ≠ row.oldIpId.getD "")
  | _, _, _ => true

theorem answered_eq {s s' : RotationWorld} {c : RotationCall} {r r' : c.Answer} {db : Db}
    (h : answered s c r db = some (r', s')) : r' = r ∧ s' = ⟨db, s.past.next 1 s.db c r⟩ := by
  obtain ⟨rfl, rfl⟩ := Prod.mk.inj (Option.some.inj h)
  exact ⟨rfl, rfl⟩

theorem answered_step {s s' : RotationWorld} {c : RotationCall} {r r' : c.Answer} {db : Db}
    (h : answered s c r db = some (r', s')) (he : rotationEffect env 1 c s.db r db) :
    rotationStep env 1 (fun _ _ _ => True) c s r' s' := by
  obtain ⟨rfl, rfl⟩ := answered_eq h
  exact ⟨trivial, s.db, fun _ h => h, he, rfl⟩

theorem reply_step {script : Script} (c : RotationCall) (s : RotationWorld) (r : c.Answer)
    (s' : RotationWorld) (h : reply script c s = some (r, s')) :
    rotationStep env 1 (fun _ _ _ => True) c s r s' := by
  cases c with
  | loadSnapshot =>
    simp only [reply] at h
    split at h
    · rename_i loaded hload
      exact answered_step h ⟨rfl, .inl ⟨loaded, hload, rfl⟩⟩
    · cases h
  | publish newIp health =>
    simp only [reply] at h
    split at h
    · rename_i db hpublish
      exact answered_step h (.inl ⟨"t2", rfl, hpublish⟩)
    · cases h
  | setHealthcheck status =>
    simp only [reply] at h
    split at h
    · exact answered_step h (.inr ⟨lost, rfl, rfl⟩)
    · exact answered_step h (.inl ⟨rfl, "t3", rfl⟩)
  | update p => exact answered_step h (.inl ⟨rfl, 0, rfl⟩)
  | desiredRevision | actionState => exact answered_step h ⟨rfl, .inl rfl⟩
  | _ => exact answered_step h rfl

theorem played_lives {C : RotationCondition}
    {allowed : (c : RotationCall) → RotationWorld → c.Answer → Bool}
    (hC : ∀ c s r, allowed c s r = true → C c s r) (amnezia : String) (script : Script) :
    RotationLives environment env 1 C ⟨rotating amnezia, .empty⟩
      (played allowed amnezia script) := by
  have hstep : ∀ c s r s', replied allowed script c s = some (r, s') →
      rotationStep env 1 C c s r s' := by
    intro c s r s' h
    obtain ⟨hr, ha⟩ := Option.filter_eq_some_iff.mp h
    exact ⟨hC c s r ha, (reply_step c s r s' hr).2⟩
  obtain ⟨tr, h⟩ := Program.play_exec hstep (Rotation.runIpChange environment).run
    ⟨rotating amnezia, .empty⟩
  exact .single (.run h)

theorem anything_allowed : ∀ c s r, anything c s r = true → True := fun _ _ _ _ => trivial

theorem genuine_allowed : ∀ c s r, genuine c s r = true → PollsGenuine c s r := by
  intro c s r h
  cases c with
  | getIpv4List =>
    cases r with
    | ok list =>
      simp only [genuine, decide_eq_true_eq] at h
      exact h
    | error f => trivial
  | _ => trivial

theorem another_allowed : ∀ c s r, another c s r = true → PollsAnother 1 c s r := by
  intro c s r h
  cases c with
  | getIpv4List =>
    cases r with
    | ok list =>
      simp only [another, decide_eq_true_eq] at h
      exact h
    | error f => trivial
  | _ => trivial

/-- The provider answers the purchase with the id of the address that is main. -/
def sameId (exitCode : Int) : Script := ⟨⟨"1", "", false⟩, before, exitCode, true⟩

/-- The provider answers as it should; the warning may be lost. -/
def rightId (warningStored : Bool) : Script := ⟨⟨"2", "192.0.2.2", false⟩, after, 0, warningStored⟩

def rotated : List Deed := [.addIpv4, .makeMainIpv4 "2", .remoteApply "192.0.2.2" true,
  .verified "192.0.2.2", .publish "192.0.2.2", .deleteIpv4 "1"]

end RotationSample

open RotationSample in
theorem rotated_in_order : InOrder 1 (played another "0" (rightId true)) ∧
    (played another "0" (rightId true)).past.deeds = rotated :=
  ⟨rotation_in_order rfl (played_lives another_allowed "0" (rightId true)), by decide +kernel⟩

open RotationSample StoreSample in
/-- The old address is taken for the new one, and made main twice. -/
theorem same_address_made_main_twice : ∃ s : RotationWorld,
    RotationLives environment env 1 (fun _ _ _ => True) ⟨rotating "0", .empty⟩ s ∧
      ¬ InOrder 1 s := by
  refine ⟨_, played_lives anything_allowed "0" (sameId 1), fun h => ?_⟩
  have hcount : (played anything "0" (sameId 1)).past.deeds.count (.makeMainIpv4 "1") = 2 := by decide +kernel
  have hmark : (played anything "0" (sameId 1)).past.marks.any (fun x =>
      x.deed == .makeMainIpv4 "1" && (x.row.bind (·.newIpId)) == some "1") = true := by decide +kernel
  obtain ⟨x, hx, hboth⟩ := List.any_eq_true.mp hmark
  obtain ⟨hdeed, hnew⟩ := Bool.and_eq_true_iff.mp hboth
  obtain ⟨row, hrow, hid⟩ := Option.bind_eq_some_iff.mp (beq_iff_eq.mp hnew)
  have hle := h.mainOnce x hx row "1" hrow hid (beq_iff_eq.mp hdeed)
  omega

open RotationSample in
theorem rotated_stays_main : .makeMainIpv4 "1" ∉ [Deed.deleteIpv4 "1"] ∧
    (played anything "0" (rightId true)).past.deeds = rotated :=
  ⟨published_stays_main rfl (played_lives anything_allowed "0" (rightId true))
      (by decide +kernel)
      (show _ = rotated.take 4 ++ .publish "192.0.2.2" :: [.deleteIpv4 "1"] by decide +kernel) "1",
    by decide +kernel⟩

open RotationSample StoreSample in
/-- The purchase is confirmed and published, the warning is lost, and the old address is made
main again while the new one stays published. -/
theorem published_address_rolled_back : ∃ s : RotationWorld,
    RotationLives environment env 1 (fun _ _ _ => True) ⟨rotating "1", .empty⟩ s ∧
      s.db.setting "current_ip" = "192.0.2.2" ∧
      ((s.db.findIp 1).bind (·.oldIpId)) = some "1" ∧
      s.past.deeds = [.addIpv4, .makeMainIpv4 "2", .remoteApply "192.0.2.2" true,
        .verified "192.0.2.2", .publish "192.0.2.2", .unsettled, .makeMainIpv4 "1"] :=
  ⟨_, played_lives anything_allowed "1" (rightId false), by decide +kernel, by decide +kernel,
    by decide +kernel⟩

open RotationSample in
theorem rotated_address_new :
    ((∀ id ip, (played genuine "0" (rightId true)).past.accepted = some (id, ip) →
        id ∉ (played genuine "0" (rightId true)).past.known.map (·.id) ∧
          ip ∉ (played genuine "0" (rightId true)).past.known.map (·.ip)) ∧
      ∀ x ∈ (played genuine "0" (rightId true)).past.marks, ∀ id, x.deed = .deleteIpv4 id →
        ∃ row published, x.row = some row ∧ row.newIpId = some published ∧ id ≠ published) ∧
      (played genuine "0" (rightId true)).past.accepted = some ("2", "192.0.2.2") :=
  ⟨accepted_address_new rfl (played_lives genuine_allowed "0" (rightId true)), by decide +kernel⟩

open RotationSample StoreSample in
/-- The old address is taken for the new one, published, and deleted. -/
theorem published_address_deleted : ∃ s : RotationWorld,
    RotationLives environment env 1 (fun _ _ _ => True) ⟨rotating "0", .empty⟩ s ∧
      s.past.accepted = some ("1", "192.0.2.1") ∧ s.past.known.map (·.id) = ["1"] ∧
      s.db.setting "current_ip" = "192.0.2.1" ∧
      s.past.deeds = [.addIpv4, .makeMainIpv4 "1", .remoteApply "192.0.2.1" true,
        .verified "192.0.2.1", .publish "192.0.2.1", .deleteIpv4 "1"] :=
  ⟨_, played_lives anything_allowed "0" (sameId 0), by decide +kernel, by decide +kernel,
    by decide +kernel, by decide +kernel⟩

end AutoVPN
