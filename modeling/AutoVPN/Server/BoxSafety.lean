import AutoVPN.Server.BoxRuns

/-! What every interleaving of runs guarantees: one box is bought, and what is published is a new
box under the marker of its purchase with a new address. -/

namespace AutoVPN

open Server Server.Db

namespace Server

variable {e : BoxEnvironment} {env : Environment} {operationId : Nat}

theorem box_contract (e : BoxEnvironment) (env : Environment) (operationId : Nat) :
    Crew.Contract (boxStep env operationId) (BoxMove operationId) (boxStarts e)
      (fun _ s s' => s' = s) (Certain e operationId) (Relied operationId) (Justified e operationId)
      (fun _ => Program.Ends (fun _ _ => True) fun _ _ => True) where
  refl := Relied.refl operationId
  trans := Relied.trans operationId
  move := certain_move
  call := certain_call
  start := fun hp _ => hp.1 ▸ BoxRotation.secure_run
  leave := fun h hl => by
    subst hl
    exact ⟨h, fun t _ => Relied.refl operationId t _⟩

/-- No run of the operation has bought anything yet. -/
structure BoxStart (operationId : Nat) (s : BoxWorld) : Prop where
  past : s.past = []
  buyer : s.buyer = none
  row : ∀ row, s.db.findIp operationId = some row → row.purchaseState = .notStarted

theorem BoxStart.certain {s : BoxWorld} (h : BoxStart operationId s) : Certain e operationId s := by
  have hzero : creations s.past = 0 := by
    rw [h.past]
    rfl
  refine ⟨fun _ => ⟨hzero, h.row⟩, fun hb => absurd h.buyer hb, hzero.le.trans (Nat.zero_le 1),
    fun before m after name ip health keyPath answer hsplit => ?_, fun row hrow hcon => ?_⟩
  · rw [h.past] at hsplit
    simp at hsplit
  · rw [h.row row hrow] at hcon
    cases hcon

end Server

/-- Over every interleaving of runs, restarts and answers of the provider: one box is bought, and a
box that is published was found, listed alone among the new boxes, under the marker of the purchase
and with a new address. -/
theorem Server.box_bought_once {e : BoxEnvironment} {env : Environment} {operationId : Nat}
    {s : BoxWorld} (hs : BoxStart operationId s) {c : BoxCrew}
    (h : BoxRuns e env operationId ⟨s, fun _ => none⟩ c) :
    creations c.state.past ≤ 1 ∧
      ∀ before m after name ip health keyPath answer, c.state.past = before ++ m :: after →
        m.event = ⟨.publish name ip health keyPath, answer⟩ → Identified e before name ip := by
  have hcertain := ((box_contract e env operationId).runs (Crew.Sound.idle hs.certain) h).1
  exact ⟨hcertain.once, hcertain.published⟩

namespace BoxSample

open StoreSample (added okOr)

def environment : BoxEnvironment where
  sanitize := id
  sha256 := fun _ => "hash"
  ipv4Address := fun v => match v with
    | .string s => some s
    | _ => none
  text := BoxRotation.textOf
  requestId := "request"
  pollAttempts := 1
  deployPolls := 1

def configured : ConfiguredProvider :=
  ⟨"sprintbox", "login", "key", "", "service", "distributive"⟩

def bound : Value := .object (("provider", .string "sprintbox") ::
  ("credential_hash", .string "hash") :: configured.bindings.map fun b => (b.1, .string b.2))

def env : Environment := { StoreSample.env with
  sha256Text := fun _ => "hash"
  configDefault := fun _ => "" }

/-- A client's configuration with a SprintBOX account, and an operation that is to buy a box. -/
def account : Db := { added with settings := [("config.vps_provider", "sprintbox"),
  ("config.sprintbox_login", "login"), ("config.sprintbox_key", "key"),
  ("config.sprintbox_service", "service"), ("config.sprintbox_distributive", "distributive")] }

def start : BoxWorld where
  db := okOr account (account.prepareIpChangeOperation env ⟨none, none⟩ 0)
  past := []
  buyer := none

def box (name label ip : String) : String × Value :=
  (name, .object [("name", .string name), ("description", .string label),
    ("ipv4", .array [.string ip])])

/-- The box of another server, which later carries the marker too. -/
def before : Boxes := [box "one" "one" "192.0.2.1"]

def after (marker : String) : Boxes := [box "one" marker "192.0.2.1", box "two" marker "192.0.2.2"]

/-- The marker of the purchase so far. -/
def marker? (past : List RunMark) : Option String :=
  past.findSome? fun m => match m.event with
    | ⟨.createBox _ _ _ marker, _⟩ => some marker
    | _ => none

def answered (s : BoxWorld) (c : BoxCall) (r : c.Answer) (db : Db) : Option (c.Answer × BoxWorld) :=
  some (r, ⟨db, s.past ++ [⟨0, s.db, c, r⟩], if bought c r then some 0 else s.buyer⟩)

def reply : (c : BoxCall) → BoxWorld → Option (c.Answer × BoxWorld)
  | .loadSnapshot, s =>
    match s.db.loadIpChangeSnapshot 1 with
    | .ok loaded => answered s .loadSnapshot (.ok loaded) s.db
    | .error _ => none
  | .boundProvider, s => answered s .boundProvider (.ok bound) s.db
  | .configured, s => answered s .configured (.ok configured) s.db
  | .desiredRevision, s => answered s .desiredRevision (.ok s.db.desiredRevision) s.db
  | .transactionalApply, s => answered s .transactionalApply (.ok true) s.db
  | .sshHost, s => answered s .sshHost (.ok "") s.db
  | .prepareSsh, s => answered s .prepareSsh (.ok ⟨"/key", "public"⟩) s.db
  | .context, s => answered s .context (.ok (s.db.sprintboxContext env 1)) s.db
  | .retainedBoxes name ip v, s => answered s (.retainedBoxes name ip v) (.ok (.object [])) s.db
  | .update p, s => answered s (.update p) (.ok ()) (s.db.updateOperation 1 p 0)
  | .listBoxes, s => answered s .listBoxes (.ok (((marker? s.past).map after).getD before)) s.db
  | .getBox name, s => answered s (.getBox name) (.ok .null) s.db
  | .randomLabel, s => answered s .randomLabel (.ok 0) s.db
  | .saveContext context, s => answered s (.saveContext context) (.ok ())
      (s.db.setSetting (operationKey 1 "sprintbox") (env.dumps context) "t1")
  | .claimPurchase, s => answered s .claimPurchase (.ok (s.db.claimPurchase 1).1)
      (s.db.claimPurchase 1).2
  | .createBox service distributive key marker, s =>
    answered s (.createBox service distributive key marker) (.ok "task") s.db
  | .taskStatus task, s => answered s (.taskStatus task) (.ok "finished") s.db
  | .sleep, s => answered s .sleep (.ok ()) s.db
  | .waitForSsh host, s => answered s (.waitForSsh host) (.ok true) s.db
  | .deployed host, s => answered s (.deployed host) (.ok (some 0)) s.db
  | .protocolHealth host, s => answered s (.protocolHealth host) (.ok "OK") s.db
  | .publish name ip health keyPath, s =>
    match s.db.publishIpChange env 1 ⟨ip, health, some name, some keyPath, "t2"⟩ with
    | .ok db => answered s (.publish name ip health keyPath) (.ok db.desiredRevision) db
    | .error _ => none
  | .claimResume, s => answered s .claimResume (.error (.other "lost")) s.db
  | .keyFile path, s => answered s (.keyFile path) (.ok true) s.db

theorem answered_step {s s' : BoxWorld} {c : BoxCall} {r r' : c.Answer} {db : Db}
    (h : answered s c r db = some (r', s')) (he : boxEffect env 1 c s.db r db) :
    boxStep env 1 0 c s r' s' := by
  obtain ⟨rfl, rfl⟩ := Prod.mk.inj (Option.some.inj h)
  exact ⟨he, rfl, rfl⟩

theorem reply_step (c : BoxCall) (s : BoxWorld) (r : c.Answer) (s' : BoxWorld)
    (h : reply c s = some (r, s')) : boxStep env 1 0 c s r s' := by
  cases c with
  | loadSnapshot =>
    simp only [reply] at h
    split at h
    · rename_i loaded hload
      exact answered_step h ⟨rfl, .inl ⟨loaded, hload, rfl⟩⟩
    · cases h
  | publish name ip health keyPath =>
    simp only [reply] at h
    split at h
    · rename_i db hpublish
      exact answered_step h (.inl ⟨"t2", rfl, hpublish⟩)
    · cases h
  | update p => exact answered_step h (.inl ⟨rfl, 0, rfl⟩)
  | saveContext context => exact answered_step h (.inl ⟨rfl, "t1", rfl⟩)
  | claimPurchase => exact answered_step h (.inl ⟨rfl, rfl⟩)
  | claimResume => exact answered_step h (.inr ⟨.other "lost", rfl, rfl⟩)
  | _ => exact answered_step h rfl

def played : BoxWorld :=
  (Program.play reply (BoxRotation.runSprintboxRotation environment).run start).1

theorem played_runs : ∃ c, BoxRuns environment env 1 ⟨start, fun _ => none⟩ c ∧
    c.state = played := by
  obtain ⟨tr, h⟩ := Program.play_exec reply_step
    (BoxRotation.runSprintboxRotation environment).run start
  obtain ⟨q, hq⟩ : ∃ q, BoxRuns environment env 1 _ ⟨played, Function.update _ 0 (some q)⟩ :=
    Crew.Runs.exec (Function.update_self 0 _ fun _ => none) h
  exact ⟨_, .head (.start ⟨rfl, fun _ hm => by cases hm⟩ rfl) hq, rfl⟩

end BoxSample

open BoxSample in
/-- The new box is published, though another server's box carries the marker by then. -/
theorem Server.box_bought_once_relabelled :
    (creations played.past ≤ 1 ∧
      ∀ before m after name ip health keyPath answer, played.past = before ++ m :: after →
        m.event = ⟨.publish name ip health keyPath, answer⟩ →
          Identified environment before name ip) ∧
      played.db.setting "config.sprintbox_box_name" = "two" ∧
      played.db.setting "current_ip" = "192.0.2.2" := by
  obtain ⟨c, hc, hstate⟩ := played_runs
  refine ⟨?_, by decide +kernel, by decide +kernel⟩
  rw [← hstate]
  exact box_bought_once ⟨rfl, rfl, fun row hrow => by
    obtain rfl := Option.some.inj hrow
    rfl⟩ hc

end AutoVPN
