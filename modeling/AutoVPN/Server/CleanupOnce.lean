import AutoVPN.Server.Cleanup
import AutoVPN.Server.Holds
import AutoVPN.Server.Revisions
import AutoVPN.Server.RotationOnce
import Mathlib.Data.List.Induction

/-! A cleanup deletes a box only with its record before it and once, and knows of every deletion
that was left without an answer. -/

namespace AutoVPN

open Server Server.Db

namespace Server

/-! What is asked of every deletion. -/

def CleanupMark.deletes (name : String) (x : CleanupMark) : Bool :=
  match x.event with
  | ⟨.deleteBox other, _⟩ => other == name
  | _ => false

/-- A deletion without an answer: it raised anything but a rejection. -/
def CleanupMark.unanswered (x : CleanupMark) : Bool :=
  match x.event with
  | ⟨.deleteBox _, .error f⟩ => !f.isApi
  | _ => false

def deleteStep : IpPatch := { status := some .running, currentStep := some "delete_old_box" }

/-- The box is retained with the address that it has just been fetched with, the operation has just
been validated, the deletion is on record, and the box is not the one that was published. -/
def Authorised (env : Environment) (operationId : Nat) (before : List CleanupMark) (db : Db)
    (name : String) : Prop :=
  (∃ claim ∈ before, ∃ context expected row earlier d₁ d₂ d₃ d₄ d₅ names ips record,
    claim.event = ⟨.claim, .ok (some context)⟩ ∧
    context = claim.db.sprintboxContext env operationId ∧
    (name, expected) ∈ (context.get "retained_boxes").fields ∧
    before = earlier ++ [⟨d₁, .validateTarget, .ok row⟩, ⟨d₂, .update deleteStep, .ok ()⟩,
      ⟨d₃, .listBoxes, .ok names⟩, ⟨d₄, .getBox name, .ok ips⟩, ⟨d₅, .save record, .ok ()⟩] ∧
    d₁.validateTarget env operationId = .ok row ∧ name ∈ names ∧ Cleanup.hasIp ips expected = true ∧
    db.lookup (contextKey operationId) = some (env.dumps record) ∧
    ((record.get "cleanup_results").get name).get "state" = .string "SENDING") ∧
  ∃ row, db.findIp operationId = some row ∧ row.newIpId ≠ some name

/-- Every deletion so far is authorised and the first of its box. -/
def Proper (env : Environment) (operationId : Nat) (past : List CleanupMark) : Prop :=
  ∀ before x after name, past = before ++ x :: after → x.deletes name = true →
    Authorised env operationId before x.db name ∧ ∀ y ∈ before, y.deletes name = false

/-- A deletion has no answer, or is the last that has happened. -/
def Pending (past : List CleanupMark) : Prop :=
  (∃ x ∈ past, x.unanswered = true) ∨ (past.getLast?).any (fun x => isDelete x.event) = true

/-- The row of an operation whose cleanup has begun; with `u` it may not have ended well. -/
def Concluded (u : Prop) (row : IpOperation) : Prop :=
  row.started = true ∧
    ((row.status = .running ∧ (row.actionState = .cleanupRunning ∨ row.actionState = .ambiguous)) ∨
      (row.status = .ambiguous ∧ row.actionState = .ambiguous) ∨
      (row.status = .done ∧ row.actionState = .cleanupAmbiguous) ∨
      (row.status.terminal = true ∧ row.actionState = .reconciled) ∨
      (¬u ∧ row.status = .done ∧ (row.actionState = .done ∨ row.actionState = .cleanupRejected)))

/-- The row while the cleanup runs; the published box is `published`. -/
def Cleaning (published : Option String) (row : IpOperation) : Prop :=
  row.started = true ∧ row.newIpId = published ∧
    ((row.status = .running ∧ (row.actionState = .cleanupRunning ∨ row.actionState = .ambiguous)) ∨
      (row.status = .ambiguous ∧ row.actionState = .ambiguous))

theorem Cleaning.concluded {published : Option String} {row : IpOperation}
    (h : Cleaning published row) (u : Prop) : Concluded u row := ⟨h.1, h.2.2.imp id .inl⟩

theorem Concluded.mono {u u' : Prop} {row : IpOperation} (h : Concluded u row) (hu : u' → u) :
    Concluded u' row :=
  ⟨h.1, h.2.imp id (Or.imp id (Or.imp id (Or.imp id fun hd => ⟨fun h' => hd.1 (hu h'), hd.2⟩)))⟩

/-! Interruptions. -/

theorem started_interrupt (reason : String) (o : IpOperation) :
    (o.interrupt reason).started = o.started := by
  unfold IpOperation.interrupt
  split
  · rfl
  split
  · rfl
  split <;> rfl

theorem newIpId_interrupt (reason : String) (o : IpOperation) :
    (o.interrupt reason).newIpId = o.newIpId := by
  unfold IpOperation.interrupt
  split
  · rfl
  split
  · rfl
  split <;> rfl

theorem interrupt_running {o : IpOperation} (hs : o.started = true) (hr : o.status = .running)
    (ha : o.actionState = .cleanupRunning ∨ o.actionState = .ambiguous) (reason : String) :
    (o.interrupt reason).status = .ambiguous ∧ (o.interrupt reason).actionState = .ambiguous := by
  have hterminal : o.status.terminal = false := by rw [hr]; rfl
  have hwaits : o.waitsForSsh = false := by
    unfold IpOperation.waitsForSsh
    rcases ha with ha | ha <;> rw [ha] <;> rfl
  unfold IpOperation.interrupt
  rw [if_neg (by rw [hterminal]; decide), if_neg (by rw [hwaits]; decide), if_pos hs]
  exact ⟨rfl, rfl⟩

theorem Cleaning.interrupt {published : Option String} {row : IpOperation}
    (h : Cleaning published row) (reason : String) : Cleaning published (row.interrupt reason) := by
  refine ⟨(started_interrupt reason row).trans h.1, (newIpId_interrupt reason row).trans h.2.1, ?_⟩
  rcases h.2.2 with ⟨hr, ha⟩ | ⟨hr, ha⟩
  · exact .inr (interrupt_running h.1 hr ha reason)
  · rw [terminal_interrupt (by rw [hr]; rfl)]
    exact .inr ⟨hr, ha⟩

theorem Concluded.interrupt {u : Prop} {row : IpOperation} (h : Concluded u row) (reason : String) :
    Concluded u (row.interrupt reason) := by
  refine ⟨(started_interrupt reason row).trans h.1, ?_⟩
  rcases h.2 with ⟨hr, ha⟩ | h'
  · exact .inr (.inl (interrupt_running h.1 hr ha reason))
  · have hterminal : row.status.terminal = true := by
      rcases h' with ⟨hr, -⟩ | ⟨hr, -⟩ | ⟨hr, -⟩ | ⟨-, hr, -⟩
      · rw [hr]; rfl
      · rw [hr]; rfl
      · exact hr
      · rw [hr]; rfl
    rw [terminal_interrupt hterminal]
    exact .inr h'

theorem Beside.row {operationId : Nat} {db db' : Db} {K : IpOperation → Prop}
    (h : Beside operationId db db') (hK : ∀ row reason, K row → K (row.interrupt reason))
    (hrow : ∃ row, db.findIp operationId = some row ∧ K row) :
    ∃ row, db'.findIp operationId = some row ∧ K row := by
  obtain ⟨row, hrow, hk⟩ := hrow
  rcases h.1 with he | ⟨reason, he⟩
  · exact ⟨row, he.trans hrow, hk⟩
  · exact ⟨row.interrupt reason, by rw [he, hrow]; rfl, hK row reason hk⟩

/-! The marks. -/

theorem deletes_isDelete {x : CleanupMark} {name : String} (h : x.deletes name = true) :
    isDelete x.event = true := by
  unfold CleanupMark.deletes at h
  split at h
  · rename_i he
    rw [he]
    rfl
  · cases h

theorem unanswered_isDelete {x : CleanupMark} (h : x.unanswered = true) :
    isDelete x.event = true := by
  unfold CleanupMark.unanswered at h
  split at h
  · rename_i he
    rw [he]
    rfl
  · cases h

theorem Proper.append {env : Environment} {operationId : Nat} {past : List CleanupMark}
    (h : Proper env operationId past) {x : CleanupMark}
    (hx : ∀ name, x.deletes name = true →
      Authorised env operationId past x.db name ∧ ∀ y ∈ past, y.deletes name = false) :
    Proper env operationId (past ++ [x]) := by
  intro before y after name hsplit hy
  rcases Course.append_singleton_eq hsplit with ⟨rfl, rfl⟩ | ⟨rest, hpast⟩
  · exact hx name hy
  · exact h before y rest name hpast hy

theorem Proper.count {env : Environment} {operationId : Nat} {past : List CleanupMark}
    (h : Proper env operationId past) (name : String) :
    past.countP (·.deletes name) ≤ 1 := by
  induction past using List.reverseRecOn with
  | nil => exact Nat.zero_le 1
  | append_singleton past x ih =>
    rw [List.countP_append, List.countP_singleton]
    split
    · rename_i hx
      have hnone : past.countP (·.deletes name) = 0 :=
        List.countP_eq_zero.mpr fun y hy => by
          rw [(h past x [] name rfl hx).2 y hy]
          decide
      rw [hnone]
    · refine (Nat.add_zero _).le.trans (ih fun before y after name hsplit hy => ?_)
      exact h before y (after ++ [x]) name (by rw [hsplit]; simp) hy


/-- No box has been asked to be deleted. -/
def Uncleaned (operationId : Nat) (s : CleanupWorld) : Prop :=
  (∀ x ∈ s.past, isDelete x.event = false) ∧ s.cut = false ∧
    ∀ row, s.db.findIp operationId = some row → row.started = true

/-- The cleanup has begun, and the row does not deny what has happened. -/
def Accounted (operationId : Nat) (s : CleanupWorld) : Prop :=
  ∃ row, s.db.findIp operationId = some row ∧ Concluded (s.cut = true ∨ Pending s.past) row

/-- What is asked of every call of a run. -/
def Permitted (env : Environment) (operationId : Nat) (c : CleanupCall) (s : CleanupWorld) : Prop :=
  (Uncleaned operationId s ∨ Accounted operationId s) ∧
    match c with
    | .deleteBox name => ∀ db, Beside operationId s.db db →
      Authorised env operationId s.past db name ∧ ∀ y ∈ s.past, y.deletes name = false
    | _ => True

/-- The cleanup runs, and nothing was deleted since `past`. -/
structure Underway (operationId : Nat) (published : Option String) (past : List CleanupMark)
    (s : CleanupWorld) : Prop where
  cut : s.cut = false
  grown : ∃ more, s.past = past ++ more ∧ ∀ x ∈ more, isDelete x.event = false
  row : ∃ row, s.db.findIp operationId = some row ∧ Cleaning published row

/-- The calls that delete nothing and leave the row to the cleanup. -/
def Harmless : CleanupCall → Prop
  | .update p => ∀ published row, Cleaning published row → Cleaning published (p.apply row)
  | .claim => False
  | .deleteBox _ => False
  | _ => True

theorem Harmless.isDelete {c : CleanupCall} (h : Harmless c) (r : c.Answer) :
    isDelete ⟨c, r⟩ = false := by
  cases c with
  | deleteBox name => exact h.elim
  | _ => rfl

section

variable {env : Environment} {operationId : Nat} {published : Option String}
  {past : List CleanupMark} {s s' : CleanupWorld}

theorem Underway.accounted (h : Underway operationId published past s) :
    Accounted operationId s := by
  obtain ⟨row, hrow, hc⟩ := h.row
  exact ⟨row, hrow, hc.concluded _⟩

theorem Underway.permitted (h : Underway operationId published past s) {c : CleanupCall}
    (hc : Harmless c) :
    Permitted env operationId c s := by
  refine ⟨.inr h.accounted, ?_⟩
  cases c with
  | deleteBox name => exact hc.elim
  | _ => trivial

theorem Harmless.effect {c : CleanupCall} (hc : Harmless c) {db db' : Db} {r : c.Answer}
    (h : cleanupEffect env operationId c db r db')
    (hrow : ∃ row, db.findIp operationId = some row ∧ Cleaning published row) :
    ∃ row, db'.findIp operationId = some row ∧ Cleaning published row := by
  cases c with
  | claim => exact hc.elim
  | deleteBox name => exact hc.elim
  | validateTarget =>
    rw [h.1]
    exact hrow
  | update p =>
    rcases h with ⟨-, now, rfl⟩ | ⟨f, -, rfl⟩
    · obtain ⟨row, hrow, hclean⟩ := hrow
      exact ⟨p.apply row, findIp_updateOperation hrow p now, hc published row hclean⟩
    · exact hrow
  | save context =>
    rcases h with ⟨-, timestamp, rfl⟩ | ⟨f, -, rfl⟩
    · rw [findIp_of_eq (setSetting_ipOperations db _ _ timestamp)]
      exact hrow
    · exact hrow
  | listBoxes | getBox | taskStatus | sleep =>
    obtain rfl : db' = db := h
    exact hrow

theorem Harmless.step {c : CleanupCall} (hc : Harmless c) {r : c.Answer}
    (h : Underway operationId published past s) (hs : cleanupStep env operationId c s r s') :
    Underway operationId published past s' := by
  obtain ⟨hcut, db, hbeside, heffect, hpast⟩ := hs
  obtain ⟨more, hmore, hharmless⟩ := h.grown
  refine ⟨hcut.trans h.cut,
    ⟨more ++ [⟨db, c, r⟩], by rw [hpast, hmore, List.append_assoc], fun x hx => ?_⟩,
    hc.effect heffect (hbeside.row (fun _ reason h => h.interrupt reason) h.row)⟩
  rcases List.mem_append.mp hx with hx | hx
  · exact hharmless x hx
  · rw [List.mem_singleton.mp hx]
    exact hc.isDelete r

theorem Underway.here (h : Underway operationId published past s) :
    Underway operationId published s.past s :=
  ⟨h.cut, ⟨[], (List.append_nil _).symm, fun _ hx => absurd hx List.not_mem_nil⟩, h.row⟩

end

namespace Cleanup

open Program

section

variable {env : Environment} {operationId : Nat} {published : Option String}
  {past : List CleanupMark} {s : CleanupWorld} {α ε : Type}

/-- The program makes permitted calls; it returns where `R` holds and raises where `E` does. -/
abbrev Keeps (env : Environment) (operationId : Nat) (R : α → CleanupWorld → Prop)
    (E : ε → CleanupWorld → Prop) (x : Raising ε CleanupCall CleanupCall.Answer α)
    (s : CleanupWorld) : Prop :=
  Sat (cleanupStep env operationId) (Permitted env operationId) (Ends R E) x.run s

theorem keeps_quiet {x : Cleanup α} (h : Uses Harmless x.run)
    (hs : Underway operationId published past s) :
    Keeps env operationId (fun _ => Underway operationId published past)
      (fun _ => Underway operationId published past) x s :=
  h.guarded (fun _ _ _ _ hc hs h => hc.step hs h) (fun _ _ hc hs => hs.permitted hc) hs

theorem keeps_ask {c : CleanupCall} (hc : Harmless c) (hs : Underway operationId published past s)
    {R : c.Value → CleanupWorld → Prop}
    (hR : ∀ a db s', Underway operationId published past s' →
      cleanupEffect env operationId c db (.ok a) s'.db → s'.past = s.past ++ [⟨db, c, .ok a⟩] →
      R a s') :
    Keeps env operationId R (fun _ => Underway operationId published past) (ask c) s := by
  refine ⟨hs.permitted hc, fun r s' hstep => ?_⟩
  have hw := hc.step hs hstep
  obtain ⟨-, db, -, heffect, hpast⟩ := hstep
  cases r with
  | ok a => exact hR a db s' hw heffect hpast
  | error f => exact hw

theorem keeps_during {a : Attempt} {x : Cleanup α} {R : α → CleanupWorld → Prop}
    {E : BoxFailure → CleanupWorld → Prop} (h : Keeps env operationId R E x s) :
    Keeps env operationId R (fun fa s => E fa.1 s ∧ fa.2 = a) (during a x) s := by
  refine Sat.bind (h.post fun r s hr => ?_)
  cases r with
  | ok a => exact hr
  | error f => exact ⟨hr, rfl⟩

theorem quiet_step (name : String) :
    Harmless (.update { status := some .running, currentStep := some name }) := by
  rintro published row ⟨hs, hn, h⟩
  refine ⟨hs, hn, .inl ⟨rfl, ?_⟩⟩
  rcases h with ⟨-, ha⟩ | ⟨-, ha⟩
  · exact ha
  · exact .inr ha

theorem uses_ask {c : CleanupCall} (h : Harmless c) : Uses Harmless (ask c).run :=
  ⟨h, fun _ => trivial⟩

theorem uses_pause (remaining : Nat) : Uses Harmless (pause remaining).run := by
  unfold pause
  split
  · exact uses_pure _
  · exact uses_ask trivial

theorem uses_waitTask (task name : String) (attempts : Nat) :
    Uses Harmless (waitTask task name attempts).run := by
  induction attempts with
  | zero => exact uses_throw _
  | succ remaining ih =>
    unfold waitTask
    refine uses_bind (uses_ask (quiet_step name)) fun _ => ?_
    refine uses_bind (uses_ask trivial) fun status => ?_
    split
    · exact uses_pure _
    split
    · exact uses_throw _
    · exact uses_bind (uses_pause remaining) fun _ => ih

/-- The checks have passed for the box, one after the other. -/
def Checked (env : Environment) (operationId : Nat) (active : IpOperation) (context : Value)
    (name : String) (expected : Value) (before after : List CleanupMark) : Prop :=
  ∃ d₁ row d₂ d₃ names d₄ ips,
    after = before ++ [⟨d₁, .validateTarget, .ok row⟩, ⟨d₂, .update deleteStep, .ok ()⟩,
      ⟨d₃, .listBoxes, .ok names⟩, ⟨d₄, .getBox name, .ok ips⟩] ∧
    d₁.validateTarget env operationId = .ok row ∧ name ∈ names ∧ hasIp ips expected = true ∧
    active.newIpId ≠ some name ∧ (results context).has name = false

theorem keeps_checkBox (active : IpOperation) (context : Value) (name : String) (expected : Value)
    (hs : Underway operationId published past s) :
    Keeps env operationId
      (fun listed s' => Underway operationId published past s' ∧
        (listed = true → Checked env operationId active context name expected s.past s'.past))
      (fun _ => Underway operationId published past) (checkBox active context name expected) s := by
  unfold checkBox
  refine ends_bind (keeps_ask (c := .validateTarget) (R := fun row s' =>
    Underway operationId published past s' ∧ ∃ d, d.validateTarget env operationId = .ok row ∧
      s'.past = s.past ++ [⟨d, .validateTarget, .ok row⟩]) trivial hs fun row d s' hw he hp => ?_)
    (fun _ _ h => h) ?_
  · obtain ⟨-, ⟨row', hrow, hr⟩ | ⟨f, hf⟩⟩ := he
    · obtain rfl := Except.ok.inj hr
      exact ⟨hw, d, hrow, hp⟩
    · cases hf
  rintro row s₁ ⟨hw₁, d₁, hvalid, hp₁⟩
  split
  · exact hw₁
  rename_i hactive
  refine ends_bind (keeps_ask (R := fun _ s' => Underway operationId published past s' ∧ ∃ d,
    s'.past = s₁.past ++ [⟨d, .update deleteStep, .ok ()⟩]) (quiet_step _) hw₁
      fun _ d s' hw _ hp => ⟨hw, d, hp⟩) (fun _ _ h => h) ?_
  rintro - s₂ ⟨hw₂, d₂, hp₂⟩
  refine ends_bind (keeps_ask (c := .listBoxes) (R := fun names s' =>
    Underway operationId published past s' ∧ ∃ d, s'.past = s₂.past ++ [⟨d, .listBoxes, .ok names⟩])
      trivial hw₂ fun _ d s' hw _ hp => ⟨hw, d, hp⟩) (fun _ _ h => h) ?_
  rintro names s₃ ⟨hw₃, d₃, hp₃⟩
  split
  · exact ⟨hw₃, fun h => by cases h⟩
  rename_i hlisted
  refine ends_bind (keeps_ask (c := .getBox name) (R := fun ips s' =>
    Underway operationId published past s' ∧ ∃ d, s'.past = s₃.past ++ [⟨d, .getBox name, .ok ips⟩])
      trivial hw₃ fun _ d s' hw _ hp => ⟨hw, d, hp⟩) (fun _ _ h => h) ?_
  rintro ips s₄ ⟨hw₄, d₄, hp₄⟩
  split
  · exact hw₄
  rename_i hip
  split
  · exact hw₄
  rename_i hnew
  refine ⟨hw₄, fun _ => ⟨d₁, row, d₂, d₃, names, d₄, ips, ?_, hvalid, ?_, ?_, hactive, ?_⟩⟩
  · rw [hp₄, hp₃, hp₂, hp₁]
    simp
  · simpa using hlisted
  · simpa using hip
  · simpa using hnew

end

end Cleanup


/-- A deletion has been left without an answer. -/
def Lost (past : List CleanupMark) : Prop := ∃ x ∈ past, x.unanswered = true

/-- The results name every box that has been asked to be deleted. -/
structure Covers (context : Value) (past : List CleanupMark) : Prop where
  object : context.isObject = true
  results : (Cleanup.results context).isObject = true
  names : ∀ x ∈ past, ∀ name, x.deletes name = true → (Cleanup.results context).has name = true

/-- The context that the run has claimed. -/
def Claimed (env : Environment) (operationId : Nat) (context : Value) (past : List CleanupMark) :
    Prop :=
  ∃ claim ∈ past, claim.event = ⟨.claim, .ok (some context)⟩ ∧
    context = claim.db.sprintboxContext env operationId

section

variable {env : Environment} {operationId : Nat} {published : Option String} {context : Value}
  {past : List CleanupMark} {s : CleanupWorld}

theorem Claimed.append (h : Claimed env operationId context past) (more : List CleanupMark) :
    Claimed env operationId context (past ++ more) := by
  obtain ⟨claim, hmem, hc⟩ := h
  exact ⟨claim, List.mem_append_left _ hmem, hc⟩

theorem Underway.claimed (h : Underway operationId published past s)
    (hc : Claimed env operationId context past) : Claimed env operationId context s.past := by
  obtain ⟨more, hmore, -⟩ := h.grown
  rw [hmore]
  exact hc.append more

theorem Underway.lost (h : Underway operationId published past s) (hl : Lost s.past) :
    Lost past := by
  obtain ⟨more, hmore, hharmless⟩ := h.grown
  obtain ⟨x, hx, hu⟩ := hl
  rw [hmore] at hx
  rcases List.mem_append.mp hx with hx | hx
  · exact ⟨x, hx, hu⟩
  · have hfalse := hharmless x hx
    rw [unanswered_isDelete hu] at hfalse
    cases hfalse

theorem Underway.covers (h : Underway operationId published past s) (hc : Covers context past) :
    Covers context s.past := by
  obtain ⟨more, hmore, hharmless⟩ := h.grown
  refine ⟨hc.object, hc.results, fun x hx name hd => ?_⟩
  rw [hmore] at hx
  rcases List.mem_append.mp hx with hx | hx
  · exact hc.names x hx name hd
  · have hfalse := hharmless x hx
    rw [deletes_isDelete hd] at hfalse
    cases hfalse

theorem results_setResult (h : context.isObject = true) (name : String) (result : Value) :
    Cleanup.results (Cleanup.setResult context name result) =
      (Cleanup.results context).put name result :=
  Value.get_put_self h

theorem Covers.setResult (h : Covers context past) (name : String) (result : Value) :
    Covers (Cleanup.setResult context name result) past := by
  refine ⟨Value.isObject_put.trans h.object, ?_, fun x hx other hd => ?_⟩
  · rw [results_setResult h.object, Value.isObject_put]
    exact h.results
  · rw [results_setResult h.object, Value.has_object_put h.results, h.names x hx other hd,
      Bool.or_true]

theorem Covers.settle (h : Covers context past) (name : String) :
    Covers (Cleanup.settle context name) past := by
  have hput (x : Value) : Covers (context.put "retained_boxes" x) past := by
    have hresults : Cleanup.results (context.put "retained_boxes" x) = Cleanup.results context :=
      Value.get_put_other (by decide)
    refine ⟨Value.isObject_put.trans h.object, ?_, ?_⟩
    · rw [hresults]
      exact h.results
    · rw [hresults]
      exact h.names
  unfold Cleanup.settle
  split
  · exact hput _
  · exact hput _
  · exact h

theorem Covers.deletion (h : Covers context past) {x : CleanupMark} {name : String}
    (hx : ∀ other, x.deletes other = true → other = name) (result : Value) :
    Covers (Cleanup.setResult context name result) (past ++ [x]) := by
  have hset := h.setResult name result
  refine ⟨hset.object, hset.results, fun y hy other hd => ?_⟩
  rcases List.mem_append.mp hy with hy | hy
  · exact hset.names y hy other hd
  · obtain rfl := hx other (by rw [← List.mem_singleton.mp hy]; exact hd)
    rw [results_setResult h.object, Value.has_object_put h.results, beq_self_eq_true, Bool.true_or]

theorem lookup_setSetting_context (db : Db) (operationId : Nat) (value timestamp : String) :
    (db.setSetting (contextKey operationId) value timestamp).lookup (contextKey operationId) =
      some value := by
  have hkey : isVpnSetting (contextKey operationId) = false :=
    (Bool.or_eq_false_iff.mp (capturedKey_operationKey operationId "sprintbox")).1
  unfold setSetting
  dsimp only
  rw [if_neg (by rw [hkey, Bool.false_and]; decide)]
  exact lookup_storeSetting_self _ _

end

namespace Cleanup

open Program

/-- What an attempt leaves behind, begun where the past was `before`. -/
structure Kept (operationId : Nat) (published : Option String) (before : List CleanupMark)
    (context : Value) (lost : Prop) (s : CleanupWorld) : Prop where
  live : Underway operationId published s.past s
  grown : ∃ more, s.past = before ++ more
  covers : Covers context s.past
  lost : Lost s.past → Lost before ∨ lost

section

variable {env : Environment} {operationId : Nat} {published : Option String} {context : Value}
  {past : List CleanupMark} {s : CleanupWorld} {α ε : Type}

theorem Kept.of_underway {lost : Prop} (h : Underway operationId published past s)
    (hc : Covers context past) : Kept operationId published past context lost s := by
  obtain ⟨more, hmore, -⟩ := h.grown
  exact ⟨h.here, ⟨more, hmore⟩, h.covers hc, fun hl => .inl (h.lost hl)⟩

theorem Kept.trans {base : List CleanupMark} {lost lost' : Prop} {context' : Value}
    {t : CleanupWorld} (hbase : ∃ more, s.past = base ++ more)
    (hlost : Lost s.past → Lost base ∨ lost)
    (h : Kept operationId published s.past context' lost' t) (hl : lost' → lost) :
    Kept operationId published base context' lost t := by
  obtain ⟨more, hmore⟩ := hbase
  obtain ⟨rest, hrest⟩ := h.grown
  exact ⟨h.live, ⟨more ++ rest, by rw [hrest, hmore, List.append_assoc]⟩, h.covers,
    fun ht => (h.lost ht).elim hlost fun h' => .inr (hl h')⟩

theorem keeps_imp {R R' : α → CleanupWorld → Prop} {E E' : ε → CleanupWorld → Prop}
    {x : Raising ε CleanupCall CleanupCall.Answer α} (h : Keeps env operationId R E x s)
    (hR : ∀ a s, R a s → R' a s) (hE : ∀ f s, E f s → E' f s) :
    Keeps env operationId R' E' x s := by
  refine h.post fun r s hr => ?_
  cases r with
  | ok a => exact hR a s hr
  | error f => exact hE f s hr

theorem authorised_of_checked {active : IpOperation} {origin : Value} {name : String}
    {expected : Value} {base : List CleanupMark} {d db : Db} (hp : published = active.newIpId)
    (hcheck : Checked env operationId active context name expected base past)
    (hobject : context.isObject = true) (hresults : (results context).isObject = true)
    (hclaim : Claimed env operationId origin past)
    (hmem : (name, expected) ∈ (origin.get "retained_boxes").fields)
    (hstored : db.lookup (contextKey operationId) = some (env.dumps (sendingContext context name)))
    (hrow : ∃ row, db.findIp operationId = some row ∧ Cleaning published row) :
    Authorised env operationId
      (past ++ [⟨d, .save (sendingContext context name), .ok ()⟩]) db name := by
  obtain ⟨d₁, row, d₂, d₃, names, d₄, ips, hpast, hvalid, hlisted, hip, hactive, -⟩ := hcheck
  obtain ⟨claim, hin, hevent, horigin⟩ := hclaim
  obtain ⟨found, hfound, hcleaning⟩ := hrow
  refine ⟨⟨claim, List.mem_append_left _ hin, origin, expected, row, base, d₁, d₂, d₃, d₄, d, names,
    ips, sendingContext context name, hevent, horigin, hmem, ?_, hvalid, hlisted, hip, hstored, ?_⟩,
    found, hfound, ?_⟩
  · rw [hpast]
    simp
  · show ((results (sendingContext context name)).get name).get "state" = _
    rw [sendingContext, results_setResult hobject, Value.get_put_self hresults]
    rfl
  · rw [hcleaning.2.1, hp]
    exact hactive

/-- What is raised in an attempt, with where it then stands. -/
def Raised (operationId : Nat) (published : Option String) (before : List CleanupMark)
    (fa : BoxFailure × Attempt) (s : CleanupWorld) : Prop :=
  Kept operationId published before fa.2.context (fa.2.sending = true ∧ fa.1.isApi = false) s

theorem not_deleted {name : String} (hcover : Covers context past)
    (hnew : (results context).has name = false) {y : CleanupMark} (hy : y ∈ past) :
    y.deletes name = false := by
  rw [← Bool.not_eq_true]
  intro hd
  rw [hcover.names y hy name hd] at hnew
  cases hnew

theorem keeps_delete {name : String} (hs : Underway operationId published past s)
    (hauth : ∀ db, Beside operationId s.db db → Authorised env operationId s.past db name)
    (hnew : ∀ y ∈ s.past, y.deletes name = false) :
    Keeps env operationId
      (fun job s' => Underway operationId published s'.past s' ∧ ∃ d,
        s'.past = s.past ++ [⟨d, .deleteBox name, .ok job⟩])
      (fun f s' => Underway operationId published s'.past s' ∧ ∃ d,
        s'.past = s.past ++ [⟨d, .deleteBox name, .error f⟩])
      (ask (.deleteBox name)) s := by
  refine ⟨⟨.inr hs.accounted, fun db hdb => ⟨hauth db hdb, hnew⟩⟩, fun r s' hstep => ?_⟩
  obtain ⟨hcut, db, hbeside, hdb, hpast⟩ := hstep
  have hdb : s'.db = db := hdb
  have hlive : Underway operationId published s'.past s' :=
    ⟨hcut.trans hs.cut, ⟨[], (List.append_nil _).symm, fun _ hx => absurd hx List.not_mem_nil⟩,
      by rw [hdb]; exact hbeside.row (fun _ reason h => h.interrupt reason) hs.row⟩
  cases r with
  | ok job => exact ⟨hlive, db, hpast⟩
  | error f => exact ⟨hlive, db, hpast⟩

theorem lost_append {x : CleanupMark} (h : Lost (past ++ [x])) :
    Lost past ∨ x.unanswered = true := by
  obtain ⟨y, hy, hu⟩ := h
  rcases List.mem_append.mp hy with hy | hy
  · exact .inl ⟨y, hy, hu⟩
  · exact .inr (List.mem_singleton.mp hy ▸ hu)

theorem keeps_removeBox (e : CleanupEnvironment) {active : IpOperation} {origin : Value}
    {name : String} {expected : Value} {base : List CleanupMark}
    (hp : published = active.newIpId) (hs : Underway operationId published past s)
    (hcheck : Checked env operationId active context name expected base s.past)
    (hcover : Covers context s.past) (hclaim : Claimed env operationId origin s.past)
    (hmem : (name, expected) ∈ (origin.get "retained_boxes").fields) :
    Keeps env operationId (fun context' => Kept operationId published s.past context' False)
      (Raised operationId published s.past) (removeBox e context name) s := by
  have hnew : (results context).has name = false := by
    obtain ⟨_, _, _, _, _, _, _, -, -, -, -, -, hnew⟩ := hcheck
    exact hnew
  have hsending : Covers (sendingContext context name) s.past := hcover.setResult name _
  unfold removeBox
  refine ends_bind (keeps_during (keeps_ask (c := .save (sendingContext context name))
    (R := fun _ s₁ => Underway operationId published s.past s₁ ∧
      s₁.db.lookup (contextKey operationId) = some (env.dumps (sendingContext context name)) ∧
      ∃ d, s₁.past = s.past ++ [⟨d, .save (sendingContext context name), .ok ()⟩]) trivial hs.here
      fun _ d s₁ hw he hpast => ⟨hw, ?_, d, hpast⟩)) ?_ ?_
  · rcases he with ⟨-, timestamp, hdb⟩ | ⟨f, hf, -⟩
    · rw [hdb]
      exact lookup_setSetting_context d operationId _ timestamp
    · cases hf
  · rintro ⟨f, a⟩ s₁ ⟨hw, rfl⟩
    exact Kept.of_underway hw hsending
  rintro - s₁ ⟨hw₁, hstored, d, hpast₁⟩
  have hnone : ∀ y ∈ s₁.past, y.deletes name = false := by
    intro y hy
    rw [hpast₁] at hy
    rcases List.mem_append.mp hy with hy | hy
    · exact not_deleted hcover hnew hy
    · rw [List.mem_singleton.mp hy]
      rfl
  have hauth : ∀ db, Beside operationId s₁.db db → Authorised env operationId s₁.past db name := by
    intro db hdb
    rw [hpast₁]
    exact authorised_of_checked hp hcheck hcover.object hcover.results hclaim hmem
      (hdb.2.trans hstored) (hdb.row (fun _ reason h => h.interrupt reason) hw₁.row)
  have hcover₁ : Covers (sendingContext context name) s₁.past := hw₁.covers hsending
  have hgrown₁ : ∃ more, s₁.past = s.past ++ more := ⟨_, hpast₁⟩
  refine ends_bind (keeps_during (keeps_delete hw₁ hauth hnone)) ?_ ?_
  · -- the deletion raised: it is lost unless it was rejected
    rintro ⟨f, a⟩ s₂ ⟨⟨hw₂, d₂, hpast₂⟩, rfl⟩
    refine ⟨hw₂, ?_, ?_, fun hl => ?_⟩
    · rw [hpast₂, hpast₁, List.append_assoc]
      exact ⟨_, rfl⟩
    · rw [hpast₂]
      refine ⟨hcover₁.object, hcover₁.results, fun y hy other hd => ?_⟩
      rcases List.mem_append.mp hy with hy | hy
      · exact hcover₁.names y hy other hd
      · rw [List.mem_singleton.mp hy] at hd
        obtain rfl : name = other := beq_iff_eq.mp hd
        show (results (sendingContext context name)).has name = true
        rw [sendingContext, results_setResult hcover.object,
          Value.has_object_put hcover.results, beq_self_eq_true, Bool.true_or]
    · rw [hpast₂] at hl
      rcases lost_append hl with hl | hl
      · exact .inl (hw₁.lost hl)
      · exact .inr ⟨rfl, by simpa [CleanupMark.unanswered] using hl⟩
  rintro job s₂ ⟨hw₂, d₂, hpast₂⟩
  have hgrown₂ : ∃ more, s₂.past = s.past ++ more := by
    rw [hpast₂, hpast₁, List.append_assoc]
    exact ⟨_, rfl⟩
  have hlost₂ {lost : Prop} : Lost s₂.past → Lost s.past ∨ lost := by
    intro hl
    rw [hpast₂] at hl
    rcases lost_append hl with hl | hl
    · exact .inl (hw₁.lost hl)
    · cases hl
  have hsent : Covers (sentContext context name job) s₂.past := by
    rw [hpast₂]
    exact hcover₁.deletion (fun other hd => (beq_iff_eq.mp hd).symm) _
  refine keeps_imp (keeps_during (R := fun context' s₃ =>
    Underway operationId published s₂.past s₃ ∧ Covers context' s₂.past)
    (E := fun _ => Underway operationId published s₂.past) ?_) ?_ ?_
  · refine ends_bind (keeps_quiet (uses_ask trivial) hw₂) (fun _ _ h => h) fun _ s₃ hw₃ => ?_
    refine ends_bind (keeps_quiet (uses_waitTask job _ _) hw₃) (fun _ _ h => h) fun _ s₄ hw₄ => ?_
    refine ends_bind (keeps_quiet (uses_ask trivial) hw₄) (fun _ _ h => h) fun names s₅ hw₅ => ?_
    split
    · exact hw₅
    · exact ⟨hw₅, hsent.setResult name _⟩
  · rintro context' s₃ ⟨hw₃, hc⟩
    exact Kept.trans hgrown₂ hlost₂ (Kept.of_underway hw₃ hc) id
  · rintro ⟨f, a⟩ s₃ ⟨hw₃, rfl⟩
    have hkept : Kept operationId published s₂.past (sentContext context name job) False s₃ :=
      Kept.of_underway hw₃ hsent
    exact Kept.trans hgrown₂ hlost₂ hkept False.elim

theorem keeps_tryBox (e : CleanupEnvironment) {active : IpOperation} {origin : Value}
    {name : String} {expected : Value} (hp : published = active.newIpId)
    (hs : Underway operationId published past s)
    (hcover : Covers context s.past) (hclaim : Claimed env operationId origin s.past)
    (hmem : (name, expected) ∈ (origin.get "retained_boxes").fields) :
    Keeps env operationId (fun context' => Kept operationId published s.past context' False)
      (Raised operationId published s.past) (tryBox e active context name expected) s := by
  unfold tryBox
  refine ends_bind (keeps_during (keeps_checkBox active context name expected hs.here)) ?_ ?_
  · rintro ⟨f, a⟩ s₁ ⟨hw, rfl⟩
    exact Kept.of_underway hw hcover
  rintro listed s₁ ⟨hw₁, hcheck⟩
  cases listed with
  | false => exact Kept.of_underway hw₁ (hcover.setResult name _)
  | true =>
    obtain ⟨more, hgrown, -⟩ := hw₁.grown
    refine keeps_imp (keeps_removeBox e hp hw₁ (hcheck rfl) (hw₁.covers hcover) (hw₁.claimed hclaim)
      hmem) (fun context' s₂ h => ?_) fun fa s₂ h => ?_
    · exact Kept.trans ⟨more, hgrown⟩ (fun hl => .inl (hw₁.lost hl)) h id
    · exact Kept.trans ⟨more, hgrown⟩ (fun hl => .inl (hw₁.lost hl)) h id

/-- What the loop keeps: the results name what was deleted, and what is lost is known. -/
structure Loop (env : Environment) (operationId : Nat) (published : Option String) (origin : Value)
    (p : Progress) (s : CleanupWorld) : Prop where
  live : Underway operationId published s.past s
  covers : Covers p.context s.past
  claimed : Claimed env operationId origin s.past
  known : Lost s.past → p.ambiguous = true

theorem keeps_visit (e : CleanupEnvironment) {active : IpOperation} {origin : Value} {p : Progress}
    {name : String} {expected : Value} (hp : published = active.newIpId)
    (hs : Loop env operationId published origin p s)
    (hmem : (name, expected) ∈ (origin.get "retained_boxes").fields) :
    Keeps env operationId (fun p' => Loop env operationId published origin p')
      (fun _ s' => Underway operationId published s'.past s')
      (visit e active p name expected) s := by
  unfold visit
  have htry := keeps_tryBox e hp hs.live hs.covers hs.claimed hmem
  refine Sat.bind (htry.post fun outcome s₁ hr => ?_)
  have hloop : Loop env operationId published origin (p.after e name outcome) s₁ := by
    cases outcome with
    | ok context' =>
      obtain ⟨hlive, ⟨more, hgrown⟩, hcovers, hlost⟩ := hr
      refine ⟨hlive, hcovers.settle name, by rw [hgrown]; exact hs.claimed.append more,
        fun hl => ?_⟩
      exact hs.known ((hlost hl).resolve_right id)
    | error fa =>
      obtain ⟨f, a⟩ := fa
      obtain ⟨hlive, ⟨more, hgrown⟩, hcovers, hlost⟩ := hr
      refine ⟨hlive, (hcovers.setResult name _).settle name,
        by rw [hgrown]; exact hs.claimed.append more, fun hl => ?_⟩
      show (p.ambiguous || (a.sending && !f.isApi)) = true
      rcases hlost hl with hl | ⟨hsending, hapi⟩
      · rw [hs.known hl, Bool.true_or]
      · rw [hsending, hapi]
        exact Bool.or_true _
  refine ends_bind (keeps_quiet (uses_ask trivial) hloop.live) (fun _ _ h => h.here)
    fun _ s₂ hw₂ => ?_
  exact ⟨hw₂.here, hw₂.covers hloop.covers, hw₂.claimed hloop.claimed,
    fun hl => hloop.known (hw₂.lost hl)⟩

theorem keeps_visitAll (e : CleanupEnvironment) {active : IpOperation} {origin : Value}
    {p : Progress} {boxes : List (String × Value)} (hp : published = active.newIpId)
    (hs : Loop env operationId published origin p s)
    (hmem : ∀ box ∈ boxes, box ∈ (origin.get "retained_boxes").fields) :
    Keeps env operationId (fun p' => Loop env operationId published origin p')
      (fun _ s' => Underway operationId published s'.past s') (visitAll e active p boxes) s := by
  induction boxes generalizing p s with
  | nil => exact hs
  | cons box boxes ih =>
    obtain ⟨name, expected⟩ := box
    unfold visitAll
    refine ends_bind (keeps_visit e hp hs (hmem _ List.mem_cons_self)) (fun _ _ h => h)
      fun p' s₁ hloop => ?_
    exact ih hloop fun box hbox => hmem box (List.mem_cons_of_mem _ hbox)

theorem keeps_withResults (context : Value) :
    Keeps env operationId
      (fun context' s' => s' = s ∧ context'.isObject = true ∧ (results context').isObject = true)
      (fun _ s' => s' = s) (withResults context) s := by
  unfold withResults
  split
  · rfl
  rename_i hobject
  have hobject : context.isObject = true := by simpa using hobject
  split
  · refine ⟨rfl, Value.isObject_put.trans hobject, ?_⟩
    rw [results, Value.get_put_self hobject]
    rfl
  split
  · rfl
  · rename_i hresults
    exact ⟨rfl, hobject, by simpa using hresults⟩

theorem Cleaning.finished {published : Option String} {row : IpOperation}
    (h : Cleaning published row) {p : Progress} {u : Prop} (hu : u → p.ambiguous = true) :
    Concluded u ((finished p).apply row) := by
  have haction : ((Cleanup.finished p).apply row).actionState =
      if p.ambiguous then .cleanupAmbiguous
      else if p.warnings.isEmpty then .done else .cleanupRejected := rfl
  refine ⟨h.1, ?_⟩
  by_cases hp : p.ambiguous = true
  · refine .inr (.inr (.inl ⟨rfl, ?_⟩))
    rw [haction, if_pos hp]
  · refine .inr (.inr (.inr (.inr ⟨fun h' => hp (hu h'), rfl, ?_⟩)))
    rw [haction, if_neg hp]
    split
    · exact .inl rfl
    · exact .inr rfl

theorem Cleaning.abandoned {published : Option String} {row : IpOperation}
    (h : Cleaning published row) (e : CleanupEnvironment) (f : BoxFailure) (u : Prop) :
    Concluded u ((abandoned e f).apply row) :=
  ⟨h.1, .inr (.inr (.inl ⟨rfl, rfl⟩))⟩

theorem keeps_last {p : IpPatch} (hs : Underway operationId published past s)
    (hend : ∀ row, Cleaning published row → Concluded (Lost s.past) (p.apply row)) :
    Keeps env operationId (fun _ => Accounted operationId)
      (fun _ s' => Underway operationId published s'.past s') (ask (.update p)) s := by
  refine ⟨⟨.inr hs.accounted, trivial⟩, fun r s' hstep => ?_⟩
  obtain ⟨hcut, db, hbeside, heffect, hpast⟩ := hstep
  obtain ⟨row, hrow, hcleaning⟩ := hbeside.row (fun _ reason h => h.interrupt reason) hs.row
  rcases heffect with ⟨rfl, now, hdb⟩ | ⟨f, rfl, hdb⟩
  · refine ⟨p.apply row, by rw [hdb]; exact findIp_updateOperation hrow p now,
      (hend row hcleaning).mono ?_⟩
    rintro (hc | hl | hlast)
    · rw [hcut, hs.cut] at hc
      cases hc
    · rw [hpast] at hl
      exact (lost_append hl).resolve_right (by simp [CleanupMark.unanswered])
    · rw [hpast] at hlast
      simp [isDelete] at hlast
  · refine ⟨hcut.trans hs.cut, ⟨[], (List.append_nil _).symm, fun _ hx =>
      absurd hx List.not_mem_nil⟩, row, by rw [hdb]; exact hrow, hcleaning⟩

theorem keeps_perform (e : CleanupEnvironment) (hs : Underway operationId published s.past s)
    (hclaim : Claimed env operationId context s.past)
    (hnone : ∀ x ∈ s.past, isDelete x.event = false) :
    Keeps env operationId (fun _ => Accounted operationId)
      (fun _ s' => Underway operationId published s'.past s') (perform e context) s := by
  unfold perform
  refine ends_bind (keeps_ask (c := .validateTarget) (R := fun active s₁ =>
    Underway operationId published s.past s₁ ∧ published = active.newIpId) trivial hs
      fun active d s₁ hw he _ => ⟨hw, ?_⟩) (fun _ _ h => h.here) ?_
  · obtain ⟨hdb, ⟨row, hvalid, hr⟩ | ⟨f, hf⟩⟩ := he
    · obtain rfl := Except.ok.inj hr
      obtain ⟨found, hfound, hcleaning⟩ := hw.row
      rw [hdb, validateTarget_row hvalid] at hfound
      obtain rfl := Option.some.inj hfound
      exact hcleaning.2.1.symm
    · cases hf
  rintro active s₁ ⟨hw₁, hp⟩
  refine ends_bind (keeps_withResults context) ?_ ?_
  · rintro f s₂ rfl
    exact hw₁.here
  rintro initial s₂ ⟨rfl, hobject, hresults⟩
  have hloop : Loop env operationId published context ⟨initial, false, []⟩ s₂ := by
    refine ⟨hw₁.here, hw₁.covers ⟨hobject, hresults, fun x hx name hd => ?_⟩, hw₁.claimed hclaim,
      fun hl => ?_⟩
    · exact absurd (deletes_isDelete hd) (by rw [hnone x hx]; decide)
    · obtain ⟨x, hx, hu⟩ := hw₁.lost hl
      exact absurd (unanswered_isDelete hu) (by rw [hnone x hx]; decide)
  refine ends_bind (keeps_visitAll e hp hloop fun _ h => h) (fun _ _ h => h) fun p s₃ hp₃ => ?_
  exact keeps_last hp₃.live fun row hrow => Cleaning.finished hrow hp₃.known

theorem accounted_kept {c : CleanupCall} {r : c.Answer} {s' : CleanupWorld}
    (hs : Uncleaned operationId s ∨ Accounted operationId s) (hc : isDelete ⟨c, r⟩ = false)
    (hu : (CleanupMark.mk s.db ⟨c, r⟩).unanswered = false)
    (hcut : s'.cut = s.cut) {db : Db} (hbeside : Beside operationId s.db db) (hdb : s'.db = db)
    (hpast : s'.past = s.past ++ [⟨db, c, r⟩]) :
    Uncleaned operationId s' ∨ Accounted operationId s' := by
  rcases hs with ⟨hnone, hcut₀, hstarted⟩ | ⟨row, hrow, hconcluded⟩
  · refine .inl ⟨fun x hx => ?_, hcut.trans hcut₀, fun row hrow => ?_⟩
    · rw [hpast] at hx
      rcases List.mem_append.mp hx with hx | hx
      · exact hnone x hx
      · rw [List.mem_singleton.mp hx]
        exact hc
    · rw [hdb] at hrow
      rcases hbeside.1 with he | ⟨reason, he⟩
      · exact hstarted row (he ▸ hrow)
      · rw [he] at hrow
        obtain ⟨o, ho, rfl⟩ := Option.map_eq_some_iff.mp hrow
        exact (started_interrupt reason o).trans (hstarted o ho)
  · obtain ⟨row', hrow', hconcluded'⟩ := hbeside.row (fun _ reason h => h.interrupt reason)
      ⟨row, hrow, hconcluded⟩
    refine .inr ⟨row', by rw [hdb]; exact hrow', hconcluded'.mono ?_⟩
    rintro (h | h | h)
    · exact .inl (hcut ▸ h)
    · rw [hpast] at h
      exact .inr (.inl ((lost_append h).resolve_right fun h' => by
        rw [show (CleanupMark.mk db ⟨c, r⟩).unanswered = false from hu] at h'
        cases h'))
    · rw [hpast] at h
      simp [hc] at h

theorem claimed_underway {db : Db} (hs : Uncleaned operationId s ∨ Accounted operationId s)
    (hbeside : Beside operationId s.db db) (hclaim : (db.claimCleanup operationId).1 = true) :
    Uncleaned operationId s ∧ ∃ published row,
      (db.claimCleanup operationId).2.findIp operationId = some row ∧ Cleaning published row := by
  have hcleanable : (db.findIp operationId).any cleanable = true := by
    unfold claimCleanup at hclaim
    split at hclaim
    · assumption
    · cases hclaim
  obtain ⟨o, ho, hc⟩ := (Option.any_eq_true cleanable _).mp hcleanable
  obtain ⟨hpending, hqueued⟩ : o.status = .pending ∧ o.actionState = .cleanupQueued := by
    simpa [cleanable] using hc
  have huncleaned : Uncleaned operationId s := by
    refine hs.resolve_right fun haccounted => ?_
    obtain ⟨row, hrow, hconcluded⟩ := hbeside.row
      (K := Concluded (s.cut = true ∨ Pending s.past)) (fun _ reason h => h.interrupt reason)
      haccounted
    obtain rfl := Option.some.inj (ho.symm.trans hrow)
    have h := hconcluded.2
    rw [hpending, hqueued] at h
    simp [Status.terminal] at h
  refine ⟨huncleaned, o.newIpId,
    { o with status := .running, actionState := .cleanupRunning }, ?_, ?_⟩
  · unfold claimCleanup
    rw [if_pos hcleanable]
    refine (findIp_updateIp db operationId (f := fun o =>
      { o with status := .running, actionState := .cleanupRunning })
      (fun _ => rfl) operationId).trans ?_
    rw [ho, Option.map_some, if_pos (by simpa using id_of_findIp ho)]
  · have hstarted : o.started = true := by
      rcases hbeside.1 with he | ⟨reason, he⟩
      · exact huncleaned.2.2 o (he ▸ ho)
      · rw [he] at ho
        obtain ⟨o', ho', rfl⟩ := Option.map_eq_some_iff.mp ho
        exact (started_interrupt reason o').trans (huncleaned.2.2 o' ho')
    exact ⟨hstarted, rfl, .inl ⟨rfl, .inl rfl⟩⟩

/-- A run makes permitted calls only, and stands by what it has done. -/
theorem keeps_run (e : CleanupEnvironment)
    (hs : Uncleaned operationId s ∨ Accounted operationId s) :
    Sat (cleanupStep env operationId) (Permitted env operationId)
      (fun _ s' => Uncleaned operationId s' ∨ Accounted operationId s')
      (runSprintboxCleanup e).run s := by
  unfold runSprintboxCleanup
  refine Sat.bind ⟨⟨hs, trivial⟩, fun r s₁ hstep => ?_⟩
  obtain ⟨hcut, db, hbeside, heffect, hpast⟩ := hstep
  rcases heffect with ⟨hdb, rfl⟩ | ⟨f, rfl, hdb⟩
  · by_cases hclaim : (db.claimCleanup operationId).1 = true
    · rw [if_pos hclaim] at hpast ⊢
      obtain ⟨huncleaned, published, row, hrow, hcleaning⟩ := claimed_underway hs hbeside hclaim
      have hlive : Underway operationId published s₁.past s₁ :=
        ⟨hcut.trans huncleaned.2.1, ⟨[], (List.append_nil _).symm, fun _ hx =>
          absurd hx List.not_mem_nil⟩, row, by rw [hdb]; exact hrow, hcleaning⟩
      have hnone : ∀ x ∈ s₁.past, isDelete x.event = false := by
        intro x hx
        rw [hpast] at hx
        rcases List.mem_append.mp hx with hx | hx
        · exact huncleaned.1 x hx
        · rw [List.mem_singleton.mp hx]
          rfl
      have hclaimed : Claimed env operationId (db.sprintboxContext env operationId) s₁.past :=
        ⟨_, by rw [hpast]; exact List.mem_append_right _ (List.mem_singleton_self _), rfl, rfl⟩
      have hrun : Keeps env operationId (fun _ => Accounted operationId)
          (fun _ s' => Underway operationId published s'.past s')
          (tryCatch (perform e (db.sprintboxContext env operationId))
            fun f => ask (.update (abandoned e f))) s₁ :=
        ends_tryCatch (keeps_perform e hlive hclaimed hnone) fun f s₂ hw =>
          keeps_last hw fun row hrow => Cleaning.abandoned hrow e f _
      refine hrun.post fun r s₂ hr => .inr ?_
      cases r with
      | ok _ => exact hr
      | error f => exact Underway.accounted hr
    · rw [if_neg hclaim] at hpast ⊢
      have hsame : (db.claimCleanup operationId).2 = db := by
        unfold claimCleanup at hclaim ⊢
        split
        · rename_i h
          rw [if_pos h] at hclaim
          exact absurd rfl hclaim
        · rfl
      exact accounted_kept hs rfl rfl hcut hbeside (hdb.trans hsame) hpast
  · exact accounted_kept hs rfl rfl hcut hbeside hdb hpast

end

end Cleanup

end Server

end AutoVPN
