import AutoVPN.Server.CleanupOnce

/-! What every history of cleanups guarantees: the deletions are authorised, a lost one leaves the
operation on hold, and no box keeps a run from the others. -/

namespace AutoVPN

open Server Server.Db

namespace Server

variable {e : CleanupEnvironment} {env : Environment} {operationId : Nat} {s s' : CleanupWorld}

/-! Every history. -/

theorem Permitted.proper {c : CleanupCall} {r : c.Answer} (h : Permitted env operationId c s)
    (hp : Proper env operationId s.past) (hs : cleanupStep env operationId c s r s') :
    Proper env operationId s'.past := by
  obtain ⟨-, db, hbeside, -, hpast⟩ := hs
  rw [hpast]
  refine hp.append fun name hd => ?_
  cases c with
  | deleteBox other =>
    obtain rfl : other = name := beq_iff_eq.mp hd
    exact h.2 db hbeside
  | _ => cases hd

/-- What holds at any time of a history of cleanups. -/
def Orderly (env : Environment) (operationId : Nat) (s : CleanupWorld) : Prop :=
  Proper env operationId s.past ∧ (Uncleaned operationId s ∨ Accounted operationId s)

theorem orderly_run {tr : List (Program.Event CleanupCall CleanupCall.Answer)}
    {o : Option (Except BoxFailure Unit)} (h : Orderly env operationId s)
    (he : Program.Exec (cleanupStep env operationId) (Cleanup.runSprintboxCleanup e).run s tr
      s' o) :
    Orderly env operationId { s' with cut := s'.cut || cutOff tr o } := by
  have hsat : Program.Sat (cleanupStep env operationId) (Permitted env operationId)
      (fun _ s => Uncleaned operationId s ∨ Accounted operationId s)
      (Cleanup.runSprintboxCleanup e).run s := Cleanup.keeps_run e h.2
  refine ⟨hsat.preserves he (J := fun s => Proper env operationId s.past)
    (fun _ _ _ _ hg hj hs => hg.proper hj hs) h.1, ?_⟩
  have hend : Uncleaned operationId s' ∨ Accounted operationId s' :=
    Program.Sat.invariant (I := fun s => Uncleaned operationId s ∨ Accounted operationId s)
      (hsat.mono (fun _ _ hg => hg.1) fun _ _ hq => hq) he
  by_cases hcut : cutOff tr o = true
  · obtain ⟨x, hlast, hx⟩ : ∃ x, tr.getLast? = some x ∧ isDelete x = true :=
      (Option.any_eq_true _ _).mp (Bool.and_eq_true_iff.mp hcut).2
    obtain ⟨before, rfl⟩ := List.getLast?_eq_some_iff.mp hlast
    obtain ⟨u, -, db, -, -, hpast⟩ := he.last
    have hpending : Pending s'.past := .inr (by rw [hpast]; simpa using hx)
    rcases hend with huncleaned | ⟨row, hrow, hconcluded⟩
    · have hfalse := huncleaned.1 ⟨db, x⟩ (by rw [hpast]; simp)
      rw [show isDelete x = false from hfalse] at hx
      cases hx
    · exact .inr ⟨row, hrow, hconcluded.mono fun _ => .inr hpending⟩
  · have hsame : (s'.cut || cutOff tr o) = s'.cut := by simp [hcut]
    rw [hsame]
    exact hend

theorem started_prepareCleanup {db db' : Db} {now : Nat}
    (h : db.prepareCleanup env operationId now = .ok db')
    (hs : ∀ row, db.findIp operationId = some row → row.started = true) :
    ∀ row, db'.findIp operationId = some row → row.started = true := by
  obtain ⟨_, -, h⟩ := except_bind_eq_ok.mp h
  obtain ⟨leased, hleased, h⟩ := except_bind_eq_ok.mp h
  cases h
  intro row hrow
  rw [findIp_updateIp leased operationId (f := fun o => { o with
    status := .pending, actionState := .cleanupQueued, currentStep := "cleanup_queued" })
    (fun _ => rfl), findIp_acquire hleased, Option.map_map] at hrow
  obtain ⟨o, ho, rfl⟩ := Option.map_eq_some_iff.mp hrow
  have htaken : (takenOver db operationId o).started = o.started := by
    unfold takenOver
    split
    · exact started_interrupt _ o
    · rfl
  simp only [Function.comp_apply]
  split
  · exact htaken.trans (hs o ho)
  · exact htaken.trans (hs o ho)

theorem recover_beside (db : Db) (reason : String) (operationId : Nat) :
    (db.recoverIncompleteVpsOperations reason).findIp operationId = db.findIp operationId ∨
      (db.recoverIncompleteVpsOperations reason).findIp operationId =
        (db.findIp operationId).map (IpOperation.interrupt reason) := by
  obtain ⟨b, hb⟩ := findIp_recover db reason operationId
  cases b with
  | false => exact .inl (by simpa using hb)
  | true => exact .inr (by simpa using hb)

theorem orderly_interrupted {db' : Db} (h : Orderly env operationId s)
    (hrow : db'.findIp operationId = s.db.findIp operationId ∨
      ∃ reason, db'.findIp operationId =
        (s.db.findIp operationId).map (IpOperation.interrupt reason)) :
    Orderly env operationId { s with db := db' } := by
  refine ⟨h.1, h.2.imp (fun hi => ⟨hi.1, hi.2.1, fun row hr => ?_⟩) fun ⟨row, hr, hconcluded⟩ => ?_⟩
  · rcases hrow with he | ⟨reason, he⟩
    · exact hi.2.2 row (he ▸ hr)
    · obtain ⟨o, ho, rfl⟩ := Option.map_eq_some_iff.mp (he ▸ hr)
      exact (started_interrupt reason o).trans (hi.2.2 o ho)
  · rcases hrow with he | ⟨reason, he⟩
    · exact ⟨row, he.trans hr, hconcluded⟩
    · exact ⟨row.interrupt reason, by rw [he, hr]; rfl, hconcluded.interrupt reason⟩

theorem orderly_move {db' : Db} (h : Orderly env operationId s)
    (hm : CleanupMove env operationId s.db db') : Orderly env operationId { s with db := db' } := by
  cases hm with
  | prepare hp =>
    refine ⟨h.1, .inl ?_⟩
    have huncleaned : Uncleaned operationId s := by
      refine h.2.resolve_right fun ⟨row, hrow, hconcluded⟩ => ?_
      obtain ⟨found, hvalid, -⟩ := except_bind_eq_ok.mp hp
      obtain ⟨hfound, hdone, hreview⟩ := validateReview_row hvalid
      obtain rfl := Option.some.inj (hfound.symm.trans hrow)
      have hrow := hconcluded.2
      rw [hdone, hreview] at hrow
      simp at hrow
    exact ⟨huncleaned.1, huncleaned.2.1, started_prepareCleanup hp huncleaned.2.2⟩
  | recover reason =>
    have hbeside := recover_beside s.db reason operationId
    exact orderly_interrupted h (hbeside.imp id fun h => ⟨reason, h⟩)
  | other hb => exact orderly_interrupted h hb.1
  | @reconcile note _ hr =>
    unfold reconcileIpOperation at hr
    split at hr
    · cases hr
    rename_i row hrow
    split at hr
    · cases hr
    rename_i hterminal
    split at hr
    · cases hr
    cases hr
    have hfind : (s.db.updateIp operationId fun o =>
        { o with actionState := .reconciled, reconciliationNote := some note }).findIp operationId =
        some { row with actionState := .reconciled, reconciliationNote := some note } := by
      rw [findIp_updateIp s.db operationId (f := fun o =>
        { o with actionState := .reconciled, reconciliationNote := some note }) (fun _ => rfl),
        hrow, Option.map_some, if_pos (by simpa using id_of_findIp hrow)]
    refine ⟨h.1, h.2.imp (fun hi => ⟨hi.1, hi.2.1, fun o ho => ?_⟩) fun ⟨o, ho, hconcluded⟩ => ?_⟩
    · obtain rfl := Option.some.inj (hfind.symm.trans ho)
      exact hi.2.2 row hrow
    · obtain rfl := Option.some.inj (hrow.symm.trans ho)
      exact ⟨_, hfind, hconcluded.1, .inr (.inr (.inr (.inl ⟨by simpa using hterminal, rfl⟩)))⟩

/-- A world in which nothing has been cleaned up yet; the operation has bought its box. -/
structure CleanupStart (operationId : Nat) (s : CleanupWorld) : Prop where
  past : s.past = []
  cut : s.cut = false
  started : ∀ row, s.db.findIp operationId = some row → row.started = true

theorem orderly_lives (hs : CleanupStart operationId s)
    (h : CleanupLives e env operationId s s') : Orderly env operationId s' := by
  induction h with
  | refl =>
    have hnone : ∀ x ∈ s.past, isDelete x.event = false := by
      rw [hs.past]
      exact fun x hx => absurd hx List.not_mem_nil
    refine ⟨fun before x after name hsplit => ?_, .inl ⟨hnone, hs.cut, hs.started⟩⟩
    rw [hs.past] at hsplit
    simp at hsplit
  | tail _ hlife ih =>
    cases hlife with
    | move hm => exact orderly_move ih hm
    | run hr => exact orderly_run ih hr

/-- The operation waits for the user, or has been reconciled by hand. -/
def Parked (row : IpOperation) : Prop :=
  (row.status = .ambiguous ∧ row.actionState = .ambiguous) ∨
    (row.status = .done ∧ row.actionState = .cleanupAmbiguous) ∨
    (row.status.terminal = true ∧ row.actionState = .reconciled)

theorem Concluded.parked {u : Prop} {row : IpOperation} (h : Concluded u row) (hu : u) :
    row.status = .running ∨ Parked row := by
  rcases h.2 with ⟨hr, -⟩ | h | h | h | ⟨hn, -⟩
  · exact .inl hr
  · exact .inr (.inl h)
  · exact .inr (.inr (.inl h))
  · exact .inr (.inr (.inr h))
  · exact absurd hu hn

theorem recover_findIp {db : Db} {id : Nat} {row : IpOperation} (h : db.findIp id = some row)
    (hr : row.status.terminal = false) (reason : String) :
    (db.recoverIncompleteVpsOperations reason).findIp id = some (row.interrupt reason) := by
  let installs := (activeIds (·.status) (·.id) db.installOperations).foldl
    (fun db id => db.failOwner ⟨.install, id⟩ reason) db
  have hrow : installs.findIp id = some row := by
    refine (findIp_failOwners .install reason _ db id).trans ?_
    rw [h]
    simp
  have hmem : id ∈ activeIds (fun (o : IpOperation) => o.status) (·.id) installs.ipOperations := by
    rw [← id_of_findIp hrow]
    exact List.mem_map_of_mem
      (List.mem_filter.2 ⟨List.mem_of_find?_eq_some hrow, by simpa using hr⟩)
  have hips := findIp_failOwners .ipChange reason (activeIds (fun (o : IpOperation) => o.status)
    (·.id) installs.ipOperations) installs id
  rw [hrow, Option.map_some, if_pos ⟨rfl, hmem⟩] at hips
  refine (findIp_failOwners .server reason _ _ id).trans ?_
  refine (congrArg (Option.map _) hips).trans ?_
  simp

/-- What every history guarantees of the deletions and of the operation. -/
structure CleanupSafe (env : Environment) (operationId : Nat) (s : CleanupWorld) : Prop where
  authorised : ∀ before x after name, s.past = before ++ x :: after → x.deletes name = true →
    Authorised env operationId before x.db name
  once : ∀ name, s.past.countP (·.deletes name) ≤ 1
  held : s.cut = true ∨ Lost s.past →
    (∃ row, s.db.findIp operationId = some row ∧ (row.status = .running ∨ Parked row)) ∧
      ∀ reason, ∃ row,
        (s.db.recoverIncompleteVpsOperations reason).findIp operationId = some row ∧ Parked row

theorem Orderly.safe (h : Orderly env operationId s) : CleanupSafe env operationId s := by
  refine ⟨fun before x after name hsplit hd => (h.1 before x after name hsplit hd).1, h.1.count,
    fun hlost => ?_⟩
  obtain ⟨row, hrow, hconcluded⟩ : Accounted operationId s := by
    refine h.2.resolve_left fun huncleaned => ?_
    rcases hlost with hcut | ⟨x, hx, hu⟩
    · rw [huncleaned.2.1] at hcut
      cases hcut
    · have hd := unanswered_isDelete hu
      rw [huncleaned.1 x hx] at hd
      cases hd
  have hconcluded : Concluded True row := hconcluded.mono fun _ => hlost.imp id .inl
  refine ⟨⟨row, hrow, hconcluded.parked trivial⟩, fun reason => ?_⟩
  by_cases hterminal : row.status.terminal = true
  · have hsame : (s.db.recoverIncompleteVpsOperations reason).findIp operationId = some row := by
      rcases recover_beside s.db reason operationId with he | he
      · exact he.trans hrow
      · rw [he, hrow, Option.map_some, terminal_interrupt hterminal]
    refine ⟨row, hsame, (hconcluded.parked trivial).resolve_left fun hr => ?_⟩
    rw [hr] at hterminal
    cases hterminal
  · have hactive : row.status.terminal = false := by simpa using hterminal
    have hconcluded' := hconcluded.interrupt reason
    refine ⟨_, recover_findIp hrow hactive reason,
      (hconcluded'.parked trivial).resolve_left fun hr => ?_⟩
    rcases hconcluded.2 with ⟨hrunning, ha⟩ | ⟨h, -⟩ | ⟨h, -⟩ | ⟨h, -⟩ | ⟨h, -⟩
    · rw [(interrupt_running hconcluded.1 hrunning ha reason).1] at hr
      cases hr
    · rw [h] at hactive
      cases hactive
    · rw [h] at hactive
      cases hactive
    · exact hterminal h
    · exact h trivial

variable {t : CleanupWorld}

namespace Cleanup

/-- The attempt on a box has been carried through, with whatever outcome. -/
def Attempted (e : CleanupEnvironment) (env : Environment) (operationId : Nat)
    (active : IpOperation) (box : String × Value)
    (tr : List (Program.Event CleanupCall CleanupCall.Answer)) : Prop :=
  ∃ before during after context u u' outcome, tr = before ++ during ++ after ∧
    Program.Exec (cleanupStep env operationId) (tryBox e active context box.1 box.2).run u during u'
      (some outcome)

theorem Attempted.append {active : IpOperation} {box : String × Value}
    {tr : List (Program.Event CleanupCall CleanupCall.Answer)}
    (h : Attempted e env operationId active box tr)
    (first rest : List (Program.Event CleanupCall CleanupCall.Answer)) :
    Attempted e env operationId active box (first ++ tr ++ rest) := by
  obtain ⟨before, during, after, context, u, u', outcome, rfl, hexec⟩ := h
  exact ⟨first ++ before, during, after ++ rest, context, u, u', outcome, by simp, hexec⟩

def WriteFailed (tr : List (Program.Event CleanupCall CleanupCall.Answer)) : Prop :=
  ∃ context f, ⟨.save context, .error f⟩ ∈ tr

theorem exec_ask {c : CleanupCall} {tr : List (Program.Event CleanupCall CleanupCall.Answer)}
    {r : c.Answer} (he : Program.Exec (cleanupStep env operationId) (ask c).run s tr t (some r)) :
    tr = [⟨c, r⟩] := by
  have hcall : Program.Exec (cleanupStep env operationId) (.call c .done) s tr t (some r) := he
  cases hcall with
  | call hstep hdone =>
    cases hdone with
    | done => rfl

theorem visit_attempts {active : IpOperation} {p : Progress} {name : String} {expected : Value}
    {tr : List (Program.Event CleanupCall CleanupCall.Answer)} {r : Except BoxFailure Progress}
    (he : Program.Exec (cleanupStep env operationId) (visit e active p name expected).run s tr t
      (some r)) :
    Attempted e env operationId active (name, expected) tr ∧
      (WriteFailed tr ∨ ∃ p', r = .ok p') := by
  obtain ⟨outcome, u, first, rest, hfirst, hrest, rfl⟩ := Program.Exec.of_bind he
  refine ⟨⟨[], first, rest, p.context, s, u, outcome, by simp, hfirst⟩, ?_⟩
  rcases Program.Exec.of_raising_bind hrest with ⟨a, v, one, two, -, hlast, -⟩ | ⟨f, rfl, hask⟩
  · right
    have hdone : Program.Exec (cleanupStep env operationId)
        (.done (.ok (p.after e name outcome))) v two t (some r) := hlast
    cases hdone with
    | done => exact ⟨_, rfl⟩
  · left
    rw [exec_ask hask]
    exact ⟨_, f, List.mem_append_right _ (List.mem_singleton_self _)⟩

/-- Whatever the provider answers for one box, the others are attempted. -/
theorem visitAll_attempts {active : IpOperation} {p : Progress} {boxes : List (String × Value)}
    {tr : List (Program.Event CleanupCall CleanupCall.Answer)} {r : Except BoxFailure Progress}
    (he : Program.Exec (cleanupStep env operationId) (visitAll e active p boxes).run s tr t
      (some r)) :
    WriteFailed tr ∨ ∀ box ∈ boxes, Attempted e env operationId active box tr := by
  induction boxes generalizing p s tr with
  | nil => exact .inr fun _ h => absurd h List.not_mem_nil
  | cons box boxes ih =>
    obtain ⟨name, expected⟩ := box
    unfold visitAll at he
    rcases Program.Exec.of_raising_bind he with ⟨p', u, first, rest, hfirst, hrest, rfl⟩ |
      ⟨f, -, hraised⟩
    · obtain ⟨hattempt, -⟩ := visit_attempts hfirst
      rcases ih hrest with ⟨context, f, hf⟩ | hall
      · exact .inl ⟨context, f, List.mem_append_right _ hf⟩
      · refine .inr fun box hbox => ?_
        rcases List.mem_cons.mp hbox with rfl | hbox
        · exact hattempt.append [] rest
        · simpa using (hall box hbox).append first []
    · obtain ⟨-, hfailed | ⟨p', hp'⟩⟩ := visit_attempts hraised
      · exact .inl hfailed
      · cases hp'

/-- The context is a mapping, and so are its results where there are any. -/
def wellFormed (context : Value) : Bool :=
  context.isObject && (!context.has "cleanup_results" || (results context).isObject)

theorem withResults_wellFormed {context : Value} (h : wellFormed context = true) :
    ∃ initial, withResults context = pure initial := by
  obtain ⟨hobject, hresults⟩ := Bool.and_eq_true_iff.mp h
  unfold withResults
  rw [if_neg (by rw [hobject]; decide)]
  split
  · exact ⟨_, rfl⟩
  · rename_i hhas
    have hhas : context.has "cleanup_results" = true := by simpa using hhas
    rw [hhas, Bool.not_true, Bool.false_or] at hresults
    rw [if_neg (by rw [hresults]; decide)]
    exact ⟨_, rfl⟩

/-- A run that has claimed the operation and found it valid attempts every retained box, unless a
write of its context fails. -/
theorem run_attempts {context : Value} {active : IpOperation}
    {rest : List (Program.Event CleanupCall CleanupCall.Answer)} {r : Except BoxFailure Unit}
    (he : Program.Exec (cleanupStep env operationId) (runSprintboxCleanup e).run s
      (⟨.claim, .ok (some context)⟩ :: ⟨.validateTarget, .ok active⟩ :: rest) t (some r))
    (hcontext : wellFormed context = true) :
    WriteFailed rest ∨
      ∀ box ∈ (context.get "retained_boxes").fields,
        Attempted e env operationId active box rest := by
  obtain ⟨initial, hinitial⟩ := withResults_wellFormed hcontext
  rcases Program.Exec.of_raising_bind he with
    ⟨claimed, u, one, two, hclaim, htry, hsplit⟩ | ⟨f, -, hf⟩
  swap
  · obtain ⟨hhead, -⟩ := List.cons.inj (exec_ask hf)
    cases hhead
  rw [exec_ask hclaim, List.singleton_append] at hsplit
  obtain ⟨hhead, rfl⟩ := List.cons.inj hsplit
  cases hhead
  obtain ⟨outcome, v, three, four, hperform, -, hsplit⟩ := Program.Exec.of_bind htry
  rcases Program.Exec.of_raising_bind hperform with
    ⟨valid, w, five, six, hvalid, hloop, rfl⟩ | ⟨f, -, hf⟩
  swap
  · rw [exec_ask hf, List.singleton_append] at hsplit
    obtain ⟨hhead, -⟩ := List.cons.inj hsplit
    cases hhead
  rw [exec_ask hvalid, List.singleton_append, List.cons_append] at hsplit
  obtain ⟨hhead, rfl⟩ := List.cons.inj hsplit
  cases hhead
  rw [hinitial] at hloop
  have hall : WriteFailed six ∨ ∀ box ∈ (context.get "retained_boxes").fields,
      Attempted e env operationId active box six := by
    have hrest : Program.Exec (cleanupStep env operationId)
        (visitAll e active ⟨initial, false, []⟩ (context.get "retained_boxes").fields >>=
          fun p => ask (.update (finished p))).run w six v (some outcome) := hloop
    rcases Program.Exec.of_raising_bind hrest with ⟨p, x, seven, eight, hvisit, -, rfl⟩ | ⟨f, -, hf⟩
    · rcases visitAll_attempts hvisit with ⟨c, f, hmem⟩ | hall
      · exact .inl ⟨c, f, List.mem_append_left _ hmem⟩
      · exact .inr fun box hbox => (hall box hbox).append [] eight
    · exact visitAll_attempts hf
  rcases hall with ⟨c, f, hmem⟩ | hall
  · exact .inl ⟨c, f, List.mem_append_left _ hmem⟩
  · exact .inr fun box hbox => (hall box hbox).append [] four

end Cleanup

end Server

/-- Over every history of cleanups, restarts and answers of the provider: every deletion is
authorised and the first of its box, a deletion without an answer leaves the operation on hold, and
a run attempts every retained box whatever becomes of the others. -/
theorem Server.sprintbox_cleanup_safe {e : CleanupEnvironment} {env : Environment}
    {operationId : Nat} {s s' : CleanupWorld} (hs : CleanupStart operationId s)
    (h : CleanupLives e env operationId s s') :
    CleanupSafe env operationId s' ∧
      ∀ (t : CleanupWorld) (context : Value) (active : IpOperation)
        (rest : List (Program.Event CleanupCall CleanupCall.Answer)) (r : Except BoxFailure Unit),
        Program.Exec (cleanupStep env operationId) (Cleanup.runSprintboxCleanup e).run s'
          (⟨.claim, .ok (some context)⟩ :: ⟨.validateTarget, .ok active⟩ :: rest) t (some r) →
        Cleanup.wellFormed context = true → (∀ saved f, ⟨.save saved, .error f⟩ ∉ rest) →
        ∀ box ∈ (context.get "retained_boxes").fields,
          Cleanup.Attempted e env operationId active box rest := by
  refine ⟨(orderly_lives hs h).safe, fun t context active rest r he hcontext hsaved => ?_⟩
  exact (Cleanup.run_attempts he hcontext).resolve_left fun ⟨saved, f, hf⟩ => hsaved saved f hf

namespace CleanupSample

open StoreSample (added)

def environment : CleanupEnvironment := ⟨fun _ => "error", 1⟩

def bound : Value := .object
  [("provider", .string "sprintbox"), ("login", .string ""), ("credential_hash", .string "hash")]

def retained : Value := .object
  [("retained_boxes", .object [("older", .string "192.0.2.3"), ("old", .string "192.0.2.1")])]

mutual

/-- `json.dumps` for mappings of texts. -/
def dumps : Value → String
  | .string s => "\"" ++ s ++ "\""
  | .object fields => "\x7b" ++ ", ".intercalate (dumpFields fields) ++ "\x7d"
  | _ => "null"

def dumpFields : List (String × Value) → List String
  | [] => []
  | (key, value) :: fields => ("\"" ++ key ++ "\": " ++ dumps value) :: dumpFields fields

end

def env : Environment := { StoreSample.env with
  loads := fun text => [bound, retained].find? (dumps · = text)
  dumps := dumps
  sha256Text := fun _ => "hash"
  configDefault := fun _ => "" }

/-- An operation that has published the box "new" and is queued for its cleanup. -/
def queued : IpOperation where
  id := 1
  status := .pending
  currentStep := "cleanup_queued"
  revision := some 1
  actionState := .cleanupQueued
  purchaseState := .confirmed
  makeMainState := .notStarted
  applyState := .applied
  oldIp := some "192.0.2.1"
  oldIpId := some "old"
  newIp := some "192.0.2.2"
  newIpId := some "new"
  publishedRevision := some 2
  publishedAt := none
  healthcheckResult := none
  cleanupWarning := none
  rollbackOutcome := none
  errorMessage := none
  reconciliationNote := none

def start : CleanupWorld where
  db := { added with
    ipOperations := [queued]
    settings := [("current_ip", "192.0.2.2"), ("config.vps_provider", "sprintbox"),
      ("config.sprintbox_box_name", "new"), ("ip_change.1.provider", dumps bound),
      ("ip_change.1.sprintbox", dumps retained)] }
  past := []
  cut := false

def answered (s : CleanupWorld) (c : CleanupCall) (r : c.Answer) (db : Db) :
    Option (c.Answer × CleanupWorld) :=
  some (r, ⟨db, s.past ++ [⟨s.db, c, r⟩], s.cut⟩)

def boxes (s : CleanupWorld) : List String :=
  ["older", "old", "new"].filter fun name => !s.past.any fun x => x.deletes name && !x.unanswered

/-- The provider deletes the box "old" and does not answer the deletion of the box "older". -/
def reply : (c : CleanupCall) → CleanupWorld → Option (c.Answer × CleanupWorld)
  | .claim, s => answered s .claim (.ok (if (s.db.claimCleanup 1).1 then
      some (s.db.sprintboxContext env 1) else none)) (s.db.claimCleanup 1).2
  | .validateTarget, s =>
    match s.db.validateTarget env 1 with
    | .ok row => answered s .validateTarget (.ok row) s.db
    | .error message => answered s .validateTarget (.error (.other message)) s.db
  | .update p, s => answered s (.update p) (.ok ()) (s.db.updateOperation 1 p 0)
  | .save context, s => answered s (.save context) (.ok ())
      (s.db.setSetting (contextKey 1) (env.dumps context) "t1")
  | .listBoxes, s => answered s .listBoxes (.ok (boxes s)) s.db
  | .getBox name, s => answered s (.getBox name)
      (.ok [if name = "older" then "192.0.2.3" else "192.0.2.1"]) s.db
  | .deleteBox name, s => answered s (.deleteBox name)
      (if name = "older" then .error (.other "lost") else .ok "task") s.db
  | .taskStatus task, s => answered s (.taskStatus task) (.ok "finished") s.db
  | .sleep, s => answered s .sleep (.ok ()) s.db

theorem answered_step {s s' : CleanupWorld} {c : CleanupCall} {r r' : c.Answer} {db : Db}
    (h : answered s c r db = some (r', s')) (he : cleanupEffect env 1 c s.db r db) :
    cleanupStep env 1 c s r' s' := by
  obtain ⟨rfl, rfl⟩ := Prod.mk.inj (Option.some.inj h)
  exact ⟨rfl, s.db, ⟨.inl rfl, rfl⟩, he, rfl⟩

theorem reply_step (c : CleanupCall) (s : CleanupWorld) (r : c.Answer) (s' : CleanupWorld)
    (h : reply c s = some (r, s')) : cleanupStep env 1 c s r s' := by
  cases c with
  | claim => exact answered_step h (.inl ⟨rfl, rfl⟩)
  | validateTarget =>
    simp only [reply] at h
    split at h
    · rename_i row hvalid
      exact answered_step h ⟨rfl, .inl ⟨row, hvalid, rfl⟩⟩
    · rename_i message _
      exact answered_step h ⟨rfl, .inr ⟨.other message, rfl⟩⟩
  | update p => exact answered_step h (.inl ⟨rfl, 0, rfl⟩)
  | save context => exact answered_step h (.inl ⟨rfl, "t1", rfl⟩)
  | _ => exact answered_step h rfl

def played : CleanupWorld × Option (Except BoxFailure Unit) :=
  Program.play reply (Cleanup.runSprintboxCleanup environment).run start

theorem played_lives : CleanupLives environment env 1 start played.1 := by
  obtain ⟨tr, h⟩ := Program.play_exec reply_step (Cleanup.runSprintboxCleanup environment).run start
  have hlife : CleanupLives environment env 1 start
      { played.1 with cut := played.1.cut || cutOff tr played.2 } := .single (.run h)
  have hdone : played.2.isNone = false := by decide +kernel
  rwa [cutOff, hdone, Bool.false_and, Bool.or_false] at hlife

theorem past_of_exec {α : Type} {p : Program CleanupCall CleanupCall.Answer α} {s t : CleanupWorld}
    {tr : List (Program.Event CleanupCall CleanupCall.Answer)} {o : Option α}
    (h : Program.Exec (cleanupStep env 1) p s tr t o) :
    t.past.map (·.event) = s.past.map (·.event) ++ tr := by
  induction h with
  | stop => rw [List.append_nil]
  | done => rw [List.append_nil]
  | call hstep _ ih =>
    obtain ⟨-, db, -, -, hpast⟩ := hstep
    rw [ih, hpast, List.map_append, List.append_assoc]
    rfl

def attempts : List (Program.Event CleanupCall CleanupCall.Answer) → Bool
  | ⟨.claim, .ok (some context)⟩ :: ⟨.validateTarget, .ok _⟩ :: rest =>
    Cleanup.wellFormed context &&
      (context.get "retained_boxes").fields.map Prod.fst == ["older", "old"] &&
      rest.all fun
        | ⟨.save _, .error _⟩ => false
        | _ => true
  | _ => false

end CleanupSample

open CleanupSample in
/-- The first deletion is lost, the second box is deleted nevertheless, and the operation waits for
the user. -/
theorem Server.sprintbox_cleanup_safe_lost :
    CleanupSafe CleanupSample.env 1 played.1 ∧ played.1.past.countP (·.deletes "older") = 1 ∧
      played.1.past.countP (·.deletes "old") = 1 ∧
      (played.1.db.findIp 1).map (·.actionState) = some .cleanupAmbiguous ∧
      ∃ (context : Value) (active : IpOperation)
        (rest : List (Program.Event CleanupCall CleanupCall.Answer)),
        (context.get "retained_boxes").fields.map Prod.fst = ["older", "old"] ∧
        ∀ box ∈ (context.get "retained_boxes").fields,
          Cleanup.Attempted environment CleanupSample.env 1 active box rest := by
  have hstart : CleanupStart 1 start := ⟨rfl, rfl, fun row hrow => by
    obtain rfl := Option.some.inj hrow
    rfl⟩
  refine ⟨(sprintbox_cleanup_safe hstart played_lives).1, by decide +kernel, by decide +kernel,
    by decide +kernel, ?_⟩
  obtain ⟨tr, htr⟩ := Program.play_exec reply_step (Cleanup.runSprintboxCleanup environment).run start
  have hpast : played.1.past.map (·.event) = tr := past_of_exec htr
  have hattempts : attempts tr = true := hpast ▸ (by decide +kernel)
  have hdone : played.2.isSome = true := by decide +kernel
  obtain ⟨r, hr⟩ := Option.isSome_iff_exists.mp hdone
  rw [show (Program.play reply (Cleanup.runSprintboxCleanup environment).run start).2 = some r from hr]
    at htr
  unfold attempts at hattempts
  split at hattempts
  · rename_i context active rest
    simp only [Bool.and_eq_true, beq_iff_eq] at hattempts
    obtain ⟨⟨hcontext, hboxes⟩, hsaved⟩ := hattempts
    exact ⟨context, active, rest, hboxes, (sprintbox_cleanup_safe hstart .refl).2 played.1 context
      active rest r htr hcontext fun saved f hmem => by
        simpa using List.all_eq_true.mp hsaved _ hmem⟩
  · cases hattempts

end AutoVPN
