import AutoVPN.Reporting.Exchange
import AutoVPN.Router.Idempotency

/-! The router and the server together. Requests stay in flight while the
server answers them transaction by transaction, between its other work and the
work on other requests; an answer may be lost, also after it took effect. -/

namespace AutoVPN

open Program Server Http

/-- A request in flight with what is left of its handling. -/
structure Job where
  request : ApplyRequest
  work : Endpoint Reply

structure World where
  journal : Option Value
  credentialId : String
  store : ResultStore
  jobs : List Job

section

variable (py : PythonLibrary) (jsonLength : Value → Nat)

/-- What the server does on its own: another snapshot becomes the applied one,
the router gets another credential, results of deleted credentials go away, or
one request takes its next transaction. -/
inductive ServerMove : World → World → Prop
  | publish (w : World) (applied : Option Applied) :
    ServerMove w { w with store := { w.store with applied := applied } }
  | rotate (w : World) (credentialId : String) : ServerMove w { w with credentialId := credentialId }
  | forget (w : World) {results : List StoredRouterApplyResult}
      (h : results.Sublist w.store.results) :
    ServerMove w { w with store := { w.store with results := results } }
  | work (w : World) {pre post : List Job} {request : ApplyRequest} {call : ResultCall}
      {next : call.Answer → Endpoint Reply} {answer : call.Answer} {store : ResultStore}
      (hjob : w.jobs = pre ++ ⟨request, .call call next⟩ :: post)
      (h : Transacts call w.store answer store) :
    ServerMove w { w with store := store, jobs := pre ++ ⟨request, next answer⟩ :: post }

abbrev ServerMoves := Relation.ReflTransGen ServerMove

def World.send (w : World) (key etag : String) (body : Value) : World :=
  let request : ApplyRequest := ⟨w.credentialId, key, etag, body⟩
  { w with jobs := ⟨request, routerApplyResult py request⟩ :: w.jobs }

/-- `put-result`: nothing is sent, or the request is sent and the router sees a
failure of its own or the reply. -/
inductive PutStep (key etag : String) (w : World) : AdapterReply → World → Prop
  | refused {reply : AdapterReply} {c : Code} {w' : World}
      (hreply : Controller.adapterResponse reply = .failure c) (h : ServerMoves w w') :
    PutStep key etag w reply w'
  | lost {reply : AdapterReply} {c : Code} {body : Value} {w' : World}
      (hbody : preparePut jsonLength w.journal key etag = some body)
      (hreply : Controller.adapterResponse reply = .failure c)
      (h : ServerMoves (w.send py key etag body) w') : PutStep key etag w reply w'
  | answered {body : Value} {reply : Reply} {u w' : World}
      (hbody : preparePut jsonLength w.journal key etag = some body)
      (h : ServerMoves (w.send py key etag body) u)
      (hjob : ⟨⟨w.credentialId, key, etag, body⟩, .done reply⟩ ∈ u.jobs)
      (hafter : ServerMoves u w') :
    PutStep key etag w (putReply (finish ⟨w.credentialId, key, etag, body⟩ reply)) w'

def JointStep : (c : RouterCall) → World → c.Answer → World → Prop
  | .putResult key etag, w, reply, w' => PutStep py jsonLength key etag w reply w'
  | c, w, answer, w' =>
    ∃ j, RouterStep c w.journal answer j ∧ ServerMoves { w with journal := j } w'

/-- Commands of the router and moves of the server, in any order. -/
inductive JointRuns : World → List Session → World → Prop
  | nil (w : World) : JointRuns w [] w
  | moves {w w' w'' : World} {log : List Session} (h : ServerMoves w w')
      (rest : JointRuns w' log w'') : JointRuns w log w''
  | command {config : Config} {command : Command} {w w' w'' : World} {tr : List RouterEvent}
      {o : Option Result} {log : List Session}
      (h : Exec (JointStep py jsonLength) (Controller.main config command) w tr w' o)
      (rest : JointRuns w' log w'') : JointRuns w (⟨config, command, w.journal, tr⟩ :: log) w''

end

/-- Nothing has been written, stored or sent. -/
structure World.Fresh (w : World) : Prop where
  journal : w.journal = none
  results : w.store.results = []
  jobs : w.jobs = []

/-! Every result that the server stores, and every request in flight, is a
report of the router's ledger. -/

section

variable (py : PythonLibrary) (jsonLength : Value → Nat)

/-- The call records nothing but the report. -/
def RecordsOnly (p : PendingReport) : ResultCall → Prop
  | .record _ key result etag =>
    key = p.idempotencyKey ∧ etag = p.etag.1 ∧
      validateRouterApplyResult py p.body.encode = .ok result
  | _ => True

def Carries (p : PendingReport) (work : Endpoint Reply) : Prop :=
  Sat (σ := Unit) (fun _ _ _ _ => True) (fun c _ => RecordsOnly py p c) (fun _ _ => True) work ()

structure Served (ledger : List PendingReport) (w : World) : Prop where
  rows : ∀ row ∈ w.store.results, ∃ p ∈ ledger, Holds py row p
  jobs : ∀ job ∈ w.jobs, ∃ p ∈ ledger, Carries py p job.work

end

variable {py : PythonLibrary} {jsonLength : Value → Nat} {ledger : List PendingReport}
  {w w' : World}

theorem carries_refuseApplied (p : PendingReport) (status : Nat) (code message : String) :
    Carries py p (refuseApplied status code message) := by
  refine ⟨trivial, fun applied _ _ => ?_⟩
  dsimp only [Program.bind]
  cases loadAppliedSnapshot applied <;> exact trivial

theorem carries_recordResult {credentialId : String} {p : PendingReport}
    {result : ValidatedRouterApplyResult}
    (hresult : validateRouterApplyResult py p.body.encode = .ok result) :
    Carries py p (recordResult (requestOf credentialId p) result) := by
  refine ⟨trivial, fun applied _ _ => ?_⟩
  dsimp only [Program.bind]
  cases loadAppliedSnapshot applied with
  | error error => exact trivial
  | ok loaded =>
    dsimp only
    cases refusal (requestOf credentialId p) result loaded.1 loaded.2 with
    | some error => exact trivial
    | none =>
      refine ⟨⟨rfl, rfl, hresult⟩, fun answer _ _ => ?_⟩
      cases answer <;> exact trivial

theorem carries_replayOrRecord {credentialId : String} {p : PendingReport}
    {result : ValidatedRouterApplyResult}
    (hresult : validateRouterApplyResult py p.body.encode = .ok result) :
    Carries py p (replayOrRecord (requestOf credentialId p) result) := by
  refine ⟨trivial, fun found _ _ => ?_⟩
  dsimp only [Program.bind]
  cases found with
  | none => exact carries_recordResult hresult
  | some row =>
    dsimp only
    split
    · exact carries_refuseApplied p _ _ _
    · split
      · exact carries_refuseApplied p _ _ _
      · exact trivial

theorem carries_routerApplyResult (credentialId : String) (p : PendingReport) :
    Carries py p (routerApplyResult py (requestOf credentialId p)) := by
  unfold routerApplyResult
  split
  · exact trivial
  split
  · exact trivial
  split
  · exact carries_refuseApplied p _ _ _
  split
  · exact trivial
  · exact carries_replayOrRecord ‹_›

theorem Served.mono {more : List PendingReport} (h : Served py ledger w) (hmore : ledger ⊆ more) :
    Served py more w where
  rows row hrow := by
    obtain ⟨p, hp, hholds⟩ := h.rows row hrow
    exact ⟨p, hmore hp, hholds⟩
  jobs job hjob := by
    obtain ⟨p, hp, hcarries⟩ := h.jobs job hjob
    exact ⟨p, hmore hp, hcarries⟩

theorem Transacts.results {p : PendingReport} {call : ResultCall} {store store' : ResultStore}
    {answer : call.Answer} (h : Transacts call store answer store')
    (honly : RecordsOnly py p call) :
    ∀ row ∈ store'.results, row ∈ store.results ∨ Holds py row p := by
  cases call with
  | findReplay credentialId key => exact fun row hrow => .inl (h.1 ▸ hrow)
  | loadApplied => exact fun row hrow => .inl (h.1 ▸ hrow)
  | record credentialId key result etag =>
    obtain ⟨rfl, rfl, hresult⟩ := honly
    obtain ⟨stamp, hrecord⟩ := h
    exact recordRouterApplyResult_results hresult hrecord

theorem Served.move (h : Served py ledger w) (hmove : ServerMove w w') : Served py ledger w' := by
  cases hmove with
  | publish applied => exact ⟨h.rows, h.jobs⟩
  | rotate credentialId => exact ⟨h.rows, h.jobs⟩
  | forget hsub => exact ⟨fun row hrow => h.rows row (hsub.subset hrow), h.jobs⟩
  | @work pre post request call next answer store hjob ht =>
    obtain ⟨p, hp, hcarries⟩ := h.jobs ⟨request, .call call next⟩ (by simp [hjob])
    refine ⟨fun row hrow => ?_, fun job hmem => ?_⟩
    · rcases Transacts.results ht hcarries.1 row hrow with hrow | hholds
      · exact h.rows row hrow
      · exact ⟨p, hp, hholds⟩
    · rcases List.mem_append.mp hmem with hmem | hmem
      · exact h.jobs job (by simp [hjob, hmem])
      · rcases List.mem_cons.mp hmem with rfl | hmem
        · exact ⟨p, hp, hcarries.2 answer () trivial⟩
        · exact h.jobs job (by simp [hjob, hmem])

theorem Served.moves (h : Served py ledger w) (hmoves : ServerMoves w w') :
    Served py ledger w' := by
  induction hmoves with
  | refl => exact h
  | tail _ hmove ih => exact ih.move hmove

theorem ServerMove.journal (h : ServerMove w w') : w'.journal = w.journal := by
  cases h <;> rfl

theorem ServerMoves.journal (h : ServerMoves w w') : w'.journal = w.journal := by
  induction h with
  | refl => rfl
  | tail _ hmove ih => exact hmove.journal.trans ih

theorem PutStep.journal {key etag : String} {reply : AdapterReply}
    (h : PutStep py jsonLength key etag w reply w') : w'.journal = w.journal := by
  cases h with
  | refused _ h => exact h.journal
  | lost _ _ h => exact h.journal
  | answered _ h _ hafter => exact hafter.journal.trans h.journal

theorem JointStep.router {c : RouterCall} {answer : c.Answer}
    (h : JointStep py jsonLength c w answer w') : RouterStep c w.journal answer w'.journal := by
  cases c with
  | putResult key etag => exact PutStep.journal h
  | _ =>
    obtain ⟨j, hstep, hmoves⟩ := h
    rw [hmoves.journal]
    exact hstep

theorem Served.send {key etag : String} {body : Value} {before : List PendingReport}
    {past : List RouterEvent} (h : Served py (before ++ reportsOf past) w)
    (hrecorded : Recorded before (w.journal, past))
    (hbody : preparePut jsonLength w.journal key etag = some body) :
    Served py (before ++ reportsOf past) (w.send py key etag body) := by
  refine ⟨h.rows, fun job hjob => ?_⟩
  rcases List.mem_cons.mp hjob with rfl | hjob
  · cases hj : w.journal with
    | none => simp [hj, preparePut] at hbody
    | some v =>
      obtain ⟨s, rfl, hknown⟩ := hrecorded.written v hj
      rw [hj] at hbody
      obtain ⟨p, hp, rfl, rfl, rfl, _⟩ := preparePut_encode hbody
      exact ⟨p, hknown p hp, carries_routerApplyResult w.credentialId p⟩
  · exact h.jobs job hjob

theorem Served.put {key etag : String} {reply : AdapterReply} {before : List PendingReport}
    {past : List RouterEvent} (h : Served py (before ++ reportsOf past) w)
    (hrecorded : Recorded before (w.journal, past))
    (hput : PutStep py jsonLength key etag w reply w') :
    Served py (before ++ reportsOf past) w' := by
  cases hput with
  | refused _ hmoves => exact h.moves hmoves
  | lost hbody _ hmoves => exact (h.send hrecorded hbody).moves hmoves
  | answered hbody hmoves _ hafter => exact ((h.send hrecorded hbody).moves hmoves).moves hafter

theorem Served.joint {c : RouterCall} {answer : c.Answer} {before : List PendingReport}
    {past : List RouterEvent} (h : Served py (before ++ reportsOf past) w)
    (hrecorded : Recorded before (w.journal, past))
    (hstep : JointStep py jsonLength c w answer w') :
    Served py (before ++ reportsOf (past ++ [⟨c, answer⟩])) w' := by
  have hmore : before ++ reportsOf past ⊆ before ++ reportsOf (past ++ [⟨c, answer⟩]) := by
    simp [reportsOf]
  refine Served.mono ?_ hmore
  cases c with
  | putResult key etag => exact h.put hrecorded hstep
  | _ =>
    obtain ⟨j, _, hmoves⟩ := hstep
    have hwritten : Served py (before ++ reportsOf past) { w with journal := j } := ⟨h.rows, h.jobs⟩
    exact hwritten.moves hmoves

/-- What holds between two commands, for the reports known so far. -/
structure Agreed (py : PythonLibrary) (ledger : List PendingReport) (w : World) : Prop where
  recorded : Recorded ledger (w.journal, [])
  served : Served py ledger w

theorem Agreed.command {config : Config} {command : Command} {tr : List RouterEvent}
    {o : Option Result} (h : Agreed py ledger w)
    (hagain : ¬(Session.mk config command w.journal tr).ReportsAgain)
    (he : Exec (JointStep py jsonLength) (Controller.main config command) w tr w' o) :
    Agreed py (ledger ++ reportsOf tr) w' := by
  have hrouter : Exec RouterStep (Controller.main config command) w.journal tr w'.journal o :=
    he.map World.journal fun _ _ _ _ hstep => hstep.router
  refine ⟨recorded_command h.recorded hagain hrouter, ?_⟩
  have htracks : Tracks ledger tr (fun _ _ => True) (Controller.main config command)
      (w.journal, []) := tracks_main config command w.journal hagain
  have hproject (c : RouterCall) (u : World × List RouterEvent) (answer : c.Answer)
      (u' : World × List RouterEvent) (hstep : along (JointStep py jsonLength) tr c u answer u') :
      along RouterStep tr c (u.1.journal, u.2) answer (u'.1.journal, u'.2) :=
    ⟨hstep.1.router, hstep.2⟩
  have hguard := Sat.comap (t := (w, [])) (fun u : World × List RouterEvent => (u.1.journal, u.2))
    hproject (htracks h.recorded)
  have hend := hguard.preserves (J := fun u => Served py (ledger ++ reportsOf u.2) u.1)
    (he.along []) (fun c u answer u' hrecorded hserved hstep => by
      rw [hstep.2.1]
      exact hserved.joint hrecorded hstep.1) (by simpa [reportsOf] using h.served)
  simpa using hend

/-- Along a run the server stores and sends nothing but the router's reports. -/
theorem JointRuns.agreed {log : List Session} (hrun : JointRuns py jsonLength w log w')
    (hlog : ∀ x ∈ log, ¬x.ReportsAgain) (h : Agreed py ledger w) :
    Agreed py (ledger ++ log.flatMap fun x => reportsOf x.trace) w' := by
  induction hrun generalizing ledger with
  | nil w => simpa using h
  | moves hmoves _ ih =>
    exact ih hlog ⟨hmoves.journal ▸ h.recorded, h.served.moves hmoves⟩
  | command he _ ih =>
    have hnext := h.command (hlog _ List.mem_cons_self) he
    have hend := ih (fun x hx => hlog x (List.mem_cons_of_mem _ hx)) hnext
    simpa [List.append_assoc] using hend

theorem World.Fresh.agreed (h : w.Fresh) : Agreed py [] w where
  recorded := h.journal ▸ Recorded.initial
  served := ⟨by simp [h.results], by simp [h.jobs]⟩

end AutoVPN
