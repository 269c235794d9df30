import Mathlib.Data.List.TakeWhile
import AutoVPN.Reporting.Joint
import AutoVPN.Reporting.Refresh

/-! A refresh whose exchanges are all delivered, next to the server: it makes
its fetch just when the server takes the report that the journal holds. -/

namespace AutoVPN

open Program Controller

section

variable (py : PythonLibrary) (jsonLength : Value → Nat)

/-- The request for the report is delivered and answered, undisturbed by other
work of the server, and the body is one that the server's schema check takes. -/
inductive Delivered (key etag : String) (w : World) : AdapterReply → World → Prop
  | intro {body : Value} {result : Server.ValidatedRouterApplyResult} {reply : Server.Reply}
      {store : Server.ResultStore} {tr : List (Event Server.ResultCall Server.ResultCall.Answer)}
      {w' : World}
      (hbody : Http.preparePut jsonLength w.journal key etag = some body)
      (hresult : Server.validateRouterApplyResult py body = .ok result)
      (hexchange : Exec Server.Transacts
        (Server.routerApplyResult py ⟨w.credentialId, key, etag, body⟩) w.store tr store
        (some reply))
      (hafter : ServerMoves
        { w with
          store := store
          jobs := ⟨⟨w.credentialId, key, etag, body⟩, .done reply⟩ :: w.jobs } w') :
    Delivered key etag w (Http.putReply (finish ⟨w.credentialId, key, etag, body⟩ reply)) w'

/-- A step in which nothing local fails and every exchange is delivered. -/
def SmoothStep : (c : RouterCall) → World → c.Answer → World → Prop
  | .putResult key etag, w, reply, w' => Delivered py jsonLength key etag w reply w'
  | c, w, answer, w' => JointStep py jsonLength c w answer w' ∧ Granted ⟨c, answer⟩

/-- The server takes the report that the journal holds: it has stored it, or
it names the snapshot that is applied. -/
def Sendable (w : World) : Prop :=
  ∃ (s : State) (p : PendingReport), w.journal = some s.encode ∧ s.pendingReport = some p ∧
    Takes w.store w.credentialId p

end

variable {py : PythonLibrary} {jsonLength : Value → Nat} {ledger : List PendingReport}
  {w w' : World}

theorem serverMoves_of_exec {work : Server.Endpoint Server.Reply} {store store' : Server.ResultStore}
    {tr : List (Event Server.ResultCall Server.ResultCall.Answer)} {reply : Server.Reply}
    (he : Exec Server.Transacts work store tr store' (some reply)) (w : World)
    (request : Server.ApplyRequest) :
    ServerMoves { w with store := store, jobs := ⟨request, work⟩ :: w.jobs }
      { w with store := store', jobs := ⟨request, .done reply⟩ :: w.jobs } := by
  generalize ho : some reply = o at he
  induction he with
  | stop p s => simp at ho
  | done b s =>
    obtain rfl := Option.some.inj ho
    exact .refl
  | @call call next s u t answer tr o hs _ ih =>
    refine Relation.ReflTransGen.head ?_ (ih ho)
    let v : World := { w with store := s, jobs := ⟨request, .call call next⟩ :: w.jobs }
    have hjob : v.jobs = [] ++ ⟨request, .call call next⟩ :: w.jobs := rfl
    exact .work v hjob hs

theorem Delivered.put {key etag : String} {reply : AdapterReply}
    (h : Delivered py jsonLength key etag w reply w') : PutStep py jsonLength key etag w reply w' := by
  obtain ⟨hbody, _, hexchange, hafter⟩ := h
  exact .answered hbody (serverMoves_of_exec hexchange w _) List.mem_cons_self hafter

theorem SmoothStep.joint {c : RouterCall} {answer : c.Answer}
    (h : SmoothStep py jsonLength c w answer w') : JointStep py jsonLength c w answer w' := by
  cases c with
  | putResult key etag => exact Delivered.put h
  | _ => exact h.1

theorem SmoothStep.granted {c : RouterCall} {answer : c.Answer}
    (h : SmoothStep py jsonLength c w answer w') : Granted ⟨c, answer⟩ := by
  cases c with
  | putResult key etag => exact trivial
  | _ => exact h.2

theorem adapterResponse_putReply (outcome : Except String Bool) :
    (∃ value, adapterResponse (Http.putReply outcome) = .success value) ↔
      ∃ replayed, outcome = .ok replayed := by
  cases outcome with
  | error code =>
    refine iff_of_false ?_ (by simp)
    rintro ⟨value, hvalue⟩
    exact Response.noConfusion hvalue
  | ok replayed => exact iff_of_true ⟨_, rfl⟩ ⟨replayed, rfl⟩

theorem Delivered.passes_iff {key etag : String} {reply : AdapterReply}
    {past : List RouterEvent} (hrecorded : Recorded ledger (w.journal, past))
    (hserved : Served py (ledger ++ reportsOf past) w)
    (h : Delivered py jsonLength key etag w reply w') :
    Passes ⟨.putResult key etag, reply⟩ ↔ Sendable w := by
  obtain ⟨hbody, hresult, hexchange, _⟩ := h
  cases hj : w.journal with
  | none => simp [hj, Http.preparePut] at hbody
  | some v =>
    obtain ⟨s, rfl, hknown⟩ := hrecorded.written v hj
    rw [hj] at hbody
    obtain ⟨p, hp, rfl, rfl, rfl, hkey⟩ := preparePut_encode hbody
    have hrows : ∀ row ∈ w.store.results, row.idempotencyKey = p.idempotencyKey →
        Holds py row p := by
      intro row hrow hsame
      obtain ⟨q, hq, hholds⟩ := hserved.rows row hrow
      have hqp : q = p := hrecorded.unique q hq p (hknown p hp)
        (congrArg keyAttempt (hholds.key.symm.trans hsame))
      exact hqp ▸ hholds
    have haccepted := (sat_routerApplyResult hrows hkey hresult).result hexchange
    refine (adapterResponse_putReply _).trans (haccepted.trans ⟨fun h => ⟨s, p, hj, hp, h⟩, ?_⟩)
    rintro ⟨s', p', hj', hp', htakes⟩
    have hs : s' = s := State.encode_injective (Option.some.inj (hj'.symm.trans hj))
    rw [hs, hp] at hp'
    exact Option.some.inj hp' ▸ htakes

theorem Passes.not_fetch {e : RouterEvent} (h : Passes e) : e.isFetch = false := by
  obtain ⟨c, answer⟩ := e
  cases c with
  | fetch etag => exact absurd h id
  | _ => rfl

abbrev Observation := World × RouterEvent

/-- The observations before the fetch, if there is one. -/
def beforeFetch (history : List Observation) : List Observation :=
  history.takeWhile fun x => !x.2.isFetch

theorem Fetched.beforeFetch {history : List Observation} (h : Fetched (history.map Prod.snd)) :
    (∃ x ∈ history, x.2.isFetch = true) ∧ ∀ x ∈ beforeFetch history, Passes x.2 := by
  obtain ⟨pre, e, post, hsplit, he, hpre⟩ := h
  obtain ⟨hpre', rest, rfl, rfl, hrest⟩ := List.map_eq_append_iff.mp hsplit
  obtain ⟨x, hpost', rfl, rfl, _⟩ := List.map_eq_cons_iff.mp hrest
  refine ⟨⟨x, by simp, he⟩, ?_⟩
  have hquiet : ∀ y ∈ hpre', (!y.2.isFetch) = true := fun y hy => by
    rw [(hpre y.2 (List.mem_map_of_mem hy)).not_fetch]
    rfl
  rw [AutoVPN.beforeFetch, List.takeWhile_append_of_pos hquiet,
    List.takeWhile_cons_of_neg (by simp [he]), List.append_nil]
  exact fun y hy => hpre y.2 (List.mem_map_of_mem hy)

theorem Stopped.beforeFetch {history : List Observation} (h : Stopped (history.map Prod.snd)) :
    (∀ x ∈ history, x.2.isFetch = false) ∧
      ∃ pre x, history = pre ++ [x] ∧ x ∈ beforeFetch history ∧ x.2.isPut = true ∧ ¬Passes x.2 := by
  obtain ⟨pre, e, hsplit, hput, hrefused, hpre⟩ := h
  obtain ⟨hpre', rest, rfl, rfl, hrest⟩ := List.map_eq_append_iff.mp hsplit
  obtain ⟨x, hpost', rfl, rfl, hnil⟩ := List.map_eq_cons_iff.mp hrest
  obtain rfl := List.map_eq_nil_iff.mp hnil
  have hquiet : ∀ y ∈ hpre' ++ [x], y.2.isFetch = false := by
    intro y hy
    rcases List.mem_append.mp hy with hy | hy
    · exact (hpre y.2 (List.mem_map_of_mem hy)).not_fetch
    · obtain rfl := List.mem_singleton.mp hy
      exact RouterEvent.not_fetch_of_isPut hput
  refine ⟨hquiet, hpre', x, rfl, ?_, hput, hrefused⟩
  rw [AutoVPN.beforeFetch, List.takeWhile_eq_self_iff.mpr (fun y hy => by simp [hquiet y hy])]
  simp

theorem JointStep.journal_of_put {e : RouterEvent} (h : JointStep py jsonLength e.1 w e.2 w')
    (hput : e.isPut = true) : w'.journal = w.journal := by
  obtain ⟨c, answer⟩ := e
  cases c with
  | putResult key etag => exact PutStep.journal h
  | _ => simp [RouterEvent.isPut] at hput

theorem Agreed.passes_iff {config : Config} {tr : List RouterEvent} {o : Option Result}
    {history : List Observation} (h : Agreed py ledger w)
    (hagain : ¬(Session.mk config .refresh w.journal tr).ReportsAgain)
    (he : Exec (observed (SmoothStep py jsonLength) history) (Controller.main config .refresh)
      (w, []) tr (w', history) o) :
    ∀ x ∈ history, x.2.isPut = true → (Passes x.2 ↔ Sendable x.1) := by
  have htr : history.map Prod.snd = tr := by simpa using he.observed_events
  have htracks : Tracks ledger tr (fun _ _ => True) (Controller.main config .refresh)
      (w.journal, []) := tracks_main config .refresh w.journal hagain
  have hproject (c : RouterCall) (u : World × List Observation) (answer : c.Answer)
      (u' : World × List Observation)
      (hstep : observed (SmoothStep py jsonLength) history c u answer u') :
      along RouterStep tr c (u.1.journal, u.2.map Prod.snd) answer
        (u'.1.journal, u'.2.map Prod.snd) := by
    refine ⟨hstep.1.joint.router, ?_, ?_⟩
    · rw [hstep.2.1, List.map_append]
      rfl
    · rw [← htr]
      exact hstep.2.2.map Prod.snd
  have hguard := Sat.comap (t := (w, []))
    (fun u : World × List Observation => (u.1.journal, u.2.map Prod.snd)) hproject
    (htracks h.recorded)
  intro x hx hput
  have hseen := hguard.observation (J := fun u => Served py (ledger ++ reportsOf (u.2.map Prod.snd)) u.1)
    he (fun c u answer u' hrecorded hserved hstep => by
      rw [hstep.2.1, List.map_append]
      exact hserved.joint hrecorded hstep.1.joint) (by simpa [reportsOf] using h.served) x hx
  rcases hseen with hnil | ⟨u, u', hu, hrecorded, hserved, hstep⟩
  · simp at hnil
  · obtain ⟨v, ⟨c, answer⟩⟩ := x
    obtain rfl : u.1 = v := hu
    cases c with
    | putResult key etag => exact Delivered.passes_iff hrecorded hserved hstep
    | _ => simp [RouterEvent.isPut] at hput

/-- From every joint state that the router and the server reach, a refresh
whose exchanges are all delivered makes its fetch just when the server takes
the report that the journal holds; otherwise it ends with that report pending. -/
theorem refresh_fetches_iff {w₀ : World} {log : List Session} {config : Config}
    {tr : List RouterEvent} {o : Result} {history : List Observation} (hfresh : w₀.Fresh)
    (hrun : JointRuns py jsonLength w₀ log w) (hload : (loadState (.contents w.journal)).isSome = true)
    (hconfig : config.Complete)
    (hrefresh : Exec (observed (SmoothStep py jsonLength) history) (Controller.main config .refresh)
      (w, []) tr (w', history) (some o))
    (hreports : ∀ x ∈ log ++ [⟨config, .refresh, w.journal, tr⟩], ¬x.ReportsAgain) :
    ((∃ x ∈ history, x.2.isFetch = true) ↔
      ∀ x ∈ beforeFetch history, x.2.isPut = true → Sendable x.1) ∧
    ((∀ x ∈ history, x.2.isFetch = false) →
      ∃ x ∈ history, x.2.isPut = true ∧ ¬Sendable x.1 ∧ w'.journal = x.1.journal) := by
  have hagreed := hrun.agreed (fun x hx => hreports x (List.mem_append_left _ hx)) hfresh.agreed
  have hpasses := hagreed.passes_iff (hreports _ (by simp)) hrefresh
  have hgranted : Exec GrantedStep (Controller.main config .refresh) (w.journal, []) tr
      (w'.journal, history.map Prod.snd) (some o) :=
    hrefresh.map (fun u : World × List Observation => (u.1.journal, u.2.map Prod.snd))
      fun _ _ _ _ hstep => ⟨hstep.1.joint.router, by rw [hstep.2.1, List.map_append]; rfl,
        hstep.1.granted⟩
  have hmem : ∀ x ∈ beforeFetch history, x ∈ history := fun x hx =>
    (List.takeWhile_prefix _).subset hx
  rcases (sat_main_refresh hconfig hload).result hgranted with hfetched | hstopped
  · obtain ⟨hfetch, hbefore⟩ := hfetched.beforeFetch
    refine ⟨iff_of_true hfetch fun x hx hput => ?_, fun hnone => ?_⟩
    · exact (hpasses x (hmem x hx) hput).mp (hbefore x hx)
    · obtain ⟨x, hx, hxfetch⟩ := hfetch
      simp [hnone x hx] at hxfetch
  · obtain ⟨hnone, pre, x, hsplit, hx, hput, hrefused⟩ := hstopped.beforeFetch
    have hsendable : ¬Sendable x.1 := fun h => hrefused ((hpasses x (hmem x hx) hput).mpr h)
    refine ⟨iff_of_false ?_ fun h => hsendable (h x hx hput), fun _ => ?_⟩
    · rintro ⟨y, hy, hyfetch⟩
      simp [hnone y hy] at hyfetch
    · refine ⟨x, hmem x hx, hput, hsendable, ?_⟩
      have htr : tr = pre.map Prod.snd ++ [x.2] := by
        have hevents : history.map Prod.snd = tr := by simpa using hrefresh.observed_events
        rw [← hevents, hsplit, List.map_append]
        rfl
      obtain ⟨u, hlast⟩ := (htr ▸ hrefresh).last
      have hu : x = (u.1, x.2) := by
        have hend : pre ++ [x] = u.2 ++ [(u.1, x.2)] := hsplit.symm.trans hlast.2.1
        exact List.singleton_inj.mp (List.append_inj_right' hend rfl)
      rw [hu]
      exact hlast.1.joint.journal_of_put hput

namespace Sample

/-- The library on the one body that these runs send. -/
def library : PythonLibrary where
  lower := fun s => String.ofList (s.toList.map Char.toLower)
  isControl := fun c => c < ' ' || c == Char.ofNat 127
  canonicalJson := fun v =>
    if (v.get "outcome").isNull then "\x7b\"stage\":\"verified\"\x7d"
    else "\x7b\"active_profile\":null,\"capabilities\":\x7b\"amneziawg\":false,\"hysteria2\":false," ++
      "\"policy_routing\":false,\"vless\":false,\"zapret\":false\x7d,\"diagnostics\":" ++
      "\x7b\"stage\":\"verified\"\x7d,\"outcome\":\"APPLIED\",\"revision\":7,\"schema_version\":1," ++
      "\"snapshot_sha256\":\"" ++ digest ++ "\"\x7d"
  sha256 := fun _ => "a475bb6019d7cd0a42915349830307f913c97c9edfed07bbb081be4ff1ee5d9c"

def printedLength (v : Value) : Nat := if (v.get "outcome").isNull then 23 else 329

def appliedAs (revision : Nat) (etag : String) : Server.Applied :=
  ⟨revision, some ⟨digest, true, some ("", etag)⟩⟩

def atFirst : World where
  journal := none
  credentialId := "credential-1"
  store := ⟨some (appliedAs 7 etag.1), []⟩
  jobs := []

/-- The router has applied the snapshot and has not reported it. -/
def unreported : World := { atFirst with journal := some reported.encode }

/-- The server has published another snapshot since. -/
def outdated : World := { unreported with store := ⟨some (appliedAs 8 digest), []⟩ }

def unsent : AdapterReply :=
  .finished (.object [("ok", .bool false), ("code", .string "connect_failed")]) 1

def prepared : State := (Machine.prepared preparing).state

def activating : State := (Machine.activating prepared).state

/-- A refresh that applies the snapshot; the server cannot be reached for the report. -/
def unsentRefresh : List RouterEvent :=
  [⟨.maintenanceBlocked, false⟩, ⟨.readJournal, .contents none⟩, ⟨.runtime .restore, confirmed⟩,
    ⟨.credentialReadable, true⟩, ⟨.protectCredential, true⟩, ⟨.fetch "", fetched⟩,
    ⟨.readResponse "/etc/autovpn/state/http-response.1", .contents snapshotValue⟩,
    ⟨.writeJournal ready.encode, true⟩, ⟨.writeJournal preparing.encode, true⟩,
    ⟨.runtime .prepare, confirmed⟩, ⟨.writeJournal prepared.encode, true⟩,
    ⟨.writeJournal activating.encode, true⟩, ⟨.runtime .activate, confirmed⟩,
    ⟨.writeJournal verifying.encode, true⟩, ⟨.runtime .verify, confirmed⟩,
    ⟨.runtime .capabilities, .notStarted⟩, ⟨.writeJournal reported.encode, true⟩,
    ⟨.putResult (Machine.reportKey entry) etag.1, unsent⟩]

theorem exec_unsentRefresh (py : PythonLibrary) (jsonLength : Value → Nat) :
    Exec (JointStep py jsonLength) (Controller.main config .refresh) atFirst unsentRefresh
      unreported none := by
  refine .call (u := atFirst) ⟨none, rfl, .refl⟩ ?_
  refine .call (u := atFirst) ⟨none, ⟨rfl, .inr rfl⟩, .refl⟩ ?_
  iterate 5 refine .call (u := atFirst) ⟨none, rfl, .refl⟩ ?_
  refine .call (u := { atFirst with journal := some ready.encode }) ⟨some ready.encode, rfl, .refl⟩ ?_
  iterate 2
    refine .call (u := { atFirst with journal := some preparing.encode })
      ⟨some preparing.encode, rfl, .refl⟩ ?_
  refine .call (u := { atFirst with journal := some prepared.encode })
    ⟨some prepared.encode, rfl, .refl⟩ ?_
  iterate 2
    refine .call (u := { atFirst with journal := some activating.encode })
      ⟨some activating.encode, rfl, .refl⟩ ?_
  iterate 3
    refine .call (u := { atFirst with journal := some verifying.encode })
      ⟨some verifying.encode, rfl, .refl⟩ ?_
  refine .call (u := unreported) ⟨some reported.encode, rfl, .refl⟩ ?_
  refine .call (u := unreported) (PutStep.refused (c := Machine.code "connect_failed") rfl .refl) ?_
  exact .stop _ _

theorem unreported_reachable (py : PythonLibrary) (jsonLength : Value → Nat) :
    JointRuns py jsonLength atFirst [⟨config, .refresh, none, unsentRefresh⟩] unreported :=
  .command (exec_unsentRefresh py jsonLength) (.nil _)

theorem outdated_reachable (py : PythonLibrary) (jsonLength : Value → Nat) :
    JointRuns py jsonLength atFirst [⟨config, .refresh, none, unsentRefresh⟩] outdated :=
  .command (exec_unsentRefresh py jsonLength)
    (.moves (.single (.publish unreported (some (appliedAs 8 digest)))) (.nil _))

def pending : PendingReport := reported.pendingReport.get rfl

theorem pending_sent :
    Http.preparePut printedLength (some reported.encode) pending.idempotencyKey etag.1 =
      some pending.body.encode := rfl

theorem pending_valid :
    ∃ result, Server.validateRouterApplyResult library pending.body.encode = .ok result := ⟨_, rfl⟩

def mismatch : Server.Reply :=
  .refused ⟨412, "etag_mismatch", "If-Match does not match the applied router snapshot", some 8⟩

theorem outdated_exchange : Exec Server.Transacts
    (Server.routerApplyResult library (requestOf "credential-1" pending)) outdated.store
    [⟨.findReplay "credential-1" pending.idempotencyKey, none⟩,
      ⟨.loadApplied, some (appliedAs 8 digest)⟩] outdated.store (some mismatch) := by
  obtain ⟨result, hresult⟩ := pending_valid
  rw [routerApplyResult_requestOf (by decide) hresult]
  refine .call (u := outdated.store) ⟨rfl, rfl⟩ ?_
  refine .call (u := outdated.store) ⟨rfl, rfl⟩ ?_
  exact .done _ _

/-- The first calls of a refresh on the unsent report. -/
def refreshing (later : List RouterEvent) : List RouterEvent :=
  [⟨.maintenanceBlocked, false⟩, ⟨.readJournal, .contents (some reported.encode)⟩,
    ⟨.runtime .restore, confirmed⟩] ++ later

def restored : Result :=
  { ok := true, code := some runtimeRestored, state := some reported }

theorem reported_loads :
    loadState (.contents (some reported.encode)) = some reported :=
  Journal.load_encode reported_valid Machine.initialState

theorem exec_refreshing {w w' : World} {later : List RouterEvent} {o : Option Result}
    (hjournal : w.journal = some reported.encode)
    (hrest : Exec (SmoothStep library printedLength)
      (reportPending reported >>= fun t =>
        if !t.ok then return ofTransition t else fetchAndApply config restored t.state)
      w later w' o) :
    Exec (SmoothStep library printedLength) (Controller.main config .refresh) w (refreshing later)
      w' o := by
  refine .call (u := w) ⟨⟨_, rfl, .refl⟩, rfl⟩ ?_
  refine .call (u := w) ⟨⟨_, ⟨rfl, .inr (congrArg _ hjournal.symm)⟩, .refl⟩, _, rfl⟩ ?_
  show Exec _ (runCommand config .refresh (.contents (some reported.encode))) _ _ _ _
  rw [runCommand, reported_loads]
  refine .call (u := w) ⟨⟨_, rfl, .refl⟩, trivial⟩ ?_
  exact hrest

def answered (w : World) (store : Server.ResultStore) (reply : Server.Reply) : World :=
  { w with store := store, jobs := [⟨requestOf "credential-1" pending, .done reply⟩] }

theorem delivered {w : World} {store : Server.ResultStore} {reply : Server.Reply}
    {outcome : Except String Bool} {tr : List (Event Server.ResultCall Server.ResultCall.Answer)}
    (hjournal : w.journal = some reported.encode) (hcredential : w.credentialId = "credential-1")
    (hjobs : w.jobs = [])
    (hexchange : Exec Server.Transacts
      (Server.routerApplyResult library (requestOf "credential-1" pending)) w.store tr store
      (some reply))
    (hfinish : finish (requestOf "credential-1" pending) reply = outcome) :
    Delivered library printedLength pending.idempotencyKey etag.1 w (Http.putReply outcome)
      (answered w store reply) := by
  obtain ⟨journal, credentialId, _, jobs⟩ := w
  obtain rfl : journal = _ := hjournal
  obtain rfl : credentialId = _ := hcredential
  obtain rfl : jobs = [] := hjobs
  obtain ⟨result, hresult⟩ := pending_valid
  rw [← hfinish]
  exact .intro pending_sent hresult hexchange .refl

def blockedRefresh : List RouterEvent :=
  refreshing [⟨.putResult pending.idempotencyKey etag.1, Http.putReply (.error "http_412")⟩]

theorem exec_blockedRefresh : Exec (SmoothStep library printedLength)
    (Controller.main config .refresh) outdated blockedRefresh
    (answered outdated outdated.store mismatch)
    (some (ofTransition (Machine.failed (Machine.code "http_412") reported))) := by
  refine exec_refreshing rfl (.call (u := answered outdated outdated.store mismatch) ?_ (.done _ _))
  exact delivered rfl rfl rfl outdated_exchange rfl

def accepted : State := Machine.bump { reported with pendingReport := none }

theorem reportAccepted_pending :
    Machine.reportAccepted reported pending.idempotencyKey = Machine.done accepted := by
  have hreport : reported.pendingReport = some pending := rfl
  rw [Machine.reportAccepted, hreport]
  exact if_neg (fun h => h rfl)

theorem unreported_names : Names unreported.store pending :=
  ⟨⟨digest, true, some ("", etag.1)⟩, "", etag.1, rfl, rfl, rfl, rfl, .inr rfl⟩

theorem accepted_exchange : ∃ store row tr, Exec Server.Transacts
    (Server.routerApplyResult library (requestOf "credential-1" pending)) unreported.store tr store
    (some (.stored etag.1 row false)) ∧ Holds library row pending := by
  obtain ⟨result, hresult⟩ := pending_valid
  obtain ⟨store, row, tr, hexec, hholds⟩ := exec_recordResult "credential-1"
    unreported_names rfl hresult ⟨1, "2026-01-02T00:00:00+00:00", Nat.le_refl 1, by decide⟩
  refine ⟨store, row, ⟨.findReplay "credential-1" pending.idempotencyKey, none⟩ :: tr, ?_, hholds⟩
  rw [routerApplyResult_requestOf (by decide) hresult]
  exact .call ⟨rfl, rfl⟩ hexec

def acceptedRefresh : List RouterEvent :=
  refreshing
    [⟨.putResult pending.idempotencyKey etag.1, Http.putReply (.ok false)⟩,
      ⟨.writeJournal accepted.encode, true⟩, ⟨.credentialReadable, true⟩,
      ⟨.protectCredential, true⟩, ⟨.fetch etag.1, .notStarted⟩]

theorem exec_acceptedRefresh : ∃ w' o, Exec (SmoothStep library printedLength)
    (Controller.main config .refresh) unreported acceptedRefresh w' (some o) := by
  obtain ⟨store, row, tr, hexchange, hholds⟩ := accepted_exchange
  have hput := delivered (w := unreported) rfl rfl rfl hexchange (finish_stored hholds false)
  let w₁ := answered unreported store (.stored etag.1 row false)
  let w₂ : World := { w₁ with journal := some accepted.encode }
  let result : Result := { ok := false, code := some adapterStartFailed, state := some accepted }
  refine ⟨w₂, result, exec_refreshing rfl (.call (u := w₁) hput ?_)⟩
  show Exec _ (persist (Machine.reportAccepted reported pending.idempotencyKey) >>= _) _ _ _ _
  rw [reportAccepted_pending]
  refine .call (u := w₂) ⟨⟨_, rfl, .refl⟩, rfl⟩ ?_
  refine .call (u := w₂) ⟨⟨_, rfl, .refl⟩, rfl⟩ ?_
  refine .call (u := w₂) ⟨⟨_, rfl, .refl⟩, rfl⟩ ?_
  refine .call (u := w₂) ⟨⟨_, rfl, .refl⟩, trivial⟩ ?_
  exact .done _ _

theorem reports_once {x : Session} {s : State} (hs : x.state = some s)
    (h : Machine.recoverRequired s = false) : ¬x.ReportsAgain := by
  rintro ⟨t, ht, hrequired, _⟩
  obtain rfl := Option.some.inj (hs.symm.trans ht)
  simp [h] at hrequired

theorem config_complete : config.Complete := ⟨by decide, by decide, by decide, by decide⟩

end Sample

/-- A report whose snapshot has been replaced before it was sent stops every
refresh: the server answers it with a mismatch of the ETag. -/
theorem outdated_report_blocks_refresh :
    ¬∀ (py : PythonLibrary) (jsonLength : Value → Nat) (w₀ w w' : World) (log : List Session)
      (config : Config) (tr : List RouterEvent) (o : Result) (history : List Observation),
      w₀.Fresh → JointRuns py jsonLength w₀ log w →
      (loadState (.contents w.journal)).isSome = true → config.Complete →
      Exec (observed (SmoothStep py jsonLength) history) (Controller.main config .refresh)
        (w, []) tr (w', history) (some o) →
      ∃ x ∈ history, x.2.isFetch = true := by
  intro hclaim
  obtain ⟨history, hexec⟩ := Sample.exec_blockedRefresh.exists_observed []
  rw [List.nil_append] at hexec
  obtain ⟨x, hx, hfetch⟩ := hclaim _ _ _ _ _ _ _ _ _ _ ⟨rfl, rfl, rfl⟩
    (Sample.outdated_reachable Sample.library Sample.printedLength)
    (Option.isSome_iff_exists.mpr ⟨_, Sample.reported_loads⟩) Sample.config_complete hexec
  have hevents : history.map Prod.snd = Sample.blockedRefresh := by
    simpa using hexec.observed_events
  have hmem : x.2 ∈ Sample.blockedRefresh := hevents ▸ List.mem_map_of_mem hx
  simp only [Sample.blockedRefresh, Sample.refreshing, List.cons_append, List.nil_append,
    List.mem_cons, List.not_mem_nil, or_false] at hmem
  rcases hmem with h | h | h | h <;> simp [h, RouterEvent.isFetch] at hfetch

/-- A report that names the applied snapshot goes through, and the fetch is made. -/
theorem acceptedRefresh_sendable : ∃ history : List Observation,
    history.map Prod.snd = Sample.acceptedRefresh ∧
      ∀ x ∈ beforeFetch history, x.2.isPut = true → Sendable x.1 := by
  obtain ⟨w', o, hexec⟩ := Sample.exec_acceptedRefresh
  obtain ⟨history, hobserved⟩ := hexec.exists_observed []
  rw [List.nil_append] at hobserved
  have hevents : history.map Prod.snd = Sample.acceptedRefresh := by
    simpa using hobserved.observed_events
  have hfetch : (⟨.fetch Sample.etag.1, .notStarted⟩ : RouterEvent) ∈ history.map Prod.snd := by
    rw [hevents]
    simp [Sample.acceptedRefresh, Sample.refreshing]
  obtain ⟨x, hx, hxfetch⟩ := List.mem_map.mp hfetch
  refine ⟨history, hevents, ?_⟩
  refine (refresh_fetches_iff ⟨rfl, rfl, rfl⟩
    (Sample.unreported_reachable Sample.library Sample.printedLength)
    (Option.isSome_iff_exists.mpr ⟨_, Sample.reported_loads⟩) Sample.config_complete hobserved
    ?_).1.mp ⟨x, hx, by rw [hxfetch]; rfl⟩
  simp only [List.cons_append, List.nil_append, List.forall_mem_cons]
  exact ⟨Sample.reports_once rfl rfl, Sample.reports_once Sample.reported_loads rfl, by simp⟩

end AutoVPN
