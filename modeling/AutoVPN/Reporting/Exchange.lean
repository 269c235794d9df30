import AutoVPN.Router.Http
import AutoVPN.Router.Ledger
import AutoVPN.Server.ApplyEndpoint

/-! One exchange between the router's adapter and the endpoint: what the journal
sends, and which replies the adapter takes for a success. -/

namespace AutoVPN

open Program Server Http

variable {py : PythonLibrary} {jsonLength : Value → Nat}

theorem etagPattern_length {s : String} (h : etagPattern.matches s = true) : s.length = 66 := by
  obtain ⟨b, hb, hrest⟩ := Pattern.matchesList_char_cons.mp h
  obtain ⟨hex, quote, rfl, hhex, hquote⟩ := Pattern.matchesList_cons.mp hrest
  rw [Pattern.matchesList_singleton, Piece.accepts_char] at hquote
  rw [← String.length_toList, hb, hquote]
  simp [(Piece.accepts_exactly.mp hhex).1]

/-- What `preparePut` sends is the report of the state that was written. -/
theorem preparePut_encode {s : State} {key etag : String} {body : Value}
    (h : preparePut jsonLength (some s.encode) key etag = some body) :
    ∃ p, s.pendingReport = some p ∧ key = p.idempotencyKey ∧ etag = p.etag.1 ∧
      body = p.body.encode ∧ idempotencyKeyPattern.matches key = true := by
  have hpending : s.encode.get "pending_report" = orNull PendingReport.encode s.pendingReport := rfl
  simp only [preparePut, Option.bind_some, hpending] at h
  split at h
  · rename_i hc
    simp only [Bool.and_eq_true] at hc
    obtain ⟨⟨⟨⟨⟨⟨⟨_, hpattern⟩, _⟩, hkeys⟩, hkey⟩, hetag⟩, _⟩, _⟩ := hc
    cases hp : s.pendingReport with
    | none =>
      rw [hp] at hkeys
      simp [orNull, Value.hasExactKeys] at hkeys
    | some p =>
      rw [hp] at hkey hetag h
      refine ⟨p, rfl, ?_, ?_, (Option.some.inj h).symm, hpattern⟩
      · exact (Value.looseEq_string.mp hkey).symm
      · exact (Value.looseEq_string.mp hetag).symm
  · simp at h

theorem ReportBody.get_profile (b : ReportBody) :
    b.encode.get "active_profile" = optionString (b.activeProfile.map Subtype.val) := by
  show orNull (fun p : Profile => Value.string p.1) b.activeProfile = _
  cases b.activeProfile <;> rfl

theorem ofString_optionString (o : Option String) :
    (match optionString o with | .string s => some s | _ => none) = o := by
  cases o <;> rfl

theorem validateRouterApplyResult_encode {b : ReportBody} {result : ValidatedRouterApplyResult}
    (h : validateRouterApplyResult py b.encode = .ok result) :
    result.revision = b.revision ∧ result.snapshotSha256 = b.snapshotSha256.1 ∧
      result.outcome = b.outcome.name ∧
      result.activeProfile = b.activeProfile.map Subtype.val := by
  have hrevision : b.encode.get "revision" = .int (.ofNat b.revision) := rfl
  have hsha : b.encode.get "snapshot_sha256" = .string b.snapshotSha256.1 := rfl
  have houtcome : b.encode.get "outcome" = .string b.outcome.name := rfl
  unfold validateRouterApplyResult at h
  simp only [hrevision, hsha, houtcome, b.get_profile] at h
  iterate 9
    replace h := (ite_eq_iff.mp h).resolve_left (by simp)
    replace h := h.2
  cases hd : validateDiagnosticValue py 0 0 (b.encode.get "diagnostics") with
  | error e => simp [hd, Except.bind] at h
  | ok n =>
    rw [hd] at h
    simp only [Except.bind] at h
    replace h := ((ite_eq_iff.mp h).resolve_left (by simp)).2
    obtain rfl := Except.ok.inj h
    exact ⟨rfl, rfl, rfl, ofString_optionString _⟩

/-- The row holds the report. -/
structure Holds (py : PythonLibrary) (row : StoredRouterApplyResult) (p : PendingReport) :
    Prop where
  key : row.idempotencyKey = p.idempotencyKey
  etag : row.snapshotEtag = p.etag.1
  result : ∃ result, validateRouterApplyResult py p.body.encode = .ok result ∧
    row.bodySha256 = result.bodySha256 ∧ row.revision = result.revision ∧
    row.snapshotSha256 = result.snapshotSha256 ∧ row.outcome = result.outcome ∧
    row.activeProfile = result.activeProfile

def requestOf (credentialId : String) (p : PendingReport) : ApplyRequest :=
  ⟨credentialId, p.idempotencyKey, p.etag.1, p.body.encode⟩

/-- What the adapter makes of a reply to the request for a report. -/
def finish (request : ApplyRequest) (reply : Reply) : Except String Bool :=
  finishPut reply.http.1 reply.http.2.1 reply.http.2.2 request.body request.idempotencyKey
    request.ifMatch

theorem optionString_looseEq (o : Option String) :
    (optionString o).looseEq (optionString o) = true := by
  cases o with
  | none => rfl
  | some s => exact Value.looseEq_string.mpr rfl

theorem finish_stored {credentialId : String} {row : StoredRouterApplyResult} {p : PendingReport}
    (h : Holds py row p) (replayed : Bool) :
    finish (requestOf credentialId p) (.stored p.etag.1 row replayed) = .ok replayed := by
  obtain ⟨result, hresult, _, hrevision, hsha, houtcome, hprofile⟩ := h.result
  obtain ⟨hr, hs, ho, hp⟩ := validateRouterApplyResult_encode hresult
  have hkey : ((applyResultResponse row replayed).get "idempotency_key").is
      p.idempotencyKey = true := Value.looseEq_string.mpr h.key
  have hrevision : ((applyResultResponse row replayed).get "revision").looseEq
      (p.body.encode.get "revision") = true :=
    Value.looseEq_int.mpr (congrArg Nat.cast (hrevision.trans hr))
  have hsha : ((applyResultResponse row replayed).get "snapshot_sha256").looseEq
      (p.body.encode.get "snapshot_sha256") = true := Value.looseEq_string.mpr (hsha.trans hs)
  have houtcome : ((applyResultResponse row replayed).get "outcome").looseEq
      (p.body.encode.get "outcome") = true := Value.looseEq_string.mpr (houtcome.trans ho)
  have hprofile : ((applyResultResponse row replayed).get "active_profile").looseEq
      (p.body.encode.get "active_profile") = true := by
    rw [p.body.get_profile, ← hp, ← hprofile]
    exact optionString_looseEq row.activeProfile
  have hid : (applyResultResponse row replayed).get "result_id" = .int row.id := rfl
  have hpos : decide ((1 : Int) ≤ row.id) = true := decide_eq_true (Int.ofNat_le.mpr row.id_pos)
  have haccepted : ((applyResultResponse row replayed).get "accepted_at").isString 1 64 = true :=
    Bool.and_eq_true_iff.mpr
      ⟨decide_eq_true row.createdAt_length.1, decide_eq_true row.createdAt_length.2⟩
  show finishPut 200 (some p.etag.1) (applyResultResponse row replayed) p.body.encode
    p.idempotencyKey p.etag.1 = _
  have hkeys : (applyResultResponse row replayed).hasExactKeys ["schema_version", "result_id",
      "idempotency_key", "revision", "snapshot_sha256", "outcome", "active_profile",
      "accepted_at", "replayed"] = true := rfl
  have hversion : ((applyResultResponse row replayed).get "schema_version").looseEq (.int 1) =
      true := rfl
  have hreplayed : (applyResultResponse row replayed).get "replayed" = .bool replayed := rfl
  simp only [finishPut, ne_eq, not_true_eq_false, if_false, hkeys, hversion, hid, hpos, hkey, hrevision,
    hsha, houtcome, hprofile, haccepted, hreplayed, Bool.and_self, if_true]

theorem finish_refused (request : ApplyRequest) {error : RouterApiError}
    (h : error.statusCode ≠ 200) (b : Bool) : finish request (.refused error) ≠ .ok b := by
  show finishPut error.statusCode none _ _ _ _ ≠ _
  rw [finishPut, if_pos h]
  simp

/-- The applied snapshot is the one that the report names. -/
def Names (store : ResultStore) (p : PendingReport) : Prop :=
  ∃ snapshot plain dual, store.applied = some ⟨p.body.revision, some snapshot⟩ ∧
    snapshot.readable = true ∧ snapshot.payloadSha256 = p.body.snapshotSha256.1 ∧
    snapshot.etags = some (plain, dual) ∧ (p.etag.1 = plain ∨ p.etag.1 = dual)

/-- The server has the report already or is ready for it. -/
def Takes (store : ResultStore) (credentialId : String) (p : PendingReport) : Prop :=
  (store.find credentialId p.idempotencyKey).isSome = true ∨ Names store p

theorem mem_of_find {store : ResultStore} {credentialId key : String}
    {row : StoredRouterApplyResult} (h : store.find credentialId key = some row) :
    row ∈ store.results ∧ row.idempotencyKey = key := by
  have hrow := List.find?_some h
  rw [Bool.and_eq_true, beq_iff_eq, beq_iff_eq] at hrow
  exact ⟨List.mem_of_find?_eq_some h, hrow.2⟩

theorem loadAppliedSnapshot_eq_ok {applied : Option Applied} {revision : Nat}
    {snapshot : SnapshotRow} :
    loadAppliedSnapshot applied = .ok (revision, snapshot) ↔
      applied = some ⟨revision, some snapshot⟩ ∧ snapshot.readable = true := by
  unfold loadAppliedSnapshot
  split
  · split
    · simp_all only [Except.ok.injEq, Prod.mk.injEq, Option.some.injEq, Applied.mk.injEq]
      exact ⟨fun h => ⟨h, h.2 ▸ ‹_›⟩, fun h => h.1⟩
    · simp_all only [reduceCtorEq, Option.some.injEq, Applied.mk.injEq, false_iff]
      rintro ⟨⟨_, rfl⟩, h⟩
      contradiction
  · simp_all

theorem loadAppliedSnapshot_status {applied : Option Applied} {error : RouterApiError}
    (h : loadAppliedSnapshot applied = .error error) : error.statusCode ≠ 200 := by
  unfold loadAppliedSnapshot at h
  split at h
  · split at h
    · simp at h
    · obtain rfl := Except.error.inj h
      decide
  · obtain rfl := Except.error.inj h
    decide

theorem recordRouterApplyResult_results {store store' : ResultStore} {stamp : Stamp}
    {credentialId : String} {p : PendingReport} {result : ValidatedRouterApplyResult}
    {answer : Except RouterApplyConflictError (StoredRouterApplyResult × Bool)}
    (hresult : validateRouterApplyResult py p.body.encode = .ok result)
    (h : (answer, store') = store.recordRouterApplyResult stamp credentialId p.idempotencyKey
      result p.etag.1) :
    ∀ row ∈ store'.results, row ∈ store.results ∨ Holds py row p := by
  unfold ResultStore.recordRouterApplyResult at h
  dsimp only at h
  repeat' split at h
  all_goals obtain ⟨rfl, rfl⟩ := Prod.mk.inj h
  iterate 5 exact fun row hrow => .inl hrow
  intro row hrow
  rcases List.mem_append.mp hrow with hrow | hrow
  · exact .inl hrow
  · obtain rfl := List.mem_singleton.mp hrow
    exact .inr ⟨rfl, rfl, result, hresult, rfl, rfl, rfl, rfl, rfl⟩

theorem recordRouterApplyResult_names {store store' : ResultStore} {stamp : Stamp}
    {credentialId : String} {p : PendingReport} {result : ValidatedRouterApplyResult}
    {answer : Except RouterApplyConflictError (StoredRouterApplyResult × Bool)}
    (hnames : Names store p) (hfind : store.find credentialId p.idempotencyKey = none)
    (hresult : validateRouterApplyResult py p.body.encode = .ok result)
    (h : (answer, store') = store.recordRouterApplyResult stamp credentialId p.idempotencyKey
      result p.etag.1) :
    ∃ row, answer = .ok (row, false) ∧ Holds py row p := by
  obtain ⟨hr, hs, _⟩ := validateRouterApplyResult_encode hresult
  obtain ⟨snapshot, _, _, happlied, _, hsha, _⟩ := hnames
  simp only [ResultStore.recordRouterApplyResult, happlied, Option.map_some, hsha, hs, hr,
    hfind, ne_eq, not_true_eq_false, decide_false, Bool.or_self, Bool.false_eq_true, if_false] at h
  obtain ⟨rfl, _⟩ := Prod.mk.inj h
  exact ⟨_, rfl, rfl, rfl, result, hresult, rfl, by rw [hr], by rw [hs], rfl, rfl⟩

/-- The adapter takes the reply to a report for a success. -/
def Accepted (credentialId : String) (p : PendingReport) (reply : Reply) : Prop :=
  ∃ replayed, finish (requestOf credentialId p) reply = .ok replayed

theorem not_accepted {credentialId : String} {p : PendingReport} {error : RouterApiError}
    (h : error.statusCode ≠ 200) : ¬Accepted credentialId p (.refused error) :=
  fun ⟨b, hb⟩ => finish_refused _ h b hb

theorem refusal_status {request : ApplyRequest} {result : ValidatedRouterApplyResult}
    {revision : Nat} {snapshot : SnapshotRow} {error : RouterApiError}
    (h : refusal request result revision snapshot = some error) : error.statusCode ≠ 200 := by
  unfold refusal at h
  repeat' split at h
  all_goals simp only [Option.some.injEq, reduceCtorEq] at h
  all_goals
    subst h
    simp

theorem refusal_eq_none {store : ResultStore} {credentialId : String} {p : PendingReport}
    {result : ValidatedRouterApplyResult} {revision : Nat} {snapshot : SnapshotRow}
    (hresult : validateRouterApplyResult py p.body.encode = .ok result)
    (hload : loadAppliedSnapshot store.applied = .ok (revision, snapshot)) :
    refusal (requestOf credentialId p) result revision snapshot = none ↔ Names store p := by
  obtain ⟨hr, hs, _⟩ := validateRouterApplyResult_encode hresult
  obtain ⟨happlied, hreadable⟩ := loadAppliedSnapshot_eq_ok.mp hload
  have hnames : Names store p ↔ p.body.revision = revision ∧
      snapshot.payloadSha256 = p.body.snapshotSha256.1 ∧
      ∃ plain dual, snapshot.etags = some (plain, dual) ∧
        (p.etag.1 = plain ∨ p.etag.1 = dual) := by
    constructor
    · rintro ⟨snapshot', plain, dual, happlied', _, hsha, hetags⟩
      rw [happlied, Option.some.injEq, Applied.mk.injEq, Option.some.injEq] at happlied'
      obtain ⟨rfl, rfl⟩ := happlied'
      exact ⟨rfl, hsha, plain, dual, hetags⟩
    · rintro ⟨rfl, hsha, plain, dual, hetags⟩
      exact ⟨snapshot, plain, dual, happlied, hreadable, hsha, hetags⟩
  rw [hnames, refusal, ← hr, ← hs]
  cases snapshot.etags with
  | none => simp
  | some etags =>
    obtain ⟨plain, dual⟩ := etags
    have hshape : (∃ a b, some (plain, dual) = some (a, b) ∧ (p.etag.1 = a ∨ p.etag.1 = b)) ↔
        p.etag.1 = plain ∨ p.etag.1 = dual := by simp
    rw [hshape, eq_comm (a := snapshot.payloadSha256)]
    show (if (decide (p.etag.1 ≠ plain) && decide (p.etag.1 ≠ dual)) = true then _
      else if (decide (result.revision ≠ revision) ||
        decide (result.snapshotSha256 ≠ snapshot.payloadSha256)) = true then _ else none) = none ↔ _
    by_cases hetag : p.etag.1 = plain ∨ p.etag.1 = dual
    · have hpass : (decide (p.etag.1 ≠ plain) && decide (p.etag.1 ≠ dual)) = false := by
        rcases hetag with h | h <;> simp [h]
      rw [hpass, if_neg (by simp), ite_eq_right_iff]
      simp [hetag]
    · have hstop : (decide (p.etag.1 ≠ plain) && decide (p.etag.1 ≠ dual)) = true := by
        simpa [not_or] using hetag
      rw [hstop, if_pos rfl]
      simp [hetag]

theorem sat_recordResult {store : ResultStore} {credentialId : String} {p : PendingReport}
    {result : ValidatedRouterApplyResult} (hfind : store.find credentialId p.idempotencyKey = none)
    (hresult : validateRouterApplyResult py p.body.encode = .ok result) :
    Sat Transacts (fun _ _ => True)
      (fun reply _ => Accepted credentialId p reply ↔ Takes store credentialId p)
      (recordResult (requestOf credentialId p) result) store := by
  have htakes : Takes store credentialId p ↔ Names store p := by
    simp [Takes, hfind]
  refine ⟨trivial, fun applied store' hstep => ?_⟩
  obtain ⟨rfl, rfl⟩ := hstep
  dsimp only [Program.bind]
  cases hload : loadAppliedSnapshot store'.applied with
  | error error =>
    refine iff_of_false (not_accepted (loadAppliedSnapshot_status hload)) ?_
    rw [htakes]
    rintro ⟨snapshot, _, _, happlied, hreadable, _⟩
    rw [loadAppliedSnapshot_eq_ok.mpr ⟨happlied, hreadable⟩] at hload
    simp at hload
  | ok loaded =>
    obtain ⟨revision, snapshot⟩ := loaded
    have hrefusal : refusal (requestOf credentialId p) result revision snapshot = none ↔
        Names store' p := refusal_eq_none hresult hload
    dsimp only
    cases hcase : refusal (requestOf credentialId p) result revision snapshot with
    | some error =>
      refine iff_of_false (not_accepted (refusal_status hcase)) ?_
      rw [htakes, ← hrefusal, hcase]
      simp
    | none =>
      have hnames := hrefusal.mp hcase
      refine ⟨trivial, fun answer store₂ hrecord => ?_⟩
      obtain ⟨stamp, hrecord⟩ := hrecord
      obtain ⟨row, rfl, hrow⟩ := recordRouterApplyResult_names hnames hfind hresult hrecord
      exact iff_of_true ⟨false, finish_stored hrow false⟩ (htakes.mpr hnames)

theorem exec_recordResult {store : ResultStore} (credentialId : String) {p : PendingReport}
    {result : ValidatedRouterApplyResult} (hnames : Names store p)
    (hfind : store.find credentialId p.idempotencyKey = none)
    (hresult : validateRouterApplyResult py p.body.encode = .ok result)
    (stamp : Stamp) :
    ∃ store' row tr, Exec Transacts
      (recordResult (requestOf credentialId p) result) store tr store'
      (some (.stored p.etag.1 row false)) ∧ Holds py row p := by
  obtain ⟨snapshot, _, _, happlied, hreadable, _⟩ := id hnames
  have hload := loadAppliedSnapshot_eq_ok.mpr ⟨happlied, hreadable⟩
  have hpass : refusal (requestOf credentialId p) result p.body.revision snapshot = none :=
    (refusal_eq_none hresult hload).mpr hnames
  obtain ⟨answer, store', hrecord⟩ : ∃ answer store', (answer, store') =
    store.recordRouterApplyResult stamp credentialId p.idempotencyKey result p.etag.1 :=
    ⟨_, _, rfl⟩
  obtain ⟨row, rfl, hholds⟩ := recordRouterApplyResult_names hnames hfind hresult hrecord
  refine ⟨store', row, [⟨.loadApplied, store.applied⟩,
    ⟨.record credentialId p.idempotencyKey result p.etag.1, .ok (row, false)⟩],
    .call ⟨rfl, rfl⟩ ?_, hholds⟩
  dsimp only [Program.bind]
  rw [hload]
  dsimp only
  rw [hpass]
  exact .call ⟨stamp, hrecord⟩ (.done _ _)

theorem routerApplyResult_requestOf {credentialId : String} {p : PendingReport}
    {result : ValidatedRouterApplyResult}
    (hkey : idempotencyKeyPattern.matches p.idempotencyKey = true)
    (hresult : validateRouterApplyResult py p.body.encode = .ok result) :
    routerApplyResult py (requestOf credentialId p) =
      replayOrRecord (requestOf credentialId p) result := by
  have hlength : (requestOf credentialId p).ifMatch.length = 66 := etagPattern_length p.etag.2
  have hempty : (requestOf credentialId p).ifMatch ≠ "" := by
    intro h
    simp [h] at hlength
  have hbody : validateRouterApplyResult py (requestOf credentialId p).body = .ok result := hresult
  have hkey' : idempotencyKeyPattern.matches (requestOf credentialId p).idempotencyKey = true :=
    hkey
  unfold routerApplyResult
  rw [hkey', if_neg (by simp), if_neg (by omega), if_neg hempty, hbody]

theorem sat_routerApplyResult {store : ResultStore} {credentialId : String} {p : PendingReport}
    {result : ValidatedRouterApplyResult}
    (hrows : ∀ row ∈ store.results, row.idempotencyKey = p.idempotencyKey → Holds py row p)
    (hkey : idempotencyKeyPattern.matches p.idempotencyKey = true)
    (hresult : validateRouterApplyResult py p.body.encode = .ok result) :
    Sat Transacts (fun _ _ => True)
      (fun reply _ => Accepted credentialId p reply ↔ Takes store credentialId p)
      (routerApplyResult py (requestOf credentialId p)) store := by
  rw [routerApplyResult_requestOf hkey hresult]
  refine ⟨trivial, fun found store' hstep => ?_⟩
  obtain ⟨rfl, rfl⟩ := hstep
  dsimp only [Program.bind]
  cases hfind : store'.find (requestOf credentialId p).credentialId
      (requestOf credentialId p).idempotencyKey with
  | none => exact sat_recordResult hfind hresult
  | some row =>
    obtain ⟨hmem, hrowkey⟩ := mem_of_find hfind
    have hrow := hrows row hmem hrowkey
    obtain ⟨result', hresult', hsha, _⟩ := hrow.result
    obtain rfl := Except.ok.inj (hresult'.symm.trans hresult)
    dsimp only
    rw [if_neg (by simp [hsha]), if_neg (by simp [hrow.etag, requestOf]), hrow.etag]
    refine iff_of_true ⟨true, finish_stored hrow true⟩ (.inl ?_)
    exact Option.isSome_iff_exists.mpr ⟨row, hfind⟩

end AutoVPN
