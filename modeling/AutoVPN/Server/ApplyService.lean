import AutoVPN.Lib.Pool
import AutoVPN.Server.ApplyEndpoint

/-! The apply-result requests of all routers at once, with publications between
their transactions: one stored result for each credential and key. -/

namespace AutoVPN

open Program Server

/-- The applied snapshot; each credential's client has its own pair of ETags. -/
structure Publication where
  payloadSha256 : String
  readable : Bool
  etags : String → Option (String × String)

structure ApplyStore where
  applied : Option (Nat × Option Publication)
  results : List StoredRouterApplyResult

def Publication.row (credentialId : String) (publication : Publication) : SnapshotRow :=
  ⟨publication.payloadSha256, publication.readable, publication.etags credentialId⟩

/-- What the requests of one credential see. -/
def ApplyStore.view (credentialId : String) (s : ApplyStore) : ResultStore :=
  ⟨s.applied.map fun a => ⟨a.1, a.2.map (Publication.row credentialId)⟩, s.results⟩

/-- A request and the result that was stored under its key when it came in. -/
structure Arrival where
  request : ApplyRequest
  known : Option StoredRouterApplyResult

def Arrival.Transacts (a : Arrival) (c : ResultCall) (s : ApplyStore) (r : c.Answer)
    (s' : ApplyStore) : Prop :=
  ∃ v, Server.Transacts c (s.view a.request.credentialId) r v ∧ s' = { s with results := v.results }

/-- A publication replaces the applied snapshot and leaves the results. -/
def ApplyStore.Publishes (s s' : ApplyStore) : Prop := s'.results = s.results

def Arrival.Admitted (a : Arrival) (s : ApplyStore) : Prop :=
  a.known = (s.view a.request.credentialId).find a.request.credentialId a.request.idempotencyKey

abbrev ApplyPool := Pool ResultCall ResultCall.Answer Reply ApplyStore Arrival

abbrev ApplyPool.Step (py : PythonLibrary) : ApplyPool → ApplyPool → Prop :=
  Pool.Step Arrival.Transacts ApplyStore.Publishes Arrival.Admitted
    fun a => routerApplyResult py a.request

abbrev ApplyPool.Runs (py : PythonLibrary) : ApplyPool → ApplyPool → Prop :=
  Relation.ReflTransGen (ApplyPool.Step py)

/-- The row is the one for this credential and key. -/
def Stores (request : ApplyRequest) (row : StoredRouterApplyResult) : Prop :=
  row.credentialId = request.credentialId ∧ row.idempotencyKey = request.idempotencyKey

/-- The request has the body and the `If-Match` that the row was stored with. -/
def Repeats (py : PythonLibrary) (request : ApplyRequest) (row : StoredRouterApplyResult) : Prop :=
  (∃ result, validateRouterApplyResult py request.body = .ok result ∧
    row.bodySha256 = result.bodySha256) ∧ row.snapshotEtag = request.ifMatch

/-- What the endpoint checks before it looks at the stored results. -/
def WellFormed (key ifMatch : String) : Prop :=
  idempotencyKeyPattern.matches key = true ∧ ifMatch.length ≤ 256 ∧ ifMatch ≠ ""

/-- At most one result for each credential and key, all of them well formed. -/
structure Keyed (s : ApplyStore) : Prop where
  unique : ∀ a ∈ s.results, ∀ b ∈ s.results, a.credentialId = b.credentialId →
    a.idempotencyKey = b.idempotencyKey → a = b
  wellFormed : ∀ a ∈ s.results, WellFormed a.idempotencyKey a.snapshotEtag

/-- Stored results stay as they are. -/
def Keeps (s s' : ApplyStore) : Prop := s.results <+: s'.results

def Guarded (a : Arrival) : ResultCall → ApplyStore → Prop
  | .findReplay credentialId key, _ =>
    credentialId = a.request.credentialId ∧ key = a.request.idempotencyKey
  | .loadApplied, _ => True
  | .record credentialId key _ etag, _ =>
    credentialId = a.request.credentialId ∧ key = a.request.idempotencyKey ∧ WellFormed key etag

/-- A reply that accepts names a stored row that the request repeats, and a
request that repeats a row stored before it is answered with that row. -/
def Answered (py : PythonLibrary) (a : Arrival) (reply : Reply) (s : ApplyStore) : Prop :=
  (∀ etag row replayed, reply = .stored etag row replayed →
    row ∈ s.results ∧ Stores a.request row ∧ Repeats py a.request row) ∧
  ∀ row, a.known = some row → Repeats py a.request row →
    reply = .stored row.snapshotEtag row true

variable {py : PythonLibrary}

theorem Answered.refused {a : Arrival} {error : RouterApiError} {s : ApplyStore}
    (h : ∀ row, a.known = some row → ¬Repeats py a.request row) :
    Answered py a (.refused error) s :=
  ⟨fun _ _ _ hr => by simp at hr, fun row hk hrep => absurd hrep (h row hk)⟩

theorem find_view_some {s : ApplyStore} {c credentialId key : String}
    {row : StoredRouterApplyResult} (h : (s.view c).find credentialId key = some row) :
    row ∈ s.results ∧ row.credentialId = credentialId ∧ row.idempotencyKey = key := by
  have hrow := List.find?_some h
  rw [Bool.and_eq_true, beq_iff_eq, beq_iff_eq] at hrow
  exact ⟨List.mem_of_find?_eq_some h, hrow⟩

theorem find_view_none {s : ApplyStore} {c credentialId key : String}
    (h : (s.view c).find credentialId key = none) {row : StoredRouterApplyResult}
    (hrow : row ∈ s.results) : ¬(row.credentialId = credentialId ∧ row.idempotencyKey = key) := by
  rintro ⟨hc, hk⟩
  have := List.find?_eq_none.mp h row hrow
  simp [hc, hk] at this

theorem Keyed.find {s : ApplyStore} (h : Keyed s) {c : String} {request : ApplyRequest}
    {row : StoredRouterApplyResult} (hrow : row ∈ s.results) (hs : Stores request row) :
    (s.view c).find request.credentialId request.idempotencyKey = some row := by
  cases hfind : (s.view c).find request.credentialId request.idempotencyKey with
  | none => exact absurd hs (find_view_none hfind hrow)
  | some found =>
    obtain ⟨hmem, hc, hk⟩ := find_view_some hfind
    rw [h.unique found hmem row hrow (hc.trans hs.1.symm) (hk.trans hs.2.symm)]

/-- What `record_router_apply_result` does to the store: nothing, or one new row. -/
theorem record_cases {store store' : ResultStore} {stamp : Stamp} {credentialId key etag : String}
    {result : ValidatedRouterApplyResult}
    {answer : Except RouterApplyConflictError (StoredRouterApplyResult × Bool)}
    (h : (answer, store') = store.recordRouterApplyResult stamp credentialId key result etag) :
    ((∃ e, answer = .error e) ∧ store' = store) ∨
    (∃ row, answer = .ok (row, true) ∧ store' = store ∧ store.find credentialId key = some row ∧
      row.bodySha256 = result.bodySha256 ∧ row.snapshotEtag = etag) ∨
    (∃ row, answer = .ok (row, false) ∧ store' = { store with results := store.results ++ [row] } ∧
      store.find credentialId key = none ∧ row.credentialId = credentialId ∧
      row.idempotencyKey = key ∧ row.bodySha256 = result.bodySha256 ∧ row.snapshotEtag = etag ∧
      ∃ snapshot, store.applied = some ⟨row.revision, some snapshot⟩ ∧
        snapshot.payloadSha256 = row.snapshotSha256) := by
  unfold ResultStore.recordRouterApplyResult at h
  cases happlied : store.applied with
  | none =>
    rw [happlied] at h
    obtain ⟨rfl, rfl⟩ := Prod.mk.inj h
    exact .inl ⟨⟨_, rfl⟩, rfl⟩
  | some applied =>
    rw [happlied] at h
    dsimp only at h
    split at h
    · obtain ⟨rfl, rfl⟩ := Prod.mk.inj h
      exact .inl ⟨⟨_, rfl⟩, rfl⟩
    · rename_i hsame
      simp only [Bool.or_eq_true, decide_eq_true_eq, not_or, ne_eq, not_not] at hsame
      obtain ⟨hsha, hrevision⟩ := hsame
      cases hfind : store.find credentialId key with
      | some existing =>
        rw [hfind] at h
        dsimp only at h
        split at h
        · obtain ⟨rfl, rfl⟩ := Prod.mk.inj h
          exact .inl ⟨⟨_, rfl⟩, rfl⟩
        · split at h
          · obtain ⟨rfl, rfl⟩ := Prod.mk.inj h
            exact .inl ⟨⟨_, rfl⟩, rfl⟩
          · rename_i hbody hetag
            obtain ⟨rfl, rfl⟩ := Prod.mk.inj h
            exact .inr (.inl ⟨existing, rfl, rfl, rfl, not_not.mp hbody, not_not.mp hetag⟩)
      | none =>
        rw [hfind] at h
        obtain ⟨rfl, rfl⟩ := Prod.mk.inj h
        obtain ⟨snapshot, hsnapshot, hpayload⟩ := Option.map_eq_some_iff.mp hsha
        refine .inr (.inr ⟨_, rfl, rfl, rfl, rfl, rfl, rfl, rfl, snapshot, ?_, hpayload⟩)
        cases applied
        simp_all

theorem view_applied {s : ApplyStore} {c : String} {revision : Nat} {snapshot : SnapshotRow}
    (h : (s.view c).applied = some ⟨revision, some snapshot⟩) :
    ∃ publication, s.applied = some (revision, some publication) ∧
      publication.payloadSha256 = snapshot.payloadSha256 := by
  obtain ⟨⟨rev, pub⟩, happlied, hrow⟩ := Option.map_eq_some_iff.mp h
  obtain ⟨rfl, hpub⟩ := Applied.mk.injEq .. ▸ hrow
  obtain ⟨publication, rfl, rfl⟩ := Option.map_eq_some_iff.mp hpub
  exact ⟨publication, happlied, rfl⟩

/-- What a transaction of a request does to the stored results: nothing, or one
new row that names the applied snapshot. -/
theorem Arrival.transacts_cases {a : Arrival} {c : ResultCall} {s s' : ApplyStore} {r : c.Answer}
    (h : a.Transacts c s r s') :
    s' = s ∨ ∃ key result etag row publication,
      c = .record row.credentialId key result etag ∧ s' = { s with results := s.results ++ [row] } ∧
      row.idempotencyKey = key ∧ row.snapshotEtag = etag ∧
      (s.view a.request.credentialId).find row.credentialId key = none ∧
      s.applied = some (row.revision, some publication) ∧
      publication.payloadSha256 = row.snapshotSha256 := by
  obtain ⟨v, hv, rfl⟩ := h
  cases c with
  | findReplay credentialId key =>
    obtain ⟨rfl, _⟩ := hv
    exact .inl rfl
  | loadApplied =>
    obtain ⟨rfl, _⟩ := hv
    exact .inl rfl
  | record credentialId key result etag =>
    obtain ⟨stamp, hrecord⟩ := hv
    rcases record_cases hrecord with ⟨_, rfl⟩ | ⟨_, _, rfl, _⟩ |
      ⟨row, _, rfl, hfind, rfl, hkey, _, hetag, snapshot, happlied, hsha⟩
    · exact .inl rfl
    · exact .inl rfl
    · obtain ⟨publication, hpub, hpayload⟩ := view_applied happlied
      exact .inr ⟨key, result, etag, row, publication, rfl, rfl, hkey, hetag, hfind, hpub,
        hpayload.trans hsha⟩

theorem Keyed.insert {s : ApplyStore} {c : String} {row : StoredRouterApplyResult} (h : Keyed s)
    (hfind : (s.view c).find row.credentialId row.idempotencyKey = none)
    (hrow : WellFormed row.idempotencyKey row.snapshotEtag) :
    Keyed { s with results := s.results ++ [row] } := by
  have hnew : ∀ a ∈ s.results, ¬(a.credentialId = row.credentialId ∧
      a.idempotencyKey = row.idempotencyKey) := fun a ha => find_view_none hfind ha
  constructor
  · intro a ha b hb hc hk
    rcases List.mem_append.mp ha with ha' | ha' <;> rcases List.mem_append.mp hb with hb' | hb'
    · exact h.unique a ha' b hb' hc hk
    · obtain rfl := List.mem_singleton.mp hb'
      exact absurd ⟨hc, hk⟩ (hnew a ha')
    · obtain rfl := List.mem_singleton.mp ha'
      exact absurd ⟨hc.symm, hk.symm⟩ (hnew b hb')
    · rw [List.mem_singleton.mp ha', List.mem_singleton.mp hb']
  · intro a ha
    rcases List.mem_append.mp ha with ha | ha
    · exact h.wellFormed a ha
    · obtain rfl := List.mem_singleton.mp ha
      exact hrow

theorem Arrival.transacts_keeps {a : Arrival} {c : ResultCall} {s s' : ApplyStore} {r : c.Answer}
    (hI : Keyed s) (hG : Guarded a c s) (h : a.Transacts c s r s') : Keyed s' ∧ Keeps s s' := by
  rcases a.transacts_cases h with rfl | ⟨key, result, etag, row, publication, rfl, rfl, rfl, rfl,
    hfind, _⟩
  · exact ⟨hI, List.prefix_rfl⟩
  · exact ⟨hI.insert hfind hG.2.2, List.prefix_append _ _⟩

theorem Keeps.mem {s s' : ApplyStore} (h : Keeps s s') {row : StoredRouterApplyResult}
    (hrow : row ∈ s.results) : row ∈ s'.results := h.subset hrow

theorem Keyed.publish {s s' : ApplyStore} (hI : Keyed s) (h : s.Publishes s') :
    Keyed s' ∧ Keeps s s' := by
  have hresults : s'.results = s.results := h
  refine ⟨⟨?_, ?_⟩, ?_⟩
  · rw [hresults]
    exact hI.unique
  · rw [hresults]
    exact hI.wellFormed
  · exact ⟨[], by rw [List.append_nil, hresults]⟩

/-- What a request may rely on: the row known at its arrival is still stored. -/
def Arrival.Remembers (a : Arrival) (s : ApplyStore) : Prop :=
  ∀ row, a.known = some row → row ∈ s.results ∧ Stores a.request row

theorem Arrival.Remembers.keeps {a : Arrival} {s s' : ApplyStore} (h : a.Remembers s)
    (hk : Keeps s s') : a.Remembers s' := fun row hrow => ⟨hk.mem (h row hrow).1, (h row hrow).2⟩

abbrev Arrival.Safe (py : PythonLibrary) (a : Arrival) (p : Endpoint Reply) (s : ApplyStore) :
    Prop :=
  Program.Safe a.Transacts Keyed Keeps (Guarded a) (Answered py a) p s

theorem safe_refused {a : Arrival} {error : RouterApiError} {s : ApplyStore}
    (h : ∀ row, a.known = some row → ¬Repeats py a.request row) :
    a.Safe py (.done (.refused error)) s := fun _ _ _ => Answered.refused h

theorem safe_refuseApplied {a : Arrival} {statusCode : Nat} {code message : String}
    {s : ApplyStore} (h : ∀ row, a.known = some row → ¬Repeats py a.request row) :
    a.Safe py (refuseApplied statusCode code message) s := by
  refine fun u _ _ => ⟨trivial, fun applied s' _ => ?_⟩
  dsimp only [Program.bind]
  cases loadAppliedSnapshot applied with
  | error error => exact safe_refused h
  | ok loaded => exact safe_refused h

theorem conflictReply_eq_refused (error : RouterApplyConflictError) :
    ∃ e, conflictReply error = .refused e := by
  unfold conflictReply
  split
  · exact ⟨_, rfl⟩
  · split
    · exact ⟨_, rfl⟩
    · exact ⟨_, rfl⟩

theorem safe_recordResult {a : Arrival} {result : ValidatedRouterApplyResult} {s : ApplyStore}
    (hresult : validateRouterApplyResult py a.request.body = .ok result)
    (hwf : WellFormed a.request.idempotencyKey a.request.ifMatch)
    (hnew : a.known = none) : a.Safe py (recordResult a.request result) s := by
  have hnone : ∀ row, a.known = some row → ¬Repeats py a.request row := by simp [hnew]
  refine fun u _ _ => ⟨trivial, fun applied s' _ => ?_⟩
  dsimp only [Program.bind]
  cases loadAppliedSnapshot applied with
  | error error => exact safe_refused hnone
  | ok loaded =>
    obtain ⟨revision, snapshot⟩ := loaded
    dsimp only
    cases refusal a.request result revision snapshot with
    | some error => exact safe_refused hnone
    | none =>
      refine fun u₁ _ _ => ⟨⟨rfl, rfl, hwf⟩, fun answer s₁ hrecord => ?_⟩
      obtain ⟨v, ⟨stamp, hv⟩, rfl⟩ := hrecord
      rcases record_cases hv with ⟨⟨e, rfl⟩, _⟩ | ⟨row, rfl, rfl, hfind, hbody, hetag⟩ |
        ⟨row, rfl, rfl, _, hcredential, hkey, hbody, hetag, _⟩
      · obtain ⟨error, herror⟩ := conflictReply_eq_refused e
        show a.Safe py (.done (conflictReply e)) _
        rw [herror]
        exact safe_refused hnone
      · obtain ⟨hmem, hs⟩ := find_view_some hfind
        refine fun u₂ hu₂ _ => ⟨fun etag row' replayed hreply => ?_, by simp [hnew]⟩
        obtain ⟨rfl, rfl, rfl⟩ := Reply.stored.inj hreply
        exact ⟨hu₂.mem hmem, hs, ⟨result, hresult, hbody⟩, hetag⟩
      · refine fun u₂ hu₂ _ => ⟨fun etag row' replayed hreply => ?_, by simp [hnew]⟩
        obtain ⟨rfl, rfl, rfl⟩ := Reply.stored.inj hreply
        have hmem : row ∈ u₁.results ++ [row] := List.mem_append_right _ (List.mem_singleton.mpr rfl)
        exact ⟨hu₂.mem hmem, ⟨hcredential, hkey⟩, ⟨result, hresult, hbody⟩, hetag⟩

theorem safe_replayOrRecord {a : Arrival} {result : ValidatedRouterApplyResult} {s : ApplyStore}
    (hresult : validateRouterApplyResult py a.request.body = .ok result)
    (hwf : WellFormed a.request.idempotencyKey a.request.ifMatch) (hs : a.Remembers s) :
    a.Safe py (replayOrRecord a.request result) s := by
  refine fun u hu hI => ⟨⟨rfl, rfl⟩, fun found s' hfound => ?_⟩
  obtain ⟨v, ⟨rfl, rfl⟩, rfl⟩ := hfound
  have hu := hs.keeps hu
  have hknown : ∀ row, a.known = some row → (u.view a.request.credentialId).find
      a.request.credentialId a.request.idempotencyKey = some row :=
    fun row hrow => hI.find (hu row hrow).1 (hu row hrow).2
  dsimp only [Program.bind]
  cases hfind : (u.view a.request.credentialId).find a.request.credentialId
      a.request.idempotencyKey with
  | none =>
    refine safe_recordResult hresult hwf ?_
    cases hk : a.known with
    | none => rfl
    | some row => simp [hknown row hk] at hfind
  | some row =>
    have hsame : ∀ row', a.known = some row' → row' = row := fun row' hrow' =>
      Option.some.inj ((hknown row' hrow').symm.trans hfind)
    have hbodies : ∀ row', Repeats py a.request row' → row'.bodySha256 = result.bodySha256 := by
      intro row' hrep
      obtain ⟨result', hresult', hbody⟩ := hrep.1
      rw [hbody, Except.ok.inj (hresult'.symm.trans hresult)]
    dsimp only
    by_cases hbody : row.bodySha256 = result.bodySha256
    · by_cases hetag : row.snapshotEtag = a.request.ifMatch
      · rw [if_neg (not_not.mpr hbody), if_neg (not_not.mpr hetag)]
        obtain ⟨hmem, hstores⟩ := find_view_some hfind
        refine fun u₁ hu₁ _ => ⟨fun etag row' replayed hreply => ?_, fun row' hrow' _ => ?_⟩
        · obtain ⟨rfl, rfl, rfl⟩ := Reply.stored.inj hreply
          exact ⟨hu₁.mem hmem, hstores, ⟨result, hresult, hbody⟩, hetag⟩
        · rw [hsame row' hrow']
      · rw [if_neg (not_not.mpr hbody), if_pos hetag]
        exact safe_refuseApplied fun row' hrow' hrep => hetag (hsame row' hrow' ▸ hrep.2)
    · rw [if_pos hbody]
      exact safe_refuseApplied fun row' hrow' hrep => hbody (hsame row' hrow' ▸ hbodies row' hrep)

theorem safe_routerApplyResult {a : Arrival} {s : ApplyStore} (hI : Keyed s)
    (ha : a.Admitted s) : a.Safe py (routerApplyResult py a.request) s := by
  have hs : a.Remembers s := fun row hrow => by
    obtain ⟨hmem, hstores⟩ := find_view_some (ha.symm.trans hrow)
    exact ⟨hmem, hstores⟩
  have hwf : ∀ row, a.known = some row → Repeats py a.request row →
      WellFormed a.request.idempotencyKey a.request.ifMatch := by
    intro row hrow hrep
    have := hI.wellFormed row (hs row hrow).1
    rwa [(hs row hrow).2.2, hrep.2] at this
  unfold routerApplyResult
  by_cases hkey : idempotencyKeyPattern.matches a.request.idempotencyKey = true
  · rw [if_neg (by simp [hkey])]
    by_cases hlength : a.request.ifMatch.length > 256
    · rw [if_pos hlength]
      exact safe_refused fun row hrow hrep => by
        have := (hwf row hrow hrep).2.1
        omega
    · rw [if_neg hlength]
      by_cases hempty : a.request.ifMatch = ""
      · rw [if_pos hempty]
        exact safe_refuseApplied fun row hrow hrep => (hwf row hrow hrep).2.2 hempty
      · rw [if_neg hempty]
        cases hresult : validateRouterApplyResult py a.request.body with
        | error message =>
          exact safe_refused fun row hrow hrep => by
            obtain ⟨result, hok, _⟩ := hrep.1
            simp [hresult] at hok
        | ok result => exact safe_replayOrRecord hresult ⟨hkey, by omega, hempty⟩ hs
  · rw [if_pos (by simpa using hkey)]
    exact safe_refused fun row hrow hrep => hkey (hwf row hrow hrep).1

theorem applyContract (py : PythonLibrary) :
    Pool.Contract Arrival.Transacts ApplyStore.Publishes Arrival.Admitted
      (fun a => routerApplyResult py a.request) Keyed Keeps Guarded (Answered py) where
  refl _ := List.prefix_rfl
  trans _ _ _ := List.IsPrefix.trans
  move := Keyed.publish
  call := fun hI hG h => Arrival.transacts_keeps hI hG h
  start := safe_routerApplyResult

theorem ApplyPool.Step.stores {p p' : ApplyPool} (h : ApplyPool.Step py p p')
    {row : StoredRouterApplyResult} (hnew : row ∈ p'.state.results)
    (hold : row ∉ p.state.results) :
    ∃ publication, p.state.applied = some (row.revision, some publication) ∧
      publication.payloadSha256 = row.snapshotSha256 := by
  cases h with
  | move hm => exact absurd ((show _ = _ from hm) ▸ hnew) hold
  | start => exact absurd hnew hold
  | drop => exact absurd hnew hold
  | call hc =>
    rcases Arrival.transacts_cases hc with rfl | ⟨_, _, _, row', publication, _, rfl, _, _, _, happlied⟩
    · exact absurd hnew hold
    · rcases List.mem_append.mp hnew with hnew | hnew
      · exact absurd hnew hold
      · obtain rfl := List.mem_singleton.mp hnew
        exact ⟨publication, happlied⟩

/-- From a store without results, over every interleaving of requests and
publications: one result for each credential and key, which stays; a request
that repeats a result stored before it is answered with that result; no request
succeeds next to a stored result that it does not repeat; and a result is stored
only while the snapshot that it names is applied. -/
theorem apply_results_idempotent {p₀ p p' : ApplyPool} (hempty : p₀.state.results = [] ∧ p₀.tasks = [])
    (hr : ApplyPool.Runs py p₀ p) (hr' : ApplyPool.Runs py p p') :
    (∀ a ∈ p.state.results, ∀ b ∈ p.state.results, a.credentialId = b.credentialId →
      a.idempotencyKey = b.idempotencyKey → a = b) ∧
    p.state.results <+: p'.state.results ∧
    (∀ a reply, (a, Program.done reply) ∈ p'.tasks →
      (∀ row, a.known = some row → Repeats py a.request row →
        reply = .stored row.snapshotEtag row true) ∧
      ∀ row ∈ p'.state.results, Stores a.request row → ¬Repeats py a.request row →
        ∃ error, reply = .refused error) ∧
    ∀ q, ApplyPool.Step py p' q → ∀ row ∈ q.state.results, row ∉ p'.state.results →
      ∃ publication, p'.state.applied = some (row.revision, some publication) ∧
        publication.payloadSha256 = row.snapshotSha256 := by
  have hstart : Pool.Sound Arrival.Transacts Keyed Keeps Guarded (Answered py) p₀ := by
    refine ⟨⟨?_, ?_⟩, ?_⟩
    · simp [hempty.1]
    · simp [hempty.1]
    · simp [hempty.2]
  obtain ⟨hsound, _⟩ := (applyContract py).runs hstart hr
  obtain ⟨hsound', hkeeps⟩ := (applyContract py).runs hsound hr'
  refine ⟨hsound.1.unique, hkeeps, fun a reply hreply => ?_, fun q hq row hnew hold =>
    hq.stores hnew hold⟩
  obtain ⟨hstored, hknown⟩ := hsound'.result (applyContract py).refl hreply
  refine ⟨hknown, fun row hrow hs hrep => ?_⟩
  cases reply with
  | refused error => exact ⟨error, rfl⟩
  | stored etag row' replayed =>
    obtain ⟨hmem, hs', hrep'⟩ := hstored etag row' replayed rfl
    have := hsound'.1.unique row hrow row' hmem (hs.1.trans hs'.1.symm) (hs.2.trans hs'.2.symm)
    exact absurd (this ▸ hrep') hrep

namespace ApplySample

def library : PythonLibrary where
  lower := fun s => String.ofList (s.toList.map Char.toLower)
  isControl := fun c => c < ' ' || c == Char.ofNat 127
  canonicalJson := fun v =>
    if (v.get "outcome").isNull then "\x7b\x7d"
    else "\x7b\"active_profile\":null,\"capabilities\":\x7b\"amneziawg\":false,\"hysteria2\":false," ++
      "\"policy_routing\":false,\"vless\":false,\"zapret\":false\x7d,\"diagnostics\":\x7b\x7d," ++
      "\"outcome\":\"APPLIED\",\"revision\":7,\"schema_version\":1,\"snapshot_sha256\":\"" ++
      "e3b0c44298fc1c149afbf4c8996fb92427ae41e4649b934ca495991b7852b855\"\x7d"
  sha256 := fun _ => "18f2125e1459e280ad48f4b8dcd4454c731468436e1d77eb8c64b6f415a5d0dc"

def snapshotSha : String := "e3b0c44298fc1c149afbf4c8996fb92427ae41e4649b934ca495991b7852b855"

def body : Value :=
  .object [("schema_version", .int 1), ("revision", .int 7), ("snapshot_sha256", .string snapshotSha),
    ("outcome", .string "APPLIED"), ("active_profile", .null),
    ("capabilities", .object (capabilityNames.map fun name => (name, .bool false))),
    ("diagnostics", .object [])]

def request : ApplyRequest := ⟨"credential-1", "result-1", "\"etag\"", body⟩

def result : ValidatedRouterApplyResult :=
  ⟨7, snapshotSha, "APPLIED", none,
    .object (capabilityNames.map fun name => (name, .bool false)), .object [], library.sha256 ""⟩

def row : StoredRouterApplyResult :=
  ⟨1, "credential-1", "result-1", library.sha256 "", 7, snapshotSha, "\"etag\"", "APPLIED", none,
    "2026-01-01T00:00:00+00:00", by decide, by decide⟩

def publication : Publication := ⟨snapshotSha, true, fun _ => some ("\"etag\"", "\"dual\"")⟩

def before : ApplyStore := ⟨some (7, some publication), []⟩

def after : ApplyStore := ⟨some (7, some publication), [row]⟩

/-- Another snapshot has been published since. -/
def later : ApplyStore := ⟨some (8, none), [row]⟩

def first : Arrival := ⟨request, none⟩

def again : Arrival := ⟨request, some row⟩

theorem validate_body : validateRouterApplyResult library body = .ok result := by rfl

theorem routerApplyResult_request :
    routerApplyResult library request = replayOrRecord request result := by
  have hkey : idempotencyKeyPattern.matches request.idempotencyKey = true := by decide
  have hlength : ¬request.ifMatch.length > 256 := by decide
  have hempty : request.ifMatch ≠ "" := by decide
  have hbody : validateRouterApplyResult library request.body = .ok result := validate_body
  unfold routerApplyResult
  rw [hkey, if_neg (by simp), if_neg hlength, if_neg hempty, hbody]

theorem first_call {a : Arrival} {c : ResultCall} {s s' : ApplyStore} {r : c.Answer}
    {next : c.Answer → Endpoint Reply} {tasks : List (Arrival × Endpoint Reply)}
    (h : a.Transacts c s r s') :
    ApplyPool.Runs library ⟨s, (a, .call c next) :: tasks⟩ ⟨s', (a, next r) :: tasks⟩ := by
  have hcall : ApplyPool.Step library ⟨s, [] ++ (a, .call c next) :: tasks⟩
      ⟨s', [] ++ (a, next r) :: tasks⟩ := .call h
  exact .single hcall

theorem runs_first : ApplyPool.Runs library ⟨before, []⟩
    ⟨after, [(first, .done (.stored "\"etag\"" row false))]⟩ := by
  have hfind : first.Transacts (.findReplay "credential-1" "result-1") before none before :=
    ⟨_, ⟨rfl, rfl⟩, rfl⟩
  have hload : first.Transacts .loadApplied before (before.view "credential-1").applied before :=
    ⟨_, ⟨rfl, rfl⟩, rfl⟩
  have hrecord : first.Transacts (.record "credential-1" "result-1" result request.ifMatch) before
      (.ok (row, false)) after :=
    ⟨⟨_, [row]⟩, ⟨⟨1, "2026-01-01T00:00:00+00:00", by decide, by decide⟩, rfl⟩, rfl⟩
  refine .head (.start (t := first) rfl) ?_
  rw [show routerApplyResult library first.request = _ from routerApplyResult_request]
  refine (first_call hfind).trans ?_
  refine (first_call hload).trans ?_
  exact first_call hrecord

theorem runs_again : ApplyPool.Runs library
    ⟨after, [(first, .done (.stored "\"etag\"" row false))]⟩
    ⟨later, [(again, .done (.stored "\"etag\"" row true)),
      (first, .done (.stored "\"etag\"" row false))]⟩ := by
  have hfind : again.Transacts (.findReplay "credential-1" "result-1") later (some row) later :=
    ⟨_, ⟨rfl, rfl⟩, rfl⟩
  have hlater : ApplyPool.Runs library ⟨after, [(first, .done (.stored "\"etag\"" row false))]⟩
      ⟨later, [(first, .done (.stored "\"etag\"" row false))]⟩ := .single (.move rfl)
  refine hlater.trans ?_
  refine .head (.start (t := again) rfl) ?_
  rw [show routerApplyResult library again.request = _ from routerApplyResult_request]
  exact first_call hfind

end ApplySample

open ApplySample in
theorem repeated_result_replayed :
    Stores again.request row ∧ ∃ reply,
      (again, (Program.done reply : Endpoint Reply)) ∈
        [(again, Program.done (.stored "\"etag\"" row true)),
          (first, Program.done (.stored "\"etag\"" row false))] ∧
      reply = .stored "\"etag\"" row true :=
  ⟨⟨rfl, rfl⟩, _, List.mem_cons_self,
    ((apply_results_idempotent ⟨rfl, rfl⟩ runs_first runs_again).2.2.1 again _
      List.mem_cons_self).1 row rfl ⟨⟨result, validate_body, rfl⟩, rfl⟩⟩

end AutoVPN
