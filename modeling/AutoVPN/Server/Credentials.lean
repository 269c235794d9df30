import AutoVPN.Server.Rows

/-! Router credentials: what a presented token is checked against, and which tokens that accepts
after any history of the server. -/

namespace AutoVPN

open Server Server.Db

namespace Server

def tokenChar : Char → Bool := alphanumericOr ['_', '-']

def credentialIdPattern : Pattern := [.between tokenChar 8 64]

def secretPattern : Pattern := [.between tokenChar 43 128]

def tokenMaxLength : Nat := 256

def knownScopes : List String := ["apply:write", "snapshot:read"]

/-- `f"{ROUTER_TOKEN_PREFIX}{credential_id}.{secret}"`. -/
def tokenOf (credentialId secret : String) : String := "avrt_" ++ credentialId ++ "." ++ secret

/-- The credential id and the secret of a token of the right form. -/
def parseToken (token : String) : Option (String × String) :=
  if tokenMaxLength < token.length then none
  else if token.toList.take 5 ≠ "avrt_".toList then none
  else
    let rest := token.toList.drop 5
    match rest.dropWhile tokenChar with
    | '.' :: secret =>
      if credentialIdPattern.matchesList (rest.takeWhile tokenChar) &&
          secretPattern.matchesList secret then
        some (String.ofList (rest.takeWhile tokenChar), String.ofList secret)
      else none
    | _ => none

structure AuthenticatedCredential where
  credentialId : String
  routerId : String
  clientId : Nat
  scopes : List String

/-- The credential with its router and the client of that. -/
def Db.credentialRow (db : Db) (credentialId : String) :
    Option (CredentialRow × RouterRow × ClientRow) := do
  let credential ← db.credentials.find? fun row => row.credentialId == credentialId
  let router ← db.findRouter credential.routerId
  let client ← db.clients.find? fun row => row.client.id == router.clientId
  return (credential, router, client)

/-- `authenticate_router_credential`, with the code of its failure; `expired` tells whether an
expiry is over or unreadable. -/
def Db.authenticate (env : Environment) (expired : String → Bool) (db : Db)
    (token requiredScope : String) : Except String AuthenticatedCredential :=
  if !knownScopes.contains requiredScope then .error "Unknown required router API scope"
  else
    let presented := (parseToken token).getD ("", "")
    let row := if presented.1 = "" then none else db.credentialRow presented.1
    match row with
    | none => .error "invalid_token"
    | some (credential, router, client) =>
      if env.sha256Text presented.2 ≠ credential.secretDigest then .error "invalid_token"
      else if credential.expiresAt.any expired then .error "invalid_token"
      else if !credential.enabled || credential.revokedAt.isSome then .error "credential_forbidden"
      else if !client.client.enabled || client.deletedAt.isSome then .error "client_forbidden"
      else if !router.enabled then .error "router_forbidden"
      else if !credential.scopes.contains requiredScope then .error "insufficient_scope"
      else .ok ⟨presented.1, credential.routerId, router.clientId, credential.scopes⟩

end Server

/-! Tokens. -/

theorem accepts_credentialId {cs : List Char} :
    credentialIdPattern.matchesList cs = true ↔
      (8 ≤ cs.length ∧ cs.length ≤ 64) ∧ ∀ c ∈ cs, tokenChar c = true := by
  rw [credentialIdPattern, Pattern.matchesList_singleton, Piece.accepts_between]

theorem accepts_secret {cs : List Char} :
    secretPattern.matchesList cs = true ↔
      (43 ≤ cs.length ∧ cs.length ≤ 128) ∧ ∀ c ∈ cs, tokenChar c = true := by
  rw [secretPattern, Pattern.matchesList_singleton, Piece.accepts_between]

theorem tokenOf_toList (credentialId secret : String) : (tokenOf credentialId secret).toList =
    "avrt_".toList ++ (credentialId.toList ++ '.' :: secret.toList) := by
  simp [tokenOf]

theorem parseToken_eq_some {token credentialId secret : String} :
    parseToken token = some (credentialId, secret) ↔
      token = tokenOf credentialId secret ∧ credentialIdPattern.matches credentialId = true ∧
        secretPattern.matches secret = true := by
  constructor
  · intro h
    unfold parseToken at h
    split at h
    · cases h
    split at h
    · cases h
    rename_i hstart
    dsimp only at h
    split at h
    · rename_i rest hrest
      split at h
      · rename_i hmatch
        rw [Bool.and_eq_true] at hmatch
        obtain ⟨rfl, rfl⟩ := Prod.mk.inj (Option.some.inj h)
        refine ⟨?_, by simpa [Pattern.matches] using hmatch.1,
          by simpa [Pattern.matches] using hmatch.2⟩
        have hsplit : token.toList = "avrt_".toList ++ token.toList.drop 5 := by
          rw [← not_not.mp hstart, List.take_append_drop]
        have hparts : token.toList.drop 5 =
            (String.ofList (List.takeWhile tokenChar (token.toList.drop 5))).toList ++
              '.' :: (String.ofList rest).toList := by
          rw [String.toList_ofList, String.toList_ofList, ← hrest, List.takeWhile_append_dropWhile]
        rw [← String.toList_inj, tokenOf_toList, ← hparts]
        exact hsplit
      · cases h
    · cases h
  · rintro ⟨rfl, hid, hsecret⟩
    have hid' := accepts_credentialId.mp hid
    have hsecret' := accepts_secret.mp hsecret
    have hdot : ¬tokenChar '.' = true := by decide
    have hdrop : (tokenOf credentialId secret).toList.drop 5 =
        credentialId.toList ++ '.' :: secret.toList := by
      rw [tokenOf_toList]
      rfl
    have htake : (tokenOf credentialId secret).toList.take 5 = "avrt_".toList := by
      rw [tokenOf_toList]
      rfl
    have hlength : ¬tokenMaxLength < (tokenOf credentialId secret).length := by
      have hlen : (tokenOf credentialId secret).length =
          5 + (credentialId.toList.length + (secret.toList.length + 1)) := by
        rw [← String.length_toList, tokenOf_toList, List.length_append, List.length_append,
          List.length_cons]
        rfl
      rw [hlen, tokenMaxLength]
      omega
    unfold parseToken
    rw [if_neg hlength, if_neg (not_not.mpr htake), hdrop]
    dsimp only
    rw [List.takeWhile_append_of_pos hid'.2, List.dropWhile_append_of_pos hid'.2,
      List.takeWhile_cons_of_neg hdot, List.dropWhile_cons_of_neg hdot, List.append_nil]
    have hboth : (credentialIdPattern.matchesList credentialId.toList &&
        secretPattern.matchesList secret.toList) = true := by
      rw [Bool.and_eq_true]
      exact ⟨hid, hsecret⟩
    simp only [hboth, String.ofList_toList, if_true]

/-! Histories. -/

/-- What happened to the credentials. -/
inductive CredentialEvent
  | issued (c : NewCredential) (secret : String)
  | rotated (credentialId secret : String)
  | revoked (credentialId : String)

/-- Where a credential stands: how it was issued, the secret that it was last given, and whether it
has been revoked since it was issued. -/
structure Standing where
  issued : NewCredential
  secret : String
  revoked : Bool

/-- The standing of a credential after the events, the latest of which comes first. -/
def standing (credentialId : String) : List CredentialEvent → Option Standing
  | [] => none
  | .issued c secret :: log =>
    if c.credentialId = credentialId then some ⟨c, secret, false⟩ else standing credentialId log
  | .rotated id secret :: log =>
    if id = credentialId then
      (standing credentialId log).map fun s => { s with secret := secret }
    else standing credentialId log
  | .revoked id :: log =>
    if id = credentialId then (standing credentialId log).map fun s => { s with revoked := true }
    else standing credentialId log

def CredentialEvent.secret : CredentialEvent → Option String
  | .issued _ secret => some secret
  | .rotated _ secret => some secret
  | .revoked _ => none

section

variable {env : Environment} {W : Writes} {db db' : Db} {log : List CredentialEvent}

theorem updateCredential_ids (db : Db) (id : String) {f : CredentialRow → CredentialRow}
    (hf : ∀ row, (f row).credentialId = row.credentialId) :
    (db.updateCredential id f).credentials.map (·.credentialId) =
      db.credentials.map (·.credentialId) := by
  unfold updateCredential
  rw [List.map_map]
  refine List.map_congr_left fun row _ => ?_
  simp only [Function.comp_apply]
  split
  · exact hf row
  · rfl

theorem ensurePeer_credentials {routerId timestamp : String} {m : PeerMaterial}
    (h : db.ensureRouterAmneziaPeer env routerId m timestamp = .ok db') :
    db'.credentials = db.credentials := by
  obtain ⟨created, hc, h⟩ := except_bind_eq_ok.1 h
  obtain rfl := Except.ok.inj h
  rcases createRouterAmneziaPeer_ok hc with rfl | ⟨peer, rfl, -, -, -⟩
  · rfl
  · rfl

theorem insertRouter_credentials {routerId label timestamp : String} {clientId : Nat}
    {m : PeerMaterial} (h : db.insertRouter env routerId label clientId m timestamp = .ok db') :
    db'.credentials = db.credentials := by
  unfold insertRouter at h
  split at h
  · cases h
  · split at h
    · cases h
    · split at h
      · cases h
      · have hsame := ensurePeer_credentials h
        exact hsame

theorem assignRouter_credentials {c : NewCredential} {m : PeerMaterial}
    {timestamp assigned : String}
    (h : db.assignRouter env c m timestamp = .ok (assigned, db')) :
    db'.credentials = db.credentials := by
  unfold assignRouter at h
  split at h
  · obtain ⟨inserted, hi, he⟩ := except_map_eq_ok.1 h
    obtain ⟨-, rfl⟩ := Prod.mk.inj he
    exact insertRouter_credentials hi
  · split at h
    · cases h
    · split at h
      · cases h
      · obtain ⟨ensured, hi, he⟩ := except_map_eq_ok.1 h
        obtain ⟨-, rfl⟩ := Prod.mk.inj he
        exact ensurePeer_credentials hi

theorem issueCredential_ok {c : NewCredential} {m : PeerMaterial} {timestamp : String}
    (h : db.issueRouterCredential env c m timestamp = .ok db') :
    ∃ assigned, (∀ row ∈ db.credentials, row.credentialId ≠ c.credentialId) ∧
      db'.credentials = db.credentials ++ [⟨c.credentialId, assigned, c.clientId, c.label,
        c.secretDigest, c.scopes, true, c.expiresAt, none⟩] := by
  obtain ⟨⟨assigned, db₁⟩, ha, h⟩ := except_bind_eq_ok.1 h
  have hsame := assignRouter_credentials ha
  dsimp only at h
  split at h
  · cases h
  · rename_i hnew
    cases h
    refine ⟨assigned, fun row hrow heq => hnew ?_, by rw [hsame]⟩
    rw [hsame]
    exact List.any_eq_true.mpr ⟨row, hrow, by simpa using heq⟩

theorem rotateCredential_ok {id digest : String} {expired : String → Bool}
    (h : db.rotateRouterCredential id digest expired = .ok db') :
    db' = db.updateCredential id fun row => { row with secretDigest := digest } := by
  unfold rotateRouterCredential at h
  split at h
  · cases h
  · split at h
    · cases h
    · split at h
      · cases h
      · exact (Except.ok.inj h).symm

theorem revokeCredential_ok {id timestamp : String}
    (h : db.revokeRouterCredential id timestamp = .ok db') :
    db' = db.updateCredential id fun row =>
      { row with enabled := false, revokedAt := some (row.revokedAt.getD timestamp) } := by
  unfold revokeRouterCredential at h
  split at h
  · cases h
  · exact (Except.ok.inj h).symm

theorem cascade_credentials (db : Db) : db.cascade.credentials.Sublist db.credentials :=
  List.filter_sublist

theorem purge_credentials (db : Db) :
    db.purgeAppliedDeletedClients.credentials.Sublist db.credentials := by
  unfold purgeAppliedDeletedClients
  split
  · exact List.Sublist.refl _
  · exact cascade_credentials _

theorem OperationWrite.credentials (h : OperationWrite db db') :
    db'.credentials = db.credentials := by
  rw [h.rest]

theorem SnapshotMove.credentials (h : SnapshotMove env db db') :
    db'.credentials.Sublist db.credentials := by
  cases h with
  | operations hw => exact OperationWrite.credentials hw ▸ List.Sublist.refl _
  | note operationId name value => exact List.Sublist.refl _
  | prepare hc hn => exact List.Sublist.refl _
  | editSnapshot revision hf => exact List.Sublist.refl _
  | @publish _ operationId p hp =>
    obtain ⟨row, snapshot, bound, -, -, -, -, -, rfl⟩ := publishIpChange_ok hp
    have hstored : (db.publishedStore env bound db.desiredRevision p).credentials =
        db.credentials := by
      rw [publishedStore_eq]
      rfl
    exact hstored ▸ purge_credentials (db.publishedStore env bound db.desiredRevision p)
  | completeInstall hp =>
    obtain ⟨revision, snapshot, hs, hw⟩ := completeInstallOperation_ok hp
    rw [OperationWrite.credentials hw]
    exact purge_credentials (db.completedStore revision)

theorem SnapshotStep.credentials (h : SnapshotStep env db db') :
    db'.credentials.Sublist db.credentials := by
  have hmoves := h.moves
  clear h
  induction hmoves with
  | refl => exact List.Sublist.refl _
  | tail _ hm ih => exact (SnapshotMove.credentials hm).trans ih

theorem written_credentials (db : Db) (values : List (String × String)) (mark : Bool)
    (timestamp : String) : (db.written values mark timestamp).credentials = db.credentials := by
  rw [written_eq]

theorem sublist_of_eq {α : Type} {a b : List α} (h : a = b) : a.Sublist b := h ▸ List.Sublist.refl a

theorem ConfigStep.credentials (h : ConfigStep env W db db') :
    db'.credentials.Sublist db.credentials := by
  cases h with
  | setSetting hw =>
    rw [written_setSetting]
    exact sublist_of_eq (written_credentials db _ _ _)
  | setSettings hw h =>
    rw [written_setSettings h]
    exact sublist_of_eq (written_credentials db _ _ _)
  | createClient h =>
    obtain ⟨address, ha, h⟩ := except_bind_eq_ok.1 h
    split at h
    · cases h
    · cases h
      exact List.Sublist.refl _
  | setClientEnabled clientId enabled timestamp =>
    refine sublist_of_eq ?_
    unfold Db.setClientEnabled
    split
    · rfl
    · split <;> rfl
  | updateClientName clientId name timestamp =>
    refine sublist_of_eq ?_
    unfold Db.updateClientName
    split
    · rfl
    · split <;> rfl
  | deleteClient clientId timestamp =>
    refine sublist_of_eq ?_
    unfold Db.deleteClient
    split <;> rfl
  | purge => exact purge_credentials db
  | createRouter h => exact sublist_of_eq (insertRouter_credentials h)
  | setRouterEnabled h =>
    unfold Db.setRouterEnabled at h
    split at h
    · cases h
    · split at h
      · cases h
        exact List.Sublist.refl _
      · cases h
        exact List.Sublist.refl _
  | updateRouterLabel h =>
    unfold Db.updateRouterLabel at h
    split at h
    · cases h
    · cases h
      exact List.Sublist.refl _
  | deleteRouter h =>
    unfold Db.deleteRouter at h
    split at h
    · cases h
    · cases h
      exact cascade_credentials _
  | ensurePeer h => exact sublist_of_eq (ensurePeer_credentials h)
  | startUp h =>
    obtain ⟨-, hrest⟩ := initDb_rest h
    exact sublist_of_eq (by rw [hrest])
  | reset h =>
    obtain ⟨-, rfl⟩ := resetServerAndAezaState_ok h
    exact sublist_of_eq (by rw [clearServerAndAezaState_eq])

/-- The database after transactions by anybody and in any order, from one without credentials. New ids and
secrets are those that the library generates, and scopes are checked; the database gets digests. -/
inductive CredentialHistory (env : Environment) (W : Writes) : List CredentialEvent → Db → Prop
  | start {db : Db} (ht : Tidy db) (hc : db.credentials = []) : CredentialHistory env W [] db
  | issue {log : List CredentialEvent} {db db' : Db} {c : NewCredential} {secret : String}
      {m : PeerMaterial} {timestamp : String} (past : CredentialHistory env W log db)
      (hid : credentialIdPattern.matches c.credentialId = true)
      (hsecret : secretPattern.matches secret = true)
      (hdigest : c.secretDigest = env.sha256Text secret)
      (hscopes : ∀ scope ∈ c.scopes, scope ∈ knownScopes)
      (h : db.issueRouterCredential env c m timestamp = .ok db') :
      CredentialHistory env W (.issued c secret :: log) db'
  | rotate {log : List CredentialEvent} {db db' : Db} {credentialId secret : String}
      {expired : String → Bool} (past : CredentialHistory env W log db)
      (hsecret : secretPattern.matches secret = true)
      (h : db.rotateRouterCredential credentialId (env.sha256Text secret) expired = .ok db') :
      CredentialHistory env W (.rotated credentialId secret :: log) db'
  | revoke {log : List CredentialEvent} {db db' : Db} {credentialId timestamp : String}
      (past : CredentialHistory env W log db)
      (h : db.revokeRouterCredential credentialId timestamp = .ok db') :
      CredentialHistory env W (.revoked credentialId :: log) db'
  | config {log : List CredentialEvent} {db db' : Db} (past : CredentialHistory env W log db)
      (h : ConfigStep env W db db') : CredentialHistory env W log db'
  | snapshot {log : List CredentialEvent} {db db' : Db} (past : CredentialHistory env W log db)
      (h : SnapshotStep env db db') : CredentialHistory env W log db'

/-- A row is as its standing says. -/
structure Agrees (env : Environment) (log : List CredentialEvent) (row : CredentialRow)
    (s : Standing) : Prop where
  id : credentialIdPattern.matches row.credentialId = true
  secret : secretPattern.matches s.secret = true
  digest : row.secretDigest = env.sha256Text s.secret
  used : ∃ event ∈ log, event.secret = some s.secret
  scopes : row.scopes = s.issued.scopes
  known : ∀ scope ∈ row.scopes, scope ∈ knownScopes
  expiresAt : row.expiresAt = s.issued.expiresAt
  barred : (!row.enabled || row.revokedAt.isSome) = s.revoked

structure Tracked (env : Environment) (log : List CredentialEvent) (db : Db) : Prop where
  tidy : Tidy db
  ids : (db.credentials.map (·.credentialId)).Nodup
  stands : ∀ row ∈ db.credentials, ∃ s, standing row.credentialId log = some s ∧
    Agrees env log row s

theorem Agrees.mono {row : CredentialRow} {s : Standing} {event : CredentialEvent}
    (h : Agrees env log row s) : Agrees env (event :: log) row s := by
  obtain ⟨past, hpast, hsecret⟩ := h.used
  exact ⟨h.id, h.secret, h.digest, ⟨past, List.mem_cons_of_mem _ hpast, hsecret⟩, h.scopes,
    h.known, h.expiresAt, h.barred⟩

theorem StoreStep.tidy (ht : Tidy db) (h : StoreStep env W db db') : Tidy db' :=
  StoreMoves.tidy ht h.moves

theorem Tracked.issue {c : NewCredential} {secret : String} {m : PeerMaterial} {timestamp : String}
    (ht : Tracked env log db) (hid : credentialIdPattern.matches c.credentialId = true)
    (hsecret : secretPattern.matches secret = true) (hdigest : c.secretDigest = env.sha256Text secret)
    (hscopes : ∀ scope ∈ c.scopes, scope ∈ knownScopes)
    (h : db.issueRouterCredential env c m timestamp = .ok db') :
    Tracked env (.issued c secret :: log) db' := by
  have htidy := @StoreStep.tidy env (fun _ _ _ => True) _ _ ht.tidy (.credential (.issue h))
  obtain ⟨assigned, hnew, heq⟩ := issueCredential_ok h
  refine ⟨htidy, ?_, fun row hrow => ?_⟩
  · rw [heq, List.map_append, List.nodup_append]
    refine ⟨ht.ids, List.nodup_singleton _, fun id hmem other hother => ?_⟩
    obtain ⟨row, hrow, rfl⟩ := List.mem_map.mp hmem
    rw [List.mem_singleton.mp hother]
    exact hnew row hrow
  · rw [heq, List.mem_append, List.mem_singleton] at hrow
    rcases hrow with hrow | rfl
    · obtain ⟨s, hs, hagrees⟩ := ht.stands row hrow
      have hne : ¬c.credentialId = row.credentialId := fun he => hnew row hrow he.symm
      exact ⟨s, by rw [standing, if_neg hne, hs], hagrees.mono⟩
    · refine ⟨⟨c, secret, false⟩, by rw [standing, if_pos rfl], ?_⟩
      exact ⟨hid, hsecret, hdigest, ⟨_, List.mem_cons_self, rfl⟩, rfl, hscopes, rfl, rfl⟩

theorem mem_updateCredential {id : String} {f : CredentialRow → CredentialRow} {row : CredentialRow}
    (h : row ∈ (db.updateCredential id f).credentials) : ∃ past ∈ db.credentials,
      past.credentialId = id ∧ row = f past ∨ past.credentialId ≠ id ∧ row = past := by
  obtain ⟨past, hpast, rfl⟩ := List.mem_map.mp h
  by_cases he : past.credentialId = id
  · exact ⟨past, hpast, .inl ⟨he, if_pos (by simpa using he)⟩⟩
  · exact ⟨past, hpast, .inr ⟨he, if_neg (by simpa using he)⟩⟩

theorem Tracked.rotate {id secret : String} {expired : String → Bool} (ht : Tracked env log db)
    (hsecret : secretPattern.matches secret = true)
    (h : db.rotateRouterCredential id (env.sha256Text secret) expired = .ok db') :
    Tracked env (.rotated id secret :: log) db' := by
  have htidy := @StoreStep.tidy env (fun _ _ _ => True) _ _ ht.tidy (.credential (.rotate h))
  rw [rotateCredential_ok h] at htidy ⊢
  refine ⟨htidy, ?_, fun row hrow => ?_⟩
  · rw [updateCredential_ids]
    · exact ht.ids
    · exact fun _ => rfl
  · obtain ⟨past, hpast, ⟨he, rfl⟩ | ⟨hne, rfl⟩⟩ := mem_updateCredential hrow
    · obtain ⟨s, hs, hagrees⟩ := ht.stands past hpast
      refine ⟨{ s with secret := secret }, ?_, ?_⟩
      · rw [standing, if_pos he.symm, hs]
        rfl
      · exact ⟨hagrees.id, hsecret, rfl, ⟨_, List.mem_cons_self, rfl⟩, hagrees.scopes,
          hagrees.known, hagrees.expiresAt, hagrees.barred⟩
    · obtain ⟨s, hs, hagrees⟩ := ht.stands row hpast
      exact ⟨s, by rw [standing, if_neg (Ne.symm hne), hs], hagrees.mono⟩

theorem Tracked.revoke {id timestamp : String} (ht : Tracked env log db)
    (h : db.revokeRouterCredential id timestamp = .ok db') :
    Tracked env (.revoked id :: log) db' := by
  have htidy := @StoreStep.tidy env (fun _ _ _ => True) _ _ ht.tidy (.credential (.revoke h))
  rw [revokeCredential_ok h] at htidy ⊢
  refine ⟨htidy, ?_, fun row hrow => ?_⟩
  · rw [updateCredential_ids]
    · exact ht.ids
    · exact fun _ => rfl
  · obtain ⟨past, hpast, ⟨he, rfl⟩ | ⟨hne, rfl⟩⟩ := mem_updateCredential hrow
    · obtain ⟨s, hs, hagrees⟩ := ht.stands past hpast
      refine ⟨{ s with revoked := true }, ?_, ?_⟩
      · rw [standing, if_pos he.symm, hs]
        rfl
      · exact ⟨hagrees.id, hagrees.secret, hagrees.digest, hagrees.mono.used, hagrees.scopes,
          hagrees.known, hagrees.expiresAt, rfl⟩
    · obtain ⟨s, hs, hagrees⟩ := ht.stands row hpast
      exact ⟨s, by rw [standing, if_neg (Ne.symm hne), hs], hagrees.mono⟩

theorem Tracked.keep (ht : Tracked env log db) (h : StoreStep env W db db')
    (hkeep : db'.credentials.Sublist db.credentials) : Tracked env log db' :=
  ⟨StoreStep.tidy ht.tidy h, ht.ids.sublist (hkeep.map _), fun row hrow => ht.stands row (hkeep.subset hrow)⟩

theorem CredentialHistory.tracked (h : CredentialHistory env W log db) : Tracked env log db := by
  induction h with
  | start ht hc =>
    refine ⟨ht, by rw [hc]; exact List.nodup_nil, fun row hrow => ?_⟩
    rw [hc] at hrow
    cases hrow
  | issue past hid hsecret hdigest hscopes h ih => exact ih.issue hid hsecret hdigest hscopes h
  | rotate past hsecret h ih => exact ih.rotate hsecret h
  | revoke past h ih => exact ih.revoke h
  | config past h ih => exact ih.keep (.config h) (ConfigStep.credentials h)
  | snapshot past h ih => exact ih.keep (W := W) (.snapshot h) (SnapshotStep.credentials h)

/-! Acceptance. -/

theorem find?_key {α κ : Type} [DecidableEq κ] {f : α → κ} {l : List α}
    (h : (l.map f).Nodup) {k : κ} {x : α} :
    (l.find? fun y => f y == k) = some x ↔ x ∈ l ∧ f x = k := by
  constructor
  · intro hx
    exact ⟨List.mem_of_find?_eq_some hx, by simpa using List.find?_some hx⟩
  · rintro ⟨hx, rfl⟩
    exact find?_key_eq_some h hx

theorem credentialRow_eq_some (ht : Tracked env log db) {id : String} {row : CredentialRow}
    {router : RouterRow} {client : ClientRow} :
    db.credentialRow id = some (row, router, client) ↔
      (row ∈ db.credentials ∧ row.credentialId = id) ∧
      (router ∈ db.routers ∧ router.routerId = row.routerId) ∧
      client ∈ db.clients ∧ client.client.id = router.clientId := by
  unfold credentialRow findRouter
  simp only [Option.bind_eq_bind, Option.bind_eq_some_iff, find?_key ht.ids,
    find?_key ht.tidy.routerIds, find?_key (f := fun row : ClientRow => row.client.id)
      ht.tidy.clientIds]
  constructor
  · rintro ⟨row', hrow, router', hrouter, client', hclient, heq⟩
    cases heq
    exact ⟨hrow, hrouter, hclient⟩
  · rintro ⟨hrow, hrouter, hclient⟩
    exact ⟨row, hrow, router, hrouter, client, hclient, rfl⟩

/-- The checks of a row and of its router and client. -/
structure CredentialPasses (env : Environment) (expired : String → Bool) (secret scope : String)
    (row : CredentialRow) (router : RouterRow) (client : ClientRow) : Prop where
  digest : env.sha256Text secret = row.secretDigest
  expiry : row.expiresAt.any expired = false
  credential : (!row.enabled || row.revokedAt.isSome) = false
  client : (!client.client.enabled || client.deletedAt.isSome) = false
  router : router.enabled = true
  scope : row.scopes.contains scope = true

theorem credentialId_ne_empty {id : String} (h : credentialIdPattern.matches id = true) :
    id ≠ "" := by
  rintro rfl
  exact absurd h (by decide)

theorem authenticate_ok {expired : String → Bool} {token scope : String}
    {a : AuthenticatedCredential} : db.authenticate env expired token scope = .ok a ↔
      knownScopes.contains scope = true ∧ ∃ secret row router client,
        parseToken token = some (a.credentialId, secret) ∧
        db.credentialRow a.credentialId = some (row, router, client) ∧
        CredentialPasses env expired secret scope row router client ∧
        a = ⟨a.credentialId, row.routerId, router.clientId, row.scopes⟩ := by
  unfold authenticate
  constructor
  · intro h
    split at h
    · cases h
    rename_i hknown
    refine ⟨by simpa using hknown, ?_⟩
    dsimp only at h
    cases hp : parseToken token with
    | none => simp [hp] at h
    | some parsed =>
      obtain ⟨id, secret⟩ := parsed
      have hid := credentialId_ne_empty (parseToken_eq_some.mp hp).2.1
      rw [hp, Option.getD_some, if_neg hid] at h
      cases hrow : db.credentialRow id with
      | none => simp [hrow] at h
      | some found =>
        obtain ⟨row, router, client⟩ := found
        rw [hrow] at h
        dsimp only at h
        split at h
        · cases h
        split at h
        · cases h
        split at h
        · cases h
        split at h
        · cases h
        split at h
        · cases h
        split at h
        · cases h
        rename_i hdigest hexpiry hcredential hclient hrouter hscope
        obtain rfl := Except.ok.inj h
        exact ⟨secret, row, router, client, rfl, hrow, ⟨not_not.mp hdigest, by simpa using hexpiry,
          by simpa using hcredential, by simpa using hclient, by simpa using hrouter,
          by simpa using hscope⟩, rfl⟩
  · rintro ⟨hknown, secret, row, router, client, hp, hrow, hpass, ha⟩
    have hid := credentialId_ne_empty (parseToken_eq_some.mp hp).2.1
    simp only [hknown, hp, hrow, hpass.digest, hpass.expiry, hpass.credential, hpass.client,
      hpass.router, hpass.scope, Option.getD_some, if_neg hid, Bool.not_true, ne_eq,
      not_true_eq_false, Bool.false_eq_true, if_false]
    exact congrArg Except.ok ha.symm

/-- The secrets that credentials were given. -/
def secretsOf (log : List CredentialEvent) : List String := log.filterMap CredentialEvent.secret

/-- Whether a credential may be used for a scope. -/
structure Usable (expired : String → Bool) (scope : String) (db : Db) (row : CredentialRow)
    (s : Standing) : Prop where
  revoked : s.revoked = false
  expiry : s.issued.expiresAt.any expired = false
  scope : scope ∈ s.issued.scopes
  router : ∃ router ∈ db.routers, router.routerId = row.routerId ∧ router.enabled = true ∧
    ∃ client ∈ db.clients, client.client.id = router.clientId ∧ client.client.enabled = true ∧
      client.deletedAt = none

theorem Tracked.accepts_iff {expired : String → Bool} {token scope : String}
    (ht : Tracked env log db)
    (hinj : Set.InjOn env.sha256Text
      {secret | secret ∈ secretsOf log ∨ ∃ id, parseToken token = some (id, secret)}) :
    (∃ a, db.authenticate env expired token scope = .ok a) ↔
      ∃ row ∈ db.credentials, ∃ s, standing row.credentialId log = some s ∧
        token = tokenOf row.credentialId s.secret ∧ Usable expired scope db row s := by
  constructor
  · rintro ⟨a, ha⟩
    obtain ⟨-, secret, row, router, client, hp, hrow, hpass, -⟩ := authenticate_ok.mp ha
    obtain ⟨⟨hmem, hid⟩, ⟨hrouter, hrouterId⟩, hclient, hclientId⟩ :=
      (credentialRow_eq_some ht).mp hrow
    obtain ⟨s, hs, hagrees⟩ := ht.stands row hmem
    obtain ⟨event, hevent, hsecret⟩ := hagrees.used
    have hsame : secret = s.secret :=
      hinj (.inr ⟨_, hp⟩) (.inl (List.mem_filterMap.mpr ⟨event, hevent, hsecret⟩))
        (hpass.digest.trans hagrees.digest)
    have hopen := Bool.or_eq_false_iff.mp hpass.client
    refine ⟨row, hmem, s, hs, ?_, ?_⟩
    · rw [hid, ← hsame]
      exact (parseToken_eq_some.mp hp).1
    · exact ⟨hagrees.barred ▸ hpass.credential, hagrees.expiresAt ▸ hpass.expiry,
        hagrees.scopes ▸ by simpa using hpass.scope, router, hrouter, hrouterId, hpass.router,
        client, hclient, hclientId, by simpa using hopen.1, by simpa using hopen.2⟩
  · rintro ⟨row, hmem, s, hs, rfl, husable⟩
    obtain ⟨s', hs', hagrees⟩ := ht.stands row hmem
    obtain rfl := Option.some.inj (hs.symm.trans hs')
    obtain ⟨router, hrouter, hrouterId, henabled, client, hclient, hclientId, hopen, hdeleted⟩ :=
      husable.router
    have hscope : scope ∈ row.scopes := hagrees.scopes ▸ husable.scope
    refine ⟨⟨row.credentialId, row.routerId, router.clientId, row.scopes⟩, authenticate_ok.mpr
      ⟨by simpa using hagrees.known scope hscope, s.secret, row, router, client,
        parseToken_eq_some.mpr ⟨rfl, hagrees.id, hagrees.secret⟩, ?_, ?_, rfl⟩⟩
    · exact (credentialRow_eq_some ht).mpr ⟨⟨hmem, rfl⟩, ⟨hrouter, hrouterId⟩, hclient, hclientId⟩
    · exact ⟨hagrees.digest.symm, hagrees.expiresAt ▸ husable.expiry,
        hagrees.barred.trans husable.revoked, by simp [hopen, hdeleted], henabled, by simpa using hscope⟩

/-- Once it is revoked a credential stays so until one is issued under its id. -/
theorem standing_revoked {id : String} {later past : List CredentialEvent}
    (h : ∀ c secret, .issued c secret ∈ later → c.credentialId ≠ id) {s : Standing}
    (hs : standing id (later ++ .revoked id :: past) = some s) : s.revoked = true := by
  induction later generalizing s with
  | nil =>
    rw [List.nil_append, standing, if_pos rfl] at hs
    obtain ⟨s', -, rfl⟩ := Option.map_eq_some_iff.mp hs
    rfl
  | cons event later ih =>
    have hlater := fun {s} => @ih (fun c secret hmem => h c secret (List.mem_cons_of_mem _ hmem)) s
    rw [List.cons_append] at hs
    cases event with
    | issued c secret =>
      rw [standing, if_neg (h c secret List.mem_cons_self)] at hs
      exact hlater hs
    | rotated other secret =>
      rw [standing] at hs
      split at hs
      · obtain ⟨s', hs', rfl⟩ := Option.map_eq_some_iff.mp hs
        exact hlater (s := s') hs'
      · exact hlater hs
    | revoked other =>
      rw [standing] at hs
      split at hs
      · obtain ⟨s', -, rfl⟩ := Option.map_eq_some_iff.mp hs
        rfl
      · exact hlater hs

/-- After any history of the server, with a digest that tells the secrets apart, a token is
accepted for a scope exactly when it has the last secret of a credential that is not revoked or
expired, has the scope, and has its router enabled and the client of that enabled and not deleted;
and a revoked credential is not accepted any more, unless one is issued under its id. -/
theorem router_credential_lifecycle {expired : String → Bool} {token scope : String}
    (h : CredentialHistory env W log db)
    (hinj : Set.InjOn env.sha256Text
      {secret | secret ∈ secretsOf log ∨ ∃ id, parseToken token = some (id, secret)}) :
    ((∃ a, db.authenticate env expired token scope = .ok a) ↔
      ∃ row ∈ db.credentials, ∃ s, standing row.credentialId log = some s ∧
        token = tokenOf row.credentialId s.secret ∧ Usable expired scope db row s) ∧
    ∀ id later past, log = later ++ .revoked id :: past →
      (∀ c secret, .issued c secret ∈ later → c.credentialId ≠ id) →
      ∀ token scope a, db.authenticate env expired token scope = .ok a → a.credentialId ≠ id := by
  refine ⟨h.tracked.accepts_iff hinj, ?_⟩
  rintro id later past rfl hlater token scope a ha rfl
  obtain ⟨-, secret, row, router, client, -, hrow, hpass, -⟩ := authenticate_ok.mp ha
  obtain ⟨⟨hmem, hid⟩, -⟩ := (credentialRow_eq_some h.tracked).mp hrow
  obtain ⟨s, hs, hagrees⟩ := h.tracked.stands row hmem
  rw [hid] at hs
  have hrevoked := standing_revoked hlater hs
  rw [← hagrees.barred, hpass.credential] at hrevoked
  cases hrevoked

end

namespace CredentialSample

open StoreSample

def secret : String := "ABCDEFGHIJKLMNOPQRSTUVWXYZabcdefghijklmnopqrs"

def env : Environment :=
  { StoreSample.env with
    sha256Text := fun text =>
      if text = secret then "e282deaadb6b8ae8772be31765633c73f4c9aa2f9a301d803a0fc0ed5020620e"
      else "" }

def credential : NewCredential :=
  ⟨"credential-1", 1, none, "router-1", "home", env.sha256Text secret, ["snapshot:read"], none⟩

def peer : PeerMaterial := ⟨"router-private", "router-public", "router-shared"⟩

def issued : Db := okOr added (added.issueRouterCredential env credential peer "t2")

theorem issued_eq : added.issueRouterCredential env credential peer "t2" = .ok issued := by rfl

theorem issued_history :
    CredentialHistory env (fun _ _ _ => True) [.issued credential secret] issued := by
  have hstart : CredentialHistory env (fun _ _ _ => True) [] fresh :=
    .start ⟨List.nodup_nil, by simp [fresh], List.nodup_nil, by simp [fresh]⟩ rfl
  exact .issue (.config hstart (.createClient added_eq))
    (by decide) (by decide) rfl (by decide) issued_eq

theorem parses : parseToken (tokenOf "credential-1" secret) = some ("credential-1", secret) :=
  parseToken_eq_some.mpr ⟨rfl, by decide, by decide⟩

end CredentialSample

open CredentialSample in
theorem router_credential_lifecycle_issued :
    ∃ a, issued.authenticate CredentialSample.env (fun _ => false)
      (tokenOf "credential-1" CredentialSample.secret) "snapshot:read" = .ok a := by
  refine (router_credential_lifecycle issued_history ?_).1.mpr ?_
  · have hone : ∀ text, (text ∈ secretsOf [.issued credential CredentialSample.secret] ∨
        ∃ id, parseToken (tokenOf "credential-1" CredentialSample.secret) = some (id, text)) →
        text = CredentialSample.secret := by
      rintro text (hmem | ⟨id, hid⟩)
      · exact List.mem_singleton.mp hmem
      · rw [parses] at hid
        exact (Prod.mk.inj (Option.some.inj hid)).2.symm
    exact fun a ha b hb _ => (hone a ha).trans (hone b hb).symm
  · refine ⟨_, List.mem_singleton.mpr rfl, ⟨credential, CredentialSample.secret, false⟩,
      if_pos rfl, rfl, rfl, rfl, by decide, ?_⟩
    exact ⟨_, List.mem_singleton.mpr rfl, rfl, rfl, _, List.mem_singleton.mpr rfl, rfl, rfl, rfl⟩

end AutoVPN
