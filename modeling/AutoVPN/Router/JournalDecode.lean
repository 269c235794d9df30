import AutoVPN.Router.Journal

/-! Reading the records of the journal back from a JSON value. Each reader
succeeds exactly on the values that carry the record's fields. -/

namespace AutoVPN

def Text.ofValue {p : Pattern} : Value → Option (Text p)
  | .string s => if h : p.matches s = true then some ⟨s, h⟩ else none
  | _ => none

theorem Text.ofValue_eq_some {p : Pattern} {v : Value} {t : Text p} :
    Text.ofValue v = some t ↔ v = .string t.1 := by
  cases v with
  | string s =>
    by_cases h : p.matches s = true
    · simp [ofValue, h, Subtype.ext_iff]
    · simp only [ofValue, h, Bool.false_eq_true, dite_false, reduceCtorEq, false_iff]
      intro ht
      rw [Value.string.injEq] at ht
      exact h (ht ▸ t.2)
  | _ => simp [ofValue]

theorem Text.exists_of_matches {p : Pattern} {v : Value} (h : v.matches p = true) :
    ∃ t : Text p, v = .string t.1 := by
  obtain ⟨s, rfl, hs⟩ := Value.matches_iff.mp h
  exact ⟨⟨s, hs⟩, rfl⟩

def natOfValue : Value → Option Nat
  | .int n => if 0 ≤ n then some n.toNat else none
  | _ => none

theorem natOfValue_eq_some {v : Value} {n : Nat} : natOfValue v = some n ↔ v = .int n := by
  cases v with
  | int k =>
    by_cases h : 0 ≤ k
    · simp only [natOfValue, h, if_true, Option.some.injEq, Value.int.injEq]
      omega
    · simp only [natOfValue, h, if_false, reduceCtorEq, Value.int.injEq, false_iff]
      omega
  | _ => simp [natOfValue]

def boolOfValue : Value → Option Bool
  | .bool b => some b
  | _ => none

theorem boolOfValue_eq_some {v : Value} {b : Bool} : boolOfValue v = some b ↔ v = .bool b := by
  cases v <;> simp [boolOfValue]

/-- A field that is `null` when absent. -/
def optional {α : Type*} (read : Value → Option α) (v : Value) : Option (Option α) :=
  if v.isNull then some none else (read v).map some

theorem optional_null {α : Type*} (read : Value → Option α) : optional read .null = some none := rfl

theorem optional_eq_none {α : Type*} {read : Value → Option α} {v : Value} :
    optional read v = some none ↔ v = .null := by
  by_cases h : v.isNull = true <;> simp [optional, h, ← Value.isNull_iff]

theorem optional_of_some {α : Type*} {read : Value → Option α} {v : Value} {a : α}
    (hv : v ≠ .null) (h : read v = some a) : optional read v = some (some a) := by
  simp [optional, Value.isNull_iff, hv, h]

theorem optional_eq_some {α : Type*} {read : Value → Option α} {v : Value} {a : α}
    (h : optional read v = some (some a)) : read v = some a := by
  by_cases hn : v.isNull = true <;> simp_all [optional]

theorem optional_orNull {α : Type*} {read : Value → Option α} {encode : α → Value}
    (hn : ∀ a, encode a ≠ .null) (h : ∀ a, read (encode a) = some a) (o : Option α) :
    optional read (orNull encode o) = some o := by
  cases o with
  | none => rfl
  | some a => exact optional_of_some (hn a) (h a)

def Snapshot.ofValue (v : Value) : Option Snapshot :=
  if h : validateSnapshot v = [] then some ⟨v, h⟩ else none

theorem Snapshot.ofValue_eq_some {v : Value} {s : Snapshot} :
    Snapshot.ofValue v = some s ↔ v = s.value := by
  constructor
  · intro h
    unfold ofValue at h
    split at h
    · rw [Option.some.injEq] at h
      exact h ▸ rfl
    · simp at h
  · rintro rfl
    simp [ofValue, s.accepted]

def Entry.ofValue (v : Value) : Option Entry := do
  let etag ← Text.ofValue (v.get "etag")
  let snapshot ← Snapshot.ofValue (v.get "snapshot")
  let attempt ← natOfValue (v.get "attempt")
  return { etag, snapshot, attempt }

theorem Entry.ofValue_eq_some {v : Value} {e : Entry} :
    Entry.ofValue v = some e ↔
      v.get "etag" = .string e.etag.1 ∧ v.get "snapshot" = e.snapshot.value ∧
        v.get "attempt" = .int e.attempt := by
  simp only [ofValue, Option.bind_eq_bind, Option.bind_eq_some_iff, Text.ofValue_eq_some,
    Snapshot.ofValue_eq_some, natOfValue_eq_some, Option.pure_def, Option.some.injEq]
  constructor
  · rintro ⟨etag, he, snapshot, hs, attempt, ha, rfl⟩
    exact ⟨he, hs, ha⟩
  · rintro ⟨he, hs, ha⟩
    exact ⟨_, he, _, hs, _, ha, rfl⟩

def SchemaError.ofValue (v : Value) : Option SchemaError :=
  match v.get "path", v.get "code" with
  | .string path, .string code => some { path, code }
  | _, _ => none

theorem SchemaError.ofValue_eq_some {v : Value} {e : SchemaError} :
    SchemaError.ofValue v = some e ↔
      v.get "path" = .string e.path ∧ v.get "code" = .string e.code := by
  rw [ofValue]
  constructor
  · intro h
    split at h
    · rename_i hp hc
      rw [Option.some.injEq] at h
      exact h ▸ ⟨hp, hc⟩
    · simp at h
  · rintro ⟨hp, hc⟩
    rw [hp, hc]

theorem SchemaError.mapM_encode (es : List SchemaError) :
    (es.map encode).mapM ofValue = some es := by
  induction es with
  | nil => rfl
  | cons e es ih =>
    have he : ofValue e.encode = some e := ofValue_eq_some.mpr ⟨rfl, rfl⟩
    simp [List.mapM_cons, he, ih]

def Rejected.ofValue (v : Value) : Option Rejected := do
  let revision ← optional natOfValue (v.get "revision")
  let etag ← Text.ofValue (v.get "etag")
  let code ← Text.ofValue (v.get "code")
  let errors ← (v.get "errors").items.mapM SchemaError.ofValue
  if h : (∀ r ∈ revision, r ≤ maxSafeInteger) ∧ Reportable 64 errors then
    return { revision, etag, code, errors, revision_le := h.1, reportable := h.2 }
  else none

theorem Rejected.ofValue_of_fields {v : Value} {r : Rejected}
    (hr : optional natOfValue (v.get "revision") = some r.revision)
    (he : v.get "etag" = .string r.etag.1) (hc : v.get "code" = .string r.code.1)
    (hs : (v.get "errors").items.mapM SchemaError.ofValue = some r.errors) :
    Rejected.ofValue v = some r := by
  have hle := r.revision_le
  simpa [ofValue, hr, Text.ofValue_eq_some.mpr he, Text.ofValue_eq_some.mpr hc, hs, r.reportable]
    using hle

theorem Rejected.ofValue_eq_some {v : Value} {r : Rejected} (h : Rejected.ofValue v = some r) :
    optional natOfValue (v.get "revision") = some r.revision ∧ v.get "etag" = .string r.etag.1 := by
  simp only [ofValue, Option.bind_eq_bind, Option.bind_eq_some_iff, Text.ofValue_eq_some] at h
  obtain ⟨revision, hr, etag, he, code, _, errors, _, h⟩ := h
  split at h
  · simp only [Option.pure_def, Option.some.injEq] at h
    exact h ▸ ⟨hr, he⟩
  · simp at h

def Capabilities.ofValue (v : Value) : Option Capabilities := do
  let vless ← boolOfValue (v.get "vless")
  let hysteria2 ← boolOfValue (v.get "hysteria2")
  let amneziawg ← boolOfValue (v.get "amneziawg")
  let zapret ← boolOfValue (v.get "zapret")
  let policyRouting ← boolOfValue (v.get "policy_routing")
  return { vless, hysteria2, amneziawg, zapret, policyRouting }

theorem Capabilities.ofValue_eq_some {v : Value} {c : Capabilities} :
    Capabilities.ofValue v = some c ↔
      v.get "vless" = .bool c.vless ∧ v.get "hysteria2" = .bool c.hysteria2 ∧
        v.get "amneziawg" = .bool c.amneziawg ∧ v.get "zapret" = .bool c.zapret ∧
        v.get "policy_routing" = .bool c.policyRouting := by
  simp only [ofValue, Option.bind_eq_bind, Option.bind_eq_some_iff, boolOfValue_eq_some,
    Option.pure_def, Option.some.injEq]
  constructor
  · rintro ⟨_, h₁, _, h₂, _, h₃, _, h₄, _, h₅, rfl⟩
    exact ⟨h₁, h₂, h₃, h₄, h₅⟩
  · rintro ⟨h₁, h₂, h₃, h₄, h₅⟩
    exact ⟨_, h₁, _, h₂, _, h₃, _, h₄, _, h₅, rfl⟩

def Diagnostics.ofValue (v : Value) : Option Diagnostics :=
  if (v.get "stage").is "verified" then some .verified
  else if (v.get "stage").is "rolled_back" then
    (Text.ofValue (v.get "code")).map (.failure .rolledBack)
  else if (v.get "stage").is "rollback_failed" then
    (Text.ofValue (v.get "code")).map (.failure .rollbackFailed)
  else none

theorem Diagnostics.ofValue_encode (d : Diagnostics) : Diagnostics.ofValue d.encode = some d := by
  cases d with
  | verified => rfl
  | failure stage code =>
    have hc : Text.ofValue (Value.string code.1) = some code := Text.ofValue_eq_some.mpr rfl
    have h : Diagnostics.ofValue (encode (.failure stage code)) =
        (Text.ofValue (.string code.1)).map (.failure stage) := by cases stage <;> rfl
    rw [h, hc]
    rfl

def VersionOne.ofValue (v : Value) : Option VersionOne :=
  if h : v.looseEq (.int 1) = true then some ⟨v, h⟩ else none

theorem VersionOne.ofValue_eq_some {v : Value} {w : VersionOne} :
    VersionOne.ofValue v = some w ↔ v = w.1 := by
  constructor
  · intro h
    unfold ofValue at h
    split at h
    · rw [Option.some.injEq] at h
      exact h ▸ rfl
    · simp at h
  · rintro rfl
    simp [ofValue, w.2]

def ReportBody.ofValue (v : Value) : Option ReportBody := do
  let schemaVersion ← VersionOne.ofValue (v.get "schema_version")
  let revision ← natOfValue (v.get "revision")
  let snapshotSha256 ← Text.ofValue (v.get "snapshot_sha256")
  let activeProfile ← optional Text.ofValue (v.get "active_profile")
  let capabilities ← Capabilities.ofValue (v.get "capabilities")
  let diagnostics ← Diagnostics.ofValue (v.get "diagnostics")
  if h : revision ≤ maxSafeInteger then
    return { schemaVersion, revision, snapshotSha256, activeProfile, capabilities, diagnostics,
             revision_le := h }
  else none

theorem ReportBody.ofValue_eq_some {v : Value} {b : ReportBody} :
    ReportBody.ofValue v = some b ↔
      v.get "schema_version" = b.schemaVersion.1 ∧ v.get "revision" = .int b.revision ∧
        v.get "snapshot_sha256" = .string b.snapshotSha256.1 ∧
        optional Text.ofValue (v.get "active_profile") = some b.activeProfile ∧
        Capabilities.ofValue (v.get "capabilities") = some b.capabilities ∧
        Diagnostics.ofValue (v.get "diagnostics") = some b.diagnostics := by
  simp only [ofValue, Option.bind_eq_bind, Option.bind_eq_some_iff, Text.ofValue_eq_some,
    natOfValue_eq_some, VersionOne.ofValue_eq_some]
  constructor
  · rintro ⟨_, h₁, _, h₂, _, h₃, _, h₄, _, h₅, _, h₆, h⟩
    split at h
    · simp only [Option.pure_def, Option.some.injEq] at h
      exact h ▸ ⟨h₁, h₂, h₃, h₄, h₅, h₆⟩
    · simp at h
  · rintro ⟨h₁, h₂, h₃, h₄, h₅, h₆⟩
    exact ⟨_, h₁, _, h₂, _, h₃, _, h₄, _, h₅, _, h₆, by simp [b.revision_le]⟩

def PendingReport.ofValue (v : Value) : Option PendingReport :=
  match v.get "idempotency_key" with
  | .string idempotencyKey => do
    let etag ← Text.ofValue (v.get "etag")
    let body ← ReportBody.ofValue (v.get "body")
    return { idempotencyKey, etag, body }
  | _ => none

theorem PendingReport.ofValue_eq_some {v : Value} {p : PendingReport} :
    PendingReport.ofValue v = some p ↔
      v.get "idempotency_key" = .string p.idempotencyKey ∧ v.get "etag" = .string p.etag.1 ∧
        ReportBody.ofValue (v.get "body") = some p.body := by
  rw [ofValue]
  constructor
  · intro h
    split at h
    · rename_i hk
      simp only [Option.bind_eq_bind, Option.bind_eq_some_iff, Text.ofValue_eq_some,
        Option.pure_def, Option.some.injEq] at h
      obtain ⟨etag, he, body, hb, rfl⟩ := h
      exact ⟨hk, he, hb⟩
    · simp at h
  · rintro ⟨hk, he, hb⟩
    simp [hk, Text.ofValue_eq_some.mpr he, hb]

def Phase.ofValue (v : Value) : Option Phase :=
  [.idle, .ready, .preparing, .prepared, .activating, .verifying, .rollingBack,
    .failClosed].find? fun phase => v.is phase.name

/-- The state that a stored value stands for. -/
def State.ofValue (v : Value) : Option State := do
  let journalVersion ← VersionOne.ofValue (v.get "journal_version")
  let sequence ← natOfValue (v.get "sequence")
  let phase ← Phase.ofValue (v.get "phase")
  let desired ← optional Entry.ofValue (v.get "desired")
  let applied ← optional Entry.ofValue (v.get "applied")
  let lastGood ← optional Entry.ofValue (v.get "last_good")
  let rejected ← optional Rejected.ofValue (v.get "rejected")
  let pendingReport ← optional PendingReport.ofValue (v.get "pending_report")
  let capabilities ← Capabilities.ofValue (v.get "capabilities")
  let activeProfile ← optional Text.ofValue (v.get "active_profile")
  let lastError ← optional Text.ofValue (v.get "last_error")
  return { journalVersion, sequence, phase, desired, applied, lastGood, rejected, pendingReport,
           capabilities, activeProfile, lastError }

theorem State.ofValue_eq_some {v : Value} {s : State} :
    State.ofValue v = some s ↔
      v.get "journal_version" = s.journalVersion.1 ∧ v.get "sequence" = .int s.sequence ∧
        Phase.ofValue (v.get "phase") = some s.phase ∧
        optional Entry.ofValue (v.get "desired") = some s.desired ∧
        optional Entry.ofValue (v.get "applied") = some s.applied ∧
        optional Entry.ofValue (v.get "last_good") = some s.lastGood ∧
        optional Rejected.ofValue (v.get "rejected") = some s.rejected ∧
        optional PendingReport.ofValue (v.get "pending_report") = some s.pendingReport ∧
        Capabilities.ofValue (v.get "capabilities") = some s.capabilities ∧
        optional Text.ofValue (v.get "active_profile") = some s.activeProfile ∧
        optional Text.ofValue (v.get "last_error") = some s.lastError := by
  simp only [ofValue, Option.bind_eq_bind, Option.bind_eq_some_iff, natOfValue_eq_some,
    VersionOne.ofValue_eq_some, Option.pure_def, Option.some.injEq]
  constructor
  · rintro ⟨_, h₁, _, h₂, _, h₃, _, h₄, _, h₅, _, h₆, _, h₇, _, h₈, _, h₉, _, h₁₀, _, h₁₁, rfl⟩
    exact ⟨h₁, h₂, h₃, h₄, h₅, h₆, h₇, h₈, h₉, h₁₀, h₁₁⟩
  · rintro ⟨h₁, h₂, h₃, h₄, h₅, h₆, h₇, h₈, h₉, h₁₀, h₁₁⟩
    exact ⟨_, h₁, _, h₂, _, h₃, _, h₄, _, h₅, _, h₆, _, h₇, _, h₈, _, h₉, _, h₁₀, _, h₁₁, rfl⟩

/-! What is written is read back. -/

theorem optional_profile {p : Pattern} (o : Option (Text p)) :
    optional Text.ofValue (orNull (fun t : Text p => .string t.1) o) = some o :=
  optional_orNull (by simp) (fun _ => Text.ofValue_eq_some.mpr rfl) o

theorem Entry.ofValue_encode (e : Entry) : Entry.ofValue e.encode = some e :=
  Entry.ofValue_eq_some.mpr ⟨rfl, rfl, rfl⟩

theorem Rejected.ofValue_encode (r : Rejected) : Rejected.ofValue r.encode = some r :=
  Rejected.ofValue_of_fields
    (optional_orNull (by simp) (fun _ => natOfValue_eq_some.mpr rfl) r.revision) rfl rfl
    (SchemaError.mapM_encode r.errors)

theorem Capabilities.ofValue_encode (c : Capabilities) : Capabilities.ofValue c.encode = some c :=
  Capabilities.ofValue_eq_some.mpr ⟨rfl, rfl, rfl, rfl, rfl⟩

theorem ReportBody.ofValue_encode (b : ReportBody) : ReportBody.ofValue b.encode = some b :=
  ReportBody.ofValue_eq_some.mpr ⟨rfl, rfl, rfl, optional_profile _,
    Capabilities.ofValue_encode _, Diagnostics.ofValue_encode _⟩

theorem PendingReport.ofValue_encode (p : PendingReport) :
    PendingReport.ofValue p.encode = some p :=
  PendingReport.ofValue_eq_some.mpr ⟨rfl, rfl, ReportBody.ofValue_encode _⟩

theorem Phase.ofValue_name (phase : Phase) : Phase.ofValue (.string phase.name) = some phase := by
  cases phase <;> rfl

theorem State.ofValue_encode (s : State) : State.ofValue s.encode = some s :=
  State.ofValue_eq_some.mpr ⟨rfl, rfl, Phase.ofValue_name _,
    optional_orNull (fun _ => Value.noConfusion) Entry.ofValue_encode _,
    optional_orNull (fun _ => Value.noConfusion) Entry.ofValue_encode _,
    optional_orNull (fun _ => Value.noConfusion) Entry.ofValue_encode _,
    optional_orNull (fun _ => Value.noConfusion) Rejected.ofValue_encode _,
    optional_orNull (fun _ => Value.noConfusion) PendingReport.ofValue_encode _,
    Capabilities.ofValue_encode _, optional_profile _, optional_profile _⟩

theorem State.encode_injective {s t : State} (h : s.encode = t.encode) : s = t := by
  have hs := State.ofValue_encode s
  rw [h, State.ofValue_encode] at hs
  exact (Option.some.inj hs).symm

end AutoVPN
