import AutoVPN.Router.Snapshot

/-! The errors of a snapshot fit the journal's `rejected` record, and an
accepted snapshot has a revision and a digest. -/

namespace AutoVPN

def SchemaError.WellFormed (e : SchemaError) : Prop :=
  errorPathPattern.matches e.path = true ∧ codePattern.matches e.code = true

theorem errorPathPattern_matches_cons {c : Char} {cs : List Char} :
    errorPathPattern.matchesList (c :: cs) = true ↔
      c = '$' ∧ (Piece.between (alphanumericOr ['_', '.', '[', ']', '-']) 0 255).accepts cs = true := by
  rw [errorPathPattern, Pattern.matchesList_char_cons]
  constructor
  · rintro ⟨b, hb, h⟩
    obtain ⟨rfl, rfl⟩ := List.cons.inj hb
    exact ⟨rfl, Pattern.matchesList_singleton.mp h⟩
  · rintro ⟨rfl, h⟩
    exact ⟨cs, rfl, Pattern.matchesList_singleton.mpr h⟩

/-- Checks a path and a code in one pass each. -/
def SchemaError.check (e : SchemaError) : Bool :=
  (match e.path.toList with
    | c :: cs => c == '$' &&
      (Piece.between (alphanumericOr ['_', '.', '[', ']', '-']) 0 255).accepts cs
    | [] => false) &&
  (Piece.between isCodeChar 1 64).accepts e.code.toList

theorem SchemaError.check_iff {e : SchemaError} : e.check = true ↔ e.WellFormed := by
  rw [check, Bool.and_eq_true]
  refine and_congr ?_ Pattern.matchesList_singleton.symm
  rw [Pattern.matches]
  cases e.path.toList with
  | nil => simp [errorPathPattern, Pattern.matchesList_char_cons]
  | cons c cs => simp [errorPathPattern_matches_cons]

instance (e : SchemaError) : Decidable e.WellFormed := decidable_of_iff _ SchemaError.check_iff

/-- At most `n` errors, all of them well formed. -/
def Reportable (n : Nat) (es : List SchemaError) : Prop :=
  es.length ≤ n ∧ ∀ e ∈ es, e.WellFormed

instance (n : Nat) (es : List SchemaError) : Decidable (Reportable n es) :=
  inferInstanceAs (Decidable (_ ∧ _))

theorem Reportable.nil : Reportable 0 [] := ⟨Nat.le_refl 0, by simp⟩

theorem Reportable.singleton {e : SchemaError} (h : e.WellFormed) : Reportable 1 [e] :=
  ⟨Nat.le_refl 1, by simpa using h⟩

theorem Reportable.mono {m n : Nat} {es : List SchemaError} (h : Reportable m es) (hmn : m ≤ n) :
    Reportable n es := ⟨h.1.trans hmn, h.2⟩

theorem Reportable.append {m n : Nat} {es fs : List SchemaError}
    (he : Reportable m es) (hf : Reportable n fs) : Reportable (m + n) (es ++ fs) := by
  refine ⟨by rw [List.length_append]; exact Nat.add_le_add he.1 hf.1, fun e h => ?_⟩
  rcases List.mem_append.mp h with h | h
  · exact he.2 e h
  · exact hf.2 e h

theorem Reportable.addError {b : Bool} {path code : String}
    (h : SchemaError.WellFormed ⟨path, code⟩) : Reportable 1 (addError b path code) := by
  cases b
  · exact Reportable.nil.mono (Nat.zero_le 1)
  · exact Reportable.singleton h

theorem Reportable.append_addError {n : Nat} {es : List SchemaError} {b : Bool}
    {path code : String} (he : Reportable n es) (h : SchemaError.WellFormed ⟨path, code⟩) :
    Reportable (n + 1) (es ++ AutoVPN.addError b path code) := he.append (.addError h)

theorem Reportable.ite {n : Nat} {c : Prop} [Decidable c] {es fs : List SchemaError}
    (he : Reportable n es) (hf : Reportable n fs) : Reportable n (if c then es else fs) := by
  split
  · exact he
  · exact hf

theorem Reportable.flatMap {α : Type*} {f : α → List SchemaError} {xs : List α}
    (h : ∀ x ∈ xs, Reportable 1 (f x)) : Reportable xs.length (xs.flatMap f) := by
  induction xs with
  | nil => exact Reportable.nil
  | cons x xs ih =>
    have hx := h x List.mem_cons_self
    have hxs := ih fun y hy => h y (List.mem_cons_of_mem x hy)
    rw [List.flatMap_cons, List.length_cons, Nat.add_comm]
    exact hx.append hxs

theorem validateTls_reportable (tls : Value) {path : String} (realityRequired : Bool)
    (hs : SchemaError.WellFormed ⟨path, "invalid_schema"⟩)
    (ht : SchemaError.WellFormed ⟨path, "invalid_tls"⟩)
    (hi : SchemaError.WellFormed ⟨path ++ ".insecure", "invalid_type"⟩)
    (hu : SchemaError.WellFormed ⟨path ++ ".utls", "invalid_schema"⟩)
    (hr : SchemaError.WellFormed ⟨path ++ ".reality", "invalid_schema"⟩) :
    Reportable 3 (validateTls tls path realityRequired) := by
  refine .ite ((Reportable.addError hs).mono (by decide)) ?_
  refine (Reportable.addError ht).append (n := 2) (.ite ?_ ?_)
  · exact (Reportable.addError hi).mono (by decide)
  · exact (Reportable.addError hu).append (Reportable.addError hr)

theorem validateVless_reportable (value endpoint : Value) :
    Reportable 7 (validateVless value endpoint) := by
  refine .ite ((Reportable.addError (by decide)).mono (by decide)) ?_
  refine .append (m := 4) (n := 3) ?_
    (validateTls_reportable _ _ (by decide) (by decide) (by decide) (by decide) (by decide))
  refine .append_addError (.append_addError (.append_addError (.addError ?_) ?_) ?_) ?_
  all_goals decide

theorem validateHysteria_reportable (value endpoint : Value) :
    Reportable 6 (validateHysteria value endpoint) := by
  refine .ite ((Reportable.addError (by decide)).mono (by decide)) ?_
  refine .append_addError (.append (m := 2) (n := 3) (.append_addError (.addError ?_) ?_) ?_) ?_
  · decide
  · decide
  · exact validateTls_reportable _ _ (by decide) (by decide) (by decide) (by decide) (by decide)
  · decide

theorem obfuscationPath_wellFormed {name : String} (h : name ∈ obfuscationNames) :
    SchemaError.WellFormed ⟨obfuscationPath name, "invalid_integer"⟩ := by
  have hall : ∀ n ∈ obfuscationNames,
      SchemaError.WellFormed ⟨obfuscationPath n, "invalid_integer"⟩ := by decide
  exact hall name h

theorem validateObfuscation_reportable (obfuscation : Value) :
    Reportable 9 (validateObfuscation obfuscation) := by
  unfold validateObfuscation
  split
  · exact (Reportable.addError (by decide)).mono (by decide)
  · rename_i h
    obtain ⟨fs, rfl, hp⟩ := Value.hasExactKeys_iff.mp (by simpa using h)
    have hlen : fs.length = 9 := by simpa [obfuscationNames] using hp.length_eq
    rw [← hlen]
    refine .flatMap fun x hx => .addError (obfuscationPath_wellFormed ?_)
    exact hp.mem_iff.mp (List.mem_map_of_mem hx)

theorem validateAwg_reportable (value endpoint : Value) (auxiliary : Bool) :
    Reportable 14 (validateAwg value endpoint auxiliary) := by
  refine .ite ((Reportable.addError (by decide)).mono (by decide)) ?_
  refine .append_addError (.append (m := 4) (n := 9) ?_ (validateObfuscation_reportable _)) ?_
  · refine .append_addError (.append_addError (.append_addError (.addError ?_) ?_) ?_) ?_
    all_goals decide
  · decide

theorem validateProtocolSlot_reportable (slot : Value) {payloadName : String}
    (hd : SchemaError.WellFormed ⟨"$.protocols." ++ payloadName, "must_be_null_when_disabled"⟩)
    (hr : SchemaError.WellFormed ⟨"$.protocols." ++ payloadName, "required_when_enabled"⟩) :
    Reportable 2 (validateProtocolSlot slot payloadName).1 := by
  have hi : SchemaError.WellFormed ⟨"$.protocols", "invalid_schema"⟩ := by decide
  simp only [validateProtocolSlot]
  split
  · exact (Reportable.addError (b := true) hi).mono (by decide)
  · exact (Reportable.addError hd).append (Reportable.addError hr)

theorem validateProtocol_reportable {n : Nat} (slot : Value) {payloadName : String}
    {validatePayload : Value → List SchemaError}
    (hd : SchemaError.WellFormed ⟨"$.protocols." ++ payloadName, "must_be_null_when_disabled"⟩)
    (hr : SchemaError.WellFormed ⟨"$.protocols." ++ payloadName, "required_when_enabled"⟩)
    (hp : ∀ v, Reportable n (validatePayload v)) :
    Reportable (2 + n) (validateProtocol slot payloadName validatePayload) :=
  (validateProtocolSlot_reportable slot hd hr).append
    (.ite (hp _) (Reportable.nil.mono (Nat.zero_le n)))

theorem validateHeader_reportable (snapshot : Value) : Reportable 7 (validateHeader snapshot) := by
  refine .append_addError (.append_addError (.append_addError (.append_addError
    (.append_addError (.append_addError (.addError ?_) ?_) ?_) ?_) ?_) ?_) ?_
  all_goals decide

theorem validateProtocols_reportable (protocols endpoint : Value) (dual : Bool) :
    Reportable 49 (validateProtocols protocols endpoint dual) := by
  refine .append (m := 33) (n := 16) (.append (m := 17) (n := 16)
    (.append (m := 9) (n := 8) ?_ ?_) ?_) (.ite ?_ ?_)
  · exact validateProtocol_reportable _ (by decide) (by decide) (validateVless_reportable · _)
  · exact validateProtocol_reportable _ (by decide) (by decide) (validateHysteria_reportable · _)
  · exact validateProtocol_reportable _ (by decide) (by decide) (validateAwg_reportable · _ _)
  · exact validateProtocol_reportable _ (by decide) (by decide) (validateAwg_reportable · _ _)
  · exact Reportable.nil.mono (Nat.zero_le 16)

theorem validatePair_wellFormed {primary secondary : Value} {code : String}
    (h : Lanes.validatePair primary secondary = some code) :
    SchemaError.WellFormed ⟨"$.protocols.amneziawg_aux.profile", code⟩ := by
  have hall : ∀ c ∈ ["invalid_awg_lane_profile", "shared_awg_private_key", "shared_awg_address"],
      SchemaError.WellFormed ⟨"$.protocols.amneziawg_aux.profile", c⟩ := by decide
  apply hall
  unfold Lanes.validatePair at h
  split at h
  · simp_all
  · simp_all
  · split at h
    · simp_all
    · split at h <;> simp_all
  · simp at h

theorem validateSnapshot_reportable (snapshot : Value) :
    Reportable 64 (validateSnapshot snapshot) := by
  have hheader := validateHeader_reportable snapshot
  refine .ite ((Reportable.addError (by decide)).mono (by decide)) (.ite ?_ (.ite ?_ ?_))
  · exact (hheader.append (Reportable.addError (by decide))).mono (by decide)
  · split
    · rename_i hcode
      exact (Reportable.singleton (validatePair_wellFormed hcode)).mono (by decide)
    · exact Reportable.nil.mono (by decide)
  · exact (hheader.append (validateProtocols_reportable _ _ _)).mono (by decide)

theorem addError_eq_nil {b : Bool} {path code : String} :
    addError b path code = [] ↔ b = false := by
  cases b <;> simp [addError]

theorem validateSnapshot_header {snapshot : Value} (h : validateSnapshot snapshot = []) :
    validateHeader snapshot = [] := by
  unfold validateSnapshot at h
  dsimp only at h
  split at h
  · simp [addError] at h
  · split at h
    · exact (List.append_eq_nil_iff.mp h).1
    · split at h
      · rename_i hempty
        simp only [Bool.and_eq_true, List.isEmpty_iff] at hempty
        exact (List.append_eq_nil_iff.mp hempty.2).1
      · exact (List.append_eq_nil_iff.mp h).1

theorem validateSnapshot_accepted {snapshot : Value} (h : validateSnapshot snapshot = []) :
    (snapshot.get "revision").isInteger 0 maxSafeInteger = true ∧
      (snapshot.get "snapshot_sha256").matches sha256Pattern = true := by
  have hheader := validateSnapshot_header h
  simp only [validateHeader, List.append_eq_nil_iff, addError_eq_nil, Bool.not_eq_false'] at hheader
  obtain ⟨⟨⟨⟨⟨⟨_, _⟩, hrevision⟩, hsha⟩, _⟩, _⟩, _⟩ := hheader
  exact ⟨hrevision, hsha⟩

theorem validateSnapshot_routerId {snapshot : Value} (h : validateSnapshot snapshot = []) :
    (snapshot.get "router_id").matches routerIdPattern = true := by
  have hheader := validateSnapshot_header h
  simp only [validateHeader, List.append_eq_nil_iff, addError_eq_nil, Bool.not_eq_false'] at hheader
  obtain ⟨⟨⟨⟨⟨⟨_, hrouter⟩, _⟩, _⟩, _⟩, _⟩, _⟩ := hheader
  exact hrouter

end AutoVPN
