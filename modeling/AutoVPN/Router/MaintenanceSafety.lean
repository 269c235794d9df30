import AutoVPN.Router.Maintenance
import Mathlib.Logic.Relation

/-! Maintenance that is cut off anywhere: the lock says so until it is through, and nothing that the
old router wrote meets the new identity without it. -/

namespace AutoVPN

open Program

namespace Maintenance

/-! The paths differ. -/

theorem temporary_ne_lock : ∀ path ∈ lockPath :: credentialPath :: stateFiles,
    temporary path ≠ lockPath ∧ temporary path ≠ credentialPath ∧ temporary path ∉ stateFiles := by
  decide

theorem stateFiles_ne : ∀ path ∈ stateFiles,
    path ≠ lockPath ∧ path ≠ credentialPath ∧ path ≠ temporary lockPath ∧
      path ≠ temporary credentialPath := by
  decide

theorem ownedFiles_state : ∀ path ∈ ownedFiles, path ∈ stateFiles ∧ path ≠ journalPath := by decide

/-! States of the device. -/

def lockOf (d : Device) : Option FileContent := d.file lockPath

/-- The lock is that of a procedure that is not through. -/
def Unfinished (d : Device) : Prop := ∃ action phase, lockOf d = some (.gate action phase) ∧
  phase ≠ "ready"

def Cleared (d : Device) : Prop := ∀ path ∈ clearedFiles, path ≠ temporary credentialPath →
  d.file path = none

/-- A rebind has written its identity and credential, or a reset has removed the credential, and
the files of the old router are gone. -/
def Finished (request : MaintenanceRequest) (d : Device) : Prop :=
  Cleared d ∧
    ((request.action = "rebind" ∧ ∃ values, rebindValues request = some values ∧
        d.binding = values.1 ∧ d.file credentialPath = some (.text (values.2 ++ "\n"))) ∨
      (request.action = "reset" ∧ d.file credentialPath = none))

/-- The procedure of the request is through. -/
def Done (request : MaintenanceRequest) (d : Device) : Prop :=
  lockOf d = some (.gate request.action "ready") ∧ Finished request d

/-- Nothing has been done but to the temporary file of the lock. -/
structure Untouched (d s : Device) : Prop where
  file : ∀ path, path ≠ temporary lockPath → s.file path = d.file path
  binding : s.binding = d.binding
  enabled : s.enabled = d.enabled
  prepared : s.prepared = d.prepared

/-- Where a rebind or reset may be: not yet begun, not through, or through. -/
def Along (request : MaintenanceRequest) (d s : Device) : Prop :=
  Untouched d s ∨ Unfinished s ∨ Done request s

theorem set_file_ne {d : Device} {path other : String} {c : Option FileContent}
    (h : other ≠ path) : (d.set path c).file other = d.file other :=
  Function.update_of_ne h _ _

theorem set_file (d : Device) (path : String) (c : Option FileContent) :
    (d.set path c).file path = c :=
  Function.update_self _ _ _

theorem Untouched.refl (d : Device) : Untouched d d := ⟨fun _ _ => rfl, rfl, rfl, rfl⟩

theorem Untouched.scratch {d s : Device} (h : Untouched d s) (c : Option FileContent) :
    Untouched d (s.set (temporary lockPath) c) :=
  ⟨fun path hp => (set_file_ne hp).trans (h.file path hp), h.binding, h.enabled, h.prepared⟩

theorem Unfinished.set {s : Device} (h : Unfinished s) {path : String} (hp : path ≠ lockPath)
    (c : Option FileContent) : Unfinished (s.set path c) := by
  obtain ⟨action, phase, hlock, hphase⟩ := h
  exact ⟨action, phase, (set_file_ne hp.symm).trans hlock, hphase⟩

theorem Unfinished.tunnelsDown {s s' : Device} (h : Unfinished s) (hd : TunnelsDown s s') :
    Unfinished s' := by
  induction hd with
  | refl => exact h
  | tail _ hstep ih =>
    obtain ⟨path, hp, rfl⟩ := hstep
    exact ih.set (stateFiles_ne path (ownedFiles_state path hp).1).1 none

theorem unfinished_lock (s : Device) {action phase : String} (h : phase ≠ "ready") :
    Unfinished (s.set lockPath (some (.gate action phase))) :=
  ⟨action, phase, set_file _ _ _, h⟩

/-! Rules for the calls. -/

section

variable {α : Type} {G : MaintCall → Device → Prop}

/-- What a program returns in states that meet `I` throughout. -/
abbrev Holds (I : Device → Prop) (Q : α → Device → Prop) (p : Maint α) (s : Device) : Prop :=
  Sat MaintStep (fun _ => I) Q p s

theorem holds_bind {β : Type} {I : Device → Prop} {p : Maint α} {f : α → Maint β}
    {Q : α → Device → Prop} {R : β → Device → Prop} {s : Device} (h : Holds I Q p s)
    (hf : ∀ a s, Q a s → Holds I R (f a) s) : Holds I R (p >>= f) s :=
  Sat.bind (h.post fun a s hq => hf a s hq)

end

/-- A file is replaced from states that meet `P` to states that meet `R`. -/
theorem atomic_holds {P R : Device → Prop} {path : String} {c : FileContent} {s : Device}
    (hs : P s) (hP : ∀ s x, P s → P (s.set (temporary path) x))
    (hPR : ∀ s, P s → R (s.set path (some c))) :
    Holds (fun s => P s ∨ R s) (fun r s => (P s ∨ R s) ∧ (r = true → R s)) (atomic path c) s := by
  have hdiscard : ∀ s, P s → Holds (fun s => P s ∨ R s)
      (fun r s => (P s ∨ R s) ∧ (r = true → R s)) (discard path) s := by
    intro s hs
    refine ⟨.inl hs, fun r s' hstep => ?_⟩
    rcases hstep with ⟨-, rfl⟩ | ⟨-, rfl⟩
    · exact ⟨.inl (hP _ _ hs), by simp⟩
    · exact ⟨.inl hs, by simp⟩
  have hcreate : ∀ s, P s → Holds (fun s => P s ∨ R s)
      (fun r s => (P s ∨ R s) ∧ (r = true → R s)) (do
        if !(← ask (.create (temporary path) c)) then discard path
        else if !(← ask (.chmod (temporary path))) then discard path
        else if !(← ask (.rename (temporary path) path)) then discard path
        else ask (.chmod path)) s := by
    intro s hs
    refine holds_bind (Q := fun r s => P s ∧ (r = true → s.file (temporary path) = some c))
      ⟨Or.inl hs, fun r s' hstep => ?_⟩ fun r s hr => ?_
    · rcases hstep with ⟨rfl, rfl⟩ | ⟨rfl, rfl | ⟨c', rfl⟩⟩
      · exact ⟨hP _ _ hs, fun _ => set_file _ _ _⟩
      · exact ⟨hs, by simp⟩
      · exact ⟨hP _ _ hs, by simp⟩
    cases r with
    | false => exact hdiscard s hr.1
    | true =>
      refine holds_bind (Q := fun _ s' => s' = s) ⟨Or.inl hr.1, fun r s' hstep => hstep⟩
        fun r s' he => ?_
      subst he
      cases r with
      | false => exact hdiscard _ hr.1
      | true =>
        refine ⟨.inl hr.1, fun r s'' hstep => ?_⟩
        rcases hstep with ⟨rfl, c', hc', rfl⟩ | ⟨rfl, rfl⟩
        · obtain rfl : c' = c := Option.some.inj (hc'.symm.trans (hr.2 rfl))
          have hdone : R ((Device.set s' (temporary path) none).set path (some c')) :=
            hPR _ (hP _ _ hr.1)
          refine ⟨.inr hdone, fun r s₃ hchmod => ?_⟩
          obtain rfl : s₃ = _ := hchmod
          exact ⟨.inr hdone, fun _ => hdone⟩
        · exact hdiscard _ hr.1
  refine ⟨.inl hs, fun r s' hstep => ?_⟩
  rcases hstep with ⟨-, rfl⟩ | ⟨-, rfl⟩
  · exact hcreate _ (hP _ _ hs)
  · exact hcreate _ hs

theorem removeOwned_holds {P : Device → Prop} (path : String) {s : Device} (hs : P s)
    (hP : ∀ s, P s → P (s.set path none)) :
    Holds P (fun r s => P s ∧ (r = true → s.file path = none)) (removeOwned path) s := by
  refine ⟨hs, fun r s' hstep => ?_⟩
  obtain ⟨rfl, habsent, -⟩ := hstep
  cases r with
  | error => exact ⟨hs, by simp⟩
  | absent => exact ⟨hs, fun _ => habsent rfl⟩
  | present =>
    refine ⟨hs, fun r s'' hstep => ?_⟩
    rcases hstep with ⟨-, rfl⟩ | ⟨rfl, rfl⟩
    · exact ⟨hP _ hs, fun _ => set_file _ _ _⟩
    · exact ⟨hs, by simp⟩

theorem removed_set {s : Device} {path other : String} (h : s.file path = none) :
    (s.set other none).file path = none := by
  by_cases he : path = other
  · rw [he, set_file]
  · rw [set_file_ne he, h]

theorem removeAll_holds {P : Device → Prop} {paths : List String} {s : Device} (hs : P s)
    (hP : ∀ path ∈ paths, ∀ s, P s → P (s.set path none)) :
    Holds P (fun r s => P s ∧ (r = true → ∀ path ∈ paths, s.file path = none))
      (removeAll paths) s := by
  induction paths generalizing P s with
  | nil => exact ⟨hs, by simp⟩
  | cons path rest ih =>
    refine holds_bind (removeOwned_holds path hs (hP path List.mem_cons_self)) fun r s' hr => ?_
    cases r with
    | false => exact ⟨hr.1, by simp⟩
    | true =>
      have hrest := ih (P := fun s => P s ∧ s.file path = none) ⟨hr.1, hr.2 rfl⟩
        fun other hother s hs =>
          ⟨hP other (List.mem_cons_of_mem _ hother) s hs.1, removed_set hs.2⟩
      refine hrest.mono (fun _ _ h => h.1) fun r s hr => ⟨hr.1.1, fun ht other hother => ?_⟩
      rcases List.mem_cons.mp hother with rfl | hother
      · exact hr.1.2
      · exact hr.2 ht other hother

theorem writeLock_holds {P R : Device → Prop} (action phase : String) {s : Device} (hs : P s)
    (hP : ∀ s x, P s → P (s.set (temporary lockPath) x))
    (hPR : ∀ s, P s → R (s.set lockPath (some (.gate action phase)))) :
    Holds (fun s => P s ∨ R s) (fun r s => (P s ∨ R s) ∧ (r = true → R s))
      (writeLock action phase) s := by
  refine holds_bind (atomic_holds hs hP hPR) fun r s' hr => ?_
  cases r with
  | false => exact ⟨hr.1, by simp⟩
  | true =>
    refine ⟨hr.1, fun r s'' hstep => ?_⟩
    obtain rfl : s'' = s' := hstep
    exact ⟨hr.1, fun _ => hr.2 rfl⟩

theorem unfinished_scratch (s : Device) (x : Option FileContent) (h : Unfinished s) :
    Unfinished (s.set (temporary lockPath) x) := h.set (by decide) x

/-! A rebind or reset. -/

section

variable {request : MaintenanceRequest} {d : Device}

theorem seize_holds {action : String} {s : Device} (hs : Untouched d s) :
    Holds (Along request d) (fun r s => Along request d s ∧ (r = true → Unfinished s))
      (seize action) s := by
  have hlock := writeLock_holds (R := Unfinished) action "running" hs
    (fun s x h => h.scratch x) (fun s _ => unfinished_lock s (by decide))
  have halong : ∀ s, Untouched d s ∨ Unfinished s → Along request d s :=
    fun s h => h.imp_right Or.inl
  refine holds_bind (hlock.mono (fun _ s h => halong s h) fun _ _ h => h) fun r s hr => ?_
  cases r with
  | false => exact ⟨halong s hr.1, by simp⟩
  | true =>
    have hu := hr.2 rfl
    refine holds_bind (Q := fun _ s => Unfinished s) ?_ fun r s hu => ?_
    · refine ⟨.inr (.inl hu), fun r s' hstep => ?_⟩
      have hu' : Unfinished s' := by
        rcases hstep with rfl | ⟨-, rfl⟩
        · exact hu
        · exact hu
      cases r with
      | false => exact hu'
      | true =>
        refine ⟨.inr (.inl hu'), fun r s'' hsync => ?_⟩
        obtain rfl : s'' = s' := hsync
        exact hu'
    · cases r with
      | false => exact ⟨.inr (.inl hu), by simp⟩
      | true =>
        refine ⟨.inr (.inl hu), fun r s' hstep => ?_⟩
        have hu' := hu.tunnelsDown hstep
        exact ⟨.inr (.inl hu'), fun _ => hu'⟩

theorem clearedFiles_ne : ∀ path ∈ clearedFiles, path ≠ lockPath ∧ path ≠ temporary lockPath ∧
    path ≠ credentialPath := by
  decide

theorem clear_holds {s : Device} (hs : Unfinished s) :
    Holds Unfinished (fun r s => Unfinished s ∧ (r = true → Cleared s)) clearRuntimeState s := by
  refine (removeAll_holds hs fun path hp s h => h.set (clearedFiles_ne path hp).1 none).post ?_
  exact fun r s hr => ⟨hr.1, fun ht path hp _ => hr.2 ht path hp⟩

theorem Cleared.set {s : Device} (h : Cleared s) {path : String} {x : Option FileContent}
    (hp : path = temporary credentialPath ∨ path ∉ clearedFiles) : Cleared (s.set path x) := by
  intro other hother hne
  have hdiffer : other ≠ path := by
    rintro rfl
    rcases hp with hp | hp
    · exact hne hp
    · exact hp hother
  rw [set_file_ne hdiffer]
  exact h other hother hne

theorem abandon_holds {action code : String} {s : Device} (hs : Unfinished s) :
    Holds (Along request d) (fun r s => Along request d s ∧ ∀ b, r = .ok b → Done request s)
      (abandon action code) s := by
  have hlock := writeLock_holds (R := Unfinished) action "failed" hs
    unfinished_scratch (fun s _ => unfinished_lock s (by decide))
  refine holds_bind (hlock.mono (fun _ s h => .inr (.inl (h.elim id id))) fun _ _ h => h)
    fun r s hr => ?_
  exact ⟨.inr (.inl (hr.1.elim id id)), fun b hb => by cases hb⟩

theorem Finished.set {s : Device} (h : Finished request s) {path : String}
    {x : Option FileContent} (hp : path ∉ clearedFiles) (hc : path ≠ credentialPath) :
    Finished request (s.set path x) := by
  refine ⟨h.1.set (.inr hp), ?_⟩
  rw [set_file_ne hc.symm]
  exact h.2

theorem conclude_holds {b : Bool} {s : Device} (hs : Unfinished s) (hf : Finished request s) :
    Holds (Along request d) (fun r s => Along request d s ∧ ∀ b, r = .ok b → Done request s)
      (conclude request.action b) s := by
  have hnot : temporary lockPath ∉ clearedFiles ∧ lockPath ∉ clearedFiles := by decide
  have hlock := writeLock_holds (P := fun s => Unfinished s ∧ Finished request s)
    (R := Done request) request.action "ready" ⟨hs, hf⟩
    (fun s x h => ⟨unfinished_scratch s x h.1, h.2.set hnot.1 (by decide)⟩)
    (fun s h => ⟨set_file _ _ _, h.2.set hnot.2 (by decide)⟩)
  have halong : ∀ s, (Unfinished s ∧ Finished request s) ∨ Done request s → Along request d s :=
    fun s h => .inr (h.imp_left And.left)
  refine holds_bind (hlock.mono (fun _ s h => halong s h) fun _ _ h => h) fun r s hr => ?_
  cases r with
  | false => exact ⟨halong s hr.1, fun b hb => by cases hb⟩
  | true => exact ⟨halong s hr.1, fun _ _ => hr.2 rfl⟩

theorem updateBinding_holds {values : Binding × String} {s : Device} (hs : Unfinished s)
    (hc : Cleared s) : Holds Unfinished (fun r s => Unfinished s ∧ (r = true → Cleared s ∧
      s.binding = values.1 ∧ s.file credentialPath = some (.text (values.2 ++ "\n"))))
      (updateBinding values.1 values.2) s := by
  let P : Device → Prop := fun s => Unfinished s ∧ Cleared s ∧ s.binding = values.1
  have hwrite : ∀ s, P s → Holds Unfinished (fun r s => Unfinished s ∧ (r = true → Cleared s ∧
      s.binding = values.1 ∧ s.file credentialPath = some (.text (values.2 ++ "\n"))))
      (atomic credentialPath (.text (values.2 ++ "\n"))) s := by
    intro s hs
    have hatomic := atomic_holds (P := P) (c := .text (values.2 ++ "\n"))
      (R := fun s => P s ∧ s.file credentialPath = some (.text (values.2 ++ "\n"))) hs
      (fun s x h => ⟨h.1.set (by decide) x, h.2.1.set (.inl rfl), h.2.2⟩)
      (fun s h => ⟨⟨h.1.set (by decide) _, h.2.1.set (.inr (by decide)), h.2.2⟩, set_file _ _ _⟩)
    refine hatomic.mono (fun _ s h => h.elim (·.1) (·.1.1)) fun r s hr => ?_
    refine ⟨hr.1.elim (·.1) (·.1.1), fun ht => ?_⟩
    obtain ⟨⟨-, hcleared, hbinding⟩, hfile⟩ := hr.2 ht
    exact ⟨hcleared, hbinding, hfile⟩
  refine ⟨hs, fun r s' hstep => ?_⟩
  rcases hstep with rfl | ⟨rfl, rfl⟩
  · cases r with
    | false => exact ⟨hs, by simp⟩
    | true => exact hwrite _ ⟨hs, hc, rfl⟩
  · exact ⟨hs, by simp⟩

theorem along_unfinished {α : Type} {Q : α → Device → Prop} {p : Maint α} {s : Device}
    (h : Holds Unfinished Q p s) : Holds (Along request d) Q p s :=
  h.mono (fun _ _ hu => .inr (.inl hu)) fun _ _ hq => hq

theorem rebind_holds (ha : request.action = "rebind") :
    Holds (Along request d) (fun r s => Along request d s ∧ ∀ b, r = .ok b → Done request s)
      (rebind request) d := by
  unfold rebind
  cases hv : rebindValues request with
  | none => exact ⟨.inl (Untouched.refl d), fun b hb => by cases hb⟩
  | some values =>
    refine holds_bind (seize_holds (Untouched.refl d)) fun r s hr => ?_
    cases r with
    | false => exact ⟨hr.1, fun b hb => by cases hb⟩
    | true =>
      refine holds_bind (along_unfinished (clear_holds (hr.2 rfl))) fun r s hr => ?_
      cases r with
      | false => exact abandon_holds hr.1
      | true =>
        refine holds_bind (along_unfinished (updateBinding_holds hr.1 (hr.2 rfl))) fun r s hr => ?_
        cases r with
        | false => exact abandon_holds hr.1
        | true =>
          obtain ⟨hcleared, hbinding, hfile⟩ := hr.2 rfl
          rw [← ha]
          exact conclude_holds hr.1 ⟨hcleared, .inl ⟨ha, values, hv, hbinding, hfile⟩⟩

theorem reset_holds (ha : request.action = "reset") :
    Holds (Along request d) (fun r s => Along request d s ∧ ∀ b, r = .ok b → Done request s)
      (reset request) d := by
  unfold reset
  split
  · exact ⟨.inl (Untouched.refl d), fun b hb => by cases hb⟩
  refine holds_bind (seize_holds (Untouched.refl d)) fun r s hr => ?_
  cases r with
  | false => exact ⟨hr.1, fun b hb => by cases hb⟩
  | true =>
    refine holds_bind (along_unfinished (clear_holds (hr.2 rfl))) fun r s hr => ?_
    cases r with
    | false => exact abandon_holds hr.1
    | true =>
      have hremove := removeOwned_holds (P := fun s => Unfinished s ∧ Cleared s)
        credentialPath ⟨hr.1, hr.2 rfl⟩
        fun s h => ⟨h.1.set (by decide) none, h.2.set (.inr (by decide))⟩
      refine holds_bind (along_unfinished (hremove.mono (fun _ _ h => h.1) fun _ _ h => h))
        fun r s hr => ?_
      cases r with
      | false => exact abandon_holds hr.1.1
      | true =>
        refine ⟨.inr (.inl hr.1.1), fun r s' hstep => ?_⟩
        have hkept : Unfinished s' ∧ Cleared s' ∧ s'.file credentialPath = none := by
          rcases hstep with rfl | ⟨-, rfl⟩
          · exact ⟨hr.1.1, hr.1.2, hr.2 rfl⟩
          · exact ⟨hr.1.1, hr.1.2, hr.2 rfl⟩
        cases r with
        | false => exact abandon_holds hkept.1
        | true =>
          have hfinished : Finished request s' := ⟨hkept.2.1, .inr ⟨ha, hkept.2.2⟩⟩
          have hlast := conclude_holds (d := d) (b := false) hkept.1 hfinished
          rw [ha] at hlast
          exact hlast

/-! The whole procedure. -/

theorem look_bind {α β : Type} {I : Device → Prop} {p : Maint α} {f : α → Maint β}
    {R : β → Device → Prop} {s : Device} (h : Holds (fun s' => s' = s) (fun _ s' => s' = s) p s)
    (hs : I s) (hf : ∀ a, Holds I R (f a) s) : Holds I R (p >>= f) s := by
  refine holds_bind (Q := fun _ s' => s' = s) (h.mono ?_ fun _ _ h => h) fun a s' he => ?_
  · rintro _ s' rfl
    exact hs
  · subst he
    exact hf a

theorem look {c : MaintCall} {s : Device} (h : ∀ r s', MaintStep c s r s' → s' = s) :
    Holds (fun s' => s' = s) (fun _ s' => s' = s) (ask c) s :=
  ⟨rfl, h⟩

theorem safeConfig_look (s : Device) :
    Holds (fun s' => s' = s) (fun _ s' => s' = s) safeConfig s := by
  refine look_bind (look fun r s' h => h.1) rfl fun config => ?_
  cases config with
  | none => exact rfl
  | some config =>
    refine look_bind (look fun r s' h => h) rfl fun r => ?_
    cases r with
    | false => exact rfl
    | true =>
      refine look_bind (look fun r s' h => h) rfl fun r => ?_
      cases r with
      | false => exact rfl
      | true => exact rfl

theorem perform_holds {I : Device → Prop} {R : MaintResult → Device → Prop} (hI : I d)
    (hfail : ∀ code, R (.fail code) d)
    (h : ∀ config lock, (lock = .absent → lockOf d = none) → (lock = .present → (lockOf d).isSome) →
      Holds I R (performLocked request config lock) d) :
    Holds I R (perform request) d := by
  unfold perform
  split
  · exact hfail _
  refine look_bind (safeConfig_look d) hI fun config => ?_
  cases config with
  | none => exact hfail _
  | some config =>
    refine look_bind (look fun r s' h => h) hI fun r => ?_
    cases r with
    | false => exact hfail _
    | true =>
      refine look_bind (look fun r s' h => h.1) hI fun r => ?_
      cases r with
      | error => exact hfail _
      | present => exact hfail _
      | absent =>
        refine ⟨hI, fun lock s' hstep => ?_⟩
        obtain ⟨rfl, habsent, hpresent⟩ := hstep
        exact h config lock habsent hpresent

theorem perform_along (ha : request.action = "rebind" ∨ request.action = "reset") :
    Holds (Along request d) (fun r s => Along request d s ∧ ∀ b, r = .ok b → Done request s)
      (perform request) d := by
  have hstart : Along request d d := .inl (Untouched.refl d)
  have hnot : request.action ≠ "rotate" := by
    rcases ha with ha | ha
    · rw [ha]
      decide
    · rw [ha]
      decide
  refine perform_holds hstart (fun code => ⟨hstart, fun b hb => by cases hb⟩)
    fun config lock _ _ => ?_
  unfold performLocked
  split
  · exact ⟨hstart, fun b hb => by cases hb⟩
  refine look_bind (look fun r s' h => h) hstart fun r => ?_
  cases r with
  | false => exact ⟨hstart, fun b hb => by cases hb⟩
  | true =>
    rcases ha with ha | ha
    · show Holds _ _ (if request.action = "rebind" then rebind request else reset request) d
      rw [if_pos ha]
      exact rebind_holds ha
    · show Holds _ _ (if request.action = "rebind" then rebind request else reset request) d
      rw [if_neg (by rw [ha]; decide)]
      exact reset_holds ha

theorem rotate_refused (ha : request.action = "rotate") (hl : lockOf d ≠ none) :
    Holds (fun s => s = d) (fun r s => s = d ∧ ∀ b, r ≠ .ok b) (perform request) d := by
  refine perform_holds rfl (fun code => ⟨rfl, nofun⟩) fun config lock habsent _ => ?_
  unfold performLocked
  cases lock with
  | error => exact ⟨rfl, nofun⟩
  | present =>
    rw [if_neg (by decide), if_pos ha, if_pos rfl]
    exact ⟨rfl, nofun⟩
  | absent => exact absurd (habsent rfl) hl

/-! The other programs. -/

/-- The journal and runtime files are those of the current identity, and without a journal there
are none. -/
structure Owned (d : Device) : Prop where
  owner : ∀ path ∈ stateFiles, ∀ c, d.file path = some c → ∃ data, c = .state d.binding data
  journal : d.file journalPath = none → ∀ path ∈ stateFiles, d.file path = none

/-- No lock, and nothing of another identity. -/
structure Free (d : Device) : Prop where
  lock : lockOf d = none
  owned : Owned d

structure Sound (d : Device) : Prop where
  ready : ∀ action, lockOf d = some (.gate action "ready") →
    ∃ request, request.action = action ∧ Finished request d
  owned : lockOf d = none → Owned d

theorem Free.sound (h : Free d) : Sound d :=
  ⟨fun _ hl => absurd (h.lock.symm.trans hl) nofun, fun _ => h.owned⟩

theorem Unfinished.sound (h : Unfinished d) : Sound d := by
  obtain ⟨action, phase, hlock, hphase⟩ := h
  refine ⟨fun other hl => ?_, fun hl => ?_⟩
  · rw [hlock] at hl
    cases hl
    exact absurd rfl hphase
  · rw [hlock] at hl
    cases hl

theorem Done.sound (h : Done request d) : Sound d := by
  refine ⟨fun action hl => ?_, fun hl => ?_⟩
  · rw [h.1] at hl
    cases hl
    exact ⟨request, rfl, h.2⟩
  · rw [h.1] at hl
    cases hl

theorem Owned.of_eq {s : Device} (h : Owned d) (hf : ∀ path ∈ stateFiles, s.file path = d.file path)
    (hb : s.binding = d.binding) : Owned s := by
  refine ⟨fun path hp c hc => ?_, fun hj path hp => ?_⟩
  · rw [hb]
    exact h.owner path hp c ((hf path hp).symm.trans hc)
  · rw [hf path hp]
    exact h.journal ((hf journalPath List.mem_cons_self).symm.trans hj) path hp

theorem Owned.remove (h : Owned d) {path : String} (hj : path ≠ journalPath) :
    Owned (d.set path none) := by
  refine ⟨fun other hother c hc => ?_, fun hnone other hother => ?_⟩
  · by_cases he : other = path
    · rw [he, set_file] at hc
      cases hc
    · rw [set_file_ne he] at hc
      exact h.owner other hother c hc
  · rw [set_file_ne hj.symm] at hnone
    exact removed_set (h.journal hnone other hother)

theorem Sound.tunnelsDown {s : Device} (h : Sound d) (hd : TunnelsDown d s) : Sound s := by
  induction hd with
  | refl => exact h
  | @tail s _ _ hstep ih =>
    obtain ⟨path, hp, rfl⟩ := hstep
    obtain ⟨hstate, hj⟩ := ownedFiles_state path hp
    obtain ⟨hne, hcredential, -⟩ := stateFiles_ne path hstate
    have hlock : lockOf (s.set path none) = lockOf s := set_file_ne hne.symm
    refine ⟨fun action hl => ?_, fun hl => (ih.owned (hlock ▸ hl)).remove hj⟩
    obtain ⟨request, ha, hcleared, hrest⟩ := ih.ready action (hlock ▸ hl)
    refine ⟨request, ha, fun other hother hdiffer => removed_set (hcleared other hother hdiffer), ?_⟩
    rw [set_file_ne hcredential.symm]
    exact hrest

theorem Free.set (h : Free d) {path : String} (hl : path ≠ lockPath) (hp : path ∉ stateFiles)
    (c : Option FileContent) : Free (d.set path c) := by
  refine ⟨(set_file_ne hl.symm).trans h.lock, h.owned.of_eq (fun other hother => ?_) rfl⟩
  refine set_file_ne ?_
  rintro rfl
  exact hp hother

theorem Free.change (h : Free d) {c : ConfigChange}
    (hc : c.binding = none ∨ d.file journalPath = none) : Free (d.change c) := by
  refine ⟨h.lock, ?_⟩
  rcases hc with hc | hc
  · exact h.owned.of_eq (fun _ _ => rfl) (by rw [Device.change, hc]; rfl)
  · have hnone := h.owned.journal hc
    refine ⟨fun path hp c' hc' => ?_, fun _ => hnone⟩
    rw [show (d.change c).file path = none from hnone path hp] at hc'
    cases hc'

theorem Finished.free (h : Finished request d) : Free (d.set lockPath none) := by
  have hnone : ∀ path ∈ stateFiles, (d.set lockPath none).file path = none := by
    intro path hp
    rw [set_file_ne (stateFiles_ne path hp).1]
    refine h.1 path ?_ (stateFiles_ne path hp).2.2.2
    exact List.mem_append_left _ (List.mem_flatMap.mpr ⟨path, hp, List.mem_cons_self⟩)
  refine ⟨set_file _ _ _, fun path hp c hc => ?_, fun _ => hnone⟩
  rw [hnone path hp] at hc
  cases hc

theorem Free.credential (h : Free d) (c : FileContent) :
    Holds Free (fun _ s => Free s) (atomic credentialPath c) d := by
  have hatomic : Holds (fun s => Free s ∨ Free s) (fun r s => (Free s ∨ Free s) ∧ (r = true → Free s))
      (atomic credentialPath c) d :=
    atomic_holds h (fun s x hs => hs.set (by decide) (by decide) x)
      (fun s hs => hs.set (by decide) (by decide) _)
  exact hatomic.mono (fun _ _ h => h.elim id id) fun _ _ h => h.1.elim id id

theorem rotate_sound (ha : request.action = "rotate") (h : Sound d) :
    Holds Sound (fun _ s => Sound s) (perform request) d := by
  refine perform_holds h (fun code => h) fun config lock habsent _ => ?_
  unfold performLocked
  cases lock with
  | error => exact h
  | present =>
    rw [if_neg (by decide), if_pos ha, if_pos rfl]
    exact h
  | absent =>
    rw [if_neg (by decide), if_pos ha, if_neg (by decide)]
    have hfree : Free d := ⟨habsent rfl, h.owned (habsent rfl)⟩
    have hrun : Holds Free (fun _ s => Free s) (rotate request config) d := by
      unfold rotate
      cases request.credential.filter validCredential with
      | none => exact hfree
      | some credential =>
        dsimp only
        split
        · exact hfree
        refine holds_bind (hfree.credential _) fun r s hs => ?_
        cases r with
        | false => exact hs
        | true =>
          refine ⟨hs, fun r s' hstep => ?_⟩
          obtain rfl : s' = s := hstep
          cases r with
          | false => exact hs
          | true => exact hs
    exact hrun.mono (fun _ _ h => h.sound) fun _ _ h => h.sound

theorem along_sound {s : Device} (hd : Sound d) (h : Along request d s) : Sound s := by
  rcases h with h | h | h
  · have hlock : lockOf s = lockOf d := h.file lockPath (by decide)
    refine ⟨fun action hl => ?_, fun hl => ?_⟩
    · obtain ⟨other, ha, hcleared, hrest⟩ := hd.ready action (hlock.symm.trans hl)
      refine ⟨other, ha, fun path hp hne => ?_, ?_⟩
      · rw [h.file path (clearedFiles_ne path hp).2.1]
        exact hcleared path hp hne
      · rw [h.file credentialPath (by decide), h.binding]
        exact hrest
    · exact (hd.owned (hlock.symm.trans hl)).of_eq
        (fun path hp => h.file path (stateFiles_ne path hp).2.2.1) h.binding
  · exact h.sound
  · exact h.sound

/-! Setup. -/

theorem gateOf_ready {maintenance : Bool} {c : Option FileContent}
    (h : gateOf maintenance c = .ready) : ∃ action, c = some (.gate action "ready") := by
  unfold gateOf at h
  split at h
  · rename_i action phase
    split at h
    · cases h
    · rename_i hphase
      exact ⟨action, by rw [not_not.mp hphase]⟩
  · cases h

theorem gateOf_ne_absent (maintenance : Bool) (c : Option FileContent) :
    gateOf maintenance c ≠ .absent := by
  unfold gateOf
  split
  · split
    · nofun
    · split <;> nofun
  · nofun

theorem readyGate_look (path : String) (maintenance : Bool) (s : Device) :
    Holds (fun s' => s' = s) (fun r s' => s' = s ∧ (r = .absent → s.file path = none) ∧
      (r = .ready → ∃ action, s.file path = some (.gate action "ready")))
      (readyGate path maintenance) s := by
  refine ⟨rfl, fun r s' hstep => ?_⟩
  obtain ⟨rfl, habsent, -⟩ := hstep
  cases r with
  | absent => exact ⟨rfl, fun _ => habsent rfl, nofun⟩
  | error => exact ⟨rfl, nofun, nofun⟩
  | present =>
    refine ⟨rfl, fun r s' hstep => ?_⟩
    obtain ⟨rfl, hr⟩ := hstep
    refine ⟨rfl, fun h => absurd h (gateOf_ne_absent _ _), fun h => ?_⟩
    obtain ⟨action, rfl⟩ := gateOf_ready h
    exact ⟨action, (hr.resolve_right nofun).symm⟩

/-- What the look at both locks finds. -/
def GatesSeen (s : Device) (r : Option (Gate × Gate)) : Prop :=
  ∀ maintenance update, r = some (maintenance, update) →
    (maintenance = .absent ∧ lockOf s = none ∨
      maintenance = .ready ∧ ∃ action, lockOf s = some (.gate action "ready"))

theorem gates_look (s : Device) :
    Holds (fun s' => s' = s) (fun r s' => s' = s ∧ GatesSeen s r) gates s := by
  refine holds_bind (readyGate_look lockPath true s) fun maintenance s' hm => ?_
  obtain ⟨rfl, habsent, hready⟩ := hm
  refine holds_bind (readyGate_look updatePath false s') fun update s'' hu => ?_
  obtain ⟨rfl, -, -⟩ := hu
  split
  · exact ⟨rfl, nofun⟩
  · rename_i hvalid
    refine ⟨rfl, fun m u he => ?_⟩
    obtain ⟨rfl, rfl⟩ := Prod.mk.inj (Option.some.inj he)
    cases maintenance with
    | absent => exact .inl ⟨rfl, habsent rfl⟩
    | ready => exact .inr ⟨rfl, hready rfl⟩
    | invalid => exact absurd rfl hvalid

theorem GatesSeen.unfinished {s : Device} {r : Option (Gate × Gate)} (h : GatesSeen s r)
    (hu : Unfinished s) : r = none := by
  obtain ⟨action, phase, hlock, hphase⟩ := hu
  match r, h with
  | none, _ => rfl
  | some (maintenance, update), h =>
    rcases h maintenance update rfl with ⟨-, hnone⟩ | ⟨-, other, hready⟩
    · rw [hlock] at hnone
      cases hnone
    · rw [hlock] at hready
      cases hready
      exact absurd rfl hphase

theorem firstRun_look (config : DeviceConfig) (identityMatches : Bool) (s : Device) :
    Holds (fun s' => s' = s) (fun r s' => s' = s ∧ ∀ retry, r = .ok retry →
      s.file journalPath = none) (firstRun config identityMatches) s := by
  refine look_bind (look fun r s' h => h) rfl fun clean => ?_
  refine holds_bind (Q := fun r s' => s' = s ∧ (r = .absent → s.file journalPath = none))
    ⟨rfl, fun r s' hstep => ⟨hstep.1, hstep.2.1⟩⟩ fun journal s' hj => ?_
  obtain ⟨rfl, habsent⟩ := hj
  refine look_bind (look (c := .stat credentialPath) fun r s' h => h.1) rfl fun secret => ?_
  refine look_bind (look fun r s' h => h) rfl fun facts => ?_
  refine ⟨rfl, fun retry hr => ?_⟩
  cases journal with
  | absent => exact habsent rfl
  | present => simp [firstRunAllowed] at hr
  | error => simp [firstRunAllowed] at hr

theorem configureBinding_free (h : Free d) (binding : Binding) (credential : String) :
    Holds Free (fun _ s => Free s) (configureBinding binding credential) d := by
  refine look_bind (look fun r s' h => h.1) h fun config => ?_
  cases config with
  | none => exact h
  | some config =>
    refine look_bind (look fun r s' h => h) h fun wifi => ?_
    cases wifi with
    | some code => exact h
    | none =>
      refine look_bind (look fun r s' h => h) h fun paths => ?_
      cases paths with
      | false => exact h
      | true =>
        refine holds_bind ((firstRun_look config _ d).mono (fun _ s he => he ▸ h) fun _ _ h => h)
          fun r s hr => ?_
        obtain ⟨rfl, hjournal⟩ := hr
        cases r with
        | error code => exact h
        | ok retry =>
          refine look_bind (look fun r s' h => h) h fun directory => ?_
          cases directory with
          | false => exact h
          | true =>
            refine holds_bind (Q := fun _ s => Free s) ⟨h, fun r s' hstep => ?_⟩ fun r s' hs' => ?_
            · rcases hstep with rfl | ⟨-, rfl⟩
              · exact h.change (.inr (hjournal retry rfl))
              · exact h
            cases r with
            | false => exact hs'
            | true =>
              refine holds_bind (hs'.credential _) fun r s'' hr => ?_
              cases r with
              | false => exact hr
              | true => exact hr

theorem activateBinding_free (h : Free d) : Holds Free (fun _ s => Free s) activateBinding d := by
  refine look_bind (look fun r s' h => h.1) h fun config => ?_
  cases config with
  | none => exact h
  | some config =>
    refine look_bind (look fun r s' h => h) h fun paths => ?_
    cases paths with
    | false => exact h
    | true =>
      refine holds_bind ((firstRun_look config true d).mono (fun _ s he => he ▸ h) fun _ _ h => h)
        fun r s hr => ?_
      obtain ⟨rfl, -⟩ := hr
      match r with
      | .error code => exact h
      | .ok false => exact h
      | .ok true =>
        refine look_bind (look fun r s' h => h.1) h fun secret => ?_
        cases bindingValid config secret with
        | false => exact h
        | true =>
          refine ⟨h, fun r s' hstep => ?_⟩
          have hs' : Free s' := by
            rcases hstep with rfl | ⟨-, rfl⟩
            · exact h.change (.inl rfl)
            · exact h
          cases r with
          | false => exact hs'
          | true => exact hs'

theorem gated_sound {p : Gate → Gate → Maint MaintResult} {q : Maint MaintResult} (hd : Sound d)
    (hq : q = (do
      match ← gates with
      | none => return .fail "maintenance_gate_invalid"
      | some (maintenance, update) => p maintenance update))
    (hp : ∀ maintenance update, (maintenance = .absent ∧ lockOf d = none ∨
      maintenance = .ready ∧ ∃ action, lockOf d = some (.gate action "ready")) →
      Holds Sound (fun _ s => Sound s) (p maintenance update) d) :
    Holds Sound (fun _ s => Sound s) q d := by
  subst hq
  refine holds_bind ((gates_look d).mono (fun _ s he => he ▸ hd) fun _ _ h => h) fun r s hr => ?_
  obtain ⟨rfl, hseen⟩ := hr
  match r, hseen with
  | none, _ => exact hd
  | some (maintenance, update), hseen => exact hp maintenance update (hseen _ _ rfl)

theorem gated_refused {p : Gate → Gate → Maint MaintResult} {q : Maint MaintResult}
    (hu : Unfinished d)
    (hq : q = (do
      match ← gates with
      | none => return .fail "maintenance_gate_invalid"
      | some (maintenance, update) => p maintenance update)) :
    Holds (fun s => s = d) (fun r s => s = d ∧ r = .fail "maintenance_gate_invalid") q d := by
  subst hq
  refine holds_bind (gates_look d) fun r s hr => ?_
  obtain ⟨rfl, hseen⟩ := hr
  obtain rfl := hseen.unfinished hu
  exact ⟨rfl, rfl⟩

theorem Holds.sound {α : Type} {p : Maint α} {s : Device} (h : Holds Free (fun _ s => Free s) p s) :
    Holds Sound (fun _ s => Sound s) p s :=
  h.mono (fun _ _ h => h.sound) fun _ _ h => h.sound

theorem configure_sound (hd : Sound d) (binding : Binding) (credential : String) :
    Holds Sound (fun _ s => Sound s) (configure binding credential) d := by
  refine gated_sound hd rfl fun maintenance update hseen => ?_
  split
  · exact hd
  · rename_i hnone
    have hm : maintenance = .absent := by
      by_contra hne
      exact hnone (by simp [hne])
    have hlock : lockOf d = none := by
      rcases hseen with ⟨-, hl⟩ | ⟨hr, -⟩
      · exact hl
      · rw [hm] at hr
        cases hr
    exact (configureBinding_free ⟨hlock, hd.owned hlock⟩ binding credential).sound

theorem activate_sound (hd : Sound d) : Holds Sound (fun _ s => Sound s) activate d := by
  refine gated_sound hd rfl fun maintenance update hseen => ?_
  split
  · exact hd
  · rename_i hnone
    have hm : maintenance = .absent := by
      by_contra hne
      exact hnone (by simp [hne])
    have hlock : lockOf d = none := by
      rcases hseen with ⟨-, hl⟩ | ⟨hr, -⟩
      · exact hl
      · rw [hm] at hr
        cases hr
    refine look_bind (look fun r s' h => h) hd fun r => ?_
    cases r with
    | false => exact hd
    | true => exact (activateBinding_free ⟨hlock, hd.owned hlock⟩).sound

theorem Sound.change (h : Sound d) {c : ConfigChange} (hc : c.binding = none) :
    Sound (d.change c) := by
  have hb : (d.change c).binding = d.binding := by
    rw [Device.change, hc]
    rfl
  refine ⟨fun action hl => ?_, fun hl => (h.owned hl).of_eq (fun _ _ => rfl) hb⟩
  obtain ⟨request, ha, hcleared, hrest⟩ := h.ready action hl
  exact ⟨request, ha, hcleared, by rw [hb]; exact hrest⟩

theorem Sound.unlinkUpdate (h : Sound d) : Sound (d.set updatePath none) := by
  have hlock : lockOf (d.set updatePath none) = lockOf d := set_file_ne (by decide)
  refine ⟨fun action hl => ?_, fun hl => ?_⟩
  · obtain ⟨request, ha, hf⟩ := h.ready action (hlock.symm.trans hl)
    exact ⟨request, ha, hf.set (by decide) (by decide)⟩
  · refine (h.owned (hlock.symm.trans hl)).of_eq (fun path hp => set_file_ne ?_) rfl
    rintro rfl
    exact absurd hp (by decide)

theorem commit_sound (hd : Sound d) {c : ConfigChange} (hc : c.binding = none) :
    Holds Sound (fun _ s => Sound s ∧ lockOf s = lockOf d) (ask (.commit c)) d := by
  refine ⟨hd, fun r s hstep => ?_⟩
  rcases hstep with rfl | ⟨-, rfl⟩
  · exact ⟨hd.change hc, rfl⟩
  · exact ⟨hd, rfl⟩

theorem clearUpdate_sound (hd : Sound d) (update : Gate) :
    Holds Sound (fun _ s => Sound s) (clearGate updatePath update) d := by
  unfold clearGate
  split
  · exact hd
  · refine ⟨hd, fun r s hstep => ?_⟩
    rcases hstep with ⟨-, rfl⟩ | ⟨-, rfl⟩
    · exact hd.unlinkUpdate
    · exact hd

theorem clearGates_sound (hd : Sound d) {maintenance : Gate} (update : Gate)
    (hm : maintenance = .absent ∨ ∃ action, lockOf d = some (.gate action "ready")) :
    Holds Sound (fun _ s => Sound s) (clearGates maintenance update) d := by
  refine holds_bind (Q := fun _ s => Sound s) ?_ fun r s hs => ?_
  · unfold clearGate
    split
    · exact hd
    · rename_i hne
      obtain ⟨action, hlock⟩ := hm.resolve_left hne
      obtain ⟨request, -, hf⟩ := hd.ready action hlock
      refine ⟨hd, fun r s hstep => ?_⟩
      rcases hstep with ⟨-, rfl⟩ | ⟨-, rfl⟩
      · exact hf.free.sound
      · exact hd
  · cases r with
    | false => exact hs
    | true => exact clearUpdate_sound hs update

theorem resumeBound_sound (hd : Sound d) {maintenance : Gate} (update : Gate)
    (hm : maintenance = .absent ∨ ∃ action, lockOf d = some (.gate action "ready")) :
    Holds Sound (fun _ s => Sound s) (resumeBound maintenance update) d := by
  refine holds_bind (commit_sound hd rfl) fun r s hs => ?_
  obtain ⟨hs, hlock⟩ := hs
  cases r with
  | false => exact hs
  | true =>
    refine holds_bind (clearGates_sound hs update (hlock ▸ hm)) fun r s hs => ?_
    cases r with
    | true => exact hs
    | false => exact holds_bind (commit_sound hs rfl) fun r s hs => hs.1

theorem resumeUnbound_sound (hd : Sound d) :
    Holds Sound (fun _ s => Sound s) resumeUnbound d := by
  refine holds_bind (commit_sound hd rfl) fun r s hs => ?_
  cases r with
  | false => exact hs.1
  | true =>
    refine holds_bind (Q := fun _ s => Sound s) ⟨hs.1, fun r s' hstep => ?_⟩ fun r s hs => ?_
    · rcases hstep with ⟨-, rfl⟩ | ⟨-, rfl⟩
      · exact hs.1.unlinkUpdate
      · exact hs.1
    · cases r with
      | false => exact hs
      | true => exact hs

theorem resume_sound (hd : Sound d) : Holds Sound (fun _ s => Sound s) resume d := by
  refine gated_sound hd rfl fun maintenance update hseen => ?_
  have hm : maintenance = .absent ∨ ∃ action, lockOf d = some (.gate action "ready") :=
    hseen.imp And.left And.right
  split
  · exact hd
  refine look_bind (look fun r s' h => h) hd fun r => ?_
  cases r with
  | false => exact hd
  | true =>
    refine look_bind (look fun r s' h => h.1) hd fun config => ?_
    cases config with
    | none => exact hd
    | some config =>
      refine look_bind (look fun r s' h => h) hd fun r => ?_
      cases r with
      | false => exact hd
      | true =>
        refine look_bind (look fun r s' h => h) hd fun r => ?_
        cases r with
        | false => exact hd
        | true =>
          refine look_bind (look fun r s' h => h.1) hd fun secret => ?_
          dsimp only
          split
          · exact resumeUnbound_sound hd
          · split
            · exact hd
            · exact resumeBound_sound hd update hm

/-! The controller. -/

theorem controllerWrite_free {s : Device} (h : Free d) (hw : ControllerWrite d s) :
    Free s ∧ s.binding = d.binding := by
  cases hw with
  | @write path data hp hj =>
    have hne := stateFiles_ne path hp
    refine ⟨⟨(set_file_ne hne.1.symm).trans h.lock, fun other hother c hc => ?_,
      fun hnone => ?_⟩, rfl⟩
    · by_cases he : other = path
      · rw [he, set_file] at hc
        exact ⟨data, (Option.some.inj hc).symm⟩
      · rw [set_file_ne he] at hc
        exact h.owned.owner other hother c hc
    · by_cases he : journalPath = path
      · rw [he, set_file] at hnone
        cases hnone
      · rw [set_file_ne he] at hnone
        rcases hj with hj | hj
        · exact absurd hj.symm he
        · rw [hnone] at hj
          cases hj
  | @scratch path c hp =>
    have hne := temporary_ne_lock path (List.mem_cons_of_mem _ (List.mem_cons_of_mem _ hp))
    exact ⟨h.set hne.1 hne.2.2 c, rfl⟩
  | @remove path hp hj =>
    exact ⟨⟨(set_file_ne (stateFiles_ne path hp).1.symm).trans h.lock, h.owned.remove hj⟩, rfl⟩

theorem work_free {s : Device} (h : Free d) (hw : Relation.ReflTransGen ControllerWrite d s) :
    Free s := by
  induction hw with
  | refl => exact h
  | tail _ hw ih => exact (controllerWrite_free ih hw).1

theorem blocked_look (s : Device) : Holds (fun s' => s' = s)
    (fun r s' => s' = s ∧ (r = false → lockOf s = none)) (blocked [lockPath, updatePath]) s := by
  refine ⟨rfl, fun r s' hstep => ?_⟩
  obtain ⟨rfl, habsent, -⟩ := hstep
  cases r with
  | error => exact ⟨rfl, nofun⟩
  | present => exact ⟨rfl, nofun⟩
  | absent =>
    refine ⟨rfl, fun r s hstep => ?_⟩
    obtain ⟨rfl, -⟩ := hstep
    cases r with
    | error => exact ⟨rfl, nofun⟩
    | present => exact ⟨rfl, nofun⟩
    | absent => exact ⟨rfl, fun _ => habsent rfl⟩

theorem controller_sound (hd : Sound d) (command : String) :
    Holds Sound (fun _ s => Sound s) (controller command) d := by
  refine holds_bind ((blocked_look d).mono (fun _ s he => he ▸ hd) fun _ _ h => h) fun r s hr => ?_
  obtain ⟨rfl, hlock⟩ := hr
  cases r with
  | true =>
    by_cases hc : command = "stop"
    · subst hc
      refine ⟨hd, fun r s' hstep => ?_⟩
      exact hd.tunnelsDown hstep
    · show Holds _ _ (if command = "stop" then _ else _) s
      rw [if_neg hc]
      exact hd
  | false =>
    refine ⟨hd, fun r s' hstep => ?_⟩
    exact (work_free ⟨hlock rfl, hd.owned (hlock rfl)⟩ hstep).sound

/-- What a controller does that a lock stops: nothing but to take the tunnels down for a stop. -/
def Stopped (command : String) (d s : Device) : Prop :=
  TunnelsDown d s ∧ (command ≠ "stop" → s = d)

theorem Stopped.refl (command : String) (d : Device) : Stopped command d d := ⟨.refl, fun _ => rfl⟩

theorem controller_refused (hl : lockOf d ≠ none) (command : String) :
    Holds (Stopped command d) (fun r s => Stopped command d s ∧ r ≠ .worked)
      (controller command) d := by
  refine holds_bind ((blocked_look d).mono (fun _ s he => he ▸ .refl command d) fun _ _ h => h)
    fun r s hr => ?_
  obtain ⟨rfl, hlock⟩ := hr
  cases r with
  | true =>
    by_cases hc : command = "stop"
    · subst hc
      refine ⟨.refl "stop" s, fun r s' hstep => ?_⟩
      exact ⟨⟨hstep, fun h => absurd rfl h⟩, nofun⟩
    · show Holds _ _ (if command = "stop" then _ else _) s
      rw [if_neg hc]
      exact ⟨.refl command s, nofun⟩
  | false => exact absurd (hlock rfl) hl

/-! Runs one after another. -/

/-- A run of one of the programs, which may be cut off; the controllers' lock keeps them apart. -/
inductive Session (d d' : Device) : Prop
  | maintain (request : MaintenanceRequest) {tr : List (Event MaintCall MaintCall.Answer)}
    {o : Option MaintResult} (h : Exec MaintStep (perform request) d tr d' o)
  | configure (binding : Binding) (credential : String)
    {tr : List (Event MaintCall MaintCall.Answer)} {o : Option MaintResult}
    (h : Exec MaintStep (Maintenance.configure binding credential) d tr d' o)
  | activate {tr : List (Event MaintCall MaintCall.Answer)} {o : Option MaintResult}
    (h : Exec MaintStep Maintenance.activate d tr d' o)
  | resume {tr : List (Event MaintCall MaintCall.Answer)} {o : Option MaintResult}
    (h : Exec MaintStep Maintenance.resume d tr d' o)
  | control (command : String) {tr : List (Event MaintCall MaintCall.Answer)}
    {o : Option MaintResult} (h : Exec MaintStep (controller command) d tr d' o)

theorem perform_other (hr : request.action ≠ "rotate") (hb : request.action ≠ "rebind")
    (hs : request.action ≠ "reset") : perform request = .done (.fail "maintenance_request_invalid") := by
  unfold perform
  rw [if_pos (by simp [hr, hb, hs])]
  rfl

theorem action_cases (request : MaintenanceRequest) : request.action = "rotate" ∨
    (request.action = "rebind" ∨ request.action = "reset") ∨
      perform request = .done (.fail "maintenance_request_invalid") := by
  by_cases hr : request.action = "rotate"
  · exact .inl hr
  by_cases hb : request.action = "rebind"
  · exact .inr (.inl (.inl hb))
  by_cases hs : request.action = "reset"
  · exact .inr (.inl (.inr hs))
  exact .inr (.inr (perform_other hr hb hs))

theorem along_of_exec {d' : Device} {tr : List (Event MaintCall MaintCall.Answer)}
    {o : Option MaintResult} (ha : request.action = "rebind" ∨ request.action = "reset")
    (h : Exec MaintStep (perform request) d tr d' o) : Along request d d' :=
  ((perform_along ha).post fun _ _ hr => hr.1).invariant h

theorem perform_sound (hd : Sound d) (request : MaintenanceRequest) :
    Holds Sound (fun _ s => Sound s) (perform request) d := by
  rcases action_cases request with ha | ha | ha
  · exact rotate_sound ha hd
  · exact (perform_along ha).mono (fun _ _ h => along_sound hd h) fun _ _ h => along_sound hd h.1
  · rw [ha]
    exact hd

theorem Session.sound {d' : Device} (hd : Sound d) (h : Session d d') : Sound d' := by
  cases h with
  | maintain request h => exact (perform_sound hd request).invariant h
  | configure binding credential h => exact (configure_sound hd binding credential).invariant h
  | activate h => exact (activate_sound hd).invariant h
  | resume h => exact (resume_sound hd).invariant h
  | control command h => exact (controller_sound hd command).invariant h

theorem unchanged_of_exec {d' : Device} {p : Maint MaintResult} {Q : MaintResult → Prop}
    {tr : List (Event MaintCall MaintCall.Answer)} {o : Option MaintResult}
    (hp : Holds (fun s => s = d) (fun r s => s = d ∧ Q r) p d) (h : Exec MaintStep p d tr d' o) :
    d' = d ∧ ∀ r, o = some r → Q r := by
  refine ⟨(hp.post fun _ _ hr => hr.1).invariant h, ?_⟩
  rintro r rfl
  exact (hp.result h).2

theorem Session.unfinished {d' : Device} (hu : Unfinished d) (h : Session d d') :
    Unfinished d' ∨ ∃ request, Done request d' := by
  have hlock : lockOf d ≠ none := by
    obtain ⟨action, phase, hl, -⟩ := hu
    rw [hl]
    nofun
  cases h with
  | maintain request h =>
    rcases action_cases request with ha | ha | ha
    · rw [(unchanged_of_exec (rotate_refused ha hlock) h).1]
      exact .inl hu
    · rcases along_of_exec ha h with hd | hd | hd
      · obtain ⟨action, phase, hl, hphase⟩ := hu
        exact .inl ⟨action, phase, (hd.file lockPath (by decide)).trans hl, hphase⟩
      · exact .inl hd
      · exact .inr ⟨request, hd⟩
    · rw [ha] at h
      cases h with
      | stop => exact .inl hu
      | done => exact .inl hu
  | configure binding credential h =>
    rw [(unchanged_of_exec (gated_refused hu rfl) h).1]
    exact .inl hu
  | activate h =>
    rw [(unchanged_of_exec (gated_refused hu rfl) h).1]
    exact .inl hu
  | resume h =>
    rw [(unchanged_of_exec (gated_refused hu rfl) h).1]
    exact .inl hu
  | control command h =>
    have hstopped : Stopped command d d' :=
      ((controller_refused hlock command).post fun _ _ hr => hr.1).invariant h
    exact .inl (hu.tunnelsDown hstopped.1)

/-- Runs of maintenance, setup and controllers, each of which may be cut off anywhere, from a router
in order. A rebind or reset has done nothing yet, or its lock is not ready, or it is through; a lock
that is ready says that the old state is gone and the new identity or nothing is there; without a
lock nothing of another identity is there. An unfinished procedure stays so until one is through,
and meanwhile the controller and the resumption refuse; a rotation is refused by any lock. -/
theorem maintenance_crash_safe {d₀ d : Device} (h₀ : Free d₀)
    (hruns : Relation.ReflTransGen Session d₀ d) :
    (∀ action, lockOf d = some (.gate action "ready") →
      ∃ request, request.action = action ∧ Finished request d) ∧
    (lockOf d = none → Owned d) ∧
    (∀ request tr d' o, request.action = "rebind" ∨ request.action = "reset" →
      Exec MaintStep (perform request) d tr d' o →
        Along request d d' ∧ ∀ b, o = some (.ok b) → Done request d') ∧
    (Unfinished d → (∀ d', Session d d' → Unfinished d' ∨ ∃ request, Done request d') ∧
      (∀ command tr d' o, Exec MaintStep (controller command) d tr d' o →
        Stopped command d d' ∧ o ≠ some .worked) ∧
      ∀ tr d' o, Exec MaintStep resume d tr d' o →
        d' = d ∧ ∀ r, o = some r → r = .fail "maintenance_gate_invalid") ∧
    (lockOf d ≠ none → ∀ request tr d' o, request.action = "rotate" →
      Exec MaintStep (perform request) d tr d' o → d' = d ∧ ∀ b, o ≠ some (.ok b)) := by
  have hsound : Sound d := by
    induction hruns with
    | refl => exact h₀.sound
    | tail _ hs ih => exact hs.sound ih
  refine ⟨hsound.ready, hsound.owned, fun request tr d' o ha h => ⟨along_of_exec ha h, ?_⟩,
    fun hu => ⟨fun d' hs => hs.unfinished hu, fun command tr d' o h => ?_, fun tr d' o h => ?_⟩,
    fun hl request tr d' o ha h => ?_⟩
  · rintro b rfl
    exact ((perform_along ha).result h).2 b rfl
  · have hlock : lockOf d ≠ none := by
      obtain ⟨action, phase, hl, -⟩ := hu
      rw [hl]
      nofun
    have hrefused := controller_refused hlock command
    refine ⟨(hrefused.post fun _ _ hr => hr.1).invariant h, ?_⟩
    rintro rfl
    exact (hrefused.result h).2 rfl
  · exact unchanged_of_exec (gated_refused hu rfl) h
  · obtain ⟨hsame, hresult⟩ := unchanged_of_exec (rotate_refused ha hl) h
    exact ⟨hsame, fun b ho => hresult _ ho b rfl⟩

end

namespace MaintenanceSample

def credential : String := "avrt_credential-1.ABCDEFGHIJKLMNOPQRSTUVWXYZabcdefghijklmnopqrs"

def request : MaintenanceRequest :=
  ⟨"rebind", some "REBIND", some "https://vpn.example.com/api", some "router-new", some credential⟩

/-- A router that has run for another identity, with its tunnel up. -/
def device : Device where
  file path := if path ∈ [journalPath, "/etc/autovpn/runtime/awg-owned"] then
      some (.state ⟨"https://old.example.com", "router-old"⟩ "")
    else none
  binding := ⟨"https://old.example.com", "router-old"⟩
  enabled := true
  prepared := false

/-- Every call succeeds. -/
def answer : (i : MaintCall) → Device → Option (i.Answer × Device)
  | .stat path, d => some (if (d.file path).isSome then .present else .absent, d)
  | .read path, d => some (d.file path, d)
  | .unlink path, d => some (true, d.set path none)
  | .create path c, d => some (true, d.set path (some c))
  | .rename source target, d =>
    (d.file source).map fun c => (true, (d.set source none).set target (some c))
  | .commit c, d => some (true, d.change c)
  | .config, d => some (some ⟨d.binding, d.enabled, d.prepared⟩, d)
  | .facts, d => some (⟨none, false, false⟩, d)
  | .wifi, d => some (none, d)
  | .work, d => some ((), d)
  | .failClosed, d => some (true, ownedFiles.foldl (fun d path => d.set path none) d)
  | .chmod _, d | .sync, d | .networks, d | .directories, d
  | .changesClean, d | .defaultPaths, d => some (true, d)

def rebound : Device × Option MaintResult := Program.play answer (perform request) device

theorem rebound_ok : rebound.2 = some (.ok true) := by rfl

theorem answer_step (i : MaintCall) (s : Device) (r : i.Answer) (s' : Device)
    (h : answer i s = some (r, s')) : MaintStep i s r s' := by
  cases i with
  | stat path =>
    obtain ⟨rfl, rfl⟩ := Prod.mk.inj (Option.some.inj h)
    refine ⟨rfl, fun hr => ?_, fun hr => ?_⟩
    · by_contra hf
      rw [if_pos (Option.isSome_iff_ne_none.mpr hf)] at hr
      cases hr
    · by_contra hf
      rw [if_neg hf] at hr
      cases hr
  | read path =>
    obtain ⟨rfl, rfl⟩ := Prod.mk.inj (Option.some.inj h)
    exact ⟨rfl, .inl rfl⟩
  | rename source target =>
    obtain ⟨c, hc, he⟩ := Option.map_eq_some_iff.mp h
    obtain ⟨rfl, rfl⟩ := Prod.mk.inj he
    exact .inl ⟨rfl, c, hc, rfl⟩
  | config =>
    obtain ⟨rfl, rfl⟩ := Prod.mk.inj (Option.some.inj h)
    exact ⟨rfl, fun c hc => (Option.some.inj hc).symm⟩
  | unlink path =>
    obtain ⟨rfl, rfl⟩ := Prod.mk.inj (Option.some.inj h)
    exact .inl ⟨rfl, rfl⟩
  | create path c =>
    obtain ⟨rfl, rfl⟩ := Prod.mk.inj (Option.some.inj h)
    exact .inl ⟨rfl, rfl⟩
  | commit c =>
    obtain ⟨rfl, rfl⟩ := Prod.mk.inj (Option.some.inj h)
    exact .inl rfl
  | work =>
    obtain ⟨rfl, rfl⟩ := Prod.mk.inj (Option.some.inj h)
    exact .refl
  | failClosed =>
    obtain ⟨rfl, rfl⟩ := Prod.mk.inj (Option.some.inj h)
    exact .tail (.single ⟨_, by decide, rfl⟩) ⟨_, by decide, rfl⟩
  | chmod | sync | networks | directories | changesClean | defaultPaths | facts | wifi =>
    exact (Prod.mk.inj (Option.some.inj h)).2.symm

theorem device_free : Free device := by
  refine ⟨rfl, fun path _ c hc => ?_, fun hnone => absurd hnone nofun⟩
  simp only [device] at hc
  split at hc
  · exact ⟨"", (Option.some.inj hc).symm⟩
  · cases hc

end MaintenanceSample

open MaintenanceSample in
theorem maintenance_crash_safe_rebind : Done request rebound.1 := by
  obtain ⟨tr, htr⟩ := Program.play_exec answer_step (perform request) device
  exact ((maintenance_crash_safe device_free .refl).2.2.1 request tr rebound.1 rebound.2
    (.inl rfl) htr).2 true rebound_ok

end Maintenance

end AutoVPN
