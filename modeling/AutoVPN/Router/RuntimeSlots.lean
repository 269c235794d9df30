import AutoVPN.Lib.Program
import AutoVPN.Router.Lineage
import AutoVPN.Router.RuntimeHelper

/-! Histories of the runtime helper and of the journal that it follows: wherever its actions are cut off
and whichever of its writes fail, there is a bundle to roll back to. -/

namespace AutoVPN

structure RuntimeWorld where
  files : RuntimeFile → Value
  journal : State

namespace RuntimeHelper

open Program Rendering

def store (w : RuntimeWorld) (file : RuntimeFile) (value : Value) : RuntimeWorld :=
  { w with files := Function.update w.files file value }

/-- What is printed is read back; a write that fails leaves the file as it was. -/
inductive FileStep : (c : RuntimeCall) → RuntimeWorld → c.Answer → RuntimeWorld → Prop
  | journal (w : RuntimeWorld) (r : Option State) (h : ∀ s ∈ r, s = w.journal) :
    FileStep .journal w r w
  | routerId (w : RuntimeWorld) (r : Value) : FileStep .routerId w r w
  | policy (w : RuntimeWorld) (r : Value) : FileStep .policy w r w
  | read (w : RuntimeWorld) (file : RuntimeFile) : FileStep (.read file) w (w.files file) w
  | written (w : RuntimeWorld) (file : RuntimeFile) (value : Value) :
    FileStep (.write file value) w true (store w file value)
  | refused (w : RuntimeWorld) (file : RuntimeFile) (value : Value) :
    FileStep (.write file value) w false w

section

variable (jsonLength : Value → Nat) (lane : String)

/-- A rollback accepts the value for the entry. -/
def Usable (value : Value) (entry : Entry) : Prop :=
  isBundle jsonLength lane value entry = true ∨ migratableBundle jsonLength lane value entry = true

/-- There is a bundle to roll back to, where there is an entry to roll back to. -/
def Recoverable (w : RuntimeWorld) : Prop :=
  ∀ entry ∈ w.journal.applied, unsupported lane entry = false →
    Usable jsonLength lane (w.files .current) entry ∨
      Usable jsonLength lane (w.files .previous) entry

/-- The runtime would be started from the bundle of the entry. -/
structure Installed (w : RuntimeWorld) (entry : Entry) : Prop where
  current : isBundle jsonLength lane (w.files .current) entry = true
  started : ∀ f ∈ started (w.files .current), w.files f.1 = f.2

end

variable {jsonLength : Value → Nat} {lane : String} {w : RuntimeWorld} {entry : Entry}

/-! Bundles. -/

theorem toNumber_of_looseEq {v : Value} {n : Int} (h : v.looseEq (.int n) = true) :
    v.toNumber? = some (n : ℚ) := by
  cases v with
  | null => cases h
  | _ =>
    simp only [Value.looseEq] at h
    split at h
    · rename_i a b ha hb
      obtain rfl := Option.some.inj hb
      rw [ha, beq_iff_eq.mp h]
    · cases h

theorem looseEq_int_unique {v : Value} {m n : Int} (hm : v.looseEq (.int m) = true)
    (hn : v.looseEq (.int n) = true) : m = n := by
  have h := (toNumber_of_looseEq hm).symm.trans (toNumber_of_looseEq hn)
  exact_mod_cast Option.some.inj h

theorem render_empty {snapshot policy preferred : Value} {l : String}
    (h : render snapshot policy preferred (some lane) = .empty l) :
    lane = "vpn_zapret" ∧ hasLanes snapshot = false := by
  rw [render] at h
  split at h
  · cases h
  · split at h
    · cases h
    · rename_i descriptor hdescriptor
      split at h
      · rename_i hempty
        obtain ⟨found, hfound, rfl⟩ := Option.map_eq_some_iff.mp hdescriptor
        have hid := List.find?_some hfound
        simp only [Option.any_some, Bool.and_eq_true, beq_iff_eq, Bool.not_eq_true'] at hempty hid
        exact ⟨hid.symm.trans hempty.1, hempty.2⟩
      · split at h
        · dsimp only at h
          split at h <;> cases h
        · cases h

theorem make_ok {policy preferred value : Value} {n : Nat} (hentry : entry.Numbered n)
    (hlane : unsupported lane entry = false)
    (h : make jsonLength lane entry policy preferred = .ok value) :
    isBundle jsonLength lane value entry = true := by
  rw [make] at h
  split at h
  · cases h
  · rename_i l hbundle
    exfalso
    rw [bundle] at hbundle
    split at hbundle
    · cases hbundle
    · split at hbundle
      · cases hbundle
      · rename_i hrender
        obtain ⟨rfl, hlanes⟩ := render_empty hrender
        have hno : hasLanes entry.snapshot.value = false := hlanes
        rw [unsupported, hno] at hlane
        exact absurd hlane (by decide)
      · rw [bounded] at hbundle
        split at hbundle <;> cases hbundle
  · rename_i made hbundle
    obtain rfl := Except.ok.inj h
    exact matchesBundle_bundle ((Journal.validEntry_encode entry n).mpr hentry) hbundle

theorem make_error {policy preferred result : Value}
    (h : make jsonLength lane entry policy preferred = .error result) :
    ∃ code, result = failure code := by
  rw [make] at h
  split at h
  · rename_i code _
    exact ⟨code, (Except.error.inj h).symm⟩
  · cases h
  · cases h

theorem upgrade_error {value preferred result : Value}
    (h : upgrade jsonLength lane value entry preferred = .error result) :
    ∃ code, result = failure code := by
  rw [upgrade] at h
  split at h
  · split at h
    · cases h
    · exact make_error h
  · split at h
    · cases h
    · exact make_error h

theorem upgrade_ok {value preferred upgraded : Value} {n : Nat} (hentry : entry.Numbered n)
    (hlane : unsupported lane entry = false) (hvalue : Usable jsonLength lane value entry)
    (h : upgrade jsonLength lane value entry preferred = .ok upgraded) :
    isBundle jsonLength lane upgraded entry = true := by
  rw [upgrade] at h
  split at h
  · split at h
    · rename_i hfour
      obtain rfl := Except.ok.inj h
      refine hvalue.resolve_right fun hmigratable => ?_
      simp only [migratableBundle, Bool.and_eq_true] at hmigratable
      exact absurd (looseEq_int_unique hmigratable.1.1.1.1.1.1.2 hfour) (by decide)
    · exact make_ok hentry hlane h
  · rename_i hlanes
    split at h
    · obtain rfl := Except.ok.inj h
      refine hvalue.resolve_right fun hmigratable => ?_
      simp only [migratableBundle, Bool.and_eq_true] at hmigratable
      have hrebuilt := hmigratable.2
      split at hrebuilt
      · rename_i rebuilt hbundle
        obtain ⟨-, rt, -, -, rfl⟩ := bundle_eq_ok.mp hbundle
        have hversion := (bundleValue_get entry.encode (value.get "policy") (some lane) rt).1
        have hno : hasLanes (entry.encode.get "snapshot") = false := Bool.eq_false_iff.mpr hlanes
        rw [bundleVersion_without_lanes (some lane) hno] at hversion
        rw [hasVersion, hversion, Bool.and_eq_true] at hrebuilt
        exact absurd (Value.looseEq_int.mp hrebuilt.1) (by decide)
      · cases hrebuilt
    · exact make_ok hentry hlane h

theorem attempt_of_isBundle {value : Value} (h : isBundle jsonLength lane value entry = true) :
    (value.get "attempt").looseEq (.int entry.attempt) = true := by
  simp only [isBundle, matchesBundle, Bool.and_eq_true] at h
  exact h.1.2

theorem attempt_eq {value : Value} {other : Entry}
    (h : isBundle jsonLength lane value entry = true)
    (hversion : hasVersion value (expectedVersion entry) = true)
    (hother : Usable jsonLength lane value other) : other.attempt = entry.attempt := by
  rcases hother with hother | hother
  · exact_mod_cast looseEq_int_unique (attempt_of_isBundle hother) (attempt_of_isBundle h)
  · simp only [migratableBundle, Bool.and_eq_true] at hother
    have hthree := looseEq_int_unique hother.1.1.1.1.1.1.2 hversion
    rw [expectedVersion] at hthree
    split at hthree <;> cases hthree

/-! Programs that can be left anywhere. -/

/-- Wherever the program is cut off there is a bundle to roll back to, and it ends as said. -/
abbrev Ends (jsonLength : Value → Nat) (lane : String) {α : Type} (Q : α → RuntimeWorld → Prop)
    (p : RuntimeProgram α) (w : RuntimeWorld) : Prop :=
  Sat FileStep (fun _ => Recoverable jsonLength lane)
    (fun a u => Recoverable jsonLength lane u ∧ Q a u) p w

theorem ends_bind {α β : Type} {P : α → RuntimeWorld → Prop} {Q : β → RuntimeWorld → Prop}
    {p : RuntimeProgram α} {f : α → RuntimeProgram β} (h : Ends jsonLength lane P p w)
    (hf : ∀ a u, Recoverable jsonLength lane u → P a u → Ends jsonLength lane Q (f a) u) :
    Ends jsonLength lane Q (p >>= f) w :=
  Sat.bind (h.post fun a u hu => hf a u hu.1 hu.2)

theorem ends_return {α : Type} {Q : α → RuntimeWorld → Prop} {a : α}
    (hw : Recoverable jsonLength lane w) (h : Q a w) :
    Ends jsonLength lane Q (Pure.pure a : RuntimeProgram α) w :=
  ⟨hw, h⟩

theorem read_ends (hw : Recoverable jsonLength lane w) (file : RuntimeFile) :
    Ends jsonLength lane (fun v u => v = w.files file ∧ u = w) (read file) w := by
  refine ⟨hw, fun r u hstep => ?_⟩
  cases hstep
  exact ⟨hw, rfl, rfl⟩

theorem policy_ends (hw : Recoverable jsonLength lane w) :
    Ends jsonLength lane (fun _ u => u = w) (ask .policy) w := by
  refine ⟨hw, fun r u hstep => ?_⟩
  cases hstep
  exact ⟨hw, rfl⟩

def wrote (w : RuntimeWorld) (files : List (RuntimeFile × Value)) : RuntimeWorld :=
  files.foldl (fun w f => store w f.1 f.2) w

@[simp] theorem store_journal (w : RuntimeWorld) (file : RuntimeFile) (value : Value) :
    (store w file value).journal = w.journal := rfl

theorem store_self (w : RuntimeWorld) (file : RuntimeFile) (value : Value) :
    (store w file value).files file = value := by
  simp [store]

theorem wrote_journal (w : RuntimeWorld) (files : List (RuntimeFile × Value)) :
    (wrote w files).journal = w.journal := by
  induction files generalizing w with
  | nil => rfl
  | cons f files ih => exact (ih _).trans rfl

theorem wrote_of_not_mem {files : List (RuntimeFile × Value)} {file : RuntimeFile}
    (h : file ∉ files.map Prod.fst) : (wrote w files).files file = w.files file := by
  induction files generalizing w with
  | nil => rfl
  | cons f files ih =>
    rw [List.map_cons, List.mem_cons, not_or] at h
    exact (ih h.2).trans (Function.update_of_ne h.1 ..)

theorem wrote_of_mem {files : List (RuntimeFile × Value)} (hnd : (files.map Prod.fst).Nodup)
    {f : RuntimeFile × Value} (h : f ∈ files) : (wrote w files).files f.1 = f.2 := by
  induction files generalizing w with
  | nil => exact absurd h List.not_mem_nil
  | cons g files ih =>
    obtain ⟨hg, hnd⟩ := List.nodup_cons.mp hnd
    rcases List.mem_cons.mp h with rfl | h
    · exact (wrote_of_not_mem hg).trans (Function.update_self ..)
    · exact ih hnd h

/-- The bundle before is left alone, and the current one is replaced only by one that a rollback
accepts or where the one before is accepted. -/
structure Careful (jsonLength : Value → Nat) (lane : String) (w : RuntimeWorld)
    (files : List (RuntimeFile × Value)) : Prop where
  previous : ∀ f ∈ files, f.1 ≠ .previous
  current : ∀ f ∈ files, f.1 = .current → ∀ entry ∈ w.journal.applied,
    unsupported lane entry = false → Usable jsonLength lane f.2 entry ∨
      Usable jsonLength lane (w.files .previous) entry

theorem Careful.next {f : RuntimeFile × Value} {files : List (RuntimeFile × Value)}
    (h : Careful jsonLength lane w (f :: files)) (hw : Recoverable jsonLength lane w) :
    Recoverable jsonLength lane (store w f.1 f.2) ∧
      Careful jsonLength lane (store w f.1 f.2) files := by
  have hprevious : (store w f.1 f.2).files .previous = w.files .previous :=
    Function.update_of_ne (h.previous f List.mem_cons_self).symm ..
  refine ⟨fun entry he hlane => ?_, fun g hg => h.previous g (List.mem_cons_of_mem _ hg), ?_⟩
  · rw [hprevious]
    by_cases hf : f.1 = .current
    · have hcurrent : (store w f.1 f.2).files .current = f.2 := by
        rw [← hf]
        exact store_self ..
      rw [hcurrent]
      exact h.current f List.mem_cons_self hf entry he hlane
    · have hcurrent : (store w f.1 f.2).files .current = w.files .current :=
        Function.update_of_ne (Ne.symm hf) ..
      rw [hcurrent]
      exact hw entry he hlane
  · rw [hprevious]
    exact fun g hg => h.current g (List.mem_cons_of_mem _ hg)

theorem writeAll_ends {files : List (RuntimeFile × Value)} (hw : Recoverable jsonLength lane w)
    (h : Careful jsonLength lane w files) :
    Ends jsonLength lane (fun ok u => ok = true → u = wrote w files) (writeAll files) w := by
  induction files generalizing w with
  | nil => exact ends_return hw fun _ => rfl
  | cons f files ih =>
    obtain ⟨hwritten, hrest⟩ := h.next hw
    refine ⟨hw, fun r u hstep => ?_⟩
    cases hstep with
    | written => exact ih hwritten hrest
    | refused => exact ends_return hw nofun

theorem finish_ends {value : Value} {files : List (RuntimeFile × Value)}
    (hw : Recoverable jsonLength lane w) (h : Careful jsonLength lane w files) :
    Ends jsonLength lane (fun r u => (r.get "ok").isTrue = true → u = wrote w files)
      (finish lane value files) w := by
  refine ends_bind (writeAll_ends hw h) fun written u hu hwritten => ?_
  cases written with
  | true => exact ends_return hu fun _ => hwritten rfl
  | false => exact ends_return hu nofun

theorem careful_of_spared {files : List (RuntimeFile × Value)}
    (h : ∀ f ∈ files, f.1 ≠ .previous ∧ f.1 ≠ .current) : Careful jsonLength lane w files :=
  ⟨fun f hf => (h f hf).1, fun f hf hc => absurd hc (h f hf).2⟩

theorem spared_started (value : Value) :
    ∀ f ∈ started value, f.1 ≠ .previous ∧ f.1 ≠ .current := by
  simp [started]

theorem careful_current {value : Value} {files : List (RuntimeFile × Value)}
    (hspared : ∀ f ∈ files, f.1 ≠ .previous ∧ f.1 ≠ .current)
    (h : ∀ a ∈ w.journal.applied, unsupported lane a = false → Usable jsonLength lane value a ∨
      Usable jsonLength lane (w.files .previous) a) :
    Careful jsonLength lane w ((.current, value) :: files) := by
  refine ⟨fun f hf => ?_, fun f hf hc => ?_⟩
  · rcases List.mem_cons.mp hf with rfl | hf
    · exact nofun
    · exact (hspared f hf).1
  · rcases List.mem_cons.mp hf with rfl | hf
    · exact h
    · exact absurd hc (hspared f hf).2

theorem installed_wrote {value : Value} (h : isBundle jsonLength lane value entry = true) :
    Installed jsonLength lane (wrote w ((.current, value) :: started value)) entry := by
  have hnd : (((RuntimeFile.current, value) :: started value).map Prod.fst).Nodup := by
    simp [started]
  have hcurrent := wrote_of_mem (w := w) hnd List.mem_cons_self
  dsimp only at hcurrent
  refine ⟨hcurrent ▸ h, fun f hf => ?_⟩
  rw [hcurrent] at hf
  exact wrote_of_mem hnd (List.mem_cons_of_mem _ hf)

/-! The way of an entry. -/

theorem keptProfile_ends (hw : Recoverable jsonLength lane w) (state : State) :
    Ends jsonLength lane (fun _ u => u = w) (keptProfile jsonLength lane state) w :=
  ends_bind (read_ends hw .current) fun _ _ hu h => ends_return hu h.2

theorem prepare_ends (hw : Recoverable jsonLength lane w) (state : State) :
    Ends jsonLength lane (fun _ _ => True) (prepare jsonLength lane state entry) w := by
  refine ends_bind (keptProfile_ends hw state) fun preferred u hu _ => ?_
  refine ends_bind (policy_ends hu) fun policy v hv _ => ?_
  split
  · exact ends_return hv trivial
  · rename_i value _
    have hspared : ∀ f ∈ (RuntimeFile.prepared, value) :: started value,
        f.1 ≠ .previous ∧ f.1 ≠ .current := by
      simp [started]
    exact (finish_ends hv (careful_of_spared hspared)).post fun r x hx => ⟨hx.1, trivial⟩

theorem savePrevious_ends (hw : Recoverable jsonLength lane w) :
    Ends jsonLength lane (fun r u => r = none → u.journal = w.journal ∧
      ∀ a ∈ w.journal.applied, unsupported lane a = false →
        Usable jsonLength lane (u.files .previous) a)
      (savePrevious jsonLength lane w.journal) w := by
  refine ends_bind (read_ends hw .current) fun current u hu ⟨hcurrent, he⟩ => ?_
  subst he
  split
  · rename_i happlied
    obtain ⟨a, ha, hbundle⟩ : ∃ a, u.journal.applied = some a ∧
        isBundle jsonLength lane current a = true := by
      cases ha : u.journal.applied with
      | none =>
        rw [ha] at happlied
        cases happlied
      | some a =>
        rw [ha] at happlied
        exact ⟨a, rfl, happlied⟩
    have husable : ∀ b ∈ u.journal.applied,
        Usable jsonLength lane ((store u .previous current).files .previous) b := by
      intro b hb
      obtain rfl := Option.some.inj (ha.symm.trans hb)
      rw [store_self]
      exact .inl hbundle
    have hwritten : Recoverable jsonLength lane (store u .previous current) :=
      fun b hb _ => .inr (husable b hb)
    refine ends_bind (P := fun ok v => ok = true → v = store u .previous current)
      ⟨hu, fun r v hstep => ?_⟩ fun written v hv hok => ends_return hv fun hr => ?_
    · cases hstep with
      | written => exact ends_return hwritten fun _ => rfl
      | refused => exact ends_return hu nofun
    · cases written with
      | true =>
        rw [hok rfl]
        exact ⟨rfl, fun b hb _ => husable b hb⟩
      | false => cases hr
  · split
    · exact ends_return hu fun _ => ⟨rfl, by simp_all⟩
    · rename_i applied happlied
      split
      · rename_i hlane
        refine ends_return hu fun _ => ⟨rfl, fun a ha hno => ?_⟩
        rw [happlied, Option.mem_some_iff] at ha
        subst ha
        rw [hlane] at hno
        cases hno
      · refine ends_bind (read_ends hu .previous) fun previous v hv ⟨hprevious, he⟩ => ?_
        subst he
        refine ends_return hv fun hr => ⟨rfl, fun a ha _ => ?_⟩
        rw [happlied, Option.mem_some_iff] at ha
        subst ha
        split at hr
        · exact .inl (hprevious ▸ ‹_›)
        · cases hr

theorem activate_ends {n : Nat} (hw : Recoverable jsonLength lane w) (hentry : entry.Numbered n)
    (hlane : unsupported lane entry = false) :
    Ends jsonLength lane (fun r u => (r.get "ok").isTrue = true → Installed jsonLength lane u entry)
      (activate jsonLength lane w.journal entry) w := by
  have hstored : Ends jsonLength lane (fun r u => u = w ∧
      ∀ v, r = .ok v → isBundle jsonLength lane v entry = true)
      (activateStored jsonLength lane entry) w := by
    refine ends_bind (read_ends hw .prepared) fun value u hu ⟨_, he⟩ => ends_return hu ⟨he, ?_⟩
    intro v hv
    split at hv
    · rename_i hbundle
      obtain rfl := Except.ok.inj hv
      exact hbundle
    · cases hv
  refine ends_bind hstored fun stored u hu ⟨he, hbundle⟩ => ?_
  subst he
  cases stored with
  | error code => exact ends_return hu nofun
  | ok stored =>
    refine ends_bind (keptProfile_ends hu u.journal) fun preferred v hv he => ?_
    subst he
    cases hupgrade : upgrade jsonLength lane stored entry preferred with
    | error result =>
      obtain ⟨code, rfl⟩ := upgrade_error hupgrade
      exact ends_return hv nofun
    | ok value =>
      have hvalue := upgrade_ok hentry hlane (.inl (hbundle stored rfl)) hupgrade
      dsimp only
      have hspared : ∀ f ∈ [(RuntimeFile.prepared, value)], f.1 ≠ .previous ∧ f.1 ≠ .current := by
        simp
      refine ends_bind (writeAll_ends hv (careful_of_spared hspared)) fun written x hx hwritten => ?_
      cases written with
      | false => exact ends_return hx nofun
      | true =>
        obtain rfl := hwritten rfl
        refine ends_bind (savePrevious_ends hx) fun refused y hy hsaved => ?_
        cases refused with
        | some code => exact ends_return hy nofun
        | none =>
          obtain ⟨hjournal, hprevious⟩ := hsaved rfl
          refine (finish_ends hy (careful_current (spared_started value) fun a ha hno =>
            .inr (hprevious a (hjournal ▸ ha) hno))).post fun r z hz => ⟨hz.1, fun hr => ?_⟩
          rw [hz.2 hr]
          exact installed_wrote hvalue

/-- A bundle of an older version may be one that cannot be made again. -/
def Outdated (jsonLength : Value → Nat) (lane : String) (entry : Entry) (value result : Value) : Prop :=
  isBundle jsonLength lane value entry = true ∧ hasVersion value (expectedVersion entry) = false ∧
    upgrade jsonLength lane value entry .null = .error result

theorem outdated_of_error {value result : Value} (hvalue : Usable jsonLength lane value entry)
    (h : upgrade jsonLength lane value entry .null = .error result) :
    Outdated jsonLength lane entry value result := by
  have hversion : hasVersion value (expectedVersion entry) = false := by
    rw [expectedVersion]
    rw [upgrade] at h
    split at h
    · rename_i hlanes
      rw [if_pos hlanes]
      split at h
      · cases h
      · rename_i hfour
        exact Bool.eq_false_iff.mpr hfour
    · rename_i hlanes
      rw [if_neg hlanes]
      split at h
      · cases h
      · rename_i hone
        refine Bool.eq_false_iff.mpr fun htwo => ?_
        have hone' : hasVersion value 1 = true := by simpa using hone
        exact absurd (looseEq_int_unique hone' htwo) (by decide)
  refine ⟨hvalue.resolve_right fun hmigratable => ?_, hversion, h⟩
  -- What can be migrated has been made again with the same arguments.
  simp only [migratableBundle, Bool.and_eq_true] at hmigratable
  obtain ⟨⟨⟨⟨⟨⟨⟨hobject, hthree⟩, -⟩, -⟩, -⟩, -⟩, hprofile⟩, hrebuilt⟩ := hmigratable
  have hchosen : (if (fixedProfile value).isNull then Value.null else fixedProfile value) =
      value.get "profile" := by
    have hfixed : fixedProfile value = value.get "profile" := by
      rw [fixedProfile, hobject, hprofile]
      rfl
    rw [hfixed]
    cases hp : value.get "profile" with
    | null => rfl
    | _ => rfl
  have hmake : ∃ made, make jsonLength lane entry (value.get "policy") (value.get "profile") =
      .ok made := by
    split at hrebuilt
    · rename_i made hbundle
      exact ⟨made, by rw [make, hbundle]⟩
    · cases hrebuilt
  obtain ⟨made, hmade⟩ := hmake
  have hone : hasVersion value 1 = false :=
    Bool.eq_false_iff.mpr fun h => absurd (looseEq_int_unique hthree h) (by decide)
  rw [upgrade] at h
  simp only [hchosen, hmade, hone] at h
  split at h
  · split at h <;> cases h
  · cases h

/-- How a rollback ends that is possible: the entry is installed, a write has failed, or the bundle is
one of an older version. -/
structure WentBack (jsonLength : Value → Nat) (lane : String) (w : RuntimeWorld) (entry : Entry)
    (r : Value) (u : RuntimeWorld) : Prop where
  installed : (r.get "ok").isTrue = true → Installed jsonLength lane u entry
  failed : (r.get "ok").isTrue = false → r = failure "runtime_write_failed" ∨
    ∃ value ∈ [w.files .current, w.files .previous], Outdated jsonLength lane entry value r

theorem rollbackStored_ends (hw : Recoverable jsonLength lane w) (happlied : entry ∈ w.journal.applied)
    (hlane : unsupported lane entry = false) :
    Ends jsonLength lane (fun r u => u = w ∧ ∃ v ∈ [w.files .current, w.files .previous],
      r = .ok v ∧ Usable jsonLength lane v entry) (rollbackStored jsonLength lane entry) w := by
  refine ends_bind (read_ends hw .current) fun current u hu ⟨hcurrent, he⟩ => ?_
  subst he hcurrent
  split
  · rename_i h
    exact ends_return hu ⟨rfl, _, List.mem_cons_self, rfl, by simpa [Usable] using h⟩
  · rename_i h
    refine ends_bind (read_ends hu .previous) fun previous v hv ⟨hprevious, he⟩ => ?_
    subst he hprevious
    have husable := (hv entry happlied hlane).resolve_left fun hc => h (by simpa [Usable] using hc)
    have hor : (isBundle jsonLength lane (v.files .previous) entry ||
        migratableBundle jsonLength lane (v.files .previous) entry) = true := by
      simpa [Usable] using husable
    rw [hor]
    exact ends_return hv ⟨rfl, _, List.mem_cons_of_mem _ List.mem_cons_self, rfl, husable⟩

theorem goBack_ends {n : Nat} (hw : Recoverable jsonLength lane w) (hentry : entry.Numbered n)
    (happlied : entry ∈ w.journal.applied) (hlane : unsupported lane entry = false) :
    Ends jsonLength lane (WentBack jsonLength lane w entry) (goBack jsonLength lane entry) w := by
  refine ends_bind (rollbackStored_ends hw happlied hlane) fun stored u hu ⟨he, v, hv, hr, hvu⟩ => ?_
  subst he hr
  cases hupgrade : upgrade jsonLength lane v entry .null with
  | error result =>
    obtain ⟨code, rfl⟩ := upgrade_error hupgrade
    simp only [hupgrade]
    exact ends_return hu ⟨nofun, fun _ => .inr ⟨v, hv, outdated_of_error hvu hupgrade⟩⟩
  | ok value =>
    have hvalue := upgrade_ok hentry hlane hvu hupgrade
    have hcareful : Careful jsonLength lane u ((.current, value) :: started value) := by
      refine careful_current (spared_started value) fun a ha _ => .inl (.inl ?_)
      obtain rfl := Option.some.inj (happlied.symm.trans ha)
      exact hvalue
    simp only [hupgrade]
    refine ends_bind (writeAll_ends hu hcareful) fun written x hx hwritten => ?_
    cases written with
    | true =>
      refine ends_return hx ⟨fun _ => ?_, fun hr => by cases hr⟩
      rw [hwritten rfl]
      exact installed_wrote hvalue
    | false => exact ends_return hx ⟨nofun, fun _ => .inl rfl⟩

theorem keep_ends (hw : Recoverable jsonLength lane w) (reports : Bool) :
    Ends jsonLength lane (fun r u => (r.get "ok").isTrue = true → u.journal = w.journal ∧
      isBundle jsonLength lane (u.files .current) entry = true)
      (keep jsonLength lane reports entry) w := by
  have hstored : Ends jsonLength lane (fun r u => u = w ∧ ∀ v, r = .ok v →
      isBundle jsonLength lane (w.files .current) entry = true)
      (keptStored jsonLength lane entry) w := by
    refine ends_bind (read_ends hw .current) fun value u hu ⟨hvalue, he⟩ => ends_return hu ⟨he, ?_⟩
    intro v hv
    split at hv
    · exact hvalue ▸ ‹_›
    · cases hv
  refine ends_bind hstored fun stored u hu ⟨he, hbundle⟩ => ?_
  subst he
  cases stored with
  | error code => exact ends_return hu nofun
  | ok stored =>
    cases hupgrade : upgrade jsonLength lane stored entry .null with
    | error result =>
      obtain ⟨code, rfl⟩ := upgrade_error hupgrade
      simp only [hupgrade]
      exact ends_return hu nofun
    | ok value =>
      simp only [hupgrade]
      have hspared : ∀ f ∈ (if reports then [] else started value),
          f.1 ≠ .previous ∧ f.1 ≠ .current := by
        split
        · simp
        · exact spared_started value
      refine (finish_ends hu (careful_of_spared hspared)).post fun r x hx => ⟨hx.1, fun hr => ?_⟩
      have hcurrent : RuntimeFile.current ∉
          (if reports then [] else started value).map Prod.fst := by
        intro hmem
        obtain ⟨f, hf, he⟩ := List.mem_map.mp hmem
        exact (hspared f hf).2 he
      rw [hx.2 hr, wrote_journal, wrote_of_not_mem hcurrent]
      exact ⟨rfl, hbundle stored rfl⟩

/-! The choice between profiles. -/

section

variable {state : State}

theorem activeEntry_mem (h : activeEntry state = some entry) :
    entry ∈ state.desired ∨ entry ∈ state.applied := by
  cases hphase : state.phase <;> cases hdesired : state.desired <;>
    cases happlied : state.applied <;> simp_all [activeEntry]

theorem activeEntry_numbered (hvalid : state.Valid) (h : activeEntry state = some entry) :
    entry.Numbered state.sequence :=
  (activeEntry_mem h).elim (hvalid.desired entry) (hvalid.applied entry)

/-- The current bundle of the active entry may give way to another of that entry: it is that of the
applied one, or the applied one has the bundle before. -/
theorem usable_active (hw : Recoverable jsonLength lane w) (hordered : Ordered w.journal)
    (hactive : activeEntry w.journal = some entry)
    (hcurrent : isBundle jsonLength lane (w.files .current) entry = true)
    (hversion : hasVersion (w.files .current) (expectedVersion entry) = true) {value : Value}
    (hvalue : isBundle jsonLength lane value entry = true) :
    ∀ a ∈ w.journal.applied, unsupported lane a = false → Usable jsonLength lane value a ∨
      Usable jsonLength lane (w.files .previous) a := by
  intro a ha hlane
  rcases (activeEntry_mem hactive).symm with happlied | hdesired
  · obtain rfl := Option.some.inj (happlied.symm.trans ha)
    exact .inl (.inl hvalue)
  · refine .inr ((hw a ha hlane).resolve_left fun husable => ?_)
    have heq := attempt_eq hcurrent hversion husable
    have hlt := (hordered.desired entry hdesired a ha).2
    omega

theorem careful_last {file : RuntimeFile} {value : Value} {files : List (RuntimeFile × Value)}
    (hspared : ∀ f ∈ files, f.1 ≠ .previous ∧ f.1 ≠ .current) (hfile : file ≠ .previous)
    (h : file = .current → ∀ a ∈ w.journal.applied, unsupported lane a = false →
      Usable jsonLength lane value a ∨ Usable jsonLength lane (w.files .previous) a) :
    Careful jsonLength lane w (files ++ [(file, value)]) := by
  refine ⟨fun f hf => ?_, fun f hf hc => ?_⟩
  · rcases List.mem_append.mp hf with hf | hf
    · exact (hspared f hf).1
    · rw [List.mem_singleton.mp hf]
      exact hfile
  · rcases List.mem_append.mp hf with hf | hf
    · exact absurd hc (hspared f hf).2
    · rw [List.mem_singleton.mp hf] at hc ⊢
      exact h hc

theorem strip_ends {n : Nat} {fallback : Bool} {requested chosen : Value} {file : RuntimeFile}
    (hw : Recoverable jsonLength lane w) (hentry : entry.Numbered n)
    (hlane : unsupported lane entry = false) (hfile : file ≠ .previous)
    (h : file = .current → ∀ value, isBundle jsonLength lane value entry = true →
      ∀ a ∈ w.journal.applied, unsupported lane a = false → Usable jsonLength lane value a ∨
        Usable jsonLength lane (w.files .previous) a) :
    Ends jsonLength lane (fun _ _ => True)
      (strip jsonLength lane fallback requested entry chosen file) w := by
  unfold strip
  split
  · exact ends_return hw trivial
  split
  · exact ends_return hw trivial
  dsimp only
  generalize (if fallback = true then requested else chosen.get "profile") = preferred
  cases hmake : make jsonLength lane entry (withoutAwg (chosen.get "policy")) preferred with
  | error result => exact ends_return hw trivial
  | ok value =>
  dsimp only
  split
  · exact ends_return hw trivial
  have hvalue := make_ok hentry hlane hmake
  have hcareful : Careful jsonLength lane w ([(.candidate, value.get "config"), (.awg, .null),
      (.zapret, value.get "zapret")] ++ [(if fallback then .failover else file, value)]) := by
    refine careful_last (by simp) ?_ ?_
    · split
      · exact nofun
      · exact hfile
    · split
      · exact nofun
      · exact fun hc => h hc value hvalue
  exact ends_bind (writeAll_ends hw hcareful) fun _ _ hu _ => ends_return hu trivial

theorem suits_iff {candidate value : Value} : suits jsonLength lane entry candidate value = true ↔
    isBundle jsonLength lane value entry = true ∧ hasVersion value (expectedVersion entry) = true ∧
      same (value.get "config") candidate = true := by
  rw [suits, Bool.and_eq_true, Bool.and_eq_true, and_assoc]

theorem optionalAwg_ends (hw : Recoverable jsonLength lane w) (hvalid : w.journal.Valid)
    (hordered : Ordered w.journal) (fallback : Bool) (requested : Value) :
    Ends jsonLength lane (fun _ _ => True)
      (optionalAwg jsonLength lane fallback requested w.journal) w := by
  unfold optionalAwg
  split
  · exact ends_return hw trivial
  · rename_i entry hactive
    have hentry := activeEntry_numbered hvalid hactive
    split
    · exact ends_return hw trivial
    · rename_i hlane
      have hlane := Bool.eq_false_iff.mpr hlane
      refine ends_bind (read_ends hw .candidate) fun candidate u hu ⟨_, he⟩ => ?_
      subst he
      refine ends_bind (read_ends hu .failover) fun failover v hv ⟨_, he⟩ => ?_
      subst he
      split
      · exact strip_ends hv hentry hlane nofun nofun
      · refine ends_bind (read_ends hv .current) fun current x hx ⟨hcurrent, he⟩ => ?_
        subst he hcurrent
        split
        · rename_i hsuits
          obtain ⟨hbundle, hversion, -⟩ := suits_iff.mp hsuits
          exact strip_ends hx hentry hlane nofun fun _ value hvalue =>
            usable_active hx hordered hactive hbundle hversion hvalue
        · exact ends_return hx trivial

theorem commit_ends {requested current : Value} (hw : Recoverable jsonLength lane w)
    (hordered : Ordered w.journal) (hactive : activeEntry w.journal = some entry)
    (hcurrent : isBundle jsonLength lane (w.files .current) entry = true)
    (hversion : hasVersion (w.files .current) (expectedVersion entry) = true) :
    Ends jsonLength lane (fun _ _ => True) (commit jsonLength lane requested entry current) w := by
  refine ends_bind (read_ends hw .failover) fun staged u hu ⟨_, he⟩ => ?_
  subst he
  refine ends_bind (read_ends hu .candidate) fun candidate v hv ⟨_, he⟩ => ?_
  subst he
  split
  · exact ends_return hv trivial
  · rename_i hsuits
    simp only [Bool.or_eq_true, not_or, Bool.not_eq_true', Bool.not_eq_false] at hsuits
    obtain ⟨hbundle, -, -⟩ := suits_iff.mp hsuits.1.1.1
    have hcareful : Careful jsonLength lane v [(.current, staged)] :=
      careful_current (by simp) (usable_active hv hordered hactive hcurrent hversion hbundle)
    exact ends_bind (writeAll_ends hv hcareful) fun _ _ hu _ => ends_return hu trivial

theorem choose_ends {commits : Bool} {requested current : Value}
    (hw : Recoverable jsonLength lane w) (hordered : Ordered w.journal)
    (hactive : activeEntry w.journal = some entry)
    (hcurrent : isBundle jsonLength lane (w.files .current) entry = true)
    (hversion : hasVersion (w.files .current) (expectedVersion entry) = true) :
    Ends jsonLength lane (fun _ _ => True)
      (choose jsonLength lane commits requested entry current) w := by
  unfold choose
  split
  · exact ends_return hw trivial
  split
  · exact ends_return hw trivial
  split
  · exact ends_return hw trivial
  split
  · exact commit_ends hw hordered hactive hcurrent hversion
  · unfold selectProfile
    split
    · exact ends_return hw trivial
    · exact ends_bind (writeAll_ends hw (careful_of_spared (by simp))) fun _ _ hu _ =>
        ends_return hu trivial

theorem probing_ends (hw : Recoverable jsonLength lane w) (hordered : Ordered w.journal)
    (action : RuntimeAction) (requested : Value) :
    Ends jsonLength lane (fun _ _ => True)
      (probing jsonLength lane action requested w.journal) w := by
  unfold probing
  split
  · exact ends_return hw trivial
  rename_i entry hactive
  split
  · exact ends_return hw trivial
  refine ends_bind (read_ends hw .current) fun current u hu ⟨hcurrent, he⟩ => ?_
  subst he hcurrent
  split
  · exact ends_return hu trivial
  rename_i hbundle
  split
  · exact ends_return hu trivial
  rename_i hversion
  split
  · exact ends_return hu trivial
  split
  · exact ends_bind (read_ends hu .run) fun _ _ hv _ => ends_return hv trivial
  · exact choose_ends hu hordered hactive (by simpa using hbundle) (by simpa using hversion)

end

/-! An action. -/

/-- The answers of a helper that has not come to its action. -/
def unheard : List Value :=
  ["invalid_lane", "invalid_journal_path", "journal_invalid", "router_identity_mismatch"].map failure

/-- What an action and its answer say of the entry that it is about. -/
structure Outcome (jsonLength : Value → Nat) (lane : String) (action : RuntimeAction)
    (w : RuntimeWorld) (r : Value) (u : RuntimeWorld) : Prop where
  activated : action = .activate → (r.get "ok").isTrue = true → ∀ entry ∈ w.journal.desired,
    unsupported lane entry = false → Installed jsonLength lane u entry
  verified : action = .verify → (r.get "ok").isTrue = true → u.journal = w.journal ∧
    ∀ entry ∈ w.journal.desired, unsupported lane entry = false →
      isBundle jsonLength lane (u.files .current) entry = true
  returned : action = .rollback ∨ action = .restore → ∀ entry ∈ w.journal.applied,
    unsupported lane entry = false → r ∈ unheard ∨ WentBack jsonLength lane w entry r u

theorem Outcome.of_quiet {action : RuntimeAction} {r : Value} {u : RuntimeWorld}
    (hactivate : action ≠ .activate) (hverify : action ≠ .verify) (hrollback : action ≠ .rollback)
    (hrestore : action ≠ .restore) : Outcome jsonLength lane action w r u :=
  ⟨fun h => absurd h hactivate, fun h => absurd h hverify,
    fun h => (h.elim hrollback hrestore).elim⟩

theorem advance_ends (hw : Recoverable jsonLength lane w) (hvalid : w.journal.Valid)
    (action : RuntimeAction) :
    Ends jsonLength lane (Outcome jsonLength lane action w)
      (advance jsonLength lane action w.journal) w := by
  unfold advance
  cases hentry : actionEntry action w.journal with
  | none =>
    have hnone (hdesired : action = .activate ∨ action = .verify) : w.journal.desired = none := by
      rwa [actionEntry, if_pos (.inr hdesired)] at hentry
    refine ends_return hw ⟨fun h _ entry he => ?_, fun h _ => ⟨rfl, fun entry he => ?_⟩, ?_⟩
    · rw [hnone (.inl h)] at he
      cases he
    · rw [hnone (.inr h)] at he
      cases he
    · intro h entry he
      rcases h with rfl | rfl <;> exact absurd (hentry.symm.trans he) nofun
  | some entry =>
    have hof (hdesired : action = .activate ∨ action = .verify) : w.journal.desired = some entry := by
      rwa [actionEntry, if_pos (.inr hdesired)] at hentry
    dsimp only
    split
    · rename_i hlane
      have hno : ∀ e, e = entry → unsupported lane e = false → False := by
        rintro e rfl h
        rw [hlane] at h
        cases h
      refine ends_return hw ⟨fun h _ e he hl => ?_, fun h _ => ⟨rfl, fun e he hl => ?_⟩, ?_⟩
      · exact (hno e (Option.some.inj (he.symm.trans (hof (.inl h)))) hl).elim
      · exact (hno e (Option.some.inj (he.symm.trans (hof (.inr h)))) hl).elim
      · intro h e he hl
        have he' : e = entry := by
          rcases h with rfl | rfl <;> exact Option.some.inj (he.symm.trans hentry)
        exact (hno e he' hl).elim
    · rename_i hlane
      have hlane := Bool.eq_false_iff.mpr hlane
      have hback (h : action = .rollback ∨ action = .restore) :
          Ends jsonLength lane (Outcome jsonLength lane action w) (goBack jsonLength lane entry) w := by
        have happlied : entry ∈ w.journal.applied := by
          rcases h with rfl | rfl <;> exact hentry
        refine (goBack_ends hw (hvalid.applied entry happlied) happlied hlane).post
          fun r u hu => ⟨hu.1, ?_⟩
        refine ⟨fun h' => ?_, fun h' => ?_, fun _ e he _ => .inr ?_⟩
        · rcases h with rfl | rfl <;> cases h'
        · rcases h with rfl | rfl <;> cases h'
        · obtain rfl := Option.some.inj (happlied.symm.trans he)
          exact hu.2
      have hquiet {p : RuntimeProgram Value} (hp : Ends jsonLength lane (fun _ _ => True) p w)
          (h₁ : action ≠ .activate) (h₂ : action ≠ .verify) (h₃ : action ≠ .rollback)
          (h₄ : action ≠ .restore) : Ends jsonLength lane (Outcome jsonLength lane action w) p w :=
        hp.post fun r u hu => ⟨hu.1, .of_quiet h₁ h₂ h₃ h₄⟩
      have hkeep (reports : Bool) : Ends jsonLength lane (fun _ _ => True)
          (keep jsonLength lane reports entry) w :=
        (keep_ends hw reports).post fun r u hu => ⟨hu.1, trivial⟩
      cases action with
      | prepare => exact hquiet (prepare_ends hw _) nofun nofun nofun nofun
      | activate =>
        have hdesired := hof (.inl rfl)
        refine (activate_ends hw (hvalid.desired entry hdesired) hlane).post fun r u hu => ⟨hu.1, ?_⟩
        refine ⟨fun _ hr e he _ => ?_, nofun, fun h => by rcases h with h | h <;> cases h⟩
        obtain rfl := Option.some.inj (hdesired.symm.trans he)
        exact hu.2 hr
      | verify =>
        have hdesired := hof (.inr rfl)
        refine (keep_ends hw true).post fun r u hu => ⟨hu.1, ?_⟩
        refine ⟨nofun, fun _ hr => ⟨(hu.2 hr).1, fun e he _ => ?_⟩,
          fun h => by rcases h with h | h <;> cases h⟩
        obtain rfl := Option.some.inj (hdesired.symm.trans he)
        exact (hu.2 hr).2
      | rollback => exact hback (.inl rfl)
      | restore => exact hback (.inr rfl)
      | status => exact hquiet (hkeep true) nofun nofun nofun nofun
      | _ => exact hquiet (hkeep false) nofun nofun nofun nofun

theorem run_ends (hw : Recoverable jsonLength lane w) (hvalid : w.journal.Valid)
    (hordered : Ordered w.journal) (action : RuntimeAction) (path : String) (requested : Value) :
    Ends jsonLength lane (Outcome jsonLength lane action w)
      (run jsonLength lane action path requested) w := by
  have hrefused {code : String} (hcode : failure code ∈ unheard) :
      Outcome jsonLength lane action w (failure code) w :=
    ⟨fun _ => nofun, fun _ => nofun, fun _ _ _ _ => .inl hcode⟩
  unfold run
  split
  · exact ends_return hw (hrefused (by simp [unheard]))
  split
  · exact ends_return hw (hrefused (by simp [unheard]))
  have hjournal : Ends jsonLength lane (fun r u => u = w ∧ ∀ s ∈ r, s = w.journal)
      (ask .journal) w := by
    refine ⟨hw, fun r u hstep => ?_⟩
    cases hstep with
    | journal _ r h => exact ⟨hw, rfl, h⟩
  refine ends_bind hjournal fun read u hu ⟨he, hread⟩ => ?_
  subst he
  cases read with
  | none => exact ends_return hu (hrefused (by simp [unheard]))
  | some state =>
    obtain rfl := hread state rfl
    have hrouter : Ends jsonLength lane (fun _ v => v = u) (ask .routerId) u := by
      refine ⟨hu, fun r v hstep => ?_⟩
      cases hstep
      exact ⟨hu, rfl⟩
    refine ends_bind hrouter fun routerId v hv he => ?_
    subst he
    split
    · exact ends_return hv (hrefused (by simp [unheard]))
    · have hquiet {p : RuntimeProgram Value} (hp : Ends jsonLength lane (fun _ _ => True) p v)
          (h₁ : action ≠ .activate) (h₂ : action ≠ .verify) (h₃ : action ≠ .rollback)
          (h₄ : action ≠ .restore) : Ends jsonLength lane (Outcome jsonLength lane action v) p v :=
        hp.post fun r x hx => ⟨hx.1, .of_quiet h₁ h₂ h₃ h₄⟩
      cases action with
      | disableAwg | fallbackAwg =>
        exact hquiet (optionalAwg_ends hv hvalid hordered _ _) nofun nofun nofun nofun
      | probeInfo | probeInfoLive | selectProfile | commitProfile =>
        exact hquiet (probing_ends hv hordered _ _) nofun nofun nofun nofun
      | _ => exact advance_ends hv hvalid _

/-! Histories. -/

theorem fileStep_journal {c : RuntimeCall} {r : c.Answer} {u : RuntimeWorld} (h : FileStep c w r u) :
    u.journal = w.journal := by
  cases h <;> rfl

theorem exec_journal {α : Type} {p : RuntimeProgram α} {tr : List (Event RuntimeCall _)}
    {o : Option α} {u : RuntimeWorld} (h : Exec FileStep p w tr u o) : u.journal = w.journal := by
  induction h with
  | stop => rfl
  | done => rfl
  | call hstep _ ih => exact ih.trans (fileStep_journal hstep)

section

variable (jsonLength : Value → Nat) (lane : String)

/-- Actions that may be cut off; journals that keep the applied entry; and the journal that makes the
desired entry the applied one after it has been verified. -/
inductive Step : RuntimeWorld → RuntimeWorld → Prop
  | act {w u : RuntimeWorld} {action : RuntimeAction} {path : String} {requested : Value}
    {tr : List (Event RuntimeCall RuntimeCall.Answer)} {o : Option Value}
    (h : Exec FileStep (run jsonLength lane action path requested) w tr u o) : Step w u
  | journal {w : RuntimeWorld} {s : State} (hvalid : s.Valid) (hordered : Ordered s)
    (happlied : s.applied = w.journal.applied) : Step w { w with journal := s }
  | accept {w u : RuntimeWorld} {path : String} {requested r : Value} {s : State}
    {tr : List (Event RuntimeCall RuntimeCall.Answer)}
    (h : Exec FileStep (run jsonLength lane .verify path requested) w tr u (some r))
    (hr : (r.get "ok").isTrue = true) (hvalid : s.Valid) (hordered : Ordered s)
    (happlied : s.applied = u.journal.desired) : Step w { u with journal := s }

abbrev Runs : RuntimeWorld → RuntimeWorld → Prop := Relation.ReflTransGen (Step jsonLength lane)

/-- The journal is valid and its attempts go up, and there is a bundle to roll back to. -/
structure Sound (w : RuntimeWorld) : Prop where
  valid : w.journal.Valid
  ordered : Ordered w.journal
  recoverable : Recoverable jsonLength lane w

end

theorem Sound.run (h : Sound jsonLength lane w) {action : RuntimeAction} {path : String}
    {requested : Value} {tr : List (Event RuntimeCall RuntimeCall.Answer)} {o : Option Value}
    {u : RuntimeWorld} (he : Exec FileStep (run jsonLength lane action path requested) w tr u o) :
    Sound jsonLength lane u := by
  have hends := run_ends h.recoverable h.valid h.ordered action path requested
  have hjournal := exec_journal he
  exact ⟨hjournal ▸ h.valid, hjournal ▸ h.ordered,
    Sat.invariant (hends.post fun _ _ hu => hu.1) he⟩

theorem Sound.step {u : RuntimeWorld} (h : Sound jsonLength lane w)
    (hstep : Step jsonLength lane w u) : Sound jsonLength lane u := by
  cases hstep with
  | act he => exact h.run he
  | journal hvalid hordered happlied =>
    refine ⟨hvalid, hordered, fun entry he => ?_⟩
    exact h.recoverable entry (happlied ▸ he)
  | @accept u path requested _ s _ he hr hvalid hordered happlied =>
    refine ⟨hvalid, hordered, fun entry hentry hlane => .inl (.inl ?_)⟩
    have hends := run_ends h.recoverable h.valid h.ordered .verify path requested
    obtain ⟨hjournal, hverified⟩ := (hends.result he).2.verified rfl hr
    have hdesired : entry ∈ w.journal.desired := by
      rw [← hjournal, ← happlied]
      exact hentry
    exact hverified entry hdesired hlane

theorem Sound.runs {u : RuntimeWorld} (h : Sound jsonLength lane w)
    (hruns : Runs jsonLength lane w u) : Sound jsonLength lane u := by
  induction hruns with
  | refl => exact h
  | tail _ hstep ih => exact ih.step hstep

/-- Whatever actions the helper has been asked for, wherever they were cut off and whichever of their
writes failed, the applied entry of the journal has a bundle that a rollback goes back to, and a rollback
that ends installs it unless a write fails or the bundle is one of an older version. An activation that
succeeds has installed the desired entry. -/
theorem rollback_kept {jsonLength : Value → Nat} {lane : String} {w u : RuntimeWorld}
    (hstart : Sound jsonLength lane w) (hruns : Runs jsonLength lane w u) :
    Recoverable jsonLength lane u ∧
    ∀ action path requested tr r v,
      Exec FileStep (run jsonLength lane action path requested) u tr v (some r) →
      Outcome jsonLength lane action u r v := by
  have hsound := hstart.runs hruns
  exact ⟨hsound.recoverable, fun action path requested tr r v he =>
    ((run_ends hsound.recoverable hsound.valid hsound.ordered action path requested).result he).2⟩

namespace SlotSample

/-- The bytes of each of the two bundles. -/
def printedLength : Value → Nat := fun _ => 2711

def entryOf (attempt : Nat) : Entry :=
  ⟨⟨String.ofList ('"' :: List.replicate 64 'a' ++ ['"']), by decide +kernel⟩,
    ⟨PlanSample.snapshot, by decide +kernel⟩, attempt⟩

def applied : Entry := entryOf 1

def desired : Entry := entryOf 2

def journal (phase : Phase) : State :=
  { Machine.initialState with sequence := 2, phase := phase, desired := some desired,
                              applied := some applied }

theorem journal_valid {phase : Phase} (hidle : phase ≠ .idle) (hclosed : phase ≠ .failClosed) :
    (journal phase).Valid where
  sequence_le := (by decide : 2 ≤ maxSafeInteger)
  desired := fun e he => Option.some.inj he ▸ ⟨(by decide : 1 ≤ 2), (by decide : 2 ≤ 2)⟩
  applied := fun e he => Option.some.inj he ▸ ⟨(by decide : 1 ≤ 1), (by decide : 1 ≤ 2)⟩
  lastGood := nofun
  lastGood_applied := nofun
  activeProfile_applied := nofun
  failClosed := fun h => absurd h hclosed
  idle_iff := ⟨fun h => absurd h hidle, nofun⟩
  pending := nofun

theorem journal_ordered (phase : Phase) : Ordered (journal phase) where
  lastGood := nofun
  desired := fun d hd a ha => by
    obtain rfl := Option.some.inj hd
    obtain rfl := Option.some.inj ha
    exact ⟨le_rfl, by decide⟩
  applied_le := fun a ha => Option.some.inj ha ▸ (by decide : 1 ≤ 2)
  desired_le := fun d hd => Option.some.inj hd ▸ (by decide : 2 ≤ 2)

@[irreducible]
def bundleOf (entry : Entry) : Value :=
  (make printedLength "vpn" entry PlanSample.policy .null).toOption.getD .null

theorem applied_bundle : isBundle printedLength "vpn" (bundleOf applied) applied = true := by
  decide +kernel

/-- The next attempt is prepared and about to be activated. -/
def start : RuntimeWorld where
  files
    | .current => bundleOf applied
    | .prepared => bundleOf desired
    | _ => .null
  journal := journal .activating

theorem start_sound : Sound printedLength "vpn" start where
  valid := journal_valid nofun nofun
  ordered := journal_ordered _
  recoverable := fun e he _ => by
    obtain rfl := Option.some.inj he
    exact .inl (.inl applied_bundle)

/-- The configuration cannot be written. -/
def answer : (c : RuntimeCall) → RuntimeWorld → Option (c.Answer × RuntimeWorld)
  | .journal, w => some (some w.journal, w)
  | .routerId, w => some (.string "router-0001", w)
  | .policy, w => some (PlanSample.policy, w)
  | .read file, w => some (w.files file, w)
  | .write file value, w =>
    if file = .candidate then some (false, w) else some (true, store w file value)

theorem answer_step (c : RuntimeCall) (w : RuntimeWorld) (r : c.Answer) (u : RuntimeWorld)
    (h : answer c w = some (r, u)) : FileStep c w r u := by
  cases c with
  | journal =>
    obtain ⟨rfl, rfl⟩ := Prod.mk.inj (Option.some.inj h)
    exact .journal w _ fun s hs => (Option.some.inj hs).symm
  | routerId =>
    obtain ⟨rfl, rfl⟩ := Prod.mk.inj (Option.some.inj h)
    exact .routerId w _
  | policy =>
    obtain ⟨rfl, rfl⟩ := Prod.mk.inj (Option.some.inj h)
    exact .policy w _
  | read file =>
    obtain ⟨rfl, rfl⟩ := Prod.mk.inj (Option.some.inj h)
    exact .read w file
  | write file value =>
    rw [answer] at h
    split at h
    · obtain ⟨rfl, rfl⟩ := Prod.mk.inj (Option.some.inj h)
      exact .refused w file value
    · obtain ⟨rfl, rfl⟩ := Prod.mk.inj (Option.some.inj h)
      exact .written w file value

def activated : RuntimeWorld × Option Value :=
  Program.play answer (run printedLength "vpn" .activate "/etc/autovpn/state/journal.json" .null)
    start

theorem activated_exec : ∃ tr, Exec FileStep
    (run printedLength "vpn" .activate "/etc/autovpn/state/journal.json" .null) start tr
    activated.1 activated.2 := by
  unfold activated
  exact Program.play_exec answer_step _ start

/-- The activation has failed after it had replaced the current bundle. -/
def replaced : RuntimeWorld := { activated.1 with journal := journal .rollingBack }

theorem replaced_runs : Runs printedLength "vpn" start replaced := by
  obtain ⟨tr, htr⟩ := activated_exec
  have happlied : (journal .rollingBack).applied = activated.1.journal.applied := by
    rw [exec_journal htr]
    rfl
  exact .tail (.single (.act htr)) (.journal (journal_valid nofun nofun) (journal_ordered _) happlied)

end SlotSample

open SlotSample in
/-- The current bundle is that of the failed attempt, and a rollback goes back to the one before. -/
theorem rollback_kept_replaced :
    isBundle printedLength "vpn" (replaced.files .current) desired = true ∧
      ∀ path requested tr r v,
        Exec FileStep (run printedLength "vpn" .rollback path requested) replaced tr v (some r) →
        r ∈ unheard ∨ WentBack printedLength "vpn" replaced applied r v := by
  refine ⟨by decide +kernel, fun path requested tr r v he => ?_⟩
  exact ((rollback_kept start_sound replaced_runs).2 .rollback path requested tr r v he).returned
    (.inl rfl) applied rfl (by decide +kernel)

end RuntimeHelper

end AutoVPN
