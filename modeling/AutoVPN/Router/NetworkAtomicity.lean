import AutoVPN.Router.Networks

/-! What the network transaction writes, whatever fails and whoever edits the files: backups go
back over what the transaction wrote, and nothing else is overwritten knowingly. -/

namespace AutoVPN

open Program

namespace Network

/-- Unless somebody else has edited the file since it was read or written, it is `contents`. -/
def Seen (w : NetWorld) (n : NetConfig) (contents : Option String) : Prop :=
  w.edited n = false → w.files n = contents

/-- A journal is followed by one that is not older, and a confirmed one by a new transaction. -/
def Follows : NetJournal → NetState → Prop
  | .state old, s => old.sequence ≤ s.sequence ∧ (old.phase = .confirmed → old.sequence < s.sequence)
  | _, _ => True

structure SaveSafe (w : NetWorld) (s : NetState) : Prop where
  rolledBack : s.phase = .rolledBack → ∀ n, Seen w n (s.before n)
  confirmed : s.phase = .confirmed → ∀ n, Seen w n (s.after n)
  follows : Follows w.journal s

def WriteSafe (w : NetWorld) (n : NetConfig) (raw : Option String) : Prop :=
  ∃ s, w.journal = .state s ∧ unconfirmed s.phase = true ∧
    (w.edited n = false → w.files n = s.before n ∨ w.files n = s.after n) ∧
    (raw = s.before n ∨
      raw = s.after n ∧ s.phase = .pending ∧ w.closed = true ∧ w.watching = true)

def Safe : NetCall → NetWorld → Prop
  | .save s, w => SaveSafe w s
  | .write n raw, w => WriteSafe w n raw
  | _, _ => True

abbrev Keeps {α : Type} (Q : α → NetWorld → Prop) (p : Net α) (w : NetWorld) : Prop :=
  Sat NetStep Safe Q p w

theorem mem_configs (n : NetConfig) : n ∈ configs := by cases n <;> decide

theorem nodup_configs : configs.Nodup := by decide

/-- Later in the same command; the files `names` may have been read or written. -/
structure Later (names : List NetConfig) (w w' : NetWorld) : Prop where
  journal : w'.journal = w.journal
  closed : w.closed = true → w'.closed = true
  watching : w.watching = true → w'.watching = true
  touched : ∀ n, w'.touched n = false → w.touched n = false
  edited : ∀ n ∉ names, w'.edited n = false → w.edited n = false ∧ w'.files n = w.files n

/-- Later, with nothing written. -/
structure Passive (names : List NetConfig) (w w' : NetWorld) : Prop extends Later names w w' where
  files : ∀ n, w'.touched n = false → w'.files n = w.files n

variable {w w' w'' : NetWorld} {names : List NetConfig}

theorem Later.refl (w : NetWorld) : Later names w w :=
  ⟨rfl, id, id, fun _ => id, fun _ _ h => ⟨h, rfl⟩⟩

theorem Later.trans (h : Later names w w') (h' : Later names w' w'') : Later names w w'' :=
  ⟨h'.journal.trans h.journal, fun hc => h'.closed (h.closed hc),
    fun hc => h'.watching (h.watching hc), fun n hn => h.touched n (h'.touched n hn),
    fun n hn he => by
      obtain ⟨he', hf'⟩ := h'.edited n hn he
      obtain ⟨he, hf⟩ := h.edited n hn he'
      exact ⟨he, hf'.trans hf⟩⟩

theorem Later.mono {m : List NetConfig} (h : Later names w w') (hsub : names ⊆ m) :
    Later m w w' :=
  ⟨h.journal, h.closed, h.watching, h.touched, fun n hn => h.edited n fun hm => hn (hsub hm)⟩

theorem Passive.refl (w : NetWorld) : Passive names w w := ⟨.refl w, fun _ _ => rfl⟩

theorem Passive.trans (h : Passive names w w') (h' : Passive names w' w'') :
    Passive names w w'' :=
  ⟨h.toLater.trans h'.toLater,
    fun n hn => (h'.files n hn).trans (h.files n (h'.touched n hn))⟩

theorem Passive.mono {m : List NetConfig} (h : Passive names w w') (hsub : names ⊆ m) :
    Passive m w w' := ⟨h.toLater.mono hsub, h.files⟩

theorem Later.seen {n : NetConfig} {contents : Option String} (h : Later names w w')
    (hn : n ∉ names) (hs : Seen w n contents) : Seen w' n contents := by
  intro he
  obtain ⟨he, hf⟩ := h.edited n hn he
  exact hf.trans (hs he)

theorem untouched_unedited (w : NetWorld) {n : NetConfig} (h : w.touched n = false) :
    w.edited n = false := by
  by_contra he
  rw [Bool.not_eq_false] at he
  simp [w.touched_of_edited n he] at h

theorem passive_edit (w : NetWorld) (g : NetConfig → Option String) :
    Passive [] w (w.edit g) := by
  have hsame (b : Bool) (n : NetConfig) (h : (b || decide (g n ≠ w.files n)) = false) :
      b = false ∧ g n = w.files n := by simpa using h
  exact ⟨⟨rfl, id, id, fun n h => (hsame _ n h).1, fun n _ h => hsame _ n h⟩,
    fun n h => (hsame _ n h).2⟩

/-- An operation that changes nothing in the router that is tracked. -/
def Inert : NetCall → Prop
  | .clean | .reload | .now | .uptime | .stage _ | .ready _ => True
  | _ => False

theorem keeps_ask {c : NetCall} (hc : Inert c) :
    Keeps (fun _ w' => Passive [] w w') (ask c) w := by
  cases c
  all_goals first
    | exact hc.elim
    | exact ⟨trivial, fun r w' hs => by obtain ⟨g, rfl⟩ := hs; exact passive_edit w g⟩

theorem keeps_load :
    Keeps (fun r w' => Passive [] w w' ∧ (r = .unusable ∨ r = w'.journal)) (ask .load) w := by
  refine ⟨trivial, fun r w' hs => ?_⟩
  obtain ⟨g, rfl, hr⟩ := hs
  exact ⟨passive_edit w g, hr⟩

theorem keeps_close :
    Keeps (fun r w' => Passive [] w w' ∧ (r = true → w'.closed = true)) (ask .close) w := by
  refine ⟨trivial, fun r w' hs => ?_⟩
  obtain ⟨g, rfl⟩ := hs
  have h := passive_edit w g
  exact ⟨⟨⟨h.journal, fun hc => by simp [hc], h.watching, h.touched, h.edited⟩, h.files⟩,
    fun hr => by simp [show r = true from hr]⟩

theorem keeps_watch :
    Keeps (fun r w' => Passive [] w w' ∧ (r = true → w'.watching = true)) (ask .watch) w := by
  refine ⟨trivial, fun r w' hs => ?_⟩
  obtain ⟨g, rfl⟩ := hs
  have h := passive_edit w g
  exact ⟨⟨⟨h.journal, h.closed, fun hc => by simp [hc], h.touched, h.edited⟩, h.files⟩,
    fun hr => by simp [show r = true from hr]⟩

theorem keeps_read (name : NetConfig) :
    Keeps (fun r w' => Passive [name] w w' ∧ w'.edited name = false ∧ ReadsAs (w'.files name) r)
      (ask (.read name)) w := by
  refine ⟨trivial, fun r w' hs => ?_⟩
  obtain ⟨g, rfl, hr⟩ := hs
  have h := passive_edit w g
  refine ⟨⟨⟨h.journal, h.closed, h.watching, h.touched, fun n hn he => ?_⟩, h.files⟩,
    Function.update_self .., hr⟩
  have hne : n ≠ name := fun heq => hn (by simp [heq])
  have he : (w.edit g).edited n = false := by
    change Function.update (w.edit g).edited name false n = false at he
    rwa [Function.update_of_ne hne] at he
  exact h.edited n (by simp) he

theorem eq_of_fits {contents answer : Option String} (h : ReadsAs contents answer)
    (hf : fits answer = true) : contents = answer := by
  rcases h with rfl | rfl | ⟨hno, -⟩
  · cases hf
  · rfl
  · simp [hno] at hf

theorem keeps_write {name : NetConfig} {raw : Option String} (hw : WriteSafe w name raw) :
    Keeps (fun r w' => Later [name] w w' ∧ (r = true → Seen w' name raw))
      (ask (.write name raw)) w := by
  refine ⟨hw, fun r w' hs => ?_⟩
  obtain ⟨g, hs⟩ := hs
  have h := passive_edit w g
  rcases hs with rfl | ⟨rfl, rfl⟩
  · refine ⟨⟨h.journal, h.closed, h.watching, h.touched, fun n hn he => ?_⟩, fun _ _ =>
      Function.update_self ..⟩
    have hne : n ≠ name := fun heq => hn (by simp [heq])
    have he : (w.edit g).edited n = false := by
      change Function.update (w.edit g).edited name false n = false at he
      rwa [Function.update_of_ne hne] at he
    obtain ⟨he, hf⟩ := h.edited n (by simp) he
    exact ⟨he, (Function.update_of_ne hne ..).trans hf⟩
  · exact ⟨h.toLater.mono (by simp), nofun⟩

theorem keeps_save {s : NetState} (hs : SaveSafe w s) :
    Keeps (fun r w' => (∀ n, w'.touched n = false → w.touched n = false ∧ w'.files n = w.files n) ∧
      (∀ n, w'.edited n = false → w.edited n = false ∧ w'.files n = w.files n) ∧
      (w'.journal = .state s ∨ r = false ∧ w'.journal = w.journal) ∧
      (w.closed = true → w'.closed = true)) (ask (.save s)) w := by
  refine ⟨hs, fun r w' hstep => ?_⟩
  obtain ⟨g, hstep⟩ := hstep
  have h := passive_edit w g
  rcases hstep with rfl | ⟨rfl, rfl⟩
  · exact ⟨fun n hn => ⟨h.touched n hn, h.files n hn⟩, fun n => h.edited n (by simp), .inl rfl,
      h.closed⟩
  · exact ⟨fun n hn => ⟨h.touched n hn, h.files n hn⟩, fun n => h.edited n (by simp),
      .inr ⟨rfl, rfl⟩, h.closed⟩

theorem Keeps.ite {α : Type} {Q : α → NetWorld → Prop} {b : Prop} [Decidable b] {p q : Net α}
    (hp : b → Keeps Q p w) (hq : ¬b → Keeps Q q w) : Keeps Q (if b then p else q) w := by
  split
  · exact hp ‹_›
  · exact hq ‹_›

theorem valid_fits {s : NetState} (h : valid s = true) (n : NetConfig) :
    fits (s.before n) = true ∧ fits (s.after n) = true := by
  unfold valid at h
  rw [Bool.and_eq_true, List.all_eq_true] at h
  simpa using h.2 n (mem_configs n)

theorem keeps_unchanged {contents : NetConfig → Option String} :
    ∀ (names : List NetConfig) {w : NetWorld}, names.Nodup → (∀ n ∈ names, fits (contents n) = true) →
      Keeps (fun b w' => Passive names w w' ∧ (b = true → ∀ n ∈ names, Seen w' n (contents n)))
        (unchanged contents names) w
  | [], w, _, _ => ⟨.refl w, by simp⟩
  | name :: rest, w, hnodup, hfits => by
    refine Sat.bind ((keeps_read name).post fun r w₁ hr => ?_)
    obtain ⟨hpassive, -, hreads⟩ := hr
    have hpassive := hpassive.mono (m := name :: rest) (by simp)
    refine Keeps.ite (fun _ => ⟨hpassive, nofun⟩) fun hsame => ?_
    obtain rfl : r = contents name := by simpa using hsame
    have heq := eq_of_fits hreads (hfits name List.mem_cons_self)
    have hnodup := List.nodup_cons.mp hnodup
    refine (keeps_unchanged rest hnodup.2 fun n hn =>
      hfits n (List.mem_cons_of_mem _ hn)).post fun b w' h => ?_
    refine ⟨hpassive.trans (h.1.mono (by simp)), fun hb n hn => ?_⟩
    rcases List.mem_cons.mp hn with rfl | hn
    · exact h.1.toLater.seen hnodup.1 fun _ => heq
    · exact h.2 hb n hn

theorem keeps_readAll :
    ∀ (names : List NetConfig) (before : NetConfig → Option String) {w : NetWorld},
      Keeps (fun r w' => Passive names w w' ∧ ∀ found, r = some found → ∀ n,
        (n ∉ names → found n = before n) ∧
          (n ∈ names → fits (found n) = true ∧ (w'.touched n = false → w'.files n = found n)))
        (readAll names before) w
  | [], before, w => ⟨.refl w, fun found h n => by
      obtain rfl := Option.some.inj h
      simp⟩
  | name :: rest, before, w => by
    refine Sat.bind ((keeps_read name).post fun contents w₁ hr => ?_)
    obtain ⟨hpassive, -, hreads⟩ := hr
    have hpassive := hpassive.mono (m := name :: rest) (by simp)
    refine Keeps.ite (fun _ => ⟨hpassive, nofun⟩) fun hfits => ?_
    have hfits : fits contents = true := by simpa using hfits
    have heq := eq_of_fits hreads hfits
    refine (keeps_readAll rest _).post fun r w' h => ?_
    refine ⟨hpassive.trans (h.1.mono (by simp)), fun found hfound n => ?_⟩
    obtain ⟨hout, hin⟩ := h.2 found hfound n
    refine ⟨fun hn => ?_, fun hn => ?_⟩
    · have hne : n ≠ name ∧ n ∉ rest := by simpa using hn
      rw [hout hne.2, Function.update_of_ne hne.1]
    · by_cases hrest : n ∈ rest
      · exact hin hrest
      · obtain rfl : n = name := by simpa [hrest] using hn
        have hval : found n = contents := by rw [hout hrest, Function.update_self]
        rw [hval]
        exact ⟨hfits, fun ht => (h.1.files n ht).trans heq⟩

/-- The journal holds the backups of `s`. -/
def Backup (w : NetWorld) (s : NetState) : Prop :=
  ∃ t, w.journal = .state t ∧ unconfirmed t.phase = true ∧ t.before = s.before ∧
    t.after = s.after ∧ t.sequence = s.sequence

theorem Later.backup {s : NetState} (h : Later names w w') (hb : Backup w s) : Backup w' s := by
  obtain ⟨t, ht, hrest⟩ := hb
  exact ⟨t, h.journal.trans ht, hrest⟩

theorem keeps_restore {s : NetState} (hs : valid s = true) :
    ∀ (names : List NetConfig) (conflict : Bool) {w : NetWorld}, names.Nodup → Backup w s →
      Keeps (fun c w' => Later names w w' ∧
        (c = false → conflict = false ∧ ∀ n ∈ names, Seen w' n (s.before n)))
        (restore s names conflict) w
  | [], conflict, w, _, _ => ⟨.refl w, fun hc => ⟨hc, by simp⟩⟩
  | name :: rest, conflict, w, hnodup, hb => by
    have hnodup := List.nodup_cons.mp hnodup
    refine Sat.bind ((keeps_read name).post fun current w₁ hr => ?_)
    obtain ⟨hpassive, hedited, hreads⟩ := hr
    have hlater := hpassive.toLater.mono (m := name :: rest) (by simp)
    have hb₁ := hlater.backup hb
    -- What follows when the file is left as it is, or has been restored in `u`.
    have hnext (u : NetWorld) (hu : Later (name :: rest) w u) (conflict' : Bool)
        (hseen : conflict' = false → conflict = false ∧ Seen u name (s.before name)) :
        Keeps (fun c w' => Later (name :: rest) w w' ∧
          (c = false → conflict = false ∧ ∀ n ∈ name :: rest, Seen w' n (s.before n)))
          (restore s rest conflict') u := by
      refine (keeps_restore hs rest conflict' hnodup.2 (hu.backup hb)).post fun c w' h => ?_
      refine ⟨hu.trans (h.1.mono (by simp)), fun hc => ?_⟩
      obtain ⟨hconflict, hrest⟩ := h.2 hc
      obtain ⟨hold, hname⟩ := hseen hconflict
      refine ⟨hold, fun n hn => ?_⟩
      rcases List.mem_cons.mp hn with rfl | hn
      · exact h.1.seen hnodup.1 hname
      · exact hrest n hn
    refine Keeps.ite (fun hbefore => ?_) fun _ => Keeps.ite (fun _ => ?_) fun hafter => ?_
    · subst hbefore
      have heq := eq_of_fits hreads (valid_fits hs name).1
      exact hnext w₁ hlater conflict fun hc => ⟨hc, fun _ => heq⟩
    · exact hnext w₁ hlater true nofun
    · obtain rfl : current = s.after name := by simpa using hafter
      have heq := eq_of_fits hreads (valid_fits hs name).2
      obtain ⟨t, ht, hphase, hbefore, hafter', -⟩ := hb₁
      have hsafe : WriteSafe w₁ name (s.before name) :=
        ⟨t, ht, hphase, fun _ => .inr (by rw [hafter', heq]), .inl (by rw [hbefore])⟩
      refine Sat.bind ((keeps_write hsafe).post fun written w₂ hwrite => ?_)
      have hlater₂ := hlater.trans (hwrite.1.mono (m := name :: rest) (by simp))
      refine Keeps.ite (fun _ => hnext w₂ hlater₂ true nofun) fun hwritten => ?_
      exact hnext w₂ hlater₂ conflict fun hc => ⟨hc, hwrite.2 (by simpa using hwritten)⟩

/-- A rollback is over: the files are the backups, or the journal still holds these. -/
def RolledOut (s : NetState) (w : NetWorld) : Prop :=
  (∀ n, w.touched n = false → w.files n = s.before n) ∨ Backup w s

theorem keeps_finishRollback {s : NetState} (hb : Backup w s) {failed : Bool}
    (hseen : failed = false → ∀ n, Seen w n (s.before n)) :
    Keeps (fun _ w' => RolledOut s w') (finishRollback s failed) w := by
  obtain ⟨t, ht, hphase, hbefore, hafter, hseq⟩ := hb
  have hfollows (e : NetState) (he : e.sequence = s.sequence) : Follows w.journal e := by
    rw [ht]
    refine ⟨(hseq.trans he.symm).le, fun hc => ?_⟩
    rw [hc] at hphase
    cases hphase
  have hsafe : SaveSafe w { s with phase := if failed then .rollbackConflict else .rolledBack
                                   ready := false } := by
    refine ⟨fun hp n => ?_, fun hp => ?_, hfollows _ rfl⟩
    · cases failed
      · exact hseen rfl n
      · cases hp
    · cases failed <;> cases hp
  refine Sat.bind ((keeps_save hsafe).post fun written w' h => ?_)
  obtain ⟨htouched, -, hjournal, -⟩ := h
  have hout : RolledOut s w' := by
    cases failed with
    | false =>
      refine .inl fun n hn => ?_
      obtain ⟨hn, hf⟩ := htouched n hn
      exact hf.trans (hseen rfl n (untouched_unedited w hn))
    | true =>
      rcases hjournal with hj | ⟨-, hj⟩
      · exact .inr ⟨_, hj, rfl, rfl, rfl, rfl⟩
      · exact .inr ⟨t, hj.trans ht, hphase, hbefore, hafter, hseq⟩
  exact Keeps.ite (fun _ => hout) fun _ => hout

theorem keeps_rollback {s : NetState} (hs : valid s = true) (hb : Backup w s) (boot : Bool) :
    Keeps (fun _ w' => RolledOut s w') (rollback s boot) w := by
  have hclose : Keeps (fun _ w' => Later [] w w') (if boot then .done true else ask .close) w :=
    Keeps.ite (fun _ => .refl w) fun _ => keeps_close.post fun _ _ h => h.1.toLater
  refine Sat.bind (hclose.post fun safe w₁ h₁ => ?_)
  refine Sat.bind ((keeps_restore hs configs false nodup_configs (h₁.backup hb)).post
    fun conflict w₂ h₂ => ?_)
  have hreload : Keeps (fun _ w' => Later [] w₂ w') (if boot then .done true else ask .reload) w₂ :=
    Keeps.ite (fun _ => .refl w₂) fun _ => (keeps_ask (c := .reload) trivial).post fun _ _ h => h.toLater
  refine Sat.bind (hreload.post fun reloaded w₃ h₃ => ?_)
  refine keeps_finishRollback (h₃.backup (h₂.1.backup (h₁.backup hb))) fun hfailed n => ?_
  have hconflict : conflict = false := by
    cases conflict
    · rfl
    · simp at hfailed
  exact h₃.seen (by simp) ((h₂.2 hconflict).2 n (mem_configs n))

theorem keeps_status :
    Keeps (fun _ w' => Passive [] w w') status w := by
  refine Sat.bind (keeps_load.post fun found w₁ h => ?_)
  cases found with
  | unusable => exact h.1
  | absent => exact h.1
  | state s => exact Keeps.ite (fun _ => h.1) fun _ => h.1

theorem keeps_gate : Keeps (fun _ _ => True) gate w := by
  refine Sat.bind (keeps_load.post fun found w₁ _ => ?_)
  cases found with
  | unusable => exact trivial
  | absent => exact trivial
  | state s => exact Keeps.ite (fun _ => trivial) fun _ => Keeps.ite (fun _ => trivial) fun _ => trivial

/-- A transaction is being installed: its journal is durable, the guard is closed and the watchdog
has been started. -/
structure Installing (s : NetState) (w : NetWorld) : Prop where
  journal : w.journal = .state s
  pending : s.phase = .pending
  closed : w.closed = true
  watching : w.watching = true

theorem Installing.backup {s : NetState} (h : Installing s w) : Backup w s :=
  ⟨s, h.journal, by rw [h.pending]; rfl, rfl, rfl, rfl⟩

theorem Installing.later {s : NetState} (h : Installing s w) (hl : Later names w w') :
    Installing s w' :=
  ⟨hl.journal.trans h.journal, h.pending, hl.closed h.closed, hl.watching h.watching⟩

theorem keeps_replace {s : NetState} (hs : valid s = true) :
    ∀ (names : List NetConfig) {w : NetWorld}, Installing s w →
      Keeps (fun _ w' => Later names w w') (replace s names) w
  | [], w, _ => .refl w
  | name :: rest, w, hinst => by
    refine Sat.bind ((keeps_read name).post fun current w₁ hr => ?_)
    obtain ⟨hpassive, -, hreads⟩ := hr
    have hlater := hpassive.toLater.mono (m := name :: rest) (by simp)
    refine Keeps.ite (fun _ => hlater) fun hsame => ?_
    have hcurrent : current = s.before name := by simpa using hsame
    rw [hcurrent] at hreads
    have heq := eq_of_fits hreads (valid_fits hs name).1
    have hinst₁ := hinst.later hlater
    have hsafe : WriteSafe w₁ name (s.after name) :=
      ⟨s, hinst₁.journal, by rw [hinst₁.pending]; rfl, fun _ => .inl heq,
        .inr ⟨rfl, hinst₁.pending, hinst₁.closed, hinst₁.watching⟩⟩
    refine Sat.bind ((keeps_write hsafe).post fun written w₂ hwrite => ?_)
    have hlater₂ := hlater.trans (hwrite.1.mono (m := name :: rest) (by simp))
    refine Keeps.ite (fun _ => hlater₂) fun _ => ?_
    exact (keeps_replace hs rest (hinst.later hlater₂)).post fun _ w' h =>
      hlater₂.trans (h.mono (by simp))

theorem keeps_install {s : NetState} (hs : valid s = true) (hj : w.journal = .state s)
    (hp : s.phase = .pending) (hc : w.closed = true) :
    Keeps (fun r w' => r.ok = false → RolledOut s w') (install s) w := by
  refine Sat.bind (keeps_watch.post fun watching w₁ h₁ => ?_)
  have hb₁ : Backup w₁ s :=
    h₁.1.toLater.backup ⟨s, hj, by rw [hp]; rfl, rfl, rfl, rfl⟩
  refine Keeps.ite (fun _ => ?_) fun hwatching => ?_
  · exact Sat.bind ((keeps_rollback hs hb₁ false).post fun _ _ h _ => h)
  have hinst₁ : Installing s w₁ :=
    ⟨h₁.1.journal.trans hj, hp, h₁.1.closed hc, h₁.2 (by simpa using hwatching)⟩
  refine Sat.bind ((keeps_replace hs configs hinst₁).post fun replaced w₂ h₂ => ?_)
  have hinst₂ := hinst₁.later h₂
  refine Keeps.ite (fun _ => ?_) fun _ => ?_
  · exact Sat.bind ((keeps_rollback hs hinst₂.backup false).post fun _ _ h _ => h)
  refine Sat.bind ((keeps_ask (c := .reload) trivial).post fun reloaded w₃ h₃ => ?_)
  have hinst₃ := hinst₂.later h₃.toLater
  refine Keeps.ite (fun _ => ?_) fun _ => ?_
  · exact Sat.bind ((keeps_rollback hs hinst₃.backup false).post fun _ _ h _ => h)
  have hsafe : SaveSafe w₃ { s with ready := true } := by
    refine ⟨fun hrolled => ?_, fun hconfirmed => ?_, ?_⟩
    · exact absurd (hp.symm.trans hrolled) (by simp)
    · exact absurd (hp.symm.trans hconfirmed) (by simp)
    · rw [hinst₃.journal]
      exact ⟨le_refl _, fun h => absurd (hp.symm.trans h) (by simp)⟩
  refine Sat.bind ((keeps_save hsafe).post fun saved w₄ h₄ => ?_)
  obtain ⟨-, -, hjournal, -⟩ := h₄
  have hb₄ : Backup w₄ s := by
    rcases hjournal with hj₄ | ⟨-, hj₄⟩
    · exact ⟨_, hj₄, by rw [hp]; rfl, rfl, rfl, rfl⟩
    · exact ⟨s, hj₄.trans hinst₃.journal, by rw [hp]; rfl, rfl, rfl, rfl⟩
  refine Keeps.ite (fun _ => ?_) fun _ => ?_
  · exact Sat.bind ((keeps_rollback (s := { s with ready := true }) hs hb₄ false).post
      fun _ _ h _ => h)
  · exact keeps_status.post fun _ _ h _ => .inr (h.toLater.backup hb₄)

theorem touched_of_step {c : NetCall} {r : c.Answer} (h : NetStep c w r w') (n : NetConfig)
    (hn : w'.touched n = false) : w.touched n = false := by
  obtain ⟨g, h⟩ := h
  have hedit := (passive_edit w g).touched n
  cases c
  case load =>
    obtain ⟨rfl, -⟩ := h
    exact hedit hn
  case save =>
    rcases h with rfl | ⟨-, rfl⟩
    · exact hedit hn
    · exact hedit hn
  case read =>
    obtain ⟨rfl, -⟩ := h
    exact hedit hn
  case write =>
    rcases h with rfl | ⟨-, rfl⟩
    · exact hedit hn
    · exact hedit hn
  all_goals
    subst h
    exact hedit hn

theorem Keeps.touched {α : Type} {Q : α → NetWorld → Prop} {p : Net α} (h : Keeps Q p w) :
    Keeps (fun a w' => Q a w' ∧ ∀ n, w'.touched n = false → w.touched n = false) p w := by
  induction p generalizing w with
  | done a => exact ⟨h, fun _ hn => hn⟩
  | call c next ih =>
    refine ⟨h.1, fun r w₁ hs => (ih r (h.2 r w₁ hs)).post fun a w' h' => ⟨h'.1, fun n hn => ?_⟩⟩
    exact touched_of_step hs n (h'.2 n hn)

/-- A begin has failed: the files that nobody else touched are as before, or the journal holds
their backups. -/
def Undone (files : NetConfig → Option String) (w : NetWorld) : Prop :=
  (∀ n, w.touched n = false → w.files n = files n) ∨
    ∃ s, w.journal = .state s ∧ unconfirmed s.phase = true ∧
      ∀ n, w.touched n = false → s.before n = files n

/-- The files that nobody has touched are still `files`. -/
def Original (files : NetConfig → Option String) (w : NetWorld) : Prop :=
  ∀ n, w.touched n = false → w.files n = files n

theorem Original.passive {files : NetConfig → Option String} (h : Original files w)
    (hp : Passive names w w') : Original files w' :=
  fun n hn => (hp.files n hn).trans (h n (hp.touched n hn))

theorem keeps_commit {s : NetState} {files : NetConfig → Option String} (hp : s.phase = .pending)
    (horiginal : Original files w) (hfollows : Follows w.journal s)
    (hbackup : ∀ n, w.touched n = false → s.before n = files n) :
    Keeps (fun r w' => r.ok = false → Undone files w') (commit s) w := by
  refine Keeps.ite (fun _ _ => .inl horiginal) fun hvalid => ?_
  have hs : valid s = true := by simpa using hvalid
  refine Sat.bind ((keeps_ask (c := .clean) trivial).post fun _ w₁ h₁ => ?_)
  refine Keeps.ite (fun _ _ => .inl (horiginal.passive h₁)) fun _ => ?_
  refine Sat.bind ((keeps_unchanged configs nodup_configs fun n _ => (valid_fits hs n).1).post
    fun _ w₂ h₂ => ?_)
  have h₂ := (h₁.mono (m := configs) (by simp)).trans h₂.1
  refine Keeps.ite (fun _ _ => .inl (horiginal.passive h₂)) fun _ => ?_
  refine Sat.bind (keeps_close.post fun closed w₃ h₃ => ?_)
  have hclosed := h₃.2
  have h₃ := h₂.trans (h₃.1.mono (m := configs) (by simp))
  refine Keeps.ite (fun _ _ => .inl (horiginal.passive h₃)) fun hok => ?_
  have hsafe : SaveSafe w₃ s := by
    refine ⟨fun hrolled => ?_, fun hconfirmed => ?_, h₃.journal ▸ hfollows⟩
    · exact absurd (hp.symm.trans hrolled) (by simp)
    · exact absurd (hp.symm.trans hconfirmed) (by simp)
  refine Sat.bind ((keeps_save hsafe).post fun saved w₄ h₄ => ?_)
  obtain ⟨htouched, -, hjournal, hc⟩ := h₄
  have horiginal₄ : Original files w₄ := by
    intro n hn
    obtain ⟨hn, hf⟩ := htouched n hn
    exact hf.trans (horiginal.passive h₃ n hn)
  refine Keeps.ite (fun _ _ => .inl horiginal₄) fun hsaved => ?_
  have hj₄ : w₄.journal = .state s := by
    rcases hjournal with hj | ⟨hno, -⟩
    · exact hj
    · simp [hno] at hsaved
  refine (keeps_install hs hj₄ hp (hc (hclosed (by simpa using hok)))).touched.post
    fun r w' h hr => ?_
  obtain ⟨hout, htouched'⟩ := h
  have hsame (n : NetConfig) (hn : w'.touched n = false) : s.before n = files n :=
    hbackup n (h₃.touched n (htouched n (htouched' n hn)).1)
  rcases hout hr with hfiles | ⟨t, ht, hphase, hbefore, -⟩
  · exact .inl fun n hn => (hfiles n hn).trans (hsame n hn)
  · exact .inr ⟨t, ht, hphase, fun n hn => by rw [hbefore, hsame n hn]⟩

theorem keeps_beginFrom {old : Option NetState} {files : NetConfig → Option String}
    (horiginal : Original files w)
    (hold : ∀ s, w.journal = .state s → old = some s) :
    Keeps (fun r w' => r.ok = false → Undone files w') (beginFrom old) w := by
  refine Sat.bind ((keeps_ask (c := .clean) trivial).post fun _ w₁ h₁ => ?_)
  refine Keeps.ite (fun _ _ => .inl (horiginal.passive h₁)) fun _ => ?_
  refine Sat.bind ((keeps_readAll configs _).post fun found w₂ h₂ => ?_)
  have hpassive := (h₁.mono (m := configs) (by simp)).trans h₂.1
  cases found with
  | none => exact fun _ => .inl (horiginal.passive hpassive)
  | some before =>
    refine Sat.bind ((keeps_ask (c := .stage before) trivial).post fun staged w₃ h₃ => ?_)
    have h₃' := h₃
    have h₃ := hpassive.trans (h₃.mono (m := configs) (by simp))
    cases staged with
    | inl code => exact fun _ => .inl (horiginal.passive h₃)
    | inr staged =>
      refine Sat.bind ((keeps_ask (c := .now) trivial).post fun now₁ w₄ h₄ => ?_)
      refine Sat.bind ((keeps_ask (c := .now) trivial).post fun now₂ w₅ h₅ => ?_)
      refine Sat.bind ((keeps_ask (c := .uptime) trivial).post fun uptime w₆ h₆ => ?_)
      have hstaged := h₃'.trans (h₄.trans (h₅.trans h₆))
      have h₆ := h₃.trans ((h₄.trans (h₅.trans h₆)).mono (m := configs) (by simp))
      cases uptime with
      | none => exact fun _ => .inl (horiginal.passive h₆)
      | some uptime =>
        refine keeps_commit rfl (horiginal.passive h₆) ?_ fun n hn => ?_
        · rw [h₆.journal]
          cases hj : w.journal with
          | state s =>
            obtain rfl := hold s hj
            exact ⟨by simp, fun _ => by simp⟩
          | absent => exact trivial
          | unusable => exact trivial
        · have ht₂ := hstaged.touched n hn
          have hread := ((h₂.2 before rfl n).2 (mem_configs n)).2 ht₂
          exact hread.symm.trans (horiginal.passive hpassive n ht₂)

theorem keeps_begin {files : NetConfig → Option String} (horiginal : Original files w) :
    Keeps (fun r w' => r.ok = false → Undone files w') begin w := by
  refine Sat.bind (keeps_load.post fun found w₁ h₁ => ?_)
  have horiginal := horiginal.passive h₁.1
  have hfound := h₁.2
  cases found with
  | unusable => exact fun _ => .inl horiginal
  | absent =>
    refine keeps_beginFrom horiginal fun s hs => ?_
    rw [hs] at hfound
    simp at hfound
  | state old =>
    refine Keeps.ite (fun _ _ => .inl horiginal) fun _ => Keeps.ite (fun _ _ => .inl horiginal)
      fun _ => keeps_beginFrom horiginal fun s hs => ?_
    rw [hs] at hfound
    simpa using hfound

theorem backup_of_load {s : NetState} (h : NetJournal.state s = .unusable ∨ .state s = w.journal)
    (hp : unconfirmed s.phase = true) : Backup w s := by
  rcases h with h | h
  · cases h
  · exact ⟨s, h.symm, hp, rfl, rfl, rfl⟩

theorem keeps_recover (boot : Bool) : Keeps (fun _ _ => True) (recover boot) w := by
  refine Sat.bind (keeps_load.post fun found w₁ h₁ => ?_)
  cases found with
  | unusable => exact trivial
  | absent => exact trivial
  | state s =>
    refine Keeps.ite (fun _ => trivial) fun hvalid => Keeps.ite (fun _ => trivial) fun hp => ?_
    have hs : valid s = true := by simpa using hvalid
    have hb := backup_of_load h₁.2 (by simpa using hp)
    refine Keeps.ite (fun _ => ?_) fun _ => (keeps_rollback hs hb boot).post fun _ _ _ => trivial
    refine Sat.bind ((keeps_ask (c := .uptime) trivial).post fun uptime w₂ h₂ => ?_)
    cases uptime with
    | none => exact trivial
    | some uptime =>
      refine Keeps.ite (fun _ => trivial) fun _ => ?_
      exact (keeps_rollback hs (h₂.toLater.backup hb) boot).post fun _ _ _ => trivial

theorem keeps_confirm (id : String) : Keeps (fun _ _ => True) (confirm id) w := by
  refine Sat.bind (keeps_load.post fun found w₁ h₁ => ?_)
  cases found with
  | unusable => exact trivial
  | absent => exact trivial
  | state s =>
    refine Keeps.ite (fun _ => trivial) fun hvalid => Keeps.ite (fun _ => trivial) fun hmatch => ?_
    have hs : valid s = true := by simpa using hvalid
    have hp : s.phase = .pending := by
      by_contra hne
      simp [hne] at hmatch
    have hb := backup_of_load h₁.2 (by rw [hp]; rfl)
    refine Sat.bind ((keeps_ask (c := .uptime) trivial).post fun uptime w₂ h₂ => ?_)
    cases uptime with
    | none => exact trivial
    | some uptime =>
      have hb₂ := h₂.toLater.backup hb
      refine Keeps.ite (fun _ => (keeps_rollback hs hb₂ false).post fun _ _ _ => trivial) fun _ => ?_
      refine Sat.bind ((keeps_unchanged configs nodup_configs fun n _ => (valid_fits hs n).2).post
        fun same w₃ h₃ => ?_)
      refine Keeps.ite (fun _ => trivial) fun hsame => ?_
      have hseen := h₃.2 (by simpa using hsame)
      refine Sat.bind ((keeps_ask (c := .ready s) trivial).post fun ready w₄ h₄ => ?_)
      refine Keeps.ite (fun _ => trivial) fun _ => ?_
      have hj : w₄.journal = .state s := by
        rw [h₄.journal, h₃.1.journal, h₂.journal]
        rcases h₁.2 with h | h
        · cases h
        · exact h.symm
      have hsafe : SaveSafe w₄ { s with phase := .confirmed } := by
        refine ⟨nofun, fun _ n => h₄.toLater.seen (by simp) (hseen n (mem_configs n)), ?_⟩
        rw [hj]
        exact ⟨le_refl _, fun h => absurd (hp.symm.trans h) (by simp)⟩
      refine Sat.bind ((keeps_save hsafe).post fun saved w₅ _ => ?_)
      exact Keeps.ite (fun _ => trivial) fun _ => keeps_status.post fun _ _ _ => trivial

theorem keeps_command (c : NetCommand) : Keeps (fun _ _ => True) (command c) w := by
  cases c with
  | setup =>
    have horiginal : Original w.files w := fun _ _ => rfl
    exact (keeps_begin horiginal).post fun _ _ _ => trivial
  | confirm id => exact keeps_confirm id
  | tick => exact keeps_recover false
  | boot => exact keeps_recover true
  | status => exact keeps_status.post fun _ _ _ => trivial
  | gate => exact keeps_gate

end Network

open Network

/-- What is written down is only what the transaction stands for: a rollback has put every backup
back, a confirmation has found every new file, and a file is written over its backup or its new
contents, the new contents only behind the guard and the watchdog. -/
def NoteSafe : NetNote → Prop
  | .saved s files edited =>
    (s.phase = .rolledBack → ∀ n, edited n = false → files n = s.before n) ∧
      (s.phase = .confirmed → ∀ n, edited n = false → files n = s.after n)
  | .wrote name raw found edited journal closed watching =>
    ∃ s, journal = .state s ∧ unconfirmed s.phase = true ∧
      (edited = false → found = s.before name ∨ found = s.after name) ∧
      (raw = s.before name ∨
        raw = s.after name ∧ s.phase = .pending ∧ closed = true ∧ watching = true)

/-- A journal after another: not older, and of a new transaction when that was confirmed. -/
def Succeeds (s t : NetState) : Prop :=
  s.sequence ≤ t.sequence ∧ (s.phase = .confirmed → s.sequence < t.sequence)

theorem Succeeds.trans {s t u : NetState} (h : Succeeds s t) (h' : Succeeds t u) : Succeeds s u :=
  ⟨h.1.trans h'.1, fun hc => (h.2 hc).trans_le h'.1⟩

def NetJournal.toList : NetJournal → List NetState
  | .state s => [s]
  | _ => []

def NetNote.journals : NetNote → List NetState
  | .saved s _ _ => [s]
  | .wrote .. => []

/-- The journals of a run that started with `j`, in their order. -/
def journals (j : NetJournal) (log : List NetNote) : List NetState :=
  j.toList ++ log.flatMap NetNote.journals

structure LogSafe (j : NetJournal) (w : NetWorld) : Prop where
  notes : ∀ note ∈ w.log, NoteSafe note
  ordered : (journals j w.log).Pairwise Succeeds
  current : ∀ s ∈ journals j w.log, ∃ t, w.journal = .state t ∧ (s = t ∨ Succeeds s t)

theorem LogSafe.of_same {j : NetJournal} {w w' : NetWorld} (h : LogSafe j w)
    (hlog : w'.log = w.log) (hj : w'.journal = w.journal) : LogSafe j w' :=
  ⟨hlog ▸ h.notes, hlog ▸ h.ordered, hlog ▸ hj ▸ h.current⟩

theorem LogSafe.wrote {j : NetJournal} {w : NetWorld} {name : NetConfig} {raw : Option String}
    (h : LogSafe j w) (hw : WriteSafe w name raw) : LogSafe j (w.wrote name raw) := by
  have hj : journals j (w.wrote name raw).log = journals j w.log := by
    simp [journals, NetWorld.wrote, NetNote.journals]
  refine ⟨fun note hn => ?_, hj ▸ h.ordered, hj ▸ h.current⟩
  rcases List.mem_append.mp hn with hn | hn
  · exact h.notes note hn
  · rw [List.mem_singleton.mp hn]
    exact hw

theorem LogSafe.saved {j : NetJournal} {w : NetWorld} {s : NetState} (h : LogSafe j w)
    (hs : SaveSafe w s) : LogSafe j (w.saved s) := by
  have hj : journals j (w.saved s).log = journals j w.log ++ [s] := by
    simp [journals, NetWorld.saved, NetNote.journals]
  have hlast (t : NetState) (ht : t ∈ journals j w.log) : Succeeds t s := by
    obtain ⟨u, hu, hcase⟩ := h.current t ht
    have hfollows := hs.follows
    rw [hu] at hfollows
    rcases hcase with rfl | hcase
    · exact hfollows
    · exact hcase.trans hfollows
  refine ⟨fun note hn => ?_, ?_, fun t ht => ⟨s, rfl, ?_⟩⟩
  · rcases List.mem_append.mp hn with hn | hn
    · exact h.notes note hn
    · rw [List.mem_singleton.mp hn]
      exact ⟨hs.rolledBack, hs.confirmed⟩
  · rw [hj, List.pairwise_append]
    refine ⟨h.ordered, List.pairwise_singleton _ _, fun t ht u hu => ?_⟩
    rw [List.mem_singleton.mp hu]
    exact hlast t ht
  · rw [hj] at ht
    rcases List.mem_append.mp ht with ht | ht
    · exact .inr (hlast t ht)
    · exact .inl (List.mem_singleton.mp ht)

theorem WriteSafe.edit {w : NetWorld} {name : NetConfig} {raw : Option String}
    (h : WriteSafe w name raw) (g : NetConfig → Option String) :
    WriteSafe (w.edit g) name raw := by
  obtain ⟨s, hj, hp, hfound, hraw⟩ := h
  have hedit := passive_edit w g
  refine ⟨s, hj, hp, fun he => ?_, hraw⟩
  obtain ⟨he, hf⟩ := hedit.edited name (by simp) he
  rw [hf]
  exact hfound he

theorem SaveSafe.edit {w : NetWorld} {s : NetState} (h : SaveSafe w s)
    (g : NetConfig → Option String) : SaveSafe (w.edit g) s := by
  have hedit := (passive_edit w g).toLater
  exact ⟨fun hp n => hedit.seen (by simp) (h.rolledBack hp n),
    fun hp n => hedit.seen (by simp) (h.confirmed hp n), h.follows⟩

theorem LogSafe.step {j : NetJournal} {w w' : NetWorld} {c : NetCall} {r : c.Answer}
    (hsafe : Safe c w) (h : LogSafe j w) (hs : NetStep c w r w') : LogSafe j w' := by
  obtain ⟨g, hs⟩ := hs
  have hedit : LogSafe j (w.edit g) := h.of_same rfl rfl
  cases c
  case load =>
    obtain ⟨rfl, -⟩ := hs
    exact hedit
  case save s =>
    rcases hs with rfl | ⟨-, rfl⟩
    · exact hedit.saved (SaveSafe.edit hsafe g)
    · exact hedit
  case read =>
    obtain ⟨rfl, -⟩ := hs
    exact hedit.of_same rfl rfl
  case write name raw =>
    rcases hs with rfl | ⟨-, rfl⟩
    · exact hedit.wrote (WriteSafe.edit hsafe g)
    · exact hedit
  all_goals
    subst hs
    exact hedit.of_same rfl rfl

theorem LogSafe.runs {j : NetJournal} {w w' : NetWorld} (hrun : NetRuns w w') (h : LogSafe j w) :
    LogSafe j w' := by
  induction hrun with
  | nil w => exact h
  | cons he _ ih =>
    exact ih ((keeps_command _).preserves he (fun _ _ _ _ hsafe h hs => h.step hsafe hs)
      (h.of_same rfl rfl))

theorem LogSafe.initial {w : NetWorld} (h : w.log = []) : LogSafe w.journal w := by
  have hj : journals w.journal w.log = w.journal.toList := by simp [journals, h]
  refine ⟨by simp [h], ?_, fun s hs => ?_⟩
  · rw [hj]
    cases w.journal <;> simp [NetJournal.toList]
  · rw [hj] at hs
    cases hw : w.journal with
    | state t => exact ⟨t, rfl, .inl (by simpa [hw, NetJournal.toList] using hs)⟩
    | absent => simp [hw, NetJournal.toList] at hs
    | unusable => simp [hw, NetJournal.toList] at hs

/-- Over every run of the network commands, with edits at any time and any failures: what becomes
durable is safe, a confirmed transaction is only followed by a new one, and a setup that fails
leaves the untouched files as they were or leaves their backups in the journal. -/
theorem network_transactions_safe {w w' : NetWorld} (hstart : w.log = []) (hrun : NetRuns w w') :
    (∀ note ∈ w'.log, NoteSafe note) ∧ (journals w.journal w'.log).Pairwise Succeeds ∧
      ∀ g tr v r, Exec NetStep (Network.command .setup) (w'.edit g).begun tr v (some r) →
        r.ok = false → Undone g v := by
  have h := (LogSafe.initial hstart).runs hrun
  refine ⟨h.notes, h.ordered, fun g tr v r he => ?_⟩
  have horiginal : Original g (w'.edit g).begun := fun _ _ => rfl
  exact (keeps_begin horiginal).result he

namespace Sample

def everywhere (contents : String) : NetConfig → Option String := fun _ => some contents

/-- A transaction that was installed and has not been confirmed. -/
def unconfirmedNet : NetState where
  version := 1
  sequence := 1
  id := "100-1"
  phase := .pending
  ready := true
  deadline := 280
  expiresUptime := 280
  before := everywhere "old"
  after := everywhere "new"
  ssids := []
  radios := []
  wiredPorts := none
  wiredBridges := []

theorem none_edited : ∀ _ : NetConfig, false = true → false = true :=
  fun _ h => absurd h Bool.false_ne_true

def installedNet : NetWorld where
  files := everywhere "new"
  journal := .state unconfirmedNet
  edited := fun _ => false
  touched := fun _ => false
  closed := false
  watching := false
  log := []
  touched_of_edited := none_edited

def userEdit : NetConfig → Option String :=
  Function.update (everywhere "new") .network (some "user")

/-- The watchdog has read the first file, and a user replaces it. -/
def expiredNet : NetWorld :=
  let start := (installedNet.edit (everywhere "new")).begun
  let waited := (start.edit (everywhere "new")).edit (everywhere "new")
  let closed := { waited.edit (everywhere "new") with closed := true }
  (closed.edit (everywhere "new")).look .network

def overwrittenNet : NetWorld := (expiredNet.edit userEdit).wrote .network (some "old")

def overwritingTrace : List (Event NetCall NetCall.Answer) :=
  [⟨.load, .state unconfirmedNet⟩, ⟨.uptime, some 300⟩, ⟨.close, true⟩,
    ⟨.read .network, some "new"⟩, ⟨.write .network (some "old"), true⟩]

theorem run_overwrittenNet : NetRuns installedNet overwrittenNet := by
  have hexec : Exec NetStep (Network.command .tick) (installedNet.edit (everywhere "new")).begun
      overwritingTrace overwrittenNet none := by
    refine .call ⟨everywhere "new", rfl, .inr rfl⟩ ?_
    refine .call ⟨everywhere "new", rfl⟩ ?_
    refine .call ⟨everywhere "new", rfl⟩ (.call ⟨everywhere "new", rfl, .inr (.inl rfl)⟩
      (.call ⟨userEdit, .inl rfl⟩ (.stop _ _)))
  exact .cons hexec (.nil _)

end Sample

/-- The watchdog after a user has replaced a file. -/
theorem overwritten_is_safe :
    (∀ note ∈ Sample.overwrittenNet.log, NoteSafe note) ∧
      (journals Sample.installedNet.journal Sample.overwrittenNet.log).Pairwise Succeeds ∧
      ∀ g tr v r, Exec NetStep (Network.command .setup) (Sample.overwrittenNet.edit g).begun tr v
        (some r) → r.ok = false → Undone g v :=
  network_transactions_safe (w := Sample.installedNet) rfl Sample.run_overwrittenNet

/-- A file that is neither the backup nor the new one is overwritten when it is edited after the
rollback has read it. -/
theorem rollback_overwrites_edit :
    ¬∀ w w' : NetWorld, w.log = [] → NetRuns w w' →
      ∀ name raw found edited s closed watching,
        .wrote name raw found edited (.state s) closed watching ∈ w'.log →
        found = s.before name ∨ found = s.after name := by
  intro hclaim
  have hfound := hclaim Sample.installedNet Sample.overwrittenNet rfl Sample.run_overwrittenNet
    .network (some "old") (some "user") true Sample.unconfirmedNet true false
    (List.mem_singleton.mpr (by
      have hedited : (Sample.expiredNet.edit Sample.userEdit).edited .network = true := by decide
      rw [← hedited]
      rfl))
  revert hfound
  decide

end AutoVPN
