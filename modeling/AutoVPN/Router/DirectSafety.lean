import AutoVPN.Lib.Crew
import AutoVPN.Router.DirectFiles
import AutoVPN.Router.DirectGuard

/-! The helper's actions one after another: what crosses the bridge of the direct network in every
state that is reached, and what each action leaves behind. -/

namespace AutoVPN

namespace DirectZapret

open Program Nft

variable {shown : Value → String} {s s' : DirectWorld} {value : Value}

/-! An action. -/

theorem plan_notNull (wan media : Value) : (plan wan (.bool true) media).isNull = false := by
  unfold plan
  rw [if_neg (by decide)]
  cases planFields wan media with
  | none => rfl
  | some fields =>
    dsimp only
    split
    · rfl
    · rfl

theorem setting_ends : Ends (fun o u => Still s u ∧ (o.ok = true →
    o.enabled = some false ∧ o.value.isNull = true ∨
      o.enabled = some true ∧ o.value.isNull = false)) setting s := by
  have hoption (group name : String) {u : DirectWorld} (hu : Still s u) :
      Ends (fun _ v => Still s v) (ask (.option group name)) u :=
    still_ask (fun _ h => by cases h) (fun _ => rfl) fun _ h => hu.trans h
  have hwan {u : DirectWorld} (hu : Still s u) : Ends (fun _ v => Still s v) wanDevice u := by
    refine ends_bind (hoption _ _ hu) fun wan v hv => ?_
    split
    · exact hv
    refine ends_next nofun fun status _ => ?_
    replace hv : Still s (after v .wanStatus status) := hv.trans ⟨rfl, rfl, after_past v _ _⟩
    split
    · exact hv
    · exact hv
  unfold setting
  refine ends_bind (hoption _ _ ⟨rfl, rfl, List.prefix_rfl⟩) fun enabled u hu => ?_
  split
  · exact ⟨hu, nofun⟩
  split
  · exact ⟨hu, fun _ => .inl ⟨rfl, rfl⟩⟩
  refine ends_bind (hoption _ _ hu) fun discordMedia u hu => ?_
  refine ends_bind (hoption _ _ hu) fun stun u hu => ?_
  refine ends_bind (hoption _ _ hu) fun webStrategy u hu => ?_
  refine ends_bind (hoption _ _ hu) fun quicMode u hu => ?_
  refine ends_bind (hoption _ _ hu) fun mediaStrategy u hu => ?_
  refine ends_bind (hoption _ _ hu) fun mediaRepeats u hu => ?_
  split
  · exact ⟨hu, nofun⟩
  refine ends_bind (hwan hu) fun wan u hu => ⟨hu, fun _ => .inr ⟨rfl, ?_⟩⟩
  show (ite _ (plan wan _ _) (plan wan _ _)).isNull = false
  split
  · exact plan_notNull _ _
  · exact plan_notNull _ _

/-- What an action leaves behind: one that was to close the guard, or has failed to open it, leaves
it closed unless the closing was refused; one that succeeds in bringing the lane up leaves the guard
closed where the lane is switched off, else as it was after a check that succeeded, or open with the
files that say so; and no other touches it. -/
structure Outcome (shown : Value → String) (argv : List String) (s : DirectWorld) (exit : Exit)
    (u : DirectWorld) : Prop where
  down : action? argv = some .down → exit.result = .ok () → Shut u
  up : action? argv = some .up → exit.result = .ok () →
    exit.enabled = some false ∧ Shut u ∨ exit.enabled = some true ∧ ∃ value,
      validPlan value = true ∧ (Still s u ∧ Confirmed shown value s u ∨ Settled shown value u)
  failed : action? argv = some .up ∨ action? argv = some .down →
    ∀ code, exit.result = .error code → Shut u ∨ Refused u
  other : action? argv ≠ some .up → action? argv ≠ some .down → u.table = s.table

theorem run_ends (argv : List String) :
    Ends (Outcome shown argv s) (run shown argv) s := by
  unfold run
  cases ha : action? argv with
  | none =>
    refine ⟨?_, ?_, ?_, fun _ _ => rfl⟩
    all_goals simp [ha]
  | some action =>
    have hclosed (hdown : action = .down) : Ends (Outcome shown argv s)
        (closeGuard >>= fun closed => return ⟨outcome closed, none⟩) s := by
      subst hdown
      refine ends_bind closeGuard_ends fun closed u hu => ?_
      have hup (h : action? argv = some .up) : False := by
        rw [ha] at h
        cases h
      cases closed with
      | false => exact ⟨nofun, fun h => (hup h).elim, fun _ _ _ => hu.failed rfl,
          fun _ h => absurd ha h⟩
      | true =>
        have hshut := (hu.closed rfl).1
        exact ⟨fun _ _ => hshut, fun h => (hup h).elim, fun _ _ _ => .inl hshut,
          fun _ h => absurd ha h⟩
    have hquiet (hne : action ≠ .up) (hne' : action ≠ .down) {exit : Exit} {u : DirectWorld}
        (htable : u.table = s.table) : Outcome shown argv s exit u := by
      refine ⟨fun h => ?_, fun h => ?_, fun h => ?_, fun _ _ => htable⟩
      · exact absurd (Option.some.inj (ha.symm.trans h)) hne'
      · exact absurd (Option.some.inj (ha.symm.trans h)) hne
      · rcases h with h | h
        · exact absurd (Option.some.inj (ha.symm.trans h)) hne
        · exact absurd (Option.some.inj (ha.symm.trans h)) hne'
    cases action with
    | down => exact hclosed rfl
    | validate =>
      refine ends_bind setting_ends fun desired u ⟨⟨htable, _⟩, _⟩ => ?_
      refine ends_bind (Q := fun _ v => v.table = s.table) ?_ fun r v hv => hquiet nofun nofun hv
      unfold act
      split
      · exact htable
      · have hvalidate : Ends (fun _ v => v.table = u.table) (validate desired.value) u := by
          cases hn : desired.value.isNull with
          | true =>
            unfold validate
            rw [if_pos hn]
            exact rfl
          | false => exact (validate_ends hn).post fun _ _ h => h.1
        refine ends_bind hvalidate fun r v hv => ?_
        cases r with
        | none => exact hv.trans htable
        | some code => exact hv.trans htable
    | check =>
      refine ends_bind setting_ends fun desired u ⟨⟨htable, _⟩, _⟩ => ?_
      refine ends_bind (Q := fun _ v => v.table = s.table) ?_ fun r v hv => hquiet nofun nofun hv
      unfold act
      split
      · exact htable
      · exact ends_bind check_ends fun r v hv => hv.1.1.trans htable
    | up =>
      refine ends_bind setting_ends fun desired u ⟨hstill, hdesired⟩ => ?_
      have hfailed {code : String} {v : DirectWorld} (hv : Shut v ∨ Refused v) :
          Outcome shown argv s ⟨.error code, desired.enabled⟩ v :=
        ⟨nofun, nofun, fun _ _ _ => hv, fun h _ => absurd ha h⟩
      unfold act
      split
      · refine ends_bind (shut_ends unavailable) fun r v ⟨hr, hv⟩ => ?_
        subst hr
        exact hfailed hv
      · rename_i hok
        replace hdesired := hdesired (by simpa using hok)
        refine ends_bind up_ends fun r v hv => ?_
        cases r with
        | error code => exact hfailed hv
        | ok a =>
          refine ⟨fun h => ?_, fun _ _ => ?_, nofun, fun h _ => absurd ha h⟩
          · rw [ha] at h
            cases h
          · rcases hdesired with ⟨henabled, hn⟩ | ⟨henabled, hn⟩
            · rcases hv with ⟨-, hshut⟩ | ⟨hn', -⟩
              · exact .inl ⟨henabled, hshut⟩
              · rw [hn] at hn'
                cases hn'
            · rcases hv with ⟨hn', -⟩ | ⟨-, hvalid, hv⟩
              · rw [hn] at hn'
                cases hn'
              · refine .inr ⟨henabled, desired.value, hvalid, hv.imp (fun hv => ?_) id⟩
                exact ⟨hstill.trans hv.1, hv.2.of_past hstill.2.2⟩

/-! Histories. -/

/-- Rules that close the guard, or open it for a valid plan. -/
def Ours (rules : String) : Prop :=
  rules = closedNft ∨ ∃ value t, nft value = some t ∧ rules = t.text

/-- Every load so far was proper, and the table that is loaded is one of the helper's. -/
structure Guarded (s : DirectWorld) : Prop where
  proper : ∀ before m after, s.past = before ++ m :: after → Proper m before
  table : ∀ t, s.table = some t → Ours t.rules

theorem guarded_step {c : DirectCall} {r : c.Answer} (hg : Allowed c s) (h : Guarded s)
    (hs : directStep c s r s') : Guarded s' := by
  obtain ⟨-, table, htable, rfl⟩ := hs
  refine ⟨splits_concat (P := fun before m => Proper m before) h.proper (hg r), ?_⟩
  intro t ht
  obtain rfl : table = some t := ht
  cases c with
  | command c =>
    cases c with
    | loadRules name =>
      cases r with
      | false => exact h.table t htable.symm
      | true =>
        obtain ⟨listing, hload⟩ := htable
        obtain ⟨rules, hfile, rfl⟩ := Option.map_eq_some_iff.mp hload.symm
        rcases (hg true).content name true rfl with hclosed | ⟨value, t, ht, hopen, -⟩
        · exact .inl (Option.some.inj (hfile.symm.trans hclosed))
        · exact .inr ⟨value, t, ht, Option.some.inj (hfile.symm.trans hopen)⟩
    | _ => exact h.table t htable.symm
  | _ => exact h.table t htable.symm

/-- An action, which may be stopped anywhere, or a restart of the router. -/
inductive DirectMove (shown : Value → String) (s : DirectWorld) : DirectWorld → Prop
  | act {argv : List String} {tr : List DirectEvent} {s' : DirectWorld} {o : Option Exit}
    (h : Exec directStep (run shown argv) { s with past := [] } tr s' o) : DirectMove shown s s'
  | restart : DirectMove shown s ⟨none, fun _ => none, []⟩

abbrev DirectRuns (shown : Value → String) : DirectWorld → DirectWorld → Prop :=
  Relation.ReflTransGen (DirectMove shown)

theorem guarded_move (h : Guarded s) (hm : DirectMove shown s s') : Guarded s' := by
  have hnone {s : DirectWorld} (hp : s.past = []) (ht : ∀ t, s.table = some t → Ours t.rules) :
      Guarded s := by
    refine ⟨fun before m after hsplit => ?_, ht⟩
    rw [hp] at hsplit
    simp at hsplit
  cases hm with
  | act he =>
    exact (run_ends _).preserves he (fun _ _ _ _ hg hs hstep => guarded_step hg hs hstep)
      (hnone rfl h.table)
  | restart => exact hnone rfl nofun

theorem guarded_runs (h : Guarded s) (hr : DirectRuns shown s s') : Guarded s' := by
  induction hr with
  | refl => exact h
  | tail _ hm ih => exact guarded_move ih hm

/-- What the guard of loaded rules lets through: nothing that crosses the bridge, or what goes to the
WAN device of a plan and what comes back. -/
inductive Lets (rules : String) : Prop
  | closed (h : rules = closedNft)
    (guard : ∀ p, ((guardChain []).handle p).isAccepted = true → foreign p = true)
  | opened {value : Value} {t : Table} (h : nft value = some t) (htext : rules = t.text)
    (valid : validPlan value = true)
    (guard : ∀ p, (t.guard.handle p).isAccepted = true → foreign p = true ∨
      outward (value.get "wan_device").text p = true ∨
        inward (value.get "wan_device").text p = true)

theorem Ours.lets {rules : String} (h : Ours rules) : Lets rules := by
  rcases h with h | ⟨value, t, ht, htext⟩
  · exact .closed h fun p hp => handle_closed p ▸ hp
  · obtain ⟨hvalid, rfl⟩ := nft_eq ht
    refine .opened ht htext hvalid fun p hp => ?_
    rw [handle_open, Bool.or_eq_true, Bool.or_eq_true] at hp
    exact hp.symm

end DirectZapret

open DirectZapret in
/-- In every history of the helper's actions and restarts, each action stopped anywhere and with any
failures: rules are loaded over a table of the helper's own only, they open the guard only while it
is closed and for a valid plan that this action has validated and prepared, and the loaded guard
lets across the bridge what goes to the WAN device of a valid plan and what comes back. -/
theorem direct_guard_safe {shown : Value → String} {s s' : DirectWorld} (hp : s.past = [])
    (ht : s.table = none) (h : DirectRuns shown s s') :
    (∀ before m after, s'.past = before ++ m :: after → Proper m before) ∧
      ∀ t, s'.table = some t → Lets t.rules := by
  have hstart : Guarded s := by
    refine ⟨fun before m after hsplit => ?_, fun t hs => ?_⟩
    · rw [hp] at hsplit
      simp at hsplit
    · rw [ht] at hs
      cases hs
  have hguarded := guarded_runs hstart h
  exact ⟨hguarded.proper, fun t ht => (hguarded.table t ht).lets⟩

open DirectZapret in
/-- From any state and whichever of its commands fail, an action that ends leaves the guard closed
where it was to close it or has failed to open it, unless one of the commands of the closing was
refused, after which it has tried to stop the engine; and one that brings the lane up has closed the
guard of a lane that is switched off, has found the lane settled, or leaves the table and the files
that say so. -/
theorem direct_fail_closed {shown : Value → String} {argv : List String} {s s' : DirectWorld}
    {tr : List DirectEvent} {exit : DirectZapret.Exit}
    (h : Program.Exec directStep (run shown argv) s tr s' (some exit)) :
    Outcome shown argv s exit s' :=
  (run_ends argv).result h

/-! An action on a lane that is up. -/

namespace DirectZapret

open Program

variable {shown : Value → String} {s s' : DirectWorld} {value : Value}

/-- Nothing disturbs the action: what it reads is there, nothing forbids to open the guard, and the
engine runs on its queue. -/
def Undisturbed : DirectEvent → Prop
  | ⟨.command c, r⟩ => c ∈ permitted ++ [.accounted, .running, .queued] → r = true
  | ⟨.listTables, r⟩ => r ≠ none
  | ⟨.listTable, r⟩ => r ≠ none
  | ⟨.read _ _, r⟩ => r ≠ none
  | _ => True

/-- What an undisturbed program ends with. -/
abbrev Calmly {α : Type} (Q : α → DirectWorld → Prop) (p : Direct α)
    (s : DirectWorld) : Prop :=
  Sat (fun c s r s' => directStep c s r s' ∧ Undisturbed ⟨c, r⟩) (fun _ _ => True) Q p s

theorem calmly_bind {α β : Type} {p : Direct α} {f : α → Direct β} {Q : α → DirectWorld → Prop}
    {R : β → DirectWorld → Prop} (h : Calmly Q p s) (hf : ∀ a u, Q a u → Calmly R (f a) u) :
    Calmly R (p >>= f) s :=
  Sat.bind (h.post fun a u hq => hf a u hq)

theorem calmly_ask {c : DirectCall} {Q : c.Answer → DirectWorld → Prop} (hc : Calm c)
    (hf : ∀ r, filesAfter s c r = s.files)
    (h : ∀ r u, Told s c r → Undisturbed ⟨c, r⟩ → Still s u → Q r u) : Calmly Q (ask c) s :=
  ⟨trivial, fun r _ hs => h r _ hs.1.1 hs.2
    (hc.step hs.1 ▸ ⟨rfl, hf r, after_past s c r⟩)⟩

theorem calmly_allOf {cs : List DirectCommand} (hcs : ∀ c ∈ cs, Calm (.command c) ∧
      (∀ u r, filesAfter u (.command c) r = u.files) ∧
        c ∈ permitted ++ [.accounted, .running, .queued]) :
    Calmly (fun r u => r = true ∧ Still s u) (allOf cs) s := by
  induction cs generalizing s with
  | nil => exact ⟨rfl, rfl, rfl, List.prefix_rfl⟩
  | cons c cs ih =>
    obtain ⟨hcalm, hfiles, hmem⟩ := hcs c List.mem_cons_self
    refine calmly_bind (Q := fun r u => r = true ∧ Still s u)
      (calmly_ask hcalm (hfiles s) fun r u _ hu hstill => ⟨hu hmem, hstill⟩) fun r u ⟨hr, hu⟩ => ?_
    subst hr
    exact (ih fun c hc => hcs c (List.mem_cons_of_mem _ hc)).post fun r v hv =>
      ⟨hv.1, hu.trans hv.2⟩

theorem Settled.still {u : DirectWorld} (h : Settled shown value s) (hu : Still s u) :
    Settled shown value u := by
  obtain ⟨htable, hfiles, -⟩ := hu
  refine ⟨htable ▸ h.table, ?_, ?_, ?_⟩
  · rw [htable, hfiles]
    exact h.listed
  · rw [hfiles, h.plan]
  · rw [hfiles, h.engine]

theorem calmly_table (hs : Settled shown value s) :
    Calmly (fun o u => o = ⟨true, true, s.files "canonical.nft"⟩ ∧ Still s u) table s := by
  obtain ⟨t, ht, hraw, hown, -⟩ := hs.listed
  refine calmly_bind (Q := fun r u => r = some true ∧ Still s u)
    (calmly_ask nofun (fun _ => rfl) fun r u htold hu hstill => ⟨?_, hstill⟩) fun r u ⟨hr, hu⟩ => ?_
  · cases r with
    | none => exact absurd rfl hu
    | some present => rw [htold present rfl, ht, Option.isSome_some]
  subst hr
  refine calmly_bind (Q := fun r v => r = some t.listing ∧ Still u v)
    (calmly_ask nofun (fun _ => rfl) fun r v htold hv hstill => ⟨?_, hstill⟩) fun r v ⟨hr, hv⟩ => ?_
  · cases r with
    | none => exact absurd rfl hv
    | some raw =>
      obtain ⟨-, t', ht', rfl⟩ := htold raw rfl
      rw [hu.1, ht] at ht'
      rw [Option.some.inj ht']
  subst hr
  refine ⟨?_, hu.trans hv⟩
  rw [hraw, Option.any_some, hown]

theorem calmly_read {name whole : String} {limit : Nat} (hf : s.files name = some whole)
    (hl : whole.utf8ByteSize ≤ limit) :
    Calmly (fun r u => r = some whole ∧ Still s u) (ask (.read name limit)) s := by
  refine calmly_ask (calm_read name limit) (fun _ => rfl) fun r u htold hu hstill => ⟨?_, hstill⟩
  cases r with
  | none => exact absurd rfl hu
  | some text =>
    obtain ⟨whole', hwhole, htext⟩ := htold text rfl
    rw [hf] at hwhole
    obtain rfl := Option.some.inj hwhole
    rw [htext hl]

theorem config_eq (h : validPlan value = true) : config value = some (engineConfig value) := by
  have hsome : (config value).isSome = true := by
    rw [config, if_neg (by simp [h])]
    rfl
  obtain ⟨text, htext⟩ := Option.isSome_iff_exists.mp hsome
  rw [engineConfig, htext]
  rfl

theorem calmly_check (hvalid : validPlan value = true) (hn : value.isNull = false)
    (hline : (planLine shown value).utf8ByteSize ≤ 65537) (hs : Settled shown value s) :
    Calmly (fun r u => r = true ∧ Still s u) (check shown value) s := by
  obtain ⟨t, -, hraw, -, hsize⟩ := hs.listed
  unfold check
  refine calmly_bind (calmly_table hs) fun o u ⟨ho, hu⟩ => ?_
  subst ho
  rw [if_neg (by simp)]
  refine calmly_bind (calmly_read (by rw [hu.2.1, hraw]) (hsize.trans (by decide)))
    fun canonical v ⟨hc, hv⟩ => ?_
  rw [if_neg (by simp [hc, hraw])]
  replace hv := hu.trans hv
  refine calmly_bind (calmly_read (by rw [hv.2.1, hs.plan]) hline) fun written w ⟨hc, hw⟩ => ?_
  rw [if_neg (by simp [hc]), if_neg (by simp [hn]), if_neg (by simp [hvalid])]
  replace hw := hv.trans hw
  refine calmly_bind (calmly_read (by rw [hw.2.1, hs.engine]) (engineConfig_size hvalid))
    fun engineFile x ⟨hc, hx⟩ => ?_
  rw [if_neg (by simp [hc, config_eq hvalid])]
  exact (calmly_allOf (by simp [Calm, filesAfter])).post fun r y hy =>
    ⟨hy.1, (hw.trans hx).trans hy.2⟩

end DirectZapret

open DirectZapret in
/-- Where the lane is settled on a plan, as an action that has opened it leaves it, another that is
not disturbed succeeds and changes neither the table nor the files. -/
theorem direct_up_settled {shown : Value → String} {value : Value} {s s' : DirectWorld}
    {tr : List DirectEvent} {r : Except String Unit} (hvalid : validPlan value = true)
    (hline : (planLine shown value).utf8ByteSize ≤ 65537) (hs : Settled shown value s)
    (h : Program.Exec (directStep) (up shown value) s tr s' (some r))
    (hu : ∀ ev ∈ tr, Undisturbed ev) : r = .ok () ∧ s'.table = s.table ∧ s'.files = s.files := by
  have hn : value.isNull = false := by
    cases value with
    | null => cases hvalid
    | _ => rfl
  have hup : Calmly (fun r u => r = .ok () ∧ Still s u) (up shown value) s := by
    unfold up
    rw [if_neg (by simp [hn])]
    refine calmly_bind (calmly_allOf (by simp [Calm, filesAfter, permitted]))
      fun ready u ⟨hr, hu⟩ => ?_
    subst hr
    refine calmly_bind (calmly_check hvalid hn hline (hs.still hu)) fun checked v ⟨hc, hv⟩ => ?_
    subst hc
    exact ⟨rfl, hu.trans hv⟩
  obtain ⟨hr, hstill⟩ := hup.result (h.restrict hu)
  exact ⟨hr, hstill.1, hstill.2.1⟩

namespace DirectSample

open DirectZapret

def shown : Value → String := JsonLine.text fun _ => []

def plain : Value := plan wan (.bool true) .null

/-- The first line of each chain that the filter lists. -/
def listing (chains : List String) : String :=
  "\n".intercalate ("chain ownership_autovpn_direct_zapret_v1 \x7b" :: chains)

def shutListing : String := listing ["chain guard \x7b"]

def openListing : String := listing ["chain guard \x7b", "chain post \x7b", "chain raw \x7b", "queue"]

/-- What stays of the chains of an open table. -/
def reshutListing : String := listing ["chain guard \x7b", "chain post \x7b", "chain raw \x7b"]

def listed (before : Option DirectTable) (rules : String) : String :=
  if rules = openText plain then openListing
  else if before.all (·.listing == shutListing) then shutListing
  else reshutListing

/-- Every command succeeds, nothing is set but the device, and the engine takes the queue as soon as
it is started. -/
def answer (s : DirectWorld) : (c : DirectCall) → c.Answer
  | .command .queued => s.past.any fun m => match m.event.1 with
    | .command .start => true
    | _ => false
  | .command (.loadRules name) => (s.files name).isSome
  | .command _ => true
  | .read name _ => s.files name
  | .listTables => some s.table.isSome
  | .listTable => (s.table.map (·.listing)).filter fun raw => decide (raw.utf8ByteSize ≤ 32768)
  | .option _ name => if name = "wan_device" then wan else .null
  | .wanStatus => none

def tableOf (s : DirectWorld) : DirectCall → Option DirectTable
  | .command (.loadRules name) =>
    match s.files name with
    | some rules => some ⟨rules, listed s.table rules⟩
    | none => s.table
  | _ => s.table

def reply (c : DirectCall) (s : DirectWorld) : Option (c.Answer × DirectWorld) :=
  some (answer s c, { after s c (answer s c) with table := tableOf s c })

theorem listTable_told {s : DirectWorld} {raw : String}
    (h : (s.table.map (·.listing)).filter (fun raw => decide (raw.utf8ByteSize ≤ 32768)) =
      some raw) : raw.utf8ByteSize ≤ 32768 ∧ ∃ t, s.table = some t ∧ raw = t.listing := by
  obtain ⟨hraw, hsize⟩ := Option.filter_eq_some_iff.mp h
  obtain ⟨t, ht, rfl⟩ := Option.map_eq_some_iff.mp hraw
  exact ⟨by simpa using hsize, t, ht, rfl⟩

theorem reply_step (c : DirectCall) (s : DirectWorld) (r : c.Answer) (s' : DirectWorld)
    (h : reply c s = some (r, s')) : directStep c s r s' := by
  obtain ⟨rfl, rfl⟩ := Prod.mk.inj (Option.some.inj h)
  cases c with
  | command c =>
    cases c with
    | loadRules name =>
      refine ⟨id, _, ?_, rfl⟩
      show TableAfter s (.command (.loadRules name)) (s.files name).isSome (tableOf s _)
      cases hf : s.files name with
      | none => simp [TableAfter, tableOf, hf]
      | some rules => exact ⟨listed s.table rules, by simp [tableOf, hf]⟩
    | _ => exact ⟨trivial, _, rfl, rfl⟩
  | read name limit => exact ⟨fun text ht => ⟨text, ht, fun _ => rfl⟩, _, rfl, rfl⟩
  | listTables => exact ⟨fun present hp => (Option.some.inj hp).symm, _, rfl, rfl⟩
  | listTable => exact ⟨fun raw hr => listTable_told hr, _, rfl, rfl⟩
  | option | wanStatus => exact ⟨trivial, _, rfl, rfl⟩

def start : DirectWorld := ⟨none, fun _ => none, []⟩

def acted (argv : List String) (s : DirectWorld) : DirectWorld × Option Exit :=
  Program.play reply (run shown argv) { s with past := [] }

theorem acted_move (argv : List String) (s : DirectWorld) :
    DirectMove shown s (acted argv s).1 := by
  obtain ⟨tr, h⟩ := Program.play_exec reply_step (run shown argv) { s with past := [] }
  exact .act h

def played : DirectWorld × Option Exit := acted ["up"] start

def lowered : DirectWorld × Option Exit := acted ["down"] played.1

def raised : DirectWorld × Option Exit := acted ["up"] lowered.1

def isUp : Option Exit → Bool
  | some ⟨.ok _, some true⟩ => true
  | _ => false

/-- Every file that is read is there, and every command succeeds that loads no rules. -/
def settledReply (c : DirectCall) (s : DirectWorld) : Option (c.Answer × DirectWorld) :=
  match c with
  | .command (.loadRules _) => none
  | .command c => some (true, after s (.command c) true)
  | .read name limit => (s.files name).map fun text =>
      (some text, after s (.read name limit) (some text))
  | .listTables => some (some s.table.isSome, after s .listTables (some s.table.isSome))
  | .listTable => ((s.table.map (·.listing)).filter fun raw =>
      decide (raw.utf8ByteSize ≤ 32768)).map fun raw => (some raw, after s .listTable (some raw))
  | .option _ _ => none
  | .wanStatus => none

def again : DirectWorld × Option (Except String Unit) :=
  Program.play settledReply (up shown plain) played.1

/-- What the runs below have come to. -/
theorem played_up : isUp played.2 = true ∧
    played.1.table.map (·.listing) = some openListing ∧
    played.1.table.map (·.rules) = some (openText plain) ∧
    played.1.files "plan.json" = some (planLine shown plain) ∧
    played.1.files "nfqws.conf" = some (engineConfig plain) ∧
    played.1.files "canonical.nft" = some openListing ∧
    lowered.1.table.map (·.listing) = some reshutListing ∧
    raised.1.table.map (·.rules) = some (openText plain) ∧
    again.2.isSome = true := by decide +kernel

end DirectSample

open DirectZapret DirectSample in
theorem direct_guard_safe_up : DirectRuns shown start raised.1 ∧
    lowered.1.table.map (·.listing) = some reshutListing ∧
    raised.1.table.map (·.rules) = some (openText plain) ∧
    (∀ before m after, raised.1.past = before ++ m :: after → Proper m before) ∧
    ∀ t, raised.1.table = some t → Lets t.rules := by
  have hplayed : DirectMove shown start played.1 := acted_move _ _
  have hlowered : DirectMove shown played.1 lowered.1 := acted_move _ _
  have hraised : DirectMove shown lowered.1 raised.1 := acted_move _ _
  have hruns : DirectRuns shown start raised.1 :=
    ((Relation.ReflTransGen.single hplayed).tail hlowered).tail hraised
  obtain ⟨-, -, -, -, -, -, hlowered, hraised, -⟩ := played_up
  exact ⟨hruns, hlowered, hraised, direct_guard_safe rfl rfl hruns⟩

open DirectZapret DirectSample in
theorem direct_fail_closed_up : ∃ exit, played.2 = some exit ∧ isUp (some exit) = true ∧
    Outcome shown ["up"] start exit played.1 := by
  obtain ⟨tr, h⟩ := Program.play_exec reply_step (run shown ["up"]) start
  have hup := played_up.1
  cases hexit : played.2 with
  | none =>
    rw [hexit] at hup
    cases hup
  | some exit =>
    have hrun : Program.Exec directStep (run shown ["up"]) start tr played.1 played.2 := h
    rw [hexit] at hup hrun
    exact ⟨exit, rfl, hup, direct_fail_closed hrun⟩

namespace DirectSample

open DirectZapret

theorem settledReply_step (c : DirectCall) (s : DirectWorld) (r : c.Answer) (s' : DirectWorld)
    (h : settledReply c s = some (r, s')) : directStep c s r s' ∧ Undisturbed ⟨c, r⟩ := by
  cases c with
  | command c =>
    cases c with
    | loadRules name => cases h
    | _ =>
      obtain ⟨rfl, rfl⟩ := Prod.mk.inj (Option.some.inj h)
      exact ⟨⟨trivial, _, rfl, rfl⟩, fun _ => rfl⟩
  | read name limit =>
    obtain ⟨text, htext, he⟩ := Option.map_eq_some_iff.mp h
    obtain ⟨rfl, rfl⟩ := Prod.mk.inj he
    exact ⟨⟨fun t ht => ⟨text, htext, fun _ => (Option.some.inj ht).symm⟩, _, rfl, rfl⟩, nofun⟩
  | listTables =>
    obtain ⟨rfl, rfl⟩ := Prod.mk.inj (Option.some.inj h)
    exact ⟨⟨fun present hp => (Option.some.inj hp).symm, _, rfl, rfl⟩, nofun⟩
  | listTable =>
    obtain ⟨raw, hraw, he⟩ := Option.map_eq_some_iff.mp h
    obtain ⟨rfl, rfl⟩ := Prod.mk.inj he
    refine ⟨⟨fun raw' hraw' => ?_, _, rfl, rfl⟩, nofun⟩
    obtain rfl := Option.some.inj hraw'
    exact listTable_told hraw
  | option | wanStatus => cases h

theorem settled : Settled shown plain played.1 := by
  obtain ⟨-, hlisting, hrules, hplan, hengine, hcanonical, -⟩ := played_up
  obtain ⟨t, ht, hlisting⟩ := Option.map_eq_some_iff.mp hlisting
  rw [ht, Option.map_some, Option.some.injEq] at hrules
  refine ⟨⟨t.listing, by rw [ht, ← hrules]⟩, ⟨t, ht, ?_⟩, hplan, hengine⟩
  rw [hlisting]
  exact ⟨hcanonical, by decide +kernel⟩

theorem again_exec : ∃ tr, Program.Exec (fun c s r s' => directStep c s r s' ∧ Undisturbed ⟨c, r⟩)
    (up shown plain) played.1 tr again.1 again.2 :=
  Program.play_exec settledReply_step (up shown plain) played.1

end DirectSample

open DirectZapret DirectSample in
theorem direct_up_settled_again : ∃ r, again.2 = some r ∧ r = .ok () ∧
    again.1.table = played.1.table ∧ again.1.files = played.1.files := by
  obtain ⟨tr, hdone⟩ := again_exec
  obtain ⟨-, -, -, -, -, -, -, -, hagain⟩ := played_up
  obtain ⟨r, hr⟩ := Option.isSome_iff_exists.mp hagain
  rw [hr] at hdone
  have hquiet : ∀ ev ∈ tr, Undisturbed ev := hdone.events fun _ _ _ _ hs => hs.2
  have hvalid : validPlan plain = true := by decide +kernel
  exact ⟨r, hr, direct_up_settled hvalid (planLine_size hvalid) settled hdone.of_restrict hquiet⟩

end AutoVPN
