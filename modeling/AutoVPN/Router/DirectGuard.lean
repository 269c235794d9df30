import AutoVPN.Router.DirectHelper

/-! What the helper guarantees, whichever of its commands fail and wherever it is stopped: the guard
is opened from the closed state only, for a plan that was checked under an open gate, and an action
that fails leaves it closed unless the closing itself was refused. -/

namespace AutoVPN

abbrev DirectEvent := Program.Event DirectCall DirectCall.Answer

/-- The helper's table: the text that it was loaded from, and how the filter lists it. -/
structure DirectTable where
  rules : String
  listing : String

/-- A call, with the filter's table and the files as it found them. -/
structure DirectMark where
  table : Option DirectTable
  files : String → Option String
  event : DirectEvent

/-- The helper's table, where there is one, its files and the calls of the action so far. -/
structure DirectWorld where
  table : Option DirectTable
  files : String → Option String
  past : List DirectMark

namespace DirectZapret

open Program

/-- The listing of what is loaded is the filter's, which keeps the chains of the loads before. -/
def TableAfter (s : DirectWorld) : (c : DirectCall) → c.Answer → Option DirectTable → Prop
  | .command (.loadRules name), true, table => ∃ listing,
      table = (s.files name).map fun rules => ⟨rules, listing⟩
  | _, _, table => table = s.table

/-- What fails leaves the files as they were. -/
def filesAfter (s : DirectWorld) : (c : DirectCall) → c.Answer → String → Option String
  | .command (.write name raw), true => Function.update s.files name (some raw)
  | .command (.unlink name), true => Function.update s.files name none
  | _, _ => s.files

def after (s : DirectWorld) (c : DirectCall) (r : c.Answer) : DirectWorld :=
  ⟨s.table, filesAfter s c r, s.past ++ [⟨s.table, s.files, ⟨c, r⟩⟩]⟩

/-- What the answers say of the table and the files. -/
def Told (s : DirectWorld) : (c : DirectCall) → c.Answer → Prop
  | .listTables, r => ∀ present, r = some present → present = s.table.isSome
  | .listTable, r => ∀ raw, r = some raw → raw.utf8ByteSize ≤ 32768 ∧
      ∃ t, s.table = some t ∧ raw = t.listing
  | .read name limit, r => ∀ text, r = some text → ∃ whole, s.files name = some whole ∧
      (whole.utf8ByteSize ≤ limit → text = whole)
  | .command (.loadRules name), r => r = true → (s.files name).isSome = true
  | _, _ => True

def directStep (c : DirectCall) (s : DirectWorld) (r : c.Answer) (s' : DirectWorld) : Prop :=
  Told s c r ∧ ∃ table, TableAfter s c r table ∧ s' = { after s c r with table := table }

/-! What has been done. -/

def ok (c : DirectCommand) : DirectEvent := ⟨.command c, true⟩

def Did (l : List DirectEvent) (past : List DirectMark) : Prop :=
  l.Sublist (past.map (·.event))

/-- The action has closed the guard, then found that nothing forbids to open it, had the engine
check the plan, prepared and started it, and found it running and on the queue. -/
def Prepared (value : Value) (past : List DirectMark) : Prop :=
  Did ([ok (.loadRules "rules.nft")] ++ permitted.map ok ++
    [ok (.write "check.conf" (engineConfig value ++ "--intercept=0\n")), ok .checkEngine] ++
    (prepare value).map ok ++ [.queued, .running].map ok) past

/-- The loaded rules close the guard. -/
def Closed (table : Option DirectTable) : Prop := ∃ listing, table = some ⟨closedNft, listing⟩

/-- What is true of every load of rules: the table is not another's, and the rules close the guard,
or open it for a valid plan that was prepared while it was closed. -/
structure Proper (m : DirectMark) (before : List DirectMark) : Prop where
  ours : ∀ name r, m.event = ⟨.command (.loadRules name), r⟩ → ∀ t, m.table = some t →
    ownership t.listing = true
  content : ∀ name r, m.event = ⟨.command (.loadRules name), r⟩ →
    m.files name = some closedNft ∨ ∃ value t, nft value = some t ∧
      m.files name = some t.text ∧ Closed m.table ∧ Prepared value before

/-- The calls with which the closing of the guard may be refused. -/
def Refuses : DirectEvent → Prop
  | ⟨.listTables, r⟩ => r = none
  | ⟨.listTable, r⟩ => r.all (!ownership ·) = true
  | ⟨.command .directory, r⟩ => r = false
  | ⟨.command (.write name _), r⟩ => name = "rules.nft" ∧ r = false
  | ⟨.command (.checkRules name), r⟩ => name = "rules.nft" ∧ r = false
  | ⟨.command (.loadRules name), r⟩ => name = "rules.nft" ∧ r = false
  | _ => False

def Shut (s : DirectWorld) : Prop := Closed s.table

def LastRefused (s : DirectWorld) : Prop :=
  ∃ before refusal, s.past.map (·.event) = before ++ [refusal] ∧ Refuses refusal

/-- The action has ended with a refused closing, and an attempt to stop the engine. -/
def Refused (s : DirectWorld) : Prop :=
  ∃ before refusal stopped, s.past.map (·.event) = before ++ [refusal, ⟨.command .stop, stopped⟩] ∧
    Refuses refusal

section

variable {shown : Value → String} {s s' : DirectWorld} {α β : Type} {value : Value}
  {l : List DirectEvent}

/-- A call that may be made. -/
def Allowed (c : DirectCall) (s : DirectWorld) : Prop :=
  ∀ r, Proper ⟨s.table, s.files, ⟨c, r⟩⟩ s.past

abbrev Ends (Q : α → DirectWorld → Prop) (p : Direct α) (s : DirectWorld) : Prop :=
  Sat directStep Allowed Q p s

theorem ends_bind {p : Direct α} {f : α → Direct β} {Q : α → DirectWorld → Prop}
    {R : β → DirectWorld → Prop} (h : Ends Q p s) (hf : ∀ a u, Q a u → Ends R (f a) u) :
    Ends R (p >>= f) s :=
  Sat.bind (h.post fun a u hq => hf a u hq)

def Calm (c : DirectCall) : Prop := ∀ name, c ≠ .command (.loadRules name)

theorem calm_write (name raw : String) : Calm (.command (.write name raw)) := fun _ h => by cases h

theorem calm_unlink (name : String) : Calm (.command (.unlink name)) := fun _ h => by cases h

theorem calm_read (name : String) (limit : Nat) : Calm (.read name limit) := fun _ h => by cases h

theorem Calm.allowed {c : DirectCall} (h : Calm c) : Allowed c s := by
  refine fun r => ⟨fun name r' he => ?_, fun name r' he => ?_⟩
  · exact absurd (congrArg Sigma.fst he) (h name)
  · exact absurd (congrArg Sigma.fst he) (h name)

theorem Calm.step {c : DirectCall} (hc : Calm c) {r : c.Answer} (h : directStep c s r s') :
    s' = after s c r := by
  obtain ⟨-, table, htable, rfl⟩ := h
  obtain rfl : table = s.table := by
    cases c with
    | command c =>
      cases c with
      | loadRules name => exact absurd rfl (hc name)
      | _ => exact htable
    | _ => exact htable
  rfl

theorem ends_ask {c : DirectCall} {Q : c.Answer → DirectWorld → Prop} (hc : Calm c)
    (h : ∀ r, Told s c r → Q r (after s c r)) : Ends Q (ask c) s :=
  ⟨hc.allowed, fun r _ hs => hc.step hs ▸ h r hs.1⟩

theorem ends_next {c : DirectCall} {f : c.Answer → Direct β} {R : β → DirectWorld → Prop}
    (hc : Calm c) (h : ∀ r, Told s c r → Ends R (f r) (after s c r)) : Ends R (ask c >>= f) s := by
  refine ends_bind (Q := fun r u => u = after s c r ∧ Told s c r)
    (ends_ask hc fun r ht => ⟨rfl, ht⟩) fun r u ⟨hu, htold⟩ => ?_
  subst hu
  exact h r htold

theorem Shut.of_table {u : DirectWorld} (h : Shut s) (ht : u.table = s.table) : Shut u := by
  rw [Shut, ht]
  exact h

theorem Did.mono {past past' : List DirectMark} (h : Did l past) (hp : past <+: past') :
    Did l past' := h.trans (hp.sublist.map _)

theorem Did.next {c : DirectCall} {r : c.Answer} (h : Did l s.past) :
    Did (l ++ [⟨c, r⟩]) (after s c r).past := by
  rw [Did, after, List.map_append]
  exact h.append (List.Sublist.refl _)

theorem after_past (s : DirectWorld) (c : DirectCall) (r : c.Answer) :
    s.past <+: (after s c r).past := ⟨_, rfl⟩

/-! Commands in a row. -/

def afterAll (s : DirectWorld) (cs : List DirectCommand) : DirectWorld :=
  cs.foldl (fun s c => after s (.command c) true) s

theorem Did.all (h : Did l s.past) (cs : List DirectCommand) :
    Did (l ++ cs.map ok) (afterAll s cs).past := by
  induction cs generalizing s l with
  | nil =>
    rw [List.map_nil, List.append_nil]
    exact h
  | cons c cs ih =>
    have hrest := ih (s := after s (.command c) true) (h.next (c := .command c) (r := true))
    rw [List.append_assoc] at hrest
    exact hrest

theorem allOf_ends {cs : List DirectCommand} (hcs : ∀ c ∈ cs, Calm (.command c)) :
    Ends (fun r u => u.table = s.table ∧ s.past <+: u.past ∧ (r = true → u = afterAll s cs))
      (allOf cs) s := by
  induction cs generalizing s with
  | nil => exact ⟨rfl, List.prefix_rfl, fun _ => rfl⟩
  | cons c cs ih =>
    have hcalm := hcs c List.mem_cons_self
    refine ends_next hcalm fun r _ => ?_
    cases r with
    | false => exact ⟨rfl, after_past s _ _, nofun⟩
    | true =>
      refine (ih fun c hc => hcs c (List.mem_cons_of_mem _ hc)).post fun r u hu => ?_
      exact ⟨hu.1, (after_past s _ _).trans hu.2.1, hu.2.2⟩

theorem lastRefused_after {c : DirectCall} {r : c.Answer} (h : Refuses ⟨c, r⟩) :
    LastRefused (after s c r) :=
  ⟨s.past.map (·.event), ⟨c, r⟩, by rw [after, List.map_append]; rfl, h⟩

theorem LastRefused.stop (h : LastRefused s) (r : Bool) :
    Refused (after s (.command .stop) r) := by
  obtain ⟨before, refusal, hpast, hr⟩ := h
  exact ⟨before, refusal, r, by
    rw [after, List.map_append, hpast, List.append_assoc]
    rfl, hr⟩

/-- The table and the files are as they were. -/
def Still (s u : DirectWorld) : Prop :=
  u.table = s.table ∧ u.files = s.files ∧ s.past <+: u.past

theorem Still.trans {u v : DirectWorld} (h : Still s u) (h' : Still u v) : Still s v :=
  ⟨h'.1.trans h.1, h'.2.1.trans h.2.1, h.2.2.trans h'.2.2⟩

/-- A table that is listed as the helper's own. -/
def Listed (table : Option DirectTable) (raw : Option String) : Prop :=
  ∃ t, table = some t ∧ raw = some t.listing ∧ ownership t.listing = true ∧
    t.listing.utf8ByteSize ≤ 32768

theorem table_ends : Ends (fun o u => Still s u ∧
    (o.ok = true → (o.present = true ∧ Listed s.table o.raw) ∨
      (o.present = false ∧ s.table = none)) ∧
    (o.ok = false → LastRefused u) ∧
    (o.ok = true → o.present = true → ∃ raw, o.raw = some raw ∧ ownership raw = true ∧
      ∀ l, Did l s.past →
        Did (l ++ [⟨.listTables, some true⟩, ⟨.listTable, some raw⟩]) u.past)) table s := by
  refine ends_next nofun fun r htold => ?_
  have hstill : Still s (after s .listTables r) := ⟨rfl, rfl, after_past s _ _⟩
  match r with
  | none => exact ⟨hstill, nofun, fun _ => lastRefused_after rfl, nofun⟩
  | some false =>
    have hnone := (htold false rfl).symm
    exact ⟨hstill, fun _ => .inr ⟨rfl, by simpa using hnone⟩, nofun, nofun⟩
  | some true =>
    refine ends_next nofun fun r htold => ?_
    refine ⟨hstill.trans ⟨rfl, rfl, after_past _ _ _⟩, fun hok => ?_, fun hok => ?_,
      fun hok _ => ?_⟩
    · cases r with
      | none => cases hok
      | some raw =>
        obtain ⟨hsize, t, ht, rfl⟩ := htold raw rfl
        exact .inl ⟨rfl, t, ht, rfl, hok, hsize⟩
    · refine lastRefused_after ?_
      cases r with
      | none => rfl
      | some raw =>
        have hraw : ownership raw = false := hok
        show (!ownership raw) = true
        rw [hraw]
        rfl
    · cases r with
      | none => cases hok
      | some raw =>
        refine ⟨raw, rfl, hok, fun l hl => ?_⟩
        have hdid := (hl.next (c := .listTables) (r := some true)).next
          (s := after s .listTables (some true)) (c := .listTable) (r := some raw)
        rw [List.append_assoc] at hdid
        exact hdid

theorem allOf_cons {c : DirectCommand} {cs : List DirectCommand}
    {Q : Bool → DirectWorld → Prop} (hc : Calm (.command c))
    (hfalse : Q false (after s (.command c) false))
    (htrue : Ends Q (allOf cs) (after s (.command c) true)) : Ends Q (allOf (c :: cs)) s := by
  refine ends_next hc fun r _ => ?_
  cases r with
  | false => exact hfalse
  | true => exact htrue

/-- The rules have been loaded, and are the helper's as the filter lists them. -/
structure Loaded (s : DirectWorld) (raw listing : String) (r : Bool) (u : DirectWorld) : Prop where
  table : u.table = some ⟨raw, listing⟩
  did : ∀ l, Did l s.past → Did (l ++ [ok (.loadRules "rules.nft")]) u.past
  files : r = true → u.files = Function.update (Function.update s.files "rules.nft" (some raw))
    "canonical.nft" (some listing) ∧ Listed u.table (some listing)

theorem apply_ends {raw : String} (hload : ∀ u, u.table = s.table → s.past <+: u.past →
      u.files "rules.nft" = some raw → Allowed (.command (.loadRules "rules.nft")) u) :
    Ends (fun r u => s.past <+: u.past ∧
      (r = false ∧ u.table = s.table ∧ LastRefused u ∨ ∃ listing, Loaded s raw listing r u))
      (apply raw) s := by
  let w₁ := after s (.command .directory) true
  let w₂ := after w₁ (.command (.write "rules.nft" raw)) true
  let w₃ := after w₂ (.command (.checkRules "rules.nft")) true
  let w₄ (listing : String) : DirectWorld :=
    { after w₃ (.command (.loadRules "rules.nft")) true with table := some ⟨raw, listing⟩ }
  have hpast₂ : s.past <+: w₂.past := (after_past s _ _).trans (after_past w₁ _ _)
  have hpast₃ : s.past <+: w₃.past := hpast₂.trans (after_past w₂ _ _)
  have hpast₄ (listing : String) : s.past <+: (w₄ listing).past :=
    hpast₃.trans (after_past w₃ _ _)
  have hfiles : w₃.files = Function.update s.files "rules.nft" (some raw) := rfl
  have hcontent : w₃.files "rules.nft" = some raw := by rw [hfiles, Function.update_self]
  have hdid (listing : String) (l : List DirectEvent) (h : Did l s.past) :
      Did (l ++ [ok (.loadRules "rules.nft")]) (w₄ listing).past :=
    (h.mono hpast₃).next (s := w₃) (c := .command (.loadRules "rules.nft")) (r := true)
  have hrow : Ends (fun r u => s.past <+: u.past ∧
      (r = false ∧ u.table = s.table ∧ LastRefused u ∨ r = true ∧ ∃ listing, u = w₄ listing))
      (allOf [.directory, .write "rules.nft" raw, .checkRules "rules.nft",
        .loadRules "rules.nft"]) s := by
    refine allOf_cons nofun ⟨after_past s _ _, .inl ⟨rfl, rfl, lastRefused_after rfl⟩⟩ ?_
    refine allOf_cons nofun ⟨(after_past s _ _).trans (after_past w₁ _ _),
      .inl ⟨rfl, rfl, lastRefused_after ⟨rfl, rfl⟩⟩⟩ ?_
    refine allOf_cons nofun ⟨hpast₂.trans (after_past w₂ _ _),
      .inl ⟨rfl, rfl, lastRefused_after ⟨rfl, rfl⟩⟩⟩ ?_
    refine ends_bind (Q := fun r u => directStep (.command (.loadRules "rules.nft")) w₃ r u)
      ⟨hload w₃ rfl hpast₃ hcontent, fun r u hs => hs⟩ fun r u hu => ?_
    obtain ⟨-, table, htable, rfl⟩ := hu
    cases r with
    | false =>
      obtain rfl : table = w₃.table := htable
      exact ⟨hpast₃.trans (after_past w₃ _ _),
        .inl ⟨rfl, rfl, lastRefused_after (s := w₃) ⟨rfl, rfl⟩⟩⟩
    | true =>
      obtain ⟨listing, rfl⟩ := htable
      refine ⟨hpast₄ listing, .inr ⟨rfl, listing, ?_⟩⟩
      rw [hcontent, Option.map_some]
  refine ends_bind hrow fun r u ⟨hpast, hr⟩ => ?_
  rcases hr with ⟨rfl, hsame, hrefused⟩ | ⟨rfl, listing, rfl⟩
  · exact ⟨hpast, .inl ⟨rfl, hsame, hrefused⟩⟩
  refine ends_bind table_ends fun o u ⟨⟨htable, hfilesu, hpastu⟩, hlisted, _⟩ => ?_
  have hloaded (hno : (o.ok && o.present) = false) : Loaded s raw listing false u :=
    ⟨htable, fun l h => (hdid listing l h).mono hpastu, nofun⟩
  cases hown : o.ok && o.present with
  | false =>
    rw [if_neg (by simp)]
    exact ⟨hpast.trans hpastu, .inr ⟨listing, hloaded hown⟩⟩
  | true =>
    rw [if_pos (by simp)]
    obtain ⟨hok, hpresent⟩ := Bool.and_eq_true_iff.mp hown
    rcases hlisted hok with ⟨-, hl⟩ | ⟨hp, -⟩
    · obtain ⟨t, ht, hraw, hl'⟩ := hl
      obtain rfl : (⟨raw, listing⟩ : DirectTable) = t := Option.some.inj ht
      refine ends_ask nofun fun r _ => ⟨(hpast.trans hpastu).trans (after_past u _ _),
        .inr ⟨listing, ?_⟩⟩
      refine ⟨htable, fun l h => ((hdid listing l h).mono hpastu).mono (after_past u _ _),
        fun hr => ?_⟩
      subst hr
      refine ⟨?_, _, htable, rfl, hl'⟩
      show Function.update u.files "canonical.nft" (some (o.raw.getD "")) = _
      rw [hfilesu, hraw]
      rfl
    · rw [hp] at hpresent
      cases hpresent

theorem allOf_still {cs : List DirectCommand} (hcs : ∀ c ∈ cs, Calm (.command c) ∧
    ∀ u r, filesAfter u (.command c) r = u.files) :
    Ends (fun r u => Still s u ∧ (r = true → u = afterAll s cs)) (allOf cs) s := by
  induction cs generalizing s with
  | nil => exact ⟨⟨rfl, rfl, List.prefix_rfl⟩, fun _ => rfl⟩
  | cons c cs ih =>
    obtain ⟨hcalm, hfiles⟩ := hcs c List.mem_cons_self
    have hstill (r : Bool) : Still s (after s (.command c) r) :=
      ⟨rfl, hfiles s r, after_past s _ _⟩
    refine allOf_cons hcalm ⟨hstill false, nofun⟩ ?_
    exact (ih fun c hc => hcs c (List.mem_cons_of_mem _ hc)).post fun r u hu =>
      ⟨(hstill true).trans hu.1, hu.2⟩

/-- What the closing of the guard guarantees. -/
structure Closing (s : DirectWorld) (r : Bool) (u : DirectWorld) : Prop where
  past : s.past <+: u.past
  table : u.table = s.table ∨ Shut u
  failed : r = false → Shut u ∨ Refused u
  closed : r = true → Shut u ∧ u.files "plan.json" = some "null\n" ∧
    (∃ raw, Listed u.table raw) ∧ ∀ l, Did l s.past → Did (l ++ [ok (.loadRules "rules.nft")]) u.past

theorem closeGuard_ends : Ends (Closing s) closeGuard s := by
  refine ends_bind table_ends fun o u ⟨⟨htable, hfiles, hpast⟩, hlisted, hrefused, _⟩ => ?_
  by_cases hbad : (!o.ok || o.present && !o.raw.any ownership) = true
  · rw [if_pos hbad]
    refine ends_next nofun fun r _ => ?_
    refine ⟨hpast.trans (after_past u _ _), .inl htable, fun _ => .inr ?_, nofun⟩
    refine (hrefused ?_).stop r
    cases hok : o.ok with
    | false => rfl
    | true =>
      rcases hlisted hok with ⟨-, t, -, hraw, howned, -⟩ | ⟨hp, -⟩
      · simp [hok, hraw, howned] at hbad
      · simp [hok, hp] at hbad
  rw [if_neg hbad]
  have hok : o.ok = true := by
    cases hok : o.ok with
    | false => simp [hok] at hbad
    | true => rfl
  have hown (t : DirectTable) (ht : s.table = some t) : ownership t.listing = true := by
    rcases hlisted hok with ⟨-, t', ht', -, howned, -⟩ | ⟨-, hnone⟩
    · rw [ht] at ht'
      rw [Option.some.inj ht']
      exact howned
    · rw [ht] at hnone
      cases hnone
  have hload (v : DirectWorld) (hv : v.table = u.table) (_ : u.past <+: v.past)
      (hc : v.files "rules.nft" = some closedNft) :
      Allowed (.command (.loadRules "rules.nft")) v := by
    refine fun r => ⟨fun name r' _ t ht => ?_, fun name r' he => .inl ?_⟩
    · exact hown t ((hv.trans htable).symm.trans ht)
    · obtain rfl : "rules.nft" = name := by
        have hcall : DirectCall.command (.loadRules "rules.nft") =
            DirectCall.command (.loadRules name) := congrArg Sigma.fst he
        simpa using hcall
      exact hc
  refine ends_bind (apply_ends hload) fun closed v ⟨hpastv, hv⟩ => ?_
  have hpast' := hpast.trans hpastv
  refine ends_next nofun fun stopped _ => ?_
  have hpastw := hpast'.trans (after_past v (.command .stop) stopped)
  cases closed with
  | false =>
    rcases hv with ⟨-, hsame, hlast⟩ | ⟨listing, hloaded⟩
    · exact ⟨hpastw, .inl (hsame.trans htable), fun _ => .inr (hlast.stop stopped), nofun⟩
    · have hshut : Shut (after v (.command .stop) stopped) := ⟨listing, hloaded.table⟩
      exact ⟨hpastw, .inr hshut, fun _ => .inl hshut, nofun⟩
  | true =>
    obtain ⟨listing, hloaded⟩ : ∃ listing, Loaded u closedNft listing true v := by
      rcases hv with ⟨hf, -⟩ | hloaded
      · cases hf
      · exact hloaded
    have hunlink (name : String) {w : DirectWorld} (hw : w.table = v.table)
        (hp : s.past <+: w.past) (hd : v.past <+: w.past) :
        Ends (fun _ x => x.table = v.table ∧ s.past <+: x.past ∧ v.past <+: x.past)
        (tell (.unlink name)) w :=
      ends_ask (calm_unlink name) fun r _ => ⟨hw, hp.trans (after_past w _ _),
        hd.trans (after_past w _ _)⟩
    have hclean : Ends (fun _ x => x.table = v.table ∧ s.past <+: x.past ∧ v.past <+: x.past)
        cleanEnabledFiles (after v (.command .stop) stopped) := by
      refine ends_bind (hunlink _ rfl hpastw (after_past v _ _)) fun _ x ⟨hx, hp, hd⟩ => ?_
      refine ends_bind (hunlink _ hx hp hd) fun _ x ⟨hx, hp, hd⟩ => ?_
      exact ends_bind (hunlink _ hx hp hd) fun _ x hx => hx
    refine ends_bind hclean fun _ x ⟨hx, hp, hd⟩ => ?_
    have hshut : Shut x := ⟨listing, hx.trans hloaded.table⟩
    cases stopped with
    | false => exact ⟨hp, .inr hshut, fun _ => .inl hshut, nofun⟩
    | true =>
      refine ends_ask nofun fun r _ => ⟨hp.trans (after_past x _ _), .inr hshut,
        fun _ => .inl hshut, fun hr => ?_⟩
      subst hr
      refine ⟨hshut, by simp [after, filesAfter], ⟨some listing, ?_⟩, fun l hl => ?_⟩
      · show Listed x.table (some listing)
        rw [hx]
        exact (hloaded.files rfl).2
      exact (hloaded.did l (hl.mono hpast)).mono (hd.trans (after_past x _ _))

theorem shut_ends (r : Except String Unit) :
    Ends (fun r' u => r' = r ∧ (Shut u ∨ Refused u)) (shut r) s := by
  refine ends_bind closeGuard_ends fun closed u hu => ⟨rfl, ?_⟩
  cases closed with
  | false => exact hu.failed rfl
  | true => exact .inl (hu.closed rfl).1

theorem still_ask {c : DirectCall} {Q : c.Answer → DirectWorld → Prop} (hc : Calm c)
    (hf : ∀ r, filesAfter s c r = s.files) (h : ∀ r, Still s (after s c r) → Q r (after s c r)) :
    Ends Q (ask c) s :=
  ends_ask hc fun r _ => h r ⟨rfl, hf r, after_past s c r⟩

/-- The calls of a check that succeeds. -/
def checks (shown : Value → String) (value : Value) (raw : String) : List DirectEvent :=
  [⟨.listTables, some true⟩, ⟨.listTable, some raw⟩, ⟨.read "canonical.nft" 32769, some raw⟩,
    ⟨.read "plan.json" 65537, some (planLine shown value)⟩,
    ⟨.read "nfqws.conf" 32769, config value⟩] ++ [.accounted, .running, .queued].map ok

theorem check_ends : Ends (fun r u => Still s u ∧ (r = true → value.isNull = false →
    validPlan value = true ∧ ∃ raw, ownership raw = true ∧
      ∀ l, Did l s.past → Did (l ++ checks shown value raw) u.past)) (check shown value) s := by
  have hread {u : DirectWorld} (hu : Still s u) (name : String) (limit : Nat)
      (r : Option String) : Still s (after u (.read name limit) r) :=
    hu.trans ⟨rfl, rfl, after_past u _ _⟩
  unfold check
  refine ends_bind table_ends fun o u ⟨hu, _, _, hlisted⟩ => ?_
  split
  · exact ⟨hu, nofun⟩
  rename_i howned
  rw [Bool.or_eq_true, not_or] at howned
  obtain ⟨raw, hraw, hown, hdid⟩ := hlisted (by simpa using howned.1) (by simpa using howned.2)
  refine ends_next (calm_read _ _) fun canonical _ => ?_
  replace hu := hread hu "canonical.nft" 32769 canonical
  split
  · exact ⟨hu, nofun⟩
  rename_i hcanonical
  refine ends_next (calm_read _ _) fun written _ => ?_
  replace hu := hread hu "plan.json" 65537 written
  split
  · exact ⟨hu, nofun⟩
  rename_i hwritten
  split
  · rename_i hn
    exact ends_next nofun fun r _ => ⟨hu.trans ⟨rfl, rfl, after_past _ _ _⟩,
      fun _ h => absurd hn (by simp [h])⟩
  split
  · exact ⟨hu, nofun⟩
  rename_i hvalid
  refine ends_next (calm_read _ _) fun engineFile _ => ?_
  replace hu := hread hu "nfqws.conf" 32769 engineFile
  split
  · exact ⟨hu, nofun⟩
  rename_i hengine
  refine (allOf_still (by simp [Calm, filesAfter])).post fun r v ⟨hv, hall⟩ =>
    ⟨hu.trans hv, fun hr _ => ⟨by simpa using hvalid, raw, hown, fun l hl => ?_⟩⟩
  have hcanonical : canonical = some raw := by simpa [hraw] using hcanonical
  have hwritten : written = some (planLine shown value) := by simpa using hwritten
  have hengine : engineFile = config value := by simpa using hengine
  subst hcanonical hwritten hengine
  rw [hall hr]
  have hdone := ((((hdid l hl).next (c := .read "canonical.nft" 32769) (r := some raw)).next
    (s := after u _ _) (c := .read "plan.json" 65537) (r := some (planLine shown value))).next
    (s := after (after u _ _) _ _) (c := .read "nfqws.conf" 32769) (r := config value)).all
    [.accounted, .running, .queued]
  simpa [checks] using hdone

theorem validate_ends (hn : value.isNull = false) : Ends (fun r u => u.table = s.table ∧
    s.past <+: u.past ∧ (r = none → validPlan value = true ∧ ∀ l, Did l s.past →
      Did (l ++ [ok (.write "check.conf" (engineConfig value ++ "--intercept=0\n")),
        ok .checkEngine]) u.past)) (validate value) s := by
  unfold validate
  rw [if_neg (by simp [hn])]
  split
  · exact ⟨rfl, List.prefix_rfl, nofun⟩
  rename_i hvalid
  replace hvalid : validPlan value = true := by simpa using hvalid
  refine ends_bind (allOf_ends (by simp [Calm])) fun r u ⟨htable, hpast, _⟩ => ?_
  cases r with
  | false => exact ⟨htable, hpast, nofun⟩
  | true =>
    refine ends_bind (allOf_ends (by simp [Calm])) fun r v ⟨htable', hpast', _⟩ => ?_
    replace htable := htable'.trans htable
    replace hpast := hpast.trans hpast'
    cases r with
    | false => exact ⟨htable, hpast, nofun⟩
    | true =>
      refine ends_next nofun fun r _ => ?_
      replace hpast := hpast.trans (after_past v (.command .directory) r)
      cases r with
      | false => exact ⟨htable, hpast, nofun⟩
      | true =>
        let c := DirectCommand.write "check.conf" (engineConfig value ++ "--intercept=0\n")
        let w := after v (.command .directory) true
        refine ends_next (calm_write _ _) fun r _ => ?_
        cases r with
        | false => exact ⟨htable, hpast.trans (after_past w _ _), nofun⟩
        | true =>
          let x := after w (.command c) true
          refine ends_next nofun fun checked _ => ?_
          let y := after x (.command .checkEngine) checked
          refine ends_next nofun fun r _ => ?_
          have hpasty : s.past <+: y.past :=
            (hpast.trans (after_past w _ _)).trans (after_past x _ _)
          have htablez : (after y (.command (.unlink "check.conf")) r).table = s.table := htable
          cases checked with
          | false => exact ⟨htablez, hpasty.trans (after_past y _ _), nofun⟩
          | true =>
            refine ⟨htablez, hpasty.trans (after_past y _ _), fun _ => ⟨hvalid, fun l hl => ?_⟩⟩
            have hdid := ((hl.mono hpast).next (s := w) (c := .command c) (r := true)).next
              (s := x) (c := .command .checkEngine) (r := true)
            rw [List.append_assoc] at hdid
            exact hdid.mono (after_past y (.command (.unlink "check.conf")) r)

/-- What the commands before the engine is waited for, and its check, have done. -/
def readied (value : Value) : List DirectEvent :=
  [ok (.loadRules "rules.nft")] ++ permitted.map ok ++
    [ok (.write "check.conf" (engineConfig value ++ "--intercept=0\n")), ok .checkEngine] ++
    (prepare value).map ok

theorem openText_eq {t : Table} (h : nft value = some t) : openText value = t.text := by
  rw [openText, h]
  rfl

theorem nft_isSome (h : validPlan value = true) : ∃ t, nft value = some t := by
  rw [nft, if_neg (by simp [h])]
  exact ⟨_, rfl⟩

/-- The guard is open for the plan, and the files say so. -/
structure Settled (shown : Value → String) (value : Value) (s : DirectWorld) : Prop where
  table : ∃ listing, s.table = some ⟨openText value, listing⟩
  listed : Listed s.table (s.files "canonical.nft")
  plan : s.files "plan.json" = some (planLine shown value)
  engine : s.files "nfqws.conf" = some (engineConfig value)

theorem openWhenQueued_ends (hvalid : validPlan value = true)
    (hown : ∀ t, s.table = some t → ownership t.listing = true) (n : Nat) (hs : Shut s)
    (hd : Did (readied value) s.past) (hf : s.files "nfqws.conf" = some (engineConfig value)) :
    Ends (fun r u => r = true → Settled shown value u) (openWhenQueued shown value n) s := by
  induction n generalizing s with
  | zero => exact nofun
  | succ n ih =>
    unfold openWhenQueued
    refine ends_bind (allOf_still (by simp [Calm, filesAfter]))
      fun r u ⟨⟨htable, hfiles, hpast⟩, hu⟩ => ?_
    have hfu : u.files "nfqws.conf" = some (engineConfig value) := by rw [hfiles, hf]
    cases r with
    | false =>
      refine ends_next nofun fun r _ => ?_
      exact ih (fun t ht => hown t (htable.symm.trans ht)) (hs.of_table htable)
        (hd.mono (hpast.trans (after_past u _ _))) hfu
    | true =>
      have hprepared : Prepared value u.past := by
        rw [hu rfl]
        exact hd.all [.queued, .running]
      obtain ⟨t, ht⟩ := nft_isSome hvalid
      have hload (v : DirectWorld) (hv : v.table = u.table) (hp : u.past <+: v.past)
          (hc : v.files "rules.nft" = some (openText value)) :
          Allowed (.command (.loadRules "rules.nft")) v := by
        have hsame : v.table = s.table := hv.trans htable
        refine fun r => ⟨fun name r' _ t ht => ?_, fun name r' he => .inr ?_⟩
        · exact hown t (hsame.symm.trans ht)
        · obtain rfl : "rules.nft" = name := by
            have hcall : DirectCall.command (.loadRules "rules.nft") =
                DirectCall.command (.loadRules name) := congrArg Sigma.fst he
            simpa using hcall
          exact ⟨value, t, ht, hc.trans (congrArg some (openText_eq ht)), hs.of_table hsame,
            Did.mono hprepared hp⟩
      refine ends_bind (apply_ends hload) fun applied v ⟨_, hv⟩ => ?_
      cases applied with
      | false => exact nofun
      | true =>
        obtain ⟨listing, hloaded⟩ : ∃ listing, Loaded u (openText value) listing true v := by
          rcases hv with ⟨hf, -⟩ | hloaded
          · cases hf
          · exact hloaded
        obtain ⟨hfilesv, hlisted⟩ := hloaded.files rfl
        let w := after v (.command (.write "plan.json" (planLine shown value))) true
        refine ends_next (calm_write _ _) fun r _ => ?_
        cases r with
        | false => exact nofun
        | true =>
          have hsettled : Settled shown value w := by
            have hw : w.files = Function.update v.files "plan.json" (some (planLine shown value)) := rfl
            refine ⟨⟨listing, hloaded.table⟩, ?_, ?_, ?_⟩
            · show Listed v.table _
              rw [hw, hfilesv]
              simpa using hlisted
            · rw [hw, Function.update_self]
            · rw [hw, hfilesv]
              simpa using hfu
          refine ends_bind (Q := fun _ x => Settled shown value x)
            (ends_ask (calm_unlink _) fun r _ => ?_) fun _ x hx _ => hx
          have hx (name : String) (hne : name ≠ "open.nft") :
              (after w (.command (.unlink "open.nft")) r).files name = w.files name := by
            cases r with
            | false => rfl
            | true => exact Function.update_of_ne hne _ _
          refine ⟨hsettled.table, ?_, ?_, ?_⟩
          · rw [hx _ (by decide)]
            exact hsettled.listed
          · rw [hx _ (by decide), hsettled.plan]
          · rw [hx _ (by decide), hsettled.engine]

/-- Nothing has forbidden the guard to be open, and then a check of the plan has succeeded. -/
def Confirmed (shown : Value → String) (value : Value) (s u : DirectWorld) : Prop :=
  ∃ raw, ownership raw = true ∧
    Did (s.past.map (·.event) ++ permitted.map ok ++ checks shown value raw) u.past

theorem Confirmed.of_past {u v : DirectWorld} (h : Confirmed shown value u v)
    (hp : s.past <+: u.past) : Confirmed shown value s v := by
  obtain ⟨raw, hown, hdid⟩ := h
  refine ⟨raw, hown, List.Sublist.trans ?_ hdid⟩
  exact ((hp.sublist.map _).append (List.Sublist.refl _)).append (List.Sublist.refl _)

/-- What an attempt to bring the lane up guarantees. -/
def Raised (shown : Value → String) (value : Value) (s : DirectWorld) :
    Except String Unit → DirectWorld → Prop
  | .ok _, u => value.isNull = true ∧ Shut u ∨ value.isNull = false ∧ validPlan value = true ∧
      (Still s u ∧ Confirmed shown value s u ∨ Settled shown value u)
  | .error _, u => Shut u ∨ Refused u

theorem bringUp_ends (hn : value.isNull = false)
    (hown : ∀ t, s.table = some t → ownership t.listing = true) {w : DirectWorld} (hs : Shut s)
    (hd : Did ([ok (.loadRules "rules.nft")] ++ permitted.map ok) s.past) :
    Ends (Raised shown value w) (bringUp shown value) s := by
  have hshut {u : DirectWorld} {r : Except String Unit} (hr : ∀ a, r ≠ .ok a) :
      Ends (Raised shown value w) (shut r) u := by
    refine (shut_ends r).post fun r' u ⟨he, hu⟩ => ?_
    subst he
    cases r' with
    | ok a => exact absurd rfl (hr a)
    | error code => exact hu
  unfold bringUp
  refine ends_bind (validate_ends hn) fun failure u ⟨htable, hpast, hvalidated⟩ => ?_
  cases failure with
  | some code => exact hshut nofun
  | none =>
    obtain ⟨hvalid, hdid⟩ := hvalidated rfl
    refine ends_next nofun fun r _ => ?_
    have hdidv := (hdid _ hd).mono (after_past u (.command .queued) r)
    cases r with
    | true => exact hshut nofun
    | false =>
      refine ends_bind (allOf_ends (by simp [Calm, prepare])) fun r v ⟨htable', _, hv⟩ => ?_
      cases r with
      | false => exact hshut nofun
      | true =>
        have hreadied : Did (readied value) v.past := by
          rw [hv rfl]
          exact hdidv.all (prepare value)
        have hengine : v.files "nfqws.conf" = some (engineConfig value) := by
          rw [hv rfl]
          simp [afterAll, prepare, after, filesAfter]
        have hsame : v.table = s.table := htable'.trans htable
        refine ends_bind (openWhenQueued_ends hvalid (fun t ht => hown t (hsame.symm.trans ht)) 5
          (hs.of_table hsame) hreadied hengine) fun opened x hx => ?_
        cases opened with
        | false => exact hshut nofun
        | true => exact .inr ⟨hn, hvalid, .inr (hx rfl)⟩

theorem up_ends : Ends (Raised shown value s) (up shown value) s := by
  have hshut {u : DirectWorld} : Ends (Raised shown value s) (shut unavailable) u := by
    refine (shut_ends _).post fun r' u ⟨he, hu⟩ => ?_
    subst he
    exact hu
  unfold up
  split
  · rename_i hn
    refine ends_bind closeGuard_ends fun closed u hu => ?_
    cases closed with
    | false => exact hu.failed rfl
    | true => exact .inl ⟨hn, (hu.closed rfl).1⟩
  rename_i hn
  replace hn : value.isNull = false := by simpa using hn
  refine ends_bind (allOf_ends (by simp [Calm, permitted])) fun r u ⟨htable, hpast, hu⟩ => ?_
  cases r with
  | false => exact hshut
  | true =>
    refine ends_bind check_ends fun r v ⟨hv, hchecked⟩ => ?_
    cases r with
    | true =>
      obtain ⟨hvalid, raw, hown, hdid⟩ := hchecked rfl hn
      have hstill : Still s u := by
        rw [hu rfl]
        exact ⟨rfl, rfl, hu rfl ▸ hpast⟩
      have hdone : Did (s.past.map (·.event) ++ permitted.map ok) u.past := by
        rw [hu rfl]
        exact Did.all (List.Sublist.refl _) permitted
      exact .inr ⟨hn, hvalid, .inl ⟨hstill.trans hv, raw, hown, hdid _ hdone⟩⟩
    | false =>
      refine ends_bind closeGuard_ends fun closed w hw => ?_
      cases closed with
      | false => exact hw.failed rfl
      | true =>
        obtain ⟨hclosed, -, ⟨raw, t, ht, -, hown, -⟩, hdid⟩ := hw.closed rfl
        refine ends_bind (allOf_ends (by simp [Calm, permitted])) fun r x ⟨htable, _, hx⟩ => ?_
        cases r with
        | false => exact hshut
        | true =>
          have hlisted (t' : DirectTable) (ht' : x.table = some t') :
              ownership t'.listing = true := by
            rw [htable, ht] at ht'
            exact Option.some.inj ht' ▸ hown
          refine bringUp_ends hn hlisted (hclosed.of_table htable) ?_
          rw [hx rfl]
          exact (hdid [] (List.nil_sublist _)).all permitted

end

end DirectZapret

end AutoVPN
