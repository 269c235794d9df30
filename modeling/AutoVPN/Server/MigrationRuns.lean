import AutoVPN.Server.Migrations
import Mathlib.Logic.Relation

/-! Runs of the migrations: they are applied together or not at all, once, and only to a database
whose records they know. -/

namespace AutoVPN

open Sql

namespace Migrations

/-- The rows that record what is applied, where there is a table of them. -/
def entryRows (db : Database) : Option (List Row) := (db.tables table).map (·.rows)

/-- The recorded rows of a database, which has none before its first migration. -/
def recorded (db : Database) : List Row := (entryRows db).getD []

/-- Every record is that of a known migration. -/
def Valid (digest : String → String) (ms : List Migration) (db : Database) : Prop :=
  ∀ row ∈ recorded db, ∃ m ∈ ms, entryOf row = some (entry digest m)

/-- Every migration is recorded, and nothing else. -/
structure Complete (digest : String → String) (ms : List Migration) (db : Database) : Prop where
  valid : Valid digest ms db
  rows : ∃ rows, entryRows db = some rows
  full : ∀ m ∈ ms, ∃ row ∈ recorded db, entryOf row = some (entry digest m)

/-- Whether the rows record the version of a migration. -/
def isRecorded (rows : List Row) (m : Migration) : Bool :=
  rows.any fun row => (entryOf row).any fun e => e.1 == m.version

/-- The records of `db` are followed by one of each migration that was pending, in order. -/
structure Migrated (digest : String → String) (ms : List Migration) (db db' : Database) : Prop where
  complete : Complete digest ms db'
  added : ∃ rows, recorded db' = recorded db ++ rows ∧
    rows.map entryOf = (ms.filter fun m => !isRecorded (recorded db) m).map fun m =>
      some (entry digest m)

section

variable {α : Type} {db : Database} {digest : String → String}

/-- A session that leaves the records alone. -/
def Keeps (p : Work α) : Prop :=
  ∀ db rows, Triple db (fun w => entryRows w = some rows) p fun _ w => entryRows w = some rows

theorem keeps_pure (a : α) : Keeps (pure a) := fun _ _ => triple_pure fun _ hw => hw

theorem keeps_bind {β : Type} {p : Work α} {f : α → Work β} (h : Keeps p)
    (hf : ∀ a, Keeps (f a)) : Keeps (p >>= f) :=
  fun db rows => triple_bind (h db rows) fun a => hf a db rows

theorem keeps_execute {q : Statement} {name : String} (ht : q.target = some name)
    (h : name ≠ table) : Keeps (execute q) := by
  refine fun db rows => triple_execute fun w w' hw hrun => ?_
  have hframe : w'.tables table = w.tables table := by
    refine Statement.run_frame (fun he => h ?_) hrun
    exact Option.some.inj (ht.symm.trans he)
  rw [entryRows, hframe]
  exact hw

theorem keeps_createIndex (name on : String) (columns : List String) :
    Keeps (execute (.createIndex name on columns)) := by
  refine fun db rows => triple_execute fun w w' hw hrun => ?_
  rw [entryRows, Statement.run_frame (by simp [Statement.target]) hrun]
  exact hw

theorem keeps_query (q : Query) : Keeps (query q) :=
  fun _ _ => triple_query fun _ _ hw _ => hw

theorem keeps_draw (kind : String) : Keeps (draw kind) :=
  fun _ _ => triple_draw fun _ _ hw => hw

theorem keeps_each {f : α → Work Unit} (h : ∀ x, Keeps (f x)) (xs : List α) :
    Keeps (each f xs) :=
  fun db rows => triple_each (fun x => h x db rows) xs

theorem keeps_each_mem {f : α → Work Unit} {xs : List α} (h : ∀ x ∈ xs, Keeps (f x)) :
    Keeps (each f xs) := by
  induction xs with
  | nil => exact keeps_pure ()
  | cons x xs ih =>
    exact keeps_bind (h x List.mem_cons_self) fun _ =>
      ih fun y hy => h y (List.mem_cons_of_mem _ hy)

theorem keeps_addColumn {name : String} (h : name ≠ table) (column : Column) :
    Keeps (addColumnIfMissing name column) := by
  refine keeps_bind (keeps_bind (keeps_query _) fun _ => keeps_pure _) fun found => ?_
  split
  · exact keeps_pure ()
  · exact keeps_execute rfl h

/-! The migrations leave the records alone. -/

theorem applyLegacySchema_keeps : Keeps applyLegacySchema := by
  refine keeps_bind (keeps_each_mem fun q hq => ?_) fun _ => ?_
  · simp only [legacyTables, List.mem_cons, List.not_mem_nil, or_false] at hq
    rcases hq with rfl | rfl | rfl | rfl | rfl
    all_goals exact keeps_execute rfl (by decide)
  · refine keeps_bind (keeps_each (keeps_addColumn (by decide)) _) fun _ => ?_
    refine keeps_bind (keeps_each (keeps_addColumn (by decide)) _) fun _ => ?_
    exact keeps_each (keeps_addColumn (by decide)) _

theorem applyDesiredAppliedSnapshots_keeps : Keeps applyDesiredAppliedSnapshots := by
  refine keeps_bind (keeps_addColumn (by decide) _) fun _ => ?_
  refine keeps_bind (keeps_addColumn (by decide) _) fun _ => ?_
  refine keeps_bind (keeps_execute rfl (by decide)) fun _ => ?_
  refine keeps_bind (keeps_execute rfl (by decide)) fun _ => ?_
  refine keeps_bind (keeps_execute rfl (by decide)) fun _ => ?_
  exact keeps_bind (keeps_addColumn (by decide) _) fun _ => keeps_createIndex _ _ _

theorem applyOperationCoordinator_keeps : Keeps applyOperationCoordinator :=
  keeps_bind (keeps_execute rfl (by decide)) fun _ => keeps_execute rfl (by decide)

theorem applySafeIpRotation_keeps : Keeps applySafeIpRotation :=
  keeps_bind (keeps_each (keeps_addColumn (by decide)) _) fun _ => keeps_createIndex _ _ _

theorem applyRouterCredentials_keeps : Keeps applyRouterCredentials :=
  keeps_bind (keeps_execute rfl (by decide)) fun _ => keeps_createIndex _ _ _

theorem applyRouterApplyResults_keeps : Keeps applyRouterApplyResults := by
  refine keeps_bind (keeps_execute rfl (by decide)) fun _ => ?_
  exact keeps_bind (keeps_createIndex _ _ _) fun _ => keeps_createIndex _ _ _

theorem assignLegacyRouter_keeps (credential : Row) : Keeps (assignLegacyRouter credential) := by
  refine keeps_bind (keeps_draw _) fun routerId => ?_
  exact keeps_bind (keeps_execute rfl (by decide)) fun _ => keeps_execute rfl (by decide)

theorem applyRouters_keeps : Keeps applyRouters := by
  refine keeps_bind (keeps_execute rfl (by decide)) fun _ => ?_
  refine keeps_bind (keeps_createIndex _ _ _) fun _ => ?_
  refine keeps_bind (keeps_addColumn (by decide) _) fun _ => ?_
  refine keeps_bind (keeps_query _) fun credentials => ?_
  exact keeps_bind (keeps_each assignLegacyRouter_keeps _) fun _ => keeps_createIndex _ _ _

theorem applyHysteriaPerClientAuth_keeps : Keeps applyHysteriaPerClientAuth := by
  refine keeps_bind (keeps_query _) fun clients => ?_
  refine keeps_bind (keeps_each (fun client => ?_) _) fun _ => ?_
  · exact keeps_bind (keeps_draw _) fun password => keeps_execute rfl (by decide)
  · refine keeps_bind (keeps_draw _) fun timestamp => ?_
    exact keeps_bind (keeps_execute rfl (by decide)) fun _ => keeps_execute rfl (by decide)

theorem applyRouterAmneziaPeers_keeps : Keeps applyRouterAmneziaPeers :=
  keeps_execute rfl (by decide)

theorem all_keep : ∀ m ∈ all, Keeps m.apply := by
  intro m hm
  simp only [all, List.mem_cons, List.not_mem_nil, or_false] at hm
  rcases hm with rfl | rfl | rfl | rfl | rfl | rfl | rfl | rfl | rfl
  · exact applyLegacySchema_keeps
  · exact applyDesiredAppliedSnapshots_keeps
  · exact applyOperationCoordinator_keeps
  · exact applySafeIpRotation_keeps
  · exact applyRouterCredentials_keeps
  · exact applyRouterApplyResults_keeps
  · exact applyRouters_keeps
  · exact applyHysteriaPerClientAuth_keeps
  · exact applyRouterAmneziaPeers_keeps

/-! What is read of the records. -/

theorem createTable_entryRows {w w' : Database}
    (h : Statement.run w (.createTable table tableDefinition) = .ok w') :
    entryRows w' = some (recorded w) := by
  rw [Statement.run] at h
  cases hw : w.tables table with
  | none =>
    rw [hw] at h
    obtain rfl := Except.ok.inj h
    rw [entryRows, setTable_tables, recorded, entryRows, hw]
    rfl
  | some found =>
    rw [hw] at h
    obtain rfl := Except.ok.inj h
    rw [recorded, entryRows, hw]
    rfl

theorem entriesOf_mem {rows : List Row} {es : List Entry} (h : entriesOf rows = some es) :
    (∀ row ∈ rows, ∃ e ∈ es, entryOf row = some e) ∧
      ∀ e ∈ es, ∃ row ∈ rows, entryOf row = some e := by
  induction rows generalizing es with
  | nil =>
    obtain rfl := Option.some.inj h
    exact ⟨by simp, by simp⟩
  | cons row rows ih =>
    obtain ⟨e, he, h⟩ := Option.bind_eq_some_iff.mp h
    obtain ⟨rest, hrest, h⟩ := Option.bind_eq_some_iff.mp h
    obtain rfl := Option.some.inj h
    obtain ⟨hrows, hentries⟩ := ih hrest
    constructor
    · intro r hr
      rcases List.mem_cons.mp hr with rfl | hr
      · exact ⟨e, List.mem_cons_self, he⟩
      · obtain ⟨e', hmem, he'⟩ := hrows r hr
        exact ⟨e', List.mem_cons_of_mem _ hmem, he'⟩
    · intro e' he'
      rcases List.mem_cons.mp he' with rfl | he'
      · exact ⟨row, List.mem_cons_self, he⟩
      · obtain ⟨r, hr, hentry⟩ := hentries e' he'
        exact ⟨r, List.mem_cons_of_mem _ hr, hentry⟩

/-- What is read is what the rows record. -/
def Reads (rows : List Row) (applied : List Entry) : Prop :=
  (∀ row ∈ rows, ∃ e ∈ applied, entryOf row = some e) ∧
    ∀ e ∈ applied, ∃ row ∈ rows, entryOf row = some e

theorem reads_select {w : Database} {rows selected : List Row} {applied : List Entry}
    (hrows : entryRows w = some rows)
    (h : (Query.select table ["version", "name", "checksum"] none ["version"]).run w = .ok selected)
    (ha : entriesOf selected = some applied) : Reads rows applied := by
  obtain ⟨found, hfound, h⟩ := except_bind_eq_ok.1 h
  have hsame : found.rows = rows := by
    rw [entryRows, (tableWith_ok hfound).1] at hrows
    exact Option.some.inj hrows
  obtain rfl := Except.ok.inj h
  have hmem : ∀ row, row ∈ (found.rows.filter fun row => (none : Option String).all fun column =>
      row.get column == .null).insertionSort (fun a b => rowLe ["version"] a b) ↔ row ∈ rows := by
    intro row
    rw [(List.perm_insertionSort _ _).mem_iff, hsame]
    simp
  obtain ⟨hleft, hright⟩ := entriesOf_mem ha
  constructor
  · intro row hrow
    obtain ⟨e, he, hentry⟩ := hleft _ (List.mem_map_of_mem ((hmem row).mpr hrow))
    exact ⟨e, he, hentry⟩
  · intro e he
    obtain ⟨row, hrow, hentry⟩ := hright e he
    obtain ⟨full, hfull, rfl⟩ := List.mem_map.mp hrow
    exact ⟨full, (hmem full).mp hfull, hentry⟩

theorem readApplied_reads {w₀ : Database} {rows : List Row} (hrows : entryRows w₀ = some rows) :
    Triple db (· = w₀) readApplied fun applied w => w = w₀ ∧ Reads rows applied := by
  have hfound : ∃ found, w₀.tables table = some found := by
    cases hw : w₀.tables table with
    | none =>
      rw [entryRows, hw] at hrows
      cases hrows
    | some found => exact ⟨found, rfl⟩
  obtain ⟨found, hfound⟩ := hfound
  refine triple_bind (triple_query (Q := fun answer w => w = w₀ ∧ answer.isEmpty = false) ?_)
    fun answer => ?_
  · rintro w answer rfl h
    refine ⟨rfl, ?_⟩
    obtain rfl := Except.ok.inj h
    rw [hfound]
    rfl
  · cases he : answer.isEmpty with
    | true => exact fun w hw => absurd hw.2 (by decide)
    | false =>
      refine triple_bind (triple_query (Q := fun selected w => w = w₀ ∧
        (Query.select table ["version", "name", "checksum"] none ["version"]).run w₀ =
          .ok selected) ?_) fun selected => ?_
      · rintro w selected ⟨rfl, -⟩ h
        exact ⟨rfl, h⟩
      · cases ha : entriesOf selected with
        | none => exact triple_throw _
        | some applied => exact triple_pure fun w hw => ⟨hw.1, reads_select hrows hw.2 ha⟩

theorem validateApplied_ok {ms : List Migration} {es : List Entry}
    (h : validateApplied digest ms es = .ok ()) : ∀ e ∈ es, ∃ m ∈ ms, e = entry digest m := by
  induction es with
  | nil => simp
  | cons e es ih =>
    rw [validateApplied] at h
    split at h
    · cases h
    · rename_i m hm
      split at h
      · cases h
      · rename_i hsame
        intro e' he'
        rcases List.mem_cons.mp he' with rfl | he'
        · refine ⟨m, List.mem_of_find?_eq_some hm, ?_⟩
          have hversion : m.version = e'.1 := by simpa using List.find?_some hm
          rw [entry, hversion, ← not_not.mp hsame]
        · exact ih h e' he'

/-! A run. -/

theorem Reads.isRecorded {rows : List Row} {applied : List Entry} (h : Reads rows applied)
    (m : Migration) : (applied.any fun e => e.1 == m.version) = isRecorded rows m := by
  rw [Bool.eq_iff_iff, Migrations.isRecorded, List.any_eq_true, List.any_eq_true]
  constructor
  · rintro ⟨e, he, hversion⟩
    obtain ⟨row, hrow, hentry⟩ := h.2 e he
    exact ⟨row, hrow, by rw [hentry]; exact hversion⟩
  · rintro ⟨row, hrow, hversion⟩
    obtain ⟨e, he, hentry⟩ := h.1 row hrow
    rw [hentry] at hversion
    exact ⟨e, he, hversion⟩

theorem insert_entry {w w' : Database} {rows : List Row} {m : Migration} {timestamp : String}
    (hw : entryRows w = some rows) (h : Statement.run w (.insert table [("version", .integer m.version),
      ("name", .text m.name), ("checksum", .text (m.checksum digest)),
      ("applied_at", .text timestamp)]) = .ok w') :
    ∃ row, entryOf row = some (entry digest m) ∧ entryRows w' = some (rows ++ [row]) := by
  obtain ⟨found, hfound, h⟩ := except_bind_eq_ok.1 h
  obtain ⟨htable, hnames⟩ := tableWith_ok hfound
  have hsame : found.rows = rows := by
    rw [entryRows, htable] at hw
    exact Option.some.inj hw
  refine ⟨found.definition.fill [("version", .integer m.version), ("name", .text m.name),
    ("checksum", .text (m.checksum digest)), ("applied_at", .text timestamp)], ?_, ?_⟩
  · rw [entryOf, fill_get (hnames "version" (by simp)) (by rfl),
      fill_get (hnames "name" (by simp)) (by rfl), fill_get (hnames "checksum" (by simp)) (by rfl)]
    rfl
  · rw [insertRow_ok h, entryRows, setTable_tables, ← hsame]
    rfl

theorem each_applyPending {ms : List Migration} (hk : ∀ m ∈ ms, Keeps m.apply)
    (applied : List Entry) (rows : List Row) :
    Triple db (fun w => entryRows w = some rows) (each (applyPending digest applied) ms)
      fun _ w => ∃ more, entryRows w = some (rows ++ more) ∧ more.map entryOf =
        (ms.filter fun m => !applied.any fun e => e.1 == m.version).map fun m =>
          some (entry digest m) := by
  induction ms generalizing rows with
  | nil => exact triple_pure fun w hw => ⟨[], by rw [hw, List.append_nil], rfl⟩
  | cons m ms ih =>
    have hrest := ih fun m' hm' => hk m' (List.mem_cons_of_mem _ hm')
    cases ha : applied.any fun e => e.1 == m.version with
    | true =>
      have hskip : applyPending digest applied m = pure () := by
        unfold applyPending
        rw [ha]
        rfl
      rw [each, hskip, List.filter_cons_of_neg (by simp [ha])]
      exact triple_bind (triple_pure fun _ hw => hw) fun _ => hrest rows
    | false =>
      have hrun : applyPending digest applied m = (do
          m.apply
          let timestamp ← draw "now"
          execute (.insert table [("version", .integer m.version), ("name", .text m.name),
            ("checksum", .text (m.checksum digest)), ("applied_at", .text timestamp)])) := by
        unfold applyPending
        rw [ha]
        rfl
      rw [each, hrun, List.filter_cons_of_pos (by simp [ha])]
      refine triple_bind (Q := fun _ w => ∃ row, entryOf row = some (entry digest m) ∧
        entryRows w = some (rows ++ [row])) ?_ fun _ => ?_
      · refine triple_bind (hk m List.mem_cons_self db rows) fun _ => ?_
        refine triple_bind (triple_draw fun _ _ hw => hw) fun timestamp => ?_
        exact triple_execute fun w w' hw h => insert_entry hw h
      · rintro w ⟨row, hentry, hw⟩
        refine (hrest (rows ++ [row])).conseq (fun _ hw => hw) (fun _ w' hw' => ?_) w hw
        obtain ⟨more, hmore, hentries⟩ := hw'
        refine ⟨row :: more, ?_, ?_⟩
        · rw [hmore, List.append_assoc, List.singleton_append]
        · rw [List.map_cons, List.map_cons, hentry, hentries]

theorem recorded_of_entryRows {w : Database} {rows : List Row} (h : entryRows w = some rows) :
    recorded w = rows := by
  rw [recorded, h]
  rfl

theorem migrated_of_rows {ms : List Migration} {applied : List Entry} {more : List Row}
    {w : Database} (hn : (ms.map (·.version)).Nodup) (hreads : Reads (recorded db) applied)
    (hvalid : validateApplied digest ms applied = .ok ())
    (hw : entryRows w = some (recorded db ++ more))
    (hmore : more.map entryOf = (ms.filter fun m => !applied.any fun e => e.1 == m.version).map
      fun m => some (entry digest m)) : Migrated digest ms db w := by
  have hknown := validateApplied_ok hvalid
  have hpending : (ms.filter fun m => !applied.any fun e => e.1 == m.version) =
      ms.filter fun m => !isRecorded (recorded db) m :=
    List.filter_congr fun m _ => by rw [hreads.isRecorded m]
  have hrec := recorded_of_entryRows hw
  refine ⟨⟨?_, ⟨_, hw⟩, ?_⟩, more, hrec, hpending ▸ hmore⟩
  · intro row hrow
    rw [hrec, List.mem_append] at hrow
    rcases hrow with hrow | hrow
    · obtain ⟨e, he, hentry⟩ := hreads.1 row hrow
      obtain ⟨m, hm, rfl⟩ := hknown e he
      exact ⟨m, hm, hentry⟩
    · have hmem : entryOf row ∈ more.map entryOf := List.mem_map_of_mem hrow
      rw [hmore] at hmem
      obtain ⟨m, hm, heq⟩ := List.mem_map.mp hmem
      exact ⟨m, (List.mem_filter.mp hm).1, heq.symm⟩
  · intro m hm
    rw [hrec]
    cases ha : applied.any fun e => e.1 == m.version with
    | true =>
      obtain ⟨e, he, hversion⟩ := List.any_eq_true.mp ha
      obtain ⟨m', hm', rfl⟩ := hknown e he
      obtain rfl := List.inj_on_of_nodup_map hn hm' hm (by simpa [entry] using hversion)
      obtain ⟨row, hrow, hentry⟩ := hreads.2 _ he
      exact ⟨row, List.mem_append_left _ hrow, hentry⟩
    | false =>
      have hmem : some (entry digest m) ∈ more.map entryOf := by
        rw [hmore]
        exact List.mem_map.mpr ⟨m, List.mem_filter.mpr ⟨hm, by simp [ha]⟩, rfl⟩
      obtain ⟨row, hrow, hentry⟩ := List.mem_map.mp hmem
      exact ⟨row, List.mem_append_right _ hrow, hentry⟩

theorem applyAll_spec {ms : List Migration} {w₀ : Database} {Q : Database → Prop}
    (hcreate : ∀ w, Statement.run db (.createTable table tableDefinition) = .ok w → w = w₀)
    (hrows : entryRows w₀ = some (recorded db))
    (h : ∀ applied, Reads (recorded db) applied → validateApplied digest ms applied = .ok () →
      Triple db (· = w₀) (each (applyPending digest applied) ms) fun _ => Q) :
    Triple db (· = db) (applyAll digest ms) fun _ => Q := by
  refine triple_bind (Q := fun _ w => w = w₀) (triple_execute ?_) fun _ => ?_
  · rintro w w' rfl hrun
    exact hcreate w' hrun
  refine triple_bind (readApplied_reads hrows) fun applied => ?_
  cases hv : validateApplied digest ms applied with
  | error e => exact triple_throw e
  | ok a =>
    rintro w ⟨rfl, hreads⟩
    exact h applied hreads hv w rfl

theorem createTable_ok (db : Database) : ∃ w,
    Statement.run db (.createTable table tableDefinition) = .ok w ∧
      entryRows w = some (recorded db) := by
  cases hrun : Statement.run db (.createTable table tableDefinition) with
  | ok w => exact ⟨w, rfl, createTable_entryRows hrun⟩
  | error e =>
    rw [Statement.run] at hrun
    split at hrun
    · cases hrun
    · cases hrun

theorem applyAll_migrates {ms : List Migration} (hn : (ms.map (·.version)).Nodup)
    (hk : ∀ m ∈ ms, Keeps m.apply) :
    Triple db (· = db) (applyAll digest ms) fun _ => Migrated digest ms db := by
  obtain ⟨w₀, hrun, hrows⟩ := createTable_ok db
  refine applyAll_spec (fun w hw => Except.ok.inj (hw.symm.trans hrun)) hrows
    fun applied hreads hvalid => ?_
  refine (each_applyPending hk applied (recorded db)).conseq ?_ ?_
  · rintro w rfl
    exact hrows
  · rintro a w ⟨more, hw, hmore⟩
    exact migrated_of_rows hn hreads hvalid hw hmore

theorem each_recorded {ms : List Migration} {applied : List Entry} {P : Database → Prop}
    (h : ∀ m ∈ ms, (applied.any fun e => e.1 == m.version) = true) :
    Triple db P (each (applyPending digest applied) ms) fun _ => P := by
  induction ms with
  | nil => exact triple_pure fun _ hw => hw
  | cons m ms ih =>
    have hskip : applyPending digest applied m = pure () := by
      unfold applyPending
      rw [h m List.mem_cons_self]
      rfl
    rw [each, hskip]
    exact triple_bind (triple_pure fun _ hw => hw) fun _ =>
      ih fun m' hm' => h m' (List.mem_cons_of_mem _ hm')

theorem applyAll_complete {ms : List Migration} (hc : Complete digest ms db) :
    Triple db (· = db) (applyAll digest ms) fun _ w => w = db := by
  obtain ⟨rows, hrows⟩ := hc.rows
  have hsame : entryRows db = some (recorded db) := by rw [recorded_of_entryRows hrows, hrows]
  refine applyAll_spec (fun w hw => ?_) hsame fun applied hreads _ => ?_
  · rw [Statement.run] at hw
    cases ht : db.tables table with
    | none =>
      rw [entryRows, ht] at hrows
      cases hrows
    | some found =>
      rw [ht] at hw
      exact (Except.ok.inj hw).symm
  · refine each_recorded fun m hm => ?_
    rw [hreads.isRecorded m, isRecorded, List.any_eq_true]
    obtain ⟨row, hrow, hentry⟩ := hc.full m hm
    exact ⟨row, hrow, by rw [hentry]; simp [entry]⟩

theorem applyAll_rejects {ms : List Migration} (hv : ¬Valid digest ms db) :
    Triple db (· = db) (applyAll digest ms) fun _ _ => False := by
  obtain ⟨w₀, hrun, hrows⟩ := createTable_ok db
  refine applyAll_spec (fun w hw => Except.ok.inj (hw.symm.trans hrun)) hrows
    fun applied hreads hvalid => ?_
  refine absurd (fun row hrow => ?_) hv
  obtain ⟨e, he, hentry⟩ := hreads.1 row hrow
  obtain ⟨m, hm, rfl⟩ := validateApplied_ok hvalid e he
  exact ⟨m, hm, hentry⟩

/-! Runs one after another. -/

/-- One run of the migrations on a database, which may be cut off. -/
def Run (digest : String → String) (db db' : Database) : Prop :=
  ∃ tr t o, Program.Exec step (applyMigrations digest all) ⟨db, none⟩ tr t o ∧ t.durable = db'

theorem all_versions : (all.map (·.version)).Nodup := by decide

theorem Run.migrates {db' : Database} (h : Run digest db db') :
    db' = db ∨ Migrated digest all db db' := by
  obtain ⟨tr, t, o, he, rfl⟩ := h
  exact (transaction_spec (applyAll_migrates all_versions all_keep) he).1

theorem Run.complete {db' : Database} (hc : Complete digest all db) (h : Run digest db db') :
    db' = db := by
  obtain ⟨tr, t, o, he, rfl⟩ := h
  rcases (transaction_spec (applyAll_complete hc) he).1 with hd | hd
  · exact hd
  · exact hd

/-- Of any number of runs at most one changes the database. -/
theorem runs_once {db' : Database} (h : Relation.ReflTransGen (Run digest) db db') :
    db' = db ∨ Migrated digest all db db' ∧ Run digest db db' := by
  induction h with
  | refl => exact .inl rfl
  | tail _ hrun ih =>
    rcases ih with rfl | ⟨hm, hfirst⟩
    · rcases hrun.migrates with hd | hm
      · exact .inl hd
      · exact .inr ⟨hm, hrun⟩
    · rw [hrun.complete hm.complete]
      exact .inr ⟨hm, hfirst⟩

/-- A run leaves the database as it was, and does so when it fails, or has applied every migration
that was pending; after that no run changes anything. A database with a record that is not one of a
known migration is rejected without a change. -/
theorem migrations_atomic {tr : List (Program.Event Call Call.Answer)} {t : Connection}
    {o : Option (Except String Unit)}
    (h : Program.Exec step (applyMigrations digest all) ⟨db, none⟩ tr t o) :
    (t.durable = db ∨ Migrated digest all db t.durable) ∧
    (∀ e, o = some (.error e) → t.durable = db) ∧
    (o = some (.ok ()) → Migrated digest all db t.durable) ∧
    (Complete digest all db → t.durable = db) ∧
    (Complete digest all t.durable →
      ∀ db', Relation.ReflTransGen (Run digest) t.durable db' → db' = t.durable) ∧
    (¬Valid digest all db → t.durable = db ∧ o ≠ some (.ok ())) := by
  obtain ⟨hdone, herror, hok⟩ := transaction_spec (applyAll_migrates all_versions all_keep) h
  refine ⟨hdone, herror, hok, fun hc => Run.complete hc ⟨tr, t, o, h, rfl⟩, fun hc db' hruns => ?_,
    fun hv => ?_⟩
  · induction hruns with
    | refl => rfl
    | tail _ hrun ih =>
      subst ih
      exact hrun.complete hc
  · obtain ⟨hsame, -, hnever⟩ := transaction_spec (applyAll_rejects hv) h
    exact ⟨hsame.resolve_right id, hnever⟩

end

namespace MigrationSample

/-- The digests of the migrations. -/
def digests : List String := [
    "01c5ec04ef9c6e10a309948687c91086ac72ad45dfc7d5461f80a1b821f4b15c",
    "666a9625c0f8e6e051973ff44a1432ccf8e3af09883d993e1e87838903ef6769",
    "8ab257338a9c3e188585fc24fdf4ee3504aa8fb496a399142e30cacfdcd40907",
    "1529ec231c62467fe936df8877af1b8d7f917284f1e037e6742798b03bad6f30",
    "a432778dbd13ed02812c830f39293cb72b2be0387cd80d86c0801b3ab25910eb",
    "d64ab24cee4541c33511d5a6bd9307a0ee602629a0144187d65aaf8f9712966a",
    "5bee768b8ab3e714ee24d0be366c8d3dd1a86b7183bf9662b259dbd3879dc6e0",
    "21721c568adc2938cea21d26724bbd29a1a3d70168f113b51138dc9e0bda2f28",
    "b714b36313f79b22254bdbb6daea8b33a0840fdc357a7ce887d0db8eee978422"]

def digest (text : String) : String :=
  ((all.map fun m => toString m.version ++ "\x00" ++ m.name ++ "\x00" ++ m.signature).zip
    digests).lookup text |>.getD ""

def empty : Database := ⟨fun _ => none, fun _ => none⟩

/-- Every call succeeds where the database lets it. -/
def answer : (i : Call) → Connection → Option (i.Answer × Connection)
  | .start, s => if s.working.isNone then some (.ok (), { s with working := some s.durable }) else none
  | .execute q, s =>
    match s.working, q.run (s.working.getD s.durable) with
    | some _, .ok db => some (.ok (), { s with working := some db })
    | _, _ => none
  | .query q, s => some (q.run (s.working.getD s.durable), s)
  | .commit, s => some (.ok (), ⟨s.working.getD s.durable, none⟩)
  | .rollback, s => some (.ok (), { s with working := none })
  | .draw kind, s =>
    some (if kind = "now" then "2026-01-01T00:00:00+00:00"
      else if kind = "token_urlsafe(12)" then "ABCDEFGHIJKLMNOP"
      else "ABCDEFGHIJKLMNOPQRSTUVWXYZabcdef", s)

/-- The database of a release that knew of the first six migrations, with a client and a credential
for a router of theirs. -/
def released : Except String Database := do
  let db := (Program.play answer (applyMigrations digest (all.take 6)) ⟨empty, none⟩).1.durable
  let db ← Statement.run db (.insert "clients" [("id", .integer 1), ("name", .text "phone"),
    ("token", .text "token"), ("vless_uuid", .text "uuid"), ("hysteria_password", .text "shared"),
    ("created_at", .text "2025-01-01T00:00:00+00:00")])
  Statement.run db (.insert "router_credentials" [("credential_id", .text "credential-1"),
    ("client_id", .integer 1), ("label", .text "home"),
    ("secret_digest", .text (String.ofList (List.replicate 64 'a'))), ("scopes", .text "snapshot:read"),
    ("created_at", .text "2025-01-01T00:00:00+00:00"),
    ("updated_at", .text "2025-01-01T00:00:00+00:00")])

def before : Database := released.toOption.getD empty

def migrated : Connection × Option (Except String Unit) :=
  Program.play answer (applyMigrations digest all) ⟨before, none⟩

def succeeded : Option (Except String Unit) → Bool
  | some (.ok _) => true
  | _ => false

/-- The cells of one column. -/
def column (db : Database) (table name : String) : List Cell :=
  ((db.tables table).map fun t => t.rows.map fun row => row.get name).getD []

theorem eq_of_succeeded {o : Option (Except String Unit)} (h : succeeded o = true) :
    o = some (.ok ()) := by
  match o, h with
  | some (.ok ()), _ => rfl

theorem migrated_ok : migrated.2 = some (.ok ()) := eq_of_succeeded (by decide +kernel)

theorem answer_step (i : Call) (s : Connection) (r : i.Answer) (s' : Connection)
    (h : answer i s = some (r, s')) : step i s r s' := by
  cases i with
  | start =>
    rw [answer] at h
    split at h
    · rename_i hnone
      obtain ⟨rfl, rfl⟩ := Prod.mk.inj (Option.some.inj h)
      exact .inl ⟨rfl, by simpa using hnone, rfl⟩
    · cases h
  | execute q =>
    rw [answer] at h
    split at h
    · rename_i w db hw hrun
      obtain ⟨rfl, rfl⟩ := Prod.mk.inj (Option.some.inj h)
      exact .inl ⟨db, hrun, rfl, by rw [hw]; rfl⟩
    · cases h
  | query q =>
    obtain ⟨rfl, rfl⟩ := Prod.mk.inj (Option.some.inj h)
    exact .inl ⟨rfl, rfl⟩
  | commit =>
    obtain ⟨rfl, rfl⟩ := Prod.mk.inj (Option.some.inj h)
    exact .inl ⟨rfl, rfl⟩
  | rollback =>
    obtain ⟨rfl, rfl⟩ := Prod.mk.inj (Option.some.inj h)
    exact .inl ⟨rfl, rfl⟩
  | draw kind =>
    obtain ⟨rfl, rfl⟩ := Prod.mk.inj (Option.some.inj h)
    rfl

theorem migrated_exec : ∃ tr, Program.Exec step (applyMigrations digest all) ⟨before, none⟩ tr
    migrated.1 migrated.2 := by
  unfold migrated
  exact Program.play_exec answer_step (applyMigrations digest all) ⟨before, none⟩

end MigrationSample

open MigrationSample in
/-- The credential gets a router of its own, and the client another password. -/
theorem migrations_atomic_released : Migrated digest all before migrated.1.durable ∧
    column before "schema_migrations" "version" = [1, 2, 3, 4, 5, 6].map Cell.integer ∧
    column migrated.1.durable "routers" "client_id" = [.integer 1] ∧
    column migrated.1.durable "router_credentials" "router_id" =
      column migrated.1.durable "routers" "router_id" ∧
    column migrated.1.durable "clients" "hysteria_password" ≠
      column before "clients" "hysteria_password" := by
  obtain ⟨tr, htr⟩ := migrated_exec
  exact ⟨(migrations_atomic htr).2.2.1 migrated_ok, by decide +kernel⟩

end Migrations

end AutoVPN
