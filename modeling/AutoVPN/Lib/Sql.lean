import AutoVPN.Lib.Program
import Mathlib.Data.List.Sort
import Mathlib.Logic.Function.Basic

/-! Tables, the statements that change them, and transactions: a connection works on a copy that
a commit makes durable. A call may fail, and an execution may be cut off, anywhere. -/

namespace AutoVPN

namespace Sql

inductive Cell
  | null
  | integer (n : Int)
  | text (s : String)
  deriving DecidableEq

/-- `ORDER BY` puts nulls first and integers before texts. -/
def Cell.le : Cell → Cell → Bool
  | .null, _ => true
  | .integer _, .null => false
  | .integer a, .integer b => decide (a ≤ b)
  | .integer _, .text _ => true
  | .text a, .text b => decide (a ≤ b)
  | .text _, _ => false

abbrev Row := List (String × Cell)

def Row.get (row : Row) (name : String) : Cell := (row.lookup name).getD .null

inductive Check
  | oneOf (cells : List Cell)
  | length (low high : Nat)

/-- Null meets every check. -/
def Check.holds : Check → Cell → Bool
  | _, .null => true
  | .oneOf cells, c => cells.contains c
  | .length low high, .text s => decide (low ≤ s.length ∧ s.length ≤ high)
  | .length _ _, .integer _ => false

structure Column where
  name : String
  notNull : Bool
  fallback : Cell
  check : Option Check
  references : Option (String × String)

structure Definition where
  columns : List Column
  keys : List (List String)

structure Table where
  definition : Definition
  rows : List Row

structure Index where
  table : String
  columns : List String

structure Database where
  tables : String → Option Table
  indexes : String → Option Index

inductive Expression
  | cell (c : Cell)
  | plus (column : String) (n : Int)

/-- `createTable` and `createIndex` are those with `IF NOT EXISTS`. -/
inductive Statement
  | createTable (name : String) (definition : Definition)
  | createIndex (name table : String) (columns : List String)
  | addColumn (table : String) (column : Column)
  | insert (table : String) (row : Row)
  | insertOrIgnore (table : String) (row : Row)
  | upsert (table key : String) (row : Row)
  | update (table : String) (changes : List (String × Expression)) (only : Option (String × Cell))

inductive Query
  | hasTable (name : String)
  | tableInfo (table : String)
  | select (table : String) (columns : List String) (null : Option String) (order : List String)

namespace Definition

variable (d : Definition)

def names : List String := d.columns.map (·.name)

/-- The row with the columns that an insertion leaves out. -/
def fill (row : Row) : Row :=
  d.columns.map fun c => (c.name, (row.lookup c.name).getD c.fallback)

end Definition

namespace Database

variable (db : Database)

def setTable (name : String) (table : Table) : Database :=
  { db with tables := Function.update db.tables name (some table) }

def refers (row : Row) (c : Column) : Bool :=
  match c.references with
  | none => true
  | some (parent, key) =>
    row.get c.name == .null ||
      (db.tables parent).any fun table => table.rows.any fun other => other.get key == row.get c.name

/-- The constraint on the columns of a row that it does not meet. -/
def columnError (d : Definition) (row : Row) : Option String :=
  if d.columns.any fun c => c.notNull && row.get c.name == .null then
    some "NOT NULL constraint failed"
  else if d.columns.any fun c => c.check.any fun check => !check.holds (row.get c.name) then
    some "CHECK constraint failed"
  else none

/-- Rows with a null in a key do not conflict. -/
def conflicts (key : List String) (row other : Row) : Bool :=
  key.all fun name => row.get name != .null && row.get name == other.get name

def keyError (table : Table) (row : Row) : Option String :=
  if table.definition.keys.any fun key => table.rows.any fun other => conflicts key row other then
    some "UNIQUE constraint failed"
  else none

def referenceError (d : Definition) (row : Row) : Option String :=
  if d.columns.all fun c => db.refers row c then none else some "FOREIGN KEY constraint failed"

def Expression.eval (row : Row) : Expression → Cell
  | .cell c => c
  | .plus column n =>
    match row.get column with
    | .integer m => .integer (m + n)
    | c => c

def change (changes : List (String × Expression)) (row : Row) : Row :=
  row.map fun entry =>
    (entry.1, ((changes.lookup entry.1).map (Expression.eval row)).getD entry.2)

def insertRow (name : String) (table : Table) (row : Row) : Except String Database :=
  match (columnError table.definition row).or ((keyError table row).or
      (db.referenceError table.definition row)) with
  | some e => .error e
  | none => .ok (db.setTable name { table with rows := table.rows ++ [row] })

def distinct (table : Table) : List Row → Bool
  | [] => true
  | row :: rest => (keyError { table with rows := rest } row).isNone && distinct table rest

def updateRows (name : String) (table : Table) (changes : List (String × Expression))
    (chosen : Row → Bool) : Except String Database :=
  let rows := table.rows.map fun row => if chosen row then change changes row else row
  match (rows.filter chosen).findSome? fun row =>
      (columnError table.definition row).or (db.referenceError table.definition row) with
  | some e => .error e
  | none =>
    if distinct table rows then .ok (db.setTable name { table with rows := rows })
    else .error "UNIQUE constraint failed"

/-- The table with the named columns. -/
def tableWith (name : String) (columns : List String) : Except String Table :=
  match db.tables name with
  | none => .error ("no such table: " ++ name)
  | some table =>
    match columns.find? fun column => !table.definition.names.contains column with
    | some column => .error ("no such column: " ++ column)
    | none => .ok table

end Database

open Database

/-- The table that a statement changes. -/
def Statement.target : Statement → Option String
  | .createTable name _ => some name
  | .createIndex _ _ _ => none
  | .addColumn table _ => some table
  | .insert table _ => some table
  | .insertOrIgnore table _ => some table
  | .upsert table _ _ => some table
  | .update table _ _ => some table

def Statement.run (db : Database) : Statement → Except String Database
  | .createTable name definition =>
    if (db.tables name).isSome then .ok db else .ok (db.setTable name ⟨definition, []⟩)
  | .createIndex name table columns =>
    if (db.indexes name).isSome then .ok db
    else
      (db.tableWith table columns).map fun _ =>
        { db with indexes := Function.update db.indexes name (some ⟨table, columns⟩) }
  | .addColumn name column => do
    let table ← db.tableWith name []
    if table.definition.names.contains column.name then
      .error ("duplicate column name: " ++ column.name)
    else if column.notNull && column.fallback == .null then
      .error "Cannot add a NOT NULL column with default value NULL"
    else
      .ok (db.setTable name
        { definition := { table.definition with columns := table.definition.columns ++ [column] }
          rows := table.rows.map fun row => row ++ [(column.name, column.fallback)] })
  | .insert name row => do
    let table ← db.tableWith name (row.map Prod.fst)
    db.insertRow name table (table.definition.fill row)
  | .insertOrIgnore name row => do
    let table ← db.tableWith name (row.map Prod.fst)
    let full := table.definition.fill row
    if ((columnError table.definition full).or (keyError table full)).isSome then .ok db
    else db.insertRow name table full
  | .upsert name key row => do
    let table ← db.tableWith name (row.map Prod.fst)
    let full := table.definition.fill row
    if table.rows.any fun other => conflicts [key] full other then
      db.updateRows name table (row.map fun entry => (entry.1, .cell entry.2)) fun other =>
        other.get key == full.get key
    else db.insertRow name table full
  | .update name changes only => do
    let table ← db.tableWith name (changes.map Prod.fst ++ only.toList.map Prod.fst)
    db.updateRows name table changes fun row => only.all fun key => row.get key.1 == key.2

def rowLe (order : List String) (a b : Row) : Bool :=
  match order.find? fun name => a.get name != b.get name with
  | none => true
  | some name => (a.get name).le (b.get name)

def Query.run (db : Database) : Query → Except String (List Row)
  | .hasTable name => .ok (if (db.tables name).isSome then [[("1", .integer 1)]] else [])
  | .tableInfo name =>
    .ok (((db.tables name).map fun table => table.definition.names).getD [] |>.map fun column =>
      [("name", .text column)])
  | .select name columns null order => do
    let table ← db.tableWith name (columns ++ null.toList ++ order)
    let chosen := table.rows.filter fun row => null.all fun column => row.get column == .null
    return (chosen.insertionSort fun a b => rowLe order a b).map fun row =>
      columns.map fun column => (column, row.get column)

/-! What a statement leaves alone. -/

theorem setTable_tables_ne {db : Database} {name other : String} {table : Table}
    (h : other ≠ name) : (db.setTable name table).tables other = db.tables other :=
  Function.update_of_ne h _ _

theorem setTable_tables (db : Database) (name : String) (table : Table) :
    (db.setTable name table).tables name = some table :=
  Function.update_self _ _ _

theorem insertRow_ok {db db' : Database} {name : String} {table : Table} {row : Row}
    (h : db.insertRow name table row = .ok db') :
    db' = db.setTable name { table with rows := table.rows ++ [row] } := by
  unfold insertRow at h
  split at h
  · cases h
  · exact (Except.ok.inj h).symm

theorem updateRows_ok {db db' : Database} {name : String} {table : Table}
    {changes : List (String × Expression)} {chosen : Row → Bool}
    (h : db.updateRows name table changes chosen = .ok db') :
    ∃ rows, db' = db.setTable name { table with rows := rows } := by
  unfold updateRows at h
  dsimp only at h
  split at h
  · cases h
  · split at h
    · exact ⟨_, (Except.ok.inj h).symm⟩
    · cases h

theorem tableWith_ok {db : Database} {name : String} {columns : List String} {table : Table}
    (h : db.tableWith name columns = .ok table) :
    db.tables name = some table ∧ ∀ column ∈ columns, column ∈ table.definition.names := by
  unfold tableWith at h
  split at h
  · cases h
  · rename_i found hfound
    split at h
    · cases h
    · rename_i hnone
      cases h
      exact ⟨hfound, fun column hc => by simpa using List.find?_eq_none.mp hnone column hc⟩

/-- A statement changes the table that it targets, or no table. -/
theorem Statement.run_ok {q : Statement} {db db' : Database} (h : q.run db = .ok db') :
    db'.tables = db.tables ∨
      ∃ name table, q.target = some name ∧ db' = db.setTable name table := by
  cases q with
  | createTable name definition =>
    rw [Statement.run] at h
    split at h
    · cases h
      exact .inl rfl
    · exact .inr ⟨name, _, rfl, (Except.ok.inj h).symm⟩
  | createIndex name table columns =>
    rw [Statement.run] at h
    split at h
    · cases h
      exact .inl rfl
    · obtain ⟨found, -, rfl⟩ := except_map_eq_ok.1 h
      exact .inl rfl
  | addColumn name column =>
    obtain ⟨table, -, h⟩ := except_bind_eq_ok.1 h
    split at h
    · cases h
    · split at h
      · cases h
      · exact .inr ⟨name, _, rfl, (Except.ok.inj h).symm⟩
  | insert name row =>
    obtain ⟨table, -, h⟩ := except_bind_eq_ok.1 h
    exact .inr ⟨name, _, rfl, insertRow_ok h⟩
  | insertOrIgnore name row =>
    obtain ⟨table, -, h⟩ := except_bind_eq_ok.1 h
    dsimp only at h
    split at h
    · cases h
      exact .inl rfl
    · exact .inr ⟨name, _, rfl, insertRow_ok h⟩
  | upsert name key row =>
    obtain ⟨table, -, h⟩ := except_bind_eq_ok.1 h
    dsimp only at h
    split at h
    · obtain ⟨rows, rfl⟩ := updateRows_ok h
      exact .inr ⟨name, _, rfl, rfl⟩
    · exact .inr ⟨name, _, rfl, insertRow_ok h⟩
  | update name changes only =>
    obtain ⟨table, -, h⟩ := except_bind_eq_ok.1 h
    obtain ⟨rows, rfl⟩ := updateRows_ok h
    exact .inr ⟨name, _, rfl, rfl⟩

theorem Statement.run_frame {q : Statement} {db db' : Database} {name : String}
    (ht : q.target ≠ some name) (h : q.run db = .ok db') : db'.tables name = db.tables name := by
  rcases Statement.run_ok h with h | ⟨other, table, ho, rfl⟩
  · rw [h]
  · refine setTable_tables_ne fun he => ht ?_
    rw [ho, he]

/-- What is given for a column stands in a full row. -/
theorem fill_get {d : Definition} {row : Row} {name : String} {c : Cell}
    (hn : name ∈ d.names) (hc : row.lookup name = some c) : (d.fill row).get name = c := by
  have hlookup : (d.fill row).lookup name = some c := by
    obtain ⟨columns, keys⟩ := d
    simp only [Definition.fill, Definition.names] at hn ⊢
    induction columns with
    | nil => cases hn
    | cons column columns ih =>
      rw [List.map_cons, List.lookup_cons]
      by_cases he : name = column.name
      · rw [he, beq_self_eq_true]
        rw [he] at hc
        rw [hc]
        rfl
      · have hne : (name == column.name) = false := by simpa using he
        rw [hne]
        rw [List.map_cons, List.mem_cons] at hn
        exact ih (hn.resolve_left he)
  rw [Row.get, hlookup]
  rfl

/-! Connections. -/

/-- What is durable, and the copy that an open transaction works on. -/
structure Connection where
  durable : Database
  working : Option Database

/-- What the other end of a connection does; `draw` stands for a random value or the time. -/
inductive Call
  | start
  | execute (q : Statement)
  | query (q : Query)
  | commit
  | rollback
  | draw (kind : String)

abbrev Call.Answer : Call → Type
  | .start => Except String Unit
  | .execute _ => Except String Unit
  | .query _ => Except String (List Row)
  | .commit => Except String Unit
  | .rollback => Except String Unit
  | .draw _ => String

/-- A call that fails may end the transaction. -/
def Broken (s s' : Connection) : Prop := s' = s ∨ s' = { s with working := none }

def step : (i : Call) → Connection → i.Answer → Connection → Prop
  | .start, s, r, s' =>
    (r = .ok () ∧ s.working = none ∧ s' = { s with working := some s.durable }) ∨
      ((∃ e, r = .error e) ∧ s' = s)
  | .execute q, s, r, s' =>
    (∃ db, q.run (s.working.getD s.durable) = .ok db ∧ r = .ok () ∧
      s' = if s.working.isSome then { s with working := some db } else { s with durable := db }) ∨
      ((∃ e, r = .error e) ∧ Broken s s')
  | .query q, s, r, s' =>
    (r = q.run (s.working.getD s.durable) ∧ s' = s) ∨ ((∃ e, r = .error e) ∧ Broken s s')
  | .commit, s, r, s' =>
    (r = .ok () ∧ s' = ⟨s.working.getD s.durable, none⟩) ∨ ((∃ e, r = .error e) ∧ Broken s s')
  | .rollback, s, r, s' =>
    (r = .ok () ∧ s' = { s with working := none }) ∨ ((∃ e, r = .error e) ∧ Broken s s')
  | .draw _, s, _, s' => s' = s

/-- A program that stops at the first call that fails. -/
abbrev Work (α : Type) := ExceptT String (Program Call Call.Answer) α

def Work.ask (i : Call) : Program Call Call.Answer i.Answer := .call i .done

def execute (q : Statement) : Work Unit := ExceptT.mk (Work.ask (.execute q))

def query (q : Query) : Work (List Row) := ExceptT.mk (Work.ask (.query q))

def draw (kind : String) : Work String := ExceptT.lift (Work.ask (.draw kind))

/-- A `for` loop. -/
def each {α : Type} (f : α → Work Unit) : List α → Work Unit
  | [] => pure ()
  | x :: xs => do
    f x
    each f xs

/-- A rollback after a failure. -/
def settle : Except String Unit → Program Call Call.Answer (Except String Unit)
  | .ok () => return .ok ()
  | .error e => do
    match ← Work.ask .rollback with
    | .error e' => return .error e'
    | .ok () => return .error e

/-- `BEGIN IMMEDIATE`, the body and a commit, and a rollback when one of the last two fails. -/
def transaction (body : Work Unit) : Program Call Call.Answer (Except String Unit) := do
  match ← Work.ask .start with
  | .error e => return .error e
  | .ok () => (body >>= fun _ => ExceptT.mk (Work.ask .commit)).run >>= settle

/-! Pre- and postconditions on the working copy of a transaction. -/

section

variable {α β : Type} {db : Database} {P P' : Database → Prop} {Q Q' : α → Database → Prop}

/-- Started on a working copy that meets `P`, the session makes nothing durable, and where it
returns its value and the working copy meet `Q`. -/
def Triple (db : Database) (P : Database → Prop) (p : Work α) (Q : α → Database → Prop) : Prop :=
  ∀ w, P w → Program.Sat step (fun _ s => s.durable = db)
    (fun r s => s.durable = db ∧ ∀ a, r = .ok a → ∃ w', s.working = some w' ∧ Q a w')
    p.run ⟨db, some w⟩

theorem Triple.conseq {p : Work α} (h : Triple db P p Q) (hp : ∀ w, P' w → P w)
    (hq : ∀ a w, Q a w → Q' a w) : Triple db P' p Q' := by
  intro w hw
  refine (h w (hp w hw)).post fun r s hr => ⟨hr.1, fun a ha => ?_⟩
  obtain ⟨w', hs, hw'⟩ := hr.2 a ha
  exact ⟨w', hs, hq a w' hw'⟩

theorem triple_pure {a : α} (h : ∀ w, P w → Q a w) : Triple db P (pure a) Q := by
  intro w hw
  refine ⟨rfl, fun b hb => ?_⟩
  obtain rfl := Except.ok.inj hb
  exact ⟨w, rfl, h w hw⟩

theorem triple_throw (e : String) : Triple db P (throw e : Work α) Q := by
  intro w _
  refine ⟨rfl, fun b hb => ?_⟩
  cases hb

theorem triple_bind {p : Work α} {f : α → Work β} {R : β → Database → Prop}
    (h : Triple db P p Q) (hf : ∀ a, Triple db (Q a) (f a) R) : Triple db P (p >>= f) R := by
  intro w hw
  refine Program.Sat.bind ((h w hw).post fun r s hr => ?_)
  cases r with
  | error e =>
    refine ⟨hr.1, fun b hb => ?_⟩
    cases hb
  | ok a =>
    obtain ⟨w', hs, hw'⟩ := hr.2 a rfl
    obtain ⟨durable, working⟩ := s
    obtain ⟨rfl, rfl⟩ : durable = db ∧ working = some w' := ⟨hr.1, hs⟩
    exact hf a w' hw'

theorem Broken.durable {s s' : Connection} (h : Broken s s') : s'.durable = s.durable := by
  rcases h with rfl | rfl
  · rfl
  · rfl

theorem triple_execute {q : Statement} {Q : Unit → Database → Prop}
    (h : ∀ w w', P w → q.run w = .ok w' → Q () w') : Triple db P (execute q) Q := by
  refine fun w hw => ⟨rfl, fun r s hs => ?_⟩
  rcases hs with ⟨w', hrun, rfl, rfl⟩ | ⟨⟨e, rfl⟩, hbroken⟩
  · exact ⟨rfl, fun _ _ => ⟨w', rfl, h w w' hw hrun⟩⟩
  · refine ⟨hbroken.durable, fun a ha => ?_⟩
    cases ha

theorem triple_query {q : Query} {Q : List Row → Database → Prop}
    (h : ∀ w rows, P w → q.run w = .ok rows → Q rows w) : Triple db P (query q) Q := by
  refine fun w hw => ⟨rfl, fun r s hs => ?_⟩
  rcases hs with ⟨hr, rfl⟩ | ⟨⟨e, rfl⟩, hbroken⟩
  · exact ⟨rfl, fun rows hrows => ⟨w, rfl, h w rows hw (hr.symm.trans hrows)⟩⟩
  · refine ⟨hbroken.durable, fun a ha => ?_⟩
    cases ha

theorem triple_draw {kind : String} {Q : String → Database → Prop}
    (h : ∀ w r, P w → Q r w) : Triple db P (draw kind) Q := by
  refine fun w hw => ⟨rfl, fun r s hs => ?_⟩
  obtain rfl : s = ⟨db, some w⟩ := hs
  refine ⟨rfl, fun a ha => ⟨w, rfl, h w a hw⟩⟩

theorem triple_each {f : α → Work Unit} (h : ∀ x, Triple db P (f x) fun _ => P) (xs : List α) :
    Triple db P (each f xs) fun _ => P := by
  induction xs with
  | nil => exact triple_pure fun _ hw => hw
  | cons x xs ih => exact triple_bind (h x) fun _ => ih

/-- What is durable during a transaction that is to leave `Q`, and with what result. -/
def Outcome (db : Database) (Q : Database → Prop) (r : Except String Unit) (s : Connection) : Prop :=
  (∀ e, r = .error e → s.durable = db) ∧ (r = .ok () → Q s.durable)

theorem outcome_error {Q : Database → Prop} {e : String} {s : Connection} (h : s.durable = db) :
    Outcome db Q (.error e) s :=
  ⟨fun _ _ => h, nofun⟩

theorem outcome_ok {Q : Database → Prop} {s : Connection} (h : Q s.durable) :
    Outcome db Q (.ok ()) s :=
  ⟨nofun, fun _ => h⟩

theorem commit_outcome {body : Work Unit} {Q : Database → Prop}
    (h : Triple db (· = db) body fun _ => Q) :
    Program.Sat step (fun _ s => s.durable = db ∨ Q s.durable) (Outcome db Q)
      (body >>= fun _ => ExceptT.mk (Work.ask .commit)).run ⟨db, some db⟩ := by
  refine Program.Sat.bind ((h db rfl).mono (fun _ _ hd => Or.inl hd) fun r s hr => ?_)
  cases r with
  | error e => exact outcome_error hr.1
  | ok a =>
    obtain ⟨w, hs, hw⟩ := hr.2 () rfl
    refine ⟨.inl hr.1, fun r s' hs' => ?_⟩
    rcases hs' with ⟨rfl, rfl⟩ | ⟨⟨e, rfl⟩, hbroken⟩
    · refine outcome_ok ?_
      rw [hs]
      exact hw
    · exact outcome_error (hbroken.durable.trans hr.1)

theorem settle_outcome {Q : Database → Prop} {r : Except String Unit} {s : Connection}
    (h : Outcome db Q r s) :
    Program.Sat step (fun _ s => s.durable = db ∨ Q s.durable) (Outcome db Q) (settle r) s := by
  cases r with
  | ok a => exact h
  | error e =>
    have hd := h.1 e rfl
    refine ⟨.inl hd, fun r s' hs => ?_⟩
    rcases hs with ⟨rfl, rfl⟩ | ⟨⟨e', rfl⟩, hbroken⟩
    · exact outcome_error hd
    · exact outcome_error (hbroken.durable.trans hd)

theorem transaction_outcome {body : Work Unit} {Q : Database → Prop}
    (h : Triple db (· = db) body fun _ => Q) :
    Program.Sat step (fun _ s => s.durable = db ∨ Q s.durable) (Outcome db Q)
      (transaction body) ⟨db, none⟩ := by
  refine ⟨.inl rfl, fun r s hs => ?_⟩
  rcases hs with ⟨rfl, -, rfl⟩ | ⟨⟨e, rfl⟩, rfl⟩
  · have hrest := Program.Sat.bind (f := settle)
      ((commit_outcome h).post fun r s hr => settle_outcome hr)
    exact hrest
  · exact outcome_error rfl

/-- A transaction makes what its body leaves durable, or nothing. -/
theorem transaction_spec {body : Work Unit} {Q : Database → Prop}
    (h : Triple db (· = db) body fun _ => Q) {tr : List (Program.Event Call Call.Answer)}
    {t : Connection} {o : Option (Except String Unit)}
    (he : Program.Exec step (transaction body) ⟨db, none⟩ tr t o) :
    (t.durable = db ∨ Q t.durable) ∧ (∀ e, o = some (.error e) → t.durable = db) ∧
      (o = some (.ok ()) → Q t.durable) := by
  have hsat := transaction_outcome h
  refine ⟨?_, ?_, ?_⟩
  · refine (hsat.post fun r s hr => ?_).invariant he
    cases r with
    | ok a => exact .inr (hr.2 rfl)
    | error e => exact .inl (hr.1 e rfl)
  · rintro e rfl
    exact (hsat.result he).1 e rfl
  · rintro rfl
    exact (hsat.result he).2 rfl

end

end Sql

end AutoVPN
