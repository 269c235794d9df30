import Mathlib.Data.List.Basic

/-! Texts with lines: what a shell reads up to the terminator of a here-document. -/

namespace AutoVPN

abbrev Line := List Char

namespace Lines

/-- The lines with their ends. -/
def unlines (ls : List Line) : List Char := ls.flatMap (· ++ ['\n'])

/-- The lines of a text; what follows the last end is a line too. -/
def lines (text : List Char) : List Line := text.splitOn '\n'

theorem unlines_append (ls rest : List Line) : unlines (ls ++ rest) = unlines ls ++ unlines rest :=
  List.flatMap_append

theorem lines_append {l : Line} (h : '\n' ∉ l) (rest : List Char) :
    lines (l ++ '\n' :: rest) = l :: lines rest :=
  List.splitOn_append_cons_self_of_not_mem h rest

/-- Lines without an end in them are those of their text. -/
theorem lines_unlines {ls : List Line} (h : ∀ l ∈ ls, '\n' ∉ l) (rest : List Char) :
    lines (unlines ls ++ rest) = ls ++ lines rest := by
  induction ls with
  | nil => rfl
  | cons l ls ih =>
    have hrest := ih fun l' hl' => h l' (List.mem_cons_of_mem _ hl')
    rw [unlines, List.flatMap_cons, ← unlines, List.append_assoc, List.append_assoc,
      List.singleton_append, lines_append (h l List.mem_cons_self), hrest, List.cons_append]

theorem intercalate_append_self {α : Type} (x : α) {ls : List (List α)} (h : ls ≠ []) :
    [x].intercalate ls ++ [x] = ls.flatMap (· ++ [x]) := by
  induction ls with
  | nil => exact absurd rfl h
  | cons l ls ih =>
    cases ls with
    | nil => simp
    | cons l₂ ls =>
      have hrest := ih (by simp)
      rw [List.intercalate_cons_cons, List.append_assoc, List.append_assoc, hrest]
      simp

theorem mem_intercalate {α : Type} {sep : List α} {ls : List (List α)} {x : α}
    (h : x ∈ sep.intercalate ls) : x ∈ sep ∨ ∃ l ∈ ls, x ∈ l := by
  induction ls with
  | nil => simp at h
  | cons l ls ih =>
    cases ls with
    | nil => exact Or.inr ⟨l, List.mem_cons_self, by simpa using h⟩
    | cons l₂ ls =>
      rw [List.intercalate_cons_cons] at h
      rcases List.mem_append.mp h with h | h
      · rcases List.mem_append.mp h with h | h
        · exact Or.inr ⟨l, List.mem_cons_self, h⟩
        · exact Or.inl h
      · exact (ih h).imp_right fun ⟨l', hl', hx⟩ => ⟨l', List.mem_cons_of_mem _ hl', hx⟩

/-- An end between texts is an empty line between their lines. -/
theorem intercalate_unlines (blocks : List (List Line)) :
    ['\n'].intercalate (blocks.map unlines) = unlines ([[]].intercalate blocks) := by
  induction blocks with
  | nil => rfl
  | cons b blocks ih =>
    cases blocks with
    | nil => simp
    | cons b₂ blocks =>
      rw [List.map_cons, List.map_cons, List.intercalate_cons_cons, ← List.map_cons, ih,
        List.intercalate_cons_cons, unlines_append, unlines_append]
      rfl

/-! Here-documents. -/

/-- A shell has commands to run, and may be inside a here-document for a file. -/
structure Shell where
  commands : List Line := []
  files : List (List Char × List Char) := []
  inside : Option (List Char × Line × List Line) := none

/-- One line; `start` says which commands begin a here-document, for which file and up to which
terminator. -/
def Shell.step (start : Line → Option (List Char × Line)) (sh : Shell) (l : Line) : Shell :=
  match sh.inside with
  | some (file, terminator, body) =>
    if l = terminator then { sh with files := sh.files ++ [(file, unlines body)], inside := none }
    else { sh with inside := some (file, terminator, body ++ [l]) }
  | none =>
    match start l with
    | some (file, terminator) => { sh with inside := some (file, terminator, []) }
    | none => { sh with commands := sh.commands ++ [l] }

def Shell.run (start : Line → Option (List Char × Line)) (sh : Shell) (ls : List Line) : Shell :=
  ls.foldl (Shell.step start) sh

section

variable {start : Line → Option (List Char × Line)}

theorem Shell.run_append (sh : Shell) (ls rest : List Line) :
    sh.run start (ls ++ rest) = (sh.run start ls).run start rest := List.foldl_append

theorem Shell.run_body {sh : Shell} {file : List Char} {terminator : Line} {body ls : List Line}
    (h : terminator ∉ ls) :
    { sh with inside := some (file, terminator, body) }.run start ls =
      { sh with inside := some (file, terminator, body ++ ls) } := by
  induction ls generalizing body with
  | nil => simp [run]
  | cons l ls ih =>
    have hl : l ≠ terminator := fun he => h (he ▸ List.mem_cons_self)
    rw [run, List.foldl_cons, ← run, step]
    simp only [if_neg hl]
    rw [ih fun hm => h (List.mem_cons_of_mem _ hm), List.append_assoc, List.singleton_append]

/-- A here-document without its terminator in it is written as it is. -/
theorem Shell.run_hereDocument {sh : Shell} (hsh : sh.inside = none) {command : Line}
    {file : List Char} {terminator : Line} {body : List Line}
    (hstart : start command = some (file, terminator)) (hbody : terminator ∉ body) :
    sh.run start (command :: body ++ [terminator]) =
      { sh with files := sh.files ++ [(file, unlines body)] } := by
  have hfirst : sh.step start command = { sh with inside := some (file, terminator, []) } := by
    rw [step, hsh]
    simp only [hstart]
  rw [List.cons_append, run, List.foldl_cons, hfirst, ← run, run_append, run_body hbody, run,
    List.foldl_cons, List.foldl_nil, step]
  simp [hsh]

theorem Shell.run_commands {sh : Shell} (hsh : sh.inside = none) {ls : List Line}
    (h : ∀ l ∈ ls, start l = none) :
    sh.run start ls = { sh with commands := sh.commands ++ ls } := by
  induction ls generalizing sh with
  | nil => simp [run]
  | cons l ls ih =>
    have hfirst : sh.step start l = { sh with commands := sh.commands ++ [l] } := by
      rw [step, hsh]
      simp only [h l List.mem_cons_self]
    rw [run, List.foldl_cons, hfirst, ← run, ih (by exact hsh) fun l' hl' =>
      h l' (List.mem_cons_of_mem _ hl'), List.append_assoc, List.singleton_append]

/-- A here-document, and the commands that follow it. -/
structure Document where
  command : Line
  file : List Char
  terminator : Line
  body : List Line
  after : List Line := []
  deriving DecidableEq

def Document.print (d : Document) : List Line := d.command :: d.body ++ [d.terminator] ++ d.after

/-- The documents as a script that has an empty line between any two of them. -/
def script (ds : List Document) : List Char :=
  ['\n'].intercalate (ds.map fun d => unlines d.print)

/-- What is to hold of a document whatever its body is. -/
def Document.framed (start : Line → Option (List Char × Line)) (d : Document) : Bool :=
  decide (start d.command = some (d.file, d.terminator)) && d.after.all (fun l => (start l).isNone) &&
    (d.command :: d.terminator :: d.after).all fun l => !l.contains '\n'

structure Document.Sound (start : Line → Option (List Char × Line)) (d : Document) : Prop where
  framed : d.framed start = true
  terminator : d.terminator ∉ d.body
  plain : ∀ l ∈ d.body, '\n' ∉ l

theorem Document.framed_iff {d : Document} : d.framed start = true ↔
    start d.command = some (d.file, d.terminator) ∧ (∀ l ∈ d.after, start l = none) ∧
      ∀ l ∈ d.command :: d.terminator :: d.after, '\n' ∉ l := by
  simp only [framed, Bool.and_eq_true, decide_eq_true_eq, List.all_eq_true, Option.isNone_iff_eq_none,
    Bool.not_eq_true', ← Bool.not_eq_true, List.contains_iff_mem, and_assoc]

theorem Document.Sound.print {d : Document} (h : d.Sound start) : ∀ l ∈ d.print, '\n' ∉ l := by
  have hframe := (framed_iff.mp h.framed).2.2
  intro l hl
  rcases List.mem_append.mp hl with hl | hl
  · rcases List.mem_append.mp hl with hl | hl
    · rcases List.mem_cons.mp hl with rfl | hl
      · exact hframe _ List.mem_cons_self
      · exact h.plain l hl
    · exact List.mem_singleton.mp hl ▸ hframe _ (List.mem_cons_of_mem _ List.mem_cons_self)
  · exact hframe l (List.mem_cons_of_mem _ (List.mem_cons_of_mem _ hl))

/-- Documents without their terminators in them are written as they are. -/
theorem Shell.run_documents (hempty : start [] = none) {ds : List Document}
    (h : ∀ d ∈ ds, d.Sound start) {sh : Shell} (hsh : sh.inside = none) :
    sh.run start ([[]].intercalate (ds.map Document.print)) =
      { sh with
        files := sh.files ++ ds.map fun d => (d.file, unlines d.body)
        commands := sh.commands ++ [[]].intercalate (ds.map Document.after) } := by
  have hone {d : Document} (hd : d.Sound start) {sh : Shell} (hsh : sh.inside = none) :
      sh.run start d.print = { sh with
        files := sh.files ++ [(d.file, unlines d.body)]
        commands := sh.commands ++ d.after } := by
    obtain ⟨hcommand, hafter, -⟩ := Document.framed_iff.mp hd.framed
    rw [Document.print, run_append, run_hereDocument hsh hcommand hd.terminator,
      run_commands (by exact hsh) hafter]
  have hblank {sh : Shell} (hsh : sh.inside = none) :
      sh.run start [[]] = { sh with commands := sh.commands ++ [[]] } :=
    run_commands hsh fun l hl => List.mem_singleton.mp hl ▸ hempty
  induction ds generalizing sh with
  | nil => simp [run]
  | cons d ds ih =>
    have hd := h d List.mem_cons_self
    have hrest := fun d' hd' => h d' (List.mem_cons_of_mem _ hd')
    cases ds with
    | nil => simpa using hone hd hsh
    | cons d₂ ds =>
      rw [List.map_cons, List.map_cons, List.intercalate_cons_cons, ← List.map_cons, run_append,
        run_append, hone hd hsh, hblank (by exact hsh), ih hrest (by exact hsh)]
      simp [List.intercalate_cons_cons]

theorem Shell.run_script (hempty : start [] = none) {ds : List Document}
    (h : ∀ d ∈ ds, d.Sound start) :
    ({} : Shell).run start (lines (script ds)) =
      { files := ds.map fun d => (d.file, unlines d.body)
        commands := [[]].intercalate (ds.map Document.after) ++ [[]] } := by
  have hplain : ∀ l ∈ [[]].intercalate (ds.map Document.print), '\n' ∉ l := by
    intro l hl hm
    rcases mem_intercalate hl with hl | ⟨ls, hls, hl⟩
    · rw [List.mem_singleton.mp hl] at hm
      exact absurd hm List.not_mem_nil
    · obtain ⟨d, hd, rfl⟩ := List.mem_map.mp hls
      exact (h d hd).print l hl hm
  have hlines := lines_unlines hplain []
  rw [List.append_nil] at hlines
  have hmap : ds.map (fun d => unlines d.print) = (ds.map Document.print).map unlines := by
    rw [List.map_map]
    rfl
  rw [script, hmap, intercalate_unlines, hlines, run_append, run_documents hempty h rfl,
    run_commands rfl fun l hl => List.mem_singleton.mp hl ▸ hempty]
  simp [lines]

end

end Lines

end AutoVPN
