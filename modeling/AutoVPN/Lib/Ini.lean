import Mathlib.Data.List.DropRight
import Mathlib.Data.List.TakeWhile
import AutoVPN.Lib.Lines

/-! Configurations of sections with keys and values, read line by line: a comment reaches from its sign
to the end of the line, and blanks around names and values do not count. -/

namespace AutoVPN

namespace Ini

structure IniSection where
  name : Line
  fields : List (Line × Line)
  deriving DecidableEq

def isBlank (c : Char) : Bool := c == ' ' || (decide (9 ≤ c.toNat) && decide (c.toNat ≤ 13))

def trim (cs : List Char) : List Char := (cs.dropWhile isBlank).rdropWhile isBlank

inductive Entry
  | empty
  | header (name : Line)
  | field (key value : Line)
  | malformed
  deriving DecidableEq

def entry (l : Line) : Entry :=
  match trim (l.takeWhile (· != '#')) with
  | [] => .empty
  | '[' :: name => if name.getLast? = some ']' then .header name.dropLast else .malformed
  | text =>
    match text.dropWhile (· != '=') with
    | [] => .malformed
    | _ :: value => .field (trim (text.takeWhile (· != '='))) (trim value)

/-- A field belongs to the section before it. -/
def add (sections : List IniSection) (l : Line) : Option (List IniSection) :=
  match entry l with
  | .empty => some sections
  | .header name => some (sections ++ [⟨name, []⟩])
  | .field key value => sections.getLast?.map fun s =>
      sections.dropLast ++ [{ s with fields := s.fields ++ [(key, value)] }]
  | .malformed => none

def parse (ls : List Line) : Option (List IniSection) := ls.foldlM add []

/-! Sections. -/

/-- The fields of lines that begin no section. -/
def fieldsOf (ls : List Line) : List (Line × Line) :=
  ls.filterMap fun l =>
    match entry l with
    | .field key value => some (key, value)
    | _ => none

def IsBody (l : Line) : Prop := entry l = .empty ∨ ∃ key value, entry l = .field key value

theorem fieldsOf_cons_empty {l : Line} (h : entry l = .empty) (ls : List Line) :
    fieldsOf (l :: ls) = fieldsOf ls := by
  simp [fieldsOf, h]

theorem fieldsOf_cons_field {l key value : Line} (h : entry l = .field key value) (ls : List Line) :
    fieldsOf (l :: ls) = (key, value) :: fieldsOf ls := by
  simp [fieldsOf, h]

theorem foldlM_body {sections : List IniSection} {s : IniSection} {ls : List Line}
    (h : ∀ l ∈ ls, IsBody l) : ls.foldlM add (sections ++ [s]) =
      some (sections ++ [{ s with fields := s.fields ++ fieldsOf ls }]) := by
  induction ls generalizing s with
  | nil => simp [fieldsOf]
  | cons l ls ih =>
    have hrest : ∀ l' ∈ ls, IsBody l' := fun l' hl' => h l' (List.mem_cons_of_mem _ hl')
    rw [List.foldlM_cons]
    rcases h l List.mem_cons_self with hl | ⟨key, value, hl⟩
    · have hadd : add (sections ++ [s]) l = some (sections ++ [s]) := by rw [add, hl]
      rw [hadd, fieldsOf_cons_empty hl]
      exact ih hrest
    · have hadd : add (sections ++ [s]) l =
          some (sections ++ [{ s with fields := s.fields ++ [(key, value)] }]) := by
        rw [add, hl]
        simp
      rw [hadd, fieldsOf_cons_field hl]
      have hih := ih (s := { s with fields := s.fields ++ [(key, value)] }) hrest
      simpa using hih

/-- A section reaches to the next header. -/
theorem foldlM_section {sections : List IniSection} {header name : Line} {ls rest : List Line}
    (hheader : entry header = .header name) (h : ∀ l ∈ ls, IsBody l) :
    (header :: ls ++ rest).foldlM add sections =
      rest.foldlM add (sections ++ [⟨name, fieldsOf ls⟩]) := by
  have hadd : add sections header = some (sections ++ [⟨name, []⟩]) := by rw [add, hheader]
  rw [List.cons_append, List.foldlM_cons, hadd]
  change (ls ++ rest).foldlM add (sections ++ [⟨name, []⟩]) = _
  rw [List.foldlM_append, foldlM_body h]
  rfl

/-! Lines. -/

theorem trim_eq_self {cs : List Char} (hfirst : ∀ c ∈ cs.head?, isBlank c = false)
    (hlast : ∀ c ∈ cs.getLast?, isBlank c = false) : trim cs = cs := by
  have hdrop : cs.dropWhile isBlank = cs := by
    cases cs with
    | nil => rfl
    | cons c cs => rw [List.dropWhile_cons, hfirst c rfl]; rfl
  rw [trim, hdrop, List.rdropWhile_eq_self_iff]
  intro hne
  rw [hlast _ (List.getLast?_eq_some_getLast hne)]
  decide

theorem trim_append_blank (cs : List Char) : trim (cs ++ [' ']) = trim cs := by
  have hblank : isBlank ' ' = true := by decide
  by_cases hall : ∀ c ∈ cs, isBlank c = true
  · have hcs : cs.dropWhile isBlank = [] := List.dropWhile_eq_nil_iff.mpr hall
    have hcs' : (cs ++ [' ']).dropWhile isBlank = [] :=
      List.dropWhile_eq_nil_iff.mpr fun c hc => by
        rcases List.mem_append.mp hc with hc | hc
        · exact hall c hc
        · exact List.mem_singleton.mp hc ▸ hblank
    rw [trim, trim, hcs, hcs']
  · have hne : (cs.dropWhile isBlank).isEmpty = false := by
      rw [List.isEmpty_eq_false_iff, Ne, List.dropWhile_eq_nil_iff]
      exact hall
    rw [trim, trim, List.dropWhile_append, hne, if_neg (by decide),
      List.rdropWhile_concat_pos _ _ _ hblank]

theorem trim_blank_cons (cs : List Char) : trim (' ' :: cs) = trim cs := by
  rw [trim, trim, List.dropWhile_cons, if_pos (by decide)]

def isName (key : Line) : Bool :=
  !key.isEmpty && key.head? != some '[' && key.all fun c => c != '#' && c != '=' && !isBlank c

structure IsValue (value : Line) : Prop where
  nonempty : value ≠ []
  line : '\n' ∉ value
  comment : '#' ∉ value
  first : ∀ c ∈ value.head?, isBlank c = false
  last : ∀ c ∈ value.getLast?, isBlank c = false

def headerLine (name : Line) : Line := '[' :: (name ++ [']'])

def fieldLine (f : Line × Line) : Line := f.1 ++ [' ', '=', ' '] ++ f.2

def IsField (f : Line × Line) : Prop := isName f.1 = true ∧ IsValue f.2

theorem isField {key value : Line} (hkey : isName key = true) (hvalue : IsValue value) :
    IsField (key, value) :=
  ⟨hkey, hvalue⟩

theorem IsValue.of_forall {value : Line} (hne : value ≠ [])
    (h : ∀ c ∈ value, c ≠ '#' ∧ isBlank c = false) : IsValue value where
  nonempty := hne
  line hm := absurd (h '\n' hm).2 (by decide)
  comment hm := (h '#' hm).1 rfl
  first c hc := (h c (List.mem_of_mem_head? hc)).2
  last c hc := (h c (List.mem_of_mem_getLast? hc)).2

def blanks : List Char := [' ', '\t', '\n', Char.ofNat 11, Char.ofNat 12, '\r']

theorem mem_blanks {c : Char} (h : isBlank c = true) : c ∈ blanks := by
  rw [isBlank, Bool.or_eq_true, beq_iff_eq, Bool.and_eq_true, decide_eq_true_eq,
    decide_eq_true_eq] at h
  rcases h with rfl | ⟨hl, hu⟩
  · decide
  · have hall : ∀ n ≤ 13, 9 ≤ n → Char.ofNat n ∈ blanks := by decide
    exact Char.ofNat_toNat c ▸ hall c.toNat hu hl

/-- A class of characters without blanks. -/
theorem IsValue.of_class {p : Char → Bool} (hp : (('#' :: blanks).all fun c => !p c) = true)
    {value : Line} (hne : value ≠ []) (h : ∀ c ∈ value, p c = true) : IsValue value := by
  have hnot (c : Char) (hc : c ∈ '#' :: blanks) : p c = false := by
    simpa using List.all_eq_true.mp hp c hc
  refine IsValue.of_forall hne fun c hc => ⟨?_, ?_⟩
  · rintro rfl
    exact absurd (h '#' hc) (by rw [hnot '#' List.mem_cons_self]; decide)
  · refine Bool.eq_false_iff.mpr fun hblank => ?_
    exact absurd (h c hc) (by rw [hnot c (List.mem_cons_of_mem _ (mem_blanks hblank))]; decide)

def isOpening (l : Line) : Bool :=
  !l.isEmpty && l.head?.all (!isBlank ·) && l.all fun c => c != '\n' && c != '#'

def isClosing (l : Line) : Bool :=
  !l.isEmpty && l.getLast?.all (!isBlank ·) && l.all fun c => c != '\n' && c != '#'

theorem IsValue.append_closing {a b : Line} (ha : IsValue a) (hb : isClosing b = true) :
    IsValue (a ++ b) := by
  simp only [isClosing, Bool.and_eq_true, Bool.not_eq_true', List.isEmpty_eq_false_iff,
    List.all_eq_true, bne_iff_ne, Option.all_eq_true] at hb
  obtain ⟨⟨hne, hlast⟩, hplain⟩ := hb
  constructor
  · exact fun h => ha.nonempty (List.append_eq_nil_iff.mp h).1
  · exact fun h => (List.mem_append.mp h).elim ha.line fun h => (hplain _ h).1 rfl
  · exact fun h => (List.mem_append.mp h).elim ha.comment fun h => (hplain _ h).2 rfl
  · intro c hc
    rw [List.head?_append_of_ne_nil _ ha.nonempty] at hc
    exact ha.first c hc
  · intro c hc
    rw [List.getLast?_append_of_ne_nil _ hne] at hc
    simpa using hlast c hc

theorem IsValue.opening_append {a b : Line} (ha : isOpening a = true) (hb : IsValue b) :
    IsValue (a ++ b) := by
  simp only [isOpening, Bool.and_eq_true, Bool.not_eq_true', List.isEmpty_eq_false_iff,
    List.all_eq_true, bne_iff_ne, Option.all_eq_true] at ha
  obtain ⟨⟨hne, hfirst⟩, hplain⟩ := ha
  constructor
  · exact fun h => hb.nonempty (List.append_eq_nil_iff.mp h).2
  · exact fun h => (List.mem_append.mp h).elim (fun h => (hplain _ h).1 rfl) hb.line
  · exact fun h => (List.mem_append.mp h).elim (fun h => (hplain _ h).2 rfl) hb.comment
  · intro c hc
    rw [List.head?_append_of_ne_nil _ hne] at hc
    simpa using hfirst c hc
  · intro c hc
    rw [List.getLast?_append_of_ne_nil _ hb.nonempty] at hc
    exact hb.last c hc

theorem isName_iff {key : Line} : isName key = true ↔
    key ≠ [] ∧ key.head? ≠ some '[' ∧ ∀ c ∈ key, c ≠ '#' ∧ c ≠ '=' ∧ isBlank c = false := by
  simp [isName, and_assoc]

theorem entry_header {name : Line} (h : '#' ∉ name) : entry (headerLine name) = .header name := by
  have htake : (headerLine name).takeWhile (· != '#') = headerLine name :=
    List.takeWhile_eq_self_iff.mpr fun c hc => by
      rw [bne_iff_ne]
      rintro rfl
      exact h (by simpa [headerLine] using hc)
  have htrim : trim (headerLine name) = headerLine name := by
    refine trim_eq_self (fun c hc => ?_) (fun c hc => ?_)
    · obtain rfl := Option.some.inj hc
      decide
    · rw [headerLine, ← List.cons_append, List.getLast?_concat] at hc
      obtain rfl := Option.some.inj hc
      decide
  rw [entry, htake, htrim, headerLine]
  simp

/-- A comment is no entry. -/
theorem entry_comment (cs : List Char) : entry ('#' :: cs) = .empty := by
  rw [entry, List.takeWhile_cons, if_neg (by decide)]
  rfl

theorem entry_field {f : Line × Line} (h : IsField f) : entry (fieldLine f) = .field f.1 f.2 := by
  obtain ⟨key, value⟩ := f
  obtain ⟨hkey, hvalue⟩ := h
  obtain ⟨hne, hfirst, hplain⟩ := isName_iff.mp hkey
  obtain ⟨k, key, rfl⟩ := List.exists_cons_of_ne_nil hne
  rw [fieldLine]
  have hcomment : ∀ c ∈ k :: key ++ [' ', '=', ' '] ++ value, (c != '#') = true := by
    intro c hc
    rw [bne_iff_ne]
    rcases List.mem_append.mp hc with hc | hc
    · rcases List.mem_append.mp hc with hc | hc
      · exact (hplain c hc).1
      · rintro rfl
        exact absurd hc (by decide)
    · rintro rfl
      exact hvalue.comment hc
  have htake : (k :: key ++ [' ', '=', ' '] ++ value).takeWhile (· != '#') =
      k :: key ++ [' ', '=', ' '] ++ value := List.takeWhile_eq_self_iff.mpr hcomment
  have htrim : trim (k :: key ++ [' ', '=', ' '] ++ value) = k :: key ++ [' ', '=', ' '] ++ value := by
    refine trim_eq_self (fun c hc => ?_) (fun c hc => ?_)
    · obtain rfl := Option.some.inj hc
      exact (hplain k List.mem_cons_self).2.2
    · rw [List.getLast?_append_of_ne_nil _ hvalue.nonempty] at hc
      exact hvalue.last c hc
  have hname : ∀ c ∈ k :: key ++ [' '], (c != '=') = true := by
    intro c hc
    rw [bne_iff_ne]
    rcases List.mem_append.mp hc with hc | hc
    · exact (hplain c hc).2.1
    · rintro rfl
      exact absurd hc (by decide)
  have hsplit : k :: key ++ [' ', '=', ' '] ++ value = (k :: key ++ [' ']) ++ '=' :: ' ' :: value := by
    simp
  have hdropKey : (k :: key ++ [' ', '=', ' '] ++ value).dropWhile (· != '=') = '=' :: ' ' :: value := by
    rw [hsplit, List.dropWhile_append_of_pos hname, List.dropWhile_cons, if_neg (by decide)]
  have htakeKey : (k :: key ++ [' ', '=', ' '] ++ value).takeWhile (· != '=') = k :: key ++ [' '] := by
    rw [hsplit, List.takeWhile_append_of_pos hname, List.takeWhile_cons, if_neg (by decide),
      List.append_nil]
  have hk : k ≠ '[' := fun he => hfirst (congrArg some he)
  have hkeyTrim : trim (k :: key ++ [' ']) = k :: key := by
    rw [trim_append_blank]
    exact trim_eq_self (fun c hc => (hplain c (List.mem_of_mem_head? hc)).2.2)
      (fun c hc => (hplain c (List.mem_of_mem_getLast? hc)).2.2)
  have hvalueTrim : trim (' ' :: value) = value := by
    rw [trim_blank_cons, trim_eq_self hvalue.first hvalue.last]
  rw [entry, htake, htrim]
  split
  · rename_i hnil
    cases hnil
  · rename_i name hcons
    exact absurd (List.cons.inj hcons).1 hk
  · rw [hdropKey, htakeKey, hkeyTrim]
    exact congrArg (Entry.field (k :: key)) hvalueTrim

theorem isBody_fieldLine {f : Line × Line} (h : IsField f) : IsBody (fieldLine f) :=
  Or.inr ⟨f.1, f.2, entry_field h⟩

theorem isBody_comment (cs : List Char) : IsBody ('#' :: cs) := Or.inl (entry_comment cs)

theorem isBody_nil : IsBody [] := Or.inl rfl

theorem newline_not_mem_fieldLine {f : Line × Line} (h : IsField f) : '\n' ∉ fieldLine f := by
  intro hm
  rcases List.mem_append.mp hm with hm | hm
  · rcases List.mem_append.mp hm with hm | hm
    · exact absurd ((isName_iff.mp h.1).2.2 _ hm).2.2 (by decide)
    · exact absurd hm (by decide)
  · exact h.2.line hm

theorem fieldsOf_append (ls rest : List Line) : fieldsOf (ls ++ rest) = fieldsOf ls ++ fieldsOf rest :=
  List.filterMap_append

theorem fieldsOf_fieldLines {fields : List (Line × Line)} (h : ∀ f ∈ fields, IsField f) :
    fieldsOf (fields.map fieldLine) = fields := by
  induction fields with
  | nil => rfl
  | cons f fields ih =>
    rw [List.map_cons, fieldsOf_cons_field (entry_field (h f List.mem_cons_self)),
      ih fun f' hf' => h f' (List.mem_cons_of_mem _ hf')]

/-- Sections one after the other. -/
theorem foldlM_sections {blocks : List (Line × List Line)}
    (h : ∀ b ∈ blocks, '#' ∉ b.1 ∧ ∀ l ∈ b.2, IsBody l) (sections : List IniSection) :
    (blocks.flatMap fun b => headerLine b.1 :: b.2).foldlM add sections =
      some (sections ++ blocks.map fun b => ⟨b.1, fieldsOf b.2⟩) := by
  induction blocks generalizing sections with
  | nil => simp
  | cons b blocks ih =>
    obtain ⟨hname, hbody⟩ := h b List.mem_cons_self
    rw [List.flatMap_cons, foldlM_section (entry_header hname) hbody,
      ih fun b' hb' => h b' (List.mem_cons_of_mem _ hb')]
    simp

/-- An empty line is no more than the end of the text. -/
theorem foldlM_concat_nil (ls : List Line) (sections : List IniSection) :
    (ls ++ [[]]).foldlM add sections = ls.foldlM add sections := by
  have hnil (s : List IniSection) : add s [] = some s := rfl
  rw [List.foldlM_append]
  cases ls.foldlM add sections with
  | none => rfl
  | some s =>
    change [[]].foldlM add s = some s
    rw [List.foldlM_cons, hnil]
    rfl

/-- A malformed line fails the whole. -/
theorem entry_of_parse {ls : List Line} {sections : List IniSection} (h : parse ls = some sections)
    {l : Line} (hl : l ∈ ls) : entry l ≠ .malformed := by
  obtain ⟨before, after, rfl⟩ := List.append_of_mem hl
  intro hmalformed
  have hadd (s : List IniSection) : add s l = none := by rw [add, hmalformed]
  rw [parse, List.foldlM_append] at h
  cases hbefore : before.foldlM add [] with
  | none =>
    rw [hbefore] at h
    cases h
  | some s =>
    rw [hbefore] at h
    have hnone : (l :: after).foldlM add s = none := by
      rw [List.foldlM_cons, hadd]
      rfl
    exact absurd (hnone.symm.trans h) (by simp)

end Ini

end AutoVPN
