import AutoVPN.Lib.Lines
import AutoVPN.Lib.Text
import AutoVPN.Lib.Value

/-! The text of a JSON value, printed with an indentation. The escapes of the strings leave no end of
a line in them, so that the lines of the text are those of its structure. -/

namespace AutoVPN

namespace JsonText

def hexDigit (n : Nat) : Char := ("0123456789abcdef".toList[n % 16]?).getD '0'

/-- `\uxxxx`. -/
def unicodeEscape (n : Nat) : List Char :=
  ['\\', 'u', hexDigit (n / 4096), hexDigit (n / 256), hexDigit (n / 16), hexDigit n]

/-- A character outside the first plane takes two escapes. -/
def surrogates (n : Nat) : List Char :=
  unicodeEscape (55296 + (n - 65536) / 1024) ++ unicodeEscape (56320 + (n - 65536) % 1024)

/-- The escape of a character, of every one that is not ASCII where the text is to be ASCII. -/
def escape (ascii : Bool) (c : Char) : List Char :=
  if c = '"' then ['\\', '"']
  else if c = '\\' then ['\\', '\\']
  else if c = '\n' then ['\\', 'n']
  else if c = '\r' then ['\\', 'r']
  else if c = '\t' then ['\\', 't']
  else if c.toNat = 8 then ['\\', 'b']
  else if c.toNat = 12 then ['\\', 'f']
  else if c.toNat < 32 then unicodeEscape c.toNat
  else if ascii && decide (126 < c.toNat) then
    if c.toNat < 65536 then unicodeEscape c.toNat else surrogates c.toNat
  else [c]

def quoted (ascii : Bool) (s : String) : List Char :=
  '"' :: (s.toList.flatMap (escape ascii) ++ ['"'])

/-! The lines of a value. -/

def indent (l : Line) : Line := ' ' :: ' ' :: l

/-- A key before the first line of its value. -/
def prepend (key : Line) : List Line → List Line
  | [] => [key]
  | l :: ls => (key ++ l) :: ls

/-- A comma after the last line of a member. -/
def comma : List Line → List Line
  | [] => []
  | [l] => [l ++ [',']]
  | l :: ls => l :: comma ls

def separate : List (List Line) → List Line
  | [] => []
  | [m] => m
  | m :: ms => comma m ++ separate ms

def bracket (opening closing : Char) (members : List (List Line)) : List Line :=
  if members.isEmpty then [[opening, closing]]
  else [opening] :: (separate members).map indent ++ [[closing]]

section

-- `repr` gives the texts of numbers with a fraction.
variable (repr : ℚ → List Char)

mutual

def dumpLines : Value → List Line
  | .null => ["null".toList]
  | .bool b => [(if b then "true" else "false").toList]
  | .int n => [(toString n).toList]
  | .double d => [repr d]
  | .infinite negative => [(if negative then "-Infinity" else "Infinity").toList]
  | .string s => [quoted false s]
  | .array items => bracket '[' ']' (dumpItems items)
  | .object fields => bracket '{' '}' (dumpFields fields)

def dumpItems : List Value → List (List Line)
  | [] => []
  | item :: items => dumpLines item :: dumpItems items

def dumpFields : List (String × Value) → List (List Line)
  | [] => []
  | (key, value) :: fields =>
    prepend (quoted false key ++ [':', ' ']) (dumpLines value) :: dumpFields fields

end

end

/-! No line has an end in it. -/

theorem hexDigit_ne (n : Nat) : hexDigit n ≠ '\n' := by
  have hall : ∀ k < 16, (("0123456789abcdef".toList[k]?).getD '0') ≠ '\n' := by decide
  exact hall (n % 16) (Nat.mod_lt n (by decide))

theorem not_mem_unicodeEscape (n : Nat) : '\n' ∉ unicodeEscape n := by
  simp only [unicodeEscape, List.mem_cons, List.not_mem_nil, or_false, not_or]
  exact ⟨by decide, by decide, (hexDigit_ne _).symm, (hexDigit_ne _).symm, (hexDigit_ne _).symm,
    (hexDigit_ne _).symm⟩

theorem not_mem_escape (ascii : Bool) (c : Char) : '\n' ∉ escape ascii c := by
  unfold escape
  split
  · decide
  split
  · decide
  split
  · decide
  split
  · decide
  split
  · decide
  split
  · decide
  split
  · decide
  split
  · exact not_mem_unicodeEscape _
  split
  · split
    · exact not_mem_unicodeEscape _
    · exact fun h => (List.mem_append.mp h).elim (not_mem_unicodeEscape _) (not_mem_unicodeEscape _)
  · rename_i hn _ _ _ _ _ _
    simpa using Ne.symm hn

theorem not_mem_quoted (ascii : Bool) (s : String) : '\n' ∉ quoted ascii s := by
  intro h
  rcases List.mem_cons.mp h with h | h
  · exact absurd h (by decide)
  rcases List.mem_append.mp h with h | h
  · obtain ⟨c, -, hc⟩ := List.mem_flatMap.mp h
    exact not_mem_escape ascii c hc
  · exact absurd h (by decide)

theorem not_mem_intToString (n : Int) : '\n' ∉ (toString n).toList := fun h =>
  absurd (intToString_class h) (by decide)

/-- None of the lines has an end in it. -/
def Plain (ls : List Line) : Prop := ∀ l ∈ ls, '\n' ∉ l

theorem Plain.prepend {key : Line} (hkey : '\n' ∉ key) {ls : List Line} (h : Plain ls) :
    Plain (prepend key ls) := by
  cases ls with
  | nil => exact fun l hl => List.mem_singleton.mp hl ▸ hkey
  | cons l ls =>
    intro l' hl'
    rcases List.mem_cons.mp hl' with rfl | hl'
    · exact fun hm => (List.mem_append.mp hm).elim hkey (h l List.mem_cons_self)
    · exact h l' (List.mem_cons_of_mem _ hl')

theorem Plain.comma {ls : List Line} (h : Plain ls) : Plain (comma ls) := by
  induction ls with
  | nil => exact h
  | cons l ls ih =>
    have hl := h l List.mem_cons_self
    have hrest := ih fun l' hl' => h l' (List.mem_cons_of_mem _ hl')
    cases ls with
    | nil =>
      intro l' hl'
      rw [List.mem_singleton.mp hl']
      exact fun hm => (List.mem_append.mp hm).elim hl (by decide)
    | cons l₂ ls =>
      intro l' hl'
      rcases List.mem_cons.mp hl' with rfl | hl'
      · exact hl
      · exact hrest l' hl'

theorem Plain.separate {members : List (List Line)} (h : ∀ m ∈ members, Plain m) :
    Plain (separate members) := by
  induction members with
  | nil => exact fun l hl => absurd hl List.not_mem_nil
  | cons m ms ih =>
    have hm := h m List.mem_cons_self
    have hrest := ih fun m' hm' => h m' (List.mem_cons_of_mem _ hm')
    cases ms with
    | nil => exact hm
    | cons m₂ ms =>
      intro l hl
      rcases List.mem_append.mp hl with hl | hl
      · exact hm.comma l hl
      · exact hrest l hl

theorem Plain.bracket {opening closing : Char} (ho : opening ≠ '\n') (hc : closing ≠ '\n')
    {members : List (List Line)} (h : ∀ m ∈ members, Plain m) :
    Plain (bracket opening closing members) := by
  intro l hl
  unfold JsonText.bracket at hl
  split at hl
  · rw [List.mem_singleton.mp hl]
    simp [Ne.symm ho, Ne.symm hc]
  · rcases List.mem_cons.mp hl with rfl | hl
    · simp [Ne.symm ho]
    rcases List.mem_append.mp hl with hl | hl
    · obtain ⟨l, hm, rfl⟩ := List.mem_map.mp hl
      have hplain := Plain.separate h l hm
      simpa [indent] using hplain
    · rw [List.mem_singleton.mp hl]
      simp [Ne.symm hc]

theorem plain_dumpLines {repr : ℚ → List Char} (hrepr : ∀ d, '\n' ∉ repr d) (v : Value) :
    Plain (dumpLines repr v) := by
  have hone {l : Line} (h : '\n' ∉ l) : Plain [l] := fun l' hl' => List.mem_singleton.mp hl' ▸ h
  refine (dumpLines.mutual_induct (fun v => Plain (dumpLines repr v))
    (fun fields => ∀ m ∈ dumpFields repr fields, Plain m)
    (fun items => ∀ m ∈ dumpItems repr items, Plain m) ?_ ?_ ?_ ?_ ?_ ?_ ?_ ?_ ?_ ?_ ?_ ?_).1 v
  · exact hone (by decide)
  · exact fun b => hone (by cases b <;> decide)
  · exact fun n => hone (not_mem_intToString n)
  · exact fun d => hone (hrepr d)
  · exact fun negative => hone (by cases negative <;> decide)
  · exact fun s => hone (not_mem_quoted false s)
  · exact fun items h => Plain.bracket (by decide) (by decide) h
  · exact fun fields h => Plain.bracket (by decide) (by decide) h
  · exact fun m hm => absurd hm List.not_mem_nil
  · intro item items hitem hitems m hm
    rcases List.mem_cons.mp hm with rfl | hm
    · exact hitem
    · exact hitems m hm
  · exact fun m hm => absurd hm List.not_mem_nil
  · intro key value fields hvalue hfields m hm
    rcases List.mem_cons.mp hm with rfl | hm
    · refine hvalue.prepend fun h => ?_
      exact (List.mem_append.mp h).elim (not_mem_quoted false key) (by decide)
    · exact hfields m hm

/-- A line of an object is a brace or begins with a blank. -/
theorem head_dumpLines_object (repr : ℚ → List Char) (fields : List (String × Value)) {l : Line}
    (h : l ∈ dumpLines repr (.object fields)) :
    l.head? = some '\x7b' ∨ l.head? = some '\x7d' ∨ l.head? = some ' ' := by
  simp only [dumpLines] at h
  unfold bracket at h
  split at h
  · rw [List.mem_singleton.mp h]
    exact Or.inl rfl
  · rcases List.mem_cons.mp h with rfl | h
    · exact Or.inl rfl
    rcases List.mem_append.mp h with h | h
    · obtain ⟨l, -, rfl⟩ := List.mem_map.mp h
      exact Or.inr (Or.inr rfl)
    · rw [List.mem_singleton.mp h]
      exact Or.inr (Or.inl rfl)

end JsonText

end AutoVPN
