import AutoVPN.Lib.Lines

/-! Configuration files with one directive in a line, as curl reads them: a name, and a value that may
stand between quotation marks. -/

namespace AutoVPN

namespace CurlConfig

structure Directive where
  name : List Char
  value : Option (List Char)
  deriving DecidableEq

def isSpace (c : Char) : Bool := [' ', '\t', '\n', '\x0b', '\x0c', '\r'].contains c

def isSeparator (c : Char) : Bool := c == '=' || c == ':'

/-- The character that a backslash and a character stand for. -/
def unescape : Char → Char
  | 't' => '\t'
  | 'n' => '\n'
  | 'r' => '\r'
  | 'v' => '\x0b'
  | c => c

/-- A value after its first quotation mark, up to the second or to the end of the line. -/
def unquote : List Char → List Char
  | [] => []
  | '"' :: _ => []
  | '\\' :: c :: cs => unescape c :: unquote cs
  | '\\' :: [] => []
  | c :: cs => c :: unquote cs

def value : List Char → Option (List Char)
  | '"' :: cs => some (unquote cs)
  | cs =>
    let word := cs.takeWhile (fun c => !isSpace c)
    if word.isEmpty then none else some word

/-- The directive of a line, unless the line is empty or a comment. -/
def directive (l : Line) : Option Directive :=
  match l.dropWhile isSpace with
  | [] => none
  | c :: cs =>
    if c == '#' || c == '/' || c == '*' then none
    else
      let ends (x : Char) : Bool := isSpace x || (c != '-' && isSeparator x)
      let rest := (c :: cs).dropWhile (fun x => !ends x)
      some ⟨(c :: cs).takeWhile (fun x => !ends x), value (rest.dropWhile ends)⟩

def parse (text : List Char) : List Directive := (Lines.lines text).filterMap directive

/-! Quotation. -/

/-- A value with its backslashes and then its quotation marks escaped. -/
def quote (value : List Char) : List Char :=
  '"' :: ((value.flatMap (fun c => if c = '\\' then ['\\', '\\'] else [c])).flatMap
    (fun c => if c = '"' then ['\\', '"'] else [c]) ++ ['"'])

/-- The escapes of one character. -/
def escape (c : Char) : List Char :=
  if c = '\\' then ['\\', '\\'] else if c = '"' then ['\\', '"'] else [c]

theorem quote_eq (cs : List Char) : quote cs = '"' :: (cs.flatMap escape ++ ['"']) := by
  rw [quote, List.flatMap_assoc]
  refine congrArg (fun e => '"' :: (cs.flatMap e ++ ['"'])) (funext fun c => ?_)
  rw [escape]
  split <;> simp

theorem unquote_escape (c : Char) (cs : List Char) : unquote (escape c ++ cs) = c :: unquote cs := by
  by_cases hb : c = '\\'
  · subst hb
    rfl
  by_cases hq : c = '"'
  · subst hq
    rfl
  rw [escape, if_neg hb, if_neg hq, List.singleton_append, unquote.eq_def]
  split
  · rename_i h
    cases h
  · rename_i h
    exact absurd (List.cons.inj h).1 hq
  · rename_i h
    exact absurd (List.cons.inj h).1 hb
  · rename_i h
    exact absurd (List.cons.inj h).1 hb
  · rename_i h
    obtain ⟨rfl, rfl⟩ := List.cons.inj h
    rfl

/-- What is quoted is read back, whatever follows on the line. -/
theorem unquote_quote (cs rest : List Char) :
    unquote (cs.flatMap escape ++ '"' :: rest) = cs := by
  induction cs with
  | nil => rfl
  | cons c cs ih => rw [List.flatMap_cons, List.append_assoc, unquote_escape, ih]

theorem not_mem_quote {cs : List Char} (h : '\n' ∉ cs) : '\n' ∉ quote cs := by
  have hescape : ∀ c ∈ cs, '\n' ∉ escape c := by
    intro c hc
    have hne : '\n' ≠ c := fun he => h (he ▸ hc)
    rw [escape]
    split
    · decide
    · split
      · decide
      · simpa using hne
  rw [quote_eq]
  simp only [List.mem_cons, List.mem_append, List.mem_flatMap, not_or, not_exists, not_and]
  exact ⟨by decide, hescape, by decide, by simp⟩

/-! Lines. -/

/-- A name as the directives have them. -/
def isName (name : List Char) : Bool :=
  match name with
  | [] => false
  | c :: cs => c.isLower && cs.all (fun c => c.isLower || c == '-')

theorem isSpace_of_isLower {c : Char} (h : c.isLower = true ∨ c = '-') : isSpace c = false := by
  refine Bool.eq_false_iff.mpr fun hc => ?_
  have hmem := List.contains_iff_mem.mp hc
  simp only [List.mem_cons, List.not_mem_nil, or_false] at hmem
  rcases hmem with rfl | rfl | rfl | rfl | rfl | rfl <;> exact absurd h (by decide)

theorem isSeparator_of_isLower {c : Char} (h : c.isLower = true ∨ c = '-') : isSeparator c = false := by
  refine Bool.eq_false_iff.mpr fun hc => ?_
  simp only [isSeparator, Bool.or_eq_true, beq_iff_eq] at hc
  rcases hc with rfl | rfl <;> exact absurd h (by decide)

/-- A line that begins with a name. -/
theorem directive_name {name rest : List Char} (h : isName name = true)
    (hrest : rest.head?.all isSpace = true) : directive (name ++ rest) =
      some ⟨name, value (rest.dropWhile fun c => isSpace c || isSeparator c)⟩ := by
  cases name with
  | nil => cases h
  | cons c cs =>
    rw [isName, Bool.and_eq_true, List.all_eq_true] at h
    obtain ⟨hc, hcs⟩ := h
    have hletters : ∀ x ∈ c :: cs, x.isLower = true ∨ x = '-' := by
      intro x hx
      rcases List.mem_cons.mp hx with rfl | hx
      · exact .inl hc
      · simpa using hcs x hx
    have hother : ∀ x ∈ ['#', '/', '*', '-'], c ≠ x := by
      rintro x hx rfl
      simp only [List.mem_cons, List.not_mem_nil, or_false] at hx
      rcases hx with rfl | rfl | rfl | rfl <;> exact absurd hc (by decide)
    have hstart : (c :: cs ++ rest).dropWhile isSpace = c :: (cs ++ rest) :=
      List.dropWhile_cons_of_neg (by simp [isSpace_of_isLower (.inl hc)])
    have hword : ∀ x ∈ c :: cs, (!(isSpace x || (c != '-' && isSeparator x))) = true := by
      intro x hx
      rw [isSpace_of_isLower (hletters x hx), isSeparator_of_isLower (hletters x hx), Bool.and_false]
      rfl
    have hends : rest.takeWhile (fun x => !(isSpace x || (c != '-' && isSeparator x))) = [] := by
      cases rest with
      | nil => rfl
      | cons x rest =>
        have hx : isSpace x = true := hrest
        exact List.takeWhile_cons_of_neg (by simp [hx])
    have hdrop : rest.dropWhile (fun x => !(isSpace x || (c != '-' && isSeparator x))) = rest := by
      have happend := List.takeWhile_append_dropWhile
        (p := fun x => !(isSpace x || (c != '-' && isSeparator x))) (l := rest)
      rwa [hends, List.nil_append] at happend
    have hdash : (c != '-') = true := bne_iff_ne.mpr (hother '-' (by simp))
    rw [directive, hstart]
    simp only [beq_eq_false_iff_ne.mpr (hother '#' (by simp)),
      beq_eq_false_iff_ne.mpr (hother '/' (by simp)), beq_eq_false_iff_ne.mpr (hother '*' (by simp)),
      Bool.or_self, Bool.false_eq_true, if_false]
    rw [← List.cons_append, List.takeWhile_append_of_pos hword, List.dropWhile_append_of_pos hword,
      hends, hdrop, List.append_nil]
    simp only [hdash, Bool.true_and]

theorem directive_line {name cs : List Char} (h : isName name = true)
    (hcs : (cs.head?.all fun c => !(isSpace c || isSeparator c)) = true) :
    directive (name ++ ([' ', '=', ' '] ++ cs)) = some ⟨name, value cs⟩ := by
  have hdrop : ([' ', '=', ' '] ++ cs).dropWhile (fun c => isSpace c || isSeparator c) = cs := by
    have hspaces : ([' ', '=', ' '].all fun c => isSpace c || isSeparator c) = true := by decide
    rw [List.dropWhile_append_of_pos (List.all_eq_true.mp hspaces)]
    cases cs with
    | nil => rfl
    | cons c cs =>
      have hc : (!(isSpace c || isSeparator c)) = true := hcs
      exact List.dropWhile_cons_of_neg (by simpa using hc)
  rw [directive_name h rfl, hdrop]

theorem value_quote (cs : List Char) : value (quote cs) = some cs := by
  rw [quote_eq, value, unquote_quote]

theorem value_word {cs : List Char} (hne : cs ≠ [])
    (h : ∀ c ∈ cs, isSpace c = false ∧ c ≠ '"') : value cs = some cs := by
  have hspace : ∀ c ∈ cs, (!isSpace c) = true := fun c hc => by
    rw [(h c hc).1]
    rfl
  have htake : cs.takeWhile (fun c => !isSpace c) = cs := by
    have happend : (cs ++ []).takeWhile (fun c => !isSpace c) = cs ++ [] :=
      List.takeWhile_append_of_pos hspace
    rwa [List.append_nil] at happend
  rw [value.eq_def]
  split
  · exact absurd rfl (h '"' List.mem_cons_self).2
  · simp only [htake, List.isEmpty_eq_false_iff.mpr hne, Bool.false_eq_true, if_false]

theorem directive_quote {name : List Char} (h : isName name = true) (cs : List Char) :
    directive (name ++ ([' ', '=', ' '] ++ quote cs)) = some ⟨name, some cs⟩ := by
  rw [directive_line h rfl, value_quote]

/-- The directives of lines without an end in them are those of the lines. -/
theorem parse_unlines {ls : List Line} (h : ∀ l ∈ ls, '\n' ∉ l) :
    parse (Lines.unlines ls) = ls.filterMap directive := by
  have hlines := Lines.lines_unlines h []
  rw [List.append_nil] at hlines
  rw [parse, hlines, List.filterMap_append]
  exact List.append_nil _

end CurlConfig

end AutoVPN
