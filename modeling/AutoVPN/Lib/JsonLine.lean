import AutoVPN.Lib.JsonText

/-! The text of a JSON value on one line, with a space before each member and each closing bracket. -/

namespace AutoVPN

namespace JsonLine

open JsonText

def bracket (opening closing : Char) (members : List (List Char)) : List Char :=
  opening :: ([','].intercalate (members.map fun m => ' ' :: m) ++ [' ', closing])

section

-- `repr` gives the texts of numbers with a fraction.
variable (repr : ℚ → List Char)

mutual

def print : Value → List Char
  | .null => "null".toList
  | .bool b => (if b then "true" else "false").toList
  | .int n => (toString n).toList
  | .double d => repr d
  | .infinite negative => (if negative then "-1e309" else "1e309").toList
  | .string s => quoted false s
  | .array items => bracket '[' ']' (printItems items)
  | .object fields => bracket '{' '}' (printFields fields)

def printItems : List Value → List (List Char)
  | [] => []
  | item :: items => print item :: printItems items

def printFields : List (String × Value) → List (List Char)
  | [] => []
  | (key, value) :: fields =>
    (quoted false key ++ ':' :: ' ' :: print value) :: printFields fields

end

def text (v : Value) : String := String.ofList (print repr v)

/-- The number of bytes of the text. -/
def size (v : Value) : Nat := ((print repr v).map Char.utf8Size).sum

end

/-! The length of a text. -/

theorem length_escape_le (ascii : Bool) (c : Char) : (escape ascii c).length ≤ 12 := by
  unfold escape unicodeEscape surrogates
  repeat' split
  all_goals simp [unicodeEscape]

theorem length_quoted_le (ascii : Bool) (s : String) :
    (quoted ascii s).length ≤ 12 * s.length + 2 := by
  have hchars (cs : List Char) : (cs.flatMap (escape ascii)).length ≤ 12 * cs.length := by
    induction cs with
    | nil => exact Nat.le_refl _
    | cons c cs ih =>
      have hc := length_escape_le ascii c
      rw [List.flatMap_cons, List.length_append, List.length_cons]
      omega
  have hs := hchars s.toList
  rw [String.length_toList] at hs
  simp only [quoted, List.length_cons, List.length_append, List.length_nil]
  omega

theorem length_intercalate_le {sep : List Char} {n : Nat} {ls : List (List Char)}
    (h : ∀ l ∈ ls, l.length ≤ n) : (sep.intercalate ls).length ≤ ls.length * (n + sep.length) := by
  induction ls with
  | nil => simp
  | cons l ls ih =>
    have hl := h l List.mem_cons_self
    replace ih := ih fun l hl => h l (List.mem_cons_of_mem _ hl)
    cases ls with
    | nil =>
      rw [List.intercalate_singleton, List.length_singleton, one_mul]
      exact hl.trans (Nat.le_add_right _ _)
    | cons m ms =>
      rw [List.intercalate_cons_cons, List.length_append, List.length_append, List.length_cons,
        Nat.succ_mul]
      omega

/-- An object whose keys and values are short. -/
theorem length_print_object_le {repr : ℚ → List Char} {n : Nat} {fields : List (String × Value)}
    (h : ∀ f ∈ fields, (quoted false f.1).length + (print repr f.2).length ≤ n) :
    (print repr (.object fields)).length ≤ fields.length * (n + 4) + 3 := by
  have hmembers (fs : List (String × Value)) : (printFields repr fs).length = fs.length := by
    induction fs with
    | nil => rfl
    | cons f fs ih => rw [printFields, List.length_cons, ih, List.length_cons]
  have hshort (fs : List (String × Value)) (hfs : ∀ f ∈ fs, f ∈ fields) :
      ∀ m ∈ printFields repr fs, m.length ≤ n + 2 := by
    induction fs with
    | nil => nofun
    | cons f fs ih =>
      intro m hm
      rcases List.mem_cons.mp hm with rfl | hm
      · have hf := h f (hfs f List.mem_cons_self)
        simp only [List.length_append, List.length_cons]
        omega
      · exact ih (fun f hf => hfs f (List.mem_cons_of_mem _ hf)) m hm
  have hjoined : ([','].intercalate ((printFields repr fields).map fun m => ' ' :: m)).length ≤
      fields.length * (n + 4) := by
    have hlines : ∀ l ∈ (printFields repr fields).map fun m => ' ' :: m, l.length ≤ n + 3 := by
      intro l hl
      obtain ⟨m, hm, rfl⟩ := List.mem_map.mp hl
      exact Nat.succ_le_succ (hshort fields (fun _ => id) m hm)
    have hle : ([','].intercalate ((printFields repr fields).map fun m => ' ' :: m)).length ≤ _ :=
      length_intercalate_le hlines
    rwa [List.length_map, hmembers] at hle
  rw [print, bracket]
  simp only [List.length_cons, List.length_append, List.length_nil]
  omega

theorem utf8ByteSize_text (repr : ℚ → List Char) (v : Value) :
    (text repr v).utf8ByteSize = size repr v := by
  have hchars (cs : List Char) :
      (String.ofList cs).utf8ByteSize = (cs.map Char.utf8Size).sum := by
    induction cs with
    | nil => rfl
    | cons c cs ih =>
      rw [String.ofList_cons, String.utf8ByteSize_append, String.utf8ByteSize_singleton, ih,
        List.map_cons, List.sum_cons]
  exact hchars _

theorem utf8ByteSize_text_le (repr : ℚ → List Char) (v : Value) :
    (text repr v).utf8ByteSize ≤ 4 * (print repr v).length := by
  have hsum (cs : List Char) : (cs.map Char.utf8Size).sum ≤ 4 * cs.length := by
    induction cs with
    | nil => exact Nat.le_refl _
    | cons c cs ih =>
      have hc := c.utf8Size_le_four
      rw [List.map_cons, List.sum_cons, List.length_cons]
      omega
  rw [utf8ByteSize_text]
  exact hsum _

end JsonLine

end AutoVPN
