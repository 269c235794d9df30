import AutoVPN.Lib.Value

/-! The tokens of a JSON text. What is printed is read back as it was, so that two values with one
text are the same. -/

namespace AutoVPN

namespace Json

inductive Token
  | openObject
  | closeObject
  | openArray
  | closeArray
  | comma
  | colon
  | null
  | bool (b : Bool)
  | int (n : Int)
  | double (d : ℚ)
  | infinite (negative : Bool)
  | string (s : String)
  deriving DecidableEq

/-! Printing; the members after the first one follow a comma. -/

mutual

def print : Value → List Token
  | .null => [.null]
  | .bool b => [.bool b]
  | .int n => [.int n]
  | .double d => [.double d]
  | .infinite negative => [.infinite negative]
  | .string s => [.string s]
  | .array items => .openArray :: printItems true items
  | .object fields => .openObject :: printFields true fields

def printItems (first : Bool) : List Value → List Token
  | [] => [.closeArray]
  | item :: items => (if first then [] else [.comma]) ++ (print item ++ printItems false items)

def printFields (first : Bool) : List (String × Value) → List Token
  | [] => [.closeObject]
  | (key, value) :: fields =>
    (if first then [] else [.comma]) ++ (.string key :: .colon :: (print value ++
      printFields false fields))

end

/-! Reading, with a bound for the nesting and the members. -/

def separated (first : Bool) (ts : List Token) : Option (List Token) :=
  match first, ts with
  | true, ts => some ts
  | false, .comma :: rest => some rest
  | false, _ => none

mutual

def readValue : Nat → List Token → Option (Value × List Token)
  | 0, _ => none
  | _ + 1, .null :: rest => some (.null, rest)
  | _ + 1, .bool b :: rest => some (.bool b, rest)
  | _ + 1, .int n :: rest => some (.int n, rest)
  | _ + 1, .double d :: rest => some (.double d, rest)
  | _ + 1, .infinite negative :: rest => some (.infinite negative, rest)
  | _ + 1, .string s :: rest => some (.string s, rest)
  | fuel + 1, .openArray :: rest => (readItems fuel true rest).map fun r => (.array r.1, r.2)
  | fuel + 1, .openObject :: rest => (readFields fuel true rest).map fun r => (.object r.1, r.2)
  | _ + 1, _ => none

def readItems : Nat → Bool → List Token → Option (List Value × List Token)
  | 0, _, _ => none
  | _ + 1, _, .closeArray :: rest => some ([], rest)
  | fuel + 1, first, ts =>
    (separated first ts).bind fun ts => (readValue fuel ts).bind fun item =>
      (readItems fuel false item.2).map fun items => (item.1 :: items.1, items.2)

def readFields : Nat → Bool → List Token → Option (List (String × Value) × List Token)
  | 0, _, _ => none
  | _ + 1, _, .closeObject :: rest => some ([], rest)
  | fuel + 1, first, ts =>
    (separated first ts).bind fun ts =>
      match ts with
      | .string key :: .colon :: ts => (readValue fuel ts).bind fun value =>
        (readFields fuel false value.2).map fun fields => ((key, value.1) :: fields.1, fields.2)
      | _ => none

end

/-- The value of a whole text. -/
def parse (ts : List Token) : Option Value :=
  match readValue ts.length ts with
  | some (v, []) => some v
  | _ => none

theorem print_ne_nil (v : Value) : print v ≠ [] := by
  cases v <;> simp [print]

theorem print_length_pos (v : Value) : 0 < (print v).length := List.length_pos_iff.mpr (print_ne_nil v)

theorem printItems_length_pos (first : Bool) (items : List Value) :
    0 < (printItems first items).length := by
  cases items with
  | nil => simp [printItems]
  | cons item items =>
    have := print_length_pos item
    simp only [printItems, List.length_append]
    omega

theorem printFields_length_pos (first : Bool) (fields : List (String × Value)) :
    0 < (printFields first fields).length := by
  cases fields with
  | nil => simp [printFields]
  | cons f fields =>
    simp only [printFields, List.length_append, List.length_cons]
    omega

/-- No value begins as an array ends. -/
theorem print_head (v : Value) : (print v).head? ≠ some .closeArray := by
  cases v <;> simp [print]

theorem readItems_cons {fuel : Nat} {first : Bool} {ts : List Token}
    (h : ts.head? ≠ some .closeArray) : readItems (fuel + 1) first ts =
      (separated first ts).bind fun ts => (readValue fuel ts).bind fun item =>
        (readItems fuel false item.2).map fun items => (item.1 :: items.1, items.2) := by
  rw [readItems]
  rintro rest rfl
  exact h rfl

theorem readFields_cons {fuel : Nat} {first : Bool} {ts : List Token}
    (h : ts.head? ≠ some .closeObject) : readFields (fuel + 1) first ts =
      (separated first ts).bind fun ts =>
        match ts with
        | .string key :: .colon :: ts => (readValue fuel ts).bind fun value =>
          (readFields fuel false value.2).map fun fields => ((key, value.1) :: fields.1, fields.2)
        | _ => none := by
  rw [readFields]
  rintro rest rfl
  exact h rfl

theorem separated_print (first : Bool) (ts : List Token) :
    separated first ((if first then [] else [.comma]) ++ ts) = some ts := by
  cases first <;> rfl

/-- What is printed is read back, whatever follows it. The induction is on the bound, which every
token of the text pays for. -/
theorem read_print (fuel : Nat) :
    (∀ v rest, (print v).length ≤ fuel → readValue fuel (print v ++ rest) = some (v, rest)) ∧
    (∀ first items rest, (printItems first items).length ≤ fuel →
      readItems fuel first (printItems first items ++ rest) = some (items, rest)) ∧
    ∀ first fields rest, (printFields first fields).length ≤ fuel →
      readFields fuel first (printFields first fields ++ rest) = some (fields, rest) := by
  induction fuel with
  | zero =>
    refine ⟨fun v rest h => ?_, fun first items rest h => ?_, fun first fields rest h => ?_⟩
    · exact absurd h (Nat.not_le.mpr (print_length_pos v))
    · exact absurd h (Nat.not_le.mpr (printItems_length_pos first items))
    · exact absurd h (Nat.not_le.mpr (printFields_length_pos first fields))
  | succ fuel ih =>
    obtain ⟨hvalue, hitems, hfields⟩ := ih
    refine ⟨fun v rest h => ?_, fun first items rest h => ?_, fun first fields rest h => ?_⟩
    · cases v with
      | array items =>
        simp only [print, List.length_cons, Nat.add_le_add_iff_right] at h
        simp only [print, List.cons_append, readValue, hitems true items rest h, Option.map_some]
      | object fields =>
        simp only [print, List.length_cons, Nat.add_le_add_iff_right] at h
        simp only [print, List.cons_append, readValue, hfields true fields rest h, Option.map_some]
      | _ => rfl
    · cases items with
      | nil => cases first <;> rfl
      | cons item items =>
        have hitem := print_length_pos item
        have hrest := printItems_length_pos false items
        simp only [printItems, List.length_append] at h
        have hhead : (printItems first (item :: items) ++ rest).head? ≠ some .closeArray := by
          obtain ⟨t, ts, hts⟩ := List.exists_cons_of_ne_nil (print_ne_nil item)
          have hne := print_head item
          rw [hts] at hne
          cases first
          · simp [printItems]
          · simpa [printItems, hts] using hne
        rw [readItems_cons hhead]
        simp only [printItems, List.append_assoc, separated_print, Option.bind_some]
        rw [hvalue item _ (by omega), Option.bind_some, hitems false items rest (by omega),
          Option.map_some]
    · cases fields with
      | nil => cases first <;> rfl
      | cons f fields =>
        obtain ⟨key, value⟩ := f
        have hitem := print_length_pos value
        have hrest := printFields_length_pos false fields
        simp only [printFields, List.length_append, List.length_cons] at h
        have hhead : (printFields first ((key, value) :: fields) ++ rest).head? ≠
            some .closeObject := by
          cases first <;> simp [printFields]
        rw [readFields_cons hhead]
        simp only [printFields, List.append_assoc, List.cons_append, separated_print,
          Option.bind_some]
        rw [hvalue value _ (by omega), Option.bind_some, hfields false fields rest (by omega),
          Option.map_some]

theorem parse_print (v : Value) : parse (print v) = some v := by
  have hread := (read_print (print v).length).1 v [] (Nat.le_refl _)
  rw [List.append_nil] at hread
  rw [parse, hread]

theorem print_injective : Function.Injective print := by
  intro v w h
  have hparse := congrArg parse h
  rw [parse_print, parse_print] at hparse
  exact Option.some.inj hparse

end Json

end AutoVPN
