import AutoVPN.Lib.Value

/-! Assignments to the keys of a mapping. -/

namespace AutoVPN

namespace Value

/-- The assignment to a key of a mapping. -/
def put (v : Value) (key : String) (x : Value) : Value :=
  match v with
  | object fields =>
    if fields.any fun f => f.1 == key then
      object (fields.map fun f => if f.1 == key then (key, x) else f)
    else object (fields ++ [(key, x)])
  | v => v

def erase (v : Value) (key : String) : Value :=
  match v with
  | object fields => object (fields.filter fun f => f.1 != key)
  | v => v

/-- The key is in the mapping. -/
def has (v : Value) (key : String) : Bool := v.fields.any fun f => f.1 == key

variable {v x : Value} {key other : String}

theorem isObject_put : (v.put key x).isObject = v.isObject := by
  unfold put
  split
  · split <;> rfl
  · rfl

theorem has_object_put (h : v.isObject = true) (other : String) :
    (v.put key x).has other = (key == other || v.has other) := by
  cases v with
  | object fields =>
    unfold put
    dsimp only
    split
    · rename_i hmem
      simp only [has, Value.fields, List.any_map, Function.comp_def]
      by_cases he : key = other
      · subst he
        simp only [beq_self_eq_true, Bool.true_or, List.any_eq_true]
        obtain ⟨f, hf, hk⟩ := List.any_eq_true.mp hmem
        exact ⟨f, hf, by rw [if_pos hk]; exact beq_self_eq_true key⟩
      · have hne : (key == other) = false := by simpa using he
        rw [hne, Bool.false_or]
        refine congrArg (fields.any ·) (funext fun f => ?_)
        split
        · rename_i hk
          rw [beq_iff_eq.mp hk]
        · rfl
    · simp only [has, Value.fields, List.any_append, List.any_cons, List.any_nil, Bool.or_false]
      exact Bool.or_comm _ _
  | _ => cases h

theorem lookup_map_put (fields : List (String × Value))
    (hk : fields.any (fun f => f.1 == key) = true) :
    (fields.map fun f => if f.1 == key then (key, x) else f).lookup key = some x := by
  induction fields with
  | nil => cases hk
  | cons f fields ih =>
    rw [List.map_cons]
    by_cases hf : f.1 == key
    · rw [if_pos hf]
      exact List.lookup_cons_self
    · rw [if_neg hf]
      have hne : (key == f.1) = false := beq_eq_false_iff_ne.mpr fun h => hf (beq_iff_eq.mpr h.symm)
      rw [List.lookup_cons, hne]
      refine ih ?_
      simpa [hf] using hk

theorem get_put_self (h : v.isObject = true) : (v.put key x).get key = x := by
  cases v with
  | object fields =>
    unfold put
    dsimp only
    split
    · rename_i hk
      rw [get, lookup_map_put fields hk]
      rfl
    · rename_i hk
      have hnone : fields.lookup key = none := by
        rw [List.lookup_eq_none_iff]
        intro f hf
        rw [Bool.not_eq_true, List.any_eq_false] at hk
        exact bne_iff_ne.mpr fun h => hk f hf (beq_iff_eq.mpr h.symm)
      rw [get, List.lookup_append, hnone, Option.none_or, List.lookup_cons_self]
      rfl
  | _ => cases h

theorem lookup_map_other (fields : List (String × Value)) (hne : other ≠ key) :
    (fields.map fun f => if f.1 == key then (key, x) else f).lookup other =
      fields.lookup other := by
  induction fields with
  | nil => rfl
  | cons f fields ih =>
    rw [List.map_cons, List.lookup_cons, List.lookup_cons, ih]
    by_cases hf : f.1 == key
    · have hk : (other == key) = false := beq_eq_false_iff_ne.mpr hne
      rw [if_pos hf, beq_iff_eq.mp hf, hk]
    · rw [if_neg hf]

theorem get_put_other (hne : other ≠ key) : (v.put key x).get other = v.get other := by
  cases v with
  | object fields =>
    unfold put
    dsimp only
    split
    · rw [get, lookup_map_other fields hne]
      rfl
    · have hk : (other == key) = false := by simpa using hne
      rw [get, List.lookup_append, List.lookup_cons, hk, List.lookup_nil, Option.or_none]
      rfl
  | _ => rfl

end Value

end AutoVPN
