import Mathlib.Data.List.Infix

/-! The patterns of `LIKE`: `%` stands for any text, `_` for one character, and a letter for itself in
either case. -/

namespace AutoVPN

namespace Sql

def like : List Char → List Char → Bool
  | [], s => s.isEmpty
  | c :: p, s =>
    if c = '%' then s.tails.any (like p)
    else
      match s with
      | [] => false
      | d :: s => (c == '_' || c.toLower == d.toLower) && like p s

/-- A text that begins with the word differs from the pattern before its first `%`. -/
def clashes : List Char → List Char → Bool
  | c :: p, d :: word =>
    c != '%' && ((c != '_' && c.toLower != d.toLower) || clashes p word)
  | _, _ => false

theorem like_of_clashes {p word : List Char} (h : clashes p word = true) (rest : List Char) :
    like p (word ++ rest) = false := by
  induction p generalizing word with
  | nil => simp [clashes] at h
  | cons c p ih =>
    cases word with
    | nil => simp [clashes] at h
    | cons d word =>
      simp only [clashes, Bool.and_eq_true, Bool.or_eq_true, bne_iff_ne] at h
      obtain ⟨hpercent, h⟩ := h
      rw [List.cons_append]
      unfold like
      rw [if_neg hpercent]
      rcases h with ⟨hunderscore, hcase⟩ | h
      · simp [hunderscore, hcase]
      · simp [ih h]

theorem like_percent (s : List Char) : like ['%'] s = true := by
  unfold like
  rw [if_pos rfl]
  exact List.any_eq_true.mpr ⟨[], (List.mem_tails _ _).mpr List.nil_suffix, rfl⟩

/-- A text matches a word and `%` when it begins with the word. -/
theorem like_append_percent {word : List Char} (h : '%' ∉ word) (rest : List Char) :
    like (word ++ ['%']) (word ++ rest) = true := by
  induction word with
  | nil => exact like_percent rest
  | cons c word ih =>
    have hc : c ≠ '%' := fun he => h (he ▸ List.mem_cons_self)
    rw [List.cons_append, List.cons_append]
    unfold like
    rw [if_neg hc]
    simp [ih fun hm => h (List.mem_cons_of_mem _ hm)]

end Sql

end AutoVPN
