import Mathlib.Data.List.Basic
import Mathlib.Data.String.Basic

/-! Decimal numerals in texts, and the parts of a text at its separators. -/

namespace AutoVPN

theorem isDigit_of_mem_toString {n : Nat} {c : Char} (h : c ∈ (toString n).toList) :
    c.isDigit = true := by
  rw [Nat.toString_eq_repr, Nat.toList_repr] at h
  exact Nat.isDigit_of_mem_toDigits (by decide) (by decide) h

theorem toString_ne_nil (n : Nat) : (toString n).toList ≠ [] := by
  rw [Nat.toString_eq_repr, Nat.toList_repr]
  exact Nat.toDigits_ne_nil

theorem toString_injective {m n : Nat} (h : toString m = toString n) : m = n := by
  have hd := congrArg (fun text => Nat.ofDigitChars 10 text.toList 0) h
  simpa only [Nat.toString_eq_repr, Nat.toList_repr, Nat.ofDigitChars_ten_toDigits] using hd

theorem toString_negSucc (n : Nat) :
    (toString (Int.negSucc n)).toList = '-' :: (toString (n + 1)).toList := by
  rw [show toString (Int.negSucc n) = "-" ++ toString (n + 1) from rfl, String.toList_append]
  rfl

theorem intToString_class {n : Int} {c : Char} (h : c ∈ (toString n).toList) :
    (c.isDigit || c == '-') = true := by
  rw [Bool.or_eq_true, beq_iff_eq]
  cases n with
  | ofNat n => exact Or.inl (isDigit_of_mem_toString h)
  | negSucc n =>
    rw [toString_negSucc] at h
    exact (List.mem_cons.mp h).symm.imp_left isDigit_of_mem_toString

theorem intToString_ne_nil (n : Int) : (toString n).toList ≠ [] := by
  cases n with
  | ofNat n => exact toString_ne_nil n
  | negSucc n =>
    rw [toString_negSucc]
    exact List.cons_ne_nil _ _

/-- No part has a separator in it. -/
theorem mem_of_mem_splitOnP {α : Type} {p : α → Bool} {x : α} {xs part : List α}
    (hp : part ∈ xs.splitOnP p) (hx : x ∈ part) : x ∈ xs ∧ p x = false := by
  induction xs generalizing part with
  | nil =>
    rw [List.splitOnP_nil, List.mem_singleton] at hp
    exact absurd (hp ▸ hx) List.not_mem_nil
  | cons y xs ih =>
    rw [List.splitOnP_cons_eq_if_modifyHead] at hp
    split at hp
    · rcases List.mem_cons.mp hp with rfl | hp
      · exact absurd hx List.not_mem_nil
      · exact (ih hp hx).imp_left (List.mem_cons_of_mem y)
    · rename_i hy
      obtain ⟨first, parts, hparts⟩ := List.exists_cons_of_ne_nil (List.splitOnP_ne_nil p xs)
      rw [hparts, List.modifyHead_cons] at hp
      rw [hparts] at ih
      rcases List.mem_cons.mp hp with rfl | hp
      · rcases List.mem_cons.mp hx with rfl | hx
        · exact ⟨List.mem_cons_self, Bool.not_eq_true _ ▸ hy⟩
        · exact (ih List.mem_cons_self hx).imp_left (List.mem_cons_of_mem y)
      · exact (ih (List.mem_cons_of_mem _ hp) hx).imp_left (List.mem_cons_of_mem y)

/-- What follows the last separator is determined by the whole. -/
theorem append_separator_right_inj {α : Type} {x : α} {a b d e : List α} (hd : x ∉ d)
    (he : x ∉ e) (h : a ++ x :: d = b ++ x :: e) : d = e := by
  rcases List.append_eq_append_iff.1 h with ⟨c, -, hc⟩ | ⟨c, -, hc⟩
  · cases c with
    | nil => exact (List.cons.inj hc).2
    | cons y c =>
      have hx : d = c ++ x :: e := (List.cons.inj hc).2
      exact absurd (hx ▸ by simp) hd
  · cases c with
    | nil => exact (List.cons.inj hc).2.symm
    | cons y c =>
      have hx : e = c ++ x :: d := (List.cons.inj hc).2
      exact absurd (hx ▸ by simp) he

end AutoVPN
