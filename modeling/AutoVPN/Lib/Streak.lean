import Mathlib.Data.List.Basic

/-! When the failure that a sequence of observations ends with began. -/

namespace AutoVPN

/-- What an observation says of a failure: it goes on, it is over, or nothing. -/
inductive Sign
  | fails
  | ends
  | silent
deriving DecidableEq

namespace Streak

variable {τ : Type*} {l : List (Sign × τ)} {t : τ}

/-- The failure began at the first failing observation that no other has ended. -/
def Since (l : List (Sign × τ)) (t : τ) : Prop :=
  ∃ before after, l = before ++ (.fails, t) :: after ∧ (∀ x ∈ after, x.1 ≠ .ends) ∧
    ∀ older newer u, before = older ++ (.fails, u) :: newer → ∃ x ∈ newer, x.1 = .ends

/-- Every failure has been ended. -/
def Over (l : List (Sign × τ)) : Prop :=
  ∀ before after t, l = before ++ (.fails, t) :: after → ∃ x ∈ after, x.1 = .ends

/-- The failure that the observations end with, where they end with one. -/
def Begun (l : List (Sign × τ)) : Option τ → Prop
  | none => Over l
  | some t => Since l t

theorem begun_nil : Begun ([] : List (Sign × τ)) none := fun before after t h => by simp at h

theorem begun_silent {o : Option τ} (h : Begun l o) (t : τ) : Begun (l ++ [(.silent, t)]) o := by
  cases o with
  | none =>
    intro before after u hsplit
    rcases List.eq_nil_or_concat after with rfl | ⟨rest, z, rfl⟩
    · have hlast := (List.append_inj' hsplit rfl).2
      simp at hlast
    · rw [List.concat_eq_append, ← List.cons_append, ← List.append_assoc] at hsplit
      obtain ⟨x, hx, he⟩ := h before rest u (List.append_inj' hsplit rfl).1
      exact ⟨x, by simp [hx], he⟩
  | some u =>
    obtain ⟨before, after, rfl, hafter, hbefore⟩ := h
    refine ⟨before, after ++ [(.silent, t)], by simp, fun x hx => ?_, hbefore⟩
    rcases List.mem_append.mp hx with hx | hx
    · exact hafter x hx
    · rw [List.mem_singleton.mp hx]
      nofun

theorem begun_ends (l : List (Sign × τ)) (t : τ) : Begun (l ++ [(.ends, t)]) none := by
  intro before after u hsplit
  rcases List.eq_nil_or_concat after with rfl | ⟨rest, z, rfl⟩
  · have hlast := (List.append_inj' hsplit rfl).2
    simp at hlast
  · rw [List.concat_eq_append, ← List.cons_append, ← List.append_assoc] at hsplit
    have hlast := (List.append_inj' hsplit rfl).2
    obtain rfl : (Sign.ends, t) = z := by simpa using hlast
    exact ⟨(.ends, t), by simp, rfl⟩

theorem begun_fails {o : Option τ} (h : Begun l o) (t : τ) :
    Begun (l ++ [(.fails, t)]) (some (o.getD t)) := by
  cases o with
  | none => exact ⟨l, [], rfl, by simp, h⟩
  | some u =>
    obtain ⟨before, after, rfl, hafter, hbefore⟩ := h
    refine ⟨before, after ++ [(.fails, t)], by simp, fun x hx => ?_, hbefore⟩
    rcases List.mem_append.mp hx with hx | hx
    · exact hafter x hx
    · rw [List.mem_singleton.mp hx]
      nofun

end Streak

end AutoVPN
