import Mathlib.Data.List.Basic

/-! Lists of rules of which the first that matches decides, or changes what is decided on. -/

namespace AutoVPN.FirstMatch

variable {ρ γ β : Type*} (matching : ρ → γ → Bool) (act : ρ → γ → γ ⊕ β)

/-- A rule that matches ends the evaluation with a verdict, or lets it go on with a changed
subject. -/
def run (final : β) : List ρ → γ → β
  | [], _ => final
  | r :: rs, c =>
    if matching r c then
      match act r c with
      | .inl c' => run final rs c'
      | .inr b => b
    else run final rs c

variable {matching act} {final : β} {r : ρ} {rs : List ρ} {c : γ}

theorem run_skip (h : matching r c = false) :
    run matching act final (r :: rs) c = run matching act final rs c := by
  simp [run, h]

theorem run_stop {b : β} (h : matching r c = true) (ha : act r c = .inr b) :
    run matching act final (r :: rs) c = b := by
  simp [run, h, ha]

theorem run_pass {c' : γ} (h : matching r c = true) (ha : act r c = .inl c') :
    run matching act final (r :: rs) c = run matching act final rs c' := by
  simp [run, h, ha]

theorem run_skip_all (h : ∀ r ∈ rs, matching r c = false) (rest : List ρ) :
    run matching act final (rs ++ rest) c = run matching act final rest c := by
  induction rs with
  | nil => rfl
  | cons r rs ih =>
    rw [List.cons_append, run_skip (h r List.mem_cons_self)]
    exact ih fun r hr => h r (List.mem_cons_of_mem _ hr)

/-- Rules that all decide alike. -/
theorem run_uniform {b : β} (ha : ∀ r ∈ rs, act r c = .inr b) (rest : List ρ) :
    run matching act final (rs ++ rest) c =
      if rs.any (matching · c) then b else run matching act final rest c := by
  induction rs with
  | nil => rfl
  | cons r rs ih =>
    have hrest := ih fun q hq => ha q (List.mem_cons_of_mem _ hq)
    rw [List.cons_append, List.any_cons]
    cases hr : matching r c with
    | true => exact run_stop hr (ha r List.mem_cons_self)
    | false => rw [run_skip hr, hrest, Bool.false_or]

/-- Where a rule of the first part decides as soon as it matches, and all decide alike, it is
enough to know that one matches. -/
theorem run_stop_any {b : β} {r : ρ} (hr : r ∈ rs) (h : matching r c = true)
    (ha : ∀ r ∈ rs, matching r c = true → act r c = .inr b) (rest : List ρ) :
    run matching act final (rs ++ rest) c = b := by
  induction rs with
  | nil => cases hr
  | cons q rs ih =>
    rw [List.cons_append]
    cases hq : matching q c with
    | true => exact run_stop hq (ha q List.mem_cons_self hq)
    | false =>
      rw [run_skip hq]
      refine ih ?_ fun r hr => ha r (List.mem_cons_of_mem _ hr)
      rcases List.mem_cons.mp hr with rfl | hr
      · rw [h] at hq
        cases hq
      · exact hr

end AutoVPN.FirstMatch
