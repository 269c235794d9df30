import Mathlib.Data.List.Basic

/-! Loops that may fail: what each step keeps holds at the end of a loop that does not. -/

namespace AutoVPN

variable {ε σ α : Type}

/-- What holds after the items before one holds after it also; `l` is what the loop runs over. -/
theorem foldlM_invariant {f : σ → α → Except ε σ} {l : List α} {I : List α → σ → Prop}
    (hstep : ∀ pre a s s', a ∈ l → I pre s → f s a = .ok s' → I (pre ++ [a]) s') {s s' : σ}
    (h0 : I [] s) (h : l.foldlM f s = .ok s') : I l s' := by
  have hgeneral (pre rest : List α) (s : σ) (hsub : ∀ a ∈ rest, a ∈ l) (hI : I pre s)
      (h : rest.foldlM f s = .ok s') : I (pre ++ rest) s' := by
    induction rest generalizing pre s with
    | nil =>
      obtain rfl := Except.ok.inj h
      simpa using hI
    | cons a rest ih =>
      rw [List.foldlM_cons] at h
      cases ha : f s a with
      | error e =>
        rw [ha] at h
        cases h
      | ok s₁ =>
        rw [ha] at h
        have hnext := ih (pre ++ [a]) s₁ (fun b hb => hsub b (List.mem_cons_of_mem _ hb))
          (hstep pre a s s₁ (hsub a List.mem_cons_self) hI ha) h
        simpa using hnext
  simpa using hgeneral [] l s (fun _ ha => ha) h0 h

end AutoVPN
