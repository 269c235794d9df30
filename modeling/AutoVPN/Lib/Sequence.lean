import AutoVPN.Lib.Budget

/-! Sequences of programs: what a completed execution says of its parts, and what calls that
preserve an invariant amount to. -/

namespace AutoVPN

namespace Program

universe u v w

variable {ι : Type u} {ρ : ι → Type v} {α β : Type w} {ε : Type w} {σ : Type*}
  {step : (i : ι) → σ → ρ i → σ → Prop} {G : ι → σ → Prop} {P : ι → Prop}

/-- A completed execution of a sequence completes both of its parts. -/
theorem Exec.of_bind {p : Program ι ρ α} {f : α → Program ι ρ β} {s t : σ}
    {tr : List (Event ι ρ)} {b : β} (he : Exec step (p >>= f) s tr t (some b)) :
    ∃ a u first rest, Exec step p s first u (some a) ∧ Exec step (f a) u rest t (some b) ∧
      tr = first ++ rest := by
  induction p generalizing s tr with
  | done a => exact ⟨a, s, [], tr, .done a s, he, rfl⟩
  | call i next ih =>
    rw [call_bind] at he
    cases he with
    | @call _ _ _ u _ r tr _ hs hnext =>
      obtain ⟨a, v, first, rest, hfirst, hrest, rfl⟩ := ih r hnext
      exact ⟨a, v, ⟨i, r⟩ :: first, rest, .call hs hfirst, hrest, rfl⟩

/-- A completed sequence has completed its first part, which has raised what the whole raises
unless it returned. -/
theorem Exec.of_raising_bind {x : Raising ε ι ρ α} {f : α → Raising ε ι ρ β} {s t : σ}
    {tr : List (Event ι ρ)} {r : Except ε β} (he : Exec step (x >>= f).run s tr t (some r)) :
    (∃ a u first rest, Exec step x.run s first u (some (.ok a)) ∧
      Exec step (f a).run u rest t (some r) ∧ tr = first ++ rest) ∨
    ∃ e, r = .error e ∧ Exec step x.run s tr t (some (.error e)) := by
  obtain ⟨outcome, u, first, rest, hfirst, hrest, rfl⟩ := he.of_bind
  cases outcome with
  | ok a => exact .inl ⟨a, u, first, rest, hfirst, hrest, rfl⟩
  | error e =>
    have hdone : Exec step (.done (.error e) : Program ι ρ (Except ε β)) u rest t (some r) := hrest
    cases hdone with
    | done => exact .inr ⟨e, rfl, by rwa [List.append_nil]⟩

/-- A program whose calls are allowed and preserve `I` ends with `I`, returned or raised. -/
theorem Uses.guarded {I : σ → Prop} {x : Raising ε ι ρ α} (h : Uses P x.run)
    (hI : ∀ i s r s', P i → I s → step i s r s' → I s') (hG : ∀ i s, P i → I s → G i s) {s : σ}
    (hs : I s) : Sat step G (Ends (fun _ => I) (fun _ => I)) x.run s := by
  have hrun : ∀ (p : Program ι ρ (Except ε α)) s, Uses P p → I s → Sat step G (fun _ => I) p s := by
    intro p
    induction p with
    | done a => exact fun s _ hs => hs
    | call i next ih =>
      exact fun s h hs => ⟨hG i s h.1 hs, fun r s' hstep =>
        ih r s' (h.2 r) (hI i s r s' h.1 hs hstep)⟩
  refine (hrun x.run s h hs).post fun r s hr => ?_
  cases r with
  | ok a => exact hr
  | error e => exact hr

end Program

end AutoVPN
