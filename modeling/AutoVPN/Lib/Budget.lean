import AutoVPN.Lib.Pool

/-! Tasks that must earn a token before they may spend it. However the tasks of a
pool interleave and wherever they stop, they spend no more than the state has issued. -/

namespace AutoVPN

namespace Program

universe u v w

variable {ι : Type u} {ρ : ι → Type v} {α β : Type w} {ε : Type w}

/-- Every call of the program is one of `P`. -/
def Uses (P : ι → Prop) : Program ι ρ α → Prop
  | .done _ => True
  | .call i next => P i ∧ ∀ r, Uses P (next r)

variable {P : ι → Prop}

theorem Uses.bind {p : Program ι ρ α} {f : α → Program ι ρ β} (h : Uses P p)
    (hf : ∀ a, Uses P (f a)) : Uses P (p >>= f) := by
  induction p with
  | done a => exact hf a
  | call i next ih => exact ⟨h.1, fun r => ih r (h.2 r)⟩

theorem Uses.sat {σ : Type*} {step : (i : ι) → σ → ρ i → σ → Prop} {G : ι → σ → Prop}
    {p : Program ι ρ α} (h : Uses P p) (hG : ∀ i s, P i → G i s) (s : σ) :
    Sat step G (fun _ _ => True) p s := by
  induction p generalizing s with
  | done a => trivial
  | call i next ih => exact ⟨hG i s h.1, fun r s' _ => ih r (h.2 r) s'⟩

/-- What every call preserves holds all along. -/
theorem Uses.keeps {σ : Type*} {step : (i : ι) → σ → ρ i → σ → Prop} {I : σ → Prop}
    {p : Program ι ρ α} (h : Uses P p) (hI : ∀ i s r s', P i → I s → step i s r s' → I s') {s : σ}
    (hs : I s) : Sat step (fun _ => I) (fun _ => I) p s := by
  induction p generalizing s with
  | done a => exact hs
  | call i next ih => exact ⟨hs, fun r s' hstep => ih r (h.2 r) (hI i s r s' h.1 hs hstep)⟩

/-! Programs that may raise. -/

abbrev Raising (ε : Type w) (ι : Type u) (ρ : ι → Type v) (α : Type w) :=
  ExceptT ε (Program ι ρ) α

theorem uses_pure (a : α) : Uses P (pure a : Raising ε ι ρ α).run := trivial

theorem uses_throw (e : ε) : Uses P (throw e : Raising ε ι ρ α).run := trivial

theorem uses_bind {x : Raising ε ι ρ α} {f : α → Raising ε ι ρ β} (h : Uses P x.run)
    (hf : ∀ a, Uses P (f a).run) : Uses P (x >>= f).run := by
  refine Uses.bind h fun r => ?_
  cases r with
  | ok a => exact hf a
  | error e => trivial

theorem uses_tryCatch {x : Raising ε ι ρ α} {f : ε → Raising ε ι ρ α} (h : Uses P x.run)
    (hf : ∀ e, Uses P (f e).run) : Uses P (tryCatch x f).run := by
  refine Uses.bind h fun r => ?_
  cases r with
  | ok a => trivial
  | error e => exact hf e

/-- The outcome of a program, raised or returned. -/
def attempt (x : Raising ε ι ρ α) : Raising ε ι ρ (Except ε α) :=
  ExceptT.mk (x.run >>= fun r => .done (.ok r))

theorem uses_attempt {x : Raising ε ι ρ α} (h : Uses P x.run) : Uses P (attempt x).run :=
  Uses.bind h fun _ => trivial

variable {σ : Type*} {step : (i : ι) → σ → ρ i → σ → Prop} {G : ι → σ → Prop}

/-- The rest runs when the first part returns; what it raises is raised on. -/
theorem sat_bind {x : Raising ε ι ρ α} {f : α → Raising ε ι ρ β} {s : σ}
    {Q : Except ε β → σ → Prop} {R : α → σ → Prop}
    (h : Sat step G (fun r s => ∀ a, r = .ok a → R a s) x.run s)
    (hQ : ∀ e s, Q (.error e) s) (hf : ∀ a s, R a s → Sat step G Q (f a).run s) :
    Sat step G Q (x >>= f).run s := by
  refine Sat.bind (h.post fun r s hr => ?_)
  cases r with
  | ok a => exact hf a s (hr a rfl)
  | error e => exact hQ e s

/-- The program returns where `R` holds and raises where `E` does. -/
def Ends (R : α → σ → Prop) (E : ε → σ → Prop) : Except ε α → σ → Prop
  | .ok a, s => R a s
  | .error e, s => E e s

theorem ends_bind {x : Raising ε ι ρ α} {f : α → Raising ε ι ρ β} {s : σ} {R : α → σ → Prop}
    {R' : β → σ → Prop} {E E' : ε → σ → Prop} (h : Sat step G (Ends R E) x.run s)
    (hE : ∀ e s, E e s → E' e s) (hf : ∀ a s, R a s → Sat step G (Ends R' E') (f a).run s) :
    Sat step G (Ends R' E') (x >>= f).run s := by
  refine Sat.bind (h.post fun r s hr => ?_)
  cases r with
  | ok a => exact hf a s hr
  | error e => exact hE e s hr

theorem ends_tryCatch {x : Raising ε ι ρ α} {f : ε → Raising ε ι ρ α} {s : σ} {R : α → σ → Prop}
    {E E' : ε → σ → Prop} (h : Sat step G (Ends R E) x.run s)
    (hf : ∀ e s, E e s → Sat step G (Ends R E') (f e).run s) :
    Sat step G (Ends R E') (tryCatch x f).run s := by
  refine Sat.bind (h.post fun r s hr => ?_)
  cases r with
  | ok a => exact hr
  | error e => exact hf e s hr

/-- A program whose calls preserve `I` ends with `I`, returned or raised. -/
theorem Uses.ends {I : σ → Prop} {x : Raising ε ι ρ α} (h : Uses P x.run)
    (hI : ∀ i s r s', P i → I s → step i s r s' → I s') (hG : ∀ i s, I s → G i s) {s : σ}
    (hs : I s) : Sat step G (Ends (fun _ => I) (fun _ => I)) x.run s := by
  refine (h.keeps hI hs).mono hG fun r s hr => ?_
  cases r with
  | ok a => exact hr
  | error e => exact hr

/-- The tokens that a task holds, through its calls. -/
def budgetStep (gain : (i : ι) → ρ i → Nat) (cost : ι → Nat) :
    (i : ι) → Nat → ρ i → Nat → Prop :=
  fun i n r n' => n' = n - cost i + gain i r

/-- A task with `n` tokens makes allowed calls only, and spends what it has. -/
def Spends (gain : (i : ι) → ρ i → Nat) (cost : ι → Nat) (allowed : ι → Prop) (n : Nat)
    (p : Program ι ρ α) : Prop :=
  Sat (budgetStep gain cost) (fun i n => cost i ≤ n ∧ allowed i) (fun _ _ => True) p n

end Program

namespace Pool

universe u v w

variable {ι : Type u} {ρ : ι → Type v} {α : Type w} {σ τ : Type*}

/-- What the state issues and what is paid to it, along every step. -/
structure Accounts (step : τ → (i : ι) → σ → ρ i → σ → Prop) (moves : σ → σ → Prop)
    (arrives : τ → σ → Prop) (program : τ → Program ι ρ α) (gain : τ → (i : ι) → ρ i → Nat)
    (cost : τ → ι → Nat) (allowed : τ → ι → Prop) (paid issued : σ → Nat) : Prop where
  move : ∀ {s s'}, moves s s' → paid s' = paid s ∧ issued s ≤ issued s'
  call : ∀ {t i s r s'}, allowed t i → step t i s r s' →
    paid s' = paid s + cost t i ∧ issued s + gain t i r ≤ issued s'
  start : ∀ t, Program.Spends (gain t) (cost t) (allowed t) 0 (program t)

/-- The tokens that the tasks hold together. -/
inductive Holding (gain : τ → (i : ι) → ρ i → Nat) (cost : τ → ι → Nat)
    (allowed : τ → ι → Prop) : List (τ × Program ι ρ α) → Nat → Prop
  | nil : Holding gain cost allowed [] 0
  | cons {t : τ} {p : Program ι ρ α} {tasks : List (τ × Program ι ρ α)} {n m : Nat}
    (h : Program.Spends (gain t) (cost t) (allowed t) n p)
    (rest : Holding gain cost allowed tasks m) : Holding gain cost allowed ((t, p) :: tasks) (n + m)

variable {step : τ → (i : ι) → σ → ρ i → σ → Prop} {moves : σ → σ → Prop}
  {arrives : τ → σ → Prop} {program : τ → Program ι ρ α} {gain : τ → (i : ι) → ρ i → Nat}
  {cost : τ → ι → Nat} {allowed : τ → ι → Prop} {paid issued : σ → Nat}

theorem Holding.append {a b : List (τ × Program ι ρ α)} {n m : Nat}
    (ha : Holding gain cost allowed a n) (hb : Holding gain cost allowed b m) :
    Holding gain cost allowed (a ++ b) (n + m) := by
  induction ha with
  | nil => simpa using hb
  | cons h _ ih =>
    rw [Nat.add_assoc]
    exact .cons h ih

theorem Holding.split {a b : List (τ × Program ι ρ α)} {n : Nat}
    (h : Holding gain cost allowed (a ++ b) n) : ∃ k m, n = k + m ∧
      Holding gain cost allowed a k ∧ Holding gain cost allowed b m := by
  induction a generalizing n with
  | nil => exact ⟨0, n, by omega, .nil, h⟩
  | cons x a ih =>
    cases h with
    | @cons t p _ k m h rest =>
      obtain ⟨k', m', he, ha, hb⟩ := ih rest
      exact ⟨k + k', m', by omega, .cons h ha, hb⟩

/-- What is paid and what the tasks hold has been issued. -/
def Solvent (gain : τ → (i : ι) → ρ i → Nat) (cost : τ → ι → Nat) (allowed : τ → ι → Prop)
    (paid issued : σ → Nat) (p : Pool ι ρ α σ τ) : Prop :=
  ∃ n, Holding gain cost allowed p.tasks n ∧ paid p.state + n ≤ issued p.state

theorem Accounts.advance
    (c : Accounts step moves arrives program gain cost allowed paid issued)
    {p p' : Pool ι ρ α σ τ} (h : Solvent gain cost allowed paid issued p)
    (hs : Step step moves arrives program p p') : Solvent gain cost allowed paid issued p' := by
  obtain ⟨n, hn, hle⟩ := h
  cases hs with
  | move hm =>
    obtain ⟨hpaid, hissued⟩ := c.move hm
    exact ⟨n, hn, by dsimp only at hle ⊢; omega⟩
  | @start s tasks t ha => exact ⟨0 + n, .cons (c.start t) hn, by simpa using hle⟩
  | @call s s' before after t i next r hc =>
    obtain ⟨k, m, he, hbefore, hrest⟩ := hn.split
    cases hrest with
    | @cons _ _ _ own m hown hafter =>
      obtain ⟨⟨hcost, hallowed⟩, hnext⟩ := hown
      obtain ⟨hpaid, hissued⟩ := c.call hallowed hc
      refine ⟨k + (own - cost t i + gain t i r + m),
        hbefore.append (.cons (hnext r _ rfl) hafter), ?_⟩
      dsimp only at hle ⊢
      omega
  | @drop s before after task =>
    obtain ⟨k, m, he, hbefore, hrest⟩ := hn.split
    cases hrest with
    | cons _ hafter =>
      refine ⟨_, hbefore.append hafter, ?_⟩
      dsimp only at hle ⊢
      omega

theorem Accounts.runs (c : Accounts step moves arrives program gain cost allowed paid issued)
    {p p' : Pool ι ρ α σ τ} (h : Solvent gain cost allowed paid issued p)
    (hr : Runs step moves arrives program p p') : Solvent gain cost allowed paid issued p' := by
  induction hr with
  | refl => exact h
  | tail _ hs ih => exact c.advance ih hs

theorem Solvent.paid_le {p : Pool ι ρ α σ τ} (h : Solvent gain cost allowed paid issued p) :
    paid p.state ≤ issued p.state := by
  obtain ⟨n, -, hle⟩ := h
  omega

theorem Solvent.idle {s : σ} (h : paid s ≤ issued s) :
    Solvent gain cost allowed paid issued (⟨s, []⟩ : Pool ι ρ α σ τ) :=
  ⟨0, .nil, h⟩

end Pool

end AutoVPN
