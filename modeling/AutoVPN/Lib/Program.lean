import Mathlib.Algebra.BigOperators.Group.List.Basic
import Mathlib.Algebra.Ring.Nat

/-! Programs that call operations answered by their environment. An execution
may stop before any call, which is how a crash or a cancelled task appears. -/

namespace AutoVPN

universe u v w

/-- A program over the operations `ι`, where `ρ i` is the type of answers to `i`. -/
inductive Program (ι : Type u) (ρ : ι → Type v) (α : Type w) : Type (max u v w)
  | done (a : α)
  | call (i : ι) (next : ρ i → Program ι ρ α)

namespace Program

variable {ι : Type u} {ρ : ι → Type v} {α β : Type w} {σ : Type*} {ε : Type w}

def bind (p : Program ι ρ α) (f : α → Program ι ρ β) : Program ι ρ β :=
  match p with
  | done a => f a
  | call i next => call i fun r => (next r).bind f

instance : Monad (Program ι ρ) where
  pure := done
  bind := bind

@[simp] theorem pure_eq (a : α) : (Pure.pure a : Program ι ρ α) = done a := rfl

@[simp] theorem done_bind (a : α) (f : α → Program ι ρ β) : (done a >>= f) = f a := rfl

@[simp] theorem call_bind (i : ι) (next : ρ i → Program ι ρ α) (f : α → Program ι ρ β) :
    (call i next >>= f) = call i fun r => next r >>= f := rfl

/-- One operation with its answer. -/
abbrev Event (ι : Type u) (ρ : ι → Type v) := Σ i, ρ i

variable (step : (i : ι) → σ → ρ i → σ → Prop)

/-- `Exec step p s tr t o`: started in `s`, the program exchanges the events `tr`
with its environment and leaves `t`; `o` is `none` when it is cut off. -/
inductive Exec : Program ι ρ α → σ → List (Event ι ρ) → σ → Option α → Prop
  | stop (p : Program ι ρ α) (s : σ) : Exec p s [] s none
  | done (a : α) (s : σ) : Exec (.done a) s [] s (some a)
  | call {i : ι} {next : ρ i → Program ι ρ α} {s u t : σ} {r : ρ i}
      {tr : List (Event ι ρ)} {o : Option α}
      (h : step i s r u) (rest : Exec (next r) u tr t o) :
      Exec (.call i next) s (⟨i, r⟩ :: tr) t o

/-- Every call `i` made from `s` meets the guard `G i s`, and every value
returned in `s` meets `Q`, whatever the environment answers. -/
def Sat (G : ι → σ → Prop) (Q : α → σ → Prop) : Program ι ρ α → σ → Prop
  | .done a, s => Q a s
  | .call i next, s => G i s ∧ ∀ r s', step i s r s' → Sat G Q (next r) s'

variable {step} {G G' : ι → σ → Prop}

@[simp] theorem sat_done {Q : α → σ → Prop} {a : α} {s : σ} :
    Sat step G Q (.done a) s ↔ Q a s := Iff.rfl

theorem Sat.mono {Q Q' : α → σ → Prop} {p : Program ι ρ α} {s : σ}
    (h : Sat step G Q p s) (hg : ∀ i s, G i s → G' i s) (hq : ∀ a s, Q a s → Q' a s) :
    Sat step G' Q' p s := by
  induction p generalizing s with
  | done a => exact hq a s h
  | call i next ih => exact ⟨hg i s h.1, fun r s' hs => ih r (h.2 r s' hs)⟩

theorem Sat.post {Q Q' : α → σ → Prop} {p : Program ι ρ α} {s : σ}
    (h : Sat step G Q p s) (hq : ∀ a s, Q a s → Q' a s) : Sat step G Q' p s :=
  h.mono (fun _ _ hg => hg) hq

theorem Sat.bind {Q : β → σ → Prop} {p : Program ι ρ α} {f : α → Program ι ρ β} {s : σ}
    (h : Sat step G (fun a s => Sat step G Q (f a) s) p s) :
    Sat step G Q (p >>= f) s := by
  induction p generalizing s with
  | done a => exact h
  | call i next ih => exact ⟨h.1, fun r s' hs => ih r (h.2 r s' hs)⟩

/-- A completed execution returns a value that meets the postcondition. -/
theorem Sat.result {Q : α → σ → Prop} {p : Program ι ρ α} {s t : σ}
    {tr : List (Event ι ρ)} {a : α} (h : Sat step G Q p s)
    (he : Exec step p s tr t (some a)) : Q a t := by
  generalize ho : some a = o at he
  induction he with
  | stop p s => exact absurd ho (by simp)
  | done b s => obtain rfl := Option.some.inj ho; exact h
  | call hs _ ih => exact ih (h.2 _ _ hs) ho

/-- What guards every call and every return holds wherever the program stops. -/
theorem Sat.invariant {I : σ → Prop} {p : Program ι ρ α} {s t : σ}
    {tr : List (Event ι ρ)} {o : Option α}
    (h : Sat step (fun _ => I) (fun _ => I) p s) (he : Exec step p s tr t o) : I t := by
  induction he with
  | stop p s =>
    cases p with
    | done a => exact h
    | call i next => exact h.1
  | done b s => exact h
  | call hs _ ih => exact ih (h.2 _ _ hs)

/-- A condition on every answer of an execution may be assumed of its steps. -/
theorem Exec.restrict {C : Event ι ρ → Prop} {p : Program ι ρ α} {s t : σ}
    {tr : List (Event ι ρ)} {o : Option α} (he : Exec step p s tr t o)
    (hc : ∀ e ∈ tr, C e) :
    Exec (fun i s r s' => step i s r s' ∧ C ⟨i, r⟩) p s tr t o := by
  induction he with
  | stop p s => exact .stop p s
  | done b s => exact .done b s
  | call hs _ ih =>
    exact .call ⟨hs, hc _ List.mem_cons_self⟩ (ih fun e he => hc e (List.mem_cons_of_mem _ he))

/-- Every event of an execution is a guarded step. -/
theorem Sat.trace {Q : α → σ → Prop} {p : Program ι ρ α} {s t : σ}
    {tr : List (Event ι ρ)} {o : Option α} (h : Sat step G Q p s) (he : Exec step p s tr t o) :
    ∀ e ∈ tr, ∃ u u', G e.1 u ∧ step e.1 u e.2 u' := by
  induction he with
  | stop p s => simp
  | done b s => simp
  | call hs _ ih =>
    intro e he
    rcases List.mem_cons.mp he with rfl | he
    · exact ⟨_, _, h.1, hs⟩
    · exact ih (h.2 _ _ hs) e he

/-- The steps of `step` with a budget that every call draws its cost from. -/
def metered (step : (i : ι) → σ → ρ i → σ → Prop) (cost : ι → Nat) :
    (i : ι) → σ × Nat → ρ i → σ × Nat → Prop :=
  fun i s r s' => step i s.1 r s'.1 ∧ s.2 = s'.2 + cost i

/-- An execution runs on any budget that covers its calls. -/
theorem Exec.metered {p : Program ι ρ α} {s t : σ} {tr : List (Event ι ρ)} {o : Option α}
    (he : Exec step p s tr t o) (cost : ι → Nat) {n : Nat}
    (hn : (tr.map fun e => cost e.1).sum ≤ n) :
    Exec (metered step cost) p (s, n) tr (t, n - (tr.map fun e => cost e.1).sum) o := by
  induction he generalizing n with
  | stop p s => exact .stop p (s, n)
  | done b s => exact .done b (s, n)
  | @call i next s s' t r tr o hs _ ih =>
    simp only [List.map_cons, List.sum_cons] at hn ⊢
    have hrest := ih (n := n - cost i) (by omega)
    rw [Nat.sub_sub] at hrest
    exact .call ⟨hs, by dsimp only; omega⟩ hrest

/-- The calls of the program cost at most `n` together, whatever they are answered. -/
def Costs (cost : ι → Nat) : Program ι ρ α → Nat → Prop
  | .done _, _ => True
  | .call i next, n => cost i ≤ n ∧ ∀ r, Costs cost (next r) (n - cost i)

theorem Costs.mono {cost : ι → Nat} {p : Program ι ρ α} {m n : Nat} (h : Costs cost p m)
    (hmn : m ≤ n) : Costs cost p n := by
  induction p generalizing m n with
  | done a => exact trivial
  | call i next ih => exact ⟨h.1.trans hmn, fun r => ih r (h.2 r) (Nat.sub_le_sub_right hmn _)⟩

theorem Costs.bind {cost : ι → Nat} {p : Program ι ρ α} {f : α → Program ι ρ β} {m n : Nat}
    (h : Costs cost p m) (hf : ∀ a, Costs cost (f a) n) : Costs cost (p >>= f) (m + n) := by
  induction p generalizing m with
  | done a => exact (hf a).mono (Nat.le_add_left n m)
  | call i next ih =>
    refine ⟨h.1.trans (Nat.le_add_right m n), fun r => ?_⟩
    rw [Nat.sub_add_comm h.1]
    exact ih r (h.2 r)

theorem Costs.total {cost : ι → Nat} {p : Program ι ρ α} {n : Nat} {s t : σ}
    {tr : List (Event ι ρ)} {o : Option α} (h : Costs cost p n) (he : Exec step p s tr t o) :
    (tr.map fun e => cost e.1).sum ≤ n := by
  induction he generalizing n with
  | stop p s => exact Nat.zero_le n
  | done b s => exact Nat.zero_le n
  | call _ _ ih =>
    have hrest := ih (h.2 _)
    have hfirst := h.1
    simp only [List.map_cons, List.sum_cons]
    omega

/-- The steps of `step` inside an execution with the trace `whole`; the state
carries the events so far. -/
def along (step : (i : ι) → σ → ρ i → σ → Prop) (whole : List (Event ι ρ)) :
    (i : ι) → σ × List (Event ι ρ) → ρ i → σ × List (Event ι ρ) → Prop :=
  fun i s r s' => step i s.1 r s'.1 ∧ s'.2 = s.2 ++ [⟨i, r⟩] ∧ s'.2 <+: whole

theorem Exec.along {p : Program ι ρ α} {s t : σ} {tr : List (Event ι ρ)} {o : Option α}
    (he : Exec step p s tr t o) (past : List (Event ι ρ)) :
    Exec (along step (past ++ tr)) p (s, past) tr (t, past ++ tr) o := by
  induction he generalizing past with
  | stop p s =>
    rw [List.append_nil]
    exact .stop p (s, past)
  | done b s =>
    rw [List.append_nil]
    exact .done b (s, past)
  | @call i next s s' t r tr o hs _ ih =>
    have hrest := ih (past ++ [⟨i, r⟩])
    rw [List.append_assoc, List.singleton_append] at hrest
    have hpast : past ++ [⟨i, r⟩] <+: past ++ ⟨i, r⟩ :: tr :=
      ⟨tr, by rw [List.append_assoc, List.singleton_append]⟩
    exact .call ⟨hs, rfl, hpast⟩ hrest

/-- The steps of `step` inside an execution whose events, each with the state
in which it was called, are `whole`. -/
def observed (step : (i : ι) → σ → ρ i → σ → Prop) (whole : List (σ × Event ι ρ)) :
    (i : ι) → σ × List (σ × Event ι ρ) → ρ i → σ × List (σ × Event ι ρ) → Prop :=
  fun i s r s' => step i s.1 r s'.1 ∧ s'.2 = s.2 ++ [(s.1, ⟨i, r⟩)] ∧ s'.2 <+: whole

/-- Guarantees carry over to a system whose steps project to those of `step`. -/
theorem Sat.comap {τ : Type*} {step' : (i : ι) → τ → ρ i → τ → Prop} (f : τ → σ)
    (hstep : ∀ i t r t', step' i t r t' → step i (f t) r (f t')) {Q : α → σ → Prop}
    {p : Program ι ρ α} {t : τ} (h : Sat step G Q p (f t)) :
    Sat step' (fun i t => G i (f t)) (fun a t => Q a (f t)) p t := by
  induction p generalizing t with
  | done a => exact h
  | call i next ih => exact ⟨h.1, fun r t' ht => ih r (h.2 r (f t') (hstep i t r t' ht))⟩

/-- An execution of a system whose steps project to those of `step`. -/
theorem Exec.map {τ : Type*} {step' : (i : ι) → τ → ρ i → τ → Prop} (f : τ → σ)
    (hstep : ∀ i t r t', step' i t r t' → step i (f t) r (f t')) {p : Program ι ρ α} {t u : τ}
    {tr : List (Event ι ρ)} {o : Option α} (he : Exec step' p t tr u o) :
    Exec step p (f t) tr (f u) o := by
  induction he with
  | stop p t => exact .stop p (f t)
  | done b t => exact .done b (f t)
  | call h _ ih => exact .call (hstep _ _ _ _ h) ih

theorem Exec.of_restrict {C : Event ι ρ → Prop} {p : Program ι ρ α} {s t : σ}
    {tr : List (Event ι ρ)} {o : Option α}
    (he : Exec (fun i s r s' => step i s r s' ∧ C ⟨i, r⟩) p s tr t o) : Exec step p s tr t o :=
  he.map id fun _ _ _ _ h => h.1

/-- What every guarded step preserves holds at the end of an execution. -/
theorem Sat.preserves {Q : α → σ → Prop} {J : σ → Prop} {p : Program ι ρ α} {s t : σ}
    {tr : List (Event ι ρ)} {o : Option α} (h : Sat step G Q p s)
    (he : Exec step p s tr t o) (hJ : ∀ i s r s', G i s → J s → step i s r s' → J s')
    (hs : J s) : J t := by
  induction he with
  | stop p s => exact hs
  | done b s => exact hs
  | call hstep _ ih => exact ih (h.2 _ _ hstep) (hJ _ _ _ _ h.1 hs hstep)

/-- Every observation of an execution is a guarded step, in a state that meets
what the steps preserve. -/
theorem Sat.observation {whole : List (σ × Event ι ρ)} {Q : α → σ × List (σ × Event ι ρ) → Prop}
    {G : ι → σ × List (σ × Event ι ρ) → Prop} {J : σ × List (σ × Event ι ρ) → Prop}
    {p : Program ι ρ α} {s t : σ × List (σ × Event ι ρ)} {tr : List (Event ι ρ)} {o : Option α}
    (h : Sat (observed step whole) G Q p s) (he : Exec (observed step whole) p s tr t o)
    (hJ : ∀ i s r s', G i s → J s → observed step whole i s r s' → J s') (hs : J s) :
    ∀ x ∈ t.2, x ∈ s.2 ∨
      ∃ u u', u.1 = x.1 ∧ G x.2.1 u ∧ J u ∧ step x.2.1 u.1 x.2.2 u' := by
  induction he with
  | stop p s => exact fun x hx => .inl hx
  | done b s => exact fun x hx => .inl hx
  | call hstep _ ih =>
    intro x hx
    rcases ih (h.2 _ _ hstep) (hJ _ _ _ _ h.1 hs hstep) x hx with hx | hx
    · rw [hstep.2.1, List.mem_append, List.mem_singleton] at hx
      rcases hx with hx | rfl
      · exact .inl hx
      · exact .inr ⟨_, _, rfl, h.1, hs, hstep.1⟩
    · exact .inr hx

/-- The observations of an execution are those before it and its events. -/
theorem Exec.observed_events {whole : List (σ × Event ι ρ)} {p : Program ι ρ α}
    {s t : σ × List (σ × Event ι ρ)} {tr : List (Event ι ρ)} {o : Option α}
    (he : Exec (observed step whole) p s tr t o) :
    t.2.map Prod.snd = s.2.map Prod.snd ++ tr := by
  induction he with
  | stop p s => simp
  | done b s => simp
  | call hs _ ih => rw [ih, hs.2.1, List.map_append, List.append_assoc]; rfl

theorem Exec.exists_observed {p : Program ι ρ α} {s t : σ} {tr : List (Event ι ρ)} {o : Option α}
    (he : Exec step p s tr t o) (past : List (σ × Event ι ρ)) :
    ∃ more, Exec (observed step (past ++ more)) p (s, past) tr (t, past ++ more) o := by
  induction he generalizing past with
  | stop p s => exact ⟨[], by rw [List.append_nil]; exact .stop p (s, past)⟩
  | done b s => exact ⟨[], by rw [List.append_nil]; exact .done b (s, past)⟩
  | @call i next s u t r tr o hs _ ih =>
    obtain ⟨more, hrest⟩ := ih (past ++ [(s, ⟨i, r⟩)])
    rw [List.append_assoc, List.singleton_append] at hrest
    refine ⟨(s, ⟨i, r⟩) :: more, .call ⟨hs, rfl, ?_⟩ hrest⟩
    exact ⟨more, by rw [List.append_assoc, List.singleton_append]⟩

/-- The execution in which every call is answered by `reply`, up to the first
call that it leaves unanswered. -/
def play (reply : (i : ι) → σ → Option (ρ i × σ)) : Program ι ρ α → σ → σ × Option α
  | .done a, s => (s, some a)
  | .call i next, s =>
    match reply i s with
    | none => (s, none)
    | some (r, s') => play reply (next r) s'

theorem play_exec {reply : (i : ι) → σ → Option (ρ i × σ)}
    (h : ∀ i s r s', reply i s = some (r, s') → step i s r s') (p : Program ι ρ α) (s : σ) :
    ∃ tr, Exec step p s tr (play reply p s).1 (play reply p s).2 := by
  induction p generalizing s with
  | done a => exact ⟨[], .done a s⟩
  | call i next ih =>
    rw [play]
    cases hr : reply i s with
    | none => exact ⟨[], .stop _ s⟩
    | some answer =>
      obtain ⟨r, s'⟩ := answer
      obtain ⟨tr, htr⟩ := ih r s'
      exact ⟨⟨i, r⟩ :: tr, .call (h i s r s' hr) htr⟩

theorem Exec.of_nil {p : Program ι ρ α} {s t : σ} {o : Option α} (he : Exec step p s [] t o) :
    t = s := by
  generalize htr : ([] : List (Event ι ρ)) = tr at he
  cases he with
  | stop => rfl
  | done => rfl
  | call => simp at htr

/-- The last event of an execution leads to its last state. -/
theorem Exec.last {p : Program ι ρ α} {s t : σ} {pre : List (Event ι ρ)} {e : Event ι ρ}
    {o : Option α} (he : Exec step p s (pre ++ [e]) t o) : ∃ u, step e.1 u e.2 t := by
  generalize htr : pre ++ [e] = tr at he
  induction he generalizing pre with
  | stop p s => simp at htr
  | done b s => simp at htr
  | @call i next s u t r tr o hs hrest ih =>
    cases pre with
    | nil =>
      obtain ⟨rfl, rfl⟩ := List.cons.inj htr
      exact ⟨s, hrest.of_nil ▸ hs⟩
    | cons e' pre => exact ih (List.cons.inj htr).2

end Program

/-! Results that may be errors. -/

theorem except_bind_eq_ok {ε α β : Type} {x : Except ε α} {f : α → Except ε β} {b : β} :
    x >>= f = .ok b ↔ ∃ a, x = .ok a ∧ f a = .ok b := by
  cases x with
  | error e => simp [Bind.bind, Except.bind]
  | ok a => simp [Bind.bind, Except.bind]

theorem except_map_eq_ok {ε α β : Type} {x : Except ε α} {f : α → β} {b : β} :
    x.map f = .ok b ↔ ∃ a, x = .ok a ∧ f a = b := by
  cases x with
  | error e => simp [Except.map]
  | ok a => simp [Except.map]

end AutoVPN
