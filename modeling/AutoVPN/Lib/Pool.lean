import AutoVPN.Lib.Program
import Mathlib.Logic.Relation

/-! Programs that run side by side over one state. A step of the pool is one call
of one task, a move of the environment, a new task, or the loss of a task. -/

namespace AutoVPN

namespace Program

universe u v w

variable {ι : Type u} {ρ : ι → Type v} {α β : Type w} {σ : Type*} {τ : Type*}

/-- Whatever moves `R` the others make first, inside the invariant `I`, every call
`i` is made where `G i` holds and every value is returned where `Q` holds. -/
def Safe (step : (i : ι) → σ → ρ i → σ → Prop) (I : σ → Prop) (R : σ → σ → Prop)
    (G : ι → σ → Prop) (Q : α → σ → Prop) : Program ι ρ α → σ → Prop
  | .done a, s => ∀ u, R s u → I u → Q a u
  | .call i next, s =>
    ∀ u, R s u → I u → G i u ∧ ∀ r s', step i u r s' → Safe step I R G Q (next r) s'

variable {step : (i : ι) → σ → ρ i → σ → Prop} {I : σ → Prop} {R : σ → σ → Prop}
  {G : ι → σ → Prop}

/-- Safety survives the moves of the others. -/
theorem Safe.stable (hR : ∀ ⦃a b c⦄, R a b → R b c → R a c) {Q : α → σ → Prop}
    {p : Program ι ρ α} {s u : σ} (h : Safe step I R G Q p s) (hu : R s u) :
    Safe step I R G Q p u := by
  cases p with
  | done a => exact fun v hv hI => h v (hR hu hv) hI
  | call i next => exact fun v hv hI => h v (hR hu hv) hI

/-- Safety may be shown from the state as the others leave it. -/
theorem Safe.of_moves (hrefl : ∀ s, R s s) {Q : α → σ → Prop} {p : Program ι ρ α} {s : σ}
    (h : ∀ u, R s u → I u → Safe step I R G Q p u) : Safe step I R G Q p s := by
  cases p with
  | done a => exact fun u hu hI => h u hu hI u (hrefl u) hI
  | call i next => exact fun u hu hI => h u hu hI u (hrefl u) hI

theorem Safe.bind (hrefl : ∀ s, R s s) {Q : β → σ → Prop} {p : Program ι ρ α}
    {f : α → Program ι ρ β} {s : σ}
    (h : Safe step I R G (fun a s => Safe step I R G Q (f a) s) p s) :
    Safe step I R G Q (p >>= f) s := by
  induction p generalizing s with
  | done a => exact Safe.of_moves hrefl h
  | call i next ih =>
    exact fun u hu hI => ⟨(h u hu hI).1, fun r s' hs => ih r ((h u hu hI).2 r s' hs)⟩

theorem Safe.mono {G' : ι → σ → Prop} {Q Q' : α → σ → Prop} {p : Program ι ρ α} {s : σ}
    (h : Safe step I R G Q p s) (hG : ∀ i u, I u → G i u → G' i u)
    (hQ : ∀ a u, I u → Q a u → Q' a u) : Safe step I R G' Q' p s := by
  induction p generalizing s with
  | done a => exact fun u hu hI => hQ a u hI (h u hu hI)
  | call i next ih =>
    exact fun u hu hI => ⟨hG i u hI (h u hu hI).1, fun r s' hs => ih r ((h u hu hI).2 r s' hs)⟩

end Program

universe u v w

/-- The shared state and the tasks in progress, each with its label. -/
structure Pool (ι : Type u) (ρ : ι → Type v) (α : Type w) (σ τ : Type*) where
  state : σ
  tasks : List (τ × Program ι ρ α)

namespace Pool

variable {ι : Type u} {ρ : ι → Type v} {α : Type w} {σ τ : Type*}

section

variable (step : τ → (i : ι) → σ → ρ i → σ → Prop) (moves : σ → σ → Prop)
  (arrives : τ → σ → Prop) (program : τ → Program ι ρ α)

inductive Step : Pool ι ρ α σ τ → Pool ι ρ α σ τ → Prop
  | move {s s' : σ} {tasks : List (τ × Program ι ρ α)} (h : moves s s') :
    Step ⟨s, tasks⟩ ⟨s', tasks⟩
  | start {s : σ} {tasks : List (τ × Program ι ρ α)} {t : τ} (h : arrives t s) :
    Step ⟨s, tasks⟩ ⟨s, (t, program t) :: tasks⟩
  | call {s s' : σ} {before after : List (τ × Program ι ρ α)} {t : τ} {i : ι}
    {next : ρ i → Program ι ρ α} {r : ρ i} (h : step t i s r s') :
    Step ⟨s, before ++ (t, .call i next) :: after⟩ ⟨s', before ++ (t, next r) :: after⟩
  | drop {s : σ} {before after : List (τ × Program ι ρ α)} {task : τ × Program ι ρ α} :
    Step ⟨s, before ++ task :: after⟩ ⟨s, before ++ after⟩

abbrev Runs : Pool ι ρ α σ τ → Pool ι ρ α σ τ → Prop :=
  Relation.ReflTransGen (Step step moves arrives program)

/-- What every party promises: the invariant `I` and the moves `R` that the
others may rely on, the guards `G` of its calls and the results `Q`. -/
structure Contract (I : σ → Prop) (R : σ → σ → Prop) (G : τ → ι → σ → Prop)
    (Q : τ → α → σ → Prop) : Prop where
  refl : ∀ s, R s s
  trans : ∀ ⦃a b c⦄, R a b → R b c → R a c
  move : ∀ {s s'}, I s → moves s s' → I s' ∧ R s s'
  call : ∀ {t i s r s'}, I s → G t i s → step t i s r s' → I s' ∧ R s s'
  start : ∀ {t s}, I s → arrives t s → Program.Safe (step t) I R (G t) (Q t) (program t) s

end

variable {step : τ → (i : ι) → σ → ρ i → σ → Prop} {moves : σ → σ → Prop}
  {arrives : τ → σ → Prop} {program : τ → Program ι ρ α} {I : σ → Prop} {R : σ → σ → Prop}
  {G : τ → ι → σ → Prop} {Q : τ → α → σ → Prop}

/-- The invariant holds and every task is safe where the pool stands. -/
def Sound (step : τ → (i : ι) → σ → ρ i → σ → Prop) (I : σ → Prop) (R : σ → σ → Prop)
    (G : τ → ι → σ → Prop) (Q : τ → α → σ → Prop) (p : Pool ι ρ α σ τ) : Prop :=
  I p.state ∧ ∀ x ∈ p.tasks, Program.Safe (step x.1) I R (G x.1) (Q x.1) x.2 p.state

theorem Sound.guard {s : σ} {before after : List (τ × Program ι ρ α)} {t : τ} {i : ι}
    {next : ρ i → Program ι ρ α} (hrefl : ∀ s, R s s)
    (h : Sound step I R G Q ⟨s, before ++ (t, .call i next) :: after⟩) : G t i s :=
  (h.2 (t, .call i next) (by simp) s (hrefl s) h.1).1

theorem Sound.result {p : Pool ι ρ α σ τ} {t : τ} {a : α} (hrefl : ∀ s, R s s)
    (h : Sound step I R G Q p) (ht : (t, Program.done a) ∈ p.tasks) : Q t a p.state :=
  h.2 _ ht p.state (hrefl p.state) h.1

theorem Contract.advance (c : Contract step moves arrives program I R G Q) {p p' : Pool ι ρ α σ τ}
    (h : Sound step I R G Q p) (hs : Step step moves arrives program p p') :
    Sound step I R G Q p' ∧ R p.state p'.state := by
  cases hs with
  | move hm =>
    obtain ⟨hI, hR⟩ := c.move h.1 hm
    exact ⟨⟨hI, fun x hx => (h.2 x hx).stable c.trans hR⟩, hR⟩
  | start ha =>
    refine ⟨⟨h.1, fun x hx => ?_⟩, c.refl _⟩
    rcases List.mem_cons.mp hx with rfl | hx
    · exact c.start h.1 ha
    · exact h.2 x hx
  | @call s s' before after t i next r hc =>
    have hg := h.guard c.refl
    obtain ⟨hI, hR⟩ := c.call h.1 hg hc
    refine ⟨⟨hI, fun x hx => ?_⟩, hR⟩
    rcases List.mem_append.mp hx with hb | ha
    · exact (h.2 x (List.mem_append_left _ hb)).stable c.trans hR
    · rcases List.mem_cons.mp ha with rfl | ha
      · have hsafe := h.2 (t, .call i next) (List.mem_append_right _ List.mem_cons_self)
        exact (hsafe s (c.refl s) h.1).2 r s' hc
      · exact (h.2 x (List.mem_append_right _ (List.mem_cons_of_mem _ ha))).stable c.trans hR
  | @drop s before after task =>
    have hsub : ∀ x ∈ before ++ after, x ∈ before ++ task :: after := by
      intro x hx
      rcases List.mem_append.mp hx with hb | ha
      · exact List.mem_append_left _ hb
      · exact List.mem_append_right _ (List.mem_cons_of_mem _ ha)
    exact ⟨⟨h.1, fun x hx => h.2 x (hsub x hx)⟩, c.refl _⟩

/-- The invariant, the tasks' safety and the relied moves hold along every run. -/
theorem Contract.runs (c : Contract step moves arrives program I R G Q) {p p' : Pool ι ρ α σ τ}
    (h : Sound step I R G Q p) (hr : Runs step moves arrives program p p') :
    Sound step I R G Q p' ∧ R p.state p'.state := by
  induction hr with
  | refl => exact ⟨h, c.refl _⟩
  | tail _ hs ih =>
    obtain ⟨hsound, hR⟩ := c.advance ih.1 hs
    exact ⟨hsound, c.trans ih.2 hR⟩

theorem Sound.idle {s : σ} (h : I s) : Sound step I R G Q (⟨s, []⟩ : Pool ι ρ α σ τ) :=
  ⟨h, fun _ hx => absurd hx List.not_mem_nil⟩

end Pool

end AutoVPN
