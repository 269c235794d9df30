import AutoVPN.Lib.Budget

/-! Programs that run side by side, each under a name of its own, where a task may rely on more of
the others than they may of it. -/

namespace AutoVPN

namespace Program

universe u v w

variable {ι : Type u} {ρ : ι → Type v} {α β : Type w} {ε : Type w} {σ : Type*}
  {step : (i : ι) → σ → ρ i → σ → Prop} {I : σ → Prop} {R : σ → σ → Prop} {G : ι → σ → Prop}

/-- The rest of a program that may raise is safe after its first part. -/
theorem safe_bind (hrefl : ∀ s, R s s) {x : Raising ε ι ρ α} {f : α → Raising ε ι ρ β} {s : σ}
    {P : α → σ → Prop} {Q : β → σ → Prop} {E E' : ε → σ → Prop}
    (h : Safe step I R G (Ends P E) x.run s) (hE : ∀ e u, E e u → ∀ v, R u v → I v → E' e v)
    (hf : ∀ a u, I u → P a u → Safe step I R G (Ends Q E') (f a).run u) :
    Safe step I R G (Ends Q E') (x >>= f).run s := by
  refine Safe.bind hrefl (h.mono (fun _ _ _ hg => hg) fun r u hI hr => ?_)
  cases r with
  | ok a => exact hf a u hI hr
  | error e => exact fun v hv hv' => hE e u hr v hv hv'

theorem safe_tryCatch (hrefl : ∀ s, R s s) {x : Raising ε ι ρ α} {f : ε → Raising ε ι ρ α} {s : σ}
    {P : α → σ → Prop} {E E' : ε → σ → Prop} (h : Safe step I R G (Ends P E) x.run s)
    (hP : ∀ a u, P a u → ∀ v, R u v → I v → P a v)
    (hf : ∀ e u, I u → E e u → Safe step I R G (Ends P E') (f e).run u) :
    Safe step I R G (Ends P E') (tryCatch x f).run s := by
  refine Safe.bind hrefl (h.mono (fun _ _ _ hg => hg) fun r u hI hr => ?_)
  cases r with
  | ok a => exact fun v hv hv' => hP a u hr v hv hv'
  | error e => exact hf e u hI hr

/-- What every step says of its event is true of all events. -/
theorem Exec.events {C : Event ι ρ → Prop} {p : Program ι ρ α} {s t : σ} {tr : List (Event ι ρ)}
    {o : Option α} (he : Exec step p s tr t o) (h : ∀ i s r s', step i s r s' → C ⟨i, r⟩) :
    ∀ ev ∈ tr, C ev := by
  induction he with
  | stop p s => simp
  | done a s => simp
  | call hs _ ih =>
    intro ev hev
    rcases List.mem_cons.mp hev with rfl | hev
    · exact h _ _ _ _ hs
    · exact ih ev hev

end Program

/-- What holds of every entry of a list with those before it, with one more entry. -/
theorem splits_concat {α : Type*} {P : List α → α → Prop} {l : List α} {x : α}
    (h : ∀ before y after, l = before ++ y :: after → P before y) (hx : P l x) :
    ∀ before y after, l ++ [x] = before ++ y :: after → P before y := by
  intro before y after hsplit
  rcases List.eq_nil_or_concat after with rfl | ⟨rest, z, rfl⟩
  · obtain ⟨rfl, hy⟩ := List.append_inj' hsplit rfl
    exact (List.cons.inj hy).1 ▸ hx
  · rw [List.concat_eq_append, ← List.cons_append, ← List.append_assoc] at hsplit
    exact h before y rest (List.append_inj' hsplit rfl).1

universe u v w

/-- The shared state and the program that each name is at, where it is at any. -/
structure Crew (ι : Type u) (ρ : ι → Type v) (α : Type w) (σ τ : Type*) where
  state : σ
  tasks : τ → Option (Program ι ρ α)

namespace Crew

variable {ι : Type u} {ρ : ι → Type v} {α : Type w} {σ τ : Type*} [DecidableEq τ]

section

variable (step : τ → (i : ι) → σ → ρ i → σ → Prop) (moves : σ → σ → Prop)
  (programs : τ → σ → Program ι ρ α → Prop) (leave : τ → σ → σ → Prop)

inductive Step : Crew ι ρ α σ τ → Crew ι ρ α σ τ → Prop
  | move {s s' : σ} {tasks : τ → Option (Program ι ρ α)} (h : moves s s') :
    Step ⟨s, tasks⟩ ⟨s', tasks⟩
  | start {s : σ} {tasks : τ → Option (Program ι ρ α)} {t : τ} {p : Program ι ρ α}
    (hp : programs t s p) (h : tasks t = none) :
    Step ⟨s, tasks⟩ ⟨s, Function.update tasks t (some p)⟩
  | call {s s' : σ} {tasks : τ → Option (Program ι ρ α)} {t : τ} {i : ι}
    {next : ρ i → Program ι ρ α} {r : ρ i} (ht : tasks t = some (.call i next))
    (h : step t i s r s') : Step ⟨s, tasks⟩ ⟨s', Function.update tasks t (some (next r))⟩
  | drop {s s' : σ} {tasks : τ → Option (Program ι ρ α)} {t : τ} (h : leave t s s') :
    Step ⟨s, tasks⟩ ⟨s', Function.update tasks t none⟩

abbrev Runs : Crew ι ρ α σ τ → Crew ι ρ α σ τ → Prop :=
  Relation.ReflTransGen (Step step moves programs leave)

/-- What every party promises, also where it leaves: the invariant `I` and, to each other task
`t`, the moves `R t`. -/
structure Contract (I : σ → Prop) (R : τ → σ → σ → Prop) (G : τ → ι → σ → Prop)
    (Q : τ → α → σ → Prop) : Prop where
  refl : ∀ t s, R t s s
  trans : ∀ t ⦃a b c⦄, R t a b → R t b c → R t a c
  move : ∀ {s s'}, I s → moves s s' → I s' ∧ ∀ t, R t s s'
  call : ∀ {t i s r s'}, I s → G t i s → step t i s r s' → I s' ∧ ∀ t', t' ≠ t → R t' s s'
  start : ∀ {t s p}, programs t s p → I s → Program.Safe (step t) I (R t) (G t) (Q t) p s
  leave : ∀ {t s s'}, I s → leave t s s' → I s' ∧ ∀ t', t' ≠ t → R t' s s'

end

variable {step : τ → (i : ι) → σ → ρ i → σ → Prop} {moves : σ → σ → Prop}
  {programs : τ → σ → Program ι ρ α → Prop} {leave : τ → σ → σ → Prop} {I : σ → Prop}
  {R : τ → σ → σ → Prop} {G : τ → ι → σ → Prop} {Q : τ → α → σ → Prop}

/-- The invariant holds and every task is safe where the crew stands. -/
def Sound (step : τ → (i : ι) → σ → ρ i → σ → Prop) (I : σ → Prop) (R : τ → σ → σ → Prop)
    (G : τ → ι → σ → Prop) (Q : τ → α → σ → Prop) (c : Crew ι ρ α σ τ) : Prop :=
  I c.state ∧ ∀ t p, c.tasks t = some p → Program.Safe (step t) I (R t) (G t) (Q t) p c.state

theorem Contract.advance (c : Contract step moves programs leave I R G Q)
    {a b : Crew ι ρ α σ τ} (h : Sound step I R G Q a)
    (hs : Step step moves programs leave a b) : Sound step I R G Q b := by
  cases hs with
  | move hm =>
    obtain ⟨hI, hR⟩ := c.move h.1 hm
    exact ⟨hI, fun t p hp => (h.2 t p hp).stable (c.trans t) (hR t)⟩
  | @start s tasks t first hfirst ht =>
    refine ⟨h.1, fun t' p hp => ?_⟩
    by_cases he : t' = t
    · subst he
      obtain rfl : first = p := by simpa using hp
      exact c.start hfirst h.1
    · exact h.2 t' p (by simpa [he] using hp)
  | @call s s' tasks t i next r ht hc =>
    have hsafe := h.2 t _ ht s (c.refl t s) h.1
    obtain ⟨hI, hR⟩ := c.call h.1 hsafe.1 hc
    refine ⟨hI, fun t' p hp => ?_⟩
    by_cases he : t' = t
    · subst he
      obtain rfl : next r = p := by simpa using hp
      exact hsafe.2 r s' hc
    · exact (h.2 t' p (by simpa [he] using hp)).stable (c.trans t') (hR t' he)
  | @drop s s' tasks t hl =>
    obtain ⟨hI, hR⟩ := c.leave h.1 hl
    refine ⟨hI, fun t' p hp => ?_⟩
    by_cases he : t' = t
    · subst he
      simp at hp
    · exact (h.2 t' p (by simpa [he] using hp)).stable (c.trans t') (hR t' he)

/-- A task that is at `p` may go on as `p` is executed. -/
theorem Runs.exec {s s' : σ} {tasks : τ → Option (Program ι ρ α)} {t : τ} {p : Program ι ρ α}
    {tr : List (Program.Event ι ρ)} {o : Option α} (ht : tasks t = some p)
    (he : Program.Exec (step t) p s tr s' o) :
    ∃ q, Runs step moves programs leave ⟨s, tasks⟩ ⟨s', Function.update tasks t (some q)⟩ := by
  induction he generalizing tasks with
  | stop p s => exact ⟨p, by rw [← ht, Function.update_eq_self]⟩
  | done a s => exact ⟨.done a, by rw [← ht, Function.update_eq_self]⟩
  | @call i next s u s' r tr o hs _ ih =>
    obtain ⟨q, hq⟩ := ih (Function.update_self t (some (next r)) tasks)
    rw [Function.update_idem] at hq
    exact ⟨q, .head (.call ht hs) hq⟩

theorem Contract.runs (c : Contract step moves programs leave I R G Q) {a b : Crew ι ρ α σ τ}
    (h : Sound step I R G Q a) (hr : Runs step moves programs leave a b) :
    Sound step I R G Q b := by
  induction hr with
  | refl => exact h
  | tail _ hs ih => exact c.advance ih hs

omit [DecidableEq τ] in
theorem Sound.idle {s : σ} (h : I s) :
    Sound step I R G Q (⟨s, fun _ => none⟩ : Crew ι ρ α σ τ) :=
  ⟨h, fun _ _ hp => by cases hp⟩

end Crew

end AutoVPN
