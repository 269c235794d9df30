import Mathlib.Data.List.Basic

/-! One lease that operations take in turn. An operation writes by its name, so one whose
lease was taken over may still write; the tenure of an operation is what the history
grants it, whatever it writes later. -/

namespace AutoVPN

inductive LeasePhase
  | absent
  | pending
  | running
  | ended
  deriving DecidableEq

namespace LeasePhase

def active : LeasePhase → Bool
  | pending | running => true
  | _ => false

/-- A write leaves an operation alone that does not exist. -/
def put (p q : LeasePhase) : LeasePhase := if q = absent then absent else p

/-- An operation that is failed from outside has ended, unless it was not active. -/
def fail (p : LeasePhase) : LeasePhase := if p.active then ended else p

@[simp] theorem fail_not_active (p : LeasePhase) : p.fail.active = false := by cases p <;> rfl

end LeasePhase

@[ext]
structure Leasing (ω : Type*) where
  phase : ω → LeasePhase
  lease : Option (ω × Nat)

/-- What happens to the lease: an operation is admitted, writes, reports that it runs without
renewing the lease, or finishes; all of them are failed, or removed. -/
inductive LeaseEvent (ω : Type*)
  | grant (o : ω) (now : Nat)
  | write (o : ω) (phase : Option LeasePhase) (now : Nat)
  | report (o : ω)
  | finish (o : ω)
  | clear
  | erase
  | idle

namespace LeaseEvent

variable {ω : Type*} [DecidableEq ω] (expiry : Nat → Nat) (live : Nat → Nat → Prop)

def apply (s : Leasing ω) : LeaseEvent ω → Leasing ω
  | .grant o now =>
    { phase := fun x =>
        if x = o then .pending
        else if s.lease.any fun l => l.1 = x then (s.phase x).fail else s.phase x
      lease := some (o, expiry now) }
  | .write o phase now =>
    { phase := fun x => if x = o then (phase.getD (s.phase o)).put (s.phase o) else s.phase x
      lease := s.lease.map fun l => if l.1 = o then (o, expiry now) else l }
  | .report o =>
    { s with phase := fun x => if x = o then LeasePhase.running.put (s.phase o) else s.phase x }
  | .finish o =>
    { phase := fun x => if x = o then LeasePhase.ended.put (s.phase o) else s.phase x
      lease := s.lease.filter fun l => l.1 ≠ o }
  | .clear => { phase := fun x => (s.phase x).fail, lease := none }
  | .erase => { phase := fun _ => .absent, lease := none }
  | .idle => s

/-- The lease is given out when it is free or over; nothing is removed under a lease. -/
def Enabled (s : Leasing ω) : LeaseEvent ω → Prop
  | .grant _ now => ∀ l, s.lease = some l → ¬ live l.2 now
  | .write _ phase _ => ∀ p, phase = some p → p.active = true
  | .erase => s.lease = none ∧ ∀ x, (s.phase x).active = false
  | _ => True

/-- A write that makes an operation active finds it active. -/
def Current (s : Leasing ω) : LeaseEvent ω → Prop
  | .write o (some _) _ => s.phase o ≠ .ended
  | .report o => s.phase o ≠ .ended
  | _ => True

end LeaseEvent

namespace Leasing

variable {ω : Type*} [DecidableEq ω] {expiry : Nat → Nat} {live : Nat → Nat → Prop}
  {s : Leasing ω} {e : LeaseEvent ω}

/-- Whatever is active holds the lease. -/
def Exclusive (s : Leasing ω) : Prop :=
  ∀ x, (s.phase x).active = true → ∃ t, s.lease = some (x, t)

omit [DecidableEq ω] in
theorem Exclusive.unique (h : s.Exclusive) {x y : ω} (hx : (s.phase x).active = true)
    (hy : (s.phase y).active = true) : x = y := by
  obtain ⟨t, ht⟩ := h x hx
  obtain ⟨u, hu⟩ := h y hy
  exact (Prod.mk.inj (Option.some.inj (ht.symm.trans hu))).1

theorem put_active {p q : LeasePhase} (h : (p.put q).active = true) :
    q ≠ .absent ∧ p.active = true := by
  unfold LeasePhase.put at h
  split at h
  · cases h
  · exact ⟨‹_›, h⟩

theorem active_of_current {q : LeasePhase} (h : q ≠ .absent) (hc : q ≠ .ended) : q.active = true := by
  cases q <;> simp_all [LeasePhase.active]

/-- The holder of the lease survives a write by any operation. -/
theorem lease_write {o x : ω} {now t : Nat} (h : s.lease = some (x, t)) :
    ∃ u, (s.lease.map fun l => if l.1 = o then (o, expiry now) else l) = some (x, u) := by
  rw [h]
  by_cases hx : x = o
  · exact ⟨expiry now, by simp [hx]⟩
  · exact ⟨t, by simp [hx]⟩

theorem Exclusive.step (h : s.Exclusive) (he : e.Enabled live s) (hc : e.Current s) :
    (e.apply expiry s).Exclusive := by
  intro x hx
  cases e with
  | grant o now =>
    by_cases hxo : x = o
    · exact ⟨expiry now, by rw [hxo]; rfl⟩
    · simp only [LeaseEvent.apply, hxo, if_false] at hx
      split at hx
      · rw [LeasePhase.fail_not_active] at hx
        cases hx
      · rename_i hholder
        obtain ⟨t, ht⟩ := h x hx
        exact absurd (by simp [ht]) hholder
  | write o phase now =>
    refine (?_ : ∃ t, s.lease = some (x, t)).elim fun t ht => lease_write ht
    by_cases hxo : x = o
    · subst hxo
      simp only [LeaseEvent.apply, if_true] at hx
      obtain ⟨hpresent, hactive⟩ := put_active hx
      cases phase with
      | none => exact h x hactive
      | some p => exact h x (active_of_current hpresent hc)
    · simp only [LeaseEvent.apply, hxo, if_false] at hx
      exact h x hx
  | report o =>
    by_cases hxo : x = o
    · subst hxo
      simp only [LeaseEvent.apply, if_true] at hx
      exact h x (active_of_current (put_active hx).1 hc)
    · simp only [LeaseEvent.apply, hxo, if_false] at hx
      exact h x hx
  | finish o =>
    by_cases hxo : x = o
    · subst hxo
      simp only [LeaseEvent.apply, if_true] at hx
      cases (put_active hx).2
    · simp only [LeaseEvent.apply, hxo, if_false] at hx
      obtain ⟨t, ht⟩ := h x hx
      exact ⟨t, by simp [LeaseEvent.apply, ht, hxo]⟩
  | clear => simp [LeaseEvent.apply] at hx
  | erase => cases hx
  | idle => exact h x hx

/-- An operation that has ended is active again only when it is admitted. -/
theorem ended_stays {x : ω} (hx : s.phase x = .ended) (hc : e.Current s)
    (hactive : ((e.apply expiry s).phase x).active = true) : ∃ now, e = .grant x now := by
  cases e with
  | grant o now =>
    by_cases hxo : x = o
    · exact ⟨now, by rw [hxo]⟩
    · simp only [LeaseEvent.apply, hxo, if_false, hx] at hactive
      split at hactive <;> cases hactive
  | write o phase now =>
    exfalso
    by_cases hxo : x = o
    · subst hxo
      cases phase with
      | none => simp [LeaseEvent.apply, LeasePhase.put, hx, LeasePhase.active] at hactive
      | some p => exact hc hx
    · simp [LeaseEvent.apply, hxo, hx, LeasePhase.active] at hactive
  | report o =>
    exfalso
    by_cases hxo : x = o
    · subst hxo
      exact hc hx
    · simp [LeaseEvent.apply, hxo, hx, LeasePhase.active] at hactive
  | finish o =>
    exfalso
    by_cases hxo : x = o <;> simp [LeaseEvent.apply, hxo, hx, LeasePhase.active, LeasePhase.put] at hactive
    subst hxo
    simp [hx] at hactive
  | clear => simp [LeaseEvent.apply] at hactive
  | erase => cases hactive
  | idle =>
    exfalso
    simp [LeaseEvent.apply, hx, LeasePhase.active] at hactive

end Leasing

/-- What the history grants an operation: whether it has reported that it runs, and until when. -/
structure Tenure where
  begun : Bool
  expires : Nat

namespace LeaseEvent

variable {ω : Type*} [DecidableEq ω] (expiry : Nat → Nat)

/-- The tenures after an event, read off the event alone. -/
def tenure (g : ω → Option Tenure) : LeaseEvent ω → ω → Option Tenure
  | .grant o now => fun x => if x = o then some ⟨false, expiry now⟩ else none
  | .write o phase now => fun x =>
    if x = o then (g o).map fun t => ⟨(phase.map (· == .running)).getD t.begun, expiry now⟩ else g x
  | .report o => fun x => if x = o then (g o).map fun t => { t with begun := true } else g x
  | .finish o => fun x => if x = o then none else g x
  | .clear | .erase => fun _ => none
  | .idle => g

end LeaseEvent

namespace Leasing

variable {ω : Type*} [DecidableEq ω] {expiry : Nat → Nat} {live : Nat → Nat → Prop}
  {s : Leasing ω} {g : ω → Option Tenure} {e : LeaseEvent ω}

/-- The lease is held by whoever has tenure, in the phase and until the time that it tells. -/
structure Tenured (s : Leasing ω) (g : ω → Option Tenure) : Prop where
  holds : ∀ x t, g x = some t →
    s.lease = some (x, t.expires) ∧ s.phase x = if t.begun then .running else .pending
  vacant : ∀ x, g x = none → ∀ u, s.lease ≠ some (x, u)

omit [DecidableEq ω] in
/-- An operation holds the lease and runs just where it has tenure and has reported so. -/
theorem Tenured.running_iff (h : s.Tenured g) {x : ω} {u : Nat} :
    s.lease = some (x, u) ∧ s.phase x = .running ↔ g x = some ⟨true, u⟩ := by
  constructor
  · rintro ⟨hl, hp⟩
    cases hg : g x with
    | none => exact absurd hl (h.vacant x hg u)
    | some t =>
      obtain ⟨hlease, hphase⟩ := h.holds x t hg
      have hu : t.expires = u := (Prod.mk.inj (Option.some.inj (hlease.symm.trans hl))).2
      have hb : t.begun = true := by
        by_contra hb
        rw [if_neg hb, hp] at hphase
        cases hphase
      rw [← hu, ← hb]
  · intro hg
    exact h.holds x _ hg

theorem Tenured.step (h : s.Tenured g) (he : e.Enabled live s) :
    (e.apply expiry s).Tenured (e.tenure expiry g) := by
  cases e with
  | grant o now =>
    refine ⟨fun x t hx => ?_, fun x hx u hl => ?_⟩
    · by_cases hxo : x = o
      · subst hxo
        simp only [LeaseEvent.tenure, if_true, Option.some.injEq] at hx
        subst hx
        exact ⟨rfl, by simp [LeaseEvent.apply]⟩
      · simp [LeaseEvent.tenure, hxo] at hx
    · by_cases hxo : x = o
      · simp [LeaseEvent.tenure, hxo] at hx
      · exact hxo (Prod.mk.inj (Option.some.inj hl)).1.symm
  | write o phase now =>
    refine ⟨fun x t hx => ?_, fun x hx u hl => ?_⟩
    · by_cases hxo : x = o
      · subst hxo
        simp only [LeaseEvent.tenure, if_true, Option.map_eq_some_iff] at hx
        obtain ⟨t, hg, rfl⟩ := hx
        obtain ⟨hlease, hphase⟩ := h.holds x t hg
        refine ⟨by simp [LeaseEvent.apply, hlease], ?_⟩
        have hpresent : s.phase x ≠ .absent := by
          rw [hphase]
          split <;> nofun
        simp only [LeaseEvent.apply, if_true, LeasePhase.put, hpresent, if_false]
        cases phase with
        | none => simpa using hphase
        | some p =>
          have hp := he p rfl
          cases p <;> simp_all [LeasePhase.active]
      · simp only [LeaseEvent.tenure, hxo, if_false] at hx
        obtain ⟨hlease, hphase⟩ := h.holds x t hx
        exact ⟨by simp [LeaseEvent.apply, hlease, hxo], by simpa [LeaseEvent.apply, hxo] using hphase⟩
    · simp only [LeaseEvent.apply, Option.map_eq_some_iff] at hl
      obtain ⟨⟨y, t⟩, hy, hl⟩ := hl
      by_cases hyo : y = o
      · rw [if_pos hyo] at hl
        obtain rfl : o = x := (Prod.mk.inj hl).1
        simp only [LeaseEvent.tenure, if_true, Option.map_eq_none_iff] at hx
        exact h.vacant o hx t (by rw [hy, hyo])
      · rw [if_neg hyo] at hl
        obtain rfl : y = x := (Prod.mk.inj hl).1
        simp only [LeaseEvent.tenure, hyo, if_false] at hx
        exact h.vacant y hx t hy
  | report o =>
    refine ⟨fun x t hx => ?_, fun x hx u hl => ?_⟩
    · by_cases hxo : x = o
      · subst hxo
        simp only [LeaseEvent.tenure, if_true, Option.map_eq_some_iff] at hx
        obtain ⟨t, hg, rfl⟩ := hx
        obtain ⟨hlease, hphase⟩ := h.holds x t hg
        refine ⟨hlease, ?_⟩
        have hpresent : s.phase x ≠ .absent := by
          rw [hphase]
          split <;> nofun
        simp [LeaseEvent.apply, LeasePhase.put, hpresent]
      · simp only [LeaseEvent.tenure, hxo, if_false] at hx
        obtain ⟨hlease, hphase⟩ := h.holds x t hx
        exact ⟨hlease, by simpa [LeaseEvent.apply, hxo] using hphase⟩
    · by_cases hxo : x = o
      · subst hxo
        simp only [LeaseEvent.tenure, if_true, Option.map_eq_none_iff] at hx
        exact h.vacant x hx u hl
      · simp only [LeaseEvent.tenure, hxo, if_false] at hx
        exact h.vacant x hx u hl
  | finish o =>
    refine ⟨fun x t hx => ?_, fun x hx u hl => ?_⟩
    · by_cases hxo : x = o
      · simp [LeaseEvent.tenure, hxo] at hx
      · simp only [LeaseEvent.tenure, hxo, if_false] at hx
        obtain ⟨hlease, hphase⟩ := h.holds x t hx
        exact ⟨by simp [LeaseEvent.apply, hlease, hxo], by simpa [LeaseEvent.apply, hxo] using hphase⟩
    · obtain ⟨hlease, hkept⟩ := Option.filter_eq_some_iff.mp hl
      have hxo : x ≠ o := by simpa using hkept
      simp only [LeaseEvent.tenure, hxo, if_false] at hx
      exact h.vacant x hx u hlease
  | clear | erase => exact ⟨nofun, fun x _ u => nofun⟩
  | idle => exact h

end Leasing

end AutoVPN
