import Mathlib.Algebra.Order.Floor.Ring
import Mathlib.Data.Rat.Floor
import Mathlib.Data.List.Chain
import Mathlib.Tactic.Linarith

/-! The limit on failed logins: a window of failures for each client, a block when it is full, and how
many passwords of a client can be tried in any stretch of time. The clock is a float, so its sums and
differences are rounded. -/

namespace AutoVPN

namespace LoginLimiter

structure LoginRateLimiter where
  maxFailures : ℤ := 10
  windowSeconds : ℤ := 300
  blockSeconds : ℤ := 300

structure Limits (κ : Type) where
  failures : κ → List ℚ := fun _ => []
  blockedUntil : κ → Option ℚ := fun _ => none

/-- A login, from the question whether its client is blocked to the verdict on its credentials; the
clock counts from zero. -/
structure Attempt (κ : Type) where
  key : κ
  usernameOk : Bool
  passwordOk : Bool
  start : ℚ
  finish : ℚ
  start_nonneg : 0 ≤ start
  start_le_finish : start ≤ finish

inductive Outcome
  | tooManyRequests (retryAfter : ℤ)
  | verified
  | failed
  deriving DecidableEq

def truncate (x : ℚ) : ℤ := if 0 ≤ x then ⌊x⌋ else ⌈x⌉

/-- What is known of the rounding to doubles: it keeps the order and zero, and up to a bound it is off
by `ε` at most. -/
structure Rounds (fl : ℚ → ℚ) (bound ε : ℚ) : Prop where
  monotone : Monotone fl
  zero : fl 0 = 0
  error_nonneg : 0 ≤ ε
  near : ∀ x, 0 ≤ x → x ≤ bound → |fl x - x| ≤ ε

variable {κ : Type} [DecidableEq κ] (fl : ℚ → ℚ) (l : LoginRateLimiter)

/-- The seconds to wait; a block that is over is forgotten. -/
def retryAfter (s : Limits κ) (key : κ) (now : ℚ) : ℤ × Limits κ :=
  match s.blockedUntil key with
  | none => (0, s)
  | some stop =>
    if stop ≠ 0 ∧ now < stop then (truncate (fl (stop - now)) + 1, s)
    else if stop ≠ 0 then (0, { s with blockedUntil := Function.update s.blockedUntil key none })
    else (0, s)

def bucket (s : Limits κ) (key : κ) (now : ℚ) : List ℚ :=
  (s.failures key).filter (fun t => fl (now - t) < l.windowSeconds) ++ [now]

def registerFailure (s : Limits κ) (key : κ) (now : ℚ) : Limits κ :=
  if l.maxFailures ≤ (bucket fl l s key now).length then
    { failures := Function.update s.failures key []
      blockedUntil := Function.update s.blockedUntil key (some (fl (now + l.blockSeconds))) }
  else { s with failures := Function.update s.failures key (bucket fl l s key now) }

def registerSuccess (s : Limits κ) (key : κ) : Limits κ where
  failures := Function.update s.failures key []
  blockedUntil := Function.update s.blockedUntil key none

def verifyAdminCredentials (s : Limits κ) (a : Attempt κ) : Outcome × Limits κ :=
  let (wait, s) := retryAfter fl s a.key a.start
  if wait ≠ 0 then (.tooManyRequests wait, s)
  else if a.usernameOk ∧ a.passwordOk then (.verified, registerSuccess s a.key)
  else (.failed, registerFailure fl l s a.key a.finish)

/-- The attempts, one at a time, with what becomes of each. -/
def trace : Limits κ → List (Attempt κ) → List (Attempt κ × Outcome)
  | _, [] => []
  | s, a :: rest =>
    let (outcome, s') := verifyAdminCredentials fl l s a
    (a, outcome) :: trace s' rest

/-- No attempt starts before the one in front of it is over. -/
def Sequential (attempts : List (Attempt κ)) : Prop :=
  attempts.IsChain fun a b => a.finish ≤ b.start

/-! One attempt. -/

variable {fl l} {bound ε : ℚ} (hfl : Rounds fl bound ε)

omit [DecidableEq κ] in
theorem Rounds.nonneg {x : ℚ} (hfl : Rounds fl bound ε) (h : 0 ≤ x) : 0 ≤ fl x := by
  have hle := hfl.monotone h
  rwa [hfl.zero] at hle

theorem wait_ne_zero {stop now : ℚ} (hfl : Rounds fl bound ε) (h : now < stop) :
    truncate (fl (stop - now)) + 1 ≠ 0 := by
  have hleft := hfl.nonneg (sub_nonneg.mpr h.le)
  have hfloor : 0 ≤ ⌊fl (stop - now)⌋ := Int.floor_nonneg.mpr hleft
  rw [truncate, if_pos hleft]
  omega

include hfl

/-- An attempt is refused and changes nothing, or the block is none or over and its credentials
decide. -/
theorem verify_cases (s : Limits κ) (a : Attempt κ) {outcome : Outcome} {s' : Limits κ}
    (h : verifyAdminCredentials fl l s a = (outcome, s')) :
    ((∃ wait, outcome = .tooManyRequests wait) ∧ s' = s) ∨
      (∀ stop, s.blockedUntil a.key = some stop → stop ≠ 0 → stop ≤ a.start) ∧
        ∃ t : Limits κ, t.failures = s.failures ∧
          (∀ key, key ≠ a.key → t.blockedUntil key = s.blockedUntil key) ∧
          (outcome = .verified ∧ s' = registerSuccess t a.key ∨
            outcome = .failed ∧ s' = registerFailure fl l t a.key a.finish) := by
  have hverdict (t : Limits κ) (ht : (if a.usernameOk ∧ a.passwordOk then
      (Outcome.verified, registerSuccess t a.key)
      else (.failed, registerFailure fl l t a.key a.finish)) = (outcome, s')) :
      outcome = .verified ∧ s' = registerSuccess t a.key ∨
        outcome = .failed ∧ s' = registerFailure fl l t a.key a.finish := by
    split at ht
    · exact .inl ⟨(congrArg Prod.fst ht).symm, (congrArg Prod.snd ht).symm⟩
    · exact .inr ⟨(congrArg Prod.fst ht).symm, (congrArg Prod.snd ht).symm⟩
  unfold verifyAdminCredentials retryAfter at h
  cases hblock : s.blockedUntil a.key with
  | none =>
    rw [hblock] at h
    exact .inr ⟨fun stop hs => absurd hs (by simp), s, rfl, fun _ _ => rfl, hverdict s h⟩
  | some stop =>
    rw [hblock] at h
    by_cases hblocked : stop ≠ 0 ∧ a.start < stop
    · simp only [if_pos hblocked, if_pos (wait_ne_zero hfl hblocked.2), Prod.mk.injEq] at h
      exact .inl ⟨⟨_, h.1.symm⟩, h.2.symm⟩
    · have hover : ∀ stop', some stop = some stop' → stop' ≠ 0 → stop' ≤ a.start := by
        intro stop' hs hne
        obtain rfl := Option.some.inj hs
        exact not_lt.mp fun hlt => hblocked ⟨hne, hlt⟩
      simp only [if_neg hblocked] at h
      refine .inr ⟨hover, ?_⟩
      by_cases hzero : stop ≠ 0
      · simp only [if_pos hzero] at h
        exact ⟨{ s with blockedUntil := Function.update s.blockedUntil a.key none }, rfl,
          fun key hk => Function.update_of_ne hk _ _, hverdict _ h⟩
      · simp only [if_neg hzero] at h
        exact ⟨s, rfl, fun _ _ => rfl, hverdict s h⟩

theorem verify_frame {s s' : Limits κ} {a : Attempt κ} {outcome : Outcome}
    (h : verifyAdminCredentials fl l s a = (outcome, s')) {key : κ} (hkey : a.key ≠ key) :
    s'.failures key = s.failures key ∧ s'.blockedUntil key = s.blockedUntil key := by
  obtain ⟨-, rfl⟩ | ⟨-, t, hf, hb, ⟨-, rfl⟩ | ⟨-, rfl⟩⟩ := verify_cases hfl s a h
  · exact ⟨rfl, rfl⟩
  · simp only [registerSuccess, Function.update_of_ne hkey.symm, hf, hb key hkey.symm, and_self]
  · unfold registerFailure
    split <;> simp only [Function.update_of_ne hkey.symm, hf, hb key hkey.symm, and_self]

omit hfl

/-! A window. -/

def Counted (key : κ) (first last : ℚ) (p : Attempt κ × Outcome) : Prop :=
  p.1.key = key ∧ p.2 = .failed ∧ p.1.start < last ∧ first ≤ p.1.finish

instance (key : κ) (first last : ℚ) (p : Attempt κ × Outcome) : Decidable (Counted key first last p) :=
  inferInstanceAs (Decidable (_ ∧ _ ∧ _ ∧ _))

/-- What bounds the failures of a key in a window after some of them: there are none, the window is
over, the key is blocked until it is over, or the failures are all in the bucket. -/
def Bounded (l : LoginRateLimiter) (key : κ) (first last now : ℚ) (count : Nat) (s : Limits κ) : Prop :=
  count = 0 ∨ (first ≤ now ∧
    ((last ≤ now ∧ (count : ℤ) ≤ max 1 l.maxFailures) ∨
      (∃ stop, s.blockedUntil key = some stop ∧ stop ≠ 0 ∧ last ≤ stop ∧
        (count : ℤ) ≤ max 1 l.maxFailures) ∨
      ((count : ℤ) < l.maxFailures ∧
        count ≤ ((s.failures key).filter (fun t => decide (first ≤ t))).length)))

omit [DecidableEq κ] in
theorem Bounded.count_le {key : κ} {first last now : ℚ} {count : Nat} {s : Limits κ}
    (h : Bounded l key first last now count s) : (count : ℤ) ≤ max 1 l.maxFailures := by
  rcases h with rfl | ⟨-, ⟨-, h⟩ | ⟨stop, -, -, -, h⟩ | ⟨h, -⟩⟩
  · exact le_max_of_le_left (by decide)
  · exact h
  · exact h
  · exact le_max_of_le_right h.le

omit [DecidableEq κ] in
theorem Bounded.congr {key : κ} {first last now now' : ℚ} {count : Nat} {s s' : Limits κ}
    (h : Bounded l key first last now count s) (hnow : now ≤ now')
    (hs : s'.failures key = s.failures key ∧ s'.blockedUntil key = s.blockedUntil key) :
    Bounded l key first last now' count s' := by
  rcases h with h | ⟨hfirst, ⟨hlast, h⟩ | h⟩
  · exact .inl h
  · exact .inr ⟨hfirst.trans hnow, .inl ⟨hlast.trans hnow, h⟩⟩
  · exact .inr ⟨hfirst.trans hnow, .inr (by rwa [hs.1, hs.2])⟩

/-- A failure in the window is one more in the bucket, or the bucket is full and the block lasts
until the window is over. -/
theorem bounded_registerFailure {key : κ} {first : ℚ} {now : ℚ} {count : Nat} {s : Limits κ}
    (hfl : Rounds fl bound ε) (hblock : l.windowSeconds ≤ l.blockSeconds) (hnonneg : 0 ≤ now)
    (hbound : now + l.blockSeconds ≤ bound) (hfirst : first ≤ now)
    (hcount : (count : ℤ) ≤ max 1 l.maxFailures - 1)
    (hbucket : count ≤ ((s.failures key).filter (fun t => decide (first ≤ t))).length) :
    Bounded l key first (first + (l.windowSeconds - ε)) now (count + 1)
      (registerFailure fl l s key now) := by
  have hcast : (l.windowSeconds : ℚ) ≤ l.blockSeconds := Int.cast_le.mpr hblock
  have hsucc : ((count + 1 : Nat) : ℤ) ≤ max 1 l.maxFailures := by
    rw [Nat.cast_succ]
    omega
  refine .inr ⟨hfirst, ?_⟩
  by_cases hlast : first + (l.windowSeconds - ε) ≤ now
  · exact .inl ⟨hlast, hsucc⟩
  rw [not_le] at hlast
  have herror := hfl.error_nonneg
  have hpositive : (0 : ℚ) < l.windowSeconds := by linarith
  have hblocked := abs_le.mp (hfl.near (now + l.blockSeconds) (by linarith) hbound)
  -- no failure of the window is old enough to be dropped
  have hkept : ((s.failures key).filter (fun t => decide (first ≤ t))).length ≤
      (((s.failures key).filter (fun t => fl (now - t) < l.windowSeconds)).filter
        (fun t => decide (first ≤ t))).length := by
    rw [List.filter_filter]
    refine (List.monotone_filter_right _ fun t ht => ?_).length_le
    have ht := of_decide_eq_true ht
    simp only [Bool.and_eq_true, decide_eq_true_eq]
    refine ⟨ht, ?_⟩
    rcases le_total t now with hpast | hfuture
    · have hnear := abs_le.mp (hfl.near (now - t) (sub_nonneg.mpr hpast) (by linarith))
      linarith
    · have hle := hfl.monotone (sub_nonpos.mpr hfuture)
      rw [hfl.zero] at hle
      exact hle.trans_lt hpositive
  unfold registerFailure
  split
  · refine .inr (.inl ⟨fl (now + l.blockSeconds), Function.update_self .., ?_, by linarith, hsucc⟩)
    exact (show (0 : ℚ) < fl (now + l.blockSeconds) by linarith).ne'
  · rename_i hfull
    refine .inr (.inr ?_)
    have hlength :
        count + 1 ≤ ((bucket fl l s key now).filter (fun t => decide (first ≤ t))).length := by
      rw [bucket, List.filter_append, List.length_append, List.filter_singleton, decide_eq_true hfirst]
      exact Nat.succ_le_succ (hbucket.trans hkept)
    refine ⟨?_, by simpa only [Function.update_self] using hlength⟩
    have htotal := hlength.trans (List.length_filter_le _ _)
    rw [not_le] at hfull
    exact lt_of_le_of_lt (Int.ofNat_le.mpr htotal) hfull

theorem Bounded.step {key : κ} {first now : ℚ} {count : Nat} {s s' : Limits κ} {a : Attempt κ}
    {outcome : Outcome} (h : Bounded l key first (first + (l.windowSeconds - ε)) now count s)
    (hfl : Rounds fl bound ε) (hblock : l.windowSeconds ≤ l.blockSeconds) (hnow : now ≤ a.start)
    (hbound : a.finish + l.blockSeconds ≤ bound)
    (hstep : verifyAdminCredentials fl l s a = (outcome, s'))
    (hsuccess : a.key = key → outcome = .verified →
      ¬(first ≤ a.start ∧ a.finish < first + (l.windowSeconds - ε))) :
    Bounded l key first (first + (l.windowSeconds - ε)) a.finish
      (count + if Counted key first (first + (l.windowSeconds - ε)) (a, outcome) then 1 else 0) s' := by
  have hfinish : now ≤ a.finish := hnow.trans a.start_le_finish
  by_cases hkey : a.key = key
  swap
  · rw [if_neg fun hc => hkey hc.1]
    exact h.congr hfinish (verify_frame hfl hstep hkey)
  subst hkey
  obtain ⟨⟨wait, rfl⟩, rfl⟩ | ⟨hopen, t, hf, -, ⟨rfl, rfl⟩ | ⟨rfl, rfl⟩⟩ := verify_cases hfl s a hstep
  · rw [if_neg fun hc => absurd hc.2.1 (by simp)]
    exact h.congr hfinish ⟨rfl, rfl⟩
  · rw [if_neg fun hc => absurd hc.2.1 (by simp), Nat.add_zero]
    rcases h with rfl | ⟨hfirst, h⟩
    · exact .inl rfl
    · have hlast := not_and.mp (hsuccess rfl rfl) (hfirst.trans hnow)
      exact .inr ⟨hfirst.trans hfinish, .inl ⟨not_lt.mp hlast, Bounded.count_le (.inr ⟨hfirst, h⟩)⟩⟩
  · by_cases hcounted : Counted a.key first (first + (l.windowSeconds - ε)) (a, Outcome.failed)
    · rw [if_pos hcounted]
      obtain ⟨-, -, hlast, hfirst⟩ := hcounted
      have hnonneg : 0 ≤ a.finish := a.start_nonneg.trans a.start_le_finish
      rcases h with rfl | ⟨-, ⟨hover, -⟩ | ⟨stop, hstop, hne, hover, -⟩ | ⟨hlt, hbucket⟩⟩
      · exact bounded_registerFailure hfl hblock hnonneg hbound hfirst (by simp) (Nat.zero_le _)
      · exact absurd (hover.trans hnow) (not_le.mpr hlast)
      · exact absurd (hover.trans (hopen stop hstop hne)) (not_le.mpr hlast)
      · exact bounded_registerFailure hfl hblock hnonneg hbound hfirst (by omega) (by rwa [hf])
    · rw [if_neg hcounted, Nat.add_zero]
      rcases h with rfl | ⟨hfirst, h⟩
      · exact .inl rfl
      · have hlast : first + (l.windowSeconds - ε) ≤ a.start :=
          not_lt.mp fun hlt => hcounted ⟨rfl, rfl, hlt, hfirst.trans hfinish⟩
        exact .inr ⟨hfirst.trans hfinish, .inl ⟨hlast.trans a.start_le_finish,
          Bounded.count_le (.inr ⟨hfirst, h⟩)⟩⟩

theorem Bounded.run {key : κ} {first now : ℚ} {count : Nat} {s : Limits κ}
    {attempts : List (Attempt κ)} (h : Bounded l key first (first + (l.windowSeconds - ε)) now count s)
    (hfl : Rounds fl bound ε) (hblock : l.windowSeconds ≤ l.blockSeconds)
    (hnow : ∀ a ∈ attempts.head?, now ≤ a.start)
    (hbound : ∀ a ∈ attempts, a.finish + l.blockSeconds ≤ bound)
    (hsequential : Sequential attempts)
    (hsuccess : ∀ p ∈ trace fl l s attempts, p.1.key = key → p.2 = .verified →
      ¬(first ≤ p.1.start ∧ p.1.finish < first + (l.windowSeconds - ε))) :
    ((count + (trace fl l s attempts).countP (fun p =>
      decide (Counted key first (first + (l.windowSeconds - ε)) p)) : Nat) : ℤ) ≤ max 1 l.maxFailures := by
  induction attempts generalizing now count s with
  | nil => exact h.count_le
  | cons a rest ih =>
    rcases hstep : verifyAdminCredentials fl l s a with ⟨outcome, s'⟩
    have htrace : trace fl l s (a :: rest) = (a, outcome) :: trace fl l s' rest := by
      rw [trace, hstep]
    rw [htrace] at hsuccess ⊢
    have hnext := h.step hfl hblock (hnow a rfl) (hbound a List.mem_cons_self) hstep
      (hsuccess (a, outcome) List.mem_cons_self)
    have hrest := ih hnext (fun b hb => ?_) (fun b hb => hbound b (List.mem_cons_of_mem _ hb)) ?_
      (fun p hp => hsuccess p (List.mem_cons_of_mem _ hp))
    · rw [List.countP_cons, Nat.add_comm (List.countP _ _), ← Nat.add_assoc]
      simpa only [decide_eq_true_eq] using hrest
    · cases rest with
      | nil => cases hb
      | cons c rest =>
        obtain rfl := Option.some.inj hb
        exact (List.isChain_cons_cons.mp hsequential).1
    · exact hsequential.tail

/-- However the failures of a key lie around its blocks, a half-open window without a login of the key
that is shorter than `windowSeconds` by the rounding error meets no more of them than the limit allows, and
one where the limit is not positive. -/
theorem failures_in_window_le (hfl : Rounds fl bound ε) (hblock : l.windowSeconds ≤ l.blockSeconds)
    (attempts : List (Attempt κ)) (hsequential : Sequential attempts)
    (hbound : ∀ a ∈ attempts, a.finish + l.blockSeconds ≤ bound) (key : κ) (first : ℚ)
    (hsuccess : ∀ p ∈ trace fl l {} attempts, p.1.key = key → p.2 = .verified →
      ¬(first ≤ p.1.start ∧ p.1.finish < first + (l.windowSeconds - ε))) :
    ((trace fl l {} attempts).countP (fun p =>
      decide (Counted key first (first + (l.windowSeconds - ε)) p)) : ℤ) ≤ max 1 l.maxFailures := by
  have hnow : ∀ a ∈ attempts.head?, (0 : ℚ) ≤ a.start := fun a _ => a.start_nonneg
  have hstart : Bounded l key first (first + (l.windowSeconds - ε)) 0 0 ({} : Limits κ) := .inl rfl
  have h := hstart.run hfl hblock hnow hbound hsequential hsuccess
  rwa [Nat.zero_add] at h

namespace LimiterSample

/-- The integer next to `x`, the even one of two. -/
def halfEven (x : ℚ) : ℤ :=
  if x - ⌊x⌋ < 1 / 2 ∨ x - ⌊x⌋ = 1 / 2 ∧ ⌊x⌋ % 2 = 0 then ⌊x⌋ else ⌊x⌋ + 1

/-- The rounding to doubles where these are the multiples of `2 ^ -k`. -/
def nearest (k : Nat) (x : ℚ) : ℚ := halfEven (x * 2 ^ k) / 2 ^ k

theorem halfEven_le_halfEven {x y : ℚ} (h : x ≤ y) : halfEven x ≤ halfEven y := by
  have hfloor : ⌊x⌋ ≤ ⌊y⌋ := Int.floor_mono h
  rcases hfloor.lt_or_eq with hlt | heq
  · have hup : halfEven x ≤ ⌊x⌋ + 1 := by
      unfold halfEven
      split <;> omega
    have hdown : ⌊y⌋ ≤ halfEven y := by
      unfold halfEven
      split <;> omega
    omega
  · unfold halfEven
    rw [← heq]
    split
    · split <;> omega
    · rename_i hx
      rw [if_neg]
      rintro (hy | ⟨hy, heven⟩)
      · exact hx (.inl (by linarith))
      · rcases (sub_le_sub_right h (⌊x⌋ : ℚ)).trans_eq hy |>.lt_or_eq with hx' | hx'
        · exact hx (.inl hx')
        · exact hx (.inr ⟨hx', heven⟩)

theorem halfEven_near (x : ℚ) : |(halfEven x : ℚ) - x| ≤ 1 / 2 := by
  have hle := Int.floor_le x
  have hlt := Int.lt_floor_add_one x
  rw [abs_le]
  unfold halfEven
  split
  · rename_i h
    have hhalf : x - ⌊x⌋ ≤ 1 / 2 := h.elim le_of_lt fun h => h.1.le
    constructor <;> linarith
  · rename_i h
    have hhalf : 1 / 2 ≤ x - ⌊x⌋ := not_lt.mp fun hlt => h (.inl hlt)
    push_cast
    constructor <;> linarith

theorem rounds_nearest (k : Nat) (bound : ℚ) : Rounds (nearest k) bound (1 / 2 / 2 ^ k) where
  monotone := by
    intro x y h
    have hpow : (0 : ℚ) < 2 ^ k := by positivity
    have hscaled : halfEven (x * 2 ^ k) ≤ halfEven (y * 2 ^ k) :=
      halfEven_le_halfEven (mul_le_mul_of_nonneg_right h hpow.le)
    exact div_le_div_of_nonneg_right (Int.cast_le.mpr hscaled) hpow.le
  zero := by simp [nearest, halfEven]
  error_nonneg := by positivity
  near := by
    intro x _ _
    have hpow : (0 : ℚ) < 2 ^ k := by positivity
    have hscaled := halfEven_near (x * 2 ^ k)
    rw [nearest, ← mul_div_cancel_right₀ x hpow.ne', ← sub_div, abs_div, abs_of_pos hpow,
      mul_div_cancel_right₀ _ hpow.ne']
    exact div_le_div_of_nonneg_right hscaled hpow.le

def wrong (second : ℚ) (h : 0 ≤ second) : Attempt Unit where
  key := ()
  usernameOk := true
  passwordOk := false
  start := second
  finish := second
  start_nonneg := h
  start_le_finish := le_rfl

/-- Three failures, the third of them at the end of the block that the second one set. -/
def attempts : List (Attempt Unit) :=
  [wrong 1 (by decide), wrong 2 (by decide), wrong 3 (by decide), wrong 302 (by decide)]

def limiter : LoginRateLimiter := { maxFailures := 2 }

theorem outcomes : (trace (nearest 43) limiter {} attempts).map Prod.snd =
    [.failed, .failed, .tooManyRequests 300, .failed] := by decide +kernel

/-- The sum of the first reading and the block lies between two doubles. -/
def late : List (Attempt Unit) :=
  [wrong (2 ^ 18 - 100 + 1 / 2 ^ 35) (by norm_num), wrong (2 ^ 18 + 200) (by norm_num)]

theorem no_success {fl : ℚ → ℚ} {l : LoginRateLimiter} {attempts : List (Attempt Unit)}
    (h : ((trace fl l {} attempts).map Prod.snd).all (fun o => decide (o ≠ .verified)) = true) :
    ∀ p ∈ trace fl l {} attempts, p.2 ≠ .verified := fun p hp =>
  of_decide_eq_true (List.all_eq_true.mp h p.2 (List.mem_map_of_mem hp))

end LimiterSample

open LimiterSample in
/-- The window of the first failure has two. -/
theorem failures_in_window_le_two :
    ((trace (nearest 43) limiter {} attempts).countP (fun p =>
      decide (Counted () 1 (1 + (limiter.windowSeconds - 1 / 2 / 2 ^ 43)) p)) : ℤ) ≤ max 1 2 := by
  refine failures_in_window_le (rounds_nearest 43 1023) (by decide) attempts ?_ ?_ () 1 ?_
  · refine List.isChain_cons_cons.mpr ⟨?_, List.isChain_cons_cons.mpr ⟨?_, ?_⟩⟩
    all_goals decide
  · simp only [attempts, List.forall_mem_cons, List.not_mem_nil, false_implies, implies_true, and_true]
    refine ⟨?_, ?_, ?_, ?_⟩ <;> norm_num [wrong, limiter]
  · exact fun p hp _ hverified => absurd hverified (no_success (by decide +kernel) p hp)

open LimiterSample in
/-- The first wrong password is tried even where the limit is zero; and where the end of a block is rounded
down, a window of `windowSeconds` has one failure too many. -/
theorem limit_exceeded :
    (¬∀ l : LoginRateLimiter, l.windowSeconds ≤ l.blockSeconds →
      ∀ attempts : List (Attempt Unit), Sequential attempts → ∀ (key : Unit) (first : ℚ),
        (∀ p ∈ trace id l {} attempts, p.1.key = key → p.2 = .verified →
          ¬(first ≤ p.1.start ∧ p.1.finish < first + l.windowSeconds)) →
        ((trace id l {} attempts).countP (fun p =>
          decide (Counted key first (first + l.windowSeconds) p)) : ℤ) ≤ l.maxFailures) ∧
    Sequential late ∧
    (∀ p ∈ trace (nearest 34) { maxFailures := 1 } {} late, p.2 ≠ .verified) ∧
    (trace (nearest 34) { maxFailures := 1 } {} late).countP (fun p =>
      decide (Counted () (2 ^ 18 - 100 + 1 / 2 ^ 35) (2 ^ 18 - 100 + 1 / 2 ^ 35 + 300) p)) = 2 := by
  refine ⟨fun h => ?_, ?_, no_success (by decide +kernel), by decide +kernel⟩
  · have hcount := h { maxFailures := 0 } (by decide) [wrong 1 (by decide)] (List.isChain_singleton _)
      () 1 fun p hp _ hverified => absurd hverified (no_success (by decide +kernel) p hp)
    exact absurd hcount (by decide +kernel)
  · refine List.isChain_cons_cons.mpr ⟨?_, List.isChain_singleton _⟩
    norm_num [wrong]

end LoginLimiter

end AutoVPN
