import Mathlib.Data.List.Induction
import Mathlib.Data.Set.Lattice
import Mathlib.Order.CompletePartialOrder
import Mathlib.Order.Interval.Set.Basic
import Mathlib.Tactic.Ring
import AutoVPN.Lib.Text
import AutoVPN.Lib.Value

/-! Networks of the fourth version of the internet protocol: the addresses of a network, when two
networks share one, and the notation with dots and a prefix length. -/

namespace AutoVPN

/-! Decimal numerals without leading zeros. -/

def isNumeral (cs : List Char) : Bool :=
  cs.all Char.isDigit && !cs.isEmpty && (cs.length == 1 || cs.head? != some '0')

theorem digitsValue_append_singleton (cs : List Char) (c : Char) :
    digitsValue (cs ++ [c]) = 10 * digitsValue cs + (c.toNat - 48) := by
  rw [digitsValue, List.foldl_append, digitsValue]
  rfl

theorem digitsValue_pos {c : Char} (cs : List Char) (hc : c.isDigit = true) (h0 : c ≠ '0') :
    0 < digitsValue (c :: cs) := by
  induction cs using List.reverseRecOn with
  | nil =>
    have hne : c.toNat ≠ 48 := fun he => h0 (Char.toNat_inj.mp he)
    simp only [Char.isDigit, Bool.and_eq_true, decide_eq_true_eq] at hc
    have hge : 48 ≤ c.toNat := hc.1
    show 0 < 10 * 0 + (c.toNat - 48)
    omega
  | append_singleton cs d ih =>
    have happend := digitsValue_append_singleton (c :: cs) d
    rw [List.cons_append] at happend
    omega

theorem digitChar_of_isDigit {c : Char} (h : c.isDigit = true) :
    c.toNat - 48 < 10 ∧ (c.toNat - 48).digitChar = c := by
  simp only [Char.isDigit, Bool.and_eq_true, decide_eq_true_eq] at h
  have hge : 48 ≤ c.toNat := h.1
  have hle : c.toNat ≤ 57 := h.2
  refine ⟨by omega, ?_⟩
  rw [← Char.toNat_inj]
  have hcases : ∀ n < 10, (Nat.digitChar n).toNat = n + 48 := by decide
  rw [hcases _ (by omega)]
  omega

theorem toString_digitsValue {cs : List Char} (h : isNumeral cs = true) :
    (toString (digitsValue cs)).toList = cs := by
  simp only [isNumeral, Bool.and_eq_true, List.all_eq_true, Bool.not_eq_true',
    Bool.or_eq_true, beq_iff_eq, bne_iff_ne] at h
  obtain ⟨⟨hdigits, hne⟩, hzero⟩ := h
  rw [Nat.toString_eq_repr, Nat.toList_repr]
  induction cs using List.reverseRecOn with
  | nil => cases hne
  | append_singleton cs c ih =>
    obtain ⟨hlt, hchar⟩ := digitChar_of_isDigit (hdigits c (by simp))
    rw [digitsValue_append_singleton]
    cases cs with
    | nil =>
      show Nat.toDigits 10 (10 * 0 + (c.toNat - 48)) = [c]
      rw [Nat.mul_zero, Nat.zero_add, Nat.toDigits_of_lt_base hlt, hchar]
    | cons d ds =>
      have hhead : d ≠ '0' := by
        rcases hzero with hlen | hhead
        · simp at hlen
        · exact fun he => hhead (by simp [he])
      have hpos := digitsValue_pos ds (hdigits d (by simp)) hhead
      have hrest := ih (.inr fun he => hhead (by simpa using he))
        (fun x hx => hdigits x (List.mem_append_left _ hx)) rfl
      rw [Nat.toDigits_of_base_le (by decide) (by omega)]
      have hdiv : (10 * digitsValue (d :: ds) + (c.toNat - 48)) / 10 = digitsValue (d :: ds) := by
        omega
      have hmod : (10 * digitsValue (d :: ds) + (c.toNat - 48)) % 10 = c.toNat - 48 := by omega
      rw [hdiv, hmod, hrest, hchar]

theorem isNumeral_toString (n : Nat) : isNumeral (toString n).toList = true := by
  rw [Nat.toString_eq_repr, Nat.toList_repr]
  induction n using Nat.strongRecOn with
  | ind n ih =>
    by_cases hlt : n < 10
    · have hcases : ∀ d < 10, isNumeral [Nat.digitChar d] = true := by decide
      rw [Nat.toDigits_of_lt_base hlt]
      exact hcases n hlt
    · rw [Nat.toDigits_of_base_le (by decide) (by omega)]
      have hrest := ih (n / 10) (by omega)
      have hlast : (n % 10).digitChar.isDigit = true := by
        have hcases : ∀ d < 10, (Nat.digitChar d).isDigit = true := by decide
        exact hcases _ (Nat.mod_lt _ (by decide))
      cases hd : Nat.toDigits 10 (n / 10) with
      | nil => exact absurd hd Nat.toDigits_ne_nil
      | cons d ds =>
        -- A number from ten on has a first digit that is not zero.
        have hzero : d ≠ '0' := by
          rintro rfl
          rw [hd] at hrest
          cases ds with
          | nil =>
            have hvalue : n / 10 = 0 := by
              rw [← Nat.ofDigitChars_ten_toDigits (n := n / 10), hd]
              rfl
            omega
          | cons e es => simp [isNumeral] at hrest
        rw [hd] at hrest
        simp only [isNumeral, Bool.and_eq_true, List.all_eq_true] at hrest ⊢
        refine ⟨⟨fun c hc => ?_, rfl⟩, by simp [hzero]⟩
        rcases List.mem_append.mp hc with hc | hc
        · exact hrest.1.1 c hc
        · rw [List.mem_singleton.mp hc]
          exact hlast

theorem digitsValue_toString (n : Nat) : digitsValue (toString n).toList = n := by
  rw [Nat.toString_eq_repr, Nat.toList_repr]
  exact Nat.ofDigitChars_eq_foldl.symm.trans Nat.ofDigitChars_ten_toDigits

/-! Networks. -/

/-- A network has the addresses that start with the first bits of its own. -/
structure Network where
  address : Nat
  prefixLength : Nat
  length_le : prefixLength ≤ 32
  address_lt : address < 2 ^ 32
  aligned : 2 ^ (32 - prefixLength) ∣ address

namespace Network

def size (n : Network) : Nat := 2 ^ (32 - n.prefixLength)

def last (n : Network) : Nat := n.address + n.size - 1

def addresses (n : Network) : Set Nat := { x | n.address ≤ x ∧ x < n.address + n.size }

theorem size_pos (n : Network) : 0 < n.size := Nat.two_pow_pos _

theorem mem_addresses {n : Network} {x : Nat} :
    x ∈ n.addresses ↔ n.address ≤ x ∧ x ≤ n.last := by
  have hpos := n.size_pos
  show n.address ≤ x ∧ x < n.address + n.size ↔ n.address ≤ x ∧ x ≤ n.address + n.size - 1
  omega

/-- Two networks share an address when neither ends before the other begins. -/
theorem disjoint_iff {n m : Network} :
    Disjoint n.addresses m.addresses ↔ ¬(n.address ≤ m.last ∧ m.address ≤ n.last) := by
  have hn := n.size_pos
  have hm := m.size_pos
  rw [Set.disjoint_left]
  constructor
  · rintro h ⟨hnm, hmn⟩
    simp only [last] at hnm hmn
    rcases Nat.le_total n.address m.address with hle | hle
    · exact h (mem_addresses.mpr ⟨hle, hmn⟩) (mem_addresses.mpr ⟨Nat.le_refl _, by
        rw [last]
        omega⟩)
    · exact h (mem_addresses.mpr ⟨Nat.le_refl _, by
        rw [last]
        omega⟩) (mem_addresses.mpr ⟨hle, hnm⟩)
  · intro h x hx hy
    rw [mem_addresses] at hx hy
    exact h ⟨hx.1.trans hy.2, hy.1.trans hx.2⟩

end Network

/-- The number of four bytes. -/
def quadNumber (a b c d : Nat) : Nat := ((a * 256 + b) * 256 + c) * 256 + d

/-- The notation with dots. -/
def quad (n : Nat) : String :=
  toString (n / 256 ^ 3 % 256) ++ "." ++ toString (n / 256 ^ 2 % 256) ++ "." ++
    toString (n / 256 % 256) ++ "." ++ toString (n % 256)

theorem quad_number {a b c d : Nat} (ha : a < 256) (hb : b < 256) (hc : c < 256) (hd : d < 256) :
    quad (quadNumber a b c d) =
      toString a ++ "." ++ toString b ++ "." ++ toString c ++ "." ++ toString d := by
  have h1 : quadNumber a b c d / 256 ^ 3 % 256 = a := by
    simp only [quadNumber]
    omega
  have h2 : quadNumber a b c d / 256 ^ 2 % 256 = b := by
    simp only [quadNumber]
    omega
  have h3 : quadNumber a b c d / 256 % 256 = c := by
    simp only [quadNumber]
    omega
  have h4 : quadNumber a b c d % 256 = d := by
    simp only [quadNumber]
    omega
  rw [quad, h1, h2, h3, h4]

theorem number_bytes {n : Nat} (h : n < 2 ^ 32) :
    quadNumber (n / 256 ^ 3 % 256) (n / 256 ^ 2 % 256) (n / 256 % 256) (n % 256) = n := by
  simp only [quadNumber]
  omega

theorem quadNumber_lt {a b c d : Nat} (ha : a < 256) (hb : b < 256) (hc : c < 256) (hd : d < 256) :
    quadNumber a b c d < 2 ^ 32 := by
  simp only [quadNumber]
  omega

def Network.text (n : Network) : String := quad n.address ++ "/" ++ toString n.prefixLength

end AutoVPN
