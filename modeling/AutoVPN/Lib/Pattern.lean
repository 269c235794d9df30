import Mathlib.Data.List.Basic
import Mathlib.Tactic.Common

/-! Anchored regular expressions that are sequences of counted character
classes, such as `^[A-Za-z0-9][A-Za-z0-9_.-]{0,63}$`. -/

namespace AutoVPN

/-- The class `cls` repeated `lo` to `hi` times; without `hi` there is no upper bound. -/
structure Piece where
  cls : Char → Bool
  lo : Nat
  hi : Option Nat

abbrev Pattern := List Piece

namespace Piece

def char (c : Char) : Piece := ⟨(· == c), 1, some 1⟩

def exactly (cls : Char → Bool) (n : Nat) : Piece := ⟨cls, n, some n⟩

def between (cls : Char → Bool) (lo hi : Nat) : Piece := ⟨cls, lo, some hi⟩

def many (cls : Char → Bool) (lo : Nat) : Piece := ⟨cls, lo, none⟩

def accepts (p : Piece) (cs : List Char) : Bool :=
  decide (p.lo ≤ cs.length) && (p.hi.elim true fun h => decide (cs.length ≤ h)) && cs.all p.cls

theorem accepts_iff {p : Piece} {cs : List Char} :
    p.accepts cs = true ↔
      (p.lo ≤ cs.length ∧ ∀ h, p.hi = some h → cs.length ≤ h) ∧ ∀ c ∈ cs, p.cls c = true := by
  unfold accepts
  rw [Bool.and_eq_true, Bool.and_eq_true, decide_eq_true_eq, List.all_eq_true]
  cases p.hi <;> simp

theorem accepts_exactly {cls : Char → Bool} {n : Nat} {cs : List Char} :
    (exactly cls n).accepts cs = true ↔ cs.length = n ∧ ∀ c ∈ cs, cls c = true := by
  rw [accepts_iff]
  constructor
  · rintro ⟨⟨hl, hu⟩, hc⟩
    exact ⟨Nat.le_antisymm (hu n rfl) hl, hc⟩
  · rintro ⟨hl, hc⟩
    exact ⟨⟨Nat.le_of_eq hl.symm, fun h hh => by cases hh; exact Nat.le_of_eq hl⟩, hc⟩

theorem accepts_between {cls : Char → Bool} {lo hi : Nat} {cs : List Char} :
    (between cls lo hi).accepts cs = true ↔
      (lo ≤ cs.length ∧ cs.length ≤ hi) ∧ ∀ c ∈ cs, cls c = true := by
  rw [accepts_iff]
  simp only [between, Option.some.injEq, forall_eq']

theorem accepts_many {cls : Char → Bool} {lo : Nat} {cs : List Char} :
    (many cls lo).accepts cs = true ↔ lo ≤ cs.length ∧ ∀ c ∈ cs, cls c = true := by
  rw [accepts_iff]
  simp [many]

theorem accepts_char {c : Char} {cs : List Char} :
    (char c).accepts cs = true ↔ cs = [c] := by
  rw [show char c = exactly (· == c) 1 from rfl, accepts_exactly, List.length_eq_one_iff]
  constructor
  · rintro ⟨⟨d, rfl⟩, h⟩
    simpa using h
  · rintro rfl
    simp

end Piece

def Pattern.matchesList : Pattern → List Char → Bool
  | [], cs => cs.isEmpty
  | p :: ps, cs =>
    (List.range (cs.length + 1)).any fun n =>
      p.accepts (cs.take n) && Pattern.matchesList ps (cs.drop n)

def Pattern.matches (p : Pattern) (s : String) : Bool := p.matchesList s.toList

namespace Pattern

@[simp] theorem matchesList_nil {cs : List Char} : matchesList [] cs = true ↔ cs = [] := by
  simp [matchesList]

theorem matchesList_cons {p : Piece} {ps : Pattern} {cs : List Char} :
    matchesList (p :: ps) cs = true ↔
      ∃ a b, cs = a ++ b ∧ p.accepts a = true ∧ matchesList ps b = true := by
  simp only [matchesList, List.any_eq_true, List.mem_range, Bool.and_eq_true]
  constructor
  · rintro ⟨n, _, ha, hb⟩
    exact ⟨_, _, (List.take_append_drop n cs).symm, ha, hb⟩
  · rintro ⟨a, b, rfl, ha, hb⟩
    exact ⟨a.length, by rw [List.length_append]; omega, by simpa using ha, by simpa using hb⟩

theorem matchesList_cons_append {p : Piece} {ps : Pattern} {a b : List Char}
    (ha : p.accepts a = true) (hb : matchesList ps b = true) :
    matchesList (p :: ps) (a ++ b) = true :=
  matchesList_cons.mpr ⟨a, b, rfl, ha, hb⟩

theorem matchesList_singleton {p : Piece} {cs : List Char} :
    matchesList [p] cs = true ↔ p.accepts cs = true := by
  rw [matchesList_cons]
  constructor
  · rintro ⟨a, b, rfl, ha, hb⟩
    rw [matchesList_nil] at hb
    simpa [hb] using ha
  · exact fun h => ⟨cs, [], by simp, h, by simp⟩

theorem matchesList_char_cons {c : Char} {ps : Pattern} {cs : List Char} :
    matchesList (.char c :: ps) cs = true ↔ ∃ b, cs = c :: b ∧ matchesList ps b = true := by
  rw [matchesList_cons]
  constructor
  · rintro ⟨a, b, rfl, ha, hb⟩
    rw [Piece.accepts_char] at ha
    exact ⟨b, by simp [ha], hb⟩
  · rintro ⟨b, rfl, hb⟩
    exact ⟨[c], b, rfl, Piece.accepts_char.mpr rfl, hb⟩

end Pattern

/-! The character classes of the sources. -/

def isLowerHex (c : Char) : Bool := c.isDigit || ('a' ≤ c && c ≤ 'f')

def isHex (c : Char) : Bool := isLowerHex c || ('A' ≤ c && c ≤ 'F')

def isAlphanumeric (c : Char) : Bool := c.isDigit || c.isLower || c.isUpper

/-- Membership in `[A-Za-z0-9…]` with the given extra characters. -/
def alphanumericOr (extra : List Char) (c : Char) : Bool := isAlphanumeric c || extra.contains c

theorem isDigit_toNat {c : Char} (h : c.isDigit = true) : 48 ≤ c.toNat ∧ c.toNat ≤ 57 := by
  have hbounds : (decide (c.val ≥ '0'.val) && decide (c.val ≤ '9'.val)) = true := h
  simp only [Bool.and_eq_true, decide_eq_true_eq, ge_iff_le, UInt32.le_iff_toNat_le] at hbounds
  exact hbounds

theorem isLower_toNat {c : Char} (h : c.isLower = true) : 97 ≤ c.toNat ∧ c.toNat ≤ 122 := by
  have hbounds : (decide (c.val ≥ 'a'.val) && decide (c.val ≤ 'z'.val)) = true := h
  simp only [Bool.and_eq_true, decide_eq_true_eq, ge_iff_le, UInt32.le_iff_toNat_le] at hbounds
  exact hbounds

theorem isUpper_toNat {c : Char} (h : c.isUpper = true) : 65 ≤ c.toNat ∧ c.toNat ≤ 90 := by
  have hbounds : c.val ≥ 'A'.val ∧ c.val ≤ 'Z'.val := of_decide_eq_true h
  simp only [ge_iff_le, UInt32.le_iff_toNat_le] at hbounds
  exact hbounds

/-- `[a-z0-9_]`. -/
def isCodeChar (c : Char) : Bool := c.isDigit || c.isLower || c == '_'

theorem toLower_codeChar {c : Char} (h : isCodeChar c = true) : c.toLower = c := by
  have hupper : ¬(c.val ≥ 'A'.val ∧ c.val ≤ 'Z'.val) := by
    simp only [ge_iff_le, UInt32.le_iff_toNat_le]
    intro hbounds
    have hnat : 65 ≤ c.toNat ∧ c.toNat ≤ 90 := hbounds
    simp only [isCodeChar, Bool.or_eq_true, beq_iff_eq] at h
    rcases h with (h | h) | rfl
    · have hdigit := isDigit_toNat h
      omega
    · have hlower := isLower_toNat h
      omega
    · exact absurd hnat (by decide)
  exact dif_neg hupper

end AutoVPN
