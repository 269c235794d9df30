import Mathlib.Data.Rat.Cast.CharZero
import AutoVPN.Lib.Pattern

/-! JSON values as a dynamically typed program sees them: property access,
loose comparison and the schema checks that are built from both. A literal beyond the range of a
double, such as `1e309`, is read as an infinity. -/

namespace AutoVPN

inductive Value
  | null
  | bool (b : Bool)
  | int (n : Int)
  | double (d : ℚ)
  | infinite (negative : Bool)
  | string (s : String)
  | array (items : List Value)
  | object (fields : List (String × Value))

/-- The largest integer that a double represents together with its successor. -/
def maxSafeInteger : Nat := 9007199254740991

def digitsValue (cs : List Char) : Nat := cs.foldl (fun n c => 10 * n + (c.toNat - 48)) 0

/-- The number denoted by a decimal literal with an optional sign and fraction. -/
def decimalNumber? (s : String) : Option ℚ :=
  let unsigned (cs : List Char) : Option ℚ :=
    let whole := cs.takeWhile Char.isDigit
    match cs.dropWhile Char.isDigit with
    | [] => if whole.isEmpty then none else some (digitsValue whole)
    | '.' :: fraction =>
      if fraction.all Char.isDigit && !(whole ++ fraction).isEmpty then
        some ((digitsValue (whole ++ fraction) : ℚ) / 10 ^ fraction.length)
      else none
    | _ => none
  match s.toList with
  | '-' :: cs => (unsigned cs).map (- ·)
  | cs => unsigned cs

namespace Value

/-- Property access; a missing property and a property of a non-object read as `null`. -/
def get (v : Value) (key : String) : Value :=
  match v with
  | object fields => (fields.lookup key).getD null
  | _ => null

def isNull : Value → Bool
  | null => true
  | _ => false

def isBool : Value → Bool
  | bool _ => true
  | _ => false

def isTrue : Value → Bool
  | bool true => true
  | _ => false

def isFalse : Value → Bool
  | bool false => true
  | _ => false

def isObject : Value → Bool
  | object _ => true
  | _ => false

def isArray : Value → Bool
  | array _ => true
  | _ => false

def items : Value → List Value
  | array xs => xs
  | _ => []

def item (v : Value) (i : Nat) : Value := (v.items[i]?).getD null

def fields : Value → List (String × Value)
  | object fs => fs
  | _ => []

def truthy : Value → Bool
  | null => false
  | bool b => b
  | int n => n != 0
  | double d => d != 0
  | infinite _ => true
  | string s => s != ""
  | array _ => true
  | object _ => true

/-- An infinity compares as a number that is beyond every other. -/
def toNumber? : Value → Option ℚ
  | bool b => some (if b then 1 else 0)
  | int n => some n
  | double d => some d
  | infinite negative => some (if negative then -2 ^ 1024 else 2 ^ 1024)
  | string s => decimalNumber? s
  | _ => none

/-- The `==` operator: strings are compared as such, other scalars as numbers. -/
def looseEq : Value → Value → Bool
  | null, null => true
  | null, _ => false
  | _, null => false
  | string a, string b => a == b
  | v, w =>
    match v.toNumber?, w.toNumber? with
    | some a, some b => a == b
    | _, _ => false

/-- The object has the expected keys and no others, in any order. -/
def hasExactKeys (v : Value) (expected : List String) : Bool :=
  match v with
  | object fs => (fs.map Prod.fst).isPerm expected
  | _ => false

def isInteger (v : Value) (minimum maximum : Int) : Bool :=
  match v with
  | int n => decide (minimum ≤ n) && decide (n ≤ maximum)
  | _ => false

/-- Lengths of strings are counted in bytes. -/
def isString (v : Value) (minimum maximum : Nat) : Bool :=
  match v with
  | string s => decide (minimum ≤ s.utf8ByteSize) && decide (s.utf8ByteSize ≤ maximum)
  | _ => false

def is (v : Value) (s : String) : Bool := v.looseEq (string s)

end Value

def Value.matches (v : Value) (p : Pattern) : Bool :=
  match v with
  | .string s => p.matches s
  | _ => false

namespace Value

theorem isInteger_iff {v : Value} {lo hi : Int} :
    v.isInteger lo hi = true ↔ ∃ n, v = int n ∧ lo ≤ n ∧ n ≤ hi := by
  cases v <;> simp [isInteger]

theorem matches_iff {v : Value} {p : Pattern} :
    v.matches p = true ↔ ∃ s, v = string s ∧ p.matches s = true := by
  cases v <;> simp [Value.matches]

theorem isNull_iff {v : Value} : v.isNull = true ↔ v = null := by
  cases v <;> simp [isNull]

theorem isBool_iff {v : Value} : v.isBool = true ↔ ∃ b, v = bool b := by
  cases v <;> simp [isBool]

@[simp] theorem looseEq_null_null : looseEq null null = true := rfl

@[simp] theorem looseEq_null_string {s : String} : looseEq null (string s) = false := rfl

@[simp] theorem looseEq_string_null {s : String} : looseEq (string s) null = false := rfl

@[simp] theorem looseEq_null_int {n : Int} : looseEq null (int n) = false := rfl

@[simp] theorem looseEq_int_null {n : Int} : looseEq (int n) null = false := rfl

@[simp] theorem looseEq_string {a b : String} :
    looseEq (string a) (string b) = true ↔ a = b := by
  simp [looseEq]

@[simp] theorem looseEq_int {a b : Int} : looseEq (int a) (int b) = true ↔ a = b := by
  simp [looseEq, toNumber?]

/-- Only a string is loosely equal to a string that denotes no number. -/
theorem is_iff {v : Value} {s : String} (hs : decimalNumber? s = none) :
    v.is s = true ↔ v = string s := by
  cases v with
  | string t => exact looseEq_string.trans (by simp)
  | _ => simp [is, looseEq, toNumber?, hs]

theorem hasExactKeys_iff {v : Value} {expected : List String} :
    v.hasExactKeys expected = true ↔
      ∃ fs, v = .object fs ∧ (fs.map Prod.fst).Perm expected := by
  cases v <;> simp [hasExactKeys, List.isPerm_iff]

end Value

end AutoVPN
