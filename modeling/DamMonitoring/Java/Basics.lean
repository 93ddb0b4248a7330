/-
DamMonitoring.Java.Basics — the fragment of Java the Controller rests on.

  §1 `float`: the operations the control loop uses, over any carrier.
     The control law is stated at `ℚ` (exact arithmetic); the threshold
     setters are studied at `Ieee α`, a linear order with a NaN added.
  §2 `int`: 32-bit two's complement arithmetic on `Int`
  §3 text compared without regard to case; `Plain` text
  §4 the exceptions the Controller throws and catches
-/
import Mathlib.Algebra.Order.Ring.Rat

namespace DamMonitoring.Java

/-! ## §1 float -/

/-- The `float` operations of the Controller. Only `<` is asked for:
`a > b` is `b < a`, and no code tests floats for equality. -/
class JavaFloat (F : Type) extends Zero F, Add F, Sub F, NatCast F, LT F where
  decLt : DecidableLT F

instance instDecidableLT {F : Type} [JavaFloat F] : DecidableLT F := JavaFloat.decLt

instance : JavaFloat ℚ where
  decLt := inferInstance

/-- `Math.abs(float)`. -/
def mathAbs {F : Type} [JavaFloat F] (x : F) : F := if 0 < x then x else 0 - x

/-- IEEE comparison: the numbers are linearly ordered (infinities
included, `-0` and `+0` identified), NaN is comparable to nothing. -/
inductive Ieee (α : Type) where
  | nan
  | num (a : α)
  deriving DecidableEq

namespace Ieee

variable {α : Type}

def lt [LT α] : Ieee α → Ieee α → Prop
  | .num a, .num b => a < b
  | _, _ => False

def le [LE α] : Ieee α → Ieee α → Prop
  | .num a, .num b => a ≤ b
  | _, _ => False

/-- Arithmetic on a NaN is a NaN. -/
def map₂ (f : α → α → α) : Ieee α → Ieee α → Ieee α
  | .num a, .num b => .num (f a b)
  | _, _ => .nan

instance [LE α] : LE (Ieee α) := ⟨le⟩

instance [LinearOrder α] [Zero α] [Add α] [Sub α] [NatCast α] : JavaFloat (Ieee α) where
  zero := .num 0
  add := map₂ (· + ·)
  sub := map₂ (· - ·)
  natCast n := .num n
  lt := lt
  decLt
    | .num a, .num b => inferInstanceAs (Decidable (a < b))
    | .nan, _ => isFalse id
    | .num _, .nan => isFalse id

theorem num_le_num [LE α] {a b : α} : (num a ≤ num b) ↔ a ≤ b := Iff.rfl

theorem nan_le [LE α] (x : Ieee α) : ¬ (nan ≤ x) := id

theorem le_nan [LE α] (x : Ieee α) : ¬ (x ≤ nan) := by
  cases x <;> exact id

variable [LinearOrder α] [Zero α] [Add α] [Sub α] [NatCast α]

theorem num_lt_num {a b : α} : (num a < num b) ↔ a < b := Iff.rfl

theorem nan_lt (x : Ieee α) : ¬ (nan < x) := id

theorem lt_nan (x : Ieee α) : ¬ (x < nan) := by
  cases x <;> exact id

attribute [simp] num_le_num nan_le le_nan num_lt_num nan_lt lt_nan

theorem lt_of_le_of_lt {x y z : Ieee α} (h : x ≤ y) (h' : y < z) : x < z := by
  cases x with
  | nan => exact absurd h (nan_le y)
  | num a =>
    cases y with
    | nan => exact absurd h' (nan_lt z)
    | num b =>
      cases z with
      | nan => exact absurd h' (lt_nan _)
      | num c =>
        rw [num_le_num] at h
        rw [num_lt_num] at h' ⊢
        exact h.trans_lt h'

theorem lt_of_lt_of_le {x y z : Ieee α} (h : x < y) (h' : y ≤ z) : x < z := by
  cases x with
  | nan => exact absurd h (nan_lt y)
  | num a =>
    cases y with
    | nan => exact absurd h (lt_nan _)
    | num b =>
      cases z with
      | nan => exact absurd h' (le_nan _)
      | num c =>
        rw [num_lt_num] at h ⊢
        rw [num_le_num] at h'
        exact h.trans_le h'

theorem lt_asymm {x y : Ieee α} (h : x < y) : ¬y < x := by
  cases x with
  | nan => exact absurd h (nan_lt y)
  | num a =>
    cases y with
    | nan => exact nan_lt _
    | num b =>
      rw [num_lt_num] at h ⊢
      exact h.asymm

/-- Of numbers, and only of numbers. -/
theorem le_of_not_lt {x y : Ieee α} (hx : x ≠ nan) (hy : y ≠ nan) (h : ¬x < y) : y ≤ x := by
  cases x with
  | nan => exact absurd rfl hx
  | num a =>
    cases y with
    | nan => exact absurd rfl hy
    | num b => exact not_lt.mp h

end Ieee

/-! ## §2 int -/

/-- The `int` an exact integer result is reduced to. -/
def int32 (x : Int) : Int := (x + 2147483648) % 4294967296 - 2147483648

/-- The range of an `int` (and of a non-null `Integer`). -/
def IsInt32 (x : Int) : Prop := -2147483648 ≤ x ∧ x ≤ 2147483647

theorem int32_of_isInt32 {x : Int} (h : IsInt32 x) : int32 x = x := by
  obtain ⟨hlo, hhi⟩ := h
  unfold int32
  omega

/-! ## §3 Text -/

/-- A character with its case removed, as `equalsIgnoreCase` compares it
with an ASCII letter: outside ASCII there are four characters that have
one for a capital or small letter (`İ`, `ı`, `ſ` and the Kelvin sign). -/
def foldChar (c : Char) : Char :=
  if c = '\u0130' ∨ c = '\u0131' then 'i'
  else if c = '\u017f' then 's'
  else if c = '\u212a' then 'k'
  else c.toLower

def fold (s : String) : List Char := s.toList.map foldChar

/-- `a.equalsIgnoreCase(b)`, one of the two an ASCII text. -/
def equalsIgnoreCase (a b : String) : Bool := fold a == fold b

theorem equalsIgnoreCase_iff {a b : String} :
    equalsIgnoreCase a b = true ↔ fold a = fold b := by
  simp [equalsIgnoreCase]

@[simp] theorem equalsIgnoreCase_self (a : String) : equalsIgnoreCase a a = true := by
  simp [equalsIgnoreCase]

/-- `switch (text.toLowerCase())` takes the case `word`. No character
outside ASCII has for a small letter one of the words that are tested. -/
def toLowerCaseIs (text word : String) : Bool := text.toList.map Char.toLower == word.toList

/-- `switch (text.toUpperCase())` takes the case `word`. -/
def toUpperCaseIs (text word : String) : Bool := text.toList.map Char.toUpper == word.toList

/-- Printable ASCII characters only, from the space to the tilde. -/
def Plain (s : String) : Prop :=
  s.toList.all (fun c => Nat.ble 32 c.toNat && Nat.ble c.toNat 126) = true

instance (s : String) : Decidable (Plain s) := instDecidableEqBool _ _

/-- `text.trim()`. -/
def trim (text : String) : List Char :=
  ((text.toList.dropWhile (· ≤ ' ')).reverse.dropWhile (· ≤ ' ')).reverse

/-! ## §4 Exceptions -/

/-- The exceptions of the Controller. `io` stands for `IOException` and
`ConnectorException`, which every caller treats alike. -/
inductive JException where
  | coapException (message : String)
  | persistenceException (message : String)
  | controlException (message : String)
  | commandException (message : String)
  | io (message : String)
  | nullPointerException
  deriving DecidableEq, Repr

end DamMonitoring.Java
