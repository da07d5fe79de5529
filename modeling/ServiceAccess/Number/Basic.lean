/-! # Binary floating-point numbers

A `Number` is a double-precision value without the sign of zero and without not-a-number: finite
numbers in canonical form, and the two infinities.

* `Number.ofRatio` rounds an exact quotient to the nearest number, ties to the even significand.
* Comparison, integrality and divisibility are exact: they work on whole numbers of the least positive
  number `2^(-1074)`.
* Powers are written `Nat.pow`, which means the same whatever algebra is imported besides. -/

namespace ServiceAccess

/-- A finite number `significand * 2^(exponent - 1074)`, in canonical form. -/
structure Finite where
  /-- The signed significand. -/
  significand : Int
  /-- The exponent, counted from that of the least positive number. -/
  exponent : Nat
  /-- The significand fits in 53 bits and the exponent is in range. -/
  bounded : significand.natAbs < Nat.pow 2 53 ∧ exponent ≤ 2045
  /-- Above the least exponent, all 53 bits of the significand are in use. -/
  canonical : exponent = 0 ∨ Nat.pow 2 52 ≤ significand.natAbs
deriving DecidableEq

/-- A double-precision number. -/
inductive Number where
  /-- A finite number. -/
  | finite (value : Finite)
  /-- An infinity. -/
  | infinite (negative : Bool)
deriving DecidableEq

/-- The value, as a multiple of the least positive number. -/
def Finite.units (x : Finite) : Int := x.significand * Nat.pow 2 x.exponent

/-- The finite number with given significand and exponent, or an infinity when that is out of range. -/
def Number.assemble (negative : Bool) (significand exponent : Nat) : Number :=
  if h : significand < Nat.pow 2 53 ∧ exponent ≤ 2045 ∧
      (exponent = 0 ∨ Nat.pow 2 52 ≤ significand) then
    let signed : Int := if negative then -(significand : Int) else significand
    have size : signed.natAbs = significand := by
      simp only [signed]; split <;> simp
    .finite ⟨signed, exponent, by rw [size]; exact ⟨h.1, h.2.1⟩, by rw [size]; exact h.2.2⟩
  else .infinite negative

/-- A quotient rounded to the nearest whole number, ties to the even one. -/
def roundDiv (n d : Nat) : Nat :=
  if 2 * (n % d) > d ∨ (2 * (n % d) = d ∧ n / d % 2 = 1) then n / d + 1 else n / d

/-- The number nearest to `n / d`. -/
def Number.ofRatio (negative : Bool) (n d : Nat) : Number :=
  let scaled := n * Nat.pow 2 1074
  let exponent := (scaled / d).log2 - 52
  let significand := roundDiv scaled (d * Nat.pow 2 exponent)
  if significand = Nat.pow 2 53 then assemble negative (Nat.pow 2 52) (exponent + 1)
  else assemble negative significand exponent

namespace Number

/-- The number of a natural number, exact below `2^53`. -/
def ofNat (n : Nat) : Number := ofRatio false n 1

instance (n : Nat) : OfNat Number n := ⟨ofNat n⟩

instance : Inhabited Number := ⟨0⟩

/-- Whether one number is less than another. -/
def lt : Number → Number → Bool
  | .finite x, .finite y => decide (x.units < y.units)
  | .finite _, .infinite negative => !negative
  | .infinite negative, .finite _ => negative
  | .infinite negative, .infinite negative' => negative && !negative'

/-- Whether one number is at most another. -/
def le (x y : Number) : Bool := !(lt y x)

/-- Whether a number is finite. -/
def isFinite : Number → Bool
  | .finite _ => true
  | .infinite _ => false

/-- Whether a number is a finite whole number. -/
def isInteger : Number → Bool
  | .finite x => decide (x.units % Nat.pow 2 1074 = 0)
  | .infinite _ => false

/-- The whole number that a number is, if it is one. -/
def toInt? : Number → Option Int
  | .finite x => if x.units % Nat.pow 2 1074 = 0 then some (x.units / Nat.pow 2 1074) else none
  | .infinite _ => none

/-- Whether dividing by a number leaves the remainder zero. Nothing is a multiple of zero, an infinity
is a multiple of nothing, and only zero is a multiple of an infinity. -/
def isMultipleOf : Number → Number → Bool
  | .finite x, .finite y => decide (y.units ≠ 0) && decide (x.units % y.units = 0)
  | .finite x, .infinite _ => decide (x.units = 0)
  | .infinite _, _ => false

end Number

end ServiceAccess
