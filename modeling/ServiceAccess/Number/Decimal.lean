import ServiceAccess.Number.Basic

/-! # Decimal texts of numbers

* `Number.ofDecimal` reads a decimal: the nearest number, ties to even, infinite beyond the range.
* `Finite.shortest` is the decimal with the fewest significant digits that reads back as the number, of
  those with as many digits the nearest.
* `Number.text` lays it out: positional from `1e-6` up to below `1e21`, with an exponent elsewhere. -/

namespace ServiceAccess

/-- An unsigned decimal `digits * 10^exponent`. -/
structure Decimal where
  /-- The significant digits, as one number. -/
  digits : Nat
  /-- The power of ten. -/
  exponent : Int
deriving DecidableEq

/-- The number of decimal digits. -/
def digitCount (n : Nat) : Nat := (Nat.toDigits 10 n).length

/-- The number nearest to a signed decimal. Magnitudes far outside the range are decided by their number
of digits alone. -/
def Number.ofDecimal (negative : Bool) (d : Decimal) : Number :=
  if d.digits = 0 then assemble negative 0 0
  else if d.exponent + digitCount d.digits > 400 then .infinite negative
  else if d.exponent + digitCount d.digits < -400 then assemble negative 0 0
  else ofRatio negative (d.digits * Nat.pow 10 d.exponent.toNat) (Nat.pow 10 (-d.exponent).toNat)

/-- Drop trailing zeros, at most as many as the fuel allows. -/
def Decimal.strip : Nat → Decimal → Decimal
  | 0, d => d
  | fuel + 1, d =>
    if d.digits % 10 = 0 ∧ d.digits ≠ 0 then strip fuel ⟨d.digits / 10, d.exponent + 1⟩ else d

namespace Finite

/-- The magnitude, as a multiple of the least positive number. -/
def magnitude (x : Finite) : Nat := x.units.natAbs

/-- How many digits stand before the point: the least power of ten above the magnitude. -/
def decimalPlace (x : Finite) : Int :=
  digitCount (x.magnitude * Nat.pow 10 400 / Nat.pow 2 1074) - 400

/-- The decimal next below the magnitude and the one next above on the grid of multiples of a power of
ten, the nearer one first; a tie goes to the even one. -/
def neighbours (x : Finite) (grid : Int) : List Decimal :=
  let n := x.magnitude * Nat.pow 10 (-grid).toNat
  let d := Nat.pow 2 1074 * Nat.pow 10 grid.toNat
  let below : Decimal := ⟨n / d, grid⟩
  let above : Decimal := ⟨n / d + 1, grid⟩
  if 2 * (n % d) > d ∨ (2 * (n % d) = d ∧ n / d % 2 = 1) then [above, below] else [below, above]

/-- Whether a decimal reads back as the magnitude of a number. -/
def readsBack (x : Finite) (d : Decimal) : Bool :=
  match Number.ofDecimal false d with
  | .finite y => decide (y.magnitude = x.magnitude)
  | .infinite _ => false

/-- The magnitude written out in full. -/
def exact (x : Finite) : Decimal := ⟨x.magnitude * Nat.pow 5 1074, -1074⟩

/-- The neighbouring decimals of the magnitude, those with fewer digits first. -/
def candidates (x : Finite) : List Decimal :=
  (List.range 17).flatMap fun (k : Nat) => x.neighbours (x.decimalPlace - (k + 1))

/-- The shortest decimal that reads back as the magnitude. Seventeen digits always suffice. -/
def shortest (x : Finite) : Decimal :=
  ((x.candidates.find? x.readsBack).map (Decimal.strip 20)).getD (x.exact.strip 1100)

end Finite

/-- A decimal laid out without a sign. -/
def Decimal.layout (d : Decimal) : String :=
  let ds := Nat.toDigits 10 d.digits
  let k := ds.length
  let place : Int := d.exponent + k
  if k ≤ place ∧ place ≤ 21 then
    String.ofList (ds ++ List.replicate (place.toNat - k) '0')
  else if 0 < place ∧ place ≤ 21 then
    String.ofList (ds.take place.toNat ++ '.' :: ds.drop place.toNat)
  else if -6 < place ∧ place ≤ 0 then
    String.ofList ('0' :: '.' :: (List.replicate (-place).toNat '0' ++ ds))
  else
    let power := place - 1
    let sign := if power < 0 then "-" else "+"
    let fraction := if k = 1 then [] else '.' :: ds.drop 1
    String.ofList (ds.take 1 ++ fraction) ++ "e" ++ sign ++ toString power.natAbs

namespace Number

/-- The text of a number. Zero has no sign. -/
def text : Number → String
  | .finite x =>
    if x.significand = 0 then "0"
    else (if x.significand < 0 then "-" else "") ++ x.shortest.layout
  | .infinite negative => if negative then "-Infinity" else "Infinity"

end Number

end ServiceAccess
