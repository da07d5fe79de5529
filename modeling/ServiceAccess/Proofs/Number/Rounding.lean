import Mathlib.Algebra.Order.Group.Nat
import ServiceAccess.Number.Decimal

/-! # Rounding

What `Number.ofRatio` and `Number.ofDecimal` depend on, and where they are exact.

* **`Number.ofRatio_mul_right`**: a quotient is rounded by its value, not by its spelling.
* **`Number.ofRatio_magnitude`**: a quotient that is a finite number is rounded to itself.
* **`Number.ofDecimal_shift`**: trailing zeros of a decimal do not count.
* **`Finite.ofDecimal_shortest`**: the shortest decimal of a number reads back as that number. -/

namespace ServiceAccess

/-! ## Quotients -/

/-- A quotient is rounded by its value. -/
theorem roundDiv_mul_right (n d : Nat) {t : Nat} (pos : 0 < t) :
    roundDiv (n * t) (d * t) = roundDiv n d := by
  have quotient : n * t / (d * t) = n / d := Nat.mul_div_mul_right n d pos
  have remainder : n * t % (d * t) = n % d * t := Nat.mul_mod_mul_right t n d
  have above : 2 * (n % d * t) > d * t ↔ 2 * (n % d) > d := by
    rw [← Nat.mul_assoc]
    exact Nat.mul_lt_mul_right pos
  have tie : 2 * (n % d * t) = d * t ↔ 2 * (n % d) = d := by
    rw [← Nat.mul_assoc]
    exact Nat.mul_left_inj pos.ne'
  simp only [roundDiv, quotient, remainder, above, tie]

/-- A whole number is rounded to itself. -/
theorem roundDiv_mul_self (n : Nat) {d : Nat} (pos : 0 < d) : roundDiv (n * d) d = n := by
  have tie : ¬ (0 = d) := pos.ne
  simp [roundDiv, Nat.mul_div_cancel n pos, tie]

namespace Number

/-- A quotient is rounded to a number by its value. -/
theorem ofRatio_mul_right (negative : Bool) (n d : Nat) {t : Nat} (pos : 0 < t) :
    ofRatio negative (n * t) (d * t) = ofRatio negative n d := by
  have scaled : n * t * 2 ^ 1074 = n * 2 ^ 1074 * t := Nat.mul_right_comm ..
  have quotient : n * 2 ^ 1074 * t / (d * t) = n * 2 ^ 1074 / d := Nat.mul_div_mul_right _ _ pos
  have divisor : ∀ e, d * t * 2 ^ e = d * 2 ^ e * t := fun e => Nat.mul_right_comm ..
  simp only [ofRatio, Nat.pow_eq, scaled, quotient, divisor, roundDiv_mul_right _ _ pos]

/-- The sign plays no part in rounding. -/
theorem ofRatio_eq_assemble (n d : Nat) :
    ∃ significand exponent, ∀ negative,
      ofRatio negative n d = assemble negative significand exponent := by
  simp only [ofRatio]
  split
  · exact ⟨_, _, fun _ => rfl⟩
  · exact ⟨_, _, fun _ => rfl⟩

end Number

/-! ## Finite numbers -/

namespace Finite

/-- The parts of a number are in the range of those that are put together to one. -/
theorem parts (x : Finite) : x.significand.natAbs < 2 ^ 53 ∧ x.exponent ≤ 2045 ∧
    (x.exponent = 0 ∨ 2 ^ 52 ≤ x.significand.natAbs) :=
  ⟨x.bounded.1, x.bounded.2, x.canonical⟩

/-- The magnitude by significand and exponent. -/
theorem magnitude_eq (x : Finite) : x.magnitude = x.significand.natAbs * 2 ^ x.exponent := by
  simp [magnitude, units, Int.natAbs_mul, Int.natAbs_pow]

/-- **The canonical form is unique**: numbers of one magnitude differ in nothing but their sign. -/
theorem eq_of_magnitude {x y : Finite} (h : x.magnitude = y.magnitude) :
    x.significand.natAbs = y.significand.natAbs ∧ x.exponent = y.exponent := by
  -- with the greater exponent, the significand of the other number has more than 53 bits
  have differ : ∀ x y : Finite, x.magnitude = y.magnitude → ¬ x.exponent < y.exponent := by
    intro x y h less
    have full := y.parts.2.2.resolve_left (by omega)
    have small := x.parts.1
    obtain ⟨k, more⟩ : ∃ k, y.exponent = x.exponent + 1 + k := Nat.exists_eq_add_of_le less
    rw [magnitude_eq, magnitude_eq, more, Nat.pow_add, Nat.pow_add, Nat.mul_assoc (2 ^ x.exponent),
      ← Nat.mul_assoc, Nat.mul_right_comm] at h
    have same := Nat.eq_of_mul_eq_mul_right (Nat.two_pow_pos x.exponent) h
    have two : 2 ≤ 2 ^ 1 * 2 ^ k := Nat.le_mul_of_pos_right 2 (Nat.two_pow_pos k)
    have large := Nat.mul_le_mul full two
    omega
  have exponents : x.exponent = y.exponent :=
    Nat.le_antisymm (Nat.le_of_not_lt (differ y x h.symm)) (Nat.le_of_not_lt (differ x y h))
  rw [magnitude_eq, magnitude_eq, exponents] at h
  exact ⟨Nat.eq_of_mul_eq_mul_right (Nat.two_pow_pos _) h, exponents⟩

/-- A number is put together from its parts. -/
theorem assemble_eq (x : Finite) (nonzero : x.significand ≠ 0) :
    Number.assemble (decide (x.significand < 0)) x.significand.natAbs x.exponent = .finite x := by
  rw [Number.assemble, dif_pos (by exact x.parts)]
  obtain ⟨significand, exponent, bounded, canonical⟩ := x
  simp only [Number.finite.injEq, Finite.mk.injEq, and_true]
  by_cases negative : significand < 0
  · simp only [negative, decide_true, if_true]
    omega
  · simp only [negative, decide_false, Bool.false_eq_true, if_false]
    omega

end Finite

/-- What is put together to a finite number has its parts. -/
theorem Number.of_assemble_eq {negative : Bool} {significand exponent : Nat} {y : Finite}
    (h : assemble negative significand exponent = .finite y) :
    significand = y.significand.natAbs ∧ exponent = y.exponent := by
  rw [assemble] at h
  split at h
  · obtain rfl := Number.finite.inj h
    cases negative <;> simp
  · simp at h

namespace Number

/-- **A quotient that is a finite number is rounded to itself**, up to its sign. -/
theorem ofRatio_magnitude (negative : Bool) (x : Finite) (nonzero : x.significand ≠ 0) :
    ofRatio negative x.magnitude (2 ^ 1074)
      = assemble negative x.significand.natAbs x.exponent := by
  have quotient : ∀ p, 0 < p → x.magnitude * p / p = x.magnitude :=
    fun p pos => Nat.mul_div_cancel x.magnitude pos
  have small := x.parts.1
  -- the leading bit decides about the exponent
  have leading : x.magnitude.log2 - 52 = x.exponent := by
    have some : x.significand.natAbs * 2 ^ x.exponent ≠ 0 :=
      (Nat.mul_pos (Int.natAbs_pos.2 nonzero) (Nat.two_pow_pos _)).ne'
    rw [Finite.magnitude_eq]
    rcases x.parts.2.2 with least | full
    · have few : (x.significand.natAbs * 2 ^ x.exponent).log2 < 53 := by
        rw [Nat.log2_lt some, least]
        simpa using small
      omega
    · have exactly : (x.significand.natAbs * 2 ^ x.exponent).log2 = 52 + x.exponent := by
        have next : 2 ^ (52 + x.exponent + 1) = 2 ^ 53 * 2 ^ x.exponent := by
          rw [Nat.add_right_comm, Nat.pow_add]
        rw [Nat.log2_eq_iff some, next, Nat.pow_add]
        exact ⟨Nat.mul_le_mul_right _ full, Nat.mul_lt_mul_of_pos_right small (Nat.two_pow_pos _)⟩
      omega
  have rounded : roundDiv (x.magnitude * 2 ^ 1074) (2 ^ 1074 * 2 ^ x.exponent)
      = x.significand.natAbs := by
    rw [Nat.mul_comm (2 ^ 1074), roundDiv_mul_right _ _ (Nat.two_pow_pos _), Finite.magnitude_eq,
      roundDiv_mul_self _ (Nat.two_pow_pos _)]
  simp only [ofRatio, Nat.pow_eq, quotient _ (Nat.two_pow_pos 1074), leading, rounded, if_neg small.ne]

end Number

/-! ## Decimals -/

/-- A decimal with more zeros behind its digits. -/
def Decimal.shift (d : Decimal) (k : Nat) : Decimal := ⟨d.digits * 10 ^ k, d.exponent - k⟩

/-- Zeros behind the digits of a number add to them. -/
theorem digitCount_mul_pow {n : Nat} (pos : 0 < n) (k : Nat) :
    digitCount (n * 10 ^ k) = digitCount n + k := by
  induction k with
  | zero => simp
  | succ k ih =>
    have shifted : 0 < n * 10 ^ k := Nat.mul_pos pos (Nat.pow_pos (by decide))
    have digits := Nat.toDigits_append_toDigits (b := 10) (d := 0) (by decide) shifted (by decide)
    rw [digitCount] at ih
    rw [digitCount, Nat.pow_succ, ← Nat.mul_assoc, Nat.mul_comm (n * 10 ^ k), ← Nat.add_zero (10 * _),
      ← digits, List.length_append, ih]
    simp [digitCount]
    omega

/-- **Trailing zeros of a decimal do not count.** -/
theorem Number.ofDecimal_shift (negative : Bool) (d : Decimal) (k : Nat) :
    ofDecimal negative (d.shift k) = ofDecimal negative d := by
  obtain ⟨digits, exponent⟩ := d
  by_cases zero : digits = 0
  · simp [ofDecimal, Decimal.shift, zero]
  have pos := Nat.pos_of_ne_zero zero
  have shifted : digits * 10 ^ k ≠ 0 := (Nat.mul_pos pos (Nat.pow_pos (by decide))).ne'
  have place : exponent - k + (digitCount (digits * 10 ^ k) : Int) = exponent + digitCount digits := by
    rw [digitCount_mul_pow pos]
    omega
  -- numerator and denominator grow by the same power of ten
  obtain ⟨t, numerator, denominator⟩ : ∃ t, digits * 10 ^ k * 10 ^ (exponent - k).toNat
      = digits * 10 ^ exponent.toNat * 10 ^ t ∧
      10 ^ (-(exponent - (k : Int))).toNat = 10 ^ (-exponent).toNat * 10 ^ t := by
    refine ⟨k + (exponent - k).toNat - exponent.toNat, ?_, ?_⟩
    · rw [Nat.mul_assoc, Nat.mul_assoc, ← Nat.pow_add, ← Nat.pow_add]
      congr 2
      omega
    · rw [← Nat.pow_add]
      congr 1
      omega
  simp only [ofDecimal, Nat.pow_eq, Decimal.shift, if_neg zero, if_neg shifted, place, numerator,
    denominator, ofRatio_mul_right _ _ _ (Nat.pow_pos (n := t) (by decide : 0 < 10))]

/-- Stripping a decimal takes zeros off it. -/
theorem Decimal.shift_strip (fuel : Nat) (d : Decimal) : ∃ k, d = (d.strip fuel).shift k := by
  induction fuel generalizing d with
  | zero => exact ⟨0, by simp [strip, shift]⟩
  | succ fuel ih =>
    rw [strip]
    split
    · next zero =>
      obtain ⟨k, same⟩ := ih ⟨d.digits / 10, d.exponent + 1⟩
      have tenth : d = shift ⟨d.digits / 10, d.exponent + 1⟩ 1 := by
        obtain ⟨digits, exponent⟩ := d
        simp only [shift, Decimal.mk.injEq, Nat.pow_one] at zero ⊢
        omega
      refine ⟨k + 1, tenth.trans ?_⟩
      generalize strip fuel ⟨d.digits / 10, d.exponent + 1⟩ = stripped at same
      rw [same]
      simp only [shift, Decimal.mk.injEq, Nat.pow_succ]
      constructor
      · rw [Nat.pow_zero, Nat.one_mul, Nat.mul_assoc]
      · omega
    · exact ⟨0, by simp [shift]⟩

/-- Stripping a decimal does not change what it reads as. -/
theorem Number.ofDecimal_strip (negative : Bool) (fuel : Nat) (d : Decimal) :
    ofDecimal negative (d.strip fuel) = ofDecimal negative d := by
  obtain ⟨k, same⟩ := d.shift_strip fuel
  rw [← ofDecimal_shift negative (d.strip fuel) k, ← same]

/-- The sign plays no part in reading a decimal. -/
theorem Number.ofDecimal_eq_assemble (d : Decimal) :
    ∃ significand exponent, ∀ negative,
      ofDecimal negative d = assemble negative significand exponent := by
  simp only [ofDecimal]
  split
  · exact ⟨0, 0, fun _ => rfl⟩
  split
  · exact ⟨2 ^ 53, 0, fun _ => rfl⟩
  split
  · exact ⟨0, 0, fun _ => rfl⟩
  · exact ofRatio_eq_assemble _ _

namespace Finite

/-- A magnitude over a power of two, written out in full: five takes the place of every half. -/
theorem ofDecimal_full (negative : Bool) {m k : Nat} (pos : 0 < m)
    (few : digitCount (m * 5 ^ k) ≤ k + 400) (many : k ≤ digitCount (m * 5 ^ k) + 400) :
    Number.ofDecimal negative ⟨m * 5 ^ k, -k⟩ = Number.ofRatio negative m (2 ^ k) := by
  have digits : m * 5 ^ k ≠ 0 := (Nat.mul_pos pos (Nat.pow_pos (by decide))).ne'
  have up : ¬ (-(k : Int) + digitCount (m * 5 ^ k) > 400) := by omega
  have down : ¬ (-(k : Int) + digitCount (m * 5 ^ k) < -400) := by omega
  have ten : 10 ^ k = 2 ^ k * 5 ^ k := by rw [← Nat.mul_pow]
  simp only [Number.ofDecimal, Nat.pow_eq, if_neg digits, if_neg up, if_neg down, Int.toNat_neg_natCast,
    Int.neg_neg, Int.toNat_natCast, Nat.pow_zero, Nat.mul_one, ten]
  exact Number.ofRatio_mul_right _ _ _ (Nat.pow_pos (by decide))

/-- A number below `2^1024`, over a power of two and written out in full, has few digits. -/
theorem digitCount_full_le {m k : Nat} (small : m < 2 ^ (1024 + k)) :
    digitCount (m * 5 ^ k) ≤ k + 400 := by
  have range : 2 ^ 1024 ≤ 10 ^ 400 := by
    calc 2 ^ 1024 ≤ (2 ^ 3) ^ 400 := by
          rw [← Nat.pow_mul]
          exact Nat.pow_le_pow_right (by decide) (by decide)
      _ ≤ 10 ^ 400 := Nat.pow_le_pow_left (by decide) 400
  have ten : 10 ^ k = 2 ^ k * 5 ^ k := by rw [← Nat.mul_pow]
  refine (Nat.length_toDigits_le_iff (by decide) (by omega)).2 ?_
  calc m * 5 ^ k < 2 ^ (1024 + k) * 5 ^ k := Nat.mul_lt_mul_of_pos_right small (Nat.pow_pos (by decide))
    _ = 2 ^ 1024 * 10 ^ k := by rw [Nat.pow_add, ten, Nat.mul_assoc]
    _ ≤ 10 ^ 400 * 10 ^ k := Nat.mul_le_mul_right _ range
    _ = 10 ^ (k + 400) := by rw [Nat.pow_add, Nat.mul_comm]

/-- A number over a power of two that is written out in full has many digits. -/
theorem lt_digitCount_full {m k j : Nat} (pos : 0 < m) (some : 0 < j) (power : k = 3 * j) :
    2 * j < digitCount (m * 5 ^ k) + 1 := by
  -- five to the third has more than two digits
  have hundred : 10 ^ (2 * j) ≤ m * 5 ^ k := by
    calc 10 ^ (2 * j) = (10 ^ 2) ^ j := Nat.pow_mul ..
      _ ≤ (5 ^ 3) ^ j := Nat.pow_le_pow_left (by decide) j
      _ = 5 ^ k := by rw [power, Nat.pow_mul]
      _ ≤ m * 5 ^ k := Nat.le_mul_of_pos_left _ pos
  refine Nat.lt_succ_of_le (Nat.le_of_not_lt fun few => ?_)
  have less := (Nat.length_toDigits_le_iff (by decide) (Nat.mul_pos (by decide) some)).1
    (Nat.le_of_lt few)
  exact Nat.lt_irrefl _ (Nat.lt_of_le_of_lt hundred less)

/-- The magnitude of a number is less than `2^2098`. -/
theorem magnitude_lt (x : Finite) : x.magnitude < 2 ^ (53 + 2045) := by
  rw [magnitude_eq, Nat.pow_add]
  exact Nat.mul_lt_mul_of_lt_of_le x.parts.1
    (Nat.pow_le_pow_right (by decide) x.bounded.2) (Nat.two_pow_pos _)

/-- A number written out in full reads back as it. -/
theorem readsBack_exact (x : Finite) (nonzero : x.significand ≠ 0) : x.readsBack x.exact = true := by
  have pos : 0 < x.magnitude := by
    rw [magnitude_eq]
    exact Nat.mul_pos (Int.natAbs_pos.2 nonzero) (Nat.two_pow_pos _)
  have small : x.magnitude < 2 ^ (1024 + 1074) :=
    Nat.lt_of_lt_of_le x.magnitude_lt (Nat.pow_le_pow_right (by decide) (by decide))
  -- no digit count of a number is out of the range that is read exactly
  have enough : ∀ n, 2 * 358 < n + 1 → 1074 ≤ n + 400 := by omega
  have many := enough _ (lt_digitCount_full (k := 1074) (j := 358) pos (by decide) rfl)
  have back := ofDecimal_full false pos (digitCount_full_le small) many
  rw [Number.ofRatio_magnitude false x nonzero, Number.assemble, dif_pos (by exact x.parts)] at back
  have full : x.exact = ⟨x.magnitude * 5 ^ 1074, -((1074 : Nat) : Int)⟩ := rfl
  rw [readsBack, full, back]
  refine decide_eq_true ?_
  rw [magnitude_eq, magnitude_eq]
  rfl

/-- A stripped decimal reads back as before. -/
theorem readsBack_strip (x : Finite) (fuel : Nat) (d : Decimal) :
    x.readsBack (d.strip fuel) = x.readsBack d := by
  simp only [readsBack, Number.ofDecimal_strip]

/-- **The shortest decimal reads back.** -/
theorem readsBack_shortest (x : Finite) (nonzero : x.significand ≠ 0) :
    x.readsBack x.shortest = true := by
  rw [shortest]
  cases found : x.candidates.find? x.readsBack with
  | some d =>
    rw [Option.map_some, Option.getD_some, readsBack_strip]
    exact List.find?_some found
  | none =>
    rw [Option.map_none, Option.getD_none, readsBack_strip]
    exact x.readsBack_exact nonzero

/-- **The shortest decimal of a number, with its sign, reads back as the number.** -/
theorem ofDecimal_shortest (x : Finite) (nonzero : x.significand ≠ 0) :
    Number.ofDecimal (decide (x.significand < 0)) x.shortest = .finite x := by
  have back := x.readsBack_shortest nonzero
  obtain ⟨significand, exponent, parts⟩ := Number.ofDecimal_eq_assemble x.shortest
  rw [readsBack, parts] at back
  rw [parts]
  split at back
  · next y assembled =>
    obtain ⟨rfl, rfl⟩ := Number.of_assemble_eq assembled
    obtain ⟨same, same'⟩ := eq_of_magnitude (of_decide_eq_true back)
    rw [same, same', x.assemble_eq nonzero]
  · simp at back

end Finite

end ServiceAccess
