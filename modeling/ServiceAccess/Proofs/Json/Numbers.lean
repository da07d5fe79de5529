import Mathlib.Data.List.Basic
import ServiceAccess.Json.Parser
import ServiceAccess.Proofs.Number.Rounding

/-! # Reading numbers back

The text of a finite number, followed by something that does not go on with it, is read as that number.

* **`readDigits_append`**: a run of digits is read up to its end.
* **`readMagnitude_layout`**: each of the four layouts of a decimal is read as that decimal.
* **`readMagnitude_text`**: what follows the sign of a number is read as the number. -/

namespace ServiceAccess.Json

/-- What follows a number does not go on with it. -/
def Stops (rest : List Char) : Prop :=
  ∀ c r, rest = c :: r → c.isDigit = false ∧ c ≠ '.' ∧ c ≠ 'e' ∧ c ≠ 'E'

/-- What follows digits does not go on with them. -/
def StopsDigits (rest : List Char) : Prop := ∀ c r, rest = c :: r → c.isDigit = false

theorem Stops.stopsDigits {rest : List Char} (h : Stops rest) : StopsDigits rest :=
  fun c r same => (h c r same).1

/-- A run of digits is read up to its end. -/
theorem readDigits_append {ds rest : List Char} (digits : ∀ c ∈ ds, c.isDigit = true)
    (stops : StopsDigits rest) :
    readDigits (ds ++ rest) = (Nat.ofDigitChars 10 ds 0, ds.length, rest) := by
  -- what follows the digits is not taken along
  have none_taken : rest.takeWhile Char.isDigit = [] := by
    cases rest with
    | nil => rfl
    | cons c r => simp [stops c r rfl]
  have none_dropped : rest.dropWhile Char.isDigit = rest := by
    cases rest with
    | nil => rfl
    | cons c r => simp [stops c r rfl]
  have step : (fun (n : Nat) (c : Char) => n * 10 + (c.toNat - 48))
      = fun n c => 10 * n + (c.toNat - '0'.toNat) := by
    funext n c
    rw [Nat.mul_comm]
    rfl
  rw [readDigits, List.takeWhile_append_of_pos digits, List.dropWhile_append_of_pos digits,
    none_taken, none_dropped, List.append_nil, step]
  rfl

/-- The decimal digits of a number are digits. -/
theorem isDigit_toDigits (n : Nat) : ∀ c ∈ Nat.toDigits 10 n, c.isDigit = true :=
  fun _ here => Nat.isDigit_of_mem_toDigits (by decide) (by decide) here

/-- The digits of a positive number do not begin with a zero. -/
theorem head_toDigits {n : Nat} (pos : 0 < n) : (Nat.toDigits 10 n).head? ≠ some '0' := by
  induction n using Nat.strongRecOn with
  | ind n ih =>
    rw [Nat.toDigits_eq_if (by decide)]
    split
    · simp; omega
    · -- the leading digit is that of the tenth
      have smaller := ih (n / 10) (by omega) (by omega)
      rwa [List.head?_append_of_ne_nil _ Nat.toDigits_ne_nil]

/-! ## Exponents -/

/-- Where no exponent stands, none is read. -/
theorem readExponent_none {rest : List Char} (stops : Stops rest) :
    readExponent rest = some (0, rest) := by
  cases rest with
  | nil => rfl
  | cons c r =>
    have other := stops c r rfl
    unfold readExponent
    simp [other]

/-- An exponent with its sign is read as a power of ten. -/
theorem readExponent_power (power : Int) {rest : List Char} (stops : Stops rest) :
    readExponent ('e' :: (if power < 0 then '-' else '+') :: (Nat.toDigits 10 power.natAbs ++ rest))
      = some (power, rest) := by
  have digits := readDigits_append (isDigit_toDigits power.natAbs) stops.stopsDigits
  rw [Nat.ofDigitChars_ten_toDigits] at digits
  have counted : (Nat.toDigits 10 power.natAbs).length ≠ 0 :=
    fun none => Nat.toDigits_ne_nil (List.length_eq_zero_iff.1 none)
  by_cases negative : power < 0
  · have value : -(power.natAbs : Int) = power := by omega
    simp only [readExponent, negative, true_or, if_true, digits, if_neg counted, value]
  · have value : (power.natAbs : Int) = power := by omega
    simp only [readExponent, negative, true_or, if_true, if_false, digits, if_neg counted,
      Bool.false_eq_true, value]

/-! ## Decimals -/

/-- The value of some digits with others behind them. -/
theorem ofDigitChars_append_zero (ds es : List Char) :
    Nat.ofDigitChars 10 ds 0 * 10 ^ es.length + Nat.ofDigitChars 10 es 0
      = Nat.ofDigitChars 10 (ds ++ es) 0 := by
  rw [Nat.ofDigitChars_append, @Nat.ofDigitChars_eq_ofDigitChars_zero es (Nat.ofDigitChars 10 ds 0),
    Nat.mul_comm]

section

variable (negative : Bool) (whole : List Char) {fraction tail rest : List Char} {power : Int}

/-- Digits without a point are read as a whole number times the power of ten that follows. -/
theorem readMagnitude_whole (digits : ∀ c ∈ whole, c.isDigit = true) (some_digit : whole ≠ [])
    (lead : 1 < whole.length → whole.head? ≠ some '0') (stops : StopsDigits tail)
    (pointless : ∀ r, tail ≠ '.' :: r) (exponent : readExponent tail = some (power, rest)) :
    readMagnitude negative (whole ++ tail)
      = some (Number.ofDecimal negative ⟨Nat.ofDigitChars 10 whole 0, power⟩, rest) := by
  have counted : ¬ (whole.length = 0 ∨ whole.length > 1 ∧ (whole ++ tail).head? = some '0') := by
    rw [List.head?_append_of_ne_nil _ some_digit]
    simp only [not_or, not_and, List.length_eq_zero_iff]
    exact ⟨some_digit, lead⟩
  simp only [readMagnitude, readDigits_append digits stops, if_neg counted]
  simp [exponent]

/-- Digits around a point are read as all of them together. -/
theorem readMagnitude_fraction (digits : ∀ c ∈ whole, c.isDigit = true) (some_digit : whole ≠ [])
    (lead : 1 < whole.length → whole.head? ≠ some '0')
    (digits' : ∀ c ∈ fraction, c.isDigit = true) (some_digit' : fraction ≠ [])
    (stops : StopsDigits tail) (exponent : readExponent tail = some (power, rest)) :
    readMagnitude negative (whole ++ '.' :: (fraction ++ tail))
      = some (Number.ofDecimal negative
          ⟨Nat.ofDigitChars 10 (whole ++ fraction) 0, power - fraction.length⟩, rest) := by
  have point : StopsDigits ('.' :: (fraction ++ tail)) := by
    intro c r same
    obtain ⟨rfl, -⟩ := List.cons.inj same
    rfl
  have counted : ¬ (whole.length = 0 ∨
      whole.length > 1 ∧ (whole ++ '.' :: (fraction ++ tail)).head? = some '0') := by
    rw [List.head?_append_of_ne_nil _ some_digit]
    simp only [not_or, not_and, List.length_eq_zero_iff]
    exact ⟨some_digit, lead⟩
  have counted' : fraction.length ≠ 0 := fun none => some_digit' (List.length_eq_zero_iff.1 none)
  simp only [readMagnitude, readDigits_append digits point, if_neg counted,
    readDigits_append digits' stops, if_neg counted', Option.bind_some, exponent, Option.map_some,
    Nat.pow_eq, ofDigitChars_append_zero]

end

/-! ## Layouts -/

/-- Zeros are digits. -/
theorem isDigit_zeros (n : Nat) : ∀ c ∈ List.replicate n '0', c.isDigit = true := by
  intro c here
  rw [List.eq_of_mem_replicate here]
  rfl

section

variable (negative : Bool) {ds rest : List Char} (digits : ∀ c ∈ ds, c.isDigit = true)
  (some_digit : ds ≠ []) (lead : ds.head? ≠ some '0') (stops : Stops rest)
include digits some_digit stops

include lead in
/-- Digits with zeros behind them are read as a whole number. -/
theorem readMagnitude_zeros (n : Nat) :
    readMagnitude negative (ds ++ List.replicate n '0' ++ rest)
      = some (Number.ofDecimal negative ⟨Nat.ofDigitChars 10 ds 0, n⟩, rest) := by
  have padded : Nat.ofDigitChars 10 (ds ++ List.replicate n '0') 0
      = Nat.ofDigitChars 10 ds 0 * 10 ^ n := by
    rw [Nat.ofDigitChars_append, Nat.ofDigitChars_replicate_zero, Nat.mul_comm]
  -- the exponent stands for the zeros behind the digits
  have shifted := Number.ofDecimal_shift negative ⟨Nat.ofDigitChars 10 ds 0, n⟩ n
  rw [Decimal.shift, Int.sub_self] at shifted
  rw [readMagnitude_whole _ _ (List.forall_mem_append.2 ⟨digits, isDigit_zeros n⟩) (by simp [some_digit])
    (fun _ => by rwa [List.head?_append_of_ne_nil _ some_digit]) stops.stopsDigits
    (fun r same => (stops '.' r same).2.1 rfl) (readExponent_none stops), padded, shifted]

include lead in
/-- Digits with a point among them are read as a fraction. -/
theorem readMagnitude_point (place : Nat) (pos : 0 < place) (inside : place < ds.length) :
    readMagnitude negative (ds.take place ++ '.' :: ds.drop place ++ rest)
      = some (Number.ofDecimal negative ⟨Nat.ofDigitChars 10 ds 0, place - (ds.length : Int)⟩, rest) := by
  have some_whole : ds.take place ≠ [] := by
    simp only [ne_eq, List.take_eq_nil_iff, some_digit, or_false]
    omega
  have some_fraction : ds.drop place ≠ [] := by
    simp only [ne_eq, List.drop_eq_nil_iff]
    omega
  have power : 0 - ((ds.drop place).length : Int) = place - (ds.length : Int) := by
    rw [List.length_drop]
    omega
  rw [List.append_assoc, List.cons_append, readMagnitude_fraction _ _
    (fun c here => digits c (List.mem_of_mem_take here)) some_whole
    (fun _ => by rw [List.head?_take, if_neg (by omega)]; exact lead)
    (fun c here => digits c (List.mem_of_mem_drop here)) some_fraction stops.stopsDigits
    (readExponent_none stops), List.take_append_drop, power]

/-- Digits behind a point and zeros are read as a fraction. -/
theorem readMagnitude_below (n : Nat) :
    readMagnitude negative ('0' :: '.' :: (List.replicate n '0' ++ ds) ++ rest)
      = some (Number.ofDecimal negative ⟨Nat.ofDigitChars 10 ds 0, -(n + ds.length : Int)⟩, rest) := by
  -- leading zeros add nothing to the digits
  have padded : Nat.ofDigitChars 10 (['0'] ++ (List.replicate n '0' ++ ds)) 0
      = Nat.ofDigitChars 10 ds 0 := by
    rw [List.singleton_append, Nat.ofDigitChars_cons, Nat.ofDigitChars_append,
      Nat.ofDigitChars_replicate_zero]
    simp
  have power : 0 - ((List.replicate n '0' ++ ds).length : Int) = -(n + ds.length : Int) := by
    rw [List.length_append, List.length_replicate]
    omega
  have read := readMagnitude_fraction negative ['0'] (by simp) (by simp) (by simp)
    (List.forall_mem_append.2 ⟨isDigit_zeros n, digits⟩) (by simp [some_digit]) stops.stopsDigits
    (readExponent_none stops)
  rw [padded, power] at read
  exact read

include lead in
/-- A digit, maybe a point and others, and an exponent are read as a fraction. -/
theorem readMagnitude_scientific (power : Int) :
    readMagnitude negative (ds.take 1 ++ (if ds.length = 1 then [] else '.' :: ds.drop 1)
        ++ 'e' :: (if power < 0 then '-' else '+') :: (Nat.toDigits 10 power.natAbs ++ rest))
      = some (Number.ofDecimal negative ⟨Nat.ofDigitChars 10 ds 0, power - (ds.length - 1 : Int)⟩,
          rest) := by
  have length_pos := List.length_pos_iff.2 some_digit
  have point : StopsDigits
      ('e' :: (if power < 0 then '-' else '+') :: (Nat.toDigits 10 power.natAbs ++ rest)) := by
    intro c r same
    obtain ⟨rfl, -⟩ := List.cons.inj same
    rfl
  by_cases one : ds.length = 1
  · have all_taken : ds.take 1 = ds := List.take_of_length_le (by omega)
    rw [if_pos one, List.append_nil, all_taken, readMagnitude_whole _ _ digits some_digit
      (fun _ => lead) point (by simp) (readExponent_power power stops), one]
    simp
  · have some_fraction : ds.drop 1 ≠ [] := by
      simp only [ne_eq, List.drop_eq_nil_iff]
      omega
    have places : power - ((ds.drop 1).length : Int) = power - (ds.length - 1 : Int) := by
      rw [List.length_drop]
      omega
    rw [if_neg one, List.append_assoc, List.cons_append, readMagnitude_fraction _ _
      (fun c here => digits c (List.mem_of_mem_take here)) (by simp [some_digit])
      (fun long => by simp at long) (fun c here => digits c (List.mem_of_mem_drop here))
      some_fraction point (readExponent_power power stops), List.take_append_drop, places]

end

/-- **Every layout of a decimal is read as that decimal.** -/
theorem readMagnitude_layout (negative : Bool) (d : Decimal) (pos : 0 < d.digits) {rest : List Char}
    (stops : Stops rest) :
    readMagnitude negative (d.layout.toList ++ rest)
      = some (Number.ofDecimal negative d, rest) := by
  obtain ⟨digits, exponent⟩ := d
  have all := isDigit_toDigits digits
  have lead := head_toDigits pos
  have value : Nat.ofDigitChars 10 (Nat.toDigits 10 digits) 0 = digits :=
    Nat.ofDigitChars_ten_toDigits
  have some_digit : Nat.toDigits 10 digits ≠ [] := Nat.toDigits_ne_nil
  simp only [Decimal.layout] at pos ⊢
  generalize Nat.toDigits 10 digits = ds at *
  have length_pos := List.length_pos_iff.2 some_digit
  split
  · -- zeros behind the digits
    next large =>
    have read := readMagnitude_zeros negative all some_digit lead stops exponent.toNat
    have zeros : (exponent + ds.length : Int).toNat - ds.length = exponent.toNat := by omega
    have whole : (exponent.toNat : Int) = exponent := by omega
    rw [String.toList_ofList, zeros, read, value, whole]
  split
  · -- a point among the digits
    next small inside =>
    have read := readMagnitude_point negative all some_digit lead stops
      (exponent + ds.length : Int).toNat (by omega) (by omega)
    have power : ((exponent + ds.length : Int).toNat : Int) - ds.length = exponent := by omega
    rw [String.toList_ofList, read, value, power]
  split
  · -- a point and zeros in front of the digits
    next outside below =>
    have read := readMagnitude_below negative all some_digit stops (-(exponent + ds.length : Int)).toNat
    have power : -((-(exponent + ds.length : Int)).toNat + ds.length : Int) = exponent := by omega
    rw [String.toList_ofList, read, value, power]
  · -- an exponent behind the digits
    have read := readMagnitude_scientific negative all some_digit lead stops
      (exponent + ds.length - 1 : Int)
    have power : (exponent + ds.length - 1 : Int) - (ds.length - 1 : Int) = exponent := by omega
    rw [value, power] at read
    have sign : ∀ p : Int, (if p < 0 then "-" else "+").toList = [if p < 0 then '-' else '+'] := by
      intro p
      split <;> rfl
    rw [← read]
    congr 1
    generalize (exponent + ds.length - 1 : Int) = p
    split <;> simp [sign]

/-- **The text of a finite number is read as the number**, its sign aside. -/
theorem readMagnitude_text (x : Finite) (nonzero : x.significand ≠ 0) {rest : List Char}
    (stops : Stops rest) :
    readMagnitude (decide (x.significand < 0)) (x.shortest.layout.toList ++ rest)
      = some (.finite x, rest) := by
  have back := x.ofDecimal_shortest nonzero
  -- zero digits would be read as zero
  have pos : 0 < x.shortest.digits := by
    refine Nat.pos_of_ne_zero fun zero => nonzero ?_
    rw [Number.ofDecimal, if_pos zero] at back
    exact Int.natAbs_eq_zero.1 (Number.of_assemble_eq back).1.symm
  rw [readMagnitude_layout _ _ pos stops, back]

end ServiceAccess.Json
