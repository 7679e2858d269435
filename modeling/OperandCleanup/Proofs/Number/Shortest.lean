import OperandCleanup.Proofs.Number.Digits
import OperandCleanup.Proofs.Number.Rounding

/-!
# The shortest decimal reads back

Whatever number of digits is enough, the decimal that is chosen for a number lies in the interval
around it. So it is rounded to that number.
-/

namespace OperandCleanup

open Binary64

/-! ## The interval in powers of ten -/

/-- The factor that turns quarters of a unit into powers of ten. -/
def decimalFactor (unit : Int) : Nat :=
  if 0 ≤ unit then Nat.pow 2 unit.toNat else Nat.pow 5 (-unit).toNat

/-- Quarters of a unit in powers of ten. -/
theorem cast_mul_decimalFactor (quarters : Nat) (unit : Int) :
    ((quarters * decimalFactor unit : Nat) : ℚ) * 10 ^ min unit 0 = quarters * 2 ^ unit := by
  unfold decimalFactor
  split
  · rename_i hunit
    rw [min_eq_right hunit, zpow_zero, mul_one, Nat.cast_mul, Nat.pow_eq, cast_pow_toNat 2 hunit,
      Nat.cast_ofNat]
  · rename_i hunit
    have hneg : 0 ≤ -unit := by omega
    have hten : (10 : ℚ) ^ unit = 2 ^ unit * 5 ^ unit := by
      rw [← mul_zpow]
      norm_num
    rw [min_eq_left (by omega), Nat.cast_mul, Nat.pow_eq, cast_pow_toNat 5 hneg, Nat.cast_ofNat,
      hten, zpow_neg]
    field_simp

section Interval

variable {significand : Nat} {exponent : Int}

/-- A quarter of a unit. -/
theorem two_zpow_sub_two (exponent : Int) : (2 : ℚ) ^ (exponent - 2) = 2 ^ exponent / 4 := by
  rw [zpow_sub₀ (by norm_num)]
  norm_num

/-- The lower end of the interval of a number. -/
theorem RoundingInterval.cast_low (hpos : 0 < significand) (exponent : Int) :
    ((of significand exponent).low : ℚ) * 10 ^ (of significand exponent).exponent =
      (significand - quartersBelow significand exponent / 4) * 2 ^ exponent := by
  have hbelow : quartersBelow significand exponent ≤ 2 := by
    unfold quartersBelow
    split <;> decide
  have hle : quartersBelow significand exponent ≤ 4 * significand := by omega
  refine (cast_mul_decimalFactor (4 * significand - quartersBelow significand exponent)
    (exponent - 2)).trans ?_
  rw [two_zpow_sub_two, Nat.cast_sub hle]
  push_cast
  ring

/-- The upper end of the interval of a number. -/
theorem RoundingInterval.cast_high (significand : Nat) (exponent : Int) :
    ((of significand exponent).high : ℚ) * 10 ^ (of significand exponent).exponent =
      (significand + 1 / 2) * 2 ^ exponent := by
  refine (cast_mul_decimalFactor (4 * significand + 2) (exponent - 2)).trans ?_
  rw [two_zpow_sub_two]
  push_cast
  ring

/-- What an interval contains lies between its ends, and is an end only of a closed one. -/
theorem RoundingInterval.bounds_of_contains {interval : RoundingInterval} {n : Nat}
    (h : interval.contains n = true) :
    interval.low ≤ n ∧ n ≤ interval.high ∧
      (n = interval.low ∨ n = interval.high → interval.closed = true) := by
  unfold contains at h
  split at h
  · rename_i hclosed
    simp only [Bool.and_eq_true, decide_eq_true_eq] at h
    exact ⟨h.1, h.2, fun _ => hclosed⟩
  · simp only [Bool.and_eq_true, decide_eq_true_eq] at h
    exact ⟨h.1.le, h.2.le, fun hend => by omega⟩

/-- What the interval of a number contains is rounded to it. -/
theorem RoundingInterval.roundsTo_of_contains (hpos : 0 < significand) {n : Nat}
    (h : (of significand exponent).contains n = true) :
    RoundsTo significand exponent (n * 10 ^ (of significand exponent).exponent) := by
  have hten : (0 : ℚ) < 10 ^ (of significand exponent).exponent := by positivity
  obtain ⟨hlow, hhigh, hends⟩ := bounds_of_contains h
  refine ⟨?_, ?_, fun htie => of_decide_eq_true (hends ?_)⟩
  · rw [← cast_low hpos]
    exact mul_le_mul_of_nonneg_right (by exact_mod_cast hlow) hten.le
  · rw [← cast_high]
    exact mul_le_mul_of_nonneg_right (by exact_mod_cast hhigh) hten.le
  · rw [← cast_low hpos, ← cast_high] at htie
    refine htie.imp (fun heq => ?_) fun heq => ?_
    · exact_mod_cast mul_right_cancel₀ hten.ne' heq
    · exact_mod_cast mul_right_cancel₀ hten.ne' heq

/-- The interval of a number contains it. -/
theorem RoundingInterval.contains_value (hpos : 0 < significand) (exponent : Int) :
    (of significand exponent).contains (of significand exponent).value = true := by
  have hfactor : 0 < decimalFactor (exponent - 2) := by
    unfold decimalFactor
    split <;> exact Nat.pow_pos (by decide)
  have hbelow : 0 < quartersBelow significand exponent := by
    unfold quartersBelow
    split <;> decide
  have hlow : (of significand exponent).low < (of significand exponent).value :=
    Nat.mul_lt_mul_of_pos_right (Nat.sub_lt (by omega) hbelow) hfactor
  have hhigh : (of significand exponent).value < (of significand exponent).high :=
    Nat.mul_lt_mul_of_pos_right (Nat.lt_add_of_pos_right (by decide)) hfactor
  unfold contains
  split <;> simp [hlow, hhigh, hlow.le, hhigh.le]

end Interval

/-- A candidate lies in the interval. -/
theorem RoundingInterval.contains_of_candidate? {interval : RoundingInterval} {k coefficient : Nat}
    (h : interval.candidate? k = some coefficient) :
    interval.contains (coefficient * Nat.pow 10 k) = true := by
  unfold candidate? at h
  dsimp only at h
  split at h
  · rename_i hboth
    obtain ⟨hlower, hupper⟩ := Bool.and_eq_true_iff.mp hboth
    split at h
    · rwa [← Option.some.inj h]
    · rwa [← Option.some.inj h]
  · split at h
    · rwa [← Option.some.inj h]
    · split at h
      · rwa [← Option.some.inj h]
      · cases h

/-- The shortest decimal of a number is a coefficient and a power of ten in its interval, without
the zeros at the coefficient's end. -/
theorem Binary64.shortest_eq {significand : Nat} (hpos : 0 < significand) (exponent : Int) :
    ∃ coefficient k, shortest significand exponent =
        withoutTrailingZeros (Nat.toDigits 10 coefficient)
          ((RoundingInterval.of significand exponent).exponent + (k : Nat)) ∧
      (RoundingInterval.of significand exponent).contains (coefficient * Nat.pow 10 k) = true := by
  unfold shortest
  dsimp only
  cases hfound : (List.range 17).findSome? _ with
  | none =>
    refine ⟨_, 0, rfl, ?_⟩
    rw [Nat.pow_eq, pow_zero, mul_one]
    exact RoundingInterval.contains_value hpos exponent
  | some chosen =>
    obtain ⟨i, -, hchosen⟩ := List.exists_of_findSome?_eq_some hfound
    obtain ⟨coefficient, hcandidate, rfl⟩ := Option.map_eq_some_iff.mp hchosen
    exact ⟨_, _, rfl, RoundingInterval.contains_of_candidate? hcandidate⟩

/-- The shortest decimal of a number: digits that do not start with a zero, and a power of ten that
the last of them counts, of a value in the interval around the number. -/
theorem Binary64.shortest_spec {significand : Nat} (hpos : 0 < significand) (exponent : Int) :
    ∃ digits last, shortest significand exponent = (digits, last) ∧
      (∀ c ∈ digits, c.isDigit = true) ∧ digits ≠ [] ∧ digits.head? ≠ some '0' ∧
      RoundsTo significand exponent (Nat.ofDigitChars 10 digits 0 * 10 ^ last) := by
  obtain ⟨coefficient, k, hshortest, hcontains⟩ := shortest_eq hpos exponent
  have hrounds := RoundingInterval.roundsTo_of_contains hpos hcontains
  obtain ⟨count, hdigits, hlast⟩ := withoutTrailingZeros_spec (Nat.toDigits 10 coefficient)
    ((RoundingInterval.of significand exponent).exponent + k)
  rw [← hshortest] at hdigits hlast
  generalize shortest significand exponent = decimal at hdigits hlast ⊢
  obtain ⟨digits, last⟩ := decimal
  dsimp only at hdigits hlast
  have hcoefficient : coefficient = Nat.ofDigitChars 10 digits 0 * 10 ^ count := by
    have hvalue := congrArg (Nat.ofDigitChars 10 · 0) hdigits
    rwa [Nat.ofDigitChars_ten_toDigits, ofDigitChars_append, ofDigitChars_zeros,
      List.length_replicate, Nat.add_zero] at hvalue
  have hvalue : ((coefficient * Nat.pow 10 k : Nat) : ℚ) *
      10 ^ (RoundingInterval.of significand exponent).exponent =
        Nat.ofDigitChars 10 digits 0 * 10 ^ last := by
    rw [hcoefficient, hlast, Nat.pow_eq, zpow_add₀ (by norm_num), zpow_add₀ (by norm_num),
      zpow_natCast, zpow_natCast]
    push_cast
    ring
  rw [hvalue] at hrounds
  have hpositive := hrounds.coefficient_pos hpos
  have hne : digits ≠ [] := by
    rintro rfl
    exact absurd hpositive (lt_irrefl 0)
  refine ⟨digits, last, rfl, fun c hc => ?_, hne, ?_, hrounds⟩
  · refine isDigit_of_mem_toDigits (n := coefficient) ?_
    rw [hdigits]
    exact List.mem_append_left _ hc
  · have hhead := head?_toDigits_ne_zero (n := coefficient)
      (by rw [hcoefficient]; exact Nat.mul_pos hpositive (Nat.pow_pos (by decide)))
    rwa [hdigits, List.head?_append_of_ne_nil _ hne] at hhead

end OperandCleanup
