import Mathlib.Algebra.Order.Field.Power
import Mathlib.Data.Rat.Cast.Order
import Mathlib.Tactic.FieldSimp
import Mathlib.Tactic.Linarith
import Mathlib.Tactic.Positivity
import Mathlib.Tactic.Ring
import OperandCleanup.Number.Binary64

/-!
# Rounding to binary floating-point numbers

A positive quotient is rounded at the exponent at which its significand has 53 bits, or at the least
one. What lies between the ends of the interval around a number is rounded to that number: between
two ends at half a unit, but for a power of two, whose lower neighbour is nearer.
-/

namespace OperandCleanup.Binary64

/-! ## Integers nearest to quotients -/

section Quotient

variable {num den nearest : Nat}

/-- The integer that a quotient is at most half from is the nearest one, if it is even where the
distance is exactly half. -/
theorem roundedQuotient_eq (hden : 0 < den) (hlow : 2 * nearest * den ≤ 2 * num + den)
    (hhigh : 2 * num ≤ (2 * nearest + 1) * den)
    (htie : 2 * nearest * den = 2 * num + den ∨ 2 * num = (2 * nearest + 1) * den →
      nearest % 2 = 0) : roundedQuotient num den = nearest := by
  have hnum : den * (num / den) + num % den = num := Nat.div_add_mod num den
  have hrest : num % den < den := Nat.mod_lt num hden
  unfold roundedQuotient
  generalize num / den = quotient at hnum ⊢
  generalize num % den = rest at hnum hrest ⊢
  subst hnum
  have hquotient : quotient ≤ nearest := by
    by_contra hlt
    have hstep : (nearest + 1) * den ≤ quotient * den :=
      Nat.mul_le_mul_right den (Nat.lt_of_not_le hlt)
    nlinarith
  have hnearest : nearest ≤ quotient + 1 := by
    by_contra hlt
    have hstep : (quotient + 2) * den ≤ nearest * den :=
      Nat.mul_le_mul_right den (Nat.lt_of_not_le hlt)
    nlinarith
  dsimp only
  obtain rfl | rfl : nearest = quotient ∨ nearest = quotient + 1 := by omega
  · have hhalf : 2 * rest ≤ den := by nlinarith
    rw [if_neg]
    rintro (hlt | ⟨heq, hodd⟩)
    · exact absurd hlt (Nat.not_lt.mpr hhalf)
    · have heven := htie (Or.inr (by rw [← heq]; ring))
      omega
  · have hhalf : den ≤ 2 * rest := by nlinarith
    rw [if_pos]
    rcases Nat.lt_or_eq_of_le hhalf with hlt | heq
    · exact Or.inl hlt
    · have heven := htie (Or.inl (by rw [heq]; ring))
      exact Or.inr ⟨heq.symm, by omega⟩

/-- A quotient that an integer bounds from above is rounded to no greater one. -/
theorem roundedQuotient_le {bound : Nat} (hden : 0 < den) (h : num ≤ bound * den) :
    roundedQuotient num den ≤ bound := by
  have hnum : den * (num / den) + num % den = num := Nat.div_add_mod num den
  have hquotient : num / den ≤ bound := Nat.div_le_of_le_mul (by rwa [Nat.mul_comm])
  unfold roundedQuotient
  dsimp only
  split
  · rename_i hup
    refine Nat.lt_of_le_of_ne hquotient fun heq => ?_
    have hrest : num % den = 0 := by
      rw [heq, Nat.mul_comm] at hnum
      omega
    rw [hrest] at hup
    omega
  · exact hquotient

/-- A quotient that an integer bounds from below is rounded to no smaller one. -/
theorem le_roundedQuotient {bound : Nat} (hden : 0 < den) (h : bound * den ≤ num) :
    bound ≤ roundedQuotient num den := by
  have hquotient : bound ≤ num / den := (Nat.le_div_iff_mul_le hden).mpr h
  unfold roundedQuotient
  dsimp only
  split
  · exact Nat.le_succ_of_le hquotient
  · exact hquotient

/-- The nearest integer in terms of the quotient itself. -/
theorem roundedQuotient_eq_of_rat (hden : 0 < den)
    (hlow : (nearest : ℚ) - 1 / 2 ≤ num / den) (hhigh : (num : ℚ) / den ≤ nearest + 1 / 2)
    (htie : (num : ℚ) / den = nearest - 1 / 2 ∨ (num : ℚ) / den = nearest + 1 / 2 →
      nearest % 2 = 0) : roundedQuotient num den = nearest := by
  have hpos : (0 : ℚ) < den := by exact_mod_cast hden
  rw [le_div_iff₀ hpos] at hlow
  rw [div_le_iff₀ hpos] at hhigh
  rw [div_eq_iff hpos.ne', div_eq_iff hpos.ne'] at htie
  refine roundedQuotient_eq hden ?_ ?_ fun heq => htie (heq.imp ?_ ?_)
  · have hnat : (2 * nearest * den : ℚ) ≤ 2 * num + den := by linarith
    exact_mod_cast hnat
  · have hnat : (2 * num : ℚ) ≤ (2 * nearest + 1) * den := by linarith
    exact_mod_cast hnat
  · intro hnat
    have hrat : (2 * nearest * den : ℚ) = 2 * num + den := by exact_mod_cast hnat
    linarith
  · intro hnat
    have hrat : (2 * num : ℚ) = (2 * nearest + 1) * den := by exact_mod_cast hnat
    linarith

end Quotient

/-! ## Units -/

/-- A power with an exponent that is not negative, as a rational. -/
theorem cast_pow_toNat (base : Nat) {exponent : Int} (h : 0 ≤ exponent) :
    ((base ^ exponent.toNat : Nat) : ℚ) = (base : ℚ) ^ exponent := by
  rw [Nat.cast_pow, ← zpow_natCast, Int.toNat_of_nonneg h]

section Units

variable {num den : Nat}

/-- Measuring in units keeps the denominator positive. -/
theorem inUnits_den_pos (num : Nat) (hden : 0 < den) (exponent : Int) :
    0 < (inUnits num den exponent).2 := by
  unfold inUnits
  split
  · exact Nat.mul_pos hden (Nat.pow_pos (by decide))
  · exact hden

/-- A quotient measured in units is divided by them. -/
theorem inUnits_eq (num den : Nat) (exponent : Int) :
    ((inUnits num den exponent).1 : ℚ) / (inUnits num den exponent).2 =
      num / den / 2 ^ exponent := by
  unfold inUnits
  split
  · rename_i h
    rw [Nat.cast_mul, Nat.pow_eq, cast_pow_toNat 2 h, Nat.cast_ofNat, div_div]
  · rename_i h
    have hneg : 0 ≤ -exponent := by omega
    rw [Nat.cast_mul, Nat.pow_eq, cast_pow_toNat 2 hneg, Nat.cast_ofNat, zpow_neg, ← div_eq_mul_inv,
      div_right_comm]

/-- A positive number lies between the powers of two of its logarithm. -/
theorem log2_bounds {n : Nat} (h : 0 < n) :
    (2 : ℚ) ^ (n.log2 : Int) ≤ n ∧ (n : ℚ) < 2 ^ ((n.log2 : Int) + 1) := by
  constructor
  · rw [zpow_natCast]
    exact_mod_cast Nat.log2_self_le h.ne'
  · rw [← Nat.cast_succ, zpow_natCast]
    exact_mod_cast Nat.lt_log2_self

/-- A positive quotient lies between powers of two that the logarithms of its parts give. -/
theorem quotient_bounds (hnum : 0 < num) (hden : 0 < den) :
    (2 : ℚ) ^ ((num.log2 : Int) - den.log2 - 1) < num / den ∧
      (num / den : ℚ) < 2 ^ ((num.log2 : Int) - den.log2 + 1) := by
  have hpos : (0 : ℚ) < den := by exact_mod_cast hden
  obtain ⟨hnumLow, hnumHigh⟩ := log2_bounds hnum
  obtain ⟨hdenLow, hdenHigh⟩ := log2_bounds hden
  have htwo (k : Int) : (0 : ℚ) < 2 ^ k := by positivity
  constructor
  · rw [lt_div_iff₀ hpos]
    calc (2 : ℚ) ^ ((num.log2 : Int) - den.log2 - 1) * den
        < 2 ^ ((num.log2 : Int) - den.log2 - 1) * 2 ^ ((den.log2 : Int) + 1) :=
          mul_lt_mul_of_pos_left hdenHigh (htwo _)
      _ = 2 ^ (num.log2 : Int) := by
          rw [← zpow_add₀ (by norm_num)]
          congr 1
          omega
      _ ≤ num := hnumLow
  · rw [div_lt_iff₀ hpos]
    calc (num : ℚ) < 2 ^ ((num.log2 : Int) + 1) := hnumHigh
      _ = 2 ^ ((num.log2 : Int) - den.log2 + 1) * 2 ^ (den.log2 : Int) := by
          rw [← zpow_add₀ (by norm_num)]
          congr 1
          omega
      _ ≤ 2 ^ ((num.log2 : Int) - den.log2 + 1) * den :=
          mul_le_mul_of_nonneg_left hdenLow (htwo _).le

/-- Whether a quotient in units reaches a bound. -/
theorem inUnits_lt_iff (num : Nat) (hden : 0 < den) (exponent : Int) (bound : Nat) :
    (inUnits num den exponent).1 < bound * (inUnits num den exponent).2 ↔
      (num / den : ℚ) < bound * 2 ^ exponent := by
  have hpos : (0 : ℚ) < (inUnits num den exponent).2 := by
    exact_mod_cast inUnits_den_pos num hden exponent
  have htwo : (0 : ℚ) < 2 ^ exponent := by positivity
  rw [← div_lt_iff₀ htwo, ← inUnits_eq, div_lt_iff₀ hpos]
  exact_mod_cast Iff.rfl

/-- The exponent at which a positive quotient has a significand of 53 bits. -/
def freeExponent (num den : Nat) : Int :=
  let guess : Int := (num.log2 : Int) - (den.log2 : Int) - 52
  if (inUnits num den guess).1 < Nat.pow 2 52 * (inUnits num den guess).2 then guess - 1 else guess

/-- The exponent of a positive quotient is the one for 53 bits, or the least one. -/
theorem exponentFor_eq (num den : Nat) :
    exponentFor num den = max leastExponent (freeExponent num den) := rfl

/-- At its exponent for 53 bits a positive quotient has a significand of 53 bits. -/
theorem freeExponent_spec (hnum : 0 < num) (hden : 0 < den) :
    (2 : ℚ) ^ 52 * 2 ^ freeExponent num den ≤ num / den ∧
      (num / den : ℚ) < 2 ^ 53 * 2 ^ freeExponent num den := by
  obtain ⟨hlow, hhigh⟩ := quotient_bounds hnum hden
  have hsplit (k : Nat) (e : Int) : (2 : ℚ) ^ k * 2 ^ e = 2 ^ (k + e) := by
    rw [← zpow_natCast, ← zpow_add₀ (by norm_num)]
  have hguess := inUnits_lt_iff num hden ((num.log2 : Int) - den.log2 - 52) (Nat.pow 2 52)
  rw [Nat.pow_eq, Nat.cast_pow, Nat.cast_ofNat, hsplit] at hguess
  rw [hsplit, hsplit]
  unfold freeExponent
  dsimp only
  split
  · rename_i hbelow
    refine ⟨le_of_eq_of_le (congrArg _ ?_) hlow.le,
      lt_of_lt_of_eq (hguess.mp hbelow) (congrArg _ ?_)⟩
    · omega
    · omega
  · rename_i hbelow
    refine ⟨not_lt.mp fun hlt => hbelow (hguess.mpr hlt), lt_of_lt_of_eq hhigh (congrArg _ ?_)⟩
    omega

/-- The exponent of a positive quotient: its significand there has less than 54 bits, and at least
53 unless the exponent is the least one. -/
theorem exponentFor_spec (hnum : 0 < num) (hden : 0 < den) :
    leastExponent ≤ exponentFor num den ∧
      (num / den : ℚ) < 2 ^ 53 * 2 ^ exponentFor num den ∧
      (2 ^ 52 * 2 ^ exponentFor num den ≤ (num / den : ℚ) ∨
        exponentFor num den = leastExponent) := by
  obtain ⟨hlow, hhigh⟩ := freeExponent_spec hnum hden
  rw [exponentFor_eq]
  refine ⟨le_max_left _ _, lt_of_lt_of_le hhigh ?_, ?_⟩
  · have hmono : (2 : ℚ) ^ freeExponent num den ≤ 2 ^ max leastExponent (freeExponent num den) :=
      zpow_le_zpow_right₀ (by norm_num) (le_max_right _ _)
    exact mul_le_mul_of_nonneg_left hmono (by norm_num)
  · rcases le_total leastExponent (freeExponent num den) with hfree | hleast
    · rw [max_eq_right hfree]
      exact Or.inl hlow
    · exact Or.inr (max_eq_left hleast)

end Units

/-! ## Numbers and the intervals around them -/

/-- What holds of a significand and an exponent that decimals are rounded to. -/
structure Canonical (significand : Nat) (exponent : Int) : Prop where
  significand_lt : significand < 2 ^ 53
  leastExponent_le : leastExponent ≤ exponent
  le_greatestExponent : exponent ≤ greatestExponent
  normal_or_least : 2 ^ 52 ≤ significand ∨ exponent = leastExponent

/-- The quarters of a unit from a significand down to the lower end of the interval around it. -/
def quartersBelow (significand : Nat) (exponent : Int) : Nat :=
  if significand = Nat.pow 2 52 ∧ leastExponent < exponent then 1 else 2

/-- Whether a rational lies in the interval around a number. The ends belong to it if the
significand is even. -/
structure RoundsTo (significand : Nat) (exponent : Int) (x : ℚ) : Prop where
  low : (significand - quartersBelow significand exponent / 4) * 2 ^ exponent ≤ x
  high : x ≤ (significand + 1 / 2) * 2 ^ exponent
  tie : x = (significand - quartersBelow significand exponent / 4) * 2 ^ exponent ∨
    x = (significand + 1 / 2) * 2 ^ exponent → significand % 2 = 0

/-- A lower end is a half below or nearer. -/
theorem quartersBelow_le (significand : Nat) (exponent : Int) :
    (quartersBelow significand exponent : ℚ) / 4 ≤ 1 / 2 := by
  unfold quartersBelow
  split <;> norm_num

section Interval

variable {num den significand : Nat} {exponent : Int}

/-- A quotient in the interval around a number is nearest to it among the significands at its
exponent. -/
theorem RoundsTo.roundedQuotient_eq (h : RoundsTo significand exponent (num / den))
    (hden : 0 < den) :
    roundedQuotient (inUnits num den exponent).1 (inUnits num den exponent).2 = significand := by
  have htwo : (0 : ℚ) < 2 ^ exponent := by positivity
  have hbelow := quartersBelow_le significand exponent
  have hlow := (le_div_iff₀ htwo).mpr h.low
  refine roundedQuotient_eq_of_rat (inUnits_den_pos num hden exponent) ?_ ?_ ?_ <;> rw [inUnits_eq]
  · linarith
  · exact (div_le_iff₀ htwo).mpr h.high
  · rintro (heq | heq)
    · refine h.tie (Or.inl ((div_eq_iff htwo.ne').mp (le_antisymm ?_ hlow)))
      linarith
    · exact h.tie (Or.inr ((div_eq_iff htwo.ne').mp heq))

/-- Below the exponent of a number only a power of two is rounded to it, from one exponent less. -/
theorem RoundsTo.of_exponentFor_lt (h : RoundsTo significand exponent (num / den))
    (hcanonical : Canonical significand exponent) (hnum : 0 < num) (hden : 0 < den)
    (hlt : exponentFor num den < exponent) :
    significand = 2 ^ 52 ∧ exponentFor num den = exponent - 1 ∧
      roundedQuotient (inUnits num den (exponent - 1)).1 (inUnits num den (exponent - 1)).2 =
        2 ^ 53 := by
  obtain ⟨hleast, hhigh, -⟩ := exponentFor_spec hnum hden
  have hunit : (0 : ℚ) < 2 ^ (exponent - 1) := by positivity
  have hdouble : (2 : ℚ) ^ exponent = 2 ^ (exponent - 1) * 2 := by
    rw [← zpow_add_one₀ (by norm_num), Int.sub_add_cancel]
  have hlow := h.low
  rw [hdouble] at hlow
  have hpower : significand = 2 ^ 52 := by
    have hnormal := hcanonical.normal_or_least.resolve_right (by omega)
    have hbelow := quartersBelow_le significand exponent
    have hmono : (2 : ℚ) ^ exponentFor num den ≤ 2 ^ (exponent - 1) :=
      zpow_le_zpow_right₀ (by norm_num) (by omega)
    have hle : (significand : ℚ) < 2 ^ 52 + 1 := by nlinarith
    have hnat : significand < 2 ^ 52 + 1 := by exact_mod_cast hle
    omega
  have hquarters : quartersBelow significand exponent = 1 :=
    if_pos ⟨hpower, by omega⟩
  rw [hquarters, hpower] at hlow
  push_cast at hlow
  have hexponent : exponentFor num den = exponent - 1 := by
    by_contra hne
    have hmono : (2 : ℚ) ^ exponentFor num den ≤ 2 ^ (exponent - 1 - 1) :=
      zpow_le_zpow_right₀ (by norm_num) (by omega)
    have hhalf : (2 : ℚ) ^ (exponent - 1) = 2 ^ (exponent - 1 - 1) * 2 := by
      rw [← zpow_add_one₀ (by norm_num), Int.sub_add_cancel]
    nlinarith
  rw [hexponent] at hhigh
  refine ⟨hpower, hexponent, roundedQuotient_eq_of_rat (inUnits_den_pos num hden _) ?_ ?_ ?_⟩
  · rw [inUnits_eq, le_div_iff₀ hunit]
    push_cast
    linarith
  · rw [inUnits_eq, div_le_iff₀ hunit]
    push_cast
    linarith
  · exact fun _ => by norm_num

/-- The exponent of a quotient in the interval around a number is not above its own. -/
theorem RoundsTo.exponentFor_le (h : RoundsTo significand exponent (num / den))
    (hcanonical : Canonical significand exponent) (hnum : 0 < num) (hden : 0 < den) :
    exponentFor num den ≤ exponent := by
  obtain ⟨-, -, hlow⟩ := exponentFor_spec hnum hden
  by_contra hlt
  have hnormal := hlow.resolve_right (by have := hcanonical.leastExponent_le; omega)
  have hunit : (0 : ℚ) < 2 ^ exponent := by positivity
  have hmono : (2 : ℚ) ^ (exponent + 1) ≤ 2 ^ exponentFor num den :=
    zpow_le_zpow_right₀ (by norm_num) (by omega)
  rw [zpow_add_one₀ (by norm_num)] at hmono
  have hsignificand : (significand : ℚ) + 1 ≤ 2 ^ 53 := by
    exact_mod_cast hcanonical.significand_lt
  have hhigh := h.high
  nlinarith

/-- A quotient in the interval around a number is rounded to it. -/
theorem ofQuotient_eq (hcanonical : Canonical significand exponent) (hnum : 0 < num)
    (hden : 0 < den) (h : RoundsTo significand exponent (num / den)) (negative : Bool) :
    ofQuotient negative num den = .finite negative significand exponent := by
  have hgreatest : ¬greatestExponent < exponent := Int.not_lt.mpr hcanonical.le_greatestExponent
  rcases Int.lt_or_eq_of_le (h.exponentFor_le hcanonical hnum hden) with hlt | heq
  · obtain ⟨rfl, hexponent, hrounded⟩ := h.of_exponentFor_lt hcanonical hnum hden hlt
    unfold ofQuotient
    dsimp only
    have hcarry : (2 ^ 53 : Nat) = Nat.pow 2 53 := rfl
    rw [hexponent, hrounded, if_pos hcarry, Int.sub_add_cancel, if_neg hgreatest]
    rfl
  · have hrounded := h.roundedQuotient_eq hden
    have hne : significand ≠ Nat.pow 2 53 := hcanonical.significand_lt.ne
    unfold ofQuotient
    dsimp only
    rw [heq, hrounded, if_neg hne, if_neg hgreatest]

end Interval

/-! ## Decimals -/

/-- Whether a number is one that decimals are rounded to. -/
def IsCanonical : Binary64 → Prop
  | .finite _ significand exponent => Canonical significand exponent
  | .infinite _ => True
  | .nan => True

instance : DecidablePred IsCanonical
  | .finite _ significand exponent => decidable_of_iff
      (significand < 2 ^ 53 ∧ leastExponent ≤ exponent ∧ exponent ≤ greatestExponent ∧
        (2 ^ 52 ≤ significand ∨ exponent = leastExponent))
      ⟨fun h => ⟨h.1, h.2.1, h.2.2.1, h.2.2.2⟩, fun h => ⟨h.1, h.2, h.3, h.4⟩⟩
  | .infinite _ => isTrue trivial
  | .nan => isTrue trivial

/-- A quotient is rounded to a canonical number. -/
theorem isCanonical_ofQuotient {num den : Nat} (hnum : 0 < num) (hden : 0 < den)
    (negative : Bool) : (ofQuotient negative num den).IsCanonical := by
  obtain ⟨hleast, hhigh, hlow⟩ := exponentFor_spec hnum hden
  have hunits := inUnits_den_pos num hden (exponentFor num den)
  have hle : roundedQuotient (inUnits num den (exponentFor num den)).1
      (inUnits num den (exponentFor num den)).2 ≤ 2 ^ 53 := by
    refine roundedQuotient_le hunits (Nat.le_of_lt ?_)
    rw [inUnits_lt_iff num hden]
    push_cast
    exact hhigh
  have hge : 2 ^ 52 ≤ roundedQuotient (inUnits num den (exponentFor num den)).1
      (inUnits num den (exponentFor num den)).2 ∨ exponentFor num den = leastExponent := by
    refine hlow.imp_left fun hnormal => le_roundedQuotient hunits (Nat.le_of_not_lt ?_)
    rw [inUnits_lt_iff num hden, not_lt]
    push_cast
    exact hnormal
  unfold ofQuotient
  dsimp only
  split
  · dsimp only
    split
    · trivial
    · rename_i hgreatest
      exact ⟨by norm_num, by omega, Int.not_lt.mp hgreatest, Or.inl (le_refl _)⟩
  · rename_i hcarry
    dsimp only
    split
    · trivial
    · rename_i hgreatest
      exact ⟨Nat.lt_of_le_of_ne hle hcarry, hleast, Int.not_lt.mp hgreatest, hge⟩

/-- A decimal is rounded to a canonical number. -/
theorem isCanonical_ofDecimal (negative : Bool) (coefficient : Nat) (exponent : Int) :
    (ofDecimal negative coefficient exponent).IsCanonical := by
  have hzero : (zero negative).IsCanonical :=
    ⟨by norm_num, le_refl _, by decide, Or.inr rfl⟩
  unfold ofDecimal
  split
  · exact hzero
  · rename_i hcoefficient
    have hpos := Nat.pos_of_ne_zero hcoefficient
    dsimp only
    split
    · trivial
    · split
      · exact hzero
      · split
        · exact isCanonical_ofQuotient (Nat.mul_pos hpos (Nat.pow_pos (by decide))) (by decide) _
        · exact isCanonical_ofQuotient hpos (Nat.pow_pos (by decide)) _

section Decimal

variable {coefficient significand : Nat} {exponent : Int} {scale : Int}

/-- What is rounded to a positive number is positive. -/
theorem RoundsTo.pos {x : ℚ} (h : RoundsTo significand exponent x) (hpos : 0 < significand) :
    0 < x := by
  have hone : (1 : ℚ) ≤ significand := by exact_mod_cast hpos
  have hbelow := quartersBelow_le significand exponent
  have htwo : (0 : ℚ) < 2 ^ exponent := by positivity
  refine lt_of_lt_of_le (mul_pos ?_ htwo) h.low
  linarith

/-- A decimal that is rounded to a positive number has a positive coefficient. -/
theorem RoundsTo.coefficient_pos
    (h : RoundsTo significand exponent (coefficient * 10 ^ scale)) (hpos : 0 < significand) :
    0 < coefficient := by
  refine Nat.pos_of_ne_zero fun hzero => ?_
  have hlt := h.pos hpos
  rw [hzero, Nat.cast_zero, zero_mul] at hlt
  exact lt_irrefl _ hlt

/-- A positive number lies between the powers of ten that the number of its digits gives. -/
theorem toDigits_bounds {n : Nat} (h : 0 < n) :
    (10 : ℚ) ^ (((Nat.toDigits 10 n).length : Int) - 1) ≤ n ∧
      (n : ℚ) < 10 ^ ((Nat.toDigits 10 n).length : Int) := by
  have hdigits : 0 < (Nat.toDigits 10 n).length := Nat.length_toDigits_pos
  obtain ⟨count, hcount⟩ := Nat.exists_eq_succ_of_ne_zero hdigits.ne'
  have hlt : n < 10 ^ (Nat.toDigits 10 n).length :=
    (Nat.length_toDigits_le_iff (by decide) hdigits).mp (le_refl _)
  have hge : 10 ^ count ≤ n := by
    by_contra hlt
    rcases Nat.eq_zero_or_pos count with rfl | hpos
    · omega
    · have hle := (Nat.length_toDigits_le_iff (by decide) hpos).mpr (Nat.lt_of_not_le hlt)
      omega
  constructor
  · rw [hcount, Nat.cast_succ, add_sub_cancel_right, zpow_natCast]
    exact_mod_cast hge
  · rw [zpow_natCast]
    exact_mod_cast hlt

/-- A power of two with a nearby power of ten above it. -/
theorem two_pow_le_ten_pow : (2 : ℚ) ^ 1023 ≤ 10 ^ 308 :=
  calc (2 : ℚ) ^ 1023 = (2 ^ 93) ^ 11 := pow_mul 2 93 11
    _ ≤ (10 ^ 28) ^ 11 := pow_le_pow_left₀ (by norm_num) (by norm_num) 11
    _ = 10 ^ 308 := (pow_mul 10 28 11).symm

/-- No number reaches a power of ten. -/
theorem greatest_lt_ten_pow : (2 : ℚ) ^ 53 * 2 ^ greatestExponent < 10 ^ (309 : Int) :=
  calc (2 : ℚ) ^ 53 * 2 ^ greatestExponent = 2 ^ 1023 * 2 := by
        rw [show greatestExponent = ((971 : Nat) : Int) from rfl, zpow_natCast, ← pow_add,
          ← pow_succ]
    _ ≤ 10 ^ 308 * 2 := mul_le_mul_of_nonneg_right two_pow_le_ten_pow (by norm_num)
    _ < 10 ^ 308 * 10 := mul_lt_mul_of_pos_left (by norm_num) (by positivity)
    _ = 10 ^ (309 : Int) := by
        rw [show (309 : Int) = ((309 : Nat) : Int) from rfl, zpow_natCast, ← pow_succ]

/-- Half the least number does not fall below a power of ten. -/
theorem ten_pow_le_least : (10 : ℚ) ^ (-324 : Int) ≤ 1 / 2 * 2 ^ leastExponent := by
  have hpow : (2 : ℚ) ^ 1075 ≤ 10 ^ 324 :=
    calc (2 : ℚ) ^ 1075 = 2 ^ 1023 * 2 ^ 52 := pow_add 2 1023 52
      _ ≤ 10 ^ 308 * 10 ^ 16 :=
          mul_le_mul two_pow_le_ten_pow (by norm_num) (by positivity) (by positivity)
      _ = 10 ^ 324 := (pow_add 10 308 16).symm
  calc (10 : ℚ) ^ (-324 : Int) = (10 ^ 324)⁻¹ := by
        rw [zpow_neg, show (324 : Int) = ((324 : Nat) : Int) from rfl, zpow_natCast]
    _ ≤ (2 ^ 1075)⁻¹ := inv_anti₀ (by positivity) hpow
    _ = 1 / 2 * 2 ^ leastExponent := by
        rw [show leastExponent = -((1074 : Nat) : Int) from rfl, zpow_neg, zpow_natCast,
          pow_succ, mul_inv, one_div, mul_comm]

/-- The power of ten that the digits of a decimal in the interval around a number reach is in the
range that decimals are rounded in. -/
theorem RoundsTo.magnitude (h : RoundsTo significand exponent (coefficient * 10 ^ scale))
    (hcanonical : Canonical significand exponent) (hpos : 0 < significand) :
    ((Nat.toDigits 10 coefficient).length : Int) + scale ≤ 310 ∧
      -330 ≤ ((Nat.toDigits 10 coefficient).length : Int) + scale := by
  have hten (k : Int) : (0 : ℚ) < 10 ^ k := by positivity
  have hsignificand : (significand : ℚ) + 1 ≤ 2 ^ 53 := by
    exact_mod_cast hcanonical.significand_lt
  have hone : (1 : ℚ) ≤ significand := by exact_mod_cast hpos
  have hbelow := quartersBelow_le significand exponent
  have hmost : (2 : ℚ) ^ exponent ≤ 2 ^ greatestExponent :=
    zpow_le_zpow_right₀ (by norm_num) hcanonical.le_greatestExponent
  have hleast : (2 : ℚ) ^ leastExponent ≤ 2 ^ exponent :=
    zpow_le_zpow_right₀ (by norm_num) hcanonical.leastExponent_le
  have hcoefficient := h.coefficient_pos hpos
  obtain ⟨hdigitsLow, hdigitsHigh⟩ := toDigits_bounds hcoefficient
  constructor
  · have hlt : (10 : ℚ) ^ (((Nat.toDigits 10 coefficient).length : Int) - 1 + scale) <
        10 ^ (309 : Int) := by
      rw [zpow_add₀ (by norm_num)]
      calc (10 : ℚ) ^ (((Nat.toDigits 10 coefficient).length : Int) - 1) * 10 ^ scale
          ≤ coefficient * 10 ^ scale := mul_le_mul_of_nonneg_right hdigitsLow (hten _).le
        _ ≤ (significand + 1 / 2) * 2 ^ exponent := h.high
        _ ≤ 2 ^ 53 * 2 ^ greatestExponent :=
            mul_le_mul (by linarith) hmost (by positivity) (by positivity)
        _ < 10 ^ (309 : Int) := greatest_lt_ten_pow
    have hexponents := (zpow_lt_zpow_iff_right₀ (by norm_num)).mp hlt
    omega
  · have hlt : (10 : ℚ) ^ (-324 : Int) <
        10 ^ (((Nat.toDigits 10 coefficient).length : Int) + scale) := by
      rw [zpow_add₀ (by norm_num)]
      calc (10 : ℚ) ^ (-324 : Int) ≤ 1 / 2 * 2 ^ leastExponent := ten_pow_le_least
        _ ≤ (significand - quartersBelow significand exponent / 4) * 2 ^ exponent :=
            mul_le_mul (by linarith) hleast (by positivity) (by linarith)
        _ ≤ coefficient * 10 ^ scale := h.low
        _ < 10 ^ ((Nat.toDigits 10 coefficient).length : Int) * 10 ^ scale :=
            mul_lt_mul_of_pos_right hdigitsHigh (hten _)
    have hexponents := (zpow_lt_zpow_iff_right₀ (by norm_num)).mp hlt
    omega

/-- A decimal in the interval around a number is rounded to it. -/
theorem ofDecimal_eq (hcanonical : Canonical significand exponent) (hpos : 0 < significand)
    (h : RoundsTo significand exponent (coefficient * 10 ^ scale)) (negative : Bool) :
    ofDecimal negative coefficient scale = .finite negative significand exponent := by
  have hcoefficient := h.coefficient_pos hpos
  obtain ⟨hhigh, hlow⟩ := h.magnitude hcanonical hpos
  unfold ofDecimal
  dsimp only
  rw [if_neg hcoefficient.ne', if_neg (by omega), if_neg (by omega)]
  split
  · rename_i hscale
    refine ofQuotient_eq hcanonical (Nat.mul_pos hcoefficient (Nat.pow_pos (by decide)))
      (by decide) ?_ negative
    rwa [Nat.cast_mul, cast_pow_toNat 10 hscale, Nat.cast_ofNat, Nat.cast_one, div_one]
  · rename_i hscale
    refine ofQuotient_eq hcanonical hcoefficient (Nat.pow_pos (by decide)) ?_ negative
    have hneg : 0 ≤ -scale := by omega
    rwa [cast_pow_toNat 10 hneg, Nat.cast_ofNat, zpow_neg, div_inv_eq_mul]

end Decimal

end OperandCleanup.Binary64
