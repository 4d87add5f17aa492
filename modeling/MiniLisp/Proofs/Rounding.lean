import Mathlib.Algebra.Order.Field.Power
import Mathlib.Data.Int.Log
import Mathlib.Data.Rat.Floor
import Mathlib.Tactic.FieldSimp
import Mathlib.Tactic.Positivity
import MiniLisp.Real64.Rounding

namespace MiniLisp

theorem roundedQuotient_mul_right (numerator denominator : Nat) {factor : Nat}
    (positive : 0 < factor) :
    roundedQuotient (numerator * factor) (denominator * factor) =
      roundedQuotient numerator denominator := by
  have scaled : 2 * (numerator % denominator * factor) = 2 * (numerator % denominator) * factor := by
    rw [Nat.mul_assoc]
  simp only [roundedQuotient, Nat.mul_div_mul_right _ _ positive, Nat.mul_mod_mul_right, scaled,
    Nat.mul_lt_mul_right positive]

theorem roundedQuotient_exact (quotient : Nat) {denominator : Nat} (positive : 0 < denominator) :
    roundedQuotient (quotient * denominator) denominator = quotient := by
  simp [roundedQuotient, Nat.mul_div_cancel _ positive, positive]

namespace Real64

theorem log_quotient_bounds {numerator denominator : Nat} (positive : 0 < numerator)
    (divides : 0 < denominator) :
    (numerator.log2 : Int) - denominator.log2 - 1 ≤ Int.log 2 ((numerator : ℚ) / denominator) ∧
      Int.log 2 ((numerator : ℚ) / denominator) ≤ (numerator.log2 : Int) - denominator.log2 := by
  have quotient : (0 : ℚ) < (numerator : ℚ) / denominator := by positivity
  have below : (2 : ℚ) ^ (numerator.log2 : Int) ≤ numerator := by
    exact_mod_cast Nat.log2_self_le positive.ne'
  have above : (numerator : ℚ) < 2 ^ ((numerator.log2 : Int) + 1) := by
    exact_mod_cast Nat.lt_log2_self
  have below' : (2 : ℚ) ^ (denominator.log2 : Int) ≤ denominator := by
    exact_mod_cast Nat.log2_self_le divides.ne'
  have above' : (denominator : ℚ) < 2 ^ ((denominator.log2 : Int) + 1) := by
    exact_mod_cast Nat.lt_log2_self
  constructor
  · refine (Int.zpow_le_iff_le_log (by decide) quotient).mp ?_
    rw [le_div_iff₀ (by exact_mod_cast divides)]
    calc (2 : ℚ) ^ ((numerator.log2 : Int) - denominator.log2 - 1) * denominator
        ≤ 2 ^ ((numerator.log2 : Int) - denominator.log2 - 1) * 2 ^ ((denominator.log2 : Int) + 1) :=
          by gcongr
      _ = 2 ^ (numerator.log2 : Int) := by
          rw [← zpow_add₀ (by decide)]
          congr 1
          omega
      _ ≤ numerator := below
  · refine Int.lt_add_one_iff.mp ((Int.lt_zpow_iff_log_lt (by decide) quotient).mp ?_)
    rw [div_lt_iff₀ (by exact_mod_cast divides)]
    calc (numerator : ℚ) < 2 ^ ((numerator.log2 : Int) + 1) := above
      _ = 2 ^ ((numerator.log2 : Int) - denominator.log2 + 1) * 2 ^ (denominator.log2 : Int) := by
          rw [← zpow_add₀ (by decide)]
          congr 1
          omega
      _ ≤ 2 ^ ((numerator.log2 : Int) - denominator.log2 + 1) * denominator := by gcongr

/-- A quotient compared with a power of two without leaving the integers. -/
theorem quotient_lt_iff (numerator : Nat) {denominator : Nat} (divides : 0 < denominator)
    (place : Int) :
    (if 0 ≤ place then numerator < denominator <<< (place.toNat + 52)
      else numerator <<< (-place).toNat < denominator <<< 52) ↔
      (numerator : ℚ) / denominator < 2 ^ (place + 52) := by
  rw [div_lt_iff₀ (by exact_mod_cast divides)]
  split
  · rename_i whole
    obtain ⟨shift, rfl⟩ := Int.eq_ofNat_of_zero_le whole
    have power : (2 : ℚ) ^ ((shift : Int) + 52) = (2 : ℚ) ^ (shift + 52) := by
      exact_mod_cast zpow_natCast (2 : ℚ) (shift + 52)
    rw [Int.toNat_natCast, Nat.shiftLeft_eq, power, mul_comm]
    exact_mod_cast Iff.rfl
  · rename_i broken
    obtain ⟨shift, rfl⟩ : ∃ shift : Nat, place = -shift := ⟨(-place).toNat, by omega⟩
    have power : (2 : ℚ) ^ (-(shift : Int) + 52) = 2 ^ 52 / 2 ^ shift := by
      rw [zpow_add₀ (by decide), zpow_neg, zpow_natCast]
      field_simp
    rw [neg_neg, Int.toNat_natCast, Nat.shiftLeft_eq, Nat.shiftLeft_eq, power, div_mul_eq_mul_div,
      lt_div_iff₀ (by positivity), mul_comm (2 ^ 52 : ℚ)]
    exact_mod_cast Iff.rfl

theorem placeExponent_eq {numerator denominator : Nat} (positive : 0 < numerator)
    (divides : 0 < denominator) :
    placeExponent numerator denominator =
      max (Int.log 2 ((numerator : ℚ) / denominator) - 52) (-1074) := by
  have quotient : (0 : ℚ) < (numerator : ℚ) / denominator := by positivity
  obtain ⟨least, most⟩ := log_quotient_bounds positive divides
  have short := quotient_lt_iff numerator divides ((numerator.log2 : Int) - denominator.log2 - 52)
  have shortLog := short.trans (Int.lt_zpow_iff_log_lt (b := 2) (by decide) quotient)
  -- The lengths leave two exponents, and the comparison decides between them.
  dsimp only [placeExponent]
  by_cases below : Int.log 2 ((numerator : ℚ) / denominator) <
      (numerator.log2 : Int) - denominator.log2 - 52 + 52
  · rw [if_pos (shortLog.mpr below)]
    omega
  · rw [if_neg (mt shortLog.mp below)]
    omega

theorem ofQuotient_mul_right (negative : Bool) (numerator : Nat) {denominator factor : Nat}
    (divides : 0 < denominator) (positive : 0 < factor) :
    ofQuotient negative (numerator * factor) (denominator * factor) =
      ofQuotient negative numerator denominator := by
  by_cases zero : numerator = 0
  · subst zero
    simp [ofQuotient]
  · have nonzero : numerator * factor ≠ 0 := Nat.mul_ne_zero zero positive.ne'
    have place : placeExponent (numerator * factor) (denominator * factor) =
        placeExponent numerator denominator := by
      rw [placeExponent_eq (by positivity) (by positivity), placeExponent_eq (by positivity) divides]
      push_cast
      rw [mul_div_mul_right _ _ (by exact_mod_cast positive.ne')]
    have above (shift : Nat) : (denominator * factor) <<< shift = denominator <<< shift * factor := by
      rw [Nat.shiftLeft_eq, Nat.shiftLeft_eq, Nat.mul_right_comm]
    have below (shift : Nat) : (numerator * factor) <<< shift = numerator <<< shift * factor := by
      rw [Nat.shiftLeft_eq, Nat.shiftLeft_eq, Nat.mul_right_comm]
    simp only [ofQuotient, if_neg zero, if_neg nonzero, place, above, below,
      roundedQuotient_mul_right _ _ positive]

/-- The exponent is named so that no proof computes the power. -/
theorem one_eq : ∃ lowest : Nat, lowest = 1074 ∧ one = 2 ^ lowest := by
  obtain ⟨lowest, same⟩ : ∃ lowest, 1074 = lowest := ⟨_, rfl⟩
  refine ⟨lowest, same.symm, ?_⟩
  delta one
  rw [same, Nat.pow_eq]

theorem one_pos : 0 < one := by
  obtain ⟨lowest, -, power⟩ := one_eq
  rw [power]
  exact Nat.two_pow_pos lowest

theorem log_significand {significand : Nat} (positive : 0 < significand)
    (short : significand < 2 ^ 53) (shift : Int) :
    Int.log 2 ((significand : ℚ) * 2 ^ shift) < 53 + shift ∧
      (2 ^ 52 ≤ significand → 52 + shift ≤ Int.log 2 ((significand : ℚ) * 2 ^ shift)) := by
  have product : (0 : ℚ) < significand * 2 ^ shift := by positivity
  constructor
  · rw [← Int.lt_zpow_iff_log_lt (by decide) product]
    push_cast
    rw [zpow_add₀ (by decide)]
    gcongr
    exact_mod_cast short
  · intro full
    rw [← Int.zpow_le_iff_le_log (by decide) product]
    push_cast
    rw [zpow_add₀ (by decide)]
    gcongr
    exact_mod_cast full

/-- A significand of at most 53 bits at its place is encoded as it is; only at the lowest place
may it have fewer. -/
theorem ofQuotient_significand (negative : Bool) {significand place : Nat}
    (positive : 0 < significand) (short : significand < 2 ^ 53)
    (full : place = 0 ∨ 2 ^ 52 ≤ significand) :
    ofQuotient negative (significand * 2 ^ place) one =
      ofMagnitude negative (place * exponentBit + significand) := by
  obtain ⟨lowest, lowestIs, power⟩ := one_eq
  have nonzero : significand * 2 ^ place ≠ 0 := by positivity
  have quotient : ((significand * 2 ^ place : Nat) : ℚ) / (one : Nat) =
      significand * 2 ^ ((place : Int) - lowest) := by
    rw [power, zpow_sub₀ (by decide), zpow_natCast, zpow_natCast]
    push_cast
    ring
  have placed : placeExponent (significand * 2 ^ place) one = (place : Int) - lowest := by
    obtain ⟨below, above⟩ := log_significand positive short ((place : Int) - lowest)
    rw [placeExponent_eq (by positivity) one_pos, quotient]
    omega
  have field : ((place : Int) - lowest + 1074).toNat = place := by omega
  have rounded : (if 0 ≤ (place : Int) - lowest
      then roundedQuotient (significand * 2 ^ place) (one <<< ((place : Int) - lowest).toNat)
      else roundedQuotient ((significand * 2 ^ place) <<< (-((place : Int) - lowest)).toNat) one) =
      significand := by
    split
    · have shift : lowest + ((place : Int) - lowest).toNat = place := by omega
      rw [power, Nat.shiftLeft_eq, ← Nat.pow_add, shift]
      exact roundedQuotient_exact _ (Nat.two_pow_pos place)
    · have shift : place + (-((place : Int) - lowest)).toNat = lowest := by omega
      rw [power, Nat.shiftLeft_eq, Nat.mul_assoc, ← Nat.pow_add, shift]
      exact roundedQuotient_exact _ (Nat.two_pow_pos lowest)
  simp only [ofQuotient, if_neg nonzero, placed, field, rounded]

theorem units_eq {x : Real64} : ∃ significand place, x.units = significand * 2 ^ place ∧
    x.magnitude = place * exponentBit + significand ∧ significand < 2 ^ 53 ∧
    (place = 0 ∨ 2 ^ 52 ≤ significand) := by
  have split := Nat.div_add_mod x.magnitude exponentBit
  have small : x.magnitude % exponentBit < exponentBit := Nat.mod_lt _ (by decide)
  have bit : exponentBit = 2 ^ 52 := rfl
  by_cases lowest : x.magnitude < exponentBit
  · refine ⟨x.magnitude, 0, ?_, by omega, by omega, .inl rfl⟩
    rw [units, if_pos lowest, Nat.pow_zero, Nat.mul_one]
  · have field : 0 < x.magnitude / exponentBit :=
      Nat.div_pos (Nat.not_lt.mp lowest) (by decide)
    refine ⟨exponentBit + x.magnitude % exponentBit, x.magnitude / exponentBit - 1, ?_, ?_, by omega,
      .inr (by omega)⟩
    · rw [units, if_neg lowest, Nat.shiftLeft_eq]
    · have whole : exponentBit ≤ exponentBit * (x.magnitude / exponentBit) :=
        Nat.le_mul_of_pos_right _ field
      rw [Nat.sub_mul, Nat.mul_comm _ exponentBit]
      omega

theorem ofMagnitude_self (x : Real64) : ofMagnitude x.negative x.magnitude = x := by
  obtain ⟨negative, magnitude, bounded⟩ := x
  simp only [ofMagnitude, Nat.min_eq_left bounded]

/-- A number is the one nearest to what it stands for. -/
theorem ofQuotient_units (x : Real64) : ofQuotient x.negative x.units one = x := by
  obtain ⟨significand, place, units, magnitude, short, full⟩ := x.units_eq
  by_cases zero : significand = 0
  · have lowest : place = 0 := by omega
    have none : x.magnitude = 0 := by simp [magnitude, lowest, zero]
    rw [units, zero, Nat.zero_mul, ofQuotient, if_pos rfl, ← none, ofMagnitude_self]
  · rw [units, ofQuotient_significand _ (Nat.pos_of_ne_zero zero) short full, ← magnitude,
      ofMagnitude_self]

end Real64

end MiniLisp
