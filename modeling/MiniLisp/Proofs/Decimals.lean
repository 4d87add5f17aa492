import MiniLisp.Proofs.Rounding
import MiniLisp.Real64.Shortest

namespace MiniLisp

namespace Real64

theorem decimalLength_le_iff {n length : Nat} : decimalLength n ≤ length ↔ n < 10 ^ length := by
  rw [decimalLength]
  split
  · rename_i zero
    simp [zero]
  · rename_i nonzero
    cases length with
    | zero =>
        have digits : Nat.toDigits 10 n ≠ [] := Nat.toDigits_ne_nil
        simp [nonzero]
    | succ length => exact Nat.length_toDigits_le_iff (by decide) (Nat.succ_pos length)

theorem decimalLength_shift {n : Nat} (positive : 0 < n) (places : Nat) :
    decimalLength (n * 10 ^ places) = decimalLength n + places := by
  have ten : 0 < 10 ^ places := by positivity
  refine Nat.le_antisymm ?_ ?_
  · rw [decimalLength_le_iff, Nat.pow_add, Nat.mul_lt_mul_right ten, ← decimalLength_le_iff]
  · obtain ⟨fewer, enough⟩ : ∃ fewer, fewer = decimalLength (n * 10 ^ places) - places := ⟨_, rfl⟩
    have long : places ≤ decimalLength (n * 10 ^ places) := by
      by_contra short
      have small := decimalLength_le_iff.mp (Nat.le_of_lt (Nat.lt_of_not_le short))
      exact absurd small (Nat.not_lt.mpr (Nat.le_mul_of_pos_left _ positive))
    have whole : fewer + places = decimalLength (n * 10 ^ places) := by omega
    have bound := decimalLength_le_iff.mp whole.ge
    rw [Nat.pow_add, Nat.mul_lt_mul_right ten, ← decimalLength_le_iff] at bound
    omega

theorem ofQuotient_shift (negative : Bool) (significand places : Nat) (exponent : Int) :
    (if 0 ≤ exponent then ofQuotient negative (significand * 10 ^ places * 10 ^ exponent.toNat) 1
      else ofQuotient negative (significand * 10 ^ places) (10 ^ (-exponent).toNat)) =
    if 0 ≤ exponent + places
      then ofQuotient negative (significand * 10 ^ (exponent + places).toNat) 1
      else ofQuotient negative significand (10 ^ (-(exponent + places)).toNat) := by
  have power (count : Nat) : 0 < 10 ^ count := Nat.pow_pos (by decide)
  by_cases whole : 0 ≤ exponent
  · have total : (exponent + places).toNat = places + exponent.toNat := by omega
    rw [if_pos whole, if_pos (by omega), total, Nat.pow_add, Nat.mul_assoc]
  · rw [if_neg whole]
    by_cases wholeShifted : 0 ≤ exponent + places
    · have total : places = (exponent + places).toNat + (-exponent).toNat := by omega
      have scaled := ofQuotient_mul_right negative (significand * 10 ^ (exponent + places).toNat)
        (by decide : 0 < 1) (power (-exponent).toNat)
      rw [Nat.mul_assoc, ← Nat.pow_add, ← total, Nat.one_mul] at scaled
      rw [if_pos wholeShifted, scaled]
    · have total : (-exponent).toNat = (-(exponent + places)).toNat + places := by omega
      rw [if_neg wholeShifted, total, Nat.pow_add, ofQuotient_mul_right _ _ (power _) (power _)]

/-- A power of ten moves between significand and exponent. -/
theorem ofDecimal_shift (negative : Bool) (significand places : Nat) (exponent : Int) :
    ofDecimal negative (significand * 10 ^ places) exponent =
      ofDecimal negative significand (exponent + places) := by
  by_cases zero : significand = 0
  · simp [ofDecimal, zero]
  · have positive := Nat.pos_of_ne_zero zero
    have nonzero : significand * 10 ^ places ≠ 0 := by positivity
    have order : exponent + (decimalLength significand + places : Nat) =
        exponent + places + decimalLength significand := by omega
    simp only [ofDecimal, decimalLength_shift positive, order, zero, nonzero, Nat.pow_eq,
      ofQuotient_shift]

theorem units_pos {x : Real64} (nonzero : x.magnitude ≠ 0) : 0 < x.units := by
  obtain ⟨significand, place, units, magnitude, -, full⟩ := x.units_eq
  have positive : 0 < significand := by
    by_contra none
    have lowest : place = 0 := by omega
    simp [lowest] at magnitude
    omega
  rw [units]
  positivity

theorem units_lt {x : Real64} (finite : x.isFinite) :
    ∃ top : Nat, top = 2046 ∧ x.units < 2 ^ 53 * 2 ^ top := by
  obtain ⟨significand, place, units, magnitude, short, -⟩ := x.units_eq
  obtain ⟨top, topIs⟩ : ∃ top, top = 2046 := ⟨_, rfl⟩
  have low : place ≤ top := by
    simp only [isFinite, decide_eq_true_eq, infiniteMagnitude, magnitude, exponentBit] at finite
    omega
  refine ⟨top, topIs, ?_⟩
  calc x.units = significand * 2 ^ place := units
    _ < 2 ^ 53 * 2 ^ place := Nat.mul_lt_mul_of_pos_right short (Nat.two_pow_pos place)
    _ ≤ 2 ^ 53 * 2 ^ top := Nat.mul_le_mul_left _ (Nat.pow_le_pow_right (by decide) low)

theorem ofDecimal_exactDigits {x : Real64} (finite : x.isFinite) (nonzero : x.magnitude ≠ 0) :
    ofDecimal x.negative x.exactDigits.digits x.exactDigits.exponent = x := by
  obtain ⟨top, topIs, small⟩ := units_lt finite
  have least : 10 ^ 673 ≤ Nat.pow 5 1074 := by decide +kernel
  have most : 2 ^ 53 * 2 ^ top * Nat.pow 5 1074 ≤ 10 ^ 1474 := by
    subst topIs
    decide +kernel
  obtain ⟨places, placesIs⟩ : ∃ places, 1074 = places := ⟨_, rfl⟩
  have power : Nat.pow 10 places = one * Nat.pow 5 1074 := by
    subst placesIs
    decide +kernel
  have positive := units_pos nonzero
  change ofDecimal x.negative (x.units * Nat.pow 5 1074) (-1074) = x
  generalize Nat.pow 5 1074 = fives at *
  have long : 673 < decimalLength (x.units * fives) := by
    apply Nat.lt_of_not_le
    intro short
    have below := decimalLength_le_iff.mp short
    exact absurd (least.trans (Nat.le_mul_of_pos_left _ positive)) (Nat.not_le.mpr below)
  have short : decimalLength (x.units * fives) ≤ 1474 := by
    rw [decimalLength_le_iff]
    exact (Nat.mul_lt_mul_of_pos_right small (by omega)).trans_le most
  have inRange : ¬ (x.units * fives = 0 ∨ -1074 + (decimalLength (x.units * fives) : Int) < -400) := by
    have nonzero : x.units * fives ≠ 0 := Nat.mul_ne_zero positive.ne' (by omega)
    omega
  have inRange' : ¬ 400 < -1074 + (decimalLength (x.units * fives) : Int) := by omega
  have negative : ¬ (0 : Int) ≤ -1074 := by decide
  have exponent : (- -1074 : Int).toNat = places := by omega
  simp only [ofDecimal, Bool.or_eq_true, decide_eq_true_eq, if_neg inRange, if_neg inRange',
    if_neg negative, exponent]
  rw [power, ofQuotient_mul_right _ _ one_pos (by omega), ofQuotient_units]

theorem chosen_reads (reads : Nat → Bool) {first second third : Nat} {exponent : Int}
    {chosen : Digits}
    (found : (if reads first then some (Digits.mk first exponent)
      else if reads second then some ⟨second, exponent⟩
      else if reads third then some ⟨third, exponent⟩
      else none) = some chosen) :
    reads chosen.digits ∧ chosen.exponent = exponent := by
  split at found
  · rename_i back
    cases found
    exact ⟨back, rfl⟩
  · split at found
    · rename_i back
      cases found
      exact ⟨back, rfl⟩
    · split at found
      · rename_i back
        cases found
        exact ⟨back, rfl⟩
      · cases found

theorem ofDecimal_candidate {x : Real64} {count : Nat} {chosen : Digits}
    (found : candidate? x count = some chosen) :
    ofDecimal x.negative chosen.digits chosen.exponent = x := by
  unfold candidate? at found
  dsimp only at found
  generalize leadingExponent x.units one - ((count : Int) - 1) = exponent at found
  generalize (if 0 ≤ exponent then (x.units, one * Nat.pow 10 exponent.toNat)
    else (x.units * Nat.pow 10 (-exponent).toNat, one)) = scaled at found
  obtain ⟨numerator, denominator⟩ := scaled
  dsimp only at found
  obtain ⟨back, rfl⟩ :=
    chosen_reads (fun digits => ofDecimal x.negative digits exponent = x) found
  exact of_decide_eq_true back

/-- The digits that a number is written with read back as the number. -/
theorem ofDecimal_shortestDigits {x : Real64} (finite : x.isFinite) (nonzero : x.magnitude ≠ 0) :
    ofDecimal x.negative x.shortestDigits.digits x.shortestDigits.exponent = x := by
  rw [shortestDigits]
  cases search : (List.range 17).findSome? fun fewer => candidate? x (fewer + 1) with
  | none => exact ofDecimal_exactDigits finite nonzero
  | some chosen =>
      obtain ⟨fewer, -, found⟩ := List.exists_of_findSome?_eq_some search
      exact ofDecimal_candidate found

end Real64

end MiniLisp
