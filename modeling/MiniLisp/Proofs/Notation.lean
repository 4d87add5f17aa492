import MiniLisp.Proofs.Decimals
import MiniLisp.Proofs.Literals

namespace MiniLisp

theorem digitsValue_zeros_append (count : Nat) (digits : List Char) :
    digitsValue (List.replicate count '0' ++ digits) = digitsValue digits := by
  have zeros : (List.replicate count '0').foldl
      (fun value c => 10 * value + (digitValue? c).getD 0) 0 = 0 := by
    induction count with
    | zero => rfl
    | succ count ih => exact ih
  rw [digitsValue, List.foldl_append, zeros, digitsValue]

theorem digitsValue_append_zeros {digits : List Char} (decimal : ∀ c ∈ digits, c.isDigit)
    (count : Nat) :
    digitsValue (digits ++ List.replicate count '0') = digitsValue digits * 10 ^ count := by
  have zeros : ∀ c ∈ digits ++ List.replicate count '0', c.isDigit := by
    intro c member
    rcases List.mem_append.mp member with member | member
    · exact decimal c member
    · rw [List.eq_of_mem_replicate member]
      decide
  rw [digitsValue_decimal decimal, digitsValue_decimal zeros, Nat.ofDigitChars_append,
    Nat.ofDigitChars_replicate_zero, Nat.mul_comm]

theorem decimal_zeros (count : Nat) : ∀ c ∈ List.replicate count '0', c.isDigit := by
  intro c member
  rw [List.eq_of_mem_replicate member]
  decide

theorem decimal_zero : ∀ c ∈ ['0'], c.isDigit := decimal_zeros 1

/-- Decimals as they are written: digits, and after them a point and digits, an exponent part, or
both. -/
inductive Notates : List Char → Nat → Int → Prop
  | point {whole fraction tail : List Char} {exponent : Int} (nonempty : whole ≠ [])
      (wholeDecimal : ∀ c ∈ whole, c.isDigit) (fractionDecimal : ∀ c ∈ fraction, c.isDigit)
      (plain : IsPlain tail) (ends : readExponent? tail = some exponent) :
      Notates (whole ++ '.' :: (fraction ++ tail)) (digitsValue (whole ++ fraction))
        (exponent - fraction.length)
  | whole {whole tail : List Char} {exponent : Int} (nonempty : whole ≠ [])
      (wholeDecimal : ∀ c ∈ whole, c.isDigit) (marked : tail ≠ []) (plain : IsPlain tail)
      (ends : readExponent? tail = some exponent) :
      Notates (whole ++ tail) (digitsValue whole) exponent

section Notation

variable {body tail : List Char} {significand : Nat} {exponent : Int}

theorem isPlain_notates (notates : Notates body significand exponent) : IsPlain body := by
  cases notates with
  | point _ wholeDecimal fractionDecimal plain _ =>
      have fraction := isPlain_append (isPlain_decimal fractionDecimal) plain
      exact isPlain_append (isPlain_decimal wholeDecimal)
        (isPlain_append (by decide : IsPlain ['.']) fraction)
  | whole _ wholeDecimal _ plain _ => exact isPlain_append (isPlain_decimal wholeDecimal) plain

theorem splitSign_notates (notates : Notates body significand exponent) (negative : Bool) :
    splitSign (withSign negative body) = (negative, body) := by
  cases notates with
  | point nonempty wholeDecimal => exact splitSign_withSign negative nonempty wholeDecimal
  | whole nonempty wholeDecimal => exact splitSign_withSign negative nonempty wholeDecimal

theorem not_digits_notates (notates : Notates body significand exponent) :
    body.all isDigit = false := by
  rw [List.all_eq_false]
  cases notates with
  | point => exact ⟨'.', by simp, by decide⟩
  | whole _ _ marked _ ends =>
      cases (readExponent?_iff.mp ends).1 with
      | none => exact absurd rfl marked
      | marked isMark =>
          rcases isMark with rfl | rfl
          · exact ⟨'e', by simp, by decide⟩
          · exact ⟨'E', by simp, by decide⟩

theorem readInteger?_notates (notates : Notates body significand exponent) (negative : Bool) :
    readInteger? (withSign negative body) = none := by
  rw [readInteger?, trimBoth_plain (isPlain_withSign negative (isPlain_notates notates)),
    splitSign_notates notates]
  simp [not_digits_notates notates]

theorem isDigit_each {digits : List Char} (decimal : ∀ c ∈ digits, c.isDigit) :
    ∀ c ∈ digits, isDigit c := fun c member => isDigit_decimal (decimal c member)

theorem readDecimal?_notates (notates : Notates body significand exponent) (negative : Bool) :
    readDecimal? (withSign negative body) = some (.ofDecimal negative significand exponent) := by
  have split : splitSign (trimBoth isNumeralPadding (withSign negative body)) = (negative, body) := by
    rw [trimBoth_plain (isPlain_withSign negative (isPlain_notates notates)),
      splitSign_notates notates]
  cases notates with
  | point nonempty wholeDecimal fractionDecimal _ ends =>
      obtain ⟨stops, -⟩ := exponent_stops (readExponent?_iff.mp ends).1
      rw [readDecimal?_pointed split (isDigit_each wholeDecimal) (isDigit_each fractionDecimal) stops,
        if_neg fun none => nonempty none.1, ends]
      rfl
  | whole nonempty wholeDecimal _ _ ends =>
      obtain ⟨stops, noPoint⟩ := exponent_stops (readExponent?_iff.mp ends).1
      rw [readDecimal?_unpointed split (isDigit_each wholeDecimal) stops noPoint, if_neg nonempty, ends]
      rfl

end Notation

def exponentText (order : Int) : List Char :=
  let digits := Nat.toDigits 10 order.natAbs
  'e' :: (if order < 0 then '-' else '+') :: (List.replicate (2 - digits.length) '0' ++ digits)

theorem readExponent?_exponentText (order : Int) :
    readExponent? (exponentText order) = some order := by
  have decimal := List.forall_mem_append.mpr
    ⟨decimal_zeros (2 - (Nat.toDigits 10 order.natAbs).length), decimal_toDigits order.natAbs⟩
  have value := digitsValue_zeros_append (2 - (Nat.toDigits 10 order.natAbs).length)
    (Nat.toDigits 10 order.natAbs)
  rw [digitsValue_toDigits] at value
  have nonempty : List.replicate (2 - (Nat.toDigits 10 order.natAbs).length) '0' ++
      Nat.toDigits 10 order.natAbs ≠ [] := by simp
  rw [exponentText]
  generalize List.replicate (2 - (Nat.toDigits 10 order.natAbs).length) '0' ++
    Nat.toDigits 10 order.natAbs = digits at decimal value nonempty ⊢
  have all : digits.all isDigit := by
    rw [List.all_eq_true]
    exact fun c member => isDigit_decimal (decimal c member)
  by_cases below : order < 0
  · have signed_eq : signed true order.natAbs = order := by simpa [below] using signed_natAbs order
    simp [readExponent?, splitSign, below, nonempty, all, value, signed_eq]
  · have signed_eq : signed false order.natAbs = order := by simpa [below] using signed_natAbs order
    simp [readExponent?, splitSign, below, nonempty, all, value, signed_eq]

theorem isPlain_exponentText (order : Int) : IsPlain (exponentText order) := by
  have sign : IsPlain ['e', if order < 0 then '-' else '+'] := by
    split
    · decide
    · decide
  exact isPlain_append sign (isPlain_decimal
    (List.forall_mem_append.mpr ⟨decimal_zeros _, decimal_toDigits _⟩))

/-- Text that notates the number nearest to a decimal, of which the order of magnitude is that of
the first digit. -/
def NotatesDigits (body digits : List Char) (order : Int) : Prop :=
  ∃ significand exponent, Notates body significand exponent ∧
    ∀ negative, Real64.ofDecimal negative significand exponent =
      Real64.ofDecimal negative (digitsValue digits) (order + 1 - digits.length)

section Writing

variable {digits : List Char}

theorem noExponent : readExponent? [] = some 0 := rfl

theorem notates_behind (decimal : ∀ c ∈ digits, c.isDigit) (count : Nat) :
    Notates ('0' :: '.' :: (List.replicate count '0' ++ digits)) (digitsValue digits)
      (0 - (count + digits.length : Nat)) := by
  have notates := Notates.point (by decide) decimal_zero
    (List.forall_mem_append.mpr ⟨decimal_zeros count, decimal⟩) isPlain_nil noExponent
  have value := digitsValue_zeros_append (count + 1) digits
  rw [List.replicate_succ, List.cons_append] at value
  rw [List.append_nil, List.singleton_append, List.singleton_append, value, List.length_append,
    List.length_replicate] at notates
  exact notates

theorem notates_before (decimal : ∀ c ∈ digits, c.isDigit) {count : Nat}
    (nonempty : 0 < digits.length + count) :
    Notates (digits ++ List.replicate count '0' ++ '.' :: ['0'])
      (digitsValue digits * 10 ^ (count + 1)) (0 - (1 : Nat)) := by
  have some : digits ++ List.replicate count '0' ≠ [] := by
    intro empty
    have none := congrArg List.length empty
    rw [List.length_append, List.length_replicate, List.length_nil] at none
    omega
  have whole := List.forall_mem_append.mpr ⟨decimal, decimal_zeros count⟩
  have notates := Notates.point some whole decimal_zero isPlain_nil noExponent
  have value := digitsValue_append_zeros decimal (count + 1)
  rw [List.replicate_succ', ← List.append_assoc] at value
  rw [value] at notates
  exact notates

theorem notates_around (decimal : ∀ c ∈ digits, c.isDigit) {place : Nat} (positive : 0 < place)
    (inside : place ≤ digits.length) :
    Notates (digits.take place ++ '.' :: digits.drop place) (digitsValue digits)
      (0 - (digits.length - place : Nat)) := by
  have some : digits.take place ≠ [] := by
    intro empty
    have none := congrArg List.length empty
    rw [List.length_take_of_le inside, List.length_nil] at none
    omega
  have fraction : ∀ c ∈ digits.drop place, c.isDigit :=
    fun c member => decimal c (List.mem_of_mem_drop member)
  have notates := Notates.point some (fun c member => decimal c (List.mem_of_mem_take member))
    fraction isPlain_nil noExponent
  rw [List.take_append_drop, List.append_nil, List.length_drop] at notates
  exact notates

theorem positional_notates (decimal : ∀ c ∈ digits, c.isDigit) (order : Int) :
    NotatesDigits (Real64.positional digits order) digits order := by
  rw [Real64.positional]
  split
  · refine ⟨_, _, notates_behind decimal (-order - 1).toNat, fun negative => ?_⟩
    congr 1
    omega
  · dsimp only
    by_cases short : digits.length ≤ order.toNat + 1
    · have notates := notates_before decimal
        (by omega : 0 < digits.length + (order.toNat + 1 - digits.length))
      rw [List.take_of_length_le short, List.drop_eq_nil_of_le short]
      refine ⟨_, _, notates, fun negative => ?_⟩
      rw [Real64.ofDecimal_shift]
      congr 1
      omega
    · have notates := notates_around decimal (Nat.succ_pos order.toNat)
        (by omega : order.toNat + 1 ≤ digits.length)
      have noZeros : order.toNat + 1 - digits.length = 0 := by omega
      have some : ¬ (digits.drop (order.toNat + 1)).isEmpty := by simpa using short
      rw [noZeros, List.replicate_zero, List.append_nil, if_neg some]
      refine ⟨_, _, notates, fun negative => ?_⟩
      congr 1
      omega

theorem scientific_notates (nonempty : digits ≠ []) (decimal : ∀ c ∈ digits, c.isDigit)
    (order : Int) : NotatesDigits (Real64.scientific digits order) digits order := by
  obtain ⟨first, others, rfl⟩ := List.exists_cons_of_ne_nil nonempty
  have firstDecimal : ∀ c ∈ [first], c.isDigit := by
    intro c member
    rw [List.mem_singleton.mp member]
    exact decimal first List.mem_cons_self
  have othersDecimal : ∀ c ∈ others, c.isDigit := fun c member =>
    decimal c (List.mem_cons_of_mem _ member)
  have plain := isPlain_exponentText order
  have ends := readExponent?_exponentText order
  have written : Real64.scientific (first :: others) order =
      [first] ++ ((if others.isEmpty then [] else '.' :: others) ++ exponentText order) := by
    simp [Real64.scientific, exponentText]
  rw [written]
  cases others with
  | nil =>
      have notates := Notates.whole (by simp) firstDecimal (List.cons_ne_nil _ _) plain ends
      have exponent : order + 1 - ([first].length : Nat) = order := by simp
      exact ⟨_, _, notates, fun negative => by rw [exponent]⟩
  | cons second others =>
      have notates := Notates.point (by simp) firstDecimal othersDecimal plain ends
      have exponent : order - ((second :: others).length : Nat) =
          order + 1 - (first :: second :: others).length := by
        simp only [List.length_cons]
        omega
      exact ⟨_, _, notates, fun negative => by rw [exponent]; rfl⟩

def withoutZeros (digits : List Char) : List Char := (digits.reverse.dropWhile (· = '0')).reverse

theorem withoutZeros_append (digits : List Char) :
    ∃ count, digits = withoutZeros digits ++ List.replicate count '0' := by
  obtain ⟨zeros, zerosIs⟩ : ∃ zeros, zeros = digits.reverse.takeWhile (· = '0') := ⟨_, rfl⟩
  have same : zeros = List.replicate zeros.length '0' := by
    apply List.eq_replicate_of_mem
    intro c member
    rw [zerosIs] at member
    simpa using List.all_eq_true.mp List.all_takeWhile c member
  have back : zeros.reverse = List.replicate zeros.length '0' := by
    rw [same, List.reverse_replicate, List.length_replicate]
  refine ⟨zeros.length, ?_⟩
  rw [withoutZeros, ← back, zerosIs, ← List.reverse_append, List.takeWhile_append_dropWhile,
    List.reverse_reverse]

theorem decimal_withoutZeros (decimal : ∀ c ∈ digits, c.isDigit) :
    ∀ c ∈ withoutZeros digits, c.isDigit := by
  intro c member
  rw [withoutZeros, List.mem_reverse] at member
  exact decimal c (List.mem_reverse.mp ((List.dropWhile_sublist _).subset member))

end Writing

namespace Real64

theorem toList_text (x : Real64) : x.text.toList = withSign x.negative x.magnitudeText :=
  String.toList_ofList

theorem ofDecimal_withoutZeros {x : Real64} (finite : x.isFinite) (nonzero : x.magnitude ≠ 0) :
    let digits := Nat.toDigits 10 x.shortestDigits.digits
    let order := x.shortestDigits.exponent + digits.length - 1
    ofDecimal x.negative (digitsValue (withoutZeros digits))
      (order + 1 - (withoutZeros digits).length) = x := by
  intro digits order
  obtain ⟨count, split⟩ := withoutZeros_append digits
  have decimal : ∀ c ∈ withoutZeros digits, c.isDigit :=
    decimal_withoutZeros (decimal_toDigits _)
  have total : digitsValue (withoutZeros digits) * 10 ^ count = x.shortestDigits.digits := by
    rw [← digitsValue_append_zeros decimal, ← split, digitsValue_toDigits]
  have exponent : order + 1 - (withoutZeros digits).length = x.shortestDigits.exponent + count := by
    have length := congrArg List.length split
    rw [List.length_append, List.length_replicate] at length
    omega
  -- The zeros taken off the digits are a power of ten that the exponent takes up.
  rw [exponent, ← ofDecimal_shift, total]
  exact ofDecimal_shortestDigits finite nonzero

/-- The text of a finite number is a decimal that the number is nearest to. -/
theorem magnitudeText_notates {x : Real64} (finite : x.isFinite) :
    ∃ significand exponent, Notates x.magnitudeText significand exponent ∧
      ofDecimal x.negative significand exponent = x := by
  by_cases zero : x.magnitude = 0
  · have notates := Notates.point (by decide) decimal_zero decimal_zero isPlain_nil noExponent
    rw [magnitudeText, if_pos zero]
    refine ⟨_, _, notates, ?_⟩
    rw [← ofMagnitude_self x, zero]
    rfl
  · have back := ofDecimal_withoutZeros finite zero
    obtain ⟨digits, digitsIs⟩ : ∃ digits, digits = Nat.toDigits 10 x.shortestDigits.digits := ⟨_, rfl⟩
    rw [← digitsIs] at back
    have decimal : ∀ c ∈ withoutZeros digits, c.isDigit :=
      decimal_withoutZeros (digitsIs ▸ decimal_toDigits _)
    have nonempty : withoutZeros digits ≠ [] := by
      intro empty
      apply zero
      rw [← back, empty]
      simp [ofDecimal, digitsValue, ofMagnitude]
    have notates : NotatesDigits x.magnitudeText (withoutZeros digits)
        (x.shortestDigits.exponent + digits.length - 1) := by
      rw [magnitudeText, if_neg zero, if_neg (by simp [finite])]
      dsimp only
      rw [← digitsIs]
      split
      · exact positional_notates decimal _
      · exact scientific_notates nonempty decimal _
    obtain ⟨significand, exponent, notates, same⟩ := notates
    exact ⟨significand, exponent, notates, (same _).trans back⟩

theorem readDecimal?_text {x : Real64} (finite : x.isFinite) :
    readDecimal? x.text.toList = some x := by
  obtain ⟨significand, exponent, notates, nearest⟩ := magnitudeText_notates finite
  rw [toList_text, readDecimal?_notates notates, nearest]

theorem readInteger?_text {x : Real64} (finite : x.isFinite) : readInteger? x.text.toList = none := by
  obtain ⟨significand, exponent, notates, -⟩ := magnitudeText_notates finite
  rw [toList_text, readInteger?_notates notates]

theorem isPlain_text {x : Real64} (finite : x.isFinite) : IsPlain x.text.toList := by
  obtain ⟨significand, exponent, notates, -⟩ := magnitudeText_notates finite
  rw [toList_text]
  exact isPlain_withSign _ (isPlain_notates notates)

end Real64

end MiniLisp
