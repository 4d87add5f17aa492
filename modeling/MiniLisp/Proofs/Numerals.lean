import Mathlib.Algebra.Group.Nat.Defs
import Mathlib.Data.List.Basic
import MiniLisp.Numeral

namespace MiniLisp

def numeralCharacters : List Char :=
  ['0', '1', '2', '3', '4', '5', '6', '7', '8', '9', '+', '-', '.', 'e']

/-- A word of characters that stay together when a line is split. -/
def IsPlain (word : List Char) : Prop := ∀ c ∈ word, isBlank c = false ∧ c ≠ '(' ∧ c ≠ ')'

instance (word : List Char) : Decidable (IsPlain word) := List.decidableBAll _ _

theorem isPlain_nil : IsPlain [] := by decide

theorem isPlain_append {first second : List Char} (left : IsPlain first) (right : IsPlain second) :
    IsPlain (first ++ second) :=
  List.forall_mem_append.mpr ⟨left, right⟩

theorem isPlain_of_numeral {word : List Char} (numeral : ∀ c ∈ word, c ∈ numeralCharacters) :
    IsPlain word := by
  have each : IsPlain numeralCharacters := by decide
  exact fun c member => each c (numeral c member)

theorem trimBoth_eq {drop : Char → Bool} {text : List Char} (kept : ∀ c ∈ text, drop c = false) :
    trimBoth drop text = text := by
  have same (text : List Char) (kept : ∀ c ∈ text, drop c = false) : text.dropWhile drop = text := by
    cases text with
    | nil => rfl
    | cons c rest => exact List.dropWhile_cons_of_neg (by simp [kept])
  rw [trimBoth, same text kept, same text.reverse fun c member => kept c (by simpa using member),
    List.reverse_reverse]

theorem trimBoth_plain {word : List Char} (plain : IsPlain word) :
    trimBoth isNumeralPadding word = word :=
  trimBoth_eq fun c member => by simp [isNumeralPadding, (plain c member).1]

def withSign (negative : Bool) (body : List Char) : List Char :=
  if negative then '-' :: body else body

theorem isPlain_withSign (negative : Bool) {body : List Char} (plain : IsPlain body) :
    IsPlain (withSign negative body) := by
  cases negative with
  | false => exact plain
  | true => exact isPlain_append (by decide : IsPlain ['-']) plain

theorem splitSign_withSign (negative : Bool) {digits rest : List Char} (nonempty : digits ≠ [])
    (decimal : ∀ c ∈ digits, c.isDigit) :
    splitSign (withSign negative (digits ++ rest)) = (negative, digits ++ rest) := by
  obtain ⟨c, others, rfl⟩ := List.exists_cons_of_ne_nil nonempty
  replace decimal := decimal c (by simp)
  cases negative with
  | true => rfl
  | false =>
      have notMinus : c ≠ '-' := by
        intro same
        subst same
        exact absurd decimal (by decide)
      have notPlus : c ≠ '+' := by
        intro same
        subst same
        exact absurd decimal (by decide)
      simp [withSign, splitSign, notMinus, notPlus]

section Digits

variable {c : Char} {digits : List Char}

theorem decimal_range (decimal : c.isDigit) : 0x30 ≤ c.toNat ∧ c.toNat < 0x3a := by
  obtain ⟨least, most⟩ := Char.isDigit_iff_toNat.mp decimal
  exact ⟨least, Nat.lt_succ_of_le most⟩

theorem decimal_numeral (decimal : c.isDigit) : c ∈ numeralCharacters := by
  have each : ∀ code < 0x3a, 0x30 ≤ code → Char.ofNat code ∈ numeralCharacters := by decide
  obtain ⟨least, most⟩ := decimal_range decimal
  rw [← Char.ofNat_toNat c]
  exact each _ most least

theorem isPlain_decimal (decimal : ∀ c ∈ digits, c.isDigit) : IsPlain digits :=
  isPlain_of_numeral fun c member => decimal_numeral (decimal c member)

theorem digitValue?_decimal (decimal : c.isDigit) :
    digitValue? c = some (c.toNat - '0'.toNat) := by
  simp [digitValue?, scriptZeros, decimal_range decimal]

theorem isDigit_decimal (decimal : c.isDigit) : isDigit c := by
  rw [isDigit, digitValue?_decimal decimal, Option.isSome_some]

theorem digitsValue_decimal (decimal : ∀ c ∈ digits, c.isDigit) :
    digitsValue digits = Nat.ofDigitChars 10 digits 0 := by
  rw [digitsValue, Nat.ofDigitChars]
  apply List.foldl_ext _ _ 0
  intro value c member
  rw [digitValue?_decimal (decimal c member), Option.getD_some]

theorem decimal_toDigits (n : Nat) : ∀ c ∈ Nat.toDigits 10 n, c.isDigit :=
  fun _ member => Nat.isDigit_of_mem_toDigits (by decide) (by decide) member

theorem digitsValue_toDigits (n : Nat) : digitsValue (Nat.toDigits 10 n) = n := by
  rw [digitsValue_decimal (decimal_toDigits n), Nat.ofDigitChars_ten_toDigits]

theorem digitValue?_lt {value : Nat} (digit : digitValue? c = some value) : value < 10 := by
  rw [digitValue?, Option.map_eq_some_iff] at digit
  obtain ⟨first, found, rfl⟩ := digit
  have range := List.find?_some found
  simp only [Bool.and_eq_true, decide_eq_true_eq] at range
  omega

theorem digitsValue_lt (digits : List Char) : digitsValue digits < 10 ^ digits.length := by
  have from_value (value : Nat) :
      digits.foldl (fun value c => 10 * value + (digitValue? c).getD 0) value <
        10 ^ digits.length * (value + 1) := by
    induction digits generalizing value with
    | nil => simp
    | cons c rest ih =>
        have small : (digitValue? c).getD 0 < 10 := by
          cases digit : digitValue? c with
          | none => decide
          | some value => exact digitValue?_lt digit
        calc (c :: rest).foldl (fun value c => 10 * value + (digitValue? c).getD 0) value
            < 10 ^ rest.length * (10 * value + (digitValue? c).getD 0 + 1) := ih _
          _ ≤ 10 ^ rest.length * (10 * (value + 1)) := Nat.mul_le_mul_left _ (by omega)
          _ = 10 ^ (c :: rest).length * (value + 1) := by
              rw [List.length_cons, Nat.pow_succ, Nat.mul_assoc]
  simpa [digitsValue] using from_value 0

end Digits

theorem natAbs_signed (negative : Bool) (n : Nat) : (signed negative n).natAbs = n := by
  cases negative <;> simp [signed]

theorem signed_natAbs (n : Int) : signed (n < 0) n.natAbs = n := by
  rw [signed]
  split
  · rename_i negative
    rw [decide_eq_true_eq] at negative
    omega
  · rename_i positive
    rw [decide_eq_true_eq] at positive
    omega

theorem toList_toString (n : Int) :
    (toString n).toList = withSign (n < 0) (Nat.toDigits 10 n.natAbs) := by
  cases n with
  | ofNat n =>
      have positive : ¬ (Int.ofNat n < 0) := by simp
      rw [decide_eq_false positive]
      exact Nat.toList_repr
  | negSucc n =>
      have negative : Int.negSucc n < 0 := Int.negSucc_lt_zero n
      rw [decide_eq_true negative]
      change ("-" ++ Nat.repr (n + 1)).toList = '-' :: Nat.toDigits 10 (n + 1)
      rw [String.toList_append, Nat.toList_repr]
      rfl

theorem readInteger?_toString {n : Int} (short : n.natAbs < Nat.pow 10 maxNumeralLength) :
    readInteger? (toString n).toList = some n := by
  have decimal := decimal_toDigits n.natAbs
  have plain := isPlain_withSign (n < 0) (isPlain_decimal decimal)
  have enough : (Nat.toDigits 10 n.natAbs).length ≤ maxNumeralLength := by
    have positive : 0 < maxNumeralLength := by decide
    generalize maxNumeralLength = limit at short positive
    rw [Nat.pow_eq] at short
    exact (Nat.length_toDigits_le_iff (by decide) positive).mpr short
  have digits : (Nat.toDigits 10 n.natAbs).all isDigit := by
    rw [List.all_eq_true]
    exact fun c member => isDigit_decimal (decimal c member)
  have split := @splitSign_withSign (n < 0) _ [] Nat.toDigits_ne_nil decimal
  rw [List.append_nil] at split
  rw [toList_toString, readInteger?, trimBoth_plain plain, split]
  simp [digits, enough, digitsValue_toDigits, signed_natAbs]

theorem readInteger?_bound {text : List Char} {n : Int} (read : readInteger? text = some n) :
    n.natAbs < Nat.pow 10 maxNumeralLength := by
  rw [readInteger?] at read
  dsimp only at read
  split at read
  · cases read
  · rename_i numeral
    simp only [Bool.or_eq_true, decide_eq_true_eq, not_or, Nat.not_lt] at numeral
    cases read
    rw [natAbs_signed]
    generalize maxNumeralLength = limit at numeral
    exact Nat.lt_of_lt_of_le (digitsValue_lt _) (Nat.pow_le_pow_right (by decide) numeral.2)

end MiniLisp
