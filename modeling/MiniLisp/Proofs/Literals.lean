import MiniLisp.Number.Inexact
import MiniLisp.Proofs.Numerals
import MiniLisp.Settings

/-!
Literals of integers and of floats at large: the digits in them may be grouped by underscores, and
infinity and NaN have names. Every integer literal is a float literal too. Settings are read as integer
literals.
-/

namespace MiniLisp

open List (not_mem_append)

inductive Signs : List Char → Bool → Prop
  | none : Signs [] false
  | plus : Signs ['+'] false
  | minus : Signs ['-'] true

/-- How a row of digits is written: an underscore may stand between two of them. -/
inductive Grouped : List Char → List Char → Prop
  | last {c : Char} (digit : isDigit c) : Grouped [c] [c]
  | next {c : Char} {text digits : List Char} (digit : isDigit c) (others : Grouped text digits) :
      Grouped (c :: text) (c :: digits)
  | apart {c : Char} {text digits : List Char} (digit : isDigit c) (others : Grouped text digits) :
      Grouped (c :: '_' :: text) (c :: digits)

inductive IntegerLiteral : List Char → Int → Prop
  | written {sign body digits : List Char} {negative : Bool} (signs : Signs sign negative)
      (grouped : Grouped body digits) (short : digits.length ≤ maxNumeralLength) :
      IntegerLiteral (sign ++ body) (signed negative (digitsValue digits))

/-- Digits before and behind a point. One of the two rows may be missing, and without digits behind it
the point may be missing as well. -/
inductive Pointed : List Char → List Char → List Char → Prop
  | whole {body whole : List Char} (digits : Grouped body whole) : Pointed body whole []
  | before {body whole : List Char} (digits : Grouped body whole) :
      Pointed (body ++ ['.']) whole []
  | behind {body fraction : List Char} (digits : Grouped body fraction) :
      Pointed ('.' :: body) [] fraction
  | around {left right whole fraction : List Char} (before : Grouped left whole)
      (behind : Grouped right fraction) : Pointed (left ++ '.' :: right) whole fraction

inductive Exponent : List Char → Int → Prop
  | none : Exponent [] 0
  | marked {mark : Char} {sign body digits : List Char} {negative : Bool}
      (isMark : mark = 'e' ∨ mark = 'E') (signs : Signs sign negative)
      (grouped : Grouped body digits) :
      Exponent (mark :: (sign ++ body)) (signed negative (digitsValue digits))

/-- A decimal is the number of 64 bits nearest to what it spells. -/
inductive DecimalLiteral : List Char → Real64 → Prop
  | written {sign number tail whole fraction : List Char} {negative : Bool} {exponent : Int}
      (signs : Signs sign negative) (pointed : Pointed number whole fraction)
      (ends : Exponent tail exponent) :
      DecimalLiteral (sign ++ (number ++ tail))
        (.ofDecimal negative (digitsValue (whole ++ fraction)) (exponent - fraction.length))

def IsNamed (name : String) (text : List Char) : Prop := text.map Char.toLower = name.toList

inductive FloatLiteral : List Char → Inexact → Prop
  | decimal {text : List Char} {x : Real64} (literal : DecimalLiteral text x) :
      FloatLiteral text (.real x)
  | infinity {sign body : List Char} {negative : Bool} (signs : Signs sign negative)
      (named : IsNamed "inf" body ∨ IsNamed "infinity" body) :
      FloatLiteral (sign ++ body) (.real (.infinity negative))
  | nan {sign body : List Char} {negative : Bool} (signs : Signs sign negative)
      (named : IsNamed "nan" body) : FloatLiteral (sign ++ body) (.nan negative)

theorem floatLiteral_of_integer {text : List Char} {n : Int} (literal : IntegerLiteral text n) :
    ∃ x, FloatLiteral text (.real x) := by
  cases literal with
  | @written sign body digits negative signs grouped _ =>
      have decimal := DecimalLiteral.written signs (.whole grouped) .none
      rw [List.append_nil] at decimal
      exact ⟨_, .decimal decimal⟩

theorem not_digit_underscore : ¬ isDigit '_' := by decide

section Grouped

variable {text digits : List Char}

theorem digits_of_grouped (grouped : Grouped text digits) :
    digits ≠ [] ∧ ∀ c ∈ digits, isDigit c := by
  refine ⟨by cases grouped <;> exact List.cons_ne_nil _ _, ?_⟩
  induction grouped with
  | last digit => exact List.forall_mem_singleton.mpr digit
  | next digit _ ih => exact List.forall_mem_cons.mpr ⟨digit, ih⟩
  | apart digit _ ih => exact List.forall_mem_cons.mpr ⟨digit, ih⟩

theorem grouped_self (nonempty : digits ≠ []) (each : ∀ c ∈ digits, isDigit c) :
    Grouped digits digits := by
  induction digits with
  | nil => exact absurd rfl nonempty
  | cons c rest ih =>
      obtain ⟨digit, others⟩ := List.forall_mem_cons.mp each
      cases rest with
      | nil => exact .last digit
      | cons d rest => exact .next digit (ih (List.cons_ne_nil d rest) others)

theorem eq_of_grouped (grouped : Grouped text digits) (plain : '_' ∉ text) : text = digits := by
  induction grouped with
  | last => rfl
  | next _ _ ih => rw [ih fun member => plain (List.mem_cons_of_mem _ member)]
  | apart => simp at plain

theorem plain_digits (each : ∀ c ∈ digits, isDigit c) : '_' ∉ digits :=
  fun member => not_digit_underscore (each _ member)

theorem head_of_grouped (grouped : Grouped text digits) :
    ∃ c rest, text = c :: rest ∧ isDigit c := by
  cases grouped with
  | last digit => exact ⟨_, _, rfl, digit⟩
  | next digit => exact ⟨_, _, rfl, digit⟩
  | apart digit => exact ⟨_, _, rfl, digit⟩

end Grouped

section Sign

variable {sign body : List Char} {negative : Bool}

theorem splitSign_append (signs : Signs sign negative) (notMinus : body.head? ≠ some '-')
    (notPlus : body.head? ≠ some '+') : splitSign (sign ++ body) = (negative, body) := by
  cases signs with
  | none =>
      cases body with
      | nil => rfl
      | cons c rest =>
          have minus : c ≠ '-' := by simpa using notMinus
          have plus : c ≠ '+' := by simpa using notPlus
          simp [splitSign, minus, plus]
  | plus => rfl
  | minus => rfl

theorem exists_signs (text : List Char) :
    ∃ sign, Signs sign (splitSign text).1 ∧ text = sign ++ (splitSign text).2 := by
  unfold splitSign
  split
  · exact ⟨['-'], .minus, rfl⟩
  · exact ⟨['+'], .plus, rfl⟩
  · exact ⟨[], .none, rfl⟩

theorem plain_signs (signs : Signs sign negative) : '_' ∉ sign := by
  cases signs <;> decide

theorem splitSign_digit {c : Char} {rest : List Char} (signs : Signs sign negative)
    (digit : isDigit c) : splitSign (sign ++ c :: rest) = (negative, c :: rest) := by
  apply splitSign_append signs
  · rintro same
    rw [Option.some.inj same] at digit
    exact absurd digit (by decide)
  · rintro same
    rw [Option.some.inj same] at digit
    exact absurd digit (by decide)

end Sign

namespace Settings

variable {text digits : List Char}

theorem ungroup?_cons {c : Char} (other : c ≠ '_') (rest : List Char) :
    ungroup? (c :: rest) = (ungroup? rest).map (c :: ·) := by
  rw [ungroup?]
  · exact fun same => absurd same other
  · exact fun _ same => absurd same other
  · exact fun _ _ same => absurd same other

theorem ungroup?_underscore {c : Char} (other : c ≠ '_') (rest : List Char) :
    ungroup? ('_' :: c :: rest) = ungroup? (c :: rest) := by
  rw [ungroup?]
  exact fun same => absurd same other

theorem ne_underscore {c : Char} (digit : isDigit c) : c ≠ '_' := by
  rintro rfl
  exact not_digit_underscore digit

theorem ungroup?_of_grouped (grouped : Grouped text digits) : ungroup? text = some digits := by
  induction grouped with
  | last digit => rw [ungroup?_cons (ne_underscore digit)]; rfl
  | next digit _ ih => rw [ungroup?_cons (ne_underscore digit), ih]; rfl
  | apart digit others ih =>
      obtain ⟨d, rest, rfl, first⟩ := head_of_grouped others
      rw [ungroup?_cons (ne_underscore digit), ungroup?_underscore (ne_underscore first), ih]
      rfl

theorem ungroup?_eq_nil (ungrouped : ungroup? text = some []) : text = [] := by
  fun_induction ungroup? text <;> simp_all

/-- What is left when underscores are taken out was grouped by them, but that one may stand in front. -/
theorem grouped_of_ungroup? (ungrouped : ungroup? text = some digits) (nonempty : digits ≠ [])
    (each : ∀ c ∈ digits, isDigit c) :
    Grouped text digits ∨ ∃ rest, text = '_' :: rest ∧ Grouped rest digits := by
  fun_induction ungroup? text generalizing digits with
  | case1 => exact absurd (Option.some.inj ungrouped).symm nonempty
  | case2 => cases ungrouped
  | case3 => cases ungrouped
  | case4 c rest other ih =>
      rcases ih ungrouped nonempty each with grouped | ⟨_, same, _⟩
      · exact .inr ⟨_, rfl, grouped⟩
      · exact absurd (List.cons.inj same).1 other
  | case5 c rest notLast notTwo notOne ih =>
      obtain ⟨others, below, rfl⟩ := Option.map_eq_some_iff.mp ungrouped
      obtain ⟨digit, eachOther⟩ := List.forall_mem_cons.mp each
      refine .inl ?_
      by_cases some_other : others = []
      · subst some_other
        rw [ungroup?_eq_nil below]
        exact .last digit
      · rcases ih below some_other eachOther with grouped | ⟨rest', rfl, grouped⟩
        · exact .next digit grouped
        · exact .apart digit grouped

theorem readGroupedInteger?_iff {n : Int} :
    readGroupedInteger? text = some n ↔ IntegerLiteral (trimBoth isNumeralPadding text) n := by
  rw [readGroupedInteger?]
  constructor
  · intro read
    obtain ⟨sign, signs, same⟩ := exists_signs (trimBoth isNumeralPadding text)
    dsimp only at read
    split at read
    · cases read
    · rename_i unbarred
      obtain ⟨digits, ungrouped, read⟩ := Option.bind_eq_some_iff.mp read
      split at read
      · cases read
      · rename_i numeral
        simp only [Bool.or_eq_true, Bool.not_eq_true', decide_eq_true_eq, not_or, Nat.not_lt,
          List.isEmpty_iff, Bool.not_eq_false, List.all_eq_true] at numeral
        obtain ⟨⟨nonempty, each⟩, short⟩ := numeral
        rcases grouped_of_ungroup? ungrouped nonempty each with grouped | ⟨rest, barred, -⟩
        · rw [same, ← Option.some.inj read]
          exact .written signs grouped short
        · rw [barred] at unbarred
          exact absurd rfl unbarred
  · intro literal
    generalize trimBoth isNumeralPadding text = trimmed at literal
    cases literal with
    | written signs grouped short =>
        obtain ⟨c, rest, rfl, digit⟩ := head_of_grouped grouped
        obtain ⟨nonempty, each⟩ := digits_of_grouped grouped
        simpa [splitSign_digit signs digit, ne_underscore digit, ungroup?_of_grouped grouped,
          nonempty, short] using each

end Settings

/-! Numerals are the literals without underscores, infinity and NaN apart. -/

section Numerals

variable {text tail number whole fraction : List Char} {exponent : Int}

theorem readInteger?_iff {n : Int} :
    readInteger? text = some n ↔ IntegerLiteral (trimBoth isNumeralPadding text) n ∧
      '_' ∉ trimBoth isNumeralPadding text := by
  rw [readInteger?]
  constructor
  · intro read
    obtain ⟨sign, signs, same⟩ := exists_signs (trimBoth isNumeralPadding text)
    dsimp only at read
    split at read
    · cases read
    · rename_i numeral
      simp only [Bool.or_eq_true, Bool.not_eq_true', decide_eq_true_eq, not_or, Nat.not_lt,
        List.isEmpty_iff, Bool.not_eq_false, List.all_eq_true] at numeral
      obtain ⟨⟨nonempty, each⟩, short⟩ := numeral
      rw [same, ← Option.some.inj read]
      refine ⟨.written signs (grouped_self nonempty each) short, ?_⟩
      exact not_mem_append (plain_signs signs) (plain_digits each)
  · generalize trimBoth isNumeralPadding text = trimmed
    rintro ⟨literal, plain⟩
    cases literal with
    | written signs grouped short =>
        have same := eq_of_grouped grouped fun member => plain (List.mem_append_right _ member)
        subst same
        obtain ⟨c, rest, rfl, digit⟩ := head_of_grouped grouped
        obtain ⟨-, each⟩ := digits_of_grouped grouped
        simpa [splitSign_digit signs digit] using And.intro each short

theorem readExponent?_iff :
    readExponent? tail = some exponent ↔ Exponent tail exponent ∧ '_' ∉ tail := by
  constructor
  · intro read
    cases tail with
    | nil =>
        rw [← Option.some.inj read]
        exact ⟨.none, List.not_mem_nil⟩
    | cons mark rest =>
        obtain ⟨sign, signs, same⟩ := exists_signs rest
        rw [readExponent?] at read
        dsimp only at read
        split at read
        · rename_i marked
          simp only [Bool.and_eq_true, Bool.or_eq_true, decide_eq_true_eq, Bool.not_eq_true',
            List.isEmpty_eq_false_iff, List.all_eq_true] at marked
          obtain ⟨⟨isMark, nonempty⟩, each⟩ := marked
          rw [same, ← Option.some.inj read]
          refine ⟨.marked isMark signs (grouped_self nonempty each), ?_⟩
          have notBar : '_' ∉ [mark] := by
            rcases isMark with rfl | rfl
            · decide
            · decide
          exact not_mem_append notBar (not_mem_append (plain_signs signs) (plain_digits each))
        · cases read
  · rintro ⟨ends, plain⟩
    cases ends with
    | none => rfl
    | marked isMark signs grouped =>
        have same := eq_of_grouped grouped fun member =>
          plain (List.mem_cons_of_mem _ (List.mem_append_right _ member))
        subst same
        obtain ⟨c, rest, rfl, digit⟩ := head_of_grouped grouped
        obtain ⟨-, each⟩ := digits_of_grouped grouped
        simpa [readExponent?, splitSign_digit signs digit, isMark] using each

theorem exponent_stops (ends : Exponent tail exponent) :
    tail.takeWhile isDigit = [] ∧ tail.head? ≠ some '.' := by
  cases ends with
  | none => exact ⟨rfl, nofun⟩
  | marked isMark =>
      rcases isMark with rfl | rfl
      · exact ⟨rfl, by simp⟩
      · exact ⟨rfl, by simp⟩

theorem dropWhile_of_stops (stops : tail.takeWhile isDigit = []) : tail.dropWhile isDigit = tail := by
  have split := List.takeWhile_append_dropWhile (p := isDigit) (l := tail)
  rwa [stops] at split

theorem readDecimal?_pointed {negative : Bool}
    (split : splitSign (trimBoth isNumeralPadding text) =
      (negative, whole ++ '.' :: (fraction ++ tail)))
    (eachWhole : ∀ c ∈ whole, isDigit c) (eachFraction : ∀ c ∈ fraction, isDigit c)
    (stops : tail.takeWhile isDigit = []) :
    readDecimal? text = if whole = [] ∧ fraction = [] then none else
      (readExponent? tail).map fun exponent =>
        .ofDecimal negative (digitsValue (whole ++ fraction)) (exponent - fraction.length) := by
  have point : ('.' :: (fraction ++ tail)).takeWhile isDigit = [] ∧
      ('.' :: (fraction ++ tail)).dropWhile isDigit = '.' :: (fraction ++ tail) := ⟨rfl, rfl⟩
  rw [readDecimal?, split]
  simp only [List.takeWhile_append_of_pos eachWhole, List.dropWhile_append_of_pos eachWhole, point.1,
    point.2, List.takeWhile_append_of_pos eachFraction, List.dropWhile_append_of_pos eachFraction,
    stops, dropWhile_of_stops stops, List.append_nil, Bool.and_eq_true, List.isEmpty_iff]

theorem readDecimal?_unpointed {negative : Bool}
    (split : splitSign (trimBoth isNumeralPadding text) = (negative, whole ++ tail))
    (eachWhole : ∀ c ∈ whole, isDigit c) (stops : tail.takeWhile isDigit = [])
    (noPoint : tail.head? ≠ some '.') :
    readDecimal? text = if whole = [] then none else
      (readExponent? tail).map fun exponent =>
        .ofDecimal negative (digitsValue whole) exponent := by
  rw [readDecimal?, split]
  simp only [List.takeWhile_append_of_pos eachWhole, List.dropWhile_append_of_pos eachWhole, stops,
    dropWhile_of_stops stops, List.append_nil]
  cases tail with
  | nil => simp
  | cons c rest =>
      have other : c ≠ '.' := by simpa using noPoint
      simp [other]

theorem takeWhile_each (body : List Char) : ∀ c ∈ body.takeWhile isDigit, isDigit c :=
  List.all_eq_true.mp List.all_takeWhile

theorem takeWhile_dropWhile (body : List Char) :
    (body.dropWhile isDigit).takeWhile isDigit = [] := by
  induction body with
  | nil => rfl
  | cons c rest ih =>
      by_cases digit : isDigit c
      · rw [List.dropWhile_cons_of_pos digit, ih]
      · rw [List.dropWhile_cons_of_neg digit, List.takeWhile_cons_of_neg digit]

theorem pointed_digits (eachWhole : ∀ c ∈ whole, isDigit c)
    (eachFraction : ∀ c ∈ fraction, isDigit c) (some_digit : ¬ (whole = [] ∧ fraction = [])) :
    Pointed (whole ++ '.' :: fraction) whole fraction := by
  by_cases noWhole : whole = []
  · subst noWhole
    exact .behind (grouped_self (fun none => some_digit ⟨rfl, none⟩) eachFraction)
  · by_cases noFraction : fraction = []
    · subst noFraction
      exact .before (grouped_self noWhole eachWhole)
    · exact .around (grouped_self noWhole eachWhole) (grouped_self noFraction eachFraction)

theorem decimalLiteral_of_read {x : Real64} (read : readDecimal? text = some x) :
    DecimalLiteral (trimBoth isNumeralPadding text) x ∧
      '_' ∉ trimBoth isNumeralPadding text := by
  obtain ⟨sign, signs, same⟩ := exists_signs (trimBoth isNumeralPadding text)
  obtain ⟨body, bodyIs⟩ : ∃ body, body = (splitSign (trimBoth isNumeralPadding text)).2 := ⟨_, rfl⟩
  have split : splitSign (trimBoth isNumeralPadding text) =
      ((splitSign (trimBoth isNumeralPadding text)).1, body) := by rw [bodyIs]
  have eachWhole := takeWhile_each body
  have parts := List.takeWhile_append_dropWhile (p := isDigit) (l := body)
  have stopsWhole := takeWhile_dropWhile body
  rw [← bodyIs] at same
  rw [same]
  generalize body.takeWhile isDigit = whole at eachWhole parts
  generalize body.dropWhile isDigit = after at parts stopsWhole
  subst parts
  by_cases point : after.head? = some '.'
  · obtain ⟨rest, rfl⟩ := List.head?_eq_some_iff.mp point
    have eachFraction := takeWhile_each rest
    have parts := List.takeWhile_append_dropWhile (p := isDigit) (l := rest)
    have stops := takeWhile_dropWhile rest
    generalize rest.takeWhile isDigit = fraction at eachFraction parts
    generalize rest.dropWhile isDigit = tail at parts stops
    subst parts
    rw [readDecimal?_pointed split eachWhole eachFraction stops] at read
    split at read
    · cases read
    · rename_i some_digit
      obtain ⟨exponent, ends, rfl⟩ := Option.map_eq_some_iff.mp read
      obtain ⟨ends, plain⟩ := readExponent?_iff.mp ends
      have pointed := pointed_digits eachWhole eachFraction some_digit
      have literal := DecimalLiteral.written signs pointed ends
      rw [List.append_assoc, List.cons_append] at literal
      have behind : '_' ∉ '.' :: (fraction ++ tail) :=
        not_mem_append (by decide : '_' ∉ ['.']) (not_mem_append (plain_digits eachFraction) plain)
      have number := not_mem_append (plain_digits eachWhole) behind
      exact ⟨literal, not_mem_append (plain_signs signs) number⟩
  · rw [readDecimal?_unpointed split eachWhole stopsWhole point] at read
    split at read
    · cases read
    · rename_i some_digit
      obtain ⟨exponent, ends, rfl⟩ := Option.map_eq_some_iff.mp read
      obtain ⟨ends, plain⟩ := readExponent?_iff.mp ends
      have literal := DecimalLiteral.written signs (.whole (grouped_self some_digit eachWhole)) ends
      have noPlaces : exponent - (([] : List Char).length : Int) = exponent := by simp
      rw [List.append_nil, noPlaces] at literal
      have behind := not_mem_append (plain_digits eachWhole) plain
      exact ⟨literal, not_mem_append (plain_signs signs) behind⟩

theorem digits_of_pointed (pointed : Pointed number whole fraction) (plain : '_' ∉ number) :
    (∀ c ∈ whole, isDigit c) ∧ (∀ c ∈ fraction, isDigit c) ∧ ¬ (whole = [] ∧ fraction = []) ∧
      (number = whole ++ '.' :: fraction ∨ number = whole ∧ fraction = []) := by
  cases pointed with
  | whole digits =>
      obtain ⟨nonempty, each⟩ := digits_of_grouped digits
      exact ⟨each, nofun, fun none => nonempty none.1, .inr ⟨eq_of_grouped digits plain, rfl⟩⟩
  | before digits =>
      obtain ⟨nonempty, each⟩ := digits_of_grouped digits
      have same := eq_of_grouped digits fun member => plain (List.mem_append_left _ member)
      exact ⟨each, nofun, fun none => nonempty none.1, .inl (by rw [same])⟩
  | behind digits =>
      obtain ⟨nonempty, each⟩ := digits_of_grouped digits
      have same := eq_of_grouped digits fun member => plain (List.mem_cons_of_mem _ member)
      exact ⟨nofun, each, fun none => nonempty none.2, .inl (by rw [same, List.nil_append])⟩
  | around before behind =>
      obtain ⟨nonempty, eachWhole⟩ := digits_of_grouped before
      obtain ⟨-, eachFraction⟩ := digits_of_grouped behind
      have sameWhole := eq_of_grouped before fun member => plain (List.mem_append_left _ member)
      have sameFraction := eq_of_grouped behind fun member =>
        plain (List.mem_append_right _ (List.mem_cons_of_mem _ member))
      exact ⟨eachWhole, eachFraction, fun none => nonempty none.1,
        .inl (by rw [sameWhole, sameFraction])⟩

theorem splitSign_point {sign rest : List Char} {negative : Bool} (signs : Signs sign negative)
    (eachWhole : ∀ c ∈ whole, isDigit c) :
    splitSign (sign ++ (whole ++ '.' :: rest)) = (negative, whole ++ '.' :: rest) := by
  cases whole with
  | nil => exact splitSign_append signs (by simp) (by simp)
  | cons c others => exact splitSign_digit signs (eachWhole c List.mem_cons_self)

theorem readDecimal?_iff {x : Real64} :
    readDecimal? text = some x ↔ DecimalLiteral (trimBoth isNumeralPadding text) x ∧
      '_' ∉ trimBoth isNumeralPadding text := by
  refine ⟨decimalLiteral_of_read, ?_⟩
  rintro ⟨literal, plain⟩
  generalize trimmed : trimBoth isNumeralPadding text = spelled at literal plain
  cases literal with
  | @written sign number tail whole fraction negative exponent signs pointed ends =>
      rw [List.mem_append, List.mem_append, not_or, not_or] at plain
      obtain ⟨-, plainNumber, plainTail⟩ := plain
      obtain ⟨stops, noPoint⟩ := exponent_stops ends
      have readEnds := readExponent?_iff.mpr ⟨ends, plainTail⟩
      obtain ⟨eachWhole, eachFraction, some_digit, rfl | ⟨rfl, rfl⟩⟩ :=
        digits_of_pointed pointed plainNumber
      · rw [List.append_assoc, List.cons_append] at trimmed
        have split := trimmed ▸ splitSign_point signs eachWhole
        rw [readDecimal?_pointed split eachWhole eachFraction stops, if_neg some_digit, readEnds]
        rfl
      · have nonempty : number ≠ [] := fun none => some_digit ⟨none, rfl⟩
        obtain ⟨c, rest, rfl⟩ := List.exists_cons_of_ne_nil nonempty
        have split : splitSign (trimBoth isNumeralPadding text) = (negative, c :: rest ++ tail) := by
          rw [trimmed]
          exact splitSign_digit signs (eachWhole c List.mem_cons_self)
        rw [readDecimal?_unpointed split eachWhole stops noPoint, if_neg nonempty, readEnds]
        simp

end Numerals

end MiniLisp
