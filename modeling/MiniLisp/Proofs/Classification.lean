import Mathlib.Data.List.Induction
import Mathlib.Data.Nat.Digits.Defs
import MiniLisp.Expr
import MiniLisp.Proofs.Literals

namespace MiniLisp

/-- Digits that belong to no decimal system, raised, lowered or in circles for instance (Unicode 14.0):
closed ranges of codes in increasing order. -/
def otherDigitRanges : List (Nat × Nat) :=
  [(0xb2, 0xb3), (0xb9, 0xb9), (0x1369, 0x1371), (0x19da, 0x19da), (0x2070, 0x2070),
   (0x2074, 0x2079), (0x2080, 0x2089), (0x2460, 0x2468), (0x2474, 0x247c), (0x2488, 0x2490),
   (0x24ea, 0x24ea), (0x24f5, 0x24fd), (0x24ff, 0x24ff), (0x2776, 0x277e), (0x2780, 0x2788),
   (0x278a, 0x2792), (0x10a40, 0x10a43), (0x10e60, 0x10e68), (0x11052, 0x1105a), (0x1f100, 0x1f10a)]

def isAnyDigit (c : Char) : Bool :=
  isDigit c || otherDigitRanges.any fun (first, last) => first ≤ c.toNat && c.toNat ≤ last

def MayBeNumber (token : String) : Prop :=
  '_' ∉ token.toList ∧ ∃ c ∈ token.toList, isAnyDigit c

def trimmed (token : String) : List Char := trimBoth isNumeralPadding token.toList

/-- What a token comes to when it is tried as a float literal first. If it is one, it is tried as an
integer literal, which comes before the float; if it is none, it is still tried as an integer literal,
and is a symbol in the end. -/
inductive Tried (token : String) : Expr → Prop
  | unlikely (unlikely : ¬ MayBeNumber token) : Tried token (.symbol token)
  | exact {value : Inexact} {n : Int} (likely : MayBeNumber token)
      (float : FloatLiteral (trimmed token) value) (integer : IntegerLiteral (trimmed token) n) :
      Tried token (.int n)
  | inexact {x : Real64} (likely : MayBeNumber token)
      (float : FloatLiteral (trimmed token) (.real x))
      (noInteger : ∀ n, ¬ IntegerLiteral (trimmed token) n) : Tried token (.real x)
  | fallback {n : Int} (likely : MayBeNumber token)
      (noFloat : ∀ value, ¬ FloatLiteral (trimmed token) value)
      (integer : IntegerLiteral (trimmed token) n) : Tried token (.int n)
  | neither (likely : MayBeNumber token) (noFloat : ∀ value, ¬ FloatLiteral (trimmed token) value)
      (noInteger : ∀ n, ¬ IntegerLiteral (trimmed token) n) : Tried token (.symbol token)

/-- An integer in decimal digits of any scripts: a sign or none, and between 1 and 4300 digits, the
last of which counts ones. -/
inductive SpellsInteger : List Char → Int → Prop
  | written {sign digits : List Char} {values : List Nat} {negative : Bool}
      (signs : Signs sign negative) (each : digits.map digitValue? = values.map some)
      (some_digit : 1 ≤ values.length) (short : values.length ≤ 4300) :
      SpellsInteger (sign ++ digits) (signed negative (Nat.ofDigits 10 values.reverse))

section Characters

variable {c : Char}

def paddingCodes : List Nat :=
  [9, 10, 11, 12, 13, 32, 0x85, 0xA0, 0x1680, 0x2000, 0x2001, 0x2002, 0x2003, 0x2004, 0x2005, 0x2006,
   0x2007, 0x2008, 0x2009, 0x200A, 0x2028, 0x2029, 0x202F, 0x205F, 0x3000]

theorem mem_paddingCodes (padding : isNumeralPadding c) : c.toNat ∈ paddingCodes := by
  simp [isNumeralPadding, isBlank] at padding
  simp [paddingCodes]
  omega

theorem padding_not_digit (padding : isNumeralPadding c) : isAnyDigit c = false ∧ c ≠ '_' := by
  have each : ∀ code ∈ paddingCodes, isAnyDigit (Char.ofNat code) = false ∧ Char.ofNat code ≠ '_' := by
    decide
  rw [← Char.ofNat_toNat c]
  exact each _ (mem_paddingCodes padding)

theorem lt_of_toLower (small : c.toLower.toNat < 128) : c.toNat < 128 := by
  unfold Char.toLower at small
  split at small
  · rename_i capital
    exact Nat.lt_of_le_of_lt (UInt32.le_iff_toNat_le.mp capital.2) (by decide)
  · exact small

theorem letter_not_digit (letter : c.toLower ∈ "infinitynan".toList) : isAnyDigit c = false := by
  have small : ∀ letter ∈ "infinitynan".toList, letter.toNat < 128 := by simp
  have each : ∀ code < 128, (Char.ofNat code).toLower ∈ "infinitynan".toList →
      isAnyDigit (Char.ofNat code) = false := by decide
  have ascii := lt_of_toLower (small _ letter)
  rw [← Char.ofNat_toNat c] at letter ⊢
  exact each _ ascii letter

end Characters

section Trimming

variable {drop : Char → Bool} {text : List Char} {c : Char}

theorem exists_trimBoth (drop : Char → Bool) (text : List Char) :
    ∃ before after, text = before ++ trimBoth drop text ++ after ∧ (∀ c ∈ before, drop c) ∧
      ∀ c ∈ after, drop c := by
  obtain ⟨inner, innerIs⟩ : ∃ inner, inner = text.dropWhile drop := ⟨_, rfl⟩
  have left := List.takeWhile_append_dropWhile (p := drop) (l := text)
  have right := List.takeWhile_append_dropWhile (p := drop) (l := inner.reverse)
  refine ⟨text.takeWhile drop, (inner.reverse.takeWhile drop).reverse, ?_,
    List.all_eq_true.mp List.all_takeWhile, fun c member => ?_⟩
  · rw [trimBoth, ← innerIs, List.append_assoc, ← List.reverse_append, right, List.reverse_reverse,
      innerIs, left]
  · exact List.all_eq_true.mp List.all_takeWhile c (List.mem_reverse.mp member)

theorem mem_of_mem_trimBoth (member : c ∈ trimBoth drop text) : c ∈ text := by
  obtain ⟨before, after, same, -, -⟩ := exists_trimBoth drop text
  rw [same]
  exact List.mem_append_left _ (List.mem_append_right _ member)

theorem mem_trimBoth (member : c ∈ text) (kept : drop c = false) : c ∈ trimBoth drop text := by
  obtain ⟨before, after, same, eachBefore, eachAfter⟩ := exists_trimBoth drop text
  rw [same, List.mem_append, List.mem_append] at member
  rcases member with (member | member) | member
  · simp [eachBefore c member] at kept
  · exact member
  · simp [eachAfter c member] at kept

variable (token : String)

theorem mayBeNumber_iff :
    MayBeNumber token ↔ '_' ∉ trimmed token ∧ ∃ c ∈ trimmed token, isAnyDigit c := by
  have unpadded (c : Char) (kept : isAnyDigit c = true ∨ c = '_') : isNumeralPadding c = false := by
    rw [← Bool.not_eq_true]
    intro padding
    obtain ⟨notDigit, notBar⟩ := padding_not_digit padding
    rcases kept with digit | bar
    · rw [notDigit] at digit
      cases digit
    · exact notBar bar
  constructor
  · rintro ⟨plain, c, member, digit⟩
    exact ⟨fun bar => plain (mem_of_mem_trimBoth bar), c,
      mem_trimBoth member (unpadded c (.inl digit)), digit⟩
  · rintro ⟨plain, c, member, digit⟩
    exact ⟨fun bar => plain (mem_trimBoth bar (unpadded '_' (.inr rfl))), c,
      mem_of_mem_trimBoth member, digit⟩

end Trimming

section Literals

variable {text digits : List Char} {c : Char} {n : Int} {value : Inexact} {x : Real64}

theorem isAnyDigit_of_isDigit (digit : isDigit c) : isAnyDigit c := by
  rw [isAnyDigit, digit, Bool.true_or]

theorem digit_of_grouped (grouped : Grouped text digits) : ∃ c ∈ text, isAnyDigit c := by
  obtain ⟨c, rest, rfl, digit⟩ := head_of_grouped grouped
  exact ⟨c, List.mem_cons_self, isAnyDigit_of_isDigit digit⟩

theorem digit_of_integerLiteral (literal : IntegerLiteral text n) : ∃ c ∈ text, isAnyDigit c := by
  cases literal with
  | written _ grouped =>
      obtain ⟨c, member, digit⟩ := digit_of_grouped grouped
      exact ⟨c, List.mem_append_right _ member, digit⟩

theorem digit_of_pointed {whole fraction : List Char} (pointed : Pointed text whole fraction) :
    ∃ c ∈ text, isAnyDigit c := by
  cases pointed with
  | whole digits => exact digit_of_grouped digits
  | before digits =>
      obtain ⟨c, member, digit⟩ := digit_of_grouped digits
      exact ⟨c, List.mem_append_left _ member, digit⟩
  | behind digits =>
      obtain ⟨c, member, digit⟩ := digit_of_grouped digits
      exact ⟨c, List.mem_cons_of_mem _ member, digit⟩
  | around before =>
      obtain ⟨c, member, digit⟩ := digit_of_grouped before
      exact ⟨c, List.mem_append_left _ member, digit⟩

theorem digit_of_decimalLiteral (literal : DecimalLiteral text x) : ∃ c ∈ text, isAnyDigit c := by
  cases literal with
  | written _ pointed =>
      obtain ⟨c, member, digit⟩ := digit_of_pointed pointed
      exact ⟨c, List.mem_append_right _ (List.mem_append_left _ member), digit⟩

def IsNumberName (text : List Char) : Prop :=
  ∃ sign body negative, Signs sign negative ∧ text = sign ++ body ∧
    (IsNamed "inf" body ∨ IsNamed "infinity" body ∨ IsNamed "nan" body)

theorem named_not_digit {name : String} (letters : name.toList ⊆ "infinitynan".toList)
    (named : IsNamed name text) : ∀ c ∈ text, isAnyDigit c = false := by
  intro c member
  apply letter_not_digit
  apply letters
  rw [← named]
  exact List.mem_map_of_mem member

theorem numberName_not_digit (named : IsNumberName text) : ¬ ∃ c ∈ text, isAnyDigit c := by
  obtain ⟨sign, body, negative, signs, rfl, named⟩ := named
  have eachBody : ∀ c ∈ body, isAnyDigit c = false := by
    rcases named with named | named | named
    · exact named_not_digit (by decide) named
    · exact named_not_digit (by decide) named
    · exact named_not_digit (by decide) named
  have eachSign : ∀ c ∈ sign, isAnyDigit c = false := by
    cases signs with
    | none => exact nofun
    | plus => exact List.forall_mem_singleton.mpr (by decide)
    | minus => exact List.forall_mem_singleton.mpr (by decide)
  rintro ⟨c, member, digit⟩
  rcases List.mem_append.mp member with member | member
  · simp [eachSign c member] at digit
  · simp [eachBody c member] at digit

theorem floatLiteral_cases (literal : FloatLiteral text value) :
    (∃ x, value = .real x ∧ DecimalLiteral text x) ∨ IsNumberName text := by
  cases literal with
  | decimal literal => exact .inl ⟨_, rfl, literal⟩
  | infinity signs named =>
      exact .inr ⟨_, _, _, signs, rfl, named.elim .inl fun infinity => .inr (.inl infinity)⟩
  | nan signs named => exact .inr ⟨_, _, _, signs, rfl, .inr (.inr named)⟩

theorem digitsValue_eq {values : List Nat} (each : digits.map digitValue? = values.map some) :
    digitsValue digits = Nat.ofDigits 10 values.reverse := by
  induction values using List.reverseRecOn generalizing digits with
  | nil =>
      rw [List.map_nil, List.map_eq_nil_iff] at each
      rw [each]
      rfl
  | append_singleton front last ih =>
      rw [List.map_append, List.map_eq_append_iff] at each
      obtain ⟨digits, ending, rfl, eachFront, eachLast⟩ := each
      obtain ⟨c, rfl, value⟩ : ∃ c, ending = [c] ∧ digitValue? c = some last := by
        obtain ⟨c, rfl, value⟩ := List.map_eq_singleton_iff.mp eachLast
        exact ⟨c, rfl, value⟩
      have before := ih eachFront
      rw [digitsValue] at before
      rw [List.reverse_append, List.reverse_singleton, List.singleton_append, Nat.ofDigits_cons,
        digitsValue, List.foldl_append, before, List.foldl_cons, List.foldl_nil, value]
      exact Nat.add_comm _ _

theorem exists_values (each : ∀ c ∈ digits, isDigit c) :
    ∃ values : List Nat, digits.map digitValue? = values.map some := by
  refine ⟨digits.map fun c => (digitValue? c).getD 0, ?_⟩
  rw [List.map_map]
  apply List.map_congr_left
  intro c member
  obtain ⟨value, has⟩ := Option.isSome_iff_exists.mp (each c member)
  simp [has]

end Literals

section Tokens

variable {token : String} {n : Int} {value : Inexact} {x : Real64}

theorem readInteger?_spells :
    readInteger? token.toList = some n ↔ SpellsInteger (trimmed token) n := by
  rw [readInteger?_iff, trimmed]
  generalize trimBoth isNumeralPadding token.toList = text
  constructor
  · rintro ⟨literal, plain⟩
    cases literal with
    | written signs grouped short =>
        have same := eq_of_grouped grouped fun member => plain (List.mem_append_right _ member)
        subst same
        obtain ⟨nonempty, each⟩ := digits_of_grouped grouped
        obtain ⟨values, valuesAre⟩ := exists_values each
        have length := congrArg List.length valuesAre
        rw [List.length_map, List.length_map] at length
        rw [digitsValue_eq valuesAre]
        exact .written signs valuesAre (length ▸ List.length_pos_of_ne_nil nonempty) (length ▸ short)
  · intro spells
    cases spells with
    | @written sign digits values negative signs valuesAre some_digit short =>
        have length := congrArg List.length valuesAre
        rw [List.length_map, List.length_map] at length
        have nonempty : digits ≠ [] := List.ne_nil_of_length_pos (length ▸ some_digit)
        have each : ∀ c ∈ digits, isDigit c := by
          intro c member
          have inside : digitValue? c ∈ values.map some := valuesAre ▸ List.mem_map_of_mem member
          obtain ⟨value, -, has⟩ := List.mem_map.mp inside
          rw [isDigit, ← has, Option.isSome_some]
        rw [← digitsValue_eq valuesAre]
        exact ⟨.written signs (grouped_self nonempty each) (length ▸ short),
          List.not_mem_append (plain_signs signs) (plain_digits each)⟩

theorem readInteger?_likely (likely : MayBeNumber token) :
    readInteger? token.toList = some n ↔ IntegerLiteral (trimmed token) n := by
  rw [readInteger?_iff]
  exact and_iff_left ((mayBeNumber_iff token).mp likely).1

theorem readDecimal?_likely (likely : MayBeNumber token) :
    (∃ x, value = .real x ∧ readDecimal? token.toList = some x) ↔
      FloatLiteral (trimmed token) value := by
  obtain ⟨plain, digit⟩ := (mayBeNumber_iff token).mp likely
  constructor
  · rintro ⟨x, rfl, read⟩
    exact .decimal (readDecimal?_iff.mp read).1
  · intro literal
    rcases floatLiteral_cases literal with ⟨x, rfl, decimal⟩ | named
    · exact ⟨x, rfl, readDecimal?_iff.mpr ⟨decimal, plain⟩⟩
    · exact absurd digit (numberName_not_digit named)

theorem likely_of_readInteger? (read : readInteger? token.toList = some n) : MayBeNumber token := by
  obtain ⟨literal, plain⟩ := readInteger?_iff.mp read
  exact (mayBeNumber_iff token).mpr ⟨plain, digit_of_integerLiteral literal⟩

theorem likely_of_readDecimal? (read : readDecimal? token.toList = some x) : MayBeNumber token := by
  obtain ⟨literal, plain⟩ := readDecimal?_iff.mp read
  exact (mayBeNumber_iff token).mpr ⟨plain, digit_of_decimalLiteral literal⟩

theorem ofToken_int : Expr.ofToken token = .int n ↔ readInteger? token.toList = some n := by
  rw [Expr.ofToken]
  cases readInteger? token.toList with
  | some m => simp
  | none => cases readDecimal? token.toList <;> simp

theorem ofToken_real : Expr.ofToken token = .real x ↔
    readInteger? token.toList = none ∧ readDecimal? token.toList = some x := by
  rw [Expr.ofToken]
  cases readInteger? token.toList with
  | some m => simp
  | none => cases readDecimal? token.toList <;> simp

theorem ofToken_symbol : Expr.ofToken token = .symbol token ↔
    readInteger? token.toList = none ∧ readDecimal? token.toList = none := by
  rw [Expr.ofToken]
  cases readInteger? token.toList with
  | some m => simp
  | none => cases readDecimal? token.toList <;> simp

theorem ofToken_unlikely (unlikely : ¬ MayBeNumber token) :
    Expr.ofToken token = .symbol token := by
  refine ofToken_symbol.mpr ⟨Option.eq_none_iff_forall_ne_some.mpr fun n read => ?_,
    Option.eq_none_iff_forall_ne_some.mpr fun x read => ?_⟩
  · exact unlikely (likely_of_readInteger? read)
  · exact unlikely (likely_of_readDecimal? read)

theorem readInteger?_none (noInteger : ∀ n, ¬ IntegerLiteral (trimmed token) n) :
    readInteger? token.toList = none :=
  Option.eq_none_iff_forall_ne_some.mpr fun n read => noInteger n (readInteger?_iff.mp read).1

theorem readDecimal?_none (noFloat : ∀ value, ¬ FloatLiteral (trimmed token) value) :
    readDecimal? token.toList = none :=
  Option.eq_none_iff_forall_ne_some.mpr fun x read =>
    noFloat (.real x) (.decimal (readDecimal?_iff.mp read).1)

theorem ofToken_tried (token : String) : Tried token (.ofToken token) := by
  by_cases likely : MayBeNumber token
  · cases integer : readInteger? token.toList with
    | some n =>
        have literal := (readInteger?_likely likely).mp integer
        obtain ⟨x, float⟩ := floatLiteral_of_integer literal
        rw [ofToken_int.mpr integer]
        exact .exact likely float literal
    | none =>
        have noInteger (n : Int) (literal : IntegerLiteral (trimmed token) n) : False := by
          rw [(readInteger?_likely likely).mpr literal] at integer
          cases integer
        cases decimal : readDecimal? token.toList with
        | some x =>
            have float := (readDecimal?_likely likely).mp ⟨x, rfl, decimal⟩
            rw [ofToken_real.mpr ⟨integer, decimal⟩]
            exact .inexact likely float noInteger
        | none =>
            have noFloat (value : Inexact) (literal : FloatLiteral (trimmed token) value) :
                False := by
              obtain ⟨x, -, read⟩ := (readDecimal?_likely likely).mpr literal
              rw [decimal] at read
              cases read
            rw [ofToken_symbol.mpr ⟨integer, decimal⟩]
            exact .neither likely noFloat noInteger
  · rw [ofToken_unlikely likely]
    exact .unlikely likely

theorem tried_iff {expr : Expr} : Tried token expr ↔ expr = .ofToken token := by
  constructor
  · intro tried
    cases tried with
    | unlikely unlikely => exact (ofToken_unlikely unlikely).symm
    | exact likely _ integer => exact (ofToken_int.mpr ((readInteger?_likely likely).mpr integer)).symm
    | fallback likely _ integer =>
        exact (ofToken_int.mpr ((readInteger?_likely likely).mpr integer)).symm
    | inexact likely float noInteger =>
        obtain ⟨x, same, read⟩ := (readDecimal?_likely likely).mpr float
        cases same
        exact (ofToken_real.mpr ⟨readInteger?_none noInteger, read⟩).symm
    | neither _ noFloat noInteger =>
        exact (ofToken_symbol.mpr ⟨readInteger?_none noInteger, readDecimal?_none noFloat⟩).symm
  · rintro rfl
    exact ofToken_tried token

theorem readInteger?_eq_none_iff :
    readInteger? token.toList = none ↔ ∀ n, ¬ SpellsInteger (trimmed token) n := by
  simp only [Option.eq_none_iff_forall_ne_some, ne_eq, readInteger?_spells]

theorem readDecimal?_float :
    (∃ x, value = .real x ∧ readDecimal? token.toList = some x) ↔
      MayBeNumber token ∧ FloatLiteral (trimmed token) value := by
  constructor
  · rintro ⟨x, rfl, read⟩
    have likely := likely_of_readDecimal? read
    exact ⟨likely, (readDecimal?_likely likely).mp ⟨x, rfl, read⟩⟩
  · rintro ⟨likely, float⟩
    exact (readDecimal?_likely likely).mpr float

end Tokens

/-- Every token is tried with one result, and this is what it is read as. It is an integer if and only
if it spells one in decimal digits, at most 4300 of them, and then this integer; it is a real number if
and only if it spells no integer, has a digit and no underscore, and is a float literal, and then the
value of the literal; and in every other case it is the symbol of that name. So the names of infinity
and NaN and all tokens with underscores are symbols. Every integer literal is a float literal, so that
a token that is no float is not found to be an integer afterwards. -/
theorem tokens_classified (token : String) :
    (∀ expr, Tried token expr ↔ expr = .ofToken token) ∧
    (∀ n, Expr.ofToken token = .int n ↔ SpellsInteger (trimmed token) n) ∧
    (∀ value, (∃ x, value = .real x ∧ Expr.ofToken token = .real x) ↔
      (∀ n, ¬ SpellsInteger (trimmed token) n) ∧ '_' ∉ token.toList ∧
        (∃ c ∈ token.toList, isAnyDigit c) ∧ FloatLiteral (trimmed token) value) ∧
    (Expr.ofToken token = .symbol token ↔
      (∀ n, ¬ SpellsInteger (trimmed token) n) ∧ ¬ ('_' ∉ token.toList ∧
        (∃ c ∈ token.toList, isAnyDigit c) ∧ ∃ value, FloatLiteral (trimmed token) value)) ∧
    (IsNumberName (trimmed token) ∨ '_' ∈ token.toList → Expr.ofToken token = .symbol token) ∧
    ∀ n, IntegerLiteral (trimmed token) n → ∃ x, FloatLiteral (trimmed token) (.real x) := by
  refine ⟨fun expr => tried_iff, fun n => ofToken_int.trans readInteger?_spells, fun value => ?_, ?_,
    fun other => ?_, fun n => floatLiteral_of_integer⟩
  · rw [← readInteger?_eq_none_iff, ← and_assoc (a := '_' ∉ token.toList)]
    change _ ↔ _ ∧ (MayBeNumber token ∧ FloatLiteral (trimmed token) value)
    rw [← readDecimal?_float]
    constructor
    · rintro ⟨x, rfl, named⟩
      obtain ⟨noInteger, read⟩ := ofToken_real.mp named
      exact ⟨noInteger, x, rfl, read⟩
    · rintro ⟨noInteger, x, rfl, read⟩
      exact ⟨x, rfl, ofToken_real.mpr ⟨noInteger, read⟩⟩
  · rw [ofToken_symbol, readInteger?_eq_none_iff]
    refine and_congr_right fun _ => ?_
    constructor
    · rintro none ⟨plain, digit, value, float⟩
      obtain ⟨x, -, read⟩ := readDecimal?_float.mpr ⟨⟨plain, digit⟩, float⟩
      rw [none] at read
      cases read
    · intro noFloat
      refine Option.eq_none_iff_forall_ne_some.mpr fun x read => ?_
      obtain ⟨⟨plain, digit⟩, float⟩ := readDecimal?_float.mp ⟨x, rfl, read⟩
      exact noFloat ⟨plain, digit, .real x, float⟩
  · apply ofToken_unlikely
    intro likely
    rcases other with named | bar
    · exact numberName_not_digit named ((mayBeNumber_iff token).mp likely).2
    · exact likely.1 bar

theorem tokens_classified_names :
    Expr.ofToken "-Infinity" = .symbol "-Infinity" ∧ Expr.ofToken "1_000" = .symbol "1_000" ∧
      Expr.ofToken " -٤2\n" = .int (-42) := by
  obtain ⟨-, -, -, -, named, -⟩ := tokens_classified "-Infinity"
  obtain ⟨-, -, -, -, barred, -⟩ := tokens_classified "1_000"
  obtain ⟨-, integer, -⟩ := tokens_classified " -٤2\n"
  have infinity : IsNumberName (trimmed "-Infinity") :=
    ⟨['-'], "Infinity".toList, true, .minus, by decide, .inr (.inl rfl)⟩
  have values : ['٤', '2'].map digitValue? = [4, 2].map some := by decide
  have spelled : SpellsInteger ['-', '٤', '2'] (-42) :=
    .written .minus values (by decide) (by decide)
  exact ⟨named (.inl infinity), barred (.inr (by decide)), (integer (-42)).mpr spelled⟩

end MiniLisp
