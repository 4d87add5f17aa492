import MiniLisp.Proofs.Tokens

/-!
Tokens found in one pass. A scan goes over a text once, from left to right, and what it has found at
the end are the tokens. They cut the text into parentheses, words that cannot be longer, and blanks,
which are left out.
-/

namespace MiniLisp

def setApart (mark : Char) (text : List Char) : List Char :=
  text.flatMap fun c => if c = mark then [' ', c, ' '] else [c]

theorem setApart_setApart (text : List Char) :
    setApart ')' (setApart '(' text) = spaceParentheses text := by
  induction text with
  | nil => rfl
  | cons c text ih =>
      have split : setApart ')' (setApart '(' (c :: text)) =
          setApart ')' (setApart '(' [c]) ++ setApart ')' (setApart '(' text) := by
        simp [setApart]
      rw [split, ih, spaceParentheses]
      by_cases isOpen : c = '('
      · subst isOpen
        rfl
      · by_cases isClose : c = ')'
        · subst isClose
          rfl
        · simp [setApart, isOpen, isClose]

/-- How far a scan has come: the tokens that it has found, newest first, and what the current word
has so far, reversed. -/
structure Scan where
  found : List (List Char)
  word : List Char

namespace Scan

def start : Scan := ⟨[], []⟩

def endWord (scan : Scan) : Scan :=
  if scan.word.isEmpty then scan else ⟨scan.word.reverse :: scan.found, []⟩

def step (scan : Scan) (c : Char) : Scan :=
  if c = '(' ∨ c = ')' then ⟨[c] :: scan.endWord.found, []⟩
  else if isBlank c then scan.endWord
  else { scan with word := c :: scan.word }

def tokens (scan : Scan) : List (List Char) := scan.endWord.found.reverse

variable (scan : Scan)

theorem tokens_eq : scan.tokens = scan.found.reverse ++ flush scan.word := by
  rw [tokens, endWord, flush]
  split
  · rw [List.append_nil]
  · rw [List.reverse_cons]

theorem step_parenthesis {c : Char} (parenthesis : c = '(' ∨ c = ')') :
    scan.step c = ⟨[c] :: scan.endWord.found, []⟩ := if_pos parenthesis

theorem step_blank {c : Char} (blank : isBlank c) :
    scan.step c = ⟨scan.endWord.found, []⟩ := by
  have other : ¬ (c = '(' ∨ c = ')') := by
    rintro (rfl | rfl)
    · exact absurd blank (by decide)
    · exact absurd blank (by decide)
  have ended : scan.endWord = ⟨scan.endWord.found, []⟩ := by
    rw [endWord]
    split
    · rename_i none
      rw [← List.isEmpty_iff.mp none]
    · rfl
  rw [step, if_neg other, if_pos blank, ← ended]

theorem step_visible {c : Char} (other : ¬ (c = '(' ∨ c = ')')) (visible : isBlank c = false) :
    scan.step c = { scan with word := c :: scan.word } := by
  rw [step, if_neg other, visible]
  rfl

theorem tokens_foldl (text : List Char) :
    (text.foldl step scan).tokens =
      scan.found.reverse ++ wordsFrom scan.word (spaceParentheses text) := by
  induction text generalizing scan with
  | nil => exact scan.tokens_eq
  | cons c text ih =>
      have ended : scan.endWord.found.reverse = scan.found.reverse ++ flush scan.word :=
        scan.tokens_eq
      rw [List.foldl_cons, ih]
      by_cases parenthesis : c = '(' ∨ c = ')'
      · rw [scan.step_parenthesis parenthesis, wordsFrom_parenthesis _ parenthesis,
          List.reverse_cons, ended, tokenWords, words]
        simp
      · by_cases blank : isBlank c
        · rw [scan.step_blank blank, wordsFrom_space _ blank, ended, List.append_assoc, tokenWords,
            words]
        · have visible : isBlank c = false := by simpa using blank
          rw [scan.step_visible parenthesis visible, wordsFrom_visible _ visible parenthesis]

end Scan

def scanned (text : List Char) : List (List Char) := (text.foldl Scan.step Scan.start).tokens

theorem scanned_eq (text : List Char) : scanned text = tokenWords text :=
  Scan.start.tokens_foldl text

/-- How a text is cut into tokens. A parenthesis is one, and so is a word of other characters that
nothing can be added to; blanks are left out. -/
inductive Munches : List Char → List (List Char) → Prop
  | done : Munches [] []
  | blank {c : Char} {rest : List Char} {tokens : List (List Char)} (blank : isBlank c)
      (others : Munches rest tokens) : Munches (c :: rest) tokens
  | parenthesis {c : Char} {rest : List Char} {tokens : List (List Char)}
      (parenthesis : c = '(' ∨ c = ')') (others : Munches rest tokens) :
      Munches (c :: rest) ([c] :: tokens)
  | word {word rest : List Char} {tokens : List (List Char)} (nonempty : word ≠ [])
      (plain : IsPlain word) (apart : Apart rest) (others : Munches rest tokens) :
      Munches (word ++ rest) (word :: tokens)

theorem tokenWords_of_munches {text : List Char} {tokens : List (List Char)}
    (munches : Munches text tokens) : tokenWords text = tokens := by
  induction munches with
  | done => rfl
  | blank blank _ ih => rw [tokenWords_blank blank, ih]
  | parenthesis parenthesis _ ih => rw [tokenWords_parenthesis parenthesis, ih]
  | word nonempty plain apart _ ih => rw [tokenWords_word nonempty plain apart, ih]

theorem exists_plain_apart (text : List Char) :
    ∃ word rest, text = word ++ rest ∧ IsPlain word ∧ Apart rest := by
  induction text with
  | nil => exact ⟨[], [], rfl, isPlain_nil, trivial⟩
  | cons c text ih =>
      by_cases apart : isBlank c ∨ c = '(' ∨ c = ')'
      · exact ⟨[], c :: text, rfl, isPlain_nil, apart⟩
      · obtain ⟨word, rest, rfl, plain, apart'⟩ := ih
        have single : IsPlain [c] := by
          intro d member
          rw [List.mem_singleton.mp member]
          simpa using apart
        exact ⟨c :: word, rest, rfl, isPlain_append single plain, apart'⟩

theorem munches_tokenWords (text : List Char) : Munches text (tokenWords text) := by
  obtain ⟨word, rest, rfl, plain, apart⟩ := exists_plain_apart text
  by_cases nonempty : word = []
  · subst nonempty
    cases rest with
    | nil => exact .done
    | cons c rest =>
        rcases apart with blank | parenthesis
        · rw [List.nil_append, tokenWords_blank blank]
          exact .blank blank (munches_tokenWords rest)
        · rw [List.nil_append, tokenWords_parenthesis parenthesis]
          exact .parenthesis parenthesis (munches_tokenWords rest)
  · have shorter : 0 < word.length := List.length_pos_of_ne_nil nonempty
    rw [tokenWords_word nonempty plain apart]
    exact .word nonempty plain apart (munches_tokenWords rest)
termination_by text.length
decreasing_by all_goals (subst_vars; simp; try omega)

theorem munches_iff {text : List Char} {tokens : List (List Char)} :
    Munches text tokens ↔ tokenWords text = tokens := by
  refine ⟨tokenWords_of_munches, ?_⟩
  rintro rfl
  exact munches_tokenWords text

theorem flatten_tokenWords (text : List Char) :
    (tokenWords text).flatten = text.filter fun c => !isBlank c := by
  have munches := munches_tokenWords text
  generalize tokenWords text = tokens at munches
  induction munches with
  | done => rfl
  | blank blank _ ih => rw [ih, List.filter_cons_of_neg (by simp [blank])]
  | @parenthesis c _ _ parenthesis _ ih =>
      have visible : isBlank c = false := by
        rcases parenthesis with rfl | rfl
        · rfl
        · rfl
      rw [List.flatten_cons, ih, List.filter_cons_of_pos (by simp [visible]), List.singleton_append]
  | @word word _ _ _ plain _ _ ih =>
      have kept : (word.filter fun c => !isBlank c) = word := by
        rw [List.filter_eq_self]
        intro c member
        simp [(plain c member).1]
      rw [List.flatten_cons, ih, List.filter_append, kept]

theorem tokenWords_append_of_last {text : List Char} (apart : Apart text.reverse)
    (rest : List Char) : tokenWords (text ++ rest) = tokenWords text ++ tokenWords rest := by
  rcases List.eq_nil_or_concat text with rfl | ⟨front, last, rfl⟩
  · rfl
  · have breaks : isBlank last ∨ last = '(' ∨ last = ')' := by
      rw [List.concat_eq_append, List.reverse_append] at apart
      exact apart
    have single : tokenWords (last :: rest) = tokenWords [last] ++ tokenWords rest := by
      rcases breaks with blank | parenthesis
      · rw [tokenWords_blank blank, tokenWords_blank blank]
        rfl
      · rw [tokenWords_parenthesis parenthesis, tokenWords_parenthesis parenthesis]
        rfl
    have behind (after : List Char) : Apart (last :: after) := breaks
    rw [List.concat_eq_append, List.append_assoc, List.singleton_append,
      tokenWords_append front (behind rest), tokenWords_append front (behind []), single,
      List.append_assoc]

theorem tokenWords_token {word : List Char} (token : IsTokenWord word) :
    tokenWords word = [word] := by
  rcases token with rfl | rfl | ⟨nonempty, plain⟩
  · rfl
  · rfl
  · have apart : Apart [] := trivial
    have single := tokenWords_word nonempty plain apart
    rwa [List.append_nil] at single

theorem tokenWords_intercalate {tokens : List String}
    (each : ∀ token ∈ tokens, IsTokenWord token.toList) :
    tokenWords (" ".intercalate tokens).toList = tokens.map String.toList := by
  induction tokens with
  | nil => rfl
  | cons token others ih =>
      obtain ⟨first, rest⟩ := List.forall_mem_cons.mp each
      cases others with
      | nil => simpa using tokenWords_token first
      | cons second others =>
          have blank : isBlank ' ' := by decide
          have apart : Apart (' ' :: (" ".intercalate (second :: others)).toList) := .inl blank
          have split : (" ".intercalate (token :: second :: others)).toList =
              token.toList ++ ' ' :: (" ".intercalate (second :: others)).toList := by
            simp [String.intercalate_cons_cons]
          rw [split, tokenWords_append token.toList apart, tokenWords_token first,
            tokenWords_blank blank, ih rest]
          rfl

theorem map_toList_map (tokens : List (List Char)) :
    (tokens.map String.ofList).map String.toList = tokens := by
  simp [Function.comp_def]

/-- The tokens of a line are what its words come to when one parenthesis after the other has been set
apart, and also what one pass over the line finds. They are the only way to cut the line into
parentheses, words that cannot be longer, and blanks; so nothing but blanks is left out, a longest
word is a token wherever it stands, lines can be put together where a blank or a parenthesis stands on
either side, and tokens with blanks between them are found again. -/
theorem tokenize_scans :
    (∀ line, tokenize line =
      (words (setApart ')' (setApart '(' line.toList))).map String.ofList) ∧
    (∀ line, tokenize line = (scanned line.toList).map String.ofList) ∧
    (∀ line tokens, tokenize line = tokens ↔ Munches line.toList (tokens.map String.toList)) ∧
    (∀ line, String.join (tokenize line) =
      String.ofList (line.toList.filter fun c => !isBlank c)) ∧
    (∀ before word after : String, Apart before.toList.reverse → word ≠ "" →
      IsPlain word.toList → Apart after.toList →
      tokenize (before ++ word ++ after) = tokenize before ++ word :: tokenize after) ∧
    (∀ first second : String, Apart first.toList.reverse ∨ Apart second.toList →
      tokenize (first ++ second) = tokenize first ++ tokenize second) ∧
    (∀ tokens : List String, (∀ token ∈ tokens, IsTokenWord token.toList) →
      tokenize (" ".intercalate tokens) = tokens) := by
  refine ⟨fun line => ?_, fun line => ?_, fun line tokens => ?_, fun line => ?_, ?_, ?_, ?_⟩
  · rw [setApart_setApart]
    rfl
  · rw [scanned_eq]
    rfl
  · rw [munches_iff, tokenize_eq]
    constructor
    · rintro rfl
      exact (map_toList_map _).symm
    · intro same
      rw [same]
      simp [Function.comp_def]
  · rw [← String.toList_inj, String.toList_join, String.toList_ofList, ← flatten_tokenWords,
      tokenize_eq, List.flatMap_map]
    simp [List.flatMap_def]
  · intro before word after apartBefore nonempty plain apart
    have some_character : word.toList ≠ [] := by simpa using nonempty
    rw [tokenize_eq, String.toList_append, String.toList_append, List.append_assoc,
      tokenWords_append_of_last apartBefore, tokenWords_word some_character plain apart,
      List.map_append, List.map_cons, String.ofList_toList]
    rfl
  · intro first second apart
    rw [tokenize_eq, String.toList_append, tokenize_eq, tokenize_eq, ← List.map_append]
    rcases apart with last | next
    · rw [tokenWords_append_of_last last]
    · rw [tokenWords_append _ next]
  · intro tokens each
    rw [tokenize_eq, tokenWords_intercalate each]
    simp [Function.comp_def]

theorem tokenize_scans_glued :
    tokenize ("((" ++ "list?" ++ ")'") = tokenize "((" ++ "list?" :: tokenize ")'" ∧
      tokenize ("a " ++ "b") = tokenize "a " ++ tokenize "b" ∧
      tokenize (" ".intercalate ["(", "λ", ")"]) = ["(", "λ", ")"] := by
  obtain ⟨-, -, -, -, longest, together, again⟩ := tokenize_scans
  have each : ∀ token ∈ ["(", "λ", ")"], IsTokenWord token.toList := by
    simp only [List.forall_mem_cons]
    exact ⟨.inl rfl, .inr (.inr ⟨by decide, by decide⟩), .inr (.inl rfl), nofun⟩
  have apartBefore : Apart "((".toList.reverse := .inr (.inl rfl)
  have apartAfter : Apart ")'".toList := .inr (.inr rfl)
  have last : Apart "a ".toList.reverse := .inl (by decide)
  exact ⟨longest "((" "list?" ")'" apartBefore (by decide) (by decide) apartAfter,
    together "a " "b" (.inl last), again _ each⟩

end MiniLisp
