import MiniLisp.Proofs.Numerals
import MiniLisp.Token

namespace MiniLisp

def tokenWords (text : List Char) : List (List Char) := words (spaceParentheses text)

theorem tokenize_eq (line : String) :
    tokenize line = (tokenWords line.toList).map String.ofList := rfl

theorem spaceParentheses_plain {word : List Char} (plain : IsPlain word) (rest : List Char) :
    spaceParentheses (word ++ rest) = word ++ spaceParentheses rest := by
  induction word with
  | nil => rfl
  | cons c word ih =>
      obtain ⟨-, notOpen, notClose⟩ := plain c List.mem_cons_self
      have others : IsPlain word := fun d member => plain d (List.mem_cons_of_mem _ member)
      simp [spaceParentheses, notOpen, notClose, ih others]

theorem wordsFrom_plain {word : List Char} (plain : IsPlain word) (start rest : List Char) :
    wordsFrom start (word ++ rest) = wordsFrom (word.reverse ++ start) rest := by
  induction word generalizing start with
  | nil => rfl
  | cons c word ih =>
      obtain ⟨visible, -, -⟩ := plain c List.mem_cons_self
      have others : IsPlain word := fun d member => plain d (List.mem_cons_of_mem _ member)
      simp [wordsFrom, visible, ih others]

def flush (start : List Char) : List (List Char) := if start.isEmpty then [] else [start.reverse]

theorem wordsFrom_nil (start : List Char) : wordsFrom start [] = flush start := rfl

theorem wordsFrom_blank (start : List Char) {c : Char} (blank : isBlank c) (rest : List Char) :
    wordsFrom start (c :: rest) = flush start ++ wordsFrom [] rest := by
  rw [wordsFrom, if_pos blank, flush]
  split
  · rfl
  · rfl

theorem wordsFrom_space (start : List Char) {c : Char} (blank : isBlank c) (rest : List Char) :
    wordsFrom start (spaceParentheses (c :: rest)) = flush start ++ tokenWords rest := by
  have notParenthesis : ¬ (c = '(' || c = ')') := by
    rw [Bool.or_eq_true, decide_eq_true_eq, decide_eq_true_eq]
    intro parenthesis
    rcases parenthesis with rfl | rfl
    · exact absurd blank (by decide)
    · exact absurd blank (by decide)
  rw [spaceParentheses, if_neg notParenthesis, wordsFrom_blank _ blank, tokenWords, words]

theorem wordsFrom_parenthesis (start : List Char) {c : Char} (parenthesis : c = '(' ∨ c = ')')
    (rest : List Char) :
    wordsFrom start (spaceParentheses (c :: rest)) = flush start ++ [c] :: tokenWords rest := by
  have spaced : spaceParentheses (c :: rest) = ' ' :: c :: ' ' :: spaceParentheses rest := by
    rcases parenthesis with rfl | rfl
    · rfl
    · rfl
  rw [spaced, wordsFrom_blank _ (by decide)]
  rcases parenthesis with rfl | rfl
  · rfl
  · rfl

/-- A text that the word before it does not run into. -/
def Apart : List Char → Prop
  | [] => True
  | c :: _ => isBlank c ∨ c = '(' ∨ c = ')'

theorem tokenWords_blank {c : Char} (blank : isBlank c) (rest : List Char) :
    tokenWords (c :: rest) = tokenWords rest := wordsFrom_space [] blank rest

theorem tokenWords_parenthesis {c : Char} (parenthesis : c = '(' ∨ c = ')') (rest : List Char) :
    tokenWords (c :: rest) = [c] :: tokenWords rest := wordsFrom_parenthesis [] parenthesis rest

theorem wordsFrom_apart (start : List Char) {rest : List Char} (apart : Apart rest) :
    wordsFrom start (spaceParentheses rest) = flush start ++ tokenWords rest := by
  cases rest with
  | nil => simp [tokenWords, words, spaceParentheses, wordsFrom_nil, flush]
  | cons c rest =>
      rcases apart with blank | parenthesis
      · rw [wordsFrom_space _ blank, tokenWords_blank blank]
      · rw [wordsFrom_parenthesis _ parenthesis, tokenWords_parenthesis parenthesis]

theorem tokenWords_word {word rest : List Char} (nonempty : word ≠ []) (plain : IsPlain word)
    (apart : Apart rest) : tokenWords (word ++ rest) = word :: tokenWords rest := by
  have flushed : flush (word.reverse ++ []) = [word] := by simp [flush, nonempty]
  rw [tokenWords, words, spaceParentheses_plain plain, wordsFrom_plain plain,
    wordsFrom_apart _ apart, flushed, List.singleton_append]

theorem wordsFrom_visible (start : List Char) {c : Char} (visible : isBlank c = false)
    (notParenthesis : ¬ (c = '(' ∨ c = ')')) (rest : List Char) :
    wordsFrom start (spaceParentheses (c :: rest)) =
      wordsFrom (c :: start) (spaceParentheses rest) := by
  simp [spaceParentheses, notParenthesis, wordsFrom, visible]

theorem wordsFrom_append {rest : List Char} (apart : Apart rest) (start text : List Char) :
    wordsFrom start (spaceParentheses (text ++ rest)) =
      wordsFrom start (spaceParentheses text) ++ tokenWords rest := by
  induction text generalizing start with
  | nil => exact wordsFrom_apart start apart
  | cons c text ih =>
      have behind : tokenWords (text ++ rest) = tokenWords text ++ tokenWords rest := ih []
      rw [List.cons_append]
      by_cases blank : isBlank c
      · rw [wordsFrom_space _ blank, wordsFrom_space _ blank, behind, List.append_assoc]
      · by_cases parenthesis : c = '(' ∨ c = ')'
        · rw [wordsFrom_parenthesis _ parenthesis, wordsFrom_parenthesis _ parenthesis, behind,
            List.append_assoc, List.cons_append]
        · have visible : isBlank c = false := by simpa using blank
          rw [wordsFrom_visible _ visible parenthesis, wordsFrom_visible _ visible parenthesis, ih]

theorem tokenWords_append (text : List Char) {rest : List Char} (apart : Apart rest) :
    tokenWords (text ++ rest) = tokenWords text ++ tokenWords rest :=
  wordsFrom_append apart [] text

/-- The second row of words goes on where the first one ends, perhaps inside of its last word. -/
def GrowsInto (words words' : List (List Char)) : Prop :=
  ∀ front word others, words = front ++ word :: others →
    ∃ word' others', words' = front ++ word' :: others' ∧ word <+: word'

theorem GrowsInto.cons {words words' : List (List Char)} (grows : GrowsInto words words')
    (first : List Char) : GrowsInto (first :: words) (first :: words') := by
  intro front word others split
  cases front with
  | nil =>
      have same : first = word := (List.cons.inj split).1
      exact ⟨first, words', rfl, same ▸ List.prefix_rfl⟩
  | cons first' front =>
      have parts : first = first' ∧ words = front ++ word :: others := List.cons.inj split
      obtain ⟨word', others', grown, extends'⟩ := grows front word others parts.2
      exact ⟨word', others', by simp [parts.1, grown], extends'⟩

theorem GrowsInto.append {words words' : List (List Char)} (grows : GrowsInto words words')
    (first : List (List Char)) : GrowsInto (first ++ words) (first ++ words') := by
  induction first with
  | nil => exact grows
  | cons word first ih => exact ih.cons word

theorem growsInto_started {start : List Char} (nonempty : start ≠ []) (text : List Char) :
    GrowsInto [start.reverse] (wordsFrom start (spaceParentheses text)) := by
  suffices started : ∃ word others, wordsFrom start (spaceParentheses text) = word :: others ∧
      start.reverse <+: word by
    obtain ⟨word, others, same, grown⟩ := started
    intro front begun rest split
    cases front with
    | nil => exact ⟨word, others, same, (List.cons.inj split).1 ▸ grown⟩
    | cons => simp at split
  have flushed : flush start = [start.reverse] := by simp [flush, nonempty]
  induction text generalizing start with
  | nil => exact ⟨start.reverse, [], flushed, List.prefix_rfl⟩
  | cons c text ih =>
      by_cases blank : isBlank c
      · rw [wordsFrom_space _ blank, flushed]
        exact ⟨start.reverse, tokenWords text, rfl, List.prefix_rfl⟩
      · by_cases parenthesis : c = '(' ∨ c = ')'
        · rw [wordsFrom_parenthesis _ parenthesis, flushed]
          exact ⟨start.reverse, [c] :: tokenWords text, rfl, List.prefix_rfl⟩
        · have visible : isBlank c = false := by simpa using blank
          rw [wordsFrom_visible _ visible parenthesis]
          obtain ⟨word, others, same, grown⟩ := ih (List.cons_ne_nil c start) (by simp [flush])
          rw [List.reverse_cons] at grown
          exact ⟨word, others, same, (List.prefix_append _ _).trans grown⟩

theorem growsInto_wordsFrom (start text more : List Char) :
    GrowsInto (wordsFrom start (spaceParentheses text))
      (wordsFrom start (spaceParentheses (text ++ more))) := by
  induction text generalizing start with
  | nil =>
      by_cases empty : start = []
      · intro front word others split
        simp [empty, spaceParentheses, wordsFrom_nil, flush] at split
      · have flushed : wordsFrom start [] = [start.reverse] := by
          simp [wordsFrom_nil, flush, empty]
        rw [spaceParentheses, flushed]
        exact growsInto_started empty more
  | cons c text ih =>
      rw [List.cons_append]
      by_cases blank : isBlank c
      · rw [wordsFrom_space _ blank, wordsFrom_space _ blank]
        exact (ih []).append (flush start)
      · by_cases parenthesis : c = '(' ∨ c = ')'
        · rw [wordsFrom_parenthesis _ parenthesis, wordsFrom_parenthesis _ parenthesis]
          exact ((ih []).cons [c]).append (flush start)
        · have visible : isBlank c = false := by simpa using blank
          rw [wordsFrom_visible _ visible parenthesis, wordsFrom_visible _ visible parenthesis]
          exact ih (c :: start)

/-- Whatever is added to a text, its tokens stay, but that the last one may grow longer. -/
theorem growsInto_tokenWords (text more : List Char) :
    GrowsInto (tokenWords text) (tokenWords (text ++ more)) :=
  growsInto_wordsFrom [] text more

theorem tokenWords_eq_nil {text : List Char} :
    tokenWords text = [] ↔ ∀ c ∈ text, isBlank c = true := by
  induction text with
  | nil => simp [tokenWords, words, spaceParentheses, wordsFrom]
  | cons c text ih =>
      rw [List.forall_mem_cons]
      by_cases blank : isBlank c
      · rw [tokenWords_blank blank, ih]
        simp [blank]
      · refine iff_of_false (fun none => ?_) fun all => blank all.1
        by_cases parenthesis : c = '(' ∨ c = ')'
        · simp [tokenWords_parenthesis parenthesis] at none
        · have visible : isBlank c = false := by simpa using blank
          rw [tokenWords, words, wordsFrom_visible _ visible parenthesis] at none
          obtain ⟨word, others, same, -⟩ :=
            growsInto_started (List.cons_ne_nil c []) text [] [c] [] rfl
          simp [same] at none

theorem isBlankLine_iff (line : String) : isBlankLine line = true ↔ tokenize line = [] := by
  rw [isBlankLine, List.all_eq_true, tokenize_eq, List.map_eq_nil_iff, tokenWords_eq_nil]

theorem tokenize_append_blank (line : String) {more : String} (blank : isBlankLine more = true) :
    tokenize (line ++ more) = tokenize line := by
  have none : tokenWords more.toList = [] := by
    rw [isBlankLine, List.all_eq_true] at blank
    exact tokenWords_eq_nil.mpr blank
  have apart : Apart more.toList := by
    rw [isBlankLine] at blank
    cases chars : more.toList with
    | nil => trivial
    | cons c rest =>
        rw [chars, List.all_cons, Bool.and_eq_true] at blank
        exact .inl blank.1
  rw [tokenize_eq, tokenize_eq, String.toList_append, tokenWords_append _ apart, none,
    List.append_nil]

def IsTokenWord (word : List Char) : Prop :=
  word = ['('] ∨ word = [')'] ∨ word ≠ [] ∧ IsPlain word

theorem isTokenWord_flush {start : List Char} (plain : IsPlain start) :
    ∀ word ∈ flush start, IsTokenWord word := by
  intro word member
  rw [flush] at member
  split at member
  · cases member
  · rename_i nonempty
    rw [List.mem_singleton.mp member]
    refine .inr (.inr ⟨by simpa using nonempty, fun c inside => plain c (List.mem_reverse.mp inside)⟩)

theorem isTokenWord_wordsFrom {start : List Char} (plain : IsPlain start) (text : List Char) :
    ∀ word ∈ wordsFrom start (spaceParentheses text), IsTokenWord word := by
  induction text generalizing start with
  | nil => exact isTokenWord_flush plain
  | cons c rest ih =>
      intro word member
      by_cases blank : isBlank c
      · rw [wordsFrom_space _ blank] at member
        rcases List.mem_append.mp member with member | member
        · exact isTokenWord_flush plain word member
        · exact ih isPlain_nil word member
      · by_cases parenthesis : c = '(' ∨ c = ')'
        · rw [wordsFrom_parenthesis _ parenthesis] at member
          rcases List.mem_append.mp member with member | member
          · exact isTokenWord_flush plain word member
          · rcases List.mem_cons.mp member with rfl | member
            · rcases parenthesis with rfl | rfl
              · exact .inl rfl
              · exact .inr (.inl rfl)
            · exact ih isPlain_nil word member
        · have visible : isBlank c = false := by simpa using blank
          have whole : IsPlain (c :: start) := by
            intro d member
            rcases List.mem_cons.mp member with rfl | member
            · exact ⟨visible, not_or.mp parenthesis⟩
            · exact plain d member
          rw [wordsFrom_visible _ visible parenthesis] at member
          exact ih whole word member

theorem isTokenWord_tokenize {line token : String} (member : token ∈ tokenize line) :
    IsTokenWord token.toList := by
  obtain ⟨word, present, rfl⟩ := List.mem_map.mp member
  rw [String.toList_ofList]
  exact isTokenWord_wordsFrom isPlain_nil line.toList word present

end MiniLisp
