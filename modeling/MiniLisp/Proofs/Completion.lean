import MiniLisp.Proofs.DepthLimit
import MiniLisp.Proofs.Grammar
import MiniLisp.Proofs.Tokens

namespace MiniLisp

theorem parse_wide {depth : Nat} {line : String} {result : Except Failure Expr}
    (read : parse depth line = result) (uncut : result ≠ .error .depthExceeded) :
    parse (max depth (tokenize line).length) line = result := by
  have covers := parse_covers line (Nat.le_max_left depth (tokenize line).length)
  rcases covers.same_or_cut with same | cut
  · exact same.symm.trans read
  · exact absurd (read.symm.trans cut) uncut

section Wide

variable {line token : String} {taken rest : List String} {expr : Expr} {width : Nat}

theorem parse_spells (spelled : Spells (tokenize line) expr)
    (enough : (tokenize line).length ≤ width) : parse width line = .ok expr := by
  have shallow := height_le_length spelled
  have read := readOpen_spells spelled [] [] width (by omega)
  rw [List.append_nil] at read
  rw [parse, read, resume]

theorem parse_followed (parts : tokenize line = taken ++ token :: rest)
    (spelled : Spells taken expr) (enough : (tokenize line).length ≤ width) :
    parse width line =
      .error (.unreadable (if token = closeToken then .unexpectedClose else .trailingInput)) := by
  have shallow := height_le_length spelled
  rw [parts, List.length_append] at enough
  rw [parse, parts, readOpen_spells spelled _ [] width (by omega), resume]

theorem parse_stray (parts : tokenize line = closeToken :: rest) :
    parse width line = .error (.unreadable .unexpectedClose) := by
  rw [parse, parts, readOpen_stray]

theorem parse_cutOff (ended : CutOff (tokenize line)) (enough : (tokenize line).length ≤ width) :
    parse width line = .error (.unreadable .unexpectedEnd) := by
  rw [parse, readOpen_cutOff ended [] width enough]

end Wide

def StartsComplete (tokens : List String) : Prop :=
  ∃ taken expr, taken <+: tokens ∧ Spells taken expr

/-- The token stands right behind an expression that the tokens begin with. -/
def FollowedBy (tokens : List String) (token : String) : Prop :=
  ∃ taken rest expr, tokens = taken ++ token :: rest ∧ Spells taken expr

inductive Unread (tokens : List String) : SyntaxError → Prop
  | cutOff (ended : CutOff tokens) : Unread tokens .unexpectedEnd
  | stray (first : tokens.head? = some closeToken) : Unread tokens .unexpectedClose
  | closed (behind : FollowedBy tokens closeToken) : Unread tokens .unexpectedClose
  | trailing {token : String} (other : token ≠ closeToken) (behind : FollowedBy tokens token) :
      Unread tokens .trailingInput

section Lines

variable {depth : Nat} {line : String} {failure : Failure} {expr : Expr}

theorem parse_unread {width : Nat} {reason : SyntaxError} (unread : Unread (tokenize line) reason)
    (enough : (tokenize line).length ≤ width) :
    parse width line = .error (.unreadable reason) := by
  cases unread with
  | cutOff ended => exact parse_cutOff ended enough
  | stray first =>
      obtain ⟨rest, parts⟩ := List.head?_eq_some_iff.mp first
      exact parse_stray parts
  | closed behind =>
      obtain ⟨taken, rest, expr, parts, spelled⟩ := behind
      rw [parse_followed parts spelled enough, if_pos rfl]
  | trailing other behind =>
      obtain ⟨taken, rest, expr, parts, spelled⟩ := behind
      rw [parse_followed parts spelled enough, if_neg other]

theorem Unread.unique {reason reason' : SyntaxError} (first : Unread (tokenize line) reason)
    (second : Unread (tokenize line) reason') : reason = reason' := by
  have same := (parse_unread first (Nat.le_refl _)).symm.trans (parse_unread second (Nat.le_refl _))
  simpa using same

theorem unread_of_parse (failed : parse depth line = .error failure)
    (uncut : failure ≠ .depthExceeded) :
    ∃ reason, failure = .unreadable reason ∧ Unread (tokenize line) reason := by
  have wide := parse_wide failed (by simpa using uncut)
  have enough : (tokenize line).length ≤ max depth (tokenize line).length := Nat.le_max_right _ _
  rcases opening (tokenize line) with @⟨taken, rest, whole, parts, spelled⟩ | ⟨parts⟩ | ⟨ended⟩
  · cases rest with
    | nil =>
        rw [List.append_nil] at parts
        rw [parse_spells (parts ▸ spelled) enough] at wide
        cases wide
    | cons token rest =>
        have behind : FollowedBy (tokenize line) token := ⟨taken, rest, whole, parts, spelled⟩
        rw [parse_followed parts spelled enough] at wide
        by_cases close : token = closeToken
        · rw [if_pos close] at wide
          cases wide
          exact ⟨_, rfl, .closed (close ▸ behind)⟩
        · rw [if_neg close] at wide
          cases wide
          exact ⟨_, rfl, .trailing close behind⟩
  · rw [parse_stray parts] at wide
    cases wide
    exact ⟨_, rfl, .stray (by simp [parts])⟩
  · rw [parse_cutOff ended enough] at wide
    cases wide
    exact ⟨_, rfl, .cutOff ended⟩

theorem spells_of_parse (read : parse depth line = .ok expr) : Spells (tokenize line) expr := by
  have wide := parse_wide read (by simp)
  have enough : (tokenize line).length ≤ max depth (tokenize line).length := Nat.le_max_right _ _
  rcases opening (tokenize line) with @⟨taken, rest, whole, parts, spelled⟩ | ⟨parts⟩ | ⟨ended⟩
  · cases rest with
    | nil =>
        rw [List.append_nil] at parts
        rw [← parts] at spelled
        rw [parse_spells spelled enough] at wide
        cases wide
        exact spelled
    | cons token rest =>
        rw [parse_followed parts spelled enough] at wide
        cases wide
  · rw [parse_stray parts] at wide
    cases wide
  · rw [parse_cutOff ended enough] at wide
    cases wide

end Lines

section Continuations

variable {line more : String} {front rest : List String} {token : String}

theorem tokenize_append_grows (parts : tokenize line = front ++ token :: rest) (more : String) :
    ∃ token' rest', tokenize (line ++ more) = front ++ token' :: rest' ∧
      token.toList <+: token'.toList := by
  rw [tokenize_eq] at parts
  obtain ⟨before, behind, split, rfl, tail⟩ := List.map_eq_append_iff.mp parts
  obtain ⟨word, others, rfl, rfl, -⟩ := List.map_eq_cons_iff.mp tail
  obtain ⟨word', others', grown, longer⟩ :=
    growsInto_tokenWords line.toList more.toList before word others split
  refine ⟨String.ofList word', others'.map String.ofList, ?_, by simpa using longer⟩
  rw [tokenize_eq, String.toList_append, grown, List.map_append, List.map_cons]

variable {expr : Expr}

theorem not_spells_of_stray (first : (tokenize line).head? = some closeToken) (more : String) :
    ¬ Spells (tokenize (line ++ more)) expr := by
  intro whole
  obtain ⟨rest, parts⟩ := List.head?_eq_some_iff.mp first
  have start : tokenize line = [] ++ closeToken :: rest := parts
  obtain ⟨token, rest', parts', longer⟩ := tokenize_append_grows start more
  have among : token ∈ tokenize (line ++ more) := by simp [parts']
  have close : ')' ∈ token.toList := longer.subset (by decide)
  have same : token = closeToken := by
    rcases isTokenWord_tokenize among with same | same | ⟨-, plain⟩
    · rw [same] at close
      exact absurd close (by decide)
    · exact String.toList_inj.mp same
    · exact absurd rfl (plain ')' close).2.2
  have strayed : tokenize (line ++ more) ++ [] = closeToken :: rest' := by simp [parts', same]
  exact not_stray_of_spells whole strayed

theorem not_spells_of_followedBy (behind : FollowedBy (tokenize line) token) (more : String) :
    ¬ Spells (tokenize (line ++ more)) expr := by
  intro whole
  obtain ⟨taken, rest, expr', parts, spelled⟩ := behind
  obtain ⟨token', rest', parts', -⟩ := tokenize_append_grows parts more
  have both : tokenize (line ++ more) ++ [] = taken ++ token' :: rest' := by simp [parts']
  have only := (spells_unique whole spelled both).1
  rw [only] at both
  simp at both

/-- No text mends a line that does not end too soon. -/
theorem unread_append {reason : SyntaxError} (unread : Unread (tokenize line) reason)
    (hopeless : reason ≠ .unexpectedEnd) (more : String) (limit : Nat) (expr : Expr) :
    parse limit (line ++ more) ≠ .ok expr := by
  intro read
  have whole := spells_of_parse read
  cases unread with
  | cutOff => exact hopeless rfl
  | stray first => exact not_spells_of_stray first more whole
  | closed behind => exact not_spells_of_followedBy behind more whole
  | trailing other behind => exact not_spells_of_followedBy behind more whole

end Continuations

/-- What becomes of reading when tokens are used up: which lists are open then, and that reading goes
on with these. -/
structure Suspends (tokens : List String) (openLists : OpenLists) (room : Nat)
    (pending : OpenLists) (left : Nat) : Prop where
  balance : pending.length + tokens.count closeToken = openLists.length + tokens.count openToken
  unfinished : tokens ≠ [] ∨ openLists ≠ [] → pending ≠ []
  resumes : ∀ more, readOpen (tokens ++ more) openLists room = readOpen more pending left

section Suspends

variable {token : String} {rest : List String} {items outer : List Expr}
  {openLists pending : OpenLists} {room left : Nat}

theorem Suspends.nil (openLists : OpenLists) (room : Nat) :
    Suspends [] openLists room openLists room where
  balance := by simp
  unfinished := by simp
  resumes := fun _ => rfl

theorem Suspends.open (suspends : Suspends rest ([] :: openLists) room pending left) :
    Suspends (openToken :: rest) openLists (room + 1) pending left where
  balance := by
    have balance := suspends.balance
    have apart : (openToken == closeToken) = false := by decide
    simp only [List.count_cons, apart, beq_self_eq_true, List.length_cons, if_true,
      Bool.false_eq_true, if_false] at balance ⊢
    omega
  unfinished := fun _ => suspends.unfinished (.inr (by simp))
  resumes := by
    intro more
    rw [List.cons_append, readOpen_open, suspends.resumes]

theorem Suspends.close
    (suspends : Suspends rest ((.list items.reverse :: outer) :: openLists) (room + 1) pending left) :
    Suspends (closeToken :: rest) (items :: outer :: openLists) room pending left where
  balance := by
    have balance := suspends.balance
    have apart : (closeToken == openToken) = false := by decide
    simp only [List.count_cons, apart, beq_self_eq_true, List.length_cons, if_true,
      Bool.false_eq_true, if_false] at balance ⊢
    omega
  unfinished := fun _ => suspends.unfinished (.inr (by simp))
  resumes := by
    intro more
    rw [List.cons_append, readOpen_close, resume_inside, suspends.resumes]

theorem Suspends.atom (notOpen : token ≠ openToken) (notClose : token ≠ closeToken)
    (suspends : Suspends rest ((.ofToken token :: items) :: openLists) room pending left) :
    Suspends (token :: rest) (items :: openLists) room pending left where
  balance := by
    have balance := suspends.balance
    simp only [List.count_cons, beq_eq_false_iff_ne.mpr notOpen, beq_eq_false_iff_ne.mpr notClose,
      List.length_cons, Bool.false_eq_true, if_false] at balance ⊢
    omega
  unfinished := fun _ => suspends.unfinished (.inr (by simp))
  resumes := by
    intro more
    rw [List.cons_append, readOpen_atom notOpen notClose, resume_inside, suspends.resumes]

end Suspends

theorem readOpen_suspends {tokens rest : List String} {openLists : OpenLists} {room : Nat}
    (ended : readOpen tokens openLists room = (.error (.unreadable .unexpectedEnd), rest)) :
    ∃ pending left, Suspends tokens openLists room pending left := by
  fun_induction readOpen tokens openLists room with
  | case1 openLists room => exact ⟨openLists, room, .nil openLists room⟩
  | case2 | case4 | case5 | case7 => cases ended
  | case3 rest openLists room ih =>
      obtain ⟨pending, left, suspends⟩ := ih ended
      exact ⟨pending, left, suspends.open⟩
  | case6 rest room items outer outermost _ ih =>
      obtain ⟨pending, left, suspends⟩ := ih ended
      exact ⟨pending, left, suspends.close⟩
  | case8 token rest room notOpen notClose items outer ih =>
      obtain ⟨pending, left, suspends⟩ := ih ended
      exact ⟨pending, left, suspends.atom notOpen notClose⟩

def closings (count : Nat) : String := String.ofList (List.replicate count ')')

theorem tokenWords_replicate (count : Nat) :
    tokenWords (List.replicate count ')') = List.replicate count [')'] := by
  induction count with
  | zero => rfl
  | succ count ih =>
      rw [List.replicate_succ, tokenWords_parenthesis (.inr rfl), ih, List.replicate_succ]

theorem tokenize_closings (line : String) (count : Nat) :
    tokenize (line ++ closings count) = tokenize line ++ List.replicate count closeToken := by
  have apart : Apart (List.replicate count ')') := by
    cases count with
    | zero => trivial
    | succ => exact .inr (.inr rfl)
  rw [tokenize_eq, String.toList_append, closings, String.toList_ofList,
    tokenWords_append _ apart, tokenWords_replicate, List.map_append, List.map_replicate]
  rfl

theorem readOpen_closings {openLists : OpenLists} {count : Nat} (room : Nat)
    (few : count < openLists.length) :
    readOpen (List.replicate count closeToken) openLists room =
      (.error (.unreadable .unexpectedEnd), []) := by
  induction count generalizing openLists room with
  | zero => rfl
  | succ count ih =>
      rcases openLists with _ | ⟨items, _ | ⟨outer, outermost⟩⟩
      · simp at few
      · simp at few
      · rw [List.replicate_succ, readOpen_close, resume_inside]
        exact ih _ (by simpa using few)

theorem readOpen_closed {openLists : OpenLists} (room : Nat) (unfinished : openLists ≠ []) :
    ∃ expr, readOpen (List.replicate openLists.length closeToken) openLists room =
      (.ok expr, []) := by
  obtain ⟨items, outer, rfl⟩ := List.exists_cons_of_ne_nil unfinished
  induction outer generalizing items room with
  | nil =>
      refine ⟨.list items.reverse, ?_⟩
      rw [List.length_singleton, List.replicate_one, readOpen_close, resume]
  | cons next outermost ih =>
      obtain ⟨expr, read⟩ := ih (room + 1) (.list items.reverse :: next) (by simp)
      refine ⟨expr, ?_⟩
      rw [List.length_cons, List.replicate_succ, readOpen_close, resume_inside]
      exact read

def Completable (line : String) : Prop :=
  ∃ more limit expr, parse limit (line ++ " " ++ more) = .ok expr

theorem cutOff_iff {tokens : List String} :
    CutOff tokens ↔ tokens.head? ≠ some closeToken ∧ ¬ StartsComplete tokens := by
  constructor
  · intro ended
    constructor
    · intro first
      obtain ⟨rest, rfl⟩ := List.head?_eq_some_iff.mp first
      exact not_cutOff_close rest ended
    · rintro ⟨taken, expr, ⟨rest, rfl⟩, spelled⟩
      exact not_cutOff_of_spells spelled ended
  · rintro ⟨notClose, incomplete⟩
    rcases opening tokens with @⟨taken, rest, expr, rfl, spelled⟩ | ⟨rfl⟩ | ⟨ended⟩
    · exact absurd ⟨taken, expr, List.prefix_append taken rest, spelled⟩ incomplete
    · exact absurd rfl notClose
    · exact ended

theorem tokenize_blank (line more : String) :
    tokenize (line ++ " " ++ more) = tokenize line ++ tokenize more := by
  have blank : isBlank ' ' := by decide
  have apart : Apart (' ' :: more.toList) := .inl blank
  have parts : (line ++ " " ++ more).toList = line.toList ++ ' ' :: more.toList := by simp
  rw [tokenize_eq, parts, tokenWords_append _ apart, tokenWords_blank blank, List.map_append]
  rfl

section CutOff

variable {depth : Nat} {line : String} {pending : OpenLists} {left : Nat}

theorem suspends_of_parse (failed : parse depth line = .error (.unreadable .unexpectedEnd)) :
    ∃ pending left, Suspends (tokenize line) [] depth pending left := by
  rw [parse] at failed
  split at failed
  · rename_i ended
    cases failed
    exact readOpen_suspends ended
  · cases failed
  · split at failed <;> cases failed

theorem parse_closings (suspends : Suspends (tokenize line) [] depth pending left) {count : Nat}
    (few : count < pending.length) :
    parse depth (line ++ closings count) = .error (.unreadable .unexpectedEnd) := by
  rw [parse, tokenize_closings, suspends.resumes, readOpen_closings left few]

theorem parse_closed (suspends : Suspends (tokenize line) [] depth pending left)
    (unfinished : pending ≠ []) :
    ∃ expr, parse depth (line ++ closings pending.length) = .ok expr := by
  obtain ⟨expr, read⟩ := readOpen_closed left unfinished
  exact ⟨expr, by rw [parse, tokenize_closings, suspends.resumes, read]⟩

theorem completable_of_parse (failed : parse depth line = .error (.unreadable .unexpectedEnd)) :
    Completable line := by
  by_cases empty : tokenize line = []
  · have spelled : Spells ["x"] (.ofToken "x") := .atom (by decide) (by decide)
    have same : tokenize (line ++ " " ++ "x") = ["x"] := by
      rw [tokenize_blank, empty]
      decide
    exact ⟨"x", 1, .ofToken "x", parse_spells (same ▸ spelled) (by simp [same])⟩
  · obtain ⟨pending, left, suspends⟩ := suspends_of_parse failed
    obtain ⟨expr, read⟩ := parse_closed suspends (suspends.unfinished (.inl empty))
    have same : tokenize (line ++ " " ++ closings pending.length) =
        tokenize (line ++ closings pending.length) := by
      have alone := tokenize_closings "" pending.length
      rw [String.empty_append] at alone
      rw [tokenize_blank, alone, tokenize_closings]
      rfl
    exact ⟨closings pending.length, depth, expr, (parse_congr same depth).trans read⟩

end CutOff

theorem SyntaxError.message_inj {reason reason' : SyntaxError}
    (same : reason.message = reason'.message) : reason = reason' := by
  cases reason <;> cases reason' <;> first | rfl | exact absurd same (by decide)

section Unread

variable {depth : Nat} {line : String} {reason : SyntaxError}

theorem unexpectedEnd_iff (failed : parse depth line = .error (.unreadable reason)) :
    reason = .unexpectedEnd ↔ Completable line := by
  constructor
  · rintro rfl
    exact completable_of_parse failed
  · rintro ⟨more, limit, expr, read⟩
    obtain ⟨reason', same, unread⟩ := unread_of_parse failed (by simp)
    cases same
    by_contra other
    rw [String.append_assoc] at read
    exact unread_append unread other (" " ++ more) limit expr read

theorem closings_of_parse (failed : parse depth line = .error (.unreadable .unexpectedEnd))
    (some_token : tokenize line ≠ []) :
    ∃ missing, 0 < missing ∧
      missing + (tokenize line).count closeToken = (tokenize line).count openToken ∧
      (∃ expr, parse depth (line ++ closings missing) = .ok expr) ∧
      ∀ count < missing,
        parse depth (line ++ closings count) = .error (.unreadable .unexpectedEnd) := by
  obtain ⟨pending, left, suspends⟩ := suspends_of_parse failed
  have unfinished := suspends.unfinished (.inl some_token)
  have balance := suspends.balance
  rw [List.length_nil, Nat.zero_add] at balance
  exact ⟨pending.length, List.length_pos_of_ne_nil unfinished, balance,
    parse_closed suspends unfinished, fun count few => parse_closings suspends few⟩

end Unread

/-- A line that cannot be read ends too soon if and only if more text would complete it. It then has
tokens that do not begin with an expression or a closing parenthesis, or no token at all, and closing
all lists that are open completes it, closing fewer does not. Nothing completes any other line, where
a closing parenthesis opens none or more stands behind an expression. -/
theorem failed_line_completable {depth : Nat} {line : String} {failure : Failure}
    (failed : parse depth line = .error failure) (uncut : failure ≠ .depthExceeded) :
    let tokens := tokenize line
    failure.className = "LispySyntaxError" ∧
    (failure.message = "unexpected EOF" ↔ Completable line) ∧
    (failure.message = "unexpected EOF" ↔
      tokens.head? ≠ some closeToken ∧ ¬ StartsComplete tokens) ∧
    (failure.message = "unexpected EOF" → tokens ≠ [] →
      ∃ missing, 0 < missing ∧ missing + tokens.count closeToken = tokens.count openToken ∧
        (∃ expr, parse depth (line ++ closings missing) = .ok expr) ∧
        ∀ count < missing, parse depth (line ++ closings count) = .error failure) ∧
    (failure.message ≠ "unexpected EOF" →
      (∀ more limit expr, parse limit (line ++ more) ≠ .ok expr) ∧
      (tokens.head? = some closeToken ∨ FollowedBy tokens closeToken ∨
        ∃ token, token ≠ closeToken ∧ FollowedBy tokens token)) ∧
    (tokens.head? = some closeToken ∨ FollowedBy tokens closeToken →
      failure.message = "unexpected )") ∧
    (∀ token, token ≠ closeToken → FollowedBy tokens token →
      failure.message = "unexpected trailing input") := by
  intro tokens
  obtain ⟨reason, rfl, unread⟩ := unread_of_parse failed uncut
  -- The three messages tell the three reasons apart.
  have message : ∀ reason' : SyntaxError,
      (Failure.unreadable reason).message = reason'.message ↔ reason = reason' := by
    intro reason'
    exact ⟨SyntaxError.message_inj, congrArg SyntaxError.message⟩
  have tooSoon : (Failure.unreadable reason).message = "unexpected EOF" ↔ reason = .unexpectedEnd :=
    message .unexpectedEnd
  refine ⟨rfl, tooSoon.trans (unexpectedEnd_iff failed), tooSoon.trans ?_, ?_, ?_, ?_, ?_⟩
  · rw [← cutOff_iff]
    constructor
    · rintro rfl
      cases unread with
      | cutOff ended => exact ended
    · exact fun ended => unread.unique (.cutOff ended)
  · intro ended some_token
    obtain rfl := tooSoon.mp ended
    exact closings_of_parse failed some_token
  · intro hopeless
    refine ⟨unread_append unread (hopeless ∘ tooSoon.mpr), ?_⟩
    cases unread with
    | cutOff => exact absurd rfl hopeless
    | stray first => exact .inl first
    | closed behind => exact .inr (.inl behind)
    | trailing other behind => exact .inr (.inr ⟨_, other, behind⟩)
  · rintro (first | behind)
    · exact (message .unexpectedClose).mpr (unread.unique (.stray first))
    · exact (message .unexpectedClose).mpr (unread.unique (.closed behind))
  · intro token other behind
    exact (message .trailingInput).mpr (unread.unique (.trailing other behind))

theorem open_and_closed_lines :
    (Completable "(a (b" ∧ (∃ expr, parse 9 ("(a (b" ++ closings 2) = .ok expr) ∧
      parse 9 ("(a (b" ++ closings 1) = .error (.unreadable .unexpectedEnd)) ∧
    ∀ more limit expr, parse limit ("(a)) b" ++ more) ≠ .ok expr := by
  constructor
  · have failed : parse 9 "(a (b" = .error (.unreadable .unexpectedEnd) := by
      with_unfolding_all rfl
    have whole := failed_line_completable failed (by simp)
    have tokens : tokenize "(a (b" = ["(", "a", "(", "b"] := by decide
    obtain ⟨missing, -, balance, closed, fewer⟩ := whole.2.2.2.1 rfl (by simp [tokens])
    have two : missing = 2 := by
      rw [tokens] at balance
      exact balance
    subst two
    exact ⟨whole.2.1.mp rfl, closed, fewer 1 (by decide)⟩
  · have failed : parse 9 "(a)) b" = .error (.unreadable .unexpectedClose) := by
      with_unfolding_all rfl
    exact ((failed_line_completable failed (by simp)).2.2.2.2.1 (by decide)).1

end MiniLisp
