import MiniLisp.Reader

/-!
The grammar of expressions, and that reading follows it. Every row of tokens begins with exactly
one expression, or with a closing parenthesis, or it is cut off before its first expression ends;
reading tells these apart, and what holds of all atoms and carries over to lists holds of all that
is read.
-/

namespace MiniLisp

mutual

def Expr.height : Expr → Nat
  | .list items => Expr.heights items + 1
  | .int _ | .real _ | .symbol _ => 0

def Expr.heights : List Expr → Nat
  | [] => 0
  | item :: rest => max item.height (Expr.heights rest)

end

mutual

inductive Spells : List String → Expr → Prop
  | atom {token : String} (notOpen : token ≠ openToken) (notClose : token ≠ closeToken) :
      Spells [token] (.ofToken token)
  | list {tokens : List String} {items : List Expr} (inner : SpellsAll tokens items) :
      Spells (openToken :: tokens ++ [closeToken]) (.list items)

inductive SpellsAll : List String → List Expr → Prop
  | nil : SpellsAll [] []
  | cons {first others : List String} {item : Expr} {items : List Expr}
      (head : Spells first item) (tail : SpellsAll others items) :
      SpellsAll (first ++ others) (item :: items)

end

/-- Tokens that end before their first expression does: all lists that they open and do not close
hold complete expressions up to there. -/
inductive CutOff : List String → Prop
  | nil : CutOff []
  | inside {tokens rest : List String} {items : List Expr} (inner : SpellsAll tokens items)
      (tail : CutOff rest) : CutOff (openToken :: tokens ++ rest)

theorem openToken_ne_closeToken : openToken ≠ closeToken := by decide

@[simp] theorem height_ofToken (token : String) : (Expr.ofToken token).height = 0 := by
  unfold Expr.ofToken
  split
  · rfl
  · split <;> rfl

theorem readOpen_open (rest : List String) (openLists : OpenLists) (room : Nat) :
    readOpen (openToken :: rest) openLists (room + 1) = readOpen rest ([] :: openLists) room := by
  rw [readOpen.eq_def]
  exact if_pos rfl

/-- What follows when an expression has been read with some lists open. -/
def resume (expr : Expr) (rest : List String) (openLists : OpenLists) (room : Nat) :
    Except Failure Expr × List String :=
  match openLists with
  | [] => (.ok expr, rest)
  | items :: outer => readOpen rest ((expr :: items) :: outer) room

theorem resume_inside (expr : Expr) (rest : List String) (items : List Expr)
    (openLists : OpenLists) (room : Nat) :
    resume expr rest (items :: openLists) room =
      readOpen rest ((expr :: items) :: openLists) room := rfl

theorem readOpen_close (rest : List String) (items : List Expr) (openLists : OpenLists)
    (room : Nat) :
    readOpen (closeToken :: rest) (items :: openLists) room =
      resume (.list items.reverse) rest openLists (room + 1) := by
  rw [readOpen.eq_def]
  dsimp only
  rw [if_neg openToken_ne_closeToken.symm, if_pos rfl]
  cases openLists <;> rfl

theorem readOpen_atom {token : String} (notOpen : token ≠ openToken)
    (notClose : token ≠ closeToken) (rest : List String) (openLists : OpenLists) (room : Nat) :
    readOpen (token :: rest) openLists room = resume (.ofToken token) rest openLists room := by
  rw [readOpen.eq_def]
  dsimp only
  rw [if_neg notOpen, if_neg notClose]
  cases openLists <;> rfl

mutual

theorem readOpen_spells {tokens : List String} {expr : Expr} (spelled : Spells tokens expr)
    (rest : List String) (openLists : OpenLists) (room : Nat) (enough : expr.height ≤ room) :
    readOpen (tokens ++ rest) openLists room = resume expr rest openLists room := by
  cases spelled with
  | atom notOpen notClose => exact readOpen_atom notOpen notClose rest openLists room
  | @list inside items inner =>
      rw [Expr.height] at enough
      obtain ⟨below, rfl⟩ : ∃ below, room = below + 1 := Nat.exists_eq_add_one.mpr (by omega)
      rw [List.cons_append, List.cons_append, List.append_assoc, readOpen_open,
        readOpen_spellsAll inner _ [] openLists below (by omega), List.singleton_append,
        readOpen_close, List.append_nil, List.reverse_reverse]

theorem readOpen_spellsAll {tokens : List String} {exprs : List Expr}
    (spelled : SpellsAll tokens exprs) (rest : List String) (items : List Expr)
    (openLists : OpenLists) (room : Nat) (enough : Expr.heights exprs ≤ room) :
    readOpen (tokens ++ rest) (items :: openLists) room =
      readOpen rest ((exprs.reverse ++ items) :: openLists) room := by
  cases spelled with
  | nil => rfl
  | @cons first others item exprs head tail =>
      rw [Expr.heights] at enough
      rw [List.append_assoc, readOpen_spells head _ _ _ (by omega), resume_inside,
        readOpen_spellsAll tail _ _ _ _ (by omega), List.reverse_cons, List.append_assoc,
        List.singleton_append]

end

mutual

theorem height_le_length {tokens : List String} {expr : Expr} (spelled : Spells tokens expr) :
    expr.height ≤ tokens.length := by
  cases spelled with
  | atom => simp
  | list inner =>
      have := heights_le_length inner
      simp only [Expr.height, List.length_append, List.length_cons, List.length_nil]
      omega

theorem heights_le_length {tokens : List String} {exprs : List Expr}
    (spelled : SpellsAll tokens exprs) : Expr.heights exprs ≤ tokens.length := by
  cases spelled with
  | nil => simp [Expr.heights]
  | cons head tail =>
      have := height_le_length head
      have := heights_le_length tail
      simp only [Expr.heights, List.length_append]
      omega

end

theorem readOpen_cutOff {tokens : List String} (cutOff : CutOff tokens) (openLists : OpenLists)
    (room : Nat) (enough : tokens.length ≤ room) :
    readOpen tokens openLists room = (.error (.unreadable .unexpectedEnd), []) := by
  induction cutOff generalizing openLists room with
  | nil => rfl
  | @inside tokens rest items inner tail ih =>
      simp only [List.cons_append, List.length_cons, List.length_append] at enough
      obtain ⟨below, rfl⟩ : ∃ below, room = below + 1 := Nat.exists_eq_add_one.mpr (by omega)
      have fits := heights_le_length inner
      rw [List.cons_append, readOpen_open, readOpen_spellsAll inner _ _ _ _ (by omega)]
      exact ih _ _ (by omega)

theorem readOpen_stray (rest : List String) (room : Nat) :
    readOpen (closeToken :: rest) [] room = (.error (.unreadable .unexpectedClose), rest) := by
  rw [readOpen.eq_def]
  dsimp only
  rw [if_neg openToken_ne_closeToken.symm, if_pos rfl]

inductive Opening (tokens : List String) : Prop
  | complete {taken rest : List String} {expr : Expr} (parts : tokens = taken ++ rest)
      (spelled : Spells taken expr)
  | stray {rest : List String} (parts : tokens = closeToken :: rest)
  | cutOff (ended : CutOff tokens)

theorem length_pos_of_spells {tokens : List String} {expr : Expr} (spelled : Spells tokens expr) :
    0 < tokens.length := by
  cases spelled <;> simp

/-- If all tokens up to some number have an opening, so many tokens are expressions in a row that
a closing parenthesis or tokens cut off follow. -/
theorem exists_spellsAll (tokens : List String)
    (opening : ∀ others : List String, others.length ≤ tokens.length → Opening others) :
    ∃ first rest items, tokens = first ++ rest ∧ SpellsAll first items ∧
      ((∃ others, rest = closeToken :: others) ∨ CutOff rest) := by
  rcases opening tokens (Nat.le_refl _) with @⟨taken, rest, expr, parts, spelled⟩ | ⟨parts⟩ | ⟨ended⟩
  · -- Behind the first expression there are fewer tokens, to which the same applies.
    have shorter : rest.length < tokens.length := by
      have := length_pos_of_spells spelled
      rw [parts, List.length_append]
      omega
    obtain ⟨first, last, items, split, inner, follows⟩ :=
      exists_spellsAll rest fun others short => opening others (by omega)
    refine ⟨taken ++ first, last, expr :: items, ?_, .cons spelled inner, follows⟩
    rw [parts, split, List.append_assoc]
  · exact ⟨[], tokens, [], rfl, .nil, .inl ⟨_, parts⟩⟩
  · exact ⟨[], tokens, [], rfl, .nil, .inr ended⟩
termination_by tokens.length

theorem opening (tokens : List String) : Opening tokens := by
  match tokens with
  | [] => exact .cutOff .nil
  | token :: rest =>
      by_cases opens : token = openToken
      · subst opens
        obtain ⟨first, last, items, rfl, inner, ⟨others, rfl⟩ | ended⟩ :=
          exists_spellsAll rest fun others short => opening others
        · have parts : openToken :: (first ++ closeToken :: others) =
              (openToken :: first ++ [closeToken]) ++ others := by simp
          exact .complete parts (.list inner)
        · exact .cutOff (.inside inner ended)
      · by_cases closes : token = closeToken
        · subst closes
          exact .stray rfl
        · exact .complete (List.singleton_append.symm) (.atom opens closes)
termination_by tokens.length
decreasing_by exact Nat.lt_succ_of_le short

theorem spells_unique {left left' right right' : List String} {expr expr' : Expr}
    (first : Spells left expr) (second : Spells left' expr') (same : left ++ right = left' ++ right') :
    left = left' ∧ expr = expr' := by
  have read := readOpen_spells first right [] (left.length + left'.length)
    (by have := height_le_length first; omega)
  have read' := readOpen_spells second right' [] (left.length + left'.length)
    (by have := height_le_length second; omega)
  rw [same, read'] at read
  obtain ⟨sameExpr, rfl⟩ := Prod.mk.inj read
  exact ⟨List.append_cancel_right same, (Except.ok.inj sameExpr).symm⟩

theorem not_cutOff_of_spells {taken rest : List String} {expr : Expr}
    (spelled : Spells taken expr) : ¬ CutOff (taken ++ rest) := by
  intro ended
  have read := readOpen_spells spelled rest [] (taken ++ rest).length (by
    have := height_le_length spelled
    rw [List.length_append]
    omega)
  rw [readOpen_cutOff ended [] _ (Nat.le_refl _)] at read
  cases read

theorem not_cutOff_close (rest : List String) : ¬ CutOff (closeToken :: rest) := by
  intro ended
  have read := readOpen_cutOff ended [] _ (Nat.le_refl _)
  rw [readOpen_stray] at read
  cases read

theorem not_stray_of_spells {taken rest others : List String} {expr : Expr}
    (spelled : Spells taken expr) : taken ++ rest ≠ closeToken :: others := by
  intro same
  cases spelled with
  | atom notOpen notClose => exact notClose (List.cons.inj same).1
  | list inner => exact openToken_ne_closeToken (List.cons.inj same).1

/-- What holds of the items of open lists, the room growing outwards. -/
def HoldsOpen (p : Nat → Expr → Prop) : OpenLists → Nat → Prop
  | [], _ => True
  | items :: outer, room => (∀ item ∈ items, p room item) ∧ HoldsOpen p outer (room + 1)

/-- What holds of all atoms, whatever the room, and of lists with one more than their items, holds
of what is read. -/
theorem readOpen_holds {p : Nat → Expr → Prop}
    (list : ∀ room items, (∀ item ∈ items, p room item) → p (room + 1) (.list items))
    {tokens : List String} (atom : ∀ token ∈ tokens, token ≠ openToken → token ≠ closeToken →
      ∀ room, p room (.ofToken token))
    {openLists : OpenLists} {room : Nat} (holds : HoldsOpen p openLists room) {expr : Expr}
    {rest : List String} (read : readOpen tokens openLists room = (.ok expr, rest)) :
    p (room + openLists.length) expr := by
  induction tokens generalizing openLists room with
  | nil => cases read
  | cons token others ih =>
      replace ih {openLists room} := @ih (fun token member =>
        atom token (List.mem_cons_of_mem _ member)) openLists room
      have resumed {expr' : Expr} {openLists : OpenLists} {room : Nat} (holds' : p room expr')
          (holds : HoldsOpen p openLists room)
          (read : resume expr' others openLists room = (.ok expr, rest)) :
          p (room + openLists.length) expr := by
        cases openLists with
        | nil =>
            cases read
            exact holds'
        | cons items outer =>
            have inner : HoldsOpen p ((expr' :: items) :: outer) room :=
              ⟨List.forall_mem_cons.mpr ⟨holds', holds.1⟩, holds.2⟩
            have inside := ih inner read
            exact inside
      by_cases opens : token = openToken
      · subst opens
        cases room with
        | zero =>
            rw [readOpen.eq_def] at read
            cases read
        | succ room =>
            rw [readOpen_open] at read
            have inner : HoldsOpen p ([] :: openLists) room := ⟨by simp, holds⟩
            have inside := ih inner read
            rwa [List.length_cons, ← Nat.add_assoc, Nat.add_right_comm] at inside
      · by_cases closes : token = closeToken
        · subst closes
          cases openLists with
          | nil =>
              rw [readOpen_stray] at read
              cases read
          | cons items outer =>
              rw [readOpen_close] at read
              have whole := list room items.reverse fun item member =>
                holds.1 item (List.mem_reverse.mp member)
              have outside := resumed whole holds.2 read
              rwa [Nat.add_right_comm, Nat.add_assoc] at outside
        · rw [readOpen_atom opens closes] at read
          exact resumed (atom token List.mem_cons_self opens closes room) holds read

theorem parse_holds {p : Nat → Expr → Prop}
    (list : ∀ room items, (∀ item ∈ items, p room item) → p (room + 1) (.list items))
    {line : String} (atom : ∀ token ∈ tokenize line, token ≠ openToken → token ≠ closeToken →
      ∀ room, p room (.ofToken token))
    {room : Nat} {expr : Expr} (read : parse room line = .ok expr) : p room expr := by
  have start : HoldsOpen p [] room := trivial
  rw [parse] at read
  split at read
  · cases read
  · rename_i result
    cases read
    exact readOpen_holds list atom start result
  · cases read

theorem parse_congr {line line' : String} (same : tokenize line = tokenize line') (depth : Nat) :
    parse depth line = parse depth line' := by
  rw [parse, parse, same]

end MiniLisp
