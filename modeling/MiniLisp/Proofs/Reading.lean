import MiniLisp.Proofs.Grammar

namespace MiniLisp

/-- Actions on tokens that are used up. The action fails to end if it is not given enough steps. -/
abbrev Popping := ExceptT SyntaxError (StateT (List String) Option)

namespace Popping

variable {α β : Type}

def outcome (action : Popping α) (tokens : List String) :
    Option (Except SyntaxError α × List String) :=
  StateT.run (ExceptT.run action) tokens

def outOfSteps : Popping α := ExceptT.mk fun _ => none

def pop : Popping String := do
  match ← get with
  | [] => throw .unexpectedEnd
  | token :: rest =>
    set rest
    return token

mutual

def expression (steps : Nat) : Popping Expr :=
  match steps with
  | 0 => outOfSteps
  | steps + 1 => do
    let token ← pop
    if token = openToken then
      let items ← items steps
      return .list items
    else if token = closeToken then throw .unexpectedClose
    else return .ofToken token

def items (steps : Nat) : Popping (List Expr) :=
  match steps with
  | 0 => outOfSteps
  | steps + 1 => do
    if (← get).head? = some closeToken then
      let _ ← pop
      return []
    else
      let item ← expression steps
      let rest ← items steps
      return item :: rest

end

theorem outcome_bind (action : Popping α) (next : α → Popping β) (tokens : List String) :
    (action >>= next).outcome tokens =
      match action.outcome tokens with
      | some (.ok x, rest) => (next x).outcome rest
      | some (.error reason, rest) => some (.error reason, rest)
      | none => none := by
  change (action tokens).bind (fun (result, rest) => ExceptT.bindCont next result rest) = _
  unfold outcome ExceptT.run StateT.run
  rcases action tokens with _ | ⟨_ | _, _⟩ <;> rfl

theorem outcome_get (tokens : List String) :
    (get : Popping (List String)).outcome tokens = some (.ok tokens, tokens) := rfl

theorem outcome_pure (x : α) (tokens : List String) :
    (pure x : Popping α).outcome tokens = some (.ok x, tokens) := rfl

theorem outcome_pop_cons (token : String) (rest : List String) :
    pop.outcome (token :: rest) = some (.ok token, rest) := rfl

theorem expression_open {steps : Nat} {tokens rest : List String}
    {result : Except SyntaxError (List Expr)}
    (inner : (items steps).outcome tokens = some (result, rest)) :
    (expression (steps + 1)).outcome (openToken :: tokens) = some (result.map .list, rest) := by
  rw [expression, outcome_bind, outcome_pop_cons]
  dsimp only
  rw [if_pos rfl, outcome_bind, inner]
  cases result <;> rfl

theorem expression_close (steps : Nat) (rest : List String) :
    (expression (steps + 1)).outcome (closeToken :: rest) =
      some (.error .unexpectedClose, rest) := by
  rw [expression, outcome_bind, outcome_pop_cons]
  rfl

theorem expression_atom {token : String} (notOpen : token ≠ openToken)
    (notClose : token ≠ closeToken) (steps : Nat) (rest : List String) :
    (expression (steps + 1)).outcome (token :: rest) = some (.ok (.ofToken token), rest) := by
  rw [expression, outcome_bind, outcome_pop_cons]
  dsimp only
  rw [if_neg notOpen, if_neg notClose, outcome_pure]

theorem items_close (steps : Nat) (rest : List String) :
    (items (steps + 1)).outcome (closeToken :: rest) = some (.ok [], rest) := by
  rw [items, outcome_bind, outcome_get]
  rfl

theorem items_item {steps : Nat} {tokens middle rest : List String} {item : Expr}
    {result : Except SyntaxError (List Expr)} (inside : tokens.head? ≠ some closeToken)
    (first : (expression steps).outcome tokens = some (.ok item, middle))
    (others : (items steps).outcome middle = some (result, rest)) :
    (items (steps + 1)).outcome tokens = some (result.map (item :: ·), rest) := by
  rw [items, outcome_bind, outcome_get]
  dsimp only
  rw [if_neg inside, outcome_bind, first]
  dsimp only
  rw [outcome_bind, others]
  cases result <;> rfl

theorem items_fails {steps : Nat} {tokens rest : List String} {reason : SyntaxError}
    (inside : tokens.head? ≠ some closeToken)
    (first : (expression steps).outcome tokens = some (.error reason, rest)) :
    (items (steps + 1)).outcome tokens = some (.error reason, rest) := by
  rw [items, outcome_bind, outcome_get]
  dsimp only
  rw [if_neg inside, outcome_bind, first]

theorem head_of_spells {taken rest : List String} {expr : Expr} (spelled : Spells taken expr) :
    (taken ++ rest).head? ≠ some closeToken := by
  cases spelled with
  | atom _ notClose => simpa using notClose
  | list => simpa using openToken_ne_closeToken

mutual

theorem expression_spells {taken : List String} {expr : Expr} (spelled : Spells taken expr)
    (rest : List String) (steps : Nat) (enough : taken.length ≤ steps) :
    (expression steps).outcome (taken ++ rest) = some (.ok expr, rest) := by
  cases spelled with
  | atom notOpen notClose =>
      obtain ⟨below, rfl⟩ : ∃ below, steps = below + 1 := Nat.exists_eq_add_one.mpr enough
      exact expression_atom notOpen notClose below rest
  | @list inside exprs inner =>
      simp only [List.cons_append, List.length_cons, List.length_append, List.length_nil] at enough
      obtain ⟨below, rfl⟩ : ∃ below, steps = below + 1 := Nat.exists_eq_add_one.mpr (by omega)
      have popped := items_spellsAll inner (closeToken :: rest) below 0 (.ok []) rest
        (fun steps _ => items_close steps rest) (by omega)
      rw [List.cons_append, List.cons_append, List.append_assoc]
      simpa [Except.map] using expression_open popped

/-- Expressions in a row, if `items` comes to a result on the tokens behind them. -/
theorem items_spellsAll {taken : List String} {exprs : List Expr} (spelled : SpellsAll taken exprs)
    (tokens : List String) (steps least : Nat) (result : Except SyntaxError (List Expr))
    (rest : List String)
    (behind : ∀ steps, least ≤ steps → (items (steps + 1)).outcome tokens = some (result, rest))
    (enough : taken.length + least < steps) :
    (items steps).outcome (taken ++ tokens) = some (result.map (exprs ++ ·), rest) := by
  cases spelled with
  | nil =>
      have same : result.map ([] ++ ·) = result := by cases result <;> rfl
      obtain ⟨below, rfl⟩ : ∃ below, steps = below + 1 := Nat.exists_eq_add_one.mpr (by omega)
      rw [same]
      exact behind below (by simp at enough; omega)
  | @cons first others item exprs head tail =>
      have positive := length_pos_of_spells head
      rw [List.length_append] at enough
      obtain ⟨below, rfl⟩ : ∃ below, steps = below + 1 := Nat.exists_eq_add_one.mpr (by omega)
      have popped := expression_spells head (others ++ tokens) below (by omega)
      have after := items_spellsAll tail tokens below least result rest behind (by omega)
      rw [List.append_assoc]
      rw [items_item (head_of_spells head) popped after]
      cases result <;> rfl

end

theorem expression_cutOff {tokens : List String} (cutOff : CutOff tokens) (steps : Nat)
    (enough : 2 * tokens.length + 1 ≤ steps) :
    (expression steps).outcome tokens = some (.error .unexpectedEnd, []) := by
  induction cutOff generalizing steps with
  | nil =>
      obtain ⟨below, rfl⟩ : ∃ below, steps = below + 1 := Nat.exists_eq_add_one.mpr enough
      rfl
  | @inside tokens rest exprs inner tail ih =>
      simp only [List.cons_append, List.length_cons, List.length_append] at enough
      obtain ⟨below, rfl⟩ : ∃ below, steps = below + 1 := Nat.exists_eq_add_one.mpr (by omega)
      have behind : ∀ steps, 2 * rest.length + 1 ≤ steps →
          (items (steps + 1)).outcome rest = some (.error .unexpectedEnd, []) := by
        intro steps enough
        refine items_fails ?_ (ih steps enough)
        cases tail with
        | nil => simp
        | inside => simpa using openToken_ne_closeToken
      have popped := items_spellsAll inner rest below _ _ _ behind (by omega)
      exact expression_open popped

end Popping

namespace TokenStream

def seek (tokens : List String) (position : Nat) : TokenStream := ⟨position, tokens.drop position⟩

def readMany (depth : Nat) : Nat → TokenStream → Except Failure (List Expr) × TokenStream
  | 0, stream => (.ok [], stream)
  | count + 1, stream =>
    match stream.read depth with
    | (.error failure, after) => (.error failure, after)
    | (.ok expr, after) =>
      let (exprs, last) := after.readMany depth count
      (exprs.map (expr :: ·), last)

/-- What the grammar says about reading from a position: the outcome, and the stream left. -/
inductive Follows (tokens : List String) (position : Nat) :
    Except Failure Expr × TokenStream → Prop
  | complete {taken : List String} {expr : Expr} (start : taken <+: tokens.drop position)
      (spelled : Spells taken expr)
      (only : ∀ taken' expr', taken' <+: tokens.drop position → Spells taken' expr' →
        taken' = taken ∧ expr' = expr) :
      Follows tokens position (.ok expr, seek tokens (position + taken.length))
  | stray {reason : SyntaxError} (message : reason.message = "unexpected )")
      (close : tokens[position]? = some closeToken)
      (incomplete : ∀ taken expr, taken <+: tokens.drop position → ¬ Spells taken expr) :
      Follows tokens position (.error (.unreadable reason), seek tokens (position + 1))
  | cutOff {reason : SyntaxError} (message : reason.message = "unexpected EOF")
      (notClose : tokens[position]? ≠ some closeToken)
      (incomplete : ∀ taken expr, taken <+: tokens.drop position → ¬ Spells taken expr) :
      Follows tokens position (.error (.unreadable reason), seek tokens tokens.length)

theorem read_seek {tokens taken rest : List String} {position depth : Nat}
    {answer : Except Failure Expr} (parts : tokens.drop position = taken ++ rest)
    (result : readOpen (tokens.drop position) [] depth = (answer, rest)) :
    (seek tokens position).read depth = (answer, seek tokens (position + taken.length)) := by
  have left : tokens.drop (position + taken.length) = rest := by
    rw [← List.drop_drop, parts, List.drop_left]
  have moved : (tokens.drop position).length - rest.length = taken.length := by
    rw [parts, List.length_append, Nat.add_sub_cancel]
  simp only [read, seek, result, left, moved]

theorem read_spells {tokens taken rest : List String} {position depth : Nat} {expr : Expr}
    (parts : tokens.drop position = taken ++ rest) (spelled : Spells taken expr)
    (enough : taken.length ≤ depth) :
    (seek tokens position).read depth = (.ok expr, seek tokens (position + taken.length)) := by
  have shallow := height_le_length spelled
  exact read_seek parts (by rw [parts, readOpen_spells spelled _ _ _ (by omega)]; rfl)

theorem readMany_spellsAll {tokens taken rest : List String} {position depth : Nat}
    {exprs : List Expr} (parts : tokens.drop position = taken ++ rest)
    (spelled : SpellsAll taken exprs) (enough : taken.length ≤ depth) :
    (seek tokens position).readMany depth exprs.length =
      (.ok exprs, seek tokens (position + taken.length)) := by
  induction exprs generalizing taken position with
  | nil =>
      cases spelled
      rfl
  | cons expr exprs ih =>
      cases spelled with
      | @cons first others _ _ head tail =>
          rw [List.append_assoc] at parts
          rw [List.length_append] at enough
          have behind : tokens.drop (position + first.length) = others ++ rest := by
            rw [← List.drop_drop, parts, List.drop_left]
          rw [List.length_cons, readMany, read_spells parts head (by omega)]
          dsimp only
          rw [ih behind tail (by omega), List.length_append, Nat.add_assoc]
          rfl

theorem drop_of_getElem {tokens : List String} {position : Nat} {token : String}
    (present : tokens[position]? = some token) :
    tokens.drop position = token :: tokens.drop (position + 1) := by
  obtain ⟨inside, rfl⟩ := List.getElem?_eq_some_iff.mp present
  exact List.drop_eq_getElem_cons inside

theorem read_follows {tokens : List String} {position depth : Nat}
    (inside : position ≤ tokens.length) (enough : tokens.length ≤ depth) :
    Follows tokens position ((seek tokens position).read depth) := by
  have shorter : (tokens.drop position).length ≤ tokens.length := by simp
  rcases opening (tokens.drop position) with @⟨taken, rest, expr, parts, spelled⟩ | @⟨rest, parts⟩ |
    ⟨ended⟩
  · have fits : taken.length ≤ (tokens.drop position).length := by
      rw [parts, List.length_append]
      omega
    rw [read_spells parts spelled (by omega)]
    refine .complete ⟨rest, parts.symm⟩ spelled ?_
    intro taken' expr' start spelled'
    obtain ⟨rest', parts'⟩ := start
    exact spells_unique spelled' spelled (parts'.trans parts)
  · have present : tokens[position]? = some closeToken := by
      rw [← List.head?_drop, parts, List.head?_cons]
    have taken : tokens.drop position = [closeToken] ++ rest := parts
    have result : readOpen (tokens.drop position) [] depth =
        (.error (.unreadable .unexpectedClose), rest) := by
      rw [parts, readOpen_stray]
    rw [read_seek taken result]
    refine .stray rfl present ?_
    intro taken' expr' start spelled'
    obtain ⟨rest', parts'⟩ := start
    exact not_stray_of_spells spelled' (parts'.trans parts)
  · have taken : tokens.drop position = tokens.drop position ++ [] := (List.append_nil _).symm
    have last : position + (tokens.drop position).length = tokens.length := by
      rw [List.length_drop]
      omega
    rw [read_seek taken (readOpen_cutOff ended [] depth (by omega)), last]
    refine .cutOff rfl ?_ ?_
    · intro present
      rw [drop_of_getElem present] at ended
      exact not_cutOff_close _ ended
    · intro taken' expr' start spelled'
      obtain ⟨rest', parts'⟩ := start
      exact not_cutOff_of_spells spelled' (parts'.symm ▸ ended)

theorem outcome_expression {tokens : List String} {position depth : Nat}
    (enough : tokens.length ≤ depth) {steps : Nat} (lasting : 2 * tokens.length + 1 ≤ steps) :
    ∃ result, ((seek tokens position).read depth).1 = result.mapError Failure.unreadable ∧
      (Popping.expression steps).outcome (tokens.drop position) =
        some (result, ((seek tokens position).read depth).2.rest) := by
  have shorter : (tokens.drop position).length ≤ tokens.length := by simp
  obtain ⟨below, rfl⟩ : ∃ below, steps = below + 1 := Nat.exists_eq_add_one.mpr (by omega)
  dsimp only [read, seek]
  rcases opening (tokens.drop position) with @⟨taken, rest, expr, parts, spelled⟩ | @⟨rest, parts⟩ |
    ⟨ended⟩
  · have fits : taken.length ≤ (tokens.drop position).length := by
      rw [parts, List.length_append]
      omega
    have shallow := height_le_length spelled
    rw [parts, readOpen_spells spelled _ _ _ (by omega)]
    exact ⟨.ok expr, rfl, Popping.expression_spells spelled rest _ (by omega)⟩
  · rw [parts, readOpen_stray]
    exact ⟨.error .unexpectedClose, rfl, Popping.expression_close below rest⟩
  · rw [readOpen_cutOff ended [] depth (by omega)]
    exact ⟨.error .unexpectedEnd, rfl, Popping.expression_cutOff ended _ (by omega)⟩

/-- Reading accepts exactly the grammar from any position, fails where the tokens do not follow it,
and agrees with a reader that pops tokens. Expressions in a row are read in order, and what stands
behind an expression does not matter. -/
theorem read_accepts_grammar (tokens : List String) (position depth : Nat)
    (inside : position ≤ tokens.length) (enough : tokens.length ≤ depth) :
    Follows tokens position ((seek tokens position).read depth) ∧
    (∀ steps, 2 * tokens.length + 1 ≤ steps →
      ∃ result, ((seek tokens position).read depth).1 = result.mapError Failure.unreadable ∧
        (Popping.expression steps).outcome (tokens.drop position) =
          some (result, ((seek tokens position).read depth).2.rest)) ∧
    (∀ taken exprs, taken <+: tokens.drop position → SpellsAll taken exprs →
      (seek tokens position).readMany depth exprs.length =
        (.ok exprs, seek tokens (position + taken.length))) ∧
    (∀ taken expr others, taken <+: tokens.drop position → Spells taken expr →
      let changed := tokens.take position ++ taken ++ others
      (seek changed position).read depth = (.ok expr, seek changed (position + taken.length))) := by
  refine ⟨read_follows inside enough, fun steps lasting => outcome_expression enough lasting, ?_, ?_⟩
  · intro taken exprs start spelled
    obtain ⟨rest, parts⟩ := start
    have fits := congrArg List.length parts
    rw [List.length_append, List.length_drop] at fits
    exact readMany_spellsAll parts.symm spelled (by omega)
  · intro taken expr others start spelled
    obtain ⟨rest, parts⟩ := start
    have fits := congrArg List.length parts
    rw [List.length_append, List.length_drop] at fits
    have before : (tokens.take position).length = position := List.length_take_of_le inside
    have behind : (tokens.take position ++ taken ++ others).drop position = taken ++ others := by
      rw [List.append_assoc, List.drop_left' before]
    exact read_spells behind spelled (by omega)

theorem read_accepts_grammar_inside_list :
    1 ≤ ["(", "(", "x", ")", "y"].length ∧ ["(", "(", "x", ")", "y"].length ≤ 5 ∧
    (seek ["(", "(", "x", ")", "y"] 1).readMany 5 2 =
      (.ok [.list [.ofToken "x"], .ofToken "y"], seek ["(", "(", "x", ")", "y"] 5) := by
  have named : Spells ["x"] (.ofToken "x") := .atom (by decide) (by decide)
  have other : Spells ["y"] (.ofToken "y") := .atom (by decide) (by decide)
  have spelled : SpellsAll ["(", "x", ")", "y"] [.list [.ofToken "x"], .ofToken "y"] :=
    .cons (.list (.cons named .nil)) (.cons other .nil)
  obtain ⟨-, -, inOrder, -⟩ :=
    read_accepts_grammar ["(", "(", "x", ")", "y"] 1 5 (by decide) (by decide)
  exact ⟨by decide, by decide, inOrder _ _ (by decide) spelled⟩

end TokenStream

end MiniLisp
