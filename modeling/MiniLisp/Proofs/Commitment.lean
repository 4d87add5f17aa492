import MiniLisp.Proofs.Aliasing
import MiniLisp.Proofs.Failures
import MiniLisp.Proofs.Reserved

namespace MiniLisp

namespace Keyword

def Takes : Keyword → Nat → Prop
  | quotation, count => count = 1
  | conditional, count => count = 2 ∨ count = 3
  | definition, count | assignment, count | abstraction, count => count = 2

def Fits : Keyword → Value → Prop
  | definition, target | assignment, target => ∃ name, target = .symbol name ∧ isKeyword name = false
  | abstraction, parameters => ∃ id, ∃ names : List String, parameters = .list id (names.map .symbol)
  | quotation, _ | conditional, _ => True

end Keyword

def Value.FromLine (value : Value) : Prop :=
  ∃ depth line expr next, parse depth line = .ok expr ∧ Within value (expr.toValue next).1

theorem Value.FromLine.legible {value : Value} (parsed : value.FromLine) : ¬ value.HoldsHuge := by
  obtain ⟨depth, line, expr, next, read, within⟩ := parsed
  exact fun huge => legible_of_parse read next (huge.of_within within)

/-- The form fails with the same failure from every state, with no effect and without evaluating
anything but itself, if it does not fail for want of depth. -/
structure RefusedAs (failure : Failure) (form : Value) (frame : FrameId) : Prop where
  enough : ∃ enough, ∀ depth, enough ≤ depth → ∀ store,
    (evaluate depth form frame).outcome store = (.error failure, store)
  cut : ∀ depth store, (evaluate depth form frame).outcome store = (.error failure, store) ∨
    (evaluate depth form frame).outcome store = (.error .depthExceeded, store)
  alone : ∀ depth chronicle, ((Recorded.evaluate depth form frame).outcome chronicle).2 =
    { chronicle with history := .evaluated form frame :: chronicle.history }

section Texts

variable {value : Value} {depth : Nat}

theorem mapM_total {α β : Type} {f : α → Except Failure β} {items : List α}
    (each : ∀ item ∈ items, ∃ y, f item = .ok y) : ∃ ys, items.mapM f = .ok ys := by
  induction items with
  | nil => exact ⟨[], rfl⟩
  | cons item items ih =>
      obtain ⟨y, first⟩ := each item List.mem_cons_self
      obtain ⟨ys, rest⟩ := ih fun other member => each other (List.mem_cons_of_mem item member)
      exact ⟨y :: ys, by rw [List.mapM_cons, first, rest]; rfl⟩

/-- The size of a value is depth enough to write it. -/
theorem Value.text_total {style : TextStyle} (legible : ¬ value.HoldsHuge)
    (small : sizeOf value < depth) : ∃ text, value.text style depth = .ok text := by
  induction depth generalizing value style with
  | zero => exact absurd small (Nat.not_lt_zero _)
  | succ depth ih =>
      have texts {items : List Value} (style : TextStyle) (legible : ∀ item ∈ items, ¬ item.HoldsHuge)
          (small : sizeOf items ≤ depth) : ∃ texts, items.mapM (text style depth) = .ok texts :=
        mapM_total fun item member =>
          ih (legible item member) (Nat.lt_of_lt_of_le (List.sizeOf_lt_of_mem member) small)
      cases value with
      | int n =>
          have few : n.natAbs < Nat.pow 10 maxNumeralLength :=
            Nat.lt_of_not_le fun large => legible ⟨n, .here, large⟩
          exact ⟨toString n, by rw [text, intText, if_pos few]⟩
      | list id items =>
          obtain ⟨written, each⟩ := texts style
            (fun item member huge => legible (huge.of_within (.list member .here)))
            (by rw [list.sizeOf_spec] at small; omega)
          exact ⟨listText style written, by rw [text, each]; rfl⟩
      | tuple id items =>
          obtain ⟨written, each⟩ := texts .detailed
            (fun item member huge => legible (huge.of_within (.tuple member .here)))
            (by rw [tuple.sizeOf_spec] at small; omega)
          exact ⟨tupleText written, by rw [text, each]; rfl⟩
      | closure id parameters body frame =>
          obtain ⟨written, each⟩ : ∃ written, body.text .plain depth = .ok written := ih
            (fun huge => legible (huge.of_within (.body .here)))
            (by rw [closure.sizeOf_spec] at small; omega)
          exact ⟨closureText parameters written, by rw [text, each]; rfl⟩
      | _ => exact ⟨_, rfl⟩

theorem Value.exists_mention (legible : ¬ value.HoldsHuge) :
    ∃ depth text, value.mention depth = .ok text := by
  obtain ⟨depth, text, written⟩ : ∃ depth text, value.text .detailed depth = .ok text :=
    ⟨_, text_total legible (Nat.lt_succ_self _)⟩
  cases value with
  | symbol name => exact ⟨depth, name, rfl⟩
  | _ => exact ⟨depth, text, written⟩

end Texts

namespace SpecialForm

theorem bindableName_refuses (form : Keyword) {target : Value} (legible : ¬ target.HoldsHuge)
    (unfit : ¬ ∃ name, target = .symbol name ∧ isKeyword name = false) :
    ∃ depth failure, bindableName depth form target = .error failure ∧
      failure.className = "LispyInvalidSymbol" := by
  obtain ⟨depth, text, mentioned⟩ := target.exists_mention legible
  cases target with
  | symbol name =>
      cases reserved : isKeyword name with
      | false => exact absurd ⟨name, rfl, reserved⟩ unfit
      | true => exact ⟨0, .reservedName form name, by simp [bindableName, reserved], rfl⟩
  | _ =>
    refine ⟨depth, .nameExpected form text, ?_, rfl⟩
    rw [bindableName, mentioned]
    · rfl
    · rintro name ⟨⟩

theorem parameterNames_refuses {parameters : List Value}
    (legible : ∀ parameter ∈ parameters, ¬ parameter.HoldsHuge)
    (unfit : ¬ ∃ names : List String, parameters = names.map .symbol) :
    ∃ depth failure, parameterNames depth parameters = .error failure ∧
      failure.className = "LispyInvalidSymbol" := by
  induction parameters with
  | nil => exact absurd ⟨[], rfl⟩ unfit
  | cons parameter parameters ih =>
      obtain ⟨depth, text, mentioned⟩ := parameter.exists_mention (legible _ List.mem_cons_self)
      cases parameter with
      | symbol name =>
          obtain ⟨depth, failure, refused, kind⟩ := ih
            (fun other member => legible other (List.mem_cons_of_mem _ member))
            fun ⟨names, same⟩ => unfit ⟨name :: names, by rw [same]; rfl⟩
          exact ⟨depth, failure, by rw [parameterNames, refused]; rfl, kind⟩
      | _ =>
        refine ⟨depth, .parameterExpected text, ?_, rfl⟩
        rw [parameterNames, mentioned]
        · rfl
        · rintro name ⟨⟩

end SpecialForm

section Refusal

variable {α : Type} {keyword : Keyword} {id : ObjectId} {operands : List Value} {frame : FrameId}
  {failure : Failure}

theorem evaluate_form (depth : Nat) (keyword : Keyword) (id : ObjectId) (operands : List Value)
    (frame : FrameId) :
    evaluate (depth + 1) (.list id (.symbol keyword.name :: operands)) frame =
      SpecialForm.evaluate depth (evaluate depth) frame operands keyword := by
  rw [evaluate, keyword?_name]

theorem Recorded.evaluate_form (depth : Nat) (keyword : Keyword) (id : ObjectId)
    (operands : List Value) (frame : FrameId) :
    evaluate (depth + 1) (.list id (.symbol keyword.name :: operands)) frame =
      noted (.evaluated (.list id (.symbol keyword.name :: operands)) frame)
        (specialForm depth (evaluate depth) frame operands keyword) := by
  rw [evaluate]
  simp only [keyword?_name]

theorem Recorded.noted_throw (beginning : Event) (failure : Failure) (chronicle : Chronicle) :
    (noted beginning (throw failure)).outcome chronicle =
      (.error failure, { chronicle with history := beginning :: chronicle.history }) := rfl

/-- A form is refused if it begins with a check that fails at every depth, and does so for another
reason than want of depth at one of them. -/
theorem refused_of_check (check : Nat → Except Failure α)
    (fails : ∀ depth failure, check depth = .error failure →
      Recorded.specialForm depth (Recorded.evaluate depth) frame operands keyword = throw failure)
    (lasting : ∀ low high, low ≤ high → SameOrCut (check low) (check high))
    (refused : ∃ depth, check depth = .error failure) (other : failure ≠ .depthExceeded) :
    RefusedAs failure (.list id (.symbol keyword.name :: operands)) frame := by
  obtain ⟨enough, refused⟩ := refused
  have later (depth : Nat) (le : enough ≤ depth) : check depth = .error failure := by
    rcases (lasting enough depth le).same_or_cut with same | cut
    · exact same.symm.trans refused
    · cases refused.symm.trans cut
      exact absurd rfl other
  have always (depth : Nat) : check depth = .error failure ∨ check depth = .error .depthExceeded :=
    (lasting depth (max depth enough) (Nat.le_max_left _ _)).same_or_cut.imp_left
      (·.trans (later _ (Nat.le_max_right _ _)))
  set form := Value.list id (.symbol keyword.name :: operands)
  have recorded {depth : Nat} {failure : Failure} (failed : check depth = .error failure)
      (chronicle : Chronicle) : (Recorded.evaluate (depth + 1) form frame).outcome chronicle =
        (.error failure, { chronicle with history := .evaluated form frame :: chronicle.history }) := by
    rw [Recorded.evaluate_form, fails depth failure failed, Recorded.noted_throw]
  have evaluated {depth : Nat} {failure : Failure} (failed : check depth = .error failure)
      (store : Store) : (evaluate (depth + 1) form frame).outcome store = (.error failure, store) := by
    obtain ⟨result, state⟩ := Recorded.evaluate_erases (depth + 1) form frame ⟨store, []⟩
    rw [recorded failed] at result state
    exact Prod.ext result.symm state.symm
  refine ⟨⟨enough + 1, fun depth le store => ?_⟩, fun depth store => ?_, fun depth chronicle => ?_⟩
  · obtain ⟨below, rfl⟩ := Nat.exists_eq_add_of_le' le
    exact evaluated (later (below + enough) (Nat.le_add_left _ _)) store
  · cases depth with
    | zero => exact .inr rfl
    | succ depth => exact (always depth).imp (evaluated · store) (evaluated · store)
  · cases depth with
    | zero => rfl
    | succ depth =>
        rcases always depth with failed | failed <;> rw [recorded failed]

theorem specialForm_miscounted (depth : Nat) (evaluation : Recorded.Evaluation) (frame : FrameId)
    (wrong : ¬ keyword.Takes operands.length) :
    Recorded.specialForm depth evaluation frame operands keyword = throw (.operandCount keyword) := by
  cases keyword with
  | quotation =>
      rcases operands with _ | ⟨datum, _ | _⟩
      · rfl
      · exact absurd rfl wrong
      · rfl
  | conditional =>
      rcases operands with _ | ⟨test, _ | ⟨consequent, _ | ⟨alternative, _ | _⟩⟩⟩
      · rfl
      · rfl
      · exact absurd (.inl rfl) wrong
      · exact absurd (.inr rfl) wrong
      · rfl
  | definition => exact Simulation.binding_miscounted evaluation frame wrong
  | assignment => exact Simulation.binding_miscounted evaluation frame wrong
  | abstraction =>
      rw [Recorded.specialForm, Simulation.abstraction_miscounted frame wrong]
      rfl

theorem refused_miscounted (id : ObjectId) (frame : FrameId)
    (wrong : ¬ keyword.Takes operands.length) :
    RefusedAs (.operandCount keyword) (.list id (.symbol keyword.name :: operands)) frame := by
  refine refused_of_check (fun _ => (.error (.operandCount keyword) : Except Failure Unit))
    ?_ (fun _ _ _ => .error (.same _)) ⟨0, rfl⟩ nofun
  intro depth failure failed
  cases failed
  exact specialForm_miscounted depth _ frame wrong

theorem binding_unnamed {depth : Nat} {form : Keyword} {target expr : Value}
    (write : String → Value → FrameId → Recorded PUnit) (evaluation : Recorded.Evaluation)
    (frame : FrameId) (failed : SpecialForm.bindableName depth form target = .error failure) :
    Recorded.binding depth form write evaluation frame [target, expr] = throw failure := by
  rw [Recorded.binding, failed]
  rfl

theorem ne_depthExceeded_of_className (named : failure.className = "LispyInvalidSymbol") :
    failure ≠ .depthExceeded := by
  rintro rfl
  simp [Failure.className] at named

theorem refused_target {target expr : Value} (id : ObjectId) (frame : FrameId)
    (binds : keyword = .definition ∨ keyword = .assignment) (legible : ¬ target.HoldsHuge)
    (unfit : ¬ ∃ name, target = .symbol name ∧ isKeyword name = false) :
    ∃ failure, failure.className = "LispyInvalidSymbol" ∧
      RefusedAs failure (.list id [.symbol keyword.name, target, expr]) frame := by
  obtain ⟨depth, failure, refused, kind⟩ :=
    SpecialForm.bindableName_refuses keyword legible unfit
  refine ⟨failure, kind, refused_of_check (SpecialForm.bindableName · keyword target)
    (fun depth failure failed => ?_) (fun _ _ le => bindableName_covers le keyword target)
    ⟨depth, refused⟩ (ne_depthExceeded_of_className kind)⟩
  rcases binds with rfl | rfl <;> exact binding_unnamed _ _ frame failed

theorem refused_reserved {name : String} (id : ObjectId) (expr : Value) (frame : FrameId)
    (reserved : isKeyword name = true) :
    RefusedAs (.reservedName .assignment name)
      (.list id [.symbol Keyword.assignment.name, .symbol name, expr]) frame := by
  have refused : SpecialForm.bindableName 0 .assignment (.symbol name) =
      .error (.reservedName .assignment name) := by
    rw [SpecialForm.bindableName, if_pos reserved]
  exact refused_of_check (SpecialForm.bindableName · .assignment (.symbol name))
    (fun depth failure failed => binding_unnamed _ _ frame failed)
    (fun _ _ le => bindableName_covers le .assignment (.symbol name)) ⟨0, refused⟩
    (ne_depthExceeded_of_className rfl)

theorem refused_parameters {parameters body : Value} (id : ObjectId) (frame : FrameId)
    (legible : ¬ parameters.HoldsHuge)
    (unfit : ¬ ∃ id, ∃ names : List String, parameters = .list id (names.map .symbol)) :
    ∃ failure, failure.className = "LispyInvalidSymbol" ∧
      RefusedAs failure (.list id [.symbol Keyword.abstraction.name, parameters, body]) frame := by
  cases parameters with
  | list listId items =>
      obtain ⟨depth, failure, refused, kind⟩ := SpecialForm.parameterNames_refuses
        (fun item member huge => legible (huge.of_within (.list member .here)))
        fun ⟨names, same⟩ => unfit ⟨listId, names, by rw [same]⟩
      refine ⟨failure, kind, refused_of_check (SpecialForm.parameterNames · items)
        (fun depth failure failed => ?_) (fun _ _ le => parameterNames_covers le items)
        ⟨depth, refused⟩ (ne_depthExceeded_of_className kind)⟩
      rw [Recorded.specialForm, SpecialForm.abstraction, failed]
      rfl
  | _ =>
    obtain ⟨depth, text, mentioned⟩ := Value.exists_mention legible
    refine ⟨.parametersExpected text, rfl, refused_of_check
      (fun depth => (Value.mention depth _ >>= fun text => .error (.parametersExpected text) :
        Except Failure Unit))
      (fun depth failure failed => ?_) (fun _ _ le =>
        (mention_covers le _).refusal fun _ _ => .parametersExpected)
      ⟨depth, by rw [mentioned]; rfl⟩ (ne_depthExceeded_of_className rfl)⟩
    rcases error_of_bind failed with failed | ⟨text, mentioned, failed⟩
    · rw [Recorded.specialForm, SpecialForm.abstraction, failed]
      · rfl
      · rintro id parameters ⟨⟩
    · cases failed
      rw [Recorded.specialForm, SpecialForm.abstraction, mentioned]
      · rfl
      · rintro id parameters ⟨⟩

end Refusal

section Commitment

open Environment (chain)

variable {name : String} {frame : FrameId} {depth : Nat} {store : Store}

theorem outcome_definition (id : ObjectId) (expr : Value) (depth : Nat) (store : Store)
    (free : isKeyword name = false) :
    (evaluate (depth + 1) (.list id [.symbol Keyword.definition.name, .symbol name, expr])
        frame).outcome store =
      match (evaluate depth expr frame).outcome store with
      | (.ok value, after) => (.ok .nothing, after.define frame name value)
      | (.error failure, after) => (.error failure, after) := by
  rw [evaluate_form, SpecialForm.evaluate, SpecialForm.definition,
    SpecialForm.bindableName, free]
  rw [Action.outcome_bind, Action.outcome_ofExcept]
  simp only [Bool.false_eq_true, if_false]
  rw [Action.outcome_bind]
  rcases (evaluate depth expr frame).outcome store with ⟨_ | value, after⟩ <;> rfl

theorem outcome_assignment (id : ObjectId) (expr : Value) (depth : Nat) (store : Store)
    (free : isKeyword name = false) :
    (evaluate (depth + 1) (.list id [.symbol Keyword.assignment.name, .symbol name, expr])
        frame).outcome store =
      match (evaluate depth expr frame).outcome store with
      | (.ok value, after) =>
          match after.find? name frame with
          | some owner => (.ok .nothing, after.define owner name value)
          | none => (.error (.unboundSymbol name), after)
      | (.error failure, after) => (.error failure, after) := by
  rw [evaluate_form, SpecialForm.evaluate, SpecialForm.assignment,
    SpecialForm.bindableName, free]
  rw [Action.outcome_bind, Action.outcome_ofExcept]
  simp only [Bool.false_eq_true, if_false]
  rw [Action.outcome_bind]
  rcases (evaluate depth expr frame).outcome store with ⟨_ | value, after⟩
  · rfl
  · dsimp only
    rw [Action.outcome_bind, Action.outcome_assign, Store.assign?]
    cases after.find? name frame <;> rfl

theorem Store.find?_eq_none_iff : store.find? name frame = none ↔
    ∀ other ∈ chain store frame, store.get? name other = none := by
  rw [find?_eq_chain, List.find?_eq_none]
  simp

/-- A form whose operands were read is refused for their number, and else for the shape of the first
one, from every state and without any effect: none of its operands is evaluated. A definition or an
assignment of a name that may be bound ends as its operand does if that fails. If the operand has a
value, a definition binds the name to it, and an assignment binds it in the nearest frame that binds
the name now, after all that the operand has done; if none does, the assignment fails and leaves
what the operand has left. -/
theorem forms_commit_last (keyword : Keyword) (id : ObjectId) (operands : List Value)
    (frame : FrameId) (parsed : ∀ operand ∈ operands, operand.FromLine) :
    let form := Value.list id (.symbol keyword.name :: operands)
    (¬ keyword.Takes operands.length →
      (Failure.operandCount keyword).className = "LispyArityError" ∧
      RefusedAs (.operandCount keyword) form frame) ∧
    (keyword.Takes operands.length →
      ∀ first rest, operands = first :: rest → ¬ keyword.Fits first →
      ∃ failure, failure.className = "LispyInvalidSymbol" ∧ RefusedAs failure form frame) ∧
    ∀ name expr, operands = [.symbol name, expr] → isKeyword name = false →
      keyword = .definition ∨ keyword = .assignment → ∀ depth store,
      let operand := (evaluate depth expr frame).outcome store
      let whole := (evaluate (depth + 1) form frame).outcome store
      let after := operand.2
      (∀ failure, operand.1 = .error failure → whole = operand) ∧
      ∀ value, operand.1 = .ok value →
        (keyword = .definition → whole = (.ok .nothing, after.define frame name value)) ∧
        (keyword = .assignment →
          (∀ owner, after.Exposes name (chain after frame) owner → (after.get? name owner).isSome →
            whole = (.ok .nothing, after.define owner name value)) ∧
          ((∀ other ∈ chain after frame, after.get? name other = none) →
            (Failure.unboundSymbol name).className = "LispyUnboundSymbol" ∧
            whole = (.error (.unboundSymbol name), after))) := by
  intro form
  refine ⟨fun wrong => ⟨rfl, refused_miscounted id frame wrong⟩, ?_, ?_⟩
  · rintro count first rest rfl unfit
    have legible := (parsed first List.mem_cons_self).legible
    cases keyword with
    | quotation | conditional => exact absurd trivial unfit
    | definition =>
        obtain ⟨expr, rfl⟩ := List.length_eq_one_iff.mp (Nat.succ.inj count)
        exact refused_target id frame (.inl rfl) legible unfit
    | assignment =>
        obtain ⟨expr, rfl⟩ := List.length_eq_one_iff.mp (Nat.succ.inj count)
        exact refused_target id frame (.inr rfl) legible unfit
    | abstraction =>
        obtain ⟨body, rfl⟩ := List.length_eq_one_iff.mp (Nat.succ.inj count)
        exact refused_parameters id frame legible unfit
  · rintro name expr rfl free binds depth store operand whole after
    have ended : (evaluate depth expr frame).outcome store = (operand.1, after) := rfl
    rcases binds with rfl | rfl
    · have written : whole = _ := outcome_definition id expr depth store free
      rw [ended] at written
      refine ⟨fun failure failed => ?_, fun value given => ⟨fun _ => ?_, nofun⟩⟩
      · rw [failed] at written
        exact written.trans (Prod.ext failed.symm rfl)
      · rw [given] at written
        exact written
    · have written : whole = _ := outcome_assignment id expr depth store free
      rw [ended] at written
      refine ⟨fun failure failed => ?_, fun value given => ⟨nofun, fun _ =>
        ⟨fun owner exposed bound => ?_, fun unbound => ⟨rfl, ?_⟩⟩⟩⟩
      · rw [failed] at written
        exact written.trans (Prod.ext failed.symm rfl)
      · rw [given] at written
        simp only [Store.find?_eq_some_iff.mpr ⟨exposed, bound⟩] at written
        exact written
      · rw [given] at written
        simp only [Store.find?_eq_none_iff.mpr unbound] at written
        exact written

def defineOne : Value := .list 2 [.symbol "define", .symbol "x", .int 1]

theorem defineOne_assigned :
    (∀ name ∈ ["x", "if"], ∀ operand ∈ [.symbol name, defineOne], operand.FromLine) ∧
    Session.start.store.find? "x" 0 = none ∧
    (evaluate 9 (.list 3 [.symbol "set!", .symbol "x", defineOne]) 0).outcome Session.start.store =
      (.ok .nothing, (Session.start.store.define 0 "x" (.int 1)).define 0 "x" .nothing) ∧
    ∃ failure, failure.className = "LispyInvalidSymbol" ∧
      RefusedAs failure (.list 3 [.symbol "set!", .symbol "if", defineOne]) 0 := by
  have word (name : String) (among : name ∈ ["x", "if"]) : (Value.symbol name).FromLine := by
    refine ⟨9, name, .symbol name, 0, ?_, .here⟩
    rcases List.mem_pair.mp among with rfl | rfl <;> with_unfolding_all rfl
  have definition : defineOne.FromLine := by
    refine ⟨9, "(define x 1)", .list [.symbol "define", .symbol "x", .int 1], 2, ?_, .here⟩
    with_unfolding_all rfl
  have parsed (name : String) (among : name ∈ ["x", "if"]) :
      ∀ operand ∈ [.symbol name, defineOne], operand.FromLine := by
    intro operand member
    rcases List.mem_pair.mp member with rfl | rfl
    · exact word name among
    · exact definition
  refine ⟨parsed, ?_, ?_, ?_⟩
  · rw [Store.find?_eq_none_iff, chain]
    rintro other member
    obtain rfl := List.mem_singleton.mp member
    rfl
  · obtain ⟨-, -, commits⟩ := forms_commit_last .assignment 3 _ 0 (parsed "x" (by decide))
    obtain ⟨-, written⟩ := commits "x" defineOne rfl (by decide) (.inr rfl) 8 Session.start.store
    refine ((written .nothing rfl).2 rfl).1 0 ⟨[], [], ?_, by simp⟩ rfl
    rw [chain]
    rfl
  · obtain ⟨-, refused, -⟩ := forms_commit_last .assignment 3 _ 0 (parsed "if" (by decide))
    refine refused rfl (.symbol "if") [defineOne] rfl ?_
    rintro ⟨name, same, free⟩
    cases same
    exact absurd free (by decide)

end Commitment

end MiniLisp
