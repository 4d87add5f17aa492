import MiniLisp.Proofs.Completion
import MiniLisp.Proofs.Identities
import MiniLisp.Proofs.RoundTrip

/-!
Lines one by one, and all of them in one `begin`. A `begin` around lines is read as the list of what
the lines hold. Its procedure is looked up before any of them is evaluated, they are evaluated in
order and in the same frame as one by one, and the first failure ends both: there is no difference,
but that all lines are read first, so that identities are given out in another order.
-/

namespace MiniLisp

open List (Forall₂)

theorem denotes_of_parse {room : Nat} {line : String} {expr : Expr}
    (read : parse room line = .ok expr) : Denotes line expr :=
  ⟨tokenWords line.toList, spells_of_parse read, fun _ => tokenWords_append line.toList⟩

theorem denotes_begin : Denotes "begin" (.symbol "begin") := by
  have named : Expr.ofToken "begin" = .symbol "begin" := by with_unfolding_all rfl
  exact @tokenizes_atom (.symbol "begin") (by decide) named (by simp)

def joined (lines : List String) : String := "(begin " ++ " ".intercalate lines ++ ")"

theorem parse_joined {depth : Nat} {lines : List String} {exprs : List Expr}
    (some_line : lines ≠ [])
    (reads : Forall₂ (fun line expr => parse depth line = .ok expr) lines exprs) :
    parse (depth + 1) (joined lines) = .ok (.list (.symbol "begin" :: exprs)) := by
  have same : joined lines = "(" ++ " ".intercalate ("begin" :: lines) ++ ")" := by
    obtain ⟨line, rest, rfl⟩ := List.exists_cons_of_ne_nil some_line
    simp [joined, String.intercalate_cons_cons, ← String.append_assoc]
  have heights : Expr.heights exprs ≤ depth := by
    clear same some_line
    induction reads with
    | nil => exact Nat.zero_le depth
    | cons first _ ih => exact Nat.max_le.mpr ⟨(canBeWritten_of_parse first).1, ih⟩
  rw [same]
  refine parse_of_denotes (denotes_list (.cons denotes_begin ?_)) ?_
  · exact reads.imp fun _ _ => denotes_of_parse
  · simpa [Expr.height, Expr.heights] using heights

namespace Pairing

/-- Identities that were given out on the right and that are not paired yet. -/
structure Reserved (now : Pairing) (start finish : ObjectId) : Prop where
  given : finish ≤ now.right
  unpaired : ∀ {id id'}, now.same id id' → id' < start ∨ finish ≤ id'

def reserve (now : Pairing) (right : ObjectId) (more : now.right ≤ right) : Pairing :=
  { now with
    right := right
    below := fun paired =>
      (now.below paired).imp_right fun within => Nat.lt_of_lt_of_le within more }

end Pairing

namespace Session

open Pairing

/-- Evaluates lines in turn up to the first one that fails. The result is that of the last one, or
else `last`. -/
def evaluateInTurn (depth : Nat) (last : Value) (session : Session) :
    List String → Except Failure Value × Session
  | [] => (.ok last, session)
  | line :: lines =>
    match session.evaluate depth line with
    | (.ok value, session) => session.evaluateInTurn depth value lines
    | failed => failed

variable {now : Pairing} {session : Session} {store : Store} {depth : Nat} {line : String}
  {expr : Expr} {origin : ObjectId}

theorem turn (alike : now.Alike session.store store) (read : parse depth line = .ok expr)
    (reserved : now.Reserved origin (expr.toValue origin).2) :
    let run := session.evaluate depth line
    let run' := (MiniLisp.evaluate depth (expr.toValue origin).1 session.global).outcome store
    ∃ later : Pairing, (∀ {id id'}, now.same id id' → later.same id id') ∧
      later.Alike run.2.store run'.2 ∧ later.Results run.1 run'.1 ∧
      ∀ finish, now.Reserved origin finish → (expr.toValue origin).2 ≤ finish →
        later.Reserved (expr.toValue origin).2 finish := by
  obtain ⟨count, left, right, renumbered⟩ := madeAlike_expr expr now.left origin
  obtain ⟨given, unpaired⟩ := reserved
  rw [right] at given unpaired
  have same_right : (now.pair origin count unpaired).right = now.right := Nat.max_eq_left given
  have paired : (now.pair origin count unpaired).Alike
      { session.store with nextId := (expr.toValue now.left).2 }
      { store with nextId := store.nextId } :=
    alike.continued .inl left (alike.right.trans same_right.symm)
  obtain ⟨later, passed, stores, results⟩ := evaluate_renumbered depth session.global
    (renumbered _ fun _ within => same_pair within) paired
  rw [session.evaluate_read read, alike.left]
  refine ⟨later, fun paired => passed.kept (.inl paired), stores, results, ?_⟩
  intro finish beyond upto
  refine ⟨Nat.le_trans (same_right ▸ beyond.given) passed.grown, fun {id id'} both => ?_⟩
  rcases passed.fresh both with (before | ⟨k, within, -, rfl⟩) | after
  · exact (beyond.unpaired before).imp_left fun below => right ▸ Nat.lt_add_right count below
  · exact .inl (right ▸ Nat.add_lt_add_left within origin)
  · exact .inr (Nat.le_trans beyond.given (same_right ▸ after))

def LastOf (now : Pairing) (last : Value) :
    Except Failure Value → Except Failure (List Value) → Prop :=
  Agree (fun _ => False) (fun value values => Renumbered now.same value (values.getLastD last)) Eq

theorem LastOf.cons {last value : Value} {result : Except Failure Value}
    {values : Except Failure (List Value)} (rest : LastOf now value result values) :
    LastOf now last result (values.map (value :: ·)) := by
  cases rest with
  | ok holds => exact .ok (by rwa [List.getLastD_cons])
  | error same => exact .error same
  | cut contrary => exact contrary.elim

theorem LastOf.results {last : Value} {result : Except Failure Value}
    {values : Except Failure (List Value)} (rest : LastOf now last result values) :
    now.Results result (values.map (·.getLastD last)) := by
  cases rest with
  | ok holds => exact .ok holds
  | error same => exact .error same
  | cut contrary => exact contrary.elim

theorem turns {last last' : Value} {lines : List String} {exprs : List Expr}
    (alike : now.Alike session.store store) (before : Renumbered now.same last last')
    (reads : Forall₂ (fun line expr => parse depth line = .ok expr) lines exprs)
    (reserved : now.Reserved origin (Expr.toValues origin exprs).2) :
    let run := session.evaluateInTurn depth last lines
    let run' := ((Expr.toValues origin exprs).1.mapM fun code =>
      MiniLisp.evaluate depth code session.global).outcome store
    ∃ later : Pairing, (∀ {id id'}, now.same id id' → later.same id id') ∧
      later.Alike run.2.store run'.2 ∧ run.2.global = session.global ∧
      LastOf later last' run.1 run'.1 := by
  induction reads generalizing now session store origin last last' with
  | nil => exact ⟨now, id, alike, rfl, .ok before⟩
  | @cons line expr lines exprs read reads ih =>
      rw [toValues_cons] at reserved ⊢
      have upto : (expr.toValue origin).2 ≤ (Expr.toValues (expr.toValue origin).2 exprs).2 :=
        le_toValues fun other _ next => le_toValue next other
      have own : now.Reserved origin (expr.toValue origin).2 :=
        ⟨Nat.le_trans upto reserved.given, fun paired =>
          (reserved.unpaired paired).imp_right (Nat.le_trans upto)⟩
      obtain ⟨later, kept, stores, results, beyond⟩ := turn alike read own
      have global : (session.evaluate depth line).2.global = session.global := rfl
      rcases ended : session.evaluate depth line with ⟨result, after⟩
      rcases ended' : (MiniLisp.evaluate depth (expr.toValue origin).1 session.global).outcome store
        with ⟨result', after'⟩
      rw [ended, ended'] at stores results
      rw [ended] at global
      dsimp only at stores results global
      cases results with
      | error same =>
          rw [evaluateInTurn, ended,
            Action.outcome_mapM_error (MiniLisp.evaluate depth · session.global) ended']
          exact ⟨later, kept, stores, global, .error same⟩
      | cut contrary => exact contrary.elim
      | @ok value value' renumbered =>
          rw [evaluateInTurn, ended,
            Action.outcome_mapM_ok (MiniLisp.evaluate depth · session.global) ended']
          obtain ⟨final, kept', stores', global', rest⟩ :=
            ih stores renumbered (beyond _ reserved upto)
          rw [global] at stores' rest
          exact ⟨final, fun paired => kept' (kept paired), stores', global'.trans global, rest.cons⟩

theorem evaluate_begin (store : Store) {frame : FrameId} {codes : List Value} (id : ObjectId)
    (bound : store.get? "begin" frame = some (.primitive (.operation .begin)))
    (some_code : codes ≠ []) :
    let run := (codes.mapM fun code => MiniLisp.evaluate depth code frame).outcome store
    (MiniLisp.evaluate (depth + 1) (.list id (.symbol "begin" :: codes)) frame).outcome store =
      (run.1.map (·.getLastD .nothing), run.2) := by
  have plain : (Value.symbol "begin").keyword? = none := by decide
  rw [MiniLisp.evaluate]
  simp only [plain]
  rw [Action.outcome_bind]
  cases depth with
  | zero =>
      obtain ⟨code, rest, rfl⟩ := List.exists_cons_of_ne_nil some_code
      have failed :
          (MiniLisp.evaluate 0 code frame).outcome store = (.error .depthExceeded, store) := by
        rw [MiniLisp.evaluate, Action.outcome_throw]
      rw [Action.outcome_mapM_error (MiniLisp.evaluate 0 · frame) failed, MiniLisp.evaluate,
        Action.outcome_throw]
      rfl
  | succ below =>
      have found : store.lookup? "begin" frame = some (.primitive (.operation .begin)) := by
        have here : ((store.bindingsOf frame).get? "begin").isSome := by
          rw [← Store.get?, bound]
          rfl
        rw [Store.lookup?, Store.find?, if_pos here, Option.bind_some, bound]
      rw [MiniLisp.evaluate, Action.outcome_read, found]
      dsimp only
      rw [Action.outcome_bind]
      rcases (codes.mapM fun code => MiniLisp.evaluate (below + 1) code frame).outcome store
        with ⟨failure | values, after⟩
      · rfl
      · have answered : Operation.begin.answer below values = .ok (Value.last values) := rfl
        dsimp only
        rw [MiniLisp.apply, Action.outcome_reportedBy, Action.outcome_bind,
          Action.outcome_ofExcept, answered]
        dsimp only
        have last : (values.getLastD .nothing) = values.getLast?.getD .nothing :=
          List.getLastD_eq_getLast?
        rw [Action.outcome_allocate, Value.last, Except.map, last]
        cases values.getLast? <;> rfl

/-- The same outcome up to identities: those below `next` are the same on both sides. -/
def SameOutcome (next : ObjectId) (outcome outcome' : Except Failure Value × Session) : Prop :=
  ∃ now : Pairing, (∀ id < next, now.same id id) ∧
    now.Alike outcome.2.store outcome'.2.store ∧ outcome.2.global = outcome'.2.global ∧
    now.Results outcome.1 outcome'.1

theorem evaluateInTurn_joined {lines : List String} {exprs : List Expr} {next : ObjectId}
    {some_given : Value.firstFresh ≤ next}
    (alike : (diagonal next some_given).Alike session.store session.store)
    (bound : session.store.get? "begin" session.global = some (.primitive (.operation .begin)))
    (some_line : lines ≠ [])
    (reads : Forall₂ (fun line expr => parse depth line = .ok expr) lines exprs) :
    SameOutcome next (session.evaluateInTurn depth .nothing lines)
      (session.evaluate (depth + 1) (joined lines)) := by
  have read := parse_joined some_line reads
  have upto : next ≤ (Expr.toValues next exprs).2 :=
    le_toValues fun other _ next => le_toValue next other
  have some_code : (Expr.toValues next exprs).1 ≠ [] := by
    cases reads with
    | nil => exact absurd rfl some_line
    | cons => simp [toValues_cons]
  have code : (Expr.list (.symbol "begin" :: exprs)).toValue next =
      (.list (Expr.toValues next exprs).2 (.symbol "begin" :: (Expr.toValues next exprs).1),
        (Expr.toValues next exprs).2 + 1) := by
    rw [toValue_list, toValues_cons, Expr.toValue]
  have started : session.store.nextId = next := alike.left
  have more : next ≤ (Expr.toValues next exprs).2 + 1 := Nat.le_succ_of_le upto
  have ahead : ((diagonal next some_given).reserve _ more).Alike session.store
      { session.store with nextId := (Expr.toValues next exprs).2 + 1 } :=
    alike.continued id alike.left rfl
  have reserved : ((diagonal next some_given).reserve _ more).Reserved next
      (Expr.toValues next exprs).2 :=
    ⟨Nat.le_succ _, fun ⟨same, given⟩ => .inl (same ▸ given)⟩
  have nothing : Renumbered ((diagonal next some_given).reserve _ more).same .nothing .nothing :=
    .plain rfl
  obtain ⟨later, kept, stores, global, last⟩ := turns ahead nothing reads reserved
  rw [session.evaluate_read read, started, code]
  dsimp only
  rw [evaluate_begin { session.store with nextId := (Expr.toValues next exprs).2 + 1 } _ bound
    some_code]
  exact ⟨later, fun id given => kept ⟨rfl, given⟩, stores, global, last.results⟩

theorem SameOutcome.under {next : ObjectId} {outcome : Except Failure Value × Session}
    (same : SameOutcome next outcome (session.evaluate depth line)) (limit : Nat) :
    outcome.1 = .error .depthExceeded ∨ (session.evaluate limit line).1 = .error .depthExceeded ∨
      SameOutcome next outcome (session.evaluate limit line) := by
  rcases Nat.le_total limit depth with less | more
  · rcases session.evaluate_same_or_cut line less with equal | cut
    · exact .inr (.inr (equal ▸ same))
    · exact .inr (.inl cut)
  · rcases session.evaluate_same_or_cut line more with equal | cut
    · exact .inr (.inr (equal ▸ same))
    · obtain ⟨now, -, -, -, results⟩ := same
      rw [cut] at results
      left
      rcases outcome with ⟨result, after⟩
      cases results with
      | error same => exact congrArg _ same
      | cut contrary => exact contrary.elim

theorem exists_reads {lines : List String}
    (readable : ∀ line ∈ lines, ∃ expr, parse depth line = .ok expr) :
    ∃ exprs, Forall₂ (fun line expr => parse depth line = .ok expr) lines exprs := by
  induction lines with
  | nil => exact ⟨[], .nil⟩
  | cons line lines ih =>
      obtain ⟨expr, read⟩ := readable line List.mem_cons_self
      obtain ⟨exprs, reads⟩ :=
        ih fun other member => readable other (List.mem_cons_of_mem line member)
      exact ⟨expr :: exprs, .cons read reads⟩

/-- Lines of which each can be read come to the same one by one and all in one `begin`, also if one
of them defines `begin` anew: to the same result or failure, the same frames and the same output, up
to identities. In one `begin` they nest one deeper. -/
theorem evaluate_joined (before : List (Nat × String)) (depth : Nat) (lines : List String)
    (bound : let session := (start.evaluateAll before).2
      session.store.get? "begin" session.global = some (.primitive (.operation .begin)))
    (some_line : lines ≠ []) (readable : ∀ line ∈ lines, ∃ expr, parse depth line = .ok expr) :
    let session := (start.evaluateAll before).2
    let inTurn := session.evaluateInTurn depth .nothing lines
    SameOutcome session.store.nextId inTurn (session.evaluate (depth + 1) (joined lines)) ∧
    ∀ limit, inTurn.1 = .error .depthExceeded ∨
      (session.evaluate limit (joined lines)).1 = .error .depthExceeded ∨
      SameOutcome session.store.nextId inTurn (session.evaluate limit (joined lines)) := by
  intro session inTurn
  obtain ⟨some_given, alike⟩ := evaluateAll_diagonal before
  obtain ⟨exprs, reads⟩ := exists_reads readable
  have same :
      SameOutcome session.store.nextId inTurn (session.evaluate (depth + 1) (joined lines)) :=
    evaluateInTurn_joined alike bound some_line reads
  exact ⟨same, same.under⟩

theorem evaluate_definition {frame : FrameId} {target : String} {code value : Value} (id : ObjectId)
    (free : isKeyword target = false)
    (ended : (MiniLisp.evaluate depth code frame).outcome store = (.ok value, store)) :
    (MiniLisp.evaluate (depth + 1) (.list id [.symbol "define", .symbol target, code]) frame).outcome
      store = (.ok .nothing, store.define frame target value) := by
  have form : (Value.symbol "define").keyword? = some .definition := by decide
  rw [MiniLisp.evaluate]
  simp only [form, SpecialForm.evaluate, SpecialForm.definition, SpecialForm.bindableName, free,
    Bool.false_eq_true, if_false]
  rw [Action.outcome_bind, Action.outcome_ofExcept]
  dsimp only
  rw [Action.outcome_bind, ended]
  rfl

theorem evaluate_variable {name : String} {value : Value}
    (read : parse (depth + 1) line = .ok (.symbol name))
    (found : session.store.lookup? name session.global = some value) (assigned : value ≠ .unbound) :
    session.evaluate (depth + 1) line = (.ok value, session) := by
  have run : (MiniLisp.evaluate (depth + 1) (.symbol name) session.global).outcome session.store =
      (.ok value, session.store) := by
    rw [MiniLisp.evaluate, Action.outcome_read, found]
    cases value with
    | unbound => exact absurd rfl assigned
    | _ => rfl
  rw [session.evaluate_read read]
  exact congrArg (fun run => (run.1, Session.mk run.2 session.global)) run

def rebinding : List String := ["(define begin 7)", "begin"]

theorem evaluate_joined_rebinding :
    start.store.get? "begin" start.global = some (.primitive (.operation .begin)) ∧
    rebinding ≠ [] ∧ (∀ line ∈ rebinding, ∃ expr, parse 9 line = .ok expr) ∧
    joined rebinding = "(begin (define begin 7) begin)" ∧
    (start.evaluateInTurn 9 .nothing rebinding).1 = .ok (.int 7) ∧
    (start.evaluate 10 (joined rebinding)).1 = .ok (.int 7) := by
  have bound : start.store.get? "begin" start.global = some (.primitive (.operation .begin)) := by
    with_unfolding_all rfl
  have first : parse 9 "(define begin 7)" =
      .ok (.list [.symbol "define", .symbol "begin", .int 7]) := by with_unfolding_all rfl
  have second : parse 9 "begin" = .ok (.symbol "begin") := by with_unfolding_all rfl
  have readable : ∀ line ∈ rebinding, ∃ expr, parse 9 line = .ok expr :=
    List.forall_mem_cons.mpr ⟨⟨_, first⟩, List.forall_mem_singleton.mpr ⟨_, second⟩⟩
  have defined : start.evaluate 9 "(define begin 7)" =
      (.ok .nothing, ⟨{ start.store with nextId := 3 }.define 0 "begin" (.int 7), 0⟩) := by
    rw [start.evaluate_read first]
    dsimp only [Expr.toValue, Expr.toValues]
    rw [evaluate_definition _ (by decide) rfl]
    rfl
  have found : ({ start.store with nextId := 3 }.define 0 "begin" (.int 7)).lookup? "begin" 0 =
      some (.int 7) := by
    with_unfolding_all rfl
  have value : (start.evaluateInTurn 9 .nothing rebinding).1 = .ok (.int 7) := by
    rw [rebinding, evaluateInTurn, defined]
    dsimp only
    rw [evaluateInTurn, evaluate_variable second found (by simp)]
    rfl
  obtain ⟨same, -⟩ := evaluate_joined [] 9 rebinding bound (by decide) readable
  obtain ⟨now, -, -, -, results⟩ := same
  exact ⟨bound, by decide, readable, by decide, value, results.ok_of_plain value rfl⟩

end Session

end MiniLisp
