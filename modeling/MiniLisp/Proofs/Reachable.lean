import Mathlib.Logic.Relation
import MiniLisp.Proofs.Requests

namespace MiniLisp.Environment

def Leads (store later : Store) : Prop :=
  ∃ depth request, Request.Possible store request ∧ later = ((request.run depth).outcome store).2

def Reachable (store : Store) : Prop := Relation.ReflTransGen Leads Store.empty store

/-- A procedure with these parameters that has captured this frame takes any arguments: there is a
new frame for them, inside of the captured one. -/
def Extensible (store : Store) (parameters : List String) (captured : FrameId) : Prop :=
  captured < store.frames.size ∧ ∀ depth arguments,
    (make depth (parameters.map .symbol) arguments (some captured)).outcome store =
      (.ok store.frames.size,
        (store.push ⟨Bindings.ofArguments [] parameters arguments, some captured⟩).2)

theorem parameterNames_noName {depth : Nat} {parameters : List Value}
    (noName : ∃ parameter ∈ parameters, NoName parameter) :
    ∃ failure, SpecialForm.parameterNames depth parameters = .error failure := by
  fun_induction SpecialForm.parameterNames depth parameters with
  | case1 => simp at noName
  | case2 name rest ih =>
      have later : ∃ parameter ∈ rest, NoName parameter := by
        obtain ⟨parameter, member, other⟩ := noName
        rcases List.mem_cons.mp member with rfl | member
        · exact absurd rfl (other name)
        · exact ⟨parameter, member, other⟩
      obtain ⟨failure, failed⟩ := ih later
      exact ⟨failure, by rw [failed]; rfl⟩
  | case3 parameter rest =>
      cases parameter.mention depth with
      | error failure => exact ⟨failure, rfl⟩
      | ok text => exact ⟨.parameterExpected text, rfl⟩

theorem abstraction_refused {depth : Nat} {frame : FrameId} {id : ObjectId}
    {parameters : List Value} {body : Value} {store : Store}
    (noName : ∃ parameter ∈ parameters, NoName parameter) :
    Refused (SpecialForm.abstraction depth frame [.list id parameters, body]) store := by
  obtain ⟨failure, failed⟩ := parameterNames_noName noName
  refine ⟨failure, ?_⟩
  rw [SpecialForm.abstraction, Action.outcome_bind, Action.outcome_ofExcept, failed]

theorem lookup_refused {depth : Nat} {frame : FrameId} {name : Value} {store : Store}
    (noName : NoName name) : Refused (lookup depth frame name) store := by
  obtain ⟨failure, outcome⟩ : Refused (find depth frame name) store := withName_refused noName
  refine ⟨failure, ?_⟩
  rw [lookup, Action.outcome_bind, outcome]

section Extending

variable {store : Store} {depth : Nat} {outer : Option FrameId}

theorem define_pushed (bindings : Bindings) (name : String) (value : Value) :
    (store.push ⟨bindings, outer⟩).2.define store.frames.size name value =
      (store.push ⟨bindings.set name value, outer⟩).2 := by
  have frames : ((store.push ⟨bindings, outer⟩).2.define store.frames.size name value).frames =
      (store.push ⟨bindings.set name value, outer⟩).2.frames := by
    apply Array.ext_getElem?
    intro other
    simp only [Store.define, Store.push, Array.getElem?_modify, Array.getElem?_push]
    grind
  simpa [Store.define, Store.push] using frames

theorem outcome_bindAll (bindings : Bindings) (parameters : List String) (arguments : List Value) :
    (bindAll depth store.frames.size (parameters.map .symbol) arguments).outcome
        (store.push ⟨bindings, outer⟩).2 =
      (.ok ⟨⟩, (store.push ⟨bindings.ofArguments parameters arguments, outer⟩).2) := by
  induction parameters generalizing bindings arguments with
  | nil => cases arguments <;> rfl
  | cons parameter parameters ih =>
      cases arguments with
      | nil =>
          rw [List.map_cons, bindAll, Action.outcome_bind, outcome_define, define_pushed]
          · exact ih _ []
          · simp
      | cons argument arguments =>
          rw [List.map_cons, bindAll, Action.outcome_bind, outcome_define, define_pushed]
          · exact ih _ arguments
          · simp

theorem outcome_make (depth : Nat) (parameters : List String) (arguments : List Value)
    (outer : Option FrameId) (store : Store) :
    (make depth (parameters.map .symbol) arguments outer).outcome store =
      (.ok store.frames.size,
        (store.push ⟨Bindings.ofArguments [] parameters arguments, outer⟩).2) := by
  have pushed : (modifyGet (Store.push · ⟨[], outer⟩) : Action FrameId).outcome store =
      (.ok store.frames.size, (store.push ⟨[], outer⟩).2) := rfl
  rw [make, Action.outcome_bind, pushed]
  dsimp only
  rw [Action.outcome_bind, outcome_bindAll]
  rfl

theorem extensible_of_lt {parameters : List String} {captured : FrameId}
    (inside : captured < store.frames.size) : Extensible store parameters captured :=
  ⟨inside, fun depth arguments => outcome_make depth parameters arguments (some captured) store⟩

theorem procedures_extensible {value : Value} (below : value.CapturesBelow store.frames.size) :
    value.Procedures fun parameters _ captured => Extensible store parameters captured :=
  (Value.capturesBelow_iff.mp below).mono fun _ _ _ inside => extensible_of_lt inside

end Extending

section Reachable

variable {store later : Store}

theorem Leads.upholds (leads : Leads store later) (wellFormed : store.WellFormed) :
    later.WellFormed ∧ store.links ≤ later.links := by
  obtain ⟨depth, request, possible, rfl⟩ := leads
  have upholds := Request.run_upholds wellFormed possible depth
  exact ⟨upholds.wellFormed, upholds.linked⟩

theorem upholds_all (leads : Relation.ReflTransGen Leads store later)
    (wellFormed : store.WellFormed) : later.WellFormed ∧ store.links ≤ later.links := by
  induction leads with
  | refl => exact ⟨wellFormed, le_rfl⟩
  | tail _ last ih =>
      obtain ⟨wellFormed', linked'⟩ := last.upholds ih.1
      exact ⟨wellFormed', ih.2.trans linked'⟩

theorem empty_wellFormed : Store.empty.WellFormed where
  outward := by
    intro frame outer linked
    simp [Store.links, Store.empty] at linked
  closed := by
    intro frame binding member
    simp [Store.bindingsOf, Store.empty] at member

theorem Reachable.wellFormed (reachable : Reachable store) : store.WellFormed :=
  (upholds_all reachable empty_wellFormed).1

theorem Request.leads_evaluate (store : Store) {frame : FrameId} (inside : frame < store.frames.size)
    (depth : Nat) (line : String) : Leads store ((evaluateLine depth line frame).outcome store).2 := by
  refine ⟨depth, .evaluate frame line, inside, ?_⟩
  rw [Request.run, Action.outcome_bind]
  rcases (evaluateLine depth line frame).outcome store with ⟨failure | value, after⟩ <;> rfl

theorem evaluateAll_reachable {session : Session} (reachable : Reachable session.store)
    (inside : session.global < session.store.frames.size) (lines : List (Nat × String)) :
    Reachable (session.evaluateAll lines).2.store := by
  induction lines generalizing session with
  | nil => exact reachable
  | cons line lines ih =>
      have leads := Request.leads_evaluate session.store inside line.1 line.2
      have linked := (leads.upholds reachable.wellFormed).2
      have evaluated : Reachable (session.evaluate line.1 line.2).2.store := reachable.tail leads
      exact ih evaluated (Nat.lt_of_lt_of_le inside (Store.size_mono linked))

theorem start_reachable (lines : List (Nat × String)) :
    Reachable (Session.start.evaluateAll lines).2.store := by
  have started : Leads Store.empty Session.start.store := ⟨0, .standard, trivial, rfl⟩
  exact evaluateAll_reachable (Relation.ReflTransGen.single started) Nat.one_pos lines

end Reachable

/-- In every store that requests lead to, good and bad ones in any order: nothing but symbols is bound
to a value or taken as a parameter; every frame is inside of an earlier one, if of any, and stays
inside of it; every procedure, bound or given in a reply, has captured a frame that exists and takes
any arguments; and the loop that looks for a name comes to an end, visits frames of the chain once at
most, and settles what is found, looked up and assigned. -/
theorem reachable_heap {store : Store} (reachable : Reachable store) :
    (∀ depth frame name value, NoName name →
      Refused (define depth frame name value) store ∧ Refused (assign depth frame name value) store ∧
      Refused (find depth frame name) store ∧ Refused (getOwn depth frame name) store ∧
      Refused (lookup depth frame name) store) ∧
    (∀ depth frame id parameters body, (∃ parameter ∈ parameters, NoName parameter) →
      Refused (SpecialForm.abstraction depth frame [.list id parameters, body]) store) ∧
    (∀ frame outer, store.outerOf frame = some outer → outer < frame) ∧
    (∀ later, Relation.ReflTransGen Leads store later → ∀ frame < store.frames.size,
      frame < later.frames.size ∧ later.outerOf frame = store.outerOf frame) ∧
    (∀ frame, ∀ binding ∈ store.bindingsOf frame,
      binding.2.Procedures fun parameters _ captured => Extensible store parameters captured) ∧
    (∀ depth request value after, Request.Possible store request →
      (request.run depth).outcome store = (.ok (.value value), after) →
      value.Procedures fun parameters _ captured => Extensible after parameters captured) ∧
    ∀ name frame, ∃ visited owner, Walk store name frame visited owner ∧
      visited.Nodup ∧ visited <+: chain store frame ∧
      ∀ depth value,
        (find depth frame (.symbol name)).outcome store = (orUnbound name owner, store) ∧
        (lookup depth frame (.symbol name)).outcome store =
          (orUnbound name (owner.bind (store.get? name)), store) ∧
        (assign depth frame (.symbol name) value).outcome store =
          owner.elim (.error (.unboundSymbol name), store)
            (fun owner => (.ok ⟨⟩, store.define owner name value)) ∧
        (getOwn depth frame (.symbol name)).outcome store =
          (orUnbound name (store.get? name frame), store) := by
  have wellFormed := reachable.wellFormed
  refine ⟨?_, ?_, ?_, ?_, ?_, ?_, ?_⟩
  · intro depth frame name value noName
    exact ⟨define_refused noName, withName_refused noName, withName_refused noName,
      withName_refused noName, lookup_refused noName⟩
  · intro depth frame id parameters body noName
    exact abstraction_refused noName
  · intro frame outer around
    exact wellFormed.outer_lt around
  · intro later leads frame inside
    have linked := (upholds_all leads wellFormed).2
    exact ⟨Nat.lt_of_lt_of_le inside (Store.size_mono linked), Store.outerOf_of_le linked inside⟩
  · intro frame binding member
    exact procedures_extensible (wellFormed.closed frame binding member)
  · intro depth request value after possible ended
    have sound := (Request.run_upholds wellFormed possible depth).given (.value value) (by rw [ended])
    rw [ended] at sound
    exact procedures_extensible sound
  · intro name frame
    obtain ⟨visited, walk⟩ := Walk.ends wellFormed name frame
    have once : visited.Nodup := (walk.descends wellFormed).1.imp Nat.ne_of_gt
    refine ⟨visited, _, walk, once, walk.prefix_chain wellFormed, fun depth value => ?_⟩
    exact ⟨outcome_find depth frame name store, outcome_lookup depth frame name store,
      outcome_assign depth frame name value store, outcome_getOwn depth frame name store⟩

def circular : Store :=
  { (Store.empty.push ⟨[("loop", .closure 5 ["x"] (.symbol "x") 0)], none⟩).2 with nextId := 6 }

theorem circular_reachable : Reachable circular := by
  have made : Leads Store.empty (Store.empty.push ⟨[], none⟩).2 :=
    ⟨9, .make [] [] none, ⟨by simp, by simp⟩, rfl⟩
  have parsed : parse 9 "(define loop (lambda (x) x))" = .ok (.list [.symbol "define",
      .symbol "loop", .list [.symbol "lambda", .list [.symbol "x"], .symbol "x"]]) := by
    with_unfolding_all rfl
  have ended : (evaluateLine 9 "(define loop (lambda (x) x))" 0).outcome
      (Store.empty.push ⟨[], none⟩).2 = (.ok .nothing, circular) := by
    rw [evaluateLine, Action.outcome_bind, Action.outcome_readCode, parsed]
    dsimp only [Expr.toValue, Expr.toValues]
    rw [MiniLisp.evaluate]
    rfl
  have evaluated : Leads (Store.empty.push ⟨[], none⟩).2 circular := by
    refine ⟨9, .evaluate 0 "(define loop (lambda (x) x))", Nat.one_pos, ?_⟩
    rw [Request.run, Action.outcome_bind, ended]
    rfl
  exact (Relation.ReflTransGen.single made).tail evaluated

theorem circular_heap :
    Reachable circular ∧ Extensible circular ["x"] 0 ∧
      ∃ visited owner, Walk circular "elsewhere" 0 visited owner ∧ visited.Nodup := by
  obtain ⟨-, -, -, -, bound, -, walks⟩ := reachable_heap circular_reachable
  have member : ("loop", Value.closure 5 ["x"] (.symbol "x") 0) ∈ circular.bindingsOf 0 :=
    List.mem_singleton_self _
  have extensible : Extensible circular ["x"] 0 := bound 0 _ member 5 ["x"] (.symbol "x") 0 .here
  obtain ⟨visited, owner, walk, once, -⟩ := walks "elsewhere" 0
  exact ⟨circular_reachable, extensible, visited, owner, walk, once⟩

end MiniLisp.Environment
