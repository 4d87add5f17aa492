import MiniLisp.Proofs.Commitment
import MiniLisp.Proofs.Footprint
import MiniLisp.Proofs.Reachable

/-!
What a call binds. A name is bound to the argument at its last place among the parameters, and to
the placeholder if there is no argument at that place, whatever stands at an earlier one. The binding
is in the new frame: a placeholder hides what frames around it bind, and an assignment fills it.
-/

namespace MiniLisp

/-- The name stands at the place among the parameters, and at no later one. -/
def LastPlace (parameters : List String) (name : String) (place : Nat) : Prop :=
  parameters[place]? = some name ∧ name ∉ parameters.drop (place + 1)

namespace Bindings

variable {bindings : Bindings} {parameters : List String} {arguments : List Value} {name : String}

theorem ofArguments_cons (bindings : Bindings) (parameter : String) (parameters : List String)
    (arguments : List Value) : bindings.ofArguments (parameter :: parameters) arguments =
      (bindings.set parameter (arguments.head?.getD .unbound)).ofArguments parameters
        arguments.tail := by
  cases arguments <;> rfl

theorem get?_ofArguments_absent (absent : name ∉ parameters) :
    (bindings.ofArguments parameters arguments).get? name = bindings.get? name := by
  induction parameters generalizing bindings arguments with
  | nil => rfl
  | cons parameter parameters ih =>
      rw [List.mem_cons, not_or] at absent
      obtain ⟨other, absent⟩ := absent
      rw [ofArguments_cons, ih absent, get?_set, if_neg other]

/-- By induction on the parameters: what is bound at a place stays bound if the name does not come
again. -/
theorem get?_ofArguments_last {place : Nat} (last : LastPlace parameters name place) :
    (bindings.ofArguments parameters arguments).get? name =
      some (arguments[place]?.getD .unbound) := by
  induction parameters generalizing bindings arguments place with
  | nil => cases last.1
  | cons parameter parameters ih =>
      rw [ofArguments_cons]
      cases place with
      | zero =>
          obtain ⟨here, absent⟩ := last
          obtain rfl : parameter = name := by simpa using here
          have absent : parameter ∉ parameters := absent
          rw [get?_ofArguments_absent absent, get?_set, if_pos rfl]
          cases arguments <;> rfl
      | succ place =>
          have later : LastPlace parameters name place := last
          rw [ih later]
          cases arguments <;> rfl

theorem isSome_get?_ofArguments :
    ((ofArguments [] parameters arguments).get? name).isSome ↔ name ∈ parameters := by
  constructor
  · intro bound
    by_contra absent
    rw [get?_ofArguments_absent absent] at bound
    cases bound
  · exact fun member => isSome_ofArguments name [] parameters arguments (.inl member)

theorem names_set_absent {value : Value} (absent : name ∉ bindings.names) :
    (bindings.set name value).names = bindings.names ++ [name] := by
  induction bindings with
  | nil => rfl
  | cons first rest ih =>
      rw [names, List.map_cons, List.mem_cons, not_or] at absent
      obtain ⟨other, absent⟩ := absent
      have later : (set name value rest).names = names rest ++ [name] := ih absent
      simpa [set, Ne.symm other, names] using later

theorem isSome_get?_of_mem_names (member : name ∈ bindings.names) :
    (bindings.get? name).isSome := by
  induction bindings with
  | nil => cases member
  | cons first rest ih =>
      by_cases same : first.1 = name
      · simp [get?, same]
      · have later : name ∈ names rest := (List.mem_cons.mp member).resolve_left (Ne.symm same)
        simpa [get?, same] using ih later

/-- Names that are not bound yet come after the others, each where it stands first. -/
theorem names_ofArguments (bindings : Bindings) (parameters : List String)
    (arguments : List Value) : (bindings.ofArguments parameters arguments).names =
      bindings.names ++ (parameters.removeAll bindings.names).eraseDups := by
  induction parameters generalizing bindings arguments with
  | nil => simp [ofArguments, List.removeAll]
  | cons parameter parameters ih =>
      rw [ofArguments_cons, ih]
      by_cases bound : parameter ∈ bindings.names
      · rw [names_set (isSome_get?_of_mem_names bound)]
        simp [List.removeAll, bound]
      · rw [names_set_absent bound, List.append_assoc]
        simp [List.removeAll, bound, List.eraseDups_cons, List.filter_filter, Bool.and_comm,
          beq_eq_decide]

theorem ofArguments_append (bindings : Bindings) (surplus : List Value)
    (enough : parameters.length ≤ arguments.length) :
    bindings.ofArguments parameters (arguments ++ surplus) =
      bindings.ofArguments parameters arguments := by
  induction parameters generalizing bindings arguments with
  | nil => rfl
  | cons parameter parameters ih =>
      cases arguments with
      | nil => cases enough
      | cons argument arguments => exact ih _ (Nat.le_of_succ_le_succ enough)

end Bindings

/-- A name that comes twice has the argument at its last place, though there is one at its first. -/
example : Bindings.ofArguments [] ["x", "y", "x"] [.int 1, .int 2] =
    [("x", .unbound), ("y", .int 2)] := rfl

section Calls

variable {store : Store} {name : String} {frame env : FrameId} {depth : Nat}

theorem apply_surplus (depth : Nat) (id : ObjectId) {parameters : List String} (body : Value)
    (captured : FrameId) {arguments : List Value} (surplus : List Value)
    (enough : parameters.length ≤ arguments.length) :
    apply depth (.closure id parameters body captured) (arguments ++ surplus) =
      apply depth (.closure id parameters body captured) arguments := by
  have same : Action.extend captured parameters (arguments ++ surplus) =
      Action.extend captured parameters arguments := by
    rw [Action.extend, Bindings.ofArguments_append [] surplus enough, Action.extend]
  cases depth with
  | zero => rfl
  | succ depth => rw [apply, apply, same]

theorem outcome_call (depth : Nat) (id : ObjectId) (parameters : List String) (body : Value)
    (captured : FrameId) (arguments : List Value) (store : Store) :
    (apply (depth + 1) (.closure id parameters body captured) arguments).outcome store =
      (evaluate depth body store.frames.size).outcome
        (store.push ⟨Bindings.ofArguments [] parameters arguments, some captured⟩).2 := by
  rw [apply, Action.outcome_bind, Action.outcome_extend]

theorem Store.find?_own (bound : (store.get? name frame).isSome) :
    store.find? name frame = some frame := by
  rw [get?] at bound
  rw [find?, if_pos bound]

theorem outcome_placeholder (nearest : store.find? name env = some frame)
    (placeholder : store.get? name frame = some .unbound) :
    (evaluate (depth + 1) (.symbol name) env).outcome store = (.error (.unassigned name), store) := by
  rw [evaluate, Action.outcome_read, Store.lookup?, nearest]
  simp [placeholder]

theorem evaluate_keeps_bound (depth : Nat) (expr : Expr) (next : ObjectId) (env : FrameId)
    (bound : (store.get? name frame).isSome) :
    ((((evaluate depth (expr.toValue next).1 env).outcome store).2).get? name frame).isSome := by
  obtain ⟨value, here⟩ := Option.isSome_iff_exists.mp bound
  obtain ⟨count, -, alike, -⟩ := Footprint.evaluate_alike depth expr next
    (⟨rfl, rfl, rfl, fun _ _ => rfl⟩ : store.AgreesOn (store.Reaches env) store)
  rcases alike.licensed frame (store.lt_size_of_bound here) name with same | ⟨stays, -⟩
  · rw [same]
    exact bound
  · exact stays

theorem outcome_assign_own (expr : Expr) (next id : ObjectId)
    (bound : (store.get? name frame).isSome) (free : isKeyword name = false)
    {value : Value} {after : Store}
    (evaluated : (evaluate depth (expr.toValue next).1 frame).outcome store = (.ok value, after)) :
    (evaluate (depth + 1)
        (.list id [.symbol "set!", .symbol name, (expr.toValue next).1]) frame).outcome store =
      (.ok .nothing, after.define frame name value) := by
  have stays := evaluate_keeps_bound depth expr next frame bound
  have assigned : (evaluate (depth + 1)
      (.list id [.symbol "set!", .symbol name, (expr.toValue next).1]) frame).outcome store = _ :=
    outcome_assignment id (expr.toValue next).1 depth store free
  rw [evaluated] at stays assigned
  simp only [Store.find?_own stays] at assigned
  exact assigned

/-- What becomes of a name that the frame binds to the placeholder: from where this frame is the
nearest one that binds the name, reading it fails and assigning it writes the frame, and so does a
form in the frame itself, if it may name it. -/
structure Withheld (store : Store) (frame : FrameId) (name : String) : Prop where
  nearest : store.find? name frame = some frame
  unread : ∀ depth env, store.find? name env = some frame →
    (evaluate (depth + 1) (.symbol name) env).outcome store = (.error (.unassigned name), store)
  assigned : ∀ value env, store.find? name env = some frame →
    (Action.assign name value env).outcome store = (.ok ⟨⟩, store.define frame name value)
  form : isKeyword name = false → ∀ depth (expr : Expr) next id value after,
    (evaluate depth (expr.toValue next).1 frame).outcome store = (.ok value, after) →
    (evaluate (depth + 1)
        (.list id [.symbol "set!", .symbol name, (expr.toValue next).1]) frame).outcome store =
      (.ok .nothing, after.define frame name value)

theorem withheld_of_placeholder (placeholder : store.get? name frame = some .unbound) :
    Withheld store frame name := by
  have bound : (store.get? name frame).isSome := by rw [placeholder]; rfl
  refine ⟨Store.find?_own bound, fun depth env nearest => ?_, fun value env nearest => ?_, ?_⟩
  · exact outcome_placeholder nearest placeholder
  · rw [Action.outcome_assign, Store.assign?, nearest]
    rfl
  · intro free depth expr next id value after evaluated
    exact outcome_assign_own expr next id bound free evaluated

end Calls

/-- Whatever the parameters and the arguments are: a call goes on in a new frame inside of the
captured one, which binds the names of the parameters in the order in which they come first, each to
the argument at its last place or to the placeholder; this is what an environment is that is made of
these names and values. Arguments beyond the parameters make no difference. A name that has the
placeholder, at any later time, is not read, whatever the frames around bind; an assignment changes
it there and nothing else. A form that assigns a reserved name is always refused. -/
theorem calls_bind_parameters (id : ObjectId) (parameters : List String) (body : Value)
    (captured : FrameId) (arguments : List Value) (store : Store) :
    let procedure := Value.closure id parameters body captured
    let frame := store.frames.size
    let entered := (store.push ⟨Bindings.ofArguments [] parameters arguments, some captured⟩).2
    (∀ depth, (apply (depth + 1) procedure arguments).outcome store =
        (evaluate depth body frame).outcome entered ∧
      (Environment.make depth (parameters.map .symbol) arguments (some captured)).outcome store =
        (.ok frame, entered)) ∧
    entered.outerOf frame = some captured ∧
    (∀ other ≠ frame, entered.frames[other]? = store.frames[other]?) ∧
    (entered.bindingsOf frame).names = parameters.eraseDups ∧
    (∀ name, (entered.get? name frame).isSome ↔ name ∈ parameters) ∧
    (∀ name place, LastPlace parameters name place →
      entered.get? name frame = some (arguments[place]?.getD .unbound)) ∧
    (∀ depth surplus, parameters.length ≤ arguments.length →
      apply depth procedure (arguments ++ surplus) = apply depth procedure arguments) ∧
    (∀ name, isKeyword name = true → ∀ formId expr env, RefusedAs (.reservedName .assignment name)
      (.list formId [.symbol "set!", .symbol name, expr]) env) ∧
    ∀ later name, later.get? name frame = some .unbound →
      Withheld later frame name ∧
      (Failure.unassigned name).className = "LispyUnboundSymbol" ∧
      ∀ value, (later.define frame name value).get? name frame = some value ∧
        ∀ sought other, sought ≠ name ∨ other ≠ frame →
          (later.define frame name value).get? sought other = later.get? sought other := by
  intro procedure frame entered
  refine ⟨fun depth => ⟨?_, ?_⟩, ?_, fun other old => ?_, ?_, fun name => ?_,
    fun name place last => ?_, fun depth surplus enough => ?_, fun name reserved formId expr env => ?_,
    fun later name placeholder => ?_⟩
  · exact outcome_call depth id parameters body captured arguments store
  · exact Environment.outcome_make depth parameters arguments (some captured) store
  · rw [Store.outerOf_push, if_pos rfl]
  · rw [Store.frames_push, if_neg old]
  · rw [Store.bindingsOf_push, if_pos rfl, Bindings.names_ofArguments]
    simp [Bindings.names, List.removeAll]
  · rw [Store.get?_push, if_pos rfl, Bindings.isSome_get?_ofArguments]
  · rw [Store.get?_push, if_pos rfl, Bindings.get?_ofArguments_last last]
  · exact apply_surplus depth id body captured surplus enough
  · exact refused_reserved formId expr env reserved
  · refine ⟨withheld_of_placeholder placeholder, rfl, fun value => ⟨?_, fun sought other apart => ?_⟩⟩
    · exact Store.get?_define_self (later.lt_size_of_bound placeholder)
    · exact Store.get?_define_other apart

/-- A parameter may have a reserved name. It has the placeholder if there is no argument, but no form
assigns it. -/
theorem reserved_parameter_refused :
    let entered := (Session.start.store.push ⟨Bindings.ofArguments [] ["if"] [], some 0⟩).2
    entered.get? "if" 1 = some .unbound ∧
    (evaluate 9 (.list 2 [.symbol "set!", .symbol "if", .int 1]) 1).outcome entered =
      (.error (.reservedName .assignment "if"), entered) ∧
    (Session.start.evaluate 9 "((lambda (if) (set! if 1)))").1 =
      .error (.reservedName .assignment "if") := by
  refine ⟨rfl, rfl, ?_⟩
  have read : parse 9 "((lambda (if) (set! if 1)))" = .ok (.list [.list [.symbol "lambda",
      .list [.symbol "if"], .list [.symbol "set!", .symbol "if", .int 1]]]) := by
    with_unfolding_all rfl
  rw [Session.start.evaluate_read read]
  rfl

end MiniLisp
