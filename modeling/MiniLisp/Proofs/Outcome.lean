import MiniLisp.Session

namespace MiniLisp

section Except

variable {ε ε' α β : Type} {result : Except ε α}

theorem ok_of_map {f : α → β} {y : β} (mapped : result.map f = .ok y) :
    ∃ x, result = .ok x ∧ f x = y := by
  cases result with
  | error failure => cases mapped
  | ok x => exact ⟨x, rfl, Except.ok.inj mapped⟩

theorem ok_of_mapError {f : ε → ε'} {x : α} (mapped : result.mapError f = .ok x) :
    result = .ok x := by
  cases result with
  | error failure => cases mapped
  | ok y => exact congrArg _ (Except.ok.inj mapped)

theorem ok_of_bind {next : α → Except ε β} {y : β} (bound : (result >>= next) = .ok y) :
    ∃ x, result = .ok x ∧ next x = .ok y := by
  cases result with
  | error failure => cases bound
  | ok x => exact ⟨x, rfl, bound⟩

theorem error_of_map {f : α → β} {failure : ε} (mapped : result.map f = .error failure) :
    result = .error failure := by
  cases result with
  | error => exact congrArg Except.error (Except.error.inj mapped)
  | ok => cases mapped

theorem error_of_mapError {f : ε → ε'} {failure : ε'} (mapped : result.mapError f = .error failure) :
    ∃ inner, result = .error inner ∧ f inner = failure := by
  cases result with
  | error inner => exact ⟨inner, rfl, Except.error.inj mapped⟩
  | ok => cases mapped

theorem error_of_bind {next : α → Except ε β} {failure : ε}
    (bound : (result >>= next) = .error failure) :
    result = .error failure ∨ ∃ x, result = .ok x ∧ next x = .error failure := by
  cases result with
  | error => exact .inl (congrArg Except.error (Except.error.inj bound))
  | ok x => exact .inr ⟨x, rfl, bound⟩

end Except

namespace Action

variable {α β : Type}

def outcome (action : Action α) (store : Store) : Except Failure α × Store :=
  ExceptT.run action store

@[simp] theorem outcome_pure (x : α) (store : Store) :
    (pure x : Action α).outcome store = (.ok x, store) := rfl

@[simp] theorem outcome_throw (failure : Failure) (store : Store) :
    (throw failure : Action α).outcome store = (.error failure, store) := rfl

theorem outcome_bind (action : Action α) (next : α → Action β) (store : Store) :
    (action >>= next).outcome store =
      match action.outcome store with
      | (.ok x, after) => (next x).outcome after
      | (.error failure, after) => (.error failure, after) := by
  change (ExceptT.bindCont next (action store).1) (action store).2 = _
  unfold outcome ExceptT.run
  cases h : action store with
  | mk r s => cases r <;> rfl

theorem error_of_bind {action : Action α} {next : α → Action β} {store : Store} {failure : Failure}
    (failed : ((action >>= next).outcome store).1 = .error failure) :
    (action.outcome store).1 = .error failure ∨ ∃ x, (action.outcome store).1 = .ok x ∧
      ((next x).outcome (action.outcome store).2).1 = .error failure := by
  rw [outcome_bind] at failed
  rcases ended : action.outcome store with ⟨inner | x, after⟩
  · rw [ended] at failed
    exact .inl (congrArg Except.error (Except.error.inj failed))
  · rw [ended] at failed
    exact .inr ⟨x, rfl, failed⟩

section Items

variable (f : α → Action β) {x : α} {y : β} {store after : Store}

theorem outcome_mapM_ok (first : (f x).outcome store = (.ok y, after)) (xs : List α) :
    ((x :: xs).mapM f).outcome store =
      (((xs.mapM f).outcome after).1.map (y :: ·), ((xs.mapM f).outcome after).2) := by
  rw [List.mapM_cons, outcome_bind, first]
  dsimp only
  rw [outcome_bind]
  rcases (xs.mapM f).outcome after with ⟨_ | _, _⟩ <;> rfl

theorem outcome_mapM_error {failure : Failure}
    (first : (f x).outcome store = (.error failure, after)) (xs : List α) :
    ((x :: xs).mapM f).outcome store = (.error failure, after) := by
  rw [List.mapM_cons, outcome_bind, first]

end Items

@[simp] theorem outcome_get (store : Store) :
    (get : Action Store).outcome store = (.ok store, store) := rfl

@[simp] theorem outcome_ofExcept (r : Except Failure α) (store : Store) :
    (ofExcept r).outcome store = (r, store) := by
  cases r <;> rfl

@[simp] theorem outcome_reportedBy (name : String) (action : Action α) (store : Store) :
    (reportedBy name action).outcome store =
      ((action.outcome store).1.mapError (Failure.reportedBy name), (action.outcome store).2) := by
  rfl

theorem outcome_read (name : String) (frame : FrameId) (store : Store) :
    (read name frame).outcome store =
      (match store.lookup? name frame with
        | none => .error (.unboundSymbol name)
        | some .unbound => .error (.unassigned name)
        | some value => .ok value, store) := by
  unfold read
  rw [outcome_bind, outcome_get]
  dsimp only
  cases store.lookup? name frame with
  | none => rfl
  | some value => cases value <;> rfl

theorem outcome_assign (name : String) (value : Value) (frame : FrameId) (store : Store) :
    (assign name value frame).outcome store =
      match store.assign? frame name value with
      | some after => (.ok ⟨⟩, after)
      | none => (.error (.unboundSymbol name), store) := by
  unfold assign
  rw [outcome_bind, outcome_get]
  dsimp only
  cases store.assign? frame name value <;> rfl

@[simp] theorem outcome_makeClosure (parameters : List String) (body : Value) (frame : FrameId)
    (store : Store) :
    (makeClosure parameters body frame).outcome store =
      (.ok (.closure store.nextId parameters body frame),
        { store with nextId := store.nextId + 1 }) := rfl

@[simp] theorem outcome_extend (captured : FrameId) (parameters : List String)
    (arguments : List Value) (store : Store) :
    (extend captured parameters arguments).outcome store =
      (.ok store.frames.size,
        (store.push ⟨Bindings.ofArguments [] parameters arguments, some captured⟩).2) := rfl

@[simp] theorem outcome_allocate (answer : Answer) (store : Store) :
    (allocate answer).outcome store =
      (.ok (answer.toValue store.nextId).1,
        { store with nextId := (answer.toValue store.nextId).2 }) := rfl

theorem outcome_readCode (depth : Nat) (line : String) (store : Store) :
    (readCode depth line).outcome store =
      match parse depth line with
      | .error failure => (.error failure, store)
      | .ok expr => (.ok (expr.toValue store.nextId).1,
          { store with nextId := (expr.toValue store.nextId).2 }) := by
  rw [readCode, outcome_bind, outcome_ofExcept]
  cases parse depth line <;> rfl

end Action

namespace Session

variable (session : Session) {line : String} {depth : Nat}

theorem evaluate_outcome (line : String) (depth : Nat) :
    session.evaluate depth line =
      (((evaluateLine depth line session.global).outcome session.store).1,
        ⟨((evaluateLine depth line session.global).outcome session.store).2, session.global⟩) := rfl

theorem evaluate_unread {failure : Failure} (unread : parse depth line = .error failure) :
    session.evaluate depth line = (.error failure, session) := by
  rw [evaluate_outcome, evaluateLine, Action.outcome_bind, Action.outcome_readCode, unread]

theorem evaluate_read {expr : Expr} (read : parse depth line = .ok expr) :
    let code := expr.toValue session.store.nextId
    let run := (MiniLisp.evaluate depth code.1 session.global).outcome
      { session.store with nextId := code.2 }
    session.evaluate depth line = (run.1, ⟨run.2, session.global⟩) := by
  rw [evaluate_outcome, evaluateLine, Action.outcome_bind, Action.outcome_readCode, read]

end Session

end MiniLisp
