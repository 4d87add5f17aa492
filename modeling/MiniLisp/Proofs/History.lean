import MiniLisp.Proofs.Outcome

/-!
Runs with a history. A recorded evaluation does what evaluation does and notes its steps on the way,
so that one can speak of what happened and in which order. The history has no effect on the run: its
result and its store are those of the evaluation (`evaluate_erases`).
-/

namespace MiniLisp

inductive Event where
  | evaluated (expr : Value) (frame : FrameId)
  | applied (procedure : Value) (arguments : List Value)
  /-- An evaluation or an application gave a value. -/
  | gave (value : Value)
  | entered (frame : FrameId) (procedure : Value) (arguments : List Value)
  /-- A name of a frame was defined or assigned. -/
  | bound (frame : FrameId) (name : String) (value : Value)

/-- A store, and what happened up to now, the newest event first. -/
structure Chronicle where
  store : Store
  history : List Event

def Chronicle.renumber (chronicle : Chronicle) (next : ObjectId) : Chronicle :=
  { chronicle with store := { chronicle.store with nextId := next } }

abbrev Recorded := ExceptT Failure (StateM Chronicle)

namespace Recorded

variable {α β : Type}

def lift (action : Action α) : Recorded α := fun chronicle =>
  let (result, store) := action.outcome chronicle.store
  (result, { chronicle with store })

def note (event : Event) : Recorded PUnit :=
  modify fun chronicle => { chronicle with history := event :: chronicle.history }

def reportedBy (primitive : String) (run : Recorded α) : Recorded α :=
  ExceptT.adapt (Failure.reportedBy primitive) run

def noted (beginning : Event) (run : Recorded Value) : Recorded Value := do
  note beginning
  let value ← run
  note (.gave value)
  return value

def define (name : String) (value : Value) (frame : FrameId) : Recorded PUnit := do
  lift (Action.define name value frame)
  note (.bound frame name value)

/-- It is the frame that binds the name whose binding changes. -/
def assign (name : String) (value : Value) (frame : FrameId) : Recorded PUnit := do
  let owner := (← get).store.find? name frame
  lift (Action.assign name value frame)
  note (.bound (owner.getD frame) name value)

def enter (procedure : Value) (captured : FrameId) (parameters : List String)
    (arguments : List Value) : Recorded FrameId := do
  let frame ← lift (Action.extend captured parameters arguments)
  note (.entered frame procedure arguments)
  return frame

abbrev Evaluation := Value → FrameId → Recorded Value

def conditional (evaluate : Evaluation) (frame : FrameId) : List Value → Recorded Value
  | [test, consequent] => do
    if (← evaluate test frame).isTrue then evaluate consequent frame else return .nothing
  | [test, consequent, alternative] => do
    let branch := if (← evaluate test frame).isTrue then consequent else alternative
    evaluate branch frame
  | _ => throw (.operandCount .conditional)

def binding (depth : Nat) (form : Keyword) (write : String → Value → FrameId → Recorded PUnit)
    (evaluate : Evaluation) (frame : FrameId) : List Value → Recorded Value
  | [target, expr] => do
    let name ← lift (Action.ofExcept (SpecialForm.bindableName depth form target))
    let value ← evaluate expr frame
    write name value frame
    return .nothing
  | _ => throw (.operandCount form)

def specialForm (depth : Nat) (evaluate : Evaluation) (frame : FrameId) (operands : List Value) :
    Keyword → Recorded Value
  | .quotation => lift (SpecialForm.quotation operands)
  | .conditional => conditional evaluate frame operands
  | .definition => binding depth .definition define evaluate frame operands
  | .assignment => binding depth .assignment assign evaluate frame operands
  | .abstraction => lift (SpecialForm.abstraction depth frame operands)

mutual

def evaluate (depth : Nat) (expr : Value) (frame : FrameId) : Recorded Value :=
  noted (.evaluated expr frame) <|
  match depth with
  | 0 => throw .depthExceeded
  | depth + 1 =>
    match expr with
    | .list _ (head :: operands) =>
      match head.keyword? with
      | some keyword => specialForm depth (evaluate depth) frame operands keyword
      | none => do
        let procedure ← evaluate depth head frame
        let arguments ← operands.mapM fun operand => evaluate depth operand frame
        apply depth procedure arguments
    -- Nothing else is evaluated or applied on the way.
    | expr => lift (MiniLisp.evaluate (depth + 1) expr frame)
  termination_by structural depth

def apply (depth : Nat) (procedure : Value) (arguments : List Value) : Recorded Value :=
  noted (.applied procedure arguments) <|
  match depth with
  | 0 => throw .depthExceeded
  | depth + 1 =>
    match procedure, arguments with
    | .closure id parameters body captured, arguments => do
      let procedure := .closure id parameters body captured
      evaluate depth body (← enter procedure captured parameters arguments)
    | .primitive .apply, [procedure, items] => reportedBy Primitive.apply.name do
      apply depth procedure
        (← lift (Action.ofExcept (listArgument depth "apply expects a list of arguments" items)))
    | .primitive .map, [procedure, items] => reportedBy Primitive.map.name do
      let items ← lift (Action.ofExcept (listArgument depth "map expects a list" items))
      let results ← items.mapM fun item => apply depth procedure [item]
      lift (Action.allocate (.list results))
    | procedure, arguments => lift (MiniLisp.apply (depth + 1) procedure arguments)
  termination_by structural depth

end

def evaluateLine (depth : Nat) (line : String) (frame : FrameId) : Recorded Value := do
  evaluate depth (← lift (readCode depth line)) frame

def outcome (run : Recorded α) (chronicle : Chronicle) : Except Failure α × Chronicle :=
  ExceptT.run run chronicle

@[simp] theorem outcome_pure (x : α) (chronicle : Chronicle) :
    (pure x : Recorded α).outcome chronicle = (.ok x, chronicle) := rfl

@[simp] theorem outcome_throw (failure : Failure) (chronicle : Chronicle) :
    (throw failure : Recorded α).outcome chronicle = (.error failure, chronicle) := rfl

theorem outcome_bind (run : Recorded α) (next : α → Recorded β) (chronicle : Chronicle) :
    (run >>= next).outcome chronicle =
      match run.outcome chronicle with
      | (.ok x, after) => (next x).outcome after
      | (.error failure, after) => (.error failure, after) := by
  change (ExceptT.bindCont next (run chronicle).1) (run chronicle).2 = _
  unfold outcome ExceptT.run
  rcases run chronicle with ⟨_ | x, after⟩ <;> rfl

@[simp] theorem outcome_get (chronicle : Chronicle) :
    (get : Recorded Chronicle).outcome chronicle = (.ok chronicle, chronicle) := rfl

@[simp] theorem outcome_lift (action : Action α) (chronicle : Chronicle) :
    (lift action).outcome chronicle =
      ((action.outcome chronicle.store).1,
        { chronicle with store := (action.outcome chronicle.store).2 }) := rfl

@[simp] theorem outcome_note (event : Event) (chronicle : Chronicle) :
    (note event).outcome chronicle =
      (.ok ⟨⟩, { chronicle with history := event :: chronicle.history }) := rfl

@[simp] theorem outcome_reportedBy (name : String) (run : Recorded α) (chronicle : Chronicle) :
    (reportedBy name run).outcome chronicle =
      ((run.outcome chronicle).1.mapError (Failure.reportedBy name), (run.outcome chronicle).2) := by
  rfl

@[simp] theorem outcome_define (name : String) (value : Value) (frame : FrameId)
    (chronicle : Chronicle) :
    (define name value frame).outcome chronicle =
      (.ok ⟨⟩, ⟨chronicle.store.define frame name value,
        .bound frame name value :: chronicle.history⟩) := rfl

theorem outcome_assign (name : String) (value : Value) (frame : FrameId) (chronicle : Chronicle) :
    (assign name value frame).outcome chronicle =
      match chronicle.store.find? name frame with
      | some owner => (.ok ⟨⟩, ⟨chronicle.store.define owner name value,
          .bound owner name value :: chronicle.history⟩)
      | none => (.error (.unboundSymbol name), chronicle) := by
  unfold assign
  rw [outcome_bind, outcome_get]
  dsimp only
  rw [outcome_bind, outcome_lift, Action.outcome_assign, Store.assign?]
  cases chronicle.store.find? name frame <;> rfl

@[simp] theorem outcome_enter (procedure : Value) (captured : FrameId) (parameters : List String)
    (arguments : List Value) (chronicle : Chronicle) :
    (enter procedure captured parameters arguments).outcome chronicle =
      (.ok chronicle.store.frames.size,
        ⟨(chronicle.store.push ⟨Bindings.ofArguments [] parameters arguments, some captured⟩).2,
          .entered chronicle.store.frames.size procedure arguments :: chronicle.history⟩) := rfl

theorem lift_bind (action : Action α) (next : α → Action β) :
    lift (action >>= next) = lift action >>= fun x => lift (next x) := by
  funext chronicle
  change (lift (action >>= next)).outcome chronicle = outcome _ chronicle
  rw [outcome_bind, outcome_lift, outcome_lift, Action.outcome_bind]
  rcases action.outcome chronicle.store with ⟨_ | x, after⟩ <;> rfl

def Erases (run : Recorded α) (action : Action α) : Prop :=
  ∀ chronicle, (run.outcome chronicle).1 = (action.outcome chronicle.store).1 ∧
    (run.outcome chronicle).2.store = (action.outcome chronicle.store).2

theorem erases_pure (x : α) : Erases (pure x) (pure x) := fun _ => ⟨rfl, rfl⟩

theorem erases_throw (failure : Failure) :
    Erases (throw failure : Recorded α) (throw failure) := fun _ => ⟨rfl, rfl⟩

theorem erases_lift (action : Action α) : Erases (lift action) action := fun _ => ⟨rfl, rfl⟩

theorem erases_bind {run : Recorded α} {action : Action α} {next : α → Recorded β}
    {next' : α → Action β} (first : Erases run action) (second : ∀ x, Erases (next x) (next' x)) :
    Erases (run >>= next) (action >>= next') := by
  intro chronicle
  obtain ⟨same, stores⟩ := first chronicle
  rw [outcome_bind, Action.outcome_bind]
  rcases ended : run.outcome chronicle with ⟨result, after⟩
  rcases ended' : action.outcome chronicle.store with ⟨result', after'⟩
  rw [ended, ended'] at same stores
  obtain rfl : result = result' := same
  obtain rfl : after.store = after' := stores
  cases result with
  | error failure => exact ⟨rfl, rfl⟩
  | ok x => exact second x after

theorem erases_noted {beginning : Event} {run : Recorded Value} {action : Action Value}
    (erases : Erases run action) : Erases (noted beginning run) action := by
  intro chronicle
  obtain ⟨same, stores⟩ := erases { chronicle with history := beginning :: chronicle.history }
  unfold noted
  rw [outcome_bind, outcome_note]
  dsimp only
  rw [outcome_bind]
  rw [← same, ← stores]
  rcases run.outcome _ with ⟨_ | value, after⟩ <;> exact ⟨rfl, rfl⟩

theorem erases_mapM {f : α → Recorded β} {f' : α → Action β} (each : ∀ x, Erases (f x) (f' x))
    (items : List α) : Erases (items.mapM f) (items.mapM f') := by
  induction items with
  | nil => exact erases_pure []
  | cons item items ih =>
      rw [List.mapM_cons, List.mapM_cons]
      exact erases_bind (each item) fun y => erases_bind ih fun ys => erases_pure (y :: ys)

theorem erases_reportedBy {run : Recorded α} {action : Action α} (name : String)
    (erases : Erases run action) :
    Erases (reportedBy name run) (Action.reportedBy name action) := by
  intro chronicle
  obtain ⟨same, stores⟩ := erases chronicle
  rw [outcome_reportedBy, Action.outcome_reportedBy]
  exact ⟨congrArg (Except.mapError _) same, stores⟩

theorem erases_define (name : String) (value : Value) (frame : FrameId) :
    Erases (define name value frame) (Action.define name value frame) := fun _ => ⟨rfl, rfl⟩

theorem erases_assign (name : String) (value : Value) (frame : FrameId) :
    Erases (assign name value frame) (Action.assign name value frame) := by
  intro chronicle
  rw [outcome_assign, Action.outcome_assign, Store.assign?]
  cases chronicle.store.find? name frame <;> exact ⟨rfl, rfl⟩

theorem erases_enter (procedure : Value) (captured : FrameId) (parameters : List String)
    (arguments : List Value) :
    Erases (enter procedure captured parameters arguments)
      (Action.extend captured parameters arguments) := fun _ => ⟨rfl, rfl⟩

theorem erases_specialForm {depth : Nat} {evaluation : Evaluation}
    {evaluation' : SpecialForm.Evaluation} {frame : FrameId}
    (erases : ∀ expr frame, Erases (evaluation expr frame) (evaluation' expr frame))
    (operands : List Value) (keyword : Keyword) :
    Erases (specialForm depth evaluation frame operands keyword)
      (SpecialForm.evaluate depth evaluation' frame operands keyword) := by
  have bound {form : Keyword} {target expr : Value}
      {write : String → Value → FrameId → Recorded PUnit}
      {write' : String → Value → FrameId → Action PUnit}
      (writes : ∀ name value frame, Erases (write name value frame) (write' name value frame)) :
      Erases (binding depth form write evaluation frame [target, expr])
        (do
          let name ← Action.ofExcept (SpecialForm.bindableName depth form target)
          let value ← evaluation' expr frame
          write' name value frame
          return .nothing) :=
    erases_bind (erases_lift _) fun name => erases_bind (erases _ frame) fun value =>
      erases_bind (writes name value frame) fun _ => erases_pure _
  cases keyword with
  | quotation | abstraction => exact erases_lift _
  | conditional =>
      rcases operands with _ | ⟨test, _ | ⟨consequent, _ | ⟨alternative, _ | ⟨other, rest⟩⟩⟩⟩
      · exact erases_throw _
      · exact erases_throw _
      · refine erases_bind (erases test frame) fun verdict => ?_
        split
        · exact erases consequent frame
        · exact erases_pure _
      · exact erases_bind (erases test frame) fun verdict => erases _ frame
      · exact erases_throw _
  | definition =>
      rcases operands with _ | ⟨target, _ | ⟨expr, _ | ⟨other, rest⟩⟩⟩
      · exact erases_throw _
      · exact erases_throw _
      · exact bound erases_define
      · exact erases_throw _
  | assignment =>
      rcases operands with _ | ⟨target, _ | ⟨expr, _ | ⟨other, rest⟩⟩⟩
      · exact erases_throw _
      · exact erases_throw _
      · exact bound erases_assign
      · exact erases_throw _

theorem run_erases (depth : Nat) :
    (∀ expr frame, Erases (evaluate depth expr frame) (MiniLisp.evaluate depth expr frame)) ∧
    ∀ procedure arguments,
      Erases (apply depth procedure arguments) (MiniLisp.apply depth procedure arguments) := by
  induction depth with
  | zero =>
      constructor
      · intro expr frame
        unfold evaluate MiniLisp.evaluate
        exact erases_noted (erases_throw _)
      · intro procedure arguments
        unfold apply MiniLisp.apply
        exact erases_noted (erases_throw _)
  | succ depth ih =>
      obtain ⟨evaluates, applies⟩ := ih
      constructor
      · intro expr frame
        unfold evaluate
        refine erases_noted ?_
        dsimp only
        split
        · rename_i id head operands
          rw [MiniLisp.evaluate]
          rcases head.keyword? with _ | keyword
          · exact erases_bind (evaluates head frame) fun procedure =>
              erases_bind (erases_mapM (fun operand => evaluates operand frame) operands)
                fun arguments => applies procedure arguments
          · exact erases_specialForm evaluates operands keyword
        · exact erases_lift _
      · intro procedure arguments
        unfold apply
        refine erases_noted ?_
        dsimp only
        split
        · rw [MiniLisp.apply]
          exact erases_bind (erases_enter _ _ _ _) fun frame => evaluates _ frame
        · rw [MiniLisp.apply]
          exact erases_reportedBy _ (erases_bind (erases_lift _) fun items => applies _ items)
        · rw [MiniLisp.apply]
          exact erases_reportedBy _ (erases_bind (erases_lift _) fun items =>
            erases_bind (erases_mapM (fun item => applies _ [item]) items) fun results =>
              erases_lift _)
        · exact erases_lift _

theorem evaluate_erases (depth : Nat) (expr : Value) (frame : FrameId) :
    Erases (evaluate depth expr frame) (MiniLisp.evaluate depth expr frame) :=
  (run_erases depth).1 expr frame

theorem apply_erases (depth : Nat) (procedure : Value) (arguments : List Value) :
    Erases (apply depth procedure arguments) (MiniLisp.apply depth procedure arguments) :=
  (run_erases depth).2 procedure arguments

theorem evaluateLine_erases (depth : Nat) (line : String) (frame : FrameId) :
    Erases (evaluateLine depth line frame) (MiniLisp.evaluateLine depth line frame) :=
  erases_bind (erases_lift _) fun code => evaluate_erases depth code frame

theorem evaluateLine_unread {depth : Nat} {line : String} {failure : Failure}
    (unread : parse depth line = .error failure) (frame : FrameId) (chronicle : Chronicle) :
    (evaluateLine depth line frame).outcome chronicle = (.error failure, chronicle) := by
  rw [evaluateLine, outcome_bind, outcome_lift, Action.outcome_readCode, unread]

theorem evaluateLine_read {depth : Nat} {line : String} {expr : Expr}
    (read : parse depth line = .ok expr) (frame : FrameId) (chronicle : Chronicle) :
    (evaluateLine depth line frame).outcome chronicle =
      (evaluate depth (expr.toValue chronicle.store.nextId).1 frame).outcome
        (chronicle.renumber (expr.toValue chronicle.store.nextId).2) := by
  rw [evaluateLine, outcome_bind, outcome_lift, Action.outcome_readCode, read]
  rfl

def evaluateAll (frame : FrameId) :
    List (Nat × String) → Chronicle → List (Except Failure Value) × Chronicle
  | [], chronicle => ([], chronicle)
  | (depth, line) :: lines, chronicle =>
    let (result, chronicle) := (evaluateLine depth line frame).outcome chronicle
    let (results, chronicle) := evaluateAll frame lines chronicle
    (result :: results, chronicle)

end Recorded

namespace Session

def evaluateAll (session : Session) : List (Nat × String) → List (Except Failure Value) × Session
  | [] => ([], session)
  | (depth, line) :: lines =>
    let (result, session) := session.evaluate depth line
    let (results, session) := session.evaluateAll lines
    (result :: results, session)

theorem evaluateAll_recorded (session : Session) (lines : List (Nat × String))
    (history : List Event) :
    let run := Recorded.evaluateAll session.global lines ⟨session.store, history⟩
    session.evaluateAll lines = (run.1, ⟨run.2.store, session.global⟩) := by
  induction lines generalizing session history with
  | nil => rfl
  | cons line lines ih =>
      obtain ⟨depth, text⟩ := line
      obtain ⟨same, stores⟩ := Recorded.evaluateLine_erases depth text session.global
        ⟨session.store, history⟩
      have evaluated : session.evaluate depth text = _ := session.evaluate_outcome text depth
      rw [← same, ← stores] at evaluated
      have rest := ih (session.evaluate depth text).2
        ((Recorded.evaluateLine depth text session.global).outcome ⟨session.store, history⟩).2.history
      rw [evaluated] at rest
      simp only [evaluateAll, evaluated, rest]
      rfl

end Session

end MiniLisp
