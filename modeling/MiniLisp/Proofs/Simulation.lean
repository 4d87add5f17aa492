import Mathlib.Order.Defs.PartialOrder
import MiniLisp.Proofs.History
import MiniLisp.Proofs.LibraryLikeness

/-!
Two runs side by side. A simulation says which pairs of chronicles count as alike, which values
correspond and which pieces of code may run side by side; its laws speak of single steps, and
`evaluates` and `applies` carry them through whole recorded runs, also those that fail. With a run
beside itself a simulation is an invariant.
-/

namespace MiniLisp

open List (Forall₂)

variable {World : Type} [Preorder World] {α α' β β' : Type}

/-- From chronicles that are alike two runs come to results that correspond, or to like failures,
and to chronicles that are alike at a later moment. -/
def Relates (alike : World → Chronicle → Chronicle → Prop) (texts : String → String → Prop)
    (now : World) (run : Recorded α) (run' : Recorded α') (post : World → α → α' → Prop) : Prop :=
  ∀ chronicle chronicle', alike now chronicle chronicle' → ∃ later, now ≤ later ∧
    alike later (run.outcome chronicle).2 (run'.outcome chronicle').2 ∧
    Agree (Exhausted False) (post later) (Failure.Like texts) (run.outcome chronicle).1
      (run'.outcome chronicle').1

section Relates

variable {alike : World → Chronicle → Chronicle → Prop} {texts : String → String → Prop}
  {now : World}

theorem relates_pure {post : World → α → α' → Prop} {x : α} {x' : α'} (holds : post now x x') :
    Relates alike texts now (pure x) (pure x') post :=
  fun _ _ related => ⟨now, le_rfl, related, .ok holds⟩

theorem relates_throw {post : World → α → α' → Prop} {failure failure' : Failure}
    (like : Failure.Like texts failure failure') :
    Relates alike texts now (throw failure) (throw failure') post :=
  fun _ _ related => ⟨now, le_rfl, related, .error like⟩

theorem relates_ofExcept {post : World → α → α' → Prop} {result : Except Failure α}
    {result' : Except Failure α'}
    (agree : Agree (Exhausted False) (post now) (Failure.Like texts) result result') :
    Relates alike texts now (Recorded.lift (Action.ofExcept result))
      (Recorded.lift (Action.ofExcept result')) post := by
  intro chronicle chronicle' related
  refine ⟨now, le_rfl, ?_, ?_⟩
  · simpa using related
  · simpa using agree

theorem relates_bind {middle : World → α → α' → Prop} {post : World → β → β' → Prop}
    {run : Recorded α} {run' : Recorded α'} {next : α → Recorded β} {next' : α' → Recorded β'}
    (first : Relates alike texts now run run' middle)
    (second : ∀ later, now ≤ later → ∀ x x', middle later x x' →
      Relates alike texts later (next x) (next' x') post) :
    Relates alike texts now (run >>= next) (run' >>= next') post := by
  intro chronicle chronicle' related
  obtain ⟨later, passed, after, agree⟩ := first chronicle chronicle' related
  rw [Recorded.outcome_bind, Recorded.outcome_bind]
  rcases ended : run.outcome chronicle with ⟨result, left⟩
  rcases ended' : run'.outcome chronicle' with ⟨result', right⟩
  rw [ended, ended'] at after agree
  cases agree with
  | ok holds =>
      obtain ⟨last, passed', rest⟩ := second later passed _ _ holds left right after
      exact ⟨last, le_trans passed passed', rest⟩
  | error like => exact ⟨later, passed, after, .error like⟩
  | cut contrary => exact contrary.1.elim

theorem relates_imp {post post' : World → α → α' → Prop} {run : Recorded α} {run' : Recorded α'}
    (relates : Relates alike texts now run run' post)
    (weaker : ∀ later, now ≤ later → ∀ x x', post later x x' → post' later x x') :
    Relates alike texts now run run' post' := by
  intro chronicle chronicle' related
  obtain ⟨later, passed, after, agree⟩ := relates chronicle chronicle' related
  exact ⟨later, passed, after, agree.imp (weaker later passed) fun _ _ => id⟩

theorem relates_reportedBy {post : World → α → α' → Prop} {run : Recorded α} {run' : Recorded α'}
    (name : String) (relates : Relates alike texts now run run' post) :
    Relates alike texts now (Recorded.reportedBy name run) (Recorded.reportedBy name run') post := by
  intro chronicle chronicle' related
  obtain ⟨later, passed, after, agree⟩ := relates chronicle chronicle' related
  rw [Recorded.outcome_reportedBy, Recorded.outcome_reportedBy]
  exact ⟨later, passed, after, agree.mapError (fun _ _ like => like.reportedBy name)
    fun _ contrary => contrary.1.elim⟩

theorem relates_lift_reportedBy {post : World → α → α' → Prop} {action : Action α}
    {action' : Action α'} (name : String)
    (relates : Relates alike texts now (Recorded.lift action) (Recorded.lift action') post) :
    Relates alike texts now (Recorded.lift (Action.reportedBy name action))
      (Recorded.lift (Action.reportedBy name action')) post :=
  relates_reportedBy name relates

theorem relates_mapM (pre : World → α → α' → Prop) (post : World → β → β' → Prop)
    {f : α → Recorded β} {f' : α' → Recorded β'} {items : List α} {items' : List α'}
    (pre_lasting : ∀ {now later x x'}, now ≤ later → pre now x x' → pre later x x')
    (post_lasting : ∀ {now later y y'}, now ≤ later → post now y y' → post later y y')
    (given : Forall₂ (pre now) items items')
    (each : ∀ {later}, now ≤ later → ∀ {x x'}, pre later x x' →
      Relates alike texts later (f x) (f' x') post) :
    Relates alike texts now (items.mapM f) (items'.mapM f') fun later => Forall₂ (post later) := by
  induction items generalizing items' now with
  | nil =>
      cases given
      exact relates_pure .nil
  | cons item items ih =>
      rcases given with _ | ⟨first, rest⟩
      rw [List.mapM_cons, List.mapM_cons]
      apply relates_bind (each le_rfl first)
      intro later passed y y' related
      apply relates_bind (ih (rest.imp fun _ _ => pre_lasting passed)
        fun passed' => each (le_trans passed passed'))
      intro last passed' ys ys' others
      exact relates_pure (.cons (post_lasting passed' related) others)

end Relates

/-- Which chronicles, values and texts correspond, and which code in which frames. -/
structure Correspondence (World : Type) where
  alike : World → Chronicle → Chronicle → Prop
  value : World → Value → Value → Prop
  code : World → FrameId → FrameId → Value → Value → Prop
  texts : String → String → Prop

namespace Correspondence

variable (r : Correspondence World) (now : World) (frame frame' : FrameId)

abbrev Runs (run : Recorded α) (run' : Recorded α') (post : World → α → α' → Prop) : Prop :=
  Relates r.alike r.texts now run run' post

abbrev Steps (run run' : Recorded PUnit) : Prop := r.Runs now run run' fun _ _ _ => True

def Mentions (v v' : Value) : Prop :=
  ∀ depth, Agree (Exhausted False) r.texts (Failure.Like r.texts) (v.mention depth) (v'.mention depth)

variable {r now} in
theorem steps_of_alike {run run' : Recorded PUnit}
    (keeps : ∀ chronicle chronicle', r.alike now chronicle chronicle' →
      (run.outcome chronicle).1 = .ok ⟨⟩ ∧ (run'.outcome chronicle').1 = .ok ⟨⟩ ∧
        r.alike now (run.outcome chronicle).2 (run'.outcome chronicle').2) :
    r.Steps now run run' := by
  intro chronicle chronicle' related
  obtain ⟨ended, ended', after⟩ := keeps chronicle chronicle' related
  refine ⟨now, le_rfl, after, ?_⟩
  rw [ended, ended']
  exact .ok trivial

def Writes (write : String → Value → FrameId → Recorded PUnit) (name name' : String) : Prop :=
  ∀ later, now ≤ later → ∀ v v', r.value later v v' →
    r.Steps later (write name v frame) (write name' v' frame')

def Makes (body body' : Value) (names names' : List String) : Prop :=
  ∀ later, now ≤ later → r.Runs later (Recorded.lift (Action.makeClosure names body frame))
    (Recorded.lift (Action.makeClosure names' body' frame')) r.value

inductive Targets (write : String → Value → FrameId → Recorded PUnit) : Value → Value → Prop
  | reserved {name : String} (reserved : isKeyword name = true) :
      Targets write (.symbol name) (.symbol name)
  | names {name name' : String} (free : isKeyword name = false) (free' : isKeyword name' = false)
      (writes : r.Writes now frame frame' write name name') :
      Targets write (.symbol name) (.symbol name')
  | other {target target' : Value} (plain : target.isSymbol = false)
      (plain' : target'.isSymbol = false) (mentioned : r.Mentions target target') :
      Targets write target target'

inductive Abstractions (body body' : Value) : Value → Value → Prop
  | lists (id id' : ObjectId) {parameters parameters' : List Value}
      (made : ∀ depth, Agree (Exhausted False) (r.Makes now frame frame' body body')
        (Failure.Like r.texts) (SpecialForm.parameterNames depth parameters)
        (SpecialForm.parameterNames depth parameters')) :
      Abstractions body body' (.list id parameters) (.list id' parameters')
  | other {parameters parameters' : Value} (plain : parameters.isList = false)
      (plain' : parameters'.isList = false) (mentioned : r.Mentions parameters parameters') :
      Abstractions body body' parameters parameters'

/-- What the operands of two special forms of one kind have in common, as far as there are as many
of them as the form takes. -/
structure Operands (keyword : Keyword) (operands operands' : List Value) : Prop where
  count : operands.length = operands'.length
  quotation : keyword = .quotation → ∀ datum datum', operands = [datum] → operands' = [datum'] →
    r.value now datum datum'
  conditional : keyword = .conditional → Forall₂ (r.code now frame frame') operands operands'
  definition : keyword = .definition → ∀ target target' expr expr', operands = [target, expr] →
    operands' = [target', expr'] → r.Targets now frame frame' Recorded.define target target' ∧
      r.code now frame frame' expr expr'
  assignment : keyword = .assignment → ∀ target target' expr expr', operands = [target, expr] →
    operands' = [target', expr'] → r.Targets now frame frame' Recorded.assign target target' ∧
      r.code now frame frame' expr expr'
  abstraction : keyword = .abstraction → ∀ parameters parameters' body body',
    operands = [parameters, body] → operands' = [parameters', body'] →
      r.Abstractions now frame frame' body body' parameters parameters'

inductive View : Value → Value → Prop
  | symbol {name name' : String}
      (read : r.Runs now (Recorded.lift (Action.read name frame))
        (Recorded.lift (Action.read name' frame')) r.value) :
      View (.symbol name) (.symbol name')
  | empty (id id' : ObjectId) : View (.list id []) (.list id' [])
  | combination {id id' : ObjectId} {head head' : Value} {operands operands' : List Value}
      (plain : head.keyword? = none) (plain' : head'.keyword? = none)
      (first : r.code now frame frame' head head')
      (rest : Forall₂ (r.code now frame frame') operands operands') :
      View (.list id (head :: operands)) (.list id' (head' :: operands'))
  | form {id id' : ObjectId} {head head' : Value} {operands operands' : List Value}
      {keyword : Keyword} (named : head.keyword? = some keyword)
      (named' : head'.keyword? = some keyword)
      (common : r.Operands now frame frame' keyword operands operands') :
      View (.list id (head :: operands)) (.list id' (head' :: operands'))
  | constant {v v' : Value} (plain : v.isSymbol = false ∧ v.isList = false)
      (plain' : v'.isSymbol = false ∧ v'.isList = false) (same : r.value now v v') : View v v'

end Correspondence

structure Simulation (World : Type) [Preorder World] extends Correspondence World where
  value_lasting : ∀ {now later v v'}, now ≤ later → value now v v' → value later v v'
  code_lasting : ∀ {now later frame frame' expr expr'}, now ≤ later →
    code now frame frame' expr expr' → code later frame frame' expr expr'
  resembles : ∀ now, Resemblance False texts (value now)
  nothing : ∀ {now}, value now .nothing .nothing
  view : ∀ {now frame frame' expr expr'}, code now frame frame' expr expr' →
    toCorrespondence.View now frame frame' expr expr'
  evaluated : ∀ {now frame frame' expr expr'}, code now frame frame' expr expr' →
    toCorrespondence.Steps now (Recorded.note (.evaluated expr frame))
      (Recorded.note (.evaluated expr' frame'))
  applied : ∀ {now procedure procedure' arguments arguments'}, value now procedure procedure' →
    Forall₂ (value now) arguments arguments' →
    toCorrespondence.Steps now (Recorded.note (.applied procedure arguments))
      (Recorded.note (.applied procedure' arguments'))
  gave : ∀ {now v v'}, value now v v' →
    toCorrespondence.Steps now (Recorded.note (.gave v)) (Recorded.note (.gave v'))
  enter : ∀ {now id id' parameters parameters' body body' captured captured' arguments arguments'},
    value now (.closure id parameters body captured) (.closure id' parameters' body' captured') →
    Forall₂ (value now) arguments arguments' →
    toCorrespondence.Runs now
      (Recorded.enter (.closure id parameters body captured) captured parameters arguments)
      (Recorded.enter (.closure id' parameters' body' captured') captured' parameters' arguments')
      fun later frame frame' => code later frame frame' body body'
  allocate : ∀ {now answer answer'}, Answer.Alike (value now) answer answer' →
    toCorrespondence.Runs now (Recorded.lift (Action.allocate answer))
      (Recorded.lift (Action.allocate answer')) value
  print : ∀ {now v v'} depth, value now v v' →
    toCorrespondence.Steps now (Recorded.lift (Action.printLine depth v))
      (Recorded.lift (Action.printLine depth v'))

inductive Moment where
  | always

instance : Preorder Moment where
  le := fun _ _ => True
  le_refl := fun _ => trivial
  le_trans := fun _ _ _ _ _ => trivial

namespace Simulation

variable (simulation : Simulation World) {now : World}

def Evaluates (evaluation : Recorded.Evaluation) : Prop :=
  ∀ {now frame frame' expr expr'}, simulation.code now frame frame' expr expr' →
    simulation.Runs now (evaluation expr frame) (evaluation expr' frame') simulation.value

def Applies (application : Value → List Value → Recorded Value) : Prop :=
  ∀ {now procedure procedure' arguments arguments'}, simulation.value now procedure procedure' →
    Forall₂ (simulation.value now) arguments arguments' →
    simulation.Runs now (application procedure arguments) (application procedure' arguments')
      simulation.value

variable {simulation} {evaluation : Recorded.Evaluation} {frame frame' : FrameId} {depth : Nat}
  {operands operands' : List Value} {v v' : Value}

theorem noted {beginning beginning' : Event} {run run' : Recorded Value}
    (begins : simulation.Steps now (Recorded.note beginning) (Recorded.note beginning'))
    (runs : ∀ later, now ≤ later → simulation.Runs later run run' simulation.value) :
    simulation.Runs now (Recorded.noted beginning run) (Recorded.noted beginning' run')
      simulation.value := by
  refine relates_bind begins fun later passed _ _ _ => relates_bind (runs later passed) ?_
  intro last passed' x x' related
  refine relates_bind (simulation.gave related) fun end_ passed' _ _ _ => relates_pure ?_
  exact simulation.value_lasting passed' related

theorem conditional_runs (evaluates : simulation.Evaluates evaluation)
    (branches : Forall₂ (simulation.code now frame frame') operands operands') :
    simulation.Runs now (Recorded.conditional evaluation frame operands)
      (Recorded.conditional evaluation frame' operands') simulation.value := by
  rcases branches with _ | ⟨test, _ | ⟨consequent, _ | ⟨alternative, _ | _⟩⟩⟩
  · exact relates_throw (.same _)
  · exact relates_throw (.same _)
  · apply relates_bind (evaluates test)
    intro later passed verdict verdict' related
    rw [((simulation.resembles later).like related).isTrue]
    split
    · exact evaluates (simulation.code_lasting passed consequent)
    · exact relates_pure simulation.nothing
  · apply relates_bind (evaluates test)
    intro later passed verdict verdict' related
    dsimp only
    rw [((simulation.resembles later).like related).isTrue]
    split
    · exact evaluates (simulation.code_lasting passed consequent)
    · exact evaluates (simulation.code_lasting passed alternative)
  · exact relates_throw (.same _)

theorem bindableName_agrees {form : Keyword}
    {write : String → Value → FrameId → Recorded PUnit} {target target' : Value}
    (targets : simulation.Targets now frame frame' write target target') :
    Agree (Exhausted False) (simulation.Writes now frame frame' write)
      (Failure.Like simulation.texts) (SpecialForm.bindableName depth form target)
      (SpecialForm.bindableName depth form target') := by
  cases targets with
  | reserved reserved =>
      simp only [SpecialForm.bindableName, reserved, if_true]
      exact .error (.same _)
  | names free free' writes =>
      simp only [SpecialForm.bindableName, free, free']
      exact .ok writes
  | other plain plain' mentioned =>
      have refused : Agree (Exhausted False) (simulation.Writes now frame frame' write)
          (Failure.Like simulation.texts)
          (target.mention depth >>= fun text => .error (.nameExpected form text))
          (target'.mention depth >>= fun text => .error (.nameExpected form text)) :=
        (mentioned depth).refusal fun _ _ => .nameExpected form
      cases target with
      | symbol => cases plain
      | _ =>
        cases target' with
        | symbol => cases plain'
        | _ => exact refused

theorem binding_runs (evaluates : simulation.Evaluates evaluation) {form : Keyword}
    {write : String → Value → FrameId → Recorded PUnit} {target target' expr expr' : Value}
    (targets : simulation.Targets now frame frame' write target target')
    (code : simulation.code now frame frame' expr expr') :
    simulation.Runs now (Recorded.binding depth form write evaluation frame [target, expr])
      (Recorded.binding depth form write evaluation frame' [target', expr']) simulation.value := by
  have named : simulation.Runs now
      (Recorded.lift (Action.ofExcept (SpecialForm.bindableName depth form target)))
      (Recorded.lift (Action.ofExcept (SpecialForm.bindableName depth form target')))
      fun later => simulation.Writes later frame frame' write :=
    relates_ofExcept (bindableName_agrees targets)
  apply relates_bind named
  intro later passed name name' writes
  apply relates_bind (evaluates (simulation.code_lasting passed code))
  intro last passed' v v' related
  apply relates_bind (writes last passed' v v' related)
  intro _ _ _ _ _
  exact relates_pure simulation.nothing

theorem binding_miscounted {form : Keyword}
    {write : String → Value → FrameId → Recorded PUnit} (evaluation : Recorded.Evaluation)
    (frame : FrameId) (wrong : operands.length ≠ 2) :
    Recorded.binding depth form write evaluation frame operands = throw (.operandCount form) := by
  rcases operands with _ | ⟨target, _ | ⟨expr, _ | _⟩⟩
  · rfl
  · rfl
  · exact absurd rfl wrong
  · rfl

theorem relates_mention {post : World → Value → Value → Prop} {failure : String → Failure}
    (like : ∀ text text', simulation.texts text text' →
      Failure.Like simulation.texts (failure text) (failure text'))
    {result result' : Except Failure String}
    (mentioned : Agree (Exhausted False) simulation.texts (Failure.Like simulation.texts) result
      result') :
    simulation.Runs now
      (Recorded.lift (do throw (failure (← Action.ofExcept result))))
      (Recorded.lift (do throw (failure (← Action.ofExcept result')))) post := by
  rw [Recorded.lift_bind, Recorded.lift_bind]
  have given : simulation.Runs now (Recorded.lift (Action.ofExcept result))
      (Recorded.lift (Action.ofExcept result')) fun _ => simulation.texts :=
    relates_ofExcept mentioned
  apply relates_bind given
  intro later _ text text' related
  exact relates_throw (like text text' related)

theorem abstraction_runs {parameters parameters' body body' : Value}
    (common : simulation.Abstractions now frame frame' body body' parameters parameters') :
    simulation.Runs now (Recorded.lift (SpecialForm.abstraction depth frame [parameters, body]))
      (Recorded.lift (SpecialForm.abstraction depth frame' [parameters', body']))
      simulation.value := by
  cases common with
  | lists id id' made =>
      simp only [SpecialForm.abstraction, Recorded.lift_bind]
      have named : simulation.Runs now
          (Recorded.lift (Action.ofExcept (SpecialForm.parameterNames depth _)))
          (Recorded.lift (Action.ofExcept (SpecialForm.parameterNames depth _)))
          fun later => simulation.Makes later frame frame' body body' :=
        relates_ofExcept (made depth)
      apply relates_bind named
      intro later _ names names' runs
      exact runs later le_rfl
  | other plain plain' mentioned =>
      have refused : simulation.Runs now _ _ simulation.value :=
        relates_mention (fun _ _ => .parametersExpected) (mentioned depth)
      cases parameters with
      | list => cases plain
      | _ =>
        cases parameters' with
        | list => cases plain'
        | _ => exact refused

theorem abstraction_miscounted (frame : FrameId) (wrong : operands.length ≠ 2) :
    SpecialForm.abstraction depth frame operands = throw (.operandCount .abstraction) := by
  rcases operands with _ | ⟨parameters, _ | ⟨body, _ | _⟩⟩
  · rfl
  · cases parameters <;> rfl
  · exact absurd rfl wrong
  · cases parameters <;> rfl

omit [Preorder World] in
theorem pair_or_miscounted (count : operands.length = operands'.length) :
    (∃ a b a' b', operands = [a, b] ∧ operands' = [a', b']) ∨
      operands.length ≠ 2 ∧ operands'.length ≠ 2 := by
  by_cases two : operands.length = 2
  · obtain ⟨a, b, rfl⟩ := List.length_eq_two.mp two
    obtain ⟨a', b', rfl⟩ := List.length_eq_two.mp (count.symm.trans two)
    exact .inl ⟨a, b, a', b', rfl, rfl⟩
  · exact .inr ⟨two, count ▸ two⟩

theorem form_runs (evaluates : simulation.Evaluates evaluation) {keyword : Keyword}
    (common : simulation.Operands now frame frame' keyword operands operands') :
    simulation.Runs now (Recorded.specialForm depth evaluation frame operands keyword)
      (Recorded.specialForm depth evaluation frame' operands' keyword) simulation.value := by
  have count := common.count
  cases keyword with
  | quotation =>
      rcases operands with _ | ⟨datum, _ | _⟩ <;> rcases operands' with _ | ⟨datum', _ | _⟩ <;>
        first | cases count | skip
      · exact relates_throw (.same _)
      · exact relates_pure (common.quotation rfl datum datum' rfl rfl)
      · exact relates_throw (.same _)
  | conditional => exact conditional_runs evaluates (common.conditional rfl)
  | definition =>
      rcases pair_or_miscounted count with
        ⟨target, expr, target', expr', rfl, rfl⟩ | ⟨wrong, wrong'⟩
      · obtain ⟨targets, code⟩ := common.definition rfl _ _ _ _ rfl rfl
        exact binding_runs evaluates targets code
      · simp only [Recorded.specialForm, binding_miscounted _ _ wrong, binding_miscounted _ _ wrong']
        exact relates_throw (.same _)
  | assignment =>
      rcases pair_or_miscounted count with
        ⟨target, expr, target', expr', rfl, rfl⟩ | ⟨wrong, wrong'⟩
      · obtain ⟨targets, code⟩ := common.assignment rfl _ _ _ _ rfl rfl
        exact binding_runs evaluates targets code
      · simp only [Recorded.specialForm, binding_miscounted _ _ wrong, binding_miscounted _ _ wrong']
        exact relates_throw (.same _)
  | abstraction =>
      rcases pair_or_miscounted count with
        ⟨parameters, body, parameters', body', rfl, rfl⟩ | ⟨wrong, wrong'⟩
      · exact abstraction_runs (common.abstraction rfl _ _ _ _ rfl rfl)
      · simp only [Recorded.specialForm, abstraction_miscounted _ wrong,
          abstraction_miscounted _ wrong']
        exact relates_throw (.same _)

theorem evaluate_succ (evaluates : simulation.Evaluates (Recorded.evaluate depth))
    (applies : simulation.Applies (Recorded.apply depth)) :
    simulation.Evaluates (Recorded.evaluate (depth + 1)) := by
  intro now frame frame' expr expr' code
  unfold Recorded.evaluate
  refine noted (simulation.evaluated code) fun later passed => ?_
  have code := simulation.code_lasting passed code
  cases simulation.view code with
  | symbol read => exact read
  | empty => exact relates_throw (.same _)
  | @combination _ _ _ _ operands operands' plain plain' first rest =>
      simp only [plain, plain']
      apply relates_bind (evaluates first)
      intro later passed procedure procedure' related
      have evaluated : simulation.Runs later
          (operands.mapM fun operand => Recorded.evaluate depth operand frame)
          (operands'.mapM fun operand => Recorded.evaluate depth operand frame')
          fun last => Forall₂ (simulation.value last) :=
        relates_mapM (simulation.code · frame frame') simulation.value simulation.code_lasting
          simulation.value_lasting (rest.imp fun _ _ => simulation.code_lasting passed)
          fun _ _ _ code => evaluates code
      apply relates_bind evaluated
      intro last passed' arguments arguments' given
      exact applies (simulation.value_lasting passed' related) given
  | form named named' common =>
      simp only [named, named']
      exact form_runs evaluates common
  | constant plain plain' same =>
      have shape := (simulation.resembles later).like same
      cases shape with
      | symbol => cases plain.1
      | list => cases plain.2
      | _ => exact relates_pure same

theorem listArgument_agrees {sentence : String} (related : simulation.value now v v') :
    Agree (Exhausted False) (Forall₂ (simulation.value now)) (Failure.Like simulation.texts)
      (listArgument depth sentence v) (listArgument depth sentence v') := by
  have refused : Agree (Exhausted False) (Forall₂ (simulation.value now))
      (Failure.Like simulation.texts) (Value.refuse depth sentence v)
      (Value.refuse depth sentence v') :=
    (simulation.resembles now).refuse (.refl depth) sentence related
  have shape := (simulation.resembles now).like related
  cases shape with
  | list _ _ each => exact .ok each
  | _ => exact refused

theorem relates_listArgument {sentence : String} (related : simulation.value now v v') :
    simulation.Runs now (Recorded.lift (Action.ofExcept (listArgument depth sentence v)))
      (Recorded.lift (Action.ofExcept (listArgument depth sentence v')))
      fun later => Forall₂ (simulation.value later) :=
  relates_ofExcept (listArgument_agrees related)

theorem relates_answer {answer answer' : Except Failure Answer}
    (agree : Agree (Exhausted False) (Answer.Alike (simulation.value now))
      (Failure.Like simulation.texts) answer answer') :
    simulation.Runs now
      (Recorded.lift (do Action.allocate (← Action.ofExcept answer)))
      (Recorded.lift (do Action.allocate (← Action.ofExcept answer'))) simulation.value := by
  rw [Recorded.lift_bind, Recorded.lift_bind]
  have given : simulation.Runs now (Recorded.lift (Action.ofExcept answer))
      (Recorded.lift (Action.ofExcept answer')) fun later => Answer.Alike (simulation.value later) :=
    relates_ofExcept agree
  apply relates_bind given
  intro later _ answer answer' alike
  exact simulation.allocate alike

theorem relates_misfit (parameters : List String) {arguments arguments' : List Value}
    (given : Forall₂ (simulation.value now) arguments arguments') :
    simulation.Runs now
      (Recorded.lift (throw (.unreported (misfit parameters arguments.length))))
      (Recorded.lift (throw (.unreported (misfit parameters arguments'.length))))
      simulation.value := by
  rw [given.length_eq]
  exact relates_throw (.same _)

theorem primitive_runs {p : Primitive} {arguments arguments' : List Value}
    (given : Forall₂ (simulation.value now) arguments arguments')
    (direct : p ≠ .apply ∧ p ≠ .map) :
    simulation.Runs now (Recorded.lift (MiniLisp.apply (depth + 1) (.primitive p) arguments))
      (Recorded.lift (MiniLisp.apply (depth + 1) (.primitive p) arguments')) simulation.value := by
  have resembles := simulation.resembles now
  unfold MiniLisp.apply
  refine relates_lift_reportedBy p.name ?_
  cases p with
  | operation operation =>
      exact relates_answer ((resembles.operation (.refl depth) operation given).imp
        (fun _ _ => .like) fun _ _ => id)
  | function f => exact relates_answer (resembles.function (.refl depth) f given)
  | print =>
      rcases given with _ | ⟨first, _ | ⟨second, rest⟩⟩
      · exact relates_misfit Primitive.print.parameters .nil
      · rw [Recorded.lift_bind, Recorded.lift_bind]
        exact relates_bind (simulation.print depth first) fun _ _ _ _ _ =>
          relates_pure simulation.nothing
      · exact relates_misfit Primitive.print.parameters
          (.cons first (.cons second rest))
  | apply => exact absurd rfl direct.1
  | map => exact absurd rfl direct.2

theorem map_runs (applies : simulation.Applies (Recorded.apply depth))
    {procedure procedure' : Value} {items items' : List Value}
    (related : simulation.value now procedure procedure')
    (given : Forall₂ (simulation.value now) items items') :
    simulation.Runs now
      (do
        let results ← items.mapM fun item => Recorded.apply depth procedure [item]
        Recorded.lift (Action.allocate (.list results)))
      (do
        let results ← items'.mapM fun item => Recorded.apply depth procedure' [item]
        Recorded.lift (Action.allocate (.list results))) simulation.value := by
  have mapped : simulation.Runs now
      (items.mapM fun item => Recorded.apply depth procedure [item])
      (items'.mapM fun item => Recorded.apply depth procedure' [item])
      fun later => Forall₂ (simulation.value later) :=
    relates_mapM simulation.value simulation.value simulation.value_lasting
      simulation.value_lasting given fun passed _ _ item =>
        applies (simulation.value_lasting passed related) (.cons item .nil)
  exact relates_bind mapped fun later _ results results' each =>
    simulation.allocate (.like (.list each))

theorem apply_succ (evaluates : simulation.Evaluates (Recorded.evaluate depth))
    (applies : simulation.Applies (Recorded.apply depth)) :
    simulation.Applies (Recorded.apply (depth + 1)) := by
  intro now procedure procedure' arguments arguments' related given
  unfold Recorded.apply
  refine noted (simulation.applied related given) fun later passed => ?_
  have related := simulation.value_lasting passed related
  have given := given.imp fun _ _ => simulation.value_lasting passed
  have shape := (simulation.resembles later).like related
  have misfits (p : Primitive) {arguments arguments' : List Value}
      (given : Forall₂ (simulation.value later) arguments arguments')
      (thrown : MiniLisp.apply (depth + 1) (.primitive p) arguments =
        Action.reportedBy p.name (throw (.unreported (misfit p.parameters arguments.length))))
      (thrown' : MiniLisp.apply (depth + 1) (.primitive p) arguments' =
        Action.reportedBy p.name (throw (.unreported (misfit p.parameters arguments'.length)))) :
      simulation.Runs later (Recorded.lift (MiniLisp.apply (depth + 1) (.primitive p) arguments))
        (Recorded.lift (MiniLisp.apply (depth + 1) (.primitive p) arguments'))
        simulation.value := by
    rw [thrown, thrown']
    exact relates_lift_reportedBy p.name (relates_misfit _ given)
  cases shape with
  | closure =>
      exact relates_bind (simulation.enter related given) fun _ _ _ _ code => evaluates code
  | primitive p =>
      cases p with
      | apply =>
          rcases given with _ | ⟨first, _ | ⟨second, _ | ⟨third, rest⟩⟩⟩
          · exact misfits .apply .nil rfl rfl
          · exact misfits .apply (.cons first .nil) rfl rfl
          · refine relates_reportedBy _ ?_
            apply relates_bind (relates_listArgument second)
            intro last passed items items' each
            exact applies (simulation.value_lasting passed first) each
          · exact misfits .apply (.cons first (.cons second (.cons third rest))) rfl rfl
      | map =>
          rcases given with _ | ⟨first, _ | ⟨second, _ | ⟨third, rest⟩⟩⟩
          · exact misfits .map .nil rfl rfl
          · exact misfits .map (.cons first .nil) rfl rfl
          · refine relates_reportedBy _ ?_
            apply relates_bind (relates_listArgument second)
            intro last passed items items' each
            exact map_runs applies (simulation.value_lasting passed first) each
          · exact misfits .map (.cons first (.cons second (.cons third rest))) rfl rfl
      | _ => exact primitive_runs given ⟨by simp, by simp⟩
  | _ =>
    exact relates_mention (fun _ _ => .notProcedure)
      ((simulation.resembles later).text related (.refl depth) .plain)

theorem runs (simulation : Simulation World) (depth : Nat) :
    simulation.Evaluates (Recorded.evaluate depth) ∧
      simulation.Applies (Recorded.apply depth) := by
  induction depth with
  | zero =>
      constructor
      · intro now frame frame' expr expr' code
        unfold Recorded.evaluate
        exact noted (simulation.evaluated code) fun _ _ => relates_throw (.same _)
      · intro now procedure procedure' arguments arguments' related given
        unfold Recorded.apply
        exact noted (simulation.applied related given) fun _ _ => relates_throw (.same _)
  | succ depth ih => exact ⟨evaluate_succ ih.1 ih.2, apply_succ ih.1 ih.2⟩

theorem evaluates (simulation : Simulation World) (depth : Nat) :
    simulation.Evaluates (Recorded.evaluate depth) := (runs simulation depth).1

theorem applies (simulation : Simulation World) (depth : Nat) :
    simulation.Applies (Recorded.apply depth) := (runs simulation depth).2

end Simulation

end MiniLisp
