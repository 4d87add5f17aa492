import MiniLisp.Proofs.Reach
import MiniLisp.Proofs.Renumbering

namespace MiniLisp

open List (Forall₂)

namespace Pairing

def correspondence : Correspondence Pairing where
  alike := fun now chronicle chronicle' => now.Alike chronicle.store chronicle'.store
  value := fun now => Renumbered now.same
  code := fun now frame frame' expr expr' => frame = frame' ∧ Renumbered now.same expr expr'
  texts := Eq

variable {now : Pairing} {frame : FrameId} {expr expr' v v' : Value} {items items' : List Value}

theorem resembles (now : Pairing) : Resemblance False Eq (Renumbered now.same) where
  like := Renumbered.like
  identical := Renumbered.identical now.unique
  text := by
    rintro v v' renumbered depth _ (rfl | ⟨contrary, -⟩) style
    · rw [renumbered.text style depth]
      exact .same _
    · exact contrary.elim

theorem note_steps (event event' : Event) :
    correspondence.Steps now (Recorded.note event) (Recorded.note event') :=
  Correspondence.steps_of_alike fun _ _ alike => ⟨rfl, rfl, alike⟩

theorem read_runs (name : String) (frame : FrameId) :
    correspondence.Runs now (Recorded.lift (Action.read name frame))
      (Recorded.lift (Action.read name frame)) correspondence.value := by
  intro chronicle chronicle' alike
  have found := Alike.lookup? alike name frame
  rw [Recorded.outcome_lift, Recorded.outcome_lift, Action.outcome_read, Action.outcome_read]
  refine ⟨now, le_rfl, alike, ?_⟩
  dsimp only
  generalize chronicle.store.lookup? name frame = value at found ⊢
  generalize chronicle'.store.lookup? name frame = value' at found ⊢
  cases found with
  | none => exact .error (.same _)
  | some renumbered =>
      have kept := renumbered
      cases renumbered.like with
      | unbound => exact .error (.same _)
      | _ => exact .ok kept

theorem define_writes (name : String) (frame : FrameId) :
    correspondence.Writes now frame frame Recorded.define name name :=
  fun _ _ _ _ given => Correspondence.steps_of_alike fun _ _ alike =>
    ⟨rfl, rfl, Alike.define alike frame name given⟩

theorem assign_writes (name : String) (frame : FrameId) :
    correspondence.Writes now frame frame Recorded.assign name name := by
  intro later passed v v' given chronicle chronicle' alike
  refine ⟨later, le_rfl, ?_⟩
  rw [Recorded.outcome_assign, Recorded.outcome_assign, Alike.find? alike name frame]
  cases chronicle'.store.find? name frame with
  | none => exact ⟨alike, .error (.same _)⟩
  | some owner => exact ⟨Alike.define alike owner name given, .ok trivial⟩

theorem makeClosure_runs (names : List String) (frame : FrameId)
    (body : Renumbered now.same expr expr') :
    correspondence.Makes now frame frame expr expr' names names := by
  intro later passed chronicle chronicle' alike
  refine ⟨later.extend 1, later.le_extend 1, ?_, ?_⟩
  · exact Alike.continued alike (later.le_extend 1).kept (congrArg (· + 1) alike.left)
      ((congrArg (· + 1) alike.right).trans (later.right_extend 1).symm)
  · have paired : (later.extend 1).same chronicle.store.nextId chronicle'.store.nextId := by
      rw [alike.left, alike.right]
      exact same_extend Nat.zero_lt_one
    exact .ok (.closure paired names frame
      (body.mono fun paired => (later.le_extend 1).kept (passed.kept paired)))

theorem mentions (renumbered : Renumbered now.same v v') : correspondence.Mentions v v' := by
  intro depth
  rw [renumbered.mention depth]
  exact .same _

theorem targets {write : String → Value → FrameId → Recorded PUnit}
    (writes : ∀ name, correspondence.Writes now frame frame write name name)
    (renumbered : Renumbered now.same v v') :
    correspondence.Targets now frame frame write v v' := by
  cases symbol : v.isSymbol with
  | false => exact .other symbol (renumbered.isSymbol.symm.trans symbol) (mentions renumbered)
  | true =>
      cases renumbered with
      | plain =>
          cases v with
          | symbol name =>
              cases reserved : isKeyword name with
              | false => exact .names reserved reserved (writes name)
              | true => exact .reserved reserved
          | _ => cases symbol
      | _ => cases symbol

theorem abstractions (parameters : Renumbered now.same v v')
    (body : Renumbered now.same expr expr') :
    correspondence.Abstractions now frame frame expr expr' v v' := by
  cases list : v.isList with
  | false => exact .other list (parameters.isList.symm.trans list) (mentions parameters)
  | true =>
      cases parameters with
      | plain without =>
          cases v with
          | list => cases without
          | _ => cases list
      | list _ each =>
          refine .lists _ _ fun depth => ?_
          rw [Renumbered.parameterNames each depth]
          exact (Agree.same _).imp (fun names _ same => same ▸ makeClosure_runs names frame body)
            fun _ _ => id
      | _ => cases list

theorem codes (each : Forall₂ (Renumbered now.same) items items') :
    Forall₂ (correspondence.code now frame frame) items items' :=
  each.imp fun _ _ renumbered => ⟨rfl, renumbered⟩

theorem operands (keyword : Keyword) (each : Forall₂ (Renumbered now.same) items items') :
    correspondence.Operands now frame frame keyword items items' where
  count := each.length_eq
  quotation := by
    rintro - datum datum' rfl rfl
    cases each with
    | cons first => exact first
  conditional := fun _ => codes each
  definition := by
    rintro - target target' expr expr' rfl rfl
    rcases each with _ | ⟨first, _ | ⟨second, _⟩⟩
    exact ⟨targets (define_writes · frame) first, rfl, second⟩
  assignment := by
    rintro - target target' expr expr' rfl rfl
    rcases each with _ | ⟨first, _ | ⟨second, _⟩⟩
    exact ⟨targets (assign_writes · frame) first, rfl, second⟩
  abstraction := by
    rintro - parameters parameters' body body' rfl rfl
    rcases each with _ | ⟨first, _ | ⟨second, _⟩⟩
    exact abstractions first second

theorem view (renumbered : Renumbered now.same expr expr') :
    correspondence.View now frame frame expr expr' := by
  have whole := renumbered
  cases renumbered with
  | plain without =>
      cases expr with
      | symbol name => exact .symbol (read_runs name frame)
      | list => cases without
      | _ => exact .constant ⟨rfl, rfl⟩ ⟨rfl, rfl⟩ whole
  | list paired each =>
      cases each with
      | nil => exact .empty _ _
      | @cons head head' _ _ first rest =>
          have named : head.keyword? = head'.keyword? := first.keyword?
          cases form : head.keyword? with
          | none => exact .combination form (named.symm.trans form) ⟨rfl, first⟩ (codes rest)
          | some keyword =>
              exact .form form (named.symm.trans form) (operands keyword rest)
  | _ => exact .constant ⟨rfl, rfl⟩ ⟨rfl, rfl⟩ whole

theorem enter_runs {id id' : ObjectId} {parameters parameters' : List String} {body body' : Value}
    {captured captured' : FrameId} {arguments arguments' : List Value}
    (called : Renumbered now.same (.closure id parameters body captured)
      (.closure id' parameters' body' captured'))
    (given : Forall₂ (Renumbered now.same) arguments arguments') :
    correspondence.Runs now
      (Recorded.enter (.closure id parameters body captured) captured parameters arguments)
      (Recorded.enter (.closure id' parameters' body' captured') captured' parameters' arguments')
      fun later frame frame' => correspondence.code later frame frame' body body' := by
  cases called with
  | plain without => cases without
  | closure _ _ _ inner =>
      exact fun chronicle chronicle' alike =>
        ⟨now, le_rfl, Alike.push alike captured parameters given, .ok ⟨alike.size, inner⟩⟩

theorem allocate_runs {answer answer' : Answer}
    (alike : Answer.Alike (Renumbered now.same) answer answer') :
    correspondence.Runs now (Recorded.lift (Action.allocate answer))
      (Recorded.lift (Action.allocate answer')) correspondence.value := by
  intro chronicle chronicle' stores
  obtain ⟨count, left, right, renumbered⟩ :=
    madeAlike_answer alike now.emptyTuple now.left now.right
  rw [Recorded.outcome_lift, Recorded.outcome_lift, Action.outcome_allocate,
    Action.outcome_allocate, stores.left, stores.right]
  refine ⟨now.extend count, now.le_extend count, ?_, .ok ?_⟩
  · exact Alike.continued stores (now.le_extend count).kept left
      (right.trans (now.right_extend count).symm)
  · exact renumbered _ (fun _ within => same_extend within) (now.le_extend count).kept

theorem print_steps (depth : Nat) (renumbered : Renumbered now.same v v') :
    correspondence.Steps now (Recorded.lift (Action.printLine depth v))
      (Recorded.lift (Action.printLine depth v')) := by
  intro chronicle chronicle' alike
  refine ⟨now, le_rfl, ?_⟩
  simp only [Recorded.outcome_lift, Action.printLine, Action.outcome_bind, Action.outcome_ofExcept,
    renumbered.text .plain depth]
  cases v'.text .plain depth with
  | ok shown => exact ⟨Alike.write alike (shown ++ "\n"), .ok trivial⟩
  | error failure => exact ⟨alike, .error (.same failure)⟩

def simulation : Simulation Pairing where
  toCorrespondence := correspondence
  value_lasting := fun passed renumbered => renumbered.mono passed.kept
  code_lasting := fun passed code => ⟨code.1, code.2.mono passed.kept⟩
  resembles := resembles
  nothing := .plain rfl
  view := by
    rintro now frame _ expr expr' ⟨rfl, renumbered⟩
    exact view renumbered
  evaluated := fun _ => note_steps _ _
  applied := fun _ _ => note_steps _ _
  gave := fun _ => note_steps _ _
  enter := enter_runs
  allocate := allocate_runs
  print := print_steps

/-- Results that are the same up to identities: a failure says the same in the same words. -/
def Results (now : Pairing) : Except Failure Value → Except Failure Value → Prop :=
  Agree (fun _ => False) (Renumbered now.same) Eq

theorem Results.lasting {later : Pairing} {result result' : Except Failure Value}
    (passed : now ≤ later) (results : now.Results result result') : later.Results result result' :=
  results.imp (fun _ _ renumbered => renumbered.mono passed.kept) fun _ _ => id

theorem Results.ok_of_plain {result result' : Except Failure Value} {value : Value}
    (results : now.Results result result') (given : result = .ok value)
    (plain : value.id? = none) : result' = .ok value := by
  subst given
  cases results with
  | ok renumbered =>
      cases renumbered with
      | plain => rfl
      | _ => cases plain

theorem results_of_agree {result result' : Except Failure Value}
    (agree : Agree (Exhausted False) (Renumbered now.same) (Failure.Like Eq) result result') :
    now.Results result result' := by
  cases agree with
  | ok renumbered => exact .ok renumbered
  | error like => exact .error like.eq
  | cut contrary => exact contrary.1.elim

end Pairing

/-- Evaluation does not depend on identities, only on which of them are the same. -/
theorem evaluate_renumbered (depth : Nat) {now : Pairing} {expr expr' : Value} (frame : FrameId)
    {store store' : Store} (code : Renumbered now.same expr expr')
    (alike : now.Alike store store') :
    let run := (evaluate depth expr frame).outcome store
    let run' := (evaluate depth expr' frame).outcome store'
    ∃ later, now ≤ later ∧ later.Alike run.2 run'.2 ∧ later.Results run.1 run'.1 := by
  have same : Pairing.simulation.code now frame frame expr expr' := ⟨rfl, code⟩
  obtain ⟨later, passed, stores, agree⟩ :=
    Pairing.simulation.evaluates depth same ⟨store, []⟩ ⟨store', []⟩ alike
  obtain ⟨result, left⟩ := Recorded.evaluate_erases depth expr frame ⟨store, []⟩
  obtain ⟨result', right⟩ := Recorded.evaluate_erases depth expr' frame ⟨store', []⟩
  change later.Alike _ _ at stores
  rw [result, result'] at agree
  rw [left, right] at stores
  exact ⟨later, passed, stores, Pairing.results_of_agree agree⟩

namespace Session

open Pairing

variable {now : Pairing} {session session' : Session}

theorem evaluate_alike (alike : now.Alike session.store session'.store)
    (same : session.global = session'.global) (depth : Nat) (line : String) :
    let run := session.evaluate depth line
    let run' := session'.evaluate depth line
    ∃ later, now ≤ later ∧ later.Alike run.2.store run'.2.store ∧ later.Results run.1 run'.1 := by
  cases read : parse depth line with
  | error failure =>
      rw [session.evaluate_unread read, session'.evaluate_unread read]
      exact ⟨now, le_rfl, alike, .error rfl⟩
  | ok expr =>
      rw [session.evaluate_read read, session'.evaluate_read read, alike.left, alike.right, same]
      obtain ⟨count, left, right, renumbered⟩ := madeAlike_expr expr now.left now.right
      have extended : (now.extend count).Alike
          { session.store with nextId := (expr.toValue now.left).2 }
          { session'.store with nextId := (expr.toValue now.right).2 } :=
        alike.continued (now.le_extend count).kept left (right.trans (now.right_extend count).symm)
      obtain ⟨later, passed, stores, results⟩ := evaluate_renumbered depth session'.global
        (renumbered _ fun _ within => same_extend within) extended
      exact ⟨later, le_trans (now.le_extend count) passed, stores, results⟩

theorem evaluateAll_alike (alike : now.Alike session.store session'.store)
    (same : session.global = session'.global) (lines : List (Nat × String)) :
    let run := session.evaluateAll lines
    let run' := session'.evaluateAll lines
    ∃ later, now ≤ later ∧ later.Alike run.2.store run'.2.store ∧
      Forall₂ later.Results run.1 run'.1 := by
  induction lines generalizing now session session' with
  | nil => exact ⟨now, le_rfl, alike, .nil⟩
  | cons line lines ih =>
      obtain ⟨depth, text⟩ := line
      obtain ⟨later, passed, stores, first⟩ := evaluate_alike alike same depth text
      obtain ⟨last, passed', stores', rest⟩ := ih stores same
      exact ⟨last, le_trans passed passed', stores', .cons (first.lasting passed') rest⟩

theorem evaluateAll_diagonal (lines : List (Nat × String)) :
    let store := (start.evaluateAll lines).2.store
    ∃ some_given, (diagonal store.nextId some_given).Alike store store := by
  have shared : (diagonal Value.firstFresh (Nat.le_refl _)).same Value.sharedNaN Value.sharedNaN :=
    ⟨rfl, by decide⟩
  have started : (diagonal Value.firstFresh (Nat.le_refl _)).Alike start.store start.store := by
    refine ⟨rfl, rfl, rfl, rfl, fun _ => rfl, fun frame => ?_⟩
    rw [Bindings.Related, List.forall₂_same]
    intro binding member
    exact ⟨rfl, @standardBindings_hold (fun value => Renumbered _ value value)
      (fun _ => .plain rfl) (.nan shared false) (fun _ => .plain rfl) (fun _ => .plain rfl) binding
      (bindingsOf_start member)⟩
  obtain ⟨later, -, alike, -⟩ := evaluateAll_alike started rfl lines
  exact alike.diagonal

end Session

end MiniLisp
