import MiniLisp.Proofs.Escape
import MiniLisp.Proofs.Numbering
import MiniLisp.Proofs.Orderly

/-!
How runs nest. What an evaluation or an application begins it ends before it gives its value, so
that a history shows for every value what gave it, and for every failure what was under way. A
primitive reports the rejections of all that it has begun; and a list that it gives is new, unless it
is part of an argument.
-/

namespace MiniLisp

def underway : List Event → List Event
  | [] => []
  | .gave _ :: earlier => (underway earlier).tail
  | .entered .. :: earlier | .bound .. :: earlier => underway earlier
  | beginning :: earlier => beginning :: underway earlier

def calls : List Event → List (Event × Value)
  | [] => []
  | .gave value :: earlier => (underway earlier).head?.toList.map (·, value) ++ calls earlier
  | _ :: earlier => calls earlier

def Event.begins : Event → Bool
  | evaluated .. | applied .. => true
  | _ => false

def Event.reports : Event → Bool
  | applied (.primitive _) _ => true
  | _ => false

/-- A list that a primitive has given is part of an argument, or has one of the identities from
`first` up to `next`. It is not `apply` that makes what it gives. -/
def Made (first next : ObjectId) (call : Event × Value) : Prop :=
  ∀ p arguments id items, call = (.applied (.primitive p) arguments, .list id items) →
    p ≠ .apply → (∃ argument ∈ arguments, argument.HoldsList id) ∨ first ≤ id ∧ id < next

theorem Made.wider {first first' next next' : ObjectId} {call : Event × Value}
    (made : Made first next call) (earlier : first' ≤ first) (later : next ≤ next') :
    Made first' next' call := by
  intro p arguments id items same other
  refine (made p arguments id items same other).imp_right fun new => ?_
  exact ⟨Nat.le_trans earlier new.1, Nat.lt_of_lt_of_le new.2 later⟩

theorem made_of_quiet {first next : ObjectId} {event : Event} {value : Value}
    (plain : event.reports = false) : Made first next (event, value) := by
  rintro p arguments id items ⟨⟩
  cases plain

section Answers

variable {answer : Answer} {value : Value} {arguments : List Value} {next : ObjectId} {depth : Nat}

theorem list_of_answer {id : ObjectId} {items : List Value}
    (same : (answer.toValue next).1 = .list id items) :
    (∃ part ∈ answer.parts, part.HoldsList id) ∨ next ≤ id ∧ id < (answer.toValue next).2 := by
  cases answer with
  | scalar scalar =>
      rcases scalar with ⟨n | ⟨x | negative⟩ | ⟨re, im⟩⟩ | b | ⟨first, second⟩ <;> cases same
  | nothing => cases same
  | given value => exact .inl ⟨value, List.mem_singleton_self value, items, same ▸ .here⟩
  | list values =>
      cases same
      exact .inr ⟨Nat.le_refl next, Nat.lt_succ_self next⟩
  | tuple values => cases values <;> cases same

/-- What an answer hands on has the properties that all arguments have and hand on themselves. -/
theorem parts_keep {keeps : Value → Prop} {result : Except Failure Answer}
    (agree : Agree (Exhausted False) (Answer.Alike fun v v' => v = v' ∧ keeps v)
      (Failure.Like Eq) result result) (answered : result = .ok answer) :
    ∀ part ∈ answer.parts, keeps part := by
  subst answered
  cases agree with
  | ok alike => exact (eq_of_alike alike).2

theorem made_of_answer {p : Primitive}
    (keep : ∀ keeps : Value → Prop, Value.Inherited keeps → (∀ v ∈ arguments, keeps v) →
      ∀ part ∈ answer.parts, keeps part) :
    Made next (answer.toValue next).2
      (.applied (.primitive p) arguments, (answer.toValue next).1) := by
  intro p' arguments' id items same _
  obtain ⟨beginning, gave⟩ := Prod.mk.inj same
  cases beginning
  by_cases held : ∃ argument ∈ arguments, argument.HoldsList id
  · exact .inl held
  · refine .inr ((list_of_answer gave).resolve_left ?_)
    have inherited : Value.Inherited fun v => ¬ v.HoldsList id := by
      rintro v lacks item member ⟨items, within⟩
      exact lacks ⟨items, Value.within_trans within (Value.within_of_mem_items member)⟩
    have kept := keep _ inherited fun v member holds => held ⟨v, member, holds⟩
    rintro ⟨part, member, holds⟩
    exact kept part member holds

end Answers

section Primitives

open MiniLisp.Action

variable {depth : Nat}

theorem alike_of_kept {keeps : Value → Prop} {arguments : List Value}
    (kept : ∀ v ∈ arguments, keeps v) :
    List.Forall₂ (fun v v' => v = v' ∧ keeps v) arguments arguments := by
  rw [List.forall₂_same]
  exact fun v member => ⟨rfl, kept v member⟩

theorem keep_of_operation {operation : Operation} {arguments : List Value} {answer : Answer}
    (answered : operation.answer depth arguments = .ok answer) (keeps : Value → Prop)
    (inherited : Value.Inherited keeps) (kept : ∀ v ∈ arguments, keeps v) :
    ∀ part ∈ answer.parts, keeps part := by
  have given := alike_of_kept kept
  have agree := (Resemblance.diagonal False inherited).operation (.refl depth) operation given
  exact parts_keep (agree.imp (fun _ _ => .like) fun _ _ => id) answered

theorem keep_of_function {f : LibraryFunction} {arguments : List Value} {answer : Answer}
    (answered : f.answer depth arguments = .ok answer) (keeps : Value → Prop)
    (inherited : Value.Inherited keeps) (kept : ∀ v ∈ arguments, keeps v) :
    ∀ part ∈ answer.parts, keeps part := by
  have given := alike_of_kept kept
  exact parts_keep ((Resemblance.diagonal False inherited).function (.refl depth) f given) answered

theorem made_of_direct (p : Primitive) (arguments : List Value)
    (notApply : ∀ f items, p = .apply → arguments ≠ [f, items])
    (notMap : ∀ f items, p = .map → arguments ≠ [f, items]) (store : Store) {value : Value}
    (gave : ((apply (depth + 1) (.primitive p) arguments).outcome store).1 = .ok value) :
    Made store.nextId ((apply (depth + 1) (.primitive p) arguments).outcome store).2.nextId
      (.applied (.primitive p) arguments, value) := by
  have answered {result : Except Failure Answer}
      (keep : ∀ answer, result = .ok answer → ∀ keeps : Value → Prop, Value.Inherited keeps →
        (∀ v ∈ arguments, keeps v) → ∀ part ∈ answer.parts, keeps part)
      (gave : ((do allocate (← Action.ofExcept result)).outcome store).1 = .ok value) :
      Made store.nextId ((do allocate (← Action.ofExcept result)).outcome store).2.nextId
        (.applied (.primitive p) arguments, value) := by
    rw [outcome_bind, outcome_ofExcept] at gave ⊢
    cases result with
    | error failure => cases gave
    | ok answer =>
        cases gave
        exact made_of_answer (keep answer rfl)
  unfold apply at gave ⊢
  rw [outcome_reportedBy] at gave ⊢
  replace gave := ok_of_mapError gave
  split at gave
  · exact answered (fun _ => keep_of_operation) gave
  · exact answered (fun _ => keep_of_function) gave
  · rw [outcome_bind] at gave
    split at gave
    · cases gave
      rintro p arguments id items ⟨⟩
    · cases gave
  · exact absurd rfl (notApply _ _ rfl)
  · exact absurd rfl (notMap _ _ rfl)
  · cases gave

end Primitives

structure Passage {α : Type} (chronicle : Chronicle) (ended : Except Failure α × Chronicle) :
    Prop where
  grown : chronicle.store.nextId ≤ ended.2.store.nextId
  made : ∀ call ∈ calls ended.2.history,
    call ∈ calls chronicle.history ∨ Made chronicle.store.nextId ended.2.store.nextId call
  returned : ∀ x, ended.1 = .ok x → underway ended.2.history = underway chronicle.history
  failed : ∀ failure, ended.1 = .error failure → failure.arises = true ∧
    ∃ opened, underway ended.2.history = opened ++ underway chronicle.history ∧
      ∀ reason, failure = .unreported reason → ∀ event ∈ opened, event.reports = false

namespace Recorded

variable {α β : Type}

/-- Wherever the run starts, it gives a value when all that it has begun has given one, and a
rejection escapes from it only if it has not begun the application of a primitive that failed. -/
def Unwinds (run : Recorded α) : Prop := ∀ chronicle, Passage chronicle (run.outcome chronicle)

theorem unwinds_pure (x : α) : Unwinds (pure x) := fun _ =>
  ⟨Nat.le_refl _, fun _ => .inl, fun _ _ => rfl, nofun⟩

theorem unwinds_throw {failure : Failure} (arises : failure.arises = true) :
    Unwinds (throw failure : Recorded α) := by
  refine fun _ => ⟨Nat.le_refl _, fun _ => .inl, nofun, ?_⟩
  rintro _ ⟨⟩
  exact ⟨arises, [], rfl, fun _ _ _ => nofun⟩

theorem unwinds_lift {action : Action α} (orderly : action.Orderly) : Unwinds (lift action) := by
  intro chronicle
  obtain ⟨grown, arises⟩ := orderly chronicle.store
  exact ⟨grown, fun _ => .inl, fun _ _ => rfl,
    fun failure failed => ⟨arises failure failed, [], rfl, fun _ _ _ => nofun⟩⟩

theorem unwinds_bind {run : Recorded α} {next : α → Recorded β} (first : Unwinds run)
    (second : ∀ x, Unwinds (next x)) : Unwinds (run >>= next) := by
  intro chronicle
  obtain ⟨grown, made, returned, failed⟩ := first chronicle
  rw [outcome_bind]
  rcases ended : run.outcome chronicle with ⟨failure | x, middle⟩
  · rw [ended] at grown made failed
    exact ⟨grown, made, nofun,
      fun failure same => failed failure (congrArg _ (Except.error.inj same))⟩
  · rw [ended] at grown made returned
    have same := returned x rfl
    obtain ⟨grown', made', returned', failed'⟩ := second x middle
    refine ⟨Nat.le_trans grown grown', fun call member => ?_, fun y gave => ?_,
      fun failure same' => ?_⟩
    · rcases made' call member with member | new
      · exact (made call member).imp_right fun new => new.wider (Nat.le_refl _) grown'
      · exact .inr (new.wider grown (Nat.le_refl _))
    · exact (returned' y gave).trans same
    · obtain ⟨arises, opened, under, quiet⟩ := failed' failure same'
      exact ⟨arises, opened, same ▸ under, quiet⟩

theorem unwinds_mapM {f : α → Recorded β} (each : ∀ x, Unwinds (f x)) (items : List α) :
    Unwinds (items.mapM f) := by
  induction items with
  | nil => exact unwinds_pure []
  | cons item items ih =>
      rw [List.mapM_cons]
      exact unwinds_bind (each item) fun y => unwinds_bind ih fun ys => unwinds_pure (y :: ys)

theorem unwinds_reportedBy {run : Recorded α} (name : String) (unwinds : Unwinds run) :
    Unwinds (reportedBy name run) := by
  intro chronicle
  obtain ⟨grown, made, returned, failed⟩ := unwinds chronicle
  rw [outcome_reportedBy]
  rcases ended : run.outcome chronicle with ⟨failure | x, after⟩
  · rw [ended] at grown made failed
    refine ⟨grown, made, nofun, ?_⟩
    rintro _ ⟨⟩
    obtain ⟨arises, opened, under, -⟩ := failed failure rfl
    refine ⟨Failure.arises_reportedBy arises name, opened, under, fun reason escaped => ?_⟩
    exact absurd (congrArg Except.error escaped)
      (ne_unreported_of_quiet (reportedBy_quiet name (.error failure : Except Failure α)) reason)
  · rw [ended] at grown made returned
    exact ⟨grown, made, fun _ _ => returned x rfl, nofun⟩

theorem unwinds_noted {beginning : Event} {run : Recorded Value} (begins : beginning.begins = true)
    (unwinds : Unwinds run)
    (quiet : beginning.reports = true → ∀ chronicle, isQuiet (run.outcome chronicle).1 = true)
    (new : ∀ chronicle value, (run.outcome chronicle).1 = .ok value →
      Made chronicle.store.nextId (run.outcome chronicle).2.store.nextId (beginning, value)) :
    Unwinds (noted beginning run) := by
  rintro ⟨store, earlier⟩
  have opens : underway (beginning :: earlier) = beginning :: underway earlier := by
    cases beginning <;> first | rfl | cases begins
  have same : calls (beginning :: earlier) = calls earlier := by
    cases beginning <;> first | rfl | cases begins
  obtain ⟨grown, made, returned, failed⟩ := unwinds ⟨store, beginning :: earlier⟩
  replace quiet := fun reports => quiet reports ⟨store, beginning :: earlier⟩
  replace new := new ⟨store, beginning :: earlier⟩
  rw [opens] at returned failed
  rw [same] at made
  unfold noted
  rw [outcome_bind, outcome_note]
  dsimp only
  rw [outcome_bind]
  rcases ended : run.outcome ⟨store, beginning :: earlier⟩ with ⟨failure | value, after⟩
  · rw [ended] at grown made failed quiet
    refine ⟨grown, made, nofun, ?_⟩
    rintro _ ⟨⟩
    obtain ⟨arises, opened, under, silent⟩ := failed failure rfl
    refine ⟨arises, opened ++ [beginning], by simpa using under,
      fun reason escaped event member => ?_⟩
    rcases List.mem_append.mp member with member | member
    · exact silent reason escaped event member
    · obtain rfl := List.mem_singleton.mp member
      rw [← Bool.not_eq_true]
      intro reports
      exact ne_unreported_of_quiet (quiet reports) reason (congrArg _ escaped)
  · rw [ended] at grown made returned new
    have under := returned value rfl
    refine ⟨grown, fun call member => ?_, fun _ _ => congrArg List.tail under, nofun⟩
    change call ∈
      (underway after.history).head?.toList.map (·, value) ++ calls after.history at member
    rw [under] at member
    rcases List.mem_append.mp member with last | member
    · obtain rfl := List.mem_singleton.mp last
      exact .inr (new value rfl)
    · exact made call member

section Forms

variable {depth : Nat} {evaluation : Evaluation} {frame : FrameId} {operands : List Value}

theorem unwinds_define (name : String) (value : Value) (frame : FrameId) :
    Unwinds (define name value frame) :=
  fun _ => ⟨Nat.le_refl _, fun _ => .inl, fun _ _ => rfl, nofun⟩

theorem unwinds_assign (name : String) (value : Value) (frame : FrameId) :
    Unwinds (assign name value frame) := by
  intro chronicle
  rw [outcome_assign]
  cases chronicle.store.find? name frame with
  | some owner => exact ⟨Nat.le_refl _, fun _ => .inl, fun _ _ => rfl, nofun⟩
  | none => exact unwinds_throw (α := PUnit) rfl chronicle

theorem unwinds_enter (procedure : Value) (captured : FrameId) (parameters : List String)
    (arguments : List Value) : Unwinds (enter procedure captured parameters arguments) :=
  fun _ => ⟨Nat.le_refl _, fun _ => .inl, fun _ _ => rfl, nofun⟩

theorem unwinds_conditional (evaluates : ∀ expr frame, Unwinds (evaluation expr frame)) :
    Unwinds (conditional evaluation frame operands) := by
  unfold conditional
  split
  · refine unwinds_bind (evaluates _ frame) fun verdict => ?_
    split
    · exact evaluates _ frame
    · exact unwinds_pure _
  · exact unwinds_bind (evaluates _ frame) fun verdict => evaluates _ frame
  · exact unwinds_throw rfl

theorem unwinds_binding (evaluates : ∀ expr frame, Unwinds (evaluation expr frame))
    {form : Keyword} {write : String → Value → FrameId → Recorded PUnit}
    (writes : ∀ name value frame, Unwinds (write name value frame)) :
    Unwinds (binding depth form write evaluation frame operands) := by
  unfold binding
  split
  · exact unwinds_bind (unwinds_lift (Action.orderly_ofExcept bindableName_arises)) fun name =>
      unwinds_bind (evaluates _ frame) fun value =>
        unwinds_bind (writes name value frame) fun _ => unwinds_pure _
  · exact unwinds_throw rfl

theorem unwinds_specialForm (evaluates : ∀ expr frame, Unwinds (evaluation expr frame))
    (keyword : Keyword) : Unwinds (specialForm depth evaluation frame operands keyword) := by
  cases keyword with
  | quotation => exact unwinds_lift (orderly_quotation operands)
  | conditional => exact unwinds_conditional evaluates
  | definition => exact unwinds_binding evaluates unwinds_define
  | assignment => exact unwinds_binding evaluates unwinds_assign
  | abstraction => exact unwinds_lift (orderly_abstraction frame operands)

end Forms

theorem unwinds_evaluation {run : Recorded Value} {expr : Value} {frame : FrameId}
    (unwinds : Unwinds run) : Unwinds (noted (.evaluated expr frame) run) :=
  unwinds_noted rfl unwinds nofun fun _ _ _ => made_of_quiet rfl

theorem unwinds_call {run : Recorded Value} {procedure : Value} {arguments : List Value}
    (unwinds : Unwinds run) (plain : Event.reports (.applied procedure arguments) = false) :
    Unwinds (noted (.applied procedure arguments) run) := by
  refine unwinds_noted rfl unwinds (fun reports => ?_) fun _ _ _ => made_of_quiet plain
  rw [plain] at reports
  cases reports

theorem made_of_map {mapped : Recorded (List Value)} (unwinds : Unwinds mapped)
    (arguments : List Value) (chronicle : Chronicle) {value : Value}
    (gave : ((do lift (Action.allocate (.list (← mapped))) : Recorded Value).outcome
      chronicle).1 = .ok value) :
    Made chronicle.store.nextId
      ((do lift (Action.allocate (.list (← mapped))) : Recorded Value).outcome
        chronicle).2.store.nextId (.applied (.primitive .map) arguments, value) := by
  have grown := (unwinds chronicle).grown
  rw [outcome_bind] at gave ⊢
  rcases ended : mapped.outcome chronicle with ⟨failure | results, after⟩
  · rw [ended] at gave
    cases gave
  · rw [ended] at gave grown
    cases gave
    rintro p arguments id items ⟨⟩ -
    exact .inr ⟨grown, Nat.lt_succ_self _⟩

section Applications

variable {depth : Nat} (applies : ∀ procedure arguments, Unwinds (apply depth procedure arguments))

include applies

theorem unwinds_apply (procedure items : Value) :
    Unwinds (noted (.applied (.primitive .apply) [procedure, items])
      (reportedBy Primitive.apply.name do
        apply depth procedure
          (← lift (Action.ofExcept
            (listArgument depth "apply expects a list of arguments" items))))) := by
  refine unwinds_noted rfl (unwinds_reportedBy _ ?_) (fun _ _ => reportedBy_quiet _ _) ?_
  · exact unwinds_bind (unwinds_lift (Action.orderly_raw (listArgument_raw depth _ items)))
      fun given => applies procedure given
  · rintro chronicle value - p arguments id list ⟨⟩ contrary
    exact absurd rfl contrary

theorem unwinds_map (procedure items : Value) :
    Unwinds (noted (.applied (.primitive .map) [procedure, items])
      (reportedBy Primitive.map.name do
        let items ← lift (Action.ofExcept (listArgument depth "map expects a list" items))
        let results ← items.mapM fun item => apply depth procedure [item]
        lift (Action.allocate (.list results)))) := by
  have mapped : Unwinds (do
      let items ← lift (Action.ofExcept (listArgument depth "map expects a list" items))
      items.mapM fun item => apply depth procedure [item]) :=
    unwinds_bind (unwinds_lift (Action.orderly_raw (listArgument_raw depth _ items)))
      (unwinds_mapM fun item => applies procedure [item])
  rw [← bind_assoc]
  refine unwinds_noted rfl (unwinds_reportedBy _ ?_) (fun _ _ => reportedBy_quiet _ _) ?_
  · exact unwinds_bind mapped fun results => unwinds_lift (Action.orderly_allocate _)
  · intro chronicle value gave
    exact made_of_map mapped _ chronicle (ok_of_mapError gave)

end Applications

theorem unwinds_direct (depth : Nat) (procedure : Value) (arguments : List Value)
    (notClosure : ∀ id parameters body frame, procedure ≠ .closure id parameters body frame)
    (notApply : ∀ f items, procedure = .primitive .apply → arguments ≠ [f, items])
    (notMap : ∀ f items, procedure = .primitive .map → arguments ≠ [f, items]) :
    Unwinds (noted (.applied procedure arguments)
      (lift (MiniLisp.apply (depth + 1) procedure arguments))) := by
  have runs : Unwinds (lift (MiniLisp.apply (depth + 1) procedure arguments)) :=
    unwinds_lift (orderly_direct procedure arguments notClosure notApply notMap)
  cases procedure with
  | primitive p =>
      refine unwinds_noted rfl runs (fun _ _ => ?_) fun chronicle value gave => ?_
      · unfold MiniLisp.apply
        exact reportedBy_quiet p.name _
      · exact made_of_direct p arguments (fun f items same => notApply f items (congrArg _ same))
          (fun f items same => notMap f items (congrArg _ same)) chronicle.store gave
  | _ => exact unwinds_call runs rfl

theorem run_unwinds (depth : Nat) :
    (∀ expr frame, Unwinds (evaluate depth expr frame)) ∧
    ∀ procedure arguments, Unwinds (apply depth procedure arguments) := by
  induction depth with
  | zero =>
      constructor
      · intro expr frame
        unfold evaluate
        exact unwinds_evaluation (unwinds_throw rfl)
      · intro procedure arguments
        unfold apply
        refine unwinds_noted rfl (unwinds_throw rfl) (fun _ _ => rfl) ?_
        intro chronicle value contrary
        cases contrary
  | succ depth ih =>
      obtain ⟨evaluates, applies⟩ := ih
      constructor
      · intro expr frame
        unfold evaluate
        refine unwinds_evaluation ?_
        dsimp only
        split
        · split
          · exact unwinds_specialForm evaluates _
          · exact unwinds_bind (evaluates _ frame) fun procedure =>
              unwinds_bind (unwinds_mapM (fun operand => evaluates operand frame) _)
                fun arguments => applies procedure arguments
        · rename_i notForm
          exact unwinds_lift (orderly_constant expr notForm frame)
      · intro procedure arguments
        unfold apply
        dsimp only
        split
        · exact unwinds_call
            (unwinds_bind (unwinds_enter _ _ _ _) fun frame => evaluates _ frame) rfl
        · exact unwinds_apply applies _ _
        · exact unwinds_map applies _ _
        · rename_i notClosure notApply notMap
          exact unwinds_direct depth procedure arguments notClosure notApply notMap

end Recorded

end MiniLisp
