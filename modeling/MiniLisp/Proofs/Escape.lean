import MiniLisp.Proofs.Reach
import MiniLisp.Proofs.Watch

/-!
Rejections that nobody reports. An application reports the rejections of primitives, so that only a
text that cannot be written is left to escape: that of an integer with too many digits, in a value
that is applied without being a procedure or in an operand that a form does not accept.
-/

namespace MiniLisp

namespace Value

def HoldsHuge (value : Value) : Prop :=
  ∃ n : Int, Within (.int n) value ∧ Nat.pow 10 maxNumeralLength ≤ n.natAbs

variable {value inner : Value} {depth : Nat} {reason : Rejection}

theorem HoldsHuge.of_within (huge : inner.HoldsHuge) (within : Within inner value) :
    value.HoldsHuge := by
  obtain ⟨n, inside, large⟩ := huge
  exact ⟨n, within_trans inside within, large⟩

theorem text_escapes {style : TextStyle}
    (failed : value.text style depth = .error (.unreported reason)) :
    reason = .numeralTooLong ∧ value.HoldsHuge := by
  induction depth generalizing value style with
  | zero => cases failed
  | succ depth ih =>
      have items (style : TextStyle) (values : List Value)
          (failed : values.mapM (text style depth) = .error (.unreported reason)) :
          reason = .numeralTooLong ∧ ∃ item ∈ values, item.HoldsHuge := by
        induction values with
        | nil => cases failed
        | cons item values others =>
            rw [List.mapM_cons] at failed
            rcases error_of_bind failed with failed | ⟨text, -, failed⟩
            · obtain ⟨rfl, huge⟩ := ih failed
              exact ⟨rfl, item, List.mem_cons_self, huge⟩
            · rcases error_of_bind failed with failed | ⟨texts, -, failed⟩
              · obtain ⟨rfl, other, member, huge⟩ := others failed
                exact ⟨rfl, other, List.mem_cons_of_mem item member, huge⟩
              · cases failed
      cases value with
      | int n =>
          simp only [text, intText] at failed
          split at failed
          · cases failed
          · rename_i large
            cases failed
            exact ⟨rfl, n, .here, Nat.le_of_not_lt large⟩
      | list _ values =>
          obtain ⟨rfl, item, member, huge⟩ := items style values (error_of_map failed)
          exact ⟨rfl, huge.of_within (.list member .here)⟩
      | tuple _ values =>
          obtain ⟨rfl, item, member, huge⟩ := items .detailed values (error_of_map failed)
          exact ⟨rfl, huge.of_within (.tuple member .here)⟩
      | closure _ _ body _ =>
          obtain ⟨rfl, huge⟩ := ih (error_of_map failed)
          exact ⟨rfl, huge.of_within (.body .here)⟩
      | _ => cases failed

theorem mention_escapes (failed : value.mention depth = .error (.unreported reason)) :
    reason = .numeralTooLong ∧ value.HoldsHuge := by
  cases value with
  | symbol => cases failed
  | _ => exact text_escapes failed

end Value

section Forms

variable {depth : Nat} {reason : Rejection}

theorem bindableName_escapes {form : Keyword} {operand : Value}
    (failed : SpecialForm.bindableName depth form operand = .error (.unreported reason)) :
    reason = .numeralTooLong ∧ operand.HoldsHuge := by
  cases operand with
  | symbol name =>
      simp only [SpecialForm.bindableName] at failed
      split at failed <;> cases failed
  | _ =>
    rcases error_of_bind failed with failed | ⟨text, -, failed⟩
    · exact Value.mention_escapes failed
    · cases failed

theorem parameterNames_escapes {parameters : List Value}
    (failed : SpecialForm.parameterNames depth parameters = .error (.unreported reason)) :
    reason = .numeralTooLong ∧ ∃ parameter ∈ parameters, parameter.HoldsHuge := by
  induction parameters with
  | nil => cases failed
  | cons parameter parameters ih =>
      cases parameter with
      | symbol name =>
          obtain ⟨rfl, other, member, huge⟩ := ih (error_of_map failed)
          exact ⟨rfl, other, List.mem_cons_of_mem _ member, huge⟩
      | _ =>
        rcases error_of_bind failed with failed | ⟨text, -, failed⟩
        · obtain ⟨rfl, huge⟩ := Value.mention_escapes failed
          exact ⟨rfl, _, List.mem_cons_self, huge⟩
        · cases failed

end Forms

/-- What begins with the event can fail for a text that cannot be written. -/
def Event.Unprintable : Event → Prop
  | applied procedure _ => procedure.isProcedure = false ∧ procedure.HoldsHuge
  | evaluated (.list _ (head :: operands)) _ =>
    head.keyword?.isSome ∧ ∃ operand ∈ operands, operand.HoldsHuge
  | _ => False

namespace Recorded

variable {α β : Type}

def isQuiet : Except Failure α → Bool
  | .error (.unreported _) => false
  | _ => true

/-- If a rejection has escaped, it is for a text that cannot be written, and right after an event
that explains it. -/
def Explained (ended : Except Failure α × Chronicle) : Prop :=
  ∀ reason, ended.1 = .error (.unreported reason) → reason = .numeralTooLong ∧
    ∃ event earlier, ended.2.history = event :: earlier ∧ event.Unprintable

def Explains (start : List Event → Prop) (run : Recorded α) : Prop :=
  ∀ chronicle, start chronicle.history → Explained (run.outcome chronicle)

abbrev AlwaysExplains (run : Recorded α) : Prop := Explains (fun _ => True) run

def Following (event : Event) (history : List Event) : Prop := ∃ earlier, history = event :: earlier

variable {start : List Event → Prop}

theorem ne_unreported_of_quiet {result : Except Failure α} (quiet : isQuiet result = true)
    (reason : Rejection) : result ≠ .error (.unreported reason) := by
  rintro rfl
  cases quiet

theorem explains_quiet {run : Recorded α}
    (quiet : ∀ chronicle, isQuiet (run.outcome chronicle).1 = true) : Explains start run :=
  fun chronicle _ reason failed => absurd failed (ne_unreported_of_quiet (quiet chronicle) reason)

theorem AlwaysExplains.weaken {run : Recorded α} (explains : AlwaysExplains run) :
    Explains start run :=
  fun chronicle _ => explains chronicle trivial

theorem explains_bind {run : Recorded α} {next : α → Recorded β} (first : Explains start run)
    (second : ∀ x, AlwaysExplains (next x)) : Explains start (run >>= next) := by
  intro chronicle started
  have explained := first chronicle started
  rw [outcome_bind]
  rcases ended : run.outcome chronicle with ⟨failure | x, after⟩
  · rw [ended] at explained
    exact fun reason failed => explained reason (congrArg Except.error (Except.error.inj failed))
  · exact second x after trivial

theorem explains_ofExcept {event : Event} {result : Except Failure α}
    (explained : ∀ reason, result = .error (.unreported reason) →
      reason = .numeralTooLong ∧ event.Unprintable) :
    Explains (Following event) (lift (Action.ofExcept result)) := by
  rintro chronicle ⟨earlier, begun⟩ reason failed
  rw [outcome_lift, Action.outcome_ofExcept] at failed ⊢
  obtain ⟨rfl, unprintable⟩ := explained reason failed
  exact ⟨rfl, event, earlier, begun, unprintable⟩

theorem explains_mapM {f : α → Recorded β} (each : ∀ x, AlwaysExplains (f x)) (items : List α) :
    AlwaysExplains (items.mapM f) := by
  induction items with
  | nil => exact explains_quiet fun _ => rfl
  | cons item items ih =>
      rw [List.mapM_cons]
      exact explains_bind (each item) fun y => explains_bind ih fun ys =>
        explains_quiet fun _ => rfl

theorem reportedBy_quiet (name : String) (result : Except Failure α) :
    isQuiet (result.mapError (Failure.reportedBy name)) = true := by
  cases result with
  | ok x => rfl
  | error failure => cases failure <;> rfl

theorem explains_reportedBy (name : String) (run : Recorded α) :
    Explains start (reportedBy name run) :=
  explains_quiet fun _ => reportedBy_quiet name _

theorem explains_noted {beginning : Event} {run : Recorded Value}
    (explains : Explains (Following beginning) run) : AlwaysExplains (noted beginning run) := by
  have noted : Explains (Following beginning)
      (run >>= fun value => do note (.gave value); return value) :=
    explains_bind explains fun value => explains_quiet fun _ => rfl
  intro chronicle _
  exact noted { chronicle with history := beginning :: chronicle.history } ⟨chronicle.history, rfl⟩

section Forms

variable {depth : Nat} {evaluation : Evaluation} {frame : FrameId} {id : ObjectId} {head : Value}
  {operands : List Value} {keyword : Keyword}

theorem explains_binding (evaluates : ∀ expr frame, AlwaysExplains (evaluation expr frame))
    {write : String → Value → FrameId → Recorded PUnit}
    (writes : ∀ name value frame, AlwaysExplains (write name value frame)) {form : Keyword}
    (named : head.keyword?.isSome) :
    Explains (Following (.evaluated (.list id (head :: operands)) frame))
      (binding depth form write evaluation frame operands) := by
  rcases operands with _ | ⟨target, _ | ⟨expr, _ | ⟨other, rest⟩⟩⟩
  · exact explains_quiet fun _ => rfl
  · exact explains_quiet fun _ => rfl
  · refine explains_bind (explains_ofExcept fun reason failed => ?_) fun name =>
      explains_bind (evaluates expr frame) fun value =>
        explains_bind (writes name value frame) fun _ => explains_quiet fun _ => rfl
    obtain ⟨rfl, huge⟩ := bindableName_escapes failed
    exact ⟨rfl, named, target, List.mem_cons_self, huge⟩
  · exact explains_quiet fun _ => rfl

theorem explains_abstraction (named : head.keyword?.isSome) :
    Explains (Following (.evaluated (.list id (head :: operands)) frame))
      (lift (SpecialForm.abstraction depth frame operands)) := by
  rcases operands with _ | ⟨parameters, _ | ⟨body, _ | ⟨other, rest⟩⟩⟩
  · exact explains_quiet fun _ => rfl
  · cases parameters <;> exact explains_quiet fun _ => rfl
  · have refused : Explains (Following (.evaluated (.list id [head, parameters, body]) frame))
        (lift (do throw (.parametersExpected (← Action.ofExcept (parameters.mention depth))) :
          Action Value)) := by
      rw [lift_bind]
      refine explains_bind (explains_ofExcept fun reason failed => ?_) fun text =>
        explains_quiet fun _ => rfl
      obtain ⟨rfl, huge⟩ := Value.mention_escapes failed
      exact ⟨rfl, named, parameters, List.mem_cons_self, huge⟩
    cases parameters with
    | list id' items =>
        rw [SpecialForm.abstraction, lift_bind]
        refine explains_bind (explains_ofExcept fun reason failed => ?_) fun names =>
          explains_quiet fun _ => rfl
        obtain ⟨rfl, parameter, member, huge⟩ := parameterNames_escapes failed
        exact ⟨rfl, named, _, List.mem_cons_self, huge.of_within (.list member .here)⟩
    | _ => exact refused
  · cases parameters <;> exact explains_quiet fun _ => rfl

theorem explains_form (evaluates : ∀ expr frame, AlwaysExplains (evaluation expr frame))
    (named : head.keyword? = some keyword) :
    Explains (Following (.evaluated (.list id (head :: operands)) frame))
      (specialForm depth evaluation frame operands keyword) := by
  have isForm : head.keyword?.isSome := by rw [named]; rfl
  cases keyword with
  | quotation =>
      rcases operands with _ | ⟨datum, _ | _⟩ <;> exact explains_quiet fun _ => rfl
  | conditional =>
      rcases operands with _ | ⟨test, _ | ⟨consequent, _ | ⟨alternative, _ | ⟨other, rest⟩⟩⟩⟩
      · exact explains_quiet fun _ => rfl
      · exact explains_quiet fun _ => rfl
      · refine explains_bind (evaluates test frame).weaken fun verdict => ?_
        split
        · exact evaluates consequent frame
        · exact explains_quiet fun _ => rfl
      · exact explains_bind (evaluates test frame).weaken fun verdict => evaluates _ frame
      · exact explains_quiet fun _ => rfl
  | definition =>
      exact explains_binding evaluates (fun name value frame => explains_quiet fun _ => rfl) isForm
  | assignment =>
      refine explains_binding evaluates (fun name value frame => explains_quiet ?_) isForm
      intro chronicle
      rw [outcome_assign]
      cases chronicle.store.find? name frame <;> rfl
  | abstraction => exact explains_abstraction isForm

end Forms

theorem explains_constant (expr : Value) (notForm : ∀ id head operands,
    expr ≠ .list id (head :: operands)) (depth : Nat) (frame : FrameId) :
    Explains start (lift (MiniLisp.evaluate (depth + 1) expr frame)) := by
  cases expr with
  | symbol name =>
      refine explains_quiet fun chronicle => ?_
      rw [outcome_lift, MiniLisp.evaluate, Action.outcome_read]
      dsimp only
      split <;> rfl
  | list id items =>
      cases items with
      | nil => exact explains_quiet fun _ => rfl
      | cons head operands => exact absurd rfl (notForm id head operands)
  | _ => exact explains_quiet fun _ => rfl

theorem explains_direct (procedure : Value) (arguments : List Value)
    (notClosure : ∀ id parameters body frame, procedure ≠ .closure id parameters body frame)
    (depth : Nat) :
    Explains (Following (.applied procedure arguments))
      (lift (MiniLisp.apply (depth + 1) procedure arguments)) := by
  have called (plain : procedure.isProcedure = false) :
      Explains (Following (.applied procedure arguments)) (lift (do
        throw (.notProcedure (← Action.ofExcept (procedure.text .plain depth))) : Action Value)) := by
    rw [lift_bind]
    refine explains_bind (explains_ofExcept fun reason failed => ?_) fun text =>
      explains_quiet fun _ => rfl
    obtain ⟨rfl, huge⟩ := Value.text_escapes failed
    exact ⟨rfl, plain, huge⟩
  cases procedure with
  | closure id parameters body frame => exact absurd rfl (notClosure id parameters body frame)
  | primitive p =>
      unfold MiniLisp.apply
      exact explains_reportedBy p.name (lift _)
  | _ => exact called rfl

theorem explains_run (depth : Nat) :
    (∀ expr frame, AlwaysExplains (evaluate depth expr frame)) ∧
    ∀ procedure arguments, AlwaysExplains (apply depth procedure arguments) := by
  induction depth with
  | zero =>
      constructor
      · intro expr frame
        unfold evaluate
        exact explains_noted (explains_quiet fun _ => rfl)
      · intro procedure arguments
        unfold apply
        exact explains_noted (explains_quiet fun _ => rfl)
  | succ depth ih =>
      obtain ⟨evaluates, applies⟩ := ih
      constructor
      · intro expr frame
        unfold evaluate
        refine explains_noted ?_
        dsimp only
        split
        · rename_i id head operands
          split
          · rename_i keyword named
            exact explains_form evaluates named
          · exact explains_bind (evaluates head frame).weaken fun procedure =>
              explains_bind (explains_mapM (fun operand => evaluates operand frame) operands)
                fun arguments => applies procedure arguments
        · rename_i notForm
          exact explains_constant expr notForm depth frame
      · intro procedure arguments
        unfold apply
        refine explains_noted ?_
        dsimp only
        split
        · exact explains_bind (explains_quiet fun _ => rfl) fun frame => evaluates _ frame
        · exact explains_reportedBy _ _
        · exact explains_reportedBy _ _
        · rename_i notClosure _ _
          exact explains_direct procedure arguments notClosure depth

end Recorded

/-- No procedure in the value has an integer in its body that cannot be written. The code that is
read from lines has none. -/
def Value.LegibleCode (value : Value) : Prop :=
  ∀ id parameters body frame, Within (.closure id parameters body frame) value → ¬ body.HoldsHuge

def Store.LegibleCode (store : Store) : Prop :=
  ∀ frame name value, store.get? name frame = some value → value.LegibleCode

abbrev Chronicle.Legible (chronicle : Chronicle) : Prop :=
  chronicle.Allows (¬ ·.HoldsHuge) fun _ body _ => ¬ body.HoldsHuge

def legibilityWatch : Watch :=
  .ofProcedures (¬ ·.HoldsHuge) (fun _ body _ => ¬ body.HoldsHuge)
    (fun _ legible _ member huge => legible (huge.of_within (Value.within_of_mem_items member)))
    (fun legible _ _ _ _ within huge => legible ((huge.of_within (.body .here)).of_within within))
    (fun _ legible _ huge => legible (huge.of_within (.list (by simp) .here)))
    id

/-- The event is the application of something that is no procedure and holds an integer that cannot
be written. -/
def Event.MiscallsHuge (event : Event) : Prop :=
  ∃ procedure arguments, event = .applied procedure arguments ∧ procedure.isProcedure = false ∧
    procedure.HoldsHuge

theorem Event.Allowed.miscallsHuge {event : Event}
    (allowed : event.Allowed (¬ ·.HoldsHuge) Value.LegibleCode) (unprintable : event.Unprintable) :
    event.MiscallsHuge := by
  cases event with
  | applied procedure arguments => exact ⟨procedure, arguments, rfl, unprintable⟩
  | evaluated expr frame =>
      cases expr with
      | list id items =>
          cases items with
          | nil => cases unprintable
          | cons head operands =>
              obtain ⟨-, operand, member, huge⟩ := unprintable
              exact absurd (huge.of_within (.list (List.mem_cons_of_mem head member) .here)) allowed
      | _ => cases unprintable
  | _ => cases unprintable

/-- If all code is legible, only the application of what is no procedure lets a rejection escape. -/
theorem Recorded.apply_escapes {depth : Nat} {procedure : Value} {arguments : List Value}
    {chronicle : Chronicle} (legible : chronicle.Legible) (code : procedure.LegibleCode)
    (given : ∀ argument ∈ arguments, argument.LegibleCode) {reason : Rejection}
    (failed : ((apply depth procedure arguments).outcome chronicle).1 =
      .error (.unreported reason)) :
    ∃ event earlier, ((apply depth procedure arguments).outcome chronicle).2.history =
      event :: earlier ∧ event.MiscallsHuge := by
  obtain ⟨-, event, earlier, last, unprintable⟩ :=
    (explains_run depth).2 procedure arguments chronicle trivial reason failed
  obtain ⟨after, -⟩ := legibilityWatch.apply_keeps depth code given legible
  have allowed := after.events event (by rw [last]; exact List.mem_cons_self)
  exact ⟨event, earlier, last, allowed.miscallsHuge unprintable⟩

end MiniLisp
