import MiniLisp.Proofs.Rejections

namespace MiniLisp

def Failure.arises : Failure → Bool
  | unreadable _ | unfit | notDefinable _ => false
  | _ => true

theorem Failure.arises_of_raw {failure : Failure} (raw : failure.isRaw = true) :
    failure.arises = true := by
  cases failure <;> first | rfl | cases raw

theorem Failure.arises_reportedBy {failure : Failure} (arises : failure.arises = true)
    (name : String) : (failure.reportedBy name).arises = true := by
  cases failure <;> first | rfl | cases arises

theorem le_number (next : ObjectId) (n : Number) : next ≤ (n.toValue next).2 := by
  rcases n with n | ⟨x | negative⟩ | ⟨re, im⟩ <;> simp [Number.toValue]

theorem le_answer (next : ObjectId) (answer : Answer) : next ≤ (answer.toValue next).2 := by
  cases answer with
  | scalar scalar =>
      cases scalar with
      | number n => exact le_number next n
      | truth b => exact Nat.le_refl next
      | pair first second =>
          have early := le_number next first
          have late := le_number (first.toValue next).2 second
          exact Nat.le_succ_of_le (Nat.le_trans early late)
  | nothing | given => exact Nat.le_refl next
  | list => exact Nat.le_succ next
  | tuple items => cases items <;> simp [Answer.toValue]

namespace Action

variable {α β : Type}

/-- The action fails as evaluation may fail, and gives no identity away that was given before. -/
def Orderly (action : Action α) : Prop := ∀ store,
  store.nextId ≤ (action.outcome store).2.nextId ∧
    ∀ failure, (action.outcome store).1 = .error failure → failure.arises = true

theorem orderly_pure (x : α) : Orderly (pure x) := fun _ => ⟨Nat.le_refl _, nofun⟩

theorem orderly_throw {failure : Failure} (arises : failure.arises = true) :
    Orderly (throw failure : Action α) := by
  refine fun store => ⟨Nat.le_refl _, ?_⟩
  rintro _ ⟨⟩
  exact arises

theorem orderly_bind {action : Action α} {next : α → Action β} (first : Orderly action)
    (second : ∀ x, Orderly (next x)) : Orderly (action >>= next) := by
  intro store
  obtain ⟨grown, arises⟩ := first store
  rw [outcome_bind]
  rcases ended : action.outcome store with ⟨failure | x, after⟩
  · rw [ended] at grown arises
    exact ⟨grown, fun failure failed => arises failure (congrArg _ (Except.error.inj failed))⟩
  · rw [ended] at grown
    exact ⟨Nat.le_trans grown (second x after).1, (second x after).2⟩

theorem orderly_ofExcept {result : Except Failure α}
    (arises : ∀ failure, result = .error failure → failure.arises = true) :
    Orderly (ofExcept result) := by
  intro store
  rw [outcome_ofExcept]
  exact ⟨Nat.le_refl _, arises⟩

theorem orderly_raw {result : Except Failure α} (raw : FailsRaw result) :
    Orderly (ofExcept result) :=
  orderly_ofExcept fun failure failed => Failure.arises_of_raw (raw failure failed)

theorem orderly_reportedBy {action : Action α} (name : String) (orderly : Orderly action) :
    Orderly (reportedBy name action) := by
  intro store
  obtain ⟨grown, arises⟩ := orderly store
  rw [outcome_reportedBy]
  refine ⟨grown, fun failure failed => ?_⟩
  cases ended : (action.outcome store).1 with
  | ok x =>
      rw [ended] at failed
      cases failed
  | error inner =>
      rw [ended] at failed
      cases failed
      exact Failure.arises_reportedBy (arises inner ended) name

theorem orderly_allocate (answer : Answer) : Orderly (allocate answer) :=
  fun store => ⟨le_answer store.nextId answer, nofun⟩

theorem orderly_read (name : String) (frame : FrameId) : Orderly (read name frame) := by
  intro store
  rw [outcome_read]
  refine ⟨Nat.le_refl _, fun failure failed => ?_⟩
  dsimp only at failed
  split at failed <;> cases failed <;> rfl

theorem orderly_printLine (depth : Nat) (value : Value) : Orderly (printLine depth value) :=
  orderly_bind (orderly_raw (value.text_raw depth .plain)) fun _ _ => ⟨Nat.le_refl _, nofun⟩

end Action

section Forms

open MiniLisp.Action

variable {depth : Nat}

theorem bindableName_arises {form : Keyword} {operand : Value} (failure : Failure)
    (failed : SpecialForm.bindableName depth form operand = .error failure) :
    failure.arises = true := by
  cases operand with
  | symbol name =>
      simp only [SpecialForm.bindableName] at failed
      split at failed <;> cases failed
      rfl
  | _ =>
    rcases error_of_bind failed with failed | ⟨text, -, failed⟩
    · exact Failure.arises_of_raw (Value.mention_raw depth _ failure failed)
    · cases failed
      rfl

theorem parameterNames_arises {parameters : List Value} (failure : Failure)
    (failed : SpecialForm.parameterNames depth parameters = .error failure) :
    failure.arises = true := by
  induction parameters with
  | nil => cases failed
  | cons parameter parameters ih =>
      cases parameter with
      | symbol name => exact ih (error_of_map failed)
      | _ =>
        rcases error_of_bind failed with failed | ⟨text, -, failed⟩
        · exact Failure.arises_of_raw (Value.mention_raw depth _ failure failed)
        · cases failed
          rfl

theorem orderly_quotation (operands : List Value) : Orderly (SpecialForm.quotation operands) := by
  rcases operands with _ | ⟨datum, _ | _⟩
  · exact orderly_throw rfl
  · exact orderly_pure datum
  · exact orderly_throw rfl

theorem orderly_abstraction (frame : FrameId) (operands : List Value) :
    Orderly (SpecialForm.abstraction depth frame operands) := by
  unfold SpecialForm.abstraction
  split
  · exact orderly_bind (orderly_ofExcept parameterNames_arises) fun names store =>
      ⟨Nat.le_succ _, nofun⟩
  · exact orderly_bind (orderly_raw (Value.mention_raw depth _)) fun _ => orderly_throw rfl
  · exact orderly_throw rfl

theorem orderly_constant (expr : Value) (notForm : ∀ id head operands,
    expr ≠ .list id (head :: operands)) (frame : FrameId) :
    Orderly (evaluate (depth + 1) expr frame) := by
  unfold evaluate
  split
  · exact orderly_read _ frame
  · exact orderly_throw rfl
  · exact absurd rfl (notForm _ _ _)
  · exact orderly_pure _

theorem orderly_direct (procedure : Value) (arguments : List Value)
    (notClosure : ∀ id parameters body frame, procedure ≠ .closure id parameters body frame)
    (notApply : ∀ f items, procedure = .primitive .apply → arguments ≠ [f, items])
    (notMap : ∀ f items, procedure = .primitive .map → arguments ≠ [f, items]) :
    Orderly (apply (depth + 1) procedure arguments) := by
  have answered {result : Except Failure Answer} (raw : FailsRaw result) :
      Orderly (do allocate (← Action.ofExcept result)) :=
    orderly_bind (orderly_raw raw) orderly_allocate
  unfold apply
  split
  · exact absurd rfl (notClosure _ _ _ _)
  · refine orderly_reportedBy _ ?_
    split
    · exact answered (Operation.answer_raw depth _ _)
    · exact answered (LibraryFunction.answer_raw depth _ _)
    · exact orderly_bind (orderly_printLine depth _) fun _ => orderly_pure _
    · exact absurd rfl (notApply _ _ rfl)
    · exact absurd rfl (notMap _ _ rfl)
    · exact orderly_throw rfl
  · exact orderly_bind (orderly_raw (Value.text_raw depth _ .plain)) fun _ => orderly_throw rfl

end Forms

end MiniLisp
