import MiniLisp.Proofs.DepthLimit
import MiniLisp.Proofs.Escape

namespace MiniLisp

/-- The application through `apply` of a procedure to the list of its arguments, as often as there
are identities for the lists. -/
def throughApply : List ObjectId → Value → List Value → Value × List Value
  | [], procedure, arguments => (procedure, arguments)
  | id :: ids, procedure, arguments =>
    let (inner, innerArguments) := throughApply ids procedure arguments
    (.primitive .apply, [inner, .list id innerArguments])

/-- The procedure was applied to the items one by one, from a store on, and gave the results. -/
inductive AppliedToEach (depth : Nat) (procedure : Value) :
    Store → List Value → List Value → Store → Prop
  | nil (store : Store) : AppliedToEach depth procedure store [] [] store
  | cons {store after last : Store} {item result : Value} {items results : List Value}
      (first : (apply depth procedure [item]).outcome store = (.ok result, after))
      (rest : AppliedToEach depth procedure after items results last) :
      AppliedToEach depth procedure store (item :: items) (result :: results) last

variable {depth : Nat} {procedure : Value} {arguments : List Value} {store : Store}

theorem apply_apply (depth : Nat) (procedure : Value) (id : ObjectId) (arguments : List Value) :
    apply (depth + 1) (.primitive .apply) [procedure, .list id arguments] =
      Action.reportedBy "apply_" (apply depth procedure arguments) := by
  rw [apply]
  rfl

theorem apply_map (depth : Nat) (procedure : Value) (id : ObjectId) (items : List Value) :
    apply (depth + 1) (.primitive .map) [procedure, .list id items] =
      Action.reportedBy "map_" (do
        let results ← items.mapM fun item => apply depth procedure [item]
        Action.allocate (.list results)) := by
  rw [apply]
  rfl

theorem mapM_each (depth : Nat) (procedure : Value) (items : List Value) (store : Store) :
    (∃ results after, AppliedToEach depth procedure store items results after ∧
      (items.mapM fun item => apply depth procedure [item]).outcome store = (.ok results, after)) ∨
    ∃ done item rest results middle failure after, items = done ++ item :: rest ∧
      AppliedToEach depth procedure store done results middle ∧
      (apply depth procedure [item]).outcome middle = (.error failure, after) ∧
      (items.mapM fun item => apply depth procedure [item]).outcome store =
        (.error failure, after) := by
  induction items generalizing store with
  | nil => exact .inl ⟨[], store, .nil store, rfl⟩
  | cons item items ih =>
      rw [List.mapM_cons, Action.outcome_bind]
      rcases first : (apply depth procedure [item]).outcome store with ⟨failure | result, after⟩
      · exact .inr ⟨[], item, items, [], store, failure, after, rfl, .nil store, first, rfl⟩
      · dsimp only
        rw [Action.outcome_bind]
        rcases ih after with ⟨results, last, each, mapped⟩ |
          ⟨done, failing, rest, results, middle, failure, last, rfl, each, failed, mapped⟩
        · rw [mapped]
          exact .inl ⟨result :: results, last, .cons first each, rfl⟩
        · rw [mapped]
          exact .inr ⟨item :: done, failing, rest, result :: results, middle, failure, last, rfl,
            .cons first each, failed, rfl⟩

theorem reportedBy_of_domestic {failure : Failure} (domestic : failure.isDomestic = true)
    (name : String) : failure.reportedBy name = failure := by
  cases failure <;> first | rfl | cases domestic

theorem mapError_of_domestic {α : Type} {result : Except Failure α}
    (domestic : ∀ failure, result = .error failure → failure.isDomestic = true) (name : String) :
    result.mapError (Failure.reportedBy name) = result := by
  cases result with
  | ok x => rfl
  | error failure => exact congrArg _ (reportedBy_of_domestic (domestic failure rfl) name)

theorem outcome_apply_apply (depth : Nat) (procedure : Value) (id : ObjectId)
    (arguments : List Value) (store : Store) :
    (apply (depth + 1) (.primitive .apply) [procedure, .list id arguments]).outcome store =
      (((apply depth procedure arguments).outcome store).1.mapError (Failure.reportedBy "apply_"),
        ((apply depth procedure arguments).outcome store).2) := by
  rw [apply_apply, Action.outcome_reportedBy]

theorem outcome_throughApply (depth : Nat) (procedure : Value) (arguments : List Value)
    (store : Store)
    (domestic : ∀ failure, ((apply depth procedure arguments).outcome store).1 = .error failure →
      failure.isDomestic = true) (ids : List ObjectId) :
    (apply (ids.length + depth) (throughApply ids procedure arguments).1
      (throughApply ids procedure arguments).2).outcome store =
        (apply depth procedure arguments).outcome store := by
  induction ids with
  | nil => rw [List.length_nil, Nat.zero_add, throughApply]
  | cons id ids ih =>
      rw [List.length_cons, Nat.add_right_comm, throughApply]
      rw [outcome_apply_apply, ih, mapError_of_domestic domestic]

theorem outcome_of_le {low high : Nat} (le : low ≤ high) (procedure : Value)
    (arguments : List Value) (store : Store)
    (enough : ((apply low procedure arguments).outcome store).1 ≠ .error .depthExceeded) :
    (apply high procedure arguments).outcome store = (apply low procedure arguments).outcome store :=
  ((((shortens low high le).2 procedure arguments).same_or_cut store).resolve_right
    fun cut => enough cut.1).symm

theorem outcome_apply_map (depth : Nat) (procedure : Value) (id : ObjectId) (items : List Value)
    (store : Store) :
    (∃ results after, AppliedToEach depth procedure store items results after ∧
      (apply (depth + 1) (.primitive .map) [procedure, .list id items]).outcome store =
        (.ok (.list after.nextId results), { after with nextId := after.nextId + 1 })) ∨
    ∃ done item rest results middle failure after, items = done ++ item :: rest ∧
      AppliedToEach depth procedure store done results middle ∧
      (apply depth procedure [item]).outcome middle = (.error failure, after) ∧
      (apply (depth + 1) (.primitive .map) [procedure, .list id items]).outcome store =
        (.error (failure.reportedBy "map_"), after) := by
  rw [apply_map, Action.outcome_reportedBy, Action.outcome_bind]
  rcases mapM_each depth procedure items store with ⟨results, after, each, mapped⟩ |
    ⟨done, item, rest, results, middle, failure, after, rfl, each, failed, mapped⟩
  · rw [mapped]
    exact .inl ⟨results, after, each, rfl⟩
  · rw [mapped]
    exact .inr ⟨done, item, rest, results, middle, failure, after, rfl, each, failed, rfl⟩

theorem escapes_numeralTooLong {reason : Rejection}
    (failed : ((apply depth procedure arguments).outcome store).1 = .error (.unreported reason)) :
    reason = .numeralTooLong := by
  obtain ⟨same, -⟩ := Recorded.apply_erases depth procedure arguments ⟨store, []⟩
  rw [← same] at failed
  exact ((Recorded.explains_run depth).2 procedure arguments ⟨store, []⟩ trivial reason failed).1

/-- Applying a procedure through `apply`, through any number of nested uses of it, is applying the
procedure, and `map` applies it to the items in turn up to the first failure. Only a rejection that
escapes from the application, for which something was called that is no procedure, is reported under
the name of the innermost of them. -/
theorem apply_transparent (depth : Nat) (procedure : Value) (arguments : List Value)
    (store : Store) :
    let direct := (apply depth procedure arguments).outcome store
    ((∀ failure, direct.1 = .error failure → failure.isDomestic = true) →
      ∀ ids limit, ids.length + depth ≤ limit →
        (apply limit (throughApply ids procedure arguments).1
          (throughApply ids procedure arguments).2).outcome store = direct) ∧
    (∀ p, procedure = .primitive p → ∀ reason, direct.1 ≠ .error (.unreported reason)) ∧
    (∀ id, (∃ results after, AppliedToEach depth procedure store arguments results after ∧
        (apply (depth + 1) (.primitive .map) [procedure, .list id arguments]).outcome store =
          (.ok (.list after.nextId results), { after with nextId := after.nextId + 1 })) ∨
      ∃ done item rest results middle failure after, arguments = done ++ item :: rest ∧
        AppliedToEach depth procedure store done results middle ∧
        (apply depth procedure [item]).outcome middle = (.error failure, after) ∧
        (apply (depth + 1) (.primitive .map) [procedure, .list id arguments]).outcome store =
          (.error (failure.reportedBy "map_"), after) ∧
        (failure.isDomestic = true → failure.reportedBy "map_" = failure) ∧
        ∀ reason, failure = .unreported reason → reason = .numeralTooLong) ∧
    ∀ reason, direct.1 = .error (.unreported reason) → reason = .numeralTooLong ∧
      (∀ id, (apply (depth + 1) (.primitive .apply) [procedure, .list id arguments]).outcome store =
        (.error (.rejected "apply_" reason), direct.2)) ∧
      (store.LegibleCode → procedure.LegibleCode → (∀ v ∈ arguments, v.LegibleCode) →
        ∃ event earlier, ((Recorded.apply depth procedure arguments).outcome ⟨store, []⟩).2.history =
          event :: earlier ∧ event.MiscallsHuge) := by
  intro direct
  refine ⟨?_, ?_, ?_, ?_⟩
  · intro domestic ids limit le
    have through := outcome_throughApply depth procedure arguments store domestic ids
    rw [outcome_of_le le, through]
    intro cut
    rw [through] at cut
    cases domestic _ cut
  · rintro p rfl reason
    refine Recorded.ne_unreported_of_quiet ?_ reason
    cases depth with
    | zero => rfl
    | succ depth =>
        dsimp only [direct]
        unfold apply
        exact Recorded.reportedBy_quiet p.name _
  · intro id
    refine (outcome_apply_map depth procedure id arguments store).imp_right ?_
    rintro ⟨done, item, rest, results, middle, failure, after, split, each, failed, mapped⟩
    refine ⟨done, item, rest, results, middle, failure, after, split, each, failed, mapped,
      fun domestic => reportedBy_of_domestic domestic _, ?_⟩
    rintro reason rfl
    exact escapes_numeralTooLong (congrArg Prod.fst failed)
  · intro reason failed
    refine ⟨escapes_numeralTooLong failed, fun id => ?_, fun legible code given => ?_⟩
    · rw [outcome_apply_apply]
      refine Prod.ext ?_ rfl
      change direct.1.mapError _ = _
      rw [failed]
      rfl
    · obtain ⟨same, -⟩ := Recorded.apply_erases depth procedure arguments ⟨store, []⟩
      have sound : Chronicle.Legible ⟨store, []⟩ :=
        ⟨fun _ member => absurd member List.not_mem_nil, legible⟩
      exact Recorded.apply_escapes sound code given (same.trans failed)

theorem apply_transparent_car :
    (∀ failure, ((apply 1 (.primitive (.operation .car)) [.list 2 []]).outcome Store.empty).1 =
      .error failure → failure.isDomestic = true) ∧
    ((apply 9 (throughApply [3, 4] (.primitive (.operation .car)) [.list 2 []]).1
      (throughApply [3, 4] (.primitive (.operation .car)) [.list 2 []]).2).outcome Store.empty).1 =
        .error (.rejected "car" .emptyList) := by
  have direct : (apply 1 (.primitive (.operation .car)) [.list 2 []]).outcome Store.empty =
      (.error (.rejected "car" .emptyList), Store.empty) := rfl
  have domestic : ∀ failure, ((apply 1 (.primitive (.operation .car)) [.list 2 []]).outcome
      Store.empty).1 = .error failure → failure.isDomestic = true := by
    intro failure failed
    rw [direct] at failed
    cases failed
    rfl
  have through := (apply_transparent 1 (.primitive (.operation .car)) [.list 2 []] Store.empty).1
    domestic [3, 4] 9 (by decide)
  exact ⟨domestic, by rw [through, direct]⟩

end MiniLisp
