import MiniLisp.Proofs.DepthLimit

namespace MiniLisp

open List (Forall₂)

/-- The run gives the truth value under every limit that is large enough, and under any other it
gives the same or fails for want of depth. -/
structure Decides (run : Nat → Action Value) (verdict : Bool) : Prop where
  enough : ∃ enough, ∀ depth, enough ≤ depth → ∀ store,
    ((run depth).outcome store).1 = .ok (.bool verdict)
  cut : ∀ depth store, ((run depth).outcome store).1 = .ok (.bool verdict) ∨
    ((run depth).outcome store).1 = .error .depthExceeded

def Operation.of (operation : Operation) (a b : Value) (depth : Nat) : Action Value :=
  apply depth (.primitive (.operation operation)) [a, b]

/-- A run answers with what a comparison one level below it comes to. -/
structure Answers (run : Nat → Action Value) (compare : Nat → Except Failure Bool) : Prop where
  lasting : ∀ low high, low ≤ high → SameOrCut (compare low) (compare high)
  total : ∃ depth verdict, compare depth = .ok verdict
  none : ∀ store, ((run 0).outcome store).1 = .error .depthExceeded
  given : ∀ depth store verdict, compare depth = .ok verdict →
    ((run (depth + 1)).outcome store).1 = .ok (.bool verdict)
  cut : ∀ depth store, compare depth = .error .depthExceeded →
    ((run (depth + 1)).outcome store).1 = .error .depthExceeded

theorem Agree.ok_of_ok {α : Type} {left right : Except Failure α} {x : α}
    (agree : SameOrCut left right) (ended : left = .ok x) : right = .ok x := by
  rcases agree.same_or_cut with same | cut
  · exact same ▸ ended
  · cases ended.symm.trans cut

theorem Decides.unique {run : Nat → Action Value} {verdict verdict' : Bool}
    (decided : Decides run verdict) (decided' : Decides run verdict') : verdict = verdict' := by
  obtain ⟨enough, given⟩ := decided.enough
  obtain ⟨enough', given'⟩ := decided'.enough
  have same := (given (max enough enough') (Nat.le_max_left _ _) .empty).symm.trans
    (given' (max enough enough') (Nat.le_max_right _ _) .empty)
  cases same
  rfl

namespace Answers

variable {run : Nat → Action Value} {compare : Nat → Except Failure Bool} {verdict : Bool}

theorem decides (answers : Answers run compare) {depth : Nat}
    (ended : compare depth = .ok verdict) : Decides run verdict := by
  have later (high : Nat) (le : depth ≤ high) : compare high = .ok verdict :=
    (answers.lasting depth high le).ok_of_ok ended
  constructor
  · refine ⟨depth + 1, fun limit le store => ?_⟩
    obtain ⟨below, rfl⟩ := Nat.exists_eq_add_of_le' le
    exact answers.given (below + depth) store verdict (later _ (Nat.le_add_left depth below))
  · intro limit store
    cases limit with
    | zero => exact .inr (answers.none store)
    | succ low =>
        rcases (answers.lasting low (max low depth) (Nat.le_max_left _ _)).same_or_cut with
          same | cut
        · exact .inl (answers.given low store verdict
            (same.trans (later _ (Nat.le_max_right _ _))))
        · exact .inr (answers.cut low store cut)

theorem exists_verdict (answers : Answers run compare) : ∃ verdict, Decides run verdict := by
  obtain ⟨depth, verdict, ended⟩ := answers.total
  exact ⟨verdict, answers.decides ended⟩

theorem decides_iff (answers : Answers run compare) :
    Decides run verdict ↔ ∃ depth, compare depth = .ok verdict := by
  constructor
  · intro decided
    obtain ⟨depth, verdict', ended⟩ := answers.total
    obtain rfl := decided.unique (answers.decides ended)
    exact ⟨depth, ended⟩
  · rintro ⟨depth, ended⟩
    exact answers.decides ended

end Answers

namespace Value

variable {test : Value → Value → Except Failure Bool} {as bs : List Value} {low high depth : Nat}
  {a b : Value} {verdict : Bool}

theorem pairwise_eq_true :
    pairwise test as bs = .ok true ↔ Forall₂ (fun a b => test a b = .ok true) as bs := by
  induction as generalizing bs with
  | nil => cases bs <;> simp [pairwise]
  | cons a as ih =>
      cases bs with
      | nil => simp [pairwise]
      | cons b bs =>
          rw [List.forall₂_cons, ← ih, pairwise]
          cases test a b with
          | error failure => simp [bind, Except.bind]
          | ok passed => cases passed <;> simp [bind, Except.bind]

theorem pairwise_total (each : ∀ a ∈ as, ∀ b, ∃ verdict, test a b = .ok verdict) :
    ∃ verdict, pairwise test as bs = .ok verdict := by
  induction as generalizing bs with
  | nil => cases bs <;> exact ⟨_, rfl⟩
  | cons a as ih =>
      cases bs with
      | nil => exact ⟨_, rfl⟩
      | cons b bs =>
          obtain ⟨passed, tested⟩ := each a List.mem_cons_self b
          rw [pairwise, tested]
          cases passed with
          | false => exact ⟨false, rfl⟩
          | true => exact ih fun other member => each other (List.mem_cons_of_mem a member)

theorem alike_lasting (a b : Value) (low high : Nat) (le : low ≤ high) :
    SameOrCut (alike low a b) (alike high a b) :=
  (Resemblance.self True).alike (.inr ⟨⟨⟩, le⟩) rfl rfl

theorem equal_lasting (a b : Value) (low high : Nat) (le : low ≤ high) :
    SameOrCut (equal low a b) (equal high a b) :=
  (Resemblance.self True).equal (.inr ⟨⟨⟩, le⟩) rfl rfl

theorem alike_of_le (le : low ≤ high) (ended : alike low a b = .ok verdict) :
    alike high a b = .ok verdict :=
  (alike_lasting a b low high le).ok_of_ok ended

theorem equal_of_le (le : low ≤ high) (ended : equal low a b = .ok verdict) :
    equal high a b = .ok verdict :=
  (equal_lasting a b low high le).ok_of_ok ended

theorem size_lt_of_sequence {kind : SequenceKind} {items : List Value} {item : Value}
    (sequence : a.sequence? = some (kind, items)) (member : item ∈ items) :
    sizeOf item < sizeOf a := by
  have smaller := List.sizeOf_lt_of_mem member
  cases a <;> cases sequence <;> simp only [list.sizeOf_spec, tuple.sizeOf_spec] <;> omega

/-- The size of the first value is depth enough, as it is its items that are compared next. -/
theorem alike_total (a b : Value) (small : sizeOf a < depth) :
    ∃ verdict, alike depth a b = .ok verdict := by
  induction depth generalizing a b with
  | zero => exact absurd small (Nat.not_lt_zero _)
  | succ depth ih =>
      unfold alike
      cases sameNumber? a b with
      | some agreed => exact ⟨agreed, rfl⟩
      | none =>
          dsimp only
          split
          · rename_i first second
            split
            · refine pairwise_total fun x member y => ?_
              split
              · exact ⟨true, rfl⟩
              · have smaller := size_lt_of_sequence first member
                exact ih x y (by omega)
            · exact ⟨false, rfl⟩
          · exact ⟨_, rfl⟩

theorem equal_total (a b : Value) (small : sizeOf a < depth) :
    ∃ verdict, equal depth a b = .ok verdict := by
  induction depth generalizing a b with
  | zero => exact absurd small (Nat.not_lt_zero _)
  | succ depth ih =>
      unfold equal
      split
      · exact ⟨true, rfl⟩
      · split
        · split
          · refine pairwise_total fun x member y => ?_
            have smaller := List.sizeOf_lt_of_mem member
            simp only [list.sizeOf_spec] at small
            exact ih x y (by omega)
          · exact ⟨false, rfl⟩
        · split
          · exact ⟨_, rfl⟩
          · split
            · exact alike_total a b small
            · exact ⟨false, rfl⟩

end Value

namespace Operation

variable {a b : Value} {verdict : Bool}

theorem outcome_apply (operation : Operation) (arguments : List Value) (depth : Nat)
    (store : Store) :
    (apply (depth + 1) (.primitive (.operation operation)) arguments).outcome store =
      match operation.answer depth arguments with
      | .ok answer => (.ok (answer.toValue store.nextId).1,
          { store with nextId := (answer.toValue store.nextId).2 })
      | .error failure =>
          (.error (failure.reportedBy (Primitive.operation operation).name), store) := by
  rw [apply, Action.outcome_reportedBy, Action.outcome_bind, Action.outcome_ofExcept]
  cases operation.answer depth arguments <;> rfl

theorem answers_of {operation : Operation} {compare : Nat → Except Failure Bool}
    (answer : ∀ depth, operation.answer depth [a, b] = (compare depth).map .truth)
    (lasting : ∀ low high, low ≤ high → SameOrCut (compare low) (compare high))
    (total : ∃ depth verdict, compare depth = .ok verdict) :
    Answers (operation.of a b) compare where
  lasting := lasting
  total := total
  none := fun _ => rfl
  given := by
    intro depth store verdict ended
    rw [of, outcome_apply, answer, ended]
    rfl
  cut := by
    intro depth store ended
    rw [of, outcome_apply, answer, ended]
    rfl

theorem same_answers (a b : Value) : Answers (same.of a b) fun _ => .ok (a.same b) :=
  answers_of (fun _ => rfl) (fun _ _ _ => .ok rfl) ⟨0, _, rfl⟩

theorem equal_answers (a b : Value) : Answers (equal.of a b) (Value.equal · a b) :=
  answers_of (fun _ => rfl) (Value.equal_lasting a b)
    ⟨_, Value.equal_total a b (Nat.lt_succ_self _)⟩

theorem equalNumber_answers (a b : Value) : Answers (equalNumber.of a b) (Value.alike · a b) :=
  answers_of (fun _ => rfl) (Value.alike_lasting a b)
    ⟨_, Value.alike_total a b (Nat.lt_succ_self _)⟩

end Operation

end MiniLisp
