import MiniLisp.Evaluator
import MiniLisp.Proofs.Outcome

namespace MiniLisp

/-- Failures of computations on values, whose rejections no application has reported yet. -/
def Failure.isRaw : Failure → Bool
  | depthExceeded | memoryExhausted | unreported _ => true
  | _ => false

def FailsRaw {α : Type} (result : Except Failure α) : Prop :=
  ∀ failure, result = .error failure → failure.isRaw = true

namespace FailsRaw

variable {α β : Type} {result : Except Failure α}

theorem ok (x : α) : FailsRaw (.ok x) := nofun

theorem error {failure : Failure} (raw : failure.isRaw = true) :
    FailsRaw (.error failure : Except Failure α) := by
  rintro _ ⟨⟩
  exact raw

theorem bind {next : α → Except Failure β} (first : FailsRaw result)
    (second : ∀ x, FailsRaw (next x)) : FailsRaw (result >>= next) := by
  intro failure failed
  rcases error_of_bind failed with failed | ⟨x, -, failed⟩
  · exact first failure failed
  · exact second x failure failed

theorem map (f : α → β) (raw : FailsRaw result) : FailsRaw (result.map f) :=
  fun failure failed => raw failure (error_of_map failed)

theorem mapM {f : α → Except Failure β} (each : ∀ x, FailsRaw (f x)) (items : List α) :
    FailsRaw (items.mapM f) := by
  induction items with
  | nil => exact .ok []
  | cons item items ih =>
      rw [List.mapM_cons]
      exact (each item).bind fun y => ih.bind fun ys => .ok (y :: ys)

theorem foldlM {step : β → α → Except Failure β} (each : ∀ y x, FailsRaw (step y x))
    (items : List α) (start : β) : FailsRaw (items.foldlM step start) := by
  induction items generalizing start with
  | nil => exact .ok start
  | cons item items ih =>
      rw [List.foldlM_cons]
      exact (each start item).bind fun y => ih y

theorem reason (result : Except Rejection α) : FailsRaw (result.mapError .unreported) := by
  cases result with
  | ok x => exact .ok x
  | error reason => exact .error rfl

end FailsRaw

namespace Value

variable (depth : Nat) (a b : Value)

theorem text_raw (style : TextStyle) : FailsRaw (a.text style depth) := by
  induction depth generalizing style a with
  | zero => exact .error rfl
  | succ depth ih =>
      cases a with
      | int n =>
          rw [text, intText]
          split
          · exact .ok _
          · exact .error rfl
      | list _ items => exact .map _ (.mapM (fun item => ih item style) items)
      | tuple _ items => exact .map _ (.mapM (fun item => ih item .detailed) items)
      | closure _ _ body _ => exact .map _ (ih body .plain)
      | _ => exact .ok _

theorem mention_raw : FailsRaw (a.mention depth) := by
  cases a with
  | symbol name => exact .ok name
  | _ => exact text_raw depth _ .detailed

theorem refuse_raw {α : Type} (sentence : String) :
    FailsRaw (refuse depth sentence a : Except Failure α) :=
  (text_raw depth a .plain).bind fun _ => .error rfl

theorem pairwise_raw {test : Value → Value → Except Failure Bool}
    (each : ∀ a b, FailsRaw (test a b)) (as bs : List Value) : FailsRaw (pairwise test as bs) := by
  induction as generalizing bs with
  | nil => cases bs <;> exact .ok _
  | cons a as ih =>
      cases bs with
      | nil => exact .ok false
      | cons b bs =>
          refine (each a b).bind fun passed => ?_
          split
          · exact ih bs
          · exact .ok false

theorem alike_raw : FailsRaw (alike depth a b) := by
  induction depth generalizing a b with
  | zero => exact .error rfl
  | succ depth ih =>
      unfold alike
      split
      · exact .ok _
      · split
        · split
          · refine pairwise_raw (fun a b => ?_) _ _
            split
            · exact .ok true
            · exact ih a b
          · exact .ok false
        · exact .ok _

theorem firstDifference?_raw (as bs : List Value) : FailsRaw (firstDifference? depth as bs) := by
  induction as generalizing bs with
  | nil => exact .ok none
  | cons a as ih =>
      cases bs with
      | nil => exact .ok none
      | cons b bs =>
          have tested : FailsRaw (if identical a b then .ok true else alike depth a b) := by
            split
            · exact .ok true
            · exact alike_raw depth a b
          refine tested.bind fun passed => ?_
          split
          · exact ih bs
          · exact .ok _

theorem compare_raw (comparison : Comparison) : FailsRaw (compare comparison depth a b) := by
  induction depth generalizing a b with
  | zero => exact .error rfl
  | succ depth ih =>
      unfold compare
      split
      · exact .ok _
      · split
        · split
          · refine (firstDifference?_raw depth _ _).bind fun found => ?_
            split
            · exact ih _ _
            · exact .ok _
          · exact .error rfl
        · exact .error rfl

theorem equal_raw : FailsRaw (equal depth a b) := by
  induction depth generalizing a b with
  | zero => exact .error rfl
  | succ depth ih =>
      unfold equal
      split
      · exact .ok true
      · split
        · split
          · exact pairwise_raw (fun a b => ih a b) _ _
          · exact .ok false
        · split
          · exact .ok _
          · split
            · exact alike_raw (depth + 1) a b
            · exact .ok false

theorem repeated_raw (sequence times : Value) (kind : SequenceKind) (items : List Value) :
    FailsRaw (repeated sequence times kind items) := by
  unfold repeated
  split
  · exact .error rfl
  · split
    · exact .error rfl
    · split
      · exact .error rfl
      · split
        · exact .ok _
        · split <;> exact .ok _

theorem multiply_raw : FailsRaw (multiply a b) := by
  unfold multiply
  split
  · exact repeated_raw _ _ _ _
  · exact repeated_raw _ _ _ _
  · exact .reason _

theorem append_raw : FailsRaw (append a b) := by
  unfold append
  split
  · exact .ok _
  · exact .error rfl

theorem car_raw : FailsRaw (car depth a) := by
  unfold car
  split
  · exact .error rfl
  · exact .ok _
  · exact refuse_raw depth a _

theorem cdr_raw : FailsRaw (cdr depth a) := by
  unfold cdr
  split
  · exact .ok _
  · exact refuse_raw depth a _

theorem cons_raw : FailsRaw (cons depth a b) := by
  unfold cons
  split
  · exact .ok _
  · exact refuse_raw depth b _

theorem length_raw : FailsRaw (length a) := by
  unfold length
  split
  · exact .ok _
  · exact .error rfl

end Value

theorem listArgument_raw (depth : Nat) (sentence : String) (value : Value) :
    FailsRaw (listArgument depth sentence value) := by
  unfold listArgument
  split
  · exact .ok _
  · exact Value.refuse_raw depth value sentence

theorem Operation.answer_raw (depth : Nat) (operation : Operation) (arguments : List Value) :
    FailsRaw (operation.answer depth arguments) := by
  -- The number of arguments comes first, as it does in the match that is to be reduced.
  rcases arguments with _ | ⟨x, _ | ⟨y, _ | ⟨z, rest⟩⟩⟩
  · cases operation with
    | begin | list => exact .ok _
    | _ => exact .error rfl
  · cases operation with
    | car => exact x.car_raw depth
    | cdr => exact x.cdr_raw depth
    | length => exact x.length_raw
    | begin | list | isList | negate | isNull | isNumber | isProcedure | isSymbol => exact .ok _
    | _ => exact .error rfl
  · cases operation with
    | add | subtract | divide | power => exact .reason _
    | multiply => exact x.multiply_raw y
    | greater => exact .map _ (x.compare_raw depth y .greater)
    | less => exact .map _ (x.compare_raw depth y .less)
    | greaterEqual => exact .map _ (x.compare_raw depth y .greaterEqual)
    | lessEqual => exact .map _ (x.compare_raw depth y .lessEqual)
    | equalNumber => exact .map _ (x.alike_raw depth y)
    | append => exact x.append_raw y
    | cons => exact x.cons_raw depth y
    | equal => exact .map _ (x.equal_raw depth y)
    | begin | same | list => exact .ok _
    | _ => exact .error rfl
  · cases operation with
    | begin | list => exact .ok _
    | _ => exact .error rfl

namespace Library

theorem extremum_raw (comparison : Comparison) (depth : Nat) (values : List Value) :
    FailsRaw (extremum comparison depth values) := by
  cases values with
  | nil => exact .error rfl
  | cons first rest =>
      exact .map _ (.foldlM (fun best value =>
        (Value.compare_raw depth value best comparison).bind fun _ => .ok _) rest first)

theorem extremumOf_raw (comparison : Comparison) (depth : Nat) (values : List Value) :
    FailsRaw (extremumOf comparison depth values) := by
  unfold extremumOf
  split
  · exact .error rfl
  · split
    · exact extremum_raw comparison depth _
    · exact .error rfl
  · exact extremum_raw comparison depth _

theorem product_raw (values : List Value) : FailsRaw (product values) := by
  unfold product
  split
  · split
    · refine .foldlM (fun product factor => ?_) _ _
      refine (Value.multiply_raw _ factor).bind fun answer => ?_
      split <;> exact .ok _
    · exact .error rfl
  · exact .error rfl

end Library

theorem LibraryFunction.answer_raw (depth : Nat) (f : LibraryFunction) (arguments : List Value) :
    FailsRaw (f.answer depth arguments) := by
  have unexplained {result : Except Failure Answer} (raw : FailsRaw result) :
      FailsRaw (result.mapError unexplained) := by
    cases result with
    | ok x => exact .ok x
    | error failure =>
        refine .error ?_
        have isRaw := raw failure rfl
        cases failure <;> first | rfl | cases isRaw
  unfold answer
  split
  · exact unexplained (Library.extremumOf_raw .greater depth arguments)
  · exact unexplained (Library.extremumOf_raw .less depth arguments)
  · exact unexplained (Library.product_raw arguments)
  · exact unexplained (.reason _)

end MiniLisp
