import MiniLisp.Proofs.Comparisons

namespace MiniLisp

open List (Forall₂)
open Real64 (Position)

namespace Value

variable {a b c x y : Value} {as bs : List Value} {depth : Nat} {p q : Position}

def Leads (depth : Nat) (strictly : Bool) (a b : Value) : Prop :=
  match strictly with
  | true => compare .less depth a b = .ok true
  | false => identical a b = true ∨ alike depth a b = .ok true

/-- One list of items comes before another one, or else they are alike item by item. -/
inductive LeadsAll (depth : Nat) : Bool → List Value → List Value → Prop
  | nil : LeadsAll depth false [] []
  | shorter {b : Value} {bs : List Value} : LeadsAll depth true [] (b :: bs)
  | differ {a b : Value} (as bs : List Value) (less : Leads depth true a b) :
      LeadsAll depth true (a :: as) (b :: bs)
  | later {strictly : Bool} {a b : Value} {as bs : List Value} (like : Leads depth false a b)
      (rest : LeadsAll depth strictly as bs) : LeadsAll depth strictly (a :: as) (b :: bs)

inductive LeadsBy (depth : Nat) (strictly : Bool) (a b : Value) : Prop
  | one (same : a = b) (like : strictly = false)
  | numbers {p q : Position} (place : a.realCoordinate? = some (some p))
      (place' : b.realCoordinate? = some (some q))
      (ordered : match strictly with
        | true => p.before q = true
        | false => p = q)
  | sequences {kind : SequenceKind} {as bs : List Value} (sequence : a.sequence? = some (kind, as))
      (sequence' : b.sequence? = some (kind, bs)) (all : LeadsAll depth strictly as bs)

section Transitivity

variable {objects : Objects} {strictly strictly' : Bool}

theorem itemsAlike_eq_true : itemsAlike depth a b = .ok true ↔ Leads depth false a b := by
  rw [itemsAlike, Leads]
  cases identical a b <;> simp

theorem leadsAll_false : LeadsAll depth false as bs ↔
    Forall₂ (fun x y => identical x y = true ∨ alike depth x y = .ok true) as bs := by
  constructor
  · intro all
    induction as generalizing bs with
    | nil =>
        cases all
        exact .nil
    | cons a as ih =>
        cases all with
        | later like rest => exact .cons like (ih rest)
  · intro each
    induction each with
    | nil => exact .nil
    | cons like _ ih => exact .later like ih

theorem leadsAll_of_no_difference (found : firstDifference? depth as bs = .ok none)
    (shorter : as.length < bs.length) : LeadsAll depth true as bs := by
  induction as generalizing bs with
  | nil =>
      cases bs with
      | nil => cases shorter
      | cons => exact .shorter
  | cons a as ih =>
      cases bs with
      | nil => cases shorter
      | cons b bs =>
          rw [firstDifference?_cons] at found
          obtain ⟨passed, tested, found⟩ := ok_of_bind found
          cases passed with
          | false => cases found
          | true =>
              exact .later (itemsAlike_eq_true.mp tested) (ih found (Nat.lt_of_succ_lt_succ shorter))

theorem leadsAll_of_difference (found : firstDifference? depth as bs = .ok (some (x, y)))
    (less : Leads depth true x y) : LeadsAll depth true as bs := by
  induction as generalizing bs with
  | nil => cases found
  | cons a as ih =>
      cases bs with
      | nil => cases found
      | cons b bs =>
          rw [firstDifference?_cons] at found
          obtain ⟨passed, tested, found⟩ := ok_of_bind found
          cases passed with
          | false =>
              cases found
              exact .differ as bs less
          | true => exact .later (itemsAlike_eq_true.mp tested) (ih found)

theorem itemsAlike_of_less (first : objects.holds a) (second : objects.holds b)
    (regular : a.Regular) (regular' : b.Regular) (less : Leads depth true a b) :
    itemsAlike depth a b = .ok false := by
  obtain ⟨order, ranked, swapped⟩ := exists_order regular regular' less
  have same : order = .lt := by
    have verdict := Except.ok.inj ((ranked.compares .less).symm.trans less)
    cases order <;> first | rfl | cases verdict
  subst same
  rw [itemsAlike]
  split
  · rename_i one
    obtain rfl := objects.unique first second one
    have contrary := (swapped.compares .less).symm.trans less
    cases contrary
  · exact ranked.likened

theorem difference_of_leadsAll (first : ∀ x ∈ as, objects.holds x ∧ x.Regular)
    (second : ∀ y ∈ bs, objects.holds y ∧ y.Regular) (all : LeadsAll depth true as bs) :
    (∃ x y, firstDifference? depth as bs = .ok (some (x, y)) ∧ Leads depth true x y) ∨
      firstDifference? depth as bs = .ok none ∧ as.length < bs.length := by
  induction as generalizing bs with
  | nil =>
      cases all
      exact .inr ⟨rfl, Nat.succ_pos _⟩
  | cons a as ih =>
      cases all with
      | @differ _ b _ bs less =>
          obtain ⟨held, regular⟩ := first a List.mem_cons_self
          obtain ⟨held', regular'⟩ := second b List.mem_cons_self
          have apart := itemsAlike_of_less held held' regular regular' less
          refine .inl ⟨a, b, ?_, less⟩
          rw [firstDifference?_cons, apart]
          rfl
      | @later _ _ b _ bs like rest =>
          have goes : firstDifference? depth (a :: as) (b :: bs) = firstDifference? depth as bs := by
            rw [firstDifference?_cons, itemsAlike_eq_true.mpr like]
            rfl
          rw [goes]
          refine (ih (fun x member => first x (List.mem_cons_of_mem a member))
            (fun y member => second y (List.mem_cons_of_mem b member)) rest).imp_right ?_
          exact And.imp_right Nat.succ_lt_succ

theorem leadsBy_of_leads (first : objects.holds a) (second : objects.holds b) (regular : a.Regular)
    (regular' : b.Regular) (leads : Leads (depth + 1) strictly a b) :
    LeadsBy depth strictly a b := by
  cases strictly with
  | false =>
      rcases leads with one | like
      · exact .one (objects.unique first second one) rfl
      · cases alike_eq_true.mp like with
        | numbers agree =>
            obtain ⟨p, q, place, place'⟩ := sameNumber?_eq_true.mp agree
            exact .numbers (regular.real_of_coordinates place)
              (regular'.real_of_coordinates place') rfl
        | sequences sequence sequence' each =>
            exact .sequences sequence sequence' (leadsAll_false.mpr each)
        | one _ _ one => exact .one (objects.unique first second one) rfl
  | true =>
      have less : compare .less (depth + 1) a b = .ok true := leads
      cases comparable_of_ok regular regular' less with
      | @numbers p q place place' =>
          rw [compare_of_positions .less depth place place', ← Position.onPositions_eq] at less
          exact .numbers place place' (Except.ok.inj less)
      | sequences sequence sequence' =>
          rw [compare_of_sequences .less depth sequence sequence'] at less
          obtain ⟨difference, found, less⟩ := ok_of_bind less
          refine .sequences sequence sequence' ?_
          cases difference with
          | none =>
              exact leadsAll_of_no_difference found (of_decide_eq_true (Except.ok.inj less))
          | some pair => exact leadsAll_of_difference found less

theorem leads_of_leadsBy (first : objects.holds a) (second : objects.holds b) (regular : a.Regular)
    (regular' : b.Regular) (why : LeadsBy depth strictly a b) : Leads (depth + 1) strictly a b := by
  cases why with
  | one same like =>
      subst same like
      exact .inl (identical_self a)
  | numbers place place' ordered =>
      cases strictly with
      | false =>
          refine .inr (alike_eq_true.mpr (.numbers (sameNumber?_eq_true.mpr ⟨_, _,
            coordinates?_of_real place, ?_⟩)))
          rw [coordinates?_of_real place', ordered]
      | true =>
          have less : compare .less (depth + 1) a b = _ :=
            compare_of_positions .less depth place place'
          rw [← Position.onPositions_eq] at less
          exact less.trans (congrArg Except.ok ordered)
  | sequences sequence sequence' all =>
      cases strictly with
      | false => exact .inr (alike_eq_true.mpr (.sequences sequence sequence' (leadsAll_false.mp all)))
      | true =>
          have items (x : Value) (member : x ∈ _) : objects.holds x ∧ x.Regular :=
            ⟨holds_item first sequence member, regular.of_mem sequence member⟩
          have items' (y : Value) (member : y ∈ _) : objects.holds y ∧ y.Regular :=
            ⟨holds_item second sequence' member, regular'.of_mem sequence' member⟩
          change compare .less (depth + 1) a b = .ok true
          rw [compare_of_sequences .less depth sequence sequence']
          rcases difference_of_leadsAll items items' all with ⟨x, y, found, less⟩ | ⟨found, shorter⟩
          · rw [found]
            exact less
          · rw [found]
            exact congrArg Except.ok (decide_eq_true shorter)

/-- Lists are passed item by item; the first place where either step is strict decides. -/
theorem leadsAll_trans {cs : List Value}
    (trans : ∀ x ∈ as, ∀ y ∈ bs, ∀ z ∈ cs, ∀ {strictly strictly'}, Leads depth strictly x y →
      Leads depth strictly' y z → Leads depth (strictly || strictly') x z)
    (all : LeadsAll depth strictly as bs) (all' : LeadsAll depth strictly' bs cs) :
    LeadsAll depth (strictly || strictly') as cs := by
  induction all generalizing cs strictly' with
  | nil => exact all'
  | shorter => cases all' <;> exact .shorter
  | differ as bs less =>
      cases all' with
      | differ _ cs less' => exact .differ _ _ (trans _ (by simp) _ (by simp) _ (by simp) less less')
      | later like _ => exact .differ _ _ (trans _ (by simp) _ (by simp) _ (by simp) less like)
  | @later strictly a b as bs like rest ih =>
      cases all' with
      | @differ _ c _ cs less' =>
          rw [Bool.or_true]
          exact .differ _ _ (trans a (by simp) b (by simp) c (by simp) like less')
      | @later _ _ c _ cs like' rest' =>
          refine .later (trans a (by simp) b (by simp) c (by simp) like like') (ih ?_ rest')
          intro x member y member' z member''
          exact trans x (List.mem_cons_of_mem a member) y (List.mem_cons_of_mem b member') z
            (List.mem_cons_of_mem c member'')

/-- By induction on the depth. The middle value is a number in both steps or a sequence in both. -/
theorem leads_trans (first : objects.holds a) (second : objects.holds b) (third : objects.holds c)
    (regular : a.Regular) (regular' : b.Regular) (regular'' : c.Regular)
    (leads : Leads depth strictly a b) (leads' : Leads depth strictly' b c) :
    Leads depth (strictly || strictly') a c := by
  induction depth generalizing a b c strictly strictly' with
  | zero =>
      cases strictly with
      | true => cases leads
      | false =>
          rcases leads with one | like
          · obtain rfl := objects.unique first second one
            exact leads'
          · cases like
  | succ depth ih =>
      refine leads_of_leadsBy first third regular regular'' ?_
      have why := leadsBy_of_leads first second regular regular' leads
      have why' := leadsBy_of_leads second third regular' regular'' leads'
      cases why with
      | one same like =>
          subst same like
          exact why'
      | numbers place placed ordered =>
          cases why' with
          | one same like =>
              subst same like
              rw [Bool.or_false]
              exact .numbers place placed ordered
          | numbers placed' place' ordered' =>
              cases placed.symm.trans placed'
              refine .numbers place place' ?_
              cases strictly <;> cases strictly'
              · exact ordered.trans ordered'
              · exact ordered ▸ ordered'
              · exact ordered' ▸ ordered
              · exact Position.before_trans ordered ordered'
          | sequences sequence _ _ =>
              cases placed.symm.trans (realCoordinate?_of_sequence sequence)
      | sequences sequence inner all =>
          cases why' with
          | one same like =>
              subst same like
              rw [Bool.or_false]
              exact .sequences sequence inner all
          | numbers placed _ _ => cases placed.symm.trans (realCoordinate?_of_sequence inner)
          | sequences inner' sequence' all' =>
              cases inner.symm.trans inner'
              refine .sequences sequence sequence' (leadsAll_trans ?_ all all')
              intro x member y member' z member'' _ _ leads leads'
              exact ih (holds_item first sequence member) (holds_item second inner member')
                (holds_item third sequence' member'') (regular.of_mem sequence member)
                (regular'.of_mem inner member') (regular''.of_mem sequence' member'') leads leads'

end Transitivity

end Value

def Gives (run : Action Value) (verdict : Bool) : Prop :=
  ∀ store, run.outcome store = (.ok (.bool verdict), store)

namespace Comparison

def operation : Comparison → Operation
  | less => .less
  | greater => .greater
  | lessEqual => .lessEqual
  | greaterEqual => .greaterEqual

theorem answer_operation (comparison : Comparison) (depth : Nat) (a b : Value) :
    comparison.operation.answer depth [a, b] = (Value.compare comparison depth a b).map .truth := by
  cases comparison <;> rfl

end Comparison

section Runs

variable {depth : Nat} {a b : Value} {verdict : Bool} {order : Ordering}

theorem gives_of_answer {operation : Operation} {compared : Except Failure Bool}
    (answer : operation.answer depth [a, b] = compared.map .truth) (ended : compared = .ok verdict) :
    Gives (operation.of a b (depth + 1)) verdict := by
  intro store
  rw [Operation.of, Operation.outcome_apply, answer, ended]
  rfl

theorem ended_of_ok {store : Store} {value : Value}
    (given : ((Operation.less.of a b depth).outcome store).1 = .ok value) :
    ∃ below verdict, depth = below + 1 ∧ value = .bool verdict ∧
      Value.compare .less below a b = .ok verdict := by
  cases depth with
  | zero => cases given
  | succ below =>
      have answer : Operation.less.answer below [a, b] = _ :=
        Comparison.answer_operation .less below a b
      rw [Operation.of, Operation.outcome_apply, answer] at given
      cases ended : Value.compare .less below a b with
      | error failure =>
          rw [ended] at given
          cases given
      | ok verdict =>
          rw [ended] at given
          cases given
          exact ⟨below, verdict, rfl, rfl, ended⟩

theorem gives_comparison (ranked : Value.Ranked depth a b order) (comparison : Comparison) :
    Gives (comparison.operation.of a b (depth + 1)) (comparison.holds order) :=
  gives_of_answer (comparison.answer_operation depth a b) (ranked.compares comparison)

theorem gives_equalNumber (ranked : Value.Ranked depth a b order) :
    Gives (Operation.equalNumber.of a b (depth + 1)) order.isEq :=
  gives_of_answer rfl ranked.likened

theorem leads_of_gives (given : Gives (Operation.less.of a b (depth + 1)) true) :
    Value.Leads depth true a b := by
  obtain ⟨below, verdict, same, answered, ended⟩ := ended_of_ok (congrArg Prod.fst (given .empty))
  cases same
  cases answered
  exact ended

end Runs

/-- Values with no NaN and no complex number in them, under any limit on depth: where one comparison
of two of them comes to a value, there is one ordering from which all comparisons of the two come,
in either order, and equality too. Among the objects of a run what is less than a lesser value is
less. -/
theorem comparisons_ordered {x y z : Value} (regular : x.Regular) (regular' : y.Regular)
    (regular'' : z.Regular) (depth : Nat) :
    (∀ store value, ((Operation.less.of x y depth).outcome store).1 = .ok value →
      ∃ order : Ordering, value = .bool order.isLT ∧
        Gives (Operation.less.of x y depth) order.isLT ∧
        Gives (Operation.equalNumber.of x y depth) order.isEq ∧
        Gives (Operation.greater.of x y depth) order.isGT ∧
        Gives (Operation.lessEqual.of x y depth) (!order.isGT) ∧
        Gives (Operation.greaterEqual.of x y depth) (!order.isLT) ∧
        Gives (Operation.less.of y x depth) order.isGT ∧
        Gives (Operation.greater.of y x depth) order.isLT) ∧
    ∀ objects : Objects, objects.holds x → objects.holds y → objects.holds z →
      Gives (Operation.less.of x y depth) true → Gives (Operation.less.of y z depth) true →
      Gives (Operation.less.of x z depth) true := by
  constructor
  · intro store value given
    obtain ⟨below, verdict, rfl, rfl, ended⟩ := ended_of_ok given
    obtain ⟨order, ranked, swapped⟩ := Value.exists_order regular regular' ended
    obtain rfl : verdict = order.isLT :=
      Except.ok.inj (ended.symm.trans (ranked.compares .less))
    have notGreater : order.isLE = !order.isGT := by cases order <;> rfl
    have notLess : order.isGE = !order.isLT := by cases order <;> rfl
    have back : order.swap.isLT = order.isGT := by cases order <;> rfl
    have forth : order.swap.isGT = order.isLT := by cases order <;> rfl
    refine ⟨order, rfl, gives_comparison ranked .less, gives_equalNumber ranked,
      gives_comparison ranked .greater, ?_, ?_, ?_, ?_⟩
    · rw [← notGreater]
      exact gives_comparison ranked .lessEqual
    · rw [← notLess]
      exact gives_comparison ranked .greaterEqual
    · rw [← back]
      exact gives_comparison swapped .less
    · rw [← forth]
      exact gives_comparison swapped .greater
  · intro objects first second third less less'
    cases depth with
    | zero => cases less .empty
    | succ depth =>
        have both := Value.leads_trans first second third regular regular' regular''
          (leads_of_gives less) (leads_of_gives less')
        exact gives_of_answer (Comparison.answer_operation .less depth x z) both

def rising : List (Nat × String) := [(9, "(quote ((1 2) (1.0 2 0) (1 2.5)))")]

def twoAndHalf : Value := .real (.ofQuotient false 25 10)

theorem rising_occur :
    ∀ v ∈ [Value.list 2 [.int 1, .int 2], .list 3 [realOne, .int 2, .int 0],
      .list 4 [.int 1, twoAndHalf]], Occurs rising v := by
  have read : parse 9 "(quote ((1 2) (1.0 2 0) (1 2.5)))" = .ok (.list [.symbol "quote", .list
      [.list [.int 1, .int 2], .list [.real (.ofQuotient false 1 1), .int 2, .int 0],
        .list [.int 1, .real (.ofQuotient false 25 10)]]]) := by
    with_unfolding_all rfl
  have made : (Session.start.evaluate 9 "(quote ((1 2) (1.0 2 0) (1 2.5)))").1 =
      .ok (.list 5 [.list 2 [.int 1, .int 2], .list 3 [realOne, .int 2, .int 0],
        .list 4 [.int 1, twoAndHalf]]) := by
    rw [Session.start.evaluate_read read]
    dsimp only [Expr.toValue, Expr.toValues]
    rw [evaluate]
    rfl
  have given : .ok (.list 5 [.list 2 [.int 1, .int 2], .list 3 [realOne, .int 2, .int 0],
      .list 4 [.int 1, twoAndHalf]]) ∈ (Session.start.evaluateAll rising).1 := by
    rw [rising, Session.evaluateAll]
    exact List.mem_cons.mpr (.inl made.symm)
  exact fun v member => .result given (.list member .here)

theorem rising_ordered :
    let x := Value.list 2 [.int 1, .int 2]
    let y := Value.list 3 [realOne, .int 2, .int 0]
    let z := Value.list 4 [.int 1, twoAndHalf]
    x.Regular ∧ y.Regular ∧ z.Regular ∧ Occurs rising x ∧ Occurs rising y ∧ Occurs rising z ∧
      Gives (Operation.less.of x z 9) true ∧ Gives (Operation.equalNumber.of x y 9) false ∧
      Gives (Operation.greater.of y x 9) true := by
  intro x y z
  obtain ⟨occursX, occursY, occursZ⟩ : Occurs rising x ∧ Occurs rising y ∧ Occurs rising z :=
    ⟨rising_occur x (by simp [x]), rising_occur y (by simp [y]), rising_occur z (by simp [z])⟩
  obtain ⟨objects, held⟩ := occurs_held rising
  have heldX := held x occursX
  have heldY := held y occursY
  have heldZ := held z occursZ
  have integer (n : Int) : (Value.int n).Regular := .of_position rfl
  have one : realOne.Regular := .of_position rfl
  have half : twoAndHalf.Regular := .of_position rfl
  have regularX : x.Regular := .list _ (by simp [integer])
  have regularY : y.Regular := .list _ (by simp [integer, one])
  have regularZ : z.Regular := .list _ (by simp [integer, half])
  have ones : Value.Leads 7 false (.int 1) realOne :=
    .inr (Value.alike_eq_true.mpr (.numbers (by decide +kernel)))
  have ones' : Value.Leads 7 false realOne (.int 1) :=
    .inr (Value.alike_eq_true.mpr (.numbers (by decide +kernel)))
  have twos : Value.Leads 7 true (.int 2) twoAndHalf :=
    Value.leads_of_leadsBy (objects.plain rfl) (objects.plain rfl) (integer 2) half
      (.numbers rfl rfl (by decide +kernel))
  have less : Value.Leads 8 true x y :=
    Value.leads_of_leadsBy heldX heldY regularX regularY
      (.sequences rfl rfl (.later ones (.later (.inl rfl) .shorter)))
  have less' : Value.Leads 8 true y z :=
    Value.leads_of_leadsBy heldY heldZ regularY regularZ
      (.sequences rfl rfl (.later ones' (.differ _ _ twos)))
  have answer := Comparison.answer_operation .less 8
  have given : Gives (Operation.less.of x y 9) true := gives_of_answer (answer x y) less
  obtain ⟨verdicts, trans⟩ := comparisons_ordered regularX regularY regularZ 9
  obtain ⟨order, same, -, equal, -, -, -, -, greater⟩ :=
    verdicts .empty (.bool true) (congrArg Prod.fst (given .empty))
  obtain rfl : order = .lt := by cases order <;> first | rfl | cases same
  exact ⟨regularX, regularY, regularZ, occursX, occursY, occursZ,
    trans objects heldX heldY heldZ given (gives_of_answer (answer y z) less'), equal, greater⟩

end MiniLisp
