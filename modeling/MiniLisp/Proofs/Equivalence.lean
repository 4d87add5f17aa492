import MiniLisp.Proofs.Equalities

namespace MiniLisp

open List (Forall₂)

theorem forall₂_trans_mem {α β γ : Type} {R : α → β → Prop} {S : β → γ → Prop} {T : α → γ → Prop}
    {xs : List α} {ys : List β} {zs : List γ} (left : Forall₂ R xs ys) (right : Forall₂ S ys zs)
    (trans : ∀ x ∈ xs, ∀ y ∈ ys, ∀ z ∈ zs, R x y → S y z → T x z) : Forall₂ T xs zs := by
  induction left generalizing zs with
  | nil =>
      cases right
      exact .nil
  | cons first _ ih =>
      cases right with
      | cons first' right =>
          refine .cons ?_ (ih right fun x member y member' z member'' => ?_)
          · exact trans _ List.mem_cons_self _ List.mem_cons_self _ List.mem_cons_self first first'
          · exact trans x (List.mem_cons_of_mem _ member) y (List.mem_cons_of_mem _ member') z
              (List.mem_cons_of_mem _ member'')

namespace Value

variable {objects : Objects} {a b c : Value} {depth : Nat}

theorem sameNumber?_symm (agree : sameNumber? a b = some true) : sameNumber? b a = some true := by
  obtain ⟨x, y, place, place'⟩ := sameNumber?_eq_true.mp agree
  exact sameNumber?_eq_true.mpr ⟨x, y, place', place⟩

theorem sameNumber?_trans (agree : sameNumber? a b = some true)
    (agree' : sameNumber? b c = some true) : sameNumber? a c = some true := by
  obtain ⟨x, y, first, second⟩ := sameNumber?_eq_true.mp agree
  obtain ⟨x', y', second', third⟩ := sameNumber?_eq_true.mp agree'
  cases second.symm.trans second'
  exact sameNumber?_eq_true.mpr ⟨x, y, first, third⟩

theorem holds_item {kind : SequenceKind} {items : List Value} {item : Value}
    (held : objects.holds a) (sequence : a.sequence? = some (kind, items))
    (member : item ∈ items) : objects.holds item := by
  refine objects.parts held (within_of_mem_items ?_)
  cases a <;> cases sequence <;> exact member

/-- By induction on the depth. Items that are one object are one value, as they are all among the
objects of a run. -/
theorem alike_symm (first : objects.holds a) (second : objects.holds b)
    (like : alike depth a b = .ok true) : alike depth b a = .ok true := by
  induction depth generalizing a b with
  | zero => cases like
  | succ depth ih =>
      cases alike_eq_true.mp like with
      | numbers agree => exact alike_eq_true.mpr (.numbers (sameNumber?_symm agree))
      | sequences sequence sequence' each =>
          refine alike_eq_true.mpr (.sequences sequence' sequence (List.Forall₂.flip ?_))
          refine forall₂_imp_mem each fun x member y member' passed => ?_
          have held := holds_item first sequence member
          have held' := holds_item second sequence' member'
          rcases passed with one | like
          · obtain rfl := objects.unique held held' one
            exact .inl one
          · exact .inr (ih held held' like)
      | one _ _ one =>
          obtain rfl := objects.unique first second one
          exact like

/-- Whichever of the two comparisons ends at identity, its values are one and the other comparison
is left. Otherwise the middle value is a number in both or a sequence in both. -/
theorem alike_trans (first : objects.holds a) (second : objects.holds b) (third : objects.holds c)
    (like : alike depth a b = .ok true) (like' : alike depth b c = .ok true) :
    alike depth a c = .ok true := by
  induction depth generalizing a b c with
  | zero => cases like
  | succ depth ih =>
      have why := alike_eq_true.mp like
      cases alike_eq_true.mp like' with
      | one _ _ one =>
          obtain rfl := objects.unique second third one
          exact like
      | numbers agree' =>
          cases why with
          | one _ _ one =>
              obtain rfl := objects.unique first second one
              exact like'
          | numbers agree => exact alike_eq_true.mpr (.numbers (sameNumber?_trans agree agree'))
          | sequences _ sequence _ =>
              rw [sameNumber?_of_apart (coordinates?_of_sequence sequence)] at agree'
              cases agree'
      | sequences sequence outer each' =>
          cases why with
          | one _ _ one =>
              obtain rfl := objects.unique first second one
              exact like'
          | numbers agree =>
              obtain ⟨_, _, -, placed⟩ := sameNumber?_eq_true.mp agree
              cases placed.symm.trans (coordinates?_of_sequence sequence)
          | sequences inner sequence' each =>
              cases sequence.symm.trans sequence'
              refine alike_eq_true.mpr (.sequences inner outer (forall₂_trans_mem each each' ?_))
              intro x member y member' z member'' passed passed'
              have held := holds_item first inner member
              have held' := holds_item second sequence member'
              have held'' := holds_item third outer member''
              rcases passed with one | like
              · obtain rfl := objects.unique held held' one
                exact passed'
              · rcases passed' with one | like'
                · obtain rfl := objects.unique held' held'' one
                  exact .inr like
                · exact .inr (ih held held' held'' like like')

theorem equal_self (depth : Nat) (a : Value) : equal (depth + 1) a a = .ok true :=
  equal_eq_true.mpr (.one (identical_self a))

theorem equal_symm (first : objects.holds a) (second : objects.holds b)
    (same : equal depth a b = .ok true) : equal depth b a = .ok true := by
  induction depth generalizing a b with
  | zero => cases same
  | succ depth ih =>
      cases equal_eq_true.mp same with
      | one one =>
          obtain rfl := objects.unique first second one
          exact same
      | lists each =>
          refine equal_eq_true.mpr (.lists (List.Forall₂.flip ?_))
          refine forall₂_imp_mem each fun x member y member' same => ?_
          exact ih (objects.parts first (.list member .here))
            (objects.parts second (.list member' .here)) same
      | numbers number number' agree =>
          exact equal_eq_true.mpr (.numbers number' number (sameNumber?_symm agree))
      | others apart single type like =>
          rw [isNumber_of_type type] at apart
          rw [isList_of_type type] at single
          exact equal_eq_true.mpr (.others apart single type.symm (alike_symm first second like))

/-- The kind of the middle value decides by which case both comparisons have come out true. -/
theorem equal_trans (first : objects.holds a) (second : objects.holds b) (third : objects.holds c)
    (same : equal depth a b = .ok true) (same' : equal depth b c = .ok true) :
    equal depth a c = .ok true := by
  induction depth generalizing a b c with
  | zero => cases same
  | succ depth ih =>
      have why := equal_eq_true.mp same'
      cases equal_eq_true.mp same with
      | one one =>
          obtain rfl := objects.unique first second one
          exact same'
      | lists each =>
          cases why with
          | one one =>
              obtain rfl := objects.unique second third one
              exact same
          | lists each' =>
              refine equal_eq_true.mpr (.lists (forall₂_trans_mem each each' ?_))
              intro x member y member' z member'' same same'
              exact ih (objects.parts first (.list member .here))
                (objects.parts second (.list member' .here))
                (objects.parts third (.list member'' .here)) same same'
          | numbers number => cases number
          | others _ single => cases single
      | numbers number number' agree =>
          cases why with
          | one one =>
              obtain rfl := objects.unique second third one
              exact same
          | lists => cases number'
          | numbers _ last agree' =>
              exact equal_eq_true.mpr (.numbers number last (sameNumber?_trans agree agree'))
          | others apart => cases number'.symm.trans apart
      | others apart single type like =>
          cases why with
          | one one =>
              obtain rfl := objects.unique second third one
              exact same
          | lists => cases (isList_of_type type).symm.trans single
          | numbers number => cases number.symm.trans ((isNumber_of_type type).symm.trans apart)
          | others _ _ type' like' =>
              exact equal_eq_true.mpr (.others apart single (type.trans type')
                (alike_trans first second third like like'))

theorem equal_renumbered {id id' other other' : ObjectId} (apart : id ≠ id')
    (apart' : other ≠ other') (as bs : List Value) :
    equal depth (list id as) (list id' bs) = equal depth (list other as) (list other' bs) := by
  cases depth with
  | zero => rfl
  | succ depth => rw [equal_of_lists, equal_of_lists, if_neg apart, if_neg apart']

theorem equal_cons {id id' other other' : ObjectId} {xs ys : List Value} (apart : other ≠ other')
    (first : objects.holds (list id xs)) (second : objects.holds (list id' ys)) :
    (∃ depth, equal depth (list other (a :: xs)) (list other' (b :: ys)) = .ok true) ↔
      (∃ depth, equal depth a b = .ok true) ∧
        ∃ depth, equal depth (list id xs) (list id' ys) = .ok true := by
  constructor
  · rintro ⟨depth, same⟩
    cases depth with
    | zero => cases same
    | succ depth =>
        rw [equal_of_lists, if_neg apart] at same
        split at same
        · obtain ⟨head, rest⟩ := List.forall₂_cons.mp (pairwise_eq_true.mp same)
          exact ⟨⟨depth, head⟩, depth + 1, equal_eq_true.mpr (.lists rest)⟩
        · cases same
  · rintro ⟨⟨depth, head⟩, depth', rest⟩
    replace head := equal_of_le (Nat.le_max_left depth depth') head
    cases depth' with
    | zero => cases rest
    | succ depth' =>
        refine ⟨max depth (depth' + 1) + 1, equal_eq_true.mpr (.lists (.cons head ?_))⟩
        cases equal_eq_true.mp rest with
        | one one =>
            cases objects.unique first second one
            rw [List.forall₂_same]
            exact fun x _ => equal_of_le (Nat.le_max_right _ _) (equal_self depth' x)
        | lists each =>
            refine each.imp fun x y same => equal_of_le ?_ same
            exact Nat.le_trans (Nat.le_succ depth') (Nat.le_max_right _ _)
        | numbers number => cases number
        | others _ single => cases single

end Value

def equalConses (a x b y : Value) (depth : Nat) : Action Value := do
  let p ← Operation.cons.of a x depth
  let q ← Operation.cons.of b y depth
  Operation.equal.of p q depth

theorem outcome_cons (a : Value) (id : ObjectId) (items : List Value) (depth : Nat)
    (store : Store) :
    (Operation.cons.of a (.list id items) (depth + 1)).outcome store =
      (.ok (.list store.nextId (a :: items)), { store with nextId := store.nextId + 1 }) := by
  rw [Operation.of, Operation.outcome_apply]
  rfl

theorem outcome_equalConses (a b : Value) (id id' : ObjectId) (xs ys : List Value) (depth : Nat)
    (store : Store) :
    (equalConses a (.list id xs) b (.list id' ys) (depth + 1)).outcome store =
      (Operation.equal.of (.list store.nextId (a :: xs)) (.list (store.nextId + 1) (b :: ys))
        (depth + 1)).outcome { store with nextId := store.nextId + 2 } := by
  rw [equalConses, Action.outcome_bind, outcome_cons]
  dsimp only
  rw [Action.outcome_bind, outcome_cons]

theorem equalConses_answers (a b : Value) (id id' : ObjectId) (xs ys : List Value) :
    Answers (equalConses a (.list id xs) b (.list id' ys))
      (Value.equal · (.list 0 (a :: xs)) (.list 1 (b :: ys))) where
  lasting := Value.equal_lasting _ _
  total := ⟨_, Value.equal_total _ _ (Nat.lt_succ_self _)⟩
  none := fun _ => rfl
  given := by
    intro depth store verdict ended
    rw [outcome_equalConses]
    refine (Operation.equal_answers _ _).given depth _ verdict ?_
    rw [← ended]
    exact Value.equal_renumbered (Nat.ne_of_lt (Nat.lt_succ_self _)) Nat.zero_ne_one _ _
  cut := by
    intro depth store cut
    rw [outcome_equalConses]
    refine (Operation.equal_answers _ _).cut depth _ ?_
    rw [← cut]
    exact Value.equal_renumbered (Nat.ne_of_lt (Nat.lt_succ_self _)) Nat.zero_ne_one _ _

theorem decides_equal_symm {objects : Objects} {a b : Value} (first : objects.holds a)
    (second : objects.holds b) (decided : Decides (Operation.equal.of a b) true) :
    Decides (Operation.equal.of b a) true := by
  obtain ⟨depth, same⟩ := (Operation.equal_answers a b).decides_iff.mp decided
  exact (Operation.equal_answers b a).decides (Value.equal_symm first second same)

/-- Whatever lines are given to a session: on the values that occur then, equality always has a
verdict and is reflexive, symmetric and transitive; and lists that are put together are equal if and
only if their parts are. -/
theorem equal_equivalence (lines : List (Nat × String)) {a b c : Value} (first : Occurs lines a)
    (second : Occurs lines b) (third : Occurs lines c) :
    (∃ verdict, Decides (Operation.equal.of a b) verdict) ∧
    Decides (Operation.equal.of a a) true ∧
    (∀ verdict, Decides (Operation.equal.of a b) verdict →
      Decides (Operation.equal.of b a) verdict) ∧
    (Decides (Operation.equal.of a b) true → Decides (Operation.equal.of b c) true →
      Decides (Operation.equal.of a c) true) ∧
    ∀ x y, Occurs lines x → Occurs lines y → x.isList = true → y.isList = true →
      (∃ verdict, Decides (equalConses a x b y) verdict) ∧
      (Decides (equalConses a x b y) true ↔
        Decides (Operation.equal.of a b) true ∧ Decides (Operation.equal.of x y) true) := by
  obtain ⟨objects, held⟩ := occurs_held lines
  have heldA := held a first
  have heldB := held b second
  have heldC := held c third
  have answers := Operation.equal_answers
  refine ⟨(answers a b).exists_verdict, (answers a a).decides (Value.equal_self 0 a), ?_, ?_, ?_⟩
  · intro verdict decided
    obtain ⟨verdict', decided'⟩ := (answers b a).exists_verdict
    have same : verdict = verdict' := by
      rw [Bool.eq_iff_iff]
      constructor
      · rintro rfl
        exact (decides_equal_symm heldA heldB decided).unique decided' |>.symm
      · rintro rfl
        exact decided.unique (decides_equal_symm heldB heldA decided')
    exact same ▸ decided'
  · intro decided decided'
    obtain ⟨depth, same⟩ := (answers a b).decides_iff.mp decided
    obtain ⟨depth', same'⟩ := (answers b c).decides_iff.mp decided'
    exact (answers a c).decides (Value.equal_trans heldA heldB heldC
      (Value.equal_of_le (Nat.le_max_left depth depth') same)
      (Value.equal_of_le (Nat.le_max_right depth depth') same'))
  · intro x y occurs occurs' listed listed'
    have heldX := held x occurs
    have heldY := held y occurs'
    cases x <;> cases listed
    cases y <;> cases listed'
    have conses := equalConses_answers a b
    refine ⟨(conses _ _ _ _).exists_verdict, ?_⟩
    rw [(conses _ _ _ _).decides_iff, (answers a b).decides_iff, (answers _ _).decides_iff]
    exact Value.equal_cons Nat.zero_ne_one heldX heldY

theorem threeOnes_equivalent :
    Occurs threeOnes (.list 2 [.int 1]) ∧ Occurs threeOnes (.list 3 [realOne]) ∧
      Occurs threeOnes (.list 4 [.int 1]) ∧
      Decides (Operation.equal.of (.list 2 [.int 1]) (.list 4 [.int 1])) true ∧
      Decides (equalConses (.list 2 [.int 1]) (.list 2 [.int 1]) (.list 3 [realOne])
        (.list 3 [realOne])) true := by
  have first := threeOnes_occur (.list 2 [.int 1]) (by simp)
  have second := threeOnes_occur (.list 3 [realOne]) (by simp)
  have third := threeOnes_occur (.list 4 [.int 1]) (by simp)
  have agree : Value.sameNumber? (.int 1) realOne = some true := by decide +kernel
  have items : Value.equal 1 (.int 1) realOne = .ok true :=
    Value.equal_eq_true.mpr (.numbers rfl rfl agree)
  have lists : Value.equal 2 (.list 2 [.int 1]) (.list 3 [realOne]) = .ok true :=
    Value.equal_eq_true.mpr (.lists (.cons items .nil))
  have back : Value.equal 2 (.list 3 [realOne]) (.list 4 [.int 1]) = .ok true := by
    refine Value.equal_eq_true.mpr (.lists (.cons ?_ .nil))
    exact Value.equal_eq_true.mpr (.numbers rfl rfl (Value.sameNumber?_symm agree))
  have decided := (Operation.equal_answers _ _).decides lists
  obtain ⟨-, -, -, trans, conses⟩ := equal_equivalence threeOnes first second third
  refine ⟨first, second, third, trans decided ((Operation.equal_answers _ _).decides back), ?_⟩
  exact (conses _ _ first second rfl rfl).2.mpr ⟨decided, decided⟩

end MiniLisp
