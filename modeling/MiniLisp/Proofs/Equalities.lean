import MiniLisp.Proofs.Objects
import MiniLisp.Proofs.Verdicts

namespace MiniLisp

open List (Forall₂)

theorem forall₂_imp_mem {α β : Type} {R S : α → β → Prop} {xs : List α} {ys : List β}
    (each : Forall₂ R xs ys) (imp : ∀ x ∈ xs, ∀ y ∈ ys, R x y → S x y) : Forall₂ S xs ys := by
  rw [List.forall₂_iff_zip] at each ⊢
  refine ⟨each.1, fun paired => ?_⟩
  obtain ⟨member, member'⟩ := List.of_mem_zip paired
  exact imp _ member _ member' (each.2 paired)

namespace Value

variable {a b c : Value} {depth : Nat}

inductive AlikeBy (depth : Nat) (a b : Value) : Prop
  | numbers (agree : sameNumber? a b = some true)
  | sequences {kind : SequenceKind} {as bs : List Value} (first : a.sequence? = some (kind, as))
      (second : b.sequence? = some (kind, bs))
      (each : Forall₂ (fun x y => identical x y = true ∨ alike depth x y = .ok true) as bs)
  | one (apart : a.coordinates? = none) (single : a.sequence? = none)
      (same : identical a b = true)

inductive EqualBy (depth : Nat) : Value → Value → Prop
  | one {a b : Value} (same : identical a b = true) : EqualBy depth a b
  | lists {id id' : ObjectId} {as bs : List Value}
      (each : Forall₂ (fun x y => equal depth x y = .ok true) as bs) :
      EqualBy depth (.list id as) (.list id' bs)
  | numbers {a b : Value} (number : a.isNumber = true) (number' : b.isNumber = true)
      (agree : sameNumber? a b = some true) : EqualBy depth a b
  | others {a b : Value} (apart : a.isNumber = false) (single : a.isList = false)
      (type : a.typeName = b.typeName) (like : alike (depth + 1) a b = .ok true) :
      EqualBy depth a b

theorem sameNumber?_of_apart (apart : a.coordinates? = none) : sameNumber? a b = none := by
  rw [sameNumber?, apart]

theorem coordinates?_of_sequence {kind : SequenceKind} {items : List Value}
    (sequence : a.sequence? = some (kind, items)) : a.coordinates? = none := by
  cases a <;> first | rfl | cases sequence

theorem apart_of_identical (same : identical a b = true) (unlike : sameNumber? a b = none) :
    a.coordinates? = none := by
  cases a <;> cases b <;> first | rfl | cases same | cases unlike

theorem single_of_identical (same : identical a b = true)
    (unlike : ∀ kind as kind' bs, a.sequence? = some (kind, as) →
      b.sequence? = some (kind', bs) → False) : a.sequence? = none := by
  cases a <;> cases b <;> first | rfl | cases same | exact (unlike _ _ _ _ rfl rfl).elim

theorem sameNumber?_eq_true : sameNumber? a b = some true ↔
    ∃ x y, a.coordinates? = some (some x, some y) ∧ b.coordinates? = some (some x, some y) := by
  unfold sameNumber?
  rcases a.coordinates? with _ | ⟨_ | x, _ | y⟩ <;>
    rcases b.coordinates? with _ | ⟨_ | x', _ | y'⟩ <;> simp [Coordinate.agrees]

theorem alike_eq_true : alike (depth + 1) a b = .ok true ↔ AlikeBy depth a b := by
  constructor
  · intro like
    rw [alike] at like
    split at like
    · rename_i agreed numbers
      cases like
      exact .numbers numbers
    · rename_i unlike
      split at like
      · rename_i first second
        split at like
        · rename_i shape
          rw [pairwise_eq_true] at like
          refine .sequences first (shape.1 ▸ second) (like.imp fun x y passed => ?_)
          split at passed
          · exact .inl ‹_›
          · exact .inr passed
        · cases like
      · rename_i unshaped
        have same : identical a b = true := Except.ok.inj like
        exact .one (apart_of_identical same unlike) (single_of_identical same unshaped) same
  · intro why
    rw [alike]
    cases why with
    | numbers agree => rw [agree]
    | sequences first second each =>
        rw [sameNumber?_of_apart (coordinates?_of_sequence first), first, second]
        dsimp only
        rw [if_pos ⟨rfl, each.length_eq⟩, pairwise_eq_true]
        refine each.imp fun x y passed => ?_
        split
        · rfl
        · exact passed.resolve_left ‹_›
    | one apart single same =>
        rw [sameNumber?_of_apart apart, single, same]

theorem isList_of_type (type : a.typeName = b.typeName) : a.isList = b.isList := by
  have told (v : Value) : v.isList = decide (v.typeName = "list") := by
    cases v with
    | primitive p => cases p <;> rfl
    | _ => rfl
  rw [told, told, type]

theorem isNumber_of_type (type : a.typeName = b.typeName) : a.isNumber = b.isNumber := by
  have told (v : Value) : v.isNumber = decide (v.typeName ∈ ["int", "float", "complex"]) := by
    cases v with
    | primitive p => cases p <;> rfl
    | _ => rfl
  rw [told, told, type]

theorem equal_of_single (single : a.isList = false) : equal (depth + 1) a b =
    if identical a b then .ok true
    else if a.isNumber && b.isNumber then .ok ((sameNumber? a b).getD false)
    else if a.typeName = b.typeName then alike (depth + 1) a b else .ok false := by
  cases a <;> first | rfl | cases single

theorem equal_of_lists (id id' : ObjectId) (as bs : List Value) :
    equal (depth + 1) (list id as) (list id' bs) = if id = id' then .ok true
      else if as.length = bs.length then pairwise (equal depth) as bs else .ok false := by
  unfold equal
  simp [identical]

theorem isList_of_isNumber (number : a.isNumber = true) : a.isList = false := by
  cases a <;> first | rfl | cases number

theorem equal_eq_true : equal (depth + 1) a b = .ok true ↔ EqualBy depth a b := by
  constructor
  · intro same
    unfold equal at same
    split at same
    · exact .one ‹_›
    · split at same
      · split at same
        · exact .lists (pairwise_eq_true.mp same)
        · cases same
      · rename_i unlisted
        split at same
        · rename_i numbers
          rw [Bool.and_eq_true] at numbers
          have agreed := Option.getD_eq_iff.mp (Except.ok.inj same)
          exact .numbers numbers.1 numbers.2 (by simpa using agreed)
        · rename_i notNumbers
          split at same
          · rename_i type
            have apart : a.isNumber = false := by
              simpa [← isNumber_of_type type] using notNumbers
            have single : a.isList = false := by
              rw [← Bool.not_eq_true]
              intro listed
              have listed' := (isList_of_type type).symm.trans listed
              cases a <;> cases listed
              cases b <;> cases listed'
              exact unlisted _ _ _ _ rfl rfl
            exact .others apart single type same
          · cases same
  · intro why
    cases why with
    | one same =>
        unfold equal
        rw [if_pos same]
    | lists each =>
        rw [equal_of_lists]
        split
        · rfl
        · rw [if_pos each.length_eq, pairwise_eq_true]
          exact each
    | numbers number number' agree =>
        rw [equal_of_single (isList_of_isNumber number), number, number', agree]
        simp
    | others apart single type like =>
        rw [equal_of_single single, apart, if_pos type, like]
        simp

inductive Contains (part : Value) : Value → Prop
  | here : Contains part part
  | item {whole item : Value} (member : item ∈ whole.items) (deeper : Contains part item) :
      Contains part whole

/-- Neither a truth value nor a sequence with one in it. -/
def WithoutTruth (v : Value) : Prop := ∀ truth, ¬ Contains (.bool truth) v

theorem WithoutTruth.item {item : Value} (clean : a.WithoutTruth) (member : item ∈ a.items) :
    item.WithoutTruth :=
  fun truth deeper => clean truth (.item member deeper)

theorem WithoutTruth.number (number : a.isNumber = true) : a.WithoutTruth := by
  rintro truth (_ | ⟨member, -⟩)
  · cases number
  · have single : a.items = [] := by cases a <;> first | rfl | cases number
    rw [single] at member
    cases member

theorem WithoutTruth.list {items : List Value} (id : ObjectId)
    (each : ∀ item ∈ items, item.WithoutTruth) : (list id items).WithoutTruth := by
  rintro truth (_ | ⟨member, deeper⟩)
  exact each _ member truth deeper

theorem WithoutTruth.isNumber {place : Coordinate × Coordinate} (clean : a.WithoutTruth)
    (placed : a.coordinates? = some place) : a.isNumber = true := by
  cases a <;> first | rfl | exact (clean _ .here).elim | cases placed

theorem list_of_sequence {items : List Value} (sequence : a.sequence? = some (.list, items)) :
    ∃ id, a = list id items := by
  cases a <;> cases sequence
  exact ⟨_, rfl⟩

theorem tuple_of_sequence {items : List Value} (sequence : a.sequence? = some (.tuple, items)) :
    ∃ id, a = tuple id items := by
  cases a <;> cases sequence
  exact ⟨_, rfl⟩

/-- A value is like itself, unless it is a number that is not of the same value as itself. -/
theorem alike_self (depth : Nat) (a : Value) : alike (depth + 1) a a = .ok true ∨
    a.isNumber = true ∧ sameNumber? a a = some false := by
  cases agreed : sameNumber? a a with
  | some agreed' =>
      cases agreed' with
      | true => exact .inl (alike_eq_true.mpr (.numbers agreed))
      | false =>
          refine .inr ⟨?_, rfl⟩
          cases a <;> first
            | rfl
            | cases agreed
            | simp [sameNumber?, coordinates?, realCoordinate?, Coordinate.agrees] at agreed
  | none =>
      have apart := apart_of_identical (identical_self a) agreed
      refine .inl (alike_eq_true.mpr ?_)
      cases sequence : a.sequence? with
      | none => exact .one apart sequence (identical_self a)
      | some found =>
          refine .sequences sequence sequence ?_
          rw [List.forall₂_same]
          exact fun x _ => .inl (identical_self x)

theorem equal_of_same (depth : Nat) (same : a.same b = true) :
    equal (depth + 1) a b = .ok true := by
  rw [equal_eq_true]
  unfold Value.same at same
  split at same
  · rename_i numbers
    rw [Bool.and_eq_true] at numbers
    exact .numbers numbers.1 numbers.2 (by simpa using Option.getD_eq_iff.mp same)
  · exact .one same

/-- What is equal is alike at the same depth. Items that are no more than one object, such as a NaN,
count as alike inside of a list, so that the exception is for the values themselves only. -/
theorem alike_of_equal {objects : Objects} (first : objects.holds a) (second : objects.holds b)
    (same : equal depth a b = .ok true) :
    alike depth a b = .ok true ∨ a = b ∧ a.isNumber = true ∧ sameNumber? a a = some false := by
  induction depth generalizing a b with
  | zero => cases same
  | succ depth ih =>
      cases equal_eq_true.mp same with
      | one one =>
          obtain rfl := objects.unique first second one
          exact (alike_self depth a).imp_right fun number => ⟨rfl, number⟩
      | lists each =>
          refine .inl (alike_eq_true.mpr (.sequences rfl rfl ?_))
          refine forall₂_imp_mem each fun x member y member' same => ?_
          have held := objects.parts first (.list member .here)
          have held' := objects.parts second (.list member' .here)
          rcases ih held held' same with like | ⟨rfl, -⟩
          · exact .inr like
          · exact .inl (identical_self x)
      | numbers _ _ agree => exact .inl (alike_eq_true.mpr (.numbers agree))
      | others _ _ _ like => exact .inl like

/-- One level more is needed, as items that are one object are alike at depth 0, but not equal. -/
theorem equal_of_alike (first : a.WithoutTruth) (second : b.WithoutTruth)
    (like : alike depth a b = .ok true) : equal (depth + 1) a b = .ok true := by
  induction depth generalizing a b with
  | zero => cases like
  | succ depth ih =>
      rw [equal_eq_true]
      cases alike_eq_true.mp like with
      | numbers agree =>
          obtain ⟨x, y, place, place'⟩ := sameNumber?_eq_true.mp agree
          exact .numbers (first.isNumber place) (second.isNumber place') agree
      | @sequences kind _ _ sequence sequence' each =>
          cases kind with
          | list =>
              obtain ⟨id, rfl⟩ := list_of_sequence sequence
              obtain ⟨id', rfl⟩ := list_of_sequence sequence'
              refine .lists (forall₂_imp_mem each fun x member y member' passed => ?_)
              rcases passed with same | like
              · exact equal_eq_true.mpr (.one same)
              · exact ih (first.item member) (second.item member') like
          | tuple =>
              obtain ⟨id, rfl⟩ := tuple_of_sequence sequence
              obtain ⟨id', rfl⟩ := tuple_of_sequence sequence'
              exact .others rfl rfl rfl (alike_of_le (Nat.le_succ _) like)
      | one _ _ same => exact .one same

end Value

/-- Whatever lines are given to a session and whatever two values occur then: the three comparisons
come to verdicts. What is the same is equal, and what is equal has the same value, unless it is one
number that has not the same value as itself. Without truth values, what has the same value is
equal. Lists with one identity have the same items. -/
theorem equalities_ordered (lines : List (Nat × String)) {a b : Value} (first : Occurs lines a)
    (second : Occurs lines b) :
    (∀ operation ∈ [Operation.same, .equal, .equalNumber],
      ∃ verdict, Decides (operation.of a b) verdict) ∧
    (Decides (Operation.same.of a b) true → Decides (Operation.equal.of a b) true) ∧
    (Decides (Operation.equal.of a b) true → Decides (Operation.equalNumber.of a b) true ∨
      a = b ∧ a.isNumber = true ∧ Decides (Operation.equalNumber.of a a) false) ∧
    (a.WithoutTruth → b.WithoutTruth → Decides (Operation.equalNumber.of a b) true →
      Decides (Operation.equal.of a b) true) ∧
    ∀ id items items', a = .list id items → b = .list id items' → items = items' := by
  obtain ⟨objects, held⟩ := occurs_held lines
  have same := Operation.same_answers a b
  have equal := Operation.equal_answers a b
  have equalNumber := Operation.equalNumber_answers a b
  refine ⟨?_, fun decided => ?_, fun decided => ?_, fun clean clean' decided => ?_, ?_⟩
  · intro operation member
    simp only [List.mem_cons, List.not_mem_nil, or_false] at member
    rcases member with rfl | rfl | rfl
    · exact same.exists_verdict
    · exact equal.exists_verdict
    · exact equalNumber.exists_verdict
  · obtain ⟨_, ended⟩ := same.decides_iff.mp decided
    exact equal.decides (Value.equal_of_same 0 (Except.ok.inj ended))
  · obtain ⟨depth, ended⟩ := equal.decides_iff.mp decided
    rcases Value.alike_of_equal (held a first) (held b second) ended with
      like | ⟨one, number, apart⟩
    · exact .inl (equalNumber.decides like)
    · have unlike : Value.alike 1 a a = .ok false := by rw [Value.alike, apart]
      exact .inr ⟨one, number, (Operation.equalNumber_answers a a).decides unlike⟩
  · obtain ⟨depth, ended⟩ := equalNumber.decides_iff.mp decided
    exact equal.decides (Value.equal_of_alike clean clean' ended)
  · rintro id items items' rfl rfl
    have one := objects.unique (held _ first) (held _ second) (by simp [Value.identical])
    exact (Value.list.inj one).2

theorem threeOnes_ordered :
    Occurs threeOnes (.list 2 [.int 1]) ∧ Occurs threeOnes (.list 3 [realOne]) ∧
      Decides (Operation.equal.of (.list 2 [.int 1]) (.list 3 [realOne])) true := by
  have first := threeOnes_occur (.list 2 [.int 1]) (by simp)
  have second := threeOnes_occur (.list 3 [realOne]) (by simp)
  obtain ⟨-, -, -, conversely, -⟩ := equalities_ordered threeOnes first second
  have agree : Value.sameNumber? (.int 1) realOne = some true := by decide +kernel
  have like : Value.alike 2 (.list 2 [.int 1]) (.list 3 [realOne]) = .ok true :=
    Value.alike_eq_true.mpr (.sequences rfl rfl
      (.cons (.inr (Value.alike_eq_true.mpr (.numbers agree))) .nil))
  refine ⟨first, second, conversely ?_ ?_ ((Operation.equalNumber_answers _ _).decides like)⟩
  · exact .list 2 (List.forall_mem_singleton.mpr (.number rfl))
  · exact .list 3 (List.forall_mem_singleton.mpr (.number rfl))

end MiniLisp
