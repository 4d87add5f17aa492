import MiniLisp.Proofs.Equivalence

namespace MiniLisp

def Comparison.holds : Comparison → Ordering → Bool
  | less, order => order.isLT
  | greater, order => order.isGT
  | lessEqual, order => order.isLE
  | greaterEqual, order => order.isGE

theorem Comparison.onLengths_eq (comparison : Comparison) (n m : Nat) :
    comparison.onLengths n m = comparison.holds (compare n m) := by
  rcases Nat.lt_trichotomy n m with less | rfl | greater
  · have order : compare n m = .lt := Nat.compare_eq_lt.mpr less
    cases comparison <;> simp [onLengths, holds, order] <;> omega
  · cases comparison <;> simp [onLengths, holds]
  · have order : compare n m = .gt := Nat.compare_eq_gt.mpr greater
    cases comparison <;> simp [onLengths, holds, order] <;> omega

namespace Real64.Position

variable {p q r : Position}

theorem before_trans (first : p.before q = true) (second : q.before r = true) :
    p.before r = true := by
  cases p <;> cases q <;> cases r <;> simp_all [before]
  omega

theorem not_before_self (p : Position) : p.before p = false := by
  cases p <;> simp [before]

theorem eq_of_unordered (forth : p.before q = false) (back : q.before p = false) : p = q := by
  cases p <;> cases q <;> simp_all [before]
  omega

def order (p q : Position) : Ordering :=
  if p.before q then .lt else if q.before p then .gt else .eq

theorem order_swap (p q : Position) : (p.order q).swap = q.order p := by
  unfold order
  cases forth : p.before q with
  | false => cases q.before p <;> rfl
  | true =>
      have back : q.before p = false := by
        rw [← Bool.not_eq_true]
        intro back
        have contrary := before_trans forth back
        rw [not_before_self] at contrary
        cases contrary
      rw [back]
      rfl

theorem isEq_order (p q : Position) : (p.order q).isEq = decide (p = q) := by
  unfold order
  cases forth : p.before q with
  | true =>
      have apart : p ≠ q := by
        rintro rfl
        rw [not_before_self] at forth
        cases forth
      simp [apart]
  | false =>
      cases back : q.before p with
      | true =>
          have apart : p ≠ q := by
            rintro rfl
            rw [not_before_self] at back
            cases back
          simp [apart]
      | false => simp [eq_of_unordered forth back]

theorem onPositions_eq (comparison : Comparison) (p q : Position) :
    comparison.onPositions p q = comparison.holds (p.order q) := by
  have back : (p.order q).swap = q.order p := order_swap p q
  unfold order at back ⊢
  cases comparison <;> cases forth : p.before q <;> cases behind : q.before p <;>
    simp_all [Comparison.onPositions, Comparison.holds]

end Real64.Position

open Real64 (Position)

namespace Value

/-- Neither a NaN nor a complex number, nor a sequence with one in it. -/
def Regular (v : Value) : Prop :=
  (∀ id negative, ¬ Contains (.nan id negative) v) ∧ ∀ id re im, ¬ Contains (.complex id re im) v

variable {a b c x y : Value} {as bs : List Value} {depth : Nat} {comparison : Comparison}
  {kind : SequenceKind} {p q : Position} {order : Ordering}

theorem Regular.item {item : Value} (regular : a.Regular) (member : item ∈ a.items) :
    item.Regular :=
  ⟨fun id negative deeper => regular.1 id negative (.item member deeper),
    fun id re im deeper => regular.2 id re im (.item member deeper)⟩

theorem Regular.list {items : List Value} (id : ObjectId) (each : ∀ item ∈ items, item.Regular) :
    (list id items).Regular := by
  constructor
  · rintro nan negative (_ | ⟨member, deeper⟩)
    exact (each _ member).1 nan negative deeper
  · rintro complex re im (_ | ⟨member, deeper⟩)
    exact (each _ member).2 complex re im deeper

theorem Regular.of_position (placed : a.realCoordinate? = some (some p)) : a.Regular := by
  have single : a.items = [] := by cases a <;> first | rfl | cases placed
  constructor
  · rintro nan negative (_ | ⟨member, -⟩)
    · cases placed
    · rw [single] at member
      cases member
  · rintro complex re im (_ | ⟨member, -⟩)
    · cases placed
    · rw [single] at member
      cases member

theorem mem_items_of_sequence (sequence : a.sequence? = some (kind, as)) : a.items = as := by
  cases a <;> cases sequence <;> rfl

theorem Regular.of_mem (regular : a.Regular) (sequence : a.sequence? = some (kind, as))
    (member : x ∈ as) : x.Regular :=
  regular.item (mem_items_of_sequence sequence ▸ member)

theorem Regular.position {place : Coordinate} (regular : a.Regular)
    (placed : a.realCoordinate? = some place) : ∃ p, place = some p := by
  cases a with
  | nan => exact (regular.1 _ _ .here).elim
  | int | real | bool =>
      cases placed
      exact ⟨_, rfl⟩
  | _ => cases placed

theorem coordinates?_of_real {place : Coordinate} (placed : a.realCoordinate? = some place) :
    a.coordinates? = some (place, some (.ofInt 0)) := by
  cases a <;> cases placed <;> rfl

theorem Regular.real_of_coordinates {place : Coordinate × Coordinate} (regular : a.Regular)
    (placed : a.coordinates? = some place) : a.realCoordinate? = some place.1 := by
  cases a with
  | complex => exact (regular.2 _ _ _ .here).elim
  | int | real | nan | bool =>
      cases placed
      rfl
  | _ => cases placed

theorem realCoordinate?_of_sequence (sequence : a.sequence? = some (kind, as)) :
    a.realCoordinate? = none := by
  cases a <;> first | rfl | cases sequence

section Steps

/-- Items of a sequence are alike also if they are one object. -/
abbrev itemsAlike (depth : Nat) (x y : Value) : Except Failure Bool :=
  if identical x y then .ok true else alike depth x y

theorem compare_of_positions (comparison : Comparison) (depth : Nat)
    (place : a.realCoordinate? = some (some p)) (place' : b.realCoordinate? = some (some q)) :
    compare comparison (depth + 1) a b = .ok (comparison.holds (p.order q)) := by
  rw [compare, place, place', ← Position.onPositions_eq]
  rfl

theorem alike_of_positions (depth : Nat) (place : a.realCoordinate? = some (some p))
    (place' : b.realCoordinate? = some (some q)) :
    alike (depth + 1) a b = .ok (p.order q).isEq := by
  rw [alike, sameNumber?, coordinates?_of_real place, coordinates?_of_real place',
    Position.isEq_order]
  simp [Coordinate.agrees]

theorem compare_of_sequences (comparison : Comparison) (depth : Nat)
    (sequence : a.sequence? = some (kind, as)) (sequence' : b.sequence? = some (kind, bs)) :
    compare comparison (depth + 1) a b = firstDifference? depth as bs >>= fun
      | some (x, y) => compare comparison depth x y
      | none => .ok (comparison.onLengths as.length bs.length) := by
  rw [compare, realCoordinate?_of_sequence sequence, sequence, sequence']
  refine (if_pos rfl).trans ?_
  rcases firstDifference? depth as bs with _ | _ | _ <;> rfl

theorem alike_of_sequences (depth : Nat) (sequence : a.sequence? = some (kind, as))
    (sequence' : b.sequence? = some (kind, bs)) :
    alike (depth + 1) a b =
      if as.length = bs.length then pairwise (itemsAlike depth) as bs else .ok false := by
  rw [alike, sameNumber?_of_apart (coordinates?_of_sequence sequence), sequence, sequence']
  simp only [true_and]

inductive Comparable (a b : Value) : Prop
  | numbers {p q : Position} (place : a.realCoordinate? = some (some p))
      (place' : b.realCoordinate? = some (some q))
  | sequences {kind : SequenceKind} {as bs : List Value} (sequence : a.sequence? = some (kind, as))
      (sequence' : b.sequence? = some (kind, bs))

theorem comparable_of_ok {verdict : Bool} (regular : a.Regular) (regular' : b.Regular)
    (ended : compare comparison (depth + 1) a b = .ok verdict) : Comparable a b := by
  rw [compare] at ended
  split at ended
  · rename_i place place'
    obtain ⟨p, rfl⟩ := regular.position place
    obtain ⟨q, rfl⟩ := regular'.position place'
    exact .numbers place place'
  · split at ended
    · rename_i sequence sequence'
      split at ended
      · rename_i same
        exact .sequences sequence (same ▸ sequence')
      · cases ended
    · cases ended

end Steps

section Differences

theorem identical_comm (a b : Value) : identical a b = identical b a := by
  cases a <;> cases b <;> simp [identical, eq_comm]

theorem sameNumber?_comm (a b : Value) : sameNumber? a b = sameNumber? b a := by
  have agrees (p q : Coordinate) : Coordinate.agrees p q = Coordinate.agrees q p := by
    cases p <;> cases q <;> simp [Coordinate.agrees, eq_comm]
  unfold sameNumber?
  rcases a.coordinates? with _ | place
  · cases b.coordinates? <;> rfl
  · rcases b.coordinates? with _ | place'
    · rfl
    · simp only [agrees place.1 place'.1, agrees place.2 place'.2]

theorem pairwise_comm {test test' : Value → Value → Except Failure Bool}
    (same : ∀ x y, test x y = test' y x) (as bs : List Value) :
    pairwise test as bs = pairwise test' bs as := by
  induction as generalizing bs with
  | nil => cases bs <;> rfl
  | cons a as ih =>
      cases bs with
      | nil => rfl
      | cons b bs => simp only [pairwise, same a b, ih bs]

theorem alike_comm (depth : Nat) (a b : Value) : alike depth a b = alike depth b a := by
  induction depth generalizing a b with
  | zero => rfl
  | succ depth ih =>
      rw [alike, alike, sameNumber?_comm b a, identical_comm b a]
      cases sameNumber? a b with
      | some agreed => rfl
      | none =>
          cases a.sequence? with
          | none => cases b.sequence? <;> rfl
          | some first =>
              cases b.sequence? with
              | none => rfl
              | some second =>
                  simp only [eq_comm (a := second.1), eq_comm (a := second.2.length)]
                  rw [pairwise_comm fun x y => by rw [identical_comm x y, ih x y]]

theorem firstDifference?_cons (depth : Nat) (a b : Value) (as bs : List Value) :
    firstDifference? depth (a :: as) (b :: bs) = itemsAlike depth a b >>= fun passed =>
      if passed then firstDifference? depth as bs else .ok (some (a, b)) := rfl

theorem firstDifference?_swap (depth : Nat) (as bs : List Value) :
    firstDifference? depth bs as = (firstDifference? depth as bs).map (Option.map Prod.swap) := by
  induction as generalizing bs with
  | nil => cases bs <;> rfl
  | cons a as ih =>
      cases bs with
      | nil => rfl
      | cons b bs =>
          have same : itemsAlike depth b a = itemsAlike depth a b := by
            rw [itemsAlike, identical_comm b a, alike_comm depth b a]
          rw [firstDifference?_cons, firstDifference?_cons, same, ih]
          rcases itemsAlike depth a b with _ | ⟨_ | _⟩ <;> rfl

theorem unlike_of_difference (found : firstDifference? depth as bs = .ok (some (x, y))) :
    x ∈ as ∧ y ∈ bs ∧ itemsAlike depth x y = .ok false ∧
      (as.length = bs.length → pairwise (itemsAlike depth) as bs = .ok false) := by
  induction as generalizing bs with
  | nil => cases found
  | cons a as ih =>
      cases bs with
      | nil => cases found
      | cons b bs =>
          rw [firstDifference?_cons] at found
          obtain ⟨passed, tested, found⟩ := ok_of_bind found
          cases passed with
          | false =>
              cases found
              refine ⟨List.mem_cons_self, List.mem_cons_self, tested, fun _ => ?_⟩
              rw [pairwise, tested]
              rfl
          | true =>
              obtain ⟨member, member', apart, unlike⟩ := ih found
              refine ⟨List.mem_cons_of_mem a member, List.mem_cons_of_mem b member', apart,
                fun lengths => ?_⟩
              rw [pairwise, tested]
              exact unlike (Nat.succ.inj lengths)

theorem alike_of_no_difference (found : firstDifference? depth as bs = .ok none)
    (lengths : as.length = bs.length) : pairwise (itemsAlike depth) as bs = .ok true := by
  induction as generalizing bs with
  | nil =>
      cases bs with
      | nil => rfl
      | cons => cases lengths
  | cons a as ih =>
      cases bs with
      | nil => cases lengths
      | cons b bs =>
          rw [firstDifference?_cons] at found
          obtain ⟨passed, tested, found⟩ := ok_of_bind found
          cases passed with
          | false => cases found
          | true =>
              rw [pairwise, tested]
              exact ih found (Nat.succ.inj lengths)

end Differences

/-- All comparisons of the values, under this limit on depth, come from one ordering. -/
structure Ranked (depth : Nat) (a b : Value) (order : Ordering) : Prop where
  compares : ∀ comparison, compare comparison depth a b = .ok (comparison.holds order)
  likened : alike depth a b = .ok order.isEq

section Ranks

theorem ranked_of_positions (depth : Nat) (place : a.realCoordinate? = some (some p))
    (place' : b.realCoordinate? = some (some q)) : Ranked (depth + 1) a b (p.order q) :=
  ⟨fun comparison => compare_of_positions comparison depth place place',
    alike_of_positions depth place place'⟩

theorem ranked_of_difference (sequence : a.sequence? = some (kind, as))
    (sequence' : b.sequence? = some (kind, bs))
    (found : firstDifference? depth as bs = .ok (some (x, y))) (ranked : Ranked depth x y order) :
    Ranked (depth + 1) a b order := by
  obtain ⟨-, -, apart, unlike⟩ := unlike_of_difference found
  constructor
  · intro comparison
    rw [compare_of_sequences comparison depth sequence sequence', found]
    exact ranked.compares comparison
  · have other : order.isEq = false := by
      rw [itemsAlike] at apart
      split at apart
      · cases apart
      · exact Except.ok.inj (ranked.likened.symm.trans apart)
    rw [alike_of_sequences depth sequence sequence', other]
    split
    · exact unlike ‹_›
    · rfl

theorem ranked_of_lengths (sequence : a.sequence? = some (kind, as))
    (sequence' : b.sequence? = some (kind, bs)) (found : firstDifference? depth as bs = .ok none) :
    Ranked (depth + 1) a b (Ord.compare as.length bs.length) := by
  constructor
  · intro comparison
    rw [compare_of_sequences comparison depth sequence sequence', found,
      ← Comparison.onLengths_eq]
    rfl
  · rw [alike_of_sequences depth sequence sequence']
    split
    · rename_i lengths
      rw [alike_of_no_difference found lengths, lengths]
      simp
    · rename_i lengths
      have other : Ord.compare as.length bs.length ≠ .eq := fun same =>
        lengths (Nat.compare_eq_eq.mp same)
      cases compared : Ord.compare as.length bs.length <;> simp_all

/-- One comparison that comes to a verdict is enough for all of them, both ways. -/
theorem exists_order {verdict : Bool} (regular : a.Regular) (regular' : b.Regular)
    (ended : compare comparison depth a b = .ok verdict) :
    ∃ order : Ordering, Ranked depth a b order ∧ Ranked depth b a order.swap := by
  induction depth generalizing a b with
  | zero => cases ended
  | succ depth ih =>
      cases comparable_of_ok regular regular' ended with
      | @numbers p q place place' =>
          refine ⟨p.order q, ranked_of_positions depth place place', ?_⟩
          rw [Position.order_swap]
          exact ranked_of_positions depth place' place
      | sequences sequence sequence' =>
          rw [compare_of_sequences comparison depth sequence sequence'] at ended
          obtain ⟨difference, found, ended⟩ := ok_of_bind ended
          have back := firstDifference?_swap depth _ _ |>.trans (congrArg _ found)
          cases difference with
          | none =>
              refine ⟨_, ranked_of_lengths sequence sequence' found, ?_⟩
              rw [Nat.compare_swap]
              exact ranked_of_lengths sequence' sequence back
          | some pair =>
              obtain ⟨member, member', -⟩ := unlike_of_difference found
              obtain ⟨order, ranked, swapped⟩ := ih (regular.of_mem sequence member)
                (regular'.of_mem sequence' member') ended
              exact ⟨order, ranked_of_difference sequence sequence' found ranked,
                ranked_of_difference sequence' sequence back swapped⟩

end Ranks

end Value

end MiniLisp
