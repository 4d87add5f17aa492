import Mathlib.Order.Defs.PartialOrder
import MiniLisp.Proofs.Frames
import MiniLisp.Proofs.Numbering
import MiniLisp.Proofs.Simulation

/-!
Identities do not matter. All that a run can find out about two identities is whether they are the
same, so from stores that are the same up to identities evaluation comes to results and stores that
are. Which identities belong together is a pairing, which grows as both runs give out new ones.
-/

namespace MiniLisp

open List (Forall₂)

def Value.id? : Value → Option ObjectId
  | .nan id _ | .complex id _ _ | .list id _ | .tuple id _ | .closure id _ _ _ => some id
  | _ => none

inductive Renumbered (same : ObjectId → ObjectId → Prop) : Value → Value → Prop
  | plain {value : Value} (without : value.id? = none) : Renumbered same value value
  | nan {id id' : ObjectId} (paired : same id id') (negative : Bool) :
      Renumbered same (.nan id negative) (.nan id' negative)
  | complex {id id' : ObjectId} (paired : same id id') (re im : Float) :
      Renumbered same (.complex id re im) (.complex id' re im)
  | list {id id' : ObjectId} (paired : same id id') {items items' : List Value}
      (each : Forall₂ (Renumbered same) items items') :
      Renumbered same (.list id items) (.list id' items')
  | tuple {id id' : ObjectId} (paired : same id id') {items items' : List Value}
      (each : Forall₂ (Renumbered same) items items') :
      Renumbered same (.tuple id items) (.tuple id' items')
  | closure {id id' : ObjectId} (paired : same id id') (parameters : List String)
      {body body' : Value} (frame : FrameId) (inner : Renumbered same body body') :
      Renumbered same (.closure id parameters body frame) (.closure id' parameters body' frame)

namespace Renumbered

variable {same same' : ObjectId → ObjectId → Prop} {v v' a a' b b' : Value}

mutual

theorem mono (more : ∀ {id id'}, same id id' → same' id id') :
    ∀ {v v'}, Renumbered same v v' → Renumbered same' v v'
  | _, _, .plain without => .plain without
  | _, _, .nan paired negative => .nan (more paired) negative
  | _, _, .complex paired re im => .complex (more paired) re im
  | _, _, .list paired each => .list (more paired) (mono_all more each)
  | _, _, .tuple paired each => .tuple (more paired) (mono_all more each)
  | _, _, .closure paired parameters frame inner =>
      .closure (more paired) parameters frame (mono more inner)

theorem mono_all (more : ∀ {id id'}, same id id' → same' id id') :
    ∀ {items items'}, Forall₂ (Renumbered same) items items' →
      Forall₂ (Renumbered same') items items'
  | _, _, .nil => .nil
  | _, _, .cons first rest => .cons (mono more first) (mono_all more rest)

end

mutual

theorem self (keeps : ∀ {id}, same id id → same' id id) :
    ∀ {v}, Renumbered same v v → Renumbered same' v v
  | _, .plain without => .plain without
  | _, .nan paired negative => .nan (keeps paired) negative
  | _, .complex paired re im => .complex (keeps paired) re im
  | _, .list paired each => .list (keeps paired) (self_all keeps each)
  | _, .tuple paired each => .tuple (keeps paired) (self_all keeps each)
  | _, .closure paired parameters frame inner =>
      .closure (keeps paired) parameters frame (self keeps inner)

theorem self_all (keeps : ∀ {id}, same id id → same' id id) :
    ∀ {items}, Forall₂ (Renumbered same) items items → Forall₂ (Renumbered same') items items
  | _, .nil => .nil
  | _, .cons first rest => .cons (self keeps first) (self_all keeps rest)

end

theorem like (renumbered : Renumbered same v v') : Value.Like (Renumbered same) v v' := by
  cases renumbered with
  | plain without =>
      refine .diagonal fun item member => ?_
      cases v <;> first | exact absurd member List.not_mem_nil | cases without
  | list _ each => exact .list _ _ each
  | tuple _ each => exact .tuple _ _ each
  | _ => constructor

theorem text (renumbered : Renumbered same v v') (style : TextStyle) (depth : Nat) :
    v.text style depth = v'.text style depth := by
  induction depth generalizing v v' style with
  | zero => rfl
  | succ depth ih =>
      cases renumbered with
      | list _ each =>
          exact congrArg (Except.map _) (Library.mapM_like (fun item => ih item style) each)
      | tuple _ each =>
          exact congrArg (Except.map _) (Library.mapM_like (fun item => ih item .detailed) each)
      | closure _ _ _ inner => exact congrArg (Except.map _) (ih inner .plain)
      | _ => rfl

theorem mention (renumbered : Renumbered same v v') (depth : Nat) :
    v.mention depth = v'.mention depth := by
  have shown := renumbered.text .detailed depth
  cases renumbered with
  | plain => rfl
  | _ => exact shown

theorem isSymbol (renumbered : Renumbered same v v') : v.isSymbol = v'.isSymbol :=
  renumbered.like.isSymbol

theorem isList (renumbered : Renumbered same v v') : v.isList = v'.isList := renumbered.like.isList

theorem keyword? (renumbered : Renumbered same v v') : v.keyword? = v'.keyword? := by
  cases renumbered <;> rfl

theorem parameterNames {items items' : List Value} (each : Forall₂ (Renumbered same) items items')
    (depth : Nat) :
    SpecialForm.parameterNames depth items = SpecialForm.parameterNames depth items' := by
  induction each with
  | nil => rfl
  | @cons item item' _ _ first _ ih =>
      have mentioned := congrArg (· >>= fun text =>
        (throw (.parameterExpected text) : Except Failure (List String))) (first.mention depth)
      cases first with
      | plain =>
          cases item with
          | symbol name => exact congrArg (Except.map _) ih
          | _ => rfl
      | _ => exact mentioned

theorem identical
    (unique : ∀ {id id' other other'}, same id id' → same other other' →
      (id = other ↔ id' = other'))
    (first : Renumbered same a a') (second : Renumbered same b b') :
    Value.identical a b = Value.identical a' b' := by
  cases first with
  | plain without =>
      cases second with
      | plain => rfl
      | _ => cases a <;> first | rfl | cases without
  | _ paired =>
    cases second with
    | plain without => cases b <;> first | rfl | cases without
    | _ paired' =>
      first
        | rfl
        | exact decide_eq_decide.mpr (unique paired paired')

end Renumbered

/-- Two things that are made with identities from two starts on: as many of them are given out for
each, and the things are related whenever these belong together in turn. -/
def MadeAlike {α : Type} (related : (ObjectId → ObjectId → Prop) → α → α → Prop)
    (start start' : ObjectId) (made made' : α × ObjectId) : Prop :=
  ∃ count, made.2 = start + count ∧ made'.2 = start' + count ∧
    ∀ same, (∀ k < count, same (start + k) (start' + k)) → related same made.1 made'.1

namespace MadeAlike

variable {α β γ : Type} {related : (ObjectId → ObjectId → Prop) → α → α → Prop}
  {others : (ObjectId → ObjectId → Prop) → β → β → Prop} {start start' next next' : ObjectId}

theorem nothing {x x' : α} (holds : ∀ same, related same x x') :
    MadeAlike related start start' (x, start) (x', start') :=
  ⟨0, rfl, rfl, fun same _ => holds same⟩

theorem identity (make : ObjectId → α)
    (holds : ∀ same : ObjectId → ObjectId → Prop, same start start' →
      related same (make start) (make start')) :
    MadeAlike related start start' (make start, start + 1) (make start', start' + 1) :=
  ⟨1, rfl, rfl, fun same each => holds same (each 0 Nat.zero_lt_one)⟩

theorem imp {x x' : α} {y y' : β} (alike : MadeAlike related start start' (x, next) (x', next'))
    (weaker : ∀ same, related same x x' → others same y y') :
    MadeAlike others start start' (y, next) (y', next') := by
  obtain ⟨count, left, right, holds⟩ := alike
  exact ⟨count, left, right, fun same each => weaker same (holds same each)⟩

theorem both {made made' : α × ObjectId} {x x' : β}
    (first : MadeAlike related start start' made made')
    (second : MadeAlike others made.2 made'.2 (x, next) (x', next')) :
    MadeAlike (fun same both both' => related same both.1 both'.1 ∧ others same both.2 both'.2)
      start start' ((made.1, x), next) ((made'.1, x'), next') := by
  obtain ⟨count, left, right, holds⟩ := first
  obtain ⟨count', left', right', holds'⟩ := second
  simp only [left, right, Nat.add_assoc] at left' right' holds'
  refine ⟨count + count', left', right', fun same each => ⟨?_, ?_⟩⟩
  · exact holds same fun k within => each k (Nat.lt_add_right count' within)
  · exact holds' same fun k within => each (count + k) (Nat.add_lt_add_left within count)

end MadeAlike

theorem madeAlike_number (n : Number) (start start' : ObjectId) :
    MadeAlike Renumbered start start' (n.toValue start) (n.toValue start') := by
  rcases n with n | ⟨x | negative⟩ | ⟨re, im⟩
  · exact .nothing fun _ => .plain rfl
  · exact .nothing fun _ => .plain rfl
  · exact .identity (Value.nan · negative) fun _ paired => .nan paired negative
  · exact .identity (Value.complex · re im) fun _ paired => .complex paired re im

theorem madeAlike_scalar (s : Scalar) (start start' : ObjectId) :
    MadeAlike Renumbered start start' (s.toValue start) (s.toValue start') := by
  cases s with
  | number n => exact madeAlike_number n start start'
  | truth b => exact .nothing fun _ => .plain rfl
  | pair first second =>
      have parts := (madeAlike_number first start start').both (madeAlike_number second _ _)
      refine (parts.both (.identity id fun _ paired => paired)).imp ?_
      rintro same ⟨⟨one, two⟩, paired⟩
      exact .tuple paired (.cons one (.cons two .nil))

theorem madeAlike_answer {base : ObjectId → ObjectId → Prop} {answer answer' : Answer}
    (alike : Answer.Alike (Renumbered base) answer answer')
    (emptyTuple : base Value.emptyTuple Value.emptyTuple) (start start' : ObjectId) :
    MadeAlike (fun same v v' => (∀ {id id'}, base id id' → same id id') → Renumbered same v v')
      start start' (answer.toValue start) (answer'.toValue start') := by
  cases alike with
  | scalar s => exact (madeAlike_scalar s start start').imp fun _ renumbered _ => renumbered
  | like like =>
      cases like with
      | number n => exact (madeAlike_number n start start').imp fun _ renumbered _ => renumbered
      | truth b => exact .nothing fun _ _ => .plain rfl
      | nothing => exact .nothing fun _ _ => .plain rfl
      | given whole => exact .nothing fun _ more => whole.mono more
      | list each =>
          exact MadeAlike.imp (.identity id fun _ paired => paired) fun _ paired more =>
            .list paired (Renumbered.mono_all more each)
      | tuple each =>
          cases each with
          | nil => exact .nothing fun _ more => .tuple (more emptyTuple) .nil
          | cons first rest =>
              exact MadeAlike.imp (.identity id fun _ paired => paired) fun _ paired more =>
                .tuple paired (Renumbered.mono_all more (.cons first rest))

theorem madeAlike_exprs {exprs : List Expr}
    (each : ∀ expr ∈ exprs, ∀ start start',
      MadeAlike Renumbered start start' (expr.toValue start) (expr.toValue start'))
    (start start' : ObjectId) :
    MadeAlike (fun same => Forall₂ (Renumbered same)) start start' (Expr.toValues start exprs)
      (Expr.toValues start' exprs) := by
  induction exprs generalizing start start' with
  | nil => exact .nothing fun _ => .nil
  | cons expr exprs ih =>
      have first := each expr List.mem_cons_self start start'
      have rest := ih (fun other member => each other (List.mem_cons_of_mem expr member))
        (expr.toValue start).2 (expr.toValue start').2
      rw [toValues_cons, toValues_cons]
      exact (first.both rest).imp fun _ both => .cons both.1 both.2

theorem madeAlike_expr (expr : Expr) (start start' : ObjectId) :
    MadeAlike Renumbered start start' (expr.toValue start) (expr.toValue start') := by
  induction expr using Expr.itemwise generalizing start start' with
  | list items each =>
      rw [toValue_list, toValue_list]
      refine ((madeAlike_exprs each start start').both (.identity id fun _ paired => paired)).imp ?_
      exact fun _ both => .list both.2 both.1
  | _ => exact .nothing fun _ => .plain rfl

/-- Which identities of two runs belong together, and those that the runs give out next. -/
structure Pairing where
  same : ObjectId → ObjectId → Prop
  left : ObjectId
  right : ObjectId
  below : ∀ {id id'}, same id id' → id < left ∧ id' < right
  unique : ∀ {id id' other other'}, same id id' → same other other' → (id = other ↔ id' = other')
  emptyTuple : same Value.emptyTuple Value.emptyTuple

namespace Pairing

structure Continues (now later : Pairing) : Prop where
  kept : ∀ {id id'}, now.same id id' → later.same id id'
  grown : now.right ≤ later.right
  fresh : ∀ {id id'}, later.same id id' → now.same id id' ∨ now.right ≤ id'

instance : Preorder Pairing where
  le := Continues
  le_refl := fun _ => ⟨id, Nat.le_refl _, .inl⟩
  le_trans := by
    intro now later last first second
    refine ⟨fun paired => second.kept (first.kept paired),
      Nat.le_trans first.grown second.grown, ?_⟩
    intro id id' paired
    rcases second.fresh paired with before | after
    · exact first.fresh before
    · exact .inr (Nat.le_trans first.grown after)

def diagonal (next : ObjectId) (some_given : Value.firstFresh ≤ next) : Pairing where
  same := fun id id' => id = id' ∧ id < next
  left := next
  right := next
  below := by
    rintro id _ ⟨rfl, within⟩
    exact ⟨within, within⟩
  unique := by
    rintro id _ other _ ⟨rfl, -⟩ ⟨rfl, -⟩
    exact Iff.rfl
  emptyTuple := ⟨rfl, some_given⟩

theorem apart_of_unpaired (now : Pairing) {start count k : Nat} {id id' : ObjectId}
    (unpaired : id' < start ∨ start + count ≤ id') (paired : now.same id id')
    (within : k < count) : id ≠ now.left + k ∧ id' ≠ start + k := by
  refine ⟨Nat.ne_of_lt (Nat.lt_add_right k (now.below paired).1), ?_⟩
  rcases unpaired with before | after
  · exact Nat.ne_of_lt (Nat.lt_add_right k before)
  · exact (Nat.ne_of_lt (Nat.lt_of_lt_of_le (Nat.add_lt_add_left within start) after)).symm

/-- The identities that come next on the left, in turn with as many on the right that are not
paired yet. -/
def pair (now : Pairing) (start count : Nat)
    (unpaired : ∀ {id id'}, now.same id id' → id' < start ∨ start + count ≤ id') : Pairing where
  same := fun id id' => now.same id id' ∨ ∃ k < count, id = now.left + k ∧ id' = start + k
  left := now.left + count
  right := max now.right (start + count)
  below := by
    rintro id id' (before | ⟨k, within, rfl, rfl⟩)
    · obtain ⟨left, right⟩ := now.below before
      exact ⟨Nat.lt_add_right count left, Nat.lt_of_lt_of_le right (Nat.le_max_left _ _)⟩
    · have next : start + k < start + count := Nat.add_lt_add_left within start
      exact ⟨Nat.add_lt_add_left within _, Nat.lt_of_lt_of_le next (Nat.le_max_right _ _)⟩
  unique := by
    rintro id id' other other' (before | ⟨k, within, rfl, rfl⟩) (before' | ⟨k', within', rfl, rfl⟩)
    · exact now.unique before before'
    · obtain ⟨left, right⟩ := now.apart_of_unpaired (unpaired before) before within'
      exact iff_of_false left right
    · obtain ⟨left, right⟩ := now.apart_of_unpaired (unpaired before') before' within
      exact iff_of_false left.symm right.symm
    · rw [Nat.add_left_cancel_iff, Nat.add_left_cancel_iff]
  emptyTuple := .inl now.emptyTuple

def extend (now : Pairing) (count : Nat) : Pairing :=
  now.pair now.right count fun paired => .inl (now.below paired).2

variable {now later : Pairing} {start count k : Nat}

theorem same_pair {unpaired} (within : k < count) :
    (now.pair start count unpaired).same (now.left + k) (start + k) :=
  .inr ⟨k, within, rfl, rfl⟩

theorem same_extend (within : k < count) :
    (now.extend count).same (now.left + k) (now.right + k) :=
  same_pair within

theorem right_extend (now : Pairing) (count : Nat) :
    (now.extend count).right = now.right + count :=
  Nat.max_eq_right (Nat.le_add_right now.right count)

theorem le_extend (now : Pairing) (count : Nat) : now ≤ now.extend count where
  kept := .inl
  grown := Nat.le_max_left _ _
  fresh := by
    rintro id id' (before | ⟨k, -, -, rfl⟩)
    · exact .inl before
    · exact .inr (Nat.le_add_right now.right k)

structure Alike (now : Pairing) (store store' : Store) : Prop where
  size : store.frames.size = store'.frames.size
  left : store.nextId = now.left
  right : store'.nextId = now.right
  output : store.output = store'.output
  around : ∀ frame, store.outerOf frame = store'.outerOf frame
  bindings : ∀ frame, Bindings.Related Eq (Renumbered now.same) (store.bindingsOf frame)
    (store'.bindingsOf frame)

theorem names_unique {a a' b b' : String} (same : a = a') (same' : b = b') : a' = b' ↔ a = b := by
  rw [same, same']

namespace Alike

variable {store store' : Store} {frame : FrameId} {v v' : Value} (alike : now.Alike store store')

include alike

theorem find? (name : String) (frame : FrameId) :
    store.find? name frame = store'.find? name frame :=
  Store.find?_alike (fun _ => True) name
    (fun frame _ => (alike.bindings frame).isSome_get? names_unique rfl)
    (fun frame _ => alike.around frame) (fun _ _ _ _ => trivial) frame trivial

theorem lookup? (name : String) (frame : FrameId) :
    Option.Rel (Renumbered now.same) (store.lookup? name frame) (store'.lookup? name frame) := by
  unfold Store.lookup?
  rw [alike.find? name frame]
  cases store'.find? name frame with
  | none => exact .none
  | some owner => exact (alike.bindings owner).get? names_unique rfl

theorem define (frame : FrameId) (name : String) (given : Renumbered now.same v v') :
    now.Alike (store.define frame name v) (store'.define frame name v') where
  size := by rw [Store.size_define, Store.size_define, alike.size]
  left := alike.left
  right := alike.right
  output := alike.output
  around := fun other => by rw [Store.outerOf_define, Store.outerOf_define, alike.around]
  bindings := by
    intro other
    rw [Store.bindingsOf_define, Store.bindingsOf_define, alike.size]
    split
    · exact (alike.bindings other).set names_unique rfl given
    · exact alike.bindings other

theorem push {arguments arguments' : List Value} (captured : FrameId) (parameters : List String)
    (given : Forall₂ (Renumbered now.same) arguments arguments') :
    now.Alike (store.push ⟨Bindings.ofArguments [] parameters arguments, some captured⟩).2
      (store'.push ⟨Bindings.ofArguments [] parameters arguments', some captured⟩).2 where
  size := by rw [Store.size_push, Store.size_push, alike.size]
  left := alike.left
  right := alike.right
  output := alike.output
  around := fun other => by
    rw [Store.outerOf_push, Store.outerOf_push, alike.size, alike.around]
  bindings := by
    intro other
    rw [Store.bindingsOf_push, Store.bindingsOf_push, alike.size]
    split
    · have empty : Bindings.Related Eq (Renumbered now.same) [] [] := .nil
      exact empty.ofArguments names_unique (.plain rfl) (List.forall₂_refl parameters) given
    · exact alike.bindings other

theorem write (text : String) : now.Alike (store.write text) (store'.write text) :=
  { alike with output := congrArg (· ++ text) alike.output }

theorem continued {next next' : ObjectId} (kept : ∀ {id id'}, now.same id id' → later.same id id')
    (left : next = later.left) (right : next' = later.right) :
    later.Alike { store with nextId := next } { store' with nextId := next' } where
  size := alike.size
  left := left
  right := right
  output := alike.output
  around := alike.around
  bindings := fun frame => (alike.bindings frame).imp fun _ _ both =>
    ⟨both.1, both.2.mono kept⟩

omit alike in
theorem diagonal (alike : now.Alike store store) :
    ∃ some_given, (Pairing.diagonal store.nextId some_given).Alike store store := by
  have some_given : Value.firstFresh ≤ store.nextId := alike.left ▸ (now.below now.emptyTuple).1
  have keeps {id : ObjectId} (paired : now.same id id) : id = id ∧ id < store.nextId :=
    ⟨rfl, alike.left ▸ (now.below paired).1⟩
  refine ⟨some_given, rfl, rfl, rfl, rfl, fun _ => rfl, fun frame => ?_⟩
  have related := alike.bindings frame
  rw [Bindings.Related, List.forall₂_same] at related ⊢
  exact fun binding member => ⟨rfl, (related binding member).2.self keeps⟩

end Alike

end Pairing

end MiniLisp
