import Mathlib.Order.Defs.PartialOrder
import MiniLisp.Proofs.Renaming

/-!
Counterparts. Two runs of which one has a parameter renamed make the same frames, and what the one
has in a place corresponds to what the other has there: only procedures differ, and names in the
frames that are inside of the renamed abstraction. A call of the abstraction makes such a frame, and
so does every call of a procedure that was made inside.
-/

namespace MiniLisp

open List (Forall₂)

/-- Which of the frames made so far are inside of the renamed abstraction. -/
structure Stage where
  sides : List Bool

namespace Stage

instance : Preorder Stage where
  le := fun now later => now.sides <+: later.sides
  le_refl := fun now => List.prefix_refl now.sides
  le_trans := fun _ _ _ => List.IsPrefix.trans

variable {now later : Stage} {frame : FrameId} {inside : Bool}

def Side (stage : Stage) (frame : FrameId) (inside : Bool) : Prop :=
  stage.sides[frame]? = some inside

def outside (size : Nat) : Stage := ⟨List.replicate size false⟩

def enter (stage : Stage) (inside : Bool) : Stage := ⟨stage.sides ++ [inside]⟩

theorem Side.lasting (passed : now ≤ later) (side : now.Side frame inside) :
    later.Side frame inside := by
  obtain ⟨rest, same⟩ := passed
  have within : frame < now.sides.length := (List.getElem?_eq_some_iff.mp side).1
  rw [Side, ← same, List.getElem?_append_left within]
  exact side

theorem Side.unique {inside' : Bool} (side : now.Side frame inside)
    (side' : now.Side frame inside') : inside = inside' :=
  Option.some.inj (side.symm.trans side')

theorem Side.lt (side : now.Side frame inside) : frame < now.sides.length :=
  (List.getElem?_eq_some_iff.mp side).1

theorem side_of_lt (within : frame < now.sides.length) : ∃ inside, now.Side frame inside :=
  ⟨now.sides[frame], List.getElem?_eq_getElem within⟩

theorem side_outside {size : Nat} (within : frame < size) : (outside size).Side frame false := by
  simp [Side, outside, within]

theorem outside_side {size : Nat} (side : (outside size).Side frame inside) : inside = false := by
  obtain ⟨_, same⟩ := List.getElem?_eq_some_iff.mp side
  simpa [outside] using same.symm

theorem le_enter (now : Stage) (inside : Bool) : now ≤ now.enter inside :=
  List.prefix_append now.sides [inside]

theorem side_enter (now : Stage) (inside : Bool) :
    (now.enter inside).Side now.sides.length inside := by
  simp [Side, enter]

theorem enter_side {entered : Bool} (side : (now.enter entered).Side frame inside) :
    frame = now.sides.length ∧ inside = entered ∨ now.Side frame inside := by
  have within := side.lt
  simp only [enter, List.length_append, List.length_singleton] at within
  rcases Nat.lt_or_eq_of_le (Nat.le_of_lt_succ within) with before | rfl
  · obtain ⟨other, before⟩ := side_of_lt before
    exact .inr ((before.lasting (now.le_enter entered)).unique side ▸ before)
  · exact .inl ⟨rfl, side.unique (now.side_enter entered)⟩

end Stage

def Value.isAtom : Value → Bool
  | list .. | tuple .. | closure .. => false
  | _ => true

namespace Renaming

variable (r : Renaming)

/-- The new name is not in the value, and its procedures are all from outside of the abstraction. -/
structure Settled (stage : Stage) (value : Value) : Prop where
  fresh : r.new ∉ value.names
  captured : ∀ frame, value.Captures frame → stage.Side frame false

/-- A value and what it is with the parameter renamed: the same but for procedures. Those made
inside of the abstraction are renamed, as is the abstraction itself, which has captured a frame
outside; of other procedures the body may have the abstraction in it. -/
inductive Corresponds (stage : Stage) : Value → Value → Prop
  | atom {value : Value} (atomic : value.isAtom = true) : Corresponds stage value value
  | list (id : ObjectId) {items items' : List Value}
      (each : Forall₂ (Corresponds stage) items items') :
      Corresponds stage (.list id items) (.list id items')
  | tuple (id : ObjectId) {items items' : List Value}
      (each : Forall₂ (Corresponds stage) items items') :
      Corresponds stage (.tuple id items) (.tuple id items')
  | closure (id : ObjectId) {parameters : List String} {body body' : Value} {frame : FrameId}
      (inside : Bool) (fresh : r.new ∉ parameters) (settled : r.Settled stage body)
      (code : r.Code inside body body')
      (captured : stage.Side frame inside ∨
        inside = true ∧ r.old ∈ parameters ∧ stage.Side frame false) :
      Corresponds stage (.closure id parameters body frame)
        (.closure id (parameters.map (r.change inside)) body' frame)

/-- What was printed: the same at first, then lines with texts of corresponding values. -/
inductive Transcripts (stage : Stage) : String → String → Prop
  | same (text : String) : Transcripts stage text text
  | line {text text' shown shown' : String} {value value' : Value} (depth : Nat)
      (before : Transcripts stage text text') (corresponds : r.Corresponds stage value value')
      (shows : value.text .plain depth = .ok shown)
      (shows' : value'.text .plain depth = .ok shown') :
      Transcripts stage (text ++ (shown ++ "\n")) (text' ++ (shown' ++ "\n"))

structure Bound (stage : Stage) (inside : Bool) (binding binding' : String × Value) : Prop where
  fresh : binding.1 ≠ r.new
  name : binding'.1 = r.change inside binding.1
  value : r.Corresponds stage binding.2 binding'.2

structure Stores (stage : Stage) (store store' : Store) : Prop where
  size : store.frames.size = stage.sides.length
  size' : store'.frames.size = stage.sides.length
  nextId : store.nextId = store'.nextId
  output : r.Transcripts stage store.output store'.output
  outer : ∀ frame, store.outerOf frame = store'.outerOf frame
  bindings : ∀ frame inside, stage.Side frame inside →
    Forall₂ (r.Bound stage inside) (store.bindingsOf frame) (store'.bindingsOf frame)
  /-- Going outward, one does not get out of the abstraction before one finds the parameter. -/
  within : ∀ frame, stage.Side frame true → ((store.bindingsOf frame).get? r.old).isSome ∨
    ∃ outer, store.outerOf frame = some outer ∧ outer < frame ∧ stage.Side outer true
  outside : ∀ frame outer, stage.Side frame false → store.outerOf frame = some outer →
    outer < frame → stage.Side outer false

variable {r} {now later stage : Stage} {inside : Bool} {v v' a a' b b' : Value} {name : String}

namespace Settled

theorem lasting (passed : now ≤ later) (settled : r.Settled now v) : r.Settled later v :=
  ⟨settled.fresh, fun frame captured => (settled.captured frame captured).lasting passed⟩

theorem symbol (settled : r.Settled stage (.symbol name)) : name ≠ r.new :=
  fun same => settled.fresh (same ▸ List.mem_singleton_self _)

theorem item : Value.Inherited (r.Settled stage) := by
  intro value settled item member
  have fresh : r.new ∉ item.names := by
    intro mentioned
    cases value with
    | list | tuple => exact settled.fresh (Value.mem_namesAll.mpr ⟨item, member, mentioned⟩)
    | _ => exact absurd member List.not_mem_nil
  refine ⟨fresh, fun frame ⟨id, parameters, body, held⟩ => settled.captured frame ?_⟩
  exact ⟨id, parameters, body, Value.within_trans held (Value.within_of_mem_items member)⟩

theorem part {id : ObjectId} {items : List Value} (settled : r.Settled stage (.list id items))
    {part : Value} (member : part ∈ items) : r.Settled stage part :=
  item _ settled part member

theorem body {id : ObjectId} {parameters : List String} {body : Value} {frame : FrameId}
    (settled : r.Settled stage (.closure id parameters body frame)) : r.Settled stage body where
  fresh := fun mentioned => settled.fresh (List.mem_append_right _ mentioned)
  captured := by
    rintro frame ⟨id', parameters, body, held⟩
    exact settled.captured frame ⟨id', parameters, body, .body held⟩

end Settled

namespace Corresponds

mutual

theorem lasting (passed : now ≤ later) : ∀ {v v'}, r.Corresponds now v v' → r.Corresponds later v v'
  | _, _, .atom atomic => .atom atomic
  | _, _, .list id each => .list id (each_lasting passed each)
  | _, _, .tuple id each => .tuple id (each_lasting passed each)
  | _, _, .closure id inside fresh settled code captured =>
      .closure id inside fresh (settled.lasting passed) code
        (captured.imp (Stage.Side.lasting passed) (And.imp_right (And.imp_right
          (Stage.Side.lasting passed))))

theorem each_lasting (passed : now ≤ later) :
    ∀ {items items'}, Forall₂ (r.Corresponds now) items items' →
      Forall₂ (r.Corresponds later) items items'
  | _, _, .nil => .nil
  | _, _, .cons first rest => .cons (lasting passed first) (each_lasting passed rest)

end

mutual

theorem refl : ∀ v : Value, r.Settled stage v → r.Corresponds stage v v
  | .list id items, settled => .list id (refl_all items (Settled.item _ settled))
  | .tuple id items, settled => .tuple id (refl_all items (Settled.item _ settled))
  | .closure id parameters body frame, settled => by
      have side := settled.captured frame ⟨id, parameters, body, .here⟩
      have same : r.Corresponds stage (.closure id parameters body frame)
          (.closure id (parameters.map (r.change false)) body frame) :=
        .closure id false (fun member => settled.fresh (List.mem_append_left _ member)) settled.body
          (Code.refl body) (.inl side)
      simpa using same
  | .int _, _ | .real _, _ | .nan .., _ | .complex .., _ | .bool _, _ | .symbol _, _ | .nothing, _
  | .unbound, _ | .primitive _, _ => .atom rfl

theorem refl_all : ∀ items : List Value, (∀ item ∈ items, r.Settled stage item) →
    Forall₂ (r.Corresponds stage) items items
  | [], _ => .nil
  | item :: rest, settled => .cons (refl item (settled item List.mem_cons_self))
      (refl_all rest fun other member => settled other (List.mem_cons_of_mem item member))

end

mutual

theorem shown : ∀ {v v'}, r.Corresponds stage v v' → v.ShownAlike v'
  | _, _, .atom _ => .refl _
  | _, _, .list id each => .list id id (shown_all each)
  | _, _, .tuple id each => .tuple id id (shown_all each)
  | _, _, .closure id _ _ _ code _ => .closure id id _ _ _ _ code.shown

theorem shown_all : ∀ {items items'}, Forall₂ (r.Corresponds stage) items items' →
    Forall₂ Value.ShownAlike items items'
  | _, _, .nil => .nil
  | _, _, .cons first rest => .cons (shown first) (shown_all rest)

end

mutual

theorem eq_of_data : ∀ {v v'}, r.Corresponds stage v v' → (∀ frame, ¬ v.Captures frame) → v = v'
  | _, _, .atom _, _ => rfl
  | _, _, .list id each, data => congrArg (Value.list id) <| eq_of_data_all each
      fun _ member frame ⟨id', parameters, body, held⟩ =>
        data frame ⟨id', parameters, body, .list member held⟩
  | _, _, .tuple id each, data => congrArg (Value.tuple id) <| eq_of_data_all each
      fun _ member frame ⟨id', parameters, body, held⟩ =>
        data frame ⟨id', parameters, body, .tuple member held⟩
  | _, _, .closure id _ _ _ _ _, data => absurd ⟨id, _, _, .here⟩ (data _)

theorem eq_of_data_all : ∀ {items items'}, Forall₂ (r.Corresponds stage) items items' →
    (∀ item ∈ items, ∀ frame, ¬ item.Captures frame) → items = items'
  | _, _, .nil, _ => rfl
  | _, _, .cons first rest, data => by
      rw [eq_of_data first (data _ List.mem_cons_self),
        eq_of_data_all rest fun item member => data item (List.mem_cons_of_mem _ member)]

end

theorem like (corresponds : r.Corresponds stage v v') : Value.Like (r.Corresponds stage) v v' := by
  cases corresponds with
  | atom atomic =>
      refine .diagonal fun item member => ?_
      cases v <;> first | exact absurd member List.not_mem_nil | cases atomic
  | list id each => exact .list id id each
  | tuple id each => exact .tuple id id each
  | closure => constructor

theorem identical (first : r.Corresponds stage a a') (second : r.Corresponds stage b b') :
    Value.identical a b = Value.identical a' b' := by
  have keeps {x x' : Value} (corresponds : r.Corresponds stage x x') (y : Value) :
      Value.identical x y = Value.identical x' y ∧ Value.identical y x = Value.identical y x' := by
    cases corresponds <;> cases y <;> exact ⟨rfl, rfl⟩
  rw [(keeps first b).1, (keeps second a').2]

theorem resembles (stage : Stage) : Resemblance False (fun _ _ => True) (r.Corresponds stage) where
  like := like
  identical := identical
  text := by
    rintro v v' corresponds depth _ (rfl | ⟨contrary, -⟩) style
    · exact (corresponds.shown style depth).imp (fun _ _ _ => trivial)
        fun _ _ same => same ▸ .same _
    · exact contrary.elim

end Corresponds

theorem corresponds_of_alike {answer answer' : Answer}
    (alike : Answer.Alike (r.Corresponds stage) answer answer') (next : ObjectId) :
    r.Corresponds stage (answer.toValue next).1 (answer'.toValue next).1 ∧
      (answer.toValue next).2 = (answer'.toValue next).2 := by
  have number (n : Number) (next : ObjectId) :
      r.Corresponds stage (n.toValue next).1 (n.toValue next).1 := by
    rcases n with n | ⟨x | negative⟩ | ⟨re, im⟩ <;> exact .atom rfl
  cases alike with
  | scalar s =>
      cases s with
      | number n => exact ⟨number n next, rfl⟩
      | truth b => exact ⟨.atom rfl, rfl⟩
      | pair first second =>
          exact ⟨.tuple _ (.cons (number first _) (.cons (number second _) .nil)), rfl⟩
  | like like =>
      cases like with
      | number n => exact ⟨number n next, rfl⟩
      | given whole => exact ⟨whole, rfl⟩
      | list each => exact ⟨.list next each, rfl⟩
      | tuple each =>
          cases each with
          | nil => exact ⟨.tuple _ .nil, rfl⟩
          | cons first rest => exact ⟨.tuple next (.cons first rest), rfl⟩
      | _ => exact ⟨.atom rfl, rfl⟩

theorem Transcripts.lasting (passed : now ≤ later) {text text' : String}
    (transcripts : r.Transcripts now text text') : r.Transcripts later text text' := by
  induction transcripts with
  | same text => exact .same text
  | line depth _ corresponds shows shows' ih =>
      exact .line depth ih (corresponds.lasting passed) shows shows'

theorem Bound.lasting (passed : now ≤ later) {binding binding' : String × Value}
    (bound : r.Bound now inside binding binding') : r.Bound later inside binding binding' :=
  ⟨bound.fresh, bound.name, bound.value.lasting passed⟩

section Bindings

variable {bindings bindings' : Bindings}
  (bound : Forall₂ (r.Bound stage inside) bindings bindings')

def Becomes (r : Renaming) (inside : Bool) (name name' : String) : Prop :=
  name ≠ r.new ∧ name' = r.change inside name

theorem becomes_unique {other name' other' : String} (becomes : r.Becomes inside name name')
    (becomes' : r.Becomes inside other other') : name' = other' ↔ name = other := by
  obtain ⟨fresh, rfl⟩ := becomes
  obtain ⟨fresh', rfl⟩ := becomes'
  exact change_inj fresh fresh'

theorem related_iff_bound :
    Bindings.Related (r.Becomes inside) (r.Corresponds stage) bindings bindings' ↔
      Forall₂ (r.Bound stage inside) bindings bindings' :=
  ⟨fun related => related.imp fun _ _ both => ⟨both.1.1, both.1.2, both.2⟩,
    fun bound => bound.imp fun _ _ bound => ⟨⟨bound.fresh, bound.name⟩, bound.value⟩⟩

include bound

theorem get?_bound (fresh : name ≠ r.new) :
    Option.Rel (r.Corresponds stage) (bindings.get? name)
      (bindings'.get? (r.change inside name)) :=
  (related_iff_bound.mpr bound).get? becomes_unique ⟨fresh, rfl⟩

theorem set_bound (fresh : name ≠ r.new) (value : r.Corresponds stage v v') :
    Forall₂ (r.Bound stage inside) (bindings.set name v)
      (bindings'.set (r.change inside name) v') :=
  related_iff_bound.mp ((related_iff_bound.mpr bound).set becomes_unique ⟨fresh, rfl⟩ value)

theorem ofArguments_bound {parameters : List String} {arguments arguments' : List Value}
    (fresh : r.new ∉ parameters) (given : Forall₂ (r.Corresponds stage) arguments arguments') :
    Forall₂ (r.Bound stage inside) (bindings.ofArguments parameters arguments)
      (bindings'.ofArguments (parameters.map (r.change inside)) arguments') := by
  have named : Forall₂ (r.Becomes inside) parameters (parameters.map (r.change inside)) := by
    rw [List.forall₂_map_right_iff, List.forall₂_same]
    exact fun parameter member => ⟨ne_of_mem_of_not_mem member fresh, rfl⟩
  exact related_iff_bound.mp ((related_iff_bound.mpr bound).ofArguments becomes_unique
    (.atom rfl) named given)

end Bindings

namespace Stores

variable {store store' : Store} {frame : FrameId} (stores : r.Stores stage store store')

include stores

theorem get? (fresh : name ≠ r.new) (side : stage.Side frame inside) :
    Option.Rel (r.Corresponds stage) (store.get? name frame)
      (store'.get? (r.change inside name) frame) :=
  get?_bound (stores.bindings frame inside side) fresh

theorem isSome_get? (fresh : name ≠ r.new) (side : stage.Side frame inside) :
    ((store.bindingsOf frame).get? name).isSome =
      ((store'.bindingsOf frame).get? (r.change inside name)).isSome :=
  (related_iff_bound.mpr (stores.bindings frame inside side)).isSome_get? becomes_unique
    ⟨fresh, rfl⟩

/-- A frame that does not bind a name and the frame around it agree on what becomes of the name. -/
theorem change_outward {outer : FrameId} {there : Bool} (side : stage.Side frame inside)
    (unbound : ¬ ((store.bindingsOf frame).get? name).isSome)
    (around : store.outerOf frame = some outer) (inner : outer < frame)
    (beyond : stage.Side outer there) : r.change there name = r.change inside name := by
  cases inside with
  | false => rw [beyond.unique (stores.outside frame outer side around inner)]
  | true =>
      -- The walk leaves the abstraction only from a frame that binds the parameter, and so only in
      -- search of another name.
      rcases stores.within frame side with bound | ⟨outer', around', -, side'⟩
      · have other : name ≠ r.old := by
          rintro rfl
          exact unbound bound
        rw [change_other other, change_other other]
      · obtain rfl : outer = outer' := Option.some.inj (around.symm.trans around')
        rw [beyond.unique side']

theorem find? (fresh : name ≠ r.new) (side : stage.Side frame inside) :
    Option.Rel (fun owner owner' => owner = owner' ∧ ∃ there, stage.Side owner there ∧
        r.change there name = r.change inside name)
      (store.find? name frame) (store'.find? (r.change inside name) frame) := by
  fun_induction store.find? name frame generalizing inside with
  | case1 frame bound =>
      rw [stores.isSome_get? fresh side] at bound
      rw [Store.find?, if_pos bound]
      exact .some ⟨rfl, inside, side, rfl⟩
  | case2 frame unbound outer around inner ih =>
      obtain ⟨there, beyond⟩ := Stage.side_of_lt (Nat.lt_trans inner side.lt)
      have same := stores.change_outward side unbound around inner beyond
      rw [stores.isSome_get? fresh side] at unbound
      rw [stores.outer] at around
      have further := ih beyond
      rw [same] at further
      conv =>
        arg 3
        rw [Store.find?]
      rw [if_neg unbound, around]
      simpa [inner] using further
  | case3 frame unbound outer around inner =>
      rw [stores.isSome_get? fresh side] at unbound
      rw [stores.outer] at around
      rw [Store.find?, if_neg unbound, around]
      simp [inner]
  | case4 frame unbound around =>
      rw [stores.isSome_get? fresh side] at unbound
      rw [stores.outer] at around
      rw [Store.find?, if_neg unbound, around]
      exact .none

theorem lookup? (fresh : name ≠ r.new) (side : stage.Side frame inside) :
    Option.Rel (r.Corresponds stage) (store.lookup? name frame)
      (store'.lookup? (r.change inside name) frame) := by
  have found := stores.find? fresh side
  unfold Store.lookup?
  generalize store.find? name frame = owner at found ⊢
  generalize store'.find? (r.change inside name) frame = owner' at found ⊢
  cases found with
  | none => exact .none
  | some same =>
      obtain ⟨rfl, there, side', change⟩ := same
      rw [← change]
      exact stores.get? fresh side'

theorem define (fresh : name ≠ r.new) (side : stage.Side frame inside)
    (value : r.Corresponds stage v v') :
    r.Stores stage (store.define frame name v) (store'.define frame (r.change inside name) v') where
  size := (store.size_define frame name v).trans stores.size
  size' := (store'.size_define frame (r.change inside name) v').trans stores.size'
  nextId := stores.nextId
  output := stores.output
  outer := by
    intro other
    rw [Store.outerOf_define, Store.outerOf_define]
    exact stores.outer other
  bindings := by
    intro other there side'
    have before := stores.bindings other there side'
    rw [Store.bindingsOf_define, Store.bindingsOf_define, stores.size, stores.size']
    split
    · rename_i here
      obtain ⟨rfl, -⟩ := here
      obtain rfl := side.unique side'
      exact set_bound before fresh value
    · exact before
  within := by
    intro other side'
    rw [Store.outerOf_define]
    refine (stores.within other side').imp_left fun bound => ?_
    rw [Store.bindingsOf_define]
    split
    · rw [Bindings.get?_set]
      split
      · rfl
      · exact bound
    · exact bound
  outside := by
    intro other outer side' around
    rw [Store.outerOf_define] at around
    exact stores.outside other outer side' around

theorem renumber {next next' : ObjectId} (same : next = next') :
    r.Stores stage { store with nextId := next } { store' with nextId := next' } :=
  ⟨stores.size, stores.size', same, stores.output, stores.outer, stores.bindings, stores.within,
    stores.outside⟩

theorem write {text text' : String} (transcripts : r.Transcripts stage (store.output ++ text)
    (store'.output ++ text')) : r.Stores stage (store.write text) (store'.write text') :=
  ⟨stores.size, stores.size', stores.nextId, transcripts, stores.outer, stores.bindings,
    stores.within, stores.outside⟩

/-- A call makes one another's counterparts of frames: inside of the abstraction if the procedure
was made there or is the abstraction itself. -/
theorem push {parameters : List String} {arguments arguments' : List Value} {captured : FrameId}
    (fresh : r.new ∉ parameters) (given : Forall₂ (r.Corresponds stage) arguments arguments')
    (origin : stage.Side captured inside ∨
      inside = true ∧ r.old ∈ parameters ∧ stage.Side captured false) :
    r.Stores (stage.enter inside)
      (store.push ⟨Bindings.ofArguments [] parameters arguments, some captured⟩).2
      (store'.push ⟨Bindings.ofArguments [] (parameters.map (r.change inside)) arguments',
        some captured⟩).2 where
  size := by simp [Stage.enter, stores.size]
  size' := by simp [Stage.enter, stores.size']
  nextId := stores.nextId
  output := stores.output.lasting (stage.le_enter inside)
  outer := by
    intro other
    rw [Store.outerOf_push, Store.outerOf_push, stores.size, stores.size', stores.outer]
  bindings := by
    intro other there side
    rw [Store.bindingsOf_push, Store.bindingsOf_push, stores.size, stores.size']
    have lasting : ∀ {inside' : Bool} {bindings bindings' : Bindings},
        Forall₂ (r.Bound stage inside') bindings bindings' →
          Forall₂ (r.Bound (stage.enter inside) inside') bindings bindings' :=
      fun bound => bound.imp fun _ _ => Bound.lasting (stage.le_enter inside)
    rcases Stage.enter_side side with ⟨rfl, rfl⟩ | before
    · rw [if_pos rfl, if_pos rfl]
      exact lasting (ofArguments_bound .nil fresh given)
    · rw [if_neg (Nat.ne_of_lt before.lt), if_neg (Nat.ne_of_lt before.lt)]
      exact lasting (stores.bindings other there before)
  within := by
    intro other side
    rw [Store.bindingsOf_push, Store.outerOf_push, stores.size]
    rcases Stage.enter_side side with ⟨rfl, rfl⟩ | before
    · rw [if_pos rfl, if_pos rfl]
      rcases origin with around | ⟨-, parameter, -⟩
      · exact .inr ⟨captured, rfl, around.lt, around.lasting (stage.le_enter _)⟩
      · exact .inl (Bindings.isSome_ofArguments r.old [] parameters arguments (.inl parameter))
    · rw [if_neg (Nat.ne_of_lt before.lt), if_neg (Nat.ne_of_lt before.lt)]
      refine (stores.within other before).imp_right ?_
      rintro ⟨outer, around, inner, side'⟩
      exact ⟨outer, around, inner, side'.lasting (stage.le_enter inside)⟩
  outside := by
    intro other outer side around inner
    rw [Store.outerOf_push, stores.size] at around
    rcases Stage.enter_side side with ⟨rfl, rfl⟩ | before
    · rw [if_pos rfl] at around
      obtain rfl := Option.some.inj around
      rcases origin with around | ⟨contrary, -⟩
      · exact around.lasting (stage.le_enter false)
      · cases contrary
    · rw [if_neg (Nat.ne_of_lt before.lt)] at around
      exact (stores.outside other outer before around inner).lasting (stage.le_enter inside)

end Stores

end Renaming

end MiniLisp
