import MiniLisp.Proofs.Objects
import MiniLisp.Proofs.Underway
import MiniLisp.Proofs.Verdicts

/-!
How events follow one another. A history tells for every moment what is under way, which values that
has been given, and what the frames are; and with it where the values come from that are given,
bound or handed to a procedure. A list that is made is none that was there before.
-/

namespace MiniLisp

open List (Forall₂)

def GaveAt (moment : List Event) (value : Value) : Prop :=
  ∃ earlier, moment = .gave value :: earlier

/-- Something under way: the moment at which it began, and those at which it has been given values
since. -/
structure Undertaking where
  start : List Event
  given : List (List Event)

def give (moment : List Event) : List Undertaking → List Undertaking
  | [] => []
  | ⟨start, given⟩ :: around => ⟨start, given ++ [moment]⟩ :: around

/-- What is under way, innermost first. -/
def pending : List Event → List Undertaking
  | [] => []
  | .gave value :: earlier => give (.gave value :: earlier) (pending earlier).tail
  | .entered .. :: earlier | .bound .. :: earlier => pending earlier
  | beginning :: earlier => ⟨beginning :: earlier, []⟩ :: pending earlier

/-- The frames as the events have left them. -/
def recalled : List Event → Store
  | [] => Session.start.store
  | .entered _ (.closure _ parameters _ captured) arguments :: earlier =>
    ((recalled earlier).push ⟨Bindings.ofArguments [] parameters arguments, some captured⟩).2
  | .bound frame name value :: earlier => (recalled earlier).define frame name value
  | _ :: earlier => recalled earlier

/-- The value was there at the moment: it is part of what an event was about, or of what a name was
bound to. -/
def Existed (moment : List Event) (value : Value) : Prop :=
  ∃ whole, Value.Within value whole ∧ ((∃ event ∈ moment, whole ∈ event.values) ∨
    ∃ frame name, (recalled moment).get? name frame = some whole)

def Primitive.makesLists : Primitive → Bool
  | .operation .cons | .operation .cdr | .operation .append | .operation .list => true
  | .operation .add | .operation .multiply => true
  | .map => true
  | _ => false

/-- What the value is that something gives, by how it began. -/
def Yields (earlier : List Event) (value : Value) : Event → Prop
  | .evaluated (.symbol name) frame =>
    value ≠ .unbound ∧ (recalled earlier).lookup? name frame = some value
  | .evaluated (.list _ (head :: operands)) _ =>
    (head.keyword? = some .quotation → operands = [value]) ∧
      (head.keyword? = none → GaveAt earlier value)
  | .applied (.closure ..) _ => GaveAt earlier value
  | .applied (.primitive p) arguments =>
    (p = .operation .car → ∃ id rest, arguments = [.list id (value :: rest)]) ∧
      (p = .operation .begin → arguments.getLast?.getD .nothing = value) ∧
      (p = .apply → GaveAt earlier value) ∧
      (p.makesLists = true → value.isList = true →
        ∀ old, Existed earlier old → Value.identical value old = false)
  | _ => True

/-- What is applied within something that is under way is what that was given, or an item of it. -/
def Undertaking.Passes (procedure : Value) (arguments : List Value) : Undertaking → Prop
  | ⟨.evaluated (.list _ (head :: _)) _ :: _, given⟩ =>
    head.keyword? = none ∧ Forall₂ GaveAt given (procedure :: arguments)
  | ⟨.applied (.primitive .apply) passed :: _, _⟩ => ∃ id, passed = [procedure, .list id arguments]
  | ⟨.applied (.primitive .map) passed :: _, given⟩ => ∃ id items item,
    passed = [procedure, .list id items] ∧ items[given.length]? = some item ∧ arguments = [item]
  | _ => False

def Follows : Event → List Event → Prop
  | .gave value, earlier => ∃ event before given around,
    pending earlier = ⟨event :: before, given⟩ :: around ∧ Yields earlier value event
  | .applied procedure arguments, earlier =>
    ∃ call around, pending earlier = call :: around ∧ call.Passes procedure arguments
  | .entered frame procedure arguments, earlier =>
    frame = (recalled earlier).frames.size ∧
      ∃ before, earlier = .applied procedure arguments :: before
  | .bound _ _ value, earlier => GaveAt earlier value
  | .evaluated .., _ => True

def Lawful : List Event → Prop
  | [] => True
  | event :: earlier => Follows event earlier ∧ Lawful earlier

theorem Lawful.suffix {history earlier : List Event} (lawful : Lawful history)
    (older : earlier <:+ history) : Lawful earlier := by
  induction history with
  | nil =>
      obtain rfl := List.suffix_nil.mp older
      trivial
  | cons newest history ih =>
      rcases List.suffix_cons_iff.mp older with rfl | older
      · exact lawful
      · exact ih lawful.2 older

namespace Value

def Known (next : ObjectId) (value : Value) : Prop := ∀ id, value.HoldsList id → id < next

variable {value part : Value} {next later : ObjectId}

theorem Known.mono (known : value.Known next) (grown : next ≤ later) : value.Known later :=
  fun id held => Nat.lt_of_lt_of_le (known id held) grown

theorem Known.within (known : value.Known next) (within : Within part value) : part.Known next :=
  fun id ⟨items, deeper⟩ => known id ⟨items, within_trans deeper within⟩

theorem Known.items : Inherited (Known next) :=
  fun _ known _ member => known.within (within_of_mem_items member)

theorem Known.operand {id : ObjectId} {items : List Value} (known : (list id items).Known next)
    (member : value ∈ items) : value.Known next :=
  known.within (.list member .here)

theorem known_of_standard (standard : value.isStandard = true) : value.Known next := by
  rintro id ⟨items, within⟩
  cases within_standard standard within

theorem known_nothing : Known next .nothing := by
  rintro id ⟨items, ⟨⟩⟩

theorem known_unbound : Known next .unbound := by
  rintro id ⟨items, ⟨⟩⟩

theorem known_code (expr : Expr) (next : ObjectId) :
    (expr.toValue next).1.Known (expr.toValue next).2 :=
  fun _ held => (id_of_toValue held).2

theorem known_closure {body : Value} (known : body.Known next) (id : ObjectId)
    (parameters : List String) (frame : FrameId) :
    (closure id parameters body frame).Known next := by
  rintro id ⟨items, within⟩
  cases within with
  | body deeper => exact known id ⟨items, deeper⟩

theorem known_list {items : List Value} (each : ∀ item ∈ items, item.Known next) :
    (list next items).Known (next + 1) := by
  rintro id ⟨inner, within⟩
  cases within with
  | here => exact Nat.lt_succ_self next
  | list member deeper => exact Nat.lt_succ_of_lt (each _ member id ⟨inner, deeper⟩)

theorem known_tuple {items : List Value} (each : ∀ item ∈ items, item.Known next) (id : ObjectId) :
    (tuple id items).Known next := by
  rintro id ⟨inner, within⟩
  cases within with
  | tuple member deeper => exact each _ member id ⟨inner, deeper⟩

theorem known_number (n : Number) (first : ObjectId) : (n.toValue first).1.Known next := by
  rintro id ⟨items, within⟩
  rcases n with n | ⟨x | negative⟩ | ⟨re, im⟩ <;> cases within

theorem known_answer {answer : Answer} (each : ∀ part ∈ answer.parts, part.Known next) :
    (answer.toValue next).1.Known (answer.toValue next).2 := by
  cases answer with
  | scalar scalar =>
      cases scalar with
      | number n => exact known_number n next
      | truth b =>
          rintro id ⟨items, ⟨⟩⟩
      | pair first second =>
          refine known_tuple (fun item member => ?_) _
          rcases List.mem_pair.mp member with rfl | rfl <;> exact known_number _ _
  | nothing => exact known_nothing
  | given value => exact each value (List.mem_singleton_self value)
  | list items => exact known_list each
  | tuple items =>
      cases items with
      | nil => exact known_tuple (fun item member => by cases member) _
      | cons item items =>
          exact (known_tuple each next).mono (Nat.le_succ next)

end Value

structure Chronicle.Accounted (chronicle : Chronicle) : Prop where
  lawful : Lawful chronicle.history
  frames : chronicle.store.frames = (recalled chronicle.history).frames
  events : ∀ event ∈ chronicle.history, ∀ v ∈ event.values, v.Known chronicle.store.nextId
  bindings : ∀ frame name v, chronicle.store.get? name frame = some v →
    v.Known chronicle.store.nextId

namespace Store

variable {store other : Store}

theorem get?_of_frames (same : store.frames = other.frames) : store.get? = other.get? := by
  funext name frame
  exact get?_eq name (by rw [same])

theorem lookup?_of_frames (same : store.frames = other.frames) (name : String) (frame : FrameId) :
    store.lookup? name frame = other.lookup? name frame :=
  lookup?_congr (fun _ => True) (fun _ _ => by rw [same]) (fun _ _ _ _ => trivial) name frame
    trivial

end Store

namespace Chronicle.Accounted

variable {chronicle : Chronicle} {v : Value}

theorem moved (accounted : chronicle.Accounted) {store : Store}
    (same : store.frames = chronicle.store.frames) (grown : chronicle.store.nextId ≤ store.nextId) :
    Accounted ⟨store, chronicle.history⟩ where
  lawful := accounted.lawful
  frames := same.trans accounted.frames
  events := fun event member v among => (accounted.events event member v among).mono grown
  bindings := fun frame name v bound => by
    have bound : store.get? name frame = some v := bound
    rw [Store.get?_of_frames same] at bound
    exact (accounted.bindings frame name v bound).mono grown

theorem note (accounted : chronicle.Accounted) {event : Event}
    (follows : Follows event chronicle.history)
    (known : ∀ v ∈ event.values, v.Known chronicle.store.nextId)
    (same : recalled (event :: chronicle.history) = recalled chronicle.history) :
    Accounted { chronicle with history := event :: chronicle.history } where
  lawful := ⟨follows, accounted.lawful⟩
  frames := by rw [same]; exact accounted.frames
  events := List.forall_mem_cons.mpr ⟨known, accounted.events⟩
  bindings := accounted.bindings

theorem define (accounted : chronicle.Accounted) (frame : FrameId) (name : String)
    (gave : GaveAt chronicle.history v) (known : v.Known chronicle.store.nextId) :
    Accounted ⟨chronicle.store.define frame name v, .bound frame name v :: chronicle.history⟩ where
  lawful := ⟨gave, accounted.lawful⟩
  frames := by
    rw [recalled, Store.define, Store.define, accounted.frames]
  events := List.forall_mem_cons.mpr
    ⟨fun _ member => List.mem_singleton.mp member ▸ known, accounted.events⟩
  bindings := Store.bound_define accounted.bindings known

theorem enter (accounted : chronicle.Accounted) {before : List Event} {id : ObjectId}
    {parameters : List String} {body : Value} {captured : FrameId} {arguments : List Value}
    (begun : chronicle.history =
      .applied (.closure id parameters body captured) arguments :: before) :
    Accounted
      ⟨(chronicle.store.push ⟨Bindings.ofArguments [] parameters arguments, some captured⟩).2,
        .entered chronicle.store.frames.size (.closure id parameters body captured) arguments ::
          chronicle.history⟩ where
  lawful := ⟨⟨by rw [accounted.frames], before, begun⟩, accounted.lawful⟩
  frames := by
    rw [recalled, Store.push, Store.push, accounted.frames]
  events := by
    have known := accounted.events (.applied (.closure id parameters body captured) arguments)
      (by rw [begun]; exact List.mem_cons_self)
    exact List.forall_mem_cons.mpr ⟨known, accounted.events⟩
  bindings := by
    have known := accounted.events (.applied (.closure id parameters body captured) arguments)
      (by rw [begun]; exact List.mem_cons_self)
    exact Store.bound_push accounted.bindings
      (fun v member _ => known v (List.mem_cons_of_mem _ member)) fun _ => Value.known_unbound

theorem unlike_of_existed (accounted : chronicle.Accounted) {old : Value}
    (existed : Existed chronicle.history old) {id : ObjectId} (free : chronicle.store.nextId ≤ id)
    (items : List Value) : Value.identical (.list id items) old = false := by
  have known : old.Known chronicle.store.nextId := by
    obtain ⟨whole, within, ⟨event, member, among⟩ | ⟨frame, name, bound⟩⟩ := existed
    · exact (accounted.events event member whole among).within within
    · rw [← Store.get?_of_frames accounted.frames] at bound
      exact (accounted.bindings frame name whole bound).within within
  cases old with
  | list id' items' =>
      have older := known id' ⟨items', .here⟩
      exact decide_eq_false fun same => Nat.not_lt_of_le free (same ▸ older)
  | _ => rfl

end Chronicle.Accounted

section Answers

variable {depth : Nat} {arguments : List Value} {answer : Answer} {operation : Operation}

def Answer.IsNew (answer : Answer) : Prop :=
  (∃ items, answer = .list items) ∨ ∀ next, (answer.toValue next).1.isList = false

theorem isNew_number (n : Number) : (Answer.number n).IsNew := by
  refine .inr fun next => ?_
  rcases n with n | ⟨x | negative⟩ | ⟨re, im⟩ <;> rfl

theorem isNew_tuple (items : List Value) : (Answer.tuple items).IsNew := by
  refine .inr fun next => ?_
  cases items <;> rfl

theorem isNew_calculate {operator : String} {compute : Number → Number → Except Rejection Number}
    {a b : Value} (answered : Value.calculate operator compute a b = .ok answer) :
    answer.IsNew := by
  unfold Value.calculate at answered
  split at answered
  · obtain ⟨n, -, rfl⟩ := ok_of_map answered
    exact isNew_number n
  · cases answered

theorem isNew_add {a b : Value} (answered : Value.add a b = .ok answer) : answer.IsNew := by
  unfold Value.add at answered
  split at answered
  · cases answered
    exact .inl ⟨_, rfl⟩
  · cases answered
    unfold Value.concatenateTuples
    split
    · exact .inr fun _ => rfl
    · split
      · exact .inr fun _ => rfl
      · exact isNew_tuple _
  · cases answered
  · cases answered
  · exact isNew_calculate answered

theorem isNew_repeated {sequence times : Value} {kind : SequenceKind} {items : List Value}
    (shape : sequence.sequence? = some (kind, items))
    (answered : Value.repeated sequence times kind items = .ok answer) : answer.IsNew := by
  unfold Value.repeated at answered
  split at answered
  · cases answered
  · split at answered
    · cases answered
    · split at answered
      · cases answered
      · split at answered
        · cases answered
          exact .inl ⟨_, rfl⟩
        · split at answered
          · cases answered
            cases sequence <;> cases shape
            exact .inr fun _ => rfl
          · cases answered
            exact isNew_tuple _

theorem isNew_multiply {a b : Value} (answered : Value.multiply a b = .ok answer) :
    answer.IsNew := by
  unfold Value.multiply at answered
  split at answered
  · rename_i shape
    exact isNew_repeated shape answered
  · rename_i shape
    exact isNew_repeated shape answered
  · exact isNew_calculate (ok_of_mapError answered)

theorem isNew_append {a b : Value} (answered : Value.append a b = .ok answer) : answer.IsNew := by
  unfold Value.append at answered
  split at answered
  · cases answered
    exact .inl ⟨_, rfl⟩
  · cases answered

theorem not_ok_of_refuse {α : Type} {sentence : String} {value : Value} {x : α} :
    Value.refuse depth sentence value ≠ .ok x := by
  unfold Value.refuse
  cases value.text .plain depth <;> nofun

theorem isNew_cdr {x : Value} (answered : Value.cdr depth x = .ok answer) : answer.IsNew := by
  unfold Value.cdr at answered
  split at answered
  · cases answered
    exact .inl ⟨_, rfl⟩
  · exact absurd answered not_ok_of_refuse

theorem isNew_cons {first rest : Value} (answered : Value.cons depth first rest = .ok answer) :
    answer.IsNew := by
  unfold Value.cons at answered
  split at answered
  · cases answered
    exact .inl ⟨_, rfl⟩
  · exact absurd answered not_ok_of_refuse

theorem isNew_of_maker (maker : Primitive.makesLists (.operation operation) = true)
    (answered : operation.answer depth arguments = .ok answer) : answer.IsNew := by
  unfold Operation.answer at answered
  split at answered
  case h_1 => exact isNew_add (ok_of_mapError answered)
  case h_3 => exact isNew_multiply answered
  case h_11 => exact isNew_append answered
  case h_14 => exact isNew_cdr answered
  case h_15 => exact isNew_cons answered
  case h_19 =>
    cases answered
    exact .inl ⟨_, rfl⟩
  -- The others make no lists, or the arguments do not fit the parameters.
  all_goals first | cases maker | cases answered

end Answers

end MiniLisp
