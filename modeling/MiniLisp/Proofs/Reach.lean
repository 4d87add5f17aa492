import MiniLisp.Proofs.Frames
import MiniLisp.Session

namespace MiniLisp

def Value.items : Value → List Value
  | .list _ items => items
  | .tuple _ items => items
  | _ => []

def Value.Inherited (keeps : Value → Prop) : Prop :=
  ∀ value, keeps value → ∀ item ∈ value.items, keeps item

def Answer.parts : Answer → List Value
  | .given value => [value]
  | .list items => items
  | .tuple items => items
  | .scalar _ => []
  | .nothing => []

namespace Value

/-- A value is part of another: itself, an item of a part, or a constant in the body of a procedure
that is a part. -/
inductive Within (inner : Value) : Value → Prop
  | here : Within inner inner
  | list {id : ObjectId} {items : List Value} {item : Value} (member : item ∈ items)
      (deeper : Within inner item) : Within inner (.list id items)
  | tuple {id : ObjectId} {items : List Value} {item : Value} (member : item ∈ items)
      (deeper : Within inner item) : Within inner (.tuple id items)
  | body {id : ObjectId} {parameters : List String} {body : Value} {frame : FrameId}
      (deeper : Within inner body) : Within inner (.closure id parameters body frame)

def Captures (value : Value) (frame : FrameId) : Prop :=
  ∃ id parameters body, Within (.closure id parameters body frame) value

/-- The name is the target of an assignment in the code, quoted data apart. -/
inductive Assigns (name : String) : Value → Prop
  | here {id : ObjectId} {head expr : Value} (form : head.keyword? = some .assignment) :
      Assigns name (.list id [head, .symbol name, expr])
  | body {id : ObjectId} {head parameters body : Value}
      (form : head.keyword? = some .abstraction) (deeper : Assigns name body) :
      Assigns name (.list id [head, parameters, body])
  | inside {id : ObjectId} {head part : Value} {operands : List Value}
      (evaluated : head.keyword? ≠ some .quotation ∧ head.keyword? ≠ some .abstraction)
      (member : part ∈ head :: operands) (deeper : Assigns name part) :
      Assigns name (.list id (head :: operands))

/-- The name is the target of a definition in the code that is outside of procedures and quoted
data. -/
inductive Defines (name : String) : Value → Prop
  | here {id : ObjectId} {head expr : Value} (form : head.keyword? = some .definition) :
      Defines name (.list id [head, .symbol name, expr])
  | inside {id : ObjectId} {head part : Value} {operands : List Value}
      (evaluated : head.keyword? ≠ some .quotation ∧ head.keyword? ≠ some .abstraction)
      (member : part ∈ head :: operands) (deeper : Defines name part) :
      Defines name (.list id (head :: operands))

theorem within_trans {inner middle outer : Value} (first : Within inner middle)
    (second : Within middle outer) : Within inner outer := by
  induction second with
  | here => exact first
  | list member _ ih => exact .list member ih
  | tuple member _ ih => exact .tuple member ih
  | body _ ih => exact .body ih

theorem within_sequence {value part : Value} {kind : SequenceKind} {items : List Value}
    (sequence : value.sequence? = some (kind, items)) (within : Within part value) :
    part = value ∨ ∃ item ∈ items, Within part item := by
  cases within with
  | here => exact .inl rfl
  | list member deeper | tuple member deeper =>
      cases sequence
      exact .inr ⟨_, member, deeper⟩
  | body => cases sequence

theorem within_of_mem_items {value item : Value} (member : item ∈ value.items) :
    Within item value := by
  cases value with
  | list => exact .list member .here
  | tuple => exact .tuple member .here
  | _ => cases member

def isMade : Value → Bool
  | int _ | real _ | nan .. | complex .. | bool _ | list .. | tuple .. | nothing => true
  | symbol _ | unbound | closure .. | primitive _ => false

def isRead : Value → Bool
  | int _ | real _ | symbol _ | list .. => true
  | _ => false

def isStandard : Value → Bool
  | real _ | nan .. | bool _ | primitive _ => true
  | _ => false

theorem within_standard {inner value : Value} (standard : value.isStandard = true)
    (within : Within inner value) : inner.isStandard = true := by
  cases within with
  | here => exact standard
  | list | tuple | body => cases standard

theorem within_number {inner : Value} {next : ObjectId} {n : Number}
    (within : Within inner (n.toValue next).1) : inner.isMade := by
  rcases n with n | ⟨x | negative⟩ | ⟨re, im⟩ <;> cases within <;> rfl

/-- What is in the value of an answer was made for it, or is in one of the values that the answer
hands on. -/
theorem within_answer {inner : Value} {answer : Answer} {next : ObjectId}
    (within : Within inner (answer.toValue next).1) :
    inner.isMade ∨ ∃ part ∈ answer.parts, Within inner part := by
  cases answer with
  | scalar scalar =>
      cases scalar with
      | number n => exact .inl (within_number within)
      | truth b =>
          cases within
          exact .inl rfl
      | pair first second =>
          rcases within with _ | _ | ⟨member, deeper⟩
          · exact .inl rfl
          · simp only [List.mem_cons, List.not_mem_nil, or_false] at member
            rcases member with rfl | rfl <;> exact .inl (within_number deeper)
  | nothing =>
      cases within
      exact .inl rfl
  | given value => exact .inr ⟨value, List.mem_singleton_self value, within⟩
  | list items =>
      rcases within with _ | ⟨member, deeper⟩
      · exact .inl rfl
      · exact .inr ⟨_, member, deeper⟩
  | tuple items =>
      cases items with
      | nil =>
          rcases within with _ | _ | ⟨member, deeper⟩
          · exact .inl rfl
          · cases member
      | cons item items =>
          rcases within with _ | _ | ⟨member, deeper⟩
          · exact .inl rfl
          · exact .inr ⟨_, member, deeper⟩

end Value

theorem standardBindings_hold {holds : Value → Prop} (real : ∀ x, holds (.real x))
    (nan : holds (.nan Value.sharedNaN false)) (bool : ∀ b, holds (.bool b))
    (primitive : ∀ p, holds (.primitive p)) : ∀ binding ∈ standardBindings, holds binding.2 := by
  have library : ∀ binding ∈ libraryBindings, holds binding.2 := by
    intro binding member
    simp only [libraryBindings, List.mem_append, List.mem_map, List.mem_cons, List.not_mem_nil,
      or_false] at member
    rcases member with (⟨_, -, rfl⟩ | rfl | rfl | rfl | rfl | rfl) | ⟨_, -, rfl⟩
    · exact primitive _
    · exact real _
    · exact real _
    · exact real _
    · exact real _
    · exact nan
    · exact primitive _
  have language : ∀ binding ∈ languageBindings, holds binding.2 := by
    intro binding member
    simp only [languageBindings, List.mem_append, List.mem_map, List.mem_cons, List.not_mem_nil,
      or_false] at member
    rcases member with ⟨_, -, rfl⟩ | rfl | rfl | rfl
    · exact primitive _
    · exact real _
    · exact bool true
    · exact bool false
  unfold standardBindings
  generalize languageBindings = added at language
  generalize libraryBindings = bindings at library
  induction added generalizing bindings with
  | nil => exact library
  | cons first rest ih =>
      refine ih (fun binding member => language binding (List.mem_cons_of_mem first member)) _ ?_
      intro binding member
      rcases Bindings.mem_of_mem_set member with same | member
      · exact same ▸ language first List.mem_cons_self
      · exact library binding member

theorem standardBindings_standard : ∀ binding ∈ standardBindings, binding.2.isStandard = true :=
  @standardBindings_hold (·.isStandard = true) (fun _ => rfl) rfl (fun _ => rfl) fun _ => rfl

mutual

theorem within_code {inner : Value} : ∀ (expr : Expr) (next : ObjectId),
    Value.Within inner (expr.toValue next).1 → inner.isRead
  | .int _, _, within => by
      rw [Expr.toValue] at within
      cases within
      rfl
  | .real _, _, within => by
      rw [Expr.toValue] at within
      cases within
      rfl
  | .symbol _, _, within => by
      rw [Expr.toValue] at within
      cases within
      rfl
  | .list items, next, within => by
      rw [Expr.toValue] at within
      rcases within with _ | ⟨member, deeper⟩
      · rfl
      · exact within_codes items next _ member deeper

theorem within_codes {inner : Value} : ∀ (exprs : List Expr) (next : ObjectId),
    ∀ value ∈ (Expr.toValues next exprs).1, Value.Within inner value → inner.isRead
  | [], _, value, member, _ => by
      rw [Expr.toValues] at member
      cases member
  | expr :: exprs, next, value, member, within => by
      rw [Expr.toValues] at member
      rcases List.mem_cons.mp member with rfl | member
      · exact within_code expr next within
      · exact within_codes exprs _ value member within

end

theorem Session.bindingsOf_start {frame : FrameId} {binding : String × Value}
    (member : binding ∈ start.store.bindingsOf frame) : binding ∈ standardBindings := by
  change binding ∈ (Store.empty.push ⟨standardBindings, none⟩).2.bindingsOf frame at member
  rw [Store.bindingsOf_push] at member
  split at member
  · exact member
  · cases member

namespace Value

def Procedures (holds : List String → Value → FrameId → Prop) (value : Value) : Prop :=
  ∀ id parameters body frame, Within (.closure id parameters body frame) value →
    holds parameters body frame

namespace Procedures

variable {holds : List String → Value → FrameId → Prop} {value inner : Value}

theorem within (procedures : value.Procedures holds) (within : Within inner value) :
    inner.Procedures holds :=
  fun id parameters body frame deeper =>
    procedures id parameters body frame (within_trans deeper within)

theorem mono {holds' : List String → Value → FrameId → Prop} (procedures : value.Procedures holds)
    (weaker : ∀ parameters body frame, holds parameters body frame → holds' parameters body frame) :
    value.Procedures holds' :=
  fun id parameters body frame within =>
    weaker parameters body frame (procedures id parameters body frame within)

theorem items : Inherited (Procedures holds) :=
  fun _ procedures _ member => procedures.within (within_of_mem_items member)

theorem closure {parameters : List String} {body : Value} {frame : FrameId} (id : ObjectId)
    (own : holds parameters body frame) (inside : body.Procedures holds) :
    (Value.closure id parameters body frame).Procedures holds := by
  rintro id' parameters' body' frame' (_ | _ | _ | deeper)
  · exact own
  · exact inside id' parameters' body' frame' deeper

theorem answer {answer : Answer} (next : ObjectId)
    (procedures : ∀ part ∈ answer.parts, part.Procedures holds) :
    (answer.toValue next).1.Procedures holds := by
  intro id parameters body frame within
  obtain ⟨part, member, deeper⟩ := (within_answer within).resolve_left Bool.false_ne_true
  exact procedures part member id parameters body frame deeper

theorem code (expr : Expr) (next : ObjectId) : (expr.toValue next).1.Procedures holds := by
  intro id parameters body frame within
  cases within_code expr next within

theorem start {name : String} {frame : FrameId}
    (bound : Session.start.store.get? name frame = some value) : value.Procedures holds := by
  have standard := standardBindings_standard _
    (Session.bindingsOf_start (Bindings.mem_of_get? bound))
  intro id parameters body frame within
  cases within_standard standard within

end Procedures

end Value

namespace Store

/-- The frames that can be got at from an environment. -/
inductive Reaches (store : Store) (env : FrameId) : FrameId → Prop
  | here : Reaches store env env
  | outer {frame outer : FrameId} (inner : Reaches store env frame)
      (around : store.outerOf frame = some outer) : Reaches store env outer
  | captured {frame captured : FrameId} {name : String} {value : Value}
      (holder : Reaches store env frame) (bound : store.get? name frame = some value)
      (held : value.Captures captured) : Reaches store env captured

def ReachesBody (store : Store) (env : FrameId) (body : Value) : Prop :=
  ∃ frame name value id parameters captured, store.Reaches env frame ∧
    store.get? name frame = some value ∧
    Value.Within (.closure id parameters body captured) value

structure AgreesOn (frames : FrameId → Prop) (store other : Store) : Prop where
  size : store.frames.size = other.frames.size
  nextId : store.nextId = other.nextId
  output : store.output = other.output
  same : ∀ frame, frames frame → store.frames[frame]? = other.frames[frame]?

def Created (store after : Store) (frame : FrameId) : Prop :=
  store.frames.size ≤ frame ∧ frame < after.frames.size

end Store

end MiniLisp
