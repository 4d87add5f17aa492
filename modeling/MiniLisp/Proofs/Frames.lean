import Mathlib.Data.List.Forall2
import MiniLisp.Store

namespace MiniLisp

open List (Forall₂)

namespace Bindings

theorem get?_set (name other : String) (value : Value) (bindings : Bindings) :
    (bindings.set name value).get? other =
      if other = name then some value else bindings.get? other := by
  induction bindings with
  | nil => grind [set, get?]
  | cons binding rest ih =>
      obtain ⟨bound, old⟩ := binding
      by_cases same : bound = name
      · grind [set, get?]
      · grind [set, get?]

theorem mem_of_get? {name : String} {value : Value} {bindings : Bindings}
    (bound : bindings.get? name = some value) : (name, value) ∈ bindings := by
  fun_induction get? name bindings with
  | case1 => cases bound
  | case2 _ rest =>
      cases bound
      exact List.mem_cons_self
  | case3 _ _ rest _ ih => exact List.mem_cons_of_mem _ (ih bound)

theorem mem_of_mem_set {name : String} {value : Value} {bindings : Bindings}
    {binding : String × Value} (member : binding ∈ bindings.set name value) :
    binding.2 = value ∨ binding ∈ bindings := by
  induction bindings with
  | nil => exact .inl (by rw [List.mem_singleton.mp member])
  | cons first rest ih =>
      rw [set] at member
      split at member <;> rcases List.mem_cons.mp member with rfl | member
      · exact .inl rfl
      · exact .inr (List.mem_cons_of_mem _ member)
      · exact .inr List.mem_cons_self
      · exact (ih member).imp_right (List.mem_cons_of_mem _)

theorem mem_of_mem_ofArguments {bindings : Bindings} {parameters : List String}
    {arguments : List Value} {binding : String × Value}
    (member : binding ∈ bindings.ofArguments parameters arguments) :
    binding.2 ∈ arguments ∨ binding.2 = .unbound ∨ binding ∈ bindings := by
  induction parameters generalizing bindings arguments with
  | nil => exact .inr (.inr member)
  | cons parameter parameters ih =>
      cases arguments with
      | nil =>
          rcases ih member with contrary | missing | member
          · cases contrary
          · exact .inr (.inl missing)
          · exact .inr (mem_of_mem_set member)
      | cons argument arguments =>
          rcases ih member with given | missing | member
          · exact .inl (List.mem_cons_of_mem argument given)
          · exact .inr (.inl missing)
          · rcases mem_of_mem_set member with given | member
            · exact .inl (given ▸ List.mem_cons_self)
            · exact .inr (.inr member)

theorem get?_ofArguments (name : String) (value : Value) (bindings : Bindings)
    (parameters : List String) (arguments : List Value)
    (bound : (bindings.ofArguments parameters arguments).get? name = some value) :
    value ∈ arguments ∨ (value = .unbound ∧ name ∈ parameters.drop arguments.length) ∨
      bindings.get? name = some value := by
  induction parameters generalizing bindings arguments with
  | nil => exact .inr (.inr bound)
  | cons parameter parameters ih =>
      cases arguments with
      | nil =>
          have := ih _ _ bound
          rw [get?_set] at this
          grind
      | cons argument arguments =>
          have := ih _ _ bound
          rw [get?_set] at this
          grind

theorem isSome_ofArguments (name : String) (bindings : Bindings) (parameters : List String)
    (arguments : List Value) (bound : name ∈ parameters ∨ (bindings.get? name).isSome) :
    ((bindings.ofArguments parameters arguments).get? name).isSome := by
  induction parameters generalizing bindings arguments with
  | nil => exact bound.resolve_left List.not_mem_nil
  | cons parameter parameters ih =>
      have set (value : Value) :
          name ∈ parameters ∨ ((bindings.set parameter value).get? name).isSome := by
        rw [get?_set]
        grind
      cases arguments with
      | nil => exact ih _ _ (set .unbound)
      | cons argument arguments => exact ih _ _ (set argument)

def Related (names : String → String → Prop) (values : Value → Value → Prop) :
    Bindings → Bindings → Prop :=
  Forall₂ fun binding binding' => names binding.1 binding'.1 ∧ values binding.2 binding'.2

namespace Related

variable {names : String → String → Prop} {values : Value → Value → Prop}
  {bindings bindings' : Bindings} {name name' : String} {value value' : Value}
  (unique : ∀ {a a' b b'}, names a a' → names b b' → (a' = b' ↔ a = b))
  (related : Related names values bindings bindings')

include unique related

theorem get? (named : names name name') :
    Option.Rel values (bindings.get? name) (bindings'.get? name') := by
  induction related with
  | nil => exact .none
  | @cons binding binding' _ _ first _ ih =>
      rw [Bindings.get?, Bindings.get?]
      simp only [unique first.1 named]
      split
      · exact .some first.2
      · exact ih

theorem isSome_get? (named : names name name') :
    (bindings.get? name).isSome = (bindings'.get? name').isSome := by
  have found := related.get? unique named
  generalize bindings.get? name = value at found ⊢
  generalize bindings'.get? name' = value' at found ⊢
  cases found <;> rfl

theorem set (named : names name name') (given : values value value') :
    Related names values (bindings.set name value) (bindings'.set name' value') := by
  induction related with
  | nil => exact .cons ⟨named, given⟩ .nil
  | @cons binding binding' _ _ first rest ih =>
      rw [Bindings.set, Bindings.set]
      simp only [unique first.1 named]
      split
      · exact .cons ⟨first.1, given⟩ rest
      · exact .cons first ih

theorem ofArguments {parameters parameters' : List String} {arguments arguments' : List Value}
    (unbound : values .unbound .unbound) (named : Forall₂ names parameters parameters')
    (given : Forall₂ values arguments arguments') :
    Related names values (bindings.ofArguments parameters arguments)
      (bindings'.ofArguments parameters' arguments') := by
  induction named generalizing bindings bindings' arguments arguments' with
  | nil => exact related
  | cons first _ ih =>
      cases given with
      | nil => exact ih (related.set unique first unbound) .nil
      | cons value values => exact ih (related.set unique first value) values

end Related

end Bindings

namespace Store

variable (store : Store)

@[simp] theorem size_define (frame : FrameId) (name : String) (value : Value) :
    (store.define frame name value).frames.size = store.frames.size := by
  simp [define]

theorem frames_define_ne {frame other : FrameId} (name : String) (value : Value)
    (apart : other ≠ frame) :
    (store.define frame name value).frames[other]? = store.frames[other]? := by
  simp [define, Array.getElem?_modify, apart.symm]

@[simp] theorem outerOf_define (frame other : FrameId) (name : String) (value : Value) :
    (store.define frame name value).outerOf other = store.outerOf other := by
  simp only [outerOf, define, Array.getElem?_modify]
  split
  · cases store.frames[other]? <;> rfl
  · rfl

theorem bindingsOf_define (frame other : FrameId) (name : String) (value : Value) :
    (store.define frame name value).bindingsOf other =
      if other = frame ∧ frame < store.frames.size then (store.bindingsOf other).set name value
      else store.bindingsOf other := by
  simp only [bindingsOf, define, Array.getElem?_modify]
  by_cases here : other = frame
  · subst other
    by_cases inside : frame < store.frames.size <;> simp [inside]
  · simp [here, Ne.symm here]

theorem get?_define (frame other : FrameId) (name sought : String) (value : Value) :
    (store.define frame name value).get? sought other =
      if other = frame ∧ sought = name ∧ frame < store.frames.size then some value
      else store.get? sought other := by
  simp only [get?, bindingsOf_define]
  split
  · grind [Bindings.get?_set]
  · grind

theorem lt_size_of_bound {name : String} {frame : FrameId} {value : Value}
    (bound : store.get? name frame = some value) : frame < store.frames.size := by
  refine Nat.lt_of_not_le fun outside => ?_
  rw [get?, bindingsOf, Array.getElem?_eq_none outside] at bound
  cases bound

@[simp] theorem size_push (frame : Frame) : (store.push frame).2.frames.size =
    store.frames.size + 1 := by
  simp [push]

theorem frames_push (frame : Frame) (other : FrameId) :
    (store.push frame).2.frames[other]? =
      if other = store.frames.size then some frame else store.frames[other]? := by
  simp only [push, Array.getElem?_push]

theorem outerOf_push (frame : Frame) (other : FrameId) :
    (store.push frame).2.outerOf other =
      if other = store.frames.size then frame.outer else store.outerOf other := by
  simp only [outerOf, frames_push]
  split <;> rfl

theorem bindingsOf_push (frame : Frame) (other : FrameId) :
    (store.push frame).2.bindingsOf other =
      if other = store.frames.size then frame.bindings else store.bindingsOf other := by
  simp only [bindingsOf, frames_push]
  by_cases last : other = store.frames.size <;> simp [last]

theorem get?_push (frame : Frame) (name : String) (other : FrameId) :
    (store.push frame).2.get? name other =
      if other = store.frames.size then frame.bindings.get? name else store.get? name other := by
  simp only [get?, bindingsOf_push]
  split <;> rfl

variable {store} {other : Store}

section Bound

variable {holds : String → Value → Prop}
  (before : ∀ frame name value, store.get? name frame = some value → holds name value)

include before

/-- What holds of every binding, and of one that is written, holds of every binding afterwards. -/
theorem bound_define {frame : FrameId} {name : String} {value : Value} (now : holds name value)
    (there : FrameId) (sought : String) (found : Value)
    (bound : (store.define frame name value).get? sought there = some found) :
    holds sought found := by
  rw [get?_define] at bound
  split at bound
  · rename_i here
    cases bound
    rw [here.2.1]
    exact now
  · exact before there sought found bound

theorem bound_push {captured : FrameId} {parameters : List String} {arguments : List Value}
    (given : ∀ argument ∈ arguments, ∀ name, holds name argument)
    (missing : ∀ name, holds name .unbound) (frame : FrameId) (name : String) (value : Value)
    (bound : (store.push ⟨Bindings.ofArguments [] parameters arguments, some captured⟩).2.get? name
      frame = some value) : holds name value := by
  rw [get?_push] at bound
  split at bound
  · rcases Bindings.get?_ofArguments name value [] parameters arguments bound with
      member | ⟨rfl, -⟩ | contrary
    · exact given value member name
    · exact missing name
    · cases contrary
  · exact before frame name value bound

end Bound

theorem find?_bound (name : String) (frame owner : FrameId)
    (found : store.find? name frame = some owner) : (store.get? name owner).isSome := by
  fun_induction store.find? name frame with
  | case1 frame bound =>
      cases found
      exact bound
  | case2 frame _ outer _ inner ih => exact ih found
  | case3 => contradiction
  | case4 => contradiction

/-- A walk outward stays in any set of frames that contains the frames around its own. -/
theorem find?_mem (frames : FrameId → Prop)
    (closed : ∀ frame outer, frames frame → store.outerOf frame = some outer → frames outer)
    (name : String) (frame owner : FrameId) (member : frames frame)
    (found : store.find? name frame = some owner) : frames owner := by
  fun_induction store.find? name frame with
  | case1 frame bound =>
      cases found
      exact member
  | case2 frame _ outer around inner ih => exact ih (closed frame outer member around) found
  | case3 => contradiction
  | case4 => contradiction

theorem bindingsOf_eq (frame : FrameId) (same : store.frames[frame]? = other.frames[frame]?) :
    store.bindingsOf frame = other.bindingsOf frame := by
  simp only [bindingsOf, same]

theorem outerOf_eq (frame : FrameId) (same : store.frames[frame]? = other.frames[frame]?) :
    store.outerOf frame = other.outerOf frame := by
  simp only [outerOf, same]

theorem find?_alike (frames : FrameId → Prop) (name : String)
    (bound : ∀ frame, frames frame → ((store.bindingsOf frame).get? name).isSome =
      ((other.bindingsOf frame).get? name).isSome)
    (around : ∀ frame, frames frame → store.outerOf frame = other.outerOf frame)
    (closed : ∀ frame outer, frames frame → store.outerOf frame = some outer → frames outer)
    (frame : FrameId) (member : frames frame) : store.find? name frame = other.find? name frame := by
  fun_induction store.find? name frame with
  | case1 frame found =>
      rw [bound frame member] at found
      rw [find?, if_pos found]
  | case2 frame unbound outer beyond inner ih =>
      rw [bound frame member] at unbound
      rw [ih (closed frame outer member beyond)]
      conv => rhs; rw [find?]
      rw [if_neg unbound, ← around frame member, beyond]
      simp [inner]
  | case3 frame unbound outer beyond inner =>
      rw [bound frame member] at unbound
      rw [find?, if_neg unbound, ← around frame member, beyond]
      simp [inner]
  | case4 frame unbound beyond =>
      rw [bound frame member] at unbound
      rw [find?, if_neg unbound, ← around frame member, beyond]

theorem find?_congr (frames : FrameId → Prop)
    (same : ∀ frame, frames frame → store.frames[frame]? = other.frames[frame]?)
    (closed : ∀ frame outer, frames frame → store.outerOf frame = some outer → frames outer)
    (name : String) (frame : FrameId) (member : frames frame) :
    store.find? name frame = other.find? name frame :=
  find?_alike frames name
    (fun frame member => by rw [bindingsOf_eq frame (same frame member)])
    (fun frame member => outerOf_eq frame (same frame member)) closed frame member

theorem get?_eq {frame : FrameId} (name : String)
    (same : store.frames[frame]? = other.frames[frame]?) :
    store.get? name frame = other.get? name frame := by
  rw [get?, get?, bindingsOf_eq frame same]

theorem lookup?_bound {name : String} {frame : FrameId} {value : Value}
    (found : store.lookup? name frame = some value) :
    ∃ owner, store.find? name frame = some owner ∧ store.get? name owner = some value :=
  Option.bind_eq_some_iff.mp found

theorem lookup?_congr (frames : FrameId → Prop)
    (same : ∀ frame, frames frame → store.frames[frame]? = other.frames[frame]?)
    (closed : ∀ frame outer, frames frame → store.outerOf frame = some outer → frames outer)
    (name : String) (frame : FrameId) (member : frames frame) :
    store.lookup? name frame = other.lookup? name frame := by
  unfold lookup?
  rw [← find?_congr frames same closed name frame member]
  cases found : store.find? name frame with
  | none => rfl
  | some owner =>
      exact get?_eq name (same owner (find?_mem frames closed name frame owner member found))

end Store

end MiniLisp
