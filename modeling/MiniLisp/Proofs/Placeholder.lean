import MiniLisp.Proofs.Reach
import MiniLisp.Proofs.Watch

/-!
The placeholder for missing arguments. A parameter that got no argument is bound to it until it is
defined or assigned, and nowhere else does it turn up: not as a value that is handed around and not
inside of one.
-/

namespace MiniLisp

def Value.Whole (value : Value) : Prop := ¬ Within .unbound value

/-- The frame was made for a call that gave the parameter no argument, and the parameter has not been
defined or assigned there since. -/
def Deprived (history : List Event) (frame : FrameId) (name : String) : Prop :=
  ∃ later earlier id parameters body captured arguments,
    history = later ++ .entered frame (.closure id parameters body captured) arguments :: earlier ∧
    name ∈ parameters.drop arguments.length ∧ ∀ value, .bound frame name value ∉ later

/-- Only parameters without an argument have the placeholder, and nothing else ever had it. -/
structure Chronicle.Contained (chronicle : Chronicle) : Prop where
  events : ∀ event ∈ chronicle.history, event.Allowed Value.Whole Value.Whole
  bindings : ∀ frame name value, chronicle.store.get? name frame = some value →
    value.Whole ∨ value = .unbound ∧ Deprived chronicle.history frame name

theorem Value.whole_items : Value.Inherited Value.Whole :=
  fun _ whole _ member within => whole (within_trans within (within_of_mem_items member))

theorem Value.whole_of_within {inner value : Value} (whole : value.Whole)
    (within : Within inner value) : inner.Whole :=
  fun deeper => whole (within_trans deeper within)

theorem Deprived.later {history : List Event} {frame : FrameId} {name : String} {event : Event}
    (deprived : Deprived history frame name) (other : ∀ value, event ≠ .bound frame name value) :
    Deprived (event :: history) frame name := by
  obtain ⟨later, earlier, id, parameters, body, captured, arguments, rfl, missing, unwritten⟩ :=
    deprived
  refine ⟨event :: later, earlier, id, parameters, body, captured, arguments, rfl, missing, ?_⟩
  intro value member
  rcases List.mem_cons.mp member with same | member
  · exact other value same.symm
  · exact unwritten value member

namespace Chronicle.Contained

variable {chronicle : Chronicle}

theorem note {event : Event} (contained : chronicle.Contained)
    (allowed : event.Allowed Value.Whole Value.Whole)
    (unbinding : ∀ frame name value, event ≠ .bound frame name value) :
    Contained { chronicle with history := event :: chronicle.history } where
  events := List.forall_mem_cons.mpr ⟨allowed, contained.events⟩
  bindings := by
    intro frame name value bound
    refine (contained.bindings frame name value bound).imp_right (And.imp_right fun deprived => ?_)
    exact deprived.later (unbinding frame name)

theorem define {frame : FrameId} {name : String} {value : Value} (contained : chronicle.Contained)
    (whole : value.Whole) :
    Contained ⟨chronicle.store.define frame name value,
      .bound frame name value :: chronicle.history⟩ where
  events := List.forall_mem_cons.mpr ⟨whole, contained.events⟩
  bindings := by
    intro there sought found bound
    rw [Store.get?_define] at bound
    split at bound
    · cases bound
      exact .inl whole
    · rename_i elsewhere
      have before := contained.bindings there sought found bound
      refine before.imp_right (And.imp_right fun deprived => deprived.later ?_)
      intro _ same
      cases same
      exact elsewhere ⟨rfl, rfl, Store.lt_size_of_bound _ bound⟩

theorem enter {id : ObjectId} {parameters : List String} {body : Value} {captured : FrameId}
    {arguments : List Value} (contained : chronicle.Contained)
    (whole : (Value.closure id parameters body captured).Whole)
    (given : ∀ argument ∈ arguments, argument.Whole) :
    Contained
      ⟨(chronicle.store.push ⟨Bindings.ofArguments [] parameters arguments, some captured⟩).2,
        .entered chronicle.store.frames.size (.closure id parameters body captured) arguments ::
          chronicle.history⟩ where
  events := List.forall_mem_cons.mpr ⟨⟨whole, given⟩, contained.events⟩
  bindings := by
    intro frame name value bound
    rw [Store.get?_push] at bound
    split at bound
    · rename_i new
      subst new
      rcases Bindings.get?_ofArguments name value [] parameters arguments bound with
        member | ⟨rfl, missing⟩ | contrary
      · exact .inl (given value member)
      · exact .inr ⟨rfl, [], chronicle.history, id, parameters, body, captured, arguments, rfl,
          missing, fun _ => List.not_mem_nil⟩
      · cases contrary
    · refine (contained.bindings frame name value bound).imp_right ?_
      exact And.imp_right fun deprived => deprived.later fun _ => nofun

end Chronicle.Contained

def placeholderWatch : Watch where
  sound := Chronicle.Contained
  value := Value.Whole
  code := Value.Whole
  nothing := nofun
  items := Value.whole_items
  parts := Value.whole_items
  datum := id
  closure := by
    rintro list head list' names body id frame whole - (_ | _ | _ | deeper)
    exact whole (.list (by simp) deeper)
  body := fun whole => Value.whole_of_within whole (.body .here)
  answer := by
    intro answer next whole within
    obtain ⟨part, member, deeper⟩ := (Value.within_answer within).resolve_left nofun
    exact whole part member deeper
  read := fun contained bound assigned =>
    (contained.bindings _ _ _ bound).resolve_right fun placeholder => assigned placeholder.1
  begun := fun contained whole => contained.note whole nofun
  applied := fun contained whole given => contained.note ⟨whole, given⟩ nofun
  gave := fun contained whole => contained.note whole nofun
  define := Chronicle.Contained.define
  enter := Chronicle.Contained.enter
  renumber := fun _ contained => ⟨contained.events, contained.bindings⟩
  print := fun _ contained => ⟨contained.events, contained.bindings⟩

theorem start_contained : Chronicle.Contained ⟨Session.start.store, []⟩ where
  events := nofun
  bindings := by
    intro frame name value bound
    have standard := standardBindings_standard _
      (Session.bindingsOf_start (Bindings.mem_of_get? bound))
    exact .inl fun within => nomatch Value.within_standard standard within

theorem placeholderWatch_reads : placeholderWatch.Reads :=
  fun _ _ within => nomatch within_code _ _ within

theorem evaluateAll_contained (frame : FrameId) (lines : List (Nat × String))
    {chronicle : Chronicle} (contained : chronicle.Contained) :
    (Recorded.evaluateAll frame lines chronicle).2.Contained ∧
      ∀ value, .ok value ∈ (Recorded.evaluateAll frame lines chronicle).1 → value.Whole :=
  placeholderWatch.evaluateAll_keeps placeholderWatch_reads frame lines contained

/-- Whatever lines are given to a session: no result of a line, and no value that was evaluated,
given to a procedure, given by one or bound by a form on the way, is the placeholder or has it
inside; and a frame binds a name to a value with the placeholder in it only if the value is the
placeholder itself and the name is a parameter that got no argument and has not been written since. -/
theorem placeholder_contained (lines : List (Nat × String)) :
    let run := Recorded.evaluateAll Session.start.global lines ⟨Session.start.store, []⟩
    Session.start.evaluateAll lines = (run.1, ⟨run.2.store, Session.start.global⟩) ∧
      (∀ value, .ok value ∈ run.1 → value.Whole) ∧
      (∀ event ∈ run.2.history, event.Allowed Value.Whole Value.Whole) ∧
      ∀ frame name value, run.2.store.get? name frame = some value →
        value.Whole ∨ value = .unbound ∧ Deprived run.2.history frame name := by
  intro run
  obtain ⟨contained, whole⟩ := evaluateAll_contained Session.start.global lines start_contained
  exact ⟨Session.start.evaluateAll_recorded lines [], whole, contained.events, contained.bindings⟩

end MiniLisp
