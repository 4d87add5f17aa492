import Mathlib.Order.Nat
import MiniLisp.Proofs.Discipline
import MiniLisp.Proofs.Reach

namespace MiniLisp

def Value.CapturesBelow (value : Value) (count : Nat) : Prop :=
  ∀ frame, value.Captures frame → frame < count

def Store.Closed (store : Store) : Prop :=
  ∀ frame, ∀ binding ∈ store.bindingsOf frame, binding.2.CapturesBelow store.frames.size

namespace Value

variable {value inner : Value} {count later : Nat}

theorem CapturesBelow.lasting (passed : count ≤ later) (below : value.CapturesBelow count) :
    value.CapturesBelow later :=
  fun frame captured => Nat.lt_of_lt_of_le (below frame captured) passed

theorem capturesBelow_iff :
    value.CapturesBelow count ↔ value.Procedures fun _ _ frame => frame < count := by
  constructor
  · intro below id parameters body frame within
    exact below frame ⟨id, parameters, body, within⟩
  · rintro procedures frame ⟨id, parameters, body, within⟩
    exact procedures id parameters body frame within

theorem CapturesBelow.within (below : value.CapturesBelow count) (within : Within inner value) :
    inner.CapturesBelow count :=
  capturesBelow_iff.mpr ((capturesBelow_iff.mp below).within within)

theorem CapturesBelow.items : Inherited (CapturesBelow · count) :=
  fun _ below _ member => below.within (within_of_mem_items member)

theorem CapturesBelow.closure {body : Value} {frame : FrameId} (id : ObjectId)
    (parameters : List String) (below : body.CapturesBelow count) (inside : frame < count) :
    (Value.closure id parameters body frame).CapturesBelow count :=
  capturesBelow_iff.mpr (.closure id inside (capturesBelow_iff.mp below))

theorem capturesBelow_unbound (count : Nat) : Value.unbound.CapturesBelow count := by
  rintro frame ⟨id, parameters, body, held⟩
  cases held

theorem capturesBelow_code (expr : Expr) (next : ObjectId) (count : Nat) :
    (expr.toValue next).1.CapturesBelow count :=
  capturesBelow_iff.mpr (.code expr next)

theorem capturesBelow_answer {answer : Answer} (next : ObjectId)
    (below : ∀ part ∈ answer.parts, part.CapturesBelow count) :
    (answer.toValue next).1.CapturesBelow count :=
  capturesBelow_iff.mpr (.answer next fun part member => capturesBelow_iff.mp (below part member))

end Value

namespace Store.Closed

variable {store : Store} (closed : store.Closed)

include closed

theorem lookup? {name : String} {frame : FrameId} {value : Value}
    (found : store.lookup? name frame = some value) :
    value.CapturesBelow store.frames.size := by
  obtain ⟨owner, -, bound⟩ := Store.lookup?_bound found
  exact closed owner _ (Bindings.mem_of_get? bound)

theorem define {value : Value} (name : String) (frame : FrameId)
    (below : value.CapturesBelow store.frames.size) : (store.define frame name value).Closed := by
  intro other binding member
  rw [Store.size_define]
  rw [Store.bindingsOf_define] at member
  split at member
  · rcases Bindings.mem_of_mem_set member with same | member
    · exact same ▸ below
    · exact closed other binding member
  · exact closed other binding member

theorem pushFrame {frame : Frame}
    (below : ∀ binding ∈ frame.bindings, binding.2.CapturesBelow store.frames.size) :
    (store.push frame).2.Closed := by
  intro other binding member
  rw [Store.size_push]
  rw [Store.bindingsOf_push] at member
  split at member
  · exact (below binding member).lasting (Nat.le_succ _)
  · exact (closed other binding member).lasting (Nat.le_succ _)

theorem push {parameters : List String} {arguments : List Value} (captured : FrameId)
    (below : ∀ argument ∈ arguments, argument.CapturesBelow store.frames.size) :
    (store.push ⟨Bindings.ofArguments [] parameters arguments, some captured⟩).2.Closed := by
  refine closed.pushFrame fun binding member => ?_
  rcases Bindings.mem_of_mem_ofArguments member with given | missing | contrary
  · exact below _ given
  · exact missing ▸ Value.capturesBelow_unbound _
  · cases contrary

end Store.Closed

/-- A moment is a number of frames. -/
def closedDiscipline : Discipline Nat where
  alike := fun count store other => store = other ∧ store.frames.size = count ∧ store.Closed
  value := fun count value => value.CapturesBelow count
  code := fun count expr frame => expr.CapturesBelow count ∧ frame < count
  value_lasting := Value.CapturesBelow.lasting
  code_lasting := fun passed code =>
    ⟨code.1.lasting passed, Nat.lt_of_lt_of_le code.2 passed⟩
  nothing := by
    rintro _ _ ⟨id, parameters, body, held⟩
    cases held
  items := Value.CapturesBelow.items
  datum := fun code => code.1
  combination := fun code _ _ member => ⟨code.1.within (.list member .here), code.2⟩
  branches := fun code _ _ member =>
    ⟨code.1.within (.list (List.mem_cons_of_mem _ member) .here), code.2⟩
  defined := fun code _ => ⟨code.1.within (.list (by simp) .here), code.2⟩
  assigned := fun code _ => ⟨code.1.within (.list (by simp) .here), code.2⟩
  read := by
    rintro count name frame - store _ ⟨rfl, rfl, closed⟩
    rw [Action.outcome_read]
    refine ⟨_, le_rfl, rfl, ⟨rfl, rfl, closed⟩, fun value given => ?_⟩
    dsimp only at given
    split at given
    · cases given
    · cases given
    · rename_i found
      cases given
      exact closed.lookup? found
  define := by
    rintro count id head name expr frame value - - - below store _ ⟨rfl, rfl, closed⟩
    exact ⟨_, le_rfl, rfl, ⟨rfl, store.size_define frame name value, closed.define name frame below⟩,
      fun _ _ => trivial⟩
  assign := by
    rintro count id head name expr frame value - - - below store _ ⟨rfl, rfl, closed⟩
    refine ⟨store.frames.size, le_rfl, rfl, ?_, fun _ _ => trivial⟩
    rw [Action.outcome_assign, Store.assign?]
    cases store.find? name frame with
    | none => exact ⟨rfl, rfl, closed⟩
    | some owner =>
        exact ⟨rfl, store.size_define owner name value, closed.define name owner below⟩
  makeClosure := by
    rintro count id head id' names body frame code - store _ ⟨rfl, rfl, closed⟩
    refine ⟨store.frames.size, le_rfl, rfl, ⟨rfl, rfl, closed⟩, fun value made => ?_⟩
    cases made
    exact .closure _ names (code.1.within (.list (by simp) .here)) code.2
  extend := by
    rintro count id parameters body captured arguments below given store _ ⟨rfl, rfl, closed⟩
    refine ⟨store.frames.size + 1, Nat.le_succ _, rfl,
      ⟨rfl, store.size_push _, closed.push captured given⟩, fun frame made => ?_⟩
    cases made
    exact ⟨(below.within (.body .here)).lasting (Nat.le_succ _), Nat.lt_succ_self _⟩
  allocate := by
    rintro count answer below store _ ⟨rfl, rfl, closed⟩
    refine ⟨store.frames.size, le_rfl, rfl, ⟨rfl, rfl, closed⟩, fun value made => ?_⟩
    cases made
    exact Value.capturesBelow_answer _ below
  write := by
    rintro count text store _ ⟨rfl, rfl, closed⟩
    exact ⟨store.frames.size, le_rfl, rfl, ⟨rfl, rfl, closed⟩, fun _ _ => trivial⟩

theorem evaluate_closed (depth : Nat) {expr : Value} {frame : FrameId} {store : Store}
    (closed : store.Closed) (below : expr.CapturesBelow store.frames.size)
    (inside : frame < store.frames.size) :
    ((evaluate depth expr frame).outcome store).2.Closed ∧
      store.frames.size ≤ ((evaluate depth expr frame).outcome store).2.frames.size := by
  have code : closedDiscipline.code store.frames.size expr frame := ⟨below, inside⟩
  obtain ⟨count, passed, -, ⟨-, size, after⟩, -⟩ :=
    closedDiscipline.evaluate_keeps depth code store store ⟨rfl, rfl, closed⟩
  exact ⟨after, size ▸ passed⟩

namespace Session

structure Sound (session : Session) : Prop where
  closed : session.store.Closed
  global : session.global < session.store.frames.size

theorem start_sound : start.Sound where
  closed := by
    rintro frame binding member captured ⟨id, parameters, body, held⟩
    cases Value.within_standard (standardBindings_standard _ (bindingsOf_start member)) held
  global := Nat.one_pos

theorem evaluate_sound {session : Session} (sound : session.Sound) (depth : Nat) (line : String) :
    (session.evaluate depth line).2.Sound := by
  cases read : parse depth line with
  | error failure =>
      rw [session.evaluate_unread read]
      exact sound
  | ok expr =>
      rw [session.evaluate_read read]
      have renumbered : Store.Closed
          { session.store with nextId := (expr.toValue session.store.nextId).2 } := sound.closed
      obtain ⟨closed, grown⟩ := evaluate_closed depth renumbered
        (Value.capturesBelow_code expr session.store.nextId _) sound.global
      exact ⟨closed, Nat.lt_of_lt_of_le sound.global grown⟩

theorem evaluateAll_sound {session : Session} (sound : session.Sound)
    (lines : List (Nat × String)) : (session.evaluateAll lines).2.Sound := by
  induction lines generalizing session with
  | nil => exact sound
  | cons line lines ih => exact ih (evaluate_sound sound line.1 line.2)

end Session

end MiniLisp
