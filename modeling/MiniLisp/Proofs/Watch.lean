import MiniLisp.Proofs.Diagonal
import MiniLisp.Proofs.Frames
import MiniLisp.Proofs.Reach

/-!
What one recorded run keeps. A watch says which chronicles are sound, which values may turn up and
which code may be evaluated; its laws speak of single steps, and as a simulation of a run by itself
it holds throughout.
-/

namespace MiniLisp

def Event.Allowed (code value : Value → Prop) : Event → Prop
  | evaluated expr _ => code expr
  | applied procedure arguments => value procedure ∧ ∀ argument ∈ arguments, value argument
  | gave v => value v
  | entered _ procedure arguments => value procedure ∧ ∀ argument ∈ arguments, value argument
  | bound _ _ v => value v

theorem Event.Allowed.mono {event : Event} {code code' kept kept' : Value → Prop}
    (allowed : event.Allowed code kept) (codes : ∀ v, code v → code' v)
    (values : ∀ v, kept v → kept' v) : event.Allowed code' kept' := by
  cases event with
  | evaluated expr frame => exact codes expr allowed
  | applied procedure arguments =>
      exact ⟨values procedure allowed.1, fun v member => values v (allowed.2 v member)⟩
  | gave v => exact values v allowed
  | entered frame procedure arguments =>
      exact ⟨values procedure allowed.1, fun v member => values v (allowed.2 v member)⟩
  | bound frame name v => exact values v allowed

structure Watch where
  sound : Chronicle → Prop
  value : Value → Prop
  code : Value → Prop
  nothing : value .nothing
  items : Value.Inherited value
  parts : Value.Inherited code
  datum : ∀ {expr}, code expr → value expr
  closure : ∀ {list head list' names body} id frame,
    code (.list list [head, .list list' (names.map .symbol), body]) →
    head.keyword? = some .abstraction → value (.closure id names body frame)
  body : ∀ {id parameters body frame}, value (.closure id parameters body frame) → code body
  answer : ∀ {answer} next, (∀ part ∈ Answer.parts answer, value part) →
    value (answer.toValue next).1
  read : ∀ {chronicle name frame v}, sound chronicle → chronicle.store.get? name frame = some v →
    v ≠ .unbound → value v
  begun : ∀ {chronicle expr frame}, sound chronicle → code expr →
    sound { chronicle with history := .evaluated expr frame :: chronicle.history }
  applied : ∀ {chronicle procedure arguments}, sound chronicle → value procedure →
    (∀ argument ∈ arguments, value argument) →
    sound { chronicle with history := .applied procedure arguments :: chronicle.history }
  gave : ∀ {chronicle v}, sound chronicle → value v →
    sound { chronicle with history := .gave v :: chronicle.history }
  define : ∀ {chronicle name v frame}, sound chronicle → value v →
    sound ⟨chronicle.store.define frame name v, .bound frame name v :: chronicle.history⟩
  enter : ∀ {chronicle id parameters body captured arguments}, sound chronicle →
    value (.closure id parameters body captured) → (∀ argument ∈ arguments, value argument) →
    sound ⟨(chronicle.store.push ⟨Bindings.ofArguments [] parameters arguments, some captured⟩).2,
      .entered chronicle.store.frames.size (.closure id parameters body captured) arguments ::
        chronicle.history⟩
  renumber : ∀ {chronicle} next, sound chronicle →
    sound { chronicle with store := { chronicle.store with nextId := next } }
  print : ∀ {chronicle} text, sound chronicle →
    sound { chronicle with store := chronicle.store.write text }

namespace Watch

/-- Only sound chronicles are alike, and only to themselves. -/
def alike (watch : Watch) (_ : Moment) (chronicle chronicle' : Chronicle) : Prop :=
  chronicle = chronicle' ∧ watch.sound chronicle

variable {watch : Watch} {α : Type} {now : Moment} {frame : FrameId} {name : String} {v : Value}

theorem keeps_alone {run : Recorded α} {post : α → Prop}
    (alone : ∀ chronicle, watch.sound chronicle → watch.sound (run.outcome chronicle).2 ∧
      ∀ x, (run.outcome chronicle).1 = .ok x → post x) :
    Recorded.Keeps watch.alike now run fun _ => post :=
  Recorded.keeps_alone fun chronicle sound => ⟨now, le_rfl, alone chronicle sound⟩

theorem keeps_step {run : Recorded PUnit}
    (alone : ∀ chronicle, watch.sound chronicle → watch.sound (run.outcome chronicle).2) :
    Recorded.Keeps watch.alike now run fun _ _ => True :=
  Recorded.keeps_step alone

theorem read_keeps (name : String) (frame : FrameId) :
    Recorded.Keeps watch.alike now (Recorded.lift (Action.read name frame))
      fun _ => watch.value := by
  refine keeps_alone fun chronicle sound => ?_
  rw [Recorded.after_read]
  refine ⟨sound, fun v given => ?_⟩
  obtain ⟨assigned, owner, here⟩ := Recorded.bound_of_read given
  exact watch.read sound here assigned

theorem assign_sound {chronicle : Chronicle} (sound : watch.sound chronicle)
    (kept : watch.value v) : watch.sound ((Recorded.assign name v frame).outcome chronicle).2 := by
  rw [Recorded.outcome_assign]
  cases chronicle.store.find? name frame with
  | none => exact sound
  | some owner => exact watch.define sound kept

theorem print_sound {chronicle : Chronicle} (depth : Nat) (sound : watch.sound chronicle) :
    watch.sound ((Recorded.lift (Action.printLine depth v)).outcome chronicle).2 := by
  obtain ⟨text, printed⟩ := Recorded.after_print depth v chronicle
  rw [printed]
  exact watch.print text sound

variable (watch)

def diagonal : Diagonal Moment where
  alike := watch.alike
  value := fun _ => watch.value
  code := fun _ expr _ => watch.code expr
  value_lasting := fun _ => id
  code_lasting := fun _ => id
  nothing := watch.nothing
  items := watch.items
  datum := watch.datum
  combination := fun code _ => watch.parts _ code
  branches := fun code _ expr member => watch.parts _ code expr (List.mem_cons_of_mem _ member)
  defined := fun code _ => watch.parts _ code _ (by simp [Value.items])
  assigned := fun code _ => watch.parts _ code _ (by simp [Value.items])
  read := fun _ => read_keeps _ _
  define := fun _ _ _ kept => keeps_step fun _ sound => watch.define sound kept
  assign := fun _ _ _ kept => keeps_step fun _ sound => assign_sound sound kept
  makeClosure := by
    intro now id head id' names body frame code form
    refine keeps_alone fun chronicle sound => ⟨watch.renumber _ sound, fun v made => ?_⟩
    cases made
    exact watch.closure _ frame code form
  evaluated := fun code => keeps_step fun _ sound => watch.begun sound code
  applied := fun kept given => keeps_step fun _ sound => watch.applied sound kept given
  gave := fun kept => keeps_step fun _ sound => watch.gave sound kept
  enter := fun kept given => keeps_alone fun _ sound =>
    ⟨watch.enter sound kept given, fun _ _ => watch.body kept⟩
  allocate := by
    intro now answer kept
    refine keeps_alone fun chronicle sound => ⟨watch.renumber _ sound, fun v made => ?_⟩
    cases made
    exact watch.answer _ kept
  print := fun depth _ => keeps_step fun _ sound => print_sound depth sound

theorem evaluate_keeps (depth : Nat) {expr : Value} (code : watch.code expr) (frame : FrameId)
    {chronicle : Chronicle} (sound : watch.sound chronicle) :
    watch.sound ((Recorded.evaluate depth expr frame).outcome chronicle).2 ∧
      ∀ v, ((Recorded.evaluate depth expr frame).outcome chronicle).1 = .ok v → watch.value v := by
  have keeps : Recorded.Keeps watch.alike .always (Recorded.evaluate depth expr frame) _ :=
    watch.diagonal.evaluate_keeps depth code
  obtain ⟨_, -, -, ⟨-, after⟩, given⟩ := keeps chronicle chronicle ⟨rfl, sound⟩
  exact ⟨after, given⟩

theorem apply_keeps (depth : Nat) {procedure : Value} {arguments : List Value}
    (kept : watch.value procedure) (given : ∀ argument ∈ arguments, watch.value argument)
    {chronicle : Chronicle} (sound : watch.sound chronicle) :
    watch.sound ((Recorded.apply depth procedure arguments).outcome chronicle).2 ∧
      ∀ v, ((Recorded.apply depth procedure arguments).outcome chronicle).1 = .ok v →
        watch.value v := by
  have keeps : Recorded.Keeps watch.alike .always (Recorded.apply depth procedure arguments) _ :=
    watch.diagonal.apply_keeps depth kept given
  obtain ⟨_, -, -, ⟨-, after⟩, allowed⟩ := keeps chronicle chronicle ⟨rfl, sound⟩
  exact ⟨after, allowed⟩

def Reads (watch : Watch) : Prop :=
  ∀ {depth line expr}, parse depth line = .ok expr → ∀ next, watch.code (expr.toValue next).1

theorem diagonal_reads (reads : watch.Reads) :
    watch.diagonal.Reads fun _ => watch.sound :=
  fun sound read => ⟨_, le_rfl, watch.renumber _ sound, fun _ => reads read _⟩

theorem evaluateAll_keeps (reads : watch.Reads) (frame : FrameId) (lines : List (Nat × String))
    {chronicle : Chronicle} (sound : watch.sound chronicle) :
    watch.sound (Recorded.evaluateAll frame lines chronicle).2 ∧
      ∀ v, .ok v ∈ (Recorded.evaluateAll frame lines chronicle).1 → watch.value v := by
  obtain ⟨_, -, after, given⟩ := @Diagonal.evaluateAll_keeps _ _ watch.diagonal .always _ rfl
    (watch.diagonal_reads reads) frame lines chronicle sound
  exact ⟨after, given⟩

end Watch

section Procedures

variable {code : Value → Prop} {holds : List String → Value → FrameId → Prop}

/-- All that happened is about code and values that are allowed, and names are bound to such values:
what is allowed of values depends on the procedures in them. -/
structure Chronicle.Allows (code : Value → Prop) (holds : List String → Value → FrameId → Prop)
    (chronicle : Chronicle) : Prop where
  events : ∀ event ∈ chronicle.history, event.Allowed code (Value.Procedures holds)
  bindings : ∀ frame name v, chronicle.store.get? name frame = some v → v.Procedures holds

theorem Chronicle.Allows.note {chronicle : Chronicle} {event : Event}
    (allows : chronicle.Allows code holds) (now : event.Allowed code (Value.Procedures holds)) :
    Allows code holds { chronicle with history := event :: chronicle.history } :=
  ⟨List.forall_mem_cons.mpr ⟨now, allows.events⟩, allows.bindings⟩

theorem Chronicle.Allows.mono {chronicle : Chronicle} {code' : Value → Prop}
    {holds' : List String → Value → FrameId → Prop} (allows : chronicle.Allows code holds)
    (codes : ∀ v, code v → code' v)
    (weaker : ∀ parameters body frame, holds parameters body frame → holds' parameters body frame) :
    chronicle.Allows code' holds' where
  events := fun event member =>
    (allows.events event member).mono codes fun _ procedures => procedures.mono weaker
  bindings := fun frame name v bound => (allows.bindings frame name v bound).mono weaker

theorem Chronicle.allows_start : Allows code holds ⟨Session.start.store, []⟩ :=
  ⟨nofun, fun _ _ _ => Value.Procedures.start⟩

def Watch.ofProcedures (code : Value → Prop) (holds : List String → Value → FrameId → Prop)
    (parts : Value.Inherited code) (datum : ∀ {expr}, code expr → expr.Procedures holds)
    (closure : ∀ {list head list' names body} frame,
      code (.list list [head, .list list' (names.map .symbol), body]) →
      head.keyword? = some .abstraction → holds names body frame)
    (body : ∀ {parameters body frame}, holds parameters body frame → code body) : Watch where
  sound := Chronicle.Allows code holds
  value := Value.Procedures holds
  code := code
  nothing := fun _ _ _ _ => nofun
  items := Value.Procedures.items
  parts := parts
  datum := datum
  closure := fun id frame whole form =>
    .closure id (closure frame whole form) (datum (parts _ whole _ (by simp [Value.items])))
  body := fun procedures => body (procedures _ _ _ _ .here)
  answer := Value.Procedures.answer
  read := fun allows bound _ => allows.bindings _ _ _ bound
  begun := fun allows whole => allows.note whole
  applied := fun allows kept given => allows.note ⟨kept, given⟩
  gave := fun allows kept => allows.note kept
  define := fun allows kept => ⟨List.forall_mem_cons.mpr ⟨kept, allows.events⟩,
    Store.bound_define allows.bindings kept⟩
  enter := fun allows kept given => ⟨List.forall_mem_cons.mpr ⟨⟨kept, given⟩, allows.events⟩,
    Store.bound_push allows.bindings (fun v member _ => given v member) fun _ _ _ _ _ => nofun⟩
  renumber := fun _ allows => ⟨allows.events, allows.bindings⟩
  print := fun _ allows => ⟨allows.events, allows.bindings⟩

end Procedures

end MiniLisp
