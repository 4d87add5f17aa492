import MiniLisp.Proofs.Diagonal

/-!
What evaluation keeps of pairs of stores. A discipline says which of them count as alike, which
values may turn up and which code may run where; its laws speak of single actions, and
`evaluate_keeps` carries them through whole evaluations, also those that fail. No history matters to
a discipline.
-/

namespace MiniLisp

variable {World : Type} [Preorder World] {α : Type}

/-- From stores that are alike an action comes to the same result, good or bad, and to stores that
are alike at a later moment, at which a good result has a property. -/
def Keeps (alike : World → Store → Store → Prop) (now : World) (action : Action α)
    (post : World → α → Prop) : Prop :=
  ∀ store other, alike now store other →
    ∃ later, now ≤ later ∧ (action.outcome store).1 = (action.outcome other).1 ∧
      alike later (action.outcome store).2 (action.outcome other).2 ∧
      ∀ x, (action.outcome store).1 = .ok x → post later x

def StoresAlike (alike : World → Store → Store → Prop) (now : World)
    (chronicle chronicle' : Chronicle) : Prop :=
  alike now chronicle.store chronicle'.store

theorem Keeps.recorded {alike : World → Store → Store → Prop} {now : World} {action : Action α}
    {run : Recorded α} {post : World → α → Prop}
    (kept : Keeps alike now action post) (erases : Recorded.Erases run action) :
    Recorded.Keeps (StoresAlike alike) now run post := by
  intro chronicle chronicle' related
  obtain ⟨same, left⟩ := erases chronicle
  obtain ⟨same', left'⟩ := erases chronicle'
  simp only [StoresAlike, same, same', left, left']
  exact kept chronicle.store chronicle'.store related

structure Discipline (World : Type) [Preorder World] where
  alike : World → Store → Store → Prop
  value : World → Value → Prop
  code : World → Value → FrameId → Prop
  value_lasting : ∀ {now later v}, now ≤ later → value now v → value later v
  code_lasting : ∀ {now later expr frame}, now ≤ later → code now expr frame →
    code later expr frame
  nothing : ∀ {now}, value now .nothing
  items : ∀ {now}, Value.Inherited (value now)
  datum : ∀ {now expr frame}, code now expr frame → value now expr
  combination : ∀ {now id head operands frame}, code now (.list id (head :: operands)) frame →
    head.keyword? = none → ∀ expr ∈ head :: operands, code now expr frame
  branches : ∀ {now id head operands frame}, code now (.list id (head :: operands)) frame →
    head.keyword? = some .conditional → ∀ expr ∈ operands, code now expr frame
  defined : ∀ {now id head target expr frame}, code now (.list id [head, target, expr]) frame →
    head.keyword? = some .definition → code now expr frame
  assigned : ∀ {now id head target expr frame}, code now (.list id [head, target, expr]) frame →
    head.keyword? = some .assignment → code now expr frame
  read : ∀ {now name frame}, code now (.symbol name) frame →
    Keeps alike now (Action.read name frame) value
  define : ∀ {now id head name expr frame v},
    code now (.list id [head, .symbol name, expr]) frame → head.keyword? = some .definition →
    isKeyword name = false → value now v →
    Keeps alike now (Action.define name v frame) fun _ _ => True
  assign : ∀ {now id head name expr frame v},
    code now (.list id [head, .symbol name, expr]) frame → head.keyword? = some .assignment →
    isKeyword name = false → value now v →
    Keeps alike now (Action.assign name v frame) fun _ _ => True
  makeClosure : ∀ {now id head id' names body frame},
    code now (.list id [head, .list id' (names.map .symbol), body]) frame →
    head.keyword? = some .abstraction → Keeps alike now (Action.makeClosure names body frame) value
  extend : ∀ {now id parameters body captured arguments},
    value now (.closure id parameters body captured) → (∀ v ∈ arguments, value now v) →
    Keeps alike now (Action.extend captured parameters arguments)
      fun later frame => code later body frame
  allocate : ∀ {now answer}, (∀ part ∈ answer.parts, value now part) →
    Keeps alike now (Action.allocate answer) value
  write : ∀ {now} text, Keeps alike now (modify (Store.write · text)) fun _ _ => True

namespace Discipline

variable (discipline : Discipline World) {now : World}

theorem printLine_keeps (depth : Nat) (v : Value) :
    Keeps discipline.alike now (Action.printLine depth v) fun _ _ => True := by
  intro store other related
  rw [Action.printLine, Action.outcome_bind, Action.outcome_bind, Action.outcome_ofExcept,
    Action.outcome_ofExcept]
  cases v.text .plain depth with
  | error failure => exact ⟨now, le_rfl, rfl, related, fun _ _ => trivial⟩
  | ok text => exact discipline.write _ store other related

theorem note_keeps (event : Event) :
    Recorded.Keeps (StoresAlike discipline.alike) now (Recorded.note event) fun _ _ => True :=
  fun _ _ related => ⟨now, le_rfl, rfl, related, fun _ _ => trivial⟩

def diagonal : Diagonal World where
  alike := StoresAlike discipline.alike
  value := discipline.value
  code := discipline.code
  value_lasting := discipline.value_lasting
  code_lasting := discipline.code_lasting
  nothing := discipline.nothing
  items := discipline.items
  datum := discipline.datum
  combination := discipline.combination
  branches := discipline.branches
  defined := discipline.defined
  assigned := discipline.assigned
  read := fun code => (discipline.read code).recorded (Recorded.erases_lift _)
  define := fun code form free kept =>
    (discipline.define code form free kept).recorded (Recorded.erases_define _ _ _)
  assign := fun code form free kept =>
    (discipline.assign code form free kept).recorded (Recorded.erases_assign _ _ _)
  makeClosure := fun code form =>
    (discipline.makeClosure code form).recorded (Recorded.erases_lift _)
  evaluated := fun _ => discipline.note_keeps _
  applied := fun _ _ => discipline.note_keeps _
  gave := fun _ => discipline.note_keeps _
  enter := fun kept given =>
    (discipline.extend kept given).recorded (Recorded.erases_enter _ _ _ _)
  allocate := fun kept => (discipline.allocate kept).recorded (Recorded.erases_lift _)
  print := fun depth _ => (discipline.printLine_keeps depth _).recorded (Recorded.erases_lift _)

theorem evaluate_keeps (depth : Nat) {expr : Value} {frame : FrameId}
    (code : discipline.code now expr frame) :
    Keeps discipline.alike now (evaluate depth expr frame) discipline.value := by
  intro store other related
  obtain ⟨later, passed, same, after, kept⟩ :=
    discipline.diagonal.evaluate_keeps depth code ⟨store, []⟩ ⟨other, []⟩ related
  obtain ⟨ended, left⟩ := Recorded.evaluate_erases depth expr frame ⟨store, []⟩
  obtain ⟨ended', left'⟩ := Recorded.evaluate_erases depth expr frame ⟨other, []⟩
  change discipline.alike later _ _ at after
  rw [ended, ended'] at same
  rw [left, left'] at after
  rw [ended] at kept
  exact ⟨later, passed, same, after, kept⟩

end Discipline

end MiniLisp
