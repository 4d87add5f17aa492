import MiniLisp.Proofs.Simulation

/-!
Runs of one piece of code. Where a run is beside another one of the same code, in chronicles that
count as alike, a simulation comes down to what single steps keep: the two come to the same result,
good or bad, and leave chronicles that are alike. With every chronicle alike to itself only, this is
an invariant of one run.
-/

namespace MiniLisp

open List (Forall₂)

variable {World : Type} [Preorder World] {α : Type}

/-- From chronicles that are alike a run comes to the same result, good or bad, and to chronicles
that are alike at a later moment, at which a good result has a property. -/
def Recorded.Keeps (alike : World → Chronicle → Chronicle → Prop) (now : World) (run : Recorded α)
    (post : World → α → Prop) : Prop :=
  ∀ chronicle chronicle', alike now chronicle chronicle' → ∃ later, now ≤ later ∧
    (run.outcome chronicle).1 = (run.outcome chronicle').1 ∧
    alike later (run.outcome chronicle).2 (run.outcome chronicle').2 ∧
    ∀ x, (run.outcome chronicle).1 = .ok x → post later x

/-- A chronicle with a property counts as alike to itself, and to no other. -/
def Alone (sound : World → Chronicle → Prop) (now : World) (chronicle chronicle' : Chronicle) :
    Prop :=
  chronicle = chronicle' ∧ sound now chronicle

namespace Recorded

theorem keeps_alone {sound : World → Chronicle → Prop} {now : World} {run : Recorded α}
    {post : World → α → Prop}
    (alone : ∀ chronicle, sound now chronicle → ∃ later, now ≤ later ∧
      sound later (run.outcome chronicle).2 ∧
      ∀ x, (run.outcome chronicle).1 = .ok x → post later x) :
    Keeps (Alone sound) now run post := by
  rintro chronicle _ ⟨rfl, holds⟩
  obtain ⟨later, passed, after, given⟩ := alone chronicle holds
  exact ⟨later, passed, rfl, ⟨rfl, after⟩, given⟩

theorem keeps_step {sound : World → Chronicle → Prop} {now : World} {run : Recorded α}
    (alone : ∀ chronicle, sound now chronicle → sound now (run.outcome chronicle).2) :
    Keeps (Alone sound) now run fun _ _ => True :=
  keeps_alone fun chronicle holds => ⟨now, le_rfl, alone chronicle holds, fun _ _ => trivial⟩

theorem after_read (name : String) (frame : FrameId) (chronicle : Chronicle) :
    ((lift (Action.read name frame)).outcome chronicle).2 = chronicle := by
  rw [outcome_lift, Action.outcome_read]

theorem bound_of_read {name : String} {frame : FrameId} {chronicle : Chronicle} {v : Value}
    (given : ((lift (Action.read name frame)).outcome chronicle).1 = .ok v) :
    v ≠ .unbound ∧ ∃ owner, chronicle.store.get? name owner = some v := by
  rw [outcome_lift, Action.outcome_read] at given
  dsimp only at given
  split at given
  · cases given
  · cases given
  · rename_i assigned found
    cases given
    obtain ⟨owner, -, here⟩ := Store.lookup?_bound found
    exact ⟨assigned, owner, here⟩

theorem after_print (depth : Nat) (v : Value) (chronicle : Chronicle) :
    ∃ text, ((lift (Action.printLine depth v)).outcome chronicle).2 =
      { chronicle with store := chronicle.store.write text } := by
  rw [outcome_lift, Action.printLine, Action.outcome_bind, Action.outcome_ofExcept]
  cases v.text .plain depth with
  | error failure => exact ⟨"", by simp [Store.write]⟩
  | ok text => exact ⟨text ++ "\n", rfl⟩

end Recorded

structure Diagonal (World : Type) [Preorder World] where
  alike : World → Chronicle → Chronicle → Prop
  value : World → Value → Prop
  code : World → Value → FrameId → Prop
  value_lasting : ∀ {now later v}, now ≤ later → value now v → value later v
  code_lasting : ∀ {now later expr frame}, now ≤ later → code now expr frame →
    code later expr frame
  nothing : ∀ {now}, value now .nothing
  items : ∀ {now}, Value.Inherited (value now)
  datum : ∀ {now expr frame}, code now expr frame → value now expr
  combination : ∀ {now id head operands frame}, code now (.list id (head :: operands)) frame →
    head.keyword? = none → ∀ expr ∈ head :: operands, code now expr frame
  branches : ∀ {now id head operands frame}, code now (.list id (head :: operands)) frame →
    head.keyword? = some .conditional → ∀ expr ∈ operands, code now expr frame
  defined : ∀ {now id head target expr frame}, code now (.list id [head, target, expr]) frame →
    head.keyword? = some .definition → code now expr frame
  assigned : ∀ {now id head target expr frame}, code now (.list id [head, target, expr]) frame →
    head.keyword? = some .assignment → code now expr frame
  read : ∀ {now name frame}, code now (.symbol name) frame →
    Recorded.Keeps alike now (Recorded.lift (Action.read name frame)) value
  define : ∀ {now id head name expr frame v},
    code now (.list id [head, .symbol name, expr]) frame → head.keyword? = some .definition →
    isKeyword name = false → value now v →
    Recorded.Keeps alike now (Recorded.define name v frame) fun _ _ => True
  assign : ∀ {now id head name expr frame v},
    code now (.list id [head, .symbol name, expr]) frame → head.keyword? = some .assignment →
    isKeyword name = false → value now v →
    Recorded.Keeps alike now (Recorded.assign name v frame) fun _ _ => True
  makeClosure : ∀ {now id head id' names body frame},
    code now (.list id [head, .list id' (names.map .symbol), body]) frame →
    head.keyword? = some .abstraction →
    Recorded.Keeps alike now (Recorded.lift (Action.makeClosure names body frame)) value
  evaluated : ∀ {now expr frame}, code now expr frame →
    Recorded.Keeps alike now (Recorded.note (.evaluated expr frame)) fun _ _ => True
  applied : ∀ {now procedure arguments}, value now procedure → (∀ v ∈ arguments, value now v) →
    Recorded.Keeps alike now (Recorded.note (.applied procedure arguments)) fun _ _ => True
  gave : ∀ {now v}, value now v →
    Recorded.Keeps alike now (Recorded.note (.gave v)) fun _ _ => True
  enter : ∀ {now id parameters body captured arguments},
    value now (.closure id parameters body captured) → (∀ v ∈ arguments, value now v) →
    Recorded.Keeps alike now
      (Recorded.enter (.closure id parameters body captured) captured parameters arguments)
      fun later frame => code later body frame
  allocate : ∀ {now answer}, (∀ part ∈ answer.parts, value now part) →
    Recorded.Keeps alike now (Recorded.lift (Action.allocate answer)) value
  print : ∀ {now v} depth, value now v →
    Recorded.Keeps alike now (Recorded.lift (Action.printLine depth v)) fun _ _ => True

theorem parameterNames_symbols {depth : Nat} {parameters : List Value} {names : List String}
    (read : SpecialForm.parameterNames depth parameters = .ok names) :
    parameters = names.map .symbol := by
  induction parameters generalizing names with
  | nil =>
      cases read
      rfl
  | cons parameter parameters ih =>
      cases parameter with
      | symbol name =>
          obtain ⟨rest, readRest, rfl⟩ := ok_of_map read
          rw [List.map_cons, ← ih readRest]
      | _ =>
          obtain ⟨text, -, contrary⟩ := ok_of_bind read
          cases contrary

theorem eq_of_related {keeps : Value → Prop} {values values' : List Value}
    (related : Forall₂ (fun v v' => v = v' ∧ keeps v) values values') :
    values = values' ∧ ∀ v ∈ values, keeps v := by
  induction related with
  | nil => exact ⟨rfl, nofun⟩
  | cons first _ ih =>
      obtain ⟨rfl, kept⟩ := first
      obtain ⟨rfl, others⟩ := ih
      refine ⟨rfl, fun v member => ?_⟩
      rcases List.mem_cons.mp member with rfl | member
      · exact kept
      · exact others v member

theorem eq_of_alike {keeps : Value → Prop} {answer answer' : Answer}
    (alike : Answer.Alike (fun v v' => v = v' ∧ keeps v) answer answer') :
    answer = answer' ∧ ∀ part ∈ answer.parts, keeps part := by
  cases alike with
  | scalar s => exact ⟨rfl, nofun⟩
  | like like =>
      cases like with
      | given same =>
          obtain ⟨rfl, kept⟩ := same
          exact ⟨rfl, fun part member => List.mem_singleton.mp member ▸ kept⟩
      | list each | tuple each =>
          obtain ⟨rfl, kept⟩ := eq_of_related each
          exact ⟨rfl, kept⟩
      | _ => exact ⟨rfl, nofun⟩

theorem eq_of_agree {keeps : α → Prop} {result result' : Except Failure α}
    (agree : Agree (Exhausted False) (fun x x' => x = x' ∧ keeps x) (Failure.Like Eq) result
      result') :
    result = result' ∧ ∀ x, result = .ok x → keeps x := by
  cases agree with
  | ok related =>
      obtain ⟨rfl, kept⟩ := related
      refine ⟨rfl, fun x given => ?_⟩
      cases given
      exact kept
  | error like => exact ⟨congrArg _ like.eq, nofun⟩
  | cut contrary => exact contrary.1.elim

theorem relates_self {alike : World → Chronicle → Chronicle → Prop} {now : World}
    {run : Recorded α} {post : World → α → Prop} (keeps : Recorded.Keeps alike now run post) :
    Relates alike Eq now run run fun later x x' => x = x' ∧ post later x := by
  intro chronicle chronicle' related
  obtain ⟨later, passed, same, after, holds⟩ := keeps chronicle chronicle' related
  refine ⟨later, passed, after, ?_⟩
  rw [← same]
  cases ended : (run.outcome chronicle).1 with
  | error failure => exact .error (.same failure)
  | ok x => exact .ok ⟨rfl, holds x ended⟩

namespace Diagonal

variable (diagonal : Diagonal World)

def correspondence : Correspondence World where
  alike := diagonal.alike
  value := fun now v v' => v = v' ∧ diagonal.value now v
  code := fun now frame frame' expr expr' =>
    (frame = frame' ∧ expr = expr') ∧ diagonal.code now expr frame
  texts := Eq

variable {diagonal} {now : World} {frame : FrameId} {id : ObjectId} {head : Value}
  {operands : List Value}

theorem steps_self {run : Recorded PUnit}
    (keeps : Recorded.Keeps diagonal.alike now run fun _ _ => True) :
    diagonal.correspondence.Steps now run run :=
  relates_imp (relates_self keeps) fun _ _ _ _ _ => trivial

theorem codes_self {exprs : List Value} (codes : ∀ expr ∈ exprs, diagonal.code now expr frame) :
    Forall₂ (diagonal.correspondence.code now frame frame) exprs exprs := by
  rw [List.forall₂_same]
  exact fun expr member => ⟨⟨rfl, rfl⟩, codes expr member⟩

theorem mentions_self (v : Value) : diagonal.correspondence.Mentions v v := fun _ => .same _

theorem targets_self {write : String → Value → FrameId → Recorded PUnit} {target : Value}
    (writes : ∀ {later name v}, now ≤ later → target = .symbol name → isKeyword name = false →
      diagonal.value later v →
        Recorded.Keeps diagonal.alike later (write name v frame) fun _ _ => True) :
    diagonal.correspondence.Targets now frame frame write target target := by
  cases target with
  | symbol name =>
      cases reserved : isKeyword name with
      | true => exact .reserved reserved
      | false =>
          refine .names reserved reserved fun later passed v v' same => ?_
          obtain ⟨rfl, kept⟩ := same
          exact steps_self (writes passed rfl reserved kept)
  | _ => exact .other rfl rfl (mentions_self _)

theorem abstractions_self {parameters body : Value}
    (code : diagonal.code now (.list id [head, parameters, body]) frame)
    (form : head.keyword? = some .abstraction) :
    diagonal.correspondence.Abstractions now frame frame body body parameters parameters := by
  cases parameters with
  | list id' items =>
      refine .lists id' id' fun depth => ?_
      cases read : SpecialForm.parameterNames depth items with
      | error failure => exact .error (.same failure)
      | ok names =>
          rw [parameterNames_symbols read] at code
          exact .ok fun later passed =>
            relates_self (diagonal.makeClosure (diagonal.code_lasting passed code) form)
  | _ => exact .other rfl rfl (mentions_self _)

theorem operands_self {keyword : Keyword}
    (code : diagonal.code now (.list id (head :: operands)) frame)
    (form : head.keyword? = some keyword) :
    diagonal.correspondence.Operands now frame frame keyword operands operands where
  count := rfl
  quotation := by
    rintro - datum datum' rfl only
    cases only
    exact ⟨rfl, diagonal.items _ (diagonal.datum code) datum (by simp [Value.items])⟩
  conditional := by
    rintro rfl
    exact codes_self (diagonal.branches code form)
  definition := by
    rintro rfl target target' expr expr' rfl same
    cases same
    refine ⟨targets_self ?_, ⟨rfl, rfl⟩, diagonal.defined code form⟩
    rintro later name v passed rfl free kept
    exact diagonal.define (diagonal.code_lasting passed code) form free kept
  assignment := by
    rintro rfl target target' expr expr' rfl same
    cases same
    refine ⟨targets_self ?_, ⟨rfl, rfl⟩, diagonal.assigned code form⟩
    rintro later name v passed rfl free kept
    exact diagonal.assign (diagonal.code_lasting passed code) form free kept
  abstraction := by
    rintro rfl parameters parameters' body body' rfl same
    cases same
    exact abstractions_self code form

theorem view_self {expr : Value} (code : diagonal.code now expr frame) :
    diagonal.correspondence.View now frame frame expr expr := by
  cases expr with
  | symbol name => exact .symbol (relates_self (diagonal.read code))
  | list id items =>
      cases items with
      | nil => exact .empty id id
      | cons head operands =>
          cases form : head.keyword? with
          | none =>
              have codes := codes_self (diagonal.combination code form)
              rcases codes with _ | ⟨first, rest⟩
              exact .combination form form first rest
          | some keyword => exact .form form form (operands_self code form)
  | _ => exact .constant ⟨rfl, rfl⟩ ⟨rfl, rfl⟩ ⟨rfl, diagonal.datum code⟩

variable (diagonal)

def simulation : Simulation World where
  toCorrespondence := diagonal.correspondence
  value_lasting := fun passed => And.imp_right (diagonal.value_lasting passed)
  code_lasting := fun passed => And.imp_right (diagonal.code_lasting passed)
  resembles := fun _ => .diagonal False diagonal.items
  nothing := ⟨rfl, diagonal.nothing⟩
  view := by
    rintro now frame _ expr _ ⟨⟨rfl, rfl⟩, code⟩
    exact view_self code
  evaluated := by
    rintro now frame _ expr _ ⟨⟨rfl, rfl⟩, code⟩
    exact steps_self (diagonal.evaluated code)
  applied := by
    rintro now procedure _ arguments arguments' ⟨rfl, kept⟩ given
    obtain ⟨rfl, allowed⟩ := eq_of_related given
    exact steps_self (diagonal.applied kept allowed)
  gave := by
    rintro now v _ ⟨rfl, kept⟩
    exact steps_self (diagonal.gave kept)
  enter := by
    rintro now id id' parameters parameters' body body' captured captured' arguments arguments'
      ⟨same, kept⟩ given
    cases same
    obtain ⟨rfl, allowed⟩ := eq_of_related given
    refine relates_imp (relates_self (diagonal.enter kept allowed)) ?_
    rintro _ _ frame _ ⟨rfl, code⟩
    exact ⟨⟨rfl, rfl⟩, code⟩
  allocate := by
    intro now answer answer' alike
    obtain ⟨rfl, kept⟩ := eq_of_alike alike
    exact relates_self (diagonal.allocate kept)
  print := by
    rintro now v _ depth ⟨rfl, kept⟩
    exact steps_self (diagonal.print depth kept)

theorem evaluate_keeps (depth : Nat) {expr : Value} (code : diagonal.code now expr frame) :
    Recorded.Keeps diagonal.alike now (Recorded.evaluate depth expr frame) diagonal.value := by
  intro chronicle chronicle' related
  have beside : diagonal.simulation.code now frame frame expr expr := ⟨⟨rfl, rfl⟩, code⟩
  obtain ⟨later, passed, after, agree⟩ :=
    diagonal.simulation.evaluates depth beside chronicle chronicle' related
  obtain ⟨same, kept⟩ := eq_of_agree agree
  exact ⟨later, passed, same, after, kept⟩

theorem apply_keeps (depth : Nat) {procedure : Value} {arguments : List Value}
    (kept : diagonal.value now procedure) (given : ∀ v ∈ arguments, diagonal.value now v) :
    Recorded.Keeps diagonal.alike now (Recorded.apply depth procedure arguments)
      diagonal.value := by
  intro chronicle chronicle' related
  have beside : diagonal.simulation.value now procedure procedure := ⟨rfl, kept⟩
  have givens : Forall₂ (diagonal.simulation.value now) arguments arguments := by
    rw [List.forall₂_same]
    exact fun argument member => ⟨rfl, given argument member⟩
  obtain ⟨later, passed, after, agree⟩ :=
    diagonal.simulation.applies depth beside givens chronicle chronicle' related
  obtain ⟨same, kept⟩ := eq_of_agree agree
  exact ⟨later, passed, same, after, kept⟩

section Lines

variable {diagonal} {sound : World → Chronicle → Prop}

def Reads (diagonal : Diagonal World) (sound : World → Chronicle → Prop) : Prop :=
  ∀ {now chronicle depth line expr}, sound now chronicle → parse depth line = .ok expr →
    ∃ later, now ≤ later ∧
      sound later (chronicle.renumber (expr.toValue chronicle.store.nextId).2) ∧
      ∀ frame, diagonal.code later (expr.toValue chronicle.store.nextId).1 frame

theorem evaluateLine_keeps (alone : diagonal.alike = Alone sound) (reads : diagonal.Reads sound)
    (depth : Nat) (line : String) (frame : FrameId) {chronicle : Chronicle}
    (holds : sound now chronicle) :
    ∃ later, now ≤ later ∧
      sound later ((Recorded.evaluateLine depth line frame).outcome chronicle).2 ∧
      ∀ v, ((Recorded.evaluateLine depth line frame).outcome chronicle).1 = .ok v →
        diagonal.value later v := by
  cases read : parse depth line with
  | error failure =>
      rw [Recorded.evaluateLine_unread read]
      exact ⟨now, le_rfl, holds, nofun⟩
  | ok expr =>
      rw [Recorded.evaluateLine_read read]
      obtain ⟨later, passed, read, code⟩ := reads holds read
      have keeps := diagonal.evaluate_keeps depth (code frame)
      rw [alone] at keeps
      obtain ⟨last, passed', -, ⟨-, after⟩, given⟩ := keeps _ _ ⟨rfl, read⟩
      exact ⟨last, le_trans passed passed', after, given⟩

theorem evaluateAll_keeps (alone : diagonal.alike = Alone sound) (reads : diagonal.Reads sound)
    (frame : FrameId) (lines : List (Nat × String)) {chronicle : Chronicle}
    (holds : sound now chronicle) :
    ∃ later, now ≤ later ∧ sound later (Recorded.evaluateAll frame lines chronicle).2 ∧
      ∀ v, .ok v ∈ (Recorded.evaluateAll frame lines chronicle).1 → diagonal.value later v := by
  induction lines generalizing now chronicle with
  | nil => exact ⟨now, le_rfl, holds, nofun⟩
  | cons line lines ih =>
      obtain ⟨depth, text⟩ := line
      obtain ⟨later, passed, after, given⟩ := evaluateLine_keeps alone reads depth text frame holds
      obtain ⟨last, passed', ended, others⟩ := ih after
      refine ⟨last, le_trans passed passed', ended, fun v member => ?_⟩
      rcases List.mem_cons.mp member with same | member
      · exact diagonal.value_lasting passed' (given v same.symm)
      · exact others v member

end Lines

end Diagonal

end MiniLisp
