import Mathlib.Order.Nat
import MiniLisp.Console
import MiniLisp.Proofs.Discipline
import MiniLisp.Proofs.Frames

namespace MiniLisp

def Store.printedAfter (before : String) (store : Store) : Store :=
  { store with output := before ++ store.output }

section Printed

variable (before : String) (store : Store)

theorem find?_printedAfter (name : String) (frame : FrameId) :
    (store.printedAfter before).find? name frame = store.find? name frame := by
  have same : ∀ frame : FrameId, True →
      (store.printedAfter before).frames[frame]? = store.frames[frame]? := fun _ _ => rfl
  exact Store.find?_congr _ same (fun _ _ _ _ => trivial) name frame trivial

theorem lookup?_printedAfter (name : String) (frame : FrameId) :
    (store.printedAfter before).lookup? name frame = store.lookup? name frame := by
  rw [Store.lookup?, Store.lookup?, find?_printedAfter]
  rfl

theorem assign?_printedAfter (frame : FrameId) (name : String) (value : Value) :
    (store.printedAfter before).assign? frame name value =
      (store.assign? frame name value).map (Store.printedAfter before) := by
  rw [Store.assign?, Store.assign?, find?_printedAfter]
  cases store.find? name frame <;> rfl

end Printed

def printedDiscipline (before : String) : Discipline Nat where
  alike := fun _ store other => other = store.printedAfter before
  value := fun _ _ => True
  code := fun _ _ _ => True
  value_lasting := fun _ _ => trivial
  code_lasting := fun _ _ => trivial
  nothing := trivial
  items := fun _ _ _ _ => trivial
  datum := fun _ => trivial
  combination := fun _ _ _ _ => trivial
  branches := fun _ _ _ _ => trivial
  defined := fun _ _ => trivial
  assigned := fun _ _ => trivial
  read := by
    rintro now name frame - store _ rfl
    refine ⟨now, le_rfl, ?_, ?_, fun _ _ => trivial⟩
    · rw [Action.outcome_read, Action.outcome_read, lookup?_printedAfter]
    · rw [Action.outcome_read, Action.outcome_read]
  define := by
    rintro now id head name expr frame v - - - - store _ rfl
    exact ⟨now, le_rfl, rfl, rfl, fun _ _ => trivial⟩
  assign := by
    rintro now id head name expr frame v - - - - store _ rfl
    have outcome : (Action.assign name v frame).outcome (store.printedAfter before) =
        (((Action.assign name v frame).outcome store).1,
          ((Action.assign name v frame).outcome store).2.printedAfter before) := by
      rw [Action.outcome_assign, Action.outcome_assign, assign?_printedAfter]
      cases store.assign? frame name v <;> rfl
    rw [outcome]
    exact ⟨now, le_rfl, rfl, rfl, fun _ _ => trivial⟩
  makeClosure := by
    rintro now id head id' names body frame - - store _ rfl
    exact ⟨now, le_rfl, rfl, rfl, fun _ _ => trivial⟩
  extend := by
    rintro now id parameters body captured arguments - - store _ rfl
    exact ⟨now, le_rfl, rfl, rfl, fun _ _ => trivial⟩
  allocate := by
    rintro now answer - store _ rfl
    exact ⟨now, le_rfl, rfl, rfl, fun _ _ => trivial⟩
  write := by
    rintro now text store _ rfl
    refine ⟨now, le_rfl, rfl, ?_, fun _ _ => trivial⟩
    exact congrArg (Store.mk store.frames store.nextId) String.append_assoc

theorem evaluate_printedAfter (depth : Nat) (expr : Value) (frame : FrameId) (before : String)
    (store : Store) :
    (evaluate depth expr frame).outcome (store.printedAfter before) =
      (((evaluate depth expr frame).outcome store).1,
        ((evaluate depth expr frame).outcome store).2.printedAfter before) := by
  have code : (printedDiscipline before).code 0 expr frame := trivial
  obtain ⟨later, -, same, after, -⟩ :=
    (printedDiscipline before).evaluate_keeps depth code store _ rfl
  exact Prod.ext same.symm after

theorem evaluateLine_printedAfter (depth : Nat) (line : String) (frame : FrameId) (before : String)
    (store : Store) :
    (evaluateLine depth line frame).outcome (store.printedAfter before) =
      (((evaluateLine depth line frame).outcome store).1,
        ((evaluateLine depth line frame).outcome store).2.printedAfter before) := by
  rw [evaluateLine, Action.outcome_bind, Action.outcome_bind, Action.outcome_readCode,
    Action.outcome_readCode]
  cases parse depth line with
  | error failure => rfl
  | ok expr =>
      exact evaluate_printedAfter depth (expr.toValue store.nextId).1 frame before
        { store with nextId := (expr.toValue store.nextId).2 }

namespace Session

def silent (session : Session) : Session := session.takeOutput.2

variable (session : Session) (depth : Nat) (line : String)

theorem store_silent :
    session.store = session.silent.store.printedAfter session.store.output := by
  simp [silent, takeOutput, Store.printedAfter]

theorem evaluate_silent :
    (session.evaluate depth line).1 = (session.silent.evaluate depth line).1 ∧
      (session.evaluate depth line).2.silent = (session.silent.evaluate depth line).2.silent := by
  have same := evaluateLine_printedAfter depth line session.global session.store.output
    session.silent.store
  have global : session.silent.global = session.global := rfl
  rw [← store_silent] at same
  rw [evaluate_outcome, evaluate_outcome, same, global]
  generalize (evaluateLine depth line session.global).outcome session.silent.store = ended
  exact ⟨rfl, rfl⟩

end Session

end MiniLisp
