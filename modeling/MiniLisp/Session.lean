import MiniLisp.Evaluator
import MiniLisp.Globals
import MiniLisp.Reader

/-!
Sessions. Lines are read and evaluated one by one in a global frame, so that definitions persist,
also those of a line that fails later on.
-/

namespace MiniLisp

/-- How deep reading, evaluation and texts may nest. -/
def depthLimit : Nat := 10000

def readCode (depth : Nat) (line : String) : Action Value := do
  let expr ← Action.ofExcept (parse depth line)
  modifyGet fun store =>
    let (code, nextId) := expr.toValue store.nextId
    (code, { store with nextId })

def evaluateLine (depth : Nat) (line : String) (frame : FrameId) : Action Value := do
  evaluate depth (← readCode depth line) frame

structure Session where
  store : Store
  global : FrameId

namespace Session

def start : Session :=
  let (global, store) := Store.empty.pushStandard
  ⟨store, global⟩

def run {α : Type} (session : Session) (action : Action α) : Except Failure α × Session :=
  let (result, store) := ExceptT.run action session.store
  (result, { session with store })

def evaluate (depth : Nat) (session : Session) (line : String) : Except Failure Value × Session :=
  session.run (evaluateLine depth line session.global)

def takeOutput (session : Session) : String × Session :=
  (session.store.output, { session with store := { session.store with output := "" } })

end Session

end MiniLisp
