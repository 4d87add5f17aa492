import MiniLisp.Store
import MiniLisp.Value.Answer
import MiniLisp.Value.Printer

/-!
Actions on a store, which end in a value or a failure. What an action did before it failed stays
done.
-/

namespace MiniLisp

abbrev Action := ExceptT Failure (StateM Store)

namespace Action

def ofExcept {α : Type} : Except Failure α → Action α
  | .ok a => pure a
  | .error failure => throw failure

def allocate (answer : Answer) : Action Value :=
  modifyGet fun store =>
    let (value, nextId) := answer.toValue store.nextId
    (value, { store with nextId })

def reportedBy {α : Type} (primitive : String) (action : Action α) : Action α :=
  ExceptT.adapt (Failure.reportedBy primitive) action

def read (name : String) (frame : FrameId) : Action Value := do
  match (← get).lookup? name frame with
  | none => throw (.unboundSymbol name)
  | some .unbound => throw (.unassigned name)
  | some value => return value

def define (name : String) (value : Value) (frame : FrameId) : Action Unit :=
  modify (Store.define · frame name value)

def assign (name : String) (value : Value) (frame : FrameId) : Action Unit := do
  match (← get).assign? frame name value with
  | some store => set store
  | none => throw (.unboundSymbol name)

def makeClosure (parameters : List String) (body : Value) (frame : FrameId) : Action Value :=
  modifyGet fun store =>
    (.closure store.nextId parameters body frame, { store with nextId := store.nextId + 1 })

def extend (captured : FrameId) (parameters : List String) (arguments : List Value) :
    Action FrameId :=
  modifyGet fun store =>
    store.push ⟨Bindings.ofArguments [] parameters arguments, some captured⟩

def printLine (depth : Nat) (value : Value) : Action Unit := do
  let text ← ofExcept (value.text .plain depth)
  modify fun store => store.write (text ++ "\n")

end Action

end MiniLisp
