import MiniLisp.Library
import MiniLisp.Operation
import MiniLisp.SpecialForm

/-!
Evaluation. A variable has the value that is nearest outward, a list is a special form or a call,
and anything else is its own value. Evaluations and calls nest less than `depth` deep.
-/

namespace MiniLisp

def listArgument (depth : Nat) (sentence : String) : Value → Except Failure (List Value)
  | .list _ items => .ok items
  | value => Value.refuse depth sentence value

mutual

def evaluate (depth : Nat) (expr : Value) (frame : FrameId) : Action Value :=
  match depth with
  | 0 => throw .depthExceeded
  | depth + 1 =>
    match expr with
    | .symbol name => Action.read name frame
    | .list _ [] => throw .emptyCombination
    | .list _ (head :: operands) =>
      match head.keyword? with
      | some keyword => SpecialForm.evaluate depth (evaluate depth) frame operands keyword
      | none => do
        let procedure ← evaluate depth head frame
        let arguments ← operands.mapM fun operand => evaluate depth operand frame
        apply depth procedure arguments
    | constant => pure constant
  termination_by structural depth

def apply (depth : Nat) (procedure : Value) (arguments : List Value) : Action Value :=
  match depth with
  | 0 => throw .depthExceeded
  | depth + 1 =>
    match procedure with
    | .closure _ parameters body captured => do
      evaluate depth body (← Action.extend captured parameters arguments)
    | .primitive p => Action.reportedBy p.name <|
      match p, arguments with
      | .operation operation, arguments => do
        Action.allocate (← Action.ofExcept (operation.answer depth arguments))
      | .function f, arguments => do
        Action.allocate (← Action.ofExcept (f.answer depth arguments))
      | .print, [value] => do
        Action.printLine depth value
        return .nothing
      | .apply, [procedure, items] => do
        apply depth procedure
          (← Action.ofExcept (listArgument depth "apply expects a list of arguments" items))
      | .map, [procedure, items] => do
        let items ← Action.ofExcept (listArgument depth "map expects a list" items)
        let results ← items.mapM fun item => apply depth procedure [item]
        Action.allocate (.list results)
      | p, arguments => throw (.unreported (misfit p.parameters arguments.length))
    | value => do throw (.notProcedure (← Action.ofExcept (value.text .plain depth)))
  termination_by structural depth

end

end MiniLisp
