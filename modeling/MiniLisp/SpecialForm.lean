import MiniLisp.Action

/-!
Special forms. Each checks the number of its operands first and their shape next, then evaluates
those that it evaluates, and last of all writes a binding.
-/

namespace MiniLisp.SpecialForm

abbrev Evaluation := Value → FrameId → Action Value

def bindableName (depth : Nat) (form : Keyword) (operand : Value) : Except Failure String :=
  match operand with
  | .symbol name => if isKeyword name then .error (.reservedName form name) else .ok name
  | operand => do throw (.nameExpected form (← operand.mention depth))

def quotation : List Value → Action Value
  | [datum] => pure datum
  | _ => throw (.operandCount .quotation)

def conditional (evaluate : Evaluation) (frame : FrameId) : List Value → Action Value
  | [test, consequent] => do
    if (← evaluate test frame).isTrue then evaluate consequent frame else return .nothing
  | [test, consequent, alternative] => do
    let branch := if (← evaluate test frame).isTrue then consequent else alternative
    evaluate branch frame
  | _ => throw (.operandCount .conditional)

def definition (depth : Nat) (evaluate : Evaluation) (frame : FrameId) : List Value → Action Value
  | [target, expr] => do
    let name ← Action.ofExcept (bindableName depth .definition target)
    let value ← evaluate expr frame
    Action.define name value frame
    return .nothing
  | _ => throw (.operandCount .definition)

def assignment (depth : Nat) (evaluate : Evaluation) (frame : FrameId) : List Value → Action Value
  | [target, expr] => do
    let name ← Action.ofExcept (bindableName depth .assignment target)
    let value ← evaluate expr frame
    Action.assign name value frame
    return .nothing
  | _ => throw (.operandCount .assignment)

def parameterNames (depth : Nat) : List Value → Except Failure (List String)
  | [] => .ok []
  | .symbol name :: rest => (parameterNames depth rest).map (name :: ·)
  | parameter :: _ => do throw (.parameterExpected (← parameter.mention depth))

def abstraction (depth : Nat) (frame : FrameId) : List Value → Action Value
  | [.list _ parameters, body] => do
    let names ← Action.ofExcept (parameterNames depth parameters)
    Action.makeClosure names body frame
  | [parameters, _] => do
    throw (.parametersExpected (← Action.ofExcept (parameters.mention depth)))
  | _ => throw (.operandCount .abstraction)

def evaluate (depth : Nat) (evaluation : Evaluation) (frame : FrameId) (operands : List Value) :
    Keyword → Action Value
  | .quotation => quotation operands
  | .conditional => conditional evaluation frame operands
  | .definition => definition depth evaluation frame operands
  | .assignment => assignment depth evaluation frame operands
  | .abstraction => abstraction depth frame operands

end MiniLisp.SpecialForm
