import MiniLisp.Keyword

/-!
Why an evaluation fails. A primitive rejects its arguments for a reason of its own; the
application that called it reports that reason under the primitive's name.
-/

namespace MiniLisp

inductive SyntaxError where
  | unexpectedEnd
  | unexpectedClose
  | trailingInput
  deriving DecidableEq

inductive RejectionKind where
  | type
  | value
  | index
  | zeroDivision
  | overflow
  deriving DecidableEq

inductive SequenceKind where
  | list
  | tuple
  deriving DecidableEq

/-- Why a primitive rejects its arguments. Type names are those of `Value.typeName`. -/
inductive Rejection where
  | missing (parameters : List String)
  | surplus (taken given : Nat)
  | operands (operator left right : String)
  | ordering (operator left right : String)
  | concatenation (kind : SequenceKind) (other : String)
  | repetition (other : String)
  | repetitionCount
  | divisionByZero
  | floatDivisionByZero
  | complexDivisionByZero
  | zeroToNegativePower
  | zeroToComplexPower
  | quotientTooLarge
  | integerTooLarge
  | powerTooLarge
  | complexPowerTooLarge
  | emptyList
  | noLength (type : String)
  | numeralTooLong
  /-- What was expected, and the text of what was given instead. -/
  | expected (sentence got : String)
  | expectedLists
  | listAsName
  /-- The functions of the numeric library give no reason beyond its kind. -/
  | unexplained (kind : RejectionKind)

inductive Failure where
  | unreadable (e : SyntaxError)
  | depthExceeded
  | memoryExhausted
  /-- What is given is not of the kind needed: no text to read, or no closure to look into. -/
  | unfit
  | unboundSymbol (text : String)
  | unassigned (name : String)
  | notDefinable (text : String)
  | nameExpected (form : Keyword) (text : String)
  | reservedName (form : Keyword) (name : String)
  | parametersExpected (text : String)
  | parameterExpected (text : String)
  | operandCount (form : Keyword)
  | emptyCombination
  | notProcedure (text : String)
  /-- A rejection that no application has reported yet. -/
  | unreported (reason : Rejection)
  | rejected (primitive : String) (reason : Rejection)

def SequenceKind.name : SequenceKind → String
  | list => "list"
  | tuple => "tuple"

def RejectionKind.name : RejectionKind → String
  | type => "TypeError"
  | value => "ValueError"
  | index => "IndexError"
  | zeroDivision => "ZeroDivisionError"
  | overflow => "OverflowError"

namespace Rejection

def kind : Rejection → RejectionKind
  | missing _ | surplus .. | operands .. | ordering .. | concatenation .. | repetition _ => .type
  | noLength _ | expected .. | expectedLists | listAsName => .type
  | repetitionCount | quotientTooLarge | integerTooLarge | powerTooLarge | complexPowerTooLarge =>
    .overflow
  | divisionByZero | floatDivisionByZero | complexDivisionByZero | zeroToNegativePower
  | zeroToComplexPower => .zeroDivision
  | emptyList => .index
  | numeralTooLong => .value
  | unexplained kind => kind

def singleQuoted (text : String) : String := "'" ++ text ++ "'"

def pluralMark (count : Nat) : String := if count = 1 then "" else "s"

def text (primitive : String) : Rejection → String
  | missing parameters =>
    primitive ++ "() missing " ++ toString parameters.length ++ " required positional argument" ++
      pluralMark parameters.length ++ ": " ++ " and ".intercalate (parameters.map singleQuoted)
  | surplus taken given =>
    primitive ++ "() takes " ++ toString taken ++ " positional argument" ++ pluralMark taken ++
      " but " ++ toString given ++ " were given"
  | operands operator left right =>
    "unsupported operand type(s) for " ++ operator ++ ": " ++ singleQuoted left ++ " and " ++
      singleQuoted right
  | ordering operator left right =>
    singleQuoted operator ++ " not supported between instances of " ++ singleQuoted left ++
      " and " ++ singleQuoted right
  | concatenation kind other =>
    "can only concatenate " ++ kind.name ++ " (not \"" ++ other ++ "\") to " ++ kind.name
  | repetition other => "can't multiply sequence by non-int of type " ++ singleQuoted other
  | repetitionCount => "cannot fit 'int' into an index-sized integer"
  | divisionByZero => "division by zero"
  | floatDivisionByZero => "float division by zero"
  | complexDivisionByZero => "complex division by zero"
  | zeroToNegativePower => "0.0 cannot be raised to a negative power"
  | zeroToComplexPower => "0.0 to a negative or complex power"
  | quotientTooLarge => "integer division result too large for a float"
  | integerTooLarge => "int too large to convert to float"
  | powerTooLarge => "(34, 'Numerical result out of range')"
  | complexPowerTooLarge => "complex exponentiation"
  | emptyList => "list index out of range"
  | noLength type => "object of type " ++ singleQuoted type ++ " has no len()"
  | numeralTooLong =>
    "Exceeds the limit (4300 digits) for integer string conversion; " ++
      "use sys.set_int_max_str_digits() to increase the limit"
  | expected sentence got => sentence ++ ", got " ++ got
  | expectedLists => "append expects two lists"
  | listAsName => "unhashable type: 'list'"
  | unexplained _ => "*"

end Rejection

def SyntaxError.message : SyntaxError → String
  | unexpectedEnd => "unexpected EOF"
  | unexpectedClose => "unexpected )"
  | trailingInput => "unexpected trailing input"

namespace Failure

def reportedBy (primitive : String) : Failure → Failure
  | unreported reason => rejected primitive reason
  | failure => failure

def className : Failure → String
  | depthExceeded => "RecursionError"
  | memoryExhausted => "MemoryError"
  | unfit => "AttributeError"
  | unreadable _ => "LispySyntaxError"
  | unboundSymbol _ | unassigned _ => "LispyUnboundSymbol"
  | notDefinable _ | nameExpected .. | reservedName .. | parametersExpected _
  | parameterExpected _ => "LispyInvalidSymbol"
  | operandCount _ => "LispyArityError"
  | emptyCombination | notProcedure _ | rejected .. => "LispyApplicationError"
  | unreported reason => reason.kind.name

def operandCountMessage : Keyword → String
  | .quotation => "quote expects exactly 1 argument"
  | .conditional => "if requires a test, a consequent and an optional alternative"
  | .definition => "define requires exactly 2 arguments"
  | .assignment => "set! requires exactly 2 arguments: (set! var value)"
  | .abstraction => "lambda requires a parameter list and exactly one body"

/-- The failure in words. What is no failure of the language itself shows as a star. -/
def message : Failure → String
  | unreadable e => e.message
  | unboundSymbol text => "Unbound symbol " ++ text
  | unassigned name => "Unassigned variable " ++ name
  | notDefinable text => "Cannot define " ++ text ++ " as a symbol"
  | nameExpected form text => form.name ++ " first argument must be a Symbol, got " ++ text
  | reservedName .assignment name => "Cannot set! reserved keyword " ++ name
  | reservedName _ name => "Cannot define reserved keyword " ++ name
  | parametersExpected text => "lambda parameters must be a list, got " ++ text
  | parameterExpected text => "lambda parameter must be a Symbol, got " ++ text
  | operandCount form => operandCountMessage form
  | emptyCombination => "Cannot evaluate an empty combination ()"
  | notProcedure text => text ++ " is not a procedure"
  | rejected primitive reason => primitive ++ ": " ++ reason.text primitive
  | depthExceeded | memoryExhausted | unfit | unreported _ => "*"

def isDomestic : Failure → Bool
  | depthExceeded | memoryExhausted | unfit | unreported _ => false
  | _ => true

def cause? : Failure → Option RejectionKind
  | rejected _ reason => some reason.kind
  | _ => none

end Failure

end MiniLisp
