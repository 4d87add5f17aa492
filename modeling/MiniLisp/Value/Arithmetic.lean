import MiniLisp.Number.Power
import MiniLisp.Value.Answer
import MiniLisp.Value.Equality

namespace MiniLisp.Value

def calculate (operator : String) (operation : Number → Number → Except Rejection Number)
    (a b : Value) : Except Rejection Answer :=
  match a.number?, b.number? with
  | some x, some y => (operation x y).map .number
  | _, _ => .error (.operands operator a.typeName b.typeName)

/-- Two tuples in a row; one of them that adds nothing gives way to the other. -/
def concatenateTuples (a b : Value) (as bs : List Value) : Answer :=
  if as.isEmpty then .given b else if bs.isEmpty then .given a else .tuple (as ++ bs)

def add (a b : Value) : Except Rejection Answer :=
  match a, b with
  | list _ as, list _ bs => .ok (.list (as ++ bs))
  | tuple _ as, tuple _ bs => .ok (concatenateTuples a b as bs)
  | list .., other => .error (.concatenation .list other.typeName)
  | tuple .., other => .error (.concatenation .tuple other.typeName)
  | a, b => calculate "+" Number.add a b

def copies (count : Int) (items : List Value) : List Value :=
  if items.isEmpty then [] else (List.replicate count.toNat items).flatten

def isCopyCount (count : Int) : Bool := -0x8000000000000000 ≤ count && count < 0x8000000000000000

/-- There is no memory for a sequence of more items. -/
def maxItems : Nat := 0x40000000

def repeated (sequence times : Value) (kind : SequenceKind) (items : List Value) :
    Except Failure Answer :=
  match times.integer? with
  | none => .error (.unreported (.repetition times.typeName))
  | some count =>
    if !isCopyCount count then .error (.unreported .repetitionCount)
    else if maxItems < items.length * count.toNat then .error .memoryExhausted
    else match kind with
      | .list => .ok (.list (copies count items))
      | .tuple =>
        if items.isEmpty || count = 1 then .ok (.given sequence)
        else .ok (.tuple (copies count items))

def multiply (a b : Value) : Except Failure Answer :=
  match a.sequence?, b.sequence? with
  | some (kind, items), _ => repeated a b kind items
  | none, some (kind, items) => repeated b a kind items
  | none, none => (calculate "*" Number.multiply a b).mapError .unreported

def subtract : Value → Value → Except Rejection Answer := calculate "-" Number.subtract

def divide : Value → Value → Except Rejection Answer := calculate "/" Number.divide

def power : Value → Value → Except Rejection Answer := calculate "** or pow()" Number.power

end MiniLisp.Value
