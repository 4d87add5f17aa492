import MiniLisp.Failure
import MiniLisp.Real64.Shortest
import MiniLisp.Text.Quoted
import MiniLisp.Value

namespace MiniLisp

inductive TextStyle where
  | plain
  | detailed
  deriving DecidableEq

/-- An integer is written only within the digits that can be read back. -/
def intText (n : Int) : Except Failure String :=
  if n.natAbs < Nat.pow 10 maxNumeralLength then .ok (toString n)
  else .error (.unreported .numeralTooLong)

def floatText (x : Float) : String := ((Real64.ofFloat? x).map Real64.text).getD "nan"

/-- A part of a complex number: an integral one has no fraction. -/
def partText (x : Float) : List Char :=
  let text := (floatText x).toList
  if ['.', '0'].isSuffixOf text then text.take (text.length - 2) else text

/-- A zero real part is left out unless it is negative. -/
def complexText (re im : Float) : String :=
  let imaginary := partText im
  if re.toBits = 0 then String.ofList (imaginary ++ ['j'])
  else
    let sign := if imaginary.head? = some '-' then [] else ['+']
    String.ofList ('(' :: (partText re ++ sign ++ imaginary ++ ['j', ')']))

def boolText : TextStyle → Bool → String
  | .plain, true => "#t"
  | .plain, false => "#f"
  | .detailed, true => "True"
  | .detailed, false => "False"

def symbolText : TextStyle → String → String
  | .plain, name => name
  | .detailed, name => "Symbol(" ++ quoted name ++ ")"

def listText : TextStyle → List String → String
  | .plain, items => "(" ++ " ".intercalate items ++ ")"
  | .detailed, items => "[" ++ ", ".intercalate items ++ "]"

def tupleText : List String → String
  | [item] => "(" ++ item ++ ",)"
  | items => "(" ++ ", ".intercalate items ++ ")"

def closureText (parameters : List String) (body : String) : String :=
  "(lambda (" ++ " ".intercalate parameters ++ ") " ++ body ++ ")"

def primitiveText : TextStyle → Primitive → String
  | .plain, p => "#<procedure " ++ p.name ++ ">"
  | .detailed, .function f => "<built-in function " ++ f.name ++ ">"
  | .detailed, p => "<function " ++ p.name ++ ">"

namespace Value

def text (style : TextStyle) (depth : Nat) (value : Value) : Except Failure String :=
  match depth with
  | 0 => .error .depthExceeded
  | depth + 1 =>
    match value with
    | int n => intText n
    | real x => .ok x.text
    | nan .. => .ok "nan"
    | complex _ re im => .ok (complexText re im)
    | bool b => .ok (boolText style b)
    | symbol name => .ok (symbolText style name)
    | list _ items => (items.mapM (text style depth)).map (listText style)
    | tuple _ items => (items.mapM (text .detailed depth)).map tupleText
    | nothing => .ok "None"
    | unbound => .ok "#<unbound>"
    | closure _ parameters body _ => (body.text .plain depth).map (closureText parameters)
    | primitive p => .ok (primitiveText style p)

/-- The text of a value inside a sentence: details only inside a list or a tuple. -/
def mention (depth : Nat) (value : Value) : Except Failure String :=
  match value with
  | symbol name => .ok name
  | value => value.text .detailed depth

end Value

end MiniLisp
