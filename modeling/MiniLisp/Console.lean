import MiniLisp.Session
import MiniLisp.Text.Blank

namespace MiniLisp

def resultText (depth : Nat) : Value → Except Failure String
  | .nothing => .ok ""
  | value => (value.text .plain depth).map (· ++ "\n")

def failureText (failure : Failure) : String :=
  "error: " ++ failure.className ++ ": " ++ failure.message ++ "\n"

def reportText (result : Except Failure String) : Bool × String :=
  match result with
  | .ok text => (true, text)
  | .error failure => (false, failureText failure)

namespace Session

def evaluateAndReport (depth : Nat) (session : Session) (line : String) :
    (Bool × String) × Session :=
  let (result, session) := session.evaluate depth line
  let (succeeded, report) := reportText (result.bind (resultText depth))
  let (printed, session) := session.takeOutput
  ((succeeded, printed ++ report), session)

def respond (depth : Nat) (session : Session) (line : String) : String × Session :=
  if isBlankLine line then ("", session)
  else
    let ((_, written), session) := session.evaluateAndReport depth line
    (written, session)

def converse (depth : Nat) (prompt : String) (session : Session) : List String → String × Session
  | [] => (prompt ++ "\n", session)
  | line :: lines =>
    let (written, session) := session.respond depth line
    let (rest, session) := session.converse depth prompt lines
    (prompt ++ written ++ rest, session)

end Session

/-- The lines of a text, each with the line feed that ends it: `line` is what the current line has so
far, reversed. -/
def linesFrom (line : List Char) : List Char → List (List Char)
  | [] => if line.isEmpty then [] else [line.reverse]
  | c :: rest =>
    if c = '\n' then (c :: line).reverse :: linesFrom [] rest else linesFrom (c :: line) rest

/-- The lines of an input as they are typed in: only a line feed ends a line, and the last line may
lack it. -/
def inputLines (input : String) : List String := (linesFrom [] input.toList).map String.ofList

end MiniLisp
