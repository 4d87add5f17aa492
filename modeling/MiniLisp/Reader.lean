import MiniLisp.Expr
import MiniLisp.Failure
import MiniLisp.Token

namespace MiniLisp

structure TokenStream where
  position : Nat
  rest : List String

namespace TokenStream

def ofTokens (tokens : List String) : TokenStream := ⟨0, tokens⟩

def exhausted (stream : TokenStream) : Bool := stream.rest.isEmpty

def peek? (stream : TokenStream) : Option String := stream.rest.head?

def advance (stream : TokenStream) : Except Failure String × TokenStream :=
  match stream.rest with
  | [] => (.error (.unreadable .unexpectedEnd), stream)
  | token :: rest => (.ok token, ⟨stream.position + 1, rest⟩)

end TokenStream

/-- The lists that are open, innermost first, each with its items so far in reverse. -/
abbrev OpenLists := List (List Expr)

/-- Reads on with the lists in `openLists` unfinished; at most `room` more may be opened. The
tokens left over are returned beside the answer, and a failure has taken the token that it fails
at. -/
def readOpen : List String → OpenLists → Nat → Except Failure Expr × List String
  | [], _, _ => (.error (.unreadable .unexpectedEnd), [])
  | token :: rest, openLists, room =>
    if token = openToken then
      match room with
      | 0 => (.error .depthExceeded, rest)
      | room + 1 => readOpen rest ([] :: openLists) room
    else if token = closeToken then
      match openLists with
      | [] => (.error (.unreadable .unexpectedClose), rest)
      | [items] => (.ok (.list items.reverse), rest)
      | items :: outer :: outermost =>
        readOpen rest ((.list items.reverse :: outer) :: outermost) (room + 1)
    else
      match openLists with
      | [] => (.ok (.ofToken token), rest)
      | items :: outer => readOpen rest ((.ofToken token :: items) :: outer) room

def TokenStream.read (depth : Nat) (stream : TokenStream) : Except Failure Expr × TokenStream :=
  let (answer, rest) := readOpen stream.rest [] depth
  (answer, ⟨stream.position + (stream.rest.length - rest.length), rest⟩)

def parse (depth : Nat) (line : String) : Except Failure Expr :=
  match readOpen (tokenize line) [] depth with
  | (.error failure, _) => .error failure
  | (.ok expr, []) => .ok expr
  | (.ok _, token :: _) =>
    .error (.unreadable (if token = closeToken then .unexpectedClose else .trailingInput))

end MiniLisp
