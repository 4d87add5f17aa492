namespace MiniLisp

inductive Keyword where
  | quotation
  | conditional
  | definition
  | assignment
  | abstraction
  deriving DecidableEq

namespace Keyword

def name : Keyword → String
  | quotation => "quote"
  | conditional => "if"
  | definition => "define"
  | assignment => "set!"
  | abstraction => "lambda"

def all : List Keyword := [quotation, conditional, definition, assignment, abstraction]

def ofName? (name : String) : Option Keyword := all.find? fun keyword => keyword.name = name

end Keyword

def isKeyword (name : String) : Bool := (Keyword.ofName? name).isSome

end MiniLisp
