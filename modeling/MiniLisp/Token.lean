import MiniLisp.Text.Blank

namespace MiniLisp

def openToken : String := "("

def closeToken : String := ")"

def spaceParentheses : List Char → List Char
  | [] => []
  | c :: rest =>
    if c = '(' || c = ')' then ' ' :: c :: ' ' :: spaceParentheses rest
    else c :: spaceParentheses rest

/-- The words of a text: `word` is what the current word has so far, reversed. -/
def wordsFrom (word : List Char) : List Char → List (List Char)
  | [] => if word.isEmpty then [] else [word.reverse]
  | c :: rest =>
    if isBlank c then
      if word.isEmpty then wordsFrom [] rest else word.reverse :: wordsFrom [] rest
    else wordsFrom (c :: word) rest

def words (text : List Char) : List (List Char) := wordsFrom [] text

def tokenize (line : String) : List String :=
  (words (spaceParentheses line.toList)).map String.ofList

end MiniLisp
