import MiniLisp.Numeral

/-!
Settings, which come from environment variables: the prompt, the level of log messages, and how
deep evaluation may nest. What a variable holds that is no setting counts as absent.
-/

namespace MiniLisp

abbrev Variables := List (String × String)

namespace Settings

def defaultPrompt : String := "lispy> "

def prompt (shell : Variables) : String :=
  (shell.lookup "LISPY_PROMPT").getD defaultPrompt

/-- The levels by name; more weight means fewer messages. -/
def logLevels : List (String × Nat) :=
  [("CRITICAL", 50), ("FATAL", 50), ("ERROR", 40), ("WARNING", 30), ("WARN", 30), ("INFO", 20),
    ("DEBUG", 10), ("NOTSET", 0)]

def defaultLogLevel : Nat := 30

/-- The capital letter of a letter, as far as it is a Latin one without marks; these are also the
capitals of the dotless i and of the long s. -/
def capital (c : Char) : Char :=
  if c.toNat = 0x131 then 'I' else if c.toNat = 0x17F then 'S' else c.toUpper

def logLevelNamed (name : String) : Nat :=
  (logLevels.lookup (String.ofList (name.toList.map capital))).getD defaultLogLevel

/-- The level asked for, else the one in the environment; an empty name asks for none. -/
def logLevel (asked : Option String) (shell : Variables) : Nat :=
  match (asked.filter (· ≠ "")).or ((shell.lookup "LISPY_LOGLEVEL").filter (· ≠ "")) with
  | some name => logLevelNamed name
  | none => defaultLogLevel

def ungroup? : List Char → Option (List Char)
  | [] => some []
  | ['_'] => none
  | '_' :: '_' :: _ => none
  | '_' :: c :: rest => ungroup? (c :: rest)
  | c :: rest => (ungroup? rest).map (c :: ·)

def readGroupedInteger? (text : List Char) : Option Int :=
  let (negative, body) := splitSign (trimBoth isNumeralPadding text)
  if body.head? = some '_' then none
  else do
    let digits ← ungroup? body
    if digits.isEmpty || !digits.all isDigit || maxNumeralLength < digits.length then none
    else some (signed negative (digitsValue digits))

def defaultDepthLimit : Int := 10000

def leastDepthLimit : Int := 100

def greatestDepthLimit : Int := 0x7FFFFFFF

def depthLimit (shell : Variables) : Int :=
  match (shell.lookup "LISPY_RECURSION_LIMIT").filter (· ≠ "") with
  | none => defaultDepthLimit
  | some text =>
    match readGroupedInteger? text.toList with
    | none => defaultDepthLimit
    | some limit => max limit leastDepthLimit

end Settings

end MiniLisp
