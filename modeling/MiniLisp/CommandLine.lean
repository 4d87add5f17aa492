import MiniLisp.Console
import MiniLisp.Settings
import MiniLisp.Text.Digit

namespace MiniLisp

inductive CommandOption where
  | help
  | command
  | prompt
  | logLevel
  deriving DecidableEq

/-- What an option is given. Two dashes that are attached to it are lost. -/
inductive OptionValue where
  | text (value : String)
  | lost

namespace OptionValue

def ofAttached (text : String) : OptionValue := if text = "--" then lost else .text text

def text? : OptionValue → Option String
  | text value => some value
  | lost => none

end OptionValue

structure CommandLine where
  command : Option OptionValue
  prompt : Option OptionValue
  logLevel : Option OptionValue

namespace CommandLine

def empty : CommandLine := ⟨none, none, none⟩

def shortOptions : List (String × CommandOption) := [("-h", .help), ("-c", .command)]

def longOptions : List (String × CommandOption) :=
  [("--help", .help), ("--command", .command), ("--prompt", .prompt), ("--log-level", .logLevel)]

inductive Word where
  | value
  | option (option : CommandOption) (attached : Option String)
  /-- The short option for help with more short options behind it. -/
  | helpAnd (letters : List Char)
  | ambiguous
  | unknown
  deriving DecidableEq

def splitAtEquals (word : List Char) : List Char × Option (List Char) :=
  match word.dropWhile (· ≠ '=') with
  | [] => (word, none)
  | _ :: value => (word.takeWhile (· ≠ '='), some value)

def named (name : String) : Option CommandOption := (shortOptions ++ longOptions).lookup name

def optionsFrom (start : List Char) : List CommandOption :=
  (longOptions.filter fun (name, _) => start.isPrefixOf name.toList).map Prod.snd

/-- A minus sign and a number without exponent; a line feed may follow. -/
def isNegativeNumber (word : List Char) : Bool :=
  let number := if word.getLast? = some '\n' then word.dropLast else word
  match number with
  | '-' :: body =>
    match body.dropWhile isDigit with
    | [] => !body.isEmpty
    | '.' :: fraction => !fraction.isEmpty && fraction.all isDigit
    | _ => false
  | _ => false

/-- A word with a minus sign in front that is no option may still be a value: a negative number,
or text with a space in it. -/
def valueOrUnknown (word : List Char) : Word :=
  if isNegativeNumber word || word.contains ' ' then .value else .unknown

def shortWord (option : CommandOption) (behind : List Char) : Word :=
  if option = .help then .helpAnd behind else .option option (some (String.ofList behind))

/-- The word is an option by its full name, or by the start of one long name. A value may be
attached after an equals sign, and to a short option also without. -/
def classify (text : String) : Word :=
  let word := text.toList
  let (name, attached) := splitAtEquals word
  match word with
  | '-' :: mark :: more =>
    match named text, attached.bind fun value => (named (String.ofList name)).map (·, value) with
    | some option, _ => .option option none
    | none, some (option, value) =>
      if mark = '-' then .option option (some (String.ofList value)) else shortWord option value
    | none, none =>
      if mark = '-' then
        match optionsFrom name with
        | [option] => .option option (attached.map String.ofList)
        | [] => valueOrUnknown word
        | _ => .ambiguous
      else
        match named (String.ofList ['-', mark]) with
        | some option => shortWord option more
        | none => valueOrUnknown word
  | _ => .value

def assign (option : CommandOption) (value : OptionValue) (line : CommandLine) : CommandLine :=
  match option with
  | .help => line
  | .command => { line with command := some value }
  | .prompt => { line with prompt := some value }
  | .logLevel => { line with logLevel := some value }

inductive Reading where
  | accepted (line : CommandLine)
  | helpAsked
  | rejected

def endMark : String := "--"

def startsWithValue : List String → Bool
  | [] => false
  | word :: _ => word ≠ endMark && classify word = .value

/-- Reads the letters behind the short option for help. Each must be a short option too, and one
that takes a value takes all that is left. -/
def readLetters (rest : List String) : List Char → Reading
  | [] => .rejected
  | letter :: letters =>
    match named (String.ofList ['-', letter]) with
    | none => .rejected
    | some .help => if letters.isEmpty then .helpAsked else readLetters rest letters
    | some _ => if letters.isEmpty && !startsWithValue rest then .rejected else .helpAsked

/-- Reads the words in turn. Every option but the one for help takes a value, and the last one
counts. `surplus` tells whether a word has been found that is neither an option nor its value;
such words are rejected at the end, unless help is asked for before. -/
def readFrom (line : CommandLine) (surplus : Bool) : List String → Reading
  | [] => if surplus then .rejected else .accepted line
  | word :: rest =>
    if word = endMark then .rejected
    else match classify word with
      | .option .help none => .helpAsked
      | .option .help (some _) => .rejected
      | .helpAnd letters => readLetters rest letters
      | .option option (some value) =>
        readFrom (line.assign option (.ofAttached value)) surplus rest
      | .option option none =>
        match rest with
        | [] => .rejected
        | value :: rest =>
          if startsWithValue [value] then readFrom (line.assign option (.text value)) surplus rest
          else .rejected
      | .value | .unknown => readFrom line true rest
      | .ambiguous => .rejected

/-- Reads a command line, all of whose words must be unambiguous as far as options may stand. -/
def read (words : List String) : Reading :=
  if (words.takeWhile (· ≠ endMark)).any fun word => classify word = .ambiguous then .rejected
  else readFrom empty false words

end CommandLine

structure RunOutcome where
  succeeded : Bool
  output : String
  logLevel : Nat
  depthLimit : Int

inductive RunFailure where
  | limitTooLarge
  | promptLost

def RunFailure.className : RunFailure → String
  | limitTooLarge => RejectionKind.overflow.name
  | promptLost => RejectionKind.type.name

namespace CommandLine

def limitFor (shell : Variables) (limitBefore : Int) : Except RunFailure Int :=
  let limit := max limitBefore (Settings.depthLimit shell)
  if Settings.greatestDepthLimit < limit then .error .limitTooLarge else .ok limit

def promptFor (line : CommandLine) (shell : Variables) : Except RunFailure String :=
  match line.prompt with
  | none => .ok (Settings.prompt shell)
  | some (.text prompt) => .ok prompt
  | some .lost => .error .promptLost

def runCommand (depth : Nat) : OptionValue → Bool × String
  | .text command => (Session.start.evaluateAndReport depth command).1
  | .lost => (false, failureText .unfit)

def run (depth : Nat) (line : CommandLine) (shell : Variables) (input : String)
    (limitBefore : Int) : Except RunFailure RunOutcome := do
  let limit ← limitFor shell limitBefore
  let (succeeded, output) ← match line.command with
    | some command => .ok (runCommand depth command)
    | none => do
      let prompt ← line.promptFor shell
      .ok (true, (Session.start.converse depth prompt (inputLines input)).1)
  let level := Settings.logLevel (line.logLevel.bind OptionValue.text?) shell
  return ⟨succeeded, output, level, limit⟩

end CommandLine

end MiniLisp
