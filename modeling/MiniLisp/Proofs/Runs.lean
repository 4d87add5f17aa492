import MiniLisp.Proofs.FrontEnds
import MiniLisp.Proofs.Literals

/-!
How runs of the program end, if standard output takes every text that is written to it. Whatever the
lines do, a run comes to its end, with the limit of nesting no lower than before, unless a limit is
asked for that cannot be set, or the prompt was lost on the command line and lines have to be prompted
for.
-/

namespace MiniLisp

def RunOutcome.exitCode (outcome : RunOutcome) : Nat := if outcome.succeeded then 0 else 1

namespace Settings

variable (shell : Variables)

def AsksTooMuch : Prop :=
  ∃ text n, shell.lookup "LISPY_RECURSION_LIMIT" = some text ∧
    IntegerLiteral (trimBoth isNumeralPadding text.toList) n ∧ greatestDepthLimit < n

theorem depthLimit_cases :
    (depthLimit shell = defaultDepthLimit ∧ ∀ text n,
      shell.lookup "LISPY_RECURSION_LIMIT" = some text →
        ¬ IntegerLiteral (trimBoth isNumeralPadding text.toList) n) ∨
    ∃ text n, shell.lookup "LISPY_RECURSION_LIMIT" = some text ∧
      IntegerLiteral (trimBoth isNumeralPadding text.toList) n ∧
      depthLimit shell = max n leastDepthLimit := by
  rw [depthLimit]
  cases asked : shell.lookup "LISPY_RECURSION_LIMIT" with
  | none => exact .inl ⟨rfl, nofun⟩
  | some text =>
      by_cases empty : text = ""
      · subst empty
        refine .inl ⟨rfl, fun text n same literal => ?_⟩
        rw [← Option.some.inj same] at literal
        cases readGroupedInteger?_iff.mpr literal
      · have kept : (some text).filter (· ≠ "") = some text := by simp [empty]
        rw [kept]
        dsimp only
        cases read : readGroupedInteger? text.toList with
        | none =>
            refine .inl ⟨rfl, fun text' n same literal => ?_⟩
            rw [← Option.some.inj same, ← readGroupedInteger?_iff, read] at literal
            cases literal
        | some n => exact .inr ⟨text, n, rfl, readGroupedInteger?_iff.mp read, rfl⟩

theorem asksTooMuch_iff : AsksTooMuch shell ↔ greatestDepthLimit < depthLimit shell := by
  rcases depthLimit_cases shell with ⟨isDefault, none⟩ | ⟨text, n, asked, literal, isLimit⟩
  · rw [isDefault]
    refine iff_of_false ?_ (by decide)
    rintro ⟨text, n, asked, literal, -⟩
    exact none text n asked literal
  · have above_iff : greatestDepthLimit < max n leastDepthLimit ↔ greatestDepthLimit < n := by
      simp only [greatestDepthLimit, leastDepthLimit]
      omega
    rw [isLimit, above_iff]
    constructor
    · rintro ⟨text', n', asked', literal', above⟩
      rw [asked] at asked'
      rw [← Option.some.inj asked', ← readGroupedInteger?_iff] at literal'
      rw [readGroupedInteger?_iff.mpr literal] at literal'
      rwa [Option.some.inj literal']
    · exact fun above => ⟨text, n, asked, literal, above⟩

theorem logLevel_known (asked : Option String) :
    logLevel asked shell ∈ logLevels.map Prod.snd := by
  have named (name : String) : logLevelNamed name ∈ logLevels.map Prod.snd := by
    rw [logLevelNamed]
    cases found : logLevels.lookup (String.ofList (name.toList.map capital)) with
    | none => decide
    | some level =>
        obtain ⟨before, after, same, -⟩ := List.lookup_eq_some_iff.mp found
        rw [same]
        simp
  rw [logLevel]
  split
  · exact named _
  · decide

end Settings

namespace CommandLine

def PromptLost (line : CommandLine) : Prop := line.command = none ∧ line.prompt = some .lost

theorem prompt_assign {option : CommandOption} {value : OptionValue} {line : CommandLine}
    (lost : (line.assign option value).prompt = some .lost) :
    line.prompt = some .lost ∨ option = .prompt ∧ value = .lost := by
  cases option with
  | prompt => exact .inr ⟨rfl, Option.some.inj lost⟩
  | help => exact .inl lost
  | command => exact .inl lost
  | logLevel => exact .inl lost

theorem lost_ofAttached {text : String} (lost : OptionValue.ofAttached text = .lost) :
    text = endMark := by
  rw [OptionValue.ofAttached] at lost
  split at lost
  · assumption
  · cases lost

theorem readLetters_ne_accepted (rest : List String) (letters : List Char) (line : CommandLine) :
    readLetters rest letters ≠ .accepted line := by
  fun_induction readLetters rest letters with
  | case4 _ _ _ _ ih => exact ih
  | _ => exact nofun

theorem lost_of_readFrom {line read : CommandLine} {surplus : Bool} {words : List String}
    (accepted : readFrom line surplus words = .accepted read) (lost : read.prompt = some .lost) :
    line.prompt = some .lost ∨
      ∃ word ∈ words, classify word = .option .prompt (some endMark) := by
  fun_induction readFrom line surplus words with
  | case2 line =>
      cases accepted
      exact .inl lost
  | case6 _ _ _ rest _ letters => exact absurd accepted (readLetters_ne_accepted rest letters read)
  | case7 line _ word rest _ option value _ attached ih =>
      rcases ih accepted with before | ⟨word', member, found⟩
      · rcases prompt_assign before with before | ⟨rfl, isLost⟩
        · exact .inl before
        · rw [lost_ofAttached isLost] at attached
          exact .inr ⟨word, List.mem_cons_self, attached⟩
      · exact .inr ⟨word', List.mem_cons_of_mem _ member, found⟩
  | case9 line _ word _ option _ _ value rest _ ih =>
      rcases ih accepted with before | ⟨word', member, found⟩
      · rcases prompt_assign before with before | ⟨-, isLost⟩
        · exact .inl before
        · cases isLost
      · exact .inr ⟨word', List.mem_cons_of_mem _ (List.mem_cons_of_mem _ member), found⟩
  | case11 _ _ _ _ _ _ ih | case12 _ _ _ _ _ _ ih =>
      rcases ih accepted with before | ⟨word', member, found⟩
      · exact .inl before
      · exact .inr ⟨word', List.mem_cons_of_mem _ member, found⟩
  | _ => cases accepted

theorem lost_of_read {words : List String} {line : CommandLine} (accepted : read words = .accepted line)
    (lost : line.prompt = some .lost) :
    ∃ word ∈ words, classify word = .option .prompt (some endMark) := by
  rw [read] at accepted
  split at accepted
  · cases accepted
  · rcases lost_of_readFrom accepted lost with none | found
    · cases none
    · exact found

end CommandLine

/-- What a console shows for lines: the prompt before each, then nothing for a blank line, and for any
other what evaluating it printed and a report of its result or failure; and at last the prompt. Every
line is evaluated in the state that the ones before have led to, whether they failed or not. -/
inductive Transcript (depth : Nat) (prompt : String) : Session → List String → String → Prop
  | done {session : Session} : Transcript depth prompt session [] (prompt ++ "\n")
  | blank {session : Session} {line : String} {lines : List String} {text : String}
      (blank : isBlankLine line = true) (others : Transcript depth prompt session lines text) :
      Transcript depth prompt session (line :: lines) (prompt ++ text)
  | line {session : Session} {line : String} {lines : List String} {text report : String}
      {succeeded : Bool} (visible : isBlankLine line = false)
      (reported : Reported depth (session.evaluate depth line).1 succeeded report)
      (others : Transcript depth prompt (session.evaluate depth line).2.silent lines text) :
      Transcript depth prompt session (line :: lines)
        (prompt ++ ((session.evaluate depth line).2.store.output ++ report) ++ text)

theorem transcript_converse (depth : Nat) (prompt : String) (session : Session)
    (lines : List String) :
    Transcript depth prompt session lines (session.converse depth prompt lines).1 := by
  induction lines generalizing session with
  | nil => exact .done
  | cons line lines ih =>
      rw [Session.converse, Session.respond]
      by_cases blank : isBlankLine line
      · rw [if_pos blank]
        dsimp only
        rw [String.append_empty]
        exact .blank blank (ih session)
      · obtain ⟨succeeded, report, reported, written⟩ :=
          session.evaluateAndReport_reported depth line
        rw [if_neg blank, written]
        exact .line (by simpa using blank) reported (ih _)

namespace CommandLine

variable {depth : Nat} {line : CommandLine} {shell : Variables} {input : String}
  {limitBefore limit : Int}

theorem limitFor_tooLarge (asks : Settings.AsksTooMuch shell) :
    limitFor shell limitBefore = .error .limitTooLarge := by
  have above := (Settings.asksTooMuch_iff shell).mp asks
  rw [limitFor]
  exact if_pos (by omega)

theorem limitFor_settable (asks : ¬ Settings.AsksTooMuch shell)
    (settable : limitBefore ≤ Settings.greatestDepthLimit) :
    limitFor shell limitBefore = .ok (max limitBefore (Settings.depthLimit shell)) := by
  have notAbove := (Settings.asksTooMuch_iff shell).not.mp asks
  rw [limitFor]
  exact if_neg (by omega)

theorem run_command_given {value : OptionValue} (set : limitFor shell limitBefore = .ok limit)
    (given : line.command = some value) :
    line.run depth shell input limitBefore = .ok ⟨(runCommand depth value).1,
      (runCommand depth value).2, Settings.logLevel (line.logLevel.bind OptionValue.text?) shell,
      limit⟩ := by
  rw [run, set, given]
  rfl

theorem run_console (set : limitFor shell limitBefore = .ok limit) (none : line.command = none) :
    line.run depth shell input limitBefore = (line.promptFor shell).map fun prompt => ⟨true,
      (Session.start.converse depth prompt (inputLines input)).1,
      Settings.logLevel (line.logLevel.bind OptionValue.text?) shell, limit⟩ := by
  rw [run, set, none]
  cases line.promptFor shell <;> rfl

theorem promptFor_cases (line : CommandLine) (shell : Variables) :
    (line.prompt = some .lost ∧ line.promptFor shell = .error .promptLost) ∨
      (line.prompt ≠ some .lost ∧ ∃ prompt, line.promptFor shell = .ok prompt) := by
  rw [promptFor]
  cases line.prompt with
  | none => exact .inr ⟨nofun, _, rfl⟩
  | some value =>
      cases value with
      | text prompt => exact .inr ⟨nofun, _, rfl⟩
      | lost => exact .inl ⟨rfl, rfl⟩

end CommandLine

theorem RunOutcome.exitCode_cases (outcome : RunOutcome) :
    outcome.exitCode = 0 ∨ outcome.exitCode = 1 := by
  rw [exitCode]
  split
  · exact .inl rfl
  · exact .inr rfl

open CommandLine

/-- A run with words that are accepted, started within a limit that can be set, comes to its end
whatever the lines are, provided that standard output takes every text that is written to it. It
answers 0 or 1 for a command, which is reported whether it fails or not, and 0 for a console, which
goes on to the last line; it leaves a known level and a limit that is no lower than before. A command
that was lost is reported as a failure. There are two cases in which a run does not come to its end. If
the environment spells a limit that is too large to be set, nothing is evaluated; and if there is no
command, and the last prompt among the words was given as two dashes attached to the option, there is
nothing to prompt with. -/
theorem runs_end {words : List String} {line : CommandLine} (accepted : read words = .accepted line)
    (depth : Nat) (shell : Variables) (input : String) {limitBefore : Int}
    (settable : limitBefore ≤ Settings.greatestDepthLimit) :
    (Settings.AsksTooMuch shell →
      line.run depth shell input limitBefore = .error .limitTooLarge) ∧
    (line.PromptLost → ∃ word ∈ words, classify word = .option .prompt (some endMark)) ∧
    (¬ Settings.AsksTooMuch shell → line.PromptLost →
      line.run depth shell input limitBefore = .error .promptLost) ∧
    RunFailure.limitTooLarge.className = "OverflowError" ∧
    RunFailure.promptLost.className = "TypeError" ∧
    (¬ Settings.AsksTooMuch shell → ¬ line.PromptLost → ∃ outcome,
      line.run depth shell input limitBefore = .ok outcome ∧
      limitBefore ≤ outcome.depthLimit ∧ outcome.depthLimit ≤ Settings.greatestDepthLimit ∧
      outcome.logLevel ∈ Settings.logLevels.map Prod.snd ∧
      (outcome.exitCode = 0 ∨ outcome.exitCode = 1) ∧
      (∀ command, line.command = some (.text command) → ∃ report,
        Reported depth (Session.start.evaluate depth command).1 outcome.succeeded report ∧
        outcome.output = (Session.start.evaluate depth command).2.store.output ++ report) ∧
      (line.command = some .lost →
        outcome.exitCode = 1 ∧ outcome.output = failureText .unfit) ∧
      (line.command = none → outcome.exitCode = 0 ∧ ∃ prompt, line.promptFor shell = .ok prompt ∧
        Transcript depth prompt Session.start (inputLines input) outcome.output)) := by
  refine ⟨fun asks => ?_, fun lost => lost_of_read accepted lost.2, fun asks lost => ?_, rfl, rfl,
    fun asks kept => ?_⟩
  · rw [run, limitFor_tooLarge asks]
    rfl
  · rw [run_console (limitFor_settable asks settable) lost.1]
    rcases line.promptFor_cases shell with ⟨-, failed⟩ | ⟨notLost, -⟩
    · rw [failed]
      rfl
    · exact absurd lost.2 notLost
  · have set := limitFor_settable asks settable
    have notAbove := (Settings.asksTooMuch_iff shell).not.mp asks
    have least : limitBefore ≤ max limitBefore (Settings.depthLimit shell) := by omega
    have greatest : max limitBefore (Settings.depthLimit shell) ≤ Settings.greatestDepthLimit := by
      omega
    cases given : line.command with
    | none =>
        rcases line.promptFor_cases shell with ⟨isLost, -⟩ | ⟨-, prompt, prompted⟩
        · exact absurd ⟨given, isLost⟩ kept
        · refine ⟨_, by rw [run_console set given, prompted]; rfl, least, greatest,
            Settings.logLevel_known shell _, RunOutcome.exitCode_cases _, fun command same => ?_,
            fun same => ?_, fun _ => ?_⟩
          · cases same
          · cases same
          · exact ⟨rfl, prompt, prompted, transcript_converse depth prompt _ _⟩
    | some value =>
        refine ⟨_, run_command_given set given, least, greatest, Settings.logLevel_known shell _,
          RunOutcome.exitCode_cases _, fun command same => ?_, fun same => ?_, fun none => ?_⟩
        · obtain ⟨succeeded, report, reported, written⟩ :=
            Session.start.evaluateAndReport_reported depth command
          rw [Option.some.inj same, runCommand, written]
          exact ⟨report, reported, rfl⟩
        · obtain rfl : value = .lost := Option.some.inj same
          exact ⟨rfl, rfl⟩
        · cases none

theorem runs_end_unsettable :
    let line : CommandLine := ⟨some (.text "1"), none, none⟩
    line.run 9 [("LISPY_RECURSION_LIMIT", "2147483648")] "" 10000 = .error .limitTooLarge ∧
      ∃ outcome, line.run 9 [("LISPY_RECURSION_LIMIT", "2147483647")] "" 10000 = .ok outcome ∧
        10000 ≤ outcome.depthLimit := by
  intro line
  have accepted : read ["-c", "1"] = .accepted line := by
    rw [read_command, startsWithValue_of_undashed (by decide)]
    rfl
  have settable : (10000 : Int) ≤ Settings.greatestDepthLimit := by decide
  have spelled : IntegerLiteral (trimBoth isNumeralPadding "2147483648".toList) 2147483648 :=
    Settings.readGroupedInteger?_iff.mp (by decide +kernel)
  have asks : Settings.AsksTooMuch [("LISPY_RECURSION_LIMIT", "2147483648")] :=
    ⟨"2147483648", 2147483648, by decide, spelled, by decide⟩
  have greatest : Settings.depthLimit [("LISPY_RECURSION_LIMIT", "2147483647")] = 2147483647 := by
    decide +kernel
  have asksNot : ¬ Settings.AsksTooMuch [("LISPY_RECURSION_LIMIT", "2147483647")] := by
    rw [Settings.asksTooMuch_iff, greatest]
    decide
  obtain ⟨tooLarge, -⟩ := runs_end accepted 9 [("LISPY_RECURSION_LIMIT", "2147483648")] "" settable
  obtain ⟨-, -, -, -, -, ends⟩ :=
    runs_end accepted 9 [("LISPY_RECURSION_LIMIT", "2147483647")] "" settable
  obtain ⟨outcome, ran, least, -⟩ := ends asksNot fun lost => nomatch lost.1
  exact ⟨tooLarge asks, outcome, ran, least⟩

end MiniLisp
