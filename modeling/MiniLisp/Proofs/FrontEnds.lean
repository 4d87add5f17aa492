import MiniLisp.CommandLine
import MiniLisp.Proofs.DepthLimit
import MiniLisp.Proofs.Grammar
import MiniLisp.Proofs.Silence
import MiniLisp.Proofs.Tokens

namespace MiniLisp

namespace Session

variable (session : Session) (depth : Nat)

theorem evaluate_congr {line line' : String} (same : tokenize line = tokenize line') :
    session.evaluate depth line = session.evaluate depth line' := by
  rw [evaluate_outcome, evaluate_outcome, evaluateLine, evaluateLine, readCode, readCode,
    parse_congr same]

theorem respond_lineFeed (line : String) :
    session.respond depth (line ++ "\n") = session.respond depth line := by
  have feed : isBlankLine "\n" = true := by decide
  have blank : isBlankLine (line ++ "\n") = isBlankLine line := by
    rw [isBlankLine, String.toList_append, List.all_append]
    exact Bool.and_true _
  rw [respond, respond, blank, evaluateAndReport, evaluateAndReport,
    session.evaluate_congr depth (tokenize_append_blank line feed)]

end Session

/-- What is reported for the result of a line, and whether it counts as a success. -/
inductive Reported (depth : Nat) : Except Failure Value → Bool → String → Prop
  | nothing : Reported depth (.ok .nothing) true ""
  | shown {value : Value} {text : String} (some_value : value ≠ .nothing)
      (shows : value.text .plain depth = .ok text) :
      Reported depth (.ok value) true (text ++ "\n")
  | unshown {value : Value} {failure : Failure} (some_value : value ≠ .nothing)
      (fails : value.text .plain depth = .error failure) :
      Reported depth (.ok value) false
        ("error: " ++ failure.className ++ ": " ++ failure.message ++ "\n")
  | failed {failure : Failure} :
      Reported depth (.error failure) false
        ("error: " ++ failure.className ++ ": " ++ failure.message ++ "\n")

theorem resultText_of_ne {value : Value} (some_value : value ≠ .nothing) (depth : Nat) :
    resultText depth value = (value.text .plain depth).map (· ++ "\n") := by
  cases value <;> first | rfl | exact absurd rfl some_value

theorem reported_reportText (depth : Nat) (result : Except Failure Value) :
    Reported depth result (reportText (result.bind (resultText depth))).1
      (reportText (result.bind (resultText depth))).2 := by
  cases result with
  | error failure => exact .failed
  | ok value =>
      by_cases some_value : value = .nothing
      · subst some_value
        exact .nothing
      · change Reported depth (.ok value) (reportText (resultText depth value)).1
          (reportText (resultText depth value)).2
        rw [resultText_of_ne some_value]
        cases shows : value.text .plain depth with
        | error failure => exact .unshown some_value shows
        | ok text => exact .shown some_value shows

/-- Lines as they are typed in: a line feed ends each, but that the last one may lack it. -/
inductive Typed : List String → Prop
  | none : Typed []
  | unended {line : String} (some_text : line ≠ "") (inside : '\n' ∉ line.toList) : Typed [line]
  | ended {line : String} {lines : List String} (inside : '\n' ∉ line.toList)
      (others : Typed lines) : Typed ((line ++ "\n") :: lines)

section Lines

theorem typed_linesFrom {line : List Char} (inside : '\n' ∉ line) (text : List Char) :
    Typed ((linesFrom line text).map String.ofList) := by
  induction text generalizing line with
  | nil =>
      rw [linesFrom]
      split
      · exact .none
      · rename_i some_text
        refine .unended ?_ (by simpa using inside)
        intro empty
        have same := congrArg String.toList empty
        simp at same
        simp [same] at some_text
  | cons c text ih =>
      rw [linesFrom]
      split
      · rename_i feed
        have split : String.ofList (c :: line).reverse = String.ofList line.reverse ++ "\n" := by
          rw [← String.toList_inj]
          simp [feed]
        rw [List.map_cons, split]
        exact .ended (by simpa using inside) (ih (by simp))
      · rename_i other
        exact ih (by simp [inside, Ne.symm other])

theorem flatten_linesFrom (line text : List Char) :
    (linesFrom line text).flatten = line.reverse ++ text := by
  induction text generalizing line with
  | nil =>
      rw [linesFrom]
      split <;> simp_all
  | cons c text ih =>
      rw [linesFrom]
      split
      · simp [ih]
      · simp [ih]

theorem typed_inputLines (input : String) : Typed (inputLines input) :=
  typed_linesFrom (by simp) input.toList

theorem join_inputLines (input : String) : String.join (inputLines input) = input := by
  rw [← String.toList_inj, String.toList_join, inputLines, List.flatMap_map]
  have same := flatten_linesFrom [] input.toList
  simpa [List.flatMap_def] using same

theorem inputLines_single {line : String} (some_text : line ≠ "") (inside : '\n' ∉ line.toList) :
    inputLines line = [line] := by
  have typed := typed_inputLines line
  have joined := join_inputLines line
  generalize inputLines line = lines at typed joined
  cases typed with
  | none => exact absurd joined.symm some_text
  | unended =>
      rw [String.join_cons] at joined
      simpa using joined
  | ended =>
      rw [String.join_cons] at joined
      rw [← joined] at inside
      simp at inside

end Lines

namespace Session

variable (session : Session) (depth : Nat)

def toEvaluate (depth : Nat) (lines : List String) : List (Nat × String) :=
  (lines.filter fun line => !isBlankLine line).map (depth, ·)

theorem respond_written (line : String) : (session.respond depth line).1 =
    if isBlankLine line then "" else (session.evaluateAndReport depth line).1.2 := by
  rw [respond]
  split <;> rfl

theorem evaluateAndReport_reported (line : String) :
    ∃ succeeded report, Reported depth (session.evaluate depth line).1 succeeded report ∧
      session.evaluateAndReport depth line =
        ((succeeded, (session.evaluate depth line).2.store.output ++ report),
          (session.evaluate depth line).2.silent) :=
  ⟨_, _, reported_reportText depth _, session.evaluateAndReport_eq line rfl⟩

def afterLine (line : String) : Session :=
  if isBlankLine line then session else (session.evaluate depth line).2

theorem evaluateAll_cons (line : String) (lines : List String) :
    (session.evaluateAll (toEvaluate depth (line :: lines))).2 =
      ((session.afterLine depth line).evaluateAll (toEvaluate depth lines)).2 := by
  by_cases blank : isBlankLine line
  · simp [toEvaluate, afterLine, blank]
  · simp [toEvaluate, afterLine, blank, evaluateAll]

theorem respond_state (line : String) :
    (session.silent.respond depth line).2 = (session.afterLine depth line).silent := by
  by_cases blank : isBlankLine line
  · rw [respond, afterLine, if_pos blank, if_pos blank]
  · obtain ⟨succeeded, report, -, written⟩ :=
      session.silent.evaluateAndReport_reported depth line
    rw [respond, afterLine, if_neg blank, if_neg blank, written]
    exact (session.evaluate_silent depth line).2.symm

/-- A console shows a prompt and what is written for a line, for each line, and a last prompt. Its
state is the one that the lines lead to. -/
theorem converse_silent (prompt : String) (lines : List String) :
    session.silent.converse depth prompt lines =
      (String.join (lines.mapIdx fun k line => prompt ++
          ((session.evaluateAll (toEvaluate depth (lines.take k))).2.silent.respond depth line).1) ++
        prompt ++ "\n",
        (session.evaluateAll (toEvaluate depth lines)).2.silent) := by
  induction lines generalizing session with
  | nil => simp [converse, toEvaluate, evaluateAll, String.join]
  | cons line lines ih =>
      have step := ih (session.afterLine depth line)
      rw [converse]
      simp only [respond_state, step, List.mapIdx_cons, List.take_zero, List.take_succ_cons,
        evaluateAll_cons, String.join_cons, String.append_assoc]
      rfl

theorem converse_single {line : String} (some_token : isBlankLine line = false) (prompt : String) :
    (session.converse depth prompt [line]).1 =
      prompt ++ (session.evaluateAndReport depth line).1.2 ++ prompt ++ "\n" := by
  have written := session.respond_written depth line
  rw [some_token] at written
  change prompt ++ (session.respond depth line).1 ++ (prompt ++ "\n") = _
  rw [written, ← String.append_assoc]
  rfl

end Session

namespace CommandLine

variable {command : String}

theorem classify_ne_dash (undashed : command.toList.head? ≠ some '-') :
    classify command = .value := by
  unfold classify
  dsimp only
  split
  · rename_i same
    rw [same] at undashed
    exact absurd rfl undashed
  · rfl

theorem startsWithValue_of_undashed (undashed : command.toList.head? ≠ some '-') :
    startsWithValue [command] = true := by
  have other : command ≠ endMark := by
    rintro rfl
    exact undashed (by decide)
  simp [startsWithValue, other, classify_ne_dash undashed]

theorem classify_command : classify "-c" = .option .command none := by decide

theorem readFrom_command (command : String) : readFrom empty false ["-c", command] =
    if startsWithValue [command] then .accepted ⟨some (.text command), none, none⟩
    else .rejected := by
  have option : ("-c" = endMark) = False := by decide
  rw [readFrom, classify_command]
  simp only [option, if_false]
  by_cases taken : startsWithValue [command]
  · rw [if_pos taken, if_pos taken]
    rfl
  · rw [if_neg taken, if_neg taken]

theorem read_command (command : String) : read ["-c", command] =
    if startsWithValue [command] then .accepted ⟨some (.text command), none, none⟩
    else .rejected := by
  rw [read, readFrom_command]
  by_cases taken : startsWithValue [command]
  · have value : command ≠ endMark ∧ classify command = .value := by
      simpa [startsWithValue] using taken
    have unambiguous : (["-c", command].takeWhile (· ≠ endMark)).any
        (fun word => classify word = .ambiguous) = false := by
      have option : "-c" ≠ endMark := by decide
      simp [option, value.1, value.2, classify_command]
    rw [unambiguous]
    rfl
  · rw [if_neg taken, ite_self]

theorem run_command (depth : Nat) (command : String) (shell : Variables) (input : String)
    (limitBefore : Int) :
    run depth ⟨some (.text command), none, none⟩ shell input limitBefore =
      (limitFor shell limitBefore).map fun limit =>
        ⟨(Session.start.evaluateAndReport depth command).1.1,
          (Session.start.evaluateAndReport depth command).1.2, Settings.logLevel none shell, limit⟩ := by
  rw [run]
  cases limitFor shell limitBefore <;> rfl

end CommandLine

open Session CommandLine

/-- From every state and for every input a console shows, for each line in turn, the prompt and what
evaluating the line writes, or nothing if it is blank, and at last the prompt once more; no failure
ends this, and its state in the end is that of evaluating the lines that are not blank. The lines are
those that line feeds end, and it makes no difference that these belong to them; the blank ones are
those without tokens. What is written for a line is what it prints, and then nothing, the text of its
value or its failure, and only this does not count as a success. A command that can be the value of
the option, as every one can that does not begin with a dash, is written and answered just like the
only line of a console. -/
theorem front_ends_agree (depth : Nat) :
    (∀ (session : Session) prompt input,
      let lines := inputLines input
      let before (k : Nat) := (session.evaluateAll (toEvaluate depth (lines.take k))).2.silent
      session.silent.converse depth prompt lines =
        (String.join (lines.mapIdx fun k line => prompt ++
            if isBlankLine line then "" else ((before k).evaluateAndReport depth line).1.2) ++
          prompt ++ "\n",
          (session.evaluateAll (toEvaluate depth lines)).2.silent)) ∧
    (∀ input, Typed (inputLines input) ∧ String.join (inputLines input) = input) ∧
    (∀ (session : Session) line,
      session.respond depth (line ++ "\n") = session.respond depth line) ∧
    (∀ line, isBlankLine line = true ↔ tokenize line = []) ∧
    (∀ (session : Session) line, ∃ succeeded report,
      Reported depth (session.evaluate depth line).1 succeeded report ∧
      session.evaluateAndReport depth line =
        ((succeeded, (session.evaluate depth line).2.store.output ++ report),
          (session.evaluate depth line).2.silent)) ∧
    ∀ command, isBlankLine command = false → '\n' ∉ command.toList →
      (command.toList.head? ≠ some '-' → startsWithValue [command] = true) ∧
      (startsWithValue [command] = false → read ["-c", command] = .rejected) ∧
      (startsWithValue [command] = true → ∃ line succeeded written,
        read ["-c", command] = .accepted line ∧
        (start.evaluateAndReport depth command).1 = (succeeded, written) ∧
        (∀ prompt, (start.converse depth prompt (inputLines command)).1 =
          prompt ++ written ++ prompt ++ "\n") ∧
        ∀ shell input limitBefore, run depth line shell input limitBefore =
          (limitFor shell limitBefore).map fun limit =>
            ⟨succeeded, written, Settings.logLevel none shell, limit⟩) := by
  refine ⟨?_, ?_, ?_, isBlankLine_iff, ?_, ?_⟩
  · intro session prompt input lines before
    rw [session.converse_silent]
    simp only [respond_written]
    rfl
  · exact fun input => ⟨typed_inputLines input, join_inputLines input⟩
  · exact fun session line => session.respond_lineFeed depth line
  · exact fun session line => session.evaluateAndReport_reported depth line
  · intro command some_token inside
    refine ⟨startsWithValue_of_undashed, fun untaken => ?_, fun taken => ?_⟩
    · rw [read_command, untaken]
      rfl
    · have some_text : command ≠ "" := by
        rintro rfl
        exact absurd some_token (by decide)
      refine ⟨_, _, _, by rw [read_command, if_pos taken], rfl, fun prompt => ?_,
        run_command depth command⟩
      rw [inputLines_single some_text inside]
      exact start.converse_single depth some_token prompt

theorem front_ends_agree_unbound :
    ∃ line written, read ["-c", "nowhere"] = .accepted line ∧
      (start.converse 9 "> " (inputLines "nowhere")).1 = "> " ++ written ++ "> " ++ "\n" := by
  obtain ⟨-, -, -, -, -, commands⟩ := front_ends_agree 9
  obtain ⟨undashed, -, agree⟩ := commands "nowhere" (by decide) (by decide)
  obtain ⟨line, succeeded, written, accepted, -, shown, -⟩ := agree (undashed (by decide))
  exact ⟨line, written, accepted, shown "> "⟩

/-- A command with a dash in front is none, while a console takes it for a name. -/
theorem dashed_command_rejected :
    isBlankLine "-x" = false ∧ '\n' ∉ "-x".toList ∧ read ["-c", "-x"] = .rejected ∧
      ∀ prompt, (start.converse 9 prompt (inputLines "-x")).1 =
        prompt ++ "error: LispyUnboundSymbol: Unbound symbol -x\n" ++ prompt ++ "\n" := by
  have parsed : parse 9 "-x" = .ok (.symbol "-x") := by with_unfolding_all rfl
  have unbound : start.store.lookup? "-x" start.global = none := by
    have absent : ((start.store.bindingsOf start.global).get? "-x").isSome = false := by
      with_unfolding_all rfl
    have outermost : start.store.outerOf start.global = none := rfl
    rw [Store.lookup?, Store.find?, absent, outermost]
    rfl
  have failed : start.evaluate 9 "-x" = (.error (.unboundSymbol "-x"), start) := by
    have run : (MiniLisp.evaluate 9 (.symbol "-x") start.global).outcome start.store =
        (.error (.unboundSymbol "-x"), start.store) := by
      rw [MiniLisp.evaluate, Action.outcome_read, unbound]
    rw [start.evaluate_read parsed]
    exact congrArg (fun run => (run.1, Session.mk run.2 start.global)) run
  have written : (start.evaluateAndReport 9 "-x").1.2 =
      "error: LispyUnboundSymbol: Unbound symbol -x\n" := by
    rw [start.evaluateAndReport_eq "-x" failed]
    decide
  have untaken : startsWithValue ["-x"] = false := by decide
  refine ⟨by decide, by decide, ?_, fun prompt => ?_⟩
  · rw [read_command, untaken]
    rfl
  · rw [inputLines_single (by decide) (by decide), start.converse_single 9 (by decide), written]

end MiniLisp
