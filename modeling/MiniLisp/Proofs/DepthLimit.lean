import MiniLisp.Console
import MiniLisp.Proofs.LibraryLikeness
import MiniLisp.Proofs.Outcome

namespace MiniLisp

open List (Forall₂)

variable {α β : Type}

/-- Results of computations of which the left one may be cut short. -/
abbrev SameOrCut (left right : Except Failure α) : Prop :=
  Agree (Exhausted True) Eq (Failure.Like Eq) left right

theorem Agree.same_or_cut {left right : Except Failure α} (agree : SameOrCut left right) :
    left = right ∨ left = .error .depthExceeded := by
  cases agree with
  | ok same => exact .inl (congrArg _ same)
  | error like => exact .inl (congrArg _ like.eq)
  | cut short => exact .inr (congrArg _ short.2)

theorem Answer.Like.eq {answer answer' : Answer} (like : Answer.Like Eq Eq answer answer') :
    answer = answer' := by
  cases like with
  | given same => rw [same]
  | list each | tuple each =>
      rw [List.forall₂_eq_eq_eq] at each
      rw [each]
  | _ => rfl

theorem Answer.Alike.eq {answer answer' : Answer} (alike : Answer.Alike Eq answer answer') :
    answer = answer' := by
  cases alike with
  | scalar => rfl
  | like like => exact like.eq

def Store.Continued (before after : Store) : Prop :=
  ∃ more, after.output = before.output ++ more

theorem Store.Continued.refl (store : Store) : store.Continued store := ⟨"", by simp⟩

theorem Store.Continued.trans {first second third : Store} (early : first.Continued second)
    (late : second.Continued third) : first.Continued third := by
  obtain ⟨more, printed⟩ := early
  obtain ⟨rest, printed'⟩ := late
  exact ⟨more ++ rest, by rw [printed', printed, String.append_assoc]⟩

structure Action.Truncates (part whole : Action α) : Prop where
  continued : ∀ store : Store, store.Continued (whole.outcome store).2
  same_or_cut : ∀ store, part.outcome store = whole.outcome store ∨
    (part.outcome store).1 = .error .depthExceeded ∧
      (part.outcome store).2.Continued (whole.outcome store).2

namespace Action.Truncates

theorem refl {action : Action α}
    (continued : ∀ store : Store, store.Continued (action.outcome store).2) :
    Truncates action action := ⟨continued, fun _ => .inl rfl⟩

theorem quiet {action : Action α}
    (silent : ∀ store, (action.outcome store).2.output = store.output) :
    Truncates action action :=
  refl fun store => ⟨"", by rw [silent store, String.append_empty]⟩

theorem throw (failure : Failure) :
    Truncates (MonadExcept.throw failure : Action α) (MonadExcept.throw failure) :=
  quiet fun _ => rfl

theorem pure (x : α) : Truncates (Pure.pure x : Action α) (Pure.pure x) := quiet fun _ => rfl

theorem exhausted {whole : Action α}
    (continued : ∀ store : Store, store.Continued (whole.outcome store).2) :
    Truncates (MonadExcept.throw .depthExceeded) whole :=
  ⟨continued, fun store => .inr ⟨rfl, continued store⟩⟩

theorem ofExcept {result result' : Except Failure α}
    (agree : SameOrCut result result') :
    Truncates (Action.ofExcept result) (Action.ofExcept result') := by
  constructor
  · intro store
    rw [outcome_ofExcept]
    exact .refl store
  · intro store
    rw [outcome_ofExcept, outcome_ofExcept]
    rcases agree.same_or_cut with rfl | cut
    · exact .inl rfl
    · exact .inr ⟨cut, .refl store⟩

theorem bind {part whole : Action α} {next next' : α → Action β} (first : Truncates part whole)
    (second : ∀ x, Truncates (next x) (next' x)) :
    Truncates (part >>= next) (whole >>= next') := by
  have resumed (store : Store) :
      (whole.outcome store).2.Continued ((whole >>= next').outcome store).2 := by
    rw [outcome_bind]
    rcases whole.outcome store with ⟨_ | x, after⟩
    · exact .refl after
    · exact (second x).continued after
  constructor
  · intro store
    exact (first.continued store).trans (resumed store)
  · intro store
    rcases first.same_or_cut store with same | ⟨failed, printed⟩
    · rw [outcome_bind, outcome_bind, same]
      rcases whole.outcome store with ⟨failure | x, after⟩
      · exact .inl rfl
      · exact (second x).same_or_cut after
    · have cut : (part >>= next).outcome store =
          (.error .depthExceeded, (part.outcome store).2) := by
        rw [outcome_bind]
        rcases ended : part.outcome store with ⟨result, after⟩
        rw [ended] at failed
        obtain rfl : result = .error .depthExceeded := failed
        rfl
      rw [cut]
      exact .inr ⟨rfl, printed.trans (resumed store)⟩

theorem mapM {f f' : α → Action β} (each : ∀ x, Truncates (f x) (f' x)) (items : List α) :
    Truncates (items.mapM f) (items.mapM f') := by
  induction items with
  | nil => exact pure []
  | cons item items ih =>
      rw [List.mapM_cons, List.mapM_cons]
      exact (each item).bind fun y => ih.bind fun ys => pure (y :: ys)

theorem reportedBy {part whole : Action α} (name : String) (truncates : Truncates part whole) :
    Truncates (Action.reportedBy name part) (Action.reportedBy name whole) := by
  constructor
  · intro store
    rw [outcome_reportedBy]
    exact truncates.continued store
  · intro store
    rw [outcome_reportedBy, outcome_reportedBy]
    rcases truncates.same_or_cut store with same | ⟨failed, printed⟩
    · exact .inl (by rw [same])
    · exact .inr ⟨by rw [failed]; rfl, printed⟩

theorem read (name : String) (frame : FrameId) :
    Truncates (Action.read name frame) (Action.read name frame) :=
  quiet fun store => by rw [outcome_read]

theorem assign (name : String) (value : Value) (frame : FrameId) :
    Truncates (Action.assign name value frame) (Action.assign name value frame) := by
  refine quiet fun store => ?_
  rw [outcome_assign, Store.assign?]
  cases store.find? name frame <;> rfl

theorem printLine {low high : Nat} (le : low ≤ high) (value : Value) :
    Truncates (Action.printLine low value) (Action.printLine high value) :=
  (ofExcept (Value.text_covers (.inr ⟨⟨⟩, le⟩) .plain value)).bind fun text =>
    refl fun _ => ⟨text ++ "\n", rfl⟩

end Action.Truncates

open MiniLisp.Action (Truncates)

section Forms

variable {low high : Nat} (le : low ≤ high) {frame : FrameId}

include le

theorem mention_covers (value : Value) :
    SameOrCut (value.mention low) (value.mention high) := by
  have text : SameOrCut (value.text .detailed low) (value.text .detailed high) :=
    Value.text_covers (.inr ⟨⟨⟩, le⟩) .detailed value
  cases value with
  | symbol name => exact .ok rfl
  | _ => exact text

theorem bindableName_covers (form : Keyword) (operand : Value) :
    SameOrCut (SpecialForm.bindableName low form operand)
      (SpecialForm.bindableName high form operand) := by
  have mentioned : SameOrCut (operand.mention low >>= fun text => .error (.nameExpected form text))
      (operand.mention high >>= fun text => (.error (.nameExpected form text) :
        Except Failure String)) :=
    (mention_covers le operand).refusal fun _ _ => .nameExpected form
  cases operand with
  | symbol name =>
      simp only [SpecialForm.bindableName]
      split
      · exact .error (.same _)
      · exact .ok rfl
  | _ => exact mentioned

theorem parameterNames_covers (parameters : List Value) :
    SameOrCut (SpecialForm.parameterNames low parameters)
      (SpecialForm.parameterNames high parameters) := by
  induction parameters with
  | nil => exact .ok rfl
  | cons parameter parameters ih =>
      have mentioned : SameOrCut (parameter.mention low >>= fun text => .error (.parameterExpected text))
          (parameter.mention high >>= fun text => (.error (.parameterExpected text) :
            Except Failure (List String))) :=
        (mention_covers le parameter).refusal fun _ _ => .parameterExpected
      cases parameter with
      | symbol name => exact ih.map fun _ _ same => congrArg _ same
      | _ => exact mentioned

theorem listArgument_covers (sentence : String) (value : Value) :
    SameOrCut (listArgument low sentence value)
      (listArgument high sentence value) := by
  have refused : SameOrCut (Value.refuse low sentence value : Except Failure (List Value))
      (Value.refuse high sentence value) :=
    (Resemblance.self True).refuse (.inr ⟨⟨⟩, le⟩) sentence rfl
  cases value with
  | list _ items => exact .ok rfl
  | _ => exact refused

variable {evaluation evaluation' : SpecialForm.Evaluation}
  (evaluates : ∀ expr frame, Truncates (evaluation expr frame) (evaluation' expr frame))

include evaluates

theorem form_truncates (operands : List Value) (keyword : Keyword) :
    Truncates (SpecialForm.evaluate low evaluation frame operands keyword)
      (SpecialForm.evaluate high evaluation' frame operands keyword) := by
  have refused {text : Except Failure String} {text' : Except Failure String}
      (agree : SameOrCut text text')
      (failure : String → Failure) :
      Truncates (Action.ofExcept text >>= fun text => (throw (failure text) : Action Value))
        (Action.ofExcept text' >>= fun text => throw (failure text)) :=
    (Truncates.ofExcept agree).bind fun _ => .throw _
  cases keyword with
  | quotation =>
      change Truncates (SpecialForm.quotation operands) (SpecialForm.quotation operands)
      unfold SpecialForm.quotation
      split
      · exact .pure _
      · exact .throw _
  | conditional =>
      simp only [SpecialForm.evaluate, SpecialForm.conditional]
      split
      · refine (evaluates _ frame).bind fun verdict => ?_
        split
        · exact evaluates _ frame
        · exact .pure _
      · exact (evaluates _ frame).bind fun verdict => evaluates _ frame
      · exact .throw _
  | definition =>
      simp only [SpecialForm.evaluate, SpecialForm.definition]
      split
      · refine (Truncates.ofExcept (bindableName_covers le _ _)).bind fun name => ?_
        exact (evaluates _ frame).bind fun value =>
          (Truncates.quiet fun _ => rfl).bind fun _ => .pure _
      · exact .throw _
  | assignment =>
      simp only [SpecialForm.evaluate, SpecialForm.assignment]
      split
      · refine (Truncates.ofExcept (bindableName_covers le _ _)).bind fun name => ?_
        exact (evaluates _ frame).bind fun value =>
          (Truncates.assign name value frame).bind fun _ => .pure _
      · exact .throw _
  | abstraction =>
      simp only [SpecialForm.evaluate, SpecialForm.abstraction]
      split
      · exact (Truncates.ofExcept (parameterNames_covers le _)).bind fun names =>
          .quiet fun _ => rfl
      · exact refused (mention_covers le _) _
      · exact .throw _

end Forms

def Shortens (low high : Nat) : Prop :=
  (∀ expr frame, Truncates (evaluate low expr frame) (evaluate high expr frame)) ∧
    ∀ procedure arguments, Truncates (apply low procedure arguments) (apply high procedure arguments)

theorem Shortens.succ {low high : Nat} (le : low ≤ high) (shortens : Shortens low high) :
    Shortens (low + 1) (high + 1) := by
  obtain ⟨evaluates, applies⟩ := shortens
  have covers : Covers True low high := .inr ⟨⟨⟩, le⟩
  have same := Resemblance.self True
  constructor
  · intro expr frame
    unfold evaluate
    split
    · exact .read _ frame
    · exact .throw _
    · split
      · exact form_truncates le evaluates _ _
      · exact (evaluates _ frame).bind fun procedure =>
          (Truncates.mapM (fun operand => evaluates operand frame) _).bind fun arguments =>
            applies procedure arguments
    · exact .pure _
  · intro procedure arguments
    unfold apply
    split
    · exact (Truncates.quiet fun _ => rfl).bind fun frame => evaluates _ frame
    · refine .reportedBy _ ?_
      split
      · refine (Truncates.ofExcept ?_).bind fun answer => .quiet fun _ => rfl
        exact (same.operation covers _ (List.forall₂_refl _)).imp
          (fun _ _ like => like.eq) fun _ _ => id
      · refine (Truncates.ofExcept ?_).bind fun answer => .quiet fun _ => rfl
        exact (same.function covers _ (List.forall₂_refl _)).imp
          (fun _ _ alike => alike.eq) fun _ _ => id
      · exact (Truncates.printLine le _).bind fun _ => .pure _
      · exact (Truncates.ofExcept (listArgument_covers le _ _)).bind fun items => applies _ items
      · exact (Truncates.ofExcept (listArgument_covers le _ _)).bind fun items =>
          (Truncates.mapM (fun item => applies _ [item]) items).bind fun results =>
            .quiet fun _ => rfl
      · exact .throw _
    · exact (Truncates.ofExcept (Value.text_covers covers .plain _)).bind fun _ => .throw _

/-- By induction on the larger limit: where the smaller one is used up, the larger one is known to go
on printing from the case in which both are one higher. -/
theorem shortens (low high : Nat) (le : low ≤ high) : Shortens low high := by
  induction high generalizing low with
  | zero =>
      obtain rfl : low = 0 := Nat.le_zero.mp le
      constructor
      · intro expr frame
        unfold evaluate
        exact .throw _
      · intro procedure arguments
        unfold apply
        exact .throw _
  | succ high ih =>
      cases low with
      | zero =>
          have longer := (ih high (Nat.le_refl _)).succ (Nat.le_refl _)
          constructor
          · intro expr frame
            conv => lhs; unfold evaluate
            exact .exhausted (longer.1 expr frame).continued
          · intro procedure arguments
            conv => lhs; unfold apply
            exact .exhausted (longer.2 procedure arguments).continued
      | succ low =>
          have le := Nat.le_of_succ_le_succ le
          exact (ih low le).succ le

theorem readOpen_room (tokens : List String) (openLists : OpenLists) {low high : Nat}
    (le : low ≤ high) :
    readOpen tokens openLists low = readOpen tokens openLists high ∨
      (readOpen tokens openLists low).1 = .error .depthExceeded := by
  induction tokens generalizing openLists low high with
  | nil => exact .inl (by rw [readOpen, readOpen])
  | cons token rest ih =>
      unfold readOpen
      split
      · cases low with
        | zero => exact .inr rfl
        | succ low =>
            obtain ⟨above, rfl⟩ := Nat.exists_eq_add_of_lt le
            exact ih _ (Nat.le_of_succ_le_succ le)
      · split
        · rcases openLists with _ | ⟨items, _ | ⟨outer, outermost⟩⟩
          · exact .inl rfl
          · exact .inl rfl
          · exact ih _ (Nat.succ_le_succ le)
        · rcases openLists with _ | ⟨items, outer⟩
          · exact .inl rfl
          · exact ih _ le

theorem parse_covers (line : String) {low high : Nat} (le : low ≤ high) :
    SameOrCut (parse low line) (parse high line) := by
  rcases readOpen_room (tokenize line) [] le with same | cut
  · rw [parse, parse, same]
    exact .same _
  · have failed : parse low line = .error .depthExceeded := by
      rw [parse]
      split <;> simp_all
    rw [failed]
    exact .cut ⟨⟨⟩, rfl⟩

theorem evaluateLine_truncates {low high : Nat} (le : low ≤ high) (line : String)
    (frame : FrameId) :
    Truncates (evaluateLine low line frame) (evaluateLine high line frame) := by
  have coded : Truncates (readCode low line) (readCode high line) :=
    (Truncates.ofExcept (parse_covers line le)).bind fun expr => .quiet fun _ => rfl
  exact coded.bind fun code => (shortens low high le).1 code frame

/-- Runs under all limits that are large enough come to the same, or no limit is large enough. -/
def Settles {γ : Type} (run : Nat → γ) (cut : γ → Prop) : Prop :=
  (∃ bound, ¬ cut (run bound) ∧ ∀ limit, bound ≤ limit → run limit = run bound) ∨
    ∀ limit, cut (run limit)

theorem settles_of_same_or_cut {γ : Type} {run : Nat → γ} {cut : γ → Prop}
    (same_or_cut : ∀ low high, low ≤ high → run low = run high ∨ cut (run low)) :
    Settles run cut := by
  by_cases always : ∀ limit, cut (run limit)
  · exact .inr always
  · obtain ⟨bound, whole⟩ := not_forall.mp always
    refine .inl ⟨bound, whole, fun limit le => ?_⟩
    exact ((same_or_cut bound limit le).resolve_right whole).symm

namespace Session

def CutAfter (printed : String) (report : (Bool × String) × Session) : Prop :=
  report.1 = (false, printed ++ failureText .depthExceeded)

theorem resultText_covers {low high : Nat} (le : low ≤ high) (value : Value) :
    SameOrCut (resultText low value) (resultText high value) := by
  have plain : SameOrCut (value.text .plain low) (value.text .plain high) :=
    Value.text_covers (.inr ⟨⟨⟩, le⟩) .plain value
  have text : SameOrCut ((value.text .plain low).map (· ++ "\n"))
      ((value.text .plain high).map (· ++ "\n")) :=
    plain.map fun _ _ same => by rw [same]
  cases value with
  | nothing => exact .ok rfl
  | _ => exact text

variable (session : Session) (line : String)

theorem evaluateAndReport_eq {depth : Nat} {result : Except Failure Value} {after : Session}
    (evaluated : session.evaluate depth line = (result, after)) :
    session.evaluateAndReport depth line =
      (((reportText (result.bind (resultText depth))).1,
        after.store.output ++ (reportText (result.bind (resultText depth))).2),
        after.takeOutput.2) := by
  rw [evaluateAndReport, evaluated]
  rfl

variable {low high : Nat} (le : low ≤ high)

include le

theorem evaluate_same_or_cut :
    session.evaluate low line = session.evaluate high line ∨
      (session.evaluate low line).1 = .error .depthExceeded := by
  have truncates := evaluateLine_truncates le line session.global
  rcases truncates.same_or_cut session.store with same | ⟨failed, -⟩
  · exact .inl (by rw [evaluate_outcome, evaluate_outcome, same])
  · exact .inr failed

theorem evaluate_continued :
    (session.evaluate low line).2.store.Continued (session.evaluate high line).2.store := by
  have truncates := evaluateLine_truncates le line session.global
  rcases truncates.same_or_cut session.store with same | ⟨-, printed⟩
  · rw [evaluate_outcome, evaluate_outcome, same]
    exact .refl _
  · exact printed

theorem report_same_or_cut :
    session.evaluateAndReport low line = session.evaluateAndReport high line ∨
      ∃ printed more, CutAfter printed (session.evaluateAndReport low line) ∧
        (session.evaluateAndReport high line).1.2 = printed ++ more := by
  have continued := session.evaluate_continued line le
  have same_or_cut := session.evaluate_same_or_cut line le
  rcases ended : session.evaluate low line with ⟨result, after⟩
  rcases ended' : session.evaluate high line with ⟨result', after'⟩
  rw [ended, ended'] at continued same_or_cut
  rw [session.evaluateAndReport_eq line ended, session.evaluateAndReport_eq line ended']
  -- What is reported on the left is a result that is cut short, or it is what the right reports.
  have reported : (result.bind (resultText low) = .error .depthExceeded) ∨
      result.bind (resultText low) = result'.bind (resultText high) ∧ after = after' := by
    rcases same_or_cut with same | cut
    · cases same
      cases result with
      | error failure => exact .inr ⟨rfl, rfl⟩
      | ok value =>
          rcases (resultText_covers le value).same_or_cut with same | cut
          · exact .inr ⟨same, rfl⟩
          · exact .inl cut
    · obtain rfl : result = .error .depthExceeded := cut
      exact .inl rfl
  rcases reported with cut | ⟨same, rfl⟩
  · obtain ⟨more, printed⟩ := continued
    refine .inr ⟨after.store.output, more ++ (reportText (result'.bind (resultText high))).2, ?_, ?_⟩
    · rw [cut]
      rfl
    · rw [printed, String.append_assoc]
  · exact .inl (by rw [same])

omit le

/-- The limit on depth shows in no other way than that a line may be cut short. -/
theorem limit_unobservable :
    (∀ low high, low ≤ high →
      (session.evaluate low line = session.evaluate high line ∨
        (session.evaluate low line).1 = .error .depthExceeded) ∧
      (session.evaluate low line).2.store.Continued (session.evaluate high line).2.store ∧
      (session.evaluateAndReport low line = session.evaluateAndReport high line ∨
        ∃ printed more, CutAfter printed (session.evaluateAndReport low line) ∧
          (session.evaluateAndReport high line).1.2 = printed ++ more)) ∧
    Settles (session.evaluate · line) (fun result => result.1 = .error .depthExceeded) ∧
    Settles (session.evaluateAndReport · line) (fun report => ∃ printed, CutAfter printed report) := by
  refine ⟨fun low high le => ⟨session.evaluate_same_or_cut line le,
    session.evaluate_continued line le, session.report_same_or_cut line le⟩, ?_, ?_⟩
  · exact settles_of_same_or_cut fun low high le => session.evaluate_same_or_cut line le
  · refine settles_of_same_or_cut fun low high le => ?_
    exact (session.report_same_or_cut line le).imp_right fun ⟨printed, _, cut, _⟩ => ⟨printed, cut⟩

/-- In this session `(f)` prints and then goes on to the combination `(((())))`, which is empty inside. -/
def printing : Session :=
  let go := Value.list 1 [.symbol "print", .list 2 [.symbol "quote", .symbol "go"]]
  let empty := Value.list 3 [.list 4 [.list 5 [.list 6 []]]]
  ⟨(Store.empty.push ⟨[("print", .primitive .print),
    ("f", .closure 7 [] (.list 0 [go, empty]) 0)], none⟩).2, 0⟩

theorem printing_limits :
    6 ≤ 7 ∧ CutAfter "go\n" (printing.evaluateAndReport 6 "(f)") ∧
      (∀ limit, 6 ≤ limit →
        ∃ more, (printing.evaluateAndReport limit "(f)").1.2 = "go\n" ++ more) ∧
      ∀ limit, 7 ≤ limit → (printing.evaluate limit "(f)").1 = .error .emptyCombination := by
  obtain ⟨steps, -⟩ := limit_unobservable printing "(f)"
  have cut : CutAfter "go\n" (printing.evaluateAndReport 6 "(f)") := by with_unfolding_all rfl
  have whole : (printing.evaluate 7 "(f)").1 = .error .emptyCombination := by
    with_unfolding_all rfl
  refine ⟨by decide, cut, fun limit le => ?_, fun limit le => ?_⟩
  · rcases (steps 6 limit le).2.2 with same | ⟨printed, more, cut', longer⟩
    · exact ⟨failureText .depthExceeded, by rw [← same, cut]⟩
    · have both := congrArg Prod.snd (cut'.symm.trans cut)
      obtain rfl : printed = "go\n" := (String.append_left_inj _).mp both
      exact ⟨more, longer⟩
  · rcases (steps 7 limit le).1 with same | contrary
    · rw [← same, whole]
    · rw [whole] at contrary
      cases contrary

end Session

end MiniLisp
