import MiniLisp.Proofs.RoundTrip
import MiniLisp.Proofs.Transparency
import MiniLisp.Proofs.Underway

namespace MiniLisp

theorem legible_of_parse {depth : Nat} {line : String} {expr : Expr}
    (read : parse depth line = .ok expr) (next : ObjectId) :
    ¬ (expr.toValue next).1.HoldsHuge := by
  refine parse_holds (p := fun _ expr => ∀ next, ¬ (expr.toValue next).1.HoldsHuge) ?_ ?_ read next
  · rintro room items legible next ⟨n, within, huge⟩
    rw [toValue_list] at within
    rcases within with _ | ⟨member, deeper⟩
    obtain ⟨item, among, start, rfl, -, -⟩ := mem_toValues member
    exact legible item among start ⟨n, deeper, huge⟩
  · rintro token - - - room next ⟨n, within, huge⟩
    unfold Expr.ofToken at within
    cases integer : readInteger? token.toList with
    | some m =>
        rw [integer] at within
        cases within
        exact Nat.not_lt_of_le huge (readInteger?_bound integer)
    | none =>
        rw [integer] at within
        cases decimal : readDecimal? token.toList with
        | some x =>
            rw [decimal] at within
            cases within
        | none =>
            rw [decimal] at within
            cases within

theorem legibilityWatch_reads : legibilityWatch.Reads := legible_of_parse

theorem Session.evaluateAll_legible (lines : List (Nat × String)) :
    (start.evaluateAll lines).2.store.LegibleCode := by
  rw [start.evaluateAll_recorded lines []]
  exact (legibilityWatch.evaluateAll_keeps legibilityWatch_reads start.global lines
    Chronicle.allows_start).1.bindings

section Primitives

variable {depth : Nat} {store : Store} {failure : Failure}

theorem apply_arises {procedure : Value} {arguments : List Value}
    (failed : ((apply depth procedure arguments).outcome store).1 = .error failure) :
    failure.arises = true := by
  obtain ⟨same, -⟩ := Recorded.apply_erases depth procedure arguments ⟨store, []⟩
  rw [← same] at failed
  exact (((Recorded.run_unwinds depth).2 procedure arguments ⟨store, []⟩).failed failure failed).1

theorem raw_of_answered {result : Except Failure Answer} (raw : FailsRaw result)
    (failed : ((do Action.allocate (← Action.ofExcept result)).outcome store).1 = .error failure) :
    failure.isRaw = true := by
  rcases Action.error_of_bind failed with failed | ⟨answer, -, contrary⟩
  · rw [Action.outcome_ofExcept] at failed
    exact raw failure failed
  · cases contrary

theorem fails_inside (p : Primitive) (arguments : List Value)
    (failed : ((apply (depth + 1) (.primitive p) arguments).outcome store).1 = .error failure) :
    ∃ inner, inner.reportedBy p.name = failure ∧ (inner.isRaw = true ∨ (p = .apply ∨ p = .map) ∧
      ∃ procedure given start, ((apply depth procedure given).outcome start).1 = .error inner) := by
  unfold apply at failed
  rw [Action.outcome_reportedBy] at failed
  obtain ⟨inner, raised, rfl⟩ := error_of_mapError failed
  clear failed
  refine ⟨inner, rfl, ?_⟩
  split at raised
  · exact .inl (raw_of_answered (Operation.answer_raw depth _ _) raised)
  · exact .inl (raw_of_answered (LibraryFunction.answer_raw depth _ _) raised)
  · rcases Action.error_of_bind raised with raised | ⟨_, -, contrary⟩
    · rcases Action.error_of_bind raised with raised | ⟨_, -, contrary⟩
      · rw [Action.outcome_ofExcept] at raised
        exact .inl (Value.text_raw depth _ .plain inner raised)
      · cases contrary
    · cases contrary
  · rcases Action.error_of_bind raised with raised | ⟨given, -, raised⟩
    · rw [Action.outcome_ofExcept] at raised
      exact .inl (listArgument_raw depth _ _ inner raised)
    · exact .inr ⟨.inl rfl, _, given, _, raised⟩
  · rcases Action.error_of_bind raised with raised | ⟨items, -, raised⟩
    · rw [Action.outcome_ofExcept] at raised
      exact .inl (listArgument_raw depth _ _ inner raised)
    · rcases Action.error_of_bind raised with raised | ⟨results, -, contrary⟩
      · rcases mapM_each depth _ items _ with ⟨results, after, -, mapped⟩ |
          ⟨done, item, rest, results, middle, other, after, -, -, applied, mapped⟩
        · rw [mapped] at raised
          cases raised
        · rw [mapped] at raised
          cases raised
          exact .inr ⟨.inr rfl, _, [item], middle, congrArg Prod.fst applied⟩
      · cases contrary
  · cases raised
    exact .inl rfl

theorem raw_or_domestic (arises : failure.arises = true) :
    failure.isRaw = true ∨ failure.isDomestic = true := by
  cases failure <;> first | exact .inl rfl | exact .inr rfl | cases arises

/-- A primitive fails with a rejection under its own name, whatever it is applied to, if not for
want of depth or memory or because an application fails that it makes. -/
theorem primitive_fails (depth : Nat) (p : Primitive) (arguments : List Value)
    (failed : ((apply depth (.primitive p) arguments).outcome store).1 = .error failure) :
    failure = .depthExceeded ∨ failure = .memoryExhausted ∨
      (∃ reason, failure = .rejected p.name reason) ∨
      (p = .apply ∨ p = .map) ∧ failure.isDomestic = true ∧ ∃ below procedure given start,
        below < depth ∧ ((apply below procedure given).outcome start).1 = .error failure := by
  cases depth with
  | zero =>
      cases failed
      exact .inl rfl
  | succ depth =>
      obtain ⟨inner, rfl, cause⟩ := fails_inside p arguments failed
      have reported (raw : inner.isRaw = true) : inner.reportedBy p.name = .depthExceeded ∨
          inner.reportedBy p.name = .memoryExhausted ∨
          ∃ reason, inner.reportedBy p.name = .rejected p.name reason := by
        cases inner with
        | depthExceeded => exact .inl rfl
        | memoryExhausted => exact .inr (.inl rfl)
        | unreported reason => exact .inr (.inr ⟨reason, rfl⟩)
        | _ => cases raw
      rcases cause with raw | ⟨applies, procedure, given, start, applied⟩
      · exact (reported raw).imp_right (Or.imp_right .inl)
      · rcases raw_or_domestic (apply_arises applied) with raw | domestic
        · exact (reported raw).imp_right (Or.imp_right .inl)
        · rw [reportedBy_of_domestic domestic]
          exact .inr (.inr (.inr ⟨applies, domestic, depth, procedure, given, start,
            Nat.lt_succ_self depth, applied⟩))

end Primitives

section Lines

variable {depth : Nat} {line : String} {session : Session} {failure : Failure}

theorem readOpen_fails {tokens rest : List String} {openLists : OpenLists} {room : Nat}
    (failed : readOpen tokens openLists room = (.error failure, rest)) :
    failure = .depthExceeded ∨ ∃ reason, failure = .unreadable reason := by
  fun_induction readOpen tokens openLists room with
  | case1 | case4 =>
      cases failed
      exact .inr ⟨_, rfl⟩
  | case2 =>
      cases failed
      exact .inl rfl
  | case3 | case6 | case8 =>
      rename_i ih
      exact ih failed
  | case5 | case7 => cases failed

theorem parse_fails (failed : parse depth line = .error failure) :
    failure = .depthExceeded ∨ ∃ reason, failure = .unreadable reason := by
  rw [parse] at failed
  split at failed
  · rename_i unread
    cases failed
    exact readOpen_fails unread
  · cases failed
  · cases failed
    exact .inr ⟨_, rfl⟩

/-- A rejection leaves a line where something was called that is no procedure and cannot be written,
and nothing around it would report the rejection. -/
theorem line_escapes {frame : FrameId} {store : Store} (legible : store.LegibleCode)
    {reason : Rejection}
    (failed : ((Recorded.evaluateLine depth line frame).outcome ⟨store, []⟩).1 =
      .error (.unreported reason)) {expr : Expr} (read : parse depth line = .ok expr) :
    reason = .numeralTooLong ∧ ∃ procedure arguments around,
      underway ((Recorded.evaluateLine depth line frame).outcome ⟨store, []⟩).2.history =
        .applied procedure arguments :: around ∧
      procedure.isProcedure = false ∧ procedure.HoldsHuge ∧
      ∀ event ∈ around, event.reports = false := by
  rw [Recorded.evaluateLine_read read] at failed ⊢
  set code := (expr.toValue store.nextId).1
  set start : Chronicle := Chronicle.renumber ⟨store, []⟩ (expr.toValue store.nextId).2
  obtain ⟨rfl, event, earlier, last, unprintable⟩ :=
    (Recorded.explains_run depth).1 code frame start trivial reason failed
  obtain ⟨-, opened, under, quiet⟩ :=
    ((Recorded.run_unwinds depth).1 code frame start).failed _ failed
  have sound : start.Legible := ⟨nofun, legible⟩
  obtain ⟨after, -⟩ := legibilityWatch.evaluate_keeps depth (legible_of_parse read store.nextId)
    frame sound
  have allowed := after.events event (by rw [last]; exact List.mem_cons_self)
  obtain ⟨procedure, arguments, rfl, plain, huge⟩ := allowed.miscallsHuge unprintable
  have top : underway ((Recorded.evaluate depth code frame).outcome start).2.history =
      .applied procedure arguments :: underway earlier := by
    rw [last]
    rfl
  refine ⟨rfl, procedure, arguments, underway earlier, top, plain, huge, fun event member => ?_⟩
  refine quiet _ rfl event ?_
  rw [under, show underway start.history = [] from rfl, List.append_nil] at top
  rw [top]
  exact List.mem_cons_of_mem _ member

end Lines

theorem unreadable_of_className {failure : Failure}
    (named : failure.className = "LispySyntaxError") : ∃ reason, failure = .unreadable reason := by
  cases failure with
  | unreadable reason => exact ⟨reason, rfl⟩
  | unreported reason =>
      unfold Failure.className at named
      cases kind : reason.kind <;> simp [kind, RejectionKind.name] at named
  | _ => simp [Failure.className] at named

theorem unreported_of_className {failure : Failure} (named : failure.className = "ValueError") :
    ∃ reason, failure = .unreported reason := by
  cases failure with
  | unreported reason => exact ⟨reason, rfl⟩
  | _ => simp [Failure.className] at named

theorem line_fails {depth : Nat} {line : String} {frame : FrameId} {store : Store}
    (legible : store.LegibleCode) {expr : Expr} (read : parse depth line = .ok expr)
    {failure : Failure}
    (failed : ((Recorded.evaluateLine depth line frame).outcome ⟨store, []⟩).1 = .error failure) :
    (failure.isDomestic = true ∨
      failure.className ∈ ["RecursionError", "MemoryError", "ValueError"]) ∧
    failure.className ≠ "LispySyntaxError" := by
  have arises : failure.arises = true := by
    rw [Recorded.evaluateLine_read read] at failed
    exact (((Recorded.run_unwinds depth).1 _ frame _).failed failure failed).1
  constructor
  · rcases raw_or_domestic arises with raw | domestic
    · cases failure with
      | depthExceeded | memoryExhausted => exact .inr (by simp [Failure.className])
      | unreported reason =>
          obtain ⟨rfl, -⟩ := line_escapes legible failed read
          exact .inr (by simp [Failure.className, Rejection.kind, RejectionKind.name])
      | _ => cases raw
    · exact .inl domestic
  · intro named
    obtain ⟨reason, rfl⟩ := unreadable_of_className named
    cases arises

/-- All that goes wrong in a primitive is reported under its name, for want of depth or memory
apart; through `apply` and `map`, the failure of an application that they make is handed on. Whatever
lines were given to a session, a further line gives a value or fails in one of the ways of the
language, for want of depth or memory, or with a `ValueError`. It fails with a syntax error only if
it cannot be read, and has had no effect then. A `ValueError` leaves only if something was applied
that is no procedure and holds an integer with too many digits to be written, and no application of a
primitive was under way. -/
theorem failures_leaving (lines : List (Nat × String)) (depth : Nat) (line : String) :
    (∀ limit (p : Primitive) arguments store failure,
      ((apply limit (.primitive p) arguments).outcome store).1 = .error failure →
      failure.className = "RecursionError" ∨ failure.className = "MemoryError" ∨
        (failure.className = "LispyApplicationError" ∧
          ∃ reason, failure = .rejected p.name reason) ∨
        (p = .apply ∨ p = .map) ∧ failure.isDomestic = true ∧ ∃ below procedure given start,
          below < limit ∧ ((apply below procedure given).outcome start).1 = .error failure) ∧
    let session := (Session.start.evaluateAll lines).2
    let (result, after) := session.evaluate depth line
    let recorded := (Recorded.evaluateLine depth line session.global).outcome ⟨session.store, []⟩
    recorded.1 = result ∧ recorded.2.store = after.store ∧
    ∀ failure, result = .error failure →
      (failure.isDomestic = true ∨
        failure.className ∈ ["RecursionError", "MemoryError", "ValueError"]) ∧
      (failure.className = "LispySyntaxError" →
        parse depth line = .error failure ∧ after = session) ∧
      (failure.className = "ValueError" → ∃ procedure arguments around,
        underway recorded.2.history = .applied procedure arguments :: around ∧
        procedure.isProcedure = false ∧ procedure.HoldsHuge ∧
        ∀ p given, .applied (.primitive p) given ∉ around) := by
  refine ⟨fun limit p arguments store failure failed => ?_, ?_⟩
  · rcases primitive_fails limit p arguments failed with rfl | rfl | ⟨reason, rfl⟩ | inner
    · exact .inl rfl
    · exact .inr (.inl rfl)
    · exact .inr (.inr (.inl ⟨rfl, reason, rfl⟩))
    · exact .inr (.inr (.inr inner))
  intro session
  obtain ⟨same, stores⟩ :=
    Recorded.evaluateLine_erases depth line session.global ⟨session.store, []⟩
  have evaluated := session.evaluate_outcome line depth
  have legible : session.store.LegibleCode := Session.evaluateAll_legible lines
  rw [← same, ← stores] at evaluated
  rw [evaluated]
  refine ⟨rfl, rfl, fun failure failed => ?_⟩
  cases read : parse depth line with
  | error unread =>
      have ended := evaluated.symm.trans (session.evaluate_unread read)
      rw [Prod.mk.injEq] at ended
      obtain ⟨first, last⟩ := ended
      have only := failed.symm.trans first
      cases only
      refine ⟨?_, fun _ => ⟨rfl, last⟩, fun named => ?_⟩
      · rcases parse_fails read with rfl | ⟨reason, rfl⟩
        · exact .inr (by simp [Failure.className])
        · exact .inl rfl
      · obtain ⟨reason, rfl⟩ := unreported_of_className named
        rcases parse_fails read with contrary | ⟨_, contrary⟩ <;> cases contrary
  | ok expr =>
      obtain ⟨kinds, readable⟩ := line_fails legible read failed
      refine ⟨kinds, fun named => absurd named readable, fun named => ?_⟩
      obtain ⟨reason, rfl⟩ := unreported_of_className named
      obtain ⟨-, procedure, arguments, around, top, plain, huge, quiet⟩ :=
        line_escapes legible failed read
      refine ⟨procedure, arguments, around, top, plain, huge, fun p given member => ?_⟩
      cases quiet _ member

end MiniLisp
