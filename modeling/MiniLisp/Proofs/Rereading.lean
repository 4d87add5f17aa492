import MiniLisp.Proofs.Provenance
import MiniLisp.Proofs.RoundTrip

namespace MiniLisp

def PartsReadable (expr : Expr) : Prop :=
  ∀ part, Expr.Subexpression part expr → IsBounded part → Readable part

theorem partsReadable_list {items : List Expr} (each : ∀ item ∈ items, PartsReadable item) :
    PartsReadable (.list items) := by
  intro part sub bounded
  cases sub with
  | here =>
      cases bounded with
      | list finite => exact .list fun item member => each item member item .here (finite item member)
  | item member deeper => exact each _ member part deeper bounded

theorem partsReadable_of_parse {room : Nat} {line : String} {expr : Expr}
    (read : parse room line = .ok expr) : PartsReadable expr := by
  have atom (token : String) (member : token ∈ tokenize line) (notOpen : token ≠ openToken)
      (notClose : token ≠ closeToken) : PartsReadable (.ofToken token) := by
    intro part sub bounded
    have only : part = .ofToken token := by
      generalize whole : Expr.ofToken token = expr at sub
      cases sub with
      | here => rfl
      | item =>
        have flat := height_ofToken token
        rw [whole] at flat
        cases flat
    subst only
    exact readable_ofToken (isTokenWord_tokenize member) notOpen notClose bounded
  exact parse_holds (p := fun _ expr => PartsReadable expr) (fun _ _ each => partsReadable_list each)
    (fun token member notOpen notClose _ => atom token member notOpen notClose) read

theorem toValues_of_mem {item : Expr} {items : List Expr} (member : item ∈ items)
    (next : ObjectId) : ∃ start, (item.toValue start).1 ∈ (Expr.toValues next items).1 := by
  induction items generalizing next with
  | nil => cases member
  | cons first rest ih =>
      rw [toValues_cons]
      rcases List.mem_cons.mp member with rfl | member
      · exact ⟨next, List.mem_cons_self⟩
      · obtain ⟨start, among⟩ := ih member (first.toValue next).2
        exact ⟨start, List.mem_cons_of_mem _ among⟩

theorem isBounded_of_code {expr : Expr} {next : ObjectId}
    (finite : ∀ x, Value.Within (.real x) (expr.toValue next).1 → x.isFinite) :
    IsBounded expr := by
  induction expr using Expr.itemwise generalizing next with
  | int n => exact .int
  | real x => exact .real (finite x .here)
  | symbol name => exact .symbol
  | list items each =>
      refine .list fun item member => ?_
      obtain ⟨start, among⟩ := toValues_of_mem member next
      rw [toValue_list] at finite
      have inner : ∀ x, Value.Within (.real x) (item.toValue start).1 → x.isFinite :=
        fun x within => finite x (.list among within)
      exact each item member inner

def abstraction (parameters : List String) (written : Expr) : Expr :=
  .list [.symbol "lambda", .list (parameters.map .symbol), written]

section Abstraction

variable {parameters : List String} {written : Expr}

theorem height_abstraction (parameters : List String) (written : Expr) :
    (abstraction parameters written).height ≤ written.height + 2 := by
  have flat : Expr.heights (parameters.map .symbol) = 0 := by
    refine Nat.le_zero.mp (heights_le_iff.mpr fun item member => ?_)
    obtain ⟨name, -, rfl⟩ := List.mem_map.mp member
    exact Nat.le_refl 0
  simp only [abstraction, Expr.height, Expr.heights, flat]
  omega

theorem plainTexts_symbols (names : List String) : Expr.plainTexts (names.map .symbol) = names := by
  induction names with
  | nil => rfl
  | cons name names ih => rw [List.map_cons, Expr.plainTexts, Expr.plainText, ih]

theorem closureText_eq (parameters : List String) (written : Expr) :
    closureText parameters written.plainText = (abstraction parameters written).plainText := by
  have before : "(lambda (" = "(" ++ ("lambda" ++ (" " ++ "(")) := by decide
  have between : ") " = ")" ++ " " := by decide
  simp only [abstraction, Expr.plainText, Expr.plainTexts, plainTexts_symbols, listText, closureText,
    String.intercalate_cons_cons, String.intercalate_singleton, before, between,
    String.append_assoc]

theorem isBounded_abstraction (bounded : IsBounded written) :
    IsBounded (abstraction parameters written) := by
  have symbols : IsBounded (.list (parameters.map .symbol)) := by
    refine .list fun item member => ?_
    obtain ⟨name, -, rfl⟩ := List.mem_map.mp member
    exact .symbol
  exact .list (by simp [symbols, bounded, IsBounded.symbol])

theorem parameterNames_ok (depth : Nat) (names : List String) :
    SpecialForm.parameterNames depth (names.map .symbol) = .ok names := by
  induction names with
  | nil => rfl
  | cons name names ih =>
      rw [List.map_cons, SpecialForm.parameterNames, ih]
      rfl

theorem toValues_symbols (next : ObjectId) (names : List String) :
    Expr.toValues next (names.map .symbol) = (names.map .symbol, next) := by
  induction names with
  | nil => rfl
  | cons name names ih => rw [List.map_cons, toValues_cons, Expr.toValue, ih]; rfl

theorem evaluate_abstraction (depth : Nat) (parameters : List String) (written : Expr)
    (next : ObjectId) (frame : FrameId) (store : Store) :
    ∃ first, (evaluate (depth + 1) ((abstraction parameters written).toValue next).1 frame).outcome
      store = (.ok (.closure store.nextId parameters (written.toValue first).1 frame),
        { store with nextId := store.nextId + 1 }) := by
  refine ⟨next + 1, ?_⟩
  simp only [abstraction, Expr.toValue, Expr.toValues, toValues_symbols]
  have form : (Value.symbol "lambda").keyword? = some .abstraction := by decide
  rw [evaluate]
  simp only [form, SpecialForm.evaluate, SpecialForm.abstraction]
  rw [Action.outcome_bind, Action.outcome_ofExcept, parameterNames_ok]
  rfl

theorem parse_closureText (readable : Readable (abstraction parameters written)) {depth : Nat}
    (enough : written.height + 2 ≤ depth) (style : TextStyle) (id first : ObjectId)
    (captured : FrameId) :
    ∃ text, (Value.closure id parameters (written.toValue first).1 captured).text style depth =
        .ok text ∧ parse depth text = .ok (abstraction parameters written) := by
  obtain ⟨below, rfl⟩ : ∃ below, depth = below + 1 := Nat.exists_eq_add_one.mpr (by omega)
  have body : Readable written := by
    cases readable with
    | list each => exact each written (by simp)
  refine ⟨(abstraction parameters written).plainText, ?_, ?_⟩
  · rw [Value.text, text_toValue body first (by omega), ← closureText_eq]
    rfl
  · exact parse_plainText readable (Nat.le_trans (height_abstraction parameters written) enough)

theorem evaluateLine_closureText {depth : Nat} {text : String}
    (read : parse depth text = .ok (abstraction parameters written)) (frame : FrameId)
    (store : Store) :
    ∃ id first after, (evaluateLine depth text frame).outcome store =
        (.ok (.closure id parameters (written.toValue first).1 frame), after) ∧
      after.frames = store.frames ∧ after.output = store.output := by
  have inside : (abstraction parameters written).height ≤ depth := (canBeWritten_of_parse read).1
  obtain ⟨below, rfl⟩ : ∃ below, depth = below + 1 := by
    refine Nat.exists_eq_add_one.mpr (Nat.lt_of_lt_of_le ?_ inside)
    exact Nat.succ_pos _
  let next := ((abstraction parameters written).toValue store.nextId).2
  obtain ⟨first, made⟩ := evaluate_abstraction below parameters written store.nextId frame
    { store with nextId := next }
  refine ⟨next, first, { store with nextId := next + 1 }, ?_, rfl, rfl⟩
  rw [evaluateLine, Action.outcome_bind, Action.outcome_readCode, read]
  exact made

end Abstraction

theorem Value.WrittenIn.mono {value : Value} {lines more : List (Nat × String)}
    (origin : value.WrittenIn lines) (grown : lines ⊆ more) : value.WrittenIn more := by
  intro id parameters body frame within
  obtain ⟨⟨depth, line, expr, written, first, among, rest⟩, read⟩ :=
    origin id parameters body frame within
  exact ⟨⟨depth, line, expr, written, first, grown among, rest⟩, read⟩

theorem Session.writtenIn_of_evaluateAll {lines : List (Nat × String)} {value : Value}
    (present : .ok value ∈ (start.evaluateAll lines).1 ∨
      ∃ frame name, (start.evaluateAll lines).2.store.get? name frame = some value) :
    value.WrittenIn lines := by
  rw [start.evaluateAll_recorded lines []] at present
  obtain ⟨⟨readings, traced⟩, results⟩ := start_traced.evaluateAll start.global lines
  rcases present with result | ⟨frame, name, bound⟩
  · obtain ⟨k, given⟩ := List.mem_iff_getElem?.mp result
    exact (results k value given).mono (List.take_subset _ _)
  · exact traced.writtenIn (traced.sourced.bindings frame name value bound)

/-- Whatever lines are given to a session: a procedure in a result or in a frame, without an infinity
in its body, has a text. What is read from it is the abstraction with its parameters and its body,
and evaluating this in the frame that the procedure has captured makes a procedure with the same
parameters, the same body and the same frame, and changes no frame. -/
theorem printed_procedures_read_back (lines : List (Nat × String)) :
    let run := Session.start.evaluateAll lines
    ∀ value, (.ok value ∈ run.1 ∨ ∃ frame name, run.2.store.get? name frame = some value) →
    ∀ id parameters body captured, Value.Within (.closure id parameters body captured) value →
    (∀ x, Value.Within (.real x) body → x.isFinite) →
    ∃ written first, body = (written.toValue first).1 ∧
      ∀ depth, written.height + 2 ≤ depth → ∀ style, ∃ text,
        (Value.closure id parameters body captured).text style depth = .ok text ∧
        parse depth text = .ok (abstraction parameters written) ∧
        ∀ store, ∃ id' first' after, (evaluateLine depth text captured).outcome store =
            (.ok (.closure id' parameters (written.toValue first').1 captured), after) ∧
          after.frames = store.frames ∧ after.output = store.output := by
  intro run value present id parameters body captured within finite
  have origin := Session.writtenIn_of_evaluateAll present
  obtain ⟨⟨room, line, expr, written, first, -, read, sub, rfl⟩, -⟩ :=
    origin id parameters body captured within
  have bounded : IsBounded (abstraction parameters written) :=
    isBounded_abstraction (isBounded_of_code finite)
  have readable : Readable (abstraction parameters written) :=
    partsReadable_of_parse read _ sub bounded
  refine ⟨written, first, rfl, fun depth enough style => ?_⟩
  obtain ⟨text, shown, reread⟩ := parse_closureText readable enough style id first captured
  exact ⟨text, shown, reread, evaluateLine_closureText reread captured⟩

def halfMore : Value :=
  .closure 5 ["x"] (.list 3 [.symbol "+", .symbol "x", .real (.ofQuotient false 1 2)]) 0

theorem halfMore_reads_back :
    .ok halfMore ∈ (Session.start.evaluateAll [(9, "(lambda (x) (+ x 0.5))")]).1 ∧
    ∃ written text, halfMore.text .plain (written.height + 2) = .ok text ∧
      parse (written.height + 2) text = .ok (abstraction ["x"] written) := by
  have read : parse 9 "(lambda (x) (+ x 0.5))" = .ok (abstraction ["x"]
      (.list [.symbol "+", .symbol "x", .real (.ofQuotient false 1 2)])) := by
    with_unfolding_all rfl
  have present : .ok halfMore ∈ (Session.start.evaluateAll [(9, "(lambda (x) (+ x 0.5))")]).1 := by
    have made : (Session.start.evaluate 9 "(lambda (x) (+ x 0.5))").1 = .ok halfMore := by
      rw [Session.start.evaluate_read read]
      dsimp only [abstraction, Expr.toValue, Expr.toValues]
      rw [evaluate]
      rfl
    rw [Session.evaluateAll]
    exact List.mem_cons.mpr (.inl made.symm)
  have finite : ∀ x, Value.Within (.real x) (.list 3 [.symbol "+", .symbol "x",
      .real (.ofQuotient false 1 2)]) → x.isFinite := by
    intro x within
    rcases within with _ | ⟨member, deeper⟩
    simp only [List.mem_cons, List.not_mem_nil, or_false] at member
    rcases member with rfl | rfl | rfl
    · cases deeper
    · cases deeper
    · cases deeper
      decide +kernel
  obtain ⟨written, first, -, reads⟩ :=
    printed_procedures_read_back _ halfMore (.inl present) 5 ["x"] _ 0 .here finite
  obtain ⟨text, shown, reread, -⟩ := reads (written.height + 2) (Nat.le_refl _) .plain
  exact ⟨present, written, text, shown, reread⟩

end MiniLisp
