import MiniLisp.Proofs.Underway

/-!
Where code comes from. All code that is evaluated is a part of what was read from a line, the bodies
of procedures included, and it is the very lists of the line that are evaluated: data of the same
shape never becomes code, wherever it is handed.
-/

namespace MiniLisp

structure Reading where
  expr : Expr
  first : ObjectId

namespace Reading

def code (reading : Reading) : Value := (reading.expr.toValue reading.first).1

def next (reading : Reading) : ObjectId := (reading.expr.toValue reading.first).2

end Reading

namespace Value

def IsCode (readings : List Reading) (value : Value) : Prop :=
  ∃ reading ∈ readings, Within value reading.code

def AbstractedFrom (readings : List Reading) (parameters : List String) (body : Value)
    (_ : FrameId) : Prop :=
  ∃ list list', IsCode readings
    (.list list [.symbol "lambda", .list list' (parameters.map .symbol), body])

abbrev Abstracted (readings : List Reading) (value : Value) : Prop :=
  value.Procedures (AbstractedFrom readings)

/-- Every procedure in the value has the parameters and the body of an abstraction that is part of a
line, and there is nothing in the body but what can be read. -/
def WrittenIn (lines : List (Nat × String)) (value : Value) : Prop :=
  ∀ id parameters body frame, Within (.closure id parameters body frame) value →
    (∃ depth line expr written first, (depth, line) ∈ lines ∧ parse depth line = .ok expr ∧
      Expr.Subexpression
        (.list [.symbol "lambda", .list (parameters.map .symbol), written]) expr ∧
      body = (written.toValue first).1) ∧
    ∀ inner, Within inner body → inner.isRead = true

end Value

abbrev Chronicle.Sourced (readings : List Reading) (chronicle : Chronicle) : Prop :=
  chronicle.Allows (Value.IsCode readings) (Value.AbstractedFrom readings)

/-- The lists of lines have identities of their own: what a primitive made is none of them. -/
structure Chronicle.Numbered (readings : List Reading) (chronicle : Chronicle) : Prop where
  read : ∀ reading ∈ readings, reading.next ≤ chronicle.store.nextId
  made : ∀ p arguments id items,
    (.applied (.primitive p) arguments, .list id items) ∈ calls chronicle.history → p ≠ .apply →
    (∃ argument ∈ arguments, argument.HoldsList id) ∨
      id < chronicle.store.nextId ∧ ∀ reading ∈ readings, ¬ reading.code.HoldsList id

section Code

variable {readings more : List Reading} {value inner : Value}

theorem Value.IsCode.part (code : value.IsCode readings) (within : Within inner value) :
    inner.IsCode readings := by
  obtain ⟨reading, member, whole⟩ := code
  exact ⟨reading, member, within_trans within whole⟩

theorem Value.IsCode.mono (code : value.IsCode readings) (grown : readings ⊆ more) :
    value.IsCode more := by
  obtain ⟨reading, member, whole⟩ := code
  exact ⟨reading, grown member, whole⟩

theorem Value.IsCode.isRead (code : value.IsCode readings) (within : Within inner value) :
    inner.isRead = true := by
  obtain ⟨reading, -, whole⟩ := code.part within
  exact within_code reading.expr reading.first whole

theorem Value.AbstractedFrom.mono {parameters : List String} {body : Value} {frame : FrameId}
    (abstracted : AbstractedFrom readings parameters body frame) (grown : readings ⊆ more) :
    AbstractedFrom more parameters body frame := by
  obtain ⟨list, list', code⟩ := abstracted
  exact ⟨list, list', code.mono grown⟩

theorem Value.IsCode.abstracted (code : value.IsCode readings) : value.Abstracted readings := by
  intro id parameters body frame within
  cases code.isRead within

theorem symbol_of_keyword? {head : Value} {keyword : Keyword}
    (form : head.keyword? = some keyword) : head = .symbol keyword.name := by
  cases head with
  | symbol name =>
      have named := List.find?_some form
      rw [of_decide_eq_true named]
  | _ => cases form

theorem Value.abstractedFrom_code {list list' : ObjectId} {head body : Value}
    {names : List String} (frame : FrameId)
    (code : IsCode readings (.list list [head, .list list' (names.map .symbol), body]))
    (form : head.keyword? = some .abstraction) : AbstractedFrom readings names body frame := by
  obtain rfl := symbol_of_keyword? form
  exact ⟨list, list', code⟩

theorem Value.AbstractedFrom.body {parameters : List String} {body : Value} {frame : FrameId}
    (abstracted : AbstractedFrom readings parameters body frame) : body.IsCode readings := by
  obtain ⟨list, list', code⟩ := abstracted
  exact code.part (.list (by simp) .here)

end Code

def sourceWatch (readings : List Reading) : Watch :=
  .ofProcedures (Value.IsCode readings) (Value.AbstractedFrom readings)
    (fun _ code _ member => code.part (Value.within_of_mem_items member))
    Value.IsCode.abstracted Value.abstractedFrom_code Value.AbstractedFrom.body

namespace Chronicle.Numbered

variable {readings : List Reading} {chronicle : Chronicle}

theorem read_line (numbered : chronicle.Numbered readings) (expr : Expr) :
    (chronicle.renumber (expr.toValue chronicle.store.nextId).2).Numbered
      (⟨expr, chronicle.store.nextId⟩ :: readings) := by
  have grown := le_toValue chronicle.store.nextId expr
  constructor
  · intro reading member
    rcases List.mem_cons.mp member with rfl | member
    · exact Nat.le_refl _
    · exact Nat.le_trans (numbered.read reading member) grown
  · intro p arguments id items member other
    refine (numbered.made p arguments id items member other).imp_right fun made => ?_
    refine ⟨Nat.lt_of_lt_of_le made.1 grown, fun reading member held => ?_⟩
    rcases List.mem_cons.mp member with rfl | member
    · exact Nat.not_lt_of_le (id_of_toValue held).1 made.1
    · exact made.2 reading member held

theorem passage {α : Type} {ended : Except Failure α × Chronicle}
    (numbered : chronicle.Numbered readings) (passage : Passage chronicle ended) :
    ended.2.Numbered readings := by
  constructor
  · exact fun reading member => Nat.le_trans (numbered.read reading member) passage.grown
  · intro p arguments id items member other
    rcases passage.made _ member with member | made
    · refine (numbered.made p arguments id items member other).imp_right fun made => ?_
      exact ⟨Nat.lt_of_lt_of_le made.1 passage.grown, made.2⟩
    · refine (made p arguments id items rfl other).imp_right fun new => ⟨new.2, ?_⟩
      intro reading member held
      have old := Nat.lt_of_lt_of_le (id_of_toValue held).2 (numbered.read reading member)
      exact Nat.not_lt_of_le new.1 old

end Chronicle.Numbered

structure Chronicle.Traced (lines : List (Nat × String)) (readings : List Reading)
    (chronicle : Chronicle) : Prop where
  lines : ∀ reading ∈ readings, ∃ depth line, (depth, line) ∈ lines ∧
    parse depth line = .ok reading.expr
  sourced : chronicle.Sourced readings
  numbered : chronicle.Numbered readings

namespace Chronicle.Traced

variable {lines : List (Nat × String)} {readings : List Reading} {chronicle : Chronicle}
  {value : Value}

theorem writtenIn (traced : chronicle.Traced lines readings)
    (abstracted : value.Abstracted readings) : value.WrittenIn lines := by
  intro id parameters body frame within
  obtain ⟨list, list', code⟩ := abstracted id parameters body frame within
  refine ⟨?_, fun inner deeper => code.isRead (Value.within_trans deeper (.list (by simp) .here))⟩
  obtain ⟨reading, member, whole⟩ := code
  obtain ⟨depth, line, among, read⟩ := traced.lines reading member
  obtain ⟨part, start, sub, same, -, -⟩ := within_toValue whole
  obtain ⟨written, first, rfl, rfl⟩ := abstraction_of_toValue same.symm
  exact ⟨depth, line, reading.expr, written, first, among, read, sub, rfl⟩

theorem evaluateLine (traced : chronicle.Traced lines readings) (depth : Nat) (line : String)
    (frame : FrameId) :
    let (result, after) := (Recorded.evaluateLine depth line frame).outcome chronicle
    ∃ more, after.Traced (lines ++ [(depth, line)]) more ∧
      ∀ value, result = .ok value → value.Abstracted more := by
  have earlier : ∀ reading ∈ readings, ∃ depth' line', (depth', line') ∈ lines ++ [(depth, line)] ∧
      parse depth' line' = .ok reading.expr := by
    intro reading member
    obtain ⟨depth', line', among, read⟩ := traced.lines reading member
    exact ⟨depth', line', List.mem_append_left _ among, read⟩
  cases read : parse depth line with
  | error failure =>
      rw [Recorded.evaluateLine_unread read]
      exact ⟨readings, ⟨earlier, traced.sourced, traced.numbered⟩, nofun⟩
  | ok expr =>
      rw [Recorded.evaluateLine_read read]
      let reading : Reading := ⟨expr, chronicle.store.nextId⟩
      have code : reading.code.IsCode (reading :: readings) := ⟨reading, List.mem_cons_self, .here⟩
      have grown : readings ⊆ reading :: readings := List.subset_cons_self reading readings
      have sourced : chronicle.Sourced (reading :: readings) :=
        traced.sourced.mono (fun _ code => code.mono grown) fun _ _ _ abstracted =>
          abstracted.mono grown
      obtain ⟨after, kept⟩ := (sourceWatch (reading :: readings)).evaluate_keeps depth code frame
        ((sourceWatch _).renumber reading.next sourced)
      have numbered := (traced.numbered.read_line expr).passage
        ((Recorded.run_unwinds depth).1 reading.code frame _)
      refine ⟨reading :: readings, ⟨fun other member => ?_, after, numbered⟩, kept⟩
      rcases List.mem_cons.mp member with rfl | member
      · exact ⟨depth, line, List.mem_append_right _ (List.mem_singleton_self _), read⟩
      · exact earlier other member

theorem evaluateAll (frame : FrameId) (more : List (Nat × String))
    (traced : chronicle.Traced lines readings) :
    let (results, after) := Recorded.evaluateAll frame more chronicle
    (∃ readings, after.Traced (lines ++ more) readings) ∧
      ∀ (k : Nat) (value : Value), results[k]? = some (.ok value) →
        value.WrittenIn (lines ++ more.take (k + 1)) := by
  induction more generalizing lines readings chronicle with
  | nil => exact ⟨⟨readings, by rwa [List.append_nil]⟩, nofun⟩
  | cons line more ih =>
      obtain ⟨depth, text⟩ := line
      obtain ⟨readings', after, kept⟩ := traced.evaluateLine depth text frame
      obtain ⟨last, others⟩ := ih after
      refine ⟨by rwa [List.append_assoc] at last, fun k value given => ?_⟩
      cases k with
      | zero => exact after.writtenIn (kept value (Option.some.inj given))
      | succ k =>
          have written := others k value given
          rwa [List.append_assoc] at written

end Chronicle.Traced

theorem start_traced : Chronicle.Traced [] [] ⟨Session.start.store, []⟩ where
  lines := nofun
  sourced := Chronicle.allows_start
  numbered := ⟨nofun, nofun⟩

/-- Whatever lines are given to a session: every procedure in a result or in a frame has the
parameters and the body of an abstraction in one of the lines up to then, all that is ever evaluated
is an expression in a line, and nothing that is evaluated has a list in it that a primitive made:
one that it gave and that is no part of its arguments. (What `apply` gives is given by what it
applies.) -/
theorem data_never_code (lines : List (Nat × String)) :
    let run := Recorded.evaluateAll Session.start.global lines ⟨Session.start.store, []⟩
    Session.start.evaluateAll lines = (run.1, ⟨run.2.store, Session.start.global⟩) ∧
    (∀ (k : Nat) (value : Value), run.1[k]? = some (.ok value) →
      value.WrittenIn (lines.take (k + 1))) ∧
    (∀ frame name value, run.2.store.get? name frame = some value → value.WrittenIn lines) ∧
    (∀ expr frame, .evaluated expr frame ∈ run.2.history →
      ∃ depth line whole part first, (depth, line) ∈ lines ∧ parse depth line = .ok whole ∧
        Expr.Subexpression part whole ∧ expr = (part.toValue first).1) ∧
    ∀ p arguments id items,
      (.applied (.primitive p) arguments, .list id items) ∈ calls run.2.history → p ≠ .apply →
      (∀ argument ∈ arguments, ¬ argument.HoldsList id) →
      ∀ expr frame, .evaluated expr frame ∈ run.2.history → ¬ expr.HoldsList id := by
  intro run
  obtain ⟨⟨readings, traced⟩, results⟩ :=
    start_traced.evaluateAll Session.start.global lines
  refine ⟨Session.start.evaluateAll_recorded lines [], results, fun frame name value bound => ?_,
    fun expr frame member => ?_,
    fun p arguments id items member other fresh expr frame begun held => ?_⟩
  · exact traced.writtenIn (traced.sourced.bindings frame name value bound)
  · obtain ⟨reading, among, within⟩ := traced.sourced.events _ member
    obtain ⟨depth, line, given, read⟩ := traced.lines reading among
    obtain ⟨part, first, sub, same, -, -⟩ := within_toValue within
    exact ⟨depth, line, reading.expr, part, first, given, read, sub, same⟩
  · obtain ⟨reading, among, within⟩ := traced.sourced.events _ begun
    obtain ⟨inner, deeper⟩ := held
    rcases traced.numbered.made p arguments id items member other with given | made
    · obtain ⟨argument, present, holds⟩ := given
      exact fresh argument present holds
    · exact made.2 reading among ⟨inner, Value.within_trans deeper within⟩

end MiniLisp
