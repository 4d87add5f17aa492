import MiniLisp.Proofs.Reach

namespace MiniLisp

inductive Expr.Subexpression (part : Expr) : Expr → Prop
  | here : Subexpression part part
  | item {items : List Expr} {item : Expr} (member : item ∈ items)
      (deeper : Subexpression part item) : Subexpression part (.list items)

def Value.HoldsList (value : Value) (id : ObjectId) : Prop := ∃ items, Within (.list id items) value

@[elab_as_elim]
theorem Expr.itemwise {motive : Expr → Prop} (int : ∀ n, motive (.int n))
    (real : ∀ x, motive (.real x)) (symbol : ∀ name, motive (.symbol name))
    (list : ∀ items, (∀ item ∈ items, motive item) → motive (.list items)) :
    ∀ expr, motive expr
  | .int n => int n
  | .real x => real x
  | .symbol name => symbol name
  | .list items => list items fun item _ => itemwise int real symbol list item

theorem toValue_list (next : ObjectId) (items : List Expr) :
    (Expr.list items).toValue next =
      (.list (Expr.toValues next items).2 (Expr.toValues next items).1,
        (Expr.toValues next items).2 + 1) := by
  rw [Expr.toValue]

theorem toValues_cons (next : ObjectId) (item : Expr) (rest : List Expr) :
    Expr.toValues next (item :: rest) =
      ((item.toValue next).1 :: (Expr.toValues (item.toValue next).2 rest).1,
        (Expr.toValues (item.toValue next).2 rest).2) := by
  rw [Expr.toValues]

theorem le_toValues {next : ObjectId} {exprs : List Expr}
    (each : ∀ expr ∈ exprs, ∀ next, next ≤ (expr.toValue next).2) :
    next ≤ (Expr.toValues next exprs).2 := by
  induction exprs generalizing next with
  | nil => exact Nat.le_refl next
  | cons expr exprs ih =>
      rw [toValues_cons]
      exact Nat.le_trans (each expr List.mem_cons_self next)
        (ih fun other member => each other (List.mem_cons_of_mem expr member))

theorem le_toValue (next : ObjectId) (expr : Expr) : next ≤ (expr.toValue next).2 := by
  induction expr using Expr.itemwise generalizing next with
  | list items each =>
      rw [toValue_list]
      exact Nat.le_succ_of_le (le_toValues each)
  | _ => exact Nat.le_refl next

theorem mem_toValues {value : Value} {next : ObjectId} {exprs : List Expr}
    (member : value ∈ (Expr.toValues next exprs).1) :
    ∃ expr ∈ exprs, ∃ start, value = (expr.toValue start).1 ∧ next ≤ start ∧
      (expr.toValue start).2 ≤ (Expr.toValues next exprs).2 := by
  induction exprs generalizing next with
  | nil => cases member
  | cons expr exprs ih =>
      rw [toValues_cons] at member ⊢
      rcases List.mem_cons.mp member with rfl | member
      · exact ⟨expr, List.mem_cons_self, next, rfl, Nat.le_refl next,
          le_toValues fun other _ next => le_toValue next other⟩
      · obtain ⟨other, among, start, same, after, before⟩ := ih member
        exact ⟨other, List.mem_cons_of_mem expr among, start, same,
          Nat.le_trans (le_toValue next expr) after, before⟩

/-- A part of the code of an expression is the code of a part of it. -/
theorem within_toValue {inner : Value} {expr : Expr} {next : ObjectId}
    (within : Value.Within inner (expr.toValue next).1) :
    ∃ part start, Expr.Subexpression part expr ∧ inner = (part.toValue start).1 ∧ next ≤ start ∧
      (part.toValue start).2 ≤ (expr.toValue next).2 := by
  induction expr using Expr.itemwise generalizing next with
  | list items each =>
      rw [toValue_list] at within ⊢
      rcases within with _ | ⟨member, deeper⟩
      · exact ⟨.list items, next, .here, by rw [toValue_list], Nat.le_refl next,
          Nat.le_of_eq (by rw [toValue_list])⟩
      · obtain ⟨item, among, start, rfl, after, before⟩ := mem_toValues member
        obtain ⟨part, start', sub, same, after', before'⟩ := each item among deeper
        exact ⟨part, start', .item among sub, same, Nat.le_trans after after',
          Nat.le_succ_of_le (Nat.le_trans before' before)⟩
  | _ =>
    cases within
    exact ⟨_, next, .here, rfl, Nat.le_refl next, Nat.le_refl _⟩

theorem id_of_toValue {id : ObjectId} {expr : Expr} {next : ObjectId}
    (held : (expr.toValue next).1.HoldsList id) : next ≤ id ∧ id < (expr.toValue next).2 := by
  obtain ⟨items, within⟩ := held
  obtain ⟨part, start, -, same, after, before⟩ := within_toValue within
  cases part with
  | list parts =>
      rw [toValue_list] at same before
      cases same
      exact ⟨Nat.le_trans after (le_toValues fun other _ next => le_toValue next other), before⟩
  | _ => cases same

theorem symbol_of_toValue {expr : Expr} {next : ObjectId} {name : String}
    (same : (expr.toValue next).1 = .symbol name) : expr = .symbol name := by
  cases expr with
  | symbol name => exact congrArg Expr.symbol (Value.symbol.inj same)
  | list items =>
      rw [toValue_list] at same
      cases same
  | _ => cases same

theorem symbols_of_toValues {exprs : List Expr} {next : ObjectId} {names : List String}
    (same : (Expr.toValues next exprs).1 = names.map .symbol) : exprs = names.map .symbol := by
  induction exprs generalizing next names with
  | nil =>
      cases names with
      | nil => rfl
      | cons name names => cases same
  | cons expr exprs ih =>
      rw [toValues_cons] at same
      cases names with
      | nil => cases same
      | cons name names =>
          obtain ⟨first, rest⟩ := List.cons.inj same
          rw [symbol_of_toValue first, ih rest, List.map_cons]

theorem abstraction_of_toValue {expr : Expr} {next id id' : ObjectId} {head : String}
    {names : List String} {body : Value}
    (same : (expr.toValue next).1 = .list id [.symbol head, .list id' (names.map .symbol), body]) :
    ∃ written start, expr = .list [.symbol head, .list (names.map .symbol), written] ∧
      body = (written.toValue start).1 := by
  cases expr with
  | list items =>
      rw [toValue_list] at same
      replace same := (Value.list.inj same).2
      rcases items with _ | ⟨first, _ | ⟨second, _ | ⟨written, _ | ⟨other, rest⟩⟩⟩⟩
      · cases same
      · simp [Expr.toValues] at same
      · simp [Expr.toValues] at same
      · simp only [Expr.toValues, List.cons.injEq, and_true] at same
        obtain ⟨named, parameters, rfl⟩ := same
        obtain rfl := symbol_of_toValue named
        cases second with
        | list parts =>
            rw [toValue_list] at parameters
            obtain rfl := symbols_of_toValues (Value.list.inj parameters).2
            exact ⟨written, _, rfl, rfl⟩
        | _ => cases parameters
      · simp [toValues_cons] at same
  | _ => cases same

end MiniLisp
