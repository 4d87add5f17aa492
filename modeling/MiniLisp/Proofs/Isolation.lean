import MiniLisp.Proofs.Footprint

namespace MiniLisp

open Footprint

/-- A value whose procedures have captured frames that could be got at before, or new ones. -/
def Store.Confines (store : Store) (env : FrameId) (after : Store) (value : Value) : Prop :=
  ∀ frame, value.Captures frame → store.Reaches env frame ∨ store.Created after frame

theorem confines_of_admits {store after other : Store} {env : FrameId} {expr value : Value}
    {count : Nat} (alike : Alike ⟨store, env, expr⟩ count after other)
    (admitted : Admits ⟨store, env, expr⟩ count value) : store.Confines env after value := by
  intro frame captured
  obtain ⟨id, parameters, body, within⟩ := captured
  have accessible := (admitted id parameters body frame within).1
  exact accessible.imp_right fun made => ⟨made.1, alike.size ▸ made.2⟩

/-- An evaluation leaves the frames that cannot be got at as they were, lets no procedure into its
value or into the other frames that has captured one of them, and comes to the same end whatever
they hold. -/
theorem evaluate_isolated (depth : Nat) (expr : Expr) (next : ObjectId) (env : FrameId)
    (store other : Store) (agrees : store.AgreesOn (store.Reaches env) other) :
    let code := (expr.toValue next).1
    let (result, after) := (evaluate depth code env).outcome store
    let (result', after') := (evaluate depth code env).outcome other
    (∀ frame < store.frames.size, ¬ store.Reaches env frame →
      after.frames[frame]? = store.frames[frame]?) ∧
    (∀ value, result = .ok value → store.Confines env after value) ∧
    (∀ frame name value, store.Reaches env frame → after.get? name frame = some value →
      store.Confines env after value) ∧
    result' = result ∧
    after.AgreesOn (fun frame => store.Reaches env frame ∨ store.Created after frame) after' := by
  obtain ⟨count, same, alike, admitted⟩ := evaluate_alike depth expr next agrees
  refine ⟨alike.untouched, fun value ended => confines_of_admits alike (admitted value ended),
    fun frame name value reachable bound =>
      confines_of_admits alike (alike.admitted frame name value (.inl reachable) bound),
    same.symm, alike.agrees.size, alike.agrees.nextId, alike.agrees.output, fun frame member => ?_⟩
  exact alike.agrees.same frame (member.imp_right fun made => ⟨made.1, alike.size ▸ made.2⟩)

/-- Two accounts, whose balances are in frames of their own; only the first can be got at from the
outermost frame, through its procedure. -/
def twoAccounts (second : Int) : Store :=
  ⟨#[⟨[("deposit", .closure 3 ["amount"]
      (.list 2 [.symbol "set!", .symbol "balance", .symbol "amount"]) 1)], none⟩,
    ⟨[("balance", .int 100)], some 0⟩, ⟨[("balance", .int second)], some 0⟩], 4, ""⟩

theorem twoAccounts_reaches {second : Int} {frame : FrameId}
    (reachable : (twoAccounts second).Reaches 0 frame) : frame = 0 ∨ frame = 1 := by
  induction reachable with
  | here => exact .inl rfl
  | outer _ around ih =>
      rcases ih with rfl | rfl
      · cases around
      · cases around
        exact .inl rfl
  | @captured frame captured name value _ bound held ih =>
      obtain ⟨id, parameters, body, within⟩ := held
      rcases ih with rfl | rfl
      · change (if "deposit" = name then some _ else none) = some value at bound
        split at bound
        · cases bound
          rcases within with _ | _ | _ | deeper
          · exact .inr rfl
          · rcases deeper with _ | ⟨member, deeper⟩
            simp only [List.mem_cons, List.not_mem_nil, or_false] at member
            rcases member with rfl | rfl | rfl <;> cases deeper
        · cases bound
      · change (if "balance" = name then some _ else none) = some value at bound
        split at bound
        · cases bound
          cases within
        · cases bound

theorem twoAccounts_agree (first second : Int) :
    (twoAccounts first).AgreesOn ((twoAccounts first).Reaches 0) (twoAccounts second) := by
  refine ⟨rfl, rfl, rfl, fun frame reachable => ?_⟩
  rcases twoAccounts_reaches reachable with rfl | rfl <;> rfl

def deposit : Expr := .list [.symbol "deposit", .int 7]

theorem deposit_isolated :
    (twoAccounts 50).AgreesOn ((twoAccounts 50).Reaches 0) (twoAccounts 999) ∧
    (let after := ((evaluate 9 (deposit.toValue 4).1 0).outcome (twoAccounts 50)).2
    let after' := ((evaluate 9 (deposit.toValue 4).1 0).outcome (twoAccounts 999)).2
    after.get? "balance" 1 = some (.int 7) ∧ after.frames[2]? = (twoAccounts 50).frames[2]? ∧
      after.frames[1]? = after'.frames[1]?) := by
  have agrees := twoAccounts_agree 50 999
  have isolated := evaluate_isolated 9 deposit 4 0 (twoAccounts 50) (twoAccounts 999) agrees
  obtain ⟨untouched, -, -, -, agreement⟩ := isolated
  refine ⟨agrees, by with_unfolding_all rfl, untouched 2 (by decide) fun reachable => ?_,
    agreement.same 1 (.inl ?_)⟩
  · rcases twoAccounts_reaches reachable with contrary | contrary <;> cases contrary
  · have bound : (twoAccounts 50).get? "deposit" 0 = some (.closure 3 ["amount"]
        (.list 2 [.symbol "set!", .symbol "balance", .symbol "amount"]) 1) := by with_unfolding_all rfl
    exact .captured .here bound ⟨_, _, _, .here⟩

/-- An evaluation takes no name from a frame, gives new names to its own frame only, namely those
that it defines there, and changes no value but of a name that it may assign, or that it defines
in its own frame. -/
theorem evaluate_writes_licensed (depth : Nat) (expr : Expr) (next : ObjectId) (env : FrameId)
    (store : Store) (frame : FrameId) (old : frame < store.frames.size) (name : String) :
    let code := (expr.toValue next).1
    let after := ((evaluate depth code env).outcome store).2
    ((store.get? name frame).isSome → (after.get? name frame).isSome) ∧
    (frame ≠ env → ((after.get? name frame).isSome ↔ (store.get? name frame).isSome)) ∧
    (frame = env → (after.get? name frame).isSome →
      (store.get? name frame).isSome ∨ code.Defines name) ∧
    ∀ value, store.get? name frame = some value → after.get? name frame = some value ∨
      code.Assigns name ∨ (∃ body, store.ReachesBody env body ∧ body.Assigns name) ∨
      (frame = env ∧ code.Defines name) := by
  obtain ⟨count, -, alike, -⟩ := evaluate_alike depth expr next
    (⟨rfl, rfl, rfl, fun _ _ => rfl⟩ : store.AgreesOn (store.Reaches env) store)
  intro code after
  rcases alike.licensed frame old name with
    same | ⟨bound, ⟨before, assignable⟩ | ⟨own, defined⟩⟩
  · have same : after.get? name frame = store.get? name frame := same
    rw [same]
    exact ⟨id, fun _ => Iff.rfl, fun _ => .inl, fun value => .inl⟩
  · refine ⟨fun _ => bound, fun _ => ⟨fun _ => before, fun _ => bound⟩, fun _ _ => .inl before,
      fun value _ => .inr ?_⟩
    exact assignable.imp_right .inl
  · exact ⟨fun _ => bound, fun apart => absurd own apart, fun _ _ => .inr defined,
      fun value _ => .inr (.inr (.inr ⟨own, defined⟩))⟩

theorem deposit_licensed :
    1 < (twoAccounts 50).frames.size ∧
    (let code := (deposit.toValue 4).1
    let after := ((evaluate 9 code 0).outcome (twoAccounts 50)).2
    (after.get? "balance" 1).isSome ∧ after.get? "balance" 1 ≠ (twoAccounts 50).get? "balance" 1 ∧
      (code.Assigns "balance" ∨
        (∃ body, (twoAccounts 50).ReachesBody 0 body ∧ body.Assigns "balance") ∨
        (1 = 0 ∧ code.Defines "balance"))) := by
  have licensed := evaluate_writes_licensed 9 deposit 4 0 (twoAccounts 50) 1 (by decide) "balance"
  obtain ⟨kept, -, -, changed⟩ := licensed
  have old : (twoAccounts 50).get? "balance" 1 = some (.int 100) := by with_unfolding_all rfl
  have new : ((evaluate 9 (deposit.toValue 4).1 0).outcome (twoAccounts 50)).2.get? "balance" 1 =
      some (.int 7) := by with_unfolding_all rfl
  refine ⟨by decide, kept (by rw [old]; rfl), ?_, ?_⟩
  · rw [old, new]
    intro contrary
    cases contrary
  · refine (changed _ old).resolve_left ?_
    rw [new]
    intro contrary
    cases contrary

end MiniLisp
