import Mathlib.Order.Nat
import MiniLisp.Proofs.Discipline
import MiniLisp.Proofs.Reach

/-!
The footprint of an evaluation: the frames that it may read and write, and the names that it may
write there. Two runs that agree within the footprint stay in step, and every write is licensed by
the code that is evaluated or by the body of a procedure that can be got at.
-/

namespace MiniLisp

structure Footprint where
  before : Store
  env : FrameId
  expr : Value

namespace Footprint

variable (footprint : Footprint)

/-- A frame that can be got at from the environment, or one made since; `count` is the number of
frames by now. -/
def Accessible (count : Nat) (frame : FrameId) : Prop :=
  footprint.before.Reaches footprint.env frame ∨
    (footprint.before.frames.size ≤ frame ∧ frame < count)

def Assignable (name : String) : Prop :=
  footprint.expr.Assigns name ∨
    ∃ body, footprint.before.ReachesBody footprint.env body ∧ body.Assigns name

def Admits (count : Nat) (value : Value) : Prop :=
  ∀ id parameters body frame, Value.Within (.closure id parameters body frame) value →
    footprint.Accessible count frame ∧ ∀ name, body.Assigns name → footprint.Assignable name

/-- Code that stays within the footprint when it is evaluated in the frame. Only the expression
itself is evaluated in a frame that was there before, namely in its environment. -/
structure Runs (count : Nat) (expr : Value) (frame : FrameId) : Prop where
  accessible : footprint.Accessible count frame
  admitted : footprint.Admits count expr
  assigns : ∀ name, expr.Assigns name → footprint.Assignable name
  defines : frame < footprint.before.frames.size →
    frame = footprint.env ∧ ∀ name, expr.Defines name → footprint.expr.Defines name

def Licensed (frame : FrameId) (name : String) (old new : Option Value) : Prop :=
  new = old ∨ (new.isSome ∧ ((old.isSome ∧ footprint.Assignable name) ∨
    (frame = footprint.env ∧ footprint.expr.Defines name)))

/-- Two stores that two runs have come to, which agree within the footprint and have kept to it. -/
structure Alike (count : Nat) (store other : Store) : Prop where
  grown : footprint.before.frames.size ≤ count
  size : store.frames.size = count
  agrees : store.AgreesOn (footprint.Accessible count) other
  outer : ∀ frame outer, footprint.Accessible count frame → store.outerOf frame = some outer →
    footprint.Accessible count outer
  admitted : ∀ frame name value, footprint.Accessible count frame →
    store.get? name frame = some value → footprint.Admits count value
  untouched : ∀ frame < footprint.before.frames.size,
    ¬ footprint.before.Reaches footprint.env frame →
    store.frames[frame]? = footprint.before.frames[frame]?
  licensed : ∀ frame < footprint.before.frames.size, ∀ name,
    footprint.Licensed frame name (footprint.before.get? name frame) (store.get? name frame)

variable {footprint} {count later : Nat} {value expr : Value} {frame : FrameId} {name : String}

theorem Accessible.lasting (passed : count ≤ later) (accessible : footprint.Accessible count frame) :
    footprint.Accessible later frame :=
  accessible.imp_right fun made => ⟨made.1, lt_of_lt_of_le made.2 passed⟩

theorem Admits.lasting (passed : count ≤ later) (admitted : footprint.Admits count value) :
    footprint.Admits later value :=
  Value.Procedures.mono admitted fun _ _ _ both => ⟨both.1.lasting passed, both.2⟩

theorem Runs.lasting (passed : count ≤ later) (runs : footprint.Runs count expr frame) :
    footprint.Runs later expr frame :=
  ⟨runs.accessible.lasting passed, runs.admitted.lasting passed, runs.assigns, runs.defines⟩

theorem Admits.within {inner : Value} (admitted : footprint.Admits count value)
    (within : Value.Within inner value) : footprint.Admits count inner :=
  Value.Procedures.within admitted within

theorem Admits.items : Value.Inherited (footprint.Admits count) := Value.Procedures.items

theorem Alike.define {store other : Store} (alike : footprint.Alike count store other)
    (accessible : footprint.Accessible count frame) (admitted : footprint.Admits count value)
    (permitted : frame < footprint.before.frames.size →
      (footprint.Assignable name ∧ (store.get? name frame).isSome) ∨
        (frame = footprint.env ∧ footprint.expr.Defines name)) :
    footprint.Alike count (store.define frame name value) (other.define frame name value) where
  grown := alike.grown
  size := by rw [Store.size_define, alike.size]
  agrees := by
    refine ⟨?_, alike.agrees.nextId, alike.agrees.output, fun there member => ?_⟩
    · rw [Store.size_define, Store.size_define, alike.agrees.size]
    · simp only [Store.define, Array.getElem?_modify, alike.agrees.same there member]
  outer := by
    intro there outer member around
    rw [Store.outerOf_define] at around
    exact alike.outer there outer member around
  admitted := by
    intro there sought found member bound
    rw [Store.get?_define] at bound
    split at bound
    · cases bound
      exact admitted
    · exact alike.admitted there sought found member bound
  untouched := by
    intro there old unreachable
    have apart : there ≠ frame := by
      intro same
      subst same
      rcases accessible with reachable | made
      · exact unreachable reachable
      · exact absurd old (Nat.not_lt.mpr made.1)
    rw [Store.frames_define_ne store name value apart]
    exact alike.untouched there old unreachable
  licensed := by
    intro there old sought
    have before := alike.licensed there old sought
    rw [Store.get?_define]
    split
    · rename_i written
      obtain ⟨rfl, rfl, -⟩ := written
      -- Either nothing has written the name yet, so that it was bound before, or it has its license.
      refine .inr ⟨rfl, ?_⟩
      rcases permitted old with ⟨assignable, bound⟩ | defined
      · rcases before with same | ⟨-, license⟩
        · exact .inl ⟨same ▸ bound, assignable⟩
        · exact license
      · exact .inr defined
    · exact before

theorem Alike.renumber {store other : Store} (alike : footprint.Alike count store other)
    (next : ObjectId) :
    footprint.Alike count { store with nextId := next } { other with nextId := next } :=
  ⟨alike.grown, alike.size, ⟨alike.agrees.size, rfl, alike.agrees.output, alike.agrees.same⟩,
    alike.outer, alike.admitted, alike.untouched, alike.licensed⟩

theorem Alike.write {store other : Store} (alike : footprint.Alike count store other)
    (text : String) : footprint.Alike count (store.write text) (other.write text) :=
  ⟨alike.grown, alike.size,
    ⟨alike.agrees.size, alike.agrees.nextId, congrArg (· ++ text) alike.agrees.output,
      alike.agrees.same⟩,
    alike.outer, alike.admitted, alike.untouched, alike.licensed⟩

theorem accessible_succ (accessible : footprint.Accessible (count + 1) frame) :
    footprint.Accessible count frame ∨ frame = count := by
  rcases accessible with reachable | ⟨made, bound⟩
  · exact .inl (.inl reachable)
  · rcases Nat.lt_succ_iff_lt_or_eq.mp bound with inside | last
    · exact .inl (.inr ⟨made, inside⟩)
    · exact .inr last

theorem accessible_last (grown : footprint.before.frames.size ≤ count) :
    footprint.Accessible (count + 1) count :=
  .inr ⟨grown, Nat.lt_succ_self count⟩

theorem Alike.push {store other : Store} (alike : footprint.Alike count store other)
    {bindings : Bindings} (accessible : footprint.Accessible count frame)
    (admitted : ∀ name value, bindings.get? name = some value → footprint.Admits count value) :
    footprint.Alike (count + 1) (store.push ⟨bindings, some frame⟩).2
      (other.push ⟨bindings, some frame⟩).2 where
  grown := Nat.le_succ_of_le alike.grown
  size := by rw [Store.size_push, alike.size]
  agrees := by
    refine ⟨?_, alike.agrees.nextId, alike.agrees.output, fun there member => ?_⟩
    · rw [Store.size_push, Store.size_push, alike.agrees.size]
    · rw [Store.frames_push, Store.frames_push, ← alike.agrees.size, alike.size]
      split
      · rfl
      · rename_i notLast
        exact alike.agrees.same there
          ((accessible_succ member).resolve_right notLast)
  outer := by
    intro there outer member around
    rw [Store.outerOf_push, alike.size] at around
    split at around
    · cases around
      exact accessible.lasting (Nat.le_succ count)
    · rename_i notLast
      have member := (accessible_succ member).resolve_right notLast
      exact (alike.outer there outer member around).lasting (Nat.le_succ count)
  admitted := by
    intro there name value member bound
    rw [Store.get?_push, alike.size] at bound
    split at bound
    · exact (admitted name value bound).lasting (Nat.le_succ count)
    · rename_i notLast
      have member := (accessible_succ member).resolve_right notLast
      exact (alike.admitted there name value member bound).lasting (Nat.le_succ count)
  untouched := by
    intro there old unreachable
    have notLast : there ≠ store.frames.size :=
      Nat.ne_of_lt (lt_of_lt_of_le old (alike.size ▸ alike.grown))
    rw [Store.frames_push, if_neg notLast]
    exact alike.untouched there old unreachable
  licensed := by
    intro there old name
    have notLast : there ≠ store.frames.size :=
      Nat.ne_of_lt (lt_of_lt_of_le old (alike.size ▸ alike.grown))
    rw [Store.get?_push, if_neg notLast]
    exact alike.licensed there old name

theorem read_keeps (runs : footprint.Runs count (.symbol name) frame) :
    Keeps footprint.Alike count (Action.read name frame) footprint.Admits := by
  intro store other alike
  have same := Store.lookup?_congr (footprint.Accessible count) alike.agrees.same alike.outer name
    frame runs.accessible
  refine ⟨count, le_rfl, ?_⟩
  simp only [Action.outcome_read, ← same]
  refine ⟨trivial, alike, fun value given => ?_⟩
  have found : store.lookup? name frame = some value := by
    split at given <;> simp_all
  obtain ⟨owner, nearest, bound⟩ := Store.lookup?_bound found
  exact alike.admitted owner name value
    (Store.find?_mem _ alike.outer name frame owner runs.accessible nearest) bound

theorem define_keeps {id : ObjectId} {head : Value}
    (runs : footprint.Runs count (.list id [head, .symbol name, expr]) frame)
    (form : head.keyword? = some .definition) (admitted : footprint.Admits count value) :
    Keeps footprint.Alike count (Action.define name value frame) fun _ _ => True := by
  intro store other alike
  refine ⟨count, le_rfl, rfl, ?_, fun _ _ => trivial⟩
  refine alike.define runs.accessible admitted fun old => .inr ?_
  obtain ⟨own, defines⟩ := runs.defines old
  exact ⟨own, defines name (.here form)⟩

theorem assign_keeps {id : ObjectId} {head : Value}
    (runs : footprint.Runs count (.list id [head, .symbol name, expr]) frame)
    (form : head.keyword? = some .assignment) (admitted : footprint.Admits count value) :
    Keeps footprint.Alike count (Action.assign name value frame) fun _ _ => True := by
  intro store other alike
  have same := Store.find?_congr (footprint.Accessible count) alike.agrees.same alike.outer name
    frame runs.accessible
  refine ⟨count, le_rfl, ?_⟩
  simp only [Action.outcome_assign, Store.assign?, ← same]
  cases nearest : store.find? name frame with
  | none => exact ⟨rfl, alike, fun _ _ => trivial⟩
  | some owner =>
      refine ⟨rfl, ?_, fun _ _ => trivial⟩
      have accessible :=
        Store.find?_mem _ alike.outer name frame owner runs.accessible nearest
      exact alike.define accessible admitted fun _ =>
        .inl ⟨runs.assigns name (.here form), Store.find?_bound name frame owner nearest⟩

theorem makeClosure_keeps {id id' : ObjectId} {head body : Value} {names : List String}
    (runs : footprint.Runs count (.list id [head, .list id' (names.map .symbol), body]) frame)
    (form : head.keyword? = some .abstraction) :
    Keeps footprint.Alike count (Action.makeClosure names body frame) footprint.Admits := by
  intro store other alike
  refine ⟨count, le_rfl, ?_⟩
  simp only [Action.outcome_makeClosure, alike.agrees.nextId]
  refine ⟨trivial, alike.renumber _, fun made ended => ?_⟩
  cases ended
  have inside : footprint.Admits count body := runs.admitted.within (.list (by simp) .here)
  exact Value.Procedures.closure _ ⟨runs.accessible, fun sought assigned =>
    runs.assigns sought (.body form assigned)⟩ inside

theorem extend_keeps {id : ObjectId} {parameters : List String} {body : Value}
    {captured : FrameId} {arguments : List Value}
    (admitted : footprint.Admits count (.closure id parameters body captured))
    (given : ∀ v ∈ arguments, footprint.Admits count v) :
    Keeps footprint.Alike count (Action.extend captured parameters arguments)
      fun later frame => footprint.Runs later body frame := by
  intro store other alike
  obtain ⟨accessible, assigns⟩ := admitted _ _ _ _ .here
  refine ⟨count + 1, Nat.le_succ count, ?_⟩
  simp only [Action.outcome_extend]
  refine ⟨by rw [alike.agrees.size], alike.push accessible fun name value bound => ?_, ?_⟩
  · rcases Bindings.get?_ofArguments name value [] parameters arguments bound with
      member | ⟨rfl, -⟩ | contrary
    · exact given value member
    · intro _ _ _ _ contrary
      cases contrary
    · cases contrary
  · intro frame ended
    cases ended
    rw [alike.size]
    refine ⟨accessible_last alike.grown, ?_, assigns, fun old => ?_⟩
    · exact (admitted.within (.body .here)).lasting (Nat.le_succ count)
    · exact absurd old (Nat.not_lt.mpr alike.grown)

theorem allocate_keeps {answer : Answer} (given : ∀ part ∈ answer.parts, footprint.Admits count part) :
    Keeps footprint.Alike count (Action.allocate answer) footprint.Admits := by
  intro store other alike
  refine ⟨count, le_rfl, ?_⟩
  simp only [Action.outcome_allocate, alike.agrees.nextId]
  refine ⟨trivial, alike.renumber _, fun value ended => ?_⟩
  cases ended
  exact Value.Procedures.answer _ given

theorem Runs.part {id : ObjectId} {head part : Value} {operands : List Value}
    (runs : footprint.Runs count (.list id (head :: operands)) frame)
    (evaluated : head.keyword? ≠ some .quotation ∧ head.keyword? ≠ some .abstraction)
    (member : part ∈ head :: operands) : footprint.Runs count part frame where
  accessible := runs.accessible
  admitted := runs.admitted.within (.list member .here)
  assigns := fun name assigned => runs.assigns name (.inside evaluated member assigned)
  defines := fun old => (runs.defines old).imp_right fun defines name defined =>
    defines name (.inside evaluated member defined)

variable (footprint)

def discipline : Discipline Nat where
  alike := footprint.Alike
  value := footprint.Admits
  code := footprint.Runs
  value_lasting := Admits.lasting
  code_lasting := Runs.lasting
  nothing := by
    intro _ _ _ _ _ contrary
    cases contrary
  items := Admits.items
  datum := Runs.admitted
  combination := fun runs plain _ member => runs.part (by simp [plain]) member
  branches := fun runs form _ member => runs.part (by simp [form]) (by simp [member])
  defined := fun runs form => runs.part (by simp [form]) (by simp)
  assigned := fun runs form => runs.part (by simp [form]) (by simp)
  read := read_keeps
  define := fun runs form _ admitted => define_keeps runs form admitted
  assign := fun runs form _ admitted => assign_keeps runs form admitted
  makeClosure := makeClosure_keeps
  extend := extend_keeps
  allocate := allocate_keeps
  write := fun text _ _ alike => ⟨_, le_rfl, rfl, alike.write text, fun _ _ => trivial⟩

variable {footprint} {store other : Store} {env : FrameId}

theorem accessible_start (accessible : Accessible ⟨store, env, expr⟩ store.frames.size frame) :
    store.Reaches env frame :=
  accessible.elim id fun made => absurd made.2 (Nat.not_lt.mpr made.1)

theorem alike_start (agrees : store.AgreesOn (store.Reaches env) other) :
    Alike ⟨store, env, expr⟩ store.frames.size store other where
  grown := le_rfl
  size := rfl
  agrees := ⟨agrees.size, agrees.nextId, agrees.output,
    fun frame accessible => agrees.same frame (accessible_start accessible)⟩
  outer := fun _ _ accessible around => .inl (.outer (accessible_start accessible) around)
  admitted := by
    intro frame name value accessible bound id parameters body captured within
    have holder := accessible_start accessible
    exact ⟨.inl (.captured holder bound ⟨id, parameters, body, within⟩), fun sought assigned =>
      .inr ⟨body, ⟨frame, name, value, id, parameters, captured, holder, bound, within⟩, assigned⟩⟩
  untouched := fun _ _ _ => rfl
  licensed := fun _ _ _ => .inl rfl

theorem runs_start (expr : Expr) (next : ObjectId) :
    Runs ⟨store, env, (expr.toValue next).1⟩ store.frames.size (expr.toValue next).1 env where
  accessible := .inl .here
  admitted := Value.Procedures.code expr next
  assigns := fun _ => .inl
  defines := fun _ => ⟨rfl, fun _ => id⟩

theorem evaluate_alike (depth : Nat) (expr : Expr) (next : ObjectId)
    (agrees : store.AgreesOn (store.Reaches env) other) :
    ∃ count, ((evaluate depth (expr.toValue next).1 env).outcome store).1 =
        ((evaluate depth (expr.toValue next).1 env).outcome other).1 ∧
      Alike ⟨store, env, (expr.toValue next).1⟩ count
        ((evaluate depth (expr.toValue next).1 env).outcome store).2
        ((evaluate depth (expr.toValue next).1 env).outcome other).2 ∧
      ∀ value, ((evaluate depth (expr.toValue next).1 env).outcome store).1 = .ok value →
        Admits ⟨store, env, (expr.toValue next).1⟩ count value := by
  obtain ⟨count, -, kept⟩ := Discipline.evaluate_keeps (discipline ⟨store, env, _⟩) depth
    (runs_start expr next) store other (alike_start agrees)
  exact ⟨count, kept⟩

end Footprint

end MiniLisp
