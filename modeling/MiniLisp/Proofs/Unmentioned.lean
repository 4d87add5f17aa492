import MiniLisp.Proofs.Discipline
import MiniLisp.Proofs.Renaming

/-!
Names that no code mentions. Two stores that are the same but for the bindings of a name, in
whatever frames and to whatever values, cannot be told apart by code in which the name does not
occur: they stay the same but for these bindings.
-/

namespace MiniLisp

def Bindings.without (name : String) (bindings : Bindings) : Bindings :=
  bindings.filter fun binding => binding.1 ≠ name

def Frame.without (name : String) (frame : Frame) : Frame :=
  { frame with bindings := frame.bindings.without name }

def Store.without (name : String) (store : Store) : Store :=
  { store with frames := store.frames.map (Frame.without name) }

/-- The name occurs in the body of no procedure that is part of the value. -/
def Value.Ignores (value : Value) (name : String) : Prop :=
  ∀ id parameters body frame, Within (.closure id parameters body frame) value → name ∉ body.names

/-- The name occurs in the body of no procedure that another name is bound to. -/
def Store.Ignores (store : Store) (name : String) : Prop :=
  ∀ frame other value, other ≠ name → store.get? other frame = some value → value.Ignores name

namespace Bindings

variable {name other : String}

theorem without_cons (name bound : String) (value : Value) (rest : Bindings) :
    without name ((bound, value) :: rest) =
      if bound = name then rest.without name else (bound, value) :: rest.without name := by
  by_cases same : bound = name <;> simp [without, same]

theorem get?_without (apart : other ≠ name) (bindings : Bindings) :
    (bindings.without name).get? other = bindings.get? other := by
  induction bindings with
  | nil => rfl
  | cons binding rest ih =>
      obtain ⟨bound, value⟩ := binding
      rw [without_cons]
      split
      · rename_i same
        rw [ih, get?, if_neg fun found => apart (found.symm.trans same)]
      · rw [get?, get?, ih]

theorem without_set_ne (apart : other ≠ name) (value : Value) (bindings : Bindings) :
    (bindings.set other value).without name = (bindings.without name).set other value := by
  induction bindings with
  | nil =>
      rw [set, without_cons, if_neg apart]
      rfl
  | cons binding rest ih =>
      obtain ⟨bound, old⟩ := binding
      rw [set]
      split
      · rename_i found
        have kept : bound ≠ name := fun same => apart (found.symm.trans same)
        rw [without_cons, without_cons, if_neg kept, if_neg kept, set, if_pos found]
      · rename_i passed
        rw [without_cons, without_cons, ih]
        split
        · rfl
        · rw [set, if_neg passed]

end Bindings

namespace Store

variable {store : Store} {name other : String} {frame : FrameId}

theorem outerOf_without (name : String) (store : Store) (frame : FrameId) :
    (store.without name).outerOf frame = store.outerOf frame := by
  simp only [outerOf, without, Array.getElem?_map]
  cases store.frames[frame]? <;> rfl

theorem bindingsOf_without (name : String) (store : Store) (frame : FrameId) :
    (store.without name).bindingsOf frame = (store.bindingsOf frame).without name := by
  simp only [bindingsOf, without, Array.getElem?_map]
  cases store.frames[frame]? <;> rfl

theorem get?_without (apart : other ≠ name) (store : Store) (frame : FrameId) :
    (store.without name).get? other frame = store.get? other frame := by
  rw [get?, bindingsOf_without, Bindings.get?_without apart]
  rfl

theorem find?_without (apart : other ≠ name) (store : Store) (frame : FrameId) :
    (store.without name).find? other frame = store.find? other frame :=
  find?_alike (fun _ => True) other
    (fun frame _ => by rw [bindingsOf_without, Bindings.get?_without apart])
    (fun frame _ => outerOf_without name store frame) (fun _ _ _ _ => trivial) frame trivial

theorem lookup?_without (apart : other ≠ name) (store : Store) (frame : FrameId) :
    (store.without name).lookup? other frame = store.lookup? other frame := by
  unfold lookup?
  rw [find?_without apart]
  exact congrArg _ (funext fun owner => get?_without apart store owner)

theorem size_without (name : String) (store : Store) :
    (store.without name).frames.size = store.frames.size := by
  simp [without]

theorem without_define_ne (apart : other ≠ name) (store : Store) (frame : FrameId) (value : Value) :
    (store.define frame other value).without name =
      (store.without name).define frame other value := by
  simp only [define, without]
  congr 1
  refine Array.ext_getElem? fun i => ?_
  simp only [Array.getElem?_map, Array.getElem?_modify]
  split
  · cases store.frames[i]? with
    | none => rfl
    | some found =>
        simp only [Option.map_some, Frame.without, Bindings.without_set_ne apart]
  · rfl

theorem without_push (name : String) (store : Store) (frame : Frame) :
    (store.push frame).2.without name = ((store.without name).push (frame.without name)).2 := by
  simp [push, without]

end Store

namespace Value

variable {value inner : Value} {name : String}

theorem names_of_within (within : Within inner value) : inner.names ⊆ value.names := by
  induction within with
  | here => exact fun _ => id
  | list member _ ih => exact fun _ named => mem_namesAll.mpr ⟨_, member, ih named⟩
  | tuple member _ ih => exact fun _ named => mem_namesAll.mpr ⟨_, member, ih named⟩
  | body _ ih => exact fun _ named => List.mem_append_right _ (ih named)

theorem ignores_of_unmentioned (unmentioned : name ∉ value.names) : value.Ignores name :=
  fun _ _ _ _ within named =>
    unmentioned (names_of_within within (List.mem_append_right _ named))

theorem Ignores.closure {body : Value} (id : ObjectId) (parameters : List String) (frame : FrameId)
    (unmentioned : name ∉ body.names) : (Value.closure id parameters body frame).Ignores name :=
  Procedures.closure id unmentioned (ignores_of_unmentioned unmentioned)

end Value

namespace Store.Ignores

variable {store : Store} {name other : String} {value : Value}

theorem define (ignores : store.Ignores name) (frame : FrameId) (other : String)
    (kept : value.Ignores name) : (store.define frame other value).Ignores name :=
  fun there sought found apart bound =>
    Store.bound_define (fun frame other value bound apart => ignores frame other value apart bound)
      (fun _ => kept) there sought found bound apart

theorem push (ignores : store.Ignores name) (captured : FrameId) (parameters : List String)
    {arguments : List Value} (given : ∀ argument ∈ arguments, argument.Ignores name) :
    (store.push ⟨Bindings.ofArguments [] parameters arguments, some captured⟩).2.Ignores name :=
  fun frame sought value apart bound =>
    Store.bound_push (fun frame other value bound apart => ignores frame other value apart bound)
      (fun value member _ _ => given value member) (fun _ _ _ _ _ _ => nofun) frame sought value
      bound apart

end Store.Ignores

namespace Unmentioned

variable {name other : String} {store store' : Store} {frame : FrameId} {value : Value}

/-- The stores are the same but for the bindings of the name, and code does not mention it. -/
structure Alike (name : String) (store store' : Store) : Prop where
  same : store.without name = store'.without name
  ignores : store.Ignores name

theorem Alike.find? (alike : Alike name store store') (apart : other ≠ name) (frame : FrameId) :
    store.find? other frame = store'.find? other frame := by
  rw [← Store.find?_without apart, alike.same, Store.find?_without apart]

theorem Alike.lookup? (alike : Alike name store store') (apart : other ≠ name) (frame : FrameId) :
    store.lookup? other frame = store'.lookup? other frame := by
  rw [← Store.lookup?_without apart, alike.same, Store.lookup?_without apart]

theorem Alike.size (alike : Alike name store store') : store.frames.size = store'.frames.size := by
  rw [← store.size_without name, alike.same, store'.size_without name]

theorem Alike.nextId (alike : Alike name store store') : store.nextId = store'.nextId := by
  have same : (store.without name).nextId = (store'.without name).nextId := by rw [alike.same]
  exact same

theorem Alike.output (alike : Alike name store store') : store.output = store'.output := by
  have same : (store.without name).output = (store'.without name).output := by rw [alike.same]
  exact same

theorem Alike.renumber (alike : Alike name store store') (next : ObjectId) :
    Alike name { store with nextId := next } { store' with nextId := next } where
  same := congrArg (fun store : Store => { store with nextId := next }) alike.same
  ignores := alike.ignores

theorem Alike.define (alike : Alike name store store') (apart : other ≠ name) (frame : FrameId)
    (kept : value.Ignores name) :
    Alike name (store.define frame other value) (store'.define frame other value) where
  same := by rw [Store.without_define_ne apart, alike.same, Store.without_define_ne apart]
  ignores := alike.ignores.define frame other kept

theorem Alike.push (alike : Alike name store store') (captured : FrameId)
    (parameters : List String) {arguments : List Value}
    (given : ∀ argument ∈ arguments, argument.Ignores name) :
    Alike name (store.push ⟨Bindings.ofArguments [] parameters arguments, some captured⟩).2
      (store'.push ⟨Bindings.ofArguments [] parameters arguments, some captured⟩).2 where
  same := by rw [Store.without_push, Store.without_push, alike.same]
  ignores := alike.ignores.push captured parameters given

theorem Alike.write (alike : Alike name store store') (text : String) :
    Alike name (store.write text) (store'.write text) where
  same := congrArg (Store.write · text) alike.same
  ignores := alike.ignores

theorem ne_of_unmentioned {items : List Value} {id : ObjectId} (member : .symbol other ∈ items)
    (unmentioned : name ∉ (Value.list id items).names) : other ≠ name := by
  rintro rfl
  exact unmentioned (Value.mem_namesAll.mpr ⟨_, member, List.mem_singleton_self other⟩)

theorem unmentioned_item {items : List Value} {id : ObjectId} (member : value ∈ items)
    (unmentioned : name ∉ (Value.list id items).names) : name ∉ value.names :=
  fun named => unmentioned (Value.mem_namesAll.mpr ⟨value, member, named⟩)

theorem read_keeps (apart : other ≠ name) :
    Keeps (fun _ : Moment => Alike name) .always (Action.read other frame)
      fun _ value => value.Ignores name := by
  intro store store' alike
  rw [Action.outcome_read, Action.outcome_read, ← alike.lookup? apart]
  refine ⟨.always, trivial, rfl, alike, fun value given => ?_⟩
  dsimp only at given
  split at given
  · cases given
  · cases given
  · rename_i found
    cases given
    obtain ⟨owner, -, bound⟩ := Store.lookup?_bound found
    exact alike.ignores owner other _ apart bound

theorem assign_keeps (apart : other ≠ name) (kept : value.Ignores name) :
    Keeps (fun _ : Moment => Alike name) .always (Action.assign other value frame)
      fun _ _ => True := by
  intro store store' alike
  rw [Action.outcome_assign, Action.outcome_assign, Store.assign?, Store.assign?,
    ← alike.find? apart]
  cases store.find? other frame with
  | none => exact ⟨.always, trivial, rfl, alike, fun _ _ => trivial⟩
  | some owner =>
      exact ⟨.always, trivial, rfl, alike.define apart owner kept, fun _ _ => trivial⟩

def discipline (name : String) : Discipline Moment where
  alike := fun _ => Alike name
  value := fun _ value => value.Ignores name
  code := fun _ expr _ => name ∉ expr.names
  value_lasting := fun _ => id
  code_lasting := fun _ => id
  nothing := Value.ignores_of_unmentioned List.not_mem_nil
  items := Value.Procedures.items
  datum := Value.ignores_of_unmentioned
  combination := fun code _ _ member => unmentioned_item member code
  branches := fun code _ _ member => unmentioned_item (List.mem_cons_of_mem _ member) code
  defined := fun code _ => unmentioned_item (by simp) code
  assigned := fun code _ => unmentioned_item (by simp) code
  read := fun code => read_keeps fun same => code (List.mem_singleton.mpr same.symm)
  define := fun code _ _ kept store store' alike =>
    ⟨.always, trivial, rfl, alike.define (ne_of_unmentioned (by simp) code) _ kept,
      fun _ _ => trivial⟩
  assign := fun code _ _ kept => assign_keeps (ne_of_unmentioned (by simp) code) kept
  makeClosure := by
    intro _ id head id' names body frame code _ store store' alike
    rw [Action.outcome_makeClosure, Action.outcome_makeClosure, ← alike.nextId]
    refine ⟨.always, trivial, rfl, alike.renumber _, fun value made => ?_⟩
    cases made
    exact .closure _ names frame (unmentioned_item (by simp) code)
  extend := by
    intro _ id parameters body captured arguments kept given store store' alike
    rw [Action.outcome_extend, Action.outcome_extend, ← alike.size]
    exact ⟨.always, trivial, rfl, alike.push captured parameters given,
      fun _ _ => kept id parameters body captured .here⟩
  allocate := by
    intro _ answer kept store store' alike
    rw [Action.outcome_allocate, Action.outcome_allocate, ← alike.nextId]
    refine ⟨.always, trivial, rfl, alike.renumber _, fun value made => ?_⟩
    cases made
    exact Value.Procedures.answer _ kept
  write := fun text store store' alike =>
    ⟨.always, trivial, rfl, alike.write text, fun _ _ => trivial⟩

end Unmentioned

/-- A name that occurs neither in an expression nor in the procedures that other names are bound to
has no influence on the evaluation of the expression, wherever and to whatever it may be bound: the
result and what is printed are the same, and so are the stores that are left, again but for the
bindings of the name. -/
theorem evaluate_unmentioned (depth : Nat) (name : String) (expr : Value) (frame : FrameId)
    (store other : Store) (unmentioned : name ∉ expr.names) (ignores : store.Ignores name)
    (same : store.without name = other.without name) :
    let (result, after) := (evaluate depth expr frame).outcome store
    let (result', after') := (evaluate depth expr frame).outcome other
    result = result' ∧ after.output = after'.output ∧
      after.without name = after'.without name ∧
      after.Ignores name ∧ ∀ value, result = .ok value → value.Ignores name := by
  have alike : Unmentioned.Alike name store other := ⟨same, ignores⟩
  have code : (Unmentioned.discipline name).code .always expr frame := unmentioned
  obtain ⟨_, -, ended, left, kept⟩ :=
    (Unmentioned.discipline name).evaluate_keeps depth code store other alike
  have left : Unmentioned.Alike name _ _ := left
  exact ⟨ended, left.output, left.same, left.ignores, kept⟩

/-- A procedure with a parameter that its body does not mention, and a name beside it. -/
def besideCounter (binding : Value) : Store :=
  ⟨#[⟨[("x", .int 1), ("n", binding), ("first", .closure 3 ["x", "n"] (.symbol "x") 0)], none⟩], 4,
    ""⟩

def defineFirst : Value :=
  .list 2 [.symbol "define", .symbol "y", .list 3 [.symbol "first", .symbol "x", .int 7]]

theorem besideCounter_ignores (binding : Value) : (besideCounter binding).Ignores "n" := by
  intro frame other value apart bound
  have inside : frame < 1 := Store.lt_size_of_bound _ bound
  obtain rfl : frame = 0 := Nat.lt_one_iff.mp inside
  rcases List.mem_cons.mp (Bindings.mem_of_get? bound) with same | member
  · cases same
    exact Value.ignores_of_unmentioned (by simp [Value.names])
  rcases List.mem_cons.mp member with same | member
  · cases same
    exact absurd rfl apart
  · cases List.mem_singleton.mp member
    exact .closure _ _ _ (by simp [Value.names])

theorem defineFirst_unmentioned :
    "n" ∉ defineFirst.names ∧ (besideCounter (.int 5)).Ignores "n" ∧
      (besideCounter (.int 5)).without "n" = (besideCounter (.primitive .print)).without "n" ∧
      (let after := ((evaluate 9 defineFirst 0).outcome (besideCounter (.int 5))).2
      let after' := ((evaluate 9 defineFirst 0).outcome (besideCounter (.primitive .print))).2
      after.get? "y" 0 = some (.int 1) ∧ after.get? "n" 0 ≠ after'.get? "n" 0 ∧
        after.without "n" = after'.without "n") := by
  have unmentioned : "n" ∉ defineFirst.names := by simp [defineFirst, Value.names, Value.namesAll]
  have same : (besideCounter (.int 5)).without "n" =
      (besideCounter (.primitive .print)).without "n" := by
    simp [besideCounter, Store.without, Frame.without, Bindings.without]
  obtain ⟨-, -, after, -⟩ := evaluate_unmentioned 9 "n" defineFirst 0 (besideCounter (.int 5))
    (besideCounter (.primitive .print)) unmentioned (besideCounter_ignores _) same
  refine ⟨unmentioned, besideCounter_ignores _, same, by with_unfolding_all rfl, ?_, after⟩
  have number : ((evaluate 9 defineFirst 0).outcome (besideCounter (.int 5))).2.get? "n" 0 =
      some (.int 5) := by with_unfolding_all rfl
  have procedure : ((evaluate 9 defineFirst 0).outcome (besideCounter (.primitive .print))).2.get?
      "n" 0 = some (.primitive .print) := by with_unfolding_all rfl
  rw [number, procedure]
  intro contrary
  cases contrary

end MiniLisp
