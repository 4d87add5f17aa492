import MiniLisp.Proofs.Heap

namespace MiniLisp

theorem Action.outcome_tryCatch {α : Type} (action : Action α) (handler : Failure → Action α)
    (store : Store) :
    (tryCatch action handler).outcome store =
      match action.outcome store with
      | (.ok x, after) => (.ok x, after)
      | (.error failure, after) => (handler failure).outcome after := by
  change (ExceptT.tryCatch action handler).run store = _
  unfold ExceptT.tryCatch outcome ExceptT.run
  rcases ended : action store with ⟨failure | x, after⟩
  · simp only [ExceptT.mk, bind, StateT.bind, ended]
  · simp only [ExceptT.mk, bind, StateT.bind, ended]
    rfl

/-- From this store on the action, good or bad, keeps the heap well formed and its links in place; what
it gives has a property, given the number of frames. -/
structure Action.Upholds {α : Type} (action : Action α) (store : Store) (gives : Nat → α → Prop) :
    Prop where
  wellFormed : (action.outcome store).2.WellFormed
  linked : store.links ≤ (action.outcome store).2.links
  given : ∀ x, (action.outcome store).1 = .ok x → gives (action.outcome store).2.frames.size x

namespace Action.Upholds

variable {α β : Type} {action : Action α} {next : α → Action β} {store : Store}
  {gives : Nat → α → Prop} {gives' : Nat → β → Prop}

theorem pure {x : α} (wellFormed : store.WellFormed) (given : gives store.frames.size x) :
    (Pure.pure x : Action α).Upholds store gives where
  wellFormed := wellFormed
  linked := le_rfl
  given := by simpa using given

theorem throw {failure : Failure} (wellFormed : store.WellFormed) :
    (throw failure : Action α).Upholds store gives where
  wellFormed := wellFormed
  linked := le_rfl
  given := by simp

theorem bind (first : action.Upholds store gives)
    (second : ∀ x later, later.WellFormed → store.links ≤ later.links → gives later.frames.size x →
      (next x).Upholds later gives') : (action >>= next).Upholds store gives' := by
  obtain ⟨wellFormed, linked, given⟩ := first
  rcases ended : action.outcome store with ⟨failure | x, later⟩
  · have outcome : (action >>= next).outcome store = (.error failure, later) := by
      rw [Action.outcome_bind, ended]
    rw [ended] at wellFormed linked
    exact ⟨outcome ▸ wellFormed, outcome ▸ linked, by simp [outcome]⟩
  · have outcome : (action >>= next).outcome store = (next x).outcome later := by
      rw [Action.outcome_bind, ended]
    rw [ended] at wellFormed linked given
    obtain ⟨wellFormed', linked', given'⟩ := second x later wellFormed linked (given x rfl)
    exact ⟨outcome ▸ wellFormed', outcome ▸ linked.trans linked', outcome ▸ given'⟩

theorem reading (wellFormed : store.WellFormed) {result : Except Failure α}
    (outcome : action.outcome store = (result, store))
    (given : ∀ x, result = .ok x → gives store.frames.size x) : action.Upholds store gives where
  wellFormed := outcome ▸ wellFormed
  linked := by rw [outcome]
  given := by rwa [outcome]

end Action.Upholds

namespace Environment

def Refused {α : Type} (action : Action α) (store : Store) : Prop :=
  ∃ failure, action.outcome store = (.error failure, store)

section Names

variable {depth : Nat} {frame : FrameId} {name value : Value} {store : Store}

def NoName (name : Value) : Prop := ∀ text, name ≠ .symbol text

theorem mention_refused {α : Type} (failure : String → Failure) :
    Refused (do throw (failure (← Action.ofExcept (name.mention depth))) : Action α) store := by
  rw [Refused, Action.outcome_bind, Action.outcome_ofExcept]
  rcases name.mention depth with inner | text
  · exact ⟨inner, rfl⟩
  · exact ⟨failure text, rfl⟩

theorem withName_refused {α : Type} {action : String → Action α} (noName : NoName name) :
    Refused (withName depth name action) store := by
  unfold withName
  split
  · exact absurd rfl (noName _)
  · split
    · exact mention_refused .unboundSymbol
    · exact ⟨.unreported .listAsName, rfl⟩

theorem define_refused (noName : NoName name) :
    Refused (define depth frame name value) store := by
  unfold define
  split
  · exact absurd rfl (noName _)
  · exact mention_refused .notDefinable

end Names

section Symbols

def orUnbound {α : Type} (name : String) (found : Option α) : Except Failure α :=
  found.elim (.error (.unboundSymbol name)) .ok

theorem orUnbound_eq_ok {α : Type} {name : String} {found : Option α} {x : α} :
    orUnbound name found = .ok x ↔ found = some x := by
  cases found <;> simp [orUnbound]

variable (depth : Nat) (frame : FrameId) (name : String) (value : Value) (store : Store)

theorem outcome_define : (define depth frame (.symbol name) value).outcome store =
    (.ok ⟨⟩, store.define frame name value) := rfl

theorem outcome_find : (find depth frame (.symbol name)).outcome store =
    (orUnbound name (store.find? name frame), store) := by
  rw [find, withName, Action.outcome_bind, Action.outcome_get]
  dsimp only
  cases store.find? name frame <;> rfl

theorem outcome_getOwn : (getOwn depth frame (.symbol name)).outcome store =
    (orUnbound name (store.get? name frame), store) := by
  rw [getOwn, withName, Action.outcome_bind, Action.outcome_get]
  dsimp only
  cases store.get? name frame <;> rfl

theorem outcome_lookup : (lookup depth frame (.symbol name)).outcome store =
    (orUnbound name (store.lookup? name frame), store) := by
  rw [lookup, Action.outcome_bind, outcome_find, Store.lookup?]
  cases found : store.find? name frame with
  | none => rfl
  | some owner => exact outcome_getOwn depth owner name store

theorem outcome_assign : (assign depth frame (.symbol name) value).outcome store =
    ((store.find? name frame).elim (.error (.unboundSymbol name), store)
      fun owner => (.ok ⟨⟩, store.define owner name value)) := by
  rw [assign, withName, Action.outcome_assign, Store.assign?]
  cases store.find? name frame <;> rfl

end Symbols

section Reading

variable {depth : Nat} {frame : FrameId} {name : Value} {store : Store}

theorem symbol_or_noName (name : Value) : (∃ text, name = .symbol text) ∨ NoName name := by
  by_cases named : ∃ text, name = .symbol text
  · exact .inl named
  · exact .inr fun text same => named ⟨text, same⟩

theorem find_reads (depth : Nat) (frame : FrameId) (name : Value) (store : Store) :
    ∃ result, (find depth frame name).outcome store = (result, store) ∧
      ∀ owner, result = .ok owner → owner < store.frames.size := by
  rcases symbol_or_noName name with ⟨text, rfl⟩ | noName
  · refine ⟨_, outcome_find depth frame text store, fun owner found => ?_⟩
    rw [orUnbound_eq_ok] at found
    obtain ⟨value, bound⟩ := Option.isSome_iff_exists.mp (Store.find?_bound _ _ _ found)
    exact store.lt_size_of_bound bound
  · obtain ⟨failure, outcome⟩ : Refused (find depth frame name) store := withName_refused noName
    exact ⟨_, outcome, by simp⟩

theorem find_upholds (wellFormed : store.WellFormed) :
    (find depth frame name).Upholds store fun count owner => owner < count := by
  obtain ⟨result, outcome, inside⟩ := find_reads depth frame name store
  exact .reading wellFormed outcome inside

theorem getOwn_upholds (wellFormed : store.WellFormed) :
    (getOwn depth frame name).Upholds store fun count value => value.CapturesBelow count := by
  rcases symbol_or_noName name with ⟨text, rfl⟩ | noName
  · refine .reading wellFormed (outcome_getOwn depth frame text store) fun value bound => ?_
    rw [orUnbound_eq_ok] at bound
    exact wellFormed.closed frame _ (Bindings.mem_of_get? bound)
  · obtain ⟨failure, outcome⟩ := withName_refused noName
    exact .reading wellFormed outcome (by simp)

theorem lookup_upholds (wellFormed : store.WellFormed) :
    (lookup depth frame name).Upholds store fun count value => value.CapturesBelow count :=
  (find_upholds wellFormed).bind fun _ _ wellFormed' _ _ => getOwn_upholds wellFormed'

theorem contains_upholds (wellFormed : store.WellFormed) :
    (contains depth frame name).Upholds store fun _ _ => True := by
  obtain ⟨result, found, -⟩ := find_reads depth frame name store
  have outcome : ∃ result, (contains depth frame name).outcome store = (result, store) := by
    rw [contains, Action.outcome_tryCatch, Action.outcome_bind, found]
    cases result with
    | ok owner => exact ⟨.ok true, rfl⟩
    | error failure => cases failure <;> exact ⟨_, rfl⟩
  obtain ⟨result, outcome⟩ := outcome
  exact .reading wellFormed outcome fun _ _ => trivial

end Reading

section Writing

variable {depth : Nat} {frame : FrameId} {name value : Value} {store : Store}

theorem define_upholds (wellFormed : store.WellFormed)
    (below : value.CapturesBelow store.frames.size) :
    (define depth frame name value).Upholds store fun _ _ => True := by
  rcases symbol_or_noName name with ⟨text, rfl⟩ | noName
  · exact ⟨wellFormed.define frame text below, (store.links_define frame text value).ge,
      fun _ _ => trivial⟩
  · obtain ⟨failure, outcome⟩ := define_refused noName
    exact .reading wellFormed outcome fun _ _ => trivial

theorem assign_upholds (wellFormed : store.WellFormed)
    (below : value.CapturesBelow store.frames.size) :
    (assign depth frame name value).Upholds store fun _ _ => True := by
  rcases symbol_or_noName name with ⟨text, rfl⟩ | noName
  · have outcome := outcome_assign depth frame text value store
    cases found : store.find? text frame with
    | none =>
        rw [found] at outcome
        exact .reading wellFormed outcome fun _ _ => trivial
    | some owner =>
        rw [found] at outcome
        exact ⟨outcome ▸ wellFormed.define owner text below,
          outcome ▸ (store.links_define owner text value).ge, fun _ _ => trivial⟩
  · obtain ⟨failure, outcome⟩ := withName_refused noName
    exact .reading wellFormed outcome fun _ _ => trivial

theorem bindAll_upholds {names values : List Value} (wellFormed : store.WellFormed)
    (below : ∀ value ∈ values, value.CapturesBelow store.frames.size) :
    (bindAll depth frame names values).Upholds store fun _ _ => True := by
  fun_induction bindAll depth frame names values generalizing store with
  | case1 | case2 => exact .pure wellFormed trivial
  | case3 name names _ ih =>
      refine (define_upholds wellFormed (Value.capturesBelow_unbound _)).bind ?_
      intro _ later wellFormed' linked _
      exact ih wellFormed' (by simp)
  | case4 name names value values _ ih =>
      refine (define_upholds wellFormed (below value (by simp))).bind ?_
      intro _ later wellFormed' linked _
      refine ih wellFormed' fun value member => ?_
      exact (below value (by simp [member])).lasting (Store.size_mono linked)

theorem push_upholds (bindings : Bindings) (outer : Option FrameId) (wellFormed : store.WellFormed)
    (inside : ∀ frame, outer = some frame → frame < store.frames.size)
    (below : ∀ binding ∈ bindings, binding.2.CapturesBelow store.frames.size) :
    Action.Upholds (modifyGet (Store.push · ⟨bindings, outer⟩)) store
      fun count frame => frame < count where
  wellFormed := wellFormed.push inside below
  linked := (Links.le_enter _ _).trans (store.links_push ⟨bindings, outer⟩).ge
  given := by
    intro frame made
    cases made
    exact Nat.lt_of_lt_of_eq (Nat.lt_succ_self _) (store.size_push ⟨bindings, outer⟩).symm

theorem make_upholds {names values : List Value} {outer : Option FrameId}
    (wellFormed : store.WellFormed) (inside : ∀ frame, outer = some frame → frame < store.frames.size)
    (below : ∀ value ∈ values, value.CapturesBelow store.frames.size) :
    (make depth names values outer).Upholds store fun count frame => frame < count := by
  have pushed := push_upholds [] outer wellFormed inside (by simp)
  refine pushed.bind fun frame later wellFormed' linked new => ?_
  have below' (value : Value) (member : value ∈ values) :
      value.CapturesBelow later.frames.size :=
    (below value member).lasting (Store.size_mono linked)
  refine (bindAll_upholds wellFormed' below').bind fun _ last wellFormed'' linked' _ => ?_
  exact .pure wellFormed'' (Nat.lt_of_lt_of_le new (Store.size_mono linked'))

theorem Table.mem_put {table : Table} {key : TableKey} {row : TableKey × Value}
    (member : row ∈ table.put key value) : row.2 = value ∨ row ∈ table := by
  fun_induction Table.put table key value with
  | case1 => simp_all
  | case2 key' value' rest same =>
      rcases List.mem_cons.mp member with rfl | member
      · exact .inl rfl
      · exact .inr (List.mem_cons_of_mem _ member)
  | case3 key' value' rest other ih =>
      rcases List.mem_cons.mp member with rfl | member
      · exact .inr List.mem_cons_self
      · exact (ih member).imp_right (List.mem_cons_of_mem _)

theorem Table.forall_ofRows (holds : Value → Prop) {rows : List (TableKey × Value)}
    (each : ∀ row ∈ rows, holds row.2) : ∀ row ∈ Table.ofRows rows, holds row.2 := by
  have general (table : Table) (before : ∀ row ∈ table, holds row.2) :
      ∀ row ∈ rows.foldl (fun table row => table.put row.1 row.2) table, holds row.2 := by
    induction rows generalizing table with
    | nil => exact before
    | cons first rows ih =>
        refine ih (fun row member => each row (List.mem_cons_of_mem _ member)) _ fun row member => ?_
        rcases Table.mem_put member with same | member
        · exact same ▸ each first List.mem_cons_self
        · exact before row member
  exact general [] (by simp)

theorem update_upholds {rows : List (TableKey × Value)} (wellFormed : store.WellFormed)
    (below : ∀ row ∈ rows, row.2.CapturesBelow store.frames.size) :
    (update depth frame rows).Upholds store fun _ _ => True := by
  have defines (table : Table) (store : Store) (wellFormed : store.WellFormed)
      (below : ∀ row ∈ table, row.2.CapturesBelow store.frames.size) :
      Action.Upholds (table.forM fun row => define depth frame row.1.toName row.2) store
        fun _ _ => True := by
    induction table generalizing store with
    | nil => exact .pure wellFormed trivial
    | cons row table ih =>
        refine (define_upholds wellFormed (below row (by simp))).bind ?_
        intro _ later wellFormed' linked _
        refine ih later wellFormed' fun row member => ?_
        exact (below row (by simp [member])).lasting (Store.size_mono linked)
  unfold update
  split
  · exact defines _ store wellFormed (Table.forall_ofRows (·.CapturesBelow _) below)
  · exact .throw wellFormed

end Writing

inductive Request where
  | make (names values : List Value) (outer : Option FrameId)
  | standard
  | define (frame : FrameId) (name value : Value)
  | assign (frame : FrameId) (name value : Value)
  | update (frame : FrameId) (rows : List (TableKey × Value))
  | find (frame : FrameId) (name : Value)
  | getOwn (frame : FrameId) (name : Value)
  | lookup (frame : FrameId) (name : Value)
  | contains (frame : FrameId) (name : Value)
  | evaluate (frame : FrameId) (line : String)

inductive Reply where
  | nothing
  | truth (b : Bool)
  | environment (frame : FrameId)
  | value (v : Value)

namespace Request

def run (depth : Nat) : Request → Action Reply
  | make names values outer => return .environment (← Environment.make depth names values outer)
  | standard => return .environment (← modifyGet Store.pushStandard)
  | define frame name value => do Environment.define depth frame name value; return .nothing
  | assign frame name value => do Environment.assign depth frame name value; return .nothing
  | update frame rows => do Environment.update depth frame rows; return .nothing
  | find frame name => return .environment (← Environment.find depth frame name)
  | getOwn frame name => return .value (← Environment.getOwn depth frame name)
  | lookup frame name => return .value (← Environment.lookup depth frame name)
  | contains frame name => return .truth (← Environment.contains depth frame name)
  | evaluate frame line => return .value (← evaluateLine depth line frame)

/-- What a request mentions is there: environments, and procedures made in environments. -/
def Possible (store : Store) : Request → Prop
  | make _ values outer => (∀ value ∈ values, value.CapturesBelow store.frames.size) ∧
      ∀ frame, outer = some frame → frame < store.frames.size
  | standard => True
  | define frame _ value | assign frame _ value =>
      frame < store.frames.size ∧ value.CapturesBelow store.frames.size
  | update frame rows => frame < store.frames.size ∧
      ∀ row ∈ rows, row.2.CapturesBelow store.frames.size
  | find frame _ | getOwn frame _ | lookup frame _ | contains frame _ | evaluate frame _ =>
      frame < store.frames.size

end Request

def Reply.Sound (count : Nat) : Reply → Prop
  | environment frame => frame < count
  | value v => v.CapturesBelow count
  | _ => True

theorem evaluateLine_upholds {store : Store} {frame : FrameId} (wellFormed : store.WellFormed)
    (inside : frame < store.frames.size) (depth : Nat) (line : String) :
    (evaluateLine depth line frame).Upholds store fun count value => value.CapturesBelow count := by
  have read : (readCode depth line).Upholds store fun count value => value.CapturesBelow count := by
    have outcome := Action.outcome_readCode depth line store
    cases parsed : parse depth line with
    | error failure =>
        rw [parsed] at outcome
        exact .reading wellFormed outcome (by simp)
    | ok expr =>
        rw [parsed] at outcome
        refine ⟨outcome ▸ ⟨wellFormed.outward, wellFormed.closed⟩, outcome ▸ le_rfl, ?_⟩
        intro value given
        rw [outcome] at given ⊢
        cases given
        exact Value.capturesBelow_code expr store.nextId _
  refine read.bind fun code later wellFormed' linked below => ?_
  obtain ⟨wellFormed'', linked', given⟩ := evaluate_wellFormed depth wellFormed' below
    (Nat.lt_of_lt_of_le inside (Store.size_mono linked))
  exact ⟨wellFormed'', linked', given⟩

theorem replying_upholds {α : Type} {action : Action α} {store : Store} {gives : Nat → α → Prop}
    {reply : α → Reply} (upholds : action.Upholds store gives)
    (sound : ∀ count x, gives count x → (reply x).Sound count) :
    (do return reply (← action)).Upholds store fun count reply => reply.Sound count :=
  upholds.bind fun x _ wellFormed _ given => .pure wellFormed (sound _ x given)

theorem Request.run_upholds {store : Store} {request : Request} (wellFormed : store.WellFormed)
    (possible : request.Possible store) (depth : Nat) :
    (request.run depth).Upholds store fun count reply => reply.Sound count := by
  cases request with
  | make names values outer =>
      exact replying_upholds (make_upholds wellFormed possible.2 possible.1) fun _ _ inside => inside
  | standard =>
      have standard : ∀ binding ∈ standardBindings,
          binding.2.CapturesBelow store.frames.size := by
        rintro binding member captured ⟨id, parameters, body, held⟩
        cases Value.within_standard (standardBindings_standard _ member) held
      exact replying_upholds (push_upholds standardBindings none wellFormed (by simp) standard)
        fun _ _ inside => inside
  | define frame name value =>
      exact replying_upholds (define_upholds wellFormed possible.2) fun _ _ _ => trivial
  | assign frame name value =>
      exact replying_upholds (assign_upholds wellFormed possible.2) fun _ _ _ => trivial
  | update frame rows =>
      exact replying_upholds (update_upholds wellFormed possible.2) fun _ _ _ => trivial
  | find frame name =>
      exact replying_upholds (find_upholds wellFormed) fun _ _ inside => inside
  | getOwn frame name =>
      exact replying_upholds (getOwn_upholds wellFormed) fun _ _ below => below
  | lookup frame name =>
      exact replying_upholds (lookup_upholds wellFormed) fun _ _ below => below
  | contains frame name =>
      exact replying_upholds (contains_upholds wellFormed) fun _ _ _ => trivial
  | evaluate frame line =>
      exact replying_upholds (evaluateLine_upholds wellFormed possible depth line)
        fun _ _ below => below

end Environment

end MiniLisp
