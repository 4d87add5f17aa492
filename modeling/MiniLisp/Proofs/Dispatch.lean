import MiniLisp.Proofs.Footprint
import MiniLisp.Proofs.Reserved
import MiniLisp.Proofs.Unmentioned

/-!
Reserved words as heads. A list headed by a reserved word is a special form whatever frames bind the
word to. So two stores that are the same but for the bindings of reserved words cannot be told apart
by code in which these words are nothing but heads of lists or quoted.
-/

namespace MiniLisp

def Keyword.names : List String := Keyword.all.map Keyword.name

def Frame.withoutNames (names : List String) (frame : Frame) : Frame :=
  names.foldr Frame.without frame

def Store.withoutNames (names : List String) (store : Store) : Store :=
  names.foldr Store.without store

/-- Somewhere in the code, quotations apart, there is a reserved word that is not the head of a
list. -/
inductive Value.Misplaces : Value → Prop
  | here {name : String} (reserved : isKeyword name = true) : Misplaces (.symbol name)
  | head {id : ObjectId} {head : Value} {operands : List Value} (plain : head.keyword? = none)
      (deeper : Misplaces head) : Misplaces (.list id (head :: operands))
  | operand {id : ObjectId} {head operand : Value} {operands : List Value}
      (unquoted : head.keyword? ≠ some .quotation) (member : operand ∈ operands)
      (deeper : Misplaces operand) : Misplaces (.list id (head :: operands))

theorem not_mem_names_of_free {name : String} (free : isKeyword name = false) :
    name ∉ Keyword.names := by
  intro member
  obtain ⟨keyword, -, same⟩ := List.mem_map.mp member
  exact name_ne_of_free free keyword same

namespace Value

@[simp]
theorem misplaces_symbol {name : String} : (symbol name).Misplaces ↔ isKeyword name = true :=
  ⟨fun | .here reserved => reserved, .here⟩

@[simp]
theorem not_misplaces_int (n : Int) : ¬ (int n).Misplaces := nofun

@[simp]
theorem misplaces_list {id : ObjectId} {head : Value} {operands : List Value} :
    (list id (head :: operands)).Misplaces ↔ (head.keyword? = none ∧ head.Misplaces) ∨
      (head.keyword? ≠ some .quotation ∧ ∃ operand ∈ operands, operand.Misplaces) := by
  constructor
  · intro misplaced
    cases misplaced with
    | head plain deeper => exact .inl ⟨plain, deeper⟩
    | operand unquoted member deeper => exact .inr ⟨unquoted, _, member, deeper⟩
  · rintro (⟨plain, deeper⟩ | ⟨unquoted, operand, member, deeper⟩)
    · exact .head plain deeper
    · exact .operand unquoted member deeper

end Value

namespace Store

variable {names : List String} {name : String}

theorem withoutNames_cons (name : String) (names : List String) (store : Store) :
    store.withoutNames (name :: names) = (store.withoutNames names).without name := rfl

theorem eq_withoutNames {α : Type} (seen : Store → α)
    (each : ∀ name ∈ names, ∀ store : Store, seen (store.without name) = seen store)
    (store : Store) : seen (store.withoutNames names) = seen store := by
  induction names with
  | nil => rfl
  | cons name names ih =>
      rw [withoutNames_cons, each name List.mem_cons_self]
      exact ih fun other member => each other (List.mem_cons_of_mem name member)

theorem withoutNames_step (step : Store → Store)
    (each : ∀ name ∈ names, ∀ store : Store, (step store).without name = step (store.without name))
    (store : Store) : (step store).withoutNames names = step (store.withoutNames names) := by
  induction names with
  | nil => rfl
  | cons name names ih =>
      rw [withoutNames_cons, withoutNames_cons,
        ih fun other member => each other (List.mem_cons_of_mem name member)]
      exact each name List.mem_cons_self _

theorem size_withoutNames (names : List String) (store : Store) :
    (store.withoutNames names).frames.size = store.frames.size :=
  eq_withoutNames (·.frames.size) (fun name _ store => size_without name store) store

theorem nextId_withoutNames (names : List String) (store : Store) :
    (store.withoutNames names).nextId = store.nextId :=
  eq_withoutNames nextId (fun _ _ _ => rfl) store

theorem output_withoutNames (names : List String) (store : Store) :
    (store.withoutNames names).output = store.output :=
  eq_withoutNames output (fun _ _ _ => rfl) store

theorem outerOf_withoutNames (names : List String) (store : Store) (frame : FrameId) :
    (store.withoutNames names).outerOf frame = store.outerOf frame :=
  eq_withoutNames (·.outerOf frame) (fun name _ store => outerOf_without name store frame) store

theorem get?_withoutNames (apart : name ∉ names) (store : Store) (frame : FrameId) :
    (store.withoutNames names).get? name frame = store.get? name frame :=
  eq_withoutNames (·.get? name frame)
    (fun _ member store => get?_without (ne_of_mem_of_not_mem member apart).symm store frame) store

theorem find?_withoutNames (apart : name ∉ names) (store : Store) (frame : FrameId) :
    (store.withoutNames names).find? name frame = store.find? name frame :=
  eq_withoutNames (·.find? name frame)
    (fun _ member store => find?_without (ne_of_mem_of_not_mem member apart).symm store frame) store

theorem lookup?_withoutNames (apart : name ∉ names) (store : Store) (frame : FrameId) :
    (store.withoutNames names).lookup? name frame = store.lookup? name frame :=
  eq_withoutNames (·.lookup? name frame)
    (fun _ member store => lookup?_without (ne_of_mem_of_not_mem member apart).symm store frame) store

theorem withoutNames_define (apart : name ∉ names) (store : Store) (frame : FrameId)
    (value : Value) :
    (store.define frame name value).withoutNames names =
      (store.withoutNames names).define frame name value :=
  withoutNames_step (·.define frame name value)
    (fun _ member store =>
      without_define_ne (ne_of_mem_of_not_mem member apart).symm store frame value) store

theorem withoutNames_renumber (names : List String) (store : Store) (next : ObjectId) :
    ({ store with nextId := next } : Store).withoutNames names =
      { store.withoutNames names with nextId := next } :=
  withoutNames_step (fun store => { store with nextId := next }) (fun _ _ _ => rfl) store

theorem withoutNames_write (names : List String) (store : Store) (text : String) :
    (store.write text).withoutNames names = (store.withoutNames names).write text :=
  withoutNames_step (·.write text) (fun _ _ _ => rfl) store

theorem withoutNames_push (names : List String) (store : Store) (frame : Frame) :
    (store.push frame).2.withoutNames names =
      ((store.withoutNames names).push (frame.withoutNames names)).2 := by
  induction names with
  | nil => rfl
  | cons other names ih =>
      rw [withoutNames_cons, withoutNames_cons, ih, without_push]
      rfl

end Store

namespace Dispatch

abbrev Admits (footprint : Footprint) (count : Nat) (value : Value) : Prop :=
  value.Procedures fun _ body frame => footprint.Accessible count frame ∧ ¬ body.Misplaces

structure Runs (footprint : Footprint) (count : Nat) (expr : Value) (frame : FrameId) : Prop where
  accessible : footprint.Accessible count frame
  admitted : Admits footprint count expr
  placed : ¬ expr.Misplaces

/-- Two stores that runs from `old` and `old'` have come to. They are the same but for the bindings
of reserved words in old frames, which are as they were. -/
structure Alike (footprint : Footprint) (old old' : Store) (count : Nat) (store store' : Store) :
    Prop where
  grown : footprint.before.frames.size ≤ count
  size : store.frames.size = count
  same : store.withoutNames Keyword.names = store'.withoutNames Keyword.names
  outer : ∀ frame outer, footprint.Accessible count frame → store.outerOf frame = some outer →
    footprint.Accessible count outer
  admitted : ∀ frame name value, footprint.Accessible count frame → isKeyword name = false →
    store.get? name frame = some value → Admits footprint count value
  kept : ∀ frame < footprint.before.frames.size, ∀ keyword : Keyword,
    store.get? keyword.name frame = old.get? keyword.name frame ∧
      store'.get? keyword.name frame = old'.get? keyword.name frame
  new : ∀ frame, footprint.before.frames.size ≤ frame →
    store.frames[frame]? = store'.frames[frame]?

variable {footprint : Footprint} {old old' store store' : Store} {count later : Nat}
  {value expr : Value} {frame : FrameId} {name : String}

theorem Admits.lasting (passed : count ≤ later) (admitted : Admits footprint count value) :
    Admits footprint later value :=
  admitted.mono fun _ _ _ both => ⟨both.1.lasting passed, both.2⟩

theorem Runs.lasting (passed : count ≤ later) (runs : Runs footprint count expr frame) :
    Runs footprint later expr frame :=
  ⟨runs.accessible.lasting passed, Admits.lasting passed runs.admitted, runs.placed⟩

theorem Runs.part {id : ObjectId} {items : List Value} {part : Value}
    (runs : Runs footprint count (.list id items) frame) (member : part ∈ items)
    (outward : part.Misplaces → (Value.list id items).Misplaces) :
    Runs footprint count part frame where
  accessible := runs.accessible
  admitted := runs.admitted.within (.list member .here)
  placed := fun misplaced => runs.placed (outward misplaced)

theorem Runs.operand {id : ObjectId} {head operand : Value} {operands : List Value}
    (runs : Runs footprint count (.list id (head :: operands)) frame)
    (unquoted : head.keyword? ≠ some .quotation) (member : operand ∈ operands) :
    Runs footprint count operand frame :=
  runs.part (List.mem_cons_of_mem _ member) (.operand unquoted member)

theorem Runs.free (runs : Runs footprint count (.symbol name) frame) : isKeyword name = false := by
  rw [← Bool.not_eq_true]
  exact fun reserved => runs.placed (.here reserved)

namespace Alike

variable (alike : Alike footprint old old' count store store')

include alike

theorem size_eq : store.frames.size = store'.frames.size := by
  rw [← store.size_withoutNames Keyword.names, alike.same, store'.size_withoutNames]

theorem nextId_eq : store.nextId = store'.nextId := by
  rw [← store.nextId_withoutNames Keyword.names, alike.same, store'.nextId_withoutNames]

theorem find? (free : isKeyword name = false) (frame : FrameId) :
    store.find? name frame = store'.find? name frame := by
  have apart := not_mem_names_of_free free
  rw [← Store.find?_withoutNames apart, alike.same, Store.find?_withoutNames apart]

theorem lookup? (free : isKeyword name = false) (frame : FrameId) :
    store.lookup? name frame = store'.lookup? name frame := by
  have apart := not_mem_names_of_free free
  rw [← Store.lookup?_withoutNames apart, alike.same, Store.lookup?_withoutNames apart]

theorem define (free : isKeyword name = false) (frame : FrameId)
    (admitted : Admits footprint count value) :
    Alike footprint old old' count (store.define frame name value)
      (store'.define frame name value) where
  grown := alike.grown
  size := by rw [Store.size_define, alike.size]
  same := by
    have apart := not_mem_names_of_free free
    rw [Store.withoutNames_define apart, alike.same, Store.withoutNames_define apart]
  outer := by
    intro there outer member around
    rw [Store.outerOf_define] at around
    exact alike.outer there outer member around
  admitted := by
    intro there sought found member free' bound
    rw [Store.get?_define] at bound
    split at bound
    · cases bound
      exact admitted
    · exact alike.admitted there sought found member free' bound
  kept := by
    intro there before keyword
    have other := name_ne_of_free free keyword
    rw [Store.get?_define, if_neg fun here => other here.2.1, Store.get?_define,
      if_neg fun here => other here.2.1]
    exact alike.kept there before keyword
  new := by
    intro there made
    simp only [Store.define, Array.getElem?_modify, alike.new there made]

theorem renumber (next : ObjectId) :
    Alike footprint old old' count { store with nextId := next }
      { store' with nextId := next } where
  grown := alike.grown
  size := alike.size
  same := by
    simp only [Store.withoutNames_renumber, alike.same]
  outer := alike.outer
  admitted := alike.admitted
  kept := alike.kept
  new := alike.new

theorem write (text : String) :
    Alike footprint old old' count (store.write text) (store'.write text) where
  grown := alike.grown
  size := alike.size
  same := by
    rw [Store.withoutNames_write, alike.same, Store.withoutNames_write]
  outer := alike.outer
  admitted := alike.admitted
  kept := alike.kept
  new := alike.new

theorem push {bindings : Bindings} (accessible : footprint.Accessible count frame)
    (admitted : ∀ name value, bindings.get? name = some value → Admits footprint count value) :
    Alike footprint old old' (count + 1) (store.push ⟨bindings, some frame⟩).2
      (store'.push ⟨bindings, some frame⟩).2 where
  grown := Nat.le_succ_of_le alike.grown
  size := by rw [Store.size_push, alike.size]
  same := by
    rw [Store.withoutNames_push, alike.same, Store.withoutNames_push]
  outer := by
    intro there outer member around
    rw [Store.outerOf_push, alike.size] at around
    split at around
    · cases around
      exact accessible.lasting (Nat.le_succ count)
    · rename_i notLast
      have member := (Footprint.accessible_succ member).resolve_right notLast
      exact (alike.outer there outer member around).lasting (Nat.le_succ count)
  admitted := by
    intro there name value member free bound
    rw [Store.get?_push, alike.size] at bound
    split at bound
    · exact Admits.lasting (Nat.le_succ count) (admitted name value bound)
    · rename_i notLast
      have member := (Footprint.accessible_succ member).resolve_right notLast
      exact Admits.lasting (Nat.le_succ count) (alike.admitted there name value member free bound)
  kept := by
    intro there before keyword
    have notLast : there ≠ store.frames.size :=
      Nat.ne_of_lt (Nat.lt_of_lt_of_eq (Nat.lt_of_lt_of_le before alike.grown) alike.size.symm)
    rw [Store.get?_push, if_neg notLast, Store.get?_push, if_neg (alike.size_eq ▸ notLast)]
    exact alike.kept there before keyword
  new := by
    intro there made
    rw [Store.frames_push, Store.frames_push, alike.size_eq, alike.new there made]

end Alike

theorem read_keeps (runs : Runs footprint count (.symbol name) frame) :
    Keeps (Alike footprint old old') count (Action.read name frame) (Admits footprint) := by
  intro store store' alike
  refine ⟨count, le_rfl, ?_⟩
  simp only [Action.outcome_read, ← alike.lookup? runs.free]
  refine ⟨trivial, alike, fun value given => ?_⟩
  have found : store.lookup? name frame = some value := by
    split at given <;> simp_all
  obtain ⟨owner, nearest, bound⟩ := Store.lookup?_bound found
  have accessible :=
    Store.find?_mem _ alike.outer name frame owner runs.accessible nearest
  exact alike.admitted owner name value accessible runs.free bound

theorem assign_keeps (free : isKeyword name = false) (admitted : Admits footprint count value) :
    Keeps (Alike footprint old old') count (Action.assign name value frame) fun _ _ => True := by
  intro store store' alike
  refine ⟨count, le_rfl, ?_⟩
  simp only [Action.outcome_assign, Store.assign?, ← alike.find? free]
  cases store.find? name frame with
  | none => exact ⟨rfl, alike, fun _ _ => trivial⟩
  | some owner => exact ⟨rfl, alike.define free owner admitted, fun _ _ => trivial⟩

theorem makeClosure_keeps {id id' : ObjectId} {head body : Value} {names : List String}
    (runs : Runs footprint count (.list id [head, .list id' (names.map .symbol), body]) frame)
    (form : head.keyword? = some .abstraction) :
    Keeps (Alike footprint old old') count (Action.makeClosure names body frame)
      (Admits footprint) := by
  intro store store' alike
  refine ⟨count, le_rfl, ?_⟩
  simp only [Action.outcome_makeClosure, alike.nextId_eq]
  refine ⟨trivial, alike.renumber _, fun made ended => ?_⟩
  cases ended
  have inside : Runs footprint count body frame := runs.operand (by simp [form]) (by simp)
  exact .closure _ ⟨runs.accessible, inside.placed⟩ inside.admitted

theorem extend_keeps {id : ObjectId} {parameters : List String} {body : Value}
    {captured : FrameId} {arguments : List Value}
    (admitted : Admits footprint count (.closure id parameters body captured))
    (given : ∀ v ∈ arguments, Admits footprint count v) :
    Keeps (Alike footprint old old') count (Action.extend captured parameters arguments)
      fun later frame => Runs footprint later body frame := by
  intro store store' alike
  obtain ⟨accessible, placed⟩ := admitted _ _ _ _ .here
  refine ⟨count + 1, Nat.le_succ count, ?_⟩
  simp only [Action.outcome_extend]
  refine ⟨by rw [alike.size_eq], alike.push accessible fun name value bound => ?_, ?_⟩
  · rcases Bindings.get?_ofArguments name value [] parameters arguments bound with
      member | ⟨rfl, -⟩ | contrary
    · exact given value member
    · exact fun _ _ _ _ => nofun
    · cases contrary
  · intro frame ended
    cases ended
    rw [alike.size]
    exact ⟨Footprint.accessible_last alike.grown,
      Admits.lasting (Nat.le_succ count) (admitted.within (.body .here)), placed⟩

theorem allocate_keeps {answer : Answer}
    (given : ∀ part ∈ answer.parts, Admits footprint count part) :
    Keeps (Alike footprint old old') count (Action.allocate answer) (Admits footprint) := by
  intro store store' alike
  refine ⟨count, le_rfl, ?_⟩
  simp only [Action.outcome_allocate, alike.nextId_eq]
  refine ⟨trivial, alike.renumber _, fun value ended => ?_⟩
  cases ended
  exact .answer _ given

def discipline (footprint : Footprint) (old old' : Store) : Discipline Nat where
  alike := Alike footprint old old'
  value := Admits footprint
  code := Runs footprint
  value_lasting := Admits.lasting
  code_lasting := Runs.lasting
  nothing := fun _ _ _ _ => nofun
  items := Value.Procedures.items
  datum := Runs.admitted
  combination := by
    intro count id head operands frame runs plain part member
    rcases List.mem_cons.mp member with rfl | member
    · exact runs.part List.mem_cons_self (.head plain)
    · exact runs.operand (by simp [plain]) member
  branches := fun runs form _ member => runs.operand (by simp [form]) member
  defined := fun runs form => runs.operand (by simp [form]) (by simp)
  assigned := fun runs form => runs.operand (by simp [form]) (by simp)
  read := read_keeps
  define := fun _ _ free admitted _ _ alike =>
    ⟨_, le_rfl, rfl, alike.define free _ admitted, fun _ _ => trivial⟩
  assign := fun _ _ free admitted => assign_keeps free admitted
  makeClosure := makeClosure_keeps
  extend := extend_keeps
  allocate := allocate_keeps
  write := fun text _ _ alike => ⟨_, le_rfl, rfl, alike.write text, fun _ _ => trivial⟩

theorem alike_start {env : FrameId}
    (same : store.withoutNames Keyword.names = store'.withoutNames Keyword.names)
    (bodies : ∀ body, (store.withoutNames Keyword.names).ReachesBody env body → ¬ body.Misplaces) :
    Alike ⟨store.withoutNames Keyword.names, env, expr⟩ store store' store.frames.size store
      store' := by
  have reaches {frame : FrameId} (accessible :
      Footprint.Accessible ⟨store.withoutNames Keyword.names, env, expr⟩ store.frames.size frame) :
      (store.withoutNames Keyword.names).Reaches env frame := by
    rw [← store.size_withoutNames Keyword.names] at accessible
    exact Footprint.accessible_start accessible
  constructor
  · exact Nat.le_of_eq (store.size_withoutNames _)
  · rfl
  · exact same
  · intro frame outer accessible around
    rw [← store.outerOf_withoutNames Keyword.names] at around
    exact .inl (.outer (reaches accessible) around)
  · intro frame name value accessible free bound id parameters body captured within
    have holder := reaches accessible
    rw [← Store.get?_withoutNames (not_mem_names_of_free free)] at bound
    exact ⟨.inl (.captured holder bound ⟨id, parameters, body, within⟩),
      bodies body ⟨frame, name, value, id, parameters, captured, holder, bound, within⟩⟩
  · exact fun _ _ _ => ⟨rfl, rfl⟩
  · intro frame outside
    have outside : store.frames.size ≤ frame :=
      Nat.le_trans (Nat.le_of_eq (store.size_withoutNames _).symm) outside
    have size : store'.frames.size = store.frames.size := by
      rw [← store.size_withoutNames Keyword.names, same, store'.size_withoutNames]
    rw [Array.getElem?_eq_none outside, Array.getElem?_eq_none (size ▸ outside)]

end Dispatch

/-- Code in which reserved words are heads of lists or quoted, as in the bodies of all procedures
that it can get at, comes to the same end whatever frames bind these words to, and leaves those
bindings as they are. -/
theorem evaluate_keywords (depth : Nat) (expr : Expr) (next : ObjectId) (env : FrameId)
    (store other : Store)
    (same : store.withoutNames Keyword.names = other.withoutNames Keyword.names)
    (placed : ¬ (expr.toValue next).1.Misplaces)
    (bodies : ∀ body, (store.withoutNames Keyword.names).ReachesBody env body → ¬ body.Misplaces) :
    let (result, after) := (evaluate depth (expr.toValue next).1 env).outcome store
    let (result', after') := (evaluate depth (expr.toValue next).1 env).outcome other
    result = result' ∧ after.output = after'.output ∧
      after.withoutNames Keyword.names = after'.withoutNames Keyword.names ∧
      (∀ frame < store.frames.size, ∀ keyword : Keyword,
        after.get? keyword.name frame = store.get? keyword.name frame ∧
          after'.get? keyword.name frame = other.get? keyword.name frame) ∧
      ∀ frame, store.frames.size ≤ frame → after.frames[frame]? = after'.frames[frame]? := by
  have runs : Dispatch.Runs ⟨store.withoutNames Keyword.names, env, .nothing⟩ store.frames.size
      (expr.toValue next).1 env := ⟨.inl .here, .code expr next, placed⟩
  obtain ⟨count, -, ended, left, -⟩ := (Dispatch.discipline _ store other).evaluate_keeps depth runs
    store other (Dispatch.alike_start same bodies)
  have left : Dispatch.Alike _ _ _ _ _ _ := left
  have size : (store.withoutNames Keyword.names).frames.size = store.frames.size :=
    store.size_withoutNames _
  refine ⟨ended, ?_, left.same, fun frame before => left.kept frame (size ▸ before),
    fun frame made => left.new frame (size ▸ made)⟩
  have printed := congrArg Store.output left.same
  rwa [Store.output_withoutNames, Store.output_withoutNames] at printed

/-- Reserved words stay reserved: after any lines, only calls have bound them and what those calls
gave them is still there; a list that one of them heads is a special form; and code that has them
in place does not depend on what frames bind them to. -/
theorem keywords_reserved :
    (∀ lines : List (Nat × String),
      let (results, final) :=
        Recorded.evaluateAll Session.start.global lines ⟨Session.start.store, []⟩
      Session.start.evaluateAll lines = (results, ⟨final.store, Session.start.global⟩) ∧
        final.Reserves) ∧
    (∀ depth id (keyword : Keyword) operands frame,
      evaluate (depth + 1) (.list id (.symbol keyword.name :: operands)) frame =
        SpecialForm.evaluate depth (evaluate depth) frame operands keyword) ∧
    ∀ depth (expr : Expr) next env (store other : Store),
      store.withoutNames Keyword.names = other.withoutNames Keyword.names →
      ¬ (expr.toValue next).1.Misplaces →
      (∀ body, (store.withoutNames Keyword.names).ReachesBody env body → ¬ body.Misplaces) →
      let (result, after) := (evaluate depth (expr.toValue next).1 env).outcome store
      let (result', after') := (evaluate depth (expr.toValue next).1 env).outcome other
      result = result' ∧ after.output = after'.output ∧
        after.withoutNames Keyword.names = after'.withoutNames Keyword.names ∧
        (∀ frame < store.frames.size, ∀ keyword : Keyword,
          after.get? keyword.name frame = store.get? keyword.name frame ∧
            after'.get? keyword.name frame = other.get? keyword.name frame) ∧
        ∀ frame, store.frames.size ≤ frame → after.frames[frame]? = after'.frames[frame]? := by
  refine ⟨fun lines => ⟨?_, evaluateAll_reserves lines⟩, ?_, evaluate_keywords⟩
  · exact Session.start.evaluateAll_recorded lines []
  · intro depth id keyword operands frame
    simp only [evaluate, keyword?_name]

def choice : Expr := .list [.symbol "if", .symbol "b", .int 1, .int 2]

/-- A global frame that binds a reserved word, beside a procedure with the word in its body. -/
def besideChoice (binding : Value) : Store :=
  ⟨#[⟨[("if", binding), ("choose", .closure 3 ["b"] (choice.toValue 2).1 0)], none⟩], 4, ""⟩

def defineChoice : Expr :=
  .list [.symbol "define", .symbol "y",
    .list [.symbol "choose", .list [.symbol "quote", .symbol "if"]]]

theorem choice_placed : ¬ (choice.toValue 2).1.Misplaces := by
  simp [choice, Expr.toValue, Expr.toValues, Value.keyword?, Keyword.ofName?, isKeyword,
    Keyword.all, Keyword.name]

theorem besideChoice_withoutNames (binding : Value) :
    (besideChoice binding).withoutNames Keyword.names =
      ⟨#[⟨[("choose", .closure 3 ["b"] (choice.toValue 2).1 0)], none⟩], 4, ""⟩ := by
  simp [besideChoice, Store.withoutNames, Store.without, Frame.without, Bindings.without,
    Keyword.names, Keyword.all, Keyword.name]

theorem besideChoice_placed (binding : Value) {body : Value} (reaches :
    ((besideChoice binding).withoutNames Keyword.names).ReachesBody 0 body) :
    ¬ body.Misplaces := by
  rw [besideChoice_withoutNames] at reaches
  obtain ⟨frame, name, value, id, parameters, captured, -, bound, within⟩ := reaches
  have inside : frame < 1 := Store.lt_size_of_bound _ bound
  obtain rfl : frame = 0 := Nat.lt_one_iff.mp inside
  have only : (name, value) = ("choose", .closure 3 ["b"] (choice.toValue 2).1 0) :=
    List.mem_singleton.mp (Bindings.mem_of_get? bound)
  cases only
  have placed : (Value.closure 3 ["b"] (choice.toValue 2).1 0).Procedures
      fun _ body _ => ¬ body.Misplaces := .closure 3 choice_placed (.code choice 2)
  exact placed id parameters body captured within

theorem defineChoice_reserved :
    ¬ (defineChoice.toValue 4).1.Misplaces ∧
      (let after := ((evaluate 9 (defineChoice.toValue 4).1 0).outcome (besideChoice (.int 5))).2
      let after' :=
        ((evaluate 9 (defineChoice.toValue 4).1 0).outcome (besideChoice (.primitive .print))).2
      after.get? "y" 0 = some (.int 1) ∧ after.get? "if" 0 = some (.int 5) ∧
        after.withoutNames Keyword.names = after'.withoutNames Keyword.names) := by
  have placed : ¬ (defineChoice.toValue 4).1.Misplaces := by
    simp [defineChoice, Expr.toValue, Expr.toValues, Value.keyword?, Keyword.ofName?, isKeyword,
      Keyword.all, Keyword.name]
  have same : (besideChoice (.int 5)).withoutNames Keyword.names =
      (besideChoice (.primitive .print)).withoutNames Keyword.names := by
    rw [besideChoice_withoutNames, besideChoice_withoutNames]
  obtain ⟨-, -, insensitive⟩ := keywords_reserved
  obtain ⟨-, -, after, kept, -⟩ := insensitive 9 defineChoice 4 0 _ _ same placed
    fun _ => besideChoice_placed _
  refine ⟨placed, by with_unfolding_all rfl, ?_, after⟩
  exact (kept 0 Nat.one_pos .conditional).1

end MiniLisp
