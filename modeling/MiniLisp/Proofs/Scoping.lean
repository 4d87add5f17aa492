import MiniLisp.Proofs.Closed
import MiniLisp.Proofs.Counterparts
import MiniLisp.Proofs.Simulation

/-!
Scoping is lexical. A call sees the bindings around the place where its procedure was made, not
those around the call, and a parameter without an argument hides outer bindings as well: that is why
a parameter may be renamed, together with everything in its abstraction, and no run can tell.
-/

namespace MiniLisp

open List (Forall₂)

namespace Renaming

variable (r : Renaming)

structure Beside (stage : Stage) (frame frame' : FrameId) (expr expr' : Value) : Prop where
  same : frame = frame'
  settled : r.Settled stage expr
  code : ∃ inside, stage.Side frame inside ∧ r.Code inside expr expr'

def correspondence : Correspondence Stage where
  alike := fun stage chronicle chronicle' => r.Stores stage chronicle.store chronicle'.store
  value := r.Corresponds
  code := r.Beside
  texts := fun _ _ => True

variable {r} {stage now later : Stage} {frame : FrameId} {inside : Bool} {expr expr' v v' : Value}
  {name : String}

theorem Beside.lasting {frame' : FrameId} (passed : now ≤ later)
    (beside : r.Beside now frame frame' expr expr') : r.Beside later frame frame' expr expr' := by
  obtain ⟨inside, side, code⟩ := beside.code
  exact ⟨beside.same, beside.settled.lasting passed, inside, side.lasting passed, code⟩

theorem note_steps (event event' : Event) :
    r.correspondence.Steps now (Recorded.note event) (Recorded.note event') :=
  Correspondence.steps_of_alike fun _ _ stores => ⟨rfl, rfl, stores⟩

theorem read_runs (fresh : name ≠ r.new) (side : now.Side frame inside) :
    r.correspondence.Runs now (Recorded.lift (Action.read name frame))
      (Recorded.lift (Action.read (r.change inside name) frame)) r.Corresponds := by
  intro chronicle chronicle' stores
  refine ⟨now, le_rfl, ?_, ?_⟩
  · rw [Recorded.outcome_lift, Recorded.outcome_lift, Action.outcome_read, Action.outcome_read]
    exact stores
  · rw [Recorded.outcome_lift, Recorded.outcome_lift, Action.outcome_read, Action.outcome_read]
    have found := stores.lookup? fresh side
    dsimp only
    generalize chronicle.store.lookup? name frame = value at found ⊢
    generalize chronicle'.store.lookup? (r.change inside name) frame = value' at found ⊢
    cases found with
    | none => exact .error (.unboundSymbol trivial)
    | some corresponds =>
        have kept := corresponds
        cases corresponds.like with
        | unbound => exact .error (.unassigned trivial)
        | _ => exact .ok kept

theorem define_writes (fresh : name ≠ r.new) (side : now.Side frame inside) :
    r.correspondence.Writes now frame frame Recorded.define name (r.change inside name) :=
  fun _ passed _ _ value => Correspondence.steps_of_alike fun _ _ stores =>
    ⟨rfl, rfl, stores.define fresh (side.lasting passed) value⟩

theorem assign_writes (fresh : name ≠ r.new) (side : now.Side frame inside) :
    r.correspondence.Writes now frame frame Recorded.assign name (r.change inside name) := by
  intro later passed v v' value chronicle chronicle' stores
  refine ⟨later, le_rfl, ?_⟩
  have found := stores.find? fresh (side.lasting passed)
  rw [Recorded.outcome_assign, Recorded.outcome_assign]
  generalize chronicle.store.find? name frame = owner at found ⊢
  generalize chronicle'.store.find? (r.change inside name) frame = owner' at found ⊢
  cases found with
  | none => exact ⟨stores, .error (.unboundSymbol trivial)⟩
  | some same =>
      obtain ⟨rfl, there, side', change⟩ := same
      rw [← change]
      exact ⟨stores.define fresh side' value, .ok trivial⟩

theorem makeClosure_runs {parameters : List String} {body body' : Value}
    (fresh : r.new ∉ parameters) (settled : r.Settled now body) (code : r.Code inside body body')
    (captured : now.Side frame inside ∨ inside = true ∧ r.old ∈ parameters ∧ now.Side frame false) :
    r.correspondence.Runs now (Recorded.lift (Action.makeClosure parameters body frame))
      (Recorded.lift (Action.makeClosure (parameters.map (r.change inside)) body' frame))
      r.Corresponds := by
  intro chronicle chronicle' stores
  refine ⟨now, le_rfl, Stores.renumber stores (congrArg (· + 1) stores.nextId), ?_⟩
  rw [Recorded.outcome_lift, Recorded.outcome_lift, Action.outcome_makeClosure,
    Action.outcome_makeClosure, stores.nextId]
  exact .ok (.closure _ inside fresh settled code captured)

theorem mentions (shown : v.ShownAlike v') (symbols : v.isSymbol = v'.isSymbol) :
    r.correspondence.Mentions v v' :=
  shown.mention (fun _ _ => trivial) symbols

theorem targets {write : String → Value → FrameId → Recorded PUnit}
    (writes : ∀ name, name ≠ r.new →
      r.correspondence.Writes now frame frame write name (r.change inside name))
    {target target' : Value} (settled : r.Settled now target)
    (code : r.Code inside target target') :
    r.correspondence.Targets now frame frame write target target' := by
  cases symbol : target.isSymbol with
  | false =>
      exact .other symbol (code.isSymbol.symm.trans symbol) (mentions code.shown code.isSymbol)
  | true =>
      cases target with
      | symbol name =>
          rw [code.symbol]
          cases reserved : isKeyword name with
          | false =>
              refine .names reserved ?_ (writes name settled.symbol)
              exact (isKeyword_change name).trans reserved
          | true =>
              have other : name ≠ r.old := by
                rintro rfl
                rw [r.old_free] at reserved
                cases reserved
              rw [change_other other]
              exact .reserved reserved
      | _ => cases symbol

theorem abstractions {id : ObjectId} {items items' : List Value} {body body' : Value}
    (fresh : r.new ∉ Value.namesAll items) (settled : r.Settled now body)
    (parameters : r.Parameters inside items items') (code : r.Code inside body body')
    (origin : now.Side frame inside ∨
      inside = true ∧ (∀ names : List String, items = names.map .symbol → r.old ∈ names) ∧
        now.Side frame false) :
    r.correspondence.Abstractions now frame frame body body' (.list id items) (.list id items') := by
  refine .lists id id fun depth => ?_
  refine (parameters.names (fun _ _ => trivial) depth).imp ?_ fun _ _ like => like
  rintro names names' ⟨rfl, rfl⟩ later passed
  refine makeClosure_runs (fun member => fresh ?_) (settled.lasting passed) code ?_
  · have symbol := List.mem_map_of_mem (f := Value.symbol) member
    exact Value.mem_namesAll.mpr ⟨.symbol r.new, symbol, List.mem_singleton_self _⟩
  · exact origin.imp (Stage.Side.lasting passed) fun ⟨inside, parameter, side⟩ =>
      ⟨inside, parameter names rfl, side.lasting passed⟩

theorem abstractions_of_code {parameters parameters' body body' : Value}
    (side : now.Side frame inside) (settled : r.Settled now parameters)
    (code : r.Code inside parameters parameters') (settled' : r.Settled now body)
    (code' : r.Code inside body body') :
    r.correspondence.Abstractions now frame frame body body' parameters parameters' := by
  cases list : parameters.isList with
  | false => exact .other list (code.isList.symm.trans list) (mentions code.shown code.isSymbol)
  | true =>
      cases parameters with
      | list id items =>
          obtain ⟨items', rfl, related⟩ := code.parameters
          exact abstractions settled.fresh settled' related code' (.inl side)
      | _ => cases list

section View

variable {id : ObjectId} {head head' : Value} {operands operands' : List Value} {keyword : Keyword}

theorem besides (side : now.Side frame inside) {items items' : List Value}
    (settled : ∀ item ∈ items, r.Settled now item) (codes : Forall₂ (r.Code inside) items items') :
    Forall₂ (r.Beside now frame frame) items items' := by
  induction codes with
  | nil => exact .nil
  | cons first _ ih =>
      exact .cons ⟨rfl, settled _ List.mem_cons_self, inside, side, first⟩
        (ih fun item member => settled item (List.mem_cons_of_mem _ member))

theorem view_evaluated (side : now.Side frame inside)
    (settled : r.Settled now (.list id (head :: operands)))
    (evaluated : head.keyword? ≠ some .quotation ∧ head.keyword? ≠ some .abstraction)
    (codes : Forall₂ (r.Code inside) (head :: operands) (head' :: operands')) :
    r.correspondence.View now frame frame (.list id (head :: operands))
      (.list id (head' :: operands')) := by
  have each := besides side (fun _ => settled.part) codes
  rcases codes with _ | ⟨first, rest⟩
  rcases each with _ | ⟨beside, besides⟩
  have named : head'.keyword? = head.keyword? := first.keyword?
  have pair {a b a' b' : Value} (pair : operands = [a, b]) (pair' : operands' = [a', b']) :
      (r.Settled now a ∧ r.Code inside a a') ∧ r.Beside now frame frame b b' := by
    subst pair pair'
    rcases rest with _ | ⟨target, _⟩
    rcases besides with _ | ⟨_, _ | ⟨value, _⟩⟩
    exact ⟨⟨settled.part (by simp), target⟩, value⟩
  cases form : head.keyword? with
  | none => exact .combination form (named.trans form) beside besides
  | some keyword =>
      refine .form form (named.trans form) ?_
      exact {
        count := rest.length_eq
        quotation := by
          rintro rfl
          exact absurd form evaluated.1
        conditional := fun _ => besides
        definition := by
          intro _ target target' expr expr' two two'
          obtain ⟨⟨settled, code⟩, value⟩ := pair two two'
          exact ⟨targets (fun _ fresh => define_writes fresh side) settled code, value⟩
        assignment := by
          intro _ target target' expr expr' two two'
          obtain ⟨⟨settled, code⟩, value⟩ := pair two two'
          exact ⟨targets (fun _ fresh => assign_writes fresh side) settled code, value⟩
        abstraction := by
          rintro rfl
          exact absurd form evaluated.2 }

theorem view_quotation (form : head.keyword? = some .quotation)
    (form' : head'.keyword? = some .quotation)
    (settled : r.Settled now (.list id (head :: operands)))
    (count : operands.length = operands'.length)
    (kept : ∀ datum datum', operands = [datum] → operands' = [datum'] → datum = datum') :
    r.correspondence.View now frame frame (.list id (head :: operands))
      (.list id (head' :: operands')) := by
  refine .form form form' ⟨count, ?_, nofun, nofun, nofun, nofun⟩
  rintro - datum datum' rfl rfl
  obtain rfl := kept datum datum' rfl rfl
  exact .refl datum (settled.part (by simp))

theorem view_abstraction (form : head.keyword? = some .abstraction)
    (form' : head'.keyword? = some .abstraction) (count : operands.length = operands'.length)
    (made : ∀ parameters parameters' body body', operands = [parameters, body] →
      operands' = [parameters', body'] →
        r.correspondence.Abstractions now frame frame body body' parameters parameters') :
    r.correspondence.View now frame frame (.list id (head :: operands))
      (.list id (head' :: operands')) :=
  .form form form' ⟨count, nofun, nofun, nofun, nofun, fun _ => made⟩

end View

theorem view_renamed (side : now.Side frame inside) (settled : r.Settled now expr)
    (unquoted : inside = true → ¬ expr.Quotes r.old) :
    r.correspondence.View now frame frame expr (expr.rename (r.change inside)) := by
  cases expr with
  | symbol name => exact .symbol (read_runs settled.symbol side)
  | list id items =>
      cases items with
      | nil => exact .empty id id
      | cons head operands =>
          have form' : (head.rename (r.change inside)).keyword? = head.keyword? :=
            keyword?_rename head
          rw [Value.rename_list, List.map_cons]
          by_cases quotation : head.keyword? = some .quotation
          · refine view_quotation quotation (form'.trans quotation) settled (by simp) ?_
            rintro datum datum' rfl only
            obtain rfl := (List.cons.inj only).1
            exact (rename_quoted quotation unquoted).symm
          by_cases abstraction : head.keyword? = some .abstraction
          · refine view_abstraction abstraction (form'.trans abstraction) (by simp) ?_
            rintro parameters parameters' body body' rfl both
            obtain ⟨rfl, rest⟩ := List.cons.inj both
            obtain ⟨rfl, -⟩ := List.cons.inj rest
            -- Parameters are not evaluated: a list there that looks like a quotation is none.
            cases parameters with
            | list id items =>
                refine abstractions ?_ (settled.part (by simp)) (Parameters.renameAll inside items)
                  (.renamed fun here deeper => unquoted here (.body abstraction deeper)) (.inl side)
                exact (settled.part (List.mem_cons_of_mem _ List.mem_cons_self)).fresh
            | _ =>
              refine .other rfl (Value.isList_rename _ _) (mentions (.rename _ _) ?_)
              exact (Value.isSymbol_rename _ _).symm
          exact view_evaluated side settled ⟨quotation, abstraction⟩
            (Code.parts ⟨quotation, abstraction⟩ unquoted)
  | _ => exact .constant ⟨rfl, rfl⟩ ⟨rfl, rfl⟩ (.refl _ settled)

theorem view_site (side : now.Side frame false) (settled : r.Settled now expr)
    (site : r.Site expr expr') : r.correspondence.View now frame frame expr expr' := by
  cases site with
  | @here id id' head body parameters form parameter unquoted =>
      refine view_abstraction form form rfl ?_
      rintro _ _ _ _ ⟨⟩ ⟨⟩
      refine abstractions ?_ (settled.part (by simp)) (Parameters.renameAll true _)
        (.renamed fun _ => unquoted) (.inr ⟨rfl, ?_, side⟩)
      · exact (settled.part (List.mem_cons_of_mem _ List.mem_cons_self)).fresh
      · intro names same
        rwa [← List.map_injective_iff.mpr (fun _ _ => Value.symbol.inj) same]
  | @head id part part' operands deeper =>
      refine view_evaluated side settled ?_ (.cons (.site rfl deeper) (Code.all operands))
      rw [deeper.keyword?.1]
      exact ⟨nofun, nofun⟩
  | @operand id head part part' before after evaluated deeper =>
      have codes : Forall₂ (r.Code false) (before ++ part :: after) (before ++ part' :: after) :=
        List.rel_append (Code.all before) (.cons (.site rfl deeper) (Code.all after))
      by_cases abstraction : head.keyword? = some .abstraction
      · refine view_abstraction abstraction abstraction codes.length_eq ?_
        intro parameters parameters' body body' both both'
        rw [both, both'] at codes
        rw [both] at settled
        rcases codes with _ | ⟨first, _ | ⟨second, _⟩⟩
        exact abstractions_of_code side (settled.part (by simp)) first (settled.part (by simp))
          second
      · exact view_evaluated side settled ⟨evaluated, abstraction⟩ (.cons (Code.refl head) codes)

theorem view (beside : r.Beside now frame frame expr expr') :
    r.correspondence.View now frame frame expr expr' := by
  obtain ⟨inside, side, code⟩ := beside.code
  cases code with
  | renamed unquoted => exact view_renamed side beside.settled unquoted
  | site outside site =>
      subst outside
      exact view_site side beside.settled site

theorem enter_runs {id id' : ObjectId} {parameters parameters' : List String} {body body' : Value}
    {captured captured' : FrameId} {arguments arguments' : List Value}
    (called : r.Corresponds now (.closure id parameters body captured)
      (.closure id' parameters' body' captured'))
    (given : Forall₂ (r.Corresponds now) arguments arguments') :
    r.correspondence.Runs now
      (Recorded.enter (.closure id parameters body captured) captured parameters arguments)
      (Recorded.enter (.closure id' parameters' body' captured') captured' parameters' arguments')
      fun later frame frame' => r.Beside later frame frame' body body' := by
  cases called with
  | atom atomic => cases atomic
  | closure _ inside fresh settled code origin =>
      intro chronicle chronicle' stores
      refine ⟨now.enter inside, now.le_enter inside, stores.push fresh given origin, .ok ?_⟩
      have side : (now.enter inside).Side chronicle.store.frames.size inside :=
        stores.size ▸ now.side_enter inside
      exact ⟨stores.size.trans stores.size'.symm, settled.lasting (now.le_enter inside), inside,
        side, code⟩

theorem allocate_runs {answer answer' : Answer}
    (alike : Answer.Alike (r.Corresponds now) answer answer') :
    r.correspondence.Runs now (Recorded.lift (Action.allocate answer))
      (Recorded.lift (Action.allocate answer')) r.Corresponds := by
  intro chronicle chronicle' stores
  obtain ⟨corresponds, same⟩ := corresponds_of_alike alike chronicle.store.nextId
  rw [Recorded.outcome_lift, Recorded.outcome_lift, Action.outcome_allocate,
    Action.outcome_allocate, ← stores.nextId]
  exact ⟨now, le_rfl, Stores.renumber stores same, .ok corresponds⟩

theorem print_steps (depth : Nat) (corresponds : r.Corresponds now v v') :
    r.correspondence.Steps now (Recorded.lift (Action.printLine depth v))
      (Recorded.lift (Action.printLine depth v')) := by
  intro chronicle chronicle' stores
  refine ⟨now, le_rfl, ?_⟩
  have shown := corresponds.shown .plain depth
  simp only [Recorded.outcome_lift, Action.printLine, Action.outcome_bind, Action.outcome_ofExcept]
  generalize shows : v.text .plain depth = result at shown ⊢
  generalize shows' : v'.text .plain depth = result' at shown ⊢
  cases shown with
  | ok =>
      have line := Transcripts.line depth stores.output corresponds shows shows'
      exact ⟨Stores.write stores line, .ok trivial⟩
  | error same => exact ⟨stores, .error (same ▸ .same _)⟩
  | cut contrary => exact contrary.1.elim

variable (r)

def simulation : Simulation Stage where
  toCorrespondence := r.correspondence
  value_lasting := fun passed => Corresponds.lasting passed
  code_lasting := fun passed => Beside.lasting passed
  resembles := Corresponds.resembles
  nothing := .atom rfl
  view := by
    intro now frame frame' expr expr' beside
    obtain rfl := beside.same
    exact view beside
  evaluated := fun _ => note_steps _ _
  applied := fun _ _ => note_steps _ _
  gave := fun _ => note_steps _ _
  enter := enter_runs
  allocate := allocate_runs
  print := print_steps

end Renaming

theorem Renaming.agree_classes {r : Renaming} {stage : Stage} {texts : String → String → Prop}
    {result result' : Except Failure Value}
    (agree : Agree (Exhausted False) (r.Corresponds stage) (Failure.Like texts) result result') :
    Agree (fun _ => False) (r.Corresponds stage) (fun failure failure' =>
      failure.className = failure'.className ∧ failure.cause? = failure'.cause?) result result' := by
  cases agree with
  | ok corresponds => exact .ok corresponds
  | error like => exact .error ⟨like.className, like.cause?⟩
  | cut contrary => exact contrary.1.elim

theorem Renaming.ok_of_data {r : Renaming} {stage : Stage} {cut : Failure → Prop}
    {bad : Failure → Failure → Prop} {result result' : Except Failure Value} {value : Value}
    (agree : Agree cut (r.Corresponds stage) bad result result') (given : result = .ok value)
    (data : ∀ frame, ¬ value.Captures frame) : result' = .ok value := by
  subst given
  cases agree with
  | ok corresponds => rw [corresponds.eq_of_data data]

/-- No frame binds the name, and no value has it inside. -/
def Store.Unused (store : Store) (name : String) : Prop :=
  ∀ frame, ∀ binding ∈ store.bindingsOf frame, binding.1 ≠ name ∧ name ∉ binding.2.names

theorem Renaming.stores_start {r : Renaming} {store : Store} (unused : store.Unused r.new)
    (closed : store.Closed) : r.Stores (.outside store.frames.size) store store where
  size := by simp [Stage.outside]
  size' := by simp [Stage.outside]
  nextId := rfl
  output := .same _
  outer := fun _ => rfl
  bindings := by
    intro frame inside side
    obtain rfl := Stage.outside_side side
    rw [List.forall₂_same]
    intro binding member
    obtain ⟨apart, fresh⟩ := unused frame binding member
    refine ⟨apart, (Renaming.change_outside _).symm, .refl _ ⟨fresh, fun captured held => ?_⟩⟩
    exact Stage.side_outside (closed frame binding member captured held)
  within := by
    intro frame side
    cases Stage.outside_side side
  outside := by
    intro frame outer side _ inner
    have within := side.lt
    simp only [Stage.outside, List.length_replicate] at within
    exact Stage.side_outside (Nat.lt_trans inner within)

/-- A parameter of an abstraction may be renamed, to a name that is used nowhere: evaluation ends
with values that correspond or with failures of one class, and leaves frames that are one another's
counterparts, of which only new ones are inside of the abstraction. A value that holds no procedures
is the same. Stores are closed in every session (`Session.evaluateAll_sound`). -/
theorem evaluate_renamed (r : Renaming) (depth : Nat) (expr : Expr) (next : ObjectId)
    (code' : Value) (env : FrameId) (store : Store) (site : r.Site (expr.toValue next).1 code')
    (unmentioned : r.new ∉ (expr.toValue next).1.names) (unused : store.Unused r.new)
    (closed : store.Closed) (within : env < store.frames.size) :
    let (result, after) := (evaluate depth (expr.toValue next).1 env).outcome store
    let (result', after') := (evaluate depth code' env).outcome store
    ∃ stage, (∀ frame < store.frames.size, stage.Side frame false) ∧
      r.Stores stage after after' ∧
      Agree (fun _ => False) (r.Corresponds stage)
        (fun failure failure' => failure.className = failure'.className ∧
          failure.cause? = failure'.cause?) result result' ∧
      ∀ value, result = .ok value → (∀ frame, ¬ value.Captures frame) → result' = .ok value := by
  have settled : r.Settled (.outside store.frames.size) (expr.toValue next).1 := by
    refine ⟨unmentioned, ?_⟩
    rintro frame ⟨id, parameters, body, held⟩
    cases within_code expr next held
  have beside : r.simulation.code (.outside store.frames.size) env env (expr.toValue next).1 code' :=
    ⟨rfl, settled, false, Stage.side_outside within, .site rfl site⟩
  obtain ⟨stage, passed, stores, agree⟩ := r.simulation.evaluates depth beside ⟨store, []⟩
    ⟨store, []⟩ (Renaming.stores_start unused closed)
  obtain ⟨same, left⟩ := Recorded.evaluate_erases depth (expr.toValue next).1 env ⟨store, []⟩
  obtain ⟨same', left'⟩ := Recorded.evaluate_erases depth code' env ⟨store, []⟩
  rw [same, same'] at agree
  change r.Stores stage _ _ at stores
  rw [left, left'] at stores
  exact ⟨stage, fun frame old => (Stage.side_outside old).lasting passed, stores,
    Renaming.agree_classes agree, fun _ => Renaming.ok_of_data agree⟩

def xToY : Renaming := ⟨"x", "y", rfl, rfl⟩

/-- Calls `show` from an abstraction with a parameter of the name that `show` looks up. -/
def shadowing : Expr :=
  .list [.list [.symbol "lambda", .list [.symbol "x"], .list [.symbol "show"]], .int 5]

def shadowingRenamed : Value :=
  .list 6 [.list 5 [.symbol "lambda", .list 3 [.symbol "y"], .list 4 [.symbol "show"]], .int 5]

def shower : Store :=
  ⟨#[⟨[("x", .int 1), ("show", .closure 2 [] (.symbol "x") 0)], none⟩], 3, ""⟩

theorem shadowing_site : xToY.Site (shadowing.toValue 3).1 shadowingRenamed := by
  have unquoted : ¬ (Value.list 4 [.symbol "show"]).Quotes "x" := by
    rintro (_ | _ | ⟨-, member, deeper⟩)
    rw [List.mem_singleton.mp member] at deeper
    cases deeper
  exact .head (@Renaming.Site.here xToY 5 3 _ _ ["x"] rfl (by decide) unquoted)

theorem shower_binding {frame : FrameId} {binding : String × Value}
    (member : binding ∈ shower.bindingsOf frame) :
    binding = ("x", .int 1) ∨ binding = ("show", .closure 2 [] (.symbol "x") 0) := by
  cases frame with
  | zero => simpa [shower, Store.bindingsOf] using member
  | succ frame => simp [shower, Store.bindingsOf] at member

theorem evaluate_renamed_shadowing :
    xToY.Site (shadowing.toValue 3).1 shadowingRenamed ∧
    xToY.new ∉ (shadowing.toValue 3).1.names ∧ shower.Unused xToY.new ∧ shower.Closed ∧
    0 < shower.frames.size ∧
    (let (result, after) := (evaluate 9 (shadowing.toValue 3).1 0).outcome shower
    let (result', after') := (evaluate 9 shadowingRenamed 0).outcome shower
    result = .ok (.int 1) ∧ result' = .ok (.int 1) ∧
      after.get? "x" 1 = some (.int 5) ∧ after'.get? "y" 1 = some (.int 5)) := by
  have unmentioned : xToY.new ∉ (shadowing.toValue 3).1.names := by decide
  have unused : shower.Unused xToY.new := by
    intro frame binding member
    rcases shower_binding member with rfl | rfl <;> decide
  have closed : shower.Closed := by
    rintro frame binding member captured ⟨id, parameters, body, held⟩
    rcases shower_binding member with rfl | rfl
    · cases held
    · rcases held with _ | _ | _ | deeper
      · decide
      · cases deeper
  obtain ⟨stage, -, -, -, same⟩ := evaluate_renamed xToY 9 shadowing 3 shadowingRenamed 0 shower
    shadowing_site unmentioned unused closed (by decide)
  have result : ((evaluate 9 (shadowing.toValue 3).1 0).outcome shower).1 = .ok (.int 1) := by
    with_unfolding_all rfl
  refine ⟨shadowing_site, unmentioned, unused, closed, by decide, result, same _ result ?_, ?_, ?_⟩
  · rintro frame ⟨id, parameters, body, held⟩
    cases held
  · with_unfolding_all rfl
  · with_unfolding_all rfl

end MiniLisp
