import MiniLisp.Proofs.Diagonal
import MiniLisp.Proofs.Numbering

/-!
Objects. Each identity is given out once, to an object whose contents never change. So through a
whole run, values that are one object are the same throughout.
-/

namespace MiniLisp

namespace Value

def identity? : Value → Option ObjectId
  | nan id _ | complex id _ _ | list id _ | tuple id _ | closure id _ _ _ => some id
  | _ => none

theorem identical_self (v : Value) : identical v v = true := by
  cases v <;> simp [identical]

theorem identity?_of_identical {v w : Value} (one : identical v w = true) :
    v.identity? = w.identity? := by
  cases v <;> cases w <;> simp_all [identical, identity?]

theorem eq_of_identical_plain {v w : Value} (plain : v.identity? = none)
    (one : identical v w = true) : v = w := by
  cases v <;> cases w <;> simp_all [identical, identity?]

theorem within_plain {part v : Value} (plain : v.identity? = none) (within : Within part v) :
    part = v := by
  cases within with
  | here => rfl
  | list | tuple | body => cases plain

end Value

def Event.values : Event → List Value
  | evaluated expr _ => [expr]
  | applied procedure arguments => procedure :: arguments
  | gave value => [value]
  | entered _ procedure arguments => procedure :: arguments
  | bound _ _ value => [value]

/-- The objects up to a moment of a run, and values without an identity. -/
structure Objects where
  holds : Value → Prop
  plain : ∀ {v}, v.identity? = none → holds v
  emptyTuple : holds (.tuple Value.emptyTuple [])
  parts : ∀ {v part}, holds v → Value.Within part v → holds part
  unique : ∀ {v w}, holds v → holds w → Value.identical v w = true → v = w

namespace Objects

instance : Preorder Objects where
  le := fun objects later => ∀ v, objects.holds v → later.holds v
  le_refl := fun _ _ => id
  le_trans := fun _ _ _ first second v held => second v (first v held)

def Below (objects : Objects) (next : ObjectId) : Prop :=
  ∀ v id, objects.holds v → v.identity? = some id → id < next

variable {objects : Objects} {next : ObjectId}

/-- Later there is a value among the objects, and the next free identity is known. -/
def Gains (objects : Objects) (made : Value × ObjectId) : Prop :=
  ∃ later, objects ≤ later ∧ later.Below made.2 ∧ later.holds made.1

theorem Gains.held (below : objects.Below next) {v : Value} (held : objects.holds v) :
    objects.Gains (v, next) :=
  ⟨objects, le_rfl, below, held⟩

theorem Gains.make (below : objects.Below next) {v : Value}
    (inside : ∀ part, Value.Within part v → part = v ∨ objects.holds part)
    (fresh : v.identity? = some next) : objects.Gains (v, next + 1) := by
  have apart {w : Value} (held : objects.holds w) : v.identity? ≠ w.identity? := by
    intro same
    exact Nat.lt_irrefl next (below w next held (same ▸ fresh))
  let later : Objects :=
    { holds := fun w => w = v ∨ objects.holds w
      plain := fun plain => .inr (objects.plain plain)
      emptyTuple := .inr objects.emptyTuple
      parts := by
        rintro w part (rfl | held) within
        · exact inside part within
        · exact .inr (objects.parts held within)
      unique := by
        rintro w w' (rfl | held) (rfl | held') one
        · rfl
        · exact absurd (Value.identity?_of_identical one) (apart held')
        · exact absurd (Value.identity?_of_identical one).symm (apart held)
        · exact objects.unique held held' one }
  refine ⟨later, fun _ => .inr, ?_, .inl rfl⟩
  rintro w id (rfl | held) own
  · obtain rfl := Option.some.inj (fresh.symm.trans own)
    exact Nat.lt_succ_self next
  · exact Nat.lt_succ_of_lt (below w id held own)

theorem Gains.sequence (below : objects.Below next) {v : Value} {kind : SequenceKind}
    {items : List Value} (sequence : v.sequence? = some (kind, items))
    (each : ∀ item ∈ items, objects.holds item) (fresh : v.identity? = some next) :
    objects.Gains (v, next + 1) := by
  refine .make below (fun part within => ?_) fresh
  rcases Value.within_sequence sequence within with same | ⟨item, member, deeper⟩
  · exact .inl same
  · exact .inr (objects.parts (each item member) deeper)

theorem Gains.list (below : objects.Below next) {items : List Value}
    (each : ∀ item ∈ items, objects.holds item) : objects.Gains (.list next items, next + 1) :=
  .sequence below rfl each rfl

theorem Gains.tuple (below : objects.Below next) {items : List Value}
    (each : ∀ item ∈ items, objects.holds item) : objects.Gains (.tuple next items, next + 1) :=
  .sequence below rfl each rfl

theorem Gains.closure (below : objects.Below next) {body : Value} (held : objects.holds body)
    (parameters : List String) (frame : FrameId) :
    objects.Gains (.closure next parameters body frame, next + 1) := by
  refine .make below (fun part within => ?_) rfl
  cases within with
  | here => exact .inl rfl
  | body deeper => exact .inr (objects.parts held deeper)

theorem Gains.number (below : objects.Below next) (n : Number) :
    objects.Gains (n.toValue next) := by
  rcases n with n | ⟨x | negative⟩ | ⟨re, im⟩
  · exact .held below (objects.plain rfl)
  · exact .held below (objects.plain rfl)
  · refine .make below (fun part within => ?_) rfl
    cases within
    exact .inl rfl
  · refine .make below (fun part within => ?_) rfl
    cases within
    exact .inl rfl

theorem Gains.scalar (below : objects.Below next) (answer : Scalar) :
    objects.Gains (answer.toValue next) := by
  cases answer with
  | number n => exact .number below n
  | truth b => exact .held below (objects.plain rfl)
  | pair first second =>
      obtain ⟨middle, passed, below', held⟩ := Gains.number below first
      obtain ⟨last, passed', below'', held'⟩ := Gains.number below' second
      have each : ∀ item ∈ [(first.toValue next).1,
          (second.toValue (first.toValue next).2).1], last.holds item := by
        intro item member
        simp only [List.mem_cons, List.not_mem_nil, or_false] at member
        rcases member with rfl | rfl
        · exact passed' _ held
        · exact held'
      obtain ⟨later, passed'', gained⟩ := Gains.tuple below'' each
      exact ⟨later, le_trans passed (le_trans passed' passed''), gained⟩

theorem Gains.answer (below : objects.Below next) {answer : Answer}
    (given : ∀ part ∈ answer.parts, objects.holds part) :
    objects.Gains (answer.toValue next) := by
  cases answer with
  | scalar answer => exact .scalar below answer
  | nothing => exact .held below (objects.plain rfl)
  | given v => exact .held below (given v (List.mem_singleton_self v))
  | list items => exact .list below given
  | tuple items =>
      cases items with
      | nil => exact .held below objects.emptyTuple
      | cons first rest => exact .tuple below given

theorem Gains.code (below : objects.Below next) (expr : Expr) :
    objects.Gains (expr.toValue next) := by
  induction expr using Expr.itemwise generalizing objects next with
  | list items each =>
      have codes : ∃ later, objects ≤ later ∧ later.Below (Expr.toValues next items).2 ∧
          ∀ v ∈ (Expr.toValues next items).1, later.holds v := by
        induction items generalizing objects next with
        | nil => exact ⟨objects, le_rfl, below, nofun⟩
        | cons item items ih =>
            obtain ⟨middle, passed, below', held⟩ := each item List.mem_cons_self below
            obtain ⟨later, passed', below'', others⟩ :=
              ih (fun other member => each other (List.mem_cons_of_mem item member)) below'
            rw [toValues_cons]
            exact ⟨later, le_trans passed passed', below'',
              List.forall_mem_cons.mpr ⟨passed' _ held, others⟩⟩
      obtain ⟨middle, passed, below', held⟩ := codes
      obtain ⟨later, passed', gained⟩ := Gains.list below' held
      rw [toValue_list]
      exact ⟨later, le_trans passed passed', gained⟩
  | _ => exact .held below (objects.plain rfl)

def start : Objects where
  holds := fun v => v.identity? = none ∨ v = .tuple Value.emptyTuple [] ∨
    v = .nan Value.sharedNaN false
  plain := .inl
  emptyTuple := .inr (.inl rfl)
  parts := by
    rintro v part (plain | rfl | rfl) within
    · exact .inl (Value.within_plain plain within ▸ plain)
    · rcases within with _ | _ | ⟨member, -⟩
      · exact .inr (.inl rfl)
      · cases member
    · cases within
      exact .inr (.inr rfl)
  unique := by
    rintro v w (plain | rfl | rfl) held one
    · exact Value.eq_of_identical_plain plain one
    all_goals
      rcases held with plain | rfl | rfl
      · have contrary := (Value.identity?_of_identical one).trans plain
        cases contrary
      all_goals first | rfl | cases one

theorem start_below : start.Below Value.firstFresh := by
  rintro v id (plain | rfl | rfl) own
  · cases plain.symm.trans own
  · cases own
    decide
  · cases own
    decide

end Objects

structure Chronicle.Catalogued (objects : Objects) (chronicle : Chronicle) : Prop where
  below : objects.Below chronicle.store.nextId
  events : ∀ event ∈ chronicle.history, ∀ v ∈ event.values, objects.holds v
  bindings : ∀ frame name v, chronicle.store.get? name frame = some v → objects.holds v

namespace Chronicle.Catalogued

variable {objects later : Objects} {chronicle : Chronicle} {v : Value}

theorem note (catalogued : chronicle.Catalogued objects) {event : Event}
    (each : ∀ v ∈ event.values, objects.holds v) :
    Catalogued objects { chronicle with history := event :: chronicle.history } :=
  ⟨catalogued.below, List.forall_mem_cons.mpr ⟨each, catalogued.events⟩, catalogued.bindings⟩

theorem renumber (catalogued : chronicle.Catalogued objects) (passed : objects ≤ later)
    {next : ObjectId} (below : later.Below next) :
    (chronicle.renumber next).Catalogued later where
  below := below
  events := fun event member v among => passed v (catalogued.events event member v among)
  bindings := fun frame name v bound => passed v (catalogued.bindings frame name v bound)

theorem define (catalogued : chronicle.Catalogued objects) (frame : FrameId) (name : String)
    (held : objects.holds v) :
    Catalogued objects
      ⟨chronicle.store.define frame name v, .bound frame name v :: chronicle.history⟩ where
  below := catalogued.below
  events := List.forall_mem_cons.mpr
    ⟨fun _ member => List.mem_singleton.mp member ▸ held, catalogued.events⟩
  bindings := Store.bound_define catalogued.bindings held

theorem enter (catalogued : chronicle.Catalogued objects) {id : ObjectId}
    {parameters : List String} {body : Value} {captured : FrameId} {arguments : List Value}
    (held : objects.holds (.closure id parameters body captured))
    (given : ∀ v ∈ arguments, objects.holds v) :
    Catalogued objects
      ⟨(chronicle.store.push ⟨Bindings.ofArguments [] parameters arguments, some captured⟩).2,
        .entered chronicle.store.frames.size (.closure id parameters body captured) arguments ::
          chronicle.history⟩ where
  below := catalogued.below
  events := List.forall_mem_cons.mpr ⟨List.forall_mem_cons.mpr ⟨held, given⟩, catalogued.events⟩
  bindings := Store.bound_push catalogued.bindings (fun v member _ => given v member)
    fun _ => objects.plain rfl

end Chronicle.Catalogued

section Keeps

variable {objects : Objects}

theorem read_catalogued (name : String) (frame : FrameId) :
    Recorded.Keeps (Alone Chronicle.Catalogued) objects (Recorded.lift (Action.read name frame))
      Objects.holds := by
  refine Recorded.keeps_alone fun chronicle catalogued => ?_
  rw [Recorded.after_read]
  refine ⟨objects, le_rfl, catalogued, fun v given => ?_⟩
  obtain ⟨-, owner, bound⟩ := Recorded.bound_of_read given
  exact catalogued.bindings owner name v bound

theorem gains_catalogued {action : Action Value} {made : ObjectId → Value × ObjectId}
    (outcome : ∀ store, action.outcome store =
      (.ok (made store.nextId).1, { store with nextId := (made store.nextId).2 }))
    (gains : ∀ next, objects.Below next → objects.Gains (made next)) :
    Recorded.Keeps (Alone Chronicle.Catalogued) objects (Recorded.lift action) Objects.holds := by
  refine Recorded.keeps_alone fun chronicle catalogued => ?_
  obtain ⟨later, passed, below, held⟩ := gains _ catalogued.below
  rw [Recorded.outcome_lift, outcome]
  refine ⟨later, passed, catalogued.renumber passed below, fun v ended => ?_⟩
  cases ended
  exact held

end Keeps

def objectDiagonal : Diagonal Objects where
  alike := Alone Chronicle.Catalogued
  value := Objects.holds
  code := fun objects expr _ => objects.holds expr
  value_lasting := fun passed => passed _
  code_lasting := fun passed => passed _
  nothing := fun {objects} => objects.plain rfl
  items := fun {objects} _ held _ member => objects.parts held (Value.within_of_mem_items member)
  datum := id
  combination := fun {objects _ _ _ _} held _ _ member => objects.parts held (.list member .here)
  branches := fun {objects _ _ _ _} held _ _ member =>
    objects.parts held (.list (List.mem_cons_of_mem _ member) .here)
  defined := fun {objects _ _ _ _ _} held _ => objects.parts held (.list (by simp) .here)
  assigned := fun {objects _ _ _ _ _} held _ => objects.parts held (.list (by simp) .here)
  read := fun _ => read_catalogued _ _
  define := fun _ _ _ held => Recorded.keeps_step fun _ catalogued => catalogued.define _ _ held
  assign := fun {_ _ _ name _ frame _} _ _ _ held =>
    Recorded.keeps_step fun chronicle catalogued => by
      rw [Recorded.outcome_assign]
      cases chronicle.store.find? name frame with
      | none => exact catalogued
      | some owner => exact catalogued.define owner name held
  makeClosure := fun {objects _ _ _ names _ frame} held _ =>
    gains_catalogued (fun _ => rfl) fun _ below =>
      .closure below (objects.parts held (.list (by simp) .here)) names frame
  evaluated := fun held => Recorded.keeps_step fun _ catalogued =>
    catalogued.note fun _ member => List.mem_singleton.mp member ▸ held
  applied := fun held given => Recorded.keeps_step fun _ catalogued =>
    catalogued.note (List.forall_mem_cons.mpr ⟨held, given⟩)
  gave := fun held => Recorded.keeps_step fun _ catalogued =>
    catalogued.note fun _ member => List.mem_singleton.mp member ▸ held
  enter := fun {objects _ _ _ _ _} held given => Recorded.keeps_alone fun _ catalogued =>
    ⟨objects, le_rfl, catalogued.enter held given, fun _ _ => objects.parts held (.body .here)⟩
  allocate := fun given => gains_catalogued (fun _ => rfl) fun _ below => .answer below given
  print := fun depth _ => Recorded.keeps_step fun chronicle catalogued => by
    obtain ⟨text, printed⟩ := Recorded.after_print depth _ chronicle
    rw [printed]
    exact ⟨catalogued.below, catalogued.events, catalogued.bindings⟩

theorem objectDiagonal_reads : objectDiagonal.Reads Chronicle.Catalogued := by
  intro objects chronicle depth line expr catalogued read
  obtain ⟨later, passed, below, held⟩ := Objects.Gains.code catalogued.below expr
  exact ⟨later, passed, catalogued.renumber passed below, fun _ => held⟩

theorem start_catalogued : Chronicle.Catalogued Objects.start ⟨Session.start.store, []⟩ where
  below := Objects.start_below
  events := nofun
  bindings := by
    intro frame name v bound
    exact @standardBindings_hold Objects.start.holds (fun _ => .inl rfl) (.inr (.inr rfl))
      (fun _ => .inl rfl) (fun _ => .inl rfl) (name, v)
      (Session.bindingsOf_start (Bindings.mem_of_get? bound))

/-- The value occurs in a state that the lines lead a session to: in a result, in a frame, or in
what is evaluated, applied, given or bound on the way. -/
inductive Occurs (lines : List (Nat × String)) (v : Value) : Prop
  | result {whole : Value} (given : .ok whole ∈ (Session.start.evaluateAll lines).1)
      (within : Value.Within v whole)
  | bound {frame : FrameId} {name : String} {whole : Value}
      (bound : (Session.start.evaluateAll lines).2.store.get? name frame = some whole)
      (within : Value.Within v whole)
  | event {event : Event} {whole : Value}
      (happened : event ∈ (Recorded.evaluateAll Session.start.global lines
        ⟨Session.start.store, []⟩).2.history)
      (among : whole ∈ event.values) (within : Value.Within v whole)

theorem occurs_held (lines : List (Nat × String)) :
    ∃ objects : Objects, ∀ v, Occurs lines v → objects.holds v := by
  obtain ⟨objects, -, catalogued, results⟩ := @Diagonal.evaluateAll_keeps _ _ objectDiagonal
    Objects.start _ rfl objectDiagonal_reads Session.start.global lines _ start_catalogued
  have recorded : Session.start.evaluateAll lines = _ := Session.start.evaluateAll_recorded lines []
  refine ⟨objects, fun v occurs => ?_⟩
  cases occurs with
  | result given within =>
      rw [recorded] at given
      exact objects.parts (results _ given) within
  | bound bound within =>
      rw [recorded] at bound
      exact objects.parts (catalogued.bindings _ _ _ bound) within
  | event happened among within =>
      exact objects.parts (catalogued.events _ happened _ among) within

/-- A line with three lists, of one and the same number, which is once written as a real number. -/
def threeOnes : List (Nat × String) := [(9, "(quote ((1) (1.0) (1)))")]

def realOne : Value := .real (.ofQuotient false 1 1)

theorem threeOnes_occur :
    ∀ v ∈ [Value.list 2 [.int 1], .list 3 [realOne], .list 4 [.int 1]], Occurs threeOnes v := by
  have read : parse 9 "(quote ((1) (1.0) (1)))" = .ok (.list [.symbol "quote", .list
      [.list [.int 1], .list [.real (.ofQuotient false 1 1)], .list [.int 1]]]) := by
    with_unfolding_all rfl
  have made : (Session.start.evaluate 9 "(quote ((1) (1.0) (1)))").1 =
      .ok (.list 5 [.list 2 [.int 1], .list 3 [realOne], .list 4 [.int 1]]) := by
    rw [Session.start.evaluate_read read]
    dsimp only [Expr.toValue, Expr.toValues]
    rw [evaluate]
    rfl
  have given : .ok (.list 5 [.list 2 [.int 1], .list 3 [realOne], .list 4 [.int 1]]) ∈
      (Session.start.evaluateAll threeOnes).1 := by
    rw [threeOnes, Session.evaluateAll]
    exact List.mem_cons.mpr (.inl made.symm)
  exact fun v member => .result given (.list member .here)

end MiniLisp
