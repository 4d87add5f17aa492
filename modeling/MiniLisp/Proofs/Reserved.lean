import MiniLisp.Proofs.Diagonal
import MiniLisp.Proofs.Reach

/-!
Reserved words as names. Definitions and assignments refuse them, so only a call binds a reserved
word: one of a procedure that has it as a parameter. What the call gives it then stays.
-/

namespace MiniLisp

/-- The frame was made for a call of a procedure that has the name among its parameters, and the
value is what the call gave it. -/
def GivenByCall (history : List Event) (frame : FrameId) (name : String) (value : Value) : Prop :=
  ∃ id parameters body captured arguments,
    .entered frame (.closure id parameters body captured) arguments ∈ history ∧
    name ∈ parameters ∧ (Bindings.ofArguments [] parameters arguments).get? name = some value

/-- No reserved word is ever written. The global frame binds none of them, and where another frame
binds one it is a call that has given it. -/
structure Chronicle.Reserves (chronicle : Chronicle) : Prop where
  written : ∀ frame name value, .bound frame name value ∈ chronicle.history → isKeyword name = false
  inside : Session.start.global < chronicle.store.frames.size
  global : ∀ keyword : Keyword, chronicle.store.get? keyword.name Session.start.global = none
  given : ∀ frame (keyword : Keyword) value, chronicle.store.get? keyword.name frame = some value →
    GivenByCall chronicle.history frame keyword.name value

theorem isKeyword_name (keyword : Keyword) : isKeyword keyword.name = true := by
  cases keyword <;> decide

theorem keyword?_name (keyword : Keyword) :
    (Value.symbol keyword.name).keyword? = some keyword := by
  cases keyword <;> decide

theorem name_ne_of_free {name : String} (free : isKeyword name = false) (keyword : Keyword) :
    keyword.name ≠ name := by
  rintro rfl
  simp [isKeyword_name] at free

theorem Bindings.mem_of_get?_ofArguments {name : String} {bindings : Bindings}
    {parameters : List String} {arguments : List Value}
    (bound : ((bindings.ofArguments parameters arguments).get? name).isSome) :
    name ∈ parameters ∨ (bindings.get? name).isSome := by
  induction parameters generalizing bindings arguments with
  | nil => exact .inr bound
  | cons parameter parameters ih =>
      have earlier (value : Value) (set : ((bindings.set parameter value).get? name).isSome) :
          name ∈ parameter :: parameters ∨ (bindings.get? name).isSome := by
        rw [get?_set] at set
        split at set
        · rename_i same
          exact .inl (same ▸ List.mem_cons_self)
        · exact .inr set
      cases arguments with
      | nil => exact (ih bound).elim (.inl ∘ List.mem_cons_of_mem _) (earlier .unbound)
      | cons argument arguments =>
          exact (ih bound).elim (.inl ∘ List.mem_cons_of_mem _) (earlier argument)

theorem GivenByCall.later {history : List Event} {frame : FrameId} {name : String} {value : Value}
    (given : GivenByCall history frame name value) (event : Event) :
    GivenByCall (event :: history) frame name value := by
  obtain ⟨id, parameters, body, captured, arguments, entered, parameter, bound⟩ := given
  exact ⟨id, parameters, body, captured, arguments, List.mem_cons_of_mem event entered, parameter,
    bound⟩

namespace Chronicle.Reserves

variable {chronicle : Chronicle} {frame : FrameId} {name : String}

theorem note (reserves : chronicle.Reserves) (event : Event)
    (unwritten : ∀ frame name value, event ≠ .bound frame name value) :
    Reserves { chronicle with history := event :: chronicle.history } where
  written := by
    intro frame name value member
    rcases List.mem_cons.mp member with same | member
    · exact absurd same.symm (unwritten frame name value)
    · exact reserves.written frame name value member
  inside := reserves.inside
  global := reserves.global
  given := fun frame keyword value bound => (reserves.given frame keyword value bound).later event

theorem define (reserves : chronicle.Reserves) (free : isKeyword name = false) (frame : FrameId)
    (value : Value) :
    Reserves ⟨chronicle.store.define frame name value,
      .bound frame name value :: chronicle.history⟩ := by
  have other (keyword : Keyword) (there : FrameId) :
      (chronicle.store.define frame name value).get? keyword.name there =
        chronicle.store.get? keyword.name there := by
    rw [Store.get?_define, if_neg]
    exact fun here => name_ne_of_free free keyword here.2.1
  constructor
  · intro there sought found member
    rcases List.mem_cons.mp member with same | member
    · cases same
      exact free
    · exact reserves.written there sought found member
  · simpa using reserves.inside
  · intro keyword
    rw [other]
    exact reserves.global keyword
  · intro there keyword found bound
    rw [other] at bound
    exact (reserves.given there keyword found bound).later _

theorem enter (reserves : chronicle.Reserves) (id : ObjectId) (parameters : List String)
    (body : Value) (captured : FrameId) (arguments : List Value) :
    Reserves
      ⟨(chronicle.store.push ⟨Bindings.ofArguments [] parameters arguments, some captured⟩).2,
        .entered chronicle.store.frames.size (.closure id parameters body captured) arguments ::
          chronicle.history⟩ where
  written := by
    intro frame name value member
    rcases List.mem_cons.mp member with same | member
    · cases same
    · exact reserves.written frame name value member
  inside := by
    rw [Store.size_push]
    exact Nat.lt_succ_of_lt reserves.inside
  global := by
    intro keyword
    rw [Store.get?_push, if_neg (Nat.ne_of_lt reserves.inside)]
    exact reserves.global keyword
  given := by
    intro frame keyword value bound
    rw [Store.get?_push] at bound
    split at bound
    · rename_i new
      have some : ((Bindings.ofArguments [] parameters arguments).get? keyword.name).isSome :=
        Option.isSome_of_eq_some bound
      have parameter := (Bindings.mem_of_get?_ofArguments some).resolve_right Bool.false_ne_true
      exact ⟨id, parameters, body, captured, arguments, new ▸ List.mem_cons_self, parameter, bound⟩
    · exact (reserves.given frame keyword value bound).later _

end Chronicle.Reserves

/-- Any code may run and any value turn up: it is the forms themselves that spare reserved words. -/
def reservedDiagonal : Diagonal Moment where
  alike := Alone fun _ => Chronicle.Reserves
  value := fun _ _ => True
  code := fun _ _ _ => True
  value_lasting := fun _ => id
  code_lasting := fun _ => id
  nothing := trivial
  items := fun _ _ _ _ => trivial
  datum := id
  combination := fun _ _ _ _ => trivial
  branches := fun _ _ _ _ => trivial
  defined := fun _ _ => trivial
  assigned := fun _ _ => trivial
  read := fun _ => Recorded.keeps_step fun chronicle reserves => by
    rwa [Recorded.after_read]
  define := fun _ _ free _ => Recorded.keeps_step fun _ reserves => reserves.define free _ _
  assign := fun {_ _ _ name _ frame _} _ _ free _ =>
    Recorded.keeps_step fun chronicle reserves => by
      rw [Recorded.outcome_assign]
      cases chronicle.store.find? name frame with
      | none => exact reserves
      | some owner => exact reserves.define free owner _
  makeClosure := fun _ _ => Recorded.keeps_step fun _ reserves =>
    ⟨reserves.written, reserves.inside, reserves.global, reserves.given⟩
  evaluated := fun _ => Recorded.keeps_step fun _ reserves => reserves.note _ nofun
  applied := fun _ _ => Recorded.keeps_step fun _ reserves => reserves.note _ nofun
  gave := fun _ => Recorded.keeps_step fun _ reserves => reserves.note _ nofun
  enter := fun _ _ => Recorded.keeps_step fun _ reserves => reserves.enter _ _ _ _ _
  allocate := fun _ => Recorded.keeps_step fun _ reserves =>
    ⟨reserves.written, reserves.inside, reserves.global, reserves.given⟩
  print := fun depth _ => Recorded.keeps_step fun chronicle reserves => by
    obtain ⟨text, printed⟩ := Recorded.after_print depth _ chronicle
    rw [printed]
    exact ⟨reserves.written, reserves.inside, reserves.global, reserves.given⟩

theorem start_reserves : Chronicle.Reserves ⟨Session.start.store, []⟩ := by
  have unbound (keyword : Keyword) (frame : FrameId) :
      Session.start.store.get? keyword.name frame = none := by
    change (Store.empty.push ⟨standardBindings, none⟩).2.get? keyword.name frame = none
    rw [Store.get?_push]
    split
    · cases keyword <;> rfl
    · rfl
  refine ⟨nofun, Nat.one_pos, fun keyword => unbound keyword _, fun frame keyword value bound => ?_⟩
  rw [unbound] at bound
  cases bound

theorem evaluateAll_reserves (lines : List (Nat × String)) :
    (Recorded.evaluateAll Session.start.global lines ⟨Session.start.store, []⟩).2.Reserves := by
  have reads : reservedDiagonal.Reads fun _ => Chronicle.Reserves := fun reserves _ =>
    ⟨_, le_rfl, ⟨reserves.written, reserves.inside, reserves.global, reserves.given⟩,
      fun _ => trivial⟩
  obtain ⟨_, -, after, -⟩ := @Diagonal.evaluateAll_keeps _ _ reservedDiagonal .always _ rfl reads
    Session.start.global lines _ start_reserves
  exact after

end MiniLisp
