import MiniLisp.Proofs.Accounting
import MiniLisp.Proofs.Parameters

/-!
Which list is which. A list that a primitive makes is none that was there before. Quoting, binding,
passing and reading a value, `car` and `begin` hand on the value itself: in a run it goes from place
to place, and at all of them it is the same list.
-/

namespace MiniLisp

open List (Forall₂)

/-- The part of a value at a path, which gives the positions of items from the outside in. -/
def Value.part? : Value → List Nat → Option Value
  | value, [] => some value
  | value, position :: path => value.items[position]?.bind fun item => item.part? path

/-- Where a value is met in a run: in which of the values that the newest event of a moment is
about, and at which path. -/
structure Place where
  moment : List Event
  index : Nat
  path : List Nat

def Place.value? (place : Place) : Option Value :=
  place.moment.head?.bind fun event => event.values[place.index]?.bind (·.part? place.path)

def Event.Writes (name : String) (owner : FrameId) : Event → Prop
  | bound frame other _ => frame = owner ∧ other = name
  | entered frame (.closure ..) _ => frame = owner
  | _ => False

/-- The name of the frame has its value from the newest event of an earlier moment, by an index. -/
inductive Stored (name : String) (owner : FrameId) :
    (moment writing : List Event) → (index : Nat) → Prop
  | bound (value : Value) (earlier : List Event) :
      Stored name owner (.bound owner name value :: earlier) (.bound owner name value :: earlier) 0
  | entered {id : ObjectId} {parameters : List String} {body : Value} {captured : FrameId}
      {arguments : List Value} {earlier : List Event} {index : Nat}
      (last : LastPlace parameters name index) :
      Stored name owner
        (.entered owner (.closure id parameters body captured) arguments :: earlier)
        (.entered owner (.closure id parameters body captured) arguments :: earlier) (index + 1)
  | later {event : Event} {earlier writing : List Event} {index : Nat}
      (other : ¬ event.Writes name owner) (stored : Stored name owner earlier writing index) :
      Stored name owner (event :: earlier) writing index

section Stored

variable {name : String} {owner : FrameId} {moment writing earlier : List Event} {index : Nat}
  {event : Event} {v : Value}

theorem get?_recalled_other (lawful : Lawful (event :: earlier))
    (other : ¬ event.Writes name owner) :
    (recalled (event :: earlier)).get? name owner = (recalled earlier).get? name owner := by
  cases event with
  | bound frame bound value =>
      rw [recalled, Store.get?_define, if_neg]
      rintro ⟨rfl, rfl, -⟩
      exact other ⟨rfl, rfl⟩
  | entered frame procedure arguments =>
      cases procedure with
      | closure id parameters body captured =>
          obtain ⟨rfl, -⟩ := lawful.1
          rw [recalled, Store.get?_push, if_neg]
          rintro rfl
          exact other rfl
      | _ => rfl
  | _ => rfl

theorem value_of_stored (stored : Stored name owner moment writing index) (lawful : Lawful moment)
    (bound : (recalled moment).get? name owner = some v) (assigned : v ≠ .unbound)
    (path : List Nat) : Place.value? ⟨writing, index, path⟩ = v.part? path := by
  induction stored with
  | bound value earlier =>
      rw [recalled, Store.get?_define] at bound
      split at bound
      · cases bound
        rfl
      · -- A frame that binds the name exists, so that it has been written to.
        rename_i absent
        exact absurd ⟨rfl, rfl, Store.lt_size_of_bound _ bound⟩ absent
  | entered last =>
      obtain ⟨rfl, -⟩ := lawful.1
      rename_i arguments earlier index
      rw [recalled, Store.get?_push, if_pos rfl, Bindings.get?_ofArguments_last last] at bound
      have bound : arguments[index]?.getD .unbound = v := Option.some.inj bound
      change arguments[index]?.bind (·.part? path) = _
      cases here : arguments[index]? with
      | none =>
          rw [here] at bound
          exact absurd bound.symm assigned
      | some argument =>
          rw [here] at bound
          obtain rfl : argument = v := bound
          rfl
  | later other stored ih =>
      rw [get?_recalled_other lawful other] at bound
      exact ih lawful.2 bound

theorem exists_lastPlace {parameters : List String} (member : name ∈ parameters) :
    ∃ index, LastPlace parameters name index := by
  induction parameters with
  | nil => cases member
  | cons parameter parameters ih =>
      by_cases again : name ∈ parameters
      · obtain ⟨index, last⟩ := ih again
        exact ⟨index + 1, last⟩
      · obtain rfl := (List.mem_cons.mp member).resolve_right again
        exact ⟨0, rfl, again⟩

theorem exists_stored (lawful : Lawful moment)
    (bound : (recalled moment).get? name owner = some v) (list : v.isList = true) :
    ∃ writing index, Stored name owner moment writing index := by
  induction moment with
  | nil =>
      have standard := standardBindings_standard _
        (Session.bindingsOf_start (Bindings.mem_of_get? bound))
      cases v with
      | list => cases standard
      | _ => cases list
  | cons event earlier ih =>
      by_cases writes : event.Writes name owner
      · cases event with
        | bound frame other value =>
            obtain ⟨rfl, rfl⟩ := writes
            exact ⟨_, _, .bound value earlier⟩
        | entered frame procedure arguments =>
            cases procedure with
            | closure id parameters body captured =>
                obtain rfl : frame = owner := writes
                obtain ⟨rfl, -⟩ := lawful.1
                rw [recalled, Store.get?_push, if_pos rfl] at bound
                have member := Bindings.isSome_get?_ofArguments.mp (Option.isSome_of_eq_some bound)
                obtain ⟨index, last⟩ := exists_lastPlace member
                exact ⟨_, _, .entered last⟩
            | _ => cases writes
        | _ => cases writes
      · rw [get?_recalled_other lawful writes] at bound
        obtain ⟨writing, index, stored⟩ := ih lawful.2 bound
        exact ⟨writing, index, .later writes stored⟩

theorem Stored.passing {passed : List Event} (others : ∀ event ∈ passed, ¬ event.Writes name owner)
    (stored : Stored name owner earlier writing index) :
    Stored name owner (passed ++ earlier) writing index := by
  induction passed with
  | nil => exact stored
  | cons event passed ih =>
      exact .later (others event List.mem_cons_self)
        (ih fun other member => others other (List.mem_cons_of_mem _ member))

end Stored

/-- What began at a moment gives a value, after what happened up to another moment. -/
def Ends (history start : List Event) (value : Value) (earlier : List Event) : Prop :=
  .gave value :: earlier <:+ history ∧
    ∃ given around, pending earlier = ⟨start, given⟩ :: around

/-- The event begins something that gives the value that it is given last: a combination, the
application of a closure, or that of `apply`. -/
def Event.relays : Event → Bool
  | evaluated (.list _ (head :: _)) _ => head.keyword? = none
  | applied (.closure ..) _ | applied (.primitive .apply) _ => true
  | _ => false

/-- In the run a value goes from the one place to the other. -/
inductive Hands (history : List Event) : Place → Place → Prop
  | quoted {id : ObjectId} {head : Value} {operands : List Value} {frame : FrameId}
      {before earlier : List Event} {v : Value} {path : List Nat}
      (form : head.keyword? = some .quotation)
      (ends : Ends history (.evaluated (.list id (head :: operands)) frame :: before) v earlier) :
      Hands history ⟨.evaluated (.list id (head :: operands)) frame :: before, 0, 1 :: path⟩
        ⟨.gave v :: earlier, 0, path⟩
  | first {arguments : List Value} {before earlier : List Event} {v : Value} {path : List Nat}
      (ends : Ends history
        (.applied (.primitive (.operation .car)) arguments :: before) v earlier) :
      Hands history ⟨.applied (.primitive (.operation .car)) arguments :: before, 1, 0 :: path⟩
        ⟨.gave v :: earlier, 0, path⟩
  | last {argument : Value} {arguments : List Value} {before earlier : List Event} {v : Value}
      {path : List Nat}
      (ends : Ends history
        (.applied (.primitive (.operation .begin)) (argument :: arguments) :: before) v earlier) :
      Hands history
        ⟨.applied (.primitive (.operation .begin)) (argument :: arguments) :: before,
          arguments.length + 1, path⟩
        ⟨.gave v :: earlier, 0, path⟩
  | read {name : String} {frame owner : FrameId} {before earlier writing : List Event} {v : Value}
      {index : Nat} {path : List Nat}
      (ends : Ends history (.evaluated (.symbol name) frame :: before) v earlier)
      (found : (recalled earlier).find? name frame = some owner)
      (stored : Stored name owner earlier writing index) :
      Hands history ⟨writing, index, path⟩ ⟨.gave v :: earlier, 0, path⟩
  /-- From the value of an operator or operand to the application of a combination. -/
  | passed {id : ObjectId} {head procedure : Value} {operands arguments : List Value}
      {frame : FrameId} {before earlier moment : List Event} {given : List (List Event)}
      {around : List Undertaking} {index : Nat} {path : List Nat}
      (plain : head.keyword? = none) (applied : .applied procedure arguments :: earlier <:+ history)
      (inside : pending earlier =
        ⟨.evaluated (.list id (head :: operands)) frame :: before, given⟩ :: around)
      (operand : given[index]? = some moment) :
      Hands history ⟨moment, 0, path⟩ ⟨.applied procedure arguments :: earlier, index, path⟩
  /-- From the list that `apply` is given to the arguments of what it applies. -/
  | spread {procedure : Value} {passed arguments : List Value} {before earlier : List Event}
      {given : List (List Event)} {around : List Undertaking} {index : Nat} {path : List Nat}
      (applied : .applied procedure arguments :: earlier <:+ history)
      (inside : pending earlier =
        ⟨.applied (.primitive .apply) passed :: before, given⟩ :: around) :
      Hands history ⟨.applied (.primitive .apply) passed :: before, 2, index :: path⟩
        ⟨.applied procedure arguments :: earlier, index + 1, path⟩
  /-- From the list that `map` is given to the argument of each application. -/
  | mapped {procedure : Value} {passed arguments : List Value} {before earlier : List Event}
      {given : List (List Event)} {around : List Undertaking} {path : List Nat}
      (applied : .applied procedure arguments :: earlier <:+ history)
      (inside : pending earlier =
        ⟨.applied (.primitive .map) passed :: before, given⟩ :: around) :
      Hands history ⟨.applied (.primitive .map) passed :: before, 2, given.length :: path⟩
        ⟨.applied procedure arguments :: earlier, 1, path⟩
  | entered {frame : FrameId} {procedure : Value} {arguments : List Value} {earlier : List Event}
      {index : Nat} {path : List Nat}
      (entered : .entered frame procedure arguments :: earlier <:+ history) :
      Hands history ⟨earlier, index, path⟩
        ⟨.entered frame procedure arguments :: earlier, index, path⟩
  | bound {frame : FrameId} {name : String} {v : Value} {earlier : List Event} {path : List Nat}
      (bound : .bound frame name v :: earlier <:+ history) :
      Hands history ⟨earlier, 0, path⟩ ⟨.bound frame name v :: earlier, 0, path⟩
  /-- From the value given last to that of what relays it. -/
  | relayed {event : Event} {before earlier : List Event} {v : Value} {path : List Nat}
      (relays : event.relays = true) (ends : Ends history (event :: before) v earlier) :
      Hands history ⟨earlier, 0, path⟩ ⟨.gave v :: earlier, 0, path⟩

section Hands

variable {history start earlier before : List Event} {v : Value} {event : Event}

theorem Ends.yields (lawful : Lawful history) (ends : Ends history (event :: before) v earlier) :
    Yields earlier v event := by
  obtain ⟨moment, given, around, inside⟩ := ends
  obtain ⟨event', before', given', around', inside', yields⟩ := (lawful.suffix moment).1
  cases inside.symm.trans inside'
  exact yields

theorem Lawful.passes (lawful : Lawful history) {procedure : Value} {arguments : List Value}
    {call : Undertaking} {around : List Undertaking}
    (applied : .applied procedure arguments :: earlier <:+ history)
    (inside : pending earlier = call :: around) : call.Passes procedure arguments := by
  obtain ⟨call', around', inside', passes⟩ := (lawful.suffix applied).1
  cases inside.symm.trans inside'
  exact passes

theorem Ends.gave_of_relays (lawful : Lawful history)
    (ends : Ends history (event :: before) v earlier) (relays : event.relays = true) :
    GaveAt earlier v := by
  have yields := ends.yields lawful
  cases event with
  | evaluated expr frame =>
      cases expr with
      | list id items =>
          cases items with
          | nil => cases relays
          | cons head operands => exact yields.2 (of_decide_eq_true relays)
      | _ => cases relays
  | applied procedure arguments =>
      cases procedure with
      | closure => exact yields
      | primitive p =>
          cases p with
          | apply => exact yields.2.2.1 rfl
          | _ => cases relays
      | _ => cases relays
  | _ => cases relays

theorem GaveAt.value? (gave : GaveAt earlier v) (path : List Nat) :
    Place.value? ⟨earlier, 0, path⟩ = v.part? path := by
  obtain ⟨before, rfl⟩ := gave
  rfl

/-- What goes from place to place stays what it is. -/
theorem Hands.keeps (lawful : Lawful history) {p q : Place} (hands : Hands history p q) :
    q.value? = p.value? := by
  cases hands with
  | quoted form ends =>
      obtain ⟨only, -⟩ := ends.yields lawful
      cases only form
      rfl
  | first ends =>
      obtain ⟨listed, -⟩ := ends.yields lawful
      obtain ⟨id, rest, rfl⟩ := listed rfl
      rfl
  | last ends =>
      rename_i argument arguments before earlier v path
      obtain ⟨-, latest, -⟩ := ends.yields lawful
      have there : (argument :: arguments).getLast? = (argument :: arguments)[arguments.length]? :=
        List.getLast?_eq_getElem?
      rw [List.getLast?_cons, Option.getD_some] at latest
      rw [List.getLast?_cons, latest rfl] at there
      change v.part? path = (argument :: arguments)[arguments.length]?.bind (·.part? path)
      rw [← there]
      rfl
  | read ends found stored =>
      obtain ⟨assigned, looked⟩ := ends.yields lawful
      rw [Store.lookup?, found] at looked
      exact (value_of_stored stored (lawful.suffix ends.1).2 looked assigned _).symm
  | passed plain applied inside operand =>
      rename_i procedure operands arguments frame before earlier moment given around index path
      obtain ⟨-, gave⟩ := lawful.passes applied inside
      obtain ⟨within, rfl⟩ := List.getElem?_eq_some_iff.mp operand
      have there : index < (procedure :: arguments).length := gave.length_eq ▸ within
      have received : GaveAt given[index] (procedure :: arguments)[index] := gave.get within there
      change (procedure :: arguments)[index]?.bind (·.part? path) = _
      rw [List.getElem?_eq_getElem there, received.value?]
      rfl
  | spread applied inside =>
      obtain ⟨id, rfl⟩ := lawful.passes applied inside
      rfl
  | mapped applied inside =>
      rename_i before earlier given around path
      obtain ⟨id, items, item, rfl, here, rfl⟩ := lawful.passes applied inside
      change item.part? path = items[given.length]?.bind (·.part? path)
      rw [here]
      rfl
  | entered entered =>
      obtain ⟨-, before, rfl⟩ := (lawful.suffix entered).1
      rfl
  | bound bound => exact (GaveAt.value? ((lawful.suffix bound).1) _).symm
  | relayed relays ends => exact (GaveAt.value? (ends.gave_of_relays lawful relays) _).symm

theorem Hands.keeps_all (lawful : Lawful history) {p q : Place}
    (chain : Relation.ReflTransGen (Hands history) p q) : q.value? = p.value? := by
  induction chain with
  | refl => rfl
  | tail _ hands kept => exact (hands.keeps lawful).trans kept

theorem Ends.exists_hands (lawful : Lawful history) {name : String} {frame : FrameId}
    (ends : Ends history (.evaluated (.symbol name) frame :: before) v earlier)
    (list : v.isList = true) (path : List Nat) :
    ∃ place, Hands history place ⟨.gave v :: earlier, 0, path⟩ := by
  obtain ⟨-, looked⟩ := ends.yields lawful
  obtain ⟨owner, found, bound⟩ := Store.lookup?_bound looked
  obtain ⟨writing, index, stored⟩ := exists_stored (lawful.suffix ends.1).2 bound list
  exact ⟨⟨writing, index, path⟩, .read ends found stored⟩

theorem Lawful.exists_hands (lawful : Lawful history) {procedure : Value} {arguments : List Value}
    (applied : .applied procedure arguments :: earlier <:+ history) {index : Nat}
    (there : index < arguments.length) (path : List Nat) :
    ∃ place, Hands history place ⟨.applied procedure arguments :: earlier, index + 1, path⟩ := by
  obtain ⟨⟨start, given⟩, around, inside, passes⟩ := (lawful.suffix applied).1
  -- Nothing but a combination, `apply` and `map` has applications inside of it.
  rcases start with _ | ⟨event, before⟩
  · cases passes
  cases event with
  | evaluated expr frame =>
      cases expr with
      | list id items =>
          cases items with
          | nil => cases passes
          | cons head operands =>
              obtain ⟨plain, gave⟩ := passes
              have within : index + 1 < given.length := by
                rw [gave.length_eq]
                exact Nat.succ_lt_succ there
              exact ⟨_, .passed plain applied inside (List.getElem?_eq_getElem within)⟩
      | _ => cases passes
  | applied outer passed =>
      cases outer with
      | primitive p =>
          cases p with
          | apply => exact ⟨_, .spread applied inside⟩
          | map =>
              obtain ⟨id, items, item, -, -, rfl⟩ := passes
              obtain rfl : index = 0 := Nat.lt_one_iff.mp there
              exact ⟨_, .mapped applied inside⟩
          | _ => cases passes
      | _ => cases passes
  | _ => cases passes

end Hands

section Quotations

variable {history start earlier : List Event} {v : Value}

theorem start_of_give {moment : List Event} {calls : List Undertaking} {call : Undertaking}
    (member : call ∈ give moment calls) : ∃ former ∈ calls, former.start = call.start := by
  cases calls with
  | nil => cases member
  | cons first rest =>
      rcases List.mem_cons.mp member with rfl | member
      · exact ⟨first, List.mem_cons_self, rfl⟩
      · exact ⟨call, List.mem_cons_of_mem first member, rfl⟩

theorem start_of_pending {call : Undertaking} (member : call ∈ pending history) :
    call.start <:+ history := by
  induction history generalizing call with
  | nil => cases member
  | cons event earlier ih =>
      have begun (member : call ∈ ⟨event :: earlier, []⟩ :: pending earlier) :
          call.start <:+ event :: earlier := by
        rcases List.mem_cons.mp member with rfl | member
        · exact List.suffix_rfl
        · exact (ih member).trans (List.suffix_cons event earlier)
      cases event with
      | gave v =>
          obtain ⟨former, member, same⟩ := start_of_give member
          rw [← same]
          exact (ih (List.mem_of_mem_tail member)).trans (List.suffix_cons _ earlier)
      | entered | bound => exact (ih member).trans (List.suffix_cons _ earlier)
      | evaluated | applied => exact begun member

theorem Ends.start_suffix (ends : Ends history start v earlier) : start <:+ history := by
  obtain ⟨moment, given, around, inside⟩ := ends
  have member : ⟨start, given⟩ ∈ pending earlier := by
    rw [inside]
    exact List.mem_cons_self
  exact (start_of_pending member).trans ((List.suffix_cons _ earlier).trans moment)

end Quotations

theorem decides_same {v w : Value} {verdict : Bool} (list : v.isList = true)
    (compared : Value.identical v w = verdict) : Decides (Operation.same.of v w) verdict := by
  have same : v.same w = verdict := by
    rw [← compared]
    cases v <;> first | rfl | cases list
  exact (Operation.same_answers v w).decides_iff.mpr ⟨0, congrArg _ same⟩

theorem quotation_unique (lines : List (Nat × String)) {id : ObjectId} {head head' v w : Value}
    {operands operands' : List Value} {frame frame' : FrameId}
    {before before' earlier earlier' : List Event} (form : head.keyword? = some .quotation) :
    let history := (Recorded.evaluateAll Session.start.global lines
      ⟨Session.start.store, []⟩).2.history
    Lawful history →
    Ends history (.evaluated (.list id (head :: operands)) frame :: before) v earlier →
    Ends history (.evaluated (.list id (head' :: operands')) frame' :: before') w earlier' →
    v = w := by
  intro history lawful ends ends'
  obtain ⟨objects, held⟩ := occurs_held lines
  have code {items : List Value} {frame : FrameId} {before : List Event}
      (begun : .evaluated (.list id items) frame :: before <:+ history) :
      objects.holds (.list id items) :=
    held _ (.event (begun.subset List.mem_cons_self) List.mem_cons_self .here)
  have same := objects.unique (code ends.start_suffix) (code ends'.start_suffix)
    (decide_eq_true rfl)
  cases same
  have only := (ends.yields lawful).1 form
  have only' := (ends'.yields lawful).1 form
  exact (List.cons.inj (only.symm.trans only')).1

/-- What becomes of lists in a run: which applications make new ones, and between which places a
list goes without becoming another one. -/
structure Allocation (history : List Event) : Prop where
  given : ∀ v earlier, .gave v :: earlier <:+ history →
    ∃ event before, Ends history (event :: before) v earlier
  /-- A list that one of the list makers gives is none of those that are there by then. -/
  made : ∀ p arguments before v earlier, Primitive.makesLists p = true → v.isList = true →
    Ends history (.applied (.primitive p) arguments :: before) v earlier →
    ∀ old, Existed earlier old → Decides (Operation.same.of v old) false
  kept : ∀ p q, Relation.ReflTransGen (Hands history) p q → q.value? = p.value? ∧
    ∀ v w, p.value? = some v → q.value? = some w → v.isList = true →
      Decides (Operation.same.of v w) true
  read : ∀ name frame before v earlier path, v.isList = true →
    Ends history (.evaluated (.symbol name) frame :: before) v earlier →
    ∃ place, Hands history place ⟨.gave v :: earlier, 0, path⟩
  passed : ∀ procedure arguments earlier, .applied procedure arguments :: earlier <:+ history →
    ∀ index < arguments.length, ∀ path,
      ∃ place, Hands history place ⟨.applied procedure arguments :: earlier, index + 1, path⟩
  quoted : ∀ id head operands head' operands' frame frame' before before' v w earlier earlier',
    head.keyword? = some .quotation → v.isList = true →
    Ends history (.evaluated (.list id (head :: operands)) frame :: before) v earlier →
    Ends history (.evaluated (.list id (head' :: operands')) frame' :: before') w earlier' →
    Decides (Operation.same.of v w) true

/-- In every run of lines, the list makers make lists that are new, while quoting, binding, passing
and reading, `car` and `begin` hand on the list itself. The history in which places are found is
that of the run: it comes to the same results, and its events leave the same frames. -/
theorem lists_allocated (lines : List (Nat × String)) :
    let run := Recorded.evaluateAll Session.start.global lines ⟨Session.start.store, []⟩
    Session.start.evaluateAll lines = (run.1, ⟨run.2.store, Session.start.global⟩) ∧
      run.2.store.frames = (recalled run.2.history).frames ∧ Allocation run.2.history := by
  intro run
  have accounted : run.2.Accounted :=
    Recorded.evaluateAll_accounted Session.start.global lines Session.start_accounted
  have lawful := accounted.lawful
  refine ⟨Session.start.evaluateAll_recorded lines [], accounted.frames, ?_, ?_, ?_, ?_, ?_, ?_⟩
  · intro v earlier moment
    obtain ⟨event, before, given, around, inside, -⟩ := (lawful.suffix moment).1
    exact ⟨event, before, moment, given, around, inside⟩
  · intro p arguments before v earlier maker list ends old existed
    exact decides_same list ((ends.yields lawful).2.2.2 maker list old existed)
  · intro p q chain
    have same := Hands.keeps_all lawful chain
    refine ⟨same, fun v w first last list => ?_⟩
    obtain rfl : v = w := Option.some.inj (first.symm.trans (same.symm.trans last))
    exact decides_same list (Value.identical_self v)
  · intro name frame before v earlier path list ends
    exact ends.exists_hands lawful list path
  · intro procedure arguments earlier applied index there path
    exact lawful.exists_hands applied there path
  · intro id head operands head' operands' frame frame' before before' v w earlier earlier' form
      list ends ends'
    obtain rfl := quotation_unique lines form lawful ends ends'
    exact decides_same list (Value.identical_self v)

/-- A list that is quoted in one line and read in the next, where `longer` is made from it. -/
def kept : Value := .list 2 [.int 1]

def longer : Value := .list 6 [.int 0, .int 1]

def keptForm : Value := .list 3 [.symbol "quote", kept]

def longerForm : Value := .list 5 [.symbol "cons", .int 0, .symbol "x"]

def keptQuoting : List Event :=
  [.evaluated keptForm 0, .evaluated (.list 4 [.symbol "define", .symbol "x", keptForm]) 0]

def keptBinding : List Event := .bound 0 "x" kept :: .gave kept :: keptQuoting

def longerStart : List Event :=
  [.gave (.int 0), .evaluated (.int 0) 0, .gave (.primitive (.operation .cons)),
    .evaluated (.symbol "cons") 0, .evaluated longerForm 0, .gave .nothing] ++ keptBinding

def keptReading : List Event := .gave kept :: .evaluated (.symbol "x") 0 :: longerStart

def keptPassing : List Event :=
  .applied (.primitive (.operation .cons)) [.int 0, kept] :: keptReading

def keptHistory : List Event := .gave longer :: .gave longer :: keptPassing

theorem Recorded.outcome_symbol {store : Store} {name : String} {frame : FrameId} {v : Value}
    (looked : store.lookup? name frame = some v) (assigned : v ≠ .unbound) (depth : Nat)
    (history : List Event) :
    (evaluate (depth + 1) (.symbol name) frame).outcome ⟨store, history⟩ =
      (.ok v, ⟨store, .gave v :: .evaluated (.symbol name) frame :: history⟩) := by
  have read : (MiniLisp.evaluate (depth + 1) (.symbol name) frame).outcome store =
      (.ok v, store) := by
    rw [MiniLisp.evaluate, Action.outcome_read, looked]
    cases v <;> first | rfl | exact absurd rfl assigned
  rw [evaluate, noted, outcome_bind, outcome_note]
  dsimp only
  · rw [outcome_bind, outcome_lift, read]
    rfl
  · rintro _ _ _ ⟨⟩

section Kept

variable {store : Store}

theorem find?_kept (inside : 0 < store.frames.size) :
    (store.define 0 "x" kept).find? "x" 0 = some 0 :=
  Store.find?_own (Option.isSome_of_eq_some (Store.get?_define_self inside))

theorem lookup?_kept (inside : 0 < store.frames.size) :
    (store.define 0 "x" kept).lookup? "x" 0 = some kept := by
  rw [Store.lookup?, find?_kept inside]
  exact Store.get?_define_self inside

theorem history_longer (next : store.nextId = 6)
    (cons_bound : store.lookup? "cons" 0 = some (.primitive (.operation .cons)))
    (kept_bound : store.lookup? "x" 0 = some kept) :
    ((Recorded.evaluate 9 longerForm 0).outcome
      ⟨store, .gave .nothing :: keptBinding⟩).2.history = keptHistory := by
  have plain : Value.keyword? (.symbol "cons") = none := by decide
  have operator := Recorded.outcome_symbol cons_bound nofun 7
  have item (history : List Event) :
      (Recorded.evaluate 8 (.int 0) 0).outcome ⟨store, history⟩ =
        (.ok (.int 0), ⟨store, .gave (.int 0) :: .evaluated (.int 0) 0 :: history⟩) := rfl
  have name := Recorded.outcome_symbol kept_bound nofun 7
  rw [longerForm, Recorded.evaluate, plain]
  simp only [Recorded.noted, Recorded.outcome_bind, Recorded.outcome_note, List.mapM_cons,
    List.mapM_nil, Recorded.outcome_pure, operator, item, name]
  rw [keptHistory, longer, ← next]
  rfl

end Kept

def keptLines : List (Nat × String) := [(9, "(define x (quote (1)))"), (9, "(cons 0 x)")]

theorem history_kept : (Recorded.evaluateAll Session.start.global keptLines
    ⟨Session.start.store, []⟩).2.history = keptHistory := by
  have define_read : parse 9 "(define x (quote (1)))" =
      .ok (.list [.symbol "define", .symbol "x", .list [.symbol "quote", .list [.int 1]]]) := by
    with_unfolding_all rfl
  have cons_read : parse 9 "(cons 0 x)" = .ok (.list [.symbol "cons", .int 0, .symbol "x"]) := by
    with_unfolding_all rfl
  have defined : (Recorded.evaluateLine 9 "(define x (quote (1)))" Session.start.global).outcome
      ⟨Session.start.store, []⟩ =
        (.ok .nothing, ⟨{ Session.start.store with nextId := 5 }.define 0 "x" kept,
          .gave .nothing :: keptBinding⟩) := by
    rw [Recorded.evaluateLine_read define_read]
    rfl
  have inside : 0 < ({ Session.start.store with nextId := 6 } : Store).frames.size :=
    Nat.zero_lt_one
  rw [keptLines, Recorded.evaluateAll, defined]
  dsimp only
  rw [Recorded.evaluateAll, Recorded.evaluateLine_read cons_read]
  exact history_longer rfl (by with_unfolding_all rfl) (lookup?_kept inside)

theorem kept_handed :
    Relation.ReflTransGen (Hands keptHistory) ⟨keptQuoting, 0, [1]⟩ ⟨keptPassing, 2, []⟩ := by
  have passing : keptPassing <:+ keptHistory := List.suffix_append [_, _] keptPassing
  have reading : keptReading <:+ keptHistory := (List.suffix_cons _ _).trans passing
  have binding : keptBinding <:+ keptHistory :=
    (List.suffix_append [_, _, _, _, _, _, _, _] keptBinding).trans reading
  have quoting : .gave kept :: keptQuoting <:+ keptHistory := (List.suffix_cons _ _).trans binding
  have quoted : Hands keptHistory ⟨keptQuoting, 0, [1]⟩ ⟨.gave kept :: keptQuoting, 0, []⟩ :=
    .quoted rfl ⟨quoting, [], _, rfl⟩
  have bound : Hands keptHistory ⟨.gave kept :: keptQuoting, 0, []⟩ ⟨keptBinding, 0, []⟩ :=
    .bound binding
  have stored : Stored "x" 0 (.evaluated (.symbol "x") 0 :: longerStart) keptBinding 0 :=
    .later nofun (.passing (by simp [Event.Writes]) (.bound kept _))
  have inside : 0 < Session.start.store.frames.size := Nat.zero_lt_one
  have read : Hands keptHistory ⟨keptBinding, 0, []⟩ ⟨keptReading, 0, []⟩ :=
    .read ⟨reading, [], _, rfl⟩ (find?_kept inside) stored
  have plain : Value.keyword? (.symbol "cons") = none := by decide
  have passed : Hands keptHistory ⟨keptReading, 0, []⟩ ⟨keptPassing, 2, []⟩ :=
    .passed plain passing rfl rfl
  exact .tail (.tail (.tail (.single quoted) bound) read) passed

theorem keptLines_allocated :
    let history := (Recorded.evaluateAll Session.start.global keptLines
      ⟨Session.start.store, []⟩).2.history
    history = keptHistory ∧ Place.value? ⟨keptQuoting, 0, [1]⟩ = some kept ∧
      Relation.ReflTransGen (Hands history) ⟨keptQuoting, 0, [1]⟩ ⟨keptPassing, 2, []⟩ ∧
      Place.value? ⟨keptPassing, 2, []⟩ = some kept ∧
      Decides (Operation.same.of kept kept) true ∧
      Ends history keptPassing longer keptPassing ∧ Existed keptPassing kept ∧
      Decides (Operation.same.of longer kept) false := by
  intro history
  have same : history = keptHistory := history_kept
  have chain : Relation.ReflTransGen (Hands history)
      ⟨keptQuoting, 0, [1]⟩ ⟨keptPassing, 2, []⟩ := by
    rw [same]
    exact kept_handed
  have ends : Ends history keptPassing longer keptPassing := by
    rw [same]
    exact ⟨List.suffix_cons _ _, [], _, rfl⟩
  have existed : Existed keptPassing kept :=
    ⟨kept, .here, .inl ⟨_, List.mem_cons_self, by simp [Event.values]⟩⟩
  obtain ⟨-, -, allocation⟩ := lists_allocated keptLines
  obtain ⟨kept_value, one⟩ := allocation.kept _ _ chain
  exact ⟨same, rfl, chain, kept_value, one kept kept rfl rfl rfl, ends, existed,
    allocation.made (.operation .cons) _ _ longer _ rfl rfl ends kept existed⟩

end MiniLisp
