import MiniLisp.Proofs.Succession

namespace MiniLisp

open List (Forall₂)

structure Chronicle.Receives (chronicle : Chronicle) (value : Value) (after : Chronicle) :
    Prop where
  known : value.Known after.store.nextId
  gave : GaveAt after.history value
  under : pending after.history = give after.history (pending chronicle.history)

/-- What began with the event is under way, with nothing inside of it. -/
def Inside (event : Event) (earlier : List Event) (chronicle : Chronicle) : Prop :=
  ∃ given, pending chronicle.history = ⟨event :: earlier, given⟩ :: pending earlier

theorem Inside.receives {event : Event} {earlier : List Event} {chronicle after : Chronicle}
    {v : Value} (inside : Inside event earlier chronicle) (received : chronicle.Receives v after) :
    Inside event earlier after := by
  obtain ⟨given, inside⟩ := inside
  refine ⟨given ++ [after.history], ?_⟩
  rw [received.under, inside, give]

structure Concludes (event : Event) (earlier : List Event) (value : Value) (after : Chronicle) :
    Prop where
  known : value.Known after.store.nextId
  inside : Inside event earlier after
  yields : Yields after.history value event

namespace Recorded

variable {α β : Type}

/-- The run leaves a chronicle that is accounted for, and what it gives is as it should be. -/
structure Obeys (chronicle : Chronicle) (run : Recorded α) (post : α → Chronicle → Prop) :
    Prop where
  accounted : (run.outcome chronicle).2.Accounted
  grown : chronicle.store.nextId ≤ (run.outcome chronicle).2.store.nextId
  ended : ∀ x, (run.outcome chronicle).1 = .ok x → post x (run.outcome chronicle).2

variable {chronicle : Chronicle} {post : α → Chronicle → Prop}

theorem obeys_of_outcome {run : Recorded α} {result : Except Failure α} {after : Chronicle}
    (come : run.outcome chronicle = (result, after)) (accounted : after.Accounted)
    (grown : chronicle.store.nextId ≤ after.store.nextId)
    (ended : ∀ x, result = .ok x → post x after) :
    Obeys chronicle run post := by
  constructor <;> rw [come] <;> assumption

theorem obeys_pure (accounted : chronicle.Accounted) {x : α} (ended : post x chronicle) :
    Obeys chronicle (pure x) post := by
  refine ⟨accounted, Nat.le_refl _, ?_⟩
  rintro _ ⟨⟩
  exact ended

theorem obeys_throw (accounted : chronicle.Accounted) (failure : Failure) :
    Obeys chronicle (throw failure) post :=
  ⟨accounted, Nat.le_refl _, nofun⟩

theorem obeys_after {run : Recorded α} {next : α → Recorded β} {result : Except Failure α}
    {middle : Chronicle} {post : β → Chronicle → Prop}
    (come : run.outcome chronicle = (result, middle)) (accounted : middle.Accounted)
    (grown : chronicle.store.nextId ≤ middle.store.nextId)
    (onward : ∀ x, result = .ok x → Obeys middle (next x) post) :
    Obeys chronicle (run >>= next) post := by
  cases result with
  | error failure =>
      have failed : (run >>= next).outcome chronicle = (.error failure, middle) := by
        rw [outcome_bind, come]
      exact obeys_of_outcome failed accounted grown nofun
  | ok x =>
      obtain ⟨accounted', grown', ended⟩ := onward x rfl
      have same : (run >>= next).outcome chronicle = (next x).outcome middle := by
        rw [outcome_bind, come]
      exact obeys_of_outcome same accounted' (Nat.le_trans grown grown') ended

theorem obeys_bind {run : Recorded α} {next : α → Recorded β} {post' : β → Chronicle → Prop}
    (first : Obeys chronicle run post)
    (second : ∀ x middle, middle.Accounted → chronicle.store.nextId ≤ middle.store.nextId →
      post x middle → Obeys middle (next x) post') :
    Obeys chronicle (run >>= next) post' :=
  obeys_after rfl first.accounted first.grown fun x ended =>
    second x _ first.accounted first.grown (first.ended x ended)

theorem Obeys.imp {post' : α → Chronicle → Prop} {run : Recorded α}
    (obeys : Obeys chronicle run post) (weaker : ∀ x after, post x after → post' x after) :
    Obeys chronicle run post' :=
  ⟨obeys.accounted, obeys.grown, fun x ended => weaker x _ (obeys.ended x ended)⟩

theorem obeys_reportedBy (name : String) {run : Recorded α} (obeys : Obeys chronicle run post) :
    Obeys chronicle (reportedBy name run) post := by
  constructor <;> rw [outcome_reportedBy]
  · exact obeys.accounted
  · exact obeys.grown
  · exact fun x ended => obeys.ended x (ok_of_mapError ended)

theorem obeys_lift {action : Action α} (accounted : chronicle.Accounted)
    (same : (action.outcome chronicle.store).2.frames = chronicle.store.frames)
    (grown : chronicle.store.nextId ≤ (action.outcome chronicle.store).2.nextId)
    (ended : ∀ x, (action.outcome chronicle.store).1 = .ok x →
      post x ⟨(action.outcome chronicle.store).2, chronicle.history⟩) :
    Obeys chronicle (lift action) post :=
  ⟨accounted.moved same grown, grown, ended⟩

theorem obeys_failure (accounted : chronicle.Accounted) (failure : Failure) :
    Obeys chronicle (lift (throw failure)) post :=
  obeys_lift accounted rfl (Nat.le_refl _) nofun

theorem obeys_check {result : Except Failure α} {next : α → Recorded β}
    {post : β → Chronicle → Prop} (accounted : chronicle.Accounted)
    (onward : ∀ x, result = .ok x → Obeys chronicle (next x) post) :
    Obeys chronicle (lift (Action.ofExcept result) >>= next) post := by
  have come : (lift (Action.ofExcept result)).outcome chronicle = (result, chronicle) := by
    rw [outcome_lift, Action.outcome_ofExcept]
  exact obeys_after come accounted (Nat.le_refl _) onward

theorem obeys_noted {event : Event} {run : Recorded Value} (accounted : chronicle.Accounted)
    (begins : event.begins = true) (known : ∀ v ∈ event.values, v.Known chronicle.store.nextId)
    (follows : Follows event chronicle.history)
    (inner : Chronicle.Accounted ⟨chronicle.store, event :: chronicle.history⟩ →
      pending (event :: chronicle.history) =
        ⟨event :: chronicle.history, []⟩ :: pending chronicle.history →
      Obeys ⟨chronicle.store, event :: chronicle.history⟩ run (Concludes event chronicle.history)) :
    Obeys chronicle (noted event run) chronicle.Receives := by
  have same : recalled (event :: chronicle.history) = recalled chronicle.history := by
    cases event <;> first | rfl | cases begins
  have opens : pending (event :: chronicle.history) =
      ⟨event :: chronicle.history, []⟩ :: pending chronicle.history := by
    cases event <;> first | rfl | cases begins
  have begun := inner (accounted.note follows known same) opens
  refine obeys_after (outcome_note event chronicle) (accounted.note follows known same)
    (Nat.le_refl _) fun _ _ => ?_
  refine obeys_bind begun fun value middle accounted' _ concludes => ?_
  obtain ⟨known', ⟨given, inside⟩, yields⟩ := concludes
  have ends : Follows (.gave value) middle.history :=
    ⟨event, chronicle.history, given, _, inside, yields⟩
  have gave := accounted'.note ends (fun _ member => List.mem_singleton.mp member ▸ known') rfl
  refine obeys_after (outcome_note (.gave value) middle) gave (Nat.le_refl _) fun _ _ => ?_
  refine obeys_pure gave ⟨known', ⟨middle.history, rfl⟩, ?_⟩
  rw [pending, inside]
  rfl

/-- Items are worked on in turn, each at a moment when those before it have given their values. -/
theorem obeys_mapM {f : Value → Recorded Value} {items : List Value} {start : List Event}
    {around : List Undertaking} {given : List (List Event)} (accounted : chronicle.Accounted)
    (inside : pending chronicle.history = ⟨start, given⟩ :: around)
    (each : ∀ position item, items[position]? = some item → ∀ middle moments,
      middle.Accounted → chronicle.store.nextId ≤ middle.store.nextId →
      pending middle.history = ⟨start, given ++ moments⟩ :: around → moments.length = position →
      Obeys middle (f item) middle.Receives) :
    Obeys chronicle (items.mapM f) fun values after =>
      (∀ v ∈ values, v.Known after.store.nextId) ∧
        ∃ moments, pending after.history = ⟨start, given ++ moments⟩ :: around ∧
          Forall₂ GaveAt moments values := by
  induction items generalizing chronicle given with
  | nil =>
      refine obeys_pure accounted ⟨nofun, [], ?_, .nil⟩
      rw [inside, List.append_nil]
  | cons item items ih =>
      rw [List.mapM_cons]
      have first := each 0 item rfl chronicle [] accounted (Nat.le_refl _)
        (by rw [inside, List.append_nil]) rfl
      refine obeys_bind first fun v middle accounted' grown received => ?_
      have inside' : pending middle.history = ⟨start, given ++ [middle.history]⟩ :: around := by
        rw [received.under, inside, give]
      -- For the others one more value has been given, and their positions count from the next item.
      have others := ih accounted' inside' fun position other here later moments accounted''
          grown' within length =>
        each (position + 1) other here later (middle.history :: moments) accounted''
          (Nat.le_trans grown grown') (by rw [within, List.append_assoc]; rfl)
          (congrArg (· + 1) length)
      refine obeys_bind others fun values after accounted'' grown' gathered => ?_
      obtain ⟨known, moments, within, gave⟩ := gathered
      refine obeys_pure accounted'' ⟨?_, middle.history :: moments, ?_, .cons received.gave gave⟩
      · exact List.forall_mem_cons.mpr ⟨received.known.mono grown', known⟩
      · rw [within, List.append_assoc]
        rfl

section Forms

variable {depth : Nat} {evaluation : Evaluation} {frame : FrameId} {operands : List Value}
  {event : Event} {earlier : List Event}

def SoundEvaluation (evaluation : Evaluation) : Prop :=
  ∀ expr frame chronicle, Chronicle.Accounted chronicle → expr.Known chronicle.store.nextId →
    Obeys chronicle (evaluation expr frame) chronicle.Receives

theorem concludes_last {run : Recorded Value} (inside : Inside event earlier chronicle)
    (last : ∀ history v, GaveAt history v → Yields history v event)
    (obeys : Obeys chronicle run chronicle.Receives) :
    Obeys chronicle run (Concludes event earlier) :=
  obeys.imp fun v _ received =>
    ⟨received.known, inside.receives received, last _ v received.gave⟩

theorem obeys_conditional (evaluates : SoundEvaluation evaluation)
    (free : ∀ history v, Yields history v event) (accounted : chronicle.Accounted)
    (inside : Inside event earlier chronicle)
    (known : ∀ operand ∈ operands, operand.Known chronicle.store.nextId) :
    Obeys chronicle (conditional evaluation frame operands) (Concludes event earlier) := by
  have branch {middle : Chronicle} (accounted' : middle.Accounted)
      (grown : chronicle.store.nextId ≤ middle.store.nextId)
      (within : Inside event earlier middle) {expr : Value} (member : expr ∈ operands) :
      Obeys middle (evaluation expr frame) (Concludes event earlier) :=
    concludes_last within (fun _ _ _ => free _ _)
      (evaluates expr frame middle accounted' ((known expr member).mono grown))
  unfold conditional
  split
  · refine obeys_bind (evaluates _ frame _ accounted (known _ (by simp)))
      fun verdict middle accounted' grown received => ?_
    have within := inside.receives received
    split
    · exact branch accounted' grown within (by simp)
    · exact obeys_pure accounted' ⟨Value.known_nothing, within, free _ _⟩
  · refine obeys_bind (evaluates _ frame _ accounted (known _ (by simp)))
      fun verdict middle accounted' grown received => ?_
    refine branch accounted' grown (inside.receives received) ?_
    split <;> simp
  · exact obeys_throw accounted _

def Binds (write : String → Value → FrameId → Recorded PUnit) : Prop :=
  ∀ name v frame chronicle, Chronicle.Accounted chronicle → GaveAt chronicle.history v →
    v.Known chronicle.store.nextId → Obeys chronicle (write name v frame) fun _ after =>
      pending after.history = pending chronicle.history

theorem binds_define : Binds define := by
  intro name v frame chronicle accounted gave known
  exact ⟨accounted.define frame name gave known, Nat.le_refl _, fun _ _ => rfl⟩

theorem binds_assign : Binds assign := by
  intro name v frame chronicle accounted gave known
  have assigned := outcome_assign name v frame chronicle
  cases found : chronicle.store.find? name frame with
  | none =>
      rw [found] at assigned
      exact obeys_of_outcome assigned accounted (Nat.le_refl _) nofun
  | some owner =>
      rw [found] at assigned
      exact obeys_of_outcome assigned (accounted.define owner name gave known) (Nat.le_refl _)
        fun _ _ => rfl

theorem obeys_binding (evaluates : SoundEvaluation evaluation) {form : Keyword}
    {write : String → Value → FrameId → Recorded PUnit} (binds : Binds write)
    (free : ∀ history v, Yields history v event) (accounted : chronicle.Accounted)
    (inside : Inside event earlier chronicle)
    (known : ∀ operand ∈ operands, operand.Known chronicle.store.nextId) :
    Obeys chronicle (binding depth form write evaluation frame operands)
      (Concludes event earlier) := by
  unfold binding
  split
  · rename_i target expr
    refine obeys_check accounted fun name _ => ?_
    refine obeys_bind (evaluates expr frame _ accounted (known _ (by simp)))
      fun v middle accounted' _ received => ?_
    have within := inside.receives received
    refine obeys_bind (binds name v frame middle accounted' received.gave received.known)
      fun _ after accounted'' _ same => ?_
    refine obeys_pure accounted'' ⟨Value.known_nothing, ?_, free _ _⟩
    rw [Inside, same]
    exact within
  · exact obeys_throw accounted _

theorem obeys_quotation (accounted : chronicle.Accounted) (inside : Inside event earlier chronicle)
    (known : ∀ operand ∈ operands, operand.Known chronicle.store.nextId)
    (datum : ∀ v, operands = [v] → Yields chronicle.history v event) :
    Obeys chronicle (lift (SpecialForm.quotation operands)) (Concludes event earlier) := by
  unfold SpecialForm.quotation
  split
  · rename_i quoted
    refine obeys_lift accounted rfl (Nat.le_refl _) ?_
    rintro _ ⟨⟩
    exact ⟨known quoted (List.mem_singleton_self quoted), inside, datum quoted rfl⟩
  · exact obeys_failure accounted _

theorem obeys_abstraction (free : ∀ history v, Yields history v event)
    (accounted : chronicle.Accounted) (inside : Inside event earlier chronicle)
    (known : ∀ operand ∈ operands, operand.Known chronicle.store.nextId) :
    Obeys chronicle (lift (SpecialForm.abstraction depth frame operands))
      (Concludes event earlier) := by
  unfold SpecialForm.abstraction
  split
  · rename_i id parameters body
    rw [lift_bind]
    refine obeys_check accounted fun names _ => ?_
    refine obeys_lift accounted rfl (Nat.le_succ _) ?_
    rintro v ⟨⟩
    have made := (known body (by simp)).mono (Nat.le_succ _)
    exact ⟨Value.known_closure made _ names frame, inside, free _ _⟩
  · rw [lift_bind]
    refine obeys_check accounted fun mention _ => ?_
    exact obeys_failure accounted _
  · exact obeys_failure accounted _

theorem obeys_specialForm (evaluates : SoundEvaluation evaluation) {id : ObjectId} {head : Value}
    {keyword : Keyword} (form : head.keyword? = some keyword)
    (begins : event = .evaluated (.list id (head :: operands)) frame)
    (accounted : chronicle.Accounted) (inside : Inside event earlier chronicle)
    (known : ∀ operand ∈ operands, operand.Known chronicle.store.nextId) :
    Obeys chronicle (specialForm depth evaluation frame operands keyword)
      (Concludes event earlier) := by
  have free (other : keyword ≠ .quotation) (history : List Event) (v : Value) :
      Yields history v event := by
    subst begins
    refine ⟨fun quoted => ?_, fun combined => ?_⟩
    · exact absurd (Option.some.inj (form.symm.trans quoted)) other
    · cases form.symm.trans combined
  cases keyword with
  | quotation =>
      refine obeys_quotation accounted inside known fun v only => ?_
      subst begins
      refine ⟨fun _ => only, fun combined => ?_⟩
      cases form.symm.trans combined
  | conditional => exact obeys_conditional evaluates (free (by decide)) accounted inside known
  | definition =>
      exact obeys_binding evaluates binds_define (free (by decide)) accounted inside known
  | assignment =>
      exact obeys_binding evaluates binds_assign (free (by decide)) accounted inside known
  | abstraction => exact obeys_abstraction (free (by decide)) accounted inside known

theorem obeys_constant {expr : Value} (notForm : ∀ id head operands,
    expr ≠ .list id (head :: operands)) (accounted : chronicle.Accounted)
    (inside : Inside (.evaluated expr frame) earlier chronicle)
    (known : expr.Known chronicle.store.nextId) :
    Obeys chronicle (lift (MiniLisp.evaluate (depth + 1) expr frame))
      (Concludes (.evaluated expr frame) earlier) := by
  unfold MiniLisp.evaluate
  split
  · rename_i name
    refine obeys_lift accounted ?_ ?_ fun v given => ?_
    · rw [Action.outcome_read]
    · exact Nat.le_of_eq (by rw [Action.outcome_read])
    · rw [Action.outcome_read] at given ⊢
      dsimp only at given
      split at given
      · cases given
      · cases given
      · rename_i assigned found
        cases given
        obtain ⟨owner, -, bound⟩ := Store.lookup?_bound found
        refine ⟨accounted.bindings owner name v bound, inside, assigned, ?_⟩
        rw [Store.lookup?_of_frames accounted.frames] at found
        exact found
  · exact obeys_failure accounted _
  · exact absurd rfl (notForm _ _ _)
  · rename_i notName _ _
    refine obeys_lift accounted rfl (Nat.le_refl _) ?_
    rintro v ⟨⟩
    refine ⟨known, inside, ?_⟩
    cases expr with
    | symbol name => exact absurd rfl (notName name)
    | list id items =>
        cases items with
        | nil => trivial
        | cons head operands => exact absurd rfl (notForm id head operands)
    | _ => trivial

end Forms

section Applications

variable {depth : Nat} {arguments : List Value} {earlier : List Event}

def SoundApplication (depth : Nat) : Prop :=
  ∀ procedure arguments chronicle, Chronicle.Accounted chronicle →
    (∀ v ∈ procedure :: arguments, v.Known chronicle.store.nextId) →
    Follows (.applied procedure arguments) chronicle.history →
    Obeys chronicle (apply depth procedure arguments) chronicle.Receives

theorem obeys_answer {p : Primitive} {result : Except Failure Answer}
    (accounted : chronicle.Accounted)
    (inside : Inside (.applied (.primitive p) arguments) earlier chronicle)
    (known : ∀ answer, result = .ok answer → ∀ part ∈ answer.parts,
      part.Known chronicle.store.nextId)
    (yields : ∀ answer, result = .ok answer → Yields chronicle.history
      (answer.toValue chronicle.store.nextId).1 (.applied (.primitive p) arguments)) :
    Obeys chronicle (lift (do Action.allocate (← Action.ofExcept result)))
      (Concludes (.applied (.primitive p) arguments) earlier) := by
  rw [lift_bind]
  refine obeys_check accounted fun answer answered => ?_
  refine obeys_lift accounted rfl (le_answer _ answer) ?_
  rintro _ ⟨⟩
  exact ⟨Value.known_answer (known answer answered), inside, yields answer answered⟩

theorem given_of_car {answer : Answer}
    (answered : Operation.car.answer depth arguments = .ok answer) :
    ∃ id first rest, arguments = [.list id (first :: rest)] ∧ answer = .given first := by
  rcases arguments with _ | ⟨x, _ | ⟨y, others⟩⟩
  · cases answered
  · have answered : Value.car depth x = .ok answer := answered
    unfold Value.car at answered
    split at answered
    · cases answered
    · cases answered
      exact ⟨_, _, _, rfl, rfl⟩
    · exact absurd answered not_ok_of_refuse
  · cases answered

theorem toValue_last (next : ObjectId) :
    ((Value.last arguments).toValue next).1 = arguments.getLast?.getD .nothing := by
  unfold Value.last
  cases arguments.getLast? <;> rfl

theorem yields_operation {operation : Operation} {answer : Answer}
    (accounted : chronicle.Accounted) (answered : operation.answer depth arguments = .ok answer) :
    Yields chronicle.history (answer.toValue chronicle.store.nextId).1
      (.applied (.primitive (.operation operation)) arguments) := by
  refine ⟨?_, ?_, ?_, fun maker list old existed => ?_⟩
  · rintro ⟨⟩
    obtain ⟨id, first, rest, rfl, rfl⟩ := given_of_car answered
    exact ⟨id, rest, rfl⟩
  · rintro ⟨⟩
    cases answered
    exact (toValue_last _).symm
  · rintro ⟨⟩
  · rcases isNew_of_maker maker answered with ⟨items, rfl⟩ | other
    · exact accounted.unlike_of_existed existed (Nat.le_refl _) items
    · rw [other] at list
      cases list

theorem obeys_direct {procedure : Value}
    (notClosure : ∀ id parameters body frame, procedure ≠ .closure id parameters body frame)
    (notApply : ∀ f items, procedure = .primitive .apply → arguments ≠ [f, items])
    (notMap : ∀ f items, procedure = .primitive .map → arguments ≠ [f, items])
    (accounted : chronicle.Accounted)
    (inside : Inside (.applied procedure arguments) earlier chronicle)
    (known : ∀ v ∈ arguments, v.Known chronicle.store.nextId) :
    Obeys chronicle (lift (MiniLisp.apply (depth + 1) procedure arguments))
      (Concludes (.applied procedure arguments) earlier) := by
  unfold MiniLisp.apply
  split
  · exact absurd rfl (notClosure _ _ _ _)
  · rename_i p
    change Obeys chronicle (reportedBy p.name (lift _)) _
    refine obeys_reportedBy p.name ?_
    split
    · exact obeys_answer accounted inside
        (fun _ answered => keep_of_operation answered _ Value.Known.items known)
        fun _ answered => yields_operation accounted answered
    · refine obeys_answer accounted inside
        (fun _ answered => keep_of_function answered _ Value.Known.items known) fun _ _ => ?_
      refine ⟨?_, ?_, ?_, ?_⟩ <;> rintro ⟨⟩
    · rename_i value
      rw [lift_bind]
      obtain ⟨text, printed⟩ := after_print depth value chronicle
      have accounted' : Chronicle.Accounted ⟨chronicle.store.write text, chronicle.history⟩ :=
        accounted.moved rfl (Nat.le_refl _)
      have come : (lift (Action.printLine depth value)).outcome chronicle =
          (((lift (Action.printLine depth value)).outcome chronicle).1,
            ⟨chronicle.store.write text, chronicle.history⟩) := by
        rw [← printed]
      refine obeys_after come accounted' (Nat.le_refl _) fun _ _ => ?_
      refine obeys_lift accounted' rfl (Nat.le_refl _) ?_
      rintro _ ⟨⟩
      refine ⟨Value.known_nothing, inside, ?_, ?_, ?_, ?_⟩ <;> rintro ⟨⟩
    · exact absurd rfl (notApply _ _ rfl)
    · exact absurd rfl (notMap _ _ rfl)
    · exact obeys_failure accounted _
  · rw [lift_bind]
    refine obeys_check accounted fun text _ => ?_
    exact obeys_failure accounted _

theorem list_of_listArgument {sentence : String} {value : Value} {items : List Value}
    (listed : listArgument depth sentence value = .ok items) : ∃ id, value = .list id items := by
  unfold listArgument at listed
  split at listed
  · cases listed
    exact ⟨_, rfl⟩
  · exact absurd listed not_ok_of_refuse

theorem obeys_apply (applies : SoundApplication depth) {procedure items : Value}
    (accounted : chronicle.Accounted)
    (inside : Inside (.applied (.primitive .apply) [procedure, items]) earlier chronicle)
    (known : ∀ v ∈ [procedure, items], v.Known chronicle.store.nextId) :
    Obeys chronicle (do
        apply depth procedure
          (← lift (Action.ofExcept (listArgument depth "apply expects a list of arguments" items))))
      (Concludes (.applied (.primitive .apply) [procedure, items]) earlier) := by
  refine obeys_check accounted fun arguments listed => ?_
  obtain ⟨id, rfl⟩ := list_of_listArgument listed
  have last (history : List Event) (v : Value) (gave : GaveAt history v) :
      Yields history v (.applied (.primitive .apply) [procedure, .list id arguments]) := by
    refine ⟨?_, ?_, fun _ => gave, ?_⟩ <;> rintro ⟨⟩
  refine concludes_last inside last (applies procedure arguments _ accounted ?_ ?_)
  · refine List.forall_mem_cons.mpr ⟨known procedure (by simp), fun v member => ?_⟩
    exact (known (.list id arguments) (by simp)).operand member
  · obtain ⟨given, inside⟩ := inside
    exact ⟨_, _, inside, id, rfl⟩

theorem obeys_map (applies : SoundApplication depth) {procedure items : Value}
    (accounted : chronicle.Accounted)
    (inside : pending chronicle.history =
      ⟨.applied (.primitive .map) [procedure, items] :: earlier, []⟩ :: pending earlier)
    (known : ∀ v ∈ [procedure, items], v.Known chronicle.store.nextId) :
    Obeys chronicle (do
        let items ← lift (Action.ofExcept (listArgument depth "map expects a list" items))
        let results ← items.mapM fun item => apply depth procedure [item]
        lift (Action.allocate (.list results)))
      (Concludes (.applied (.primitive .map) [procedure, items]) earlier) := by
  refine obeys_check accounted fun items listed => ?_
  obtain ⟨id, rfl⟩ := list_of_listArgument listed
  refine obeys_bind (obeys_mapM accounted inside ?_) ?_
  · intro position item here middle moments accounted' grown within passed
    refine applies procedure [item] middle accounted' ?_ ?_
    · refine List.forall_mem_cons.mpr ⟨(known procedure (by simp)).mono grown, fun v member => ?_⟩
      obtain rfl := List.mem_singleton.mp member
      exact ((known (.list id items) (by simp)).operand (List.mem_of_getElem? here)).mono grown
    · exact ⟨_, _, within, id, items, item, rfl, passed ▸ here, rfl⟩
  · rintro results after accounted' - ⟨known', moments, within, -⟩
    refine obeys_lift accounted' rfl (Nat.le_succ _) ?_
    rintro _ ⟨⟩
    refine ⟨Value.known_list known', ⟨_, within⟩, ?_, ?_, ?_, fun _ _ old existed => ?_⟩
    · rintro ⟨⟩
    · rintro ⟨⟩
    · rintro ⟨⟩
    · exact accounted'.unlike_of_existed existed (Nat.le_refl _) results

end Applications

theorem obeys_combination {depth : Nat} {evaluation : Evaluation}
    (evaluates : SoundEvaluation evaluation) (applies : SoundApplication depth) {id : ObjectId}
    {head : Value} {operands : List Value} {frame : FrameId} {earlier : List Event}
    (plain : head.keyword? = none) (accounted : chronicle.Accounted)
    (inside : pending chronicle.history =
      ⟨.evaluated (.list id (head :: operands)) frame :: earlier, []⟩ :: pending earlier)
    (known : ∀ v ∈ head :: operands, v.Known chronicle.store.nextId) :
    Obeys chronicle (do
        let procedure ← evaluation head frame
        let arguments ← operands.mapM fun operand => evaluation operand frame
        apply depth procedure arguments)
      (Concludes (.evaluated (.list id (head :: operands)) frame) earlier) := by
  obtain ⟨first, others⟩ := List.forall_mem_cons.mp known
  refine obeys_bind (evaluates head frame chronicle accounted first)
    fun procedure middle accounted' grown received => ?_
  have operator : pending middle.history =
      ⟨.evaluated (.list id (head :: operands)) frame :: earlier, [middle.history]⟩ ::
        pending earlier := by
    rw [received.under, inside, give]
    rfl
  refine obeys_bind (obeys_mapM accounted' operator ?_) ?_
  · intro position operand here later moments accounted'' grown' _ _
    refine evaluates operand frame later accounted'' ?_
    exact (others operand (List.mem_of_getElem? here)).mono (Nat.le_trans grown grown')
  · rintro arguments after accounted'' grown' ⟨known', moments, within, gave⟩
    refine concludes_last ⟨_, within⟩ (fun history v gave => ?_)
      (applies procedure arguments after accounted'' ?_ ?_)
    · refine ⟨fun quoted => ?_, fun _ => gave⟩
      cases plain.symm.trans quoted
    · exact List.forall_mem_cons.mpr ⟨received.known.mono grown', known'⟩
    · exact ⟨_, _, within, plain, .cons received.gave gave⟩

theorem obeys_closure {depth : Nat} (evaluates : SoundEvaluation (evaluate depth)) {id : ObjectId}
    {parameters : List String} {body : Value} {captured : FrameId} {arguments : List Value}
    {earlier : List Event} (accounted : chronicle.Accounted)
    (begun : chronicle.history =
      .applied (.closure id parameters body captured) arguments :: earlier)
    (known : body.Known chronicle.store.nextId) :
    Obeys chronicle (do
        let procedure := .closure id parameters body captured
        evaluate depth body (← enter procedure captured parameters arguments))
      (Concludes (.applied (.closure id parameters body captured) arguments) earlier) := by
  have inside : Inside (.applied (.closure id parameters body captured) arguments) earlier
      chronicle := ⟨[], by rw [begun]; rfl⟩
  have entered := accounted.enter begun
  refine obeys_after (outcome_enter _ captured parameters arguments chronicle) entered
    (Nat.le_refl _) fun frame _ => ?_
  exact concludes_last inside (fun _ _ gave => gave) (evaluates body frame _ entered known)

/-- By induction on the depth: what is inside of an evaluation or an application has less of it. -/
theorem run_obeys (depth : Nat) : SoundEvaluation (evaluate depth) ∧ SoundApplication depth := by
  induction depth with
  | zero =>
      constructor
      · intro expr frame chronicle accounted known
        unfold evaluate
        exact obeys_noted accounted rfl (fun v member => List.mem_singleton.mp member ▸ known)
          trivial fun begun _ => obeys_throw begun _
      · intro procedure arguments chronicle accounted known follows
        unfold apply
        exact obeys_noted accounted rfl known follows fun begun _ => obeys_throw begun _
  | succ depth ih =>
      obtain ⟨evaluates, applies⟩ := ih
      constructor
      · intro expr frame chronicle accounted known
        unfold evaluate
        refine obeys_noted accounted rfl (fun v member => List.mem_singleton.mp member ▸ known)
          trivial fun begun inside => ?_
        dsimp only
        split
        · rename_i id head operands
          have each : ∀ v ∈ head :: operands, v.Known chronicle.store.nextId :=
            fun v member => known.operand member
          split
          · rename_i keyword form
            exact obeys_specialForm evaluates form rfl begun ⟨_, inside⟩
              (List.forall_mem_cons.mp each).2
          · rename_i plain
            exact obeys_combination evaluates applies plain begun inside each
        · rename_i notForm
          exact obeys_constant notForm begun ⟨_, inside⟩ known
      · intro procedure arguments chronicle accounted known follows
        unfold apply
        refine obeys_noted accounted rfl known follows fun begun inside => ?_
        dsimp only
        split
        · rename_i id parameters body captured arguments
          refine obeys_closure evaluates begun rfl ?_
          exact (known _ List.mem_cons_self).within (.body .here)
        · exact obeys_reportedBy _ (obeys_apply applies begun ⟨_, inside⟩
            (List.forall_mem_cons.mp known).2)
        · exact obeys_reportedBy _ (obeys_map applies begun inside
            (List.forall_mem_cons.mp known).2)
        · rename_i notClosure notApply notMap
          exact obeys_direct notClosure notApply notMap begun ⟨_, inside⟩
            (List.forall_mem_cons.mp known).2

theorem evaluateLine_accounted (depth : Nat) (line : String) (frame : FrameId)
    (accounted : chronicle.Accounted) :
    ((evaluateLine depth line frame).outcome chronicle).2.Accounted := by
  cases read : parse depth line with
  | error failure =>
      rw [evaluateLine_unread read]
      exact accounted
  | ok expr =>
      rw [evaluateLine_read read]
      have renumbered :
          (chronicle.renumber (expr.toValue chronicle.store.nextId).2).Accounted :=
        accounted.moved rfl (le_toValue chronicle.store.nextId expr)
      exact ((run_obeys depth).1 _ frame _ renumbered (Value.known_code expr _)).accounted

theorem evaluateAll_accounted (frame : FrameId) (lines : List (Nat × String))
    (accounted : chronicle.Accounted) : (evaluateAll frame lines chronicle).2.Accounted := by
  induction lines generalizing chronicle with
  | nil => exact accounted
  | cons line lines ih => exact ih (evaluateLine_accounted line.1 line.2 frame accounted)

end Recorded

theorem Session.start_accounted : Chronicle.Accounted ⟨Session.start.store, []⟩ where
  lawful := trivial
  frames := rfl
  events := nofun
  bindings := fun _ _ _ bound =>
    Value.known_of_standard (standardBindings_standard _
      (Session.bindingsOf_start (Bindings.mem_of_get? bound)))

end MiniLisp
