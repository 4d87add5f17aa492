import MiniLisp.Environment
import MiniLisp.Proofs.Closed

/-!
The heap of frames. A closure is bound in the frame that it has captured, so bindings go around in
circles; the frames around a frame do not, since each was made before the one that it is around and
is never exchanged. So a walk outward ends, in every store that one can come to.
-/

namespace MiniLisp

structure Links where
  outers : List (Option FrameId)

namespace Links

instance : Preorder Links where
  le := fun links later => links.outers <+: later.outers
  le_refl := fun links => List.prefix_refl links.outers
  le_trans := fun _ _ _ => List.IsPrefix.trans

variable {links later : Links} {frame outer : FrameId}

def count (links : Links) : Nat := links.outers.length

def Outward (links : Links) : Prop :=
  ∀ frame outer : FrameId, links.outers[frame]? = some (some outer) → outer < frame

def enter (links : Links) (outer : Option FrameId) : Links := ⟨links.outers ++ [outer]⟩

theorem count_mono (passed : links ≤ later) : links.count ≤ later.count :=
  List.IsPrefix.length_le passed

theorem le_enter (links : Links) (outer : Option FrameId) : links ≤ links.enter outer :=
  List.prefix_append links.outers [outer]

theorem getElem?_of_le (passed : links ≤ later) (inside : frame < links.count) :
    later.outers[frame]? = links.outers[frame]? := by
  obtain ⟨rest, same⟩ := passed
  rw [← same, List.getElem?_append_left inside]

theorem Outward.enter (outward : links.Outward) {outer : Option FrameId}
    (inside : ∀ frame, outer = some frame → frame < links.count) :
    (links.enter outer).Outward := by
  intro frame around linked
  rw [Links.enter, List.getElem?_append] at linked
  split at linked
  · exact outward frame around linked
  · rename_i new
    rw [List.getElem?_singleton] at linked
    split at linked
    · exact Nat.lt_of_lt_of_le (inside around (Option.some.inj linked)) (Nat.le_of_not_lt new)
    · cases linked

end Links

namespace Store

def links (store : Store) : Links := ⟨(store.frames.map Frame.outer).toList⟩

theorem count_links (store : Store) : store.links.count = store.frames.size := by
  simp [links, Links.count]

theorem getElem?_links (store : Store) (frame : FrameId) :
    store.links.outers[frame]? = store.frames[frame]?.map Frame.outer := by
  simp [links]

theorem outerOf_eq_links (store : Store) (frame : FrameId) :
    store.outerOf frame = store.links.outers[frame]?.join := by
  rw [getElem?_links, outerOf]
  cases store.frames[frame]? <;> rfl

@[simp] theorem links_define (store : Store) (frame : FrameId) (name : String) (value : Value) :
    (store.define frame name value).links = store.links := by
  have same : (store.define frame name value).links.outers = store.links.outers := by
    apply List.ext_getElem?
    intro other
    simp only [getElem?_links, define, Array.getElem?_modify]
    by_cases here : frame = other
    · simp [here, Option.map_map, Function.comp_def]
    · simp [here]
  exact congrArg Links.mk same

@[simp] theorem links_push (store : Store) (frame : Frame) :
    (store.push frame).2.links = store.links.enter frame.outer := by
  simp [links, Links.enter, push]

/-- Every frame is inside of an earlier one, if of any, and procedures have captured frames that
exist. -/
structure WellFormed (store : Store) : Prop where
  outward : store.links.Outward
  closed : store.Closed

variable {store : Store} {frame outer : FrameId}

theorem WellFormed.outer_lt (wellFormed : store.WellFormed)
    (around : store.outerOf frame = some outer) : outer < frame := by
  rw [outerOf_eq_links, Option.join_eq_some_iff] at around
  exact wellFormed.outward frame outer around

theorem WellFormed.define (wellFormed : store.WellFormed) (frame : FrameId) (name : String)
    {value : Value} (below : value.CapturesBelow store.frames.size) :
    (store.define frame name value).WellFormed where
  outward := by
    rw [links_define]
    exact wellFormed.outward
  closed := wellFormed.closed.define name frame below

theorem WellFormed.push (wellFormed : store.WellFormed) {frame : Frame}
    (inside : ∀ outer, frame.outer = some outer → outer < store.frames.size)
    (below : ∀ binding ∈ frame.bindings, binding.2.CapturesBelow store.frames.size) :
    (store.push frame).2.WellFormed where
  outward := by
    rw [links_push]
    exact wellFormed.outward.enter fun outer same => store.count_links ▸ inside outer same
  closed := wellFormed.closed.pushFrame below

theorem outerOf_of_le {later : Store} (passed : store.links ≤ later.links)
    (inside : frame < store.frames.size) : later.outerOf frame = store.outerOf frame := by
  rw [← count_links] at inside
  rw [outerOf_eq_links, outerOf_eq_links, Links.getElem?_of_le passed inside]

theorem size_mono {later : Store} (passed : store.links ≤ later.links) :
    store.frames.size ≤ later.frames.size := by
  rw [← count_links, ← count_links]
  exact Links.count_mono passed

end Store

def heapAlike (links : Links) (store other : Store) : Prop :=
  store = other ∧ store.links = links ∧ store.WellFormed

section Keeps

variable {α : Type} {links : Links} {action : Action α} {post : Nat → α → Prop}

theorem Keeps.linked (kept : Keeps closedDiscipline.alike links.count action post)
    (same : ∀ store, (action.outcome store).2.links = store.links) :
    Keeps heapAlike links action fun later => post later.count := by
  rintro store _ ⟨rfl, rfl, wellFormed⟩
  obtain ⟨count, -, -, ⟨-, size, closed⟩, given⟩ :=
    kept store store ⟨rfl, store.count_links.symm, wellFormed.closed⟩
  have after := same store
  have outward : (action.outcome store).2.links.Outward := after ▸ wellFormed.outward
  refine ⟨store.links, le_rfl, rfl, ⟨rfl, after, outward, closed⟩, fun x ended => ?_⟩
  change post store.links.count x
  have moved : count = store.links.count := by rw [← after, Store.count_links, size]
  rw [← moved]
  exact given x ended

end Keeps

def heapDiscipline : Discipline Links where
  alike := heapAlike
  value := fun links value => closedDiscipline.value links.count value
  code := fun links expr frame => closedDiscipline.code links.count expr frame
  value_lasting := fun passed => closedDiscipline.value_lasting (Links.count_mono passed)
  code_lasting := fun passed => closedDiscipline.code_lasting (Links.count_mono passed)
  nothing := closedDiscipline.nothing
  items := closedDiscipline.items
  datum := closedDiscipline.datum
  combination := closedDiscipline.combination
  branches := closedDiscipline.branches
  defined := closedDiscipline.defined
  assigned := closedDiscipline.assigned
  read := fun code => (closedDiscipline.read code).linked fun store => by
    rw [Action.outcome_read]
  define := fun code form free below =>
    (closedDiscipline.define code form free below).linked fun store => store.links_define _ _ _
  assign := fun {links id head name expr frame v} code form free below =>
    (closedDiscipline.assign code form free below).linked fun store => by
      rw [Action.outcome_assign, Store.assign?]
      cases store.find? name frame with
      | none => rfl
      | some owner => exact store.links_define owner name v
  makeClosure := fun code form => (closedDiscipline.makeClosure code form).linked fun _ => rfl
  extend := by
    rintro links id parameters body captured arguments below given store _ ⟨rfl, rfl, wellFormed⟩
    have inside : captured < store.links.count := below captured ⟨id, parameters, body, .here⟩
    obtain ⟨count, -, -, ⟨-, size, closed⟩, made⟩ := closedDiscipline.extend below given store store
      ⟨rfl, store.count_links.symm, wellFormed.closed⟩
    refine ⟨store.links.enter (some captured), Links.le_enter _ _, rfl, ⟨rfl, ?_, ?_, closed⟩, ?_⟩
    · exact store.links_push _
    · rw [Action.outcome_extend, Store.links_push]
      exact wellFormed.outward.enter fun frame same => Option.some.inj same ▸ inside
    · intro frame ended
      have code := made frame ended
      rw [← size, ← Store.count_links, Action.outcome_extend, Store.links_push] at code
      exact code
  allocate := fun below => (closedDiscipline.allocate below).linked fun _ => rfl
  write := fun text => (closedDiscipline.write text).linked fun _ => rfl

/-- An evaluation leaves a heap well formed and what is around its frames in place, also if it
fails. -/
theorem evaluate_wellFormed (depth : Nat) {expr : Value} {frame : FrameId} {store : Store}
    (wellFormed : store.WellFormed) (below : expr.CapturesBelow store.frames.size)
    (inside : frame < store.frames.size) :
    let ended := (evaluate depth expr frame).outcome store
    ended.2.WellFormed ∧ store.links ≤ ended.2.links ∧
      ∀ value, ended.1 = .ok value → value.CapturesBelow ended.2.frames.size := by
  intro ended
  rw [← store.count_links] at below inside
  have code : heapDiscipline.code store.links expr frame := ⟨below, inside⟩
  obtain ⟨later, passed, -, ⟨-, same, after⟩, given⟩ :=
    heapDiscipline.evaluate_keeps depth code store store ⟨rfl, rfl, wellFormed⟩
  have size : later.count = ended.2.frames.size := by rw [← same, Store.count_links]
  refine ⟨after, same ▸ passed, fun value result => ?_⟩
  rw [← size]
  exact given value result

/-- The loop that looks for a name: the frames that it visits from a frame on, and the one that binds
the name, if it gets to one. -/
inductive Walk (store : Store) (name : String) :
    FrameId → List FrameId → Option FrameId → Prop
  | found {frame : FrameId} (bound : (store.get? name frame).isSome) :
      Walk store name frame [frame] (some frame)
  | ended {frame : FrameId} (unbound : store.get? name frame = none)
      (outermost : store.outerOf frame = none) : Walk store name frame [frame] none
  | onward {frame outer : FrameId} {visited : List FrameId} {owner : Option FrameId}
      (unbound : store.get? name frame = none) (around : store.outerOf frame = some outer)
      (rest : Walk store name outer visited owner) : Walk store name frame (frame :: visited) owner

namespace Walk

variable {store : Store} {name : String} {frame : FrameId} {visited : List FrameId}
  {owner : Option FrameId}

theorem ends (wellFormed : store.WellFormed) (name : String) (frame : FrameId) :
    ∃ visited, Walk store name frame visited (store.find? name frame) := by
  fun_induction store.find? name frame with
  | case1 frame bound => exact ⟨[frame], .found bound⟩
  | case2 frame unbound outer around inner ih =>
      obtain ⟨visited, rest⟩ := ih
      exact ⟨frame :: visited, .onward (by simpa [Store.get?] using unbound) around rest⟩
  | case3 frame unbound outer around notInner => exact absurd (wellFormed.outer_lt around) notInner
  | case4 frame unbound outermost =>
      exact ⟨[frame], .ended (by simpa [Store.get?] using unbound) outermost⟩

theorem descends (wellFormed : store.WellFormed) (walk : Walk store name frame visited owner) :
    visited.Pairwise (· > ·) ∧ ∀ other ∈ visited, other ≤ frame := by
  induction walk with
  | found | ended => simp
  | @onward frame outer visited owner unbound around rest ih =>
      have older := wellFormed.outer_lt around
      constructor
      · refine List.pairwise_cons.mpr ⟨fun other member => ?_, ih.1⟩
        exact Nat.lt_of_le_of_lt (ih.2 other member) older
      · intro other member
        rcases List.mem_cons.mp member with rfl | member
        · exact Nat.le_refl _
        · exact Nat.le_trans (ih.2 other member) (Nat.le_of_lt older)

theorem prefix_chain (wellFormed : store.WellFormed) (walk : Walk store name frame visited owner) :
    visited <+: Environment.chain store frame := by
  induction walk with
  | @found frame bound =>
      rw [Environment.chain]
      split
      · split <;> simp
      · simp
  | ended unbound outermost => simp [Environment.chain, outermost]
  | onward unbound around rest ih =>
      rw [Environment.chain]
      simpa [around, wellFormed.outer_lt around] using ih

end Walk

end MiniLisp
