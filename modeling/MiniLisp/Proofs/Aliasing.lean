import MiniLisp.Proofs.Requests

/-!
Scopes that share frames. A name has the value that the first frame outward gives it. So a
definition in a frame is seen from every environment whose chain comes to this frame before another
one that binds the name, an assignment from every environment that finds the name in the same frame,
and neither from anywhere else.
-/

namespace MiniLisp

/-- No frame of the list that comes before the given one binds the name. -/
def Store.Exposes (store : Store) (name : String) (frames : List FrameId) (frame : FrameId) :
    Prop :=
  ∃ before after, frames = before ++ frame :: after ∧
    ∀ inner ∈ before, store.get? name inner = none

def Bindings.names (bindings : Bindings) : List String := bindings.map Prod.fst

theorem Bindings.names_set {name : String} {bindings : Bindings}
    (bound : (bindings.get? name).isSome) (value : Value) :
    (bindings.set name value).names = bindings.names := by
  induction bindings with
  | nil => simp [get?] at bound
  | cons first rest ih =>
      by_cases same : first.1 = name
      · simp [set, same, names]
      · have later : (get? name rest).isSome := by simpa [get?, same] using bound
        simpa [set, same, names] using ih later

namespace Store

open Environment (chain)

variable {store : Store} {name sought : String} {value : Value} {frame owner start : FrameId}
  {frames : List FrameId}

theorem not_exposes_nil : ¬ store.Exposes name [] frame := by
  simp [Exposes]

theorem exposes_cons_iff {first : FrameId} :
    store.Exposes name (first :: frames) frame ↔
      frame = first ∨ store.get? name first = none ∧ store.Exposes name frames frame := by
  constructor
  · rintro ⟨before, after, same, unbound⟩
    cases before with
    | nil =>
        simp only [List.nil_append, List.cons.injEq] at same
        exact .inl same.1.symm
    | cons inner before =>
        simp only [List.cons_append, List.cons.injEq] at same
        refine .inr ⟨?_, before, after, same.2, fun other member => ?_⟩
        · exact same.1 ▸ unbound inner List.mem_cons_self
        · exact unbound other (List.mem_cons_of_mem inner member)
  · rintro (rfl | ⟨unbound, before, after, rfl, others⟩)
    · exact ⟨[], frames, rfl, by simp⟩
    · exact ⟨first :: before, after, rfl, by simpa [unbound] using others⟩

theorem find?_eq_chain (store : Store) (name : String) (start : FrameId) :
    store.find? name start =
      (chain store start).find? fun frame => (store.get? name frame).isSome := by
  fun_induction store.find? name start with
  | case1 frame bound =>
      rw [chain]
      split
      · split <;> simp [get?, bound]
      · simp [get?, bound]
  | case2 frame unbound outer around inner ih =>
      rw [chain]
      simp [around, inner, get?, unbound, ih]
  | case3 frame unbound outer around notInner =>
      rw [chain]
      simp [around, notInner, get?, unbound]
  | case4 frame unbound outermost =>
      rw [chain]
      simp [outermost, get?, unbound]

/-- The frame found is the nearest one that binds the name. -/
theorem find?_eq_some_iff : store.find? name start = some owner ↔
    store.Exposes name (chain store start) owner ∧ (store.get? name owner).isSome := by
  rw [find?_eq_chain, List.find?_eq_some_iff_append]
  simp only [Exposes, Bool.not_eq_true', Option.isSome_eq_false_iff, Option.isNone_iff_eq_none]
  exact and_comm

theorem chain_define (store : Store) (frame : FrameId) (name : String) (value : Value)
    (start : FrameId) : chain (store.define frame name value) start = chain store start := by
  fun_induction chain store start with
  | case1 start outer around inner ih =>
      rw [chain]
      simp [around, inner, ih]
  | case2 start outer around notInner =>
      rw [chain]
      simp [around, notInner]
  | case3 start outermost =>
      rw [chain]
      simp [outermost]

section Define

theorem get?_define_self (inside : frame < store.frames.size) :
    (store.define frame name value).get? name frame = some value := by
  simp [get?_define, inside]

theorem get?_define_other (apart : sought ≠ name ∨ owner ≠ frame) :
    (store.define frame name value).get? sought owner = store.get? sought owner := by
  rw [get?_define, if_neg]
  rintro ⟨here, same, -⟩
  exact apart.elim (· same) (· here)

theorem find?_define_exposed (inside : frame < store.frames.size)
    (exposed : store.Exposes name frames frame) :
    (frames.find? fun other => ((store.define frame name value).get? name other).isSome) =
      some frame := by
  induction frames with
  | nil => exact absurd exposed not_exposes_nil
  | cons first rest ih =>
      by_cases here : first = frame
      · simp [here, get?_define_self inside]
      · obtain ⟨unbound, later⟩ := (exposes_cons_iff.mp exposed).resolve_left (Ne.symm here)
        rw [List.find?_cons, get?_define_other (.inr here), unbound]
        exact ih later

theorem find?_define_hidden (hidden : ¬ store.Exposes name frames frame) :
    (frames.find? fun other => ((store.define frame name value).get? name other).isSome) =
      frames.find? fun other => (store.get? name other).isSome := by
  induction frames with
  | nil => rfl
  | cons first rest ih =>
      rw [exposes_cons_iff, not_or, not_and] at hidden
      rw [List.find?_cons, List.find?_cons, get?_define_other (.inr (Ne.symm hidden.1))]
      cases bound : store.get? name first with
      | some old => rfl
      | none => exact ih (hidden.2 bound)

theorem lookup?_define_exposed (inside : frame < store.frames.size)
    (exposed : store.Exposes name (chain store start) frame) :
    (store.define frame name value).lookup? name start = some value := by
  rw [lookup?, find?_eq_chain, chain_define, find?_define_exposed inside exposed]
  exact get?_define_self inside

theorem lookup?_define_hidden (hidden : ¬ store.Exposes name (chain store start) frame) :
    (store.define frame name value).lookup? name start = store.lookup? name start := by
  have found : (store.define frame name value).find? name start = store.find? name start := by
    rw [find?_eq_chain, chain_define, find?_define_hidden hidden, find?_eq_chain]
  rw [lookup?, lookup?, found]
  cases nearest : store.find? name start with
  | none => rfl
  | some owner =>
      have apart : owner ≠ frame := by
        rintro rfl
        exact hidden (find?_eq_some_iff.mp nearest).1
      exact get?_define_other (.inr apart)

theorem lookup?_define_ne (apart : sought ≠ name) :
    (store.define frame name value).lookup? sought start = store.lookup? sought start := by
  have same : (store.define frame name value).get? sought = store.get? sought :=
    funext fun _ => get?_define_other (.inl apart)
  simp only [lookup?, find?_eq_chain, chain_define, same]

theorem lookup?_define (inside : frame < store.frames.size) (name : String) (value : Value)
    (start : FrameId) (sought : String) :
    (sought = name ∧ store.Exposes name (chain store start) frame →
      (store.define frame name value).lookup? sought start = some value) ∧
    (¬ (sought = name ∧ store.Exposes name (chain store start) frame) →
      (store.define frame name value).lookup? sought start = store.lookup? sought start) := by
  constructor
  · rintro ⟨rfl, exposed⟩
    exact lookup?_define_exposed inside exposed
  · intro other
    by_cases same : sought = name
    · subst same
      exact lookup?_define_hidden fun exposed => other ⟨rfl, exposed⟩
    · exact lookup?_define_ne same

theorem names_define (bound : (store.get? name frame).isSome) (other : FrameId) :
    ((store.define frame name value).bindingsOf other).names = (store.bindingsOf other).names := by
  rw [bindingsOf_define]
  split
  · rename_i here
    exact Bindings.names_set (here.1 ▸ bound) value
  · rfl

end Define

end Store

namespace Environment

def seen (depth : Nat) (store : Store) (env : FrameId) (name : String) : Except Failure Value :=
  ((lookup depth env (.symbol name)).outcome store).1

theorem seen_eq (depth : Nat) (store : Store) (env : FrameId) (name : String) :
    seen depth store env name = orUnbound name (store.lookup? name env) := by
  rw [seen, outcome_lookup]

theorem outcome_contains (depth : Nat) (env : FrameId) (name : String) (store : Store) :
    (contains depth env (.symbol name)).outcome store =
      (.ok (store.find? name env).isSome, store) := by
  rw [contains, Action.outcome_tryCatch, Action.outcome_bind, outcome_find]
  cases store.find? name env <;> rfl

/-- Whatever environments share their frames in whatever way. A definition in one of them is what
the name is from each environment on whose chain that one comes before any that binds the name, and
an assignment is what it is from each that finds the name in the same frame; from everywhere else,
and under every other name, all is as before. What is found is the nearest frame that binds the
name. Finding a name, looking it up, assigning it and asking for it succeed or fail together, and an
assignment that fails changes nothing, one that succeeds no names. -/
theorem writes_seen (depth : Nat) (store : Store) (env : FrameId) (inside : env < store.frames.size)
    (name : String) (value : Value) :
    let found (other : FrameId) := ((find depth other (.symbol name)).outcome store).1
    let defined := (define depth env (.symbol name) value).outcome store
    let assigned := (assign depth env (.symbol name) value).outcome store
    let asked := (contains depth env (.symbol name)).outcome store
    (defined.1 = .ok ⟨⟩ ∧ ∀ other sought,
      (sought = name ∧ store.Exposes name (chain store other) env →
        seen depth defined.2 other sought = .ok value) ∧
      (¬ (sought = name ∧ store.Exposes name (chain store other) env) →
        seen depth defined.2 other sought = seen depth store other sought)) ∧
    (∀ owner, found env = .ok owner → assigned.1 = .ok ⟨⟩ ∧
      (∀ other sought,
        (sought = name ∧ found other = .ok owner → seen depth assigned.2 other sought = .ok value) ∧
        (¬ (sought = name ∧ found other = .ok owner) →
          seen depth assigned.2 other sought = seen depth store other sought)) ∧
      ∀ frame, (assigned.2.bindingsOf frame).names = (store.bindingsOf frame).names) ∧
    (∀ owner, found env = .ok owner ↔
      store.Exposes name (chain store env) owner ∧ (store.get? name owner).isSome) ∧
    (asked = (.ok true, store) ∧ (∃ owner, found env = .ok owner) ∧
        (∃ v, seen depth store env name = .ok v) ∧ assigned.1 = .ok ⟨⟩ ∨
      asked = (.ok false, store) ∧ found env = .error (.unboundSymbol name) ∧
        seen depth store env name = .error (.unboundSymbol name) ∧
        assigned = (.error (.unboundSymbol name), store)) := by
  intro found defined assigned asked
  have finds (other owner : FrameId) :
      found other = .ok owner ↔ store.find? name other = some owner := by
    simp only [found, outcome_find, orUnbound_eq_ok]
  have assignment : assigned = _ := outcome_assign depth env name value store
  have question : asked = _ := outcome_contains depth env name store
  refine ⟨⟨rfl, fun other sought => ?_⟩, fun owner nearest => ?_, fun owner => ?_, ?_⟩
  · have written := Store.lookup?_define inside name value other sought
    simp only [seen_eq, defined, outcome_define]
    exact ⟨fun here => by rw [written.1 here]; rfl, fun elsewhere => by rw [written.2 elsewhere]⟩
  · rw [finds] at nearest
    rw [nearest] at assignment
    have bound := (Store.find?_eq_some_iff.mp nearest).2
    obtain ⟨old, here⟩ := Option.isSome_iff_exists.mp bound
    have there := store.lt_size_of_bound here
    -- A frame that binds the name is found where it is exposed.
    have exposed (other : FrameId) : found other = .ok owner ↔
        store.Exposes name (chain store other) owner := by
      rw [finds, Store.find?_eq_some_iff, and_iff_left bound]
    refine ⟨by rw [assignment]; rfl, fun other sought => ?_, fun frame => ?_⟩
    · have written := Store.lookup?_define there name value other sought
      simp only [exposed, seen_eq, assignment, Option.elim_some]
      exact ⟨fun here => by rw [written.1 here]; rfl, fun elsewhere => by rw [written.2 elsewhere]⟩
    · rw [assignment]
      exact Store.names_define bound frame
  · rw [finds, Store.find?_eq_some_iff]
  · simp only [seen_eq, assignment, question]
    cases nearest : store.find? name env with
    | none =>
        refine .inr ⟨rfl, ?_, ?_, rfl⟩
        · simp [found, outcome_find, nearest, orUnbound]
        · simp [Store.lookup?, nearest, orUnbound]
    | some owner =>
        have bound := (Store.find?_eq_some_iff.mp nearest).2
        obtain ⟨old, here⟩ := Option.isSome_iff_exists.mp bound
        refine .inl ⟨rfl, ⟨owner, (finds env owner).mpr nearest⟩, ⟨old, ?_⟩, rfl⟩
        simp [Store.lookup?, nearest, here, orUnbound]

/-- An outermost frame with two inside of it, one of which binds the name again, and one more inside
of the other one. -/
def family : Store :=
  ⟨#[⟨[("x", .int 1)], none⟩, ⟨[], some 0⟩, ⟨[("x", .int 2)], some 0⟩, ⟨[], some 1⟩], 2, ""⟩

theorem family_writes_seen :
    1 < family.frames.size ∧ 3 < family.frames.size ∧
      (let defined := ((define 9 1 (.symbol "x") (.int 5)).outcome family).2
      seen 9 defined 3 "x" = .ok (.int 5) ∧ seen 9 defined 2 "x" = .ok (.int 2) ∧
        seen 9 defined 0 "x" = .ok (.int 1)) ∧
      (let assigned := ((assign 9 3 (.symbol "x") (.int 7)).outcome family).2
      seen 9 assigned 0 "x" = .ok (.int 7) ∧ seen 9 assigned 2 "x" = .ok (.int 2)) := by
  have chains : chain family 0 = [0] ∧ chain family 1 = [1, 0] ∧ chain family 2 = [2, 0] ∧
      chain family 3 = [3, 1, 0] := by
    simp [chain, family, Store.outerOf]
  obtain ⟨outermost, -, beside, inner⟩ := chains
  obtain ⟨⟨-, defined⟩, -, -, -⟩ := writes_seen 9 family 1 (by decide) "x" (.int 5)
  obtain ⟨-, assigned, -, -⟩ := writes_seen 9 family 3 (by decide) "x" (.int 7)
  have outward : ((find 9 3 (.symbol "x")).outcome family).1 = .ok 0 := by
    rw [outcome_find, orUnbound_eq_ok, Store.find?_eq_chain, inner]
    rfl
  have top : ((find 9 0 (.symbol "x")).outcome family).1 = .ok 0 := by
    rw [outcome_find, orUnbound_eq_ok, Store.find?_eq_chain, outermost]
    rfl
  have own : ((find 9 2 (.symbol "x")).outcome family).1 = .ok 2 := by
    rw [outcome_find, orUnbound_eq_ok, Store.find?_eq_chain, beside]
    rfl
  obtain ⟨-, seenAfter, -⟩ := assigned 0 outward
  refine ⟨by decide, by decide, ⟨?_, ?_, ?_⟩, ?_, ?_⟩
  · refine (defined 3 "x").1 ⟨rfl, [3], [0], inner, ?_⟩
    simp [family, Store.get?, Store.bindingsOf, Bindings.get?]
  · refine ((defined 2 "x").2 fun exposed => ?_).trans ?_
    · simp [beside, Store.exposes_cons_iff, Store.not_exposes_nil] at exposed
    · rw [seen_eq, Store.lookup?, Store.find?_eq_chain, beside]
      rfl
  · refine ((defined 0 "x").2 fun exposed => ?_).trans ?_
    · simp [outermost, Store.exposes_cons_iff, Store.not_exposes_nil] at exposed
    · rw [seen_eq, Store.lookup?, Store.find?_eq_chain, outermost]
      rfl
  · exact (seenAfter 0 "x").1 ⟨rfl, top⟩
  · refine ((seenAfter 2 "x").2 fun both => ?_).trans ?_
    · have contrary := own.symm.trans both.2
      cases contrary
    · rw [seen_eq, Store.lookup?, Store.find?_eq_chain, beside]
      rfl

end Environment

end MiniLisp
