import MiniLisp.Library
import MiniLisp.Operation
import MiniLisp.Proofs.Agreement
import MiniLisp.Proofs.Reach

namespace MiniLisp

open List (Forall₂)

inductive Rejection.Like (texts : String → String → Prop) : Rejection → Rejection → Prop
  | same (reason : Rejection) : Like texts reason reason
  | expected (sentence : String) {got got' : String} (text : texts got got') :
      Like texts (.expected sentence got) (.expected sentence got')

inductive Failure.Like (texts : String → String → Prop) : Failure → Failure → Prop
  | same (failure : Failure) : Like texts failure failure
  | unboundSymbol {name name' : String} (text : texts name name') :
      Like texts (.unboundSymbol name) (.unboundSymbol name')
  | unassigned {name name' : String} (text : texts name name') :
      Like texts (.unassigned name) (.unassigned name')
  | nameExpected (form : Keyword) {got got' : String} (text : texts got got') :
      Like texts (.nameExpected form got) (.nameExpected form got')
  | parametersExpected {got got' : String} (text : texts got got') :
      Like texts (.parametersExpected got) (.parametersExpected got')
  | parameterExpected {got got' : String} (text : texts got got') :
      Like texts (.parameterExpected got) (.parameterExpected got')
  | notProcedure {got got' : String} (text : texts got got') :
      Like texts (.notProcedure got) (.notProcedure got')
  | unreported {reason reason' : Rejection} (like : Rejection.Like texts reason reason') :
      Like texts (.unreported reason) (.unreported reason')
  | rejected (primitive : String) {reason reason' : Rejection}
      (like : Rejection.Like texts reason reason') :
      Like texts (.rejected primitive reason) (.rejected primitive reason')

section

variable {texts : String → String → Prop} {failure failure' : Failure} {reason reason' : Rejection}

theorem Rejection.Like.kind (like : Rejection.Like texts reason reason') :
    reason.kind = reason'.kind := by
  cases like <;> rfl

theorem Rejection.Like.eq (like : Rejection.Like Eq reason reason') : reason = reason' := by
  cases like with
  | same => rfl
  | expected _ text => rw [text]

theorem Failure.Like.eq (like : Failure.Like Eq failure failure') : failure = failure' := by
  cases like with
  | same => rfl
  | unreported like => rw [like.eq]
  | rejected _ like => rw [like.eq]
  | _ => simp_all

theorem Failure.Like.className (like : Failure.Like texts failure failure') :
    failure.className = failure'.className := by
  cases like with
  | unreported like => exact congrArg RejectionKind.name like.kind
  | _ => rfl

theorem Failure.Like.cause? (like : Failure.Like texts failure failure') :
    failure.cause? = failure'.cause? := by
  cases like with
  | rejected _ like => exact congrArg some like.kind
  | _ => rfl

theorem Failure.Like.adapt {change : Failure → Failure}
    (others : ∀ failure, (∀ reason, failure ≠ .unreported reason) → change failure = failure)
    (changed : ∀ {reason reason'}, Rejection.Like texts reason reason' →
      Failure.Like texts (change (.unreported reason)) (change (.unreported reason')))
    (like : Failure.Like texts failure failure') :
    Failure.Like texts (change failure) (change failure') := by
  cases like with
  | same failure => exact .same _
  | unreported like => exact changed like
  | _ =>
    rw [others, others]
    · constructor
      assumption
    · exact nofun
    · exact nofun

theorem Failure.Like.reportedBy (like : Failure.Like texts failure failure') (name : String) :
    Failure.Like texts (failure.reportedBy name) (failure'.reportedBy name) :=
  like.adapt (fun failure other => by cases failure <;> first | rfl | exact absurd rfl (other _))
    (.rejected name)

theorem Agree.same {α : Type} {cut : Failure → Prop} (result : Except Failure α) :
    Agree cut Eq (Failure.Like texts) result result := by
  cases result with
  | ok x => exact .ok rfl
  | error failure => exact .error (.same failure)

theorem Agree.refusal {α β : Type} {cut : Failure → Prop} {good : α → β → Prop}
    {failure failure' : String → Failure} {result result' : Except Failure String}
    (like : ∀ text text', texts text text' → Failure.Like texts (failure text) (failure' text'))
    (mentioned : Agree cut texts (Failure.Like texts) result result') :
    Agree cut good (Failure.Like texts)
      (result >>= fun text => .error (failure text)) (result' >>= fun text => .error (failure' text)) :=
  mentioned.bind fun text text' related => .error (like text text' related)

end

inductive Value.Like (related : Value → Value → Prop) : Value → Value → Prop
  | int (n : Int) : Like related (.int n) (.int n)
  | real (x : Real64) : Like related (.real x) (.real x)
  | nan (id id' : ObjectId) (negative : Bool) : Like related (.nan id negative) (.nan id' negative)
  | complex (id id' : ObjectId) (re im : Float) :
      Like related (.complex id re im) (.complex id' re im)
  | bool (b : Bool) : Like related (.bool b) (.bool b)
  | symbol (name : String) : Like related (.symbol name) (.symbol name)
  | list (id id' : ObjectId) {items items' : List Value} (each : Forall₂ related items items') :
      Like related (.list id items) (.list id' items')
  | tuple (id id' : ObjectId) {items items' : List Value} (each : Forall₂ related items items') :
      Like related (.tuple id items) (.tuple id' items')
  | nothing : Like related .nothing .nothing
  | unbound : Like related .unbound .unbound
  | closure (id id' : ObjectId) (parameters parameters' : List String) (body body' : Value)
      (frame frame' : FrameId) :
      Like related (.closure id parameters body frame) (.closure id' parameters' body' frame')
  | primitive (p : Primitive) : Like related (.primitive p) (.primitive p)

/-- Answers of one shape: `given` relates what is handed on whole, `related` the items of what is
put together. -/
inductive Answer.Like (given related : Value → Value → Prop) : Answer → Answer → Prop
  | number (n : Number) : Like given related (.number n) (.number n)
  | truth (b : Bool) : Like given related (.truth b) (.truth b)
  | nothing : Like given related .nothing .nothing
  | given {value value' : Value} (whole : given value value') :
      Like given related (.given value) (.given value')
  | list {items items' : List Value} (each : Forall₂ related items items') :
      Like given related (.list items) (.list items')
  | tuple {items items' : List Value} (each : Forall₂ related items items') :
      Like given related (.tuple items) (.tuple items')

inductive Answer.Alike (related : Value → Value → Prop) : Answer → Answer → Prop
  | scalar (s : Scalar) : Alike related (.scalar s) (.scalar s)
  | like {answer answer' : Answer} (like : Answer.Like related related answer answer') :
      Alike related answer answer'

/-- A relation that primitives respect. Texts of related values are related by `texts`. -/
structure Resemblance (short : Prop) (texts : String → String → Prop)
    (related : Value → Value → Prop) : Prop where
  like : ∀ {v v'}, related v v' → Value.Like related v v'
  identical : ∀ {a a' b b'}, related a a' → related b b' →
    Value.identical a b = Value.identical a' b'
  text : ∀ {v v'}, related v v' → ∀ {depth depth'}, Covers short depth depth' → ∀ style,
    Agree (Exhausted short) texts (Failure.Like texts) (v.text style depth) (v'.text style depth')

namespace Value.Like

variable {related : Value → Value → Prop} {a a' b b' : Value}

theorem diagonal (each : ∀ item ∈ a.items, related item item) : Value.Like related a a := by
  have items {values : List Value} (each : ∀ item ∈ values, related item item) :
      Forall₂ related values values := by
    rw [List.forall₂_same]
    exact each
  cases a with
  | list id values => exact .list id id (items each)
  | tuple id values => exact .tuple id id (items each)
  | _ => constructor

theorem typeName (like : Value.Like related a a') : a.typeName = a'.typeName := by
  cases like <;> rfl

theorem number? (like : Value.Like related a a') : a.number? = a'.number? := by
  cases like <;> rfl

theorem integer? (like : Value.Like related a a') : a.integer? = a'.integer? := by
  cases like <;> rfl

theorem realCoordinate? (like : Value.Like related a a') :
    a.realCoordinate? = a'.realCoordinate? := by
  cases like <;> rfl

theorem sameNumber? (first : Value.Like related a a') (second : Value.Like related b b') :
    Value.sameNumber? a b = Value.sameNumber? a' b' := by
  have coordinates : ∀ {v v'}, Value.Like related v v' → v.coordinates? = v'.coordinates? := by
    intro v v' like
    cases like <;> rfl
  simp only [Value.sameNumber?, coordinates first, coordinates second]

theorem isNumber (like : Value.Like related a a') : a.isNumber = a'.isNumber := by
  cases like <;> rfl

theorem isProcedure (like : Value.Like related a a') : a.isProcedure = a'.isProcedure := by
  cases like <;> rfl

theorem isTrue (like : Value.Like related a a') : a.isTrue = a'.isTrue := by
  cases like <;> rfl

theorem isList (like : Value.Like related a a') : a.isList = a'.isList := by
  cases like <;> rfl

theorem isSymbol (like : Value.Like related a a') : a.isSymbol = a'.isSymbol := by
  cases like <;> rfl

theorem isNull (like : Value.Like related a a') : a.isNull = a'.isNull := by
  cases like with
  | list _ _ each => cases each <;> rfl
  | _ => rfl

theorem sequence? (like : Value.Like related a a') :
    (a.sequence? = none ∧ a'.sequence? = none) ∨ ∃ kind items items',
      a.sequence? = some (kind, items) ∧ a'.sequence? = some (kind, items') ∧
        Forall₂ related items items' := by
  cases like with
  | list _ _ each => exact .inr ⟨_, _, _, rfl, rfl, each⟩
  | tuple _ _ each => exact .inr ⟨_, _, _, rfl, rfl, each⟩
  | _ => exact .inl ⟨rfl, rfl⟩

end Value.Like

namespace Resemblance

variable {short : Prop} {texts : String → String → Prop} {related : Value → Value → Prop}
  {depth depth' : Nat} {a a' b b' : Value} {xs xs' ys ys' : List Value}

theorem pairwise {cut : Failure → Prop} {bad : Failure → Failure → Prop}
    {test test' : Value → Value → Except Failure Bool}
    (each : ∀ {x x' y y'}, related x x' → related y y' →
      Agree cut Eq bad (test x y) (test' x' y'))
    (first : Forall₂ related xs xs') (second : Forall₂ related ys ys') :
    Agree cut Eq bad (Value.pairwise test xs ys) (Value.pairwise test' xs' ys') := by
  induction first generalizing ys ys' with
  | nil => cases second <;> exact .ok rfl
  | cons x _ ih =>
      cases second with
      | nil => exact .ok rfl
      | cons y ys =>
          refine (each x y).bind fun passed passed' same => ?_
          subst same
          cases passed with
          | true => exact ih ys
          | false => exact .ok rfl

variable (r : Resemblance short texts related)

include r

theorem identical_or {test test' : Value → Value → Except Failure Bool} (first : related a a')
    (second : related b b')
    (agree : Agree (Exhausted short) Eq (Failure.Like texts) (test a b) (test' a' b')) :
    Agree (Exhausted short) Eq (Failure.Like texts)
      (if a.identical b then .ok true else test a b)
      (if a'.identical b' then .ok true else test' a' b') := by
  rw [r.identical first second]
  split
  · exact .ok rfl
  · exact agree

theorem alike (covers : Covers short depth depth') (first : related a a') (second : related b b') :
    Agree (Exhausted short) Eq (Failure.Like texts) (Value.alike depth a b)
      (Value.alike depth' a' b') := by
  induction depth generalizing depth' a a' b b' with
  | zero => exact covers.exhausted (.same _) fun none => by rw [none]; rfl
  | succ depth ih =>
      obtain ⟨below, rfl, inner⟩ := covers.positive
      unfold Value.alike
      rw [(r.like first).sameNumber? (r.like second)]
      cases Value.sameNumber? a' b' with
      | some agreed => exact .ok rfl
      | none =>
          rcases (r.like first).sequence? with ⟨none, none'⟩ | ⟨kind, as, as', some, some', items⟩
          · simp only [none, none', r.identical first second]
            exact .ok rfl
          rcases (r.like second).sequence? with ⟨none, none'⟩ | ⟨kind', bs, bs', same, same', items'⟩
          · simp only [some, some', none, none', r.identical first second]
            exact .ok rfl
          simp only [some, some', same, same', items.length_eq, items'.length_eq]
          split
          · exact pairwise (fun x y => r.identical_or x y (ih inner x y)) items items'
          · exact .ok rfl

theorem firstDifference? (covers : Covers short depth depth') (first : Forall₂ related xs xs')
    (second : Forall₂ related ys ys') :
    Agree (Exhausted short)
      (fun found found' => (found = none ∧ found' = none) ∨ ∃ x x' y y',
        found = some (x, y) ∧ found' = some (x', y') ∧ related x x' ∧ related y y')
      (Failure.Like texts) (Value.firstDifference? depth xs ys)
      (Value.firstDifference? depth' xs' ys') := by
  induction first generalizing ys ys' with
  | nil => cases second <;> exact .ok (.inl ⟨rfl, rfl⟩)
  | cons x _ ih =>
      cases second with
      | nil => exact .ok (.inl ⟨rfl, rfl⟩)
      | cons y ys =>
          refine (r.identical_or x y (r.alike covers x y)).bind fun passed passed' same => ?_
          subst same
          cases passed with
          | true => exact ih ys
          | false => exact .ok (.inr ⟨_, _, _, _, rfl, rfl, x, y⟩)

theorem compare (comparison : Comparison) (covers : Covers short depth depth')
    (first : related a a') (second : related b b') :
    Agree (Exhausted short) Eq (Failure.Like texts) (Value.compare comparison depth a b)
      (Value.compare comparison depth' a' b') := by
  induction depth generalizing depth' a a' b b' with
  | zero => exact covers.exhausted (.same _) fun none => by rw [none]; rfl
  | succ depth ih =>
      obtain ⟨below, rfl, inner⟩ := covers.positive
      unfold Value.compare
      rw [(r.like first).realCoordinate?, (r.like second).realCoordinate?,
        (r.like first).typeName, (r.like second).typeName]
      split
      · exact .ok rfl
      · rcases (r.like first).sequence? with ⟨none, none'⟩ | ⟨kind, as, as', some, some', items⟩
        · simp only [none, none']
          exact .error (.same _)
        rcases (r.like second).sequence? with ⟨none, none'⟩ | ⟨kind', bs, bs', same, same', items'⟩
        · simp only [some, some', none, none']
          exact .error (.same _)
        simp only [some, some', same, same', items.length_eq, items'.length_eq]
        split
        · refine (r.firstDifference? inner items items').bind fun found found' pair => ?_
          rcases pair with ⟨rfl, rfl⟩ | ⟨x, x', y, y', rfl, rfl, relatedX, relatedY⟩
          · exact .ok rfl
          · exact ih inner relatedX relatedY
        · exact .error (.same _)

theorem equal_atoms (covers : Covers short depth depth') (first : related a a')
    (second : related b b') :
    Agree (Exhausted short) Eq (Failure.Like texts)
      (if a.isNumber && b.isNumber then .ok ((Value.sameNumber? a b).getD false)
        else if a.typeName = b.typeName then Value.alike depth a b else .ok false)
      (if a'.isNumber && b'.isNumber then .ok ((Value.sameNumber? a' b').getD false)
        else if a'.typeName = b'.typeName then Value.alike depth' a' b' else .ok false) := by
  rw [(r.like first).isNumber, (r.like second).isNumber, (r.like first).typeName,
    (r.like second).typeName, (r.like first).sameNumber? (r.like second)]
  split
  · exact .ok rfl
  · split
    · exact r.alike covers first second
    · exact .ok rfl

theorem equal (covers : Covers short depth depth') (first : related a a') (second : related b b') :
    Agree (Exhausted short) Eq (Failure.Like texts) (Value.equal depth a b)
      (Value.equal depth' a' b') := by
  induction depth generalizing depth' a a' b b' with
  | zero => exact covers.exhausted (.same _) fun none => by rw [none]; rfl
  | succ depth ih =>
      obtain ⟨below, rfl, inner⟩ := covers.positive
      have atoms := r.equal_atoms covers first second
      have shape := r.like first
      have shape' := r.like second
      unfold Value.equal
      rw [r.identical first second]
      split
      · exact .ok rfl
      · cases shape with
        | list _ _ items =>
            cases shape' with
            | list _ _ items' =>
                simp only [items.length_eq, items'.length_eq]
                split
                · exact pairwise (fun x y => ih inner x y) items items'
                · exact .ok rfl
            | _ => exact atoms
        | _ => exact atoms

theorem same (first : related a a') (second : related b b') :
    Value.same a b = Value.same a' b' := by
  rw [Value.same, Value.same, (r.like first).isNumber, (r.like second).isNumber,
    (r.like first).sameNumber? (r.like second), r.identical first second]

abbrev Answers (_ : Resemblance short texts related) :
    Except Failure Answer → Except Failure Answer → Prop :=
  Agree (Exhausted short) (Answer.Like related related) (Failure.Like texts)

theorem refuse {α β : Type} {good : α → β → Prop} (covers : Covers short depth depth')
    (sentence : String) (first : related a a') :
    Agree (Exhausted short) good (Failure.Like texts) (Value.refuse depth sentence a)
      (Value.refuse depth' sentence a') :=
  (r.text first covers .plain).refusal fun _ _ text => .unreported (.expected sentence text)

theorem truth {result result' : Except Failure Bool}
    (agree : Agree (Exhausted short) Eq (Failure.Like texts) result result') :
    r.Answers (result.map .truth) (result'.map .truth) :=
  agree.map fun b _ same => same ▸ .truth b

theorem append (first : related a a') (second : related b b') :
    r.Answers (Value.append a b) (Value.append a' b') := by
  have shape := r.like first
  have shape' := r.like second
  cases shape with
  | list _ _ items =>
      cases shape' with
      | list _ _ items' => exact .ok (.list (List.rel_append items items'))
      | _ => exact .error (.same _)
  | _ => exact .error (.same _)

theorem car (covers : Covers short depth depth') (first : related a a') :
    r.Answers (Value.car depth a) (Value.car depth' a') := by
  have refused : r.Answers (Value.refuse depth _ a) (Value.refuse depth' _ a') :=
    r.refuse covers "car expects a list" first
  have shape := r.like first
  cases shape with
  | list _ _ items =>
      cases items with
      | nil => exact .error (.same _)
      | cons item => exact .ok (.given item)
  | _ => exact refused

theorem cdr (covers : Covers short depth depth') (first : related a a') :
    r.Answers (Value.cdr depth a) (Value.cdr depth' a') := by
  have refused : r.Answers (Value.refuse depth _ a) (Value.refuse depth' _ a') :=
    r.refuse covers "cdr expects a list" first
  have shape := r.like first
  cases shape with
  | list _ _ items => exact .ok (.list (List.forall₂_drop 1 items))
  | _ => exact refused

theorem cons (covers : Covers short depth depth') (first : related a a') (second : related b b') :
    r.Answers (Value.cons depth a b) (Value.cons depth' a' b') := by
  have refused : r.Answers (Value.refuse depth _ b) (Value.refuse depth' _ b') :=
    r.refuse covers "cons expects a list as its second argument" second
  have shape := r.like second
  cases shape with
  | list _ _ items => exact .ok (.list (.cons first items))
  | _ => exact refused

theorem length (first : related a a') : r.Answers (Value.length a) (Value.length a') := by
  unfold Value.length
  rcases (r.like first).sequence? with ⟨none, none'⟩ | ⟨kind, items, items', some, some', each⟩
  · simp only [none, none', (r.like first).typeName]
    exact .error (.same _)
  · simp only [some, some', each.length_eq]
    exact .ok (.number _)

omit r in
theorem last (each : Forall₂ related xs xs') :
    Answer.Like related related (Value.last xs) (Value.last xs') := by
  unfold Value.last
  rw [← List.head?_reverse, ← List.head?_reverse]
  have reversed := List.rel_reverse each
  generalize xs.reverse = ys at reversed ⊢
  generalize xs'.reverse = ys' at reversed ⊢
  cases reversed with
  | nil => exact .nothing
  | cons final => exact .given final

omit r in
theorem calculate {given : Value → Value → Prop} (operator : String)
    (operation : Number → Number → Except Rejection Number) (first : Value.Like related a a')
    (second : Value.Like related b b') :
    Agree (fun _ => False) (Answer.Like given related) Eq (Value.calculate operator operation a b)
      (Value.calculate operator operation a' b') := by
  unfold Value.calculate
  rw [first.number?, second.number?, first.typeName, second.typeName]
  split
  · cases operation _ _ with
    | error reason => exact .error rfl
    | ok n => exact .ok (.number n)
  · exact .error rfl

omit r in
theorem unreported {given : Value → Value → Prop} {result result' : Except Rejection Answer}
    (agree : Agree (fun _ => False) (Answer.Like given related) Eq result result') :
    Agree (Exhausted short) (Answer.Like given related) (Failure.Like texts)
      (result.mapError .unreported) (result'.mapError .unreported) :=
  agree.mapError (fun _ _ same => same ▸ .same _) fun _ contrary => contrary.elim

theorem add (first : related a a') (second : related b b') :
    Agree (fun _ => False) (Answer.Like related related) Eq (Value.add a b) (Value.add a' b') := by
  have shape := r.like first
  have shape' := r.like second
  have numbers : Agree (fun _ => False) (Answer.Like related related) Eq _ _ :=
    calculate "+" Number.add shape shape'
  have type := shape'.typeName
  cases shape with
  | list _ _ items =>
      cases shape' with
      | list _ _ items' => exact .ok (.list (List.rel_append items items'))
      | _ => exact .error (congrArg (Rejection.concatenation .list) type)
  | tuple _ _ items =>
      cases shape' with
      | tuple _ _ items' =>
          cases items with
          | nil => exact .ok (.given second)
          | cons item items =>
              cases items' with
              | nil => exact .ok (.given first)
              | cons item' items' =>
                  exact .ok (.tuple (List.rel_append (.cons item items) (.cons item' items')))
      | _ => exact .error (congrArg (Rejection.concatenation .tuple) type)
  | _ => exact numbers

omit r in
theorem copies (count : Int) (each : Forall₂ related xs xs') :
    Forall₂ related (Value.copies count xs) (Value.copies count xs') := by
  unfold Value.copies
  cases each with
  | nil => exact .nil
  | cons first rest =>
      refine List.rel_flatten ?_
      generalize count.toNat = n
      induction n with
      | zero => exact .nil
      | succ n ih => exact .cons (.cons first rest) ih

omit r in
theorem repeated {given : Value → Value → Prop} {kind : SequenceKind}
    (whole : kind = .tuple → given a a') (times : Value.Like related b b')
    (each : Forall₂ related xs xs') :
    Agree (Exhausted short) (Answer.Like given related) (Failure.Like texts)
      (Value.repeated a b kind xs) (Value.repeated a' b' kind xs') := by
  unfold Value.repeated
  rw [times.integer?, times.typeName, each.length_eq]
  split
  · exact .error (.same _)
  · rename_i count _
    split
    · exact .error (.same _)
    · split
      · exact .error (.same _)
      · have made := copies count each
        cases kind with
        | list => exact .ok (.list made)
        | tuple =>
            have same : xs.isEmpty = xs'.isEmpty := by cases each <;> rfl
            dsimp only
            rw [same]
            split
            · exact .ok (.given (whole rfl))
            · exact .ok (.tuple made)

omit r in
theorem multiply {given : Value → Value → Prop}
    (whole : ∀ items, a.sequence? = some (.tuple, items) → given a a')
    (whole' : ∀ items, b.sequence? = some (.tuple, items) → given b b')
    (first : Value.Like related a a') (second : Value.Like related b b') :
    Agree (Exhausted short) (Answer.Like given related) (Failure.Like texts)
      (Value.multiply a b) (Value.multiply a' b') := by
  unfold Value.multiply
  rcases first.sequence? with ⟨none, none'⟩ | ⟨kind, items, items', some, some', each⟩
  · rcases second.sequence? with ⟨lacks, lacks'⟩ | ⟨kind, items, items', some, some', each⟩
    · simp only [none, none', lacks, lacks']
      exact unreported (calculate "*" Number.multiply first second)
    · simp only [none, none', some, some']
      exact repeated (fun tuple => whole' items (tuple ▸ some)) first each
  · simp only [some, some']
    exact repeated (fun tuple => whole items (tuple ▸ some)) second each

theorem misfits {parameters : List String} {given given' : Nat} (same : given = given') :
    r.Answers (.error (.unreported (misfit parameters given)))
      (.error (.unreported (misfit parameters given'))) :=
  same ▸ .error (.same _)

theorem operation (covers : Covers short depth depth') (operation : Operation)
    (each : Forall₂ related xs xs') :
    r.Answers (operation.answer depth xs) (operation.answer depth' xs') := by
  have truth {b b' : Bool} (same : b = b') : r.Answers (.ok (.truth b)) (.ok (.truth b')) :=
    same ▸ .ok (.truth b)
  -- The number of arguments comes first, as it does in the match that is to be reduced.
  rcases each with _ | ⟨x, _ | ⟨y, _ | ⟨z, rest⟩⟩⟩
  · cases operation with
    | begin => exact .ok .nothing
    | list => exact .ok (.list .nil)
    | _ => exact r.misfits rfl
  · cases operation with
    | begin => exact .ok (.given x)
    | list => exact .ok (.list (.cons x .nil))
    | car => exact r.car covers x
    | cdr => exact r.cdr covers x
    | length => exact r.length x
    | isList => exact truth (r.like x).isList
    | negate => exact truth (congrArg not (r.like x).isTrue)
    | isNull => exact truth (r.like x).isNull
    | isNumber => exact truth (r.like x).isNumber
    | isProcedure => exact truth (r.like x).isProcedure
    | isSymbol => exact truth (r.like x).isSymbol
    | _ => exact r.misfits rfl
  · cases operation with
    | add => exact unreported (r.add x y)
    | subtract => exact unreported (calculate "-" Number.subtract (r.like x) (r.like y))
    | multiply => exact multiply (fun _ _ => x) (fun _ _ => y) (r.like x) (r.like y)
    | divide => exact unreported (calculate "/" Number.divide (r.like x) (r.like y))
    | power => exact unreported (calculate "** or pow()" Number.power (r.like x) (r.like y))
    | greater => exact r.truth (r.compare .greater covers x y)
    | less => exact r.truth (r.compare .less covers x y)
    | greaterEqual => exact r.truth (r.compare .greaterEqual covers x y)
    | lessEqual => exact r.truth (r.compare .lessEqual covers x y)
    | equalNumber => exact r.truth (r.alike covers x y)
    | append => exact r.append x y
    | begin => exact .ok (.given y)
    | cons => exact r.cons covers x y
    | same => exact truth (r.same x y)
    | equal => exact r.truth (r.equal covers x y)
    | list => exact .ok (.list (.cons x (.cons y .nil)))
    | _ => exact r.misfits rfl
  · cases operation with
    | begin => exact .ok (last (.cons x (.cons y (.cons z rest))))
    | list => exact .ok (.list (.cons x (.cons y (.cons z rest))))
    | _ => exact r.misfits (congrArg (· + 3) rest.length_eq)

end Resemblance

namespace Value

theorem text_covers {short : Prop} {depth depth' : Nat} (covers : Covers short depth depth')
    (style : TextStyle) (value : Value) :
    Agree (Exhausted short) Eq (Failure.Like Eq) (value.text style depth)
      (value.text style depth') := by
  induction depth generalizing depth' style value with
  | zero => exact covers.exhausted (.same _) fun none => by rw [none]; rfl
  | succ depth ih =>
      obtain ⟨below, rfl, inner⟩ := covers.positive
      have texts (style : TextStyle) (items : List Value) :
          Agree (Exhausted short) Eq (Failure.Like Eq) (items.mapM (text style depth))
            (items.mapM (text style below)) := by
        have each : ∀ item item', item = item' → Agree (Exhausted short) Eq (Failure.Like Eq)
            (text style depth item) (text style below item') := by
          rintro item _ rfl
          exact ih inner style item
        exact (Agree.mapM (List.forall₂_refl items) each).imp
          (fun _ _ same => List.forall₂_eq_eq_eq ▸ same) fun _ _ like => like
      cases value with
      | list _ items => exact (texts style items).map fun _ _ same => congrArg _ same
      | tuple _ items => exact (texts .detailed items).map fun _ _ same => congrArg _ same
      | closure _ _ body _ => exact (ih inner .plain body).map fun _ _ same => congrArg _ same
      | _ => exact .same _

end Value

/-- Values with a property resemble themselves if their items inherit it. -/
theorem Resemblance.diagonal (short : Prop) {keeps : Value → Prop}
    (inherited : Value.Inherited keeps) :
    Resemblance short Eq fun v v' => v = v' ∧ keeps v where
  like := by
    rintro v _ ⟨rfl, kept⟩
    exact .diagonal fun item member => ⟨rfl, inherited v kept item member⟩
  identical := by
    rintro a _ b _ ⟨rfl, -⟩ ⟨rfl, -⟩
    rfl
  text := by
    rintro v _ ⟨rfl, -⟩ depth depth' covers style
    exact Value.text_covers covers style v

theorem Resemblance.self (short : Prop) : Resemblance short Eq Eq := by
  have any : Value.Inherited fun _ => True := fun _ _ _ _ => trivial
  simpa using Resemblance.diagonal short any

end MiniLisp
