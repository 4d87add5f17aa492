import MiniLisp.Proofs.Likeness

namespace MiniLisp

open List (Forall₂)

namespace Library

variable {related : Value → Value → Prop} {a a' b b' : Value} {xs xs' : List Value}

theorem map_like {α β : Type} {related : α → α → Prop} {xs xs' : List α} {f : α → β}
    (same : ∀ {x x'}, related x x' → f x = f x') (each : Forall₂ related xs xs') :
    xs.map f = xs'.map f := by
  induction each with
  | nil => rfl
  | cons first _ ih => rw [List.map_cons, List.map_cons, same first, ih]

theorem mapM_like {ε α β : Type} {related : α → α → Prop} {xs xs' : List α}
    {f : α → Except ε β} (same : ∀ {x x'}, related x x' → f x = f x')
    (each : Forall₂ related xs xs') : xs.mapM f = xs'.mapM f := by
  induction each with
  | nil => rfl
  | cons first _ ih => rw [List.mapM_cons, List.mapM_cons, same first, ih]

theorem realArgument_like (like : Value.Like related a a') : realArgument a = realArgument a' := by
  rw [realArgument, realArgument, like.number?]

theorem integerArgument_like (like : Value.Like related a a') :
    integerArgument a = integerArgument a' := by
  rw [integerArgument, integerArgument, like.integer?]

theorem itemsArgument_like (like : Value.Like related a a') :
    (∃ items items', itemsArgument a = .ok items ∧ itemsArgument a' = .ok items' ∧
      Forall₂ related items items') ∨
    (itemsArgument a = reject .type ∧ itemsArgument a' = reject .type) := by
  rcases like.sequence? with ⟨none, none'⟩ | ⟨kind, items, items', some, some', each⟩
  · exact .inr ⟨by rw [itemsArgument, none], by rw [itemsArgument, none']⟩
  · exact .inl ⟨items, items', by rw [itemsArgument, some], by rw [itemsArgument, some'], each⟩

variable (likes : ∀ {x x'}, related x x' → Value.Like related x x')

include likes

theorem sum_like (like : Value.Like related a a') : sum a = sum a' := by
  rcases itemsArgument_like like with ⟨items, items', taken, taken', each⟩ | ⟨refused, refused'⟩
  · have reals : items.map realArgument = items'.map realArgument :=
      map_like (fun x => realArgument_like (likes x)) each
    have folded := fun (step : PartialSums → Except Rejection Inexact → Except Rejection PartialSums) =>
      congrArg (List.foldlM step PartialSums.empty) reals
    simp only [List.foldlM_map] at folded
    have added := folded fun sums real => do sumReported (sums.add (← real))
    unfold sum
    rw [taken, taken']
    exact congrArg (· >>= fun sums => do return ofInexact (← sumReported sums.total)) added
  · rw [sum, sum, refused, refused']

theorem distance_like (first : Value.Like related a a') (second : Value.Like related b b') :
    distance a b = distance a' b' := by
  rcases itemsArgument_like first with ⟨ps, ps', taken, taken', each⟩ | ⟨refused, refused'⟩
  · rcases itemsArgument_like second with ⟨qs, qs', given, given', each'⟩ | ⟨refused, refused'⟩
    · have pairs : Forall₂ (fun p p' : Value × Value => related p.1 p'.1 ∧ related p.2 p'.2)
          (ps.zip qs) (ps'.zip qs') := by
        clear taken taken' given given'
        induction each generalizing qs qs' with
        | nil => exact .nil
        | cons x _ ih =>
            cases each' with
            | nil => exact .nil
            | cons y ys => exact .cons ⟨x, y⟩ (ih _ _ ys)
      unfold distance
      rw [taken, taken', given, given']
      change (if ps.length ≠ qs.length then _ else _) = if ps'.length ≠ qs'.length then _ else _
      rw [each.length_eq, each'.length_eq, mapM_like _ pairs]
      rintro ⟨x, y⟩ ⟨x', y'⟩ ⟨relatedX, relatedY⟩
      simp only [realArgument_like (likes relatedX), realArgument_like (likes relatedY)]
    · rw [distance, distance, taken, taken', refused, refused']
      rfl
  · rw [distance, distance, refused, refused']
    rfl

theorem log_like (each : Forall₂ related xs xs') : log xs = log xs' := by
  rcases each with _ | ⟨x, _ | ⟨y, _ | ⟨z, rest⟩⟩⟩
  · rfl
  · simp only [log, logarithmOf, logarithm, (likes x).number?]
  · simp only [log, logarithm, (likes x).number?, (likes y).number?]
  · rfl

end Library

namespace LibraryFunction

open Library

variable {related : Value → Value → Prop} {a a' b b' : Value} {xs xs' : List Value}
  (likes : ∀ {x x'}, related x x' → Value.Like related x x')

include likes

theorem compute_one (f : LibraryFunction) (x : related a a') : f.compute [a] = f.compute [a'] := by
  have number := (likes x).number?
  have real := realArgument_like (likes x)
  have integer := integerArgument_like (likes x)
  cases f with
  | fsum => exact sum_like likes (likes x)
  | log => exact log_like likes (.cons x .nil)
  | _ =>
    simp only [compute, unary, multiple, Library.gamma, Library.lgamma, lastPlace, logarithmOf,
      logarithm, significandAndExponent, fractionAndWhole, classify, hypotenuse, toInteger,
      factorialOf, naturalArgument, greatestDivisor, leastMultiple, absolute, List.mapM_cons,
      List.mapM_nil, number, real, integer]

theorem compute_two (f : LibraryFunction) (x : related a a') (y : related b b') :
    f.compute [a, b] = f.compute [a', b'] := by
  have number := (likes x).number?
  have real := realArgument_like (likes x)
  have real' := realArgument_like (likes y)
  have integer := integerArgument_like (likes x)
  have integer' := integerArgument_like (likes y)
  have shape := likes y
  have placed : permutations a b = permutations a' b' := by
    simp only [permutations, integer, integer']
  have rounded : roundPlaces a b = roundPlaces a' b' := by
    simp only [roundPlaces, number, integer']
  cases f with
  | dist => exact distance_like likes (likes x) (likes y)
  | log => exact log_like likes (.cons x (.cons y .nil))
  | perm =>
      cases shape with
      | nothing => exact compute_one likes perm x
      | _ => exact placed
  | round =>
      cases shape with
      | nothing => exact compute_one likes round x
      | _ => exact rounded
  | _ =>
    simp only [compute, hypotenuse, greatestDivisor, leastMultiple, List.mapM_cons, List.mapM_nil,
      angle, withSignOf, remainderBy, neighbour, Library.power, scaled, isClose, combinations,
      real, real', integer, integer']

theorem compute_like (f : LibraryFunction) (each : Forall₂ related xs xs') :
    f.compute xs = f.compute xs' := by
  have reals := mapM_like (fun x => realArgument_like (likes x)) each
  have integers := mapM_like (fun x => integerArgument_like (likes x)) each
  rcases each with _ | ⟨x, _ | ⟨y, _ | ⟨z, rest⟩⟩⟩
  · rfl
  · exact compute_one likes f x
  · exact compute_two likes f x y
  · cases f with
    | hypot => exact congrArg (· >>= fun reals => .ok (ofInexact
        (euclideanLength (reals.map Inexact.toFloat)))) reals
    | gcd => exact congrArg (· >>= fun integers => .ok (ofInt
        ((integers.map Int.natAbs).foldl Nat.gcd 0 : Nat))) integers
    | lcm => exact congrArg (· >>= fun integers => .ok (ofInt
        ((integers.map Int.natAbs).foldl Nat.lcm 1 : Nat))) integers
    -- The match looks at the second argument before it sees that there is a third.
    | perm | round => cases likes y <;> rfl
    | _ => rfl

end LibraryFunction

theorem Failure.Like.unexplained {texts : String → String → Prop} {failure failure' : Failure}
    (like : Failure.Like texts failure failure') :
    Failure.Like texts (LibraryFunction.unexplained failure)
      (LibraryFunction.unexplained failure') := by
  refine like.adapt (fun failure other => ?_) fun like => ?_
  · cases failure <;> first | rfl | exact absurd rfl (other _)
  · rw [LibraryFunction.unexplained, LibraryFunction.unexplained, like.kind]
    exact .same _

namespace Resemblance

variable {short : Prop} {texts : String → String → Prop} {related : Value → Value → Prop}
  {depth depth' : Nat} {a a' b b' : Value} {xs xs' ys ys' : List Value}
  (r : Resemblance short texts related)

include r

theorem extremum (comparison : Comparison) (covers : Covers short depth depth')
    (each : Forall₂ related xs xs') :
    r.Answers (Library.extremum comparison depth xs) (Library.extremum comparison depth' xs') := by
  cases each with
  | nil => exact .error (.same _)
  | cons first rest =>
      refine Agree.map (Agree.foldlM rest ?_ first) fun _ _ best => .given best
      intro best best' relatedBest v v' relatedV
      refine (r.compare comparison covers relatedV relatedBest).bind fun better better' same => ?_
      subst same
      cases better with
      | true => exact .ok relatedV
      | false => exact .ok relatedBest

theorem extremumOf (comparison : Comparison) (covers : Covers short depth depth')
    (each : Forall₂ related xs xs') :
    r.Answers (Library.extremumOf comparison depth xs)
      (Library.extremumOf comparison depth' xs') := by
  rcases each with _ | ⟨x, _ | ⟨y, rest⟩⟩
  · exact .error (.same _)
  · unfold Library.extremumOf
    rcases (r.like x).sequence? with ⟨none, none'⟩ | ⟨kind, items, items', some, some', each⟩
    · simp only [none, none']
      exact .error (.same _)
    · simp only [some, some']
      exact r.extremum comparison covers each
  · exact r.extremum comparison covers (.cons x (.cons y rest))

theorem multiplyAnswer {product product' : Answer}
    (like : Answer.Like related related product product') (factor : related a a') :
    r.Answers (Library.multiplyAnswer product a) (Library.multiplyAnswer product' a') := by
  have multiplied (given : Value → Value → Prop)
      (shape : Value.Like related (product.toValue 0).1 (product'.toValue 0).1)
      (whole : ∀ items, (product.toValue 0).1.sequence? = some (.tuple, items) →
        given (product.toValue 0).1 (product'.toValue 0).1)
      (whole' : given a a') :
      Agree (Exhausted short) (Answer.Like given related) (Failure.Like texts)
        ((product.toValue 0).1.multiply a) ((product'.toValue 0).1.multiply a') :=
    multiply whole (fun _ _ => whole') shape (r.like factor)
  cases like with
  | number n =>
      refine (multiplied related ?_ ?_ factor).bind fun _ _ like => .ok like
      · rcases n with n | ⟨x | negative⟩ | ⟨re, im⟩ <;> constructor
      · rcases n with n | ⟨x | negative⟩ | ⟨re, im⟩ <;> exact nofun
  | truth b => exact (multiplied related (.bool b) nofun factor).bind fun _ _ like => .ok like
  | nothing => exact (multiplied related .nothing nofun factor).bind fun _ _ like => .ok like
  | given whole =>
      exact (multiplied related (r.like whole) (fun _ _ => whole) factor).bind fun _ _ like => .ok like
  | list each => exact (multiplied related (.list _ _ each) nofun factor).bind fun _ _ like => .ok like
  | @tuple items items' each =>
      have shape : Value.Like related ((Answer.tuple items).toValue 0).1
          ((Answer.tuple items').toValue 0).1 := by
        cases each with
        | nil => exact .tuple _ _ .nil
        | cons first rest => exact .tuple _ _ (.cons first rest)
      refine (multiplied (fun _ _ => True) shape (fun _ _ => ⟨⟩) ⟨⟩).bind
        fun answer answer' like => ?_
      cases like with
      | given => exact .ok (.tuple each)
      | number n => exact .ok (.number n)
      | truth b => exact .ok (.truth b)
      | nothing => exact .ok .nothing
      | list made => exact .ok (.list made)
      | tuple made => exact .ok (.tuple made)

theorem product (each : Forall₂ related xs xs') :
    r.Answers (Library.product xs) (Library.product xs') := by
  rcases each with _ | ⟨x, _ | ⟨y, rest⟩⟩
  · exact .error (.same _)
  · unfold Library.product
    rcases (r.like x).sequence? with ⟨none, none'⟩ | ⟨kind, items, items', some, some', each⟩
    · simp only [none, none']
      exact .error (.same _)
    · simp only [some, some']
      exact Agree.foldlM each (fun _ _ like _ _ factor => r.multiplyAnswer like factor)
        (.number (.int 1))
  · exact .error (.same _)

theorem function (covers : Covers short depth depth') (f : LibraryFunction)
    (each : Forall₂ related xs xs') :
    Agree (Exhausted short) (Answer.Alike related) (Failure.Like texts) (f.answer depth xs)
      (f.answer depth' xs') := by
  have explained {result result' : Except Failure Answer} (agree : r.Answers result result') :
      Agree (Exhausted short) (Answer.Alike related) (Failure.Like texts)
        (result.mapError LibraryFunction.unexplained)
        (result'.mapError LibraryFunction.unexplained) := by
    refine (agree.imp (fun _ _ => .like) fun _ _ => id).mapError (fun _ _ => .unexplained) ?_
    rintro failure ⟨allowed, rfl⟩
    exact ⟨allowed, rfl⟩
  unfold LibraryFunction.answer
  split
  · exact explained (r.extremumOf .greater covers each)
  · exact explained (r.extremumOf .less covers each)
  · exact explained (r.product each)
  · rw [LibraryFunction.compute_like r.like f each]
    cases f.compute xs' with
    | error reason => exact .error (.same _)
    | ok scalar => exact .ok (.scalar scalar)

end Resemblance

end MiniLisp
