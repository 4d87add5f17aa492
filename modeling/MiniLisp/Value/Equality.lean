import MiniLisp.Value.Number

/-!
Three ways in which values are alike. `identical` values are one object. `alike` compares numbers
by value, sequences item by item, where identical items are alike, and all else by identity.
`equal` differs from it in that truth values are no numbers and lists compare by `equal`
throughout.
-/

namespace MiniLisp.Value

def identical : Value → Value → Bool
  | int n, int m => n = m
  | real x, real y => x = y
  | nan id _, nan id' _ => id = id'
  | complex id _ _, complex id' _ _ => id = id'
  | bool b, bool b' => b = b'
  | symbol name, symbol name' => name = name'
  | list id _, list id' _ => id = id'
  | tuple id _, tuple id' _ => id = id'
  | nothing, nothing => true
  | unbound, unbound => true
  | closure id _ _ _, closure id' _ _ _ => id = id'
  | primitive p, primitive p' => p = p'
  | _, _ => false

/-- Whether a test holds of all pairs of items that stand at the same place, up to the first pair
for which it does not; items without a counterpart fail it. -/
def pairwise (test : Value → Value → Except Failure Bool) :
    List Value → List Value → Except Failure Bool
  | [], [] => .ok true
  | a :: as, b :: bs => do if ← test a b then pairwise test as bs else .ok false
  | _, _ => .ok false

def sequence? : Value → Option (SequenceKind × List Value)
  | list _ items => some (.list, items)
  | tuple _ items => some (.tuple, items)
  | _ => none

/-- The values must nest less than `depth` deep as far as they are compared. -/
def alike (depth : Nat) (a b : Value) : Except Failure Bool :=
  match depth with
  | 0 => .error .depthExceeded
  | depth + 1 =>
    match sameNumber? a b with
    | some agreed => .ok agreed
    | none =>
      match a.sequence?, b.sequence? with
      | some (kind, as), some (kind', bs) =>
        if kind = kind' ∧ as.length = bs.length then
          pairwise (fun x y => if identical x y then .ok true else alike depth x y) as bs
        else .ok false
      | _, _ => .ok (identical a b)

def equal (depth : Nat) (a b : Value) : Except Failure Bool :=
  match depth with
  | 0 => .error .depthExceeded
  | depth + 1 =>
    if identical a b then .ok true
    else match a, b with
      | list _ as, list _ bs =>
        if as.length = bs.length then pairwise (equal depth) as bs else .ok false
      | _, _ =>
        if a.isNumber && b.isNumber then .ok ((sameNumber? a b).getD false)
        else if a.typeName = b.typeName then alike (depth + 1) a b
        else .ok false

/-- Identity, except that numbers have none beyond their value. -/
def same (a b : Value) : Bool :=
  if a.isNumber && b.isNumber then (sameNumber? a b).getD false else identical a b

end MiniLisp.Value
