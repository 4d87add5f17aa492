import Mathlib.Data.List.Forall2
import MiniLisp.Failure

/-!
Results that agree: both are good and related, or both are failures and related. The left one may
also be cut short, where that is allowed, by failing for want of depth.
-/

namespace MiniLisp

/-- Two results of one computation. A failure on the left for which `cut` holds agrees with
anything. -/
inductive Agree {ε ε' α β : Type} (cut : ε → Prop) (good : α → β → Prop) (bad : ε → ε' → Prop) :
    Except ε α → Except ε' β → Prop
  | ok {x : α} {y : β} (related : good x y) : Agree cut good bad (.ok x) (.ok y)
  | error {e : ε} {e' : ε'} (related : bad e e') : Agree cut good bad (.error e) (.error e')
  | cut {e : ε} {result : Except ε' β} (short : cut e) : Agree cut good bad (.error e) result

namespace Agree

variable {ε ε' δ δ' α β γ η : Type} {cut : ε → Prop} {good : α → β → Prop} {bad : ε → ε' → Prop}
  {left : Except ε α} {right : Except ε' β}

theorem imp {good' : α → β → Prop} {bad' : ε → ε' → Prop} (agree : Agree cut good bad left right)
    (weaker : ∀ x y, good x y → good' x y) (weaker' : ∀ e e', bad e e' → bad' e e') :
    Agree cut good' bad' left right := by
  cases agree with
  | ok related => exact .ok (weaker _ _ related)
  | error related => exact .error (weaker' _ _ related)
  | cut short => exact .cut short

theorem bind {good' : γ → η → Prop} {next : α → Except ε γ} {next' : β → Except ε' η}
    (agree : Agree cut good bad left right)
    (continued : ∀ x y, good x y → Agree cut good' bad (next x) (next' y)) :
    Agree cut good' bad (left >>= next) (right >>= next') := by
  cases agree with
  | ok related => exact continued _ _ related
  | error related => exact .error related
  | cut short => exact .cut short

theorem map {good' : γ → η → Prop} {f : α → γ} {f' : β → η} (agree : Agree cut good bad left right)
    (mapped : ∀ x y, good x y → good' (f x) (f' y)) :
    Agree cut good' bad (left.map f) (right.map f') := by
  cases agree with
  | ok related => exact .ok (mapped _ _ related)
  | error related => exact .error related
  | cut short => exact .cut short

theorem mapError {cut' : δ → Prop} {bad' : δ → δ' → Prop} {f : ε → δ} {f' : ε' → δ'}
    (agree : Agree cut good bad left right) (mapped : ∀ e e', bad e e' → bad' (f e) (f' e'))
    (remains : ∀ e, cut e → cut' (f e)) :
    Agree cut' good bad' (left.mapError f) (right.mapError f') := by
  cases agree with
  | ok related => exact .ok related
  | error related => exact .error (mapped _ _ related)
  | cut short => exact .cut (remains _ short)

theorem mapM {good' : γ → η → Prop} {f : α → Except ε γ} {f' : β → Except ε' η} {xs : List α}
    {ys : List β} (items : List.Forall₂ good xs ys)
    (each : ∀ x y, good x y → Agree cut good' bad (f x) (f' y)) :
    Agree cut (List.Forall₂ good') bad (xs.mapM f) (ys.mapM f') := by
  induction items with
  | nil => exact .ok .nil
  | cons first _ ih =>
      rw [List.mapM_cons, List.mapM_cons]
      refine (each _ _ first).bind fun z w related => ih.bind fun zs ws others => ?_
      exact .ok (.cons related others)

theorem foldlM {good' : γ → η → Prop} {step : γ → α → Except ε γ} {step' : η → β → Except ε' η}
    {xs : List α} {ys : List β} (items : List.Forall₂ good xs ys)
    (each : ∀ z w, good' z w → ∀ x y, good x y → Agree cut good' bad (step z x) (step' w y))
    {start : γ} {start' : η} (started : good' start start') :
    Agree cut good' bad (xs.foldlM step start) (ys.foldlM step' start') := by
  induction items generalizing start start' with
  | nil => exact .ok started
  | cons first _ ih =>
      rw [List.foldlM_cons, List.foldlM_cons]
      exact (each _ _ started _ _ first).bind fun z w related => ih related

end Agree

/-- The depths of two computations, of which the left one may be the smaller if it may be cut
short. -/
def Covers (short : Prop) (depth depth' : Nat) : Prop := depth = depth' ∨ (short ∧ depth ≤ depth')

def Exhausted (short : Prop) (failure : Failure) : Prop := short ∧ failure = .depthExceeded

theorem Covers.refl {short : Prop} (depth : Nat) : Covers short depth depth := .inl rfl

theorem Covers.below {short : Prop} {depth depth' : Nat}
    (covers : Covers short (depth + 1) (depth' + 1)) : Covers short depth depth' := by
  rcases covers with same | ⟨allowed, bound⟩
  · exact .inl (Nat.succ.inj same)
  · exact .inr ⟨allowed, Nat.le_of_succ_le_succ bound⟩

theorem Covers.exhausted {α β : Type} {short : Prop} {depth' : Nat} {good : α → β → Prop}
    {bad : Failure → Failure → Prop} {right : Except Failure β} (covers : Covers short 0 depth')
    (reflexive : bad .depthExceeded .depthExceeded)
    (ends : depth' = 0 → right = .error .depthExceeded) :
    Agree (Exhausted short) good bad (.error .depthExceeded) right := by
  rcases covers with rfl | ⟨allowed, -⟩
  · rw [ends rfl]
    exact .error reflexive
  · exact .cut ⟨allowed, rfl⟩

theorem Covers.positive {short : Prop} {depth depth' : Nat} (covers : Covers short (depth + 1) depth') :
    ∃ below, depth' = below + 1 ∧ Covers short depth below := by
  cases depth' with
  | zero => rcases covers with same | ⟨-, bound⟩ <;> omega
  | succ below => exact ⟨below, rfl, covers.below⟩

end MiniLisp
