import MiniLisp.Proofs.Likeness
import MiniLisp.Proofs.Reach
import MiniLisp.SpecialForm

/-!
Renaming a parameter. One abstraction in a piece of code, and everything in it, may give a parameter
another name, as long as no quotation in it keeps the old one. Evaluation can tell the two pieces of
code apart only by their names: they have the same shape, and texts of the one exist where texts of
the other do.
-/

namespace MiniLisp

open List (Forall₂)

namespace Value

mutual

def names : Value → List String
  | symbol name => [name]
  | list _ items | tuple _ items => namesAll items
  | closure _ parameters body _ => parameters ++ body.names
  | _ => []

def namesAll : List Value → List String
  | [] => []
  | item :: rest => item.names ++ namesAll rest

end

mutual

def rename (change : String → String) : Value → Value
  | symbol name => symbol (change name)
  | list id items => list id (renameAll change items)
  | value => value

def renameAll (change : String → String) : List Value → List Value
  | [] => []
  | item :: rest => item.rename change :: renameAll change rest

end

inductive Quotes (name : String) : Value → Prop
  | here {id : ObjectId} {head datum : Value} (form : head.keyword? = some .quotation)
      (member : name ∈ datum.names) : Quotes name (.list id [head, datum])
  | body {id : ObjectId} {head parameters body : Value}
      (form : head.keyword? = some .abstraction) (deeper : Quotes name body) :
      Quotes name (.list id [head, parameters, body])
  | inside {id : ObjectId} {head part : Value} {operands : List Value}
      (evaluated : head.keyword? ≠ some .quotation ∧ head.keyword? ≠ some .abstraction)
      (member : part ∈ head :: operands) (deeper : Quotes name part) :
      Quotes name (.list id (head :: operands))

def ShownAlike (v v' : Value) : Prop :=
  ∀ style depth, Agree (Exhausted False) (fun _ _ => True) Eq (v.text style depth)
    (v'.text style depth)

end Value

structure Renaming where
  old : String
  new : String
  old_free : isKeyword old = false
  new_free : isKeyword new = false

namespace Renaming

variable (r : Renaming)

def change (inside : Bool) (name : String) : String :=
  if inside = true ∧ name = r.old then r.new else name

/-- Code in which one abstraction, not in quoted data, has the parameter, and the code in which that
one is renamed. -/
inductive Site : Value → Value → Prop
  | here {id id' : ObjectId} {head body : Value} {parameters : List String}
      (form : head.keyword? = some .abstraction) (parameter : r.old ∈ parameters)
      (unquoted : ¬ body.Quotes r.old) :
      Site (.list id [head, .list id' (parameters.map .symbol), body])
        (.list id [head, (Value.list id' (parameters.map .symbol)).rename (r.change true),
          body.rename (r.change true)])
  | head {id : ObjectId} {part part' : Value} {operands : List Value} (deeper : Site part part') :
      Site (.list id (part :: operands)) (.list id (part' :: operands))
  | operand {id : ObjectId} {head part part' : Value} {before after : List Value}
      (evaluated : head.keyword? ≠ some .quotation) (deeper : Site part part') :
      Site (.list id (head :: (before ++ part :: after)))
        (.list id (head :: (before ++ part' :: after)))

/-- A piece of code and what becomes of it: inside of the abstraction all of it is renamed, outside
nothing is or the abstraction is. -/
inductive Code (inside : Bool) : Value → Value → Prop
  | renamed {expr : Value} (unquoted : inside = true → ¬ expr.Quotes r.old) :
      Code inside expr (expr.rename (r.change inside))
  | site {expr expr' : Value} (outside : inside = false) (site : r.Site expr expr') :
      Code inside expr expr'

inductive Parameters (inside : Bool) : List Value → List Value → Prop
  | nil : Parameters inside [] []
  | name (name : String) {rest rest' : List Value} (others : Parameters inside rest rest') :
      Parameters inside (.symbol name :: rest) (.symbol (r.change inside name) :: rest')
  | other {v v' : Value} (rest rest' : List Value) (plain : v.isSymbol = false)
      (plain' : v'.isSymbol = false) (shown : v.ShownAlike v') :
      Parameters inside (v :: rest) (v' :: rest')

end Renaming

namespace Value

variable {v v' : Value} {name : String}

theorem mem_namesAll {items : List Value} :
    name ∈ namesAll items ↔ ∃ item ∈ items, name ∈ item.names := by
  induction items with
  | nil => simp [namesAll]
  | cons item items ih => simp [namesAll, ih]

theorem renameAll_eq_map (change : String → String) (items : List Value) :
    renameAll change items = items.map (rename change) := by
  induction items with
  | nil => rfl
  | cons item items ih => rw [renameAll, ih, List.map_cons]

theorem rename_list (change : String → String) (id : ObjectId) (items : List Value) :
    (Value.list id items).rename change = .list id (items.map (rename change)) := by
  rw [rename, renameAll_eq_map]

mutual

theorem rename_fixed {change : String → String} : ∀ v : Value,
    (∀ name ∈ v.names, change name = name) → v.rename change = v
  | .symbol name, fixed => by rw [rename, fixed name (List.mem_singleton_self name)]
  | .list id items, fixed => by rw [rename, renameAll_fixed items fixed]
  | .int _, _ | .real _, _ | .nan .., _ | .complex .., _ | .bool _, _ | .tuple .., _ | .nothing, _
  | .unbound, _ | .closure .., _ | .primitive _, _ => rfl

theorem renameAll_fixed {change : String → String} : ∀ items : List Value,
    (∀ name ∈ namesAll items, change name = name) → renameAll change items = items
  | [], _ => rfl
  | item :: rest, fixed => by
      rw [renameAll, rename_fixed item fun name member => fixed name (List.mem_append_left _ member),
        renameAll_fixed rest fun name member => fixed name (List.mem_append_right _ member)]

end

theorem isList_rename (change : String → String) (v : Value) :
    (v.rename change).isList = v.isList := by
  cases v <;> rfl

theorem isSymbol_rename (change : String → String) (v : Value) :
    (v.rename change).isSymbol = v.isSymbol := by
  cases v <;> rfl

namespace ShownAlike

theorem refl (v : Value) : ShownAlike v v := by
  intro style depth
  cases v.text style depth with
  | ok text => exact .ok trivial
  | error failure => exact .error rfl

theorem symbol (name name' : String) : ShownAlike (.symbol name) (.symbol name') := by
  intro style depth
  cases depth with
  | zero => exact .error rfl
  | succ depth => exact .ok trivial

theorem list {items items' : List Value} (id id' : ObjectId)
    (each : Forall₂ ShownAlike items items') : ShownAlike (.list id items) (.list id' items') := by
  intro style depth
  cases depth with
  | zero => exact .error rfl
  | succ depth =>
      exact (Agree.mapM each fun _ _ shown => shown style depth).map fun _ _ _ => trivial

theorem tuple {items items' : List Value} (id id' : ObjectId)
    (each : Forall₂ ShownAlike items items') : ShownAlike (.tuple id items) (.tuple id' items') := by
  intro style depth
  cases depth with
  | zero => exact .error rfl
  | succ depth =>
      exact (Agree.mapM each fun _ _ shown => shown .detailed depth).map fun _ _ _ => trivial

theorem closure {body body' : Value} (id id' : ObjectId) (parameters parameters' : List String)
    (frame frame' : FrameId) (shown : ShownAlike body body') :
    ShownAlike (.closure id parameters body frame) (.closure id' parameters' body' frame') := by
  intro style depth
  cases depth with
  | zero => exact .error rfl
  | succ depth => exact (shown .plain depth).map fun _ _ _ => trivial

theorem all (items : List Value) : Forall₂ ShownAlike items items := by
  rw [List.forall₂_same]
  exact fun item _ => refl item

/-- A name stands for itself in a sentence, and anything else has a text there. -/
theorem mention {texts : String → String → Prop} (any : ∀ text text', texts text text')
    (shown : ShownAlike v v') (symbols : v.isSymbol = v'.isSymbol) (depth : Nat) :
    Agree (Exhausted False) texts (Failure.Like texts) (v.mention depth) (v'.mention depth) := by
  have other : Agree (Exhausted False) texts (Failure.Like texts) (v.text .detailed depth)
      (v'.text .detailed depth) :=
    (shown .detailed depth).imp (fun _ _ _ => any _ _) fun _ _ same => same ▸ .same _
  cases v with
  | symbol name =>
      cases v' with
      | symbol name' => exact .ok (any _ _)
      | _ => cases symbols
  | _ =>
    cases v' with
    | symbol => cases symbols
    | _ => exact other

mutual

theorem rename (change : String → String) : ∀ v : Value, ShownAlike v (v.rename change)
  | .symbol name => symbol name (change name)
  | .list id items => list id id (renameAll change items)
  | .int _ | .real _ | .nan .. | .complex .. | .bool _ | .tuple .. | .nothing | .unbound
  | .closure .. | .primitive _ => refl _

theorem renameAll (change : String → String) : ∀ items : List Value,
    Forall₂ ShownAlike items (Value.renameAll change items)
  | [] => .nil
  | item :: rest => .cons (rename change item) (renameAll change rest)

end

end ShownAlike

end Value

namespace Renaming

variable {r : Renaming} {inside : Bool} {expr expr' : Value} {name : String}

@[simp] theorem change_outside (name : String) : r.change false name = name := by
  simp [change]

@[simp] theorem map_change_outside (names : List String) : names.map (r.change false) = names := by
  simp [List.map_congr_left fun name _ => change_outside name]

theorem change_other (other : name ≠ r.old) : r.change inside name = name := by
  simp [change, other]

theorem change_inj {other : String} (fresh : name ≠ r.new) (fresh' : other ≠ r.new) :
    r.change inside name = r.change inside other ↔ name = other := by
  grind [change]

theorem ofName?_change (name : String) :
    Keyword.ofName? (r.change inside name) = Keyword.ofName? name := by
  unfold change
  split
  · rename_i renamed
    have old := r.old_free
    have new := r.new_free
    simp only [isKeyword, Option.isSome_eq_false_iff, Option.isNone_iff_eq_none] at old new
    rw [renamed.2, old, new]
  · rfl

theorem isKeyword_change (name : String) : isKeyword (r.change inside name) = isKeyword name := by
  rw [isKeyword, isKeyword, ofName?_change]

theorem keyword?_rename (v : Value) : (v.rename (r.change inside)).keyword? = v.keyword? := by
  cases v with
  | symbol name => exact ofName?_change name
  | _ => rfl

theorem rename_outside (v : Value) : v.rename (r.change false) = v :=
  v.rename_fixed fun name _ => change_outside name

theorem rename_quoted {id : ObjectId} {head datum : Value} (form : head.keyword? = some .quotation)
    (unquoted : inside = true → ¬ Value.Quotes r.old (.list id [head, datum])) :
    datum.rename (r.change inside) = datum := by
  cases inside with
  | false => exact rename_outside datum
  | true =>
      refine datum.rename_fixed fun name member => change_other ?_
      rintro rfl
      exact unquoted rfl (.here form member)

namespace Site

theorem isList (site : r.Site expr expr') : expr.isList = true ∧ expr'.isList = true := by
  cases site <;> exact ⟨rfl, rfl⟩

theorem keyword? (site : r.Site expr expr') : expr.keyword? = none ∧ expr'.keyword? = none := by
  cases site <;> exact ⟨rfl, rfl⟩

theorem isSymbol (site : r.Site expr expr') :
    expr.isSymbol = false ∧ expr'.isSymbol = false := by
  cases site <;> exact ⟨rfl, rfl⟩

theorem shown (site : r.Site expr expr') : expr.ShownAlike expr' := by
  induction site with
  | here => exact .list _ _ (.cons (.refl _) (.cons (.rename _ _) (.cons (.rename _ _) .nil)))
  | head _ ih => exact .list _ _ (.cons ih (Value.ShownAlike.all _))
  | operand _ _ ih =>
    exact .list _ _ (.cons (.refl _)
      (List.rel_append (Value.ShownAlike.all _) (.cons ih (Value.ShownAlike.all _))))

end Site

namespace Code

theorem refl (expr : Value) : r.Code false expr expr := by
  have renamed : r.Code false expr (expr.rename (r.change false)) := .renamed nofun
  rwa [rename_outside] at renamed

theorem all (items : List Value) : Forall₂ (r.Code false) items items := by
  rw [List.forall₂_same]
  exact fun item _ => refl item

theorem keyword? (code : r.Code inside expr expr') : expr'.keyword? = expr.keyword? := by
  cases code with
  | renamed => exact keyword?_rename expr
  | site _ site => rw [site.keyword?.1, site.keyword?.2]

theorem isSymbol (code : r.Code inside expr expr') : expr.isSymbol = expr'.isSymbol := by
  cases code with
  | renamed => exact (Value.isSymbol_rename _ expr).symm
  | site _ site => rw [site.isSymbol.1, site.isSymbol.2]

theorem isList (code : r.Code inside expr expr') : expr.isList = expr'.isList := by
  cases code with
  | renamed => exact (Value.isList_rename _ expr).symm
  | site _ site => rw [site.isList.1, site.isList.2]

theorem shown (code : r.Code inside expr expr') : expr.ShownAlike expr' := by
  cases code with
  | renamed => exact .rename _ expr
  | site _ site => exact site.shown

theorem symbol (code : r.Code inside (.symbol name) expr') :
    expr' = .symbol (r.change inside name) := by
  cases code with
  | renamed => rfl
  | site _ site => cases site

theorem parts {id : ObjectId} {head : Value} {operands : List Value}
    (evaluated : head.keyword? ≠ some .quotation ∧ head.keyword? ≠ some .abstraction)
    (unquoted : inside = true → ¬ Value.Quotes r.old (.list id (head :: operands))) :
    Forall₂ (r.Code inside) (head :: operands)
      ((head :: operands).map (Value.rename (r.change inside))) := by
  rw [List.forall₂_map_right_iff, List.forall₂_same]
  exact fun part member => .renamed fun here deeper =>
    unquoted here (.inside evaluated member deeper)

end Code

theorem Parameters.renameAll (inside : Bool) (items : List Value) :
    r.Parameters inside items (Value.renameAll (r.change inside) items) := by
  induction items with
  | nil => exact .nil
  | cons item items ih =>
      cases symbol : item.isSymbol with
      | true =>
          cases item with
          | symbol name => exact .name name ih
          | _ => cases symbol
      | false =>
          exact .other _ _ symbol ((Value.isSymbol_rename _ item).trans symbol) (.rename _ item)

theorem Parameters.append (before : List Value) {items items' : List Value}
    (others : r.Parameters false items items') :
    r.Parameters false (before ++ items) (before ++ items') := by
  induction before with
  | nil => exact others
  | cons item before ih =>
      cases symbol : item.isSymbol with
      | true =>
          cases item with
          | symbol name =>
              have same : r.Parameters false _ (.symbol (r.change false name) :: _) := .name name ih
              rwa [change_outside] at same
          | _ => cases symbol
      | false => exact .other _ _ symbol symbol (.refl item)

/-- An abstraction in the place of a parameter list is no list of names, however it is renamed. -/
theorem Site.parameters {id : ObjectId} {items : List Value}
    (site : r.Site (.list id items) expr') :
    ∃ items', expr' = .list id items' ∧ r.Parameters false items items' := by
  cases site with
  | @here _ _ head =>
      refine ⟨_, rfl, Parameters.append [head] (.other _ _ rfl ?_ (.rename _ _))⟩
      exact Value.isSymbol_rename _ _
  | head deeper => exact ⟨_, rfl, .other _ _ deeper.isSymbol.1 deeper.isSymbol.2 deeper.shown⟩
  | @operand _ head _ _ before _ _ deeper =>
      refine ⟨_, rfl, Parameters.append (head :: before) ?_⟩
      exact .other _ _ deeper.isSymbol.1 deeper.isSymbol.2 deeper.shown

theorem Code.parameters {id : ObjectId} {items : List Value}
    (code : r.Code inside (.list id items) expr') :
    ∃ items', expr' = .list id items' ∧ r.Parameters inside items items' := by
  cases code with
  | renamed => exact ⟨_, rfl, .renameAll inside items⟩
  | site outside site =>
      subst outside
      exact site.parameters

theorem Parameters.names {texts : String → String → Prop} (any : ∀ text text', texts text text')
    {items items' : List Value} (related : r.Parameters inside items items') (depth : Nat) :
    Agree (Exhausted False)
      (fun (names names' : List String) =>
        items = names.map .symbol ∧ names' = names.map (r.change inside))
      (Failure.Like texts) (SpecialForm.parameterNames depth items)
      (SpecialForm.parameterNames depth items') := by
  induction related with
  | nil => exact .ok ⟨rfl, rfl⟩
  | name name _ ih =>
      refine ih.map fun names names' same => ?_
      obtain ⟨rfl, rfl⟩ := same
      exact ⟨rfl, rfl⟩
  | @other v v' rest _ plain plain' shown =>
      have refused : Agree (Exhausted False)
          (fun (names names' : List String) =>
            v :: rest = names.map .symbol ∧ names' = names.map (r.change inside))
          (Failure.Like texts) (v.mention depth >>= fun text => .error (.parameterExpected text))
          (v'.mention depth >>= fun text => .error (.parameterExpected text)) :=
        (shown.mention any (plain.trans plain'.symm) depth).refusal fun _ _ => .parameterExpected
      cases v with
      | symbol => cases plain
      | _ =>
        cases v' with
        | symbol => cases plain'
        | _ => exact refused

end Renaming

end MiniLisp
