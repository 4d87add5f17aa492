import MiniLisp.Proofs.Grammar
import MiniLisp.Proofs.Notation
import MiniLisp.Proofs.Tokens
import MiniLisp.Value.Printer

namespace MiniLisp

inductive Readable : Expr → Prop
  | int {n : Int} (short : n.natAbs < Nat.pow 10 maxNumeralLength) : Readable (.int n)
  | real {x : Real64} (finite : x.isFinite) : Readable (.real x)
  | symbol {name : String} (nonempty : name ≠ "") (plain : IsPlain name.toList)
      (named : Expr.ofToken name = .symbol name) : Readable (.symbol name)
  | list {items : List Expr} (each : ∀ item ∈ items, Readable item) : Readable (.list items)

inductive IsBounded : Expr → Prop
  | int {n : Int} : IsBounded (.int n)
  | real {x : Real64} (finite : x.isFinite) : IsBounded (.real x)
  | symbol {name : String} : IsBounded (.symbol name)
  | list {items : List Expr} (each : ∀ item ∈ items, IsBounded item) : IsBounded (.list items)

mutual

def Expr.plainText : Expr → String
  | .int n => toString n
  | .real x => x.text
  | .symbol name => name
  | .list items => listText .plain (Expr.plainTexts items)

def Expr.plainTexts : List Expr → List String
  | [] => []
  | item :: rest => item.plainText :: Expr.plainTexts rest

end

theorem heights_le_iff {items : List Expr} {bound : Nat} :
    Expr.heights items ≤ bound ↔ ∀ item ∈ items, item.height ≤ bound := by
  induction items with
  | nil => simp [Expr.heights]
  | cons first rest ih => rw [Expr.heights, Nat.max_le, ih, List.forall_mem_cons]

theorem text_items {items : List Expr} {depth : Nat}
    (each : ∀ item ∈ items, ∀ next, (item.toValue next).1.text .plain depth = .ok item.plainText)
    (next : ObjectId) :
    (Expr.toValues next items).1.mapM (Value.text .plain depth) = .ok (Expr.plainTexts items) := by
  induction items generalizing next with
  | nil => rfl
  | cons item rest ih =>
      have first := each item List.mem_cons_self next
      have others := ih (fun item member => each item (List.mem_cons_of_mem _ member))
        (item.toValue next).2
      change ((item.toValue next).1 :: (Expr.toValues (item.toValue next).2 rest).1).mapM
        (Value.text .plain depth) = _
      rw [List.mapM_cons, first, others]
      rfl

theorem text_toValue {expr : Expr} (readable : Readable expr) (next : ObjectId) {depth : Nat}
    (shallow : expr.height < depth) :
    (expr.toValue next).1.text .plain depth = .ok expr.plainText := by
  obtain ⟨below, rfl⟩ : ∃ below, depth = below + 1 := Nat.exists_eq_add_one.mpr (by omega)
  induction readable generalizing next below with
  | int short =>
      rw [Expr.toValue, Value.text, intText, if_pos short]
      rfl
  | real => rfl
  | symbol => rfl
  | @list items each ih =>
      rw [Expr.height] at shallow
      obtain ⟨lower, rfl⟩ : ∃ lower, below = lower + 1 := Nat.exists_eq_add_one.mpr (by omega)
      have low := heights_le_iff.mp (by omega : Expr.heights items ≤ lower)
      have texts := text_items (fun item member next =>
        ih item member next lower (Nat.lt_succ_of_le (low item member))) next
      change ((Expr.toValues next items).1.mapM (Value.text .plain (lower + 1))).map
        (listText .plain) = _
      rw [texts]
      rfl

/-- A text is tokens that spell an expression, also where more follows. -/
def Denotes (text : String) (expr : Expr) : Prop :=
  ∃ tokens, Spells (tokens.map String.ofList) expr ∧ ∀ rest, Apart rest →
    tokenWords (text.toList ++ rest) = tokens ++ tokenWords rest

def Tokenizes (expr : Expr) : Prop := Denotes expr.plainText expr

theorem tokenizes_atom {expr : Expr} (plain : IsPlain expr.plainText.toList)
    (named : Expr.ofToken expr.plainText = expr) (nonempty : expr ≠ .symbol "") :
    Tokenizes expr := by
  have present : expr.plainText.toList ≠ [] := by
    intro empty
    refine nonempty ?_
    rw [← named, String.toList_eq_nil_iff.mp empty]
    rfl
  have notOpen : expr.plainText ≠ openToken := by
    intro same
    rw [same] at plain
    exact absurd plain (by decide)
  have notClose : expr.plainText ≠ closeToken := by
    intro same
    rw [same] at plain
    exact absurd plain (by decide)
  have spelled := Spells.atom notOpen notClose
  rw [named] at spelled
  refine ⟨[expr.plainText.toList], ?_, fun rest apart => tokenWords_word present plain apart⟩
  rw [List.map_singleton, String.ofList_toList]
  exact spelled

theorem denotes_items {texts : List String} {items : List Expr}
    (each : List.Forall₂ Denotes texts items) :
    ∃ tokens, SpellsAll (tokens.map String.ofList) items ∧ ∀ rest, Apart rest →
      tokenWords ((" ".intercalate texts).toList ++ rest) = tokens ++ tokenWords rest := by
  induction each with
  | nil => exact ⟨[], .nil, fun _ _ => rfl⟩
  | @cons text item texts items first others ih =>
      obtain ⟨taken, spelled, written⟩ := first
      obtain ⟨tokens, spelledAll, writtenAll⟩ := ih
      cases others with
      | nil =>
          refine ⟨taken, ?_, written⟩
          have spelledAll := SpellsAll.cons spelled .nil
          rwa [List.append_nil] at spelledAll
      | @cons second _ others =>
          refine ⟨taken ++ tokens, ?_, fun rest apart => ?_⟩
          · rw [List.map_append]
            exact .cons spelled spelledAll
          · have blank : isBlank ' ' := by decide
            have split : (" ".intercalate (text :: second :: others)).toList ++ rest =
                text.toList ++ ' ' :: ((" ".intercalate (second :: others)).toList ++ rest) := by
              simp [String.intercalate_cons_cons]
            rw [split, written (' ' :: _) (.inl blank), tokenWords_blank blank,
              writtenAll rest apart, List.append_assoc]

theorem denotes_list {texts : List String} {items : List Expr}
    (each : List.Forall₂ Denotes texts items) :
    Denotes ("(" ++ " ".intercalate texts ++ ")") (.list items) := by
  obtain ⟨tokens, spelled, written⟩ := denotes_items each
  refine ⟨['('] :: tokens ++ [[')']], ?_, fun rest apart => ?_⟩
  · rw [List.map_append]
    exact .list spelled
  · have close : Apart (')' :: rest) := .inr (.inr rfl)
    have split : ("(" ++ " ".intercalate texts ++ ")").toList ++ rest =
        '(' :: ((" ".intercalate texts).toList ++ ')' :: rest) := by
      simp
    rw [split, tokenWords_parenthesis (.inl rfl), written _ close,
      tokenWords_parenthesis (.inr rfl)]
    simp

theorem tokenizes_items {items : List Expr} (each : ∀ item ∈ items, Tokenizes item) :
    List.Forall₂ Denotes (Expr.plainTexts items) items := by
  induction items with
  | nil => exact .nil
  | cons item others ih =>
      exact .cons (each item List.mem_cons_self)
        (ih fun other member => each other (List.mem_cons_of_mem item member))

theorem tokenizes_list {items : List Expr} (each : ∀ item ∈ items, Tokenizes item) :
    Tokenizes (.list items) := denotes_list (tokenizes_items each)

theorem tokenizes_readable {expr : Expr} (readable : Readable expr) : Tokenizes expr := by
  induction readable with
  | int short =>
      refine tokenizes_atom ?_ ?_ nofun
      · rw [Expr.plainText, toList_toString]
        exact isPlain_withSign _ (isPlain_decimal (decimal_toDigits _))
      · rw [Expr.plainText, Expr.ofToken, readInteger?_toString short]
  | real finite =>
      refine tokenizes_atom (Real64.isPlain_text finite) ?_ nofun
      rw [Expr.plainText, Expr.ofToken, Real64.readInteger?_text finite,
        Real64.readDecimal?_text finite]
  | symbol nonempty plain named => exact tokenizes_atom plain named (by simpa using nonempty)
  | list each ih => exact tokenizes_list ih

theorem parse_of_denotes {text : String} {expr : Expr} (denotes : Denotes text expr) {room : Nat}
    (enough : expr.height ≤ room) : parse room text = .ok expr := by
  obtain ⟨tokens, spelled, written⟩ := denotes
  have all := written [] trivial
  have read := readOpen_spells spelled [] [] room enough
  have none : tokenWords [] = [] := rfl
  rw [List.append_nil, none, List.append_nil] at all
  rw [List.append_nil] at read
  rw [parse, tokenize_eq, all, read]
  rfl

theorem parse_plainText {expr : Expr} (readable : Readable expr) {room : Nat}
    (enough : expr.height ≤ room) : parse room expr.plainText = .ok expr :=
  parse_of_denotes (tokenizes_readable readable) enough

theorem readable_ofToken {token : String} (wellFormed : IsTokenWord token.toList)
    (notOpen : token ≠ openToken) (notClose : token ≠ closeToken)
    (bounded : IsBounded (.ofToken token)) : Readable (.ofToken token) := by
  cases integer : readInteger? token.toList with
  | some n =>
      have named : Expr.ofToken token = .int n := by rw [Expr.ofToken, integer]
      rw [named]
      exact .int (readInteger?_bound integer)
  | none =>
      cases decimal : readDecimal? token.toList with
      | some x =>
          have named : Expr.ofToken token = .real x := by rw [Expr.ofToken, integer, decimal]
          rw [named] at bounded ⊢
          cases bounded with
          | real finite => exact .real finite
      | none =>
          have named : Expr.ofToken token = .symbol token := by rw [Expr.ofToken, integer, decimal]
          rw [named]
          rcases wellFormed with same | same | ⟨nonempty, plain⟩
          · exact absurd (String.toList_inj.mp same) notOpen
          · exact absurd (String.toList_inj.mp same) notClose
          · refine .symbol ?_ plain named
            intro empty
            subst empty
            exact nonempty rfl

def CanBeWritten (room : Nat) (expr : Expr) : Prop :=
  expr.height ≤ room ∧ (IsBounded expr → Readable expr)

theorem canBeWritten_list (room : Nat) (items : List Expr)
    (each : ∀ item ∈ items, CanBeWritten room item) : CanBeWritten (room + 1) (.list items) := by
  refine ⟨?_, fun bounded => ?_⟩
  · rw [Expr.height]
    exact Nat.succ_le_succ (heights_le_iff.mpr fun item member => (each item member).1)
  · cases bounded with
    | list eachBounded =>
        exact .list fun item member => (each item member).2 (eachBounded item member)

theorem canBeWritten_of_parse {room : Nat} {line : String} {expr : Expr}
    (read : parse room line = .ok expr) : CanBeWritten room expr := by
  have atom (token : String) (member : token ∈ tokenize line) (notOpen : token ≠ openToken)
      (notClose : token ≠ closeToken) (room : Nat) : CanBeWritten room (.ofToken token) := by
    refine ⟨by simp, fun bounded => ?_⟩
    exact readable_ofToken (isTokenWord_tokenize member) notOpen notClose bounded
  exact parse_holds canBeWritten_list atom read

/-- Expressions read back from what they are written as, with every number of the same kind; and
what a line holds, infinities apart, is written without a failure and reads back. -/
theorem parse_text :
    (∀ expr, Readable expr → ∀ next depth room, expr.height < depth → expr.height ≤ room →
      ∃ written, (expr.toValue next).1.text .plain depth = .ok written ∧
        parse room written = .ok expr) ∧
    (∀ room line expr, parse room line = .ok expr → IsBounded expr →
      Readable expr ∧ ∀ next depth, expr.height < depth →
        ∃ written, (expr.toValue next).1.text .plain depth = .ok written ∧
          parse room written = .ok expr) := by
  have writes (expr : Expr) (readable : Readable expr) (next depth room : Nat)
      (shallow : expr.height < depth) (enough : expr.height ≤ room) :
      ∃ written, (expr.toValue next).1.text .plain depth = .ok written ∧
        parse room written = .ok expr :=
    ⟨expr.plainText, text_toValue readable next shallow, parse_plainText readable enough⟩
  refine ⟨writes, fun room line expr read bounded => ?_⟩
  obtain ⟨enough, readable⟩ := canBeWritten_of_parse read
  exact ⟨readable bounded, fun next depth shallow =>
    writes expr (readable bounded) next depth room shallow enough⟩

def mixed : Expr := .list [.int (-7), .list [.real (.ofQuotient false 1 2), .symbol "a"]]

theorem parse_text_mixed :
    Readable mixed ∧ ∃ written, (mixed.toValue 2).1.text .plain 3 = .ok written ∧
      parse 2 written = .ok mixed := by
  have named : Expr.ofToken "a" = .symbol "a" := by with_unfolding_all rfl
  have inner : Readable (.list [.real (.ofQuotient false 1 2), .symbol "a"]) := by
    refine .list (List.forall_mem_cons.mpr ⟨.real (by decide +kernel), ?_⟩)
    exact List.forall_mem_singleton.mpr (.symbol (by decide) (by decide) named)
  have readable : Readable mixed := by
    refine .list (List.forall_mem_cons.mpr ⟨.int (by decide +kernel), ?_⟩)
    exact List.forall_mem_singleton.mpr inner
  exact ⟨readable, parse_text.1 mixed readable 2 3 2 (by decide) (by decide)⟩

end MiniLisp
