import MiniLisp.Action

/-!
Environments as seen from outside of evaluation: a frame with all frames around it. A name may be
any value here; only symbols are ever bound, and a list cannot even be looked up.
-/

namespace MiniLisp.Environment

mutual

/-- Whether a value can be looked up as a name: it is no list and holds none in a tuple. -/
def isKey : Value → Bool
  | .list .. => false
  | .tuple _ items => areKeys items
  | _ => true

def areKeys : List Value → Bool
  | [] => true
  | item :: rest => isKey item && areKeys rest

end

def withName {α : Type} (depth : Nat) (name : Value) (action : String → Action α) : Action α :=
  match name with
  | .symbol name => action name
  | other =>
    if isKey other then do throw (.unboundSymbol (← Action.ofExcept (other.mention depth)))
    else throw (.unreported .listAsName)

def find (depth : Nat) (frame : FrameId) (name : Value) : Action FrameId :=
  withName depth name fun name => do
    match (← get).find? name frame with
    | some owner => return owner
    | none => throw (.unboundSymbol name)

def getOwn (depth : Nat) (frame : FrameId) (name : Value) : Action Value :=
  withName depth name fun name => do
    match (← get).get? name frame with
    | some value => return value
    | none => throw (.unboundSymbol name)

def lookup (depth : Nat) (frame : FrameId) (name : Value) : Action Value := do
  getOwn depth (← find depth frame name) name

/-- Whether a name is bound. The text of a name that is bound nowhere must exist. -/
def contains (depth : Nat) (frame : FrameId) (name : Value) : Action Bool :=
  tryCatch (do let _ ← find depth frame name; return true) fun
    | .unboundSymbol _ => return false
    | failure => throw failure

def define (depth : Nat) (frame : FrameId) (name value : Value) : Action Unit := do
  match name with
  | .symbol name => Action.define name value frame
  | other => throw (.notDefinable (← Action.ofExcept (other.mention depth)))

def assign (depth : Nat) (frame : FrameId) (name value : Value) : Action Unit :=
  withName depth name fun name => Action.assign name value frame

/-- Binds names to values in turn, up to a name that is `unbound`; a name without a value is bound
to `unbound`. -/
def bindAll (depth : Nat) (frame : FrameId) : List Value → List Value → Action Unit
  | [], _ => pure ()
  | .unbound :: _, _ => pure ()
  | name :: names, [] => do
    define depth frame name .unbound
    bindAll depth frame names []
  | name :: names, value :: values => do
    define depth frame name value
    bindAll depth frame names values

def make (depth : Nat) (names values : List Value) (outer : Option FrameId) : Action FrameId := do
  let frame ← modifyGet (Store.push · ⟨[], outer⟩)
  bindAll depth frame names values
  return frame

/-- A key of a table. The text of a name and the symbol of that name are two keys. -/
inductive TableKey where
  | text (name : String)
  | value (value : Value)

namespace TableKey

def toName : TableKey → Value
  | text name => .symbol name
  | value v => v

/-- Whether two keys are one. It does not matter for values other than symbols, as they cannot be
defined. -/
def agrees : TableKey → TableKey → Bool
  | text name, text name' => name = name'
  | value (.symbol name), value (.symbol name') => name = name'
  | _, _ => false

end TableKey

abbrev Table := List (TableKey × Value)

def Table.put (table : Table) (key : TableKey) (value : Value) : Table :=
  match table with
  | [] => [(key, value)]
  | (key', value') :: rest =>
    if key'.agrees key then (key', value) :: rest else (key', value') :: Table.put rest key value

def Table.ofRows (rows : List (TableKey × Value)) : Table :=
  rows.foldl (fun table (key, value) => table.put key value) []

def update (depth : Nat) (frame : FrameId) (rows : List (TableKey × Value)) : Action Unit := do
  if rows.all fun (key, _) => isKey key.toName then
    (Table.ofRows rows).forM fun (key, value) => define depth frame key.toName value
  else throw (.unreported .listAsName)

def bindingText (depth : Nat) (name : String) (value : Value) : Except Failure String :=
  (value.text .detailed depth).map fun text => name ++ ": " ++ text

def bindingsText (depth : Nat) (bindings : Bindings) : Except Failure String :=
  (bindings.mapM fun (name, value) => bindingText depth name value).map fun texts =>
    "\x7b" ++ ", ".intercalate texts ++ "\x7d"

def text (depth : Nat) (frame : FrameId) : Action String := do
  let store ← get
  let bindings ← Action.ofExcept (bindingsText depth (store.bindingsOf frame))
  return bindings ++ (if (store.outerOf frame).isSome then " -> ..." else "")

def chain (store : Store) (frame : FrameId) : List FrameId :=
  match store.outerOf frame with
  | some outer => if outer < frame then frame :: chain store outer else [frame]
  | none => [frame]

def chainText (depth : Nat) (frame : FrameId) : Action String := do
  let store ← get
  let texts ← Action.ofExcept
    ((chain store frame).mapM fun frame => bindingsText depth (store.bindingsOf frame))
  return "<Environment chain: " ++ " -> ".intercalate texts ++ ">"

end MiniLisp.Environment
