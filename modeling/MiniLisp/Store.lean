import MiniLisp.Value

/-!
The store: frames of bindings, each with at most one frame around it, the identities in use, and
what has been printed. A frame is made after the frame around it, so walks outward end.
-/

namespace MiniLisp

abbrev Bindings := List (String × Value)

namespace Bindings

def get? (name : String) : Bindings → Option Value
  | [] => none
  | (bound, value) :: rest => if bound = name then some value else get? name rest

/-- Binds a name, keeping its place if it is bound already. -/
def set (name : String) (value : Value) : Bindings → Bindings
  | [] => [(name, value)]
  | (bound, old) :: rest =>
    if bound = name then (bound, value) :: rest else (bound, old) :: set name value rest

/-- Binds parameters in turn. One without an argument is bound to `unbound`; arguments without a
parameter have no effect. -/
def ofArguments (bindings : Bindings) : List String → List Value → Bindings
  | [], _ => bindings
  | parameter :: parameters, [] => (bindings.set parameter .unbound).ofArguments parameters []
  | parameter :: parameters, value :: values =>
    (bindings.set parameter value).ofArguments parameters values

end Bindings

structure Frame where
  bindings : Bindings
  outer : Option FrameId

structure Store where
  frames : Array Frame
  nextId : ObjectId
  output : String

namespace Store

def empty : Store := ⟨#[], Value.firstFresh, ""⟩

def outerOf (store : Store) (frame : FrameId) : Option FrameId :=
  store.frames[frame]?.bind Frame.outer

def bindingsOf (store : Store) (frame : FrameId) : Bindings :=
  match store.frames[frame]? with
  | some frame => frame.bindings
  | none => []

def find? (store : Store) (name : String) (frame : FrameId) : Option FrameId :=
  if ((store.bindingsOf frame).get? name).isSome then some frame
  else
    match store.outerOf frame with
    | some outer => if outer < frame then store.find? name outer else none
    | none => none

def get? (store : Store) (name : String) (frame : FrameId) : Option Value :=
  (store.bindingsOf frame).get? name

def lookup? (store : Store) (name : String) (frame : FrameId) : Option Value :=
  (store.find? name frame).bind (store.get? name)

def define (store : Store) (frame : FrameId) (name : String) (value : Value) : Store :=
  { store with
    frames := store.frames.modify frame fun f => { f with bindings := f.bindings.set name value } }

def assign? (store : Store) (frame : FrameId) (name : String) (value : Value) : Option Store :=
  (store.find? name frame).map fun owner => store.define owner name value

def push (store : Store) (frame : Frame) : FrameId × Store :=
  (store.frames.size, { store with frames := store.frames.push frame })

def write (store : Store) (text : String) : Store := { store with output := store.output ++ text }

end Store

end MiniLisp
