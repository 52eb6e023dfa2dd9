import FoxScript.Diagnostic
import FoxScript.Value.Basic

/-!
# Stores

A store keeps the frames and arrays of a session. Frames form a tree: a name is looked up in a
frame, then in its parent, and so on, or in the frame that lies a known number of parents away.
Frames and arrays are only added; a frame gains names and its names change values, and an array
keeps its length.
-/
namespace FoxScript

/-- What opened a frame. -/
inductive Origin
  /-- Nothing: it holds the global names. -/
  | root
  /-- A block with these members. -/
  | block (members : List Expr)
  /-- A call of a function with these parameters and this body. -/
  | call (params : List Token) (body : Expr)

/-- Bindings of names, of which each name has at most one. -/
abbrev Bindings := List (String × Value)

/-- The bindings with the value of one name replaced. Other names are kept, and none is added. -/
def Bindings.replace (name : String) (v : Value) : Bindings → Bindings
  | [] => []
  | (n, w) :: rest => if n = name then (n, v) :: rest else (n, w) :: Bindings.replace name v rest

/-- A frame: the names that one block or call binds. -/
structure Frame where
  /-- What opened the frame. -/
  origin : Origin
  /-- The frame around it. -/
  parent : Option FrameId
  /-- The names with their values. -/
  bindings : Bindings

instance : Inhabited Frame := ⟨.root, none, []⟩

/-- The frames and arrays of a session. -/
structure Store where
  /-- The frames, by number. -/
  frames : Array Frame
  /-- The arrays, by number. -/
  arrays : Array (Array Value)
  /-- The number that the next function gets. -/
  functions : Nat

namespace Store

/-- The number of the frame of global names. -/
def root : FrameId := ⟨0⟩

/-- The store with a frame of global names that is still empty. -/
def empty : Store := ⟨#[⟨.root, none, []⟩], #[], 0⟩

/-! ### Frames -/

/-- Adds a frame inside `parent`. -/
def branch (s : Store) (origin : Origin) (parent : FrameId) : FrameId × Store :=
  (⟨s.frames.size⟩, { s with frames := s.frames.push ⟨origin, some parent, []⟩ })

/-- The frame around a frame. -/
def parent? (s : Store) (f : FrameId) : Option FrameId := do (← s.frames[f.index]?).parent

/-- The value of a name in one frame. -/
def lookup? (s : Store) (f : FrameId) (name : String) : Option Value := do
  (← s.frames[f.index]?).bindings.lookup name

/-- Changes the bindings of a frame. -/
def modifyFrame (s : Store) (f : FrameId) (change : Bindings → Bindings) : Store :=
  { s with
    frames := s.frames.modify f.index fun frame =>
      { frame with bindings := change frame.bindings } }

/-- Gives a name of a frame a new value. -/
def replace (s : Store) (f : FrameId) (name : String) (v : Value) : Store :=
  s.modifyFrame f (Bindings.replace name v)

/-- Binds a name in a frame, whether the frame has the name or not. -/
def define (s : Store) (f : FrameId) (name : String) (v : Value) : Store :=
  s.modifyFrame f fun bs =>
    if (bs.lookup name).isSome then Bindings.replace name v bs else (name, v) :: bs

/-- The frame that lies so many parents away. -/
def ancestor? (s : Store) (f : FrameId) : Nat → Option FrameId
  | 0 => some f
  | n + 1 => do s.ancestor? (← s.parent? f) n

/-- Looks for the first frame with a name, from `f` outward along at most so many frames. -/
def ownerFrom? (s : Store) (name : String) : Nat → FrameId → Option FrameId
  | 0, _ => none
  | n + 1, f =>
    if (s.lookup? f name).isSome then some f
    else
      match s.parent? f with
      | some g => s.ownerFrom? name n g
      | none => none

/-- The first frame with a name, from `f` outward. A parent is older than its children, so the
number of `f` bounds the search. -/
def owner? (s : Store) (f : FrameId) (name : String) : Option FrameId :=
  s.ownerFrom? name (f.index + 1) f

/-- The first frame with a name, from `f` outward. -/
def find (s : Store) (f : FrameId) (name : String) : Except Fault FrameId :=
  match s.owner? f name with
  | some g => .ok g
  | none => .error (.undefinedVariable name)

/-- The frame that lies so many parents away, which must have the name. -/
def findAt (s : Store) (f : FrameId) (hops : Nat) (name : String) : Except Fault FrameId :=
  match s.ancestor? f hops with
  | some g => if (s.lookup? g name).isSome then .ok g else .error (.undefinedVariable name)
  | none => .error (.undefinedVariable name)

/-- The value of a name in a frame that has it. -/
def valueIn (s : Store) (name : String) (f : FrameId) : Value := (s.lookup? f name).getD .null

/-- The value of a name in a frame or the frames around it. -/
def get (s : Store) (f : FrameId) (name : String) : Except Fault Value :=
  (s.find f name).map (s.valueIn name)

/-- The value of a name in the frame that lies so many parents away. -/
def getAt (s : Store) (f : FrameId) (hops : Nat) (name : String) : Except Fault Value :=
  (s.findAt f hops name).map (s.valueIn name)

/-- Gives a name its new value in the first frame that has it, from `f` outward. -/
def assign (s : Store) (f : FrameId) (name : String) (v : Value) : Except Fault Store :=
  (s.find f name).map fun g => s.replace g name v

/-- Gives a name its new value in the frame that lies so many parents away. -/
def assignAt (s : Store) (f : FrameId) (hops : Nat) (name : String) (v : Value) :
    Except Fault Store :=
  (s.findAt f hops name).map fun g => s.replace g name v

/-! ### Arrays and functions -/

/-- The elements of an array. -/
def elements (s : Store) (a : ArrayId) : Array Value := s.arrays[a.index]?.getD #[]

/-- Adds an array. -/
def newArray (s : Store) (vs : Array Value) : ArrayId × Store :=
  (⟨s.arrays.size⟩, { s with arrays := s.arrays.push vs })

/-- Replaces an element of an array. -/
def setAt (s : Store) (a : ArrayId) (i : Nat) (v : Value) : Store :=
  { s with arrays := s.arrays.modify a.index fun vs => vs.set! i v }

/-- A number for a function that is made. -/
def newFunction (s : Store) : FunctionId × Store :=
  (⟨s.functions⟩, { s with functions := s.functions + 1 })

/-- Binds the standard builtin functions in the frame of global names. -/
def addBuiltins (s : Store) : Store :=
  Builtin.standard.foldl (fun s b =>
    let (id, s) := s.newFunction
    s.define root b.name (.function (.builtin id b))) s

end Store

end FoxScript
