import SampleTypes.Schema.Shapes
/-!
# Emission order — dependencies before dependents

Declarations are emitted after everything they refer to. The store is traversed depth first, from
each declaration in turn, with a stack of frames: a declaration with the dependencies it has still to
look at. A dependency that is on the stack would close a cycle; the edge to it is skipped and
recorded. One that is finished, or that no declaration has, is passed over.

Each frame is pushed once and each edge looked at once, so `Traversal.effort` steps are enough.
-/

set_option autoImplicit false

namespace SampleTypes

/-- An edge from a declaration to one it refers to, by name. -/
abbrev Edge := Text × Text

/-- Declarations in the order in which they are emitted. -/
structure Emission where
  /-- The declarations, dependencies first. -/
  declarations : List Declaration
  /-- The edges that would close a cycle, in the order in which they were met. -/
  skipped : List Edge
deriving DecidableEq, Repr

/-- The state of a traversal. -/
structure Traversal where
  /-- The declarations being visited, the innermost first, each with the dependencies left. -/
  frames : List (Declaration × List Text) := []
  /-- The finished declarations, the latest first. -/
  finished : List Declaration := []
  /-- The edges skipped, the latest first. -/
  skipped : List Edge := []

namespace Traversal

/-- Whether the declaration of that name is being visited. -/
def isOpen (t : Traversal) (name : Text) : Bool := t.frames.any fun frame => frame.1.name == name

def isFinished (t : Traversal) (name : Text) : Bool := t.finished.any fun d => d.name == name

/-- Begins to visit a declaration. -/
def push (t : Traversal) (d : Declaration) : Traversal :=
  { t with frames := (d, d.dependencies) :: t.frames }

/-- Looks at the next dependency of the innermost declaration, or finishes it after the last one. -/
def step (shapes : Shapes) (t : Traversal) : Traversal :=
  match t.frames with
  | [] => t
  | (d, []) :: outer => { t with frames := outer, finished := d :: t.finished }
  | (d, name :: names) :: outer =>
    let rest := { t with frames := (d, names) :: outer }
    -- A declaration that refers to itself is open, so the edge to itself is skipped like any other.
    if t.isOpen name then { rest with skipped := (d.name, name) :: t.skipped }
    else if t.isFinished name then rest
    else
      match shapes.find? name with
      | none => rest
      | some next => rest.push next

/-- Steps until no declaration is being visited, at most `steps` times. -/
def run (shapes : Shapes) : Nat → Traversal → Traversal
  | 0, t => t
  | steps + 1, t => if t.frames.isEmpty then t else run shapes steps (step shapes t)

/-- A number of steps that is enough to finish whatever is begun. -/
def effort (shapes : Shapes) : Nat :=
  shapes.declarations.foldr (fun d rest => d.dependencies.length + 1 + rest) 0

/-- Visits a declaration and what it refers to, unless it is finished. -/
def visit (shapes : Shapes) (t : Traversal) (d : Declaration) : Traversal :=
  if t.isFinished d.name then t else run shapes (effort shapes) (t.push d)

end Traversal

/-- The declarations of a store in the order of emission. -/
def Shapes.emission (shapes : Shapes) : Emission :=
  let t := shapes.declarations.foldl (Traversal.visit shapes) {}
  ⟨t.finished.reverse, t.skipped.reverse⟩

end SampleTypes
