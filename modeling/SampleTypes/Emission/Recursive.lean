import SampleTypes.Emission.Order
/-!
# Emission order by recursion

The same order as the traversal with a stack, written as a recursive depth-first post-order. `path`
holds the names that are being visited; a path cannot be longer than there are declarations, so their
number bounds the recursion.
-/

set_option autoImplicit false

namespace SampleTypes.Recursive

/-- Visits what a declaration refers to and then finishes it. -/
def visit (shapes : Shapes) (room : Nat) (path : List Text) (e : Emission) (d : Declaration) :
    Emission :=
  match room with
  | 0 => e
  | room + 1 =>
    let path := d.name :: path
    let e := d.dependencies.foldl (fun e name =>
      if path.contains name then { e with skipped := e.skipped ++ [(d.name, name)] }
      else if e.declarations.any (·.name == name) then e
      else
        match shapes.find? name with
        | none => e
        | some next => visit shapes room path e next) e
    { e with declarations := e.declarations ++ [d] }

/-- The declarations of a store in depth-first post-order. -/
def emission (shapes : Shapes) : Emission :=
  shapes.declarations.foldl (fun e d =>
    if e.declarations.any (·.name == d.name) then e else visit shapes shapes.size [] e d) ⟨[], []⟩

end SampleTypes.Recursive
