import CallChain.Text.Split

/-!
# File paths

A path is a sequence of components separated by slashes.  Repeated slashes and inner or trailing
`.` components say nothing.  The short form of a path keeps its last name together with the name of
the directory right before it.
-/

set_option autoImplicit false

namespace CallChain.Text

/-- One component of a path. -/
inductive PathComponent where
  /-- The leading slash. -/
  | root
  /-- A leading `.`. -/
  | here
  /-- `..`, wherever it stands. -/
  | up
  /-- An ordinary name. -/
  | name (text : List Char)
  deriving DecidableEq, Repr

/-- The component a piece between slashes stands for; empty pieces and `.` stand for none. -/
def PathComponent.ofPiece? (piece : List Char) : Option PathComponent :=
  if piece = [] ∨ piece = ['.'] then none
  else if piece = ['.', '.'] then some .up
  else some (.name piece)

/-- The components of a path, in order. -/
def pathComponents (path : List Char) : List PathComponent :=
  let pieces := splitAll '/' path
  let rest := pieces.filterMap PathComponent.ofPiece?
  match path, pieces with
  | '/' :: _, _ => .root :: rest
  | _, ['.'] :: _ => .here :: rest
  | _, _ => rest

/-- The last name of a path with the name right before it; the last name alone when no ordinary
name precedes it directly; the text unchanged when the path has no last name. -/
def shortPath (path : String) : String :=
  match (pathComponents path.toList).reverse with
  | .name last :: .name parent :: _ => String.ofList (parent ++ '/' :: last)
  | .name last :: _ => String.ofList last
  | _ => path

end CallChain.Text
