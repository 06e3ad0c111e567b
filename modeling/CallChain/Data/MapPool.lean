import CallChain.Data.ValueMap

/-!
# The maps of a program

A pool holds the maps of values that a program keeps, all empty at first.  A step does one thing to one of
them, and may look at another one for it; its answer is what the operation gives back.  Maps go by their
numbers.
-/

set_option autoImplicit false

namespace CallChain

/-- Something done to a map of values. -/
inductive MapOp where
  | new
  /-- Makes the map anew, from pairs. -/
  | collect (pairs : List (String × String))
  | set (key : String) (values : List String)
  | insert (key value : String)
  | add (key value : String)
  | append (key : String) (values : List String)
  | merge (other : Nat)
  | extend (other : Nat)
  | remove (key : String)
  | get (key : String)
  | getAll (key : String)
  | contains (key : String)
  deriving DecidableEq, Repr

/-- An operation on the map of a number. -/
structure MapStep where
  map : Nat
  op : MapOp
  deriving DecidableEq, Repr

/-- What an operation gives back. -/
inductive MapAnswer where
  | done
  | first (value : Option String)
  | all (values : List String)
  | present (b : Bool)
  | removed (values : Option (List String))
  deriving DecidableEq, Repr

/-- The maps of a program. -/
def MapPool (c : KeyCase) : Type := Nat → ValueMap c

namespace MapPool

variable {c : KeyCase}

def empty : MapPool c := fun _ => .empty

/-- What an operation makes of a map. -/
def changed (p : MapPool c) (m : ValueMap c) : MapOp → ValueMap c
  | .new => .empty
  | .collect pairs => .ofPairs pairs
  | .set key values => m.set key values
  | .insert key value => m.insert key value
  | .add key value => m.add key value
  | .append key values => m.append key values
  | .merge other => m.merge (p other)
  | .extend other => m.extend (p other)
  | .remove key => m.erase key
  | .get _ | .getAll _ | .contains _ => m

/-- What an operation on a map gives back. -/
def answer (m : ValueMap c) : MapOp → MapAnswer
  | .remove key => .removed (m.removed? key)
  | .get key => .first (m.get? key)
  | .getAll key => .all (m.getAll key)
  | .contains key => .present (m.contains key)
  | _ => .done

def perform (p : MapPool c) (s : MapStep) : MapPool c :=
  fun n => if n = s.map then p.changed (p n) s.op else p n

/-- The pool after steps, one after the other. -/
def performAll (p : MapPool c) (steps : List MapStep) : MapPool c := steps.foldl perform p

/-- What the steps give back, each in its turn. -/
def answers (p : MapPool c) : List MapStep → List MapAnswer
  | [] => []
  | s :: rest => answer (p s.map) s.op :: (p.perform s).answers rest

end MapPool

end CallChain
