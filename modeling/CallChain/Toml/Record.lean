import CallChain.Toml.Value

/-!
# Records read from TOML

A record is a table whose entries are its fields, an array that gives the fields in their order, or
a moment, which gives none.  A field that is missing takes its default, and what belongs to no field
is left alone.
-/

set_option autoImplicit false

namespace CallChain.Toml

def text? : Toml → Option String
  | .text s => some s
  | _ => none

def flag? : Toml → Option Bool
  | .flag b => some b
  | _ => none

/-- The natural number that a value is. -/
def natural? : Toml → Option Nat
  | .integer n => if 0 ≤ n then some n.toNat else none
  | _ => none

/-- The items of a value that has several. -/
def items? : Toml → Option (List Toml)
  | .array items => some items
  | .tables all => some all
  | _ => none

def texts? (t : Toml) : Option (List String) := t.items?.bind fun items => items.mapM text?

/-- Whether a record can be read from a value. -/
def isRecord : Toml → Bool
  | .table _ _ => true
  | .array _ => true
  | .tables _ => true
  | .moment _ => true
  | _ => false

/-- The value of a field, known by its name in a table and by its place in an array. -/
def part? (t : Toml) (place : Nat) (name : String) : Option Toml :=
  match t.items? with
  | some items => items[place]?
  | none => t.entry? name

/-- A field of a record, or its default. -/
def field? {α : Type} (t : Toml) (place : Nat) (name : String) (read : Toml → Option α)
    (default : α) : Option α :=
  match t.part? place name with
  | some v => read v
  | none => some default

end CallChain.Toml
