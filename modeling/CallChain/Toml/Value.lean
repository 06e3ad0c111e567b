import CallChain.Decimal.Binary64

/-!
# TOML values

A document is a tree of values.  A table remembers what brought it into being, because that decides
which later lines may add to it: `Toml.within` walks from a table along a path of keys, making the
tables that are missing, and refuses to enter what is closed.  A header may open again only a table
that nothing but a longer header has made, and a dotted key adds only to tables made by dotted keys.
Between braces, where no header can be, a dotted key adds to any table between the same braces.
-/

set_option autoImplicit false

namespace CallChain

/-- What brought a table into being. -/
inductive TableOrigin where
  | inline
  /-- A header of its own, or the start of the document. -/
  | header
  | passage
  | dotted
  deriving DecidableEq, Repr

/-- A TOML value. -/
inductive Toml where
  | text (s : String)
  | integer (n : Int)
  | float (x : Binary64)
  | flag (b : Bool)
  /-- A date, a time or both, as written. -/
  | moment (written : String)
  | array (items : List Toml)
  /-- A table and its entries in the order written. -/
  | table (origin : TableOrigin) (entries : List (String × Toml))
  /-- The tables under a doubled header. -/
  | tables (all : List Toml)
  deriving Inhabited

namespace Toml

def fresh : Toml := .table .header []

def origin? : Toml → Option TableOrigin
  | .table origin _ => some origin
  | _ => none

/-- The value under a key, if this is a table that has the key. -/
def entry? (key : String) : Toml → Option Toml
  | .table _ entries => entries.lookup key
  | _ => none

/-- The entries with the value under a key replaced, or added at the end. -/
def putIn (key : String) (v : Toml) : List (String × Toml) → List (String × Toml)
  | [] => [(key, v)]
  | (k, old) :: r => if k = key then (k, v) :: r else (k, old) :: putIn key v r

/-- The table with the value under a key replaced, or added at the end. -/
def put (t : Toml) (key : String) (v : Toml) : Toml :=
  match t with
  | .table origin entries => .table origin (putIn key v entries)
  | other => other

/-- Whether a path may enter a table.  A path is known by the origin of the tables it makes: those of
keys between braces stay between them, headers pass through everything else, and dotted keys enter only
what has no header of its own. -/
def mayEnter : TableOrigin → TableOrigin → Bool
  | .inline, found => found == .inline
  | .dotted, found => found == .passage || found == .dotted
  | _, found => found != .inline

/-- Changes the table that a path leads to, and makes the tables that are missing on the way.  Of the
tables under a doubled header it takes the last. -/
def within (made : TableOrigin) (change : Toml → Option Toml) : List String → Toml → Option Toml
  | [], t => change t
  | key :: path, t => do
    let child ← match t.entry? key with
      | none => within made change path (.table made [])
      | some (.tables all) =>
        match all.getLast? with
        | some last => (within made change path last).map fun v => .tables (all.dropLast ++ [v])
        | none => none
      | some (.table origin entries) =>
        if mayEnter made origin then within made change path (.table origin entries) else none
      | some _ => none
    return t.put key child

/-- Adds a value under a key that is not taken. -/
def add (t : Toml) (key : String) (v : Toml) : Option Toml :=
  if (t.entry? key).isSome then none else some (t.put key v)

/-- Adds a value under a key that may be dotted, on a line of its own. -/
def addDotted (t : Toml) (path : List String) (key : String) (v : Toml) : Option Toml :=
  t.within .dotted (fun t => if t.origin? = some .dotted ∨ path = [] then t.add key v else none)
    path

/-- Adds a value under a key that may be dotted, between the braces of a table. -/
def addInline (t : Toml) (path : List String) (key : String) (v : Toml) : Option Toml :=
  t.within .inline (·.add key v) path

def openTable (path : List String) (key : String) (t : Toml) : Option Toml :=
  t.within .passage (fun t =>
    match t.entry? key with
    | none => some (t.put key fresh)
    | some (.table .passage entries) => some (t.put key (.table .header entries))
    | some _ => none) path

/-- Opens one more table of a doubled header. -/
def openNext (path : List String) (key : String) (t : Toml) : Option Toml :=
  t.within .passage (fun t =>
    match t.entry? key with
    | none => some (t.put key (.tables [fresh]))
    | some (.tables all) => some (t.put key (.tables (all ++ [fresh])))
    | some _ => none) path

end Toml

end CallChain
