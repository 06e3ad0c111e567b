import CallChain.Json.Value
import CallChain.Text.AsciiCase

/-!
# Maps from a key to several values

Headers and query parameters hold a list of values under each key, in the order they were added.  A
map of headers files its keys under their small-letter form, a map of query parameters under the key
as given.  Keys are listed in the order of their bytes, and a key may hold no value at all.
-/

set_option autoImplicit false

namespace CallChain

/-- How keys are compared. -/
inductive KeyCase where
  /-- Keys that differ in the case of `A` to `Z` only are the same. -/
  | folded
  /-- Keys are compared as they are. -/
  | exact
  deriving DecidableEq, Repr

/-- The form a key is filed under. -/
def KeyCase.file : KeyCase → String → String
  | .folded, k => Text.lower k
  | .exact, k => k

/-- A map from a key to a list of values. -/
structure ValueMap (c : KeyCase) where
  entries : SortedMap String (List String)
  deriving DecidableEq

/-- Header fields. -/
abbrev Headers := ValueMap .folded

/-- Query parameters. -/
abbrev Query := ValueMap .exact

namespace ValueMap

variable {c : KeyCase}

def empty : ValueMap c := ⟨.empty⟩

instance : Inhabited (ValueMap c) := ⟨empty⟩

/-- Every value of a key, in the order added. -/
def getAll (m : ValueMap c) (key : String) : List String := (m.entries.get? (c.file key)).getD []

def get? (m : ValueMap c) (key : String) : Option String := (m.getAll key).head?

/-- Whether a key is present, with values or without. -/
def contains (m : ValueMap c) (key : String) : Bool := m.entries.contains (c.file key)

def set (m : ValueMap c) (key : String) (values : List String) : ValueMap c :=
  ⟨m.entries.insert (c.file key) values⟩

/-- Of two replacements of the values of a key the later one counts. -/
@[simp] theorem set_set (m : ValueMap c) (key : String) (values values' : List String) :
    (m.set key values).set key values' = m.set key values' := by
  simp [set]

/-- Replaces the values of a key by one. -/
def insert (m : ValueMap c) (key value : String) : ValueMap c := m.set key [value]

/-- Adds values to those under a filed key. -/
def appendFiled (m : ValueMap c) (filed : String) (values : List String) : ValueMap c :=
  ⟨m.entries.insert filed ((m.entries.get? filed).getD [] ++ values)⟩

/-- Adds values to those of a key. -/
def append (m : ValueMap c) (key : String) (values : List String) : ValueMap c :=
  m.appendFiled (c.file key) values

/-- Adds one value to those of a key. -/
def add (m : ValueMap c) (key value : String) : ValueMap c := m.append key [value]

/-- Replaces the values of every key that another map has. -/
def merge (m other : ValueMap c) : ValueMap c :=
  ⟨other.entries.entries.foldl (fun e x => e.insert x.1 x.2) m.entries⟩

def extend (m other : ValueMap c) : ValueMap c :=
  other.entries.entries.foldl (fun e x => e.appendFiled x.1 x.2) m

def erase (m : ValueMap c) (key : String) : ValueMap c := ⟨m.entries.erase (c.file key)⟩

/-- The values a removal of the key takes away, if it is present. -/
def removed? (m : ValueMap c) (key : String) : Option (List String) :=
  m.entries.get? (c.file key)

/-- Every key with each of its values. -/
def pairs (m : ValueMap c) : List (String × String) :=
  m.entries.entries.flatMap fun e => e.2.map fun v => (e.1, v)

/-- The keys, in order. -/
def keys (m : ValueMap c) : List String := m.entries.keys

def size (m : ValueMap c) : Nat := m.entries.size

def isEmpty (m : ValueMap c) : Bool := m.entries.isEmpty

/-- The map of pairs, each added in turn. -/
def ofPairs (pairs : List (String × String)) : ValueMap c :=
  pairs.foldl (fun m p => m.add p.1 p.2) empty

def mapValues (f : String → String) (m : ValueMap c) : ValueMap c :=
  ⟨m.entries.mapValues (List.map f)⟩

/-- The map as data, a list of values under each key. -/
def toJson (m : ValueMap c) : Json := .ofMap (m.entries.mapValues .texts)

end ValueMap

end CallChain
