import CallChain.Data.SortedMap
import CallChain.Decimal.Binary64

/-!
# JSON values

A value as every reader and writer here sees it.  A number is a whole number or a double; the
entries of an object stand in key order, each key once, which `Json.ofEntries` arranges from any
list of entries, a later one replacing an earlier one with the same key.
-/

set_option autoImplicit false

namespace CallChain

/-- A JSON value. -/
inductive Json where
  | null
  | bool (b : Bool)
  | int (n : Int)
  | double (x : Binary64)
  | string (s : String)
  | array (items : List Json)
  | object (entries : List (String × Json))
  deriving Inhabited

namespace Json

/-- The object with the given entries, a later one replacing an earlier one with the same key. -/
def ofEntries (entries : List (String × Json)) : Json :=
  .object (SortedMap.ofList entries).entries

def ofMap (m : SortedMap String Json) : Json := .object m.entries

def texts (items : List String) : Json := .array (items.map .string)

def nat (n : Nat) : Json := .int n

/-- A value that may be missing, `null` standing for nothing. -/
def orNull {α : Type} (f : α → Json) : Option α → Json
  | none => .null
  | some a => f a

/-- The value under a key, if this is an object that has the key. -/
def get? (key : String) : Json → Option Json
  | .object entries => SortedMap.lookupIn key entries
  | _ => none

end Json

end CallChain
