import CallChain.Json.Value

/-!
# Parts of JSON values

Reads the value under a key as a text, a number, a flag or a list.  A key that is missing, or holds a
value of another kind, counts as the empty text, zero, false or the empty list; the readings whose name
ends in a question mark tell it apart.
-/

set_option autoImplicit false

namespace CallChain

namespace Json

def text? : Json → Option String
  | .string s => some s
  | _ => none

/-- The whole number that a value is. -/
def int? : Json → Option Int
  | .int n => some n
  | _ => none

/-- The items of an array, none for any other value. -/
def items : Json → List Json
  | .array l => l
  | _ => []

/-- The entries of an object, none for any other value. -/
def entries : Json → List (String × Json)
  | .object l => l
  | _ => []

/-- The value under a key, `null` when there is none. -/
def part (j : Json) (key : String) : Json := (j.get? key).getD .null

/-- Whether there is a value under a key. -/
def has (j : Json) (key : String) : Bool := (j.get? key).isSome

def textAt? (j : Json) (key : String) : Option String := (j.part key).text?

def textAt (j : Json) (key : String) : String := (j.textAt? key).getD ""

def intAt (j : Json) (key : String) : Int := ((j.part key).int?).getD 0

def natAt? (j : Json) (key : String) : Option Nat := ((j.part key).int?).map Int.toNat

def natAt (j : Json) (key : String) : Nat := (j.natAt? key).getD 0

def flagAt (j : Json) (key : String) : Bool :=
  match j.part key with
  | .bool b => b
  | _ => false

def listAt (j : Json) (key : String) : List Json := (j.part key).items

def textsAt (j : Json) (key : String) : List String :=
  (j.listAt key).map fun v => v.text?.getD ""

/-- The two texts of a value that is a pair. -/
def pair (j : Json) : String × String :=
  match j.items with
  | [a, b] => (a.text?.getD "", b.text?.getD "")
  | _ => ("", "")

/-- The pairs of texts under a key. -/
def pairsAt (j : Json) (key : String) : List (String × String) := (j.listAt key).map pair

end Json

end CallChain
