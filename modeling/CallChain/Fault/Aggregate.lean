import CallChain.Fault.History
import CallChain.Text.Split

/-!
# Several faults as one

An aggregate is a list of one or more faults.  It keeps all of them in order and renders every
distinct text once, in order of first occurrence.
-/

set_option autoImplicit false

namespace CallChain

/-- One or more faults reported together. -/
structure Aggregate where
  /-- The faults, in order. -/
  faults : List Fault
  /-- There is at least one. -/
  nonempty : faults ≠ []

namespace Aggregate

/-- The causes as one aggregate, unless there are none. -/
def ofCauses? (r : CodeRegistry) (causes : List Cause) : Option Aggregate :=
  if h : causes.map (Fault.ofCause r) ≠ [] then some ⟨causes.map (Fault.ofCause r), h⟩ else none

/-- The causes of the results that failed. -/
def failures {α : Type} (results : List (Except Cause α)) : List Cause :=
  results.filterMap fun result =>
    match result with
    | .error c => some c
    | .ok _ => none

/-- The failures among results as one aggregate, unless there are none. -/
def ofResults? {α : Type} (r : CodeRegistry) (results : List (Except Cause α)) : Option Aggregate :=
  ofCauses? r (failures results)

def size (a : Aggregate) : Nat := a.faults.length

def distinct (seen : List String) : List String → List String
  | [] => []
  | t :: r => if seen.contains t then distinct seen r else t :: distinct (t :: seen) r

/-- The distinct texts of the faults, in brackets unless there is exactly one. -/
def text (a : Aggregate) : String :=
  match distinct [] (a.faults.map Fault.text) with
  | [t] => t
  | ts => "[" ++ Text.joinWith ", " ts ++ "]"

/-- An aggregate where a cause is expected.  It is no fault, so only its text counts. -/
def cause (a : Aggregate) : Cause := .other a.text

end Aggregate

end CallChain
