/-!
# Tables of code points

A property of characters is the same over long runs of code points, so a table lists runs in increasing
order.  A table is written as a text of items between blanks, `first-last=value` with the code points
in hexadecimal, and `first=value` for a run of one code point.  Look-up halves the part of the table
that may hold the run; `RunTable.holds_of_findRun?` says that what is found holds the code point.
-/

set_option autoImplicit false

namespace CallChain

/-- Code points in a row that share a value. -/
structure Run (α : Type) where
  first : Nat
  last : Nat
  value : α

/-- Whether a code point is in a run. -/
def Run.Holds {α : Type} (r : Run α) (n : Nat) : Prop := r.first ≤ n ∧ n ≤ r.last

/-- Runs in increasing order. -/
structure RunTable (α : Type) where
  runs : Array (Run α)

namespace RunTable

/-- The value of a hexadecimal digit with capital letters. -/
def hexDigit (c : Char) : Nat := if c.isDigit then c.toNat - 0x30 else c.toNat - 0x41 + 10

def readHex (digits : List Char) : Nat := digits.foldl (fun n c => 16 * n + hexDigit c) 0

/-- What stands before a mark in a text, and what stands after it. -/
def cut (mark : Char) (s : List Char) : List Char × List Char :=
  (s.takeWhile (· != mark), (s.dropWhile (· != mark)).drop 1)

def readRun {α : Type} (readValue : List Char → α) (item : List Char) : Run α :=
  let (range, value) := cut '=' item
  let (first, last) := cut '-' range
  ⟨readHex first, readHex (if last.isEmpty then first else last), readValue value⟩

/-- A table in the making: the runs read, and the item begun, backwards. -/
abbrev Draft (α : Type) := Array (Run α) × List Char

def Draft.endItem {α : Type} (readValue : List Char → α) (d : Draft α) : Draft α :=
  if d.2.isEmpty then d else (d.1.push (readRun readValue d.2.reverse), [])

def Draft.step {α : Type} (readValue : List Char → α) (d : Draft α) (c : Char) : Draft α :=
  if c.isWhitespace then d.endItem readValue else (d.1, c :: d.2)

def ofText {α : Type} (readValue : List Char → α) (text : String) : RunTable α :=
  ⟨((text.toList.foldl (Draft.step readValue) (#[], [])).endItem readValue).1⟩

/-- The run that holds a code point, sought among those from one place up to another. -/
def seek {α : Type} (t : RunTable α) (n low high : Nat) : Option (Run α) :=
  if low < high then
    match t.runs[(low + high) / 2]? with
    | none => none
    | some r =>
      if n < r.first then t.seek n low ((low + high) / 2)
      else if r.last < n then t.seek n ((low + high) / 2 + 1) high
      else some r
  else none
termination_by high - low

/-- The run that holds a code point. -/
def findRun? {α : Type} (t : RunTable α) (n : Nat) : Option (Run α) := t.seek n 0 t.runs.size

def find? {α : Type} (t : RunTable α) (n : Nat) : Option α := (t.findRun? n).map Run.value

/-- Whether a code point is in a run. -/
def contains {α : Type} (t : RunTable α) (n : Nat) : Bool := (t.findRun? n).isSome

theorem holds_of_seek {α : Type} {t : RunTable α} {n low high : Nat} {r : Run α}
    (h : t.seek n low high = some r) : r.Holds n := by
  fun_induction seek t n low high with
  | case1 => simp at h
  | case2 _ _ _ _ _ _ ih => exact ih h
  | case3 _ _ _ _ _ _ _ ih => exact ih h
  | case4 low high _ r' _ h₁ h₂ =>
    obtain rfl : r' = r := by simpa using h
    exact ⟨by omega, by omega⟩
  | case5 => simp at h

/-- A run that is found holds the code point. -/
theorem holds_of_findRun? {α : Type} {t : RunTable α} {n : Nat} {r : Run α}
    (h : t.findRun? n = some r) : r.Holds n := holds_of_seek h

end RunTable

end CallChain
