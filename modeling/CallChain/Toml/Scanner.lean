/-!
# Scanning characters

A scanner takes characters from the front of a list and gives a result, or refuses.  `many` reads as
often as it can; its bound is the number of characters, which no reader that takes at least one each
time can exceed.  The blanks, line ends and comments of TOML are here as well.
-/

set_option autoImplicit false

namespace CallChain.Toml

/-- Takes characters from the front of a list. -/
abbrev Scanner (α : Type) := StateT (List Char) Option α

namespace Scanner

/-- A result that may be missing; nothing is taken. -/
def ofOption {α : Type} (a : Option α) : Scanner α := fun s => a.map fun a => (a, s)

/-- The next character, which stays. -/
def peek? : Scanner (Option Char) := fun s => some (s.head?, s)

/-- The next character, when it satisfies a condition. -/
def one (p : Char → Bool) : Scanner Char := fun s =>
  match s with
  | c :: r => if p c then some (c, r) else none
  | [] => none

def char (c : Char) : Scanner Unit := discard (one (· == c))

def word (w : String) : Scanner Unit := w.toList.forM char

/-- The characters up to the first that does not satisfy a condition. -/
def run (p : Char → Bool) : Scanner (List Char) := fun s => some (s.takeWhile p, s.dropWhile p)

/-- Reads until reading refuses, at most so often. -/
def manyUpTo {α : Type} (read : Scanner α) : Nat → Scanner (List α)
  | 0 => return []
  | n + 1 => fun s =>
    match read s with
    | some (a, r) => (manyUpTo read n r).map fun p => (a :: p.1, p.2)
    | none => some ([], s)

def many {α : Type} (read : Scanner α) : Scanner (List α) := fun s => manyUpTo read s.length s

/-- What is read, with a separator between one and the next; possibly nothing. -/
def separated {α : Type} (separator : Scanner Unit) (read : Scanner α) : Scanner (List α) := do
  match ← optional read with
  | none => return []
  | some first => return first :: (← many (separator *> read))

def written (read : Scanner Unit) : Scanner String := fun s =>
  (read s).map fun p => (String.ofList (s.take (s.length - p.2.length)), p.2)

def finished : Scanner Unit := fun s => if s.isEmpty then some ((), s) else none

/-! ## Blanks, line ends and comments -/

def isBlank (c : Char) : Bool := c == ' ' || c == '\t'

/-- The characters that may stand in a comment: the tab and all that are not ASCII controls. -/
def isVisible (c : Char) : Bool := c == '\t' || (' ' ≤ c && c != '\x7F')

/-- Blanks, possibly none. -/
def blanks : Scanner Unit := discard (run isBlank)

/-- One end of a line: a line feed, or a carriage return and a line feed. -/
def newline : Scanner Unit := char '\n' <|> (char '\r' *> char '\n')

/-- A comment up to the end of its line. -/
def comment : Scanner Unit := char '#' *> discard (run isVisible)

/-- Blanks, line ends and comments, possibly none. -/
def gap : Scanner Unit := discard (many (discard (one isBlank) <|> newline <|> comment))

/-- The rest of a line on which nothing follows but a comment. -/
def lineEnd : Scanner Unit := blanks *> discard (optional comment) *> (newline <|> finished)

end Scanner

end CallChain.Toml
