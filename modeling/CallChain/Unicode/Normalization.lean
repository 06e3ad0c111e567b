import CallChain.Unicode.CombiningClass
import CallChain.Unicode.Composition

/-!
# Normalized texts

Texts that look the same can differ in their characters, and a normalized text has one form for each
look: every composed character is taken apart, marks that do not touch each other are put in the order
of their classes, and what can be joined is joined again.
-/

set_option autoImplicit false

namespace CallChain.Unicode

/-- The parts of a character that is taken apart so often; its last part is never composed. -/
def splitTimes : Nat → Char → List Char
  | 0, c => [c]
  | n + 1, c =>
    match splitOnce? c with
    | some (a, b) => splitTimes n a ++ [b]
    | none => [c]

/-- The parts of a character.  None has more than three parts after the first. -/
def split (c : Char) : List Char := splitTimes 3 c

/-- Puts a character in front of others, but after the marks of a lower class than its own. -/
def insertMark (c : Char) : List Char → List Char
  | [] => [c]
  | d :: r =>
    if 0 < combiningClass d ∧ combiningClass d < combiningClass c then d :: insertMark c r
    else c :: d :: r

/-- A text with the marks after each letter in the order of their classes. -/
def sortMarks (s : List Char) : List Char := s.foldr insertMark []

/-- A text in composition: what is finished, backwards, and the letter that marks may still join, with
the marks after it that did not join, backwards. -/
structure Composing where
  /-- What is finished, backwards. -/
  finished : List Char
  /-- The letter that may still be joined. -/
  letter : Option Char
  /-- The marks after it, backwards. -/
  marks : List Char

namespace Composing

def start : Composing := ⟨[], none, []⟩

/-- All characters so far, backwards. -/
def all (s : Composing) : List Char := s.marks ++ s.letter.toList ++ s.finished

/-- Whether a mark stands between the letter and a character so that the two cannot join. -/
def isBlocked (s : Composing) (c : Char) : Bool :=
  match s.marks.head? with
  | none => false
  | some m => combiningClass c ≤ combiningClass m

/-- What the letter and a character make together, if they can join. -/
def joined? (s : Composing) (c : Char) : Option Char :=
  if s.isBlocked c then none else s.letter.bind fun l => join? l c

def push (s : Composing) (c : Char) : Composing :=
  match s.joined? c with
  | some j => { s with letter := some j }
  | none =>
    if combiningClass c = 0 then ⟨s.all, some c, []⟩ else { s with marks := c :: s.marks }

end Composing

/-- A text with all joined that can be. -/
def compose (s : List Char) : List Char := (s.foldl Composing.push .start).all.reverse

/-- Whether a text has no character that could be taken apart or moved. -/
def isPlain (s : List Char) : Bool := s.all (·.toNat < 0xC0)

def normalize (s : List Char) : List Char :=
  if isPlain s then s else compose (sortMarks (s.flatMap split))

end CallChain.Unicode
