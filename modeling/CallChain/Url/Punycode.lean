/-!
# Punycode

A label with characters beyond ASCII is written with small letters, digits and hyphens alone.  Its
ASCII characters come first, and a sequence of numbers says which other characters go where: every
number counts the places passed over since the last character, over all code points in increasing
order.  A number is written in digits whose weights adapt to the numbers before it.
-/

set_option autoImplicit false

namespace CallChain.Punycode

def base : Nat := 36

/-- The least value of a digit that does not end a number. -/
def leastThreshold : Nat := 1

/-- The greatest value that such a threshold takes. -/
def greatestThreshold : Nat := 26

def firstBias : Nat := 72

def firstPoint : Nat := 0x80

/-- How often a number can be reduced to the range in which the bias is read off, and what is left. -/
def reduce (delta : Nat) : Nat × Nat :=
  if 455 < delta then ((reduce (delta / 35)).1 + 1, (reduce (delta / 35)).2) else (0, delta)
termination_by delta
decreasing_by all_goals omega

/-- The bias after a number, when so many characters are placed. -/
def adapt (delta count : Nat) (first : Bool) : Nat :=
  let halved := if first then delta / 700 else delta / 2
  let (steps, rest) := reduce (halved + halved / count)
  base * steps + base * rest / (rest + 38)

/-- The threshold of the digit at a place. -/
def threshold (place bias : Nat) : Nat := min greatestThreshold (max leastThreshold (place - bias))

theorem threshold_bounds (place bias : Nat) :
    1 ≤ threshold place bias ∧ threshold place bias ≤ 26 := by
  unfold threshold leastThreshold greatestThreshold
  omega

/-- The letter or numeral of a digit. -/
def digit (n : Nat) : Char := if n < 26 then Char.ofNat (0x61 + n) else Char.ofNat (0x30 + (n - 26))

/-- The digit of a letter or numeral. -/
def digit? (c : Char) : Option Nat :=
  if 'a' ≤ c ∧ c ≤ 'z' then some (c.toNat - 0x61)
  else if 'A' ≤ c ∧ c ≤ 'Z' then some (c.toNat - 0x41)
  else if '0' ≤ c ∧ c ≤ '9' then some (c.toNat - 0x30 + 26)
  else none

/-- The digits of a number from a place on, the least first. -/
def writeNumber (bias place n : Nat) : List Char :=
  let t := threshold place bias
  if n < t then [digit n]
  else digit (t + (n - t) % (base - t)) :: writeNumber bias (place + base) ((n - t) / (base - t))
termination_by n
decreasing_by
  have ht := threshold_bounds place bias
  have := Nat.div_le_self (n - threshold place bias) (base - threshold place bias)
  omega

/-! ## Encoding -/

/-- How far a label is written. -/
structure Writing where
  delta : Nat
  bias : Nat
  placed : Nat
  written : List Char

/-- Passes one character of the label in the round of a code point. -/
def pass (point basic : Nat) (w : Writing) (c : Nat) : Writing :=
  if c < point then { w with delta := w.delta + 1 }
  else if c = point then
    { delta := 0
      bias := adapt w.delta (w.placed + 1) (w.placed == basic)
      placed := w.placed + 1
      written := w.written ++ writeNumber w.bias base w.delta }
  else w

/-- The round of one code point; `next` is the first that had no round yet. -/
def round (label : List Nat) (basic : Nat) (s : Writing × Nat) (point : Nat) : Writing × Nat :=
  let (w, next) := s
  let w := { w with delta := w.delta + (point - next) * (w.placed + 1) }
  let w := label.foldl (pass point basic) w
  ({ w with delta := w.delta + 1 }, point + 1)

def encode (label : List Char) : List Char :=
  let basic := label.filter fun c => c.toNat < firstPoint
  let front := if basic.isEmpty then [] else basic ++ ['-']
  let points := label.map Char.toNat
  let rounds := ((points.filter (firstPoint ≤ ·)).mergeSort (· ≤ ·)).eraseDups
  let start : Writing := ⟨0, firstBias, basic.length, front⟩
  (rounds.foldl (round points basic.length) (start, firstPoint)).1.written

/-! ## Decoding -/

/-- The first number that is too large for a place or a weight. -/
def limit : Nat := Nat.pow 2 32

/-- A number as it is, unless it is too large. -/
def bounded (n : Nat) : Option Nat := if n < limit then some n else none

/-- The place that digits lead to from another, and the rest of them.  The arguments before the digits
are the place in the threshold sequence, the weight of the first digit, and the place reached. -/
def readNumber (bias : Nat) : Nat → Nat → Nat → List Char → Option (Nat × List Char)
  | _, _, _, [] => none
  | place, weight, reached, c :: r => do
    let d ← digit? c
    let step ← bounded (d * weight)
    let reached ← bounded (reached + step)
    let t := threshold place bias
    if d < t then some (reached, r)
    else readNumber bias (place + base) (← bounded (weight * (base - t))) reached r

/-- Places the characters that numbers tell.  The first argument bounds how many there are. -/
def place : Nat → Nat → Nat → Nat → List Char → List Char → Option (List Char)
  | _, _, _, _, label, [] => some label
  | 0, _, _, _, _, _ :: _ => none
  | fuel + 1, point, index, bias, label, s =>
    match readNumber bias base 1 index s with
    | none => none
    | some (reached, r) =>
      let count := label.length + 1
      let point := point + reached / count
      let spot := reached % count
      if point.isValidChar then
        place fuel point (spot + 1) (adapt (reached - index) count (index == 0))
          (label.insertIdx spot (Char.ofNat point)) r
      else none

/-- The ASCII characters that a text starts with, and the digits after its last hyphen.  A hyphen at the
very start is a digit like the others, and so spoils the text. -/
def cutFront (s : List Char) : List Char × List Char :=
  let digits := (s.reverse.takeWhile (· != '-')).reverse
  if s.length ≤ digits.length + 1 then ([], s)
  else (s.take (s.length - digits.length - 1), digits)

def decode? (s : List Char) : Option (List Char) :=
  let (front, digits) := cutFront s
  if front.any (firstPoint ≤ ·.toNat) then none
  else place digits.length firstPoint 0 firstBias front digits

end CallChain.Punycode
