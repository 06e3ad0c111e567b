import CallChain.Text.Split
import CallChain.Unicode.Direction
import CallChain.Unicode.Joining
import CallChain.Unicode.Normalization
import CallChain.Url.DomainMapping
import CallChain.Url.Punycode

/-!
# Domain names

A domain name is written in ASCII.  Its characters are mapped and the result is normalized; then it is
cut into labels.  A label beyond ASCII is written in Punycode after the mark `xn--`, and a label with
that mark has to be one that writing could have given.  Labels must not start with a mark, the two
invisible joiners may stand only where they change how letters connect, and a name with letters from
right to left may not look like another one because of the change of direction.
-/

set_option autoImplicit false

namespace CallChain.Domain

/-- The mark of a label in Punycode. -/
def mark : List Char := "xn--".toList

/-- The characters that no domain name may hold. -/
def isForbidden (c : Char) : Bool :=
  c.toNat ≤ 0x20 || c.toNat == 0x7F || "%#/:<>?@[\\]^|".toList.contains c

def isWide (c : Char) : Bool := 0x80 ≤ c.toNat

/-- The greatest length of a label beyond ASCII. -/
def greatestLength : Nat := 1000

/-- The greatest length of a label in Punycode without its mark. -/
def greatestWrittenLength : Nat := 2000

/-! ## Joiners -/

/-- The character that keeps two letters apart that would connect. -/
def nonJoiner : Char := Char.ofNat 0x200C

/-- The character that makes two letters connect. -/
def joiner : Char := Char.ofNat 0x200D

/-- How the first character of a text that is not passed over connects. -/
def firstJoining (s : List Char) : Unicode.Joining :=
  ((s.map Unicode.Joining.ofChar).find? (· != .transparent)).getD .none

/-- Whether a joiner has its place between what stands before it, backwards, and what stands after it.
Both joiners may follow a silenced letter, and letters that would connect may be kept apart. -/
def hasPlace (c : Char) (before after : List Char) : Bool :=
  before.head?.any Unicode.isVirama ||
    (c == nonJoiner && (firstJoining before).reachesOn && (firstJoining after).reachesBack)

/-- Whether all joiners of a text have their place after what stands before it, backwards. -/
def joinersFit (before : List Char) : List Char → Bool
  | [] => true
  | c :: r =>
    (if c = nonJoiner ∨ c = joiner then hasPlace c before r else true) && joinersFit (c :: before) r

/-! ## Directions -/

/-- The directions of a label without those at its end that are as the one before. -/
def coreDirections (label : List Char) : List Unicode.Direction :=
  match label.map Unicode.direction with
  | [] => []
  | d :: r => d :: (r.reverse.dropWhile (· == .asBefore)).reverse

/-- Whether a label keeps its look in a name with letters from right to left.  It starts with a letter,
has only letters and digits of that letter's direction, ends in one, and does not have both kinds of
digits. -/
def keepsLook (label : List Char) : Bool :=
  let directions := coreDirections label
  match directions.head?, directions.getLast? with
  | some .leftToRight, some last =>
    (last == .leftToRight || last == .europeanDigit) &&
      directions.all fun d => d != .rightToLeft && d != .arabicDigit
  | some .rightToLeft, some last =>
    (last == .rightToLeft || last == .europeanDigit || last == .arabicDigit) &&
      directions.all (· != .leftToRight) &&
      !(directions.contains .europeanDigit && directions.contains .arabicDigit)
  | none, _ => true
  | _, _ => false

/-- Whether a character makes a name one with letters from right to left. -/
def isRightToLeft (c : Char) : Bool :=
  isWide c && [Unicode.Direction.rightToLeft, .arabicDigit].contains (Unicode.direction c)

def allKeepLook (labels : List (List Char)) : Bool :=
  !labels.any (·.any isRightToLeft) || labels.all keepsLook

/-! ## Labels -/

/-- Whether the letters of a label go together. -/
def isSound (label : List Char) : Bool :=
  (label.head?.bind Unicode.mark?).isNone && joinersFit [] label &&
    (!label.any isWide || label.length ≤ greatestLength)

/-- The letters of a label in Punycode. -/
def readMarked? (label : List Char) : Option (List Char) := do
  let digits := label.drop mark.length
  let letters ← Punycode.decode? digits
  if label.getLast? != some '-' && digits.length ≤ greatestWrittenLength &&
      letters.all (fun c => mapChar c == some [c] && !isForbidden c && c != '.') &&
      Unicode.normalize letters == letters then
    some letters
  else none

/-- The letters of a label that is mapped and normalized. -/
def readLabel? (label : List Char) : Option (List Char) := do
  let letters ← if mark.isPrefixOf label then
      if label.any isWide then none else readMarked? label
    else some label
  if isSound letters then some letters else none

/-- A label that is mapped and normalized, as it is written. -/
def writeLabel (label : List Char) : List Char :=
  if label.any isWide then mark ++ Punycode.encode label else label

/-- The domain name that a text writes, in ASCII. -/
def ofText? (s : String) : Option String := do
  let mapped ← s.toList.mapM mapChar
  let name := Unicode.normalize mapped.flatten
  if name.any isForbidden then none
  else
    let labels := Text.splitAll '.' name
    let letters ← labels.mapM readLabel?
    if allKeepLook letters then
      some (String.ofList (List.intercalate ['.'] (labels.map writeLabel)))
    else none

end CallChain.Domain
