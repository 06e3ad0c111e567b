import CallChain.Text.Bytes

/-!
# DER

Data as elements, each a tag, a length and a content.  A length below 128 is one byte; a longer one is
one or two bytes after a mark that tells how many, and never has more bytes than it needs.  A reader
takes elements off the front of bytes.
-/

set_option autoImplicit false

namespace CallChain.Der

/-! ## Tags -/

def boolean : UInt8 := 0x01

def integer : UInt8 := 0x02

def bitString : UInt8 := 0x03

def octetString : UInt8 := 0x04

def objectId : UInt8 := 0x06

def sequence : UInt8 := 0x30

/-- An element whose meaning goes by its number in the element around it. -/
def numbered (n : Nat) : UInt8 := UInt8.ofNat (0xA0 + n)

/-! ## Reading -/

/-- What takes something off the front of bytes. -/
abbrev Reader := StateT Bytes Option

/-- The first length that no element has. -/
def limit : Nat := 0xFFFF

def byte : Reader UInt8
  | [] => none
  | b :: r => some (b, r)

def take (n : Nat) : Reader Bytes := fun s =>
  if n ≤ s.length then some (s.take n, s.drop n) else none

def length : Reader Nat := do
  let first ← byte
  if first < 0x80 then return first.toNat
  else if first = 0x81 then
    let n := (← byte).toNat
    if 0x80 ≤ n then return n else failure
  else if first = 0x82 then
    let high ← byte
    let low ← byte
    let n := 0x100 * high.toNat + low.toNat
    if 0x100 ≤ n ∧ n < limit then return n else failure
  else failure

/-- Takes an element with a tag; what it holds. -/
def element (tag : UInt8) : Reader Bytes := do
  let found ← byte
  let n ← length
  let content ← take n
  if found = tag then return content else failure

def whole {α : Type} (r : Reader α) (content : Bytes) : Option α :=
  match r content with
  | some (a, []) => some a
  | _ => none

/-- Takes an element with a tag and reads what it holds to its end. -/
def nested {α : Type} (tag : UInt8) (r : Reader α) : Reader α := do
  let content ← element tag
  (whole r content : Option α)

/-- Whether the next element has a tag. -/
def isNext (tag : UInt8) : Reader Bool := fun s => some (s.head? == some tag, s)

def isAtEnd : Reader Bool := fun s => some (s.isEmpty, s)

def rest : Reader Bytes := fun s => some (s, [])

/-- Takes an element with a tag if it is next. -/
def optional (tag : UInt8) : Reader (Option Bytes) := do
  if ← isNext tag then return some (← element tag) else return none

/-- The elements with a tag that bytes consist of; what they hold.  The first argument bounds how many
there are. -/
def elements (tag : UInt8) : Nat → Bytes → Option (List Bytes)
  | _, [] => some []
  | 0, _ :: _ => none
  | n + 1, s => do
    let (first, s) ← element tag s
    let others ← elements tag n s
    return first :: others

/-- Takes bits that fill their last byte. -/
def fullBits : Reader Bytes :=
  nested bitString do
    let unused ← byte
    if unused = 0 then rest else failure

/-- Takes a number that is not negative; its bytes without a zero in front. -/
def naturalBytes : Reader Bytes := do
  match ← element integer with
  | [] => failure
  | [0] => return [0]
  | 0 :: b :: r => if 0x80 ≤ b then return b :: r else failure
  | b :: r => if b < 0x80 then return b :: r else failure

/-- The number whose bytes these are, the greatest first. -/
def numberOf (b : Bytes) : Nat := b.foldl (fun n x => 0x100 * n + x.toNat) 0

/-- Takes a number that is not negative. -/
def natural : Reader Nat := do return numberOf (← naturalBytes)

/-- Takes a truth value if it is next; it is false if not. -/
def flag : Reader Bool := do
  match ← optional boolean with
  | none => return false
  | some [0xFF] => return true
  | some [0x00] => return false
  | some _ => failure

/-! ## Writing -/

def writeLength (n : Nat) : Bytes :=
  if n < 0x80 then [UInt8.ofNat n]
  else if n < 0x100 then [0x81, UInt8.ofNat n]
  else [0x82, UInt8.ofNat (n / 0x100), UInt8.ofNat (n % 0x100)]

def write (tag : UInt8) (content : Bytes) : Bytes := tag :: (writeLength content.length ++ content)

/-- The bytes of a number, the greatest first; none for zero. -/
def bytesOf (n : Nat) : Bytes :=
  if n = 0 then [] else bytesOf (n / 0x100) ++ [UInt8.ofNat (n % 0x100)]
termination_by n

/-- So many bytes of a number, the greatest first. -/
def paddedBytes (size n : Nat) : Bytes :=
  let b := bytesOf n
  List.replicate (size - b.length) 0 ++ b

/-- A number that is not negative, as it is written. -/
def writeNatural (n : Nat) : Bytes :=
  let b := bytesOf n
  write integer (if (b.head?.getD 0x80) < 0x80 then b else 0 :: b)

end CallChain.Der
