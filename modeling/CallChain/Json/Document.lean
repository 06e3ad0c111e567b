import CallChain.Text.Bytes

/-!
# JSON documents as written

A `Document` is what the grammar of JSON finds in a sequence of bytes before anything is decoded: a
string is the bytes between its quotes, a number its digits, and an object keeps every member in the
order written, repeated keys included.  What a reader never looks at has to be well-formed as a
document but is not decoded.

`Document.read?` reads one document with nothing but blanks around it.
-/

set_option autoImplicit false

namespace CallChain.Json

/-- A number as written. -/
structure Numeral where
  /-- Whether it starts with a minus sign. -/
  negative : Bool
  /-- The digits before the point, without superfluous leading zeros. -/
  whole : List Nat
  /-- The digits after the point; none when there is no point. -/
  fraction : List Nat
  /-- Whether the exponent is negative, and its digits, when there is an exponent. -/
  exponent : Option (Bool × List Nat)
  deriving DecidableEq, Repr

/-- A JSON text taken apart but not decoded. -/
inductive Document where
  | null
  | bool (b : Bool)
  | number (n : Numeral)
  /-- The bytes between the quotes. -/
  | string (raw : Bytes)
  | array (items : List Document)
  /-- The members in the order written, keys as the bytes between their quotes. -/
  | object (members : List (Bytes × Document))
  deriving Inhabited

namespace Document

def byte (c : Char) : UInt8 := UInt8.ofNat c.toNat

/-- Space, tab, line feed and carriage return stand between tokens. -/
def isBlank (b : UInt8) : Bool := b == 0x20 || b == 0x09 || b == 0x0A || b == 0x0D

/-- The input from the first byte that is not blank. -/
def skipBlanks (s : Bytes) : Bytes := s.dropWhile isBlank

def digit? (b : UInt8) : Option Nat :=
  if 0x30 ≤ b.toNat ∧ b.toNat ≤ 0x39 then some (b.toNat - 0x30) else none

/-- The digits the input starts with, and the rest. -/
def takeDigits : Bytes → List Nat × Bytes
  | [] => ([], [])
  | b :: r =>
    match digit? b with
    | some d => ((d :: (takeDigits r).1), (takeDigits r).2)
    | none => ([], b :: r)

/-- The digits the input starts with, at least one of them. -/
def takeSomeDigits? (s : Bytes) : Option (List Nat × Bytes) :=
  match takeDigits s with
  | ([], _) => none
  | found => some found

/-- The bytes that may follow a backslash, `u` apart. -/
def isSimpleEscape (b : UInt8) : Bool :=
  b == 0x22 || b == 0x5C || b == 0x2F || b == byte 'b' || b == byte 'f' || b == byte 'n' ||
    b == byte 'r' || b == byte 't'

/-- Puts bytes in front of what was read. -/
def prepend (front : Bytes) (p : Bytes × Bytes) : Bytes × Bytes := (front ++ p.1, p.2)

/-- The bytes up to the closing quote, and what follows it.  Control characters have to be escaped,
and a backslash starts one of the known escapes. -/
def readString? : Bytes → Option (Bytes × Bytes)
  | [] => none
  | c :: r =>
    if c == 0x22 then some ([], r)
    else if c == 0x5C then
      match r with
      | [] => none
      | e :: r =>
        if e == byte 'u' then
          match r with
          | a :: b :: c' :: d :: r =>
            if [a, b, c', d].all fun h => (Bytes.hexValue? h).isSome then
              (readString? r).map (prepend [c, e, a, b, c', d])
            else none
          | _ => none
        else if isSimpleEscape e then (readString? r).map (prepend [c, e])
        else none
    else if c < 0x20 then none
    else (readString? r).map (prepend [c])

/-- The exponent the input starts with, if any; refused when its digits are missing. -/
def readExponent? : Bytes → Option (Option (Bool × List Nat) × Bytes)
  | e :: r =>
    if e == byte 'e' || e == byte 'E' then
      let (negative, r) :=
        match r with
        | s :: r' => if s == byte '-' then (true, r') else if s == byte '+' then (false, r')
          else (false, r)
        | [] => (false, r)
      (takeSomeDigits? r).map fun p => (some (negative, p.1), p.2)
    else some (none, e :: r)
  | [] => some (none, [])

/-- The fraction the input starts with, if any; refused when its digits are missing. -/
def readFraction? : Bytes → Option (List Nat × Bytes)
  | c :: r => if c == byte '.' then takeSomeDigits? r else some ([], c :: r)
  | [] => some ([], [])

/-- The number the input starts with.  A leading zero stands alone before the point. -/
def readNumeral? (s : Bytes) : Option (Numeral × Bytes) := do
  let (negative, s) :=
    match s with
    | c :: r => if c == byte '-' then (true, r) else (false, s)
    | [] => (false, s)
  let (whole, s) ← takeSomeDigits? s
  if whole.head? = some 0 ∧ whole.length ≠ 1 then none
  let (fraction, s) ← readFraction? s
  let (exponent, s) ← readExponent? s
  return (⟨negative, whole, fraction, exponent⟩, s)

/-- The rest of the input after a word it has to start with. -/
def afterWord? : Bytes → Bytes → Option Bytes
  | [], s => some s
  | _ :: _, [] => none
  | w :: ws, c :: r => if w == c then afterWord? ws r else none

mutual

/-- One document at the start of the input, blanks before it skipped.  The first argument bounds the
number of steps; twice the length of the input suffices. -/
def readValue? : Nat → Bytes → Option (Document × Bytes)
  | 0, _ => none
  | fuel + 1, s =>
    match skipBlanks s with
    | [] => none
    | c :: r =>
      if c == byte 'n' then (afterWord? (Bytes.ofText "ull") r).map fun r => (.null, r)
      else if c == byte 't' then (afterWord? (Bytes.ofText "rue") r).map fun r => (.bool true, r)
      else if c == byte 'f' then (afterWord? (Bytes.ofText "alse") r).map fun r => (.bool false, r)
      else if c == 0x22 then (readString? r).map fun p => (.string p.1, p.2)
      else if c == byte '[' then
        match skipBlanks r with
        | [] => none
        | d :: r' =>
          if d == byte ']' then some (.array [], r')
          else (readItems? fuel (d :: r')).map fun p => (.array p.1, p.2)
      else if c == 0x7B then
        match skipBlanks r with
        | [] => none
        | d :: r' =>
          if d == 0x7D then some (.object [], r')
          else (readMembers? fuel (d :: r')).map fun p => (.object p.1, p.2)
      else (readNumeral? (c :: r)).map fun p => (.number p.1, p.2)

/-- Items up to the closing bracket, at least one. -/
def readItems? : Nat → Bytes → Option (List Document × Bytes)
  | 0, _ => none
  | fuel + 1, s =>
    match readValue? fuel s with
    | none => none
    | some (item, r) =>
      match skipBlanks r with
      | [] => none
      | c :: r =>
        if c == byte ']' then some ([item], r)
        else if c == byte ',' then
          (readItems? fuel r).map fun p => (item :: p.1, p.2)
        else none

/-- Members up to the closing brace, at least one. -/
def readMembers? : Nat → Bytes → Option (List (Bytes × Document) × Bytes)
  | 0, _ => none
  | fuel + 1, s =>
    match skipBlanks s with
    | [] => none
    | q :: r =>
      if q == 0x22 then
        match readString? r with
        | none => none
        | some (key, r) =>
          match skipBlanks r with
          | [] => none
          | c :: r =>
            if c == byte ':' then
              match readValue? fuel r with
              | none => none
              | some (item, r) =>
                match skipBlanks r with
                | [] => none
                | c :: r =>
                  if c == 0x7D then some ([(key, item)], r)
                  else if c == byte ',' then
                    (readMembers? fuel r).map fun p => ((key, item) :: p.1, p.2)
                  else none
            else none
      else none

end

/-- The document a sequence of bytes is, if it is one. -/
def read? (s : Bytes) : Option Document :=
  match readValue? (2 * s.length + 2) s with
  | some (d, r) => if skipBlanks r = [] then some d else none
  | none => none

end Document

end CallChain.Json
