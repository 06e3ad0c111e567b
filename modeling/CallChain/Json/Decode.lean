import CallChain.Json.Numeral

/-!
# Decoding JSON

A document is decoded into the value it writes: escapes are resolved, strings have to be well-formed
UTF-8 without lone surrogates, numbers have to be finite, and objects keep the last of repeated keys.
Arrays and objects nest at most `greatestDepth` deep.  A string that is skipped is not decoded.

Records are read through `Reader`s, which take the room left for nesting and a document.
-/

set_option autoImplicit false

namespace CallChain.Json

/-- What is said of bytes that are not JSON, or not of the wanted shape.  It stands for every wording of
that, with the line and the column of the trouble. -/
def malformed : String := "not JSON of the wanted shape"

/-- How deep arrays and objects may nest. -/
def greatestDepth : Nat := 127

/-- The number written by four hexadecimal digits. -/
def hexQuad? (a b c d : UInt8) : Option Nat := do
  let a ← Bytes.hexValue? a
  let b ← Bytes.hexValue? b
  let c ← Bytes.hexValue? c
  let d ← Bytes.hexValue? d
  return ((a * 16 + b) * 16 + c) * 16 + d

/-- The byte a simple escape stands for. -/
def escapedByte? (e : UInt8) : Option UInt8 :=
  if e == 0x22 || e == 0x5C || e == 0x2F then some e
  else if e == Document.byte 'b' then some 0x08
  else if e == Document.byte 'f' then some 0x0C
  else if e == Document.byte 'n' then some 0x0A
  else if e == Document.byte 'r' then some 0x0D
  else if e == Document.byte 't' then some 0x09
  else none

/-- The UTF-8 bytes of a code point. -/
def codePoint (n : Nat) : Bytes := Bytes.ofText (String.singleton (Char.ofNat n))

/-- The bytes of a string with its escapes resolved.  A high surrogate needs a low one right after
it, and a low one nothing but that. -/
def unescape? : Bytes → Option Bytes
  | [] => some []
  | c :: r =>
    if c == 0x5C then
      match r with
      | [] => none
      | e :: r =>
        if e == Document.byte 'u' then
          match r with
          | a :: b :: c' :: d :: r =>
            match hexQuad? a b c' d with
            | none => none
            | some n =>
              if 0xDC00 ≤ n ∧ n ≤ 0xDFFF then none
              else if 0xD800 ≤ n ∧ n ≤ 0xDBFF then
                match r with
                | s :: u :: a :: b :: c' :: d :: r =>
                  if s == 0x5C && u == Document.byte 'u' then
                    match hexQuad? a b c' d with
                    | none => none
                    | some m =>
                      if 0xDC00 ≤ m ∧ m ≤ 0xDFFF then
                        (unescape? r).map
                          (codePoint (0x10000 + (n - 0xD800) * 0x400 + (m - 0xDC00)) ++ ·)
                      else none
                  else none
                | _ => none
              else (unescape? r).map (codePoint n ++ ·)
          | _ => none
        else
          match escapedByte? e with
          | some b => (unescape? r).map (b :: ·)
          | none => none
    else (unescape? r).map (c :: ·)

def textOf? (raw : Bytes) : Option String := (unescape? raw).bind Bytes.text?

mutual

/-- The value a document writes, when arrays and objects may nest `room` deep. -/
def Document.value? (room : Nat) : Document → Option Json
  | .null => some .null
  | .bool b => some (.bool b)
  | .number n => n.value?
  | .string raw => (textOf? raw).map .string
  | .array items =>
    match room with
    | 0 => none
    | room + 1 => (Document.values? room items).map .array
  | .object members =>
    match room with
    | 0 => none
    | room + 1 => (Document.entries? room members).map Json.ofEntries

/-- The values of the items of an array. -/
def Document.values? (room : Nat) : List Document → Option (List Json)
  | [] => some []
  | d :: r => do
    let v ← d.value? room
    let vs ← Document.values? room r
    return v :: vs

/-- The entries of an object, in the order written. -/
def Document.entries? (room : Nat) : List (Bytes × Document) → Option (List (String × Json))
  | [] => some []
  | (k, d) :: r => do
    let k ← textOf? k
    let v ← d.value? room
    let vs ← Document.entries? room r
    return (k, v) :: vs

end

/-- The value a sequence of bytes writes, if it is JSON. -/
def parse? (s : Bytes) : Option Json := (Document.read? s).bind (Document.value? greatestDepth)

/-- Reads one kind of thing from a document, given the room left for nesting. -/
abbrev Reader (α : Type) := Nat → Document → Option α

namespace Reader

def any : Reader Json := Document.value?

def text : Reader String := fun _ d =>
  match d with
  | .string raw => textOf? raw
  | _ => none

def flag : Reader Bool := fun _ d =>
  match d with
  | .bool b => some b
  | _ => none

/-- A whole number within bounds, written without point and exponent. -/
def integer (low high : Int) : Reader Int := fun _ d =>
  match d with
  | .number n => n.integer? low high
  | _ => none

/-- What may be missing, `null` standing for nothing. -/
def orNull {α : Type} (read : Reader α) : Reader (Option α) := fun room d =>
  match d with
  | .null => some none
  | d => (read room d).map some

/-- An array of things of one kind. -/
def list {α : Type} (read : Reader α) : Reader (List α) := fun room d =>
  match room, d with
  | room + 1, .array items => items.mapM (read room)
  | _, _ => none

/-- The keys of an object as texts, with what they lead to. -/
def members? : List (Bytes × Document) → Option (List (String × Document))
  | [] => some []
  | (k, d) :: r => do
    let k ← textOf? k
    let r ← members? r
    return (k, d) :: r

/-- An object whose values are things of one kind; the last of repeated keys counts. -/
def map {α : Type} (read : Reader α) : Reader (SortedMap String α) := fun room d =>
  match room, d with
  | room + 1, .object members => do
    let entries ← members? members
    let entries ← entries.mapM fun e => (read room e.2).map fun v => (e.1, v)
    return SortedMap.ofList entries
  | _, _ => none

/-- What stands under a known key of a record; a repeated key is refused. -/
def field? (key : String) (members : List (String × Document)) : Option (Option Document) :=
  match members.filter fun e => e.1 == key with
  | [] => some none
  | [e] => some (some e.2)
  | _ => none

/-- The fields of a record given as an object or as an array, in the order of their keys: what is
written for each, if anything.  Unknown keys are passed over, and an array may end early but not be
longer than the record. -/
def fields (keys : List String) : Nat → Document → Option (Nat × List (Option Document)) :=
  fun room d =>
    match room, d with
    | room + 1, .object members => do
      let members ← members? members
      let found ← keys.mapM fun k => field? k members
      return (room, found)
    | room + 1, .array items =>
      if items.length ≤ keys.length then
        some (room, items.map some ++ List.replicate (keys.length - items.length) none)
      else none
    | _, _ => none

/-- A field of a record, or its default when nothing is written for it. -/
def withDefault {α : Type} (read : Reader α) (default : α) (room : Nat) :
    Option Document → Option α
  | none => some default
  | some d => read room d

/-- What a whole sequence of bytes is read as. -/
def run? {α : Type} (read : Reader α) (s : Bytes) : Option α :=
  (Document.read? s).bind (read greatestDepth)

end Reader

end CallChain.Json
