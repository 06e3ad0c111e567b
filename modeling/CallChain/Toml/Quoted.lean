import CallChain.Toml.Scanner

/-!
# Quoted texts and keys

A text stands between double quotes, where a backslash starts an escape, or between single quotes,
where every character is itself.  Tripled quotes let it run over several lines: a line end right
after the opening is dropped, every other one reads as a line feed, and one or two quotes inside do
not close the text.
-/

set_option autoImplicit false

namespace CallChain.Toml.Scanner

/-- The value of a digit in a base up to sixteen. -/
def digitValue? (base : Nat) (c : Char) : Option Nat :=
  let n := c.toNat
  let v :=
    if '0' ≤ c ∧ c ≤ '9' then n - 0x30
    else if 'a' ≤ c ∧ c ≤ 'f' then n - 0x61 + 10
    else if 'A' ≤ c ∧ c ≤ 'F' then n - 0x41 + 10
    else base
  if v < base then some v else none

def digit (base : Nat) : Scanner Nat := fun s =>
  match s with
  | c :: r => (digitValue? base c).map fun d => (d, r)
  | [] => none

def digitsExactly (base : Nat) : Nat → Scanner (List Nat)
  | 0 => return []
  | n + 1 => return (← digit base) :: (← digitsExactly base n)

/-- The number that digits write in a base. -/
def digitsValue (base : Nat) (digits : List Nat) : Nat :=
  digits.foldl (fun acc d => acc * base + d) 0

/-- The character with the code point that hexadecimal digits write. -/
def codePoint (count : Nat) : Scanner Char := do
  let n := digitsValue 16 (← digitsExactly 16 count)
  if n.isValidChar then return Char.ofNat n else failure

/-- The character that an escape stands for. -/
def escape : Scanner Char := do
  char '\\'
  match ← one fun _ => true with
  | 'b' => return '\x08'
  | 'f' => return '\x0C'
  | 'n' => return '\n'
  | 'r' => return '\r'
  | 't' => return '\t'
  | '"' => return '"'
  | '\\' => return '\\'
  | 'u' => codePoint 4
  | 'U' => codePoint 8
  | _ => failure

/-- A character of a text between double quotes. -/
def doubleQuoted : Scanner Char := one (fun c => isVisible c && c != '"' && c != '\\') <|> escape

/-- A character of a text between single quotes. -/
def singleQuoted : Scanner Char := one fun c => isVisible c && c != '\''

def quotedLine (quote : Char) (item : Scanner Char) : Scanner String := do
  char quote
  let s ← many item
  char quote
  return String.ofList s

/-- A backslash at the end of a line, which drops all blanks and line ends up to the next
character. -/
def continuation : Scanner (List Char) := do
  char '\\'
  blanks
  newline
  let _ ← many (discard (one isBlank) <|> newline)
  return []

/-- One or two quotes that stand in a text and do not close it. -/
def innerQuotes (quote : Char) : Scanner (List Char) := do
  let quotes ← run (· == quote)
  if quotes.length = 1 ∨ quotes.length = 2 then return quotes else failure

/-- The three quotes that close a text, and up to two before them that belong to it. -/
def closingQuotes (quote : Char) : Scanner (List Char) := do
  let quotes ← run (· == quote)
  if 3 ≤ quotes.length ∧ quotes.length ≤ 5 then return quotes.drop 3 else failure

/-- A text that may run over several lines. -/
def quotedLines (quote : Char) (item : Scanner (List Char)) : Scanner String := do
  word (String.ofList [quote, quote, quote])
  let _ ← optional newline
  let body ← many (item <|> (newline *> return ['\n']) <|> innerQuotes quote)
  let last ← closingQuotes quote
  return String.ofList (body.flatten ++ last)

/-- A text between double quotes, on one line or several. -/
def doubleQuotedText : Scanner String :=
  quotedLines '"' (continuation <|> List.singleton <$> doubleQuoted) <|> quotedLine '"' doubleQuoted

/-- A text between single quotes, on one line or several. -/
def singleQuotedText : Scanner String :=
  quotedLines '\'' (List.singleton <$> singleQuoted) <|> quotedLine '\'' singleQuoted

def text : Scanner String := doubleQuotedText <|> singleQuotedText

/-! ## Keys -/

/-- The characters of a key that needs no quotes. -/
def isBare (c : Char) : Bool := c.isAlphanum || c == '-' || c == '_'

def bareKey : Scanner String := do
  let s ← run isBare
  if s.isEmpty then failure else return String.ofList s

def keyPart : Scanner String := do
  blanks
  let part ← quotedLine '"' doubleQuoted <|> quotedLine '\'' singleQuoted <|> bareKey
  blanks
  return part

/-- How many parts a key may have. -/
def greatestKeyLength : Nat := 127

/-- A key: the parts that lead to a table, and the last one. -/
def key : Scanner (List String × String) := do
  let first ← keyPart
  let parts := first :: (← many (char '.' *> keyPart))
  if parts.length ≤ greatestKeyLength then
    return (parts.dropLast, parts.getLast?.getD first)
  else failure

end CallChain.Toml.Scanner
