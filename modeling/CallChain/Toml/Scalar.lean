import CallChain.Decimal.Nearest
import CallChain.Toml.Quoted
import CallChain.Toml.Value

/-!
# Numbers, flags and moments

Digits may be grouped by single underscores, and a decimal number has no superfluous zeros in front.
A whole number fits 64 signed bits; a float is the nearest double and not beyond the greatest one,
unless it is written `inf`.  A moment is checked field by field and kept as it is written.
-/

set_option autoImplicit false

namespace CallChain.Toml.Scanner

/-- Digits in a base, an underscore allowed between two of them. -/
def groupedDigits (base : Nat) : Scanner (List Nat) := do
  let first ← digit base
  return first :: (← many (discard (optional (char '_')) *> digit base))

/-- Grouped decimal digits without superfluous zeros in front. -/
def wholePart : Scanner (List Nat) := do
  let digits ← groupedDigits 10
  if digits.head? = some 0 ∧ digits.length ≠ 1 then failure else return digits

/-- Whether a minus sign is read; a plus sign is read as well. -/
def sign : Scanner Bool := (char '-' *> return true) <|> (char '+' *> return false) <|> return false

/-- A whole number that fits 64 signed bits. -/
def boundedInteger (n : Int) : Scanner Toml :=
  if -(Int.pow 2 63) ≤ n ∧ n < Int.pow 2 63 then return .integer n else failure

/-- A whole number in a base that its first two characters tell. -/
def radixInteger : Scanner Toml := do
  let base ← (word "0x" *> return 16) <|> (word "0o" *> return 8) <|> (word "0b" *> return 2)
  boundedInteger (digitsValue base (← groupedDigits base))

/-- The digits after a point, none when there is no point. -/
def fraction : Scanner (List Nat) := do
  if (← peek?) = some '.' then char '.' *> groupedDigits 10 else return []

/-- The exponent of a float, if it has one. -/
def exponent : Scanner (Option Int) := do
  match ← optional (one fun c => c == 'e' || c == 'E') with
  | none => return none
  | some _ =>
    let down ← sign
    let n : Int := digitsValue 10 (← groupedDigits 10)
    return some (if down then -n else n)

def signedFloat (down : Bool) (x : Binary64) : Toml := .float (if down then x.negate else x)

/-- A decimal number, a float when it has a point or an exponent. -/
def decimal : Scanner Toml := do
  let down ← sign
  let whole ← wholePart
  let tenths ← fraction
  let power ← exponent
  if tenths = [] ∧ power = none then
    let n : Int := digitsValue 10 whole
    boundedInteger (if down then -n else n)
  else
    let x := Decimal.nearest ⟨digitsValue 10 (whole ++ tenths), power.getD 0 - tenths.length⟩
    if x.isInfinite ∧ !down then failure else return signedFloat down x

/-- A word that stands for no number. -/
def notANumber : Binary64 := ⟨Binary64.infinityWord + Nat.pow 2 51⟩

/-- An infinite float, or one that is no number. -/
def specialFloat : Scanner Toml := do
  let down ← sign
  (word "inf" *> return signedFloat down ⟨Binary64.infinityWord⟩) <|>
    (word "nan" *> return signedFloat down notANumber)

def truth : Scanner Toml :=
  (word "true" *> return .flag true) <|> (word "false" *> return .flag false)

/-! ## Moments -/

/-- So many decimal digits that write a number within bounds. -/
def field (count low high : Nat) : Scanner Unit := do
  let n := digitsValue 10 (← digitsExactly 10 count)
  if low ≤ n ∧ n ≤ high then return () else failure

/-- A date: year, month and day. -/
def date : Scanner Unit := do
  field 4 0 9999
  char '-'
  field 2 1 12
  char '-'
  field 2 1 31

/-- A time of the day, with or without a fraction of the second. -/
def clockTime : Scanner Unit := do
  field 2 0 23
  char ':'
  field 2 0 59
  char ':'
  field 2 0 60
  let _ ← optional (char '.' *> digit 10 *> many (digit 10))

/-- How far a clock is from universal time. -/
def clockOffset : Scanner Unit :=
  discard (one fun c => c == 'Z' || c == 'z') <|> do
    let _ ← one fun c => c == '+' || c == '-'
    field 2 0 23
    char ':'
    field 2 0 59

/-- A date with or without a time, or a time alone. -/
def moment : Scanner Toml :=
  .moment <$> written
    ((date *> discard (optional do
        let _ ← one fun c => c == 'T' || c == 't' || c == ' '
        clockTime
        optional clockOffset)) <|>
      clockTime)

def scalar : Scanner Toml :=
  .text <$> text <|> moment <|> radixInteger <|> decimal <|> specialFloat <|> truth

end CallChain.Toml.Scanner
