import CallChain.Decimal.Shortest
import CallChain.Json.Value
import CallChain.Text.Bytes

/-!
# Writing JSON

A value is written without spaces, the entries of an object in their order.  Strings escape the
quote, the backslash and the control characters below U+0020, nothing else, so escaping works byte by
byte.  A double is written by the fewest digits that read back, positionally from 0.00001 up to below
10^16 and with an exponent outside that range, and always shows that it is no whole number.
-/

set_option autoImplicit false

namespace CallChain.Json

/-- The choices a number format leaves open. -/
structure NumberFormat where
  /-- Numbers from `10 ^ least` on are written positionally. -/
  least : Int
  /-- Numbers from `10 ^ limit` on are not. -/
  limit : Int
  /-- What follows the mark of a nonnegative exponent. -/
  plus : String
  /-- What a whole number written positionally ends with. -/
  whole : String

/-- Positional from 0.00001 up to below 10^16; `1.0`, `1e+16`, `1e-7`. -/
def numberFormat : NumberFormat := ⟨-5, 16, "+", ".0"⟩

/-- A positive decimal number as a text. -/
def NumberFormat.render (f : NumberFormat) (d : Decimal) : String :=
  let digits := Nat.toDigits 10 d.digits
  let n := digits.length
  let lead : Int := d.exponent + n - 1
  if f.least ≤ lead ∧ lead < f.limit then
    if 0 ≤ d.exponent then
      String.ofList (digits ++ List.replicate d.exponent.toNat '0') ++ f.whole
    else if 0 ≤ lead then
      String.ofList (digits.take (lead.toNat + 1) ++ '.' :: digits.drop (lead.toNat + 1))
    else "0." ++ String.ofList (List.replicate ((-lead).toNat - 1) '0' ++ digits)
  else
    let exponent := if 0 ≤ lead then f.plus ++ toString lead.toNat else "-" ++ toString (-lead).toNat
    match digits with
    | [] => ""
    | [c] => String.singleton c ++ "e" ++ exponent
    | c :: r => String.singleton c ++ "." ++ String.ofList r ++ "e" ++ exponent

def doubleText (x : Binary64) : String :=
  let sign := if x.isNegative then "-" else ""
  let positive : Binary64 := ⟨x.magnitude⟩
  if positive.isZero then sign ++ "0" ++ numberFormat.whole
  else sign ++ numberFormat.render (Decimal.shortest positive)

/-- The bytes that write one byte of a string. -/
def escapeByte (b : UInt8) : Bytes :=
  if b == 0x22 then [0x5C, 0x22]
  else if b == 0x5C then [0x5C, 0x5C]
  else if b == 0x08 then Bytes.ofText "\\b"
  else if b == 0x0C then Bytes.ofText "\\f"
  else if b == 0x0A then Bytes.ofText "\\n"
  else if b == 0x0D then Bytes.ofText "\\r"
  else if b == 0x09 then Bytes.ofText "\\t"
  else if b < 0x20 then Bytes.ofText "\\u00" ++ Bytes.ofText (Bytes.toHex [b])
  else [b]

def writeString (s : String) : Bytes := 0x22 :: ((Bytes.ofText s).flatMap escapeByte ++ [0x22])

mutual

def write : Json → Bytes
  | .null => Bytes.ofText "null"
  | .bool true => Bytes.ofText "true"
  | .bool false => Bytes.ofText "false"
  | .int n => Bytes.ofText (toString n)
  | .double x => Bytes.ofText (doubleText x)
  | .string s => writeString s
  | .array items => Bytes.ofText "[" ++ writeItems items ++ Bytes.ofText "]"
  | .object entries => Bytes.ofText "\x7b" ++ writeEntries entries ++ Bytes.ofText "\x7d"

def writeItems : List Json → Bytes
  | [] => []
  | [v] => write v
  | v :: w :: r => write v ++ Bytes.ofText "," ++ writeItems (w :: r)

def writeEntries : List (String × Json) → Bytes
  | [] => []
  | [(k, v)] => writeString k ++ Bytes.ofText ":" ++ write v
  | (k, v) :: e :: r =>
    writeString k ++ Bytes.ofText ":" ++ write v ++ Bytes.ofText "," ++ writeEntries (e :: r)

end

def render (v : Json) : String := (Bytes.text? (write v)).getD ""

/-- Bytes as data: the text they hold, or their hexadecimal form under the key `hex`. -/
def ofBytes (b : Bytes) : Json :=
  match Bytes.text? b with
  | some s => .string s
  | none => .ofEntries [("hex", .string (Bytes.toHex b))]

end CallChain.Json
