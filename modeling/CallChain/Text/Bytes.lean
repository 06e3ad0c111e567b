/-!
# Bytes and the texts they hold

Bodies are sequences of bytes.  A text becomes its UTF-8 bytes, and bytes are read as a text exactly
when they are well-formed UTF-8, so reading what was written gives the text back.
-/

set_option autoImplicit false

namespace CallChain

/-- A sequence of bytes. -/
abbrev Bytes := List UInt8

namespace Bytes

/-- The UTF-8 bytes of a text. -/
def ofText (s : String) : Bytes := s.toByteArray.data.toList

/-- The text whose UTF-8 bytes these are, if there is one. -/
def text? (b : Bytes) : Option String := String.fromUTF8? ⟨b.toArray⟩

/-- Reading the bytes of a text gives the text. -/
@[simp] theorem text?_ofText (s : String) : text? (ofText s) = some s := by
  have h : ByteArray.mk (ofText s).toArray = s.toByteArray := by
    simp [ofText]
  rw [text?, h, String.fromUTF8?, dif_pos s.isValidUTF8]
  rfl

/-- A byte from its number, of which the low eight bits count. -/
def ofNat (n : Nat) : UInt8 := UInt8.ofNat n

def hexValue? (b : UInt8) : Option Nat :=
  let n := b.toNat
  if 0x30 ≤ n ∧ n ≤ 0x39 then some (n - 0x30)
  else if 0x61 ≤ n ∧ n ≤ 0x66 then some (n - 0x61 + 10)
  else if 0x41 ≤ n ∧ n ≤ 0x46 then some (n - 0x41 + 10)
  else none

/-- The digit that writes a number below sixteen, letters small. -/
def hexDigit (n : Nat) : Char :=
  if n < 10 then Char.ofNat (0x30 + n) else Char.ofNat (0x61 + (n - 10))

/-- The bytes written in a hexadecimal text, two digits a byte. -/
def ofHexDigits : List Char → Option Bytes
  | [] => some []
  | a :: b :: r => do
    let high ← hexValue? (UInt8.ofNat a.toNat)
    let low ← hexValue? (UInt8.ofNat b.toNat)
    let rest ← ofHexDigits r
    return ofNat (16 * high + low) :: rest
  | _ => none

/-- The bytes that a hexadecimal text writes, if it is one. -/
def ofHex? (s : String) : Option Bytes := ofHexDigits s.toList

/-- The hexadecimal text of bytes, two small digits a byte. -/
def toHex (b : Bytes) : String :=
  String.ofList (b.flatMap fun x => [hexDigit (x.toNat / 16), hexDigit (x.toNat % 16)])

end Bytes

end CallChain
