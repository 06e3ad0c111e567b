import CallChain.Text.Bytes

/-!
# Base64

Three bytes are written in four digits of six bits.  A text may have blanks anywhere.  Its last group
may have two or three digits, and may be filled up to four with the mark `=`.  Main statement: reading
what is written gives the bytes back (`decodeDigits_encodeDigits`).
-/

set_option autoImplicit false

namespace CallChain.Base64

def digit? (c : Char) : Option Nat :=
  if 'A' ≤ c ∧ c ≤ 'Z' then some (c.toNat - 0x41)
  else if 'a' ≤ c ∧ c ≤ 'z' then some (c.toNat - 0x61 + 26)
  else if '0' ≤ c ∧ c ≤ '9' then some (c.toNat - 0x30 + 52)
  else if c = '+' then some 62
  else if c = '/' then some 63
  else none

/-- The blanks that a text may have. -/
def isBlank (c : Char) : Bool := c == ' ' || c == '\t' || c == '\n' || c == '\r'

/-- The bytes of digits.  Bits beyond the last byte do not count. -/
def decodeDigits : List Nat → Option Bytes
  | [] => some []
  | [_] => none
  | [a, b] => some [Bytes.ofNat (4 * a + b / 16)]
  | [a, b, c] => some [Bytes.ofNat (4 * a + b / 16), Bytes.ofNat (b % 16 * 16 + c / 4)]
  | a :: b :: c :: d :: r => (decodeDigits r).map fun bytes =>
      Bytes.ofNat (4 * a + b / 16) :: Bytes.ofNat (b % 16 * 16 + c / 4) ::
        Bytes.ofNat (c % 4 * 64 + d) :: bytes

def encodeDigits : Bytes → List Nat
  | [] => []
  | [x] => [x.toNat / 4, x.toNat % 4 * 16]
  | [x, y] => [x.toNat / 4, x.toNat % 4 * 16 + y.toNat / 16, y.toNat % 16 * 4]
  | x :: y :: z :: r =>
    x.toNat / 4 :: (x.toNat % 4 * 16 + y.toNat / 16) :: (y.toNat % 16 * 4 + z.toNat / 64) ::
      z.toNat % 64 :: encodeDigits r

/-- Whether so many marks may fill up so many digits. -/
def mayFill (digits marks : Nat) : Bool :=
  marks == 0 || (marks ≤ 2 && (digits + marks) % 4 == 0)

def decode? (s : List Char) : Option Bytes :=
  let signs := s.filter fun c => !isBlank c
  let marks := signs.dropWhile (· != '=')
  let digits := signs.takeWhile (· != '=')
  if marks.all (· == '=') && mayFill digits.length marks.length then
    (digits.mapM digit?).bind decodeDigits
  else none

theorem ofNat_toNat (x : UInt8) : Bytes.ofNat x.toNat = x := by simp [Bytes.ofNat]

/-- Reading the digits of bytes gives the bytes. -/
theorem decodeDigits_encodeDigits (b : Bytes) : decodeDigits (encodeDigits b) = some b := by
  have high (x y : UInt8) : 4 * (x.toNat / 4) + (x.toNat % 4 * 16 + y.toNat / 16) / 16 = x.toNat := by
    have := y.toNat_lt
    omega
  have middle (x y z : UInt8) : (x.toNat % 4 * 16 + y.toNat / 16) % 16 * 16 +
      (y.toNat % 16 * 4 + z.toNat / 64) / 4 = y.toNat := by
    have := y.toNat_lt
    have := z.toNat_lt
    omega
  have low (y z : UInt8) : (y.toNat % 16 * 4 + z.toNat / 64) % 4 * 64 + z.toNat % 64 = z.toNat := by
    have := z.toNat_lt
    omega
  fun_induction encodeDigits b with
  | case1 => rfl
  | case2 x =>
    have h : 4 * (x.toNat / 4) + x.toNat % 4 * 16 / 16 = x.toNat := by omega
    rw [decodeDigits, h, ofNat_toNat]
  | case3 x y =>
    have h : (x.toNat % 4 * 16 + y.toNat / 16) % 16 * 16 + y.toNat % 16 * 4 / 4 = y.toNat := by
      have := y.toNat_lt
      omega
    rw [decodeDigits, high, h, ofNat_toNat, ofNat_toNat]
  | case4 x y z r ih =>
    rw [decodeDigits, ih, high, middle, low, ofNat_toNat, ofNat_toNat, ofNat_toNat]
    rfl

end CallChain.Base64
