/-!
# Blank characters

The characters with the Unicode property White_Space, and trimming by them.  A text is blank when it
holds nothing else.
-/

set_option autoImplicit false

namespace CallChain.Text

/-- The code points with the property White_Space: five runs and a few single ones. -/
def isBlankChar (c : Char) : Bool :=
  let n := c.toNat
  (0x09 ≤ n && n ≤ 0x0D) || n == 0x20 || n == 0x85 || n == 0xA0 || n == 0x1680 ||
    (0x2000 ≤ n && n ≤ 0x200A) || n == 0x2028 || n == 0x2029 || n == 0x202F || n == 0x205F ||
    n == 0x3000

/-- A text without the blank characters at its two ends. -/
def trimChars (s : List Char) : List Char :=
  ((s.dropWhile isBlankChar).reverse.dropWhile isBlankChar).reverse

/-- A text without the blank characters at its two ends. -/
def trim (s : String) : String := String.ofList (trimChars s.toList)

/-- Whether a text is empty or holds blank characters only. -/
def isBlank (s : String) : Bool := s.toList.all isBlankChar

end CallChain.Text
