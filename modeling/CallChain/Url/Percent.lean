import CallChain.Text.Bytes

/-!
# Percent encoding

A character that may not stand in a part of a URL is written by its UTF-8 bytes, each as `%` and two
capital hexadecimal digits.  Every part has its own set of such characters; characters beyond ASCII
belong to all of them.
-/

set_option autoImplicit false

namespace CallChain

namespace Percent

/-- The characters that are written by their bytes in some part of a URL. -/
abbrev EncodeSet := Char → Bool

def control : EncodeSet := fun c => c.toNat < 0x20 || 0x7F ≤ c.toNat

def fragment : EncodeSet := fun c => control c || " \"<>`".toList.contains c

def path : EncodeSet := fun c => fragment c || "#?\x7b\x7d".toList.contains c

/-- The characters encoded in a name or password. -/
def userinfo : EncodeSet := fun c => path c || "/:;=@[\\]^|".toList.contains c

def query : EncodeSet := fun c => control c || " \"#<>".toList.contains c

/-- The characters encoded in a query of the schemes of the web. -/
def webQuery : EncodeSet := fun c => query c || c == '\''

/-- The capital hexadecimal digit of a number below sixteen. -/
def digit (n : Nat) : Char := if n < 10 then Char.ofNat (0x30 + n) else Char.ofNat (0x41 + (n - 10))

def encodeByte (b : UInt8) : List Char := ['%', digit (b.toNat / 16), digit (b.toNat % 16)]

/-- A character as it is written in a part of a URL. -/
def encodeChar (set : EncodeSet) (c : Char) : List Char :=
  if set c then (String.utf8EncodeChar c).flatMap encodeByte else [c]

/-- A text as it is written in a part of a URL. -/
def encode (set : EncodeSet) (s : List Char) : String := String.ofList (s.flatMap (encodeChar set))

/-- The bytes that percent-encoded bytes stand for; a `%` without two digits stands for itself. -/
def decode : Bytes → Bytes
  | a :: b :: c :: r =>
    if a = 0x25 then
      match Bytes.hexValue? b, Bytes.hexValue? c with
      | some high, some low => Bytes.ofNat (16 * high + low) :: decode r
      | _, _ => a :: decode (b :: c :: r)
    else a :: decode (b :: c :: r)
  | l => l

end Percent

end CallChain
