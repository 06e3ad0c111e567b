import CallChain.Url.Percent

/-!
# Form encoding

A query carries pairs of texts: name and value with `=` between them, pairs with `&` between them.
Letters, digits and `*-._` stand for themselves, a space is written `+`, everything else by its bytes.
-/

set_option autoImplicit false

namespace CallChain

namespace Form

def isPlain (c : Char) : Bool := c.isAlphanum || "*-._".toList.contains c

def encodeChar (c : Char) : List Char :=
  if c = ' ' then ['+']
  else if isPlain c then [c]
  else (String.utf8EncodeChar c).flatMap Percent.encodeByte

def encode (s : String) : String := String.ofList (s.toList.flatMap encodeChar)

def encodePair (p : String × String) : String := encode p.1 ++ "=" ++ encode p.2

/-- A query with pairs added at its end. -/
def appendPairs (query : String) (pairs : List (String × String)) : String :=
  pairs.foldl (fun q p => (if q = "" then "" else q ++ "&") ++ encodePair p) query

/-- The bytes of one name or value that was written, `+` for a space. -/
def decodePart (s : Bytes) : Bytes := Percent.decode (s.map fun b => if b = 0x2B then 0x20 else b)

end Form

end CallChain
