import CallChain.Text.Split
import CallChain.Tls.Base64

/-!
# PEM

Binary data in a text: blocks in Base64 between an opening and a closing line, each with the label of
the block.  Lines outside of blocks are passed over, and so are blocks with a label that is not known.
A line ends at a line feed or a carriage return.
-/

set_option autoImplicit false

namespace CallChain.Pem

/-- What a block holds. -/
inductive Kind where
  | certificate
  | certificateRequest
  | revocationList
  | publicKey
  | privateKey
  | rsaPrivateKey
  | ecPrivateKey
  | helloSettings
  deriving DecidableEq, Repr

def Kind.ofLabel? (label : String) : Option Kind :=
  match label with
  | "CERTIFICATE" => some .certificate
  | "CERTIFICATE REQUEST" => some .certificateRequest
  | "X509 CRL" => some .revocationList
  | "PUBLIC KEY" => some .publicKey
  | "PRIVATE KEY" => some .privateKey
  | "RSA PRIVATE KEY" => some .rsaPrivateKey
  | "EC PRIVATE KEY" => some .ecPrivateKey
  | "ECHCONFIG" => some .helloSettings
  | _ => none

/-- A block of a known kind. -/
structure Block where
  kind : Kind
  content : Bytes
  deriving DecidableEq, Repr

/-- What every boundary begins and ends with. -/
def dashes : List Char := "-----".toList

def opening : List Char := "-----BEGIN ".toList

/-- What the closing line of a block with a label starts with. -/
def closing (label : List Char) : List Char := "-----END ".toList ++ label ++ dashes

/-- The label of an opening line.  Five dashes are at its end, and spaces may stand after and between
them. -/
def label? (line : List Char) : Option (List Char) :=
  let trailer := line.reverse.takeWhile fun c => c == '-' || c == ' '
  let spaces := (trailer.reverse.takeWhile (· == ' ')).length
  if trailer.count '-' = dashes.length then
    some ((line.take (line.length - trailer.length + spaces)).drop opening.length)
  else none

/-- How far a text is read. -/
structure Reading where
  /-- The label of the block that is open. -/
  label : Option (List Char)
  /-- The lines of it, backwards.  A block that opens inside another one takes them over. -/
  body : List (List Char)
  /-- The blocks that are closed, backwards. -/
  blocks : List Block

namespace Reading

def start : Reading := ⟨none, [], []⟩

def close (r : Reading) (label : List Char) : Option Reading :=
  match Kind.ofLabel? (String.ofList label) with
  | none => some ⟨none, [], r.blocks⟩
  | some kind => (Base64.decode? r.body.reverse.flatten).map fun content =>
      ⟨none, [], ⟨kind, content⟩ :: r.blocks⟩

def push (r : Reading) (line : List Char) : Option Reading :=
  if opening.isPrefixOf line then (label? line).map fun label => { r with label := some label }
  else
    match r.label with
    | none => some r
    | some label =>
      if (closing label).isPrefixOf line then r.close label
      else some { r with body := line :: r.body }

/-- The blocks of a text that is read to its end; none must be open. -/
def finish (r : Reading) : Option (List Block) :=
  match r.label with
  | none => some r.blocks.reverse
  | some _ => none

end Reading

def lines (s : String) : List (List Char) :=
  Text.splitAll '\n' (s.toList.map fun c => if c = '\r' then '\n' else c)

/-- The blocks of a text; nothing if a boundary or a block is damaged. -/
def blocks? (s : String) : Option (List Block) := do
  let reading ← (lines s).foldlM Reading.push .start
  reading.finish

/-- What the blocks of a kind hold. -/
def contents (kind : Kind) (blocks : List Block) : List Bytes :=
  (blocks.filter (·.kind == kind)).map Block.content

end CallChain.Pem
