import CallChain.Toml.Scalar

/-!
# TOML documents

A document is a sequence of lines, each a header, a key with its value, or nothing but a comment.
The lines are folded into one tree, where every key goes to the table of the header before it.
Arrays and inline tables nest at most `greatestDepth` deep.
-/

set_option autoImplicit false

namespace CallChain.Toml

namespace Scanner

/-- How deep arrays and inline tables may nest. -/
def greatestDepth : Nat := 127

/-- An array, with or without a comma after its last item. -/
def array (item : Scanner Toml) : Scanner Toml := do
  char '['
  let items ← separated (char ',') (gap *> item <* gap)
  if !items.isEmpty then discard (optional (char ','))
  gap
  char ']'
  return .array items

/-- A key and a value on one line. -/
def pair (item : Scanner Toml) : Scanner ((List String × String) × Toml) := do
  let k ← key
  char '='
  blanks
  return (k, ← item)

def inlineTable (item : Scanner Toml) : Scanner Toml := do
  char '\x7b'
  let pairs ← separated (char ',') (pair item <* blanks)
  blanks
  char '\x7d'
  ofOption (pairs.foldlM (fun t p => t.addInline p.1.1 p.1.2 p.2) (.table .inline []))

/-- A value whose arrays and inline tables nest so deep at most. -/
def value : Nat → Scanner Toml
  | 0 => scalar
  | room + 1 => scalar <|> array (value room) <|> inlineTable (value room)

end Scanner

/-- One line that says something. -/
inductive Line where
  /-- A table starts. -/
  | header (key : List String × String)
  /-- One more table of several under one name starts. -/
  | next (key : List String × String)
  /-- A value under a key of the current table. -/
  | entry (pair : (List String × String) × Toml)

namespace Scanner

/-- One line that says something, or nothing for a line that does not. -/
def line : Scanner (Option Line) := do
  blanks
  match ← peek? with
  | some '#' => comment *> (newline <|> finished) *> return none
  | some '\n' => newline *> return none
  | some '\r' => newline *> return none
  | some '[' =>
    let doubled := word "[[" *> key <* word "]]" <* lineEnd
    let single := char '[' *> key <* char ']' <* lineEnd
    some <$> (Line.next <$> doubled <|> Line.header <$> single)
  | _ => (some ∘ Line.entry) <$> (pair (value greatestDepth) <* lineEnd)

/-- The lines of a document, which may start with a byte order mark. -/
def lines : Scanner (List Line) := do
  let _ ← optional (char '\uFEFF')
  let found ← many line
  blanks
  finished
  return found.filterMap id

end Scanner

/-- The tree after one more line, and the path of the table that is current then. -/
def addLine (state : Toml × List String) : Line → Option (Toml × List String)
  | .header (path, key) => (state.1.openTable path key).map (·, path ++ [key])
  | .next (path, key) => (state.1.openNext path key).map (·, path ++ [key])
  | .entry p =>
    (state.1.within .passage (·.addDotted p.1.1 p.1.2 p.2) state.2).map (·, state.2)

/-- The table that a text writes, if it is a document. -/
def parse? (s : String) : Option Toml := do
  let (found, _) ← Scanner.lines s.toList
  let (t, _) ← found.foldlM addLine (fresh, [])
  return t

end CallChain.Toml
