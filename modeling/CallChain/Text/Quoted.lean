import CallChain.Text.Split
import CallChain.Text.Unprintable

/-!
# Texts in quotes

How values are shown for diagnosis: texts in double quotes with escapes, lists in brackets, records
by their fields.  A quote, a backslash and the usual controls are escaped by a backslash, and a
character that cannot be shown as itself is written by its number.
-/

set_option autoImplicit false

namespace CallChain.Text

/-- A character as it stands in a quoted text. -/
def quoteChar (c : Char) : List Char :=
  if c = '"' then ['\\', '"']
  else if c = '\\' then ['\\', '\\']
  else if c.toNat = 0 then ['\\', '0']
  else if c = '\t' then ['\\', 't']
  else if c = '\n' then ['\\', 'n']
  else if c = '\r' then ['\\', 'r']
  else if isUnprintable c then
    "\\u\x7b".toList ++ Nat.toDigits 16 c.toNat ++ ['\x7d']
  else [c]

def quote (s : String) : String := String.ofList ('"' :: (s.toList.flatMap quoteChar ++ ['"']))

def showList (items : List String) : String := "[" ++ joinWith ", " items ++ "]"

def showCall (name : String) (arguments : List String) : String :=
  name ++ "(" ++ joinWith ", " arguments ++ ")"

def showOption : Option String → String
  | none => "None"
  | some s => showCall "Some" [s]

def showFlag (b : Bool) : String := if b then "true" else "false"

def showRecord (name : String) (fields : List (String × String)) : String :=
  name ++ " \x7b " ++ joinWith ", " (fields.map fun f => f.1 ++ ": " ++ f.2) ++ " \x7d"

def showEntries (entries : List (String × String)) : String :=
  "\x7b" ++ joinWith ", " (entries.map fun e => e.1 ++ ": " ++ e.2) ++ "\x7d"

end CallChain.Text
