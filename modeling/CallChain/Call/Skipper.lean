import CallChain.Text.AsciiCase

/-!
# Skippers

A skipper decides from method and target whether a stage stands aside for a call.  A stage with
several skippers stands aside when any of them matches.
-/

set_option autoImplicit false

namespace CallChain

/-- A predicate on method and target. -/
structure Skipper where
  skips : String → String → Bool

namespace Skipper

def startsWith (text start : String) : Bool := start.toList.isPrefixOf text.toList

/-- Skips targets that start with one of the given texts. -/
def targets (starts : List String) : Skipper :=
  ⟨fun _ target => starts.any fun p => startsWith target p⟩

/-- Skips every target but those that start with one of the given texts. -/
def targetsExcept (starts : List String) : Skipper :=
  ⟨fun _ target => !(starts.any fun p => startsWith target p)⟩

/-- Skips calls of the given methods, in whatever case. -/
def methods (names : List String) : Skipper :=
  ⟨fun method _ => names.any fun m => Text.sameIgnoringCase m method⟩

def any (skippers : List Skipper) (method target : String) : Bool :=
  skippers.any fun s => s.skips method target

end Skipper

end CallChain
