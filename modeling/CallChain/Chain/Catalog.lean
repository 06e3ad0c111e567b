import CallChain.Stages.AccessLog
import CallChain.Stages.CallSpan
import CallChain.Stages.CertificateGuard
import CallChain.Stages.Recovery
import CallChain.Stages.RequestId
import CallChain.Stages.StatusCodeGate
import CallChain.Stages.StatusVerdict

/-!
# The catalog of stages

Stages are known by name.  A catalog holds a maker for each name, which builds the stage for the
skippers of a client; a name is given once and for all.  Names without a maker are left out of a chain
with a warning.
-/

set_option autoImplicit false

namespace CallChain

/-- Builds a stage for the skippers of a client. -/
abbrev StageMaker := List Skipper → Stage

/-- The stages known by name. -/
structure Catalog where
  makers : SortedMap String StageMaker

namespace Catalog

def empty : Catalog := ⟨.empty⟩

/-- The stages of the library with their names. -/
def builtins : List (String × StageMaker) :=
  [(AccessLog.name, AccessLog.stage), (StatusVerdict.name, StatusVerdict.stage),
    (StatusCodeGate.name, StatusCodeGate.stage), (CertificateGuard.name, CertificateGuard.stage),
    (Recovery.name, Recovery.stage), (RequestId.name, RequestId.stage),
    (CallSpan.name, CallSpan.stage)]

/-- The catalog of the stages of the library. -/
def standard : Catalog := ⟨.ofList builtins⟩

/-- The catalog with one more maker; a name that is taken is refused. -/
def register (c : Catalog) (name : String) (maker : StageMaker) : Except ConfigError Catalog :=
  if c.makers.contains name then .error (.duplicateStage name)
  else .ok ⟨c.makers.insert name maker⟩

/-- The catalog with one more stage, the same for all skippers. -/
def registerStage (c : Catalog) (name : String) (stage : Stage) : Except ConfigError Catalog :=
  c.register name fun _ => stage

def contains (c : Catalog) (name : String) : Bool := c.makers.contains name

/-- The names, in order. -/
def names (c : Catalog) : List String := c.makers.keys

/-- The chain of a list of names, names without a maker left out. -/
def chainOf (c : Catalog) (names : List String) (skippers : List Skipper) : Chain :=
  names.filterMap fun n => (c.makers.get? n).map fun make => make skippers

/-- The warning that a name has no maker. -/
def unknownWarning (name : String) : LogRecord :=
  ⟨.warn, "unknown interceptor, skipped", [("interceptor", .string name)], none⟩

/-- The warnings that building a chain gives, in order. -/
def warnings (c : Catalog) (names : List String) : List LogRecord :=
  (names.filter fun n => !c.contains n).map unknownWarning

def describe (c : Catalog) : String :=
  Text.showRecord "InterceptorRegistry" [("names", Text.showList (c.names.map Text.quote))]

end Catalog

end CallChain
