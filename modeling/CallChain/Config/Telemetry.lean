import CallChain.Config.Error
import CallChain.Json.Value
import CallChain.Toml.Document
import CallChain.Toml.Record

/-!
# Telemetry configurations

What is logged and in which form.  A subscriber is installed once; a second one is refused.
-/

set_option autoImplicit false

namespace CallChain

/-- What is logged and in which form. -/
structure TelemetryConfig where
  /-- The filter of what is logged. -/
  level : String
  /-- Whether each line is a JSON object. -/
  json : Bool
  /-- Whether the span of a call stands on each JSON line. -/
  callSpan : Bool
  /-- Whether the times of a span are logged when it closes. -/
  spanTiming : Bool
  deriving DecidableEq, Repr

namespace TelemetryConfig

/-- Lines of text from level `info` on. -/
def default : TelemetryConfig := ⟨"info", false, true, false⟩

def ofToml? (t : Toml) : Option TelemetryConfig :=
  if t.isRecord then do
    return ⟨← t.field? 0 "level" Toml.text? default.level,
      ← t.field? 1 "json" Toml.flag? default.json,
      ← t.field? 2 "call_span" Toml.flag? default.callSpan,
      ← t.field? 3 "span_timing" Toml.flag? default.spanTiming⟩
  else none

def parse (s : String) : Except ConfigError TelemetryConfig :=
  match (Toml.parse? s).bind ofToml? with
  | some c => .ok c
  | none => .error .malformed

/-- What is said when a subscriber is installed already. -/
def alreadyInstalled : String := "a global default trace dispatcher has already been set"

def toJson (c : TelemetryConfig) : Json :=
  .ofEntries
    [("level", .string c.level), ("json", .bool c.json), ("call_span", .bool c.callSpan),
      ("span_timing", .bool c.spanTiming)]

end TelemetryConfig

end CallChain
