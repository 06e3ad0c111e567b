import CallChain.Json.Value
import CallChain.Text.Blank
import CallChain.Text.Path

/-!
# Frames

A frame says where a fault crossed a boundary: the service it happened in, the code in force, and the
place in the program.  Frames travel as one text of seven `key:value` segments with commas between
them and are read back for display, so their fields stay texts.  Reading passes over segments without
a colon and keys it does not know, and a later segment replaces an earlier one with the same key.
-/

set_option autoImplicit false

namespace CallChain

/-- A place in a program. -/
structure CallSite where
  /-- The file. -/
  file : String
  /-- The line. -/
  line : Nat
  /-- The enclosing function, empty when it is not known. -/
  function : String
  deriving DecidableEq, Repr

/-- The places in the library at which it captures a frame of its own. -/
inductive Place where
  /-- The access log lets a failure pass. -/
  | accessLog
  /-- The certificate guard refuses a call. -/
  | guardRefuses
  | guardPasses
  | gatePasses
  /-- The gate refuses the status of a response. -/
  | gateRefuses
  | gateDecodes
  | verdictPasses
  /-- The verdict passes on a fault of the remote service. -/
  | verdictReports
  | verdictViolated
  /-- Stands for the place of a panic that was not recorded. -/
  | panicUnseen
  | recovered
  | resolverFails
  | queryFails
  | processorFails
  /-- The call has to stop before the connection is there. -/
  | connectionLate
  | sendFails
  | decodeFails
  | bodyFails
  | dialFails
  /-- The handler of a call takes too long. -/
  | handlerTimeout
  | handlerLate
  | callFails
  deriving DecidableEq, Repr

/-- Where a program has the places of the library.  Frames of two places are never the same. -/
structure SiteMap where
  site : Place → CallSite
  distinct : ∀ p q, Text.shortPath (site p).file = Text.shortPath (site q).file →
    (site p).line = (site q).line → p = q

namespace SiteMap

/-- All places in one file, each on a line of its own. -/
def oneFile (file : String) : SiteMap where
  site p := ⟨file, p.ctorIdx + 1, ""⟩
  distinct p q _ hline := by
    rw [← Place.ofNat_ctorIdx p, Nat.succ.inj hline, Place.ofNat_ctorIdx]

end SiteMap

/-- The identity of a running service, stamped into every frame it makes. -/
structure ServiceIdentity where
  host : String
  pid : Nat
  module : String
  /-- Where the program that runs has the places of the library. -/
  sites : SiteMap

namespace ServiceIdentity

/-- The first of two host texts that is not blank, trimmed; `localhost` when both are. -/
def hostOf (environment file : Option String) : String :=
  match ([environment, file].filterMap fun h => h.map Text.trim).find? fun h => h != "" with
  | some h => h
  | none => "localhost"

/-- The identity with another host, trimmed; a blank host is ignored. -/
def withHost (s : ServiceIdentity) (host : String) : ServiceIdentity :=
  if Text.trim host == "" then s else { s with host := Text.trim host }

def toJson (s : ServiceIdentity) : Json :=
  .ofEntries [("host", .string s.host), ("pid", .nat s.pid), ("module", .string s.module)]

end ServiceIdentity

/-- One entry of a fault's history. -/
structure Frame where
  host : String
  pid : String
  module : String
  code : String
  file : String
  function : String
  line : String
  deriving DecidableEq, Repr

namespace Frame

/-- What marks the path of a closure, last character first. -/
def closureMarkReversed : List Char := "::\x7b\x7bclosure\x7d\x7d".toList.reverse

/-- A function path, last character first, without the closure marks it ends with. -/
def dropMarks (reversed : List Char) : List Char :=
  if closureMarkReversed.isPrefixOf reversed ∧ closureMarkReversed.length ≤ reversed.length then
    dropMarks (reversed.drop closureMarkReversed.length)
  else reversed
termination_by reversed.length
decreasing_by
  have : 0 < closureMarkReversed.length := by decide
  simp only [List.length_drop]
  omega

/-- A function path without the closure marks it ends with. -/
def trimClosure (function : String) : String :=
  String.ofList (dropMarks function.toList.reverse).reverse

/-- The frame of a code at a place, made by a service. -/
def capture (service : ServiceIdentity) (code : Int) (site : CallSite) : Frame :=
  { host := service.host
    pid := toString service.pid
    module := service.module
    code := toString code
    file := Text.shortPath site.file
    function := trimClosure site.function
    line := toString site.line }

def empty : Frame := ⟨"", "", "", "", "", "", ""⟩

/-- The frame with one segment's value put into the field of its key, if it has one. -/
def setField (f : Frame) (key : List Char) (value : String) : Frame :=
  match String.ofList (Text.trimChars key) with
  | "host" => { f with host := value }
  | "pid" => { f with pid := value }
  | "module" => { f with module := value }
  | "code" => { f with code := value }
  | "file" => { f with file := value }
  | "func" => { f with function := value }
  | "line" => { f with line := value }
  | _ => f

def readSegment (f : Frame) (segment : List Char) : Frame :=
  match Text.splitFirst ':' segment with
  | some (key, value) => f.setField key (String.ofList value)
  | none => f

def parse (raw : String) : Frame :=
  (Text.splitAll ',' raw.toList).foldl readSegment empty

def render (f : Frame) : String :=
  "host:" ++ f.host ++ ",pid:" ++ f.pid ++ ",module:" ++ f.module ++ ",code:" ++ f.code ++
    ",file:" ++ f.file ++ ",func:" ++ f.function ++ ",line:" ++ f.line

/-- Whether two frames were made by the same process. -/
def sameService (a b : Frame) : Bool :=
  a.host == b.host && a.pid == b.pid && a.module == b.module

def toJson (f : Frame) : Json :=
  .ofEntries
    [("host", .string f.host), ("pid", .string f.pid), ("module", .string f.module),
      ("code", .string f.code), ("file", .string f.file), ("function", .string f.function),
      ("line", .string f.line)]

end Frame

end CallChain
