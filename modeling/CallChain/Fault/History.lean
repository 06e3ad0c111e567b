import CallChain.Fault.Registry
import CallChain.Json.Printer

/-!
# Faults with a history

A fault is a code with a description and the frames of the boundaries it crossed, oldest first.
Frames are only ever appended.  Wrapping a fault under another code keeps its description and its
history and adds one frame; anything that is no fault contributes its text as the description.
-/

set_option autoImplicit false

namespace CallChain

/-- A coded error with the frames of the boundaries it crossed. -/
structure Fault where
  /-- The code in force. -/
  coder : FaultCode
  /-- What happened, in words. -/
  description : String
  /-- The frames as texts, oldest first. -/
  stack : List String
  deriving DecidableEq

/-- What a fault can be made from. -/
inductive Cause where
  /-- A fault. -/
  | fault (f : Fault)
  /-- Any other error, of which only the text counts. -/
  | other (text : String)
  deriving DecidableEq

namespace Fault

def code (f : Fault) : Int := f.coder.code

def isCode (f : Fault) (code : Int) : Bool := f.code == code

/-- The HTTP status the code corresponds to. -/
def httpStatus (f : Fault) : Nat := f.coder.httpStatus

/-- The message of the code for a locale. -/
def message (f : Fault) (locale : String) : String := f.coder.message locale

/-- The message in English and the description. -/
def text (f : Fault) : String := f.message FaultCode.english ++ ":" ++ f.description

/-- A fault with one frame, where it was made. -/
def wrap (r : CodeRegistry) (site : CallSite) (code : Int) (description : String) : Fault :=
  let coder := r.lookup code
  ⟨coder, description, [(Frame.capture r.service coder.code site).render]⟩

/-- The fault with one more frame, its code kept. -/
def pushFrame (r : CodeRegistry) (site : CallSite) (f : Fault) : Fault :=
  { f with stack := f.stack ++ [(Frame.capture r.service f.coder.code site).render] }

/-- A cause under a code.  A fault keeps its description and history and gains a frame; anything else
starts a history of one frame. -/
def wrapCause (r : CodeRegistry) (site : CallSite) (code : Int) : Cause → Fault
  | .fault f => pushFrame r site { f with coder := r.lookup code }
  | .other text => wrap r site code text

/-- The fault with a history that was transmitted. -/
def ofStack (r : CodeRegistry) (code : Int) (description : String) (stack : List String) : Fault :=
  ⟨r.lookup code, description, stack⟩

/-- A cause as a fault without touching its history; what is no fault becomes unknown. -/
def ofCause (r : CodeRegistry) : Cause → Fault
  | .fault f => f
  | .other text => ⟨r.unknown, text, []⟩

/-- A cause as a fault with one more frame, its code kept. -/
def updateStack (r : CodeRegistry) (site : CallSite) (c : Cause) : Fault :=
  pushFrame r site (ofCause r c)

/-- The error of a result as a fault; a success passes through untouched. -/
def ofResult {α : Type} (r : CodeRegistry) : Except Cause α → Except Fault α
  | .ok a => .ok a
  | .error c => .error (ofCause r c)

/-- The frames of the history, read back. -/
def frames (f : Fault) : List Frame := f.stack.map Frame.parse

/-- The line that opens the frames of one service. -/
def serviceLine (f : Frame) : String :=
  "\n  [" ++ f.module ++ "@" ++ f.host ++ " pid " ++ f.pid ++ "]"

def frameLine (f : Frame) : String :=
  "\n    " ++ f.file ++ ":" ++ f.line ++ " " ++ f.function ++ " (code " ++ f.code ++ ")"

/-- The lines of frames in order, with a service line wherever the service differs from that of the
frame before. -/
def chainLines : Option Frame → List Frame → String
  | _, [] => ""
  | previous, f :: r =>
    let same := match previous with
      | some p => p.sameService f
      | none => false
    (if same then "" else serviceLine f) ++ frameLine f ++ chainLines (some f) r

/-- The fault and its history for display, consecutive frames of one service under one line. -/
def detail (f : Fault) : String :=
  "code: " ++ toString f.code ++ ", message: " ++ f.message FaultCode.english ++
    ", description: " ++ f.description ++ "\ncall chain:" ++ chainLines none f.frames

/-- Code, English message and description. -/
def basicJson (f : Fault) : Json :=
  .ofEntries
    [("code", .int f.code), ("message", .string (f.message FaultCode.english)),
      ("desc", .string f.description)]

/-- The basic form with every message, the HTTP status and the history. -/
def detailJson (f : Fault) : Json :=
  .ofEntries
    [("code", .int f.code), ("http", .nat f.httpStatus),
      ("message", .ofMap (f.coder.messages.mapValues .string)),
      ("desc", .string f.description), ("stack", .texts f.stack)]

end Fault

end CallChain
