import CallChain.Chain.Stage
import CallChain.Text.Split

/-!
# Request ids

Every call carries a request id in a header: that of its context, or one drawn for it.  Deeper stages
find it in their context.
-/

set_option autoImplicit false

namespace CallChain

namespace RequestId

def name : String := "requestid"

/-- The header that carries the request id. -/
def header : String := "x-request-id"

/-- Whether a character is a small hexadecimal digit. -/
def isDigit (c : Char) : Bool := c.isDigit || ('a' ≤ c && c ≤ 'f')

/-- Whether a text has the form of a random UUID in small letters. -/
def hasForm (s : String) : Bool :=
  match (Text.splitAll '-' s.toList) with
  | [a, b, version :: c, variant :: d, e] =>
    [a.length, b.length, c.length, d.length, e.length] = [8, 4, 3, 3, 12] &&
      version == '4' && "89ab".toList.contains variant && (a ++ b ++ c ++ d ++ e).all isDigit
  | _ => false

/-- Draws the next id of the source. -/
def draw : Work String :=
  Work.modifyGet fun w => (w.nextId, { w with idsDrawn := w.idsDrawn + 1 })

variable {ρ : Type}

def intercept (ctx : CallContext) (next : Next ρ) : Call ρ CallResult := do
  let id ← match ctx.requestId with
    | some id => pure id
    | none => Call.ofAttempt draw
  modify fun i => i.push (.setHeader header [id])
  next.run (ctx.withRequestId id)

/-- The stage for a client with the given skippers. -/
def stage (skippers : List Skipper) : Stage := .skippedBy skippers name intercept

end RequestId

end CallChain
