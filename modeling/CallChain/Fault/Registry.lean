import CallChain.Fault.Code
import CallChain.Fault.Frame

/-!
# Registries of fault codes

A registry starts with the base table and takes further codes.  Registering the same code again
changes nothing; registering another meaning for a code that is taken is refused, and the unknown
code can never be replaced.  Every number resolves, to the unknown code if to nothing else.
-/

set_option autoImplicit false

namespace CallChain

/-- Why a code could not be registered. -/
inductive RegistryError where
  | duplicateCode (code : Int)
  | reserved (code : Int)
  deriving DecidableEq, Repr

namespace RegistryError

def message : RegistryError → String
  | .duplicateCode code =>
    "error code " ++ toString code ++ " is already registered with a different definition"
  | .reserved code => "error code " ++ toString code ++ " is reserved"

end RegistryError

/-- The fault codes one service knows, and its identity. -/
structure CodeRegistry where
  /-- What is registered, by number. -/
  codes : SortedMap Int FaultCode
  /-- The code that stands for every code that is not registered. -/
  unknown : FaultCode
  service : ServiceIdentity

namespace CodeRegistry

def baseCodes : SortedMap Int FaultCode :=
  SortedMap.ofList (Codes.baseTable.map fun c => (c.code, c))

/-- The code under the unknown number in a table: the last entry with this number, and a code without
messages if there is none. -/
def unknownIn (table : List FaultCode) : FaultCode :=
  table.foldl (fun u c => if c.code = Codes.unknown then c else u) ⟨Codes.unknown, 500, .empty⟩

/-- A registry that knows the base table only. -/
def new (service : ServiceIdentity) : CodeRegistry :=
  ⟨baseCodes, unknownIn Codes.baseTable, service⟩

/-- Where the program of the service has a place of the library. -/
def site (r : CodeRegistry) (p : Place) : CallSite := r.service.sites.site p

def successCode (_ : CodeRegistry) : Int := Codes.success

/-- The code under a number, the unknown code if there is none. -/
def lookup (r : CodeRegistry) (code : Int) : FaultCode := (r.codes.get? code).getD r.unknown

def isRegistered (r : CodeRegistry) (code : Int) : Bool := r.codes.contains code

def register (r : CodeRegistry) (c : FaultCode) : Except RegistryError CodeRegistry :=
  if c.code = Codes.unknown ∧ c ≠ r.unknown then .error (.reserved c.code)
  else
    match r.codes.get? c.code with
    | some present => if present = c then .ok r else .error (.duplicateCode c.code)
    | none => .ok { r with codes := r.codes.insert c.code c }

/-- Registers codes one after the other up to the first conflict, which is reported with the registry
as it was left. -/
def registerAll (r : CodeRegistry) : List FaultCode → CodeRegistry × Option RegistryError
  | [] => (r, none)
  | c :: cs =>
    match r.register c with
    | .ok r' => registerAll r' cs
    | .error e => (r, some e)

end CodeRegistry

end CallChain
